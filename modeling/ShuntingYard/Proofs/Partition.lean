import ShuntingYard.Proofs.Spelling

/-! The parts of a text. A text falls into runs and into gaps of ignored characters around them, and
    in one way only if the runs are as long as they can be:

        text     2xY ^ 10;
        runs     2  x  Y  ^  10        each becomes the token it is recognised as
        gaps     "" "" "" " " " "      those that are not empty are logged, each before its token
        tail     ";"                   is not logged

    The parts are those of the tidy cut (`Scan.parts_iff`). -/

namespace ShuntingYard

variable {cs ds : List Char} {text : String} {table : FunctionTable}

/-- Runs of one kind, which next to each other would be one run. -/
def Merges (cs ds : List Char) : Prop := ∃ k : CharClass, k.runs = true ∧ Run k cs ∧ Run k ds

instance (cs ds : List Char) : Decidable (Merges cs ds) :=
  decidable_of_iff (∃ k ∈ [CharClass.digit, .lower, .upper, .mark],
    k.runs = true ∧ Run k cs ∧ Run k ds)
    ⟨fun ⟨k, _, h⟩ => ⟨k, h⟩, fun ⟨k, h⟩ => ⟨k, by cases k <;> decide, h⟩⟩

namespace Scan

/-- The lexemes of a cut are the longest runs of a text, and its gaps and tail are all else. -/
structure Parts (s : Scan) (cs : List Char) : Prop where
  whole : s.chars = cs
  gaps : ∀ l ∈ s.lexemes, Ignored l.gap
  tail : Ignored s.tail
  runs : ∀ l ∈ s.lexemes, ∃ k, Run k l.run
  longest : s.lexemes.IsChain fun l m => m.gap = [] → ¬ Merges l.run m.run

/-- Lexemes join when they would be one run. -/
theorem joins_iff_merges {l m : Lexeme} (hl : ∃ k, Run k l.run) (hm : ∃ k, Run k m.run) :
    joins l.first m.first = true ↔ Merges l.run m.run := by
  obtain ⟨k, hk⟩ := hl
  obtain ⟨k', hk'⟩ := hm
  constructor
  · intro hjoins
    obtain ⟨rfl, hruns⟩ := (hk.joins_first_iff hk').mp hjoins
    exact ⟨k', hruns, hk, hk'⟩
  · rintro ⟨j, hruns, hj, hj'⟩
    exact (hj.joins_first_iff hj').mpr ⟨rfl, hruns⟩

theorem apart_iff {l m : Lexeme} (hl : ∃ k, Run k l.run) (hm : ∃ k, Run k m.run) :
    l.Apart m ↔ (m.gap = [] → ¬ Merges l.run m.run) := by
  rw [Lexeme.Apart, joins_iff_merges hl hm]
  exact imp_not_comm

/-- The parts of a text are its tidy cut. -/
theorem parts_iff {s : Scan} : s.Parts cs ↔ s.chars = cs ∧ s.Tidy := by
  constructor
  · rintro ⟨hwhole, hgaps, htail, hruns, hlongest⟩
    refine ⟨hwhole, fun l hl => ⟨hgaps l hl, hruns l hl⟩, ?_, htail⟩
    exact hlongest.imp_of_mem_imp fun l m hl hm => (apart_iff (hruns l hl) (hruns m hm)).mpr
  · rintro ⟨hwhole, hlexemes, hapart, htail⟩
    have hruns : ∀ l ∈ s.lexemes, ∃ k, Run k l.run := fun l hl => (hlexemes l hl).run
    refine ⟨hwhole, fun l hl => (hlexemes l hl).gap, htail, hruns, ?_⟩
    exact hapart.imp_of_mem_imp fun l m hl hm => (apart_iff (hruns l hl) (hruns m hm)).mp

/-- The scan finds the parts of a text. -/
theorem parts_ofChars (cs : List Char) : (ofChars cs).Parts cs :=
  parts_iff.mpr ⟨chars_ofChars cs, tidy_ofChars cs⟩

/-- A text has its parts in one way only. -/
theorem Parts.eq_ofChars {s : Scan} (h : s.Parts cs) : s = ofChars cs := by
  obtain ⟨rfl, htidy⟩ := parts_iff.mp h
  exact (ofChars_chars htidy).symm

end Scan

/-- Each token of a text is what a run is recognised as. -/
theorem exists_run_of_mem {settings : Settings} {source : Source} {ts : List Token}
    (h : (tokenize settings source).outcome = .ok ts) :
    ∀ t ∈ ts, ∃ k text, Run k text.toList ∧ classify settings.functions text = .ok t := by
  intro t ht
  rw [outcome_tokenize] at h
  obtain ⟨text, -, h⟩ := exists_of_bind_eq_ok h
  obtain ⟨l, hl, hclassify⟩ := exists_of_mem_mapM h t ht
  obtain ⟨k, hk⟩ := Scan.exists_run hl
  exact ⟨k, l.text, hk, hclassify⟩

/-- What is logged on the way through lexemes are their gaps, but not the empty ones. -/
theorem flatMap_drops (ls : List Lexeme) : ls.flatMap Lexeme.drops =
    ((ls.map Lexeme.gap).filter (· ≠ [])).map fun gap => .dropped (.ofList gap) := by
  induction ls with
  | nil => rfl
  | cons l ls ih =>
    rw [List.flatMap_cons, ih, List.map_cons, Lexeme.drops]
    cases hgap : l.gap with
    | nil => simp
    | cons c gap => simp

/-- A text has its parts in exactly one way. Each run becomes the token it is recognised as, and each
    gap in front of a run is logged, unless it is empty. -/
theorem tokenize_parts (hne : text ≠ "") (table : FunctionTable) (separator : Option String) :
    ∃ s : Scan, s.Parts text.toList ∧ (∀ s' : Scan, s'.Parts text.toList → s' = s) ∧
      let traced := tokenize ⟨some table, separator⟩ (.text text)
      (∃ ts, traced.outcome = .ok ts ∧
        ts.map .ok = s.lexemes.map fun l => classify (some table) l.text) ∧
      traced.log.map (fun e => (e.level, e.message)) =
        ((s.lexemes.map Lexeme.gap).filter (· ≠ [])).map fun gap =>
          ("DEBUG", s!"dropped {Text.quoted (.ofList gap)}") := by
  have hparts := Scan.parts_ofChars text.toList
  obtain ⟨ts, htokens, hcanonical, htexts⟩ := tokenize_canonical hne table separator
  refine ⟨Scan.ofChars text.toList, hparts, fun s' hs' => hs'.eq_ofChars, ⟨ts, htokens, ?_⟩, ?_⟩
  · exact (map_classify htexts hcanonical).symm
  · rw [log_tokenize (Source.read_text hne) htokens, flatMap_drops, List.map_map]
    rfl

/-- A text with gaps of both sorts, and with neighbours of all kinds. -/
theorem tokenize_parts_mixed :
    let text := "2xY ^\t10é"
    let traced := tokenize ⟨some .trigonometric, none⟩ (.text text)
    let parts : Scan := ⟨[⟨[], '2', []⟩, ⟨[], 'x', []⟩, ⟨[], 'Y', []⟩, ⟨[' '], '^', []⟩,
      ⟨['\t'], '1', ['0']⟩], ['é']⟩
    text ≠ "" ∧ parts.Parts text.toList ∧ (∀ s : Scan, s.Parts text.toList → s = parts) ∧
      traced.outcome = .ok [.number "2", .identifier "x", .identifier "Y", .operator "^",
        .number "10"] ∧
      traced.log.map (fun e => (e.level, e.message)) =
        [("DEBUG", "dropped ' '"), ("DEBUG", "dropped '\\t'")] := by
  intro text traced parts
  have hne : text ≠ "" := by decide
  obtain ⟨s, hparts, hunique, ⟨ts, htokens, hclassify⟩, hlog⟩ :=
    tokenize_parts hne .trigonometric none
  obtain rfl : s = parts := hparts.eq_ofChars.trans (by decide)
  have hcanonical : ∀ t ∈ [Token.number "2", .identifier "x", .identifier "Y", .operator "^",
      .number "10"], Canonical .trigonometric t := by
    simp only [List.forall_mem_cons, List.not_mem_nil, false_implies, implies_true, and_true]
    exact ⟨.number (by decide), .identifier (.inl (by decide)) (by decide),
      .identifier (.inr (by decide)) (by decide), .operator .power, .number (by decide)⟩
  have hrecognised := hclassify.trans (map_classify (by decide) hcanonical)
  obtain rfl := List.map_injective_iff.mpr (fun _ _ => Except.ok.inj) hrecognised
  exact ⟨hne, hparts, hunique, htokens, hlog.trans (by decide)⟩

end ShuntingYard
