import ShuntingYard.Proofs.Pipeline
import ShuntingYard.Proofs.Recognition

/-! Spellings of tokens as a text: ignored characters may stand anywhere between the tokens, and must
    where two tokens would else be read as one. Whatever the spelling, cutting the text up gives the
    tokens back (`tokenize_spelling`). -/

namespace ShuntingYard

variable {ts us : List Token} {t u : Token} {gap next cs : List Char} {table : FunctionTable}

/-- Two runs of the same kind, which would be one run without a gap between them. -/
def Clings (t u : Token) : Prop :=
  ∃ k : CharClass, k.runs = true ∧ Run k t.text.toList ∧ Run k u.text.toList

/-- Tokens spelled out as characters, a first `gap` and the rest. -/
inductive Spelling : List Token → List Char → List Char → Prop where
  | done {tail : List Char} : Ignored tail → Spelling [] tail []
  | token {t : Token} {ts : List Token} {gap next cs : List Char} : Ignored gap →
      (∀ u ∈ ts.head?, Clings t u → next ≠ []) → Spelling ts next cs →
      Spelling (t :: ts) gap (t.text.toList ++ (next ++ cs))

/-- The cut of a spelling: its lexemes are the tokens. -/
structure CutOf (ts : List Token) (gap cs : List Char) (s : Scan) : Prop where
  tidy : s.Tidy
  chars : s.chars = gap ++ cs
  texts : s.lexemes.map Lexeme.text = ts.map Token.text
  first : ∀ m ∈ s.lexemes.head?, m.gap = gap

/-- Where the first lexeme of a cut would join a run, the first token clings to it. -/
theorem CutOf.clings {s : Scan} (h : CutOf us next cs s) {k : CharClass} {first : Char}
    {more : List Char} (ht : t.text.toList = first :: more) (hk : Run k (first :: more)) :
    ∀ m ∈ s.lexemes.head?, joins first m.first = true → ∃ u ∈ us.head?, Clings t u := by
  intro m hm hjoins
  obtain ⟨u, hu, htext⟩ : ∃ u ∈ us.head?, u.text = m.text := by
    have hheads := congrArg List.head? h.texts
    rw [List.head?_map, List.head?_map, Option.mem_def.mp hm] at hheads
    simpa using hheads.symm
  obtain ⟨k', hk'⟩ := (h.tidy.lexemes m (List.mem_of_head? hm)).run
  obtain ⟨rfl, hruns⟩ := (hk.joins_first_iff hk').mp hjoins
  refine ⟨u, hu, k', hruns, ht ▸ hk, ?_⟩
  rw [htext, m.toList_text]
  exact hk'

theorem Spelling.exists_cut (h : Spelling ts gap cs) :
    (∀ t ∈ ts, ∃ k, Run k t.text.toList) → ∃ s, CutOf ts gap cs s := by
  induction h with
  | @done tail htail =>
    intro _
    refine ⟨⟨[], tail⟩, ⟨⟨by simp, .nil, htail⟩, ?_, rfl, by simp⟩⟩
    simp [Scan.chars]
  | @token t ts gap next cs hgap hnext _ ih =>
    intro hruns
    obtain ⟨⟨k, hk⟩, hruns⟩ := List.forall_mem_cons.mp hruns
    obtain ⟨s, hs⟩ := ih hruns
    obtain ⟨first, more, htext⟩ := List.exists_cons_of_ne_nil hk.nonempty
    rw [htext] at hk
    have hapart : ∀ m ∈ s.lexemes.head?, Lexeme.Apart ⟨gap, first, more⟩ m := by
      intro m hm hjoins
      obtain ⟨u, hu, hclings⟩ := hs.clings htext hk m hm hjoins
      rw [hs.first m hm]
      exact hnext u hu hclings
    refine ⟨⟨⟨gap, first, more⟩ :: s.lexemes, s.tail⟩, ⟨⟨?_, ?_, hs.tidy.tail⟩, ?_, ?_, by simp⟩⟩
    · exact List.forall_mem_cons.mpr ⟨⟨hgap, k, hk⟩, hs.tidy.lexemes⟩
    · exact List.isChain_cons.mpr ⟨hapart, hs.tidy.apart⟩
    · have hchars := hs.chars
      rw [Scan.chars] at hchars
      rw [Scan.chars, List.flatMap_cons, List.append_assoc, hchars, htext, Lexeme.extent,
        List.append_assoc]
      rfl
    · have htext' : Lexeme.text ⟨gap, first, more⟩ = t.text := by
        rw [Lexeme.text, Lexeme.run, ← htext, String.ofList_toList]
      rw [List.map_cons, List.map_cons, hs.texts, htext']

theorem Spelling.ne_nil (h : Spelling ts gap cs) (hne : ts ≠ [])
    (hruns : ∀ t ∈ ts, ∃ k, Run k t.text.toList) : cs ≠ [] := by
  cases h with
  | done => exact absurd rfl hne
  | @token t =>
    obtain ⟨k, hk⟩ := hruns t List.mem_cons_self
    exact List.append_ne_nil_of_left_ne_nil hk.nonempty _

/-! ### Tokens from texts -/

/-- Lexemes with the texts of canonical tokens are recognised as these tokens. -/
theorem map_classify {ls : List Lexeme} (htexts : ls.map Lexeme.text = ts.map Token.text)
    (hcanonical : ∀ t ∈ ts, Canonical table t) :
    ls.map (fun l => classify (some table) l.text) = ts.map .ok := by
  have hts : ts.map (fun t => classify (some table) t.text) = ts.map .ok :=
    List.map_congr_left fun t ht => (hcanonical t ht).classify
  have hmap := congrArg (List.map (classify (some table))) htexts
  rw [List.map_map, List.map_map] at hmap
  exact hmap.trans hts

/-- Whatever the spelling, its tokens are found. -/
theorem tokenize_spelling {text : String} (separator : Option String) (hne : ts ≠ [])
    (h : Spelling ts gap cs) (htext : text.toList = gap ++ cs)
    (hcanonical : ∀ t ∈ ts, Canonical table t) :
    (tokenize ⟨some table, separator⟩ (.text text)).outcome = .ok ts := by
  have hruns : ∀ t ∈ ts, ∃ k, Run k t.text.toList := fun t ht => (hcanonical t ht).run
  obtain ⟨s, hs⟩ := h.exists_cut hruns
  have hcut : Scan.ofChars text.toList = s := by
    rw [htext, ← hs.chars, Scan.ofChars_chars hs.tidy]
  have hread : (Source.text text).read = .ok text := by
    refine Source.read_text fun hempty => ?_
    rw [hempty] at htext
    obtain ⟨-, hcs⟩ := List.append_eq_nil_iff.mp htext.symm
    exact h.ne_nil hne hruns hcs
  rw [outcome_tokenize, hread, Except.bind, hcut]
  exact mapM_eq_ok (map_classify hs.texts hcanonical)

/-- Tidy lexemes are the texts of tokens. -/
theorem exists_tokens (table : FunctionTable) : ∀ {ls : List Lexeme}, (∀ l ∈ ls, l.Tidy) →
    ∃ ts : List Token, (∀ t ∈ ts, Canonical table t) ∧ ls.map Lexeme.text = ts.map Token.text
  | [], _ => ⟨[], by simp, rfl⟩
  | l :: ls, h => by
    obtain ⟨⟨_, k, hrun⟩, hls⟩ := List.forall_mem_cons.mp h
    have htext : Run k l.text.toList := by rwa [l.toList_text]
    obtain ⟨t, ht, heq⟩ := htext.exists_canonical table
    obtain ⟨ts, hts, hmap⟩ := exists_tokens table hls
    refine ⟨t :: ts, List.forall_mem_cons.mpr ⟨ht, hts⟩, ?_⟩
    rw [List.map_cons, hmap, List.map_cons, heq]

/-- Every text is cut up into tokens, those of its lexemes. -/
theorem tokenize_canonical {text : String} (hne : text ≠ "") (table : FunctionTable)
    (separator : Option String) :
    ∃ ts, (tokenize ⟨some table, separator⟩ (.text text)).outcome = .ok ts ∧
      (∀ t ∈ ts, Canonical table t) ∧
      (Scan.ofChars text.toList).lexemes.map Lexeme.text = ts.map Token.text := by
  obtain ⟨ts, hts, htexts⟩ := exists_tokens table (Scan.tidy_ofChars text.toList).lexemes
  refine ⟨ts, ?_, hts, htexts⟩
  rw [outcome_tokenize, Source.read_text hne]
  exact mapM_eq_ok (map_classify htexts hts)

end ShuntingYard
