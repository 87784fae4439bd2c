import ShuntingYard.Proofs.Relabelling
import ShuntingYard.Proofs.Words

/-! Texts without a table of functions. Words are then looked up among the trigonometric functions,
    but none that is found there can be given an arity, so that the first one ends the work:

        text             2x ~SIN; cos(
        no table         fails at SIN, with " ~" logged, which is before it, but not "; "
        empty table      fails at the end, where a group is open

    A text with no such word is treated as under an empty table. -/

namespace ShuntingYard

variable {settings : Settings} {source : Source} {text word : String} {ts : List Token}

/-- A word that is the name of a trigonometric function, in any spelling. -/
def IsTrigonometric (word : String) : Prop :=
  IsWord word ∧ FunctionTable.trigonometric.contains (Text.lowercase word) = true

instance (word : String) : Decidable (IsTrigonometric word) :=
  inferInstanceAs (Decidable ((Run _ _ ∨ Run _ _) ∧ _))

/-! ### Words without a table -/

theorem IsTrigonometric.classify (h : IsTrigonometric word) :
    classify none word = .error .missingTable := by
  obtain ⟨hword, hname⟩ := h
  rw [hword.classify]
  exact if_pos hname

/-- Other words are variables, as under the empty table. -/
theorem classifyWord_none (hword : IsWord word) (h : ¬ IsTrigonometric word) :
    classifyWord none word = classifyWord (some .empty) word :=
  if_neg fun hname => h ⟨hword, hname⟩

theorem exists_classify_none (hrun : ∃ k, Run k word.toList) (h : ¬ IsTrigonometric word) :
    ∃ t, classify none word = .ok t := by
  obtain ⟨t, ht, rfl⟩ := hrun.elim fun k hk => hk.exists_canonical .empty
  exact ⟨t, (classify_congr ht.run fun hword => classifyWord_none hword h).trans ht.classify⟩

/-! ### Texts without a table -/

/-- Without such words there is no need of a table. -/
theorem tokenize_none (hne : text ≠ "") (h : ∀ word, HasWord text word → ¬ IsTrigonometric word)
    (separator : Option String) : tokenize ⟨none, separator⟩ (.text text) =
      tokenize ⟨some .empty, separator⟩ (.text text) :=
  tokenize_congr hne (fun word hword => classifyWord_none hword.isWord (h word hword)) separator

/-- The first such word ends the work on a text. -/
theorem exists_tokenize_none (hne : text ≠ "")
    (h : ∃ word, HasWord text word ∧ IsTrigonometric word) (separator : Option String) :
    ∃ ls l ms, (Scan.ofChars text.toList).lexemes = ls ++ l :: ms ∧ IsTrigonometric l.text ∧
      (∀ m ∈ ls, ¬ IsTrigonometric m.text) ∧ tokenize ⟨none, separator⟩ (.text text) =
        ⟨(ls ++ [l]).flatMap Lexeme.drops, .error .missingTable⟩ := by
  obtain ⟨word, hword, htrigonometric⟩ := h
  obtain ⟨l₀, hl₀, rfl⟩ := List.mem_map.mp hword.mem_pieces
  have hsome : ((Scan.ofChars text.toList).lexemes.find? fun l =>
      decide (IsTrigonometric l.text)).isSome = true :=
    List.find?_isSome.mpr ⟨l₀, hl₀, decide_eq_true htrigonometric⟩
  obtain ⟨l, hfind⟩ := Option.isSome_iff_exists.mp hsome
  obtain ⟨hl, ls, ms, hlexemes, hls⟩ := List.find?_eq_some_iff_append.mp hfind
  have hl' : IsTrigonometric l.text := of_decide_eq_true hl
  have hls' : ∀ m ∈ ls, ¬ IsTrigonometric m.text := fun m hm => by simpa using hls m hm
  refine ⟨ls, l, ms, hlexemes, hl', hls', ?_⟩
  have hfails : (l.toToken none).outcome = .error .missingTable := by
    rw [Lexeme.toToken_eq, hl'.classify]
  have hgoes : ∀ m ∈ ls, ∃ t, (m.toToken none).outcome = .ok t := by
    intro m hm
    have hmem : m ∈ (Scan.ofChars text.toList).lexemes := by simp [hlexemes, hm]
    rw [Lexeme.toToken_eq]
    exact exists_classify_none (Scan.exists_run hmem) (hls' m hm)
  rw [tokenize_text hne, hlexemes, Traced.mapM_of_error ms hfails hgoes]
  simp only [Lexeme.toToken_eq]

/-- Once there are tokens, no table is missed. -/
theorem toPostfix_ne_missingTable (h : (tokenize settings source).outcome = .ok ts) :
    (toPostfix settings source).outcome ≠ .error .missingTable := by
  rw [outcome_stages, h, Except.bind]
  intro hmissing
  rcases cases_of_bind_eq_error hmissing with hconvert | ⟨us, -, hrender⟩
  · rcases convert_failure hconvert with (hparens | hparens) | ⟨s, hs, -⟩
    · cases hparens
    · cases hparens
    · cases hs
  · unfold render at hrender
    split at hrender
    all_goals cases hrender

/-- Without a table, a text fails exactly if one of its words is the name of a trigonometric function,
    whatever else is wrong with it. It fails at the first such word, and the gaps up to there are
    logged. Any other text is treated as under the empty table. -/
theorem toPostfix_missingTable (hne : text ≠ "") (separator : Option String) :
    let tokens (functions : Option FunctionTable) := tokenize ⟨functions, separator⟩ (.text text)
    let result (functions : Option FunctionTable) := toPostfix ⟨functions, separator⟩ (.text text)
    let fails : Prop := ∃ word, HasWord text word ∧ IsTrigonometric word
    ((tokens none).outcome = .error .missingTable ↔ fails) ∧
    ((result none).outcome = .error .missingTable ↔ fails) ∧
    (fails → ∃ s : Scan, s.Parts text.toList ∧ (∀ s' : Scan, s'.Parts text.toList → s' = s) ∧
      ∃ ls l ms, s.lexemes = ls ++ l :: ms ∧ IsTrigonometric l.text ∧
        (∀ m ∈ ls, ¬ IsTrigonometric m.text) ∧ (result none).log = (tokens none).log ∧
        (tokens none).log.map (fun e => (e.level, e.message)) =
          (((ls ++ [l]).map Lexeme.gap).filter (· ≠ [])).map fun gap =>
            ("DEBUG", s!"dropped {Text.quoted (.ofList gap)}")) ∧
    (¬ fails → tokens none = tokens (some .empty) ∧ result none = result (some .empty) ∧
      ∃ ts, (tokens none).outcome = .ok ts) := by
  intro tokens result fails
  have hfails : fails → ∃ ls l ms, (Scan.ofChars text.toList).lexemes = ls ++ l :: ms ∧
      IsTrigonometric l.text ∧ (∀ m ∈ ls, ¬ IsTrigonometric m.text) ∧
      tokens none = ⟨(ls ++ [l]).flatMap Lexeme.drops, .error .missingTable⟩ :=
    fun h => exists_tokenize_none hne h separator
  have hsame : ¬ fails → tokens none = tokens (some .empty) := fun h =>
    tokenize_none hne (fun word hword htrigonometric => h ⟨word, hword, htrigonometric⟩) separator
  have hgoes : ¬ fails → ∃ ts, (tokens none).outcome = .ok ts := by
    intro h
    obtain ⟨ts, htokens, -⟩ := tokenize_canonical hne .empty separator
    exact ⟨ts, (congrArg Traced.outcome (hsame h)).trans htokens⟩
  refine ⟨⟨fun hmissing => ?_, fun h => ?_⟩, ⟨fun hmissing => ?_, fun h => ?_⟩, fun h => ?_,
    fun h => ⟨hsame h, toPostfix_congr (hsame h) rfl, hgoes h⟩⟩
  · by_contra h
    obtain ⟨ts, htokens⟩ := hgoes h
    rw [htokens] at hmissing
    cases hmissing
  · obtain ⟨ls, l, ms, -, -, -, htokens⟩ := hfails h
    rw [htokens]
  · by_contra h
    obtain ⟨ts, htokens⟩ := hgoes h
    exact toPostfix_ne_missingTable htokens hmissing
  · obtain ⟨ls, l, ms, -, -, -, htokens⟩ := hfails h
    simp only [result]
    rw [toPostfix_of_error htokens]
  · obtain ⟨ls, l, ms, hlexemes, hl, hls, htokens⟩ := hfails h
    refine ⟨Scan.ofChars text.toList, Scan.parts_ofChars text.toList, fun s' hs' => hs'.eq_ofChars,
      ls, l, ms, hlexemes, hl, hls, ?_, ?_⟩
    · simp only [result]
      rw [toPostfix_of_error htokens, htokens]
    · rw [htokens, flatMap_drops, List.map_map]
      rfl

/-- A trigonometric function is met before the group that stays open. Where letters are of both cases
    the words are shorter, and none is a name. -/
theorem toPostfix_missingTable_early :
    let settings (functions : Option FunctionTable) : Settings := ⟨functions, some " "⟩
    let text := "2x ~SIN; cos("
    let text' := "2x ~Sin; cOs)"
    text ≠ "" ∧ text' ≠ "" ∧ HasWord text "SIN" ∧ IsTrigonometric "SIN" ∧
      (tokenize (settings none) (.text text)).outcome = .error .missingTable ∧
      (toPostfix (settings none) (.text text)).outcome = .error .missingTable ∧
      (toPostfix (settings none) (.text text)).log.map (fun e => (e.level, e.message)) =
        [("DEBUG", "dropped ' ~'")] ∧
      (toPostfix (settings (some .empty)) (.text text)).outcome = .error .unmatchedOpen ∧
      (toPostfix (settings none) (.text text')).outcome = .error .unmatchedClose := by
  intro settings text text'
  have hne : text ≠ "" := by decide
  have hne' : text' ≠ "" := by decide
  have hword : HasWord text "SIN" := hasWord_iff.mpr ⟨.inr (by decide), by decide⟩
  have hname : IsTrigonometric "SIN" := by decide +kernel
  have hnone : ¬ ∃ word, HasWord text' word ∧ IsTrigonometric word := by
    rintro ⟨word, hword, htrigonometric⟩
    have hall : ∀ word ∈ pieces text', ¬ IsTrigonometric word := by decide +kernel
    exact hall word hword.mem_pieces htrigonometric
  obtain ⟨htokens, hresult, -, -⟩ := toPostfix_missingTable hne (some " ")
  obtain ⟨-, -, -, hempty⟩ := toPostfix_missingTable hne' (some " ")
  refine ⟨hne, hne', hword, hname, htokens.mpr ⟨_, hword, hname⟩, hresult.mpr ⟨_, hword, hname⟩,
    by decide +kernel, by decide +kernel, ?_⟩
  have hsame : toPostfix (settings none) (.text text') =
      toPostfix (settings (some .empty)) (.text text') := (hempty hnone).2.1
  rw [hsame]
  decide +kernel

end ShuntingYard
