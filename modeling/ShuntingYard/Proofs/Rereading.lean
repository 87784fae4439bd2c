import ShuntingYard.Proofs.Conservation
import ShuntingYard.Proofs.Partition

/-! Reading back what was written. Tokens cut from a text are written as their texts, and cut from
    what was written again, as long as nothing between them is read and no two of them become one:

        tokens       2 x ^          2 3 *
        with " "     "2 x ^"        "2 3 *"
        with ""      "2x^"          "23*", which is read as 23 *

    So it is for tokens in any order, and for those in postfix order as well. -/

namespace ShuntingYard

variable {ts us : List Token} {t : Token} {table : FunctionTable} {source : Source}
variable {separator : String} {between : Option String}

/-! ### Canonical tokens -/

/-- Canonical tokens are what runs are recognised as. -/
theorem canonical_iff : Canonical table t ↔
    ∃ k text, Run k text.toList ∧ classify (some table) text = .ok t := by
  constructor
  · intro h
    obtain ⟨k, hk⟩ := h.run
    exact ⟨k, t.text, hk, h.classify⟩
  · rintro ⟨k, text, hrun, hclassify⟩
    obtain ⟨u, hu, rfl⟩ := hrun.exists_canonical table
    rw [hu.classify] at hclassify
    cases hclassify
    exact hu

theorem canonical_of_tokenize (h : (tokenize ⟨some table, between⟩ source).outcome = .ok ts) :
    ∀ t ∈ ts, Canonical table t :=
  fun t ht => canonical_iff.mpr (exists_run_of_mem h t ht)

theorem canonical_of_convert (hcanonical : ∀ t ∈ ts, Canonical table t)
    (h : convert ts = .ok us) : ∀ u ∈ us, Canonical table u :=
  fun u hu => hcanonical u (List.mem_filter.mp ((convert_perm h).subset hu)).1

/-! ### Tokens kept apart -/

instance (t u : Token) : Decidable (Clings t u) :=
  inferInstanceAs (Decidable (Merges t.text.toList u.text.toList))

/-- Joined token texts are a spelling, with the separator as the gaps, where it keeps them apart. -/
theorem spelling_intercalate (hignored : Ignored separator.toList) (ts : List Token) :
    ∀ (t : Token) {gap : List Char}, Ignored gap →
    (separator = "" → (t :: ts).IsChain fun t u => ¬ Clings t u) →
    Spelling (t :: ts) gap (separator.intercalate ((t :: ts).map Token.text)).toList := by
  induction ts with
  | nil =>
    intro t gap hgap _
    have hdone : Spelling [] [] [] := .done (by simp [Ignored])
    have htoken := hdone.token (t := t) hgap (by simp)
    simpa using htoken
  | cons u us ih =>
    intro t gap hgap hapart
    have hnext : ∀ v ∈ (u :: us).head?, Clings t v → separator.toList ≠ [] := by
      intro v hv hclings hempty
      have hchain := List.isChain_cons.mp (hapart (String.toList_eq_nil_iff.mp hempty))
      exact hchain.1 v hv hclings
    have htoken := (ih u hignored fun h => (List.isChain_cons.mp (hapart h)).2).token hgap hnext
    rw [List.map_cons, List.map_cons, String.intercalate_cons_cons, String.toList_append,
      String.toList_append, List.append_assoc]
    exact htoken

/-- Tokens that are kept apart are read back. -/
theorem tokenize_intercalate (hne : ts ≠ []) (hcanonical : ∀ t ∈ ts, Canonical table t)
    (hignored : Ignored separator.toList)
    (hapart : separator = "" → ts.IsChain fun t u => ¬ Clings t u) (between : Option String) :
    (tokenize ⟨some table, between⟩
      (.text (separator.intercalate (ts.map Token.text)))).outcome = .ok ts := by
  obtain ⟨t, us, rfl⟩ := List.exists_cons_of_ne_nil hne
  have hspelling : Spelling (t :: us) [] _ :=
    spelling_intercalate hignored us t (by simp [Ignored]) hapart
  exact tokenize_spelling between hne hspelling (List.nil_append _).symm hcanonical

/-! ### Tokens that become one -/

theorem length_extents (ls : List Lexeme) : (ls.flatMap Lexeme.extent).length =
    (ls.flatMap Lexeme.gap).length + (ls.flatMap Lexeme.run).length := by
  induction ls with
  | nil => rfl
  | cons l ls ih =>
    simp only [List.flatMap_cons, List.length_append, ih, Lexeme.extent]
    omega

/-- Where a cut takes up no more than its runs, it has no gaps. -/
theorem gap_eq_nil {s : Scan} (h : s.chars = s.lexemes.flatMap Lexeme.run) :
    ∀ l ∈ s.lexemes, l.gap = [] := by
  have hlength := congrArg List.length h
  rw [Scan.chars, List.length_append, length_extents] at hlength
  have hgaps : (s.lexemes.flatMap Lexeme.gap).length = 0 := by omega
  exact List.flatMap_eq_nil_iff.mp (List.length_eq_zero_iff.mp hgaps)

/-- The texts of lexemes are their runs. -/
theorem flatMap_run (ls : List Lexeme) :
    ls.flatMap Lexeme.run = (ls.map Lexeme.text).flatMap String.toList := by
  rw [List.flatMap_map]
  refine congrArg (List.flatMap · ls) (funext fun l => ?_)
  rw [l.toList_text]

/-- Texts with nothing between them are one after the other. -/
theorem toList_intercalate_empty : ∀ l : List String,
    ("".intercalate l).toList = l.flatMap String.toList
  | [] => by simp
  | [s] => by simp
  | s :: s' :: l => by
    rw [String.intercalate_cons_cons, String.toList_append, String.toList_append,
      toList_intercalate_empty (s' :: l), List.flatMap_cons]
    simp

/-- Tokens that are read back with nothing between them do not cling to each other. -/
theorem isChain_of_tokenize {text : String} (htext : text = "".intercalate (ts.map Token.text))
    (h : (tokenize ⟨some table, between⟩ (.text text)).outcome = .ok ts) :
    ts.IsChain fun t u => ¬ Clings t u := by
  have hne : text ≠ "" := by
    rintro rfl
    cases h
  obtain ⟨us, hus, -, htexts⟩ := tokenize_canonical hne table between
  obtain rfl : us = ts := Except.ok.inj (hus.symm.trans h)
  have hparts := Scan.parts_ofChars text.toList
  -- the runs alone make up the text, so that there is no gap between them
  have hwhole : (Scan.ofChars text.toList).chars =
      (Scan.ofChars text.toList).lexemes.flatMap Lexeme.run := by
    rw [hparts.whole, flatMap_run, htexts, htext, toList_intercalate_empty]
  have hlongest : (Scan.ofChars text.toList).lexemes.IsChain fun l m =>
      ¬ Merges l.text.toList m.text.toList := by
    refine hparts.longest.imp_of_mem_imp fun l m _ hm hlm => ?_
    have hruns := hlm (gap_eq_nil hwhole m hm)
    rwa [l.toList_text, m.toList_text]
  have htokens := (List.isChain_map Lexeme.text
    (R := fun s s' => ¬ Merges s.toList s'.toList)).mpr hlongest
  rw [htexts] at htokens
  exact (List.isChain_map Token.text).mp htokens

/-! ### Writing and reading back -/

/-- Tokens are read back from what they are written as with a separator in between. -/
def ReadBack (table : FunctionTable) (separator : String) (ts : List Token) : Prop :=
  ∃ text, render (some separator) ts = .ok text ∧
    ∀ between, (tokenize ⟨some table, between⟩ (.text text)).outcome = .ok ts

theorem readBack_iff (hne : ts ≠ []) (hcanonical : ∀ t ∈ ts, Canonical table t)
    (hignored : Ignored separator.toList) : ReadBack table separator ts ↔
      (separator = "" → ts.IsChain fun t u => ¬ Clings t u) := by
  constructor
  · rintro ⟨text, hrender, hread⟩ rfl
    exact isChain_of_tokenize (Except.ok.inj hrender).symm (hread none)
  · intro hapart
    exact ⟨_, rfl, tokenize_intercalate hne hcanonical hignored hapart⟩

/-- Canonical tokens, if there are any, are read back when a space is put between them. -/
theorem exists_text (hcanonical : ∀ t ∈ ts, Canonical table t) :
    ∃ text, ∀ between, (tokenize ⟨some table, between⟩ (.text text)).outcome = .ok ts := by
  cases ts with
  | nil => exact ⟨" ", fun between => rfl⟩
  | cons t ts =>
    have hspace : Ignored " ".toList := by decide
    exact ⟨_, tokenize_intercalate (List.cons_ne_nil t ts) hcanonical hspace
      (fun h => absurd h (by decide))⟩

/-- A text in postfix order is read back as the tokens it was written from. -/
theorem tokenize_toPostfix (htokens : (tokenize ⟨some table, some separator⟩ source).outcome = .ok ts)
    (hconvert : convert ts = .ok us) (hne : us ≠ []) (hignored : Ignored separator.toList)
    (hapart : separator = "" → us.IsChain fun t u => ¬ Clings t u) :
    ∃ out, (toPostfix ⟨some table, some separator⟩ source).outcome = .ok out ∧
      ∀ between, (tokenize ⟨some table, between⟩ (.text out)).outcome = .ok us := by
  have hcanonical := canonical_of_convert (canonical_of_tokenize htokens) hconvert
  refine ⟨separator.intercalate (us.map Token.text), ?_, ?_⟩
  · rw [outcome_toPostfix htokens rfl, hconvert]
    rfl
  · exact tokenize_intercalate hne hcanonical hignored hapart

/-- Writing tokens and cutting up a text undo each other, on the tokens that runs are recognised as.
    These are the tokens of texts, and reordering keeps to them. -/
theorem tokenize_render (table : FunctionTable) :
    (∀ t, Canonical table t ↔ ∃ k text, Run k text.toList ∧ classify (some table) text = .ok t) ∧
    (∀ between source ts, (tokenize ⟨some table, between⟩ source).outcome = .ok ts →
      ∀ t ∈ ts, Canonical table t) ∧
    (∀ ts, (∀ t ∈ ts, Canonical table t) →
      (∀ us, convert ts = .ok us → ∀ u ∈ us, Canonical table u) ∧
      (∃ text, ∀ between, (tokenize ⟨some table, between⟩ (.text text)).outcome = .ok ts) ∧
      (ts ≠ [] → ∀ separator, separator ≠ "" → Ignored separator.toList →
        ReadBack table separator ts) ∧
      (ts ≠ [] → (ReadBack table "" ts ↔ ts.IsChain fun t u => ¬ Clings t u))) ∧
    ∀ separator source ts us,
      (tokenize ⟨some table, some separator⟩ source).outcome = .ok ts → convert ts = .ok us →
      us ≠ [] → Ignored separator.toList →
      (separator = "" → us.IsChain fun t u => ¬ Clings t u) →
      ∃ out, (toPostfix ⟨some table, some separator⟩ source).outcome = .ok out ∧
        ∀ between, (tokenize ⟨some table, between⟩ (.text out)).outcome = .ok us := by
  refine ⟨fun t => canonical_iff, fun _ _ _ h => canonical_of_tokenize h, fun ts hts => ?_, ?_⟩
  · refine ⟨fun us h => canonical_of_convert hts h, exists_text hts, ?_, fun hne => ?_⟩
    · intro hne separator hseparator hignored
      exact (readBack_iff hne hts hignored).mpr fun h => absurd h hseparator
    · rw [readBack_iff hne hts (by decide)]
      exact ⟨fun h => h rfl, fun h _ => h⟩
  · exact fun _ _ _ _ htokens hconvert => tokenize_toPostfix htokens hconvert

/-- The postfix tokens of `2 * SIN(10)` need something between them, and `2 SIN *` do not. -/
theorem tokenize_render_numbers :
    let ts := [Token.number "2", .number "10", .function "SIN" 1, .operator "*"]
    let us := [Token.number "2", .function "SIN" 1, .operator "*"]
    (∀ t ∈ ts, Canonical .trigonometric t) ∧ (∀ u ∈ us, Canonical .trigonometric u) ∧
      ReadBack .trigonometric ", " ts ∧ ¬ ReadBack .trigonometric "" ts ∧
      ReadBack .trigonometric "" us := by
  intro ts us
  have hfunction : Canonical .trigonometric (.function "SIN" 1) :=
    .function (.inr (by decide)) (by decide)
  have htwo : Canonical .trigonometric (.number "2") := .number (by decide)
  have hts : ∀ t ∈ ts, Canonical .trigonometric t := by
    simp only [ts, List.forall_mem_cons, List.not_mem_nil, false_implies, implies_true, and_true]
    exact ⟨htwo, .number (by decide), hfunction, .operator .times⟩
  have hus : ∀ u ∈ us, Canonical .trigonometric u := by
    simp only [us, List.forall_mem_cons, List.not_mem_nil, false_implies, implies_true, and_true]
    exact ⟨htwo, hfunction, .operator .times⟩
  obtain ⟨-, -, hread, -⟩ := tokenize_render .trigonometric
  obtain ⟨-, -, hseparated, hempty⟩ := hread ts hts
  obtain ⟨-, -, -, hempty'⟩ := hread us hus
  refine ⟨hts, hus, hseparated (List.cons_ne_nil _ _) ", " (by decide) (by decide), ?_, ?_⟩
  · rw [hempty (List.cons_ne_nil _ _)]
    decide
  · rw [hempty' (List.cons_ne_nil _ _)]
    decide

end ShuntingYard
