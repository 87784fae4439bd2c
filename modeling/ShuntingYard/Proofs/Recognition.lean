import ShuntingYard.Classification
import ShuntingYard.Operator
import ShuntingYard.Proofs.Cutting

/-! What kind of token a run is. Characters that lexemes are made of are among the first 128, where
    digits and letters are what they are in lexemes. So a run is a number, a word or a mark by its
    kind, and the table is asked about words only. -/

namespace ShuntingYard

variable {c : Char} {k : CharClass} {text : String} {functions : Option FunctionTable}

/-! ### Characters of a kind -/

theorem kind_cases (hc : CharClass.of? c = some k) :
    (k = .digit ∧ c.isDigit = true) ∨ (k = .lower ∧ c.isDigit = false ∧ c.isLower = true) ∨
      (k = .upper ∧ c.isDigit = false ∧ c.isUpper = true) ∨
      (k = .mark ∧ c ∈ CharClass.marks) := by
  unfold CharClass.of? at hc
  split at hc
  · next h => simp_all
  split at hc
  · next h => simp_all
  split at hc
  · next h => simp_all
  split at hc
  · next h => simp_all
  · cases hc

theorem toNat_of_isDigit (h : c.isDigit = true) : 48 ≤ c.toNat ∧ c.toNat ≤ 57 :=
  Char.isDigit_iff_toNat.mp h

theorem toNat_of_isLower (h : c.isLower = true) : 97 ≤ c.toNat ∧ c.toNat ≤ 122 := by
  have hbounds : (decide ('a'.val ≤ c.val) && decide (c.val ≤ 'z'.val)) = true := h
  obtain ⟨hfirst, hlast⟩ := Bool.and_eq_true_iff.mp hbounds
  exact ⟨UInt32.le_iff_toNat_le.mp (of_decide_eq_true hfirst),
    UInt32.le_iff_toNat_le.mp (of_decide_eq_true hlast)⟩

theorem toNat_of_isUpper (h : c.isUpper = true) : 65 ≤ c.toNat ∧ c.toNat ≤ 90 := by
  have hbounds : 'A'.val ≤ c.val ∧ c.val ≤ 'Z'.val := of_decide_eq_true h
  exact ⟨UInt32.le_iff_toNat_le.mp hbounds.1, UInt32.le_iff_toNat_le.mp hbounds.2⟩

theorem lt_of_kind (hc : CharClass.of? c = some k) : c.toNat < 0x80 := by
  rcases kind_cases hc with ⟨_, h⟩ | ⟨_, _, h⟩ | ⟨_, _, h⟩ | ⟨_, h⟩
  · have := toNat_of_isDigit h
    omega
  · have := toNat_of_isLower h
    omega
  · have := toNat_of_isUpper h
    omega
  · have hmarks : CharClass.marks.all (fun c => c.toNat < 0x80) = true := by decide
    simpa using List.all_eq_true.mp hmarks c h

theorem isDigit_of_kind (hc : CharClass.of? c = some k) :
    Text.isDigit c = decide (k = .digit) := by
  rw [Text.isDigit_of_lt (lt_of_kind hc)]
  rcases kind_cases hc with ⟨rfl, h⟩ | ⟨rfl, h, _⟩ | ⟨rfl, h, _⟩ | ⟨rfl, h⟩
  iterate 3 simpa using h
  have hmarks : CharClass.marks.all (fun c => !c.isDigit) = true := by decide
  simpa using List.all_eq_true.mp hmarks c h

theorem isLetter_of_kind (hc : CharClass.of? c = some k) :
    Text.isLetter c = decide (k = .lower ∨ k = .upper) := by
  rw [Text.isLetter_of_lt (lt_of_kind hc)]
  show (c.isUpper || c.isLower) = _
  rcases kind_cases hc with ⟨rfl, h⟩ | ⟨rfl, _, h⟩ | ⟨rfl, _, h⟩ | ⟨rfl, h⟩
  · have hdigit := toNat_of_isDigit h
    have hlower : c.isLower = false := Bool.eq_false_iff.mpr fun h' => by
      have := toNat_of_isLower h'
      omega
    have hupper : c.isUpper = false := Bool.eq_false_iff.mpr fun h' => by
      have := toNat_of_isUpper h'
      omega
    simp [hlower, hupper]
  · simp [h]
  · simp [h]
  · have hmarks : CharClass.marks.all (fun c => !(c.isUpper || c.isLower)) = true := by decide
    simpa using List.all_eq_true.mp hmarks c h

/-! ### Runs -/

theorem Run.all_eq {cs : List Char} {p : Char → Bool} {b : Bool} (h : Run k cs)
    (hp : ∀ c, CharClass.of? c = some k → p c = b) : cs.all p = b := by
  obtain ⟨hne, hkind, _⟩ := h
  cases b with
  | true => exact List.all_eq_true.mpr fun c hc => hp c (hkind c hc)
  | false =>
    obtain ⟨c, rest, rfl⟩ := List.exists_cons_of_ne_nil hne
    rw [List.all_cons, hp c (hkind c List.mem_cons_self), Bool.false_and]

theorem Run.ne_empty (h : Run k text.toList) : text ≠ "" := by
  rintro rfl
  exact h.nonempty rfl

theorem Run.isNumeral (h : Run k text.toList) : Text.isNumeral text = decide (k = .digit) := by
  have hne : text.isEmpty = false := by simpa using h.ne_empty
  rw [Text.isNumeral, hne, h.all_eq fun c hc => isDigit_of_kind hc]
  rfl

theorem Run.isWord (h : Run k text.toList) :
    Text.isWord text = decide (k = .lower ∨ k = .upper) := by
  have hne : text.isEmpty = false := by simpa using h.ne_empty
  rw [Text.isWord, hne, h.all_eq fun c hc => isLetter_of_kind hc]
  rfl

/-- A run of letters, of one case. -/
def IsWord (text : String) : Prop := Run .lower text.toList ∨ Run .upper text.toList

theorem Run.classify_number (h : Run .digit text.toList) :
    classify functions text = .ok (.number text) := by
  rw [classify, h.isNumeral]
  rfl

theorem IsWord.classify (h : IsWord text) :
    classify functions text = classifyWord functions text := by
  rcases h with h | h
  all_goals
    rw [ShuntingYard.classify, h.isNumeral, h.isWord]
    rfl

theorem Run.classify_mark (h : Run .mark text.toList) : classify functions text =
    if text = "(" then .ok (.leftParen text) else if text = ")" then .ok (.rightParen text)
    else .ok (.operator text) := by
  rw [classify, h.isNumeral, h.isWord]
  rfl

/-! ### Tokens as they are cut from a text -/

/-- The tokens that a text can be cut up into, under a table of functions. -/
inductive Canonical (table : FunctionTable) : Token → Prop where
  | number {s : String} : Run .digit s.toList → Canonical table (.number s)
  | identifier {s : String} : IsWord s → table.arity? (Text.lowercase s) = none →
      Canonical table (.identifier s)
  | function {s : String} {arity : Int} : IsWord s → table.arity? (Text.lowercase s) = some arity →
      Canonical table (.function s arity)
  | operator (o : Operator) : Canonical table (.operator o.text)
  | leftParen : Canonical table (.leftParen "(")
  | rightParen : Canonical table (.rightParen ")")

variable {table : FunctionTable} {t : Token}

theorem run_operator (o : Operator) : Run .mark o.text.toList := by
  cases o <;> decide

theorem run_leftParen : Run .mark "(".toList := by decide

theorem run_rightParen : Run .mark ")".toList := by decide

theorem Canonical.run (h : Canonical table t) : ∃ k, Run k t.text.toList := by
  cases h with
  | number h => exact ⟨_, h⟩
  | identifier h _ => exact h.elim (⟨_, ·⟩) (⟨_, ·⟩)
  | function h _ => exact h.elim (⟨_, ·⟩) (⟨_, ·⟩)
  | operator o => exact ⟨_, run_operator o⟩
  | leftParen => exact ⟨_, run_leftParen⟩
  | rightParen => exact ⟨_, run_rightParen⟩

/-- A canonical token is what its text is recognised as. -/
theorem Canonical.classify (h : Canonical table t) : classify (some table) t.text = .ok t := by
  cases h with
  | number h => exact h.classify_number
  | identifier h hname => rw [Token.text, h.classify, classifyWord, hname]
  | function h hname => rw [Token.text, h.classify, classifyWord, hname]
  | operator o =>
    rw [Token.text, (run_operator o).classify_mark]
    cases o <;> rfl
  | leftParen => exact run_leftParen.classify_mark
  | rightParen => exact run_rightParen.classify_mark

/-- A mark is a parenthesis or the text of an operator. -/
theorem Run.mark_cases (h : Run .mark text.toList) :
    text = "(" ∨ text = ")" ∨ ∃ o : Operator, text = o.text := by
  obtain ⟨c, hc⟩ := List.length_eq_one_iff.mp (h.single rfl)
  have hmark : CharClass.of? c = some .mark := h.kind c (by simp [hc])
  have hmem : c ∈ CharClass.marks := by
    rcases kind_cases hmark with ⟨hk, -⟩ | ⟨hk, -⟩ | ⟨hk, -⟩ | ⟨-, hmem⟩
    iterate 3 cases hk
    exact hmem
  have htext : text = String.ofList [c] := by rw [← hc, String.ofList_toList]
  simp only [CharClass.marks, List.mem_cons, List.not_mem_nil, or_false] at hmem
  rcases hmem with rfl | rfl | rfl | rfl | rfl | rfl | rfl
  · exact .inr (.inr ⟨.plus, htext⟩)
  · exact .inr (.inr ⟨.minus, htext⟩)
  · exact .inr (.inr ⟨.times, htext⟩)
  · exact .inr (.inr ⟨.over, htext⟩)
  · exact .inr (.inr ⟨.power, htext⟩)
  · exact .inl htext
  · exact .inr (.inl htext)

/-- Every run is recognised as a token of that text. -/
theorem Run.exists_canonical (h : Run k text.toList) (table : FunctionTable) :
    ∃ t, Canonical table t ∧ t.text = text := by
  have hword : IsWord text → ∃ t, Canonical table t ∧ t.text = text := by
    intro hword
    cases harity : table.arity? (Text.lowercase text) with
    | none => exact ⟨_, .identifier hword harity, rfl⟩
    | some arity => exact ⟨_, .function hword harity, rfl⟩
  cases k with
  | digit => exact ⟨_, .number h, rfl⟩
  | lower => exact hword (.inl h)
  | upper => exact hword (.inr h)
  | mark =>
    rcases h.mark_cases with rfl | rfl | ⟨o, rfl⟩
    · exact ⟨_, .leftParen, rfl⟩
    · exact ⟨_, .rightParen, rfl⟩
    · exact ⟨_, .operator o, rfl⟩

end ShuntingYard
