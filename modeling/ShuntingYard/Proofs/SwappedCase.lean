import ShuntingYard.Proofs.Balance
import ShuntingYard.Proofs.Relabelling
import ShuntingYard.Proofs.Words

/-! Texts with small letters for capitals and capitals for small letters. Words begin and end where they
    did, and are looked up by the same lower-case form, so that all goes as before and comes out in
    the other case:

        2 SIN(x)y   ─▶   2 x SIN y
        2 sin(X)Y   ─▶   2 X sin Y

    Small letters throughout would not do: `xy` is one word, while `Xy` and `xY` are two. -/

namespace ShuntingYard

namespace Text

/-- A small letter for a capital and the other way round, of `A` to `Z` and `a` to `z`. -/
def swapChar (c : Char) : Char :=
  if c.isLower then c.toUpper else if c.isUpper then c.toLower else c

/-- A text in the other case. -/
def swapCase (text : String) : String := .ofList (text.toList.map swapChar)

end Text

/-- The kind of a character in the other case. -/
def CharClass.swapCase : CharClass → CharClass
  | .lower => .upper
  | .upper => .lower
  | k => k

/-- A lexeme in the other case. There is nothing to change in the gap. -/
def Lexeme.swapCase (l : Lexeme) : Lexeme :=
  ⟨l.gap, Text.swapChar l.first, l.more.map Text.swapChar⟩

def Scan.swapCase (s : Scan) : Scan := ⟨s.lexemes.map Lexeme.swapCase, s.tail⟩

/-- A token with its text in the other case. -/
def Token.swapCase : Token → Token
  | .number s => .number (Text.swapCase s)
  | .identifier s => .identifier (Text.swapCase s)
  | .function s arity => .function (Text.swapCase s) arity
  | .operator s => .operator (Text.swapCase s)
  | .leftParen s => .leftParen (Text.swapCase s)
  | .rightParen s => .rightParen (Text.swapCase s)
  | .plain s => .plain (Text.swapCase s)

variable {table : FunctionTable} {text word between : String} {t : Token} {ts us : List Token}
variable {cs : List Char} {c d : Char} {k : CharClass}

/-! ### Characters -/

namespace Text

theorem swapChar_of_not_alpha (h : c.isAlpha = false) : swapChar c = c := by
  obtain ⟨hupper, hlower⟩ := Bool.or_eq_false_iff.mp h
  rw [swapChar, hlower, hupper]
  rfl

/-- Only characters among the first 128 change. -/
theorem swapChar_of_le (h : 0x80 ≤ c.toNat) : swapChar c = c := by
  refine swapChar_of_not_alpha (Bool.or_eq_false_iff.mpr ⟨?_, ?_⟩)
  · refine Bool.eq_false_iff.mpr fun hupper => ?_
    have := toNat_of_isUpper hupper
    omega
  · refine Bool.eq_false_iff.mpr fun hlower => ?_
    have := toNat_of_isLower hlower
    omega

theorem swapChar_swapChar (c : Char) : swapChar (swapChar c) = c := by
  by_cases hc : c.toNat < 0x80
  · exact forall_lt (P := fun c => swapChar (swapChar c) = c) (by decide) hc
  · have hsame := swapChar_of_le (Nat.le_of_not_lt hc)
    rw [hsame, hsame]

theorem toLower_swapChar (hc : c.toNat < 0x80) : (swapChar c).toLower = c.toLower :=
  forall_lt (P := fun c => (swapChar c).toLower = c.toLower) (by decide) hc

theorem of?_swapChar (c : Char) :
    CharClass.of? (swapChar c) = (CharClass.of? c).map CharClass.swapCase := by
  by_cases hc : c.toNat < 0x80
  · exact forall_lt (P := fun c =>
      CharClass.of? (swapChar c) = (CharClass.of? c).map CharClass.swapCase) (by decide) hc
  · have hnone : CharClass.of? c = none := by
      cases hk : CharClass.of? c with
      | none => rfl
      | some k => exact absurd (lt_of_kind hk) hc
    rw [swapChar_of_le (Nat.le_of_not_lt hc), hnone]
    rfl

theorem swapChar_of_ignored (h : CharClass.of? c = none) : swapChar c = c := by
  unfold CharClass.of? at h
  split_ifs at h with hdigit hlower hupper hmark
  refine swapChar_of_not_alpha (Bool.or_eq_false_iff.mpr ⟨?_, ?_⟩)
  · simpa using hupper
  · simpa using hlower

theorem joins_swapChar (c d : Char) : joins (swapChar c) (swapChar d) = joins c d := by
  rw [joins, joins, of?_swapChar, of?_swapChar]
  cases CharClass.of? c with
  | none => cases CharClass.of? d <;> rfl
  | some k =>
    cases CharClass.of? d with
    | none => cases k <;> rfl
    | some k' => cases k <;> cases k' <;> rfl

theorem toList_swapCase (text : String) : (swapCase text).toList = text.toList.map swapChar :=
  String.toList_ofList

theorem swapCase_swapCase (text : String) : swapCase (swapCase text) = text := by
  rw [← String.toList_inj, toList_swapCase, toList_swapCase, List.map_map]
  exact (List.map_congr_left fun c _ => swapChar_swapChar c).trans (List.map_id _)

theorem swapCase_append (text text' : String) :
    swapCase (text ++ text') = swapCase text ++ swapCase text' := by
  rw [← String.toList_inj, toList_swapCase]
  simp [toList_swapCase]

theorem swapCase_intercalate (between : String) : ∀ l : List String,
    swapCase (between.intercalate l) = (swapCase between).intercalate (l.map swapCase)
  | [] => by simp [swapCase]
  | [s] => by simp
  | s :: s' :: l => by
    rw [String.intercalate_cons_cons, swapCase_append, swapCase_append,
      swapCase_intercalate between (s' :: l)]
    simp

/-- A text without letters is the same in the other case. -/
theorem swapCase_of_not_alpha (h : ∀ c ∈ text.toList, c.isAlpha = false) :
    swapCase text = text := by
  rw [← String.toList_inj, toList_swapCase]
  exact (List.map_congr_left fun c hc => swapChar_of_not_alpha (h c hc)).trans (List.map_id _)

end Text

/-! ### Lexemes and tokens -/

namespace Scan

theorem cons_swapChar (c : Char) (s : Scan) :
    s.swapCase.cons (Text.swapChar c) = (s.cons c).swapCase := by
  cases hc : CharClass.of? c with
  | none =>
    rw [Text.swapChar_of_ignored hc, cons_ignored hc, cons_ignored hc]
    obtain ⟨_ | ⟨l, ls⟩, tail⟩ := s <;> rfl
  | some k =>
    have hc' : CharClass.of? (Text.swapChar c) = some k.swapCase := by
      rw [Text.of?_swapChar, hc]
      rfl
    rw [cons_kind hc, cons_kind hc']
    obtain ⟨lexemes, tail⟩ := s
    match lexemes with
    | [] => rfl
    | ⟨g :: gap, d, more⟩ :: ls => rfl
    | ⟨[], d, more⟩ :: ls =>
      simp only [swapCase, take, List.map_cons, Lexeme.swapCase, Text.joins_swapChar]
      split <;> rfl

/-- A text in the other case is cut up in the same places. -/
theorem ofChars_swapChar (cs : List Char) :
    ofChars (cs.map Text.swapChar) = (ofChars cs).swapCase := by
  induction cs with
  | nil => rfl
  | cons c cs ih =>
    show cons (Text.swapChar c) (ofChars (cs.map Text.swapChar)) = (cons c (ofChars cs)).swapCase
    rw [ih, cons_swapChar]

end Scan

theorem Lexeme.text_swapCase (l : Lexeme) : l.swapCase.text = Text.swapCase l.text := by
  rw [← String.toList_inj, Text.toList_swapCase, toList_text, toList_text]
  rfl

theorem Token.text_swapCase (t : Token) : t.swapCase.text = Text.swapCase t.text := by
  cases t <;> rfl

theorem Run.swapCase (h : Run k word.toList) : Run k.swapCase (Text.swapCase word).toList := by
  rw [Text.toList_swapCase]
  refine ⟨by simpa using h.nonempty, List.forall_mem_map.mpr fun c hc => ?_, fun hk => ?_⟩
  · rw [Text.of?_swapChar, h.kind c hc]
    rfl
  · rw [List.length_map]
    exact h.single (by cases k <;> first | rfl | cases hk)

theorem IsWord.swapCase (h : IsWord word) : IsWord (Text.swapCase word) :=
  h.symm.imp Run.swapCase Run.swapCase

/-- A word is looked up in the same way in both cases. -/
theorem IsWord.lowercase_swapCase (h : IsWord word) :
    Text.lowercase (Text.swapCase word) = Text.lowercase word := by
  rw [← String.toList_inj, h.swapCase.toList_lowercase, h.toList_lowercase, Text.toList_swapCase,
    List.map_map]
  refine List.map_congr_left fun c hc => Text.toLower_swapChar ?_
  exact h.elim (fun h => lt_of_kind (h.kind c hc)) fun h => lt_of_kind (h.kind c hc)

theorem swapCase_operator (o : Operator) : Text.swapCase o.text = o.text := by
  cases o <;> decide

theorem Canonical.swapCase (h : Canonical table t) : Canonical table t.swapCase := by
  cases h with
  | number h => exact .number h.swapCase
  | identifier h harity =>
    rw [← h.lowercase_swapCase] at harity
    exact .identifier h.swapCase harity
  | function h harity =>
    rw [← h.lowercase_swapCase] at harity
    exact .function h.swapCase harity
  | operator o =>
    rw [Token.swapCase, swapCase_operator]
    exact .operator o
  | leftParen => exact .leftParen
  | rightParen => exact .rightParen

theorem alike_swapCase (t : Token) : Alike t t.swapCase := by
  cases t with
  | number s => exact .number s _
  | identifier s => exact .identifier s _
  | function s arity => exact .function s _ arity arity
  | leftParen s => exact .leftParen s _
  | rightParen s => exact .rightParen s _
  | plain s => exact .plain s _
  | operator s =>
    cases ho : Operator.ofText? s with
    | some o =>
      obtain rfl := Operator.ofText?_eq_some_iff.mp ho
      rw [Token.swapCase, swapCase_operator]
      exact .known rfl
    | none =>
      refine .unknown ho (Option.eq_none_iff_forall_ne_some.mpr fun o ho' => ?_)
      have hs : s = o.text := by
        rw [← Text.swapCase_swapCase s, Operator.ofText?_eq_some_iff.mp ho', swapCase_operator]
      rw [hs, Operator.ofText?_text] at ho
      cases ho

/-! ### Texts -/

/-- The tokens of a text in the other case, and what is logged of it, which is the same. -/
theorem exists_tokens_swapCase (hne : text ≠ "") (table : FunctionTable)
    (separator : Option String) :
    ∃ log ts, tokenize ⟨some table, separator⟩ (.text text) = ⟨log, .ok ts⟩ ∧
      tokenize ⟨some table, separator⟩ (.text (Text.swapCase text)) =
        ⟨log, .ok (ts.map Token.swapCase)⟩ ∧ Known ts := by
  obtain ⟨ts, htokens, hcanonical, htexts⟩ := tokenize_canonical hne table separator
  have hne' : Text.swapCase text ≠ "" := by
    intro hempty
    rw [← Text.swapCase_swapCase text, hempty] at hne
    exact hne rfl
  have hcut : (Scan.ofChars (Text.swapCase text).toList).lexemes =
      (Scan.ofChars text.toList).lexemes.map Lexeme.swapCase := by
    rw [Text.toList_swapCase, Scan.ofChars_swapChar]
    rfl
  have htexts' : ((Scan.ofChars text.toList).lexemes.map Lexeme.swapCase).map Lexeme.text =
      (ts.map Token.swapCase).map Token.text := by
    have hswapped := congrArg (List.map Text.swapCase) htexts
    simp only [List.map_map] at hswapped ⊢
    simpa [Function.comp_def, Lexeme.text_swapCase, Token.text_swapCase] using hswapped
  have htokens' : (tokenize ⟨some table, separator⟩ (.text (Text.swapCase text))).outcome =
      .ok (ts.map Token.swapCase) := by
    rw [outcome_tokenize, Source.read_text hne', Except.bind, hcut]
    have hcanonical' : ∀ t ∈ ts.map Token.swapCase, Canonical table t :=
      List.forall_mem_map.mpr fun t ht => (hcanonical t ht).swapCase
    exact mapM_eq_ok (map_classify htexts' hcanonical')
  have hlog : (tokenize ⟨some table, separator⟩ (.text (Text.swapCase text))).log =
      (tokenize ⟨some table, separator⟩ (.text text)).log := by
    rw [log_tokenize (Source.read_text hne') htokens', log_tokenize (Source.read_text hne) htokens,
      hcut, List.flatMap_map]
    rfl
  exact ⟨_, ts, Traced.ext rfl htokens, Traced.ext hlog htokens', Canonical.known hcanonical⟩

/-- Tokens with known operators are reordered in the same way in both cases. -/
theorem Known.convert_swapCase (h : Known ts) :
    convert (ts.map Token.swapCase) = (convert ts).map (List.map Token.swapCase) := by
  refine convert_map_of_operator alike_swapCase fun s hs => ?_
  obtain ⟨o, rfl⟩ := h s hs
  rw [Token.swapCase, swapCase_operator]

/-- Where the separator has no letters, all that is written is in the other case. -/
theorem render_swapCase {separator : Option String}
    (h : ∀ between ∈ separator, ∀ c ∈ between.toList, c.isAlpha = false) (us : List Token) :
    render separator (us.map Token.swapCase) = (render separator us).map Text.swapCase := by
  cases separator with
  | none => rfl
  | some between =>
    have htexts : (us.map Token.swapCase).map Token.text =
        (us.map Token.text).map Text.swapCase := by
      simp [Token.text_swapCase]
    rw [render, render, htexts, Except.map, Text.swapCase_intercalate,
      Text.swapCase_of_not_alpha (h between rfl)]

/-- A text in the other case has the tokens of the text in the other case, of the same kinds and
    arities. They are reordered in the same way, and so the postfix form is in the other case, or there
    is none for the same reason. What is logged is the same. -/
theorem toPostfix_swapCase (hne : text ≠ "") (table : FunctionTable) (separator : Option String) :
    let tokens (text : String) := tokenize ⟨some table, separator⟩ (.text text)
    let result (text : String) := toPostfix ⟨some table, separator⟩ (.text text)
    (∃ ts, (tokens text).outcome = .ok ts ∧
      convert (ts.map Token.swapCase) = (convert ts).map (List.map Token.swapCase)) ∧
    tokens (Text.swapCase text) = List.map Token.swapCase <$> tokens text ∧
    ((∀ between ∈ separator, ∀ c ∈ between.toList, c.isAlpha = false) →
      result (Text.swapCase text) = Text.swapCase <$> result text) := by
  intro tokens result
  obtain ⟨log, ts, htokens, htokens', hknown⟩ := exists_tokens_swapCase hne table separator
  have hconvert := hknown.convert_swapCase
  refine ⟨⟨ts, congrArg Traced.outcome htokens, hconvert⟩, ?_, fun hseparator => ?_⟩
  · rw [Traced.map_eq]
    simp only [tokens]
    rw [htokens, htokens']
    rfl
  · rw [Traced.map_eq]
    simp only [result]
    rw [toPostfix_of_tokens htokens, toPostfix_of_tokens htokens', hconvert]
    cases convert ts with
    | error e => rfl
    | ok us =>
      simp only [Except.map, List.length_map, render_swapCase hseparator]

/-- The operand of a function in capitals is attached as in small letters. -/
theorem toPostfix_swapCase_function :
    let settings : Settings := ⟨some .trigonometric, some ", "⟩
    let text := "2 sin(X)Y"
    text ≠ "" ∧ (∀ between ∈ some ", ", ∀ c ∈ between.toList, c.isAlpha = false) ∧
      Text.swapCase text = "2 SIN(x)y" ∧
      (tokenize settings (.text "2 SIN(x)y")).outcome = .ok [.number "2", .function "SIN" 1,
        .leftParen "(", .identifier "x", .rightParen ")", .identifier "y"] ∧
      (toPostfix settings (.text text)).outcome = .ok "2, X, sin, Y" ∧
      (toPostfix settings (.text "2 SIN(x)y")).outcome = .ok "2, x, SIN, y" := by
  intro settings text
  have hne : text ≠ "" := by decide
  have hseparator : ∀ between ∈ some ", ", ∀ c ∈ between.toList, c.isAlpha = false := by simp
  have hswapped : Text.swapCase text = "2 SIN(x)y" := by decide
  have hts : (tokenize settings (.text text)).outcome = .ok [.number "2", .function "sin" 1,
      .leftParen "(", .identifier "X", .rightParen ")", .identifier "Y"] := by
    decide +kernel
  have hresult : (toPostfix settings (.text text)).outcome = .ok "2, X, sin, Y" := by
    decide +kernel
  obtain ⟨-, htokens, hsame⟩ := toPostfix_swapCase hne .trigonometric (some ", ")
  have htokens' : tokenize settings (.text (Text.swapCase text)) =
      List.map Token.swapCase <$> tokenize settings (.text text) := htokens
  have hsame' : toPostfix settings (.text (Text.swapCase text)) =
      Text.swapCase <$> toPostfix settings (.text text) := hsame hseparator
  rw [hswapped, Traced.map_eq] at htokens' hsame'
  refine ⟨hne, hseparator, hswapped, ?_, hresult, ?_⟩
  · rw [htokens', hts]
    decide
  · rw [hsame', hresult]
    decide

end ShuntingYard
