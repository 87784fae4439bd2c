import ShuntingYard.Proofs.Rereading
import ShuntingYard.Proofs.Writing

/-! From text to text. The postfix text of an expression does not depend on how the expression is
    written and spelled, and it tells the expression: cut up again, it gives the postfix form, which
    belongs to one tree. -/

namespace ShuntingYard

variable {table : FunctionTable} {text separator : String} {e : Expression} {ts : List Token}

/-- A text stands for an expression: it spells a writing of it, with the tokens of the table. -/
def Denotes (table : FunctionTable) (text : String) (e : Expression) : Prop :=
  ∃ ending ts gap cs, Written .sum ending ts e ∧ (∀ t ∈ ts, Canonical table t) ∧
    Spelling ts gap cs ∧ text.toList = gap ++ cs

theorem Expression.postorder_ne_nil : ∀ e : Expression, e.postorder ≠ []
  | .number _ | .identifier _ | .binary _ _ _ | .application _ _ _ => by simp [postorder]

/-- The text that an expression is put into, whatever the text that it was read from. -/
theorem Denotes.toPostfix_eq (h : Denotes table text e) (separator : String) :
    (toPostfix ⟨some table, some separator⟩ (.text text)).outcome =
      .ok (separator.intercalate (e.postorder.map Token.text)) := by
  obtain ⟨ending, ts, gap, cs, hwritten, hcanonical, hspelling, htext⟩ := h
  have hne : ts ≠ [] := List.ne_nil_of_mem <|
    hwritten.postorder_subset (List.getLast_mem e.postorder_ne_nil)
  have htokens := tokenize_spelling (some separator) hne hspelling htext hcanonical
  have hconvert := (hwritten.reads Yard.empty (ready_empty .sum ts)).convert_eq
  rw [outcome_toPostfix htokens rfl, hconvert]
  rfl

/-- And what is read back from that text. -/
theorem Denotes.tokenize_eq (h : Denotes table text e) (hne : separator ≠ "")
    (hignored : Ignored separator.toList) (between : Option String) :
    (tokenize ⟨some table, between⟩
      (.text (separator.intercalate (e.postorder.map Token.text)))).outcome = .ok e.postorder := by
  obtain ⟨ending, ts, gap, cs, hwritten, hcanonical, -, -⟩ := h
  exact tokenize_intercalate e.postorder_ne_nil
    (fun t ht => hcanonical t (hwritten.postorder_subset ht)) hignored (fun h => absurd h hne) between

/-- The postfix text encodes the expression. Each text that stands for an expression has one; reading
    it gives the postfix form of the expression; and texts have it in common exactly when they stand
    for the same expression. -/
theorem toPostfix_encodes (hne : separator ≠ "") (hignored : Ignored separator.toList)
    (h : Denotes table text e) :
    ∃ out, (toPostfix ⟨some table, some separator⟩ (.text text)).outcome = .ok out ∧
      (tokenize ⟨some table, some separator⟩ (.text out)).outcome = .ok e.postorder ∧
      ∀ text' e', Denotes table text' e' →
        ((toPostfix ⟨some table, some separator⟩ (.text text')).outcome = .ok out ↔ e' = e) := by
  refine ⟨_, h.toPostfix_eq separator, h.tokenize_eq hne hignored _, fun text' e' h' => ?_⟩
  constructor
  · intro hout
    rw [h'.toPostfix_eq separator] at hout
    have hread := h'.tokenize_eq hne hignored (some separator)
    rw [Except.ok.inj hout, h.tokenize_eq hne hignored] at hread
    exact Expression.postorder_injective (Except.ok.inj hread).symm
  · rintro rfl
    exact h'.toPostfix_eq separator

/-- `2 * SIN ( x ) ^ y` is one of those texts. -/
theorem toPostfix_encodes_product :
    let e : Expression := .binary .times (.number "2")
      (.binary .power (.application "SIN" 1 (.identifier "x")) (.identifier "y"))
    let settings : Settings := ⟨some .trigonometric, some " "⟩
    (" " ≠ "" ∧ Ignored " ".toList) ∧ Denotes .trigonometric "2 * SIN ( x ) ^ y" e ∧
      ∃ out, (toPostfix settings (.text "2 * SIN ( x ) ^ y")).outcome = .ok out ∧
        (tokenize settings (.text out)).outcome = .ok e.postorder ∧
        ∀ text' e', Denotes .trigonometric text' e' →
          ((toPostfix settings (.text text')).outcome = .ok out ↔ e' = e) := by
  intro e settings
  have hne : " " ≠ "" := by decide
  have hspace : Ignored " ".toList := by decide
  have happlication : Written .atom .closed _ _ :=
    .application "SIN" 1 "(" ")" (.ofProduct (.ofPower (.ofAtom (.identifier "x"))))
  have hwritten : Written .sum .closed _ e :=
    .ofProduct (.product (o := .times) (.inl rfl) (.ofPower (.ofAtom (.number "2")))
      (.power happlication (.ofAtom (.identifier "y"))))
  have hfunction : Canonical .trigonometric (.function "SIN" 1) :=
    .function (.inr (by decide)) (by decide)
  have hcanonical : ∀ t ∈ [.number "2", .operator "*", .function "SIN" 1, .leftParen "(",
      .identifier "x", .rightParen ")", .operator "^", .identifier "y"],
      Canonical .trigonometric t := by
    simp only [List.forall_mem_cons, List.not_mem_nil, false_implies, implies_true, and_true]
    exact ⟨.number (by decide), .operator .times, hfunction, .leftParen,
      .identifier (.inl (by decide)) (by decide), .rightParen, .operator .power,
      .identifier (.inl (by decide)) (by decide)⟩
  have hgap : Ignored [' '] := by decide
  have hspaced : ∀ {t : Token} {ts : List Token} {gap cs : List Char}, Ignored gap →
      Spelling ts [' '] cs → Spelling (t :: ts) gap (t.text.toList ++ ([' '] ++ cs)) :=
    fun hgap h => h.token hgap fun _ _ _ => List.cons_ne_nil _ _
  have hlast : Spelling [.identifier "y"] [' '] "y".toList :=
    .token (t := .identifier "y") hgap (by simp) (.done (by decide : Ignored []))
  have hspelling : Spelling [.number "2", .operator "*", .function "SIN" 1, .leftParen "(",
      .identifier "x", .rightParen ")", .operator "^", .identifier "y"] []
      "2 * SIN ( x ) ^ y".toList :=
    hspaced (by decide) <| hspaced hgap <| hspaced hgap <| hspaced hgap <| hspaced hgap <|
      hspaced hgap <| hspaced hgap hlast
  have hdenotes : Denotes .trigonometric "2 * SIN ( x ) ^ y" e :=
    ⟨_, _, _, _, hwritten, hcanonical, hspelling, rfl⟩
  exact ⟨⟨hne, hspace⟩, hdenotes, toPostfix_encodes hne hspace hdenotes⟩

end ShuntingYard
