import Mathlib.Order.Bounds.Basic
import ShuntingYard.Proofs.Settled

/-! What adding an operator does to any stack at all, be it one that a run could leave or not. The
    tokens on top that yield are released, as many as there are, and the first token that does not
    yield decides what comes of it:

        nothing, or no operator         the operator is pushed
        a known operator                the operator is pushed
        an operator of unknown text     failure, and what has been released stays so

    If the text of the added token is unknown itself, nothing yields to it. Then it fails on any
    operator, with nothing released, and is pushed on everything else. -/

namespace ShuntingYard.Yard

variable {y : Yard} {t : Token} {ready rest stack : List Token} {incoming : String}

/-! ### The comparison that ends a release -/

theorem obstacle?_operator (top incoming : String) (below : List Token) :
    obstacle? incoming (.operator top :: below) =
      (unknownOf top incoming).map .unknownOperator := by
  rw [obstacle?]
  cases hu : unknownOf top incoming with
  | some s =>
    rw [textYields_unknown hu]
    rfl
  | none =>
    obtain ⟨⟨o, rfl⟩, p, rfl⟩ := unknownOf_eq_none hu
    rw [Operator.textYields_text]
    rfl

/-- Of two texts the one on the stack is looked up first. -/
theorem unknownOf_of_incoming (h : Operator.ofText? incoming = none) (top : String) :
    unknownOf top incoming = some (if Operator.ofText? top = none then top else incoming) := by
  rw [unknownOf, h]
  cases Operator.ofText? top <;> rfl

theorem unknownOf_of_top {top : String} (h : Operator.ofText? top = none) (incoming : String) :
    unknownOf top incoming = some top := by
  rw [unknownOf, h]

/-- A known operator is only kept from a comparison by an unknown one. -/
theorem obstacle?_of_known (hincoming : Operator.ofText? incoming ≠ none)
    (hstack : ∀ top, stack.head? = some (.operator top) → Operator.ofText? top ≠ none) :
    obstacle? incoming stack = none := by
  obtain ⟨p, hp⟩ := Option.ne_none_iff_exists'.mp hincoming
  match stack, hstack with
  | [], _ => rfl
  | .operator top :: below, hstack =>
    obtain ⟨o, ho⟩ := Option.ne_none_iff_exists'.mp (hstack top rfl)
    rw [obstacle?_operator, unknownOf, ho, hp]
    rfl
  | .number _ :: _, _ | .identifier _ :: _, _ | .function _ _ :: _, _ | .leftParen _ :: _, _
  | .rightParen _ :: _, _ | .plain _ :: _, _ => rfl

/-! ### What is released -/

/-- Tokens that have a property, before one that has it not, are as many as possible from the start. -/
theorem isGreatest_length {p : Token → Prop} (hready : ∀ u ∈ ready, p u)
    (hrest : ∀ u ∈ rest.head?, ¬ p u) :
    IsGreatest {k | k ≤ (ready ++ rest).length ∧ ∀ u ∈ (ready ++ rest).take k, p u}
      ready.length := by
  refine ⟨⟨by simp, by rwa [List.take_left]⟩, ?_⟩
  rintro k ⟨hk, hall⟩
  refine Nat.le_of_not_lt fun hlt => ?_
  cases rest with
  | nil =>
    rw [List.append_nil] at hk
    omega
  | cons u rest =>
    refine hrest u rfl (hall u ?_)
    obtain ⟨n, rfl⟩ := Nat.exists_eq_add_of_lt hlt
    rw [List.take_append, Nat.add_assoc, Nat.add_sub_cancel_left, List.take_succ_cons]
    simp

theorem addOperator_ok (h : release t.text y.stack = ⟨ready, rest, none⟩) :
    y.addOperator t = (.ok (), ⟨t :: rest, y.output ++ ready⟩) := by
  simp [addOperator, h, push]

theorem addOperator_error {e : Failure} (h : release t.text y.stack = ⟨ready, rest, some e⟩) :
    y.addOperator t = (.error e, ⟨rest, y.output ++ ready⟩) := by
  simp [addOperator, h]

/-- Adding a token as an operator, in any yard. Where no operator is on top it is pushed, be its text
    known or not. On an operator a token of unknown text fails at once. A token of known text releases
    the longest run of operators that yield, and then fails on an operator of unknown text, with what
    it has released gone, or else is pushed. -/
theorem addOperator_effect (y : Yard) (t : Token) :
    ((∀ top, y.stack.head? ≠ some (.operator top)) →
      y.addOperator t = (.ok (), ⟨t :: y.stack, y.output⟩)) ∧
    (∀ top, y.stack.head? = some (.operator top) → Operator.ofText? t.text = none →
      y.addOperator t =
        (.error (.unknownOperator (if Operator.ofText? top = none then top else t.text)), y)) ∧
    (Operator.ofText? t.text ≠ none → ∃ k,
      IsGreatest {k | k ≤ y.stack.length ∧ ∀ u ∈ y.stack.take k, Yields t.text u} k ∧
      let settled : Yard := ⟨y.stack.drop k, y.output ++ y.stack.take k⟩
      (∀ top, settled.stack.head? = some (.operator top) → Operator.ofText? top = none →
        y.addOperator t = (.error (.unknownOperator top), settled)) ∧
      ((∀ top, settled.stack.head? = some (.operator top) → Operator.ofText? top ≠ none) →
        y.addOperator t = (.ok (), settled.push t))) := by
  refine ⟨fun hhead => ?_, fun top htop hunknown => ?_, fun hknown => ?_⟩
  · rw [addOperator_ok (release_of_head t.text hhead)]
    simp
  · obtain ⟨below, hstack⟩ := List.head?_eq_some_iff.mp htop
    exact addOperator_unknown hstack (unknownOf_of_incoming hunknown top)
  · obtain ⟨ready, rest, hstack, hready, hrest, hrelease⟩ := exists_release t.text y.stack
    refine ⟨ready.length, hstack ▸ isGreatest_length hready hrest, ?_⟩
    rw [hstack, List.drop_left, List.take_left]
    refine ⟨fun top htop hunknown => ?_, fun htop => ?_⟩
    · obtain ⟨below, rfl⟩ := List.head?_eq_some_iff.mp htop
      rw [obstacle?_operator, unknownOf_of_top hunknown] at hrelease
      exact addOperator_error hrelease
    · rw [obstacle?_of_known hknown htop] at hrelease
      exact addOperator_ok hrelease

/-- Two operators have gone when the addition of `+` fails on the third. -/
theorem addOperator_effect_stuck :
    let y : Yard := ⟨[.operator "^", .operator "*", .operator "?", .identifier "x"], #[.number "2"]⟩
    Operator.ofText? "+" ≠ none ∧ Operator.ofText? "?" = none ∧
      y.addOperator (.operator "+") = (.error (.unknownOperator "?"),
        ⟨[.operator "?", .identifier "x"], #[.number "2", .operator "^", .operator "*"]⟩) := by
  intro y
  have hknown : Operator.ofText? "+" ≠ none := by decide
  have hunknown : Operator.ofText? "?" = none := by decide
  obtain ⟨-, -, heffect⟩ := addOperator_effect y (.operator "+")
  obtain ⟨k, hk, hstuck, -⟩ := heffect hknown
  have hready : ∀ u ∈ [Token.operator "^", .operator "*"], Yields "+" u := by
    simp only [List.forall_mem_cons, List.not_mem_nil, false_implies, implies_true, and_true]
    exact ⟨⟨"^", rfl, by decide⟩, "*", rfl, by decide⟩
  have hrest : ∀ u ∈ [Token.operator "?", .identifier "x"].head?, ¬ Yields "+" u := by
    rintro u hu ⟨top, rfl, hyields⟩
    obtain rfl : "?" = top := by simpa using hu
    exact absurd hyields (by decide)
  obtain rfl : k = 2 := hk.unique (isGreatest_length hready hrest)
  exact ⟨hknown, hunknown, hstuck "?" rfl hunknown⟩

end ShuntingYard.Yard
