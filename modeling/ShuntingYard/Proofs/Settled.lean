import Mathlib.Data.List.Chain
import ShuntingYard.Proofs.Feed

/-! The order of the operators that wait. An operator lies directly on another only after the two
    have been compared, and the lower one did not yield. So both texts are known, and a comparison
    can fail only at the top of the stack: a release gives up at once, with nothing released, or
    runs to its end (`release_unknown`, `release_settled`). -/

namespace ShuntingYard.Yard

variable {y z : Yard} {stack : List Token}

/-- An operator may rest on another that is known, as it is, and does not yield to it. All other
    tokens may rest on each other. -/
def RestsOn : Token → Token → Prop
  | .operator upper, .operator lower =>
    ∃ o p : Operator, lower = o.text ∧ upper = p.text ∧ o.yields p = false
  | _, _ => True

/-- A stack in which each token may rest on the next. -/
def Settled (stack : List Token) : Prop := stack.IsChain RestsOn

/-- The operator on top of a stack, if there is one, is known. -/
def KnownTop (stack : List Token) : Prop :=
  ∀ s, stack.head? = some (.operator s) → ∃ o : Operator, s = o.text

theorem Settled.tail {t : Token} (h : Settled (t :: stack)) : Settled stack := h.of_cons

theorem Settled.drop {above : List Token} (h : Settled (above ++ stack)) : Settled stack :=
  List.IsChain.right_of_append h

theorem Settled.knownTop {s : String} (h : Settled (.operator s :: stack)) : KnownTop stack := by
  cases stack with
  | nil => simp [KnownTop]
  | cons t below =>
    intro s' hs'
    obtain rfl : t = .operator s' := by simpa using hs'
    obtain ⟨o, _, rfl, _⟩ := (List.isChain_cons_cons.mp h).1
    exact ⟨o, rfl⟩

/-- A token settles on any stack, unless it is an operator and meets one. -/
theorem settled_cons {t : Token}
    (ht : ∀ s s', t = .operator s → stack.head? ≠ some (.operator s')) (h : Settled stack) :
    Settled (t :: stack) := by
  cases stack with
  | nil => exact .singleton t
  | cons u below =>
    refine List.isChain_cons_cons.mpr ⟨?_, h⟩
    cases t with
    | operator s =>
      cases u with
      | operator s' => exact absurd rfl (ht s s' rfl)
      | _ => trivial
    | _ => trivial

/-- Of three operators on each other the lowest does not yield to the highest either. -/
theorem Settled.skip {s s' : String} (h : Settled (.operator s :: .operator s' :: stack)) :
    Settled (.operator s :: stack) := by
  cases stack with
  | nil => exact .singleton _
  | cons t below =>
    obtain ⟨hupper, hlower⟩ := List.isChain_cons_cons.mp h
    refine List.isChain_cons_cons.mpr ⟨?_, hlower.of_cons⟩
    cases t with
    | operator s'' =>
      obtain ⟨o, p, rfl, rfl, hop⟩ := hupper
      obtain ⟨q, o', rfl, ho', hqo⟩ := (List.isChain_cons_cons.mp hlower).1
      obtain rfl : o' = o := by
        have := congrArg Operator.ofText? ho'
        simpa using this.symm
      exact ⟨q, p, rfl, rfl, Operator.yields_eq_false_trans hqo hop⟩
    | _ => trivial

/-- On a settled stack with a known operator on top, or none, a known operator releases what yields
    to it, and settles on the rest. -/
theorem release_settled (p : Operator) (h : Settled stack) (htop : KnownTop stack) :
    ∃ ready rest, stack = ready ++ rest ∧ release p.text stack = ⟨ready, rest, none⟩ ∧
      (∀ t ∈ ready, ∃ o : Operator, t = .operator o.text ∧ o.yields p = true) ∧
      Settled (.operator p.text :: rest) := by
  induction stack with
  | nil => exact ⟨[], [], rfl, rfl, by simp, .singleton _⟩
  | cons t below ih =>
    by_cases hop : ∃ s, t = .operator s
    · obtain ⟨s, rfl⟩ := hop
      obtain ⟨o, rfl⟩ := htop s rfl
      cases hy : o.yields p with
      | true =>
        obtain ⟨ready, rest, rfl, hr, hready, hrest⟩ := ih h.tail h.knownTop
        refine ⟨.operator o.text :: ready, rest, rfl, ?_, ?_, hrest⟩
        · rw [release_operator, if_pos hy, hr]
        · rintro t ht
          rcases List.mem_cons.mp ht with rfl | ht
          · exact ⟨o, rfl, hy⟩
          · exact hready t ht
      | false =>
        refine ⟨[], .operator o.text :: below, rfl, ?_, by simp, ?_⟩
        · rw [release_operator, hy]; rfl
        · exact List.isChain_cons_cons.mpr ⟨⟨o, p, rfl, rfl, hy⟩, h⟩
    · have hhead : ∀ s, (t :: below).head? ≠ some (.operator s) := by
        intro s hs
        exact hop ⟨s, by simpa using hs⟩
      exact ⟨[], t :: below, rfl, release_of_head _ hhead, by simp,
        settled_cons (fun _ s' _ => hhead s') h⟩

/-- The text that makes a comparison fail: that of the operator on the stack, if it is unknown, and
    else that of the incoming one. -/
def unknownOf (top incoming : String) : Option String :=
  match Operator.ofText? top, Operator.ofText? incoming with
  | none, _ => some top
  | some _, none => some incoming
  | some _, some _ => none

theorem unknownOf_eq_none {top incoming : String} (h : unknownOf top incoming = none) :
    (∃ o : Operator, top = o.text) ∧ ∃ p : Operator, incoming = p.text := by
  unfold unknownOf at h
  split at h
  · cases h
  · cases h
  · next o p ho hp =>
    exact ⟨⟨o, Operator.ofText?_eq_some_iff.mp ho⟩, ⟨p, Operator.ofText?_eq_some_iff.mp hp⟩⟩

theorem textYields_unknown {top incoming s : String} (h : unknownOf top incoming = some s) :
    Operator.textYields top incoming = .error (.unknownOperator s) := by
  unfold unknownOf at h
  unfold Operator.textYields Operator.read
  split at h
  · next htop => cases h; rw [htop]; rfl
  · next htop hincoming => cases h; rw [htop, hincoming]; rfl
  · cases h

/-- A comparison with an unknown text releases nothing and names the text. -/
theorem release_unknown {top incoming s : String} (h : unknownOf top incoming = some s)
    (below : List Token) : release incoming (.operator top :: below) =
      ⟨[], .operator top :: below, some (.unknownOperator s)⟩ := by
  rw [release, textYields_unknown h]

/-- A comparison with an unknown text is the only one, and the yard is left as it was. -/
theorem addOperator_unknown {top u : String} {t : Token} {below : List Token}
    (hstack : y.stack = .operator top :: below) (hu : unknownOf top t.text = some u) :
    y.addOperator t = (.error (.unknownOperator u), y) := by
  obtain ⟨stack, output⟩ := y
  obtain rfl : stack = _ := hstack
  simp [addOperator, release_unknown hu]

/-- What an operator does on a settled stack. Either it meets an operator, one of the two is unknown
    and the comparison fails; or it is known, if it meets one, and releases known operators. -/
theorem feed_operator_cases (h : Settled y.stack) (s : String) :
    (∃ top below u, y.stack = .operator top :: below ∧ unknownOf top s = some u ∧
      y.feed (.operator s) = .error (.unknownOperator u)) ∨
    (∀ top, y.stack.head? = some (.operator top) → unknownOf top s = none) ∧
    ∃ ready rest, y.stack = ready ++ rest ∧ (∀ t ∈ ready, ∃ o : Operator, t = .operator o.text) ∧
      Settled (.operator s :: rest) ∧
      y.feed (.operator s) = .ok ⟨.operator s :: rest, y.output ++ ready⟩ := by
  by_cases hhead : ∃ top, y.stack.head? = some (.operator top)
  · obtain ⟨top, htop⟩ := hhead
    obtain ⟨below, hstack⟩ := List.head?_eq_some_iff.mp htop
    cases hu : unknownOf top s with
    | some u =>
      refine .inl ⟨top, below, u, hstack, hu, ?_⟩
      exact feed_operator_error (hstack ▸ release_unknown hu below)
    | none =>
      obtain ⟨hknown, p, rfl⟩ := unknownOf_eq_none hu
      have hall : ∀ top', y.stack.head? = some (.operator top') → top' = top := by
        intro top' htop'
        rw [htop] at htop'
        exact (by simpa using htop' : top = top').symm
      obtain ⟨ready, rest, hsplit, hrelease, hready, hrest⟩ :=
        release_settled p h (fun top' h' => hall top' h' ▸ hknown)
      refine .inr ⟨fun top' h' => hall top' h' ▸ hu, ready, rest, hsplit, fun t ht => ?_, hrest,
        feed_operator hrelease⟩
      obtain ⟨o, rfl, _⟩ := hready t ht
      exact ⟨o, rfl⟩
  · have hhead' : ∀ top, y.stack.head? ≠ some (.operator top) := fun top ht => hhead ⟨top, ht⟩
    refine .inr ⟨fun top ht => absurd ht (hhead' top), [], y.stack, rfl, by simp,
      settled_cons (fun _ s' _ => hhead' s') h, ?_⟩
    exact feed_operator (release_of_head s hhead')

end ShuntingYard.Yard
