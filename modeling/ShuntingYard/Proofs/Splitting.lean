import ShuntingYard.Proofs.Departure
import ShuntingYard.Proofs.Grouping

/-! Where an expression falls into two. An operator that binds its operands less tightly than all that
    stands beside it comes out last, after the postfix form of what is left of it and of what is right
    of it, whatever tokens these are:

        left                    operator     right
        5 x ^ 2 - sin ( y ) z   -            cos a ^ 3      an equal weight may be on the left only
        x ( y )                 ^            3 ^ 4          powers may be on the right only

    The left part leaves operators waiting that all yield, so that the operator releases them as the
    end of the expression would have done (`Clears`). Then it lies at the bottom of the stack, where
    the right part does not touch it (`feedAll_above`). -/

namespace ShuntingYard

variable {a b as bs ts : List Token} {y z : Yard} {t : Token} {p : Operator}

/-! ### Weights on the two sides -/

/-- An operator binds less tightly than the operators of two parts that lie in no group, which are
    known. On the left, functions that lie in no group stand before one. -/
structure Splits (p : Operator) (a b : List Token) : Prop where
  applied : Applied (outermost 0 a)
  knownLeft : Known (outermost 0 a)
  knownRight : Known (outermost 0 b)
  left : p ≠ .power → ∀ o : Operator, Token.operator o.text ∈ outermost 0 a → p.weight ≤ o.weight
  right : p ≠ .power → ∀ o : Operator, Token.operator o.text ∈ outermost 0 b → p.weight < o.weight
  powerLeft : p = .power → ∀ s, Token.operator s ∉ outermost 0 a
  powerRight : p = .power → ∀ s, Token.operator s ∈ outermost 0 b → s = Operator.power.text

theorem yields_of_weight_le {o p : Operator} (hp : p ≠ .power) (h : p.weight ≤ o.weight) :
    o.yields p = true := by
  revert hp h
  cases o <;> cases p <;> decide

theorem yields_eq_false_of_weight_lt {o p : Operator} (h : p.weight < o.weight) :
    p.yields o = false := by
  revert h
  cases o <;> cases p <;> decide

/-- The operators on the left yield. -/
theorem Splits.yields (h : Splits p a b) (s : String) (hs : Token.operator s ∈ outermost 0 a) :
    ∃ o : Operator, s = o.text ∧ o.yields p = true := by
  obtain ⟨o, rfl⟩ := h.knownLeft s hs
  by_cases hp : p = .power
  · exact absurd hs (h.powerLeft hp o.text)
  · exact ⟨o, rfl, yields_of_weight_le hp (h.left hp o hs)⟩

/-- To the operators on the right it does not yield itself. -/
theorem Splits.stays (h : Splits p a b) (s : String) (hs : Token.operator s ∈ outermost 0 b) :
    Yard.release s [.operator p.text] = ⟨[], [.operator p.text], none⟩ := by
  obtain ⟨o, rfl⟩ := h.knownRight s hs
  have hyields : p.yields o = false := by
    by_cases hp : p = .power
    · obtain rfl := hp
      have ho := congrArg Operator.ofText? (h.powerRight rfl o.text hs)
      simp only [Operator.ofText?_text, Option.some.injEq] at ho
      subst ho
      rfl
    · exact yields_eq_false_of_weight_lt (h.right hp o hs)
  rw [Yard.release_operator, hyields]
  rfl

/-! ### What the left part leaves waiting -/

/-- A token that lies in no group yields to `p` if it is an operator, and has a group directly above it
    if it is a function. -/
def ClearsAt (p : Operator) (above : Bool) (t : Token) (below : List Token) : Prop :=
  (∀ u ∈ below, u.isOpen = false) → CalledAt above t below ∧
    ∀ s, t = .operator s → ∃ o : Operator, s = o.text ∧ o.yields p = true

/-- All tokens that lie in no group are as they have to be for `p` to clear the stack. -/
def Clears (p : Operator) : Bool → List Token → Prop := Throughout (ClearsAt p)

theorem mindsFunctions_clearsAt : MindsFunctions (ClearsAt p) := fun _ _ _ _ hf h hclosed =>
  ⟨hf, (h hclosed).2⟩

/-- Where no group is open and none comes next, only operators that yield are left waiting. -/
theorem Clears.yields (h : Clears p false y.stack) (hwaits : ∀ u ∈ y.stack, u.mayWait = true)
    (hclosed : ∀ u ∈ y.stack, u.isOpen = false) :
    ∀ u ∈ y.stack, ∃ o : Operator, u = .operator o.text ∧ o.yields p = true := by
  intro t ht
  rw [← List.append_nil y.stack] at h
  obtain ⟨above, below, hstack, hclears⟩ := Throughout.of_mem h hclosed ht
  have hbelow : ∀ u ∈ below ++ [], u.isOpen = false := by
    rw [List.append_nil]
    exact fun u hu => hclosed u (by simp [hstack, hu])
  obtain ⟨hfunction, hoperator⟩ := hclears hbelow
  have hwait := hwaits t ht
  have hopen := hclosed t ht
  cases t with
  | operator s =>
    obtain ⟨o, rfl, hyields⟩ := hoperator s rfl
    exact ⟨o, rfl, hyields⟩
  | function f arity => exact absurd (hfunction rfl) (by simp)
  | leftParen o => cases hopen
  | number s | identifier s | rightParen s | plain s => cases hwait

/-- A token that lies in no group may come if it is an operator that yields, or a function that stands
    before a group. -/
theorem Clears.feed {next : Bool} (h : Clears p t.isOpen y.stack) (hfeed : y.feed t = .ok z)
    (ht : ClearsAt p next t y.stack) : Clears p next z.stack := by
  cases t with
  | number s | identifier s | plain s =>
    simp only [Yard.feed_number, Yard.feed_identifier, Yard.feed_plain, Except.ok.injEq] at hfeed
    subst hfeed
    exact h.mono mindsFunctions_clearsAt
  | function s arity | leftParen s =>
    simp only [Yard.feed_function, Yard.feed_leftParen, Except.ok.injEq] at hfeed
    subst hfeed
    exact ⟨ht, h⟩
  | operator s =>
    obtain ⟨ready, rest, -, hstack, hready, rfl⟩ := Yard.feed_operator_eq_ok hfeed
    have hclosed := Yard.isOpen_of_operators hready
    rw [hstack] at h ht
    exact ⟨fun hrest => ht (List.forall_mem_append.mpr ⟨hclosed, hrest⟩), h.drop hclosed⟩
  | rightParen c =>
    obtain ⟨inner, o, called, rest, hstack, hinner, hcalled, rfl⟩ :=
      Yard.feed_rightParen_eq_ok hfeed
    rw [hstack] at h
    obtain ⟨-, hgroup⟩ := h.drop hinner
    rcases hcalled with ⟨f, arity, rfl⟩ | ⟨rfl, hhead⟩
    · exact hgroup.2.mono mindsFunctions_clearsAt
    · exact (hgroup.of_head mindsFunctions_clearsAt hhead).mono mindsFunctions_clearsAt

theorem applied_outermost_tail {depth : Nat} (h : Applied (outermost depth (t :: ts))) :
    Applied (outermost (t.depthAfter depth) ts) := by
  cases depth with
  | zero => exact h.2
  | succ depth => exact h

theorem Clears.feedAll (h : Clears p (ts.head?.any Token.isOpen) y.stack)
    (hfed : y.feedAll ts = .ok z)
    (happlied : Applied (outermost (y.stack.countP Token.isOpen) ts))
    (hyields : ∀ s, Token.operator s ∈ outermost (y.stack.countP Token.isOpen) ts →
      ∃ o : Operator, s = o.text ∧ o.yields p = true) : Clears p false z.stack := by
  induction ts generalizing y with
  | nil =>
    cases hfed
    exact h
  | cons t ts ih =>
    rw [Yard.feedAll_cons] at hfed
    obtain ⟨x, hfeed, hfed⟩ := exists_of_bind_eq_ok hfed
    have hx := Yard.feed_depth hfeed
    have hnext : Clears p (ts.head?.any Token.isOpen) x.stack := by
      refine h.feed hfeed fun hclosed => ?_
      rw [countP_isOpen_eq_zero hclosed] at happlied hyields
      refine ⟨fun hf => ?_, fun s hs => hyields s (hs ▸ List.mem_cons_self)⟩
      -- a function opens and closes no group, so that what stands outside after it comes right after it
      have hhead := happlied.1 hf
      cases t with
      | function f arity => rwa [← head?_outermost_zero]
      | _ => cases hf
    refine ih hnext hfed ?_ fun s hs => hyields s (outermost_subset_cons _ t ts (hx ▸ hs))
    rw [hx]
    exact applied_outermost_tail happlied

/-! ### The operator in between -/

theorem Splits.clears (h : Splits p a b) (ha : Yard.empty.feedAll a = .ok y)
    (hclosed : ∀ u ∈ y.stack, u.isOpen = false) :
    Yard.release p.text y.stack = ⟨y.stack, [], none⟩ := by
  have hstart : Clears p (a.head?.any Token.isOpen) Yard.empty.stack := trivial
  have hwaits := Yard.feedAll_waits (by simp [Yard.empty]) ha
  have hready := (hstart.feedAll ha h.applied h.yields).yields hwaits hclosed
  have hrelease := Yard.release_append [] hready
  rw [List.append_nil] at hrelease
  rw [hrelease]
  simp [Yard.release]

/-- What is left of an operator and what is right of it come out one after the other, and then the
    operator, where it binds less tightly than both. -/
theorem convert_split (h : Splits p a b) (ha : convert a = .ok as) (hb : convert b = .ok bs) :
    convert (a ++ [.operator p.text] ++ b) = .ok (as ++ bs ++ [.operator p.text]) := by
  obtain ⟨y, hfed, hclosed, rfl⟩ := convert_eq_ok ha
  obtain ⟨z, hfed', hclosed', rfl⟩ := convert_eq_ok hb
  have hbetween : y.feedAll [.operator p.text] = .ok ⟨[.operator p.text], y.output ++ y.stack⟩ := by
    rw [Yard.feedAll_cons, Yard.feed_operator (h.clears hfed hclosed)]
    rfl
  have hright : Yard.finish [.operator p.text] b =
      .ok (z.output.toList ++ (z.stack ++ [.operator p.text])) := by
    have hstart : (⟨[.operator p.text], #[]⟩ : Yard) = Yard.empty.above [.operator p.text] := rfl
    have hclosed'' : ∀ u ∈ (z.above [.operator p.text]).stack, u.isOpen = false :=
      List.forall_mem_append.mpr ⟨hclosed', by simp [Token.isOpen]⟩
    rw [Yard.finish, hstart, Yard.feedAll_above hfed' (by simp [Token.isFunction]) h.stays,
      Except.bind, Yard.drain_of_closed hclosed'']
    rfl
  rw [convert_through hfed hbetween, hright]
  simp [Except.map]

/-- `5 x ^ 2 - sin ( y ) z` and `cos w ^ 3` with a difference between them. -/
theorem convert_split_difference :
    let a := [Token.number "5", .identifier "x", .operator "^", .number "2", .operator "-",
      .function "sin" 1, .leftParen "(", .identifier "y", .rightParen ")", .identifier "z"]
    let b := [Token.function "cos" 1, .identifier "w", .operator "^", .number "3"]
    let as := [Token.number "5", .identifier "x", .number "2", .operator "^", .identifier "y",
      .function "sin" 1, .identifier "z", .operator "-"]
    let bs := [Token.identifier "w", .number "3", .operator "^", .function "cos" 1]
    Splits .minus a b ∧ convert a = .ok as ∧ convert b = .ok bs ∧
      convert (a ++ [.operator "-"] ++ b) = .ok (as ++ bs ++ [.operator "-"]) := by
  intro a b as bs
  have hleft : outermost 0 a = [Token.number "5", .identifier "x", .operator "^", .number "2",
      .operator "-", .function "sin" 1, .leftParen "(", .identifier "z"] := by decide
  have hright : outermost 0 b = b := by decide
  have hsplits : Splits .minus a b := by
    refine ⟨?_, ?_, ?_, ?_, ?_, by simp, by simp⟩
    · rw [hleft]
      simp [Applied, Token.isFunction, Token.isOpen]
    · rw [hleft]
      intro s hs
      have hs' : s = Operator.power.text ∨ s = Operator.minus.text := by
        simpa [Operator.text] using hs
      exact hs'.elim (⟨_, ·⟩) (⟨_, ·⟩)
    · rw [hright]
      intro s hs
      exact ⟨.power, by simpa [b, Operator.text] using hs⟩
    · intro _ o _
      cases o <;> decide
    · intro _ o ho
      rw [hright] at ho
      have ho' : o.text = "^" := by simpa [b] using ho
      revert ho'
      cases o <;> decide
  have ha : convert a = .ok as := by decide
  have hb : convert b = .ok bs := by decide
  exact ⟨hsplits, ha, hb, convert_split hsplits ha hb⟩

end ShuntingYard
