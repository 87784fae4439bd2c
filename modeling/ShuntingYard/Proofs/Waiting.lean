import ShuntingYard.Proofs.Verdict

/-! What waits, at any time of a run. Operators, functions and open parentheses lie on the stack, as
    many parentheses as groups are open, and operators that lie on each other without anything else
    between them stand in the order of their weights:

        ┌─────┐
        │  ^  │   3     powers may lie on powers,
        │  ^  │   3
        │  *  │   2     of the other weights there is one operator at most,
        │  +  │   1     the heavier above the lighter
        ├─────┤
        │  (  │         and so on below, from the start
        │  ?  │         an unknown operator lies alone
        └─────┘

    So an operator that comes is compared with unknown texts at once or not at all. -/

namespace ShuntingYard

open Yard

/-- An operator lies on the stack with nothing but operators above it. -/
def Exposed (stack : List Token) (lower : String) : Prop :=
  ∃ between below, stack = between ++ .operator lower :: below ∧ ∀ t ∈ between, ∃ s, t = .operator s

/-- How the stack stands when the tokens `read` have been taken in. -/
structure Orderly (read stack : List Token) : Prop where
  waits : ∀ t ∈ stack, t.mayWait = true
  opened : stack.countP Token.isOpen + read.countP Token.isClose = read.countP Token.isOpen
  /-- Both texts are known, and the lower operator does not yield to the upper one. -/
  holds : ∀ above upper below lower, stack = above ++ .operator upper :: below →
    Exposed below lower → Operator.textYields lower upper = .ok false
  ascending : ∀ above upper below lower, stack = above ++ .operator upper :: below →
    Exposed below lower → ∃ v w, Operator.weightOf lower = .ok v ∧ Operator.weightOf upper = .ok w ∧
      v ≤ w ∧ (v = w → lower = "^" ∧ upper = "^")
  /-- Of the weights below that of powers each occurs once at most. -/
  once : ∀ run, run <:+: stack → (∀ t ∈ run, ∃ s, t = .operator s) → ∀ w < 3,
    run.countP (fun t => Operator.weightOf t.text = .ok w) ≤ 1
  known : ∀ above upper lower below, stack = above ++ .operator upper :: .operator lower :: below →
    (Operator.ofText? upper).isSome ∧ (Operator.ofText? lower).isSome

/-- What becomes of an operator that comes to a yard. Either it ends up on top, and no operator that
    it could have released is left to be; or its first comparison fails, and nothing has moved. -/
structure Receives (y : Yard) : Prop where
  ok : ∀ s z, y.addOperator (.operator s) = (.ok (), z) → ∃ below, z.stack = .operator s :: below ∧
    ∀ lower, Exposed below lower → Operator.textYields lower s = .ok false
  error : ∀ s e z, y.addOperator (.operator s) = (.error e, z) → z = y ∧
    ∃ top below, y.stack = .operator top :: below ∧ Operator.textYields top s = .error e

variable {ts run stack : List Token} {y z : Yard}

/-- The stack reflects what was taken in. -/
theorem feedAll_reflects (h : Yard.empty.feedAll ts = .ok y) : Reflects ts.reverse y.stack := by
  refine feedAll_induction (P := fun ts y => Reflects ts.reverse y.stack) ?_ ?_ h
  · exact reflects_nil
  · intro ts x t z hreflects hfeed
    rw [List.reverse_append]
    rcases hreflects.feed t with ⟨s, -, herror⟩ | ⟨-, herror⟩ | ⟨-, -, z', hz', hafter⟩
    · rw [hfeed] at herror
      cases herror
    · rw [hfeed] at herror
      cases herror
    · rw [hfeed, Except.ok.injEq] at hz'
      exact hz' ▸ hafter

/-! ### Runs of operators on the stack -/

/-- A known operator above another that it does not release. -/
def Rests (upper lower : Token) : Prop :=
  ∃ o p : Operator, lower = .operator o.text ∧ upper = .operator p.text ∧ o.yields p = false

theorem Rests.trans {t u v : Token} (htu : Rests t u) (huv : Rests u v) : Rests t v := by
  obtain ⟨o, p, rfl, rfl, hop⟩ := htu
  obtain ⟨q, o', rfl, ho', hqo⟩ := huv
  obtain rfl : o = o' := by
    have htext := congrArg (fun t => Operator.ofText? t.text) ho'
    simpa [Token.text] using htext
  exact ⟨q, p, rfl, rfl, Operator.yields_eq_false_trans hqo hop⟩

instance : Trans Rests Rests Rests := ⟨Rests.trans⟩

/-- In a run of operators each rests on all below it. -/
theorem Yard.Settled.pairwise_rests (h : Settled stack) (hrun : run <:+: stack)
    (hops : ∀ t ∈ run, ∃ s, t = .operator s) : run.Pairwise Rests := by
  have hsettled : run.IsChain RestsOn := List.IsChain.infix h hrun
  have hchain : run.IsChain Rests := by
    refine hsettled.imp_of_mem_imp fun t u ht hu hrests => ?_
    obtain ⟨upper, rfl⟩ := hops t ht
    obtain ⟨lower, rfl⟩ := hops u hu
    obtain ⟨o, p, rfl, rfl, hyields⟩ := hrests
    exact ⟨o, p, rfl, rfl, hyields⟩
  exact hchain.pairwise

theorem Yard.Settled.rests_exposed (h : Settled stack) {above below : List Token}
    {upper lower : String} (hstack : stack = above ++ .operator upper :: below)
    (hlower : Exposed below lower) :
    ∃ o p : Operator, lower = o.text ∧ upper = p.text ∧ o.yields p = false := by
  obtain ⟨between, rest, rfl, hbetween⟩ := hlower
  have hrun : .operator upper :: (between ++ [.operator lower]) <:+: stack :=
    ⟨above, rest, by simp [hstack]⟩
  have hops : ∀ t ∈ Token.operator upper :: (between ++ [.operator lower]),
      ∃ s, t = .operator s := by
    refine List.forall_mem_cons.mpr ⟨⟨upper, rfl⟩, List.forall_mem_append.mpr ⟨hbetween, ?_⟩⟩
    simp
  obtain ⟨hfirst, -⟩ := List.pairwise_cons.mp (h.pairwise_rests hrun hops)
  obtain ⟨o, p, ho, hp, hyields⟩ := hfirst (.operator lower) (by simp)
  exact ⟨o, p, Token.operator.inj ho, Token.operator.inj hp, hyields⟩

/-- An operator that does not yield is the lighter one, or both are powers. -/
theorem Operator.weight_le_of_yields_eq_false {o p : Operator} (h : o.yields p = false) :
    o.weight ≤ p.weight ∧ (o.weight = p.weight → o = .power ∧ p = .power) := by
  revert h
  cases o <;> cases p <;> decide

theorem Operator.weightOf_text (o : Operator) : weightOf o.text = .ok o.weight := by
  rw [weightOf, read_text]
  rfl

/-- Two operators of one weight do not rest on each other, unless they are powers. -/
theorem Rests.weightOf_ne {t u : Token} {w : Nat} (h : Rests t u) (hw : w < 3)
    (ht : Operator.weightOf t.text = .ok w) (hu : Operator.weightOf u.text = .ok w) : False := by
  obtain ⟨o, p, rfl, rfl, hyields⟩ := h
  rw [Token.text, Operator.weightOf_text, Except.ok.injEq] at ht hu
  obtain ⟨-, hpowers⟩ := Operator.weight_le_of_yields_eq_false hyields
  obtain ⟨rfl, -⟩ := hpowers (hu.trans ht.symm)
  exact absurd hu (by rw [Operator.weight]; omega)

theorem countP_weightOf_le_one {w : Nat} (h : run.Pairwise Rests) (hw : w < 3) :
    run.countP (fun t => Operator.weightOf t.text = .ok w) ≤ 1 := by
  induction h with
  | nil => simp
  | @cons t run hfirst _ ih =>
    by_cases ht : Operator.weightOf t.text = .ok w
    · have hnone : run.countP (fun t => Operator.weightOf t.text = .ok w) = 0 := by
        refine List.countP_eq_zero.mpr fun u hu hweight => ?_
        exact (hfirst u hu).weightOf_ne hw ht (of_decide_eq_true hweight)
      rw [List.countP_cons, hnone]
      split <;> omega
    · rw [List.countP_cons_of_neg (by simpa using ht)]
      exact ih

theorem feedAll_orderly (h : Yard.empty.feedAll ts = .ok y) : Orderly ts y.stack where
  waits := Yard.feedAll_waits (by simp [Yard.empty]) h
  opened := by
    have hopened := (feedAll_reflects h).opened
    rwa [List.countP_reverse, List.countP_reverse] at hopened
  holds above upper below lower hstack hlower := by
    obtain ⟨o, p, rfl, rfl, hyields⟩ :=
      (feedAll_reflects h).settled.rests_exposed hstack hlower
    rw [Operator.textYields_text, hyields]
  ascending above upper below lower hstack hlower := by
    obtain ⟨o, p, rfl, rfl, hyields⟩ :=
      (feedAll_reflects h).settled.rests_exposed hstack hlower
    obtain ⟨hle, hpowers⟩ := Operator.weight_le_of_yields_eq_false hyields
    refine ⟨o.weight, p.weight, Operator.weightOf_text o, Operator.weightOf_text p, hle, ?_⟩
    intro heq
    obtain ⟨rfl, rfl⟩ := hpowers heq
    exact ⟨rfl, rfl⟩
  once run hrun hops w hw :=
    countP_weightOf_le_one ((feedAll_reflects h).settled.pairwise_rests hrun hops) hw
  known above upper lower below hstack := by
    have hlower : Exposed (.operator lower :: below) lower := ⟨[], below, rfl, by simp⟩
    obtain ⟨o, p, rfl, rfl, -⟩ := (feedAll_reflects h).settled.rests_exposed hstack hlower
    simp

/-! ### Operators that come -/

theorem feedAll_receives (h : Yard.empty.feedAll ts = .ok y) : Receives y where
  ok s z hadd := by
    have hfeed : y.feed (.operator s) = .ok z := by simp [feed, hadd]
    -- a run leads to this yard too, so that its stack is as orderly
    have hfed : Yard.empty.feedAll (ts ++ [.operator s]) = .ok z := by
      rw [feedAll_append, h, Except.bind, feedAll_cons, hfeed]
      rfl
    obtain ⟨ready, opening, called, rest, hshunts⟩ := feed_shunts hfeed
    have htop : z.stack = .operator s :: rest := hshunts.after
    exact ⟨rest, htop, fun lower => (feedAll_orderly hfed).holds [] s rest lower htop⟩
  error s e z hadd := by
    rcases feed_operator_cases (feedAll_reflects h).settled s with
      ⟨top, below, u, hstack, hu, -⟩ | ⟨-, ready, rest, -, -, -, hfeed⟩
    · rw [addOperator_unknown (t := .operator s) hstack hu] at hadd
      obtain ⟨he, rfl⟩ := Prod.mk.inj hadd
      obtain rfl := Except.error.inj he
      exact ⟨rfl, top, below, hstack, textYields_unknown hu⟩
    · have herror : y.feed (.operator s) = .error e := by simp [feed, hadd]
      rw [herror] at hfeed
      cases hfeed

/-- Whatever has been taken in, the stack is in order, and operators that come are received. -/
theorem feedAll_invariant (h : Yard.empty.feedAll ts = .ok y) : Orderly ts y.stack ∧ Receives y :=
  ⟨feedAll_orderly h, feedAll_receives h⟩

/-- On `2 + 3 * 4 ^ 5 ^ ( ?` the unknown operator waits alone. -/
theorem feedAll_invariant_unknown :
    let ts := [Token.number "2", .operator "+", .number "3", .operator "*", .number "4",
      .operator "^", .number "5", .operator "^", .leftParen "(", .operator "?"]
    let y : Yard := ⟨[.operator "?", .leftParen "(", .operator "^", .operator "^", .operator "*",
      .operator "+"], #[.number "2", .number "3", .number "4", .number "5"]⟩
    Yard.empty.feedAll ts = .ok y ∧ Orderly ts y.stack ∧ Receives y := by
  intro ts y
  have hfed : Yard.empty.feedAll ts = .ok y := by decide
  exact ⟨hfed, feedAll_invariant hfed⟩

end ShuntingYard
