import ShuntingYard.Proofs.Expression
import ShuntingYard.Proofs.Feed

/-! Infix writings of an expression, by the usual grammar, and that reordering any of them gives the
    postfix form of the expression.

        atom    ::= operand | ( sum ) | f ( sum )       or, at the end of its group, f sum
        power   ::= atom | atom ^ power
        product ::= power | product * power | product / power
        sum     ::= product | sum + product | sum - product

    A function written without parentheses takes everything up to the end of its group. So whatever
    ends in one stands last in its group, which `Ending` keeps track of.

    Reading is proved correct on any yard that is ready for the writing (`Ready`): part of the postfix
    form has then come out, and the rest waits on top of the old stack, in order (`ReadsAs`). -/

namespace ShuntingYard

/-- How tightly a writing holds together. -/
inductive Level where | atom | power | product | sum
  deriving DecidableEq, Repr

/-- The least weight of the operators that can still wait after a writing of a level. -/
def Level.weight : Level → Nat
  | .atom => 4
  | .power => 3
  | .product => 2
  | .sum => 1

/-- Whether a writing ends in a function without parentheses. -/
inductive Ending where | closed | bare
  deriving DecidableEq, Repr

/-- The writings of an expression in infix order. A whole expression is a sum of any ending. -/
inductive Written : Level → Ending → List Token → Expression → Prop where
  | number (text : String) : Written .atom .closed [.number text] (.number text)
  | identifier (text : String) : Written .atom .closed [.identifier text] (.identifier text)
  | group {ending ts e} (o c : String) : Written .sum ending ts e →
      Written .atom .closed (.leftParen o :: (ts ++ [.rightParen c])) e
  | application {ending ts e} (f : String) (arity : Int) (o c : String) : Written .sum ending ts e →
      Written .atom .closed (.function f arity :: .leftParen o :: (ts ++ [.rightParen c]))
        (.application f arity e)
  | bare {ending ts e} (f : String) (arity : Int) : Written .sum ending ts e →
      (∀ t ∈ ts.head?, t.isOpen = false) →
      Written .atom .bare (.function f arity :: ts) (.application f arity e)
  | ofAtom {ending ts e} : Written .atom ending ts e → Written .power ending ts e
  | power {ending ts us l r} : Written .atom .closed ts l → Written .power ending us r →
      Written .power ending (ts ++ .operator Operator.power.text :: us) (.binary .power l r)
  | ofPower {ending ts e} : Written .power ending ts e → Written .product ending ts e
  | product {ending ts us l r} {o : Operator} : o = .times ∨ o = .over →
      Written .product .closed ts l → Written .power ending us r →
      Written .product ending (ts ++ .operator o.text :: us) (.binary o l r)
  | ofProduct {ending ts e} : Written .product ending ts e → Written .sum ending ts e
  | sum {ending ts us l r} {o : Operator} : o = .plus ∨ o = .minus →
      Written .sum .closed ts l → Written .product ending us r →
      Written .sum ending (ts ++ .operator o.text :: us) (.binary o l r)

open Yard

variable {level : Level} {ending : Ending} {ts us : List Token} {e l r : Expression} {y : Yard}

theorem postorder_binary_subset (o : Operator) (hl : l.postorder ⊆ ts) (hr : r.postorder ⊆ us) :
    (Expression.binary o l r).postorder ⊆ ts ++ .operator o.text :: us := by
  intro t ht
  rw [Expression.postorder, List.append_assoc, List.mem_append, List.mem_append] at ht
  rcases ht with ht | ht | ht
  · exact List.mem_append_left _ (hl ht)
  · exact List.mem_append_right _ (List.mem_cons_of_mem _ (hr ht))
  · exact List.mem_append_right _ (List.mem_singleton.mp ht ▸ List.mem_cons_self)

/-- The postfix form is made of the tokens of the writing. -/
theorem Written.postorder_subset (h : Written level ending ts e) : e.postorder ⊆ ts := by
  induction h with
  | number | identifier => exact fun _ => id
  | group o c _ ih => exact List.subset_cons_of_subset _ (List.subset_append_of_subset_left _ ih)
  | application f arity o c _ ih =>
    refine List.append_subset.mpr ⟨?_, by simp⟩
    exact List.subset_cons_of_subset _
      (List.subset_cons_of_subset _ (List.subset_append_of_subset_left _ ih))
  | bare f arity _ _ ih =>
    exact List.append_subset.mpr ⟨List.subset_cons_of_subset _ ih, by simp⟩
  | ofAtom _ ih | ofPower _ ih | ofProduct _ ih => exact ih
  | power _ _ ihl ihr | product _ _ _ ihl ihr | sum _ _ _ ihl ihr =>
    exact postorder_binary_subset _ ihl ihr

/-- What may wait after a writing: operators at least as tight as it is, and after a function without
    parentheses anything that does not end the group. -/
def Waits (level : Level) : Ending → Token → Prop
  | .closed, t => ∃ o : Operator, t = .operator o.text ∧ level.weight ≤ o.weight
  | .bare, t => t.isOpen = false

theorem Waits.isOpen : ∀ {ending : Ending} {t : Token}, Waits level ending t → t.isOpen = false
  | .closed, _, ⟨_, rfl, _⟩ => rfl
  | .bare, _, h => h

theorem Waits.mono {looser : Level} (hle : looser.weight ≤ level.weight) :
    ∀ {ending : Ending} {t : Token}, Waits level ending t → Waits looser ending t
  | .closed, _, ⟨o, ht, ho⟩ => ⟨o, ht, hle.trans ho⟩
  | .bare, _, h => h

theorem waits_operator {o : Operator} (ho : level.weight ≤ o.weight) :
    ∀ ending : Ending, Waits level ending (.operator o.text)
  | .closed => ⟨o, rfl, ho⟩
  | .bare => rfl

/-- A stack on which a writing of a level can be read: none of its operators releases what is there,
    and no function there takes the group that the writing starts with. -/
structure Ready (level : Level) (ts stack : List Token) : Prop where
  holds : ∀ o : Operator, level.weight ≤ o.weight → release o.text stack = ⟨[], stack, none⟩
  free : (∃ t ∈ ts.head?, t.isOpen = true) → ∀ t ∈ stack.head?, t.isFunction = false

/-- Of the postfix form of `e`, one part is out and the other waits on the old stack. -/
structure ReadsAs (y : Yard) (ts : List Token) (e : Expression) (out waiting : List Token) :
    Prop where
  fed : y.feedAll ts = .ok ⟨waiting ++ y.stack, y.output ++ out⟩
  order : out ++ waiting = e.postorder

/-- A writing of a level can be read on a yard, and leaves there what may wait. -/
def Reads (level : Level) (ending : Ending) (y : Yard) (ts : List Token) (e : Expression) : Prop :=
  ∃ out waiting, ReadsAs y ts e out waiting ∧ ∀ t ∈ waiting, Waits level ending t

theorem Ready.mono {tighter : Level} (hle : level.weight ≤ tighter.weight) {stack : List Token}
    (h : Ready level ts stack) : Ready tighter ts stack :=
  ⟨fun o ho => h.holds o (hle.trans ho), h.free⟩

theorem Ready.left {stack : List Token} (h : Ready level (ts ++ us) stack) :
    Ready level ts stack := by
  refine ⟨h.holds, fun ⟨t, ht, hopen⟩ => h.free ⟨t, ?_, hopen⟩⟩
  rw [List.head?_append, ht]
  rfl

/-- Below a parenthesis or a function no operator reaches. -/
theorem release_on_barrier {t : Token} (ht : t.isOpen = true ∨ t.isFunction = true)
    (stack : List Token) (incoming : String) :
    release incoming (t :: stack) = ⟨[], t :: stack, none⟩ := by
  refine release_of_head incoming fun s hs => ?_
  obtain rfl : t = .operator s := by simpa using hs
  simp [Token.isOpen, Token.isFunction] at ht

theorem ready_operator {o : Operator} (h : ∀ p : Operator, level.weight ≤ p.weight →
    o.yields p = false) (stack : List Token) : Ready level ts (.operator o.text :: stack) := by
  refine ⟨fun p hp => ?_, fun _ t ht => ?_⟩
  · rw [release_operator, h p hp]; rfl
  · obtain rfl : .operator o.text = t := by simpa using ht
    rfl

theorem reads_mono {tighter : Level} (hle : level.weight ≤ tighter.weight)
    (h : Reads tighter ending y ts e) : Reads level ending y ts e := by
  obtain ⟨out, waiting, hread, hwait⟩ := h
  exact ⟨out, waiting, hread, fun t ht => (hwait t ht).mono hle⟩

/-- A group comes out as a whole, and then the function it is the operand of, if there is one. -/
theorem feedAll_group {stack : List Token} {output : Array Token} {o : String} (c : String)
    (h : Reads level ending ⟨.leftParen o :: stack, output⟩ ts e) :
    feedAll ⟨stack, output⟩ (.leftParen o :: (ts ++ [.rightParen c])) =
      .ok (attachFunction ⟨stack, output ++ e.postorder⟩) := by
  obtain ⟨out, waiting, ⟨hfed, horder⟩, hwait⟩ := h
  have hopen : ∀ t ∈ waiting, t.isOpen = false := fun t ht => (hwait t ht).isOpen
  rw [feedAll_cons, feed_leftParen, Except.bind, feedAll_append, hfed]
  simp only [Except.bind, feedAll_cons, feed_rightParen, feedAll_nil]
  rw [closeGroup_open o stack _ hopen, output_append, horder]

/-- Two operands around an operator. What waits of the first yields to the operator, so that all of
    the first is out when the second begins, and what waits of the second stands above the operator. -/
theorem reads_binary (lower upper : Level) {o : Operator}
    (hold : release o.text y.stack = ⟨[], y.stack, none⟩) (ho : level.weight ≤ o.weight)
    (hupper : level.weight ≤ upper.weight)
    (hyield : ∀ p : Operator, lower.weight ≤ p.weight → p.yields o = true)
    (hl : Reads lower .closed y ts l)
    (hr : Reads upper ending ⟨.operator o.text :: y.stack, y.output ++ l.postorder⟩ us r) :
    Reads level ending y (ts ++ .operator o.text :: us) (.binary o l r) := by
  obtain ⟨out, waiting, ⟨hfed, horder⟩, hwait⟩ := hl
  obtain ⟨out', waiting', ⟨hfed', horder'⟩, hwait'⟩ := hr
  have hyields : ∀ t ∈ waiting, ∃ p : Operator, t = .operator p.text ∧ p.yields o = true := by
    intro t ht
    obtain ⟨p, rfl, hp⟩ := hwait t ht
    exact ⟨p, rfl, hyield p hp⟩
  have hrelease : release o.text (waiting ++ y.stack) = ⟨waiting, y.stack, none⟩ := by
    rw [release_append y.stack hyields, hold, List.append_nil]
  refine ⟨l.postorder ++ out', waiting' ++ [.operator o.text], ⟨?_, ?_⟩, fun t ht => ?_⟩
  · rw [feedAll_append, hfed, Except.bind, feedAll_cons, feed_operator hrelease, Except.bind,
      output_append, horder, hfed', output_append, List.append_assoc, List.singleton_append]
  · rw [Expression.postorder, ← horder', List.append_assoc, List.append_assoc, List.append_assoc]
  · rcases List.mem_append.mp ht with ht | ht
    · exact (hwait' t ht).mono hupper
    · obtain rfl := List.mem_singleton.mp ht
      exact waits_operator ho ending

/-- Every writing is read as its expression. -/
theorem Written.reads (h : Written level ending ts e) :
    ∀ y : Yard, Ready level ts y.stack → Reads level ending y ts e := by
  induction h with
  | number text =>
    exact fun y _ => ⟨[.number text], [], ⟨by simp [Except.bind], rfl⟩, by simp⟩
  | identifier text =>
    exact fun y _ => ⟨[.identifier text], [], ⟨by simp [Except.bind], rfl⟩, by simp⟩
  | @group ending ts e o c _ ih =>
    intro y hready
    have hin := ih ⟨.leftParen o :: y.stack, y.output⟩
      ⟨fun p _ => release_on_barrier (.inl rfl) _ _, by simp [Token.isFunction]⟩
    have hfree : ∀ t ∈ y.stack.head?, t.isFunction = false := hready.free (by simp [Token.isOpen])
    refine ⟨e.postorder, [], ⟨?_, List.append_nil _⟩, by simp⟩
    rw [feedAll_group c hin, attachFunction_of_head _ hfree, List.nil_append]
  | @application ending ts e f arity o c _ ih =>
    intro y _
    have hin := ih ⟨.leftParen o :: .function f arity :: y.stack, y.output⟩
      ⟨fun p _ => release_on_barrier (.inl rfl) _ _, by simp [Token.isFunction]⟩
    refine ⟨e.postorder ++ [.function f arity], [], ⟨?_, List.append_nil _⟩, by simp⟩
    rw [feedAll_cons, feed_function, Except.bind, feedAll_group c hin, attachFunction_function,
      output_append, List.nil_append]
  | @bare ending ts e f arity _ hhead ih =>
    intro y _
    have hready : Ready .sum ts (.function f arity :: y.stack) := by
      refine ⟨fun p _ => release_on_barrier (.inr rfl) _ _, ?_⟩
      rintro ⟨t, ht, hopen⟩
      rw [hhead t ht] at hopen
      cases hopen
    obtain ⟨out, waiting, ⟨hfed, horder⟩, hwait⟩ :=
      ih ⟨.function f arity :: y.stack, y.output⟩ hready
    refine ⟨out, waiting ++ [.function f arity], ⟨?_, ?_⟩, fun t ht => ?_⟩
    · rw [feedAll_cons, feed_function, Except.bind, hfed, List.append_assoc, List.singleton_append]
    · rw [Expression.postorder, ← horder, List.append_assoc]
    · rcases List.mem_append.mp ht with ht | ht
      · exact (hwait t ht).isOpen
      · obtain rfl := List.mem_singleton.mp ht
        rfl
  | ofAtom _ ih => exact fun y hready => reads_mono (by decide) (ih y (hready.mono (by decide)))
  | power _ _ ihl ihr =>
    intro y hready
    refine reads_binary .atom .power (hready.holds _ (by decide)) (by decide) (by decide) ?_
      (ihl y (hready.left.mono (by decide))) (ihr _ (ready_operator ?_ _))
    all_goals intro p; cases p <;> decide
  | ofPower _ ih => exact fun y hready => reads_mono (by decide) (ih y (hready.mono (by decide)))
  | product ho _ _ ihl ihr =>
    intro y hready
    rcases ho with rfl | rfl
    all_goals
      refine reads_binary .product .power (hready.holds _ (by decide)) (by decide) (by decide) ?_
        (ihl y hready.left) (ihr _ (ready_operator ?_ _))
      all_goals intro p; cases p <;> decide
  | ofProduct _ ih => exact fun y hready => reads_mono (by decide) (ih y (hready.mono (by decide)))
  | sum ho _ _ ihl ihr =>
    intro y hready
    rcases ho with rfl | rfl
    all_goals
      refine reads_binary .sum .product (hready.holds _ (by decide)) (by decide) (by decide) ?_
        (ihl y hready.left) (ihr _ (ready_operator ?_ _))
      all_goals intro p; cases p <;> decide

theorem ready_empty (level : Level) (ts : List Token) : Ready level ts Yard.empty.stack :=
  ⟨fun o _ => release_of_head _ (by simp [Yard.empty]), by simp [Yard.empty]⟩

/-- What has been read on the empty yard comes out in postfix order in the end. -/
theorem Reads.convert_eq (h : Reads level ending Yard.empty ts e) : convert ts = .ok e.postorder := by
  obtain ⟨out, waiting, ⟨hfed, horder⟩, hwait⟩ := h
  have hclosed : ∀ t ∈ waiting ++ Yard.empty.stack, t.isOpen = false := by
    simpa [Yard.empty] using fun t ht => (hwait t ht).isOpen
  rw [ShuntingYard.convert_eq, hfed, Except.bind, drain_of_closed hclosed, ← horder]
  simp [Yard.empty]

/-- Every infix writing of an expression is put into its postfix form. -/
theorem convert_written (h : Written .sum ending ts e) : convert ts = .ok e.postorder :=
  (h.reads Yard.empty (ready_empty .sum ts)).convert_eq

/-- `7 - 2 * (a / 3) ^ sin(x) ^ y + cos t ^ 2` is `7 2 a 3 / x sin y ^ ^ * - t 2 ^ cos +`. -/
theorem convert_written_mixed : ∃ ts e,
    ts = [.number "7", .operator "-", .number "2", .operator "*", .leftParen "(", .identifier "a",
      .operator "/", .number "3", .rightParen ")", .operator "^", .function "sin" 1, .leftParen "(",
      .identifier "x", .rightParen ")", .operator "^", .identifier "y", .operator "+",
      .function "cos" 1, .identifier "t", .operator "^", .number "2"] ∧
    Written .sum .bare ts e ∧
    convert ts = .ok [.number "7", .number "2", .identifier "a", .number "3", .operator "/",
      .identifier "x", .function "sin" 1, .identifier "y", .operator "^", .operator "^",
      .operator "*", .operator "-", .identifier "t", .number "2", .operator "^", .function "cos" 1,
      .operator "+"] := by
  have hquotient : Written .product .closed _ _ :=
    .product (o := .over) (.inr rfl) (.ofPower (.ofAtom (.identifier "a"))) (.ofAtom (.number "3"))
  have hpowers : Written .power .closed _ _ :=
    .power (.group "(" ")" (.ofProduct hquotient))
      (.power (.application "sin" 1 "(" ")" (.ofProduct (.ofPower (.ofAtom (.identifier "x")))))
        (.ofAtom (.identifier "y")))
  have hleft : Written .sum .closed _ _ :=
    .sum (o := .minus) (.inr rfl) (.ofProduct (.ofPower (.ofAtom (.number "7"))))
      (.product (o := .times) (.inl rfl) (.ofPower (.ofAtom (.number "2"))) hpowers)
  have hright : Written .atom .bare _ _ :=
    .bare "cos" 1
      (.ofProduct (.ofPower (.power (.identifier "t") (.ofAtom (.number "2")))))
      (by simp [Token.isOpen])
  have hall : Written .sum .bare _ _ :=
    .sum (o := .plus) (.inl rfl) hleft (.ofPower (.ofAtom hright))
  exact ⟨_, _, rfl, hall, convert_written hall⟩

end ShuntingYard
