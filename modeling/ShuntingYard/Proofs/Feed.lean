import Mathlib.Data.List.Induction
import Mathlib.Data.List.TakeWhile
import ShuntingYard.Yard

/-! What each kind of token does to the yard, as equations on the stack and the output, and what all
    tokens that are taken in have in common (`Shunts`). Everything proved about reordering goes
    through these; none of it opens the moves themselves.

        token       stack                      output
        operand     s            ─▶ s          gains the token
        function    s            ─▶ f :: s
        (           s            ─▶ ( :: s
        operator    ready ++ s   ─▶ op :: s    gains `ready`
        )           in ++ ( :: s ─▶ s          gains `in`, then a function on top of `s` -/

namespace ShuntingYard

section Bind

variable {α β : Type} {x : Except Failure α} {f : α → Except Failure β}

/-- A computation that succeeds has a first step that does. -/
theorem exists_of_bind_eq_ok {b : β} (h : x.bind f = .ok b) : ∃ a, x = .ok a ∧ f a = .ok b := by
  cases x with
  | error e => cases h
  | ok a => exact ⟨a, rfl, h⟩

/-- A computation fails in its first step, or in what goes on with its result. -/
theorem cases_of_bind_eq_error {e : Failure} (h : x.bind f = .error e) :
    x = .error e ∨ ∃ a, x = .ok a ∧ f a = .error e := by
  cases x with
  | error e' =>
    cases h
    exact .inl rfl
  | ok a => exact .inr ⟨a, rfl, h⟩

end Bind

end ShuntingYard

namespace ShuntingYard.Yard

variable {y z : Yard} {stack inner below ready opening called rest : List Token}
variable {output : Array Token} {t : Token}

/-- What two parts of an expression send to the output comes out in their order. -/
theorem output_append (output : Array Token) (first second : List Token) :
    output ++ first ++ second = output ++ (first ++ second) :=
  Array.toList_inj.mp (by simp)

/-! ### Tokens that only move -/

@[simp] theorem feed_number (y : Yard) (s : String) :
    y.feed (.number s) = .ok ⟨y.stack, y.output ++ [Token.number s]⟩ := by
  simp [feed, emit]

@[simp] theorem feed_identifier (y : Yard) (s : String) :
    y.feed (.identifier s) = .ok ⟨y.stack, y.output ++ [Token.identifier s]⟩ := by
  simp [feed, emit]

@[simp] theorem feed_function (y : Yard) (f : String) (arity : Int) :
    y.feed (.function f arity) = .ok ⟨.function f arity :: y.stack, y.output⟩ := rfl

@[simp] theorem feed_leftParen (y : Yard) (o : String) :
    y.feed (.leftParen o) = .ok ⟨.leftParen o :: y.stack, y.output⟩ := rfl

@[simp] theorem feed_rightParen (y : Yard) (c : String) :
    y.feed (.rightParen c) = y.closeGroup := rfl

@[simp] theorem feed_plain (y : Yard) (s : String) : y.feed (.plain s) = .ok y := rfl

theorem feed_idle (y : Yard) : ∀ {t : Token}, t.isIdle = true →
    y.feed t = .ok ⟨y.stack, y.output ++ [t].filter Token.isOperand⟩
  | .number s, _ => feed_number y s
  | .identifier s, _ => feed_identifier y s
  | .plain s, _ => by simp [Token.isOperand]

/-! ### Operators -/

/-- Whatever is on top but no operator ends the release before it begins. -/
theorem release_of_head (incoming : String) (h : ∀ s, stack.head? ≠ some (.operator s)) :
    release incoming stack = ⟨[], stack, none⟩ := by
  unfold release
  split
  · next s below => exact absurd rfl (h s)
  · rfl

theorem release_operator (o p : Operator) (below : List Token) :
    release p.text (.operator o.text :: below) =
      if o.yields p then
        { release p.text below with
          released := .operator o.text :: (release p.text below).released }
      else ⟨[], .operator o.text :: below, none⟩ := by
  rw [release, Operator.textYields_text]
  cases o.yields p <;> rfl

/-- Operators on top that yield are released, and then it is the turn of what is below them. -/
theorem release_append {p : Operator} (stack : List Token)
    (h : ∀ t ∈ ready, ∃ o : Operator, t = .operator o.text ∧ o.yields p = true) :
    release p.text (ready ++ stack) =
      { release p.text stack with released := ready ++ (release p.text stack).released } := by
  induction ready with
  | nil => rfl
  | cons t ready ih =>
    obtain ⟨⟨o, rfl, ho⟩, hready⟩ := List.forall_mem_cons.mp h
    rw [List.cons_append, release_operator, if_pos ho, ih hready]
    rfl

/-- A token on the stack that makes way for an operator: an operator that yields to it. -/
def Yields (incoming : String) (t : Token) : Prop :=
  ∃ top, t = .operator top ∧ Operator.textYields top incoming = .ok true

/-- What keeps an operator from being compared with the top of a stack. -/
def obstacle? (incoming : String) : List Token → Option Failure
  | .operator top :: _ =>
    match Operator.textYields top incoming with
    | .ok _ => none
    | .error e => some e
  | _ => none

theorem release_of_yields {incoming : String} (h : Yields incoming t) (below : List Token) :
    release incoming (t :: below) =
      { release incoming below with released := t :: (release incoming below).released } := by
  obtain ⟨top, rfl, hyields⟩ := h
  rw [release, hyields]

theorem release_of_stays {incoming : String} (h : ∀ t ∈ stack.head?, ¬ Yields incoming t) :
    release incoming stack = ⟨[], stack, obstacle? incoming stack⟩ := by
  unfold release
  split
  · next top below =>
    cases hyields : Operator.textYields top incoming with
    | error e => rw [obstacle?, hyields]
    | ok yields =>
      cases yields with
      | false => rw [obstacle?, hyields]
      | true => exact absurd ⟨top, rfl, hyields⟩ (h (.operator top) rfl)
  · next hother =>
    rw [obstacle?]
    exact hother

/-- A release takes from the top whatever yields, and ends at the first token that does not. -/
theorem exists_release (incoming : String) : ∀ stack : List Token, ∃ ready rest,
    stack = ready ++ rest ∧ (∀ t ∈ ready, Yields incoming t) ∧
      (∀ t ∈ rest.head?, ¬ Yields incoming t) ∧
      release incoming stack = ⟨ready, rest, obstacle? incoming rest⟩
  | [] => ⟨[], [], rfl, by simp, by simp, rfl⟩
  | t :: below => by
    by_cases h : Yields incoming t
    · obtain ⟨ready, rest, rfl, hready, hrest, hrelease⟩ := exists_release incoming below
      refine ⟨t :: ready, rest, rfl, List.forall_mem_cons.mpr ⟨h, hready⟩, hrest, ?_⟩
      rw [release_of_yields h, hrelease]
    · have hstays : ∀ u ∈ (t :: below).head?, ¬ Yields incoming u := by simpa using h
      exact ⟨[], t :: below, rfl, by simp, hstays, release_of_stays hstays⟩

/-- What is released are operators from the top of the stack. -/
theorem release_split (incoming : String) (stack : List Token) : ∃ ready rest failure,
    release incoming stack = ⟨ready, rest, failure⟩ ∧ stack = ready ++ rest ∧
      ∀ t ∈ ready, ∃ s, t = .operator s := by
  obtain ⟨ready, rest, hstack, hready, -, hrelease⟩ := exists_release incoming stack
  refine ⟨ready, rest, _, hrelease, hstack, fun t ht => ?_⟩
  obtain ⟨s, rfl, -⟩ := hready t ht
  exact ⟨s, rfl⟩

/-- No operator starts a group. -/
theorem isOpen_of_operators (h : ∀ t ∈ ready, ∃ s, t = .operator s) :
    ∀ t ∈ ready, t.isOpen = false := by
  intro t ht
  obtain ⟨s, rfl⟩ := h t ht
  rfl

theorem feed_operator {incoming : String} (h : release incoming y.stack = ⟨ready, rest, none⟩) :
    y.feed (.operator incoming) = .ok ⟨.operator incoming :: rest, y.output ++ ready⟩ := by
  simp [feed, addOperator, Token.text, h, push]

theorem feed_operator_error {incoming : String} {e : Failure}
    (h : release incoming y.stack = ⟨ready, rest, some e⟩) :
    y.feed (.operator incoming) = .error e := by
  simp [feed, addOperator, Token.text, h]

/-- An operator that is taken in lies on what it did not release. -/
theorem feed_operator_eq_ok {incoming : String} (h : y.feed (.operator incoming) = .ok z) :
    ∃ ready rest, release incoming y.stack = ⟨ready, rest, none⟩ ∧ y.stack = ready ++ rest ∧
      (∀ t ∈ ready, ∃ s, t = .operator s) ∧ z = ⟨.operator incoming :: rest, y.output ++ ready⟩ := by
  obtain ⟨ready, rest, failure, hrelease, hstack, hready⟩ := release_split incoming y.stack
  cases failure with
  | some e =>
    rw [feed_operator_error hrelease] at h
    cases h
  | none =>
    rw [feed_operator hrelease, Except.ok.injEq] at h
    exact ⟨ready, rest, hrelease, hstack, hready, h.symm⟩

/-! ### Groups -/

/-- A function on top has its operand complete. -/
theorem attachFunction_function (f : String) (arity : Int) (below : List Token)
    (output : Array Token) :
    attachFunction ⟨.function f arity :: below, output⟩ =
      ⟨below, output ++ [Token.function f arity]⟩ := by
  simp [attachFunction]

theorem attachFunction_of_head (output : Array Token)
    (h : ∀ t ∈ stack.head?, t.isFunction = false) :
    attachFunction ⟨stack, output⟩ = ⟨stack, output⟩ := by
  unfold attachFunction
  split
  · next heq =>
    obtain rfl : stack = _ := heq
    simp [Token.isFunction] at h
  · rfl

/-- A group is open, or none is. -/
theorem open_or_closed (stack : List Token) :
    (∃ t ∈ stack, t.isOpen = true) ∨ ∀ t ∈ stack, t.isOpen = false := by
  by_cases hopen : ∃ t ∈ stack, t.isOpen = true
  · exact .inl hopen
  · exact .inr (by simpa using hopen)

/-- Where a group is open, the stack can be split at its topmost parenthesis. -/
theorem exists_open_split (h : ∃ t ∈ stack, t.isOpen = true) :
    ∃ inner o below, stack = inner ++ .leftParen o :: below ∧ ∀ t ∈ inner, t.isOpen = false := by
  induction stack with
  | nil => simp at h
  | cons t stack ih =>
    cases ht : t.isOpen with
    | true =>
      cases t <;> simp only [Token.isOpen, Bool.false_eq_true] at ht
      next o => exact ⟨[], o, stack, rfl, by simp⟩
    | false =>
      obtain ⟨u, hu, hopen⟩ := h
      have hu' : u ∈ stack := by
        rcases List.mem_cons.mp hu with rfl | hu
        · rw [ht] at hopen; cases hopen
        · exact hu
      obtain ⟨inner, o, below, rfl, hinner⟩ := ih ⟨u, hu', hopen⟩
      exact ⟨t :: inner, o, below, rfl, List.forall_mem_cons.mpr ⟨ht, hinner⟩⟩

/-- What is above the topmost parenthesis goes to the output, and the parenthesis goes away. -/
theorem popUntilOpen_open (o : String) (below : List Token) (output : Array Token)
    (h : ∀ t ∈ inner, t.isOpen = false) :
    popUntilOpen ⟨inner ++ .leftParen o :: below, output⟩ = (true, ⟨below, output ++ inner⟩) := by
  have hall : ∀ t ∈ inner, (!t.isOpen) = true := by
    intro t ht
    rw [h t ht]
    rfl
  have htake : (inner ++ .leftParen o :: below).takeWhile (!·.isOpen) = inner := by
    rw [List.takeWhile_append_of_pos hall]
    simp [Token.isOpen]
  have hdrop : (inner ++ .leftParen o :: below).dropWhile (!·.isOpen) =
      .leftParen o :: below := by
    rw [List.dropWhile_append_of_pos hall]
    rfl
  simp [popUntilOpen, htake, hdrop]

/-- Where no group is open everything goes to the output. -/
theorem popUntilOpen_closed (h : ∀ t ∈ y.stack, t.isOpen = false) :
    y.popUntilOpen = (false, ⟨[], y.output ++ y.stack⟩) := by
  have hall : ∀ t ∈ y.stack, (!t.isOpen) = true := by simpa using h
  have htake : y.stack.takeWhile (!·.isOpen) = y.stack := List.takeWhile_eq_self_iff.mpr hall
  have hdrop : y.stack.dropWhile (!·.isOpen) = [] := List.dropWhile_eq_nil_iff.mpr hall
  simp [popUntilOpen, htake, hdrop]

theorem closeGroup_open (o : String) (below : List Token) (output : Array Token)
    (h : ∀ t ∈ inner, t.isOpen = false) :
    closeGroup ⟨inner ++ .leftParen o :: below, output⟩ =
      .ok (attachFunction ⟨below, output ++ inner⟩) := by
  rw [closeGroup, popUntilOpen_open o below output h]

theorem closeGroup_error (h : ∀ t ∈ y.stack, t.isOpen = false) :
    y.closeGroup = .error .unmatchedClose := by
  rw [closeGroup, popUntilOpen_closed h]

/-- The end of a group takes away what is above the last parenthesis, the parenthesis and a function
    directly below it. -/
theorem feed_rightParen_open {o : String}
    (hstack : y.stack = inner ++ .leftParen o :: (called ++ rest))
    (hinner : ∀ t ∈ inner, t.isOpen = false)
    (hcalled : (∃ f arity, called = [.function f arity]) ∨
      called = [] ∧ ∀ t ∈ rest.head?, t.isFunction = false) (c : String) :
    y.feed (.rightParen c) = .ok ⟨rest, y.output ++ (inner ++ called)⟩ := by
  have hclose : y.feed (.rightParen c) =
      .ok (attachFunction ⟨called ++ rest, y.output ++ inner⟩) := by
    rw [feed_rightParen, ← closeGroup_open o (called ++ rest) _ hinner, ← hstack]
  rcases hcalled with ⟨f, arity, rfl⟩ | ⟨rfl, hhead⟩
  · rw [hclose, List.singleton_append, attachFunction_function, output_append]
  · rw [hclose, List.nil_append, attachFunction_of_head _ hhead, List.append_nil]

/-- A stack is a function on top and what is below it, or has no function on top. -/
theorem exists_called_split (stack : List Token) : ∃ called rest, stack = called ++ rest ∧
    ((∃ f arity, called = [.function f arity]) ∨
      called = [] ∧ ∀ t ∈ rest.head?, t.isFunction = false) := by
  by_cases hf : ∃ f arity rest, stack = .function f arity :: rest
  · obtain ⟨f, arity, rest, rfl⟩ := hf
    exact ⟨[.function f arity], rest, rfl, .inl ⟨f, arity, rfl⟩⟩
  · refine ⟨[], stack, rfl, .inr ⟨rfl, fun t ht => ?_⟩⟩
    obtain ⟨rest, rfl⟩ := List.head?_eq_some_iff.mp ht
    cases t with
    | function f arity => exact absurd ⟨f, arity, rest, rfl⟩ hf
    | _ => rfl

/-- What the end of a group does: it fails if no group is open, and else takes the group away. -/
theorem feed_rightParen_cases (y : Yard) (c : String) :
    ((∀ t ∈ y.stack, t.isOpen = false) ∧ y.feed (.rightParen c) = .error .unmatchedClose) ∨
    ∃ inner o attached rest,
      y.stack = inner ++ .leftParen o :: (attached ++ rest) ∧ (∀ t ∈ inner, t.isOpen = false) ∧
      ((∃ f arity, attached = [.function f arity]) ∨
        attached = [] ∧ ∀ t ∈ rest.head?, t.isFunction = false) ∧
      y.feed (.rightParen c) = .ok ⟨rest, y.output ++ (inner ++ attached)⟩ := by
  rcases open_or_closed y.stack with hopen | hclosed
  · obtain ⟨inner, o, below, hstack, hinner⟩ := exists_open_split hopen
    obtain ⟨called, rest, rfl, hcalled⟩ := exists_called_split below
    exact .inr ⟨inner, o, called, rest, hstack, hinner, hcalled,
      feed_rightParen_open hstack hinner hcalled c⟩
  · exact .inl ⟨hclosed, closeGroup_error hclosed⟩

/-- A group whose end is taken in was open. -/
theorem feed_rightParen_eq_ok {c : String} (h : y.feed (.rightParen c) = .ok z) :
    ∃ inner o called rest,
      y.stack = inner ++ .leftParen o :: (called ++ rest) ∧ (∀ t ∈ inner, t.isOpen = false) ∧
      ((∃ f arity, called = [.function f arity]) ∨
        called = [] ∧ ∀ t ∈ rest.head?, t.isFunction = false) ∧
      z = ⟨rest, y.output ++ (inner ++ called)⟩ := by
  rcases feed_rightParen_cases y c with
    ⟨-, hfeed⟩ | ⟨inner, o, called, rest, hstack, hinner, hcalled, hfeed⟩
  · rw [hfeed] at h
    cases h
  · rw [hfeed, Except.ok.injEq] at h
    exact ⟨inner, o, called, rest, hstack, hinner, hcalled, h.symm⟩

/-! ### Any token at all -/

/-- How the yard changes on a token that it takes in. From the top of the stack go those that are
    ready, then the parenthesis of a group that ends, then the function that called the group. -/
structure Shunts (y : Yard) (t : Token) (z : Yard) (ready opening called rest : List Token) :
    Prop where
  before : y.stack = ready ++ (opening ++ (called ++ rest))
  after : z.stack = [t].filter Token.mayWait ++ rest
  output : z.output.toList = y.output.toList ++ (ready ++ called ++ [t].filter Token.isOperand)
  closed : ∀ u ∈ ready ++ called, u.isOpen = false
  opening : ∀ u ∈ opening, u.isOpen = true

theorem feed_shunts (h : y.feed t = .ok z) :
    ∃ ready opening called rest, Shunts y t z ready opening called rest := by
  cases t with
  | number s | identifier s | plain s | function s arity | leftParen s =>
    simp only [feed_number, feed_identifier, feed_plain, feed_function, feed_leftParen,
      Except.ok.injEq] at h
    subst h
    exact ⟨[], [], [], y.stack, rfl, rfl, by simp [List.filter, Token.isOperand], by simp, by simp⟩
  | operator s =>
    obtain ⟨ready, rest, -, hstack, hready, rfl⟩ := feed_operator_eq_ok h
    refine ⟨ready, [], [], rest, hstack, rfl, by simp [Token.isOperand], ?_, by simp⟩
    rw [List.append_nil]
    exact isOpen_of_operators hready
  | rightParen c =>
    obtain ⟨inner, o, called, rest, hstack, hinner, hcalled, rfl⟩ := feed_rightParen_eq_ok h
    refine ⟨inner, [.leftParen o], called, rest, hstack, rfl, by simp [Token.isOperand], ?_,
      by simp [Token.isOpen]⟩
    rcases hcalled with ⟨f, arity, rfl⟩ | ⟨rfl, -⟩
    · exact List.forall_mem_append.mpr ⟨hinner, by simp [Token.isOpen]⟩
    · rwa [List.append_nil]

/-- Only tokens that may wait are left waiting. -/
theorem Shunts.waits (h : Shunts y t z ready opening called rest)
    (hy : ∀ u ∈ y.stack, u.mayWait = true) : ∀ u ∈ z.stack, u.mayWait = true := by
  rw [h.before] at hy
  rw [h.after]
  refine List.forall_mem_append.mpr ⟨fun u hu => (List.mem_filter.mp hu).2, fun u hu => hy u ?_⟩
  simp [hu]

theorem feedAll_concat {ts : List Token} (h : y.feedAll (ts ++ [t]) = .ok z) :
    ∃ x, y.feedAll ts = .ok x ∧ x.feed t = .ok z := by
  rw [feedAll_append] at h
  obtain ⟨x, hx, h⟩ := exists_of_bind_eq_ok h
  rw [feedAll_cons] at h
  obtain ⟨z', hfeed, h⟩ := exists_of_bind_eq_ok h
  cases h
  exact ⟨x, hx, hfeed⟩

/-- What holds at the start of a run, and is kept by each token that is taken in, holds of the
    tokens read and the yard at any time. -/
theorem feedAll_induction {P : List Token → Yard → Prop} (hstart : P [] y)
    (hfeed : ∀ {ts x t z}, P ts x → feed x t = .ok z → P (ts ++ [t]) z) {ts : List Token}
    (h : y.feedAll ts = .ok z) : P ts z := by
  induction ts using List.reverseRecOn generalizing z with
  | nil =>
    cases h
    exact hstart
  | append_singleton ts t ih =>
    obtain ⟨x, hx, hz⟩ := feedAll_concat h
    exact hfeed (ih hx) hz

theorem feedAll_waits {ts : List Token} (hy : ∀ u ∈ y.stack, u.mayWait = true)
    (h : y.feedAll ts = .ok z) : ∀ u ∈ z.stack, u.mayWait = true := by
  refine feedAll_induction (P := fun _ z => ∀ u ∈ z.stack, u.mayWait = true) hy ?_ h
  intro ts x t z hwaits hfeed
  obtain ⟨ready, opening, called, rest, hshunts⟩ := feed_shunts hfeed
  exact hshunts.waits hwaits

/-! ### The end of the expression -/

theorem drain_of_closed (h : ∀ t ∈ y.stack, t.isOpen = false) :
    y.drain = .ok (y.output.toList ++ y.stack) := by
  have hany : y.stack.any Token.isOpen = false := by simpa using h
  simp [drain, hany]

theorem drain_of_open (h : ∃ t ∈ y.stack, t.isOpen = true) : y.drain = .error .unmatchedOpen := by
  have hany : y.stack.any Token.isOpen = true := by simpa using h
  simp [drain, hany]

theorem drain_eq_ok {us : List Token} (h : y.drain = .ok us) :
    (∀ t ∈ y.stack, t.isOpen = false) ∧ us = y.output.toList ++ y.stack := by
  rcases open_or_closed y.stack with hopen | hclosed
  · rw [drain_of_open hopen] at h
    cases h
  · rw [drain_of_closed hclosed, Except.ok.injEq] at h
    exact ⟨hclosed, h.symm⟩

end ShuntingYard.Yard

namespace ShuntingYard

theorem countP_isOpen_eq_zero {l : List Token} (h : ∀ t ∈ l, t.isOpen = false) :
    l.countP Token.isOpen = 0 :=
  List.countP_eq_zero.mpr fun t ht => by simp [h t ht]

/-- Reordering takes everything in and then ends the expression. -/
theorem convert_eq (ts : List Token) : convert ts = (Yard.empty.feedAll ts).bind Yard.drain := rfl

/-- Where reordering succeeds everything is taken in, no group is left open, and what waits in the
    end follows what is out. -/
theorem convert_eq_ok {ts us : List Token} (h : convert ts = .ok us) :
    ∃ y, Yard.empty.feedAll ts = .ok y ∧ (∀ t ∈ y.stack, t.isOpen = false) ∧
      us = y.output.toList ++ y.stack := by
  obtain ⟨y, hy, hdrain⟩ := exists_of_bind_eq_ok h
  exact ⟨y, hy, Yard.drain_eq_ok hdrain⟩

end ShuntingYard
