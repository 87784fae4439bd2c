import Mathlib.Algebra.BigOperators.Group.List.Basic
import Mathlib.Algebra.Order.Group.Multiset
import ShuntingYard.Proofs.Feed
import ShuntingYard.Yard.Move

/-! The accounts of a yard that is operated by hand. Whatever moves are made, on tokens of any kind,
    and whichever of them fail, what was sent out stays out, and no token is lost or doubled:

        in the yard  +  parentheses dropped  =  brought in

    where a move brings its token in unless it fails. Each move keeps the accounts (`apply_accounts`),
    and so does each list of them (`play_accounts`). -/

namespace ShuntingYard.Yard

/-- All tokens in a yard, waiting or out, in no order. -/
def held (y : Yard) : Multiset Token := ↑y.stack + ↑y.output.toList

/-- What a move brings into the yard, by its outcome. -/
def Move.brings : Move → Except Failure (Option Bool) → Multiset Token
  | .push t, _ | .emit t, _ | .addOperator t, .ok _ => {t}
  | .addOperator _, .error _ | .popUntilOpen, _ => 0

/-- Whether a move has dropped an open parenthesis, by its outcome. -/
def Move.drops : Move → Except Failure (Option Bool) → Bool
  | .popUntilOpen, .ok (some found) => found
  | _, _ => false

/-- The yard before the first move and after each. -/
def moments (y : Yard) (ms : List Move) : List Yard := y :: (y.play ms).map Prod.snd

/-- The moves with their outcomes. -/
def ledger (y : Yard) (ms : List Move) : List (Move × Except Failure (Option Bool)) :=
  ms.zip ((y.play ms).map Prod.fst)

variable {y z : Yard} {m : Move} {ms : List Move} {t : Token} {i : ℕ}

/-! ### Single moves -/

/-- What emptying the stack does: down to the topmost open parenthesis, if there is one. -/
theorem popUntilOpen_cases (y : Yard) :
    (∃ (inner : List Token) (o : String) (below : List Token),
      y.stack = inner ++ .leftParen o :: below ∧ (∀ t ∈ inner, t.isOpen = false) ∧
      y.popUntilOpen = (true, ⟨below, y.output ++ inner⟩)) ∨
    (∀ t ∈ y.stack, t.isOpen = false) ∧ y.popUntilOpen = (false, ⟨[], y.output ++ y.stack⟩) := by
  rcases open_or_closed y.stack with hopen | hclosed
  · obtain ⟨inner, o, below, hstack, hinner⟩ := exists_open_split hopen
    refine .inl ⟨inner, o, below, hstack, hinner, ?_⟩
    rw [← popUntilOpen_open o below y.output hinner, ← hstack]
  · exact .inr ⟨hclosed, popUntilOpen_closed hclosed⟩

/-- What adding an operator does: tokens from the top go to the output, and the operator comes on top
    of the rest unless this fails. -/
theorem addOperator_cases (y : Yard) (t : Token) : ∃ ready rest : List Token,
    y.stack = ready ++ rest ∧
    (y.addOperator t = (.ok (), ⟨t :: rest, y.output ++ ready⟩) ∨
      ∃ e, y.addOperator t = (.error e, ⟨rest, y.output ++ ready⟩)) := by
  obtain ⟨ready, rest, failure, hrelease, hstack, -⟩ := release_split t.text y.stack
  refine ⟨ready, rest, hstack, ?_⟩
  rw [addOperator, hrelease]
  cases failure with
  | none => exact .inl rfl
  | some e => exact .inr ⟨e, rfl⟩

/-- What is out stays out. -/
theorem output_prefix_apply (y : Yard) (m : Move) :
    y.output.toList <+: (y.apply m).2.output.toList := by
  cases m with
  | push t => exact List.prefix_rfl
  | emit t =>
    rw [apply, emit, Array.toList_push]
    exact List.prefix_append _ _
  | addOperator t =>
    obtain ⟨ready, rest, -, hadd | ⟨e, hadd⟩⟩ := addOperator_cases y t
    all_goals simp [apply, hadd]
  | popUntilOpen =>
    rcases popUntilOpen_cases y with ⟨inner, o, below, -, -, hpop⟩ | ⟨-, hpop⟩
    all_goals simp [apply, hpop]

/-- Tokens that go from the stack to the output stay in the yard. -/
theorem held_output (stack ready : List Token) (output : Array Token) :
    held ⟨stack, output ++ ready⟩ = held ⟨ready ++ stack, output⟩ := by
  simp only [held, Array.toList_appendList, ← Multiset.coe_add]
  rw [add_comm (output.toList : Multiset Token), ← add_assoc, add_comm (stack : Multiset Token)]

theorem held_cons (t : Token) (stack : List Token) (output : Array Token) :
    held ⟨t :: stack, output⟩ = held ⟨stack, output⟩ + {t} := by
  rw [held, held, ← Multiset.cons_coe, ← Multiset.singleton_add, add_assoc, add_comm]

theorem held_emit (y : Yard) (t : Token) : (y.emit t).held = y.held + {t} := by
  rw [emit, held, held, Array.toList_push, ← Multiset.coe_add, Multiset.coe_singleton, add_assoc]

/-- Each move keeps the accounts. -/
theorem apply_accounts (y : Yard) (m : Move) : ∃ dropped : Multiset Token,
    (∀ t ∈ dropped, t.isOpen = true) ∧
    dropped.card = (if m.drops (y.apply m).1 then 1 else 0) ∧
    (y.apply m).2.held + dropped = y.held + m.brings (y.apply m).1 := by
  cases m with
  | push t =>
    refine ⟨0, by simp, rfl, ?_⟩
    rw [add_zero]
    exact held_cons t y.stack y.output
  | emit t =>
    refine ⟨0, by simp, rfl, ?_⟩
    rw [add_zero]
    exact held_emit y t
  | addOperator t =>
    refine ⟨0, by simp, rfl, ?_⟩
    obtain ⟨ready, rest, hstack, hadd⟩ := addOperator_cases y t
    have hheld : held ⟨rest, y.output ++ ready⟩ = y.held := by
      rw [held_output, ← hstack]
    rcases hadd with hadd | ⟨e, hadd⟩
    · simp only [apply, hadd, held_cons, hheld, add_zero]
      rfl
    · simp only [apply, hadd, hheld]
      rfl
  | popUntilOpen =>
    rcases popUntilOpen_cases y with ⟨inner, o, below, hstack, -, hpop⟩ | ⟨-, hpop⟩
    · have hheld : y.held = held ⟨below, y.output ++ inner⟩ + {.leftParen o} := by
        rw [← held_cons, held_output, ← hstack]
      refine ⟨{.leftParen o}, by simp [Token.isOpen], ?_, ?_⟩
      · simp only [apply, hpop]
        rfl
      · simp only [apply, hpop, hheld]
        exact (add_zero _).symm
    · refine ⟨0, by simp, ?_, ?_⟩
      · simp only [apply, hpop]
        rfl
      · simp only [apply, hpop, held_output, List.append_nil]
        rfl

/-- Only operators fail to come in, and a failure costs no token that the yard holds. -/
theorem apply_error {e : Failure} (h : (y.apply m).1 = .error e) :
    (∃ t, m = .addOperator t) ∧ (y.apply m).2.held = y.held := by
  cases m with
  | push t | emit t => cases h
  | popUntilOpen => cases h
  | addOperator t =>
    obtain ⟨dropped, -, hcard, haccounts⟩ := apply_accounts y (.addOperator t)
    rw [h] at hcard haccounts
    obtain rfl : dropped = 0 := Multiset.card_eq_zero.mp hcard
    simp only [Move.brings, add_zero] at haccounts
    exact ⟨⟨t, rfl⟩, haccounts⟩

/-! ### Moves one after another -/

theorem length_play (y : Yard) (ms : List Move) : (y.play ms).length = ms.length := by
  induction ms generalizing y with
  | nil => rfl
  | cons m ms ih => simp [play, ih]

theorem moments_cons (y : Yard) (m : Move) (ms : List Move) :
    y.moments (m :: ms) = y :: (y.apply m).2.moments ms := rfl

theorem ledger_cons (y : Yard) (m : Move) (ms : List Move) :
    y.ledger (m :: ms) = (m, (y.apply m).1) :: (y.apply m).2.ledger ms := rfl

/-- Each move is made in the yard as it then is. -/
theorem getElem?_play (hz : (y.moments ms)[i]? = some z) (hm : ms[i]? = some m) :
    (y.play ms)[i]? = some (z.apply m) := by
  induction i generalizing y ms with
  | zero =>
    obtain ⟨later, rfl⟩ := List.head?_eq_some_iff.mp (List.head?_eq_getElem?.trans hm)
    cases hz
    rfl
  | succ i ih =>
    cases ms with
    | nil => simp at hm
    | cons m' ms => exact ih hz hm

/-- What is out at one moment is out at all later ones. -/
theorem pairwise_output (y : Yard) (ms : List Move) : (y.moments ms).Pairwise
    fun before after => before.output.toList <+: after.output.toList := by
  induction ms generalizing y with
  | nil => exact List.pairwise_singleton _ _
  | cons m ms ih =>
    rw [moments_cons]
    refine List.pairwise_cons.mpr ⟨fun z hz => (output_prefix_apply y m).trans ?_, ih _⟩
    rcases List.mem_cons.mp hz with rfl | hz
    · exact List.prefix_rfl
    · exact List.rel_of_pairwise_cons (ih _) hz

/-- Moves made one after another keep the accounts at every moment. -/
theorem play_accounts (hz : (y.moments ms)[i]? = some z) : ∃ dropped : Multiset Token,
    (∀ t ∈ dropped, t.isOpen = true) ∧
    dropped.card = ((y.ledger ms).take i).countP (fun entry => entry.1.drops entry.2) ∧
    z.held + dropped =
      y.held + (((y.ledger ms).take i).map fun entry => entry.1.brings entry.2).sum := by
  induction i generalizing y ms with
  | zero =>
    cases hz
    exact ⟨0, by simp, rfl, rfl⟩
  | succ i ih =>
    cases ms with
    | nil => simp [moments, play] at hz
    | cons m ms =>
      obtain ⟨now, hnow, hcard, haccounts⟩ := apply_accounts y m
      obtain ⟨later, hlater, hcard', haccounts'⟩ := ih hz
      refine ⟨now + later, fun t ht => ?_, ?_, ?_⟩
      · rcases Multiset.mem_add.mp ht with ht | ht
        · exact hnow t ht
        · exact hlater t ht
      · rw [ledger_cons, List.take_succ_cons, List.countP_cons, Multiset.card_add, hcard, hcard',
          add_comm]
      · rw [ledger_cons, List.take_succ_cons, List.map_cons, List.sum_cons]
        -- the first move is settled as soon as what it dropped is set beside the yard it left
        calc z.held + (now + later)
            = z.held + later + now := by rw [add_comm now, add_assoc]
          _ = (y.apply m).2.held + _ + now := by rw [haccounts']
          _ = (y.apply m).2.held + now + _ := add_right_comm _ _ _
          _ = y.held + m.brings (y.apply m).1 + _ := by rw [haccounts]
          _ = _ := add_assoc _ _ _

/-- Whatever moves are made from the empty yard on, each has an outcome, and play goes on.

    * What was sent out stays out, in its order.
    * At every moment the yard holds exactly the tokens that were brought in by moves that did not
      fail, minus an open parenthesis for each time that emptying the stack found one.
    * Only adding an operator can fail. The operator may then be lost, but no token in the yard.
    * Emptying the stack finds an open parenthesis if there is one. The topmost goes away, and what
      was above it goes to the output from the top; else the whole stack does. -/
theorem play_conserves (ms : List Move) :
    (empty.play ms).length = ms.length ∧
    (empty.moments ms).Pairwise
      (fun before after => before.output.toList <+: after.output.toList) ∧
    ∀ (i : ℕ) (y : Yard), (empty.moments ms)[i]? = some y →
      (∃ dropped : Multiset Token, (∀ t ∈ dropped, t.isOpen = true) ∧
        dropped.card = ((empty.ledger ms).take i).countP (fun entry => entry.1.drops entry.2) ∧
        y.held + dropped =
          (((empty.ledger ms).take i).map fun entry => entry.1.brings entry.2).sum) ∧
      (∀ e z, (empty.play ms)[i]? = some (.error e, z) →
        (∃ t, ms[i]? = some (.addOperator t)) ∧ z.held = y.held) ∧
      (ms[i]? = some .popUntilOpen → ∃ (found : Bool) (z : Yard),
        (empty.play ms)[i]? = some (.ok (some found), z) ∧
        (found = true ↔ ∃ t ∈ y.stack, t.isOpen = true) ∧
        (found = true → ∃ (inner : List Token) (o : String) (below : List Token),
          y.stack = inner ++ .leftParen o :: below ∧ (∀ t ∈ inner, t.isOpen = false) ∧
          z = ⟨below, y.output ++ inner⟩) ∧
        (found = false → z = ⟨[], y.output ++ y.stack⟩)) := by
  refine ⟨length_play _ ms, pairwise_output _ ms, fun i y hy => ⟨?_, fun e z hz => ?_, fun hm => ?_⟩⟩
  · obtain ⟨dropped, hopen, hcard, haccounts⟩ := play_accounts hy
    exact ⟨dropped, hopen, hcard, haccounts.trans (zero_add _)⟩
  · have hi : i < ms.length := by
      rw [← length_play empty ms]
      exact (List.getElem?_eq_some_iff.mp hz).1
    have hm : ms[i]? = some ms[i] := List.getElem?_eq_getElem hi
    have happly : y.apply ms[i] = (.error e, z) := by
      rw [getElem?_play hy hm] at hz
      exact Option.some.inj hz
    obtain ⟨⟨t, ht⟩, hheld⟩ := apply_error (congrArg Prod.fst happly)
    rw [happly] at hheld
    exact ⟨⟨t, hm.trans (congrArg some ht)⟩, hheld⟩
  · rcases popUntilOpen_cases y with ⟨inner, o, below, hstack, hinner, hpop⟩ | ⟨hclosed, hpop⟩
    · have hopen : ∃ t ∈ y.stack, t.isOpen = true := ⟨.leftParen o, by simp [hstack], rfl⟩
      refine ⟨true, ⟨below, y.output ++ inner⟩, ?_, iff_of_true rfl hopen,
        fun _ => ⟨inner, o, below, hstack, hinner, rfl⟩, nofun⟩
      rw [getElem?_play hy hm, apply, hpop]
    · refine ⟨false, ⟨[], y.output ++ y.stack⟩, ?_, by simpa using hclosed, nofun, fun _ => rfl⟩
      rw [getElem?_play hy hm, apply, hpop]

/-- The sum meets an unknown operator when the product is already out, and is lost; the unknown one,
    the product and the name come out, and the parenthesis goes away. -/
theorem play_conserves_failed : ∃ dropped : Multiset Token,
    (∀ t ∈ dropped, t.isOpen = true) ∧ dropped.card = 1 ∧
    held ⟨[], #[.operator "*", .operator "%", .identifier "x"]⟩ + dropped =
      {.operator "%", .operator "*", .leftParen "(", .identifier "x"} := by
  obtain ⟨dropped, hopen, hcard, haccounts⟩ := ((play_conserves [.push (.operator "%"),
    .push (.operator "*"), .addOperator (.operator "+"), .popUntilOpen, .push (.leftParen "("),
    .push (.identifier "x"), .popUntilOpen]).2.2 7 _ rfl).1
  exact ⟨dropped, hopen, hcard, haccounts⟩

end ShuntingYard.Yard
