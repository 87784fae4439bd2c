import Mathlib.Data.List.Infix
import ShuntingYard.Proofs.Settled

/-! When a token leaves the yard, said without the yard. Operands, operators and functions leave once:

        an operand     at once
        an operator    at the next operator of its group that it yields to, or at the end of the group
        a function     at the end of the group that it stands before

    The output is the tokens in the order in which they leave; of those that leave together the last
    to come is the first to go. This holds of all tokens with balanced parentheses and known operators,
    in any order, as long as functions stand before groups.

    The proof has the stack stand for what is still due. A token that comes takes what leaves on it
    from what is due, and nothing else becomes due at another time (`Moves`). -/

namespace ShuntingYard

/-! ### Times of departure -/

/-- How far ahead the group ends that is `depth` groups further out than the place of reading, or one
    of its operators ends the wait. The end of the tokens ends all groups. -/
def ahead (ends : String → Bool) : Nat → List Token → Nat
  | _, [] => 0
  | depth, .leftParen _ :: rest => ahead ends (depth + 1) rest + 1
  | 0, .rightParen _ :: _ => 0
  | depth + 1, .rightParen _ :: rest => ahead ends depth rest + 1
  | 0, .operator s :: rest => if ends s then 0 else ahead ends 0 rest + 1
  | depth, _ :: rest => ahead ends depth rest + 1

/-- How far ahead a group ends. -/
def groupEnd : Nat → List Token → Nat := ahead fun _ => false

/-- How far ahead the first operator is, of the group `depth` groups further out, that an operator of
    that group yields to; or the end of the group, if there is none. -/
def relief (text : String) : Nat → List Token → Nat :=
  ahead fun s => Operator.textYields text s = .ok true

/-- A token that leaves. -/
structure Departure where
  time : Nat
  position : Nat
  token : Token
  deriving DecidableEq, Repr

/-- Whether a departure is no later than another. Together the later token goes first. -/
def Departure.before (a b : Departure) : Bool :=
  a.time < b.time || (a.time == b.time && b.position ≤ a.position)

/-- The departures of the tokens that come from `position` on. -/
def departures : Nat → List Token → List Departure
  | _, [] => []
  | position, t :: rest =>
    match t with
    | .number _ | .identifier _ => ⟨position, position, t⟩ :: departures (position + 1) rest
    | .operator s =>
      ⟨position + 1 + relief s 0 rest, position, t⟩ :: departures (position + 1) rest
    | .function _ _ =>
      -- the group starts right behind the function
      ⟨position + 2 + groupEnd 0 rest.tail, position, t⟩ :: departures (position + 1) rest
    | _ => departures (position + 1) rest

/-- Parentheses match up, `depth` groups being open before. -/
def Balanced (depth : Nat) (ts : List Token) : Prop :=
  (∀ p, p <+: ts → p.countP Token.isClose ≤ depth + p.countP Token.isOpen) ∧
    ts.countP Token.isClose = depth + ts.countP Token.isOpen

instance (depth : Nat) (ts : List Token) : Decidable (Balanced depth ts) :=
  decidable_of_iff ((∀ p ∈ ts.inits, p.countP Token.isClose ≤ depth + p.countP Token.isOpen) ∧
    ts.countP Token.isClose = depth + ts.countP Token.isOpen) (by simp only [List.mem_inits]; rfl)

/-- All operators have the text of one. -/
def Known (ts : List Token) : Prop := ∀ s, Token.operator s ∈ ts → ∃ o : Operator, s = o.text

/-- Each function stands before a group. -/
def Applied : List Token → Prop
  | [] => True
  | t :: rest => (t.isFunction = true → rest.head?.any Token.isOpen = true) ∧ Applied rest

/-! ### What waits, and until when -/

/-- How long a token on the stack still waits, with `depth` groups open above it. -/
def wait : Token → Nat → List Token → Nat
  | .operator s, depth, rest => relief s depth rest
  | .function _ _, depth + 1, rest => groupEnd depth rest
  | .function _ _, 0, rest => groupEnd 0 rest.tail + 1
  | _, _, _ => 0

/-- The departures of the tokens on a stack, each with its position, before what comes from `position`
    on, with `depth` groups open above the stack. -/
def due (position : Nat) (rest : List Token) : Nat → List (Nat × Token) → List Departure
  | _, [] => []
  | depth, (_, .leftParen _) :: stack => due position rest (depth + 1) stack
  | depth, (p, t) :: stack => ⟨position + wait t depth rest, p, t⟩ :: due position rest depth stack

@[simp] theorem due_leftParen (p : Nat) (o : String) (position : Nat) (rest : List Token)
    (depth : Nat) (stack : List (Nat × Token)) :
    due position rest depth ((p, .leftParen o) :: stack) = due position rest (depth + 1) stack := rfl

theorem due_cons {t : Token} (ht : t.isOpen = false) (p position : Nat) (rest : List Token)
    (depth : Nat) (stack : List (Nat × Token)) : due position rest depth ((p, t) :: stack) =
      ⟨position + wait t depth rest, p, t⟩ :: due position rest depth stack := by
  cases t with
  | leftParen o => cases ht
  | _ => rfl

/-- Each token of a stack meets a condition, which is told what lies below the token and whether a
    group is open directly above it. Above the topmost token, one may be to come next. -/
def Throughout (P : Bool → Token → List Token → Prop) : Bool → List Token → Prop
  | _, [] => True
  | above, t :: below => P above t below ∧ Throughout P t.isOpen below

/-- A condition to which it matters for functions only whether a group is open directly above. -/
def MindsFunctions (P : Bool → Token → List Token → Prop) : Prop :=
  ∀ above above' t below, (t.isFunction = true → above' = true) → P above t below →
    P above' t below

/-- A function has a group directly above it. -/
def CalledAt (above : Bool) (t : Token) (_ : List Token) : Prop := t.isFunction = true → above = true

/-- All functions on a stack have a group directly above them. -/
def Called : Bool → List Token → Prop := Throughout CalledAt

/-- How the stack stands before `rest`. -/
structure Standing (position : Nat) (stack : List (Nat × Token)) (rest : List Token) : Prop where
  settled : Yard.Settled (stack.map Prod.snd)
  waits : ∀ e ∈ stack, e.2.mayWait = true
  known : Known (stack.map Prod.snd)
  called : Called (rest.head?.any Token.isOpen) (stack.map Prod.snd)
  earlier : ∀ e ∈ stack, e.1 < position
  descending : stack.Pairwise fun a b => b.1 < a.1
  balanced : Balanced ((stack.map Prod.snd).countP Token.isOpen) rest

/-! ### Invariants, one token at a time -/

variable {output : Array Token} {position depth : Nat} {stack : List (Nat × Token)}
variable {rest : List Token} {t u : Token}

theorem Balanced.tail {depth' : Nat} (h : Balanced depth (u :: rest))
    (hdepth : depth' + (if u.isClose then 1 else 0) = depth + if u.isOpen then 1 else 0) :
    Balanced depth' rest := by
  refine ⟨fun p hp => ?_, ?_⟩
  · have hle := h.1 (u :: p) (List.cons_prefix_cons.mpr ⟨rfl, hp⟩)
    rw [List.countP_cons, List.countP_cons] at hle
    omega
  · have heq := h.2
    rw [List.countP_cons, List.countP_cons] at heq
    omega

theorem Known.sublist {ts us : List Token} (h : Known us) (hsub : ts.Sublist us) : Known ts :=
  fun s hs => h s (hsub.subset hs)

section

variable {P : Bool → Token → List Token → Prop} {above above' : Bool} {l below : List Token}

/-- What comes on top of a stack matters to a function there, and to no other token. -/
theorem Throughout.top (hP : MindsFunctions P) (h : Throughout P above l)
    (hhead : ∀ t ∈ l.head?, t.isFunction = true → above' = true) : Throughout P above' l := by
  cases l with
  | nil => trivial
  | cons t l => exact ⟨hP _ _ _ _ (hhead t rfl) h.1, h.2⟩

theorem Throughout.mono (hP : MindsFunctions P) (h : Throughout P false l) :
    Throughout P above l := by
  cases above with
  | false => exact h
  | true => exact h.top hP fun _ _ _ => rfl

theorem Throughout.of_head (hP : MindsFunctions P) (h : Throughout P above l)
    (hhead : ∀ t ∈ l.head?, t.isFunction = false) : Throughout P false l :=
  h.top hP fun t ht hf => absurd hf (by simp [hhead t ht])

theorem Throughout.drop (h : Throughout P false (l ++ below))
    (hl : ∀ t ∈ l, t.isOpen = false) : Throughout P false below := by
  induction l with
  | nil => exact h
  | cons t l ih =>
    obtain ⟨ht, hl⟩ := List.forall_mem_cons.mp hl
    obtain ⟨_, h⟩ := h
    rw [ht] at h
    exact ih h hl

/-- Above the topmost parenthesis no token has a group directly above it. -/
theorem Throughout.of_mem (h : Throughout P false (l ++ below)) (hl : ∀ t ∈ l, t.isOpen = false)
    (ht : t ∈ l) : ∃ l₁ l₂, l = l₁ ++ t :: l₂ ∧ P false t (l₂ ++ below) := by
  obtain ⟨l₁, l₂, rfl⟩ := List.append_of_mem ht
  rw [List.append_assoc] at h
  exact ⟨l₁, l₂, rfl, (h.drop fun u hu => hl u (List.mem_append_left _ hu)).1⟩

theorem mindsFunctions_calledAt : MindsFunctions CalledAt := fun _ _ _ _ hf _ => hf

/-- Above the topmost parenthesis there is no function, unless it is called right now. -/
theorem Called.not_function (h : Called false (l ++ below)) (hl : ∀ t ∈ l, t.isOpen = false) :
    ∀ t ∈ l, t.isFunction = false := by
  intro t ht
  obtain ⟨_, _, -, hcall⟩ := Throughout.of_mem h hl ht
  exact Bool.eq_false_iff.mpr fun hf => absurd (hcall hf) (by simp)

end

/-! ### What comes next, seen from what waits -/

/-- What is no parenthesis is passed over, unless it is an operator that ends the wait. -/
theorem ahead_skip {ends : String → Bool} (hopen : u.isOpen = false) (hclose : u.isClose = false)
    (hends : ∀ s, u = .operator s → depth = 0 → ends s = false) :
    ahead ends depth (u :: rest) = ahead ends depth rest + 1 := by
  cases u with
  | leftParen o => cases hopen
  | rightParen c => cases hclose
  | operator s =>
    cases depth with
    | zero => rw [ahead, hends s rfl rfl]; rfl
    | succ depth => rfl
  | _ => cases depth <;> rfl

/-- Where a token waits one step less once `u` has been read, and what is below it leaves when it
    did, nothing is due at another time. -/
theorem due_cons_next {depth' : Nat} (ht : t.isOpen = false) (q : Nat)
    (hwait : wait t depth (u :: rest) = wait t depth' rest + 1)
    (ih : due position (u :: rest) depth stack = due (position + 1) rest depth' stack) :
    due position (u :: rest) depth ((q, t) :: stack) =
      due (position + 1) rest depth' ((q, t) :: stack) := by
  rw [due_cons ht, due_cons ht, ih, hwait, Nat.add_right_comm, Nat.add_assoc]

/-- An operator that settles on a stack ends no wait there, and other tokens that are no parentheses
    do not either. -/
theorem due_skip (hopen : u.isOpen = false) (hclose : u.isClose = false) :
    ∀ (depth : Nat) {stack : List (Nat × Token)} {above : Bool},
    (∀ e ∈ stack, e.2.mayWait = true) → Called above (stack.map Prod.snd) →
    (depth = 0 → above = false) →
    (depth = 0 → ∀ s, u = .operator s → Yard.Settled (.operator s :: stack.map Prod.snd)) →
    due position (u :: rest) depth stack = due (position + 1) rest depth stack
  | _, [], _, _, _, _, _ => rfl
  | depth, (q, t) :: stack, above, hwaits, ⟨hcall, hcalled⟩, habove, hsettled => by
    obtain ⟨hwait, hbelow⟩ := List.forall_mem_cons.mp hwaits
    cases t with
    | number s | identifier s | plain s | rightParen c => cases hwait
    | leftParen o =>
      rw [due_leftParen, due_leftParen]
      exact due_skip hopen hclose (depth + 1) hbelow hcalled (by simp) (by simp)
    | operator s' =>
      have ih := due_skip hopen hclose depth hbelow hcalled (fun _ => rfl)
        fun h s hs => (hsettled h s hs).skip
      refine due_cons_next rfl q (ahead_skip hopen hclose fun s hs hdepth => ?_) ih
      obtain ⟨o, p, rfl, rfl, hyields⟩ := (List.isChain_cons_cons.mp (hsettled hdepth s hs)).1
      rw [Operator.textYields_text, hyields]
      rfl
    | function f arity =>
      cases depth with
      | zero =>
        rw [habove rfl] at hcall
        cases hcall rfl
      | succ depth =>
        have ih := due_skip hopen hclose (depth + 1) hbelow hcalled (by simp) (by simp)
        exact due_cons_next rfl q (ahead_skip hopen hclose fun _ _ _ => rfl) ih

/-- A group that starts is one more open above what waits. -/
theorem due_open (o : String) (depth : Nat) (hwaits : ∀ e ∈ stack, e.2.mayWait = true) :
    due position (.leftParen o :: rest) depth stack =
      due (position + 1) rest (depth + 1) stack := by
  induction stack generalizing depth with
  | nil => rfl
  | cons e stack ih =>
    obtain ⟨q, t⟩ := e
    obtain ⟨hwait, hbelow⟩ := List.forall_mem_cons.mp hwaits
    cases t with
    | number s | identifier s | plain s | rightParen c => cases hwait
    | leftParen o' =>
      rw [due_leftParen, due_leftParen]
      exact ih (depth + 1) hbelow
    | operator s => exact due_cons_next rfl q (by cases depth <;> rfl) (ih depth hbelow)
    | function f arity =>
      refine due_cons_next rfl q ?_ (ih depth hbelow)
      rcases depth with _ | _ | depth <;> rfl

/-- A group that ends is one less open above what is below it. -/
theorem due_close (c : String) : ∀ (depth : Nat) {stack : List (Nat × Token)} {above : Bool},
    (∀ e ∈ stack, e.2.mayWait = true) → Called above (stack.map Prod.snd) →
    (depth = 0 → above = false) →
    due position (.rightParen c :: rest) (depth + 1) stack = due (position + 1) rest depth stack
  | _, [], _, _, _, _ => rfl
  | depth, (q, t) :: stack, above, hwaits, ⟨hcall, hcalled⟩, habove => by
    obtain ⟨hwait, hbelow⟩ := List.forall_mem_cons.mp hwaits
    cases t with
    | number s | identifier s | plain s | rightParen c => cases hwait
    | leftParen o =>
      rw [due_leftParen, due_leftParen]
      exact due_close c (depth + 1) hbelow hcalled (by simp)
    | operator s => exact due_cons_next rfl q rfl (due_close c depth hbelow hcalled fun _ => rfl)
    | function f arity =>
      cases depth with
      | zero =>
        rw [habove rfl] at hcall
        cases hcall rfl
      | succ depth =>
        exact due_cons_next rfl q rfl (due_close c (depth + 1) hbelow hcalled (by simp))

/-- What waits no longer leaves first. -/
theorem due_append (position : Nat) (rest : List Token) (stack : List (Nat × Token))
    {gone : List (Nat × Token)} (h : ∀ e ∈ gone, e.2.isOpen = false ∧ wait e.2 depth rest = 0) :
    due position rest depth (gone ++ stack) =
      gone.map (fun e => ⟨position, e.1, e.2⟩) ++ due position rest depth stack := by
  induction gone with
  | nil => rfl
  | cons e gone ih =>
    obtain ⟨⟨hopen, hwait⟩, hgone⟩ := List.forall_mem_cons.mp h
    rw [List.cons_append, due_cons hopen, ih hgone, hwait]
    rfl

/-- No operator waits beyond the end of its group. -/
theorem wait_at_end (ht : t.isFunction = false) :
    ∀ {rest : List Token}, (∀ u ∈ rest.head?, u.isClose = true) → wait t 0 rest = 0
  | [], _ => by
    cases t with
    | function f arity => cases ht
    | _ => rfl
  | u :: rest, hend => by
    have hclose : u.isClose = true := hend u rfl
    cases u with
    | rightParen c =>
      cases t with
      | function f arity => cases ht
      | _ => rfl
    | _ => cases hclose

/-! ### The moves of the yard -/

/-- On `u` the tokens `gone` leave, in this order, and `stack'` stays. -/
structure Moves (output : Array Token) (position : Nat) (stack : List (Nat × Token)) (u : Token)
    (rest : List Token) (gone stack' : List (Nat × Token)) : Prop where
  fed : Yard.feed ⟨stack.map Prod.snd, output⟩ u =
    .ok ⟨stack'.map Prod.snd, output ++ gone.map Prod.snd⟩
  leaves : (due position (u :: rest) 0 stack ++ departures position (u :: rest)).Perm
    (gone.map (fun e => ⟨position, e.1, e.2⟩) ++
      (due (position + 1) rest 0 stack' ++ departures (position + 1) rest))
  descending : gone.Pairwise fun a b => b.1 < a.1
  standing : Standing (position + 1) stack' rest

/-- A token that has only been looked at leaves the stack as it stands. -/
theorem Standing.pass (h : Standing position stack (u :: rest)) (hopen : u.isOpen = false)
    (hclose : u.isClose = false) : Standing (position + 1) stack rest where
  settled := h.settled
  waits := h.waits
  known := h.known
  called := by
    have hcalled := h.called
    rw [List.head?_cons, Option.any_some, hopen] at hcalled
    exact hcalled.mono mindsFunctions_calledAt
  earlier e he := Nat.lt_succ_of_lt (h.earlier e he)
  descending := h.descending
  balanced := h.balanced.tail (by rw [hopen, hclose])

/-- A token that waits goes on top. -/
theorem Standing.push (h : Standing position stack (u :: rest)) (hwait : u.mayWait = true)
    (hsettled : Yard.Settled (u :: stack.map Prod.snd))
    (hknown : ∀ s, u = .operator s → ∃ o : Operator, s = o.text)
    (happlied : u.isFunction = true → rest.head?.any Token.isOpen = true) :
    Standing (position + 1) ((position, u) :: stack) rest where
  settled := hsettled
  waits := List.forall_mem_cons.mpr ⟨hwait, h.waits⟩
  known s hs := by
    rcases List.mem_cons.mp hs with hs | hs
    · exact hknown s hs.symm
    · exact h.known s hs
  called := ⟨happlied, h.called⟩
  earlier := List.forall_mem_cons.mpr
    ⟨Nat.lt_succ_self _, fun e he => Nat.lt_succ_of_lt (h.earlier e he)⟩
  descending := List.pairwise_cons.mpr ⟨h.earlier, h.descending⟩
  balanced := by
    have hclose : u.isClose = false := by
      cases u with
      | rightParen c => cases hwait
      | _ => rfl
    refine h.balanced.tail ?_
    rw [List.map_cons, List.countP_cons, hclose]
    rfl

/-- Tokens above the topmost parenthesis may go. -/
theorem Standing.drop {gone : List (Nat × Token)} (h : Standing position (gone ++ stack) (u :: rest))
    (hu : u.isOpen = false) (hgone : ∀ e ∈ gone, e.2.isOpen = false) :
    Standing position stack (u :: rest) where
  settled := by
    have hsettled := h.settled
    rw [List.map_append] at hsettled
    exact hsettled.drop
  waits e he := h.waits e (List.mem_append_right _ he)
  known := h.known.sublist ((List.sublist_append_right _ _).map _)
  called := by
    have hcalled := h.called
    rw [List.head?_cons, Option.any_some, hu, List.map_append] at hcalled
    exact (hcalled.drop (List.forall_mem_map.mpr hgone)).mono mindsFunctions_calledAt
  earlier e he := h.earlier e (List.mem_append_right _ he)
  descending := (List.pairwise_append.mp h.descending).2.1
  balanced := by
    have hcount : (gone.map Prod.snd).countP Token.isOpen = 0 :=
      countP_isOpen_eq_zero (List.forall_mem_map.mpr hgone)
    have hbalanced := h.balanced
    rwa [List.map_append, List.countP_append, hcount, Nat.zero_add] at hbalanced

theorem Standing.due_skip (h : Standing position stack (u :: rest)) (hopen : u.isOpen = false)
    (hclose : u.isClose = false)
    (hsettled : ∀ s, u = .operator s → Yard.Settled (.operator s :: stack.map Prod.snd)) :
    due position (u :: rest) 0 stack = due (position + 1) rest 0 stack :=
  ShuntingYard.due_skip hopen hclose 0 h.waits h.called (fun _ => hopen) fun _ => hsettled

theorem Standing.moves_operand (h : Standing position stack (u :: rest)) (hu : u.isOperand = true) :
    Moves output position stack u rest [(position, u)] stack := by
  cases u with
  | number s | identifier s =>
    refine ⟨by simp, ?_, List.pairwise_singleton _ _, h.pass rfl rfl⟩
    rw [h.due_skip rfl rfl (by simp)]
    exact List.perm_middle
  | _ => cases hu

theorem Standing.moves_plain {s : String} (h : Standing position stack (.plain s :: rest)) :
    Moves output position stack (.plain s) rest [] stack := by
  refine ⟨by simp, ?_, .nil, h.pass rfl rfl⟩
  rw [h.due_skip rfl rfl (by simp)]
  exact .rfl

theorem Standing.moves_function {f : String} {arity : Int}
    (h : Standing position stack (.function f arity :: rest))
    (happlied : rest.head?.any Token.isOpen = true) :
    Moves output position stack (.function f arity) rest []
      ((position, .function f arity) :: stack) := by
  refine ⟨by simp, ?_, .nil, ?_⟩
  · have htime : position + 2 + groupEnd 0 rest.tail =
        position + 1 + wait (.function f arity) 0 rest := by
      rw [wait]
      omega
    rw [h.due_skip rfl rfl (by simp), due_cons rfl, departures, htime]
    exact List.perm_middle
  · exact h.push rfl (Yard.settled_cons (by simp) h.settled) (by simp) fun _ => happlied

theorem Standing.moves_leftParen {o : String} (h : Standing position stack (.leftParen o :: rest)) :
    Moves output position stack (.leftParen o) rest [] ((position, .leftParen o) :: stack) := by
  refine ⟨by simp, ?_, .nil, ?_⟩
  · rw [due_open o 0 h.waits, due_leftParen]
    exact .rfl
  · exact h.push rfl (Yard.settled_cons (by simp) h.settled) (by simp) (by simp [Token.isFunction])

/-- An operator lets those go that yield to it, and no other operator waits for it. -/
theorem Standing.moves_operator {p : Operator} (output : Array Token)
    (h : Standing position stack (.operator p.text :: rest)) :
    ∃ ready below, stack = ready ++ below ∧
      Moves output position stack (.operator p.text) rest ready
        ((position, .operator p.text) :: below) := by
  have htop : Yard.KnownTop (stack.map Prod.snd) := fun s hs => h.known s (List.mem_of_head? hs)
  obtain ⟨_, _, hstack, hrelease, hready, hsettled⟩ := Yard.release_settled p h.settled htop
  obtain ⟨ready, below, rfl, rfl, rfl⟩ := List.map_eq_append_iff.mp hstack
  rw [List.forall_mem_map] at hready
  have hopen : ∀ e ∈ ready, e.2.isOpen = false := by
    intro e he
    obtain ⟨o, ho, _⟩ := hready e he
    rw [ho]
    rfl
  have hwait : ∀ e ∈ ready, wait e.2 0 (.operator p.text :: rest) = 0 := by
    intro e he
    obtain ⟨o, ho, hyields⟩ := hready e he
    rw [ho, wait, relief, ahead, Operator.textYields_text, hyields]
    rfl
  have hbelow := h.drop rfl hopen
  refine ⟨ready, below, rfl, Yard.feed_operator hrelease, ?_,
    (List.pairwise_append.mp h.descending).1, ?_⟩
  · have hskip := hbelow.due_skip rfl rfl fun s hs => by cases hs; exact hsettled
    rw [due_append _ _ _ fun e he => ⟨hopen e he, hwait e he⟩, hskip, due_cons rfl, List.append_assoc]
    exact List.perm_middle.append_left _
  · have hknown : ∀ s, Token.operator p.text = .operator s → ∃ o : Operator, s = o.text :=
      fun s hs => ⟨p, by simpa using hs.symm⟩
    exact hbelow.push rfl hsettled hknown (by simp [Token.isFunction])

/-- When a group ends, its parenthesis goes, with what called the group. -/
theorem Standing.leave {q : Nat} {o c : String} {attached : List (Nat × Token)}
    (h : Standing position ((q, .leftParen o) :: (attached ++ stack)) (.rightParen c :: rest))
    (hattached : ∀ e ∈ attached, e.2.isOpen = false) (hcalled : Called false (stack.map Prod.snd)) :
    Standing (position + 1) stack rest where
  settled := by
    have hsettled := h.settled.tail
    rw [List.map_append] at hsettled
    exact hsettled.drop
  waits e he := h.waits e (List.mem_cons_of_mem _ (List.mem_append_right _ he))
  known := h.known.sublist (((List.sublist_append_right _ _).cons _).map _)
  called := hcalled.mono mindsFunctions_calledAt
  earlier e he :=
    Nat.lt_succ_of_lt (h.earlier e (List.mem_cons_of_mem _ (List.mem_append_right _ he)))
  descending := (List.pairwise_append.mp h.descending.of_cons).2.1
  balanced := by
    have hcount : (attached.map Prod.snd).countP Token.isOpen = 0 :=
      countP_isOpen_eq_zero (List.forall_mem_map.mpr hattached)
    refine h.balanced.tail ?_
    rw [List.map_cons, List.map_append, List.countP_cons, List.countP_append, hcount, Nat.zero_add]
    rfl

/-- The end of a group lets its operators go, and the function that the group was called by. -/
theorem Standing.moves_rightParen {c : String}
    (h : Standing position stack (.rightParen c :: rest)) :
    ∃ gone below, Moves output position stack (.rightParen c) rest gone below := by
  rcases Yard.feed_rightParen_cases ⟨stack.map Prod.snd, output⟩ c with ⟨hclosed, _⟩ |
    ⟨_, o, _, _, hstack, hinner, hattached, hfed⟩
  · have hcount : (stack.map Prod.snd).countP Token.isOpen = 0 := countP_isOpen_eq_zero hclosed
    have hle := h.balanced.1 [.rightParen c] (List.prefix_append _ rest)
    rw [hcount] at hle
    cases hle
  · obtain ⟨inner, _, rfl, rfl, hgroup⟩ := List.map_eq_append_iff.mp hstack
    obtain ⟨⟨q, _⟩, _, rfl, rfl, hcaller⟩ := List.map_eq_cons_iff.mp hgroup
    obtain ⟨attached, below, rfl, rfl, rfl⟩ := List.map_eq_append_iff.mp hcaller
    rw [List.forall_mem_map] at hinner
    have hfunction : ∀ e ∈ inner, e.2.isFunction = false := by
      have hcalled := h.called
      rw [List.map_append] at hcalled
      exact List.forall_mem_map.mp
        (hcalled.not_function (List.forall_mem_map.mpr hinner))
    have hgroup := h.drop rfl hinner
    obtain ⟨hopen, hwait, hcalled⟩ : (∀ e ∈ attached, e.2.isOpen = false) ∧
        (∀ e ∈ attached, wait e.2 1 (.rightParen c :: rest) = 0) ∧
        Called false (below.map Prod.snd) := by
      have hcaller := hgroup.called.2
      rw [List.map_append] at hcaller
      rcases hattached with ⟨f, arity, hf⟩ | ⟨hnil, hhead⟩
      · obtain ⟨⟨q', _⟩, rfl, rfl⟩ := List.map_eq_singleton_iff.mp hf
        exact ⟨by simp [Token.isOpen], by simp [wait, groupEnd, ahead], hcaller.2⟩
      · obtain rfl := List.map_eq_nil_iff.mp hnil
        exact ⟨by simp, by simp, hcaller.of_head mindsFunctions_calledAt hhead⟩
    have hinnerwait : ∀ e ∈ inner, wait e.2 0 (.rightParen c :: rest) = 0 := fun e he =>
      wait_at_end (hfunction e he) (by simp [Token.isClose])
    refine ⟨inner ++ attached, below, ?_, ?_, ?_, hgroup.leave hopen hcalled⟩
    · rw [← List.map_append] at hfed
      exact hfed
    · have hwaits : ∀ e ∈ below, e.2.mayWait = true := fun e he =>
        hgroup.waits e (List.mem_cons_of_mem _ (List.mem_append_right _ he))
      have hbelow : due position (.rightParen c :: rest) 1 below = due (position + 1) rest 0 below :=
        due_close c 0 hwaits hcalled fun _ => rfl
      rw [due_append _ _ _ fun e he => ⟨hinner e he, hinnerwait e he⟩, due_leftParen,
        due_append _ _ _ fun e he => ⟨hopen e he, hwait e he⟩, hbelow, List.map_append,
        List.append_assoc, List.append_assoc, List.append_assoc]
      exact .rfl
    · exact h.descending.sublist ((List.Sublist.cons _ (List.sublist_append_left _ _)).append_left _)

/-- Whatever comes, the yard can take it in. -/
theorem Standing.moves (output : Array Token) (h : Standing position stack (u :: rest))
    (hknown : ∀ s, u = .operator s → ∃ o : Operator, s = o.text)
    (happlied : u.isFunction = true → rest.head?.any Token.isOpen = true) :
    ∃ gone stack', Moves output position stack u rest gone stack' := by
  cases u with
  | number s => exact ⟨_, _, h.moves_operand rfl⟩
  | identifier s => exact ⟨_, _, h.moves_operand rfl⟩
  | plain s => exact ⟨_, _, h.moves_plain⟩
  | function f arity => exact ⟨_, _, h.moves_function (happlied rfl)⟩
  | leftParen o => exact ⟨_, _, h.moves_leftParen⟩
  | rightParen c => exact h.moves_rightParen
  | operator s =>
    obtain ⟨p, rfl⟩ := hknown s rfl
    obtain ⟨ready, below, _, hmoves⟩ := h.moves_operator output
    exact ⟨_, _, hmoves⟩

/-! ### The run -/

theorem not_before_due {d : Departure} (hd : d ∈ due position rest depth stack) :
    position ≤ d.time := by
  induction stack generalizing depth with
  | nil => cases hd
  | cons e stack ih =>
    obtain ⟨q, t⟩ := e
    cases ht : t.isOpen with
    | true =>
      cases t with
      | leftParen o => exact ih hd
      | _ => cases ht
    | false =>
      rw [due_cons ht] at hd
      rcases List.mem_cons.mp hd with rfl | hd
      · exact Nat.le_add_right _ _
      · exact ih hd

/-- A departure is that of the token at its place, and not before its time. -/
theorem departures_spec {ts : List Token} {d : Departure} (hd : d ∈ departures position ts) :
    position ≤ d.time ∧ position ≤ d.position ∧ ts[d.position - position]? = some d.token := by
  induction ts generalizing position with
  | nil => cases hd
  | cons t rest ih =>
    have htail : d ∈ departures (position + 1) rest → position ≤ d.time ∧ position ≤ d.position ∧
        (t :: rest)[d.position - position]? = some d.token := by
      intro hd
      obtain ⟨htime, hposition, htoken⟩ := ih hd
      have hsub : d.position - position = d.position - (position + 1) + 1 := by omega
      rw [hsub, List.getElem?_cons_succ]
      exact ⟨by omega, by omega, htoken⟩
    cases t with
    | leftParen s | rightParen s | plain s => exact htail hd
    | number s | identifier s | operator s | function f arity =>
      rcases List.mem_cons.mp hd with rfl | hd
      · exact ⟨by simp only; omega, le_rfl, by simp⟩
      · exact htail hd

theorem Departure.before_iff {a b : Departure} : a.before b = true ↔
    a.time < b.time ∨ a.time = b.time ∧ b.position ≤ a.position := by
  simp [before]

/-- In the end nothing but operators waits, and all of it is due. -/
theorem Standing.at_end (h : Standing position stack []) :
    (∀ t ∈ stack.map Prod.snd, t.isOpen = false) ∧
      due position [] 0 stack = stack.map fun e => ⟨position, e.1, e.2⟩ := by
  have hopen : ∀ t ∈ stack.map Prod.snd, t.isOpen = false := by
    have hcount := h.balanced.2
    rw [List.countP_nil, List.countP_nil, Nat.add_zero] at hcount
    simpa using List.countP_eq_zero.mp hcount.symm
  have hfunction : ∀ e ∈ stack, e.2.isFunction = false := by
    have hcalled := h.called
    rw [← List.append_nil (stack.map Prod.snd)] at hcalled
    exact List.forall_mem_map.mp (hcalled.not_function hopen)
  have hdue := due_append position [] [] fun e he =>
    ⟨List.forall_mem_map.mp hopen e he, wait_at_end (hfunction e he) (by simp)⟩
  rw [List.append_nil, due, List.append_nil] at hdue
  exact ⟨hopen, hdue⟩

/-- The run from anywhere: the output gains what is due and what departs, in order. -/
theorem Standing.run (output : Array Token) (h : Standing position stack rest)
    (hknown : Known rest) (happlied : Applied rest) :
    ∃ ds : List Departure,
      (Yard.feedAll ⟨stack.map Prod.snd, output⟩ rest).bind Yard.drain =
        .ok (output.toList ++ ds.map Departure.token) ∧
      ds.Perm (due position rest 0 stack ++ departures position rest) ∧
      ds.Pairwise fun a b => a.before b = true := by
  induction rest generalizing position stack output with
  | nil =>
    obtain ⟨hopen, hdue⟩ := h.at_end
    refine ⟨stack.map fun e => ⟨position, e.1, e.2⟩, ?_, ?_, ?_⟩
    · rw [Yard.feedAll_nil, Except.bind, Yard.drain_of_closed hopen, List.map_map]
      rfl
    · rw [hdue, departures, List.append_nil]
    · refine List.pairwise_map.mpr (h.descending.imp fun hlt => ?_)
      exact Departure.before_iff.mpr (.inr ⟨rfl, hlt.le⟩)
  | cons u rest ih =>
    obtain ⟨gone, stack', hmoves⟩ := h.moves output
      (fun s hs => hknown s (hs ▸ List.mem_cons_self)) happlied.1
    obtain ⟨ds, hrun, hperm, hpairwise⟩ := ih (output ++ gone.map Prod.snd) hmoves.standing
      (hknown.sublist (List.sublist_cons_self _ _)) happlied.2
    refine ⟨gone.map (fun e => ⟨position, e.1, e.2⟩) ++ ds, ?_, ?_, ?_⟩
    · rw [Yard.feedAll_cons, hmoves.fed, Except.bind, hrun, List.map_append, List.map_map,
        Array.toList_appendList, List.append_assoc]
      rfl
    · exact (hperm.append_left _).trans hmoves.leaves.symm
    · refine List.pairwise_append.mpr ⟨?_, hpairwise, ?_⟩
      · refine List.pairwise_map.mpr (hmoves.descending.imp fun hlt => ?_)
        exact Departure.before_iff.mpr (.inr ⟨rfl, hlt.le⟩)
      · intro a ha b hb
        obtain ⟨e, _, rfl⟩ := List.mem_map.mp ha
        have hlater : position + 1 ≤ b.time := by
          rcases List.mem_append.mp (hperm.mem_iff.mp hb) with hb | hb
          · exact not_before_due hb
          · exact (departures_spec hb).1
        exact Departure.before_iff.mpr (.inl hlater)

theorem Departure.before_trans (a b c : Departure) (hab : a.before b = true)
    (hbc : b.before c = true) : a.before c = true := by
  rw [before_iff] at *
  omega

theorem Departure.before_total (a b : Departure) : (a.before b || b.before a) = true := by
  rw [Bool.or_eq_true, before_iff, before_iff]
  omega

/-- On balanced parentheses, with known operators and functions that stand before groups, the output
    is the tokens in the order in which they leave. -/
theorem convert_departures (ts : List Token) (hbalanced : Balanced 0 ts) (hknown : Known ts)
    (happlied : Applied ts) :
    convert ts = .ok (((departures 0 ts).mergeSort Departure.before).map Departure.token) := by
  have hstanding : Standing 0 [] ts :=
    ⟨.nil, by simp, by simp [Known], trivial, by simp, .nil, hbalanced⟩
  obtain ⟨ds, hrun, hperm, hpairwise⟩ := hstanding.run #[] hknown happlied
  have hsort : ds = (departures 0 ts).mergeSort Departure.before := by
    refine List.Perm.eq_of_pairwise ?_ hpairwise
      (List.pairwise_mergeSort Departure.before_trans Departure.before_total _)
      (hperm.trans (List.mergeSort_perm _ _).symm)
    intro a b ha hb hab hba
    obtain ⟨_, _, ha⟩ := departures_spec (hperm.mem_iff.mp ha)
    obtain ⟨_, _, hb⟩ := departures_spec (List.mem_mergeSort.mp hb)
    rw [Departure.before_iff] at hab hba
    obtain ⟨htime, hposition⟩ : a.time = b.time ∧ a.position = b.position := by omega
    rw [hposition, hb] at ha
    cases a
    cases b
    simp_all
  rw [convert_eq, Yard.empty, ← hsort]
  exact hrun

/-- Where two operands stand side by side the rule holds just as well. -/
theorem convert_departures_juxtaposed :
    let ts := [Token.number "5", .identifier "x", .operator "^", .number "2", .operator "/",
      .function "sin" 1, .leftParen "(", .identifier "x", .rightParen ")"]
    Balanced 0 ts ∧ Known ts ∧ Applied ts ∧
      convert ts = .ok [.number "5", .identifier "x", .number "2", .operator "^", .identifier "x",
        .function "sin" 1, .operator "/"] := by
  intro ts
  have hbalanced : Balanced 0 ts := by decide
  have hknown : Known ts := by
    intro s hs
    have hs' : s = Operator.power.text ∨ s = Operator.over.text := by
      simpa [ts, Operator.text] using hs
    rcases hs' with rfl | rfl
    · exact ⟨_, rfl⟩
    · exact ⟨_, rfl⟩
  have happlied : Applied ts := by simp [ts, Applied, Token.isFunction, Token.isOpen]
  have hsort : ((departures 0 ts).mergeSort Departure.before).map Departure.token =
      [.number "5", .identifier "x", .number "2", .operator "^", .identifier "x",
        .function "sin" 1, .operator "/"] := by
    have hdepartures : departures 0 ts = [⟨0, 0, .number "5"⟩, ⟨1, 1, .identifier "x"⟩,
        ⟨4, 2, .operator "^"⟩, ⟨3, 3, .number "2"⟩, ⟨9, 4, .operator "/"⟩,
        ⟨8, 5, .function "sin" 1⟩, ⟨7, 7, .identifier "x"⟩] := by decide
    rw [hdepartures]
    simp [List.mergeSort, List.MergeSort.Internal.splitInTwo, Departure.before]
  refine ⟨hbalanced, hknown, happlied, ?_⟩
  rw [convert_departures ts hbalanced hknown happlied, hsort]

end ShuntingYard
