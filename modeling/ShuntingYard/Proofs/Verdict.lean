import ShuntingYard.Proofs.Settled

/-! How reordering ends, on any tokens at all, said without the stack. Three things can go wrong: two
    operators meet and one of them has an unknown text, a parenthesis closes no group, a group is
    still open at the end. Which of them is reported is the one that comes first (`verdict`).

    Whether two operators meet is read off the tokens between them. Only what lies directly in their
    group counts, and there a function keeps the operators before it from those after it until a
    group inside has served it:

        a + f g (…) (…) * b       `+` and `*` meet: both functions are served
        a + f g (…) * b           they do not
        a + (… * … - …) * b       the outer two meet, and the inner two do -/

namespace ShuntingYard

/-! ### Meetings and misfits -/

/-- What lies directly in a group, read backwards from a place in it, latest first. Groups inside it
    appear as their closing parenthesis only. The reading starts `depth` groups further in. -/
def surroundings : Nat → List Token → List Token
  | _, [] => []
  | 0, .leftParen _ :: _ => []
  | 0, .rightParen c :: before => .rightParen c :: surroundings 1 before
  | 0, t :: before => t :: surroundings 0 before
  | depth + 1, .leftParen _ :: before => surroundings depth before
  | depth + 1, .rightParen _ :: before => surroundings (depth + 2) before
  | depth + 1, _ :: before => surroundings (depth + 1) before

/-- How many functions wait for a group since the last operator. Each group serves one, if any waits. -/
def unserved : List Token → Nat
  | .operator _ :: _ => 0
  | .function _ _ :: before => unserved before + 1
  | .rightParen _ :: before => unserved before - 1
  | _ :: before => unserved before
  | [] => 0

/-- The last operator. -/
def lastOperator? : List Token → Option String
  | .operator s :: _ => some s
  | _ :: before => lastOperator? before
  | [] => none

/-- The operator that one more operator would meet, after what lies before it in its group. -/
def meets? (around : List Token) : Option String :=
  if unserved around = 0 then lastOperator? around else none

/-- The unknown text that comes up when a token is an operator and meets another, after the tokens
    `before`, latest first. -/
def clash? (before : List Token) : Token → Option String
  | .operator s => (meets? (surroundings 0 before)).bind (Yard.unknownOf · s)
  | _ => none

/-- The unknown text that comes up at a position. -/
def clashAt? (ts : List Token) (j : Nat) : Option String :=
  (ts[j]?).bind (clash? (ts.take j).reverse)

/-- Whether a token closes more groups than have been opened. -/
def overcloses (before : List Token) (t : Token) : Bool :=
  t.isClose && (t :: before).countP Token.isOpen < (t :: before).countP Token.isClose

/-- Whether there is a parenthesis at a position that closes more groups than have been opened. -/
def overclosesAt (ts : List Token) (i : Nat) : Bool :=
  (ts[i]?).any (overcloses (ts.take i).reverse)

/-- The first clash of operators, with the unknown text. -/
def firstClash? (ts : List Token) : Option (Nat × String) :=
  (List.range ts.length).findSome? fun j => (clashAt? ts j).map (j, ·)

/-- The first parenthesis too many. -/
def firstOverclose? (ts : List Token) : Option Nat := (List.range ts.length).find? (overclosesAt ts)

/-- How reordering ends. -/
def verdict (ts : List Token) : Except Failure Unit :=
  match firstClash? ts, firstOverclose? ts with
  | some (j, s), some i => if j < i then .error (.unknownOperator s) else .error .unmatchedClose
  | some (_, s), none => .error (.unknownOperator s)
  | none, some _ => .error .unmatchedClose
  | none, none =>
    if ts.countP Token.isClose < ts.countP Token.isOpen then .error .unmatchedOpen else .ok ()

/-! ### The stack as a mirror of the groups -/

/-- What waits on a stack for a group, `depth` groups further out than the innermost. -/
def layer : Nat → List Token → List Token
  | _, [] => []
  | 0, .leftParen _ :: _ => []
  | 0, t :: below => t :: layer 0 below
  | depth + 1, .leftParen _ :: below => layer depth below
  | depth + 1, _ :: below => layer (depth + 1) below

/-- What waits for a group has on top the functions that are still unserved, and directly below them
    the last operator, if the group has one. -/
def Mirrors (around waiting : List Token) : Prop :=
  ∃ functions older, waiting = functions ++ older ∧ functions.length = unserved around ∧
    (∀ t ∈ functions, t.isFunction = true) ∧ older.head? = (lastOperator? around).map .operator

/-- How the stack stands after the tokens `before`, latest first. -/
structure Reflects (before stack : List Token) : Prop where
  settled : Yard.Settled stack
  opened : stack.countP Token.isOpen + before.countP Token.isClose = before.countP Token.isOpen
  mirrors : ∀ depth, Mirrors (surroundings depth before) (layer depth stack)

theorem head?_layer_zero : ∀ (stack : List Token) (s : String),
    (layer 0 stack).head? = some (.operator s) ↔ stack.head? = some (.operator s)
  | [], _ => by simp [layer]
  | t :: below, s => by cases t <;> simp [layer]

/-- The layers of a stack below what is on top of it, when no group starts there. -/
theorem layer_append {above : List Token} (depth : Nat) (stack : List Token)
    (h : ∀ t ∈ above, t.isOpen = false) :
    layer depth (above ++ stack) =
      if depth = 0 then above ++ layer 0 stack else layer depth stack := by
  induction above with
  | nil => cases depth <;> rfl
  | cons t above ih =>
    obtain ⟨ht, habove⟩ := List.forall_mem_cons.mp h
    cases t with
    | leftParen o => cases ht
    | _ => cases depth <;> simpa [layer] using ih habove

/-- The operator on top of a layer is the one that the next operator of the group meets. -/
theorem Mirrors.head?_eq {around waiting : List Token} (h : Mirrors around waiting) (s : String) :
    waiting.head? = some (.operator s) ↔ meets? around = some s := by
  obtain ⟨functions, older, rfl, hlen, hfun, hhead⟩ := h
  unfold meets?
  cases functions with
  | nil =>
    rw [if_pos (by simpa using hlen.symm), List.nil_append, hhead]
    cases lastOperator? around <;> simp
  | cons f functions =>
    have hf : f.isFunction = true := hfun f List.mem_cons_self
    rw [if_neg (by rw [← hlen]; simp)]
    simp only [List.cons_append, List.head?_cons, Option.some.injEq, reduceCtorEq, iff_false]
    rintro rfl
    cases hf

theorem reflects_nil : Reflects [] [] :=
  ⟨.nil, rfl, fun depth => ⟨[], [], by cases depth <;> rfl, rfl, by simp, by cases depth <;> rfl⟩⟩

theorem Mirrors.idle {around waiting : List Token} (h : Mirrors around waiting) {t : Token}
    (ht : t.isIdle = true) : Mirrors (t :: around) waiting := by
  obtain ⟨functions, older, hwait, hlen, hfun, hhead⟩ := h
  have hsame : unserved (t :: around) = unserved around ∧
      lastOperator? (t :: around) = lastOperator? around := by
    cases t with
    | number s | identifier s | plain s => exact ⟨rfl, rfl⟩
    | _ => cases ht
  exact ⟨functions, older, hwait, hsame.1 ▸ hlen, hfun, hsame.2 ▸ hhead⟩

theorem Mirrors.function {around waiting : List Token} (h : Mirrors around waiting) (f : String)
    (arity : Int) : Mirrors (.function f arity :: around) (.function f arity :: waiting) := by
  obtain ⟨functions, older, rfl, hlen, hfun, hhead⟩ := h
  exact ⟨.function f arity :: functions, older, rfl, by simp [unserved, hlen],
    List.forall_mem_cons.mpr ⟨rfl, hfun⟩, hhead⟩

theorem mirrors_operator (s : String) (around older : List Token) :
    Mirrors (.operator s :: around) (.operator s :: older) :=
  ⟨[], .operator s :: older, rfl, rfl, by simp, rfl⟩

/-- A group inside serves the last function that waits for one. -/
theorem Mirrors.served {around attached waiting : List Token} (h : Mirrors around (attached ++ waiting))
    (hattached : (∃ f arity, attached = [.function f arity]) ∨
      attached = [] ∧ ∀ t ∈ waiting.head?, t.isFunction = false) (c : String) :
    Mirrors (.rightParen c :: around) waiting := by
  obtain ⟨functions, older, hwait, hlen, hfun, hhead⟩ := h
  cases functions with
  | nil =>
    have hnone : unserved (.rightParen c :: around) = 0 := by
      rw [unserved, ← hlen]; rfl
    rcases hattached with ⟨f, arity, rfl⟩ | ⟨rfl, -⟩
    · -- a function below which no operator of the group has come cannot be the top of `older`
      rw [List.nil_append] at hwait
      rw [← hwait] at hhead
      cases hl : lastOperator? around <;> rw [hl] at hhead <;> simp at hhead
    · exact ⟨[], older, hwait, hnone.symm, by simp, hhead⟩
  | cons g functions =>
    have hserved : functions.length = unserved (.rightParen c :: around) := by
      rw [unserved, ← hlen]; rfl
    obtain ⟨hg, hfun'⟩ := List.forall_mem_cons.mp hfun
    rcases hattached with ⟨f, arity, rfl⟩ | ⟨rfl, hwaiting⟩
    · obtain ⟨-, rfl⟩ := List.cons.inj hwait
      exact ⟨functions, older, rfl, hserved, hfun', hhead⟩
    · rw [List.nil_append] at hwait
      rw [hwaiting g (by rw [hwait]; rfl)] at hg
      cases hg

/-- What is no parenthesis lies in the innermost group. -/
theorem surroundings_cons {t : Token} (hopen : t.isOpen = false) (hclose : t.isClose = false)
    (before : List Token) (depth : Nat) : surroundings depth (t :: before) =
      if depth = 0 then t :: surroundings 0 before else surroundings depth before := by
  cases t with
  | leftParen o => cases hopen
  | rightParen c => cases hclose
  | _ => cases depth <;> rfl

namespace Reflects

variable {before stack : List Token} {t : Token}

/-- A token that is no parenthesis changes what lies and waits in the innermost group only. -/
theorem inner (h : Reflects before stack) (hopen : t.isOpen = false) (hclose : t.isClose = false)
    (ready top : List Token) {rest : List Token} (hstack : stack = ready ++ rest)
    (hready : ∀ u ∈ ready, u.isOpen = false) (htop : ∀ u ∈ top, u.isOpen = false)
    (hsettled : Yard.Settled (top ++ rest))
    (hmirrors : Mirrors (t :: surroundings 0 before) (top ++ layer 0 rest)) :
    Reflects (t :: before) (top ++ rest) := by
  refine ⟨hsettled, ?_, fun depth => ?_⟩
  · have hopened := h.opened
    rw [hstack, List.countP_append, countP_isOpen_eq_zero hready] at hopened
    rw [List.countP_append, countP_isOpen_eq_zero htop, List.countP_cons_of_neg (by simp [hclose]),
      List.countP_cons_of_neg (by simp [hopen])]
    exact hopened
  · rw [surroundings_cons hopen hclose, layer_append depth rest htop]
    split
    · exact hmirrors
    · next hdepth =>
      have hold := h.mirrors depth
      rwa [hstack, layer_append depth rest hready, if_neg hdepth] at hold

theorem idle (h : Reflects before stack) (ht : t.isIdle = true) : Reflects (t :: before) stack := by
  have hparens : t.isOpen = false ∧ t.isClose = false := by
    cases t with
    | number s | identifier s | plain s => exact ⟨rfl, rfl⟩
    | _ => cases ht
  exact h.inner hparens.1 hparens.2 [] [] rfl (by simp) (by simp) h.settled ((h.mirrors 0).idle ht)

theorem function (h : Reflects before stack) (f : String) (arity : Int) :
    Reflects (.function f arity :: before) (.function f arity :: stack) := by
  refine h.inner rfl rfl [] [.function f arity] rfl (by simp) (by simp [Token.isOpen]) ?_ ?_
  · exact Yard.settled_cons (by simp) h.settled
  · exact (h.mirrors 0).function f arity

theorem operator {s : String} {ready rest : List Token} (h : Reflects before stack)
    (hstack : stack = ready ++ rest) (hready : ∀ u ∈ ready, ∃ o : Operator, u = .operator o.text)
    (hsettled : Yard.Settled (.operator s :: rest)) :
    Reflects (.operator s :: before) (.operator s :: rest) := by
  refine h.inner rfl rfl ready [.operator s] hstack ?_ (by simp [Token.isOpen]) hsettled
    (mirrors_operator s _ _)
  rintro u hu
  obtain ⟨o, rfl⟩ := hready u hu
  rfl

theorem leftParen (h : Reflects before stack) (o : String) :
    Reflects (.leftParen o :: before) (.leftParen o :: stack) := by
  refine ⟨Yard.settled_cons (by simp) h.settled, ?_, fun depth => ?_⟩
  · have hopened := h.opened
    rw [List.countP_cons_of_pos (p := Token.isOpen) rfl,
      List.countP_cons_of_pos (p := Token.isOpen) rfl,
      List.countP_cons_of_neg (p := Token.isClose) (by simp [Token.isClose])]
    omega
  · cases depth with
    | zero => exact ⟨[], [], rfl, rfl, by simp, rfl⟩
    | succ depth => exact h.mirrors depth

/-- The end of a group brings back the group around it. -/
theorem rightParen {inner attached rest : List Token} {o : String} (h : Reflects before stack)
    (c : String) (hstack : stack = inner ++ .leftParen o :: (attached ++ rest))
    (hinner : ∀ u ∈ inner, u.isOpen = false)
    (hattached : (∃ f arity, attached = [.function f arity]) ∨
      attached = [] ∧ ∀ u ∈ rest.head?, u.isFunction = false) :
    Reflects (.rightParen c :: before) rest := by
  have hattached' : ∀ u ∈ attached, u.isOpen = false := by
    rcases hattached with ⟨f, arity, rfl⟩ | ⟨rfl, -⟩ <;> simp [Token.isOpen]
  have houter : ∀ depth, layer (depth + 1) stack =
      if depth = 0 then attached ++ layer 0 rest else layer depth rest := by
    intro depth
    rw [hstack, layer_append (depth + 1) _ hinner, if_neg (Nat.succ_ne_zero depth), layer,
      layer_append depth rest hattached']
  refine ⟨?_, ?_, fun depth => ?_⟩
  · exact (hstack ▸ h.settled).drop.tail.drop
  · have hopened := h.opened
    rw [hstack, List.countP_append, countP_isOpen_eq_zero hinner, List.countP_cons_of_pos rfl,
      List.countP_append, countP_isOpen_eq_zero hattached'] at hopened
    rw [List.countP_cons_of_pos rfl, List.countP_cons_of_neg (by simp [Token.isOpen])]
    omega
  · have hold := h.mirrors (depth + 1)
    rw [houter] at hold
    cases depth with
    | zero =>
      refine Mirrors.served hold ?_ c
      rcases hattached with hf | ⟨rfl, hrest⟩
      · exact .inl hf
      · refine .inr ⟨rfl, fun u hu => ?_⟩
        cases rest with
        | nil => simp [layer] at hu
        | cons v below =>
          cases v <;> simp only [layer, List.head?_cons, Option.mem_def, Option.some.injEq,
            List.head?_nil, reduceCtorEq] at hu <;> exact hu ▸ hrest _ rfl
    | succ depth => exact hold

/-- What a token does to a stack that reflects what was read: it clashes, or it closes too much, or
    the stack goes on to reflect what was read. -/
theorem feed {y : Yard} (h : Reflects before y.stack) (t : Token) :
    (∃ s, clash? before t = some s ∧ y.feed t = .error (.unknownOperator s)) ∨
    (overcloses before t = true ∧ y.feed t = .error .unmatchedClose) ∨
    clash? before t = none ∧ overcloses before t = false ∧
      ∃ z, y.feed t = .ok z ∧ Reflects (t :: before) z.stack := by
  by_cases hidle : t.isIdle = true
  · have hfeed := Yard.feed_idle y hidle
    have hnothing : clash? before t = none ∧ overcloses before t = false := by
      cases t with
      | number s | identifier s | plain s => exact ⟨rfl, rfl⟩
      | _ => cases hidle
    exact .inr (.inr ⟨hnothing.1, hnothing.2, _, hfeed, h.idle hidle⟩)
  cases t with
  | number s | identifier s | plain s => exact absurd rfl hidle
  | function f arity => exact .inr (.inr ⟨rfl, rfl, _, Yard.feed_function y f arity, h.function f arity⟩)
  | leftParen o => exact .inr (.inr ⟨rfl, rfl, _, Yard.feed_leftParen y o, h.leftParen o⟩)
  | operator s =>
    have htop : ∀ top, y.stack.head? = some (.operator top) ↔
        meets? (surroundings 0 before) = some top := fun top =>
      (head?_layer_zero y.stack top).symm.trans ((h.mirrors 0).head?_eq top)
    rcases Yard.feed_operator_cases h.settled s with
      ⟨top, below, u, hstack, hu, hfeed⟩ | ⟨hnone, ready, rest, hstack, hready, hsettled, hfeed⟩
    · have hmeets := (htop top).mp (by rw [hstack]; rfl)
      exact .inl ⟨u, by rw [clash?, hmeets]; exact hu, hfeed⟩
    · refine .inr (.inr ⟨?_, rfl, _, hfeed, h.operator hstack hready hsettled⟩)
      cases hmeets : meets? (surroundings 0 before) with
      | none => rw [clash?, hmeets]; rfl
      | some top =>
        rw [clash?, hmeets]
        exact hnone top ((htop top).mpr hmeets)
  | rightParen c =>
    have hopened := h.opened
    have hcount : overcloses before (.rightParen c) =
        decide (before.countP Token.isOpen < before.countP Token.isClose + 1) := by
      rw [overcloses, List.countP_cons_of_neg (by simp [Token.isOpen]), List.countP_cons_of_pos rfl]
      rfl
    rcases Yard.feed_rightParen_cases y c with
      ⟨hclosed, hfeed⟩ | ⟨inner, o, attached, rest, hstack, hinner, hattached, hfeed⟩
    · rw [countP_isOpen_eq_zero hclosed] at hopened
      exact .inr (.inl ⟨by rw [hcount]; simp; omega, hfeed⟩)
    · rw [hstack, List.countP_append, List.countP_cons_of_pos rfl] at hopened
      exact .inr (.inr ⟨rfl, by rw [hcount]; simp; omega, _, hfeed,
        h.rightParen c hstack hinner hattached⟩)

end Reflects

/-! ### The first fault decides -/

variable {ts : List Token}

/-- Nothing goes wrong at a position. -/
def Sound (ts : List Token) (k : Nat) : Prop := clashAt? ts k = none ∧ overclosesAt ts k = false

/-- Up to the first fault the tokens are taken in, and the stack reflects them. -/
theorem feedAll_take {n : Nat} (hn : n ≤ ts.length) (hok : ∀ k < n, Sound ts k) :
    ∃ y, Yard.empty.feedAll (ts.take n) = .ok y ∧ Reflects (ts.take n).reverse y.stack := by
  induction n with
  | zero => exact ⟨Yard.empty, rfl, reflects_nil⟩
  | succ n ih =>
    obtain ⟨y, hfed, hy⟩ := ih (Nat.le_of_succ_le hn) fun k hk => hok k (Nat.lt_succ_of_lt hk)
    have hget : ts[n]? = some ts[n] := List.getElem?_eq_getElem hn
    obtain ⟨hclash, hover⟩ := hok n (Nat.lt_succ_self n)
    rw [clashAt?, hget, Option.bind_some] at hclash
    rw [overclosesAt, hget, Option.any_some] at hover
    rcases hy.feed ts[n] with ⟨s, hs, -⟩ | ⟨ho, -⟩ | ⟨-, -, z, hfeed, hz⟩
    · rw [hclash] at hs; cases hs
    · rw [hover] at ho; cases ho
    · refine ⟨z, ?_, ?_⟩
      · rw [List.take_add_one, hget, Option.toList_some, Yard.feedAll_append, hfed, Except.bind,
          Yard.feedAll_cons, hfeed]
        rfl
      · rw [List.take_add_one, hget, Option.toList_some, List.reverse_append]
        exact hz

/-- A token that fails in the yard fails the whole. -/
theorem convert_error {y : Yard} {n : Nat} {t : Token} {e : Failure} (hget : ts[n]? = some t)
    (hfed : Yard.empty.feedAll (ts.take n) = .ok y) (hfeed : y.feed t = .error e) :
    convert ts = .error e := by
  obtain ⟨hn, rfl⟩ := List.getElem?_eq_some_iff.mp hget
  have hsplit : ts = ts.take n ++ ts[n] :: ts.drop (n + 1) := by
    rw [List.getElem_cons_drop, List.take_append_drop]
  rw [convert_eq]
  rw [hsplit, Yard.feedAll_append, hfed, Except.bind, Yard.feedAll_cons, hfeed]
  rfl

theorem convert_of_clash {j : Nat} {s : String} (hclash : clashAt? ts j = some s)
    (hsound : ∀ k < j, Sound ts k) : convert ts = .error (.unknownOperator s) := by
  obtain ⟨t, hget, hs⟩ := Option.bind_eq_some_iff.mp hclash
  obtain ⟨hj, -⟩ := List.getElem?_eq_some_iff.mp hget
  obtain ⟨y, hfed, hy⟩ := feedAll_take (Nat.le_of_lt hj) hsound
  rcases hy.feed t with ⟨s', hs', hfeed⟩ | ⟨ho, -⟩ | ⟨hnone, -⟩
  · rw [hs] at hs'
    cases hs'
    exact convert_error hget hfed hfeed
  · -- operators clash, parentheses close
    cases t <;> simp [clash?, overcloses, Token.isClose] at hs ho
  · rw [hs] at hnone; cases hnone

theorem convert_of_overclose {i : Nat} (hover : overclosesAt ts i = true)
    (hsound : ∀ k < i, Sound ts k) : convert ts = .error .unmatchedClose := by
  obtain ⟨t, hget, ho⟩ := (Option.any_eq_true _ _).mp hover
  obtain ⟨hi, -⟩ := List.getElem?_eq_some_iff.mp hget
  obtain ⟨y, hfed, hy⟩ := feedAll_take (Nat.le_of_lt hi) hsound
  rcases hy.feed t with ⟨s, hs, -⟩ | ⟨-, hfeed⟩ | ⟨-, hnone, -⟩
  · cases t <;> simp [clash?, overcloses, Token.isClose] at hs ho
  · exact convert_error hget hfed hfeed
  · rw [ho] at hnone; cases hnone

theorem convert_of_sound (hsound : ∀ k < ts.length, Sound ts k) :
    (convert ts).map (fun _ => ()) =
      if ts.countP Token.isClose < ts.countP Token.isOpen then .error .unmatchedOpen else .ok () := by
  obtain ⟨y, hfed, hy⟩ := feedAll_take (Nat.le_refl _) hsound
  have hopened := hy.opened
  rw [List.take_length] at hfed hopened
  rw [List.countP_reverse, List.countP_reverse] at hopened
  rw [convert_eq, hfed, Except.bind]
  split
  · next hlt =>
    rw [Yard.drain_of_open (List.countP_pos_iff.mp (by omega))]
    rfl
  · next hle =>
    have hzero : y.stack.countP Token.isOpen = 0 := by omega
    rw [Yard.drain_of_closed fun t ht => by simpa using List.countP_eq_zero.mp hzero t ht]
    rfl

theorem firstClash?_eq_some {j : Nat} {s : String} (h : firstClash? ts = some (j, s)) :
    clashAt? ts j = some s ∧ ∀ k < j, clashAt? ts k = none := by
  obtain ⟨early, j', late, hrange, hj, hearly⟩ := List.findSome?_eq_some_iff.mp h
  rw [List.range_eq_range', List.range'_eq_append_iff] at hrange
  obtain ⟨n, -, rfl, hlate⟩ := hrange
  obtain ⟨rfl, -⟩ := List.range'_eq_cons_iff.mp hlate.symm
  obtain ⟨s', hs', heq⟩ := Option.map_eq_some_iff.mp hj
  obtain ⟨rfl, rfl⟩ := Prod.mk.inj heq
  exact ⟨hs', fun k hk => by simpa using hearly k (List.mem_range'_1.mpr (by omega))⟩

theorem firstClash?_eq_none (h : firstClash? ts = none) (k : Nat) : clashAt? ts k = none := by
  by_cases hk : k < ts.length
  · simpa using List.findSome?_eq_none_iff.mp h k (List.mem_range.mpr hk)
  · rw [clashAt?, List.getElem?_eq_none (Nat.le_of_not_lt hk), Option.bind_none]

theorem firstOverclose?_eq_some {i : Nat} (h : firstOverclose? ts = some i) :
    overclosesAt ts i = true ∧ ∀ k < i, overclosesAt ts k = false := by
  obtain ⟨hi, -, hbefore⟩ := List.find?_range_eq_some.mp h
  exact ⟨hi, fun k hk => by simpa using hbefore k hk⟩

theorem firstOverclose?_eq_none (h : firstOverclose? ts = none) (k : Nat) :
    overclosesAt ts k = false := by
  by_cases hk : k < ts.length
  · simpa using List.find?_range_eq_none.mp h k hk
  · rw [overclosesAt, List.getElem?_eq_none (Nat.le_of_not_lt hk), Option.any_none]

/-- Reordering ends as the tokens say, and a clash is reported with the text that is unknown. -/
theorem convert_outcome (ts : List Token) :
    (convert ts).map (fun _ => ()) = verdict ts ∧
      ∀ s, (Failure.unknownOperator s).message = "invalid operation `" ++ s ++ "`." := by
  refine ⟨?_, fun s => rfl⟩
  unfold verdict
  split
  · next j s i hj hi =>
    obtain ⟨hclash, hnoclash⟩ := firstClash?_eq_some hj
    obtain ⟨hover, hnoover⟩ := firstOverclose?_eq_some hi
    split
    · next hlt =>
      rw [convert_of_clash hclash fun k hk => ⟨hnoclash k hk, hnoover k (hk.trans hlt)⟩]
      rfl
    · next hle =>
      rw [convert_of_overclose hover fun k hk => ⟨hnoclash k (by omega), hnoover k hk⟩]
      rfl
  · next j s hj hi =>
    obtain ⟨hclash, hnoclash⟩ := firstClash?_eq_some hj
    rw [convert_of_clash hclash fun k hk => ⟨hnoclash k hk, firstOverclose?_eq_none hi k⟩]
    rfl
  · next i hj hi =>
    obtain ⟨hover, hnoover⟩ := firstOverclose?_eq_some hi
    rw [convert_of_overclose hover fun k hk => ⟨firstClash?_eq_none hj k, hnoover k hk⟩]
    rfl
  · next hj hi =>
    exact convert_of_sound fun k _ => ⟨firstClash?_eq_none hj k, firstOverclose?_eq_none hi k⟩

end ShuntingYard
