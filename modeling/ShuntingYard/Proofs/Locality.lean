import ShuntingYard.Proofs.Feed

/-! What the yard does not look at. The output is only added to, so that a run goes the same way
    whatever is out already (`feedAll_after`). Nor does it matter what lies at the bottom of the stack
    when the run starts, as long as no operator that lies in no group takes anything from there
    (`feedAll_above`):

        stack      y ─▶ z         by itself
        stack      y         z
                   base ─▶ base   above tokens that stay

    Below an open parenthesis no token reaches that does not close its group, so that what can be read
    on the empty stack is read in the same way inside a group (`feedAll_inside`), and comes out as it
    would by itself (`feedAll_group_eq`). -/

namespace ShuntingYard

/-- How many groups are open after a token. -/
def Token.depthAfter (t : Token) (depth : Nat) : Nat :=
  if t.isOpen then depth + 1 else if t.isClose then depth - 1 else depth

/-- The tokens that lie in no group, with `depth` groups open before them. Of each group only the
    parenthesis that opens it is among them. -/
def outermost : Nat → List Token → List Token
  | _, [] => []
  | 0, t :: ts => t :: outermost (t.depthAfter 0) ts
  | depth + 1, t :: ts => outermost (t.depthAfter (depth + 1)) ts

theorem outermost_subset_cons (depth : Nat) (t : Token) (ts : List Token) :
    outermost (t.depthAfter depth) ts ⊆ outermost depth (t :: ts) := by
  cases depth with
  | zero => exact List.subset_cons_self _ _
  | succ depth => exact List.Subset.refl _

/-- What comes first outside all groups is the first of all. -/
theorem head?_outermost_zero (ts : List Token) : (outermost 0 ts).head? = ts.head? := by
  cases ts <;> rfl

end ShuntingYard

namespace ShuntingYard.Yard

variable {y z : Yard} {t : Token} {ts us : List Token} {below base : List Token}
variable {earlier : Array Token}

/-! ### What is out already -/

/-- The yard with more already out. -/
def after (earlier : Array Token) (y : Yard) : Yard := ⟨y.stack, earlier ++ y.output⟩

theorem after_output (earlier : Array Token) (stack : List Token) (output : Array Token)
    (out : List Token) :
    after earlier ⟨stack, output ++ out⟩ = ⟨stack, earlier ++ output ++ out⟩ := by
  rw [after, Yard.mk.injEq]
  exact ⟨rfl, Array.toList_inj.mp (by simp)⟩

/-- What a token does, does not depend on what is out. -/
theorem feed_after (earlier : Array Token) (y : Yard) (t : Token) :
    (y.after earlier).feed t = (y.feed t).map (after earlier) := by
  cases t with
  | number s | identifier s =>
    simp only [feed_number, feed_identifier, Except.map, after_output]
    rfl
  | function s arity | leftParen s | plain s => rfl
  | operator s =>
    obtain ⟨ready, rest, failure, hrelease, -, -⟩ := release_split s y.stack
    cases failure with
    | some e =>
      rw [feed_operator_error hrelease, feed_operator_error (y := y.after earlier) hrelease]
      rfl
    | none =>
      rw [feed_operator hrelease, feed_operator (y := y.after earlier) hrelease, Except.map,
        after_output]
      rfl
  | rightParen c =>
    rcases feed_rightParen_cases y c with
      ⟨hclosed, hfeed⟩ | ⟨inner, o, called, rest, hstack, hinner, hcalled, hfeed⟩
    · rw [hfeed, feed_rightParen, closeGroup_error (y := y.after earlier) hclosed]
      rfl
    · rw [hfeed, feed_rightParen_open (y := y.after earlier) hstack hinner hcalled, Except.map,
        after_output]
      rfl

theorem feedAll_after (earlier : Array Token) (y : Yard) (ts : List Token) :
    (y.after earlier).feedAll ts = (y.feedAll ts).map (after earlier) := by
  induction ts generalizing y with
  | nil => rfl
  | cons t ts ih =>
    rw [feedAll_cons, feedAll_cons, feed_after]
    cases y.feed t with
    | error e => rfl
    | ok z => exact ih z

theorem drain_after (earlier : Array Token) (y : Yard) :
    (y.after earlier).drain = y.drain.map (earlier.toList ++ ·) := by
  rcases open_or_closed y.stack with hopen | hclosed
  · rw [drain_of_open hopen, drain_of_open (y := y.after earlier) hopen]
    rfl
  · rw [drain_of_closed hclosed, drain_of_closed (y := y.after earlier) hclosed, Except.map, after]
    simp

/-! ### What lies at the bottom of the stack -/

/-- How many groups are open is told by the tokens. -/
theorem feed_depth (h : y.feed t = .ok z) :
    z.stack.countP Token.isOpen = t.depthAfter (y.stack.countP Token.isOpen) := by
  cases t with
  | number s | identifier s | plain s | function s arity | leftParen s =>
    simp only [feed_number, feed_identifier, feed_plain, feed_function, feed_leftParen,
      Except.ok.injEq] at h
    subst h
    simp [Token.depthAfter, Token.isOpen, Token.isClose, List.countP_cons]
  | operator s =>
    obtain ⟨ready, rest, -, hstack, hready, rfl⟩ := feed_operator_eq_ok h
    have hclosed := isOpen_of_operators hready
    rw [hstack, List.countP_append, countP_isOpen_eq_zero hclosed, Nat.zero_add]
    simp [Token.depthAfter, Token.isOpen, Token.isClose]
  | rightParen c =>
    obtain ⟨inner, o, called, rest, hstack, hinner, hcalled, rfl⟩ := feed_rightParen_eq_ok h
    have hclosed : called.countP Token.isOpen = 0 := by
      rcases hcalled with ⟨f, arity, rfl⟩ | ⟨rfl, -⟩
      · rfl
      · rfl
    rw [hstack, List.countP_append, countP_isOpen_eq_zero hinner, List.countP_cons_of_pos rfl,
      List.countP_append, hclosed, Nat.zero_add, Nat.zero_add]
    rfl

/-- The yard with more at the bottom of the stack. -/
def above (base : List Token) (y : Yard) : Yard := ⟨y.stack ++ base, y.output⟩

/-- From above tokens that stay, the same is released as without them. -/
theorem release_above {incoming : String} (h : release incoming base = ⟨[], base, none⟩) :
    ∀ stack : List Token, release incoming (stack ++ base) =
      { release incoming stack with rest := (release incoming stack).rest ++ base }
  | [] => h
  | t :: stack => by
    by_cases ht : Yields incoming t
    · rw [List.cons_append, release_of_yields ht, release_of_yields ht, release_above h stack]
    · have hstays : ∀ rest, ∀ u ∈ (t :: rest).head?, ¬ Yields incoming u := fun rest => by
        simpa using ht
      rw [List.cons_append, release_of_stays (hstays _), release_of_stays (hstays _)]
      cases t <;> rfl

/-- No operator is released from below an open parenthesis. -/
theorem release_above_of_open (h : ∃ t ∈ ts, t.isOpen = true) (incoming : String)
    (base : List Token) : release incoming (ts ++ base) =
      { release incoming ts with rest := (release incoming ts).rest ++ base } := by
  obtain ⟨inner, o, below, rfl, -⟩ := exists_open_split h
  have hstays : ∀ below, release incoming (.leftParen o :: below) =
      ⟨[], .leftParen o :: below, none⟩ := fun _ => rfl
  rw [List.append_assoc, List.cons_append, release_above (hstays _), release_above (hstays _),
    List.append_assoc, List.cons_append]

/-- A token that can be taken in does the same above tokens that stay. -/
theorem feed_above (h : y.feed t = .ok z) (hhead : ∀ u ∈ base.head?, u.isFunction = false)
    (hbase : ∀ s, t = .operator s → (∀ u ∈ y.stack, u.isOpen = false) →
      release s base = ⟨[], base, none⟩) : (y.above base).feed t = .ok (z.above base) := by
  cases t with
  | number s | identifier s | function s arity | leftParen s | plain s =>
    simp only [feed_number, feed_identifier, feed_plain, feed_function, feed_leftParen,
      Except.ok.injEq] at h
    subst h
    simp [above]
  | operator s =>
    obtain ⟨ready, rest, hrelease, -, -, rfl⟩ := feed_operator_eq_ok h
    have habove : release s (y.above base).stack =
        { release s y.stack with rest := (release s y.stack).rest ++ base } := by
      rcases open_or_closed y.stack with hopen | hclosed
      · exact release_above_of_open hopen s base
      · exact release_above (hbase s rfl hclosed) y.stack
    rw [hrelease] at habove
    exact feed_operator habove
  | rightParen c =>
    obtain ⟨inner, o', called, rest, hstack, hinner, hcalled, rfl⟩ := feed_rightParen_eq_ok h
    have hstack' : (y.above base).stack =
        inner ++ .leftParen o' :: (called ++ (rest ++ base)) := by
      simp [above, hstack]
    -- on top there may be the base now, which starts with no function either
    refine feed_rightParen_open hstack' hinner (hcalled.imp id fun ⟨hnil, htop⟩ => ⟨hnil, ?_⟩) c
    cases rest with
    | nil => exact hhead
    | cons u rest => exact htop

/-- A run that can be made does the same above tokens from which no operator outside all groups
    takes anything. -/
theorem feedAll_above (h : y.feedAll ts = .ok z) (hhead : ∀ u ∈ base.head?, u.isFunction = false)
    (hbase : ∀ s, Token.operator s ∈ outermost (y.stack.countP Token.isOpen) ts →
      release s base = ⟨[], base, none⟩) : (y.above base).feedAll ts = .ok (z.above base) := by
  induction ts generalizing y with
  | nil =>
    cases h
    rfl
  | cons t ts ih =>
    rw [feedAll_cons] at h ⊢
    obtain ⟨x, hfeed, h⟩ := exists_of_bind_eq_ok h
    have hstep : (y.above base).feed t = .ok (x.above base) := by
      refine feed_above hfeed hhead fun s hs hclosed => hbase s ?_
      rw [countP_isOpen_eq_zero hclosed, hs]
      exact List.mem_cons_self
    rw [hstep]
    refine ih h fun s hs => hbase s (outermost_subset_cons _ t ts ?_)
    rwa [← feed_depth hfeed]

/-- The yard in a group, with `below` around the group. -/
def inside (o : String) (below : List Token) (y : Yard) : Yard :=
  ⟨y.stack ++ .leftParen o :: below, y.output⟩

theorem feedAll_inside (o : String) (below : List Token) (h : y.feedAll ts = .ok z) :
    (y.inside o below).feedAll ts = .ok (z.inside o below) := by
  have hstays : ∀ s, release s (.leftParen o :: below) = ⟨[], .leftParen o :: below, none⟩ :=
    fun _ => rfl
  exact feedAll_above h (by simp [Token.isFunction]) fun s _ => hstays s

/-- A group that can be reordered by itself comes out as it would by itself, whatever is around it,
    and then the function that called it. -/
theorem feedAll_group_eq (h : convert ts = .ok us) (y : Yard) (o c : String) :
    y.feedAll (.leftParen o :: (ts ++ [.rightParen c])) =
      .ok (attachFunction ⟨y.stack, y.output ++ us⟩) := by
  obtain ⟨z, hfed, hclosed, rfl⟩ := convert_eq_ok h
  have hopened : (⟨.leftParen o :: y.stack, y.output⟩ : Yard) =
      (empty.inside o y.stack).after y.output := by
    simp [empty, inside, after]
  have hread : feedAll ⟨.leftParen o :: y.stack, y.output⟩ ts =
      .ok ((z.inside o y.stack).after y.output) := by
    rw [hopened, feedAll_after, feedAll_inside o y.stack hfed]
    rfl
  rw [feedAll_cons, feed_leftParen, Except.bind, feedAll_append, hread]
  simp only [Except.bind, feedAll_cons, feed_rightParen, feedAll_nil]
  rw [after, inside, closeGroup_open o y.stack _ hclosed]
  have houtput : y.output ++ z.output ++ z.stack = y.output ++ (z.output.toList ++ z.stack) :=
    Array.toList_inj.mp (by simp)
  rw [houtput]

end ShuntingYard.Yard
