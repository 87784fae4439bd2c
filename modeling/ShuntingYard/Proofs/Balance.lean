import ShuntingYard.Proofs.Departure
import ShuntingYard.Proofs.Spelling
import ShuntingYard.Proofs.Verdict

/-! What becomes of a text, read off its parentheses. Everything else in a text, and the table, and
    what stands between tokens, is without influence on whether there is a postfix form:

        a) + (b        a parenthesis closes no group
        f (2 * (a      a group is open at the end
        2 ~ (+) f      there is a postfix form

    The tokens of a text have its parentheses, in their order (`filterMap_bracket?_extents`), and
    its operators are known, so that none of them clashes. -/

namespace ShuntingYard

variable {ts : List Token} {t : Token} {table : FunctionTable} {text : String}

/-! ### Tokens with known operators -/

theorem surroundings_subset : ∀ (depth : Nat) (before : List Token),
    surroundings depth before ⊆ before := by
  intro depth before
  fun_induction surroundings depth before <;> simp_all [List.subset_def]

theorem mem_of_lastOperator? {around : List Token} {s : String}
    (h : lastOperator? around = some s) : Token.operator s ∈ around := by
  fun_induction lastOperator? around <;> simp_all

theorem unknownOf_text (o p : Operator) : Yard.unknownOf o.text p.text = none := by
  rw [Yard.unknownOf, Operator.ofText?_text, Operator.ofText?_text]

/-- Known operators do not clash. -/
theorem Known.clashAt?_eq_none (h : Known ts) (j : Nat) : clashAt? ts j = none := by
  rw [clashAt?, Option.bind_eq_none_iff]
  intro t hget
  cases t with
  | operator s =>
    rw [clash?, Option.bind_eq_none_iff]
    intro top hmeets
    have hlast : lastOperator? (surroundings 0 (ts.take j).reverse) = some top := by
      rw [meets?] at hmeets
      split at hmeets
      · exact hmeets
      · cases hmeets
    have hbefore : Token.operator top ∈ (ts.take j).reverse :=
      surroundings_subset _ _ (mem_of_lastOperator? hlast)
    obtain ⟨o, rfl⟩ := h top (List.mem_of_mem_take (List.mem_reverse.mp hbefore))
    obtain ⟨p, rfl⟩ := h s (List.mem_of_getElem? hget)
    exact unknownOf_text o p
  | _ => rfl

/-- Somewhere more has been closed than opened. -/
def Overclosed {α : Type} (opens closes : α → Bool) (l : List α) : Prop :=
  ∃ p, p <+: l ∧ p.countP opens < p.countP closes

instance {α : Type} (opens closes : α → Bool) (l : List α) :
    Decidable (Overclosed opens closes l) :=
  decidable_of_iff (∃ p ∈ l.inits, p.countP opens < p.countP closes) (by simp [Overclosed])

/-- Counting in what a list is mapped to. -/
theorem countP_filterMap_eq {α β : Type} {p : α → Bool} {p' : β → Bool} {f : α → Option β}
    (hp : ∀ a, p a = (f a).any p') (l : List α) : (l.filterMap f).countP p' = l.countP p := by
  rw [List.countP_filterMap]
  refine List.countP_congr fun a _ => ?_
  rw [hp]
  cases f a <;> rfl

/-- The opening and closing elements alone tell whether more is closed than opened. -/
theorem overclosed_filterMap {α β : Type} {opens closes : α → Bool} {opens' closes' : β → Bool}
    {f : α → Option β} (hopens : ∀ a, opens a = (f a).any opens')
    (hcloses : ∀ a, closes a = (f a).any closes') (l : List α) :
    Overclosed opens closes l ↔ Overclosed opens' closes' (l.filterMap f) := by
  constructor
  · rintro ⟨p, hp, hlt⟩
    refine ⟨p.filterMap f, hp.filterMap f, ?_⟩
    rwa [countP_filterMap_eq hopens, countP_filterMap_eq hcloses]
  · rintro ⟨_, hprefix, hlt⟩
    obtain ⟨p, hp, rfl⟩ := List.prefix_filterMap_iff.mp hprefix
    rw [countP_filterMap_eq hopens, countP_filterMap_eq hcloses] at hlt
    exact ⟨p, hp, hlt⟩

/-- Where more has been closed than opened, there is a parenthesis that was the first too many. -/
theorem overclosed_take {n : Nat}
    (h : (ts.take n).countP Token.isOpen < (ts.take n).countP Token.isClose) :
    ∃ i, overclosesAt ts i = true := by
  induction n with
  | zero => simp at h
  | succ n ih =>
    by_cases hbefore : (ts.take n).countP Token.isOpen < (ts.take n).countP Token.isClose
    · exact ih hbefore
    · cases hget : ts[n]? with
      | none =>
        rw [List.take_add_one, hget, Option.toList_none, List.append_nil] at h
        exact absurd h hbefore
      | some t =>
        rw [List.take_add_one, hget, Option.toList_some, List.countP_append, List.countP_append,
          List.countP_singleton, List.countP_singleton] at h
        -- the count tips over here, so the last token read is the parenthesis
        refine ⟨n, ?_⟩
        rw [overclosesAt, hget, Option.any_some, overcloses, List.countP_cons, List.countP_cons,
          List.countP_reverse, List.countP_reverse]
        cases hclose : t.isClose with
        | true => simpa [hclose] using h
        | false =>
          rw [hclose] at h
          simp only [Bool.false_eq_true, if_false] at h
          omega

theorem overclosed_of_overclosesAt {i : Nat} (h : overclosesAt ts i = true) :
    Overclosed Token.isOpen Token.isClose ts := by
  obtain ⟨t, hget, hover⟩ := (Option.any_eq_true _ _).mp h
  have hcounts := (Bool.and_eq_true_iff.mp hover).2
  have htake : t :: (ts.take i).reverse = (ts.take (i + 1)).reverse := by
    rw [List.take_add_one, hget, Option.toList_some, List.reverse_append]
    rfl
  rw [htake, List.countP_reverse, List.countP_reverse] at hcounts
  exact ⟨ts.take (i + 1), List.take_prefix _ _, of_decide_eq_true hcounts⟩

/-- There is a first parenthesis too many, if there is one. -/
theorem firstOverclose?_eq_none_iff : firstOverclose? ts = none ↔
    ¬ Overclosed Token.isOpen Token.isClose ts := by
  constructor
  · rintro hnone ⟨p, hp, hlt⟩
    rw [List.prefix_iff_eq_take.mp hp] at hlt
    obtain ⟨i, hi⟩ := overclosed_take hlt
    rw [firstOverclose?_eq_none hnone i] at hi
    cases hi
  · intro hnot
    cases hfirst : firstOverclose? ts with
    | none => rfl
    | some i => exact absurd (overclosed_of_overclosesAt (firstOverclose?_eq_some hfirst).1) hnot

/-- How reordering ends where all operators are known. -/
theorem Known.convert_eq (h : Known ts) : (convert ts).map (fun _ => ()) =
    if Overclosed Token.isOpen Token.isClose ts then .error .unmatchedClose
    else if ts.countP Token.isClose < ts.countP Token.isOpen then .error .unmatchedOpen
    else .ok () := by
  cases hfirst : firstOverclose? ts with
  | some i =>
    obtain ⟨hover, hbefore⟩ := firstOverclose?_eq_some hfirst
    rw [if_pos (overclosed_of_overclosesAt hover),
      convert_of_overclose hover fun k hk => ⟨h.clashAt?_eq_none k, hbefore k hk⟩]
    rfl
  | none =>
    rw [if_neg (firstOverclose?_eq_none_iff.mp hfirst)]
    exact convert_of_sound fun k _ => ⟨h.clashAt?_eq_none k, firstOverclose?_eq_none hfirst k⟩

/-! ### The parentheses of a text -/

/-- A parenthesis, and no other character. -/
def bracket? : Char → Option Char := Option.guard fun c => c == '(' || c == ')'

/-- The parenthesis that a token stands for. -/
def Token.bracket? : Token → Option Char
  | .leftParen _ => some '('
  | .rightParen _ => some ')'
  | _ => none

theorem Token.isOpen_eq_any : ∀ t : Token, t.isOpen = t.bracket?.any (· == '(') := by
  intro t
  cases t <;> rfl

theorem Token.isClose_eq_any : ∀ t : Token, t.isClose = t.bracket?.any (· == ')') := by
  intro t
  cases t <;> rfl

variable {c : Char} {cs : List Char} {k : CharClass}

/-- Parentheses are marks. -/
theorem bracket?_eq_none (h : CharClass.of? c ≠ some .mark) : bracket? c = none := by
  refine Option.guard_eq_none_iff.mpr (Bool.eq_false_iff.mpr fun hc => ?_)
  rcases Bool.or_eq_true_iff.mp hc with hc | hc
  all_goals
    obtain rfl := eq_of_beq hc
    exact h (by decide)

theorem Ignored.filterMap_bracket? (h : Ignored cs) : cs.filterMap bracket? = [] := by
  refine List.filterMap_eq_nil_iff.mpr fun c hc => bracket?_eq_none ?_
  rw [h c hc]
  simp

theorem Run.filterMap_bracket? (h : Run k cs) (hk : k ≠ .mark) : cs.filterMap bracket? = [] := by
  refine List.filterMap_eq_nil_iff.mpr fun c hc => bracket?_eq_none ?_
  rw [h.kind c hc]
  simpa using hk

theorem IsWord.filterMap_bracket? (h : IsWord text) : text.toList.filterMap bracket? = [] := by
  rcases h with h | h
  all_goals exact h.filterMap_bracket? (by decide)

/-- A token's text has the parenthesis that the token stands for. -/
theorem Canonical.filterMap_bracket? (h : Canonical table t) :
    t.text.toList.filterMap bracket? = t.bracket?.toList := by
  cases h with
  | number h => exact h.filterMap_bracket? (by decide)
  | identifier h _ | function h _ => exact h.filterMap_bracket?
  | operator o => cases o <;> decide
  | leftParen | rightParen => decide

/-- The parentheses of lexemes are those of their tokens. -/
theorem filterMap_bracket?_extents : ∀ {ls : List Lexeme} {ts : List Token},
    (∀ l ∈ ls, l.Tidy) → (∀ t ∈ ts, Canonical table t) → ls.map Lexeme.text = ts.map Token.text →
    (ls.flatMap Lexeme.extent).filterMap bracket? = ts.filterMap Token.bracket?
  | [], [], _, _, _ => rfl
  | l :: ls, t :: ts, hls, hts, htexts => by
    obtain ⟨hl, hls⟩ := List.forall_mem_cons.mp hls
    obtain ⟨ht, hts⟩ := List.forall_mem_cons.mp hts
    obtain ⟨htext, htexts⟩ := List.cons.inj htexts
    have hrun : l.run.filterMap bracket? = t.bracket?.toList := by
      rw [← ht.filterMap_bracket?, ← htext, l.toList_text]
    rw [List.flatMap_cons, List.filterMap_append, filterMap_bracket?_extents hls hts htexts,
      Lexeme.extent, List.filterMap_append, hl.gap.filterMap_bracket?, hrun, List.filterMap_cons]
    cases t.bracket? <;> rfl

theorem any_bracket? {b : Char} (hb : bracket? b = some b) (c : Char) :
    (c == b) = (bracket? c).any (· == b) := by
  by_cases hc : c = b
  · rw [hc, hb, Option.any_some]
  · have hother : ∀ d ∈ bracket? c, d = c := by
      intro d hd
      exact (Option.guard_eq_some_iff.mp hd).1.symm
    cases hd : bracket? c with
    | none => simp [hc]
    | some d => rw [hother d hd, Option.any_some]

/-- What the parentheses of a text say of it. -/
def balance (cs : List Char) : Except Failure Unit :=
  if Overclosed (· == '(') (· == ')') cs then .error .unmatchedClose
  else if cs.count ')' < cs.count '(' then .error .unmatchedOpen
  else .ok ()

/-- Tokens with the parentheses of a text are balanced as the text is. -/
theorem balance_eq (h : cs.filterMap bracket? = ts.filterMap Token.bracket?) : balance cs =
    if Overclosed Token.isOpen Token.isClose ts then .error .unmatchedClose
    else if ts.countP Token.isClose < ts.countP Token.isOpen then .error .unmatchedOpen
    else .ok () := by
  have hopens := any_bracket? (b := '(') rfl
  have hcloses := any_bracket? (b := ')') rfl
  have hover : Overclosed (· == '(') (· == ')') cs ↔ Overclosed Token.isOpen Token.isClose ts := by
    rw [overclosed_filterMap hopens hcloses, h,
      ← overclosed_filterMap Token.isOpen_eq_any Token.isClose_eq_any]
  rw [balance, List.count, List.count, ← countP_filterMap_eq hopens, ← countP_filterMap_eq hcloses,
    h, countP_filterMap_eq Token.isOpen_eq_any, countP_filterMap_eq Token.isClose_eq_any]
  simp only [hover]

theorem Canonical.known (h : ∀ t ∈ ts, Canonical table t) : Known ts := by
  intro s hs
  cases h _ hs with
  | operator o => exact ⟨o, rfl⟩

/-- The tokens of a text are balanced as it is, and all operators among them are known. -/
theorem exists_tokens_balance (hne : text ≠ "") (table : FunctionTable)
    (separator : Option String) :
    ∃ ts, (tokenize ⟨some table, separator⟩ (.text text)).outcome = .ok ts ∧ Known ts ∧
      (convert ts).map (fun _ => ()) = balance text.toList := by
  obtain ⟨ts, htokens, hcanonical, htexts⟩ := tokenize_canonical hne table separator
  have htidy := Scan.tidy_ofChars text.toList
  have hbrackets : text.toList.filterMap bracket? = ts.filterMap Token.bracket? := by
    conv_lhs => rw [← Scan.chars_ofChars text.toList]
    rw [Scan.chars, List.filterMap_append, htidy.tail.filterMap_bracket?, List.append_nil,
      filterMap_bracket?_extents htidy.lexemes hcanonical htexts]
  have hknown := Canonical.known hcanonical
  exact ⟨ts, htokens, hknown, hknown.convert_eq.trans (balance_eq hbrackets).symm⟩

/-- Parentheses alone never put the blame on an operator. -/
theorem balance_ne_unknownOperator (cs : List Char) (s : String) :
    balance cs ≠ .error (.unknownOperator s) := by
  intro h
  rw [balance] at h
  split_ifs at h
  all_goals cases h

theorem outcome_toPostfix_eq_balance (hne : text ≠ "") (table : FunctionTable)
    (separator : String) :
    (toPostfix ⟨some table, some separator⟩ (.text text)).outcome.map (fun _ => ()) =
      balance text.toList := by
  obtain ⟨ts, htokens, -, hconvert⟩ := exists_tokens_balance hne table (some separator)
  rw [outcome_toPostfix htokens rfl, ← hconvert]
  cases convert ts <;> rfl

/-- Whether a text has a postfix form, and else why not, is told by its parentheses. -/
theorem toPostfix_balance (hne : text ≠ "") (table : FunctionTable) (separator : String) :
    let outcome := (toPostfix ⟨some table, some separator⟩ (.text text)).outcome
    outcome.map (fun _ => ()) = balance text.toList ∧
    (∀ s, outcome ≠ .error (.unknownOperator s)) ∧
    (∃ ts, (tokenize ⟨some table, some separator⟩ (.text text)).outcome = .ok ts ∧ Known ts) ∧
    ∀ table' separator',
      (toPostfix ⟨some table', some separator'⟩ (.text text)).outcome.map (fun _ => ()) =
        outcome.map (fun _ => ()) := by
  intro outcome
  have hbalance : outcome.map (fun _ => ()) = balance text.toList :=
    outcome_toPostfix_eq_balance hne table separator
  refine ⟨hbalance, fun s hs => ?_, ?_, fun table' separator' => ?_⟩
  · rw [hs] at hbalance
    exact balance_ne_unknownOperator _ s hbalance.symm
  · obtain ⟨ts, htokens, hknown, -⟩ := exists_tokens_balance hne table (some separator)
    exact ⟨ts, htokens, hknown⟩
  · rw [outcome_toPostfix_eq_balance hne table' separator', hbalance]

/-- In `a)(` no group is left open in the end, but one is closed too early. -/
theorem toPostfix_balance_early :
    let text := "a)("
    let outcome := (toPostfix ⟨some .trigonometric, some ", "⟩ (.text text)).outcome
    text ≠ "" ∧ outcome.map (fun _ => ()) = .error .unmatchedClose ∧
      ∀ table separator,
        (toPostfix ⟨some table, some separator⟩ (.text text)).outcome.map (fun _ => ()) =
          .error .unmatchedClose := by
  intro text outcome
  have hne : text ≠ "" := by decide
  obtain ⟨houtcome, -, -, hsame⟩ := toPostfix_balance hne .trigonometric ", "
  have hbalance : balance text.toList = .error .unmatchedClose := by decide
  exact ⟨hne, houtcome.trans hbalance,
    fun table separator => (hsame table separator).trans (houtcome.trans hbalance)⟩

end ShuntingYard
