import ShuntingYard.Proofs.Grouping
import ShuntingYard.Proofs.Release

/-! What reordering looks at: the kinds of tokens and the weights of operators, and nothing else. Tokens
    may get other texts, and functions other arities, even all the same ones. As long as each keeps its
    kind, and operators their weights, they are reordered as before:

        2 + f ( x ) * y   ─▶   2 x f y * +
        7 - g [ y ] / y   ─▶   7 y g y / -

    A run that fails goes on to fail at the same token. If it was an operator that is unknown, it is
    named as it is called now. -/

namespace ShuntingYard

/-- Tokens of one kind; operators have the same weight, or are both unknown. -/
inductive Alike : Token → Token → Prop where
  | number (s s' : String) : Alike (.number s) (.number s')
  | identifier (s s' : String) : Alike (.identifier s) (.identifier s')
  | function (s s' : String) (arity arity' : Int) : Alike (.function s arity) (.function s' arity')
  | known {o o' : Operator} : o'.weight = o.weight → Alike (.operator o.text) (.operator o'.text)
  | unknown {s s' : String} : Operator.ofText? s = none → Operator.ofText? s' = none →
      Alike (.operator s) (.operator s')
  | leftParen (s s' : String) : Alike (.leftParen s) (.leftParen s')
  | rightParen (s s' : String) : Alike (.rightParen s) (.rightParen s')
  | plain (s s' : String) : Alike (.plain s) (.plain s')

/-- A failure after all tokens have been changed: an unknown operator has the name it has now. -/
def Failure.relabel (f : Token → Token) : Failure → Failure
  | .unknownOperator s => .unknownOperator (f (.operator s)).text
  | e => e

variable {f : Token → Token} {t t' : Token} {ts us : List Token}

theorem Alike.refl : ∀ t : Token, Alike t t
  | .number s => .number s s
  | .identifier s => .identifier s s
  | .function s arity => .function s s arity arity
  | .operator s =>
    match h : Operator.ofText? s with
    | some _ => Operator.ofText?_eq_some_iff.mp h ▸ .known rfl
    | none => .unknown h h
  | .leftParen s => .leftParen s s
  | .rightParen s => .rightParen s s
  | .plain s => .plain s s

theorem Alike.isOpen_eq (h : Alike t t') : t'.isOpen = t.isOpen := by cases h <;> rfl

/-- A change of tokens opens no group. -/
theorem forall_isOpen_map (hf : ∀ t, Alike t (f t)) (h : ∀ t ∈ ts, t.isOpen = false) :
    ∀ t ∈ ts.map f, t.isOpen = false :=
  List.forall_mem_map.mpr fun t ht => (hf t).isOpen_eq.trans (h t ht)

theorem Alike.isFunction_eq (h : Alike t t') : t'.isFunction = t.isFunction := by cases h <;> rfl

/-! ### Operators of the same weights -/

/-- Powers are told from the other operators by their weight. -/
theorem Operator.isRightAssociative_eq (o : Operator) :
    o.isRightAssociative = decide (o.weight = 3) := by
  cases o <;> rfl

/-- The weights decide which operator takes its operands first. -/
theorem Operator.yields_congr {o o' p p' : Operator} (ho : o'.weight = o.weight)
    (hp : p'.weight = p.weight) : o'.yields p' = o.yields p := by
  rw [yields, yields, isRightAssociative_eq, isRightAssociative_eq, ho, hp]

theorem Alike.operator_cases {s : String} (h : Alike (.operator s) t') :
    (∃ o o' : Operator, s = o.text ∧ t' = .operator o'.text ∧ o'.weight = o.weight) ∨
    ∃ s', t' = .operator s' ∧ Operator.ofText? s = none ∧ Operator.ofText? s' = none := by
  cases h with
  | known hweight => exact .inl ⟨_, _, rfl, rfl, hweight⟩
  | unknown hs hs' => exact .inr ⟨_, rfl, hs, hs'⟩

theorem Alike.exists_operator {s : String} (h : Alike (.operator s) t') :
    ∃ s', t' = .operator s' := by
  rcases h.operator_cases with ⟨_, _, -, rfl, -⟩ | ⟨_, rfl, -⟩
  · exact ⟨_, rfl⟩
  · exact ⟨_, rfl⟩

theorem Alike.exists_operator_of {s : String} (h : Alike t (.operator s)) :
    ∃ s', t = .operator s' := by
  cases h with
  | known => exact ⟨_, rfl⟩
  | unknown => exact ⟨_, rfl⟩

theorem Alike.exists_leftParen {s : String} (h : Alike (.leftParen s) t') :
    ∃ s', t' = .leftParen s' := by
  cases h with
  | leftParen s s' => exact ⟨s', rfl⟩

theorem Alike.exists_function {s : String} {arity : Int} (h : Alike (.function s arity) t') :
    ∃ s' arity', t' = .function s' arity' := by
  cases h with
  | function s s' arity arity' => exact ⟨s', arity', rfl⟩

/-- Comparisons come out as before, or fail on the same operator. -/
theorem textYields_relabel (hf : ∀ t, Alike t (f t)) (top incoming : String) :
    Operator.textYields (f (.operator top)).text (f (.operator incoming)).text =
      (Operator.textYields top incoming).mapError (Failure.relabel f) := by
  rcases (hf (.operator top)).operator_cases with
    ⟨o, o', rfl, ho, hweight⟩ | ⟨top', htop', hnone, hnone'⟩
  · rcases (hf (.operator incoming)).operator_cases with
      ⟨p, p', rfl, hp, hweight'⟩ | ⟨incoming', hincoming', hnone, hnone'⟩
    · rw [ho, hp, Token.text, Token.text, Operator.textYields_text, Operator.textYields_text,
        Operator.yields_congr hweight hweight']
      rfl
    · have hold : Yard.unknownOf o.text incoming = some incoming := by
        simp [Yard.unknownOf_of_incoming hnone]
      have hnew : Yard.unknownOf o'.text incoming' = some incoming' := by
        simp [Yard.unknownOf_of_incoming hnone']
      rw [Yard.textYields_unknown hold, ho, hincoming', Token.text, Token.text,
        Yard.textYields_unknown hnew]
      simp [Except.mapError, Failure.relabel, hincoming', Token.text]
  · rw [Yard.textYields_unknown (Yard.unknownOf_of_top hnone incoming), htop', Token.text,
      Yard.textYields_unknown (Yard.unknownOf_of_top hnone' _)]
    simp [Except.mapError, Failure.relabel, htop', Token.text]

namespace Yard

variable {y z : Yard} {stack : List Token} {e : Failure}

/-- The yard with all its tokens changed. -/
def map (f : Token → Token) (y : Yard) : Yard := ⟨y.stack.map f, y.output.map f⟩

/-- The outcome of a move when all tokens are changed. -/
def relabel (f : Token → Token) (x : Except Failure Yard) : Except Failure Yard :=
  (x.map (map f)).mapError (Failure.relabel f)

theorem map_output (f : Token → Token) (stack : List Token) (output : Array Token)
    (out : List Token) :
    map f ⟨stack, output ++ out⟩ = ⟨stack.map f, output.map f ++ out.map f⟩ := by
  rw [map, Yard.mk.injEq]
  exact ⟨rfl, Array.toList_inj.mp (by simp)⟩

/-! ### One token -/

theorem release_relabel (hf : ∀ t, Alike t (f t)) (incoming : String) : ∀ stack : List Token,
    release (f (.operator incoming)).text (stack.map f) =
      ⟨(release incoming stack).released.map f, (release incoming stack).rest.map f,
        (release incoming stack).failure.map (Failure.relabel f)⟩
  | [] => rfl
  | t :: below => by
    by_cases ht : ∃ top, t = .operator top
    · obtain ⟨top, rfl⟩ := ht
      obtain ⟨top', htop'⟩ := (hf (.operator top)).exists_operator
      have hyields := textYields_relabel hf top incoming
      rw [htop', Token.text] at hyields
      rw [List.map_cons, htop', release, release, hyields]
      cases Operator.textYields top incoming with
      | error e => simp [Except.mapError, htop']
      | ok yields =>
        cases yields with
        | false => simp [Except.mapError, htop']
        | true => simp [Except.mapError, htop', release_relabel hf incoming below]
    · have hhead : ∀ s, (t :: below).head? ≠ some (.operator s) := by
        rintro s hs
        exact ht ⟨s, by simpa using hs⟩
      have hhead' : ∀ s, ((t :: below).map f).head? ≠ some (.operator s) := by
        rintro s hs
        have hft : f t = .operator s := by simpa using hs
        exact ht (hft ▸ hf t).exists_operator_of
      rw [release_of_head _ hhead, release_of_head _ hhead']
      rfl

theorem feed_operator_relabel (hf : ∀ t, Alike t (f t)) (y : Yard) (s : String) :
    (y.map f).feed (f (.operator s)) = relabel f (y.feed (.operator s)) := by
  obtain ⟨ready, rest, failure, hrelease, -, -⟩ := release_split s y.stack
  obtain ⟨s', hs'⟩ := (hf (.operator s)).exists_operator
  have hchanged := release_relabel hf s y.stack
  rw [hrelease, hs', Token.text] at hchanged
  cases failure with
  | some e =>
    rw [feed_operator_error hrelease, hs', feed_operator_error (y := y.map f) hchanged]
    rfl
  | none =>
    rw [feed_operator hrelease, hs', feed_operator (y := y.map f) hchanged, relabel, Except.map,
      map_output, List.map_cons, hs']
    rfl

theorem feed_rightParen_relabel (hf : ∀ t, Alike t (f t)) (y : Yard) (c c' : String) :
    (y.map f).feed (.rightParen c') = relabel f (y.feed (.rightParen c)) := by
  rcases feed_rightParen_cases y c with
    ⟨hclosed, hfeed⟩ | ⟨inner, o, called, rest, hstack, hinner, hcalled, hfeed⟩
  · rw [hfeed, feed_rightParen, closeGroup_error (y := y.map f) (forall_isOpen_map hf hclosed)]
    rfl
  · obtain ⟨o', ho'⟩ := (hf (.leftParen o)).exists_leftParen
    have hstack' : (y.map f).stack =
        inner.map f ++ .leftParen o' :: (called.map f ++ rest.map f) := by
      simp [map, hstack, ho']
    have hcalled' : (∃ g arity, called.map f = [.function g arity]) ∨
        called.map f = [] ∧ ∀ t ∈ (rest.map f).head?, t.isFunction = false := by
      rcases hcalled with ⟨g, arity, rfl⟩ | ⟨rfl, hhead⟩
      · obtain ⟨g', arity', hg⟩ := (hf (.function g arity)).exists_function
        exact .inl ⟨g', arity', by rw [List.map_singleton, hg]⟩
      · refine .inr ⟨rfl, fun t ht => ?_⟩
        rw [List.head?_map] at ht
        obtain ⟨u, hu, rfl⟩ := Option.map_eq_some_iff.mp ht
        exact (hf u).isFunction_eq.trans (hhead u hu)
    rw [hfeed, feed_rightParen_open hstack' (forall_isOpen_map hf hinner) hcalled', relabel,
      Except.map, map_output, List.map_append]
    rfl

/-- A changed token does to the changed yard what the token does to the yard. -/
theorem feed_relabel (hf : ∀ t, Alike t (f t)) (y : Yard) (t : Token) :
    (y.map f).feed (f t) = relabel f (y.feed t) := by
  have ht := hf t
  generalize hft : f t = t' at ht
  cases ht with
  | number s s' | identifier s s' => simp [relabel, Except.map, Except.mapError, map, hft]
  | function s s' arity arity' | leftParen s s' =>
    simp [relabel, Except.map, Except.mapError, map, hft]
  | plain s s' => rfl
  | known | unknown => exact hft ▸ feed_operator_relabel hf y _
  | rightParen c c' => exact feed_rightParen_relabel hf y c c'

/-! ### Whole expressions -/

theorem feedAll_relabel (hf : ∀ t, Alike t (f t)) (ts : List Token) : ∀ y : Yard,
    (y.map f).feedAll (ts.map f) = relabel f (y.feedAll ts) := by
  induction ts with
  | nil => intro y; rfl
  | cons t ts ih =>
    intro y
    rw [List.map_cons, feedAll_cons, feedAll_cons, feed_relabel hf]
    cases y.feed t with
    | error e => rfl
    | ok z => exact ih z

theorem drain_relabel (hf : ∀ t, Alike t (f t)) (y : Yard) :
    (y.map f).drain = (y.drain.map (List.map f)).mapError (Failure.relabel f) := by
  rcases open_or_closed y.stack with ⟨t, ht, hopen⟩ | hclosed
  · rw [drain_of_open ⟨t, ht, hopen⟩, drain_of_open (y := y.map f) ⟨f t, List.mem_map_of_mem ht,
      (hf t).isOpen_eq.trans hopen⟩]
    rfl
  · have hclosed' : ∀ t ∈ (y.map f).stack, t.isOpen = false := forall_isOpen_map hf hclosed
    rw [drain_of_closed hclosed, drain_of_closed hclosed']
    simp [map, Except.map, Except.mapError]

/-! ### What a failure names -/

/-- The unknown operator is one of the two that are compared. -/
theorem unknownOf_eq_some {top incoming s : String} (h : unknownOf top incoming = some s) :
    s = top ∨ s = incoming := by
  unfold unknownOf at h
  split at h
  · exact .inl (Option.some.inj h).symm
  · exact .inr (Option.some.inj h).symm
  · cases h

theorem obstacle?_eq_some {incoming : String} (h : obstacle? incoming stack = some e) :
    ∃ s, e = .unknownOperator s ∧ (.operator s ∈ stack ∨ s = incoming) := by
  match stack, h with
  | .operator top :: below, h =>
    rw [obstacle?_operator] at h
    obtain ⟨s, hs, rfl⟩ := Option.map_eq_some_iff.mp h
    exact ⟨s, rfl, (unknownOf_eq_some hs).imp (fun heq => by simp [heq]) id⟩

/-- A token that fails closes too much, or it and the stack have an unknown operator. -/
theorem feed_error (h : y.feed t = .error e) :
    e = .unmatchedClose ∨
      ∃ s, e = .unknownOperator s ∧ (.operator s ∈ y.stack ∨ .operator s = t) := by
  cases t with
  | number s | identifier s | function s arity | leftParen s | plain s => cases h
  | operator incoming =>
    obtain ⟨ready, rest, hstack, -, -, hrelease⟩ := exists_release incoming y.stack
    cases hobstacle : obstacle? incoming rest with
    | none =>
      rw [hobstacle] at hrelease
      rw [feed_operator hrelease] at h
      cases h
    | some e' =>
      rw [hobstacle] at hrelease
      rw [feed_operator_error hrelease, Except.error.injEq] at h
      subst h
      obtain ⟨s, rfl, hs⟩ := obstacle?_eq_some hobstacle
      refine .inr ⟨s, rfl, hs.imp (fun hmem => ?_) (congrArg Token.operator)⟩
      exact hstack ▸ List.mem_append_right ready hmem
  | rightParen c =>
    rcases feed_rightParen_cases y c with ⟨-, hfeed⟩ | ⟨_, _, _, _, -, -, -, hfeed⟩
    · rw [hfeed, Except.error.injEq] at h
      exact .inl h.symm
    · rw [hfeed] at h
      cases h

theorem feedAll_error (h : y.feedAll ts = .error e) :
    e = .unmatchedClose ∨ ∃ s, e = .unknownOperator s ∧
      (.operator s ∈ y.output.toList ++ y.stack ∨ .operator s ∈ ts) := by
  induction ts generalizing y with
  | nil => cases h
  | cons t ts ih =>
    rw [feedAll_cons] at h
    rcases cases_of_bind_eq_error h with hfeed | ⟨z, hfeed, h⟩
    · refine (feed_error hfeed).imp id ?_
      rintro ⟨s, rfl, hs⟩
      exact ⟨s, rfl, hs.imp (List.mem_append_right _) fun heq => List.mem_cons.mpr (.inl heq)⟩
    · refine (ih h).imp id ?_
      rintro ⟨s, rfl, hs | hs⟩
      · exact ⟨s, rfl, (feed_mem hfeed _ hs).imp id fun heq => List.mem_cons.mpr (.inl heq)⟩
      · exact ⟨s, rfl, .inr (List.mem_cons_of_mem t hs)⟩

end Yard

/-- Reordering fails on parentheses, or on an operator among the tokens. -/
theorem convert_failure {e : Failure} (h : convert ts = .error e) :
    (e = .unmatchedClose ∨ e = .unmatchedOpen) ∨
      ∃ s, e = .unknownOperator s ∧ .operator s ∈ ts := by
  rcases cases_of_bind_eq_error h with hfed | ⟨y, -, hdrain⟩
  · rcases Yard.feedAll_error hfed with rfl | ⟨s, rfl, hs⟩
    · exact .inl (.inl rfl)
    · exact .inr ⟨s, rfl, by simpa [Yard.empty] using hs⟩
  · rcases Yard.open_or_closed y.stack with hopen | hclosed
    · rw [Yard.drain_of_open hopen, Except.error.injEq] at hdrain
      exact .inl (.inr hdrain.symm)
    · rw [Yard.drain_of_closed hclosed] at hdrain
      cases hdrain

/-- Changed tokens are reordered as they were before the change. -/
theorem convert_map (hf : ∀ t, Alike t (f t)) (ts : List Token) :
    convert (ts.map f) = ((convert ts).map (List.map f)).mapError (Failure.relabel f) := by
  have hfed := Yard.feedAll_relabel hf ts Yard.empty
  have hempty : Yard.empty.map f = Yard.empty := by simp [Yard.map, Yard.empty]
  rw [hempty] at hfed
  rw [convert_eq, convert_eq, hfed]
  cases Yard.empty.feedAll ts with
  | error e => rfl
  | ok y => exact Yard.drain_relabel hf y

/-- A change that leaves the operators as they are goes along with reordering in all that happens. -/
theorem convert_map_of_operator (hf : ∀ t, Alike t (f t))
    (hoperator : ∀ s, .operator s ∈ ts → f (.operator s) = .operator s) :
    convert (ts.map f) = (convert ts).map (List.map f) := by
  rw [convert_map hf]
  cases hconvert : convert ts with
  | ok us => rfl
  | error e =>
    rcases convert_failure hconvert with (rfl | rfl) | ⟨s, rfl, hs⟩
    · rfl
    · rfl
    · rw [Except.map, Except.mapError, Failure.relabel, hoperator s hs, Token.text]

/-- Kinds and weights alone decide what becomes of tokens. A change that keeps them goes along with
    reordering, in the order that comes out and in the failure, which is named by the operator as it is
    called after the change. -/
theorem convert_relabel (hf : ∀ t, Alike t (f t)) (ts : List Token) :
    (∀ us, convert ts = .ok us → convert (ts.map f) = .ok (us.map f)) ∧
    ∀ e, convert ts = .error e →
      (e = .unmatchedClose ∨ e = .unmatchedOpen) ∧ convert (ts.map f) = .error e ∨
      ∃ s, e = .unknownOperator s ∧ .operator s ∈ ts ∧
        convert (ts.map f) = .error (.unknownOperator (f (.operator s)).text) := by
  refine ⟨fun us h => ?_, fun e h => ?_⟩
  · rw [convert_map hf, h]
    rfl
  · rw [convert_map hf, h]
    rcases convert_failure h with hparens | ⟨s, rfl, hs⟩
    · refine .inl ⟨hparens, ?_⟩
      rcases hparens with rfl | rfl <;> rfl
    · exact .inr ⟨s, rfl, hs, rfl⟩

/-- One text for each kind of token, but for operators, which are exchanged within their weights. -/
def blur : Token → Token
  | .number _ => .number "7"
  | .identifier _ => .identifier "y"
  | .function _ _ => .function "g" 0
  | .operator s =>
    match Operator.ofText? s with
    | some .plus => .operator "-"
    | some .times => .operator "/"
    | some o => .operator o.text
    | none => .operator "?"
  | .leftParen _ => .leftParen "["
  | .rightParen _ => .rightParen "]"
  | .plain _ => .plain ""

theorem alike_blur (t : Token) : Alike t (blur t) := by
  cases t with
  | number s => exact .number s "7"
  | identifier s => exact .identifier s "y"
  | function s arity => exact .function s "g" arity 0
  | leftParen s => exact .leftParen s "["
  | rightParen s => exact .rightParen s "]"
  | plain s => exact .plain s ""
  | operator s =>
    cases ho : Operator.ofText? s with
    | none =>
      rw [blur, ho]
      exact .unknown ho (by decide)
    | some o =>
      obtain rfl := Operator.ofText?_eq_some_iff.mp ho
      rw [blur, ho]
      cases o with
      | plus => exact @Alike.known .plus .minus rfl
      | times => exact @Alike.known .times .over rfl
      | _ => exact .known rfl

/-- The order is that of `2 + f ( x ) * y` when it is read as `7 - g [ y ] / y`, and of two operators
    the unknown one is still the one that is named. -/
theorem convert_relabel_blur :
    let ts := [Token.number "2", .operator "+", .function "f" 1, .leftParen "(", .identifier "x",
      .rightParen ")", .operator "*", .identifier "y"]
    let us := [Token.number "2", .identifier "x", .function "f" 1, .identifier "y", .operator "*",
      .operator "+"]
    let vs := [Token.operator "%", .operator "+"]
    (∀ t, Alike t (blur t)) ∧ convert ts = .ok us ∧ convert (ts.map blur) = .ok (us.map blur) ∧
      us.map blur = [.number "7", .identifier "y", .function "g" 0, .identifier "y", .operator "/",
        .operator "-"] ∧
      convert vs = .error (.unknownOperator "%") ∧
      convert (vs.map blur) = .error (.unknownOperator "?") := by
  intro ts us vs
  have hts : convert ts = .ok us := by decide
  have hvs : convert vs = .error (.unknownOperator "%") := by decide
  refine ⟨alike_blur, hts, (convert_relabel alike_blur ts).1 us hts, by decide, hvs, ?_⟩
  rcases (convert_relabel alike_blur vs).2 _ hvs with ⟨hparens, -⟩ | ⟨s, hs, -, hchanged⟩
  · simp at hparens
  · obtain rfl : "%" = s := Failure.unknownOperator.inj hs
    exact hchanged

end ShuntingYard
