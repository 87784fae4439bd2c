import ShuntingYard.Proofs.Locality

/-! A closed group is atomic. It stands in its place as one operand would, whatever comes before and
    after it, be it in order or not:

        … ( g ) …      as      … ( x ) …      with the postfix form of `g` in the place of `x`
        … f ( g ) …    as      … x …          with the postfix form of `g`, then `f`, in its place

    The reason is that both leave the same stack, and what is out is not looked at. -/

namespace ShuntingYard

/-- Tokens in parentheses. -/
def group (o : String) (ts : List Token) (c : String) : List Token :=
  .leftParen o :: (ts ++ [.rightParen c])

/-- Tokens with others put in the place of one. -/
def substitute (x : Token) (us ts : List Token) : List Token :=
  ts.flatMap fun t => if t = x then us else [t]

theorem substitute_append (x : Token) (us ts ts' : List Token) :
    substitute x us (ts ++ ts') = substitute x us ts ++ substitute x us ts' := List.flatMap_append

theorem substitute_singleton (x : Token) (us : List Token) : substitute x us [x] = us := by
  simp [substitute]

theorem substitute_of_not_mem {x : Token} {ts : List Token} (us : List Token) (h : x ∉ ts) :
    substitute x us ts = ts := by
  induction ts with
  | nil => rfl
  | cons t ts ih =>
    obtain ⟨ht, hts⟩ := List.ne_and_not_mem_of_not_mem_cons h
    have hone : substitute x us [t] = [t] := by simp [substitute, Ne.symm ht]
    rw [← List.singleton_append, substitute_append, hone, ih hts]

namespace Yard

variable {y z : Yard} {t : Token} {ts : List Token}

/-- Nothing is in the yard but what was there and what came in. -/
theorem feed_mem (h : y.feed t = .ok z) :
    ∀ u ∈ z.output.toList ++ z.stack, u ∈ y.output.toList ++ y.stack ∨ u = t := by
  obtain ⟨ready, opening, called, rest, hshunts⟩ := feed_shunts h
  intro u hu
  rw [hshunts.output, hshunts.after] at hu
  rw [hshunts.before]
  simp only [List.mem_append, List.mem_filter, List.mem_singleton] at hu ⊢
  tauto

theorem feedAll_mem (h : y.feedAll ts = .ok z) :
    ∀ u ∈ z.output.toList ++ z.stack, u ∈ y.output.toList ++ y.stack ∨ u ∈ ts := by
  refine feedAll_induction (P := fun ts z => ∀ u ∈ z.output.toList ++ z.stack,
    u ∈ y.output.toList ++ y.stack ∨ u ∈ ts) (fun u hu => .inl hu) ?_ h
  intro ts x t z ih hfeed u hu
  rcases feed_mem hfeed u hu with hu | rfl
  · exact (ih u hu).imp id (List.mem_append_left _)
  · exact .inr (by simp)

/-- What still comes out when `ts` comes in and `stack` waits. -/
def finish (stack ts : List Token) : Except Failure (List Token) :=
  (feedAll ⟨stack, #[]⟩ ts).bind drain

theorem feedAll_bind_drain (y : Yard) (ts : List Token) :
    (y.feedAll ts).bind drain = (finish y.stack ts).map (y.output.toList ++ ·) := by
  have hafter : y = after y.output ⟨y.stack, #[]⟩ := by simp [after]
  have hfed := feedAll_after y.output ⟨y.stack, #[]⟩ ts
  rw [← hafter] at hfed
  rw [hfed, finish]
  cases feedAll ⟨y.stack, #[]⟩ ts with
  | error e => rfl
  | ok z => exact drain_after y.output z

theorem finish_mem {stack us : List Token} (h : finish stack ts = .ok us) :
    ∀ u ∈ us, u ∈ stack ∨ u ∈ ts := by
  obtain ⟨z, hfed, hdrain⟩ := exists_of_bind_eq_ok h
  obtain ⟨-, rfl⟩ := drain_eq_ok hdrain
  simpa using feedAll_mem hfed

/-- A function that waits for a group that ends takes nothing else from the stack. -/
theorem exists_attached (stack : List Token) : ∃ called rest, stack = called ++ rest ∧
    ∀ output : Array Token, attachFunction ⟨stack, output⟩ = ⟨rest, output ++ called⟩ := by
  obtain ⟨called, rest, rfl, ⟨f, arity, rfl⟩ | ⟨rfl, hhead⟩⟩ := exists_called_split stack
  · exact ⟨_, rest, rfl, attachFunction_function f arity rest⟩
  · exact ⟨[], rest, rfl, fun output => by simpa using attachFunction_of_head output hhead⟩

end Yard

variable {pre post g g₂ us : List Token} {x : Token}

/-- Reordering goes through a part of the tokens. -/
theorem convert_through {y : Yard} {mid stack out : List Token}
    (hpre : Yard.empty.feedAll pre = .ok y)
    (hmid : y.feedAll mid = .ok ⟨stack, y.output ++ out⟩) :
    convert (pre ++ mid ++ post) =
      (Yard.finish stack post).map fun us => y.output.toList ++ out ++ us := by
  rw [convert_eq, Yard.feedAll_append, Yard.feedAll_append, hpre, Except.bind, hmid, Except.bind,
    Yard.feedAll_bind_drain]
  simp

theorem convert_through_error {e : Failure} (hpre : Yard.empty.feedAll pre = .error e)
    (mid : List Token) : convert (pre ++ mid ++ post) = .error e := by
  rw [convert_eq, Yard.feedAll_append, Yard.feedAll_append, hpre]
  rfl

/-- Parts that leave the same stack may stand for each other, with what they send out. -/
theorem convert_substitute {mid mid' out : List Token} (hpre : x ∉ pre) (hpost : x ∉ post)
    (hmid : ∀ y, Yard.empty.feedAll pre = .ok y → ∃ called rest, y.stack = called ++ rest ∧
      y.feedAll mid = .ok ⟨rest, y.output ++ (out ++ called)⟩ ∧
      y.feedAll mid' = .ok ⟨rest, y.output ++ ([x] ++ called)⟩) :
    convert (pre ++ mid ++ post) = (convert (pre ++ mid' ++ post)).map (substitute x out) := by
  cases hfed : Yard.empty.feedAll pre with
  | error e =>
    rw [convert_through_error hfed, convert_through_error hfed]
    rfl
  | ok y =>
    obtain ⟨called, rest, hstack, hfed', hfed''⟩ := hmid y hfed
    have hmem : ∀ u ∈ y.output.toList ++ (called ++ rest), u ∈ pre := by
      simpa [hstack, Yard.empty] using Yard.feedAll_mem hfed
    rw [convert_through hfed hfed', convert_through hfed hfed'']
    cases hfinish : Yard.finish rest post with
    | error e => rfl
    | ok us =>
      have hus : x ∉ us := by
        intro hx
        rcases Yard.finish_mem hfinish x hx with hx | hx
        · exact hpre (hmem x (by simp [hx]))
        · exact hpost hx
      have hout : x ∉ y.output.toList := fun hx => hpre (hmem x (by simp [hx]))
      have hcalled : x ∉ called := fun hx => hpre (hmem x (by simp [hx]))
      simp only [Except.map, substitute_append, substitute_singleton, substitute_of_not_mem out hus,
        substitute_of_not_mem out hout, substitute_of_not_mem out hcalled]

/-- Parts that do the same to any yard may stand for each other. -/
theorem convert_congr {mid mid' : List Token} (hmid : ∀ y : Yard, y.feedAll mid = y.feedAll mid')
    (pre post : List Token) : convert (pre ++ mid ++ post) = convert (pre ++ mid' ++ post) := by
  rw [convert_eq, convert_eq, Yard.feedAll_append, Yard.feedAll_append, Yard.feedAll_append,
    Yard.feedAll_append, funext hmid]

theorem feed_operand (hx : x.isOperand = true) (y : Yard) :
    y.feed x = .ok ⟨y.stack, y.output ++ [x]⟩ := by
  cases x with
  | number s => exact Yard.feed_number y s
  | identifier s => exact Yard.feed_identifier y s
  | _ => cases hx

theorem convert_operand (hx : x.isOperand = true) : convert [x] = .ok [x] := by
  rw [convert_eq, Yard.feedAll_cons, feed_operand hx]
  rfl

theorem feedAll_called_group (hg : convert g = .ok us) (y : Yard) (f : String) (arity : Int)
    (o c : String) : y.feedAll (.function f arity :: group o g c) =
      .ok ⟨y.stack, y.output ++ (us ++ [.function f arity])⟩ := by
  rw [Yard.feedAll_cons, Yard.feed_function, Except.bind, group, Yard.feedAll_group_eq hg,
    Yard.attachFunction_function, Yard.output_append]

theorem feedAll_operand (hx : x.isOperand = true) (y : Yard) :
    y.feedAll [x] = .ok ⟨y.stack, y.output ++ [x]⟩ := by
  rw [Yard.feedAll_cons, feed_operand hx]
  rfl

/-- A group stands for an operand in parentheses. -/
theorem convert_group (hg : convert g = .ok us) (hx : x.isOperand = true) (hpre : x ∉ pre)
    (hpost : x ∉ post) (o c : String) : convert (pre ++ group o g c ++ post) =
      (convert (pre ++ group o [x] c ++ post)).map (substitute x us) := by
  refine convert_substitute hpre hpost fun y _ => ?_
  -- a function before the group is taken along by the one and by the other
  obtain ⟨called, rest, hstack, hattach⟩ := Yard.exists_attached y.stack
  refine ⟨called, rest, hstack, ?_, ?_⟩
  · rw [group, Yard.feedAll_group_eq hg, hattach, Yard.output_append]
  · rw [group, Yard.feedAll_group_eq (convert_operand hx), hattach, Yard.output_append]

/-- A group with the function that calls it stands for an operand. -/
theorem convert_called_group (hg : convert g = .ok us) (hx : x.isOperand = true) (hpre : x ∉ pre)
    (hpost : x ∉ post) (f : String) (arity : Int) (o c : String) :
    convert (pre ++ .function f arity :: group o g c ++ post) =
      (convert (pre ++ [x] ++ post)).map (substitute x (us ++ [.function f arity])) := by
  refine convert_substitute hpre hpost fun y _ => ⟨[], y.stack, rfl, ?_, ?_⟩
  · rw [feedAll_called_group hg, List.append_nil]
  · rw [feedAll_operand hx, List.append_nil]

/-- What a group with its function gives is not torn apart. -/
theorem convert_called_group_ok (hg : convert g = .ok us) {f : String} {arity : Int} {o c : String}
    {all : List Token} (h : convert (pre ++ .function f arity :: group o g c ++ post) = .ok all) :
    ∃ before after, all = before ++ (us ++ .function f arity :: after) := by
  cases hfed : Yard.empty.feedAll pre with
  | error e =>
    rw [convert_through_error hfed] at h
    cases h
  | ok y =>
    rw [convert_through hfed (feedAll_called_group hg y f arity o c)] at h
    cases hfinish : Yard.finish y.stack post with
    | error e =>
      rw [hfinish] at h
      cases h
    | ok after =>
      rw [hfinish, Except.map, Except.ok.injEq] at h
      exact ⟨y.output.toList, after, by rw [← h]; simp⟩

/-- A group that can be reordered by itself stands for one operand, in any tokens at all. Only what
    it gives counts, and a function right before it comes out right after it. -/
theorem convert_group_atomic (hg : convert g = .ok us) (hx : x.isOperand = true) (hpre : x ∉ pre)
    (hpost : x ∉ post) (o c : String) :
    convert (pre ++ group o g c ++ post) =
      (convert (pre ++ group o [x] c ++ post)).map (substitute x us) ∧
    (∀ f arity, convert (pre ++ .function f arity :: group o g c ++ post) =
      (convert (pre ++ [x] ++ post)).map (substitute x (us ++ [.function f arity]))) ∧
    (∀ g₂, convert g₂ = convert g →
      convert (pre ++ group o g₂ c ++ post) = convert (pre ++ group o g c ++ post)) ∧
    ∀ f arity all, convert (pre ++ .function f arity :: group o g c ++ post) = .ok all →
      ∃ before after, all = before ++ (us ++ .function f arity :: after) := by
  refine ⟨convert_group hg hx hpre hpost o c, fun f arity => ?_, fun g₂ hg₂ => ?_, ?_⟩
  · exact convert_called_group hg hx hpre hpost f arity o c
  · refine convert_congr (fun y => ?_) pre post
    rw [group, group, Yard.feedAll_group_eq (hg₂.trans hg), Yard.feedAll_group_eq hg]
  · exact fun f arity all => convert_called_group_ok hg

/-- `2 ^ ( a + b ) * 3` from `2 ^ ( x ) * 3`, and `2 ^ sin ( a + b ) * 3` from `2 ^ x * 3`. -/
theorem convert_group_atomic_sum :
    let sum := [Token.identifier "a", .operator "+", .identifier "b"]
    let pre := [Token.number "2", .operator "^"]
    let post := [Token.operator "*", .number "3"]
    let x := Token.identifier "x"
    (convert sum = .ok [.identifier "a", .identifier "b", .operator "+"] ∧ x.isOperand = true ∧
      x ∉ pre ∧ x ∉ post) ∧
    convert (pre ++ group "(" sum ")" ++ post) = .ok [.number "2", .identifier "a",
      .identifier "b", .operator "+", .operator "^", .number "3", .operator "*"] ∧
    convert (pre ++ .function "sin" 1 :: group "(" sum ")" ++ post) = .ok [.number "2",
      .identifier "a", .identifier "b", .operator "+", .function "sin" 1, .operator "^",
      .number "3", .operator "*"] := by
  intro sum pre post x
  have hsum : convert sum = .ok [.identifier "a", .identifier "b", .operator "+"] := by decide
  have hx : x.isOperand = true := by decide
  have hpre : x ∉ pre := by decide
  have hpost : x ∉ post := by decide
  obtain ⟨hgroup, hcalled, -, -⟩ := convert_group_atomic hsum hx hpre hpost "(" ")"
  refine ⟨⟨hsum, hx, hpre, hpost⟩, ?_, ?_⟩
  · rw [hgroup]
    decide
  · rw [hcalled]
    decide

end ShuntingYard
