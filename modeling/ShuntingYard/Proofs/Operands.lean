import ShuntingYard.Proofs.Conservation
import ShuntingYard.Proofs.Locality

/-! Operands do not bear on the order of the rest. Numbers, variables and tokens without a role may be
    taken out of an expression, some of them or all, and what is left is reordered as it was before, or
    fails as it did:

        sin 2 ( x ) + 2 ;     ─▶     2 x sin 2 +
        sin   ( x ) +   ;     ─▶       x sin   +        without `2`
        sin 2 ( x ) +         ─▶     2 x sin   +        without the last `2` and `;`

    The run on what is kept goes on beside the run on all (`SideBySide`): the stacks are the same at
    any time, and the one has out what the other has, but for the operands that were taken out. -/

namespace ShuntingYard

/-- Of tokens with marks, those that are marked to be kept. -/
def kept (ms : List (Token × Bool)) : List Token := (ms.filter Prod.snd).map Prod.fst

theorem kept_append (ms ms' : List (Token × Bool)) : kept (ms ++ ms') = kept ms ++ kept ms' := by
  rw [kept, List.filter_append, List.map_append]
  rfl

/-- Marks that tell by the token what is kept. -/
theorem kept_map (keep : Token → Bool) (ts : List Token) :
    kept (ts.map fun t => (t, keep t)) = ts.filter keep := by
  rw [kept, List.filter_map, List.map_map]
  exact List.map_id _

/-- Tokens that are all kept. -/
theorem kept_map_true (ts : List Token) : kept (ts.map fun t => (t, true)) = ts := by
  rw [kept_map, List.filter_true]

/-- Where only idle tokens may be left out, all that may wait are kept. -/
theorem keep_of_mayWait {keep : Token → Bool} {t : Token}
    (hkeep : ∀ t, keep t = false → t.isIdle = true) (ht : t.mayWait = true) : keep t = true := by
  cases hk : keep t with
  | true => rfl
  | false =>
    have hidle := hkeep t hk
    cases t <;> simp [Token.mayWait, Token.isIdle] at ht hidle

/-- Only tokens that never wait, and for which nothing waits, are marked to be left out. -/
def IdleLeftOut (ms : List (Token × Bool)) : Prop := ∀ e ∈ ms, e.2 = false → e.1.isIdle = true

/-- A yard `y` that has read tokens with marks, and a yard `z` that has read those that are kept. The
    marks of the operands are found again in what is out. -/
structure SideBySide (read : List (Token × Bool)) (y z : Yard) (out : List (Token × Bool)) :
    Prop where
  stack : z.stack = y.stack
  waits : ∀ u ∈ y.stack, u.mayWait = true
  all : out.map Prod.fst = y.output.toList
  thinned : kept out = z.output.toList
  operands : (out.filter fun e => e.1.isOperand) = read.filter fun e => e.1.isOperand
  others : ∀ e ∈ out, e.1.isOperand = true ∨ e.1.mayWait = true ∧ e.2 = true

variable {ms read out : List (Token × Bool)} {y z : Yard} {keep : Token → Bool}

/-- What a token does is told by the stack. It fails, or tokens that waited come out, and then the
    token itself if it is an operand. -/
theorem Yard.feed_waited {stack : List Token} (hwaits : ∀ u ∈ stack, u.mayWait = true) (t : Token) :
    (∃ e, ∀ y : Yard, y.stack = stack → y.feed t = .error e) ∨
    ∃ rest waited, (∀ u ∈ rest, u.mayWait = true) ∧ (∀ u ∈ waited, u.mayWait = true) ∧
      ∀ y : Yard, y.stack = stack →
        y.feed t = .ok ⟨rest, y.output ++ (waited ++ [t].filter Token.isOperand)⟩ := by
  have hafter : ∀ y : Yard, y.stack = stack →
      y.feed t = (feed ⟨stack, #[]⟩ t).map (after y.output) := by
    rintro y rfl
    simpa [after] using feed_after y.output ⟨y.stack, #[]⟩ t
  cases hfeed : feed ⟨stack, #[]⟩ t with
  | error e =>
    refine .inl ⟨e, fun y hy => ?_⟩
    rw [hafter y hy, hfeed]
    rfl
  | ok x =>
    obtain ⟨ready, opening, called, rest, hshunts⟩ := feed_shunts hfeed
    have hbefore : stack = ready ++ (opening ++ (called ++ rest)) := hshunts.before
    refine .inr ⟨x.stack, ready ++ called, hshunts.waits hwaits, fun u hu => hwaits u ?_, ?_⟩
    · rw [hbefore]
      simp only [List.mem_append] at hu ⊢
      tauto
    · intro y hy
      have hnew : y.output ++ x.output =
          y.output ++ (ready ++ called ++ [t].filter Token.isOperand) :=
        Array.toList_inj.mp (by simp [hshunts.output])
      rw [hafter y hy, hfeed, Except.map, after, hnew]

namespace SideBySide

/-- What waited was kept, and comes out in both. -/
theorem release (h : SideBySide read y z out) {rest waited : List Token}
    (hrest : ∀ u ∈ rest, u.mayWait = true) (hwaited : ∀ u ∈ waited, u.mayWait = true) :
    SideBySide read ⟨rest, y.output ++ waited⟩ ⟨rest, z.output ++ waited⟩
      (out ++ waited.map fun u => (u, true)) where
  stack := rfl
  waits := hrest
  all := by
    have hsame : (waited.map fun u => (u, true)).map Prod.fst = waited := by
      simp [Function.comp_def]
    simp [hsame, h.all]
  thinned := by simp [kept_append, kept_map_true, h.thinned]
  operands := by
    have hnone : ((waited.map fun u => (u, true)).filter fun e => e.1.isOperand) = [] := by
      refine List.filter_eq_nil_iff.mpr (List.forall_mem_map.mpr fun u hu => ?_)
      simp [isOperand_of_mayWait (hwaited u hu)]
    rw [List.filter_append, hnone, List.append_nil, h.operands]
  others := by
    refine List.forall_mem_append.mpr ⟨h.others, List.forall_mem_map.mpr fun u hu => ?_⟩
    exact .inr ⟨hwaited u hu, rfl⟩

/-- An operand that comes in comes out at once, where it was kept. -/
theorem emit (h : SideBySide read y z out) (t : Token) (keep : Bool) :
    SideBySide (read ++ [(t, keep)]) ⟨y.stack, y.output ++ [t].filter Token.isOperand⟩
      ⟨y.stack, z.output ++ (kept [(t, keep)]).filter Token.isOperand⟩
      (out ++ [(t, keep)].filter fun e => e.1.isOperand) where
  stack := rfl
  waits := h.waits
  all := by cases ht : t.isOperand <;> simp [ht, h.all]
  thinned := by
    have hnew : kept ([(t, keep)].filter fun e => e.1.isOperand) =
        (kept [(t, keep)]).filter Token.isOperand := by
      cases keep <;> cases ht : t.isOperand <;> simp [kept, ht]
    simp [kept_append, hnew, h.thinned]
  operands := by
    rw [List.filter_append, List.filter_append, h.operands, List.filter_filter]
    simp
  others := by
    refine List.forall_mem_append.mpr ⟨h.others, fun e he => ?_⟩
    exact .inl (List.mem_filter.mp he).2

/-- Each token keeps the yards side by side, or fails in both. -/
theorem feed (h : SideBySide read y z out) {t : Token} {keep : Bool}
    (hidle : keep = false → t.isIdle = true) :
    (∃ e, y.feed t = .error e ∧ z.feedAll (kept [(t, keep)]) = .error e) ∨
    ∃ y' z' out', y.feed t = .ok y' ∧ z.feedAll (kept [(t, keep)]) = .ok z' ∧
      SideBySide (read ++ [(t, keep)]) y' z' out' := by
  cases keep with
  | true =>
    have hone : z.feedAll (kept [(t, true)]) = z.feed t := by
      cases hz : z.feed t <;> simp [kept, hz, Except.bind]
    rw [hone]
    rcases Yard.feed_waited h.waits t with ⟨e, herror⟩ | ⟨rest, waited, hrest, hwaited, hfeed⟩
    · exact .inl ⟨e, herror y rfl, herror z h.stack⟩
    · have hside := (h.release hrest hwaited).emit t true
      simp only [Yard.output_append] at hside
      exact .inr ⟨_, _, _, hfeed y rfl, hfeed z h.stack, hside⟩
  | false =>
    have hside := h.emit t false
    have hsame : (⟨y.stack, z.output ++ (kept [(t, false)]).filter Token.isOperand⟩ : Yard) = z := by
      rw [← h.stack]
      simp [kept]
    rw [hsame] at hside
    exact .inr ⟨_, z, _, Yard.feed_idle y (hidle rfl), rfl, hside⟩

/-- Runs from yards that are side by side end side by side, or fail in the same way. -/
theorem feedAll (h : SideBySide read y z out) (hidle : IdleLeftOut ms) :
    (∃ e, y.feedAll (ms.map Prod.fst) = .error e ∧ z.feedAll (kept ms) = .error e) ∨
    ∃ y' z' out', y.feedAll (ms.map Prod.fst) = .ok y' ∧ z.feedAll (kept ms) = .ok z' ∧
      SideBySide (read ++ ms) y' z' out' := by
  induction ms generalizing read y z out with
  | nil => exact .inr ⟨y, z, out, rfl, rfl, by rwa [List.append_nil]⟩
  | cons e ms ih =>
    obtain ⟨t, keep⟩ := e
    obtain ⟨hfirst, hrest⟩ := List.forall_mem_cons.mp hidle
    rw [List.map_cons, Yard.feedAll_cons, ← List.singleton_append, kept_append,
      Yard.feedAll_append]
    rcases h.feed hfirst with ⟨err, hy, hz⟩ | ⟨y', z', out', hy, hz, hside⟩
    · exact .inl ⟨err, by rw [hy]; rfl, by rw [hz]; rfl⟩
    · rw [hy, hz, ← List.append_assoc]
      exact ih hside hrest

end SideBySide

/-- What is kept of the input gives what is kept of the output, or fails as the whole does. -/
theorem convert_kept (hidle : IdleLeftOut ms) :
    (∃ e, convert (ms.map Prod.fst) = .error e ∧ convert (kept ms) = .error e) ∨
    ∃ out, convert (ms.map Prod.fst) = .ok (out.map Prod.fst) ∧ convert (kept ms) = .ok (kept out) ∧
      (out.filter fun e => e.1.isOperand) = (ms.filter fun e => e.1.isOperand) ∧
      ∀ e ∈ out, e.1.isOperand = true ∨ e.1.mayWait = true ∧ e.2 = true := by
  have hstart : SideBySide [] Yard.empty Yard.empty [] :=
    ⟨rfl, by simp [Yard.empty], rfl, rfl, rfl, by simp⟩
  rw [convert_eq, convert_eq]
  rcases hstart.feedAll hidle with ⟨e, hy, hz⟩ | ⟨y, z, out, hy, hz, hside⟩
  · exact .inl ⟨e, by rw [hy]; rfl, by rw [hz]; rfl⟩
  · rw [hy, hz]
    rcases Yard.open_or_closed y.stack with hopen | hclosed
    · exact .inl ⟨.unmatchedOpen, Yard.drain_of_open hopen,
        Yard.drain_of_open (hside.stack ▸ hopen)⟩
    · have hend := hside.release (List.forall_mem_nil _) hside.waits
      refine .inr ⟨_, ?_, ?_, hend.operands, hend.others⟩
      · rw [hend.all]
        simp [Except.bind, Yard.drain_of_closed hclosed]
      · rw [hend.thinned]
        simp [Except.bind, Yard.drain_of_closed (hside.stack ▸ hclosed), hside.stack]

/-- Where tokens that are alike are left out together, the same are left out of the output. -/
theorem convert_filter (hkeep : ∀ t, keep t = false → t.isIdle = true) (ts : List Token) :
    convert (ts.filter keep) = (convert ts).map (List.filter keep) := by
  have hidle : IdleLeftOut (ts.map fun t => (t, keep t)) :=
    List.forall_mem_map.mpr fun t _ => hkeep t
  have hts : (ts.map fun t => (t, keep t)).map Prod.fst = ts := by simp [Function.comp_def]
  have hconvert := convert_kept hidle
  rw [hts, kept_map] at hconvert
  rcases hconvert with ⟨e, hall, hkept⟩ | ⟨out, hall, hkept, hoperands, hothers⟩
  · rw [hall, hkept]
    rfl
  · have hmarks : ∀ e ∈ out, keep e.1 = e.2 := by
      intro e he
      rcases hothers e he with hoperand | ⟨hwaits, hmark⟩
      · have hmem : e ∈ (ts.map fun t => (t, keep t)).filter fun e => e.1.isOperand :=
          hoperands ▸ List.mem_filter.mpr ⟨he, hoperand⟩
        obtain ⟨t, -, rfl⟩ := List.mem_map.mp (List.mem_filter.mp hmem).1
        rfl
      · rw [hmark, keep_of_mayWait hkeep hwaits]
    rw [hall, hkept, Except.map, kept, List.filter_map]
    exact congrArg _ (congrArg _ (List.filter_congr fun e he => (hmarks e he).symm))

/-- Tokens that never wait, and for which nothing waits, may be left out of the input: all that are
    in a set, or occurrences here and there. Then the same are left out of the output, the operands
    among them each at its own place. So the order of operators and functions depends on operators,
    functions and parentheses alone, while the operands come out as they come in. -/
theorem convert_without_idle (hkeep : ∀ t, keep t = false → t.isIdle = true) (ts : List Token) :
    convert (ts.filter keep) = (convert ts).map (List.filter keep) ∧
    (∀ ms, ms.map Prod.fst = ts → IdleLeftOut ms →
      (∀ e, convert (kept ms) = .error e ↔ convert ts = .error e) ∧
      ∀ us, convert ts = .ok us → ∃ out, out.map Prod.fst = us ∧
        convert (kept ms) = .ok (kept out) ∧
        (out.filter fun e => e.1.isOperand) = (ms.filter fun e => e.1.isOperand) ∧
        ∀ e ∈ out, e.2 = false → e.1.isOperand = true) ∧
    (∀ ts', ts'.filter (fun t => !t.isIdle) = ts.filter (fun t => !t.isIdle) →
      (convert ts').map (List.filter fun t => !t.isIdle) =
        (convert ts).map (List.filter fun t => !t.isIdle)) ∧
    ∀ us, convert ts = .ok us → us.filter Token.isOperand = ts.filter Token.isOperand := by
  refine ⟨convert_filter hkeep ts, ?_, fun ts' h => ?_, fun us => convert_operands⟩
  · rintro ms rfl hidle
    rcases convert_kept hidle with ⟨e, hall, hkept⟩ | ⟨out, hall, hkept, hoperands, hothers⟩
    · rw [hall, hkept]
      exact ⟨fun _ => .rfl, fun us h => by cases h⟩
    · rw [hall, hkept]
      refine ⟨fun e => iff_of_false nofun nofun, fun us h => ?_⟩
      refine ⟨out, Except.ok.inj h, rfl, hoperands, fun e he hmark => ?_⟩
      rcases hothers e he with hoperand | ⟨-, hkept⟩
      · exact hoperand
      · rw [hmark] at hkept
        cases hkept
  · have hidle : ∀ t : Token, (!t.isIdle) = false → t.isIdle = true := fun t => by simp
    rw [← convert_filter hidle, ← convert_filter hidle, h]

/-- On `sin 2 ( x ) + 2 ;`, without all that is `2`, and without the last `2` and `;`. -/
theorem convert_without_idle_called :
    let ts := [Token.function "sin" 1, .number "2", .leftParen "(", .identifier "x",
      .rightParen ")", .operator "+", .number "2", .plain ";"]
    let ms := ts.zip [true, true, true, true, true, true, false, false]
    let us := [Token.number "2", .identifier "x", .function "sin" 1, .number "2", .operator "+"]
    (∀ t, decide (t ≠ Token.number "2") = false → t.isIdle = true) ∧
    (ms.map Prod.fst = ts ∧ IdleLeftOut ms ∧ convert ts = .ok us) ∧
    convert (ts.filter fun t => decide (t ≠ .number "2")) =
      .ok [.identifier "x", .function "sin" 1, .operator "+"] ∧
    ∃ out, out.map Prod.fst = us ∧ convert (kept ms) = .ok (kept out) ∧
      (out.filter fun e => e.1.isOperand) =
        [(.number "2", true), (.identifier "x", true), (.number "2", false)] := by
  intro ts ms us
  have hkeep : ∀ t, decide (t ≠ Token.number "2") = false → t.isIdle = true := by
    intro t ht
    obtain rfl : t = .number "2" := by simpa using ht
    rfl
  have hms : ms.map Prod.fst = ts := by decide
  have hidle : IdleLeftOut ms := by
    unfold IdleLeftOut
    decide
  have hconvert : convert ts = .ok us := by decide
  obtain ⟨hfilter, hmarked, -, -⟩ := convert_without_idle hkeep ts
  obtain ⟨out, hout, hkept, hoperands, -⟩ := (hmarked ms hms hidle).2 us hconvert
  refine ⟨hkeep, ⟨hms, hidle, hconvert⟩, ?_, out, hout, hkept, hoperands.trans (by decide)⟩
  rw [hfilter, hconvert]
  decide

end ShuntingYard
