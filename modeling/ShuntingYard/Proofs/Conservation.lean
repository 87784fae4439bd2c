import Mathlib.Data.List.NodupEquivFin
import Mathlib.Data.List.Sigma
import ShuntingYard.Proofs.Feed
import ShuntingYard.Proofs.Pipeline

/-! What goes in comes out. Of the tokens that are read, parentheses and tokens without a role stay
    behind, and each of the others comes out once, at a place of its own. So reordering is a
    bijection between places, also where tokens are alike:

        in    2  *  (  2  +  x  )             out    2  2  x  +  *
              0  1  2  3  4  5  6                    0  3  5  4  1

    Operands are never delayed: whatever comes after an operand comes out after it.

    The proof follows the places of the tokens through the yard (`Accounts`). -/

namespace ShuntingYard

/-- Whether a token is one that comes out. -/
def Token.comesOut : Token → Bool
  | .number _ | .identifier _ | .operator _ | .function _ _ => true
  | .leftParen _ | .rightParen _ | .plain _ => false

theorem Token.comesOut_eq (t : Token) : t.comesOut = (t.isOperand || (t.mayWait && !t.isOpen)) := by
  cases t <;> rfl

/-- Of two tokens, each with its place in the input, the second is no operand that is overtaken. -/
def InTurn (first second : Token × Nat) : Prop := second.1.isOperand = true → first.2 < second.2

/-- The tokens of a yard with their places in what has been read: all that come out are there. -/
structure Accounts (ts : List Token) (y : Yard) (out waiting : List (Token × Nat)) : Prop where
  output : out.map Prod.fst = y.output.toList
  stack : waiting.map Prod.fst = y.stack
  waits : ∀ e ∈ waiting, e.1.mayWait = true
  whole : (out ++ waiting.filter fun e => e.1.comesOut).Perm
    (ts.zipIdx.filter fun e => e.1.comesOut)
  inTurn : out.Pairwise InTurn

variable {ts us : List Token} {y z : Yard} {t : Token} {out waiting : List (Token × Nat)}

theorem accounts_nil : Accounts [] Yard.empty [] [] := ⟨rfl, rfl, by simp, .rfl, .nil⟩

/-- What is no operand may come out late. -/
theorem inTurn_append {late : List (Token × Nat)} (h : out.Pairwise InTurn)
    (hlate : ∀ e ∈ late, e.1.isOperand = false) : (out ++ late).Pairwise InTurn := by
  have hany : ∀ a, ∀ e ∈ late, InTurn a e := by
    intro a e he hoperand
    rw [hlate e he] at hoperand
    cases hoperand
  refine List.pairwise_append.mpr ⟨h, ?_, fun a _ e he => hany a e he⟩
  exact List.pairwise_of_forall_mem_list fun a _ e he => hany a e he

theorem isOperand_of_mayWait (h : t.mayWait = true) : t.isOperand = false := by
  cases t with
  | number s | identifier s => cases h
  | _ => rfl

/-- Of tokens that may wait all but parentheses come out. -/
theorem filter_comesOut {l : List (Token × Nat)} (hwaits : ∀ e ∈ l, e.1.mayWait = true)
    (hclosed : ∀ e ∈ l, e.1.isOpen = false) : (l.filter fun e => e.1.comesOut) = l := by
  refine List.filter_eq_self.mpr fun e he => ?_
  rw [Token.comesOut_eq, hwaits e he, hclosed e he]
  simp

theorem filter_comesOut_open {l : List (Token × Nat)} (hopen : ∀ e ∈ l, e.1.isOpen = true) :
    (l.filter fun e => e.1.comesOut) = [] := by
  refine List.filter_eq_nil_iff.mpr fun ⟨t, n⟩ he => ?_
  have ht : t.isOpen = true := hopen _ he
  cases t with
  | leftParen o => simp [Token.comesOut]
  | _ => cases ht

theorem Accounts.lt_length (h : Accounts ts y out waiting) {e : Token × Nat}
    (he : e ∈ out ++ waiting.filter fun e => e.1.comesOut) : e.2 < ts.length := by
  have hmem := (List.mem_filter.mp (h.whole.subset he)).1
  simpa using (List.mem_zipIdx hmem).2.1

/-- Where the places go: those of `gone` come out and those of `rest` stay, and no other was there
    of a token that comes out. -/
theorem Accounts.leaves (h : Accounts ts y out waiting) (hfeed : y.feed t = .ok z) :
    ∃ gone rest : List (Token × Nat), rest.Sublist waiting ∧
      (waiting.filter fun e => e.1.comesOut) = gone ++ rest.filter (fun e => e.1.comesOut) ∧
      z.stack = [t].filter Token.mayWait ++ rest.map Prod.fst ∧
      z.output.toList = out.map Prod.fst ++ gone.map Prod.fst ++ [t].filter Token.isOperand := by
  obtain ⟨_, _, _, _, hshunts⟩ := Yard.feed_shunts hfeed
  obtain ⟨ready, _, rfl, rfl, hrest⟩ := List.map_eq_append_iff.mp (h.stack.trans hshunts.before)
  obtain ⟨opening, _, rfl, rfl, hrest'⟩ := List.map_eq_append_iff.mp hrest
  obtain ⟨called, rest, rfl, rfl, rfl⟩ := List.map_eq_append_iff.mp hrest'
  have hclosed : ∀ e ∈ ready ++ called, e.1.isOpen = false :=
    List.forall_mem_map.mp (by rw [List.map_append]; exact hshunts.closed)
  have hopening : ∀ e ∈ opening, e.1.isOpen = true := List.forall_mem_map.mp hshunts.opening
  have hwaits : ∀ e ∈ ready ++ called, e.1.mayWait = true := by
    intro e he
    rcases List.mem_append.mp he with he | he
    all_goals exact h.waits e (by simp [he])
  have hsub : rest.Sublist (ready ++ (opening ++ (called ++ rest))) :=
    ((List.sublist_append_right called rest).trans (List.sublist_append_right opening _)).trans
      (List.sublist_append_right ready _)
  refine ⟨ready ++ called, rest, hsub, ?_, hshunts.after, ?_⟩
  · rw [← filter_comesOut hwaits hclosed]
    simp [filter_comesOut_open hopening]
  · rw [hshunts.output, ← h.output, List.map_append, ← List.append_assoc]

/-- A token comes out at once, or it waits and may come out later. -/
theorem filter_comesOut_singleton (e : Token × Nat) : ([e].filter fun e => e.1.comesOut) =
    ([e].filter fun e => e.1.isOperand) ++
      ([e].filter fun e => e.1.mayWait).filter fun e => e.1.comesOut := by
  obtain ⟨t, n⟩ := e
  cases t <;> rfl

theorem map_filter_singleton (p : Token → Bool) (t : Token) (n : Nat) :
    ([(t, n)].filter fun e => p e.1).map Prod.fst = [t].filter p := by
  cases h : p t <;> simp [h]

/-- A token that is taken in is accounted for at its place, and the others still are. -/
theorem Accounts.feed (h : Accounts ts y out waiting) (hfeed : y.feed t = .ok z) :
    ∃ out' waiting', Accounts (ts ++ [t]) z out' waiting' := by
  obtain ⟨gone, rest, hsub, hkept, hstack, houtput⟩ := h.leaves hfeed
  have hwhole := h.whole
  rw [hkept] at hwhole
  have hgone : ∀ e ∈ gone, e.1.isOperand = false := by
    intro e he
    have hmem : e ∈ waiting.filter fun e => e.1.comesOut := hkept ▸ List.mem_append_left _ he
    exact isOperand_of_mayWait (h.waits e (List.mem_filter.mp hmem).1)
  have hearlier : ∀ e ∈ out ++ gone, e.2 < ts.length := by
    intro e he
    refine h.lt_length ?_
    rw [hkept, ← List.append_assoc]
    exact List.mem_append_left _ he
  refine ⟨out ++ gone ++ [(t, ts.length)].filter fun e => e.1.isOperand,
    ([(t, ts.length)].filter fun e => e.1.mayWait) ++ rest, ?_, ?_, ?_, ?_, ?_⟩
  · rw [houtput, List.map_append, List.map_append, map_filter_singleton]
  · rw [hstack, List.map_append, map_filter_singleton]
  · refine List.forall_mem_append.mpr ⟨fun e he => (List.mem_filter.mp he).2, fun e he => ?_⟩
    exact h.waits e (hsub.subset he)
  · have hnew : (ts ++ [t]).zipIdx = ts.zipIdx ++ [(t, ts.length)] := by simp [List.zipIdx_append]
    rw [hnew, List.filter_append, List.filter_append, filter_comesOut_singleton]
    -- what is gone and what comes now change places, and nothing else moves
    refine .trans ?_ (hwhole.append_right _)
    rw [List.append_assoc, List.append_assoc, List.append_assoc, List.append_assoc]
    refine (List.Perm.append_left gone ?_).append_left out
    rw [← List.append_assoc]
    exact List.perm_append_comm
  · refine List.pairwise_append.mpr ⟨inTurn_append h.inTurn hgone, ?_, fun a ha e he _ => ?_⟩
    · exact (List.pairwise_singleton _ _).sublist List.filter_sublist
    · obtain rfl := List.mem_singleton.mp (List.mem_filter.mp he).1
      exact hearlier a ha

/-- Whatever has been taken in is accounted for. -/
theorem accounts_feedAll (h : Yard.empty.feedAll ts = .ok y) :
    ∃ out waiting, Accounts ts y out waiting := by
  refine Yard.feedAll_induction (P := fun ts y => ∃ out waiting, Accounts ts y out waiting) ?_ ?_ h
  · exact ⟨[], [], accounts_nil⟩
  · rintro ts x t z ⟨out, waiting, haccounts⟩ hfeed
    exact haccounts.feed hfeed

/-- The places in the order in which their tokens come out. -/
theorem exists_order (h : convert ts = .ok us) : ∃ order : List (Token × Nat),
    order.map Prod.fst = us ∧ order.Perm (ts.zipIdx.filter fun e => e.1.comesOut) ∧
      order.Pairwise InTurn := by
  obtain ⟨y, hfed, hclosed, rfl⟩ := convert_eq_ok h
  obtain ⟨out, waiting, haccounts⟩ := accounts_feedAll hfed
  have hclosed' : ∀ e ∈ waiting, e.1.isOpen = false := by
    rw [← haccounts.stack] at hclosed
    exact List.forall_mem_map.mp hclosed
  refine ⟨out ++ waiting, ?_, ?_, ?_⟩
  · rw [List.map_append, haccounts.output, haccounts.stack]
  · have hwhole := haccounts.whole
    rwa [filter_comesOut haccounts.waits hclosed'] at hwhole
  · exact inTurn_append haccounts.inTurn fun e he => isOperand_of_mayWait (haccounts.waits e he)

/-- Tokens with their places, as far as they come out, are the places of the tokens that do. -/
def placesOf {order : List (Token × Nat)}
    (hmem : ∀ e, e ∈ order ↔ ts[e.2]? = some e.1 ∧ e.1.comesOut = true) :
    {e // e ∈ order} ≃ {i : Fin ts.length // ts[i].comesOut = true} where
  toFun e :=
    have hget := List.getElem?_eq_some_iff.mp ((hmem e.1).mp e.2).1
    ⟨⟨e.1.2, hget.1⟩, by
      have hcomes := ((hmem e.1).mp e.2).2
      rwa [← hget.2] at hcomes⟩
  invFun i := ⟨(ts[i.1], i.1), (hmem _).mpr ⟨List.getElem?_eq_getElem i.1.2, i.2⟩⟩
  left_inv e := by
    obtain ⟨_, hget⟩ := List.getElem?_eq_some_iff.mp ((hmem e.1).mp e.2).1
    exact Subtype.ext (Prod.ext hget rfl)
  right_inv _ := rfl

/-- The bijection that an order of the places is. -/
theorem exists_place {order : List (Token × Nat)}
    (hperm : order.Perm (ts.zipIdx.filter fun e => e.1.comesOut))
    (hinTurn : order.Pairwise InTurn) :
    ∃ place : {i : Fin ts.length // ts[i].comesOut = true} ≃ Fin (order.map Prod.fst).length,
      (∀ i, (order.map Prod.fst)[place i] = ts[i.1]) ∧
      ∀ i j, ts[i.1].isOperand = true → i.1 < j.1 → place i < place j := by
  have hmem : ∀ e, e ∈ order ↔ ts[e.2]? = some e.1 ∧ e.1.comesOut = true := by
    intro e
    rw [hperm.mem_iff, List.mem_filter, ← List.mk_mem_zipIdx_iff_getElem?]
  have hnodup : order.Nodup :=
    hperm.nodup_iff.mpr ((List.nodup_zipIdx_map_snd ts).of_map.filter _)
  let place := ((hnodup.getEquiv order).trans (placesOf hmem)).symm.trans
    (finCongr (List.length_map Prod.fst).symm)
  have hplace : ∀ i, order[(place i).1]? = some (ts[i.1], i.1.1) := by
    intro i
    have hsymm := (hnodup.getEquiv order).apply_symm_apply ((placesOf hmem).symm i)
    have hvalue : order.get ((hnodup.getEquiv order).symm ((placesOf hmem).symm i)) =
        (ts[i.1], i.1.1) := congrArg Subtype.val hsymm
    rw [← hvalue]
    exact List.getElem?_eq_getElem _
  refine ⟨place, fun i => ?_, fun i j hoperand hlt => ?_⟩
  · have hget := List.getElem?_map (f := Prod.fst) (l := order) (i := (place i).1)
    rw [hplace i] at hget
    exact (List.getElem?_eq_some_iff.mp hget).2
  · obtain ⟨hi, hgeti⟩ := List.getElem?_eq_some_iff.mp (hplace i)
    obtain ⟨hj, hgetj⟩ := List.getElem?_eq_some_iff.mp (hplace j)
    have hne : (place i).1 ≠ (place j).1 := by
      intro heq
      exact hlt.ne (congrArg Subtype.val (place.injective (Fin.ext heq)))
    -- if the later token came out first, it would have overtaken an operand
    refine Nat.lt_of_le_of_ne (Nat.le_of_not_lt fun hover => ?_) hne
    have hturn := List.pairwise_iff_getElem.mp hinTurn _ _ hj hi hover
    rw [hgeti, hgetj] at hturn
    exact Nat.lt_asymm hlt (hturn hoperand)

theorem map_filter_zipIdx (p : Token → Bool) (ts : List Token) :
    (ts.zipIdx.filter fun e => p e.1).map Prod.fst = ts.filter p := by
  have hfilter := List.filter_map (f := Prod.fst) (p := p) (l := ts.zipIdx)
  rw [List.zipIdx_map_fst] at hfilter
  exact hfilter.symm

/-- Operands that come out in turn come out as they went in. -/
theorem filter_isOperand_eq {order : List (Token × Nat)}
    (hperm : order.Perm (ts.zipIdx.filter fun e => e.1.comesOut))
    (hinTurn : order.Pairwise InTurn) :
    (order.map Prod.fst).filter Token.isOperand = ts.filter Token.isOperand := by
  have hascending : ts.zipIdx.Pairwise fun a b => a.2 < b.2 := by
    refine List.pairwise_map.mp (?_ : (ts.zipIdx.map Prod.snd).Pairwise (· < ·))
    rw [List.zipIdx_map_snd]
    exact List.pairwise_lt_range' 1
  have hoperands : (order.filter fun e => e.1.isOperand).Pairwise fun a b => a.2 < b.2 :=
    (hinTurn.filter _).imp_of_mem fun _ hb h => h (List.mem_filter.mp hb).2
  have hsame : (order.filter fun e => e.1.isOperand).Perm
      (ts.zipIdx.filter fun e => e.1.isOperand) := by
    refine (hperm.filter _).trans (.of_eq ?_)
    rw [List.filter_filter]
    refine List.filter_congr fun e _ => ?_
    rw [Token.comesOut_eq]
    cases e.1.isOperand <;> rfl
  have heq : (order.filter fun e => e.1.isOperand) = ts.zipIdx.filter fun e => e.1.isOperand := by
    refine List.Perm.eq_of_pairwise ?_ hoperands (hascending.filter _) hsame
    intro a b _ _ hab hba
    exact absurd hab (Nat.lt_asymm hba)
  rw [← map_filter_zipIdx Token.isOperand ts, ← heq]
  exact List.filter_map

/-- All that comes in comes out, but for parentheses and tokens without a role. -/
theorem convert_perm (h : convert ts = .ok us) : us.Perm (ts.filter Token.comesOut) := by
  obtain ⟨order, rfl, hperm, -⟩ := exists_order h
  rw [← map_filter_zipIdx]
  exact hperm.map _

/-- Operands come out as they come in. -/
theorem convert_operands (h : convert ts = .ok us) :
    us.filter Token.isOperand = ts.filter Token.isOperand := by
  obtain ⟨order, rfl, hperm, hinTurn⟩ := exists_order h
  exact filter_isOperand_eq hperm hinTurn

/-- Reordering is a bijection between the places of the tokens that come out and the places at which
    they do. -/
theorem convert_places (h : convert ts = .ok us) :
    (∃ place : {i : Fin ts.length // ts[i].comesOut = true} ≃ Fin us.length,
      (∀ i, us[place i] = ts[i.1]) ∧
      ∀ i j, ts[i.1].isOperand = true → i.1 < j.1 → place i < place j) ∧
    us.filter Token.isOperand = ts.filter Token.isOperand ∧
    (∀ u ∈ us, u.comesOut = true) ∧
    ∃ written, written + ts.countP (fun t => !t.comesOut) = ts.length ∧
      (reorder ts).log.map Event.message =
        [s!"converted {ts.length} tokens into {written}"] := by
  obtain ⟨order, hus, hperm, hinTurn⟩ := exists_order h
  have hperm' : us.Perm (ts.filter Token.comesOut) := by
    rw [← hus, ← map_filter_zipIdx]
    exact hperm.map _
  refine ⟨?_, ?_, ?_, us.length, ?_, ?_⟩
  · subst hus
    exact exists_place hperm hinTurn
  · rw [← hus]
    exact filter_isOperand_eq hperm hinTurn
  · exact fun u hu => (List.mem_filter.mp (hperm'.subset hu)).2
  · rw [hperm'.length_eq, ← List.countP_eq_length_filter,
      List.length_eq_countP_add_countP Token.comesOut]
    simp
  · rw [reorder_eq_ok h]
    rfl

/-- Two tokens that are alike keep their own places. -/
theorem convert_places_alike :
    let ts := [Token.number "2", .operator "*", .leftParen "(", .number "2", .operator "+",
      .plain ";", .identifier "x", .rightParen ")"]
    let us := [Token.number "2", .number "2", .identifier "x", .operator "+", .operator "*"]
    convert ts = .ok us ∧
      (∃ place : {i : Fin ts.length // ts[i].comesOut = true} ≃ Fin us.length,
        (∀ i, us[place i] = ts[i.1]) ∧
        ∀ i j, ts[i.1].isOperand = true → i.1 < j.1 → place i < place j) ∧
      us.filter Token.isOperand = ts.filter Token.isOperand ∧
      (∀ u ∈ us, u.comesOut = true) ∧
      ∃ written, written + ts.countP (fun t => !t.comesOut) = ts.length ∧
        (reorder ts).log.map Event.message =
          [s!"converted {ts.length} tokens into {written}"] := by
  intro ts us
  have hconvert : convert ts = .ok us := by decide
  exact ⟨hconvert, convert_places hconvert⟩

end ShuntingYard
