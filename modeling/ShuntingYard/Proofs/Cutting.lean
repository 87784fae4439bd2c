import Mathlib.Data.List.Chain
import ShuntingYard.Lexeme

/-! The one way to cut up a text. In a tidy cut the gaps and the tail are made of ignored characters,
    every lexeme is a run of one kind, and two lexemes of a kind that runs have a gap between them.

        tidy      2x ^10     [2] [x] ␣[^] [10]
        untidy    2x ^10     [2] [x] ␣[^] [1] [0]

    Each text has a tidy cut, the one that the scan finds (`Scan.tidy_ofChars`), and no other
    (`Scan.ofChars_chars`). -/

namespace ShuntingYard

variable {c d : Char} {cs more : List Char} {k : CharClass}

/-- Characters that belong to no lexeme. -/
def Ignored (cs : List Char) : Prop := ∀ c ∈ cs, CharClass.of? c = none

instance (cs : List Char) : Decidable (Ignored cs) :=
  decidable_of_iff (cs.all fun c => CharClass.of? c = none) (by simp [Ignored])

/-- Characters of one kind, and only one character if the kind does not run. -/
structure Run (k : CharClass) (cs : List Char) : Prop where
  nonempty : cs ≠ []
  kind : ∀ c ∈ cs, CharClass.of? c = some k
  single : k.runs = false → cs.length = 1

instance (k : CharClass) (cs : List Char) : Decidable (Run k cs) :=
  decidable_of_iff (cs ≠ [] ∧ (cs.all fun c => CharClass.of? c = some k) = true ∧
    (k.runs = false → cs.length = 1))
    ⟨fun ⟨hne, hall, hsingle⟩ => ⟨hne, by simpa using hall, hsingle⟩,
      fun ⟨hne, hkind, hsingle⟩ => ⟨hne, by simpa using hkind, hsingle⟩⟩

theorem Run.tail (h : Run k (c :: d :: more)) : Run k (d :: more) ∧ k.runs = true := by
  have hruns : k.runs = true := by
    cases hk : k.runs with
    | true => rfl
    | false => cases h.single hk
  refine ⟨⟨List.cons_ne_nil _ _, fun x hx => h.kind x (List.mem_cons_of_mem _ hx), ?_⟩, hruns⟩
  simp [hruns]

theorem run_singleton (hc : CharClass.of? c = some k) : Run k [c] :=
  ⟨List.cons_ne_nil _ _, by simpa using hc, fun _ => rfl⟩

theorem Run.cons (h : Run k cs) (hc : CharClass.of? c = some k) (hk : k.runs = true) :
    Run k (c :: cs) :=
  ⟨List.cons_ne_nil _ _, List.forall_mem_cons.mpr ⟨hc, h.kind⟩, by simp [hk]⟩

/-- A character joins those of its own kind, if the kind runs. -/
theorem joins_iff (hc : CharClass.of? c = some k) :
    joins c d = true ↔ CharClass.of? d = some k ∧ k.runs = true := by
  rw [joins, hc, Bool.and_eq_true, beq_iff_eq, Option.any_some]
  exact and_congr_left fun _ => eq_comm

/-- The first characters of two runs join when the runs are of one kind, and the kind runs. -/
theorem Run.joins_first_iff {k' : CharClass} {more' : List Char} (h : Run k (c :: more))
    (h' : Run k' (d :: more')) : joins c d = true ↔ k' = k ∧ k.runs = true := by
  rw [joins_iff (h.kind c List.mem_cons_self), h'.kind d List.mem_cons_self, Option.some.injEq]

namespace Lexeme

theorem toList_text (l : Lexeme) : l.text.toList = l.run := String.toList_ofList

/-- A run with nothing but ignored characters in front. -/
structure Tidy (l : Lexeme) : Prop where
  gap : Ignored l.gap
  run : ∃ k, Run k l.run

/-- Two lexemes that would be one without the gap between them have a gap. -/
def Apart (l m : Lexeme) : Prop := joins l.first m.first = true → m.gap ≠ []

end Lexeme

namespace Scan

/-- A cut into lexemes that are runs, as long as possible. -/
structure Tidy (s : Scan) : Prop where
  lexemes : ∀ l ∈ s.lexemes, l.Tidy
  apart : s.lexemes.IsChain Lexeme.Apart
  tail : Ignored s.tail

variable {s : Scan} {l : Lexeme}

/-! ### The scan finds the tidy cut -/

theorem cons_ignored (hc : CharClass.of? c = none) (s : Scan) : s.cons c = s.skip c := by
  simp [cons, hc]

theorem cons_kind (hc : CharClass.of? c = some k) (s : Scan) : s.cons c = s.take c := by
  simp [cons, hc]

theorem ofChars_append (cs ds : List Char) : ofChars (cs ++ ds) = cs.foldr cons (ofChars ds) :=
  List.foldr_append

theorem ofChars_ignored (h : Ignored cs) : ofChars cs = ⟨[], cs⟩ := by
  induction cs with
  | nil => rfl
  | cons c cs ih =>
    obtain ⟨hc, hcs⟩ := List.forall_mem_cons.mp h
    rw [ofChars] at ih
    rw [ofChars, List.foldr_cons, ih hcs, cons_ignored hc]
    rfl

/-- Ignored characters widen the gap in front of a lexeme. -/
theorem foldr_gap {gap : List Char} (h : Ignored gap) (first : Char) (more : List Char)
    (ls : List Lexeme) (tail : List Char) :
    gap.foldr cons ⟨⟨[], first, more⟩ :: ls, tail⟩ = ⟨⟨gap, first, more⟩ :: ls, tail⟩ := by
  induction gap with
  | nil => rfl
  | cons c gap ih =>
    obtain ⟨hc, hgap⟩ := List.forall_mem_cons.mp h
    rw [List.foldr_cons, ih hgap, cons_ignored hc]
    rfl

/-- A run in front of a cut becomes a lexeme, unless it would go on in the first lexeme there. -/
theorem foldr_run (hs : ∀ m ∈ s.lexemes.head?, CharClass.of? m.first = some k → k.runs = true →
    m.gap ≠ []) : ∀ {first : Char} {more : List Char}, Run k (first :: more) →
    (first :: more).foldr cons s = ⟨⟨[], first, more⟩ :: s.lexemes, s.tail⟩
  | first, [], h => by
    have hfirst := h.kind first List.mem_cons_self
    rw [List.foldr_cons, List.foldr_nil, cons_kind hfirst]
    obtain ⟨lexemes, tail⟩ := s
    cases lexemes with
    | nil => rfl
    | cons m ls =>
      obtain ⟨_ | ⟨g, gap⟩, d, more⟩ := m
      · have hjoins : joins first d = false := by
          refine Bool.eq_false_iff.mpr fun hjoins => ?_
          obtain ⟨hd, hk⟩ := (joins_iff hfirst).mp hjoins
          exact hs _ rfl hd hk rfl
        simp [take, hjoins]
      · rfl
  | first, d :: more, h => by
    obtain ⟨htail, hk⟩ := h.tail
    have hjoins : joins first d = true :=
      (joins_iff (h.kind first List.mem_cons_self)).mpr ⟨h.kind d (by simp), hk⟩
    rw [List.foldr_cons, foldr_run hs htail, cons_kind (h.kind first List.mem_cons_self)]
    simp [take, hjoins]

theorem foldr_extent (hl : l.Tidy) (hs : ∀ m ∈ s.lexemes.head?, l.Apart m) :
    l.extent.foldr cons s = ⟨l :: s.lexemes, s.tail⟩ := by
  obtain ⟨hgap, k, hrun⟩ := hl
  have hfirst := hrun.kind l.first List.mem_cons_self
  have hnext : ∀ m ∈ s.lexemes.head?, CharClass.of? m.first = some k → k.runs = true →
      m.gap ≠ [] := fun m hm hfirst' hk => hs m hm ((joins_iff hfirst).mpr ⟨hfirst', hk⟩)
  have hfold : l.run.foldr cons s = ⟨⟨[], l.first, l.more⟩ :: s.lexemes, s.tail⟩ :=
    foldr_run hnext hrun
  rw [Lexeme.extent, List.foldr_append, hfold, foldr_gap hgap]

/-- A tidy cut is found again from its text. -/
theorem ofChars_chars (h : s.Tidy) : ofChars s.chars = s := by
  obtain ⟨lexemes, tail⟩ := s
  induction lexemes with
  | nil => exact ofChars_ignored h.tail
  | cons l ls ih =>
    obtain ⟨hl, hls⟩ := List.forall_mem_cons.mp h.lexemes
    obtain ⟨hapart, hchain⟩ := List.isChain_cons.mp h.apart
    have hchars : chars ⟨l :: ls, tail⟩ = l.extent ++ chars ⟨ls, tail⟩ := by
      simp [chars]
    rw [hchars, ofChars_append, ih ⟨hls, hchain, h.tail⟩, foldr_extent hl hapart]

/-! ### The cut that the scan finds is tidy -/

theorem Tidy.skip (h : s.Tidy) (hc : CharClass.of? c = none) : (s.skip c).Tidy := by
  obtain ⟨lexemes, tail⟩ := s
  obtain ⟨hlexemes, hapart, htail⟩ := h
  cases lexemes with
  | nil => exact ⟨hlexemes, hapart, List.forall_mem_cons.mpr ⟨hc, htail⟩⟩
  | cons l ls =>
    obtain ⟨hl, hls⟩ := List.forall_mem_cons.mp hlexemes
    obtain ⟨hnext, hchain⟩ := List.isChain_cons.mp hapart
    have hwider : Lexeme.Tidy { l with gap := c :: l.gap } :=
      ⟨List.forall_mem_cons.mpr ⟨hc, hl.gap⟩, hl.run⟩
    exact ⟨List.forall_mem_cons.mpr ⟨hwider, hls⟩, List.isChain_cons.mpr ⟨hnext, hchain⟩, htail⟩

/-- A character that stands alone is tidy, unless the lexeme right after it could have taken it in. -/
theorem Tidy.start (h : s.Tidy) (hc : CharClass.of? c = some k)
    (hs : ∀ m ∈ s.lexemes.head?, joins c m.first = true → m.gap ≠ []) :
    Tidy ⟨⟨[], c, []⟩ :: s.lexemes, s.tail⟩ :=
  ⟨List.forall_mem_cons.mpr ⟨⟨by simp [Ignored], k, run_singleton hc⟩, h.lexemes⟩,
    List.isChain_cons.mpr ⟨hs, h.apart⟩, h.tail⟩

theorem Tidy.take (h : s.Tidy) (hc : CharClass.of? c = some k) : (s.take c).Tidy := by
  obtain ⟨lexemes, tail⟩ := s
  match lexemes, h with
  | [], h => exact h.start hc (by simp)
  | ⟨g :: gap, d, more⟩ :: ls, h =>
    refine h.start hc fun m hm _ => ?_
    obtain rfl : (⟨g :: gap, d, more⟩ : Lexeme) = m := by simpa using hm
    exact List.cons_ne_nil _ _
  | ⟨[], d, more⟩ :: ls, h =>
    cases hjoins : joins c d with
    | false =>
      have hstart := h.start hc fun m hm hm' => by
        obtain rfl : (⟨[], d, more⟩ : Lexeme) = m := by simpa using hm
        rw [hjoins] at hm'
        cases hm'
      simpa [Scan.take, hjoins] using hstart
    | true =>
      obtain ⟨⟨hgap, k', hrun⟩, hls⟩ := List.forall_mem_cons.mp h.lexemes
      obtain ⟨hd, hk⟩ := (joins_iff hc).mp hjoins
      obtain rfl : k = k' := by
        have hd' := hrun.kind d List.mem_cons_self
        rw [hd] at hd'
        exact Option.some.inj hd'
      obtain ⟨hapart, hchain⟩ := List.isChain_cons.mp h.apart
      have hlonger : Lexeme.Tidy ⟨[], c, d :: more⟩ := ⟨hgap, k, hrun.cons hc hk⟩
      have hapart' : ∀ m ∈ ls.head?, Lexeme.Apart ⟨[], c, d :: more⟩ m := fun m hm hm' =>
        hapart m hm ((joins_iff hd).mpr ((joins_iff hc).mp hm'))
      have htidy : Tidy ⟨⟨[], c, d :: more⟩ :: ls, tail⟩ :=
        ⟨List.forall_mem_cons.mpr ⟨hlonger, hls⟩, List.isChain_cons.mpr ⟨hapart', hchain⟩, h.tail⟩
      simpa [Scan.take, hjoins] using htidy

/-- Every text is cut up tidily. -/
theorem tidy_ofChars (cs : List Char) : (ofChars cs).Tidy := by
  induction cs with
  | nil => exact ⟨by simp [ofChars], .nil, by simp [ofChars, Ignored]⟩
  | cons c cs ih =>
    show (cons c (ofChars cs)).Tidy
    cases hc : CharClass.of? c with
    | none => rw [cons_ignored hc]; exact ih.skip hc
    | some k => rw [cons_kind hc]; exact ih.take hc

/-- The lexemes of a text are runs. -/
theorem exists_run (hl : l ∈ (ofChars cs).lexemes) : ∃ k, Run k l.text.toList := by
  rw [l.toList_text]
  exact ((tidy_ofChars cs).lexemes l hl).run

end Scan

end ShuntingYard
