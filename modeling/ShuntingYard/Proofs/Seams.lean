import ShuntingYard.Proofs.Rereading

/-! Texts put one after the other. The tokens of the whole are those of the parts, unless a run goes
    on from one part into the next, when two runs become one:

        "2 si"  "+n(x)"        2  si  +  n  (  x  )
        "2 si"  " n(x)"        2  si  n  (  x  )
        "2 si"  "n(x)"         2  sin  (  x  )            one token less, and one of another kind

    So ignored characters may be put in, taken out and changed anywhere but inside a run, as long as
    some are left between two runs of one kind that have nothing else between them. -/

namespace ShuntingYard

variable {c d : Char} {k : CharClass}

/-- The last character of a text and the first of the next are both digits, both small letters or
    both capitals. -/
def RunsOn (cs ds : List Char) : Prop :=
  ∃ k : CharClass, k.runs = true ∧
    (∃ c ∈ cs.getLast?, CharClass.of? c = some k) ∧ ∃ d ∈ ds.head?, CharClass.of? d = some k

namespace Scan

variable {s u : Scan} {l m : Lexeme} {ls ms : List Lexeme}

/-! ### The ends of a cut -/

theorem getLast?_chars (hlexemes : s.lexemes = ls ++ [l]) (htail : s.tail = []) :
    s.chars.getLast? = l.run.getLast? := by
  have hchars : s.chars = (ls.flatMap Lexeme.extent ++ l.gap) ++ l.run := by
    simp [chars, hlexemes, htail, Lexeme.extent]
  have hrun : l.run ≠ [] := List.cons_ne_nil _ _
  rw [hchars, List.getLast?_append_of_ne_nil _ hrun]

theorem head?_chars (hlexemes : s.lexemes = m :: ms) (hgap : m.gap = []) :
    s.chars.head? = some m.first := by
  simp [chars, hlexemes, Lexeme.extent, hgap, Lexeme.run]

/-- The last character of a text ends a lexeme, if it is not ignored. -/
theorem Tidy.exists_last (h : s.Tidy) (hc : c ∈ s.chars.getLast?) (hk : CharClass.of? c = some k) :
    s.tail = [] ∧ ∃ ls l, s.lexemes = ls ++ [l] ∧ Run k l.run := by
  have htail : s.tail = [] := by
    by_contra hne
    rw [chars, List.getLast?_append_of_ne_nil _ hne] at hc
    rw [h.tail c (List.mem_of_getLast? hc)] at hk
    cases hk
  refine ⟨htail, ?_⟩
  obtain hnil | ⟨ls, l, hlexemes⟩ := List.eq_nil_or_concat s.lexemes
  · simp [chars, hnil, htail] at hc
  · rw [List.concat_eq_append] at hlexemes
    obtain ⟨k', hrun⟩ := (h.lexemes l (by simp [hlexemes])).run
    rw [getLast?_chars hlexemes htail] at hc
    have hk' := hrun.kind c (List.mem_of_getLast? hc)
    rw [hk, Option.some.injEq] at hk'
    exact ⟨ls, l, hlexemes, hk' ▸ hrun⟩

/-- The first character of a text starts a lexeme, if it is not ignored. -/
theorem Tidy.exists_first (h : s.Tidy) (hd : d ∈ s.chars.head?) (hk : CharClass.of? d = some k) :
    ∃ m ms, s.lexemes = m :: ms ∧ m.gap = [] ∧ Run k m.run := by
  cases hlexemes : s.lexemes with
  | nil =>
    have hchars : s.chars = s.tail := by simp [chars, hlexemes]
    rw [hchars] at hd
    rw [h.tail d (List.mem_of_head? hd)] at hk
    cases hk
  | cons m ms =>
    obtain ⟨hm, -⟩ := List.forall_mem_cons.mp (hlexemes ▸ h.lexemes)
    have hgap : m.gap = [] := by
      cases hgap : m.gap with
      | nil => rfl
      | cons g gap =>
        have hfirst : s.chars.head? = some g := by
          simp [chars, hlexemes, Lexeme.extent, hgap]
        rw [hfirst, Option.mem_some_iff] at hd
        rw [← hd, hm.gap g (by simp [hgap])] at hk
        cases hk
    obtain ⟨k', hrun⟩ := hm.run
    rw [head?_chars hlexemes hgap, Option.mem_some_iff] at hd
    have hk' := hrun.kind m.first List.mem_cons_self
    rw [hd, hk, Option.some.injEq] at hk'
    exact ⟨m, ms, rfl, hgap, hk' ▸ hrun⟩

/-! ### Two cuts one after the other -/

/-- The cut of a text and one of the next. The tail of the first belongs to the gap that follows. -/
def append (s u : Scan) : Scan :=
  match u.lexemes with
  | [] => ⟨s.lexemes, s.tail ++ u.tail⟩
  | m :: ms => ⟨s.lexemes ++ ⟨s.tail ++ m.gap, m.first, m.more⟩ :: ms, u.tail⟩

theorem chars_append (s u : Scan) : (s.append u).chars = s.chars ++ u.chars := by
  obtain ⟨_ | ⟨m, ms⟩, tail⟩ := u <;> simp [append, chars, Lexeme.extent, Lexeme.run]

theorem map_text_append (s u : Scan) : (s.append u).lexemes.map Lexeme.text =
    s.lexemes.map Lexeme.text ++ u.lexemes.map Lexeme.text := by
  obtain ⟨_ | ⟨m, ms⟩, tail⟩ := u
  · simp [append]
  · rw [append, List.map_append]
    rfl

/-- Where no run goes on from one text into the next, the cuts are those of the whole. -/
theorem Tidy.append (hs : s.Tidy) (hu : u.Tidy) (h : ¬ RunsOn s.chars u.chars) :
    (s.append u).Tidy := by
  obtain ⟨lexemes, tail⟩ := u
  cases lexemes with
  | nil => exact ⟨hs.lexemes, hs.apart, List.forall_mem_append.mpr ⟨hs.tail, hu.tail⟩⟩
  | cons m ms =>
    obtain ⟨hm, hms⟩ := List.forall_mem_cons.mp hu.lexemes
    obtain ⟨hnext, hchain⟩ := List.isChain_cons.mp hu.apart
    have hwider : Lexeme.Tidy ⟨s.tail ++ m.gap, m.first, m.more⟩ :=
      ⟨List.forall_mem_append.mpr ⟨hs.tail, hm.gap⟩, hm.run⟩
    refine ⟨List.forall_mem_append.mpr ⟨hs.lexemes, List.forall_mem_cons.mpr ⟨hwider, hms⟩⟩, ?_,
      hu.tail⟩
    refine List.isChain_append.mpr ⟨hs.apart, List.isChain_cons.mpr ⟨hnext, hchain⟩, ?_⟩
    intro l hl m' hm' hjoins hnone
    obtain rfl : (⟨s.tail ++ m.gap, m.first, m.more⟩ : Lexeme) = m' := by simpa using hm'
    obtain ⟨htail, hgap⟩ := List.append_eq_nil_iff.mp hnone
    obtain ⟨ls, hlexemes⟩ := List.getLast?_eq_some_iff.mp hl
    -- the last lexeme of the one and the first of the other are of one kind, and next to each other
    obtain ⟨k, hrun⟩ := (hs.lexemes l (by simp [hlexemes])).run
    obtain ⟨k', hrun'⟩ := hm.run
    obtain ⟨rfl, hruns⟩ := (hrun.joins_first_iff hrun').mp hjoins
    obtain ⟨c, hc⟩ := Option.isSome_iff_exists.mp
      (List.getLast?_isSome.mpr (List.cons_ne_nil l.first l.more))
    refine h ⟨k', hruns, ⟨c, ?_, hrun.kind c (List.mem_of_getLast? hc)⟩, m.first, ?_,
      hrun'.kind m.first List.mem_cons_self⟩
    · rw [getLast?_chars hlexemes htail]
      exact hc
    · exact head?_chars rfl hgap

/-- Where a run goes on, the last lexeme of the one text and the first of the next become one. -/
theorem Tidy.merge {tail : List Char} (hs : Tidy ⟨ls ++ [l], []⟩) (hu : Tidy ⟨m :: ms, tail⟩)
    (hk : k.runs = true) (hl : Run k l.run) (hm : Run k m.run) :
    Tidy ⟨ls ++ ⟨l.gap, l.first, l.more ++ m.run⟩ :: ms, tail⟩ := by
  obtain ⟨hls, hlast⟩ := List.forall_mem_append.mp hs.lexemes
  obtain ⟨-, hms⟩ := List.forall_mem_cons.mp hu.lexemes
  obtain ⟨hchain, -, hprevious⟩ := List.isChain_append.mp hs.apart
  obtain ⟨hnext, hchain'⟩ := List.isChain_cons.mp hu.apart
  have hlonger : Lexeme.Tidy ⟨l.gap, l.first, l.more ++ m.run⟩ := by
    refine ⟨(hlast l (by simp)).gap, k, List.cons_ne_nil _ _, ?_, by simp [hk]⟩
    have hrun : l.run ++ m.run = l.first :: (l.more ++ m.run) := rfl
    rw [Lexeme.run, ← hrun]
    exact List.forall_mem_append.mpr ⟨hl.kind, hm.kind⟩
  refine ⟨List.forall_mem_append.mpr ⟨hls, List.forall_mem_cons.mpr ⟨hlonger, hms⟩⟩, ?_, hu.tail⟩
  refine List.isChain_append.mpr ⟨hchain, List.isChain_cons.mpr ⟨fun m' hm' hjoins => ?_, hchain'⟩,
    fun l' hl' m' hm' hjoins => ?_⟩
  · have hlfirst := (joins_iff (hl.kind l.first List.mem_cons_self)).mp hjoins
    exact hnext m' hm' ((joins_iff (hm.kind m.first List.mem_cons_self)).mpr hlfirst)
  · obtain rfl : (⟨l.gap, l.first, l.more ++ m.run⟩ : Lexeme) = m' := by simpa using hm'
    exact hprevious l' hl' l rfl hjoins

theorem Tidy.length_lexemes (hs : s.Tidy) (hu : u.Tidy) (h : RunsOn s.chars u.chars) :
    (ofChars (s.chars ++ u.chars)).lexemes.length + 1 = s.lexemes.length + u.lexemes.length := by
  obtain ⟨k, hk, ⟨c, hc, hck⟩, d, hd, hdk⟩ := h
  obtain ⟨htail, ls, l, hlexemes, hl⟩ := hs.exists_last hc hck
  obtain ⟨m, ms, hlexemes', hgap, hm⟩ := hu.exists_first hd hdk
  obtain ⟨_, _⟩ := s
  obtain ⟨_, tail⟩ := u
  obtain rfl : _ = [] := htail
  obtain rfl : _ = ls ++ [l] := hlexemes
  obtain rfl : _ = m :: ms := hlexemes'
  have hchars : chars ⟨ls ++ ⟨l.gap, l.first, l.more ++ m.run⟩ :: ms, tail⟩ =
      chars ⟨ls ++ [l], []⟩ ++ chars ⟨m :: ms, tail⟩ := by
    simp [chars, Lexeme.extent, Lexeme.run, hgap]
  rw [← hchars, ofChars_chars (hs.merge hu hk hl hm)]
  simp only [List.length_append, List.length_cons, List.length_nil]
  omega

end Scan

/-! ### Pieces of a text -/

variable {text a b before gap gap' after : String}

/-- The texts of the lexemes of a text. -/
def pieces (text : String) : List String := (Scan.ofChars text.toList).lexemes.map Lexeme.text

theorem pieces_append (h : ¬ RunsOn a.toList b.toList) : pieces (a ++ b) = pieces a ++ pieces b := by
  have htidy : ((Scan.ofChars a.toList).append (Scan.ofChars b.toList)).Tidy :=
    (Scan.tidy_ofChars a.toList).append (Scan.tidy_ofChars b.toList) (by simpa using h)
  have hcut := Scan.ofChars_chars htidy
  rw [Scan.chars_append, Scan.chars_ofChars, Scan.chars_ofChars] at hcut
  rw [pieces, String.toList_append, hcut, Scan.map_text_append]
  rfl

theorem length_pieces_append (h : RunsOn a.toList b.toList) :
    (pieces (a ++ b)).length + 1 = (pieces a).length + (pieces b).length := by
  have hlength := (Scan.tidy_ofChars a.toList).length_lexemes (Scan.tidy_ofChars b.toList)
    (by simpa using h)
  simpa [pieces] using hlength

/-- Ignored characters between two texts do not matter, if there are some where a run would go on. -/
theorem pieces_gap (h : Ignored gap.toList) (hne : RunsOn before.toList after.toList → gap ≠ "") :
    pieces (before ++ gap ++ after) = pieces before ++ pieces after := by
  by_cases hgap : gap = ""
  · subst hgap
    rw [String.append_empty, pieces_append fun hruns => hne hruns rfl]
  · have hnone : pieces gap = [] := by
      rw [pieces, Scan.ofChars_ignored h]
      rfl
    have hstart : ¬ RunsOn before.toList gap.toList := by
      rintro ⟨k, -, -, d, hd, hk⟩
      rw [h d (List.mem_of_head? hd)] at hk
      cases hk
    have hend : ¬ RunsOn (before ++ gap).toList after.toList := by
      rintro ⟨k, -, ⟨c, hc, hk⟩, -⟩
      rw [String.toList_append, List.getLast?_append_of_ne_nil _ (by simpa using hgap)] at hc
      rw [h c (List.mem_of_getLast? hc)] at hk
      cases hk
    rw [pieces_append hend, pieces_append hstart, hnone, List.append_nil]

/-! ### Tokens -/

variable {settings : Settings} {ts us : List Token}

/-- The tokens of a text are what its pieces are recognised as. -/
theorem outcome_tokenize_pieces (hne : text ≠ "") (settings : Settings) :
    (tokenize settings (.text text)).outcome =
      (pieces text).mapM (classify settings.functions) := by
  rw [outcome_tokenize, Source.read_text hne, pieces, List.mapM_map]
  rfl

theorem exists_tokens_pieces (hne : text ≠ "") (table : FunctionTable)
    (separator : Option String) :
    ∃ ts, (tokenize ⟨some table, separator⟩ (.text text)).outcome = .ok ts ∧
      ts.length = (pieces text).length := by
  obtain ⟨ts, htokens, -, htexts⟩ := tokenize_canonical hne table separator
  refine ⟨ts, htokens, ?_⟩
  rw [pieces, htexts, List.length_map]

/-- A text that has the pieces of two others has the tokens of both. -/
theorem outcome_tokenize_append (ha : a ≠ "") (hb : b ≠ "") (hne : text ≠ "")
    (hpieces : pieces text = pieces a ++ pieces b)
    (hts : (tokenize settings (.text a)).outcome = .ok ts)
    (hus : (tokenize settings (.text b)).outcome = .ok us) :
    (tokenize settings (.text text)).outcome = .ok (ts ++ us) := by
  rw [outcome_tokenize_pieces ha] at hts
  rw [outcome_tokenize_pieces hb] at hus
  rw [outcome_tokenize_pieces hne, hpieces, List.mapM_append, hts, hus]
  rfl

/-- Texts that have the same pieces have the same tokens. -/
theorem outcome_tokenize_congr (ha : a ≠ "") (hb : b ≠ "") (hpieces : pieces a = pieces b)
    (settings : Settings) :
    (tokenize settings (.text a)).outcome = (tokenize settings (.text b)).outcome := by
  rw [outcome_tokenize_pieces ha, outcome_tokenize_pieces hb, hpieces]

/-- Two texts one after the other have the tokens of both, except exactly where a run goes on from one
    into the other. Then there is one token less. Ignored characters come without effect wherever no
    run goes on, or others are left there. -/
theorem tokenize_append (ha : a ≠ "") (hb : b ≠ "") (table : FunctionTable)
    (separator : Option String) :
    let settings : Settings := ⟨some table, separator⟩
    let tokens text := (tokenize settings (.text text)).outcome
    (∃ ts us vs, tokens a = .ok ts ∧ tokens b = .ok us ∧ tokens (a ++ b) = .ok vs ∧
      (vs = ts ++ us ↔ ¬ RunsOn a.toList b.toList) ∧
      (RunsOn a.toList b.toList → vs.length + 1 = ts.length + us.length) ∧
      ∀ gap : String, gap ≠ "" → Ignored gap.toList → tokens (a ++ gap ++ b) = .ok (ts ++ us)) ∧
    ∀ before gap gap' after : String, Ignored gap.toList → Ignored gap'.toList →
      before ++ gap ++ after ≠ "" → before ++ gap' ++ after ≠ "" →
      (RunsOn before.toList after.toList → gap ≠ "" ∧ gap' ≠ "") →
      tokens (before ++ gap ++ after) = tokens (before ++ gap' ++ after) ∧
      (toPostfix settings (.text (before ++ gap ++ after))).outcome =
        (toPostfix settings (.text (before ++ gap' ++ after))).outcome := by
  intro settings tokens
  refine ⟨?_, fun before gap gap' after hignored hignored' hne hne' hleft => ?_⟩
  · have hab : a ++ b ≠ "" := by simp [ha]
    obtain ⟨ts, hts, hlength⟩ := exists_tokens_pieces ha table separator
    obtain ⟨us, hus, hlength'⟩ := exists_tokens_pieces hb table separator
    obtain ⟨vs, hvs, hlength''⟩ := exists_tokens_pieces hab table separator
    have hmerged : RunsOn a.toList b.toList → vs.length + 1 = ts.length + us.length := by
      intro hruns
      have hcount := length_pieces_append hruns
      omega
    have hapart : ¬ RunsOn a.toList b.toList → vs = ts ++ us := by
      intro hruns
      have hvs' := outcome_tokenize_append ha hb hab (pieces_append hruns) hts hus
      rw [hvs, Except.ok.injEq] at hvs'
      exact hvs'
    refine ⟨ts, us, vs, hts, hus, hvs, ⟨?_, hapart⟩, hmerged, fun gap hne hignored => ?_⟩
    · rintro rfl hruns
      have hcount := hmerged hruns
      rw [List.length_append] at hcount
      omega
    · have hpieces : pieces (a ++ gap ++ b) = pieces a ++ pieces b :=
        pieces_gap hignored fun _ => hne
      exact outcome_tokenize_append ha hb (by simp [ha]) hpieces hts hus
  · have hpieces : pieces (before ++ gap ++ after) = pieces (before ++ gap' ++ after) := by
      rw [pieces_gap hignored fun hruns => (hleft hruns).1,
        pieces_gap hignored' fun hruns => (hleft hruns).2]
    have htokens := outcome_tokenize_congr hne hne' hpieces settings
    exact ⟨htokens, by rw [outcome_stages, outcome_stages, htokens]⟩

/-- A run of capitals goes on from one text into the next, and what would be two variables is the name
    of a function. -/
theorem tokenize_append_function :
    let settings : Settings := ⟨some .trigonometric, none⟩
    let tokens text := (tokenize settings (.text text)).outcome
    let ts := [Token.number "2", .identifier "SI"]
    let us := [Token.identifier "N", .leftParen "(", .identifier "x", .rightParen ")"]
    let vs := [Token.number "2", .function "SIN" 1, .leftParen "(", .identifier "x",
      .rightParen ")"]
    RunsOn "2 SI".toList "N(x)".toList ∧ tokens "2 SI" = .ok ts ∧ tokens "N(x)" = .ok us ∧
      tokens "2 SIN(x)" = .ok vs ∧ vs ≠ ts ++ us ∧ tokens "2 SI\tN(x)" = .ok (ts ++ us) ∧
      (toPostfix settings (.text "2 SI\tN(x)")).outcome =
        (toPostfix settings (.text "2 SI, N(x)")).outcome := by
  intro settings tokens ts us vs
  have hruns : RunsOn "2 SI".toList "N(x)".toList :=
    ⟨.upper, rfl, ⟨'I', by decide, by decide⟩, 'N', by decide, by decide⟩
  have hts : tokens "2 SI" = .ok ts := by decide +kernel
  have hus : tokens "N(x)" = .ok us := by decide +kernel
  have hvs : tokens "2 SIN(x)" = .ok vs := by decide +kernel
  have ha : "2 SI" ≠ "" := by decide
  have hb : "N(x)" ≠ "" := by decide
  obtain ⟨⟨ts', us', vs', hts', hus', hvs', hsame, -, hgap⟩, hchange⟩ :=
    tokenize_append ha hb .trigonometric none
  obtain rfl : ts = ts' := Except.ok.inj (hts.symm.trans hts')
  obtain rfl : us = us' := Except.ok.inj (hus.symm.trans hus')
  obtain rfl : vs = vs' := Except.ok.inj (hvs.symm.trans hvs')
  refine ⟨hruns, hts, hus, hvs, fun h => hsame.mp h hruns, ?_, ?_⟩
  · exact hgap "\t" (by decide) (by decide)
  · exact (hchange "2 SI" "\t" ", " "N(x)" (by decide) (by decide) (by decide) (by decide)
      fun _ => ⟨by decide, by decide⟩).2

end ShuntingYard
