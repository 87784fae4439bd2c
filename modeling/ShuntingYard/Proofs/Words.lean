import ShuntingYard.Proofs.Seams

/-! The words of a text. A word is made of letters of one case, as many as stand there together. Words
    are the lexemes that a table is asked about, each by its lower-case form, which is a word itself:

        text      2SIN(xAb)
        words     SIN  x  A  b
        asked     sin  x  a  b -/

namespace ShuntingYard

variable {functions functions' : Option FunctionTable} {text word : String}
variable {cs : List Char} {c : Char} {k : CharClass}

/-- A word stands in a text: letters of one case, with no letter of that case before or after them. -/
def HasWord (text word : String) : Prop :=
  ∃ k before after, (k = .lower ∨ k = .upper) ∧ text.toList = before ++ word.toList ++ after ∧
    Run k word.toList ∧ (∀ c ∈ before.getLast?, CharClass.of? c ≠ some k) ∧
    ∀ c ∈ after.head?, CharClass.of? c ≠ some k

/-! ### Words are lexemes -/

/-- A run is cut up into itself. -/
theorem pieces_run (h : Run k word.toList) : pieces word = [word] := by
  obtain ⟨first, more, hword⟩ := List.exists_cons_of_ne_nil h.nonempty
  rw [hword] at h
  have hcut := Scan.foldr_run (s := ⟨[], []⟩) (by simp) h
  rw [pieces, hword, Scan.ofChars, hcut]
  simp [Lexeme.text, Lexeme.run, ← hword]

theorem HasWord.isWord (h : HasWord text word) : IsWord word := by
  obtain ⟨k, -, -, rfl | rfl, -, hrun, -⟩ := h
  · exact .inl hrun
  · exact .inr hrun

theorem HasWord.mem_pieces (h : HasWord text word) : word ∈ pieces text := by
  obtain ⟨k, before, after, -, htext, hrun, hbefore, hafter⟩ := h
  obtain ⟨first, more, hword⟩ := List.exists_cons_of_ne_nil hrun.nonempty
  have hfirst : CharClass.of? first = some k := hrun.kind first (by simp [hword])
  have hsplit : text = .ofList before ++ (word ++ .ofList after) := by
    rw [← String.toList_inj]
    simp [htext]
  have hstart : ¬ RunsOn (String.ofList before).toList (word ++ .ofList after).toList := by
    rintro ⟨k', -, ⟨c, hc, hck⟩, d, hd, hdk⟩
    obtain rfl : first = d := by simpa [hword] using hd
    rw [String.toList_ofList] at hc
    exact hbefore c hc (hck.trans (hdk.symm.trans hfirst))
  have hend : ¬ RunsOn word.toList (String.ofList after).toList := by
    rintro ⟨k', -, ⟨c, hc, hck⟩, d, hd, hdk⟩
    rw [String.toList_ofList] at hd
    have hc' : CharClass.of? c = some k := hrun.kind c (List.mem_of_getLast? hc)
    exact hafter d hd (hdk.trans (hck.symm.trans hc'))
  rw [hsplit, pieces_append hstart, pieces_append hend, pieces_run hrun]
  simp

namespace Scan

variable {ls ms : List Lexeme} {l : Lexeme} {tail : List Char}

/-- What is before a lexeme of a tidy cut, and what is after it, is cut tidily. -/
theorem Tidy.around (h : Tidy ⟨ls ++ l :: ms, tail⟩) :
    Tidy ⟨ls, l.gap⟩ ∧ l.Tidy ∧ Tidy ⟨ms, tail⟩ := by
  obtain ⟨hls, hlms⟩ := List.forall_mem_append.mp h.lexemes
  obtain ⟨hl, hms⟩ := List.forall_mem_cons.mp hlms
  obtain ⟨hbefore, hafter, -⟩ := List.isChain_append.mp h.apart
  exact ⟨⟨hls, hbefore, hl.gap⟩, hl, ⟨hms, hafter.of_cons, h.tail⟩⟩

/-- Nothing of the kind of a lexeme is next to it, if the kind runs. -/
theorem Tidy.longest (h : Tidy ⟨ls ++ l :: ms, tail⟩) (hrun : Run k l.run) (hk : k.runs = true) :
    (∀ c ∈ (chars ⟨ls, l.gap⟩).getLast?, CharClass.of? c ≠ some k) ∧
      ∀ c ∈ (chars ⟨ms, tail⟩).head?, CharClass.of? c ≠ some k := by
  obtain ⟨hbefore, -, hafter⟩ := h.around
  obtain ⟨-, hchain, hprevious⟩ := List.isChain_append.mp h.apart
  have hjoins : ∀ {l m : Lexeme}, Run k l.run → Run k m.run → joins l.first m.first = true :=
    fun hl hm => (hl.joins_first_iff hm).mpr ⟨rfl, hk⟩
  refine ⟨fun c hc hck => ?_, fun c hc hck => ?_⟩
  · obtain ⟨hgap, ls', m, rfl, hm⟩ := hbefore.exists_last hc hck
    exact hprevious m (by simp) l rfl (hjoins hm hrun) hgap
  · obtain ⟨m, ms', rfl, hgap, hm⟩ := hafter.exists_first hc hck
    exact (List.isChain_cons.mp hchain).1 m rfl (hjoins hrun hm) hgap

end Scan

/-- The words of a text are those of its lexemes that are made of letters. -/
theorem hasWord_iff : HasWord text word ↔ IsWord word ∧ word ∈ pieces text := by
  refine ⟨fun h => ⟨h.isWord, h.mem_pieces⟩, fun ⟨hword, hmem⟩ => ?_⟩
  obtain ⟨l, hl, rfl⟩ := List.mem_map.mp hmem
  obtain ⟨k, hk, hrun⟩ : ∃ k, (k = .lower ∨ k = .upper) ∧ Run k l.text.toList :=
    hword.elim (fun h => ⟨.lower, .inl rfl, h⟩) (fun h => ⟨.upper, .inr rfl, h⟩)
  have hruns : k.runs = true := by rcases hk with rfl | rfl <;> rfl
  have htidy := Scan.tidy_ofChars text.toList
  have hchars := Scan.chars_ofChars text.toList
  generalize Scan.ofChars text.toList = s at hl htidy hchars
  obtain ⟨lexemes, tail⟩ := s
  obtain ⟨ls, ms, rfl⟩ := List.append_of_mem hl
  have hrun' : Run k l.run := by rwa [l.toList_text] at hrun
  obtain ⟨hbefore, hafter⟩ := htidy.longest hrun' hruns
  refine ⟨k, _, _, hk, ?_, hrun, hbefore, hafter⟩
  rw [← hchars, l.toList_text]
  simp [Scan.chars, Lexeme.extent]

/-- A table is asked about words only. -/
theorem classify_congr (hrun : ∃ k, Run k word.toList)
    (h : IsWord word → classifyWord functions word = classifyWord functions' word) :
    classify functions word = classify functions' word := by
  have hword : IsWord word → classify functions word = classify functions' word := by
    intro hword
    rw [hword.classify, hword.classify, h hword]
  obtain ⟨k, hrun⟩ := hrun
  cases k with
  | digit => rw [hrun.classify_number, hrun.classify_number]
  | lower => exact hword (.inl hrun)
  | upper => exact hword (.inr hrun)
  | mark => rw [hrun.classify_mark, hrun.classify_mark]

/-- Where the words of a text are recognised alike, so is all of it. -/
theorem tokenize_congr (hne : text ≠ "") (h : ∀ word, HasWord text word →
      classifyWord functions word = classifyWord functions' word) (separator : Option String) :
    tokenize ⟨functions, separator⟩ (.text text) =
      tokenize ⟨functions', separator⟩ (.text text) := by
  have hlexemes : ∀ l ∈ (Scan.ofChars text.toList).lexemes,
      l.toToken functions = l.toToken functions' := by
    intro l hl
    have hword : IsWord l.text → HasWord text l.text :=
      fun hword => hasWord_iff.mpr ⟨hword, List.mem_map_of_mem hl⟩
    rw [Lexeme.toToken_eq, Lexeme.toToken_eq,
      classify_congr (Scan.exists_run hl) fun hletters => h l.text (hword hletters)]
  have hmap := congrArg (List.mapM id) (List.map_congr_left hlexemes)
  rw [List.mapM_map, List.mapM_map] at hmap
  rw [tokenize_text hne, tokenize_text hne]
  exact hmap

/-! ### Lower case -/

/-- A property of the first 128 characters can be checked on each of them. -/
theorem forall_lt {P : Char → Prop} (h : ∀ n < 0x80, P (Char.ofNat n)) (hc : c.toNat < 0x80) :
    P c :=
  Char.ofNat_toNat c ▸ h c.toNat hc

theorem lowerFrom_of_lt (before : List Char) : ∀ {cs : List Char}, (∀ c ∈ cs, c.toNat < 0x80) →
    Text.lowerFrom before cs = cs.map Char.toLower := by
  intro cs h
  induction cs generalizing before with
  | nil => rfl
  | cons c cs ih =>
    obtain ⟨hc, hcs⟩ := List.forall_mem_cons.mp h
    have hdotted : c ≠ 'İ' := by
      rintro rfl
      exact absurd hc (by decide)
    have hsigma : c ≠ 'Σ' := by
      rintro rfl
      exact absurd hc (by decide)
    rw [Text.lowerFrom, if_neg hdotted, if_neg hsigma, Text.lowerChar, if_pos hc, ih _ hcs]
    rfl

/-- The lower-case form of a word. -/
theorem IsWord.toList_lowercase (h : IsWord word) :
    (Text.lowercase word).toList = word.toList.map Char.toLower := by
  have hlt : ∀ c ∈ word.toList, c.toNat < 0x80 := by
    rcases h with h | h
    all_goals exact fun c hc => lt_of_kind (h.kind c hc)
  rw [Text.lowercase, String.toList_ofList, lowerFrom_of_lt [] hlt]

theorem of?_toLower (h : CharClass.of? c = some .lower ∨ CharClass.of? c = some .upper) :
    CharClass.of? c.toLower = some .lower := by
  have hlt : c.toNat < 0x80 := h.elim lt_of_kind lt_of_kind
  exact forall_lt (P := fun c => CharClass.of? c = some .lower ∨ CharClass.of? c = some .upper →
    CharClass.of? c.toLower = some .lower) (by decide) hlt h

/-- The lower-case form of a word is a word in lower case. -/
theorem IsWord.run_lowercase (h : IsWord word) : Run .lower (Text.lowercase word).toList := by
  have hkind : ∀ c ∈ word.toList, CharClass.of? c.toLower = some .lower := by
    intro c hc
    exact of?_toLower (h.imp (fun h => h.kind c hc) fun h => h.kind c hc)
  have hne : word.toList ≠ [] := h.elim Run.nonempty Run.nonempty
  rw [h.toList_lowercase]
  exact ⟨by simpa using hne, List.forall_mem_map.mpr hkind, nofun⟩

end ShuntingYard
