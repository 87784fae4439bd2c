import ShuntingYard.Proofs.Partition
import ShuntingYard.Proofs.Quoting

/-! What the messages of a log tell. A message quotes the text it is about, so that it keeps to one
    line, whatever the text, and the text can be read back from it:

        text        2⇥'x⏎"\y           where ⇥ is a tab, and ⏎ a line feed
        messages    dropped "\t'"
                    dropped '\n"\\'

    No other event has the message of a dropped run, and a log that is written out with one message to
    a line falls into the same messages again (`splitOn_record`). -/

namespace ShuntingYard

/-! ### Characters that can be shown -/

namespace Text

/-- Control characters, those of general category Cc. -/
def isControl (c : Char) : Bool := c.toNat < 0x20 || (0x7F ≤ c.toNat && c.toNat < 0xA0)

/-- Characters that end a line: some of the controls, and the separators of lines and paragraphs. -/
def endsLine (c : Char) : Bool :=
  [0x0A, 0x0B, 0x0C, 0x0D, 0x1C, 0x1D, 0x1E, 0x85, 0x2028, 0x2029].contains c.toNat

variable {c : Char}

/-- What can be shown is in none of the ranges of the table. -/
theorem outside_of_isPrintable (h : isPrintable c = true) {r : Nat × Nat}
    (hr : r ∈ otherUnprintable) : c.toNat < r.1 ∨ r.2 < c.toNat := by
  have hstart : otherUnprintable.startsFrom 0x80 = true := by decide +kernel
  have hfirst : 0x80 ≤ r.1 := by simpa using List.all_eq_true.mp hstart r hr
  unfold isPrintable at h
  split at h
  · omega
  · by_contra hin
    have hcontains : otherUnprintable.contains c = true :=
      Ranges.contains_iff.mpr ⟨r, hr, by omega, by omega⟩
    simp [hcontains] at h

theorem toNat_of_isPrintable (h : isPrintable c = true) :
    0x20 ≤ c.toNat ∧ (c.toNat < 0x7F ∨ 0xA0 < c.toNat) ∧
      (c.toNat < 0x2028 ∨ 0x202F < c.toNat) := by
  have hlatin : c.toNat < 0x80 ∨ 0xA0 < c.toNat :=
    outside_of_isPrintable h (r := (0x80, 0xA0)) (by decide +kernel)
  have hlines : c.toNat < 0x2028 ∨ 0x202F < c.toNat :=
    outside_of_isPrintable h (r := (0x2028, 0x202F)) (by decide +kernel)
  have hascii : c.toNat < 0x80 → 0x20 ≤ c.toNat ∧ c.toNat < 0x7F := by
    intro hlt
    simpa [isPrintable, hlt] using h
  omega

theorem isControl_of_isPrintable (h : isPrintable c = true) : isControl c = false := by
  have hc := toNat_of_isPrintable h
  simp only [isControl, Bool.or_eq_false_iff, Bool.and_eq_false_iff, decide_eq_false_iff_not]
  omega

theorem endsLine_of_isPrintable (h : isPrintable c = true) : endsLine c = false := by
  have hc := toNat_of_isPrintable h
  refine Bool.eq_false_iff.mpr fun hends => ?_
  simp only [endsLine, List.contains_iff_mem, List.mem_cons, List.not_mem_nil, or_false] at hends
  omega

theorem isPrintable_of_mem_repr (n : Nat) : ∀ c ∈ n.repr.toList, isPrintable c = true := by
  intro c hc
  rw [Nat.repr_eq_ofList_toDigits, String.toList_ofList] at hc
  have hdigit := toNat_of_isDigit (Nat.isDigit_of_mem_toDigits (by omega) (by omega) hc)
  have hlt : c.toNat < 0x80 := by omega
  simp only [isPrintable, if_pos hlt, Bool.and_eq_true, decide_eq_true_eq]
  omega

end Text

/-! ### Messages -/

namespace Event

theorem toList_message_dropped (run : String) :
    (dropped run).message.toList = "dropped ".toList ++ (Text.quoted run).toList :=
  String.toList_append

theorem toList_message_converted (read written : Nat) :
    (converted read written).message.toList = "converted ".toList ++ read.repr.toList ++
      " tokens into ".toList ++ written.repr.toList := by
  simp only [message, String.toList_append]
  rfl

theorem toList_message_converting (expression : String) :
    (converting expression).message.toList =
      "converting ".toList ++ (Text.quoted expression).toList :=
  String.toList_append

/-- Messages can be shown, whatever they are about. -/
theorem isPrintable_of_mem_message (e : Event) :
    ∀ c ∈ e.message.toList, Text.isPrintable c = true := by
  cases e with
  | dropped run =>
    rw [toList_message_dropped, List.forall_mem_append]
    exact ⟨List.all_eq_true.mp (by decide), Text.isPrintable_of_mem_quoted run⟩
  | converted read written =>
    simp only [toList_message_converted, List.forall_mem_append]
    exact ⟨⟨⟨List.all_eq_true.mp (by decide), Text.isPrintable_of_mem_repr read⟩,
      List.all_eq_true.mp (by decide)⟩, Text.isPrintable_of_mem_repr written⟩
  | converting expression =>
    rw [toList_message_converting, List.forall_mem_append]
    exact ⟨List.all_eq_true.mp (by decide), Text.isPrintable_of_mem_quoted expression⟩

theorem lineFeed_not_mem_message (e : Event) : '\n' ∉ e.message.toList := fun h =>
  absurd (isPrintable_of_mem_message e _ h) (by decide)

/-- The message of a dropped run is that of no other event. -/
theorem eq_dropped_of_message {e : Event} {run : String}
    (h : e.message = (dropped run).message) : e = dropped run := by
  have hhead : e.message.toList.head? = some 'd' := by
    rw [h, toList_message_dropped]
    rfl
  cases e with
  | dropped run' =>
    have hquoted : Text.quoted run' = Text.quoted run := (String.append_right_inj _).mp h
    rw [Text.quoted_injective hquoted]
  | converted read written =>
    rw [toList_message_converted] at hhead
    cases hhead
  | converting expression =>
    rw [toList_message_converting] at hhead
    cases hhead

end Event

/-! ### Logs -/

/-- A log written out, with one message to a line. -/
def record (log : List Event) : List Char :=
  ['\n'].intercalate (log.map fun e => e.message.toList)

/-- The lines of a record are the messages. -/
theorem splitOn_record {log : List Event} (h : log ≠ []) :
    (record log).splitOn '\n' = log.map fun e => e.message.toList := by
  refine List.splitOn_intercalate '\n' ?_ (by simpa using h)
  intro line hline
  obtain ⟨e, -, rfl⟩ := List.mem_map.mp hline
  exact e.lineFeed_not_mem_message

variable {text : String}

/-- What is logged on the way through a text are its gaps, as far as the work gets. -/
theorem exists_log_tokenize (hne : text ≠ "") (settings : Settings) :
    let gaps := (((Scan.ofChars text.toList).lexemes.map Lexeme.gap).filter (· ≠ [])).map .ofList
    let traced := tokenize settings (.text text)
    ∃ runs, runs <+: gaps ∧ traced.log = runs.map .dropped ∧
      ∀ ts, traced.outcome = .ok ts → runs = gaps := by
  intro gaps traced
  have hgaps : (Scan.ofChars text.toList).lexemes.flatMap Lexeme.drops = gaps.map .dropped := by
    rw [flatMap_drops, List.map_map]
    rfl
  have hlogged := prefix_log_tokenize hne settings
  rw [hgaps, List.prefix_map_iff] at hlogged
  obtain ⟨runs, hruns, hlog⟩ := hlogged
  refine ⟨runs, hruns, hlog, fun ts htokens => ?_⟩
  have hwhole := log_tokenize (Source.read_text hne) htokens
  rw [hgaps, hlog] at hwhole
  exact List.map_injective_iff.mpr (fun _ _ => Event.dropped.inj) hwhole

/-- The runs that are dropped from a text are gaps of it, and can be read back from their messages.
    These show nothing but printable characters, so that each stays on one line of the record, and no
    other run or event has the same message. -/
theorem tokenize_dropped (hne : text ≠ "") (settings : Settings) :
    let traced := tokenize settings (.text text)
    let result := toPostfix settings (.text text)
    ∃ s : Scan, s.Parts text.toList ∧ (∀ s' : Scan, s'.Parts text.toList → s' = s) ∧
      ∃ runs : List String,
        let gaps := ((s.lexemes.map Lexeme.gap).filter (· ≠ [])).map String.ofList
        runs <+: gaps ∧ (∀ ts, traced.outcome = .ok ts → runs = gaps) ∧
        traced.log = runs.map .dropped ∧
        (∃ rest, result.log = traced.log ++ rest ∧ ∀ run, .dropped run ∉ rest) ∧
        (result.log ≠ [] →
          (record result.log).splitOn '\n' = result.log.map fun e => e.message.toList) ∧
        ∀ run ∈ runs,
          let e := Event.dropped run
          (e.level, e.message) = ("DEBUG", s!"dropped {Text.quoted run}") ∧
          Text.unquoted (Text.quoted run) = run ∧
          (∀ c ∈ e.message.toList, Text.isPrintable c = true ∧ Text.isControl c = false ∧
            Text.endsLine c = false) ∧
          ∀ e' : Event, e'.message = e.message → e' = e := by
  intro traced result
  obtain ⟨runs, hruns, hlog, hwhole⟩ := exists_log_tokenize hne settings
  obtain ⟨rest, hresult, hrest⟩ := log_toPostfix settings (.text text)
  refine ⟨Scan.ofChars text.toList, Scan.parts_ofChars text.toList, fun s' hs' => hs'.eq_ofChars,
    runs, hruns, hwhole, hlog, ⟨rest, hresult, fun run hrun => ?_⟩, splitOn_record,
    fun run _ => ⟨rfl, Text.unquoted_quoted run, fun c hc => ?_,
      fun e' => Event.eq_dropped_of_message⟩⟩
  · obtain ⟨read, written, hevent⟩ := hrest _ hrun
    cases hevent
  · have hshown := Event.isPrintable_of_mem_message _ c hc
    exact ⟨hshown, Text.isControl_of_isPrintable hshown, Text.endsLine_of_isPrintable hshown⟩

/-- Both delimiters are in use, and escapes of all lengths. Without a table the work ends at `sin`, so
    that the last gap is not logged. -/
theorem tokenize_dropped_escapes :
    let text := "2\t'x\n\"'\\ny\u2028\u00AD" ++ String.singleton (Char.ofNat 0xE0001) ++ "sin (1"
    let first := "\t'"
    let second := "\n\"'\\"
    let third := "\u2028\u00AD" ++ String.singleton (Char.ofNat 0xE0001)
    let log := (tokenize ⟨none, none⟩ (.text text)).log
    let result := toPostfix ⟨none, none⟩ (.text text)
    text ≠ "" ∧ log = [.dropped first, .dropped second, .dropped third] ∧
      log.map Event.message = ["dropped \"\\t'\"", "dropped '\\n\"\\'\\\\'",
        "dropped '\\u2028\\xad\\U000e0001'"] ∧
      Text.unquoted "\"\\t'\"" = first ∧ Text.unquoted "'\\n\"\\'\\\\'" = second ∧
      Text.unquoted "'\\u2028\\xad\\U000e0001'" = third ∧
      (∀ e ∈ log, ∀ c ∈ e.message.toList, Text.isPrintable c = true ∧ Text.isControl c = false ∧
        Text.endsLine c = false) ∧
      (∀ e : Event, e.message = "dropped '\\u2028\\xad\\U000e0001'" → e = .dropped third) ∧
      (record result.log).splitOn '\n' = result.log.map fun e => e.message.toList := by
  intro text first second third log result
  have hne : text ≠ "" := by decide +kernel
  obtain ⟨s, -, -, runs, -, -, hlog, -, hrecord, htold⟩ := tokenize_dropped hne ⟨none, none⟩
  have hdropped : log = [first, second, third].map .dropped := by decide +kernel
  obtain rfl : runs = [first, second, third] :=
    List.map_injective_iff.mpr (fun _ _ => Event.dropped.inj) (hlog.symm.trans hdropped)
  obtain ⟨hfirst, hsecond, hthird⟩ :
      Text.quoted first = "\"\\t'\"" ∧ Text.quoted second = "'\\n\"\\'\\\\'" ∧
        Text.quoted third = "'\\u2028\\xad\\U000e0001'" := by decide +kernel
  obtain ⟨-, hread₁, -, -⟩ := htold first (by simp)
  obtain ⟨-, hread₂, -, -⟩ := htold second (by simp)
  obtain ⟨hmessage₃, hread₃, -, honly₃⟩ := htold third (by simp)
  rw [hfirst] at hread₁
  rw [hsecond] at hread₂
  rw [hthird] at hread₃ hmessage₃
  refine ⟨hne, hdropped, by decide +kernel, hread₁, hread₂, hread₃, ?_, fun e he => ?_,
    hrecord (by decide +kernel)⟩
  · intro e he
    rw [hdropped] at he
    obtain ⟨run, hrun, rfl⟩ := List.mem_map.mp he
    exact (htold run hrun).2.2.1
  · exact honly₃ e (he.trans (congrArg Prod.snd hmessage₃).symm)

end ShuntingYard
