import Mathlib.Algebra.Group.Nat.Defs
import ShuntingYard.Text.Quoted

/-! Quoted text can be read back, and all of it can be shown. The reader keeps its place in an escape
    as a state, so that each character can be read from what it is written as, whatever follows
    (`readFrom_escape`), and a text from its quoted form (`unquoted_quoted`). What a character is
    written as can be shown even where the character cannot (`isPrintable_of_mem_escape`). -/

namespace ShuntingYard.Text.Quoted

theorem hexValue_digitChar {d : Nat} (h : d < 16) : hexValue (Nat.digitChar d) = d := by
  have hall : ∀ e ∈ List.range 16, hexValue (Nat.digitChar e) = e := by decide
  exact hall d (List.mem_range.mpr h)

/-- Digits that have been read stand for the number they were written from. -/
theorem readFrom_hex (left : Nat) : ∀ (width value n : Nat) (rest : List Char),
    readFrom (.digits (width + left) value) (hex width n ++ rest) =
      readFrom (.digits left (16 ^ width * value + n % 16 ^ width)) rest
  | 0, value, n, rest => by simp [hex, Nat.mod_one]
  | width + 1, value, n, rest => by
    rw [hex, List.append_assoc, show width + 1 + left = width + (left + 1) by omega]
    refine (readFrom_hex (left + 1) width value (n / 16) _).trans ?_
    have hd := hexValue_digitChar (Nat.mod_lt n (show 0 < 16 by omega))
    rw [List.singleton_append, readFrom, hd, Nat.mul_add, Nat.pow_succ', ← Nat.mul_assoc,
      Nat.mod_mul]
    congr 2; omega

/-- The last digit completes a code point. -/
theorem readFrom_hex_all (width : Nat) {n : Nat} (h : n < 16 ^ (width + 1)) (rest : List Char) :
    readFrom (.digits width 0) (hex (width + 1) n ++ rest) =
      Char.ofNat n :: readFrom .plain rest := by
  rw [hex, List.append_assoc]
  refine (readFrom_hex 0 width 0 (n / 16) _).trans ?_
  have hd := hexValue_digitChar (Nat.mod_lt n (show 0 < 16 by omega))
  rw [List.singleton_append, readFrom, hd, Nat.mul_zero, Nat.zero_add,
    Nat.mod_eq_of_lt (Nat.div_lt_of_lt_mul (by rwa [← Nat.pow_succ']))]
  congr 2; omega

/-- A character is read back from what it is written as, whatever follows. -/
theorem readFrom_escape {mark : Char} (hm : mark = '\'' ∨ mark = '"') (c : Char)
    (rest : List Char) : readFrom .plain (escape mark c ++ rest) = c :: readFrom .plain rest := by
  have hc : c.toNat < 0x110000 := by
    rcases c.valid with h | h <;> (show c.val.toNat < _; omega)
  unfold escape
  split
  · next h =>
    rcases h with rfl | rfl
    · rfl
    · rcases hm with rfl | rfl <;> rfl
  · next h =>
    have hb : c ≠ '\\' := fun e => h (.inl e)
    split
    · next h => subst h; rfl
    split
    · next h => subst h; rfl
    split
    · next h => subst h; rfl
    split
    · simp [readFrom, hb]
    split
    · next h => exact (readFrom_hex_all 1 h rest).trans (by rw [Char.ofNat_toNat])
    split
    · next h => exact (readFrom_hex_all 3 h rest).trans (by rw [Char.ofNat_toNat])
    · exact (readFrom_hex_all 7 (by omega) rest).trans (by rw [Char.ofNat_toNat])

theorem readFrom_flatMap_escape {mark : Char} (hm : mark = '\'' ∨ mark = '"') :
    ∀ text : List Char, readFrom .plain (text.flatMap (escape mark)) = text
  | [] => rfl
  | c :: text => by
    rw [List.flatMap_cons, readFrom_escape hm, readFrom_flatMap_escape hm text]

theorem delimiter_eq (text : List Char) : delimiter text = '\'' ∨ delimiter text = '"' := by
  unfold delimiter
  split
  · exact .inr rfl
  · exact .inl rfl

/-- Reading undoes writing. -/
@[simp] theorem decode_encode (text : List Char) : decode (encode text) = text := by
  simp [decode, encode, readFrom_flatMap_escape (delimiter_eq text)]

/-! ### What quoted text is made of -/

theorem isPrintable_digitChar {d : Nat} (h : d < 16) : isPrintable (Nat.digitChar d) = true := by
  have hall : ∀ e ∈ List.range 16, isPrintable (Nat.digitChar e) = true := by decide
  exact hall d (List.mem_range.mpr h)

theorem isPrintable_of_mem_hex {c : Char} :
    ∀ {width n : Nat}, c ∈ hex width n → isPrintable c = true
  | 0, _, h => by cases h
  | width + 1, n, h => by
    rw [hex, List.mem_append, List.mem_singleton] at h
    rcases h with h | rfl
    · exact isPrintable_of_mem_hex h
    · exact isPrintable_digitChar (Nat.mod_lt n (show 0 < 16 by omega))

/-- What a character is written as can be shown, also when the character cannot. -/
theorem isPrintable_of_mem_escape {mark : Char} (hm : mark = '\'' ∨ mark = '"') (c : Char) :
    ∀ d ∈ escape mark c, isPrintable d = true := by
  have hpair : ∀ {letter : Char}, isPrintable letter = true →
      ∀ d ∈ ['\\', letter], isPrintable d = true := fun hletter =>
    List.forall_mem_cons.mpr ⟨by decide, by simpa using hletter⟩
  have hhex : ∀ {letter : Char} (width : Nat), isPrintable letter = true →
      ∀ d ∈ '\\' :: letter :: hex width c.toNat, isPrintable d = true := fun width hletter =>
    List.forall_mem_cons.mpr ⟨by decide,
      List.forall_mem_cons.mpr ⟨hletter, fun d => isPrintable_of_mem_hex⟩⟩
  unfold escape
  split
  · next h =>
    rcases h with rfl | rfl
    · exact hpair (by decide)
    · exact hpair (by rcases hm with rfl | rfl <;> decide)
  split
  · exact hpair (by decide)
  split
  · exact hpair (by decide)
  split
  · exact hpair (by decide)
  split
  · next h => simpa using h
  split
  · exact hhex 2 (by decide)
  split
  · exact hhex 4 (by decide)
  · exact hhex 8 (by decide)

theorem isPrintable_of_mem_encode (text : List Char) :
    ∀ c ∈ encode text, isPrintable c = true := by
  have hm := delimiter_eq text
  have hmark : isPrintable (delimiter text) = true := by
    rcases hm with h | h <;> rw [h] <;> decide
  intro c hc
  rw [encode, List.mem_append, List.mem_cons, List.mem_flatMap, List.mem_singleton] at hc
  rcases hc with (rfl | ⟨d, -, hc⟩) | rfl
  · exact hmark
  · exact isPrintable_of_mem_escape hm d c hc
  · exact hmark

end ShuntingYard.Text.Quoted

namespace ShuntingYard.Text

@[simp] theorem unquoted_quoted (text : String) : unquoted (quoted text) = text := by
  simp [unquoted, quoted]

/-- Texts are told apart by their quoted forms. -/
theorem quoted_injective : Function.Injective quoted :=
  Function.LeftInverse.injective unquoted_quoted

/-- Quoted text can be shown. -/
theorem isPrintable_of_mem_quoted (text : String) :
    ∀ c ∈ (quoted text).toList, isPrintable c = true := by
  rw [quoted, String.toList_ofList]
  exact Quoted.isPrintable_of_mem_encode text.toList

end ShuntingYard.Text
