/-! Sets of characters, as short lists of code point ranges. The properties of characters that the
    Unicode Character Database defines are tabulated this way, beyond the first 128 code points; for
    those, each property has a rule of its own. -/

namespace ShuntingYard.Text

/-- Ranges of code points, both ends included. -/
abbrev Ranges := List (Nat × Nat)

namespace Ranges

/-- Whether a character lies in one of the ranges. -/
def contains (ranges : Ranges) (c : Char) : Bool :=
  ranges.any fun (first, last) => first ≤ c.toNat && c.toNat ≤ last

/-- Whether no range starts below a bound. -/
def startsFrom (ranges : Ranges) (bound : Nat) : Bool := ranges.all fun (first, _) => bound ≤ first

theorem contains_iff {ranges : Ranges} {c : Char} :
    ranges.contains c = true ↔ ∃ r ∈ ranges, r.1 ≤ c.toNat ∧ c.toNat ≤ r.2 := by
  simp [contains]

/-- Ranges that start late hold no early character. -/
theorem contains_eq_false {ranges : Ranges} {bound : Nat} (h : ranges.startsFrom bound = true)
    {c : Char} (hc : c.toNat < bound) : ranges.contains c = false := by
  refine Bool.eq_false_iff.mpr fun hin => ?_
  obtain ⟨r, hr, hle, _⟩ := contains_iff.mp hin
  have : bound ≤ r.1 := by simpa using List.all_eq_true.mp h r hr
  omega

end Ranges

end ShuntingYard.Text
