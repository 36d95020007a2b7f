import Mathlib.Algebra.Ring.Int.Defs
import Mathlib.Algebra.Ring.Nat

/-!
# The range of values

Values are 32-bit words, changes and their sums are 64-bit words. Whether a computation on words
agrees with the same computation on integers is a question about ranges: the difference of two
values never leaves the wider word, and taking it back leads to the value it was taken from.
-/

namespace Backstep

/-- The integer is in the range of 32-bit values. -/
def IsValue (i : Int) : Prop := -2 ^ 31 ≤ i ∧ i ≤ 2 ^ 31 - 1

instance (i : Int) : Decidable (IsValue i) := inferInstanceAs (Decidable (_ ∧ _))

/-- The integer is in the range of 64-bit changes. -/
def IsChange (i : Int) : Prop := -2 ^ 63 ≤ i ∧ i ≤ 2 ^ 63 - 1

instance (i : Int) : Decidable (IsChange i) := inferInstanceAs (Decidable (_ ∧ _))

theorem IsValue.isChange {i : Int} (h : IsValue i) : IsChange i := by
  obtain ⟨hl, hu⟩ := h
  constructor <;> omega

theorem isValue_toInt (v : Int32) : IsValue v.toInt := ⟨v.le_toInt, Int.le_sub_one_of_lt v.toInt_lt⟩

theorem exists_toInt_eq {i : Int} (h : IsValue i) : ∃ v : Int32, v.toInt = i :=
  ⟨Int32.ofInt i, Int32.toInt_ofInt_of_le h.1 (Int.lt_of_le_sub_one h.2)⟩

/-! ## Words that stand for integers -/

/-- The difference of two values fits the wider word. -/
theorem toInt_sub_toInt64 (v w : Int32) :
    (v.toInt64 - w.toInt64).toInt = v.toInt - w.toInt := by
  obtain ⟨hv, hv'⟩ := isValue_toInt v
  obtain ⟨hw, hw'⟩ := isValue_toInt w
  rw [Int64.toInt_sub, Int32.toInt_toInt64, Int32.toInt_toInt64]
  apply Int.bmod_eq_of_le <;> omega

/-- The sum of two words is the sum of the integers when that fits the word. -/
theorem toInt_add_of_isChange {a b : Int64} (h : IsChange (a.toInt + b.toInt)) :
    (a + b).toInt = a.toInt + b.toInt := by
  obtain ⟨hl, hu⟩ := h
  rw [Int64.toInt_add]
  apply Int.bmod_eq_of_le <;> omega

/-- Subtracting a recorded difference leads back to the value it was taken from. -/
theorem sub_sub_toInt64 (v w : Int32) : v.toInt64 - (v.toInt64 - w.toInt64) = w.toInt64 := by
  rw [Int64.sub_eq_iff_eq_add, Int64.add_comm, Int64.sub_add_cancel]

theorem toInt32_sub_sub_toInt64 (v w : Int32) :
    (v.toInt64 - (v.toInt64 - w.toInt64)).toInt32 = w := by
  rw [sub_sub_toInt64, Int32.toInt32_toInt64]

end Backstep
