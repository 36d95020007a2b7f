import Backstep.Decimal
import Backstep.Proofs.Range

/-!
# What numerals denote

The reader of numerals goes through the digits from the left and multiplies by ten as it goes. What
a numeral denotes can be said without it: every digit counts with the power of ten of its place, and
a minus sign in front turns the sum around. The reader reads exactly the numerals of this grammar,
each as the number that it denotes, and at 32 bits exactly those whose number is in the range of
values.
-/

namespace Backstep.Decimal

/-- The number that digits denote: each counts with the power of ten of its place. -/
def placeValue : List Char → Nat
  | [] => 0
  | d :: digits => (d.toNat - '0'.toNat) * 10 ^ digits.length + placeValue digits

/-- One digit or more, from `0` to `9`. -/
def AreDigits (text : List Char) : Prop := text ≠ [] ∧ ∀ c ∈ text, '0' ≤ c ∧ c ≤ '9'

/-- A numeral and the integer that it denotes: digits, perhaps behind one sign. -/
inductive Denotes : List Char → Int → Prop
  | plain {digits : List Char} : AreDigits digits → Denotes digits (placeValue digits)
  | plus {digits : List Char} : AreDigits digits → Denotes ('+' :: digits) (placeValue digits)
  | minus {digits : List Char} : AreDigits digits → Denotes ('-' :: digits) (-(placeValue digits))

/-! ## Digits -/

/-- Adding up from the left gives each digit the weight of its place. -/
theorem ofDigitChars_eq_placeValue (digits : List Char) :
    Nat.ofDigitChars 10 digits 0 = placeValue digits := by
  induction digits with
  | nil => rfl
  | cons d digits ih =>
    rw [Nat.ofDigitChars_cons, Nat.ofDigitChars_eq_ofDigitChars_zero, ih, placeValue,
      Nat.mul_zero, Nat.zero_add, Nat.mul_comm]

theorem isDigit_iff_le (c : Char) : c.isDigit ↔ '0' ≤ c ∧ c ≤ '9' := Char.isDigit_iff_toNat

theorem readDigits?_eq_some_iff {text : List Char} {n : Nat} :
    readDigits? text = some n ↔ AreDigits text ∧ n = placeValue text := by
  have hdigits : (!text.isEmpty && text.all Char.isDigit) = true ↔ AreDigits text := by
    simp [AreDigits, isDigit_iff_le]
  rw [readDigits?, ofDigitChars_eq_placeValue]
  by_cases h : AreDigits text
  · rw [if_pos (hdigits.2 h), Option.some.injEq, eq_comm]
    exact (and_iff_right h).symm
  · rw [if_neg (mt hdigits.1 h)]
    simp [h]

/-- What is made of the number of a text is made of digits. -/
theorem map_readDigits?_eq_some_iff {text : List Char} {f : Nat → Int} {i : Int} :
    (readDigits? text).map f = some i ↔ AreDigits text ∧ i = f (placeValue text) := by
  rw [Option.map_eq_some_iff]
  constructor
  · rintro ⟨n, hn, rfl⟩
    obtain ⟨hdigits, rfl⟩ := readDigits?_eq_some_iff.1 hn
    exact ⟨hdigits, rfl⟩
  · rintro ⟨hdigits, rfl⟩
    exact ⟨placeValue text, readDigits?_eq_some_iff.2 ⟨hdigits, rfl⟩, rfl⟩

/-! ## Numerals -/

/-- **The reader reads the grammar**: a text is read as the integer that it denotes, and a text that
denotes none is not read. -/
theorem readChars?_eq_some_iff {text : List Char} {i : Int} :
    readChars? text = some i ↔ Denotes text i := by
  constructor
  · intro h
    unfold readChars? at h
    split at h
    · obtain ⟨hdigits, rfl⟩ := map_readDigits?_eq_some_iff.1 h
      exact .minus hdigits
    · obtain ⟨hdigits, rfl⟩ := map_readDigits?_eq_some_iff.1 h
      exact .plus hdigits
    · obtain ⟨hdigits, rfl⟩ := map_readDigits?_eq_some_iff.1 h
      exact .plain hdigits
  · intro h
    cases h with
    | plain hdigits =>
      have hall : ∀ c ∈ text, c.isDigit := fun c hc => (isDigit_iff_le c).2 (hdigits.2 c hc)
      rw [readChars?_of_all_isDigit hall]
      exact map_readDigits?_eq_some_iff.2 ⟨hdigits, rfl⟩
    | plus hdigits => exact map_readDigits?_eq_some_iff.2 ⟨hdigits, rfl⟩
    | minus hdigits => exact map_readDigits?_eq_some_iff.2 ⟨hdigits, rfl⟩

/-- At 32 bits a text is read as the value that it denotes. -/
theorem readInt32?_eq_some_iff {text : String} {v : Int32} :
    readInt32? text = some v ↔ Denotes text.toList v.toInt := by
  rw [← readChars?_eq_some_iff, readInt32?, read?, Option.bind_eq_some_iff]
  constructor
  · rintro ⟨i, hread, h⟩
    split at h
    · rename_i hrange
      have hv : v.toInt = i := by
        rw [← Option.some.inj h]
        exact Int32.toInt_ofInt_of_le hrange.1 (Int.lt_add_one_of_le hrange.2)
      rw [hread, hv]
    · cases h
  · intro h
    refine ⟨v.toInt, h, ?_⟩
    rw [if_pos ⟨v.minValue_le_toInt, v.toInt_le⟩, Int32.ofInt_toInt]

/-- A text denotes a value exactly when it denotes an integer in the range of values. -/
theorem exists_denotes_toInt_iff {text : List Char} :
    (∃ v : Int32, Denotes text v.toInt) ↔ ∃ i, Denotes text i ∧ IsValue i := by
  constructor
  · rintro ⟨v, h⟩
    exact ⟨v.toInt, h, isValue_toInt v⟩
  · rintro ⟨i, h, hrange⟩
    obtain ⟨v, rfl⟩ := exists_toInt_eq hrange
    exact ⟨v, h⟩

end Backstep.Decimal
