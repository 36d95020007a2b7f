/-!
# Decimal numerals

The written form of an integer, and the reader for it. Writing is canonical: a minus sign for
negative numbers only, no leading zeros. Reading is more liberal: one optional sign of either
kind, then at least one ASCII digit, with any number of leading zeros. So reading undoes writing,
and the spellings `+5`, `-0` and `007` are read but never written.

## Main definitions

* `ofInt i` — the canonical numeral of `i`.
* `signed i` — the same with a sign always written, for differences.
* `read? s` — the integer that `s` denotes, if it is a numeral.
* `isNumber s` — whether `s` denotes a number of any kind.
-/

namespace Backstep.Decimal

/-! ## Writing -/

/-- The canonical numeral: the digits of the magnitude, after a minus sign when negative. -/
def ofInt (i : Int) : String :=
  if i < 0 then "-" ++ i.natAbs.repr else i.natAbs.repr

theorem ofInt_natCast (n : Nat) : ofInt n = n.repr := by
  rw [ofInt, if_neg (Int.not_lt.2 (Int.natCast_nonneg n)), Int.natAbs_natCast]

/-- The numeral of a difference, whose sign is always written; zero counts as positive. -/
def signed (i : Int) : String :=
  if i < 0 then ofInt i else "+" ++ ofInt i

/-- A difference is written as its sign and the digits of its magnitude. -/
theorem signed_eq (i : Int) : signed i = (if i < 0 then "-" else "+") ++ i.natAbs.repr := by
  rw [signed, ofInt]
  split <;> rfl

/-! ## Reading -/

/-- The number that a nonempty run of ASCII digits denotes. -/
def readDigits? (digits : List Char) : Option Nat :=
  if !digits.isEmpty && digits.all Char.isDigit then some (Nat.ofDigitChars 10 digits 0) else none

/-- The integer that a numeral denotes: an optional sign, then digits and nothing else. -/
def readChars? : List Char → Option Int
  | '-' :: digits => (readDigits? digits).map fun n : Nat => -(n : Int)
  | '+' :: digits => (readDigits? digits).map fun n : Nat => (n : Int)
  | digits => (readDigits? digits).map fun n : Nat => (n : Int)

/-- The integer that a text denotes, if it is a numeral. -/
def read? (text : String) : Option Int :=
  readChars? text.toList

/-- The 32-bit integer that a text denotes; a numeral out of range denotes none. -/
def readInt32? (text : String) : Option Int32 :=
  (read? text).bind fun i =>
    if Int32.minValue.toInt ≤ i ∧ i ≤ Int32.maxValue.toInt then some (Int32.ofInt i) else none

/-! ## Fractions -/

/-- Whether a text is an exponent, or nothing. -/
def isExponent : List Char → Bool
  | [] => true
  | e :: text => (e == 'e' || e == 'E') && (readChars? text).isSome

/-- Whether a text is digits, perhaps with a point among them, and perhaps an exponent. -/
def isMagnitude (text : List Char) : Bool :=
  let whole := text.takeWhile Char.isDigit
  match text.dropWhile Char.isDigit with
  | '.' :: rest =>
    !(whole ++ rest.takeWhile Char.isDigit).isEmpty && isExponent (rest.dropWhile Char.isDigit)
  | rest => !whole.isEmpty && isExponent rest

/-- The numbers that have a name. -/
def namedNumbers : List String := ["inf", "infinity", "nan"]

/-- Whether a text denotes a number, be it a fraction or none that is finite. -/
def isNumber (text : List Char) : Bool :=
  let magnitude := match text with
    | '+' :: rest => rest
    | '-' :: rest => rest
    | rest => rest
  isMagnitude magnitude || namedNumbers.any fun name => name.toList == magnitude.map Char.toLower

/-! ## Reading undoes writing -/

theorem readDigits?_toDigits (n : Nat) : readDigits? (Nat.toDigits 10 n) = some n := by
  have hne : (Nat.toDigits 10 n).isEmpty = false := by simp [Nat.toDigits_ne_nil]
  have hall : (Nat.toDigits 10 n).all Char.isDigit = true :=
    List.all_eq_true.2 fun _ hc => Nat.isDigit_of_mem_toDigits (by decide) (by decide) hc
  simp [readDigits?, hne, hall]

/-- A text that starts with a digit has no sign to take off. -/
theorem readChars?_of_all_isDigit {cs : List Char} (h : ∀ c ∈ cs, c.isDigit) :
    readChars? cs = (readDigits? cs).map fun n : Nat => (n : Int) := by
  match cs with
  | [] => rfl
  | c :: rest =>
    have hc : c.isDigit := h c List.mem_cons_self
    unfold readChars?
    split
    · rename_i heq; cases heq; exact absurd hc (by decide)
    · rename_i heq; cases heq; exact absurd hc (by decide)
    · rfl

/-- Reading undoes writing. -/
@[simp] theorem read?_ofInt (i : Int) : read? (ofInt i) = some i := by
  have hdig : ∀ c ∈ Nat.toDigits 10 i.natAbs, c.isDigit := fun _ hc =>
    Nat.isDigit_of_mem_toDigits (by decide) (by decide) hc
  by_cases h : i < 0
  · have hneg : -(i.natAbs : Int) = i := by omega
    have htext : (ofInt i).toList = '-' :: Nat.toDigits 10 i.natAbs := by simp [ofInt, h]
    rw [read?, htext, readChars?, readDigits?_toDigits, Option.map_some, hneg]
  · have hpos : (i.natAbs : Int) = i := by omega
    have htext : (ofInt i).toList = Nat.toDigits 10 i.natAbs := by simp [ofInt, h]
    rw [read?, htext, readChars?_of_all_isDigit hdig, readDigits?_toDigits, Option.map_some, hpos]

/-- Reading undoes writing at 32 bits, at both ends of the range. -/
@[simp] theorem readInt32?_ofInt (v : Int32) : readInt32? (ofInt v.toInt) = some v := by
  have h : Int32.minValue.toInt ≤ v.toInt ∧ v.toInt ≤ Int32.maxValue.toInt :=
    ⟨v.minValue_le_toInt, v.toInt_le⟩
  rw [readInt32?, read?_ofInt, Option.bind_some, if_pos h, Int32.ofInt_toInt]

end Backstep.Decimal
