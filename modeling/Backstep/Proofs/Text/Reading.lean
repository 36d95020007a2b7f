import Backstep.Decimal
import Mathlib.Data.List.Basic

/-!
# Reading lines

A line starts with a name, or with a word and a name, and a name may hold anything: the marks of
the line, digits, a whole other line. So it cannot be read from the left. Behind the name there are
only marks and numerals, and no mark stands in a numeral. The last mark of a line is therefore a
mark of its form, and what remains before the cut can be read in the same way.
-/

namespace Backstep

namespace Text

/-! ## Cuts -/

/-- What stands before the last place of a mark and what stands behind it, if there is a mark. -/
def cutLast? (mark : Char) : List Char → Option (List Char × List Char)
  | [] => none
  | c :: rest =>
    match cutLast? mark rest with
    | some (before, behind) => some (c :: before, behind)
    | none => if c = mark then some ([], rest) else none

/-- What stands before the first place of a mark and what stands behind it. -/
def cutFirst (mark : Char) (text : List Char) : List Char × List Char :=
  (text.takeWhile (· != mark), (text.dropWhile (· != mark)).tail)

variable {mark : Char}

theorem cutLast?_of_notMem {text : List Char} (h : mark ∉ text) : cutLast? mark text = none := by
  induction text with
  | nil => rfl
  | cons c rest ih =>
    rw [List.mem_cons, not_or] at h
    rw [cutLast?, ih h.2]
    exact if_neg (Ne.symm h.1)

/-- A mark is the last one when none stands behind it; before it there may be others. -/
theorem cutLast?_append_cons {behind : List Char} (h : mark ∉ behind) (before : List Char) :
    cutLast? mark (before ++ mark :: behind) = some (before, behind) := by
  induction before with
  | nil =>
    rw [List.nil_append, cutLast?, cutLast?_of_notMem h]
    exact if_pos rfl
  | cons c before ih => rw [List.cons_append, cutLast?, ih]

theorem cutFirst_append_cons {before : List Char} (h : mark ∉ before) (behind : List Char) :
    cutFirst mark (before ++ mark :: behind) = (before, behind) := by
  have hkept : ∀ c ∈ before, (c != mark) = true := by
    intro c hc
    exact bne_iff_ne.2 fun heq => h (heq ▸ hc)
  rw [cutFirst, List.takeWhile_append_of_pos hkept, List.dropWhile_append_of_pos hkept]
  simp

theorem dropSuffix?_append (front suffix : List Char) :
    (front ++ suffix).dropSuffix? suffix = some front :=
  List.dropSuffix?_eq_some_iff.2 ⟨suffix, rfl, BEq.rfl⟩

/-- What is written item by item can be read item by item. -/
theorem mapM_map_of_forall {α β : Type} {read : α → Option β} {write : β → α}
    (h : ∀ b, read (write b) = some b) (bs : List β) : (bs.map write).mapM read = some bs := by
  induction bs with
  | nil => rfl
  | cons b bs ih =>
    rw [List.map_cons, List.mapM_cons, h, ih]
    rfl

end Text

namespace Decimal

/-! ## Numerals -/

/-- The 64-bit integer that a text denotes; a numeral out of range denotes none. -/
def readInt64? (text : String) : Option Int64 :=
  (read? text).bind fun i =>
    if Int64.minValue.toInt ≤ i ∧ i ≤ Int64.maxValue.toInt then some (Int64.ofInt i) else none

/-- Reading undoes writing at 64 bits, at both ends of the range. -/
@[simp] theorem readInt64?_ofInt (v : Int64) : readInt64? (ofInt v.toInt) = some v := by
  have h : Int64.minValue.toInt ≤ v.toInt ∧ v.toInt ≤ Int64.maxValue.toInt :=
    ⟨v.minValue_le_toInt, v.toInt_le⟩
  rw [readInt64?, read?_ofInt, Option.bind_some, if_pos h, Int64.ofInt_toInt]

/-- A numeral is made of digits and the minus sign. -/
theorem isDigit_or_eq_of_mem_ofInt {i : Int} {c : Char} (h : c ∈ (ofInt i).toList) :
    c.isDigit ∨ c = '-' := by
  have hdigit : ∀ d ∈ Nat.toDigits 10 i.natAbs, d.isDigit := fun _ hd =>
    Nat.isDigit_of_mem_toDigits (by decide) (by decide) hd
  by_cases hneg : i < 0
  · have htext : (ofInt i).toList = '-' :: Nat.toDigits 10 i.natAbs := by simp [ofInt, hneg]
    rw [htext, List.mem_cons] at h
    rcases h with h | h
    · exact .inr h
    · exact .inl (hdigit c h)
  · have htext : (ofInt i).toList = Nat.toDigits 10 i.natAbs := by simp [ofInt, hneg]
    rw [htext] at h
    exact .inl (hdigit c h)

/-- No mark stands in a numeral. -/
theorem notMem_ofInt {mark : Char} (hdigit : mark.isDigit = false) (hminus : mark ≠ '-') (i : Int) :
    mark ∉ (ofInt i).toList := by
  intro h
  rcases isDigit_or_eq_of_mem_ofInt h with h | h
  · rw [hdigit] at h
    cases h
  · exact hminus h

theorem notMem_toDigits {mark : Char} (hdigit : mark.isDigit = false) (n : Nat) :
    mark ∉ Nat.toDigits 10 n := by
  intro h
  have hd := Nat.isDigit_of_mem_toDigits (by decide) (by decide) h
  rw [hdigit] at hd
  cases hd

end Decimal

namespace Text

/-! ## A name with its value -/

/-- The name and value of a text of the form `name: value`. -/
def readNamed? (text : List Char) : Option (String × Int32) := do
  let (text, value) ← cutLast? ' ' text
  let name ← text.dropSuffix? ":".toList
  return (String.ofList name, ← Decimal.readInt32? (String.ofList value))

theorem readNamed?_toList (name : String) (value : Int32) :
    readNamed? (name ++ ": " ++ Decimal.ofInt value.toInt).toList = some (name, value) := by
  have htext : (name ++ ": " ++ Decimal.ofInt value.toInt).toList =
      name.toList ++ ":".toList ++ ' ' :: (Decimal.ofInt value.toInt).toList := by
    simp
  have hvalue : ' ' ∉ (Decimal.ofInt value.toInt).toList :=
    Decimal.notMem_ofInt (by decide) (by decide) value.toInt
  rw [htext, readNamed?, cutLast?_append_cons hvalue]
  simp only [Option.bind_eq_bind, Option.bind_some, dropSuffix?_append, String.ofList_toList,
    Decimal.readInt32?_ofInt]
  rfl

end Text

end Backstep
