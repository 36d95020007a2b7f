import Backstep.Event
import Backstep.Proofs.Text.Reading

/-!
# Reading the lines of events

The line of an event can be read back, whatever the name in it. The word before the first blank is
the kind, for no kind has a blank in it. What follows the name is cut off from the right end of the
line. So no two events have the same line.
-/

namespace Backstep.Event

open Text (cutFirst cutLast? readNamed?)

/-- The name, value and depth of a line that ends with an outcome. -/
def readOutcome? (text : List Char) : Option (String × Int32 × Nat) := do
  let text ← text.dropSuffix? ")".toList
  let (text, depth) ← cutLast? ' ' text
  let text ← text.dropSuffix? " (history size".toList
  let (text, value) ← cutLast? ' ' text
  let name ← text.dropSuffix? " to".toList
  return (String.ofList name, ← Decimal.readInt32? (String.ofList value),
    ← Decimal.readDigits? depth)

def ofLine? (line : String) : Option Event :=
  let (kind, text) := cutFirst ' ' line.toList
  match String.ofList kind with
  | "created" => some (.created (String.ofList text))
  | "assigned" => do
    let (name, value, depth) ← readOutcome? text
    return .assigned name value depth
  | "unassigned" => do
    let (name, value, depth) ← readOutcome? text
    return .unassigned name value depth
  | "unassigning" => do
    let name ← text.dropSuffix? " failed: history is empty".toList
    return .unassignFailed (String.ofList name)
  | "read" => do
    let (name, value) ← readNamed? text
    return .read name value
  | _ => none

theorem readOutcome?_toList (name : String) (value : Int32) (depth : Nat) :
    readOutcome? (name ++ outcome value depth).toList = some (name, value, depth) := by
  have htext : (name ++ outcome value depth).toList =
      (name.toList ++ " to".toList ++ ' ' :: (Decimal.ofInt value.toInt).toList
        ++ " (history size".toList ++ ' ' :: Nat.toDigits 10 depth) ++ ")".toList := by
    simp [outcome]
  have hdepth : ' ' ∉ Nat.toDigits 10 depth := Decimal.notMem_toDigits (by decide) depth
  have hvalue : ' ' ∉ (Decimal.ofInt value.toInt).toList :=
    Decimal.notMem_ofInt (by decide) (by decide) value.toInt
  rw [htext, readOutcome?]
  simp only [Text.dropSuffix?_append, Text.cutLast?_append_cons hdepth,
    Text.cutLast?_append_cons hvalue, Option.bind_eq_bind, Option.bind_some,
    String.ofList_toList, Decimal.readInt32?_ofInt, Decimal.readDigits?_toDigits]
  rfl

/-- Reading undoes writing, whatever the name. -/
theorem ofLine?_line (e : Event) : ofLine? e.line = some e := by
  cases e with
  | created name =>
    have htext : (line (.created name)).toList = "created".toList ++ ' ' :: name.toList := by
      simp [line]
    rw [ofLine?, htext, Text.cutFirst_append_cons (by simp)]
    simp
  | assigned name value depth =>
    have htext : (line (.assigned name value depth)).toList =
        "assigned".toList ++ ' ' :: (name ++ outcome value depth).toList := by
      simp [line]
    rw [ofLine?, htext, Text.cutFirst_append_cons (by simp)]
    simp only [String.ofList_toList, readOutcome?_toList]
    rfl
  | unassigned name value depth =>
    have htext : (line (.unassigned name value depth)).toList =
        "unassigned".toList ++ ' ' :: (name ++ outcome value depth).toList := by
      simp [line]
    rw [ofLine?, htext, Text.cutFirst_append_cons (by simp)]
    simp only [String.ofList_toList, readOutcome?_toList]
    rfl
  | unassignFailed name =>
    have htext : (line (.unassignFailed name)).toList =
        "unassigning".toList ++ ' ' :: (name.toList ++ " failed: history is empty".toList) := by
      simp [line]
    rw [ofLine?, htext, Text.cutFirst_append_cons (by simp)]
    simp [Text.dropSuffix?_append]
  | read name value =>
    have htext : (line (.read name value)).toList =
        "read".toList ++ ' ' :: (name ++ ": " ++ Decimal.ofInt value.toInt).toList := by
      simp [line]
    rw [ofLine?, htext, Text.cutFirst_append_cons (by simp)]
    simp only [String.ofList_toList, Text.readNamed?_toList]
    rfl

/-- A name that imitates the end of a line is part of the name. -/
example :
    ofLine? "assigned x to 3 (history size 2) to -4 (history size 5)" =
      some (.assigned "x to 3 (history size 2)" (-4) 5) := by
  decide +kernel

/-- **No two events have the same line.** Names may hold anything, other lines included: kind, name,
value and depth can all be read off the line. -/
theorem line_eq_line_iff :
    (∀ e₁ e₂ : Event, e₁.line = e₂.line ↔ e₁ = e₂) ∧ ∀ e : Event, ofLine? e.line = some e := by
  refine ⟨?_, ofLine?_line⟩
  intro e₁ e₂
  constructor
  · intro h
    have hread := congrArg ofLine? h
    rw [ofLine?_line, ofLine?_line] at hread
    exact Option.some.inj hread
  · intro h
    rw [h]

end Backstep.Event
