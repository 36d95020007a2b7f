import Backstep.Decimal
import Backstep.History

/-!
# Snapshots

A snapshot is everything that can be observed of a named value at one instant, and the three
texts made from it: the inspection line, the sum that rebuilds the value, and the values held on
the way. Its parts are independent data, so a snapshot may also describe a history that no run
has produced.
-/

namespace Backstep

/-- The name, the value and the recorded changes of a variable, oldest change first. -/
structure Snapshot where
  name : String
  value : Int32
  history : List Int64
  deriving DecidableEq

namespace Snapshot

/-- The number of recorded changes, the sentinel included. -/
def depth (s : Snapshot) : Nat := s.history.length

/-- The changes as the terms of a sum, such as `0 + 5 + -3`. -/
def sumText (s : Snapshot) : String :=
  String.intercalate " + " (s.history.map fun delta => Decimal.ofInt delta.toInt)

/-- The partial sums of a list of changes, starting from the sum of what came before. -/
def partialSums (before : Int64) : List Int64 → List Int64
  | [] => []
  | delta :: rest => (before + delta) :: partialSums (before + delta) rest

/-- The value held after each change, oldest first. -/
def heldValues (s : Snapshot) : List Int64 := partialSums 0 s.history

/-- The inspection line, `name: value<tab> [c c … c ]`, with a space after every change. -/
def line (s : Snapshot) : String :=
  s.name ++ ": " ++ Decimal.ofInt s.value.toInt ++ "\t ["
    ++ String.join (s.history.map fun delta => Decimal.ofInt delta.toInt ++ " ") ++ "]"

@[simp] theorem length_partialSums (before : Int64) (deltas : List Int64) :
    (partialSums before deltas).length = deltas.length := by
  induction deltas generalizing before with
  | nil => rfl
  | cons _ _ ih => simp [partialSums, ih]

@[simp] theorem length_heldValues (s : Snapshot) : s.heldValues.length = s.depth :=
  length_partialSums 0 s.history

end Snapshot

end Backstep
