/-!
# Histories of a reversible value

A history is a current value together with the signed changes that led to it, and nothing else:
no earlier value is stored. Moving to a new value records the difference; undoing subtracts it
again. The construction of the value counts as a change of `0`, the *sentinel*. It is kept apart
from the changes that can be undone, so a history is never empty and undoing past it is refused.

Values are 32-bit and changes are 64-bit words. Every difference of two values fits the wider
word, and each subtraction on the way back ends at a value that was held before, so no operation
wraps on a history that `push` and `pop` have built.

## Main definitions

* `History.push`, `History.pop?` — one step forwards and its inverse.
* `History.toList` — the view of a history: all recorded changes, oldest first.
-/

namespace Backstep

/-- The change recorded for the construction of a value. -/
def sentinel : Int64 := 0

/-- What one step did: the change it recorded or undid, and the value and depth it left. -/
structure Step where
  /-- The change that was recorded or undone. -/
  delta : Int64
  /-- The value after the step. -/
  value : Int32
  /-- The number of recorded changes after the step, the sentinel included. -/
  depth : Nat
  deriving DecidableEq

/-- A value and the changes that can be undone, the newest first. -/
structure History where
  /-- The current value. -/
  value : Int32
  /-- The changes after the sentinel, newest first. -/
  changes : List Int64
  deriving DecidableEq

namespace History

/-- The history of a value that was just constructed. -/
def new : History := ⟨0, []⟩

/-! ## Views -/

/-- Every recorded change, oldest first; the sentinel comes before all others. -/
def toList (h : History) : List Int64 := sentinel :: h.changes.reverse

/-- The number of recorded changes, the sentinel included. -/
def depth (h : History) : Nat := h.changes.length + 1

def canUndo (h : History) : Bool := !h.changes.isEmpty

/-- The newest change, which is the sentinel when nothing was assigned. -/
def top (h : History) : Int64 := h.changes.head?.getD sentinel

/-- The sum of the recorded changes, which is the value. -/
def sum (h : History) : Int64 := h.toList.sum

/-! ## Steps -/

/-- Move to a new value, recording the difference needed to come back. -/
def push (h : History) (value : Int32) : Step × History :=
  let delta := value.toInt64 - h.value.toInt64
  (⟨delta, value, h.depth + 1⟩, ⟨value, delta :: h.changes⟩)

/-- The value held before the newest change, or none when only the sentinel is left. -/
def peek? (h : History) : Option Int32 :=
  h.changes.head?.map fun delta => (h.value.toInt64 - delta).toInt32

/-- Undo the newest change. Only the sentinel left is a refusal, not a step. -/
def pop? (h : History) : Option (Step × History) :=
  match h.changes with
  | [] => none
  | delta :: older =>
    let back : History := ⟨(h.value.toInt64 - delta).toInt32, older⟩
    some (⟨delta, back.value, back.depth⟩, back)

/-! ## The steps through the views -/

variable (h : History) (v : Int32)

@[simp] theorem toList_new : new.toList = [sentinel] := rfl

@[simp] theorem length_toList : h.toList.length = h.depth := by simp [toList, depth]

/-- A history is known by its value and the list of its changes. -/
theorem eq_of_toList_eq {g h : History} (hvalue : g.value = h.value)
    (hlist : g.toList = h.toList) : g = h := by
  cases g
  cases h
  simp_all [toList]

@[simp] theorem value_push : (h.push v).2.value = v := rfl

@[simp] theorem depth_push : (h.push v).2.depth = h.depth + 1 := rfl

@[simp] theorem toList_push :
    (h.push v).2.toList = h.toList ++ [v.toInt64 - h.value.toInt64] := by
  simp [push, toList]

theorem canUndo_iff : h.canUndo ↔ 1 < h.depth := by
  cases h with | mk value changes => cases changes <;> simp [canUndo, depth]

/-- Undoing is refused exactly when there is nothing but the sentinel. -/
theorem isSome_pop? : h.pop?.isSome = h.canUndo := by
  cases h with | mk value changes => cases changes <;> simp [pop?, canUndo]

/-- Undoing shortens a history by one change. -/
theorem depth_of_pop? {t : Step} {g : History} (hp : h.pop? = some (t, g)) :
    h.depth = g.depth + 1 := by
  cases h with | mk value changes =>
  cases changes with
  | nil => simp [pop?] at hp
  | cons delta older => simp [pop?] at hp; simp [← hp.2, depth]

end History

end Backstep
