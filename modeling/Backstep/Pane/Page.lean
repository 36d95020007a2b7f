/-!
# Pages of a list

A pane that is too low for its list shows one page of it, from a scroll offset on. The offset is a
request, possibly far beyond the end of the list; it is clamped when the pane is drawn, so that
the last page is full and a list that fits is shown from its start.
-/

namespace Backstep.Page

/-- The largest scroll offset. As a request it means the end of the list, however long. -/
def farthest : Nat := 0xFFFFFFFFFFFFFFFF

def up (offset : Nat) : Nat := offset - 1

def down (offset : Nat) : Nat := min (offset + 1) farthest

/-- The rows inside a bordered pane of the given height. A page has a row even if the pane has
none to show it in. -/
def capacity (height : Nat) : Nat := max (height - 2) 1

/-- The offset that is shown of `count` rows, `page` at a time. -/
def clamp (count page offset : Nat) : Nat :=
  if page < count then min offset (count - page) else 0

/-- The rows of a list from an offset on, as many as a page has. -/
def take {α : Type} (page offset : Nat) (rows : List α) : List α := (rows.drop offset).take page

/-- Clamping in one formula. -/
theorem clamp_eq_min (count page offset : Nat) :
    clamp count page offset = min offset (count - page) := by
  unfold clamp; split <;> omega

/-- A clamped offset is shown as it is. -/
@[simp] theorem clamp_clamp (count page offset : Nat) :
    clamp count page (clamp count page offset) = clamp count page offset := by
  simp only [clamp_eq_min]; omega

end Backstep.Page
