import Backstep.Screen.Drawing
import Backstep.Text.Width

/-!
# Terminals

A terminal is repainted by differences: a frame is compared with the one before, and only the
cells that differ are painted. Two rules come with wide signs. The cell behind a wide sign is
covered by it and is not painted, whatever it holds, so it keeps what it showed. And the cells that
a wide sign leaves free, or comes to cover, are painted even where the frames agree.

## Main definitions

* `Terminal.repaint` — a terminal after a frame.
* `Terminal.visible` — the rows that can be seen. All of them, unless the terminal has no columns.
-/

namespace Backstep

/-- The number of columns that the sign of a cell takes. -/
def Cell.width (cell : Cell) : Nat := Text.width cell.symbol.toList

/-- A terminal: the frame it was given last and what its cells show. -/
structure Terminal where
  frame : Frame
  shown : Frame
  deriving DecidableEq

namespace Terminal

def blank (width height : Nat) : Terminal := ⟨.blank width height, .blank width height⟩

/-- What the signs before a cell do to it: the first `covered` cells from here on lie behind a
sign of the frame after, and the first `touched` behind one of either frame. -/
structure Reach where
  covered : Nat
  touched : Nat
  deriving DecidableEq

namespace Reach

/-- No wide sign is near. -/
def none : Reach := ⟨0, 0⟩

/-- The reach behind a cell, from what it holds in both frames. -/
def next (r : Reach) (old new : Cell) : Reach :=
  ⟨new.width - 1, max (max new.width old.width) r.touched - 1⟩

/-- The reach behind a row, that is, at the start of the row below. -/
def past (r : Reach) : List Cell → List Cell → Reach
  | old :: before, new :: after => (r.next old new).past before after
  | _, _ => r

end Reach

/-- What a row shows after a repaint, from what it shows, the row of the frame before, and that of
the frame after. -/
def repaintRow (r : Reach) : List Cell → List Cell → List Cell → List Cell
  | cell :: shown, old :: before, new :: after =>
    (if r.covered = 0 ∧ (new ≠ old ∨ 0 < r.touched) then new else cell)
      :: repaintRow (r.next old new) shown before after
  | _, _, _ => []

/-- The same for all rows. A wide sign in the last column reaches into the row below. -/
def repaintRows (r : Reach) : Frame → Frame → Frame → Frame
  | row :: shown, old :: before, new :: after =>
    repaintRow r row old new :: repaintRows (r.past old new) shown before after
  | _, _, _ => []

def repaint (t : Terminal) (frame : Frame) : Terminal :=
  ⟨frame, repaintRows .none t.shown t.frame frame⟩

def repaintAll (t : Terminal) (frames : List Frame) : Terminal := frames.foldl repaint t

@[simp] theorem frame_repaint (t : Terminal) (frame : Frame) : (t.repaint frame).frame = frame :=
  rfl

/-- The rows that can be seen: a row without cells cannot. -/
def visible (t : Terminal) : Frame := t.shown.filter (!·.isEmpty)

end Terminal

end Backstep
