import Backstep.Pane.Changes
import Backstep.Pane.StatusBar
import Backstep.Pane.Summary
import Backstep.Pane.Trace
import Backstep.Stepper.Basic

/-!
# The screen of a session

The screen has four panes: the variable and its history on the left, the trace on the right, the
status bar below. Drawing settles the two scroll offsets, and that is all it changes; what is
drawn depends on the settled offsets alone.
-/

namespace Backstep

/-- The columns and rows of a screen. -/
structure Size where
  width : Nat
  height : Nat
  deriving DecidableEq

/-- The size of a screen on request, bounded like any rectangle. -/
def Size.request (width height : Nat) : Size :=
  ⟨(Rect.sides width height).1, (Rect.sides width height).2⟩

/-- The whole of a screen. -/
def Size.rect (size : Size) : Rect := Rect.ofSize size.width size.height

/-- Where the panes lie. -/
structure Layout where
  summary : Rect
  history : Rect
  trace : Rect
  status : Rect
  deriving DecidableEq

/-- The panes of a screen. The status bar has the last row, and the variable pane as many rows as
it has lines to show. -/
def Layout.ofSize (size : Size) : Layout :=
  let (panes, status) := size.rect.splitBottom 1
  let (left, trace) := panes.halves
  let (summary, history) := left.splitTop 7
  ⟨summary, history, trace, status⟩

namespace Stepper

def statusBar (s : Stepper) : StatusBar := ⟨s.status.message, s.position, s.total, s.playing⟩

/-- The session after it was drawn on a screen: its scroll offsets are those that were shown. -/
def settle (size : Size) (s : Stepper) : Stepper :=
  let layout := Layout.ofSize size
  { s with
    historyScroll := Changes.offset layout.history s.var.snapshot s.historyScroll
    traceScroll := TracePane.offset layout.trace s.var.sink s.traceScroll }

/-! ## The panes -/

def summaryPane (size : Size) (s : Stepper) : Drawing :=
  Summary.draw size.rect (Layout.ofSize size).summary s.var.snapshot s.next?

/-- The history pane of a settled session. -/
def historyPane (size : Size) (s : Stepper) : Drawing :=
  Changes.draw size.rect (Layout.ofSize size).history s.var.snapshot (s.focus == .history)
    s.historyScroll

/-- The trace pane of a settled session. -/
def tracePane (size : Size) (s : Stepper) : Drawing :=
  TracePane.draw size.rect (Layout.ofSize size).trace s.var.sink s.var.traced
    (s.focus == .trace) s.traceScroll

def statusPane (size : Size) (s : Stepper) : Drawing :=
  s.statusBar.draw size.rect (Layout.ofSize size).status

def drawing (size : Size) (s : Stepper) : Drawing :=
  let shown := s.settle size
  shown.summaryPane size ++ shown.historyPane size ++ shown.tracePane size
    ++ shown.statusPane size

/-- The cells of the screen, row by row. -/
def screen (size : Size) (s : Stepper) : Frame :=
  (s.drawing size).rows size.width size.height

/-- Drawing twice settles no more than drawing once. -/
@[simp] theorem settle_settle (size : Size) (s : Stepper) :
    (s.settle size).settle size = s.settle size := by
  unfold settle Changes.offset TracePane.offset
  simp only [Page.clamp_clamp]
  congr 1
  split <;> simp

/-- So the screen shows a settled session as it showed it before. -/
@[simp] theorem drawing_settle (size : Size) (s : Stepper) :
    (s.settle size).drawing size = s.drawing size := by
  simp [drawing]

end Stepper

end Backstep
