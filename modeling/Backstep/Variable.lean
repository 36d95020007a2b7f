import Backstep.Sink
import Backstep.Snapshot

/-!
# Reversible variables

A reversible variable is a history with a name. Assigning moves it forwards and unassigning is
the exact inverse of the latest assignment; rewinding unassigns everything. When the variable is
traced, each operation reports one event to its sink after the step is complete, so that an event
tells the value and depth the step has left.

Reading the value is an operation too, because a traced variable reports it. Everything under
*Observers* leaves no trace.

## Main definitions

* `Variable.assign`, `Variable.unassign`, `Variable.rewind`, `Variable.get` — the operations.
* `Variable.snapshot` — the snapshot of a variable.
-/

namespace Backstep

/-- The only failure: a variable was told to unassign with no assignment left. -/
structure Underflow where
  /-- The variable that refused. -/
  name : String
  deriving DecidableEq

def Underflow.message (u : Underflow) : String :=
  "history underflow: '" ++ u.name ++ "' has no assignment left to undo"

/-- A named value that can be stepped backwards, reporting to a sink of type `σ`. -/
structure Variable (σ : Type) where
  name : String
  history : History
  /-- Whether operations are reported to the sink. -/
  traced : Bool
  sink : σ
  deriving DecidableEq

namespace Variable

variable {σ : Type}

/-! ## Observers -/

/-- The number of recorded changes, the sentinel included. -/
def depth (x : Variable σ) : Nat := x.history.depth

def snapshot (x : Variable σ) : Snapshot := ⟨x.name, x.history.value, x.history.toList⟩

def line (x : Variable σ) : String := x.snapshot.line

def canUndo (x : Variable σ) : Bool := x.history.canUndo

/-! ## Operations -/

variable [Sink σ]

/-- Report an event, if the variable is traced. -/
def report (x : Variable σ) (e : Event) : Variable σ :=
  if x.traced then { x with sink := Sink.record x.sink e } else x

/-- A new variable, whose value is `0`. -/
def create (name : String) (traced : Bool) (sink : σ) : Variable σ :=
  report ⟨name, .new, traced, sink⟩ (.created name)

def get (x : Variable σ) : Int32 × Variable σ :=
  (x.history.value, x.report (.read x.name x.history.value))

/-- Move to `value`, recording the change needed to come back. -/
def assign (x : Variable σ) (value : Int32) : Variable σ :=
  let (step, history) := x.history.push value
  { x with history }.report (.assigned x.name step.value step.depth)

/-- Undo the latest assignment. With none left the variable refuses and keeps its value and
history. -/
def unassign (x : Variable σ) : Except Underflow Unit × Variable σ :=
  match x.history.pop? with
  | some (step, history) =>
    (.ok (), { x with history }.report (.unassigned x.name step.value step.depth))
  | none => (.error ⟨x.name⟩, x.report (.unassignFailed x.name))

/-- Undo at most `n` assignments, the latest first, and count those undone. -/
def unassignUpTo : Nat → Variable σ → Nat × Variable σ
  | 0, x => (0, x)
  | n + 1, x =>
    if x.canUndo then
      match x.unassign with
      | (.ok (), y) =>
        let (undone, z) := unassignUpTo n y
        (undone + 1, z)
      | (.error _, y) => (0, y)
    else (0, x)

/-- Undo every assignment, the latest first, and count them. Each one shortens the history, so
its depth is enough to reach the start. -/
def rewind (x : Variable σ) : Nat × Variable σ := unassignUpTo x.depth x

/-- Forget the trace kept so far. -/
def clearTrace (x : Variable Trace) : Variable Trace := { x with sink := .empty }

/-! ## What reporting leaves alone -/

section Report

variable (x : Variable σ) (e : Event)

@[simp] theorem name_report : (x.report e).name = x.name := by unfold report; split <;> rfl
@[simp] theorem history_report : (x.report e).history = x.history := by unfold report; split <;> rfl
@[simp] theorem traced_report : (x.report e).traced = x.traced := by unfold report; split <;> rfl

/-- Only a traced variable touches its sink. -/
theorem sink_report :
    (x.report e).sink = if x.traced then Sink.record x.sink e else x.sink := by
  unfold report; split <;> rfl

end Report

/-! ## The operations through their parts -/

section Operations

variable (x : Variable σ) (v : Int32)

@[simp] theorem name_create (name : String) (traced : Bool) (sink : σ) :
    (create name traced sink).name = name := by simp [create]
@[simp] theorem history_create (name : String) (traced : Bool) (sink : σ) :
    (create name traced sink).history = .new := by simp [create]
@[simp] theorem traced_create (name : String) (traced : Bool) (sink : σ) :
    (create name traced sink).traced = traced := by simp [create]

@[simp] theorem fst_get : x.get.1 = x.history.value := rfl
@[simp] theorem name_get : x.get.2.name = x.name := by simp [get]
@[simp] theorem history_get : x.get.2.history = x.history := by simp [get]
@[simp] theorem traced_get : x.get.2.traced = x.traced := by simp [get]

@[simp] theorem name_assign : (x.assign v).name = x.name := by simp [assign]
@[simp] theorem history_assign : (x.assign v).history = (x.history.push v).2 := by simp [assign]
@[simp] theorem traced_assign : (x.assign v).traced = x.traced := by simp [assign]

@[simp] theorem name_unassign : x.unassign.2.name = x.name := by
  unfold unassign; split <;> simp
@[simp] theorem traced_unassign : x.unassign.2.traced = x.traced := by
  unfold unassign; split <;> simp

/-- Unassigning pops the history, or leaves it when there is nothing to pop. -/
theorem history_unassign :
    x.unassign.2.history = (x.history.pop?.map (·.2)).getD x.history := by
  unfold unassign; split <;> simp [*]

/-- Unassigning is refused exactly when no assignment is left, in the variable's own name. -/
theorem fst_unassign :
    x.unassign.1 = if x.canUndo then .ok () else .error ⟨x.name⟩ := by
  have h := x.history.isSome_pop?
  unfold unassign canUndo
  split <;> simp_all

end Operations

end Variable

end Backstep
