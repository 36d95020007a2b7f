import Backstep.Proofs.Text.EventLine
import Backstep.Proofs.Variable.Events

/-!
# Replaying a trace

The trace of a variable says where the variable is. Its lines can be read back as events, and each
event says what it did to the stack of values: a rewind leaves the events of as many unassignments,
refusals and reads do nothing. So the events played from the empty stack lead to the stack that the
operations have led to, and two variables with the same trace are in the same state, whatever each
of them was asked to do.
-/

namespace Backstep

/-! ## Events as steps -/

namespace ValueStack

/-- The stack after an event, as one who hears of the event can tell. -/
def replay (s : ValueStack) : Event → ValueStack
  | .assigned _ v _ => v :: s
  | .unassigned _ _ _ => s.tail
  | .created _ | .unassignFailed _ | .read _ _ => s

variable (name : String) (s : ValueStack)

theorem foldl_replay_rewindEvents : (s.rewindEvents name).foldl replay s = [] := by
  induction s with
  | nil => rfl
  | cons v s ih => rw [rewindEvents_cons, List.foldl_cons, replay, List.tail_cons, ih]

/-- The events of an operation do what the operation does. -/
theorem foldl_replay_events (o : Operation) : (s.events name o).foldl replay s = s.next o := by
  cases o with
  | assign v => rfl
  | unassign => cases s <;> rfl
  | rewind => exact s.foldl_replay_rewindEvents name
  | get => rfl

/-- The events of a run do what the run does. -/
theorem foldl_replay_runEvents (os : List Operation) :
    (s.runEvents name os).foldl replay s = s.after os := by
  induction os generalizing s with
  | nil => rfl
  | cons o os ih => rw [runEvents, List.foldl_append, foldl_replay_events, ih, after_cons]

end ValueStack

/-! ## Traces as states -/

/-- The state of the variable that a trace tells of from its construction on. -/
def Snapshot.ofTrace? (lines : List String) : Option Snapshot := do
  match ← lines.mapM Event.ofLine? with
  | .created name :: es =>
    let history := History.ofStack (es.foldl ValueStack.replay [])
    return ⟨name, history.value, history.toList⟩
  | _ => none

namespace Variable

/-- The log of a run has one line for each event, that of the construction first. -/
theorem lines_performAll_create (name : String) (os : List Operation) :
    ((create name true Trace.empty).performAll os).2.sink.lines =
      (Event.created name :: ValueStack.runEvents name [] os).map Event.line := by
  have hx : (create name true Trace.empty).history = History.ofStack [] :=
    history_create name true Trace.empty
  rw [sink_performAll_of_history hx, lines_told, traced_create, if_pos rfl, name_create]
  rfl

/-- Reading a log tells the state that it was kept up to. -/
theorem ofTrace?_performAll_create (name : String) (os : List Operation) :
    Snapshot.ofTrace? ((create name true Trace.empty).performAll os).2.sink.lines =
      some ((create name true Trace.empty).performAll os).2.snapshot := by
  have hx : (create name true Trace.empty).history = History.ofStack [] :=
    history_create name true Trace.empty
  obtain ⟨-, hhistory, hname⟩ := performAll_of_history hx os
  rw [lines_performAll_create, Snapshot.ofTrace?, Text.mapM_map_of_forall Event.ofLine?_line,
    snapshot, hname, hhistory, ← ValueStack.foldl_replay_runEvents name, name_create]
  rfl

/-- **A trace tells the state.** The name, the value and the changes of a traced variable can be
read off its log after any run. So two variables whose logs have the same lines have the same name,
the same value and the same history, however different their runs were. -/
theorem history_eq_of_lines_eq :
    (∀ (name : String) (os : List Operation),
      let x := ((create name true Trace.empty).performAll os).2
      Snapshot.ofTrace? x.sink.lines = some ⟨x.name, x.history.value, x.history.toList⟩) ∧
    ∀ (name₁ name₂ : String) (os ps : List Operation),
      let x := ((create name₁ true Trace.empty).performAll os).2
      let y := ((create name₂ true Trace.empty).performAll ps).2
      x.sink.lines = y.sink.lines →
        x.name = y.name ∧ x.history.value = y.history.value ∧ x.history = y.history := by
  refine ⟨ofTrace?_performAll_create, ?_⟩
  intro name₁ name₂ os ps x y hlines
  have hx : Snapshot.ofTrace? x.sink.lines = some x.snapshot := ofTrace?_performAll_create name₁ os
  have hy : Snapshot.ofTrace? y.sink.lines = some y.snapshot := ofTrace?_performAll_create name₂ ps
  have hsnapshot : x.snapshot = y.snapshot := by
    rw [hlines, hy] at hx
    exact (Option.some.inj hx).symm
  rw [snapshot, snapshot, Snapshot.mk.injEq] at hsnapshot
  obtain ⟨hname, hvalue, hlist⟩ := hsnapshot
  exact ⟨hname, hvalue, History.eq_of_toList_eq hvalue hlist⟩

/-- A rewind and a row of unassignments leave the same lines, and so the same history. -/
theorem history_eq_of_rewind_or_unassign :
    let x := ((create "x to 5" true Trace.empty).performAll
      [.assign 5, .assign (-3), .rewind, .unassign]).2
    let y := ((create "x to 5" true Trace.empty).performAll
      [.assign 5, .assign (-3), .unassign, .unassign, .unassign]).2
    x.sink.lines = y.sink.lines ∧ x.history = y.history := by
  intro x y
  have hlines : x.sink.lines = y.sink.lines := by decide +kernel
  exact ⟨hlines, (history_eq_of_lines_eq.2 _ _ _ _ hlines).2.2⟩

end Variable

end Backstep
