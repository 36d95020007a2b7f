import Backstep.Proofs.Text.EventLine
import Backstep.Proofs.Variable.Replay

/-!
# Journals and traces

A journal keeps the records of the events whose lines a trace log keeps. Both are told by the same
variable in the same way, so from the same operations they come to the same events, and since a
record can be read back as a line can, either of them says all that the other says.
-/

namespace Backstep

namespace Event

def ofRecord? (r : Record) : Option Event :=
  match r.message, r.value, r.depth with
  | "created", none, none => some (.created r.subject)
  | "assigned", some value, some depth => some (.assigned r.subject value depth)
  | "unassigned", some value, some depth => some (.unassigned r.subject value depth)
  | "unassign failed: history is empty", none, none => some (.unassignFailed r.subject)
  | "read", some value, none => some (.read r.subject value)
  | _, _, _ => none

theorem ofRecord?_ofEvent (e : Event) : ofRecord? (.ofEvent e) = some e := by
  cases e <;> rfl

end Event

/-- The events of one run and then another, the second from where the first has led. -/
theorem ValueStack.runEvents_append (name : String) (s : ValueStack) (os ps : List Operation) :
    runEvents name s (os ++ ps) = runEvents name s os ++ runEvents name (s.after os) ps := by
  induction os generalizing s with
  | nil => rfl
  | cons o os ih => simp [runEvents, ih]

namespace Variable

/-- A journal that is told events has their records after those it had. -/
theorem records_told (x : Variable Journal) (es : List Event) :
    (x.told es).records =
      if x.traced then x.sink.records ++ es.map Record.ofEvent else x.sink.records := by
  have hrecords :
      (es.foldl Sink.record x.sink).records = x.sink.records ++ es.map Record.ofEvent := by
    generalize x.sink = journal
    induction es generalizing journal with
    | nil => simp
    | cons e es ih => simp [ih]
  rw [told]
  split
  · exact hrecords
  · rfl

@[simp] theorem traced_performAll {σ : Type} [Sink σ] (x : Variable σ) (os : List Operation) :
    (x.performAll os).2.traced = x.traced := by
  induction os generalizing x with
  | nil => rfl
  | cons o os ih => exact (ih _).trans (traced_perform x o)

/-- The journal of a run has one record for each event, that of the construction first. If the
variable is not traced, it has none. -/
theorem records_performAll_create (name : String) (traced : Bool) (os : List Operation) :
    ((create name traced Journal.empty).performAll os).2.sink.records =
      if traced then
        (Event.created name :: ValueStack.runEvents name [] os).map Record.ofEvent
      else [] := by
  have hx : (create name traced Journal.empty).history = History.ofStack [] :=
    history_create name traced Journal.empty
  rw [sink_performAll_of_history hx, records_told, traced_create, name_create]
  cases traced <;> rfl

/-! ## The same events in both -/

/-- The lines of one variable and the records of another are, place by place, those of the same
events, and each line tells the record at its place and each record the line. -/
structure KeepAlike (x : Variable Trace) (y : Variable Journal) : Prop where
  exists_events : ∃ events : List Event,
    x.sink.lines = events.map Event.line ∧ y.sink.records = events.map Record.ofEvent
  record_of_line :
    x.sink.lines.map (fun line => (Event.ofLine? line).map Record.ofEvent) =
      y.sink.records.map some
  line_of_record :
    y.sink.records.map (fun r => (Event.ofRecord? r).map Event.line) = x.sink.lines.map some

theorem keepAlike_of_events {x : Variable Trace} {y : Variable Journal} {events : List Event}
    (hlines : x.sink.lines = events.map Event.line)
    (hrecords : y.sink.records = events.map Record.ofEvent) : KeepAlike x y where
  exists_events := ⟨events, hlines, hrecords⟩
  record_of_line := by simp [hlines, hrecords, Event.ofLine?_line]
  line_of_record := by simp [hlines, hrecords, Event.ofRecord?_ofEvent]

/-- An operation is answered alike by both variables and adds the same events to what they keep, of
which those are warnings that tell of a refusal. -/
structure TellAlike (x : Variable Trace) (y : Variable Journal) (o : Operation)
    (told : List Event) : Prop where
  answer_eq : (x.perform o).1 = (y.perform o).1
  lines_eq : (x.perform o).2.sink.lines = x.sink.lines ++ told.map Event.line
  records_eq : (y.perform o).2.sink.records = y.sink.records ++ told.map Record.ofEvent
  warn_iff : ∀ e ∈ told,
    (Record.ofEvent e).level = .warn ↔ ∃ cause, (y.perform o).1 = .refused cause
  /-- A refusal never goes untold. -/
  refused : ∀ cause, (y.perform o).1 = .refused cause → told = [.unassignFailed y.name]

/-- The events of a rewind are no warnings. -/
theorem level_of_mem_rewindEvents {name : String} {s : ValueStack} {e : Event}
    (h : e ∈ s.rewindEvents name) : (Record.ofEvent e).level = .debug := by
  induction s with
  | nil => cases h
  | cons v s ih =>
    rw [ValueStack.rewindEvents_cons, List.mem_cons] at h
    rcases h with rfl | h
    · rfl
    · exact ih h

/-- An event of an operation is a warning exactly when the operation is refused. -/
theorem level_of_mem_events {name : String} {s : ValueStack} {o : Operation} {e : Event}
    (h : e ∈ s.events name o) :
    (Record.ofEvent e).level = .warn ↔ ∃ cause, s.answer name o = .refused cause := by
  cases o with
  | assign v =>
    rw [List.mem_singleton.1 h]
    simp [Record.ofEvent, ValueStack.answer]
  | unassign =>
    cases s with
    | nil =>
      rw [List.mem_singleton.1 h]
      simp [Record.ofEvent, ValueStack.answer]
    | cons v s =>
      rw [List.mem_singleton.1 h]
      simp [Record.ofEvent, ValueStack.answer]
  | rewind => simp [level_of_mem_rewindEvents h, ValueStack.answer]
  | get =>
    rw [List.mem_singleton.1 h]
    simp [Record.ofEvent, ValueStack.answer]

theorem tellAlike_of_history {x : Variable Trace} {y : Variable Journal} {s : ValueStack}
    (hx : x.history = History.ofStack s) (hy : y.history = History.ofStack s)
    (hname : x.name = y.name) (htraced : x.traced = true) (htraced' : y.traced = true)
    (o : Operation) : TellAlike x y o (s.events y.name o) where
  answer_eq := by rw [(perform_of_history hx o).1, (perform_of_history hy o).1, hname]
  lines_eq := by rw [sink_perform_of_history hx, lines_told, if_pos htraced, hname]
  records_eq := by rw [sink_perform_of_history hy, records_told, if_pos htraced']
  warn_iff := by
    intro e he
    rw [(perform_of_history hy o).1]
    exact level_of_mem_events he
  refused := by
    intro cause hcause
    rw [(perform_of_history hy o).1] at hcause
    cases o with
    | unassign =>
      cases s with
      | nil => rfl
      | cons v s => cases hcause
    | assign v => cases hcause
    | rewind => cases hcause
    | get => cases hcause

/-- After the same operations a trace log and a journal have the same events, and the next operation
tells both the same. -/
theorem keepAlike_performAll (name : String) (os : List Operation) :
    KeepAlike ((create name true Trace.empty).performAll os).2
        ((create name true Journal.empty).performAll os).2 ∧
      ∀ o, ∃ told, TellAlike ((create name true Trace.empty).performAll os).2
        ((create name true Journal.empty).performAll os).2 o told := by
  have hx : (create name true Trace.empty).history = History.ofStack [] :=
    history_create name true Trace.empty
  have hy : (create name true Journal.empty).history = History.ofStack [] :=
    history_create name true Journal.empty
  obtain ⟨-, hhistory, hname⟩ := performAll_of_history hx os
  obtain ⟨-, hhistory', hname'⟩ := performAll_of_history hy os
  refine ⟨keepAlike_of_events (lines_performAll_create name os)
    (records_performAll_create name true os), fun o => ⟨_, tellAlike_of_history hhistory hhistory'
      ?_ ?_ ?_ o⟩⟩
  · rw [hname, hname', name_create, name_create]
  · rw [traced_performAll, traced_create]
  · rw [traced_performAll, traced_create]

end Variable

end Backstep
