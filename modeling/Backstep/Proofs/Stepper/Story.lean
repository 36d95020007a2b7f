import Backstep.Proofs.History.Reachable
import Backstep.Proofs.Stepper.Performed
import Backstep.Proofs.Text.SumText
import Backstep.Proofs.Variable.Replay

/-!
# One story

The panes take what they show from three places: the length of the history, the sums of its changes,
and lines that were written when something happened. No two of them are compared anywhere, yet all
tell of the same value and the same depth. What was written needs an induction over the run: every
step reports the stack that it leaves, and whatever is no step leaves the stack alone.
-/

namespace Backstep

/-! ## The last step in a log -/

/-- The value and depth that an event tells of, if it is a step. -/
def Event.step? : Event → Option (Int32 × Nat)
  | .assigned _ value depth => some (value, depth)
  | .unassigned _ value depth => some (value, depth)
  | .created _ | .unassignFailed _ | .read _ _ => none

/-- The value and depth in the last line of a log that tells of a step. -/
def Trace.lastStep? (log : Trace) : Option (Int32 × Nat) :=
  (log.lines.filterMap fun line => (Event.ofLine? line).bind Event.step?).getLast?

/-- The last step among some events has left a stack; without a step it is the empty one. -/
def ValueStack.IsLeftBy (s : ValueStack) (es : List Event) : Prop :=
  (es.filterMap Event.step?).getLast?.getD (0, 1) = (s.current, s.length + 1)

namespace ValueStack

variable {s : ValueStack} {es : List Event}

/-- A step leaves what it tells of. -/
theorem isLeftBy_concat {e : Event} (h : e.step? = some (s.current, s.length + 1)) :
    s.IsLeftBy (es ++ [e]) := by
  simp [IsLeftBy, h]

/-- What is no step leaves the stack alone. -/
theorem IsLeftBy.concat_of_none (hs : s.IsLeftBy es) {e : Event} (h : e.step? = none) :
    s.IsLeftBy (es ++ [e]) := by
  rw [IsLeftBy, List.filterMap_append, List.filterMap_cons_none h, List.filterMap_nil,
    List.append_nil]
  exact hs

theorem IsLeftBy.rewindEvents (hs : s.IsLeftBy es) (name : String) :
    IsLeftBy [] (es ++ s.rewindEvents name) := by
  induction s generalizing es with
  | nil =>
    have hnone : ValueStack.rewindEvents name [] = [] := rfl
    rw [hnone, List.append_nil]
    exact hs
  | cons v s ih =>
    rw [rewindEvents_cons, List.append_cons]
    exact ih (isLeftBy_concat rfl)

/-- Every operation leaves the stack that its last step tells of. -/
theorem IsLeftBy.next (hs : s.IsLeftBy es) (name : String) (o : Operation) :
    (s.next o).IsLeftBy (es ++ s.events name o) := by
  cases o with
  | assign v => exact isLeftBy_concat rfl
  | unassign =>
    cases s with
    | nil => exact hs.concat_of_none rfl
    | cons v s => exact isLeftBy_concat rfl
  | rewind => exact hs.rewindEvents name
  | get => exact hs.concat_of_none rfl

theorem IsLeftBy.after (hs : s.IsLeftBy es) (name : String) (os : List Operation) :
    (s.after os).IsLeftBy (es ++ s.runEvents name os) := by
  induction os generalizing s es with
  | nil =>
    rw [runEvents, List.append_nil]
    exact hs
  | cons o os ih =>
    rw [runEvents, ← List.append_assoc]
    exact ih (hs.next name o)

end ValueStack

/-- The log of a run ends with the step that has left the stack. -/
theorem Variable.lastStep?_performAll_create (name : String) (os : List Operation) :
    ((create name true Trace.empty).performAll os).2.sink.lastStep?.getD (0, 1) =
      ((ValueStack.after [] os).current, (ValueStack.after [] os).length + 1) := by
  have hnew : ValueStack.IsLeftBy [] [.created name] := rfl
  have hread : (fun line => (Event.ofLine? line).bind Event.step?) ∘ Event.line = Event.step? := by
    funext e
    rw [Function.comp_apply, Event.ofLine?_line, Option.bind_some]
  rw [Trace.lastStep?, lines_performAll_create, List.filterMap_map, hread]
  exact hnew.after name os

/-! ## The rows of the history -/

namespace Changes

/-- The row of the last change is the only one that is marked. -/
theorem filter_marker_rows {s : Snapshot} {deltas helds : List Int64} {delta held : Int64}
    (hhistory : s.history = deltas ++ [delta]) (hheld : s.heldValues = helds ++ [held])
    (hlength : deltas.length = helds.length) :
    (rows s).filter (fun row => row.marker = "▶ ") = [⟨deltas.length, delta, held, true⟩] := by
  have hdepth : s.depth = deltas.length + 1 := by simp [Snapshot.depth, hhistory]
  have hmarker : ∀ row : ChangeRow, row.marker = "▶ " ↔ row.newest = true := by
    intro row
    rw [ChangeRow.marker]
    cases row.newest <;> simp
  have hrows : rows s = (s.history.zip s.heldValues).zipIdx.map fun p =>
      ⟨p.2, p.1.1, p.1.2, p.2 + 1 == s.depth⟩ := rfl
  have holder : ((deltas.zip helds).zipIdx.map fun p =>
      ChangeRow.mk p.2 p.1.1 p.1.2 (p.2 + 1 == s.depth)).filter (·.newest) = [] := by
    rw [List.filter_eq_nil_iff]
    intro row hrow
    obtain ⟨p, hmem, rfl⟩ := List.mem_map.1 hrow
    have hindex := List.snd_lt_of_mem_zipIdx hmem
    rw [List.length_zip] at hindex
    simp
    omega
  simp only [hmarker, Bool.decide_eq_true]
  rw [hrows, hhistory, hheld, List.zip_append hlength, List.zipIdx_append, List.map_append,
    List.filter_append, holder]
  simp [hdepth, hlength]

/-- In the history of a stack the last row tells of the value in force. -/
theorem filter_marker_rows_of_stack {s : Snapshot} {stack : ValueStack}
    (h : s.history = (History.ofStack stack).toList) :
    ∃ delta, (rows s).filter (fun row => row.marker = "▶ ") =
      [⟨stack.length, delta, stack.current.toInt64, true⟩] := by
  have hheld : s.heldValues = 0 :: stack.reverse.map Int32.toInt64 := by
    rw [Snapshot.heldValues, h, History.partialSums_toList_ofStack]
  cases stack with
  | nil =>
    have hhistory : s.history = [] ++ [sentinel] := h
    have hvalues : s.heldValues = [] ++ [0] := hheld
    exact ⟨sentinel, filter_marker_rows hhistory hvalues rfl⟩
  | cons v earlier =>
    rw [History.ofStack_cons, History.toList_push] at h
    rw [List.reverse_cons, List.map_append, ← List.cons_append] at hheld
    have hrows := filter_marker_rows h hheld (by simp)
    rw [History.length_toList, History.depth_ofStack] at hrows
    exact ⟨_, hrows⟩

end Changes

/-! ## All panes -/

namespace Stepper

/-- The texts in the lines of the variable pane, before any is cut short. -/
def summaryTexts (s : Stepper) : List (List String) :=
  (Summary.lines s.var.snapshot s.next?).map fun line => line.map (·.text)

/-- All that a draw of the session hands to the panes tells of one value and one depth. -/
structure OneStory (s : Stepper) (value : Int32) (depth : Nat) : Prop where
  value_shown : s.summaryTexts[0]? = some [s.var.name, " = ", Decimal.ofInt value.toInt]
  /-- The terms of the sum that is shown add up to the value, as integers. -/
  sum_shown : ∃ sum terms,
    s.summaryTexts[2]? = some ["sum      ", sum ++ " = " ++ Decimal.ofInt value.toInt] ∧
      Snapshot.readSum? sum = some terms ∧ terms.sum = value.toInt
  depth_shown : s.summaryTexts[3]? = some ["depth    ", depth.repr]
  step_shown : s.statusBar.left.head?.map (·.text) =
    some (" Step " ++ depth.repr ++ "/" ++ s.total.repr ++ " ")
  depth_le_total : depth ≤ s.total
  length_rows : (Changes.rows s.var.snapshot).length = depth
  /-- One row is marked as the newest, and it tells of the value. -/
  newest_shown : ∃ row,
    (Changes.rows s.var.snapshot).filter (fun row => row.marker = "▶ ") = [row] ∧
      row.index + 1 = depth ∧ row.running.toInt = value.toInt ∧
      let change := if row.index = 0 then "sentinel"
        else (if row.delta.toInt < 0 then "-" else "+") ++ row.delta.toInt.natAbs.repr
      row.line.map (·.text) =
        ["▶ ",
          "#" ++ (row.index.repr
            ++ String.ofList (List.replicate (4 - row.index.repr.length) ' ')),
          change ++ String.ofList (List.replicate (14 - change.length) ' '),
          "→ ", Decimal.ofInt value.toInt]
  /-- The last step in the log tells of value and depth; a log without one is that of a new
  variable. -/
  told : s.var.sink.lastStep?.getD (0, 1) = (value, depth)

/-- A session whose variable holds a stack tells the story of the stack, if its log does. -/
theorem oneStory_of_history {s : Stepper} {stack : ValueStack}
    (h : s.var.history = .ofStack stack) (hlength : stack.length ≤ s.targets.length)
    (htold : s.var.sink.lastStep?.getD (0, 1) = (stack.current, stack.length + 1)) :
    s.OneStory stack.current (stack.length + 1) where
  value_shown := by
    rw [← History.value_ofStack, ← h]
    rfl
  sum_shown := by
    have hhistory : s.var.snapshot.history = (History.ofStack stack).toList :=
      congrArg History.toList h
    have hne : s.var.snapshot.history ≠ [] := List.cons_ne_nil _ _
    refine ⟨s.var.snapshot.sumText, _, ?_, Snapshot.readSum?_sumText hne, ?_⟩
    · rw [← History.value_ofStack, ← h]
      rfl
    · rw [hhistory]
      exact History.total_toList_ofStack stack
  depth_shown := by
    have hdepth : s.var.snapshot.depth = stack.length + 1 := by
      rw [← History.depth_ofStack, ← h]
      exact s.var.history.length_toList
    rw [← hdepth]
    rfl
  step_shown := by
    have hposition : s.position = stack.length := by
      rw [position, Variable.depth, h, History.depth_ofStack, Nat.add_sub_cancel]
    rw [← hposition]
    rfl
  depth_le_total := Nat.succ_le_succ hlength
  length_rows := by
    rw [Changes.length_rows, ← History.depth_ofStack, ← h]
    exact s.var.history.length_toList
  newest_shown := by
    have hhistory : s.var.snapshot.history = (History.ofStack stack).toList :=
      congrArg History.toList h
    obtain ⟨delta, hrow⟩ := Changes.filter_marker_rows_of_stack hhistory
    refine ⟨_, hrow, rfl, Int32.toInt_toInt64 _, ?_⟩
    rw [← Int32.toInt_toInt64 stack.current]
    exact ChangeRow.texts_line _
  told := htold

/-- **All panes tell the same story.** Whatever happens to a new traced session in whatever order,
and so throughout its loop, the variable pane, the status bar, the rows of the history and the last
step in the log tell of one value and one depth, the value and depth of the variable. -/
theorem oneStory_of_moments (name : String) (targets : List Int32) :
    let start := Stepper.new (.create name true .empty) targets
    (∀ ms, let s := start.undergoAll ms
      s.OneStory s.var.history.value s.var.depth) ∧
      ∀ os, let s := start.run os
        s.OneStory s.var.history.value s.var.depth := by
  intro start
  have hmoments : ∀ ms, (start.undergoAll ms).OneStory (start.undergoAll ms).var.history.value
      (start.undergoAll ms).var.depth := by
    intro ms
    obtain ⟨p, hp⟩ := (StandsAt.new name true .empty targets).exists_undergoAll ms
    obtain ⟨os, hos⟩ := start.performs_undergoAll ms
    have hnew : start.var.history = .ofStack [] := Variable.history_create name true Trace.empty
    have hhistory := (Variable.performAll_of_history hnew os).2.1
    rw [← hos] at hhistory
    -- The script has the room for the stack, and the log ends with what has left it.
    have hstack : ValueStack.after [] os = scriptStack targets p :=
      History.ofStack_injective (hhistory.symm.trans hp.history_eq)
    have hlength : (ValueStack.after [] os).length ≤ (start.undergoAll ms).targets.length := by
      rw [hstack, length_scriptStack hp.le_length, hp.targets_eq]
      exact hp.le_length
    have htold := Variable.lastStep?_performAll_create name os
    have hvar : ((Variable.create name true Trace.empty).performAll os).2 =
        (start.undergoAll ms).var := hos.symm
    rw [hvar] at htold
    have hvalue : (start.undergoAll ms).var.history.value = (ValueStack.after [] os).current := by
      rw [hhistory, History.value_ofStack]
    have hdepth : (start.undergoAll ms).var.depth = (ValueStack.after [] os).length + 1 := by
      rw [Variable.depth, hhistory, History.depth_ofStack]
    rw [hvalue, hdepth]
    exact oneStory_of_history hhistory hlength htold
  refine ⟨hmoments, ?_⟩
  intro os
  obtain ⟨ms, hms⟩ := start.exists_undergoAll_run os
  rw [hms]
  exact hmoments ms

end Stepper

end Backstep
