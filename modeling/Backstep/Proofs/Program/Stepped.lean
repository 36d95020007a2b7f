import Backstep.Proofs.Program.Log
import Backstep.Proofs.Stepper.Bulk

/-!
# A printed walk, stepped through

A printed walk goes through its targets in two loops; a session finds the next target from the depth
of its history, one key at a time. Stepped to the end of its script and back, a session shows at
every step the line that the walk prints there, and its trace log has the lines of the events whose
records the walk reports, up to the read with which the walk ends. Whatever else is asked of two
variables of one name, a trace log and a journal tell of the same events.
-/

namespace Backstep

open History (ofStack)

/-! ## Unassigning in a row -/

namespace Variable

variable {σ : Type} [Sink σ]

/-- Unassigning in a row drops as many of the latest values. -/
theorem history_iterate_unassign {x : Variable σ} {s : ValueStack} (hx : x.history = ofStack s)
    (j : Nat) : ((fun y => y.unassign.2)^[j] x).history = ofStack (s.drop j) := by
  induction j generalizing x s with
  | zero => exact hx
  | succ j ih =>
    rw [Function.iterate_succ_apply, ih (history_unassign_of_history hx), List.drop_tail]

theorem name_iterate_unassign (x : Variable σ) (j : Nat) :
    ((fun y => y.unassign.2)^[j] x).name = x.name := by
  induction j generalizing x with
  | zero => rfl
  | succ j ih => rw [Function.iterate_succ_apply, ih, name_unassign]

end Variable

namespace Stepper

/-! ## Ways to take the arrow keys -/

/-- A way to take keys in which the arrow keys step the variable of a session that goes on. -/
structure TakesArrows (take : Key → Stepper → Stepper) : Prop where
  var_right : ∀ s v, s.quit = false → s.next? = some v → (take .right s).var = s.var.assign v
  targets_right : ∀ s, s.quit = false → (take .right s).targets = s.targets
  quit_right : ∀ s, s.quit = false → (take .right s).quit = false
  var_left : ∀ s, s.quit = false → (take .left s).var = s.var.unassign.2
  quit_left : ∀ s, s.quit = false → (take .left s).quit = false

theorem targets_press_right (s : Stepper) : (s.press .right).targets = s.targets := by
  cases h : s.next? with
  | none => rw [press_right_of_none h]
  | some v => rw [press_right_of_some h]

theorem quit_press_right (s : Stepper) : (s.press .right).quit = s.quit := by
  cases h : s.next? with
  | none => rw [press_right_of_none h]
  | some v => rw [press_right_of_some h]

/-- Keys may be handled one after the other, with no draw between them. -/
theorem takesArrows_press : TakesArrows fun key s => s.press key where
  var_right := by
    intro s v _ hnext
    rw [press_right_of_some hnext]
  targets_right := fun s _ => targets_press_right s
  quit_right := fun s hquit => (quit_press_right s).trans hquit
  var_left := fun s _ => by rw [press_left]
  quit_left := fun s hquit => by rw [press_left, hquit]

/-- Keys may go through the loop. -/
theorem takesArrows_takeInput (size : Size) :
    TakesArrows fun key s => s.takeInput size (.press key) := by
  have htake : ∀ {key : Key} {s : Stepper}, key ≠ .char ' ' → s.quit = false →
      s.takeInput size (.press key) = ((s.settle size).press key).settle size := by
    intro key s hkey hquit
    rw [takeInput_press size hkey, hquit]
    rfl
  constructor
  · intro s v hquit hnext
    have hdrawn : (s.settle size).next? = some v := hnext
    rw [htake (by decide) hquit, press_right_of_some hdrawn]
    rfl
  · intro s hquit
    rw [htake (by decide) hquit]
    exact targets_press_right (s.settle size)
  · intro s hquit
    rw [htake (by decide) hquit]
    exact (quit_press_right (s.settle size)).trans hquit
  · intro s hquit
    rw [htake (by decide) hquit]
    rfl
  · intro s hquit
    rw [htake (by decide) hquit]
    exact hquit

namespace TakesArrows

variable {take : Key → Stepper → Stepper} {targets : List Int32} {start : Stepper}

/-- Steps forwards assign the targets in order. -/
theorem iterate_right (h : TakesArrows take) (hhistory : start.var.history = ofStack [])
    (htargets : start.targets = targets) (hquit : start.quit = false) {k : Nat}
    (hk : k ≤ targets.length) :
    ((take .right)^[k] start).quit = false ∧ ((take .right)^[k] start).targets = targets ∧
      ((take .right)^[k] start).var = (targets.take k).foldl Variable.assign start.var := by
  induction k with
  | zero => exact ⟨hquit, htargets, rfl⟩
  | succ k ih =>
    obtain ⟨hquit, htargets, hvar⟩ := ih (Nat.le_of_succ_le hk)
    rw [Function.iterate_succ_apply']
    generalize (take .right)^[k] start = t at hquit htargets hvar
    have hstands : StandsAt targets k t := by
      refine ⟨htargets, Nat.le_of_succ_le hk, ?_⟩
      rw [hvar, Variable.history_foldl_assign hhistory, List.append_nil, scriptStack]
    have hnext : t.next? = some targets[k] := by
      rw [hstands.next?_eq, List.getElem?_eq_getElem hk]
    refine ⟨h.quit_right t hquit, (h.targets_right t hquit).trans htargets, ?_⟩
    rw [h.var_right t _ hquit hnext, hvar, List.take_add_one, List.getElem?_eq_getElem hk,
      Option.toList_some, List.foldl_append]
    rfl

/-- Steps backwards unassign. -/
theorem iterate_left (h : TakesArrows take) (hquit : start.quit = false) (j : Nat) :
    ((take .left)^[j] start).quit = false ∧
      ((take .left)^[j] start).var = (fun x => x.unassign.2)^[j] start.var := by
  induction j with
  | zero => exact ⟨hquit, rfl⟩
  | succ j ih =>
    rw [Function.iterate_succ_apply', Function.iterate_succ_apply']
    exact ⟨h.quit_left _ ih.1, (h.var_left _ ih.1).trans (congrArg (·.unassign.2) ih.2)⟩

end TakesArrows

/-! ## Through a walk and back -/

/-- The arrow keys, taken one by one, lead a session forwards through `n` targets and backwards
again: at each step it shows the line of a walk, and in the end its trace log has the lines of the
events of the walk, but for the read that the walk ends with. -/
structure FollowsWalk (take : Key → Stepper → Stepper) (name : String) (n : Nat) (start : Stepper)
    (lines : List String) (records : List Record) : Prop where
  out : ∀ k ≤ n, lines[k]? = some ((take .right)^[k] start).var.line
  back : ∀ j ≤ n, lines[n + j]? = some ((take .left)^[j] ((take .right)^[n] start)).var.line
  log : ∃ events : List Event,
    ((take .left)^[n] ((take .right)^[n] start)).var.sink.lines = events.map Event.line ∧
      records = (events ++ [Event.read name 0]).map Record.ofEvent

end Stepper

namespace Program

open Stepper (TakesArrows FollowsWalk)

section Back

variable (name : String) (targets : List Int32)

theorem history_foldl_assign_create (done : List Int32) :
    (done.foldl Variable.assign (.create name true Trace.empty)).history =
      ofStack done.reverse := by
  have hx : (Variable.create name true Trace.empty).history = ofStack [] :=
    Variable.history_create name true Trace.empty
  rw [Variable.history_foldl_assign hx, List.append_nil]

/-- Some steps back from the end of a script the line is that of as many steps before the end. -/
theorem line_iterate_unassign (j : Nat) :
    ((fun x => x.unassign.2)^[j]
      (targets.foldl Variable.assign (.create name true Trace.empty))).line =
      ((targets.take (targets.length - j)).foldl Variable.assign
        (.create name true Trace.empty)).line := by
  have hback := Variable.history_iterate_unassign (history_foldl_assign_create name targets) j
  rw [List.drop_reverse] at hback
  rw [Walk.line_of_history hback, Variable.name_iterate_unassign,
    Walk.line_of_history (history_foldl_assign_create name _), Variable.name_foldl_assign,
    Variable.name_foldl_assign]

/-- The trace log of a variable that was taken through targets and back. -/
theorem lines_iterate_unassign :
    ((fun x => x.unassign.2)^[targets.length]
      (targets.foldl Variable.assign (.create name true Trace.empty))).sink.lines =
      (Walk.events name targets).map Event.line := by
  have hrewind := Variable.snd_rewind_of_history (history_foldl_assign_create name targets)
  rw [List.length_reverse] at hrewind
  rw [← hrewind, ← Walk.snd_performAll_map_assign, ← Walk.runEvents_map_assign_rewind,
    ← Variable.lines_performAll_create, Variable.performAll_append]
  rfl

end Back

theorem followsWalk_of_takesArrows {take : Key → Stepper → Stepper} (h : TakesArrows take)
    (request : CommandLine) {env : Environment} (htraced : env.tracing = some "1") :
    FollowsWalk take request.name request.targets.length (session request env)
      (print request env).stdout (records request env) := by
  obtain ⟨-, hmirror⟩ := print_mirror request env
  have hvar : (session request env).var = .create request.name true Trace.empty := by
    rw [session, (Tracing.enabled_ofValue _).2 htraced]
    rfl
  have hhistory : (session request env).var.history = ofStack [] := by
    rw [hvar]
    exact Variable.history_create _ _ _
  have htargets : (session request env).targets = request.targets := rfl
  obtain ⟨hquit, -, hend⟩ := h.iterate_right hhistory htargets rfl (Nat.le_refl _)
  rw [List.take_length, hvar] at hend
  have hback := fun j => (h.iterate_left hquit j).2
  rw [hend] at hback
  refine ⟨?_, ?_, Walk.events request.name request.targets, ?_, records_of_traced request htraced⟩
  · intro k hk
    obtain ⟨-, -, hout⟩ := h.iterate_right hhistory htargets rfl hk
    rw [hmirror.out k hk true Trace.empty, hout, hvar]
  · intro j hj
    rw [hmirror.back j hj, hmirror.out _ (Nat.sub_le _ j) true Trace.empty, hback,
      line_iterate_unassign]
  · rw [hback, lines_iterate_unassign]

/-- **A walk is the same printed and stepped, and the same in lines and in records.** A traced
session that is taken through its script by the arrow keys, and back again, shows the lines that a
walk prints and keeps the lines of the events that the walk reports, also when the keys go through
the loop. More generally, after the same operations on two variables of one name a trace log and a
journal have the line and the record of the same events, one for one; each tells the other, and a
warning is a refusal. -/
theorem session_followsWalk_print :
    (∀ (request : CommandLine) (env : Environment), env.tracing = some "1" →
      FollowsWalk (fun key s => s.press key) request.name request.targets.length
          (session request env) (print request env).stdout (records request env) ∧
        ∀ size, FollowsWalk (fun key s => s.takeInput size (.press key)) request.name
          request.targets.length (session request env) (print request env).stdout
          (records request env)) ∧
      ∀ (name : String) (os : List Operation),
        let x := ((Variable.create name true Trace.empty).performAll os).2
        let y := ((Variable.create name true Journal.empty).performAll os).2
        Variable.KeepAlike x y ∧ ∀ o, ∃ told, Variable.TellAlike x y o told := by
  refine ⟨?_, Variable.keepAlike_performAll⟩
  intro request env htraced
  exact ⟨followsWalk_of_takesArrows Stepper.takesArrows_press request htraced,
    fun size => followsWalk_of_takesArrows (Stepper.takesArrows_takeInput size) request htraced⟩

/-- Both ends of the range, on a screen that has no room for anything but the status bar. -/
theorem session_followsWalk_print_extremes :
    let request : CommandLine := ⟨true, "x to 5", [Int32.minValue, Int32.maxValue, 0]⟩
    let env : Environment := ⟨some "1", none⟩
    FollowsWalk (fun key s => s.takeInput ⟨3, 1⟩ (.press key)) "x to 5" 3 (session request env)
      (print request env).stdout (records request env) := by
  intro request env
  exact (session_followsWalk_print.1 request env rfl).2 ⟨3, 1⟩

end Program

end Backstep
