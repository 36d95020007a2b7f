import Backstep.Proofs.Stepper.Truthful
import Backstep.Proofs.Variable.Events

/-!
# The operations behind a session

Commands, ticks and draws do a lot of things to a session, but to its variable they do nothing that
the variable has no operation for. So whatever is known of a variable after any run of operations is
known of the variable of a session at every moment, its trace included.
-/

namespace Backstep

namespace Stepper

/-- Some operations lead from the variable of the first session to that of the second. -/
def Performs (s t : Stepper) : Prop := ∃ os, t.var = (s.var.performAll os).2

namespace Performs

variable {s t u : Stepper}

theorem of_var_eq (h : t.var = s.var) : Performs s t := ⟨[], h⟩

theorem trans (hst : Performs s t) (htu : Performs t u) : Performs s u := by
  obtain ⟨os, hos⟩ := hst
  obtain ⟨ps, hps⟩ := htu
  refine ⟨os ++ ps, ?_⟩
  rw [hps, hos, Variable.performAll_append]

/-- What else the two sessions show does not matter. -/
theorem congr (h : Performs s t) (hvar : u.var = t.var) : Performs s u :=
  h.trans (.of_var_eq hvar)

theorem of_perform (o : Operation) (h : t.var = (s.var.perform o).2) : Performs s t := ⟨[o], h⟩

end Performs

/-! ## Steps -/

variable (s : Stepper)

theorem performs_assign (v : Int32) : Performs s (s.assign v) := .of_perform (.assign v) rfl

theorem performs_advanceUpTo (n : Nat) : Performs s (s.advanceUpTo n).2 :=
  advanceUpTo_induction (P := Performs s) (fun t v h => h.trans (t.performs_assign v)) n
    (.of_var_eq rfl)

theorem performs_forward : Performs s s.forward := by
  rw [forward]
  cases s.next? with
  | none => exact .of_var_eq rfl
  | some v => exact (s.performs_assign v).congr rfl

theorem performs_back : Performs s s.back := by
  refine .of_perform .unassign ?_
  rw [Variable.snd_perform_unassign]
  rfl

theorem performs_jumpToEnd : Performs s s.jumpToEnd := (s.performs_advanceUpTo _).congr rfl

theorem performs_jumpToStart : Performs s s.jumpToStart := .of_perform .rewind rfl

theorem performs_tick : Performs s s.tick := by
  rw [tick, advance?]
  by_cases hplay : s.playing = true
  · rw [if_pos hplay]
    cases s.next? with
    | none => exact .of_var_eq rfl
    | some v => exact (s.performs_assign v).congr rfl
  · rw [if_neg hplay]
    exact .of_var_eq rfl

theorem performs_scroll (move : Nat → Nat) : Performs s (s.scroll move) := by
  rw [scroll]
  cases s.focus <;> exact .of_var_eq rfl

/-- **No command does more to the variable than operations do.** -/
theorem performs_perform (c : Command) : Performs s (s.perform c) := by
  cases c with
  | quit => exact .of_var_eq rfl
  | advance n => exact (s.stopped.performs_advanceUpTo n).congr rfl
  | switchFocus => exact .of_var_eq rfl
  | back => exact s.stopped.performs_back
  | forward => exact s.stopped.performs_forward
  | scrollUp => exact s.performs_scroll _
  | scrollDown => exact s.performs_scroll _
  | togglePlay =>
    rw [perform, togglePlay]
    split <;> exact .of_var_eq rfl
  | jumpToEnd => exact s.stopped.performs_jumpToEnd
  | jumpToStart => exact s.stopped.performs_jumpToStart

/-! ## Moments -/

theorem performs_receive (i : Input) : Performs s (s.receive i) := by
  cases i with
  | press key =>
    rw [receive, press]
    cases key.command? with
    | none => exact .of_var_eq rfl
    | some c => exact s.performs_perform c
  | bounce => exact .of_var_eq rfl
  | noise => exact .of_var_eq rfl

theorem performs_undergo (m : Moment) : Performs s (s.undergo m) := by
  cases m with
  | input i => exact s.performs_receive i
  | tick => exact s.performs_tick
  | draw size => exact .of_var_eq rfl

/-- **A session is a run of its variable**, whatever happens to it. -/
theorem performs_undergoAll (ms : List Moment) : Performs s (s.undergoAll ms) := by
  induction ms generalizing s with
  | nil => exact .of_var_eq rfl
  | cons m ms ih => exact (s.performs_undergo m).trans (ih _)

end Stepper

end Backstep
