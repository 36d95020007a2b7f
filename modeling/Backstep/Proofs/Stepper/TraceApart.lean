import Backstep.Proofs.Stepper.Lockstep
import Backstep.Proofs.Variable.Alike
import Mathlib.Data.List.Forall2

/-!
# Sessions apart from their traces

A session shows the lines of its variable's trace and scrolls through them, but it never acts on
them. So two sessions that differ in nothing but the trace, in what is traced and in how far the
pane of the trace is scrolled, do the same at every step and never come to differ in anything else:
each command, tick and draw keeps them the same but for the trace, and therefore the loop does.
-/

namespace Backstep.Stepper

/-- The second session is the first one, perhaps with another trace, scrolled to another place. -/
def SameButTrace (s t : Stepper) : Prop :=
  ∃ var traceScroll, s.var.Alike var ∧ t = { s with var, traceScroll }

namespace SameButTrace

variable {s t : Stepper}

theorem new (name : String) (traced₁ traced₂ : Bool) (sink₁ sink₂ : Trace) (targets : List Int32) :
    SameButTrace (.new (.create name traced₁ sink₁) targets)
      (.new (.create name traced₂ sink₂) targets) :=
  ⟨_, _, .create name traced₁ traced₂ sink₁ sink₂, rfl⟩

/-! ## What the two show -/

theorem var_alike (h : SameButTrace s t) : s.var.Alike t.var := by
  obtain ⟨y, n, hy, rfl⟩ := h
  exact hy

theorem position_eq (h : SameButTrace s t) : s.position = t.position :=
  congrArg (· - 1) h.var_alike.depth_eq

theorem targets_eq (h : SameButTrace s t) : s.targets = t.targets := by
  obtain ⟨y, n, hy, rfl⟩ := h
  rfl

theorem focus_eq (h : SameButTrace s t) : s.focus = t.focus := by
  obtain ⟨y, n, hy, rfl⟩ := h
  rfl

theorem historyScroll_eq (h : SameButTrace s t) : s.historyScroll = t.historyScroll := by
  obtain ⟨y, n, hy, rfl⟩ := h
  rfl

theorem quit_eq (h : SameButTrace s t) : s.quit = t.quit := by
  obtain ⟨y, n, hy, rfl⟩ := h
  rfl

theorem status_eq (h : SameButTrace s t) : s.status = t.status := by
  obtain ⟨y, n, hy, rfl⟩ := h
  rfl

theorem playing_eq (h : SameButTrace s t) : s.playing = t.playing := by
  obtain ⟨y, n, hy, rfl⟩ := h
  rfl

theorem next?_eq (h : SameButTrace s t) : s.next? = t.next? := by
  rw [next?, next?, h.position_eq, h.targets_eq]

/-! ## Steps -/

theorem withStatus (h : SameButTrace s t) (status : Status) :
    SameButTrace { s with status } { t with status } := by
  obtain ⟨y, n, hy, rfl⟩ := h
  exact ⟨y, n, hy, rfl⟩

theorem withPlaying (h : SameButTrace s t) (playing : Bool) :
    SameButTrace { s with playing } { t with playing } := by
  obtain ⟨y, n, hy, rfl⟩ := h
  exact ⟨y, n, hy, rfl⟩

theorem assign (h : SameButTrace s t) (v : Int32) : SameButTrace (s.assign v) (t.assign v) := by
  obtain ⟨y, n, hy, rfl⟩ := h
  exact ⟨y.assign v, Page.farthest, hy.assign v, rfl⟩

theorem back (h : SameButTrace s t) : SameButTrace s.back t.back := by
  obtain ⟨y, n, hy, rfl⟩ := h
  have hfst := hy.fst_unassign_eq
  have hsnd := hy.unassign
  rw [Stepper.back, Stepper.back]
  dsimp only
  generalize s.var.unassign = r at hfst hsnd ⊢
  generalize y.unassign = q at hfst hsnd ⊢
  obtain ⟨outcome, x'⟩ := r
  obtain ⟨_, y'⟩ := q
  cases hfst
  exact ⟨y', Page.farthest, hsnd, rfl⟩

theorem jumpToStart (h : SameButTrace s t) : SameButTrace s.jumpToStart t.jumpToStart := by
  have hjump : ∀ u : Stepper, u.jumpToStart = { u with
      var := u.var.rewind.2
      traceScroll := Page.farthest
      status := .atStart u.var.rewind.1 } := fun _ => rfl
  obtain ⟨y, n, hy, rfl⟩ := h
  refine ⟨y.rewind.2, Page.farthest, hy.rewind.2, ?_⟩
  rw [hjump, hjump, hy.rewind.1]

/-- The offset of the trace may be moved, but no other by what it was. -/
theorem scroll (h : SameButTrace s t) (move : Nat → Nat) :
    SameButTrace (s.scroll move) (t.scroll move) := by
  obtain ⟨y, n, hy, rfl⟩ := h
  rw [Stepper.scroll, Stepper.scroll]
  cases s.focus with
  | history => exact ⟨y, n, hy, rfl⟩
  | trace => exact ⟨y, move n, hy, rfl⟩

/-- **No command looks at the trace.** -/
theorem lockstep : Lockstep SameButTrace where
  targets_eq := targets_eq
  next?_eq := next?_eq
  name_eq h := h.var_alike.name_eq
  playing_eq := playing_eq
  quit_eq := quit_eq
  withStatus := withStatus
  withPlaying := withPlaying
  toQuit := by
    rintro s _ ⟨y, n, hy, rfl⟩
    exact ⟨y, n, hy, rfl⟩
  switchFocus := by
    rintro s _ ⟨y, n, hy, rfl⟩
    exact ⟨y, n, hy, rfl⟩
  scroll := scroll
  assign := assign
  back := back
  jumpToStart := jumpToStart

/-- A draw settles the offset of the history by the variable alone. -/
theorem settle (h : SameButTrace s t) (size : Size) :
    SameButTrace (s.settle size) (t.settle size) := by
  obtain ⟨y, n, hy, rfl⟩ := h
  refine ⟨y, TracePane.offset (Layout.ofSize size).trace y.sink n, hy, ?_⟩
  rw [Stepper.settle, Stepper.settle, hy.snapshot_eq]

/-! ## Moments and the loop -/

theorem undergo (h : SameButTrace s t) (m : Moment) : SameButTrace (s.undergo m) (t.undergo m) := by
  cases m with
  | input i => exact lockstep.receive h i
  | tick => exact lockstep.tick h
  | draw size => exact h.settle size

theorem undergoAll (h : SameButTrace s t) (ms : List Moment) :
    SameButTrace (s.undergoAll ms) (t.undergoAll ms) := by
  induction ms generalizing s t with
  | nil => exact h
  | cons m ms ih => exact ih (h.undergo m)

theorem turn (h : SameButTrace s t) (size : Size) (due : Bool) (input : Option Input) :
    SameButTrace (s.turn size due input) (t.turn size due input) :=
  lockstep.turn (fun hst => hst.settle size) h due input

theorem meet (h : SameButTrace s t) (size : Size) (o : Occurrence) :
    SameButTrace (s.meet size o) (t.meet size o) :=
  lockstep.meet (fun hst => hst.settle size) h o

/-- **A whole session** goes the same way, whatever is traced. -/
theorem run (h : SameButTrace s t) (os : List (Size × Occurrence)) :
    SameButTrace (s.run os) (t.run os) := by
  induction os generalizing s t with
  | nil => exact h
  | cons o os ih => exact ih (h.meet o.1 o.2)

/-- The sessions that are drawn around an occurrence are the same one by one. -/
theorem drawn (h : SameButTrace s t) (size : Size) (o : Occurrence) :
    List.Forall₂ SameButTrace (s.drawn size o) (t.drawn size o) := by
  cases o with
  | input i =>
    have htaken := h.turn size false (some i)
    exact .cons h (.cons htaken (.cons (htaken.turn size i.isPlayKey none) .nil))
  | tick => exact .cons h (.cons (h.turn size true none) .nil)
  | redraw => exact .cons h .nil

end SameButTrace

end Backstep.Stepper
