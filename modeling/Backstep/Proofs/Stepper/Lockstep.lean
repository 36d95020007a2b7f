import Backstep.Proofs.Stepper.Moment

/-!
# Sessions in lockstep

A command reads little of a session: the next target, the name of the variable, whether playback
runs. Two sessions that agree in these, and in all that small steps make of them, go on to agree
through every command. So to compare two sessions it is enough to look at the small steps; from
there on a relation is carried through commands, ticks and the loop for all comparisons alike.
-/

namespace Backstep.Stepper

/-- Sessions that are related by `R` agree in all that commands read, and the small steps that
commands are made of keep the relation. -/
structure Lockstep (R : Stepper → Stepper → Prop) : Prop where
  targets_eq : ∀ {s t}, R s t → s.targets = t.targets
  next?_eq : ∀ {s t}, R s t → s.next? = t.next?
  name_eq : ∀ {s t}, R s t → s.var.name = t.var.name
  playing_eq : ∀ {s t}, R s t → s.playing = t.playing
  quit_eq : ∀ {s t}, R s t → s.quit = t.quit
  withStatus : ∀ {s t}, R s t → ∀ status : Status, R { s with status } { t with status }
  withPlaying : ∀ {s t}, R s t → ∀ playing : Bool, R { s with playing } { t with playing }
  toQuit : ∀ {s t}, R s t → R { s with quit := true } { t with quit := true }
  switchFocus : ∀ {s t}, R s t →
    R { s with focus := s.focus.other } { t with focus := t.focus.other }
  scroll : ∀ {s t}, R s t → ∀ move, R (s.scroll move) (t.scroll move)
  assign : ∀ {s t}, R s t → ∀ v, R (s.assign v) (t.assign v)
  back : ∀ {s t}, R s t → R s.back t.back
  jumpToStart : ∀ {s t}, R s t → R s.jumpToStart t.jumpToStart

namespace Lockstep

variable {R : Stepper → Stepper → Prop} {s t : Stepper}

/-! ## Commands -/

theorem advanceUpTo (h : Lockstep R) (n : Nat) (hst : R s t) :
    (s.advanceUpTo n).1 = (t.advanceUpTo n).1 ∧ R (s.advanceUpTo n).2 (t.advanceUpTo n).2 := by
  induction n generalizing s t with
  | zero => exact ⟨rfl, hst⟩
  | succ n ih =>
    rw [Stepper.advanceUpTo, Stepper.advanceUpTo, advance?, advance?, h.next?_eq hst]
    cases t.next? with
    | none => exact ⟨rfl, hst⟩
    | some v =>
      obtain ⟨hcount, hrest⟩ := ih (h.assign hst v)
      exact ⟨congrArg (· + 1) hcount, hrest⟩

theorem forward (h : Lockstep R) (hst : R s t) : R s.forward t.forward := by
  rw [Stepper.forward, Stepper.forward, h.next?_eq hst, h.name_eq hst]
  cases t.next? with
  | none => exact h.withStatus hst _
  | some v => exact h.withStatus (h.assign hst v) _

theorem jumpToEnd (h : Lockstep R) (hst : R s t) : R s.jumpToEnd t.jumpToEnd := by
  rw [Stepper.jumpToEnd, Stepper.jumpToEnd, h.targets_eq hst]
  exact h.withStatus (h.advanceUpTo _ hst).2 _

theorem togglePlay (h : Lockstep R) (hst : R s t) : R s.togglePlay t.togglePlay := by
  rw [Stepper.togglePlay, Stepper.togglePlay, h.playing_eq hst]
  split
  · exact h.withPlaying (h.withStatus hst .paused) false
  · exact h.withPlaying (h.withStatus hst .playing) true

/-- **Every command** keeps the relation. -/
theorem perform (h : Lockstep R) (hst : R s t) (c : Command) : R (s.perform c) (t.perform c) := by
  have hstopped : R s.stopped t.stopped := h.withPlaying hst false
  cases c with
  | quit => exact h.toQuit hst
  | advance n =>
    obtain ⟨hcount, hrest⟩ := h.advanceUpTo n hstopped
    change R { (s.stopped.advanceUpTo n).2 with status := .advanced _ }
      { (t.stopped.advanceUpTo n).2 with status := .advanced _ }
    rw [hcount]
    exact h.withStatus hrest _
  | switchFocus => exact h.switchFocus hst
  | back => exact h.back hstopped
  | forward => exact h.forward hstopped
  | scrollUp => exact h.scroll hst _
  | scrollDown => exact h.scroll hst _
  | togglePlay => exact h.togglePlay hst
  | jumpToEnd => exact h.jumpToEnd hstopped
  | jumpToStart => exact h.jumpToStart hstopped

theorem tick (h : Lockstep R) (hst : R s t) : R s.tick t.tick := by
  rw [Stepper.tick, Stepper.tick, advance?, advance?, h.playing_eq hst, h.next?_eq hst]
  split
  · cases t.next? with
    | none => exact h.withPlaying (h.withStatus hst .complete) false
    | some v => exact h.withStatus (h.assign hst v) .playing
  · exact hst

theorem receive (h : Lockstep R) (hst : R s t) (i : Input) : R (s.receive i) (t.receive i) := by
  cases i with
  | press key =>
    rw [Stepper.receive, Stepper.receive, press, press]
    cases key.command? with
    | none => exact hst
    | some c => exact h.perform hst c
  | bounce => exact hst
  | noise => exact hst

/-! ## The loop -/

section Loop

variable {size₁ size₂ : Size}

/-- Turns keep the relation, if the draws that they start with do. -/
theorem turn (h : Lockstep R) (hdraw : ∀ {s t}, R s t → R (s.settle size₁) (t.settle size₂))
    (hst : R s t) (due : Bool) (input : Option Input) :
    R (s.turn size₁ due input) (t.turn size₂ due input) := by
  have hshown := hdraw hst
  rw [Stepper.turn, Stepper.turn, h.quit_eq hshown]
  split
  · exact hshown
  · have hplayed : R (if due then (s.settle size₁).tick else s.settle size₁)
        (if due then (t.settle size₂).tick else t.settle size₂) := by
      split
      · exact h.tick hshown
      · exact hshown
    cases input with
    | none => exact hplayed
    | some i => exact h.receive hplayed i

theorem meet (h : Lockstep R) (hdraw : ∀ {s t}, R s t → R (s.settle size₁) (t.settle size₂))
    (hst : R s t) (o : Occurrence) : R (s.meet size₁ o) (t.meet size₂ o) := by
  cases o with
  | input i =>
    exact hdraw (h.turn hdraw (h.turn hdraw hst false (some i)) i.isPlayKey none)
  | tick => exact hdraw (h.turn hdraw hst true none)
  | redraw => exact hdraw hst

end Loop

end Lockstep

end Backstep.Stepper
