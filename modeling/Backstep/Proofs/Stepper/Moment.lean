import Backstep.Stepper.Session

/-!
# Moments of a session

A session is a loop of turns, and each turn is up to three things in a row: a draw, a tick, an
input. Taken one at a time and in any order they are the moments of a session. Whatever every
moment keeps is kept by every run of moments, and so by the loop, whose turns are such runs.
-/

namespace Backstep

/-- The least that can happen to a session. -/
inductive Moment
  | input (input : Input)
  /-- A tick of playback is due. -/
  | tick
  /-- The screen is drawn at a size. -/
  | draw (size : Size)
  deriving DecidableEq

namespace Stepper

def undergo (s : Stepper) : Moment → Stepper
  | .input i => s.receive i
  | .tick => s.tick
  | .draw size => s.settle size

def undergoAll (s : Stepper) (ms : List Moment) : Stepper := ms.foldl undergo s

@[simp] theorem undergoAll_nil (s : Stepper) : s.undergoAll [] = s := rfl

@[simp] theorem undergoAll_cons (s : Stepper) (m : Moment) (ms : List Moment) :
    s.undergoAll (m :: ms) = (s.undergo m).undergoAll ms := rfl

theorem undergoAll_append (s : Stepper) (ms ns : List Moment) :
    s.undergoAll (ms ++ ns) = (s.undergoAll ms).undergoAll ns := List.foldl_append

/-! ## The loop goes through moments -/

/-- The moments of a turn that is not the last. -/
def turnMoments (size : Size) (due : Bool) (input : Option Input) : List Moment :=
  .draw size :: ((if due then [.tick] else []) ++ (input.map Moment.input).toList)

/-- In a session that is not to end a turn goes through its moments. -/
theorem turn_eq_undergoAll {s : Stepper} (hquit : s.quit = false) (size : Size) (due : Bool)
    (input : Option Input) : s.turn size due input = s.undergoAll (turnMoments size due input) := by
  have hshown : ¬ (s.settle size).quit = true := Bool.not_eq_true _ ▸ hquit
  rw [turn, if_neg hshown]
  cases due <;> cases input <;> rfl

theorem exists_undergoAll_turn (size : Size) (due : Bool) (input : Option Input) (s : Stepper) :
    ∃ ms, s.turn size due input = s.undergoAll ms := by
  cases hquit : s.quit with
  | true =>
    have hshown : (s.settle size).quit = true := hquit
    refine ⟨[.draw size], ?_⟩
    rw [turn, if_pos hshown]
    rfl
  | false => exact ⟨turnMoments size due input, turn_eq_undergoAll hquit size due input⟩

/-- Turns around an occurrence are moments too. -/
theorem exists_undergoAll_meet (size : Size) (s : Stepper) (o : Occurrence) :
    ∃ ms, s.meet size o = s.undergoAll ms := by
  cases o with
  | input i =>
    obtain ⟨ms, hms⟩ := exists_undergoAll_turn size false (some i) s
    obtain ⟨ns, hns⟩ := exists_undergoAll_turn size i.isPlayKey none (s.undergoAll ms)
    refine ⟨ms ++ ns ++ [.draw size], ?_⟩
    rw [undergoAll_append, undergoAll_append, ← hns, ← hms]
    rfl
  | tick =>
    obtain ⟨ms, hms⟩ := exists_undergoAll_turn size true none s
    refine ⟨ms ++ [.draw size], ?_⟩
    rw [undergoAll_append, ← hms]
    rfl
  | redraw => exact ⟨[.draw size], rfl⟩

/-- The moments around an occurrence. The key that starts playback brings the first tick. -/
def meetMoments (size : Size) : Occurrence → List Moment
  | .input i => [.draw size, .input i, .draw size] ++ (if i.isPlayKey then [.tick] else []) ++
      [.draw size]
  | .tick => [.draw size, .tick, .draw size]
  | .redraw => [.draw size]

/-- In a session that is not to end the turns around an occurrence go through its moments. -/
theorem meet_eq_undergoAll {s : Stepper} (hquit : s.quit = false) (size : Size) (o : Occurrence) :
    s.meet size o = s.undergoAll (meetMoments size o) := by
  cases o with
  | input i =>
    rw [meet, takeInput, turn_eq_undergoAll hquit]
    by_cases hplay : i.isPlayKey = true
    · have htoggle : i = .press (.char ' ') := eq_of_beq hplay
      subst htoggle
      have hgoes : (s.undergoAll (turnMoments size false (some (.press (.char ' '))))).quit
          = false := by
        change (s.settle size).togglePlay.quit = false
        rw [togglePlay]
        split <;> exact hquit
      rw [turn_eq_undergoAll hgoes]
      rfl
    · rw [Bool.not_eq_true] at hplay
      simp [meetMoments, turnMoments, turn, undergo, hplay]
  | tick =>
    rw [meet, takeTick, turn_eq_undergoAll hquit]
    rfl
  | redraw => rfl

/-- A whole session is a run of moments. -/
theorem exists_undergoAll_run (s : Stepper) (os : List (Size × Occurrence)) :
    ∃ ms, s.run os = s.undergoAll ms := by
  induction os generalizing s with
  | nil => exact ⟨[], rfl⟩
  | cons o os ih =>
    obtain ⟨ms, hms⟩ := exists_undergoAll_meet o.1 s o.2
    obtain ⟨ns, hns⟩ := ih (s.undergoAll ms)
    refine ⟨ms ++ ns, ?_⟩
    rw [undergoAll_append, ← hns, ← hms]
    rfl

end Stepper

end Backstep
