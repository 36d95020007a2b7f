import Backstep.Stepper.Session
import Backstep.Proofs.Screen.Repaint
import Backstep.Proofs.Stepper.Draw
import Backstep.Proofs.Stepper.Truthful

/-!
# The end of a session

A session ends by a flag that the loop looks at once in every turn, after the draw and before all
else. One key sets it and nothing unsets it. So the turn that sees it is a draw and no more, and as
drawing twice is drawing once, everything that might still come to the loop finds the session and
its terminal as that draw has left them, whether playback runs or not.
-/

namespace Backstep

/-! ## The keys that end a session -/

/-- Whether an input is a key that ends the session. -/
def Input.isQuitKey (i : Input) : Bool := i = .press (.char 'q') ∨ i = .press (.char 'Q')

def Moment.isQuitKey : Moment → Bool
  | .input i => i.isQuitKey
  | .tick | .draw _ => false

def Occurrence.isQuitKey : Occurrence → Bool
  | .input i => i.isQuitKey
  | .tick | .redraw => false

/-- No other key stands for the end of the session. -/
theorem Key.command?_eq_quit_iff (key : Key) :
    key.command? = some .quit ↔ key = .char 'q' ∨ key = .char 'Q' := by
  constructor
  · intro h
    unfold command? at h
    split at h <;> simp_all
  · rintro (rfl | rfl) <;> rfl

theorem Input.isQuitKey_press (key : Key) :
    (Input.press key).isQuitKey = decide (key.command? = some .quit) := by
  simp [isQuitKey, Key.command?_eq_quit_iff]

namespace Stepper

variable (s : Stepper)

/-! ## What sets the flag -/

@[simp] theorem quit_advanceUpTo (n : Nat) : (s.advanceUpTo n).2.quit = s.quit :=
  advanceUpTo_induction (P := fun t => t.quit = s.quit) (fun _ _ h => h) n rfl

theorem quit_forward : s.forward.quit = s.quit := by
  rw [forward]
  split <;> rfl

theorem quit_scroll (move : Nat → Nat) : (s.scroll move).quit = s.quit := by
  rw [scroll]
  split <;> rfl

theorem quit_tick : s.tick.quit = s.quit := by
  rw [tick, advance?]
  split
  · cases s.next? <;> rfl
  · rfl

/-- One command sets the flag, and none unsets it. -/
theorem quit_perform (c : Command) : (s.perform c).quit = (s.quit || c == .quit) := by
  cases c with
  | quit => exact (Bool.or_true _).symm
  | advance n => exact (s.stopped.quit_advanceUpTo n).trans (Bool.or_false _).symm
  | switchFocus => exact (Bool.or_false _).symm
  | back => exact (Bool.or_false _).symm
  | forward => exact s.stopped.quit_forward.trans (Bool.or_false _).symm
  | scrollUp => exact (s.quit_scroll _).trans (Bool.or_false _).symm
  | scrollDown => exact (s.quit_scroll _).trans (Bool.or_false _).symm
  | togglePlay =>
    rw [perform, togglePlay]
    split <;> exact (Bool.or_false _).symm
  | jumpToEnd => exact (s.stopped.quit_advanceUpTo _).trans (Bool.or_false _).symm
  | jumpToStart => exact (Bool.or_false _).symm

theorem quit_receive (i : Input) : (s.receive i).quit = (s.quit || i.isQuitKey) := by
  cases i with
  | press key =>
    rw [receive, press, Input.isQuitKey_press]
    cases key.command? with
    | none => exact (Bool.or_false _).symm
    | some c =>
      refine (s.quit_perform c).trans ?_
      simp [beq_eq_decide]
  | bounce => exact (Bool.or_false _).symm
  | noise => exact (Bool.or_false _).symm

/-- The key that ends the session does nothing else to it. -/
theorem receive_of_isQuitKey {i : Input} (h : i.isQuitKey) :
    s.receive i = { s with quit := true } := by
  cases i with
  | press key =>
    rw [Input.isQuitKey_press, decide_eq_true_eq] at h
    rw [receive, press, h]
    rfl
  | bounce => cases h
  | noise => cases h

theorem quit_undergo (m : Moment) : (s.undergo m).quit = (s.quit || m.isQuitKey) := by
  cases m with
  | input i => exact s.quit_receive i
  | tick => exact s.quit_tick.trans (Bool.or_false _).symm
  | draw size => exact (Bool.or_false _).symm

/-- **A session is to end exactly when a key has asked for it.** -/
theorem quit_undergoAll (ms : List Moment) :
    (s.undergoAll ms).quit = (s.quit || ms.any Moment.isQuitKey) := by
  induction ms generalizing s with
  | nil => exact (Bool.or_false _).symm
  | cons m ms ih => rw [undergoAll_cons, ih, quit_undergo, List.any_cons, Bool.or_assoc]

/-- Of all that a turn does only its input may set the flag. -/
theorem quit_turn (size : Size) (due : Bool) (input : Option Input) :
    (s.turn size due input).quit = (s.quit || input.any Input.isQuitKey) := by
  have hshown : (s.settle size).quit = s.quit := rfl
  rw [turn, hshown]
  by_cases hquit : s.quit = true
  · rw [if_pos hquit, hshown, hquit, Bool.true_or]
  · rw [if_neg hquit]
    have hplayed : (if due then (s.settle size).tick else s.settle size).quit = s.quit := by
      split
      · exact (s.settle size).quit_tick
      · rfl
    cases input with
    | none => exact hplayed.trans (Bool.or_false _).symm
    | some i =>
      refine (quit_receive _ i).trans ?_
      rw [hplayed]
      rfl

theorem quit_meet (size : Size) (o : Occurrence) :
    (s.meet size o).quit = (s.quit || o.isQuitKey) := by
  cases o with
  | input i =>
    change ((s.turn size false (some i)).turn size i.isPlayKey none).quit = _
    rw [quit_turn, quit_turn]
    exact Bool.or_false _
  | tick => exact s.quit_turn size true none
  | redraw => exact (Bool.or_false _).symm

theorem quit_run (os : List (Size × Occurrence)) :
    (s.run os).quit = (s.quit || os.any fun o => o.2.isQuitKey) := by
  induction os generalizing s with
  | nil => exact (Bool.or_false _).symm
  | cons o os ih =>
    have hrun : s.run (o :: os) = (s.meet o.1 o.2).run os := rfl
    rw [hrun, ih, quit_meet, List.any_cons, Bool.or_assoc]

/-! ## Drawing twice -/

variable (size : Size)

@[simp] theorem screen_settle : (s.settle size).screen size = s.screen size := by
  rw [screen, drawing_settle, screen]

/-- A draw moves the offsets, and drawing at the same size again changes nothing and shows the same,
in the frame and on the terminal. -/
structure DrawsOnce : Prop where
  only_offsets : ∃ historyScroll traceScroll,
    s.settle size = { s with historyScroll, traceScroll }
  settle_again : (s.settle size).settle size = s.settle size
  screen_again : (s.settle size).screen size = s.screen size
  shown_again : ∀ t : Terminal, t.Faithful size.width size.height →
    proceed size (proceed size (s, t) .redraw) .redraw = proceed size (s, t) .redraw

theorem proceed_redraw (t : Terminal) :
    proceed size (s, t) .redraw = (s.settle size, t.repaint (s.screen size)) := rfl

theorem drawsOnce : s.DrawsOnce size where
  only_offsets := ⟨_, _, rfl⟩
  settle_again := settle_settle size s
  screen_again := s.screen_settle size
  shown_again := by
    intro t ht
    have hsized : (s.screen size).Sized size.width size.height := Drawing.sized_rows _ _ _
    rw [proceed_redraw, proceed_redraw, settle_settle, screen_settle, ht.repaint_repaint hsized]

/-! ## After the end -/

variable {s}

/-- The turn that sees the flag is a draw. -/
theorem turn_of_quit (hquit : s.quit = true) (due : Bool) (input : Option Input) :
    s.turn size due input = s.settle size := by
  have hshown : (s.settle size).quit = true := hquit
  rw [turn, if_pos hshown]

theorem meet_of_quit (hquit : s.quit = true) (o : Occurrence) : s.meet size o = s.settle size := by
  have hshown : (s.settle size).quit = true := hquit
  cases o with
  | input i =>
    rw [meet, takeInput, turn_of_quit size hquit, turn_of_quit size hshown, settle_settle,
      settle_settle]
  | tick => rw [meet, takeTick, turn_of_quit size hquit, settle_settle]
  | redraw => rfl

/-- All that is drawn from then on is one screen. -/
theorem eq_screen_of_mem_frames (hquit : s.quit = true) (o : Occurrence) {f : Frame}
    (hf : f ∈ s.frames size o) : f = s.screen size := by
  have hshown : (s.settle size).quit = true := hquit
  obtain ⟨u, hu, rfl⟩ := List.mem_map.1 hf
  have hsame : u.settle size = s.settle size := by
    cases o with
    | input i =>
      rw [drawn, turn_of_quit size hquit, turn_of_quit size hshown] at hu
      simp only [settle_settle, List.mem_cons, List.not_mem_nil, or_false] at hu
      rcases hu with rfl | rfl | rfl
      · rfl
      · exact settle_settle size s
      · exact settle_settle size s
    | tick =>
      rw [drawn, turn_of_quit size hquit] at hu
      simp only [List.mem_cons, List.not_mem_nil, or_false] at hu
      rcases hu with rfl | rfl
      · rfl
      · exact settle_settle size s
    | redraw => rw [List.mem_singleton.1 hu]
  rw [← u.screen_settle, hsame, s.screen_settle]

/-- A terminal that shows a frame is not changed by any number of the same frames. -/
theorem repaintAll_of_forall_eq {t : Terminal} {f : Frame}
    (ht : t.Faithful size.width size.height) (hf : f.Sized size.width size.height)
    {fs : List Frame} (hfs : ∀ g ∈ fs, g = f) : (t.repaint f).repaintAll fs = t.repaint f := by
  induction fs with
  | nil => rfl
  | cons g fs ih =>
    rw [Terminal.repaintAll, List.foldl_cons, hfs g List.mem_cons_self, ht.repaint_repaint hf]
    exact ih fun h hh => hfs h (List.mem_cons_of_mem g hh)

/-- The session is over: the next draw is the last thing that changes it, and on a screen of the
same size no key, no due tick and no further draw changes the session or the terminal. -/
structure HasEnded (s : Stepper) (size : Size) : Prop where
  /-- The loop draws and stops, whatever is due and whatever input waits. -/
  turn_eq : ∀ due input, s.turn size due input = s.settle size
  turns_eq : ∀ turns : List (Bool × Option Input),
    turns.foldl (fun t turn => t.turn size turn.1 turn.2) (s.settle size) = s.settle size
  proceed_eq : ∀ t : Terminal, t.Faithful size.width size.height → ∀ os : List Occurrence,
    os.foldl (proceed size) (proceed size (s, t) .redraw) = proceed size (s, t) .redraw

theorem hasEnded_of_quit (hquit : s.quit = true) : s.HasEnded size where
  turn_eq := turn_of_quit size hquit
  turns_eq := by
    intro turns
    have hshown : (s.settle size).quit = true := hquit
    induction turns with
    | nil => rfl
    | cons turn turns ih =>
      rw [List.foldl_cons, turn_of_quit size hshown, settle_settle]
      exact ih
  proceed_eq := by
    intro t ht os
    have hshown : (s.settle size).quit = true := hquit
    have hsized : (s.screen size).Sized size.width size.height := Drawing.sized_rows _ _ _
    induction os with
    | nil => rfl
    | cons o os ih =>
      have hframes : ∀ f ∈ (s.settle size).frames size o, f = s.screen size := by
        intro f hf
        rw [eq_screen_of_mem_frames size hshown o hf, screen_settle]
      have hone : proceed size (proceed size (s, t) .redraw) o = proceed size (s, t) .redraw := by
        rw [proceed_redraw, proceed, meet_of_quit size hshown, settle_settle,
          repaintAll_of_forall_eq size ht hsized hframes]
      rw [List.foldl_cons, hone]
      exact ih

/-- **The end of a session is final.** Drawing twice is drawing once, in any session and on any
screen. Whatever happens to a session, it is to end exactly when a key has asked for it, and that
key does nothing else. From then on nothing changes behind the next draw. -/
theorem drawsOnce_and_hasEnded (s : Stepper) :
    (∀ size, s.DrawsOnce size) ∧
      (∀ ms, (s.undergoAll ms).quit = (s.quit || ms.any Moment.isQuitKey)) ∧
      (∀ os, (s.run os).quit = (s.quit || os.any fun o => o.2.isQuitKey)) ∧
      (∀ i : Input, i.isQuitKey → s.receive i = { s with quit := true }) ∧
      (s.quit = true → ∀ size, s.HasEnded size) :=
  ⟨s.drawsOnce, s.quit_undergoAll, s.quit_run, fun _ => s.receive_of_isQuitKey,
    fun hquit size => hasEnded_of_quit size hquit⟩

/-- Told to end while playback runs: with a tick due and a key waiting, the next turn is a draw,
which brings the offset of the trace back into range. -/
theorem hasEnded_while_playing :
    let s := (Stepper.new (.create "x" true .empty) [5, 7]).undergoAll
      [.input (.press (.char ' ')), .tick, .input (.press (.char 'Q'))]
    s.playing ∧ s.traceScroll = Page.farthest ∧ (s.settle ⟨80, 24⟩).traceScroll = 0 ∧
      Input.isQuitKey (.press (.char 'q')) ∧
      s.receive (.press (.char 'q')) = { s with quit := true } ∧
      s.quit = true ∧ s.turn ⟨80, 24⟩ true (some (.press .right)) = s.settle ⟨80, 24⟩ ∧
      s.HasEnded ⟨9, 2⟩ := by
  intro s
  obtain ⟨-, -, -, hkey, hended⟩ := drawsOnce_and_hasEnded s
  have hquit : s.quit = true := by decide
  have hpress : Input.isQuitKey (.press (.char 'q')) := by decide
  exact ⟨by decide, by decide, by decide, hpress, hkey _ hpress, hquit,
    (hended hquit ⟨80, 24⟩).turn_eq true (some (.press .right)), hended hquit ⟨9, 2⟩⟩

end Stepper

end Backstep
