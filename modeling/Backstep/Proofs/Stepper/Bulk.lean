import Backstep.Proofs.Stepper.Draw

/-!
# Keys for many steps

Digits, the enter key and the backspace key each stand for a row of arrow keys. They go through
loops of their own, which stop at the end of the script, run on to it, or undo until nothing is
left; but a session cannot be told from one that got the row, except by its status: the variable,
each line of the trace and both scroll offsets are the same. That holds for the keys alone and in
the loop, where a row of keys is drawn in between and a single key is not.
-/

namespace Backstep

namespace Stepper

/-! ## Sessions but for the status -/

/-- The second session is the first one, perhaps with another status. -/
def SameButStatus (s t : Stepper) : Prop := ∃ status, t = { s with status }

namespace SameButStatus

variable {s t u : Stepper}

theorem refl (s : Stepper) : SameButStatus s s := ⟨s.status, rfl⟩

theorem symm (h : SameButStatus s t) : SameButStatus t s := by
  obtain ⟨status, rfl⟩ := h
  exact ⟨s.status, rfl⟩

theorem trans (hst : SameButStatus s t) (htu : SameButStatus t u) : SameButStatus s u := by
  obtain ⟨status, rfl⟩ := hst
  obtain ⟨status, rfl⟩ := htu
  exact ⟨status, rfl⟩

/-- No offset depends on the status. -/
theorem settle (h : SameButStatus s t) (size : Size) :
    SameButStatus (s.settle size) (t.settle size) := by
  obtain ⟨status, rfl⟩ := h
  exact ⟨status, rfl⟩

end SameButStatus

/-- Pressing `bulk` leads where pressing `single` `n` times does, but for the status: when the keys
are handled, and when they go through the loop at one size of the screen. -/
def OneFor (s : Stepper) (bulk single : Key) (n : Nat) : Prop :=
  SameButStatus (s.press bulk) ((press · single)^[n] s) ∧
    ∀ size, SameButStatus (s.takeInput size (.press bulk))
      ((takeInput size (.press single))^[n] s)

/-! ## Steps forwards -/

section Forwards

variable {s : Stepper}

theorem press_right_of_some {v : Int32} (h : s.next? = some v) :
    s.press .right = { s with
      var := s.var.assign v
      traceScroll := Page.farthest
      playing := false
      status := .assigned s.var.name v } := by
  have hnext : s.stopped.next? = some v := h
  change s.stopped.forward = _
  rw [forward, hnext]
  rfl

theorem press_right_of_none (h : s.next? = none) :
    s.press .right = { s with playing := false, status := .pastEnd } := by
  have hnext : s.stopped.next? = none := h
  change s.stopped.forward = _
  rw [forward, hnext]
  rfl

theorem advanceUpTo_of_none (h : s.next? = none) (n : Nat) : s.advanceUpTo n = (0, s) := by
  cases n with
  | zero => rfl
  | succ n => rw [advanceUpTo, advance?, h, Option.map_none]

theorem snd_advanceUpTo_of_some {v : Int32} (h : s.next? = some v) (n : Nat) :
    (s.advanceUpTo (n + 1)).2 = ((s.assign v).advanceUpTo n).2 := by
  rw [advanceUpTo, advance?, h, Option.map_some]

/-- Steps do not look at the status. -/
theorem sameButStatus_advanceUpTo (n : Nat) (s : Stepper) (status : Status) :
    SameButStatus (s.advanceUpTo n).2 ({ s with status }.advanceUpTo n).2 := by
  induction n generalizing s with
  | zero => exact ⟨status, rfl⟩
  | succ n ih =>
    have hnext : { s with status }.next? = s.next? := rfl
    cases h : s.next? with
    | none =>
      rw [advanceUpTo_of_none h, advanceUpTo_of_none (hnext.trans h)]
      exact ⟨status, rfl⟩
    | some v =>
      rw [snd_advanceUpTo_of_some h, snd_advanceUpTo_of_some (hnext.trans h)]
      exact ih (s.assign v)

/-- A row of steps forwards is a jump of as many steps; those beyond the end set the status. -/
theorem sameButStatus_iterate_right (n : Nat) (s : Stepper) :
    SameButStatus (s.stopped.advanceUpTo n).2 ((press · .right)^[n] s.stopped) := by
  induction n generalizing s with
  | zero => exact .refl _
  | succ n ih =>
    rw [Function.iterate_succ_apply]
    cases h : s.stopped.next? with
    | none =>
      -- The jump is over, but the row goes on and is refused once for each key that is left.
      have hend : { s with status := .pastEnd }.stopped.next? = none := h
      have hrow := ih { s with status := .pastEnd }
      rw [advanceUpTo_of_none hend] at hrow
      rw [advanceUpTo_of_none h, press_right_of_none h]
      exact .trans ⟨.pastEnd, rfl⟩ hrow
    | some v =>
      rw [snd_advanceUpTo_of_some h, press_right_of_some h]
      exact (sameButStatus_advanceUpTo n _ _).trans
        (ih { s.stopped.assign v with status := .assigned s.var.name v })

/-- The first key of the row stops playback, so a row looks no different if it was stopped. -/
theorem sameButStatus_row_right (n : Nat) (s : Stepper) :
    SameButStatus (s.stopped.advanceUpTo (n + 1)).2 ((press · .right)^[n + 1] s) := by
  have hstopped : (press · .right)^[n + 1] s.stopped = (press · .right)^[n + 1] s := by
    rw [Function.iterate_succ_apply, Function.iterate_succ_apply]
    rfl
  rw [← hstopped]
  exact sameButStatus_iterate_right (n + 1) s

/-- In the loop the draws between steps forwards do not show: the history grows, so an offset in
range stays in range. -/
theorem iterate_takeInput_right (size : Size) (hquit : s.quit = false)
    (hscroll : s.historyScroll ≤ s.hiddenEntries size) (n : Nat) :
    (takeInput size (.press .right))^[n + 1] s =
      ((press · .right)^[n + 1] s).settle size := by
  have hkey : Key.right ≠ .char ' ' := by decide
  -- A draw before a step forwards would only cut an offset that is out of range, and none is.
  refine iterate_takeInput_press size hkey
    (P := fun t => t.quit = false ∧ t.historyScroll ≤ t.hiddenEntries size)
    ?_ (fun _ ht => ht.1) ?_ ⟨hquit, hscroll⟩ n
  · rintro t ⟨hquit, hscroll⟩
    cases h : t.next? with
    | none =>
      rw [press_right_of_none h]
      exact ⟨hquit, hscroll⟩
    | some v =>
      rw [press_right_of_some h]
      refine ⟨hquit, Nat.le_trans hscroll ?_⟩
      have hdepth : t.var.depth ≤ (t.var.assign v).depth := by
        rw [Variable.depth_assign]
        exact Nat.le_succ _
      exact Nat.sub_le_sub_right hdepth _
  · rintro t ⟨-, hscroll⟩
    cases h : t.next? with
    | none =>
      have hdrawn : (t.settle size).next? = none := h
      rw [press_right_of_none h, press_right_of_none hdrawn]
      exact settle_settle size { t with playing := false, status := .pastEnd }
    | some v =>
      have hdrawn : (t.settle size).next? = some v := h
      rw [press_right_of_some h, press_right_of_some hdrawn, settle_eq size t,
        Nat.min_eq_left hscroll]

end Forwards

/-! ## Steps backwards -/

section Backwards

variable {s : Stepper}

theorem press_left (s : Stepper) :
    s.press .left = { s with
      var := s.var.unassign.2
      traceScroll := Page.farthest
      playing := false
      status := match s.var.unassign.1 with
        | .ok () => .steppedBack
        | .error cause => .pastStart cause } := rfl

/-- A row of steps backwards unassigns as often. -/
theorem sameButStatus_iterate_left (n : Nat) (s : Stepper) :
    SameButStatus
      { s with
        var := (fun x => x.unassign.2)^[n + 1] s.var
        traceScroll := Page.farthest
        playing := false }
      ((press · .left)^[n + 1] s) := by
  induction n generalizing s with
  | zero => exact ⟨_, press_left s⟩
  | succ n ih =>
    rw [Function.iterate_succ_apply (press · .left)]
    exact .trans ⟨_, rfl⟩ (ih (s.press .left))

/-- In the loop the draws between steps backwards do not show: as the history shrinks, the last
draw brings its offset at least as far down as the draws before it. -/
theorem iterate_takeInput_left (size : Size) (hquit : s.quit = false) (n : Nat) :
    (takeInput size (.press .left))^[n + 1] s =
      ((press · .left)^[n + 1] s).settle size := by
  have hkey : Key.left ≠ .char ' ' := by decide
  refine iterate_takeInput_press size hkey (P := fun t => t.quit = false)
    (fun _ ht => ht) (fun _ ht => ht) ?_ hquit n
  intro t _
  -- Here an offset may well be cut, by the draw before the step or else by the one after it.
  have hhidden : (t.press .left).hiddenEntries size ≤ t.hiddenEntries size :=
    Nat.sub_le_sub_right t.var.depth_unassign_le _
  have hmin : min (t.settle size).historyScroll ((t.press .left).hiddenEntries size) =
      min t.historyScroll ((t.press .left).hiddenEntries size) := by
    rw [historyScroll_settle, Nat.min_assoc, Nat.min_eq_right hhidden]
  rw [settle_eq, settle_eq size (t.press .left)]
  exact congrArg (fun scroll => { t.press .left with
    historyScroll := scroll
    traceScroll := TracePane.offset (Layout.ofSize size).trace t.var.unassign.2.sink
      Page.farthest }) hmin

end Backwards

/-! ## From keys to the loop -/

/-- What the keys alone do in every session with this variable and script is what they do in the
loop, if a row needs no draws between its keys once the session is drawn. -/
theorem oneFor_of_press {s : Stepper} {bulk single : Key} {n : Nat}
    (hbulk : bulk ≠ .char ' ') (hsingle : single ≠ .char ' ')
    (hrow : ∀ size t, t.quit = false → t.historyScroll ≤ t.hiddenEntries size →
      (takeInput size (.press single))^[n + 1] t = ((press · single)^[n + 1] t).settle size)
    (hpress : ∀ t, t.var = s.var → t.targets = s.targets →
      SameButStatus (t.press bulk) ((press · single)^[n + 1] t)) :
    s.OneFor bulk single (n + 1) := by
  refine ⟨hpress s rfl rfl, fun size => ?_⟩
  rw [takeInput_press size hbulk]
  by_cases hquit : s.quit = true
  · rw [if_pos hquit, iterate_takeInput_of_quit size hsingle hquit]
    exact .refl _
  · have hloop : (takeInput size (.press single))^[n + 1] s =
        (takeInput size (.press single))^[n + 1] (s.settle size) := by
      rw [Function.iterate_succ_apply, Function.iterate_succ_apply, takeInput_settle]
    have hscroll : (s.settle size).historyScroll ≤ (s.settle size).hiddenEntries size := by
      rw [historyScroll_settle]
      exact Nat.min_le_right _ _
    rw [if_neg hquit, hloop, hrow size (s.settle size) (Bool.eq_false_iff.2 hquit) hscroll]
    exact (hpress (s.settle size) rfl rfl).settle size

/-- A key that jumps forwards stands for as many steps, if it jumps as far in every session with
this variable and script. -/
theorem oneFor_right_of_jump {s : Stepper} {bulk : Key} {n : Nat} (hbulk : bulk ≠ .char ' ')
    (hjump : ∀ t : Stepper, t.var = s.var → t.targets = s.targets →
      SameButStatus (t.press bulk) (t.stopped.advanceUpTo (n + 1)).2) :
    s.OneFor bulk .right (n + 1) := by
  refine oneFor_of_press hbulk (by decide)
    (fun size _ hquit hscroll => iterate_takeInput_right size hquit hscroll n) ?_
  intro t hvar htargets
  exact (hjump t hvar htargets).trans (sameButStatus_row_right n t)

/-- A digit key is the jump of its number. -/
theorem command?_digitChar : ∀ d < 10, 1 ≤ d →
    Key.command? (.char d.digitChar) = some (.advance d) ∧ Key.char d.digitChar ≠ .char ' ' := by
  decide

theorem oneFor_digit (s : Stepper) {d : Nat} (hpos : 1 ≤ d) (hlast : d ≤ 9) :
    s.OneFor (.char d.digitChar) .right d := by
  obtain ⟨hcommand, hkey⟩ := command?_digitChar d (Nat.lt_succ_of_le hlast) hpos
  obtain ⟨n, rfl⟩ := Nat.exists_eq_add_of_le' hpos
  refine oneFor_right_of_jump hkey ?_
  intro t _ _
  rw [press, hcommand]
  exact .symm ⟨.advanced _, rfl⟩

end Stepper

namespace StandsAt

variable {targets : List Int32} {p : Nat} {s : Stepper}

open Stepper (SameButStatus)

/-- A jump ends with the script. -/
theorem advanceUpTo_eq_of_le (h : StandsAt targets p s) {n : Nat} (hn : targets.length - p ≤ n) :
    s.advanceUpTo n = s.advanceUpTo (targets.length - p) := by
  induction n generalizing p s with
  | zero => rw [Nat.le_zero.1 hn]
  | succ n ih =>
    by_cases hp : p < targets.length
    · have hleft : targets.length - p = targets.length - (p + 1) + 1 := by omega
      rw [hleft, Stepper.advanceUpTo, Stepper.advanceUpTo, h.advance?_of_lt hp]
      dsimp only
      rw [ih (h.assign hp) (by omega)]
    · have hend : targets.length - p = 0 := Nat.sub_eq_zero_of_le (Nat.not_lt.1 hp)
      rw [hend, Stepper.advanceUpTo, Stepper.advanceUpTo, h.advance?_of_not_lt hp]

theorem oneFor_enter (h : StandsAt targets p s) {k : Nat} (hk : max 1 (targets.length - p) ≤ k) :
    s.OneFor .enter .right k := by
  have hleft : targets.length - p ≤ k := Nat.le_trans (Nat.le_max_right _ _) hk
  obtain ⟨n, rfl⟩ := Nat.exists_eq_add_of_le' (Nat.le_trans (Nat.le_max_left _ _) hk)
  refine Stepper.oneFor_right_of_jump (by decide) ?_
  intro t hvar htargets
  have ht : StandsAt targets p t.stopped := h.congr hvar htargets
  have hall : targets.length - p ≤ t.targets.length := by
    rw [htargets, h.targets_eq]
    exact Nat.sub_le _ _
  rw [ht.advanceUpTo_eq_of_le hleft, ← ht.advanceUpTo_eq_of_le hall]
  exact .symm ⟨.atEnd, rfl⟩

theorem oneFor_backspace (h : StandsAt targets p s) (hp : 1 ≤ p) :
    s.OneFor .backspace .left p := by
  obtain ⟨n, rfl⟩ := Nat.exists_eq_add_of_le' hp
  refine Stepper.oneFor_of_press (by decide) (by decide)
    (fun size _ hquit _ => Stepper.iterate_takeInput_left size hquit n) ?_
  intro t hvar htargets
  have hrewind : t.var.rewind.2 = (fun x => x.unassign.2)^[n + 1] t.var := by
    have ht : StandsAt targets (n + 1) t := h.congr hvar htargets
    rw [Variable.snd_rewind_of_history ht.history_eq, length_scriptStack h.le_length]
  have hjump : SameButStatus (t.press .backspace)
      { t with
        var := (fun x => x.unassign.2)^[n + 1] t.var
        traceScroll := Page.farthest
        playing := false } := by
    rw [← hrewind]
    exact ⟨t.status, rfl⟩
  exact hjump.trans (Stepper.sameButStatus_iterate_left n t)

end StandsAt

/-! ## All keys for many steps -/

/-- What the keys for many steps stand for in a session. -/
structure BulkKeys (targets : List Int32) (s : Stepper) : Prop where
  digit : ∀ d, 1 ≤ d → d ≤ 9 → s.OneFor (.char d.digitChar) .right d
  /-- As many steps as are left, at least one, and any number beyond. -/
  enter : ∀ k, max 1 (targets.length - s.position) ≤ k → s.OneFor .enter .right k
  /-- The jump to the end assigns what is left and no more, whatever bounds it from above. -/
  enter_loop : ∀ bound, targets.length - s.position ≤ bound →
    (s.stopped.advanceUpTo bound).1 = targets.length - s.position ∧
      (s.stopped.advanceUpTo bound).2.next? = none ∧
      s.press .enter = { (s.stopped.advanceUpTo bound).2 with status := .atEnd }
  backspace : 1 ≤ s.position → s.OneFor .backspace .left s.position

theorem StandsAt.bulkKeys {targets : List Int32} {p : Nat} {s : Stepper}
    (h : StandsAt targets p s) : BulkKeys targets s := by
  have hposition := h.position_eq
  subst hposition
  refine ⟨fun _ => s.oneFor_digit, fun _ => h.oneFor_enter, fun bound hbound => ?_,
    h.oneFor_backspace⟩
  obtain ⟨hcount, hstands⟩ := h.stopped.advanceUpTo bound
  refine ⟨hcount.trans (Nat.min_eq_right hbound), ?_, ?_⟩
  · rw [hstands.next?_eq, List.getElem?_eq_none]
    omega
  · have hall : targets.length - s.position ≤ s.targets.length := by
      rw [h.targets_eq]
      exact Nat.sub_le _ _
    rw [h.stopped.advanceUpTo_eq_of_le hbound, ← h.stopped.advanceUpTo_eq_of_le hall]
    rfl

/-- **A key for many steps cannot be told from a row of keys for one step.** Whatever has happened
to a new session, each of them leads where the row does, but for the status: to the same variable
and place, line for line the same trace, and the same offsets, also when both are drawn as they go
through the loop. -/
theorem bulkKeys_of_moments (name : String) (traced : Bool) (sink : Trace) (targets : List Int32) :
    let start := Stepper.new (.create name traced sink) targets
    (∀ ms, BulkKeys targets (start.undergoAll ms)) ∧ ∀ os, BulkKeys targets (start.run os) := by
  intro start
  have hmoments : ∀ ms, BulkKeys targets (start.undergoAll ms) := by
    intro ms
    obtain ⟨p, hp⟩ := (StandsAt.new name traced sink targets).exists_undergoAll ms
    exact hp.bulkKeys
  refine ⟨hmoments, fun os => ?_⟩
  obtain ⟨ms, hms⟩ := start.exists_undergoAll_run os
  rw [hms]
  exact hmoments ms

/-- Behind the second of three targets, scrolled down and playing: nine steps are one, the end is
any number of steps away, the start is two. -/
theorem bulkKeys_while_playing :
    let s := (Stepper.new (.create "x" true .empty) [5, -7, 5]).undergoAll
      [.input (.press (.char '2')), .input (.press .down), .input (.press (.char ' '))]
    s.position = 2 ∧ s.OneFor (.char '9') .right 9 ∧ s.OneFor .enter .right 1 ∧
      s.OneFor .enter .right 4 ∧ s.OneFor .backspace .left 2 := by
  intro s
  have hposition : s.position = 2 := by decide
  have h : BulkKeys [5, -7, 5] s := (bulkKeys_of_moments "x" true .empty [5, -7, 5]).1 _
  have henter : ∀ k, 1 ≤ k → s.OneFor .enter .right k := by
    intro k hk
    apply h.enter
    rw [hposition]
    exact hk
  have hback : s.OneFor .backspace .left s.position := h.backspace (by rw [hposition]; decide)
  rw [hposition] at hback
  exact ⟨hposition, h.digit 9 (by decide) (by decide), henter 1 (by decide), henter 4 (by decide),
    hback⟩

end Backstep
