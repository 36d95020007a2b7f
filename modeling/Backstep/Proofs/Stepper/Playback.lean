import Backstep.Proofs.Stepper.Ending
import Backstep.Proofs.Stepper.Performed
import Backstep.Proofs.Stepper.ViewApart

/-!
# Playback

Playback takes the rest of the script one target at a tick, and the tick that finds none ends it. So
the number of ticks says where playback has come to, and whatever only concerns the view may happen
in between. Every key that moves the variable ends playback, and then ticks do nothing until the
space bar starts it again. The digit `0` is not such a key, it stands for no step.

## Main definitions

* `StaysStopped` — ticks do nothing until the space bar is pressed.
* `Played` — what is kept by every tick of playback, with the number of ticks so far.
* `PlaysOnce` — what a session shows after some ticks of playback.
* `Key.IsStep` — the keys that move the variable.
-/

namespace Backstep

/-! ## The lines that ticks add -/

/-- The lines of the trace that assigning `k` targets behind the first `p` adds. A depth counts the
sentinel and the assignment itself. -/
def assignedLines (name : String) (targets : List Int32) (p k : Nat) : List String :=
  (((targets.drop p).take k).zipIdx (p + 2)).map fun (v, depth) =>
    (Event.assigned name v depth).line

section Lines

variable {name : String} {targets : List Int32} {p k : Nat}

theorem length_assignedLines :
    (assignedLines name targets p k).length = min k (targets.length - p) := by
  simp [assignedLines]

theorem assignedLines_succ (h : p + k < targets.length) :
    assignedLines name targets p (k + 1) = assignedLines name targets p k ++
      [(Event.assigned name targets[p + k] (p + k + 2)).line] := by
  have hlength : ((targets.drop p).take k).length = k := by
    rw [List.length_take, List.length_drop]
    omega
  have hdepth : p + 2 + k = p + k + 2 := by omega
  rw [assignedLines, List.take_add_one, List.getElem?_drop, List.getElem?_eq_getElem h,
    Option.toList_some, List.zipIdx_append, List.map_append, hlength, hdepth]
  rfl

/-- Behind the end of the script there is nothing to assign. -/
theorem assignedLines_of_le (h : targets.length ≤ p + k) :
    assignedLines name targets p (k + 1) = assignedLines name targets p k := by
  have hlength : (targets.drop p).length ≤ k := by
    rw [List.length_drop]
    omega
  rw [assignedLines, assignedLines, List.take_of_length_le hlength,
    List.take_of_length_le (Nat.le_succ_of_le hlength)]

end Lines

/-! ## Stopped playback -/

/-- Playback is stopped: due ticks do nothing, until the space bar is pressed. -/
structure StaysStopped (t : Stepper) : Prop where
  playing_eq : t.playing = false
  tick_eq : t.tick = t
  meet_tick : ∀ size, t.meet size .tick = t.settle size
  restarts : (t.press (.char ' ')).playing = true

namespace Stepper

variable {s : Stepper}

theorem tick_of_not_playing (h : s.playing = false) : s.tick = s := by
  rw [tick, h]
  rfl

theorem staysStopped_of_not_playing (h : s.playing = false) : StaysStopped s where
  playing_eq := h
  tick_eq := tick_of_not_playing h
  meet_tick size := by
    have hshown : (s.settle size).tick = s.settle size := tick_of_not_playing h
    have hturn : s.turn size true none = s.settle size := by
      rw [turn]
      split
      · rfl
      · exact hshown
    rw [meet, takeTick, hturn, settle_settle]
  restarts := by
    change s.togglePlay.playing = true
    rw [togglePlay, h]
    rfl

end Stepper

/-! ## Ticks -/

/-- The later session is where `k` ticks of playback bring the earlier one, which stands behind the
first `p` of its targets. -/
structure Played (s : Stepper) (p k : Nat) (t : Stepper) : Prop
    extends StandsAt s.targets (min (p + k) s.targets.length) t where
  name_eq : t.var.name = s.var.name
  traced_eq : t.var.traced = s.var.traced
  lines_eq : t.var.sink.lines = s.var.sink.lines ++
    if s.var.traced then assignedLines s.var.name s.targets p k else []
  playing_eq : t.playing = decide (k ≤ s.targets.length - p)
  status_eq : t.status = if k ≤ s.targets.length - p then .playing else .complete

namespace Played

variable {s t u : Stepper} {p k : Nat}

/-- What playback starts from. -/
theorem start {name : String} (h : Truthful name s.targets p s) (hplay : s.playing = true) :
    Played s p 0 s where
  toStandsAt := by
    rw [Nat.add_zero, Nat.min_eq_left h.le_length]
    exact h.toStandsAt
  name_eq := rfl
  traced_eq := rfl
  lines_eq := by simp [assignedLines]
  playing_eq := by simp [hplay]
  status_eq := by simpa using h.playing_iff.1 hplay

/-- The view does not matter. -/
theorem congr (h : Played s p k t) (hview : Stepper.SameButView u t) : Played s p k u := by
  obtain ⟨focus, historyScroll, traceScroll, rfl⟩ := hview
  exact ⟨h.toStandsAt.congr rfl rfl, h.name_eq, h.traced_eq, h.lines_eq, h.playing_eq, h.status_eq⟩

/-- A tick that finds a target assigns it. -/
theorem tick_of_lt (h : Played s p k t) (hk : p + k < s.targets.length) :
    Played s p (k + 1) t.tick := by
  have hplace : min (p + k) s.targets.length = p + k := Nat.min_eq_left (Nat.le_of_lt hk)
  have hgoes : k ≤ s.targets.length - p := by omega
  have hgoesOn : k + 1 ≤ s.targets.length - p := by omega
  have hstands : StandsAt s.targets (p + k) t := hplace ▸ h.toStandsAt
  have hplay : t.playing = true := by simpa [hgoes] using h.playing_eq
  have htick : t.tick = { t.assign s.targets[p + k] with status := .playing } := by
    rw [Stepper.tick, if_pos hplay, hstands.advance?_of_lt hk]
  have hlines : (t.var.assign s.targets[p + k]).sink.lines = t.var.sink.lines ++
      if s.var.traced then [(Event.assigned s.var.name s.targets[p + k] (p + k + 2)).line]
        else [] := by
    rw [Variable.sink_assign_of_history hstands.history_eq, Variable.lines_told, h.traced_eq,
      h.name_eq, length_scriptStack hstands.le_length]
    split <;> simp
  rw [htick]
  refine ⟨?_, ?_, ?_, ?_, ?_, ?_⟩
  · rw [← Nat.add_assoc, Nat.min_eq_left hk]
    exact (hstands.assign hk).congr rfl rfl
  · exact (Stepper.name_assign t _).trans h.name_eq
  · exact (Variable.traced_assign t.var _).trans h.traced_eq
  · refine hlines.trans ?_
    rw [h.lines_eq, List.append_assoc, assignedLines_succ hk]
    split <;> simp
  · exact hplay.trans (by simp [hgoesOn])
  · simp [hgoesOn]

/-- The first tick that finds none ends playback. -/
theorem tick_of_eq (h : Played s p k t) (hk : p + k = s.targets.length) :
    t.tick = { t with playing := false, status := .complete } := by
  have hplace : min (p + k) s.targets.length = s.targets.length := by omega
  have hstands : StandsAt s.targets s.targets.length t := hplace ▸ h.toStandsAt
  have hgoes : k ≤ s.targets.length - p := by omega
  have hplay : t.playing = true := by simpa [hgoes] using h.playing_eq
  rw [Stepper.tick, if_pos hplay, hstands.advance?_of_not_lt (Nat.lt_irrefl _)]

/-- Ticks that come later do nothing. -/
theorem staysStopped_of_lt (h : Played s p k t) (hk : s.targets.length - p < k) :
    StaysStopped t := by
  apply Stepper.staysStopped_of_not_playing
  simp [h.playing_eq, hk]

/-- **One tick of playback.** -/
theorem tick (h : Played s p k t) (hp : p ≤ s.targets.length) : Played s p (k + 1) t.tick := by
  by_cases hlt : p + k < s.targets.length
  · exact h.tick_of_lt hlt
  · have hplace : min (p + (k + 1)) s.targets.length = min (p + k) s.targets.length := by omega
    have hlines : t.var.sink.lines = s.var.sink.lines ++
        if s.var.traced then assignedLines s.var.name s.targets p (k + 1) else [] := by
      rw [assignedLines_of_le (Nat.not_lt.1 hlt)]
      exact h.lines_eq
    have hends : ¬ k + 1 ≤ s.targets.length - p := by omega
    by_cases heq : p + k = s.targets.length
    · rw [h.tick_of_eq heq]
      exact ⟨hplace ▸ h.toStandsAt.congr rfl rfl, h.name_eq, h.traced_eq, hlines, by simp [hends],
        by simp [hends]⟩
    · have hended : ¬ k ≤ s.targets.length - p := by omega
      rw [(h.staysStopped_of_lt (Nat.not_le.1 hended)).tick_eq]
      refine ⟨hplace ▸ h.toStandsAt, h.name_eq, h.traced_eq, hlines, ?_, ?_⟩
      · simpa [hends, hended] using h.playing_eq
      · simpa [hends, hended] using h.status_eq

/-! ## Runs of ticks -/

/-- Ticks among moments that only concern the view. -/
theorem undergoAll (h : Played s p k t) (hp : p ≤ s.targets.length) {walk : List Moment}
    (hwalk : ∀ m ∈ walk, m = .tick ∨ m.IsView) :
    Played s p (k + walk.count .tick) (t.undergoAll walk) := by
  induction walk generalizing k t with
  | nil => exact h
  | cons m walk ih =>
    have hrest : ∀ n ∈ walk, n = .tick ∨ n.IsView := fun n hn => hwalk n (List.mem_cons_of_mem m hn)
    rw [Stepper.undergoAll_cons]
    rcases hwalk m List.mem_cons_self with rfl | hview
    · have hcount : k + (.tick :: walk).count .tick = k + 1 + walk.count .tick := by
        rw [List.count_cons_self]
        omega
      rw [hcount]
      exact ih (h.tick hp) hrest
    · have hne : m ≠ .tick := by
        rintro rfl
        exact hview
      rw [List.count_cons_of_ne hne]
      exact ih (h.congr ((Stepper.SameButView.refl t).undergo_left hview)) hrest

/-- A due tick in the loop is one tick, and what only concerns the view is none. -/
theorem meet (h : Played s p k t) (hp : p ≤ s.targets.length) (hquit : t.quit = false)
    (size : Size) {o : Occurrence} (ho : o = .tick ∨ o.IsView) :
    Played s p (k + [o].count .tick) (t.meet size o) := by
  rcases ho with rfl | hview
  · have hwalk : ∀ m ∈ Stepper.meetMoments size .tick, m = .tick ∨ m.IsView := by
      simp [Stepper.meetMoments, Moment.IsView]
    rw [Stepper.meet_eq_undergoAll hquit]
    exact h.undergoAll hp hwalk
  · have hne : o ≠ .tick := by
      rintro rfl
      exact hview
    rw [List.count_cons_of_ne hne]
    exact h.congr ((Stepper.SameButView.refl t).meet_left size hview)

end Played

/-- Looking around does not end a session. -/
theorem Occurrence.isQuitKey_of_isView {o : Occurrence} (ho : o.IsView) : o.isQuitKey = false := by
  cases o with
  | input i =>
    cases i with
    | press key =>
      rw [isQuitKey, Input.isQuitKey_press, decide_eq_false_iff_not]
      exact fun hkey => ho .quit hkey
    | bounce => rfl
    | noise => rfl
  | tick => rfl
  | redraw => rfl

/-- Due ticks in the loop among what only concerns the view. -/
theorem Played.run {s t : Stepper} {p k : Nat} (h : Played s p k t) (hp : p ≤ s.targets.length)
    (hquit : t.quit = false) {os : List (Size × Occurrence)}
    (hos : ∀ o ∈ os, o.2 = .tick ∨ o.2.IsView) :
    Played s p (k + (os.map (·.2)).count .tick) (t.run os) := by
  induction os generalizing k t with
  | nil => exact h
  | cons o os ih =>
    have ho := hos o List.mem_cons_self
    have hgoes : (t.meet o.1 o.2).quit = false := by
      have hkey : o.2.isQuitKey = false := by
        rcases ho with htick | hview
        · rw [htick]
          rfl
        · exact Occurrence.isQuitKey_of_isView hview
      rw [Stepper.quit_meet, hquit, hkey, Bool.or_false]
    have hcount : k + ((o :: os).map (·.2)).count .tick =
        k + [o.2].count .tick + (os.map (·.2)).count .tick := by
      rw [List.map_cons, List.count_cons, List.count_cons, List.count_nil]
      omega
    rw [hcount]
    exact ih (h.meet hp hquit o.1 ho) hgoes fun q hq => hos q (List.mem_cons_of_mem o hq)

/-- What a session shows after `k` ticks of playback. -/
structure PlaysOnce (s : Stepper) (k : Nat) (t : Stepper) : Prop where
  position_eq : t.position = min (s.position + k) s.targets.length
  /-- A traced session has a line for each target, in the order of the script. -/
  lines_eq : t.var.sink.lines = s.var.sink.lines ++
    if s.var.traced then assignedLines s.var.name s.targets s.position k else []
  length_lines : (assignedLines s.var.name s.targets s.position k).length =
    min k (s.targets.length - s.position)
  playing_iff : t.playing ↔ k ≤ s.targets.length - s.position
  message_eq : t.status.message =
    if k ≤ s.targets.length - s.position then "Playing..." else "Playback complete"
  /-- The tick behind the last target ends playback, and does nothing else. -/
  ends : k = s.targets.length - s.position →
    t.tick = { t with playing := false, status := .complete }
  /-- Further ticks do nothing. -/
  stays : s.targets.length - s.position < k → StaysStopped t

theorem Played.playsOnce {s t : Stepper} {k : Nat} (h : Played s s.position k t)
    (hp : s.position ≤ s.targets.length) : PlaysOnce s k t where
  position_eq := h.position_eq
  lines_eq := h.lines_eq
  length_lines := length_assignedLines
  playing_iff := by simp [h.playing_eq]
  message_eq := by
    rw [h.status_eq]
    split <;> rfl
  ends hk := h.tick_of_eq (by omega)
  stays := h.staysStopped_of_lt

/-! ## Keys that end playback -/

/-- Whether playback runs behind a command, when it ran before or not. -/
def Command.plays (playing : Bool) : Command → Bool
  | .togglePlay => !playing
  | .quit | .switchFocus | .scrollUp | .scrollDown => playing
  | .advance _ | .back | .forward | .jumpToEnd | .jumpToStart => false

/-- The keys that move the variable. -/
def Key.IsStep : Key → Prop
  | .left | .right | .enter | .backspace => True
  | .char c => '1' ≤ c ∧ c ≤ '9'
  | .tab | .up | .down | .other => False

theorem Key.eq_space_of_command? {key : Key} (h : key.command? = some .togglePlay) :
    key = .char ' ' := by
  unfold command? at h
  split at h <;> simp_all

namespace Stepper

/-- **What a command does to playback.** -/
theorem playing_perform (s : Stepper) (c : Command) :
    (s.perform c).playing = c.plays s.playing := by
  have hscroll : ∀ move, (s.scroll move).playing = s.playing := by
    intro move
    obtain ⟨historyScroll, traceScroll, h⟩ := s.rest_scroll move
    rw [h]
  cases c with
  | quit => rfl
  | advance n => exact playing_advanceUpTo s.stopped n
  | switchFocus => rfl
  | back => rfl
  | forward => exact playing_forward s.stopped
  | scrollUp => exact hscroll _
  | scrollDown => exact hscroll _
  | togglePlay =>
    rw [perform, togglePlay]
    cases s.playing <;> rfl
  | jumpToEnd => exact playing_advanceUpTo s.stopped _
  | jumpToStart => rfl

theorem playing_press_of_isStep (s : Stepper) {key : Key} (hkey : key.IsStep) :
    (s.press key).playing = false := by
  cases key with
  | left | right | enter | backspace => exact s.playing_perform _
  | char c =>
    have hq : c ≠ 'q' := by rintro rfl; exact absurd hkey.2 (by decide)
    have hQ : c ≠ 'Q' := by rintro rfl; exact absurd hkey.2 (by decide)
    have hspace : c ≠ ' ' := by rintro rfl; exact absurd hkey.1 (by decide)
    have hdigit : Key.steps? c = some (c.toNat - '0'.toNat) := if_pos hkey
    have hcommand : Key.command? (.char c) = some (.advance (c.toNat - '0'.toNat)) := by
      simp [Key.command?, hdigit]
    rw [press, hcommand]
    exact s.playing_perform _
  | _ => exact hkey.elim

variable {s : Stepper}

/-- No key but the space bar starts playback. -/
theorem playing_perform_of_ne (h : s.playing = false) {c : Command} (hc : c ≠ .togglePlay) :
    (s.perform c).playing = false := by
  rw [playing_perform, h]
  cases c with
  | togglePlay => exact absurd rfl hc
  | _ => rfl

theorem playing_undergo_of_ne (h : s.playing = false) {m : Moment}
    (hm : m ≠ .input (.press (.char ' '))) : (s.undergo m).playing = false := by
  cases m with
  | input i =>
    cases i with
    | press key =>
      rw [undergo, receive, press]
      cases hkey : key.command? with
      | none => exact h
      | some c =>
        refine playing_perform_of_ne h ?_
        rintro rfl
        exact hm (congrArg (Moment.input ∘ Input.press) (Key.eq_space_of_command? hkey))
    | bounce => exact h
    | noise => exact h
  | tick =>
    rw [undergo, tick_of_not_playing h]
    exact h
  | draw size => exact h

theorem playing_undergoAll_of_notMem (h : s.playing = false) {ms : List Moment}
    (hms : .input (.press (.char ' ')) ∉ ms) : (s.undergoAll ms).playing = false := by
  induction ms generalizing s with
  | nil => exact h
  | cons m ms ih =>
    rw [List.mem_cons, not_or] at hms
    exact ih (playing_undergo_of_ne h (Ne.symm hms.1)) hms.2

theorem playing_run_of_forall_ne (h : s.playing = false) {os : List (Size × Occurrence)}
    (hos : ∀ o ∈ os, o.2 ≠ .input (.press (.char ' '))) : (s.run os).playing = false := by
  induction os generalizing s with
  | nil => exact h
  | cons o os ih =>
    obtain ⟨size, o⟩ := o
    have ho : o ≠ .input (.press (.char ' ')) := hos (size, o) List.mem_cons_self
    refine ih (s := s.meet size o) ?_ fun q hq => hos q (List.mem_cons_of_mem _ hq)
    cases hquit : s.quit with
    | true =>
      rw [meet_of_quit size hquit]
      exact h
    | false =>
      rw [meet_eq_undergoAll hquit]
      refine playing_undergoAll_of_notMem h ?_
      cases o with
      | input i =>
        have hi : i ≠ .press (.char ' ') := fun hi => ho (congrArg Occurrence.input hi)
        simp [meetMoments, Input.isPlayKey, hi, Ne.symm hi]
      | tick => simp [meetMoments]
      | redraw => simp [meetMoments]

/-- **Playback goes through the script once and stops.** When a new session has come to play, every
due tick takes one target, also among what only concerns the view, until the script is at its end
and one more tick ends playback. A key that moves the variable stops it at any time, and it stays
stopped until the space bar is pressed. So it is with the moments of a session and with what its
loop meets. -/
theorem playsOnce_of_moments (name : String) (traced : Bool) (sink : Trace)
    (targets : List Int32) (ms : List Moment) :
    let s := (Stepper.new (.create name traced sink) targets).undergoAll ms
    (s.playing = true →
        (∀ walk, (∀ m ∈ walk, m = .tick ∨ m.IsView) →
            PlaysOnce s (walk.count .tick) (s.undergoAll walk)) ∧
          (s.quit = false → ∀ os : List (Size × Occurrence),
            (∀ o ∈ os, o.2 = .tick ∨ o.2.IsView) →
              PlaysOnce s ((os.map (·.2)).count .tick) (s.run os))) ∧
      ∀ key : Key, key.IsStep →
        (∀ later, .input (.press (.char ' ')) ∉ later →
            StaysStopped ((s.press key).undergoAll later)) ∧
          (s.quit = false → ∀ size, ∀ later : List (Size × Occurrence),
            (∀ o ∈ later, o.2 ≠ .input (.press (.char ' '))) →
              StaysStopped ((s.takeInput size (.press key)).run later)) := by
  intro s
  obtain ⟨p, hreached⟩ : ∃ p, Truthful name targets p s :=
    (Truthful.new name traced sink targets).exists_undergoAll ms
  obtain rfl : s.position = p := hreached.position_eq
  have htruthful : Truthful name s.targets s.position s := by
    rw [hreached.targets_eq]
    exact hreached
  have hle : s.position ≤ s.targets.length := htruthful.le_length
  constructor
  · intro hplay
    have hstart : Played s s.position 0 s := .start htruthful hplay
    constructor
    · intro walk hwalk
      have hplayed := hstart.undergoAll hle hwalk
      rw [Nat.zero_add] at hplayed
      exact hplayed.playsOnce hle
    · intro hquit os hos
      have hplayed := hstart.run hle hquit hos
      rw [Nat.zero_add] at hplayed
      exact hplayed.playsOnce hle
  · intro key hkey
    constructor
    · intro later hlater
      refine staysStopped_of_not_playing (playing_undergoAll_of_notMem ?_ hlater)
      exact playing_press_of_isStep s hkey
    · intro hquit size later hlater
      have hne : key ≠ .char ' ' := by
        rintro rfl
        exact absurd hkey.1 (by decide)
      refine staysStopped_of_not_playing (playing_run_of_forall_ne ?_ hlater)
      rw [takeInput_press size hne, hquit]
      exact playing_press_of_isStep (s.settle size) hkey

/-- Playback from the middle of a script goes to its end while somebody looks around, and the key
left ends it. -/
theorem playsOnce_looking_around :
    let s := (Stepper.new (.create "x" true .empty) [5, 7, -2]).undergoAll
      [.input (.press .right), .input (.press (.char ' '))]
    let walk : List Moment := [.tick, .input (.press .tab), .draw ⟨9, 2⟩, .tick, .input .bounce,
      .input (.press (.char '0')), .tick]
    let os : List (Size × Occurrence) := [(⟨80, 24⟩, .tick), (⟨9, 2⟩, .input (.press .tab)),
      (⟨9, 2⟩, .tick)]
    s.playing = true ∧ s.quit = false ∧
      (∀ m ∈ walk, m = .tick ∨ m.IsView) ∧ PlaysOnce s 3 (s.undergoAll walk) ∧
      (s.undergoAll walk).position = 3 ∧
      (s.undergoAll walk).status.message = "Playback complete" ∧
      (∀ o ∈ os, o.2 = .tick ∨ o.2.IsView) ∧ PlaysOnce s 2 (s.run os) ∧
      (s.run os).status.message = "Playing..." ∧
      Key.left.IsStep ∧ StaysStopped ((s.press .left).undergoAll walk) ∧
      StaysStopped ((s.takeInput ⟨80, 24⟩ (.press .left)).run os) := by
  intro s walk os
  have htab : (Input.press .tab).IsView := by
    rintro _ ⟨⟩
    trivial
  have hzero : (Input.press (.char '0')).IsView := by
    intro c hc
    exact absurd hc (by simp [Key.command?, Key.steps?])
  have hbounce : Input.bounce.IsView := trivial
  have hwalk : ∀ m ∈ walk, m = .tick ∨ m.IsView := by
    simp [walk, Moment.IsView, htab, hzero, hbounce]
  have hos : ∀ o ∈ os, o.2 = .tick ∨ o.2.IsView := by
    simp [os, Occurrence.IsView, htab]
  obtain ⟨hplays, hstops⟩ := playsOnce_of_moments "x" true .empty [5, 7, -2]
    [.input (.press .right), .input (.press (.char ' '))]
  obtain ⟨hmoments, hloop⟩ := hplays rfl
  obtain ⟨hlater, hlaterLoop⟩ := hstops .left trivial
  exact ⟨rfl, rfl, hwalk, hmoments walk hwalk, by decide, by decide, hos, hloop rfl os hos,
    by decide, trivial, hlater walk (by decide), hlaterLoop rfl ⟨80, 24⟩ os (by decide)⟩

end Stepper

end Backstep
