import Backstep.Proofs.Stepper.Bulk
import Backstep.Proofs.Stepper.Message
import Backstep.Proofs.Stepper.Story

/-!
# The boundaries of the script

Nothing stores that a session has come to an end of its script. Whatever depends on it finds out on
its own: an arrow and a tick look the next target up, the status bar compares two numbers, a jump
goes on until a step fails, and the variable looks at the changes that it has recorded. All of them
find out the same. At the end none of them moves the variable, and before it all of them go on with
the same target.

## Main definitions

* `StatusBar.Shows` — an indicator stands in the bar, before it is cut.
* `Stepper.EndAgrees`, `Stepper.StaysAtEnd`, `Stepper.GoesOn` — what finds out about the end, what
  happens there, and what happens before it.
* `Stepper.StartAgrees` — what finds out about the start, and what happens there.
* `Boundaries` — all of this at one moment of a session.
-/

namespace Backstep

/-! ## What is shown -/

theorem Decimal.repr_inj {m n : Nat} : m.repr = n.repr ↔ m = n := by
  constructor
  · intro h
    have hdigits : Nat.toDigits 10 m = Nat.toDigits 10 n := by
      rw [← Nat.toList_repr, ← Nat.toList_repr, h]
    rw [← Nat.ofDigitChars_ten_toDigits (n := m), hdigits, Nat.ofDigitChars_ten_toDigits]
  · intro h
    rw [h]

/-- Between two texts zero stands only for itself. -/
theorem Decimal.append_repr_eq_iff {front behind : String} {n : Nat} :
    front ++ n.repr ++ behind = front ++ "0" ++ behind ↔ n = 0 := by
  have hzero : "0" = Nat.repr 0 := rfl
  rw [String.append_left_inj, String.append_right_inj, hzero, repr_inj]

namespace Status

theorem message_advanced_eq_iff {n : Nat} :
    (advanced n).message = "Stepped forward 0 step(s)" ↔ n = 0 :=
  Decimal.append_repr_eq_iff

theorem message_atStart_eq_iff {n : Nat} :
    (atStart n).message = "Jumped to start (0 undone)" ↔ n = 0 :=
  Decimal.append_repr_eq_iff

/-- Messages that start with different letters are different. -/
theorem message_ne_of_initial? {status : Status} {text : String} {c d : Char}
    (hc : status.initial? = some c) (hd : text.toList.head? = some d) (hne : c ≠ d) :
    status.message ≠ text := by
  intro heq
  rw [← head?_message, heq, hd, Option.some.injEq] at hc
  exact hne hc.symm

end Status

/-- The badge of an indicator is among the spans of the right half of the bar. That half is cut on
its right where it does not fit, so on a narrow screen the bar is drawn without the badge. -/
def StatusBar.Shows (bar : StatusBar) (i : Indicator) : Prop :=
  i.badge.1 ∈ bar.right.map (·.text)

/-- No hint reads like an indicator. -/
theorem StatusBar.shows_iff {bar : StatusBar} {i : Indicator} :
    bar.Shows i ↔ bar.indicator? = some i := by
  cases h : bar.indicator? with
  | none =>
    cases i <;>
      simp [Shows, right, h, keyHint, gap, badge, onBar, separator, Indicator.badge]
  | some shown =>
    cases i <;> cases shown <;>
      simp [Shows, right, h, keyHint, gap, badge, boldBadge, onBar, separator, Indicator.badge]

namespace Summary

/-- No numeral reads like the note at the end. -/
theorem upcoming_eq_iff {next : Option Int32} :
    upcoming next = "(end of script)" ↔ next = none := by
  cases next with
  | none => exact iff_of_true rfl rfl
  | some target =>
    refine iff_of_false ?_ (Option.some_ne_none target)
    intro heq
    have hbracket : '(' ∉ (Decimal.ofInt target.toInt).toList :=
      Decimal.notMem_ofInt (by decide) (by decide) target.toInt
    rw [upcoming] at heq
    rw [heq] at hbracket
    exact hbracket (by decide)

end Summary

namespace Stepper

/-! ## The end -/

/-- Whatever finds out about the end finds that there is no next target. -/
structure EndAgrees (s : Stepper) : Prop where
  /-- The last line of the variable pane. -/
  shown_iff : s.summaryTexts[4]? = some ["next     ", "(end of script)"] ↔ s.next? = none
  count_iff : s.total ≤ s.position + 1 ↔ s.next? = none
  bar_iff : s.playing = false → (s.statusBar.Shows .atEnd ↔ s.next? = none)
  right_iff :
    (s.press .right).status.message = "Cannot step forward: end of script" ↔ s.next? = none
  digit_iff : ∀ d, 1 ≤ d → d ≤ 9 →
    ((s.press (.char d.digitChar)).status.message = "Stepped forward 0 step(s)" ↔ s.next? = none)
  enter_iff : (s.press .enter).var = s.var ↔ s.next? = none
  /-- A tick that is due while playback runs. -/
  tick_iff : ({ s with playing := true }.tick).playing = false ↔ s.next? = none

/-- What would move the variable forwards leaves it alone, and with it the log and the offsets. It
only tells that it was asked, and stops playback. -/
structure StaysAtEnd (s : Stepper) : Prop where
  right : s.press .right = { s with playing := false, status := .pastEnd }
  digit : ∀ d, 1 ≤ d → d ≤ 9 →
    s.press (.char d.digitChar) = { s with playing := false, status := .advanced 0 }
  enter : s.press .enter = { s with playing := false, status := .atEnd }
  tick : { s with playing := true }.tick = { s with playing := false, status := .complete }

/-- What moves the variable forwards goes on with a target and then with those that come later. -/
structure GoesOn (s : Stepper) (target : Int32) (later : List Int32) : Prop where
  shown : s.summaryTexts[4]? = some ["next     ", Decimal.ofInt target.toInt]
  right_var : (s.press .right).var = s.var.assign target
  right_status : (s.press .right).status = .assigned s.var.name target
  digit_var : ∀ d, 1 ≤ d → d ≤ 9 → (s.press (.char d.digitChar)).var =
    (later.take (d - 1)).foldl Variable.assign (s.var.assign target)
  digit_status : ∀ d, 1 ≤ d → d ≤ 9 → (s.press (.char d.digitChar)).status =
    .advanced ((later.take (d - 1)).length + 1)
  enter_var : (s.press .enter).var = later.foldl Variable.assign (s.var.assign target)
  tick_var : ({ s with playing := true }.tick).var = s.var.assign target
  tick_playing : ({ s with playing := true }.tick).playing = true

/-! ## The start -/

/-- Whatever finds out about the start finds that no assignment is in force. A step backwards from
there is refused. -/
structure StartAgrees (s : Stepper) (targets : List Int32) : Prop where
  canUndo_iff : s.var.canUndo = false ↔ s.position = 0
  left_iff : (s.press .left).status.message =
    "Cannot step backward: " ++
      ("history underflow: '" ++ s.var.name ++ "' has no assignment left to undo") ↔ s.position = 0
  backspace_iff :
    (s.press .backspace).status.message = "Jumped to start (0 undone)" ↔ s.position = 0
  /-- The end of an empty script hides its start. -/
  bar_iff : targets ≠ [] → s.playing = false → (s.statusBar.Shows .atStart ↔ s.position = 0)
  /-- The value is a part of the history. -/
  left_history : s.position = 0 → (s.press .left).var.history = s.var.history
  left_lines : s.position = 0 → (s.press .left).var.sink.lines =
    s.var.sink.lines ++ if s.var.traced then [Event.line (.unassignFailed s.var.name)] else []

end Stepper

/-- What finds out about the ends of the script agrees, and goes by the script. -/
structure Boundaries (targets : List Int32) (s : Stepper) : Prop where
  atEnd : s.EndAgrees
  stays : s.next? = none → s.StaysAtEnd
  goesOn : ∀ target, s.next? = some target →
    targets[s.position]? = some target ∧ s.GoesOn target (targets.drop (s.position + 1))
  atStart : s.StartAgrees targets

/-! ## What the panes show and what the steps do -/

namespace Stepper

variable {s : Stepper}

/-- The last line of the variable pane. -/
theorem getElem?_summaryTexts (s : Stepper) :
    s.summaryTexts[4]? = some ["next     ", Summary.upcoming s.next?] := rfl

/-- The end is shown at the last position. -/
theorem shows_atEnd_iff (hplay : s.playing = false) :
    s.statusBar.Shows .atEnd ↔ s.total ≤ s.position + 1 := by
  rw [StatusBar.shows_iff, StatusBar.indicator?, statusBar, hplay, if_neg Bool.false_ne_true]
  by_cases hend : s.total ≤ s.position + 1
  · simp [hend]
  · by_cases hstart : s.position = 0 <;> simp [hend, hstart]

/-- The start is shown where the end is not. -/
theorem shows_atStart_iff (hplay : s.playing = false) :
    s.statusBar.Shows .atStart ↔ ¬ s.total ≤ s.position + 1 ∧ s.position = 0 := by
  rw [StatusBar.shows_iff, StatusBar.indicator?, statusBar, hplay, if_neg Bool.false_ne_true]
  by_cases hend : s.total ≤ s.position + 1
  · simp [hend]
  · by_cases hstart : s.position = 0 <;> simp [hend, hstart]

theorem press_digit {d : Nat} (hpos : 1 ≤ d) (hlast : d ≤ 9) (s : Stepper) :
    s.press (.char d.digitChar) =
      { (s.stopped.advanceUpTo d).2 with status := .advanced (s.stopped.advanceUpTo d).1 } := by
  rw [press, (command?_digitChar d (Nat.lt_succ_of_le hlast) hpos).1]
  rfl

theorem tick_of_none (h : s.next? = none) :
    { s with playing := true }.tick = { s with playing := false, status := .complete } := by
  have hnext : { s with playing := true }.next? = none := h
  rw [tick, if_pos rfl, advance?, hnext]
  rfl

theorem tick_of_some {v : Int32} (h : s.next? = some v) :
    { s with playing := true }.tick =
      { s.assign v with playing := true, status := .playing } := by
  have hnext : { s with playing := true }.next? = some v := h
  rw [tick, if_pos rfl, advance?, hnext]
  rfl

theorem staysAtEnd_of_none (h : s.next? = none) : s.StaysAtEnd := by
  have hstopped : s.stopped.next? = none := h
  refine ⟨press_right_of_none h, ?_, ?_, tick_of_none h⟩
  · intro d hpos hlast
    rw [press_digit hpos hlast, advanceUpTo_of_none hstopped]
    rfl
  · change { (s.stopped.advanceUpTo _).2 with status := .atEnd } = _
    rw [advanceUpTo_of_none hstopped]
    rfl

end Stepper

namespace StandsAt

variable {targets : List Int32} {p : Nat} {s : Stepper}

/-! ## Along the script -/

theorem next?_eq_some (h : StandsAt targets p s) (hp : p < targets.length) :
    s.next? = some targets[p] := by
  rw [h.next?_eq, List.getElem?_eq_getElem hp]

/-- Several steps forwards take what is left of the script from its front. -/
theorem var_advanceUpTo (h : StandsAt targets p s) (n : Nat) :
    (s.advanceUpTo n).2.var = ((targets.drop p).take n).foldl Variable.assign s.var := by
  induction n generalizing p s with
  | zero => rfl
  | succ n ih =>
    by_cases hp : p < targets.length
    · rw [List.drop_eq_getElem_cons hp, List.take_succ_cons, Stepper.advanceUpTo,
        h.advance?_of_lt hp]
      exact ih (h.assign hp)
    · rw [Stepper.advanceUpTo, h.advance?_of_not_lt hp,
        List.drop_eq_nil_of_le (Nat.not_lt.1 hp)]
      rfl

/-- Before the end the first of several steps takes the target at the position. -/
theorem var_advanceUpTo_of_lt (h : StandsAt targets p s) (hp : p < targets.length) {n : Nat}
    (hn : 1 ≤ n) : (s.advanceUpTo n).2.var =
      ((targets.drop (p + 1)).take (n - 1)).foldl Variable.assign (s.var.assign targets[p]) := by
  obtain ⟨k, rfl⟩ := Nat.exists_eq_add_of_le' hn
  rw [h.var_advanceUpTo, List.drop_eq_getElem_cons hp, List.take_succ_cons, Nat.add_sub_cancel]
  rfl

/-- Before the end every way forwards goes on with the target at the position. -/
theorem goesOn (h : StandsAt targets p s) (hp : p < targets.length) :
    s.GoesOn targets[p] (targets.drop (p + 1)) where
  shown := by
    rw [Stepper.getElem?_summaryTexts, h.next?_eq_some hp]
    rfl
  right_var := by rw [Stepper.press_right_of_some (h.next?_eq_some hp)]
  right_status := by rw [Stepper.press_right_of_some (h.next?_eq_some hp)]
  digit_var d hpos hlast := by
    rw [Stepper.press_digit hpos hlast]
    exact h.stopped.var_advanceUpTo_of_lt hp hpos
  digit_status d hpos hlast := by
    have hcount :
        min d (targets.length - p) = ((targets.drop (p + 1)).take (d - 1)).length + 1 := by
      rw [List.length_take, List.length_drop]
      omega
    rw [Stepper.press_digit hpos hlast, ← hcount, ← (h.stopped.advanceUpTo d).1]
  enter_var := by
    have hlater : (targets.drop (p + 1)).take (s.targets.length - 1) = targets.drop (p + 1) := by
      rw [h.targets_eq, List.take_of_length_le]
      rw [List.length_drop]
      omega
    have hpos : 1 ≤ s.targets.length := by
      rw [h.targets_eq]
      omega
    have hvar := h.stopped.var_advanceUpTo_of_lt hp hpos
    rw [hlater] at hvar
    exact hvar
  tick_var := by
    rw [Stepper.tick_of_some (h.next?_eq_some hp)]
    rfl
  tick_playing := by rw [Stepper.tick_of_some (h.next?_eq_some hp)]

theorem next?_eq_none_iff (h : StandsAt targets p s) : s.next? = none ↔ targets.length ≤ p := by
  rw [h.next?_eq, List.getElem?_eq_none_iff]

theorem total_le_iff (h : StandsAt targets p s) : s.total ≤ s.position + 1 ↔ s.next? = none := by
  rw [h.next?_eq_none_iff, h.position_eq, Stepper.total, h.targets_eq, Nat.add_le_add_iff_right]

theorem endAgrees (h : StandsAt targets p s) : s.EndAgrees where
  shown_iff := by
    rw [Stepper.getElem?_summaryTexts, ← Summary.upcoming_eq_iff]
    simp
  count_iff := h.total_le_iff
  bar_iff hplay := (Stepper.shows_atEnd_iff hplay).trans h.total_le_iff
  right_iff := by
    cases hnext : s.next? with
    | none =>
      rw [Stepper.press_right_of_none hnext]
      exact iff_of_true rfl rfl
    | some target =>
      rw [Stepper.press_right_of_some hnext]
      exact iff_of_false (Status.message_ne_of_initial? rfl rfl (by decide))
        (Option.some_ne_none target)
  digit_iff d hpos hlast := by
    rw [Stepper.press_digit hpos hlast, Status.message_advanced_eq_iff,
      (h.stopped.advanceUpTo d).1, h.next?_eq_none_iff]
    omega
  enter_iff := by
    constructor
    · intro hvar
      -- The key leads to the end, so it moves the variable from anywhere else.
      have hend : (s.press .enter).position = targets.length := (h.perform .jumpToEnd).position_eq
      rw [Stepper.position, hvar] at hend
      rw [h.next?_eq_none_iff, ← hend, ← h.position_eq]
      exact Nat.le_refl _
    · intro hnext
      rw [(Stepper.staysAtEnd_of_none hnext).enter]
  tick_iff := by
    cases hnext : s.next? with
    | none =>
      rw [Stepper.tick_of_none hnext]
      exact iff_of_true rfl rfl
    | some target =>
      rw [Stepper.tick_of_some hnext]
      exact iff_of_false Bool.false_ne_true.symm (Option.some_ne_none target)

theorem history_of_position_eq_zero (h : StandsAt targets p s) (hstart : s.position = 0) :
    s.var.history = .ofStack [] := by
  have hp : p = 0 := h.position_eq.symm.trans hstart
  subst hp
  exact h.history_eq

theorem startAgrees (h : StandsAt targets p s) : s.StartAgrees targets where
  canUndo_iff := by
    have hcan := Variable.canUndo_of_history h.history_eq
    rw [← Bool.not_eq_true, hcan, not_not, h.position_eq, ← List.length_eq_zero_iff,
      length_scriptStack h.le_length]
  left_iff := by
    change (s.perform .back).status.message = _ ↔ _
    rw [h.status_perform_back, h.position_eq]
    by_cases hp : p = 0
    · rw [if_pos hp]
      exact iff_of_true rfl hp
    · have hrefusal := Status.head?_message (.pastStart ⟨s.var.name⟩)
      rw [if_neg hp]
      exact iff_of_false (Status.message_ne_of_initial? rfl hrefusal (by decide)) hp
  backspace_iff := by
    change (s.perform .jumpToStart).status.message = _ ↔ _
    rw [h.status_perform_jumpToStart, Status.message_atStart_eq_iff, h.position_eq]
  bar_iff hne hplay := by
    have hlength := List.length_pos_iff.2 hne
    rw [Stepper.shows_atStart_iff hplay, h.total_le_iff, h.next?_eq_none_iff, h.position_eq]
    omega
  left_history hstart := by
    have hempty : s.var.history = .ofStack [] := h.history_of_position_eq_zero hstart
    change s.var.unassign.2.history = _
    rw [Variable.history_unassign_of_history hempty, hempty]
    rfl
  left_lines hstart := by
    have hempty : s.var.history = .ofStack [] := h.history_of_position_eq_zero hstart
    change s.var.unassign.2.sink.lines = _
    rw [Variable.sink_unassign_of_history hempty, Variable.lines_told]
    by_cases htraced : s.var.traced = true
    · rw [if_pos htraced, if_pos htraced]
      rfl
    · rw [if_neg htraced, if_neg htraced, List.append_nil]

/-- What finds out about the ends of the script agrees, and goes by the script. -/
theorem boundaries (h : StandsAt targets p s) : Boundaries targets s where
  atEnd := h.endAgrees
  stays := Stepper.staysAtEnd_of_none
  goesOn target hnext := by
    have hposition := h.position_eq
    subst hposition
    rw [h.next?_eq] at hnext
    obtain ⟨hp, rfl⟩ := List.getElem?_eq_some_iff.1 hnext
    exact ⟨hnext, h.goesOn hp⟩
  atStart := h.startAgrees

end StandsAt

/-- **All paths agree where the script ends and starts.** Whatever happens to a new session in
whatever order, and so throughout its loop, whatever finds out about an end of the script finds the
same. At the end nothing moves the variable forwards, and before it everything goes on with the
target at the position. -/
theorem boundaries_of_moments (name : String) (traced : Bool) (sink : Trace)
    (targets : List Int32) :
    let start := Stepper.new (.create name traced sink) targets
    (∀ ms, Boundaries targets (start.undergoAll ms)) ∧
      ∀ os, Boundaries targets (start.run os) := by
  intro start
  have hmoments : ∀ ms, Boundaries targets (start.undergoAll ms) := by
    intro ms
    obtain ⟨p, hp⟩ := (StandsAt.new name traced sink targets).exists_undergoAll ms
    exact hp.boundaries
  refine ⟨hmoments, fun os => ?_⟩
  obtain ⟨ms, hms⟩ := start.exists_undergoAll_run os
  rw [hms]
  exact hmoments ms

/-- Playback of one target: before its first tick everything goes on with the target, and behind it
nothing does. -/
theorem boundaries_of_one_target :
    let s := (Stepper.new (.create "x" true .empty) [5]).undergoAll
      [.input (.press (.char ' '))]
    let t := (Stepper.new (.create "x" true .empty) [5]).undergoAll
      [.input (.press (.char ' ')), .tick]
    s.next? = some 5 ∧ s.GoesOn 5 [] ∧ t.next? = none ∧ t.StaysAtEnd := by
  intro s t
  have hboundaries := (boundaries_of_moments "x" true .empty [5]).1
  have hs : s.next? = some 5 := by decide
  have ht : t.next? = none := by decide
  obtain ⟨-, hgoes⟩ := (hboundaries _).goesOn 5 hs
  exact ⟨hs, hgoes, ht, (hboundaries _).stays ht⟩

/-- In an empty script both ends fall together, and the bar shows the end. -/
example :
    let s := Stepper.new (.create "x" true .empty) []
    s.next? = none ∧ s.position = 0 ∧ s.statusBar.indicator? = some .atEnd := by
  decide

end Backstep
