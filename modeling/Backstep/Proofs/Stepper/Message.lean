import Backstep.Proofs.Stepper.Truthful

/-!
# What the status bar tells

The message of the status bar is the text of the status, so in a truthful session it is true as
well, although names and numbers stand in it. It starts as a refusal does only when the status is
one, and then the last moment that set the status was a step beyond an end of the script: no other
moment sets such a status.

## Main definitions

* `TrueMessage`, `TellsTruth` — the messages that are true at a place in the script.
* `StatusBar.ShowsError` — something in the bar has the colour of errors.
* `Stepper.Sets`, `Stepper.LastSet` — which moment of a run was the last to set the status.
* `Refused` — a step beyond an end of the script.
-/

namespace Backstep

/-! ## Messages -/

/-- The messages that are true while playback does not run, in a session of the variable `name`
that has assigned `p` of `n` targets and holds `value`. -/
inductive TrueMessage (name : String) (n p : Nat) (value : Int32) : String → Prop
  | ready : p = 0 → TrueMessage name n p value "Ready!"
  | paused : TrueMessage name n p value "Paused"
  | assigned : 1 ≤ p →
      TrueMessage name n p value ("Assigned " ++ name ++ " := " ++ Decimal.ofInt value.toInt)
  | advanced (steps : Nat) : steps ≤ 9 → steps ≤ p → (steps = 0 → p = n) →
      TrueMessage name n p value ("Stepped forward " ++ steps.repr ++ " step(s)")
  | steppedBack : p < n → TrueMessage name n p value "Stepped backward"
  | atEnd : p = n → TrueMessage name n p value "Jumped to end"
  | complete : p = n → TrueMessage name n p value "Playback complete"
  | pastEnd : p = n → TrueMessage name n p value "Cannot step forward: end of script"
  | atStart (undone : Nat) : p = 0 → undone ≤ n →
      TrueMessage name n p value ("Jumped to start (" ++ undone.repr ++ " undone)")
  | pastStart : p = 0 →
      TrueMessage name n p value
        ("Cannot step backward: " ++
          ("history underflow: '" ++ name ++ "' has no assignment left to undo"))

namespace Status

variable {name : String} {targets : List Int32} {p : Nat} {status : Status}

/-- A status that is true has a message that is true. -/
theorem HoldsAt.trueMessage (h : status.HoldsAt name targets p) (hne : status ≠ .playing) :
    TrueMessage name targets.length p (scriptStack targets p).current status.message := by
  cases status with
  | ready => exact .ready h
  | playing => exact absurd rfl hne
  | paused => exact .paused
  | complete => exact .complete h
  | assigned subject value =>
    obtain ⟨rfl, hp, rfl⟩ := h
    exact .assigned hp
  | advanced steps => exact .advanced steps h.1 h.2.1 h.2.2
  | pastEnd => exact .pastEnd h
  | steppedBack => exact .steppedBack h
  | pastStart cause =>
    obtain ⟨rfl, hp⟩ := h
    exact .pastStart hp
  | atEnd => exact .atEnd h
  | atStart undone => exact .atStart undone h.1 h.2
  | note text => exact h.elim

/-- The letter that the message of a status starts with. -/
def initial? : Status → Option Char
  | ready => some 'R'
  | playing | paused | complete => some 'P'
  | assigned _ _ => some 'A'
  | advanced _ | steppedBack => some 'S'
  | pastEnd | pastStart _ => some 'C'
  | atEnd | atStart _ => some 'J'
  | note text => text.toList.head?

/-- Names and numbers stand behind a word, so they do not matter. -/
theorem head?_message (status : Status) : status.message.toList.head? = status.initial? := by
  have happend : ∀ {a b : String} {c : Char}, a.toList.head? = some c →
      (a ++ b).toList.head? = some c := by
    intro a b c h
    rw [String.toList_append, List.head?_append, h]
    rfl
  cases status with
  | assigned subject value => exact happend (happend (happend rfl))
  | advanced steps => exact happend (happend rfl)
  | pastStart cause => exact happend rfl
  | atStart undone => exact happend (happend rfl)
  | _ => rfl

/-- The message of playback is that of no other true status. -/
theorem HoldsAt.message_eq_playing_iff (h : status.HoldsAt name targets p) :
    status.message = "Playing..." ↔ status = .playing := by
  constructor
  · intro heq
    have hletter : status.initial? = some 'P' := by
      rw [← head?_message, heq]
      rfl
    cases status with
    | playing => rfl
    | paused => exact absurd heq (by decide)
    | complete => exact absurd heq (by decide)
    | note text => exact h.elim
    | _ => simp [initial?] at hletter
  · rintro rfl
    rfl

def IsRefusal : Status → Prop
  | pastEnd | pastStart _ => True
  | _ => False

/-- A true status whose message starts as a refusal does is one. -/
theorem HoldsAt.isRefusal (h : status.HoldsAt name targets p)
    (hcannot : "Cannot".toList.isPrefixOf status.message.toList) : status.IsRefusal := by
  have hletter : status.initial? = some 'C' := by
    obtain ⟨rest, hrest⟩ := List.isPrefixOf_iff_prefix.1 hcannot
    rw [← head?_message, ← hrest]
    rfl
  cases status with
  | note text => exact h.elim
  | pastEnd => exact True.intro
  | pastStart cause => exact True.intro
  | _ => simp [initial?] at hletter

end Status

/-- The left half of the bar has something in the colour of errors. -/
def StatusBar.ShowsError (bar : StatusBar) : Prop :=
  ∃ span ∈ bar.left, span.style.fg = some Palette.error ∨ span.style.bg = some Palette.error

/-- The colour of errors depends on the message alone. -/
theorem StatusBar.showsError_iff (bar : StatusBar) : bar.ShowsError ↔ bar.isRefusal := by
  have hprimary : Palette.primary ≠ Palette.error := by decide
  have hcomment : Palette.comment ≠ Palette.error := by decide
  have htext : Palette.text ≠ Palette.error := by decide
  have hraised : Palette.raised ≠ Palette.error := by decide
  have hblack : Color.black ≠ Palette.error := by decide
  by_cases h : bar.isRefusal = true <;>
    simp [ShowsError, left, boldBadge, onBar, Style.ofFg, Style.onGround, Style.inBold, *]

/-- What a session tells is true: its message says that playback runs exactly while it does, and is
otherwise one of the messages that are true at its place. -/
structure TellsTruth (name : String) (targets : List Int32) (s : Stepper) : Prop where
  playing_iff : s.playing ↔ s.status.message = "Playing..."
  trueMessage : ¬ s.playing →
    TrueMessage name targets.length s.position s.var.history.value s.status.message

theorem Truthful.tellsTruth {name : String} {targets : List Int32} {p : Nat} {s : Stepper}
    (h : Truthful name targets p s) : TellsTruth name targets s where
  playing_iff := by rw [h.playing_iff, h.holds.message_eq_playing_iff]
  trueMessage := by
    intro hplay
    have hne : s.status ≠ .playing := fun heq => hplay (h.playing_iff.2 heq)
    rw [h.position_eq, h.history_eq, History.value_ofStack]
    exact h.holds.trueMessage hne

/-! ## The last moment that set the status -/

namespace Stepper

/-- The moment sets the status: there is a status that would not have stayed. -/
def Sets (s : Stepper) (m : Moment) : Prop :=
  ∃ old : Status, ({ s with status := old }.undergo m).status ≠ old

/-- No moment of the run sets the status. -/
def NoneSets : Stepper → List Moment → Prop
  | _, [] => True
  | s, m :: ms => ¬ s.Sets m ∧ NoneSets (s.undergo m) ms

theorem status_of_not_sets {s : Stepper} {m : Moment} (h : ¬ s.Sets m) :
    (s.undergo m).status = s.status := by
  by_contra hne
  exact h ⟨s.status, hne⟩

theorem NoneSets.status_undergoAll {s : Stepper} {ms : List Moment} (h : s.NoneSets ms) :
    (s.undergoAll ms).status = s.status := by
  induction ms generalizing s with
  | nil => rfl
  | cons m ms ih => rw [undergoAll_cons, ih h.2, status_of_not_sets h.1]

/-- The moment `m`, which comes behind `before` in the run, is the last one to set the status. -/
def LastSet (s : Stepper) (ms before : List Moment) (m : Moment) : Prop :=
  ∃ after, ms = before ++ m :: after ∧ (s.undergoAll before).Sets m ∧
    ((s.undergoAll before).undergo m).NoneSets after

theorem LastSet.cons {s : Stepper} {ms before : List Moment} {m : Moment} (first : Moment)
    (h : (s.undergo first).LastSet ms before m) :
    s.LastSet (first :: ms) (first :: before) m := by
  obtain ⟨after, rfl, hsets, hnone⟩ := h
  exact ⟨after, rfl, hsets, hnone⟩

variable {s : Stepper}

theorem undergo_press {key : Key} {c : Command} (hkey : key.command? = some c) (s : Stepper) :
    s.undergo (.input (.press key)) = s.perform c := by
  rw [undergo, receive, press, hkey]

@[simp] theorem status_scroll (s : Stepper) (move : Nat → Nat) :
    (s.scroll move).status = s.status := by
  rw [scroll]
  split <;> rfl

/-- Of the commands that set a status only single steps are refused. -/
theorem not_isRefusal_perform {c : Command} (hforward : c ≠ .forward) (hback : c ≠ .back)
    {old : Status} (hset : ({ s with status := old }.perform c).status ≠ old) :
    ¬ (s.perform c).status.IsRefusal := by
  cases c with
  | forward => exact absurd rfl hforward
  | back => exact absurd rfl hback
  | quit => exact absurd rfl hset
  | switchFocus => exact absurd rfl hset
  | scrollUp => exact absurd (status_scroll _ _) hset
  | scrollDown => exact absurd (status_scroll _ _) hset
  | advance n => exact id
  | togglePlay =>
    rw [perform, togglePlay]
    split <;> exact id
  | jumpToEnd => exact id
  | jumpToStart => exact id

/-- Playback is never refused: at the end of the script it is complete. -/
theorem not_isRefusal_tick {old : Status} (hset : ({ s with status := old }.tick).status ≠ old) :
    ¬ s.tick.status.IsRefusal := by
  by_cases hplay : s.playing = true
  · rw [tick, if_pos hplay]
    split <;> exact id
  · have htick : { s with status := old }.tick = { s with status := old } := if_neg hplay
    exact absurd (congrArg status htick) hset

end Stepper

/-- A key asked for a step beyond an end of the script, and was refused with a status. -/
inductive Refused (s : Stepper) : Moment → Status → Prop
  | forward : s.position = s.targets.length → s.next? = none →
      Refused s (.input (.press .right)) .pastEnd
  | back : s.position = 0 → s.var.unassign.1 = .error ⟨s.var.name⟩ →
      Refused s (.input (.press .left)) (.pastStart ⟨s.var.name⟩)

namespace StandsAt

variable {targets : List Int32} {p : Nat} {s : Stepper}

/-- A step forwards that ends in a refusal was tried at the end. -/
theorem refused_forward (h : StandsAt targets p s)
    (hrefusal : (s.perform .forward).status.IsRefusal) :
    Refused s (.input (.press .right)) (s.perform .forward).status := by
  rw [h.status_perform_forward] at hrefusal ⊢
  by_cases hp : p < targets.length
  · rw [dif_pos hp] at hrefusal
    exact hrefusal.elim
  · have hend : p = targets.length := Nat.le_antisymm h.le_length (Nat.not_lt.1 hp)
    rw [dif_neg hp]
    refine .forward ?_ ?_
    · rw [h.position_eq, h.targets_eq, hend]
    · rw [h.next?_eq, List.getElem?_eq_none (Nat.not_lt.1 hp)]

/-- A step backwards that ends in a refusal was tried at the start. -/
theorem refused_back (h : StandsAt targets p s)
    (hrefusal : (s.perform .back).status.IsRefusal) :
    Refused s (.input (.press .left)) (s.perform .back).status := by
  rw [h.status_perform_back] at hrefusal ⊢
  by_cases hp : p = 0
  · rw [if_pos hp]
    refine .back (h.position_eq.trans hp) ?_
    rw [h.fst_unassign, if_pos hp]
  · rw [if_neg hp] at hrefusal
    exact hrefusal.elim

/-- A moment that sets a refusal as the status was refused. -/
theorem refused (h : StandsAt targets p s) {m : Moment} (hsets : s.Sets m)
    (hrefusal : (s.undergo m).status.IsRefusal) : Refused s m (s.undergo m).status := by
  obtain ⟨old, hset⟩ := hsets
  cases m with
  | input i =>
    cases i with
    | press key =>
      cases hkey : key.command? with
      | none =>
        rw [Stepper.undergo, Stepper.receive, Stepper.press, hkey] at hset
        exact absurd rfl hset
      | some c =>
        rw [Stepper.undergo_press hkey] at hset hrefusal ⊢
        by_cases hforward : c = .forward
        · subst hforward
          rw [Key.eq_right_of_command? hkey]
          exact h.refused_forward hrefusal
        · by_cases hback : c = .back
          · subst hback
            rw [Key.eq_left_of_command? hkey]
            exact h.refused_back hrefusal
          · exact absurd hrefusal (Stepper.not_isRefusal_perform hforward hback hset)
    | bounce => exact absurd rfl hset
    | noise => exact absurd rfl hset
  | tick => exact absurd hrefusal (Stepper.not_isRefusal_tick hset)
  | draw size => exact absurd rfl hset

/-- After a run the status is a refusal only if it was one before and nothing has set it since, or
the last moment that set it was refused. -/
theorem noneSets_or_refused (h : StandsAt targets p s) {ms : List Moment}
    (hrefusal : (s.undergoAll ms).status.IsRefusal) :
    s.NoneSets ms ∨ ∃ before m, s.LastSet ms before m ∧
      Refused (s.undergoAll before) m (s.undergoAll ms).status := by
  -- From the front, so the first moment is the last to set the status when none of the rest does.
  induction ms generalizing p s with
  | nil => exact .inl True.intro
  | cons m ms ih =>
    obtain ⟨q, hq⟩ := h.exists_undergo m
    rcases ih hq hrefusal with hnone | ⟨before, last, hlast, hrefused⟩
    · by_cases hsets : s.Sets m
      · refine .inr ⟨[], m, ⟨ms, rfl, hsets, hnone⟩, ?_⟩
        have hstatus : (s.undergoAll (m :: ms)).status = (s.undergo m).status :=
          hnone.status_undergoAll
        rw [hstatus] at hrefusal ⊢
        exact h.refused hsets hrefusal
      · exact .inl ⟨hsets, hnone⟩
    · exact .inr ⟨m :: before, last, hlast.cons m, hrefused⟩

end StandsAt

/-- **The status never lies.** Whatever happens to a new session in whatever order, and so
throughout its loop, its message says that playback runs exactly while it does, and is otherwise
true at its place. The bar shows the colour of errors when the message starts as a refusal does, and
that is only when the last moment that set the status was a step refused at that end of the
script. -/
theorem tellsTruth_of_moments (name : String) (traced : Bool) (sink : Trace)
    (targets : List Int32) :
    let start := Stepper.new (.create name traced sink) targets
    (∀ ms, TellsTruth name targets (start.undergoAll ms)) ∧
      (∀ os, TellsTruth name targets (start.run os)) ∧
      (∀ ms, (start.undergoAll ms).statusBar.ShowsError ↔
        "Cannot".toList.isPrefixOf (start.undergoAll ms).status.message.toList) ∧
      ∀ ms, (start.undergoAll ms).statusBar.ShowsError →
        ∃ before m, start.LastSet ms before m ∧
          Refused (start.undergoAll before) m (start.undergoAll ms).status := by
  intro start
  have hstart : Truthful name targets 0 start := .new name traced sink targets
  have htruth : ∀ ms, TellsTruth name targets (start.undergoAll ms) := by
    intro ms
    obtain ⟨p, hp⟩ := hstart.exists_undergoAll ms
    exact hp.tellsTruth
  refine ⟨htruth, ?_, fun ms => StatusBar.showsError_iff _, ?_⟩
  · intro os
    obtain ⟨ms, hms⟩ := start.exists_undergoAll_run os
    rw [hms]
    exact htruth ms
  · intro ms herror
    obtain ⟨p, hp⟩ := hstart.exists_undergoAll ms
    have hrefusal := hp.holds.isRefusal ((StatusBar.showsError_iff _).1 herror)
    rcases hstart.toStandsAt.noneSets_or_refused hrefusal with hnone | hlast
    · rw [hnone.status_undergoAll] at hrefusal
      exact hrefusal.elim
    · exact hlast

/-- A step back from the start of a script, in a session of a variable that is called as a refusal
begins. What follows does not set the status. -/
theorem refused_left_at_start :
    let start := Stepper.new (.create "Cannot" true .empty) [5]
    let ms : List Moment := [.input (.press .right), .input (.press .left), .input (.press .left),
      .input (.press .up), .tick, .draw ⟨80, 24⟩]
    (start.undergoAll ms).statusBar.ShowsError ∧
      ∃ before m, start.LastSet ms before m ∧
        Refused (start.undergoAll before) m (start.undergoAll ms).status := by
  intro start ms
  have herror : (start.undergoAll ms).statusBar.ShowsError :=
    (StatusBar.showsError_iff _).2 (by decide)
  exact ⟨herror, (tellsTruth_of_moments "Cannot" true .empty [5]).2.2.2 ms herror⟩

end Backstep
