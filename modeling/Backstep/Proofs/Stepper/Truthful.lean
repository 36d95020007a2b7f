import Backstep.Proofs.Stepper.Script

/-!
# Truthful sessions

The variable, the status and the playing flag of a session are set one by one, in many places, yet
they never disagree. Each status makes a claim about the place in the script, and the claim is true
for as long as the status stands: whatever moves the variable or stops playback sets a new status,
and whatever sets none moves nothing.
-/

namespace Backstep

/-- What a status says of a session of the variable `name` that stands behind the first `p` of its
targets. -/
def Status.HoldsAt (name : String) (targets : List Int32) (p : Nat) : Status → Prop
  | .ready => p = 0
  | .playing | .paused => True
  | .complete | .atEnd | .pastEnd => p = targets.length
  | .assigned subject value => subject = name ∧ 1 ≤ p ∧ value = (scriptStack targets p).current
  | .advanced steps => steps ≤ 9 ∧ steps ≤ p ∧ (steps = 0 → p = targets.length)
  | .steppedBack => p < targets.length
  | .pastStart cause => cause = ⟨name⟩ ∧ p = 0
  | .atStart undone => p = 0 ∧ undone ≤ targets.length
  | .note _ => False

/-! ## Keys -/

namespace Key

/-- A digit key stands for as many steps as it says. -/
theorem steps_mem_of_command? {key : Key} {n : Nat} (h : key.command? = some (.advance n)) :
    1 ≤ n ∧ n ≤ 9 := by
  have hdigit : ∃ c, steps? c = some n := by
    cases key with
    | char c =>
      refine ⟨c, ?_⟩
      unfold command? at h
      split at h <;> simp_all
    | _ => simp [command?] at h
  obtain ⟨c, hc⟩ := hdigit
  rw [steps?] at hc
  split at hc
  · rename_i hrange
    have hlow : '1'.toNat ≤ c.toNat := hrange.1
    have hhigh : c.toNat ≤ '9'.toNat := hrange.2
    have hn : c.toNat - '0'.toNat = n := Option.some.inj hc
    simp only [Char.reduceToNat] at hlow hhigh hn
    omega
  · cases hc

theorem eq_right_of_command? {key : Key} (h : key.command? = some .forward) : key = .right := by
  unfold command? at h
  split at h <;> simp_all

theorem eq_left_of_command? {key : Key} (h : key.command? = some .back) : key = .left := by
  unfold command? at h
  split at h <;> simp_all

end Key

namespace Stepper

/-! ## What steps leave alone -/

/-- What each assignment keeps is kept by several steps forwards. -/
theorem advanceUpTo_induction {P : Stepper → Prop}
    (hassign : ∀ (t : Stepper) (v : Int32), P t → P (t.assign v)) (n : Nat) {s : Stepper}
    (hs : P s) : P (s.advanceUpTo n).2 := by
  induction n generalizing s with
  | zero => exact hs
  | succ n ih =>
    rw [advanceUpTo, advance?]
    cases s.next? with
    | none => exact hs
    | some v => exact ih (hassign s v hs)

variable (s : Stepper)

@[simp] theorem name_assign (v : Int32) : (s.assign v).var.name = s.var.name :=
  Variable.name_assign s.var v

@[simp] theorem name_advanceUpTo (n : Nat) : (s.advanceUpTo n).2.var.name = s.var.name :=
  advanceUpTo_induction (P := fun t => t.var.name = s.var.name)
    (fun t v h => (name_assign t v).trans h) n rfl

@[simp] theorem playing_advanceUpTo (n : Nat) : (s.advanceUpTo n).2.playing = s.playing :=
  advanceUpTo_induction (P := fun t => t.playing = s.playing) (fun _ _ h => h) n rfl

@[simp] theorem name_forward : s.forward.var.name = s.var.name := by
  rw [forward]
  split
  · exact name_assign s _
  · rfl

@[simp] theorem playing_forward : s.forward.playing = s.playing := by
  rw [forward]
  split <;> rfl

@[simp] theorem name_back : s.back.var.name = s.var.name := Variable.name_unassign s.var

@[simp] theorem name_jumpToStart : s.jumpToStart.var.name = s.var.name := Variable.name_rewind s.var

end Stepper

/-! ## The outcome of a step -/

namespace StandsAt

variable {targets : List Int32} {p : Nat} {s : Stepper}

theorem status_perform_forward (h : StandsAt targets p s) :
    (s.perform .forward).status =
      if hp : p < targets.length then .assigned s.var.name targets[p] else .pastEnd := by
  rw [Stepper.perform, Stepper.forward, h.stopped.next?_eq]
  by_cases hp : p < targets.length
  · rw [dif_pos hp, List.getElem?_eq_getElem hp]
    rfl
  · rw [dif_neg hp, List.getElem?_eq_none (Nat.not_lt.1 hp)]

theorem fst_unassign (h : StandsAt targets p s) :
    s.var.unassign.1 = if p = 0 then .error ⟨s.var.name⟩ else .ok () := by
  rw [Variable.fst_unassign_of_history h.history_eq]
  simp only [List.isEmpty_iff, ← List.length_eq_zero_iff, length_scriptStack h.le_length]

theorem status_perform_back (h : StandsAt targets p s) :
    (s.perform .back).status = if p = 0 then .pastStart ⟨s.var.name⟩ else .steppedBack := by
  have hunassign : s.stopped.var.unassign =
      (if p = 0 then .error ⟨s.var.name⟩ else .ok (), s.var.unassign.2) :=
    Prod.ext h.fst_unassign rfl
  rw [Stepper.perform, Stepper.back, hunassign]
  by_cases hp : p = 0
  · rw [if_pos hp, if_pos hp]
    rfl
  · rw [if_neg hp, if_neg hp]
    rfl

theorem status_perform_jumpToStart (h : StandsAt targets p s) :
    (s.perform .jumpToStart).status = .atStart p := by
  have hcount := (Variable.rewind_of_history h.history_eq).1
  rw [length_scriptStack h.le_length] at hcount
  exact congrArg Status.atStart hcount

end StandsAt

/-! ## Truthful sessions -/

/-- The session stands behind the first `p` of its targets, its variable is called `name`, and its
status is true: it says that playback runs exactly while it does, and what it says of the place in
the script is so. -/
structure Truthful (name : String) (targets : List Int32) (p : Nat) (s : Stepper) : Prop
    extends StandsAt targets p s where
  name_eq : s.var.name = name
  playing_iff : s.playing ↔ s.status = .playing
  holds : s.status.HoldsAt name targets p

namespace Truthful

variable {name : String} {targets : List Int32} {p : Nat} {s t : Stepper}

theorem new (name : String) (traced : Bool) (sink : Trace) (targets : List Int32) :
    Truthful name targets 0 (.new (.create name traced sink) targets) where
  toStandsAt := .new name traced sink targets
  name_eq := Variable.name_create name traced sink
  playing_iff := by simp [Stepper.new]
  holds := rfl

/-- Focus, scroll offsets and the wish to quit do not matter. -/
theorem congr (h : Truthful name targets p s) (hvar : t.var = s.var)
    (htargets : t.targets = s.targets) (hstatus : t.status = s.status)
    (hplaying : t.playing = s.playing) : Truthful name targets p t where
  toStandsAt := h.toStandsAt.congr hvar htargets
  name_eq := (congrArg Variable.name hvar).trans h.name_eq
  playing_iff := by rw [hplaying, hstatus, h.playing_iff]
  holds := by rw [hstatus]; exact h.holds

/-- A session that has stopped is truthful when its new status is. -/
theorem of_stopped (h : StandsAt targets p t) (hname : t.var.name = name)
    (hplaying : t.playing = false) (hstatus : t.status ≠ .playing)
    (hholds : t.status.HoldsAt name targets p) : Truthful name targets p t where
  toStandsAt := h
  name_eq := hname
  playing_iff := by simp [hplaying, hstatus]
  holds := hholds

/-! ## Commands -/

theorem advance (h : Truthful name targets p s) {n : Nat} (hn : 1 ≤ n ∧ n ≤ 9) :
    Truthful name targets (min (p + n) targets.length) (s.perform (.advance n)) := by
  have hle := h.le_length
  obtain ⟨hcount, -⟩ := h.toStandsAt.stopped.advanceUpTo n
  have hstatus : (s.perform (.advance n)).status = .advanced (min n (targets.length - p)) :=
    congrArg Status.advanced hcount
  refine of_stopped (h.toStandsAt.perform (.advance n)) ?_ ?_ ?_ ?_
  · exact (Stepper.name_advanceUpTo s.stopped n).trans h.name_eq
  · exact Stepper.playing_advanceUpTo s.stopped n
  · rw [hstatus]
    exact Status.noConfusion
  · rw [hstatus]
    refine ⟨?_, ?_, ?_⟩ <;> omega

theorem forward (h : Truthful name targets p s) :
    Truthful name targets (min (p + 1) targets.length) (s.perform .forward) := by
  have hstatus := h.toStandsAt.status_perform_forward
  refine of_stopped (h.toStandsAt.perform .forward) ?_ ?_ ?_ ?_
  · exact (Stepper.name_forward s.stopped).trans h.name_eq
  · exact Stepper.playing_forward s.stopped
  · rw [hstatus]
    split <;> exact Status.noConfusion
  · rw [hstatus]
    by_cases hp : p < targets.length
    · rw [dif_pos hp, Nat.min_eq_left hp]
      refine ⟨h.name_eq, Nat.le_add_left 1 p, ?_⟩
      rw [scriptStack_succ hp, ValueStack.current_cons]
    · rw [dif_neg hp, h.min_add_eq hp]
      exact Nat.le_antisymm h.le_length (Nat.not_lt.1 hp)

theorem back (h : Truthful name targets p s) :
    Truthful name targets (p - 1) (s.perform .back) := by
  have hle := h.le_length
  have hstatus := h.toStandsAt.status_perform_back
  refine of_stopped (h.toStandsAt.perform .back) ?_ rfl ?_ ?_
  · exact (Stepper.name_back s.stopped).trans h.name_eq
  · rw [hstatus]
    split <;> exact Status.noConfusion
  · rw [hstatus]
    by_cases hp : p = 0
    · rw [if_pos hp, h.name_eq, hp]
      exact ⟨rfl, rfl⟩
    · rw [if_neg hp]
      change p - 1 < targets.length
      omega

theorem jumpToEnd (h : Truthful name targets p s) :
    Truthful name targets targets.length (s.perform .jumpToEnd) := by
  refine of_stopped (h.toStandsAt.perform .jumpToEnd) ?_ ?_ Status.noConfusion rfl
  · exact (Stepper.name_advanceUpTo s.stopped _).trans h.name_eq
  · exact Stepper.playing_advanceUpTo s.stopped _

theorem jumpToStart (h : Truthful name targets p s) :
    Truthful name targets 0 (s.perform .jumpToStart) := by
  have hstatus := h.toStandsAt.status_perform_jumpToStart
  refine of_stopped (h.toStandsAt.perform .jumpToStart) ?_ rfl ?_ ?_
  · exact (Stepper.name_jumpToStart s.stopped).trans h.name_eq
  · rw [hstatus]
    exact Status.noConfusion
  · rw [hstatus]
    exact ⟨rfl, h.le_length⟩

theorem togglePlay (h : Truthful name targets p s) :
    Truthful name targets p (s.perform .togglePlay) := by
  have hstands := h.toStandsAt.perform .togglePlay
  by_cases hplay : s.playing = true
  · have hperform : s.perform .togglePlay = { s with playing := false, status := .paused } :=
      if_pos hplay
    rw [hperform] at hstands ⊢
    exact of_stopped hstands h.name_eq rfl Status.noConfusion trivial
  · have hperform : s.perform .togglePlay = { s with playing := true, status := .playing } :=
      if_neg hplay
    rw [hperform] at hstands ⊢
    exact ⟨hstands, h.name_eq, iff_of_true rfl rfl, trivial⟩

/-- **What a command says is true.** A command of a key asks for no more than nine steps. -/
theorem perform (h : Truthful name targets p s) (c : Command)
    (hsteps : ∀ n, c = .advance n → 1 ≤ n ∧ n ≤ 9) :
    Truthful name targets (c.place targets.length p) (s.perform c) := by
  cases c with
  | quit => exact h.congr rfl rfl rfl rfl
  | advance n => exact h.advance (hsteps n rfl)
  | switchFocus => exact h.congr rfl rfl rfl rfl
  | back => exact h.back
  | forward => exact h.forward
  | scrollUp => rw [Stepper.perform, Stepper.scroll]; split <;> exact h.congr rfl rfl rfl rfl
  | scrollDown => rw [Stepper.perform, Stepper.scroll]; split <;> exact h.congr rfl rfl rfl rfl
  | togglePlay => exact h.togglePlay
  | jumpToEnd => exact h.jumpToEnd
  | jumpToStart => exact h.jumpToStart

/-- **What a tick says is true.** -/
theorem tick (h : Truthful name targets p s) :
    Truthful name targets (tickPlace targets.length p s.playing) s.tick := by
  have hstands := h.toStandsAt.tick
  by_cases hplay : s.playing = true
  · by_cases hp : p < targets.length
    · have htick : s.tick = { s.assign targets[p] with status := .playing } := by
        rw [Stepper.tick, if_pos hplay, h.advance?_of_lt hp]
      rw [htick] at hstands ⊢
      exact ⟨hstands, (Stepper.name_assign s _).trans h.name_eq, iff_of_true hplay rfl, trivial⟩
    · have htick : s.tick = { s with playing := false, status := .complete } := by
        rw [Stepper.tick, if_pos hplay, h.advance?_of_not_lt hp]
      have hplace : tickPlace targets.length p s.playing = targets.length := by
        have hle := h.le_length
        rw [tickPlace, if_pos hplay]
        omega
      rw [htick] at hstands ⊢
      exact of_stopped hstands h.name_eq rfl Status.noConfusion hplace
  · have htick : s.tick = s := if_neg hplay
    have hplace : tickPlace targets.length p s.playing = p := if_neg hplay
    rw [htick, hplace]
    exact h

/-- Whatever the moment, the session is truthful after it. -/
theorem exists_undergo (h : Truthful name targets p s) (m : Moment) :
    ∃ q, Truthful name targets q (s.undergo m) := by
  cases m with
  | input i =>
    cases i with
    | press key =>
      rw [Stepper.undergo, Stepper.receive, Stepper.press]
      cases hkey : key.command? with
      | none => exact ⟨p, h⟩
      | some c => exact ⟨_, h.perform c fun n hn => Key.steps_mem_of_command? (hn ▸ hkey)⟩
    | bounce => exact ⟨p, h⟩
    | noise => exact ⟨p, h⟩
  | tick => exact ⟨_, h.tick⟩
  | draw size => exact ⟨p, h.congr rfl rfl rfl rfl⟩

theorem exists_undergoAll (h : Truthful name targets p s) (ms : List Moment) :
    ∃ q, Truthful name targets q (s.undergoAll ms) := by
  induction ms generalizing p s with
  | nil => exact ⟨p, h⟩
  | cons m ms ih =>
    obtain ⟨q, hq⟩ := h.exists_undergo m
    exact ih hq

end Truthful

end Backstep
