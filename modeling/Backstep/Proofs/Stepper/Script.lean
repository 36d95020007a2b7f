import Backstep.Proofs.Stepper.Moment
import Backstep.Proofs.Variable.Stack

/-!
# Where a session stands in its script

A session moves its variable forwards and backwards through many commands, yet it never leaves the
script: at every moment the variable is where assigning some first part of the targets would have
brought it, and the length of that part is the position. Each command moves the position by a rule
of its own that looks at nothing but the position and the length of the script.
-/

namespace Backstep

open History (ofStack)

/-- The stack of the first targets of a script, all of them assigned. -/
def scriptStack (targets : List Int32) (p : Nat) : ValueStack := (targets.take p).reverse

theorem scriptStack_succ {targets : List Int32} {p : Nat} (hp : p < targets.length) :
    scriptStack targets (p + 1) = targets[p] :: scriptStack targets p := by
  rw [scriptStack, List.take_add_one, List.getElem?_eq_getElem hp, Option.toList_some,
    List.reverse_append]
  rfl

theorem length_scriptStack {targets : List Int32} {p : Nat} (hp : p ≤ targets.length) :
    (scriptStack targets p).length = p := by
  rw [scriptStack, List.length_reverse, List.length_take, Nat.min_eq_left hp]

theorem current_scriptStack {targets : List Int32} {p : Nat} (hp : p ≤ targets.length) :
    (0 :: targets)[p]? = some (scriptStack targets p).current := by
  cases p with
  | zero => rfl
  | succ p =>
    rw [scriptStack_succ hp, ValueStack.current_cons, List.getElem?_cons_succ,
      List.getElem?_eq_getElem hp]

theorem tail_scriptStack {targets : List Int32} {p : Nat} (hp : p ≤ targets.length) :
    (scriptStack targets p).tail = scriptStack targets (p - 1) := by
  cases p with
  | zero => rfl
  | succ p => rw [scriptStack_succ hp, List.tail_cons, Nat.add_sub_cancel]

/-- The session stands behind the first `p` of its targets: they are what its variable holds. -/
structure StandsAt (targets : List Int32) (p : Nat) (s : Stepper) : Prop where
  targets_eq : s.targets = targets
  le_length : p ≤ targets.length
  history_eq : s.var.history = ofStack (scriptStack targets p)

/-- Where a tick leads from a position in a script of `n` targets, when playback runs or not. -/
def tickPlace (n p : Nat) (playing : Bool) : Nat := if playing then min (p + 1) n else p

/-- Where a command leads from a position in a script of `n` targets. -/
def Command.place (n p : Nat) : Command → Nat
  | .advance k => min (p + k) n
  | .forward => min (p + 1) n
  | .back => p - 1
  | .jumpToEnd => n
  | .jumpToStart => 0
  | .quit | .switchFocus | .scrollUp | .scrollDown | .togglePlay => p

namespace StandsAt

variable {targets : List Int32} {p : Nat} {s t : Stepper}

/-- Nothing but the variable and the targets matters. -/
theorem congr (h : StandsAt targets p s) (hvar : t.var = s.var) (htargets : t.targets = s.targets) :
    StandsAt targets p t :=
  ⟨htargets.trans h.targets_eq, h.le_length, (congrArg Variable.history hvar).trans h.history_eq⟩

theorem position_eq (h : StandsAt targets p s) : s.position = p := by
  rw [Stepper.position, Variable.depth, h.history_eq, History.depth_ofStack,
    length_scriptStack h.le_length, Nat.add_sub_cancel]

/-- From the end of the script no step leads further. -/
theorem min_add_eq (h : StandsAt targets p s) (hp : ¬ p < targets.length) (n : Nat) :
    min (p + n) targets.length = p := by
  have hle := h.le_length
  omega

theorem next?_eq (h : StandsAt targets p s) : s.next? = targets[p]? := by
  rw [Stepper.next?, h.position_eq, h.targets_eq]

/-! ## Steps forwards -/

theorem assign (h : StandsAt targets p s) (hp : p < targets.length) :
    StandsAt targets (p + 1) (s.assign targets[p]) where
  targets_eq := h.targets_eq
  le_length := hp
  history_eq := by
    rw [scriptStack_succ hp]
    exact Variable.history_assign_of_history h.history_eq _

theorem advance?_of_lt (h : StandsAt targets p s) (hp : p < targets.length) :
    s.advance? = some (s.assign targets[p]) := by
  rw [Stepper.advance?, h.next?_eq, List.getElem?_eq_getElem hp, Option.map_some]

theorem advance?_of_not_lt (h : StandsAt targets p s) (hp : ¬ p < targets.length) :
    s.advance? = none := by
  rw [Stepper.advance?, h.next?_eq, List.getElem?_eq_none (Nat.not_lt.1 hp), Option.map_none]

/-- Several steps forwards go on until they are done or the script ends. -/
theorem advanceUpTo (n : Nat) (h : StandsAt targets p s) :
    (s.advanceUpTo n).1 = min n (targets.length - p) ∧
      StandsAt targets (min (p + n) targets.length) (s.advanceUpTo n).2 := by
  induction n generalizing p s with
  | zero =>
    have hmin : min (p + 0) targets.length = p := Nat.min_eq_left h.le_length
    rw [hmin]
    exact ⟨(Nat.zero_min _).symm, h⟩
  | succ n ih =>
    by_cases hp : p < targets.length
    · obtain ⟨hcount, hstands⟩ := ih (h.assign hp)
      have hplace : p + 1 + n = p + (n + 1) := by omega
      rw [hplace] at hstands
      rw [Stepper.advanceUpTo, h.advance?_of_lt hp]
      refine ⟨?_, hstands⟩
      change ((s.assign targets[p]).advanceUpTo n).1 + 1 = _
      rw [hcount]
      omega
    · have hlast : targets.length - p = 0 := Nat.sub_eq_zero_of_le (Nat.not_lt.1 hp)
      rw [Stepper.advanceUpTo, h.advance?_of_not_lt hp, h.min_add_eq hp, hlast, Nat.min_zero]
      exact ⟨rfl, h⟩

theorem forward (h : StandsAt targets p s) :
    StandsAt targets (min (p + 1) targets.length) s.forward := by
  by_cases hp : p < targets.length
  · rw [Nat.min_eq_left hp, Stepper.forward, h.next?_eq, List.getElem?_eq_getElem hp]
    exact (h.assign hp).congr rfl rfl
  · rw [h.min_add_eq hp, Stepper.forward, h.next?_eq, List.getElem?_eq_none (Nat.not_lt.1 hp)]
    exact h.congr rfl rfl

theorem jumpToEnd (h : StandsAt targets p s) : StandsAt targets targets.length s.jumpToEnd := by
  have hend : min (p + s.targets.length) targets.length = targets.length := by
    rw [h.targets_eq]
    omega
  have hstands := (h.advanceUpTo s.targets.length).2
  rw [hend] at hstands
  exact hstands.congr rfl rfl

/-! ## Steps backwards -/

theorem back (h : StandsAt targets p s) : StandsAt targets (p - 1) s.back where
  targets_eq := h.targets_eq
  le_length := Nat.le_trans (Nat.sub_le p 1) h.le_length
  history_eq := by
    rw [← tail_scriptStack h.le_length]
    exact Variable.history_unassign_of_history h.history_eq

theorem jumpToStart (h : StandsAt targets p s) : StandsAt targets 0 s.jumpToStart where
  targets_eq := h.targets_eq
  le_length := Nat.zero_le _
  history_eq := (Variable.rewind_of_history h.history_eq).2

/-! ## Commands, ticks and draws -/

theorem stopped (h : StandsAt targets p s) : StandsAt targets p s.stopped := h.congr rfl rfl

theorem scroll (h : StandsAt targets p s) (move : Nat → Nat) :
    StandsAt targets p (s.scroll move) := by
  rw [Stepper.scroll]
  split <;> exact h.congr rfl rfl

/-- **What a command does to the place in the script.** -/
theorem perform (h : StandsAt targets p s) (c : Command) :
    StandsAt targets (c.place targets.length p) (s.perform c) := by
  cases c with
  | quit => exact h.congr rfl rfl
  | advance n => exact (h.stopped.advanceUpTo n).2.congr rfl rfl
  | switchFocus => exact h.congr rfl rfl
  | back => exact h.stopped.back
  | forward => exact h.stopped.forward
  | scrollUp => exact h.scroll _
  | scrollDown => exact h.scroll _
  | togglePlay =>
    rw [Stepper.perform, Stepper.togglePlay]
    split <;> exact h.congr rfl rfl
  | jumpToEnd => exact h.stopped.jumpToEnd
  | jumpToStart => exact h.stopped.jumpToStart

/-- **What a tick does to the place in the script.** -/
theorem tick (h : StandsAt targets p s) :
    StandsAt targets (tickPlace targets.length p s.playing) s.tick := by
  rw [tickPlace, Stepper.tick]
  by_cases hplay : s.playing = true
  · rw [if_pos hplay, if_pos hplay]
    by_cases hp : p < targets.length
    · rw [Nat.min_eq_left hp, h.advance?_of_lt hp]
      exact (h.assign hp).congr rfl rfl
    · rw [h.min_add_eq hp, h.advance?_of_not_lt hp]
      exact h.congr rfl rfl
  · rw [if_neg hplay, if_neg hplay]
    exact h

/-- Whatever the moment, the session stands somewhere in its script after it. -/
theorem exists_undergo (h : StandsAt targets p s) (m : Moment) :
    ∃ q, StandsAt targets q (s.undergo m) := by
  cases m with
  | input i =>
    cases i with
    | press key =>
      cases hkey : key.command? with
      | none =>
        refine ⟨p, ?_⟩
        rw [Stepper.undergo, Stepper.receive, Stepper.press, hkey]
        exact h
      | some c =>
        refine ⟨c.place targets.length p, ?_⟩
        rw [Stepper.undergo, Stepper.receive, Stepper.press, hkey]
        exact h.perform c
    | bounce => exact ⟨p, h⟩
    | noise => exact ⟨p, h⟩
  | tick => exact ⟨_, h.tick⟩
  | draw size => exact ⟨p, h.congr rfl rfl⟩

theorem exists_undergoAll (h : StandsAt targets p s) (ms : List Moment) :
    ∃ q, StandsAt targets q (s.undergoAll ms) := by
  induction ms generalizing p s with
  | nil => exact ⟨p, h⟩
  | cons m ms ih =>
    obtain ⟨q, hq⟩ := h.exists_undergo m
    exact ih hq

end StandsAt

/-! ## What a session shows of its place -/

/-- All that a session shows of its place agrees with its script. -/
structure OnScript (targets : List Int32) (s : Stepper) : Prop where
  position_le : s.position ≤ targets.length
  /-- The history is that of any new variable after the first assignments of the script. -/
  history_eq : ∀ (name : String) (traced : Bool) (sink : Trace),
    s.var.history =
      ((targets.take s.position).foldl Variable.assign (.create name traced sink)).history
  heldValues_eq :
    s.var.snapshot.heldValues = 0 :: (targets.take s.position).map Int32.toInt64
  /-- The value is the latest target assigned, or the `0` before all of them. -/
  value_eq : (0 :: targets)[s.position]? = some s.var.history.value
  next?_eq : s.next? = if h : s.position < targets.length then some targets[s.position] else none
  total_eq : s.total = targets.length + 1
  position_lt_total : s.position + 1 ≤ s.total

namespace StandsAt

variable {targets : List Int32} {p : Nat} {s t : Stepper}

theorem onScript (h : StandsAt targets p s) : OnScript targets s := by
  have htotal : s.total = targets.length + 1 := congrArg (·.length + 1) h.targets_eq
  have hposition := h.position_eq
  subst hposition
  refine ⟨h.le_length, ?_, ?_, ?_, ?_, htotal, ?_⟩
  · intro name traced sink
    have hnew : (Variable.create name traced sink).history = ofStack [] :=
      Variable.history_create name traced sink
    rw [Variable.history_foldl_assign hnew, List.append_nil]
    exact h.history_eq
  · change Snapshot.partialSums 0 s.var.history.toList = _
    rw [h.history_eq, History.partialSums_toList_ofStack, scriptStack, List.reverse_reverse]
  · rw [h.history_eq, History.value_ofStack]
    exact current_scriptStack h.le_length
  · rw [h.next?_eq]
    by_cases hp : s.position < targets.length
    · rw [dif_pos hp, List.getElem?_eq_getElem hp]
    · rw [dif_neg hp, List.getElem?_eq_none (Nat.not_lt.1 hp)]
  · rw [htotal]
    exact Nat.succ_le_succ h.le_length

theorem new (name : String) (traced : Bool) (sink : Trace) (targets : List Int32) :
    StandsAt targets 0 (.new (.create name traced sink) targets) :=
  ⟨rfl, Nat.zero_le _, Variable.history_create name traced sink⟩

end StandsAt

/-- The place in the script decides the history. -/
theorem OnScript.history_congr {targets : List Int32} {s t : Stepper} (hs : OnScript targets s)
    (ht : OnScript targets t) (h : s.position = t.position) : s.var.history = t.var.history := by
  rw [hs.history_eq "" false .empty, ht.history_eq "" false .empty, h]

theorem onScript_undergoAll (name : String) (traced : Bool) (sink : Trace) (targets : List Int32)
    (ms : List Moment) :
    OnScript targets ((Stepper.new (.create name traced sink) targets).undergoAll ms) := by
  obtain ⟨p, hp⟩ := (StandsAt.new name traced sink targets).exists_undergoAll ms
  exact hp.onScript

/-- **A session never leaves its script.** Whatever happens to a new session in whatever order, and
so throughout its loop, what it shows of its place agrees with its script. Two sessions of one
script that come to the same place have the same history and value, whatever way each has taken. -/
theorem onScript_of_moments (name₁ name₂ : String) (traced₁ traced₂ : Bool) (sink₁ sink₂ : Trace)
    (targets : List Int32) :
    let start₁ := Stepper.new (.create name₁ traced₁ sink₁) targets
    let start₂ := Stepper.new (.create name₂ traced₂ sink₂) targets
    (∀ ms, OnScript targets (start₁.undergoAll ms)) ∧
      (∀ os, OnScript targets (start₁.run os)) ∧
      ∀ ms ns, (start₁.undergoAll ms).position = (start₂.undergoAll ns).position →
        (start₁.undergoAll ms).var.history = (start₂.undergoAll ns).var.history ∧
          (start₁.undergoAll ms).var.history.value =
            (start₂.undergoAll ns).var.history.value := by
  intro start₁ start₂
  have h₁ := onScript_undergoAll name₁ traced₁ sink₁ targets
  have h₂ := onScript_undergoAll name₂ traced₂ sink₂ targets
  refine ⟨h₁, ?_, ?_⟩
  · intro os
    obtain ⟨ms, hms⟩ := start₁.exists_undergoAll_run os
    rw [hms]
    exact h₁ ms
  · intro ms ns hposition
    have hhistory := (h₁ ms).history_congr (h₂ ns) hposition
    exact ⟨hhistory, congrArg History.value hhistory⟩

/-- Two ways to the first of two targets: one step, and from the end backwards. -/
theorem onScript_one_step_or_back :
    let near := (Stepper.new (.create "x" true .empty) [5, 7]).undergoAll [.input (.press .right)]
    let far := (Stepper.new (.create "y" false .empty) [5, 7]).undergoAll
      [.input (.press .enter), .draw ⟨80, 24⟩, .input .bounce, .input (.press .left), .tick]
    near.position = far.position ∧ near.var.history = far.var.history := by
  intro near far
  have hposition : near.position = far.position := by decide
  exact ⟨hposition,
    ((onScript_of_moments "x" "y" true false .empty .empty [5, 7]).2.2 _ _ hposition).1⟩

end Backstep
