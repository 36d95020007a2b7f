import Backstep.Proofs.Pane.Paging
import Backstep.Proofs.Stepper.Script
import Mathlib.Logic.Function.Iterate

/-!
# Draws between keys

The loop draws before and after every key, and a draw brings the two scroll offsets into range. Most
of these draws do not show in the end: a key that leads to the same screen whether or not the
session was drawn before it needs no draw before it. So a row of such keys in the loop comes to the
same as the row of keys alone with one draw behind it.

## Main definitions

* `Stepper.areaOf`, `Stepper.roomOf` — where a pane that scrolls lies, and what it has room for.
* `Stepper.scrollOf`, `Stepper.lastOffset` — the offset of a pane, and that of its last page.

## Main statements

* `Stepper.scrollOf_settle` — what a draw does to the offset of a pane.
* `Stepper.takeInput_press` — what a key does in the loop.
* `Stepper.iterate_takeInput_press` — what a row of keys does in the loop.
-/

namespace Backstep

namespace Stepper

/-! ## The panes that scroll -/

/-- Where a pane lies. -/
def areaOf (size : Size) : Focus → Rect
  | .history => (Layout.ofSize size).history
  | .trace => (Layout.ofSize size).trace

/-- The number of entries that a pane has room for. -/
def roomOf (size : Size) (f : Focus) : Nat := max 1 ((areaOf size f).height - 2)

def scrollOf (s : Stepper) : Focus → Nat
  | .history => s.historyScroll
  | .trace => s.traceScroll

/-- The number of entries that a pane has to show. -/
def countOf (s : Stepper) : Focus → Nat
  | .history => s.var.depth
  | .trace => s.var.sink.size

/-- The offset of the last page of a pane. -/
def lastOffset (size : Size) (s : Stepper) (f : Focus) : Nat := s.countOf f - roomOf size f

/-- Scrolling moves the offsets and nothing else. -/
theorem rest_scroll (s : Stepper) (move : Nat → Nat) : ∃ historyScroll traceScroll,
    s.scroll move = { s with historyScroll, traceScroll } := by
  rw [scroll]
  cases s.focus <;> exact ⟨_, _, rfl⟩

theorem var_scroll (s : Stepper) (move : Nat → Nat) : (s.scroll move).var = s.var := by
  obtain ⟨historyScroll, traceScroll, h⟩ := s.rest_scroll move
  rw [h]

variable (size : Size)

/-! ## One draw -/

/-- A draw brings the offset of a pane into range. An empty trace has no range. -/
theorem scrollOf_settle (s : Stepper) {f : Focus} (hf : f = .trace → s.var.sink.lines ≠ []) :
    (s.settle size).scrollOf f = min (s.scrollOf f) (s.lastOffset size f) := by
  cases f with
  | history =>
    have hdepth : s.var.snapshot.depth = s.var.depth := s.var.history.length_toList
    change Changes.offset _ _ _ = _
    rw [Changes.offset, Page.clamp_eq_min, Page.capacity_eq, hdepth]
    rfl
  | trace =>
    have hnonempty : ¬ s.var.sink.isEmpty = true := mt s.var.sink.isEmpty_iff.1 (hf rfl)
    change TracePane.offset _ _ _ = _
    rw [TracePane.offset, if_neg hnonempty, Page.clamp_eq_min, Page.capacity_eq]
    rfl

/-- The number of entries of the history that a screen has no room for. -/
def hiddenEntries (s : Stepper) : Nat :=
  s.var.depth - Page.capacity (Layout.ofSize size).history.height

theorem historyScroll_settle (s : Stepper) :
    (s.settle size).historyScroll = min s.historyScroll (s.hiddenEntries size) := by
  have hrange := s.scrollOf_settle size (f := .history) nofun
  rw [hiddenEntries, Page.capacity_eq]
  exact hrange

/-- A draw changes the two offsets and nothing else, and the one of the trace by the log alone. -/
theorem settle_eq (s : Stepper) :
    s.settle size = { s with
      historyScroll := min s.historyScroll (s.hiddenEntries size)
      traceScroll := TracePane.offset (Layout.ofSize size).trace s.var.sink s.traceScroll } := by
  rw [← historyScroll_settle]
  rfl

/-! ## One key -/

/-- The first thing in a turn is a draw. -/
theorem turn_settle (due : Bool) (input : Option Input) (s : Stepper) :
    (s.settle size).turn size due input = s.turn size due input := by
  rw [turn, settle_settle, turn]

/-- The last thing around an occurrence is a draw too. -/
theorem settle_meet (s : Stepper) (o : Occurrence) :
    (s.meet size o).settle size = s.meet size o := by
  cases o <;> exact settle_settle size _

theorem turn_none (s : Stepper) : s.turn size false none = s.settle size := by
  simp [turn]

/-- A key in the loop is handled between two draws, unless the session is to end. -/
theorem takeInput_press {key : Key} (hkey : key ≠ .char ' ') (s : Stepper) :
    s.takeInput size (.press key) =
      if s.quit then s.settle size else ((s.settle size).press key).settle size := by
  have hplay : (Input.press key).isPlayKey = false := by
    rw [Input.isPlayKey, beq_eq_false_iff_ne]
    exact fun h => hkey (Input.press.inj h)
  rw [takeInput, hplay, turn_none, settle_settle, turn]
  have hquit : (s.settle size).quit = s.quit := rfl
  by_cases h : s.quit = true
  · rw [if_pos h, hquit, if_pos h, settle_settle]
  · rw [if_neg h, hquit, if_neg h]
    rfl

theorem takeInput_settle (i : Input) (s : Stepper) :
    (s.settle size).takeInput size i = s.takeInput size i := by
  rw [takeInput, turn_settle, takeInput]

/-! ## Rows of keys -/

/-- In a session that is to end a row of keys is a draw. -/
theorem iterate_takeInput_of_quit {key : Key} (hkey : key ≠ .char ' ') {s : Stepper}
    (hquit : s.quit) (n : Nat) :
    (takeInput size (.press key))^[n + 1] s = s.settle size := by
  have hone : s.takeInput size (.press key) = s.settle size := by
    rw [takeInput_press size hkey, if_pos hquit]
  induction n with
  | zero => exact hone
  | succ n ih => rw [Function.iterate_succ_apply', ih, takeInput_settle, hone]

/-- Keys that need no draw before them need none between them. The sessions `P` are those in which
they need none, and the keys do not lead out of these. -/
theorem iterate_takeInput_press {key : Key} (hkey : key ≠ .char ' ') {P : Stepper → Prop}
    (hpress : ∀ s, P s → P (s.press key)) (hquit : ∀ s, P s → s.quit = false)
    (hdraw : ∀ s, P s → ((s.settle size).press key).settle size = (s.press key).settle size)
    {s : Stepper} (hs : P s) (n : Nat) :
    (takeInput size (.press key))^[n + 1] s = ((press · key)^[n + 1] s).settle size := by
  have hone : ∀ t, P t → t.takeInput size (.press key) = (t.press key).settle size := by
    intro t ht
    rw [takeInput_press size hkey, hquit t ht, hdraw t ht]
    rfl
  induction n with
  | zero => exact hone s hs
  | succ n ih =>
    have hrow : P ((press · key)^[n + 1] s) := Function.Iterate.rec P hs hpress (n + 1)
    have hlast : (press · key)^[n + 1 + 1] s = ((press · key)^[n + 1] s).press key :=
      Function.iterate_succ_apply' _ _ s
    rw [Function.iterate_succ_apply', ih, takeInput_settle, hone _ hrow, hlast]

end Stepper

end Backstep
