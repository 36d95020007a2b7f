import Backstep.Proofs.Stepper.Draw
import Backstep.Proofs.Stepper.FollowTrace

/-!
# One row at a time

An offset may lie anywhere: far beyond the end of its list, because the end was asked for, or a
little beyond it, because the list or the screen became smaller. The draw before a key brings it
into range, so a key that moves it by one moves the page by one row, also the first time. The draw
behind the key stops it at the last full page.
-/

namespace Backstep

namespace Stepper

/-! ## What the two panes show -/

variable (size : Size) (s : Stepper)

def entriesOf : Focus → List Entry
  | .history => (Changes.rows s.var.snapshot).map ChangeRow.entry
  | .trace => s.var.sink.lines.map TracePane.entry

/-- The entries that a pane shows. -/
def shownOf (f : Focus) : List Entry :=
  match f with
  | .history => (Changes.page (areaOf size f) s.var.snapshot s.historyScroll).map ChangeRow.entry
  | .trace => (TracePane.page (areaOf size f) s.var.sink s.traceScroll).map TracePane.entry

variable {size s} {t : Stepper}

theorem shownOf_eq_take (f : Focus) :
    s.shownOf size f = Page.take (roomOf size f) (s.scrollOf f) (s.entriesOf f) := by
  have hroom : Page.capacity (areaOf size f).height = roomOf size f := Page.capacity_eq _
  cases f with
  | history =>
    rw [shownOf, Changes.page, hroom, Page.take, List.map_take, List.map_drop]
    rfl
  | trace =>
    rw [shownOf, TracePane.page, hroom, Page.take, List.map_take, List.map_drop]
    rfl

theorem length_entriesOf (f : Focus) : (s.entriesOf f).length = s.countOf f := by
  cases f with
  | history =>
    rw [entriesOf, List.length_map, Changes.length_rows]
    exact s.var.history.length_toList
  | trace =>
    rw [entriesOf, List.length_map, Trace.length_lines]
    rfl

/-- A pane with its offset in range shows a full page. -/
theorem shows_of_le {f : Focus} (h : s.scrollOf f ≤ s.lastOffset size f) :
    Page.Shows (s.entriesOf f) (roomOf size f) (s.scrollOf f) (s.shownOf size f) := by
  rw [lastOffset, ← length_entriesOf] at h
  rw [shownOf_eq_take]
  exact Page.shows_take h

/-- What a draw makes of an offset depends on the variable and on that offset only. -/
theorem scrollOf_settle_congr (hvar : t.var = s.var) {f : Focus}
    (h : t.scrollOf f = s.scrollOf f) :
    (t.settle size).scrollOf f = (s.settle size).scrollOf f := by
  cases f with
  | history =>
    change Changes.offset _ t.var.snapshot (t.scrollOf .history) = _
    rw [hvar, h]
    rfl
  | trace =>
    change TracePane.offset _ t.var.sink (t.scrollOf .trace) = _
    rw [hvar, h]
    rfl

theorem entriesOf_congr (hvar : t.var = s.var) (f : Focus) : t.entriesOf f = s.entriesOf f := by
  cases f <;> simp only [entriesOf, hvar]

theorem countOf_congr (hvar : t.var = s.var) (f : Focus) : t.countOf f = s.countOf f := by
  rw [← length_entriesOf, entriesOf_congr hvar, length_entriesOf]

/-- Sessions that differ at most in their offsets are the same if their offsets are. -/
theorem eq_of_scrollOf
    (hrest : ∃ historyScroll traceScroll, t = { s with historyScroll, traceScroll })
    (h : ∀ f, t.scrollOf f = s.scrollOf f) : t = s := by
  obtain ⟨a, b, rfl⟩ := hrest
  obtain rfl : a = s.historyScroll := h .history
  obtain rfl : b = s.traceScroll := h .trace
  rfl

/-! ## Scrolling -/

/-- Scrolling moves the offset of the pane with the focus. -/
theorem scrollOf_scroll (move : Nat → Nat) (f : Focus) :
    (s.scroll move).scrollOf f =
      if f = s.focus then move (s.scrollOf f) else s.scrollOf f := by
  rw [scroll]
  cases s.focus <;> cases f <;> rfl

/-- Scrolling a session that was drawn and drawing it again moves the offset as far as the pane has
range. -/
theorem settle_scroll_settle (hfocus : s.focus = .trace → s.var.sink.lines ≠ [])
    (move : Nat → Nat) : ((s.settle size).scroll move).settle size =
      (s.settle size).scroll fun offset => min (move offset) (s.lastOffset size s.focus) := by
  have hvar : ((s.settle size).scroll move).var = s.var := var_scroll _ move
  refine eq_of_scrollOf ?_ fun f => ?_
  · rw [scroll, scroll]
    cases (s.settle size).focus <;> exact ⟨_, _, rfl⟩
  · by_cases hf : f = (s.settle size).focus
    · have hrange : (((s.settle size).scroll move).settle size).scrollOf f =
          min (((s.settle size).scroll move).scrollOf f)
            (((s.settle size).scroll move).lastOffset size f) :=
        scrollOf_settle size _ fun htrace => hvar ▸ hfocus (hf ▸ htrace)
      have hlast : ((s.settle size).scroll move).lastOffset size f = s.lastOffset size s.focus := by
        rw [lastOffset, countOf_congr hvar, hf]
        rfl
      rw [hrange, hlast, scrollOf_scroll, if_pos hf, scrollOf_scroll, if_pos hf]
    · have hsame : ((s.settle size).scroll move).scrollOf f = (s.settle size).scrollOf f := by
        rw [scrollOf_scroll, if_neg hf]
      rw [scrollOf_settle_congr (s := s.settle size) hvar hsame, settle_settle, scrollOf_scroll,
        if_neg hf]

/-- A key that scrolls does so between two draws. -/
theorem takeInput_scroll (hquit : s.quit = false)
    (hfocus : s.focus = .trace → s.var.sink.lines ≠ []) {key : Key} (hkey : key ≠ .char ' ')
    {move : Nat → Nat} (hmove : ∀ t : Stepper, t.press key = t.scroll move) :
    s.takeInput size (.press key) =
      (s.settle size).scroll fun offset => min (move offset) (s.lastOffset size s.focus) := by
  rw [takeInput_press size hkey, hquit, hmove]
  exact settle_scroll_settle hfocus move

end Stepper

open Stepper

/-- The later session shows the page of the pane with the focus that starts at an offset, and it is
the earlier one in all else. -/
structure ScrollsTo (size : Size) (s t : Stepper) (offset : Nat) : Prop where
  scroll_eq : t.scrollOf s.focus = offset
  /-- The page is full, or holds all there is. -/
  shows : Page.Shows (t.entriesOf s.focus) (roomOf size s.focus) offset (t.shownOf size s.focus)
  other_eq : t.scrollOf s.focus.other = s.scrollOf s.focus.other
  /-- The variable is the same, its log included. -/
  var_eq : t.var = s.var
  targets_eq : t.targets = s.targets
  focus_eq : t.focus = s.focus
  quit_eq : t.quit = s.quit
  status_eq : t.status = s.status
  playing_eq : t.playing = s.playing

/-- What the two keys that scroll do to a session on a screen. What counts is the session that is
shown when the key is pressed. -/
structure ScrollsByRow (size : Size) (s : Stepper) : Prop where
  scroll_le : (s.settle size).scrollOf s.focus ≤ s.lastOffset size s.focus
  shows : Page.Shows (s.entriesOf s.focus) (roomOf size s.focus) ((s.settle size).scrollOf s.focus)
    ((s.settle size).shownOf size s.focus)
  up : ScrollsTo size (s.settle size) (s.takeInput size (.press .up))
    (if 0 < (s.settle size).scrollOf s.focus then (s.settle size).scrollOf s.focus - 1 else 0)
  /-- The entries can be counted by an offset, since they fit into memory. -/
  down : s.countOf s.focus ≤ Page.farthest →
    ScrollsTo size (s.settle size) (s.takeInput size (.press .down))
      (if (s.settle size).scrollOf s.focus < s.lastOffset size s.focus
        then (s.settle size).scrollOf s.focus + 1 else (s.settle size).scrollOf s.focus)
  /-- Who asked for the end is shown the last page, so a key up leads off it at once. -/
  from_farthest : s.scrollOf s.focus = Page.farthest → s.countOf s.focus ≤ Page.farthest →
    (s.settle size).scrollOf s.focus = s.lastOffset size s.focus

namespace Stepper

variable {size : Size} {s : Stepper}

theorem scrollsTo_scroll {move : Nat → Nat} {offset : Nat}
    (hmove : move (s.scrollOf s.focus) = offset) (hle : offset ≤ s.lastOffset size s.focus) :
    ScrollsTo size s (s.scroll move) offset := by
  have hother : s.focus.other ≠ s.focus := by cases s.focus <;> decide
  have hscroll : (s.scroll move).scrollOf s.focus = offset := by
    rw [scrollOf_scroll, if_pos rfl, hmove]
  have hrest : (s.scroll move).scrollOf s.focus.other = s.scrollOf s.focus.other := by
    rw [scrollOf_scroll, if_neg hother]
  have hshows : Page.Shows ((s.scroll move).entriesOf s.focus) (roomOf size s.focus) offset
      ((s.scroll move).shownOf size s.focus) := by
    rw [lastOffset, ← countOf_congr (s.var_scroll move)] at hle
    have hrange : (s.scroll move).scrollOf s.focus ≤ (s.scroll move).lastOffset size s.focus :=
      hscroll ▸ hle
    exact hscroll ▸ shows_of_le hrange
  obtain ⟨historyScroll, traceScroll, hmoved⟩ := s.rest_scroll move
  refine ⟨hscroll, hshows, hrest, s.var_scroll move, ?_, ?_, ?_, ?_, ?_⟩
  all_goals rw [hmoved]

/-- **A key that scrolls moves the page by one row.** -/
theorem scrollsByRow_of_not_quit (hquit : s.quit = false)
    (hfocus : s.focus = .trace → s.var.sink.lines ≠ []) : ScrollsByRow size s := by
  have hshown : (s.settle size).scrollOf s.focus =
      min (s.scrollOf s.focus) (s.lastOffset size s.focus) := s.scrollOf_settle size hfocus
  have hle : (s.settle size).scrollOf s.focus ≤ s.lastOffset size s.focus :=
    hshown ▸ Nat.min_le_right _ _
  have hlast : s.lastOffset size s.focus ≤ s.countOf s.focus := Nat.sub_le _ _
  refine ⟨hle, shows_of_le (s := s.settle size) hle, ?_, ?_, ?_⟩
  · have hup : ∀ t : Stepper, t.press .up = t.scroll Page.up := fun _ => rfl
    rw [takeInput_scroll hquit hfocus (by decide) hup]
    refine scrollsTo_scroll (s := s.settle size) ?_ ?_
    · change min (Page.up ((s.settle size).scrollOf s.focus)) _ = _
      rw [Page.up]
      split <;> omega
    · change _ ≤ s.lastOffset size s.focus
      split <;> omega
  · intro hcount
    have hdown : ∀ t : Stepper, t.press .down = t.scroll Page.down := fun _ => rfl
    rw [takeInput_scroll hquit hfocus (by decide) hdown]
    refine scrollsTo_scroll (s := s.settle size) ?_ ?_
    · change min (Page.down ((s.settle size).scrollOf s.focus)) _ = _
      rw [Page.down]
      split <;> omega
    · change _ ≤ s.lastOffset size s.focus
      split <;> omega
  · intro hend hcount
    rw [hshown, hend]
    omega

/-- A session that is told to quit adds no line. -/
theorem quit_meet_of_size_lt {o : Occurrence}
    (hmore : s.var.sink.size < (s.meet size o).var.sink.size) : (s.meet size o).quit = false := by
  cases hquit : s.quit with
  | true =>
    rw [meet_of_quit size hquit] at hmore
    exact absurd hmore (Nat.lt_irrefl _)
  | false =>
    rw [quit_meet, hquit, Bool.false_or, ← Bool.not_eq_true]
    intro hkey
    cases o with
    | input i =>
      have hturn : s.turn size false (some i) = { s.settle size with quit := true } := by
        rw [turn_eq_undergoAll hquit]
        exact receive_of_isQuitKey (s.settle size) hkey
      rw [meet, takeInput, hturn, turn_of_quit size rfl] at hmore
      exact absurd hmore (Nat.lt_irrefl _)
    | tick => cases hkey
    | redraw => cases hkey

/-- **Every key that scrolls moves its page by one row.** Whatever has happened to a new session,
the keys up and down move the page of the pane with the focus by one row, unless it is the first or
the last page already, and nothing else. That is so also where the end of the trace was asked for:
behind anything that adds a line, the first key up leads one row off the end. -/
theorem scrollsByRow_of_moments (name : String) (traced : Bool) (sink : Trace)
    (targets : List Int32) :
    let start := Stepper.new (.create name traced sink) targets
    (∀ ms size, (start.undergoAll ms).quit = false →
        ((start.undergoAll ms).focus = .trace → (start.undergoAll ms).var.sink.lines ≠ []) →
        ScrollsByRow size (start.undergoAll ms)) ∧
      (traced = true → ∀ os size o,
        let s := start.run os
        let t := s.meet size o
        s.var.sink.size < t.var.sink.size → t.var.sink.size ≤ Page.farthest → t.focus = .trace →
          t.traceScroll = t.lastOffset size .trace ∧
            (t.takeInput size (.press .up)).traceScroll = t.traceScroll - 1) := by
  intro start
  refine ⟨fun ms size hquit hfocus => scrollsByRow_of_not_quit hquit hfocus, ?_⟩
  intro htraced os size o s t hmore hfits hfocus
  subst htraced
  have htrace : FollowsTrace size s t (o.MovesTrace s.focus) := by
    obtain ⟨ms, hms⟩ := exists_undergoAll_run start os
    refine .meet ?_ o
    change (start.run os).var.traced = true
    rw [hms, traced_undergoAll]
    exact Variable.traced_create name true sink
  have hdrawn : t.settle size = t := settle_meet size s o
  have hlast : t.traceScroll = t.lastOffset size .trace := by
    rw [← hdrawn]
    exact (htrace.end_shown hmore hfits).1
  have hkeys : ScrollsByRow size t := by
    refine scrollsByRow_of_not_quit (quit_meet_of_size_lt hmore) fun _ => ?_
    rw [← List.length_pos_iff, Trace.length_lines]
    exact Nat.zero_lt_of_lt hmore
  have hup := hkeys.up.scroll_eq
  rw [hdrawn, hfocus] at hup
  change (t.takeInput size (.press .up)).traceScroll =
    if 0 < t.traceScroll then t.traceScroll - 1 else 0 at hup
  refine ⟨hlast, ?_⟩
  rw [hup]
  split <;> omega

/-- On a screen with room for one line of the trace the first key up leads one line off the end,
whether or not the end was drawn before. -/
theorem scrollsByRow_of_reader :
    let start := Stepper.new (.create "x" true .empty) [5, 7]
    let size : Size := ⟨20, 4⟩
    let step : Occurrence := .input (.press .right)
    let os : List (Size × Occurrence) := [(size, .input (.press .tab)), (size, step)]
    let s := start.run os
    let ms : List Moment := [.input (.press .tab), .input (.press .right), .input (.press .right)]
    ((start.undergoAll ms).quit = false ∧
        ((start.undergoAll ms).focus = .trace → (start.undergoAll ms).var.sink.lines ≠ []) ∧
        ScrollsByRow size (start.undergoAll ms) ∧
        (start.undergoAll ms).traceScroll = Page.farthest ∧
        ((start.undergoAll ms).takeInput size (.press .up)).traceScroll = 1) ∧
      (s.var.sink.size < (s.meet size step).var.sink.size ∧
        (s.meet size step).var.sink.size ≤ Page.farthest ∧ (s.meet size step).focus = .trace ∧
        (s.meet size step).traceScroll = 2 ∧
        ((s.meet size step).takeInput size (.press .up)).traceScroll = 2 - 1) := by
  intro start size step os s ms
  obtain ⟨hmoments, hloop⟩ := scrollsByRow_of_moments "x" true .empty [5, 7]
  have hquit : (start.undergoAll ms).quit = false := rfl
  have hlines : (start.undergoAll ms).focus = .trace →
      (start.undergoAll ms).var.sink.lines ≠ [] := fun _ => List.cons_ne_nil _ _
  have hmore : s.var.sink.size < (s.meet size step).var.sink.size := by decide
  have hfits : (s.meet size step).var.sink.size ≤ Page.farthest := by decide
  have hfocus : (s.meet size step).focus = .trace := by decide
  obtain ⟨-, hup⟩ := hloop rfl os size step hmore hfits hfocus
  have htwo : (s.meet size step).traceScroll = 2 := by decide
  exact ⟨⟨hquit, hlines, hmoments ms size hquit hlines, by decide, by decide⟩,
    hmore, hfits, hfocus, htwo, htwo ▸ hup⟩

end Stepper

end Backstep
