import Backstep.Proofs.Pane.Paging
import Backstep.Proofs.Stepper.Ending
import Backstep.Proofs.Stepper.Performed
import Backstep.Proofs.Variable.Journal

/-!
# Following the trace

The log of a traced session only grows, and whatever adds a line to it also asks for its end. The
two are done in different places: the line is added where the variable is changed, and the end is
asked for where the command is handled. They never come apart, so the next draw shows the lines that
are new, wherever the reader had been. What adds no line leaves the reader alone, except for the
keys that are there to move the trace, and for the way back to the start.
-/

namespace Backstep

/-! ## Logs only grow -/

namespace Variable

theorem exists_sink_assign {σ : Type} [Sink σ] (x : Variable σ) (v : Int32) :
    ∃ e, (x.assign v).sink = x.told [e] := ⟨_, sink_report_eq_told _ _⟩

theorem exists_sink_unassign {σ : Type} [Sink σ] (x : Variable σ) :
    ∃ e, x.unassign.2.sink = x.told [e] := by
  rw [unassign]
  split
  · exact ⟨_, sink_report_eq_told _ _⟩
  · exact ⟨_, sink_report_eq_told _ _⟩

theorem isPrefix_told (x : Variable Trace) (es : List Event) :
    x.sink.lines <+: (x.told es).lines := by
  rw [lines_told]
  split
  · exact List.prefix_append _ _
  · exact List.prefix_rfl

/-- No line is lost when all assignments are undone. -/
theorem isPrefix_rewind (x : Variable Trace) : x.sink.lines <+: x.rewind.2.sink.lines := by
  refine unassignUpTo_induction (P := fun y : Variable Trace => x.sink.lines <+: y.sink.lines) ?_ _
    List.prefix_rfl
  intro y hy
  obtain ⟨e, he⟩ := y.exists_sink_unassign
  rw [he]
  exact hy.trans (y.isPrefix_told [e])

end Variable

namespace Stepper

/-! ## Steps -/

/-- Either the step leaves the log and the offset of the trace alone, or it adds lines to the log
and asks for its end. -/
inductive Follows (s t : Stepper) : Prop
  | still (hsink : t.var.sink = s.var.sink) (hscroll : t.traceScroll = s.traceScroll)
  | grown (hextends : s.var.sink.lines <+: t.var.sink.lines)
      (hmore : s.var.sink.size < t.var.sink.size) (hscroll : t.traceScroll = Page.farthest)

namespace Follows

variable {s t u : Stepper}

theorem refl (s : Stepper) : Follows s s := .still rfl rfl

theorem isPrefix (h : Follows s t) : s.var.sink.lines <+: t.var.sink.lines := by
  cases h with
  | still hsink => exact hsink ▸ List.prefix_rfl
  | grown hextends => exact hextends

theorem size_le (h : Follows s t) : s.var.sink.size ≤ t.var.sink.size := by
  simpa using h.isPrefix.length_le

theorem trans (hst : Follows s t) (htu : Follows t u) : Follows s u := by
  cases htu with
  | still hsink hscroll =>
    cases hst with
    | still hsink' hscroll' => exact .still (hsink.trans hsink') (hscroll.trans hscroll')
    | grown hextends hmore hscroll' =>
      exact .grown (hsink ▸ hextends) (hsink ▸ hmore) (hscroll.trans hscroll')
  | grown hextends hmore hscroll =>
    exact .grown (hst.isPrefix.trans hextends) (Nat.lt_of_le_of_lt hst.size_le hmore) hscroll

/-- Nothing but the log and the offset matters. -/
theorem congr (h : Follows s t) (hvar : u.var = t.var) (hscroll : u.traceScroll = t.traceScroll) :
    Follows s u := h.trans (.still (congrArg Variable.sink hvar) hscroll)

/-- A traced variable that reports an event adds its line. -/
theorem of_told (htraced : s.var.traced = true) (hsink : ∃ e, t.var.sink = s.var.told [e])
    (hscroll : t.traceScroll = Page.farthest) : Follows s t := by
  obtain ⟨e, he⟩ := hsink
  have hlines : t.var.sink.lines = s.var.sink.lines ++ [e.line] := by
    rw [he, Variable.lines_told, if_pos htraced]
    rfl
  refine .grown ?_ ?_ hscroll
  · exact hlines ▸ List.prefix_append _ _
  · rw [← Trace.length_lines, ← Trace.length_lines, hlines, List.length_append]
    exact Nat.lt_succ_self _

end Follows

variable {s : Stepper}

theorem follows_assign (ht : s.var.traced = true) (v : Int32) : Follows s (s.assign v) :=
  .of_told ht (s.var.exists_sink_assign v) rfl

theorem follows_back (ht : s.var.traced = true) : Follows s s.back :=
  .of_told ht s.var.exists_sink_unassign rfl

theorem follows_advanceUpTo (ht : s.var.traced = true) (n : Nat) :
    Follows s (s.advanceUpTo n).2 := by
  refine (advanceUpTo_induction (P := fun t => t.var.traced = true ∧ Follows s t) ?_ n
    ⟨ht, .refl s⟩).2
  rintro t v ⟨htraced, hfollows⟩
  exact ⟨(Variable.traced_assign t.var v).trans htraced,
    hfollows.trans (follows_assign htraced v)⟩

theorem follows_forward (ht : s.var.traced = true) : Follows s s.forward := by
  rw [forward]
  cases s.next? with
  | none => exact .still rfl rfl
  | some v => exact (follows_assign ht v).congr rfl rfl

theorem follows_tick (ht : s.var.traced = true) : Follows s s.tick := by
  by_cases hplay : s.playing = true
  · rw [tick, if_pos hplay, advance?]
    cases s.next? with
    | none => exact .still rfl rfl
    | some v => exact (follows_assign ht v).congr rfl rfl
  · rw [tick, if_neg hplay]
    exact .refl s

end Stepper

/-! ## Commands -/

/-- The commands that may move the trace although no line is new. -/
def Command.MovesTrace (focus : Focus) : Command → Prop
  | .jumpToStart => True
  | .scrollUp | .scrollDown => focus = .trace
  | .quit | .advance _ | .switchFocus | .back | .forward | .togglePlay | .jumpToEnd => False

def Input.MovesTrace (focus : Focus) : Input → Prop
  | .press .backspace => True
  | .press .up | .press .down => focus = .trace
  | _ => False

/-- The moments that may move the trace although no line is new. A draw may, at another size. -/
def Moment.MovesTrace (focus : Focus) : Moment → Prop
  | .input i => i.MovesTrace focus
  | .tick => False
  | .draw _ => True

def Occurrence.MovesTrace (focus : Focus) : Occurrence → Prop
  | .input i => i.MovesTrace focus
  | .tick | .redraw => False

theorem Input.movesTrace_of_command? {focus : Focus} {key : Key} {c : Command}
    (hkey : key.command? = some c) (hc : c.MovesTrace focus) :
    (Input.press key).MovesTrace focus := by
  unfold Key.command? at hkey
  split at hkey
  case h_4 =>
    obtain ⟨n, -, rfl⟩ := Option.map_eq_some_iff.1 hkey
    exact hc
  all_goals cases hkey <;> exact hc

namespace Stepper

theorem traced_undergoAll (s : Stepper) (ms : List Moment) :
    (s.undergoAll ms).var.traced = s.var.traced := by
  obtain ⟨os, hos⟩ := s.performs_undergoAll ms
  rw [hos, Variable.traced_performAll]

variable {s : Stepper}

/-- **What a command does to the trace.** -/
theorem follows_perform (ht : s.var.traced = true) {c : Command} (hc : ¬ c.MovesTrace s.focus) :
    Follows s (s.perform c) := by
  have hstopped : Follows s s.stopped := .still rfl rfl
  have hadvance : ∀ n, Follows s (s.stopped.advanceUpTo n).2 := fun n =>
    hstopped.trans (follows_advanceUpTo (s := s.stopped) ht n)
  have hscroll : ∀ move, s.focus ≠ .trace → Follows s (s.scroll move) := by
    intro move hfocus
    rw [scroll]
    cases hf : s.focus with
    | history => exact .still rfl rfl
    | trace => exact absurd hf hfocus
  cases c with
  | quit => exact .still rfl rfl
  | advance n => exact (hadvance n).congr rfl rfl
  | switchFocus => exact .still rfl rfl
  | back => exact hstopped.trans (follows_back ht)
  | forward => exact hstopped.trans (follows_forward ht)
  | scrollUp => exact hscroll _ hc
  | scrollDown => exact hscroll _ hc
  | togglePlay =>
    rw [perform, togglePlay]
    split <;> exact .still rfl rfl
  | jumpToEnd => exact (hadvance _).congr rfl rfl
  | jumpToStart => exact absurd trivial hc

theorem follows_undergo (ht : s.var.traced = true) {m : Moment} (hm : ¬ m.MovesTrace s.focus) :
    Follows s (s.undergo m) := by
  cases m with
  | input i =>
    cases i with
    | press key =>
      rw [undergo, receive, press]
      cases hkey : key.command? with
      | none => exact .refl s
      | some c => exact follows_perform ht fun hc => hm (Input.movesTrace_of_command? hkey hc)
    | bounce => exact .refl s
    | noise => exact .refl s
  | tick => exact follows_tick ht
  | draw size => exact absurd trivial hm

/-! ## What a screen shows of the trace -/

variable {t u : Stepper} {size : Size} {moved : Prop}

/-- The lines of the trace that a screen shows. -/
def traceShown (size : Size) (s : Stepper) : List String :=
  TracePane.page (Layout.ofSize size).trace s.var.sink (s.settle size).traceScroll

theorem traceShown_congr (hsink : t.var.sink = s.var.sink)
    (hscroll : (t.settle size).traceScroll = (s.settle size).traceScroll) :
    t.traceShown size = s.traceShown size := by
  rw [traceShown, traceShown, hsink, hscroll]

theorem traceShown_settle : (s.settle size).traceShown size = s.traceShown size :=
  traceShown_congr rfl (congrArg traceScroll (settle_settle size s))

/-- A session that asks for the end of its log gets it. -/
theorem traceScroll_settle_of_farthest (hpos : 0 < s.var.sink.size)
    (hle : s.var.sink.size ≤ Page.farthest) (hscroll : s.traceScroll = Page.farthest) :
    (s.settle size).traceScroll = s.lastOffset size .trace := by
  have hlast : s.lastOffset size .trace ≤ Page.farthest := Nat.le_trans (Nat.sub_le _ _) hle
  have hrange := s.scrollOf_settle size (f := .trace) fun _ => by
    rwa [← List.length_pos_iff, Trace.length_lines]
  change (s.settle size).traceScroll = min s.traceScroll _ at hrange
  rw [hrange, hscroll, Nat.min_eq_right hlast]

theorem traceShown_of_farthest (hpos : 0 < s.var.sink.size) (hle : s.var.sink.size ≤ Page.farthest)
    (hscroll : s.traceScroll = Page.farthest) :
    s.traceShown size = s.var.sink.lines.rtake (min (roomOf size .trace) s.var.sink.size) := by
  have hroom : Page.capacity (Layout.ofSize size).trace.height = roomOf size .trace :=
    Page.capacity_eq _
  rw [traceShown, traceScroll_settle_of_farthest hpos hle hscroll, TracePane.page, hroom]
  exact Page.take_length_sub _ _

end Stepper

open Stepper in
/-- What a screen shows of the trace of a session and of a later one: no line is lost, lines that
are new are shown, and if there are none, the screen shows the same as before, unless the trace was
`moved` on purpose. -/
structure FollowsTrace (size : Size) (s t : Stepper) (moved : Prop) : Prop where
  isPrefix : s.var.sink.lines <+: t.var.sink.lines
  /-- The end is shown, as far up as there is room. The lines can be counted by an offset, since
  they fit into memory. -/
  end_shown : s.var.sink.size < t.var.sink.size → t.var.sink.size ≤ Page.farthest →
    (t.settle size).traceScroll = t.lastOffset size .trace ∧
      t.traceShown size = t.var.sink.lines.rtake (min (roomOf size .trace) t.var.sink.size)
  still : t.var.sink.lines = s.var.sink.lines → ¬ moved →
    (t.settle size).traceScroll = (s.settle size).traceScroll ∧
      t.traceShown size = s.traceShown size

namespace FollowsTrace

open Stepper

variable {s t u : Stepper} {size : Size} {moved : Prop}

theorem of_farthest (hextends : s.var.sink.lines <+: t.var.sink.lines)
    (hmore : s.var.sink.size < t.var.sink.size ∨ moved)
    (hscroll : t.traceScroll = Page.farthest) : FollowsTrace size s t moved where
  isPrefix := hextends
  end_shown hlt hle := ⟨traceScroll_settle_of_farthest (Nat.zero_lt_of_lt hlt) hle hscroll,
    traceShown_of_farthest (Nat.zero_lt_of_lt hlt) hle hscroll⟩
  still hlines hmoved := by
    have hsize : t.var.sink.size = s.var.sink.size := by
      rw [← Trace.length_lines, hlines, Trace.length_lines]
    rcases hmore with hlt | hm
    · omega
    · exact absurd hm hmoved

theorem of_sink_eq (hsink : t.var.sink = s.var.sink)
    (hscroll : ¬ moved → (t.settle size).traceScroll = (s.settle size).traceScroll) :
    FollowsTrace size s t moved where
  isPrefix := hsink ▸ List.prefix_rfl
  end_shown hlt := by
    rw [hsink] at hlt
    exact absurd hlt (Nat.lt_irrefl _)
  still _ hmoved := ⟨hscroll hmoved, traceShown_congr hsink (hscroll hmoved)⟩

theorem of_follows (h : Follows s t) : FollowsTrace size s t moved := by
  cases h with
  | still hsink hscroll =>
    refine .of_sink_eq hsink fun _ => ?_
    rw [settle, settle, hsink, hscroll]
  | grown hextends hmore hscroll => exact .of_farthest hextends (.inl hmore) hscroll

/-- Another session with the same log that is shown from the same place will do. -/
theorem congr_left (h : FollowsTrace size s t moved) (hsink : u.var.sink = s.var.sink)
    (hscroll : (u.settle size).traceScroll = (s.settle size).traceScroll) :
    FollowsTrace size u t moved where
  isPrefix := hsink ▸ h.isPrefix
  end_shown := hsink ▸ h.end_shown
  still hlines hmoved := by
    rw [hscroll, traceShown_congr hsink hscroll]
    exact h.still (hsink ▸ hlines) hmoved

/-- Drawing the later session shows what was to be shown. -/
theorem settle_right (h : FollowsTrace size s t moved) :
    FollowsTrace size s (t.settle size) moved where
  isPrefix := h.isPrefix
  end_shown := by
    rw [settle_settle, traceShown_settle]
    exact h.end_shown
  still hlines hmoved := by
    rw [settle_settle, traceShown_settle]
    exact h.still hlines hmoved

theorem mono {moved' : Prop} (h : FollowsTrace size s t moved) (himp : moved → moved') :
    FollowsTrace size s t moved' :=
  ⟨h.isPrefix, h.end_shown, fun hlines hmoved => h.still hlines (mt himp hmoved)⟩

/-- **What a moment does to the trace.** -/
theorem undergo (ht : s.var.traced = true) (m : Moment) :
    FollowsTrace size s (s.undergo m) (m.MovesTrace s.focus) := by
  by_cases hm : m.MovesTrace s.focus
  · have hscroll : ∀ move, (s.scroll move).var.sink = s.var.sink := fun move =>
      congrArg Variable.sink (s.var_scroll move)
    cases m with
    | input i =>
      cases i with
      | press key =>
        cases key with
        | backspace => exact .of_farthest s.var.isPrefix_rewind (.inr hm) rfl
        | up => exact .of_sink_eq (hscroll Page.up) (absurd hm)
        | down => exact .of_sink_eq (hscroll Page.down) (absurd hm)
        | _ => exact False.elim hm
      | bounce => exact False.elim hm
      | noise => exact False.elim hm
    | tick => exact False.elim hm
    | draw size' => exact .of_sink_eq rfl (absurd hm)
  · exact .of_follows (follows_undergo ht hm)

/-- A draw at the same size changes nothing. -/
theorem settle : FollowsTrace size s (s.settle size) moved :=
  .of_sink_eq rfl fun _ => congrArg traceScroll (settle_settle size s)

/-- Between two draws at one size a moment does to the trace what it does without them. -/
theorem undergo_settle (ht : s.var.traced = true) (m : Moment) :
    FollowsTrace size s (((s.settle size).undergo m).settle size) (m.MovesTrace s.focus) := by
  have hshown : FollowsTrace size (s.settle size) ((s.settle size).undergo m)
      (m.MovesTrace s.focus) := undergo (s := s.settle size) ht m
  refine (hshown.congr_left (u := s) rfl ?_).settle_right
  rw [settle_settle]

/-- **What the turns around an occurrence do to the trace.** -/
theorem meet (ht : s.var.traced = true) (o : Occurrence) :
    FollowsTrace size s (s.meet size o) (o.MovesTrace s.focus) := by
  cases hquit : s.quit with
  | true =>
    rw [meet_of_quit size hquit]
    exact .settle
  | false =>
    rw [meet_eq_undergoAll hquit]
    cases o with
    | input i =>
      by_cases hplay : i.isPlayKey = true
      · obtain rfl : i = .press (.char ' ') := eq_of_beq hplay
        -- The key leaves the trace alone, so all that is new comes from the tick behind it.
        have hsame : (s.settle size).togglePlay.var = s.var ∧
            ((s.settle size).togglePlay.settle size).traceScroll = (s.settle size).traceScroll := by
          have hshown : ((s.settle size).settle size).traceScroll =
              (s.settle size).traceScroll := by rw [settle_settle]
          rw [togglePlay]
          split <;> exact ⟨rfl, hshown⟩
        have htick : FollowsTrace size (s.settle size).togglePlay
            ((((s.settle size).togglePlay).settle size).tick.settle size) False :=
          undergo_settle (hsame.1 ▸ ht) .tick
        exact (htick.congr_left (congrArg Variable.sink hsame.1.symm) hsame.2.symm).mono False.elim
      · have htwice : s.undergoAll (meetMoments size (.input i)) =
            ((s.settle size).undergo (.input i)).settle size := by
          rw [Bool.not_eq_true] at hplay
          simp [meetMoments, Stepper.undergo, hplay]
        rw [htwice]
        exact undergo_settle ht (.input i)
    | tick => exact undergo_settle ht .tick
    | redraw => exact .settle

end FollowsTrace

namespace Stepper

/-- **No new line of the trace is missed.** Whatever happens to a new session that is traced, from
one moment to the next the log only grows at its end, lines that are new are shown at the next draw,
and where there are none the trace is shown from the same place, unless a key was there to move it.
So it is with the moments of a session and with what its loop meets. -/
theorem followsTrace_of_moments (name : String) (sink : Trace) (targets : List Int32) :
    let start := Stepper.new (.create name true sink) targets
    (∀ ms size m, FollowsTrace size (start.undergoAll ms) ((start.undergoAll ms).undergo m)
        (m.MovesTrace (start.undergoAll ms).focus)) ∧
      ∀ os size o, FollowsTrace size (start.run os) ((start.run os).meet size o)
        (o.MovesTrace (start.run os).focus) := by
  intro start
  have htraced : ∀ ms, (start.undergoAll ms).var.traced = true := by
    intro ms
    rw [traced_undergoAll]
    exact Variable.traced_create name true sink
  constructor
  · intro ms size m
    exact .undergo (htraced ms) m
  · intro os size o
    obtain ⟨ms, hms⟩ := exists_undergoAll_run start os
    rw [hms]
    exact .meet (htraced ms) o

/-- On a screen with room for one line of the trace a step brings the reader back to the end, and a
step that is refused leaves the reader where he is. -/
theorem followsTrace_of_reader :
    let start := Stepper.new (.create "x" true .empty) [5, 7]
    let size : Size := ⟨20, 4⟩
    let right : Moment := .input (.press .right)
    let lookBack : List Moment := [.draw size, .input (.press .up), .draw size]
    let before := [right, .input (.press .tab)] ++ lookBack
    let s := start.undergoAll before
    let t := start.undergoAll (before ++ right :: lookBack)
    (s.traceScroll = 0 ∧ s.var.sink.size < (s.undergo right).var.sink.size ∧
        (s.undergo right).var.sink.size ≤ Page.farthest ∧
        (s.undergo right).traceShown size = (s.undergo right).var.sink.lines.rtake 1) ∧
      (t.traceScroll = 1 ∧ (t.undergo right).var.sink.lines = t.var.sink.lines ∧
        ¬ right.MovesTrace t.focus ∧
        ((t.undergo right).settle size).traceScroll = (t.settle size).traceScroll ∧
        (t.undergo right).traceShown size = t.traceShown size) := by
  intro start size right lookBack before s t
  obtain ⟨hmoments, -⟩ := followsTrace_of_moments "x" .empty [5, 7]
  have hmore : s.var.sink.size < (s.undergo right).var.sink.size := by decide
  have hfits : (s.undergo right).var.sink.size ≤ Page.farthest := by decide
  have hrefused : (t.undergo right).var.sink.lines = t.var.sink.lines := by decide
  have hkey : ¬ right.MovesTrace t.focus := id
  exact ⟨⟨by decide, hmore, hfits, ((hmoments before size right).end_shown hmore hfits).2⟩,
    by decide, hrefused, hkey, (hmoments _ size right).still hrefused hkey⟩

end Stepper

end Backstep
