import Backstep.Stepper.Session
import Backstep.Proofs.Pane.TraceEdge
import Backstep.Proofs.Screen.Repaint
import Backstep.Proofs.Stepper.Performed
import Backstep.Proofs.Stepper.TraceApart

/-!
# Tracing changes nothing but the trace

Tracing adds lines to a log and a pane that shows them. Nothing else of a session can tell whether
it is on. For what a session does that is a relation kept by every step. For what it shows there is
more to say: the panes are drawn apart from one another, but a terminal is repainted by differences,
and a wide sign covers the cell behind it, be that in the next row. No sign of the trace pane
reaches beyond its border, so not even the terminal outside it can tell.
-/

namespace Backstep

/-! ## The panes -/

/-- The pane of the trace is the right half of the screen above the last row. -/
theorem Layout.trace_ofSize (size : Size) :
    (ofSize size).trace = ⟨(size.width + 1) / 2, 0, size.width - (size.width + 1) / 2,
      size.height - 1⟩ := by
  simp [ofSize, Size.rect, Rect.ofSize, Rect.splitBottom, Rect.splitTop, Rect.halves]

/-- No cell belongs to the pane of the trace and to another. -/
theorem Layout.not_contains_of_trace {size : Size} {x y : Nat}
    (h : (ofSize size).trace.Contains x y) :
    ¬(ofSize size).summary.Contains x y ∧ ¬(ofSize size).history.Contains x y ∧
      ¬(ofSize size).status.Contains x y := by
  rw [trace_ofSize] at h
  simp only [Rect.Contains, ofSize, Size.rect, Rect.ofSize, Rect.splitBottom, Rect.splitTop,
    Rect.halves] at h ⊢
  omega

namespace Stepper

variable {s t : Stepper}

/-- What a cell outside the pane of the trace shows comes from the other panes, and these do not
look at the trace. -/
theorem SameButTrace.cellAt_drawing (h : SameButTrace s t) {size : Size} {x y : Nat}
    (hxy : ¬(Layout.ofSize size).trace.Contains x y) :
    (s.drawing size).cellAt x y = (t.drawing size).cellAt x y := by
  have hshown := h.settle size
  have hsummary : (s.settle size).summaryPane size = (t.settle size).summaryPane size := by
    rw [summaryPane, summaryPane, hshown.var_alike.snapshot_eq, hshown.next?_eq]
  have hhistory : (s.settle size).historyPane size = (t.settle size).historyPane size := by
    rw [historyPane, historyPane, hshown.var_alike.snapshot_eq, hshown.focus_eq,
      hshown.historyScroll_eq]
  have hstatus : (s.settle size).statusPane size = (t.settle size).statusPane size := by
    rw [statusPane, statusPane, statusBar, statusBar, total, total, hshown.status_eq,
      hshown.position_eq, hshown.targets_eq, hshown.playing_eq]
  have htrace : ∀ (u : Stepper) (cell : Cell), (u.tracePane size).onto x y cell = cell :=
    fun u => (TracePane.within_draw _ _ _ _ _ _).onto_eq hxy
  rw [drawing, drawing, Drawing.cellAt, Drawing.cellAt]
  simp only [Drawing.onto_append, htrace, hsummary, hhistory, hstatus]

/-- The last column of the pane of the trace shows no wide sign. -/
theorem width_cellAt_le (s : Stepper) {size : Size} {x y : Nat}
    (hxy : (Layout.ofSize size).trace.Contains x y) (hx : size.width ≤ x + 1) :
    ((s.drawing size).cellAt x y).width ≤ 1 := by
  obtain ⟨hsummary, hhistory, hstatus⟩ := Layout.not_contains_of_trace hxy
  have hedge : (Layout.ofSize size).trace.x + (Layout.ofSize size).trace.width ≤ x + 1 := by
    rw [Layout.trace_ofSize]
    dsimp only
    omega
  have hnarrow : (s.drawing size).NarrowAt x y :=
    ((((Summary.within_draw _ _ _ _).narrowAt hsummary).append
      ((Changes.within_draw _ _ _ _ _).narrowAt hhistory)).append
      (TracePane.narrowAt_draw hedge _ _ _ _)).append
      ((StatusBar.within_draw _ _ _).narrowAt hstatus)
  exact hnarrow.width_onto_le (Nat.le_of_eq Cell.width_blank)

/-! ## The frames -/

theorem sized_screen (s : Stepper) (size : Size) :
    (s.screen size).Sized size.width size.height := Drawing.sized_rows _ _ _

theorem SameButTrace.cell?_screen (h : SameButTrace s t) {size : Size} {x y : Nat}
    (hxy : ¬(Layout.ofSize size).trace.Contains x y) :
    (s.screen size).cell? x y = (t.screen size).cell? x y := by
  rw [screen, screen, Drawing.cell?_rows, Drawing.cell?_rows, h.cellAt_drawing hxy]

/-- No wide sign of the pane of the trace covers a cell outside: what covers one is either outside
as well or in the last column. -/
theorem SameButTrace.covers_screen (h : SameButTrace s t) {size : Size} {x y : Nat}
    (hxy : ¬(Layout.ofSize size).trace.Contains x y) :
    (s.screen size).covers x y = (t.screen size).covers x y := by
  refine (s.sized_screen size).covers_congr (t.sized_screen size) fun i j hbefore => ?_
  by_cases hij : (Layout.ofSize size).trace.Contains i j
  · have hlast : size.width ≤ i + 1 := by
      rw [Layout.trace_ofSize] at hxy hij
      simp only [Frame.Precedes, Rect.Contains] at hbefore hxy hij
      omega
    have hnone : ∀ u : Stepper,
        ((u.screen size).cell? i j).any (fun cell => 1 < cell.width) = false := by
      intro u
      have hnarrow := u.width_cellAt_le hij hlast
      rw [screen, Drawing.cell?_rows]
      split
      · simpa using hnarrow
      · rfl
    rw [hnone, hnone]
  · rw [h.cell?_screen hij]

end Stepper

/-! ## The terminal -/

/-- Two terminals of the size of a screen show the same outside the pane of the trace, and neither
needs its frame painted again. -/
structure Terminal.SameOutside (size : Size) (t u : Terminal) : Prop where
  left : Faithful size.width size.height t
  right : Faithful size.width size.height u
  cell?_eq : ∀ x y, ¬(Layout.ofSize size).trace.Contains x y →
    t.shown.cell? x y = u.shown.cell? x y

namespace Terminal.SameOutside

variable {size : Size} {t u : Terminal}

open Stepper (SameButTrace)

theorem blank (size : Size) :
    SameOutside size (.blank size.width size.height) (.blank size.width size.height) :=
  ⟨faithful_blank _ _, faithful_blank _ _, fun _ _ _ => rfl⟩

theorem repaint (h : SameOutside size t u) {a b : Stepper} (hab : SameButTrace a b) :
    SameOutside size (t.repaint (a.screen size)) (u.repaint (b.screen size)) where
  left := h.left.repaint (a.sized_screen size)
  right := h.right.repaint (b.sized_screen size)
  cell?_eq := by
    intro x y hxy
    rw [cell?_repaint h.left (a.sized_screen size), cell?_repaint h.right (b.sized_screen size),
      hab.covers_screen hxy, hab.cell?_screen hxy, h.cell?_eq x y hxy]

theorem repaintAll (h : SameOutside size t u) {as bs : List Stepper}
    (hab : List.Forall₂ SameButTrace as bs) :
    SameOutside size (t.repaintAll (as.map (·.screen size)))
      (u.repaintAll (bs.map (·.screen size))) := by
  induction hab generalizing t u with
  | nil => exact h
  | cons hfirst _ ih => exact ih (h.repaint hfirst)

/-- Around any row of occurrences the terminals of two sessions that differ in their trace show the
same outside its pane. -/
theorem foldl_proceed (h : SameOutside size t u) {a b : Stepper} (hab : SameButTrace a b)
    (os : List Occurrence) :
    SameOutside size (os.foldl (Stepper.proceed size) (a, t)).2
      (os.foldl (Stepper.proceed size) (b, u)).2 := by
  induction os generalizing a b t u with
  | nil => exact h
  | cons o os ih => exact ih (h.repaintAll (hab.drawn size o)) (hab.meet size o)

end Terminal.SameOutside

/-! ## Whole sessions -/

namespace Stepper

/-- Two sessions of which a user sees the same outside the pane of the trace. -/
structure SameOutsideTrace (s t : Stepper) : Prop where
  value_eq : s.var.history.value = t.var.history.value
  history_eq : s.var.history = t.var.history
  position_eq : s.position = t.position
  next?_eq : s.next? = t.next?
  message_eq : s.status.message = t.status.message
  focus_eq : s.focus = t.focus
  playing_eq : s.playing = t.playing
  quit_eq : s.quit = t.quit
  historyScroll_eq : s.historyScroll = t.historyScroll
  cellAt_eq : ∀ size x y, ¬(Layout.ofSize size).trace.Contains x y →
    (s.drawing size).cellAt x y = (t.drawing size).cellAt x y

theorem SameButTrace.sameOutsideTrace {s t : Stepper} (h : SameButTrace s t) :
    SameOutsideTrace s t where
  value_eq := congrArg History.value h.var_alike.history_eq
  history_eq := h.var_alike.history_eq
  position_eq := h.position_eq
  next?_eq := h.next?_eq
  message_eq := congrArg Status.message h.status_eq
  focus_eq := h.focus_eq
  playing_eq := h.playing_eq
  quit_eq := h.quit_eq
  historyScroll_eq := h.historyScroll_eq
  cellAt_eq := fun _ _ _ => h.cellAt_drawing

/-- Nothing is ever told to the log of a variable that is not traced. -/
theorem lines_undergoAll_of_not_traced (name : String) (targets : List Int32) (ms : List Moment) :
    ((new (.create name false .empty) targets).undergoAll ms).var.sink.lines = [] := by
  obtain ⟨os, hos⟩ := performs_undergoAll (new (.create name false .empty) targets) ms
  have hnew : (Variable.create name false Trace.empty).history = .ofStack [] :=
    Variable.history_create name false Trace.empty
  have hsink := Variable.sink_performAll_of_history hnew os
  rw [Variable.told, Variable.traced_create] at hsink
  rw [hos]
  exact congrArg Trace.lines hsink

/-- **Tracing changes nothing but the trace.** A session that is traced and one that is not go the
same way through the same moments and the same loop, and are drawn the same outside the pane of the
trace; so are their terminals, however many frames were painted. The log of the second stays empty.
Variables answer and show the same whatever they report to, except when asked whether they are
traced. -/
theorem sameOutsideTrace_of_moments (name : String) (targets : List Int32) :
    let on := Stepper.new (.create name true .empty) targets
    let off := Stepper.new (.create name false .empty) targets
    (∀ ms, SameOutsideTrace (on.undergoAll ms) (off.undergoAll ms) ∧
        (off.undergoAll ms).var.sink.lines = []) ∧
      (∀ os, SameOutsideTrace (on.run os) (off.run os) ∧ (off.run os).var.sink.lines = []) ∧
      (∀ (size : Size) (os : List Occurrence) (x y : Nat),
        ¬(Layout.ofSize size).trace.Contains x y →
          (os.foldl (proceed size) (on, .blank size.width size.height)).2.shown.cell? x y =
            (os.foldl (proceed size) (off, .blank size.width size.height)).2.shown.cell? x y) ∧
      ∀ (σ τ : Type) [Sink σ] [Sink τ] (traced₁ traced₂ : Bool) (sink₁ : σ) (sink₂ : τ)
        (os : List Operation),
        let x := (Variable.create name traced₁ sink₁).performAll os
        let y := (Variable.create name traced₂ sink₂).performAll os
        x.1 = y.1 ∧ x.2.history = y.2.history ∧ ∀ l, l ≠ .traced → x.2.look l = y.2.look l := by
  intro on off
  have hnew : SameButTrace on off := .new name true false .empty .empty targets
  refine ⟨?_, ?_, ?_, ?_⟩
  · intro ms
    exact ⟨(hnew.undergoAll ms).sameOutsideTrace, lines_undergoAll_of_not_traced name targets ms⟩
  · intro os
    obtain ⟨ms, hms⟩ := off.exists_undergoAll_run os
    refine ⟨(hnew.run os).sameOutsideTrace, ?_⟩
    rw [hms]
    exact lines_undergoAll_of_not_traced name targets ms
  · intro size os
    exact ((Terminal.SameOutside.blank size).foldl_proceed hnew os).cell?_eq
  · intro σ τ _ _ traced₁ traced₂ sink₁ sink₂ os
    obtain ⟨hanswers, halike⟩ :=
      (Variable.Alike.create name traced₁ traced₂ sink₁ sink₂).performAll os
    exact ⟨hanswers, halike.history_eq, fun _ => halike.look_eq⟩

/-- The logs of two sessions differ, and neither the message, nor a cell of the status bar as it was
painted, nor the depth of a variable tells them apart. -/
theorem sameOutsideTrace_there_and_back :
    let on := Stepper.new (.create "x" true .empty) [5, 7]
    let off := Stepper.new (.create "x" false .empty) [5, 7]
    let ms : List Moment := [.input (.press .right), .draw ⟨20, 10⟩, .input (.press .left)]
    let os : List Occurrence := [.redraw, .input (.press .right), .tick]
    (on.undergoAll ms).var.sink.lines ≠ (off.undergoAll ms).var.sink.lines ∧
      (on.undergoAll ms).status.message = (off.undergoAll ms).status.message ∧
      ¬(Layout.ofSize ⟨20, 10⟩).trace.Contains 0 9 ∧
      (os.foldl (proceed ⟨20, 10⟩) (on, .blank 20 10)).2.shown.cell? 0 9 =
        (os.foldl (proceed ⟨20, 10⟩) (off, .blank 20 10)).2.shown.cell? 0 9 ∧
      Look.depth ≠ .traced ∧
      ((Variable.create "x" true Trace.empty).performAll [.assign 5]).2.look .depth =
        ((Variable.create "x" false Journal.empty).performAll [.assign 5]).2.look .depth := by
  intro on off ms os
  obtain ⟨hmoments, -, hshown, hlook⟩ := sameOutsideTrace_of_moments "x" [5, 7]
  have houtside : ¬(Layout.ofSize ⟨20, 10⟩).trace.Contains 0 9 := by decide
  have hdepth : Look.depth ≠ .traced := by decide
  exact ⟨by decide, (hmoments ms).1.message_eq, houtside, hshown ⟨20, 10⟩ os 0 9 houtside, hdepth,
    (hlook Trace Journal true false .empty .empty [.assign 5]).2.2 .depth hdepth⟩

/-- The look that asks for the tracing itself is the one that has to be left out. -/
theorem not_forall_look_eq :
    ¬∀ (os : List Operation) (l : Look),
      ((Variable.create "x" true Trace.empty).performAll os).2.look l =
        ((Variable.create "x" false Trace.empty).performAll os).2.look l := by
  intro h
  exact absurd (h [] .traced) (by decide)

end Stepper

end Backstep
