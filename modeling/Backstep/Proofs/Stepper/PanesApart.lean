import Backstep.Proofs.Pane.RightEdge
import Backstep.Proofs.Screen.Repaint
import Backstep.Stepper.View

/-!
# Panes that stay apart

The screen is cut into four panes without a gap, however small it is, and each pane draws within
its own part. So the order in which they are drawn does not matter, and a cell shows what its pane
alone would draw there. Two things might spoil this. Drawing settles scroll offsets, but each pane
only its own. And a terminal hides the cell behind a wide sign, but no pane has one at its right
edge.

## Main definitions

* `Pane`, `Layout.area`, `Pane.ofCell` — the panes, where they lie, and the one that has a cell.
* `Stepper.drawPanes` — some panes of a session, drawn one after another.
* `Pane.Confined`, `Stepper.DrawnApart` — what is meant by panes that stay apart.
-/

namespace Backstep

/-! ## Areas -/

/-- The panes of a screen. -/
inductive Pane
  | summary
  | history
  | trace
  | status
  deriving DecidableEq

namespace Pane

/-- The panes in the order in which a screen is drawn. -/
def all : List Pane := [summary, history, trace, status]

theorem mem_all (p : Pane) : p ∈ all := by cases p <;> decide

theorem nodup_all : all.Nodup := by decide

/-- The pane that has a cell of a screen. -/
def ofCell (size : Size) (x y : Nat) : Pane :=
  if size.height ≤ y + 1 then status
  else if (size.width + 1) / 2 ≤ x then trace
  else if 7 ≤ y then history
  else summary

end Pane

namespace Layout

def area (layout : Layout) : Pane → Rect
  | .summary => layout.summary
  | .history => layout.history
  | .trace => layout.trace
  | .status => layout.status

variable {size : Size} {p q : Pane} {x y : Nat}

/-- The cells of a pane are those cells of the screen that it has. -/
theorem contains_area_iff :
    ((ofSize size).area p).Contains x y ↔
      (x < size.width ∧ y < size.height) ∧ Pane.ofCell size x y = p := by
  cases p <;>
    simp only [area, ofSize, Size.rect, Rect.ofSize, Rect.splitBottom, Rect.splitTop, Rect.halves,
      Rect.Contains, Pane.ofCell] <;>
    repeat' split
  all_goals
    simp only [reduceCtorEq, and_false, and_true, iff_false]
    omega

theorem not_contains_of_ne (hp : ((ofSize size).area p).Contains x y) (hpq : p ≠ q) :
    ¬((ofSize size).area q).Contains x y := fun hq =>
  hpq ((contains_area_iff.1 hp).2.symm.trans (contains_area_iff.1 hq).2)

end Layout

/-! ## Drawings of several panes -/

namespace Drawing

variable {f : Pane → Drawing} {ps : List Pane} {x y : Nat}

theorem onto_flatMap_of_forall (h : ∀ p ∈ ps, ∀ cell, (f p).onto x y cell = cell) (cell : Cell) :
    onto (ps.flatMap f) x y cell = cell := by
  induction ps with
  | nil => rfl
  | cons p ps ih =>
    rw [List.flatMap_cons, onto_append, h p List.mem_cons_self]
    exact ih fun q hq => h q (List.mem_cons_of_mem p hq)

/-- Of panes drawn once each, in whatever order, a cell shows the only one that changes it. -/
theorem onto_flatMap_of_unique {p : Pane} (hp : p ∈ ps) (hnodup : ps.Nodup)
    (h : ∀ q, p ≠ q → ∀ cell, (f q).onto x y cell = cell) (cell : Cell) :
    onto (ps.flatMap f) x y cell = (f p).onto x y cell := by
  induction ps generalizing cell with
  | nil => exact absurd hp List.not_mem_nil
  | cons q ps ih =>
    obtain ⟨hq, hrest⟩ := List.nodup_cons.1 hnodup
    rw [List.flatMap_cons, onto_append]
    rcases List.mem_cons.1 hp with rfl | hp
    · exact onto_flatMap_of_forall (fun r hr => h r fun hpr => hq (hpr ▸ hr)) _
    · have hne : p ≠ q := fun hpq => hq (hpq ▸ hp)
      rw [h q hne]
      exact ih hp hrest cell

end Drawing

namespace Stepper

variable {size : Size} {s : Stepper} {p q : Pane} {ps : List Pane} {x y : Nat}

/-- A session after one of its panes was drawn: a pane that is scrolled settles its own offset. -/
def settlePane (size : Size) (s : Stepper) : Pane → Stepper
  | .summary | .status => s
  | .history =>
    { s with
      historyScroll := Changes.offset (Layout.ofSize size).history s.var.snapshot s.historyScroll }
  | .trace =>
    { s with traceScroll := TracePane.offset (Layout.ofSize size).trace s.var.sink s.traceScroll }

/-- A pane of a session, from the offset that the session has. -/
def pane (size : Size) (s : Stepper) : Pane → Drawing
  | .summary => s.summaryPane size
  | .history => s.historyPane size
  | .trace => s.tracePane size
  | .status => s.statusPane size

/-- One pane more is drawn: its offset is settled and shown. -/
def drawPane (size : Size) (drawn : Stepper × Drawing) (p : Pane) : Stepper × Drawing :=
  let shown := drawn.1.settlePane size p
  (shown, drawn.2 ++ shown.pane size p)

/-- Panes drawn one after another, and the session after that. -/
def drawPanes (size : Size) (s : Stepper) (ps : List Pane) : Stepper × Drawing :=
  ps.foldl (drawPane size) (s, [])

/-- The cells of a screen with some panes drawn. -/
def frameOf (size : Size) (s : Stepper) (ps : List Pane) : Frame :=
  (s.drawPanes size ps).2.rows size.width size.height

/-! ## Offsets -/

theorem settlePane_comm (size : Size) (s : Stepper) (p q : Pane) :
    (s.settlePane size p).settlePane size q = (s.settlePane size q).settlePane size p := by
  cases p <;> cases q <;> rfl

theorem foldl_settlePane_all (size : Size) (s : Stepper) :
    Pane.all.foldl (settlePane size) s = s.settle size := rfl

/-- What one pane settles is left as it is when the rest is settled. -/
theorem settle_settlePane (size : Size) (s : Stepper) (p : Pane) :
    (s.settlePane size p).settle size = s.settle size := by
  have hpane : (s.settlePane size p).settle size = (s.settle size).settlePane size p := by
    cases p <;> rfl
  have hagain := settle_settle size s
  simp only [settle, Stepper.mk.injEq, true_and, and_true] at hagain
  rw [hpane]
  cases p with
  | summary => rfl
  | history =>
    simp only [settlePane, settle, Stepper.mk.injEq, true_and, and_true]
    exact hagain.1
  | trace =>
    simp only [settlePane, settle, Stepper.mk.injEq, true_and, and_true]
    exact hagain.2
  | status => rfl

/-- A pane shows the same when it alone is settled as when the whole session is. -/
theorem pane_settlePane (size : Size) (s : Stepper) (p : Pane) :
    (s.settlePane size p).pane size p = (s.settle size).pane size p := by
  cases p <;> rfl

/-- Whatever panes are drawn, each is drawn as it is on the settled session. -/
theorem drawPanes_eq (size : Size) (s : Stepper) (ps : List Pane) :
    s.drawPanes size ps =
      (ps.foldl (settlePane size) s, ps.flatMap ((s.settle size).pane size)) := by
  have hfrom : ∀ (t : Stepper) (d : Drawing), ps.foldl (drawPane size) (t, d) =
      (ps.foldl (settlePane size) t, d ++ ps.flatMap ((t.settle size).pane size)) := by
    induction ps with
    | nil => simp
    | cons p ps ih =>
      intro t d
      rw [List.foldl_cons, drawPane, ih, List.foldl_cons, List.flatMap_cons, settle_settlePane,
        pane_settlePane, List.append_assoc]
  exact hfrom s []

/-- A screen is its four panes drawn in turn. -/
theorem drawPanes_all (size : Size) (s : Stepper) :
    s.drawPanes size Pane.all = (s.settle size, s.drawing size) := by
  rw [drawPanes_eq, foldl_settlePane_all]
  simp [Pane.all, pane, drawing]

/-! ## Cells -/

theorem within_pane (size : Size) (s : Stepper) (p : Pane) :
    (s.pane size p).Within ((Layout.ofSize size).area p) := by
  cases p with
  | summary => exact Summary.within_draw _ _ _ _
  | history => exact Changes.within_draw _ _ _ _ _
  | trace => exact TracePane.within_draw _ _ _ _ _ _
  | status => exact StatusBar.within_draw _ _ _

/-- No sign of a pane reaches beyond its right edge. -/
theorem narrowAt_pane (s : Stepper)
    (hx : ((Layout.ofSize size).area p).x + ((Layout.ofSize size).area p).width ≤ x + 1) :
    (s.pane size p).NarrowAt x y := by
  cases p with
  | summary => exact Summary.narrowAt_draw hx _ _
  | history => exact Changes.narrowAt_draw hx _ _ _
  | trace => exact TracePane.narrowAt_draw hx _ _ _ _
  | status => exact StatusBar.narrowAt_draw hx _

/-- A cell shows what its pane draws there, whatever other panes are drawn before and after. -/
theorem cellAt_drawPanes (s : Stepper) (hp : p ∈ ps) (hnodup : ps.Nodup)
    (hxy : ((Layout.ofSize size).area p).Contains x y) :
    (s.drawPanes size ps).2.cellAt x y = ((s.settle size).pane size p).cellAt x y := by
  rw [drawPanes_eq]
  refine Drawing.onto_flatMap_of_unique hp hnodup (fun q hpq cell => ?_) .blank
  exact (within_pane size _ q).onto_eq (Layout.not_contains_of_ne hxy hpq) cell

/-- The cells of a pane that is not drawn stay blank. -/
theorem cellAt_drawPanes_of_notMem (s : Stepper) (hp : p ∉ ps)
    (hxy : ((Layout.ofSize size).area p).Contains x y) :
    (s.drawPanes size ps).2.cellAt x y = .blank := by
  rw [drawPanes_eq]
  refine Drawing.onto_flatMap_of_forall (fun q hq cell => ?_) .blank
  have hpq : p ≠ q := fun h => hp (h ▸ hq)
  exact (within_pane size _ q).onto_eq (Layout.not_contains_of_ne hxy hpq) cell

/-- The last column of a pane has no wide sign, whatever panes are drawn. -/
theorem width_cellAt_drawPanes_le (s : Stepper) (hnodup : ps.Nodup)
    (hxy : ((Layout.ofSize size).area p).Contains x y)
    (hnext : ¬((Layout.ofSize size).area p).Contains (x + 1) y) :
    ((s.drawPanes size ps).2.cellAt x y).width ≤ 1 := by
  have hblank : Cell.blank.width ≤ 1 := Nat.le_of_eq Cell.width_blank
  have hedge : ((Layout.ofSize size).area p).x + ((Layout.ofSize size).area p).width ≤ x + 1 := by
    simp only [Rect.Contains] at hxy hnext
    omega
  by_cases hp : p ∈ ps
  · rw [s.cellAt_drawPanes hp hnodup hxy]
    exact ((s.settle size).narrowAt_pane hedge).width_onto_le hblank
  · rw [s.cellAt_drawPanes_of_notMem hp hxy]
    exact hblank

/-! ## Frames -/

theorem sized_frameOf (size : Size) (s : Stepper) (ps : List Pane) :
    (s.frameOf size ps).Sized size.width size.height := Drawing.sized_rows _ _ _

theorem frameOf_all (size : Size) (s : Stepper) : s.frameOf size Pane.all = s.screen size := by
  rw [frameOf, drawPanes_all, screen]

section TwoFrames

variable {qs : List Pane} (s : Stepper) (hps : ps.Nodup) (hqs : qs.Nodup)
  (hp : p ∈ ps) (hq : p ∈ qs) (hxy : ((Layout.ofSize size).area p).Contains x y)

include hps hqs hp hq hxy in
/-- Two frames that have a pane in common agree on its cells, -/
theorem cell?_frameOf_eq : (s.frameOf size ps).cell? x y = (s.frameOf size qs).cell? x y := by
  rw [frameOf, frameOf, Drawing.cell?_rows, Drawing.cell?_rows, s.cellAt_drawPanes hp hps hxy,
    s.cellAt_drawPanes hq hqs hxy]

include hps hqs hp hq hxy in
/-- and on which of them are covered: what covers a cell of the pane is itself in the pane, for
behind the last column of any other no cell is. -/
theorem covers_frameOf_eq : (s.frameOf size ps).covers x y = (s.frameOf size qs).covers x y := by
  obtain ⟨⟨hx, hy⟩, -⟩ := Layout.contains_area_iff.1 hxy
  refine (s.sized_frameOf size ps).covers_congr (s.sized_frameOf size qs) ?_
  intro i j hij
  have hcell : i < size.width ∧ j < size.height := by
    simp only [Frame.Precedes] at hij
    omega
  have hown : ((Layout.ofSize size).area (Pane.ofCell size i j)).Contains i j :=
    Layout.contains_area_iff.2 ⟨hcell, rfl⟩
  by_cases hsame : Pane.ofCell size i j = p
  · rw [s.cell?_frameOf_eq hps hqs hp hq (hsame ▸ hown)]
  · have hnext : ¬((Layout.ofSize size).area (Pane.ofCell size i j)).Contains (i + 1) j := by
      rcases hij with ⟨rfl, rfl⟩ | ⟨hi, -, -⟩
      · exact Layout.not_contains_of_ne hxy (Ne.symm hsame)
      · intro h
        have hlast := (Layout.contains_area_iff.1 h).1.1
        omega
    have hnarrow : ∀ {rs : List Pane}, rs.Nodup →
        ((s.frameOf size rs).cell? i j).any (fun cell => 1 < cell.width) = false := by
      intro rs hrs
      rw [frameOf, Drawing.cell?_rows, if_pos hcell]
      simpa using s.width_cellAt_drawPanes_le hrs hown hnext
    rw [hnarrow hps, hnarrow hqs]

end TwoFrames

end Stepper

/-! ## Panes apart -/

/-- No pane changes a cell outside the area it is given, whatever the cell shows and whatever the
pane is told to draw. -/
structure Pane.Confined (screen area : Rect) : Prop where
  summary : ∀ (snapshot : Snapshot) (next : Option Int32) (x y : Nat) (cell : Cell),
    ¬area.Contains x y → (Summary.draw screen area snapshot next).onto x y cell = cell
  history : ∀ (snapshot : Snapshot) (focused : Bool) (offset x y : Nat) (cell : Cell),
    ¬area.Contains x y → (Changes.draw screen area snapshot focused offset).onto x y cell = cell
  trace : ∀ (log : Trace) (traced focused : Bool) (offset x y : Nat) (cell : Cell),
    ¬area.Contains x y →
      (TracePane.draw screen area log traced focused offset).onto x y cell = cell
  status : ∀ (bar : StatusBar) (x y : Nat) (cell : Cell),
    ¬area.Contains x y → (bar.draw screen area).onto x y cell = cell

theorem Pane.confined (screen area : Rect) : Pane.Confined screen area where
  summary := fun _ _ _ _ cell h => (Summary.within_draw _ _ _ _).onto_eq h cell
  history := fun _ _ _ _ _ cell h => (Changes.within_draw _ _ _ _ _).onto_eq h cell
  trace := fun _ _ _ _ _ _ cell h => (TracePane.within_draw _ _ _ _ _ _).onto_eq h cell
  status := fun _ _ _ cell h => (StatusBar.within_draw _ _ _).onto_eq h cell

namespace Stepper

/-- The panes of a session are apart on a screen. -/
structure DrawnApart (size : Size) (s : Stepper) : Prop where
  /-- No cell belongs to two panes, -/
  disjoint : ∀ p q, p ≠ q → ∀ x y, ¬(((Layout.ofSize size).area p).Contains x y ∧
    ((Layout.ofSize size).area q).Contains x y)
  /-- and the cells of the screen are those of its panes. -/
  cover : ∀ x y, x < size.width ∧ y < size.height ↔
    ∃ p, ((Layout.ofSize size).area p).Contains x y
  /-- In whatever order the panes are drawn, the session is the same afterwards, -/
  session_eq : ∀ ps : List Pane, ps.Perm Pane.all → (s.drawPanes size ps).1 = s.settle size
  /-- and so is the screen. -/
  frame_eq : ∀ ps : List Pane, ps.Perm Pane.all → s.frameOf size ps = s.screen size
  /-- A cell is drawn as if its pane were the only one, -/
  cell?_eq : ∀ p x y, ((Layout.ofSize size).area p).Contains x y →
    (s.screen size).cell? x y = (s.frameOf size [p]).cell? x y
  /-- and a terminal shows it as if its pane were the only one. -/
  shown_eq : ∀ (t : Terminal), t.Faithful size.width size.height → ∀ p x y,
    ((Layout.ofSize size).area p).Contains x y →
      (t.repaint (s.screen size)).shown.cell? x y =
        (t.repaint (s.frameOf size [p])).shown.cell? x y

theorem fst_drawPanes_of_perm (s : Stepper) (hps : ps.Perm Pane.all) :
    (s.drawPanes size ps).1 = s.settle size := by
  rw [drawPanes_eq, ← foldl_settlePane_all]
  exact hps.foldl_eq' (fun p _ q _ t => settlePane_comm size t p q) s

theorem frameOf_of_perm (s : Stepper) (hps : ps.Perm Pane.all) :
    s.frameOf size ps = s.screen size := by
  have hnodup : ps.Nodup := hps.nodup_iff.2 Pane.nodup_all
  rw [← frameOf_all]
  refine (s.sized_frameOf size ps).ext (s.sized_frameOf size Pane.all) fun x y => ?_
  by_cases hxy : x < size.width ∧ y < size.height
  · exact s.cell?_frameOf_eq hnodup Pane.nodup_all (hps.mem_iff.2 (Pane.mem_all _))
      (Pane.mem_all _) (Layout.contains_area_iff.2 ⟨hxy, rfl⟩)
  · rw [frameOf, frameOf, Drawing.cell?_rows, Drawing.cell?_rows, if_neg hxy, if_neg hxy]

/-- **Panes never draw over each other.** A pane changes no cell outside the area that it is given.
A screen of any size, however small, gives each of its cells to exactly one pane; so the panes of
any session may be drawn in any order, and each cell shows what its own pane alone would draw there,
on the screen and on a terminal that the screen is painted on. -/
theorem drawnApart_and_confined (size : Size) (s : Stepper) :
    s.DrawnApart size ∧ ∀ screen area : Rect, Pane.Confined screen area := by
  refine ⟨?_, Pane.confined⟩
  have hall : ∀ p : Pane, [p].Nodup := fun p => List.pairwise_singleton _ p
  exact {
    disjoint := fun p q hpq x y h => Layout.not_contains_of_ne h.1 hpq h.2
    cover := fun x y =>
      ⟨fun hxy => ⟨_, Layout.contains_area_iff.2 ⟨hxy, rfl⟩⟩,
        fun ⟨_, hp⟩ => (Layout.contains_area_iff.1 hp).1⟩
    session_eq := fun _ => s.fst_drawPanes_of_perm
    frame_eq := fun _ => s.frameOf_of_perm
    cell?_eq := by
      intro p x y hxy
      rw [← frameOf_all]
      exact s.cell?_frameOf_eq Pane.nodup_all (hall p) (Pane.mem_all p) List.mem_cons_self hxy
    shown_eq := by
      intro t ht p x y hxy
      rw [← frameOf_all, Terminal.cell?_repaint ht (s.sized_frameOf size Pane.all),
        Terminal.cell?_repaint ht (s.sized_frameOf size [p]),
        s.covers_frameOf_eq Pane.nodup_all (hall p) (Pane.mem_all p) List.mem_cons_self hxy,
        s.cell?_frameOf_eq Pane.nodup_all (hall p) (Pane.mem_all p) List.mem_cons_self hxy] }

/-- A name with one wide sign too many is cut before the border, and drawn backwards the screen is
the same. -/
theorem drawnApart_with_wide_name :
    let s := Stepper.new (.create "日本語日" true .empty) [5]
    let size : Size := ⟨20, 10⟩
    let backwards : List Pane := [.status, .trace, .history, .summary]
    backwards.Perm Pane.all ∧ (s.drawPanes size backwards).1 = s.settle size ∧
      s.frameOf size backwards = s.screen size ∧
      Pane.summary ≠ .trace ∧ ((Layout.ofSize size).area .summary).Contains 8 1 ∧
      ¬((Layout.ofSize size).area .trace).Contains 8 1 ∧
      ((s.screen size).cell? 6 1).map (·.symbol) = some "語" ∧
      ((s.screen size).cell? 8 1).map (·.symbol) = some " " ∧
      (s.screen size).cell? 8 1 = (s.frameOf size [.summary]).cell? 8 1 ∧
      ((Terminal.blank 20 10).repaint (s.screen size)).shown.cell? 8 1 =
        ((Terminal.blank 20 10).repaint (s.frameOf size [.summary])).shown.cell? 8 1 ∧
      (Summary.draw size.rect ((Layout.ofSize size).area .trace) s.var.snapshot none).onto 8 1
        .blank = .blank := by
  intro s size backwards
  obtain ⟨hapart, hconfined⟩ := drawnApart_and_confined size s
  have hperm : backwards.Perm Pane.all := by decide
  have hpanes : Pane.summary ≠ .trace := by decide
  have hcell : ((Layout.ofSize size).area .summary).Contains 8 1 := by decide
  have hother : ¬((Layout.ofSize size).area .trace).Contains 8 1 := fun h =>
    hapart.disjoint .summary .trace hpanes 8 1 ⟨hcell, h⟩
  exact ⟨hperm, hapart.session_eq backwards hperm, hapart.frame_eq backwards hperm, hpanes, hcell,
    hother, by decide +kernel, by decide +kernel, hapart.cell?_eq .summary 8 1 hcell,
    hapart.shown_eq (.blank 20 10) (Terminal.faithful_blank 20 10) .summary 8 1 hcell,
    (hconfined size.rect ((Layout.ofSize size).area .trace)).summary s.var.snapshot none 8 1 .blank
      hother⟩

end Stepper

end Backstep
