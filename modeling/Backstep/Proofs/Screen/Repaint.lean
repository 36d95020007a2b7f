import Backstep.Screen.Terminal

/-!
# What a terminal shows

A repaint compares two frames and paints what differs, so what a terminal shows seems to depend on
all the frames it was ever given. It does not: the rules for wide signs are such that a cell shows
the last frame in which it was not behind a wide sign. So a repaint comes to the same as painting
the whole frame, without a look at the one before, over every cell that no wide sign covers.

## Main definitions

* `Terminal.overlay` — cells painted over others, except those behind a wide sign.
* `Terminal.Faithful` — a terminal on which its frame need not be painted again.
* `Frame.cell?`, `Frame.covers` — a cell of a frame, and whether a wide sign covers it.
-/

namespace Backstep

/-! ## Frames and their cells -/

namespace Frame

/-- The cell in a column and row, if there is one. -/
def cell? (f : Frame) (x y : Nat) : Option Cell := f[y]?.bind (·[x]?)

/-- The cell before it as rows are read: the one to its left, or the last of the row above. -/
def before? (f : Frame) : Nat → Nat → Option Cell
  | 0, 0 => none
  | 0, y + 1 => f[y]?.bind (·.getLast?)
  | x + 1, y => f.cell? x y

/-- Whether a cell lies behind a wide sign. -/
def covers (f : Frame) (x y : Nat) : Bool := (f.before? x y).any fun cell => 1 < cell.width

/-- A frame has so many columns and rows. -/
structure Sized (width height : Nat) (f : Frame) : Prop where
  length_eq : f.length = height
  length_of_mem : ∀ row ∈ f, row.length = width

variable {width height : Nat} {f : Frame}

theorem sized_blank (width height : Nat) : Sized width height (.blank width height) where
  length_eq := List.length_replicate
  length_of_mem := by
    intro row hrow
    rw [List.eq_of_mem_replicate hrow, List.length_replicate]

theorem Sized.of_cons {row : List Cell} (h : Sized width height (row :: f)) :
    row.length = width ∧ Sized width (height - 1) f where
  left := h.length_of_mem row List.mem_cons_self
  right := {
    length_eq := by
      rw [← h.length_eq]
      rfl
    length_of_mem := fun r hr => h.length_of_mem r (List.mem_cons_of_mem _ hr) }

theorem Sized.cons {row : List Cell} (hrow : row.length = width) (h : Sized width height f) :
    Sized width (height + 1) (row :: f) where
  length_eq := congrArg (· + 1) h.length_eq
  length_of_mem := by
    intro r hr
    rcases List.mem_cons.1 hr with rfl | hr
    · exact hrow
    · exact h.length_of_mem r hr

theorem Sized.length_flatten (h : Sized width height f) : f.flatten.length = height * width := by
  have hlengths : f.map List.length = List.replicate height width := by
    rw [List.eq_replicate_iff, List.length_map]
    refine ⟨h.length_eq, ?_⟩
    intro n hn
    obtain ⟨row, hrow, rfl⟩ := List.mem_map.1 hn
    exact h.length_of_mem row hrow
  rw [List.length_flatten, hlengths, List.sum_replicate_nat]

theorem cell?_of_le (h : Sized width height f) {x : Nat} (hx : width ≤ x) (y : Nat) :
    f.cell? x y = none := by
  rw [cell?, Option.bind_eq_none_iff]
  intro row hrow
  rw [List.getElem?_eq_none_iff, h.length_of_mem row (List.mem_of_getElem? hrow)]
  exact hx

/-- A frame of a size is known by its cells. -/
theorem Sized.ext {g : Frame} (hf : Sized width height f) (hg : Sized width height g)
    (h : ∀ x y, f.cell? x y = g.cell? x y) : f = g := by
  refine List.ext_getElem (hf.length_eq.trans hg.length_eq.symm) fun y hy hy' => ?_
  refine List.ext_getElem? fun x => ?_
  have hcell := h x y
  rwa [cell?, cell?, List.getElem?_eq_getElem hy, List.getElem?_eq_getElem hy',
    Option.bind_some, Option.bind_some] at hcell

/-- Before the first cell of a row stands the last one of the row above. -/
theorem before?_zero_succ (h : Sized width height f) (y : Nat) :
    f.before? 0 (y + 1) = f.cell? (width - 1) y := by
  rw [before?, cell?]
  refine Option.bind_congr ?_
  intro row hrow
  rw [List.getLast?_eq_getElem?, h.length_of_mem row (List.mem_of_getElem? hrow)]

/-- As rows of a width are read, one cell comes right before another. -/
def Precedes (width i j x y : Nat) : Prop :=
  (i + 1 = x ∧ j = y) ∨ (i = width - 1 ∧ x = 0 ∧ j + 1 = y)

/-- Whether a cell is covered is a matter of the one before it. -/
theorem Sized.covers_congr {g : Frame} (hf : Sized width height f) (hg : Sized width height g)
    {x y : Nat}
    (h : ∀ i j, Precedes width i j x y →
      (f.cell? i j).any (fun cell => 1 < cell.width) =
        (g.cell? i j).any fun cell => 1 < cell.width) :
    f.covers x y = g.covers x y := by
  rw [covers, covers]
  cases x with
  | zero =>
    cases y with
    | zero =>
      have hfirst : ∀ k : Frame, k.before? 0 0 = none := fun _ => rfl
      rw [hfirst, hfirst]
    | succ y =>
      rw [before?_zero_succ hf, before?_zero_succ hg]
      exact h _ _ (.inr ⟨rfl, rfl, rfl⟩)
  | succ x => exact h x y (.inl ⟨rfl, rfl⟩)

/-- The cells of a frame as they are read, one row after another. -/
theorem getElem?_flatten (h : Sized width height f) {x : Nat} (hx : x < width) (y : Nat) :
    f.flatten[y * width + x]? = f.cell? x y := by
  induction f generalizing height y with
  | nil => rfl
  | cons row f ih =>
    obtain ⟨hrow, hrest⟩ := h.of_cons
    rw [List.flatten_cons]
    cases y with
    | zero =>
      rw [Nat.zero_mul, Nat.zero_add, List.getElem?_append_left (by rw [hrow]; exact hx)]
      rfl
    | succ y =>
      have hindex : (y + 1) * width + x = width + (y * width + x) := by
        rw [Nat.succ_mul, Nat.add_comm _ width, Nat.add_assoc]
      rw [hindex, ← hrow, List.getElem?_append_right (Nat.le_add_right _ _),
        Nat.add_sub_cancel_left, hrow]
      exact ih hrest y

end Frame

namespace Drawing

variable (d : Drawing) (width height : Nat)

theorem sized_rows : (d.rows width height).Sized width height where
  length_eq := by simp [rows]
  length_of_mem := by
    intro row hrow
    obtain ⟨y, -, rfl⟩ := List.mem_map.1 hrow
    simp

/-- A frame with a drawing on it holds what the drawing shows. -/
theorem cell?_rows (x y : Nat) : (d.rows width height).cell? x y =
    if x < width ∧ y < height then some (d.cellAt x y) else none := by
  by_cases hy : y < height
  · by_cases hx : x < width
    · simp [rows, Frame.cell?, hx, hy, cellAt_filter_row]
    · simp [rows, Frame.cell?, hx, hy]
  · simp [rows, Frame.cell?, hy]

end Drawing

namespace Terminal

/-! ## Rows in one sequence -/

/-- A repaint goes on from one piece of a row to the next with the reach that the first one has. -/
theorem repaintRow_append {shown₁ old₁ new₁ : List Cell} (shown₂ old₂ new₂ : List Cell)
    (hshown : shown₁.length = new₁.length) (hold : old₁.length = new₁.length) (r : Reach) :
    repaintRow r (shown₁ ++ shown₂) (old₁ ++ old₂) (new₁ ++ new₂) =
      repaintRow r shown₁ old₁ new₁ ++ repaintRow (r.past old₁ new₁) shown₂ old₂ new₂ := by
  induction new₁ generalizing shown₁ old₁ r with
  | nil =>
    rw [List.length_nil, List.length_eq_zero_iff] at hshown hold
    subst hshown hold
    rfl
  | cons new new₁ ih =>
    obtain ⟨cell, shown₁, rfl⟩ := List.exists_cons_of_length_eq_add_one hshown
    obtain ⟨old, old₁, rfl⟩ := List.exists_cons_of_length_eq_add_one hold
    rw [List.length_cons, List.length_cons, Nat.add_right_cancel_iff] at hshown hold
    simp only [List.cons_append, repaintRow, Reach.past, ih hshown hold]

theorem length_repaintRow {shown old new : List Cell} (hshown : shown.length = new.length)
    (hold : old.length = new.length) (r : Reach) :
    (repaintRow r shown old new).length = new.length := by
  induction new generalizing shown old r with
  | nil =>
    rw [List.length_nil, List.length_eq_zero_iff] at hshown hold
    subst hshown hold
    rfl
  | cons new rest ih =>
    obtain ⟨cell, shown, rfl⟩ := List.exists_cons_of_length_eq_add_one hshown
    obtain ⟨old, before, rfl⟩ := List.exists_cons_of_length_eq_add_one hold
    rw [List.length_cons, List.length_cons, Nat.add_right_cancel_iff] at hshown hold
    rw [repaintRow, List.length_cons, ih hshown hold, List.length_cons]

/-- The rows of a terminal are repainted like one row, for the reach of a sign does not stop at the
end of a row. -/
theorem repaintRows_of_sized {width height : Nat} {shown old new : Frame}
    (hshown : shown.Sized width height) (hold : old.Sized width height)
    (hnew : new.Sized width height) (r : Reach) :
    (repaintRows r shown old new).Sized width height ∧
      (repaintRows r shown old new).flatten =
        repaintRow r shown.flatten old.flatten new.flatten := by
  induction new generalizing shown old height r with
  | nil =>
    have hheight : 0 = height := hnew.length_eq
    subst hheight
    obtain rfl := List.length_eq_zero_iff.1 hshown.length_eq
    obtain rfl := List.length_eq_zero_iff.1 hold.length_eq
    exact ⟨hnew, rfl⟩
  | cons new rest ih =>
    have hheight : rest.length + 1 = height := hnew.length_eq
    subst hheight
    obtain ⟨row, shown, rfl⟩ := List.exists_cons_of_length_eq_add_one hshown.length_eq
    obtain ⟨old, before, rfl⟩ := List.exists_cons_of_length_eq_add_one hold.length_eq
    obtain ⟨hrow, hshown⟩ := hshown.of_cons
    obtain ⟨hold₁, hold⟩ := hold.of_cons
    obtain ⟨hnew₁, hnew⟩ := hnew.of_cons
    obtain ⟨hsized, hflatten⟩ := ih hshown hold hnew (r.past old new)
    have hrow' : row.length = new.length := hrow.trans hnew₁.symm
    have hold' : old.length = new.length := hold₁.trans hnew₁.symm
    rw [repaintRows]
    refine ⟨hsized.cons ((length_repaintRow hrow' hold' r).trans hnew₁), ?_⟩
    rw [List.flatten_cons, hflatten, List.flatten_cons, List.flatten_cons, List.flatten_cons,
      repaintRow_append _ _ _ hrow' hold']

/-! ## Painting over -/

/-- Cells painted over those that are shown, except the ones behind a wide sign. The first `covered`
cells lie behind a sign that stands before them. -/
def overlay (covered : Nat) : List Cell → List Cell → List Cell
  | cell :: shown, new :: rest =>
    (if covered = 0 then new else cell) :: overlay (new.width - 1) shown rest
  | _, _ => []

@[simp] theorem overlay_self (covered : Nat) (cells : List Cell) :
    overlay covered cells cells = cells := by
  induction cells generalizing covered with
  | nil => rfl
  | cons cell cells ih => rw [overlay, ite_self, ih]

/-- Painting the same cells over once more changes nothing. -/
@[simp] theorem overlay_overlay (covered : Nat) (shown new : List Cell) :
    overlay covered (overlay covered shown new) new = overlay covered shown new := by
  induction new generalizing covered shown with
  | nil => cases shown <;> rfl
  | cons new rest ih =>
    cases shown with
    | nil => rfl
    | cons cell shown =>
      rw [overlay, overlay, ih]
      split <;> rfl

/-- **The comparison does not matter.** If the frame before need not be painted again, a repaint of
what differs comes to painting the frame after over all cells. A cell that the two frames agree on
and that no sign of either comes near is left out, but it shows what they agree on. -/
theorem repaintRow_eq_overlay {shown old new : List Cell} {covered : Nat} {r : Reach}
    (hlength : old.length = new.length) (hshown : overlay covered shown old = shown)
    (hcovered : covered ≤ r.touched) :
    repaintRow r shown old new = overlay r.covered shown new := by
  induction new generalizing shown old covered r with
  | nil =>
    obtain rfl := List.length_eq_zero_iff.1 hlength
    cases shown <;> rfl
  | cons new rest ih =>
    obtain ⟨old, before, rfl⟩ := List.exists_cons_of_length_eq_add_one hlength
    rw [List.length_cons, List.length_cons, Nat.add_right_cancel_iff] at hlength
    cases shown with
    | nil => rfl
    | cons cell shown =>
      rw [overlay, List.cons.injEq] at hshown
      obtain ⟨hcell, hshown⟩ := hshown
      have hreach : old.width - 1 ≤ (r.next old new).touched := by
        simp only [Reach.next]
        omega
      have hrest : repaintRow (r.next old new) shown before rest =
          overlay (new.width - 1) shown rest := ih hlength hshown hreach
      rw [repaintRow, hrest, overlay]
      congr 1
      by_cases hpaint : new ≠ old ∨ 0 < r.touched
      · simp only [hpaint, and_true]
      · obtain ⟨hsame, htouched⟩ := not_or.1 hpaint
        have hzero : covered = 0 := by omega
        rw [if_pos hzero] at hcell
        simp [Decidable.not_not.1 hsame, hcell]

/-! ## Terminals -/

/-- A terminal of a size on which its frame need not be painted again. -/
structure Faithful (width height : Nat) (t : Terminal) : Prop where
  frame_sized : t.frame.Sized width height
  shown_sized : t.shown.Sized width height
  overlay_eq : overlay 0 t.shown.flatten t.frame.flatten = t.shown.flatten

theorem faithful_blank (width height : Nat) : Faithful width height (.blank width height) where
  frame_sized := Frame.sized_blank width height
  shown_sized := Frame.sized_blank width height
  overlay_eq := overlay_self 0 _

namespace Faithful

variable {width height : Nat} {t : Terminal} {f : Frame}

theorem flatten_shown_repaint (h : Faithful width height t) (hf : f.Sized width height) :
    (t.repaint f).shown.flatten = overlay 0 t.shown.flatten f.flatten := by
  have hlength : t.frame.flatten.length = f.flatten.length := by
    rw [h.frame_sized.length_flatten, hf.length_flatten]
  rw [repaint, (repaintRows_of_sized h.shown_sized h.frame_sized hf .none).2,
    repaintRow_eq_overlay hlength h.overlay_eq (Nat.zero_le _)]
  rfl

/-- A repaint keeps a terminal faithful, whatever the frame. -/
theorem repaint (h : Faithful width height t) (hf : f.Sized width height) :
    Faithful width height (t.repaint f) where
  frame_sized := hf
  shown_sized := (repaintRows_of_sized h.shown_sized h.frame_sized hf .none).1
  overlay_eq := by
    rw [h.flatten_shown_repaint hf, frame_repaint, overlay_overlay]

end Faithful

/-- What stands at a place after cells were painted over others. -/
theorem getElem?_overlay_succ {shown new : List Cell} (hlength : shown.length = new.length)
    (covered i : Nat) :
    (overlay covered shown new)[i + 1]? =
      if new[i]?.any (1 < ·.width) then shown[i + 1]? else new[i + 1]? := by
  induction new generalizing shown covered i with
  | nil =>
    obtain rfl := List.length_eq_zero_iff.1 hlength
    rfl
  | cons new rest ih =>
    obtain ⟨cell, shown, rfl⟩ := List.exists_cons_of_length_eq_add_one hlength
    rw [List.length_cons, List.length_cons, Nat.add_right_cancel_iff] at hlength
    rw [overlay, List.getElem?_cons_succ, List.getElem?_cons_succ, List.getElem?_cons_succ]
    cases i with
    | zero =>
      -- The next cell is painted unless this one is wide, whatever covers this one.
      cases rest with
      | nil =>
        obtain rfl := List.length_eq_zero_iff.1 hlength
        simp [overlay]
      | cons next rest =>
        obtain ⟨cell, shown, rfl⟩ := List.exists_cons_of_length_eq_add_one hlength
        rw [overlay, List.getElem?_cons_zero, List.getElem?_cons_zero, List.getElem?_cons_zero,
          List.getElem?_cons_zero, Option.any_some]
        by_cases hwide : 1 < new.width
        · have hcovered : new.width - 1 ≠ 0 := by omega
          simp [hwide, hcovered]
        · have hfree : new.width - 1 = 0 := by omega
          simp [hwide, hfree]
    | succ i => exact ih hlength _ i

theorem getElem?_overlay_zero {shown new : List Cell} (hlength : shown.length = new.length) :
    (overlay 0 shown new)[0]? = new[0]? := by
  cases new with
  | nil =>
    obtain rfl := List.length_eq_zero_iff.1 hlength
    rfl
  | cons new rest =>
    obtain ⟨cell, shown, rfl⟩ := List.exists_cons_of_length_eq_add_one hlength
    rfl

/-- **What a terminal shows.** After a repaint a cell shows what the frame holds, unless it lies
behind a wide sign of the frame; then it keeps what it showed. -/
theorem cell?_repaint {width height : Nat} {t : Terminal} {f : Frame} (h : Faithful width height t)
    (hf : f.Sized width height) (x y : Nat) :
    (t.repaint f).shown.cell? x y = if f.covers x y then t.shown.cell? x y else f.cell? x y := by
  have hshown := (h.repaint hf).shown_sized
  by_cases hx : x < width
  · have hlength : t.shown.flatten.length = f.flatten.length := by
      rw [h.shown_sized.length_flatten, hf.length_flatten]
    rw [← Frame.getElem?_flatten hshown hx, ← Frame.getElem?_flatten h.shown_sized hx,
      ← Frame.getElem?_flatten hf hx, h.flatten_shown_repaint hf, Frame.covers]
    cases x with
    | zero =>
      cases y with
      | zero =>
        rw [Nat.zero_mul, getElem?_overlay_zero hlength]
        rfl
      | succ y =>
        have hlast : f.before? 0 (y + 1) = f.flatten[y * width + (width - 1)]? := by
          rw [Frame.before?_zero_succ hf, Frame.getElem?_flatten hf (Nat.sub_lt hx Nat.one_pos)]
        have hindex : (y + 1) * width + 0 = y * width + (width - 1) + 1 := by
          rw [Nat.succ_mul]
          omega
        rw [hlast, hindex, getElem?_overlay_succ hlength]
    | succ x =>
      have hbefore : f.before? (x + 1) y = f.flatten[y * width + x]? :=
        (Frame.getElem?_flatten hf (Nat.lt_of_succ_lt hx) y).symm
      rw [hbefore, ← Nat.add_assoc, getElem?_overlay_succ hlength]
  · have hx : width ≤ x := Nat.not_lt.1 hx
    rw [Frame.cell?_of_le hshown hx, Frame.cell?_of_le h.shown_sized hx, Frame.cell?_of_le hf hx,
      ite_self]

/-- Painting a frame again changes nothing. -/
theorem Faithful.repaint_repaint {width height : Nat} {t : Terminal} {f : Frame}
    (h : Faithful width height t) (hf : f.Sized width height) :
    (t.repaint f).repaint f = t.repaint f := by
  have hagain := h.repaint hf
  have hshown : ((t.repaint f).repaint f).shown = (t.repaint f).shown := by
    refine (hagain.repaint hf).shown_sized.ext hagain.shown_sized fun x y => ?_
    rw [cell?_repaint hagain hf, cell?_repaint h hf]
    split <;> rfl
  exact congrArg (Terminal.mk f) hshown

end Terminal

end Backstep
