import Backstep.Screen.Drawing
import Backstep.Screen.Glyph

/-!
# Text and boxes on a screen

The strokes that write text into a row and that draw a box. Text is written in two ways. Running
text leaves out what takes no column and what is wider than the whole area. A label keeps every
glyph: those that take no column join the cell before them, and a wide one wipes the cells that it
hides.

A box occupies the outermost cells of its area, and where two of its edges fall together the later
stroke of the list below wins, so that a box of one row is its top edge.
-/

namespace Backstep.Drawing

/-! ## Running text -/

/-- Glyphs side by side in row `y` from column `x` on. -/
def place (y : Nat) : Nat → List StyledGlyph → Drawing
  | _, [] => []
  | x, g :: rest => ⟨x, y, .write g.1.symbol g.2⟩ :: place y (x + g.1.width) rest

/-- Glyphs in the first row of an area, as far as they fit. -/
def writeLeft (r : Rect) (gs : List StyledGlyph) : Drawing :=
  if r.height = 0 then [] else place r.y r.x (fitting r.width gs)

/-- Glyphs in the first row of an area, as far as they fit, with the last one at its right edge. -/
def writeRight (r : Rect) (gs : List StyledGlyph) : Drawing :=
  let shown := fitting r.width gs
  if r.height = 0 then [] else place r.y (r.x + (r.width - totalWidth shown)) shown

/-- The glyphs of a line that take a column and are not wider than the whole area. -/
def placeable (r : Rect) (line : Line) : List StyledGlyph :=
  line.glyphs.filter fun g => 0 < g.1.width && g.1.width ≤ r.width

/-- A line of text in the first row of an area. -/
def text (r : Rect) (line : Line) : Drawing := writeLeft r (placeable r line)

/-- Lines of text in the rows of an area; those below its last row are dropped. -/
def lines (r : Rect) (ls : List Line) : Drawing :=
  (r.rows.zip ls).flatMap fun (row, line) => text row line

/-! ## Labels -/

/-- The cells that a glyph of the given width hides behind the one in column `x` of row `y`. -/
def hide (x y width : Nat) : Drawing :=
  (List.range (width - 1)).map fun k => ⟨x + 1 + k, y, .wipe⟩

/-- The glyphs of a span that started in column `start`, from column `x` of row `y` up to the
first one that passes the edge. While the first cell is not left, glyphs join it. -/
def spell (y start edge : Nat) : Nat → List StyledGlyph → Drawing
  | _, [] => []
  | x, g :: rest =>
    if edge < x + g.1.width then []
    else
      (if x = start then ⟨x, y, .append g.1.symbol g.2⟩
        else if g.1.width = 0 then ⟨x - 1, y, .append g.1.symbol g.2⟩
        else ⟨x, y, .write g.1.symbol g.2⟩)
        :: hide x y g.1.width ++ spell y start edge (x + g.1.width) rest

/-- A span from column `x` of row `y` up to the edge. -/
def span (y edge x : Nat) (s : Span) : Drawing :=
  match s.glyphs with
  | [] => []
  | g :: rest =>
    if edge < x + g.1.width then []
    else ⟨x, y, .write g.1.symbol g.2⟩
      :: hide x y g.1.width ++ spell y x edge (x + g.1.width) rest

/-- Spans side by side in row `y` from column `x` up to the edge. -/
def spans (y edge : Nat) : Nat → Line → Drawing
  | _, [] => []
  | x, s :: rest => if x < edge then span y edge x s ++ spans y edge (x + s.width) rest else []

/-- A line as a label in the first row of an area. A line without width is not written at all. -/
def label (r : Rect) (line : Line) : Drawing :=
  if r.height = 0 ∨ line.width = 0 then [] else spans r.y (r.x + r.width) r.x line

/-! ## Boxes -/

/-- One sign written into every cell of an area. -/
def fill (r : Rect) (symbol : String) (style : Style) : Drawing :=
  r.cells.map fun (x, y) => ⟨x, y, .write symbol style⟩

/-- The edges and corners of a box on an area with at least one cell, in the order of drawing. -/
def edges (r : Rect) (style : Style) : Drawing :=
  let right := r.x + (r.width - 1)
  let bottom := r.y + (r.height - 1)
  fill ⟨r.x, r.y, 1, r.height⟩ "│" style
    ++ fill ⟨r.x, r.y, r.width, 1⟩ "─" style
    ++ fill ⟨right, r.y, 1, r.height⟩ "│" style
    ++ fill ⟨r.x, bottom, r.width, 1⟩ "─" style
    ++ [⟨right, bottom, .write "┘" style⟩, ⟨right, r.y, .write "┐" style⟩,
        ⟨r.x, bottom, .write "└" style⟩, ⟨r.x, r.y, .write "┌" style⟩]

/-- A box on the outermost cells of an area, its title in the top edge between the corners. -/
def box (r : Rect) (title : String) (style : Style) : Drawing :=
  if r.width = 0 ∨ r.height = 0 then []
  else edges r style ++ label ⟨r.x + 1, r.y, r.width - 2, 1⟩ [⟨title, .plain⟩]

/-! ## Nothing leaves its area -/

theorem within_place {r : Rect} {x y : Nat} {gs : List StyledGlyph}
    (hw : ∀ g ∈ gs, 0 < g.1.width) (hx : r.x ≤ x) (hxe : x + totalWidth gs ≤ r.x + r.width)
    (hy : r.y ≤ y ∧ y < r.y + r.height) : (place y x gs).Within r := by
  induction gs generalizing x with
  | nil => exact within_nil r
  | cons g rest ih =>
    rw [totalWidth] at hxe
    have hg := hw g List.mem_cons_self
    refine within_cons ?_ <|
      ih (fun g hg => hw g (List.mem_cons_of_mem _ hg)) (by omega) (by omega)
    simp only [Rect.Contains]
    omega

theorem within_writeLeft {r : Rect} {gs : List StyledGlyph} (hw : ∀ g ∈ gs, 0 < g.1.width) :
    (writeLeft r gs).Within r := by
  unfold writeLeft
  split
  · exact within_nil r
  · have := totalWidth_fitting_le r.width gs
    exact within_place (fun g hg => hw g (mem_of_mem_fitting hg)) (by omega) (by omega) (by omega)

theorem within_writeRight {r : Rect} {gs : List StyledGlyph} (hw : ∀ g ∈ gs, 0 < g.1.width) :
    (writeRight r gs).Within r := by
  simp only [writeRight]
  split
  · exact within_nil r
  · have := totalWidth_fitting_le r.width gs
    exact within_place (fun g hg => hw g (mem_of_mem_fitting hg)) (by omega) (by omega) (by omega)

theorem width_pos_of_mem_placeable {r : Rect} {line : Line} {g : StyledGlyph}
    (h : g ∈ placeable r line) : 0 < g.1.width := by
  have := (List.mem_filter.1 h).2
  simp only [Bool.and_eq_true, decide_eq_true_eq] at this
  exact this.1

theorem within_text (r : Rect) (line : Line) : (text r line).Within r :=
  within_writeLeft fun _ hg => width_pos_of_mem_placeable hg

private theorem within_hide {r : Rect} {x y width : Nat} (hx : r.x ≤ x)
    (hxe : x + width ≤ r.x + r.width) (hy : r.y ≤ y ∧ y < r.y + r.height) :
    (hide x y width).Within r := by
  intro s hs
  simp only [hide, List.mem_map, List.mem_range] at hs
  obtain ⟨k, hk, rfl⟩ := hs
  simp only [Rect.Contains]
  omega

theorem within_spell {r : Rect} {y start x : Nat} (gs : List StyledGlyph) (hs : r.x ≤ start)
    (hx : start ≤ x) (he : start < r.x + r.width) (hy : r.y ≤ y ∧ y < r.y + r.height) :
    (spell y start (r.x + r.width) x gs).Within r := by
  induction gs generalizing x with
  | nil => exact within_nil r
  | cons g rest ih =>
    rw [spell]
    split
    · exact within_nil r
    · rename_i hfits
      refine within_cons ?_ <|
        (within_hide (by omega) (by omega) hy).append (ih (by omega))
      simp only [Rect.Contains]
      repeat' split
      all_goals
        dsimp only
        omega

theorem within_span {r : Rect} {y x : Nat} (s : Span) (hx : r.x ≤ x) (he : x < r.x + r.width)
    (hy : r.y ≤ y ∧ y < r.y + r.height) : (span y (r.x + r.width) x s).Within r := by
  unfold span
  split
  · exact within_nil r
  split
  · exact within_nil r
  · rename_i hfits
    refine within_cons ?_ <|
      (within_hide hx (by omega) hy).append (within_spell _ hx (by omega) he hy)
    simp only [Rect.Contains]
    omega

theorem within_spans {r : Rect} {y x : Nat} (line : Line) (hx : r.x ≤ x)
    (hy : r.y ≤ y ∧ y < r.y + r.height) : (spans y (r.x + r.width) x line).Within r := by
  induction line generalizing x with
  | nil => exact within_nil r
  | cons s rest ih =>
    rw [spans]
    split
    · rename_i he
      exact (within_span s hx he hy).append (ih (by omega))
    · exact within_nil r

theorem within_label (r : Rect) (line : Line) : (label r line).Within r := by
  unfold label
  split
  · exact within_nil r
  · rename_i h
    exact within_spans line (Nat.le_refl _) (by omega)

theorem within_lines (r : Rect) (ls : List Line) : (lines r ls).Within r := by
  intro s hs
  simp only [lines, List.mem_flatMap, Prod.exists] at hs
  obtain ⟨row, line, hmem, hs⟩ := hs
  exact Rect.contains_of_mem_rows (List.of_mem_zip hmem).1 (within_text row line s hs)

theorem within_fill (r : Rect) (symbol : String) (style : Style) :
    (fill r symbol style).Within r := by
  simp only [Within, fill, List.mem_map, Prod.exists]
  rintro s ⟨i, j, hij, rfl⟩
  exact Rect.mem_cells.1 hij

private theorem within_edges {r : Rect} (hw : r.width ≠ 0) (hh : r.height ≠ 0) (style : Style) :
    (edges r style).Within r := by
  intro s hs
  simp only [edges, List.mem_append, List.mem_cons, List.not_mem_nil, or_false] at hs
  rcases hs with (((hs | hs) | hs) | hs) | rfl | rfl | rfl | rfl
  case inl.inl.inl.inl | inl.inl.inl.inr | inl.inl.inr | inl.inr =>
    have := within_fill _ _ _ s hs
    simp only [Rect.Contains] at this ⊢
    omega
  all_goals
    simp only [Rect.Contains]
    omega

/-- A box stays on its area, whatever its title. -/
theorem within_box (r : Rect) (title : String) (style : Style) :
    (box r title style).Within r := by
  unfold box
  split
  · exact within_nil r
  · rename_i h
    rw [not_or] at h
    refine Within.append (within_edges h.1 h.2 style) ?_
    intro s hs
    have := within_label _ _ s hs
    simp only [Rect.Contains] at this ⊢
    omega

end Backstep.Drawing
