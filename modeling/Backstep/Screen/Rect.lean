/-!
# Rectangles of a screen

Columns and rows are counted from the top left corner. Cutting a rectangle never gives more than
there is: a part that does not fit is empty, and an empty rectangle contains no cell, wherever it
lies.
-/

namespace Backstep

/-- The cells from column `x` and row `y` on, `width` to the right and `height` down. -/
structure Rect where
  x : Nat
  y : Nat
  width : Nat
  height : Nat
  deriving DecidableEq

namespace Rect

/-- Whether the cell in column `i` and row `j` belongs to a rectangle. -/
def Contains (r : Rect) (i j : Nat) : Prop :=
  r.x ≤ i ∧ i < r.x + r.width ∧ r.y ≤ j ∧ j < r.y + r.height

instance (r : Rect) (i j : Nat) : Decidable (r.Contains i j) :=
  inferInstanceAs (Decidable (_ ∧ _ ∧ _ ∧ _))

def ofSize (width height : Nat) : Rect := ⟨0, 0, width, height⟩

/-! ## Rectangles on request -/

/-- The most cells that a rectangle on request has. -/
def mostCells : Nat := 65535

/-- The sides of a rectangle on request. One with too many cells shrinks and keeps its shape, the
ratio of its sides; they are found in double precision and lose their fractions. -/
def sides (width height : Nat) : Nat × Nat :=
  if width * height ≤ mostCells then (width, height)
  else
    let shape := Float.ofNat width / Float.ofNat height
    let tall := (Float.ofNat mostCells / shape).sqrt
    ((tall * shape).toUInt16.toNat, tall.toUInt16.toNat)

/-- The rectangle for a request. -/
def request (x y width height : Nat) : Rect :=
  ⟨x, y, (sides width height).1, (sides width height).2⟩

/-! ## Cuts -/

/-- The cells that two rectangles have in common. -/
def meet (r q : Rect) : Rect :=
  let left := max r.x q.x
  let top := max r.y q.y
  ⟨left, top, min (r.x + r.width) (q.x + q.width) - left,
    min (r.y + r.height) (q.y + q.height) - top⟩

/-- What a border of one cell on every side leaves. -/
def inside (r : Rect) : Rect := ⟨r.x + 1, r.y + 1, r.width - 2, r.height - 2⟩

/-- What a margin of `n` columns on the left leaves. -/
def padLeft (r : Rect) (n : Nat) : Rect := ⟨r.x + n, r.y, r.width - n, r.height⟩

/-- The left and the right half. An odd column goes to the left. -/
def halves (r : Rect) : Rect × Rect :=
  let left := (r.width + 1) / 2
  (⟨r.x, r.y, left, r.height⟩, ⟨r.x + left, r.y, r.width - left, r.height⟩)

/-- The first `n` rows and the rest. -/
def splitTop (r : Rect) (n : Nat) : Rect × Rect :=
  let top := min n r.height
  (⟨r.x, r.y, r.width, top⟩, ⟨r.x, r.y + top, r.width, r.height - top⟩)

/-- All but the last `n` rows, and these. -/
def splitBottom (r : Rect) (n : Nat) : Rect × Rect := r.splitTop (r.height - n)

/-! ## Parts -/

def rows (r : Rect) : List Rect :=
  (List.range r.height).map fun j => ⟨r.x, r.y + j, r.width, 1⟩

/-- The cells, row by row from the top and from left to right. -/
def cells (r : Rect) : List (Nat × Nat) :=
  (List.range r.height).flatMap fun j => (List.range r.width).map fun i => (r.x + i, r.y + j)

theorem mem_cells {r : Rect} {i j : Nat} : (i, j) ∈ r.cells ↔ r.Contains i j := by
  simp only [cells, List.mem_flatMap, List.mem_range, List.mem_map, Prod.mk.injEq, Contains]
  constructor
  · rintro ⟨b, hb, a, ha, rfl, rfl⟩; omega
  · rintro ⟨h₁, h₂, h₃, h₄⟩
    exact ⟨j - r.y, by omega, i - r.x, by omega, by omega, by omega⟩

/-- The cells of a row of a rectangle belong to the rectangle. -/
theorem contains_of_mem_rows {r row : Rect} {i j : Nat} (h : row ∈ r.rows)
    (hc : row.Contains i j) : r.Contains i j := by
  simp only [rows, List.mem_map, List.mem_range] at h
  obtain ⟨k, hk, rfl⟩ := h
  simp only [Contains] at hc ⊢
  omega

theorem contains_meet {r q : Rect} {i j : Nat} :
    (r.meet q).Contains i j ↔ r.Contains i j ∧ q.Contains i j := by
  simp only [Contains, meet]
  omega

theorem contains_of_inside {r : Rect} {i j : Nat} (h : r.inside.Contains i j) :
    r.Contains i j := by
  simp only [Contains, inside] at h ⊢
  omega

theorem contains_of_padLeft {r : Rect} {n i j : Nat} (h : (r.padLeft n).Contains i j) :
    r.Contains i j := by
  simp only [Contains, padLeft] at h ⊢
  omega

/-- Either half of a rectangle belongs to it. -/
theorem contains_of_halves {r : Rect} {i j : Nat}
    (h : r.halves.1.Contains i j ∨ r.halves.2.Contains i j) : r.Contains i j := by
  simp only [Contains, halves] at h ⊢
  omega

end Rect

end Backstep
