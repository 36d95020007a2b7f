import Backstep.Screen.Rect
import Backstep.Screen.Style

/-!
# Drawings

A drawing is a list of strokes, each on one cell; what a cell shows is decided by the strokes on
it alone, in their order. So drawings are put together by appending lists, and two drawings with
no cell in common may be appended either way round.

A stroke writes a sign or adds one to what is there, lays a style over the cell, or wipes the cell
clean.

## Main definitions

* `Stroke`, `Drawing` — marks on cells.
* `Drawing.cellAt` — what a cell shows.
* `Frame`, `Drawing.rows` — the cells of a screen with a drawing on it.
-/

namespace Backstep

/-- What one cell of a screen shows: a sign, which may be several code points, and its style. -/
structure Cell where
  symbol : String
  style : Style
  deriving DecidableEq

/-- A cell that nothing was drawn on. -/
def Cell.blank : Cell := ⟨" ", .plain⟩

/-- What a stroke does to its cell. -/
inductive Mark
  /-- Write a sign and lay the style over the cell. -/
  | write (symbol : String) (style : Style)
  /-- Write a sign behind the one that is there and lay the style over the cell. -/
  | append (symbol : String) (style : Style)
  /-- Lay the style over the cell and keep its sign. -/
  | tint (style : Style)
  /-- Wipe the cell clean. -/
  | wipe
  deriving DecidableEq

def Mark.apply (cell : Cell) : Mark → Cell
  | write symbol style => ⟨symbol, style.above cell.style⟩
  | append symbol style => ⟨cell.symbol ++ symbol, style.above cell.style⟩
  | tint style => ⟨cell.symbol, style.above cell.style⟩
  | wipe => .blank

/-- A mark on the cell in column `x` and row `y`. -/
structure Stroke where
  x : Nat
  y : Nat
  mark : Mark
  deriving DecidableEq

/-- Strokes, the first one first. -/
abbrev Drawing := List Stroke

/-- The cells of a screen, row by row. -/
abbrev Frame := List (List Cell)

def Frame.blank (width height : Nat) : Frame :=
  List.replicate height (List.replicate width Cell.blank)

namespace Drawing

/-- A cell after those strokes of a drawing that lie on it. -/
def onto (d : Drawing) (x y : Nat) (cell : Cell) : Cell :=
  (d.filter fun s => s.x == x && s.y == y).foldl (fun c s => s.mark.apply c) cell

/-- What a drawing shows in a cell. -/
def cellAt (d : Drawing) (x y : Nat) : Cell := d.onto x y .blank

/-- A screen with a drawing on it. Strokes beyond its edges are lost. The strokes of a row are
sorted out once, and the cells of the row find theirs among them. -/
def rows (d : Drawing) (width height : Nat) : Frame :=
  (List.range height).map fun y =>
    let strokes : Drawing := d.filter fun s => s.y == y
    (List.range width).map fun x => strokes.cellAt x y

/-- Whether every stroke of a drawing lies in a rectangle. -/
def Within (d : Drawing) (r : Rect) : Prop := ∀ s ∈ d, r.Contains s.x s.y

/-! ## Strokes in a rectangle -/

/-- Lay a style over every cell of a rectangle. -/
def tint (r : Rect) (style : Style) : Drawing :=
  r.cells.map fun (x, y) => ⟨x, y, .tint style⟩

/-! ## What drawings show -/

variable (d e : Drawing) (x y : Nat)

@[simp] theorem onto_nil (cell : Cell) : onto [] x y cell = cell := rfl

/-- Appending drawings draws one after the other. -/
@[simp] theorem onto_append (cell : Cell) :
    onto (d ++ e) x y cell = onto e x y (onto d x y cell) := by
  simp [onto]

/-- A cell without strokes keeps what it shows. -/
theorem onto_of_forall_ne {d : Drawing} {x y : Nat} (h : ∀ s ∈ d, ¬(s.x = x ∧ s.y = y))
    (cell : Cell) : d.onto x y cell = cell := by
  have : (d.filter fun s => s.x == x && s.y == y) = [] := by
    simpa [List.filter_eq_nil_iff] using h
  simp [onto, this]

/-- A drawing leaves all cells outside its rectangle alone. -/
theorem Within.onto_eq {d : Drawing} {r : Rect} (hd : d.Within r) {x y : Nat}
    (h : ¬r.Contains x y) (cell : Cell) : d.onto x y cell = cell :=
  onto_of_forall_ne (fun s hs ⟨hx, hy⟩ => h (hx ▸ hy ▸ hd s hs)) cell

/-- A row of a screen shows what the drawing shows in its cells. -/
theorem cellAt_filter_row :
    cellAt (d.filter fun s => s.y == y) x y = d.cellAt x y := by
  simp only [cellAt, onto, List.filter_filter]
  congr 2
  funext s
  cases s.y == y <;> simp

theorem within_nil (r : Rect) : Within [] r := fun _ h => by cases h

theorem within_cons {s : Stroke} {d : Drawing} {r : Rect} (hs : r.Contains s.x s.y)
    (hd : d.Within r) : Within (s :: d) r := fun t ht =>
  (List.mem_cons.1 ht).elim (fun h => h ▸ hs) (hd t)

theorem Within.append {d e : Drawing} {r : Rect} (hd : d.Within r) (he : e.Within r) :
    (d ++ e).Within r := fun s hs => (List.mem_append.1 hs).elim (hd s) (he s)

/-- A drawing within a part of a rectangle lies within the rectangle. -/
theorem Within.mono {d : Drawing} {r q : Rect} (hd : d.Within r)
    (h : ∀ i j, r.Contains i j → q.Contains i j) : d.Within q :=
  fun s hs => h s.x s.y (hd s hs)

/-- So does one within what the rectangle shares with another. -/
theorem Within.of_meet {d : Drawing} {r q : Rect} (hd : d.Within (r.meet q)) : d.Within r :=
  hd.mono fun _ _ h => (Rect.contains_meet.1 h).1

theorem within_tint (r : Rect) (style : Style) : (tint r style).Within r := by
  simp only [Within, tint, List.mem_map, Prod.exists]
  rintro s ⟨i, j, hij, rfl⟩
  exact Rect.mem_cells.1 hij

end Drawing

end Backstep
