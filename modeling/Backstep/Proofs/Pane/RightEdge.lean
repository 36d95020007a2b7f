import Backstep.Pane.Changes
import Backstep.Pane.StatusBar
import Backstep.Pane.Summary
import Backstep.Proofs.Pane.TraceEdge

/-!
# The right edge of every pane

A sign takes as many columns as it is wide, and a terminal covers the cells behind its first one. A
pane with a border has the border in its last column. The status bar has none, but it writes running
text, and of that a glyph is written only if all its columns fit. So no sign of any pane reaches
beyond it.
-/

namespace Backstep

/-- The width of a glyph is that of its sign. -/
theorem width_symbol_of_mem_glyphs {line : Line} {g : StyledGlyph} (hg : g ∈ line.glyphs) :
    Text.width g.1.symbol.toList = g.1.width := by
  obtain ⟨span, -, hspan⟩ := List.mem_flatMap.1 hg
  obtain ⟨glyph, hglyph, rfl⟩ := List.mem_map.1 hspan
  obtain ⟨cluster, -, rfl⟩ := List.mem_map.1 hglyph
  simp [Glyph.ofCluster]

namespace Drawing

variable {x y : Nat}

/-- Of glyphs that end before an edge only a narrow one starts in the last column. -/
theorem narrowAt_place {gs : List StyledGlyph} {column row edge : Nat}
    (hwidth : ∀ g ∈ gs, Text.width g.1.symbol.toList = g.1.width)
    (hfit : column + totalWidth gs ≤ edge) (hx : edge ≤ x + 1) :
    (place row column gs).NarrowAt x y := by
  induction gs generalizing column with
  | nil => exact fun s hs => absurd hs List.not_mem_nil
  | cons g rest ih =>
    rw [totalWidth] at hfit
    intro s hs hsx hsy
    rcases List.mem_cons.1 hs with rfl | hs
    · have hcolumn : column = x := hsx
      have hnarrow : g.1.width ≤ 1 := by omega
      exact Nat.le_trans (Nat.le_of_eq (hwidth g List.mem_cons_self)) hnarrow
    · have hrest : column + g.1.width + totalWidth rest ≤ edge := by omega
      exact ih (fun h hh => hwidth h (List.mem_cons_of_mem g hh)) hrest s hs hsx hsy

section Writing

variable {r : Rect} {gs : List StyledGlyph}

/-- A line as far as it fits ends at the edge of its area, -/
theorem narrowAt_writeLeft (hwidth : ∀ g ∈ gs, Text.width g.1.symbol.toList = g.1.width)
    (hx : r.x + r.width ≤ x + 1) : (writeLeft r gs).NarrowAt x y := by
  have hfit := totalWidth_fitting_le r.width gs
  rw [writeLeft]
  split
  · exact fun s hs => absurd hs List.not_mem_nil
  · exact narrowAt_place (fun g hg => hwidth g (mem_of_mem_fitting hg)) (by omega) hx

/-- and so it does where it is pushed to the right. -/
theorem narrowAt_writeRight (hwidth : ∀ g ∈ gs, Text.width g.1.symbol.toList = g.1.width)
    (hx : r.x + r.width ≤ x + 1) : (writeRight r gs).NarrowAt x y := by
  have hfit := totalWidth_fitting_le r.width gs
  rw [writeRight]
  split
  · exact fun s hs => absurd hs List.not_mem_nil
  · exact narrowAt_place (fun g hg => hwidth g (mem_of_mem_fitting hg)) (by omega) hx

end Writing

section Boxes

variable {screen area : Rect}

/-- The box of a pane ends with the pane, or where the screen ends before it. -/
theorem narrowAt_box_meet (hx : area.x + area.width ≤ x + 1) (title : String) (style : Style) :
    (box (area.meet screen) title style).NarrowAt x y := by
  refine narrowAt_box ?_ title style
  simp only [Rect.meet]
  omega

/-- What a box holds stays off its right edge. -/
theorem Within.narrowAt_of_inside {d : Drawing} (hd : d.Within area.inside)
    (hx : area.x + area.width ≤ x + 1) : d.NarrowAt x y := by
  refine hd.narrowAt ?_
  simp only [Rect.Contains, Rect.inside]
  omega

end Boxes

end Drawing

/-! ## The panes -/

section Panes

variable {screen area : Rect} {x y : Nat} (hx : area.x + area.width ≤ x + 1)
include hx

theorem Summary.narrowAt_draw (s : Snapshot) (next : Option Int32) :
    (draw screen area s next).NarrowAt x y := by
  have hlines : (Drawing.lines (area.inside.padLeft 1) (lines s next)).Within area.inside :=
    (Drawing.within_lines _ _).mono fun _ _ h => Rect.contains_of_padLeft h
  exact (Drawing.narrowAt_box_meet hx _ _).append (hlines.narrowAt_of_inside hx)

theorem Changes.narrowAt_draw (s : Snapshot) (focused : Bool) (offset : Nat) :
    (draw screen area s focused offset).NarrowAt x y :=
  (Drawing.narrowAt_box_meet hx _ _).append ((Entry.within_draw _ _ _).narrowAt_of_inside hx)

/-- The left half of the bar ends no later than the bar, and the right half with it. -/
theorem StatusBar.narrowAt_draw (bar : StatusBar) : (bar.draw screen area).NarrowAt x y := by
  have hleft : area.halves.1.x + area.halves.1.width ≤ x + 1 := by
    simp only [Rect.halves]
    omega
  have hright : area.halves.2.x + area.halves.2.width ≤ x + 1 := by
    simp only [Rect.halves]
    omega
  have hwidth : ∀ (r : Rect) (line : Line), ∀ g ∈ Drawing.placeable r line,
      Text.width g.1.symbol.toList = g.1.width :=
    fun r line g hg => width_symbol_of_mem_glyphs (List.mem_filter.1 hg).1
  exact (((Drawing.narrowAt_tint _ _).append
    (Drawing.narrowAt_writeLeft (hwidth _ _) hleft)).append
    (Drawing.narrowAt_tint _ _)).append (Drawing.narrowAt_writeRight (hwidth _ _) hright)

end Panes

end Backstep
