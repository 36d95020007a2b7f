import Backstep.Screen.Writing

/-!
# Rows of a scrolling pane

The entries of a scrolling pane. An entry is one or more lines that stay together and a style for
the whole of its rows. Entries are shown from the top as long as a whole one fits.
-/

namespace Backstep

structure Entry where
  lines : List Line
  style : Style
  deriving DecidableEq

namespace Entry

/-- The rows of the entries that fit, each a line and the style of its row. -/
def rowsFitting : Nat → List Entry → List (Line × Style)
  | _, [] => []
  | height, entry :: rest =>
    if entry.lines.length ≤ height then
      entry.lines.map (·, entry.style) ++ rowsFitting (height - entry.lines.length) rest
    else []

/-- The strokes of entries in an area, as far as a screen shows it: each row is tinted all over,
then labelled. -/
def draw (screen r : Rect) (entries : List Entry) : Drawing :=
  (r.rows.zip (rowsFitting r.height entries)).flatMap fun (row, line, style) =>
    Drawing.tint (row.meet screen) style ++ Drawing.label (row.meet screen) line

/-- Entries stay in their area. -/
theorem within_draw (screen r : Rect) (entries : List Entry) :
    (draw screen r entries).Within r := by
  intro s hs
  simp only [draw, List.mem_flatMap, Prod.exists] at hs
  obtain ⟨row, line, style, hmem, hs⟩ := hs
  refine Rect.contains_of_mem_rows (List.of_mem_zip hmem).1 ?_
  exact ((Drawing.within_tint _ style).append (Drawing.within_label _ line)).of_meet s hs

end Entry

end Backstep
