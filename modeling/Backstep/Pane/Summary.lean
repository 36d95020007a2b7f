import Backstep.Pane.Palette
import Backstep.Screen.Writing
import Backstep.Snapshot

/-!
# The variable pane

What a variable is at the moment: its name and value, its inspection line, the sum that rebuilds
the value, the depth of its history, and the value that the script assigns next.
-/

namespace Backstep.Summary

/-- The inspection line as the pane shows it: a terminal cell cannot hold a tab, so each one is
two spaces. -/
def inspection (s : Snapshot) : String :=
  String.ofList (s.line.toList.flatMap fun c => if c = '\t' then [' ', ' '] else [c])

/-- The equation between the sum of the changes and the value. -/
def equation (s : Snapshot) : String :=
  s.sumText ++ " = " ++ Decimal.ofInt s.value.toInt

/-- What the pane says about the next target. -/
def upcoming : Option Int32 → String
  | some target => Decimal.ofInt target.toInt
  | none => "(end of script)"

/-- Labels have the colour of comments. -/
def label (text : String) : Span := ⟨text, .ofFg Palette.comment⟩

def lines (s : Snapshot) (next : Option Int32) : List Line :=
  [[⟨s.name, (Style.ofFg Palette.name).inBold⟩, label " = ",
      ⟨Decimal.ofInt s.value.toInt, (Style.ofFg Palette.number).inBold⟩],
    [label "inspect  ", ⟨inspection s, .ofFg Palette.text⟩],
    [label "sum      ", ⟨equation s, .ofFg Palette.text⟩],
    [label "depth    ", ⟨s.depth.repr, .ofFg Palette.text⟩],
    [label "next     ",
      ⟨upcoming next, .ofFg (if next.isSome then Palette.number else Palette.comment)⟩]]

/-- The pane in an area of a screen. It is never scrolled, so it never has the focus. The box
closes where the screen ends, while the lines have the room of the whole area. -/
def draw (screen area : Rect) (s : Snapshot) (next : Option Int32) : Drawing :=
  Drawing.box (area.meet screen) " Variable " (Palette.border false)
    ++ Drawing.lines (area.inside.padLeft 1) (lines s next)

/-- The pane stays in its area. -/
theorem within_draw (screen area : Rect) (s : Snapshot) (next : Option Int32) :
    (draw screen area s next).Within area :=
  (Drawing.within_box _ _ _).of_meet.append <|
    (Drawing.within_lines _ _).mono fun _ _ h =>
      Rect.contains_of_inside (Rect.contains_of_padLeft h)

end Backstep.Summary
