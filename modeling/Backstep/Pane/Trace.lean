import Backstep.Pane.Page
import Backstep.Pane.Palette
import Backstep.Pane.Rows
import Backstep.Sink

/-!
# The trace pane

The lines of a trace log, oldest first. An empty log has nothing to scroll: the pane then says
why it is empty and leaves the scroll offset as it was.
-/

namespace Backstep.TracePane

/-- What the pane says of an empty log. -/
def placeholder (traced : Bool) : String :=
  if traced then "(no trace yet)" else "(tracing off, set RIMP_DEBUG=1)"

/-- The lines of a text that may hold line feeds. A feed at its end starts no line, and a carriage
return before a feed belongs to it. -/
def splitLines : List Char → List (List Char)
  | [] => []
  | '\r' :: '\n' :: rest => [] :: splitLines rest
  | c :: rest =>
    if c = '\n' then [] :: splitLines rest
    else match splitLines rest with
      | [] => [[c]]
      | line :: others => (c :: line) :: others

/-- A line of the log as an entry of the pane. A name with line feeds makes it several rows. -/
def entry (line : String) : Entry :=
  ⟨(splitLines line.toList).map fun l => [⟨String.ofList l, .plain⟩], .ofFg Palette.text⟩

/-- The offset that an area shows when another is asked for. -/
def offset (area : Rect) (log : Trace) (asked : Nat) : Nat :=
  if log.isEmpty then asked else Page.clamp log.size (Page.capacity area.height) asked

/-- The lines that an area shows from an offset on. -/
def page (area : Rect) (log : Trace) (offset : Nat) : List String :=
  Page.take (Page.capacity area.height) offset log.lines

/-- The reason why a log is empty, in an area of a screen. The colour of comments lies on the
whole of the area below the box, and on what the box holds above it; the two differ where the box
closes because the screen ends. -/
def drawEmpty (screen area : Rect) (traced focused : Bool) : Drawing :=
  Drawing.tint (area.meet screen) (.ofFg Palette.comment)
    ++ Drawing.box (area.meet screen) " Trace " (Palette.border focused)
    ++ Drawing.tint (area.inside.meet screen) (.ofFg Palette.comment)
    ++ Drawing.text area.inside [⟨placeholder traced, .plain⟩]

/-- The pane in an area of a screen, from an offset that the area shows. The box closes where the
screen ends, what it holds goes on beyond. -/
def draw (screen area : Rect) (log : Trace) (traced focused : Bool) (offset : Nat) : Drawing :=
  if log.isEmpty then drawEmpty screen area traced focused
  else
    Drawing.box (area.meet screen) " Trace " (Palette.border focused)
      ++ Entry.draw screen (area.inside.padLeft 1) ((page area log offset).map entry)

theorem within_drawEmpty (screen area : Rect) (traced focused : Bool) :
    (drawEmpty screen area traced focused).Within area := by
  refine ((Drawing.Within.append ?_ ?_).append ?_).append ?_
  · exact (Drawing.within_tint _ _).of_meet
  · exact (Drawing.within_box _ _ _).of_meet
  · exact (Drawing.within_tint _ _).of_meet.mono fun _ _ h => Rect.contains_of_inside h
  · exact (Drawing.within_text _ _).mono fun _ _ h => Rect.contains_of_inside h

/-- The pane stays in its area. -/
theorem within_draw (screen area : Rect) (log : Trace) (traced focused : Bool) (offset : Nat) :
    (draw screen area log traced focused offset).Within area := by
  unfold draw
  split
  · exact within_drawEmpty _ _ _ _
  · exact (Drawing.within_box _ _ _).of_meet.append <|
      (Entry.within_draw _ _ _).mono fun _ _ h =>
        Rect.contains_of_inside (Rect.contains_of_padLeft h)

end Backstep.TracePane
