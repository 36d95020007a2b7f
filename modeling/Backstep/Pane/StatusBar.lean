import Backstep.Pane.Palette
import Backstep.Screen.Writing

/-!
# The status bar

The last row of the screen. Its left half tells the step and the outcome of the last command, its
right half the keys and, where it matters, that playback runs or that an end of the script is
reached.
-/

namespace Backstep

/-- What the status bar tells. -/
structure StatusBar where
  message : String
  /-- The number of assignments in force. -/
  current : Nat
  /-- The number of positions in the script, its start included. -/
  total : Nat
  playing : Bool
  deriving DecidableEq

/-- The mark at the right end of the status bar. -/
inductive Indicator
  | playing
  | atEnd
  | atStart
  deriving DecidableEq

/-- How an indicator is written, and on which ground. -/
def Indicator.badge : Indicator → String × Color
  | playing => (" ▶ PLAYING ", Palette.secondary)
  | atEnd => (" END ", Palette.error)
  | atStart => (" START ", Palette.success)

namespace StatusBar

variable (bar : StatusBar)

def isRefusal : Bool := "Cannot".toList.isPrefixOf bar.message.toList

/-- The indicator, if one is due. Playback hides the ends of the script, and the end of an empty
script hides its start. -/
def indicator? : Option Indicator :=
  if bar.playing then some .playing
  else if bar.total ≤ bar.current + 1 then some .atEnd
  else if bar.current = 0 then some .atStart
  else none

/-- The step, counted from one, out of all positions. -/
def stepText : String := " Step " ++ (bar.current + 1).repr ++ "/" ++ bar.total.repr ++ " "

/-! ## Lines -/

/-- A text on the raised ground of the bar. -/
def onBar (text : String) (color : Color) : Span :=
  ⟨text, (Style.ofFg color).onGround Palette.raised⟩

/-- A text in black on a ground of its own. -/
def badge (text : String) (ground : Color) : Span := ⟨text, (Style.ofFg .black).onGround ground⟩

def boldBadge (text : String) (ground : Color) : Span :=
  ⟨text, ((Style.ofFg .black).onGround ground).inBold⟩

/-- The line between two hints. -/
def separator : Span := onBar "│" Palette.comment

/-- A key and what it does, as two spans. -/
def keyHint (key does : String) : Line :=
  [badge key Palette.comment, onBar does Palette.text]

/-- What stands between two hints, on the ground of the bar. -/
def gap : Line := [separator, onBar " " Palette.text]

/-- The left half: the step and the message. -/
def left : Line :=
  [boldBadge bar.stepText (if bar.isRefusal then Palette.error else Palette.primary),
    onBar " | " Palette.comment,
    onBar (" " ++ bar.message ++ " ") (if bar.isRefusal then Palette.error else Palette.text)]

/-- The right half: the keys and the indicator. -/
def right : Line :=
  keyHint " ←/→ " " undo/assign " ++ gap
    ++ keyHint " ⎵ " " play " ++ gap
    ++ keyHint " ↵ / ⌫ " " end/start " ++ gap
    ++ keyHint "q" " quit "
    ++ match bar.indicator? with
      | none => []
      | some i => [separator, boldBadge i.badge.1 i.badge.2]

/-- The bar in an area of a screen: both halves are raised all over, and the right one is written
up to its right edge. -/
def draw (screen area : Rect) : Drawing :=
  let (leftHalf, rightHalf) := area.halves
  Drawing.tint (leftHalf.meet screen) (.ofBg Palette.raised) ++ Drawing.text leftHalf bar.left
    ++ Drawing.tint (rightHalf.meet screen) (.ofBg Palette.raised)
    ++ Drawing.writeRight rightHalf (Drawing.placeable rightHalf bar.right)

/-- The bar stays in its area. -/
theorem within_draw (screen area : Rect) : (bar.draw screen area).Within area := by
  have left : ∀ {d : Drawing}, d.Within area.halves.1 → d.Within area := fun h =>
    h.mono fun _ _ hc => Rect.contains_of_halves (.inl hc)
  have right : ∀ {d : Drawing}, d.Within area.halves.2 → d.Within area := fun h =>
    h.mono fun _ _ hc => Rect.contains_of_halves (.inr hc)
  refine (((left ?_).append (left ?_)).append (right ?_)).append (right ?_)
  · exact (Drawing.within_tint _ _).of_meet
  · exact Drawing.within_text _ _
  · exact (Drawing.within_tint _ _).of_meet
  · exact Drawing.within_writeRight fun _ hg => Drawing.width_pos_of_mem_placeable hg

end StatusBar

end Backstep
