/-!
# Cell styles

How a cell of a terminal looks: the colours of its sign and of its ground, and its weight. A part
that is not set is the terminal's own choice. Styles are laid over one another, and a style only
changes what it sets itself.
-/

namespace Backstep

/-- A colour: the terminal's black, or a mixture of red, green and blue. -/
inductive Color
  | black
  | rgb (red green blue : UInt8)
  deriving DecidableEq

/-- The look of a cell. -/
structure Style where
  fg : Option Color
  bg : Option Color
  bold : Bool
  deriving DecidableEq

namespace Style

/-- The style that sets nothing. -/
def plain : Style := ⟨none, none, false⟩

def ofFg (color : Color) : Style := ⟨some color, none, false⟩

def ofBg (color : Color) : Style := ⟨none, some color, false⟩

/-- The same style on a ground of the given colour. -/
def onGround (style : Style) (color : Color) : Style := { style with bg := some color }

def inBold (style : Style) : Style := { style with bold := true }

/-- One style laid over another. -/
def above (top under : Style) : Style :=
  ⟨top.fg <|> under.fg, top.bg <|> under.bg, top.bold || under.bold⟩

end Style

end Backstep
