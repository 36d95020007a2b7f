import Backstep.Screen.Style
import Backstep.Text.Width

/-!
# Glyphs and lines of text

A terminal places whole signs, the clusters of a text. A glyph is such a sign with the number of
columns it takes, which may be none. Line feeds have no glyph.

A line of text is a list of spans, each in one style. It is cut where the next glyph would pass
the edge, so a wide glyph is shown whole or not at all.
-/

namespace Backstep

/-- A sign and the number of columns it takes. -/
structure Glyph where
  symbol : String
  width : Nat
  deriving DecidableEq

def Glyph.ofCluster (cluster : List Char) : Glyph := ⟨String.ofList cluster, Text.width cluster⟩

/-- Whether a cluster ends a line. -/
def isLineFeed (cluster : List Char) : Bool := cluster == ['\n'] || cluster == ['\r', '\n']

def glyphs (text : String) : List Glyph :=
  ((Text.clusters text.toList).filter fun cluster => !isLineFeed cluster).map Glyph.ofCluster

/-- A text in one style. -/
structure Span where
  text : String
  style : Style
  deriving DecidableEq

/-- A glyph and the style in which it is drawn. -/
abbrev StyledGlyph := Glyph × Style

namespace Span

variable (span : Span)

def width : Nat := Text.width span.text.toList

def glyphs : List StyledGlyph := (Backstep.glyphs span.text).map (·, span.style)

end Span

/-- A line of text: its spans from left to right. -/
abbrev Line := List Span

namespace Line

/-- The text of a line without its styles. -/
def text (line : Line) : String := String.join (line.map (·.text))

/-- The glyphs of a line, each in the style of its span. -/
def glyphs (line : Line) : List StyledGlyph := line.flatMap Span.glyphs

def width : Line → Nat
  | [] => 0
  | span :: rest => span.width + width rest

end Line

/-- The number of columns that glyphs take together. -/
def totalWidth : List StyledGlyph → Nat
  | [] => 0
  | g :: rest => g.1.width + totalWidth rest

/-- The glyphs that fit into a width, up to the first one that does not. -/
def fitting : Nat → List StyledGlyph → List StyledGlyph
  | _, [] => []
  | width, g :: rest =>
    if g.1.width ≤ width then g :: fitting (width - g.1.width) rest else []

/-! ## What fits -/

/-- Nothing is added to fit. -/
theorem mem_of_mem_fitting {width : Nat} {gs : List StyledGlyph} {g : StyledGlyph}
    (h : g ∈ fitting width gs) : g ∈ gs := by
  induction gs generalizing width with
  | nil => simp [fitting] at h
  | cons head rest ih =>
    rw [fitting] at h
    split at h
    · rcases List.mem_cons.1 h with rfl | h
      · exact List.mem_cons_self
      · exact List.mem_cons_of_mem _ (ih h)
    · simp at h

/-- What fits takes no more than the width. -/
theorem totalWidth_fitting_le (width : Nat) (gs : List StyledGlyph) :
    totalWidth (fitting width gs) ≤ width := by
  induction gs generalizing width with
  | nil => simp [fitting, totalWidth]
  | cons g rest ih =>
    simp only [fitting]
    split
    · have := ih (width - g.1.width)
      rw [totalWidth]
      omega
    · simp [totalWidth]

/-! ## Printable ASCII -/

end Backstep
