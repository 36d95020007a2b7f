import Backstep.Screen.Style

/-!
# The colours of the panes

Every pane takes its colours from here, so that one meaning has one colour.
-/

namespace Backstep.Palette

def text : Color := .rgb 0xCD 0xD6 0xF4

/-- Marks that lead the eye. -/
def primary : Color := .rgb 0x89 0xB4 0xFA

/-- Something that is running. -/
def secondary : Color := .rgb 0xFA 0xB3 0x87

/-- Labels and separators. -/
def comment : Color := .rgb 0x6C 0x70 0x86

/-- The start of the script. -/
def success : Color := .rgb 0xA6 0xE3 0xA1

/-- The end of the script, and refusals. -/
def error : Color := .rgb 0xF3 0x8B 0xA8

def number : Color := .rgb 0xFA 0xB3 0x87

def name : Color := .rgb 0xF9 0xE2 0xAF

/-- The ground of the newest change and of the status bar. -/
def raised : Color := .rgb 0x32 0x32 0x46

/-- The border of a pane; the pane that has the focus stands out. -/
def border (focused : Bool) : Style :=
  if focused then (Style.ofFg name).inBold else .ofFg comment

end Backstep.Palette
