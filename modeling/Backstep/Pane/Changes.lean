import Backstep.Pane.Page
import Backstep.Pane.Palette
import Backstep.Pane.Rows
import Backstep.Snapshot

/-!
# The history pane

One row for every recorded change, oldest first: its index, the change, and the value held after
it. The newest row is marked and stands on a raised ground.
-/

namespace Backstep

/-- What one row of the history pane says. -/
structure ChangeRow where
  index : Nat
  delta : Int64
  /-- The value held after the change. -/
  running : Int64
  /-- Whether this is the last change recorded. -/
  newest : Bool
  deriving DecidableEq

namespace ChangeRow

/-- A text followed by spaces up to a length in characters; a longer text stays as it is. -/
def padRight (length : Nat) (text : String) : String :=
  text ++ String.ofList (List.replicate (length - text.length) ' ')

/-- The mark at the start of a row. -/
def marker (row : ChangeRow) : String := if row.newest then "▶ " else "  "

/-- The index in its column. -/
def indexText (row : ChangeRow) : String := "#" ++ padRight 4 row.index.repr

/-- The change in its column. The first one has no sign, it is the construction itself. -/
def deltaText (row : ChangeRow) : String :=
  padRight 14 (if row.index = 0 then "sentinel" else Decimal.signed row.delta.toInt)

def line (row : ChangeRow) : Line :=
  [⟨row.marker, .ofFg Palette.primary⟩,
    ⟨row.indexText, .ofFg Palette.comment⟩,
    ⟨row.deltaText, .ofFg Palette.number⟩,
    ⟨"→ ", .ofFg Palette.comment⟩,
    ⟨Decimal.ofInt row.running.toInt, .ofFg Palette.text⟩]

/-- A row in full: index and change keep their texts, with spaces up to the next column. -/
theorem texts_line (row : ChangeRow) :
    let change := if row.index = 0 then "sentinel"
      else (if row.delta.toInt < 0 then "-" else "+") ++ row.delta.toInt.natAbs.repr
    row.line.map (·.text) =
      [if row.newest then "▶ " else "  ",
        "#" ++ (row.index.repr ++ String.ofList (List.replicate (4 - row.index.repr.length) ' ')),
        change ++ String.ofList (List.replicate (14 - change.length) ' '),
        "→ ", Decimal.ofInt row.running.toInt] := by
  simp only [← Decimal.signed_eq]
  rfl

def entry (row : ChangeRow) : Entry :=
  ⟨[row.line], if row.newest then (Style.ofBg Palette.raised).inBold else .plain⟩

end ChangeRow

namespace Changes

/-- The rows of a snapshot, oldest change first. -/
def rows (s : Snapshot) : List ChangeRow :=
  (s.history.zip s.heldValues).zipIdx.map fun ((delta, running), index) =>
    ⟨index, delta, running, index + 1 == s.depth⟩

/-- The offset that an area shows when another is asked for. -/
def offset (area : Rect) (s : Snapshot) (asked : Nat) : Nat :=
  Page.clamp s.depth (Page.capacity area.height) asked

/-- The rows that an area shows from an offset on. -/
def page (area : Rect) (s : Snapshot) (offset : Nat) : List ChangeRow :=
  Page.take (Page.capacity area.height) offset (rows s)

/-- The pane in an area of a screen, from an offset that the area shows. The box ends where the
screen ends, the rows go on beyond. -/
def draw (screen area : Rect) (s : Snapshot) (focused : Bool) (offset : Nat) : Drawing :=
  Drawing.box (area.meet screen) " History " (Palette.border focused)
    ++ Entry.draw screen area.inside ((page area s offset).map ChangeRow.entry)

@[simp] theorem length_rows (s : Snapshot) : (rows s).length = s.depth := by
  simp [rows, Snapshot.depth]

/-- The pane stays in its area. -/
theorem within_draw (screen area : Rect) (s : Snapshot) (focused : Bool) (offset : Nat) :
    (draw screen area s focused offset).Within area :=
  (Drawing.within_box _ _ _).of_meet.append <|
    (Entry.within_draw _ _ _).mono fun _ _ h => Rect.contains_of_inside h

end Changes

end Backstep
