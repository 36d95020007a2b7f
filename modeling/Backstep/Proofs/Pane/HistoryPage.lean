import Backstep.Pane.Changes
import Backstep.Proofs.History.Reachable
import Backstep.Proofs.Pane.Paging

/-!
# The page of the history pane

The pane shows a stretch of the recorded changes, a row for each, and every row tells of its own
change: the place, the change with its sign, and the sum of all changes up to it. The sums are
added up word by word, so they are those of the integers as long as all of them fit the word. Only
the row of the last change is marked. The stretch reaches that row exactly when the offset is as
far down as offsets go.
-/

namespace Backstep

namespace Snapshot

variable {s : Snapshot} {i : Nat}

/-- Every sum of the first changes is in the range of changes. -/
def SumsFit (s : Snapshot) : Prop := ∀ n, IsChange (History.total (s.history.take n))

/-- The values held are the sums of the integers. -/
theorem SumsFit.toInt_of_heldValues (h : s.SumsFit) {held : Int64}
    (hheld : s.heldValues[i]? = some held) :
    held.toInt = History.total (s.history.take (i + 1)) := by
  rw [History.eq_foldl_of_partialSums hheld]
  exact History.toInt_foldl_take h (i + 1)

/-- The row tells of the change at a place: it carries the place, the change with its sign and the
sum of all changes up to it; if the change is the last one, the row is marked and stands out. -/
structure TellsOf (s : Snapshot) (i : Nat) (row : ChangeRow) : Prop where
  index_eq : row.index = i
  delta_eq : s.history[i]? = some row.delta
  /-- Place and change are followed by spaces up to the next column. -/
  texts_eq :
    let change := if i = 0 then "sentinel"
      else (if row.delta.toInt < 0 then "-" else "+") ++ row.delta.toInt.natAbs.repr
    row.line.map (·.text) =
      [if i + 1 = s.depth then "▶ " else "  ",
        "#" ++ (i.repr ++ String.ofList (List.replicate (4 - i.repr.length) ' ')),
        change ++ String.ofList (List.replicate (14 - change.length) ' '),
        "→ ", Decimal.ofInt (History.total (s.history.take (i + 1)))]
  entry_eq : row.entry = ⟨[row.line],
    if i + 1 = s.depth then (Style.ofBg Palette.raised).inBold else .plain⟩

theorem TellsOf.marker_eq_iff {row : ChangeRow} (h : s.TellsOf i row) :
    row.marker = "▶ " ↔ i + 1 = s.depth := by
  have hmarker : row.marker = if i + 1 = s.depth then "▶ " else "  " :=
    (List.cons.inj h.texts_eq).1
  rw [hmarker]
  split <;> simp [*]

theorem TellsOf.raised_iff {row : ChangeRow} (h : s.TellsOf i row) :
    row.entry.style = (Style.ofBg Palette.raised).inBold ↔ i + 1 = s.depth := by
  have hplain : Style.plain ≠ (Style.ofBg Palette.raised).inBold := by decide
  rw [h.entry_eq]
  split <;> simp [*]

end Snapshot

namespace Changes

variable {s : Snapshot}

theorem getElem?_rows {i : Nat} {row : ChangeRow} (h : (rows s)[i]? = some row) :
    s.history[i]? = some row.delta ∧ s.heldValues[i]? = some row.running ∧
      row.index = i ∧ row.newest = (i + 1 == s.depth) := by
  simp only [rows, List.getElem?_map, List.getElem?_zipIdx, Option.map_map,
    Option.map_eq_some_iff, List.getElem?_zip_eq_some] at h
  obtain ⟨⟨delta, held⟩, hpair, rfl⟩ := h
  simpa using hpair

/-- Every row tells of the change at its own place. -/
theorem forall₂_tellsOf_rows (h : s.SumsFit) :
    List.Forall₂ s.TellsOf (List.range (rows s).length) (rows s) := by
  rw [List.forall₂_iff_get]
  refine ⟨List.length_range, fun i _ hi => ?_⟩
  obtain ⟨hdelta, hheld, hindex, hnewest⟩ := getElem?_rows (List.getElem?_eq_getElem hi)
  simp only [List.get_eq_getElem, List.getElem_range]
  generalize (rows s)[i] = row at *
  refine ⟨hindex, hdelta, ?_, ?_⟩
  · intro change
    rw [ChangeRow.texts_line, hindex, hnewest, h.toInt_of_heldValues hheld]
    simp [change]
  · simp [ChangeRow.entry, hnewest]

/-- A row takes one row of the screen, so the entries that fit into an area are as many as the area
has rows. -/
theorem zip_rowsFitting (places : List Rect) (rows : List ChangeRow) :
    places.zip (Entry.rowsFitting places.length (rows.map ChangeRow.entry)) =
      (places.zip rows).map fun (place, row) => (place, row.line, row.entry.style) := by
  induction places generalizing rows with
  | nil => rfl
  | cons place places ih =>
    cases rows with
    | nil => rfl
    | cons row rows =>
      have hone : row.entry.lines.length ≤ (place :: places).length := Nat.le_add_left 1 _
      rw [List.map_cons, Entry.rowsFitting, if_pos hone]
      exact congrArg (_ :: ·) (ih rows)

/-- What the pane shows in an area when an offset is asked for. -/
structure ShowsOnePage (area : Rect) (s : Snapshot) (asked : Nat) : Prop where
  offset_eq : offset area s asked = min asked (s.depth - max 1 (area.height - 2))
  /-- The rows tell of the changes from the offset on, one after the other. -/
  rows_tell : List.Forall₂ s.TellsOf
    (List.range' (offset area s asked) (min s.depth (max 1 (area.height - 2))))
    (page area s (offset area s asked))
  /-- The rows stand on the rows inside the box, from the top, as long as there is room. -/
  draw_eq : ∀ screen focused, draw screen area s focused (offset area s asked) =
    Drawing.box (area.meet screen) " History " (Palette.border focused) ++
      (area.inside.rows.zip (page area s (offset area s asked))).flatMap fun (place, row) =>
        Drawing.tint (place.meet screen) row.entry.style
          ++ Drawing.label (place.meet screen) row.line
  /-- A row that is marked stands out, and no other does. -/
  raised_iff : ∀ row ∈ page area s (offset area s asked),
    row.entry.style = (Style.ofBg Palette.raised).inBold ↔ row.marker = "▶ "
  /-- At most one row is marked, and then it is the last. -/
  marked_last : ∀ row ∈ page area s (offset area s asked), row.marker = "▶ " →
    ∃ earlier, page area s (offset area s asked) = earlier ++ [row] ∧
      ∀ other ∈ earlier, other.marker ≠ "▶ "
  /-- A row is marked exactly when the offset is as far down as it can be. -/
  marked_iff : (∃ row ∈ page area s (offset area s asked), row.marker = "▶ ") ↔
    offset area s asked = s.depth - max 1 (area.height - 2)

/-- In a stretch of rows that tell of the changes from an offset on, the row at each place. -/
theorem tellsOf_getElem {first count : Nat} {shown : List ChangeRow}
    (h : List.Forall₂ s.TellsOf (List.range' first count) shown) {i : Nat}
    (hi : i < shown.length) : s.TellsOf (first + i) shown[i] := by
  have hlength : i < (List.range' first count).length := h.length_eq ▸ hi
  simpa using h.get hlength hi

/-- **The history pane shows one page.** Whatever offset is asked for, the pane shows the rows of
consecutive changes from the offset that it settles on, as many as it has room for, and the last
change is marked and stands out wherever it is shown. -/
theorem showsOnePage_of_sumsFit (area : Rect) {s : Snapshot} (asked : Nat) (hne : s.history ≠ [])
    (hfit : s.SumsFit) : ShowsOnePage area s asked := by
  have hdepth : 0 < s.depth := List.length_pos_iff.2 hne
  have hoffset : offset area s asked = min asked (s.depth - max 1 (area.height - 2)) := by
    rw [offset, Page.clamp_eq_min, Page.capacity_eq]
  have hle : offset area s asked ≤ s.depth - max 1 (area.height - 2) :=
    hoffset ▸ Nat.min_le_right _ _
  have htell : List.Forall₂ s.TellsOf
      (List.range' (offset area s asked) (min s.depth (max 1 (area.height - 2))))
      (page area s (offset area s asked)) := by
    rw [page, Page.capacity_eq, ← length_rows s]
    apply Page.forall₂_take (forall₂_tellsOf_rows hfit)
    rwa [length_rows]
  have hlength : (page area s (offset area s asked)).length =
      min s.depth (max 1 (area.height - 2)) := by
    rw [← htell.length_eq, List.length_range']
  generalize hpage : page area s (offset area s asked) = shown at htell hlength
  refine ⟨hoffset, hpage ▸ htell, ?_, ?_, ?_, ?_⟩ <;> simp only [hpage]
  · intro screen focused
    have hrows : area.inside.height = area.inside.rows.length := by simp [Rect.rows]
    rw [draw, hpage, Entry.draw, hrows, zip_rowsFitting, List.flatMap_map]
  · intro row hrow
    obtain ⟨i, hi, rfl⟩ := List.getElem_of_mem hrow
    rw [(tellsOf_getElem htell hi).raised_iff, (tellsOf_getElem htell hi).marker_eq_iff]
  · intro row hrow hmarked
    obtain ⟨i, hi, rfl⟩ := List.getElem_of_mem hrow
    have hnewest := (tellsOf_getElem htell hi).marker_eq_iff.1 hmarked
    have hlast : shown.length = i + 1 := by omega
    refine ⟨shown.take i, ?_, ?_⟩
    · rw [List.take_append_getElem, ← hlast, List.take_length]
    · intro other hother
      obtain ⟨j, hj, rfl⟩ := List.getElem_of_mem hother
      rw [List.length_take] at hj
      have hearlier := tellsOf_getElem htell (i := j) (by omega)
      rw [List.getElem_take, Ne, hearlier.marker_eq_iff]
      omega
  · constructor
    · rintro ⟨row, hrow, hmarked⟩
      obtain ⟨i, hi, rfl⟩ := List.getElem_of_mem hrow
      have hnewest := (tellsOf_getElem htell hi).marker_eq_iff.1 hmarked
      omega
    · intro hlast
      have hi : shown.length - 1 < shown.length := by omega
      refine ⟨shown[shown.length - 1], List.getElem_mem hi, ?_⟩
      rw [(tellsOf_getElem htell hi).marker_eq_iff]
      omega

/-- A page of two rows of a snapshot that goes up to the end of its word and back by one, from the
farthest offset. -/
theorem showsOnePage_at_word_end :
    let area : Rect := ⟨0, 0, 40, 4⟩
    let s : Snapshot := ⟨"x", 0, [0, 9223372036854775807, -1]⟩
    s.history ≠ [] ∧ s.SumsFit ∧ ShowsOnePage area s Page.farthest ∧
      (page area s (offset area s Page.farthest)).map (·.index) = [1, 2] := by
  intro area s
  have hne : s.history ≠ [] := List.cons_ne_nil _ _
  have hfit : s.SumsFit := by
    intro n
    by_cases hn : n ≤ 3
    · have hall : ∀ n ≤ 3, IsChange (History.total (s.history.take n)) := by decide
      exact hall n hn
    · have hwhole : s.history.take n = s.history :=
        List.take_of_length_le (by simp [s]; omega)
      rw [hwhole]
      decide
  exact ⟨hne, hfit, showsOnePage_of_sumsFit area Page.farthest hne hfit, by decide⟩

end Changes

end Backstep
