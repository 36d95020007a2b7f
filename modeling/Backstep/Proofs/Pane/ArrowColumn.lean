import Backstep.Proofs.Pane.HistoryPage
import Backstep.Proofs.Text.Reading
import Backstep.Proofs.Variable.Stack

/-!
# The column of the arrows

In the history pane an arrow leads from every change to the value that it made. The rows have
three columns in front of it, and all arrows stand below each other as long as no text is longer
than its column. The column of the change cannot overflow: a change is the difference of two
values, which has a sign and ten digits at most. The column of the index can, from ten thousand on.
-/

namespace Backstep

/-! ## Numerals in columns -/

namespace Decimal

theorem isPrintableAscii_of_mem_repr {n : Nat} : ∀ c ∈ n.repr.toList, Text.isPrintableAscii c := by
  intro c hc
  rw [Nat.toList_repr] at hc
  have hdigit := Char.isDigit_iff_toNat.1 (Nat.isDigit_of_mem_toDigits (by decide) (by decide) hc)
  change 48 ≤ c.toNat ∧ c.toNat ≤ 57 at hdigit
  simp only [Text.isPrintableAscii, Bool.and_eq_true, decide_eq_true_eq]
  omega

theorem isPrintableAscii_of_mem_signed {i : Int} :
    ∀ c ∈ (signed i).toList, Text.isPrintableAscii c := by
  rw [signed_eq, String.toList_append, List.forall_mem_append]
  refine ⟨List.all_eq_true.1 ?_, isPrintableAscii_of_mem_repr⟩
  split <;> decide

/-- A difference of two values has a sign and ten digits at most. -/
theorem length_signed_le {i : Int} (h : i.natAbs ≤ 2 ^ 32 - 1) : (signed i).length ≤ 11 := by
  have hdigits : i.natAbs.repr.length ≤ 10 := by
    rw [Nat.length_repr_le_iff (by decide)]
    omega
  have hsign : (if i < 0 then "-" else "+").length = 1 := by split <;> rfl
  rw [signed_eq, String.length_append, hsign]
  omega

end Decimal

namespace ChangeRow

/-! ## The text of a row -/

theorem length_padRight (n : Nat) (text : String) :
    (padRight n text).length = max n text.length := by
  rw [padRight, String.length_append, String.length_ofList, List.length_replicate]
  omega

theorem isPrintableAscii_of_mem_padRight {n : Nat} {text : String}
    (h : ∀ c ∈ text.toList, Text.isPrintableAscii c) :
    ∀ c ∈ (padRight n text).toList, Text.isPrintableAscii c := by
  rw [padRight, String.toList_append, String.toList_ofList, List.forall_mem_append]
  refine ⟨h, fun c hc => ?_⟩
  rw [List.eq_of_mem_replicate hc]
  decide

/-- How many columns are in front of the arrow of a row. -/
def arrowColumn (row : ChangeRow) : Nat :=
  Text.width (Text.cutFirst '→' row.line.text.toList).1

variable {row : ChangeRow}

theorem isPrintableAscii_of_mem_indexText :
    ∀ c ∈ row.indexText.toList, Text.isPrintableAscii c := by
  rw [indexText, String.toList_append, List.forall_mem_append]
  exact ⟨List.all_eq_true.1 (by decide),
    isPrintableAscii_of_mem_padRight Decimal.isPrintableAscii_of_mem_repr⟩

theorem isPrintableAscii_of_mem_deltaText :
    ∀ c ∈ row.deltaText.toList, Text.isPrintableAscii c := by
  rw [deltaText]
  apply isPrintableAscii_of_mem_padRight
  split
  · exact List.all_eq_true.1 (by decide)
  · exact Decimal.isPrintableAscii_of_mem_signed

/-- The column of the change is filled up, and a difference of two values is not longer. -/
theorem length_deltaText (h : row.delta.toInt.natAbs ≤ 2 ^ 32 - 1) : row.deltaText.length = 14 := by
  have hle :
      (if row.index = 0 then "sentinel" else Decimal.signed row.delta.toInt).length ≤ 14 := by
    split
    · decide
    · exact (Decimal.length_signed_le h).trans (by decide)
  rw [deltaText, length_padRight]
  omega

theorem length_indexText (row : ChangeRow) :
    row.indexText.length = 1 + max 4 (Nat.toDigits 10 row.index).length := by
  rw [indexText, String.length_append, length_padRight, ← Nat.toList_repr, String.length_toList]
  rfl

/-- The columns in front of the arrow: one for each character, the mark of the last row included. -/
theorem width_front (row : ChangeRow) :
    Text.width (row.marker ++ row.indexText ++ row.deltaText).toList =
      2 + row.indexText.length + row.deltaText.length := by
  have hascii : ∀ c ∈ ' ' :: (row.indexText ++ row.deltaText).toList, Text.isPrintableAscii c := by
    rw [List.forall_mem_cons, String.toList_append, List.forall_mem_append]
    exact ⟨by decide, isPrintableAscii_of_mem_indexText, isPrintableAscii_of_mem_deltaText⟩
  obtain ⟨mark, hmark, hwidth⟩ :
      ∃ mark, row.marker.toList = [mark, ' '] ∧ Text.charWidth mark = 1 := by
    rw [marker]
    split
    · exact ⟨'▶', by decide, by decide +kernel⟩
    · exact ⟨' ', by decide, by decide +kernel⟩
  have htext : (row.marker ++ row.indexText ++ row.deltaText).toList =
      mark :: ' ' :: (row.indexText ++ row.deltaText).toList := by
    simp [hmark]
  rw [htext, Text.width_cons_of_ascii hascii, hwidth, List.length_cons, String.length_toList,
    String.length_append]
  omega

theorem arrow_notMem_front (row : ChangeRow) :
    '→' ∉ (row.marker ++ row.indexText ++ row.deltaText).toList := by
  have harrow : ¬ Text.isPrintableAscii '→' := by decide
  have hmarker : '→' ∉ row.marker.toList := by
    rw [marker]
    split <;> decide
  rw [String.toList_append, String.toList_append, List.mem_append, List.mem_append]
  rintro ((h | h) | h)
  · exact hmarker h
  · exact harrow (isPrintableAscii_of_mem_indexText _ h)
  · exact harrow (isPrintableAscii_of_mem_deltaText _ h)

theorem arrowColumn_eq_width (row : ChangeRow) :
    row.arrowColumn = Text.width (row.marker ++ row.indexText ++ row.deltaText).toList := by
  have htext : row.line.text.toList = (row.marker ++ row.indexText ++ row.deltaText).toList ++
      '→' :: ' ' :: (Decimal.ofInt row.running.toInt).toList := by
    simp [line, Line.text, String.join]
  rw [arrowColumn, htext, Text.cutFirst_append_cons row.arrow_notMem_front]

end ChangeRow

/-! ## The arrow on the screen -/

theorem Line.width_append (front behind : Line) :
    width (front ++ behind) = width front + width behind := by
  induction front with
  | nil => rw [List.nil_append, width, Nat.zero_add]
  | cons s front ih => rw [List.cons_append, width, width, ih, Nat.add_assoc]

namespace Drawing

/-- Spans go on where the ones before them end, if that is before the edge. -/
theorem spans_append {y edge x : Nat} {front : Line} (h : x + front.width < edge) (behind : Line) :
    spans y edge x (front ++ behind) =
      spans y edge x front ++ spans y edge (x + front.width) behind := by
  induction front generalizing x with
  | nil => rfl
  | cons s front ih =>
    rw [Line.width] at h
    have hx : x < edge := by omega
    rw [List.cons_append, spans, spans, if_pos hx, if_pos hx, ih (by omega), Line.width,
      List.append_assoc, Nat.add_assoc]

/-- Spans leave alone what is in front of them. -/
theorem onto_spans_of_lt {y edge x column : Nat} (h : column < x) (line : Line) (cell : Cell) :
    (spans y edge x line).onto column y cell = cell := by
  by_cases hx : x < edge
  · have hwithin : (spans y (x + (edge - x)) x line).Within ⟨x, y, edge - x, 1⟩ :=
      within_spans (r := ⟨x, y, edge - x, 1⟩) line (Nat.le_refl x)
        ⟨Nat.le_refl y, Nat.lt_succ_self y⟩
    rw [Nat.add_sub_cancel' hx.le] at hwithin
    refine hwithin.onto_eq ?_ cell
    simp only [Rect.Contains]
    omega
  · cases line with
    | nil => rfl
    | cons s rest => rw [spans, if_neg hx, onto_nil]

/-- An arrow with a space behind it is written into the first column, if there is one. -/
theorem symbol_onto_span_arrow {y edge x : Nat} (h : x < edge) (style : Style) (cell : Cell) :
    ((span y edge x ⟨"→ ", style⟩).onto x y cell).symbol = "→" := by
  have hglyphs : Span.glyphs ⟨"→ ", style⟩ = [(⟨"→", 1⟩, style), (⟨" ", 1⟩, style)] := by
    have harrow : glyphs "→ " = [⟨"→", 1⟩, ⟨" ", 1⟩] := by decide +kernel
    rw [Span.glyphs, harrow]
    rfl
  have hfits : ¬ edge < x + 1 := by omega
  rw [span, hglyphs]
  -- The space has the next column, or none if the edge comes first; the arrow stays in either case.
  by_cases hspace : edge < x + 1 + 1
  · simp [hfits, hspace, hide, spell, onto, Mark.apply]
  · simp [hfits, hspace, hide, spell, onto, Mark.apply]

end Drawing

namespace ChangeRow

/-- Where the arrow of the row at a place stands. -/
structure AlignedAt (i : Nat) (row : ChangeRow) : Prop where
  /-- What the row tells of the change and the value does not matter. -/
  arrowColumn_eq : row.arrowColumn = 17 + max 4 (Nat.toDigits 10 i).length
  arrowColumn_of_lt : i < 10000 → row.arrowColumn = 21
  /-- The change fills its column. -/
  width_deltaText : Text.width row.deltaText.toList = 14
  /-- The arrow is shown in its column wherever the row has the room for it. -/
  shown : ∀ r : Rect, r.height ≠ 0 → row.arrowColumn < r.width → ∀ cell : Cell,
    ((Drawing.label r row.line).onto (r.x + row.arrowColumn) r.y cell).symbol = "→"

/-- The spans in front of the arrow are as wide as their text. -/
theorem width_take_line (row : ChangeRow) : Line.width (row.line.take 3) = row.arrowColumn := by
  have hmarker : Text.width row.marker.toList = 2 := by
    rw [marker]
    split <;> decide +kernel
  rw [arrowColumn_eq_width, width_front]
  simp only [line, List.take_succ_cons, List.take_zero, Line.width, Span.width, hmarker,
    Text.width_eq_length isPrintableAscii_of_mem_indexText,
    Text.width_eq_length isPrintableAscii_of_mem_deltaText, String.length_toList]
  omega

/-- The row of a difference of two values is aligned. -/
theorem alignedAt_of_natAbs_le (row : ChangeRow) (h : row.delta.toInt.natAbs ≤ 2 ^ 32 - 1) :
    row.AlignedAt row.index := by
  have hdelta : row.deltaText.length = 14 := length_deltaText h
  have hcolumn : row.arrowColumn = 17 + max 4 (Nat.toDigits 10 row.index).length := by
    rw [arrowColumn_eq_width, width_front, hdelta, length_indexText]
    omega
  refine ⟨hcolumn, ?_, ?_, ?_⟩
  · intro hlt
    have hdigits : (Nat.toDigits 10 row.index).length ≤ 4 := by
      rw [Nat.length_toDigits_le_iff (by decide) (by decide)]
      exact hlt
    omega
  · rw [Text.width_eq_length isPrintableAscii_of_mem_deltaText, String.length_toList, hdelta]
  · intro r hheight hroom cell
    have hline :
        row.line = row.line.take 3 ++ ⟨"→ ", .ofFg Palette.comment⟩ :: row.line.drop 4 := rfl
    have hfront : r.x + Line.width (row.line.take 3) < r.x + r.width := by
      rw [width_take_line]
      omega
    have hwidth : Line.width row.line ≠ 0 := by
      rw [hline, Line.width_append, width_take_line]
      omega
    rw [Drawing.label, if_neg (not_or.2 ⟨hheight, hwidth⟩), hline, Drawing.spans_append hfront,
      width_take_line, Drawing.spans, if_pos (by omega), Drawing.onto_append, Drawing.onto_append,
      Drawing.onto_spans_of_lt]
    · exact Drawing.symbol_onto_span_arrow (by omega) _ _
    · have harrow : Span.width ⟨"→ ", .ofFg Palette.comment⟩ = 2 := by decide +kernel
      omega

end ChangeRow

namespace Changes

/-- **The arrows stand below each other.** Whatever was done to a variable, no change of its history
is longer than its column. Every change has a row, whether it is marked as the last one or not, and
the place of the change alone decides where the arrow of the row stands. -/
theorem alignedAt_rows_performAll {σ : Type} [Sink σ] (name : String) (traced : Bool) (sink : σ)
    (os : List Operation) :
    let s := ((Variable.create name traced sink).performAll os).2.snapshot
    (∀ delta ∈ s.history, Text.width (Decimal.signed delta.toInt).toList ≤ 14) ∧
      List.Forall₂ (fun i row => ∀ newest, ChangeRow.AlignedAt i { row with newest := newest })
        (List.range s.depth) (rows s) := by
  intro s
  have hnew : (Variable.create name traced sink).history = .ofStack [] :=
    Variable.history_create name traced sink
  obtain ⟨-, hhistory, -⟩ := Variable.performAll_of_history hnew os
  have hbound : ∀ delta ∈ s.history, delta.toInt.natAbs ≤ 2 ^ 32 - 1 := by
    intro delta hdelta
    have hlist : s.history = (History.ofStack _).toList := congrArg History.toList hhistory
    rw [hlist] at hdelta
    exact History.natAbs_toInt_le_of_mem_toList hdelta
  constructor
  · intro delta hdelta
    rw [Text.width_eq_length Decimal.isPrintableAscii_of_mem_signed, String.length_toList]
    exact (Decimal.length_signed_le (hbound delta hdelta)).trans (by decide)
  · rw [List.forall₂_iff_get]
    refine ⟨by rw [List.length_range, length_rows], fun i _ hi newest => ?_⟩
    obtain ⟨hdelta, -, hindex, -⟩ := getElem?_rows (List.getElem?_eq_getElem hi)
    simp only [List.get_eq_getElem, List.getElem_range]
    generalize (rows s)[i] = row at hdelta hindex
    rw [← hindex]
    exact ChangeRow.alignedAt_of_natAbs_le { row with newest := newest }
      (hbound _ (List.mem_of_getElem? hdelta))

/-- The arrows of the largest jump there is and of the rows before it. -/
example : (rows ((Variable.create "x" false Trace.empty).performAll
    [.assign Int32.minValue, .assign Int32.maxValue]).2.snapshot).map
      (fun row => (row.deltaText, row.arrowColumn)) =
    [("sentinel      ", 21), ("-2147483648   ", 21), ("+4294967295   ", 21)] := by
  decide +kernel

end Changes

end Backstep
