import Backstep.Pane.Trace
import Backstep.Screen.Terminal

/-!
# The right edge of the trace pane

What the trace pane holds may have wide signs in it, and where these end up depends on what was
traced. But its outermost column on the right belongs to its border, and no sign of a border is
wide. So whatever the pane holds, no sign of it reaches beyond it.
-/

namespace Backstep

/-- A mark leaves no wide sign where there was none. -/
def Mark.KeepsNarrow : Mark → Prop
  | write symbol _ => Text.width symbol.toList ≤ 1
  | append _ _ => False
  | tint _ | wipe => True

theorem Cell.width_blank : Cell.blank.width = 1 := by decide

theorem Mark.KeepsNarrow.width_apply_le {m : Mark} (hm : m.KeepsNarrow) {cell : Cell}
    (hcell : cell.width ≤ 1) : (m.apply cell).width ≤ 1 := by
  cases m with
  | write symbol style => exact hm
  | append symbol style => exact hm.elim
  | tint style => exact hcell
  | wipe => exact Nat.le_of_eq Cell.width_blank

namespace Drawing

/-- No stroke of a drawing on a cell leaves a wide sign where there was none. -/
def NarrowAt (d : Drawing) (x y : Nat) : Prop :=
  ∀ s ∈ d, s.x = x → s.y = y → s.mark.KeepsNarrow

variable {d e : Drawing} {x y : Nat}

theorem NarrowAt.width_onto_le (hd : d.NarrowAt x y) {cell : Cell} (hcell : cell.width ≤ 1) :
    (d.onto x y cell).width ≤ 1 := by
  induction d generalizing cell with
  | nil => exact hcell
  | cons s d ih =>
    have hfirst : (onto [s] x y cell).width ≤ 1 := by
      by_cases hs : s.x = x ∧ s.y = y
      · simpa [onto, hs] using (hd s List.mem_cons_self hs.1 hs.2).width_apply_le hcell
      · rw [onto_of_forall_ne (fun r hr => List.mem_singleton.1 hr ▸ hs)]
        exact hcell
    have hrest : NarrowAt d x y := fun r hr => hd r (List.mem_cons_of_mem s hr)
    have hsplit : onto (s :: d) x y cell = onto d x y (onto [s] x y cell) :=
      onto_append [s] d x y cell
    rw [hsplit]
    exact ih hrest hfirst

theorem NarrowAt.append (hd : d.NarrowAt x y) (he : e.NarrowAt x y) : (d ++ e).NarrowAt x y :=
  fun s hs => (List.mem_append.1 hs).elim (hd s) (he s)

/-- A drawing elsewhere leaves nothing at all. -/
theorem Within.narrowAt {r : Rect} (hd : d.Within r) (h : ¬r.Contains x y) : d.NarrowAt x y := by
  intro s hs hx hy
  exact absurd (hx ▸ hy ▸ hd s hs) h

theorem narrowAt_tint (r : Rect) (style : Style) : (tint r style).NarrowAt x y := by
  intro s hs _ _
  obtain ⟨⟨i, j⟩, -, rfl⟩ := List.mem_map.1 hs
  trivial

theorem narrowAt_fill {symbol : String} (h : Text.width symbol.toList ≤ 1) (r : Rect)
    (style : Style) : (fill r symbol style).NarrowAt x y := by
  intro s hs _ _
  obtain ⟨⟨i, j⟩, -, rfl⟩ := List.mem_map.1 hs
  exact h

theorem narrowAt_edges (r : Rect) (style : Style) : (edges r style).NarrowAt x y := by
  have hupright : Text.width "│".toList ≤ 1 := by decide +kernel
  have hlevel : Text.width "─".toList ≤ 1 := by decide +kernel
  refine ((((narrowAt_fill hupright _ style).append (narrowAt_fill hlevel _ style)).append
    (narrowAt_fill hupright _ style)).append (narrowAt_fill hlevel _ style)).append ?_
  intro s hs _ _
  simp only [List.mem_cons, List.not_mem_nil, or_false] at hs
  rcases hs with rfl | rfl | rfl | rfl
  · exact (by decide +kernel : Text.width "┘".toList ≤ 1)
  · exact (by decide +kernel : Text.width "┐".toList ≤ 1)
  · exact (by decide +kernel : Text.width "└".toList ≤ 1)
  · exact (by decide +kernel : Text.width "┌".toList ≤ 1)

/-- The title of a box ends before its right edge. -/
theorem narrowAt_box {r : Rect} (hx : r.width ≠ 0 → r.x + r.width ≤ x + 1) (title : String)
    (style : Style) : (box r title style).NarrowAt x y := by
  rw [box]
  split
  · exact fun s hs => absurd hs List.not_mem_nil
  · refine (narrowAt_edges r style).append ((within_label _ _).narrowAt ?_)
    simp only [Rect.Contains]
    omega

end Drawing

/-- **No sign of the trace pane reaches beyond its right edge.** -/
theorem TracePane.narrowAt_draw {screen area : Rect} {x y : Nat} (hx : area.x + area.width ≤ x + 1)
    (log : Trace) (traced focused : Bool) (offset : Nat) :
    (draw screen area log traced focused offset).NarrowAt x y := by
  have hmeet : (area.meet screen).width ≠ 0 →
      (area.meet screen).x + (area.meet screen).width ≤ x + 1 := by
    simp only [Rect.meet]
    omega
  have hbox : ∀ title style, (Drawing.box (area.meet screen) title style).NarrowAt x y :=
    Drawing.narrowAt_box hmeet
  have hinside : ¬area.inside.Contains x y := by
    simp only [Rect.Contains, Rect.inside]
    omega
  rw [draw]
  split
  · rw [drawEmpty]
    exact (((Drawing.narrowAt_tint _ _).append (hbox _ _)).append
      (Drawing.narrowAt_tint _ _)).append ((Drawing.within_text _ _).narrowAt hinside)
  · refine (hbox _ _).append ((Entry.within_draw _ _ _).narrowAt ?_)
    exact fun h => hinside (Rect.contains_of_padLeft h)

end Backstep
