import Backstep.Pane.Page
import Mathlib.Data.List.DropRight
import Mathlib.Data.List.Forall2

/-!
# What a page shows

A page shows a stretch of a list: rows that stand next to each other, none left out and none shown
twice. From a clamped offset the stretch is as long as the page, or as the list when that is
shorter. So the last page is full, and it is what an offset far beyond the end asks for.
-/

namespace Backstep.Page

variable {α : Type}

/-- The rows of a page, as the height of a bordered pane gives them. -/
theorem capacity_eq (height : Nat) : capacity height = max 1 (height - 2) := Nat.max_comm _ _

/-- The rows that are shown are those of a list from an offset on, as many as a page has room for,
or all there are. -/
structure Shows (rows : List α) (page offset : Nat) (shown : List α) : Prop where
  /-- Nothing is left out, shown twice or out of order. -/
  stretch : ∃ before behind, rows = before ++ shown ++ behind ∧ before.length = offset
  length_eq : shown.length = min rows.length page

section Take

variable {rows : List α} {page offset : Nat}

theorem shows_take (h : offset ≤ rows.length - page) :
    Shows rows page offset (take page offset rows) where
  stretch := by
    refine ⟨rows.take offset, (rows.drop offset).drop page, ?_, ?_⟩
    · rw [take, List.append_assoc, List.take_append_drop, List.take_append_drop]
    · rw [List.length_take]
      omega
  length_eq := by
    simp only [take, List.length_take, List.length_drop]
    omega

/-- The places of the rows that a page shows are a range. -/
theorem take_range (h : offset ≤ rows.length - page) :
    take page offset (List.range rows.length) = List.range' offset (min rows.length page) := by
  apply List.ext_getElem
  · simp only [take, List.length_take, List.length_drop, List.length_range, List.length_range']
    omega
  · intro i _ _
    simp [take, List.getElem_range']

/-- What is told of every row at its place is told of the rows of a page at theirs. -/
theorem forall₂_take {R : Nat → α → Prop} (hrows : List.Forall₂ R (List.range rows.length) rows)
    (h : offset ≤ rows.length - page) :
    List.Forall₂ R (List.range' offset (min rows.length page)) (take page offset rows) := by
  rw [← take_range h]
  exact List.forall₂_take page (List.forall₂_drop offset hrows)

end Take

/-- From the last offset a page shows the last rows. -/
theorem take_length_sub (page : Nat) (rows : List α) :
    take page (rows.length - page) rows = rows.rtake (min page rows.length) := by
  rw [take, List.rtake, List.take_of_length_le]
  · congr 1
    omega
  · rw [List.length_drop]
    omega

end Backstep.Page
