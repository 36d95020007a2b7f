import Backstep.Proofs.Stepper.ScrollKeys
import Mathlib.Order.Lattice

/-!
# Draws at several sizes

While its window is resized, a session is drawn at one size after another and nothing else happens
in between. Each of these draws clamps the offset of a pane, and to clamp is to take a minimum, also
for a list that fits, which is shown from its start. So the draws together take one minimum: the
order of the sizes does not matter, nor how often one comes up, and the draw at the largest size
would have done alone. A number is not above the offset in the end if it is not above the first one
nor above the bound of any draw, and everything else here is read off that.

Offsets and counts are machine words. The one difference that is taken of them stands behind a
comparison, so it never falls below zero.

## Main definitions

* `Page.clampAll` — the offset after draws at several heights.
* `Page.bound` — the bound that one draw sets.
* `Page.clampAllWord?` — the same in words, with no result if a difference falls below zero.
* `SettlesAsOne` — what draws at several heights come to.

## Main statements

* `Stepper.run_redraws_eq_settle` — a session after draws at several sizes.
* `Stepper.settlesAsOne_of_ne_nil` — an offset after draws at several heights.
-/

namespace Backstep

namespace Page

variable {count page offset : Nat} {heights : List Nat}

/-- The offset that is shown after draws in a pane of several heights, one after the other. -/
def clampAll (count offset : Nat) (heights : List Nat) : Nat :=
  heights.foldl (fun shown height => clamp count (capacity height) shown) offset

@[simp] theorem clampAll_nil (count offset : Nat) : clampAll count offset [] = offset := rfl

@[simp] theorem clampAll_cons (count offset height : Nat) (heights : List Nat) :
    clampAll count offset (height :: heights) =
      clampAll count (clamp count (capacity height) offset) heights := rfl

/-! ## What is not above the offset -/

theorem le_clamp_iff {k : Nat} :
    k ≤ clamp count page offset ↔ k ≤ offset ∧ k ≤ count - page := by
  rw [clamp_eq_min, Nat.le_min]

/-- Every draw sets a bound of its own. -/
theorem le_clampAll_iff {k : Nat} : k ≤ clampAll count offset heights ↔
    k ≤ offset ∧ ∀ height ∈ heights, k ≤ count - capacity height := by
  induction heights generalizing offset with
  | nil => simp
  | cons height heights ih =>
    rw [clampAll_cons, ih, le_clamp_iff, List.forall_mem_cons, and_assoc]

/-- More draws never lead further down. -/
theorem clampAll_le_of_subset {others : List Nat} (h : heights ⊆ others) :
    clampAll count offset others ≤ clampAll count offset heights := by
  obtain ⟨hoffset, hall⟩ := le_clampAll_iff.1 (Nat.le_refl (clampAll count offset others))
  exact le_clampAll_iff.2 ⟨hoffset, fun height hmem => hall height (h hmem)⟩

theorem capacity_mono {height other : Nat} (h : other ≤ height) :
    capacity other ≤ capacity height := by
  simp only [capacity]
  omega

/-- The highest pane leaves the least to scroll. -/
theorem clampAll_eq_clamp {height : Nat} (hmem : height ∈ heights)
    (hmax : ∀ other ∈ heights, other ≤ height) :
    clampAll count offset heights = clamp count (capacity height) offset := by
  refine eq_of_forall_le_iff fun k => ?_
  rw [le_clampAll_iff, le_clamp_iff]
  refine and_congr_right fun _ => ⟨fun hall => hall height hmem, fun hk other hother => ?_⟩
  exact hk.trans (Nat.sub_le_sub_left (capacity_mono (hmax other hother)) count)

/-- The bound that one draw sets, in integers: what a list has more than a page, if anything. -/
def bound (count height : Nat) : Int := max 0 ((count : Int) - max 1 ((height : Int) - 2))

theorem cast_sub_capacity (count height : Nat) :
    ((count - capacity height : Nat) : Int) = bound count height := by
  rw [capacity, bound]
  omega

/-- All draws in one formula. -/
theorem clampAll_eq_min (hne : heights ≠ []) : (clampAll count offset heights : Int) =
    min (offset : Int) ((heights.map (bound count)).min (mt List.map_eq_nil_iff.1 hne)) := by
  refine eq_of_forall_le_iff fun k => ?_
  rw [← Int.toNat_le, le_clampAll_iff, Int.le_min, List.le_min_iff, List.forall_mem_map]
  simp only [Int.toNat_le, cast_sub_capacity]

/-! ## Machine words -/

/-- The difference of two words, if it does not fall below zero. -/
def difference? (a b : UInt64) : Option UInt64 := if b ≤ a then some (a - b) else none

/-- The rows of a page in words. A height has 16 bits, and the border is taken off as far as there
is one. -/
def capacityWord (height : UInt16) : UInt64 :=
  (max (if 2 ≤ height then height - 2 else 0) 1).toUInt64

/-- Clamping in words, with the difference behind the same comparison as in numbers. -/
def clampWord? (count page offset : UInt64) : Option UInt64 :=
  if page < count then (difference? count page).map (min offset) else some 0

/-- Clamping at several heights in words. -/
def clampAllWord? (count offset : UInt64) (heights : List UInt16) : Option UInt64 :=
  heights.foldlM (fun shown height => clampWord? count (capacityWord height) shown) offset

theorem toNat_capacityWord (height : UInt16) :
    (capacityWord height).toNat = capacity height.toNat := by
  have htwo : 2 ≤ height ↔ 2 ≤ height.toNat := UInt16.le_iff_toNat_le
  rw [capacityWord, UInt16.toNat_toUInt64, UInt16.toNat_max, capacity]
  split
  case isTrue hborder =>
    rw [UInt16.toNat_sub_of_le _ _ hborder]
    rfl
  case isFalse hborder =>
    rw [Nat.sub_eq_zero_of_le (Nat.le_of_not_le (mt htwo.2 hborder))]
    rfl

/-- **The difference never falls below zero.** -/
theorem exists_clampWord? (count page offset : UInt64) : ∃ shown,
    clampWord? count page offset = some shown ∧
      shown.toNat = clamp count.toNat page.toNat offset.toNat := by
  by_cases hlonger : page < count
  · have hle : page ≤ count := UInt64.le_of_lt hlonger
    refine ⟨min offset (count - page), ?_, ?_⟩
    · rw [clampWord?, if_pos hlonger, difference?, if_pos hle, Option.map_some]
    · rw [UInt64.toNat_min, UInt64.toNat_sub_of_le _ _ hle, clamp_eq_min]
  · refine ⟨0, if_neg hlonger, ?_⟩
    rw [clamp, if_neg (mt UInt64.lt_iff_toNat_lt.2 hlonger)]
    rfl

/-- So all draws have a result in words, and it is the one in numbers. -/
theorem exists_clampAllWord? (count offset : UInt64) (heights : List UInt16) : ∃ shown,
    clampAllWord? count offset heights = some shown ∧
      shown.toNat = clampAll count.toNat offset.toNat (heights.map UInt16.toNat) := by
  induction heights generalizing offset with
  | nil => exact ⟨offset, rfl, rfl⟩
  | cons height heights ih =>
    obtain ⟨first, hfirst, hclamp⟩ := exists_clampWord? count (capacityWord height) offset
    obtain ⟨last, hlast, hrest⟩ := ih first
    refine ⟨last, ?_, ?_⟩
    · rw [clampAllWord?, List.foldlM_cons, hfirst]
      exact hlast
    · rw [hrest, hclamp, toNat_capacityWord, List.map_cons, clampAll_cons]

end Page

namespace Stepper

/-! ## Sessions -/

/-- Draws at several sizes with nothing in between. -/
def redraws (sizes : List Size) : List (Size × Occurrence) := sizes.map (·, .redraw)

variable {s : Stepper} {f : Focus} {size : Size} {sizes : List Size}

theorem run_redraws_cons (s : Stepper) (size : Size) (sizes : List Size) :
    s.run (redraws (size :: sizes)) = (s.settle size).run (redraws sizes) := rfl

/-- Draws move the offsets and nothing else. -/
theorem rest_run_redraws (s : Stepper) (sizes : List Size) : ∃ historyScroll traceScroll,
    s.run (redraws sizes) = { s with historyScroll, traceScroll } := by
  induction sizes generalizing s with
  | nil => exact ⟨s.historyScroll, s.traceScroll, rfl⟩
  | cons size sizes ih => exact ih (s.settle size)

/-- Draws clamp the offset of a pane at its heights. An empty trace has nothing to scroll and keeps
its offset. -/
theorem scrollOf_run_redraws (hf : f = .trace → s.var.sink.lines ≠ []) (sizes : List Size) :
    (s.run (redraws sizes)).scrollOf f = Page.clampAll (s.countOf f) (s.scrollOf f)
      (sizes.map fun size => (areaOf size f).height) := by
  induction sizes generalizing s with
  | nil => rfl
  | cons size sizes ih =>
    have hcount : (s.settle size).countOf f = s.countOf f := countOf_congr (s := s) rfl f
    have hone : (s.settle size).scrollOf f =
        Page.clamp (s.countOf f) (Page.capacity (areaOf size f).height) (s.scrollOf f) := by
      rw [s.scrollOf_settle size hf, Page.clamp_eq_min, Page.capacity_eq]
      rfl
    rw [run_redraws_cons, ih (s := s.settle size) hf, hcount, hone, List.map_cons,
      Page.clampAll_cons]

theorem traceScroll_run_redraws_of_nil (hempty : s.var.sink.lines = []) (sizes : List Size) :
    (s.run (redraws sizes)).traceScroll = s.traceScroll := by
  induction sizes generalizing s with
  | nil => rfl
  | cons size sizes ih =>
    rw [run_redraws_cons, ih (s := s.settle size) hempty]
    exact if_pos (s.var.sink.isEmpty_iff.2 hempty)

/-- A pane is the higher the higher its screen is. -/
theorem height_areaOf_mono {other : Size} (h : other.height ≤ size.height) (f : Focus) :
    (areaOf other f).height ≤ (areaOf size f).height := by
  cases f <;>
    simp only [areaOf, Layout.ofSize, Size.rect, Rect.ofSize, Rect.splitBottom, Rect.splitTop,
      Rect.halves] <;>
    omega

/-- **Draws at several sizes come to the draw at the largest one.** Only the heights count. -/
theorem run_redraws_eq_settle (s : Stepper) (hmem : size ∈ sizes)
    (hmax : ∀ other ∈ sizes, other.height ≤ size.height) :
    s.run (redraws sizes) = s.settle size := by
  refine eq_of_scrollOf (s.rest_run_redraws sizes) fun f => ?_
  by_cases hf : f = .trace → s.var.sink.lines ≠ []
  · have hone : (s.settle size).scrollOf f =
        Page.clampAll (s.countOf f) (s.scrollOf f) [(areaOf size f).height] :=
      scrollOf_run_redraws hf [size]
    rw [scrollOf_run_redraws hf, hone]
    refine Page.clampAll_eq_clamp (List.mem_map_of_mem hmem) fun height hheight => ?_
    obtain ⟨other, hother, rfl⟩ := List.mem_map.1 hheight
    exact height_areaOf_mono (hmax other hother) f
  · obtain ⟨rfl, hempty⟩ := Classical.not_imp.1 hf
    have hempty := not_not.1 hempty
    exact (traceScroll_run_redraws_of_nil hempty sizes).trans
      (traceScroll_run_redraws_of_nil hempty [size]).symm

end Stepper

open Stepper

/-- What draws at several heights make of the offset of a list, if nothing happens in between. -/
structure SettlesAsOne (count offset : Nat) (heights : List Nat) (hne : heights ≠ []) : Prop where
  /-- The offset is the least of the one that was asked for and the bounds of the draws. -/
  eq_min : (Page.clampAll count offset heights : Int) =
    min (offset : Int) ((heights.map (Page.bound count)).min (mt List.map_eq_nil_iff.1 hne))
  /-- Neither the order of the heights matters nor how often one comes up. -/
  congr : ∀ others, (∀ height, height ∈ others ↔ height ∈ heights) →
    Page.clampAll count offset others = Page.clampAll count offset heights
  /-- No draw leads further down, from the offset that was asked for to the last one. -/
  antitone : ∀ earlier later, earlier <+: later → later <+: heights →
    Page.clampAll count offset later ≤ Page.clampAll count offset earlier
  eq_largest : Page.clampAll count offset heights =
    Page.clamp count (Page.capacity (heights.max hne)) offset
  /-- In words no difference falls below zero, and the result is the same. -/
  in_words : ∀ (countWord offsetWord : UInt64) (heightWords : List UInt16),
    countWord.toNat = count → offsetWord.toNat = offset →
      heightWords.map UInt16.toNat = heights →
        ∃ shown, Page.clampAllWord? countWord offsetWord heightWords = some shown ∧
          shown.toNat = Page.clampAll count offset heights
  /-- So it goes with either pane of a session. An empty trace alone is never clamped. -/
  in_sessions : ∀ (s : Stepper) (f : Focus) (sizes : List Size),
    (f = .trace → s.var.sink.lines ≠ []) → s.countOf f = count → s.scrollOf f = offset →
      (sizes.map fun size => (areaOf size f).height) = heights →
        (s.run (redraws sizes)).scrollOf f = Page.clampAll count offset heights

namespace Stepper

/-- **Resizing settles an offset like one draw.** However many entries there are, whatever offset is
asked for and whatever the heights of the pane are from one draw to the next, the offset ends up as
the least of those that the draws allow. -/
theorem settlesAsOne_of_ne_nil (count offset : Nat) {heights : List Nat} (hne : heights ≠ []) :
    SettlesAsOne count offset heights hne where
  eq_min := Page.clampAll_eq_min hne
  congr others hsame := Nat.le_antisymm
    (Page.clampAll_le_of_subset fun height => (hsame height).2)
    (Page.clampAll_le_of_subset fun height => (hsame height).1)
  antitone _ _ hlater _ := Page.clampAll_le_of_subset hlater.subset
  eq_largest := Page.clampAll_eq_clamp (List.max_mem hne) fun _ => List.le_max_of_mem
  in_words countWord offsetWord heightWords := by
    rintro rfl rfl rfl
    exact Page.exists_clampAllWord? countWord offsetWord heightWords
  in_sessions s f sizes hf := by
    rintro rfl rfl rfl
    exact scrollOf_run_redraws hf sizes

/-- A trace of three lines is shown from its end, in a pane that has a row for one of them, then for
two, then for none. -/
theorem settlesAsOne_of_resized_trace :
    let s := (Stepper.new (.create "x" true .empty) [5, 7]).jumpToEnd
    let sizes : List Size := [⟨20, 4⟩, ⟨20, 5⟩, ⟨20, 2⟩]
    let heights := [3, 4, 1]
    ((heights ≠ [] ∧ s.var.sink.lines ≠ []) ∧ s.countOf .trace = 3 ∧
        s.scrollOf .trace = Page.farthest ∧
        (sizes.map fun size => (areaOf size .trace).height) = heights) ∧
      Page.clampAll 3 Page.farthest heights = 1 ∧
      Page.clampAll 3 Page.farthest [1, 4, 3, 4] = 1 ∧
      (s.run (redraws sizes)).traceScroll = 1 ∧
      ∃ shown, Page.clampAllWord? 3 0xFFFFFFFFFFFFFFFF [3, 4, 1] = some shown ∧
        shown.toNat = 1 := by
  intro s sizes heights
  have hne : heights ≠ [] := List.cons_ne_nil _ _
  have hlines : s.var.sink.lines ≠ [] := by decide
  have hcount : s.countOf .trace = 3 := by decide
  have hoffset : s.scrollOf .trace = Page.farthest := by decide
  have hheights : (sizes.map fun size => (areaOf size .trace).height) = heights := by decide
  have hsettles := settlesAsOne_of_ne_nil 3 Page.farthest hne
  have hone : Page.clampAll 3 Page.farthest heights = 1 := hsettles.eq_largest
  refine ⟨⟨⟨hne, hlines⟩, hcount, hoffset, hheights⟩, hone, ?_, ?_, ?_⟩
  · exact (hsettles.congr [1, 4, 3, 4] (by simp [heights]; omega)).trans hone
  · have hscroll := hsettles.in_sessions s .trace sizes (fun _ => hlines) hcount hoffset hheights
    exact hscroll.trans hone
  · rw [← hone]
    exact hsettles.in_words 3 0xFFFFFFFFFFFFFFFF [3, 4, 1] rfl rfl rfl

end Stepper

end Backstep
