import Backstep.Proofs.Text.Reading
import Backstep.Snapshot

/-!
# Reading sums

The sum that a snapshot shows can be read back: its terms are what stands between the pluses. A plus
has a blank on either side and a numeral has none in it, so no numeral can be taken for a plus, not
even one with a sign. The reader gives the terms as integers, so their sum is that of the integers
that are shown, whatever the words in which the snapshot holds them.
-/

namespace Backstep.Snapshot

/-- What stands between the pluses of a text, each of which has a blank on either side. -/
def terms : List Char → List (List Char)
  | [] => [[]]
  | ' ' :: '+' :: ' ' :: rest => [] :: terms rest
  | c :: rest =>
    match terms rest with
    | [] => [[c]]
    | term :: others => (c :: term) :: others

/-- The integers that a sum adds up, if all of its terms are numerals. -/
def readSum? (text : String) : Option (List Int) :=
  (terms text.toList).mapM fun term => Decimal.read? (String.ofList term)

theorem terms_cons_of_ne {c : Char} (hc : c ≠ ' ') {rest term : List Char}
    {others : List (List Char)} (h : terms rest = term :: others) :
    terms (c :: rest) = (c :: term) :: others := by
  rw [terms]
  · rw [h]
  · rintro rest' heq -
    exact hc heq

/-- A term without blanks goes up to the first plus, or to the end. -/
theorem terms_append {term : List Char} (hterm : ' ' ∉ term) {text : List Char}
    {others : List (List Char)} (h : terms text = [] :: others) :
    terms (term ++ text) = term :: others := by
  induction term with
  | nil => exact h
  | cons c term ih =>
    rw [List.mem_cons, not_or] at hterm
    exact terms_cons_of_ne (Ne.symm hterm.1) (ih hterm.2)

/-- The terms of a sum of numerals are the numerals. -/
theorem terms_intercalate (i : Int) (is : List Int) :
    terms (" + ".intercalate ((i :: is).map Decimal.ofInt)).toList =
      (i :: is).map fun j => (Decimal.ofInt j).toList := by
  have hnumeral : ∀ j, ' ' ∉ (Decimal.ofInt j).toList :=
    fun j => Decimal.notMem_ofInt (by decide) (by decide) j
  induction is generalizing i with
  | nil =>
    have hend : terms [] = [[]] := rfl
    have hlast := terms_append (hnumeral i) hend
    rw [List.append_nil] at hlast
    rw [List.map_singleton, String.intercalate_singleton, hlast]
    rfl
  | cons j is ih =>
    have hplus : terms (" + ".toList ++ (" + ".intercalate ((j :: is).map Decimal.ofInt)).toList) =
        [] :: (j :: is).map fun k => (Decimal.ofInt k).toList := by
      rw [← ih j]
      rfl
    rw [List.map_cons, List.map_cons, String.intercalate_cons_cons, String.toList_append,
      String.toList_append, List.append_assoc, ← List.map_cons, terms_append (hnumeral i) hplus]
    rfl

/-- **A sum says what it adds up**: unless there are no changes, the integers read back are those of
the changes, in order. -/
theorem readSum?_sumText {s : Snapshot} (h : s.history ≠ []) :
    readSum? s.sumText = some (s.history.map Int64.toInt) := by
  obtain ⟨first, rest, hhistory⟩ := List.exists_cons_of_ne_nil h
  have hterms : terms s.sumText.toList =
      (s.history.map Int64.toInt).map fun i => (Decimal.ofInt i).toList := by
    have hsum := terms_intercalate first.toInt (rest.map Int64.toInt)
    rw [← List.map_cons, ← hhistory, List.map_map] at hsum
    exact hsum
  rw [readSum?, hterms]
  refine Text.mapM_map_of_forall ?_ _
  intro i
  rw [String.ofList_toList, Decimal.read?_ofInt]

/-- A sign belongs to its term. -/
example : readSum? "0 + 5 + -3 + +2" = some [0, 5, -3, 2] := by decide +kernel

end Backstep.Snapshot
