import Backstep.Pane.Summary
import Backstep.Proofs.History.Reachable
import Backstep.Proofs.Text.SumText
import Backstep.Proofs.Variable.Stack

/-!
# The equation of the variable pane

The variable pane shows a sum of changes and the value that it adds up to. Both can be read back:
the sum is taken apart at its pluses, which gives the changes and nothing else, and the value is
what stands behind the last sign of equality. For a history that no steps have made the equation
may be false. For one that steps have made it is true, because the changes add up to the value.
-/

namespace Backstep

namespace Snapshot

/-! ## Texts taken apart -/

/-- The plus as it stands between two terms. -/
def plus : List Char := [' ', '+', ' ']

/-- The pieces are those of a text taken apart at its pluses: nothing but the pluses is lost, and
none is left in a piece. -/
structure TakenApart (text : List Char) (pieces : List (List Char)) : Prop where
  intercalate_eq : plus.intercalate pieces = text
  not_infix : ∀ piece ∈ pieces, ¬ plus <:+: piece

namespace TakenApart

variable {text piece : List Char} {pieces : List (List Char)}

theorem nil : TakenApart [] [[]] where
  intercalate_eq := rfl
  not_infix := by
    intro piece hpiece
    rw [List.mem_singleton.1 hpiece]
    decide

/-- A plus in front ends an empty piece. -/
theorem plus_append (h : TakenApart text (piece :: pieces)) :
    TakenApart (plus ++ text) ([] :: piece :: pieces) where
  intercalate_eq := by rw [List.intercalate_cons_cons, List.nil_append, h.intercalate_eq]
  not_infix := List.forall_mem_cons.2 ⟨by decide, h.not_infix⟩

theorem prefix_of_cons (h : TakenApart text (piece :: pieces)) : piece <+: text := by
  cases pieces with
  | nil =>
    have htext : piece = text := by rw [← h.intercalate_eq, List.intercalate_singleton]
    exact htext ▸ List.prefix_rfl
  | cons next pieces =>
    rw [← h.intercalate_eq, List.intercalate_cons_cons, List.append_assoc]
    exact List.prefix_append _ _

/-- A character in front belongs to the first piece, unless a plus begins with it. -/
theorem cons (h : TakenApart text (piece :: pieces)) {c : Char} (hc : ¬ plus <+: c :: text) :
    TakenApart (c :: text) ((c :: piece) :: pieces) where
  intercalate_eq := by
    rw [← h.intercalate_eq]
    cases pieces with
    | nil => rw [List.intercalate_singleton, List.intercalate_singleton]
    | cons next pieces =>
      rw [List.intercalate_cons_cons, List.intercalate_cons_cons, List.cons_append,
        List.cons_append]
  not_infix := by
    obtain ⟨hfirst, hrest⟩ := List.forall_mem_cons.1 h.not_infix
    refine List.forall_mem_cons.2 ⟨?_, hrest⟩
    intro hinfix
    rcases List.infix_cons_iff.1 hinfix with hfront | hinside
    · exact hc (hfront.trans (List.cons_prefix_cons.2 ⟨rfl, h.prefix_of_cons⟩))
    · exact hfirst hinside

end TakenApart

/-- The terms of a text are its pieces. -/
theorem exists_takenApart_terms (text : List Char) :
    ∃ term others, terms text = term :: others ∧ TakenApart text (term :: others) := by
  induction text using terms.induct with
  | case1 => exact ⟨[], [], rfl, .nil⟩
  | case2 rest ih =>
    obtain ⟨term, others, hterms, happart⟩ := ih
    exact ⟨[], term :: others, by rw [terms, hterms], happart.plus_append⟩
  | case3 c rest hne hnone ih =>
    obtain ⟨term, others, hterms, -⟩ := ih
    exact absurd (hnone.symm.trans hterms) (List.cons_ne_nil _ _).symm
  | case4 c rest hne term others hterms ih =>
    obtain ⟨first, later, hfirst, happart⟩ := ih
    obtain ⟨rfl, rfl⟩ := List.cons.inj (hterms.symm.trans hfirst)
    have hplus : ¬ plus <+: c :: rest := by
      rintro ⟨behind, hbehind⟩
      obtain ⟨hblank, hrest⟩ := List.cons.inj hbehind
      exact hne behind hblank.symm hrest.symm
    refine ⟨c :: term, others, ?_, happart.cons hplus⟩
    rw [terms]
    · rw [hterms]
    · exact hne

theorem takenApart_terms (text : List Char) : TakenApart text (terms text) := by
  obtain ⟨term, others, hterms, happart⟩ := exists_takenApart_terms text
  rw [hterms]
  exact happart

/-! ## Sums -/

variable {s t : Snapshot}

/-- Only a snapshot without changes has an empty sum. -/
theorem sumText_eq_empty_iff : s.sumText = "" ↔ s.history = [] := by
  constructor
  · intro hempty
    by_contra hne
    have hread := readSum?_sumText hne
    have hnone : readSum? "" = none := rfl
    rw [hempty, hnone] at hread
    cases hread
  · intro hnone
    rw [sumText, hnone]
    rfl

/-- The sum decides the changes. -/
theorem sumText_inj : s.sumText = t.sumText ↔ s.history = t.history := by
  constructor
  · intro hsum
    by_cases hs : s.history = []
    · have ht : t.history = [] := by
        rw [← sumText_eq_empty_iff, ← hsum, sumText_eq_empty_iff]
        exact hs
      rw [hs, ht]
    · have ht : t.history ≠ [] := by
        rw [Ne, ← sumText_eq_empty_iff, ← hsum, sumText_eq_empty_iff]
        exact hs
      have hread := readSum?_sumText hs
      rw [hsum, readSum?_sumText ht, Option.some.injEq,
        List.map_inj_right fun _ _ => Int64.toInt.inj] at hread
      exact hread.symm
  · intro hhistory
    rw [sumText, sumText, hhistory]

end Snapshot

/-! ## Equations -/

namespace Summary

/-- The integers on the left of an equation and the one on its right. -/
def readEquation? (text : String) : Option (List Int × Int) := do
  let (sum, value) ← Text.cutLast? '=' text.toList
  let terms ← Snapshot.readSum? (String.ofList (← sum.dropSuffix? [' ']))
  return (terms, ← Decimal.read? (String.ofList (← value.dropPrefix? [' '])))

/-- An equation can be read back, be it true or not. -/
theorem readEquation?_equation {s : Snapshot} (h : s.history ≠ []) :
    readEquation? (equation s) = some (s.history.map Int64.toInt, s.value.toInt) := by
  have htext : (equation s).toList =
      (s.sumText.toList ++ [' ']) ++ '=' :: ([' '] ++ (Decimal.ofInt s.value.toInt).toList) := by
    simp [equation]
  have hvalue : '=' ∉ [' '] ++ (Decimal.ofInt s.value.toInt).toList := by
    have hnumeral : '=' ∉ (Decimal.ofInt s.value.toInt).toList :=
      Decimal.notMem_ofInt (by decide) (by decide) s.value.toInt
    simpa using hnumeral
  rw [readEquation?, htext, Text.cutLast?_append_cons hvalue]
  simp only [Option.bind_eq_bind, Option.bind_some, Text.dropSuffix?_append,
    List.dropPrefix?_append_of_beq _ BEq.rfl, String.ofList_toList, Snapshot.readSum?_sumText h,
    Decimal.read?_ofInt]
  rfl

/-- The equation of a snapshot is true when its changes are those of a stack and its value is the
one in force. -/
theorem sum_toInt_of_history {s : Snapshot} {stack : ValueStack}
    (hhistory : s.history = (History.ofStack stack).toList) (hvalue : s.value = stack.current) :
    (s.history.map Int64.toInt).sum = s.value.toInt := by
  rw [hhistory, hvalue]
  exact History.total_toList_ofStack stack

open Snapshot in
/-- **The sum is faithful and the equation is true.** A sum taken apart at its pluses gives back the
changes, so different changes have different sums, and only where there are none the sum is empty.
The variable pane of any variable, whatever was done to it, shows an equation of which both sides
can be read back, and the integers on the left add up to the one on the right. -/
theorem sumText_faithful_and_equation_true :
    (∀ text, TakenApart text (terms text)) ∧
    (∀ s : Snapshot, s.history ≠ [] → readSum? s.sumText = some (s.history.map Int64.toInt)) ∧
    (∀ s : Snapshot, s.sumText = "" ↔ s.history = []) ∧
    (∀ s t : Snapshot, s.sumText = t.sumText ↔ s.history = t.history) ∧
    ∀ (σ : Type) [Sink σ] (name : String) (traced : Bool) (sink : σ) (os : List Operation)
      (next : Option Int32),
      let s := ((Variable.create name traced sink).performAll os).2.snapshot
      ∃ equation, (lines s next)[2]?.map (·.map (·.text)) = some ["sum      ", equation] ∧
        readEquation? equation = some (s.history.map Int64.toInt, s.value.toInt) ∧
        (s.history.map Int64.toInt).sum = s.value.toInt := by
  refine ⟨takenApart_terms, fun _ => readSum?_sumText, fun _ => sumText_eq_empty_iff,
    fun _ _ => sumText_inj, ?_⟩
  intro σ _ name traced sink os next s
  have hnew : (Variable.create name traced sink).history = .ofStack [] :=
    Variable.history_create name traced sink
  obtain ⟨-, hhistory, -⟩ := Variable.performAll_of_history hnew os
  have hne : s.history ≠ [] := List.cons_ne_nil _ _
  have hvalue : s.value = ValueStack.current _ :=
    (congrArg History.value hhistory).trans (History.value_ofStack _)
  exact ⟨equation s, rfl, readEquation?_equation hne,
    sum_toInt_of_history (congrArg History.toList hhistory) hvalue⟩

/-- Both ends of the word, next to pluses and next to each other, in a history that no steps have
made. -/
theorem readSum?_of_word_ends :
    let s : Snapshot := ⟨"x", 7, [0, -9223372036854775808, 9223372036854775807, -1]⟩
    s.history ≠ [] ∧
      s.sumText = "0 + -9223372036854775808 + 9223372036854775807 + -1" ∧
      Snapshot.readSum? s.sumText = some [0, -9223372036854775808, 9223372036854775807, -1] := by
  intro s
  have hne : s.history ≠ [] := List.cons_ne_nil _ _
  exact ⟨hne, by decide +kernel, sumText_faithful_and_equation_true.2.1 s hne⟩

end Summary

end Backstep
