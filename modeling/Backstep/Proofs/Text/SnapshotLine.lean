import Backstep.Proofs.Text.Reading
import Backstep.Variable

/-!
# Reading inspection lines

The inspection line of a snapshot can be read back, whatever the name in it and whatever the changes
are, also those that no run could have recorded. The changes are what follows the last bracket that
opens; each of them ends with a blank, the last one too, so a list without changes is told from a
list with one. So no two snapshots have the same line, and two variables have the same line only
when nothing that can be observed tells them apart.
-/

namespace Backstep

namespace Snapshot

open Text (cutLast? readNamed?)

/-- The changes of a text in which a blank ends each of them. -/
def readChanges? (text : List Char) : Option (List Int64) :=
  (text.splitOn ' ').dropLast.mapM fun piece => Decimal.readInt64? (String.ofList piece)

def ofLine? (line : String) : Option Snapshot := do
  let text ← line.toList.dropSuffix? "]".toList
  let (text, changes) ← cutLast? '[' text
  let (name, value) ← readNamed? (← text.dropSuffix? "\t ".toList)
  return ⟨name, value, ← readChanges? changes⟩

/-! ## The changes -/

/-- The changes as they stand in an inspection line. -/
def changesText (history : List Int64) : List Char :=
  history.flatMap fun delta => (Decimal.ofInt delta.toInt).toList ++ [' ']

theorem notMem_changesText {mark : Char} (hdigit : mark.isDigit = false) (hminus : mark ≠ '-')
    (hblank : mark ≠ ' ') (history : List Int64) : mark ∉ changesText history := by
  intro h
  obtain ⟨delta, -, h⟩ := List.mem_flatMap.1 h
  rw [List.mem_append, List.mem_singleton] at h
  rcases h with h | h
  · exact Decimal.notMem_ofInt hdigit hminus delta.toInt h
  · exact hblank h

theorem splitOn_changesText (history : List Int64) :
    (changesText history).splitOn ' ' =
      (history.map fun delta => (Decimal.ofInt delta.toInt).toList) ++ [[]] := by
  induction history with
  | nil => rfl
  | cons delta history ih =>
    have hnumeral : ' ' ∉ (Decimal.ofInt delta.toInt).toList :=
      Decimal.notMem_ofInt (by decide) (by decide) delta.toInt
    have htext : changesText (delta :: history) =
        (Decimal.ofInt delta.toInt).toList ++ ' ' :: changesText history := by
      simp [changesText]
    rw [htext, List.splitOn_append_cons_self_of_not_mem hnumeral, ih, List.map_cons,
      List.cons_append]

theorem readChanges?_changesText (history : List Int64) :
    readChanges? (changesText history) = some history := by
  rw [readChanges?, splitOn_changesText, List.dropLast_concat]
  refine Text.mapM_map_of_forall ?_ history
  intro delta
  rw [String.ofList_toList, Decimal.readInt64?_ofInt]

/-! ## The line -/

theorem toList_line (s : Snapshot) :
    s.line.toList = (s.name ++ ": " ++ Decimal.ofInt s.value.toInt).toList ++ "\t ".toList
      ++ '[' :: changesText s.history ++ "]".toList := by
  simp [line, changesText, String.toList_join, List.flatMap, Function.comp_def]

/-- Reading undoes writing, whatever name, value and changes are. -/
theorem ofLine?_line (s : Snapshot) : ofLine? s.line = some s := by
  have hbracket : '[' ∉ changesText s.history :=
    notMem_changesText (by decide) (by decide) (by decide) s.history
  rw [ofLine?, toList_line]
  simp only [Text.dropSuffix?_append, Text.cutLast?_append_cons hbracket, Text.readNamed?_toList,
    readChanges?_changesText, Option.bind_eq_bind, Option.bind_some]
  rfl

/-- Different snapshots have different lines. -/
theorem line_injective {s t : Snapshot} (h : s.line = t.line) : s = t := by
  have hread := congrArg ofLine? h
  rw [ofLine?_line, ofLine?_line] at hread
  exact Option.some.inj hread

/-- **No two snapshots have the same line**, and the line of a snapshot can be read back. So two
variables have the same line exactly when they have the same name, value and changes, which is all
that their histories are. -/
theorem line_eq_line_iff_parts :
    (∀ s t : Snapshot,
      s.line = t.line ↔ s.name = t.name ∧ s.value = t.value ∧ s.history = t.history) ∧
    (∀ s : Snapshot, ofLine? s.line = some s) ∧
    ∀ (σ τ : Type) (x : Variable σ) (y : Variable τ),
      x.line = y.line ↔ x.name = y.name ∧ x.history = y.history := by
  refine ⟨?_, ofLine?_line, ?_⟩
  · intro s t
    constructor
    · intro h
      rw [line_injective h]
      exact ⟨rfl, rfl, rfl⟩
    · rintro ⟨hname, hvalue, hhistory⟩
      rw [line, line, hname, hvalue, hhistory]
  · intro σ τ x y
    constructor
    · intro h
      have hsnapshot : x.snapshot = y.snapshot := line_injective h
      rw [Variable.snapshot, Variable.snapshot, Snapshot.mk.injEq] at hsnapshot
      obtain ⟨hname, hvalue, hlist⟩ := hsnapshot
      exact ⟨hname, History.eq_of_toList_eq hvalue hlist⟩
    · rintro ⟨hname, hhistory⟩
      rw [Variable.line, Variable.line, Variable.snapshot, Variable.snapshot, hname, hhistory]

end Snapshot

end Backstep
