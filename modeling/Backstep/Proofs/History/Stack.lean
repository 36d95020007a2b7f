import Backstep.Proofs.Range
import Backstep.Snapshot

/-!
# Stacks of whole values

The plain way to step a value backwards is to keep every value that was assigned. A history keeps
differences instead, and this file says that nothing is lost by it: each stack of values has a
history, pushing and popping act on the two alike, and different stacks have different histories.
-/

namespace Backstep

/-- The values that were assigned and not undone, held whole, the latest first. -/
abbrev ValueStack := List Int32

namespace ValueStack

/-- The value in force: the latest one, or `0` before any assignment. -/
def current : ValueStack → Int32
  | [] => 0
  | v :: _ => v

/-- The value just below the latest one, if there is a latest one. -/
def below? : ValueStack → Option Int32
  | [] => none
  | _ :: earlier => some (current earlier)

/-- What each assignment changed, oldest first. -/
def differences : ValueStack → List Int
  | [] => []
  | v :: earlier => differences earlier ++ [v.toInt - (current earlier).toInt]

@[simp] theorem current_cons (v : Int32) (s : ValueStack) : current (v :: s) = v := rfl

@[simp] theorem length_differences (s : ValueStack) : s.differences.length = s.length := by
  induction s with
  | nil => rfl
  | cons v s ih => simp [differences, ih]

/-- The differences add up to the value in force. -/
theorem sum_differences (s : ValueStack) : s.differences.sum = s.current.toInt := by
  induction s with
  | nil => rfl
  | cons v s ih =>
    rw [differences, List.sum_append_int, ih, List.sum_singleton, current_cons]
    omega

end ValueStack

/-- One more change adds one more partial sum. -/
theorem Snapshot.partialSums_concat (before delta : Int64) (deltas : List Int64) :
    partialSums before (deltas ++ [delta]) =
      partialSums before deltas ++ [deltas.foldl (· + ·) before + delta] := by
  induction deltas generalizing before with
  | nil => rfl
  | cons d deltas ih => rw [List.cons_append, partialSums, ih]; rfl

namespace History

/-! ## Pushing and its inverse -/

section Push

variable (h : History) (v : Int32)

theorem top_push : (h.push v).2.top = v.toInt64 - h.value.toInt64 := rfl

@[simp] theorem peek?_push : (h.push v).2.peek? = some h.value :=
  congrArg some (toInt32_sub_sub_toInt64 v h.value)

/-- Popping undoes pushing, and reports the change together with what it restores. -/
@[simp] theorem pop?_push :
    (h.push v).2.pop? = some (⟨v.toInt64 - h.value.toInt64, h.value, h.depth⟩, h) := by
  simp only [push, pop?, toInt32_sub_sub_toInt64]

end Push

@[simp] theorem pop?_new : new.pop? = none := rfl

/-! ## The history of a stack -/

/-- The history of the values of a stack, pushed from the oldest to the latest. -/
def ofStack : ValueStack → History
  | [] => new
  | v :: earlier => ((ofStack earlier).push v).2

variable (s : ValueStack) (v : Int32)

@[simp] theorem ofStack_nil : ofStack [] = new := rfl

theorem ofStack_cons : ofStack (v :: s) = ((ofStack s).push v).2 := rfl

@[simp] theorem value_ofStack : (ofStack s).value = s.current := by
  cases s <;> rfl

@[simp] theorem depth_ofStack : (ofStack s).depth = s.length + 1 := by
  induction s with
  | nil => rfl
  | cons v s ih => rw [ofStack_cons, depth_push, ih, List.length_cons]

theorem canUndo_ofStack : (ofStack s).canUndo ↔ s ≠ [] := by
  rw [canUndo_iff, depth_ofStack]
  cases s <;> simp

theorem peek?_ofStack : (ofStack s).peek? = s.below? := by
  cases s with
  | nil => rfl
  | cons v s => rw [ofStack_cons, peek?_push, value_ofStack]; rfl

@[simp] theorem pop?_ofStack_cons : (ofStack (v :: s)).pop? =
    some (⟨v.toInt64 - s.current.toInt64, s.current, s.length + 1⟩, ofStack s) := by
  rw [ofStack_cons, pop?_push, value_ofStack, depth_ofStack]

/-- The recorded changes are the differences, after the sentinel. -/
theorem toInt_toList_ofStack : (ofStack s).toList.map Int64.toInt = 0 :: s.differences := by
  induction s with
  | nil => rfl
  | cons v s ih =>
    rw [ofStack_cons, toList_push, List.map_append, ih, List.map_singleton, value_ofStack,
      toInt_sub_toInt64, ValueStack.differences, List.cons_append]

theorem top_ofStack : (ofStack s).top.toInt = s.differences.getLast?.getD 0 := by
  cases s with
  | nil => rfl
  | cons v s =>
    rw [ofStack_cons, top_push, toInt_sub_toInt64, value_ofStack, ValueStack.differences,
      List.getLast?_concat, Option.getD_some]

theorem sum_eq_foldl (h : History) : h.sum = h.toList.foldl (· + ·) 0 := List.sum_eq_foldl

/-- The recorded changes add up to the value in force, in the wider word as well. -/
theorem sum_ofStack : (ofStack s).sum = s.current.toInt64 := by
  rw [sum_eq_foldl]
  induction s with
  | nil => rfl
  | cons v s ih =>
    rw [ofStack_cons, toList_push, List.foldl_append, ih, List.foldl_cons, List.foldl_nil,
      value_ofStack, Int64.add_comm, Int64.sub_add_cancel, ValueStack.current_cons]

/-- The values held on the way are those of the stack, after the `0` of the construction. -/
theorem partialSums_toList_ofStack :
    Snapshot.partialSums 0 (ofStack s).toList = 0 :: s.reverse.map Int32.toInt64 := by
  induction s with
  | nil => rfl
  | cons v s ih =>
    have hsum : (ofStack s).toList.foldl (· + ·) 0 = (ofStack s).value.toInt64 := by
      rw [← sum_eq_foldl, sum_ofStack, value_ofStack]
    rw [ofStack_cons, toList_push, Snapshot.partialSums_concat, ih, hsum, Int64.add_comm,
      Int64.sub_add_cancel, List.reverse_cons, List.map_append, List.map_singleton,
      List.cons_append]

/-- Different stacks have different histories: popping both must show the same values. -/
theorem ofStack_injective {s t : ValueStack} (h : ofStack s = ofStack t) : s = t := by
  induction s generalizing t with
  | nil =>
    have hd := congrArg depth h
    rw [depth_ofStack, depth_ofStack] at hd
    exact (List.length_eq_zero_iff.1 (by simpa using hd.symm)).symm
  | cons v s ih =>
    cases t with
    | nil =>
      have hd := congrArg depth h
      rw [depth_ofStack, depth_ofStack] at hd
      simp at hd
    | cons w t =>
      have hv := congrArg value h
      have hp := congrArg pop? h
      rw [value_ofStack, value_ofStack] at hv
      rw [pop?_ofStack_cons, pop?_ofStack_cons, Option.some.injEq, Prod.mk.injEq] at hp
      rw [ih hp.2, show v = w from hv]

end History

end Backstep
