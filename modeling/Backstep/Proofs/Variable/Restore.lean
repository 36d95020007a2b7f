import Backstep.Proofs.Variable.Stack

/-!
# Snapshots that can be restored

A snapshot keeps the changes of a variable, and from these the values that it held can be read off.
Rewinding loses nothing that a snapshot does not keep: assigning the held values again, in order,
leads the rewound variable back to the snapshot, and any new variable of its name to it as well.

Rewinding is written as a loop with a bound on its turns. The bound is never what ends it: without
one the loop ends as well, and in the same place.
-/

namespace Backstep

open History (ofStack)

/-- The values that were assigned on the way to a snapshot: all that it says were held, but for the
one of the construction. -/
def Snapshot.assigned (s : Snapshot) : List Int32 := s.heldValues.tail.map Int64.toInt32

namespace Variable

variable {σ : Type}

/-! ## The values that were held -/

section Held

variable {x : Variable σ} {stack : ValueStack}

theorem heldValues_of_history (h : x.history = ofStack stack) :
    x.snapshot.heldValues = 0 :: stack.reverse.map Int32.toInt64 := by
  rw [Snapshot.heldValues, snapshot, h, History.partialSums_toList_ofStack]

/-- What was assigned is what is on the stack. -/
theorem assigned_of_history (h : x.history = ofStack stack) :
    x.snapshot.assigned = stack.reverse := by
  have hback : Int64.toInt32 ∘ Int32.toInt64 = id := funext fun v => Int32.toInt32_toInt64 v
  rw [Snapshot.assigned, heldValues_of_history h, List.tail_cons, List.map_map, hback, List.map_id]

/-- The values that a snapshot says were assigned lead every variable of its name with nothing on
its stack to the snapshot. -/
theorem snapshot_foldl_assigned {τ : Type} [Sink τ] (h : x.history = ofStack stack)
    {y : Variable τ} (hname : y.name = x.name) (hempty : y.history = ofStack []) :
    (x.snapshot.assigned.foldl assign y).snapshot = x.snapshot := by
  have hhistory : (x.snapshot.assigned.foldl assign y).history = x.history := by
    rw [history_foldl_assign hempty, assigned_of_history h, List.reverse_reverse,
      List.append_nil, h]
  rw [snapshot, hhistory, name_foldl_assign, hname, snapshot]

end Held

variable [Sink σ]

/-! ## The loop that undoes -/

/-- The loop that undoes one assignment after another for as long as there is one and it is not
refused, without a bound on its turns: from the first variable it ends at the second one, with so
many assignments undone. -/
inductive Unwinds : Variable σ → Nat → Variable σ → Prop
  | ended {x : Variable σ} (hundo : x.canUndo = false) : Unwinds x 0 x
  | refused {x y : Variable σ} {cause : Underflow} (hundo : x.canUndo = true)
      (hstep : x.unassign = (.error cause, y)) : Unwinds x 0 y
  | turn {x y z : Variable σ} {n : Nat} (hundo : x.canUndo = true)
      (hstep : x.unassign = (.ok (), y)) (hrest : Unwinds y n z) : Unwinds x (n + 1) z

/-- Undoing shortens the history by one change. -/
theorem depth_unassign_of_canUndo {x : Variable σ} (h : x.canUndo = true) :
    x.unassign.2.depth + 1 = x.depth := by
  have hsome : x.history.pop?.isSome = true := x.history.isSome_pop?.trans h
  obtain ⟨⟨step, older⟩, hpop⟩ := Option.isSome_iff_exists.1 hsome
  rw [depth, history_unassign, hpop]
  exact (x.history.depth_of_pop? hpop).symm

/-- As many turns as there are changes to undo are enough for the loop to end. -/
theorem unwinds_unassignUpTo {n : Nat} {x : Variable σ} (h : x.depth ≤ n + 1) :
    Unwinds x (unassignUpTo n x).1 (unassignUpTo n x).2 := by
  induction n generalizing x with
  | zero =>
    refine .ended (Bool.eq_false_iff.2 fun hundo => ?_)
    have hdepth : 1 < x.depth := x.history.canUndo_iff.1 hundo
    omega
  | succ n ih =>
    rw [unassignUpTo_succ]
    by_cases hundo : x.canUndo = true
    · have hok : x.unassign = (.ok (), x.unassign.2) := by
        refine Prod.ext ?_ rfl
        rw [fst_unassign, if_pos hundo]
      have hdepth := depth_unassign_of_canUndo hundo
      rw [if_pos hundo]
      exact .turn hundo hok (ih (by omega))
    · rw [if_neg hundo]
      exact .ended (Bool.eq_false_iff.2 hundo)

/-- **Rewinding terminates**, on every variable. -/
theorem unwinds_rewind (x : Variable σ) : Unwinds x x.rewind.1 x.rewind.2 :=
  unwinds_unassignUpTo (Nat.le_succ x.depth)

/-! ## Back to a snapshot -/

/-- The variable can be rewound, and led back to the snapshot by the values that the snapshot says
were assigned. -/
structure Restorable (x : Variable σ) (s : Snapshot) : Prop where
  isValue_held : ∀ held ∈ s.heldValues, IsValue held.toInt
  head?_held : s.heldValues.head? = some 0
  length_held : s.heldValues.length = s.depth
  getLast?_held : s.heldValues.getLast?.map Int64.toInt = some s.value.toInt
  /-- As values the held ones are still the same numbers. -/
  assigned_eq : s.assigned.map Int32.toInt64 = s.heldValues.tail
  /-- Without a bound on its turns rewinding ends as well. -/
  unwinds : Unwinds x x.rewind.1 x.rewind.2
  undone_eq : x.rewind.1 = s.depth - 1
  /-- What is left is the value and the history of the construction. -/
  snapshot_rewind : x.rewind.2.snapshot = ⟨s.name, 0, [sentinel]⟩
  /-- Rewinding once more changes nothing at all, not even the sink. -/
  rewind_rewind : x.rewind.2.rewind = (0, x.rewind.2)
  snapshot_again : (s.assigned.foldl assign x.rewind.2).snapshot = s
  snapshot_create : ∀ (τ : Type) [Sink τ] (traced : Bool) (sink : τ),
    (s.assigned.foldl assign (create s.name traced sink)).snapshot = s

theorem restorable_of_history {x : Variable σ} {stack : ValueStack}
    (h : x.history = ofStack stack) : Restorable x x.snapshot := by
  have hheld := heldValues_of_history h
  have hdepth : x.snapshot.depth = stack.length + 1 := by
    rw [← Snapshot.length_heldValues, hheld, List.length_cons, List.length_map, List.length_reverse]
  obtain ⟨hundone, hrewound⟩ := rewind_of_history h
  refine ⟨?_, ?_, Snapshot.length_heldValues _, ?_, ?_, unwinds_rewind x, ?_, ?_, ?_, ?_, ?_⟩
  · intro held hmem
    rw [hheld, List.mem_cons, List.mem_map] at hmem
    obtain rfl | ⟨v, -, rfl⟩ := hmem
    · decide
    · rw [Int32.toInt_toInt64]
      exact isValue_toInt v
  · rw [hheld, List.head?_cons]
  · have hvalue : x.snapshot.value = stack.current := by
      rw [snapshot, h, History.value_ofStack]
    rw [hheld, hvalue]
    cases stack with
    | nil => rfl
    | cons v earlier =>
      rw [List.reverse_cons, List.map_append, List.map_singleton, ← List.cons_append,
        List.getLast?_concat, Option.map_some, Int32.toInt_toInt64, ValueStack.current_cons]
  · rw [assigned_of_history h, hheld, List.tail_cons]
  · rw [hundone, hdepth, Nat.add_sub_cancel]
  · rw [snapshot, hrewound, name_rewind]
    rfl
  · exact unassignUpTo_of_history_nil hrewound _
  · exact snapshot_foldl_assigned h (name_rewind x) hrewound
  · intro τ _ traced sink
    exact snapshot_foldl_assigned h (name_create _ traced sink) (history_create _ traced sink)

/-- **A snapshot is enough to restore a variable.** After any run of operations the values that the
snapshot of a variable says were held are values, from `0` to the one in force, and lead the
rewound variable back to the snapshot, as they lead any new variable of its name to it. -/
theorem restorable_performAll (name : String) (traced : Bool) (sink : σ) (os : List Operation) :
    let x := ((create name traced sink).performAll os).2
    Restorable x x.snapshot := by
  have hnew : (create name traced sink).history = ofStack [] := history_create name traced sink
  exact restorable_of_history (performAll_of_history hnew os).2.1

end Variable

end Backstep
