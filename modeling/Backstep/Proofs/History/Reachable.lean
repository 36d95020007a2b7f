import Backstep.Proofs.History.Stack

/-!
# Histories that steps can reach

Not every value with a list of changes comes from pushing and popping. The ones that do are those
whose changes start with the sentinel, add up to the value, and never add up to anything outside
the range of values on the way. The sum alone would not do: popping goes back through every partial
sum, and each must be a value that was held. From the same invariant it follows that no operation
on such a history wraps.
-/

namespace Backstep

namespace ValueStack

/-- Every sum of the first differences is a value: the one that was in force then. -/
theorem isValue_sum_take_differences (s : ValueStack) (n : Nat) :
    IsValue (s.differences.take n).sum := by
  induction s with
  | nil => simp [differences, IsValue]
  | cons v s ih =>
    by_cases hn : n ≤ (differences s).length
    · rw [differences, List.take_append_of_le_length hn]
      exact ih
    · have hall : (differences (v :: s)).length ≤ n := by
        rw [length_differences, List.length_cons]
        rw [length_differences] at hn
        omega
      rw [List.take_of_length_le hall, sum_differences]
      exact isValue_toInt v

end ValueStack

namespace History

/-- A history that pushes and pops have made from a new one. A refused pop makes nothing. -/
inductive Reachable : History → Prop
  | new : Reachable new
  | push {h : History} (v : Int32) : Reachable h → Reachable (h.push v).2
  | pop {h g : History} {t : Step} : Reachable h → h.pop? = some (t, g) → Reachable g

/-- Every reached history is that of a stack. -/
theorem Reachable.exists_ofStack {h : History} (hr : Reachable h) : ∃ s, h = ofStack s := by
  induction hr with
  | new => exact ⟨[], rfl⟩
  | push v _ ih =>
    obtain ⟨s, rfl⟩ := ih
    exact ⟨v :: s, rfl⟩
  | pop _ hp ih =>
    obtain ⟨s, rfl⟩ := ih
    cases s with
    | nil => simp at hp
    | cons v s =>
      rw [pop?_ofStack_cons, Option.some.injEq, Prod.mk.injEq] at hp
      exact ⟨s, hp.2.symm⟩

/-! ## Sums of changes -/

/-- The sum of changes as integers, where nothing can wrap. -/
def total (deltas : List Int64) : Int := (deltas.map Int64.toInt).sum

/-- Every sum of the first changes is in the range of values. -/
def InRange (deltas : List Int64) : Prop := ∀ n, IsValue (total (deltas.take n))

@[simp] theorem total_nil : total [] = 0 := rfl

@[simp] theorem total_cons (delta : Int64) (deltas : List Int64) :
    total (delta :: deltas) = delta.toInt + total deltas := rfl

theorem total_toList_ofStack (s : ValueStack) : total (ofStack s).toList = s.current.toInt := by
  rw [total, toInt_toList_ofStack, List.sum_cons, ValueStack.sum_differences, Int.zero_add]

theorem inRange_ofStack (s : ValueStack) : InRange (ofStack s).toList := by
  intro n
  rw [total, List.map_take, toInt_toList_ofStack]
  cases n with
  | zero => simp [IsValue]
  | succ n =>
    rw [List.take_succ_cons, List.sum_cons, Int.zero_add]
    exact s.isValue_sum_take_differences n

/-- Adding up words gives the sum of the integers as long as every partial sum fits the word. -/
theorem toInt_foldl_add {a : Int64} {deltas : List Int64}
    (h : ∀ n, IsChange (a.toInt + total (deltas.take n))) :
    (deltas.foldl (· + ·) a).toInt = a.toInt + total deltas := by
  induction deltas generalizing a with
  | nil => simp
  | cons d deltas ih =>
    have hfirst : (a + d).toInt = a.toInt + d.toInt := by
      apply toInt_add_of_isChange
      simpa using h 1
    have hrest : ∀ n, IsChange ((a + d).toInt + total (deltas.take n)) := by
      intro n
      rw [hfirst, Int.add_assoc, ← total_cons, ← List.take_succ_cons]
      exact h (n + 1)
    rw [List.foldl_cons, ih hrest, hfirst, Int.add_assoc, total_cons]

theorem toInt_foldl_take {deltas : List Int64} (h : ∀ n, IsChange (total (deltas.take n)))
    (n : Nat) :
    ((deltas.take n).foldl (· + ·) 0).toInt = total (deltas.take n) := by
  have hsum := @toInt_foldl_add 0 (deltas.take n)
  rw [Int64.toInt_zero, Int.zero_add] at hsum
  apply hsum
  intro m
  rw [List.take_take, Int.zero_add]
  exact h (min m n)

/-! ## Which histories are reached -/

/-- Further changes that stay in range can be played from any reached history. -/
theorem Reachable.exists_extension {h : History} (hr : Reachable h) {deltas : List Int64}
    (hrange : ∀ n, IsValue (h.value.toInt + total (deltas.take n))) :
    ∃ g, Reachable g ∧ g.toList = h.toList ++ deltas ∧
      g.value.toInt = h.value.toInt + total deltas := by
  induction deltas generalizing h with
  | nil => exact ⟨h, hr, by simp, by simp⟩
  | cons d deltas ih =>
    obtain ⟨v, hv⟩ : ∃ v : Int32, v.toInt = h.value.toInt + d.toInt := by
      apply exists_toInt_eq
      simpa using hrange 1
    have hd : v.toInt64 - h.value.toInt64 = d := by
      apply Int64.toInt.inj
      rw [toInt_sub_toInt64, hv]
      omega
    have hrest : ∀ n, IsValue ((h.push v).2.value.toInt + total (deltas.take n)) := by
      intro n
      rw [value_push, hv, Int.add_assoc, ← total_cons, ← List.take_succ_cons]
      exact hrange (n + 1)
    obtain ⟨g, hg, hlist, hvalue⟩ := ih (hr.push v) hrest
    refine ⟨g, hg, ?_, ?_⟩
    · rw [hlist, toList_push, hd, List.append_assoc, List.singleton_append]
    · rw [hvalue, value_push, hv, Int.add_assoc, total_cons]

/-- No computation on the history leaves its word. -/
structure Exact (h : History) : Prop where
  /-- No change is larger than the distance between two values. -/
  natAbs_delta_le : ∀ delta ∈ h.toList, delta.toInt.natAbs ≤ 2 ^ 32 - 1
  /-- A push records the difference of the integers. -/
  delta_push : ∀ v, (h.push v).1.delta.toInt = v.toInt - h.value.toInt
  /-- A pop subtracts as integers do, and narrowing keeps the difference. -/
  value_pop : ∀ t g, h.pop? = some (t, g) →
    g.value.toInt = (h.value.toInt64 - t.delta).toInt ∧
      (h.value.toInt64 - t.delta).toInt = h.value.toInt - t.delta.toInt
  /-- So does a look at what a pop would restore. -/
  value_peek : ∀ v, h.peek? = some v →
    v.toInt = (h.value.toInt64 - h.top).toInt ∧
      (h.value.toInt64 - h.top).toInt = h.value.toInt - h.top.toInt
  /-- Adding the changes up goes through the sums of the integers, all of them in range. -/
  partial_sum : ∀ n, ((h.toList.take n).foldl (· + ·) 0).toInt = total (h.toList.take n) ∧
    IsValue (total (h.toList.take n))
  sum_eq : h.sum = h.toList.foldl (· + ·) 0
  /-- The values held on the way are those sums. -/
  held_value : ∀ (name : String) (n : Nat) (r : Int64),
    (Snapshot.mk name h.value h.toList).heldValues[n]? = some r →
      r.toInt = total (h.toList.take (n + 1)) ∧ IsValue r.toInt

/-- The values held on the way are the partial sums, added up one by one. -/
theorem eq_foldl_of_partialSums {before r : Int64} {deltas : List Int64} {n : Nat}
    (h : (Snapshot.partialSums before deltas)[n]? = some r) :
    r = (deltas.take (n + 1)).foldl (· + ·) before := by
  induction deltas generalizing before n with
  | nil => simp [Snapshot.partialSums] at h
  | cons d deltas ih =>
    cases n with
    | zero => simpa [Snapshot.partialSums] using h.symm
    | succ n => exact ih h

/-- What a pop and a look back subtract to, whatever values the last two are. -/
theorem toInt_sub_top_ofStack (v : Int32) (s : ValueStack) :
    ((ofStack (v :: s)).value.toInt64 - (ofStack (v :: s)).top).toInt = s.current.toInt ∧
      s.current.toInt = (ofStack (v :: s)).value.toInt - (ofStack (v :: s)).top.toInt := by
  have htop : (ofStack (v :: s)).top = v.toInt64 - s.current.toInt64 := by
    rw [ofStack_cons, top_push, value_ofStack]
  have hvalue : (ofStack (v :: s)).value = v := value_push _ v
  rw [htop, hvalue, sub_sub_toInt64, toInt_sub_toInt64, Int32.toInt_toInt64]
  exact ⟨rfl, by omega⟩

theorem natAbs_toInt_le_of_mem_toList {s : ValueStack} {delta : Int64}
    (h : delta ∈ (ofStack s).toList) : delta.toInt.natAbs ≤ 2 ^ 32 - 1 := by
  induction s with
  | nil =>
    rw [ofStack_nil, toList_new, List.mem_singleton] at h
    rw [h]
    decide
  | cons v s ih =>
    rw [ofStack_cons, toList_push, List.mem_append, List.mem_singleton] at h
    rcases h with h | h
    · exact ih h
    · obtain ⟨hv, hv'⟩ := isValue_toInt v
      obtain ⟨hw, hw'⟩ := isValue_toInt (ofStack s).value
      rw [h, toInt_sub_toInt64]
      omega

/-- A reached history is exact: all that its operations compute are differences of values that
were held. -/
theorem Reachable.exact {h : History} (hr : Reachable h) : Exact h := by
  obtain ⟨s, rfl⟩ := hr.exists_ofStack
  have hrange := inRange_ofStack s
  have hfits : ∀ n, IsChange (total ((ofStack s).toList.take n)) := fun n => (hrange n).isChange
  refine ⟨?_, ?_, ?_, ?_, ?_, sum_eq_foldl _, ?_⟩
  · intro delta hmem
    exact natAbs_toInt_le_of_mem_toList hmem
  · intro v
    exact toInt_sub_toInt64 v _
  · intro t g hp
    cases s with
    | nil => simp at hp
    | cons v s =>
      have htop : t.delta = (ofStack (v :: s)).top := by
        rw [pop?_ofStack_cons, Option.some.injEq, Prod.mk.injEq] at hp
        rw [← hp.1, ofStack_cons, top_push, value_ofStack]
      have hvalue : g.value = ValueStack.current s := by
        rw [pop?_ofStack_cons, Option.some.injEq, Prod.mk.injEq] at hp
        rw [← hp.2, value_ofStack]
      obtain ⟨hword, hint⟩ := toInt_sub_top_ofStack v s
      rw [htop, hvalue, hword]
      exact ⟨rfl, hint⟩
  · intro w hp
    cases s with
    | nil => cases hp
    | cons v s =>
      have hvalue : w = ValueStack.current s := by
        rw [peek?_ofStack, ValueStack.below?, Option.some.injEq] at hp
        exact hp.symm
      obtain ⟨hword, hint⟩ := toInt_sub_top_ofStack v s
      rw [hvalue, hword]
      exact ⟨rfl, hint⟩
  · intro n
    exact ⟨toInt_foldl_take hfits n, hrange n⟩
  · intro name n r hget
    have hr := eq_foldl_of_partialSums hget
    rw [hr, toInt_foldl_take hfits]
    exact ⟨rfl, hrange (n + 1)⟩

/-- **The reached histories.** Changes and a value are those of a reached history exactly when the
changes start with the sentinel, each of their partial sums is in the range of values, and the
value is their sum; and every reached history is exact. -/
theorem exists_reachable_iff_inRange :
    (∀ (deltas : List Int64) (value : Int32),
      (∃ h, Reachable h ∧ h.toList = deltas ∧ h.value = value) ↔
        deltas.head? = some sentinel ∧ InRange deltas ∧ value.toInt = total deltas) ∧
      ∀ h, Reachable h → Exact h := by
  refine ⟨?_, fun _ hr => hr.exact⟩
  intro deltas value
  constructor
  · rintro ⟨h, hr, rfl, rfl⟩
    obtain ⟨s, rfl⟩ := hr.exists_ofStack
    refine ⟨rfl, inRange_ofStack s, ?_⟩
    rw [total_toList_ofStack, value_ofStack]
  · rintro ⟨hhead, hrange, hvalue⟩
    cases deltas with
    | nil => simp at hhead
    | cons first rest =>
      -- A new history has the sentinel already, so only the rest is left to be played.
      rw [List.head?_cons, Option.some.injEq] at hhead
      have hsum : total (first :: rest) = new.value.toInt + total rest := by rw [hhead]; rfl
      have hrest : ∀ n, IsValue (new.value.toInt + total (rest.take n)) := by
        intro n
        have h := hrange (n + 1)
        rw [List.take_succ_cons, total_cons, hhead] at h
        exact h
      obtain ⟨g, hg, hlist, hg'⟩ := Reachable.new.exists_extension hrest
      refine ⟨g, hg, ?_, ?_⟩
      · rw [hlist, hhead, toList_new, List.singleton_append]
      · apply Int32.toInt.inj
        rw [hg', hvalue, hsum]

/-- The largest jump there is, between the two ends of the range. -/
theorem exact_push_minValue_push_maxValue :
    Reachable ((new.push Int32.minValue).2.push Int32.maxValue).2 ∧
      Exact ((new.push Int32.minValue).2.push Int32.maxValue).2 ∧
      InRange [0, -2147483648, 4294967295] := by
  have hr : Reachable ((new.push Int32.minValue).2.push Int32.maxValue).2 :=
    .push _ (.push _ .new)
  have hiff := exists_reachable_iff_inRange.1 [0, -2147483648, 4294967295] Int32.maxValue
  exact ⟨hr, exists_reachable_iff_inRange.2 _ hr, (hiff.1 ⟨_, hr, by decide, by decide⟩).2.1⟩

end History

end Backstep
