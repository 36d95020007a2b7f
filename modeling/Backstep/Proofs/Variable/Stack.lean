import Backstep.Operation
import Backstep.Proofs.History.Stack
import Mathlib.Logic.Function.Iterate

/-!
# Variables and stacks of whole values

A variable could keep every value that was assigned to it and be done. The plain machine below does
that, and this file says that a variable cannot be told from it: every operation answers the same,
and every observer shows the same, after any run of operations. The relation between the two is an
equation, the history of the variable is that of the stack, and each operation keeps it.
-/

namespace Backstep

/-! ## The plain machine -/

namespace ValueStack

/-- What the plain machine answers, refusing in the name of a variable. -/
def answer (name : String) (s : ValueStack) : Operation → Answer
  | .assign _ => .done
  | .unassign => if s.isEmpty then .refused ⟨name⟩ else .done
  | .rewind => .undone s.length
  | .get => .value s.current

/-- The stack after an operation. There is nothing to drop from an empty one. -/
def next (s : ValueStack) : Operation → ValueStack
  | .assign v => v :: s
  | .unassign => s.tail
  | .rewind => []
  | .get => s

def answers (name : String) (s : ValueStack) : List Operation → List Answer
  | [] => []
  | o :: rest => s.answer name o :: answers name (s.next o) rest

def after (s : ValueStack) (os : List Operation) : ValueStack := os.foldl next s

@[simp] theorem after_cons (s : ValueStack) (o : Operation) (os : List Operation) :
    s.after (o :: os) = (s.next o).after os := rfl

end ValueStack

namespace Variable

open History (ofStack)

variable {σ : Type} [Sink σ]

/-- One turn of the loop that undoes. It is never refused, because it asks first. -/
theorem unassignUpTo_succ (n : Nat) (x : Variable σ) :
    unassignUpTo (n + 1) x =
      if x.canUndo then
        ((unassignUpTo n x.unassign.2).1 + 1, (unassignUpTo n x.unassign.2).2)
      else (0, x) := by
  rw [unassignUpTo]
  by_cases hc : x.canUndo = true
  · have hok : x.unassign.1 = .ok () := by rw [fst_unassign, if_pos hc]
    rw [if_pos hc, if_pos hc]
    generalize x.unassign = r at hok
    obtain ⟨outcome, y⟩ := r
    cases hok
    rfl
  · rw [if_neg hc, if_neg hc]

/-- What one turn of the loop keeps, the loop keeps. -/
theorem unassignUpTo_induction {P : Variable σ → Prop} (hstep : ∀ y, P y → P y.unassign.2)
    (n : Nat) {x : Variable σ} (hx : P x) : P (unassignUpTo n x).2 := by
  induction n generalizing x with
  | zero => exact hx
  | succ n ih =>
    rw [unassignUpTo_succ]
    split
    · exact ih (hstep x hx)
    · exact hx

@[simp] theorem name_unassignUpTo (n : Nat) (x : Variable σ) :
    (unassignUpTo n x).2.name = x.name :=
  unassignUpTo_induction (P := fun y => y.name = x.name) (fun y hy => (name_unassign y).trans hy) n
    rfl

@[simp] theorem name_rewind (x : Variable σ) : x.rewind.2.name = x.name := name_unassignUpTo _ x

@[simp] theorem name_perform (x : Variable σ) (o : Operation) : (x.perform o).2.name = x.name := by
  cases o with
  | assign v => exact name_assign x v
  | unassign =>
    have h := name_unassign x
    rw [perform]
    split <;> simp_all
  | rewind => exact name_rewind x
  | get => exact name_get x

theorem depth_assign (x : Variable σ) (v : Int32) : (x.assign v).depth = x.depth + 1 := by
  rw [depth, history_assign, History.depth_push, depth]

theorem depth_unassign_le (x : Variable σ) : x.unassign.2.depth ≤ x.depth := by
  rw [depth, history_unassign, depth]
  cases h : x.history.pop? with
  | none => exact Nat.le_refl _
  | some r =>
    have hpop := History.depth_of_pop? x.history h
    rw [Option.map_some, Option.getD_some]
    omega

/-! ## Operations on a variable that holds a stack -/

section Holds

variable {x : Variable σ} {s : ValueStack} (hx : x.history = ofStack s)
include hx

omit [Sink σ] in
theorem canUndo_of_history : x.canUndo ↔ s ≠ [] := by
  rw [canUndo, hx]
  exact History.canUndo_ofStack s

theorem fst_unassign_of_history :
    x.unassign.1 = if s.isEmpty then .error ⟨x.name⟩ else .ok () := by
  rw [fst_unassign]
  have h := canUndo_of_history hx
  cases s <;> simp_all

theorem history_unassign_of_history : x.unassign.2.history = ofStack s.tail := by
  rw [history_unassign, hx]
  cases s with
  | nil => rfl
  | cons v s => rw [History.pop?_ofStack_cons]; rfl

theorem history_assign_of_history (v : Int32) : (x.assign v).history = ofStack (v :: s) := by
  rw [history_assign, hx, History.ofStack_cons]

end Holds

/-- Assigning values in order puts them on the stack in that order. -/
theorem history_foldl_assign {x : Variable σ} {s : ValueStack}
    (hx : x.history = ofStack s) (vs : List Int32) :
    (vs.foldl assign x).history = ofStack (vs.reverse ++ s) := by
  induction vs generalizing x s with
  | nil => exact hx
  | cons v vs ih =>
    rw [List.foldl_cons, ih (history_assign_of_history hx v), List.reverse_cons, List.append_assoc]
    rfl

@[simp] theorem name_foldl_assign (x : Variable σ) (vs : List Int32) :
    (vs.foldl assign x).name = x.name := by
  induction vs generalizing x with
  | nil => rfl
  | cons v vs ih => rw [List.foldl_cons, ih, name_assign]

/-- With an empty stack nothing is undone, however often. -/
theorem unassignUpTo_of_history_nil {x : Variable σ} (hx : x.history = ofStack []) (n : Nat) :
    unassignUpTo n x = (0, x) := by
  cases n with
  | zero => rfl
  | succ n =>
    have hc : ¬ x.canUndo = true := by rw [canUndo_of_history hx]; simp
    rw [unassignUpTo_succ, if_neg hc]

theorem unassignUpTo_of_history_cons {x : Variable σ} {v : Int32} {s : ValueStack}
    (hx : x.history = ofStack (v :: s)) (n : Nat) :
    unassignUpTo (n + 1) x =
      ((unassignUpTo n x.unassign.2).1 + 1, (unassignUpTo n x.unassign.2).2) := by
  have hc : x.canUndo = true := (canUndo_of_history hx).2 (List.cons_ne_nil v s)
  rw [unassignUpTo_succ, if_pos hc]

/-- Undoing at most `n` times drops the latest `n` values, or all. -/
theorem unassignUpTo_of_history (n : Nat) {x : Variable σ} {s : ValueStack}
    (hx : x.history = ofStack s) :
    (unassignUpTo n x).1 = min n s.length ∧
      (unassignUpTo n x).2.history = ofStack (s.drop n) := by
  induction s generalizing n x with
  | nil =>
    rw [unassignUpTo_of_history_nil hx, List.drop_nil]
    exact ⟨(Nat.min_zero n).symm, hx⟩
  | cons v s ih =>
    cases n with
    | zero => exact ⟨(Nat.zero_min _).symm, hx⟩
    | succ n =>
      obtain ⟨hcount, hhist⟩ := ih n (history_unassign_of_history hx)
      rw [unassignUpTo_of_history_cons hx]
      refine ⟨?_, hhist⟩
      rw [hcount, List.length_cons]
      omega

/-- Rewinding empties the stack and counts what was on it. -/
theorem rewind_of_history {x : Variable σ} {s : ValueStack} (hx : x.history = ofStack s) :
    x.rewind.1 = s.length ∧ x.rewind.2.history = ofStack [] := by
  have hd : x.depth = s.length + 1 := by rw [depth, hx, History.depth_ofStack]
  obtain ⟨hcount, hhist⟩ := unassignUpTo_of_history x.depth hx
  refine ⟨?_, ?_⟩
  · rw [rewind, hcount]
    omega
  · rw [rewind, hhist, List.drop_eq_nil_of_le (by omega)]

/-- Rewinding is unassigning as many times as there are values on the stack. -/
theorem snd_rewind_of_history {x : Variable σ} {s : ValueStack} (hx : x.history = ofStack s) :
    x.rewind.2 = (fun y => y.unassign.2)^[s.length] x := by
  have hd : x.depth = s.length + 1 := by rw [depth, hx, History.depth_ofStack]
  rw [rewind, hd]
  clear hd
  induction s generalizing x with
  | nil => rw [unassignUpTo_of_history_nil hx, List.length_nil, Function.iterate_zero_apply]
  | cons v s ih =>
    rw [List.length_cons, unassignUpTo_of_history_cons hx, Function.iterate_succ_apply]
    exact ih (history_unassign_of_history hx)

/-- **One operation.** It answers as the plain machine does and leaves the history of the stack
that the plain machine leaves. -/
theorem perform_of_history {x : Variable σ} {s : ValueStack} (hx : x.history = ofStack s)
    (o : Operation) :
    (x.perform o).1 = s.answer x.name o ∧ (x.perform o).2.history = ofStack (s.next o) := by
  cases o with
  | assign v => exact ⟨rfl, history_assign_of_history hx v⟩
  | unassign =>
    have hfst := fst_unassign_of_history hx
    have hhist := history_unassign_of_history hx
    rw [perform, ValueStack.answer, ValueStack.next]
    generalize x.unassign = r at hfst hhist
    obtain ⟨outcome, y⟩ := r
    cases s <;> cases hfst <;> exact ⟨rfl, hhist⟩
  | rewind =>
    obtain ⟨hcount, hhist⟩ := rewind_of_history hx
    exact ⟨congrArg Answer.undone hcount, hhist⟩
  | get =>
    refine ⟨?_, ?_⟩
    · change Answer.value x.history.value = .value s.current
      rw [hx, History.value_ofStack]
    · change x.get.2.history = ofStack s
      rw [history_get, hx]

theorem performAll_of_history {x : Variable σ} {s : ValueStack} (hx : x.history = ofStack s)
    (os : List Operation) :
    (x.performAll os).1 = s.answers x.name os ∧
      (x.performAll os).2.history = ofStack (s.after os) ∧
      (x.performAll os).2.name = x.name := by
  induction os generalizing x s with
  | nil => exact ⟨rfl, hx, rfl⟩
  | cons o os ih =>
    obtain ⟨hanswer, hhist⟩ := perform_of_history hx o
    obtain ⟨hanswers, hafter, hname⟩ := ih hhist
    rw [name_perform] at hanswers hname
    refine ⟨?_, hafter, hname⟩
    rw [ValueStack.answers, ← hanswer, ← hanswers]
    rfl

/-! ## What a variable shows -/

/-- All that a variable shows to its callers is what a stack of values says. -/
structure Mirrors (x : Variable σ) (s : ValueStack) : Prop where
  value_eq : x.history.value = s.current
  get_eq : x.get.1 = s.current
  depth_eq : x.depth = s.length + 1
  history_depth_eq : x.history.depth = s.length + 1
  canUndo_iff : x.canUndo ↔ s ≠ []
  history_canUndo_iff : x.history.canUndo ↔ s ≠ []
  peek?_eq : x.history.peek? = s.below?
  top_eq : x.history.top.toInt = s.differences.getLast?.getD 0
  toList_eq : x.history.toList.map Int64.toInt = 0 :: s.differences
  sum_eq : x.history.sum.toInt = s.current.toInt
  heldValues_eq : x.snapshot.heldValues = 0 :: s.reverse.map Int32.toInt64
  /-- A variable is rewound by as many steps as the stack has values. -/
  rewind_eq : x.rewind.1 = s.length
  /-- The only refusal is on the empty stack, in the name of the variable. -/
  unassign_eq : x.unassign.1 = if s.isEmpty then .error ⟨x.name⟩ else .ok ()
  /-- A refusal changes neither value nor history. -/
  refused_unassign : ∀ cause, x.unassign.1 = .error cause → x.unassign.2.history = x.history

theorem mirrors_of_history {x : Variable σ} {s : ValueStack} (hx : x.history = ofStack s) :
    Mirrors x s where
  value_eq := by rw [hx, History.value_ofStack]
  get_eq := by rw [fst_get, hx, History.value_ofStack]
  depth_eq := by rw [depth, hx, History.depth_ofStack]
  history_depth_eq := by rw [hx, History.depth_ofStack]
  canUndo_iff := canUndo_of_history hx
  history_canUndo_iff := canUndo_of_history hx
  peek?_eq := by rw [hx, History.peek?_ofStack]
  top_eq := by rw [hx, History.top_ofStack]
  toList_eq := by rw [hx, History.toInt_toList_ofStack]
  sum_eq := by rw [hx, History.sum_ofStack, Int32.toInt_toInt64]
  heldValues_eq := by
    change Snapshot.partialSums 0 x.history.toList = _
    rw [hx, History.partialSums_toList_ofStack]
  rewind_eq := (rewind_of_history hx).1
  unassign_eq := fst_unassign_of_history hx
  refused_unassign := by
    intro cause hcause
    have hfst := fst_unassign_of_history hx
    have hhist := history_unassign_of_history hx
    cases s with
    | nil => rw [hhist, hx, List.tail_nil]
    | cons v s =>
      rw [hcause] at hfst
      cases hfst

/-- **A variable is a stack of whole values to its callers.** After any run of operations from its
construction it has answered as the plain machine has, and mirrors the stack of the plain machine.
A part of a run from the start is a run, so this holds after every one. -/
theorem performAll_create_mirrors (name : String) (traced : Bool) (sink : σ)
    (os : List Operation) :
    ((create name traced sink).performAll os).1 = ValueStack.answers name [] os ∧
      Mirrors ((create name traced sink).performAll os).2 (ValueStack.after [] os) ∧
      ((create name traced sink).performAll os).2.name = name := by
  have hx : (create name traced sink).history = ofStack [] := history_create name traced sink
  obtain ⟨hanswers, hafter, hname⟩ := performAll_of_history hx os
  rw [name_create] at hanswers hname
  exact ⟨hanswers, mirrors_of_history hafter, hname⟩

end Variable

end Backstep
