import Backstep.Proofs.Variable.Stack

/-!
# What survives a run

Each unassignment cancels the latest assignment that is not cancelled yet, and a rewind cancels all
of them. What is left decides the history and is decided by it: two runs end in the same history
exactly when the same values survive them, whatever else they did on the way. So a stretch of
assignments and unassignments that pair up can be put into a run anywhere and leaves no mark.
-/

namespace Backstep

namespace Operation

/-! ## Cancelling -/

/-- What is left of the values assigned so far, after one more operation. -/
def cancel (left : List Int32) : Operation → List Int32
  | assign v => left ++ [v]
  | unassign => left.dropLast
  | rewind => []
  | get => left

/-- The values that are assigned in a run and not cancelled in it, oldest first. -/
def surviving (os : List Operation) : List Int32 := os.foldl cancel []

theorem reverse_next (s : ValueStack) (o : Operation) :
    (s.next o).reverse = cancel s.reverse o := by
  cases o with
  | assign v => exact List.reverse_cons
  | unassign => exact List.dropLast_reverse.symm
  | rewind => rfl
  | get => rfl

/-- The plain machine holds what survives, in the other order. -/
theorem reverse_after (s : ValueStack) (os : List Operation) :
    (s.after os).reverse = os.foldl cancel s.reverse := by
  induction os generalizing s with
  | nil => rfl
  | cons o os ih => rw [ValueStack.after_cons, ih, reverse_next, List.foldl_cons]

theorem surviving_eq (os : List Operation) : surviving os = (ValueStack.after [] os).reverse :=
  (reverse_after [] os).symm

/-! ## Balanced stretches -/

def isAssign : Operation → Bool
  | assign _ => true
  | _ => false

def isUnassign : Operation → Bool
  | unassign => true
  | _ => false

/-- The number of assignments in a stretch. -/
def assigns (ws : List Operation) : Nat := ws.countP isAssign

/-- The number of unassignments in a stretch. -/
def unassigns (ws : List Operation) : Nat := ws.countP isUnassign

theorem assigns_cons (o : Operation) (ws : List Operation) :
    assigns (o :: ws) = assigns ws + if o.isAssign then 1 else 0 := List.countP_cons

theorem unassigns_cons (o : Operation) (ws : List Operation) :
    unassigns (o :: ws) = unassigns ws + if o.isUnassign then 1 else 0 := List.countP_cons

@[simp] theorem assigns_assign_cons (v : Int32) (ws : List Operation) :
    assigns (assign v :: ws) = assigns ws + 1 := assigns_cons _ ws

@[simp] theorem assigns_unassign_cons (ws : List Operation) :
    assigns (unassign :: ws) = assigns ws := assigns_cons _ ws

@[simp] theorem unassigns_assign_cons (v : Int32) (ws : List Operation) :
    unassigns (assign v :: ws) = unassigns ws := unassigns_cons _ ws

@[simp] theorem unassigns_unassign_cons (ws : List Operation) :
    unassigns (unassign :: ws) = unassigns ws + 1 := unassigns_cons _ ws

/-- A stretch of assignments and unassignments, as many of one as of the other, in which no part
from the start has more unassignments. -/
structure Balanced (ws : List Operation) : Prop where
  pairs : ∀ o ∈ ws, o.isAssign ∨ o.isUnassign
  unassigns_take_le : ∀ n, unassigns (ws.take n) ≤ assigns (ws.take n)
  unassigns_eq : unassigns ws = assigns ws

end Operation

namespace ValueStack

open Operation

/-- A stretch that never goes below a base leaves the base as it was, and is never refused. The
values above the base grow by the assignments and shrink by the unassignments. -/
theorem exists_after_append (name : String) (recent base : ValueStack) {ws : List Operation}
    (hpairs : ∀ o ∈ ws, o.isAssign ∨ o.isUnassign)
    (habove : ∀ n, unassigns (ws.take n) ≤ assigns (ws.take n) + recent.length) :
    answers name (recent ++ base) ws = List.replicate ws.length .done ∧
      ∃ left, after (recent ++ base) ws = left ++ base ∧
        left.length + unassigns ws = recent.length + assigns ws := by
  induction ws generalizing recent with
  | nil => exact ⟨rfl, recent, rfl, rfl⟩
  | cons o ws ih =>
    have hrest : ∀ p ∈ ws, p.isAssign ∨ p.isUnassign := fun p hp =>
      hpairs p (List.mem_cons_of_mem o hp)
    cases o with
    | assign v =>
      have habove' : ∀ n, unassigns (ws.take n) ≤ assigns (ws.take n) + (v :: recent).length := by
        intro n
        have h := habove (n + 1)
        rw [List.take_succ_cons, unassigns_assign_cons, assigns_assign_cons] at h
        rw [List.length_cons]
        omega
      obtain ⟨hanswers, left, hafter, hlength⟩ := ih (v :: recent) hrest habove'
      refine ⟨congrArg (Answer.done :: ·) hanswers, left, hafter, ?_⟩
      rw [List.length_cons] at hlength
      rw [unassigns_assign_cons, assigns_assign_cons]
      omega
    | unassign =>
      -- The first part of the stretch shows that there is a value above the base to drop.
      have hfirst := habove 1
      rw [List.take_succ_cons, unassigns_unassign_cons, assigns_unassign_cons] at hfirst
      cases recent with
      | nil => simp [assigns] at hfirst
      | cons v recent =>
        have habove' : ∀ n, unassigns (ws.take n) ≤ assigns (ws.take n) + recent.length := by
          intro n
          have h := habove (n + 1)
          rw [List.take_succ_cons, unassigns_unassign_cons, assigns_unassign_cons,
            List.length_cons] at h
          omega
        obtain ⟨hanswers, left, hafter, hlength⟩ := ih recent hrest habove'
        refine ⟨congrArg (Answer.done :: ·) hanswers, left, hafter, ?_⟩
        rw [unassigns_unassign_cons, assigns_unassign_cons, List.length_cons]
        omega
    | rewind => simpa [isAssign, isUnassign] using hpairs .rewind List.mem_cons_self
    | get => simpa [isAssign, isUnassign] using hpairs .get List.mem_cons_self

/-- A balanced stretch is never refused and leaves every stack as it was. -/
theorem after_of_balanced (name : String) (s : ValueStack) {ws : List Operation}
    (hw : Balanced ws) :
    answers name s ws = List.replicate ws.length .done ∧ s.after ws = s := by
  obtain ⟨hanswers, left, hafter, hlength⟩ :=
    exists_after_append name [] s hw.pairs hw.unassigns_take_le
  have hleft : left = [] := by
    apply List.eq_nil_of_length_eq_zero
    have heq := hw.unassigns_eq
    rw [List.length_nil] at hlength
    omega
  refine ⟨hanswers, ?_⟩
  rw [hleft] at hafter
  exact hafter

end ValueStack

namespace Variable

open Operation

variable {σ τ : Type} [Sink σ] [Sink τ]

/-- The history after a run is that of the surviving values. -/
theorem history_performAll_create (name : String) (traced : Bool) (sink : σ)
    (os : List Operation) :
    ((create name traced sink).performAll os).2.history =
      History.ofStack (surviving os).reverse := by
  have hx : (create name traced sink).history = History.ofStack [] :=
    history_create name traced sink
  rw [(performAll_of_history hx os).2.1, surviving_eq, List.reverse_reverse]

/-- A balanced stretch is never refused and restores value and history. -/
theorem performAll_of_balanced {x : Variable σ} {s : ValueStack}
    (hx : x.history = History.ofStack s) {ws : List Operation} (hw : Balanced ws) :
    (x.performAll ws).1 = List.replicate ws.length .done ∧
      (x.performAll ws).2.history = x.history := by
  obtain ⟨hanswers, hafter, -⟩ := performAll_of_history hx ws
  obtain ⟨hdone, hsame⟩ := s.after_of_balanced x.name hw
  rw [hanswers, hafter, hdone, hsame, hx]
  exact ⟨rfl, rfl⟩

/-- **Nothing is lost by undoing.** Two runs from new variables end in equal histories exactly when
the same values survive them. A balanced stretch succeeds at every step from every state that a run
has reached, restores it, and can be put into a run anywhere: what follows answers as it would
without the stretch, and the run ends in the same history. -/
theorem history_eq_iff_surviving_eq (name₁ name₂ : String) (traced₁ traced₂ : Bool)
    (sink₁ : σ) (sink₂ : τ) :
    (∀ os ps, ((create name₁ traced₁ sink₁).performAll os).2.history =
        ((create name₂ traced₂ sink₂).performAll ps).2.history ↔ surviving os = surviving ps) ∧
      ∀ os ws ps, Balanced ws →
        let start := create name₁ traced₁ sink₁
        let x := (start.performAll os).2
        (x.performAll ws).1 = List.replicate ws.length .done ∧
          (x.performAll ws).2.history = x.history ∧
          (start.performAll (os ++ ws ++ ps)).1 =
            (start.performAll os).1 ++ List.replicate ws.length .done ++ (x.performAll ps).1 ∧
          (start.performAll (os ++ ws ++ ps)).2.history =
            (start.performAll (os ++ ps)).2.history := by
  refine ⟨?_, ?_⟩
  · intro os ps
    rw [history_performAll_create, history_performAll_create]
    constructor
    · intro h
      exact List.reverse_inj.1 (History.ofStack_injective h)
    · intro h
      rw [h]
  · intro os ws ps hw start x
    have hx : x.history = History.ofStack (surviving os).reverse :=
      history_performAll_create name₁ traced₁ sink₁ os
    obtain ⟨hdone, hsame⟩ := performAll_of_balanced hx hw
    have hname : (x.performAll ws).2.name = x.name := (performAll_of_history hx ws).2.2
    -- After the stretch the variable has the history and name it had before, which is all that
    -- the answers and the history of what follows depend on.
    have hps := performAll_of_history hx ps
    have hps' := performAll_of_history (hsame.trans hx) ps
    have hrun : start.performAll (os ++ ws ++ ps) =
        ((start.performAll os).1 ++ (x.performAll ws).1 ++ ((x.performAll ws).2.performAll ps).1,
          ((x.performAll ws).2.performAll ps).2) := by
      rw [performAll_append, performAll_append]
    have hwithout : (start.performAll (os ++ ps)).2 = (x.performAll ps).2 := by
      rw [performAll_append]
    refine ⟨hdone, hsame, ?_, ?_⟩
    · rw [hrun, hdone, hps'.1, hps.1, hname]
    · rw [hrun, hwithout, hps'.2.1, hps.2.1]

/-- A stretch between the two ends of the range, after an assignment and before a rewind. -/
theorem performAll_balanced_extremes :
    Balanced [.assign Int32.minValue, .assign Int32.maxValue, .unassign, .unassign] ∧
      ((create "x" true Trace.empty).performAll
          ([.assign 7] ++ [.assign Int32.minValue, .assign Int32.maxValue, .unassign, .unassign]
            ++ [.get])).2.history =
        ((create "x" true Trace.empty).performAll ([.assign 7] ++ [.get])).2.history := by
  have hw : Balanced [.assign Int32.minValue, .assign Int32.maxValue, .unassign, .unassign] := by
    refine ⟨by decide, ?_, by decide⟩
    intro n
    match n with
    | 0 | 1 | 2 | 3 => decide
    | n + 4 =>
      rw [List.take_of_length_le (Nat.le_add_left 4 n)]
      decide
  have h := history_eq_iff_surviving_eq "x" "x" true true Trace.empty Trace.empty
  exact ⟨hw, (h.2 [.assign 7] _ [.get] hw).2.2.2⟩

end Variable

end Backstep
