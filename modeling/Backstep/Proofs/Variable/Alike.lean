import Backstep.Proofs.Variable.Events

/-!
# Variables that differ in their sinks

A variable only writes to its sink and never reads it. So two variables with the same name and
history, the one traced and the other not, or reporting to sinks of different kinds, cannot be told
apart by their callers: they answer every operation the same and stay alike, and every look shows
the same, except the one that asks whether the variable is traced.
-/

namespace Backstep.Variable

variable {σ τ : Type}

/-- Two variables have the same name and the same history, whatever they report to. -/
structure Alike (x : Variable σ) (y : Variable τ) : Prop where
  name_eq : x.name = y.name
  history_eq : x.history = y.history

namespace Alike

variable {x : Variable σ} {y : Variable τ}

/-! ## Looks -/

theorem snapshot_eq (h : Alike x y) : x.snapshot = y.snapshot := by
  rw [snapshot, snapshot, h.name_eq, h.history_eq]

theorem depth_eq (h : Alike x y) : x.depth = y.depth := congrArg History.depth h.history_eq

theorem canUndo_eq (h : Alike x y) : x.canUndo = y.canUndo := congrArg History.canUndo h.history_eq

/-- A look shows the same, unless it is for the tracing itself. -/
theorem look_eq (h : Alike x y) {l : Look} (hl : l ≠ .traced) : x.look l = y.look l := by
  cases l with
  | depth => exact congrArg Sight.count h.depth_eq
  | canUndo => exact congrArg Sight.flag h.canUndo_eq
  | changes => exact congrArg (fun g : History => Sight.changes g.toList) h.history_eq
  | name => exact congrArg Sight.text h.name_eq
  | traced => exact absurd rfl hl
  | snapshot => exact congrArg Sight.snapshot h.snapshot_eq
  | line => exact congrArg (fun s => Sight.text s.line) h.snapshot_eq

/-! ## Operations -/

variable [Sink σ] [Sink τ]

theorem create (name : String) (traced₁ traced₂ : Bool) (sink₁ : σ) (sink₂ : τ) :
    Alike (.create name traced₁ sink₁) (.create name traced₂ sink₂) := by
  constructor <;> simp

theorem assign (h : Alike x y) (v : Int32) : Alike (x.assign v) (y.assign v) where
  name_eq := by rw [name_assign, name_assign, h.name_eq]
  history_eq := by rw [history_assign, history_assign, h.history_eq]

theorem fst_unassign_eq (h : Alike x y) : x.unassign.1 = y.unassign.1 := by
  rw [fst_unassign, fst_unassign, h.canUndo_eq, h.name_eq]

theorem unassign (h : Alike x y) : Alike x.unassign.2 y.unassign.2 where
  name_eq := by rw [name_unassign, name_unassign, h.name_eq]
  history_eq := by rw [history_unassign, history_unassign, h.history_eq]

/-- The loop that undoes asks the history alone whether to go on. -/
theorem unassignUpTo (n : Nat) (h : Alike x y) :
    (x.unassignUpTo n).1 = (y.unassignUpTo n).1 ∧
      Alike (x.unassignUpTo n).2 (y.unassignUpTo n).2 := by
  induction n generalizing x y with
  | zero => exact ⟨rfl, h⟩
  | succ n ih =>
    obtain ⟨hcount, hrest⟩ := ih h.unassign
    rw [unassignUpTo_succ, unassignUpTo_succ, h.canUndo_eq]
    split
    · exact ⟨congrArg (· + 1) hcount, hrest⟩
    · exact ⟨rfl, h⟩

theorem rewind (h : Alike x y) : x.rewind.1 = y.rewind.1 ∧ Alike x.rewind.2 y.rewind.2 := by
  rw [Variable.rewind, Variable.rewind, h.depth_eq]
  exact h.unassignUpTo y.depth

/-- **One operation** is answered the same and leaves the variables alike. -/
theorem perform (h : Alike x y) (o : Operation) :
    (x.perform o).1 = (y.perform o).1 ∧ Alike (x.perform o).2 (y.perform o).2 := by
  cases o with
  | assign v => exact ⟨rfl, h.assign v⟩
  | unassign =>
    have hfst := h.fst_unassign_eq
    have hsnd := h.unassign
    rw [Variable.perform, Variable.perform]
    generalize x.unassign = r at hfst hsnd
    generalize y.unassign = q at hfst hsnd
    obtain ⟨outcome, x'⟩ := r
    obtain ⟨_, y'⟩ := q
    cases hfst
    cases outcome <;> exact ⟨rfl, hsnd⟩
  | rewind => exact ⟨congrArg Answer.undone h.rewind.1, h.rewind.2⟩
  | get =>
    refine ⟨congrArg (fun g : History => Answer.value g.value) h.history_eq, ?_⟩
    constructor
    · exact (name_get x).trans (h.name_eq.trans (name_get y).symm)
    · exact (history_get x).trans (h.history_eq.trans (history_get y).symm)

theorem performAll (h : Alike x y) (os : List Operation) :
    (x.performAll os).1 = (y.performAll os).1 ∧ Alike (x.performAll os).2 (y.performAll os).2 := by
  induction os generalizing x y with
  | nil => exact ⟨rfl, h⟩
  | cons o os ih =>
    obtain ⟨hanswer, hnext⟩ := h.perform o
    obtain ⟨hanswers, hlast⟩ := ih hnext
    exact ⟨congrArg₂ List.cons hanswer hanswers, hlast⟩

end Alike

end Backstep.Variable
