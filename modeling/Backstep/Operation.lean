import Backstep.Variable

/-!
# Operations and their answers

The operations on a variable as data, so that a run is a list of them. Every operation has an
answer, which is all that its caller learns from it; what a sink was told is not part of it.
-/

namespace Backstep

inductive Operation
  | assign (value : Int32)
  | unassign
  | rewind
  | get
  deriving DecidableEq

/-- What an operation answers. -/
inductive Answer
  | done
  | refused (cause : Underflow)
  /-- So many assignments were undone. -/
  | undone (count : Nat)
  | value (value : Int32)
  deriving DecidableEq

namespace Variable

variable {σ : Type} [Sink σ]

def perform (x : Variable σ) : Operation → Answer × Variable σ
  | .assign value => (.done, x.assign value)
  | .unassign =>
    match x.unassign with
    | (.ok (), y) => (.done, y)
    | (.error cause, y) => (.refused cause, y)
  | .rewind =>
    let (count, y) := x.rewind
    (.undone count, y)
  | .get =>
    let (value, y) := x.get
    (.value value, y)

def performAll (x : Variable σ) : List Operation → List Answer × Variable σ
  | [] => ([], x)
  | o :: rest =>
    let (answer, y) := x.perform o
    let (answers, z) := y.performAll rest
    (answer :: answers, z)

/-- Running one list after another goes on from the variable that the first one leaves. -/
theorem performAll_append (x : Variable σ) (os ps : List Operation) :
    x.performAll (os ++ ps) =
      ((x.performAll os).1 ++ ((x.performAll os).2.performAll ps).1,
        ((x.performAll os).2.performAll ps).2) := by
  induction os generalizing x with
  | nil => rfl
  | cons o rest ih => simp [performAll, ih]

end Variable

end Backstep
