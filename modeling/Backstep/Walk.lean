import Backstep.Variable

/-!
# Walks

A walk takes a variable through a list of targets and all the way back, and writes the inspection
line at every stop. Going back repeats the stops of the way out in reverse, because unassigning is
the exact inverse of assigning. The last line is the value that the walk ends with.
-/

namespace Backstep

/-- What became of a walk: the lines written, whether every step was taken, and the variable. -/
structure Walk (σ : Type) where
  lines : List String
  outcome : Except Underflow Unit
  var : Variable σ

namespace Walk

variable {σ : Type} [Sink σ]

/-- Assign the targets in order, with a line after each. -/
def forwards (x : Variable σ) : List Int32 → List String × Variable σ
  | [] => ([], x)
  | target :: rest =>
    let y := x.assign target
    let (lines, z) := forwards y rest
    (y.line :: lines, z)

/-- Unassign at most `n` times while something is left, with a line after each. A refusal would
end the walk. -/
def backwards : Nat → Variable σ → Walk σ
  | 0, x => ⟨[], .ok (), x⟩
  | n + 1, x =>
    if x.canUndo then
      match x.unassign with
      | (.ok (), y) =>
        let rest := backwards n y
        { rest with lines := y.line :: rest.lines }
      | (.error cause, y) => ⟨[], .error cause, y⟩
    else ⟨[], .ok (), x⟩

/-- The walk of a variable through targets and back, from its first line to its last. -/
def thereAndBack (x : Variable σ) (targets : List Int32) : Walk σ :=
  let (out, y) := forwards x targets
  let back := backwards y.depth y
  match back.outcome with
  | .error cause => ⟨x.line :: out ++ back.lines, .error cause, back.var⟩
  | .ok () =>
    let (value, z) := back.var.get
    ⟨x.line :: out ++ back.lines ++ [z.name ++ " = " ++ Decimal.ofInt value.toInt], .ok (), z⟩

end Walk

end Backstep
