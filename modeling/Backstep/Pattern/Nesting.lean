/-!
# Nesting

How deep the parts of a pattern lie in one another. A sign lies at no depth. What holds parts is
one deeper than the deepest of them: a group, a repetition, a choice between branches, brackets,
and also a row of two parts or more.
-/

namespace Backstep.Pattern

/-- How deep a pattern may be. -/
def deepest : Nat := 250

/-- Parts side by side. -/
structure Row where
  count : Nat
  /-- The depth of the deepest part but the last. -/
  before : Nat
  /-- The depth of the last part, if it can be repeated. -/
  last : Option Nat
  deriving DecidableEq

namespace Row

def empty : Row := ⟨0, 0, none⟩

variable (row : Row)

/-- The depth of the deepest part. -/
def inner : Nat := max row.before (row.last.getD 0)

def depth : Nat := if row.count ≤ 1 then row.inner else row.inner + 1

/-- One more part, of the given depth. -/
def add (depth : Nat) : Row := ⟨row.count + 1, row.inner, some depth⟩

/-- One more part that cannot be repeated. -/
def addFlags : Row := ⟨row.count + 1, row.inner, none⟩

/-- The last part repeated. -/
def repeat? : Option Row := row.last.map fun depth => { row with last := some (depth + 1) }

end Row

/-- The branches of a group, the last of which is being read. -/
structure Level where
  row : Row
  /-- The depth of the deepest branch before, if there is one. -/
  branches : Option Nat
  deriving DecidableEq

namespace Level

def empty : Level := ⟨.empty, none⟩

variable (level : Level)

/-- The depth of what the group holds. -/
def depth : Nat :=
  match level.branches with
  | none => level.row.depth
  | some branch => max branch level.row.depth + 1

/-- One more part in the last branch. -/
def add (depth : Nat) : Level := { level with row := level.row.add depth }

def branch : Level := ⟨.empty, some (max (level.branches.getD 0) level.row.depth)⟩

end Level

end Backstep.Pattern
