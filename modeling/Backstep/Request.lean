import Backstep.Operation

/-!
# Requests

All that can be asked of a variable with a trace log, as data: an operation, a look at what the
variable shows, or to forget the trace kept so far. A look answers from the variable as it stands
and hands it back.
-/

namespace Backstep

/-- A look at a variable. -/
inductive Look
  | depth
  | canUndo
  | changes
  | name
  | traced
  | snapshot
  /-- The inspection line. -/
  | line
  deriving DecidableEq

/-- What a look shows. -/
inductive Sight
  | count (n : Nat)
  | flag (b : Bool)
  | changes (deltas : List Int64)
  | text (content : String)
  | snapshot (s : Snapshot)
  deriving DecidableEq

/-- What is asked of a variable with a trace log. -/
inductive Request
  | perform (o : Operation)
  | look (l : Look)
  /-- Forget the trace kept so far. -/
  | clear
  deriving DecidableEq

/-- What is answered to a request. -/
inductive Reply
  | answer (a : Answer)
  | sight (s : Sight)
  | cleared
  deriving DecidableEq

namespace Variable

def look {σ : Type} (x : Variable σ) : Look → Sight
  | .depth => .count x.depth
  | .canUndo => .flag x.canUndo
  | .changes => .changes x.history.toList
  | .name => .text x.name
  | .traced => .flag x.traced
  | .snapshot => .snapshot x.snapshot
  | .line => .text x.line

def serve (x : Variable Trace) : Request → Reply × Variable Trace
  | .perform o =>
    let (answer, y) := x.perform o
    (.answer answer, y)
  | .look l => (.sight (x.look l), x)
  | .clear => (.cleared, x.clearTrace)

def serveAll (x : Variable Trace) : List Request → List Reply × Variable Trace
  | [] => ([], x)
  | r :: rest =>
    let (reply, y) := x.serve r
    let (replies, z) := y.serveAll rest
    (reply :: replies, z)

end Variable

end Backstep
