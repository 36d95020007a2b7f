import Backstep.CommandLine
import Backstep.LogLine
import Backstep.Stepper.Basic
import Backstep.Tracing
import Backstep.Walk

/-!
# The program

From the arguments and the environment, the program either ends by itself, with what it printed,
or opens a session. A session keeps its trace for the trace pane; a printed walk logs its records
as far as the filter of the environment lets them through.
-/

namespace Backstep.Program

/-- The part of the environment that the program looks at. -/
structure Environment where
  /-- The text of the tracing switch. -/
  tracing : Option String
  /-- The text of the log filter. -/
  filter : Option String

def filterVariable : String := "RUST_LOG"

/-- What a program that has ended leaves: an exit code, and the lines it has printed. A line may
itself hold line feeds, if a name does. -/
structure Outcome where
  code : UInt8
  stdout : List String
  stderr : List String
  deriving DecidableEq

/-- The name by which an argument list without a program name is answered. -/
def defaultName : String := "rimpvar"

/-- The outcome of a refused argument list: the reason, then the usage. -/
def refuse (program : String) (e : CommandLine.Error) : Outcome :=
  ⟨1, [], ("Error: " ++ e.message) :: "" :: CommandLine.usage program⟩

/-- The line for a walk that was refused on its way back. It shows the cause as a value, its name
quoted, and not as the user is told in a session. -/
def failure (cause : Underflow) : String :=
  "Error: Underflow \x7b name: " ++ Text.quote cause.name ++ " \x7d"

def print (request : CommandLine) (env : Environment) : Outcome :=
  let tracing := Tracing.ofValue env.tracing
  let filter := LogFilter.choose env.filter tracing.defaultFilter
  let walk := Walk.thereAndBack (Variable.create request.name tracing.enabled Journal.empty)
    request.targets
  let log := filter.log walk.var.sink.records
  match walk.outcome with
  | .ok () => ⟨0, walk.lines, log⟩
  | .error cause => ⟨1, walk.lines, log ++ [failure cause]⟩

/-- The session that steps through a script. -/
def session (request : CommandLine) (env : Environment) : Stepper :=
  .new (.create request.name (Tracing.ofValue env.tracing).enabled Trace.empty) request.targets

/-- What a program does: it ends with an outcome, or it opens a session. -/
inductive Start
  | ended (outcome : Outcome)
  | opened (session : Stepper)

/-- What the program called `program` does with its arguments. -/
def start (program : String) (arguments : List String) (env : Environment) : Start :=
  match CommandLine.parse arguments with
  | .error e => .ended (refuse program e)
  | .ok request =>
    if request.print then .ended (print request env) else .opened (session request env)

end Backstep.Program
