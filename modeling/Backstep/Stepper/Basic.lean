import Backstep.Pane.Page
import Backstep.Variable

/-!
# The stepper

A stepper walks one traced variable forwards and backwards through a script, the list of values
that it is to be assigned in turn. The place in the script is not stored: it is the number of
assignments that the variable can undo, so no step can set the two at odds.

Beside the variable a stepper holds what an interactive session shows: the outcome of the last
command, whether playback runs, which pane has the focus, and where the two panes are scrolled to.

## Main definitions

* `Stepper.position`, `Stepper.next?` — the place in the script.
* `Stepper.advance?` — assign the next target.
* `Stepper.forward`, `Stepper.back` — one step, with its outcome as the status.
-/

namespace Backstep

/-- The panes that can be scrolled. -/
inductive Focus
  | history
  | trace
  deriving DecidableEq

def Focus.other : Focus → Focus
  | history => trace
  | trace => history

/-- The outcome of the last command. -/
inductive Status
  | ready
  | playing
  | paused
  /-- Playback has come to the end of the script. -/
  | complete
  /-- One step forwards, to the given value. -/
  | assigned (name : String) (value : Int32)
  /-- A jump of so many steps forwards. -/
  | advanced (steps : Nat)
  /-- A step forwards was refused: the script is at its end. -/
  | pastEnd
  | steppedBack
  /-- A step backwards was refused. -/
  | pastStart (cause : Underflow)
  | atEnd
  /-- The script was rewound by so many steps. -/
  | atStart (undone : Nat)
  /-- A text that is no outcome of a command. -/
  | note (text : String)
  deriving DecidableEq

namespace Status

def message : Status → String
  | ready => "Ready!"
  | playing => "Playing..."
  | paused => "Paused"
  | complete => "Playback complete"
  | assigned name value => "Assigned " ++ name ++ " := " ++ Decimal.ofInt value.toInt
  | advanced steps => "Stepped forward " ++ steps.repr ++ " step(s)"
  | pastEnd => "Cannot step forward: end of script"
  | steppedBack => "Stepped backward"
  | pastStart cause => "Cannot step backward: " ++ cause.message
  | atEnd => "Jumped to end"
  | atStart undone => "Jumped to start (" ++ undone.repr ++ " undone)"
  | note text => text

end Status

/-- A variable in its script, and what a session shows of it. -/
structure Stepper where
  /-- The variable that is stepped. -/
  var : Variable Trace
  /-- The values that forward steps assign, in order. -/
  targets : List Int32
  focus : Focus
  historyScroll : Nat
  traceScroll : Nat
  /-- Whether the session is to end. -/
  quit : Bool
  status : Status
  /-- Whether playback runs. -/
  playing : Bool
  deriving DecidableEq

namespace Stepper

/-- A session that has not done anything yet. The trace is shown from its end. -/
def new (var : Variable Trace) (targets : List Int32) : Stepper :=
  ⟨var, targets, .history, 0, Page.farthest, false, .ready, false⟩

/-! ## The place in the script -/

/-- The number of assignments in force. -/
def position (s : Stepper) : Nat := s.var.depth - 1

/-- The number of positions, the start included. -/
def total (s : Stepper) : Nat := s.targets.length + 1

/-- The value that the next forward step assigns. -/
def next? (s : Stepper) : Option Int32 := s.targets[s.position]?

/-! ## Steps -/

/-- Show the end of the trace at the next draw. -/
def followTrace (s : Stepper) : Stepper := { s with traceScroll := Page.farthest }

/-- Assign a value and show its line of the trace. -/
def assign (s : Stepper) (value : Int32) : Stepper :=
  { s with var := s.var.assign value }.followTrace

/-- Assign the next target, if there is one. -/
def advance? (s : Stepper) : Option Stepper := s.next?.map s.assign

/-- Assign at most `n` targets, and count those assigned. -/
def advanceUpTo : Nat → Stepper → Nat × Stepper
  | 0, s => (0, s)
  | n + 1, s =>
    match s.advance? with
    | none => (0, s)
    | some t =>
      let (steps, u) := advanceUpTo n t
      (steps + 1, u)

def forward (s : Stepper) : Stepper :=
  match s.next? with
  | some value => { s.assign value with status := .assigned s.var.name value }
  | none => { s with status := .pastEnd }

/-- One step backwards. A refusal is a line of the trace too, so the trace is followed in either
case. -/
def back (s : Stepper) : Stepper :=
  let (outcome, var) := s.var.unassign
  let status := match outcome with
    | .ok () => .steppedBack
    | .error cause => .pastStart cause
  { s with var, status }.followTrace

/-- Assign all targets that are left, which are never more than the script has. -/
def jumpToEnd (s : Stepper) : Stepper :=
  { (s.advanceUpTo s.targets.length).2 with status := .atEnd }

def jumpToStart (s : Stepper) : Stepper :=
  let (undone, var) := s.var.rewind
  { s with var, status := .atStart undone }.followTrace

/-! ## Playback -/

/-- Stop playback; what was on the way stays. -/
def stopped (s : Stepper) : Stepper := { s with playing := false }

def togglePlay (s : Stepper) : Stepper :=
  if s.playing then { s with playing := false, status := .paused }
  else { s with playing := true, status := .playing }

/-- A tick of playback assigns one target. Playback stops at the first tick that finds none. -/
def tick (s : Stepper) : Stepper :=
  if s.playing then
    match s.advance? with
    | some t => { t with status := .playing }
    | none => { s with playing := false, status := .complete }
  else s

/-! ## Scrolling -/

/-- Move the offset of the pane that has the focus. -/
def scroll (s : Stepper) (move : Nat → Nat) : Stepper :=
  match s.focus with
  | .history => { s with historyScroll := move s.historyScroll }
  | .trace => { s with traceScroll := move s.traceScroll }

end Stepper

end Backstep
