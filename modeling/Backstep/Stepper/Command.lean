import Backstep.Stepper.Basic

/-!
# Keys and commands

A session is driven by keys. Each key stands for one command or for none, and a command is a total
function on steppers, so a key that does not apply is no error.
-/

namespace Backstep

/-- A key. Modifiers do not matter, so none are kept. -/
inductive Key
  | char (c : Char)
  | tab
  | enter
  | backspace
  | left
  | right
  | up
  | down
  /-- Any other key, such as the function keys. -/
  | other
  deriving DecidableEq

/-- What the user of a session can ask for. -/
inductive Command
  | quit
  /-- Several steps forwards. -/
  | advance (steps : Nat)
  | switchFocus
  | back
  | forward
  | scrollUp
  | scrollDown
  | togglePlay
  | jumpToEnd
  | jumpToStart
  deriving DecidableEq

/-- The number that a digit key stands for; zero steps would be none, so `0` stands for none. -/
def Key.steps? (c : Char) : Option Nat :=
  if '1' ≤ c ∧ c ≤ '9' then some (c.toNat - '0'.toNat) else none

/-- The command that a key stands for. -/
def Key.command? : Key → Option Command
  | char 'q' | char 'Q' => some .quit
  | char ' ' => some .togglePlay
  | char c => (Key.steps? c).map .advance
  | tab => some .switchFocus
  | enter => some .jumpToEnd
  | backspace => some .jumpToStart
  | left => some .back
  | right => some .forward
  | up => some .scrollUp
  | down => some .scrollDown
  | other => none

/-- What reaches a session from its user. -/
inductive Input
  /-- A key was pressed. -/
  | press (key : Key)
  /-- The space bar again, too soon after the last time to be meant. -/
  | bounce
  /-- Anything else: a key held or let go, a change of the window. -/
  | noise
  deriving DecidableEq

/-- Whether an input may start playback, whose first tick is then due at once. -/
def Input.isPlayKey (input : Input) : Bool := input == .press (.char ' ')

namespace Stepper

/-- What a command does. Every command that moves the variable stops playback. -/
def perform (s : Stepper) : Command → Stepper
  | .quit => { s with quit := true }
  | .advance n =>
    let (steps, t) := s.stopped.advanceUpTo n
    { t with status := .advanced steps }
  | .switchFocus => { s with focus := s.focus.other }
  | .back => s.stopped.back
  | .forward => s.stopped.forward
  | .scrollUp => s.scroll Page.up
  | .scrollDown => s.scroll Page.down
  | .togglePlay => s.togglePlay
  | .jumpToEnd => s.stopped.jumpToEnd
  | .jumpToStart => s.stopped.jumpToStart

def press (s : Stepper) (key : Key) : Stepper :=
  match key.command? with
  | some command => s.perform command
  | none => s

def receive (s : Stepper) : Input → Stepper
  | .press key => s.press key
  | .bounce => s
  | .noise => s

end Stepper

end Backstep
