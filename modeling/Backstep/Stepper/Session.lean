import Backstep.Screen.Terminal
import Backstep.Stepper.Command
import Backstep.Stepper.View

/-!
# Sessions

A session is a loop of turns. Each turn draws the screen, ends the session if it was told to quit,
plays a tick if one is due, and takes an input if there is one. So quitting is seen by one more
draw, and no tick comes between a key and the draw that answers it.
-/

namespace Backstep

/-- What can happen between two screens of a session. -/
inductive Occurrence
  | input (input : Input)
  /-- A tick of playback is due. -/
  | tick
  /-- The screen is drawn, perhaps at another size. -/
  | redraw
  deriving DecidableEq

namespace Stepper

/-- One turn: draw, stop if told to, play a tick if one is due, take an input if there is one. -/
def turn (size : Size) (due : Bool) (input : Option Input) (s : Stepper) : Stepper :=
  let shown := s.settle size
  if shown.quit then shown
  else
    let played := if due then shown.tick else shown
    match input with
    | some i => played.receive i
    | none => played

/-- An input and the draws around it. The key that starts playback makes its first tick due in
the next turn. -/
def takeInput (size : Size) (input : Input) (s : Stepper) : Stepper :=
  ((s.turn size false (some input)).turn size input.isPlayKey none).settle size

/-- A due tick and the draws around it. -/
def takeTick (size : Size) (s : Stepper) : Stepper :=
  (s.turn size true none).settle size

/-- The session after an occurrence, with the screen drawn. -/
def meet (size : Size) (s : Stepper) : Occurrence → Stepper
  | .input i => s.takeInput size i
  | .tick => s.takeTick size
  | .redraw => s.settle size

/-- The sessions of which the screen is drawn around an occurrence, the first one first. -/
def drawn (size : Size) (s : Stepper) : Occurrence → List Stepper
  | .input i =>
    let taken := s.turn size false (some i)
    [s, taken, taken.turn size i.isPlayKey none]
  | .tick => [s, s.turn size true none]
  | .redraw => [s]

/-- The frames that are drawn around an occurrence. -/
def frames (size : Size) (s : Stepper) (o : Occurrence) : List Frame :=
  (s.drawn size o).map (·.screen size)

/-- A session after an occurrence, and the terminal after what was drawn around it. -/
def proceed (size : Size) (state : Stepper × Terminal) (o : Occurrence) : Stepper × Terminal :=
  (state.1.meet size o, state.2.repaintAll (state.1.frames size o))

/-- The session after a list of occurrences, each at a size of the screen. -/
def run (s : Stepper) (occurrences : List (Size × Occurrence)) : Stepper :=
  occurrences.foldl (fun s (size, o) => s.meet size o) s

end Stepper

end Backstep
