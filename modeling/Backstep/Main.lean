import Backstep.Program
import Backstep.Stepper.Keyboard
import Backstep.Stepper.Session

/-!
# The executable

All that is left to do with the outside world: fetch the arguments and the environment, print what
the program has decided, and in a session show screens and fetch typed lines. Playback waits a
second between ticks.
-/

open Backstep

def printLines (stream : IO.FS.Stream) (lines : List String) : IO Unit := do
  for line in lines do
    stream.putStrLn line
  stream.flush

def showTerminal (terminal : Terminal) : IO Unit := do
  printLines (← IO.getStdout)
    (terminal.visible.map fun row => String.join (row.map (·.symbol)))

/-- Let playback run to its end. -/
partial def playOn (size : Size) (state : Stepper × Terminal) : IO (Stepper × Terminal) := do
  if state.1.playing && !state.1.quit then
    IO.sleep 1000
    let next := Stepper.proceed size state .tick
    showTerminal next.2
    playOn size next
  else return state

/-- Take typed lines until the session is told to quit or there are none left. -/
partial def converse (size : Size) (state : Stepper × Terminal) : IO Unit := do
  showTerminal state.2
  if state.1.quit then return
  let line ← (← IO.getStdin).getLine
  if line.isEmpty then return
  let typed := (Keyboard.lineKeys line).map fun key => Occurrence.input (.press key)
  converse size (← playOn size (typed.foldl (Stepper.proceed size) state))

/-- The size of the screen, if the environment tells it. -/
def screenSize : IO Size := do
  let width := (← IO.getEnv "COLUMNS").bind String.toNat?
  let height := (← IO.getEnv "LINES").bind String.toNat?
  return ⟨width.getD 80, height.getD 24⟩

def main (arguments : List String) : IO UInt32 := do
  let env : Program.Environment :=
    ⟨← IO.getEnv Tracing.variableName, ← IO.getEnv Program.filterVariable⟩
  match Program.start Program.defaultName arguments env with
  | .ended outcome =>
    printLines (← IO.getStdout) outcome.stdout
    printLines (← IO.getStderr) outcome.stderr
    return outcome.code.toUInt32
  | .opened session =>
    let size ← screenSize
    converse size (Stepper.proceed size (session, .blank size.width size.height) .redraw)
    return 0
