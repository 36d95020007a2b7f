import Backstep.Decimal

/-!
# The command line

A command line is the name of a variable, the values to assign to it, and the choice between
printing each step and stepping interactively. The print flag may stand anywhere; the first other
argument is the name, and all later ones are values. Arguments are read from left to right and
the first one that does not fit decides the error.
-/

namespace Backstep

/-- What the user asked for. -/
structure CommandLine where
  /-- Whether each step is printed, instead of stepping interactively. -/
  print : Bool
  /-- The name of the variable. -/
  name : String
  /-- The values to assign, in order. -/
  targets : List Int32
  deriving DecidableEq

namespace CommandLine

/-- Why an argument list is refused. -/
inductive Error
  | missingName
  | invalidTarget (argument : String)
  | unknownOption (argument : String)
  deriving DecidableEq

def Error.message : Error → String
  | missingName => "no variable name provided"
  | invalidTarget argument =>
    "invalid target value '" ++ argument ++ "': expected a 32-bit integer"
  | unknownOption argument => "unknown option '" ++ argument ++ "'"

/-- The two spellings of the print flag. -/
def isPrintFlag (argument : String) : Bool := argument == "--print" || argument == "-p"

/-- Whether an argument in the place of the name is taken for a mistyped option. -/
def isLongOption (argument : String) : Bool := "--".toList.isPrefixOf argument.toList

/-- Read the values after the name: whether a print flag was among them, and the values. -/
def parseTargets : List String → Except Error (Bool × List Int32)
  | [] => .ok (false, [])
  | argument :: rest =>
    if isPrintFlag argument then do
      let (_, targets) ← parseTargets rest
      return (true, targets)
    else match Decimal.readInt32? argument with
      | some target => do
        let (print, targets) ← parseTargets rest
        return (print, target :: targets)
      | none => .error (.invalidTarget argument)

/-- Read an argument list, the program's own name excluded. -/
def parse : List String → Except Error CommandLine
  | [] => .error .missingName
  | argument :: rest =>
    if isPrintFlag argument then do
      let request ← parse rest
      return { request with print := true }
    else if isLongOption argument then .error (.unknownOption argument)
    else do
      let (print, targets) ← parseTargets rest
      return ⟨print, argument, targets⟩

/-- The usage text for a program called by the given name, line by line. -/
def usage (program : String) : List String :=
  ["Usage: " ++ program ++ " [--print] <name> <value>...",
   "",
   "Examples:",
   "  " ++ program ++ " x 5 2 -3          # Step through the assignments in the TUI",
   "  " ++ program ++ " --print x 5 2     # Assign then unwind, printing each step",
   "",
   "Set RIMP_DEBUG=1 to trace every operation."]

end CommandLine

end Backstep
