import Backstep.Stepper.Command

/-!
# Typed lines

How a terminal that hands over whole lines sends keys. Most keys are the character itself; the
arrows are escape sequences, and a few control codes stand for keys with a name. The line feed
that ends a line belongs to the terminal, unless the line has nothing else in it: then it is the
enter key.
-/

namespace Backstep.Keyboard

/-- The arrow key of an escape sequence, by its final letter. -/
def arrow : Char → Key
  | 'A' => .up
  | 'B' => .down
  | 'C' => .right
  | 'D' => .left
  | _ => .other

def plainKey : Char → Key
  | '\t' => .tab
  | '\r' | '\n' => .enter
  | '\x08' | '\x7f' => .backspace
  | c => .char c

def keys : List Char → List Key
  | [] => []
  | '\x1b' :: '[' :: final :: rest => arrow final :: keys rest
  | c :: rest => plainKey c :: keys rest

/-- The keys of a typed line, which may still have its line feed. -/
def lineKeys (line : String) : List Key :=
  match line.toList.filter (· != '\n') with
  | [] => [.enter]
  | typed => keys typed

end Backstep.Keyboard
