import Backstep.Pattern.Flags

/-!
# Signs of a pattern

The smallest parts of a pattern. Most characters stand for themselves. A backslash makes letters
special and everything else in ASCII plain; a letter without such a meaning, a digit and a
character beyond ASCII may not follow it.

What needs to know the letters of all scripts is there for bytes only: the shorthands, the edges
of words, and letters in either case. In a pattern of bytes, on the other hand, no sign may match
a part of a character.
-/

namespace Backstep.Pattern

/-- The smallest parts of a pattern. -/
inductive Sign
  /-- A character that stands for itself, perhaps written as a byte. -/
  | literal (c : Char) (byte : Bool)
  /-- Any character. -/
  | any
  /-- The start or the end of a line or of the text. -/
  | edge
  /-- The start or the end of a word, or no such place. -/
  | wordEdge
  /-- The digits, the blanks or the letters, or all but these. -/
  | shorthand (negated : Bool)
  deriving DecidableEq

namespace Sign

/-! ## Reading -/

/-- The value of a digit in base sixteen. -/
def hexDigit? (c : Char) : Option Nat :=
  if c.isDigit then some (c.toNat - '0'.toNat)
  else if 'a' ≤ c ∧ c ≤ 'f' then some (c.toNat - 'a'.toNat + 10)
  else if 'A' ≤ c ∧ c ≤ 'F' then some (c.toNat - 'A'.toNat + 10)
  else none

/-- The number that the next digits in base sixteen denote behind those already read. -/
def readHex? (flags : Flags) : Nat → Nat → List Char → Option (Nat × List Char)
  | 0, value, text => some (value, text)
  | digits + 1, value, text =>
    match flags.skip text with
    | [] => none
    | c :: rest => (hexDigit? c).bind fun d => readHex? flags digits (16 * value + d) rest

/-- The character that is written as its code point in so many digits. -/
def readCodePoint? (flags : Flags) (digits : Nat) (text : List Char) :
    Option (Sign × List Char) :=
  match readHex? flags digits 0 text with
  | none => none
  | some (value, rest) =>
    if value.isValidChar then some (.literal (Char.ofNat value) (digits == 2), rest) else none

/-- The control characters that have a letter. -/
def controls : List (Char × Char) :=
  [('a', '\x07'), ('f', '\x0c'), ('t', '\t'), ('n', '\n'), ('r', '\r'), ('v', '\x0b')]

/-- The sign behind a backslash. -/
def readEscape? (flags : Flags) : List Char → Option (Sign × List Char)
  | [] => none
  | c :: rest =>
    if ['d', 's', 'w'].contains c then some (.shorthand false, rest)
    else if ['D', 'S', 'W'].contains c then some (.shorthand true, rest)
    else if ['b', 'B', '<', '>'].contains c then some (.wordEdge, rest)
    else if ['A', 'z'].contains c then some (.edge, rest)
    else if c = 'x' then readCodePoint? flags 2 rest
    else if c = 'u' then readCodePoint? flags 4 rest
    else if c = 'U' then readCodePoint? flags 8 rest
    else match controls.lookup c with
      | some control => some (.literal control false, rest)
      | none =>
        if c.toNat < 0x80 && !c.isAlphanum then some (.literal c false, rest) else none

/-- The sign that starts with a character, which is none of the signs that join others. -/
def read? (flags : Flags) (c : Char) (rest : List Char) : Option (Sign × List Char) :=
  if c = '\\' then readEscape? flags rest
  else if c = '.' then some (.any, rest)
  else if c = '^' ∨ c = '$' then some (.edge, rest)
  else some (.literal c false, rest)

/-- The sign that starts with a character in brackets. -/
def readInBrackets? (flags : Flags) (c : Char) (rest : List Char) : Option (Sign × List Char) :=
  if c = '\\' then readEscape? flags rest else some (.literal c false, rest)

/-! ## Where signs may stand -/

def allowed (flags : Flags) : Sign → Bool
  | literal c byte => if flags.unicode then !flags.anyCase else !byte || c.toNat < 0x80
  | any => flags.unicode
  | edge => true
  | wordEdge => !flags.unicode
  | shorthand negated => !flags.unicode && !negated

/-- Whether a sign may stand in brackets under some flags. -/
def allowedInBrackets (flags : Flags) : Sign → Bool
  | literal c _ => if flags.unicode then !flags.anyCase else c.toNat < 0x80
  | shorthand negated => !flags.unicode && !negated
  | _ => false

/-- Whether two signs are the ends of a range. -/
def isRange : Sign → Sign → Bool
  | literal first _, literal last _ => first ≤ last
  | _, _ => false

end Sign

end Backstep.Pattern
