import Backstep.Text.Blank

/-!
# Flags of a pattern

A pattern may hold letters that change how the rest of their group is read. There are seven of
them, and three bear on what may stand in a pattern: `u` makes it a pattern of characters, not of
bytes, `i` lets letters match in either case, and `x` skips blanks and comments between the signs.
-/

namespace Backstep.Pattern

/-- The flags that bear on what may stand in a pattern. -/
structure Flags where
  unicode : Bool
  anyCase : Bool
  spaced : Bool
  deriving DecidableEq

/-- A text without the blanks and comments at its start. A comment ends with its line. -/
def skipBlanks (inComment : Bool) : List Char → List Char
  | [] => []
  | c :: rest =>
    if inComment then skipBlanks (c != '\n') rest
    else if Text.isBlank c then skipBlanks false rest
    else if c = '#' then skipBlanks true rest
    else c :: rest

namespace Flags

def initial : Flags := ⟨true, false, false⟩

def letters : List Char := ['i', 'm', 's', 'U', 'u', 'R', 'x']

/-- Whether a text is a list of flags: letters of flags, perhaps with a minus sign before those
that are turned off, and nothing twice. -/
def isList (items : List Char) : Bool :=
  items.all (fun c => c == '-' || letters.contains c) && decide items.Nodup
    && items.getLast? != some '-'

/-- One flag after a list: on before the minus sign, off behind it, and else as it was. -/
def after (items : List Char) (letter : Char) (before : Bool) : Bool :=
  if (items.takeWhile (· != '-')).contains letter then true
  else if items.contains letter then false
  else before

variable (flags : Flags)

/-- The flags after a list. -/
def set (items : List Char) : Flags :=
  ⟨after items 'u' flags.unicode, after items 'i' flags.anyCase, after items 'x' flags.spaced⟩

/-- A text without what the flags skip at its start. -/
def skip (text : List Char) : List Char :=
  if flags.spaced then skipBlanks false text else text

/-- The next character of a text that is not skipped, as a range in brackets looks ahead for its
end: past blanks and the sign of a comment, but into the comment. -/
def peek (text : List Char) : Option Char :=
  if flags.spaced then
    match text.dropWhile Text.isBlank with
    | '#' :: comment => (comment.dropWhile Text.isBlank).head?
    | rest => rest.head?
  else text.head?

end Flags

end Backstep.Pattern
