import Backstep.Pattern.Brackets
import Backstep.Text.Alphanumeric

/-!
# Patterns

Regular expressions, as far as it matters whether a text is one: signs and brackets side by side,
each perhaps repeated, branches between bars, and groups in parentheses, which may have a name or
flags. Flags that stand alone in parentheses hold up to the end of the group around them.

The patterns here are those without closing braces and equals signs, which are cut off before a
pattern is read. So counted repetitions and code points in braces are never closed, and there is
no looking ahead or behind; what starts like one of them is no pattern.
-/

namespace Backstep.Pattern

/-- A pattern as far as it is read. -/
structure Reading where
  flags : Flags
  /-- The innermost open group, or the pattern itself. -/
  level : Level
  /-- The levels around it, each with the flags that hold there. -/
  outer : List (Level × Flags)
  /-- The names of the groups so far. -/
  names : List (List Char)
  deriving DecidableEq

/-- Whether a text may be the name of a group. -/
def isName : List Char → Bool
  | [] => false
  | c :: rest => (c == '_' || Text.isLetter c) &&
      rest.all fun d => ['_', '.', '[', ']'].contains d || Text.isAlphanumeric d

namespace Reading

def start : Reading := ⟨.initial, .empty, [], []⟩

variable (r : Reading)

/-- One more part of the given depth. -/
def add (depth : Nat) : Reading := { r with level := r.level.add depth }

/-- One more open group, with flags of its own. -/
def enter (flags : Flags) : Reading :=
  { r with flags := flags, level := .empty, outer := (r.level, r.flags) :: r.outer }

/-- The innermost group closed. -/
def leave? : Option Reading :=
  match r.outer with
  | [] => none
  | (level, flags) :: outer =>
    some { r with flags := flags, level := level.add (r.level.depth + 1), outer := outer }

/-- The last part repeated. -/
def repeat? : Option Reading :=
  r.level.row.repeat?.map fun row => { r with level := { r.level with row := row } }

/-- Flags that stand alone. -/
def setFlags (items : List Char) : Reading :=
  { r with flags := r.flags.set items, level := { r.level with row := r.level.row.addFlags } }

/-- A group with a name, from the text of its name on. -/
def enterNamed? (text : List Char) : Option (Reading × List Char) :=
  let name := text.takeWhile (· != '>')
  match text.dropWhile (· != '>') with
  | [] => none
  | _ :: rest =>
    if isName name && !r.names.contains name then
      some ({ r with names := name :: r.names }.enter r.flags, rest)
    else none

/-- A group with flags or flags that stand alone, from the flags on. -/
def enterFlagged? (text : List Char) : Option (Reading × List Char) :=
  let items := text.takeWhile fun c => c != ':' && c != ')'
  match text.dropWhile fun c => c != ':' && c != ')' with
  | [] => none
  | c :: rest =>
    if !Flags.isList items then none
    else if c = ':' then some (r.enter (r.flags.set items), rest)
    else if items.isEmpty then none
    else some (r.setFlags items, rest)

/-- What an opening parenthesis starts. -/
def enter? (text : List Char) : Option (Reading × List Char) :=
  match r.flags.skip text with
  | '?' :: 'P' :: '<' :: name => r.enterNamed? name
  | '?' :: '<' :: name => r.enterNamed? name
  | '?' :: items => r.enterFlagged? items
  | rest => some (r.enter r.flags, rest)

/-- The reading after the part that starts with a character, and the text behind it. -/
def step? (c : Char) (text : List Char) : Option (Reading × List Char) :=
  if c = '(' then r.enter? text
  else if c = ')' then r.leave?.map (·, text)
  else if c = '|' then some ({ r with level := r.level.branch }, text)
  else if c = '[' then
    (Brackets.read? r.flags text).map fun (depth, rest) => (r.add depth, rest)
  else if ['?', '*', '+'].contains c then
    -- A question mark behind a repetition belongs to it: it then takes as little as it can.
    r.repeat?.map (·, if text.head? == some '?' then text.drop 1 else text)
  else if c = '\x7b' then none
  else match Sign.read? r.flags c text with
    | none => none
    | some (sign, rest) => if sign.allowed r.flags then some (r.add 0, rest) else none

/-- Whether the text behind a reading completes it to a pattern. -/
def completes (r : Reading) (text : List Char) : Bool :=
  match r.flags.skip text with
  | [] => r.outer.isEmpty && r.level.depth ≤ deepest
  | c :: rest =>
    match r.step? c rest with
    | none => false
    | some (next, behind) =>
      if _ : behind.length < text.length then next.completes behind else false
termination_by text.length

end Reading

/-! ## Words -/

namespace Reading

end Reading

def isPattern (text : List Char) : Bool := Reading.start.completes text

end Backstep.Pattern
