import Backstep.Pattern.Nesting
import Backstep.Pattern.Sign

/-!
# Brackets of a pattern

A set of characters between brackets: signs, ranges of characters, named classes, further
brackets, and between them the signs of set operations, `&&`, `--` and `~~`. A minus sign at the
start stands for itself, and so does a closing bracket, so no brackets are empty.

A set that holds all but some bytes would match parts of characters, so brackets for bytes are
never negated.
-/

namespace Backstep.Pattern

/-- Open brackets, as far as they are read. -/
structure Brackets where
  /-- The items behind the last operation. -/
  items : Row
  /-- The depth of what stands before it, if there is one. -/
  left : Option Nat
  /-- Whether nothing but minus signs is read yet. -/
  fresh : Bool
  deriving DecidableEq

namespace Brackets

/-- The classes of ASCII that have a name. -/
def named : List String :=
  ["alnum", "alpha", "ascii", "blank", "cntrl", "digit", "graph", "lower", "print", "punct",
    "space", "upper", "word", "xdigit"]

def opened : Brackets := ⟨.empty, none, true⟩

variable (set : Brackets)

/-- The depth of the set that is read so far. -/
def depth : Nat :=
  match set.left with
  | none => set.items.depth
  | some left => max left set.items.depth + 1

/-- One more item. -/
def add (depth : Nat) : Brackets := { set with items := set.items.add depth, fresh := false }

/-- One more minus sign at the start. -/
def addMinus : Brackets := { set with items := set.items.add 0 }

/-- What is read so far before a set operation. -/
def operate : Brackets := ⟨.empty, some set.depth, false⟩

/-- The text in brackets behind the opening one and the sign of negation, which only sets of
characters may have. -/
def enter? (flags : Flags) (text : List Char) : Option (List Char) :=
  match flags.skip text with
  | '^' :: rest => if flags.unicode then some rest else none
  | rest => some rest

/-- Whether the class is negated that a text names behind an opening bracket, and the text behind
it. -/
def readNamed? : List Char → Option (Bool × List Char)
  | ':' :: text =>
    let negated := text.head? == some '^'
    let name := if negated then text.drop 1 else text
    match name.dropWhile (· != ':') with
    | ':' :: ']' :: rest =>
      if named.contains (String.ofList (name.takeWhile (· != ':'))) then some (negated, rest)
      else none
    | _ => none
  | _ => none

/-- The text behind a sign or a range. A minus sign before the end of the brackets or before
another one makes no range. -/
def readItem? (flags : Flags) (c : Char) (text : List Char) : Option (List Char) := do
  let (first, rest) ← Sign.readInBrackets? flags c text
  if !first.allowedInBrackets flags then none
  match flags.skip rest with
  | '-' :: ahead =>
    if flags.peek ahead == some ']' || flags.peek ahead == some '-' then return rest
    match flags.skip ahead with
    | [] => none
    | d :: behind =>
      let (last, rest) ← Sign.readInBrackets? flags d behind
      if last.allowedInBrackets flags && first.isRange last then return rest else none
  | _ => return rest

/-- The depth of brackets within others, and the text behind them. -/
def readOn? (flags : Flags) (top : Brackets) (outer : List Brackets) (text : List Char) :
    Option (Nat × List Char) :=
  -- The text gets shorter at each step; the test says so where recursion asks for it.
  let go (top : Brackets) (outer : List Brackets) (rest : List Char) :=
    if _ : rest.length < text.length then readOn? flags top outer rest else none
  match flags.skip text with
  | [] => none
  | c :: rest =>
    if top.fresh ∧ (c = '-' ∨ c = ']' ∧ top.items.count = 0) then
      if (Sign.literal c false).allowedInBrackets flags then
        go (if c = '-' then top.addMinus else top.add 0) outer rest
      else none
    else if c = ']' then
      match outer with
      | [] => some (top.depth + 1, rest)
      | parent :: others => go (parent.add (top.depth + 1)) others rest
    else if c = '[' then
      match readNamed? rest with
      | some (negated, behind) =>
        let allowed := if flags.unicode then !flags.anyCase else !negated
        if allowed then go (top.add 0) outer behind else none
      | none => (enter? flags rest).bind fun inner => go opened (top :: outer) inner
    else if ['&', '-', '~'].contains c && rest.head? == some c then
      go top.operate outer (rest.drop 1)
    else (readItem? flags c rest).bind fun behind => go (top.add 0) outer behind
termination_by text.length

/-- The depth of the brackets that a text continues behind the opening one, and the text behind
them. -/
def read? (flags : Flags) (text : List Char) : Option (Nat × List Char) :=
  (enter? flags text).bind (readOn? flags opened [])

end Brackets

end Backstep.Pattern
