import Backstep.Event
import Backstep.Pattern.Basic
import Backstep.Text.Bytes
import Backstep.Text.Blank

/-!
# Log filters

A filter is a list of directives separated by commas. A directive sets the least grave level that
passes, for all records or for those that it selects:

* `level` — all records;
* `target` or `target=level` — the records of targets that start with this one;
* `target[{field}]=level` — of these, the records that have the field;
* `target[span]=level`, `target[{field=value}]=level` — those written within a span; the records
  here never are.

The target may be missing before a bracket, and a directive without a level lets every level
through. The value of a field is a number or a pattern. Of the directives that apply to a record
the one with the longest target decides, then one with a field, then the one whose field comes last
in the alphabet, then the later one; a record to which none applies is stopped.

Levels are written in either case, or as a number from `0`, which stops everything, to `5`.
A text with a directive outside this grammar is not a filter at all.

## Main definitions

* `LogFilter.read?` — the filter that a text describes.
* `LogFilter.passes` — whether a filter lets a record through.
-/

namespace Backstep

/-- The least grave level that passes, or none when nothing does. -/
abbrev Threshold := Option Level

namespace Threshold

/-- Lets every level through. -/
def all : Threshold := some .trace

def passes (t : Threshold) (level : Level) : Bool :=
  match t with
  | none => false
  | some least => level.rank ≤ least.rank

def ofNumber? : Nat → Option Threshold
  | 0 => some none
  | 1 => some (some .error)
  | 2 => some (some .warn)
  | 3 => some (some .info)
  | 4 => some (some .debug)
  | 5 => some (some .trace)
  | _ => none

def named : List (String × Threshold) :=
  [("off", none), ("error", some .error), ("warn", some .warn), ("info", some .info),
    ("debug", some .debug), ("trace", some .trace)]

def ofName? (name : List Char) : Option Threshold :=
  (named.find? fun entry => entry.1.toList == name.map Char.toLower).map (·.2)

/-- The number that a text denotes, if it is digits, perhaps after a plus sign. -/
def readNumber? : List Char → Option Nat
  | '+' :: digits => Decimal.readDigits? digits
  | digits => Decimal.readDigits? digits

def read? (text : List Char) : Option Threshold :=
  match readNumber? text with
  | some n => ofNumber? n
  | none => ofName? text

end Threshold

/-! ## Directives -/

/-- A field that a directive asks for, perhaps with a value. -/
structure FieldTest where
  name : String
  value : Option String
  deriving DecidableEq

/-- A threshold for the records that a target, a span and a field select. -/
structure Directive where
  target : Option String
  span : Option String
  field : Option FieldTest
  threshold : Threshold
  deriving DecidableEq

namespace Directive

/-- The directive for all records of some targets. -/
def ofTarget (target : Option String) (threshold : Threshold) : Directive :=
  ⟨target, none, none, threshold⟩

/-- Whether a directive asks for a field that the record has. Values are only known of spans. -/
def asksFor (d : Directive) (r : Record) : Bool :=
  match d.field with
  | none => true
  | some test => test.value.isNone && r.fieldNames.contains test.name

def applies (d : Directive) (r : Record) : Bool :=
  d.span.isNone && d.asksFor r &&
    match d.target with
    | none => true
    | some start => start.toList.isPrefixOf Record.target.toList

/-- How closely a directive selects targets: the longer its own, the more; any target is closer
than none. -/
def closeness (d : Directive) : Nat :=
  match d.target with
  | none => 0
  | some start => start.length + 1

/-- Whether the second of two directives for the same record goes before the first. -/
def yields (d e : Directive) : Bool :=
  if d.closeness = e.closeness then
    match d.field, e.field with
    | none, _ => true
    | some _, none => false
    | some f, some g => f.name ≤ g.name
  else d.closeness < e.closeness

end Directive

/-! ## The written form of a directive -/

/-- The parts of a directive as they are written. -/
structure DirectiveText where
  target : Option (List Char)
  span : Option (List Char)
  field : Option (List Char)
  /-- What follows the equals sign, if there is one. -/
  level : Option (List Char)
  deriving DecidableEq

namespace DirectiveText

/-- Whether a character may stand at the start of a target. -/
def startsTarget (c : Char) : Bool :=
  Text.isAlphanumeric c || c == '_' || c == '-' || c == ':'

/-- The part behind a closing bracket: a level, or nothing but blanks. -/
def readLevel? (parts : DirectiveText) : List Char → Option DirectiveText
  | '=' :: level => some { parts with level := some level }
  | rest => if rest.all Text.isBlank then some parts else none

/-- The parts behind the opening brace of a field. -/
def readField? (parts : DirectiveText) (text : List Char) : Option DirectiveText :=
  match text.takeWhile (· != '\x7d'), text.dropWhile (· != '\x7d') with
  | c :: field, _ :: ']' :: rest => { parts with field := some (c :: field) }.readLevel? rest
  | _, _ => none

/-- The parts behind the opening bracket of a span. An empty name before a field is none. -/
def readSpan? (parts : DirectiveText) (text : List Char) : Option DirectiveText :=
  let name := text.takeWhile fun c => c != ']' && c != '\x7b'
  match text.dropWhile fun c => c != ']' && c != '\x7b' with
  | ']' :: rest => { parts with span := some name }.readLevel? rest
  | _ :: rest => { parts with span := if name.isEmpty then none else some name }.readField? rest
  | [] => none

/-- The parts of a directive that does not start with a blank. -/
def read? : List Char → Option DirectiveText
  | [] => none
  | '[' :: rest => readSpan? ⟨none, none, none, none⟩ rest
  | c :: rest =>
    let text := c :: rest
    let target := some (text.takeWhile fun d => d != '=' && d != '[')
    if startsTarget c then
      match text.dropWhile fun d => d != '=' && d != '[' with
      | '[' :: inner => readSpan? ⟨target, none, none, none⟩ inner
      | _ :: level => some ⟨target, none, none, some level⟩
      | [] => some ⟨target, none, none, none⟩
    else none

/-- A field with the value that is asked of it, which ends at the second equals sign. Truth values
are patterns like any word. -/
def fieldTest? (text : List Char) : Option FieldTest :=
  let name := String.ofList (text.takeWhile (· != '='))
  match text.dropWhile (· != '=') with
  | [] => some ⟨name, none⟩
  | _ :: rest =>
    let value := rest.takeWhile (· != '=')
    if Decimal.isNumber value || Pattern.isPattern value then
      some ⟨name, some (String.ofList value)⟩
    else none

/-- The directive with these parts, all but the threshold. -/
def selecting? (parts : DirectiveText) (threshold : Threshold) : Option Directive :=
  let target := parts.target.map String.ofList
  let span := parts.span.map String.ofList
  match parts.field with
  | none => some ⟨target, span, none, threshold⟩
  | some field => (fieldTest? field).map fun test => ⟨target, span, some test, threshold⟩

/-- The directive with these parts. A target that stands alone and names a level is a level. -/
def directive? (parts : DirectiveText) : Option Directive :=
  match parts.level with
  | some [] => parts.selecting? .all
  | some level => (Threshold.read? level).bind parts.selecting?
  | none =>
    match parts with
    | ⟨some target, none, none, _⟩ =>
      match Threshold.read? target with
      | some threshold => some (.ofTarget none threshold)
      | none => parts.selecting? .all
    | _ => parts.selecting? .all

/-- The number of bytes before the field: the target, the span, and the two brackets. -/
def fieldStart (parts : DirectiveText) : Nat :=
  Text.byteLength (parts.target.getD []) + Text.byteLength (parts.span.getD []) + 2

end DirectiveText

namespace Directive

/-- The directive that a text describes which starts with blanks. Its parts are found without them
but taken from the whole text, at the same number of bytes. So the target begins with a blank, as
that of no record does, the level begins too early to be one, and the field is cut wrongly, yet
still read. -/
def readBlank? (text : List Char) : Option Directive :=
  (DirectiveText.read? (text.dropWhile Text.isBlank)).bind fun parts =>
    if parts.level.isSome then none
    else
      let field := parts.field.map fun field =>
        Text.takeBytes (Text.byteLength field) (Text.dropBytes parts.fieldStart text)
      DirectiveText.selecting? ⟨some text, none, field, none⟩ .all

/-- The directive that a text describes. -/
def read? : List Char → Option Directive
  | [] => none
  | c :: rest =>
    if Text.isBlank c then readBlank? (c :: rest)
    else (DirectiveText.read? (c :: rest)).bind (·.directive?)

end Directive

/-! ## Filters -/

/-- A list of directives. -/
structure LogFilter where
  directives : List Directive
  deriving DecidableEq

namespace LogFilter

/-- What passes when no directive is written at all. -/
def errorsOnly : LogFilter := ⟨[.ofTarget none (some .error)]⟩

/-- The places between the commas of a text. -/
def places : List Char → List (List Char)
  | [] => [[]]
  | c :: rest =>
    if c = ',' then [] :: places rest
    else match places rest with
      | [] => [[c]]
      | place :: others => (c :: place) :: others

/-- The filter that a text describes. Empty places between commas are skipped. -/
def read? (text : String) : Option LogFilter :=
  match (places text.toList).filter (!·.isEmpty) with
  | [] => some errorsOnly
  | parts => (parts.mapM Directive.read?).map LogFilter.mk

/-- The directive that goes before the other; the later one when neither does. -/
def closer (best : Option Directive) (d : Directive) : Option Directive :=
  match best with
  | none => some d
  | some b => if b.yields d then some d else some b

/-- The directive that decides about a record. -/
def deciding? (filter : LogFilter) (r : Record) : Option Directive :=
  (filter.directives.filter (·.applies r)).foldl closer none

def passes (filter : LogFilter) (r : Record) : Bool :=
  match filter.deciding? r with
  | none => false
  | some d => d.threshold.passes r.level

/-- The filter that the user asks for, or the default when there is none or it is not one. -/
def choose (asked : Option String) (default : String) : LogFilter :=
  match asked.bind read? with
  | some filter => filter
  | none => (read? default).getD errorsOnly

end LogFilter

end Backstep
