import Backstep.Decimal

/-!
# Events of a reversible variable

A variable never prints. While it is traced, each operation is described by one event, and the
event is all that any trace is made from. It has two written forms: a line for a person to read,
and a record with a level and named fields for a log that is filtered.
-/

namespace Backstep

/-- One operation on the variable `name`. A depth counts the recorded changes after the
operation, the sentinel included. -/
inductive Event
  | created (name : String)
  | assigned (name : String) (value : Int32) (depth : Nat)
  | unassigned (name : String) (value : Int32) (depth : Nat)
  | unassignFailed (name : String)
  | read (name : String) (value : Int32)
  deriving DecidableEq

namespace Event

/-- The name of the variable that the event is about. -/
def name : Event → String
  | created name => name
  | assigned name _ _ => name
  | unassigned name _ _ => name
  | unassignFailed name => name
  | read name _ => name

/-- The value and depth that a step ended with, as both kinds of step write them. -/
def outcome (value : Int32) (depth : Nat) : String :=
  " to " ++ Decimal.ofInt value.toInt ++ " (history size " ++ depth.repr ++ ")"

def line : Event → String
  | created name => "created " ++ name
  | assigned name value depth => "assigned " ++ name ++ outcome value depth
  | unassigned name value depth => "unassigned " ++ name ++ outcome value depth
  | unassignFailed name => "unassigning " ++ name ++ " failed: history is empty"
  | read name value => "read " ++ name ++ ": " ++ Decimal.ofInt value.toInt

end Event

/-! ## Records -/

/-- How much a record matters, the gravest first. -/
inductive Level
  | error
  | warn
  | info
  | debug
  | trace
  deriving DecidableEq

namespace Level

/-- The rank of a level: a threshold passes the levels of its own rank and below. -/
def rank : Level → Nat
  | error => 1
  | warn => 2
  | info => 3
  | debug => 4
  | trace => 5

def label : Level → String
  | error => "ERROR"
  | warn => "WARN"
  | info => "INFO"
  | debug => "DEBUG"
  | trace => "TRACE"

end Level

/-- What a field of a record holds. -/
inductive FieldValue
  | text (content : String)
  | number (value : Int)
  deriving DecidableEq

/-- A log record: what happened to which variable, and the value and depth where there is one. -/
structure Record where
  level : Level
  message : String
  subject : String
  value : Option Int32
  depth : Option Nat
  deriving DecidableEq

namespace Record

def ofEvent : Event → Record
  | .created name => ⟨.debug, "created", name, none, none⟩
  | .assigned name value depth => ⟨.debug, "assigned", name, some value, some depth⟩
  | .unassigned name value depth => ⟨.debug, "unassigned", name, some value, some depth⟩
  | .unassignFailed name => ⟨.warn, "unassign failed: history is empty", name, none, none⟩
  | .read name value => ⟨.debug, "read", name, some value, none⟩

/-- The named fields of a record, in the order in which they are written. -/
def fields (r : Record) : List (String × FieldValue) :=
  ("variable", .text r.subject)
    :: (r.value.map fun v => ("value", FieldValue.number v.toInt)).toList
    ++ (r.depth.map fun d => ("depth", FieldValue.number d)).toList

/-- The names that a record can be selected by: those of its fields and of its message. -/
def fieldNames (r : Record) : List String := "message" :: r.fields.map (·.1)

/-- The target that every record is logged under, which log filters select by. -/
def target : String := "rimpvar"

end Record

end Backstep
