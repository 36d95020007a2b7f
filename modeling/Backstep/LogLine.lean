import Backstep.LogFilter
import Backstep.Text.Quoted

/-!
# Log lines

The lines in which records are logged: the level, the message, then every field as `name=value`.
Texts are quoted, so that a name with spaces or quotes cannot be mistaken for further fields.
-/

namespace Backstep

/-- How the value of a field is written. -/
def FieldValue.written : FieldValue → String
  | text content => Text.quote content
  | number value => Decimal.ofInt value

namespace Record

def line (r : Record) : String :=
  String.intercalate " " (r.level.label :: r.message
    :: r.fields.map fun (name, value) => name ++ "=" ++ value.written)

end Record

namespace LogFilter

/-- The lines of those records that a filter lets through. -/
def log (filter : LogFilter) (records : List Record) : List String :=
  (records.filter filter.passes).map Record.line

end LogFilter

end Backstep
