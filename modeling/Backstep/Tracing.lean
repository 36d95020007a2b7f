/-!
# The tracing switch

Whether variables are traced is decided once, where the program starts, from the text of one
environment variable; nothing else in the library looks at the environment. The same switch
chooses which log records are shown unless the user asks for others.
-/

namespace Backstep

/-- Whether variables are traced. -/
structure Tracing where
  enabled : Bool
  deriving DecidableEq

namespace Tracing

/-- The environment variable that switches tracing on. -/
def variableName : String := "RIMP_DEBUG"

/-- Nothing is traced unless asked for. -/
def off : Tracing := ⟨false⟩

/-- Only the exact text `1` switches tracing on. -/
def ofValue (value : Option String) : Tracing := ⟨value == some "1"⟩

/-- The switch read from raw bytes. Bytes that are not UTF-8 count as an unset variable. -/
def ofBytes (bytes : Option ByteArray) : Tracing := ofValue (bytes.bind String.fromUTF8?)

/-- The filter that applies when the user sets none: the records of traced variables, or
warnings alone. -/
def defaultFilter (t : Tracing) : String := if t.enabled then "rimpvar=debug" else "warn"

@[simp] theorem enabled_ofValue (value : Option String) :
    (ofValue value).enabled ↔ value = some "1" := by simp [ofValue]

end Tracing

end Backstep
