import Backstep.Event

/-!
# Sinks

A sink is what a traced variable reports its events to. The variable uses nothing of it but
`record`, so a sink can add to a trace and never change what the variable does. Two sinks keep
what they are told: a trace log keeps the lines of the events, a journal their records.
-/

namespace Backstep

/-- A type that takes events, one at a time. -/
class Sink (σ : Type) where
  /-- The sink after an event. -/
  record : σ → Event → σ

/-! ## Trace logs -/

/-- The lines of the recorded events, oldest first. -/
structure Trace where
  entries : Array String
  deriving DecidableEq

namespace Trace

def empty : Trace := ⟨#[]⟩

def lines (log : Trace) : List String := log.entries.toList

def size (log : Trace) : Nat := log.entries.size

def isEmpty (log : Trace) : Bool := log.entries.isEmpty

def add (log : Trace) (e : Event) : Trace := ⟨log.entries.push e.line⟩

instance : Sink Trace := ⟨add⟩

variable (log : Trace) (e : Event)

@[simp] theorem lines_empty : empty.lines = [] := rfl

@[simp] theorem lines_record : (Sink.record log e).lines = log.lines ++ [e.line] :=
  Array.toList_push

@[simp] theorem length_lines : log.lines.length = log.size := Array.length_toList

theorem isEmpty_iff : log.isEmpty ↔ log.lines = [] := by
  simp [isEmpty, lines]

end Trace

/-! ## Journals -/

/-- The records of the events, oldest first. -/
structure Journal where
  entries : Array Record
  deriving DecidableEq

namespace Journal

def empty : Journal := ⟨#[]⟩

def records (journal : Journal) : List Record := journal.entries.toList

def add (journal : Journal) (e : Event) : Journal := ⟨journal.entries.push (.ofEvent e)⟩

instance : Sink Journal := ⟨add⟩

@[simp] theorem records_record (journal : Journal) (e : Event) :
    (Sink.record journal e).records = journal.records ++ [.ofEvent e] :=
  Array.toList_push

end Journal

end Backstep
