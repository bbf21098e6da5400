/-
The events that the catalog and the compiler record, and the records of a span of work.

* `Journal.Event` — the events, each with its name and its level;
* `Journal.Span` — a piece of work that is recorded when it begins and when it ends;
* `Journal.Span.enclose` — work within a span.  A span that the work leaves open is recorded too.
-/

import SqlPipeline.Journal.Logged

set_option autoImplicit false

namespace SqlPipeline.Journal

/-- The events that the catalog and the compiler record. -/
inductive Event where
  | compileBegin
  | compileComplete
  | compileRejected
  | boundOverwritten
  | filterDemoted
  | ddlApplied
  | ddlRejected
  | configLoaded
  deriving DecidableEq, Repr, Inhabited

namespace Event

def name : Event → String
  | compileBegin => "COMPILE_BEGIN"
  | compileComplete => "COMPILE_COMPLETE"
  | compileRejected => "COMPILE_REJECTED"
  | boundOverwritten => "BOUND_OVERWRITTEN"
  | filterDemoted => "FILTER_DEMOTED"
  | ddlApplied => "DDL_APPLIED"
  | ddlRejected => "DDL_REJECTED"
  | configLoaded => "CONFIG_LOADED"

/-- How much an event matters. -/
def severity : Event → Severity
  | boundOverwritten => .warn
  | compileRejected => .warn
  | ddlRejected => .warn
  | filterDemoted => .trace
  | _ => .info

def record (e : Event) (fields : Fields) : Record :=
  ⟨e.severity, e.name, fields⟩

end Event

/-- A piece of work that is recorded when it begins and when it ends. -/
structure Span where
  name : String
  /-- The details that its records share. -/
  fields : Fields := []
  /-- Whether the end of the work is recorded. -/
  closed : Bool := false
  deriving DecidableEq, Repr, Inhabited

namespace Span

/-- The work begins. -/
def begun (s : Span) : Record :=
  ⟨.trace, s.name ++ "_BEGIN", s.fields⟩

/-- The work ends well, with further details. -/
def completed (s : Span) (extra : Fields) : Record :=
  ⟨.info, s.name ++ "_COMPLETE", s.fields ++ extra⟩

def failed (s : Span) (code reason : String) : Record :=
  ⟨.warn, s.name ++ "_ERROR", s.fields ++ [("code", code), ("reason", reason)]⟩

/-- The work is given up without an end. -/
def abandoned (s : Span) : Record :=
  ⟨.warn, s.name ++ "_INCOMPLETE", [("reason", "scope dropped without completion")]⟩

def close (s : Span) (r : Record) : Logged Span := do
  note r
  return { s with closed := true }

/-- Work within a span.  If it leaves the span open, it was given up. -/
def enclose {α : Type} (s : Span) (work : Span → Logged (α × Span)) : Logged α := do
  note s.begun
  let (a, s) ← work s
  if !s.closed then note s.abandoned
  return a

/-- Work that closes its span is not recorded as given up. -/
theorem enclose_of_closed {α : Type} {s : Span} {work : Span → Logged (α × Span)}
    (h : (work s).value.2.closed = true) :
    s.enclose work = ⟨(work s).value.1, s.begun :: (work s).records⟩ := by
  show (⟨_, _⟩ : Logged α) = _
  simp [h, note]

end Span

end SqlPipeline.Journal
