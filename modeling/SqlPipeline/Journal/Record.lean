/-
Records of the journal.

* `Journal.Record` — an event with its level and its fields;
* `Journal.Record.line` — a record as a line: one JSON object, in which the event and its level
  come first and the fields follow in the order of their keys;
* `Journal.lines` — the lines that a threshold keeps.
-/

import SqlPipeline.Journal.Severity
import SqlPipeline.Json.Text

set_option autoImplicit false

namespace SqlPipeline.Journal

/-- The fields of a record: keys and texts. -/
abbrev Fields : Type :=
  List (String × String)

/-- A record of the journal. -/
structure Record where
  severity : Severity
  event : String
  fields : Fields
  deriving DecidableEq, Repr, Inhabited

/-- Whether a field may stand before another: by key, in the order of code points. -/
def fieldLe (a b : String × String) : Bool :=
  decide (a.1 ≤ b.1)

namespace Record

/-- The fields in the order of their keys; equal keys keep their order. -/
def orderedFields (r : Record) : Fields :=
  r.fields.mergeSort fieldLe

/-- A field in a line, with the comma before it. -/
def fieldText (f : String × String) : String :=
  "," ++ Json.quoted f.1 ++ ":" ++ Json.quoted f.2

/-- The record as a line, with the line break. -/
def line (r : Record) : String :=
  "\x7b\"event\":" ++ Json.quoted r.event ++ ",\"severity\":\"" ++ r.severity.name ++ "\""
    ++ String.join (r.orderedFields.map fieldText) ++ "\x7d\n"

end Record

/-- The records that a threshold keeps. -/
def kept (threshold : Severity) (rs : List Record) : List Record :=
  rs.filter fun r => threshold.isEnabled r.severity

def lines (threshold : Severity) (rs : List Record) : List String :=
  (kept threshold rs).map Record.line

end SqlPipeline.Journal
