/-
How much a record of the journal matters.

* `Journal.Severity` — the four levels, in rising order;
* `Journal.Severity.ofName?` — a level by its name, whatever the case of its letters;
* `Journal.Severity.isEnabled` — whether a record of one level is kept at another.
-/

import SqlPipeline.Text.Case

set_option autoImplicit false

namespace SqlPipeline.Journal

/-- How much a record matters. -/
inductive Severity where
  | trace
  | info
  | warn
  | error
  deriving DecidableEq, Repr, Inhabited

namespace Severity

def all : List Severity :=
  [trace, info, warn, error]

/-- The place of a level in the order. -/
def rank : Severity → Nat
  | trace => 0
  | info => 1
  | warn => 2
  | error => 3

def name : Severity → String
  | trace => "TRACE"
  | info => "INFO"
  | warn => "WARN"
  | error => "ERROR"

/-- The level of the given name, whatever the case of its letters. -/
def ofName? (s : String) : Option Severity :=
  match Text.lower s with
  | "trace" => some trace
  | "info" => some info
  | "warn" => some warn
  | "warning" => some warn
  | "error" => some error
  | _ => none

def unknownMessage (s : String) : String :=
  "unknown log level '" ++ Text.lower s ++ "'"

/-- Whether a record of level `s` is kept when the threshold is `threshold`. -/
def isEnabled (threshold s : Severity) : Bool :=
  threshold.rank ≤ s.rank

end Severity

end SqlPipeline.Journal
