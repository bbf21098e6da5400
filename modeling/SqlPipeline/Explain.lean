/-
Explanations: what a program does, or why there is none, for people to read.

* `Explanation` — the summary of a program, or the cause of a refusal;
* `Explanation.ofProgram`, `Explanation.ofFault`;
* `Explanation.text`, `Explanation.fields` — an explanation as lines, and as the members of an
  object.
-/

import SqlPipeline.Json.Pretty
import SqlPipeline.Plan.Step

set_option autoImplicit false

namespace SqlPipeline

open Layout Plan

/-- The summary of a program. -/
structure Summary where
  table : String
  keyBounds : Option String
  /-- The bounds on the indexed column. -/
  dataBounds : Option String
  filters : List String
  /-- What records are grouped by. -/
  group : Option String
  /-- The values of a group. -/
  aggregates : List String
  having : Option String
  output : List String
  routines : List String
  /-- The last operator. -/
  root : String
  deriving DecidableEq, Repr, Inhabited

/-- What a program does, or why there is none. -/
inductive Explanation where
  | accepted (s : Summary)
  | rejected (code reason : String)
  deriving DecidableEq, Repr, Inhabited

/-! ### Summaries -/

/-- The layout that a step scans, if it is a scan. -/
def scanned? : Step → Option Schema
  | .scan schema _ => some schema
  | _ => none

/-- The name of a column of the scanned records. -/
def storedName (p : Program) (n : Nat) : String :=
  match (p.steps.findSome? scanned?).bind (·.column? n) with
  | some c => c.name
  | none => "col" ++ toString n

def boundText (name : String) (b : Bound) : String :=
  match b.min, b.max with
  | some min, some max => toString min ++ " <= " ++ name ++ " <= " ++ toString max
  | some min, none => name ++ " >= " ++ toString min
  | none, some max => name ++ " <= " ++ toString max
  | none, none => name ++ " unbounded"

/-- A comparison of a named value with a text. -/
def comparisonText (name : String) (op : Comparator) (value : String) : String :=
  name ++ " " ++ op.symbol ++ " " ++ value

def groupText : GroupTest → String
  | .always => "single group"
  | .expression e _ _ => e.text

/-- The column that a value of a group is computed from; counting needs none. -/
def sourceName (p : Program) (d : Descriptor) : String :=
  match d.kind, d.sourceColumn with
  | .aggregate .count, _ => "*"
  | _, some n => storedName p n
  | _, none => "*"

def valueText (p : Program) (d : Descriptor) : String :=
  d.output.name ++ " = " ++ d.kind.name ++ "(" ++ sourceName p d ++ ") -> " ++ d.output.type.name

def havingText (h : HavingFilter) (g : Grouping) : String :=
  let name :=
    match g.schema.column? h.column with
    | some c => c.name
    | none => "col" ++ toString h.column
  comparisonText name h.op h.literal.shown

def summary (p : Program) : Summary where
  table := p.table
  keyBounds := p.access.keyColumn.map fun n => boundText (storedName p n) p.access.key
  dataBounds := p.access.secondaryColumn.map fun n => boundText (storedName p n) p.access.secondary
  filters := p.access.filters.map fun f =>
    comparisonText (storedName p f.column) f.op (toString f.value)
  group := p.grouping.map fun g => groupText g.test
  aggregates := (p.grouping.map fun g => g.descriptors.map (valueText p)).getD []
  having :=
    match p.having, p.grouping with
    | some h, some g => some (havingText h g)
    | _, _ => none
  output := p.output.map fun c => c.name ++ " " ++ c.type.name
  routines := p.routines.names
  root := p.root

namespace Explanation

def ofProgram (p : Program) : Explanation :=
  accepted (summary p)

def ofFault (f : Fault) : Explanation :=
  rejected f.code f.message

/-- The explanation of a program or of a refusal. -/
def ofResult : Except Fault Program → Explanation
  | .ok p => ofProgram p
  | .error f => ofFault f

/-! ### Lines -/

/-- The lines of a list, if it is not empty. -/
def listed (head : String) (items : List String) : List String :=
  if items.isEmpty then [] else head :: items.map ("  - " ++ ·)

def summaryLines (s : Summary) : List String :=
  ["Status: ACCEPTED", "Table: " ++ s.table,
   "Key Bounds: " ++ s.keyBounds.getD "none", "Data Bounds: " ++ s.dataBounds.getD "none"]
    ++ listed "Filters:" s.filters
    ++ (match s.group with
      | some group => ("Group: " ++ group) :: "Aggregates:" :: s.aggregates.map ("  - " ++ ·)
      | none => [])
    ++ (s.having.map ("Having: " ++ ·)).toList
    ++ "Output:" :: s.output.map ("  - " ++ ·)
    ++ (if s.routines.isEmpty then [] else ["Helpers: " ++ ", ".intercalate s.routines])
    ++ ["Root: " ++ s.root]

/-- The lines of an explanation after its head. -/
def lines : Explanation → List String
  | accepted s => summaryLines s
  | rejected code reason => ["Status: REJECTED", "Error Code: " ++ code, "Reason: " ++ reason]

def text (e : Explanation) : String :=
  String.join (("=== EXPLAIN PLAN ===" :: e.lines).map (· ++ "\n"))

/-! ### Members -/

/-- The members of an explanation as an object. -/
def fields : Explanation → List (String × Json.Field)
  | accepted s =>
    [("accepted", .bool true), ("table", .text s.table),
     ("key_bounds", .optional s.keyBounds), ("data_bounds", .optional s.dataBounds),
     ("filters", .texts s.filters), ("group", .optional s.group),
     ("aggregates", .texts s.aggregates), ("having", .optional s.having),
     ("output", .texts s.output), ("helpers", .texts s.routines), ("root", .text s.root),
     ("rejection_reason", .null), ("rejection_code", .null)]
  | rejected code reason =>
    [("accepted", .bool false), ("table", .null), ("key_bounds", .null), ("data_bounds", .null),
     ("filters", .texts []), ("group", .null), ("aggregates", .texts []), ("having", .null),
     ("output", .texts []), ("helpers", .texts []), ("root", .null),
     ("rejection_reason", .text reason), ("rejection_code", .text code)]

end Explanation

end SqlPipeline
