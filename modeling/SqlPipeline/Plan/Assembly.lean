/-
Assembling a program from its parts.

* `Plan.NameSupply` — the variable names in use;
* `Plan.Assembly` — the steps so far, with the variables that are to be freed;
* `Plan.Assembly.scan`, `Plan.Assembly.selections`, `Plan.Assembly.aggregate`,
  `Plan.Assembly.having` — one more operator on top;
* `Plan.Assembly.finish` — the program.
-/

import SqlPipeline.Plan.Step
import SqlPipeline.Text.Fresh

set_option autoImplicit false

namespace SqlPipeline.Plan

open Layout Query

/-! ### Variable names -/

/-- The names that the generated procedures have for themselves. -/
def fixedNames : List String :=
  ["state", "allocatedValues", "minKey", "maxKey", "minData", "maxData", "it", "numCols",
   "colSizes", "colSignedness", "schema", "scanOp", "aggFuncs", "aggOp", "havingValue", "havingOp",
   "groupFunction"]

/-- The variable names in use. -/
structure NameSupply where
  used : List String := fixedNames
  deriving DecidableEq, Repr, Inhabited

/-- A name that is not in use, and the names in use with it. -/
def NameSupply.fresh (n : NameSupply) (base : String) : String × NameSupply :=
  let name := Text.fresh n.used base
  (name, ⟨name :: n.used⟩)

/-- Names for several bases, one after the other. -/
def NameSupply.freshAll (n : NameSupply) : List String → List String
  | [] => []
  | base :: bases =>
    let (name, n) := n.fresh base
    name :: n.freshAll bases

/-! ### Operators -/

/-- A program that is being assembled. -/
structure Assembly where
  table : String
  /-- The layout of its records. -/
  stored : Schema
  names : NameSupply := {}
  steps : List Step := []
  /-- The variables that are to be freed at the end. -/
  allocations : List String := []
  /-- The variables that are freed during the construction. -/
  transient : List String := []
  /-- The variable that holds the last operator. -/
  top : String := ""
  deriving Repr, Inhabited

namespace Assembly

/-- One more step that stores a literal in a variable. -/
def literal (a : Assembly) (name : String) (storage : Storage) (value : Literal) : Assembly :=
  { a with
    steps := a.steps ++ [.literal name storage value]
    allocations := a.allocations ++ [name] }

/-- A bound in a variable of the given name, if there is a bound. -/
def bound (a : Assembly) (name : String) (storage : Option Storage) (value : Option Int) :
    Except Fault (Assembly × Option String) :=
  match value with
  | none => .ok (a, none)
  | some v =>
    match storage with
    | some storage => .ok (a.literal name storage (.integer v), some name)
    | none => .error (.internal (.unboundedColumn name))

/-- The bounds, the iterator and the scan. -/
def scan (a : Assembly) (access : Access) : Except Fault Assembly := do
  let keyType ← access.keyColumn.mapM a.stored.typeAt
  let dataType ← access.secondaryColumn.mapM a.stored.typeAt
  let (a, minKey) ← a.bound "minKey" keyType access.key.min
  let (a, maxKey) ← a.bound "maxKey" keyType access.key.max
  let (a, minData) ← a.bound "minData" dataType access.secondary.min
  let (a, maxData) ← a.bound "maxData" dataType access.secondary.max
  return { a with
    steps := a.steps ++ [.iterator minKey maxKey minData maxData, .scan a.stored "scanOp"]
    allocations := a.allocations ++ ["it"]
    top := "scanOp" }

def selection (a : Assembly) (f : Filter) : Except Fault Assembly :=
  match a.stored.column? f.column with
  | none => .error (.internal (.filterColumn f.column))
  | some c =>
    let suffix := f.op.suffix ++ c.name
    let (value, names) := a.names.fresh ("selVal" ++ suffix)
    let (name, names) := names.fresh ("select" ++ suffix)
    let a := a.literal value c.type (.integer f.value)
    .ok { a with
      names
      steps := a.steps ++ [.selection name a.top f.column f.op value]
      top := name }

def selections (a : Assembly) (fs : List Filter) : Except Fault Assembly :=
  fs.foldlM selection a

def aggregate (a : Assembly) (g : Grouping) : Assembly :=
  { a with
    transient := a.transient ++ g.descriptors.map Descriptor.holder
    allocations := a.allocations ++ ["aggFuncs"]
    steps := a.steps ++ [.aggregate a.top g.descriptors "aggFuncs" "aggOp"]
    top := "aggOp" }

def having (a : Assembly) (h : HavingFilter) : Assembly :=
  let b := a.literal "havingValue" h.storage h.literal
  { b with
    steps := b.steps ++ [.having "havingOp" a.top h.column h.op "havingValue"]
    top := "havingOp" }

end Assembly

/-! ### What is printed -/

/-- The printed columns of groups, each with the value that it reads. -/
def groupedOutput (output : Schema) (g : Grouping) : Except Fault (List OutputColumn) :=
  (output.columns.zip g.projectionColumns).mapM fun (c, index) =>
    match g.schema.column? index with
    | some source =>
      .ok { name := c.name, pointer := some (source.type, source.offset), type := source.type }
    | none => .error (.internal (.descriptorOutput index))

def formulaOutput (stored : Schema) (name : String) (type : Storage) (e : Scalar) :
    Collecting OutputColumn := do
  let f ← formulaOf e
  let source ← (f.column?.mapM stored.columnAt : Except Fault (Option Column))
  return { name, pointer := source.map fun c => (c.type, c.offset), type, formula := some f }

/-- What an output column computes, where an alias computes what its target does. -/
def targetKind (ps : List Projection) : Kind → Except Fault Kind
  | .aliasOf target =>
    match ps[target]? with
    | some p => .ok p.kind
    | none => .error (.internal (.unknownAlias target))
  | kind => .ok kind

/-- The printed column of an output column at the given position. -/
def scanColumn (ps : List Projection) (stored output : Schema) (p : Projection × Nat) :
    Collecting OutputColumn := do
  match output.type? p.2 with
  | none => throw (.internal (.projectionOutput p.2))
  | some type =>
    match ← targetKind ps p.1.kind with
    | .column n =>
      let c ← stored.columnAt n
      return { name := p.1.name, pointer := some (c.type, c.offset), type }
    | .arithmetic e => formulaOutput stored p.1.name type e
    | _ => throw (.internal (.aggregateOutput p.1.name))

def scanOutput (ps : List Projection) (stored output : Schema) : Collecting (List OutputColumn) :=
  ps.zipIdx.mapM (scanColumn ps stored output)

/-! ### The program -/

/-- The parts of a program beside its steps. -/
structure Parts where
  projections : List Projection
  output : Schema
  /-- How the records are reached. -/
  access : Access
  grouping : Option Grouping := none
  having : Option HavingFilter := none
  deriving Repr, Inhabited

/-- The program, with the routines that its output needs. -/
def Assembly.finish (a : Assembly) (parts : Parts) : Collecting Program := do
  let output ←
    match parts.grouping with
    | some g => groupedOutput parts.output g
    | none => scanOutput parts.projections a.stored parts.output
  return {
    table := a.table
    steps := a.steps
    root := a.top
    allocations := a.allocations
    transient := a.transient
    routines := ← get
    output
    access := parts.access
    grouping := parts.grouping
    having := parts.having }

end SqlPipeline.Plan
