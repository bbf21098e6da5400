/-
How groups are computed.

* `Plan.Descriptor` — a value of a group, with its place in the output record;
* `Plan.Grouping` — the test for groups, the values of a group, and which of them each output
  column and the condition on groups read;
* `Plan.Grouping.ofQuery` — the grouping of a query.

A value of a group is a function of the group, or the value of what records are grouped by.
-/

import SqlPipeline.Layout.OfQuery
import SqlPipeline.Plan.FormulaOf
import SqlPipeline.Query.Basic

set_option autoImplicit false

namespace SqlPipeline.Plan

open Layout Query

/-- What a value of a group is. -/
inductive ValueKind where
  | aggregate (f : Aggregate)
  /-- The value of what records are grouped by. -/
  | groupValue
  deriving DecidableEq, Repr, Inhabited

def ValueKind.name : ValueKind → String
  | aggregate f => f.name
  | groupValue => "group"

/-- A value of a group. -/
structure Descriptor where
  kind : ValueKind
  /-- The column that it is computed from. -/
  sourceColumn : Option Nat
  sourceType : Option Storage
  /-- Its place in the output record. -/
  output : Column
  /-- The variable that holds it in the generated program. -/
  holder : String
  /-- The routine that computes it. -/
  compute : Option String := none
  deriving DecidableEq, Repr, Inhabited

/-- How groups are computed. -/
structure Grouping where
  /-- When two records belong to one group. -/
  test : GroupTest
  descriptors : List Descriptor
  schema : Schema
  /-- The number of the value that each output column reads. -/
  projectionColumns : List Nat
  /-- The number of the value that the condition on groups reads. -/
  havingColumn : Option Nat
  deriving DecidableEq, BEq, Repr, Inhabited

/-! ### What records are grouped by -/

/-- What records are grouped by: the expression, its formula, and the stored column of the
formula. -/
structure GroupKey where
  scalar : Scalar
  formula : Formula
  column : Nat
  deriving DecidableEq, BEq, Repr, Inhabited

/-- What the records of a query are grouped by, if they are.  It must have a column. -/
def groupKey? (q : Resolved) : Collecting (Option GroupKey) := do
  match q.groupBy.head? with
  | none => return none
  | some e =>
    let f ← formulaOf e
    match f.column? with
    | some n => return some ⟨e, f, n⟩
    | none => throw (.shape .constantGroup)

def groupTest (stored : Schema) : Option GroupKey → Except Fault GroupTest
  | none => .ok .always
  | some k => do
    let c ← stored.columnAt k.column
    return .expression k.formula c.type c.offset

/-! ### Values of a group -/

/-- The beginning of the name of a variable that holds a function of the group. -/
def holderStem : Aggregate → String
  | .min => "min"
  | .max => "max"
  | .count => "counter"
  | .sum => "sum"
  | .avg => "avg"

/-- How a function of the group is stored, given the type of its column.  Only records are counted
without a column. -/
def outputType (f : Aggregate) (source : Option Storage) : Except Fault Storage :=
  match f, source with
  | .count, _ => .ok .uint32
  | f, none => .error (.internal (.descriptorSource f))
  | .sum, some _ => .ok .int64
  | .avg, some _ => .ok .float
  | _, some type => .ok type

/-- The column that a value of the group gets at the end of a layout. -/
def lastColumn (schema : Schema) (name : String) (type : Storage) : Except Fault Column :=
  let (longer, position) := schema.append name type
  match longer.column? position with
  | some c => .ok c
  | none => .error (.internal .lostColumn)

/-- The column that was put at the end is there. -/
@[simp] theorem lastColumn_eq (schema : Schema) (name : String) (type : Storage) :
    lastColumn schema name type = .ok (schema.next name type) := by
  simp [lastColumn]

/-- The function of the group as the value with the given number, at the end of a layout. -/
def aggregateDescriptor (stored : Schema) (call : AggregateCall) (name : String) (index : Nat)
    (schema : Schema) : Except Fault Descriptor := do
  let sourceType ← call.column.mapM stored.typeAt
  let type ← outputType call.function sourceType
  let output ← lastColumn schema name type
  return {
    kind := .aggregate call.function
    sourceColumn := call.column
    sourceType
    output
    holder := holderStem call.function ++ toString index }

/-- How the value of what records are grouped by is stored: with a fraction if it has one, in as
many bytes as its column. -/
def groupValueType (k : GroupKey) (source : Column) : Except Fault Storage :=
  if k.formula.isFloat then
    match Storage.floating? source.size with
    | some type => .ok type
    | none => .error (.internal (.floatWidth source.size))
  else .ok source.type

/-- The value of what records are grouped by as the value with the given number, at the end of a
layout.  It must be the given expression. -/
def groupDescriptor (stored : Schema) (key : Option GroupKey) (e : Scalar) (name : String)
    (index : Nat) (schema : Schema) : Collecting Descriptor := do
  match key.filter fun k => k.scalar == e with
  | none => throw (.shape (.ungroupedColumn name))
  | some k =>
    let source ← stored.columnAt k.column
    let type ← groupValueType k source
    let compute := "customAggregateFunc" ++ toString index
    need (.groupValue compute k.formula source.type source.offset type)
    let output ← lastColumn schema name type
    return {
      kind := .groupValue
      sourceColumn := some k.column
      sourceType := some source.type
      output
      holder := "group" ++ toString index
      compute := some compute }

/-- What an output column computes as the value with the given number, at the end of a layout. -/
def descriptorOf (stored : Schema) (key : Option GroupKey) (kind : Kind) (name : String)
    (index : Nat) (schema : Schema) : Collecting Descriptor :=
  match kind with
  | .aggregate call => aggregateDescriptor stored call name index schema
  | .column n => groupDescriptor stored key (.column n) name index schema
  | .arithmetic e => groupDescriptor stored key e name index schema
  | .aliasOf _ => throw (.internal .aliasDescriptor)

/-! ### Planning -/

/-- The values of a group so far. -/
structure GroupDraft where
  descriptors : List Descriptor := []
  /-- What each of them computes. -/
  kinds : List Kind := []
  schema : Schema := .empty
  /-- The number of the value that each output column reads. -/
  columns : List Nat := []
  deriving Repr, Inhabited

def GroupDraft.push (d : GroupDraft) (kind : Kind) (x : Descriptor) : GroupDraft :=
  { d with
    descriptors := d.descriptors ++ [x]
    kinds := d.kinds ++ [kind]
    schema := d.schema.push x.output.name x.output.type }

/-- The values of a group with that of one more output column.  An alias reads the value of its
target. -/
def GroupDraft.add (stored : Schema) (key : Option GroupKey) (d : GroupDraft) (p : Projection) :
    Collecting GroupDraft := do
  match p.kind with
  | .aliasOf target =>
    match d.columns[target]? with
    | some index => return { d with columns := d.columns ++ [index] }
    | none => throw (.internal (.unknownAlias target))
  | kind =>
    let index := d.descriptors.length
    let x ← descriptorOf stored key kind p.name index d.schema
    let d := d.push kind x
    return { d with columns := d.columns ++ [index] }

/-- The side of a condition on groups that is a value of the group. -/
def havingKind : HavingTerm → Except Fault Kind
  | .comparison _ (.projected kind) _ => .ok kind
  | .comparison _ _ (.projected kind) => .ok kind
  | .comparison _ _ _ => .error (.shape .havingOperands)
  | .unsupported text => .error (.shape (.havingForm text))

/-- The number of the value that a condition on groups reads, which is added if no output column
reads it. -/
def GroupDraft.addHaving (stored : Schema) (key : Option GroupKey) (d : GroupDraft)
    (h : HavingTerm) : Collecting (GroupDraft × Nat) := do
  let kind ← havingKind h
  match d.kinds.findIdx? (· == kind) with
  | some index => return (d, index)
  | none =>
    let index := d.descriptors.length
    let x ← descriptorOf stored key kind "having" index d.schema
    return (d.push kind x, index)

/-- The layout of the output columns, each with the type of the value that it reads. -/
def retyped (schema output : Schema) (columns : List Nat) : Schema :=
  columns.zipIdx.foldl (fun out (index, i) =>
    match schema.type? index with
    | some type => out.retype i type
    | none => out) output

/-- How the groups of a query are computed, and the layout of its output columns. -/
def Grouping.ofQuery (q : Resolved) (stored output : Schema) : Collecting (Grouping × Schema) := do
  if 1 < q.groupBy.length then throw (.shape .severalGroupings)
  if 1 < q.having.length then throw (.shape .severalHavings)
  let key ← groupKey? q
  let test ← groupTest stored key
  need (.groupTest test)
  let d ← q.projections.foldlM (GroupDraft.add stored key) {}
  let (d, havingColumn) ←
    match q.having.head? with
    | none => pure (d, none)
    | some h =>
      let (d, index) ← d.addHaving stored key h
      pure (d, some index)
  let grouping : Grouping := {
    test
    descriptors := d.descriptors
    schema := d.schema
    projectionColumns := d.columns
    havingColumn }
  return (grouping, retyped d.schema output d.columns)

end SqlPipeline.Plan
