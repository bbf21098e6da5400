/-
The layouts of the records that a query reads and gives.

* `Layout.ofTable` — the layout of a stored record.  Its first column is the key, which has no
  sign;
* `Layout.ofProjections` — the layout of an output record, with one column for each output column
  of the query.
-/

import SqlPipeline.Catalog.Table
import SqlPipeline.Fault
import SqlPipeline.Layout.Schema

set_option autoImplicit false

namespace SqlPipeline.Layout

open Query

/-! ### Stored records -/

/-- How the values of a declared type are stored. -/
def storage? (type : Catalog.DeclaredType) (signed : Bool) : Option Storage :=
  match type with
  | .int32 => Storage.integer? 4 signed
  | .int64 => Storage.integer? 8 signed
  | .other _ => none

/-- The layout with the column of a table that has the given number. -/
def addColumn (table : String) (s : Schema) (c : Catalog.Column × Nat) : Except Fault Schema :=
  match storage? c.1.type (c.2 != 0) with
  | some type => .ok (s.push c.1.name type)
  | none => .error (.types (.columnType c.1.name table c.1.type.name))

/-- The layout of a stored record. -/
def ofTable (t : Catalog.Table) : Except Fault Schema :=
  t.columns.zipIdx.foldlM (addColumn t.name) .empty

/-! ### Output records -/

/-- The column of a layout that must have it. -/
def Schema.columnAt (s : Schema) (n : Nat) : Except Fault Column :=
  match s.column? n with
  | some c => .ok c
  | none => .error (.internal (.columnOutside n))

def Schema.typeAt (s : Schema) (n : Nat) : Except Fault Storage := do
  return (← s.columnAt n).type

/-- How the value of an expression is stored: as a fraction, like its first column, or as an
integer. -/
def scalarType (stored : Schema) (e : Scalar) : Except Fault Storage :=
  if e.isFloat then .ok .double
  else
    match e.columns.head? with
    | some n => stored.typeAt n
    | none => .ok .int32

def aggregateType (stored : Schema) (call : AggregateCall) : Except Fault Storage :=
  match call.function with
  | .count => .ok .uint32
  | .sum => .ok .int64
  | .avg => .ok .float
  | f =>
    match call.column with
    | some n => stored.typeAt n
    | none => .error (.internal (.aggregateSource f))

/-- How the output column at the given position is stored, after the columns before it. -/
def kindType (stored output : Schema) (position : Nat) : Kind → Except Fault Storage
  | .column n => stored.typeAt n
  | .arithmetic e => scalarType stored e
  | .aggregate call => aggregateType stored call
  | .aliasOf target =>
    if target < position then
      match output.type? target with
      | some type => .ok type
      | none => .error (.internal .aliasTarget)
    else .error (.internal (.laterAlias position target))

def addProjection (stored output : Schema) (p : Projection × Nat) : Except Fault Schema := do
  return output.push p.1.name (← kindType stored output p.2 p.1.kind)

def ofProjections (stored : Schema) (ps : List Projection) : Except Fault Schema :=
  ps.zipIdx.foldlM (addProjection stored) .empty

end SqlPipeline.Layout
