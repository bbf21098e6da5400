/-
The output columns of a query.

* `Query.addProjection` — one more output column: a repeated one becomes an alias of the first, and
  each gets a name that no other has;
* `Query.Scope.projections` — the output columns that the items of a query give;
* `Query.byAlias?` — what the output column of a given name computes.
-/

import SqlPipeline.Query.Names
import SqlPipeline.Query.Scope
import SqlPipeline.Sql.Statement
import SqlPipeline.Text.Fresh

set_option autoImplicit false

namespace SqlPipeline.Query

open Sql

/-- The output columns with one more.  If an earlier one computes the same, it is an alias of
that. -/
def addProjection (ps : List Projection) (kind : Kind) (name : String) (label : Option String) :
    List Projection :=
  let kind :=
    match ps.findIdx? fun p => p.kind == kind && !p.kind.isAlias with
    | some earlier => .aliasOf earlier
    | none => kind
  ps ++ [{ name := Text.fresh (ps.map Projection.name) (identifier name), label, kind }]

namespace Scope

def columnName (s : Scope) (n : Nat) : String :=
  (s.table.columns[n]?.map Catalog.Column.name).getD ""

/-- The name of an output column that is given none, at the given position. -/
def defaultName (s : Scope) (kind : Kind) (position : Nat) : String :=
  match kind with
  | .column n => s.columnName n
  | .aggregate ⟨.count, _⟩ => Aggregate.name .count
  | .aggregate ⟨f, some n⟩ => f.name ++ "_" ++ s.columnName n
  | .aggregate ⟨f, none⟩ => f.name
  | _ => "expr" ++ toString position

/-- What an expression computes as an output column. -/
def kind (s : Scope) (e : Expr) : Except Fault Kind := do
  if let some n ← s.column? e then return .column n
  if let some call ← s.aggregate? e then return .aggregate call
  return .arithmetic (← s.scalar e)

/-- The output columns with those of one more item.  A star gives every column. -/
def addItem (s : Scope) (ps : List Projection) : SelectItem → Except Fault (List Projection)
  | .star _ =>
    return s.table.columns.zipIdx.foldl
      (fun ps (c, i) => addProjection ps (.column i) c.name none) ps
  | .expr e label => do
    let kind ← s.kind e
    let label := label.map Ident.value
    return addProjection ps kind (label.getD (s.defaultName kind ps.length)) label

def projections (s : Scope) (items : List SelectItem) : Except Fault (List Projection) :=
  items.foldlM s.addItem []

end Scope

/-- What a kind stands for, after at most `fuel` aliases. -/
def followAlias (ps : List Projection) : Nat → Kind → Option Kind
  | 0, .aliasOf _ => none
  | fuel + 1, .aliasOf target => ps[target]?.bind fun p => followAlias ps fuel p.kind
  | _, kind => some kind

/-- What the first output column that answers to a name computes. -/
def byAlias? (ps : List Projection) (name : String) : Option Kind :=
  (ps.find? fun p => p.answersTo name).bind fun p => followAlias ps ps.length p.kind

end SqlPipeline.Query
