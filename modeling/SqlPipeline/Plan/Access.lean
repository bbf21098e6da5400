/-
How the records of a query are reached: bounds on the key and on one indexed column, and filters
for the rest.

* `Plan.Bound` — the least and the greatest value, both inclusive;
* `Plan.Filter` — a comparison that is made record by record;
* `Plan.Access` — the bounds and the filters of a query;
* `Plan.Access.ofQuery` — the access for the conditions of a query.

Comparisons on the primary key bound the key.  Of the other indexed columns the first that is
compared by anything but `!=` bounds the data.  All other comparisons are filters.  A later bound
on the same side replaces an earlier one.
-/

import SqlPipeline.Fault
import SqlPipeline.Journal.Event
import SqlPipeline.Journal.Logged
import SqlPipeline.Query.Basic

set_option autoImplicit false

namespace SqlPipeline.Plan

open Journal Query

/-- The least and the greatest value, both inclusive. -/
structure Bound where
  min : Option Int := none
  max : Option Int := none
  deriving DecidableEq, Repr, Inhabited

/-- A comparison of a column with an integer. -/
structure Filter where
  column : Nat
  /-- The comparison, with the column on its left. -/
  op : Comparator
  value : Int
  deriving DecidableEq, Repr, Inhabited

/-- The bounds and the filters of a query. -/
structure Access where
  /-- The primary key, if it is bounded. -/
  keyColumn : Option Nat := none
  key : Bound := {}
  /-- The indexed column that bounds the data. -/
  secondaryColumn : Option Nat := none
  secondary : Bound := {}
  /-- The filters, in the order in which they are applied. -/
  filters : List Filter := []
  deriving DecidableEq, Repr, Inhabited

/-! ### Bounds -/

/-- Whether an integer can be stored in 64 bits with a sign. -/
def isWord (v : Int) : Bool :=
  -9223372036854775808 ≤ v && v < 9223372036854775808

/-- An integer that must fit in 64 bits, for the bound that a filter gives. -/
def Filter.inWord (f : Filter) (v : Int) : Except Fault Int :=
  if isWord v then .ok v else .error (.types (.boundOverflow f.op f.value))

/-- The inclusive bound that a filter gives; `!=` gives none. -/
def Filter.bound? (f : Filter) : Except Fault (Option Bound) :=
  match f.op with
  | .ge => return some { min := some f.value }
  | .gt => return some { min := some (← f.inWord (f.value + 1)) }
  | .le => return some { max := some f.value }
  | .lt => return some { max := some (← f.inWord (f.value - 1)) }
  | .eq => return some { min := some f.value, max := some f.value }
  | .ne => return none

/-- The bound on a key, which is never negative: a lower bound is raised to zero, and an upper
bound below zero is refused. -/
def Filter.keyBound (f : Filter) (b : Bound) : Except Fault Bound :=
  if b.max.any (· < 0) then .error (.types (.negativeKey f.op f.value))
  else .ok { b with min := b.min.map (max 0) }

/-- The bound after a later one: each side that the later one has replaces the earlier. -/
def Bound.replace (earlier later : Bound) : Bound :=
  ⟨later.min.or earlier.min, later.max.or earlier.max⟩

/-! ### Records of the work -/

/-- The record of a comparison that an index could have served and does not. -/
def Filter.demoted (f : Filter) : Record :=
  Event.filterDemoted.record
    [("column", toString f.column), ("op", f.op.symbol), ("value", toString f.value)]

/-- The record of a bound that replaces a different one, if it does. -/
def overwritten (f : Filter) (index side : String) (earlier later : Option Int) : List Record :=
  match earlier, later with
  | some previous, some value =>
    if previous = value then []
    else
      [Event.boundOverwritten.record
        [("column", toString f.column), ("index", index), ("side", side),
         ("previous", toString previous), ("value", toString value)]]
  | _, _ => []

/-- The records of a bound that replaces another. -/
def replaced (f : Filter) (index : String) (earlier later : Bound) : List Record :=
  overwritten f index "min" earlier.min later.min
    ++ overwritten f index "max" earlier.max later.max

/-! ### Classification -/

/-- A comparison with an integer; other literals are refused. -/
def Filter.ofComparison (c : Comparison) : Except Fault Filter :=
  match c.literal.integer? with
  | some v => .ok ⟨c.column, c.op, v⟩
  | none => .error (.types (.comparedValue c.literal))

def hintAt (hints : List Catalog.Hint) (column : Nat) : Catalog.Hint :=
  hints[column]?.getD .none

/-- The comparisons on indexed columns, in the order of the columns. -/
def candidates (hints : List Catalog.Hint) (fs : List Filter) : List Filter :=
  (fs.filter fun f => (hintAt hints f.column).isIndexed).mergeSort
    fun a b => decide (a.column ≤ b.column)

/-- Whether a comparison can bound the data. -/
def boundsData (hints : List Catalog.Hint) (f : Filter) : Bool :=
  match hintAt hints f.column with
  | .secondary _ => f.op != .ne
  | _ => false

/-- The access with one more filter, for a comparison that an index could have served. -/
def Access.demote (a : Access) (f : Filter) : Attempt Fault Access := do
  note f.demoted
  return { a with filters := a.filters ++ [f] }

/-- The access after a comparison on an indexed column. -/
def Access.add (hints : List Catalog.Hint) (a : Access) (f : Filter) : Attempt Fault Access := do
  let isKey := hintAt hints f.column = .primaryKey
  if !isKey && a.secondaryColumn ≠ some f.column then a.demote f
  else
    match ← f.bound? with
    | none => a.demote f
    | some b =>
      if isKey then
        let b ← f.keyBound b
        (⟨(), replaced f "key" a.key b⟩ : Logged Unit)
        return { a with keyColumn := some f.column, key := a.key.replace b }
      else
        (⟨(), replaced f "data" a.secondary b⟩ : Logged Unit)
        return { a with secondary := a.secondary.replace b }

/-- The access for comparisons with integers. -/
def Access.ofFilters (hints : List Catalog.Hint) (fs : List Filter) : Attempt Fault Access := do
  let cs := candidates hints fs
  let start : Access := {
    secondaryColumn := (cs.find? (boundsData hints)).map Filter.column
    filters := fs.filter fun f => !(hintAt hints f.column).isIndexed }
  let a ← cs.foldlM (Access.add hints) start
  return { a with filters := a.filters.eraseDups }

/-- The access for the conditions of a query, which must be over one table. -/
def Access.ofQuery (q : Resolved) : Attempt Fault Access := do
  if q.tables.length ≠ 1 then throw (.shape (.tableCount q.tables.length))
  if q.outerJoin then throw (.shape .outerJoin)
  let fs ← (q.predicates.mapM Filter.ofComparison : Except Fault (List Filter))
  Access.ofFilters q.hints fs

end SqlPipeline.Plan
