/-
The program of a query.

* `Plan.assemble` — the program for a query whose records are reached in a given way;
* `Plan.build` — the program of a query, with the records of choosing how to reach its records;
* `Plan.ofQuery` — the same, recorded as a span of work.
-/

import SqlPipeline.Plan.Assembly

set_option autoImplicit false

namespace SqlPipeline.Plan

open Journal Layout Query

/-- How the groups of a query are computed, if it has any, and the layout of its output
columns. -/
def grouping? (q : Resolved) (stored output : Schema) :
    Collecting (Option Grouping × Schema) := do
  if q.isGrouped then
    let (g, output) ← Grouping.ofQuery q stored output
    return (some g, output)
  else
    if !q.having.isEmpty then throw (.shape .havingWithoutGroups)
    return (none, output)

def having? (q : Resolved) (grouping : Option Grouping) : Except Fault (Option HavingFilter) :=
  match q.having.head?, grouping with
  | some h, some g =>
    match g.havingColumn with
    | some column => return some (← HavingFilter.ofTerm h column g.schema)
    | none => throw (.internal .havingUnplanned)
  | _, _ => return none

def operators (table : String) (stored : Schema) (access : Access) (grouping : Option Grouping)
    (having : Option HavingFilter) : Except Fault Assembly := do
  let a : Assembly := { table, stored }
  let a ← a.scan access
  let a ← a.selections access.filters
  let a := (grouping.map a.aggregate).getD a
  return (having.map a.having).getD a

/-- The program for a query whose records are reached in the given way. -/
def assemble (q : Resolved) (access : Access) : Collecting Program := do
  match q.tables.head? with
  | none => throw (.internal .noTable)
  | some table =>
    let stored ← ofTable table
    let output ← ofProjections stored q.projections
    let (grouping, output) ← grouping? q stored output
    let having ← having? q grouping
    let a ← operators table.name stored access grouping having
    a.finish { projections := q.projections, output, access, grouping, having }

def build (q : Resolved) : Attempt Fault Program := do
  let access ← Access.ofQuery q
  ((assemble q access).run.run .empty).1

/-- The span of work that planning is. -/
def span : Span := { name := "PLAN" }

/-- The program of a query, recorded as a span of work. -/
def ofQuery (q : Resolved) : Attempt Fault Program :=
  ExceptT.mk <| span.enclose fun s => do
    match ← (build q).run with
    | .ok p =>
      let s ← s.close (s.completed
        [("table", p.table), ("root", p.root), ("steps", toString p.steps.length)])
      return (.ok p, s)
    | .error e =>
      let s ← s.close (s.failed e.code e.message)
      return (.error e, s)

def ending : Except Fault Program → Record
  | .ok p => span.completed
      [("table", p.table), ("root", p.root), ("steps", toString p.steps.length)]
  | .error e => span.failed e.code e.message

/-- Planning is recorded when it begins and when it ends, and never as given up. -/
theorem run_ofQuery (q : Resolved) :
    (ofQuery q).run = ⟨(build q).run.value,
      span.begun :: ((build q).run.records ++ [ending (build q).run.value])⟩ := by
  unfold ofQuery
  rw [ExceptT.run_mk, Span.enclose_of_closed]
  · cases h : (build q).run.value <;> simp [h, Span.close, note, ending]
  · cases h : (build q).run.value <;> simp [h, Span.close]

end SqlPipeline.Plan
