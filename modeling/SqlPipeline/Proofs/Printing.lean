/-
**A planned program has a text.**

Printing can fail in four places: a literal that its variable cannot hold, a value of a group
without its column or its routine, and nothing to print.  Planning does not ask for any of these as
such, and the query may have been built by hand, with any hints, output columns, groups and
conditions.  Still none of them is left in a program: bounds and filters are integers, the literal
of a condition was compared with the type of its value, each value of a group was made for what it
computes, and each output column of the query is printed.  So an explanation, which only plans,
tells rightly whether compiling succeeds.

Main results:

* `Plan.Stages.printable` — a planned program can be printed, if its query has an output column;
* `Explanation.head?_lines_ofResult` — an explanation reports whether there is a program;
* `Plan.planned_is_listed` — **a planned program has a text, and explanations are right about it**.
-/

import SqlPipeline.Proofs.Compile
import SqlPipeline.Proofs.ScanOutput

set_option autoImplicit false

namespace SqlPipeline

open Journal Layout Query Outcome

namespace Plan

/-! ### Steps -/

namespace Assembly

variable {a a' : Assembly} {stored : Schema}

theorem printable_boundSteps (name : String) (storage : Option Storage) (value : Option Int) :
    ∀ st ∈ boundSteps name storage value, st.Printable := by
  intro st hst
  obtain ⟨t, v, -, -, rfl⟩ := mem_boundSteps.1 hst
  trivial

theorem printable_scan {table : String} {access : Access}
    (h : ({ table, stored } : Assembly).scan access = .ok a) : a.Printable stored := by
  obtain ⟨keyType, dataType, -, -, -, -, rfl⟩ := scan_eq_ok h
  refine ⟨rfl, ?_⟩
  simp only [List.nil_append, boundsSteps, List.forall_mem_append, List.forall_mem_cons]
  exact ⟨⟨⟨⟨printable_boundSteps _ _ _, printable_boundSteps _ _ _⟩, printable_boundSteps _ _ _⟩,
    printable_boundSteps _ _ _⟩, trivial, trivial, List.forall_mem_nil _⟩

theorem Printable.selection (ha : a.Printable stored) {f : Filter}
    (h : a.selection f = .ok a') : a'.Printable stored := by
  obtain ⟨c, -, rfl⟩ := selection_eq_ok h
  refine ⟨ha.1, ?_⟩
  simp only [List.forall_mem_append, List.forall_mem_cons]
  exact ⟨ha.2, trivial, trivial, List.forall_mem_nil _⟩

end Assembly

theorem storable_of_check {l : Literal} {storage : Storage}
    (h : checkHavingLiteral l storage = .ok ()) : Storable storage l :=
  (ensures_checkHavingLiteral l storage).1 () h

/-! ### Programs -/

section

variable {q : Resolved} {p : Program}

theorem Stages.length_output (st : Stages q p) : p.output.length = q.projections.length := by
  cases hg : p.grouping with
  | none =>
      have hnames := congrArg List.length (st.names_eq hg)
      rwa [List.length_map, List.length_map] at hnames
  | some g =>
      obtain ⟨hgather, houtput⟩ := st.grouping_gathers_some hg
      obtain ⟨gs⟩ := stages_of_grouping hgather
      have hcolumns := gs.sound.columns_length
      have hretyped : st.retyped.length = g.projectionColumns.length := by
        rw [gs.out_eq, length_retyped, length_ofProjections st.output_eq, hcolumns]
      rw [(groupedOutput_eq_ok houtput hretyped).1, hcolumns]

theorem Stages.storable_having (st : Stages q p) {hf : HavingFilter} (h : p.having = some hf) :
    Storable hf.storage hf.literal := by
  obtain ⟨t, g, column, -, -, -, hterm⟩ := having?_eq_ok (h ▸ st.having_eq)
  exact storable_of_check (HavingFilter.ofTerm_eq_ok hterm).2.2.2

theorem Stages.printable_descriptor (st : Stages q p) {g : Grouping} (hg : p.grouping = some g) :
    ∀ x ∈ g.descriptors, x.Printable := by
  obtain ⟨gs⟩ := stages_of_grouping (st.grouping_gathers_some hg).1
  exact gs.sound.printable

theorem Stages.printable_steps (st : Stages q p) : ∀ s ∈ p.steps, s.Printable := by
  have hsteps : st.assembly.Printable st.stored :=
    operators_keep st.operators_eq (fun b hb => Assembly.printable_scan hb)
      (fun b b' f _ hf hb => hb.selection hf)
      (fun b g hg hb => hb.aggregate (st.printable_descriptor hg))
      fun b hf hh hb => hb.having (st.storable_having hh)
  rw [st.steps_eq]
  exact hsteps.2

/-- A planned program can be printed, if its query has an output column. -/
theorem Stages.printable (st : Stages q p) (hq : q.projections ≠ []) : p.Printable := by
  refine ⟨?_, st.printable_steps⟩
  rw [← List.length_pos_iff, st.length_output]
  exact List.length_pos_iff.2 hq

end

end Plan

/-! ### Explanations -/

/-- An explanation reports whether there is a program. -/
theorem Explanation.head?_lines_ofResult (r : Except Fault Plan.Program) :
    (Explanation.ofResult r).lines.head? = some "Status: ACCEPTED" ↔ ∃ p, r = .ok p := by
  cases r with
  | ok p => simp [ofResult, ofProgram, lines, summaryLines]
  | error f => simp [ofResult, ofFault, lines]

namespace Plan

variable {q : Resolved}

theorem listed_of_ofQuery (hq : q.projections ≠ []) {p : Program}
    (hp : (ofQuery q).run.value = .ok p) : ∃ t, Listing.ofProgram p = .ok t := by
  obtain ⟨st⟩ := stages_of_ofQuery hp
  -- printing may fail with no fault at all
  have hprint := Listing.ensures_ofProgram (E := fun _ => False) (st.printable hq)
  cases ht : Listing.ofProgram p with
  | ok t => exact ⟨t, rfl⟩
  | error e => exact (hprint.2 e ht).elim

/-- A query with an output column compiles exactly if it is planned. -/
theorem compileQuery_iff (hq : q.projections ≠ []) :
    (∃ t, (compileQuery q).run.value = .ok t) ↔ ∃ p, (ofQuery q).run.value = .ok p := by
  constructor
  · rintro ⟨t, ht⟩
    obtain ⟨p, hp, -⟩ := value_bind_eq_ok.1 ht
    exact ⟨p, hp⟩
  · rintro ⟨p, hp⟩
    obtain ⟨t, ht⟩ := listed_of_ofQuery hq hp
    exact ⟨t, value_bind_eq_ok.2 ⟨p, hp, ht⟩⟩

/-- Trips with hints that no table gives: the second column as the key, and an index on the first.
The condition on the one group has a decimal literal, and two output columns share a name. -/
def hintedTrips : Resolved :=
  { Resolved.ofTable trips with
    hints := [.secondary 4, .primaryKey]
    predicates := [⟨0, .ge, .integer 3⟩, ⟨1, .eq, .integer 7⟩, ⟨2, .ne, .integer 0⟩]
    aggregated := true
    having := [.comparison .lt (.literal (.decimal (.finite false 1 (-1))))
      (.projected (.aggregate ⟨.avg, some 2⟩))]
    projections := [
      { name := "mean", kind := .aggregate ⟨.avg, some 2⟩ },
      { name := "mean", kind := .aliasOf 0 }] }

theorem access_hintedTrips : Access.ofQuery hintedTrips
    = Access.ofFilters hintedTrips.hints [⟨0, .ge, 3⟩, ⟨1, .eq, 7⟩, ⟨2, .ne, 0⟩] := rfl

/-- **A planned program has a text, and explanations are right about it.**  This holds of any query
with an output column, and of any text that stands for one. -/
theorem planned_is_listed (hq : q.projections ≠ []) :
    (∀ p, (ofQuery q).run.value = .ok p → ∃ t, Listing.ofProgram p = .ok t) ∧
    ((Explanation.ofResult (ofQuery q).run.value).lines.head? = some "Status: ACCEPTED" ↔
      ∃ t, (compileQuery q).run.value = .ok t) ∧
    ∀ catalog sql, Query.ofText catalog sql = .ok q →
      ((Explanation.ofResult (planText catalog sql).run.value).lines.head?
          = some "Status: ACCEPTED" ↔
        ∃ t, (compile catalog sql).run.value = .ok t) := by
  refine ⟨fun p hp => listed_of_ofQuery hq hp, ?_, fun catalog sql hsql => ?_⟩
  · rw [Explanation.head?_lines_ofResult, compileQuery_iff hq]
  · rw [compile_value, compileText, planText, hsql]
    show _ ↔ ∃ t, (compileQuery q).run.value = .ok t
    rw [compileQuery_iff hq]
    exact Explanation.head?_lines_ofResult _

theorem planned_is_listed_hintedTrips :
    hintedTrips.projections ≠ [] ∧
      ∃ p t, (ofQuery hintedTrips).run.value = .ok p ∧ p.steps.length = 10 ∧
        Listing.ofProgram p = .ok t ∧ (compileQuery hintedTrips).run.value = .ok t := by
  have hne : hintedTrips.projections ≠ [] := by decide
  obtain ⟨p, hp, hsteps⟩ : ∃ p, (ofQuery hintedTrips).run.value = .ok p ∧
      p.steps.length = 10 := by
    rw [ofQuery, build, access_hintedTrips, Access.ofFilters,
      Access.candidates_of_pairwise (by decide)]
    exact ⟨_, rfl, rfl⟩
  obtain ⟨hlisted, -⟩ := planned_is_listed hne
  obtain ⟨t, ht⟩ := hlisted p hp
  exact ⟨hne, p, t, hp, hsteps, ht, value_bind_eq_ok.2 ⟨p, hp, ht⟩⟩

end Plan

end SqlPipeline
