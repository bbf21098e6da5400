/-
**The order of conditions matters on each column only.**

The conditions of a query are joined by `AND`, so a reader expects their order to mean nothing.  It
does mean something: of two bounds on one side of a column the later one counts.  This module says
that it means no more than that.  Each of the steps from conditions to an access depends on the
order (the first literal that is no integer ends the work, the sort is stable, the column that
bounds the data is the first that is found, the filters keep the place of their first occurrence),
so it is shown of all of them together.

What makes it hold:

* the work fails exactly if the query is refused, and this is about the conditions one by one;
* sorting leaves nothing of the order but that on each column, so the sorted comparisons of two
  queries are one list if the order on each column is the same;
* the comparisons without an index never meet the others: they stand at the head of the filters,
  which no step reads.

Main definitions:

* `Plan.SameByColumn` — two lists have the same elements on each column, in the same order.

Main results:

* `Query.Resolved.refused_congr` — whether a query is refused does not depend on the order;
* `Plan.SameByColumn.candidates_eq` — nor do the sorted comparisons, but for the order on columns;
* `Plan.Access.foldlM_adds` — filters are added at the end, whatever stands before;
* `Plan.reordered_conditions` — **the access of a query with its conditions in another order**.
-/

import SqlPipeline.Proofs.Classification

set_option autoImplicit false

namespace SqlPipeline

open Journal Query Outcome

/-! ### Queries that are refused -/

namespace Query.Resolved

variable {q q' : Resolved}

/-- Whether a query is refused depends on which conditions it has, and not on their order. -/
theorem refused_congr (hhints : q'.hints = q.hints)
    (h : ∀ c, c ∈ q'.predicates ↔ c ∈ q.predicates) : q'.Refused ↔ q.Refused := by
  have hasks : ∀ f, q'.Asks f ↔ q.Asks f := fun f => h _
  have hdata : ∀ n, q'.DataColumn n ↔ q.DataColumn n := by
    intro n
    rw [DataColumn, DataColumn, hhints]
    simp only [hasks]
  constructor
  · rintro (⟨hc, hliteral⟩ | ⟨hf, hover, hindex⟩ | ⟨hf, hkey, hv, hneg⟩)
    · exact .literal ((h _).1 hc) hliteral
    · rw [hhints, hdata] at hindex
      exact .overflow ((hasks _).1 hf) hover hindex
    · rw [hhints] at hkey
      exact .negative ((hasks _).1 hf) hkey hv hneg
  · rintro (⟨hc, hliteral⟩ | ⟨hf, hover, hindex⟩ | ⟨hf, hkey, hv, hneg⟩)
    · exact .literal ((h _).2 hc) hliteral
    · rw [← hhints, ← hdata] at hindex
      exact .overflow ((hasks _).2 hf) hover hindex
    · rw [← hhints] at hkey
      exact .negative ((hasks _).2 hf) hkey hv hneg

end Query.Resolved

namespace Plan

/-- Conditions in another order are reached in some way exactly if those of the query are. -/
theorem Access.exists_ok_of_perm {q : Resolved} {cs : List Comparison}
    (h : cs.Perm q.predicates) :
    (∃ a, (Access.ofQuery { q with predicates := cs }).run.value = .ok a) ↔
      ∃ a, (Access.ofQuery q).run.value = .ok a := by
  have hrefused : ({ q with predicates := cs } : Resolved).Refused ↔ q.Refused :=
    Resolved.refused_congr rfl fun c => h.mem_iff
  constructor
  · rintro ⟨a, ha⟩
    obtain ⟨htables, hjoin, -⟩ := Access.ofQuery_gives (gives_iff.2 ⟨ha, rfl⟩)
    have hnot := (Access.exists_ok_iff htables hjoin).1 ⟨a, ha⟩
    exact (Access.exists_ok_iff (q := q) htables hjoin).2 fun hq => hnot (hrefused.2 hq)
  · rintro ⟨a, ha⟩
    obtain ⟨htables, hjoin, -⟩ := Access.ofQuery_gives (gives_iff.2 ⟨ha, rfl⟩)
    have hnot := (Access.exists_ok_iff htables hjoin).1 ⟨a, ha⟩
    refine (Access.exists_ok_iff ?_ ?_).2 fun hq => hnot (hrefused.1 hq)
    · exact htables
    · exact hjoin

/-! ### The order on each column -/

/-- Two lists have the same elements on each column, in the same order.  The one is then the other
with elements on different columns exchanged. -/
def SameByColumn {α : Type} (column : α → Nat) (xs ys : List α) : Prop :=
  ∀ n, xs.filter (fun x => column x == n) = ys.filter (fun y => column y == n)

namespace SameByColumn

variable {fs gs : List Filter}

/-- Conditions that are comparisons with integers have the order of these comparisons. -/
theorem of_comparison
    (h : SameByColumn Comparison.column (fs.map Filter.comparison) (gs.map Filter.comparison)) :
    SameByColumn Filter.column fs gs := by
  intro n
  have hn := h n
  rw [List.filter_map, List.filter_map] at hn
  exact Filter.comparison_injective.list_map hn

/-- The comparisons on indexed columns are sorted into one list. -/
theorem candidates_eq (h : SameByColumn Filter.column fs gs) (hints : List Catalog.Hint) :
    candidates hints fs = candidates hints gs := by
  have hcolumn : ∀ n, (fs.filter fun f => (hintAt hints f.column).isIndexed).filter
        (fun f => f.column == n)
      = (gs.filter fun f => (hintAt hints f.column).isIndexed).filter
        (fun f => f.column == n) := by
    intro n
    rw [List.filter_comm, h n, List.filter_comm]
  rw [candidates_eq_byColumn, candidates_eq_byColumn]
  exact List.flatMap_congr fun n _ => hcolumn n

end SameByColumn

/-! ### Filters are only added to -/

namespace Access

variable {hints : List Catalog.Hint} {a a' : Access} {f : Filter} {rs : List Record}

/-- One comparison adds filters at the end and does the same whatever filters there were. -/
theorem add_adds (h : Gives (a.add hints f) a' rs) :
    ∃ added, a'.filters = a.filters ++ added ∧ ∀ filters,
      Gives (({ a with filters } : Access).add hints f)
        { a' with filters := filters ++ added } rs := by
  unfold add at h ⊢
  dsimp only at h ⊢
  split at h
  · next hguard =>
      obtain ⟨rfl, rfl⟩ := demote_gives h
      refine ⟨[f], rfl, fun filters => ?_⟩
      rw [if_pos hguard]
      rfl
  · next hguard =>
      simp only [gives_bind, gives_lift] at h
      obtain ⟨b, _, rs, ⟨hb, rfl⟩, h, rfl⟩ := h
      simp only [if_neg hguard, gives_bind, gives_lift]
      split at h
      · obtain ⟨rfl, rfl⟩ := demote_gives h
        refine ⟨[f], rfl, fun filters => ?_⟩
        exact ⟨none, [], _, ⟨hb, rfl⟩, rfl, rfl⟩
      · next b =>
          split at h
          · next hkey =>
              simp only [gives_bind, gives_lift, gives_logged, gives_pure] at h
              obtain ⟨b', _, _, ⟨hb', rfl⟩, ⟨_, _, _, ⟨-, rfl⟩, ⟨rfl, rfl⟩, rfl⟩, rfl⟩ := h
              refine ⟨[], (List.append_nil _).symm, fun filters => ?_⟩
              refine ⟨some b, [], _, ⟨hb, rfl⟩, ?_, rfl⟩
              dsimp only
              rw [List.append_nil, if_pos hkey, gives_bind]
              refine ⟨b', [], _, gives_lift.2 ⟨hb', rfl⟩, ?_, rfl⟩
              exact gives_bind.2
                ⟨(), _, [], gives_logged.2 ⟨rfl, rfl⟩, gives_pure.2 ⟨rfl, rfl⟩, rfl⟩
          · next hkey =>
              simp only [gives_bind, gives_logged, gives_pure] at h
              obtain ⟨_, _, _, ⟨-, rfl⟩, ⟨rfl, rfl⟩, rfl⟩ := h
              refine ⟨[], (List.append_nil _).symm, fun filters => ?_⟩
              refine ⟨some b, [], _, ⟨hb, rfl⟩, ?_, rfl⟩
              dsimp only
              rw [List.append_nil, if_neg hkey]
              exact gives_bind.2
                ⟨(), _, [], gives_logged.2 ⟨rfl, rfl⟩, gives_pure.2 ⟨rfl, rfl⟩, rfl⟩

/-- So do all comparisons, one after the other. -/
theorem foldlM_adds {cs : List Filter} (h : Gives (cs.foldlM (Access.add hints) a) a' rs) :
    ∃ added, a'.filters = a.filters ++ added ∧ ∀ filters,
      Gives (cs.foldlM (Access.add hints) { a with filters })
        { a' with filters := filters ++ added } rs := by
  induction cs generalizing a rs with
  | nil =>
      obtain ⟨rfl, rfl⟩ := gives_pure.1 h
      refine ⟨[], (List.append_nil _).symm, fun filters => ?_⟩
      rw [List.append_nil]
      exact gives_pure.2 ⟨rfl, rfl⟩
  | cons f cs ih =>
      rw [List.foldlM_cons, gives_bind] at h
      obtain ⟨a₁, rs₁, rs₂, h₁, h₂, rfl⟩ := h
      obtain ⟨added₁, hadded₁, hany₁⟩ := add_adds h₁
      obtain ⟨added₂, hadded₂, hany₂⟩ := ih h₂
      refine ⟨added₁ ++ added₂, ?_, fun filters => ?_⟩
      · rw [hadded₂, hadded₁, List.append_assoc]
      · rw [List.foldlM_cons, gives_bind]
        have h₂' := hany₂ (filters ++ added₁)
        rw [List.append_assoc] at h₂'
        exact ⟨_, rs₁, rs₂, hany₁ filters, h₂', rfl⟩

end Access

/-! ### Filters without repetitions -/

theorem nodup_eraseDups (fs : List Filter) : fs.eraseDups.Nodup := by
  induction hn : fs.length using Nat.strong_induction_on generalizing fs with
  | _ n ih =>
      cases fs with
      | nil => exact List.nodup_nil
      | cons f fs =>
          -- what is equal to the first filter is dropped before the rest is gone through
          have hlength := List.length_filter_le (fun g => !g == f) fs
          rw [List.length_cons] at hn
          rw [List.eraseDups_cons, List.nodup_cons]
          refine ⟨?_, ih _ ?_ _ rfl⟩
          · simp [List.mem_eraseDups]
          · omega

theorem perm_eraseDups {fs gs : List Filter} (h : fs.Perm gs) :
    fs.eraseDups.Perm gs.eraseDups := by
  rw [List.perm_ext_iff_of_nodup (nodup_eraseDups fs) (nodup_eraseDups gs)]
  intro f
  rw [List.mem_eraseDups, List.mem_eraseDups]
  exact h.mem_iff

/-! ### Queries -/

/-- Two accesses have the same bounds on the same columns, and the same filters in some order. -/
structure Access.Alike (a a' : Access) : Prop where
  keyColumn : a.keyColumn = a'.keyColumn
  key : a.key = a'.key
  secondaryColumn : a.secondaryColumn = a'.secondaryColumn
  secondary : a.secondary = a'.secondary
  filters : a.filters.Perm a'.filters

/-- Comparisons with the same order on each column are reached alike: their sorted parts are one
list, and what has no index stands before. -/
theorem Access.alike_of_gives {hints : List Catalog.Hint} {fs gs : List Filter} {a a' : Access}
    {rs rs' : List Record} (hperm : fs.Perm gs) (hsame : SameByColumn Filter.column fs gs)
    (h : Gives (Access.ofFilters hints fs) a rs) (h' : Gives (Access.ofFilters hints gs) a' rs') :
    a.Alike a' := by
  obtain ⟨b, hrun, rfl⟩ := Access.ofFilters_gives h
  obtain ⟨b', hrun', rfl⟩ := Access.ofFilters_gives h'
  obtain ⟨added, hadded, hany⟩ := Access.foldlM_adds hrun
  have hstart : Access.start hints gs = { Access.start hints fs with
      filters := gs.filter fun f => !(hintAt hints f.column).isIndexed } := by
    rw [Access.start, Access.start, hsame.candidates_eq hints]
  have hagain := hany (gs.filter fun f => !(hintAt hints f.column).isIndexed)
  rw [← hstart, hsame.candidates_eq hints] at hagain
  obtain rfl : { b with
      filters := (gs.filter fun f => !(hintAt hints f.column).isIndexed) ++ added } = b' :=
    Except.ok.inj ((gives_iff.1 hagain).1.symm.trans (gives_iff.1 hrun').1)
  refine ⟨rfl, rfl, rfl, rfl, ?_⟩
  refine perm_eraseDups ?_
  rw [hadded]
  exact (hperm.filter _).append_right added

/-- **The order of conditions matters on each column only.**  A query with its conditions in another
order has an access exactly if the query has one.  If the order on each column is kept, the two have
the same bounds on the same columns, and the same filters in some order. -/
theorem reordered_conditions {q : Resolved} {cs : List Comparison} (h : cs.Perm q.predicates) :
    ((∃ a, (Access.ofQuery { q with predicates := cs }).run.value = .ok a) ↔
      ∃ a, (Access.ofQuery q).run.value = .ok a) ∧
    (SameByColumn Comparison.column cs q.predicates → ∀ a a',
      (Access.ofQuery { q with predicates := cs }).run.value = .ok a →
      (Access.ofQuery q).run.value = .ok a' → a.Alike a') := by
  refine ⟨Access.exists_ok_of_perm h, fun hsame a a' ha ha' => ?_⟩
  obtain ⟨-, -, fs, hfs, hgives⟩ := Access.ofQuery_gives (gives_iff.2 ⟨ha, rfl⟩)
  obtain ⟨-, -, gs, hgs, hgives'⟩ := Access.ofQuery_gives (gives_iff.2 ⟨ha', rfl⟩)
  have hcs : cs = fs.map Filter.comparison := mapM_ofComparison_eq_ok.1 hfs
  have hpredicates : q.predicates = gs.map Filter.comparison := mapM_ofComparison_eq_ok.1 hgs
  rw [hcs, hpredicates] at h hsame
  have hperm : fs.Perm gs := (List.map_perm_map_iff Filter.comparison_injective).1 h
  exact Access.alike_of_gives hperm hsame.of_comparison hgives hgives'

/-- A table of buoys, with an index on the temperature. -/
def buoys : Catalog.Table where
  name := "buoys"
  columns := [⟨"id", .int32⟩, ⟨"temp", .int32⟩, ⟨"wind", .int32⟩, ⟨"wave", .int32⟩]
  primaryKey := some 0
  indexes := [⟨"byTemp", 1⟩]

/-- Comparisons of which one on the temperature is overwritten and two have no index. -/
def roughFilters : List Filter :=
  [⟨3, .gt, 4⟩, ⟨1, .ge, 10⟩, ⟨2, .ne, 0⟩, ⟨0, .gt, 5⟩, ⟨1, .gt, 11⟩]

/-- The query with these comparisons. -/
def roughBuoys : Resolved :=
  { Resolved.ofTable buoys with
    predicates := roughFilters.map Filter.comparison
    projections := [{ name := "id", kind := .column 0 }] }

/-- The same comparisons in another order, which is the same on the temperature. -/
def turnedFilters : List Filter :=
  [⟨1, .ge, 10⟩, ⟨2, .ne, 0⟩, ⟨1, .gt, 11⟩, ⟨0, .gt, 5⟩, ⟨3, .gt, 4⟩]

theorem sameByColumn_turnedFilters : SameByColumn Comparison.column
    (turnedFilters.map Filter.comparison) roughBuoys.predicates := by
  intro n
  rcases n with _ | _ | _ | _ | n
  all_goals rfl

theorem access_roughBuoys :
    Access.ofQuery roughBuoys = Access.ofFilters roughBuoys.hints roughFilters := rfl

theorem access_turnedBuoys :
    Access.ofQuery { roughBuoys with predicates := turnedFilters.map Filter.comparison }
      = Access.ofFilters roughBuoys.hints turnedFilters := rfl

theorem reordered_conditions_roughBuoys :
    (turnedFilters.map Filter.comparison).Perm roughBuoys.predicates ∧
    ∃ a a', (Access.ofQuery { roughBuoys with
        predicates := turnedFilters.map Filter.comparison }).run.value = .ok a ∧
      (Access.ofQuery roughBuoys).run.value = .ok a' ∧ a.Alike a' ∧
      a'.secondary = ⟨some 12, none⟩ ∧ a'.filters = [⟨3, .gt, 4⟩, ⟨2, .ne, 0⟩] ∧
      a.filters = [⟨2, .ne, 0⟩, ⟨3, .gt, 4⟩] := by
  have hperm : (turnedFilters.map Filter.comparison).Perm roughBuoys.predicates := by decide
  obtain ⟨a', ha', hsecondary, hfilters'⟩ : ∃ a', (Access.ofQuery roughBuoys).run.value = .ok a' ∧
      a'.secondary = ⟨some 12, none⟩ ∧ a'.filters = [⟨3, .gt, 4⟩, ⟨2, .ne, 0⟩] := by
    rw [access_roughBuoys, Access.ofFilters, candidates_eq_byColumn]
    exact ⟨_, rfl, rfl, rfl⟩
  obtain ⟨a, ha, hfilters⟩ : ∃ a, (Access.ofQuery { roughBuoys with
      predicates := turnedFilters.map Filter.comparison }).run.value = .ok a ∧
      a.filters = [⟨2, .ne, 0⟩, ⟨3, .gt, 4⟩] := by
    rw [access_turnedBuoys, Access.ofFilters, candidates_eq_byColumn]
    exact ⟨_, rfl, rfl⟩
  obtain ⟨-, halike⟩ := reordered_conditions hperm
  exact ⟨hperm, a, a', ha, ha', halike sameByColumn_turnedFilters a a' ha ha', hsecondary,
    hfilters', hfilters⟩

end Plan

end SqlPipeline
