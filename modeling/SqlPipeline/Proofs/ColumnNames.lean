/-
**Which columns the names of a table identify.**

A name stands for the first column that has it, whatever the case of its letters, wherever a column
is named: in a condition, in what records are grouped by, and in the definition of an index.  A star
gives every column by its number.  The two agree on a column exactly if no earlier one has its name.
The definition of a table is not asked for this: the names of tables and of indexes must be new, but
a definition may give one name to several columns.  So the columns of a table are identified by
their names exactly if its definition gives them different ones.

Main definitions:

* `Catalog.definitions` — the tables that scripts define;
* `Catalog.Table.Means` — the column that a name stands for, wherever columns are named.

Main results:

* `Catalog.Table.means_of_column?` — a name stands for the same column everywhere;
* `Catalog.Table.exists_first` — the name of a column stands for the first column that has it;
* `Catalog.Store.DescribedIn.after` — every table is as one of the definitions describes it;
* `Catalog.columns_identified_iff` — **names identify the columns of a table exactly if its
  definition gives different names**;
* `Catalog.twin_columns` — a table with a column that no name stands for.
-/

import SqlPipeline.Proofs.Histories
import SqlPipeline.Proofs.Resolution

set_option autoImplicit false

namespace SqlPipeline

open Sql Outcome

/-! ### Stars -/

namespace Query

/-- A star gives each column of the table at its own place. -/
theorem Scope.projections_star (s : Scope) (x : List Ident) :
    ∃ ps, s.projections [.star x] = .ok ps ∧
      ∀ i < s.table.columns.length, ∃ p, ps[i]? = some p ∧ p.kind = .column i := by
  obtain ⟨ps, hps⟩ : ∃ ps, s.projections [.star x] = .ok ps := ⟨_, rfl⟩
  refine ⟨ps, hps, fun i hi => ?_⟩
  obtain ⟨asked, hasked, -, hkinds⟩ := s.map_kind_projections hps
  have hcolumns : asked = (List.range s.table.columns.length).map Kind.column := by
    cases hasked
    simp
  have hasks : ∀ j < s.table.columns.length, asked[j]? = some (.column j) := by
    intro j hj
    rw [hcolumns, List.getElem?_map, List.getElem?_range hj]
    rfl
  have hlen : i < (shared asked).length := by
    rw [length_shared, hcolumns]
    simpa using hi
  have hkind : (shared asked)[i]? = some (.column i) := by
    obtain ⟨hleft, -⟩ | ⟨first, k, -, hlt, hfirst, -, hsame⟩ :=
      getElem?_shared_cases (List.getElem?_eq_getElem hlen)
    · rw [hasks i hi] at hleft
      rw [List.getElem?_eq_getElem hlen, ← hleft]
    · -- an earlier column is another one
      rw [hasks first (hlt.trans hi)] at hfirst
      cases hfirst
      have hbeq := hsame _ (hasks i hi)
      cases Kind.same_iff.1 hbeq
      exact absurd hlt (lt_irrefl _)
  rw [← hkinds, List.getElem?_map, Option.map_eq_some_iff] at hkind
  exact hkind

end Query

namespace Catalog

/-! ### Names -/

/-- The number of the column that a name stands for, wherever columns are named.  In a condition on
groups the output columns come before. -/
structure Table.Means (t : Table) (name : String) (n : Nat) : Prop where
  lookup : t.column? name = some n
  condition : ∀ label quote op e l, Query.literal? e = .ok (some l) →
    (⟨t, label⟩ : Query.Scope).conditions (.binary (.compare op) (.ident ⟨name, quote⟩) e)
      = .ok [⟨n, op, l⟩]
  grouping : ∀ label quote ps,
    (⟨t, label⟩ : Query.Scope).groupScalar ps (.ident ⟨name, quote⟩) = .ok (.column n)
  having : ∀ label quote ps, Query.byAlias? ps name = none →
    (⟨t, label⟩ : Query.Scope).havingOperand ps (.ident ⟨name, quote⟩)
      = .ok (.projected (.column n))
  index : ∀ (s s' : Store) d index table, s.table? (pathName d.table) = some t →
    indexedColumn d = .ok name → s.apply (.createIndex d) = (.ok (.indexCreated index table), s') →
    s' = s.put { t with indexes := t.indexes ++ [⟨index, n⟩] }

namespace Table

variable {t : Table} {name : String} {n : Nat}

theorem scope_column? (h : t.column? name = some n) (label : Option String)
    (quote : Option Char) :
    (⟨t, label⟩ : Query.Scope).column? (.ident ⟨name, quote⟩) = .ok (some n) := by
  simp [Query.Scope.column?, Query.Scope.named, h, bind, Except.bind, pure, Except.pure]

/-- A name stands for the same column everywhere. -/
theorem means_of_column? (h : t.column? name = some n) : t.Means name n where
  lookup := h
  condition := by
    intro label quote op e l hl
    have hsub : ((Expr.ident ⟨name, quote⟩).isSubquery || e.isSubquery) = false := by
      cases e with
      | subquery text => cases hl
      | _ => rfl
    simp [Query.Scope.conditions_compare, Query.Scope.comparison, scope_column? h, hl, hsub, bind,
      Except.bind, pure, Except.pure]
  grouping := by
    intro label quote ps
    simp [Query.Scope.groupScalar, h, Query.Scope.scalar, Query.Scope.atom?, Query.literal?,
      scope_column? h, bind, Except.bind, pure, Except.pure]
  having := by
    intro label quote ps hps
    simp [Query.Scope.havingOperand, Query.literal?, Query.Scope.named?, hps, scope_column? h, bind,
      Except.bind, pure, Except.pure]
  index := by
    intro s s' d index table ht hindexed htakes
    cases Store.apply_eq_ok.1 htakes with
    | indexNew ht' hindexed' hcolumn _ =>
        cases ht.symm.trans ht'
        cases hindexed.symm.trans hindexed'
        cases h.symm.trans hcolumn
        rfl

/-- The name of a column stands for the first column that has it. -/
theorem exists_first {i : Nat} {c : Column} (h : t.columns[i]? = some c) :
    ∃ j ≤ i, t.column? c.name = some j ∧
      (j = i ↔ ∀ k b, k < i → t.columns[k]? = some b → Text.sameName b.name c.name = false) := by
  obtain ⟨hi, rfl⟩ := List.getElem?_eq_some_iff.1 h
  cases hj : t.column? (t.columns[i]).name with
  | none =>
      have hnot := List.findIdx?_eq_none_iff.1 hj _ (List.getElem_mem hi)
      rw [Text.sameName_refl] at hnot
      cases hnot
  | some j =>
      obtain ⟨hlt, hsame, hbefore⟩ := List.findIdx?_eq_some_iff_getElem.1 hj
      have hle : j ≤ i := by
        by_contra hij
        exact hbefore i (by omega) (Text.sameName_refl _)
      refine ⟨j, hle, rfl, ?_, fun hfirst => ?_⟩
      · rintro rfl k b hk hb
        obtain ⟨hk', rfl⟩ := List.getElem?_eq_some_iff.1 hb
        exact Bool.eq_false_iff.2 (hbefore k hk)
      · -- an earlier column of the name would be one too many
        by_contra hne
        have hdiffers := hfirst j _ (by omega) (List.getElem?_eq_getElem hlt)
        rw [hsame] at hdiffers
        cases hdiffers

/-- Names stand for their columns exactly if they differ in more than the case of their letters. -/
theorem means_iff_pairwise (t : Table) :
    (∀ i c, t.columns[i]? = some c → t.Means c.name i) ↔
      t.columns.Pairwise fun a b => Text.sameName a.name b.name = false := by
  rw [List.pairwise_iff_getElem]
  constructor
  · intro h i j hi hj hij
    obtain ⟨k, -, hk, hfirst⟩ := exists_first (List.getElem?_eq_getElem hj)
    have hmeans := (h j _ (List.getElem?_eq_getElem hj)).lookup
    exact hfirst.1 (Option.some.inj (hk.symm.trans hmeans)) i _ hij (List.getElem?_eq_getElem hi)
  · intro h i c hc
    obtain ⟨j, -, hj, hfirst⟩ := exists_first hc
    obtain ⟨hi, rfl⟩ := List.getElem?_eq_some_iff.1 hc
    refine means_of_column? (hj.trans (congrArg some (hfirst.2 fun k b hk hb => ?_)))
    obtain ⟨hk', rfl⟩ := List.getElem?_eq_some_iff.1 hb
    exact h k i hk' hi hk

end Table

/-! ### Definitions -/

/-- The table that a statement defines, if it defines one. -/
def tableDefinition? : Statement → Option TableDefinition
  | .createTable d => some d
  | _ => none

/-- The tables that scripts define, in order.  A script that cannot be read defines none. -/
def definitions (scripts : List String) : List TableDefinition :=
  scripts.flatMap fun script =>
    match statements script with
    | .ok sts => sts.filterMap tableDefinition?
    | .error _ => []

/-- The names of the columns of a definition. -/
def columnNames (d : TableDefinition) : List String :=
  d.columns.map fun c => c.name.value

/-- Every table has the name and the names of columns that one of the definitions gives it. -/
def Store.DescribedIn (s : Store) (ds : List TableDefinition) : Prop :=
  ∀ e ∈ s.entries, ∃ d ∈ ds, e.2.name = pathName d.name ∧
    e.2.columns.map Column.name = columnNames d

namespace Store

variable {s s' : Store} {ds ds' : List TableDefinition}

theorem DescribedIn.mono (h : s.DescribedIn ds) (hds : ds ⊆ ds') : s.DescribedIn ds' := by
  intro e he
  obtain ⟨d, hd, hsame⟩ := h e he
  exact ⟨d, hds hd, hsame⟩

theorem DescribedIn.put (h : s.DescribedIn ds) {t : Table} {d : TableDefinition} (hd : d ∈ ds)
    (hname : t.name = pathName d.name) (hcolumns : t.columns.map Column.name = columnNames d) :
    (s.put t).DescribedIn ds := by
  intro e he
  rcases mem_putEntry he with rfl | he
  · exact ⟨d, hd, hname, hcolumns⟩
  · exact h e he

/-- A statement that is taken adds the table that it defines, or an index. -/
theorem DescribedIn.takes (h : s.DescribedIn ds) {st : Statement} {change : Change}
    (htakes : s.Takes st change s') :
    s'.DescribedIn (ds ++ (tableDefinition? st).toList) := by
  have hmono := h.mono (List.subset_append_left ds (tableDefinition? st).toList)
  cases htakes with
  | tableThere | indexThere => exact hmono
  | tableNew _ htable =>
      have hdescribed := tableOf_eq_ok htable
      refine hmono.put (List.mem_append_right _ List.mem_cons_self) hdescribed.name ?_
      rw [hdescribed.columns, List.map_map]
      rfl
  | indexNew htable _ _ _ =>
      obtain ⟨d, hd, hname, hcolumns⟩ := hmono _ (mem_of_table? htable)
      exact hmono.put hd hname hcolumns

theorem DescribedIn.applyAll (h : s.DescribedIn ds) (sts : List Statement) :
    (s.applyAll sts).value.1.DescribedIn (ds ++ sts.filterMap tableDefinition?) := by
  induction sts generalizing s ds with
  | nil =>
      rw [List.filterMap_nil, List.append_nil]
      exact h
  | cons st sts ih =>
      rcases s.apply_cases st with ⟨change, s', hst, htakes⟩ | ⟨e, hst, -⟩
      · rw [applyAll_of_ok hst]
        refine (ih (h.takes htakes)).mono ?_
        rw [List.append_assoc, List.filterMap_cons]
        cases tableDefinition? st <;> exact List.Subset.refl _
      · rw [applyAll_of_error hst]
        exact h.mono (List.subset_append_left _ _)

/-- Every table is as one of the definitions describes it, by induction on the scripts. -/
theorem DescribedIn.after (h : s.DescribedIn ds) (scripts : List String) :
    (s.after scripts).DescribedIn (ds ++ definitions scripts) := by
  induction scripts generalizing s ds with
  | nil =>
      rw [definitions, List.flatMap_nil, List.append_nil]
      exact h
  | cons script scripts ih =>
      have hfirst : (s.execute script).value.1.DescribedIn (ds ++ definitions [script]) := by
        cases hread : statements script with
        | error e =>
            rw [execute_of_error hread]
            exact h.mono (List.subset_append_left _ _)
        | ok sts =>
            rw [execute_of_ok hread]
            simpa [definitions, hread] using h.applyAll sts
      have hsplit : definitions (script :: scripts)
          = definitions [script] ++ definitions scripts := by
        simp [definitions]
      rw [hsplit, ← List.append_assoc]
      exact ih hfirst

end Store

/-! ### Histories -/

/-- **Names identify the columns of a table exactly if its definition gives different names.**  In a
catalog after scripts each table has the columns of one of the definitions.  A star gives each
column at its own place.  The name of a column stands for the first column that has it, and so for
the column itself exactly if no earlier one has its name. -/
theorem columns_identified_iff (scripts : List String) {name : String} {t : Table}
    (ht : (Store.empty.after scripts).table? name = some t) :
    ∃ d ∈ definitions scripts, t.name = pathName d.name ∧
      t.columns.map Column.name = columnNames d ∧
      ((∀ i c, t.columns[i]? = some c → t.Means c.name i) ↔
        (columnNames d).Pairwise fun a b => Text.sameName a b = false) ∧
      (∀ label x, ∃ ps, (⟨t, label⟩ : Query.Scope).projections [.star x] = .ok ps ∧
        ∀ i < t.columns.length, ∃ p, ps[i]? = some p ∧ p.kind = .column i) ∧
      ∀ i c, t.columns[i]? = some c → ∃ j ≤ i, t.Means c.name j ∧
        (j = i ↔ ∀ k b, k < i → t.columns[k]? = some b →
          Text.sameName b.name c.name = false) := by
  have hempty : Store.empty.DescribedIn [] := fun e he => by cases he
  obtain ⟨d, hd, hname, hcolumns⟩ := hempty.after scripts _ (Store.mem_of_table? ht)
  refine ⟨d, by simpa using hd, hname, hcolumns, ?_,
    fun label x => (⟨t, label⟩ : Query.Scope).projections_star x, fun i c hc => ?_⟩
  · rw [t.means_iff_pairwise, ← hcolumns, List.pairwise_map]
  · obtain ⟨j, hle, hj, hfirst⟩ := Table.exists_first hc
    exact ⟨j, hle, Table.means_of_column? hj, hfirst⟩

/-- A definition that gives two columns names that differ in the case of a letter only. -/
def twinDefinition : String :=
  "CREATE TABLE shed (id INT PRIMARY KEY, wind INT, Wind INT)"

/-- The table that the definition describes. -/
def twins : Table where
  name := "shed"
  columns := [⟨"id", .int32⟩, ⟨"wind", .int32⟩, ⟨"Wind", .int32⟩]
  primaryKey := some 0

/-- The definition is repeated in a script that is refused, and an index is put on one of the
two columns. -/
def twinHistory : List String :=
  [twinDefinition, twinDefinition ++ "; CREATE TABLE hut (a INT)", "CREATE INDEX i ON shed (Wind)"]

theorem after_twinHistory :
    (Store.empty.after twinHistory).table? "Shed" = some { twins with indexes := [⟨"i", 1⟩] } := by
  decide +kernel

theorem columns_identified_iff_twinHistory :
    (Store.empty.after twinHistory).table? "Shed" = some { twins with indexes := [⟨"i", 1⟩] } ∧
      ∃ d ∈ definitions twinHistory, columnNames d = ["id", "wind", "Wind"] ∧
        ¬ ∀ i c, ({ twins with indexes := [⟨"i", 1⟩] } : Table).columns[i]? = some c →
          ({ twins with indexes := [⟨"i", 1⟩] } : Table).Means c.name i := by
  obtain ⟨d, hd, -, hcolumns, hiff, -⟩ := columns_identified_iff twinHistory after_twinHistory
  refine ⟨after_twinHistory, d, hd, hcolumns.symm, fun h => ?_⟩
  have hpairwise := hiff.1 h
  rw [← hcolumns] at hpairwise
  exact absurd hpairwise (by decide)

/-- A definition that is taken, and a column of it that its own name does not stand for. -/
theorem twin_columns :
    (Store.empty.executeAll [twinDefinition]).run.value = .ok (Store.empty.put twins) ∧
      (Store.empty.put twins).table? "shed" = some twins ∧
      twins.columns[2]? = some ⟨"Wind", .int32⟩ ∧ twins.column? "Wind" = some 1 := by
  decide +kernel

end Catalog

end SqlPipeline
