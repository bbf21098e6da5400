/-
**Scripts that can be replayed.**

A definition with `IF NOT EXISTS` is passed over if what it defines is there.  This is asked late:
an index is looked for by its name only after its table and its column were found, and the name may
be made of these.  But a table keeps its name and its columns, and its indexes are only added to.
So what a statement once defined, or found, is found by the same statement in every later catalog,
and a script of such definitions that was taken is passed over as a whole if it is executed again.

Main definitions:

* `Catalog.isLenient` — a definition with `IF NOT EXISTS`;
* `Catalog.Store.Finds` — what a statement defines is there, under a name.

Main results:

* `Catalog.Store.Takes.finds` — what a statement that is taken defines is there after it;
* `Catalog.Store.Finds.extends` — and in every later catalog;
* `Catalog.Store.Finds.apply_eq` — so that a lenient statement is passed over;
* `Catalog.Store.applyAll_again` — as are all statements of a script;
* `Catalog.Store.replayed_script` — **a script of lenient definitions changes nothing when it is
  executed again**.
-/

import SqlPipeline.Proofs.Targets

set_option autoImplicit false

namespace SqlPipeline.Catalog

open Sql Outcome

/-- Whether a statement defines a table or an index that may be there already. -/
def isLenient : Statement → Bool
  | .createTable d => d.ifNotExists
  | .createIndex d => d.ifNotExists
  | .query _ _ => false
  | .other _ => false

/-- The name of what was created or found. -/
def Change.name : Change → String
  | tableCreated name => name
  | indexCreated index _ => index
  | skipped name => name

/-- What a lenient statement does when it comes again: it passes over what it created or found. -/
def Change.repeated (change : Change) : Change :=
  .skipped change.name

/-! ### Tables that grow -/

namespace Table

variable {t t' : Table} {name : String}

theorem Grows.column? (h : t.Grows t') (column : String) :
    t'.column? column = t.column? column := by
  rw [Table.column?, Table.column?, h.columns]

/-- No index is lost. -/
theorem Grows.hasIndex (h : t.Grows t') (hthere : t.hasIndex name = true) :
    t'.hasIndex name = true := by
  obtain ⟨i, hi, hsame⟩ := List.any_eq_true.1 hthere
  exact List.any_eq_true.2 ⟨i, h.indexes.subset hi, hsame⟩

theorem hasIndex_addIndex (t : Table) (name : String) (n : Nat) :
    Table.hasIndex { t with indexes := t.indexes ++ [⟨name, n⟩] } name = true := by
  simp [hasIndex, Text.sameName_refl]

end Table

/-! ### One statement -/

namespace Store

/-- The table or the index that a statement defines is there, under the given name. -/
inductive Finds (s : Store) : Statement → String → Prop where
  | table {d : TableDefinition} (hthere : (s.table? (pathName d.name)).isSome = true) :
      Finds s (.createTable d) (pathName d.name)
  | index {d : IndexDefinition} {t : Table} {column : String} {n : Nat}
      (htable : s.table? (pathName d.table) = some t) (hindexed : indexedColumn d = .ok column)
      (hcolumn : t.column? column = some n)
      (hthere : t.hasIndex (indexName d t.name column) = true) :
      Finds s (.createIndex d) (indexName d t.name column)

variable {s s' u : Store} {st : Statement} {sts : List Statement} {change : Change} {name : String}

/-- What a statement that is taken defines is there after it. -/
theorem Takes.finds (h : s.Takes st change s') : s'.Finds st change.name := by
  cases h with
  | tableThere hthere _ => exact .table hthere
  | @tableNew d t hnew htable =>
      refine .table ?_
      rw [table?_put_self s (by rw [(tableOf_eq_ok htable).name])]
      rfl
  | indexThere htable hindexed hcolumn hthere _ => exact .index htable hindexed hcolumn hthere
  | @indexNew d t column n htable hindexed hcolumn hnew =>
      -- the table with the index stands in the place of the one that was found
      have hname : Text.lower t.name = Text.lower (pathName d.table) := lower_name htable
      have hfound : (s.put { t with
          indexes := t.indexes ++ [⟨indexName d t.name column, n⟩] }).table? (pathName d.table)
            = some { t with indexes := t.indexes ++ [⟨indexName d t.name column, n⟩] } :=
        table?_put_self s hname
      have hfinds := Finds.index hfound hindexed hcolumn (t.hasIndex_addIndex _ n)
      exact hfinds

/-- What is there is there in every later catalog, under the same name. -/
theorem Finds.extends (h : s.Finds st name) (hextends : s.Extends u) : u.Finds st name := by
  cases h with
  | table hthere =>
      obtain ⟨t, ht⟩ := Option.isSome_iff_exists.1 hthere
      obtain ⟨t', ht', -⟩ := hextends.table? ht
      exact .table (by rw [ht']; rfl)
  | @index d t column n htable hindexed hcolumn hthere =>
      obtain ⟨t', htable', hgrows⟩ := hextends.table? htable
      rw [← hgrows.name] at hthere ⊢
      exact .index htable' hindexed ((hgrows.column? column).trans hcolumn)
        (hgrows.hasIndex hthere)

/-- A lenient statement is passed over where what it defines is there. -/
theorem Finds.apply_eq (h : s.Finds st name) (hlenient : isLenient st = true) :
    s.apply st = (.ok (.skipped name), s) := by
  cases h with
  | table hthere => exact apply_eq_ok.2 (.tableThere hthere hlenient)
  | index htable hindexed hcolumn hthere =>
      exact apply_eq_ok.2 (.indexThere htable hindexed hcolumn hthere hlenient)

/-! ### Scripts -/

/-- Lenient statements that were taken are passed over in every later catalog, by induction on the
statements: each was taken in a catalog that the later one extends. -/
theorem applyAll_again {changes : List Change} (hlenient : ∀ st ∈ sts, isLenient st = true)
    (h : (s.applyAll sts).value = (s', .ok changes)) (hextends : s'.Extends u) :
    (u.applyAll sts).value = (u, .ok (changes.map Change.repeated)) := by
  induction sts generalizing s changes with
  | nil =>
      cases h
      rfl
  | cons st sts ih =>
      obtain ⟨hst, hsts⟩ := List.forall_mem_cons.1 hlenient
      rcases s.apply_cases st with ⟨change, s₁, happly, htakes⟩ | ⟨e, happly, -⟩
      · rw [applyAll_of_ok happly] at h
        obtain ⟨hcatalog, hchanges⟩ := Prod.ext_iff.1 h
        obtain ⟨rest, hrest, rfl⟩ := map_eq_ok.1 hchanges
        have hvalue : (s₁.applyAll sts).value = (s', .ok rest) := Prod.ext hcatalog hrest
        have hlater : s₁.Extends u := by
          have hafter := s₁.extends_applyAll sts
          rw [hvalue] at hafter
          exact hafter.trans hextends
        have hskips : u.apply st = (.ok change.repeated, u) :=
          (htakes.finds.extends hlater).apply_eq hst
        rw [applyAll_of_ok hskips, ih hsts hvalue]
        rfl
      · rw [applyAll_of_error happly] at h
        cases h

/-- **A script of lenient definitions changes nothing when it is executed again.**  In every
catalog, statements with `IF NOT EXISTS` that are all taken are all passed over in the catalog that
they lead to, each under the name that it created or found, and leave it as it is.  So is a script
of such statements. -/
theorem replayed_script {changes : List Change}
    (hlenient : ∀ st ∈ sts, isLenient st = true)
    (h : (s.applyAll sts).value = (s', .ok changes)) :
    (s'.applyAll sts).value = (s', .ok (changes.map Change.repeated)) ∧
      ∀ script, statements script = .ok sts →
        (s.execute script).value = (s', .ok changes) ∧
          (s'.execute script).value = (s', .ok (changes.map Change.repeated)) := by
  have hagain := applyAll_again hlenient h (.refl s')
  refine ⟨hagain, fun script hread => ?_⟩
  rw [execute_of_ok hread, execute_of_ok hread]
  exact ⟨h, hagain⟩

/-- A script of lenient definitions, for a table that there is and an index on it, with the names in
other letters than before. -/
def berthScript : String :=
  "CREATE TABLE IF NOT EXISTS DOCK (x INT); CREATE INDEX IF NOT EXISTS i ON Dock (K)"

/-- Its statements. -/
def berths : List Statement :=
  [.createTable {
     name := [⟨"DOCK", none⟩], ifNotExists := true, constraints := []
     columns := [⟨⟨"x", none⟩, ⟨"INT", .int .w32⟩, false⟩] },
   .createIndex {
     name := some [⟨"i", none⟩], table := [⟨"Dock", none⟩], ifNotExists := true
     columns := [.ident ⟨"K", none⟩] }]

/-- The catalog that it leads to. -/
def indexedDocks : Store :=
  Store.empty.put ⟨"dock", [⟨"k", .int32⟩], none, [⟨"i", 0⟩]⟩

theorem replayed_script_berths :
    statements berthScript = .ok berths ∧
      (docks.execute berthScript).value
        = (indexedDocks, .ok [.skipped "DOCK", .indexCreated "i" "dock"]) ∧
      (indexedDocks.execute berthScript).value
        = (indexedDocks, .ok [.skipped "DOCK", .skipped "i"]) := by
  have hread : statements berthScript = .ok berths := by decide +kernel
  have hfirst : (docks.applyAll berths).value
      = (indexedDocks, .ok [.skipped "DOCK", .indexCreated "i" "dock"]) := by decide +kernel
  have hlenient : ∀ st ∈ berths, isLenient st = true := by decide
  obtain ⟨-, hscript⟩ := replayed_script hlenient hfirst
  exact ⟨hread, hscript berthScript hread⟩

end Store

end SqlPipeline.Catalog
