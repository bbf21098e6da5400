/-
**Catalogs are sound after every history of scripts.**

A catalog is reached by scripts, any number of them, taken or refused, each of which may have been
refused in the middle.  Planning relies on what such a catalog promises: the key of a table is its
name in lower case, a table has columns, its primary key can only be the first of them, and an index
is on a column that there is.  A later script never takes any of this back: tables stay as they were
defined, and the indexes of a table are only added to.

Both are statements about one statement of a script, since a statement that is taken does one of
three things (`Catalog.Store.Takes`), and are carried along a script and along a history.

Main definitions:

* `Catalog.Table.Sound`, `Catalog.Store.Sound` — what every table and every catalog promises;
* `Catalog.Table.Grows`, `Catalog.Store.Extends` — a later table, and a later catalog.

Main results:

* `Catalog.Store.Sound.put`, `Catalog.Store.extends_put` — putting a table in;
* `Catalog.Store.Takes.extends`, `Catalog.Store.Sound.takes` — **a statement only extends a catalog,
  and keeps it sound**;
* `Catalog.Store.sound_after` — **so do scripts, from the empty catalog on**.
-/

import SqlPipeline.Proofs.Definitions

set_option autoImplicit false

namespace SqlPipeline.Catalog

open Sql

/-! ### What catalogs promise -/

/-- What every table of a catalog promises.  Names of indexes differ in more than the case of their
letters. -/
structure Table.Sound (t : Table) : Prop where
  columns_ne : t.columns ≠ []
  primaryKey : t.primaryKey = none ∨ t.primaryKey = some 0
  index_lt : ∀ i ∈ t.indexes, i.column < t.columns.length
  index_names : t.indexes.Pairwise fun i j => Text.sameName i.name j.name = false

/-- What every catalog promises.  Tables stand under their names in lower case, and these differ. -/
structure Store.Sound (s : Store) : Prop where
  key_eq : ∀ e ∈ s.entries, e.1 = Text.lower e.2.name
  ascending : Ascending s.entries
  tables : ∀ e ∈ s.entries, e.2.Sound

/-- A later table: it has the name, the columns and the primary key that it had, and the indexes
that it had come first. -/
structure Table.Grows (t t' : Table) : Prop where
  name : t'.name = t.name
  columns : t'.columns = t.columns
  primaryKey : t'.primaryKey = t.primaryKey
  indexes : t.indexes <+: t'.indexes

/-- A later catalog: each table is still there, under the same key, as it was or with more
indexes. -/
def Store.Extends (s s' : Store) : Prop :=
  ∀ key t, (key, t) ∈ s.entries → ∃ t', (key, t') ∈ s'.entries ∧ t.Grows t'

/-! ### Tables -/

theorem Table.Grows.refl (t : Table) : t.Grows t :=
  ⟨rfl, rfl, rfl, List.prefix_refl _⟩

theorem Table.Grows.trans {t u v : Table} (h : t.Grows u) (h' : u.Grows v) : t.Grows v where
  name := h'.name.trans h.name
  columns := h'.columns.trans h.columns
  primaryKey := h'.primaryKey.trans h.primaryKey
  indexes := h.indexes.trans h'.indexes

theorem Table.grows_addIndex (t : Table) (i : Index) :
    t.Grows { t with indexes := t.indexes ++ [i] } :=
  ⟨rfl, rfl, rfl, List.prefix_append _ _⟩

theorem Described.sound {d : TableDefinition} {t : Table} (h : Described d t) : t.Sound where
  columns_ne := h.columns_ne
  primaryKey := h.primaryKey
  index_lt := by simp [h.indexes]
  index_names := by simp [h.indexes]

/-- A table stays sound with an index on one of its columns, under a name that no index has. -/
theorem Table.Sound.addIndex {t : Table} (h : t.Sound) {name : String} {n : Nat}
    (hn : n < t.columns.length) (hnew : t.hasIndex name = false) :
    Table.Sound { t with indexes := t.indexes ++ [⟨name, n⟩] } where
  columns_ne := h.columns_ne
  primaryKey := h.primaryKey
  index_lt := by
    intro i hi
    rcases List.mem_append.1 hi with hi | hi
    · exact h.index_lt i hi
    · rw [List.mem_singleton.1 hi]
      exact hn
  index_names := by
    refine List.pairwise_append.2 ⟨h.index_names, by simp, ?_⟩
    intro i hi j hj
    rw [List.mem_singleton.1 hj]
    exact Bool.eq_false_iff.2 (List.any_eq_false.1 hnew i hi)

theorem Table.column?_lt {t : Table} {name : String} {n : Nat} (h : t.column? name = some n) :
    n < t.columns.length := by
  obtain ⟨hlt, -⟩ := List.findIdx?_eq_some_iff_getElem.1 h
  exact hlt

/-! ### Catalogs -/

namespace Store

variable {s s' s'' : Store}

theorem Extends.refl (s : Store) : s.Extends s :=
  fun _ t ht => ⟨t, ht, .refl t⟩

theorem Extends.trans (h : s.Extends s') (h' : s'.Extends s'') : s.Extends s'' := by
  intro key t ht
  obtain ⟨u, hu, htu⟩ := h key t ht
  obtain ⟨v, hv, huv⟩ := h' key u hu
  exact ⟨v, hv, htu.trans huv⟩

theorem sound_empty : Store.empty.Sound where
  key_eq := Store.empty.key_eq
  ascending := Store.empty.ascending
  tables := by simp [Store.empty]

/-- No two tables have names that differ only in the case of their letters. -/
theorem eq_of_sameName {a b : String × Table} (ha : a ∈ s.entries) (hb : b ∈ s.entries)
    (hname : Text.sameName a.2.name b.2.name = true) : a = b := by
  have hlower : Text.lower a.2.name = Text.lower b.2.name := Text.sameName_iff.1 hname
  have hkey : a.1 = b.1 := by rw [s.key_eq a ha, s.key_eq b hb, hlower]
  have hfound : s.table? b.2.name = some a.2 := by
    rw [← table?_of_mem ha, table?, table?, hlower]
  rw [table?_of_mem hb] at hfound
  exact Prod.ext hkey (Option.some.inj hfound).symm

/-- In a later catalog a name finds a later table. -/
theorem Extends.table? (h : s.Extends s') {name : String} {t : Table}
    (ht : s.table? name = some t) : ∃ t', s'.table? name = some t' ∧ t.Grows t' := by
  obtain ⟨t', hmem, hgrows⟩ := h _ t (s.ascending.lookup_eq_some.1 ht)
  exact ⟨t', s'.ascending.lookup_eq_some.2 hmem, hgrows⟩

/-- A catalog stays sound when a sound table is put in. -/
theorem Sound.put (h : s.Sound) {t : Table} (ht : t.Sound) : (s.put t).Sound where
  key_eq := (s.put t).key_eq
  ascending := (s.put t).ascending
  tables := by
    intro e he
    rcases mem_putEntry he with rfl | he
    · exact ht
    · exact h.tables e he

/-- Putting a table in extends a catalog, if it grew out of the one of its name. -/
theorem extends_put {t : Table} (ht : ∀ u, s.table? t.name = some u → u.Grows t) :
    s.Extends (s.put t) := by
  intro key u hu
  have hput : ∀ v, (putEntry (Text.lower t.name) t s.entries).lookup key = some v →
      (key, v) ∈ (s.put t).entries :=
    fun v hv => (s.put t).ascending.lookup_eq_some.1 hv
  have hfound : s.entries.lookup key = some u := s.ascending.lookup_eq_some.2 hu
  by_cases hkey : key = Text.lower t.name
  · subst hkey
    exact ⟨t, hput t (by rw [lookup_putEntry, if_pos rfl]), ht u hfound⟩
  · refine ⟨u, hput u ?_, .refl u⟩
    rw [lookup_putEntry, if_neg hkey]
    exact hfound

/-- **A statement that is taken only extends a catalog.** -/
theorem Takes.extends {st : Statement} {change : Change} (h : s.Takes st change s') :
    s.Extends s' := by
  cases h with
  | tableThere | indexThere => exact .refl s
  | @tableNew d t hnew htable =>
      refine extends_put fun u hu => ?_
      -- nothing is found by the name of a new table
      rw [(tableOf_eq_ok htable).name, hnew] at hu
      cases hu
  | @indexNew d t column n htable hindexed hcolumn hnew =>
      refine extends_put fun u hu => ?_
      -- what is found by the name is the table that the index is put on
      cases (table?_name htable).symm.trans hu
      exact t.grows_addIndex _

/-- **A statement that is taken keeps a catalog sound.** -/
theorem Sound.takes {st : Statement} {change : Change} (h : s.Sound)
    (htakes : s.Takes st change s') : s'.Sound := by
  cases htakes with
  | tableThere | indexThere => exact h
  | tableNew _ htable => exact h.put (tableOf_eq_ok htable).sound
  | indexNew htable _ hcolumn hnew =>
      have hmem := mem_of_table? htable
      exact h.put ((h.tables _ hmem).addIndex (Table.column?_lt hcolumn) hnew)

theorem extends_applyAll (s : Store) (sts : List Statement) :
    s.Extends (s.applyAll sts).value.1 :=
  applyAll_keeps (I := s.Extends) (fun h htakes => h.trans htakes.extends) (.refl s) sts

theorem extends_execute (s : Store) (script : String) : s.Extends (s.execute script).value.1 :=
  execute_keeps (I := s.Extends) (fun h htakes => h.trans htakes.extends) (.refl s) script

theorem extends_after (s : Store) (scripts : List String) : s.Extends (s.after scripts) :=
  after_keeps (I := s.Extends) (fun h htakes => h.trans htakes.extends) (.refl s) scripts

/-- Scripts keep a catalog sound. -/
theorem Sound.after (h : s.Sound) (scripts : List String) : (s.after scripts).Sound :=
  after_keeps Sound.takes h scripts

/-- **A catalog is sound after every history of scripts, and later ones only extend it.** -/
theorem sound_after (earlier later : List String) :
    (Store.empty.after earlier).Sound ∧
      (∀ a ∈ (Store.empty.after earlier).entries, ∀ b ∈ (Store.empty.after earlier).entries,
        Text.sameName a.2.name b.2.name = true → a = b) ∧
      (Store.empty.after earlier).Extends (Store.empty.after (earlier ++ later)) := by
  refine ⟨sound_empty.after earlier, fun a ha b hb hname => eq_of_sameName ha hb hname, ?_⟩
  rw [after_append]
  exact extends_after _ later

/-- A history in which the last statement is refused, as it names an index that there is. -/
def gateHistory : List String :=
  ["CREATE TABLE Gate (k INT, v INT)", "CREATE INDEX i ON gate (V); CREATE INDEX I ON gate (k)"]

example : (Store.empty.after gateHistory).entries =
    [("gate", {
      name := "Gate", columns := [⟨"k", .int32⟩, ⟨"v", .int32⟩], indexes := [⟨"i", 1⟩] })] := by
  decide +kernel

end Store

end SqlPipeline.Catalog
