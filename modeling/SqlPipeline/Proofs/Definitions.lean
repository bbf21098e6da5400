/-
**What a definition does to a catalog.**

A statement that a catalog takes does one of three things: it leaves the catalog as it is, because
what it defines is there already; it puts a new table in; or it puts an index after those of a
table.  Every other statement is refused at one of the checks on the way, and although the work on
a catalog is not taken back, the catalog is then the one before the statement: nothing is put in
before the last check.  The relations `Catalog.Store.Takes` and `Catalog.Store.Refuses` say so once,
exit by exit, and what is kept by scripts and by histories of scripts is derived from them.

Tables stand under keys.  Putting one in changes what is found under its own key and nothing else.
A catalog is no more than what is found in it.

Main definitions:

* `Catalog.Store.Takes` — a statement that is taken, and what it does;
* `Catalog.Store.Refuses` — a statement that is refused, and why;
* `Catalog.Store.after` — the catalog after scripts, refused ones among them.

Main results:

* `Catalog.lookup_putEntry` — what is found under a key after a table was put in;
* `Catalog.Store.ext_of_table?` — catalogs in which the same tables are found are equal;
* `Catalog.tableOf_eq_ok` — the table that a definition describes;
* `Catalog.Store.takes_or_refuses` — every statement leaves by one of the exits;
* `Catalog.Store.apply_eq_ok` — **a statement is taken exactly if it does one of these things**;
* `Catalog.Store.apply_eq_error` — **a statement that is refused leaves the catalog as it was**;
* `Catalog.Store.after_keeps` — what every statement keeps is kept by scripts.
-/

import Mathlib
import SqlPipeline.Catalog.Definition
import SqlPipeline.Proofs.Outcome

set_option autoImplicit false

namespace SqlPipeline.Catalog

open Sql Outcome

/-! ### Entries -/

section

variable {key : String} {t : Table} {es : List (String × Table)}

theorem lookup_cons_eq (k k' : String) (u : Table) (es : List (String × Table)) :
    ((k', u) :: es).lookup k = if k = k' then some u else es.lookup k := by
  by_cases hk : k = k'
  · simp [hk]
  · have hbeq : (k == k') = false := by simpa using hk
    rw [List.lookup_cons, hbeq, if_neg hk]

/-- What is found under a key after a table was put in. -/
theorem lookup_putEntry (key : String) (t : Table) (es : List (String × Table)) (k : String) :
    (putEntry key t es).lookup k = if k = key then some t else es.lookup k := by
  induction es with
  | nil => exact lookup_cons_eq k key t []
  | cons e es ih =>
      obtain ⟨k', u⟩ := e
      rw [putEntry]
      split
      · exact lookup_cons_eq k key t _
      · split
        · -- the table takes the place of the one under its key
          next _ hkey =>
            rw [lookup_cons_eq, lookup_cons_eq, ← hkey]
            split
            · rfl
            · rfl
        · next _ hkey =>
            rw [lookup_cons_eq, lookup_cons_eq, ih]
            by_cases hk : k = k'
            · rw [if_pos hk, if_neg (hk ▸ Ne.symm hkey), if_pos hk]
            · rw [if_neg hk, if_neg hk]

/-- Where keys are in order, what is found under a key is what stands there. -/
theorem Ascending.lookup_eq_some (h : Ascending es) {k : String} :
    es.lookup k = some t ↔ (k, t) ∈ es := by
  unfold Ascending at h
  induction es with
  | nil => simp
  | cons e es ih =>
      obtain ⟨hhead, htail⟩ := List.pairwise_cons.1 h
      obtain ⟨k', u⟩ := e
      by_cases hk : k = k'
      · subst hk
        have hnot : (k, t) ∉ es := fun hmem => lt_irrefl k (hhead _ hmem)
        simp [hnot, eq_comm]
      · simp [lookup_cons_eq, hk, ih htail]

/-- Entries in order are determined by what stands in them. -/
theorem Ascending.eq_of_subset {es' : List (String × Table)} (h : Ascending es)
    (h' : Ascending es') (hsub : es ⊆ es') (hsub' : es' ⊆ es) : es = es' := by
  have hirrefl : Std.Irrefl fun a b : String × Table => a.1 < b.1 := ⟨fun a => lt_irrefl a.1⟩
  have hantisymm : Std.Antisymm fun a b : String × Table => a.1 < b.1 :=
    ⟨fun _ _ hab hba => absurd hab (lt_asymm hba)⟩
  exact List.Subset.antisymm_of_pairwise h h' hsub hsub'

end

/-! ### Catalogs -/

namespace Store

variable {s s' : Store} {name : String} {t : Table}

/-- A table that is put in is found by its name, and every other name finds what it found. -/
theorem table?_put (s : Store) (t : Table) (name : String) :
    (s.put t).table? name
      = if Text.lower name = Text.lower t.name then some t else s.table? name :=
  lookup_putEntry _ t s.entries _

theorem table?_put_self (s : Store) (h : Text.lower t.name = Text.lower name) :
    (s.put t).table? name = some t := by
  rw [table?_put, if_pos h.symm]

/-- A table that is found by a name has this name, whatever the case of its letters. -/
theorem lower_name (ht : s.table? name = some t) : Text.lower t.name = Text.lower name :=
  (s.key_eq _ (s.ascending.lookup_eq_some.1 ht)).symm

/-- A table that is found by a name is found by its own. -/
theorem table?_name (ht : s.table? name = some t) : s.table? t.name = some t := by
  rw [table?, lower_name ht]
  exact ht

/-- A table that is found by a name stands under its own name in lower case. -/
theorem mem_of_table? (ht : s.table? name = some t) : (Text.lower t.name, t) ∈ s.entries := by
  rw [lower_name ht]
  exact s.ascending.lookup_eq_some.1 ht

/-- A table that stands somewhere is found by its name. -/
theorem table?_of_mem {e : String × Table} (he : e ∈ s.entries) :
    s.table? e.2.name = some e.2 := by
  have hkey : (Text.lower e.2.name, e.2) ∈ s.entries := by
    rw [← s.key_eq e he]
    exact he
  exact s.ascending.lookup_eq_some.2 hkey

/-- What stands in a catalog stands in every other in which the same tables are found. -/
theorem subset_of_table? (htables : ∀ name, s.table? name = s'.table? name) :
    s.entries ⊆ s'.entries := by
  intro e he
  have hmem := mem_of_table? ((htables e.2.name).symm.trans (table?_of_mem he))
  rwa [← s.key_eq e he] at hmem

/-- Catalogs in which the same tables are found are equal. -/
theorem ext_of_table? (htables : ∀ name, s.table? name = s'.table? name) : s = s' := by
  have hentries : s.entries = s'.entries :=
    s.ascending.eq_of_subset s'.ascending (subset_of_table? htables)
      (subset_of_table? fun name => (htables name).symm)
  cases s
  cases s'
  cases hentries
  rfl

end Store

/-! ### The table of a definition -/

theorem primaryKeyAt_eq_ok {table : String} {key key' : Option Nat} {column : Nat}
    (h : primaryKeyAt table key column = .ok key') : key' = some 0 := by
  unfold primaryKeyAt at h
  split at h
  · cases h
  · split at h
    · cases h
    · next hcolumn =>
        cases h
        simpa using hcolumn

/-- A primary key that is declared is the first column. -/
theorem columnKey_eq_ok {d : TableDefinition} {key : Option Nat} (h : columnKey d = .ok key) :
    key = none ∨ key = some 0 := by
  refine foldlM_induct (I := fun _ key => key = none ∨ key = some 0) h (.inl rfl) ?_
  intro done x rest key key' _ hkey hstep
  dsimp only at hstep
  split at hstep
  · exact .inr (primaryKeyAt_eq_ok hstep)
  · cases hstep
    exact hkey

theorem constraintKey_eq_ok {table : String} {columns : List Column} {key key' : Option Nat}
    {c : TableConstraint} (hkey : key = none ∨ key = some 0)
    (h : constraintKey table columns key c = .ok key') : key' = none ∨ key' = some 0 := by
  unfold constraintKey at h
  split at h
  · cases h
    exact hkey
  · split at h
    · exact .inr (primaryKeyAt_eq_ok h)
    · cases h
  · cases h

/-- A table as a definition describes it: it has the columns of the definition, at least one, no
index yet, and its first column as the primary key if it has one. -/
structure Described (d : TableDefinition) (t : Table) : Prop where
  name : t.name = pathName d.name
  columns : t.columns = d.columns.map fun c => ⟨c.name.value, declaredType c.type⟩
  columns_ne : t.columns ≠ []
  primaryKey : t.primaryKey = none ∨ t.primaryKey = some 0
  indexes : t.indexes = []

/-- The table that a definition describes. -/
theorem tableOf_eq_ok {d : TableDefinition} {t : Table} (h : tableOf d = .ok t) :
    Described d t := by
  unfold tableOf at h
  dsimp only at h
  split at h
  · cases h
  · next hne =>
      obtain ⟨key, hkey, h⟩ := bind_eq_ok.1 h
      obtain ⟨primaryKey, hprimary, h⟩ := bind_eq_ok.1 h
      obtain rfl := pure_eq_ok.1 h
      refine ⟨rfl, rfl, by simpa using hne, ?_, rfl⟩
      exact foldlM_induct (I := fun _ key => key = none ∨ key = some 0) hprimary
        (columnKey_eq_ok hkey) fun _ _ _ _ _ _ hkey hstep => constraintKey_eq_ok hkey hstep

/-! ### Statements that are taken -/

/-- Whether a table has an index of the given name, whatever the case of its letters. -/
def Table.hasIndex (t : Table) (name : String) : Bool :=
  t.indexes.any fun i => Text.sameName i.name name

namespace Store

/-- A statement that the catalog takes, what it does, and the catalog after it. -/
inductive Takes (s : Store) : Statement → Change → Store → Prop where
  /-- The table is there already, and is left as it is. -/
  | tableThere {d : TableDefinition} (hthere : (s.table? (pathName d.name)).isSome = true)
      (hskip : d.ifNotExists = true) :
      Takes s (.createTable d) (.skipped (pathName d.name)) s
  /-- The table is new. -/
  | tableNew {d : TableDefinition} {t : Table} (hnew : s.table? (pathName d.name) = none)
      (htable : tableOf d = .ok t) :
      Takes s (.createTable d) (.tableCreated (pathName d.name)) (s.put t)
  /-- The index is there already, and is left as it is. -/
  | indexThere {d : IndexDefinition} {t : Table} {column : String} {n : Nat}
      (htable : s.table? (pathName d.table) = some t) (hindexed : indexedColumn d = .ok column)
      (hcolumn : t.column? column = some n)
      (hthere : t.hasIndex (indexName d t.name column) = true) (hskip : d.ifNotExists = true) :
      Takes s (.createIndex d) (.skipped (indexName d t.name column)) s
  /-- The index is new, and comes after the others. -/
  | indexNew {d : IndexDefinition} {t : Table} {column : String} {n : Nat}
      (htable : s.table? (pathName d.table) = some t) (hindexed : indexedColumn d = .ok column)
      (hcolumn : t.column? column = some n)
      (hnew : t.hasIndex (indexName d t.name column) = false) :
      Takes s (.createIndex d) (.indexCreated (indexName d t.name column) t.name)
        (s.put { t with indexes := t.indexes ++ [⟨indexName d t.name column, n⟩] })

/-- A statement that the catalog refuses, at one of the checks on its way, and why. -/
inductive Refuses (s : Store) : Statement → Fault → Prop where
  | tableThere {d : TableDefinition} (hthere : (s.table? (pathName d.name)).isSome = true)
      (hskip : d.ifNotExists = false) :
      Refuses s (.createTable d) (.tableExists (pathName d.name))
  /-- The definition describes no table. -/
  | noTable {d : TableDefinition} {e : Fault} (hnew : s.table? (pathName d.name) = none)
      (htable : tableOf d = .error e) : Refuses s (.createTable d) e
  | tableMissing {d : IndexDefinition} (htable : s.table? (pathName d.table) = none) :
      Refuses s (.createIndex d) (.tableNotFound (pathName d.table))
  /-- The index is not on one column. -/
  | notIndexed {d : IndexDefinition} {t : Table} {e : Fault}
      (htable : s.table? (pathName d.table) = some t) (hindexed : indexedColumn d = .error e) :
      Refuses s (.createIndex d) e
  | columnMissing {d : IndexDefinition} {t : Table} {column : String}
      (htable : s.table? (pathName d.table) = some t) (hindexed : indexedColumn d = .ok column)
      (hcolumn : t.column? column = none) :
      Refuses s (.createIndex d) (.columnNotFound t.name column)
  | indexThere {d : IndexDefinition} {t : Table} {column : String} {n : Nat}
      (htable : s.table? (pathName d.table) = some t) (hindexed : indexedColumn d = .ok column)
      (hcolumn : t.column? column = some n)
      (hthere : t.hasIndex (indexName d t.name column) = true) (hskip : d.ifNotExists = false) :
      Refuses s (.createIndex d) (.indexExists (indexName d t.name column))
  /-- Queries define nothing. -/
  | query (q : Sql.Query) (text : String) :
      Refuses s (.query q text) (.unsupported (.statement (firstWords text)))
  | other (text : String) : Refuses s (.other text) (.unsupported (.statement (firstWords text)))

variable {s s' : Store} {st : Statement} {change : Change} {e : Fault}

theorem takes_or_refuses_createTable (s : Store) (d : TableDefinition) :
    (∃ change s', s.Takes (.createTable d) change s') ∨ ∃ e, s.Refuses (.createTable d) e := by
  cases hnew : s.table? (pathName d.name) with
  | some t =>
      have hthere : (s.table? (pathName d.name)).isSome = true := by rw [hnew]; rfl
      cases hskip : d.ifNotExists with
      | true => exact .inl ⟨_, _, .tableThere hthere hskip⟩
      | false => exact .inr ⟨_, .tableThere hthere hskip⟩
  | none =>
      cases htable : tableOf d with
      | ok t => exact .inl ⟨_, _, .tableNew hnew htable⟩
      | error e => exact .inr ⟨e, .noTable hnew htable⟩

theorem takes_or_refuses_createIndex (s : Store) (d : IndexDefinition) :
    (∃ change s', s.Takes (.createIndex d) change s') ∨ ∃ e, s.Refuses (.createIndex d) e := by
  cases htable : s.table? (pathName d.table) with
  | none => exact .inr ⟨_, .tableMissing htable⟩
  | some t =>
      cases hindexed : indexedColumn d with
      | error e => exact .inr ⟨e, .notIndexed htable hindexed⟩
      | ok column =>
          cases hcolumn : t.column? column with
          | none => exact .inr ⟨_, .columnMissing htable hindexed hcolumn⟩
          | some n =>
              cases hthere : t.hasIndex (indexName d t.name column) with
              | false => exact .inl ⟨_, _, .indexNew htable hindexed hcolumn hthere⟩
              | true =>
                  cases hskip : d.ifNotExists with
                  | true => exact .inl ⟨_, _, .indexThere htable hindexed hcolumn hthere hskip⟩
                  | false => exact .inr ⟨_, .indexThere htable hindexed hcolumn hthere hskip⟩

/-- Every statement leaves by one of the exits. -/
theorem takes_or_refuses (s : Store) (st : Statement) :
    (∃ change s', s.Takes st change s') ∨ ∃ e, s.Refuses st e := by
  cases st with
  | createTable d => exact takes_or_refuses_createTable s d
  | createIndex d => exact takes_or_refuses_createIndex s d
  | query q text => exact .inr ⟨_, .query q text⟩
  | other text => exact .inr ⟨_, .other text⟩

/-- Reading the catalog leaves it as it is. -/
theorem run_get {α : Type} (f : Store → Defining α) (s : Store) :
    (get >>= f).run.run s = (f s).run.run s := rfl

theorem run_ok {α β : Type} (a : α) (f : α → Defining β) (s : Store) :
    ((liftM (.ok a : Except Fault α) : Defining α) >>= f).run.run s = (f a).run.run s := rfl

theorem run_error {α β : Type} (e : Fault) (f : α → Defining β) (s : Store) :
    ((liftM (.error e : Except Fault α) : Defining α) >>= f).run.run s = (.error e, s) := rfl

theorem apply_of_takes (h : s.Takes st change s') : s.apply st = (.ok change, s') := by
  cases h with
  | tableThere hthere hskip =>
      simp only [apply, define, createTable, run_get, hthere, hskip, if_true]
      rfl
  | tableNew hnew htable =>
      simp only [apply, define, createTable, run_get, hnew, htable, Option.isSome_none]
      rfl
  | indexThere htable hindexed hcolumn hthere hskip =>
      unfold Table.hasIndex at hthere
      simp only [apply, define, createIndex, run_get, htable, hindexed, run_ok, hcolumn, hthere,
        hskip, if_true]
      rfl
  | indexNew htable hindexed hcolumn hnew =>
      unfold Table.hasIndex at hnew
      simp only [apply, define, createIndex, run_get, htable, hindexed, run_ok, hcolumn, hnew]
      rfl

/-- At each of the checks, the catalog is still the one before the statement. -/
theorem apply_of_refuses (h : s.Refuses st e) : s.apply st = (.error e, s) := by
  cases h with
  | tableThere hthere hskip =>
      simp only [apply, define, createTable, run_get, hthere, hskip, if_true]
      rfl
  | noTable hnew htable =>
      simp only [apply, define, createTable, run_get, hnew, htable, Option.isSome_none]
      rfl
  | tableMissing htable =>
      simp only [apply, define, createIndex, run_get, htable]
      rfl
  | notIndexed htable hindexed =>
      simp only [apply, define, createIndex, run_get, htable, hindexed, run_error]
  | columnMissing htable hindexed hcolumn =>
      simp only [apply, define, createIndex, run_get, htable, hindexed, run_ok, hcolumn]
      rfl
  | indexThere htable hindexed hcolumn hthere hskip =>
      unfold Table.hasIndex at hthere
      simp only [apply, define, createIndex, run_get, htable, hindexed, run_ok, hcolumn, hthere,
        hskip, if_true]
      rfl
  | query q text => rfl
  | other text => rfl

/-- **A statement is taken exactly if it leaves the catalog, puts a new table in, or puts an index
after those of a table.** -/
theorem apply_eq_ok : s.apply st = (.ok change, s') ↔ s.Takes st change s' := by
  refine ⟨fun h => ?_, apply_of_takes⟩
  rcases s.takes_or_refuses st with ⟨_, _, htakes⟩ | ⟨_, hrefuses⟩
  · rw [apply_of_takes htakes] at h
    cases h
    exact htakes
  · rw [apply_of_refuses hrefuses] at h
    cases h

/-- **A statement that is refused leaves the catalog as it was.** -/
theorem apply_eq_error : s.apply st = (.error e, s') ↔ s.Refuses st e ∧ s' = s := by
  constructor
  · intro h
    rcases s.takes_or_refuses st with ⟨_, _, htakes⟩ | ⟨_, hrefuses⟩
    · rw [apply_of_takes htakes] at h
      cases h
    · rw [apply_of_refuses hrefuses] at h
      cases h
      exact ⟨hrefuses, rfl⟩
  · rintro ⟨hrefuses, rfl⟩
    exact apply_of_refuses hrefuses

theorem refuses_of_apply (h : (s.apply st).1 = .error e) : s.Refuses st e :=
  (apply_eq_error.1 (Prod.ext h rfl)).1

/-- The two outcomes of a statement. -/
theorem apply_cases (s : Store) (st : Statement) :
    (∃ change s', s.apply st = (.ok change, s') ∧ s.Takes st change s') ∨
      ∃ e, s.apply st = (.error e, s) ∧ s.Refuses st e := by
  rcases s.takes_or_refuses st with ⟨change, s', h⟩ | ⟨e, h⟩
  · exact .inl ⟨change, s', apply_of_takes h, h⟩
  · exact .inr ⟨e, apply_of_refuses h, h⟩

/-! ### Scripts -/

theorem applyAll_of_error (h : s.apply st = (.error e, s')) (sts : List Statement) :
    (s.applyAll (st :: sts)).value = (s', .error e) := by
  rw [applyAll, h]
  rfl

theorem applyAll_of_ok (h : s.apply st = (.ok change, s')) (sts : List Statement) :
    (s.applyAll (st :: sts)).value
      = ((s'.applyAll sts).value.1, (s'.applyAll sts).value.2.map (change :: ·)) := by
  rw [applyAll, h]
  rfl

theorem execute_of_error {script : String} {e : SyntaxFault} (h : statements script = .error e) :
    (s.execute script).value = (s, .error .unreadable) := by
  rw [execute, h]
  rfl

theorem execute_of_ok {script : String} {sts : List Statement} (h : statements script = .ok sts) :
    s.execute script = s.applyAll sts := by
  rw [execute, h]

/-- The catalog after scripts, each executed whether those before it were refused or not. -/
def after (s : Store) (scripts : List String) : Store :=
  scripts.foldl (fun s script => (s.execute script).value.1) s

theorem after_append (s : Store) (earlier later : List String) :
    s.after (earlier ++ later) = (s.after earlier).after later :=
  List.foldl_append

section

variable {I : Store → Prop}

/-- What every statement that is taken keeps is kept by statements, up to one that is refused. -/
theorem applyAll_keeps (step : ∀ {u u' st change}, I u → u.Takes st change u' → I u') (h : I s)
    (sts : List Statement) : I (s.applyAll sts).value.1 := by
  induction sts generalizing s with
  | nil => exact h
  | cons st sts ih =>
      rcases s.apply_cases st with ⟨change, s', hst, htakes⟩ | ⟨e, hst, -⟩
      · rw [applyAll_of_ok hst]
        exact ih (step h htakes)
      · rw [applyAll_of_error hst]
        exact h

/-- What every statement that is taken keeps is kept by a script. -/
theorem execute_keeps (step : ∀ {u u' st change}, I u → u.Takes st change u' → I u') (h : I s)
    (script : String) : I (s.execute script).value.1 := by
  cases hread : statements script with
  | error e =>
      rw [execute_of_error hread]
      exact h
  | ok sts =>
      rw [execute_of_ok hread]
      exact applyAll_keeps step h sts

/-- What every statement that is taken keeps is kept by scripts, by induction on these. -/
theorem after_keeps (step : ∀ {u u' st change}, I u → u.Takes st change u' → I u') (h : I s)
    (scripts : List String) : I (s.after scripts) := by
  induction scripts generalizing s with
  | nil => exact h
  | cons script scripts ih => exact ih (execute_keeps step h script)

end

end Store

end SqlPipeline.Catalog
