/-
**The best index of a column.**

A program that was generated names an index by its place among the indexes of the table, and the
place is found by searching these for the first one on the column.  So several indexes on a column,
an index on the primary key and an index on a column that there is not all take part in the search.
The place says which index is meant, no two columns share one, and it stays: an index that is
created later comes after those that are there, and is the best one of its column only if the column
had none.

Main definitions:

* `Catalog.Table.FirstOn` — the first index on a column;
* `Catalog.Table.Hinted` — what the hints of a table say;
* `Catalog.Store.hint?` — the best index of a column, by the name of the table;
* `Catalog.Store.HintsAfter` — what becomes of the hints when an index is created.

Main results:

* `Catalog.Table.hint_eq_primaryKey`, `Catalog.Table.hint_eq_secondary`,
  `Catalog.Table.hint_eq_none` — when a column has which hint;
* `Catalog.Table.hint_addIndex` — the hints of a table with one more index;
* `Catalog.Store.index_hints` — **hints are exact, and stay**.
-/

import SqlPipeline.Proofs.Targets

set_option autoImplicit false

namespace SqlPipeline.Catalog

open Sql

/-! ### Tables -/

namespace Table

/-- The index at place `k` is on column `c`, and none before it is. -/
def FirstOn (t : Table) (c k : Nat) : Prop :=
  (∃ i, t.indexes[k]? = some i ∧ i.column = c) ∧
    ∀ j i, j < k → t.indexes[j]? = some i → i.column ≠ c

/-- What the hints of a table say: there is one for each column; the primary key comes first, then
the first index on the column; columns share no index; and the places can be stored in 32 bits. -/
structure Hinted (t : Table) : Prop where
  length_eq : t.hints.length = t.columns.length
  primaryKey_iff : ∀ c h, t.hints[c]? = some h → (h = .primaryKey ↔ t.primaryKey = some c)
  secondary_iff : ∀ c h k, t.hints[c]? = some h → t.primaryKey ≠ some c →
    (h = .secondary k ↔ t.FirstOn c k)
  none_iff : ∀ c h, t.hints[c]? = some h → t.primaryKey ≠ some c →
    (h = .none ↔ ∀ i ∈ t.indexes, i.column ≠ c)
  column_eq : ∀ c c' k : Nat, t.hints[c]? = some (.secondary k) →
    t.hints[c']? = some (.secondary k) → c = c'
  ordinal_lt : ∀ c k : Nat, t.hints[c]? = some (.secondary k) → k < UInt32.size

variable {t : Table} {c c' k : Nat}

theorem firstOn_iff :
    t.FirstOn c k ↔ t.indexes.findIdx? (fun i => i.column == c) = some k := by
  rw [List.findIdx?_eq_some_iff_getElem]
  constructor
  · rintro ⟨⟨i, hi, hcolumn⟩, hbefore⟩
    obtain ⟨hk, rfl⟩ := List.getElem?_eq_some_iff.1 hi
    refine ⟨hk, by simpa using hcolumn, fun j hj => ?_⟩
    simpa using hbefore j _ hj (List.getElem?_eq_getElem (hj.trans hk))
  · rintro ⟨hk, hcolumn, hbefore⟩
    refine ⟨⟨_, List.getElem?_eq_getElem hk, by simpa using hcolumn⟩, fun j i hj hi => ?_⟩
    obtain ⟨_, rfl⟩ := List.getElem?_eq_some_iff.1 hi
    simpa using hbefore j hj

theorem FirstOn.lt (h : t.FirstOn c k) : k < t.indexes.length := by
  obtain ⟨⟨i, hi, -⟩, -⟩ := h
  exact (List.getElem?_eq_some_iff.1 hi).1

/-- An index is on one column. -/
theorem FirstOn.column_eq (h : t.FirstOn c k) (h' : t.FirstOn c' k) : c = c' := by
  obtain ⟨⟨i, hi, rfl⟩, -⟩ := h
  obtain ⟨⟨i', hi', rfl⟩, -⟩ := h'
  cases hi.symm.trans hi'
  rfl

theorem hint_eq_primaryKey : t.hint c = .primaryKey ↔ t.primaryKey = some c := by
  unfold hint
  split
  · next h => simp [h]
  · next h =>
      split <;> simp [h]

theorem hint_eq_secondary : t.hint c = .secondary k ↔ t.primaryKey ≠ some c ∧ t.FirstOn c k := by
  rw [firstOn_iff]
  unfold hint
  split
  · next h => simp [h]
  · next h =>
      split
      · next ordinal hfirst => simp [h, hfirst]
      · next hnone => simp [hnone]

theorem hint_eq_none :
    t.hint c = .none ↔ t.primaryKey ≠ some c ∧ ∀ i ∈ t.indexes, i.column ≠ c := by
  have hsearch : (∀ i ∈ t.indexes, i.column ≠ c) ↔
      t.indexes.findIdx? (fun i => i.column == c) = .none := by
    rw [List.findIdx?_eq_none_iff]
    simp
  rw [hsearch]
  unfold hint
  split
  · next h => simp [h]
  · next h =>
      split
      · next ordinal hfirst => simp [hfirst]
      · next hnone => simp [h, hnone]

theorem getElem?_hints (t : Table) (c : Nat) :
    t.hints[c]? = if c < t.columns.length then some (t.hint c) else .none := by
  unfold hints
  rw [List.getElem?_map]
  split
  · next h => simp [List.getElem?_range h]
  · next h =>
      rw [List.getElem?_eq_none (by simpa using h)]
      rfl

theorem eq_hint_of_getElem? {h : Hint} (hc : t.hints[c]? = some h) : h = t.hint c := by
  rw [getElem?_hints] at hc
  split at hc
  · exact (Option.some.inj hc).symm
  · cases hc

/-- Hints are exact. -/
theorem hinted (t : Table) (hfew : t.indexes.length < UInt32.size) : t.Hinted where
  length_eq := by simp [hints]
  primaryKey_iff := by
    intro c h hc
    rw [eq_hint_of_getElem? hc, hint_eq_primaryKey]
  secondary_iff := by
    intro c h k hc hkey
    rw [eq_hint_of_getElem? hc, hint_eq_secondary]
    exact and_iff_right hkey
  none_iff := by
    intro c h hc hkey
    rw [eq_hint_of_getElem? hc, hint_eq_none]
    exact and_iff_right hkey
  column_eq := by
    intro c c' k hc hc'
    have hfirst := (hint_eq_secondary.1 (eq_hint_of_getElem? hc).symm).2
    have hfirst' := (hint_eq_secondary.1 (eq_hint_of_getElem? hc').symm).2
    exact hfirst.column_eq hfirst'
  ordinal_lt := by
    intro c k hc
    have hfirst := (hint_eq_secondary.1 (eq_hint_of_getElem? hc).symm).2
    exact hfirst.lt.trans hfew

/-- One more index is the best one of its column if the column had none, and changes no other
hint. -/
theorem hint_addIndex (t : Table) (name : String) (n c : Nat) :
    Table.hint { t with indexes := t.indexes ++ [⟨name, n⟩] } c
      = if c = n ∧ t.hint c = .none then .secondary t.indexes.length else t.hint c := by
  unfold hint
  by_cases hkey : t.primaryKey = some c
  · simp [hkey]
  · simp only [hkey, if_false, List.findIdx?_append, List.findIdx?_singleton]
    cases hfirst : t.indexes.findIdx? (fun i => i.column == c) with
    | some k => simp
    | none =>
        by_cases hc : n = c
        · simp [hc]
        · have hc' : c ≠ n := Ne.symm hc
          simp [hc, hc']

end Table

/-! ### Catalogs -/

/-- Whether a change is a new index. -/
def Change.isIndexCreated : Change → Bool
  | indexCreated _ _ => true
  | tableCreated _ => false
  | skipped _ => false

namespace Store

/-- The best index of the column with the given number, by the name of the table. -/
def hint? (s : Store) (table : String) (c : Nat) : Option Hint :=
  (s.hints? table).bind fun hints => hints[c]?

/-- What becomes of the hints when an index is to be created on column `n` of a table with `count`
indexes: those of other tables and of other columns stay, and that of the column becomes the new
index if the index is new and there was none, and stays otherwise.  Places can still be stored in 32
bits. -/
structure HintsAfter (s s' : Store) (table : String) (n count : Nat) (isNew : Bool) : Prop where
  tables_eq : ∀ other, Text.sameName other table = false → s'.hints? other = s.hints? other
  columns_eq : ∀ c, c ≠ n → s'.hint? table c = s.hint? table c
  column_eq : s'.hint? table n
    = if isNew = true ∧ s.hint? table n = some .none then some (.secondary count)
      else s.hint? table n
  ordinal_lt : ∀ c k, s'.hint? table c = some (.secondary k) → k < UInt32.size

variable {s s' : Store} {name : String} {t : Table}

theorem hint?_of_table? (h : s.table? name = some t) (c : Nat) :
    s.hint? name c = if c < t.columns.length then some (t.hint c) else none := by
  rw [hint?, hints?, h]
  exact t.getElem?_hints c

theorem hints?_of_table? {other : String} (h : s'.table? other = s.table? other) :
    s'.hints? other = s.hints? other := by
  rw [hints?, hints?, h]

/-- The hints of a table with one more index. -/
theorem hint?_put_addIndex {index : String} {n : Nat} (h : s.table? name = some t)
    (hname : Text.lower t.name = Text.lower name) (hn : n < t.columns.length) (c : Nat) :
    (s.put { t with indexes := t.indexes ++ [⟨index, n⟩] }).hint? name c
      = if c = n ∧ s.hint? name c = some .none then some (.secondary t.indexes.length)
        else s.hint? name c := by
  have hfound : (s.put { t with indexes := t.indexes ++ [⟨index, n⟩] }).table? name
      = some { t with indexes := t.indexes ++ [⟨index, n⟩] } := table?_put_self s hname
  rw [hint?_of_table? hfound, hint?_of_table? h, t.hint_addIndex index n c]
  by_cases hc : c < t.columns.length
  · simp only [if_pos hc, Option.some.injEq]
    split <;> rfl
  · have hne : c ≠ n := fun heq => hc (heq ▸ hn)
    simp [if_neg hc, hne]

/-- A column has a place only among the indexes that the table has. -/
theorem lt_of_hint?_eq_secondary (h : s.table? name = some t) {c k : Nat}
    (hc : s.hint? name c = some (.secondary k)) : k < t.indexes.length := by
  rw [hint?_of_table? h] at hc
  split at hc
  · exact (Table.hint_eq_secondary.1 (Option.some.inj hc)).2.lt
  · cases hc

/-- An index that is there already changes no hint. -/
theorem hintsAfter_refl (h : s.table? name = some t) (hfew : t.indexes.length < UInt32.size)
    (n : Nat) : HintsAfter s s name n t.indexes.length false where
  tables_eq := fun _ _ => rfl
  columns_eq := fun _ _ => rfl
  column_eq := by simp
  ordinal_lt := fun _ _ hc => (lt_of_hint?_eq_secondary h hc).trans hfew

theorem hintsAfter_addIndex {index : String} {n : Nat} (h : s.table? name = some t)
    (hname : Text.lower t.name = Text.lower name) (hn : n < t.columns.length)
    (hfew : t.indexes.length < UInt32.size) :
    HintsAfter s (s.put { t with indexes := t.indexes ++ [⟨index, n⟩] }) name n t.indexes.length
      true where
  tables_eq := by
    intro other hother
    refine hints?_of_table? ?_
    rw [table?_put, hname, if_neg (Text.lower_ne hother)]
  columns_eq := by
    intro c hc
    rw [hint?_put_addIndex h hname hn, if_neg fun hboth => hc hboth.1]
  column_eq := by
    rw [hint?_put_addIndex h hname hn]
    simp
  ordinal_lt := by
    intro c k hc
    rw [hint?_put_addIndex h hname hn] at hc
    split at hc
    · cases hc
      exact hfew
    · exact (lt_of_hint?_eq_secondary h hc).trans hfew

/-- **Hints are exact, and stay.**  For every table with less than 2³² indexes, whatever these are:
there is one hint for each column; it is the primary key exactly if the column is that, else the
first index on the column, else nothing; and columns share no index.  In every catalog, a definition
of an index that is taken leaves the hints of all other tables and of all other columns as they are,
and changes that of its column only from nothing to the new index, which stands after those that the
table had. -/
theorem index_hints :
    (∀ t : Table, t.indexes.length < UInt32.size → t.Hinted) ∧
      ∀ (s s' : Store) (d : IndexDefinition) (t : Table) (change : Change),
        s.table? (pathName d.table) = some t → t.indexes.length < UInt32.size →
        s.apply (.createIndex d) = (.ok change, s') →
        ∃ column n, indexedColumn d = .ok column ∧ t.column? column = some n ∧
          HintsAfter s s' (pathName d.table) n t.indexes.length change.isIndexCreated := by
  refine ⟨Table.hinted, ?_⟩
  intro s s' d t change htable hfew happly
  cases apply_eq_ok.1 happly with
  | indexThere htable' hindexed hcolumn hthere hskip =>
      cases htable.symm.trans htable'
      exact ⟨_, _, hindexed, hcolumn, hintsAfter_refl htable hfew _⟩
  | indexNew htable' hindexed hcolumn hnew =>
      cases htable.symm.trans htable'
      exact ⟨_, _, hindexed, hcolumn, hintsAfter_addIndex htable (lower_name htable)
        (Table.column?_lt hcolumn) hfew⟩

/-- A table with two indexes on one column, one on the primary key, and one on a column that there
is not. -/
def mast : Table where
  name := "mast"
  columns := [⟨"id", .int32⟩, ⟨"wind", .int32⟩, ⟨"rain", .int64⟩]
  primaryKey := some 0
  indexes := [⟨"far", 7⟩, ⟨"byWind", 1⟩, ⟨"byKey", 0⟩, ⟨"again", 1⟩]

/-- The definition of an index on the column that has none. -/
def rainIndex : IndexDefinition where
  name := none
  table := [⟨"Mast", none⟩]
  ifNotExists := false
  columns := [.ident ⟨"RAIN", none⟩]

theorem index_hints_mast :
    mast.Hinted ∧ mast.hints = [.primaryKey, .secondary 1, .none] ∧
      ∃ s', (Store.empty.put mast).apply (.createIndex rainIndex)
          = (.ok (.indexCreated "idx_mast_RAIN" "mast"), s') ∧
        s'.hint? "Mast" 1 = some (.secondary 1) ∧ s'.hint? "Mast" 2 = some (.secondary 4) := by
  obtain ⟨hinted, hafter⟩ := index_hints
  refine ⟨hinted mast (by decide), rfl, _, rfl, ?_⟩
  obtain ⟨column, n, hindexed, hcolumn, hhints⟩ :=
    hafter (Store.empty.put mast) _ rainIndex mast _ rfl (by decide) rfl
  cases hindexed
  obtain rfl : n = 2 := (Option.some.inj hcolumn).symm
  refine ⟨hhints.columns_eq 1 (by decide), hhints.column_eq.trans ?_⟩
  rw [if_pos ⟨rfl, rfl⟩]
  rfl

end Store

end SqlPipeline.Catalog
