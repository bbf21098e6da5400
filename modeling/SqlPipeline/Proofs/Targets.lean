/-
**A statement concerns one table.**

The definition of a table names it, and so does the definition of an index.  Whatever such a
statement does, whether it is taken, passed over or refused, depends on the table of this name and
on nothing else in the catalog, and it puts no other table in.  So two statements that name
different tables do the same in either order, each of them what it does alone, and lead to the same
catalog.

Main definitions:

* `Catalog.target?` — the name of the table that a statement concerns;
* `Catalog.Store.revise` — a catalog with or without a table put in.

Main results:

* `Catalog.Store.Refuses.of_table?` — whether a statement is refused, and why, depends on the table
  that it names;
* `Catalog.Store.exists_revision` — what a statement does depends on this table too, and it puts no
  other in;
* `Catalog.Store.table?_alone` — every other table stays as it is;
* `Catalog.Store.definitions_commute` — **definitions of different tables commute**.
-/

import SqlPipeline.Proofs.Histories
import SqlPipeline.Proofs.Scripts

set_option autoImplicit false

namespace SqlPipeline

theorem Text.lower_ne {a b : String} (h : sameName a b = false) : lower a ≠ lower b := by
  simpa [sameName] using h

namespace Catalog

open Sql

/-! ### Putting a table in -/

namespace Store

/-- The catalog with a table under its name, or as it is. -/
def revise (s : Store) : Option Table → Store
  | none => s
  | some t => s.put t

/-- A table that is put in, if one is, has the given name, whatever the case of its letters. -/
def Named (name : String) : Option Table → Prop
  | none => True
  | some t => Text.lower t.name = Text.lower name

variable {s u : Store}

/-- Tables of different names can be put in in either order. -/
theorem put_comm {t t' : Table} (hne : Text.lower t.name ≠ Text.lower t'.name) :
    (s.put t).put t' = (s.put t').put t := by
  refine ext_of_table? fun name => ?_
  simp only [table?_put]
  by_cases ht : Text.lower name = Text.lower t.name
  · rw [if_pos ht, if_pos ht, if_neg fun ht' => hne (ht.symm.trans ht')]
  · rw [if_neg ht, if_neg ht]

theorem revise_comm {new new' : Option Table} {name name' : String} (hnew : Named name new)
    (hnew' : Named name' new') (hne : Text.lower name ≠ Text.lower name') :
    (s.revise new).revise new' = (s.revise new').revise new := by
  cases new with
  | none => rfl
  | some t =>
      cases new' with
      | none => rfl
      | some t' =>
          have hname : Text.lower t.name = Text.lower name := hnew
          have hname' : Text.lower t'.name = Text.lower name' := hnew'
          refine put_comm fun heq => hne ?_
          rw [← hname, ← hname', heq]

theorem table?_revise {new : Option Table} {name other : String} (hnew : Named name new)
    (hne : Text.lower other ≠ Text.lower name) :
    (s.revise new).table? other = s.table? other := by
  cases new with
  | none => rfl
  | some t =>
      have hname : Text.lower t.name = Text.lower name := hnew
      rw [revise, table?_put, hname, if_neg hne]

end Store

/-! ### The table that a statement names -/

/-- The name of the table that a statement defines, or puts an index on. -/
def target? : Statement → Option String
  | .createTable d => some (pathName d.name)
  | .createIndex d => some (pathName d.table)
  | .query _ _ => none
  | .other _ => none

namespace Store

variable {s u : Store} {st : Statement} {name : String}

/-- Whether a statement is refused, and why, depends on the table that it names. -/
theorem Refuses.of_table? {e : Fault} (h : s.Refuses st e) (htarget : target? st = some name)
    (hsame : u.table? name = s.table? name) : u.Refuses st e := by
  cases h with
  | tableThere hthere hskip =>
      cases htarget
      exact .tableThere (hsame ▸ hthere) hskip
  | noTable hnew htable =>
      cases htarget
      exact .noTable (hsame.trans hnew) htable
  | tableMissing htable =>
      cases htarget
      exact .tableMissing (hsame.trans htable)
  | notIndexed htable hindexed =>
      cases htarget
      exact .notIndexed (hsame.trans htable) hindexed
  | columnMissing htable hindexed hcolumn =>
      cases htarget
      exact .columnMissing (hsame.trans htable) hindexed hcolumn
  | indexThere htable hindexed hcolumn hthere hskip =>
      cases htarget
      exact .indexThere (hsame.trans htable) hindexed hcolumn hthere hskip
  | query q text => cases htarget
  | other text => cases htarget

/-- A statement that is taken puts in a table of the name that it names, or none, and does the same
in every catalog with this table. -/
theorem Takes.of_table? {s' : Store} {change : Change} (h : s.Takes st change s')
    (htarget : target? st = some name) (hsame : u.table? name = s.table? name) :
    ∃ new, Named name new ∧ s' = s.revise new ∧ u.Takes st change (u.revise new) := by
  cases h with
  | tableThere hthere hskip =>
      cases htarget
      exact ⟨none, trivial, rfl, .tableThere (hsame ▸ hthere) hskip⟩
  | @tableNew d t hnew htable =>
      cases htarget
      have hname : Text.lower t.name = Text.lower (pathName d.name) := by
        rw [(tableOf_eq_ok htable).name]
      exact ⟨some t, hname, rfl, .tableNew (hsame.trans hnew) htable⟩
  | indexThere htable hindexed hcolumn hthere hskip =>
      cases htarget
      exact ⟨none, trivial, rfl, .indexThere (hsame.trans htable) hindexed hcolumn hthere hskip⟩
  | indexNew htable hindexed hcolumn hnew =>
      cases htarget
      have hname := lower_name htable
      refine ⟨some _, ?_, rfl, .indexNew (hsame.trans htable) hindexed hcolumn hnew⟩
      exact hname

/-- **What a statement does depends on the table that it names, and it puts no other in.**  In every
catalog with this table it does the same, and has the same table put in, if one is. -/
theorem exists_revision (htarget : target? st = some name)
    (hsame : u.table? name = s.table? name) :
    ∃ new result, Named name new ∧ s.alone st = (s.revise new, result) ∧
      u.alone st = (u.revise new, result) := by
  rcases s.apply_cases st with ⟨change, s', hst, htakes⟩ | ⟨e, hst, hrefuses⟩
  · obtain ⟨new, hnew, rfl, hu⟩ := htakes.of_table? htarget hsame
    exact ⟨new, .ok [change], hnew, alone_of_ok hst, alone_of_ok (apply_of_takes hu)⟩
  · have hu := hrefuses.of_table? htarget hsame
    exact ⟨none, .error e, trivial, alone_of_error hst, alone_of_error (apply_of_refuses hu)⟩

/-- Every other table stays as it is. -/
theorem table?_alone (s : Store) (htarget : target? st = some name) {other : String}
    (hne : Text.lower other ≠ Text.lower name) :
    (s.alone st).1.table? other = s.table? other := by
  obtain ⟨new, result, hnew, hst, -⟩ := exists_revision (u := s) htarget rfl
  rw [hst]
  exact table?_revise hnew hne

/-- Statements that name different tables do the same in either order. -/
theorem alone_comm (s : Store) {st' : Statement} {name' : String}
    (htarget : target? st = some name) (htarget' : target? st' = some name')
    (hne : Text.lower name ≠ Text.lower name') :
    ((s.alone st).1.alone st').2 = (s.alone st').2 ∧
      ((s.alone st').1.alone st).2 = (s.alone st).2 ∧
      ((s.alone st).1.alone st').1 = ((s.alone st').1.alone st).1 := by
  obtain ⟨new, result, hnew, hst, hafter⟩ :=
    exists_revision htarget (s.table?_alone htarget' hne)
  obtain ⟨new', result', hnew', hst', hafter'⟩ :=
    exists_revision htarget' (s.table?_alone htarget (Ne.symm hne))
  rw [hafter, hafter', hst, hst']
  exact ⟨rfl, rfl, revise_comm hnew hnew' hne⟩

/-- **Definitions of different tables commute.**  In every catalog, two scripts with one definition
each, of tables or indexes, for tables whose names differ in more than the case of their letters:
each does what it does alone, or is refused for the same cause, whichever comes first; both orders
lead to the same catalog; and each leaves every table but its own as it is. -/
theorem definitions_commute (s : Store) {a b : String} {st st' : Statement}
    {name name' : String} (ha : statements a = .ok [st]) (hb : statements b = .ok [st'])
    (htarget : target? st = some name) (htarget' : target? st' = some name')
    (hne : Text.sameName name name' = false) :
    let afterA := (s.execute a).value.1
    let afterB := (s.execute b).value.1
    (afterA.execute b).value.2 = (s.execute b).value.2 ∧
      (afterB.execute a).value.2 = (s.execute a).value.2 ∧
      (afterA.execute b).value.1 = (afterB.execute a).value.1 ∧
      (∀ other, Text.sameName other name = false → afterA.table? other = s.table? other) ∧
      ∀ other, Text.sameName other name' = false → afterB.table? other = s.table? other := by
  simp only [execute_eq_alone ha, execute_eq_alone hb]
  obtain ⟨hb', ha', hboth⟩ := s.alone_comm htarget htarget' (Text.lower_ne hne)
  exact ⟨hb', ha', hboth, fun other h => s.table?_alone htarget (Text.lower_ne h),
    fun other h => s.table?_alone htarget' (Text.lower_ne h)⟩

/-- The catalog that a script leaves which is refused halfway. -/
def docks : Store :=
  (Store.empty.execute dockScript).value.1

/-- The definition of an index on its table. -/
def dockIndex : Statement :=
  .createIndex {
    name := some [⟨"i", none⟩], table := [⟨"DOCK", none⟩], ifNotExists := false
    columns := [.ident ⟨"K", none⟩] }

/-- A script with this definition. -/
def dockIndexScript : String :=
  "CREATE INDEX i ON DOCK (K)"

/-- A script with the definition of another table. -/
def pierScript : String :=
  "CREATE TABLE pier (k INT)"

theorem statements_dockIndexScript : statements dockIndexScript = .ok [dockIndex] := by
  decide +kernel

theorem statements_pierScript : statements pierScript = .ok [narrowTable "pier" "k"] := by
  decide +kernel

theorem definitions_commute_docks :
    statements dockIndexScript = .ok [dockIndex] ∧
      statements pierScript = .ok [narrowTable "pier" "k"] ∧
      Text.sameName "DOCK" "pier" = false ∧
      ((docks.execute dockIndexScript).value.1.execute pierScript).value.1
        = ((docks.execute pierScript).value.1.execute dockIndexScript).value.1 ∧
      (docks.execute pierScript).value.1.table? "Dock" = docks.table? "Dock" := by
  have hne : Text.sameName "DOCK" "pier" = false := by decide
  obtain ⟨-, -, hboth, -, hframe⟩ :=
    definitions_commute docks statements_dockIndexScript statements_pierScript rfl rfl hne
  exact ⟨statements_dockIndexScript, statements_pierScript, hne, hboth,
    hframe "Dock" (by decide)⟩

end Store

end Catalog

end SqlPipeline
