/-
**Which changes a session tells its reader of.**

A session changes its catalog statement by statement, but tells its reader what a script did only
after the whole script: the lines about its changes are made from what it gives back, and a script
that is refused gives back nothing but the cause.  What it did before stays.  So every new table
and every new index was made by a statement of a script of the session, and is in the journal; the
reader is told of it if all statements of the script are taken, and otherwise the script puts out no
line.

Main definitions:

* `Catalog.Store.IsNew` — what is in a later catalog and was not in an earlier one;
* `Catalog.Store.Makes` — a statement makes a change, before one is refused;
* `Session.AccountsFor` — what a session says about a change of a script.

Main results:

* `Catalog.Store.Takes.eq_of_isNew` — one statement makes one change;
* `Catalog.Store.makes_of_isNew` — what is new was made by one of the statements;
* `Session.accountsFor_execute` — what executing a script says about a change that it makes;
* `Session.changes_told_unless_refused` — **every change is recorded, and the reader is told of it
  unless a later statement of its script is refused**;
* `Session.untold_table` — a session that creates a table and does not say so.
-/

import SqlPipeline.Proofs.Sessions
import SqlPipeline.Proofs.Targets

set_option autoImplicit false

namespace SqlPipeline

open Sql Journal

/-! ### What is new in a catalog -/

namespace Catalog.Store

variable {s s' u : Store} {st : Statement} {sts : List Statement} {change made : Change}
  {name : String}

/-- What is in the later of two catalogs and was not in the earlier one, as the change that makes
it: a table by its name, or an index by its name and that of its table. -/
def IsNew (s s' : Store) : Change → Prop
  | .tableCreated name => s.table? name = none ∧ ∃ t, s'.table? name = some t ∧ t.name = name
  | .indexCreated index name => ∃ t i, s'.table? name = some t ∧ t.name = name ∧ i ∈ t.indexes ∧
      i.name = index ∧ ∀ u, s.table? name = some u → i ∉ u.indexes
  | .skipped _ => False

theorem not_isNew_self (s : Store) (change : Change) : ¬ s.IsNew s change := by
  intro h
  cases change with
  | tableCreated name =>
      obtain ⟨hnone, t, ht, -⟩ := h
      rw [hnone] at ht
      cases ht
  | indexCreated index name =>
      obtain ⟨t, i, ht, -, hi, -, hold⟩ := h
      exact hold t ht hi
  | skipped name => exact h

/-- What is new after two steps is new after the one or after the other. -/
theorem IsNew.split (h : s.IsNew u change) (hextends : s'.Extends u) :
    s.IsNew s' change ∨ s'.IsNew u change := by
  cases change with
  | tableCreated name =>
      obtain ⟨hnone, t, ht, hname⟩ := h
      cases hfound : s'.table? name with
      | none => exact .inr ⟨hfound, t, ht, hname⟩
      | some t' =>
          obtain ⟨t'', ht'', hgrows⟩ := hextends.table? hfound
          cases ht.symm.trans ht''
          exact .inl ⟨hnone, t', hfound, hgrows.name.symm.trans hname⟩
  | indexCreated index name =>
      obtain ⟨t, i, ht, hname, hi, hindex, hold⟩ := h
      by_cases hthere : ∃ t', s'.table? name = some t' ∧ i ∈ t'.indexes
      · obtain ⟨t', hfound, hi'⟩ := hthere
        obtain ⟨t'', ht'', hgrows⟩ := hextends.table? hfound
        cases ht.symm.trans ht''
        exact .inl ⟨t', i, hfound, hgrows.name.symm.trans hname, hi', hindex, hold⟩
      · exact .inr ⟨t, i, ht, hname, hi, hindex, fun v hv hiv => hthere ⟨v, hv, hiv⟩⟩
  | skipped name => exact h.elim

/-- What is new after a table was put in is this table, or one of its indexes. -/
theorem isNew_put {t : Table} (h : s.IsNew (s.put t) change) :
    (change = .tableCreated t.name ∧ s.table? t.name = none) ∨
      ∃ i ∈ t.indexes, change = .indexCreated i.name t.name ∧
        ∀ u, s.table? t.name = some u → i ∉ u.indexes := by
  cases change with
  | tableCreated name =>
      obtain ⟨hnone, t', ht', rfl⟩ := h
      rw [table?_put] at ht'
      split at ht'
      · cases ht'
        exact .inl ⟨rfl, hnone⟩
      · rw [hnone] at ht'
        cases ht'
  | indexCreated index name =>
      obtain ⟨t', i, ht', rfl, hi, rfl, hold⟩ := h
      rw [table?_put] at ht'
      split at ht'
      · cases ht'
        exact .inr ⟨i, hi, rfl, hold⟩
      · exact absurd hi (hold t' ht')
  | skipped name => exact h.elim

/-- **A statement that is taken makes one change.** -/
theorem Takes.eq_of_isNew (htakes : s.Takes st made s') (h : s.IsNew s' change) :
    change = made := by
  cases htakes with
  | tableThere | indexThere => exact absurd h (not_isNew_self s change)
  | tableNew hnew htable =>
      have hdescribed := tableOf_eq_ok htable
      obtain ⟨rfl, -⟩ | ⟨i, hi, -⟩ := isNew_put h
      · rw [hdescribed.name]
      · rw [hdescribed.indexes] at hi
        cases hi
  | @indexNew d t column n htable hindexed hcolumn hnew =>
      have hfound : s.table? t.name = some t := table?_name htable
      obtain ⟨-, hnone⟩ | ⟨i, hi, rfl, hold⟩ := isNew_put h
      · rw [hfound] at hnone
        cases hnone
      · -- of the indexes only the last one was not there
        rcases List.mem_append.1 hi with hi | hi
        · exact absurd hi (hold t hfound)
        · cases List.mem_singleton.1 hi
          rfl

/-- One of the statements makes a change, and those before it are taken. -/
inductive Makes : Store → List Statement → Change → Prop where
  /-- The first statement makes it. -/
  | first {s s' : Store} {st : Statement} {change : Change} (h : s.Takes st change s')
      (sts : List Statement) : Makes s (st :: sts) change
  /-- A later one makes it. -/
  | later {s s' : Store} {st : Statement} {other change : Change} {sts : List Statement}
      (h : s.Takes st other s') (hrest : Makes s' sts change) : Makes s (st :: sts) change

/-- What is new after statements was made by one of them: by induction on the statements, as it is
new after the first or after the others. -/
theorem makes_of_isNew (h : s.IsNew (s.applyAll sts).value.1 change) :
    s.Makes sts change := by
  induction sts generalizing s with
  | nil => exact absurd h (not_isNew_self s change)
  | cons st sts ih =>
      rcases s.apply_cases st with ⟨made, s', hst, htakes⟩ | ⟨e, hst, -⟩
      · rw [applyAll_of_ok hst] at h
        rcases h.split (s'.extends_applyAll sts) with hfirst | hrest
        · cases htakes.eq_of_isNew hfirst
          exact .first htakes sts
        · exact .later htakes (ih hrest)
      · rw [applyAll_of_error hst] at h
        exact absurd h (not_isNew_self s change)

theorem records_applyAll_of_ok (h : s.apply st = (.ok change, s')) (sts : List Statement) :
    (s.applyAll (st :: sts)).records
      = Event.ddlApplied.record [("outcome", change.text)] :: (s'.applyAll sts).records := by
  rw [applyAll, h]
  simp [note]

/-- A change that is made is in the journal. -/
theorem Makes.mem_records (h : s.Makes sts change) :
    Event.ddlApplied.record [("outcome", change.text)] ∈ (s.applyAll sts).records := by
  induction h with
  | first h sts =>
      rw [records_applyAll_of_ok (apply_of_takes h)]
      exact List.mem_cons_self
  | later h _ ih =>
      rw [records_applyAll_of_ok (apply_of_takes h)]
      exact List.mem_cons_of_mem _ ih

/-- A change that is made is given back, if all statements are taken. -/
theorem Makes.mem_changes (h : s.Makes sts change) {changes : List Change}
    (hall : (s.applyAll sts).value.2 = .ok changes) : change ∈ changes := by
  induction h generalizing changes with
  | first h sts =>
      rw [applyAll_of_ok (apply_of_takes h)] at hall
      obtain ⟨rest, -, rfl⟩ := Outcome.map_eq_ok.1 hall
      exact List.mem_cons_self
  | later h _ ih =>
      rw [applyAll_of_ok (apply_of_takes h)] at hall
      obtain ⟨rest, hrest, rfl⟩ := Outcome.map_eq_ok.1 hall
      exact List.mem_cons_of_mem _ (ih hrest)

end Catalog.Store

/-! ### What a session says -/

namespace Session

variable {explained : Bool} {c : Catalog.Store} {script : String} {change : Catalog.Change}

/-- What is put out about a change that a script makes in a catalog: it is in the journal; the
reader is told if all statements of the script are taken; and else the script puts out nothing for
the reader. -/
structure AccountsFor (explained : Bool) (c : Catalog.Store) (script : String)
    (change : Catalog.Change) (es : List Emission) : Prop where
  applied : isQuery script = false
  made : ∃ sts, statements script = .ok sts ∧ c.Makes sts change
  recorded : .log (Event.ddlApplied.record [("outcome", change.text)]) ∈ es
  told : ∀ changes, (c.execute script).value.2 = .ok changes → .out (changeLine change) ∈ es
  silent : ∀ e, (c.execute script).value.2 = .error e →
    ∀ text, .out text ∉ (execute c explained script).2

theorem AccountsFor.mono {es es' : List Emission} (h : AccountsFor explained c script change es)
    (hes : es ⊆ es') : AccountsFor explained c script change es' where
  applied := h.applied
  made := h.made
  recorded := hes h.recorded
  told := fun changes hchanges => hes (h.told changes hchanges)
  silent := h.silent

theorem catalog_execute (explained : Bool) (c : Catalog.Store) (h : isQuery script = false) :
    (execute c explained script).1 = (c.execute script).value.1 := by
  rw [execute, if_neg (by simp [h])]

theorem log_mem_execute (explained : Bool) (h : isQuery script = false) {r : Record}
    (hr : r ∈ (c.execute script).records) : .log r ∈ (execute c explained script).2 := by
  rw [execute, if_neg (by simp [h])]
  exact List.mem_append_left _ (List.mem_map_of_mem hr)

theorem out_mem_execute_iff (explained : Bool) (h : isQuery script = false) (text : String) :
    .out text ∈ (execute c explained script).2 ↔
      ∃ changes, (c.execute script).value.2 = .ok changes ∧ text ∈ changes.map changeLine := by
  rw [execute, if_neg (by simp [h])]
  cases hresult : (c.execute script).value.2 with
  | ok changes => simp [hresult]
  | error f => simp [hresult]

/-- A script accounts for the changes that it makes. -/
theorem accountsFor_of_makes {sts : List Statement} (hquery : isQuery script = false)
    (hread : statements script = .ok sts) (hmakes : c.Makes sts change) :
    AccountsFor explained c script change (execute c explained script).2 where
  applied := hquery
  made := ⟨sts, hread, hmakes⟩
  recorded := by
    refine log_mem_execute explained hquery ?_
    rw [Catalog.Store.execute_of_ok hread]
    exact hmakes.mem_records
  told := by
    intro changes hall
    have hmem : change ∈ changes := by
      rw [Catalog.Store.execute_of_ok hread] at hall
      exact hmakes.mem_changes hall
    exact (out_mem_execute_iff explained hquery _).2 ⟨changes, hall, List.mem_map_of_mem hmem⟩
  silent := by
    intro e hrefused text hout
    obtain ⟨changes, hall, -⟩ := (out_mem_execute_iff explained hquery text).1 hout
    rw [hrefused] at hall
    cases hall

/-- What is new after a statement was made by a script, and is accounted for. -/
theorem accountsFor_execute (h : c.IsNew (execute c explained script).1 change) :
    AccountsFor explained c script change (execute c explained script).2 := by
  by_cases hquery : isQuery script = true
  · rw [execute_of_isQuery c hquery] at h
    exact absurd h (c.not_isNew_self change)
  · have hquery : isQuery script = false := by simpa using hquery
    rw [catalog_execute explained c hquery] at h
    cases hread : statements script with
    | error e =>
        rw [Catalog.Store.execute_of_error hread] at h
        exact absurd h (c.not_isNew_self change)
    | ok sts =>
        rw [Catalog.Store.execute_of_ok hread] at h
        exact accountsFor_of_makes hquery hread (Catalog.Store.makes_of_isNew h)

theorem extends_execute (explained : Bool) (c : Catalog.Store) (script : String) :
    c.Extends (execute c explained script).1 := by
  by_cases hquery : isQuery script = true
  · rw [execute_of_isQuery c hquery]
    exact .refl c
  · rw [catalog_execute explained c (by simpa using hquery)]
    exact c.extends_execute script

theorem extends_executeAll (explained : Bool) (c : Catalog.Store) (scripts : List String) :
    c.Extends (executeAll explained c scripts).1 := by
  induction scripts generalizing c with
  | nil => exact .refl c
  | cons script scripts ih => exact (extends_execute explained c script).trans (ih _)

/-- What is new after statements was made by one of them, and is accounted for: by induction on the
statements, as it is new after the first or after the others. -/
theorem exists_accountsFor {scripts : List String}
    (h : c.IsNew (executeAll explained c scripts).1 change) :
    ∃ k script, scripts[k]? = some script ∧
      AccountsFor explained (executeAll explained c (scripts.take k)).1 script change
        (executeAll explained c scripts).2 := by
  induction scripts generalizing c with
  | nil => exact absurd h (c.not_isNew_self change)
  | cons script scripts ih =>
      rcases h.split (extends_executeAll explained _ scripts) with hfirst | hlater
      · exact ⟨0, script, rfl, (accountsFor_execute hfirst).mono (List.subset_append_left _ _)⟩
      · obtain ⟨k, script', hscript', haccounts⟩ := ih hlater
        exact ⟨k + 1, script', hscript', haccounts.mono (List.subset_append_right _ _)⟩

/-- **Every change is recorded, and the reader is told of it unless a later statement of its script
is refused.**  For every catalog and every session, whether all its lines are texts or not: a table
or an index that is in the catalog after the session and was not before was made by a statement of
one of its scripts.  It is in the journal.  If all statements of the script are taken, its line is
put out; if one is refused, the script puts out nothing for the reader. -/
theorem changes_told_unless_refused (explained : Bool) (ls : List (Option String))
    (h : c.IsNew (run explained c ls).session.catalog change) :
    ∃ k script, (statementsFrom "" (readable ls))[k]? = some script ∧
      AccountsFor explained (executeAll explained c ((statementsFrom "" (readable ls)).take k)).1
        script change (run explained c ls).emissions := by
  obtain ⟨hcatalog, -, hout⟩ := @runLines_eq explained ⟨c, ""⟩ ls
  have hnew : c.IsNew (executeAll explained c (statementsFrom "" (readable ls))).1 change := by
    rw [← hcatalog]
    exact h
  obtain ⟨k, script, hscript, haccounts⟩ := exists_accountsFor hnew
  exact ⟨k, script, hscript, haccounts.mono (List.subset_cons_of_subset _ hout)⟩

/-- A line with a script that creates a table, and is refused at its second statement. -/
def sailLine : String :=
  "CREATE TABLE sail (id INT); CREATE TABLE Sail (x INT);"

/-- The session on this line. -/
def sailEnding : Ending where
  session := ⟨{ entries := [("sail", ⟨"sail", [⟨"id", .int32⟩], none, []⟩)] }, ""⟩
  emissions :=
    [.out (banner ++ "\n"), .out ">>> ",
     .log ⟨.info, "DDL_APPLIED", [("outcome", "TableCreated(\"sail\")")]⟩,
     .log ⟨.warn, "DDL_REJECTED",
       [("code", "EMBEDDB_CATALOG_TABLE_EXISTS"), ("reason", "Table already exists: Sail")]⟩,
     .err "EMBEDDB_CATALOG_TABLE_EXISTS: Table already exists: Sail\n", .out ">>> ", .out "\n"]
  isReadable := true

theorem run_sailLine : run false Catalog.Store.empty [some sailLine] = sailEnding := by
  decide +kernel

theorem isNew_sail :
    Catalog.Store.empty.IsNew (run false Catalog.Store.empty [some sailLine]).session.catalog
      (.tableCreated "sail") := by
  rw [run_sailLine]
  exact ⟨rfl, ⟨"sail", [⟨"id", .int32⟩], none, []⟩, by decide +kernel, rfl⟩

theorem changes_told_unless_refused_sailLine :
    Catalog.Store.empty.IsNew (run false Catalog.Store.empty [some sailLine]).session.catalog
        (.tableCreated "sail") ∧
      ∃ k script, (statementsFrom "" [sailLine])[k]? = some script ∧
        AccountsFor false
          (executeAll false Catalog.Store.empty ((statementsFrom "" [sailLine]).take k)).1
          script (.tableCreated "sail") sailEnding.emissions := by
  obtain ⟨k, script, hscript, haccounts⟩ :=
    changes_told_unless_refused false [some sailLine] isNew_sail
  rw [run_sailLine] at haccounts
  exact ⟨isNew_sail, k, script, hscript, haccounts⟩

/-- A session creates a table, and what it puts out for its reader does not say so. -/
theorem untold_table :
    Catalog.Store.empty.IsNew (run false Catalog.Store.empty [some sailLine]).session.catalog
        (.tableCreated "sail") ∧
      changeLine (.tableCreated "sail") = "Table sail created.\n" ∧
      .out "Table sail created.\n"
        ∉ (run false Catalog.Store.empty [some sailLine]).emissions ∧
      Emission.outText (run false Catalog.Store.empty [some sailLine]).emissions
        = banner ++ "\n>>> >>> \n" := by
  refine ⟨isNew_sail, by decide +kernel, ?_⟩
  rw [run_sailLine]
  decide +kernel

end Session

end SqlPipeline
