/-
**A script is its statements, one after the other.**

A script is read as a whole before any of its statements is looked at, and is then worked off until
a statement is refused.  So a script comes to executing its statements as scripts of their own, up
to the first that is refused: what was done before it stays, it does nothing itself, and what stands
after it is not looked at.  That it does nothing holds at each of the checks that can refuse it,
although what a statement has done to a catalog would stay.  A script that cannot be read does
nothing.

Main definitions:

* `Catalog.Store.alone` — what a statement does as a script of its own;
* `Catalog.Store.oneByOne` — the catalog after statements, each as a script of its own;
* `Catalog.Store.TakesEach` — each of the statements is taken when its turn comes.

Main results:

* `Catalog.Store.applyAll_append` — a script can be cut after statements that are taken;
* `Catalog.Store.takesEach_or_refuses` — statements are all taken, or there is a first that is not;
* `Catalog.Store.execute_stepwise` — **what a script does**.
-/

import SqlPipeline.Proofs.Definitions

set_option autoImplicit false

namespace SqlPipeline.Catalog.Store

open Sql Outcome

/-- What a statement does as a script of its own: the catalog after it, and what it did or why it
was refused. -/
def alone (s : Store) (st : Statement) : Store × Except Fault (List Change) :=
  (s.applyAll [st]).value

/-- The catalog after statements, each as a script of its own. -/
def oneByOne (s : Store) (sts : List Statement) : Store :=
  sts.foldl (fun s st => (s.alone st).1) s

/-- Each of the statements is taken, as a script of its own after those before it. -/
def TakesEach (s : Store) (sts : List Statement) : Prop :=
  ∀ k st, sts[k]? = some st → ∃ change, ((s.oneByOne (sts.take k)).alone st).2 = .ok [change]

variable {s s' : Store} {st : Statement} {sts : List Statement}

/-! ### One statement -/

/-- A text with one statement is the script of this statement. -/
theorem execute_eq_alone {text : String} (h : statements text = .ok [st]) (s : Store) :
    (s.execute text).value = s.alone st := by
  rw [execute_of_ok h]
  rfl

/-- A statement that is taken does one thing, and a script goes on after it. -/
theorem alone_of_ok {change : Change} (h : s.apply st = (.ok change, s')) :
    s.alone st = (s', .ok [change]) :=
  applyAll_of_ok h []

/-- A script ends with a statement that is refused, in the catalog that this leaves. -/
theorem alone_of_error {e : Fault} (h : s.apply st = (.error e, s')) :
    s.alone st = (s', .error e) :=
  applyAll_of_error h []

theorem apply_of_alone_ok {changes : List Change} (h : (s.alone st).2 = .ok changes) :
    ∃ change, changes = [change] ∧ s.apply st = (.ok change, (s.alone st).1) := by
  rcases s.apply_cases st with ⟨change, s', hst, -⟩ | ⟨e, hst, -⟩
  · rw [alone_of_ok hst] at h ⊢
    cases h
    exact ⟨change, rfl, hst⟩
  · rw [alone_of_error hst] at h
    cases h

theorem apply_of_alone_error {e : Fault} (h : (s.alone st).2 = .error e) :
    s.apply st = (.error e, s) := by
  rcases s.apply_cases st with ⟨change, s', hst, -⟩ | ⟨e', hst, -⟩
  · rw [alone_of_ok hst] at h
    cases h
  · rw [alone_of_error hst] at h
    cases h
    exact hst

/-! ### Several statements -/

theorem takesEach_nil (s : Store) : s.TakesEach [] := by
  intro k st hst
  cases hst

theorem takesEach_cons :
    s.TakesEach (st :: sts) ↔
      (∃ change, (s.alone st).2 = .ok [change]) ∧ (s.alone st).1.TakesEach sts := by
  constructor
  · intro h
    exact ⟨h 0 st rfl, fun k st' hst' => h (k + 1) st' hst'⟩
  · rintro ⟨hfirst, hrest⟩ k st' hst'
    cases k with
    | zero =>
        cases hst'
        exact hfirst
    | succ k => exact hrest k st' hst'

/-- Statements are all taken, or there is a first one that is refused. -/
theorem takesEach_or_refuses (s : Store) (sts : List Statement) :
    s.TakesEach sts ∨ ∃ k st e, sts[k]? = some st ∧ s.TakesEach (sts.take k) ∧
      ((s.oneByOne (sts.take k)).alone st).2 = .error e := by
  induction sts generalizing s with
  | nil => exact .inl (takesEach_nil s)
  | cons st sts ih =>
      cases hst : (s.alone st).2 with
      | error e => exact .inr ⟨0, st, e, rfl, takesEach_nil s, hst⟩
      | ok changes =>
          obtain ⟨change, rfl, -⟩ := apply_of_alone_ok hst
          rcases ih (s.alone st).1 with hall | ⟨k, st', e, hst', hbefore, hrefused⟩
          · exact .inl (takesEach_cons.2 ⟨⟨change, hst⟩, hall⟩)
          · exact .inr ⟨k + 1, st', e, hst', takesEach_cons.2 ⟨⟨change, hst⟩, hbefore⟩, hrefused⟩

/-- Statements that are all taken do one thing each, in order. -/
theorem applyAll_of_takesEach (h : s.TakesEach sts) :
    ∃ changes, (s.applyAll sts).value = (s.oneByOne sts, .ok changes) ∧
      changes.length = sts.length ∧ ∀ k st change, sts[k]? = some st → changes[k]? = some change →
        ((s.oneByOne (sts.take k)).alone st).2 = .ok [change] := by
  induction sts generalizing s with
  | nil =>
      refine ⟨[], rfl, rfl, fun k st change hst => ?_⟩
      cases hst
  | cons st sts ih =>
      obtain ⟨⟨change, hfirst⟩, hrest⟩ := takesEach_cons.1 h
      obtain ⟨changes, hvalue, hlength, hchanges⟩ := ih hrest
      obtain ⟨_, hchange, hst⟩ := apply_of_alone_ok hfirst
      cases hchange
      refine ⟨change :: changes, ?_, by simp [hlength], ?_⟩
      · rw [applyAll_of_ok hst, hvalue]
        rfl
      · intro k st' change' hst' hchange'
        cases k with
        | zero =>
            cases hst'
            cases hchange'
            exact hfirst
        | succ k => exact hchanges k st' change' hst' hchange'

/-- A script can be cut after statements that are taken: by induction on these. -/
theorem applyAll_append {before : List Statement} {changes : List Change}
    (h : (s.applyAll before).value = (s', .ok changes)) (rest : List Statement) :
    (s.applyAll (before ++ rest)).value
      = ((s'.applyAll rest).value.1, (s'.applyAll rest).value.2.map (changes ++ ·)) := by
  induction before generalizing s changes with
  | nil =>
      cases h
      rw [List.nil_append]
      cases hrest : (s'.applyAll rest).value.2 with
      | error e => exact Prod.ext rfl hrest
      | ok changes => exact Prod.ext rfl hrest
  | cons st before ih =>
      rcases s.apply_cases st with ⟨change, t, hst, -⟩ | ⟨e, hst, -⟩
      · rw [applyAll_of_ok hst] at h
        obtain ⟨hcatalog, hchanges⟩ := Prod.ext_iff.1 h
        obtain ⟨changes', hbefore, rfl⟩ := map_eq_ok.1 hchanges
        have ht : (t.applyAll before).value = (s', .ok changes') := Prod.ext hcatalog hbefore
        rw [List.cons_append, applyAll_of_ok hst, ih ht]
        cases (s'.applyAll rest).value.2 with
        | error e => rfl
        | ok rest => rfl
      · rw [applyAll_of_error hst] at h
        cases h

/-- A statement that is refused after others were taken ends a script, and changes nothing. -/
theorem applyAll_of_refused {k : Nat} {e : Fault} (hst : sts[k]? = some st)
    (hbefore : s.TakesEach (sts.take k))
    (hrefused : ((s.oneByOne (sts.take k)).alone st).2 = .error e) :
    (s.applyAll sts).value = (s.oneByOne (sts.take k), .error e) := by
  obtain ⟨changes, hvalue, -⟩ := applyAll_of_takesEach hbefore
  obtain ⟨hk, rfl⟩ := List.getElem?_eq_some_iff.1 hst
  have hcut : sts = sts.take k ++ sts[k] :: sts.drop (k + 1) := by
    rw [← List.drop_eq_getElem_cons hk, List.take_append_drop]
  have hend := applyAll_of_error (apply_of_alone_error hrefused) (sts.drop (k + 1))
  calc (s.applyAll sts).value
      = (s.applyAll (sts.take k ++ sts[k] :: sts.drop (k + 1))).value := by rw [← hcut]
    _ = (s.oneByOne (sts.take k), .error e) := by
        rw [applyAll_append hvalue, hend]
        rfl

/-- Texts with one statement each do what the statements do as scripts of their own. -/
theorem after_eq_oneByOne {texts : List String}
    (h : List.Forall₂ (fun text st => statements text = .ok [st]) texts sts) (s : Store) :
    s.after texts = s.oneByOne sts := by
  induction h generalizing s with
  | nil => rfl
  | @cons text st texts sts htext _ ih =>
      have hfirst : (s.execute text).value.1 = (s.alone st).1 := by rw [execute_eq_alone htext]
      calc s.after (text :: texts)
          = ((s.execute text).value.1).after texts := rfl
        _ = s.oneByOne (st :: sts) := by
            rw [hfirst, ih]
            rfl

/-! ### Scripts -/

/-- **What a script does.**  A statement is refused exactly at one of the checks on its way, and the
catalog that it leaves is then the one it found.  A script that cannot be read does nothing.  If all
of its statements are taken, it does one thing for each of them, in order, and leads to the catalog
that they lead to as scripts of their own.  If one is refused after others were taken, the script
fails for its cause and leads to the catalog before it, which the refused statement does not change.
One of the two is the case.  Texts with one statement each are such scripts. -/
theorem execute_stepwise (s : Store) (script : String) :
    (∀ u st e u', apply u st = (.error e, u') ↔ u.Refuses st e ∧ u' = u) ∧
    (∀ e, statements script = .error e → (s.execute script).value = (s, .error .unreadable)) ∧
    (∀ sts, statements script = .ok sts →
      (s.TakesEach sts → ∃ changes, (s.execute script).value = (s.oneByOne sts, .ok changes) ∧
        changes.length = sts.length ∧
        ∀ k st change, sts[k]? = some st → changes[k]? = some change →
          ((s.oneByOne (sts.take k)).alone st).2 = .ok [change]) ∧
      (∀ k st e, sts[k]? = some st → s.TakesEach (sts.take k) →
        ((s.oneByOne (sts.take k)).alone st).2 = .error e →
          (s.execute script).value = (s.oneByOne (sts.take k), .error e) ∧
          ((s.oneByOne (sts.take k)).alone st).1 = s.oneByOne (sts.take k)) ∧
      (s.TakesEach sts ∨ ∃ k st e, sts[k]? = some st ∧ s.TakesEach (sts.take k) ∧
        ((s.oneByOne (sts.take k)).alone st).2 = .error e) ∧
      ∀ texts, List.Forall₂ (fun text st => statements text = .ok [st]) texts sts →
        s.after texts = s.oneByOne sts) ∧
    ∀ text st, statements text = .ok [st] → (s.execute text).value = s.alone st := by
  refine ⟨fun u st e u' => apply_eq_error, fun e he => execute_of_error he, fun sts hsts => ?_,
    fun text st htext => execute_eq_alone htext s⟩
  rw [execute_of_ok hsts]
  refine ⟨applyAll_of_takesEach, fun k st e hst hbefore hrefused => ?_,
    takesEach_or_refuses s sts, fun texts htexts => after_eq_oneByOne htexts s⟩
  refine ⟨applyAll_of_refused hst hbefore hrefused, ?_⟩
  rw [alone_of_error (apply_of_alone_error hrefused)]

/-- The definition of a table with one column. -/
def narrowTable (name column : String) : Statement :=
  .createTable {
    name := [⟨name, none⟩], ifNotExists := false, constraints := []
    columns := [⟨⟨column, none⟩, ⟨"INT", .int .w32⟩, false⟩] }

/-- A script whose second statement is refused, with one after it. -/
def dockScript : String :=
  "CREATE TABLE dock (k INT); CREATE TABLE Dock (x INT); DROP TABLE dock"

theorem statements_dockScript : statements dockScript
    = .ok [narrowTable "dock" "k", narrowTable "Dock" "x", .other "DROP TABLE"] := by
  decide +kernel

theorem execute_stepwise_dockScript :
    (Store.empty.put ⟨"dock", [⟨"k", .int32⟩], none, []⟩).apply (narrowTable "Dock" "x")
      = (.error (.tableExists "Dock"), Store.empty.put ⟨"dock", [⟨"k", .int32⟩], none, []⟩) ∧
    Store.empty.TakesEach [narrowTable "dock" "k"] ∧
    (Store.empty.execute dockScript).value
      = (Store.empty.put ⟨"dock", [⟨"k", .int32⟩], none, []⟩, .error (.tableExists "Dock")) := by
  have hfirst : Store.empty.alone (narrowTable "dock" "k")
      = (Store.empty.put ⟨"dock", [⟨"k", .int32⟩], none, []⟩, .ok [.tableCreated "dock"]) := by
    rfl
  have hbefore : Store.empty.TakesEach [narrowTable "dock" "k"] :=
    takesEach_cons.2 ⟨⟨.tableCreated "dock", by rw [hfirst]⟩, takesEach_nil _⟩
  obtain ⟨hstatement, -, hscript, -⟩ := execute_stepwise Store.empty dockScript
  obtain ⟨-, hrefused, -⟩ := hscript _ statements_dockScript
  obtain ⟨hvalue, -⟩ := hrefused 1 (narrowTable "Dock" "x") (.tableExists "Dock") rfl hbefore rfl
  refine ⟨(hstatement _ _ _ _).2 ⟨.tableThere rfl rfl, rfl⟩, hbefore, hvalue.trans ?_⟩
  show ((Store.empty.alone (narrowTable "dock" "k")).1, _) = _
  rw [hfirst]

end SqlPipeline.Catalog.Store
