/-
**Compiling breaks no promise but one.**

A text is compiled in three steps: names are looked up, the query is planned, and the program is
printed.  What each step ensures is what the next one relies on, so of the many internal faults
only one can ever be seen: that an expression of the query has several columns.

Main results:

* `Listing.ensures_ofProgram` — a program that can be printed is printed;
* `compile_internal` — **an internal fault of a compilation is that of several columns**.
-/

import SqlPipeline.Compile
import SqlPipeline.Proofs.Planning

set_option autoImplicit false

namespace SqlPipeline

open Journal Query Plan

/-! ### Printing -/

namespace Listing

variable {E : Fault → Prop}

theorem ensures_storedText {storage : Layout.Storage} {l : Literal} (h : Storable storage l) :
    Ensures E (fun _ => True) (storedText storage l) := by
  cases l with
  | integer v => exact ensures_ok trivial
  | decimal x =>
      have hfloat : storage.isFloat = true := h
      rw [storedText, if_pos hfloat]
      exact ensures_ok trivial
  | text t => exact h.elim

theorem ensures_sourceText {x : Descriptor} (h : x.sourceColumn.isSome) :
    Ensures E (fun _ => True) (sourceText x) := by
  obtain ⟨n, hn⟩ := Option.isSome_iff_exists.1 h
  rw [sourceText, hn]
  exact ensures_ok trivial

theorem ensures_descriptorLines {x : Descriptor} (h : x.Printable) :
    Ensures E (fun _ => True) (descriptorLines x) := by
  unfold Descriptor.Printable at h
  unfold descriptorLines
  cases hkind : x.kind with
  | groupValue =>
      rw [hkind] at h
      obtain ⟨compute, hcompute⟩ := Option.isSome_iff_exists.1 h
      rw [hcompute]
      exact ensures_pure trivial
  | aggregate f =>
      rw [hkind] at h
      cases f with
      | count => exact ensures_pure trivial
      | _ => exact ensures_bind (ensures_sourceText (h nofun)) fun _ _ => ensures_pure trivial

theorem ensures_stepLines {st : Step} (h : st.Printable) (transient : List String) :
    Ensures E (fun _ => True) (stepLines transient st) := by
  cases st with
  | literal name storage value =>
      exact ensures_bind (ensures_storedText h) fun _ _ => ensures_pure trivial
  | aggregate input ds packed name =>
      have hlines : Ensures E (fun _ => True) (ds.mapM descriptorLines) :=
        (ensures_forall_mapM fun x hx => ensures_descriptorLines (h x hx)).imp fun _ _ => trivial
      exact ensures_bind hlines fun _ _ => ensures_pure trivial
  | _ => exact ensures_pure trivial

/-- Steps that can be printed are printed. -/
theorem ensures_construction {p : Program} (h : ∀ st ∈ p.steps, st.Printable) :
    Ensures E (fun _ => True) (construction p) := by
  have hsteps : Ensures E (fun _ => True) (p.steps.mapM (stepLines p.transient)) :=
    (ensures_forall_mapM fun st hst => ensures_stepLines (h st hst) p.transient).imp
      fun _ _ => trivial
  exact ensures_bind hsteps fun _ _ => ensures_pure trivial

/-- A program that can be printed is printed. -/
theorem ensures_ofProgram {p : Program} (h : p.Printable) :
    Ensures E (fun _ => True) (ofProgram p) := by
  unfold ofProgram
  have hne : p.output.isEmpty = false := by simpa using h.output_ne
  dsimp only
  rw [hne]
  exact ensures_bind (ensures_construction h.steps) fun _ _ => ensures_pure trivial

end Listing

/-! ### Compiling -/

/-- A query can be blamed for the fault, or an expression of the query that the text stands for has
several columns. -/
def Blames (catalog : Catalog.Store) (sql : String) (f : Fault) : Prop :=
  f.isInternal = true → ∃ q e, Query.ofText catalog sql = .ok q ∧ e ∈ q.scalars ∧
    2 ≤ e.columns.length ∧ f = .internal (.severalColumns e.columns.length)

theorem ensures_compileQuery {q : Resolved} (hq : Plannable q) :
    Ensures q.Allows (fun _ => True) (compileQuery q) :=
  ensures_bind (ensures_ofQuery hq) fun _ hp =>
    ensures_attempt (Listing.ensures_ofProgram hp)

variable {catalog : Catalog.Store} {sql : String}

theorem ensures_compileText (hc : ∀ e ∈ catalog.entries, e.2.columns ≠ [])
    (hi : ∀ q shown sel, Sql.statements sql = .ok [.query q shown] → q.body = .select sel →
      sel.items ≠ []) :
    Ensures (Blames catalog sql) (fun _ => True) (compileText catalog sql) := by
  have htext : Ensures (Blames catalog sql)
      (fun q => Plannable q ∧ Query.ofText catalog sql = .ok q) (Query.ofText catalog sql) := by
    refine (ensures_ofText hc hi).and_eq.mono (fun f hf hinternal => ?_) fun _ hq => hq
    rw [Fault.External, hinternal] at hf
    cases hf
  refine ensures_bind (ensures_attempt htext) fun q hread => ?_
  obtain ⟨hq, heq⟩ := hread
  refine (ensures_compileQuery hq).mono (fun f hf hinternal => ?_) fun _ h => h
  obtain ⟨e, he, hlen, hf⟩ := hf hinternal
  exact ⟨q, e, heq, he, hlen, hf⟩

/-- The records of a compilation change nothing about its result. -/
theorem compile_value (catalog : Catalog.Store) (sql : String) :
    (compile catalog sql).run.value = (compileText catalog sql).run.value := by
  rfl

theorem isInternal_of_code {f : Fault} (h : f.code = "EMBEDDB_INTERNAL_INVARIANT") :
    f.isInternal = true := by
  cases f with
  | internal cause => rfl
  | _ => simp [Fault.code] at h

/-- A catalog with one table. -/
def tripsCatalog : Catalog.Store :=
  Catalog.Store.empty.put trips

/-- An expression with two columns. -/
def unitPriceText : String :=
  "SELECT fare / km FROM trips"

/-- The query that the text stands for. -/
def unitPrice : Resolved :=
  { Resolved.ofTable trips with
    projections := [
      { name := "expr0", kind := .arithmetic (.binary .div (.column 2) (.column 1)) }] }

theorem ofText_unitPriceText : Query.ofText tripsCatalog unitPriceText = .ok unitPrice := by
  decide +kernel

/-- Whether statements are one query that selects nothing. -/
def selectsNothing : Except Sql.SyntaxFault (List Sql.Statement) → Bool
  | .ok [.query { body := .select sel, .. } _] => sel.items.isEmpty
  | _ => false

theorem items_unitPriceText (q : Sql.Query) (shown : String) (sel : Sql.Select)
    (h : Sql.statements unitPriceText = .ok [.query q shown]) (hbody : q.body = .select sel) :
    sel.items ≠ [] := by
  have hitems : selectsNothing (Sql.statements unitPriceText) = false := by
    decide +kernel
  cases q
  cases hbody
  rw [h] at hitems
  simpa [selectsNothing] using hitems

theorem compile_unitPriceText :
    (compile tripsCatalog unitPriceText).run.value = .error (.internal (.severalColumns 2)) := by
  have haccess : Access.ofQuery unitPrice = Access.ofFilters unitPrice.hints [] := rfl
  rw [compile_value, compileText, ofText_unitPriceText]
  show (compileQuery unitPrice).run.value = _
  rw [compileQuery, Plan.ofQuery, build, haccess, Access.ofFilters,
    Access.candidates_of_pairwise (by decide)]
  rfl

/-- **Compiling gives a program text or fails, and only for one internal cause.**  The tables have
columns, and the list that the text selects is not empty. -/
theorem compile_internal (hc : ∀ e ∈ catalog.entries, e.2.columns ≠ [])
    (hi : ∀ q shown sel, Sql.statements sql = .ok [.query q shown] → q.body = .select sel →
      sel.items ≠ []) :
    (∃ text, (compile catalog sql).run.value = .ok text) ∨
    ∃ f, (compile catalog sql).run.value = .error f ∧
      (f.code = "EMBEDDB_INTERNAL_INVARIANT" →
        ∃ q e, Query.ofText catalog sql = .ok q ∧ e ∈ q.scalars ∧ 2 ≤ e.columns.length ∧
          f = .internal (.severalColumns e.columns.length) ∧
          f.message = "expression must reference exactly one column, found "
            ++ toString e.columns.length) := by
  rw [compile_value]
  cases hv : (compileText catalog sql).run.value with
  | ok text => exact .inl ⟨text, rfl⟩
  | error f =>
      refine .inr ⟨f, rfl, fun hcode => ?_⟩
      obtain ⟨q, e, hq, he, hlen, rfl⟩ :=
        (ensures_compileText hc hi).2 f hv (isInternal_of_code hcode)
      exact ⟨q, e, hq, he, hlen, rfl, rfl⟩

theorem compile_internal_unitPriceText :
    ∃ f, (compile tripsCatalog unitPriceText).run.value = .error f ∧
      f.code = "EMBEDDB_INTERNAL_INVARIANT" ∧
      ∃ q e, Query.ofText tripsCatalog unitPriceText = .ok q ∧ e ∈ q.scalars ∧
        2 ≤ e.columns.length ∧ f = .internal (.severalColumns e.columns.length) ∧
        f.message = "expression must reference exactly one column, found "
          ++ toString e.columns.length := by
  have hcatalog : ∀ e ∈ tripsCatalog.entries, e.2.columns ≠ [] := by decide
  rcases compile_internal hcatalog items_unitPriceText with ⟨text, htext⟩ | ⟨f, hf, hcause⟩
  · rw [compile_unitPriceText] at htext
    cases htext
  · rw [compile_unitPriceText] at hf
    cases hf
    exact ⟨_, compile_unitPriceText, rfl, hcause rfl⟩

end SqlPipeline
