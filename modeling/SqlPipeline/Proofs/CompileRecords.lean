/-
**The records of a compilation follow one grammar.**

Four parts of the compiler leave records: compiling itself, planning, and the two steps that make a
filter of a comparison or replace a bound.  Each of them can be followed by a failure, at any depth.
Whatever happens, what has begun is ended, once, and by a record that agrees with the result: a
reader of the journal can tell how far a compilation came, and finds one cause where two records
give one.

Main definitions:

* `Journal.Leaves` — all records of a piece of work have a property;
* `Plan.PlanRecords`, `Plan.PlanEnd` — the records of planning, and how they end;
* `CompileRecords`, `CompileEnd` — the records of a compilation, and how they end.

Main results:

* `Plan.leaves_add`, `Plan.leaves_ofFilters` — what one comparison leaves, and what all of them do;
* `Plan.planRecords_ofQuery` — planning leaves what the grammar says;
* `compile_records` — **so does compiling**.
-/

import SqlPipeline.Compile
import SqlPipeline.Proofs.Outcome

set_option autoImplicit false

namespace SqlPipeline

/-! ### Records of work -/

namespace Journal

section

variable {ε α β : Type} {x : Attempt ε α} {f : α → Attempt ε β}

theorem records_bind_of_ok {a : α} (h : x.run.value = .ok a) :
    (x >>= f).run.records = x.run.records ++ (f a).run.records := by
  rw [ExceptT.run_bind, Logged.records_bind, h]

theorem records_bind_of_error {e : ε} (h : x.run.value = .error e) :
    (x >>= f).run.records = x.run.records := by
  rw [ExceptT.run_bind, Logged.records_bind, h]
  exact List.append_nil _

theorem records_note (r : Record) : (liftM (note r) : Attempt ε Unit).run.records = [r] := rfl

theorem records_exceptLift (x : Logged α) :
    (ExceptT.lift x : Attempt ε α).run.records = x.records :=
  List.append_nil _

end

section

variable {ε α β : Type} {P : Record → Prop}

/-- All records of the work have a property, whether it fails or not. -/
def Leaves (P : Record → Prop) (x : Attempt ε α) : Prop :=
  ∀ r ∈ x.run.records, P r

theorem leaves_pure (a : α) : Leaves P (pure a : Attempt ε α) :=
  List.forall_mem_nil _

theorem leaves_lift (x : Except ε α) : Leaves P (liftM x : Attempt ε α) :=
  List.forall_mem_nil _

theorem leaves_logged {x : Logged α} (h : ∀ r ∈ x.records, P r) :
    Leaves P (liftM x : Attempt ε α) := by
  show ∀ r ∈ x.records ++ [], P r
  rwa [List.append_nil]

theorem leaves_bind {x : Attempt ε α} {f : α → Attempt ε β} (hx : Leaves P x)
    (hf : ∀ a, Leaves P (f a)) : Leaves P (x >>= f) := by
  unfold Leaves at hx hf ⊢
  cases hv : x.run.value with
  | ok a =>
      rw [records_bind_of_ok hv]
      exact List.forall_mem_append.2 ⟨hx, hf a⟩
  | error e =>
      rw [records_bind_of_error hv]
      exact hx

/-- Work that passes a value along a list. -/
theorem leaves_foldlM {f : β → α → Attempt ε β} (hf : ∀ b a, Leaves P (f b a)) (xs : List α)
    (b : β) : Leaves P (xs.foldlM f b) := by
  induction xs generalizing b with
  | nil => exact leaves_pure b
  | cons x xs ih =>
      rw [List.foldlM_cons]
      exact leaves_bind (hf b x) ih

theorem kept_trace (rs : List Record) : kept .trace rs = rs :=
  List.filter_eq_self.2 fun r _ => by cases r.severity <;> rfl

end

end Journal

open Journal

/-! ### Planning -/

namespace Plan

open Query

/-- A record of what becomes of a condition: an index could have served it and does not, or its
bound replaces another. -/
def IsNote (r : Record) : Prop :=
  r.event = "FILTER_DEMOTED" ∨ r.event = "BOUND_OVERWRITTEN"

theorem isNote_overwritten {f : Filter} {index side : String} {earlier later : Option Int} :
    ∀ r ∈ overwritten f index side earlier later, IsNote r := by
  unfold overwritten
  split
  · split
    · exact List.forall_mem_nil _
    · exact List.forall_mem_singleton.2 (.inr rfl)
  · exact List.forall_mem_nil _

theorem isNote_replaced {f : Filter} {index : String} {earlier later : Bound} :
    ∀ r ∈ replaced f index earlier later, IsNote r :=
  List.forall_mem_append.2 ⟨isNote_overwritten, isNote_overwritten⟩

theorem leaves_demote (a : Access) (f : Filter) : Leaves IsNote (a.demote f) :=
  leaves_bind (leaves_logged (List.forall_mem_singleton.2 (.inl rfl))) fun _ => leaves_pure _

/-- What a comparison on an indexed column leaves. -/
theorem leaves_add (hints : List Catalog.Hint) (a : Access) (f : Filter) :
    Leaves IsNote (a.add hints f) := by
  unfold Access.add
  dsimp only
  split
  · exact leaves_demote a f
  · refine leaves_bind (leaves_lift _) fun b => ?_
    split
    · exact leaves_demote a f
    · split
      · refine leaves_bind (leaves_lift _) fun b => ?_
        exact leaves_bind (leaves_logged isNote_replaced) fun _ => leaves_pure _
      · exact leaves_bind (leaves_logged isNote_replaced) fun _ => leaves_pure _

theorem leaves_ofFilters (hints : List Catalog.Hint) (fs : List Filter) :
    Leaves IsNote (Access.ofFilters hints fs) :=
  leaves_bind (leaves_foldlM (leaves_add hints) _ _) fun _ => leaves_pure _

theorem leaves_access (q : Resolved) : Leaves IsNote (Access.ofQuery q) := by
  unfold Access.ofQuery
  dsimp only
  -- a query over several tables, or with an outer join, is refused before anything is recorded
  split
  · exact List.forall_mem_nil _
  · split
    · exact List.forall_mem_nil _
    · exact leaves_bind (leaves_lift _) fun fs => leaves_ofFilters q.hints fs

theorem leaves_build (q : Resolved) : Leaves IsNote (build q) :=
  leaves_bind (leaves_access q) fun _ => leaves_lift _

/-- The record of the end of planning, by what planning comes to. -/
inductive PlanEnd : Except Fault Program → Record → Prop where
  /-- Planning gives a program. -/
  | completed {p : Program} {r : Record} (hevent : r.event = "PLAN_COMPLETE") : PlanEnd (.ok p) r
  /-- Planning fails, and the record says why. -/
  | failed {f : Fault} {r : Record} (hevent : r.event = "PLAN_ERROR")
      (hfields : r.fields = [("code", f.code), ("reason", f.message)]) : PlanEnd (.error f) r

/-- The records of planning: its beginning, what becomes of conditions, and its end. -/
inductive PlanRecords (result : Except Fault Program) : List Record → Prop where
  | mk {begun ended : Record} {notes : List Record} (hbegun : begun.event = "PLAN_BEGIN")
      (hnotes : ∀ r ∈ notes, IsNote r) (hended : PlanEnd result ended) :
      PlanRecords result (begun :: notes ++ [ended])

/-- **Planning leaves what the grammar says.** -/
theorem planRecords_ofQuery (q : Resolved) :
    PlanRecords (ofQuery q).run.value (ofQuery q).run.records := by
  have hnotes := leaves_build q
  rw [run_ofQuery, ← List.cons_append]
  cases (build q).run.value with
  | ok p => exact .mk rfl hnotes (.completed rfl)
  | error f => exact .mk rfl hnotes (.failed rfl rfl)

section

variable {result : Except Fault Program} {rs : List Record} {r : Record}

theorem PlanEnd.event_eq (h : PlanEnd result r) :
    r.event = "PLAN_COMPLETE" ∨ r.event = "PLAN_ERROR" := by
  cases h with
  | completed hevent => exact .inl hevent
  | failed hevent => exact .inr hevent

/-- A record of planning is its beginning, its end, or says what becomes of a condition. -/
theorem PlanRecords.cases_of_mem (h : PlanRecords result rs) (hr : r ∈ rs) :
    r.event = "PLAN_BEGIN" ∨ IsNote r ∨ PlanEnd result r := by
  cases h with
  | mk hbegun hnotes hended =>
      rcases List.mem_append.1 hr with hr | hr
      · rcases List.mem_cons.1 hr with rfl | hr
        · exact .inl hbegun
        · exact .inr (.inl (hnotes r hr))
      · obtain rfl := List.mem_singleton.1 hr
        exact .inr (.inr hended)

theorem PlanRecords.event_ne (h : PlanRecords result rs) (hr : r ∈ rs) :
    r.event ≠ "PLAN_INCOMPLETE" := by
  rcases h.cases_of_mem hr with h | (h | h) | h
  · simp [h]
  · simp [h]
  · simp [h]
  · rcases h.event_eq with h | h <;> simp [h]

/-- An error of planning gives the cause of its failure. -/
theorem PlanRecords.fields_of_error (h : PlanRecords result rs) (hr : r ∈ rs)
    (hevent : r.event = "PLAN_ERROR") :
    ∃ f, result = .error f ∧ r.fields = [("code", f.code), ("reason", f.message)] := by
  rcases h.cases_of_mem hr with h | (h | h) | h
  · simp [hevent] at h
  · simp [hevent] at h
  · simp [hevent] at h
  · cases h with
    | completed h => simp [hevent] at h
    | failed _ hfields => exact ⟨_, rfl, hfields⟩

end

end Plan

/-! ### Compiling -/

/-- The record of the end of a compilation, by its result: the length of the text in bytes, or the
cause of the failure. -/
inductive CompileEnd : Except Fault String → Record → Prop where
  | completed {text : String} {r : Record} (hevent : r.event = "COMPILE_COMPLETE")
      (hfields : r.fields = [("bytes", toString text.utf8ByteSize)]) : CompileEnd (.ok text) r
  | rejected {f : Fault} {r : Record} (hevent : r.event = "COMPILE_REJECTED")
      (hfields : r.fields = [("code", f.code), ("reason", f.message)]) : CompileEnd (.error f) r

/-- The records of the compilation of a text. -/
inductive CompileRecords (catalog : Catalog.Store) (sql : String) : List Record → Prop where
  /-- The text stands for no query, and nothing is planned. -/
  | unresolved {f : Fault} {begun ended : Record} (hquery : Query.ofText catalog sql = .error f)
      (hbegun : begun.event = "COMPILE_BEGIN")
      (hended : CompileEnd (compile catalog sql).run.value ended) :
      CompileRecords catalog sql [begun, ended]
  /-- The query that the text stands for is planned.  If that fails, the end of the compilation
  gives the same cause. -/
  | planned {q : Query.Resolved} {begun ended : Record} {planning : List Record}
      (hquery : Query.ofText catalog sql = .ok q) (hbegun : begun.event = "COMPILE_BEGIN")
      (hplanning : Plan.PlanRecords (Plan.ofQuery q).run.value planning)
      (hcause : ∀ r ∈ planning, r.event = "PLAN_ERROR" → r.fields = ended.fields)
      (hended : CompileEnd (compile catalog sql).run.value ended) :
      CompileRecords catalog sql (begun :: planning ++ [ended])

variable {catalog : Catalog.Store} {sql : String}

theorem end_compileEnd (result : Except Fault String) : CompileEnd result (compileEnd result) := by
  cases result with
  | ok text => exact .completed rfl rfl
  | error f => exact .rejected rfl rfl

theorem records_compile (catalog : Catalog.Store) (sql : String) :
    (compile catalog sql).run.records = Event.compileBegin.record [("sql", sql)] ::
      (compileText catalog sql).run.records ++ [compileEnd (compile catalog sql).run.value] := by
  unfold compile
  rw [records_bind_of_ok (a := ()) rfl, records_note,
    records_bind_of_ok (a := (compileText catalog sql).run.value) rfl, records_exceptLift,
    records_bind_of_ok (a := ()) rfl, records_note]
  rfl

/-- Printing leaves no records. -/
theorem records_compileQuery (q : Query.Resolved) :
    (compileQuery q).run.records = (Plan.ofQuery q).run.records := by
  unfold compileQuery
  cases hv : (Plan.ofQuery q).run.value with
  | ok p =>
      rw [records_bind_of_ok hv]
      exact List.append_nil _
  | error f => exact records_bind_of_error hv

theorem run_compileText_of_error {f : Fault} (h : Query.ofText catalog sql = .error f) :
    (compileText catalog sql).run = ⟨.error f, []⟩ := by
  unfold compileText
  rw [h]
  rfl

theorem run_compileText_of_ok {q : Query.Resolved} (h : Query.ofText catalog sql = .ok q) :
    (compileText catalog sql).run = (compileQuery q).run := by
  unfold compileText
  rw [h]
  rfl

theorem CompileEnd.event_ne {result : Except Fault String} {r : Record} (h : CompileEnd result r) :
    r.event ≠ "PLAN_INCOMPLETE" := by
  cases h with
  | completed hevent => simp [hevent]
  | rejected hevent => simp [hevent]

/-- What has begun is ended. -/
theorem CompileRecords.not_incomplete {rs : List Record} (h : CompileRecords catalog sql rs) :
    "PLAN_INCOMPLETE" ∉ rs.map Record.event := by
  have hne : ∀ r ∈ rs, r.event ≠ "PLAN_INCOMPLETE" := by
    cases h with
    | unresolved _ hbegun hended =>
        exact List.forall_mem_cons.2 ⟨by simp [hbegun], List.forall_mem_singleton.2 hended.event_ne⟩
    | planned _ hbegun hplanning _ hended =>
        refine List.forall_mem_append.2 ⟨List.forall_mem_cons.2 ⟨by simp [hbegun], ?_⟩,
          List.forall_mem_singleton.2 hended.event_ne⟩
        exact fun r hr => hplanning.event_ne hr
  intro hmem
  obtain ⟨r, hr, hevent⟩ := List.mem_map.1 hmem
  exact hne r hr hevent

/-- **The records of a compilation follow one grammar**, for every catalog and every text, and none
of them says that planning was given up. -/
theorem compile_records (catalog : Catalog.Store) (sql : String) :
    CompileRecords catalog sql (kept .trace (compile catalog sql).run.records) ∧
      "PLAN_INCOMPLETE" ∉ (kept .trace (compile catalog sql).run.records).map Record.event := by
  have hvalue : (compile catalog sql).run.value = (compileText catalog sql).run.value := rfl
  have hbegun : (Event.compileBegin.record [("sql", sql)]).event = "COMPILE_BEGIN" := rfl
  have hended := end_compileEnd (compile catalog sql).run.value
  have hrecords : CompileRecords catalog sql (compile catalog sql).run.records := by
    rw [records_compile]
    cases hquery : Query.ofText catalog sql with
    | error f =>
        rw [run_compileText_of_error hquery]
        exact .unresolved hquery hbegun hended
    | ok q =>
        rw [run_compileText_of_ok hquery, records_compileQuery]
        refine .planned hquery hbegun (Plan.planRecords_ofQuery q) (fun r hr hevent => ?_) hended
        -- planning failed, and with it the compilation
        obtain ⟨f, hf, hfields⟩ := (Plan.planRecords_ofQuery q).fields_of_error hr hevent
        have hfailed : (compile catalog sql).run.value = .error f := by
          rw [hvalue, run_compileText_of_ok hquery]
          exact value_bind_of_error hf
        rw [hfields, hfailed]
        rfl
  rw [kept_trace]
  exact ⟨hrecords, hrecords.not_incomplete⟩

end SqlPipeline
