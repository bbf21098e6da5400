/-
**The stages by which a query becomes a program.**

`Plan.ofQuery` runs through several pieces of work that may fail.  When it gives a program, each of
them gave a value, and the parts of the program are these values.  This module takes that apart
once; statements about programs start from a `Plan.Stages` and never from the monads.

Main definitions:

* `Plan.boundSteps`, `Plan.boundName` — the step that stores a bound, and the variable it stands in;
* `Plan.Stages` — the values between a query and its program.

Main results:

* `Plan.Assembly.scan_eq_ok`, `Plan.Assembly.selection_eq_ok` — the steps of a scan and of a filter;
* `Plan.operators_keep` — what each operator keeps, all of them keep;
* `Plan.having?_eq_ok` — the condition on groups;
* `Plan.stages_of_ofQuery` — **a program comes from its stages**.
-/

import SqlPipeline.Plan.OfQuery
import SqlPipeline.Proofs.Access
import SqlPipeline.Proofs.Outcome

set_option autoImplicit false

namespace SqlPipeline.Plan

open Journal Layout Query Outcome

/-! ### Operators -/

/-- The step that stores a bound in a variable, if there is a bound. -/
def boundSteps (name : String) (storage : Option Storage) (value : Option Int) : List Step :=
  match storage, value with
  | some t, some v => [.literal name t (.integer v)]
  | _, _ => []

/-- The variable that a bound stands in, if there is a bound. -/
def boundName (name : String) (value : Option Int) : Option String :=
  value.map fun _ => name

theorem mem_boundSteps {name : String} {storage : Option Storage} {value : Option Int}
    {st : Step} : st ∈ boundSteps name storage value ↔
      ∃ t v, storage = some t ∧ value = some v ∧ st = .literal name t (.integer v) := by
  cases storage <;> cases value <;> simp [boundSteps]

namespace Assembly

theorem bound_eq_ok {a b : Assembly} {name : String} {storage : Option Storage}
    {value : Option Int} {v : Option String} (h : a.bound name storage value = .ok (b, v)) :
    (value.isSome → storage.isSome) ∧ v = boundName name value ∧
      b = { a with
        steps := a.steps ++ boundSteps name storage value
        allocations := a.allocations ++ (boundName name value).toList } := by
  cases value with
  | none =>
      obtain ⟨rfl, rfl⟩ : a = b ∧ none = v := by simpa [bound] using h
      cases storage <;> simp [boundName, boundSteps]
  | some x =>
      cases storage with
      | none => simp [bound] at h
      | some t =>
          obtain ⟨rfl, rfl⟩ : a.literal name t (.integer x) = b ∧ some name = v := by
            simpa [bound] using h
          simp [boundName, boundSteps, literal]

/-- The steps that store the bounds of an access. -/
def boundsSteps (access : Access) (keyType dataType : Option Storage) : List Step :=
  boundSteps "minKey" keyType access.key.min ++ boundSteps "maxKey" keyType access.key.max
    ++ boundSteps "minData" dataType access.secondary.min
    ++ boundSteps "maxData" dataType access.secondary.max

/-- The iterator over the records within the bounds of an access. -/
def iteratorStep (access : Access) : Step :=
  .iterator (boundName "minKey" access.key.min) (boundName "maxKey" access.key.max)
    (boundName "minData" access.secondary.min) (boundName "maxData" access.secondary.max)

/-- The variables of the bounds of an access. -/
def boundsNames (access : Access) : List String :=
  (boundName "minKey" access.key.min).toList ++ (boundName "maxKey" access.key.max).toList
    ++ (boundName "minData" access.secondary.min).toList
    ++ (boundName "maxData" access.secondary.max).toList

/-- A scan stores the bounds, which have a type, and puts the iterator and the scan on top. -/
theorem scan_eq_ok {a a' : Assembly} {access : Access} (h : a.scan access = .ok a') :
    ∃ keyType dataType, access.keyColumn.mapM a.stored.typeAt = .ok keyType ∧
      access.secondaryColumn.mapM a.stored.typeAt = .ok dataType ∧
      (access.key.min.isSome ∨ access.key.max.isSome → keyType.isSome) ∧
      (access.secondary.min.isSome ∨ access.secondary.max.isSome → dataType.isSome) ∧
      a' = { a with
        steps := a.steps ++ boundsSteps access keyType dataType
          ++ [iteratorStep access, .scan a.stored "scanOp"]
        allocations := a.allocations ++ boundsNames access ++ ["it"]
        top := "scanOp" } := by
  unfold scan at h
  simp only [bind_eq_ok, pure_eq_ok, Prod.exists] at h
  obtain ⟨keyType, hk, dataType, hd, a₁, _, h₁, a₂, _, h₂, a₃, _, h₃, a₄, _, h₄, rfl⟩ := h
  obtain ⟨hs₁, rfl, rfl⟩ := bound_eq_ok h₁
  obtain ⟨hs₂, rfl, rfl⟩ := bound_eq_ok h₂
  obtain ⟨hs₃, rfl, rfl⟩ := bound_eq_ok h₃
  obtain ⟨hs₄, rfl, rfl⟩ := bound_eq_ok h₄
  refine ⟨keyType, dataType, hk, hd, fun h => h.elim hs₁ hs₂, fun h => h.elim hs₃ hs₄, ?_⟩
  simp [boundsSteps, iteratorStep, boundsNames]

/-- A filter stores its value in a fresh variable and puts a selection with a fresh name on
top. -/
theorem selection_eq_ok {a a' : Assembly} {f : Filter} (h : a.selection f = .ok a') :
    ∃ c, a.stored.column? f.column = some c ∧
      a' =
        let value := a.names.fresh ("selVal" ++ (f.op.suffix ++ c.name))
        let name := value.2.fresh ("select" ++ (f.op.suffix ++ c.name))
        { a with
          names := name.2
          steps := a.steps ++ [.literal value.1 c.type (.integer f.value),
            .selection name.1 a.top f.column f.op value.1]
          allocations := a.allocations ++ [value.1]
          top := name.1 } := by
  unfold selection at h
  cases hc : a.stored.column? f.column with
  | none => simp [hc] at h
  | some c =>
      refine ⟨c, rfl, ?_⟩
      simp only [hc, literal, Except.ok.injEq] at h
      rw [← h]
      simp

theorem selection_stored {a a' : Assembly} {f : Filter} (h : a.selection f = .ok a') :
    a'.stored = a.stored ∧ a'.table = a.table := by
  obtain ⟨c, -, rfl⟩ := selection_eq_ok h
  exact ⟨rfl, rfl⟩

/-- What every filter keeps, all filters together keep. -/
theorem selections_keep {I : Assembly → Prop} {fs : List Filter} {a a' : Assembly}
    (h : a.selections fs = .ok a')
    (step : ∀ b b' f, f ∈ fs → b.selection f = .ok b' → I b → I b') (ha : I a) : I a' := by
  induction fs generalizing a with
  | nil =>
      obtain rfl := pure_eq_ok.1 h
      exact ha
  | cons f fs ih =>
      rw [selections, List.foldlM_cons, bind_eq_ok] at h
      obtain ⟨a₁, h₁, h₂⟩ := h
      refine ih h₂ (fun b b' g hg => step b b' g (List.mem_cons_of_mem _ hg)) ?_
      exact step a a₁ f List.mem_cons_self h₁ ha

end Assembly

/-- The operators of a program: the scan, its filters, the groups and the condition on them. -/
theorem operators_eq_ok {table : String} {stored : Schema} {access : Access}
    {grouping : Option Grouping} {having : Option HavingFilter} {a : Assembly}
    (h : operators table stored access grouping having = .ok a) :
    ∃ a₁ a₂, ({ table, stored } : Assembly).scan access = .ok a₁ ∧
      a₁.selections access.filters = .ok a₂ ∧
      a = (having.map ((grouping.map a₂.aggregate).getD a₂).having).getD
        ((grouping.map a₂.aggregate).getD a₂) := by
  unfold operators at h
  simp only [bind_eq_ok, pure_eq_ok] at h
  obtain ⟨a₁, h₁, a₂, h₂, rfl⟩ := h
  exact ⟨a₁, a₂, h₁, h₂, rfl⟩

/-- What holds of the scan and is kept by all that goes on top of it holds of the operators. -/
theorem operators_keep {I : Assembly → Prop} {table : String} {stored : Schema} {access : Access}
    {grouping : Option Grouping} {having : Option HavingFilter} {a : Assembly}
    (h : operators table stored access grouping having = .ok a)
    (hscan : ∀ b, ({ table, stored } : Assembly).scan access = .ok b → I b)
    (hselection : ∀ b b' f, f ∈ access.filters → b.selection f = .ok b' → I b → I b')
    (haggregate : ∀ b g, grouping = some g → I b → I (b.aggregate g))
    (hhaving : ∀ b hf, having = some hf → I b → I (b.having hf)) : I a := by
  obtain ⟨a₁, a₂, h₁, h₂, rfl⟩ := operators_eq_ok h
  have hfilters := Assembly.selections_keep h₂ hselection (hscan a₁ h₁)
  have hgroups : I ((grouping.map a₂.aggregate).getD a₂) := by
    cases grouping with
    | none => exact hfilters
    | some g => exact haggregate a₂ g rfl hfilters
  cases having with
  | none => exact hgroups
  | some hf => exact hhaving _ hf rfl hgroups

theorem operators_stored {table : String} {stored : Schema} {access : Access}
    {grouping : Option Grouping} {having : Option HavingFilter} {a : Assembly}
    (h : operators table stored access grouping having = .ok a) :
    a.stored = stored ∧ a.table = table := by
  refine operators_keep (I := fun b => b.stored = stored ∧ b.table = table) h (fun b hb => ?_)
    (fun b b' f _ hf hb => ?_) (fun _ _ _ hb => hb) fun _ _ _ hb => hb
  · obtain ⟨keyType, dataType, -, -, -, -, rfl⟩ := Assembly.scan_eq_ok hb
    exact ⟨rfl, rfl⟩
  · obtain ⟨hs, ht⟩ := Assembly.selection_stored hf
    exact ⟨hs.trans hb.1, ht.trans hb.2⟩

/-! ### Conditions on groups -/

theorem HavingFilter.ofTerm_eq_ok {t : HavingTerm} {column : Nat} {schema : Schema}
    {hf : HavingFilter} (h : HavingFilter.ofTerm t column schema = .ok hf) :
    havingComparison t = .ok (hf.op, hf.literal) ∧ hf.column = column ∧
      schema.type? column = some hf.storage ∧
      checkHavingLiteral hf.literal hf.storage = .ok () := by
  unfold HavingFilter.ofTerm at h
  simp only [bind_eq_ok, Prod.exists] at h
  obtain ⟨op, l, hside, h⟩ := h
  split at h
  · cases h
  · next storage hstorage =>
      simp only [bind_eq_ok, pure_eq_ok] at h
      obtain ⟨_, hcheck, rfl⟩ := h
      exact ⟨hside, rfl, hstorage, hcheck⟩

/-- A condition on groups is that of the query, on the value that was planned for it. -/
theorem having?_eq_ok {q : Resolved} {grouping : Option Grouping} {hf : HavingFilter}
    (h : having? q grouping = .ok (some hf)) :
    ∃ t g column, q.having.head? = some t ∧ grouping = some g ∧ g.havingColumn = some column ∧
      HavingFilter.ofTerm t column g.schema = .ok hf := by
  unfold having? at h
  split at h
  · next t g ht =>
      split at h
      · next column hcolumn =>
          simp only [bind_eq_ok, pure_eq_ok, Option.some.injEq] at h
          obtain ⟨hf, hterm, rfl⟩ := h
          exact ⟨t, g, column, ht, rfl, hcolumn, hterm⟩
      · cases h
  · cases h

/-! ### Programs -/

/-- The columns that a query prints. -/
def printed (q : Resolved) (stored output : Schema) :
    Option Grouping → Collecting (List OutputColumn)
  | some g => liftM (groupedOutput output g)
  | none => scanOutput q.projections stored output

/-- The values between a query and its program. -/
structure Stages (q : Resolved) (p : Program) where
  /-- The table that is read. -/
  table : Catalog.Table
  tables_eq : q.tables = [table]
  outerJoin_eq : q.outerJoin = false
  /-- The records of choosing how to reach the records of the table. -/
  records : List Record
  access_gives : Gives (Access.ofQuery q) p.access records
  /-- The layout of the stored records. -/
  stored : Schema
  stored_eq : ofTable table = .ok stored
  /-- The layout of the output columns, by what they compute. -/
  output : Schema
  output_eq : ofProjections stored q.projections = .ok output
  /-- The layout of the output columns, by the values that they read. -/
  retyped : Schema
  /-- The routines that the groups need. -/
  routines : Routines
  grouping_gathers : Gathers (grouping? q stored output) .empty (p.grouping, retyped) routines
  having_eq : having? q p.grouping = .ok p.having
  /-- The operators. -/
  assembly : Assembly
  operators_eq : operators table.name stored p.access p.grouping p.having = .ok assembly
  table_eq : p.table = table.name
  steps_eq : p.steps = assembly.steps
  root_eq : p.root = assembly.top
  allocations_eq : p.allocations = assembly.allocations
  transient_eq : p.transient = assembly.transient
  output_gathers : Gathers (printed q stored retyped p.grouping) routines p.output p.routines

/-- Without groups there is no condition on them. -/
theorem Stages.having_none {q : Resolved} {p : Program} (st : Stages q p)
    (hg : p.grouping = none) : p.having = none := by
  have hhaving := st.having_eq
  cases hh : p.having with
  | none => rfl
  | some hf =>
      rw [hh] at hhaving
      obtain ⟨t, g, column, -, hsome, -⟩ := having?_eq_ok hhaving
      rw [hg] at hsome
      cases hsome

/-- With a value planned for it, the condition of the query is that of the program. -/
theorem Stages.having_some {q : Resolved} {p : Program} (st : Stages q p) {g : Grouping}
    (hg : p.grouping = some g) {t : HavingTerm} (ht : q.having = [t]) {k : Nat}
    (hk : g.havingColumn = some k) :
    ∃ hf, p.having = some hf ∧ HavingFilter.ofTerm t k g.schema = .ok hf := by
  have hhaving := st.having_eq
  simp only [having?, hg, ht, List.head?_cons, hk, bind_eq_ok, pure_eq_ok] at hhaving
  obtain ⟨hf, hterm, hsome⟩ := hhaving
  exact ⟨hf, hsome.symm, hterm⟩

theorem gathers_get {s s' t : Routines} : Gathers get s t s' ↔ t = s ∧ s' = s := by
  show ((Except.ok s : Except Fault Routines), s) = (.ok t, s') ↔ _
  simp [eq_comm]

theorem finish_gathers {a : Assembly} {q : Resolved} {output : Schema} {access : Access}
    {grouping : Option Grouping} {having : Option HavingFilter} {s s' : Routines} {p : Program}
    (h : Gathers (a.finish { projections := q.projections, output, access, grouping, having })
      s p s') :
    ∃ columns, Gathers (printed q a.stored output grouping) s columns s' ∧
      p = {
        table := a.table
        steps := a.steps
        root := a.top
        allocations := a.allocations
        transient := a.transient
        routines := s'
        output := columns
        access, grouping, having } := by
  unfold Assembly.finish at h
  cases grouping with
  | some g =>
      simp only [gathers_bind, gathers_pure, gathers_lift, gathers_get] at h
      obtain ⟨columns, _, ⟨h, rfl⟩, _, _, ⟨rfl, rfl⟩, rfl, rfl⟩ := h
      exact ⟨columns, gathers_lift.2 ⟨h, rfl⟩, rfl⟩
  | none =>
      simp only [gathers_bind, gathers_pure, gathers_get] at h
      obtain ⟨columns, _, h, _, _, ⟨rfl, rfl⟩, rfl, rfl⟩ := h
      exact ⟨columns, h, rfl⟩

/-- Choosing how to reach the records comes first, and its records are all there are. -/
theorem build_gives {q : Resolved} {p : Program} {rs : List Record} (h : Gives (build q) p rs) :
    ∃ access s', Gives (Access.ofQuery q) access rs ∧
      Gathers (assemble q access) .empty p s' := by
  unfold build at h
  simp only [gives_bind, gives_lift] at h
  obtain ⟨access, rs₁, _, ha, ⟨hb, rfl⟩, rfl⟩ := h
  rw [List.append_nil]
  exact ⟨access, _, ha, Prod.ext hb rfl⟩

theorem ofQuery_value {q : Resolved} {p : Program} (h : (ofQuery q).run.value = .ok p) :
    ∃ rs, Gives (build q) p rs := by
  rw [run_ofQuery] at h
  exact ⟨_, gives_iff.2 ⟨h, rfl⟩⟩

/-- **A program comes from its stages.** -/
theorem stages_of_ofQuery {q : Resolved} {p : Program} (h : (ofQuery q).run.value = .ok p) :
    Nonempty (Stages q p) := by
  obtain ⟨rs, hb⟩ := ofQuery_value h
  obtain ⟨access, s', ha, hp⟩ := build_gives hb
  obtain ⟨hlen, hjoin, -⟩ := Access.ofQuery_gives ha
  obtain ⟨table, htable⟩ := List.length_eq_one_iff.1 hlen
  unfold assemble at hp
  rw [htable, List.head?_cons] at hp
  simp only [gathers_bind, gathers_lift, Prod.exists] at hp
  obtain ⟨stored, _, ⟨hs, rfl⟩, output, _, ⟨ho, rfl⟩, grouping, retyped, routines, hg, having, _,
    ⟨hh, rfl⟩, a, _, ⟨hop, rfl⟩, hf⟩ := hp
  obtain ⟨columns, hc, rfl⟩ := finish_gathers hf
  obtain ⟨hstored, htab⟩ := operators_stored hop
  rw [hstored] at hc
  exact ⟨{
    table, tables_eq := htable, outerJoin_eq := hjoin
    records := rs, access_gives := ha
    stored, stored_eq := hs
    output, output_eq := ho
    retyped, routines := _, grouping_gathers := hg
    having_eq := hh
    assembly := a, operators_eq := hop
    table_eq := htab, steps_eq := rfl, root_eq := rfl
    allocations_eq := rfl, transient_eq := rfl
    output_gathers := hc }⟩

end SqlPipeline.Plan
