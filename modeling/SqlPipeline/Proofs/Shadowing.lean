/-
**When a pointer hides a function that a printed value calls.**

The procedure that prints records declares a pointer for each printed column that reads something,
with the name of the column.  Inside the procedure that name is the pointer, so a value that calls a
function of the same name would call the pointer.  Names of output columns are never reserved ones,
but the functions of formulas are not reserved.  A query can give the name of one to an output
column, or the table to a column; then the first output column that asks for the name gets it, and
the others get a number.

Main definitions:

* `Plan.OutputColumn.calls` — the functions that the text of a printed value calls;
* `Plan.Program.pointers` — the pointers that the printing procedure declares;
* `Plan.Program.Unshadowed` — no pointer hides a function that a printed value calls;
* `Query.Projection.Called` — an output column is called by a name;
* `Query.FirstCalled` — it is the first that is.

Main results:

* `Plan.OutputColumn.calls_eq` — a printed value calls the functions of its formula;
* `Query.name_eq_routineName_iff` — which output column has the name of a function;
* `Plan.Stages.mem_pointers_iff` — which output columns have a pointer;
* `unshadowed_iff` — **no pointer hides a function exactly if the query has groups, or the first
  output column with the name of a function of the output reads nothing**;
* `floor_shadowed` — a pointer that hides a function.
-/

import SqlPipeline.Proofs.Calls
import SqlPipeline.Proofs.OutputNames

set_option autoImplicit false

namespace SqlPipeline

open Layout Query Outcome

/-! ### Printed values -/

namespace Plan

/-- The functions that the text of a printed value calls. -/
def OutputColumn.calls (c : OutputColumn) : List String :=
  Listing.calledFrom [] c.valueText.toList

/-- The pointers that the printing procedure declares. -/
def Program.pointers (p : Program) : List String :=
  (p.output.filter fun c => c.pointer.isSome).map OutputColumn.name

/-- No pointer of the printing procedure hides a function that one of its values calls. -/
def Program.Unshadowed (p : Program) : Prop :=
  ∀ name ∈ p.pointers, ∀ c ∈ p.output, name ∉ c.calls

instance (p : Program) : Decidable p.Unshadowed :=
  inferInstanceAs (Decidable (∀ name ∈ p.pointers, ∀ c ∈ p.output, name ∉ c.calls))

/-- **A printed value calls the functions of its formula**, in order. -/
theorem OutputColumn.calls_eq {c : OutputColumn} (h : Text.isIdentifier c.name = true) :
    c.calls = c.functions.map MathFunction.routineName := by
  have haccess : '(' ∉ ("*" ++ c.name).toList := by
    intro hmem
    rw [String.toList_append, List.mem_append] at hmem
    rcases hmem with hmem | hmem
    · exact absurd hmem (by decide)
    · exact absurd (Listing.isIdentifierChar_of_isIdentifier h _ hmem) (by decide)
  change Listing.Says c.valueText _
  unfold OutputColumn.valueText OutputColumn.functions
  cases c.formula with
  | none => exact Listing.says_of_not_mem haccess
  | some f =>
      have hcast : Listing.Says ("(" ++ c.type.name ++ ")(") [] :=
        (Listing.Says.go (a := "(") (m := []) (Listing.says_lit rfl) (Listing.ends_lit rfl)
          (Listing.says_name c.type)).lit rfl rfl
      exact (hcast.go ((Listing.ends_lit rfl).append _) (Listing.says_textWith haccess f)).lit
        rfl rfl

end Plan

/-- The pointers of a procedure are the variables that its lines for pointers declare. -/
theorem Listing.declaring_pointers (p : Plan.Program) :
    Listing.Declaring (p.output.filterMap Listing.pointerLine?) p.pointers := by
  unfold Plan.Program.pointers
  induction p.output with
  | nil => exact .nil
  | cons c output ih =>
      cases hpointer : c.pointer with
      | none =>
          rw [List.filterMap_cons, List.filter_cons_of_neg (by simp [hpointer])]
          simpa [Listing.pointerLine?, hpointer] using ih
      | some place =>
          rw [List.filterMap_cons, List.filter_cons_of_pos (by simp [hpointer]), List.map_cons]
          have hline := (Listing.declaring_line (place.1.name ++ "* ") c.name " = ("
            (place.1.name ++ "*)((int8_t*)recordBuffer + " ++ toString place.2 ++ ");")
            (Listing.name_mem_declaringTypes place.1) (.inl (by decide))).append ih
          simpa only [Listing.pointerLine?, hpointer, Option.map_some, String.append_assoc,
            List.singleton_append] using hline

/-! ### Names of functions -/

namespace Query

variable {s : Scope} {asked : List Kind} {ps : List Projection} {i : Nat} {x : Projection}
  {kind : Kind}

/-- An output column reads a column of the table. -/
def Projection.ReadsColumn (ps : List Projection) (x : Projection) : Prop :=
  ∃ kind n, x.Asks ps kind ∧ n ∈ kind.columns

/-- An output column is called by a name: the one that it is given or, if it is given none, the one
of the column that it is. -/
def Projection.Called (t : Catalog.Table) (ps : List Projection) (x : Projection) (name : String) :
    Prop :=
  x.label = some name ∨
    x.label = none ∧ ∃ n c, x.Asks ps (.column n) ∧ t.columns[n]? = some c ∧ c.name = name

/-- An output column is the first that is called by a name. -/
def FirstCalled (t : Catalog.Table) (ps : List Projection) (name : String) (x : Projection) :
    Prop :=
  ∃ i : Nat, ps[i]? = some x ∧ x.Called t ps name ∧
    ∀ (j : Nat) y, j < i → ps[j]? = some y → ¬ y.Called t ps name

/-- The names of functions are kept as they are, since they are not reserved. -/
theorem untouched_routineName (f : Plan.MathFunction) : Untouched f.routineName := by
  cases f <;> exact ⟨by decide +kernel, by decide⟩

/-- Only a column has the name of a function by default. -/
theorem defaultName_eq_iff (f : Plan.MathFunction) :
    s.defaultName kind i = f.routineName ↔
      ∃ n c, kind = .column n ∧ s.table.columns[n]? = some c ∧ c.name = f.routineName := by
  have hline := (untouched_routineName f).not_mem
  constructor
  · intro h
    unfold Scope.defaultName at h
    split at h
    · next n =>
        rw [Scope.columnName] at h
        cases hc : s.table.columns[n]? with
        | none =>
            rw [hc] at h
            cases f <;> exact absurd h (by decide)
        | some c =>
            rw [hc] at h
            exact ⟨n, c, rfl, hc, h⟩
    · cases f <;> exact absurd h (by decide)
    · exact absurd (by simp [← h]) hline
    · next g _ => cases f <;> cases g <;> exact absurd h (by decide)
    · -- the second letters differ
      have hletters := congrArg String.toList h
      rw [String.toList_append] at hletters
      cases f <;> simp [Plan.MathFunction.routineName] at hletters
  · rintro ⟨n, c, rfl, hc, hname⟩
    rw [Scope.defaultName, Scope.columnName, hc]
    exact hname

/-- An output column asks for what is asked for at its place, up to sameness. -/
theorem asks_of_shared (hps : ps.map Projection.kind = shared asked)
    (hasked : ∀ kind ∈ asked, s.Answers kind) (hx : ps[i]? = some x)
    (hkind : asked[i]? = some kind) : ∃ k, x.Asks ps k ∧ (k == kind) = true := by
  have hshared : (shared asked)[i]? = some x.kind := by
    rw [← hps, List.getElem?_map, hx]
    rfl
  obtain ⟨hleft, -⟩ | ⟨first, k, halias, -, hk, hfirst, hsame⟩ := getElem?_shared_cases hshared
  · obtain rfl : x.kind = kind := Option.some.inj (hleft.symm.trans hkind)
    have hanswers := hasked _ (List.mem_of_getElem? hkind)
    exact ⟨x.kind, ⟨hanswers.not_alias, .inl rfl⟩, hanswers.2⟩
  · rw [← hps, List.getElem?_map, Option.map_eq_some_iff] at hfirst
    obtain ⟨y, hy, rfl⟩ := hfirst
    have hanswers := hasked _ (List.mem_of_getElem? hk)
    exact ⟨y.kind, ⟨hanswers.not_alias, .inr ⟨first, y, halias, hy, rfl⟩⟩, hsame kind hkind⟩

/-- An output column asks for a column exactly if its item does. -/
theorem asks_column_iff (hps : ps.map Projection.kind = shared asked)
    (hasked : ∀ kind ∈ asked, s.Answers kind) (hx : ps[i]? = some x)
    (hkind : asked[i]? = some kind) {n : Nat} : x.Asks ps (.column n) ↔ kind = .column n := by
  obtain ⟨k, hasks, hsame⟩ := asks_of_shared hps hasked hx hkind
  rw [Kind.same_iff] at hsame
  constructor
  · intro h
    obtain rfl := h.unique hasks
    cases hsame
    rfl
  · rintro rfl
    cases hsame
    exact hasks

/-- An output column is called by the name of a function exactly if it asks for that name. -/
theorem called_iff (hps : ps.map Projection.kind = shared asked)
    (hasked : ∀ kind ∈ asked, s.Answers kind) (hx : ps[i]? = some x)
    (hkind : asked[i]? = some kind) (f : Plan.MathFunction) :
    x.Called s.table ps f.routineName ↔ s.wanted x.label kind i = f.routineName := by
  unfold Projection.Called Scope.wanted
  cases x.label with
  | some label => simp
  | none =>
      rw [Option.getD_none, defaultName_eq_iff f]
      simp [asks_column_iff hps hasked hx hkind]

/-- **The output column with the name of a function** is the first that is called by it. -/
theorem name_eq_routineName_iff {items : List Sql.SelectItem} (h : s.projections items = .ok ps)
    (f : Plan.MathFunction) : x ∈ ps ∧ x.name = f.routineName ↔
      FirstCalled s.table ps f.routineName x := by
  obtain ⟨asked, hasked, hnames⟩ := Scope.names_projections h
  obtain ⟨asked', hasked', hanswers, hps⟩ := s.map_kind_projections h
  obtain rfl : asked = asked' := Except.ok.inj (hasked.symm.trans hasked')
  -- what is asked for at the place of an output column
  have hplace : ∀ {j : Nat} {y : Projection}, ps[j]? = some y → ∃ k, asked[j]? = some k := by
    intro j y hy
    have hlt := (List.getElem?_eq_some_iff.1 hy).1
    exact ⟨_, List.getElem?_eq_getElem (hnames.length_eq ▸ hlt)⟩
  have key : ∀ {i : Nat}, ps[i]? = some x → (x.name = f.routineName ↔
      x.Called s.table ps f.routineName ∧
        ∀ (j : Nat) y, j < i → ps[j]? = some y → ¬ y.Called s.table ps f.routineName) := by
    intro i hx
    obtain ⟨kind, hkind⟩ := hplace hx
    rw [hnames.name_eq_iff (untouched_routineName f) hx hkind, called_iff hps hanswers hx hkind]
    refine and_congr_right fun _ => ⟨fun hothers j y hj hy => ?_, fun hothers j y k hj hy hk => ?_⟩
    · obtain ⟨k, hk⟩ := hplace hy
      rw [called_iff hps hanswers hy hk]
      exact hothers j y k hj hy hk
    · rw [Ne, ← called_iff hps hanswers hy hk]
      exact hothers j y hj hy
  constructor
  · rintro ⟨hmem, hname⟩
    obtain ⟨i, hx⟩ := List.mem_iff_getElem?.1 hmem
    exact ⟨i, hx, (key hx).1 hname⟩
  · rintro ⟨i, hx, hcalled⟩
    exact ⟨List.mem_of_getElem? hx, (key hx).2 hcalled⟩

end Query

/-! ### Pointers -/

namespace Plan

variable {q : Resolved} {p : Program}

/-- Without groups, a printed column has a pointer exactly if its output column reads a column. -/
theorem Stages.isSome_pointer_iff (st : Stages q p) (hg : p.grouping = none) {i : Nat}
    {x : Projection} {c : OutputColumn} (hx : q.projections[i]? = some x)
    (hc : p.output[i]? = some c) : c.pointer.isSome = true ↔ x.ReadsColumn q.projections := by
  have hprints := st.printsRecords hg
  rcases hprints.asks x (List.mem_of_getElem? hx) with ⟨n, hasks⟩ | ⟨e, hasks⟩
  · obtain ⟨column, c', -, hc', hpointer, -⟩ := hprints.column i x n hx hasks
    cases hc.symm.trans hc'
    rw [hpointer]
    exact ⟨fun _ => ⟨.column n, n, hasks, List.mem_singleton_self n⟩, fun _ => rfl⟩
  · obtain ⟨f, c', -, hc', -, hpointer, -⟩ := hprints.formula i x e hx hasks
    cases hc.symm.trans hc'
    have hreads : x.ReadsColumn q.projections ↔ ∃ n, n ∈ e.columns := by
      constructor
      · rintro ⟨kind, n, hasks', hn⟩
        obtain rfl := hasks'.unique hasks
        exact ⟨n, mem_numberSet.2 hn⟩
      · rintro ⟨n, hn⟩
        exact ⟨.arithmetic e, n, hasks, mem_numberSet.1 hn⟩
    rw [hreads]
    rcases hpointer with ⟨hcolumns, hpointer⟩ | ⟨n, column, hcolumns, -, hpointer⟩
    · simp [hcolumns, hpointer]
    · simp [hcolumns, hpointer]

/-- Without groups, the pointers are those of the output columns that read columns. -/
theorem Stages.mem_pointers_iff (st : Stages q p) (hg : p.grouping = none) {name : String} :
    name ∈ p.pointers ↔
      ∃ x ∈ q.projections, x.name = name ∧ x.ReadsColumn q.projections := by
  have hnames := st.names_eq hg
  have hlength : p.output.length = q.projections.length := by
    simpa using congrArg List.length hnames
  have hname : ∀ {i : Nat} {x : Projection} {c : OutputColumn}, q.projections[i]? = some x →
      p.output[i]? = some c → x.name = c.name := by
    intro i x c hx hc
    have hi := congrArg (fun names : List String => names[i]?) hnames
    simpa [hx, hc] using hi.symm
  rw [Program.pointers, List.mem_map]
  constructor
  · rintro ⟨c, hmem, rfl⟩
    obtain ⟨hmem, hpointer⟩ := List.mem_filter.1 hmem
    obtain ⟨i, hc⟩ := List.mem_iff_getElem?.1 hmem
    have hlt := (List.getElem?_eq_some_iff.1 hc).1
    have hx : q.projections[i]? = some q.projections[i] := List.getElem?_eq_getElem (by omega)
    exact ⟨_, List.mem_of_getElem? hx, hname hx hc, (st.isSome_pointer_iff hg hx hc).1 hpointer⟩
  · rintro ⟨x, hmem, rfl, hreads⟩
    obtain ⟨i, hx⟩ := List.mem_iff_getElem?.1 hmem
    have hlt := (List.getElem?_eq_some_iff.1 hx).1
    have hc : p.output[i]? = some p.output[i] := List.getElem?_eq_getElem (by omega)
    have hpointer := (st.isSome_pointer_iff hg hx hc).2 hreads
    exact ⟨_, List.mem_filter.2 ⟨List.mem_of_getElem? hc, hpointer⟩, (hname hx hc).symm⟩

/-- Printed values of groups call nothing. -/
theorem Stages.unshadowed_of_some (st : Stages q p) {g : Grouping} (hg : p.grouping = some g)
    (hident : ∀ c ∈ p.output, Text.isIdentifier c.name = true) : p.Unshadowed := by
  intro name _ c hc
  rw [OutputColumn.calls_eq (hident c hc), OutputColumn.functions,
    formula_of_groupedOutput (st.grouping_gathers_some hg).2 c hc]
  exact List.not_mem_nil

/-- Without groups, no pointer hides a function exactly if no output column that reads a column has
the name of a function of the output. -/
theorem Stages.unshadowed_of_none (st : Stages q p) (hg : p.grouping = none)
    (hident : ∀ c ∈ p.output, Text.isIdentifier c.name = true) :
    p.Unshadowed ↔ ∀ f ∈ q.functions, ∀ x ∈ q.projections, x.name = f.routineName →
      ¬ x.ReadsColumn q.projections := by
  have hcalls : ∀ name, (∃ c ∈ p.output, name ∈ c.calls) ↔
      ∃ f ∈ q.functions, f.routineName = name := by
    intro name
    have hfunctions : ∀ f, f ∈ q.functions ↔ ∃ c ∈ p.output, f ∈ c.functions := by
      intro f
      rw [← st.mem_functions, Program.functions, hg]
      exact List.mem_flatMap
    constructor
    · rintro ⟨c, hc, hname⟩
      rw [OutputColumn.calls_eq (hident c hc)] at hname
      obtain ⟨f, hf, rfl⟩ := List.mem_map.1 hname
      exact ⟨f, (hfunctions f).2 ⟨c, hc, hf⟩, rfl⟩
    · rintro ⟨f, hf, rfl⟩
      obtain ⟨c, hc, hf⟩ := (hfunctions f).1 hf
      refine ⟨c, hc, ?_⟩
      rw [OutputColumn.calls_eq (hident c hc)]
      exact List.mem_map_of_mem hf
  constructor
  · intro h f hf x hx hname hreads
    obtain ⟨c, hc, hcall⟩ := (hcalls f.routineName).2 ⟨f, hf, rfl⟩
    exact h _ ((st.mem_pointers_iff hg).2 ⟨x, hx, hname, hreads⟩) c hc hcall
  · intro h name hname c hc hcall
    obtain ⟨x, hx, rfl, hreads⟩ := (st.mem_pointers_iff hg).1 hname
    obtain ⟨f, hf, hfunction⟩ := (hcalls x.name).1 ⟨c, hc, hcall⟩
    exact h f hf x hx hfunction.symm hreads

end Plan

/-! ### Texts over catalogs -/

/-- The output columns of a text over one table are those of its scope. -/
theorem Query.projections_of_ofText {catalog : Catalog.Store} {sql : String} {q : Resolved}
    {t : Catalog.Table} (h : Query.ofText catalog sql = .ok q) (ht : q.tables = [t]) :
    ∃ (s : Scope) (items : List Sql.SelectItem), s.table = t ∧
      s.projections items = .ok q.projections := by
  obtain ⟨query, shown, -, h⟩ := query_of_ofText h
  obtain ⟨sel, -, h⟩ := select_of_ofQuery h
  obtain ⟨s, outerJoin, -, h⟩ := overScope_of_ofSelect h (by rw [ht]; rfl)
  obtain ⟨hps, -, -, -, htables, -⟩ := overScope_eq_ok h
  rw [ht] at htables
  exact ⟨s, sel.items, (List.head_eq_of_cons_eq htables).symm, hps⟩

/-- **When no pointer of the printing procedure hides a function that a printed value calls.**  The
pointers are the variables that the lines for pointers declare, and have no reserved names, so that
the functions that the procedure itself calls are never hidden.  Those of the values are not either
exactly if the query has groups, or for each function of its output columns, the first output column
that is called by its name reads no column. -/
theorem unshadowed_iff {catalog : Catalog.Store} {sql : String} {p : Plan.Program}
    (h : (planText catalog sql).run.value = .ok p) :
    Listing.Declaring (p.output.filterMap Listing.pointerLine?) p.pointers ∧
      (∀ name ∈ p.pointers, name ∉ reservedNames) ∧
      ∃ q table, Query.ofText catalog sql = .ok q ∧ q.tables = [table] ∧
        (p.Unshadowed ↔ q.isGrouped = true ∨ ∀ f ∈ q.functions, ∀ x,
          FirstCalled table q.projections f.routineName x → ¬ x.ReadsColumn q.projections) := by
  obtain ⟨q, hq, hp⟩ := query_of_planText h
  obtain ⟨st⟩ := Plan.stages_of_ofQuery hp
  obtain ⟨s, items, htable, hps⟩ := projections_of_ofText hq st.tables_eq
  obtain ⟨_, -, hnames⟩ := Scope.names_projections hps
  have hmade : ∀ c ∈ p.output, ∃ x ∈ q.projections, x.name = c.name :=
    fun c hc => List.mem_map.1 (st.name_mem c hc)
  refine ⟨Listing.declaring_pointers p, fun name hname => ?_,
    q, st.table, hq, st.tables_eq, ?_⟩
  · obtain ⟨c, hc, rfl⟩ := List.mem_map.1 hname
    obtain ⟨x, hx, hname⟩ := hmade c (List.mem_filter.1 hc).1
    exact hname ▸ hnames.unreserved x hx
  · have hident : ∀ c ∈ p.output, Text.isIdentifier c.name = true := by
      intro c hc
      obtain ⟨x, hx, hname⟩ := hmade c hc
      exact hname ▸ Scope.identified_projections hps x hx
    have hgrouped := st.isSome_grouping
    cases hg : p.grouping with
    | some g =>
        rw [hg, Option.isSome_some] at hgrouped
        exact ⟨fun _ => .inl hgrouped.symm, fun _ => st.unshadowed_of_some hg hident⟩
    | none =>
        rw [hg, Option.isSome_none] at hgrouped
        rw [st.unshadowed_of_none hg hident, ← hgrouped, ← htable]
        simp only [← name_eq_routineName_iff hps, Bool.false_eq_true, false_or, and_imp]

/-- A function in the output, after two output columns that are called by its name; the first is
constant. -/
def steadyText : String :=
  "SELECT 2 AS embedDBFloor, wind AS embedDBFloor, FLOOR(wind) FROM shed"

/-- The query that the text stands for. -/
def steady : Resolved :=
  { Resolved.ofTable shed with
    projections := [
      { name := "embedDBFloor", label := some "embedDBFloor",
        kind := .arithmetic (.literal (.integer 2)) },
      { name := "embedDBFloor_2", label := some "embedDBFloor", kind := .column 2 },
      { name := "expr2", kind := .arithmetic (.apply "floor" (.column 2)) }] }

theorem ofText_steadyText : Query.ofText shedCatalog steadyText = .ok steady := by
  decide +kernel

theorem access_steady : Plan.Access.ofQuery steady
    = Plan.Access.ofFilters steady.hints [] := rfl

theorem unshadowed_iff_steadyText :
    ∃ p, (planText shedCatalog steadyText).run.value = .ok p ∧
      p.pointers = ["embedDBFloor_2", "expr2"] ∧ p.Unshadowed ∧
      ∀ x, FirstCalled shed steady.projections "embedDBFloor" x →
        ¬ x.ReadsColumn steady.projections := by
  obtain ⟨p, hp, hpointers, hfree⟩ : ∃ p, (planText shedCatalog steadyText).run.value = .ok p ∧
      p.pointers = ["embedDBFloor_2", "expr2"] ∧ p.Unshadowed := by
    rw [planText_of_ok ofText_steadyText, Plan.ofQuery, Plan.build, access_steady,
      Plan.Access.ofFilters, Plan.Access.candidates_of_pairwise (by decide)]
    exact ⟨_, rfl, rfl, by decide +kernel⟩
  obtain ⟨-, -, q, table, hq, htables, hiff⟩ := unshadowed_iff hp
  rw [ofText_steadyText] at hq
  cases hq
  cases htables
  rcases hiff.1 hfree with hgrouped | hothers
  · cases hgrouped
  · exact ⟨p, hp, hpointers, hfree, hothers .floor (by decide)⟩

/-- The same output without the constant. -/
def gustyText : String :=
  "SELECT wind AS embedDBFloor, FLOOR(wind) FROM shed"

/-- The query that the text stands for. -/
def gusty : Resolved :=
  { Resolved.ofTable shed with
    projections := [
      { name := "embedDBFloor", label := some "embedDBFloor", kind := .column 2 },
      { name := "expr1", kind := .arithmetic (.apply "floor" (.column 2)) }] }

theorem ofText_gustyText : Query.ofText shedCatalog gustyText = .ok gusty := by
  decide +kernel

theorem access_gusty : Plan.Access.ofQuery gusty
    = Plan.Access.ofFilters gusty.hints [] := rfl

/-- A pointer with the name of a function that a printed value calls. -/
theorem floor_shadowed :
    ∃ catalog p, (Catalog.Store.empty.executeAll [shedDefinition]).run.value = .ok catalog ∧
      (planText catalog gustyText).run.value = .ok p ∧ "embedDBFloor" ∈ p.pointers ∧
      (∃ c ∈ p.output, "embedDBFloor" ∈ c.calls) ∧ ¬ p.Unshadowed := by
  refine ⟨shedCatalog, ?_⟩
  rw [planText_of_ok ofText_gustyText, Plan.ofQuery, Plan.build, access_gusty,
    Plan.Access.ofFilters, Plan.Access.candidates_of_pairwise (by decide)]
  exact ⟨_, executeAll_shedDefinition, rfl, by decide +kernel, by decide +kernel,
    by decide +kernel⟩

end SqlPipeline
