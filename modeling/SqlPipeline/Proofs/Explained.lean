/-
**The explanation of a program describes its steps.**

A program carries its bounds and filters, its groups and the condition on them a second time, beside
the steps.  The explanation of a program is written from these, its text from the steps.  Here it is
shown that the steps say the same: what is stored in variables, what the operators compare and what
they compute is read off the steps, and the explanation can be written from that.

Main definitions:

* `Plan.Bound.isBounded` — a bound has a side;
* `Plan.storedIn` — the literal that steps store in a variable;
* `Plan.Step.bounds?`, `Plan.Step.selects?`, `Plan.Step.descriptors?`, `Plan.Step.tests?` — what a
  step says;
* `Plan.Program.Mirrors` — the steps of a program say what it carries beside them;
* `Plan.Program.bare`, `outline` — a program without what it carries beside its steps, and the
  summary of it.

Main results:

* `Plan.Access.isSome_columns` — a column of bounds is known exactly if there is a bound;
* `Plan.Stages.shape` — the steps of a program, operator by operator;
* `Plan.Stages.mirrors` — the steps of a program say what it carries beside them;
* `Plan.explained` — **the explanation of a program describes its steps**.
-/

import SqlPipeline.Explain
import SqlPipeline.Listing.Basic
import SqlPipeline.Proofs.Allocations
import SqlPipeline.Proofs.RoutineNeeds
import SqlPipeline.Proofs.StoredValues
import SqlPipeline.Proofs.Wiring

set_option autoImplicit false

namespace SqlPipeline

open Journal Layout Query Outcome

namespace Plan

/-! ### Bounds and their columns -/

/-- Whether a bound has a side. -/
def Bound.isBounded (b : Bound) : Bool :=
  b.min.isSome || b.max.isSome

theorem Bound.isBounded_replace (earlier later : Bound) :
    (earlier.replace later).isBounded = (later.isBounded || earlier.isBounded) := by
  cases later with
  | mk min max => cases min <;> cases max <;> simp [replace, isBounded]

theorem Filter.isBounded_bound {f : Filter} {b : Bound} (h : f.bound? = .ok (some b)) :
    b.isBounded = true := by
  obtain ⟨rfl, -⟩ := bound?_eq_ok h
  cases hop : f.op with
  | ne => simp [bound?, hop, pure_eq_ok] at h
  | _ => simp [Bound.isBounded, least?, greatest?, hop]

theorem Filter.isBounded_keyBound {f : Filter} {b b' : Bound} (h : f.keyBound b = .ok b') :
    b'.isBounded = b.isBounded := by
  obtain ⟨-, rfl⟩ := keyBound_eq_ok h
  simp [Bound.isBounded]

namespace Access

section

variable {hints : List Catalog.Hint} {data : Option Nat} {done fs : List Filter} {a a' : Access}
  {rs : List Record}

/-- The columns of the bounds after some comparisons.  The column of the data was chosen before; if
one of the comparisons can bound it, it is bounded. -/
structure Columns (hints : List Catalog.Hint) (data : Option Nat) (done : List Filter)
    (a : Access) : Prop where
  key : a.keyColumn.isSome = a.key.isBounded
  chosen : a.secondaryColumn = data
  secondary : a.secondary.isBounded = true → data.isSome
  reached : ∀ f ∈ done, boundsData hints f = true → data = some f.column →
    a.secondary.isBounded = true

/-- One more comparison. -/
theorem Columns.add (h : a.Columns hints data done) {f : Filter}
    (hadd : Gives (a.add hints f) a' rs) : a'.Columns hints data (done ++ [f]) := by
  obtain ⟨hguard, -, rfl⟩ | ⟨hkey, b, b', hb, hb', -, rfl⟩ | ⟨hkey, hs, b, hb, -, rfl⟩ :=
    add_cases hadd
  · refine { h with reached := List.forall_mem_append.2 ⟨h.reached, ?_⟩ }
    refine List.forall_mem_singleton.2 fun hbounds hdata => ?_
    rcases hguard with hne | ⟨-, hs⟩
    · unfold boundsData at hbounds
      rw [hne] at hbounds
      split at hbounds <;> cases hbounds
    · exact absurd (h.chosen.trans hdata) hs
  · have hbounded : (a.key.replace b').isBounded = true := by
      rw [Bound.isBounded_replace, Filter.isBounded_keyBound hb', Filter.isBounded_bound hb]
      rfl
    refine { h with key := hbounded.symm, reached := List.forall_mem_append.2 ⟨h.reached, ?_⟩ }
    refine List.forall_mem_singleton.2 fun hbounds _ => ?_
    simp [boundsData, hkey] at hbounds
  · have hbounded : (a.secondary.replace b).isBounded = true := by
      rw [Bound.isBounded_replace, Filter.isBounded_bound hb]
      rfl
    refine { h with secondary := fun _ => ?_, reached := fun _ _ _ _ => hbounded }
    rw [← h.chosen, hs]
    rfl

/-- A column of bounds is known exactly if there is a bound. -/
theorem isSome_columns (h : Gives (ofFilters hints fs) a rs) :
    a.keyColumn.isSome = a.key.isBounded ∧ a.secondaryColumn.isSome = a.secondary.isBounded := by
  obtain ⟨a', hrun, rfl⟩ := ofFilters_gives h
  have hensures : Ensures (fun _ => True)
      (Columns hints (start hints fs).secondaryColumn (candidates hints fs))
      ((candidates hints fs).foldlM (Access.add hints) (start hints fs)) := by
    refine ensures_foldlM ⟨rfl, rfl, nofun, nofun⟩ fun done f rest b _ hb => ?_
    exact ensures_of_gives fun b' rs' hadd => hb.add hadd
  have hcolumns := hensures.1 a' (gives_iff.1 hrun).1
  refine ⟨hcolumns.key, ?_⟩
  show a'.secondaryColumn.isSome = a'.secondary.isBounded
  rw [hcolumns.chosen, Bool.eq_iff_iff]
  refine ⟨fun hsome => ?_, hcolumns.secondary⟩
  -- the column was chosen for a comparison that comes up later
  obtain ⟨n, hn⟩ := Option.isSome_iff_exists.1 hsome
  obtain ⟨f, hf, rfl⟩ := Option.map_eq_some_iff.1 hn
  exact hcolumns.reached f (List.mem_of_find?_eq_some hf) (List.find?_some hf) hn

end

end Access

/-! ### What steps say -/

/-- The variables of the bounds of an iterator. -/
structure BoundNames where
  /-- The least key. -/
  minKey : Option String
  /-- The greatest key. -/
  maxKey : Option String
  /-- The least value of the indexed column. -/
  minData : Option String
  /-- The greatest value of the indexed column. -/
  maxData : Option String
  deriving DecidableEq, Repr, Inhabited

/-- A comparison of a column with what a variable holds. -/
structure VariableTest where
  /-- The number of the column. -/
  column : Nat
  /-- The comparison, with the column on its left. -/
  op : Comparator
  /-- The variable. -/
  value : String
  deriving DecidableEq, Repr, Inhabited

namespace Step

/-- The literal that a step stores in a variable, if it does. -/
def storesAs? (name : String) : Step → Option Literal
  | .literal n _ value => if n = name then some value else none
  | _ => none

/-- The variables that an iterator takes its bounds from. -/
def bounds? : Step → Option BoundNames
  | .iterator minKey maxKey minData maxData => some ⟨minKey, maxKey, minData, maxData⟩
  | _ => none

/-- The comparison by which a step selects records. -/
def selects? : Step → Option VariableTest
  | .selection _ _ column op value => some ⟨column, op, value⟩
  | _ => none

/-- The values of a group that a step computes. -/
def descriptors? : Step → Option (List Descriptor)
  | .aggregate _ descriptors _ _ => some descriptors
  | _ => none

/-- The comparison by which a step selects groups. -/
def tests? : Step → Option VariableTest
  | .having _ _ column op value => some ⟨column, op, value⟩
  | _ => none

end Step

/-- The literal that steps store in a variable. -/
def storedIn (steps : List Step) (name : String) : Option Literal :=
  steps.findSome? (Step.storesAs? name)

/-- No variable is stored twice, so what is stored in one is what it holds. -/
theorem storedIn_eq_some {steps : List Step} (h : (steps.filterMap Step.allocated?).Nodup)
    {name : String} {t : Storage} {l : Literal} (hmem : .literal name t l ∈ steps) :
    storedIn steps name = some l := by
  induction steps with
  | nil => cases hmem
  | cons s steps ih =>
      rw [storedIn, List.findSome?_cons]
      rcases List.mem_cons.1 hmem with rfl | hmem
      · rw [Step.storesAs?, if_pos rfl]
      · have hname : name ∈ steps.filterMap Step.allocated? :=
          List.mem_filterMap.2 ⟨_, hmem, rfl⟩
        have hnone : s.storesAs? name = none := by
          cases s with
          | literal n t' l' =>
              rw [Step.storesAs?, if_neg]
              rintro rfl
              have hcons : (n :: steps.filterMap Step.allocated?).Nodup := h
              exact (List.nodup_cons.1 hcons).1 hname
          | _ => rfl
        rw [hnone]
        exact ih (h.sublist ((List.sublist_cons_self s steps).filterMap _)) hmem

/-! ### The steps of a program -/

/-- Steps that apply filters, in order.  Each filter stores its integer in a variable, which does
not have a fixed name, and compares its column with the variable. -/
inductive Selects : List Filter → List Step → Prop
  | nil : Selects [] []
  | concat {fs : List Filter} {steps : List Step} {f : Filter} {value name input : String}
      {t : Storage} : Selects fs steps → value ∉ fixedNames →
      Selects (fs ++ [f]) (steps ++ [.literal value t (.integer f.value),
        .selection name input f.column f.op value])

namespace Selects

variable {fs : List Filter} {steps : List Step}

theorem fixed_not_stored (h : Selects fs steps) {name : String} {t : Storage} {l : Literal}
    (hmem : .literal name t l ∈ steps) : name ∉ fixedNames := by
  induction h with
  | nil => cases hmem
  | concat _ hvalue ih =>
      rcases List.mem_append.1 hmem with hmem | hmem
      · exact ih hmem
      · simp only [List.mem_cons, Step.literal.injEq, reduceCtorEq, List.not_mem_nil,
          or_false] at hmem
        obtain ⟨rfl, -⟩ := hmem
        exact hvalue

/-- Filters make no other steps. -/
theorem filterMap_eq_nil {α : Type} {v : Step → Option α} (h : Selects fs steps)
    (hliteral : ∀ name t l, v (.literal name t l) = none)
    (hselection : ∀ name input column op value, v (.selection name input column op value) = none) :
    steps.filterMap v = [] := by
  induction h with
  | nil => rfl
  | concat _ _ ih => simp [ih, hliteral, hselection]

/-- The comparisons of the steps are the filters, with what their variables hold. -/
theorem map_selects (h : Selects fs steps) {held : String → Option Literal}
    (hheld : ∀ name t l, .literal name t l ∈ steps → held name = some l) :
    (steps.filterMap Step.selects?).map (fun c => (c.column, c.op, held c.value))
      = fs.map fun f => (f.column, f.op, some (.integer f.value)) := by
  induction h with
  | nil => rfl
  | @concat fs steps f value name input t _ _ ih =>
      have hvalue := hheld value t (.integer f.value) (by simp)
      have hlast : [.literal value t (.integer f.value),
          .selection name input f.column f.op value].filterMap Step.selects?
            = [⟨f.column, f.op, value⟩] := rfl
      rw [List.filterMap_append, hlast, List.map_append, List.map_append, ih fun name t l hmem =>
        hheld name t l (List.mem_append_left _ hmem)]
      simp [hvalue]

end Selects

/-- Filters that are put on top give such steps. -/
theorem Assembly.selections_eq_ok {a a' : Assembly} {fs : List Filter}
    (h : a.selections fs = .ok a') (hfixed : fixedNames ⊆ a.names.used) :
    ∃ steps, a'.steps = a.steps ++ steps ∧ Selects fs steps := by
  have hrun : ∃ steps, a'.steps = a.steps ++ steps ∧ Selects fs steps ∧
      fixedNames ⊆ a'.names.used := by
    refine foldlM_induct (I := fun done b => ∃ steps, b.steps = a.steps ++ steps ∧
      Selects done steps ∧ fixedNames ⊆ b.names.used) h ⟨[], by simp, .nil, hfixed⟩ ?_
    rintro done f rest b b' - ⟨steps, hsteps, hselects, hused⟩ hf
    obtain ⟨c, -, rfl⟩ := selection_eq_ok hf
    refine ⟨_, (congrArg (· ++ _) hsteps).trans (List.append_assoc _ _ _), hselects.concat ?_, ?_⟩
    · exact fun hmem => NameSupply.fresh_not_mem_used b.names _ (hused hmem)
    · exact fun v hv => List.mem_cons_of_mem _ (List.mem_cons_of_mem _ (hused hv))
  obtain ⟨steps, hsteps, hselects, -⟩ := hrun
  exact ⟨steps, hsteps, hselects⟩

/-- The step that computes groups, if there are any. -/
def groupSteps (input : String) (grouping : Option Grouping) : List Step :=
  grouping.toList.map fun g => .aggregate input g.descriptors "aggFuncs" "aggOp"

/-- The steps of a condition on groups, if there is one. -/
def havingSteps (input : String) (having : Option HavingFilter) : List Step :=
  having.toList.flatMap fun h => [.literal "havingValue" h.storage h.literal,
    .having "havingOp" input h.column h.op "havingValue"]

/-- The steps of a program, operator by operator. -/
structure Program.Shape (p : Program) where
  /-- The type of the key, if it is bounded. -/
  keyType : Option Storage
  /-- The type of the indexed column, if it is bounded. -/
  dataType : Option Storage
  /-- The layout of the records. -/
  stored : Schema
  /-- The steps of the filters. -/
  selections : List Step
  /-- The operator below the groups. -/
  input : String
  /-- The operator below the condition on groups. -/
  groups : String
  key_isSome : p.access.key.min.isSome ∨ p.access.key.max.isSome → keyType.isSome
  data_isSome : p.access.secondary.min.isSome ∨ p.access.secondary.max.isSome → dataType.isSome
  selects : Selects p.access.filters selections
  steps_eq : p.steps = Assembly.boundsSteps p.access keyType dataType
    ++ [Assembly.iteratorStep p.access, .scan stored "scanOp"] ++ selections
    ++ groupSteps input p.grouping ++ havingSteps groups p.having

/-- The steps of a program are those of its operators. -/
theorem Stages.shape {q : Resolved} {p : Program} (st : Stages q p) : Nonempty p.Shape := by
  obtain ⟨a₁, a₂, hscan, hselections, hassembly⟩ := operators_eq_ok st.operators_eq
  obtain ⟨keyType, dataType, -, -, hk, hd, rfl⟩ := Assembly.scan_eq_ok hscan
  obtain ⟨selections, hsteps, hselects⟩ :=
    Assembly.selections_eq_ok hselections (List.Subset.refl fixedNames)
  refine ⟨{
    keyType, dataType, stored := st.stored, selections
    input := a₂.top, groups := ((p.grouping.map a₂.aggregate).getD a₂).top
    key_isSome := hk, data_isSome := hd, selects := hselects, steps_eq := ?_ }⟩
  rw [st.steps_eq, hassembly]
  cases p.grouping <;> cases p.having <;>
    simp [groupSteps, havingSteps, Assembly.aggregate, Assembly.having, Assembly.literal, hsteps]

/-! ### Steps and what is carried beside them -/

/-- A variable is stored exactly if there is a value, and then holds it. -/
def Program.Holds (p : Program) (name : String) (value : Option Int) : Prop :=
  ∀ l, (∃ t, .literal name t l ∈ p.steps) ↔ ∃ v, value = some v ∧ l = .integer v

/-- The steps of a program say what it carries beside them.  The bounds stand in variables, which
the iterator names; the selections are the filters, in order; the groups compute the values of the
program; and the condition on groups is that of the program.  The column of a bound is known exactly
if there is a bound. -/
structure Program.Mirrors (p : Program) : Prop where
  stored : ∀ name t l, .literal name t l ∈ p.steps → storedIn p.steps name = some l
  minKey : p.Holds "minKey" p.access.key.min
  maxKey : p.Holds "maxKey" p.access.key.max
  minData : p.Holds "minData" p.access.secondary.min
  maxData : p.Holds "maxData" p.access.secondary.max
  iterator : p.steps.filterMap Step.bounds? =
    [⟨boundName "minKey" p.access.key.min, boundName "maxKey" p.access.key.max,
      boundName "minData" p.access.secondary.min, boundName "maxData" p.access.secondary.max⟩]
  keyColumn : p.access.keyColumn.isSome = p.access.key.isBounded
  secondaryColumn : p.access.secondaryColumn.isSome = p.access.secondary.isBounded
  filters : (p.steps.filterMap Step.selects?).map
      (fun c => (c.column, c.op, storedIn p.steps c.value))
    = p.access.filters.map fun f => (f.column, f.op, some (.integer f.value))
  groups : p.steps.filterMap Step.descriptors? = (p.grouping.map Grouping.descriptors).toList
  having : (p.steps.filterMap Step.tests?).map
      (fun c => (c.column, c.op, storedIn p.steps c.value))
    = p.having.toList.map fun h => (h.column, h.op, some h.literal)

theorem literal_mem_boundSteps {name name' : String} {storage : Option Storage}
    {value : Option Int} {t : Storage} {l : Literal} :
    .literal name' t l ∈ boundSteps name storage value ↔
      name' = name ∧ storage = some t ∧ ∃ v, value = some v ∧ l = .integer v := by
  rw [mem_boundSteps]
  constructor
  · rintro ⟨t, v, ht, hv, heq⟩
    cases heq
    exact ⟨rfl, ht, v, hv, rfl⟩
  · rintro ⟨rfl, ht, v, hv, rfl⟩
    exact ⟨t, v, ht, hv, rfl⟩

namespace Program.Shape

variable {p : Program} (sh : p.Shape)

include sh

/-- What the steps say of anything but literals. -/
theorem filterMap_steps {α : Type} {v : Step → Option α}
    (hliteral : ∀ name t l, v (.literal name t l) = none) :
    p.steps.filterMap v
      = [Assembly.iteratorStep p.access, .scan sh.stored "scanOp"].filterMap v
        ++ sh.selections.filterMap v ++ (groupSteps sh.input p.grouping).filterMap v
        ++ (havingSteps sh.groups p.having).filterMap v := by
  have hbounds : (Assembly.boundsSteps p.access sh.keyType sh.dataType).filterMap v = [] := by
    rw [List.filterMap_eq_nil_iff]
    intro s hs
    obtain ⟨name, t, l, rfl⟩ := boundsSteps_literal s hs
    exact hliteral name t l
  rw [sh.steps_eq, List.filterMap_append, List.filterMap_append, List.filterMap_append,
    List.filterMap_append, hbounds, List.nil_append]

/-- A variable with a fixed name holds a bound, or what the condition on groups compares with. -/
theorem literal_mem {name : String} {t : Storage} {l : Literal} (hname : name ∈ fixedNames) :
    .literal name t l ∈ p.steps ↔
      .literal name t l ∈ Assembly.boundsSteps p.access sh.keyType sh.dataType ∨
      ∃ h, p.having = some h ∧ name = "havingValue" ∧ t = h.storage ∧ l = h.literal := by
  have hselections : .literal name t l ∉ sh.selections :=
    fun hmem => sh.selects.fixed_not_stored hmem hname
  rw [sh.steps_eq]
  simp [Assembly.iteratorStep, groupSteps, havingSteps, hselections]

/-- The variable of a bound. -/
theorem holds {name : String} {storage : Option Storage} {value : Option Int}
    (hname : name ∈ fixedNames) (hne : name ≠ "havingValue")
    (hsome : value.isSome → storage.isSome)
    (hbounds : ∀ t l, .literal name t l ∈ Assembly.boundsSteps p.access sh.keyType sh.dataType ↔
      .literal name t l ∈ boundSteps name storage value) : p.Holds name value := by
  intro l
  simp only [sh.literal_mem hname, hbounds, literal_mem_boundSteps, hne, false_and, and_false,
    exists_false, or_false, true_and]
  constructor
  · rintro ⟨t, -, hvalue⟩
    exact hvalue
  · rintro ⟨v, rfl, rfl⟩
    obtain ⟨t, ht⟩ := Option.isSome_iff_exists.1 (hsome rfl)
    exact ⟨t, ht, v, rfl, rfl⟩

end Program.Shape

section

variable {q : Resolved} {p : Program}

/-- The steps of a program say what it carries beside them. -/
theorem Stages.mirrors (st : Stages q p) : p.Mirrors := by
  obtain ⟨sh⟩ := st.shape
  have hnodup : (p.steps.filterMap Step.allocated?).Nodup := by
    rw [← st.accounts.allocations_eq]
    exact st.accounts.allocations_nodup
  have hstored : ∀ name t l, .literal name t l ∈ p.steps → storedIn p.steps name = some l :=
    fun name t l => storedIn_eq_some hnodup
  obtain ⟨-, -, fs, -, haccess⟩ := Access.ofQuery_gives st.access_gives
  obtain ⟨hkey, hdata⟩ := Access.isSome_columns haccess
  have hselections : ∀ s ∈ sh.selections, s ∈ p.steps := by
    intro s hs
    rw [sh.steps_eq]
    simp [hs]
  refine ⟨hstored, ?_, ?_, ?_, ?_, ?_, hkey, hdata, ?_, ?_, ?_⟩
  · refine sh.holds (by decide) (by decide) (fun h => sh.key_isSome (.inl h)) fun t l => ?_
    simp [Assembly.boundsSteps, literal_mem_boundSteps]
  · refine sh.holds (by decide) (by decide) (fun h => sh.key_isSome (.inr h)) fun t l => ?_
    simp [Assembly.boundsSteps, literal_mem_boundSteps]
  · refine sh.holds (by decide) (by decide) (fun h => sh.data_isSome (.inl h)) fun t l => ?_
    simp [Assembly.boundsSteps, literal_mem_boundSteps]
  · refine sh.holds (by decide) (by decide) (fun h => sh.data_isSome (.inr h)) fun t l => ?_
    simp [Assembly.boundsSteps, literal_mem_boundSteps]
  · rw [sh.filterMap_steps fun _ _ _ => rfl,
      sh.selects.filterMap_eq_nil (fun _ _ _ => rfl) fun _ _ _ _ _ => rfl]
    cases p.grouping <;> cases p.having <;> rfl
  · have hscan : [Assembly.iteratorStep p.access, .scan sh.stored "scanOp"].filterMap Step.selects?
        = [] := rfl
    have hgroups : (groupSteps sh.input p.grouping).filterMap Step.selects? = [] := by
      cases p.grouping <;> rfl
    have hhaving : (havingSteps sh.groups p.having).filterMap Step.selects? = [] := by
      cases p.having <;> rfl
    rw [sh.filterMap_steps fun _ _ _ => rfl, hscan, hgroups, hhaving, List.nil_append,
      List.append_nil, List.append_nil]
    exact sh.selects.map_selects fun name t l hmem => hstored name t l (hselections _ hmem)
  · rw [sh.filterMap_steps fun _ _ _ => rfl,
      sh.selects.filterMap_eq_nil (fun _ _ _ => rfl) fun _ _ _ _ _ => rfl]
    cases p.grouping <;> cases p.having <;> rfl
  · have htests : p.steps.filterMap Step.tests?
        = p.having.toList.map fun h => ⟨h.column, h.op, "havingValue"⟩ := by
      rw [sh.filterMap_steps fun _ _ _ => rfl,
        sh.selects.filterMap_eq_nil (fun _ _ _ => rfl) fun _ _ _ _ _ => rfl]
      cases p.grouping <;> cases p.having <;> rfl
    rw [htests, List.map_map]
    refine List.map_congr_left fun h hh => ?_
    have hvalue := hstored "havingValue" h.storage h.literal
      ((sh.literal_mem (by decide)).2 (.inr ⟨h, Option.mem_toList.1 hh, rfl, rfl, rfl⟩))
    simp [hvalue]

end

end Plan

/-! ### Explanations -/

namespace Plan

/-- A program without what it carries beside its steps. -/
def Program.bare (p : Program) : Program :=
  { p with access := {}, grouping := none, having := none }

/-- The test that a routine makes, if it tests whether two records belong to one group. -/
def Routine.test? : Routine → Option GroupTest
  | .groupTest test => some test
  | _ => none

/-- The integer that a variable holds, if there is one. -/
def heldInteger (steps : List Step) (name : Option String) : Option Int :=
  (name.bind (storedIn steps)).bind Literal.integer?

/-- The bounds on the key and on the indexed column, as the variables of the iterator hold them. -/
def heldBounds (steps : List Step) : Bound × Bound :=
  match (steps.filterMap Step.bounds?).head? with
  | some b => (⟨heldInteger steps b.minKey, heldInteger steps b.maxKey⟩,
      ⟨heldInteger steps b.minData, heldInteger steps b.maxData⟩)
  | none => ({}, {})

/-- The values of a group that steps compute. -/
def heldValues (steps : List Step) : List Descriptor :=
  (steps.filterMap Step.descriptors?).flatten

end Plan

open Plan

/-- What a variable holds, as a text. -/
def heldText (steps : List Step) (name : String) : String :=
  ((storedIn steps name).map Literal.shown).getD ""

/-- The name of a value of a group. -/
def heldName (steps : List Step) (n : Nat) : String :=
  match (heldValues steps)[n]? with
  | some x => x.output.name
  | none => "col" ++ toString n

/-- The summary of a program, written from its steps and routines.  The steps do not tell the
numbers of the columns with bounds. -/
def outline (p : Program) (key data : Option Nat) : Summary where
  table := p.table
  keyBounds := key.map fun n => boundText (storedName p n) (heldBounds p.steps).1
  dataBounds := data.map fun n => boundText (storedName p n) (heldBounds p.steps).2
  filters := (p.steps.filterMap Step.selects?).map fun c =>
    comparisonText (storedName p c.column) c.op (heldText p.steps c.value)
  group := (p.routines.list.findSome? Routine.test?).map groupText
  aggregates := (heldValues p.steps).map (valueText p)
  having := (p.steps.filterMap Step.tests?).head?.map fun c =>
    comparisonText (heldName p.steps c.column) c.op (heldText p.steps c.value)
  output := p.output.map fun c => c.name ++ " " ++ c.type.name
  routines := p.routines.names
  root := p.root

namespace Plan

section

variable {q : Resolved} {p : Program}

theorem Program.Mirrors.heldInteger_eq (h : p.Mirrors) {name : String} {value : Option Int}
    (hholds : p.Holds name value) : heldInteger p.steps (boundName name value) = value := by
  cases value with
  | none => rfl
  | some v =>
      obtain ⟨t, hmem⟩ := (hholds (.integer v)).2 ⟨v, rfl, rfl⟩
      show (storedIn p.steps name).bind Literal.integer? = some v
      rw [h.stored name t _ hmem]
      rfl

/-- The variables of the iterator hold the bounds of the program. -/
theorem Program.Mirrors.heldBounds_eq (h : p.Mirrors) :
    heldBounds p.steps = (p.access.key, p.access.secondary) := by
  rw [heldBounds, h.iterator]
  dsimp only [List.head?_cons]
  rw [h.heldInteger_eq h.minKey, h.heldInteger_eq h.maxKey, h.heldInteger_eq h.minData,
    h.heldInteger_eq h.maxData]

theorem Program.Mirrors.heldValues_eq (h : p.Mirrors) :
    heldValues p.steps = (p.grouping.map Grouping.descriptors).getD [] := by
  rw [heldValues, h.groups]
  cases p.grouping with
  | none => rfl
  | some g => exact List.append_nil _

/-- The test for groups is that of the routine. -/
theorem Stages.findSome?_test (st : Stages q p) :
    p.routines.list.findSome? Routine.test? = p.grouping.map Grouping.test := by
  cases htest : p.routines.list.findSome? Routine.test? with
  | none =>
      cases hg : p.grouping with
      | none => rfl
      | some g =>
          have hmem := st.groupTest_mem.2 ⟨g, hg, rfl⟩
          cases List.findSome?_eq_none_iff.1 htest _ hmem
  | some test =>
      obtain ⟨r, hr, hrtest⟩ := List.exists_of_findSome?_eq_some htest
      cases r with
      | groupTest test' =>
          cases hrtest
          obtain ⟨g, hg, rfl⟩ := st.groupTest_mem.1 hr
          rw [hg]
          rfl
      | _ => cases hrtest

/-- The condition on groups is that of the steps, and its value has the name that they give it. -/
theorem Stages.having_eq_tests (st : Stages q p) :
    (summary p).having = (p.steps.filterMap Step.tests?).head?.map fun c =>
      comparisonText (heldName p.steps c.column) c.op (heldText p.steps c.value) := by
  have h := st.mirrors
  have htests := h.having
  rw [summary]
  cases hh : p.having with
  | none =>
      rw [hh] at htests
      rw [List.map_eq_nil_iff.1 htests]
      rfl
  | some hf =>
      cases hg : p.grouping with
      | none =>
          rw [st.having_none hg] at hh
          cases hh
      | some g =>
          obtain ⟨gs⟩ := stages_of_grouping (st.grouping_gathers_some hg).1
          rw [hh] at htests
          obtain ⟨c, hc, htest⟩ := List.map_eq_singleton_iff.1 htests
          simp only [Prod.mk.injEq] at htest
          obtain ⟨hcolumn, hop, hvalue⟩ := htest
          have htext : heldText p.steps c.value = hf.literal.shown := by
            rw [heldText, hvalue]
            rfl
          have hhaving : havingText hf g
              = comparisonText (heldName p.steps hf.column) hf.op hf.literal.shown := by
            rw [havingText, heldName, h.heldValues_eq, hg, gs.column?_eq, Option.map_some,
              Option.getD_some]
            cases g.descriptors[hf.column]? <;> rfl
          rw [hc]
          show some (havingText hf g) = some (comparisonText (heldName p.steps c.column) c.op
            (heldText p.steps c.value))
          rw [hhaving, hcolumn, hop, htext]

/-- The summary of a program can be written from its steps. -/
theorem Stages.summary_eq (st : Stages q p) :
    summary p = outline p.bare p.access.keyColumn p.access.secondaryColumn := by
  have h := st.mirrors
  unfold summary outline
  rw [Summary.mk.injEq]
  refine ⟨rfl, ?_, ?_, ?_, ?_, ?_, st.having_eq_tests, rfl, rfl, rfl⟩
  · show _ = p.access.keyColumn.map fun n => boundText (storedName p n) (heldBounds p.steps).1
    rw [h.heldBounds_eq]
  · show _ = p.access.secondaryColumn.map fun n =>
      boundText (storedName p n) (heldBounds p.steps).2
    rw [h.heldBounds_eq]
  · -- a filter and a selection with the same parts have the same text
    have hfilters := congrArg (List.map fun (c : Nat × Comparator × Option Literal) =>
      comparisonText (storedName p c.1) c.2.1 ((c.2.2.map Literal.shown).getD "")) h.filters
    rw [List.map_map, List.map_map] at hfilters
    exact hfilters.symm
  · show _ = (p.routines.list.findSome? Routine.test?).map groupText
    rw [st.findSome?_test, Option.map_map]
    rfl
  · show _ = (heldValues p.steps).map (valueText p)
    rw [h.heldValues_eq]
    cases p.grouping <;> rfl

/-- **The explanation of a program describes its steps.** -/
theorem explained (hp : (ofQuery q).run.value = .ok p) :
    p.Mirrors ∧ Listing.ofProgram p.bare = Listing.ofProgram p ∧
      Explanation.ofProgram p
        = .accepted (outline p.bare p.access.keyColumn p.access.secondaryColumn) := by
  obtain ⟨st⟩ := stages_of_ofQuery hp
  exact ⟨st.mirrors, rfl, congrArg _ st.summary_eq⟩

theorem explained_lateTripsByDistance :
    ∃ p, (ofQuery lateTripsByDistance).run.value = .ok p ∧ p.access.key = ⟨some 6, none⟩ ∧
      p.access.filters = [⟨1, .ne, 3⟩, ⟨1, .ne, 4⟩] ∧ p.having.isSome = true ∧
      p.Mirrors ∧ Listing.ofProgram p.bare = Listing.ofProgram p ∧
      Explanation.ofProgram p
        = .accepted (outline p.bare p.access.keyColumn p.access.secondaryColumn) := by
  obtain ⟨p, hp, hkey, hfilters, hhaving⟩ : ∃ p,
      (ofQuery lateTripsByDistance).run.value = .ok p ∧ p.access.key = ⟨some 6, none⟩ ∧
        p.access.filters = [⟨1, .ne, 3⟩, ⟨1, .ne, 4⟩] ∧ p.having.isSome = true := by
    rw [ofQuery, build, access_lateTripsByDistance, Access.ofFilters,
      Access.candidates_of_pairwise (by decide)]
    exact ⟨_, rfl, rfl, by decide +kernel, rfl⟩
  exact ⟨p, hp, hkey, hfilters, hhaving, explained hp⟩

end

end Plan

end SqlPipeline
