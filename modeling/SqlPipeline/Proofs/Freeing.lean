/-
**A generated program frees what it allocates, once.**

The lists of a program account for its variables, and the statements of its text go by the lists.
What is left is that the names in the text stay on their lines, which holds for all names that the
planner makes, and for those of columns if they are identifiers.

Main definitions:

* `Plan.Assembly.Lined` — the names of the steps so far stay on their lines.

Main results:

* `Plan.Stages.lined` — the names of a program stay on their lines;
* `Plan.frees_of_ofQuery` — **a generated program frees what it allocates, once**.
-/

import SqlPipeline.Proofs.Allocations
import SqlPipeline.Proofs.MemoryStatements
import SqlPipeline.Proofs.ScanOutput
import SqlPipeline.Proofs.Wiring

set_option autoImplicit false

namespace SqlPipeline

open Journal Layout Query Outcome

/-! ### Names of a program -/

namespace Plan

open Listing

theorem oneLine_fresh {base : String} (h : OneLine base) (used : List String) :
    OneLine (Text.fresh used base) := by
  rcases Text.madeFrom_fresh used base with hf | ⟨n, hf⟩
  · rw [hf]
    exact h
  · rw [hf]
    exact (h.append (oneLine_lit rfl)).append (oneLine_nat n)

theorem ordinary_fresh {base : String} (h : Ordinary base) (used : List String) :
    Ordinary (Text.fresh used base) := by
  rcases Text.madeFrom_fresh used base with hf | ⟨n, hf⟩
  · rw [hf]
    exact h
  · rw [hf]
    exact (h.append (oneLine_lit rfl)).append (oneLine_nat n)

/-- All names of the steps so far stay on their lines. -/
structure Assembly.Lined (a : Assembly) : Prop where
  steps : ∀ st ∈ a.steps, st.Lined
  top : Ordinary a.top

namespace Assembly

variable {a a' : Assembly}

theorem lined_boundSteps {name : String} (hline : OneLine name) {c : Char} (hc : c ≠ 'a')
    (hhead : name.toList.head? = some c) (storage : Option Storage) (value : Option Int) :
    ∀ st ∈ boundSteps name storage value, st.Lined := by
  intro st hst
  obtain ⟨t, v, -, -, rfl⟩ := mem_boundSteps.1 hst
  exact ⟨hline, c, hc, hhead⟩

theorem oneLine_boundName {name : String} (hline : OneLine name) (value : Option Int) :
    ∀ v ∈ boundName name value, OneLine v := by
  intro v hv
  obtain ⟨_, -, rfl⟩ := Option.map_eq_some_iff.1 hv
  exact hline

theorem lined_scan {table : String} {stored : Schema} {access : Access}
    (h : ({ table, stored } : Assembly).scan access = .ok a) : a.Lined := by
  obtain ⟨keyType, dataType, -, -, -, -, rfl⟩ := scan_eq_ok h
  have hiter : (iteratorStep access).Lined := by
    simp only [iteratorStep, Step.Lined, List.forall_mem_cons]
    exact ⟨oneLine_boundName (oneLine_lit rfl) _, oneLine_boundName (oneLine_lit rfl) _,
      oneLine_boundName (oneLine_lit rfl) _, oneLine_boundName (oneLine_lit rfl) _,
      List.forall_mem_nil _⟩
  refine ⟨?_, ordinary_lit rfl rfl⟩
  simp only [List.nil_append, boundsSteps, List.forall_mem_append, List.forall_mem_cons]
  refine ⟨⟨⟨⟨?_, ?_⟩, ?_⟩, ?_⟩, hiter, oneLine_lit rfl, List.forall_mem_nil _⟩
  · exact lined_boundSteps (oneLine_lit rfl) (c := 'm') (by decide) (by decide) _ _
  · exact lined_boundSteps (oneLine_lit rfl) (c := 'm') (by decide) (by decide) _ _
  · exact lined_boundSteps (oneLine_lit rfl) (c := 'm') (by decide) (by decide) _ _
  · exact lined_boundSteps (oneLine_lit rfl) (c := 'm') (by decide) (by decide) _ _

theorem Lined.selection (ha : a.Lined) {f : Filter} (h : a.selection f = .ok a')
    (hstored : ∀ c ∈ a.stored.columns, OneLine c.name) : a'.Lined := by
  obtain ⟨c, hc, rfl⟩ := selection_eq_ok h
  have hsuffix : OneLine (f.op.suffix ++ c.name) :=
    (oneLine_suffix f.op).append (hstored c (List.mem_of_getElem? hc))
  set value := a.names.fresh ("selVal" ++ (f.op.suffix ++ c.name))
  set name := value.2.fresh ("select" ++ (f.op.suffix ++ c.name))
  have hvalue : OneLine value.1 := oneLine_fresh ((oneLine_lit rfl).append hsuffix) _
  have hname : Ordinary name.1 := ordinary_fresh ((ordinary_lit rfl rfl).append hsuffix) _
  have hhead : value.1.toList.head? = some 's' := by
    obtain ⟨rest, hrest⟩ := (Text.madeFrom_fresh a.names.used
      ("selVal" ++ (f.op.suffix ++ c.name))).isPrefix
    have hv : value.1.toList = _ := hrest.symm
    rw [hv]
    simp
  refine ⟨?_, hname⟩
  simp only [List.forall_mem_append, List.forall_mem_cons]
  exact ⟨ha.steps, ⟨hvalue, 's', by decide, hhead⟩, ⟨hname.oneLine, ha.top.oneLine, hvalue⟩, nofun⟩

theorem Lined.aggregate (ha : a.Lined) {g : Grouping} (hg : ∀ x ∈ g.descriptors, x.Lined) :
    (a.aggregate g).Lined := by
  refine ⟨List.forall_mem_append.2 ⟨ha.steps, List.forall_mem_singleton.2 ?_⟩,
    ordinary_lit rfl rfl⟩
  exact ⟨ha.top.oneLine, oneLine_lit rfl, rfl, hg⟩

theorem Lined.having (ha : a.Lined) (hf : HavingFilter) : (a.having hf).Lined := by
  have hvalue : OneLine "havingValue" := oneLine_lit rfl
  refine ⟨?_, ordinary_lit rfl rfl⟩
  simp only [Assembly.having, literal, List.forall_mem_append, List.forall_mem_singleton]
  exact ⟨⟨ha.steps, hvalue, 'h', by decide, by decide⟩, oneLine_lit rfl, ha.top.oneLine, hvalue⟩

end Assembly

theorem Describes.lined {stored : Schema} {key : Option GroupKey} {index : Nat} {kind : Kind}
    {x : Descriptor} (h : Describes stored key index kind x) : x.Lined := by
  obtain ⟨stem, hstem, hholder⟩ := h.holder_eq
  refine ⟨?_, fun f hf => ?_⟩
  · have hordinary : Ordinary stem := by
      simp only [holderStems, List.mem_cons, List.not_mem_nil, or_false] at hstem
      rcases hstem with rfl | rfl | rfl | rfl | rfl | rfl <;> exact ordinary_lit rfl rfl
    rw [hholder]
    exact hordinary.append (oneLine_nat index)
  · cases h with
    | aggregate => cases hf
    | groupValue =>
        cases hf
        exact oneLine_computeName index

theorem Step.Lined.oneLine_allocated {st : Step} (h : st.Lined) {v : String}
    (hv : st.allocated? = some v) : OneLine v := by
  cases st with
  | literal =>
      cases hv
      exact h.1
  | iterator | aggregate =>
      cases hv
      exact oneLine_lit rfl
  | _ => cases hv

theorem Step.Lined.oneLine_holders {st : Step} (h : st.Lined) : ∀ v ∈ st.holders, OneLine v := by
  cases st with
  | aggregate =>
      obtain ⟨-, -, -, hds⟩ := h
      exact List.forall_mem_map.2 fun d hd => (hds d hd).1.oneLine
  | _ => exact nofun

section

variable {q : Resolved} {p : Program}

theorem Stages.lined (st : Stages q p)
    (hcolumns : ∀ c ∈ st.table.columns, Text.isIdentifier c.name = true) :
    (∀ s ∈ p.steps, s.Lined) ∧ Ordinary p.root := by
  have hstored : ∀ c ∈ st.stored.columns, OneLine c.name := by
    intro c hc
    have hmem : c.name ∈ st.table.columns.map Catalog.Column.name := by
      rw [← map_name_ofTable st.stored_eq]
      exact List.mem_map_of_mem hc
    obtain ⟨c', hc', hname⟩ := List.mem_map.1 hmem
    rw [← hname]
    exact oneLine_of_isIdentifier (hcolumns c' hc')
  have hdescriptors : ∀ g ∈ p.grouping, ∀ x ∈ g.descriptors, x.Lined := by
    intro g hg x hx
    obtain ⟨k, hk⟩ := List.mem_iff_getElem?.1 hx
    obtain ⟨key, kind, hdesc⟩ := st.describes hg hk
    exact hdesc.lined
  -- the names of the stored columns come into the names of filters
  have hall : st.assembly.Lined ∧ st.assembly.stored = st.stored := by
    refine operators_keep (I := fun b => b.Lined ∧ b.stored = st.stored) st.operators_eq
      (fun b hb => ⟨Assembly.lined_scan hb, ?_⟩) (fun b b' f _ hf hb => ⟨?_, ?_⟩)
      (fun b g hg hb => ⟨hb.1.aggregate (hdescriptors g hg), hb.2⟩)
      fun b hf _ hb => ⟨hb.1.having hf, hb.2⟩
    · obtain ⟨keyType, dataType, -, -, -, -, rfl⟩ := Assembly.scan_eq_ok hb
      rfl
    · refine hb.1.selection hf ?_
      rwa [hb.2]
    · rw [(Assembly.selection_stored hf).1, hb.2]
  rw [st.steps_eq, st.root_eq]
  exact ⟨hall.1.steps, hall.1.top⟩

/-- A printed column has the name of an output column of the query. -/
theorem Stages.name_mem (st : Stages q p) :
    ∀ c ∈ p.output, c.name ∈ q.projections.map Projection.name := by
  intro c hc
  cases hg : p.grouping with
  | none =>
      rw [← st.names_eq hg]
      exact List.mem_map_of_mem hc
  | some g =>
      obtain ⟨i, hi, rfl⟩ := List.getElem_of_mem hc
      obtain ⟨hgather, houtput⟩ := st.grouping_gathers_some hg
      obtain ⟨gs⟩ := stages_of_grouping hgather
      have hall := mapM_eq_ok.1 houtput
      have hcol := hall.get (by rw [hall.length_eq]; exact hi) hi
      rw [List.get_eq_getElem, List.get_eq_getElem, List.getElem_zip] at hcol
      dsimp only at hcol
      split at hcol
      · rw [← Except.ok.inj hcol, ← map_name_ofProjections st.output_eq,
          ← map_name_retyped gs.final.schema st.output gs.final.columns, ← gs.out_eq]
        exact List.mem_map_of_mem (List.getElem_mem _)
      · cases hcol

/-- There is at most one step with values of a group, so what all steps copy and free are these. -/
theorem flatMap_stepMemory {steps : List Step} {transient : List String}
    (hcount : steps.countP Step.isAggregate ≤ 1)
    (htransient : transient = steps.flatMap Step.holders) :
    steps.flatMap (stepMemory transient) = copies transient ++ frees transient := by
  -- any other step has neither
  have hother : ∀ steps : List Step, steps.countP Step.isAggregate = 0 →
      steps.flatMap (stepMemory transient) = [] ∧ steps.flatMap Step.holders = [] := by
    intro steps hzero
    rw [List.countP_eq_zero] at hzero
    refine ⟨List.flatMap_eq_nil_iff.2 fun st hst => ?_, List.flatMap_eq_nil_iff.2 fun st hst => ?_⟩
    · cases st with
      | aggregate => exact absurd rfl (hzero _ hst)
      | _ => rfl
    · cases st with
      | aggregate => exact absurd rfl (hzero _ hst)
      | _ => rfl
  rcases Nat.eq_zero_or_pos (steps.countP Step.isAggregate) with hzero | hpos
  · obtain ⟨hmemory, hholders⟩ := hother steps hzero
    rw [hmemory, htransient, hholders]
    rfl
  · obtain ⟨st, hst, hagg⟩ := List.countP_pos_iff.1 hpos
    obtain ⟨before, after, rfl⟩ := List.append_of_mem hst
    rw [List.countP_append, List.countP_cons_of_pos hagg] at hcount
    obtain ⟨hmemory, hholders⟩ := hother before (by omega)
    obtain ⟨hmemory', hholders'⟩ := hother after (by omega)
    rw [List.flatMap_append, List.flatMap_cons, hholders, hholders', List.nil_append,
      List.append_nil] at htransient
    rw [List.flatMap_append, List.flatMap_cons, hmemory, hmemory', List.nil_append,
      List.append_nil]
    cases st with
    | aggregate input ds packed name =>
        rw [htransient]
        rfl
    | _ => cases hagg

/-- The statements of the text of a program free its variables, if the names of columns are
identifiers. -/
theorem Stages.freesAll (st : Stages q p) {t : String} (ht : Listing.ofProgram p = .ok t)
    (hcolumns : ∀ c ∈ st.table.columns, Text.isIdentifier c.name = true)
    (hprojections : ∀ x ∈ q.projections, Text.isIdentifier x.name = true) :
    Listing.FreesAll p t := by
  obtain ⟨hsteps, hroot⟩ := st.lined hcolumns
  have haccounts := st.accounts
  have hallocations : ∀ v ∈ p.allocations, OneLine v := by
    intro v hv
    rw [haccounts.allocations_eq, List.mem_filterMap] at hv
    obtain ⟨s, hs, hv⟩ := hv
    exact (hsteps s hs).oneLine_allocated hv
  have htransient : ∀ v ∈ p.transient, OneLine v := by
    intro v hv
    rw [haccounts.transient_eq, List.mem_flatMap] at hv
    obtain ⟨s, hs, hv⟩ := hv
    exact (hsteps s hs).oneLine_holders v hv
  have hnames : ∀ c ∈ p.output, OneLine c.name := by
    intro c hc
    obtain ⟨x, hx, hname⟩ := List.mem_map.1 (st.name_mem c hc)
    rw [← hname]
    exact oneLine_of_isIdentifier (hprojections x hx)
  have hcount : p.steps.countP Step.isAggregate ≤ 1 := by
    rw [st.linear.aggregates]
    cases p.grouping <;> simp
  obtain ⟨create, hcreate, hlines⟩ := statements_of_ofProgram ht
  obtain ⟨hroutines, hroutineMemory⟩ := (manages_routinesLines st.regular).sound
  obtain ⟨hcreates, hcreateMemory⟩ :=
    (manages_construction hcreate hsteps hroot hallocations htransient).sound
  obtain ⟨hexec, hexecMemory⟩ := (manages_driver hnames).sound
  rw [flatMap_stepMemory hcount haccounts.transient_eq] at hcreateMemory
  have hblank : [""].filter managesMemory = [] :=
    (Manages.ordinary (l := .blank) trivial .nil).sound.2
  refine ⟨(routinesLines p.routines).map Line.statement, create.map Line.statement ++ [""],
    (driver p).map Line.statement ++ [""], ?_, hroutineMemory, ?_, ?_, ?_, ?_⟩
  · rw [hlines hroutines hcreates hexec]
    simp
  · obtain ⟨lss, -, rfl⟩ := construction_eq_ok hcreate
    rw [List.head?_append, head?_statements_block (ordinary_lit rfl rfl), Option.some_or]
    exact congrArg some (append_lit rfl)
  · rw [List.filter_append, hcreateMemory, hblank, List.append_nil]
  · rw [List.head?_append, driver, head?_statements_block (ordinary_lit rfl rfl), Option.some_or]
    exact congrArg some (append_lit rfl)
  · rw [List.filter_append, hexecMemory, hblank, List.append_nil]

/-- **A generated program frees what it allocates, once.** -/
theorem frees_of_ofQuery (hp : (ofQuery q).run.value = .ok p) {t : String}
    (ht : Listing.ofProgram p = .ok t) :
    p.Accounts ∧
      ((∀ table ∈ q.tables, ∀ c ∈ table.columns, Text.isIdentifier c.name = true) →
        (∀ x ∈ q.projections, Text.isIdentifier x.name = true) → Listing.FreesAll p t) := by
  obtain ⟨st⟩ := stages_of_ofQuery hp
  refine ⟨st.accounts, fun hcolumns hprojections => ?_⟩
  exact st.freesAll ht (hcolumns st.table (by simp [st.tables_eq])) hprojections

theorem frees_lateTripsByDistance :
    ∃ p t, (ofQuery lateTripsByDistance).run.value = .ok p ∧ Listing.ofProgram p = .ok t ∧
      p.allocations.length = 6 ∧ p.transient.length = 4 ∧ p.Accounts ∧
      Listing.FreesAll p t := by
  obtain ⟨p, t, hp, ht, hlength, hlength'⟩ : ∃ p t,
      (ofQuery lateTripsByDistance).run.value = .ok p ∧ Listing.ofProgram p = .ok t ∧
        p.allocations.length = 6 ∧ p.transient.length = 4 := by
    rw [ofQuery, build, access_lateTripsByDistance, Access.ofFilters,
      Access.candidates_of_pairwise (by decide)]
    exact ⟨_, _, rfl, rfl, rfl, rfl⟩
  obtain ⟨haccounts, hfrees⟩ := frees_of_ofQuery hp ht
  exact ⟨p, t, hp, ht, hlength, hlength', haccounts, hfrees (by decide) (by decide)⟩

end

end Plan

end SqlPipeline
