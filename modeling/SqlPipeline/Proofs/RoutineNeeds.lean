/-
**The routines of a program are those that it needs.**

Routines are collected by name: what is registered under a name that is taken is dropped.  Here it
is shown that nothing is ever lost in this way.  What a program needs is read off the finished
program: the functions of its printed formulas or, with groups, those of the test for groups, the
test itself, and a routine for each value of a group that has one.  Registering these, one after the
other, gives the routines of the program, and no two different ones compete for a name.

Main definitions:

* `Plan.Program.needs` — the routines that a program needs, in the order in which it does;
* `Plan.Program.functions`, `Query.Resolved.functions` — the functions that a program computes, and
  those that its query asks for;
* `Plan.Routine.functions` — the functions that the body of a routine computes;
* `Plan.Routine.Regular` — a routine as the planner makes them.

Main results:

* `Plan.Stages.routines_eq` — registering what a program needs gives its routines;
* `Plan.Stages.eq_of_name_eq` — no two different routines that a program needs share a name;
* `Plan.Stages.mem_routines` — **the routines of a program are those that it needs**;
* `Plan.Stages.math_before` — a routine stands after the functions of its body.
-/

import SqlPipeline.Proofs.ScanOutput

set_option autoImplicit false

namespace SqlPipeline

open Journal Layout Query Outcome

/-! ### What is needed -/

/-- The functions that a query asks for: in what records are grouped by or, without groups, in its
output columns. -/
def Query.Resolved.functions (q : Resolved) : List Plan.MathFunction :=
  if q.isGrouped then q.groupBy.flatMap Scalar.functions
  else q.projections.flatMap fun x =>
    match x.kind with
    | .arithmetic e => e.functions
    | _ => []

namespace Plan

/-- The functions that the test for groups computes. -/
def GroupTest.functions : GroupTest → List MathFunction
  | .always => []
  | .expression e _ _ => e.functions

/-- The routine of a value of a group, if it has one: it computes what the test for groups
compares. -/
def GroupTest.valueRoutine? (test : GroupTest) (x : Descriptor) : Option Routine :=
  match x.compute, test with
  | some name, .expression e source offset => some (.groupValue name e source offset x.output.type)
  | _, _ => none

/-- The routines that groups need. -/
def Grouping.needs (g : Grouping) : List Routine :=
  g.test.functions.map .math ++ .groupTest g.test :: g.descriptors.filterMap g.test.valueRoutine?

/-- The functions of a printed column. -/
def OutputColumn.functions (c : OutputColumn) : List MathFunction :=
  match c.formula with
  | some f => f.functions
  | none => []

/-- The routines that a program needs, in the order in which it does. -/
def Program.needs (p : Program) : List Routine :=
  match p.grouping with
  | some g => g.needs
  | none => (p.output.flatMap OutputColumn.functions).map .math

/-- The functions that a program computes: those of its printed columns or, with groups, those of
the test for groups. -/
def Program.functions (p : Program) : List MathFunction :=
  match p.grouping with
  | some g => g.test.functions
  | none => p.output.flatMap OutputColumn.functions

/-- The functions that the body of a routine computes. -/
def Routine.functions : Routine → List MathFunction
  | .math _ => []
  | .groupTest test => test.functions
  | .groupValue _ e _ _ _ => e.functions

/-- A routine as the planner makes them: one that computes a value of a group has the name that goes
with the number of the value. -/
def Routine.Regular : Routine → Prop
  | .math _ => True
  | .groupTest _ => True
  | .groupValue name _ _ _ _ => ∃ index, name = computeName index

theorem GroupTest.valueRoutine?_eq_some {test : GroupTest} {x : Descriptor} {r : Routine} :
    test.valueRoutine? x = some r ↔ ∃ name e source offset, x.compute = some name ∧
      test = .expression e source offset ∧ r = .groupValue name e source offset x.output.type := by
  unfold valueRoutine?
  cases x.compute with
  | none => simp
  | some name =>
      cases test with
      | always => simp
      | expression e source offset => simp [eq_comm]

/-! ### What is registered -/

section

variable {q : Resolved} {stored output out schema : Schema} {key : Option GroupKey}
  {test : GroupTest} {g : Grouping} {s s' : Routines}

/-- What records are grouped by needs the functions of the test for groups. -/
theorem groupKey?_registers (h : Gathers (groupKey? q) s key s')
    (htest : groupTest stored key = .ok test) :
    s' = s.registerAll (test.functions.map .math) ∧
      test.functions = (q.groupBy.head?.map Scalar.functions).getD [] := by
  rcases groupKey?_gathers h with ⟨hnil, rfl, rfl⟩ | ⟨e, es, f, n, hcons, hf, -, rfl⟩
  · cases htest
    rw [hnil]
    exact ⟨rfl, rfl⟩
  · rw [groupTest, bind_eq_ok] at htest
    obtain ⟨c, -, hpure⟩ := htest
    cases hpure
    obtain ⟨hs, -, hfunctions, -⟩ := formulaOf_registers hf
    rw [hcons]
    exact ⟨hs, hfunctions⟩

theorem groupDescriptor_registers {e : Scalar} {name : String} {index : Nat} {x : Descriptor}
    (h : Gathers (groupDescriptor stored key e name index schema) s x s')
    (htest : groupTest stored key = .ok test) :
    s' = s.registerAll (test.valueRoutine? x).toList := by
  unfold groupDescriptor at h
  split at h
  · exact absurd h not_gathers_throw
  · next k hk =>
      obtain ⟨rfl, -⟩ := Option.filter_eq_some_iff.1 hk
      simp only [lastColumn_eq, gathers_bind, gathers_lift, gathers_need, gathers_pure] at h
      obtain ⟨source, _, ⟨hsource, rfl⟩, type, _, ⟨htype, rfl⟩, _, _, rfl, _, _, ⟨⟨⟩, rfl⟩, rfl,
        rfl⟩ := h
      -- the test was made from the same column
      rw [groupTest, hsource] at htest
      cases htest
      rfl

/-- A value of a group needs its routine, and nothing else. -/
theorem descriptorOf_registers {kind : Kind} {name : String} {index : Nat} {x : Descriptor}
    (h : Gathers (descriptorOf stored key kind name index schema) s x s')
    (htest : groupTest stored key = .ok test) :
    s' = s.registerAll (test.valueRoutine? x).toList := by
  cases kind with
  | aggregate call =>
      unfold descriptorOf aggregateDescriptor at h
      simp only [gathers_lift, bind_eq_ok, pure_eq_ok] at h
      obtain ⟨⟨sourceType, -, type, -, output, -, rfl⟩, rfl⟩ := h
      rfl
  | column n => exact groupDescriptor_registers h htest
  | arithmetic e => exact groupDescriptor_registers h htest
  | aliasOf target => exact absurd h not_gathers_throw

theorem registerAll_push {base : Routines} {d : GroupDraft} (kind : Kind) {x : Descriptor}
    (hs : s = base.registerAll (d.descriptors.filterMap test.valueRoutine?))
    (hs' : s' = s.registerAll (test.valueRoutine? x).toList) :
    s' = base.registerAll ((d.push kind x).descriptors.filterMap test.valueRoutine?) := by
  rw [hs', hs, GroupDraft.push, List.filterMap_append, Routines.registerAll_append]
  rfl

/-- The values of the output columns need their routines, in order. -/
theorem GroupDraft.foldlM_registers {ps : List Projection} {d : GroupDraft}
    (h : Gathers (ps.foldlM (GroupDraft.add stored key) {}) s d s')
    (htest : groupTest stored key = .ok test) :
    s' = s.registerAll (d.descriptors.filterMap test.valueRoutine?) := by
  refine gathers_foldlM (I := fun _ d t =>
    t = s.registerAll (d.descriptors.filterMap test.valueRoutine?)) h rfl ?_
  intro done p d t d' t' ht hadd
  rcases add_gathers hadd with ⟨target, index, -, -, rfl, rfl⟩ | ⟨-, x, hx, rfl⟩
  · exact ht
  · exact registerAll_push p.kind ht (descriptorOf_registers hx htest)

/-- Planning groups registers what the groups need. -/
theorem GroupStages.routines_eq (st : GroupStages q stored output s g out s') :
    s' = s.registerAll g.needs := by
  have hkeyed := (groupKey?_registers st.key_gathers st.test_eq).1
  have hdraft := GroupDraft.foldlM_registers st.draft_gathers st.test_eq
  have hfinal : s' = (st.keyed.register (.groupTest g.test)).registerAll
      (st.final.descriptors.filterMap g.test.valueRoutine?) := by
    rcases st.final_cases with ⟨hfinal, hs⟩ | ⟨t, kind, x, -, -, -, hfinal, hx⟩
    · rw [hfinal]
      exact hs.trans hdraft
    · rw [hfinal]
      exact registerAll_push kind hdraft (descriptorOf_registers hx st.test_eq)
  rw [hfinal, hkeyed, Grouping.needs, Routines.registerAll_append, st.descriptors_eq]
  rfl

theorem scanColumn_registers {ps : List Projection} {x : Projection × Nat} {c : OutputColumn}
    (h : Gathers (scanColumn ps stored output x) s c s') :
    s' = s.registerAll (c.functions.map .math) := by
  obtain ⟨type, -, ⟨n, source, -, -, rfl, rfl⟩ | ⟨e, f, source, -, hf, -, rfl⟩⟩ :=
    scanColumn_gathers h
  · rfl
  · exact (formulaOf_registers hf).1

theorem mapM_registers {α β : Type} {f : α → Collecting β} (needs : β → List Routine)
    (hf : ∀ x s y s', Gathers (f x) s y s' → s' = s.registerAll (needs y)) {xs : List α}
    {ys : List β} {s s' : Routines} (h : Gathers (xs.mapM f) s ys s') :
    s' = s.registerAll (ys.flatMap needs) := by
  induction xs generalizing ys s with
  | nil =>
      rw [List.mapM_nil, gathers_pure] at h
      obtain ⟨rfl, rfl⟩ := h
      rfl
  | cons x xs ih =>
      simp only [List.mapM_cons, gathers_bind, gathers_pure] at h
      obtain ⟨y, t, hy, ys', _, hys, rfl, rfl⟩ := h
      rw [List.flatMap_cons, Routines.registerAll_append, ← hf x s y t hy]
      exact ih hys

end

/-! ### Programs -/

section

variable {q : Resolved} {p : Program}

/-- Registering what a program needs gives its routines. -/
theorem Stages.routines_eq (st : Stages q p) : p.routines = Routines.empty.registerAll p.needs := by
  unfold Program.needs
  cases hg : p.grouping with
  | some g =>
      obtain ⟨gs⟩ := stages_of_grouping (st.grouping_gathers_some hg).1
      exact gs.routines_eq
  | none =>
      have h := mapM_registers (fun c => c.functions.map .math)
        (fun x s c s' hc => scanColumn_registers hc) (st.scanOutput_gathers hg).2
      rw [h, List.map_flatMap]

/-- Registering what a program needs keeps the names apart. -/
theorem Stages.nodup_names (st : Stages q p) : p.routines.names.Nodup := by
  rw [st.routines_eq]
  exact Routines.nodup_registerAll (s := .empty) List.nodup_nil _

theorem routineName_inj {f g : MathFunction} (h : f.routineName = g.routineName) : f = g := by
  cases f <;> cases g <;> first | rfl | exact absurd h (by decide)

/-- The routine of a value of a group has the name that goes with the number of the value, and there
is something that records are grouped by. -/
theorem Stages.compute_eq (st : Stages q p) {g : Grouping} (hg : p.grouping = some g) {k : Nat}
    {x : Descriptor} {name : String} (hx : g.descriptors[k]? = some x)
    (hname : x.compute = some name) :
    name = computeName k ∧ ∃ e source offset, g.test = .expression e source offset := by
  obtain ⟨gs⟩ := stages_of_grouping (st.grouping_gathers_some hg).1
  obtain ⟨kind, hdesc⟩ := gs.describes_descriptor hx
  cases hdesc with
  | aggregate => cases hname
  | groupValue scalar key_eq same source_eq type =>
      obtain ⟨-, -, -, htest⟩ := gs.key_eq_some key_eq source_eq
      exact ⟨(Option.some.inj hname).symm, _, _, _, htest⟩

/-- A routine that groups need: a function of the test, the test, or the routine of a value. -/
theorem Grouping.mem_needs {g : Grouping} {r : Routine} :
    r ∈ g.needs ↔ (∃ f ∈ g.test.functions, r = .math f) ∨ r = .groupTest g.test ∨
      ∃ x ∈ g.descriptors, ∃ name e source offset, x.compute = some name ∧
        g.test = .expression e source offset ∧
        r = .groupValue name e source offset x.output.type := by
  simp only [needs, List.mem_append, List.mem_map, List.mem_cons, List.mem_filterMap,
    GroupTest.valueRoutine?_eq_some]
  simp only [eq_comm]

/-- No two different routines that a program needs share a name. -/
theorem Stages.eq_of_name_eq (st : Stages q p) {r r' : Routine} (hr : r ∈ p.needs)
    (hr' : r' ∈ p.needs) (hname : r.name = r'.name) : r = r' := by
  unfold Program.needs at hr hr'
  cases hg : p.grouping with
  | none =>
      rw [hg] at hr hr'
      obtain ⟨f, -, rfl⟩ := List.mem_map.1 hr
      obtain ⟨f', -, rfl⟩ := List.mem_map.1 hr'
      rw [routineName_inj hname]
  | some g =>
      rw [hg] at hr hr'
      have hcompute : ∀ x ∈ g.descriptors, ∀ name, x.compute = some name →
          ∃ k, g.descriptors[k]? = some x ∧ name = computeName k := by
        intro x hx name hname
        obtain ⟨k, hk⟩ := List.mem_iff_getElem?.1 hx
        exact ⟨k, hk, (st.compute_eq hg hk hname).1⟩
      rcases Grouping.mem_needs.1 hr with ⟨f, -, rfl⟩ | rfl | ⟨x, hx, n, e, s, o, hn, ht, rfl⟩
      · rcases Grouping.mem_needs.1 hr' with
          ⟨f', -, rfl⟩ | rfl | ⟨x', hx', n', _, _, _, hn', -, rfl⟩
        · rw [routineName_inj hname]
        · exact absurd hname (routineName_ne_groupTestName f)
        · obtain ⟨k, -, rfl⟩ := hcompute x' hx' n' hn'
          exact absurd hname (routineName_ne_computeName f k)
      · rcases Grouping.mem_needs.1 hr' with
          ⟨f', -, rfl⟩ | rfl | ⟨x', hx', n', _, _, _, hn', -, rfl⟩
        · exact absurd hname.symm (routineName_ne_groupTestName f')
        · rfl
        · obtain ⟨k, -, rfl⟩ := hcompute x' hx' n' hn'
          exact absurd hname (groupTestName_ne_computeName k)
      · obtain ⟨k, hk, rfl⟩ := hcompute x hx n hn
        rcases Grouping.mem_needs.1 hr' with
          ⟨f', -, rfl⟩ | rfl | ⟨x', hx', n', _, _, _, hn', ht', rfl⟩
        · exact absurd hname.symm (routineName_ne_computeName f' k)
        · exact absurd hname.symm (groupTestName_ne_computeName k)
        · -- two values with one name have one number
          obtain ⟨k', hk', rfl⟩ := hcompute x' hx' n' hn'
          obtain rfl := computeName_inj hname
          rw [ht] at ht'
          cases ht'
          rw [hk, Option.some.injEq] at hk'
          rw [hk']

/-- **The routines of a program are those that it needs.** -/
theorem Stages.mem_routines (st : Stages q p) {r : Routine} :
    r ∈ p.routines.list ↔ r ∈ p.needs := by
  rw [st.routines_eq, Routines.mem_registerAll fun x hx y hy => st.eq_of_name_eq hx hy]
  simp [Routines.empty]

theorem Stages.groupTest_mem (st : Stages q p) {test : GroupTest} :
    .groupTest test ∈ p.routines.list ↔ ∃ g, p.grouping = some g ∧ g.test = test := by
  rw [st.mem_routines, Program.needs]
  cases p.grouping with
  | none => simp
  | some g => simp [Grouping.mem_needs, eq_comm]

theorem Stages.groupValue_mem (st : Stages q p) {name : String} {e : Formula}
    {source type : Storage} {offset : Nat} :
    .groupValue name e source offset type ∈ p.routines.list ↔
      ∃ g x, p.grouping = some g ∧ x ∈ g.descriptors ∧ x.compute = some name ∧
        x.output.type = type ∧ g.test = .expression e source offset := by
  rw [st.mem_routines, Program.needs]
  cases p.grouping with
  | none => simp
  | some g =>
      simp only [Grouping.mem_needs, Routine.groupValue.injEq, reduceCtorEq, and_false,
        exists_false, false_or, Option.some.injEq]
      constructor
      · rintro ⟨x, hx, _, _, _, _, hname, htest, rfl, rfl, rfl, rfl, rfl⟩
        exact ⟨g, x, rfl, hx, hname, rfl, htest⟩
      · rintro ⟨_, x, rfl, hx, hname, rfl, htest⟩
        exact ⟨x, hx, _, _, _, _, hname, htest, rfl, rfl, rfl, rfl, rfl⟩

theorem Stages.math_mem (st : Stages q p) {f : MathFunction} :
    .math f ∈ p.routines.list ↔ f ∈ p.functions := by
  rw [st.mem_routines, Program.needs, Program.functions]
  cases p.grouping with
  | none => simp
  | some g => simp [Grouping.mem_needs]

/-- A value of a group that names a routine has it, and there is no other of that name. -/
theorem Stages.compute_mem (st : Stages q p) {g : Grouping} (hg : p.grouping = some g)
    {x : Descriptor} (hx : x ∈ g.descriptors) {name : String} (hname : x.compute = some name) :
    ∃ e source offset, g.test = .expression e source offset ∧
      ∀ r, r ∈ p.routines.list ∧ r.name = name ↔
        r = .groupValue name e source offset x.output.type := by
  obtain ⟨k, hk⟩ := List.mem_iff_getElem?.1 hx
  obtain ⟨-, e, source, offset, htest⟩ := st.compute_eq hg hk hname
  have hmem : .groupValue name e source offset x.output.type ∈ p.routines.list :=
    st.groupValue_mem.2 ⟨g, x, hg, hx, hname, rfl, htest⟩
  refine ⟨e, source, offset, htest, fun r => ⟨fun ⟨hr, hrname⟩ => ?_, ?_⟩⟩
  · exact st.eq_of_name_eq (st.mem_routines.1 hr) (st.mem_routines.1 hmem) hrname
  · rintro rfl
    exact ⟨hmem, rfl⟩

/-- The routines of a program are as the planner makes them. -/
theorem Stages.regular (st : Stages q p) : ∀ r ∈ p.routines.list, r.Regular := by
  intro r hr
  rw [st.mem_routines, Program.needs] at hr
  cases hg : p.grouping with
  | none =>
      rw [hg] at hr
      obtain ⟨f, -, rfl⟩ := List.mem_map.1 hr
      trivial
  | some g =>
      rw [hg] at hr
      rcases Grouping.mem_needs.1 hr with ⟨f, -, rfl⟩ | rfl | ⟨x, hx, name, e, s, o, hname, -, rfl⟩
      · trivial
      · trivial
      · obtain ⟨k, hk⟩ := List.mem_iff_getElem?.1 hx
        exact ⟨k, (st.compute_eq hg hk hname).1⟩

theorem Routines.math_mem_registerAll {f : MathFunction} {fs : List MathFunction} (h : f ∈ fs) :
    Routine.math f ∈ (Routines.empty.registerAll (fs.map .math)).list := by
  refine (Routines.mem_registerAll fun x hx y hy hname => ?_).2 (.inr (List.mem_map_of_mem h))
  obtain ⟨f, -, rfl⟩ := List.mem_map.1 hx
  obtain ⟨f', -, rfl⟩ := List.mem_map.1 hy
  rw [routineName_inj hname]

/-- The beginning of a list ends before an element that it does not have. -/
theorem prefix_of_not_mem {α : Type} {first earlier later : List α} {x : α}
    (h : first <+: earlier ++ x :: later) (hx : x ∉ first) : first <+: earlier := by
  obtain ⟨rest, hrest⟩ := h
  rcases List.append_eq_append_iff.1 hrest with ⟨middle, rfl, -⟩ | ⟨middle, rfl, hmiddle⟩
  · exact List.prefix_append _ _
  · cases middle with
    | nil => rw [List.append_nil]
    | cons y middle =>
        obtain ⟨rfl, -⟩ := List.cons.inj hmiddle
        exact absurd (by simp) hx

/-- A routine stands after the functions of its body. -/
theorem Stages.math_before (st : Stages q p) {earlier later : List Routine} {r : Routine}
    (h : p.routines.list = earlier ++ r :: later) {f : MathFunction} (hf : f ∈ r.functions) :
    .math f ∈ earlier := by
  have hr : r ∈ p.needs := st.mem_routines.1 (by simp [h])
  cases hg : p.grouping with
  | none =>
      rw [Program.needs, hg] at hr
      obtain ⟨f', -, rfl⟩ := List.mem_map.1 hr
      cases hf
  | some g =>
      have hneeds : p.needs = g.needs := by rw [Program.needs, hg]
      rw [hneeds] at hr
      -- the functions of the test come first, and the routine is none of them
      have hfirst : (Routines.empty.registerAll (g.test.functions.map .math)).list
          <+: earlier ++ r :: later := by
        rw [← h, st.routines_eq, hneeds, Grouping.needs, Routines.registerAll_append]
        exact Routines.prefix_registerAll _ _
      have hnot : r ∉ (Routines.empty.registerAll (g.test.functions.map .math)).list := by
        intro hmem
        rcases Routines.mem_of_mem_registerAll hmem with hnil | hmath
        · cases hnil
        · obtain ⟨f', -, rfl⟩ := List.mem_map.1 hmath
          cases hf
      have htest : f ∈ g.test.functions := by
        rcases Grouping.mem_needs.1 hr with ⟨f', -, rfl⟩ | rfl | ⟨x, -, n, e, s, o, -, ht, rfl⟩
        · cases hf
        · exact hf
        · rw [ht]
          exact hf
      exact (prefix_of_not_mem hfirst hnot).subset (Routines.math_mem_registerAll htest)

/-! ### What the query asks for -/

theorem Stages.functions_eq_of_some (st : Stages q p) {g : Grouping} (hg : p.grouping = some g) :
    p.functions = q.functions := by
  obtain ⟨gs⟩ := stages_of_grouping (st.grouping_gathers_some hg).1
  have hgrouped : q.isGrouped = true := by rw [← st.isSome_grouping, hg]; rfl
  rw [Program.functions, hg, Resolved.functions, if_pos hgrouped]
  show g.test.functions = _
  rw [(groupKey?_registers gs.key_gathers gs.test_eq).2]
  have hle := gs.groupBy_le
  match q.groupBy, hle with
  | [], _ => rfl
  | [e], _ => simp

theorem functions_of_translates {e : Scalar} {f : Formula} (h : Translates e f) :
    f.functions = e.functions := by
  obtain ⟨s', hf⟩ := h .empty
  exact (formulaOf_registers hf).2.2.1

theorem Stages.mem_functions_of_none (st : Stages q p) (hg : p.grouping = none)
    {f : MathFunction} : f ∈ p.functions ↔ f ∈ q.functions := by
  have hgrouped : q.isGrouped = false := by rw [← st.isSome_grouping, hg]; rfl
  have hprints := st.printsRecords hg
  rw [Program.functions, hg, Resolved.functions, if_neg (by simp [hgrouped])]
  simp only [List.mem_flatMap]
  constructor
  · -- a printed formula is that of an output column, or of the target of one
    rintro ⟨c, hc, hf⟩
    obtain ⟨i, hi⟩ := List.mem_iff_getElem?.1 hc
    have hlt : i < q.projections.length := by
      have hlength := congrArg List.length hprints.names
      rw [List.length_map, List.length_map] at hlength
      rw [← hlength]
      exact (List.getElem?_eq_some_iff.1 hi).1
    have hx := List.getElem?_eq_getElem hlt
    rcases hprints.asks _ (List.getElem_mem hlt) with ⟨n, hasks⟩ | ⟨e, hasks⟩
    · obtain ⟨_, c', -, hc', -, -, hformula⟩ := hprints.column i _ n hx hasks
      rw [hi, Option.some.injEq] at hc'
      rw [OutputColumn.functions, hc', hformula] at hf
      cases hf
    · obtain ⟨f', c', htrans, hc', hformula, -⟩ := hprints.formula i _ e hx hasks
      rw [hi, Option.some.injEq] at hc'
      rw [OutputColumn.functions, hc', hformula] at hf
      have hf' : f ∈ e.functions := functions_of_translates htrans ▸ hf
      obtain ⟨-, hkind | ⟨target, y, -, hy, hkind⟩⟩ := hasks
      · exact ⟨_, List.getElem_mem hlt, by rw [hkind]; exact hf'⟩
      · exact ⟨y, List.mem_of_getElem? hy, by rw [hkind]; exact hf'⟩
  · rintro ⟨x, hx, hf⟩
    obtain ⟨i, hi⟩ := List.mem_iff_getElem?.1 hx
    cases hkind : x.kind with
    | arithmetic e =>
        rw [hkind] at hf
        obtain ⟨f', c, htrans, hc, hformula, -⟩ :=
          hprints.formula i x e hi ⟨rfl, .inl hkind⟩
        refine ⟨c, List.mem_of_getElem? hc, ?_⟩
        rw [OutputColumn.functions, hformula]
        show f ∈ f'.functions
        rw [functions_of_translates htrans]
        exact hf
    | _ =>
        rw [hkind] at hf
        cases hf

/-- A program computes the functions that its query asks for. -/
theorem Stages.mem_functions (st : Stages q p) {f : MathFunction} :
    f ∈ p.functions ↔ f ∈ q.functions := by
  cases hg : p.grouping with
  | none => exact st.mem_functions_of_none hg
  | some g => rw [st.functions_eq_of_some hg]

end

end Plan

end SqlPipeline
