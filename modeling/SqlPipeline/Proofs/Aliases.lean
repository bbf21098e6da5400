/-
**Aliases are not seen from outside.**

An output column that repeats another is an alias of that one.  The layout of output columns, the
values of a group and the two ways of printing treat aliases apart from the rest, and an alias takes
no value of its own, so that all values after it have other numbers, other places and other
variables.  Here a query is compared with one that asks for the same output columns but marks others
of them as aliases.  The relation is symmetric, so that what follows for one query from the other
holds both ways.

Without groups the two have the same program.  With groups they have programs that are laid out
differently; what one output column reads is described by what it asks for, whatever its number, and
that is the same in both.

Main definitions:

* `Query.SameOutputs` — output columns that differ only in which of them are aliases;
* `Query.Resolved.expanded` — the query with each alias replaced by what it repeats;
* `Plan.Descriptor.Alike` — two values of a group that differ at most in number, place and variable;
* `Plan.Program.PrintAlike` — two programs that print output columns alike, from values of a group
  that are alike, with conditions on groups that are alike.

Main results:

* `Layout.ofProjections_eq`, `Plan.scanOutput_eq`, `Plan.ofQuery_withOutputs` — **without groups,
  aliases do not change the program**;
* `Plan.Describes.alike`, `Plan.descriptorOf_of_describes` — a value of a group is determined by
  what is asked for, and so is whether it can be planned;
* `Plan.exists_program` — **aliases do not decide whether there is a program**;
* `Plan.printAlike` — **with groups, aliases change neither what is printed nor the condition**;
* `Plan.expanded_program` — the same for the query without aliases.
-/

import SqlPipeline.Proofs.Printing
import SqlPipeline.Proofs.Resolution

set_option autoImplicit false

namespace SqlPipeline

open Journal Layout Query Outcome

namespace Query

/-! ### Output columns that ask for the same -/

/-- Output columns that differ only in which of them are aliases: they have the same names and ask
for the same. -/
structure SameOutputs (ps ps' : List Projection) : Prop where
  names_eq : ps'.map Projection.name = ps.map Projection.name
  aliases : AliasesEarlier (ps.map Projection.kind)
  aliases' : AliasesEarlier (ps'.map Projection.kind)
  asks : ∀ (i : Nat) x x', ps[i]? = some x → ps'[i]? = some x' →
    ∃ kind, x.Asks ps kind ∧ x'.Asks ps' kind

/-- The query with other output columns. -/
def Resolved.withOutputs (q : Resolved) (ps : List Projection) : Resolved :=
  { q with projections := ps }

@[simp] theorem Resolved.tables_withOutputs (q : Resolved) (ps : List Projection) :
    (q.withOutputs ps).tables = q.tables := rfl

@[simp] theorem Resolved.projections_withOutputs (q : Resolved) (ps : List Projection) :
    (q.withOutputs ps).projections = ps := rfl

@[simp] theorem Resolved.isGrouped_withOutputs (q : Resolved) (ps : List Projection) :
    (q.withOutputs ps).isGrouped = q.isGrouped := rfl

section

variable {ps ps' : List Projection}

theorem SameOutputs.symm (h : SameOutputs ps ps') : SameOutputs ps' ps where
  names_eq := h.names_eq.symm
  aliases := h.aliases'
  aliases' := h.aliases
  asks i x' x hx' hx := by
    obtain ⟨kind, hasks, hasks'⟩ := h.asks i x x' hx hx'
    exact ⟨kind, hasks', hasks⟩

theorem SameOutputs.length_eq (h : SameOutputs ps ps') : ps'.length = ps.length := by
  have hnames := congrArg List.length h.names_eq
  rwa [List.length_map, List.length_map] at hnames

/-- At each place there are output columns of one name that ask for the same. -/
theorem SameOutputs.at (h : SameOutputs ps ps') (i : Nat) :
    (ps[i]? = none ∧ ps'[i]? = none) ∨
    ∃ x x' kind, ps[i]? = some x ∧ ps'[i]? = some x' ∧ x'.name = x.name ∧ x.Asks ps kind ∧
      x'.Asks ps' kind := by
  have hname : ps'[i]?.map Projection.name = ps[i]?.map Projection.name := by
    rw [← List.getElem?_map, h.names_eq, List.getElem?_map]
  cases hx : ps[i]? with
  | none =>
      rw [hx, Option.map_none, Option.map_eq_none_iff] at hname
      exact .inl ⟨rfl, hname⟩
  | some x =>
      rw [hx, Option.map_some, Option.map_eq_some_iff] at hname
      obtain ⟨x', hx', hname⟩ := hname
      obtain ⟨kind, hasks, hasks'⟩ := h.asks i x x' hx hx'
      exact .inr ⟨x, x', kind, rfl, hx', hname, hasks, hasks'⟩

/-- An alias asks for what an earlier output column computes. -/
theorem AliasesEarlier.target (h : AliasesEarlier (ps.map Projection.kind)) {i target : Nat}
    {x : Projection} (hx : ps[i]? = some x) (hkind : x.kind = .aliasOf target) :
    target < i ∧ ∃ y, ps[target]? = some y ∧ y.kind.isAlias = false := by
  obtain ⟨hlt, kind, htarget, hne⟩ := h i target (by rw [List.getElem?_map, hx, ← hkind]; rfl)
  rw [List.getElem?_map, Option.map_eq_some_iff] at htarget
  obtain ⟨y, hy, rfl⟩ := htarget
  exact ⟨hlt, y, hy, hne⟩

end

end Query

/-! ### The layout of output columns -/

namespace Layout

theorem ofProjections_concat (stored : Schema) (ps : List Projection) (x : Projection) :
    ofProjections stored (ps ++ [x])
      = ofProjections stored ps >>= fun out => addProjection stored out (x, ps.length) := by
  unfold ofProjections
  rw [List.zipIdx_append, List.foldlM_append]
  simp

/-- The type of an output column is that of what it asks for. -/
theorem kindType_of_asks {stored out : Schema} {ps : List Projection} {n : Nat} {x : Projection}
    {kind : Kind} (h : ofProjections stored (ps.take n) = .ok out) (hx : ps[n]? = some x)
    (haliases : AliasesEarlier (ps.map Projection.kind)) (hasks : x.Asks ps kind) :
    kindType stored out n x.kind = kindType stored out 0 kind := by
  obtain ⟨hnot, hkind | ⟨target, y, hkind, hy, rfl⟩⟩ := hasks
  · rw [hkind]
    exact kindType_of_not_alias hnot _ _ _ _ _
  · -- the target has its type already
    have hlt := (haliases.target hx hkind).1
    have hy' : (ps.take n)[target]? = some y := by rw [List.getElem?_take_of_lt hlt, hy]
    obtain ⟨type, hsome, htype⟩ := type?_ofProjections h hy'
    rw [hkind, kindType, if_pos hlt, hsome, kindType_of_not_alias hnot stored out out 0 target,
      htype]

/-- **Aliases do not change the layout of output columns.** -/
theorem ofProjections_eq {ps ps' : List Projection} (h : SameOutputs ps ps') (stored : Schema) :
    ofProjections stored ps' = ofProjections stored ps := by
  -- along the output columns: the layouts of equally many of them are the same
  have key : ∀ n, ofProjections stored (ps'.take n) = ofProjections stored (ps.take n) := by
    intro n
    induction n with
    | zero => simp
    | succ n ih =>
        rw [List.take_add_one, List.take_add_one]
        rcases h.at n with ⟨hx, hx'⟩ | ⟨x, x', kind, hx, hx', hname, hasks, hasks'⟩
        · rw [hx, hx']
          simpa using ih
        · have hlt := (List.getElem?_eq_some_iff.1 hx).1
          have hlt' := (List.getElem?_eq_some_iff.1 hx').1
          rw [hx, hx', Option.toList_some, Option.toList_some, ofProjections_concat,
            ofProjections_concat, ih, List.length_take_of_le (by omega),
            List.length_take_of_le (by omega)]
          cases hout : ofProjections stored (ps.take n) with
          | error e => rfl
          | ok out =>
              have hkind : kindType stored out n x'.kind = kindType stored out n x.kind := by
                rw [kindType_of_asks (ih.trans hout) hx' h.aliases' hasks',
                  kindType_of_asks hout hx h.aliases hasks]
              show addProjection stored out (x', n) = addProjection stored out (x, n)
              rw [addProjection, addProjection, hkind, hname]
  have hall := key ps.length
  rwa [List.take_length, ← h.length_eq, List.take_length] at hall

end Layout

namespace Plan

/-! ### Without groups -/

theorem targetKind_of_asks {ps : List Projection} {x : Projection} {kind : Kind}
    (h : x.Asks ps kind) : targetKind ps x.kind = .ok kind := by
  obtain ⟨hnot, hkind | ⟨target, y, hkind, hy, rfl⟩⟩ := h
  · rw [hkind]
    cases kind with
    | aliasOf target => cases hnot
    | _ => rfl
  · rw [hkind, targetKind, hy]

section

variable {ps ps' : List Projection} {q : Resolved}

/-- **Aliases do not change what is printed of records.** -/
theorem scanOutput_eq (h : SameOutputs ps ps') (stored output : Schema) :
    scanOutput ps' stored output = scanOutput ps stored output := by
  have hcolumns : ps'.zipIdx.map (scanColumn ps' stored output)
      = ps.zipIdx.map (scanColumn ps stored output) := by
    refine List.ext_getElem? fun i => ?_
    rw [List.getElem?_map, List.getElem?_map, List.getElem?_zipIdx, List.getElem?_zipIdx]
    rcases h.at i with ⟨hx, hx'⟩ | ⟨x, x', kind, hx, hx', hname, hasks, hasks'⟩
    · rw [hx, hx']
      rfl
    · rw [hx, hx']
      simp only [Option.map_some, scanColumn, targetKind_of_asks hasks, targetKind_of_asks hasks',
        hname]
  calc scanOutput ps' stored output
      = (ps'.zipIdx.map (scanColumn ps' stored output)).mapM id := by
        rw [List.mapM_map]
        rfl
    _ = scanOutput ps stored output := by
        rw [hcolumns, List.mapM_map]
        rfl

theorem finish_withOutputs (h : SameOutputs ps ps') (a : Assembly) (output : Schema)
    (access : Access) (grouping : Option Grouping) (having : Option HavingFilter) :
    a.finish { projections := ps', output, access, grouping, having }
      = a.finish { projections := ps, output, access, grouping, having } := by
  unfold Assembly.finish
  cases grouping with
  | some g => rfl
  | none => simp only [scanOutput_eq h]

theorem having?_withOutputs (q : Resolved) (ps : List Projection) (grouping : Option Grouping) :
    having? (q.withOutputs ps) grouping = having? q grouping := rfl

theorem grouping?_withOutputs (ps : List Projection) (hq : q.isGrouped = false)
    (stored output : Schema) :
    grouping? (q.withOutputs ps) stored output = grouping? q stored output := by
  simp only [grouping?, Resolved.isGrouped_withOutputs, hq]
  rfl

/-- **Without groups, aliases do not change the program.** -/
theorem ofQuery_withOutputs (h : SameOutputs q.projections ps) (hq : q.isGrouped = false) :
    ofQuery (q.withOutputs ps) = ofQuery q := by
  have hassemble : ∀ access, assemble (q.withOutputs ps) access = assemble q access := by
    intro access
    simp only [assemble, Resolved.tables_withOutputs, Resolved.projections_withOutputs,
      ofProjections_eq h, grouping?_withOutputs ps hq, having?_withOutputs, finish_withOutputs h]
  have hbuild : build (q.withOutputs ps) = build q := by
    unfold build
    simp only [hassemble]
    rfl
  rw [ofQuery, hbuild, ofQuery]

end

/-! ### Values of a group -/

/-- Two values of a group that are the same function of the same column, or both what records are
grouped by, and are stored alike.  Their numbers, places and variables may differ. -/
structure Descriptor.Alike (x x' : Descriptor) : Prop where
  kind_eq : x'.kind = x.kind
  sourceColumn_eq : x'.sourceColumn = x.sourceColumn
  sourceType_eq : x'.sourceType = x.sourceType
  type_eq : x'.output.type = x.output.type

section

variable {stored : Schema} {key : Option GroupKey} {kind kind' : Kind} {i j : Nat}
  {x x' : Descriptor}

/-- Whatever its number, a value of a group is determined by what is asked for. -/
theorem Describes.alike (h : Describes stored key i kind x) (h' : Describes stored key j kind x') :
    x.Alike x' := by
  cases h with
  | aggregate source type =>
      cases h' with
      | aggregate source' type' =>
          cases source.symm.trans source'
          exact ⟨rfl, rfl, rfl, Except.ok.inj (type'.symm.trans type)⟩
      | groupValue scalar => cases scalar
  | groupValue scalar key_eq same source_eq type =>
      cases h' with
      | aggregate source' type' => cases scalar
      | groupValue scalar' key_eq' same' source_eq' type' =>
          cases key_eq.symm.trans key_eq'
          cases source_eq.symm.trans source_eq'
          exact ⟨rfl, rfl, rfl, Except.ok.inj (type'.symm.trans type)⟩

/-- A value of a group is also what an equal output column asks for. -/
theorem Describes.of_beq (h : Describes stored key i kind x) (hsame : (kind == kind') = true) :
    Describes stored key i kind' x := by
  cases h with
  | aggregate source type =>
      cases Kind.same_iff.1 hsame
      exact .aggregate source type
  | @groupValue _ e k _ _ scalar key_eq same source_eq type =>
      cases Kind.same_iff.1 hsame with
      | column n => exact .groupValue scalar key_eq same source_eq type
      | arithmetic hexpr =>
          cases scalar
          exact .groupValue rfl key_eq (PartialEquivBEq.trans same hexpr) source_eq type
      | aggregate call => cases scalar
      | aliasOf target => cases scalar

/-- Whether a value of a group can be planned does not depend on its name, its number, the layout
and the routines so far. -/
theorem descriptorOf_of_describes (h : Describes stored key i kind x) (name : String)
    (index : Nat) (schema : Schema) (s : Routines) :
    ∃ y s', Gathers (descriptorOf stored key kind name index schema) s y s' := by
  cases h with
  | @aggregate call _ _ source type =>
      obtain ⟨y, hy⟩ : ∃ y, aggregateDescriptor stored call name index schema = .ok y :=
        ⟨_, bind_eq_ok.2 ⟨_, source, bind_eq_ok.2 ⟨_, type,
          bind_eq_ok.2 ⟨_, lastColumn_eq schema name _, rfl⟩⟩⟩⟩
      exact ⟨y, s, gathers_lift.2 ⟨hy, rfl⟩⟩
  | @groupValue _ e k source _ scalar key_eq same source_eq type =>
      have hgroup : ∃ y s', Gathers (groupDescriptor stored key e name index schema) s y s' := by
        unfold groupDescriptor
        rw [key_eq, Option.filter_some, if_pos same]
        simp only [lastColumn_eq, gathers_bind, gathers_lift, gathers_need, gathers_pure]
        exact ⟨_, _, source, _, ⟨columnAt_eq_ok.2 source_eq, rfl⟩, _, _, ⟨type, rfl⟩, (), _, rfl,
          _, _, ⟨rfl, rfl⟩, rfl, rfl⟩
      cases kind with
      | column n =>
          cases scalar
          exact hgroup
      | arithmetic e =>
          cases scalar
          exact hgroup
      | aggregate call => cases scalar
      | aliasOf target => cases scalar

end

/-! ### Groups -/

section

variable {stored : Schema} {key : Option GroupKey} {ps : List Projection}

/-- One more output column can be planned if it repeats one that is done, or its value can be
planned. -/
theorem GroupDraft.exists_add {d : GroupDraft} {p : Projection}
    (halias : ∀ target, p.kind = .aliasOf target → target < d.columns.length)
    (hvalue : p.kind.isAlias = false → ∃ i x, Describes stored key i p.kind x) (s : Routines) :
    ∃ d' s', Gathers (GroupDraft.add stored key d p) s d' s' ∧
      d'.columns.length = d.columns.length + 1 := by
  cases hkind : p.kind with
  | aliasOf target =>
      have hlt := halias target hkind
      refine ⟨{ d with columns := d.columns ++ [d.columns[target]] }, s, ?_, by simp⟩
      unfold GroupDraft.add
      simp only [hkind, List.getElem?_eq_getElem hlt]
      exact gathers_pure.2 ⟨rfl, rfl⟩
  | _ =>
      obtain ⟨i, x, hx⟩ := hvalue (by rw [hkind]; rfl)
      obtain ⟨y, s', hy⟩ := descriptorOf_of_describes hx p.name d.descriptors.length d.schema s
      refine ⟨{ d.push p.kind y with columns := d.columns ++ [d.descriptors.length] }, s', ?_,
        by simp⟩
      unfold GroupDraft.add
      simp only [hkind] at hy ⊢
      exact gathers_bind.2 ⟨y, s', hy, gathers_pure.2 ⟨rfl, rfl⟩⟩

/-- **Output columns whose values can be planned one by one can be planned together.** -/
theorem GroupDraft.exists_foldlM (haliases : AliasesEarlier (ps.map Projection.kind))
    (hvalues : ∀ p ∈ ps, p.kind.isAlias = false → ∃ i x, Describes stored key i p.kind x)
    (s : Routines) : ∃ d s', Gathers (ps.foldlM (GroupDraft.add stored key) {}) s d s' := by
  -- for the part that is left: each output column that is done reads a value
  have key : ∀ (rest done : List Projection) (d : GroupDraft) (s : Routines), ps = done ++ rest →
      d.columns.length = done.length →
      ∃ d' s', Gathers (rest.foldlM (GroupDraft.add stored key) d) s d' s' := by
    intro rest
    induction rest with
    | nil =>
        intro done d s _ _
        exact ⟨d, s, gathers_pure.2 ⟨rfl, rfl⟩⟩
    | cons p rest ih =>
        intro done d s hps hlen
        have hp : ps[done.length]? = some p := by simp [hps]
        obtain ⟨d', s', hadd, hlen'⟩ := GroupDraft.exists_add (d := d)
          (fun target hkind => hlen.symm ▸ (haliases.target hp hkind).1)
          (hvalues p (List.mem_of_getElem? hp)) s
        obtain ⟨d'', s'', hrest⟩ := ih (done ++ [p]) d' s' (by simp [hps]) (by simp [hlen', hlen])
        refine ⟨d'', s'', ?_⟩
        rw [List.foldlM_cons]
        exact gathers_bind.2 ⟨d', s', hadd, hrest⟩
  exact key ps [] {} s rfl rfl

/-- The value of a condition on groups can be planned, or is there already. -/
theorem GroupDraft.exists_addHaving {t : HavingTerm} {kind : Kind} (hkind : havingKind t = .ok kind)
    (hvalue : ∃ i x, Describes stored key i kind x) (d : GroupDraft) (s : Routines) :
    ∃ d' index s', Gathers (d.addHaving stored key t) s (d', index) s' := by
  unfold GroupDraft.addHaving
  simp only [gathers_bind, gathers_lift]
  cases hfind : d.kinds.findIdx? (· == kind) with
  | some index =>
      refine ⟨d, index, s, kind, s, ⟨hkind, rfl⟩, ?_⟩
      simp only [hfind]
      exact gathers_pure.2 ⟨rfl, rfl⟩
  | none =>
      obtain ⟨i, x, hx⟩ := hvalue
      obtain ⟨y, s', hy⟩ := descriptorOf_of_describes hx "having" d.descriptors.length d.schema s
      refine ⟨d.push kind y, d.descriptors.length, s', kind, s, ⟨hkind, rfl⟩, ?_⟩
      simp only [hfind]
      exact gathers_bind.2 ⟨y, s', hy, gathers_pure.2 ⟨rfl, rfl⟩⟩

end

section

variable {q : Resolved} {stored output out : Schema} {g : Grouping} {s s' : Routines}
  {ps : List Projection}

/-- The value that an output column reads is what it asks for, also for an alias. -/
theorem GroupStages.describes_asked (st : GroupStages q stored output s g out s') {i : Nat}
    {x : Projection} {kind : Kind} (hx : q.projections[i]? = some x)
    (hasks : x.Asks q.projections kind) :
    ∃ k y, g.projectionColumns[i]? = some k ∧ g.descriptors[k]? = some y ∧
      Describes stored st.key k kind y := by
  obtain ⟨hnot, rfl | ⟨target, z, hkind, hz, rfl⟩⟩ := hasks
  · exact st.describes hx hnot
  · obtain ⟨k, y, hk, hy, hdesc⟩ := st.describes hz hnot
    obtain ⟨-, hplans, -⟩ := st.inStep_final
    obtain ⟨hcolumns, -⟩ := st.draft_prefix
    refine ⟨k, y, ?_, hy, hdesc⟩
    rw [hcolumns] at hk ⊢
    rw [hplans.aliased i x target hx hkind, hk]

/-- The value that the condition on groups reads is what it compares. -/
theorem GroupStages.describes_having (st : GroupStages q stored output s g out s')
    {t : HavingTerm} (ht : q.having = [t]) :
    ∃ kind k y, havingKind t = .ok kind ∧ g.havingColumn = some k ∧ g.descriptors[k]? = some y ∧
      Describes stored st.key k kind y := by
  rcases st.having with ⟨hnil, -⟩ | ⟨t', index, ht', hindex, hh⟩
  · rw [ht] at hnil
    cases hnil
  · cases ht.symm.trans ht'
    obtain ⟨hin, -, -⟩ := st.inStep_final
    obtain ⟨kind, hkind, ⟨hfind, hfinal, -⟩ | ⟨-, hlast, x, hx, hfinal⟩⟩ :=
      GroupDraft.addHaving_gathers hh
    · -- an output column reads a value that is equal
      obtain ⟨hlt, hsame, -⟩ := List.findIdx?_eq_some_iff_getElem.1 hfind
      have hlt' : index < st.draft.descriptors.length := hin.length_eq ▸ hlt
      refine ⟨kind, index, st.draft.descriptors[index], hkind, hindex, ?_, ?_⟩
      · rw [st.descriptors_eq, hfinal, List.getElem?_eq_getElem hlt']
      · exact (hin.described index _ _ (List.getElem?_eq_getElem hlt)
          (List.getElem?_eq_getElem hlt')).of_beq hsame
    · refine ⟨kind, index, x, hkind, hindex, ?_, ?_⟩
      · rw [st.descriptors_eq, hfinal, hlast, GroupDraft.push, List.getElem?_concat_length]
      · rw [hlast]
        exact (descriptorOf_gathers hx).1

/-- **Aliases do not decide whether groups can be computed.** -/
theorem exists_grouping (h : SameOutputs q.projections ps)
    (hg : Gathers (Grouping.ofQuery q stored output) s (g, out) s') :
    ∃ g' out' t, Gathers (Grouping.ofQuery (q.withOutputs ps) stored output) s (g', out') t := by
  obtain ⟨st⟩ := stages_of_grouping hg
  have hvalues : ∀ p ∈ ps, p.kind.isAlias = false →
      ∃ i x, Describes stored st.key i p.kind x := by
    intro p hp hnot
    obtain ⟨i, hi⟩ := List.mem_iff_getElem?.1 hp
    rcases h.at i with ⟨-, hnone⟩ | ⟨x, x', kind, hx, hx', -, hasks, hasks'⟩
    · rw [hi] at hnone
      cases hnone
    · cases hi.symm.trans hx'
      obtain rfl := hasks'.unique ⟨hnot, .inl rfl⟩
      obtain ⟨k, y, -, -, hdesc⟩ := st.describes_asked hx hasks
      exact ⟨k, y, hdesc⟩
  obtain ⟨d, t, hd⟩ :=
    GroupDraft.exists_foldlM h.aliases' hvalues (st.keyed.register (.groupTest g.test))
  have hgroupBy : ¬ 1 < (q.withOutputs ps).groupBy.length := Nat.not_lt.2 st.groupBy_le
  have hhaving : ¬ 1 < (q.withOutputs ps).having.length := Nat.not_lt.2 st.having_le
  unfold Grouping.ofQuery
  dsimp only
  rw [if_neg hgroupBy, if_neg hhaving]
  simp only [gathers_bind, gathers_lift, gathers_need]
  cases hq : q.having with
  | nil =>
      have hhead : (q.withOutputs ps).having.head? = none := by
        show q.having.head? = none
        rw [hq]
        rfl
      simp only [hhead, gathers_bind, gathers_pure]
      exact ⟨_, _, t, st.key, st.keyed, st.key_gathers, g.test, _, ⟨st.test_eq, rfl⟩, (), _, rfl,
        d, t, hd, _, _, ⟨rfl, rfl⟩, rfl, rfl⟩
  | cons term terms =>
      obtain rfl : terms = [] := by
        have hle := st.having_le
        rw [hq, List.length_cons] at hle
        exact List.length_eq_zero_iff.1 (by omega)
      have hhead : (q.withOutputs ps).having.head? = some term := by
        show q.having.head? = some term
        rw [hq]
        rfl
      obtain ⟨kind, k, y, hkind, -, -, hdesc⟩ := st.describes_having hq
      obtain ⟨d', index, t', hd'⟩ := GroupDraft.exists_addHaving hkind ⟨k, y, hdesc⟩ d t
      simp only [hhead, gathers_bind, gathers_pure]
      exact ⟨_, _, t', st.key, st.keyed, st.key_gathers, g.test, _, ⟨st.test_eq, rfl⟩, (), _, rfl,
        d, t, hd, (d', index), t', hd', _, _, ⟨rfl, rfl⟩, rfl, rfl⟩

end

/-! ### Programs -/

theorem ofQuery_value_eq (q : Resolved) : (ofQuery q).run.value = (build q).run.value := by
  cases hbuild : (build q).run with
  | mk value records =>
      unfold ofQuery
      rw [hbuild]
      cases value <;> rfl

/-- The printed column at a place reads a value of the group. -/
def Program.Reads (p : Program) (i : Nat) (x : Descriptor) : Prop :=
  ∃ g k c, p.grouping = some g ∧ g.projectionColumns[i]? = some k ∧ g.descriptors[k]? = some x ∧
    p.output[i]? = some c ∧ c.pointer = some (x.output.type, x.output.offset)

/-- The condition on groups compares a value of the group. -/
def Program.Compares (p : Program) (h : HavingFilter) (x : Descriptor) : Prop :=
  ∃ g, p.grouping = some g ∧ p.having = some h ∧ g.descriptors[h.column]? = some x

/-- Two programs print the output columns alike: under their names and with the same types, from
values of a group that are alike; and their conditions on groups are alike. -/
structure Program.PrintAlike (ps : List Projection) (p p' : Program) : Prop where
  length_eq : p.output.length = ps.length ∧ p'.output.length = ps.length
  printed : ∀ (i : Nat) x, ps[i]? = some x → ∃ c c' y y', p.output[i]? = some c ∧
    p'.output[i]? = some c' ∧ c.name = x.name ∧ c'.name = x.name ∧ c'.type = c.type ∧
    p.Reads i y ∧ p'.Reads i y' ∧ y.Alike y'
  having : (p.having = none ∧ p'.having = none) ∨
    ∃ h h' y y', p.Compares h y ∧ p'.Compares h' y' ∧ h'.op = h.op ∧ h'.literal = h.literal ∧
      y.Alike y'

section

variable {q : Resolved} {p : Program} {g : Grouping} {ps : List Projection}

theorem map_name_groupedOutput {out : Schema} {columns : List OutputColumn}
    (h : groupedOutput out g = .ok columns) (hlen : out.length = g.projectionColumns.length) :
    columns.map OutputColumn.name = out.columns.map Column.name := by
  have hnames : List.Forall₂ (fun x c => x.1.name = OutputColumn.name c)
      (out.columns.zip g.projectionColumns) columns := by
    refine (mapM_eq_ok.1 h).imp fun x c hc => ?_
    dsimp only at hc
    split at hc
    · rw [← Except.ok.inj hc]
    · cases hc
  have hzip : (out.columns.zip g.projectionColumns).map Prod.fst = out.columns :=
    List.map_fst_zip (Nat.le_of_eq hlen)
  rw [← hzip, List.map_map, eq_comm, ← List.forall₂_eq_eq_eq, List.forall₂_map_left_iff,
    List.forall₂_map_right_iff]
  exact hnames

theorem Stages.length_retyped (st : Stages q p)
    (gs : GroupStages q st.stored st.output .empty g st.retyped p.routines) :
    st.retyped.length = g.projectionColumns.length := by
  rw [gs.out_eq, Plan.length_retyped, length_ofProjections st.output_eq, gs.sound.columns_length]

/-- The printed column of an output column has its name, and reads what it asks for. -/
theorem Stages.prints_asked (st : Stages q p) (hg : p.grouping = some g)
    (gs : GroupStages q st.stored st.output .empty g st.retyped p.routines) {i : Nat}
    {x : Projection} {kind : Kind} (hx : q.projections[i]? = some x)
    (hasks : x.Asks q.projections kind) :
    ∃ c k y, p.output[i]? = some c ∧ c.name = x.name ∧ c.type = y.output.type ∧ p.Reads i y ∧
      Describes st.stored gs.key k kind y := by
  obtain ⟨-, houtput⟩ := st.grouping_gathers_some hg
  obtain ⟨k, y, hk, hy, hdesc⟩ := gs.describes_asked hx hasks
  have hlen := st.length_retyped gs
  obtain ⟨source, c, hsource, hc, hpointer, htype⟩ := (groupedOutput_eq_ok houtput hlen).2 i k hk
  -- the column of the layout is the place of the value
  rw [gs.column?_eq, hy, Option.map_some, Option.some.injEq] at hsource
  subst hsource
  have hname : p.output.map OutputColumn.name = q.projections.map Projection.name := by
    rw [map_name_groupedOutput houtput hlen, gs.out_eq, map_name_retyped,
      map_name_ofProjections st.output_eq]
  have hname' : (p.output.map OutputColumn.name)[i]? = some x.name := by
    rw [hname, List.getElem?_map, hx, Option.map_some]
  rw [List.getElem?_map, hc, Option.map_some, Option.some.injEq] at hname'
  exact ⟨c, k, y, hc, hname', htype, ⟨g, k, c, hg, hk, hy, hc, hpointer⟩, hdesc⟩

/-- The condition on groups compares what the condition of the query does. -/
theorem Stages.compares_asked (st : Stages q p) (hg : p.grouping = some g)
    (gs : GroupStages q st.stored st.output .empty g st.retyped p.routines) {t : HavingTerm}
    (ht : q.having = [t]) :
    ∃ h kind k y, havingKind t = .ok kind ∧ havingComparison t = .ok (h.op, h.literal) ∧
      p.Compares h y ∧ Describes st.stored gs.key k kind y := by
  obtain ⟨kind, k, y, hkind, hk, hy, hdesc⟩ := gs.describes_having ht
  obtain ⟨hf, hhaving, hterm⟩ := st.having_some hg ht hk
  obtain ⟨hside, hcol, -, -⟩ := HavingFilter.ofTerm_eq_ok hterm
  exact ⟨hf, kind, k, y, hkind, hside, ⟨g, hg, hhaving, hcol ▸ hy⟩, hdesc⟩

theorem Stages.having_nil (st : Stages q p) (hq : q.having = []) : p.having = none := by
  have hhaving := st.having_eq
  simp only [having?, hq, List.head?_nil, pure_eq_ok] at hhaving
  exact hhaving.symm

/-- The steps of a program are made from the table and the conditions on records. -/
theorem exists_operators {table : String} {stored : Schema} {access : Access}
    {grouping : Option Grouping} {having : Option HavingFilter} {a : Assembly}
    (h : operators table stored access grouping having = .ok a) (grouping' : Option Grouping)
    (having' : Option HavingFilter) :
    ∃ a', operators table stored access grouping' having' = .ok a' := by
  obtain ⟨a₁, a₂, h₁, h₂, -⟩ := operators_eq_ok h
  exact ⟨_, bind_eq_ok.2 ⟨a₁, h₁, bind_eq_ok.2 ⟨a₂, h₂, rfl⟩⟩⟩

/-- What records are grouped by has nothing to do with output columns. -/
theorem GroupStages.key_eq {stored stored' output output' out out' : Schema} {s s' t' : Routines}
    {g g' : Grouping} (gs : GroupStages q stored output s g out s')
    (gs' : GroupStages (q.withOutputs ps) stored' output' s g' out' t') : gs'.key = gs.key := by
  have hkeys := gs.key_gathers.symm.trans gs'.key_gathers
  exact (Except.ok.inj (congrArg Prod.fst hkeys)).symm

/-- The condition on groups fits the value that it compares, whichever number that has. -/
theorem exists_having {stored output out out' : Schema} {s s' t' : Routines} {g g' : Grouping}
    (gs : GroupStages q stored output s g out s')
    (gs' : GroupStages (q.withOutputs ps) stored output s g' out' t')
    {hf : Option HavingFilter} (h : having? q (some g) = .ok hf) :
    ∃ hf', having? (q.withOutputs ps) (some g') = .ok hf' := by
  rw [having?_withOutputs]
  cases hq : q.having with
  | nil =>
      refine ⟨none, ?_⟩
      simp [having?, hq, pure_eq_ok]
  | cons term terms =>
      obtain rfl : terms = [] := by
        have hle := gs.having_le
        rw [hq, List.length_cons] at hle
        exact List.length_eq_zero_iff.1 (by omega)
      obtain ⟨kind, k, y, hkind, hk, hy, hdesc⟩ := gs.describes_having hq
      obtain ⟨kind', k', y', hkind', hk', hy', hdesc'⟩ := gs'.describes_having hq
      cases hkind.symm.trans hkind'
      rw [gs.key_eq gs'] at hdesc'
      have hsame : g'.schema.type? k' = g.schema.type? k := by
        rw [Schema.type?, gs'.column?_eq, hy', Schema.type?, gs.column?_eq, hy]
        exact congrArg some (hdesc.alike hdesc').type_eq
      simp only [having?, hq, List.head?_cons, hk, bind_eq_ok, pure_eq_ok] at h
      obtain ⟨hf, hterm, -⟩ := h
      obtain ⟨hside, -, hstorage, hcheck⟩ := HavingFilter.ofTerm_eq_ok hterm
      obtain ⟨hf', hterm'⟩ : ∃ hf', HavingFilter.ofTerm term k' g'.schema = .ok hf' := by
        refine ⟨{ hf with column := k' }, bind_eq_ok.2 ⟨_, hside, ?_⟩⟩
        simp only [hsame, hstorage]
        exact bind_eq_ok.2 ⟨(), hcheck, rfl⟩
      refine ⟨some hf', ?_⟩
      simp only [having?, hq, List.head?_cons, hk', bind_eq_ok, pure_eq_ok]
      exact ⟨hf', hterm', rfl⟩

/-- A query with groups has a program if all parts of that can be made. -/
theorem exists_program_of_groups {table : Catalog.Table} {stored output out : Schema}
    {access : Access} {rs : List Record} {t : Routines} {hf : Option HavingFilter} {a : Assembly}
    {columns : List OutputColumn} (htables : q.tables = [table]) (hq : q.isGrouped = true)
    (haccess : Gives (Access.ofQuery q) access rs) (hstored : ofTable table = .ok stored)
    (houtput : ofProjections stored q.projections = .ok output)
    (hgroups : Gathers (Grouping.ofQuery q stored output) .empty (g, out) t)
    (hhaving : having? q (some g) = .ok hf)
    (hoperators : operators table.name stored access (some g) hf = .ok a)
    (hcolumns : groupedOutput out g = .ok columns) : ∃ p, (ofQuery q).run.value = .ok p := by
  have hgrouping : Gathers (grouping? q stored output) .empty (some g, out) t := by
    unfold grouping?
    rw [if_pos hq]
    exact gathers_bind.2 ⟨(g, out), t, hgroups, gathers_pure.2 ⟨rfl, rfl⟩⟩
  obtain ⟨p, s', hfinish⟩ : ∃ p s', Gathers (a.finish {
      projections := q.projections, output := out, access, grouping := some g, having := hf })
      t p s' := by
    unfold Assembly.finish
    simp only [gathers_bind, gathers_lift, gathers_get, gathers_pure]
    exact ⟨_, _, columns, t, ⟨hcolumns, rfl⟩, _, _, ⟨rfl, rfl⟩, rfl, rfl⟩
  have hassemble : Gathers (assemble q access) .empty p s' := by
    unfold assemble
    rw [htables, List.head?_cons]
    simp only [gathers_bind, gathers_lift, Prod.exists]
    exact ⟨stored, _, ⟨hstored, rfl⟩, output, _, ⟨houtput, rfl⟩, some g, out, t, hgrouping, hf, _,
      ⟨hhaving, rfl⟩, a, _, ⟨hoperators, rfl⟩, hfinish⟩
  refine ⟨p, ?_⟩
  rw [ofQuery_value_eq, build, value_bind_of_ok (gives_iff.1 haccess).1]
  exact congrArg Prod.fst hassemble

/-- **Aliases do not decide whether a query has a program.** -/
theorem exists_program (h : SameOutputs q.projections ps)
    (hp : (ofQuery q).run.value = .ok p) :
    ∃ p', (ofQuery (q.withOutputs ps)).run.value = .ok p' := by
  cases hq : q.isGrouped with
  | false => exact ⟨p, by rw [ofQuery_withOutputs h hq, hp]⟩
  | true =>
      obtain ⟨st⟩ := stages_of_ofQuery hp
      obtain ⟨g, hg⟩ := Option.isSome_iff_exists.1 (st.isSome_grouping.trans hq)
      obtain ⟨hgather, -⟩ := st.grouping_gathers_some hg
      obtain ⟨gs⟩ := stages_of_grouping hgather
      obtain ⟨g', out', t, hgather'⟩ := exists_grouping h hgather
      obtain ⟨gs'⟩ := stages_of_grouping hgather'
      obtain ⟨hf', hhaving⟩ := exists_having gs gs' (hg ▸ st.having_eq)
      obtain ⟨a', ha'⟩ := exists_operators st.operators_eq (some g') hf'
      have houtput := (ofProjections_eq h st.stored).trans st.output_eq
      have hlen : out'.length = (q.withOutputs ps).projections.length := by
        rw [gs'.out_eq, length_retyped]
        exact length_ofProjections houtput
      obtain ⟨columns, hcolumns⟩ : ∃ columns, groupedOutput out' g' = .ok columns := by
        have hensures := ensures_groupedOutput (E := fun _ => False) gs'.sound hlen
        cases hcolumns : groupedOutput out' g' with
        | ok columns => exact ⟨columns, rfl⟩
        | error e => exact (hensures.2 e hcolumns).elim
      exact exists_program_of_groups st.tables_eq hq st.access_gives st.stored_eq houtput hgather'
        hhaving ha' hcolumns

/-- **With groups, aliases change neither what is printed nor the condition.** -/
theorem printAlike {p' : Program} (h : SameOutputs q.projections ps) (hq : q.isGrouped = true)
    (hp : (ofQuery q).run.value = .ok p) (hp' : (ofQuery (q.withOutputs ps)).run.value = .ok p') :
    p.PrintAlike q.projections p' := by
  obtain ⟨st⟩ := stages_of_ofQuery hp
  obtain ⟨st'⟩ := stages_of_ofQuery hp'
  obtain ⟨g, hg⟩ := Option.isSome_iff_exists.1 (st.isSome_grouping.trans hq)
  obtain ⟨g', hg'⟩ := Option.isSome_iff_exists.1 (st'.isSome_grouping.trans hq)
  obtain ⟨gs⟩ := stages_of_grouping (st.grouping_gathers_some hg).1
  obtain ⟨gs'⟩ := stages_of_grouping (st'.grouping_gathers_some hg').1
  have hkey := gs.key_eq gs'
  have hstored : st'.stored = st.stored := by
    have htable : st.table = st'.table :=
      List.head_eq_of_cons_eq (st.tables_eq.symm.trans st'.tables_eq)
    have hsame := st.stored_eq
    rw [htable, st'.stored_eq] at hsame
    exact Except.ok.inj hsame
  -- two values of a group that were made for one thing
  have halike : ∀ {kind k k' y y'}, Describes st.stored gs.key k kind y →
      Describes st'.stored gs'.key k' kind y' → y.Alike y' := by
    intro kind k k' y y' hy hy'
    rw [hkey, hstored] at hy'
    exact hy.alike hy'
  refine ⟨⟨st.length_output, st'.length_output.trans h.length_eq⟩,
    fun i x hx => ?_, ?_⟩
  · rcases h.at i with ⟨hnone, -⟩ | ⟨x₁, x', kind, hx₁, hx', hname, hasks, hasks'⟩
    · rw [hx] at hnone
      cases hnone
    · cases hx.symm.trans hx₁
      obtain ⟨c, k, y, hc, hcname, hctype, hreads, hy⟩ := st.prints_asked hg gs hx hasks
      obtain ⟨c', k', y', hc', hcname', hctype', hreads', hy'⟩ :=
        st'.prints_asked hg' gs' hx' hasks'
      have hyy := halike hy hy'
      exact ⟨c, c', y, y', hc, hc', hcname, hcname'.trans hname,
        by rw [hctype', hctype, hyy.type_eq], hreads, hreads', hyy⟩
  · rcases gs.having with ⟨hnil, -⟩ | ⟨t, -, ht, -⟩
    · exact .inl ⟨st.having_nil hnil, st'.having_nil hnil⟩
    · obtain ⟨hf, kind, k, y, hkind, hside, hcompares, hy⟩ := st.compares_asked hg gs ht
      obtain ⟨hf', kind', k', y', hkind', hside', hcompares', hy'⟩ :=
        st'.compares_asked hg' gs' ht
      cases hkind.symm.trans hkind'
      have hsides := Except.ok.inj (hside'.symm.trans hside)
      rw [Prod.mk.injEq] at hsides
      exact .inr ⟨hf, hf', y, y', hcompares, hcompares', hsides.1, hsides.2, halike hy hy'⟩

end

end Plan

/-! ### Without aliases -/

namespace Query

/-- What is computed, with an alias replaced by what it repeats. -/
def Kind.expand (ps : List Projection) : Kind → Kind
  | .aliasOf target => (ps[target]?.map Projection.kind).getD (.aliasOf target)
  | kind => kind

/-- The query with each alias replaced by what it repeats. -/
def Resolved.expanded (q : Resolved) : Resolved :=
  q.withOutputs (q.projections.map fun x => { x with kind := x.kind.expand q.projections })

variable {ps : List Projection}

theorem AliasesEarlier.asks_expand (h : AliasesEarlier (ps.map Projection.kind)) {i : Nat}
    {x : Projection} (hx : ps[i]? = some x) : x.Asks ps (x.kind.expand ps) := by
  cases hkind : x.kind with
  | aliasOf target =>
      obtain ⟨-, y, hy, hnot⟩ := h.target hx hkind
      have hexpand : Kind.expand ps (.aliasOf target) = y.kind := by
        rw [Kind.expand, hy]
        rfl
      rw [hexpand]
      exact ⟨hnot, .inr ⟨target, y, hkind, hy, rfl⟩⟩
  | _ => exact ⟨rfl, .inl hkind⟩

/-- The query without aliases asks for the same. -/
theorem sameOutputs_expanded {q : Resolved} (h : AliasesEarlier q.outputs) :
    SameOutputs q.projections q.expanded.projections := by
  have hexpanded : ∀ {i : Nat} {x' : Projection}, q.expanded.projections[i]? = some x' →
      ∃ x, q.projections[i]? = some x ∧ x' = { x with kind := x.kind.expand q.projections } := by
    intro i x' hx'
    rw [Resolved.expanded, Resolved.projections_withOutputs, List.getElem?_map,
      Option.map_eq_some_iff] at hx'
    obtain ⟨x, hx, heq⟩ := hx'
    exact ⟨x, hx, heq.symm⟩
  refine ⟨?_, h, fun i target hi => ?_, fun i x x' hx hx' => ?_⟩
  · rw [Resolved.expanded, Resolved.projections_withOutputs, List.map_map]
    rfl
  · -- there is no alias left
    rw [List.getElem?_map, Option.map_eq_some_iff] at hi
    obtain ⟨x', hx', hkind⟩ := hi
    obtain ⟨x, hx, rfl⟩ := hexpanded hx'
    have hnot := (h.asks_expand hx).1
    dsimp only at hkind
    rw [hkind] at hnot
    cases hnot
  · obtain ⟨x₁, hx₁, rfl⟩ := hexpanded hx'
    cases hx.symm.trans hx₁
    have hasks := h.asks_expand hx
    exact ⟨_, hasks, hasks.1, .inl rfl⟩

end Query

namespace Plan

/-- **Aliases are not seen from outside.**  The query with each alias replaced by what it repeats
has a program exactly when the query has one; without groups it is the same, and with groups it
prints the same columns, from values of a group that are alike. -/
theorem expanded_program {q : Resolved} (h : AliasesEarlier q.outputs) :
    ((∃ p, (ofQuery q).run.value = .ok p) ↔ ∃ p, (ofQuery q.expanded).run.value = .ok p) ∧
      (q.isGrouped = false → ofQuery q.expanded = ofQuery q) ∧
      (q.isGrouped = true → ∀ p p', (ofQuery q).run.value = .ok p →
        (ofQuery q.expanded).run.value = .ok p' → p.PrintAlike q.projections p') := by
  have hsame := sameOutputs_expanded h
  refine ⟨⟨?_, ?_⟩, fun hq => ofQuery_withOutputs hsame hq, fun hq p p' hp hp' => ?_⟩
  · rintro ⟨p, hp⟩
    exact exists_program hsame hp
  · rintro ⟨p, hp⟩
    have hback : q.expanded.withOutputs q.projections = q := rfl
    rw [← hback]
    exact exists_program hsame.symm hp
  · exact printAlike hsame hq hp hp'

theorem expanded_program_tripsByDistance :
    AliasesEarlier tripsByDistance.outputs ∧ tripsByDistance.isGrouped = true ∧
      ∃ p p', (ofQuery tripsByDistance).run.value = .ok p ∧
        (ofQuery tripsByDistance.expanded).run.value = .ok p' ∧
        (p.grouping.map fun g => g.descriptors.map fun x => x.output.offset)
          = some [0, 4, 8, 16] ∧
        (p'.grouping.map fun g => g.descriptors.map fun x => x.output.offset)
          = some [0, 4, 8, 12, 20] ∧
        p.PrintAlike tripsByDistance.projections p' := by
  have haliases : AliasesEarlier tripsByDistance.outputs := by
    intro i target hi
    rcases i with _ | _ | _ | i
    · cases hi
    · cases hi
    · cases hi
      exact ⟨by decide, _, rfl, rfl⟩
    · rcases i with _ | i <;> cases hi
  obtain ⟨p, hp, hoffsets⟩ : ∃ p, (ofQuery tripsByDistance).run.value = .ok p ∧
      (p.grouping.map fun g => g.descriptors.map fun x => x.output.offset)
        = some [0, 4, 8, 16] := by
    rw [ofQuery, build, access_tripsByDistance, Access.ofFilters,
      Access.candidates_of_pairwise (by decide)]
    exact ⟨_, rfl, rfl⟩
  obtain ⟨p', hp', hoffsets'⟩ : ∃ p', (ofQuery tripsByDistance.expanded).run.value = .ok p' ∧
      (p'.grouping.map fun g => g.descriptors.map fun x => x.output.offset)
        = some [0, 4, 8, 12, 20] := by
    have haccess : Access.ofQuery tripsByDistance.expanded
        = Access.ofFilters tripsByDistance.hints [] := rfl
    rw [ofQuery, build, haccess, Access.ofFilters, Access.candidates_of_pairwise (by decide)]
    exact ⟨_, rfl, rfl⟩
  exact ⟨haliases, rfl, p, p', hp, hp', hoffsets, hoffsets',
    (expanded_program haliases).2.2 rfl p p' hp hp'⟩

end Plan

end SqlPipeline
