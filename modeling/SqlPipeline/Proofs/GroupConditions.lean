/-
**The condition on groups filters the value that it names.**

A condition on groups compares a value of the group with a literal, in either order.  The value is
found by one function and the literal by another, and both have to look at the same side; the
comparison of the program always has the value on its left.  The number of the value comes from a
search in the list of values, where aliases take no place, so that it is not the number of an output
column.  Here the condition of a program is compared with that of its query.

Main definitions:

* `Query.HavingTerm.truth?` — whether a condition holds of groups with a given value;
* `Plan.Descriptor.Computes` — a value of a group is what is asked for;
* `Plan.Grouping.Places` — a value stands where the output columns put it, or after all of theirs;
* `Plan.HavingFilter.Renders` — the condition of a program is that of its query.

Main results:

* `Plan.truth?_eq_holds` — the comparison holds of a value exactly when the condition does;
* `Plan.GroupDraft.numbered_foldlM` — the value of an output column is numbered by those before it;
* `Plan.GroupStages.places_having` — the value of the condition stands where it should;
* `Plan.filtered_groups` — **the condition on groups filters the value that it names**.
-/

import SqlPipeline.Proofs.Aliases
import SqlPipeline.Proofs.Truth

set_option autoImplicit false

namespace SqlPipeline

open Journal Layout Query Outcome

/-! ### Conditions -/

namespace Query

/-- The value of a side of a condition on groups, with `x` for the value of the group. -/
def HavingOperand.value? (x : Literal) : HavingOperand → Option Literal
  | projected _ => some x
  | literal l => some l
  | expression _ => none

/-- Whether a condition on groups holds as it is written, with `x` for the value of the group. -/
def HavingTerm.truth? (x : Literal) : HavingTerm → Option Bool
  | comparison op left right => do return Literal.compared op (← left.value? x) (← right.value? x)
  | unsupported _ => none

/-- A condition compares a value of the group with a literal, on whichever side they stand. -/
inductive HavingTerm.Compares (kind : Kind) (l : Literal) : HavingTerm → Prop
  | valueFirst (op : Comparator) : Compares kind l (.comparison op (.projected kind) (.literal l))
  | literalFirst (op : Comparator) : Compares kind l (.comparison op (.literal l) (.projected kind))

end Query

namespace Plan

/-- Whether the condition of a program holds of a value. -/
def HavingFilter.holds (hf : HavingFilter) (x : Literal) : Bool :=
  Literal.compared hf.op x hf.literal

section

variable {t : HavingTerm} {op : Comparator} {l : Literal} {kind : Kind}

/-- The value and the literal are taken from the two sides of one condition. -/
theorem compares_of_havingComparison (h : havingComparison t = .ok (op, l))
    (hkind : havingKind t = .ok kind) : t.Compares kind l := by
  unfold havingComparison at h
  split at h
  · cases h
    cases hkind
    exact .valueFirst _
  · cases h
    cases hkind
    exact .literalFirst _
  · cases h
  · cases h

/-- **The comparison holds of a value exactly when the condition does.**  With the literal on the
left, the sides of the condition are exchanged. -/
theorem truth?_eq_holds {hf : HavingFilter} (h : havingComparison t = .ok (hf.op, hf.literal))
    (x : Literal) : t.truth? x = some (hf.holds x) := by
  unfold havingComparison at h
  split at h
  · next op' kind' l' =>
      obtain ⟨rfl, rfl⟩ := Prod.mk.inj (Except.ok.inj h)
      rfl
  · next op' l' kind' =>
      obtain ⟨hop, rfl⟩ := Prod.mk.inj (Except.ok.inj h)
      have hflip : hf.holds x = Literal.compared op' hf.literal x := by
        rw [HavingFilter.holds, ← hop, Literal.compared_flip]
      rw [hflip]
      rfl
  · cases h
  · cases h

theorem Storable.cases {storage : Storage} (h : Storable storage l) :
    (∃ v, l = .integer v) ∨ ∃ d, l = .decimal d ∧ (storage = .float ∨ storage = .double) := by
  cases l with
  | integer v => exact .inl ⟨v, rfl⟩
  | decimal d =>
      have hfloat : storage.isFloat = true := h
      refine .inr ⟨d, rfl, ?_⟩
      cases storage <;> simp [Storage.isFloat] at hfloat ⊢
  | text s => exact h.elim

end

/-! ### The value of a condition -/

/-- A value of a group is what is asked for: a function of the group, of its column and stored as
the type of that says, or the value of what records are grouped by, computed by a routine that has
the formula of that with the type and the place of its column. -/
inductive Descriptor.Computes (q : Resolved) (stored : Schema) (rs : Routines) :
    Kind → Descriptor → Prop
  | aggregate {call : AggregateCall} {x : Descriptor} (kind_eq : x.kind = .aggregate call.function)
      (sourceColumn_eq : x.sourceColumn = call.column)
      (sourceType_eq : x.sourceType = call.column.bind stored.type?)
      (type : outputType call.function x.sourceType = .ok x.output.type) :
      Computes q stored rs (.aggregate call) x
  | groupValue {kind : Kind} {e key : Scalar} {f : Formula} {n : Nat} {source : Column}
      {x : Descriptor} {name : String} (scalar : kind.scalar? = some e)
      (groupBy_eq : q.groupBy = [key]) (same : (key == e) = true) (formula : Translates key f)
      (column : f.column? = some n) (source_eq : stored.column? n = some source)
      (kind_eq : x.kind = .groupValue) (sourceColumn_eq : x.sourceColumn = some n)
      (sourceType_eq : x.sourceType = some source.type) (compute : x.compute = some name)
      (routine : rs.named? name = some
        (.groupValue name f source.type source.offset x.output.type)) :
      Computes q stored rs kind x

section

variable {q : Resolved} {stored output out : Schema} {g : Grouping} {s s' : Routines}
  {kind : Kind} {k : Nat} {x : Descriptor}

theorem GroupStages.computes (st : GroupStages q stored output s g out s')
    (hs : ∀ r ∈ s.list, ∃ f, r = .math f) (hx : g.descriptors[k]? = some x)
    (h : Describes stored st.key k kind x) : x.Computes q stored s' kind := by
  obtain ⟨hinst, -⟩ := st.installed hs
  have hcarries := hinst.carries k x (by rw [← st.descriptors_eq, hx])
  cases h with
  | aggregate source type => exact .aggregate rfl rfl (sourceType_eq source) type
  | groupValue scalar key_eq same source_eq type =>
      obtain ⟨key', source', hkey', hsource', hnamed⟩ := hcarries rfl
      cases key_eq.symm.trans hkey'
      cases source_eq.symm.trans hsource'
      obtain ⟨hgroup, htrans, hcolumn, -⟩ := st.key_eq_some key_eq source_eq
      exact .groupValue scalar hgroup same htrans hcolumn source_eq rfl rfl rfl rfl hnamed

end

/-! ### Where it stands -/

/-- The number of values that output columns have: an alias has none of its own. -/
def valueCount (ps : List Projection) : Nat :=
  (ps.filter fun p => !p.kind.isAlias).length

/-- A value stands where it is asked for: it is that of the first output column that asks for it,
or it stands after the values of all output columns and none of them reads it. -/
inductive Grouping.Places (q : Resolved) (g : Grouping) (kind : Kind) (column : Nat) : Prop
  | shared {i : Nat} {p : Projection} (asked : q.projections[i]? = some p)
      (same : (p.kind == kind) = true)
      (first : ∀ (j : Nat) p', j < i → q.projections[j]? = some p' → (p'.kind == kind) = false)
      (column_eq : g.projectionColumns[i]? = some column)
      (length_eq : g.descriptors.length = valueCount q.projections)
  | added (unasked : ∀ p ∈ q.projections, (p.kind == kind) = false)
      (column_eq : column = valueCount q.projections)
      (length_eq : g.descriptors.length = column + 1)
      (unread : ∀ k ∈ g.projectionColumns, k < column)

namespace GroupDraft

/-- The value of an output column that is no alias is numbered by the values before it. -/
def Numbered (done : List Projection) (d : GroupDraft) : Prop :=
  ∀ (i : Nat) p, done[i]? = some p → p.kind.isAlias = false →
    d.columns[i]? = some (valueCount (done.take i))

section

variable {stored : Schema} {key : Option GroupKey} {d d' : GroupDraft} {p : Projection}
  {done ps : List Projection} {s s' : Routines}

theorem Plans.length_kinds (h : d.Plans done) : d.kinds.length = valueCount done := by
  rw [h.kinds_eq, List.filter_map, List.length_map]
  rfl

/-- What is done keeps its numbers when the number of one more output column is added. -/
theorem Numbered.concat (hplans : d.Plans done) (hnum : d.Numbered done) {index : Nat}
    (hindex : p.kind.isAlias = false → index = valueCount done)
    (hcolumns : d'.columns = d.columns ++ [index]) : d'.Numbered (done ++ [p]) := by
  intro i p' hp hnot
  rw [hcolumns]
  rcases getElem?_concat_cases hp with hp' | ⟨rfl, rfl⟩
  · have hlt : i < done.length := (List.getElem?_eq_some_iff.1 hp').1
    have hlt' : i < d.columns.length := by
      rw [hplans.columns_length]
      exact hlt
    rw [List.getElem?_append_left hlt', List.take_append_of_le_length hlt.le]
    exact hnum i p' hp' hnot
  · rw [List.take_left, ← hplans.columns_length, List.getElem?_concat_length, hindex hnot]

/-- One more output column is numbered by the values before it. -/
theorem numbered_add (h : Gathers (GroupDraft.add stored key d p) s d' s')
    (hin : d.InStep stored key) (hplans : d.Plans done) (hnum : d.Numbered done) :
    d'.Numbered (done ++ [p]) := by
  rcases add_gathers h with ⟨target, index, hkind, -, rfl, -⟩ | ⟨-, x, -, rfl⟩
  · refine hnum.concat hplans (fun hnot => ?_) rfl
    rw [hkind] at hnot
    cases hnot
  · refine hnum.concat hplans (fun _ => ?_) rfl
    rw [hin.length_eq, hplans.length_kinds]

/-- **The value of an output column is numbered by those before it.** -/
theorem numbered_foldlM (h : Gathers (ps.foldlM (GroupDraft.add stored key) {}) s d s') :
    d.Numbered ps := by
  refine (gathers_foldlM (I := fun done d _ => (d.InStep stored key ∧ d.Plans done) ∧
    d.Numbered done) h ⟨⟨inStep_empty, plans_empty⟩, ?_⟩ ?_).2
  · intro i p hp
    simp at hp
  · rintro done p d s d' s' ⟨⟨hin, hplans⟩, hnum⟩ hadd
    exact ⟨plans_add hadd hin hplans, numbered_add hadd hin hplans hnum⟩

end

end GroupDraft

section

variable {ps : List Projection} {kind : Kind}

/-- The first output column that asks for a value is the first one with a value that does. -/
theorem findIdx?_kinds (hnot : kind.isAlias = false) {i : Nat} {p : Projection}
    (hp : ps[i]? = some p) (hsame : (p.kind == kind) = true)
    (hfirst : ∀ (j : Nat) p', j < i → ps[j]? = some p' → (p'.kind == kind) = false) :
    ((ps.map Projection.kind).filter fun kind => !kind.isAlias).findIdx? (· == kind)
      = some (valueCount (ps.take i)) := by
  induction ps generalizing i with
  | nil => simp at hp
  | cons y ys ih =>
      cases i with
      | zero =>
          obtain rfl : y = p := by simpa using hp
          have hy : y.kind.isAlias = false := (Kind.isAlias_of_beq hsame).trans hnot
          simp [hy, List.findIdx?_cons, hsame, valueCount]
      | succ i =>
          have hy : (y.kind == kind) = false := hfirst 0 y (Nat.succ_pos i) rfl
          have hys := ih (i := i) hp fun j p' hj hp' => hfirst (j + 1) p' (Nat.succ_lt_succ hj) hp'
          -- an alias takes no place among the values
          cases ha : y.kind.isAlias with
          | true => simpa [ha, valueCount] using hys
          | false =>
              have hcount : valueCount (y :: ys.take i) = valueCount (ys.take i) + 1 := by
                simp [valueCount, ha]
              rw [List.map_cons, List.filter_cons_of_pos (by simp [ha]), List.findIdx?_cons, hy,
                hys, List.take_succ_cons, hcount]
              rfl

theorem findIdx?_kinds_eq_none (h : ∀ p ∈ ps, (p.kind == kind) = false) :
    ((ps.map Projection.kind).filter fun kind => !kind.isAlias).findIdx? (· == kind) = none := by
  rw [List.findIdx?_eq_none_iff]
  intro kind' hkind'
  obtain ⟨p, hp, rfl⟩ := List.mem_map.1 (List.mem_filter.1 hkind').1
  exact h p hp

end

section

variable {q : Resolved} {p : Program} {stored output out : Schema} {g : Grouping}
  {s s' : Routines} {t : HavingTerm} {kind : Kind} {k : Nat}

/-- **The value of the condition stands where it should.** -/
theorem GroupStages.places_having (st : GroupStages q stored output s g out s')
    (ht : q.having = [t]) (hkind : havingKind t = .ok kind) (hk : g.havingColumn = some k)
    (hnot : kind.isAlias = false) : g.Places q kind k := by
  obtain ⟨hin, hplans, -⟩ := st.inStep_final
  obtain ⟨hcolumns, -⟩ := st.draft_prefix
  have hcount : st.draft.descriptors.length = valueCount q.projections := by
    rw [hin.length_eq, hplans.length_kinds]
  rcases st.having with ⟨hnil, -⟩ | ⟨t', index, ht', hindex, hh⟩
  · rw [ht] at hnil
    cases hnil
  · cases ht.symm.trans ht'
    cases hk.symm.trans hindex
    obtain ⟨kind', hkind', hcases⟩ := GroupDraft.addHaving_gathers hh
    cases hkind.symm.trans hkind'
    rw [hplans.kinds_eq] at hcases
    cases hfind : q.projections.findIdx? (fun p => p.kind == kind) with
    | some i =>
        obtain ⟨hlt, hsame, hfirst⟩ := List.findIdx?_eq_some_iff_getElem.1 hfind
        have hasked : q.projections[i]? = some q.projections[i] := List.getElem?_eq_getElem hlt
        have hfirst' : ∀ (j : Nat) p', j < i → q.projections[j]? = some p' →
            (p'.kind == kind) = false := by
          intro j p' hj hp'
          obtain ⟨hlt', rfl⟩ := List.getElem?_eq_some_iff.1 hp'
          simpa using hfirst j hj
        rw [findIdx?_kinds hnot hasked hsame hfirst'] at hcases
        rcases hcases with ⟨hcolumn, hfinal, -⟩ | ⟨hnone, -⟩
        · refine .shared hasked hsame hfirst' ?_ ?_
          · rw [hcolumns, GroupDraft.numbered_foldlM st.draft_gathers i _ hasked
              ((Kind.isAlias_of_beq hsame).trans hnot), hcolumn]
          · rw [st.descriptors_eq, hfinal, hcount]
        · cases hnone
    | none =>
        have hunasked : ∀ p ∈ q.projections, (p.kind == kind) = false := by
          intro p hp
          simpa using List.findIdx?_eq_none_iff.1 hfind p hp
        rw [findIdx?_kinds_eq_none hunasked] at hcases
        rcases hcases with ⟨hsome, -⟩ | ⟨-, hlast, x, -, hfinal⟩
        · cases hsome
        · refine .added hunasked (hlast.trans hcount) ?_ ?_
          · rw [st.descriptors_eq, hfinal, GroupDraft.push, List.length_append, hlast]
            rfl
          · rw [hcolumns, hlast, hin.length_eq]
            exact hplans.columns_lt

/-- The condition of a program is that of its query.  It reads a value that is what the condition
compares and stands where it should, holds of the same values, and has the type of its value, with
which its literal can be compared. -/
structure HavingFilter.Renders (q : Resolved) (stored : Schema) (g : Grouping) (rs : Routines)
    (t : HavingTerm) (kind : Kind) (hf : HavingFilter) : Prop where
  compares : t.Compares kind hf.literal
  truth : ∀ x, t.truth? x = some (hf.holds x)
  value : ∃ x, g.descriptors[hf.column]? = some x ∧ x.Computes q stored rs kind
  place : g.Places q kind hf.column
  storage_eq : g.schema.type? hf.column = some hf.storage
  literal : (∃ v, hf.literal = .integer v) ∨
    ∃ d, hf.literal = .decimal d ∧ (hf.storage = .float ∨ hf.storage = .double)

/-- **The condition on groups filters the value that it names.**  A query with conditions on groups
that has a program has exactly one. -/
theorem filtered_groups (hp : (ofQuery q).run.value = .ok p) (hq : q.having ≠ []) :
    ∃ table stored g t kind hf, q.tables = [table] ∧ ofTable table = .ok stored ∧
      q.having = [t] ∧ p.grouping = some g ∧ p.having = some hf ∧
      hf.Renders q stored g p.routines t kind := by
  obtain ⟨st⟩ := stages_of_ofQuery hp
  obtain ⟨g, hg⟩ : ∃ g, p.grouping = some g := by
    rcases grouping?_gathers st.grouping_gathers with ⟨-, g, hg, -⟩ | ⟨-, -, hnil, -⟩
    · exact ⟨g, hg⟩
    · exact absurd hnil hq
  obtain ⟨hgather, -⟩ := st.grouping_gathers_some hg
  obtain ⟨gs⟩ := stages_of_grouping hgather
  obtain ⟨t, ht⟩ : ∃ t, q.having = [t] := by
    rcases gs.having with ⟨hnil, -⟩ | ⟨t, -, ht, -⟩
    · exact absurd hnil hq
    · exact ⟨t, ht⟩
  obtain ⟨kind, k, x, hkind, hk, hx, hdesc⟩ := gs.describes_having ht
  obtain ⟨hf, hhaving, hterm⟩ := st.having_some hg ht hk
  obtain ⟨hside, rfl, hstorage, hcheck⟩ := HavingFilter.ofTerm_eq_ok hterm
  refine ⟨st.table, st.stored, g, t, kind, hf, st.tables_eq, st.stored_eq, ht, hg, hhaving, ?_⟩
  exact {
    compares := compares_of_havingComparison hside hkind
    truth := truth?_eq_holds hside
    value := ⟨x, hx, gs.computes nofun hx hdesc⟩
    place := gs.places_having ht hkind hk hdesc.not_alias
    storage_eq := hstorage
    literal := (storable_of_check hcheck).cases }

theorem filtered_groups_tripsByDistance :
    ∃ p, (ofQuery tripsByDistance).run.value = .ok p ∧
      p.having = some ⟨3, .gt, .integer 5, .float⟩ ∧
      ∃ table stored g t kind hf, tripsByDistance.tables = [table] ∧ ofTable table = .ok stored ∧
        tripsByDistance.having = [t] ∧ p.grouping = some g ∧ p.having = some hf ∧
        hf.Renders tripsByDistance stored g p.routines t kind := by
  obtain ⟨p, hp, hhaving⟩ : ∃ p, (ofQuery tripsByDistance).run.value = .ok p ∧
      p.having = some ⟨3, .gt, .integer 5, .float⟩ := by
    rw [ofQuery, build, access_tripsByDistance, Access.ofFilters,
      Access.candidates_of_pairwise (by decide)]
    exact ⟨_, rfl, rfl⟩
  exact ⟨p, hp, hhaving, filtered_groups hp (List.cons_ne_nil _ _)⟩

end

end Plan

end SqlPipeline
