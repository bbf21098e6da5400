/-
**Groups compute what the output columns ask for.**

The planner of groups goes along the output columns and lets four lists grow: the values of a
group, what each of them computes, their layout, and the value that each output column reads.  An
alias adds to the last of these only, and a condition on groups may add to the first three.  The
routines that compute values are collected on the way, by name.  Here it is said what the lists
have to do with each other after any number of output columns, and that the routines hold what the
values refer to.

Main definitions:

* `Plan.Routines.named?` — the routine of a name;
* `Plan.Describes` — a value of a group is what an output column asks for;
* `Plan.GroupDraft.Plans` — the four lists fit the output columns that are done;
* `Plan.GroupDraft.Installed` — the routines that the values refer to are there.

Main results:

* `Plan.GroupDraft.add_gathers` — all that one more output column can do;
* `Plan.grouping_computes` — **groups compute what the output columns ask for**.
-/

import Mathlib
import SqlPipeline.Plan.Grouping
import SqlPipeline.Proofs.Outcome

set_option autoImplicit false

namespace SqlPipeline

open Layout Query Outcome

/-- The expression that an output column computes from a record, if it is neither a function of
the group nor an alias. -/
def Query.Kind.scalar? : Kind → Option Scalar
  | .column n => some (.column n)
  | .arithmetic e => some e
  | _ => none

theorem Query.Kind.isAlias_of_scalar? {kind : Kind} {e : Scalar} (h : kind.scalar? = some e) :
    kind.isAlias = false := by
  cases kind with
  | aliasOf target => cases h
  | _ => rfl

namespace Plan

/-! ### Routines by name -/

/-- The routine of a name. -/
def Routines.named? (rs : Routines) (name : String) : Option Routine :=
  rs.list.find? fun r => r.name == name

namespace Routines

theorem contains_eq_isSome (rs : Routines) (name : String) :
    rs.contains name = (rs.named? name).isSome := by
  rw [contains, named?, List.isSome_find?]

/-- A routine is found under its name unless another has the name already. -/
theorem named?_register (rs : Routines) (r : Routine) (name : String) :
    (rs.register r).named? name
      = (rs.named? name).or (if r.name = name then some r else none) := by
  unfold register
  split
  · next h =>
      rw [contains_eq_isSome] at h
      split
      · next hname =>
          subst hname
          obtain ⟨r', hr'⟩ := Option.isSome_iff_exists.1 h
          rw [hr', Option.some_or]
      · rw [Option.or_none]
  · simp only [named?, List.find?_append, List.find?_cons, List.find?_nil]
    split <;> simp_all

theorem named?_register_of_ne (rs : Routines) {r : Routine} {name : String} (h : r.name ≠ name) :
    (rs.register r).named? name = rs.named? name := by
  rw [named?_register, if_neg h, Option.or_none]

theorem named?_register_of_none {rs : Routines} {r : Routine} (h : rs.named? r.name = none) :
    (rs.register r).named? r.name = some r := by
  rw [named?_register, h, if_pos rfl, Option.none_or]

end Routines

/-- The name of the routine that computes the value of a group with the given number. -/
def computeName (index : Nat) : String :=
  "customAggregateFunc" ++ toString index

theorem computeName_inj {i j : Nat} (h : computeName i = computeName j) : i = j :=
  Nat.repr_injective ((String.append_right_inj _).1 h)

theorem ne_computeName {name : String} (h : name.toList[1]? ≠ some 'u') (i : Nat) :
    name ≠ computeName i := by
  rintro rfl
  have hu : "customAggregateFunc".toList[1]? = some 'u' := by simp
  have hlt : 1 < "customAggregateFunc".toList.length := by simp
  unfold computeName at h
  rw [String.toList_append, List.getElem?_append_left hlt, hu] at h
  exact h rfl

theorem groupTestName_ne_computeName : ∀ i, groupTestName ≠ computeName i :=
  ne_computeName (by decide)

theorem routineName_ne_computeName (f : MathFunction) : ∀ i, f.routineName ≠ computeName i :=
  ne_computeName (by cases f <;> decide)

theorem routineName_ne_groupTestName (f : MathFunction) : f.routineName ≠ groupTestName := by
  cases f <;> decide

/-! ### Formulas -/

/-- A formula is found whatever routines there are. -/
def Translates (e : Scalar) (f : Formula) : Prop :=
  ∀ s, ∃ s', Gathers (formulaOf e) s f s'

theorem formulaNode_gathers {e : Scalar} {f : Formula} {s s' : Routines}
    (h : Gathers (formulaNode e) s f s') :
    (∀ t, ∃ t', Gathers (formulaNode e) t f t') ∧
      ∀ name, (∀ g : MathFunction, g.routineName ≠ name) → s'.named? name = s.named? name := by
  induction e generalizing f s s' with
  | column n =>
      obtain ⟨rfl, rfl⟩ := gathers_pure.1 h
      exact ⟨fun t => ⟨t, gathers_pure.2 ⟨rfl, rfl⟩⟩, fun _ _ => rfl⟩
  | literal l =>
      cases l with
      | text t => exact absurd h not_gathers_throw
      | _ =>
          obtain ⟨rfl, rfl⟩ := gathers_pure.1 h
          exact ⟨fun t => ⟨t, gathers_pure.2 ⟨rfl, rfl⟩⟩, fun _ _ => rfl⟩
  | apply name arg ih =>
      unfold formulaNode at h ⊢
      cases hf : MathFunction.ofName? name with
      | none =>
          rw [hf] at h
          exact absurd h not_gathers_throw
      | some g =>
          simp only [hf, gathers_bind, gathers_need, gathers_pure] at h ⊢
          obtain ⟨_, _, rfl, a, _, ha, rfl, rfl⟩ := h
          obtain ⟨hany, hkeep⟩ := ih ha
          refine ⟨fun t => ?_, fun name hname => ?_⟩
          · obtain ⟨t', ht'⟩ := hany (t.register (.math g))
            exact ⟨t', (), _, rfl, a, t', ht', rfl, rfl⟩
          · rw [hkeep name hname]
            exact Routines.named?_register_of_ne s (hname g)
  | binary op l r ihl ihr =>
      unfold formulaNode at h ⊢
      cases ho : FormulaOp.ofArith? op with
      | none =>
          rw [ho] at h
          exact absurd h not_gathers_throw
      | some o =>
          simp only [ho, gathers_bind, gathers_pure] at h ⊢
          obtain ⟨a, t₁, ha, b, t₂, hb, rfl, rfl⟩ := h
          obtain ⟨hanyl, hkeepl⟩ := ihl ha
          obtain ⟨hanyr, hkeepr⟩ := ihr hb
          refine ⟨fun t => ?_, fun name hname => ?_⟩
          · obtain ⟨t', ht'⟩ := hanyl t
            obtain ⟨t'', ht''⟩ := hanyr t'
            exact ⟨t'', a, t', ht', b, t'', ht'', rfl, rfl⟩
          · rw [hkeepr name hname, hkeepl name hname]

/-- Finding a formula adds functions of one number to the routines, and no others. -/
theorem formulaOf_gathers {e : Scalar} {f : Formula} {s s' : Routines}
    (h : Gathers (formulaOf e) s f s') :
    Translates e f ∧
      ∀ name, (∀ g : MathFunction, g.routineName ≠ name) → s'.named? name = s.named? name := by
  unfold formulaOf at h
  simp only [gathers_bind] at h
  obtain ⟨f', t, hnode, h⟩ := h
  split at h
  · obtain ⟨_, _, hthrow, -⟩ := gathers_bind.1 h
    exact absurd hthrow not_gathers_throw
  · next hlen =>
      obtain ⟨rfl, rfl⟩ := gathers_pure.1 h
      obtain ⟨hany, hkeep⟩ := formulaNode_gathers hnode
      refine ⟨fun t => ?_, hkeep⟩
      obtain ⟨t', ht'⟩ := hany t
      refine ⟨t', ?_⟩
      unfold formulaOf
      refine gathers_bind.2 ⟨f', t', ht', ?_⟩
      rw [if_neg hlen]
      exact gathers_pure.2 ⟨rfl, rfl⟩

/-! ### Values of a group -/

/-- The value of a group with the given number is what an output column asks for: a function of
the group with its column and the type of that, or the value of what records are grouped by. -/
inductive Describes (stored : Schema) (key : Option GroupKey) (index : Nat) :
    Kind → Descriptor → Prop where
  | aggregate {call : AggregateCall} {sourceType : Option Storage} {output : Column}
      (source : call.column.mapM stored.typeAt = .ok sourceType)
      (type : outputType call.function sourceType = .ok output.type) :
      Describes stored key index (.aggregate call) {
        kind := .aggregate call.function
        sourceColumn := call.column
        sourceType, output
        holder := holderStem call.function ++ toString index }
  | groupValue {kind : Kind} {e : Scalar} {k : GroupKey} {source output : Column}
      (scalar : kind.scalar? = some e) (key_eq : key = some k) (same : (k.scalar == e) = true)
      (source_eq : stored.column? k.column = some source)
      (type : groupValueType k source = .ok output.type) :
      Describes stored key index kind {
        kind := .groupValue
        sourceColumn := some k.column
        sourceType := some source.type
        output
        holder := "group" ++ toString index
        compute := some (computeName index) }

theorem Describes.not_alias {stored : Schema} {key : Option GroupKey} {index : Nat} {kind : Kind}
    {x : Descriptor} (h : Describes stored key index kind x) : kind.isAlias = false := by
  cases h with
  | aggregate source type => rfl
  | groupValue scalar key_eq same source_eq type => exact Kind.isAlias_of_scalar? scalar

/-- The routine that a value of a group refers to computes the formula of what records are grouped
by, from its column. -/
def Carries (stored : Schema) (key : Option GroupKey) (s : Routines) (index : Nat)
    (x : Descriptor) : Prop :=
  x.kind = .groupValue → ∃ k source, key = some k ∧ stored.column? k.column = some source ∧
    s.named? (computeName index) = some
      (.groupValue (computeName index) k.formula source.type source.offset x.output.type)

theorem columnAt_eq_ok {stored : Schema} {n : Nat} {c : Column} :
    stored.columnAt n = .ok c ↔ stored.column? n = some c := by
  unfold Schema.columnAt
  cases stored.column? n <;> simp

theorem typeAt_eq_ok {stored : Schema} {n : Nat} {t : Storage} :
    stored.typeAt n = .ok t ↔ stored.type? n = some t := by
  simp only [Schema.typeAt, bind_eq_ok, pure_eq_ok, columnAt_eq_ok, Schema.type?,
    Option.map_eq_some_iff]

/-- One more value of a group is described by what it was made for, stands at the end of the
layout, and has its routine, if the name of that was free. -/
def Adds (stored schema : Schema) (key : Option GroupKey) (kind : Kind) (name : String)
    (index : Nat) (s : Routines) (x : Descriptor) (s' : Routines) : Prop :=
  Describes stored key index kind x ∧ x.output = schema.next name x.output.type ∧
    (s.named? (computeName index) = none → Carries stored key s' index x) ∧
    ∀ other, computeName index ≠ other → s'.named? other = s.named? other

section

variable {stored schema : Schema} {key : Option GroupKey} {kind : Kind} {name : String}
  {index : Nat} {s s' : Routines} {x : Descriptor}

theorem groupDescriptor_gathers {e : Scalar} (hscalar : kind.scalar? = some e)
    (h : Gathers (groupDescriptor stored key e name index schema) s x s') :
    Adds stored schema key kind name index s x s' := by
  unfold groupDescriptor at h
  split at h
  · exact absurd h not_gathers_throw
  · next k hk =>
      obtain ⟨hkey, hsame⟩ := Option.filter_eq_some_iff.1 hk
      simp only [lastColumn_eq, gathers_bind, gathers_lift, gathers_need, gathers_pure] at h
      obtain ⟨source, _, ⟨hsource, rfl⟩, type, _, ⟨htype, rfl⟩, _, _, rfl, _, _, ⟨⟨⟩, rfl⟩, rfl,
        rfl⟩ := h
      rw [columnAt_eq_ok] at hsource
      refine ⟨.groupValue hscalar hkey hsame hsource htype, rfl, fun hfree _ => ?_, ?_⟩
      · exact ⟨k, source, hkey, hsource, Routines.named?_register_of_none hfree⟩
      · exact fun other hne => Routines.named?_register_of_ne _ hne

theorem descriptorOf_gathers
    (h : Gathers (descriptorOf stored key kind name index schema) s x s') :
    Adds stored schema key kind name index s x s' := by
  cases kind with
  | aggregate call =>
      -- a function of the group leaves the routines as they are
      unfold descriptorOf aggregateDescriptor at h
      simp only [lastColumn_eq, gathers_lift, bind_eq_ok, pure_eq_ok] at h
      obtain ⟨⟨sourceType, hsource, type, htype, _, ⟨⟩, rfl⟩, rfl⟩ := h
      exact ⟨.aggregate hsource htype, rfl, fun _ => nofun, fun _ _ => rfl⟩
  | column n => exact groupDescriptor_gathers rfl h
  | arithmetic e => exact groupDescriptor_gathers rfl h
  | aliasOf target => exact absurd h not_gathers_throw

end

/-! ### Along the output columns -/

/-- All that one more output column can do: an alias reads the value of its target, and any other
one adds a value at the end. -/
theorem GroupDraft.add_gathers {stored : Schema} {key : Option GroupKey} {d d' : GroupDraft}
    {p : Projection} {s s' : Routines} (h : Gathers (GroupDraft.add stored key d p) s d' s') :
    (∃ target index, p.kind = .aliasOf target ∧ d.columns[target]? = some index ∧
      d' = { d with columns := d.columns ++ [index] } ∧ s' = s) ∨
    (p.kind.isAlias = false ∧ ∃ x,
      Gathers (descriptorOf stored key p.kind p.name d.descriptors.length d.schema) s x s' ∧
      d' = { d.push p.kind x with columns := d.columns ++ [d.descriptors.length] }) := by
  unfold GroupDraft.add at h
  split at h
  · next target hkind =>
      split at h
      · next index hindex =>
          obtain ⟨rfl, rfl⟩ := gathers_pure.1 h
          exact .inl ⟨target, index, hkind, hindex, rfl, rfl⟩
      · exact absurd h not_gathers_throw
  · next kind hkind =>
      simp only [gathers_bind, gathers_pure] at h
      obtain ⟨x, _, hx, rfl, rfl⟩ := h
      refine .inr ⟨?_, x, hx, rfl⟩
      cases hk : p.kind with
      | aliasOf target => exact absurd hk (hkind target)
      | _ => rfl

/-- The values, what they compute, and their layout are in step. -/
structure GroupDraft.InStep (stored : Schema) (key : Option GroupKey) (d : GroupDraft) : Prop where
  length_eq : d.descriptors.length = d.kinds.length
  described : ∀ (i : Nat) kind x, d.kinds[i]? = some kind → d.descriptors[i]? = some x →
    Describes stored key i kind x
  schema_eq : d.schema.columns = d.descriptors.map Descriptor.output

/-- The values fit the output columns that are done: each of these has a value, an alias that of
its target, and the others values of their own, in order. -/
structure GroupDraft.Plans (done : List Projection) (d : GroupDraft) : Prop where
  kinds_eq : d.kinds = (done.map Projection.kind).filter fun kind => !kind.isAlias
  columns_length : d.columns.length = done.length
  columns_lt : ∀ k ∈ d.columns, k < d.kinds.length
  aliased : ∀ (i : Nat) p target, done[i]? = some p → p.kind = .aliasOf target →
    d.columns[i]? = d.columns[target]?
  placed : ∀ (i : Nat) p, done[i]? = some p → p.kind.isAlias = false →
    ∃ k, d.columns[i]? = some k ∧ d.kinds[k]? = some p.kind
  apart : ∀ (i j : Nat) p p', done[i]? = some p → done[j]? = some p' →
    p.kind.isAlias = false → p'.kind.isAlias = false → d.columns[i]? = d.columns[j]? → i = j

/-- The routines that the values refer to are there, and the names of later ones are free. -/
structure GroupDraft.Installed (stored : Schema) (key : Option GroupKey) (d : GroupDraft)
    (s : Routines) : Prop where
  carries : ∀ (i : Nat) x, d.descriptors[i]? = some x → Carries stored key s i x
  free : ∀ i, d.descriptors.length ≤ i → s.named? (computeName i) = none

/-- An element of a list with one more at the end is one of the list, or the last. -/
theorem getElem?_concat_cases {α : Type} {xs : List α} {x y : α} {i : Nat}
    (h : (xs ++ [x])[i]? = some y) : xs[i]? = some y ∨ i = xs.length ∧ y = x := by
  rcases Nat.lt_or_ge i xs.length with hlt | hge
  · rw [List.getElem?_append_left hlt] at h
    exact .inl h
  · have hi : i = xs.length := by
      have := (List.getElem?_eq_some_iff.1 h).1
      rw [List.length_append, List.length_singleton] at this
      omega
    subst hi
    rw [List.getElem?_concat_length] at h
    exact .inr ⟨rfl, (Option.some.inj h).symm⟩

namespace GroupDraft

section

variable {stored : Schema} {key : Option GroupKey} {d : GroupDraft} {kind : Kind} {name : String}
  {s s' : Routines} {x : Descriptor}

theorem InStep.push (h : d.InStep stored key)
    (hx : Adds stored d.schema key kind name d.descriptors.length s x s') :
    (d.push kind x).InStep stored key := by
  obtain ⟨hdesc, hout, -, -⟩ := hx
  refine ⟨?_, fun i kind' x' hk hx' => ?_, ?_⟩
  · simp [GroupDraft.push, h.length_eq]
  · -- an earlier value goes with an earlier kind, and the last with the last
    rcases getElem?_concat_cases hk with hk₁ | ⟨rfl, rfl⟩
    · have hlt := (List.getElem?_eq_some_iff.1 hk₁).1
      rcases getElem?_concat_cases hx' with hx₁ | ⟨hi, -⟩
      · exact h.described i kind' x' hk₁ hx₁
      · have := h.length_eq
        omega
    · rcases getElem?_concat_cases hx' with hx₁ | ⟨-, rfl⟩
      · have hlt := (List.getElem?_eq_some_iff.1 hx₁).1
        have := h.length_eq
        omega
      · rw [← h.length_eq]
        exact hdesc
  · have : d.schema.next x.output.name x.output.type = x.output := by
      rw [hout]
      rfl
    rw [GroupDraft.push, Schema.columns_push, this, h.schema_eq, List.map_append]
    rfl

theorem Installed.push (h : d.Installed stored key s)
    (hx : Adds stored d.schema key kind name d.descriptors.length s x s') :
    (d.push kind x).Installed stored key s' := by
  obtain ⟨-, -, hcarries, hkeep⟩ := hx
  refine ⟨fun i x' hx' => ?_, fun i hi => ?_⟩
  · rcases getElem?_concat_cases hx' with hx' | ⟨rfl, rfl⟩
    · -- the routine of an earlier value has another name
      have hlt := (List.getElem?_eq_some_iff.1 hx').1
      intro hkind
      obtain ⟨k, source, hk, hsource, hnamed⟩ := h.carries i x' hx' hkind
      refine ⟨k, source, hk, hsource, ?_⟩
      rw [hkeep _ fun heq => ?_, hnamed]
      have := computeName_inj heq
      omega
    · exact hcarries (h.free _ le_rfl)
  · rw [GroupDraft.push, List.length_append, List.length_singleton] at hi
    rw [hkeep _ fun heq => ?_]
    · exact h.free i (by omega)
    · have := computeName_inj heq
      omega

end

section

variable {done : List Projection} {d : GroupDraft} {p : Projection}

theorem Plans.exists_column (h : d.Plans done) {i : Nat} (hi : done[i]? = some p) :
    ∃ k, d.columns[i]? = some k ∧ k < d.kinds.length := by
  have hlt : i < d.columns.length := by
    rw [h.columns_length]
    exact (List.getElem?_eq_some_iff.1 hi).1
  exact ⟨d.columns[i], List.getElem?_eq_getElem hlt, h.columns_lt _ (List.getElem_mem hlt)⟩

variable {d' : GroupDraft} {index : Nat}

/-- One more output column reads the value with the number `index`: an alias reads the value of its
target, and any other one a new value at the end. -/
structure Extends (p : Projection) (index : Nat) (d d' : GroupDraft) : Prop where
  columns_eq : d'.columns = d.columns ++ [index]
  kinds_eq : d'.kinds = d.kinds ++ [p.kind].filter fun kind => !kind.isAlias
  target : ∀ target, p.kind = .aliasOf target → d.columns[target]? = some index
  own : p.kind.isAlias = false → index = d.kinds.length

namespace Extends

theorem column (e : Extends p index d d') {i k : Nat} (hi : d.columns[i]? = some k) :
    d'.columns[i]? = some k := by
  rw [e.columns_eq, List.getElem?_append_left (List.getElem?_eq_some_iff.1 hi).1, hi]

theorem kind (e : Extends p index d d') {k : Nat} {kind : Kind} (hk : d.kinds[k]? = some kind) :
    d'.kinds[k]? = some kind := by
  rw [e.kinds_eq, List.getElem?_append_left (List.getElem?_eq_some_iff.1 hk).1, hk]

theorem column_last (e : Extends p index d d') (h : d.Plans done) :
    d'.columns[done.length]? = some index := by
  rw [e.columns_eq, ← h.columns_length, List.getElem?_concat_length]

theorem kind_last (e : Extends p index d d') (ha : p.kind.isAlias = false) :
    d'.kinds[index]? = some p.kind := by
  have hkinds : d'.kinds = d.kinds ++ [p.kind] := by
    simp [e.kinds_eq, ha]
  rw [hkinds, e.own ha, List.getElem?_concat_length]

theorem index_lt (e : Extends p index d d') (h : d.Plans done) : index < d'.kinds.length := by
  cases hkind : p.kind with
  | aliasOf target =>
      have hlt := h.columns_lt index (List.mem_of_getElem? (e.target target hkind))
      rw [e.kinds_eq, List.length_append]
      omega
  | _ => exact (List.getElem?_eq_some_iff.1 (e.kind_last (by rw [hkind]; rfl))).1

/-- A new value has a number that no earlier output column reads. -/
theorem column_ne (e : Extends p index d d') (h : d.Plans done) (ha : p.kind.isAlias = false)
    {i : Nat} {p' : Projection} (hi : done[i]? = some p') : d'.columns[i]? ≠ some index := by
  intro hc
  obtain ⟨k, hk, hlt⟩ := h.exists_column hi
  rw [e.column hk, Option.some.injEq] at hc
  have := e.own ha
  omega

end Extends

/-- The values still fit after one more output column. -/
theorem Plans.concat (h : d.Plans done) (e : Extends p index d d') : d'.Plans (done ++ [p]) := by
  refine ⟨?_, ?_, ?_, ?_, ?_, ?_⟩
  · rw [e.kinds_eq, h.kinds_eq, List.map_append, List.filter_append]
    rfl
  · rw [e.columns_eq, List.length_append, List.length_append, h.columns_length]
    rfl
  · intro k hk
    rw [e.columns_eq] at hk
    rcases List.mem_append.1 hk with hk | hk
    · have := h.columns_lt k hk
      rw [e.kinds_eq, List.length_append]
      omega
    · cases List.mem_singleton.1 hk
      exact e.index_lt h
  · intro i p' target hp hkind
    rcases getElem?_concat_cases hp with hp' | ⟨rfl, rfl⟩
    · obtain ⟨k, hk, -⟩ := h.exists_column hp'
      have htarget : d.columns[target]? = some k := (h.aliased i p' target hp' hkind) ▸ hk
      rw [e.column hk, e.column htarget]
    · rw [e.column_last h, e.column (e.target target hkind)]
  · intro i p' hp ha
    rcases getElem?_concat_cases hp with hp' | ⟨rfl, rfl⟩
    · obtain ⟨k, hk, hkind⟩ := h.placed i p' hp' ha
      exact ⟨k, e.column hk, e.kind hkind⟩
    · exact ⟨index, e.column_last h, e.kind_last ha⟩
  · intro i j p₁ p₂ hp₁ hp₂ ha₁ ha₂ heq
    rcases getElem?_concat_cases hp₁ with hp₁' | ⟨rfl, rfl⟩
    · obtain ⟨k₁, hk₁, -⟩ := h.exists_column hp₁'
      rcases getElem?_concat_cases hp₂ with hp₂' | ⟨rfl, rfl⟩
      · obtain ⟨k₂, hk₂, -⟩ := h.exists_column hp₂'
        rw [e.column hk₁, e.column hk₂] at heq
        exact h.apart i j p₁ p₂ hp₁' hp₂' ha₁ ha₂ (by rw [hk₁, hk₂, heq])
      · -- the new value has a number of its own
        rw [e.column_last h] at heq
        exact absurd heq (e.column_ne h ha₂ hp₁')
    · rcases getElem?_concat_cases hp₂ with hp₂' | ⟨rfl, -⟩
      · rw [e.column_last h] at heq
        exact absurd heq.symm (e.column_ne h ha₁ hp₂')
      · rfl

end

/-! ### Runs -/

section

variable {stored : Schema} {key : Option GroupKey} {d d' : GroupDraft} {p : Projection}
  {done : List Projection} {s s' : Routines}

/-- One more output column keeps the lists in step. -/
theorem plans_add (h : Gathers (GroupDraft.add stored key d p) s d' s')
    (hin : d.InStep stored key) (hplans : d.Plans done) :
    d'.InStep stored key ∧ d'.Plans (done ++ [p]) := by
  rcases add_gathers h with ⟨target, index, hkind, hindex, rfl, -⟩ | ⟨ha, x, hx, rfl⟩
  · have e : Extends p index d { d with columns := d.columns ++ [index] } := by
      refine ⟨rfl, ?_, fun t ht => ?_, fun ha => ?_⟩
      · simp [hkind, Kind.isAlias]
      · rw [hkind, Kind.aliasOf.injEq] at ht
        rw [← ht, hindex]
      · rw [hkind] at ha
        cases ha
    exact ⟨⟨hin.length_eq, hin.described, hin.schema_eq⟩, hplans.concat e⟩
  · have hpush := hin.push (descriptorOf_gathers hx)
    have e : Extends p d.descriptors.length d
        { d.push p.kind x with columns := d.columns ++ [d.descriptors.length] } := by
      refine ⟨rfl, ?_, fun t ht => ?_, fun _ => hin.length_eq⟩
      · simp [GroupDraft.push, ha]
      · rw [ht] at ha
        cases ha
    exact ⟨⟨hpush.length_eq, hpush.described, hpush.schema_eq⟩, hplans.concat e⟩

/-- One more output column keeps the routines that values refer to. -/
theorem installed_add (h : Gathers (GroupDraft.add stored key d p) s d' s')
    (hinst : d.Installed stored key s) :
    d'.Installed stored key s' ∧ s'.named? groupTestName = s.named? groupTestName := by
  rcases add_gathers h with ⟨target, index, -, -, rfl, rfl⟩ | ⟨-, x, hx, rfl⟩
  · exact ⟨⟨hinst.carries, hinst.free⟩, rfl⟩
  · have hadds := descriptorOf_gathers hx
    have hpush := hinst.push hadds
    obtain ⟨-, -, -, hkeep⟩ := hadds
    exact ⟨⟨hpush.carries, hpush.free⟩, hkeep _ (groupTestName_ne_computeName _).symm⟩

theorem inStep_empty : ({} : GroupDraft).InStep stored key := by
  refine ⟨rfl, fun i kind x hkind _ => ?_, rfl⟩
  simp at hkind

theorem plans_empty : ({} : GroupDraft).Plans [] := by
  refine ⟨rfl, rfl, ?_, ?_, ?_, ?_⟩ <;> simp

variable {ps : List Projection}

/-- The values fit all output columns. -/
theorem plans_foldlM (h : Gathers (ps.foldlM (GroupDraft.add stored key) {}) s d s') :
    d.InStep stored key ∧ d.Plans ps :=
  gathers_foldlM (I := fun done d _ => d.InStep stored key ∧ d.Plans done) h
    ⟨inStep_empty, plans_empty⟩ fun _ _ _ _ _ _ hd hadd => plans_add hadd hd.1 hd.2

/-- The routines that the values refer to are there after all output columns, if their names were
free before. -/
theorem installed_foldlM (h : Gathers (ps.foldlM (GroupDraft.add stored key) {}) s d s')
    (hfree : ∀ i, s.named? (computeName i) = none) :
    d.Installed stored key s' ∧ s'.named? groupTestName = s.named? groupTestName := by
  refine gathers_foldlM (I := fun _ d t => d.Installed stored key t ∧
    t.named? groupTestName = s.named? groupTestName) h ?_ ?_
  · refine ⟨⟨fun i x hx => ?_, fun i _ => hfree i⟩, rfl⟩
    simp at hx
  · rintro done p d t d' t' ⟨hinst, htest⟩ hadd
    obtain ⟨hinst', htest'⟩ := installed_add hadd hinst
    exact ⟨hinst', htest'.trans htest⟩

/-! ### The condition on groups -/

/-- All that a condition on groups can do: its value is one of those that output columns read, or it
is added at the end. -/
theorem addHaving_gathers {t : HavingTerm} {index : Nat}
    (h : Gathers (d.addHaving stored key t) s (d', index) s') :
    ∃ kind, havingKind t = .ok kind ∧
      ((d.kinds.findIdx? (· == kind) = some index ∧ d' = d ∧ s' = s) ∨
      (d.kinds.findIdx? (· == kind) = none ∧ index = d.descriptors.length ∧ ∃ x,
        Gathers (descriptorOf stored key kind "having" d.descriptors.length d.schema) s x s' ∧
        d' = d.push kind x)) := by
  unfold GroupDraft.addHaving at h
  simp only [gathers_bind, gathers_lift] at h
  obtain ⟨kind, _, ⟨hkind, rfl⟩, h⟩ := h
  refine ⟨kind, hkind, ?_⟩
  split at h
  · next index' hfind =>
      rw [gathers_pure] at h
      obtain ⟨heq, rfl⟩ := h
      cases heq
      exact .inl ⟨hfind, rfl, rfl⟩
  · next hfind =>
      simp only [gathers_bind, gathers_pure] at h
      obtain ⟨x, _, hx, heq, rfl⟩ := h
      cases heq
      exact .inr ⟨hfind, rfl, x, hx, rfl⟩

end

end GroupDraft

/-! ### Groups of a query -/

section

variable {q : Resolved} {stored output out : Schema} {g : Grouping} {s s' : Routines}

theorem groupKey?_gathers {key : Option GroupKey} (h : Gathers (groupKey? q) s key s') :
    (q.groupBy = [] ∧ key = none ∧ s' = s) ∨
    ∃ e es f n, q.groupBy = e :: es ∧ Gathers (formulaOf e) s f s' ∧ f.column? = some n ∧
      key = some ⟨e, f, n⟩ := by
  unfold groupKey? at h
  cases hg : q.groupBy with
  | nil =>
      rw [hg] at h
      obtain ⟨rfl, rfl⟩ := gathers_pure.1 h
      exact .inl ⟨rfl, rfl, rfl⟩
  | cons e es =>
      rw [hg] at h
      simp only [List.head?_cons, gathers_bind] at h
      obtain ⟨f, _, hf, h⟩ := h
      split at h
      · next n hn =>
          obtain ⟨rfl, rfl⟩ := gathers_pure.1 h
          exact .inr ⟨e, es, f, n, rfl, hf, hn, rfl⟩
      · exact absurd h not_gathers_throw

/-- The values between a query and its groups. -/
structure GroupStages (q : Resolved) (stored output : Schema) (s : Routines) (g : Grouping)
    (out : Schema) (s' : Routines) where
  groupBy_le : q.groupBy.length ≤ 1
  having_le : q.having.length ≤ 1
  /-- What records are grouped by, and the routines with those of its formula. -/
  key : Option GroupKey
  keyed : Routines
  key_gathers : Gathers (groupKey? q) s key keyed
  test_eq : groupTest stored key = .ok g.test
  /-- The values of the output columns. -/
  draft : GroupDraft
  drafted : Routines
  draft_gathers : Gathers (q.projections.foldlM (GroupDraft.add stored key) {})
    (keyed.register (.groupTest g.test)) draft drafted
  /-- The values with that of the condition. -/
  final : GroupDraft
  having : (q.having = [] ∧ g.havingColumn = none ∧ final = draft ∧ s' = drafted) ∨
    ∃ t index, q.having = [t] ∧ g.havingColumn = some index ∧
      Gathers (draft.addHaving stored key t) drafted (final, index) s'
  descriptors_eq : g.descriptors = final.descriptors
  schema_eq : g.schema = final.schema
  columns_eq : g.projectionColumns = final.columns
  out_eq : out = retyped final.schema output final.columns

/-- The groups of a query come from their stages. -/
theorem stages_of_grouping (h : Gathers (Grouping.ofQuery q stored output) s (g, out) s') :
    Nonempty (GroupStages q stored output s g out s') := by
  unfold Grouping.ofQuery at h
  dsimp only at h
  split at h
  · obtain ⟨_, _, hthrow, -⟩ := gathers_bind.1 h
    exact absurd hthrow not_gathers_throw
  · next hgroups =>
      split at h
      · obtain ⟨_, _, hthrow, -⟩ := gathers_bind.1 h
        exact absurd hthrow not_gathers_throw
      · next hhavings =>
          simp only [gathers_bind, gathers_lift, gathers_need] at h
          obtain ⟨key, keyed, hkey, test, _, ⟨htest, rfl⟩, _, _, rfl, d, drafted, hd, h⟩ := h
          cases hq : q.having with
          | nil =>
              simp only [hq, List.head?_nil, gathers_bind, gathers_pure] at h
              obtain ⟨_, _, ⟨rfl, rfl⟩, heq, rfl⟩ := h
              cases heq
              exact ⟨{
                groupBy_le := by omega, having_le := by omega
                key, keyed := _, key_gathers := hkey, test_eq := htest
                draft := d, drafted := _, draft_gathers := hd
                final := d, having := .inl ⟨hq, rfl, rfl, rfl⟩
                descriptors_eq := rfl, schema_eq := rfl, columns_eq := rfl, out_eq := rfl }⟩
          | cons t ts =>
              simp only [hq, List.head?_cons, gathers_bind, gathers_pure] at h
              obtain ⟨⟨d', index⟩, _, hh, _, _, ⟨rfl, rfl⟩, heq, rfl⟩ := h
              cases heq
              have hts : q.having = [t] := by
                have hnil : ts = [] := by
                  rw [hq, List.length_cons] at hhavings
                  exact List.length_eq_zero_iff.1 (by omega)
                rw [hq, hnil]
              exact ⟨{
                groupBy_le := by omega, having_le := by omega
                key, keyed := _, key_gathers := hkey, test_eq := htest
                draft := d, drafted := _, draft_gathers := hd
                final := d', having := .inr ⟨t, index, hts, rfl, hh⟩
                descriptors_eq := rfl, schema_eq := rfl, columns_eq := rfl, out_eq := rfl }⟩

/-- The condition on groups may add a value at the end, and changes nothing else. -/
theorem GroupStages.final_cases (st : GroupStages q stored output s g out s') :
    (st.final = st.draft ∧ s' = st.drafted) ∨
    ∃ t kind x, q.having = [t] ∧ havingKind t = .ok kind ∧
      st.draft.kinds.findIdx? (· == kind) = none ∧ st.final = st.draft.push kind x ∧
      Gathers (descriptorOf stored st.key kind "having" st.draft.descriptors.length
        st.draft.schema) st.drafted x s' := by
  rcases st.having with ⟨-, -, hfinal, hs⟩ | ⟨t, index, ht, -, hh⟩
  · exact .inl ⟨hfinal, hs⟩
  · obtain ⟨kind, hkind, ⟨-, hfinal, hs⟩ | ⟨hnone, -, x, hx, hfinal⟩⟩ :=
      GroupDraft.addHaving_gathers hh
    · exact .inl ⟨hfinal, hs⟩
    · exact .inr ⟨t, kind, x, ht, hkind, hnone, hfinal, hx⟩

theorem GroupStages.inStep_final (st : GroupStages q stored output s g out s') :
    st.draft.InStep stored st.key ∧ st.draft.Plans q.projections ∧
      st.final.InStep stored st.key := by
  obtain ⟨hin, hplans⟩ := GroupDraft.plans_foldlM st.draft_gathers
  refine ⟨hin, hplans, ?_⟩
  rcases st.final_cases with ⟨hfinal, -⟩ | ⟨t, kind, x, -, -, -, hfinal, hx⟩
  · rw [hfinal]
    exact hin
  · rw [hfinal]
    exact hin.push (descriptorOf_gathers hx)

/-- What the output columns read is the same with the value of the condition. -/
theorem GroupStages.draft_prefix (st : GroupStages q stored output s g out s') :
    g.projectionColumns = st.draft.columns ∧ st.draft.kinds <+: st.final.kinds := by
  rw [st.columns_eq]
  rcases st.final_cases with ⟨hfinal, -⟩ | ⟨t, kind, x, -, -, -, hfinal, -⟩
  · rw [hfinal]
    exact ⟨rfl, List.prefix_rfl⟩
  · rw [hfinal]
    exact ⟨rfl, List.prefix_append _ _⟩

/-- The value that an output column reads is what it asks for. -/
theorem GroupStages.describes (st : GroupStages q stored output s g out s') {i : Nat}
    {p : Projection} (hp : q.projections[i]? = some p) (ha : p.kind.isAlias = false) :
    ∃ k x, g.projectionColumns[i]? = some k ∧ g.descriptors[k]? = some x ∧
      Describes stored st.key k p.kind x := by
  obtain ⟨-, hplans, hin⟩ := st.inStep_final
  obtain ⟨hcolumns, hprefix⟩ := st.draft_prefix
  obtain ⟨k, hk, hkind⟩ := hplans.placed i p hp ha
  have hkind' : st.final.kinds[k]? = some p.kind := by
    obtain ⟨rest, hrest⟩ := hprefix
    rw [← hrest, List.getElem?_append_left (List.getElem?_eq_some_iff.1 hkind).1, hkind]
  have hlt : k < st.final.descriptors.length := by
    rw [hin.length_eq]
    exact (List.getElem?_eq_some_iff.1 hkind').1
  refine ⟨k, st.final.descriptors[k], ?_, ?_, ?_⟩
  · rw [hcolumns, hk]
  · rw [st.descriptors_eq, List.getElem?_eq_getElem]
  · exact hin.described k p.kind _ hkind' (List.getElem?_eq_getElem hlt)

/-- The routines of the values and the test for groups are there. -/
theorem GroupStages.installed (st : GroupStages q stored output s g out s')
    (hs : ∀ r ∈ s.list, ∃ f, r = .math f) :
    st.final.Installed stored st.key s' ∧ s'.named? groupTestName = some (.groupTest g.test) := by
  -- before, only functions of one number were needed, and these have other names
  have hfree : ∀ name, (∀ f : MathFunction, f.routineName ≠ name) → s.named? name = none := by
    intro name hname
    rw [Routines.named?, List.find?_eq_none]
    intro r hr
    obtain ⟨f, rfl⟩ := hs r hr
    have hne : (Routine.math f).name ≠ name := hname f
    simpa using hne
  have hkeyed : ∀ name, (∀ f : MathFunction, f.routineName ≠ name) →
      st.keyed.named? name = none := by
    intro name hname
    rcases groupKey?_gathers st.key_gathers with ⟨-, -, hsame⟩ | ⟨e, es, f, n, -, hf, -, -⟩
    · rw [hsame]
      exact hfree name hname
    · rw [(formulaOf_gathers hf).2 name hname]
      exact hfree name hname
  have hcompute : ∀ i, (st.keyed.register (.groupTest g.test)).named? (computeName i) = none := by
    intro i
    have hne : (Routine.groupTest g.test).name ≠ computeName i := groupTestName_ne_computeName i
    rw [Routines.named?_register_of_ne _ hne]
    exact hkeyed _ fun f => routineName_ne_computeName f i
  have htest : (st.keyed.register (.groupTest g.test)).named? groupTestName
      = some (.groupTest g.test) :=
    Routines.named?_register_of_none (r := .groupTest g.test)
      (hkeyed _ routineName_ne_groupTestName)
  obtain ⟨hinst, hsame⟩ := GroupDraft.installed_foldlM st.draft_gathers hcompute
  rw [htest] at hsame
  rcases st.final_cases with ⟨hfinal, hs'⟩ | ⟨t, kind, x, -, -, -, hfinal, hx⟩
  · rw [← hs'] at hinst hsame
    rw [hfinal]
    exact ⟨hinst, hsame⟩
  · have hadds := descriptorOf_gathers hx
    rw [hfinal]
    refine ⟨hinst.push hadds, ?_⟩
    obtain ⟨-, -, -, hkeep⟩ := hadds
    rw [hkeep _ (groupTestName_ne_computeName _).symm, hsame]

/-- What records are grouped by is the one expression of the query, with its formula, and this is
what the test for groups compares. -/
theorem GroupStages.key_eq_some (st : GroupStages q stored output s g out s') {k : GroupKey}
    (hk : st.key = some k) {source : Column} (hsource : stored.column? k.column = some source) :
    q.groupBy = [k.scalar] ∧ Translates k.scalar k.formula ∧ k.formula.column? = some k.column ∧
      g.test = .expression k.formula source.type source.offset := by
  have htest := st.test_eq
  rw [hk, groupTest, bind_eq_ok] at htest
  obtain ⟨c, hc, hpure⟩ := htest
  obtain rfl : c = source := by
    rw [columnAt_eq_ok, hsource] at hc
    exact (Option.some.inj hc).symm
  rcases groupKey?_gathers st.key_gathers with ⟨-, hnone, -⟩ | ⟨e, es, f, n, hgroup, hf, hn, hkey⟩
  · rw [hk] at hnone
    cases hnone
  · rw [hk] at hkey
    cases hkey
    have hes : es = [] := by
      have := st.groupBy_le
      rw [hgroup, List.length_cons] at this
      exact List.length_eq_zero_iff.1 (by omega)
    rw [hgroup, hes]
    exact ⟨rfl, (formulaOf_gathers hf).1, hn, (pure_eq_ok.1 hpure).symm⟩

/-- Whether the condition on groups is about a value that no output column asks for. -/
def hidesHaving (q : Resolved) : Bool :=
  q.having.any fun t =>
    match havingKind t with
    | .ok kind => !(q.projections.any fun p => !p.kind.isAlias && p.kind == kind)
    | .error _ => false

/-- There is a value for each output column that is no alias, and one more for a condition about
another value. -/
theorem GroupStages.length_descriptors (st : GroupStages q stored output s g out s') :
    g.descriptors.length = (q.projections.filter fun p => !p.kind.isAlias).length
      + if hidesHaving q then 1 else 0 := by
  obtain ⟨hin, hplans, -⟩ := st.inStep_final
  have hdraft : st.draft.descriptors.length
      = (q.projections.filter fun p => !p.kind.isAlias).length := by
    rw [hin.length_eq, hplans.kinds_eq, List.filter_map, List.length_map]
    rfl
  have hany : ∀ kind, st.draft.kinds.any (· == kind)
      = q.projections.any fun p => !p.kind.isAlias && p.kind == kind := by
    intro kind
    rw [hplans.kinds_eq, List.any_filter, List.any_map]
    rfl
  rw [st.descriptors_eq, ← hdraft]
  rcases st.having with ⟨hq, -, hfinal, -⟩ | ⟨t, index, hq, -, hh⟩
  · simp [hidesHaving, hq, hfinal]
  · obtain ⟨kind, hkind, hcase⟩ := GroupDraft.addHaving_gathers hh
    have hhides : hidesHaving q = !(st.draft.kinds.findIdx? (· == kind)).isSome := by
      simp [hidesHaving, hq, hkind, List.findIdx?_isSome, hany]
    rcases hcase with ⟨hfind, hfinal, -⟩ | ⟨hfind, -, x, -, hfinal⟩
    · simp [hhides, hfind, hfinal]
    · simp [hhides, hfind, hfinal, GroupDraft.push]

/-- What groups have to do with the output columns of a query.  The routines are those after
planning. -/
structure Grouping.Computes (q : Resolved) (stored : Schema) (g : Grouping) (rs : Routines) :
    Prop where
  /-- Each output column reads a value. -/
  columns_length : g.projectionColumns.length = q.projections.length
  columns_lt : ∀ k ∈ g.projectionColumns, k < g.descriptors.length
  /-- An alias reads what its target reads. -/
  aliased : ∀ (i : Nat) p target, q.projections[i]? = some p → p.kind = .aliasOf target →
    g.projectionColumns[i]? = g.projectionColumns[target]?
  /-- Output columns that are no aliases read different values. -/
  apart : ∀ (i j : Nat) p p', q.projections[i]? = some p → q.projections[j]? = some p' →
    p.kind.isAlias = false → p'.kind.isAlias = false →
    g.projectionColumns[i]? = g.projectionColumns[j]? → i = j
  /-- A function of the group has its column, and the type of that in the table. -/
  aggregate : ∀ (i : Nat) p call, q.projections[i]? = some p → p.kind = .aggregate call →
    ∃ k x, g.projectionColumns[i]? = some k ∧ g.descriptors[k]? = some x ∧
      x.kind = .aggregate call.function ∧ x.sourceColumn = call.column ∧
      x.sourceType = call.column.bind stored.type?
  /-- Any other output column is what records are grouped by, and both the routine that computes
  it and the test for groups have its formula, with the type and the place of its column. -/
  groupValue : ∀ (i : Nat) p e, q.projections[i]? = some p → p.kind.scalar? = some e →
    ∃ key f n source k x name, q.groupBy = [key] ∧ (key == e) = true ∧ Translates key f ∧
      f.column? = some n ∧ stored.column? n = some source ∧
      g.projectionColumns[i]? = some k ∧ g.descriptors[k]? = some x ∧ x.kind = .groupValue ∧
      x.compute = some name ∧
      rs.named? name = some (.groupValue name f source.type source.offset x.output.type) ∧
      rs.named? groupTestName = some (.groupTest (.expression f source.type source.offset))
  /-- There is one more value exactly for a condition about a value that no output column asks
  for. -/
  descriptors_length : g.descriptors.length
    = (q.projections.filter fun p => !p.kind.isAlias).length + if hidesHaving q then 1 else 0

theorem sourceType_eq {column : Option Nat} {sourceType : Option Storage}
    (h : column.mapM stored.typeAt = .ok sourceType) : sourceType = column.bind stored.type? := by
  cases column with
  | none =>
      cases h
      rfl
  | some n =>
      rw [Option.mapM_some, map_eq_ok] at h
      obtain ⟨t, ht, rfl⟩ := h
      exact (typeAt_eq_ok.1 ht).symm

/-- Trips, with their distance and their fare. -/
def trips : Catalog.Table where
  name := "trips"
  columns := [⟨"id", .int32⟩, ⟨"km", .int32⟩, ⟨"fare", .int64⟩]
  primaryKey := some 0

/-- Trips by tens of kilometres, in an order where an alias stands between functions of the group,
with a condition on a value that is not printed. -/
def tripsByDistance : Resolved :=
  { Resolved.ofTable trips with
    aggregated := true
    groupBy := [.apply "floor" (.binary .div (.column 1) (.literal (.integer 10)))]
    having := [.comparison .lt (.literal (.integer 5)) (.projected (.aggregate ⟨.avg, some 2⟩))]
    projections := [
      { name := "n", kind := .aggregate ⟨.count, none⟩ },
      { name := "tens", kind :=
          .arithmetic (.apply "floor" (.binary .div (.column 1) (.literal (.integer 10)))) },
      { name := "m", kind := .aliasOf 0 },
      { name := "top", kind := .aggregate ⟨.max, some 2⟩ }] }

/-- The layout of trips. -/
def storedTrips : Schema :=
  ((Schema.empty.push "id" .uint32).push "km" .int32).push "fare" .int64

/-- The layout of what is printed of trips by distance. -/
def printedTrips : Schema :=
  (((Schema.empty.push "n" .uint32).push "tens" .int32).push "m" .uint32).push "top" .int64

/-- **Groups compute what the output columns of a query ask for.**  Before, at most functions of one
number were needed as routines. -/
theorem grouping_computes (h : Gathers (Grouping.ofQuery q stored output) s (g, out) s')
    (hs : ∀ r ∈ s.list, ∃ f, r = .math f) : g.Computes q stored s' := by
  obtain ⟨st⟩ := stages_of_grouping h
  obtain ⟨hindraft, hplans, hin⟩ := st.inStep_final
  obtain ⟨hcolumns, hprefix⟩ := st.draft_prefix
  obtain ⟨hinst, htest⟩ := st.installed hs
  refine ⟨?_, ?_, ?_, ?_, ?_, ?_, st.length_descriptors⟩
  · rw [hcolumns, hplans.columns_length]
  · intro k hk
    rw [hcolumns] at hk
    have := hplans.columns_lt k hk
    have := hprefix.length_le
    rw [st.descriptors_eq, hin.length_eq]
    omega
  · rw [hcolumns]
    exact hplans.aliased
  · rw [hcolumns]
    exact hplans.apart
  · intro i p call hp hkind
    obtain ⟨k, x, hk, hx, hdesc⟩ := st.describes hp (by rw [hkind]; rfl)
    rw [hkind] at hdesc
    cases hdesc with
    | aggregate source type => exact ⟨k, _, hk, hx, rfl, rfl, sourceType_eq source⟩
    | groupValue scalar => cases scalar
  · intro i p e hp hscalar
    obtain ⟨k, x, hk, hx, hdesc⟩ := st.describes hp (Kind.isAlias_of_scalar? hscalar)
    have hfinal : st.final.descriptors[k]? = some x := by rw [← st.descriptors_eq, hx]
    generalize p.kind = kind at hdesc hscalar
    cases hdesc with
    | aggregate => cases hscalar
    | @groupValue _ e' gk source output hscalar' hkey hsame hsource htype =>
        obtain rfl : e' = e := Option.some.inj (hscalar'.symm.trans hscalar)
        -- the test and the routine are about one key and one column
        obtain ⟨hgroup, htrans, hcolumn, htest'⟩ := st.key_eq_some hkey hsource
        obtain ⟨gk', source', hkey', hsource', hnamed⟩ := hinst.carries k _ hfinal rfl
        obtain rfl : gk = gk' := Option.some.inj (hkey.symm.trans hkey')
        obtain rfl : source = source' := Option.some.inj (hsource.symm.trans hsource')
        rw [htest'] at htest
        exact ⟨_, _, _, source, k, _, _, hgroup, hsame, htrans, hcolumn, hsource, hk, hx, rfl, rfl,
          hnamed, htest⟩

theorem grouping_computes_tripsByDistance :
    ofTable trips = .ok storedTrips ∧
      ∃ g out rs, Gathers (Grouping.ofQuery tripsByDistance storedTrips printedTrips) .empty
        (g, out) rs ∧ g.Computes tripsByDistance storedTrips rs := by
  obtain ⟨g, out, rs, h⟩ : ∃ g out rs,
      Gathers (Grouping.ofQuery tripsByDistance storedTrips printedTrips) .empty (g, out) rs :=
    ⟨_, _, _, rfl⟩
  refine ⟨rfl, g, out, rs, h, grouping_computes h ?_⟩
  intro r hr
  cases hr

end

end Plan

end SqlPipeline
