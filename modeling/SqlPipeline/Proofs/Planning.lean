/-
**Planning a well-formed query breaks no promise but one.**

The steps of planning rely on each other: a bound has a column, an alias a target, a value of a
group a place in the layout.  Where a promise is broken they fail with an internal fault.  Here
each step is shown to keep its promises to the next one, if the query is well formed.  One internal
fault is left: the generated program computes an expression from one value, and an expression with
several columns is refused as if it could not occur.

Main definitions:

* `Query.Resolved.Allows` — the faults that planning a query may have;
* `Plan.Access.Bounded` — the bounds of an access have columns, and these are columns of the table;
* `Plan.Program.Printable` — a program that can be printed.

Main results:

* `Plan.ensures_formulaOf` — a formula, or the fault of several columns;
* `Plan.ensures_ofQuery` — **planning gives a program that can be printed, or has a fault that the
  query allows**.
-/

import SqlPipeline.Proofs.Groups
import SqlPipeline.Proofs.Stages
import SqlPipeline.Proofs.WellFormed

set_option autoImplicit false

namespace SqlPipeline

open Journal Layout Query Outcome

/-! ### Faults that planning may have -/

namespace Query

/-- The expressions that a query computes from records. -/
def Resolved.scalars (q : Resolved) : List Scalar :=
  q.groupBy ++ q.projections.filterMap fun p => p.kind.scalar?

/-- A query can be blamed for the fault, or an expression of the query has several columns. -/
def Resolved.Allows (q : Resolved) (f : Fault) : Prop :=
  f.isInternal = true → ∃ e ∈ q.scalars, 2 ≤ e.columns.length ∧
    f = .internal (.severalColumns e.columns.length)

theorem Resolved.allows_of_external {q : Resolved} {f : Fault} (h : f.External) : q.Allows f := by
  intro hi
  rw [Fault.External, hi] at h
  cases h

theorem Resolved.ensures_allows {m : Type → Type} [Monad m] [MonadExceptOf Fault m] [Fallible m]
    {α : Type} {q : Resolved} {P : α → Prop} {x : m α} (h : Ensures Fault.External P x) :
    Ensures q.Allows P x :=
  h.mono (fun _ => allows_of_external) fun _ ha => ha

theorem mem_insertNumber {n m : Nat} {ns : List Nat} :
    m ∈ insertNumber n ns ↔ m = n ∨ m ∈ ns := by
  induction ns with
  | nil => simp [insertNumber]
  | cons k ks ih =>
      unfold insertNumber
      split
      · simp
      · split
        · next hnk => simp [hnk]
        · simp only [List.mem_cons, ih]
          tauto

theorem mem_numberSet {m : Nat} {ns : List Nat} : m ∈ numberSet ns ↔ m ∈ ns := by
  induction ns with
  | nil => simp [numberSet]
  | cons n ns ih =>
      rw [numberSet, List.foldr_cons, mem_insertNumber, List.mem_cons]
      exact or_congr_right ih

theorem pairwise_insertNumber {n : Nat} {ns : List Nat} (h : ns.Pairwise (· < ·)) :
    (insertNumber n ns).Pairwise (· < ·) := by
  induction ns with
  | nil => simp [insertNumber]
  | cons k ks ih =>
      obtain ⟨hk, hks⟩ := List.pairwise_cons.1 h
      unfold insertNumber
      split
      · next hlt =>
          refine List.pairwise_cons.2 ⟨fun m hm => ?_, h⟩
          rcases List.mem_cons.1 hm with rfl | hm
          · exact hlt
          · exact hlt.trans (hk m hm)
      · split
        · exact h
        · next hge hne =>
            refine List.pairwise_cons.2 ⟨fun m hm => ?_, ih hks⟩
            rcases mem_insertNumber.1 hm with rfl | hm
            · omega
            · exact hk m hm

/-- The numbers of a list are in rising order. -/
theorem pairwise_numberSet (ns : List Nat) : (numberSet ns).Pairwise (· < ·) := by
  induction ns with
  | nil => exact List.Pairwise.nil
  | cons n ns ih => exact pairwise_insertNumber ih

/-- A list has one number at most exactly if all its numbers are equal. -/
theorem length_numberSet_le_one {ns : List Nat} :
    (numberSet ns).length ≤ 1 ↔ ∀ m n, m ∈ ns → n ∈ ns → m = n := by
  constructor
  · intro hlen m n hm hn
    rw [← mem_numberSet] at hm hn
    obtain ⟨k, hk⟩ : ∃ k, numberSet ns = [k] :=
      List.length_eq_one_iff.1 (Nat.le_antisymm hlen (List.length_pos_of_mem hm))
    rw [hk, List.mem_singleton] at hm hn
    rw [hm, hn]
  · intro h
    have hpairs := pairwise_numberSet ns
    cases hns : numberSet ns with
    | nil => exact Nat.zero_le 1
    | cons k ks =>
        cases ks with
        | nil => exact le_rfl
        | cons l ls =>
            -- two numbers in rising order are different
            rw [hns] at hpairs
            have hlt : k < l := List.rel_of_pairwise_cons hpairs List.mem_cons_self
            have hkl : k = l := by
              refine h k l (mem_numberSet.1 ?_) (mem_numberSet.1 ?_) <;> simp [hns]
            omega

end Query

namespace Plan

/-! ### Bounds and filters -/

/-- The columns of an access are among the first `width` ones, and its bounds have columns. -/
structure Access.Bounded (width : Nat) (a : Access) : Prop where
  keyColumn : ∀ n ∈ a.keyColumn, n < width
  key : a.key.min.isSome ∨ a.key.max.isSome → a.keyColumn.isSome
  secondaryColumn : ∀ n ∈ a.secondaryColumn, n < width
  secondary : a.secondary.min.isSome ∨ a.secondary.max.isSome → a.secondaryColumn.isSome
  filters : ∀ f ∈ a.filters, f.column < width

section

variable {E : Fault → Prop}

theorem Filter.ensures_inWord (f : Filter) (v : Int) :
    Ensures (· = .types (.boundOverflow f.op f.value)) (fun _ => True) (f.inWord v) := by
  unfold Filter.inWord
  split
  · exact ensures_ok trivial
  · exact ensures_error rfl

theorem Filter.ensures_bound? (f : Filter) :
    Ensures (· = .types (.boundOverflow f.op f.value)) (fun _ => True) f.bound? := by
  unfold Filter.bound?
  split
  case h_2 => exact ensures_bind (f.ensures_inWord _) fun _ _ => ensures_pure trivial
  case h_4 => exact ensures_bind (f.ensures_inWord _) fun _ _ => ensures_pure trivial
  all_goals exact ensures_pure trivial

theorem Filter.ensures_keyBound (f : Filter) (b : Bound) :
    Ensures (· = .types (.negativeKey f.op f.value)) (fun _ => True) (f.keyBound b) := by
  unfold Filter.keyBound
  split
  · exact ensures_error rfl
  · exact ensures_ok trivial

/-- A comparison bounds nothing for the given fault: it has no inclusive bound, or none that a key
can have. -/
def Filter.Fails (f : Filter) (e : Fault) : Prop :=
  f.bound? = .error e ∨ ∃ b, f.keyBound b = .error e

theorem Filter.Fails.types {f : Filter} {e : Fault} (h : f.Fails e) :
    ∃ cause, e = .types cause := by
  rcases h with h | ⟨b, h⟩
  · exact ⟨_, f.ensures_bound?.2 e h⟩
  · exact ⟨_, (f.ensures_keyBound b).2 e h⟩

theorem Filter.ensures_ofComparison {width : Nat} {c : Comparison} (hc : c.column < width)
    (hE : E (.types (.comparedValue c.literal))) :
    Ensures E (fun f => f.column < width) (Filter.ofComparison c) := by
  unfold Filter.ofComparison
  split
  · exact ensures_ok hc
  · exact ensures_error hE

namespace Access

variable {width : Nat} {a : Access} {f : Filter} {hints : List Catalog.Hint}

theorem ensures_demote (ha : a.Bounded width) (hf : f.column < width) :
    Ensures E (Bounded width) (a.demote f) := by
  unfold demote
  refine ensures_bind ensures_logged fun _ _ => ensures_pure ?_
  refine { ha with filters := ?_ }
  exact List.forall_mem_append.2 ⟨ha.filters, List.forall_mem_singleton.2 hf⟩

/-- A bound that is set has a column. -/
theorem ensures_add (hE : ∀ e, f.Fails e → E e) (ha : a.Bounded width)
    (hf : f.column < width) : Ensures E (Bounded width) (a.add hints f) := by
  have hbound : Ensures E (fun _ => True) f.bound? :=
    ⟨fun _ _ => trivial, fun e he => hE e (.inl he)⟩
  have hkeyBound : ∀ b, Ensures E (fun _ => True) (f.keyBound b) :=
    fun b => ⟨fun _ _ => trivial, fun e he => hE e (.inr ⟨b, he⟩)⟩
  unfold add
  dsimp only
  split
  · exact ensures_demote ha hf
  · next hguard =>
      refine ensures_bind (ensures_attempt hbound) fun b _ => ?_
      split
      · exact ensures_demote ha hf
      · next b =>
          split
          · refine ensures_bind (ensures_attempt (hkeyBound b)) fun b _ => ?_
            refine ensures_bind ensures_logged fun _ _ => ensures_pure ?_
            exact { ha with keyColumn := by simpa using hf, key := fun _ => rfl }
          · next hkey =>
              -- what is not about the key came through the guard for the chosen column
              have hs : a.secondaryColumn = some f.column := by simpa [hkey] using hguard
              refine ensures_bind ensures_logged fun _ _ => ensures_pure ?_
              exact { ha with secondary := fun _ => by rw [hs]; rfl }

theorem ensures_ofFilters {fs : List Filter} (hE : ∀ f ∈ fs, ∀ e, f.Fails e → E e)
    (hfs : ∀ f ∈ fs, f.column < width) :
    Ensures E (Bounded width) (ofFilters hints fs) := by
  have hcs : ∀ f ∈ candidates hints fs, f.column < width :=
    fun f hf => hfs f (mem_candidates.1 hf).1
  have hstart : (start hints fs).Bounded width := by
    refine ⟨nofun, by simp [start], fun n hn => ?_, by simp [start], fun f hf => ?_⟩
    · obtain ⟨f, hf, rfl⟩ := Option.map_eq_some_iff.1 hn
      exact hcs f (List.mem_of_find?_eq_some hf)
    · exact hfs f (List.mem_filter.1 hf).1
  have hrun : Ensures E (Bounded width)
      ((candidates hints fs).foldlM (Access.add hints) (start hints fs)) :=
    ensures_foldlM (I := fun _ (a : Access) => a.Bounded width) hstart
      fun done f rest a heq ha => by
        have hf : f ∈ candidates hints fs := by simp [heq]
        exact ensures_add (hE f (mem_candidates.1 hf).1) ha (hcs f hf)
  refine ensures_bind hrun fun a ha => ensures_pure ?_
  refine { ha with filters := fun f hf => ?_ }
  exact ha.filters f (List.mem_eraseDups.1 hf)

/-- Choosing how to reach the records breaks no promise. -/
theorem ensures_ofQuery {q : Resolved} (hq : ∀ c ∈ q.predicates, c.column < width) :
    Ensures Fault.External (fun a => q.tables.length = 1 ∧ a.Bounded width) (ofQuery q) := by
  unfold ofQuery
  dsimp only
  split
  · exact ensures_throw rfl
  · next hlen =>
      split
      · exact ensures_throw rfl
      · have hfs : Ensures Fault.External (∀ f ∈ ·, f.column < width)
            (q.predicates.mapM Filter.ofComparison) :=
          ensures_forall_mapM fun c hc => Filter.ensures_ofComparison (hq c hc) rfl
        refine ensures_bind (ensures_attempt hfs) fun fs hfs => ?_
        refine (ensures_ofFilters (fun f _ e he => ?_) hfs).imp fun a ha =>
          ⟨by simpa using hlen, ha⟩
        obtain ⟨cause, rfl⟩ := he.types
        rfl

end Access

end

end Plan

/-! ### Layouts -/

namespace Layout

variable {E : Fault → Prop} {stored output : Schema}

theorem Schema.column?_of_lt {n : Nat} (h : n < stored.length) :
    ∃ c ∈ stored.columns, stored.column? n = some c :=
  ⟨_, List.get_mem _ ⟨n, h⟩, List.getElem?_eq_getElem h⟩

theorem Schema.type?_of_lt {n : Nat} (h : n < stored.length) : ∃ t, stored.type? n = some t := by
  obtain ⟨c, -, hc⟩ := Schema.column?_of_lt h
  exact ⟨c.type, by rw [Schema.type?, hc, Option.map_some]⟩

theorem Schema.ensures_columnAt {n : Nat} (h : n < stored.length) :
    Ensures E (· ∈ stored.columns) (stored.columnAt n) := by
  obtain ⟨c, hmem, hc⟩ := Schema.column?_of_lt h
  unfold Schema.columnAt
  rw [hc]
  exact ensures_ok hmem

theorem Schema.ensures_typeAt {n : Nat} (h : n < stored.length) :
    Ensures E (fun _ => True) (stored.typeAt n) :=
  ensures_bind (Schema.ensures_columnAt h) fun _ _ => ensures_pure trivial

/-- The type of a column that may be missing. -/
theorem Schema.ensures_mapM_typeAt {column : Option Nat} (h : ∀ n ∈ column, n < stored.length) :
    Ensures E (fun t => t.isSome = column.isSome) (column.mapM stored.typeAt) := by
  cases column with
  | none => exact ensures_pure rfl
  | some n => exact ensures_bind (Schema.ensures_typeAt (h n rfl)) fun _ _ => ensures_pure rfl

/-- A table has a layout with its columns, unless a column has a type that cannot be stored. -/
theorem ensures_ofTable (t : Catalog.Table) :
    Ensures Fault.External (fun s => s.length = t.columns.length) (ofTable t) := by
  have h : Ensures Fault.External (fun s => s.length = t.columns.zipIdx.length) (ofTable t) := by
    refine ensures_foldlM (I := fun done (s : Schema) => s.length = done.length) rfl
      fun done c rest s _ hs => ?_
    unfold addColumn
    split
    · refine ensures_ok ?_
      rw [Schema.length_push, hs, List.length_append]
      rfl
    · exact ensures_error rfl
  simpa only [List.length_zipIdx] using h

theorem ensures_scalarType {e : Scalar} (he : e.Within stored.length) :
    Ensures E (fun _ => True) (scalarType stored e) := by
  unfold scalarType
  split
  · exact ensures_ok trivial
  · split
    · next n hn =>
        refine Schema.ensures_typeAt (he n ?_)
        exact mem_numberSet.1 (List.mem_of_mem_head? hn)
    · exact ensures_ok trivial

theorem ensures_aggregateType {call : AggregateCall} (hc : call.Reads stored.length) :
    Ensures E (fun _ => True) (aggregateType stored call) := by
  -- only the least and the greatest value have the type of their column
  have extreme : call.function ≠ .count → ∃ n, call.column = some n ∧ n < stored.length := by
    intro hf
    obtain ⟨n, hn⟩ := Option.isSome_iff_exists.1 (hc.2 hf)
    exact ⟨n, hn, hc.1 n hn⟩
  unfold aggregateType
  cases hf : call.function with
  | count => exact ensures_ok trivial
  | sum => exact ensures_ok trivial
  | avg => exact ensures_ok trivial
  | min | max =>
      obtain ⟨n, hn, hlt⟩ := extreme (by simp [hf])
      simp only [hn]
      exact Schema.ensures_typeAt hlt

/-- The type of an output column, after the layout of those before it. -/
theorem ensures_kindType {done : List Projection} {kind : Kind}
    (hk : kind.ReadsAfter stored.length done) (hlen : output.length = done.length) :
    Ensures E (fun _ => True) (kindType stored output done.length kind) := by
  cases kind with
  | column n => exact Schema.ensures_typeAt hk
  | arithmetic e => exact ensures_scalarType hk
  | aggregate call => exact ensures_aggregateType hk
  | aliasOf target =>
      obtain ⟨p, hp, -⟩ := hk
      have hlt : target < done.length := (List.getElem?_eq_some_iff.1 hp).1
      obtain ⟨type, htype⟩ := Schema.type?_of_lt (hlen.symm ▸ hlt)
      rw [kindType, if_pos hlt, htype]
      exact ensures_ok trivial

/-- A part of the numbered elements of a list is the numbered elements of a part. -/
theorem zipIdx_eq_append {α : Type} {xs : List α} {done rest : List (α × Nat)} {x : α × Nat}
    (h : xs.zipIdx = done ++ x :: rest) :
    x.2 = done.length ∧ xs = done.map Prod.fst ++ x.1 :: rest.map Prod.fst := by
  constructor
  · have hx : xs.zipIdx[done.length]? = some x := by
      rw [h, List.getElem?_append_right le_rfl, Nat.sub_self, List.getElem?_cons_zero]
    rw [List.getElem?_zipIdx, Option.map_eq_some_iff] at hx
    obtain ⟨a, -, rfl⟩ := hx
    exact Nat.zero_add _
  · have := congrArg (List.map Prod.fst) h
    rwa [List.zipIdx_map_fst, List.map_append, List.map_cons] at this

/-- The output columns of a well-formed query have a layout. -/
theorem ensures_ofProjections {ps : List Projection} (hps : Ordered stored.length ps) :
    Ensures E (fun out => out.length = ps.length) (ofProjections stored ps) := by
  have h : Ensures E (fun out => out.length = ps.zipIdx.length) (ofProjections stored ps) := by
    refine ensures_foldlM (I := fun done (out : Schema) => out.length = done.length) rfl
      fun done p rest out heq hout => ?_
    obtain ⟨hindex, hsplit⟩ := zipIdx_eq_append heq
    have hafter := hps _ _ _ hsplit
    have hlen : out.length = (done.map Prod.fst).length := by rw [hout, List.length_map]
    have htype : Ensures E (fun _ => True) (kindType stored out p.2 p.1.kind) := by
      have := ensures_kindType (E := E) hafter hlen
      rwa [List.length_map, ← hindex] at this
    refine ensures_bind htype fun type _ => ensures_pure ?_
    rw [Schema.length_push, hout, List.length_append]
    rfl
  simpa only [List.length_zipIdx] using h

end Layout

namespace Plan

/-! ### Formulas -/

variable {q : Resolved} {stored : Schema}

/-- A formula has the columns of its expression. -/
theorem ensures_formulaNode (e : Scalar) :
    Ensures Fault.External (fun f => f.occurrences = e.occurrences) (formulaNode e) := by
  induction e with
  | column n => exact ensures_pure rfl
  | literal l =>
      cases l with
      | text t => exact ensures_throw rfl
      | _ => exact ensures_pure rfl
  | apply name arg ih =>
      unfold formulaNode
      split
      · exact ensures_throw rfl
      · refine ensures_bind ensures_need fun _ _ => ?_
        exact ensures_bind ih fun f hf => ensures_pure hf
  | binary op l r ihl ihr =>
      unfold formulaNode
      split
      · exact ensures_throw rfl
      · refine ensures_bind ihl fun f hf => ensures_bind ihr fun g hg => ensures_pure ?_
        rw [Formula.occurrences, hf, hg]
        rfl

/-- **An expression of a query has a formula, unless it has several columns.** -/
theorem ensures_formulaOf {e : Scalar} (he : e ∈ q.scalars) :
    Ensures q.Allows (fun f => f.occurrences = e.occurrences) (formulaOf e) := by
  unfold formulaOf
  refine ensures_bind (Resolved.ensures_allows (ensures_formulaNode e)) fun f hf => ?_
  have hcolumns : f.columns = e.columns := by rw [Formula.columns, hf, Scalar.columns]
  split
  · next hlen =>
      refine ensures_throw fun _ => ⟨e, he, ?_, ?_⟩
      · rw [hcolumns] at hlen
        exact hlen
      · rw [hcolumns]
  · exact ensures_pure hf

theorem column?_lt {e : Scalar} {f : Formula} {width n : Nat} (he : e.Within width)
    (hf : f.occurrences = e.occurrences) (hn : f.column? = some n) : n < width := by
  refine he n ?_
  rw [← hf]
  exact mem_numberSet.1 (List.mem_of_mem_head? hn)

/-! ### Groups -/

theorem ensures_groupKey? (hq : ∀ e ∈ q.groupBy, e.Within stored.length) :
    Ensures q.Allows (fun key => ∀ k ∈ key, k.column < stored.length) (groupKey? q) := by
  unfold groupKey?
  split
  · exact ensures_pure (by simp)
  · next e he =>
      have hmem : e ∈ q.groupBy := List.mem_of_mem_head? he
      refine ensures_bind (ensures_formulaOf (List.mem_append_left _ hmem)) fun f hf => ?_
      split
      · next n hn =>
          refine ensures_pure ?_
          simpa using column?_lt (hq e hmem) hf hn
      · exact ensures_throw (Resolved.allows_of_external rfl)

theorem ensures_groupTest {E : Fault → Prop} {key : Option GroupKey}
    (hk : ∀ k ∈ key, k.column < stored.length) :
    Ensures E (fun _ => True) (groupTest stored key) := by
  cases key with
  | none => exact ensures_ok trivial
  | some k =>
      exact ensures_bind (Schema.ensures_columnAt (hk k rfl)) fun _ _ => ensures_pure trivial

theorem ensures_outputType {E : Fault → Prop} {f : Aggregate} {source : Option Storage}
    (h : f ≠ .count → source.isSome) : Ensures E (fun _ => True) (outputType f source) := by
  cases source with
  | some type => cases f <;> exact ensures_ok trivial
  | none =>
      cases f with
      | count => exact ensures_ok trivial
      | _ => exact absurd (h (by simp)) (by simp)

/-- The column of a value is never lost. -/
theorem ensures_lastColumn {E : Fault → Prop} {schema : Schema} {name : String} {type : Storage} :
    Ensures E (fun _ => True) (lastColumn schema name type) := by
  rw [lastColumn_eq]
  exact ensures_ok trivial

theorem ensures_aggregateDescriptor {E : Fault → Prop} {call : AggregateCall} {schema : Schema}
    (hc : call.Reads stored.length) (name : String) (index : Nat) :
    Ensures E (fun _ => True) (aggregateDescriptor stored call name index schema) := by
  unfold aggregateDescriptor
  refine ensures_bind (Schema.ensures_mapM_typeAt hc.1) fun sourceType hsource => ?_
  refine ensures_bind (ensures_outputType fun hf => ?_) fun type _ => ?_
  · rw [hsource]
    exact hc.2 hf
  · exact ensures_bind ensures_lastColumn fun output _ => ensures_pure trivial

theorem ensures_groupValueType {E : Fault → Prop} {k : GroupKey} {source : Column}
    (h : source.size = source.type.width) :
    Ensures E (fun _ => True) (groupValueType k source) := by
  unfold groupValueType
  split
  · rw [h]
    split
    · exact ensures_ok trivial
    · next hnone =>
        have := Storage.floating?_width source.type
        rw [hnone] at this
        cases this
  · exact ensures_ok trivial

section

variable {key : Option GroupKey} {schema : Schema}

theorem ensures_groupDescriptor (hk : ∀ k ∈ key, k.column < stored.length)
    (e : Scalar) (name : String) (index : Nat) :
    Ensures Fault.External (fun _ => True) (groupDescriptor stored key e name index schema) := by
  unfold groupDescriptor
  split
  · exact ensures_throw rfl
  · next k hfilter =>
      have hlt := hk k (Option.filter_eq_some_iff.1 hfilter).1
      have hcolumn := Schema.ensures_columnAt (E := Fault.External) hlt
      refine ensures_bind (ensures_collecting hcolumn) fun source hsource => ?_
      have htype : Ensures Fault.External (fun _ => True) (groupValueType k source) :=
        ensures_groupValueType (stored.sized source hsource)
      refine ensures_bind (ensures_collecting htype) fun type _ => ?_
      refine ensures_bind ensures_need fun _ _ => ?_
      exact ensures_bind (ensures_collecting ensures_lastColumn) fun _ _ => ensures_pure trivial

theorem ensures_descriptorOf (hk : ∀ k ∈ key, k.column < stored.length)
    {kind : Kind} (hkind : kind.Reads stored.length) (name : String) (index : Nat) :
    Ensures Fault.External (fun _ => True) (descriptorOf stored key kind name index schema) := by
  cases kind with
  | column n => exact ensures_groupDescriptor hk _ name index
  | arithmetic e => exact ensures_groupDescriptor hk e name index
  | aggregate call => exact ensures_collecting (ensures_aggregateDescriptor hkind name index)
  | aliasOf target => exact hkind.elim

/-- One more output column: an alias has a target, and any other one a value. -/
theorem GroupDraft.ensures_add (hk : ∀ k ∈ key, k.column < stored.length)
    {d : GroupDraft} {done : List Projection} {p : Projection} (hin : d.InStep stored key)
    (hplans : d.Plans done) (hp : p.kind.ReadsAfter stored.length done) :
    Ensures Fault.External (fun d' => d'.InStep stored key ∧ d'.Plans (done ++ [p]))
      (GroupDraft.add stored key d p) := by
  have hfault : Ensures Fault.External (fun _ => True) (GroupDraft.add stored key d p) := by
    unfold GroupDraft.add
    split
    · next target hkind =>
        rw [hkind] at hp
        obtain ⟨p', hp', -⟩ := hp
        obtain ⟨index, hindex, -⟩ := hplans.exists_column hp'
        rw [hindex]
        exact ensures_pure trivial
    · next kind hkind =>
        have hreads : p.kind.Reads stored.length := by
          refine Kind.reads_of_readsAfter hp ?_
          cases hcase : p.kind with
          | aliasOf target => exact absurd hcase (hkind target)
          | _ => rfl
        exact ensures_bind (ensures_descriptorOf hk hreads _ _) fun _ _ =>
          ensures_pure trivial
  exact (hfault.and_gathers fun s d' s' h => plans_add h hin hplans).imp fun _ h => h.2

theorem GroupDraft.ensures_foldlM (hk : ∀ k ∈ key, k.column < stored.length)
    {ps : List Projection} (hps : Ordered stored.length ps) :
    Ensures Fault.External (fun d => d.InStep stored key ∧ d.Plans ps)
      (ps.foldlM (GroupDraft.add stored key) {}) :=
  SqlPipeline.ensures_foldlM
    (I := fun done (d : GroupDraft) => d.InStep stored key ∧ d.Plans done)
    ⟨inStep_empty, plans_empty⟩ fun done p rest _ heq hd =>
      ensures_add hk hd.1 hd.2 (hps done p rest heq)

theorem ensures_havingKind {t : HavingTerm} (ht : t.Reads stored.length) :
    Ensures Fault.External (·.Reads stored.length) (havingKind t) := by
  unfold havingKind
  split
  · exact ensures_ok ht.1
  · exact ensures_ok ht.2
  · exact ensures_error rfl
  · exact ensures_error rfl

theorem GroupDraft.ensures_addHaving (hk : ∀ k ∈ key, k.column < stored.length)
    (d : GroupDraft) {t : HavingTerm} (ht : t.Reads stored.length) :
    Ensures Fault.External (fun _ => True) (d.addHaving stored key t) := by
  unfold GroupDraft.addHaving
  refine ensures_bind (ensures_collecting (ensures_havingKind ht)) fun kind hkind => ?_
  split
  · exact ensures_pure trivial
  · exact ensures_bind (ensures_descriptorOf hk hkind _ _) fun _ _ => ensures_pure trivial

end

/-- A value of a group that can be printed: a function of the group has its column, unless records
are counted, and any other value has its routine. -/
def Descriptor.Printable (x : Descriptor) : Prop :=
  match x.kind with
  | .aggregate f => f ≠ .count → x.sourceColumn.isSome
  | .groupValue => x.compute.isSome

theorem Describes.printable {key : Option GroupKey} {index : Nat} {kind : Kind} {x : Descriptor}
    (h : Describes stored key index kind x) : x.Printable := by
  cases h with
  | @aggregate call sourceType output source type =>
      intro hf
      -- only counting records has a type without a column
      cases hc : call.column with
      | some n => rfl
      | none =>
          rw [hc] at source
          cases source
          cases hcall : call.function with
          | count => exact absurd hcall hf
          | _ =>
              rw [hcall] at type
              cases type
  | groupValue => rfl

theorem GroupDraft.InStep.printable {key : Option GroupKey} {d : GroupDraft}
    (h : d.InStep stored key) : ∀ x ∈ d.descriptors, x.Printable := by
  intro x hx
  obtain ⟨i, hi⟩ := List.mem_iff_getElem?.1 hx
  have hlt : i < d.kinds.length := by
    rw [← h.length_eq]
    exact (List.getElem?_eq_some_iff.1 hi).1
  exact (h.described i _ x (List.getElem?_eq_getElem hlt) hi).printable

/-- What the later steps rely on in the groups of a query. -/
structure Grouping.Sound (q : Resolved) (g : Grouping) : Prop where
  columns_length : g.projectionColumns.length = q.projections.length
  columns_lt : ∀ k ∈ g.projectionColumns, k < g.schema.length
  having_lt : q.having ≠ [] → ∃ index, g.havingColumn = some index ∧ index < g.schema.length
  printable : ∀ x ∈ g.descriptors, x.Printable

section

variable {output out : Schema} {s s' : Routines} {g : Grouping}

theorem length_retype (s : Schema) (i : Nat) (type : Storage) :
    (s.retype i type).length = s.length := by
  have placed := congrArg List.length (map_placedFrom (f := Column.name) (fun _ _ => rfl) 0
    (s.columns.modify i fun c => { c with type, size := type.width }))
  rwa [List.length_map, List.length_map, List.length_modify] at placed

theorem length_retyped (schema output : Schema) (columns : List Nat) :
    (retyped schema output columns).length = output.length := by
  unfold retyped
  induction columns.zipIdx generalizing output with
  | nil => rfl
  | cons c cs ih =>
      rw [List.foldl_cons, ih]
      dsimp only
      split
      · exact length_retype _ _ _
      · rfl

theorem GroupStages.sound (st : GroupStages q stored output s g out s') : g.Sound q := by
  obtain ⟨hindraft, hplans, hin⟩ := st.inStep_final
  obtain ⟨hcolumns, hprefix⟩ := st.draft_prefix
  have hschema : g.schema.length = st.final.kinds.length := by
    rw [st.schema_eq, Schema.length, hin.schema_eq, List.length_map, hin.length_eq]
  refine ⟨?_, fun k hk => ?_, fun hne => ?_, fun x hx => ?_⟩
  · rw [hcolumns, hplans.columns_length]
  · rw [hcolumns] at hk
    have := hplans.columns_lt k hk
    have := hprefix.length_le
    omega
  · rcases st.having with ⟨hnil, -⟩ | ⟨t, index, -, hindex, hh⟩
    · exact absurd hnil hne
    · refine ⟨index, hindex, ?_⟩
      rw [hschema]
      obtain ⟨kind, -, ⟨hfind, hfinal, -⟩ | ⟨-, hlast, x, -, hfinal⟩⟩ :=
        GroupDraft.addHaving_gathers hh
      · rw [hfinal]
        exact (List.findIdx?_eq_some_iff_findIdx_eq.1 hfind).1
      · have := hindraft.length_eq
        rw [hfinal, hlast, GroupDraft.push, List.length_append, List.length_singleton]
        omega
  · rw [st.descriptors_eq] at hx
    exact hin.printable x hx

/-- **The groups of a well-formed query break no promise.** -/
theorem ensures_grouping {t : Catalog.Table} (hq : WellFormed t q)
    (hlen : stored.length = t.columns.length) :
    Ensures q.Allows (fun r => r.1.Sound q ∧ r.2.length = output.length)
      (Grouping.ofQuery q stored output) := by
  have hgroup := hq.groupBy
  have hordered := hq.ordered
  have hhaving := hq.having
  rw [← hlen] at hgroup hordered hhaving
  -- what the groups are is known once planning ends well, so here only the faults count
  have hfault : Ensures q.Allows (fun _ => True) (Grouping.ofQuery q stored output) := by
    unfold Grouping.ofQuery
    dsimp only
    split
    · exact ensures_throw (Resolved.allows_of_external rfl)
    · split
      · exact ensures_throw (Resolved.allows_of_external rfl)
      · refine ensures_bind (ensures_groupKey? hgroup) fun key hk => ?_
        refine ensures_bind (ensures_collecting (ensures_groupTest hk)) fun test _ => ?_
        refine ensures_bind ensures_need fun _ _ => ?_
        have hfold := GroupDraft.ensures_foldlM hk hordered
        refine ensures_bind (Resolved.ensures_allows hfold) fun d _ => ?_
        split
        · exact ensures_pure trivial
        · next h hh =>
            have hreads := hhaving h (List.mem_of_mem_head? hh)
            have hadd := GroupDraft.ensures_addHaving hk d hreads
            exact ensures_bind (Resolved.ensures_allows hadd) fun _ _ => ensures_pure trivial
  refine (hfault.and_gathers fun s r s' h => ?_).imp fun r hr => hr.2
  obtain ⟨st⟩ := stages_of_grouping h
  exact ⟨st.sound, by rw [st.out_eq, length_retyped]⟩

end

/-! ### The condition on groups -/

/-- A literal that can be stored with a type. -/
def Storable (storage : Storage) : Literal → Prop
  | .integer _ => True
  | .decimal _ => storage.isFloat = true
  | .text _ => False

theorem ensures_checkHavingLiteral (l : Literal) (storage : Storage) :
    Ensures Fault.External (fun _ => Storable storage l) (checkHavingLiteral l storage) := by
  unfold checkHavingLiteral
  split
  · exact ensures_error rfl
  · split
    · next hfloat => exact ensures_ok hfloat
    · exact ensures_error rfl
  · exact ensures_ok trivial

theorem ensures_havingComparison (t : HavingTerm) :
    Ensures Fault.External (fun _ => True) (havingComparison t) := by
  unfold havingComparison
  split
  · exact ensures_ok trivial
  · exact ensures_ok trivial
  · exact ensures_error rfl
  · exact ensures_error rfl

theorem ensures_ofTerm {schema : Schema} {column : Nat} (hlt : column < schema.length)
    (t : HavingTerm) :
    Ensures Fault.External (fun h => Storable h.storage h.literal)
      (HavingFilter.ofTerm t column schema) := by
  unfold HavingFilter.ofTerm
  refine ensures_bind (ensures_havingComparison t) fun r _ => ?_
  obtain ⟨type, htype⟩ := Schema.type?_of_lt hlt
  dsimp only
  rw [htype]
  exact ensures_bind (ensures_checkHavingLiteral r.2 type) fun _ h => ensures_pure h

theorem ensures_having? {grouping : Option Grouping} (hg : ∀ g ∈ grouping, g.Sound q) :
    Ensures Fault.External (fun h => ∀ f ∈ h, Storable f.storage f.literal)
      (having? q grouping) := by
  unfold having?
  split
  · next t g ht =>
      have hne : q.having ≠ [] := by
        intro hnil
        rw [hnil] at ht
        cases ht
      obtain ⟨index, hindex, hlt⟩ := (hg g rfl).having_lt hne
      rw [hindex]
      refine ensures_bind (ensures_ofTerm hlt t) fun h hh => ensures_pure ?_
      simpa using hh
  · exact ensures_pure (by simp)

/-! ### Operators -/

/-- A step that can be printed. -/
def Step.Printable : Step → Prop
  | .literal _ storage value => Storable storage value
  | .aggregate _ ds _ _ => ∀ x ∈ ds, x.Printable
  | _ => True

/-- The steps so far can be printed, over records of the given layout. -/
def Assembly.Printable (stored : Schema) (a : Assembly) : Prop :=
  a.stored = stored ∧ ∀ st ∈ a.steps, st.Printable

namespace Assembly

variable {E : Fault → Prop} {a : Assembly}

theorem ensures_bound (ha : a.Printable stored) (name : String) {storage : Option Storage}
    {value : Option Int} (h : value.isSome → storage.isSome) :
    Ensures E (fun r => r.1.Printable stored) (a.bound name storage value) := by
  unfold bound
  cases value with
  | none => exact ensures_ok ha
  | some v =>
      obtain ⟨type, rfl⟩ := Option.isSome_iff_exists.1 (h rfl)
      refine ensures_ok ⟨ha.1, List.forall_mem_append.2 ⟨ha.2, ?_⟩⟩
      exact List.forall_mem_singleton.2 trivial

theorem ensures_scan {access : Access} (ha : a.Printable stored)
    (hb : access.Bounded stored.length) :
    Ensures E (Printable stored) (a.scan access) := by
  unfold scan
  rw [ha.1]
  refine ensures_bind (Schema.ensures_mapM_typeAt hb.keyColumn) fun keyType hkey => ?_
  refine ensures_bind (Schema.ensures_mapM_typeAt hb.secondaryColumn) fun dataType hdata => ?_
  have hk := hb.key
  have hd := hb.secondary
  rw [← hkey] at hk
  rw [← hdata] at hd
  refine ensures_bind (ensures_bound ha _ fun h => hk (.inl h)) fun ⟨a₁, _⟩ h₁ => ?_
  refine ensures_bind (ensures_bound h₁ _ fun h => hk (.inr h)) fun ⟨a₂, _⟩ h₂ => ?_
  refine ensures_bind (ensures_bound h₂ _ fun h => hd (.inl h)) fun ⟨a₃, _⟩ h₃ => ?_
  refine ensures_bind (ensures_bound h₃ _ fun h => hd (.inr h)) fun ⟨a₄, _⟩ h₄ => ?_
  refine ensures_pure ⟨h₄.1, List.forall_mem_append.2 ⟨h₄.2, ?_⟩⟩
  simp [Step.Printable]

theorem ensures_selection {f : Filter} (ha : a.Printable stored) (hf : f.column < stored.length) :
    Ensures E (Printable stored) (a.selection f) := by
  obtain ⟨c, -, hc⟩ := Schema.column?_of_lt hf
  unfold selection
  rw [ha.1, hc]
  refine ensures_ok ⟨ha.1, ?_⟩
  simp only [literal, List.forall_mem_append, List.forall_mem_singleton]
  exact ⟨⟨ha.2, trivial⟩, trivial⟩

theorem ensures_selections {fs : List Filter} (ha : a.Printable stored)
    (hfs : ∀ f ∈ fs, f.column < stored.length) :
    Ensures E (Printable stored) (a.selections fs) :=
  ensures_foldlM (I := fun _ (a : Assembly) => a.Printable stored) ha fun done f rest a heq ha =>
    ensures_selection ha (hfs f (by simp [heq]))

theorem Printable.aggregate (ha : a.Printable stored) {g : Grouping}
    (hg : ∀ x ∈ g.descriptors, x.Printable) : (a.aggregate g).Printable stored := by
  refine ⟨ha.1, List.forall_mem_append.2 ⟨ha.2, ?_⟩⟩
  exact List.forall_mem_singleton.2 hg

theorem Printable.having (ha : a.Printable stored) {h : HavingFilter}
    (hh : Storable h.storage h.literal) : (a.having h).Printable stored := by
  refine ⟨ha.1, ?_⟩
  simp only [Assembly.having, literal, List.forall_mem_append, List.forall_mem_singleton]
  exact ⟨⟨ha.2, hh⟩, trivial⟩

end Assembly

theorem ensures_operators {E : Fault → Prop} {access : Access} {grouping : Option Grouping}
    {having : Option HavingFilter} (table : String) (hb : access.Bounded stored.length)
    (hg : ∀ g ∈ grouping, ∀ x ∈ g.descriptors, x.Printable)
    (hh : ∀ h ∈ having, Storable h.storage h.literal) :
    Ensures E (Assembly.Printable stored) (operators table stored access grouping having) := by
  unfold operators
  have hstart : ({ table, stored } : Assembly).Printable stored := ⟨rfl, by simp⟩
  refine ensures_bind (Assembly.ensures_scan hstart hb) fun a₁ h₁ => ?_
  refine ensures_bind (Assembly.ensures_selections h₁ hb.filters) fun a₂ h₂ => ensures_pure ?_
  have hgroups : ((grouping.map a₂.aggregate).getD a₂).Printable stored := by
    cases grouping with
    | none => exact h₂
    | some g => exact h₂.aggregate (hg g rfl)
  cases having with
  | none => exact hgroups
  | some h => exact hgroups.having (hh h rfl)

/-! ### What is printed -/

/-- The columns of groups can be printed. -/
theorem ensures_groupedOutput {E : Fault → Prop} {g : Grouping} {output : Schema}
    (hg : g.Sound q) (hout : output.length = q.projections.length) :
    Ensures E (fun cs => cs.length = q.projections.length) (groupedOutput output g) := by
  unfold groupedOutput
  refine (ensures_mapM (R := fun _ _ => True) fun c hc => ?_).imp fun cs hcs => ?_
  · obtain ⟨source, -, hsource⟩ :=
      Schema.column?_of_lt (hg.columns_lt c.2 (List.of_mem_zip hc).2)
    dsimp only
    rw [hsource]
    exact ensures_ok trivial
  · have hlen := hcs.length_eq
    rw [List.length_zip, hg.columns_length] at hlen
    have : output.columns.length = q.projections.length := hout
    omega

theorem ensures_formulaOutput {e : Scalar} (he : e ∈ q.scalars) (hw : e.Within stored.length)
    (name : String) (type : Storage) :
    Ensures q.Allows (fun _ => True) (formulaOutput stored name type e) := by
  unfold formulaOutput
  refine ensures_bind (ensures_formulaOf he) fun f hf => ?_
  have hsource : Ensures q.Allows (fun _ => True)
      (f.column?.mapM stored.columnAt : Except Fault (Option Column)) := by
    cases hc : f.column? with
    | none => exact ensures_pure trivial
    | some n =>
        have hlt := column?_lt hw hf hc
        exact ensures_bind (Schema.ensures_columnAt hlt) fun _ _ => ensures_pure trivial
  exact ensures_bind (ensures_collecting hsource) fun _ _ => ensures_pure trivial

/-- What an alias repeats is an output column that is no alias. -/
theorem ensures_targetKind {E : Fault → Prop} {width : Nat} {ps : List Projection}
    (hps : Ordered width ps) {p : Projection} (hp : p ∈ ps) :
    Ensures E (fun kind => kind.Reads width ∧ ∃ p' ∈ ps, p'.kind = kind)
      (targetKind ps p.kind) := by
  cases hkind : p.kind with
  | aliasOf target =>
      obtain ⟨p', hp', hreads⟩ := hps.reads_target hp hkind
      rw [targetKind, hp']
      exact ensures_ok ⟨hreads, p', List.mem_of_getElem? hp', rfl⟩
  | _ =>
      have hreads := hps.reads hp (by rw [hkind]; rfl)
      rw [hkind] at hreads
      exact ensures_ok ⟨hreads, p, hp, hkind⟩

/-- Without groups no output column is a function of a group. -/
theorem ensures_scanColumn {output : Schema} {p : Projection × Nat}
    (hps : Ordered stored.length q.projections)
    (hplain : ∀ p ∈ q.projections, p.kind.isAggregate = false)
    (hout : output.length = q.projections.length) (hp : p ∈ q.projections.zipIdx) :
    Ensures q.Allows (fun _ => True) (scanColumn q.projections stored output p) := by
  obtain ⟨-, hlt, hget⟩ := List.mem_zipIdx hp
  have hmem : p.1 ∈ q.projections := by
    rw [hget]
    exact List.getElem_mem _
  have hindex : p.2 < output.length := by omega
  obtain ⟨type, htype⟩ := Schema.type?_of_lt hindex
  unfold scanColumn
  rw [htype]
  refine ensures_bind (ensures_collecting (ensures_targetKind hps hmem)) fun kind hkind => ?_
  obtain ⟨hreads, p', hp', rfl⟩ := hkind
  split
  · next n hn =>
      rw [hn] at hreads
      exact ensures_bind (ensures_collecting (Schema.ensures_columnAt hreads)) fun _ _ =>
        ensures_pure trivial
  · next e he =>
      rw [he] at hreads
      refine ensures_formulaOutput (List.mem_append_right _ ?_) hreads _ _
      exact List.mem_filterMap.2 ⟨p', hp', by rw [he]; rfl⟩
  · next hcolumn harith =>
      have hplain' := hplain p' hp'
      cases hkind : p'.kind with
      | column n => exact absurd hkind (hcolumn n)
      | arithmetic e => exact absurd hkind (harith e)
      | aggregate call =>
          rw [hkind] at hplain'
          cases hplain'
      | aliasOf target =>
          rw [hkind] at hreads
          exact hreads.elim

theorem ensures_scanOutput {output : Schema} (hps : Ordered stored.length q.projections)
    (hplain : ∀ p ∈ q.projections, p.kind.isAggregate = false)
    (hout : output.length = q.projections.length) :
    Ensures q.Allows (fun cs => cs.length = q.projections.length)
      (scanOutput q.projections stored output) := by
  refine (ensures_mapM (R := fun _ _ => True) fun p hp =>
    ensures_scanColumn hps hplain hout hp).imp fun cs hcs => ?_
  have hlen := hcs.length_eq
  rw [List.length_zipIdx] at hlen
  exact hlen.symm

/-! ### The program -/

/-- A program that can be printed. -/
structure Program.Printable (p : Program) : Prop where
  output_ne : p.output ≠ []
  steps : ∀ st ∈ p.steps, st.Printable

theorem ensures_finish {a : Assembly} {parts : Parts} (ha : a.Printable stored)
    (hne : q.projections ≠ []) (hps : parts.projections = q.projections)
    (hordered : Ordered stored.length q.projections)
    (hout : parts.output.length = q.projections.length)
    (hg : ∀ g ∈ parts.grouping, g.Sound q)
    (hplain : parts.grouping = none → ∀ p ∈ q.projections, p.kind.isAggregate = false) :
    Ensures q.Allows Program.Printable (a.finish parts) := by
  unfold Assembly.finish
  -- with groups or without, all that is left is to put the parts together
  have hend : ∀ cs : List OutputColumn, cs.length = q.projections.length →
      Ensures q.Allows Program.Printable (do
        return {
          table := a.table, steps := a.steps, root := a.top, allocations := a.allocations
          transient := a.transient, routines := ← get, output := cs, access := parts.access
          grouping := parts.grouping, having := parts.having } : Collecting Program) := by
    intro cs hcs
    refine ensures_bind ensures_get fun _ _ => ensures_pure ⟨?_, ha.2⟩
    rw [← List.length_pos_iff, hcs]
    exact List.length_pos_iff.2 hne
  split
  · next g hgroup =>
      have hgrouped := ensures_groupedOutput (E := q.Allows) (hg g hgroup) hout
      exact ensures_bind (ensures_collecting hgrouped) hend
  · next hgroup =>
      rw [hps, ha.1]
      exact ensures_bind (ensures_scanOutput hordered (hplain hgroup) hout) hend

/-- The groups of a query that has some. -/
theorem ensures_grouping? {t : Catalog.Table} {output : Schema} (hq : WellFormed t q)
    (hlen : stored.length = t.columns.length) :
    Ensures q.Allows (fun r => (∀ g ∈ r.1, g.Sound q) ∧ r.2.length = output.length ∧
      (r.1 = none → q.aggregated = false)) (grouping? q stored output) := by
  unfold grouping?
  split
  · refine ensures_bind (ensures_grouping hq hlen) fun r hr => ensures_pure ?_
    exact ⟨by simpa using hr.1, hr.2, nofun⟩
  · next hgrouped =>
      dsimp only
      split
      · exact ensures_throw (Resolved.allows_of_external rfl)
      · refine ensures_pure ⟨by simp, rfl, fun _ => ?_⟩
        simp only [Resolved.isGrouped, Bool.or_eq_true, not_or, Bool.not_eq_true] at hgrouped
        exact hgrouped.1

/-- The program for a well-formed query, whose records are reached within the bounds of its
table. -/
theorem ensures_assemble {t : Catalog.Table} {access : Access} (hq : WellFormed t q)
    (ha : access.Bounded t.columns.length) :
    Ensures q.Allows Program.Printable (assemble q access) := by
  unfold assemble
  rw [hq.tables_eq, List.head?_cons]
  dsimp only
  have hstored := Resolved.ensures_allows (q := q) (ensures_ofTable t)
  refine ensures_bind (ensures_collecting hstored) fun stored hlen => ?_
  have hordered := hq.ordered
  rw [← hlen] at hordered ha
  refine ensures_bind (ensures_collecting (ensures_ofProjections hordered)) fun output hout => ?_
  have hgrouping : Ensures q.Allows _ (grouping? q stored output) :=
    ensures_grouping? hq hlen
  refine ensures_bind hgrouping fun ⟨grouping, out⟩ ⟨hg, hsame, hplain⟩ => ?_
  have hhaving := Resolved.ensures_allows (q := q) (ensures_having? hg)
  refine ensures_bind (ensures_collecting hhaving) fun having hh => ?_
  have hops := ensures_operators (E := q.Allows) t.name ha (fun g hgr => (hg g hgr).printable) hh
  refine ensures_bind (ensures_collecting hops) fun a hprint => ?_
  refine ensures_finish hprint hq.projections_ne rfl hordered ?_ hg fun hnone => ?_
  · exact hsame.trans hout
  · exact hq.aggregated (hplain hnone)

theorem ensures_build (hq : Plannable q) : Ensures q.Allows Program.Printable (build q) := by
  unfold build
  rcases hq with ⟨t, hq⟩ | hmany
  · have haccess := Access.ensures_ofQuery hq.predicates
    refine ensures_bind (Resolved.ensures_allows haccess) fun access ⟨_, hb⟩ => ?_
    exact ensures_attempt ((ensures_assemble hq hb).run _)
  · -- several tables are refused before anything else is looked at
    have hrefused : Ensures q.Allows (fun _ => False) (Access.ofQuery q) := by
      unfold Access.ofQuery
      rw [if_pos (by omega)]
      exact ensures_throw (Resolved.allows_of_external rfl)
    exact ensures_bind hrefused fun _ hfalse => hfalse.elim

/-- **Planning a query gives a program that can be printed, or has a fault that the query
allows.** -/
theorem ensures_ofQuery (hq : Plannable q) :
    Ensures q.Allows Program.Printable (ofQuery q) := by
  have hvalue : (ofQuery q).run.value = (build q).run.value := by rw [run_ofQuery]
  obtain ⟨hprogram, hfault⟩ := ensures_build hq
  exact ⟨fun p hp => hprogram p (hvalue.symm.trans hp),
    fun e he => hfault e (hvalue.symm.trans he)⟩

end Plan

end SqlPipeline
