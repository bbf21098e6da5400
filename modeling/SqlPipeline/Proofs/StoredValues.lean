/-
**What a program stores are integers of 64 bits that the query wrote.**

A program stores the integers that a query compares with in variables, each with the type of the
column that it is compared with.  An integer is checked against 64 bits and never against the type
of its variable, so in a variable of 32 bits it can become another one.  Here the integers of the
variables are traced back to the query.  They have 64 bits; those that bound the key are not
negative; and a comparison that would give an index any other bound is refused as a fault of types.

Main definitions:

* `Layout.Storage.holds`, `Layout.Storage.assigned` — the integers that a variable can hold, and
  what it holds after an assignment;
* `Plan.Filter.least?`, `Plan.Filter.greatest?` — the inclusive bounds that a comparison gives;
* `Plan.Origin` — where the integer in a variable comes from;
* `Query.Resolved.Unbounded` — a comparison gives an index a bound that is not allowed.

Main results:

* `Plan.Access.ensures_from` — the bounds and filters of an access come from comparisons;
* `Plan.Stages.origin` — the integers of a program come from its query;
* `Plan.types_of_unbounded` — a bound that is not allowed is a fault of types;
* `stored_integers` — **the integers of a program have 64 bits, and those on the key no sign**.
-/

import SqlPipeline.Catalog.Definition
import SqlPipeline.Proofs.Compile
import SqlPipeline.Proofs.FreshNames
import SqlPipeline.Proofs.LiteralRange

set_option autoImplicit false

namespace SqlPipeline

open Journal Layout Query Outcome

/-! ### Integers in variables -/

namespace Layout.Storage

/-- Whether a variable of an integer type can hold an integer. -/
def holds (t : Storage) (v : Int) : Bool :=
  if t.isSigned then -2 ^ (8 * t.width - 1) ≤ v && v < 2 ^ (8 * t.width - 1)
  else 0 ≤ v && v < 2 ^ (8 * t.width)

/-- What a variable of an integer type holds after an assignment: the bits of the integer that it
has room for. -/
def assigned (t : Storage) (v : Int) : Int :=
  if t.isSigned then v.bmod (2 ^ (8 * t.width)) else v % 2 ^ (8 * t.width)

theorem bmod_eq_self_iff (v : Int) (n : Nat) :
    v.bmod (2 ^ (n + 1)) = v ↔ -2 ^ n ≤ v ∧ v < 2 ^ n := by
  have hdouble : (2 : Int) ^ (n + 1) = 2 * 2 ^ n := by ring
  have hpos : (0 : Int) < 2 ^ n := by positivity
  rw [Int.bmod_eq_iff (by positivity)]
  push_cast
  rw [hdouble]
  constructor
  · rintro ⟨hle, hlt, -⟩
    omega
  · rintro ⟨hle, hlt⟩
    exact ⟨by omega, by omega, by simp⟩

theorem emod_eq_self_iff (v : Int) (n : Nat) : v % 2 ^ n = v ↔ 0 ≤ v ∧ v < 2 ^ n := by
  have hpos : (0 : Int) < 2 ^ n := by positivity
  constructor
  · intro h
    rw [← h]
    exact ⟨Int.emod_nonneg _ hpos.ne', Int.emod_lt_of_pos _ hpos⟩
  · rintro ⟨hle, hlt⟩
    exact Int.emod_eq_of_lt hle hlt

/-- A variable holds what was assigned to it exactly if it can. -/
theorem assigned_eq_iff (t : Storage) (v : Int) : t.assigned v = v ↔ t.holds v = true := by
  have hwidth : 8 * t.width - 1 + 1 = 8 * t.width := by cases t <;> rfl
  unfold assigned holds
  split
  · rw [Bool.and_eq_true, decide_eq_true_eq, decide_eq_true_eq, ← bmod_eq_self_iff, hwidth]
  · rw [Bool.and_eq_true, decide_eq_true_eq, decide_eq_true_eq, ← emod_eq_self_iff]

end Layout.Storage

namespace Plan

theorem holds_uint64 {v : Int} (h : isWord v = true) (hv : 0 ≤ v) :
    Storage.uint64.holds v = true := by
  simp only [isWord, Bool.and_eq_true, decide_eq_true_eq] at h
  have hlt : v < 2 ^ 64 := by omega
  show (decide (0 ≤ v) && decide (v < 2 ^ 64)) = true
  rw [decide_eq_true hv, decide_eq_true hlt]
  rfl

theorem isWord_max {v : Int} (h : isWord v = true) : isWord (max 0 v) = true := by
  simp only [isWord, Bool.and_eq_true, decide_eq_true_eq] at h ⊢
  omega

/-! ### Bounds that comparisons give -/

namespace Filter

/-- The least integer that passes a comparison. -/
def least? (f : Filter) : Option Int :=
  match f.op with
  | .eq => some f.value
  | .ge => some f.value
  | .gt => some (f.value + 1)
  | _ => none

/-- The greatest integer that passes a comparison. -/
def greatest? (f : Filter) : Option Int :=
  match f.op with
  | .eq => some f.value
  | .le => some f.value
  | .lt => some (f.value - 1)
  | _ => none

theorem isWord_of_inWord {f : Filter} {v w : Int} (h : f.inWord v = .ok w) : isWord v = true := by
  unfold inWord at h
  split at h
  · assumption
  · cases h

/-- The bounds that a comparison gives have 64 bits if its integer does. -/
theorem bound?_eq_ok {f : Filter} {b : Bound} (h : f.bound? = .ok (some b)) :
    b = ⟨f.least?, f.greatest?⟩ ∧ (isWord f.value = true →
      ∀ v, f.least? = some v ∨ f.greatest? = some v → isWord v = true) := by
  unfold bound? at h
  cases hop : f.op with
  | ne => simp [hop, pure_eq_ok] at h
  | gt =>
      simp only [hop, bind_eq_ok, pure_eq_ok, Option.some.injEq] at h
      obtain ⟨w, hw, rfl⟩ := h
      simp [least?, greatest?, hop, inWord_eq_ok hw, isWord_of_inWord hw]
  | lt =>
      simp only [hop, bind_eq_ok, pure_eq_ok, Option.some.injEq] at h
      obtain ⟨w, hw, rfl⟩ := h
      simp [least?, greatest?, hop, inWord_eq_ok hw, isWord_of_inWord hw]
  | _ =>
      simp only [hop, pure_eq_ok, Option.some.injEq] at h
      subst h
      simp [least?, greatest?, hop]

theorem keyBound_eq_ok {f : Filter} {b b' : Bound} (h : f.keyBound b = .ok b') :
    (∀ v, b.max = some v → 0 ≤ v) ∧ b' = ⟨b.min.map (max 0), b.max⟩ := by
  unfold keyBound at h
  split at h
  · cases h
  · next hmax =>
      cases h
      refine ⟨fun v hv => ?_, rfl⟩
      simpa [hv] using hmax

end Filter

/-! ### Bounds that an access has -/

/-- The sides of a bound are those of comparisons with integers of 64 bits; what becomes of a lower
one is given. -/
structure Bound.From (raise : Int → Int) (fs : List Filter) (b : Bound) : Prop where
  min : ∀ v, b.min = some v → ∃ f ∈ fs, ∃ w, f.least? = some w ∧ isWord w = true ∧ v = raise w
  max : ∀ v, b.max = some v → ∃ f ∈ fs, f.greatest? = some v ∧ isWord v = true

/-- The bounds and the filters of an access are those of comparisons.  The key is never negative, so
lower bounds on it are raised to zero. -/
structure Access.From (fs : List Filter) (a : Access) : Prop where
  key : a.key.From (max 0) fs
  key_max : ∀ v, a.key.max = some v → 0 ≤ v
  secondary : a.secondary.From id fs
  filters : ∀ f ∈ a.filters, f ∈ fs

/-- The bounds that a comparison gives are allowed, if it bounds the key or the data. -/
structure Filter.Allowed (hints : List Catalog.Hint) (data : Option Nat) (f : Filter) : Prop where
  isWord : hintAt hints f.column = .primaryKey ∨ data = some f.column → isWord f.value = true →
    ∀ v, f.least? = some v ∨ f.greatest? = some v → isWord v = true
  nonneg : hintAt hints f.column = .primaryKey → ∀ v, f.greatest? = some v → 0 ≤ v

section

variable {hints : List Catalog.Hint} {fs : List Filter}

theorem Bound.From.replace {raise : Int → Int} {earlier later : Bound}
    (he : earlier.From raise fs) (hl : later.From raise fs) :
    (earlier.replace later).From raise fs := by
  refine ⟨fun v hv => ?_, fun v hv => ?_⟩
  · rcases Option.or_eq_some_iff.1 hv with h | ⟨-, h⟩
    · exact hl.min v h
    · exact he.min v h
  · rcases Option.or_eq_some_iff.1 hv with h | ⟨-, h⟩
    · exact hl.max v h
    · exact he.max v h

theorem Filter.bound_from {f : Filter} {b : Bound} (hf : f ∈ fs) (hv : isWord f.value = true)
    (h : f.bound? = .ok (some b)) (raise : Int → Int) :
    Bound.From raise fs ⟨b.min.map raise, b.max⟩ := by
  obtain ⟨rfl, hword⟩ := Filter.bound?_eq_ok h
  refine ⟨fun v hmin => ?_, fun v hmax => ⟨f, hf, hmax, hword hv v (.inr hmax)⟩⟩
  obtain ⟨w, hw, rfl⟩ := Option.map_eq_some_iff.1 hmin
  exact ⟨f, hf, w, hw, hword hv w (.inl hw), rfl⟩

namespace Access

/-- What one comparison on an indexed column does to where the bounds come from. -/
theorem From.add {a a' : Access} {f : Filter} {rs : List Record} (ha : a.From fs)
    (h : Gives (a.add hints f) a' rs) (hf : f ∈ fs) (hv : isWord f.value = true) :
    a'.From fs ∧ a'.secondaryColumn = a.secondaryColumn ∧ f.Allowed hints a.secondaryColumn := by
  obtain ⟨hguard, -, rfl⟩ | ⟨hkey, b, b', hb, hb', -, rfl⟩ | ⟨hkey, hs, b, hb, -, rfl⟩ :=
    add_cases h
  · refine ⟨{ ha with filters := ?_ }, rfl, ?_⟩
    · exact List.forall_mem_append.2 ⟨ha.filters, List.forall_mem_singleton.2 hf⟩
    · rcases hguard with hne | ⟨hkey, hs⟩
      · constructor <;> simp [Filter.least?, Filter.greatest?, hne]
      · exact ⟨fun h => absurd h (not_or.2 ⟨hkey, hs⟩), fun h => absurd h hkey⟩
  · obtain ⟨hmax, rfl⟩ := Filter.keyBound_eq_ok hb'
    have hfrom := Filter.bound_from hf hv hb (max 0)
    obtain ⟨rfl, hword⟩ := Filter.bound?_eq_ok hb
    refine ⟨{ ha with key := ha.key.replace hfrom, key_max := ?_ }, rfl, fun _ => hword,
      fun _ => hmax⟩
    intro v hv'
    rcases Option.or_eq_some_iff.1 hv' with h | ⟨-, h⟩
    · exact hmax v h
    · exact ha.key_max v h
  · have hfrom := Filter.bound_from hf hv hb id
    rw [Option.map_id] at hfrom
    refine ⟨{ ha with secondary := ha.secondary.replace hfrom }, rfl,
      fun _ => (Filter.bound?_eq_ok hb).2, fun h => absurd h hkey⟩

theorem ensures_of_gives {α : Type} {P : α → Prop} {x : Attempt Fault α}
    (h : ∀ a rs, Gives x a rs → P a) : Ensures (fun _ => True) P x :=
  ⟨fun a ha => h a _ (gives_iff.2 ⟨ha, rfl⟩), fun _ _ => trivial⟩

/-- The bounds and the filters of an access come from the comparisons it is made for, and all of
these are allowed. -/
theorem ensures_from (hfs : ∀ f ∈ fs, isWord f.value = true) :
    Ensures (fun _ => True) (fun a => a.From fs ∧
      ∀ f ∈ candidates hints fs, f.Allowed hints (start hints fs).secondaryColumn)
      (ofFilters hints fs) := by
  have hstart : (start hints fs).From fs :=
    ⟨⟨nofun, nofun⟩, nofun, ⟨nofun, nofun⟩, fun f hf => (List.mem_filter.1 hf).1⟩
  have hrun : Ensures (fun _ => True) (fun a => a.From fs ∧
      a.secondaryColumn = (start hints fs).secondaryColumn ∧
      ∀ f ∈ candidates hints fs, f.Allowed hints (start hints fs).secondaryColumn)
      ((candidates hints fs).foldlM (Access.add hints) (start hints fs)) := by
    refine ensures_foldlM (I := fun (done : List Filter) (a : Access) => a.From fs ∧
      a.secondaryColumn = (start hints fs).secondaryColumn ∧
      ∀ f ∈ done, f.Allowed hints (start hints fs).secondaryColumn) ⟨hstart, rfl, by simp⟩ ?_
    intro done f rest a heq ⟨ha, hs, hdone⟩
    have hmem : f ∈ candidates hints fs := by simp [heq]
    have hf := (mem_candidates.1 hmem).1
    refine ensures_of_gives fun a' rs h => ?_
    obtain ⟨ha', hs', hallowed⟩ := ha.add h hf (hfs f hf)
    rw [hs] at hs' hallowed
    exact ⟨ha', hs', List.forall_mem_append.2 ⟨hdone, List.forall_mem_singleton.2 hallowed⟩⟩
  refine ensures_bind hrun fun a ⟨ha, _, hcs⟩ => ensures_pure ⟨?_, hcs⟩
  exact { ha with filters := fun f hf => ha.filters f (List.mem_eraseDups.1 hf) }

end Access

end

end Plan

/-! ### Where integers come from -/

/-- A query compares a column with an integer. -/
def Query.Resolved.Asks (q : Resolved) (f : Plan.Filter) : Prop :=
  ⟨f.column, f.op, .integer f.value⟩ ∈ q.predicates

/-- An integer is a side of a condition on groups. -/
def Query.HavingTerm.Writes (h : HavingTerm) (v : Int) : Prop :=
  ∃ op l r, h = .comparison op l r ∧ (l = .literal (.integer v) ∨ r = .literal (.integer v))

namespace Plan

/-- Where the integer in a variable of a program comes from.  An inclusive bound comes from a
comparison of the query, and on the key it is raised to zero or not negative.  Any other integer
stands in the query as it is. -/
inductive Origin (q : Resolved) : String → Int → Prop
  | minKey {f : Filter} {v : Int} : q.Asks f → f.least? = some v → Origin q "minKey" (max 0 v)
  | maxKey {f : Filter} {v : Int} : q.Asks f → f.greatest? = some v → 0 ≤ v →
      Origin q "maxKey" v
  | minData {f : Filter} {v : Int} : q.Asks f → f.least? = some v → Origin q "minData" v
  | maxData {f : Filter} {v : Int} : q.Asks f → f.greatest? = some v → Origin q "maxData" v
  | filter {f : Filter} {name : String} : q.Asks f → name ∉ fixedNames → Origin q name f.value
  | having {h : HavingTerm} {v : Int} : h ∈ q.having → h.Writes v → Origin q "havingValue" v

/-- A bound on the key is not negative. -/
theorem Origin.nonneg {q : Resolved} {name : String} {v : Int} (h : Origin q name v)
    (hname : name = "minKey" ∨ name = "maxKey") : 0 ≤ v := by
  cases h with
  | minKey _ _ => exact le_max_left 0 _
  | maxKey _ _ hv => exact hv
  | filter _ hfree => rcases hname with rfl | rfl <;> exact absurd (by decide) hfree
  | _ => simp at hname

/-- The comparisons of a query with integers. -/
theorem mem_iff_asks {q : Resolved} {fs : List Filter}
    (h : q.predicates.mapM Filter.ofComparison = .ok fs) {f : Filter} : f ∈ fs ↔ q.Asks f := by
  rw [mapM_eq_ok] at h
  unfold Resolved.Asks
  generalize q.predicates = cs at h
  induction h with
  | nil => simp
  | @cons c g cs fs hc _ ih =>
      have hhead : f = g ↔ ⟨f.column, f.op, .integer f.value⟩ = c := by
        obtain ⟨column, op, l⟩ := c
        cases l with
        | integer v =>
            cases hc
            cases f
            simp
        | _ => cases hc
      rw [List.mem_cons, List.mem_cons, ih, hhead]

theorem isWord_of_natAbs {v : Int} (h : v.natAbs ≤ maxInteger) : isWord v = true := by
  have hmax : maxInteger = 2 ^ 63 - 1 := rfl
  simp only [isWord, Bool.and_eq_true, decide_eq_true_eq]
  omega

theorem isWord_of_asks {q : Resolved} (hq : q.InRange) {f : Filter} (h : q.Asks f) :
    isWord f.value = true :=
  isWord_of_natAbs (hq.predicates _ h)

theorem isWord_of_writes {q : Resolved} (hq : q.InRange) {h : HavingTerm} (hh : h ∈ q.having)
    {v : Int} (hv : h.Writes v) : isWord v = true := by
  have hrange := hq.having h hh
  obtain ⟨op, l, r, rfl, rfl | rfl⟩ := hv
  · exact isWord_of_natAbs hrange.1
  · exact isWord_of_natAbs hrange.2

/-- A condition on groups stores one of its sides. -/
theorem writes_of_having? {q : Resolved} {grouping : Option Grouping} {hf : HavingFilter} {v : Int}
    (h : having? q grouping = .ok (some hf)) (hv : hf.literal = .integer v) :
    ∃ term ∈ q.having, term.Writes v := by
  obtain ⟨term, g, column, hterm, -, -, hof⟩ := having?_eq_ok h
  refine ⟨term, List.mem_of_mem_head? (by simp [hterm]), ?_⟩
  obtain ⟨hside, -⟩ := HavingFilter.ofTerm_eq_ok hof
  rw [hv] at hside
  generalize hf.op = op at hside
  unfold havingComparison at hside
  split at hside <;> cases hside
  · exact ⟨_, _, _, rfl, .inr rfl⟩
  · exact ⟨_, _, _, rfl, .inl rfl⟩

/-! ### Integers that a program stores -/

/-- The integers that are stored so far, and the names that are in use. -/
structure Assembly.Stores (S : String → Int → Prop) (a : Assembly) : Prop where
  fixed_used : ∀ v ∈ fixedNames, v ∈ a.names.used
  stored : ∀ name t v, .literal name t (.integer v) ∈ a.steps → S name v

namespace Assembly

variable {S : String → Int → Prop} {a a' : Assembly}

theorem stores_scan {table : String} {stored : Schema} {access : Access}
    (h : ({ table, stored } : Assembly).scan access = .ok a)
    (hmin : ∀ v, access.key.min = some v → S "minKey" v)
    (hmax : ∀ v, access.key.max = some v → S "maxKey" v)
    (hmin' : ∀ v, access.secondary.min = some v → S "minData" v)
    (hmax' : ∀ v, access.secondary.max = some v → S "maxData" v) : a.Stores S := by
  obtain ⟨keyType, dataType, -, -, -, -, rfl⟩ := scan_eq_ok h
  refine ⟨fun v hv => hv, fun name t v hmem => ?_⟩
  simp only [boundsSteps, iteratorStep, List.nil_append, List.mem_append, List.mem_cons,
    List.not_mem_nil, reduceCtorEq, or_false] at hmem
  rcases hmem with ((hmem | hmem) | hmem) | hmem <;>
    obtain ⟨_, _, -, hv, heq⟩ := mem_boundSteps.1 hmem <;> cases heq
  · exact hmin v hv
  · exact hmax v hv
  · exact hmin' v hv
  · exact hmax' v hv

theorem Stores.selection (h : a.Stores S) {f : Filter} (hf : a.selection f = .ok a')
    (hS : ∀ name, name ∉ fixedNames → S name f.value) : a'.Stores S := by
  obtain ⟨c, -, rfl⟩ := selection_eq_ok hf
  refine ⟨fun v hv => ?_, fun name t v hmem => ?_⟩
  · exact List.mem_cons_of_mem _ (List.mem_cons_of_mem _ (h.fixed_used v hv))
  · rcases List.mem_append.1 hmem with hmem | hmem
    · exact h.stored name t v hmem
    · simp only [List.mem_cons, Step.literal.injEq, Literal.integer.injEq, List.not_mem_nil,
        reduceCtorEq, or_false] at hmem
      obtain ⟨rfl, -, rfl⟩ := hmem
      exact hS _ fun hfixed =>
        NameSupply.fresh_not_mem_used a.names _ (h.fixed_used _ hfixed)

theorem Stores.aggregate (h : a.Stores S) (g : Grouping) : (a.aggregate g).Stores S := by
  refine ⟨h.fixed_used, fun name t v hmem => h.stored name t v ?_⟩
  simpa [Assembly.aggregate] using hmem

theorem Stores.having (h : a.Stores S) {hf : HavingFilter}
    (hS : ∀ v, hf.literal = .integer v → S "havingValue" v) : (a.having hf).Stores S := by
  refine ⟨h.fixed_used, fun name t v hmem => ?_⟩
  simp only [Assembly.having, literal, List.mem_append, List.mem_cons, Step.literal.injEq,
    List.not_mem_nil, reduceCtorEq, or_false] at hmem
  rcases hmem with hmem | ⟨rfl, -, hv⟩
  · exact h.stored name t v hmem
  · exact hS v hv.symm

end Assembly

/-- The integers of a program have 64 bits and come from its query. -/
theorem Stages.origin {q : Resolved} {p : Program} (st : Stages q p) (hq : q.InRange)
    {name : String} {t : Storage} {v : Int} (h : .literal name t (.integer v) ∈ p.steps) :
    isWord v = true ∧ Origin q name v := by
  obtain ⟨-, -, fs, hfs, haccess⟩ := Access.ofQuery_gives st.access_gives
  have hwords : ∀ f ∈ fs, isWord f.value = true :=
    fun f hf => isWord_of_asks hq ((mem_iff_asks hfs).1 hf)
  have hfrom := ((Access.ensures_from hwords).1 _ (gives_iff.1 haccess).1).1
  have hasks : ∀ f ∈ fs, q.Asks f := fun f hf => (mem_iff_asks hfs).1 hf
  have hall : st.assembly.Stores fun name v => isWord v = true ∧ Origin q name v := by
    refine operators_keep st.operators_eq (fun b hb => ?_) (fun b b' f hf hb hstores => ?_)
      (fun b g _ hstores => hstores.aggregate g) fun b hf hhaving hstores => ?_
    · refine Assembly.stores_scan hb (fun v hv => ?_) (fun v hv => ?_) (fun v hv => ?_)
        fun v hv => ?_
      · obtain ⟨f, hf, w, hw, hword, rfl⟩ := hfrom.key.min v hv
        exact ⟨isWord_max hword, .minKey (hasks f hf) hw⟩
      · obtain ⟨f, hf, hw, hword⟩ := hfrom.key.max v hv
        exact ⟨hword, .maxKey (hasks f hf) hw (hfrom.key_max v hv)⟩
      · obtain ⟨f, hf, w, hw, hword, rfl⟩ := hfrom.secondary.min v hv
        exact ⟨hword, .minData (hasks f hf) hw⟩
      · obtain ⟨f, hf, hw, hword⟩ := hfrom.secondary.max v hv
        exact ⟨hword, .maxData (hasks f hf) hw⟩
    · have hmem := hfrom.filters f hf
      exact hstores.selection hb fun name hname => ⟨hwords f hmem, .filter (hasks f hmem) hname⟩
    · refine hstores.having fun v hv => ?_
      obtain ⟨term, hterm, hwrites⟩ := writes_of_having? (hhaving ▸ st.having_eq) hv
      exact ⟨isWord_of_writes hq hterm hwrites, .having hterm hwrites⟩
  exact hall.stored name t v (st.steps_eq ▸ h)

end Plan

/-! ### Bounds that are refused -/

namespace Query.Resolved

/-- The column that bounds the data: the first with an index, other than the key, that a query
compares by anything but `!=`. -/
def DataColumn (q : Resolved) (n : Nat) : Prop :=
  (∃ f, q.Asks f ∧ Plan.boundsData q.hints f = true ∧ f.column = n) ∧
    ∀ f, q.Asks f → Plan.boundsData q.hints f = true → n ≤ f.column

/-- A comparison of a query gives an index a bound that is not allowed: one that does not have 64
bits, or an upper bound on the key below zero. -/
inductive Unbounded (q : Resolved) : Prop
  | wide {f : Plan.Filter} {v : Int} : q.Asks f →
      Plan.hintAt q.hints f.column = .primaryKey ∨ q.DataColumn f.column →
      f.least? = some v ∨ f.greatest? = some v → Plan.isWord v = false → Unbounded q
  | negative {f : Plan.Filter} {v : Int} : q.Asks f →
      Plan.hintAt q.hints f.column = .primaryKey → f.greatest? = some v → v < 0 → Unbounded q

end Query.Resolved

namespace Plan

variable {q : Resolved}

theorem isIndexed_of_boundsData {hints : List Catalog.Hint} {f : Filter}
    (h : boundsData hints f = true) : (hintAt hints f.column).isIndexed = true := by
  unfold boundsData at h
  split at h
  · next hhint =>
      rw [hhint]
      rfl
  · cases h

/-- The comparisons on indexed columns are taken in the order of the columns, so the first that can
bound the data is on the first column of such. -/
theorem secondaryColumn_start {fs : List Filter} {n : Nat}
    (hfs : ∀ f, f ∈ fs ↔ q.Asks f) (hn : q.DataColumn n) :
    (Access.start q.hints fs).secondaryColumn = some n := by
  obtain ⟨⟨f, hf, hbounds, rfl⟩, hfirst⟩ := hn
  have hmem : f ∈ candidates q.hints fs :=
    Access.mem_candidates.2 ⟨(hfs f).2 hf, isIndexed_of_boundsData hbounds⟩
  have hsome : ((candidates q.hints fs).find? (boundsData q.hints)).isSome := by
    rw [List.find?_isSome]
    exact ⟨f, hmem, hbounds⟩
  obtain ⟨g, hg⟩ := Option.isSome_iff_exists.1 hsome
  obtain ⟨hgb, before, after, hsplit, hbefore⟩ := List.find?_eq_some_iff_append.1 hg
  have hge : f.column ≤ g.column :=
    hfirst g ((hfs g).1 (Access.mem_candidates.1 (List.mem_of_find?_eq_some hg)).1) hgb
  have hle : g.column ≤ f.column := by
    have hsorted := Access.pairwise_candidates q.hints fs
    rw [hsplit] at hsorted hmem
    rcases List.mem_append.1 hmem with hmem | hmem
    · exact absurd hbounds (by simpa using hbefore f hmem)
    · rcases List.mem_cons.1 hmem with rfl | hmem
      · exact le_rfl
      · exact List.rel_of_pairwise_cons (List.pairwise_append.1 hsorted).2.1 hmem
  show Option.map Filter.column _ = _
  rw [hg, Option.map_some, le_antisymm hle hge]

/-- A query with a bound that is not allowed is not given an access. -/
theorem not_gives_of_unbounded (hq : q.InRange) (h : q.Unbounded) {a : Access} {rs : List Record} :
    ¬ Gives (Access.ofQuery q) a rs := by
  intro hgives
  obtain ⟨-, -, fs, hfs, haccess⟩ := Access.ofQuery_gives hgives
  have hasks : ∀ f, f ∈ fs ↔ q.Asks f := fun f => mem_iff_asks hfs
  have hallowed := ((Access.ensures_from fun f hf =>
    isWord_of_asks hq ((hasks f).1 hf)).1 _ (gives_iff.1 haccess).1).2
  cases h with
  | @wide f v hf hindex hv hword =>
      have hmem : f ∈ candidates q.hints fs := by
        refine Access.mem_candidates.2 ⟨(hasks f).2 hf, ?_⟩
        rcases hindex with hkey | ⟨⟨g, -, hg, hcolumn⟩, -⟩
        · rw [hkey]
          rfl
        · exact hcolumn ▸ isIndexed_of_boundsData hg
      have hbounds := (hallowed f hmem).isWord
        (hindex.imp id (secondaryColumn_start hasks)) (isWord_of_asks hq hf) v hv
      rw [hword] at hbounds
      cases hbounds
  | @negative f v hf hkey hv hneg =>
      have hmem : f ∈ candidates q.hints fs := by
        refine Access.mem_candidates.2 ⟨(hasks f).2 hf, ?_⟩
        rw [hkey]
        rfl
      have := (hallowed f hmem).nonneg hkey v hv
      omega

/-- Why a query has no access: it is not over one table, or one of its conditions compares with no
integer, or cannot bound what it should. -/
inductive Unreached (q : Resolved) : Fault → Prop
  | shape {cause : Fault.Shape} : q.tables.length ≠ 1 ∨ q.outerJoin = true →
      Unreached q (.shape cause)
  | literal {c : Comparison} : c ∈ q.predicates → Unreached q (.types (.comparedValue c.literal))
  | bound {f : Filter} {e : Fault} : q.Asks f → f.Fails e → Unreached q e

theorem ensures_unreached (q : Resolved) :
    Ensures (Unreached q) (fun _ => True) (Access.ofQuery q) := by
  -- any number above those of the columns
  obtain ⟨width, hwidth⟩ : ∃ width, ∀ c ∈ q.predicates, c.column < width :=
    ⟨(q.predicates.map Comparison.column).sum + 1, fun c hc =>
      Nat.lt_succ_of_le (List.le_sum_of_mem (List.mem_map_of_mem hc))⟩
  have hfilters : Ensures (Unreached q) (∀ f ∈ ·, f.column < width)
      (q.predicates.mapM Filter.ofComparison) :=
    ensures_forall_mapM fun c hc => Filter.ensures_ofComparison (hwidth c hc) (.literal hc)
  unfold Access.ofQuery
  dsimp only
  split
  · next htables => exact ensures_throw (.shape (.inl htables))
  · split
    · next hjoin => exact ensures_throw (.shape (.inr hjoin))
    · refine ensures_bind (ensures_attempt hfilters.and_eq) fun fs ⟨hcolumns, hfs⟩ => ?_
      refine (Access.ensures_ofFilters (fun f hf e he => ?_) hcolumns).imp fun _ _ => trivial
      exact .bound ((mem_iff_asks hfs).1 hf) he

/-- Over one table, the only faults of an access are those of types. -/
theorem types_of_access (htables : q.tables.length = 1) (hjoin : q.outerJoin = false) :
    Ensures (fun f => ∃ cause, f = .types cause) (fun _ => True) (Access.ofQuery q) := by
  refine (ensures_unreached q).mono (fun e he => ?_) fun _ _ => trivial
  cases he with
  | shape hshape => simp [htables, hjoin] at hshape
  | literal _ => exact ⟨_, rfl⟩
  | bound _ hfails => exact hfails.types

/-- Planning fails as choosing how to reach the records fails. -/
theorem ofQuery_of_access {f : Fault} (h : (Access.ofQuery q).run.value = .error f) :
    (ofQuery q).run.value = .error f := by
  have hbuild : (build q).run.value = .error f := by
    unfold build
    exact value_bind_of_error h
  rw [run_ofQuery, hbuild]

/-- A bound that is not allowed is a fault of types. -/
theorem types_of_unbounded (hq : q.InRange) (htables : q.tables.length = 1)
    (hjoin : q.outerJoin = false) (h : q.Unbounded) :
    ∃ cause, (ofQuery q).run.value = .error (.types cause) := by
  cases hvalue : (Access.ofQuery q).run.value with
  | ok a => exact absurd (gives_iff.2 ⟨hvalue, rfl⟩) (not_gives_of_unbounded hq h)
  | error f =>
      obtain ⟨cause, rfl⟩ := (types_of_access htables hjoin).2 f hvalue
      exact ⟨cause, ofQuery_of_access hvalue⟩

end Plan

/-! ### Texts -/

section

variable {catalog : Catalog.Store} {sql : String}

theorem planText_of_ok {q : Resolved} (h : Query.ofText catalog sql = .ok q) :
    (planText catalog sql).run.value = (Plan.ofQuery q).run.value := by
  rw [planText, h]
  rfl

theorem planText_of_error {f : Fault} (h : Query.ofText catalog sql = .error f) :
    (planText catalog sql).run.value = .error f := by
  rw [planText, h]
  rfl

/-- The program of a text is that of the query that it stands for. -/
theorem query_of_planText {p : Plan.Program} (h : (planText catalog sql).run.value = .ok p) :
    ∃ q, Query.ofText catalog sql = .ok q ∧ (Plan.ofQuery q).run.value = .ok p := by
  cases hq : Query.ofText catalog sql with
  | error f =>
      rw [planText_of_error hq] at h
      cases h
  | ok q =>
      rw [planText_of_ok hq] at h
      exact ⟨q, rfl, h⟩

end

/-- The definition of a table with a key of 64 bits, and an index on a column of 32 bits. -/
def samplesDefinition : String :=
  "CREATE TABLE samples (id BIGINT PRIMARY KEY, temp INT, hum BIGINT);"
    ++ "CREATE INDEX byTemp ON samples (temp)"

/-- The table that the definition describes. -/
def samples : Catalog.Table where
  name := "samples"
  columns := [⟨"id", .int64⟩, ⟨"temp", .int32⟩, ⟨"hum", .int64⟩]
  primaryKey := some 0
  indexes := [⟨"byTemp", 1⟩]

/-- The catalog that the definition gives. -/
def samplesCatalog : Catalog.Store :=
  Catalog.Store.empty.put samples

theorem executeAll_samplesDefinition :
    (Catalog.Store.empty.executeAll [samplesDefinition]).run.value = .ok samplesCatalog := by
  decide +kernel

/-- A bound on a column of 32 bits that needs more of them, and a comparison of the key with a
negative integer that bounds nothing. -/
def hotText : String :=
  "SELECT id FROM samples WHERE id != -1 AND temp >= 3000000000"

/-- The query that the text stands for. -/
def hot : Resolved :=
  { Resolved.ofTable samples with
    predicates := [⟨0, .ne, .integer (-1)⟩, ⟨1, .ge, .integer 3000000000⟩]
    projections := [{ name := "id", kind := .column 0 }] }

theorem ofText_hotText : Query.ofText samplesCatalog hotText = .ok hot := by
  decide +kernel

theorem access_hot : Plan.Access.ofQuery hot
    = Plan.Access.ofFilters hot.hints [⟨0, .ne, -1⟩, ⟨1, .ge, 3000000000⟩] := rfl

/-- Integers are stored in variables that cannot hold them, and become others there. -/
theorem unheld_literals_hotText :
    ∃ catalog p, (Catalog.Store.empty.executeAll [samplesDefinition]).run.value = .ok catalog ∧
      (planText catalog hotText).run.value = .ok p ∧
      (.literal "minData" .int32 (.integer 3000000000) ∈ p.steps ∧
        Storage.int32.holds 3000000000 = false ∧
        Storage.int32.assigned 3000000000 = -1294967296) ∧
      (.literal "selValNEQid" .uint64 (.integer (-1)) ∈ p.steps ∧
        Storage.uint64.holds (-1) = false ∧
        Storage.uint64.assigned (-1) = 18446744073709551615) := by
  refine ⟨samplesCatalog, ?_⟩
  rw [planText_of_ok ofText_hotText, Plan.ofQuery, Plan.build, access_hot, Plan.Access.ofFilters,
    Plan.Access.candidates_of_pairwise (by decide)]
  refine ⟨_, executeAll_samplesDefinition, rfl, ⟨.head _, by decide, by decide⟩, ?_, by decide,
    by decide⟩
  exact .tail _ (.tail _ (.tail _ (.head _)))

/-- **The integers of a program have 64 bits, and those that bound the key are not negative.**  Each
comes from the query, and a variable of 64 bits holds it.  If a comparison would give an index any
other bound, or if the text compares with an integer out of range, the text is refused for its
types. -/
theorem stored_integers (catalog : Catalog.Store) (sql : String) :
    (∀ p, (planText catalog sql).run.value = .ok p → ∃ q, Query.ofText catalog sql = .ok q ∧
      ∀ name t v, .literal name t (.integer v) ∈ p.steps →
        Plan.Origin q name v ∧ Storage.int64.holds v = true ∧
        (name = "minKey" ∨ name = "maxKey" → Storage.uint64.holds v = true) ∧
        (t = .int64 ∨ t = .uint64 ∧ (name = "minKey" ∨ name = "maxKey") → t.assigned v = v)) ∧
    (∀ q, Query.ofText catalog sql = .ok q → q.tables.length = 1 → q.outerJoin = false →
      q.Unbounded → ∃ f, (planText catalog sql).run.value = .error f ∧
        f.code = "EMBEDDB_TYPE_ERROR") ∧
    ∀ s outerJoin sel orderBy, Query.ofText catalog sql = overScope s outerJoin sel orderBy →
      s.Overflows sel → ∃ f, (planText catalog sql).run.value = .error f ∧
        f.code = "EMBEDDB_TYPE_ERROR" := by
  refine ⟨fun p hp => ?_, fun q hq htables hjoin hunbounded => ?_,
    fun s outerJoin sel orderBy hover hoverflows => ?_⟩
  · cases hq : Query.ofText catalog sql with
    | error f =>
        rw [planText_of_error hq] at hp
        cases hp
    | ok q =>
        rw [planText_of_ok hq] at hp
        obtain ⟨st⟩ := Plan.stages_of_ofQuery hp
        refine ⟨q, rfl, fun name t v hstep => ?_⟩
        obtain ⟨hword, horigin⟩ := st.origin (inRange_of_ofText hq) hstep
        have hkey : name = "minKey" ∨ name = "maxKey" → Storage.uint64.holds v = true :=
          fun hname => Plan.holds_uint64 hword (horigin.nonneg hname)
        refine ⟨horigin, hword, hkey, ?_⟩
        rintro (rfl | ⟨rfl, hname⟩)
        · exact (Storage.assigned_eq_iff _ v).2 hword
        · exact (Storage.assigned_eq_iff _ v).2 (hkey hname)
  · obtain ⟨cause, hcause⟩ :=
      Plan.types_of_unbounded (inRange_of_ofText hq) htables hjoin hunbounded
    exact ⟨_, (planText_of_ok hq).trans hcause, rfl⟩
  · obtain ⟨text, htext⟩ := overScope_of_overflows hoverflows outerJoin orderBy
    exact ⟨_, planText_of_error (hover.trans htext), rfl⟩

/-- Bounds on the key and on a column of 64 bits. -/
def dampText : String :=
  "SELECT id FROM samples WHERE id > -7 AND hum < 3000000000"

/-- The query that the text stands for. -/
def damp : Resolved :=
  { Resolved.ofTable samples with
    predicates := [⟨0, .gt, .integer (-7)⟩, ⟨2, .lt, .integer 3000000000⟩]
    projections := [{ name := "id", kind := .column 0 }] }

theorem ofText_dampText : Query.ofText samplesCatalog dampText = .ok damp := by
  decide +kernel

theorem access_damp : Plan.Access.ofQuery damp
    = Plan.Access.ofFilters damp.hints [⟨0, .gt, -7⟩, ⟨2, .lt, 3000000000⟩] := rfl

/-- An upper bound on the key below zero. -/
def negativeText : String :=
  "SELECT id FROM samples WHERE id < 0"

/-- The query that the text stands for. -/
def negative : Resolved :=
  { Resolved.ofTable samples with
    predicates := [⟨0, .lt, .integer 0⟩]
    projections := [{ name := "id", kind := .column 0 }] }

theorem ofText_negativeText : Query.ofText samplesCatalog negativeText = .ok negative := by
  decide +kernel

theorem unbounded_negative : negative.Unbounded := by
  have hasks : negative.Asks ⟨0, .lt, 0⟩ := List.mem_singleton_self _
  have hgreatest : Plan.Filter.greatest? ⟨0, .lt, 0⟩ = some (-1) := rfl
  exact .negative hasks rfl hgreatest (by decide)

/-- An integer out of range. -/
def vastText : String :=
  "SELECT id FROM samples WHERE hum = 9223372036854775808"

/-- The selection that the text makes. -/
def vast : Sql.Select where
  distinct := false
  items := [.expr (.ident ⟨"id", none⟩) none]
  sources := [⟨.table [⟨"samples", none⟩] none, []⟩]
  selection := some (.binary (.compare .eq) (.ident ⟨"hum", none⟩)
    (.number "9223372036854775808" false))
  grouping := .exprs []
  having := none

theorem ofText_vastText :
    Query.ofText samplesCatalog vastText = overScope ⟨samples, none⟩ false vast [] := by
  decide +kernel

theorem overflows_vast : Scope.Overflows ⟨samples, none⟩ vast := by
  have hprojections : Scope.projections ⟨samples, none⟩ vast.items
      = .ok [{ name := "id", kind := .column 0 }] := by decide +kernel
  have hnames : Scope.Names ⟨samples, none⟩ (.ident ⟨"hum", none⟩) 2 :=
    .plain (by decide +kernel)
  have hexceeds : Exceeds (.number "9223372036854775808" false) :=
    .number (by decide +kernel) (by decide +kernel)
  have hparts : conjuncts (.binary (.compare .eq) (.ident ⟨"hum", none⟩)
      (.number "9223372036854775808" false)) = [] ++ .binary (.compare .eq)
        (.ident ⟨"hum", none⟩) (.number "9223372036854775808" false) :: [] := rfl
  exact .selection hprojections rfl hparts (by simp) (.inl ⟨hnames, hexceeds⟩)

theorem stored_integers_samples :
    (∃ p, (planText samplesCatalog dampText).run.value = .ok p ∧
      .literal "minKey" .uint64 (.integer 0) ∈ p.steps ∧ Plan.Origin damp "minKey" 0 ∧
      Storage.uint64.assigned 0 = 0 ∧
      .literal "selValLThum" .int64 (.integer 3000000000) ∈ p.steps ∧
      Storage.int64.assigned 3000000000 = 3000000000) ∧
    (∃ f, (planText samplesCatalog negativeText).run.value = .error f ∧
      f.code = "EMBEDDB_TYPE_ERROR") ∧
    ∃ f, (planText samplesCatalog vastText).run.value = .error f ∧
      f.code = "EMBEDDB_TYPE_ERROR" := by
  obtain ⟨p, hp, hkey, hhum⟩ : ∃ p, (planText samplesCatalog dampText).run.value = .ok p ∧
      .literal "minKey" .uint64 (.integer 0) ∈ p.steps ∧
      .literal "selValLThum" .int64 (.integer 3000000000) ∈ p.steps := by
    rw [planText_of_ok ofText_dampText, Plan.ofQuery, Plan.build, access_damp,
      Plan.Access.ofFilters, Plan.Access.candidates_of_pairwise (by decide)]
    exact ⟨_, rfl, .head _, .tail _ (.tail _ (.tail _ (.head _)))⟩
  obtain ⟨q, hq, hstored⟩ := (stored_integers samplesCatalog dampText).1 p hp
  obtain rfl : q = damp := Except.ok.inj (hq.symm.trans ofText_dampText)
  obtain ⟨horigin, -, -, hassigned⟩ := hstored _ _ _ hkey
  refine ⟨⟨p, hp, hkey, horigin, hassigned (.inr ⟨rfl, .inl rfl⟩), hhum, ?_⟩, ?_, ?_⟩
  · exact (hstored _ _ _ hhum).2.2.2 (.inl rfl)
  · exact (stored_integers samplesCatalog negativeText).2.1 negative ofText_negativeText rfl rfl
      unbounded_negative
  · exact (stored_integers samplesCatalog vastText).2.2 _ _ _ _ ofText_vastText overflows_vast

end SqlPipeline
