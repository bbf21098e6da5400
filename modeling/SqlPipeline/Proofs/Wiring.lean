/-
**The steps of a program form one line of operators.**

Steps hand values on by the names of variables only.  So a step is judged by the steps before it:
what it reads must have been stored there, with the type of the column that it is compared with,
and its input must be the operator that was built last.  Each operator that is put on top keeps
this, whatever bounds, filters, groups and conditions there are below.

Main definitions:

* `Plan.topOf` — the variable of the operator that was built last;
* `Plan.Step.Follows` — a step fits the steps before it;
* `Plan.Program.Linear` — each step of a program fits those before it, and the last operator is the
  root.

Main results:

* `Plan.wired_scan`, `Plan.Wired.selection`, `Plan.Wired.aggregate`, `Plan.Wired.having` — one more
  operator on top;
* `Plan.linear_of_ofQuery` — **the steps of a program form one line of operators**.
-/

import SqlPipeline.Proofs.Pipeline
import SqlPipeline.Proofs.Groups

set_option autoImplicit false

namespace SqlPipeline.Plan

open Journal Layout Query Outcome

/-! ### Steps and those before them -/

namespace Step

/-- The variable of the operator that a step builds, if it builds one. -/
def operator? : Step → Option String
  | .literal .. => none
  | .iterator .. => none
  | .scan _ name => some name
  | .selection name _ _ _ _ => some name
  | .aggregate _ _ _ name => some name
  | .having name _ _ _ _ => some name

/-- Whether a step makes the iterator. -/
def isIterator : Step → Bool
  | .iterator .. => true
  | _ => false

/-- Whether a step scans the records. -/
def isScan : Step → Bool
  | .scan .. => true
  | _ => false

/-- Whether a step is a condition on groups. -/
def isHaving : Step → Bool
  | .having .. => true
  | _ => false

end Step

/-- The variable of the operator that was built last. -/
def topOf (steps : List Step) : Option String :=
  (steps.filterMap Step.operator?).getLast?

/-- A bound on a column, if there is one, was stored before with the type of the column. -/
def Bounds (stored : Schema) (column : Option Nat) (before : List Step) (bound : Option String) :
    Prop :=
  ∀ name ∈ bound, ∃ n t v, column = some n ∧ stored.type? n = some t ∧
    .literal name t v ∈ before

/-- The step just before stores a value with the type of a column, which the layout has. -/
def Compared (schema : Schema) (column : Nat) (before : List Step) (value : String) : Prop :=
  ∃ earlier t v, schema.type? column = some t ∧ before = earlier ++ [.literal value t v]

/-- A step fits the steps before it. -/
def Step.Follows (stored : Schema) (access : Access) (grouping : Option Grouping)
    (before : List Step) : Step → Prop
  | .literal .. => True
  | .iterator minKey maxKey minData maxData =>
    Bounds stored access.keyColumn before minKey ∧
      Bounds stored access.keyColumn before maxKey ∧
      Bounds stored access.secondaryColumn before minData ∧
      Bounds stored access.secondaryColumn before maxData
  | .scan schema _ => schema = stored ∧ before.countP isIterator = 1
  | .selection _ input column _ value =>
    topOf before = some input ∧ Compared stored column before value ∧
      before.countP isAggregate = 0
  | .aggregate input descriptors _ _ =>
    topOf before = some input ∧ grouping.map Grouping.descriptors = some descriptors
  | .having _ input column _ value =>
    topOf before = some input ∧ before.countP isAggregate = 1 ∧
      ∃ g ∈ grouping, Compared g.schema column before value

/-- Each step fits those before it. -/
def Follow (stored : Schema) (access : Access) (grouping : Option Grouping)
    (steps : List Step) : Prop :=
  ∀ before st after, steps = before ++ st :: after → st.Follows stored access grouping before

/-- The steps of a program form one line: there are one iterator and one scan, each step fits those
before it, and the last operator is the root. -/
structure Program.Linear (stored : Schema) (p : Program) : Prop where
  iterators : p.steps.countP Step.isIterator = 1
  scans : p.steps.countP Step.isScan = 1
  aggregates : p.steps.countP Step.isAggregate = p.grouping.toList.length
  havings : p.steps.countP Step.isHaving = p.having.toList.length
  follow : Follow stored p.access p.grouping p.steps
  root : topOf p.steps = some p.root

section

variable {stored : Schema} {access : Access} {grouping : Option Grouping} {steps : List Step}

theorem follow_nil : Follow stored access grouping [] := by
  intro before st after h
  simp at h

theorem Follow.concat (h : Follow stored access grouping steps) {st : Step}
    (hst : st.Follows stored access grouping steps) :
    Follow stored access grouping (steps ++ [st]) := by
  intro before st' after heq
  rcases List.eq_nil_or_concat after with rfl | ⟨after, last, rfl⟩
  · obtain ⟨rfl, hlast⟩ := List.append_inj' heq rfl
    cases hlast
    exact hst
  · rw [List.concat_eq_append, ← List.cons_append, ← List.append_assoc] at heq
    obtain ⟨hinit, -⟩ := List.append_inj' heq rfl
    exact h before st' after hinit

/-- Storing literals fits any steps. -/
theorem Follow.append_literals (h : Follow stored access grouping steps) {ls : List Step}
    (hls : ∀ l ∈ ls, ∃ name t v, l = .literal name t v) :
    Follow stored access grouping (steps ++ ls) := by
  induction ls generalizing steps with
  | nil => rwa [List.append_nil]
  | cons l ls ih =>
      obtain ⟨⟨name, t, v, rfl⟩, hrest⟩ := List.forall_mem_cons.1 hls
      rw [← List.singleton_append, ← List.append_assoc]
      exact ih (h.concat trivial) hrest

theorem topOf_concat {st : Step} {name : String} (h : st.operator? = some name) :
    topOf (steps ++ [st]) = some name := by
  simp [topOf, List.filterMap_append, h]

theorem topOf_concat_literal (name : String) (t : Storage) (v : Literal) :
    topOf (steps ++ [.literal name t v]) = topOf steps := by
  simp [topOf, Step.operator?]

end

/-! ### The scan -/

section

variable {stored : Schema} {access : Access}

theorem boundSteps_literal {name : String} {storage : Option Storage} {value : Option Int} :
    ∀ l ∈ boundSteps name storage value, ∃ name t v, l = .literal name t v := by
  intro l hl
  obtain ⟨t, v, -, -, rfl⟩ := mem_boundSteps.1 hl
  exact ⟨name, t, _, rfl⟩

theorem boundsSteps_literal {keyType dataType : Option Storage} :
    ∀ l ∈ Assembly.boundsSteps access keyType dataType, ∃ name t v, l = .literal name t v := by
  simp only [Assembly.boundsSteps, List.forall_mem_append]
  exact ⟨⟨⟨boundSteps_literal, boundSteps_literal⟩, boundSteps_literal⟩, boundSteps_literal⟩

/-- A bound is stored with the type of its column. -/
theorem bounds_boundSteps {column : Option Nat} {storage : Option Storage} {name : String}
    {value : Option Int} {before : List Step} (hcolumn : column.mapM stored.typeAt = .ok storage)
    (hsome : value.isSome → storage.isSome)
    (hsub : ∀ l ∈ boundSteps name storage value, l ∈ before) :
    Bounds stored column before (boundName name value) := by
  intro v hv
  obtain ⟨x, rfl, rfl⟩ := Option.map_eq_some_iff.1 hv
  obtain ⟨t, rfl⟩ := Option.isSome_iff_exists.1 (hsome rfl)
  obtain ⟨n, hn, ht⟩ := Option.bind_eq_some_iff.1 (sourceType_eq hcolumn).symm
  exact ⟨n, t, .integer x, hn, ht, hsub _ (by simp [boundSteps])⟩

end

/-! ### Operators on top -/

/-- Steps form one line up to the operator `top`, with the given numbers of groups and of conditions
on them. -/
structure Wired (stored : Schema) (access : Access) (grouping : Option Grouping)
    (aggregates havings : Nat) (steps : List Step) (top : String) : Prop where
  iterators : steps.countP Step.isIterator = 1
  scans : steps.countP Step.isScan = 1
  aggregates : steps.countP Step.isAggregate = aggregates
  havings : steps.countP Step.isHaving = havings
  follow : Follow stored access grouping steps
  top : topOf steps = some top

section

variable {stored : Schema} {access : Access} {grouping : Option Grouping} {steps : List Step}
  {top : String} {m n : Nat}

theorem Wired.literal (h : Wired stored access grouping m n steps top) (name : String)
    (t : Storage) (v : Literal) :
    Wired stored access grouping m n (steps ++ [.literal name t v]) top := by
  refine ⟨?_, ?_, ?_, ?_, h.follow.concat trivial, (topOf_concat_literal ..).trans h.top⟩ <;>
    rw [List.countP_append]
  · exact h.iterators
  · exact h.scans
  · exact h.aggregates
  · exact h.havings

/-- One more operator goes on top. -/
theorem Wired.operator (h : Wired stored access grouping m n steps top) (st : Step) {name : String}
    (hst : st.Follows stored access grouping steps) (hname : st.operator? = some name)
    (hscan : st.isScan = false) :
    Wired stored access grouping (m + [st].countP Step.isAggregate)
      (n + [st].countP Step.isHaving) (steps ++ [st]) name := by
  have hiter : st.isIterator = false := by
    cases st with
    | iterator => cases hname
    | _ => rfl
  refine ⟨?_, ?_, ?_, ?_, h.follow.concat hst, topOf_concat hname⟩ <;> rw [List.countP_append]
  · rw [h.iterators, List.countP_singleton, hiter]
    rfl
  · rw [h.scans, List.countP_singleton, hscan]
    rfl
  · rw [h.aggregates]
  · rw [h.havings]

theorem countP_literals {ls : List Step} (hls : ∀ l ∈ ls, ∃ name t v, l = Step.literal name t v)
    {f : Step → Bool} (hf : ∀ name t v, f (.literal name t v) = false) : ls.countP f = 0 := by
  rw [List.countP_eq_zero]
  intro l hl
  obtain ⟨name, t, v, rfl⟩ := hls l hl
  simp [hf]

/-- A scan starts the line. -/
theorem wired_scan (grouping : Option Grouping) {table : String} {a : Assembly}
    (h : ({ table, stored } : Assembly).scan access = .ok a) :
    a.stored = stored ∧ Wired stored access grouping 0 0 a.steps a.top := by
  obtain ⟨keyType, dataType, hkey, hdata, hk, hd, rfl⟩ := Assembly.scan_eq_ok h
  refine ⟨rfl, ?_⟩
  have hlits : ∀ l ∈ Assembly.boundsSteps access keyType dataType,
      ∃ name t v, l = .literal name t v := boundsSteps_literal
  have hiter : (Assembly.iteratorStep access).Follows stored access grouping
      (Assembly.boundsSteps access keyType dataType) := by
    refine ⟨?_, ?_, ?_, ?_⟩
    · exact bounds_boundSteps hkey (fun h => hk (.inl h))
        (by simp +contextual [Assembly.boundsSteps])
    · exact bounds_boundSteps hkey (fun h => hk (.inr h))
        (by simp +contextual [Assembly.boundsSteps])
    · exact bounds_boundSteps hdata (fun h => hd (.inl h))
        (by simp +contextual [Assembly.boundsSteps])
    · exact bounds_boundSteps hdata (fun h => hd (.inr h))
        (by simp +contextual [Assembly.boundsSteps])
  have hscan : (Step.scan stored "scanOp").Follows stored access grouping
      (Assembly.boundsSteps access keyType dataType ++ [Assembly.iteratorStep access]) := by
    refine ⟨rfl, ?_⟩
    rw [List.countP_append, countP_literals hlits fun _ _ _ => rfl]
    rfl
  have hfollow := ((follow_nil.append_literals hlits).concat hiter).concat hscan
  rw [List.append_assoc] at hfollow
  -- the literals of the bounds are neither of the steps that are counted
  have hcount : ∀ f : Step → Bool, (∀ name t v, f (.literal name t v) = false) →
      ([] ++ Assembly.boundsSteps access keyType dataType
        ++ [Assembly.iteratorStep access, .scan stored "scanOp"]).countP f
        = [Assembly.iteratorStep access, .scan stored "scanOp"].countP f := by
    intro f hf
    rw [List.nil_append, List.countP_append, countP_literals hlits hf, Nat.zero_add]
  refine ⟨hcount _ fun _ _ _ => rfl, hcount _ fun _ _ _ => rfl, hcount _ fun _ _ _ => rfl,
    hcount _ fun _ _ _ => rfl, hfollow, ?_⟩
  rw [topOf, List.filterMap_append, List.getLast?_append]
  rfl

/-- A filter goes on top of a line without groups. -/
theorem Wired.selection {a a' : Assembly} {f : Filter} (h : a.selection f = .ok a')
    (ha : Wired a.stored access grouping 0 0 a.steps a.top) :
    Wired a.stored access grouping 0 0 a'.steps a'.top := by
  obtain ⟨c, hc, rfl⟩ := Assembly.selection_eq_ok h
  dsimp only
  generalize a.names.fresh ("selVal" ++ (f.op.suffix ++ c.name)) = value
  generalize value.2.fresh ("select" ++ (f.op.suffix ++ c.name)) = name
  have hlit := ha.literal value.1 c.type (.integer f.value)
  have htype : a.stored.type? f.column = some c.type := by rw [Schema.type?, hc, Option.map_some]
  have hop := hlit.operator (.selection name.1 a.top f.column f.op value.1)
    ⟨hlit.top, ⟨a.steps, c.type, _, htype, rfl⟩, hlit.aggregates⟩ rfl rfl
  rwa [List.append_assoc] at hop

theorem Wired.selections {a a' : Assembly} {fs : List Filter} (h : a.selections fs = .ok a')
    (ha : Wired a.stored access grouping 0 0 a.steps a.top) :
    Wired a.stored access grouping 0 0 a'.steps a'.top := by
  refine (Assembly.selections_keep (I := fun b => b.stored = a.stored ∧
    Wired a.stored access grouping 0 0 b.steps b.top) h ?_ ⟨rfl, ha⟩).2
  rintro b b' f _ hf ⟨hstored, hb⟩
  rw [← hstored] at hb ⊢
  exact ⟨(Assembly.selection_stored hf).1, Wired.selection hf hb⟩

/-- The groups go on top of a line without groups. -/
theorem Wired.aggregate {a : Assembly} {g : Grouping}
    (ha : Wired stored access (some g) 0 0 a.steps a.top) :
    Wired stored access (some g) 1 0 (a.aggregate g).steps (a.aggregate g).top :=
  ha.operator (.aggregate a.top g.descriptors "aggFuncs" "aggOp") ⟨ha.top, rfl⟩ rfl rfl

/-- A condition goes on top of a line with groups. -/
theorem Wired.having {a : Assembly} {g : Grouping} {hf : HavingFilter}
    (ha : Wired stored access (some g) 1 0 a.steps a.top)
    (htype : g.schema.type? hf.column = some hf.storage) :
    Wired stored access (some g) 1 1 (a.having hf).steps (a.having hf).top := by
  have hlit := ha.literal "havingValue" hf.storage hf.literal
  exact hlit.operator (.having "havingOp" a.top hf.column hf.op "havingValue")
    ⟨hlit.top, hlit.aggregates, g, rfl, a.steps, hf.storage, _, htype, rfl⟩ rfl rfl

end

/-! ### Programs -/

section

variable {q : Resolved} {p : Program}

/-- The steps of a program that comes from its stages form one line. -/
theorem Stages.linear (st : Stages q p) : p.Linear st.stored := by
  obtain ⟨a₁, a₂, hscan, hselections, hassembly⟩ := operators_eq_ok st.operators_eq
  obtain ⟨hstored, hwired⟩ := wired_scan p.grouping hscan
  rw [← hstored] at hwired
  replace hwired := Wired.selections hselections hwired
  rw [hstored] at hwired
  have hlinear : Wired st.stored p.access p.grouping p.grouping.toList.length
      p.having.toList.length st.assembly.steps st.assembly.top := by
    cases hg : p.grouping with
    | none =>
        have hnone := st.having_none hg
        rw [hg] at hwired
        rw [hg, hnone] at hassembly
        rw [hnone, hassembly]
        exact hwired
    | some g =>
        rw [hg] at hwired
        rw [hg] at hassembly
        cases hh : p.having with
        | none =>
            rw [hh] at hassembly
            rw [hassembly]
            exact hwired.aggregate
        | some hf =>
            have htype := st.having_eq
            rw [hh] at htype hassembly
            obtain ⟨t, g', column, -, hsome, -, hterm⟩ := having?_eq_ok htype
            obtain ⟨-, rfl, htype, -⟩ := HavingFilter.ofTerm_eq_ok hterm
            rw [hg] at hsome
            cases hsome
            rw [hassembly]
            exact hwired.aggregate.having htype
  rw [← st.steps_eq, ← st.root_eq] at hlinear
  exact ⟨hlinear.iterators, hlinear.scans, hlinear.aggregates, hlinear.havings, hlinear.follow,
    hlinear.top⟩

/-- Trips by tens of kilometres, from some trip on, with two conditions of one kind on one
column. -/
def lateTripsByDistance : Resolved :=
  { tripsByDistance with
    predicates := [⟨0, .gt, .integer 5⟩, ⟨1, .ne, .integer 3⟩, ⟨1, .ne, .integer 4⟩] }

theorem access_lateTripsByDistance : Access.ofQuery lateTripsByDistance
    = Access.ofFilters lateTripsByDistance.hints [⟨0, .gt, 5⟩, ⟨1, .ne, 3⟩, ⟨1, .ne, 4⟩] := rfl

/-- **The steps of a program form one line of operators.** -/
theorem linear_of_ofQuery (hp : (ofQuery q).run.value = .ok p) :
    ∃ table stored, q.tables = [table] ∧ ofTable table = .ok stored ∧ p.Linear stored := by
  obtain ⟨st⟩ := stages_of_ofQuery hp
  exact ⟨st.table, st.stored, st.tables_eq, st.stored_eq, st.linear⟩

theorem linear_lateTripsByDistance :
    ∃ p, (ofQuery lateTripsByDistance).run.value = .ok p ∧ p.steps.length = 10 ∧
      ∃ table stored, lateTripsByDistance.tables = [table] ∧ ofTable table = .ok stored ∧
        p.Linear stored := by
  obtain ⟨p, hp, hlength⟩ : ∃ p, (ofQuery lateTripsByDistance).run.value = .ok p ∧
      p.steps.length = 10 := by
    rw [ofQuery, build, access_lateTripsByDistance, Access.ofFilters,
      Access.candidates_of_pairwise (by decide)]
    exact ⟨_, rfl, rfl⟩
  exact ⟨p, hp, hlength, linear_of_ofQuery hp⟩

end

end SqlPipeline.Plan
