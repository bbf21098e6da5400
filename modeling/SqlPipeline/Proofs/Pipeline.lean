/-
**The operators select the records that the query asks for.**

The steps of a program declare variables: literals, the iterator over the records within bounds,
the scan, and one operator after the other that keeps some of the records of its input.  Here the
steps below the groups are run on a table.  Every variable is declared once, and a step that reads
a variable which does not hold what it needs has no meaning; so a run that ends tells that the
names which the steps hand on to each other fit together.

Main definitions:

* `Plan.Env` — the variables declared so far;
* `Plan.Step.run?` — the variables after a step;
* `Plan.Program.selected?` — the records that reach the groups, or the output if there are none.

Main results:

* `Plan.computes_scan`, `Plan.computes_selection` — what the scan and a filter give;
* `Plan.selected_records` — **the operators select the records that meet the conditions**: none of
  these is lost, and if no bound was replaced by a different one, no other is kept.
-/

import SqlPipeline.Proofs.FreshNames
import SqlPipeline.Proofs.Stages

set_option autoImplicit false

namespace SqlPipeline.Plan

open Journal Layout Query Outcome

/-! ### Variables -/

/-- What a variable holds. -/
inductive Held where
  /-- A literal. -/
  | literal (l : Literal)
  /-- The records that the iterator or an operator gives. -/
  | records (rows : List Row)

/-- The variables declared so far, the latest first. -/
abbrev Env : Type := List (String × Held)

namespace Env

/-- The integer that a variable holds, if it holds one. -/
def integer? (env : Env) (name : String) : Option Int :=
  match env.lookup name with
  | some (.literal l) => l.integer?
  | _ => none

/-- The records that a variable holds, if it holds records. -/
def records? (env : Env) (name : String) : Option (List Row) :=
  match env.lookup name with
  | some (.records rows) => some rows
  | _ => none

/-- The bounds that stand in variables. -/
def bound? (env : Env) (min max : Option String) : Option Bound := do
  return ⟨← min.mapM env.integer?, ← max.mapM env.integer?⟩

/-- The variables with one more, whose name must be new. -/
def declare (env : Env) (name : String) (x : Held) : Option Env :=
  match env.lookup name with
  | some _ => none
  | none => some ((name, x) :: env)

end Env

/-! ### Steps -/

/-- Whether a step computes groups. -/
def Step.isAggregate : Step → Bool
  | .aggregate .. => true
  | _ => false

/-- The variables after a step below the groups, over a table whose data is bounded on the column
`data`.  The iterator keeps the records whose key, which is their first column, and whose data lie
within the bounds. -/
def Step.run? (data : Option Nat) (table : List Row) (env : Env) : Step → Option Env
  | .literal name _ value => env.declare name (.literal value)
  | .iterator minKey maxKey minData maxData => do
    let key ← env.bound? minKey maxKey
    let bound ← env.bound? minData maxData
    env.declare "it" (.records (table.filter fun r =>
      key.contains (r.value 0) && data.all fun n => bound.contains (r.value n)))
  | .scan _ name => do
    let rows ← env.records? "it"
    env.declare name (.records rows)
  | .selection name input column op value => do
    let rows ← env.records? input
    let v ← env.integer? value
    env.declare name (.records (rows.filter fun r => op.holds (r.value column) v))
  | .aggregate .. => none
  | .having .. => none

/-- The steps below the groups. -/
def Program.below (p : Program) : List Step :=
  p.steps.takeWhile fun st => !st.isAggregate

/-- The operator below the groups: the input of the groups, or the last operator if there are
none. -/
def Program.source (p : Program) : String :=
  match p.steps.find? Step.isAggregate with
  | some (.aggregate input _ _ _) => input
  | _ => p.root

/-- The records that reach the groups, or the output if there are none. -/
def Program.selected? (p : Program) (table : List Row) : Option (List Row) := do
  let env ← p.below.foldlM (Step.run? p.access.secondaryColumn table) []
  env.records? p.source

/-! ### Declaring variables -/

namespace Env

/-- All variables have names among the given ones. -/
def Within (env : Env) (names : List String) : Prop :=
  ∀ e ∈ env, e.1 ∈ names

theorem Within.lookup_eq_none {env : Env} {names : List String} (h : env.Within names)
    {name : String} (hn : name ∉ names) : env.lookup name = none := by
  rw [List.lookup_eq_none_iff]
  intro e he
  have : name ≠ e.1 := by
    rintro rfl
    exact hn (h e he)
  simpa using this

theorem Within.cons {env : Env} {names : List String} (h : env.Within names) {name : String}
    (x : Held) : Within ((name, x) :: env) (name :: names) := by
  intro e he
  rcases List.mem_cons.1 he with rfl | he
  · exact List.mem_cons_self
  · exact List.mem_cons_of_mem _ (h e he)

theorem declare_eq_some {env : Env} {name : String} (h : env.lookup name = none) (x : Held) :
    env.declare name x = some ((name, x) :: env) := by
  rw [declare, h]

theorem lookup_cons_of_ne {env : Env} {name other : String} {x : Held} (h : name ≠ other) :
    List.lookup name ((other, x) :: env) = env.lookup name := by
  rw [List.lookup_cons, beq_eq_false_iff_ne.2 h]

end Env

/-! ### The scan -/

section

variable {data : Option Nat} {table : List Row}

/-- The variable of a bound, if there is a bound. -/
def boundVars (name : String) (value : Option Int) : Env :=
  (value.map fun v => (name, .literal (.integer v))).toList

theorem run_boundSteps {env : Env} {name : String} {storage : Option Storage}
    {value : Option Int} (hs : value.isSome → storage.isSome) (hn : env.lookup name = none) :
    (boundSteps name storage value).foldlM (Step.run? data table) env
      = some (boundVars name value ++ env) := by
  cases value with
  | none => cases storage <;> rfl
  | some v =>
      cases storage with
      | none => simp at hs
      | some t =>
          show (Step.run? data table env (.literal name t (.integer v)) >>= pure) = _
          rw [Step.run?, Env.declare_eq_some hn]
          rfl

/-- The variables of the bounds of an access. -/
def boundsVars (access : Access) : Env :=
  boundVars "maxData" access.secondary.max ++ (boundVars "minData" access.secondary.min
    ++ (boundVars "maxKey" access.key.max ++ (boundVars "minKey" access.key.min ++ [])))

theorem run_boundsSteps {access : Access} {keyType dataType : Option Storage}
    (hk : access.key.min.isSome ∨ access.key.max.isSome → keyType.isSome)
    (hd : access.secondary.min.isSome ∨ access.secondary.max.isSome → dataType.isSome) :
    (Assembly.boundsSteps access keyType dataType).foldlM (Step.run? data table) []
      = some (boundsVars access) := by
  -- the names of the four bounds differ, so each of them is new when its step is reached
  simp only [Assembly.boundsSteps, List.foldlM_append]
  rw [run_boundSteps (fun h => hk (.inl h)) rfl, Option.bind_eq_bind, Option.bind_some,
    run_boundSteps (fun h => hk (.inr h)), Option.bind_some,
    run_boundSteps (fun h => hd (.inl h)), Option.bind_some,
    run_boundSteps (fun h => hd (.inr h))]
  · rfl
  · cases access.key.min <;> cases access.key.max <;> cases access.secondary.min <;> rfl
  · cases access.key.min <;> cases access.key.max <;> rfl
  · cases access.key.min <;> rfl

theorem bound?_key (access : Access) :
    (boundsVars access).bound? (boundName "minKey" access.key.min)
      (boundName "maxKey" access.key.max) = some access.key := by
  rcases access with ⟨-, ⟨_ | _, _ | _⟩, -, ⟨_ | _, _ | _⟩, -⟩ <;> rfl

theorem bound?_data (access : Access) :
    (boundsVars access).bound? (boundName "minData" access.secondary.min)
      (boundName "maxData" access.secondary.max) = some access.secondary := by
  rcases access with ⟨-, ⟨_ | _, _ | _⟩, -, ⟨_ | _, _ | _⟩, -⟩ <;> rfl

theorem within_boundsVars (access : Access) : (boundsVars access).Within fixedNames := by
  rcases access with ⟨-, ⟨_ | _, _ | _⟩, -, ⟨_ | _, _ | _⟩, -⟩ <;>
    simp [boundsVars, boundVars, Env.Within, fixedNames]

theorem lookup_boundsVars (access : Access) :
    (boundsVars access).lookup "it" = none ∧ (boundsVars access).lookup "scanOp" = none := by
  rcases access with ⟨-, ⟨_ | _, _ | _⟩, -, ⟨_ | _, _ | _⟩, -⟩ <;> exact ⟨rfl, rfl⟩

/-- The steps so far can be run, the last operator gives the given records, and no variable has a
name that is still free. -/
def Assembly.Computes (a : Assembly) (data : Option Nat) (table rows : List Row) : Prop :=
  ∃ env, a.steps.foldlM (Step.run? data table) [] = some env ∧ env.records? a.top = some rows ∧
    env.Within a.names.used

/-- **A scan gives the records within the bounds.** -/
theorem computes_scan {name : String} {stored : Schema} {access : Access} {a : Assembly}
    (h : ({ table := name, stored } : Assembly).scan access = .ok a) :
    a.Computes data table (table.filter fun r => access.key.contains (r.value 0) &&
      data.all fun n => access.secondary.contains (r.value n)) := by
  obtain ⟨keyType, dataType, -, -, hk, hd, rfl⟩ := Assembly.scan_eq_ok h
  obtain ⟨hit, hscan⟩ := lookup_boundsVars access
  set rows := table.filter fun r =>
    access.key.contains (r.value 0) && data.all fun n => access.secondary.contains (r.value n)
  -- first the bounds, then the iterator, which reads them, then the scan, which reads the iterator
  have hiter : Step.run? data table (boundsVars access) (Assembly.iteratorStep access)
      = some (("it", .records rows) :: boundsVars access) := by
    rw [Assembly.iteratorStep, Step.run?, bound?_key, bound?_data]
    exact Env.declare_eq_some hit _
  have hrun : Step.run? data table (("it", .records rows) :: boundsVars access)
      (.scan stored "scanOp")
      = some (("scanOp", .records rows) :: ("it", .records rows) :: boundsVars access) := by
    refine Env.declare_eq_some ?_ _
    rw [Env.lookup_cons_of_ne (by decide), hscan]
  refine ⟨("scanOp", .records rows) :: ("it", .records rows) :: boundsVars access, ?_, rfl, ?_⟩
  · rw [List.nil_append, List.foldlM_append, run_boundsSteps hk hd, Option.bind_eq_bind,
      Option.bind_some, List.foldlM_cons, hiter, Option.bind_eq_bind, Option.bind_some,
      List.foldlM_cons, hrun]
    rfl
  · intro e he
    rcases List.mem_cons.1 he with rfl | he
    · simp [fixedNames]
    · rcases List.mem_cons.1 he with rfl | he
      · simp [fixedNames]
      · exact within_boundsVars access e he

/-! ### The filters -/

/-- **A filter keeps the records that pass it.** -/
theorem computes_selection {a a' : Assembly} {f : Filter} {rows : List Row}
    (h : a.selection f = .ok a') (ha : a.Computes data table rows) :
    a'.Computes data table (rows.filter f.holds) := by
  obtain ⟨c, -, rfl⟩ := Assembly.selection_eq_ok h
  obtain ⟨env, hrun, htop, hwithin⟩ := ha
  dsimp only
  generalize "selVal" ++ (f.op.suffix ++ c.name) = valueStem
  generalize "select" ++ (f.op.suffix ++ c.name) = nameStem
  set value := a.names.fresh valueStem with hvalue
  set name := value.2.fresh nameStem with hname
  have hused : value.2.used = value.1 :: a.names.used := NameSupply.used_fresh ..
  -- both names are new, so the value and the operator are declared, and the input is still there
  have hnew : env.lookup value.1 = none :=
    hwithin.lookup_eq_none (NameSupply.fresh_not_mem_used _ _)
  set env₁ : Env := (value.1, .literal (.integer f.value)) :: env with henv₁
  have hwithin₁ : env₁.Within value.2.used := by
    rw [hused]
    exact hwithin.cons _
  have hnew₁ : env₁.lookup name.1 = none :=
    hwithin₁.lookup_eq_none (NameSupply.fresh_not_mem_used _ _)
  have hinput : env₁.records? a.top = some rows := by
    have hne : a.top ≠ value.1 := by
      intro heq
      rw [Env.records?, heq, hnew] at htop
      cases htop
    rw [Env.records?, henv₁, Env.lookup_cons_of_ne hne]
    exact htop
  have hstored : env₁.integer? value.1 = some f.value := by
    rw [Env.integer?, henv₁, List.lookup_cons_self]
    rfl
  refine ⟨(name.1, .records (rows.filter f.holds)) :: env₁, ?_, ?_, ?_⟩
  · rw [List.foldlM_append, hrun, Option.bind_eq_bind, Option.bind_some, List.foldlM_cons,
      Step.run?, Env.declare_eq_some hnew, Option.bind_eq_bind, Option.bind_some, List.foldlM_cons,
      Step.run?, hinput, hstored]
    simp only [Option.bind_eq_bind, Option.bind_some]
    rw [Env.declare_eq_some hnew₁]
    rfl
  · rw [Env.records?, List.lookup_cons_self]
  · exact hwithin₁.cons _

theorem computes_selections {a a' : Assembly} {fs : List Filter} {rows : List Row}
    (h : a.selections fs = .ok a') (ha : a.Computes data table rows) :
    a'.Computes data table (rows.filter fun r => fs.all fun f => f.holds r) := by
  induction fs generalizing a rows with
  | nil =>
      obtain rfl := pure_eq_ok.1 h
      simpa using ha
  | cons f fs ih =>
      rw [Assembly.selections, List.foldlM_cons, bind_eq_ok] at h
      obtain ⟨a₁, h₁, h₂⟩ := h
      have := ih h₂ (computes_selection h₁ ha)
      simpa only [List.filter_filter, List.all_cons, Bool.and_comm] using this

/-- A run meets no groups. -/
theorem not_isAggregate_of_run {steps : List Step} {env env' : Env}
    (h : steps.foldlM (Step.run? data table) env = some env') :
    ∀ st ∈ steps, st.isAggregate = false := by
  induction steps generalizing env with
  | nil => simp
  | cons st steps ih =>
      rw [List.foldlM_cons, Option.bind_eq_bind, Option.bind_eq_some_iff] at h
      obtain ⟨env₁, h₁, h₂⟩ := h
      refine List.forall_mem_cons.2 ⟨?_, ih h₂⟩
      cases st with
      | aggregate => cases h₁
      | _ => rfl

/-- The records that the operators below the groups compute are those that are selected. -/
theorem selected?_of_computes {p : Program} {a : Assembly} {rows : List Row}
    (ha : a.Computes p.access.secondaryColumn table rows)
    (hp : (p.steps = a.steps ∧ p.root = a.top) ∨
      ∃ descriptors packed name rest,
        p.steps = a.steps ++ .aggregate a.top descriptors packed name :: rest) :
    p.selected? table = some rows := by
  obtain ⟨env, hrun, htop, -⟩ := ha
  have hbelow := not_isAggregate_of_run hrun
  have hnone : a.steps.find? Step.isAggregate = none := by
    simpa only [List.find?_eq_none, Bool.not_eq_true] using hbelow
  obtain ⟨hsteps, hsource⟩ : p.below = a.steps ∧ p.source = a.top := by
    unfold Program.below Program.source
    rcases hp with ⟨hs, hr⟩ | ⟨descriptors, packed, name, rest, hs⟩
    · rw [hs, hnone, hr, List.takeWhile_eq_self_iff.2 (by simpa using hbelow)]
      exact ⟨rfl, rfl⟩
    · rw [hs, List.takeWhile_append_of_pos (by simpa using hbelow), List.find?_append, hnone]
      exact ⟨by simp [Step.isAggregate], rfl⟩
  rw [Program.selected?, hsteps, hsource, hrun]
  exact htop

/-- The operators of a program select the records that its access admits. -/
theorem Stages.selected?_eq {q : Resolved} {p : Program} (s : Stages q p) (table : List Row) :
    p.selected? table = some (table.filter p.access.admits) := by
  obtain ⟨a₁, a₂, hscan, hsel, ha⟩ := operators_eq_ok s.operators_eq
  have hcomp : a₂.Computes p.access.secondaryColumn table (table.filter p.access.admits) := by
    -- to be admitted is to lie within the bounds, and then to pass the filters
    have hsplit : table.filter p.access.admits = (table.filter fun r =>
        p.access.key.contains (r.value 0) && p.access.secondaryColumn.all fun n =>
          p.access.secondary.contains (r.value n)).filter
        fun r => p.access.filters.all fun f => f.holds r := by
      rw [List.filter_filter]
      refine List.filter_congr fun r _ => ?_
      rw [Access.admits, Bool.and_comm]
    rw [hsplit]
    exact computes_selections hsel (computes_scan hscan)
  refine selected?_of_computes hcomp ?_
  rw [s.steps_eq, s.root_eq, ha]
  cases hg : p.grouping with
  | none =>
      rw [s.having_none hg]
      exact .inl ⟨rfl, rfl⟩
  | some g =>
      refine .inr ⟨g.descriptors, "aggFuncs", "aggOp", ?_⟩
      cases p.having with
      | none => exact ⟨[], rfl⟩
      | some h =>
          exact ⟨[.literal "havingValue" h.storage h.literal,
            .having "havingOp" "aggOp" h.column h.op "havingValue"], by
              simp [Assembly.aggregate, Assembly.having, Assembly.literal]⟩

end

/-! ### The records that a query selects -/

/-- A column that is hinted to be the primary key is the primary key. -/
theorem primaryKey_of_hintAt {t : Catalog.Table} {n : Nat}
    (h : hintAt t.hints n = .primaryKey) : t.primaryKey = some n := by
  have hn : n < t.columns.length := by
    by_contra hlen
    rw [hintAt, List.getElem?_eq_none (by simp [Catalog.Table.hints]; omega)] at h
    cases h
  have hhint : hintAt t.hints n = t.hint n := by
    simp [hintAt, Catalog.Table.hints, hn]
  rw [hhint, Catalog.Table.hint] at h
  split at h
  · next hkey => exact hkey
  · split at h <;> cases h

/-- A table of readings, with an index on the temperature. -/
def readings : Catalog.Table where
  name := "readings"
  columns := [⟨"id", .int32⟩, ⟨"temp", .int32⟩, ⟨"hum", .int64⟩]
  primaryKey := some 0
  indexes := [⟨"byTemp", 1⟩]

/-- The readings of middling temperatures.  The bound on the key is below all keys, a condition on
the indexed column bounds nothing, and a condition stands twice. -/
def mildReadings : Resolved :=
  { Resolved.ofTable readings with
    predicates := [⟨0, .ge, .integer (-3)⟩, ⟨1, .lt, .integer 30⟩, ⟨1, .gt, .integer 10⟩,
      ⟨1, .ne, .integer 15⟩, ⟨2, .ne, .integer 5⟩, ⟨2, .ne, .integer 5⟩]
    projections := [{ name := "id", kind := .column 0 }] }

theorem access_mildReadings : Access.ofQuery mildReadings = Access.ofFilters mildReadings.hints
    [⟨0, .ge, -3⟩, ⟨1, .lt, 30⟩, ⟨1, .gt, 10⟩, ⟨1, .ne, 15⟩, ⟨2, .ne, 5⟩, ⟨2, .ne, 5⟩] := rfl

/-- **The operators of a program select the records that meet the conditions of its query.**  None
of these is lost, and their order stays; if no bound was replaced by a different one, no other
record is selected. -/
theorem selected_records {q : Resolved} {p : Program}
    (ht : ∀ t ∈ q.tables, q.hints = t.hints ∧ (t.primaryKey = none ∨ t.primaryKey = some 0))
    (hp : (ofQuery q).run.value = .ok p) (rows : List Row) (h0 : ∀ r ∈ rows, 0 ≤ r.value 0) :
    ∃ out, p.selected? rows = some out ∧ out.Sublist rows ∧ (rows.filter q.admits).Sublist out ∧
      (Silent (Access.ofQuery q).run.records → out = rows.filter q.admits) := by
  obtain ⟨s⟩ := stages_of_ofQuery hp
  obtain ⟨-, -, fs, hfs, hgives⟩ := Access.ofQuery_gives s.access_gives
  have hkey : ∀ n, hintAt q.hints n = .primaryKey → n = 0 := by
    intro n hn
    obtain ⟨hh, hk⟩ := ht s.table (by simp [s.tables_eq])
    rw [hh] at hn
    rcases hk with hk | hk <;> rw [primaryKey_of_hintAt hn] at hk
    · cases hk
    · exact Option.some.inj hk
  have hsub : ∀ r ∈ rows, q.admits r = true → p.access.admits r = true := fun r hr hq =>
    Access.admits_of_holds hgives hkey (h0 r hr) ((Access.forall_holds_iff_admits hfs r).2 hq)
  refine ⟨rows.filter p.access.admits, s.selected?_eq rows, List.filter_sublist, ?_, ?_⟩
  · have hboth : rows.filter q.admits = (rows.filter p.access.admits).filter q.admits := by
      rw [List.filter_filter]
      refine List.filter_congr fun r hr => ?_
      rw [Bool.eq_iff_iff, Bool.and_eq_true]
      exact ⟨fun hq => ⟨hq, hsub r hr hq⟩, And.left⟩
    rw [hboth]
    exact List.filter_sublist
  · intro hsil
    rw [(gives_iff.1 s.access_gives).2] at hsil
    refine List.filter_congr fun r hr => ?_
    rw [Bool.eq_iff_iff]
    refine ⟨fun ha => ?_, hsub r hr⟩
    rw [← Access.forall_holds_iff_admits hfs]
    exact Access.holds_of_admits hgives hkey hsil (h0 r hr) ha

theorem selected_records_mildReadings :
    ∃ p, (ofQuery mildReadings).run.value = .ok p ∧
      p.selected? [[1, 10, 0], [2, 11, 5], [3, 15, 6], [4, 29, 7], [5, 30, 8], [6, 20, 9]]
        = some [[4, 29, 7], [6, 20, 9]] := by
  obtain ⟨p, hp⟩ : ∃ p, (ofQuery mildReadings).run.value = .ok p := by
    rw [ofQuery, build, access_mildReadings, Access.ofFilters,
      Access.candidates_of_pairwise (by decide)]
    exact ⟨_, rfl⟩
  have hsil : Silent (Access.ofQuery mildReadings).run.records := by
    rw [access_mildReadings, Access.ofFilters, Access.candidates_of_pairwise (by decide)]
    unfold Silent
    decide +kernel
  obtain ⟨out, hout, -, -, heq⟩ := selected_records (by decide) hp
    [[1, 10, 0], [2, 11, 5], [3, 15, 6], [4, 29, 7], [5, 30, 8], [6, 20, 9]] (by decide)
  refine ⟨p, hp, ?_⟩
  rw [hout, heq hsil]
  simp [mildReadings, Resolved.admits, Comparison.holds, Row.value, Comparator.holds]

end SqlPipeline.Plan
