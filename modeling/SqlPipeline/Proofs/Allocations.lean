/-
**What a program is said to free is what it allocates.**

A program carries two lists beside its steps: the variables that are freed at the end, and those
that are freed during the construction.  They are kept by hand while the steps are put together.
Here it is shown that they are the variables that the steps allocate, in order, and that no variable
stands in them twice.  The names of filters are fresh; the other names are fixed, or end in the
number of a value of a group.

Main definitions:

* `Text.MadeFrom` — a name, perhaps with a number after it;
* `Plan.Step.allocated?` — the variable of a step that is freed at the end;
* `Plan.Step.holders` — the variables of a step that are freed during the construction;
* `Plan.Program.Accounts` — the two lists of a program are those of its steps, without repetition.

Main results:

* `Plan.Assembly.Booked.concat`, `Plan.Assembly.Booked.selection` — one more variable in the lists;
* `Plan.Stages.accounts` — **the lists of a program account for its variables**.
-/

import SqlPipeline.Proofs.FreshNames
import SqlPipeline.Proofs.GroupLayout

set_option autoImplicit false

namespace SqlPipeline

open Journal Layout Query Outcome

/-! ### Forms of a name -/

/-- A name that is made from the given one: it may have a number after it. -/
def Text.MadeFrom (base name : String) : Prop :=
  name = base ∨ ∃ n : Nat, name = base ++ "_" ++ toString n

/-- A fresh name is the name itself, or the name with a number after it. -/
theorem Text.madeFrom_fresh (used : List String) (base : String) :
    MadeFrom base (fresh used base) := by
  obtain ⟨k, -, hk, -⟩ := freshFrom_eq used base used.length 1
  rw [fresh, hk, numbered]
  split
  · exact .inl rfl
  · exact .inr ⟨1 + k, rfl⟩

theorem Text.isPrefix_append (s t : String) : s.toList <+: (s ++ t).toList := by
  rw [String.toList_append]
  exact List.prefix_append _ _

theorem Text.MadeFrom.isPrefix {base name : String} (h : MadeFrom base name) :
    base.toList <+: name.toList := by
  rcases h with rfl | ⟨n, rfl⟩
  · exact List.prefix_rfl
  · rw [String.append_assoc]
    exact isPrefix_append _ _

namespace Plan

/-! ### The variables of steps -/

/-- The variable that a step allocates and that is freed at the end, if there is one. -/
def Step.allocated? : Step → Option String
  | .literal name _ _ => some name
  | .iterator .. => some "it"
  | .scan .. => none
  | .selection .. => none
  | .aggregate .. => some "aggFuncs"
  | .having .. => none

/-- The variables of a step that are freed during the construction: those of the values of a
group. -/
def Step.holders : Step → List String
  | .aggregate _ descriptors _ _ => descriptors.map Descriptor.holder
  | _ => []

/-- The two lists of a program are the variables of its steps, and no variable stands in them
twice. -/
structure Program.Accounts (p : Program) : Prop where
  allocations_eq : p.allocations = p.steps.filterMap Step.allocated?
  transient_eq : p.transient = p.steps.flatMap Step.holders
  allocations_nodup : p.allocations.Nodup
  transient_nodup : p.transient.Nodup
  disjoint : p.transient.Disjoint p.allocations

/-! ### Steps on top -/

/-- The lists so far are those of the steps.  Each variable to be freed at the end has one of the
names `taken`, or the fresh name of the value of a filter. -/
structure Assembly.Booked (taken : List String) (a : Assembly) : Prop where
  allocations_eq : a.allocations = a.steps.filterMap Step.allocated?
  transient_eq : a.transient = a.steps.flatMap Step.holders
  nodup : a.allocations.Nodup
  used : ∀ v ∈ a.allocations, v ∈ a.names.used
  fixed_used : ∀ v ∈ fixedNames, v ∈ a.names.used
  kinds : ∀ v ∈ a.allocations, v ∈ taken ∨ v ∉ fixedNames ∧ "selVal".toList <+: v.toList

namespace Assembly

variable {taken : List String} {a a' : Assembly}

theorem nodup_concat {xs : List String} {x : String} (h : xs.Nodup) (hx : x ∉ xs) :
    (xs ++ [x]).Nodup := by
  rw [List.nodup_append]
  refine ⟨h, List.nodup_singleton x, fun v hv w hw heq => ?_⟩
  rw [List.mem_singleton.1 hw] at heq
  exact hx (heq ▸ hv)

/-- Steps with one variable go on top, which has a fixed name that is not taken. -/
theorem Booked.concat {name : String} {transient : List String} (h : a.Booked taken)
    (steps : List Step) (top : String) (hname : name ∈ fixedNames) (hnew : name ∉ taken)
    (hallocated : steps.filterMap Step.allocated? = [name])
    (htransient : transient = a.transient ++ steps.flatMap Step.holders) :
    Booked (taken ++ [name]) { a with
      steps := a.steps ++ steps, allocations := a.allocations ++ [name], transient, top } := by
  have hnot : name ∉ a.allocations := by
    intro hmem
    rcases h.kinds name hmem with htaken | ⟨hfree, -⟩
    · exact hnew htaken
    · exact hfree hname
  refine ⟨?_, ?_, nodup_concat h.nodup hnot, ?_, h.fixed_used, ?_⟩
  · rw [List.filterMap_append, hallocated, h.allocations_eq]
  · rw [List.flatMap_append, ← h.transient_eq, htransient]
  · refine List.forall_mem_append.2 ⟨h.used, List.forall_mem_singleton.2 ?_⟩
    exact h.fixed_used name hname
  · refine List.forall_mem_append.2 ⟨fun v hv => ?_, List.forall_mem_singleton.2 ?_⟩
    · exact (h.kinds v hv).imp (fun hf => List.mem_append_left _ hf) id
    · exact .inl (List.mem_append_right _ (List.mem_singleton_self name))

/-- A filter goes on top, with a fresh name for its value. -/
theorem Booked.selection (h : a.Booked taken) {f : Filter} (hf : a.selection f = .ok a') :
    a'.Booked taken := by
  obtain ⟨c, -, rfl⟩ := selection_eq_ok hf
  set base := "selVal" ++ (f.op.suffix ++ c.name)
  have hnew := NameSupply.fresh_not_mem_used a.names base
  have hprefix : "selVal".toList <+: (a.names.fresh base).1.toList :=
    (Text.isPrefix_append _ _).trans (Text.madeFrom_fresh a.names.used base).isPrefix
  -- the names of the value and of the operator come before those in use
  have hkeep : ∀ v ∈ a.names.used, v ∈ ((a.names.fresh base).2.fresh
      ("select" ++ (f.op.suffix ++ c.name))).2.used :=
    fun v hv => List.mem_cons_of_mem _ (List.mem_cons_of_mem _ hv)
  refine ⟨?_, ?_, nodup_concat h.nodup fun hmem => hnew (h.used _ hmem), ?_, ?_, ?_⟩
  · simp [Step.allocated?, h.allocations_eq]
  · simp [Step.holders, h.transient_eq]
  · refine List.forall_mem_append.2 ⟨fun v hv => hkeep v (h.used v hv), ?_⟩
    exact List.forall_mem_singleton.2 (List.mem_cons_of_mem _ List.mem_cons_self)
  · exact fun v hv => hkeep v (h.fixed_used v hv)
  · refine List.forall_mem_append.2 ⟨h.kinds, List.forall_mem_singleton.2 (.inr ⟨?_, hprefix⟩)⟩
    exact fun hfixed => hnew (h.fixed_used _ hfixed)

/-- The names of the variables of a scan. -/
def scanNames : List String :=
  ["minKey", "maxKey", "minData", "maxData", "it"]

theorem filterMap_boundSteps {name : String} {storage : Option Storage} {value : Option Int}
    (h : value.isSome → storage.isSome) :
    (boundSteps name storage value).filterMap Step.allocated? = (boundName name value).toList := by
  cases value with
  | none => cases storage <;> rfl
  | some v =>
      obtain ⟨t, rfl⟩ := Option.isSome_iff_exists.1 (h rfl)
      rfl

theorem flatMap_boundSteps {name : String} {storage : Option Storage} {value : Option Int} :
    (boundSteps name storage value).flatMap Step.holders = [] := by
  cases value <;> cases storage <;> rfl

/-- The names of the bounds of an access are some of the fixed ones, in their order. -/
theorem boundsNames_sublist (access : Access) :
    (boundsNames access ++ ["it"]).Sublist scanNames := by
  have hname : ∀ (name : String) (value : Option Int),
      (boundName name value).toList.Sublist [name] := by
    intro name value
    cases value with
    | none => exact List.nil_sublist _
    | some v => exact List.Sublist.refl _
  exact ((((hname _ _).append (hname _ _)).append (hname _ _)).append (hname _ _)).append
    (List.Sublist.refl ["it"])

theorem booked_scan {table : String} {stored : Schema} {access : Access}
    (h : ({ table, stored } : Assembly).scan access = .ok a) : a.Booked scanNames := by
  obtain ⟨keyType, dataType, -, -, hk, hd, rfl⟩ := scan_eq_ok h
  have hsub : boundsNames access ++ ["it"] ⊆ scanNames := (boundsNames_sublist access).subset
  refine ⟨?_, ?_, ?_, fun v hv => ?_, fun v hv => hv, fun v hv => .inl (hsub hv)⟩
  · simp [boundsSteps, boundsNames, filterMap_boundSteps (fun h => hk (.inl h)),
      filterMap_boundSteps (fun h => hk (.inr h)), filterMap_boundSteps (fun h => hd (.inl h)),
      filterMap_boundSteps (fun h => hd (.inr h)), iteratorStep, Step.allocated?]
  · simp [boundsSteps, flatMap_boundSteps, iteratorStep, Step.holders]
  · exact (boundsNames_sublist access).nodup (by decide)
  · exact (by decide : scanNames ⊆ fixedNames) (hsub hv)

theorem Booked.aggregate (h : a.Booked taken) (hnew : "aggFuncs" ∉ taken) (g : Grouping) :
    (a.aggregate g).Booked (taken ++ ["aggFuncs"]) :=
  h.concat [.aggregate a.top g.descriptors "aggFuncs" "aggOp"] "aggOp" (by decide) hnew rfl
    (by simp [Step.holders])

theorem Booked.having (h : a.Booked taken) (hnew : "havingValue" ∉ taken) (hf : HavingFilter) :
    (a.having hf).Booked (taken ++ ["havingValue"]) := by
  have hbooked := h.concat [.literal "havingValue" hf.storage hf.literal,
    .having "havingOp" a.top hf.column hf.op "havingValue"] "havingOp" (by decide) hnew rfl rfl
  simpa [Assembly.having, literal, Step.holders] using hbooked

end Assembly

/-- The variables to be freed at the end that have fixed names. -/
def allocatedNames : List String :=
  Assembly.scanNames ++ ["aggFuncs", "havingValue"]

theorem Stages.booked {q : Resolved} {p : Program} (st : Stages q p) :
    ∃ taken ⊆ allocatedNames, st.assembly.Booked taken := by
  obtain ⟨a₁, a₂, hscan, hselections, hassembly⟩ := operators_eq_ok st.operators_eq
  have hbooked := Assembly.selections_keep hselections (fun _ _ _ _ hf hb => hb.selection hf)
    (Assembly.booked_scan hscan)
  rw [hassembly]
  cases p.grouping with
  | none =>
      cases p.having with
      | none => exact ⟨_, by decide, hbooked⟩
      | some hf => exact ⟨_, by decide, hbooked.having (by decide) hf⟩
  | some g =>
      have hgroups := hbooked.aggregate (by decide) g
      cases p.having with
      | none => exact ⟨_, by decide, hgroups⟩
      | some hf => exact ⟨_, by decide, hgroups.having (by decide) hf⟩

/-! ### Variables of the values of a group -/

/-- The beginnings of the names of the variables of values of a group. -/
def holderStems : List String :=
  ["min", "max", "counter", "sum", "avg", "group"]

theorem Describes.holder_eq {stored : Schema} {key : Option GroupKey} {index : Nat} {kind : Kind}
    {x : Descriptor} (h : Describes stored key index kind x) :
    ∃ stem ∈ holderStems, x.holder = stem ++ toString index := by
  cases h with
  | @aggregate call sourceType output source type =>
      refine ⟨holderStem call.function, ?_, rfl⟩
      cases call.function <;> decide
  | groupValue => exact ⟨"group", by decide, rfl⟩

/-- The digits at the end of a name. -/
def trailingDigits (s : String) : List Char :=
  s.toList.reverse.takeWhile Char.isDigit

theorem trailingDigits_holder {stem : String} (h : stem ∈ holderStems) (n : Nat) :
    trailingDigits (stem ++ toString n) = (toString n).toList.reverse := by
  have hstem : stem.toList.reverse.takeWhile Char.isDigit = [] := by
    simp only [holderStems, List.mem_cons, List.not_mem_nil, or_false] at h
    rcases h with rfl | rfl | rfl | rfl | rfl | rfl <;> decide
  rw [trailingDigits, String.toList_append, List.reverse_append, List.takeWhile_append_of_pos,
    hstem, List.append_nil]
  exact fun c hc => Listing.isDigit_of_mem_toString (List.mem_reverse.1 hc)

/-- Variables of different values have different names. -/
theorem holder_inj {stem stem' : String} (h : stem ∈ holderStems) (h' : stem' ∈ holderStems)
    {m n : Nat} (heq : stem ++ toString m = stem' ++ toString n) : m = n := by
  have hdigits := congrArg trailingDigits heq
  rw [trailingDigits_holder h, trailingDigits_holder h', List.reverse_inj, String.toList_inj]
    at hdigits
  exact Nat.repr_injective hdigits

/-- The variable of a value of a group has no fixed name, and not the name of a variable of a
filter. -/
theorem holder_not_fixed {stem : String} (h : stem ∈ holderStems) (n : Nat) :
    stem ++ toString n ∉ fixedNames ∧ ¬ "sel".toList <+: (stem ++ toString n).toList := by
  refine ⟨fun hmem => ?_, fun hprefix => ?_⟩
  · -- the fixed names do not end in a digit
    have hnone : ∀ v ∈ fixedNames, trailingDigits v = [] := by decide
    have hdigits := hnone _ hmem
    rw [trailingDigits_holder h, List.reverse_eq_nil_iff] at hdigits
    exact Listing.toString_toList_ne_nil n hdigits
  · rw [String.toList_append] at hprefix
    simp only [holderStems, List.mem_cons, List.not_mem_nil, or_false] at h
    rcases h with rfl | rfl | rfl | rfl | rfl | rfl <;> simp at hprefix

section

variable {q : Resolved} {p : Program} {g : Grouping}

/-- What is freed during the construction are the variables of the values of a group. -/
theorem Stages.transient_eq_holders (st : Stages q p) :
    p.transient = p.grouping.toList.flatMap fun g => g.descriptors.map Descriptor.holder := by
  obtain ⟨a₁, a₂, hscan, hselections, hassembly⟩ := operators_eq_ok st.operators_eq
  obtain ⟨keyType, dataType, -, -, -, -, rfl⟩ := Assembly.scan_eq_ok hscan
  have hnone : a₂.transient = [] := by
    refine Assembly.selections_keep (I := fun b => b.transient = []) hselections ?_ rfl
    intro b b' f _ hf hb
    obtain ⟨c, -, rfl⟩ := Assembly.selection_eq_ok hf
    exact hb
  rw [st.transient_eq, hassembly]
  cases p.grouping <;> cases p.having <;>
    simp [Assembly.aggregate, Assembly.having, Assembly.literal, hnone]

theorem Stages.describes (st : Stages q p) (hg : p.grouping = some g) {k : Nat} {x : Descriptor}
    (hx : g.descriptors[k]? = some x) : ∃ key kind, Describes st.stored key k kind x := by
  obtain ⟨hgather, -⟩ := st.grouping_gathers_some hg
  obtain ⟨gs⟩ := stages_of_grouping hgather
  exact ⟨gs.key, gs.describes_descriptor hx⟩

/-- The variable of a value of a group has the number of the value in its name. -/
theorem Stages.holder_eq (st : Stages q p) (hg : p.grouping = some g) {k : Nat} {x : Descriptor}
    (hx : g.descriptors[k]? = some x) : ∃ stem ∈ holderStems, x.holder = stem ++ toString k := by
  obtain ⟨key, kind, hdesc⟩ := st.describes hg hx
  exact hdesc.holder_eq

theorem Stages.holder_of_transient (st : Stages q p) {v : String} (hv : v ∈ p.transient) :
    ∃ stem ∈ holderStems, ∃ n : Nat, v = stem ++ toString n := by
  rw [st.transient_eq_holders, List.mem_flatMap] at hv
  obtain ⟨g, hg, hv⟩ := hv
  obtain ⟨x, hx, rfl⟩ := List.mem_map.1 hv
  obtain ⟨k, hk⟩ := List.mem_iff_getElem?.1 hx
  obtain ⟨stem, hstem, hholder⟩ := st.holder_eq (Option.mem_toList.1 hg) hk
  exact ⟨stem, hstem, k, hholder⟩

/-- **The lists of a program account for its variables.** -/
theorem Stages.accounts (st : Stages q p) : p.Accounts := by
  obtain ⟨taken, htaken, hbooked⟩ := st.booked
  refine ⟨?_, ?_, ?_, ?_, ?_⟩
  · rw [st.allocations_eq, st.steps_eq, hbooked.allocations_eq]
  · rw [st.transient_eq, st.steps_eq, hbooked.transient_eq]
  · rw [st.allocations_eq]
    exact hbooked.nodup
  · rw [st.transient_eq_holders]
    cases hg : p.grouping with
    | none => exact List.nodup_nil
    | some g =>
        rw [Option.toList_some, List.flatMap_singleton, List.nodup_iff_injective_getElem]
        intro i j hij
        simp only [List.getElem_map] at hij
        obtain ⟨stem, hstem, hi⟩ := st.holder_eq hg (List.getElem?_eq_getElem (by simpa using i.2))
        obtain ⟨stem', hstem', hj⟩ :=
          st.holder_eq hg (List.getElem?_eq_getElem (by simpa using j.2))
        rw [hi, hj] at hij
        exact Fin.ext (holder_inj hstem hstem' hij)
  · intro v hv hmem
    obtain ⟨stem, hstem, k, rfl⟩ := st.holder_of_transient hv
    obtain ⟨hfixed, hfresh⟩ := holder_not_fixed hstem k
    rw [st.allocations_eq] at hmem
    rcases hbooked.kinds _ hmem with h | ⟨-, h⟩
    · exact hfixed ((by decide : allocatedNames ⊆ fixedNames) (htaken h))
    · exact hfresh ((by decide : "sel".toList <+: "selVal".toList).trans h)

end

end Plan

end SqlPipeline
