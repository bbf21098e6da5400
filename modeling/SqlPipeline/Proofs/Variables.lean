/-
**The variables of a generated program are different from each other.**

The procedure that constructs the operators declares a variable for each bound, each value that a
filter compares with, each operator and each value of a group.  Only the names for filters are
taken from a supply.  The other names are fixed, or end in the number of a value of a group, and the
supply knows only of the fixed ones.  The name of a filter begins with its comparison and goes on
with the name of its column, which may be any text at all.

Main definitions:

* `Plan.Step.variables`, `Plan.Program.variables` — the variables that are declared;
* `Plan.Chosen` — the names for filters: a pair of names for each filter, all of them different;
* `Listing.Line.declarator?` — what follows the type in a line that declares a variable;
* `Listing.Declaring` — the variables that lines declare.

Main results:

* `Plan.Assembly.Naming.selection`, `Plan.Assembly.variables_selections` — one filter, and all
  filters, of a program;
* `Plan.Stages.variables_perm` — the three kinds of names;
* `Plan.Stages.declaring` — the variables are those that the lines of the procedure declare;
* `Plan.variables_distinct` — **the variables are different from each other and from the
  routines**.
-/

import SqlPipeline.Proofs.Explained
import SqlPipeline.Proofs.Printing
import SqlPipeline.Proofs.Statements

set_option autoImplicit false

namespace SqlPipeline

open Journal Layout Query Outcome

namespace Plan

/-! ### Variables -/

/-- The variables that a step declares. -/
def Step.variables : Step → List String
  | .literal name _ _ => [name]
  | .iterator .. => ["it"]
  | .scan _ name => ["numCols", "colSizes", "colSignedness", "schema", name]
  | .selection name .. => [name]
  | .aggregate _ descriptors packed name => descriptors.map Descriptor.holder ++ [packed, name]
  | .having name .. => [name]

/-- The variables of the procedure that constructs the operators: its parameters, and what its
steps declare. -/
def Program.variables (p : Program) : List String :=
  ["state", "allocatedValues"] ++ p.steps.flatMap Step.variables

/-! ### Filters -/

/-- The two names for a filter: that of its value and that of its operator. -/
def FilterNames (stored : Schema) (f : Filter) (names : String × String) : Prop :=
  ∃ c, stored.column? f.column = some c ∧
    Text.MadeFrom ("selVal" ++ (f.op.suffix ++ c.name)) names.1 ∧
    Text.MadeFrom ("select" ++ (f.op.suffix ++ c.name)) names.2

/-- Both names for a filter, as a list. -/
def bothNames (names : String × String) : List String :=
  [names.1, names.2]

theorem FilterNames.isPrefix {stored : Schema} {f : Filter} {names : String × String}
    (h : FilterNames stored f names) {v : String} (hv : v ∈ bothNames names) :
    "sel".toList <+: v.toList := by
  obtain ⟨c, -, hvalue, hname⟩ := h
  have hstem : ∀ {stem rest : String}, "sel".toList <+: stem.toList →
      Text.MadeFrom (stem ++ rest) v → "sel".toList <+: v.toList := by
    intro stem rest hstem hmade
    exact (hstem.trans (Text.isPrefix_append _ _)).trans hmade.isPrefix
  simp only [bothNames, List.mem_cons, List.not_mem_nil, or_false] at hv
  rcases hv with rfl | rfl
  · exact hstem (by decide) hvalue
  · exact hstem (by decide) hname

/-- The names for filters are all different, and no fixed ones. -/
structure Chosen (stored : Schema) (fs : List Filter) (names : List (String × String)) : Prop where
  named : List.Forall₂ (FilterNames stored) fs names
  nodup : (names.flatMap bothNames).Nodup
  not_fixed : ∀ v ∈ names.flatMap bothNames, v ∉ fixedNames

theorem Chosen.isPrefix {stored : Schema} {fs : List Filter} {names : List (String × String)}
    (h : Chosen stored fs names) {v : String} (hv : v ∈ names.flatMap bothNames) :
    "sel".toList <+: v.toList := by
  obtain ⟨pair, hpair, hv⟩ := List.mem_flatMap.1 hv
  obtain ⟨i, hi, rfl⟩ := List.getElem_of_mem hpair
  exact (h.named.get (by rw [h.named.length_eq]; exact hi) hi).isPrefix hv

namespace Assembly

variable {a b b' : Assembly} {fs : List Filter} {names : List (String × String)}

/-- The filters on top of `a` have given `b`, with these names. -/
structure Naming (a : Assembly) (fs : List Filter) (names : List (String × String))
    (b : Assembly) : Prop where
  variables_eq : b.steps.flatMap Step.variables
    = a.steps.flatMap Step.variables ++ names.flatMap bothNames
  stored_eq : b.stored = a.stored
  chosen : Chosen a.stored fs names
  used : ∀ v ∈ names.flatMap bothNames, v ∈ b.names.used
  fixed_used : fixedNames ⊆ b.names.used

/-- One more filter takes two names that are not in use. -/
theorem Naming.selection (h : Naming a fs names b) {f : Filter} (hf : b.selection f = .ok b') :
    ∃ pair, Naming a (fs ++ [f]) (names ++ [pair]) b' := by
  obtain ⟨c, hc, rfl⟩ := selection_eq_ok hf
  set value := b.names.fresh ("selVal" ++ (f.op.suffix ++ c.name))
  set name := value.2.fresh ("select" ++ (f.op.suffix ++ c.name))
  have hnew : value.1 ∉ b.names.used := NameSupply.fresh_not_mem_used _ _
  have hnew' : name.1 ∉ value.2.used := NameSupply.fresh_not_mem_used _ _
  -- the names in use, before and after
  have hkeep : ∀ v ∈ b.names.used, v ∈ value.2.used := fun v hv => List.mem_cons_of_mem _ hv
  have hkeep' : ∀ v ∈ value.2.used, v ∈ name.2.used := fun v hv => List.mem_cons_of_mem _ hv
  have hmem : value.1 ∈ value.2.used := List.mem_cons_self
  have hboth : (names ++ [(value.1, name.1)]).flatMap bothNames
      = names.flatMap bothNames ++ [value.1] ++ [name.1] := by
    simp [bothNames]
  have hvalueNew : value.1 ∉ names.flatMap bothNames := fun hv => hnew (h.used _ hv)
  have hnameNew : name.1 ∉ names.flatMap bothNames ++ [value.1] := by
    intro hv
    rcases List.mem_append.1 hv with hv | hv
    · exact hnew' (hkeep _ (h.used _ hv))
    · rw [List.mem_singleton] at hv
      exact hnew' (hv ▸ hmem)
  refine ⟨(value.1, name.1), ?_, h.stored_eq, ⟨?_, ?_, ?_⟩, ?_, ?_⟩
  · change (b.steps ++ [Step.literal value.1 c.type (.integer f.value),
      Step.selection name.1 b.top f.column f.op value.1]).flatMap Step.variables = _
    rw [List.flatMap_append, h.variables_eq, hboth]
    simp [Step.variables]
  · refine List.rel_append h.chosen.named (.cons ⟨c, ?_, ?_, ?_⟩ .nil)
    · rw [← h.stored_eq]
      exact hc
    · exact Text.madeFrom_fresh _ _
    · exact Text.madeFrom_fresh _ _
  · rw [hboth]
    exact nodup_concat (nodup_concat h.chosen.nodup hvalueNew) hnameNew
  · rw [hboth]
    simp only [List.forall_mem_append, List.forall_mem_singleton]
    exact ⟨⟨h.chosen.not_fixed, fun hv => hnew (h.fixed_used hv)⟩,
      fun hv => hnew' (hkeep _ (h.fixed_used hv))⟩
  · rw [hboth]
    simp only [List.forall_mem_append, List.forall_mem_singleton]
    exact ⟨⟨fun v hv => hkeep' v (hkeep v (h.used v hv)), hkeep' _ hmem⟩, List.mem_cons_self⟩
  · exact fun v hv => hkeep' v (hkeep v (h.fixed_used hv))

/-- The variables of filters have names from the supply, two for each filter. -/
theorem variables_selections (h : a.selections fs = .ok b) (hfixed : fixedNames ⊆ a.names.used) :
    ∃ names, b.steps.flatMap Step.variables
        = a.steps.flatMap Step.variables ++ names.flatMap bothNames ∧
      Chosen a.stored fs names := by
  have hnil : Naming a [] [] a :=
    ⟨by simp, rfl, ⟨.nil, List.nodup_nil, List.forall_mem_nil _⟩, List.forall_mem_nil _, hfixed⟩
  obtain ⟨names, hnames⟩ : ∃ names, Naming a fs names b := by
    refine foldlM_induct (I := fun done b => ∃ names, Naming a done names b) h ⟨[], hnil⟩ ?_
    rintro done f rest b b' - ⟨names, hnames⟩ hf
    obtain ⟨pair, hpair⟩ := hnames.selection hf
    exact ⟨_, hpair⟩
  exact ⟨names, hnames.variables_eq, hnames.chosen⟩

theorem variables_boundSteps {name : String} {storage : Option Storage} {value : Option Int}
    (h : value.isSome → storage.isSome) :
    (boundSteps name storage value).flatMap Step.variables = (boundName name value).toList := by
  cases value with
  | none => cases storage <;> rfl
  | some v =>
      obtain ⟨t, rfl⟩ := Option.isSome_iff_exists.1 (h rfl)
      rfl

end Assembly

/-! ### The three kinds of names -/

/-- The fixed names of variables.  The last of the fixed names is that of a routine. -/
def variableNames : List String :=
  fixedNames.dropLast

/-- The variables of a program with fixed names. -/
def Program.fixedVariables (p : Program) : List String :=
  ["state", "allocatedValues"] ++ (Assembly.boundsNames p.access ++ ["it"])
    ++ ["numCols", "colSizes", "colSignedness", "schema", "scanOp"]
    ++ p.grouping.toList.flatMap (fun _ => ["aggFuncs", "aggOp"])
    ++ p.having.toList.flatMap (fun _ => ["havingValue", "havingOp"])

theorem Program.fixedVariables_sublist (p : Program) :
    p.fixedVariables.Sublist variableNames := by
  have hoption : ∀ {α : Type} (x : Option α) (names : List String),
      (x.toList.flatMap fun _ => names).Sublist names := by
    intro α x names
    cases x with
    | none => exact List.nil_sublist _
    | some v => simp
  have hstart := (List.Sublist.refl ["state", "allocatedValues"]).append
    (Assembly.boundsNames_sublist p.access)
  have hscan := hstart.append
    (List.Sublist.refl ["numCols", "colSizes", "colSignedness", "schema", "scanOp"])
  exact (hscan.append (hoption p.grouping ["aggFuncs", "aggOp"])).append
    (hoption p.having ["havingValue", "havingOp"])

section

variable {q : Resolved} {p : Program}

/-- The variables of a program have fixed names, names from the supply, or names with the number of
a value of a group. -/
theorem Stages.variables_perm (st : Stages q p) :
    ∃ names, Chosen st.stored p.access.filters names ∧
      p.variables.Perm (p.fixedVariables ++ names.flatMap bothNames ++ p.transient) := by
  obtain ⟨a₁, a₂, hscan, hselections, hassembly⟩ := operators_eq_ok st.operators_eq
  obtain ⟨keyType, dataType, -, -, hk, hd, rfl⟩ := Assembly.scan_eq_ok hscan
  obtain ⟨names, hnames, hchosen⟩ :=
    Assembly.variables_selections hselections (List.Subset.refl fixedNames)
  have hbounds : (Assembly.boundsSteps p.access keyType dataType).flatMap Step.variables
      = Assembly.boundsNames p.access := by
    simp only [Assembly.boundsSteps, Assembly.boundsNames, List.flatMap_append]
    rw [Assembly.variables_boundSteps (fun h => hk (.inl h)),
      Assembly.variables_boundSteps (fun h => hk (.inr h)),
      Assembly.variables_boundSteps (fun h => hd (.inl h)),
      Assembly.variables_boundSteps (fun h => hd (.inr h))]
  have hscanned : a₂.steps.flatMap Step.variables
      = Assembly.boundsNames p.access ++ ["it"]
        ++ ["numCols", "colSizes", "colSignedness", "schema", "scanOp"]
        ++ names.flatMap bothNames := by
    rw [hnames]
    simp [hbounds, Assembly.iteratorStep, Step.variables]
  have hsteps : p.steps.flatMap Step.variables = a₂.steps.flatMap Step.variables
      ++ p.transient ++ p.grouping.toList.flatMap (fun _ => ["aggFuncs", "aggOp"])
      ++ p.having.toList.flatMap (fun _ => ["havingValue", "havingOp"]) := by
    rw [st.transient_eq_holders, st.steps_eq, hassembly]
    cases p.grouping <;> cases p.having <;>
      simp [Assembly.aggregate, Assembly.having, Assembly.literal, Step.variables]
  refine ⟨names, hchosen, List.perm_iff_count.2 fun v => ?_⟩
  rw [Program.variables, Program.fixedVariables, hsteps, hscanned]
  simp only [List.count_append]
  omega

/-- No variable is declared twice. -/
theorem Stages.nodup_variables (st : Stages q p) : p.variables.Nodup := by
  obtain ⟨names, hchosen, hperm⟩ := st.variables_perm
  have hfixed : ∀ v ∈ p.fixedVariables, v ∈ fixedNames := fun v hv =>
    List.mem_of_mem_dropLast (p.fixedVariables_sublist.subset hv)
  rw [hperm.nodup_iff, List.nodup_append', List.nodup_append']
  refine ⟨⟨p.fixedVariables_sublist.nodup (by decide), hchosen.nodup, ?_⟩,
    st.accounts.transient_nodup, ?_⟩
  · exact fun v hv hv' => hchosen.not_fixed v hv' (hfixed v hv)
  · intro v hv htransient
    obtain ⟨stem, hstem, n, rfl⟩ := st.holder_of_transient htransient
    obtain ⟨hnot, hsel⟩ := holder_not_fixed hstem n
    rcases List.mem_append.1 hv with hv | hv
    · exact hnot (hfixed _ hv)
    · exact hsel (hchosen.isPrefix hv)

/-! ### Routines -/

/-- A name that no variable has. -/
structure NoVariable (name : String) : Prop where
  not_fixed : name ∉ variableNames
  not_chosen : ¬ "sel".toList <+: name.toList
  not_holder : ∀ stem ∈ holderStems, ∀ n : Nat, name ≠ stem ++ toString n

/-- A name without a number at its end is not that of a value of a group. -/
theorem noVariable_of_trailingDigits {name : String} (hfixed : name ∉ variableNames)
    (hsel : ¬ "sel".toList <+: name.toList) (hdigits : trailingDigits name = []) :
    NoVariable name := by
  refine ⟨hfixed, hsel, ?_⟩
  rintro stem hstem n rfl
  rw [trailingDigits_holder hstem, List.reverse_eq_nil_iff] at hdigits
  exact Listing.toString_toList_ne_nil n hdigits

theorem noVariable_computeName (index : Nat) : NoVariable (computeName index) := by
  have hcu : "cu".toList <+: (computeName index).toList := by
    unfold computeName
    exact (by simp : "cu".toList <+: "customAggregateFunc".toList).trans (Text.isPrefix_append _ _)
  refine ⟨fun hmem => ?_, fun hsel => ?_, fun stem hstem n heq => ?_⟩
  · have hnone : ∀ v ∈ variableNames, ¬ "cu".toList <+: v.toList := by decide
    exact hnone _ hmem hcu
  · rcases List.prefix_or_prefix_of_prefix hcu hsel with h | h
    · exact absurd h (by decide)
    · exact absurd h (by decide)
  · -- both end in a number, but they begin otherwise
    rw [heq, String.toList_append] at hcu
    simp only [holderStems, List.mem_cons, List.not_mem_nil, or_false] at hstem
    rcases hstem with rfl | rfl | rfl | rfl | rfl | rfl <;> simp at hcu

theorem Routine.Regular.noVariable {r : Routine} (h : r.Regular) : NoVariable r.name := by
  cases r with
  | math f =>
      cases f <;>
        exact noVariable_of_trailingDigits (by decide) (by decide) (by decide)
  | groupTest test =>
      show NoVariable groupTestName
      exact noVariable_of_trailingDigits (by decide) (by decide) (by decide)
  | groupValue name e source offset output =>
      obtain ⟨index, rfl⟩ := h
      exact noVariable_computeName index

/-- No variable has the name of a routine. -/
theorem Stages.routine_not_variable (st : Stages q p) :
    ∀ r ∈ p.routines.list, r.name ∉ p.variables := by
  intro r hr hmem
  have hnot := (st.regular r hr).noVariable
  obtain ⟨names, hchosen, hperm⟩ := st.variables_perm
  rw [hperm.mem_iff, List.mem_append, List.mem_append] at hmem
  rcases hmem with (hmem | hmem) | hmem
  · exact hnot.not_fixed (p.fixedVariables_sublist.subset hmem)
  · exact hnot.not_chosen (hchosen.isPrefix hmem)
  · obtain ⟨stem, hstem, n, hname⟩ := st.holder_of_transient hmem
    exact hnot.not_holder stem hstem n hname

end

end Plan

/-! ### Lines that declare variables -/

namespace Listing

open Plan

/-- The types of variables, each with what stands before the name. -/
def declaringTypes : List String :=
  ["int32_t* ", "uint32_t* ", "int64_t* ", "uint64_t* ", "float* ", "double* ", "uint8_t ",
   "int8_t ", "embedDBIterator* ", "embedDBSchema* ", "embedDBOperator* ",
   "embedDBAggregateFunc* "]

/-- What follows the type, in a line that begins with one. -/
def Line.declarator? : Line → Option String
  | .blank => none
  | .code _ t =>
    declaringTypes.findSome? fun type => (type.toList.isPrefixOf? t.toList).map String.ofList

/-- The declarator is that of the variable, or of an array with its name. -/
def Declares (name declarator : String) : Prop :=
  ∃ value, declarator = name ++ (" = " ++ value) ∨ declarator = name ++ ("[] = " ++ value)

/-- The variables that lines declare, in order. -/
def Declaring (ls : List Line) (names : List String) : Prop :=
  List.Forall₂ Declares names (ls.filterMap Line.declarator?)

/-- What the lines that declare nothing begin with: the names of operators and of values of a group
are among it. -/
def otherHeads : List String :=
  ["scanOp", "select", "aggOp", "havingOp", "aggFuncs", "*", "it->", "embedDBInitIterator(",
   "embedDBFreeSchema(", "free(", "((void**)", "return "] ++ holderStems

/-- No type begins with another. -/
theorem types_apart : ∀ type ∈ declaringTypes, ∀ type' ∈ declaringTypes,
    type.toList <+: type'.toList → type = type' := by
  decide +kernel

theorem heads_apart : ∀ head ∈ otherHeads, ∀ type ∈ declaringTypes,
    ¬ head.toList <+: type.toList ∧ ¬ type.toList <+: head.toList := by
  decide +kernel

theorem exists_type_of_declarator {t d : String} (h : (line t).declarator? = some d) :
    ∃ type ∈ declaringTypes, type.toList ++ d.toList = t.toList := by
  obtain ⟨type, htype, hsome⟩ := List.exists_of_findSome?_eq_some h
  obtain ⟨cs, hcs, rfl⟩ := Option.map_eq_some_iff.1 hsome
  refine ⟨type, htype, ?_⟩
  rw [String.toList_ofList]
  exact List.isPrefixOf?_eq_some_iff_append_eq.1 hcs

theorem declarator?_append {type : String} (htype : type ∈ declaringTypes) (d : String) :
    (line (type ++ d)).declarator? = some d := by
  cases hline : (line (type ++ d)).declarator? with
  | none =>
      have hnone := List.findSome?_eq_none_iff.1 hline type htype
      have hsome : type.toList.isPrefixOf? (type ++ d).toList = some d.toList := by
        rw [List.isPrefixOf?_eq_some_iff_append_eq, String.toList_append]
      rw [hsome] at hnone
      cases hnone
  | some d' =>
      obtain ⟨type', htype', happend⟩ := exists_type_of_declarator hline
      rw [String.toList_append] at happend
      -- both types begin the line, so they are the same
      have heq : type' = type := by
        rcases List.prefix_or_prefix_of_prefix ⟨d'.toList, happend⟩
          (List.prefix_append type.toList d.toList) with hpre | hpre
        · exact types_apart _ htype' _ htype hpre
        · exact (types_apart _ htype _ htype' hpre).symm
      rw [heq, List.append_cancel_left_eq, String.toList_inj] at happend
      rw [happend]

theorem declarator?_of_head {head t : String} (hhead : head ∈ otherHeads)
    (h : head.toList <+: t.toList) : (line t).declarator? = none := by
  rw [Option.eq_none_iff_forall_not_mem]
  intro d hd
  obtain ⟨type, htype, happend⟩ := exists_type_of_declarator hd
  obtain ⟨hnot, hnot'⟩ := heads_apart head hhead type htype
  rcases List.prefix_or_prefix_of_prefix h ⟨d.toList, happend⟩ with hpre | hpre
  · exact hnot hpre
  · exact hnot' hpre

theorem Declaring.append {ls ls' : List Line} {names names' : List String}
    (h : Declaring ls names) (h' : Declaring ls' names') :
    Declaring (ls ++ ls') (names ++ names') := by
  rw [Declaring, List.filterMap_append]
  exact List.rel_append h h'

/-- Lines of which each declares nothing declare nothing. -/
theorem declaring_nil {ls : List Line} (h : ∀ l ∈ ls, l.declarator? = none) : Declaring ls [] := by
  rw [Declaring, List.filterMap_eq_nil_iff.2 h]
  exact .nil

theorem declarator?_head_append {head : String} (hhead : head ∈ otherHeads) (rest : String) :
    (line (head ++ rest)).declarator? = none :=
  declarator?_of_head hhead (Text.isPrefix_append _ _)

theorem declaring_line (type name lit rest : String) (htype : type ∈ declaringTypes)
    (hlit : " = ".toList <+: lit.toList ∨ "[] = ".toList <+: lit.toList) :
    Declaring [line (type ++ (name ++ (lit ++ rest)))] [name] := by
  have hsplit : ∀ {start : String}, start.toList <+: lit.toList →
      ∃ value, lit ++ rest = start ++ value := by
    rintro start ⟨cs, hcs⟩
    refine ⟨String.ofList cs ++ rest, ?_⟩
    rw [← String.append_assoc, ← String.toList_inj]
    simp [← hcs]
  have hdeclares : Declares name (name ++ (lit ++ rest)) := by
    rcases hlit with hlit | hlit
    · obtain ⟨value, hvalue⟩ := hsplit hlit
      exact ⟨value, .inl (by rw [hvalue])⟩
    · obtain ⟨value, hvalue⟩ := hsplit hlit
      exact ⟨value, .inr (by rw [hvalue])⟩
  rw [Declaring, List.filterMap_cons, declarator?_append htype]
  exact .cons hdeclares .nil

/-! ### Steps -/

theorem name_mem_declaringTypes (t : Storage) : t.name ++ "* " ∈ declaringTypes := by
  cases t <;> decide

theorem declaring_literalLines {name : String} {storage : Storage} {value : Literal}
    {ls : List Line} (h : literalLines name storage value = .ok ls) : Declaring ls [name] := by
  unfold literalLines at h
  simp only [bind_eq_ok, pure_eq_ok] at h
  obtain ⟨stored, -, rfl⟩ := h
  have hfirst := declaring_line (storage.name ++ "* ") name " = ("
    (storage.name ++ "*)malloc(sizeof(" ++ storage.name ++ "));") (name_mem_declaringTypes storage)
    (.inl (by decide))
  have hsecond : Declaring [line ("*" ++ (name ++ (" = " ++ (stored ++ ";"))))] [] :=
    declaring_nil (List.forall_mem_singleton.2 (declarator?_head_append (by decide) _))
  have hall := hfirst.append hsecond
  simp only [String.append_assoc] at hall ⊢
  exact hall

theorem declaring_iteratorLines (minKey maxKey minData maxData : Option String) :
    Declaring (iteratorLines minKey maxKey minData maxData) ["it"] := by
  have hbound : ∀ field bound, (boundLine field bound).declarator? = none := by
    intro field bound
    rw [boundLine, String.append_assoc, String.append_assoc, String.append_assoc]
    exact declarator?_head_append (by decide) _
  have hinit : (line "embedDBInitIterator(state, it);").declarator? = none :=
    declarator?_of_head (by decide : "embedDBInitIterator(" ∈ otherHeads) (by decide)
  have hfirst := declaring_line "embedDBIterator* " "it" " = "
    "(embedDBIterator*)malloc(sizeof(embedDBIterator));" (by decide) (.inl (by decide))
  have hrest : Declaring [boundLine "minKey" minKey, boundLine "maxKey" maxKey,
      boundLine "minData" minData, boundLine "maxData" maxData,
      line "embedDBInitIterator(state, it);", .blank] [] := by
    refine declaring_nil ?_
    simp only [List.forall_mem_cons]
    exact ⟨hbound _ _, hbound _ _, hbound _ _, hbound _ _, hinit, rfl, List.forall_mem_nil _⟩
  exact hfirst.append hrest

theorem declaring_schemaLines (s : Schema) :
    Declaring (schemaLines s) ["numCols", "colSizes", "colSignedness", "schema"] := by
  have hcount := declaring_line "uint8_t " "numCols" " = " (toString s.length ++ ";") (by decide)
    (.inl (by decide))
  have hsizes := declaring_line "int8_t " "colSizes" "[] = \x7b"
    (commaJoined (s.columns.map fun c => toString c.size) ++ "\x7d;") (by decide)
    (.inr (by decide))
  have hsigns := declaring_line "int8_t " "colSignedness" "[] = \x7b"
    (commaJoined (s.columns.map signText) ++ "\x7d;") (by decide) (.inr (by decide))
  have hschema := declaring_line "embedDBSchema* " "schema" " = "
    "embedDBCreateSchema(numCols, colSizes, colSignedness);" (by decide) (.inl (by decide))
  have hall := ((hcount.append hsizes).append hsigns).append hschema
  simpa [schemaLines, ← String.append_assoc] using hall

theorem declaring_selectionLine (name input : String) (column : Nat) (op : Comparator)
    (value : String) : Declaring [selectionLine name input column op value] [name] := by
  have hline := declaring_line "embedDBOperator* " name " = createSelectionOperator("
    (input ++ ", " ++ toString column ++ ", " ++ op.constant ++ ", " ++ value ++ ");") (by decide)
    (.inl (by simp))
  simpa only [selectionLine, String.append_assoc] using hline

theorem descriptorLines_eq_ok {x : Descriptor} {ls : List Line} (h : descriptorLines x = .ok ls) :
    ∃ value rest, (∀ l ∈ rest, ∃ t, l = line (x.holder ++ t)) ∧
      ls = line ("embedDBAggregateFunc* " ++ (x.holder ++ (" = " ++ value))) :: rest := by
  unfold descriptorLines at h
  simp only [String.append_assoc] at h
  cases hkind : x.kind with
  | groupValue =>
      rw [hkind] at h
      dsimp only at h
      split at h
      · cases h
      · obtain rfl := pure_eq_ok.1 h
        refine ⟨_, _, ?_, rfl⟩
        simp only [List.forall_mem_cons]
        exact ⟨⟨_, rfl⟩, ⟨_, rfl⟩, List.forall_mem_nil _⟩
  | aggregate f =>
      rw [hkind] at h
      cases f with
      | count =>
          obtain rfl := pure_eq_ok.1 h
          exact ⟨_, [], List.forall_mem_nil _, rfl⟩
      | _ =>
          simp only [bind_eq_ok, pure_eq_ok] at h
          obtain ⟨source, -, rfl⟩ := h
          exact ⟨_, [], List.forall_mem_nil _, rfl⟩

/-- A value of a group in its variable, if its name begins as those names do. -/
theorem declaring_descriptorLines {x : Descriptor} {ls : List Line}
    (h : descriptorLines x = .ok ls) {stem : String} (hstem : stem ∈ holderStems)
    (hx : stem.toList <+: x.holder.toList) : Declaring ls [x.holder] := by
  obtain ⟨value, rest, hrest, rfl⟩ := descriptorLines_eq_ok h
  have hfirst := declaring_line "embedDBAggregateFunc* " x.holder " = " value (by decide)
    (.inl List.prefix_rfl)
  refine hfirst.append (declaring_nil fun l hl => ?_)
  obtain ⟨t, rfl⟩ := hrest l hl
  exact declarator?_of_head (List.mem_append_right _ hstem) (hx.trans (Text.isPrefix_append _ _))

/-- The names of the values of a group, and of the array of them, begin in the known ways. -/
def StepNames : Step → Prop
  | .aggregate _ descriptors packed _ => packed = "aggFuncs" ∧
      ∀ x ∈ descriptors, ∃ stem ∈ holderStems, stem.toList <+: x.holder.toList
  | _ => True

theorem declaring_aggregateLines {transient : List String} {input packed name : String}
    {ds : List Descriptor} {ls : List Line}
    (h : aggregateLines transient input ds packed name = .ok ls)
    (hst : StepNames (.aggregate input ds packed name)) :
    Declaring ls (ds.map Descriptor.holder ++ [packed, name]) := by
  obtain ⟨rfl, hds⟩ := hst
  unfold aggregateLines at h
  simp only [bind_eq_ok, pure_eq_ok, mapM_eq_ok] at h
  obtain ⟨values, hvalues, rfl⟩ := h
  have hholders : Declaring values.flatten (ds.map Descriptor.holder) := by
    induction hvalues with
    | nil => exact .nil
    | cons hx _ ih =>
        obtain ⟨⟨stem, hstem, hd⟩, hds⟩ := List.forall_mem_cons.1 hds
        exact (declaring_descriptorLines hx hstem hd).append (ih hds)
  have hpacked := declaring_line "embedDBAggregateFunc* " "aggFuncs"
    " = (embedDBAggregateFunc*)malloc(" (toString ds.length ++ " * sizeof(embedDBAggregateFunc));")
    (by decide) (.inl (by simp))
  have hcopies : Declaring (ds.zipIdx.map fun x =>
      line ("aggFuncs" ++ "[" ++ toString x.2 ++ "] = *" ++ x.1.holder ++ ";")) [] := by
    refine declaring_nil (List.forall_mem_map.2 fun x _ => ?_)
    simp only [String.append_assoc]
    exact declarator?_head_append (by decide) _
  have hfrees : Declaring (transient.map fun v => line ("free(" ++ v ++ ");")) [] := by
    refine declaring_nil (List.forall_mem_map.2 fun v _ => ?_)
    simp only [String.append_assoc]
    exact declarator?_head_append (by decide) _
  have hoperator := declaring_line "embedDBOperator* " name " = createAggregateOperator("
    (input ++ ", groupFunction, " ++ "aggFuncs" ++ ", " ++ toString ds.length ++ ");") (by decide)
    (.inl (by simp))
  have hall := (((hholders.append hpacked).append hcopies).append hfrees).append hoperator
  simpa only [String.append_assoc, List.append_assoc, List.nil_append, List.append_nil,
    List.cons_append] using hall

/-- The lines of a step declare its variables. -/
theorem declaring_stepLines {transient : List String} {st : Step} {ls : List Line}
    (h : stepLines transient st = .ok ls) (hst : StepNames st) : Declaring ls st.variables := by
  cases st with
  | literal name storage value => exact declaring_literalLines h
  | iterator minKey maxKey minData maxData =>
      obtain rfl := pure_eq_ok.1 h
      exact declaring_iteratorLines _ _ _ _
  | scan schema name =>
      obtain rfl := pure_eq_ok.1 h
      have hscan := declaring_line "embedDBOperator* " name " = "
        "createTableScanOperator(state, it, schema);" (by decide) (.inl (by decide))
      have hall := (declaring_schemaLines schema).append hscan
      simp only [String.append_assoc] at hall ⊢
      exact hall
  | selection name input column op value =>
      obtain rfl := pure_eq_ok.1 h
      exact declaring_selectionLine name input column op value
  | aggregate input ds packed name => exact declaring_aggregateLines h hst
  | having name input column op value =>
      obtain rfl := pure_eq_ok.1 h
      exact declaring_selectionLine name input column op value

theorem declaring_steps {transient : List String} {steps : List Step} {lss : List (List Line)}
    (h : steps.mapM (stepLines transient) = .ok lss) (hsteps : ∀ st ∈ steps, StepNames st) :
    Declaring lss.flatten (steps.flatMap Step.variables) := by
  have hall := mapM_eq_ok.1 h
  clear h
  induction hall with
  | nil => exact .nil
  | cons hls _ ih =>
      obtain ⟨hst, hrest⟩ := List.forall_mem_cons.1 hsteps
      exact (declaring_stepLines hls hst).append (ih hrest)

theorem declaring_handOverLines {p : Program} {head : String} (hhead : head ∈ otherHeads)
    (hroot : head.toList <+: p.root.toList) : Declaring (handOverLines p) [] := by
  have hinit : (line (p.root ++ ("->init(" ++ (p.root ++ ");")))).declarator? = none :=
    declarator?_of_head hhead (hroot.trans (Text.isPrefix_append _ _))
  have hfree : (line "embedDBFreeSchema(&schema);").declarator? = none :=
    declarator?_of_head (by decide : "embedDBFreeSchema(" ∈ otherHeads) (by decide)
  refine declaring_nil ?_
  simp only [handOverLines, List.forall_mem_append, List.forall_mem_cons, List.forall_mem_map,
    String.append_assoc]
  refine ⟨⟨⟨hinit, rfl, hfree, rfl, ?_, List.forall_mem_nil _⟩, fun x _ => ?_⟩, rfl, ?_,
    List.forall_mem_nil _⟩
  · exact declarator?_of_head (by decide : "*" ∈ otherHeads) (by simp)
  · exact declarator?_of_head (by decide : "((void**)" ∈ otherHeads) (by simp)
  · exact declarator?_head_append (by decide) _

end Listing

/-! ### Programs -/

namespace Plan

open Listing

section

variable {q : Resolved} {p : Program}

/-- The names in the steps and that of the last operator begin in the known ways. -/
structure Assembly.Headed (a : Assembly) : Prop where
  steps : ∀ s ∈ a.steps, StepNames s
  top : ∃ head ∈ otherHeads, head.toList <+: a.top.toList

theorem Assembly.headed_scan {a : Assembly} {table : String} {stored : Schema} {access : Access}
    (h : ({ table, stored } : Assembly).scan access = .ok a) : a.Headed := by
  obtain ⟨keyType, dataType, -, -, -, -, rfl⟩ := scan_eq_ok h
  have hbound : ∀ name storage value, ∀ s ∈ boundSteps name storage value, StepNames s := by
    intro name storage value s hs
    obtain ⟨t, v, -, -, rfl⟩ := mem_boundSteps.1 hs
    trivial
  refine ⟨?_, "scanOp", by decide, List.prefix_rfl⟩
  simp only [List.nil_append, boundsSteps, List.forall_mem_append, List.forall_mem_cons]
  exact ⟨⟨⟨⟨hbound _ _ _, hbound _ _ _⟩, hbound _ _ _⟩, hbound _ _ _⟩, trivial, trivial,
    List.forall_mem_nil _⟩

theorem Assembly.Headed.selection {a a' : Assembly} (h : a.Headed) {f : Filter}
    (hf : a.selection f = .ok a') : a'.Headed := by
  obtain ⟨c, -, rfl⟩ := selection_eq_ok hf
  refine ⟨?_, "select", by decide, ?_⟩
  · simp only [List.forall_mem_append, List.forall_mem_cons]
    exact ⟨h.steps, trivial, trivial, List.forall_mem_nil _⟩
  · exact (Text.isPrefix_append _ _).trans (Text.madeFrom_fresh _ _).isPrefix

theorem Stages.headed (st : Stages q p) : st.assembly.Headed := by
  refine operators_keep st.operators_eq (fun b hb => Assembly.headed_scan hb)
    (fun b b' f _ hf hb => hb.selection hf) ?_ ?_
  · intro b g hg hb
    refine ⟨?_, "aggOp", by decide, List.prefix_rfl⟩
    refine List.forall_mem_append.2 ⟨hb.steps, List.forall_mem_singleton.2 ⟨rfl, fun x hx => ?_⟩⟩
    obtain ⟨k, hk⟩ := List.mem_iff_getElem?.1 hx
    obtain ⟨stem, hstem, hholder⟩ := st.holder_eq hg hk
    refine ⟨stem, hstem, ?_⟩
    rw [hholder]
    exact Text.isPrefix_append _ _
  · intro b hf _ hb
    refine ⟨?_, "havingOp", by decide, List.prefix_rfl⟩
    simp only [Assembly.having, Assembly.literal, List.forall_mem_append, List.forall_mem_singleton]
    exact ⟨⟨hb.steps, trivial⟩, trivial⟩

/-- A planned program has a procedure that constructs its operators, and the lines of that declare
the variables of the program. -/
theorem Stages.declaring (st : Stages q p) :
    ∃ body names, construction p = .ok (block
        "embedDBOperator* createOperator(embedDBState* state, void*** allocatedValues)" body) ∧
      p.variables = ["state", "allocatedValues"] ++ names ∧ Declaring body names := by
  -- printing may fail with no fault at all
  have hprint := ensures_construction (E := fun _ => False) st.printable_steps
  cases hcreate : construction p with
  | error e => exact (hprint.2 e hcreate).elim
  | ok create =>
      obtain ⟨lss, hlss, rfl⟩ := construction_eq_ok hcreate
      obtain ⟨hsteps, head, hhead, htop⟩ := st.headed
      rw [← st.steps_eq] at hsteps
      rw [← st.root_eq] at htop
      have hall := (declaring_steps hlss hsteps).append (declaring_handOverLines hhead htop)
      rw [List.append_nil] at hall
      exact ⟨_, _, rfl, rfl, hall⟩

/-- A table with similar names of columns. -/
def gauges : Catalog.Table where
  name := "gauges"
  columns := [⟨"id", .int32⟩, ⟨"Ex", .int32⟩, ⟨"x_2", .int64⟩, ⟨"x", .int32⟩]
  primaryKey := some 0

/-- Comparisons and columns that spell the same name in several ways: `LT` with `Ex` is `LTE` with
`x`, and a number after that is what another column has in its name. -/
def crowdedGauges : Resolved :=
  { Resolved.ofTable gauges with
    predicates := [⟨0, .ge, .integer 3⟩, ⟨1, .lt, .integer 5⟩, ⟨2, .le, .integer 6⟩,
      ⟨3, .le, .integer 7⟩, ⟨3, .le, .integer 8⟩]
    aggregated := true
    groupBy := [.column 1]
    having := [.comparison .lt (.literal (.integer 5)) (.projected (.aggregate ⟨.max, some 3⟩))]
    projections := [
      { name := "Ex", kind := .column 1 },
      { name := "n", kind := .aggregate ⟨.count, none⟩ }] }

/-- The variables of its program. -/
def crowdedVariables : List String :=
  ["state", "allocatedValues", "minKey", "it", "numCols", "colSizes", "colSignedness", "schema",
   "scanOp", "selValLTEx", "selectLTEx", "selValLTEx_2", "selectLTEx_2", "selValLTEx_3",
   "selectLTEx_3", "selValLTEx_4", "selectLTEx_4", "group0", "counter1", "max2", "aggFuncs",
   "aggOp", "havingValue", "havingOp"]

theorem access_crowdedGauges : Access.ofQuery crowdedGauges
    = Access.ofFilters crowdedGauges.hints
      [⟨0, .ge, 3⟩, ⟨1, .lt, 5⟩, ⟨2, .le, 6⟩, ⟨3, .le, 7⟩, ⟨3, .le, 8⟩] := rfl

/-- **The variables of a program are different from each other and from its routines.**  They are
the parameters of the procedure that constructs the operators and what the lines of it declare,
whatever the names of columns are and whatever the filters have in common. -/
theorem variables_distinct (h : (ofQuery q).run.value = .ok p) :
    p.variables.Nodup ∧ (∀ r ∈ p.routines.list, r.name ∉ p.variables) ∧
      ∃ body names, construction p = .ok (block
          "embedDBOperator* createOperator(embedDBState* state, void*** allocatedValues)" body) ∧
        p.variables = ["state", "allocatedValues"] ++ names ∧ Declaring body names := by
  obtain ⟨st⟩ := stages_of_ofQuery h
  exact ⟨st.nodup_variables, st.routine_not_variable, st.declaring⟩

theorem variables_distinct_crowdedGauges :
    ∃ p, (ofQuery crowdedGauges).run.value = .ok p ∧ p.variables = crowdedVariables ∧
      p.variables.Nodup ∧ (∀ r ∈ p.routines.list, r.name ∉ p.variables) ∧
      ∃ body names, construction p = .ok (block
          "embedDBOperator* createOperator(embedDBState* state, void*** allocatedValues)" body) ∧
        p.variables = ["state", "allocatedValues"] ++ names ∧ Declaring body names := by
  obtain ⟨p, hp, hvariables⟩ : ∃ p, (ofQuery crowdedGauges).run.value = .ok p ∧
      p.variables = crowdedVariables := by
    rw [ofQuery, build, access_crowdedGauges, Access.ofFilters,
      Access.candidates_of_pairwise (by decide)]
    exact ⟨_, rfl, by decide +kernel⟩
  exact ⟨p, hp, hvariables, variables_distinct hp⟩

end

end Plan

end SqlPipeline
