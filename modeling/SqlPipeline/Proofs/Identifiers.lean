/-
**Which variables of a generated program are identifiers.**

The names of output columns are made into identifiers when a query is looked up.  The names of
columns are not: they come as they were defined into the names of the variables of filters, and a
quoted name may have any characters.  So the printed columns always have identifiers as names, while
the variables of the procedure that constructs the operators do so exactly if the columns that
filters compare have no other characters.

Main definitions:

* `Text.isPlain` — a text with no other characters than identifiers have.

Main results:

* `Query.isIdentifier_identifier`, `Query.isIdentifier_of_ofText` — the names of output columns;
* `Plan.Stages.isIdentifier_iff` — the variables of a program;
* `variables_identifiers_iff` — **what a text over a catalog gives has identifiers as names, up to
  the columns of filters**;
* `variable_with_blank` — a variable that is none.
-/

import SqlPipeline.Proofs.Freeing
import SqlPipeline.Proofs.Resolution
import SqlPipeline.Proofs.Variables

set_option autoImplicit false

namespace SqlPipeline

open Journal Layout Query Outcome

/-! ### Characters of identifiers -/

namespace Text

/-- Whether a text has no other characters than identifiers have. -/
def isPlain (s : String) : Bool :=
  s.toList.all isIdentifierChar

theorem isPlain_append (s t : String) : isPlain (s ++ t) = (isPlain s && isPlain t) := by
  rw [isPlain, String.toList_append, List.all_append]
  rfl

theorem isPlain_toString (n : Nat) : isPlain (toString n) = true := by
  rw [isPlain, List.all_eq_true]
  intro c hc
  have hdigit := Listing.isDigit_of_mem_toString hc
  simp [isIdentifierChar, Char.isAlphanum, hdigit]

/-- What goes on after an identifier has to be plain. -/
theorem isIdentifier_append {s : String} (h : isIdentifier s = true) (t : String) :
    isIdentifier (s ++ t) = isPlain t := by
  unfold isIdentifier at h ⊢
  rw [String.toList_append]
  cases hs : s.toList with
  | nil =>
      rw [hs] at h
      cases h
  | cons c cs =>
      rw [hs] at h
      simp only [Bool.and_eq_true] at h
      obtain ⟨hlead, hrest⟩ := h
      simp only [List.cons_append, List.all_append, hlead, hrest, Bool.true_and]
      rfl

theorem MadeFrom.isIdentifier_eq {stem rest name : String} (h : MadeFrom (stem ++ rest) name)
    (hstem : isIdentifier stem = true) : isIdentifier name = isPlain rest := by
  rcases h with rfl | ⟨n, rfl⟩
  · exact isIdentifier_append hstem rest
  · have hline : isPlain "_" = true := by decide
    rw [String.append_assoc, String.append_assoc, isIdentifier_append hstem, isPlain_append,
      isPlain_append, hline, isPlain_toString, Bool.and_true, Bool.and_true]

end Text

/-! ### Output columns -/

namespace Query

theorem isIdentifierChar_of_mem {name : String} {c : Char} (hc : c ∈ identifierChars name) :
    isIdentifierChar c = true := by
  obtain ⟨c', -, rfl⟩ := List.mem_map.1 hc
  by_cases h : isIdentifierChar c' = true
  · rw [if_pos h]
    exact h
  · rw [if_neg h]
    decide

theorem isIdentifier_withLead {cs : List Char} (h : ∀ c ∈ cs, isIdentifierChar c = true) :
    Text.isIdentifier (String.ofList (withLead cs)) = true := by
  rw [Text.isIdentifier, String.toList_ofList]
  cases cs with
  | nil => decide
  | cons c cs =>
      have hall : (c :: cs).all isIdentifierChar = true := List.all_eq_true.2 h
      by_cases hdigit : c.isDigit = true
      · rw [withLead, if_pos hdigit]
        simpa using hall
      · rw [withLead, if_neg hdigit]
        -- a letter or an underscore, since it is no digit
        have hlead : (c.isAlpha || c == '_') = true := by
          have hc := h c List.mem_cons_self
          simpa [isIdentifierChar, Char.isAlphanum, hdigit] using hc
        rw [List.all_cons, Bool.and_eq_true] at hall
        simp only [hlead, hall.2, Bool.and_self]

/-- A name is made into an identifier. -/
theorem isIdentifier_identifier (name : String) : Text.isIdentifier (identifier name) = true := by
  have hlead := isIdentifier_withLead fun c (hc : c ∈ identifierChars name) =>
    isIdentifierChar_of_mem hc
  unfold identifier
  dsimp only
  split
  · rw [Text.isIdentifier_append hlead]
    decide
  · exact hlead

/-- Output columns of which each has an identifier as its name. -/
def Identified (ps : List Projection) : Prop :=
  ∀ x ∈ ps, Text.isIdentifier x.name = true

theorem Identified.addProjection {ps : List Projection} (h : Identified ps) (kind : Kind)
    (name : String) (label : Option String) : Identified (addProjection ps kind name label) := by
  have hname : Text.isIdentifier (Text.fresh (ps.map Projection.name) (identifier name))
      = true := by
    have hmade : Text.MadeFrom (identifier name ++ "")
        (Text.fresh (ps.map Projection.name) (identifier name)) := by
      rw [String.append_empty]
      exact Text.madeFrom_fresh _ _
    rw [hmade.isIdentifier_eq (isIdentifier_identifier name)]
    decide
  exact List.forall_mem_append.2 ⟨h, List.forall_mem_singleton.2 hname⟩

theorem Scope.identified_projections {s : Scope} {items : List Sql.SelectItem}
    {ps : List Projection} (h : s.projections items = .ok ps) : Identified ps := by
  obtain ⟨-, -, hps⟩ := s.projections_induct (I := fun _ ps => Identified ps)
    (fun _ _ _ _ _ hps => hps.addProjection _ _ _) h (List.forall_mem_nil _)
  exact hps

/-- The output columns of a text have identifiers as names. -/
theorem isIdentifier_of_ofText {catalog : Catalog.Store} {text : String} {q : Resolved}
    (h : ofText catalog text = .ok q) : Identified q.projections := by
  obtain ⟨sql, shown, -, h⟩ := query_of_ofText h
  obtain ⟨sel, -, h⟩ := select_of_ofQuery h
  obtain ⟨scopes, -, h⟩ := bind_eq_ok.1 h
  split at h
  · cases h
  · next s => exact s.identified_projections (overScope_eq_ok h).1
  · -- with more tables than one, there are no output columns
    obtain rfl := pure_eq_ok.1 h
    exact List.forall_mem_nil _

end Query

/-! ### Variables -/

namespace Plan

theorem FilterNames.isIdentifier_eq {stored : Schema} {f : Filter} {names : String × String}
    (h : FilterNames stored f names) :
    ∃ c, stored.column? f.column = some c ∧
      ∀ v ∈ bothNames names, Text.isIdentifier v = Text.isPlain c.name := by
  obtain ⟨c, hc, hvalue, hname⟩ := h
  have hstem : Text.isIdentifier ("selVal" ++ f.op.suffix) = true ∧
      Text.isIdentifier ("select" ++ f.op.suffix) = true := by
    cases f.op <;> decide
  rw [← String.append_assoc] at hvalue hname
  refine ⟨c, hc, ?_⟩
  simp only [bothNames, List.forall_mem_cons]
  exact ⟨hvalue.isIdentifier_eq hstem.1, hname.isIdentifier_eq hstem.2, List.forall_mem_nil _⟩

theorem isIdentifier_holder {stem : String} (h : stem ∈ holderStems) (n : Nat) :
    Text.isIdentifier (stem ++ toString n) = true := by
  have hstems : ∀ stem ∈ holderStems, Text.isIdentifier stem = true := by decide
  rw [Text.isIdentifier_append (hstems stem h)]
  exact Text.isPlain_toString n

variable {q : Resolved} {p : Program}

/-- The column of a filter, as the table defines it. -/
theorem Stages.name_of_column? (st : Stages q p) {n : Nat} {c : Column}
    (h : st.stored.column? n = some c) :
    ∃ c', st.table.columns[n]? = some c' ∧ c'.name = c.name := by
  have hname : (st.stored.columns.map Column.name)[n]? = some c.name := by
    rw [List.getElem?_map]
    exact congrArg (Option.map Column.name) h
  rw [map_name_ofTable st.stored_eq, List.getElem?_map, Option.map_eq_some_iff] at hname
  exact hname

/-- The two variables of a filter. -/
theorem Stages.isIdentifier_bothNames (st : Stages q p) {f : Filter} {names : String × String}
    (h : FilterNames st.stored f names) :
    (∀ v ∈ bothNames names, Text.isIdentifier v = true) ↔
      ∀ c, st.table.columns[f.column]? = some c → Text.isPlain c.name = true := by
  obtain ⟨c, hc, hboth⟩ := h.isIdentifier_eq
  obtain ⟨c', hc', hname⟩ := st.name_of_column? hc
  constructor
  · intro hall d hd
    cases hc'.symm.trans hd
    rw [hname, ← hboth names.1 List.mem_cons_self]
    exact hall names.1 List.mem_cons_self
  · intro hplain v hv
    rw [hboth v hv, ← hname]
    exact hplain c' hc'

/-- The variables of filters, by induction on these. -/
theorem Stages.isIdentifier_named (st : Stages q p) {fs : List Filter}
    {names : List (String × String)} (h : List.Forall₂ (FilterNames st.stored) fs names) :
    (∀ v ∈ names.flatMap bothNames, Text.isIdentifier v = true) ↔
      ∀ f ∈ fs, ∀ c, st.table.columns[f.column]? = some c → Text.isPlain c.name = true := by
  induction h with
  | nil => simp
  | cons hf _ ih =>
      rw [List.flatMap_cons, List.forall_mem_append, List.forall_mem_cons]
      exact and_congr (st.isIdentifier_bothNames hf) ih

/-- The variables of a program are identifiers exactly if the columns of its filters are plain. -/
theorem Stages.isIdentifier_iff (st : Stages q p) :
    (∀ v ∈ p.variables, Text.isIdentifier v = true) ↔
      ∀ f ∈ p.access.filters, ∀ c, st.table.columns[f.column]? = some c →
        Text.isPlain c.name = true := by
  obtain ⟨names, hchosen, hperm⟩ := st.variables_perm
  have hfixed : ∀ v ∈ p.fixedVariables, Text.isIdentifier v = true := by
    have hall : ∀ v ∈ variableNames, Text.isIdentifier v = true := by decide +kernel
    exact fun v hv => hall v (p.fixedVariables_sublist.subset hv)
  have hholders : ∀ v ∈ p.transient, Text.isIdentifier v = true := by
    intro v hv
    obtain ⟨stem, hstem, n, rfl⟩ := st.holder_of_transient hv
    exact isIdentifier_holder hstem n
  rw [← st.isIdentifier_named hchosen.named]
  constructor
  · exact fun h v hv => h v (hperm.mem_iff.2 (by simp [hv]))
  · intro h v hv
    rw [hperm.mem_iff, List.mem_append, List.mem_append] at hv
    rcases hv with (hv | hv) | hv
    · exact hfixed v hv
    · exact h v hv
    · exact hholders v hv

end Plan

/-! ### Texts over catalogs -/

/-- **What a text over a catalog gives has identifiers as names, up to the columns of filters.**
The printed columns have identifiers as names.  The variables of the procedure that constructs the
operators are identifiers exactly if each column that a filter compares is plain. -/
theorem variables_identifiers_iff {catalog : Catalog.Store} {sql : String} {p : Plan.Program}
    (h : (planText catalog sql).run.value = .ok p) :
    (∀ c ∈ p.output, Text.isIdentifier c.name = true) ∧
      ∃ q table, Query.ofText catalog sql = .ok q ∧ q.tables = [table] ∧
        ((∀ v ∈ p.variables, Text.isIdentifier v = true) ↔
          ∀ f ∈ p.access.filters, ∀ c, table.columns[f.column]? = some c →
            Text.isPlain c.name = true) := by
  cases hq : Query.ofText catalog sql with
  | error f =>
      rw [planText_of_error hq] at h
      cases h
  | ok q =>
      rw [planText_of_ok hq] at h
      obtain ⟨st⟩ := Plan.stages_of_ofQuery h
      refine ⟨fun c hc => ?_, q, st.table, rfl, st.tables_eq, st.isIdentifier_iff⟩
      obtain ⟨x, hx, hname⟩ := List.mem_map.1 (st.name_mem c hc)
      rw [← hname]
      exact isIdentifier_of_ofText hq x hx

/-- The definition of a table with a quoted name of a column. -/
def shedDefinition : String :=
  "CREATE TABLE shed (id INT PRIMARY KEY, \"air temp\" INT, wind INT)"

/-- The table that the definition describes. -/
def shed : Catalog.Table where
  name := "shed"
  columns := [⟨"id", .int32⟩, ⟨"air temp", .int32⟩, ⟨"wind", .int32⟩]
  primaryKey := some 0

/-- The catalog of the definition. -/
def shedCatalog : Catalog.Store :=
  Catalog.Store.empty.put shed

theorem executeAll_shedDefinition :
    (Catalog.Store.empty.executeAll [shedDefinition]).run.value = .ok shedCatalog := by
  decide +kernel

/-- The column with the quoted name is printed, and another one compared. -/
def calmText : String :=
  "SELECT \"air temp\" FROM shed WHERE wind < 0"

/-- The query that the text stands for. -/
def calm : Resolved :=
  { Resolved.ofTable shed with
    predicates := [⟨2, .lt, .integer 0⟩]
    projections := [{ name := "air_temp", kind := .column 1 }] }

theorem ofText_calmText : Query.ofText shedCatalog calmText = .ok calm := by
  decide +kernel

theorem access_calm : Plan.Access.ofQuery calm
    = Plan.Access.ofFilters calm.hints [⟨2, .lt, 0⟩] := rfl

theorem variables_identifiers_iff_calmText :
    ∃ p, (planText shedCatalog calmText).run.value = .ok p ∧
      p.output.map Plan.OutputColumn.name = ["air_temp"] ∧
      (∀ c ∈ p.output, Text.isIdentifier c.name = true) ∧
      ∀ v ∈ p.variables, Text.isIdentifier v = true := by
  obtain ⟨p, hp, houtput, hfilters⟩ : ∃ p, (planText shedCatalog calmText).run.value = .ok p ∧
      p.output.map Plan.OutputColumn.name = ["air_temp"] ∧ p.access.filters = [⟨2, .lt, 0⟩] := by
    rw [planText_of_ok ofText_calmText, Plan.ofQuery, Plan.build, access_calm,
      Plan.Access.ofFilters, Plan.Access.candidates_of_pairwise (by decide)]
    exact ⟨_, rfl, rfl, rfl⟩
  obtain ⟨hnames, q, table, hq, htables, hiff⟩ := variables_identifiers_iff hp
  refine ⟨p, hp, houtput, hnames, hiff.2 ?_⟩
  rw [ofText_calmText] at hq
  cases hq
  cases htables
  rw [hfilters]
  decide +kernel

/-- A filter on the column with the quoted name. -/
def frostText : String :=
  "SELECT id FROM shed WHERE \"air temp\" < 0"

/-- The query that the text stands for. -/
def frost : Resolved :=
  { Resolved.ofTable shed with
    predicates := [⟨1, .lt, .integer 0⟩]
    projections := [{ name := "id", kind := .column 0 }] }

theorem ofText_frostText : Query.ofText shedCatalog frostText = .ok frost := by
  decide +kernel

theorem access_frost : Plan.Access.ofQuery frost
    = Plan.Access.ofFilters frost.hints [⟨1, .lt, 0⟩] := rfl

/-- A variable with a blank in its name. -/
theorem variable_with_blank :
    ∃ catalog p, (Catalog.Store.empty.executeAll [shedDefinition]).run.value = .ok catalog ∧
      (planText catalog frostText).run.value = .ok p ∧ "selValLTair temp" ∈ p.variables ∧
      Text.isIdentifier "selValLTair temp" = false := by
  refine ⟨shedCatalog, ?_⟩
  rw [planText_of_ok ofText_frostText, Plan.ofQuery, Plan.build, access_frost,
    Plan.Access.ofFilters, Plan.Access.candidates_of_pairwise (by decide)]
  exact ⟨_, executeAll_shedDefinition, rfl, by decide +kernel, by decide⟩

end SqlPipeline
