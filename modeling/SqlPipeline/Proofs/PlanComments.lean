/-
**When the explanation before a listing stays a comment.**

A listing may have the explanation of its program before it, between `/*` and `*/`.  A comment ends
with the first `*/`, so it has to be known which explanations contain one.  The parts of an
explanation are joined by texts that begin with no `/` and end with no `*`; so no `*/` comes about
between two parts, and an explanation contains one exactly if a part does.  Numbers, formulas,
routines and the names of output columns do not.  The name of the table and the names of its columns
are shown as they were defined, and they may.

Main definitions:

* `Text.Closes` — a text contains `*/`;
* `Text.afterComment` — what stands after the comment that a text begins with;
* `Text.Separates` — a text that can stand between parts;
* `Plan.Program.shownColumns` — the columns of the table that an explanation names.

Main results:

* `Text.closes_between` — nothing comes about around a text that separates;
* `Text.afterComment_eq_iff` — a comment ends where it should exactly if its text contains no `*/`;
* `Explanation.not_closes_text` — an explanation contains a `*/` only if a part of it does;
* `Plan.Stages.not_closes_explanation` — which parts of the explanation of a program can;
* `explanation_is_comment_iff` — **the explanation before a listing is a comment exactly if no name
  that it shows contains `*/`**.
-/

import SqlPipeline.Proofs.GroupConditions
import SqlPipeline.Proofs.Identifiers
import SqlPipeline.Proofs.Printing
import SqlPipeline.Proofs.StoredValues

set_option autoImplicit false

namespace SqlPipeline

open Journal Layout Query Outcome

namespace Text

/-! ### The end of a comment -/

/-- A text contains the end of a comment. -/
def Closes (s : String) : Prop :=
  ['*', '/'] <:+: s.toList

instance (s : String) : Decidable (Closes s) :=
  inferInstanceAs (Decidable (['*', '/'] <:+: s.toList))

/-- Two characters follow each other in a list that is put together from two, if they do in one of
the two or where they meet. -/
theorem pair_infix_append {a b : Char} {xs ys : List Char} :
    [a, b] <:+: xs ++ ys ↔ [a, b] <:+: xs ∨ [a, b] <:+: ys ∨
      xs.getLast? = some a ∧ ys.head? = some b := by
  induction xs with
  | nil => simp
  | cons x xs ih =>
      rw [List.cons_append, List.infix_cons_iff, ih, List.infix_cons_iff]
      cases xs with
      | nil =>
          cases ys with
          | nil => simp
          | cons y ys =>
              simp only [List.nil_append, List.cons_prefix_cons, List.nil_prefix, and_true,
                List.getLast?_singleton, List.head?_cons, Option.some.injEq, List.infix_nil,
                List.prefix_nil, reduceCtorEq, and_false, or_false, false_or]
              grind
      | cons x' xs =>
          simp only [List.cons_append, List.cons_prefix_cons, List.nil_prefix,
            List.getLast?_cons_cons, or_assoc]

theorem closes_append {s t : String} :
    Closes (s ++ t) ↔ Closes s ∨ Closes t ∨
      s.toList.getLast? = some '*' ∧ t.toList.head? = some '/' := by
  rw [Closes, String.toList_append, pair_infix_append]
  rfl

theorem not_closes_of_not_mem {s : String} (h : '*' ∉ s.toList) : ¬ Closes s := by
  intro hs
  exact h (hs.subset List.mem_cons_self)

theorem not_closes_of_isPlain {s : String} (h : isPlain s = true) : ¬ Closes s := by
  refine not_closes_of_not_mem fun hmem => ?_
  have hchar := List.all_eq_true.1 h '*' hmem
  revert hchar
  decide

theorem not_closes_of_numeral {s : String} (h : Listing.Numeral s) : ¬ Closes s :=
  not_closes_of_not_mem (h.not_mem (by decide))

/-! ### Separators -/

/-- A text that can stand between parts: it is not empty and has no star, and it does not begin with
a slash. -/
structure Separates (l : String) : Prop where
  starless : '*' ∉ l.toList
  first : ∃ c, l.toList.head? = some c ∧ c ≠ '/'

theorem separates_lit {cs : List Char}
    (h : (cs.all (· != '*') && cs.head?.any (· != '/')) = true) : Separates (String.ofList cs) := by
  rw [Bool.and_eq_true, List.all_eq_true, Option.any_eq_true] at h
  obtain ⟨hall, c, hc, hne⟩ := h
  constructor
  · rw [String.toList_ofList]
    intro hmem
    exact absurd (hall '*' hmem) (by decide)
  · rw [String.toList_ofList]
    exact ⟨c, hc, by simpa using hne⟩

section

variable {l s t : String}

theorem closes_before (hl : Separates l) : Closes (s ++ l) ↔ Closes s := by
  obtain ⟨c, hfirst, hc⟩ := hl.first
  rw [closes_append, hfirst]
  simp [not_closes_of_not_mem hl.starless, hc]

theorem closes_after (hl : Separates l) : Closes (l ++ t) ↔ Closes t := by
  have hlast : l.toList.getLast? ≠ some '*' := fun h => hl.starless (List.mem_of_getLast? h)
  rw [closes_append]
  simp [not_closes_of_not_mem hl.starless, hlast]

/-- **Nothing comes about around a text that separates.** -/
theorem closes_between (hl : Separates l) : Closes (s ++ l ++ t) ↔ Closes s ∨ Closes t := by
  obtain ⟨c, hfirst, hc⟩ := hl.first
  have hjoin : (l ++ t).toList.head? = some c := by
    rw [String.toList_append, List.head?_append, hfirst]
    rfl
  rw [String.append_assoc, closes_append, closes_after hl, hjoin]
  simp [hc]

end

theorem closes_intercalate {sep : String} (hsep : Separates sep) {ss : List String} :
    Closes (sep.intercalate ss) ↔ ∃ s ∈ ss, Closes s := by
  induction ss with
  | nil => simp [Closes]
  | cons s ss ih =>
      cases ss with
      | nil => simp
      | cons t ss =>
          rw [String.intercalate_cons_cons, closes_between hsep, ih]
          simp

theorem closes_lines {ls : List String} :
    Closes (String.join (ls.map (· ++ "\n"))) ↔ ∃ l ∈ ls, Closes l := by
  induction ls with
  | nil => simp [Closes]
  | cons l ls ih =>
      rw [List.map_cons, String.join_cons, closes_between (separates_lit rfl), ih]
      simp

/-! ### Comments -/

/-- What stands after the first end of a comment. -/
def afterClose : List Char → Option (List Char)
  | [] => none
  | c :: cs => if ['*', '/'] <+: c :: cs then some (cs.drop 1) else afterClose cs

/-- What stands after the comment that a text begins with. -/
def afterComment (s : String) : Option (List Char) :=
  if ['/', '*'] <+: s.toList then afterClose (s.toList.drop 2) else none

theorem pair_prefix_cons_cons {x y c d : Char} {cs : List Char} :
    [x, y] <+: c :: d :: cs ↔ x = c ∧ y = d := by
  simp [List.cons_prefix_cons]

/-- The first end of a comment is that after a text without one. -/
theorem afterClose_of_not_infix {a : List Char} (h : ¬ ['*', '/'] <:+: a) (b : List Char) :
    afterClose (a ++ '*' :: '/' :: b) = some b := by
  induction a with
  | nil => rfl
  | cons c a ih =>
      rw [List.infix_cons_iff, not_or] at h
      have hnot : ¬ ['*', '/'] <+: c :: (a ++ '*' :: '/' :: b) := by
        cases a with
        | nil => simp
        | cons d a => simpa only [List.cons_append, pair_prefix_cons_cons] using h.1
      rw [List.cons_append, afterClose, if_neg hnot]
      exact ih h.2

/-- A text with the end of a comment ends one, and what follows the text is left over with what
remains of it. -/
theorem afterClose_of_infix {a : List Char} (h : ['*', '/'] <:+: a) (b : List Char) :
    ∃ r, afterClose (a ++ b) = some (r ++ b) := by
  induction a with
  | nil => simp at h
  | cons c a ih =>
      cases a with
      | nil => simp [List.infix_cons_iff, List.cons_prefix_cons] at h
      | cons d a =>
          by_cases hhere : '*' = c ∧ '/' = d
          · refine ⟨a, ?_⟩
            rw [List.cons_append, List.cons_append, afterClose,
              if_pos (pair_prefix_cons_cons.2 hhere)]
            rfl
          · rw [List.infix_cons_iff, pair_prefix_cons_cons] at h
            obtain ⟨r, hr⟩ := ih (h.resolve_left hhere)
            refine ⟨r, ?_⟩
            rw [List.cons_append, List.cons_append, afterClose,
              if_neg (mt pair_prefix_cons_cons.1 hhere)]
            exact hr

/-- **A comment ends where it should exactly if its text contains no end of a comment.** -/
theorem afterComment_eq_iff (e t : String) :
    afterComment ("/*\n" ++ e ++ "*/\n" ++ t) = some ("\n" ++ t).toList ↔ ¬ Closes e := by
  have htext : ("/*\n" ++ e ++ "*/\n" ++ t).toList
      = '/' :: '*' :: ('\n' :: e.toList ++ '*' :: '/' :: ("\n" ++ t).toList) := by
    simp
  have hcloses : ['*', '/'] <:+: '\n' :: e.toList ↔ Closes e := by
    rw [List.infix_cons_iff]
    simp [List.cons_prefix_cons, Closes]
  rw [afterComment, htext, if_pos (by simp [List.cons_prefix_cons]), List.drop_succ_cons,
    List.drop_succ_cons, List.drop_zero, ← hcloses]
  constructor
  · intro h hinfix
    obtain ⟨r, hr⟩ := afterClose_of_infix hinfix ('*' :: '/' :: ("\n" ++ t).toList)
    rw [hr, Option.some.injEq] at h
    have hlength := congrArg List.length h
    simp at hlength
    omega
  · intro h
    exact afterClose_of_not_infix h _

end Text

open Text

/-! ### Explanations -/

/-- The parts of a summary that its explanation shows: what records are grouped by and the values of
a group are shown together. -/
def Summary.parts (s : Summary) : List String :=
  s.table :: s.keyBounds.toList ++ s.dataBounds.toList ++ s.filters
    ++ (s.group.map (· :: s.aggregates)).getD [] ++ s.having.toList ++ s.output ++ s.routines
    ++ [s.root]

namespace Explanation

theorem closes_item {x : String} : Closes ("  - " ++ x) ↔ Closes x :=
  closes_after (separates_lit rfl)

theorem closes_listed {head : String} (hhead : ¬ Closes head) {items : List String} :
    (∀ l ∈ listed head items, ¬ Closes l) ↔ ∀ x ∈ items, ¬ Closes x := by
  unfold listed
  cases items with
  | nil => simp
  | cons x xs =>
      rw [if_neg (by simp), List.forall_mem_cons, List.forall_mem_map]
      simp only [closes_item, hhead, not_false_eq_true, true_and]

theorem closes_bounds {b : Option String} :
    ¬ Closes (b.getD "none") ↔ ∀ x ∈ b.toList, ¬ Closes x := by
  cases b with
  | none => simpa using not_closes_of_isPlain rfl
  | some b => simp

/-- **An explanation contains no end of a comment exactly if none of its parts does.** -/
theorem not_closes_text {s : Summary} :
    ¬ Closes (accepted s).text ↔ ∀ x ∈ s.parts, ¬ Closes x := by
  have hlines : ¬ Closes (accepted s).text ↔
      ∀ l ∈ "=== EXPLAIN PLAN ===" :: summaryLines s, ¬ Closes l := by
    rw [text, closes_lines]
    simp only [lines, not_exists, not_and]
  have hhead : ¬ Closes "=== EXPLAIN PLAN ===" := not_closes_of_not_mem (by decide +kernel)
  have hstatus : ¬ Closes "Status: ACCEPTED" := not_closes_of_not_mem (by decide +kernel)
  have houtput : ¬ Closes "Output:" := not_closes_of_not_mem (by decide +kernel)
  have haggregates : ¬ Closes "Aggregates:" := not_closes_of_not_mem (by decide +kernel)
  have hfilters : ¬ Closes "Filters:" := not_closes_of_not_mem (by decide +kernel)
  have hroutines : (∀ l ∈ (if s.routines.isEmpty then []
        else ["Helpers: " ++ ", ".intercalate s.routines]), ¬ Closes l) ↔
      ∀ x ∈ s.routines, ¬ Closes x := by
    cases s.routines with
    | nil => simp
    | cons r rs =>
        rw [if_neg (by simp), List.forall_mem_singleton, closes_after (separates_lit rfl),
          closes_intercalate (separates_lit rfl)]
        simp
  have hhaving : (∀ l ∈ (s.having.map ("Having: " ++ ·)).toList, ¬ Closes l) ↔
      ∀ x ∈ s.having.toList, ¬ Closes x := by
    cases s.having with
    | none => simp
    | some h => simp [closes_after (l := "Having: ") (separates_lit rfl)]
  rw [hlines, summaryLines, Summary.parts]
  simp only [List.forall_mem_cons, List.forall_mem_append, List.forall_mem_map, closes_item,
    closes_listed hfilters, hhaving, hroutines, hhead, hstatus, houtput,
    closes_after (l := "Table: ") (separates_lit rfl),
    closes_after (l := "Key Bounds: ") (separates_lit rfl),
    closes_after (l := "Data Bounds: ") (separates_lit rfl),
    closes_after (l := "Root: ") (separates_lit rfl), closes_bounds, not_false_eq_true, true_and,
    and_assoc]
  -- what is left are the lines of the groups
  cases s.group with
  | none => simp
  | some group => simp [closes_after (l := "Group: ") (separates_lit rfl), closes_item, haggregates]

end Explanation

/-! ### The parts of programs -/

namespace Plan

theorem not_closes_int (v : Int) : ¬ Closes (toString v) :=
  not_closes_of_numeral (Listing.numeral_int v)

theorem closes_boundText {name : String} {b : Bound} :
    Closes (boundText name b) ↔ Closes name := by
  unfold boundText
  split
  · rw [closes_between (separates_lit rfl), closes_between (separates_lit rfl)]
    simp only [not_closes_int, false_or, or_false]
  · rw [closes_between (separates_lit rfl)]
    simp only [not_closes_int, or_false]
  · rw [closes_between (separates_lit rfl)]
    simp only [not_closes_int, or_false]
  · exact closes_before (separates_lit rfl)

theorem closes_comparisonText {name value : String} {op : Comparator} :
    Closes (comparisonText name op value) ↔ Closes name ∨ Closes value := by
  have hop : ¬ Closes op.symbol := by cases op <;> decide
  rw [comparisonText, closes_between (separates_lit rfl), closes_between (separates_lit rfl)]
  simp [hop]

/-- No formula contains the end of a comment: there are blanks around its operators. -/
theorem not_closes_textWith {access : String} (h : ¬ Closes access) (e : Formula) :
    ¬ Closes (e.textWith access) := by
  induction e with
  | integer v => exact not_closes_int v
  | decimal v => exact not_closes_of_numeral (Listing.numeral_decimal v)
  | column n => exact h
  | apply f e ih =>
      have hname : ¬ Closes f.routineName := by
        cases f <;> exact not_closes_of_isPlain rfl
      rw [Formula.textWith, closes_before (separates_lit rfl), closes_between (separates_lit rfl)]
      simp [hname, ih]
  | binary op l r ihl ihr =>
      have hop : ¬ Closes op.symbol := by cases op <;> decide
      rw [Formula.textWith, closes_before (separates_lit rfl), closes_between (separates_lit rfl),
        closes_between (separates_lit rfl), closes_after (separates_lit rfl)]
      simp [hop, ihl, ihr]

theorem not_closes_column (n : Nat) : ¬ Closes ("col" ++ toString n) := by
  refine not_closes_of_isPlain ?_
  rw [isPlain_append, isPlain_toString]
  rfl

theorem not_closes_groupText (test : GroupTest) : ¬ Closes (groupText test) := by
  cases test with
  | always => exact not_closes_of_not_mem (by decide +kernel)
  | expression e type offset =>
      refine not_closes_textWith ?_ e
      split
      · exact not_closes_column _
      · decide

theorem closes_valueText {p : Program} {d : Descriptor} :
    Closes (valueText p d) ↔ Closes d.output.name ∨ Closes (sourceName p d) := by
  have hkind : ¬ Closes d.kind.name := by
    rcases d.kind with f | _
    · cases f <;> exact not_closes_of_isPlain rfl
    · exact not_closes_of_isPlain rfl
  have htype : ¬ Closes d.output.type.name := by
    cases d.output.type <;> exact not_closes_of_isPlain rfl
  rw [valueText, closes_between (separates_lit rfl), closes_between (separates_lit rfl),
    closes_between (separates_lit rfl)]
  simp [hkind, htype]

/-! ### Names -/

/-- The column that a value of a group is shown with; counting has none. -/
def Descriptor.shown? (d : Descriptor) : Option Nat :=
  if d.kind = .aggregate .count then none else d.sourceColumn

theorem sourceName_eq (p : Program) (d : Descriptor) :
    sourceName p d = (d.shown?.map (storedName p)).getD "*" := by
  obtain ⟨kind, source, _, _, _, _⟩ := d
  rcases kind with f | _
  · cases f <;> cases source <;> rfl
  · cases source <;> rfl

/-- The columns of the table that an explanation names: those of the bounds and the filters, and
those that values of groups are computed from. -/
def Program.shownColumns (p : Program) : List Nat :=
  p.access.keyColumn.toList ++ p.access.secondaryColumn.toList
    ++ p.access.filters.map Filter.column
    ++ (p.grouping.map fun g => g.descriptors.filterMap Descriptor.shown?).getD []

namespace GroupDraft

variable {stored : Schema} {key : Option GroupKey} {d : GroupDraft} {s s' : Routines}

/-- A value has the name of the output column that it was added for. -/
theorem name_mem_foldlM {ps : List Projection}
    (h : Gathers (ps.foldlM (GroupDraft.add stored key) {}) s d s') :
    ∀ x ∈ d.descriptors, x.output.name ∈ ps.map Projection.name := by
  refine gathers_foldlM (I := fun done d _ =>
    ∀ x ∈ d.descriptors, x.output.name ∈ done.map Projection.name) h (List.forall_mem_nil _) ?_
  intro done p d s d' s' hd hadd x hx
  rw [List.map_append]
  rcases add_gathers hadd with ⟨target, index, -, -, rfl, -⟩ | ⟨-, y, hy, rfl⟩
  · exact List.mem_append_left _ (hd x hx)
  · rcases List.mem_append.1 hx with hx | hx
    · exact List.mem_append_left _ (hd x hx)
    · obtain rfl := List.mem_singleton.1 hx
      obtain ⟨-, hout, -⟩ := descriptorOf_gathers hy
      refine List.mem_append_right _ (List.mem_singleton.2 ?_)
      rw [hout]
      rfl

end GroupDraft

/-- A value of a group has the name of an output column, or is that of the condition on groups. -/
theorem GroupStages.name_mem {q : Resolved} {stored output out : Schema} {s s' : Routines}
    {g : Grouping} (gs : GroupStages q stored output s g out s') :
    ∀ x ∈ g.descriptors, x.output.name ∈ "having" :: q.projections.map Projection.name := by
  have hdraft := GroupDraft.name_mem_foldlM gs.draft_gathers
  rw [gs.descriptors_eq]
  rcases gs.final_cases with ⟨hfinal, -⟩ | ⟨t, kind, y, -, -, -, hfinal, hy⟩
  · rw [hfinal]
    exact fun x hx => List.mem_cons_of_mem _ (hdraft x hx)
  · intro x hx
    rw [hfinal] at hx
    rcases List.mem_append.1 hx with hx | hx
    · exact List.mem_cons_of_mem _ (hdraft x hx)
    · obtain rfl := List.mem_singleton.1 hx
      obtain ⟨-, hout, -⟩ := descriptorOf_gathers hy
      rw [hout]
      exact List.mem_cons_self

section

variable {q : Resolved} {p : Program}

/-- The records that are scanned are those of the table. -/
theorem Stages.scanned_eq (st : Stages q p) : p.steps.findSome? scanned? = some st.stored := by
  have hbound : ∀ name storage value,
      (boundSteps name storage value).findSome? scanned? = none := by
    intro name storage value
    cases storage <;> cases value <;> rfl
  rw [st.steps_eq]
  refine operators_keep (I := fun b => b.steps.findSome? scanned? = some st.stored)
    st.operators_eq ?_ ?_ ?_ ?_
  · intro b hb
    obtain ⟨keyType, dataType, -, -, -, -, rfl⟩ := Assembly.scan_eq_ok hb
    simp only [Assembly.boundsSteps, List.findSome?_append, hbound]
    rfl
  · intro b b' f _ hf hb
    obtain ⟨c, -, rfl⟩ := Assembly.selection_eq_ok hf
    simp only [List.findSome?_append, hb, Option.some_or]
  · intro b g _ hb
    simp only [Assembly.aggregate, List.findSome?_append, hb, Option.some_or]
  · intro b hf _ hb
    simp only [Assembly.having, Assembly.literal, List.findSome?_append, hb, Option.some_or]

/-- A column of the scanned records has the name that the table gives it. -/
theorem Stages.storedName_eq (st : Stages q p) (n : Nat) :
    storedName p n
      = (st.table.columns[n]?.map Catalog.Column.name).getD ("col" ++ toString n) := by
  have hname : st.stored.columns[n]?.map Column.name
      = st.table.columns[n]?.map Catalog.Column.name := by
    rw [← List.getElem?_map, map_name_ofTable st.stored_eq, List.getElem?_map]
  rw [← hname]
  unfold storedName
  rw [st.scanned_eq, Option.bind_some, Schema.column?]
  cases st.stored.columns[n]? <;> rfl

theorem Stages.closes_storedName (st : Stages q p) (n : Nat) :
    Closes (storedName p n) ↔ ∃ c, st.table.columns[n]? = some c ∧ Closes c.name := by
  rw [st.storedName_eq]
  cases st.table.columns[n]? with
  | none => simpa using not_closes_column n
  | some c => simp

/-- The name of an operator that filters contains the name of its column, and nothing else that ends
a comment. -/
theorem closes_of_madeFrom {op : Comparator} {column name : String}
    (h : MadeFrom ("select" ++ (op.suffix ++ column)) name) (hname : Closes name) :
    Closes column := by
  have hsuffix : Separates op.suffix := by cases op <;> exact separates_lit rfl
  have hbase : Closes ("select" ++ (op.suffix ++ column)) := by
    rcases h with rfl | ⟨n, rfl⟩
    · exact hname
    · rw [closes_between (separates_lit rfl)] at hname
      exact hname.resolve_right (not_closes_of_isPlain (isPlain_toString n))
  rwa [closes_after (separates_lit rfl), closes_after hsuffix] at hbase

/-- The last operator is named after a column only if it filters. -/
theorem Stages.closes_root (st : Stages q p) (h : Closes p.root) :
    ∃ f ∈ p.access.filters, Closes (storedName p f.column) := by
  have hfixed : ¬ Closes "scanOp" ∧ ¬ Closes "aggOp" ∧ ¬ Closes "havingOp" := by decide +kernel
  have htop : st.assembly.stored = st.stored ∧ (Closes st.assembly.top →
      ∃ f ∈ p.access.filters, ∃ c, st.stored.column? f.column = some c ∧ Closes c.name) := by
    refine operators_keep (I := fun b => b.stored = st.stored ∧ (Closes b.top →
      ∃ f ∈ p.access.filters, ∃ c, st.stored.column? f.column = some c ∧ Closes c.name))
      st.operators_eq ?_ ?_ ?_ ?_
    · intro b hb
      obtain ⟨keyType, dataType, -, -, -, -, rfl⟩ := Assembly.scan_eq_ok hb
      exact ⟨rfl, fun hscan => absurd hscan hfixed.1⟩
    · intro b b' f hmem hf hb
      obtain ⟨c, hc, rfl⟩ := Assembly.selection_eq_ok hf
      refine ⟨hb.1, fun hname => ⟨f, hmem, c, hb.1 ▸ hc, ?_⟩⟩
      exact closes_of_madeFrom (Text.madeFrom_fresh _ _) hname
    · intro b g _ hb
      exact ⟨hb.1, fun hgroups => absurd hgroups hfixed.2.1⟩
    · intro b hf _ hb
      exact ⟨hb.1, fun hhaving => absurd hhaving hfixed.2.2⟩
  obtain ⟨f, hf, c, hc, hcloses⟩ := htop.2 (st.root_eq ▸ h)
  obtain ⟨c', hc', hname⟩ := st.name_of_column? hc
  exact ⟨f, hf, (st.closes_storedName f.column).2 ⟨c', hc', hname ▸ hcloses⟩⟩

theorem Stages.not_closes_routine (st : Stages q p) : ∀ name ∈ p.routines.names, ¬ Closes name := by
  intro name hname
  obtain ⟨r, hr, rfl⟩ := List.mem_map.1 hname
  cases r with
  | math f => cases f <;> exact not_closes_of_isPlain rfl
  | groupTest test =>
      show ¬ Closes groupTestName
      exact not_closes_of_isPlain rfl
  | groupValue name e source offset type =>
      obtain ⟨g, x, hg, hx, hcompute, -⟩ := st.groupValue_mem.1 hr
      obtain ⟨k, hk⟩ := List.getElem?_of_mem hx
      obtain ⟨rfl, -⟩ := st.compute_eq hg hk hcompute
      refine not_closes_of_isPlain ?_
      show isPlain (computeName k) = true
      unfold computeName
      rw [isPlain_append, isPlain_toString]
      rfl

theorem not_closes_of_identified {ps : List Projection} (hps : Identified ps) :
    ∀ name ∈ "having" :: ps.map Projection.name, ¬ Closes name := by
  refine List.forall_mem_cons.2 ⟨not_closes_of_isPlain rfl, ?_⟩
  rw [List.forall_mem_map]
  intro x hx
  exact not_closes_of_isPlain
    (List.all_eq_true.2 (Listing.isIdentifierChar_of_isIdentifier (hps x hx)))

variable (hq : Identified q.projections)

include hq

theorem Stages.not_closes_output (st : Stages q p) :
    ∀ c ∈ p.output, ¬ Closes (c.name ++ " " ++ c.type.name) := by
  intro c hc
  have htype : ¬ Closes c.type.name := by
    cases c.type <;> exact not_closes_of_isPlain rfl
  have hname := not_closes_of_identified hq _ (List.mem_cons_of_mem _ (st.name_mem c hc))
  rw [closes_between (separates_lit rfl)]
  simp [hname, htype]

theorem Stages.closes_value (st : Stages q p) {g : Grouping} (hg : p.grouping = some g)
    {d : Descriptor} (hd : d ∈ g.descriptors) :
    Closes (valueText p d) ↔ ∃ n, d.shown? = some n ∧ Closes (storedName p n) := by
  obtain ⟨gs⟩ := stages_of_grouping (st.grouping_gathers_some hg).1
  have hname := not_closes_of_identified hq _ (gs.name_mem d hd)
  rw [closes_valueText, sourceName_eq]
  cases d.shown? with
  | none =>
      have hstar : ¬ Closes "*" := by decide
      simp [hname, hstar]
  | some n => simp [hname]

theorem Stages.not_closes_having (st : Stages q p) {g : Grouping} (hg : p.grouping = some g)
    {hf : HavingFilter} (hh : p.having = some hf) : ¬ Closes (havingText hf g) := by
  obtain ⟨gs⟩ := stages_of_grouping (st.grouping_gathers_some hg).1
  have hliteral : ¬ Closes hf.literal.shown := by
    rcases (st.storable_having hh).cases with ⟨v, hv⟩ | ⟨d, hd, -⟩
    · rw [hv]
      exact not_closes_int v
    · rw [hd]
      exact not_closes_of_numeral (Listing.numeral_decimal d)
  rw [havingText, closes_comparisonText, not_or]
  refine ⟨?_, hliteral⟩
  split
  · next c hc =>
      have hmem : c ∈ g.descriptors.map Descriptor.output := by
        rw [gs.descriptors_eq, ← gs.inStep_final.2.2.schema_eq, ← gs.schema_eq]
        exact List.mem_of_getElem? hc
      obtain ⟨x, hx, rfl⟩ := List.mem_map.1 hmem
      exact not_closes_of_identified hq _ (gs.name_mem x hx)
  · exact not_closes_column _

theorem Stages.not_closes_groups (st : Stages q p) :
    (∀ x ∈ ((summary p).group.map (· :: (summary p).aggregates)).getD [], ¬ Closes x) ↔
      ∀ n ∈ (p.grouping.map fun g => g.descriptors.filterMap Descriptor.shown?).getD [],
        ¬ Closes (storedName p n) := by
  unfold summary
  cases hg : p.grouping with
  | none => simp
  | some g =>
      simp only [Option.map_some, Option.getD_some, List.forall_mem_cons, List.forall_mem_map,
        not_closes_groupText, not_false_eq_true, true_and, List.mem_filterMap]
      constructor
      · rintro h n ⟨d, hd, hn⟩ hcloses
        exact h d hd ((st.closes_value hq hg hd).2 ⟨n, hn, hcloses⟩)
      · intro h d hd hcloses
        obtain ⟨n, hn, hname⟩ := (st.closes_value hq hg hd).1 hcloses
        exact h n ⟨d, hd, hn⟩ hname

/-- **The explanation of a program contains no end of a comment exactly if no name that it shows
does.** -/
theorem Stages.not_closes_explanation (st : Stages q p) :
    ¬ Closes (Explanation.ofProgram p).text ↔
      ¬ Closes st.table.name ∧ ∀ n ∈ p.shownColumns, ¬ Closes (storedName p n) := by
  have hbounds : ∀ (column : Option Nat) (b : Bound),
      (∀ x ∈ (column.map fun n => boundText (storedName p n) b).toList, ¬ Closes x) ↔
        ∀ n ∈ column.toList, ¬ Closes (storedName p n) := by
    intro column b
    cases column with
    | none => simp
    | some n => simp [closes_boundText]
  have hhaving : ∀ x ∈ (summary p).having.toList, ¬ Closes x := by
    intro x hx
    unfold summary at hx
    dsimp only at hx
    split at hx
    · next hf g hh hg =>
        obtain rfl := List.mem_singleton.1 hx
        exact st.not_closes_having hq hg hh
    · cases hx
  have houtput : ∀ x ∈ (summary p).output, ¬ Closes x :=
    List.forall_mem_map.2 (st.not_closes_output hq)
  have hroot : (∀ n ∈ p.access.filters.map Filter.column, ¬ Closes (storedName p n)) →
      ¬ Closes p.root := by
    intro hcolumns hroot
    obtain ⟨f, hf, hcloses⟩ := st.closes_root hroot
    exact hcolumns f.column (List.mem_map_of_mem hf) hcloses
  have hfilters : (∀ x ∈ (summary p).filters, ¬ Closes x) ↔
      ∀ n ∈ p.access.filters.map Filter.column, ¬ Closes (storedName p n) := by
    simp only [summary, List.forall_mem_map, closes_comparisonText, not_closes_int, or_false]
  rw [Explanation.ofProgram, Explanation.not_closes_text, Summary.parts, Program.shownColumns,
    ← st.table_eq]
  simp only [List.forall_mem_cons, List.forall_mem_append, and_assoc]
  constructor
  · rintro ⟨htable, hkey, hdata, hfilter, hgroup, -⟩
    exact ⟨htable, (hbounds _ _).1 hkey, (hbounds _ _).1 hdata, hfilters.1 hfilter,
      (st.not_closes_groups hq).1 hgroup⟩
  · rintro ⟨htable, hkey, hdata, hfilter, hgroup⟩
    exact ⟨htable, (hbounds _ _).2 hkey, (hbounds _ _).2 hdata, hfilters.2 hfilter,
      (st.not_closes_groups hq).2 hgroup, hhaving, houtput, st.not_closes_routine,
      hroot hfilter, List.forall_mem_nil _⟩

end

end Plan

/-! ### Statements -/

section

variable {catalog : Catalog.Store} {sql : String}

theorem compileStatement_unexplained :
    (compileStatement catalog sql false).run.value = (compile catalog sql).run.value := by
  cases h : (compile catalog sql).run.value with
  | ok listing => exact value_bind_of_ok h
  | error f => exact value_bind_of_error h

/-- An explained statement is its listing, after the explanation of its program. -/
theorem compileStatement_explained {out : String} :
    (compileStatement catalog sql true).run.value = .ok out ↔
      ∃ p listing, (planText catalog sql).run.value = .ok p ∧
        (compileStatement catalog sql false).run.value = .ok listing ∧
        out = "/*\n" ++ (Explanation.ofProgram p).text ++ "*/\n" ++ listing := by
  rw [compileStatement_unexplained]
  constructor
  · intro h
    obtain ⟨listing, hlisting, h⟩ := value_bind_eq_ok.1 h
    obtain ⟨p, hp, h⟩ := value_bind_eq_ok.1 h
    cases h
    exact ⟨p, listing, hp, hlisting, rfl⟩
  · rintro ⟨p, listing, hp, hlisting, rfl⟩
    exact value_bind_eq_ok.2 ⟨listing, hlisting, value_bind_eq_ok.2 ⟨p, hp, rfl⟩⟩

theorem exists_compileStatement {q : Resolved} {p : Plan.Program}
    (hq : Query.ofText catalog sql = .ok q) (hne : q.projections ≠ [])
    (hp : (Plan.ofQuery q).run.value = .ok p) :
    ∃ listing, (compileStatement catalog sql false).run.value = .ok listing := by
  obtain ⟨listing, hlisting⟩ := Plan.listed_of_ofQuery hne hp
  refine ⟨listing, ?_⟩
  rw [compileStatement_unexplained, compile_value, compileText, hq]
  show (compileQuery q).run.value = .ok listing
  exact value_bind_eq_ok.2 ⟨p, hp, hlisting⟩

end

/-- A key whose name ends a comment. -/
def starredDefinition : String :=
  "CREATE TABLE shed (\"k*/\" INT PRIMARY KEY, wind INT)"

/-- The table that the definition describes. -/
def starredShed : Catalog.Table where
  name := "shed"
  columns := [⟨"k*/", .int32⟩, ⟨"wind", .int32⟩]
  primaryKey := some 0

/-- A bound on this key. -/
def starredText : String :=
  "SELECT wind FROM shed WHERE \"k*/\" >= 5"

/-- The query that the text stands for. -/
def starred : Resolved :=
  { Resolved.ofTable starredShed with
    predicates := [⟨0, .ge, .integer 5⟩]
    projections := [{ name := "wind", kind := .column 1 }] }

theorem ofText_starredText :
    Query.ofText (Catalog.Store.empty.put starredShed) starredText = .ok starred := by
  decide +kernel

theorem access_starred : Plan.Access.ofQuery starred
    = Plan.Access.ofFilters starred.hints [⟨0, .ge, 5⟩] := rfl

end SqlPipeline
