/-
**The statements of a generated program that manage memory.**

The procedure that constructs the operators hands out a table of the variables that are to be freed,
and the procedure that runs them frees its entries in a loop.  The variables of the values of a
group are copied into an array and freed at once.  The size of the table stands in three places of
the text.  Here the statements that have to do with this are picked out of the text by their
beginnings, and it is shown which they are; all other statements begin otherwise, whatever the names
in the query are.

Main definitions:

* `Listing.managesMemory` — whether a statement fills or frees such variables;
* `Listing.Manages` — which statements of some lines do;
* `Listing.FreesAll` — the statements of a text free the variables of a program.

Main results:

* `Listing.Manages.sound` — `Manages` is about the statements of the text;
* `Listing.manages_stepLines` — what the lines of a step copy and free;
* `Listing.manages_construction`, `Listing.manages_driver` — **what the two procedures copy, hand
  out and free**.
-/

import SqlPipeline.Proofs.RoutineNeeds
import SqlPipeline.Proofs.Statements

set_option autoImplicit false

namespace SqlPipeline

open Journal Layout Query Outcome

namespace Listing

open Plan

/-! ### Statements that manage memory -/

/-- The beginnings of statements that free a variable, run a loop, make the table of variables, set
an entry of it, or set an element of the array of values. -/
def openings : List String :=
  ["free(", "for (", "*allocatedValues = ", "((void**)*allocatedValues)[", "aggFuncs["]

/-- Whether a statement manages memory: it has one of these beginnings. -/
def managesMemory (s : String) : Bool :=
  openings.any fun o => o.toList.isPrefixOf s.toList

/-- The statements that copy what variables hold into an array. -/
def copies (vs : List String) : List String :=
  vs.zipIdx.map fun (v, i) => "aggFuncs[" ++ toString i ++ "] = *" ++ v ++ ";"

/-- The statements that free variables. -/
def frees (vs : List String) : List String :=
  vs.map fun v => "free(" ++ v ++ ");"

/-- The statement that makes the table of variables. -/
def tableStatement (vs : List String) : String :=
  "*allocatedValues = (void**)malloc(" ++ toString vs.length ++ " * sizeof(void*));"

/-- The statements that set the entries of the table. -/
def entries (vs : List String) : List String :=
  vs.zipIdx.map fun (v, i) => "((void**)*allocatedValues)[" ++ toString i ++ "] = " ++ v ++ ";"

/-- The statements that free as many entries of the table as there are variables, and the table. -/
def teardown (vs : List String) : List String :=
  ["for (int i = 0; i < " ++ toString vs.length ++ "; i++) \x7b", "free(allocatedValues[i]);",
   "free(allocatedValues);"]

/-- The variables of a program are freed, once each.  The statements of the text that manage memory
are, in order: in the procedure that constructs the operators, the values of a group are copied,
their variables are freed, the table is made, and each of its entries is set; in the procedure that
runs the operators, a loop over the entries frees them, and the table is freed. -/
def FreesAll (p : Program) (t : String) : Prop :=
  ∃ routines create exec, statements t = routines ++ create ++ exec ∧
    routines.filter managesMemory = [] ∧
    create.head? = some
      "embedDBOperator* createOperator(embedDBState* state, void*** allocatedValues) \x7b" ∧
    create.filter managesMemory = copies p.transient ++ frees p.transient
      ++ tableStatement p.allocations :: entries p.allocations ∧
    exec.head? = some "void execOperator(embedDBState* state) \x7b" ∧
    exec.filter managesMemory = teardown p.allocations

/-! ### Beginnings -/

/-- The beginnings, character by character. -/
def openingChars : List (List Char) :=
  [['f', 'r', 'e', 'e', '('], ['f', 'o', 'r', ' ', '('],
   ['*', 'a', 'l', 'l', 'o', 'c', 'a', 't', 'e', 'd', 'V', 'a', 'l', 'u', 'e', 's', ' ', '=', ' '],
   ['(', '(', 'v', 'o', 'i', 'd', '*', '*', ')', '*', 'a', 'l', 'l', 'o', 'c', 'a', 't', 'e', 'd',
    'V', 'a', 'l', 'u', 'e', 's', ')', '['],
   ['a', 'g', 'g', 'F', 'u', 'n', 'c', 's', '[']]

theorem managesMemory_eq (s : String) :
    managesMemory s = openingChars.any fun o => o.isPrefixOf s.toList := by
  have hchars : openings.map String.toList = openingChars := by simp [openings, openingChars]
  rw [← hchars, List.any_map]
  rfl

/-- Characters that differ from each beginning at some place, and from a blank at the first. -/
def apart (cs : List Char) : Bool :=
  cs.head? != some ' ' && openingChars.all fun o => !o.isPrefixOf cs && !cs.isPrefixOf o

/-- A text that stays on its line and has none of the beginnings, whatever comes after it. -/
structure Ordinary (s : String) : Prop where
  oneLine : OneLine s
  apart : apart s.toList = true

/-- A text that stays on its line and has one of the beginnings. -/
structure Managing (s : String) : Prop where
  oneLine : OneLine s
  opens : (openingChars.any fun o => o.isPrefixOf s.toList) = true

theorem ordinary_lit {cs : List Char} (hline : cs.contains '\n' = false) (h : apart cs = true) :
    Ordinary (String.ofList cs) :=
  ⟨oneLine_lit hline, by rwa [String.toList_ofList]⟩

theorem managing_lit {cs : List Char} (hline : cs.contains '\n' = false)
    (h : (openingChars.any fun o => o.isPrefixOf cs) = true) : Managing (String.ofList cs) :=
  ⟨oneLine_lit hline, by rwa [String.toList_ofList]⟩

theorem Managing.append {a b : String} (ha : Managing a) (hb : OneLine b) : Managing (a ++ b) := by
  refine ⟨ha.oneLine.append hb, ?_⟩
  obtain ⟨o, ho, hpre⟩ := List.any_eq_true.1 ha.opens
  refine List.any_eq_true.2 ⟨o, ho, ?_⟩
  rw [List.isPrefixOf_iff_prefix] at hpre ⊢
  rw [String.toList_append]
  exact hpre.trans (List.prefix_append _ _)

/-- Two beginnings that differ at some place still differ with more after them. -/
theorem apart_append {a : List Char} (h : apart a = true) (b : List Char) :
    apart (a ++ b) = true := by
  obtain ⟨hblank, hall⟩ := Bool.and_eq_true_iff.1 h
  rw [List.all_eq_true] at hall
  refine Bool.and_eq_true_iff.2 ⟨?_, List.all_eq_true.2 fun o ho => ?_⟩
  · cases a with
    | nil => exact absurd h (by decide)
    | cons c a => exact hblank
  · have ho := hall o ho
    simp only [Bool.and_eq_true, Bool.not_eq_true', ← Bool.not_eq_true, List.isPrefixOf_iff_prefix]
      at ho ⊢
    refine ⟨fun hpre => ?_, fun hpre => ho.2 ((List.prefix_append a b).trans hpre)⟩
    rcases List.prefix_or_prefix_of_prefix hpre (List.prefix_append a b) with h | h
    · exact ho.1 h
    · exact ho.2 h

theorem Ordinary.append {a b : String} (ha : Ordinary a) (hb : OneLine b) : Ordinary (a ++ b) :=
  ⟨ha.oneLine.append hb, by rw [String.toList_append]; exact apart_append ha.apart _⟩

theorem Ordinary.managesMemory_eq_false {s : String} (h : Ordinary s) :
    unindented s.toList = s ∧ managesMemory s = false := by
  obtain ⟨hblank, hall⟩ := Bool.and_eq_true_iff.1 h.apart
  refine ⟨?_, ?_⟩
  · rw [unindented]
    cases hs : s.toList with
    | nil => rw [← String.ofList_toList (s := s), hs]; rfl
    | cons c cs =>
        rw [hs] at hblank
        rw [List.dropWhile_cons_of_neg (by simpa using hblank), ← hs, String.ofList_toList]
  · rw [managesMemory_eq, List.any_eq_false]
    intro o ho
    have := List.all_eq_true.1 hall o ho
    simp only [Bool.and_eq_true, Bool.not_eq_true'] at this
    simp [this.1]

theorem Managing.managesMemory_eq_true {s : String} (h : Managing s) :
    unindented s.toList = s ∧ managesMemory s = true := by
  refine ⟨?_, by rw [managesMemory_eq]; exact h.opens⟩
  obtain ⟨o, ho, hpre⟩ := List.any_eq_true.1 h.opens
  rw [List.isPrefixOf_iff_prefix] at hpre
  obtain ⟨rest, hrest⟩ := hpre
  rw [unindented, ← hrest]
  have hblank : (o ++ rest).dropWhile (· == ' ') = o ++ rest := by
    simp only [openingChars, List.mem_cons, List.not_mem_nil, or_false] at ho
    rcases ho with rfl | rfl | rfl | rfl | rfl <;> rfl
  rw [hblank, hrest, String.ofList_toList]

/-! ### Lines -/

/-- A line that does not manage memory. -/
def Line.Ordinary : Line → Prop
  | .blank => True
  | .code _ t => Listing.Ordinary t

/-- The lines stay on their lines, and those that manage memory have the given texts, in order. -/
inductive Manages : List Line → List String → Prop where
  | nil : Manages [] []
  | ordinary {l : Line} {ls : List Line} {ms : List String} (hl : l.Ordinary)
      (h : Manages ls ms) : Manages (l :: ls) ms
  | managing {depth : Nat} {s : String} {ls : List Line} {ms : List String} (hs : Managing s)
      (h : Manages ls ms) : Manages (.code depth s :: ls) (s :: ms)

namespace Manages

variable {ls ls' : List Line} {ms ms' : List String}

/-- `Manages` is about the statements of the text. -/
theorem sound (h : Manages ls ms) :
    (∀ l ∈ ls, l.OneLine) ∧ (ls.map Line.statement).filter managesMemory = ms := by
  induction h with
  | nil => exact ⟨nofun, rfl⟩
  | @ordinary l ls ms hl h ih =>
      obtain ⟨hline, hfilter⟩ := ih
      cases l with
      | blank => exact ⟨List.forall_mem_cons.2 ⟨trivial, hline⟩, hfilter⟩
      | code depth t =>
          obtain ⟨hsame, hno⟩ := hl.managesMemory_eq_false
          refine ⟨List.forall_mem_cons.2 ⟨hl.oneLine, hline⟩, ?_⟩
          rw [List.map_cons, Line.statement, hsame, List.filter_cons_of_neg (by simp [hno]),
            hfilter]
  | @managing depth s ls ms hs h ih =>
      obtain ⟨hline, hfilter⟩ := ih
      obtain ⟨hsame, hyes⟩ := hs.managesMemory_eq_true
      refine ⟨List.forall_mem_cons.2 ⟨hs.oneLine, hline⟩, ?_⟩
      rw [List.map_cons, Line.statement, hsame, List.filter_cons_of_pos hyes, hfilter]

theorem append (h : Manages ls ms) (h' : Manages ls' ms') : Manages (ls ++ ls') (ms ++ ms') := by
  induction h with
  | nil => exact h'
  | ordinary hl _ ih => exact .ordinary hl ih
  | managing hs _ ih => exact .managing hs ih

theorem of_ordinary (h : ∀ l ∈ ls, l.Ordinary) : Manages ls [] := by
  induction ls with
  | nil => exact .nil
  | cons l ls ih =>
      obtain ⟨hl, hls⟩ := List.forall_mem_cons.1 h
      exact .ordinary hl (ih hls)

theorem of_managing {ss : List String} (h : ∀ s ∈ ss, Managing s) : Manages (ss.map line) ss := by
  induction ss with
  | nil => exact .nil
  | cons s ss ih =>
      obtain ⟨hs, hss⟩ := List.forall_mem_cons.1 h
      exact .managing hs (ih hss)

theorem flatMap {α : Type} {xs : List α} {f : α → List Line} (h : ∀ x ∈ xs, Manages (f x) []) :
    Manages (xs.flatMap f) [] := by
  induction xs with
  | nil => exact .nil
  | cons x xs ih =>
      obtain ⟨hx, hxs⟩ := List.forall_mem_cons.1 h
      exact hx.append (ih hxs)

theorem indented (h : Manages ls ms) : Manages (ls.map Line.indented) ms := by
  induction h with
  | nil => exact .nil
  | @ordinary l ls ms hl _ ih =>
      refine .ordinary ?_ ih
      cases l with
      | blank => trivial
      | code depth t => exact hl
  | managing hs _ ih => exact .managing hs ih

theorem close (h : Manages ls ms) : Manages (ls.map Line.indented ++ [line "\x7d"]) ms := by
  have hend : Manages [line "\x7d"] [] := .ordinary (ordinary_lit rfl rfl) .nil
  simpa using h.indented.append hend

/-- A block does what its body does, if its head does nothing. -/
theorem block {head : String} (hhead : Ordinary head) (h : Manages ls ms) :
    Manages (block head ls) ms :=
  .ordinary (hhead.append (oneLine_lit rfl)) h.close

end Manages

/-- A block begins with its head. -/
theorem head?_statements_block {head : String} (hhead : Ordinary head) (body : List Line) :
    ((block head body).map Line.statement).head? = some (head ++ " \x7b") := by
  rw [statements_block]
  exact congrArg some (hhead.append (oneLine_lit rfl)).managesMemory_eq_false.1

/-! ### Routines -/

theorem ordinary_name (t : Storage) : Ordinary t.name := by
  cases t <;> exact ordinary_lit rfl rfl

theorem ordinary_fieldOf {name record : String} (hname : OneLine name) (hrecord : OneLine record)
    (t : Storage) (offset : Nat) : (fieldOf name record t offset).Ordinary :=
  (ordinary_name t).append (oneLine_lit rfl) |>.append hname |>.append (oneLine_lit rfl)
    |>.append (oneLine_name t) |>.append (oneLine_lit rfl) |>.append hrecord
    |>.append (oneLine_lit rfl) |>.append (oneLine_nat offset) |>.append (oneLine_lit rfl)

theorem manages_mathRoutine (f : MathFunction) : Manages (mathRoutine f) [] := by
  cases f with
  | floor =>
      exact .block (ordinary_lit rfl rfl) (.ordinary (ordinary_lit rfl rfl)
        (.ordinary (ordinary_lit rfl rfl) .nil))
  | ceil =>
      exact .block (ordinary_lit rfl rfl) (.ordinary (ordinary_lit rfl rfl)
        (.ordinary (ordinary_lit rfl rfl) .nil))
  | round =>
      exact .block (ordinary_lit rfl rfl) (.ordinary (ordinary_lit rfl rfl)
        (.ordinary (ordinary_lit rfl rfl) (.ordinary (ordinary_lit rfl rfl) .nil)))
  | abs =>
      exact .block (ordinary_lit rfl rfl) (.ordinary (ordinary_lit rfl rfl) .nil)

theorem manages_groupTestBody (test : GroupTest) : Manages (groupTestBody test) [] := by
  cases test with
  | always => exact .ordinary (ordinary_lit rfl rfl) .nil
  | expression e type offset =>
      refine .ordinary (ordinary_fieldOf (oneLine_lit rfl) (oneLine_lit rfl) type offset) <|
        .ordinary (ordinary_fieldOf (oneLine_lit rfl) (oneLine_lit rfl) type offset) <|
        .ordinary ?_ .nil
      exact (ordinary_lit rfl rfl).append (oneLine_textWith (oneLine_lit rfl) e)
        |>.append (oneLine_lit rfl) |>.append (oneLine_textWith (oneLine_lit rfl) e)
        |>.append (oneLine_lit rfl)

theorem oneLine_computeName (index : Nat) : OneLine (computeName index) :=
  (oneLine_lit rfl).append (oneLine_nat index)

theorem manages_routineLines {r : Routine} (h : r.Regular) : Manages (routineLines r) [] := by
  cases r with
  | math f => exact manages_mathRoutine f
  | groupTest test => exact .block (ordinary_lit rfl rfl) (manages_groupTestBody test)
  | groupValue name e source offset output =>
      obtain ⟨index, rfl⟩ := h
      refine .block ?_ ?_
      · exact (ordinary_lit rfl rfl).append (oneLine_computeName index)
          |>.append (oneLine_lit rfl) |>.append (oneLine_lit rfl)
      · refine .ordinary (ordinary_fieldOf (oneLine_lit rfl) (oneLine_lit rfl) source offset) <|
          .ordinary ?_ <| .ordinary ?_ .nil
        · exact (ordinary_name output).append (oneLine_lit rfl)
            |>.append (oneLine_textWith (oneLine_lit rfl) e) |>.append (oneLine_lit rfl)
        · exact (ordinary_lit rfl rfl).append (oneLine_lit rfl)
            |>.append (oneLine_name output) |>.append (oneLine_lit rfl)

/-- Routines manage no memory. -/
theorem manages_routinesLines {rs : Routines} (h : ∀ r ∈ rs.list, r.Regular) :
    Manages (routinesLines rs) [] :=
  .flatMap fun r hr => (manages_routineLines (h r hr)).append (.ordinary trivial .nil)

/-! ### The procedure that runs the operators -/

theorem oneLine_valueText {c : OutputColumn} (h : OneLine c.name) : OneLine c.valueText := by
  have hread : OneLine ("*" ++ c.name) := (oneLine_lit rfl).append h
  unfold OutputColumn.valueText
  split
  · exact (oneLine_lit rfl).append (oneLine_name _) |>.append (oneLine_lit rfl)
      |>.append (oneLine_textWith hread _) |>.append (oneLine_lit rfl)
  · exact hread

theorem oneLine_conversion (t : Storage) : OneLine t.conversion := by
  unfold Storage.conversion
  split <;> exact oneLine_lit rfl

theorem ordinary_printLine {output : List OutputColumn} (h : ∀ c ∈ output, OneLine c.name) :
    (printLine output).Ordinary := by
  refine (ordinary_lit rfl rfl).append (oneLine_intercalate (oneLine_lit rfl) ?_)
    |>.append (oneLine_lit rfl) |>.append (oneLine_intercalate (oneLine_lit rfl) ?_)
    |>.append (oneLine_lit rfl)
  · rw [List.forall_mem_map]
    exact fun c _ => oneLine_conversion c.type
  · rw [List.forall_mem_map]
    exact fun c hc => oneLine_valueText (h c hc)

theorem ordinary_pointerLine? {output : List OutputColumn} (h : ∀ c ∈ output, OneLine c.name) :
    ∀ l ∈ output.filterMap pointerLine?, l.Ordinary := by
  intro l hl
  obtain ⟨c, hc, hl⟩ := List.mem_filterMap.1 hl
  obtain ⟨⟨type, offset⟩, -, rfl⟩ := Option.map_eq_some_iff.1 hl
  exact (ordinary_name type).append (oneLine_lit rfl) |>.append (h c hc)
    |>.append (oneLine_lit rfl) |>.append (oneLine_name type) |>.append (oneLine_lit rfl)
    |>.append (oneLine_nat offset) |>.append (oneLine_lit rfl)

/-- The procedure that runs the operators frees the entries of the table in a loop, and the
table. -/
theorem manages_driver {p : Program} (h : ∀ c ∈ p.output, OneLine c.name) :
    Manages (driver p) (teardown p.allocations) := by
  have hhead : Manages [line "void** allocatedValues;",
      line "embedDBOperator* op = createOperator(state, &allocatedValues);",
      line "void* recordBuffer = op->recordBuffer;"] [] :=
    .ordinary (ordinary_lit rfl rfl) <| .ordinary (ordinary_lit rfl rfl) <|
      .ordinary (ordinary_lit rfl rfl) .nil
  have hcomment : Manages [.blank, line "// Print as csv"] [] :=
    .ordinary trivial <| .ordinary (ordinary_lit rfl rfl) .nil
  have hprint : Manages (block "while (exec(op))" [printLine p.output]) [] :=
    .block (ordinary_lit rfl rfl) (.ordinary (ordinary_printLine h) .nil)
  have hclose : Manages [line "printf(\"\\n\");", .blank, line "op->close(op);",
      line "embedDBFreeOperatorRecursive(&op);", line "recordBuffer = NULL;"] [] :=
    .ordinary (ordinary_lit rfl rfl) <| .ordinary trivial <| .ordinary (ordinary_lit rfl rfl) <|
      .ordinary (ordinary_lit rfl rfl) <| .ordinary (ordinary_lit rfl rfl) .nil
  have hloop : Manages (block ("for (int i = 0; i < " ++ toString p.allocations.length ++ "; i++)")
      [line "free(allocatedValues[i]);"])
      ["for (int i = 0; i < " ++ toString p.allocations.length ++ "; i++) \x7b",
       "free(allocatedValues[i]);"] := by
    have hend : "; i++)" ++ " \x7b" = "; i++) \x7b" := append_lit rfl
    have hbody : Manages [line "free(allocatedValues[i]);"] ["free(allocatedValues[i]);"] :=
      .managing (managing_lit rfl rfl) .nil
    rw [block, String.append_assoc, hend]
    exact .managing ((managing_lit rfl rfl).append (oneLine_nat _) |>.append (oneLine_lit rfl))
      hbody.close
  have hlast : Manages [line "free(allocatedValues);"] ["free(allocatedValues);"] :=
    .managing (managing_lit rfl rfl) .nil
  exact .block (ordinary_lit rfl rfl) <| hhead.append (.of_ordinary (ordinary_pointerLine? h))
    |>.append hcomment |>.append hprint |>.append hclose |>.append hloop |>.append hlast

end Listing

/-! ### The procedure that constructs the operators -/

/-- A value of a group whose names stay on their lines. -/
def Plan.Descriptor.Lined (x : Descriptor) : Prop :=
  Listing.Ordinary x.holder ∧ ∀ f ∈ x.compute, Listing.OneLine f

/-- A step whose names stay on their lines.  The variable of a literal must not look like the table
of variables. -/
def Plan.Step.Lined : Step → Prop
  | .literal name _ _ => Listing.OneLine name ∧ ∃ c ≠ 'a', name.toList.head? = some c
  | .iterator minKey maxKey minData maxData =>
    ∀ bound ∈ [minKey, maxKey, minData, maxData], ∀ name ∈ bound, Listing.OneLine name
  | .scan _ name => Listing.OneLine name
  | .selection name input _ _ value =>
    Listing.OneLine name ∧ Listing.OneLine input ∧ Listing.OneLine value
  | .aggregate input descriptors packed name =>
    Listing.OneLine input ∧ Listing.OneLine name ∧ packed = "aggFuncs" ∧
      ∀ x ∈ descriptors, x.Lined
  | .having name input _ _ value =>
    Listing.OneLine name ∧ Listing.OneLine input ∧ Listing.OneLine value

namespace Listing

open Plan

theorem ordinary_star {name : String} (hline : OneLine name) {c : Char} (hc : c ≠ 'a')
    (hhead : name.toList.head? = some c) : Ordinary ("*" ++ name) := by
  refine ⟨(oneLine_lit rfl).append hline, ?_⟩
  obtain ⟨cs, hcs⟩ := List.head?_eq_some_iff.1 hhead
  rw [String.toList_append, hcs]
  have hstar : "*".toList = ['*'] := by simp
  simp [hstar, apart, openingChars, List.isPrefixOf, hc.symm, hc]

theorem oneLine_storedText {storage : Storage} {value : Literal} {s : String}
    (h : storedText storage value = .ok s) : OneLine s := by
  unfold storedText at h
  split at h
  · cases h
    exact oneLine_int _
  · split at h
    · cases h
      exact oneLine_decimal _
    · cases h
  · cases h

theorem manages_literalLines {name : String} {storage : Storage} {value : Literal}
    {ls : List Line} (h : literalLines name storage value = .ok ls) (hline : OneLine name)
    {c : Char} (hc : c ≠ 'a') (hhead : name.toList.head? = some c) : Manages ls [] := by
  unfold literalLines at h
  simp only [bind_eq_ok, pure_eq_ok] at h
  obtain ⟨stored, hstored, rfl⟩ := h
  refine .ordinary ?_ <| .ordinary ?_ .nil
  · exact (ordinary_name storage).append (oneLine_lit rfl) |>.append hline
      |>.append (oneLine_lit rfl) |>.append (oneLine_name storage) |>.append (oneLine_lit rfl)
      |>.append (oneLine_name storage) |>.append (oneLine_lit rfl)
  · exact (ordinary_star hline hc hhead).append (oneLine_lit rfl)
      |>.append (oneLine_storedText hstored) |>.append (oneLine_lit rfl)

theorem ordinary_boundLine {field : String} {bound : Option String} (hfield : OneLine field)
    (hbound : ∀ name ∈ bound, OneLine name) : (boundLine field bound).Ordinary := by
  have hname : OneLine (bound.getD "NULL") := by
    cases bound with
    | none => exact oneLine_lit rfl
    | some name => exact hbound name rfl
  exact (ordinary_lit rfl rfl).append hfield |>.append (oneLine_lit rfl) |>.append hname
    |>.append (oneLine_lit rfl)

theorem manages_iteratorLines {minKey maxKey minData maxData : Option String}
    (h : ∀ bound ∈ [minKey, maxKey, minData, maxData], ∀ name ∈ bound, OneLine name) :
    Manages (iteratorLines minKey maxKey minData maxData) [] := by
  simp only [List.forall_mem_cons] at h
  obtain ⟨h₁, h₂, h₃, h₄, -⟩ := h
  exact .ordinary (ordinary_lit rfl rfl) <| .ordinary (ordinary_boundLine (oneLine_lit rfl) h₁) <|
    .ordinary (ordinary_boundLine (oneLine_lit rfl) h₂) <|
    .ordinary (ordinary_boundLine (oneLine_lit rfl) h₃) <|
    .ordinary (ordinary_boundLine (oneLine_lit rfl) h₄) <| .ordinary (ordinary_lit rfl rfl) <|
    .ordinary trivial .nil

theorem manages_schemaLines (s : Schema) : Manages (schemaLines s) [] := by
  have hcomma : OneLine ", " := oneLine_lit rfl
  refine .ordinary ?_ <| .ordinary ?_ <| .ordinary ?_ <| .ordinary (ordinary_lit rfl rfl) .nil
  · exact (ordinary_lit rfl rfl).append (oneLine_nat _) |>.append (oneLine_lit rfl)
  · refine (ordinary_lit rfl rfl).append (oneLine_intercalate hcomma ?_)
      |>.append (oneLine_lit rfl)
    rw [List.forall_mem_map]
    exact fun c _ => oneLine_nat c.size
  · refine (ordinary_lit rfl rfl).append (oneLine_intercalate hcomma ?_)
      |>.append (oneLine_lit rfl)
    rw [List.forall_mem_map]
    intro c _
    unfold signText
    split <;> exact oneLine_lit rfl

theorem ordinary_selectionLine {name input value : String}
    (h : OneLine name ∧ OneLine input ∧ OneLine value) (column : Nat) (op : Comparator) :
    (selectionLine name input column op value).Ordinary := by
  have hconstant : OneLine op.constant := (oneLine_lit rfl).append (oneLine_suffix op)
  exact (ordinary_lit rfl rfl).append h.1 |>.append (oneLine_lit rfl) |>.append h.2.1
    |>.append (oneLine_lit rfl) |>.append (oneLine_nat column) |>.append (oneLine_lit rfl)
    |>.append hconstant |>.append (oneLine_lit rfl) |>.append h.2.2 |>.append (oneLine_lit rfl)

theorem oneLine_sourceText {x : Descriptor} {s : String} (h : sourceText x = .ok s) :
    OneLine s := by
  unfold sourceText at h
  split at h
  · cases h
    exact oneLine_nat _
  · cases h

theorem oneLine_signedSize (x : Descriptor) : OneLine (signedSize x) := by
  unfold signedSize
  split
  · exact (oneLine_lit rfl).append (oneLine_nat _)
  · exact oneLine_nat _

theorem manages_descriptorLines {x : Descriptor} {ls : List Line}
    (h : descriptorLines x = .ok ls) (hx : x.Lined) : Manages ls [] := by
  obtain ⟨hholder, hcompute⟩ := hx
  have hhead : Ordinary ("embedDBAggregateFunc* " ++ x.holder ++ " = ") :=
    (ordinary_lit rfl rfl).append hholder.oneLine |>.append (oneLine_lit rfl)
  unfold descriptorLines at h
  cases hkind : x.kind with
  | aggregate f =>
      rw [hkind] at h
      cases f with
      | count =>
          cases h
          exact .ordinary (hhead.append (oneLine_lit rfl)) .nil
      | sum =>
          simp only [bind_eq_ok, pure_eq_ok] at h
          obtain ⟨source, hsource, rfl⟩ := h
          exact .ordinary (hhead.append (oneLine_lit rfl) |>.append (oneLine_sourceText hsource)
            |>.append (oneLine_lit rfl)) .nil
      | avg =>
          simp only [bind_eq_ok, pure_eq_ok] at h
          obtain ⟨source, hsource, rfl⟩ := h
          exact .ordinary (hhead.append (oneLine_lit rfl) |>.append (oneLine_sourceText hsource)
            |>.append (oneLine_lit rfl) |>.append (oneLine_nat _) |>.append (oneLine_lit rfl)) .nil
      | min | max =>
          simp only [bind_eq_ok, pure_eq_ok] at h
          obtain ⟨source, hsource, rfl⟩ := h
          exact .ordinary (hhead.append (oneLine_lit rfl) |>.append (oneLine_sourceText hsource)
            |>.append (oneLine_lit rfl) |>.append (oneLine_signedSize x)
            |>.append (oneLine_lit rfl)) .nil
  | groupValue =>
      rw [hkind] at h
      cases hc : x.compute with
      | none =>
          rw [hc] at h
          cases h
      | some compute =>
          rw [hc] at h
          cases h
          refine .ordinary (hhead.append (oneLine_lit rfl)) <| .ordinary ?_ <| .ordinary ?_ .nil
          · exact hholder.append (oneLine_lit rfl) |>.append (hcompute compute hc)
              |>.append (oneLine_lit rfl)
          · exact hholder.append (oneLine_lit rfl) |>.append (oneLine_nat _)
              |>.append (oneLine_lit rfl)

theorem manages_copies {vs : List String} (h : ∀ v ∈ vs, OneLine v) :
    Manages ((copies vs).map line) (copies vs) := by
  refine .of_managing (List.forall_mem_map.2 fun (v, i) hv => ?_)
  exact (managing_lit rfl rfl).append (oneLine_nat i) |>.append (oneLine_lit rfl)
    |>.append (h v (List.fst_mem_of_mem_zipIdx hv)) |>.append (oneLine_lit rfl)

theorem manages_frees {vs : List String} (h : ∀ v ∈ vs, OneLine v) :
    Manages ((frees vs).map line) (frees vs) := by
  refine .of_managing (List.forall_mem_map.2 fun v hv => ?_)
  exact (managing_lit rfl rfl).append (h v hv) |>.append (oneLine_lit rfl)

theorem manages_entries {vs : List String} (h : ∀ v ∈ vs, OneLine v) :
    Manages ((entries vs).map line) (entries vs) := by
  refine .of_managing (List.forall_mem_map.2 fun (v, i) hv => ?_)
  exact (managing_lit rfl rfl).append (oneLine_nat i) |>.append (oneLine_lit rfl)
    |>.append (h v (List.fst_mem_of_mem_zipIdx hv)) |>.append (oneLine_lit rfl)

theorem manages_aggregateLines {transient : List String} {input packed name : String}
    {ds : List Descriptor} {ls : List Line}
    (h : aggregateLines transient input ds packed name = .ok ls)
    (hst : (Step.aggregate input ds packed name).Lined) (htransient : ∀ v ∈ transient, OneLine v) :
    Manages ls (copies (ds.map Descriptor.holder) ++ frees transient) := by
  obtain ⟨hinput, hname, rfl, hds⟩ := hst
  unfold aggregateLines at h
  simp only [bind_eq_ok, pure_eq_ok, mapM_eq_ok] at h
  obtain ⟨values, hvalues, rfl⟩ := h
  have hflat : Manages values.flatten [] := by
    clear htransient
    induction hvalues with
    | nil => exact .nil
    | cons hx _ ih =>
        obtain ⟨hd, hds⟩ := List.forall_mem_cons.1 hds
        exact (manages_descriptorLines hx hd).append (ih hds)
  have hpack : (line ("embedDBAggregateFunc* " ++ "aggFuncs" ++ " = (embedDBAggregateFunc*)malloc("
      ++ toString ds.length ++ " * sizeof(embedDBAggregateFunc));")).Ordinary :=
    (ordinary_lit rfl rfl).append (oneLine_lit rfl) |>.append (oneLine_lit rfl)
      |>.append (oneLine_nat _) |>.append (oneLine_lit rfl)
  have hcopies : Manages (ds.zipIdx.map fun x =>
      line ("aggFuncs" ++ "[" ++ toString x.2 ++ "] = *" ++ x.1.holder ++ ";"))
      (copies (ds.map Descriptor.holder)) := by
    have hbracket : "aggFuncs" ++ "[" = "aggFuncs[" := append_lit rfl
    simpa [copies, List.zipIdx_map, hbracket, Function.comp_def] using manages_copies
      (List.forall_mem_map.2 fun d hd => (hds d hd).1.oneLine)
  have hlast : (line ("embedDBOperator* " ++ name ++ " = createAggregateOperator(" ++ input
      ++ ", groupFunction, " ++ "aggFuncs" ++ ", " ++ toString ds.length ++ ");")).Ordinary :=
    (ordinary_lit rfl rfl).append hname |>.append (oneLine_lit rfl) |>.append hinput
      |>.append (oneLine_lit rfl) |>.append (oneLine_lit rfl) |>.append (oneLine_lit rfl)
      |>.append (oneLine_nat _) |>.append (oneLine_lit rfl)
  have hfrees := manages_frees htransient
  rw [frees, List.map_map] at hfrees
  have hall := hflat.append (.ordinary hpack .nil) |>.append hcopies |>.append hfrees
    |>.append (.ordinary hlast .nil)
  rwa [List.append_nil] at hall

/-- What a step copies and frees: the values of a group, if it has any. -/
def stepMemory (transient : List String) : Step → List String
  | .aggregate _ descriptors _ _ => copies (descriptors.map Descriptor.holder) ++ frees transient
  | _ => []

theorem manages_stepLines {transient : List String} {st : Step} {ls : List Line}
    (h : stepLines transient st = .ok ls) (hst : st.Lined)
    (htransient : ∀ v ∈ transient, OneLine v) : Manages ls (stepMemory transient st) := by
  cases st with
  | literal name storage value =>
      obtain ⟨hline, c, hc, hhead⟩ := hst
      exact manages_literalLines h hline hc hhead
  | iterator minKey maxKey minData maxData =>
      obtain rfl := pure_eq_ok.1 h
      exact manages_iteratorLines hst
  | scan schema name =>
      obtain rfl := pure_eq_ok.1 h
      refine (manages_schemaLines schema).append (.ordinary ?_ .nil)
      exact (ordinary_lit rfl rfl).append hst |>.append (oneLine_lit rfl)
  | selection name input column op value =>
      obtain rfl := pure_eq_ok.1 h
      exact .ordinary (ordinary_selectionLine hst column op) .nil
  | aggregate input ds packed name => exact manages_aggregateLines h hst htransient
  | having name input column op value =>
      obtain rfl := pure_eq_ok.1 h
      exact .ordinary (ordinary_selectionLine hst column op) .nil

theorem manages_steps {transient : List String} {steps : List Step} {lss : List (List Line)}
    (h : steps.mapM (stepLines transient) = .ok lss) (hsteps : ∀ st ∈ steps, st.Lined)
    (htransient : ∀ v ∈ transient, OneLine v) :
    Manages lss.flatten (steps.flatMap (stepMemory transient)) := by
  have hall := mapM_eq_ok.1 h
  clear h
  induction hall with
  | nil => exact .nil
  | cons hls _ ih =>
      obtain ⟨hst, hrest⟩ := List.forall_mem_cons.1 hsteps
      exact (manages_stepLines hls hst htransient).append (ih hrest)

theorem manages_handOverLines {p : Program} (hroot : Ordinary p.root)
    (hallocations : ∀ v ∈ p.allocations, OneLine v) :
    Manages (handOverLines p) (tableStatement p.allocations :: entries p.allocations) := by
  have hfirst : Manages [line (p.root ++ "->init(" ++ p.root ++ ");"), .blank,
      line "embedDBFreeSchema(&schema);", .blank, line (tableStatement p.allocations)]
      [tableStatement p.allocations] := by
    refine .ordinary ?_ <| .ordinary trivial <| .ordinary (ordinary_lit rfl rfl) <|
      .ordinary trivial <| .managing ?_ .nil
    · exact hroot.append (oneLine_lit rfl) |>.append hroot.oneLine |>.append (oneLine_lit rfl)
    · exact (managing_lit rfl rfl).append (oneLine_nat _) |>.append (oneLine_lit rfl)
  have hlast : Manages [.blank, line ("return " ++ p.root ++ ";")] [] :=
    .ordinary trivial <| .ordinary
      ((ordinary_lit rfl rfl).append hroot.oneLine |>.append (oneLine_lit rfl)) .nil
  have hentries := manages_entries hallocations
  rw [entries, List.map_map] at hentries
  have hall := hfirst.append hentries |>.append hlast
  rwa [List.append_nil] at hall

/-- The procedure that constructs the operators copies and frees the values of a group, and hands
out a table of the other variables. -/
theorem manages_construction {p : Program} {create : List Line} (h : construction p = .ok create)
    (hsteps : ∀ st ∈ p.steps, st.Lined) (hroot : Ordinary p.root)
    (hallocations : ∀ v ∈ p.allocations, OneLine v) (htransient : ∀ v ∈ p.transient, OneLine v) :
    Manages create (p.steps.flatMap (stepMemory p.transient)
      ++ tableStatement p.allocations :: entries p.allocations) := by
  obtain ⟨lss, hlss, rfl⟩ := construction_eq_ok h
  exact .block (ordinary_lit rfl rfl) <| (manages_steps hlss hsteps htransient).append
    (manages_handOverLines hroot hallocations)

end Listing

end SqlPipeline
