/-
**Functions are defined before they are called.**

In the text of a generated program a function is called where its name stands directly before an
opening bracket, and defined by an unindented line that ends with a brace.  Both are read off the
lines here.  The routines of a program come first in its text, so what is left to show is that the
body of a routine calls nothing but what stands before it, and functions of the record store.

Main definitions:

* `Listing.Line.calls` — the names that stand directly before an opening bracket in a line;
* `Listing.Line.defines?` — the function that a line begins to define;
* `Listing.Scoped` — lines that call only what has been defined, or is foreign;
* `Plan.Program.RoutinesMatch`, `Listing.InOrder` — the routines of a program are those that it
  uses, and stand in its text before they are used.

Main results:

* `Listing.says_textWith` — **a formula calls its functions**, in order;
* `Listing.routineLines_eq_block` — a routine defines its name and calls the functions of its body;
* `Listing.scoped_routinesLines` — routines that stand after the functions of their bodies call only
  what has been defined;
* `Plan.routines_match` — **a program defines what it uses, once and before it is used**.
-/

import SqlPipeline.Proofs.RoutineNeeds
import SqlPipeline.Proofs.Statements
import SqlPipeline.Proofs.Wiring

set_option autoImplicit false

namespace SqlPipeline

namespace Listing

open Layout Plan Query

/-! ### Calls in a text -/

/-- The names in a text that stand directly before an opening bracket.  The text may go on with a
name that has begun as `word`. -/
def calledFrom (word : List Char) : List Char → List String
  | [] => []
  | c :: cs =>
    if isIdentifierChar c then calledFrom (word ++ [c]) cs
    else if c = '(' ∧ word ≠ [] then String.ofList word :: calledFrom [] cs
    else calledFrom [] cs

/-- The name that a text ends with, if it may go on with a name that has begun as `word`. -/
def lastWord (word : List Char) : List Char → List Char
  | [] => word
  | c :: cs => if isIdentifierChar c then lastWord (word ++ [c]) cs else lastWord [] cs

/-- The functions that are called in a line. -/
def Line.calls : Line → List String
  | .blank => []
  | .code _ t => calledFrom [] t.toList

/-- The functions that are called in lines. -/
def called (ls : List Line) : List String :=
  ls.flatMap Line.calls

/-- The function that a line begins to define, if it does: the line is not indented and ends with a
brace. -/
def Line.defines? : Line → Option String
  | .code 0 t => if t.toList.getLast? = some '\x7b' then (calledFrom [] t.toList).head? else none
  | _ => none

/-- The functions that lines define, in order. -/
def defined (ls : List Line) : List String :=
  ls.filterMap Line.defines?

theorem calledFrom_append (w a b : List Char) :
    calledFrom w (a ++ b) = calledFrom w a ++ calledFrom (lastWord w a) b := by
  induction a generalizing w with
  | nil => rfl
  | cons c a ih =>
      rw [List.cons_append, calledFrom, calledFrom, lastWord]
      split
      · exact ih _
      · split
        · rw [ih, List.cons_append]
        · exact ih _

theorem lastWord_append (w a b : List Char) :
    lastWord w (a ++ b) = lastWord (lastWord w a) b := by
  induction a generalizing w with
  | nil => rfl
  | cons c a ih =>
      rw [List.cons_append, lastWord, lastWord]
      split <;> exact ih _

/-- Without brackets there are no calls. -/
theorem calledFrom_of_not_mem {cs : List Char} (h : '(' ∉ cs) (w : List Char) :
    calledFrom w cs = [] := by
  induction cs generalizing w with
  | nil => rfl
  | cons c cs ih =>
      rw [List.mem_cons, not_or] at h
      unfold calledFrom
      split
      · exact ih h.2 _
      · rw [if_neg fun hc => h.1 hc.1.symm]
        exact ih h.2 _

/-- A name before a bracket is called. -/
theorem calledFrom_call {name : List Char} (hname : ∀ c ∈ name, isIdentifierChar c = true)
    {w : List Char} (hne : w ++ name ≠ []) (cs : List Char) :
    calledFrom w (name ++ '(' :: cs) = String.ofList (w ++ name) :: calledFrom [] cs := by
  induction name generalizing w with
  | nil =>
      rw [List.append_nil] at hne
      rw [List.nil_append, List.append_nil, calledFrom, if_neg (by decide), if_pos ⟨rfl, hne⟩]
  | cons c name ih =>
      obtain ⟨hc, hname⟩ := List.forall_mem_cons.1 hname
      rw [List.cons_append, calledFrom, if_pos hc, ih hname (by simp), ← List.append_cons]

/-! ### Texts piece by piece -/

/-- The calls of a text that starts after no name. -/
def Says (s : String) (names : List String) : Prop :=
  calledFrom [] s.toList = names

/-- A text that no name goes on into, and that is no argument list. -/
def Stops (s : String) : Prop :=
  ∀ w, calledFrom w s.toList = calledFrom [] s.toList

/-- A text that no name goes on from. -/
def Ends (s : String) : Prop :=
  ∀ w, lastWord w s.toList = []

section

variable {a b : String} {m n : List String}

theorem Says.stop (ha : Says a m) (hstop : Stops b) (hb : Says b n) : Says (a ++ b) (m ++ n) := by
  rw [Says, String.toList_append, calledFrom_append, ha, hstop, hb]

theorem Says.go (ha : Says a m) (hend : Ends a) (hb : Says b n) : Says (a ++ b) (m ++ n) := by
  rw [Says, String.toList_append, calledFrom_append, ha, hend, hb]

theorem Ends.append (h : Ends b) (a : String) : Ends (a ++ b) := by
  intro w
  rw [String.toList_append, lastWord_append]
  exact h _

theorem says_of_not_mem (h : '(' ∉ a.toList) : Says a [] :=
  calledFrom_of_not_mem h []

theorem says_lit {cs : List Char} (h : calledFrom [] cs = n) : Says (String.ofList cs) n := by
  rw [Says, String.toList_ofList, h]

theorem stops_lit {c : Char} {cs : List Char} (h : (isIdentifierChar c || c == '(') = false) :
    Stops (String.ofList (c :: cs)) := by
  intro w
  rw [Bool.or_eq_false_iff, beq_eq_false_iff_ne] at h
  rw [String.toList_ofList, calledFrom, calledFrom, if_neg (by simp [h.1]),
    if_neg fun hc => h.2 hc.1, if_neg (by simp [h.1]), if_neg fun hc => h.2 hc.1]

theorem ends_lit {cs : List Char} (h : cs.getLast?.any (fun c => !isIdentifierChar c) = true) :
    Ends (String.ofList cs) := by
  intro w
  rw [Option.any_eq_true] at h
  obtain ⟨c, hc, hident⟩ := h
  obtain ⟨cs, rfl⟩ := List.getLast?_eq_some_iff.1 hc
  rw [String.toList_ofList, lastWord_append, lastWord, if_neg (by simpa using hident)]
  rfl

/-- A fixed piece without calls, which no name goes on into. -/
theorem Says.lit (ha : Says a m) {c : Char} {cs : List Char}
    (hc : (isIdentifierChar c || c == '(') = false) (hcs : calledFrom [] cs = []) :
    Says (a ++ String.ofList (c :: cs)) m := by
  have hpiece : Says (String.ofList (c :: cs)) [] := by
    refine says_lit ?_
    rw [Bool.or_eq_false_iff, beq_eq_false_iff_ne] at hc
    rw [calledFrom, if_neg (by simp [hc.1]), if_neg fun h => hc.2 h.1, hcs]
  have h := ha.stop (stops_lit hc) hpiece
  rwa [List.append_nil] at h

/-- A piece without calls, after one that no name goes on from. -/
theorem Says.quiet (ha : Says a m) (hend : Ends a) (hb : Says b []) : Says (a ++ b) m := by
  have h := ha.go hend hb
  rwa [List.append_nil] at h

theorem identifier_lit {cs : List Char} (h : cs.all isIdentifierChar = true) :
    ∀ c ∈ (String.ofList cs).toList, isIdentifierChar c = true := by
  rw [String.toList_ofList]
  exact List.all_eq_true.1 h

/-- A name and the arguments after it. -/
theorem says_call {name : String} (hname : ∀ c ∈ name.toList, isIdentifierChar c = true)
    (hne : name ≠ "") {cs : List Char} (h : calledFrom [] cs = n) :
    Says (name ++ String.ofList ('(' :: cs)) (name :: n) := by
  have hchars : name.toList ≠ [] := by simpa using hne
  rw [Says, String.toList_append, String.toList_ofList, calledFrom_call hname hchars, h,
    List.nil_append, String.ofList_toList]

theorem Says.call (ha : Says a m) (hend : Ends a) {name : String}
    (hname : ∀ c ∈ name.toList, isIdentifierChar c = true) (hne : name ≠ "") {cs : List Char}
    (h : calledFrom [] cs = n) :
    Says (a ++ name ++ String.ofList ('(' :: cs)) (m ++ name :: n) := by
  rw [String.append_assoc]
  exact ha.go hend (says_call hname hne h)

end

theorem says_name (t : Storage) : Says t.name [] := by
  cases t <;> exact says_lit rfl

/-- **A formula calls its functions**, in order. -/
theorem says_textWith {access : String} (h : '(' ∉ access.toList) (e : Formula) :
    Says (e.textWith access) (e.functions.map MathFunction.routineName) := by
  induction e with
  | integer v => exact says_of_not_mem ((numeral_int v).not_mem (by decide))
  | decimal v => exact says_of_not_mem ((numeral_decimal v).not_mem (by decide))
  | column n => exact says_of_not_mem h
  | apply f e ih =>
      have hopen : Says (f.routineName ++ "(") [f.routineName] := by
        refine says_call ?_ ?_ rfl
        · cases f <;> exact identifier_lit rfl
        · cases f <;> decide
      exact (hopen.go ((ends_lit rfl).append _) ih).lit rfl rfl
  | binary op l r ihl ihr =>
      have hleft : Says ("(" ++ l.textWith access ++ " ") (l.functions.map _) :=
        (Says.go (a := "(") (m := []) (says_lit rfl) (ends_lit rfl) ihl).lit rfl rfl
      have hsymbol : Says ("(" ++ l.textWith access ++ " " ++ op.symbol ++ " ")
          (l.functions.map MathFunction.routineName) := by
        cases op <;> exact (hleft.lit rfl rfl).lit rfl rfl
      rw [Formula.functions, List.map_append]
      exact (hsymbol.go ((ends_lit rfl).append _) ihr).lit rfl rfl

/-! ### Lines -/

theorem called_line {t : String} {m n : List String} {ls : List Line} (h : Says t m)
    (hls : called ls = n) : called (line t :: ls) = m ++ n := by
  rw [called, List.flatMap_cons, ← h, ← hls]
  rfl

theorem called_singleton {t : String} {m : List String} (h : Says t m) : called [line t] = m := by
  rw [called_line h rfl]
  exact List.append_nil m

theorem called_append (ls ms : List Line) : called (ls ++ ms) = called ls ++ called ms :=
  List.flatMap_append

theorem called_indented (ls : List Line) : called (ls.map Line.indented) = called ls := by
  rw [called, List.flatMap_map]
  refine List.flatMap_congr fun l _ => ?_
  cases l <;> rfl

theorem defined_append (ls ms : List Line) : defined (ls ++ ms) = defined ls ++ defined ms :=
  List.filterMap_append

theorem defined_indented (ls : List Line) : defined (ls.map Line.indented) = [] := by
  rw [defined, List.filterMap_map, List.filterMap_eq_nil_iff]
  intro l _
  cases l <;> rfl

section

variable {head name : String} {names : List String} {body : List Line}

theorem says_head (h : Says head names) : Says (head ++ " \x7b") names :=
  h.lit rfl rfl

theorem defines?_head (h : Says head (name :: names)) :
    (line (head ++ " \x7b")).defines? = some name := by
  have hlast : (head ++ " \x7b").toList.getLast? = some '\x7b' := by simp
  have hcalls : calledFrom [] (head ++ " \x7b").toList = name :: names := says_head h
  rw [line, Line.defines?, if_pos hlast, hcalls]
  rfl

/-- A block defines the function that its head names first. -/
theorem defined_block (h : Says head (name :: names)) (body : List Line) :
    defined (block head body) = [name] := by
  have hend : defined [line "\x7d"] = [] := by
    have hlast : "\x7d".toList.getLast? ≠ some '\x7b' := by simp
    rw [defined, List.filterMap_cons, line, Line.defines?, if_neg hlast]
    rfl
  rw [block, defined_append, hend, List.append_nil]
  show List.filterMap Line.defines? (line (head ++ " \x7b") :: body.map Line.indented) = [name]
  rw [List.filterMap_cons, defines?_head h]
  exact congrArg _ (defined_indented body)

end

/-! ### Lines in order -/

/-- Lines that call only what has been defined, where `known` is what has been defined before them,
or what is foreign to the program. -/
def Scoped (foreign : String → Prop) (known : List String) : List Line → Prop
  | [] => True
  | l :: ls => (∀ n ∈ l.calls, n ∈ known ++ l.defines?.toList ∨ foreign n) ∧
      Scoped foreign (known ++ l.defines?.toList) ls

section

variable {foreign : String → Prop} {known : List String}

theorem scoped_append {ls ms : List Line} : Scoped foreign known (ls ++ ms) ↔
    Scoped foreign known ls ∧ Scoped foreign (known ++ defined ls) ms := by
  induction ls generalizing known with
  | nil => simp [Scoped, defined]
  | cons l ls ih =>
      have hdefined : defined (l :: ls) = l.defines?.toList ++ defined ls := by
        rw [defined, List.filterMap_cons]
        cases l.defines? <;> rfl
      rw [List.cons_append, Scoped, Scoped, ih, and_assoc, hdefined, List.append_assoc]

theorem Scoped.mono {foreign' : String → Prop} (hforeign : ∀ n, foreign n → foreign' n)
    {ls : List Line} (h : Scoped foreign known ls) : Scoped foreign' known ls := by
  induction ls generalizing known with
  | nil => trivial
  | cons l ls ih => exact ⟨fun n hn => (h.1 n hn).imp id (hforeign n), ih h.2⟩

/-- Lines are in order if all that is called in them was defined before them, or is foreign. -/
theorem scoped_of_called {ls : List Line} (h : ∀ n ∈ called ls, n ∈ known ∨ foreign n) :
    Scoped foreign known ls := by
  induction ls generalizing known with
  | nil => trivial
  | cons l ls ih =>
      rw [called, List.flatMap_cons, List.forall_mem_append] at h
      refine ⟨fun n hn => (h.1 n hn).imp_left (List.mem_append_left _), ih fun n hn => ?_⟩
      exact (h.2 n hn).imp_left (List.mem_append_left _)

/-- A block is in order if its body calls only what was defined before it, itself, or what is
foreign. -/
theorem scoped_block {head name : String} {body : List Line} (hhead : Says head [name])
    (hbody : ∀ n ∈ called body, n ∈ known ++ [name] ∨ foreign n) :
    Scoped foreign known (block head body) := by
  have hdefines := defines?_head hhead
  have hcalls : (line (head ++ " \x7b")).calls = [name] := says_head hhead
  have hend : called [line "\x7d"] = [] := called_singleton (says_lit rfl)
  rw [block, List.cons_append]
  refine ⟨fun n hn => .inl ?_, scoped_of_called ?_⟩
  · rw [hcalls] at hn
    rw [hdefines]
    exact List.mem_append_right _ hn
  · rw [hdefines, called_append, called_indented, hend, List.append_nil]
    exact hbody

end

/-! ### Routines -/

/-- The functions that routines call and no program defines. -/
def storeFunctions : List String :=
  ["memcpy", "getColOffsetFromSchema", "sizeof"]

theorem called_fieldOf {name record : String} (hname : Says name []) (hrecord : Says record [])
    (type : Storage) (offset : Nat) (ls : List Line) :
    called (fieldOf name record type offset :: ls) = called ls := by
  have hoffset : Says (toString offset) [] :=
    says_of_not_mem ((numeral_nat offset).not_mem (by decide))
  have hleft : Says (type.name ++ " " ++ name ++ " = *((") [] :=
    (((says_name type).lit rfl rfl).quiet ((ends_lit rfl).append _) hname).lit rfl rfl
  have hcast : Says (type.name ++ " " ++ name ++ " = *((" ++ type.name ++ "*)((int8_t*)") [] :=
    (hleft.quiet ((ends_lit rfl).append _) (says_name type)).lit rfl rfl
  refine called_line (m := []) ?_ rfl
  exact ((hcast.quiet ((ends_lit rfl).append _) hrecord).lit rfl rfl
    |>.quiet ((ends_lit rfl).append _) hoffset).lit rfl rfl

theorem says_lastValue : Says "lastValue" [] :=
  says_lit rfl

theorem says_lastRecord : Says "lastRecord" [] :=
  says_lit rfl

theorem called_mathRoutine (f : MathFunction) : ∃ head body, mathRoutine f = block head body ∧
    Says head [f.routineName] ∧ called body = [] := by
  cases f with
  | floor | ceil =>
      exact ⟨_, _, rfl, says_lit rfl,
        called_line (m := []) (says_lit rfl) (called_singleton (says_lit rfl))⟩
  | round =>
      exact ⟨_, _, rfl, says_lit rfl, called_line (m := []) (says_lit rfl)
        (called_line (m := []) (says_lit rfl) (called_singleton (says_lit rfl)))⟩
  | abs => exact ⟨_, _, rfl, says_lit rfl, called_singleton (says_lit rfl)⟩

theorem called_groupTestBody (test : GroupTest) :
    ∀ n ∈ called (groupTestBody test), n ∈ test.functions.map MathFunction.routineName := by
  cases test with
  | always =>
      have hcalled : called (groupTestBody .always) = [] :=
        called_singleton (says_lit rfl)
      rw [hcalled]
      exact nofun
  | expression e type offset =>
      have hlast : Says ("return " ++ e.textWith "lastValue" ++ " == ")
          (e.functions.map MathFunction.routineName) :=
        (Says.go (a := "return ") (m := []) (says_lit rfl) (ends_lit rfl)
          (says_textWith (by simp) e)).lit rfl rfl
      have hreturn : Says ("return " ++ e.textWith "lastValue" ++ " == " ++ e.textWith "value"
          ++ ";") (e.functions.map MathFunction.routineName ++ e.functions.map _) :=
        (hlast.go ((ends_lit rfl).append _) (says_textWith (by simp) e)).lit rfl rfl
      rw [groupTestBody, called_fieldOf says_lastValue says_lastRecord,
        called_fieldOf (says_lit rfl) (says_lit rfl), called_singleton hreturn]
      exact fun n hn => (List.mem_append.1 hn).elim id id

theorem called_groupValueBody (e : Formula) (source output : Storage) (offset : Nat) :
    called
      [fieldOf "lastValue" "lastRecord" source offset,
       line (output.name ++ " calculatedValue = " ++ e.textWith "lastValue" ++ ";"),
       line ("memcpy((int8_t*)recordBuffer + getColOffsetFromSchema(schema, aggFunc->colNum), "
         ++ "&calculatedValue, sizeof(" ++ output.name ++ "));")]
      = e.functions.map MathFunction.routineName ++ storeFunctions := by
  have hvalue : Says (output.name ++ " calculatedValue = " ++ e.textWith "lastValue" ++ ";")
      (e.functions.map MathFunction.routineName) :=
    (((says_name output).lit rfl rfl).go ((ends_lit rfl).append _)
      (says_textWith (by simp) e)).lit rfl rfl
  have hsizeof : Says
      ("memcpy((int8_t*)recordBuffer + getColOffsetFromSchema(schema, aggFunc->colNum), "
        ++ "&calculatedValue, sizeof(") storeFunctions :=
    Says.stop (m := ["memcpy", "getColOffsetFromSchema"]) (n := ["sizeof"]) (says_lit rfl)
      (stops_lit rfl) (says_lit rfl)
  rw [called_fieldOf says_lastValue says_lastRecord]
  refine called_line hvalue (called_singleton ?_)
  exact (hsizeof.quiet ((ends_lit rfl).append _) (says_name output)).lit rfl rfl

theorem isIdentifierChar_computeName (index : Nat) :
    ∀ c ∈ (computeName index).toList, isIdentifierChar c = true := by
  intro c hc
  unfold computeName at hc
  rw [String.toList_append, List.mem_append] at hc
  rcases hc with hc | hc
  · exact identifier_lit rfl c hc
  · simp [isIdentifierChar, Char.isAlphanum, isDigit_of_mem_toString hc]

/-- A routine defines its name, and its body calls its functions and some of the record store. -/
theorem routineLines_eq_block {r : Routine} (h : r.Regular) :
    ∃ head body, routineLines r = block head body ∧ Says head [r.name] ∧
      ∀ n ∈ called body,
        n ∈ r.functions.map MathFunction.routineName ∨ n ∈ storeFunctions := by
  cases r with
  | math f =>
      obtain ⟨head, body, hblock, hhead, hbody⟩ := called_mathRoutine f
      refine ⟨head, body, hblock, hhead, ?_⟩
      rw [hbody]
      exact nofun
  | groupTest test =>
      exact ⟨_, _, rfl, says_lit rfl, fun n hn => .inl (called_groupTestBody test n hn)⟩
  | groupValue name e source offset output =>
      obtain ⟨index, rfl⟩ := h
      refine ⟨_, _, rfl, ?_, fun n hn => ?_⟩
      · refine Says.quiet ?_ ((ends_lit rfl).append _) (says_lit rfl)
        exact Says.call (m := []) (says_lit rfl) (ends_lit rfl)
          (isIdentifierChar_computeName index) (ne_computeName (by simp) index).symm rfl
      · rw [called_groupValueBody] at hn
        exact List.mem_append.1 hn

theorem defined_routineLines {r : Routine} (h : r.Regular) :
    defined (routineLines r ++ [.blank]) = [r.name] := by
  obtain ⟨head, body, hblock, hhead, -⟩ := routineLines_eq_block h
  rw [defined_append, hblock, defined_block hhead]
  rfl

/-- The lines of routines define the routines. -/
theorem defined_routinesLines {rs : Routines} (h : ∀ r ∈ rs.list, r.Regular) :
    defined (routinesLines rs) = rs.names := by
  rw [defined, routinesLines, List.filterMap_flatMap, Routines.names, List.map_eq_flatMap]
  exact List.flatMap_congr fun r hr => defined_routineLines (h r hr)

/-- Routines that stand after the functions of their bodies call only what has been defined, and
functions of the record store. -/
theorem scoped_routinesLines {rs : Routines} (h : ∀ r ∈ rs.list, r.Regular)
    (horder : ∀ earlier r later, rs.list = earlier ++ r :: later →
      ∀ f ∈ r.functions, .math f ∈ earlier) :
    Scoped (· ∈ storeFunctions) [] (routinesLines rs) := by
  -- the routines after `earlier` are in order where those have been defined
  have hrest : ∀ later earlier, rs.list = earlier ++ later →
      Scoped (· ∈ storeFunctions) (earlier.map Routine.name)
        (later.flatMap fun r => routineLines r ++ [.blank]) := by
    intro later
    induction later with
    | nil => exact fun _ _ => trivial
    | cons r later ih =>
        intro earlier hlist
        have hr : r.Regular := h r (by simp [hlist])
        obtain ⟨head, body, hblock, hhead, hbody⟩ := routineLines_eq_block hr
        rw [List.flatMap_cons, scoped_append, defined_routineLines hr, scoped_append]
        refine ⟨⟨?_, nofun, trivial⟩, ?_⟩
        · rw [hblock]
          refine scoped_block hhead fun n hn => (hbody n hn).imp_left fun hn => ?_
          obtain ⟨f, hf, rfl⟩ := List.mem_map.1 hn
          exact List.mem_append_left _ (List.mem_map_of_mem (horder earlier r later hlist f hf))
        · have h := ih (earlier ++ [r]) (by rw [hlist, List.append_cons])
          rwa [List.map_append] at h
  exact hrest rs.list [] rfl

/-! ### Programs -/

/-- The two procedures of a program. -/
def procedures : List String :=
  ["createOperator", "execOperator"]

/-- The lines of a program are in order: each routine and each procedure is defined once, routines
call only what stands before them and functions of the record store, and wherever a routine or the
first procedure is called, it has been defined. -/
structure InOrder (p : Program) (ls : List Line) : Prop where
  defined_eq : defined ls = p.routines.names ++ procedures
  nodup : (defined ls).Nodup
  routines : Scoped (· ∈ storeFunctions) [] (routinesLines p.routines)
  calls : Scoped (· ∉ p.routines.names ++ ["createOperator"]) [] ls

/-- A routine has neither the name of a procedure nor that of a function of the record store. -/
theorem name_not_mem {r : Routine} (h : r.Regular) : r.name ∉ storeFunctions ++ procedures := by
  cases r with
  | math f => cases f <;> decide
  | groupTest test => exact (by decide : groupTestName ∉ storeFunctions ++ procedures)
  | groupValue name e source offset output =>
      obtain ⟨index, rfl⟩ := h
      have hne : ∀ n ∈ storeFunctions ++ procedures, n ≠ computeName index := by
        intro n hn
        refine ne_computeName ?_ index
        revert n
        simp [storeFunctions, procedures]
      exact fun hmem => hne _ hmem rfl

section

variable {p : Program} {create : List Line}

theorem says_createOperator :
    Says "embedDBOperator* createOperator(embedDBState* state, void*** allocatedValues)"
      ["createOperator"] :=
  says_lit rfl

theorem says_execOperator : Says "void execOperator(embedDBState* state)" ["execOperator"] :=
  says_lit rfl

/-- **The lines of a program are in order** if its routines stand after the functions of their
bodies. -/
theorem inOrder (h : construction p = .ok create) (hregular : ∀ r ∈ p.routines.list, r.Regular)
    (hnodup : p.routines.names.Nodup)
    (horder : ∀ earlier r later, p.routines.list = earlier ++ r :: later →
      ∀ f ∈ r.functions, .math f ∈ earlier) :
    InOrder p (routinesLines p.routines ++ create ++ .blank :: driver p) := by
  obtain ⟨lss, -, hblock⟩ := Listing.construction_eq_ok h
  have hnames : ∀ n ∈ storeFunctions ++ procedures, n ∉ p.routines.names := by
    intro n hn hmem
    obtain ⟨r, hr, rfl⟩ := List.mem_map.1 hmem
    exact name_not_mem (hregular r hr) hn
  have hroutines := scoped_routinesLines hregular horder
  have hdefined : defined (routinesLines p.routines ++ create)
      = p.routines.names ++ ["createOperator"] := by
    rw [defined_append, defined_routinesLines hregular, hblock, defined_block says_createOperator]
  have hall : defined (routinesLines p.routines ++ create ++ .blank :: driver p)
      = p.routines.names ++ procedures := by
    have hdriver : defined (.blank :: driver p) = ["execOperator"] :=
      defined_block says_execOperator _
    rw [defined_append, hdefined, hdriver, List.append_assoc]
    rfl
  refine ⟨hall, ?_, hroutines, scoped_append.2 ⟨scoped_append.2 ⟨?_, ?_⟩, ?_⟩⟩
  · rw [hall, List.nodup_append]
    refine ⟨hnodup, by decide, fun n hn m hm heq => ?_⟩
    exact hnames m (List.mem_append_right _ hm) (heq ▸ hn)
  · -- no function of the record store has the name of a routine
    refine hroutines.mono fun n hn hmem => ?_
    rcases List.mem_append.1 hmem with hmem | hmem
    · exact hnames n (List.mem_append_left _ hn) hmem
    · rw [List.mem_singleton.1 hmem] at hn
      exact absurd hn (by decide)
  · rw [defined_routinesLines hregular, hblock]
    exact scoped_block says_createOperator fun n _ => Classical.em _
  · rw [hdefined]
    exact scoped_of_called fun n _ => Classical.em _

end

end Listing

namespace Plan

open Query Outcome

/-! ### What a program uses -/

/-- The routines that a step names: the test for groups, and those of the values of a group. -/
def Step.routineNames : Step → List String
  | .aggregate _ descriptors _ _ => groupTestName :: descriptors.filterMap Descriptor.compute
  | _ => []

/-- The routines that a program uses outside of routines: those that its steps name, and the
functions of its printed formulas. -/
def Program.uses (p : Program) : List String :=
  p.steps.flatMap Step.routineNames
    ++ (p.output.flatMap OutputColumn.functions).map MathFunction.routineName

/-- The routines of a program are those that its query asks for, and those that it uses.  They have
different names; there is one for each function of the printed formulas or, with groups, of the test
for groups; there is the test of the groups, if there are any; and each value of a group that names
a routine has one of its type.  A routine stands after the functions of its body. -/
structure Program.RoutinesMatch (q : Resolved) (p : Program) : Prop where
  nodup : p.routines.names.Nodup
  functions : ∀ f, f ∈ p.functions ↔ f ∈ q.functions
  math : ∀ f, .math f ∈ p.routines.list ↔ f ∈ p.functions
  groupTest : ∀ test, .groupTest test ∈ p.routines.list ↔
    ∃ g, p.grouping = some g ∧ g.test = test
  groupValue : ∀ name e source offset type,
    .groupValue name e source offset type ∈ p.routines.list ↔
      ∃ g x, p.grouping = some g ∧ x ∈ g.descriptors ∧ x.compute = some name ∧
        x.output.type = type ∧ g.test = .expression e source offset
  compute : ∀ g x name, p.grouping = some g → x ∈ g.descriptors → x.compute = some name →
    ∃ e source offset, g.test = .expression e source offset ∧
      ∀ r, r ∈ p.routines.list ∧ r.name = name ↔
        r = .groupValue name e source offset x.output.type
  before : ∀ earlier r later, p.routines.list = earlier ++ r :: later →
    ∀ f ∈ r.functions, .math f ∈ earlier
  uses : ∀ n ∈ p.uses, n ∈ p.routines.names

section

variable {q : Resolved} {p : Program}

theorem formula_of_groupedOutput {output : Layout.Schema} {g : Grouping}
    {columns : List OutputColumn} (h : groupedOutput output g = .ok columns) :
    ∀ c ∈ columns, c.formula = none := by
  intro c hc
  obtain ⟨⟨column, index⟩, hcolumn⟩ := exists_of_forall₂ (mapM_eq_ok.1 h).flip hc
  dsimp only at hcolumn
  split at hcolumn
  · cases hcolumn
    rfl
  · cases hcolumn

/-- What a program uses are routines of it. -/
theorem Stages.uses_subset (st : Stages q p) : ∀ n ∈ p.uses, n ∈ p.routines.names := by
  refine List.forall_mem_append.2 ⟨fun n hn => ?_, fun n hn => ?_⟩
  · obtain ⟨s, hs, hn⟩ := List.mem_flatMap.1 hn
    cases s with
    | aggregate input descriptors packed name =>
        obtain ⟨before, after, hsteps⟩ := List.append_of_mem hs
        obtain ⟨g, hg, rfl⟩ :=
          Option.map_eq_some_iff.1 (st.linear.follow before _ after hsteps).2
        rcases List.mem_cons.1 hn with rfl | hn
        · exact List.mem_map_of_mem (f := Routine.name) (st.groupTest_mem.2 ⟨g, hg, rfl⟩)
        · obtain ⟨x, hx, hname⟩ := List.mem_filterMap.1 hn
          obtain ⟨e, source, offset, -, hr⟩ := st.compute_mem hg hx hname
          exact List.mem_map_of_mem (f := Routine.name) ((hr _).2 rfl).1
    | _ => cases hn
  · obtain ⟨f, hf, rfl⟩ := List.mem_map.1 hn
    obtain ⟨c, hc, hfc⟩ := List.mem_flatMap.1 hf
    cases hg : p.grouping with
    | none =>
        refine List.mem_map_of_mem (f := Routine.name) (st.math_mem.2 ?_)
        rw [Program.functions, hg]
        exact hf
    | some g =>
        rw [OutputColumn.functions,
          formula_of_groupedOutput (st.grouping_gathers_some hg).2 c hc] at hfc
        cases hfc

/-- **A program defines what it uses, once and before it is used.** -/
theorem routines_match (hp : (ofQuery q).run.value = .ok p) :
    p.RoutinesMatch q ∧ ∀ t, Listing.ofProgram p = .ok t →
      ∃ create, Listing.construction p = .ok create ∧
        t = Listing.text
          (Listing.routinesLines p.routines ++ create ++ .blank :: Listing.driver p) ∧
        Listing.InOrder p
          (Listing.routinesLines p.routines ++ create ++ .blank :: Listing.driver p) := by
  obtain ⟨st⟩ := stages_of_ofQuery hp
  have hbefore : ∀ earlier r later, p.routines.list = earlier ++ r :: later →
      ∀ f ∈ r.functions, .math f ∈ earlier :=
    fun earlier r later h f hf => st.math_before h hf
  refine ⟨?_, fun t ht => ?_⟩
  · exact {
      nodup := st.nodup_names
      functions := fun f => st.mem_functions
      math := fun f => st.math_mem
      groupTest := fun test => st.groupTest_mem
      groupValue := fun name e source offset type => st.groupValue_mem
      compute := fun g x name hg hx hname => st.compute_mem hg hx hname
      before := hbefore
      uses := st.uses_subset }
  · obtain ⟨create, hcreate, rfl⟩ := Listing.ofProgram_eq_ok ht
    exact ⟨create, hcreate, rfl, Listing.inOrder hcreate st.regular st.nodup_names hbefore⟩

theorem routines_match_lateTripsByDistance :
    ∃ p t create, (ofQuery lateTripsByDistance).run.value = .ok p ∧ Listing.ofProgram p = .ok t ∧
      p.routines.names = ["embedDBFloor", "groupFunction", "customAggregateFunc1"] ∧
      p.RoutinesMatch lateTripsByDistance ∧ Listing.construction p = .ok create ∧
      Listing.InOrder p
        (Listing.routinesLines p.routines ++ create ++ .blank :: Listing.driver p) := by
  obtain ⟨p, t, hp, ht, hnames⟩ : ∃ p t,
      (ofQuery lateTripsByDistance).run.value = .ok p ∧ Listing.ofProgram p = .ok t ∧
        p.routines.names = ["embedDBFloor", "groupFunction", "customAggregateFunc1"] := by
    rw [ofQuery, build, access_lateTripsByDistance, Access.ofFilters,
      Access.candidates_of_pairwise (by decide)]
    exact ⟨_, _, rfl, rfl, rfl⟩
  obtain ⟨hmatch, htext⟩ := routines_match hp
  obtain ⟨create, hcreate, -, horder⟩ := htext t ht
  exact ⟨p, t, create, hp, ht, hnames, hmatch, hcreate, horder⟩

end

end Plan

end SqlPipeline
