/-
**Formulas can be told from their texts.**

A formula is printed with one text in place of its columns, with bare numbers, with calls as
`name(…)` and with parentheses around each operation.  If its columns are one, nothing is lost: the
first characters tell what was printed, a number ends where its characters end, and all else closes
what it opens.  So a text that begins with a formula does so in one way only, and each part of the
generated program that holds a formula differs from the same part with another formula.

Main definitions:

* `Plan.Formula.Alike` — equal formulas, if decimal numbers are compared by their texts;
* `Plan.Formula.Over` — formulas over one column;
* `Listing.shapeOf` — what kind of formula given characters begin with.

Main results:

* `Listing.exists_mark_decimal` — a decimal number has a character that no integer has;
* `Listing.shapeOf_textWith` — the first characters tell the kind of a formula;
* `Listing.textWith_append_inj` — **a formula can be read in one way only**;
* `Listing.formulas_told_apart` — **different formulas have different texts**, by themselves and in
  the routines and the procedure that are made with them.
-/

import SqlPipeline.Proofs.Statements

set_option autoImplicit false

namespace SqlPipeline

namespace Plan.Formula

/-- Equal formulas, if decimal numbers are compared by their texts. -/
inductive Alike : Formula → Formula → Prop where
  | integer (v : Int) : Alike (.integer v) (.integer v)
  | decimal {x y : Binary64} (h : x.text = y.text) : Alike (.decimal x) (.decimal y)
  | column (n : Nat) : Alike (.column n) (.column n)
  | apply (f : MathFunction) {e e' : Formula} (h : Alike e e') : Alike (.apply f e) (.apply f e')
  | binary (op : FormulaOp) {l l' r r' : Formula} (hl : Alike l l') (hr : Alike r r') :
      Alike (.binary op l r) (.binary op l' r')

/-- Formulas over one column. -/
def Over (n : Nat) (e : Formula) : Prop :=
  ∀ k ∈ e.occurrences, k = n

instance (n : Nat) (e : Formula) : Decidable (e.Over n) :=
  inferInstanceAs (Decidable (∀ k ∈ e.occurrences, k = n))

theorem Over.argument {n : Nat} {f : MathFunction} {e : Formula} (h : (apply f e).Over n) :
    e.Over n :=
  h

theorem Over.left {n : Nat} {op : FormulaOp} {l r : Formula} (h : (binary op l r).Over n) :
    l.Over n :=
  (List.forall_mem_append.1 h).1

theorem Over.right {n : Nat} {op : FormulaOp} {l r : Formula} (h : (binary op l r).Over n) :
    r.Over n :=
  (List.forall_mem_append.1 h).2

theorem Alike.textWith_eq {a b : Formula} (h : a.Alike b) (access : String) :
    a.textWith access = b.textWith access := by
  induction h with
  | integer v => rfl
  | decimal h => exact h
  | column n => rfl
  | apply f _ ih => rw [textWith, textWith, ih]
  | binary op _ _ ihl ihr => rw [textWith, textWith, ihl, ihr]

end Plan.Formula

namespace Listing

open Layout Plan

/-! ### Numbers -/

/-- What may follow a formula: a blank, a closing parenthesis, or nothing. -/
def Follows (rest : List Char) : Prop :=
  ∀ c ∈ rest.head?, c = ' ' ∨ c = ')'

theorem follows_nil : Follows [] := by
  intro c hc
  cases hc

theorem follows_blank (r : List Char) : Follows (' ' :: r) := by
  intro c hc
  exact .inl (by simpa using hc.symm)

theorem follows_close (r : List Char) : Follows (')' :: r) := by
  intro c hc
  exact .inr (by simpa using hc.symm)

theorem Follows.not_numeral {rest : List Char} (h : Follows rest) :
    rest.takeWhile isNumeralChar = [] := by
  cases rest with
  | nil => rfl
  | cons c rest => rcases h c rfl with rfl | rfl <;> rfl

/-- A number ends where its characters end. -/
theorem numeral_append_inj {a b : String} (ha : Numeral a) (hb : Numeral b) {r s : List Char}
    (hr : Follows r) (hs : Follows s) (h : a.toList ++ r = b.toList ++ s) : a = b ∧ r = s := by
  have hchars := congrArg (List.takeWhile isNumeralChar) h
  rw [List.takeWhile_append_of_pos ha, List.takeWhile_append_of_pos hb, hr.not_numeral,
    hs.not_numeral, List.append_nil, List.append_nil] at hchars
  obtain rfl := String.toList_injective hchars
  exact ⟨rfl, List.append_cancel_left h⟩

theorem isDigit_or_minus_of_integer (v : Int) :
    ∀ c ∈ (toString v).toList, c.isDigit = true ∨ c = '-' := by
  intro c hc
  rw [Int.toString_eq_repr, Int.repr_eq_if] at hc
  split at hc
  · exact .inl (isDigit_of_mem_toString hc)
  · rw [String.toList_append, List.mem_append] at hc
    rcases hc with hc | hc
    · exact .inr (by simpa using hc)
    · exact .inl (isDigit_of_mem_toString hc)

theorem integer_ne_nil (v : Int) : (toString v).toList ≠ [] := by
  rw [Int.toString_eq_repr, Int.repr_eq_if]
  split
  · exact toString_toList_ne_nil _
  · simp

/-- A decimal number has a character that no integer has: a point, an exponent, or a letter. -/
theorem exists_mark_decimal (x : Binary64) :
    ∃ c ∈ x.text.toList, c.isDigit = false ∧ c ≠ '-' := by
  cases x with
  | nan => exact ⟨'N', by simp [Binary64.text], by decide⟩
  | infinite negative => exact ⟨'i', by cases negative <;> simp [Binary64.text], by decide⟩
  | finite negative m e =>
      have hlayout : ∀ d, '.' ∈ (Binary64.layout d).toList ∨ 'e' ∈ (Binary64.layout d).toList := by
        intro d
        unfold Binary64.layout
        split
        · left
          unfold Binary64.positional
          split <;> simp
        · right
          simp [Binary64.exponential]
      by_cases hm : m = 0
      · exact ⟨'.', by simp [Binary64.text, hm], by decide⟩
      · rcases hlayout (Binary64.shortest m e) with h | h
        · exact ⟨'.', by simp [Binary64.text, hm, h], by decide⟩
        · exact ⟨'e', by simp [Binary64.text, hm, h], by decide⟩

theorem integer_ne_decimal (v : Int) (x : Binary64) : toString v ≠ x.text := by
  intro h
  obtain ⟨c, hc, hdigit, hminus⟩ := exists_mark_decimal x
  rw [← h] at hc
  rcases isDigit_or_minus_of_integer v c hc with hc | hc
  · rw [hdigit] at hc
    cases hc
  · exact hminus hc

/-! ### The first characters -/

/-- What kind of formula a text begins with. -/
inductive Shape where
  | number
  | column
  | call
  | operation
  deriving DecidableEq

/-- What kind of formula characters begin with.  A call begins with a letter that can also be in a
number, and goes on with one that cannot. -/
def shapeOf : List Char → Shape
  | [] => .column
  | c :: cs =>
    if c == '(' then .operation
    else if !isNumeralChar c then .column
    else if cs.head? == some 'm' then .call
    else .number

/-- The kind of a formula. -/
def shape : Formula → Shape
  | .integer _ => .number
  | .decimal _ => .number
  | .column _ => .column
  | .apply _ _ => .call
  | .binary _ _ _ => .operation

/-- A text for columns that begins as no other formula does. -/
def StandsOut (access : String) : Prop :=
  ∃ c cs, access.toList = c :: cs ∧ c ≠ '(' ∧ isNumeralChar c = false

theorem shapeOf_numeral {a : String} (ha : Numeral a) (hne : a.toList ≠ []) {r : List Char}
    (hr : Follows r) : shapeOf (a.toList ++ r) = .number := by
  obtain ⟨c, cs, hcs⟩ := List.exists_cons_of_ne_nil hne
  rw [Numeral, hcs, List.forall_mem_cons] at ha
  obtain ⟨hc, hrest⟩ := ha
  have hparen : c ≠ '(' := by
    rintro rfl
    cases hc
  have hm : ((cs ++ r).head? == some 'm') = false := by
    cases cs with
    | nil =>
        refine beq_false_of_ne fun hm => ?_
        rcases hr 'm' hm with h | h <;> cases h
    | cons d cs =>
        refine beq_false_of_ne fun hm => ?_
        obtain rfl : d = 'm' := by simpa using hm
        cases hrest 'm' List.mem_cons_self
  rw [hcs, List.cons_append, shapeOf, hm]
  simp [hparen, hc]

/-- **The first characters tell the kind of a formula.** -/
theorem shapeOf_textWith {access : String} (haccess : StandsOut access) (e : Formula)
    {r : List Char} (hr : Follows r) :
    shapeOf ((e.textWith access).toList ++ r) = shape e := by
  cases e with
  | integer v => exact shapeOf_numeral (numeral_int v) (integer_ne_nil v) hr
  | decimal x =>
      have hne : x.text.toList ≠ [] := by
        obtain ⟨c, hc, -⟩ := exists_mark_decimal x
        exact List.ne_nil_of_mem hc
      exact shapeOf_numeral (numeral_decimal x) hne hr
  | column n =>
      obtain ⟨c, cs, hcs, hparen, hc⟩ := haccess
      simp [Formula.textWith, hcs, shapeOf, shape, hparen, hc]
  | apply f e =>
      have hname : ∃ cs, f.routineName.toList = 'e' :: 'm' :: cs := by
        cases f <;> exact ⟨_, by simp [MathFunction.routineName]; rfl⟩
      obtain ⟨cs, hcs⟩ := hname
      have he : isNumeralChar 'e' = true := by decide
      simp [Formula.textWith, hcs, shapeOf, shape, he]
  | binary op l r => simp [Formula.textWith, shapeOf, shape]

theorem shape_eq {access : String} (haccess : StandsOut access) {a b : Formula} {r s : List Char}
    (hr : Follows r) (hs : Follows s)
    (h : (a.textWith access).toList ++ r = (b.textWith access).toList ++ s) :
    shape a = shape b := by
  rw [← shapeOf_textWith haccess a hr, h, shapeOf_textWith haccess b hs]

/-! ### Formulas and what follows them -/

theorem routineName_append_inj {f g : MathFunction} {r s : List Char}
    (h : f.routineName.toList ++ r = g.routineName.toList ++ s) : f = g := by
  cases f <;> cases g <;> simp [MathFunction.routineName] at h ⊢

theorem symbol_append_inj {f g : FormulaOp} {r s : List Char}
    (h : f.symbol.toList ++ r = g.symbol.toList ++ s) : f = g := by
  cases f <;> cases g <;> simp [FormulaOp.symbol] at h ⊢

theorem toList_apply (access : String) (f : MathFunction) (e : Formula) (r : List Char) :
    ((Formula.apply f e).textWith access).toList ++ r =
      f.routineName.toList ++ '(' :: ((e.textWith access).toList ++ ')' :: r) := by
  simp [Formula.textWith]

theorem toList_binary (access : String) (op : FormulaOp) (a b : Formula) (r : List Char) :
    ((Formula.binary op a b).textWith access).toList ++ r =
      '(' :: ((a.textWith access).toList ++
        ' ' :: (op.symbol.toList ++ ' ' :: ((b.textWith access).toList ++ ')' :: r))) := by
  simp [Formula.textWith]

/-- **A formula can be read in one way only**, whatever follows it. -/
theorem textWith_append_inj {access : String} (haccess : StandsOut access) {n : Nat}
    {a b : Formula} (ha : a.Over n) (hb : b.Over n) {r s : List Char} (hr : Follows r)
    (hs : Follows s) (h : (a.textWith access).toList ++ r = (b.textWith access).toList ++ s) :
    a.Alike b ∧ r = s := by
  induction a generalizing b r s with
  | integer v =>
      have hshape := shape_eq haccess hr hs h
      cases b with
      | integer w =>
          obtain ⟨hvw, hrs⟩ := numeral_append_inj (numeral_int v) (numeral_int w) hr hs h
          obtain rfl := Int.repr_injective hvw
          exact ⟨.integer v, hrs⟩
      | decimal y =>
          obtain ⟨hvy, -⟩ := numeral_append_inj (numeral_int v) (numeral_decimal y) hr hs h
          exact absurd hvy (integer_ne_decimal v y)
      | _ => cases hshape
  | decimal x =>
      have hshape := shape_eq haccess hr hs h
      cases b with
      | integer w =>
          obtain ⟨hxw, -⟩ := numeral_append_inj (numeral_decimal x) (numeral_int w) hr hs h
          exact absurd hxw.symm (integer_ne_decimal w x)
      | decimal y =>
          obtain ⟨hxy, hrs⟩ := numeral_append_inj (numeral_decimal x) (numeral_decimal y) hr hs h
          exact ⟨.decimal hxy, hrs⟩
      | _ => cases hshape
  | column k =>
      have hshape := shape_eq haccess hr hs h
      cases b with
      | column k' =>
          obtain rfl : k = n := ha k List.mem_cons_self
          obtain rfl : k' = k := hb k' List.mem_cons_self
          exact ⟨.column k', List.append_cancel_left h⟩
      | _ => cases hshape
  | apply f e ih =>
      have hshape := shape_eq haccess hr hs h
      cases b with
      | apply g e' =>
          rw [toList_apply, toList_apply] at h
          obtain rfl := routineName_append_inj h
          have hargs := List.tail_eq_of_cons_eq (List.append_cancel_left h)
          obtain ⟨he, hrest⟩ :=
            ih ha.argument hb.argument (follows_close r) (follows_close s) hargs
          exact ⟨.apply f he, List.tail_eq_of_cons_eq hrest⟩
      | _ => cases hshape
  | binary op a₁ a₂ ih₁ ih₂ =>
      have hshape := shape_eq haccess hr hs h
      cases b with
      | binary op' b₁ b₂ =>
          rw [toList_binary, toList_binary] at h
          obtain ⟨h₁, hmiddle⟩ := ih₁ ha.left hb.left (follows_blank _) (follows_blank _)
            (List.tail_eq_of_cons_eq h)
          have hmiddle := List.tail_eq_of_cons_eq hmiddle
          obtain rfl := symbol_append_inj hmiddle
          obtain ⟨h₂, hrest⟩ := ih₂ ha.right hb.right (follows_close r) (follows_close s)
            (List.tail_eq_of_cons_eq (List.append_cancel_left hmiddle))
          exact ⟨.binary op h₁ h₂, List.tail_eq_of_cons_eq hrest⟩
      | _ => cases hshape

/-- Formulas over one column have the same text exactly if they are alike. -/
theorem textWith_eq_iff {access : String} (haccess : StandsOut access) {n : Nat} {a b : Formula}
    (ha : a.Over n) (hb : b.Over n) :
    a.textWith access = b.textWith access ↔ a.Alike b := by
  constructor
  · intro h
    refine (textWith_append_inj haccess ha hb follows_nil follows_nil ?_).1
    rw [h]
  · exact fun h => h.textWith_eq access

/-! ### Lines with a formula -/

section

variable {α : Type}

/-- Lines that are the same for all `x`, but for one that depends on it. -/
def OneVaries (l : α → Line) (ls : α → List Line) : Prop :=
  ∃ before after, ∀ x, ls x = before ++ l x :: after

/-- A text that is the same for all `x`, but for a part that depends on it. -/
def Around (part whole : α → String) : Prop :=
  ∃ before after, ∀ x, whole x = before ++ part x ++ after

variable {l : α → Line} {ls : α → List Line} {part whole : α → String}

theorem oneVaries_single (l : α → Line) : OneVaries l fun x => [l x] :=
  ⟨[], [], fun _ => rfl⟩

theorem OneVaries.append_left (h : OneVaries l ls) (ms : List Line) :
    OneVaries l fun x => ms ++ ls x := by
  obtain ⟨before, after, h⟩ := h
  exact ⟨ms ++ before, after, fun x => by simp [h]⟩

theorem OneVaries.append_right (h : OneVaries l ls) (ms : List Line) :
    OneVaries l fun x => ls x ++ ms := by
  obtain ⟨before, after, h⟩ := h
  exact ⟨before, after ++ ms, fun x => by simp [h]⟩

theorem OneVaries.block (h : OneVaries l ls) (head : String) :
    OneVaries (fun x => (l x).indented) fun x => block head (ls x) := by
  obtain ⟨before, after, h⟩ := h
  refine ⟨line (head ++ " \x7b") :: before.map Line.indented,
    after.map Line.indented ++ [line "\x7d"], fun x => ?_⟩
  simp [Listing.block, h]

theorem around_self (part : α → String) : Around part part :=
  ⟨"", "", fun x => by simp⟩

theorem Around.append_left (h : Around part whole) (s : String) :
    Around part fun x => s ++ whole x := by
  obtain ⟨before, after, h⟩ := h
  exact ⟨s ++ before, after, fun x => by simp only [h, String.append_assoc]⟩

theorem Around.append_right (h : Around part whole) (s : String) :
    Around part fun x => whole x ++ s := by
  obtain ⟨before, after, h⟩ := h
  exact ⟨before, after ++ s, fun x => by simp only [h, String.append_assoc]⟩

theorem Around.congr {whole' : α → String} (h : Around part whole)
    (heq : ∀ x, whole' x = whole x) : Around part whole' := by
  obtain ⟨before, after, h⟩ := h
  exact ⟨before, after, fun x => by rw [heq, h]⟩

theorem Around.trans {middle : α → String} (h : Around part middle) (h' : Around middle whole) :
    Around part whole := by
  obtain ⟨before, after, h⟩ := h
  obtain ⟨before', after', h'⟩ := h'
  exact ⟨before' ++ before, after ++ after', fun x => by simp only [h', h, String.append_assoc]⟩

theorem Around.eq_iff (h : Around part whole) {x y : α} :
    whole x = whole y ↔ part x = part y := by
  obtain ⟨before, after, h⟩ := h
  rw [h, h, String.append_left_inj, String.append_right_inj]

/-- The text of lines of which one varies. -/
theorem OneVaries.around (h : OneVaries l ls) (hpart : Around part fun x => (l x).text) :
    Around part fun x => text (ls x) := by
  obtain ⟨before, after, h⟩ := h
  refine ((hpart.append_left (text before)).append_right (text after)).congr fun x => ?_
  rw [h, text_append, text_cons, String.append_assoc]

/-- A line around a text, at some depth. -/
theorem Around.line (h : Around part whole) (depth : Nat) :
    Around part fun x => (Line.code depth (whole x)).text :=
  (h.append_left (indentation depth)).append_right "\n"

/-- A text among others that are put together with the same text between them. -/
theorem around_intercalate (sep : String) (before after : List String) (part : α → String) :
    Around part fun x => sep.intercalate (before ++ part x :: after) := by
  induction before with
  | nil =>
      cases after with
      | nil => exact (around_self part).congr fun x => by simp
      | cons s after =>
          refine ((around_self part).append_right (sep ++ sep.intercalate (s :: after))).congr
            fun x => ?_
          rw [List.nil_append, String.intercalate_cons_cons, String.append_assoc]
  | cons s before ih =>
      refine (ih.append_left (s ++ sep)).congr fun x => ?_
      obtain ⟨u, us, hu⟩ : ∃ u us, before ++ part x :: after = u :: us := by
        cases before <;> exact ⟨_, _, rfl⟩
      rw [List.cons_append, hu, String.intercalate_cons_cons]

end

/-! ### Routines and the procedure that prints -/

theorem around_groupTest (type : Storage) (offset : Nat) :
    Around (fun e : Formula => e.textWith "lastValue" ++ " == " ++ e.textWith "value")
      fun e => routine (.groupTest (.expression e type offset)) := by
  refine OneVaries.around (.block (.append_left (oneVaries_single _) [_, _]) _) (.line ?_ 1)
  refine (((around_self _).append_left "return ").append_right ";").congr fun e => ?_
  simp only [String.append_assoc]

theorem around_groupValue (name : String) (source : Storage) (offset : Nat) (output : Storage) :
    Around (fun e : Formula => e.textWith "lastValue")
      fun e => routine (.groupValue name e source offset output) := by
  refine OneVaries.around
    (.block (.append_right (.append_left (oneVaries_single _) [_]) [_]) _) (.line ?_ 1)
  exact ((around_self _).append_left _).append_right ";"

/-- Printed columns, with the given formula in one of them. -/
def columnsWith (before : List OutputColumn) (c : OutputColumn) (after : List OutputColumn)
    (e : Formula) : List OutputColumn :=
  before ++ { c with formula := some e } :: after

section

variable (before : List OutputColumn) (c : OutputColumn) (after : List OutputColumn)

/-- What depends on the columns one by one, and not on their formulas, is the same for any
formula. -/
theorem pointers_columnsWith (e : Formula) :
    (columnsWith before c after e).filterMap pointerLine? =
      (before ++ c :: after).filterMap pointerLine? := by
  rw [columnsWith, List.filterMap_append, List.filterMap_append]
  rfl

theorem conversions_columnsWith (e : Formula) :
    (columnsWith before c after e).map (fun c => c.type.conversion) =
      (before ++ c :: after).map fun c => c.type.conversion := by
  rw [columnsWith, List.map_append, List.map_append]
  rfl

theorem around_values :
    Around (fun e : Formula => e.textWith ("*" ++ c.name)) fun e =>
      ", ".intercalate ((columnsWith before c after e).map OutputColumn.valueText) := by
  have hvalue : Around (fun e : Formula => e.textWith ("*" ++ c.name)) fun e =>
      "(" ++ c.type.name ++ ")(" ++ e.textWith ("*" ++ c.name) ++ ")" :=
    ((around_self _).append_left _).append_right ")"
  refine (hvalue.trans (around_intercalate ", " (before.map OutputColumn.valueText)
    (after.map OutputColumn.valueText) _)).congr fun e => ?_
  rw [columnsWith, List.map_append, List.map_cons]
  rfl

/-- The procedure that runs the operators, with the given formula in one of the columns that it
prints. -/
theorem around_driver (p : Program) :
    Around (fun e : Formula => e.textWith ("*" ++ c.name)) fun e =>
      text (driver { p with output := columnsWith before c after e }) := by
  unfold driver
  simp only [pointers_columnsWith, printLine, conversions_columnsWith]
  refine OneVaries.around (.block (.append_right (.append_right (.append_right (.append_left
    (.block (oneVaries_single _) _) _) _) _) _) _) ?_
  exact (((around_values before c after).append_left _).append_right ");").line 2

end

/-- **Different formulas have different texts.**  Two formulas over one column are alike exactly if
their texts are equal, if the tests of groups made with them are, if the routines made with them
that compute a value of a group are, or if the procedures that print their values are. -/
theorem formulas_told_apart {n : Nat} {a b : Formula} (ha : a.Over n) (hb : b.Over n) :
    (a.textWith "lastValue" = b.textWith "lastValue" ↔ a.Alike b) ∧
    (∀ type offset, routine (.groupTest (.expression a type offset)) =
      routine (.groupTest (.expression b type offset)) ↔ a.Alike b) ∧
    (∀ name source offset output, routine (.groupValue name a source offset output) =
      routine (.groupValue name b source offset output) ↔ a.Alike b) ∧
    ∀ (p : Program) (before : List OutputColumn) (c : OutputColumn) (after : List OutputColumn),
      text (driver { p with output := columnsWith before c after a }) =
        text (driver { p with output := columnsWith before c after b }) ↔ a.Alike b := by
  have hlast : StandsOut "lastValue" := ⟨'l', _, rfl, by decide, by decide⟩
  refine ⟨textWith_eq_iff hlast ha hb, fun type offset => ?_, fun name source offset output => ?_,
    fun p before c after => ?_⟩
  · rw [(around_groupTest type offset).eq_iff]
    constructor
    · intro h
      -- the first formula ends at the blank before the comparison
      have hchars := congrArg String.toList h
      simp only [String.toList_append, List.append_assoc] at hchars
      exact (textWith_append_inj hlast ha hb (follows_blank _) (follows_blank _) hchars).1
    · intro h
      rw [h.textWith_eq, h.textWith_eq]
  · rw [(around_groupValue name source offset output).eq_iff]
    exact textWith_eq_iff hlast ha hb
  · rw [(around_driver before c after p).eq_iff]
    exact textWith_eq_iff ⟨'*', c.name.toList, by simp, by decide, by decide⟩ ha hb

/-- The day of a time in seconds. -/
def dayOf : Formula :=
  .apply .floor (.binary .div (.column 0) (.integer 86400))

/-- The same numbers, with the function inside. -/
def dayWithin : Formula :=
  .binary .div (.apply .floor (.column 0)) (.integer 86400)

theorem formulas_told_apart_days :
    dayOf.Over 0 ∧ dayWithin.Over 0 ∧ dayOf.textWith "lastValue" ≠ dayWithin.textWith "lastValue" ∧
    (∀ type offset, routine (.groupTest (.expression dayOf type offset)) ≠
      routine (.groupTest (.expression dayWithin type offset))) ∧
    ∀ name source offset output, routine (.groupValue name dayOf source offset output) ≠
      routine (.groupValue name dayWithin source offset output) := by
  have hday : dayOf.Over 0 := by decide
  have hwithin : dayWithin.Over 0 := by decide
  have hne : ¬ dayOf.Alike dayWithin := by
    intro h
    cases h
  obtain ⟨htext, htest, hvalue, -⟩ := formulas_told_apart hday hwithin
  exact ⟨hday, hwithin, fun h => hne (htext.1 h),
    fun type offset h => hne ((htest type offset).1 h),
    fun name source offset output h => hne ((hvalue name source offset output).1 h)⟩

end Listing

end SqlPipeline
