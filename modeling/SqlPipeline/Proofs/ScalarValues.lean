/-
**Expressions keep their values.**

An expression of a query is read twice before it is printed.  When names are resolved, signs become
part of a literal through parentheses, or a difference from zero, or nothing, and parentheses are
left to the shape of the tree; then the tree is turned into a formula, where the one column that may
occur is a single value.  Here an expression is given the value that it has as it is written, in any
ring, with any division and any functions in place of those of the generated program, and the two
readings are shown to keep it.

Main definitions:

* `Plan.Arithmetic` — the numbers that decimals stand for, a division, and functions;
* `Query.Scope.amount?` — the value of an expression as it is written;
* `Query.Scalar.amount?`, `Plan.Formula.valueWith` — the value after the first reading, and after
  the second.

Main results:

* `Query.Scope.amount?_of_denotes` — signs and parentheses around a literal are part of it;
* `Query.Scope.amount?_eq_of_scalar` — resolving names keeps the value;
* `Plan.Image.amount?_eq` — the image of an expression has its value;
* `Plan.formula_keeps_value` — **the formula of an expression has its value**.
-/

import SqlPipeline.Proofs.Conditions
import SqlPipeline.Proofs.NameCase
import SqlPipeline.Proofs.Translation

set_option autoImplicit false

namespace SqlPipeline

open Sql Query Outcome

variable {V : Type} [Ring V]

/-! ### Values -/

namespace Plan

/-- What formulas compute with beside the operations of a ring: the numbers that decimals stand for,
where only the sign is known, and any division and functions. -/
structure Arithmetic (V : Type) [Ring V] where
  decimal : Binary64 → V
  decimal_neg : ∀ d, decimal d.neg = -decimal d
  div : V → V → V
  function : MathFunction → V → V

namespace Arithmetic

/-- What an operator of SQL computes.  There is no modulo operator. -/
def arith? (A : Arithmetic V) : ArithOp → Option (V → V → V)
  | .add => some fun x y => x + y
  | .sub => some fun x y => x - y
  | .mul => some fun x y => x * y
  | .div => some A.div
  | .mod => none

/-- What an operator of the generated program computes. -/
def operate (A : Arithmetic V) : FormulaOp → V → V → V
  | .add => fun x y => x + y
  | .sub => fun x y => x - y
  | .mul => fun x y => x * y
  | .div => A.div

theorem arith?_eq_operate (A : Arithmetic V) {op : ArithOp} {o : FormulaOp}
    (h : o.symbol = op.symbol) : A.arith? op = some (A.operate o) := by
  have ho := FormulaOp.ofArith?_eq_some.2 h
  cases op <;> cases ho <;> rfl

end Arithmetic

/-- The value of a formula, with `x` in place of its columns. -/
def Formula.valueWith (A : Arithmetic V) (x : V) : Formula → V
  | integer v => (v : V)
  | decimal v => A.decimal v
  | column _ => x
  | apply f e => A.function f (e.valueWith A x)
  | binary op l r => A.operate op (l.valueWith A x) (r.valueWith A x)

end Plan

namespace Query

open Plan

/-- The number that a literal stands for; a text stands for none. -/
def Literal.amount? (A : Arithmetic V) : Literal → Option V
  | integer v => some (v : V)
  | decimal v => some (A.decimal v)
  | text _ => none

/-- The value of an expression over the columns of a record. -/
def Scalar.amount? (A : Arithmetic V) (record : Nat → V) : Scalar → Option V
  | column n => some (record n)
  | literal l => l.amount? A
  | apply name arg => do
    let f ← MathFunction.named? name
    return A.function f (← arg.amount? A record)
  | binary op l r => do
    let operation ← A.arith? op
    return operation (← l.amount? A record) (← r.amount? A record)

/-- The value of an expression as it is written.  A plus sign changes nothing, a minus sign is the
negation, and a call is that of the function of its name, whatever else it says. -/
def Scope.amount? (s : Scope) (A : Arithmetic V) (record : Nat → V) : Expr → Option V
  | .ident i => (s.table.columnCalled? i.value).map record
  | .path [q, c] =>
    if s.Refers [q] then (s.table.columnCalled? c.value).map record else none
  | .number text _ =>
    if IsDecimal text then (Binary64.ofText? text).map A.decimal
    else some (numeral text : V)
  | .nested e => s.amount? A record e
  | .sign true e => (s.amount? A record e).map fun x => -x
  | .sign false e => s.amount? A record e
  | .binary (.arith op) l r => do
    let operation ← A.arith? op
    return operation (← s.amount? A record l) (← s.amount? A record r)
  | .rounded up e _ =>
    (s.amount? A record e).map (A.function (if up then .ceil else .floor))
  | .call f arg => do
    let function ← MathFunction.named? (pathName f.name)
    return A.function function (← s.amount? A record arg)
  | _ => none

/-! ### Names are resolved -/

namespace Scope

variable {s : Scope} (A : Arithmetic V) (record : Nat → V) {e : Expr} {a : Scalar}

/-- Signs before a literal and parentheses around it are part of it. -/
theorem amount?_of_denotes {l : Literal} (h : Denotes e l) :
    s.amount? A record e = l.amount? A := by
  induction h with
  | integer htext hrange => simp [amount?, htext, Literal.amount?]
  | decimal htext hx => simp [amount?, htext, hx, Literal.amount?]
  | string t => rfl
  | minusInteger hdenotes ih => simp [amount?, ih, Literal.amount?]
  | minusDecimal hdenotes ih => simp [amount?, ih, Literal.amount?, A.decimal_neg]
  | plus hdenotes ih => rw [amount?, ih]
  | nested hdenotes ih => rw [amount?, ih]

theorem amount?_of_names {n : Nat} (h : s.Names e n) : s.amount? A record e = some (record n) := by
  induction h with
  | plain hc => rw [amount?, hc, Option.map_some]
  | qualified hq hc => rw [amount?, if_pos hq, hc, Option.map_some]
  | nested hnames ih => rw [amount?, ih]

/-- What is found first is a literal or a column. -/
theorem atom?_eq_some (h : s.atom? e = .ok (some a)) :
    (∃ l, Denotes e l ∧ a = .literal l) ∨ ∃ n, s.Names e n ∧ a = .column n := by
  unfold atom? at h
  simp only [bind_eq_ok] at h
  obtain ⟨l, hl, h⟩ := h
  cases l with
  | some l =>
      cases h
      exact .inl ⟨l, literal?_eq_some.1 hl, rfl⟩
  | none =>
      simp only [bind_eq_ok] at h
      obtain ⟨n, hn, h⟩ := h
      cases n with
      | some n =>
          cases h
          exact .inr ⟨n, column?_eq_some.1 hn, rfl⟩
      | none =>
          dsimp only at h
          split at h
          · cases h
          · cases h

/-- A literal or a column has its value; so it is enough to look at the other expressions. -/
theorem amount?_of_compound
    (hcompound : ∀ a, s.compound e = .ok a → s.amount? A record e = a.amount? A record)
    (h : s.scalar e = .ok a) : s.amount? A record e = a.amount? A record := by
  rw [scalar_eq, bind_eq_ok] at h
  obtain ⟨r, hatom, h⟩ := h
  cases r with
  | some a' =>
      obtain rfl : a' = a := pure_eq_ok.1 h
      rcases atom?_eq_some hatom with ⟨l, hl, rfl⟩ | ⟨n, hn, rfl⟩
      · exact amount?_of_denotes A record hl
      · exact amount?_of_names A record hn
  | none => exact hcompound a h

/-- **Resolving names keeps the value.** -/
theorem amount?_eq_of_scalar (h : s.scalar e = .ok a) :
    s.amount? A record e = a.amount? A record := by
  induction e generalizing a with
  | nested e ih => exact amount?_of_compound A record (fun a ha => ih ha) h
  | sign negative e ih =>
      refine amount?_of_compound A record (fun a ha => ?_) h
      cases negative with
      | false => exact ih ha
      | true =>
          -- the negation is a difference from zero
          obtain ⟨b, hb, hpure⟩ := bind_eq_ok.1 ha
          obtain rfl := pure_eq_ok.1 hpure
          rw [amount?, ih hb]
          cases hvalue : b.amount? A record <;>
            simp [Scalar.amount?, Literal.amount?, Arithmetic.arith?, hvalue]
  | binary op l r ihl ihr =>
      refine amount?_of_compound A record (fun a ha => ?_) h
      cases op with
      | arith op =>
          obtain ⟨b, hb, ha⟩ := bind_eq_ok.1 ha
          obtain ⟨c, hc, hpure⟩ := bind_eq_ok.1 ha
          obtain rfl := pure_eq_ok.1 hpure
          rw [amount?, ihl hb, ihr hc, Scalar.amount?]
      | _ => cases ha
  | rounded up e unit ih =>
      refine amount?_of_compound A record (fun a ha => ?_) h
      obtain ⟨b, hb, hpure⟩ := bind_eq_ok.1 ha
      obtain rfl := pure_eq_ok.1 hpure
      have hname : MathFunction.named? (if up then "ceil" else "floor")
          = some (if up then .ceil else .floor) := by
        cases up <;> rfl
      rw [amount?, ih hb, Scalar.amount?, hname]
      cases b.amount? A record <;> rfl
  | call f arg ih =>
      refine amount?_of_compound A record (fun a ha => ?_) h
      obtain ⟨-, -, ha⟩ := bind_eq_ok.1 ha
      obtain ⟨b, hb, hpure⟩ := bind_eq_ok.1 ha
      obtain rfl := pure_eq_ok.1 hpure
      have hname : MathFunction.named? (Text.lower (pathName f.name))
          = MathFunction.named? (pathName f.name) := by
        rw [MathFunction.named?, MathFunction.named?, Text.lower_lower]
      rw [amount?, ih hb, Scalar.amount?, hname]
  | callWith f args =>
      refine amount?_of_compound A record (fun a ha => ?_) h
      obtain ⟨-, -, hthrow⟩ := bind_eq_ok.1 ha
      cases hthrow
  | _ => exact amount?_of_compound A record (fun a ha => by cases ha) h

end Scope

end Query

/-! ### Formulas are found -/

namespace Plan

/-- **The image of an expression has its value**, if all its columns have the value `x`. -/
theorem Image.amount?_eq (A : Arithmetic V) {record : Nat → V} {x : V} {a : Scalar} {f : Formula}
    (h : Image a f) (hx : ∀ n ∈ f.occurrences, record n = x) :
    a.amount? A record = some (f.valueWith A x) := by
  induction h with
  | column n =>
      rw [Scalar.amount?, hx n List.mem_cons_self]
      rfl
  | integer v => rfl
  | decimal v => rfl
  | apply named image ih =>
      rw [Scalar.amount?, named, ih hx]
      rfl
  | binary symbol_eq left right ihl ihr =>
      have hl := ihl fun n hn => hx n (List.mem_append_left _ hn)
      have hr := ihr fun n hn => hx n (List.mem_append_right _ hn)
      rw [Scalar.amount?, A.arith?_eq_operate symbol_eq, hl, hr]
      rfl

/-- **The formula of an expression has its value**: in every ring, with every division and all
functions, and for every value of the one column that it may have. -/
theorem formula_keeps_value (A : Arithmetic V) {s : Scope} {e : Expr} {a : Scalar} {f : Formula}
    {rs rs' : Routines} (ha : s.scalar e = .ok a) (hf : Gathers (formulaOf a) rs f rs')
    {record : Nat → V} {x : V} (hx : ∀ n ∈ f.columns, record n = x) :
    s.amount? A record e = some (f.valueWith A x) := by
  have htranslation := translation_formulaOf a rs
  rw [show (formulaOf a).run.run rs = (.ok f, rs') from hf] at htranslation
  cases htranslation with
  | image translatable image columns_eq isFloat_eq adds =>
      calc s.amount? A record e
          = a.amount? A record := Scope.amount?_eq_of_scalar A record ha
        _ = some (f.valueWith A x) := image.amount?_eq A fun n hn => hx n (mem_numberSet.2 hn)

/-- Arithmetic of integers, where rounding changes nothing. -/
def integerArithmetic : Arithmetic ℤ where
  decimal _ := 0
  decimal_neg _ := rfl
  div x y := x / y
  function
    | .abs, x => |x|
    | _, x => x

/-- Minus the product of the tens of kilometres and minus three:
`-(FLOOR(km / 10) * +(-(3)))`. -/
def signedTens : Expr :=
  .sign true (.nested (.binary (.arith .mul)
    (.rounded false (.binary (.arith .div) (.ident ⟨"km", none⟩) (.number "10" false)) "")
    (.sign false (.nested (.sign true (.nested (.number "3" false)))))))

/-- The same with names resolved: the first sign is a difference from zero, and those before the
three are part of it. -/
def resolvedTens : Scalar :=
  .binary .sub (.literal (.integer 0))
    (.binary .mul (.apply "floor" (.binary .div (.column 1) (.literal (.integer 10))))
      (.literal (.integer (-3))))

/-- The formula of the same. -/
def tensFormula : Formula :=
  .binary .sub (.integer 0)
    (.binary .mul (.apply .floor (.binary .div (.column 1) (.integer 10))) (.integer (-3)))

theorem formula_keeps_value_signedTens :
    Scope.scalar ⟨trips, none⟩ signedTens = .ok resolvedTens ∧
      Gathers (formulaOf resolvedTens) .empty tensFormula ⟨[.math .floor]⟩ ∧
      tensFormula.valueWith integerArithmetic 47 = 12 ∧
      Scope.amount? ⟨trips, none⟩ integerArithmetic (fun _ => 47) signedTens
        = some (tensFormula.valueWith integerArithmetic 47) := by
  have ha : Scope.scalar ⟨trips, none⟩ signedTens = .ok resolvedTens := by decide +kernel
  have hf : Gathers (formulaOf resolvedTens) .empty tensFormula ⟨[.math .floor]⟩ := rfl
  exact ⟨ha, hf, rfl, formula_keeps_value integerArithmetic ha hf fun _ _ => rfl⟩

end Plan

end SqlPipeline
