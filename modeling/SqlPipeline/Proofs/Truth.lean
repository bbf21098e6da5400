/-
**What comparisons mean on records.**

A stored record is a list of integers.  A query compares its columns with literals, which may be
integers, decimals or texts; decimals denote rational numbers or one of the two infinities, and
numbers of either kind are compared by their size.  Texts are compared with texts only.

Main definitions:

* `Quantity.neg` — the number with the other sign;
* `Query.Value`, `Query.Literal.value` — a number or a text, and what a literal is;
* `Query.Value.order?` — how two values compare, if they do;
* `Query.Literal.compared` — whether a comparison holds between two literals;
* `Query.Row` — a stored record;
* `Query.Comparison.holds`, `Query.Resolved.admits` — whether a record meets a condition, and all
  conditions of a query.

Main results:

* `Binary64.quantity?_neg` — the number with its sign bit changed is the number with the other sign;
* `Query.Literal.compared_integer` — on integers this is the comparison of integers;
* `Query.Literal.compared_flip` — the comparison with its sides exchanged holds of the exchanged
  values.
-/

import Mathlib
import SqlPipeline.Query.Basic

set_option autoImplicit false

namespace SqlPipeline

/-! ### The size of a number -/

/-- The rational numbers with the two infinities. -/
abbrev Quantity : Type := WithBot (WithTop ℚ)

/-- The number with the other sign. -/
def Quantity.neg (q : Quantity) : Quantity :=
  WithBot.recBotCoe ((⊤ : WithTop ℚ) : Quantity)
    (fun x => WithTop.recTopCoe (⊥ : Quantity) (fun v => ((-v : ℚ) : WithTop ℚ)) x) q

theorem Quantity.neg_coe (v : ℚ) :
    Quantity.neg ((v : WithTop ℚ) : Quantity) = (((-v : ℚ) : WithTop ℚ) : Quantity) := rfl

/-- The number that a double-precision number is, if it is one. -/
def Binary64.quantity? : Binary64 → Option Quantity
  | nan => none
  | infinite true => some ⊥
  | infinite false => some ((⊤ : WithTop ℚ) : Quantity)
  | finite s m e => some (((((if s then -1 else 1) * m * 2 ^ e : ℚ)) : WithTop ℚ) : Quantity)

/-- A double-precision number with its sign bit changed is the number with the other sign. -/
theorem Binary64.quantity?_neg (x : Binary64) : x.neg.quantity? = x.quantity?.map Quantity.neg := by
  cases x with
  | nan => rfl
  | infinite s => cases s <;> rfl
  | finite s m e =>
      rw [neg, quantity?, quantity?, Option.map_some, Quantity.neg_coe]
      congr 3
      cases s <;> simp

/-! ### Comparing values -/

/-- Whether a comparison holds between two values that compare in the given way.  Values that do
not compare are different. -/
def Comparator.holdsFor : Comparator → Option Ordering → Bool
  | eq, o => o == some .eq
  | ne, o => o != some .eq
  | lt, o => o == some .lt
  | le, o => o == some .lt || o == some .eq
  | gt, o => o == some .gt
  | ge, o => o == some .gt || o == some .eq

theorem Comparator.holdsFor_flip (c : Comparator) (o : Option Ordering) :
    c.flip.holdsFor (o.map Ordering.swap) = c.holdsFor o := by
  rcases o with _ | _ | _ | _ <;> cases c <;> rfl

/-- On two integers a comparison holds as their order says. -/
theorem Comparator.holdsFor_cmp (c : Comparator) (a b : Int) :
    c.holdsFor (some (cmp a b)) = c.holds a b := by
  rcases lt_trichotomy a b with h | rfl | h
  · rw [(cmp_eq_lt_iff a b).2 h]
    cases c <;> simp [holdsFor, holds, bne, h, h.ne, h.le, h.not_gt, h.not_ge]
  · rw [cmp_self_eq_eq]
    cases c <;> simp [holdsFor, holds]
  · rw [(cmp_eq_gt_iff a b).2 h]
    cases c <;> simp [holdsFor, holds, bne, h, h.ne', h.le, h.not_gt, h.not_ge]

namespace Query

/-- What is compared: a number, known by its size if it has one, or a text. -/
inductive Value where
  | number (size : Option Quantity)
  | text (s : String)

namespace Value

/-- The integer as a value. -/
def ofInt (v : Int) : Value :=
  number (some (((v : ℚ) : WithTop ℚ) : Quantity))

/-- The value after a minus sign; a text has none. -/
def neg? : Value → Option Value
  | number size => some (number (size.map Quantity.neg))
  | text _ => none

theorem neg?_ofInt (v : Int) : (ofInt v).neg? = some (ofInt (-v)) := by
  simp only [ofInt, neg?, Option.map_some, Quantity.neg_coe, Int.cast_neg]

/-- How two values compare, if they do: numbers by their size, and texts by their characters. -/
def order? : Value → Value → Option Ordering
  | number a, number b => do return cmp (← a) (← b)
  | text s, text t => some (cmp s t)
  | _, _ => none

/-- Whether a comparison holds between two values. -/
def compared (op : Comparator) (a b : Value) : Bool :=
  op.holdsFor (order? a b)

theorem order?_swap (a b : Value) : order? b a = (order? a b).map Ordering.swap := by
  cases a with
  | number x =>
      cases b with
      | number y => cases x <;> cases y <;> simp [order?, cmp_swap]
      | text t => rfl
  | text s =>
      cases b with
      | number y => rfl
      | text t => simp [order?, cmp_swap]

/-- The comparison with its sides exchanged holds of the exchanged values. -/
theorem compared_flip (op : Comparator) (a b : Value) :
    compared op.flip a b = compared op b a := by
  rw [compared, compared, order?_swap b a, Comparator.holdsFor_flip]

/-- On integers a comparison is that of integers. -/
theorem compared_ofInt (op : Comparator) (a b : Int) :
    compared op (ofInt a) (ofInt b) = op.holds a b := by
  have h : order? (ofInt a) (ofInt b) = some (cmp a b) := by
    simp only [order?, ofInt, Option.pure_def, Option.bind_eq_bind, Option.bind_some]
    congr 1
    simp only [cmp, cmpUsing, WithBot.coe_lt_coe, WithTop.coe_lt_coe, Int.cast_lt]
  rw [compared, h, Comparator.holdsFor_cmp]

end Value

namespace Literal

/-- What a literal is. -/
def value : Literal → Value
  | integer v => .ofInt v
  | decimal x => .number x.quantity?
  | text s => .text s

/-- Whether a comparison holds between two literals. -/
def compared (op : Comparator) (a b : Literal) : Bool :=
  Value.compared op a.value b.value

/-- The comparison with its sides exchanged holds of the exchanged literals. -/
theorem compared_flip (op : Comparator) (a b : Literal) :
    compared op.flip a b = compared op b a :=
  Value.compared_flip op a.value b.value

/-- On integers a comparison is that of integers. -/
@[simp] theorem compared_integer (op : Comparator) (a b : Int) :
    compared op (integer a) (integer b) = op.holds a b :=
  Value.compared_ofInt op a b

end Literal

/-! ### Records -/

/-- A stored record: the values of its columns, in order. -/
abbrev Row : Type := List Int

/-- The value of a column.  A column that the record does not have reads as zero. -/
def Row.value (r : Row) (n : Nat) : Int :=
  r.getD n 0

/-- Whether a record meets a condition. -/
def Comparison.holds (c : Comparison) (r : Row) : Bool :=
  Literal.compared c.op (.integer (r.value c.column)) c.literal

/-- Whether a record meets all conditions of a query. -/
def Resolved.admits (q : Resolved) (r : Row) : Bool :=
  q.predicates.all fun c => c.holds r

end Query

end SqlPipeline
