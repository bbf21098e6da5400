/-
**When two output columns compute the same.**

Output columns, expressions and literals are compared with `==`, which compares decimals as
numbers: the two zeros are equal, and what is not a number is not equal to itself.  So `==` is no
equivalence, and equal values need not be the same; it is symmetric and transitive all the same,
which is what finding repeated output columns rests on.

* `Query.Literal.Same`, `Query.Scalar.Same`, `Query.Kind.Same` — equality of values, case by case,
  with `Query.Scalar.same_iff` and its likes: this is what `==` decides;
* `PartialEquivBEq` — **equality of values is symmetric and transitive**;
* `Binary64.beq_self_iff` — every number but `nan` is equal to itself.
-/

import SqlPipeline.Query.Projection

set_option autoImplicit false

namespace SqlPipeline

/-! ### Numbers and literals -/

namespace Binary64

instance : PartialEquivBEq Binary64 where
  symm {a b} h := by
    change sameValue a b = true at h
    change sameValue b a = true
    cases a <;> cases b <;> grind [sameValue]
  trans {a b c} hab hbc := by
    change sameValue a b = true at hab
    change sameValue b c = true at hbc
    change sameValue a c = true
    cases a <;> cases b <;> cases c <;> grind [sameValue]

theorem beq_self_iff {x : Binary64} : (x == x) = true ↔ x ≠ nan := by
  change sameValue x x = true ↔ x ≠ nan
  cases x <;> simp [sameValue]

end Binary64

namespace Query

/-- Two literals that are equal as values. -/
inductive Literal.Same : Literal → Literal → Prop
  | integer (v : Int) : Same (.integer v) (.integer v)
  | decimal {x y : Binary64} (h : (x == y) = true) : Same (.decimal x) (.decimal y)
  | text (s : String) : Same (.text s) (.text s)

theorem Literal.same_iff {a b : Literal} : (a == b) = true ↔ a.Same b := by
  change instBEqLiteral.beq a b = true ↔ a.Same b
  constructor
  · intro h
    cases a <;> cases b <;> simp only [instBEqLiteral.beq, beq_iff_eq, Bool.false_eq_true] at h
    · exact h ▸ .integer _
    · exact .decimal h
    · exact h ▸ .text _
  · rintro (v | h | s)
    · exact beq_self_eq_true v
    · exact h
    · exact beq_self_eq_true s

instance : PartialEquivBEq Literal where
  symm h := by
    rw [Literal.same_iff] at h ⊢
    cases h with
    | decimal h => exact .decimal (PartialEquivBEq.symm h)
    | integer v => exact .integer v
    | text s => exact .text s
  trans hab hbc := by
    rw [Literal.same_iff] at hab hbc ⊢
    cases hab with
    | decimal h =>
        cases hbc with
        | decimal h' => exact .decimal (PartialEquivBEq.trans h h')
    | integer v => exact hbc
    | text s => exact hbc

/-! ### Expressions -/

/-- Two expressions of the same form, whose literals are equal as values. -/
inductive Scalar.Same : Scalar → Scalar → Prop
  | column (n : Nat) : Same (.column n) (.column n)
  | literal {l l' : Literal} (h : (l == l') = true) : Same (.literal l) (.literal l')
  | apply (f : String) {a b : Scalar} (h : Same a b) : Same (.apply f a) (.apply f b)
  | binary (op : ArithOp) {l l' r r' : Scalar} (hl : Same l l') (hr : Same r r') :
      Same (.binary op l r) (.binary op l' r')

namespace Scalar

theorem same_iff {a b : Scalar} : (a == b) = true ↔ a.Same b := by
  change instBEqScalar.beq a b = true ↔ a.Same b
  constructor
  · intro h
    fun_induction instBEqScalar.beq a b with
    | case1 m n => exact (beq_iff_eq.1 h) ▸ .column m
    | case2 l l' => exact .literal h
    | case3 f a g b ih =>
        obtain ⟨hname, harg⟩ := (Bool.and_eq_true _ _).mp h
        exact (beq_iff_eq.1 hname) ▸ .apply f (ih harg)
    | case4 op l r op' l' r' ihl ihr =>
        simp only [Bool.and_eq_true, beq_iff_eq] at h
        obtain ⟨rfl, hl, hr⟩ := h
        exact .binary op (ihl hl) (ihr hr)
    | case5 => cases h
  · intro h
    induction h with
    | column n => exact beq_self_eq_true n
    | literal h => exact h
    | apply f _ ih => simp [instBEqScalar.beq, ih]
    | binary op _ _ ihl ihr => simp [instBEqScalar.beq, ihl, ihr]

namespace Same

theorem symm {a b : Scalar} (h : Same a b) : Same b a := by
  induction h with
  | column n => exact .column n
  | literal h => exact .literal (PartialEquivBEq.symm h)
  | apply f _ ih => exact .apply f ih
  | binary op _ _ ihl ihr => exact .binary op ihl ihr

theorem trans {a b c : Scalar} (h : Same a b) (h' : Same b c) : Same a c := by
  induction h generalizing c with
  | column n => exact h'
  | literal h =>
      cases h' with
      | literal h' => exact .literal (PartialEquivBEq.trans h h')
  | apply f _ ih =>
      cases h' with
      | apply _ h' => exact .apply f (ih h')
  | binary op _ _ ihl ihr =>
      cases h' with
      | binary _ hl hr => exact .binary op (ihl hl) (ihr hr)

end Same

end Scalar

instance : PartialEquivBEq Scalar where
  symm h := Scalar.same_iff.2 (Scalar.same_iff.1 h).symm
  trans h h' := Scalar.same_iff.2 ((Scalar.same_iff.1 h).trans (Scalar.same_iff.1 h'))

/-! ### Output columns -/

/-- Two output columns that compute the same. -/
inductive Kind.Same : Kind → Kind → Prop
  | column (n : Nat) : Same (.column n) (.column n)
  | arithmetic {e e' : Scalar} (h : (e == e') = true) : Same (.arithmetic e) (.arithmetic e')
  | aggregate (call : AggregateCall) : Same (.aggregate call) (.aggregate call)
  | aliasOf (target : Nat) : Same (.aliasOf target) (.aliasOf target)

theorem Kind.same_iff {a b : Kind} : (a == b) = true ↔ a.Same b := by
  change instBEqKind.beq a b = true ↔ a.Same b
  constructor
  · intro h
    cases a <;> cases b <;> simp only [instBEqKind.beq, beq_iff_eq, Bool.false_eq_true] at h
    · exact h ▸ .column _
    · exact .arithmetic h
    · exact h ▸ .aggregate _
    · exact h ▸ .aliasOf _
  · rintro (n | h | call | target)
    · exact beq_self_eq_true n
    · exact h
    · exact beq_self_eq_true call
    · exact beq_self_eq_true target

theorem Kind.isAlias_of_beq {a b : Kind} (h : (a == b) = true) : a.isAlias = b.isAlias := by
  cases Kind.same_iff.1 h <;> rfl

instance : PartialEquivBEq Kind where
  symm h := by
    rw [Kind.same_iff] at h ⊢
    cases h with
    | arithmetic h => exact .arithmetic (PartialEquivBEq.symm h)
    | column n => exact .column n
    | aggregate call => exact .aggregate call
    | aliasOf target => exact .aliasOf target
  trans h h' := by
    rw [Kind.same_iff] at h h' ⊢
    cases h with
    | arithmetic h =>
        cases h' with
        | arithmetic h' => exact .arithmetic (PartialEquivBEq.trans h h')
    | column n => exact h'
    | aggregate call => exact h'
    | aliasOf target => exact h'

end Query

end SqlPipeline
