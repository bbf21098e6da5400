/-
**A condition on records is the list of its comparisons.**

`Query.Scope.conditions` takes a condition apart along its `AND`s and parentheses and turns each
part into a comparison of a column with a literal.  Here the condition is given a truth value of
its own, part by part and without looking at the list, and the two are compared.  Names, digits and
signs have their own meaning in it: a name has the letters of a column, digits write a number in
base ten, and a minus sign negates the number after it.

Main definitions:

* `Query.Scope.Names`, `Query.Denotes` — an expression names a column, or is a literal;
* `Query.Scope.Compares` — an expression compares a column with a literal, on whichever side they
  stand;
* `Query.conjuncts` — the parts of a condition that its `AND`s join, from left to right;
* `Query.Scope.value?`, `Query.Scope.truth?` — the value of an operand and the truth of a condition
  on a record.

Main results:

* `Query.Scope.conditions_eq_ok` — a condition is taken apart into comparisons exactly when each
  of its parts is one;
* `Query.Scope.truth?_of_compares` — the truth of a condition is that of its comparisons;
* `Query.Scope.conditions_preserve_truth` — **the list means what the condition means**, and a
  condition with any other part is refused.
-/

import SqlPipeline.Proofs.Outcome
import SqlPipeline.Proofs.Truth
import SqlPipeline.Proofs.Written
import SqlPipeline.Query.Resolve

set_option autoImplicit false

namespace SqlPipeline.Query

open Sql Outcome

/-! ### Literals -/

/-- An expression is a literal: a number in range or a string, with signs before a number and
parentheses around it. -/
inductive Denotes : Expr → Literal → Prop
  | integer {text : String} {long : Bool} : ¬ IsDecimal text → numeral text < 2 ^ 63 →
      Denotes (.number text long) (.integer (numeral text))
  | decimal {text : String} {long : Bool} {x : Binary64} : IsDecimal text →
      Binary64.ofText? text = some x → Denotes (.number text long) (.decimal x)
  | string (s : String) : Denotes (.string s) (.text s)
  | minusInteger {e : Expr} {v : Int} : Denotes e (.integer v) →
      Denotes (.sign true e) (.integer (-v))
  | minusDecimal {e : Expr} {x : Binary64} : Denotes e (.decimal x) →
      Denotes (.sign true e) (.decimal x.neg)
  | plus {e : Expr} {l : Literal} : Denotes e l → Denotes (.sign false e) l
  | nested {e : Expr} {l : Literal} : Denotes e l → Denotes (.nested e) l

theorem le_maxInteger {n : Nat} : n ≤ maxInteger ↔ n < 2 ^ 63 := by
  have hmax : maxInteger = 2 ^ 63 - 1 := rfl
  omega

theorem numberLiteral_of_integer {text : String} (hd : ¬ IsDecimal text)
    (hr : numeral text < 2 ^ 63) : numberLiteral text = .ok (.integer (numeral text)) := by
  rw [numberLiteral, if_neg (mt isDecimalText_iff.1 hd), digitsNumber_eq_numeral,
    if_pos (le_maxInteger.2 hr)]

theorem numberLiteral_of_decimal {text : String} {x : Binary64} (hd : IsDecimal text)
    (hx : Binary64.ofText? text = some x) : numberLiteral text = .ok (.decimal x) := by
  rw [numberLiteral, if_pos (isDecimalText_iff.2 hd), hx]

theorem numberLiteral_eq_ok {text : String} {long : Bool} {l : Literal} :
    numberLiteral text = .ok l ↔ Denotes (.number text long) l := by
  constructor
  · intro h
    rw [numberLiteral, digitsNumber_eq_numeral] at h
    split at h
    · next hd =>
        split at h
        · next x hx =>
            cases h
            exact .decimal (isDecimalText_iff.1 hd) hx
        · cases h
    · next hd =>
        split at h
        · next hr =>
            cases h
            exact .integer (mt isDecimalText_iff.2 hd) (le_maxInteger.1 hr)
        · cases h
  · rintro (⟨hd, hr⟩ | ⟨hd, hx⟩)
    · exact numberLiteral_of_integer hd hr
    · exact numberLiteral_of_decimal hd hx

/-- A minus sign negates the number after it. -/
theorem denotes_minus {e : Expr} {l' : Literal} :
    Denotes (.sign true e) l' ↔ ∃ l, Denotes e l ∧ l.neg? = some l' := by
  constructor
  · rintro (_ | _ | _ | h | h)
    · exact ⟨_, h, rfl⟩
    · exact ⟨_, h, rfl⟩
  · rintro ⟨l, h, hn⟩
    cases l with
    | integer v =>
        cases hn
        exact .minusInteger h
    | decimal x =>
        cases hn
        exact .minusDecimal h
    | text s => cases hn

/-- The reader of literals finds exactly the literals. -/
theorem literal?_eq_some {e : Expr} {l : Literal} : literal? e = .ok (some l) ↔ Denotes e l := by
  induction e generalizing l with
  | number text long =>
      simp only [literal?, bind_eq_ok, pure_eq_ok, Option.some.injEq, exists_eq_right]
      exact numberLiteral_eq_ok
  | string s =>
      simp only [literal?, pure_eq_ok, Option.some.injEq]
      constructor
      · rintro rfl
        exact .string s
      · rintro ⟨⟩
        rfl
  | nested e ih =>
      rw [literal?, ih]
      exact ⟨.nested, fun h => by cases h; assumption⟩
  | sign negative e ih =>
      cases negative with
      | false =>
          rw [literal?, ih]
          exact ⟨.plus, fun h => by cases h; assumption⟩
      | true =>
          simp only [literal?, bind_eq_ok, pure_eq_ok, Option.bind_eq_some_iff, denotes_minus]
          constructor
          · rintro ⟨_, h, l', rfl, hn⟩
            exact ⟨l', ih.1 h, hn⟩
          · rintro ⟨l', h, hn⟩
            exact ⟨_, ih.2 h, l', rfl, hn⟩
  | _ =>
      simp only [literal?, pure_eq_ok]
      constructor <;> rintro ⟨⟩

namespace Scope

/-! ### Columns -/

/-- An expression names a column of the table, possibly qualified by the name of the table. -/
inductive Names (s : Scope) : Expr → Nat → Prop
  | plain {i : Ident} {n : Nat} : s.table.columnCalled? i.value = some n → Names s (.ident i) n
  | qualified {q c : Ident} {n : Nat} : s.Refers [q] →
      s.table.columnCalled? c.value = some n → Names s (.path [q, c]) n
  | nested {e : Expr} {n : Nat} : Names s e n → Names s (.nested e) n

theorem named_eq_ok {s : Scope} {name : String} {n : Nat} :
    s.named name = .ok n ↔ s.table.columnCalled? name = some n := by
  rw [named, Catalog.Table.column?_eq_columnCalled?]
  cases s.table.columnCalled? name <;> simp

theorem qualified_eq_ok {s : Scope} {names : List Ident} {n : Nat} :
    s.qualified names = .ok n ↔ Names s (.path names) n := by
  unfold qualified
  constructor
  · intro h
    split at h
    · next q c =>
        split at h
        · next hq => exact .qualified (refers_singleton.2 hq) (named_eq_ok.1 h)
        · cases h
    · cases h
  · rintro (_ | ⟨hq, hc⟩)
    simp only [refers_singleton.1 hq, if_true, named_eq_ok.2 hc]

/-- The reader of names finds exactly the names of columns. -/
theorem column?_eq_some {s : Scope} {e : Expr} {n : Nat} :
    s.column? e = .ok (some n) ↔ Names s e n := by
  induction e with
  | ident i =>
      simp only [column?, bind_eq_ok, pure_eq_ok, Option.some.injEq, exists_eq_right, named_eq_ok]
      exact ⟨.plain, fun h => by cases h; assumption⟩
  | path names =>
      simp only [column?, bind_eq_ok, pure_eq_ok, Option.some.injEq, exists_eq_right,
        qualified_eq_ok]
  | nested e ih =>
      rw [column?, ih]
      exact ⟨.nested, fun h => by cases h; assumption⟩
  | _ =>
      simp only [column?, pure_eq_ok]
      constructor <;> rintro ⟨⟩

/-- A literal names no column. -/
theorem column?_of_denotes {s : Scope} {e : Expr} {l : Literal} (h : Denotes e l) :
    s.column? e = .ok none := by
  induction h with
  | nested _ ih => rw [column?, ih]
  | _ => rfl

end Scope

/-- The name of a column is no literal. -/
theorem literal?_of_names {s : Scope} {e : Expr} {n : Nat} (h : s.Names e n) :
    literal? e = .ok none := by
  induction h with
  | nested _ ih => rw [literal?, ih]
  | _ => rfl

/-! ### Comparisons -/

namespace Scope

/-- An expression compares a column with a literal.  If the literal stands on the left, the
comparison of the column with it has its sides exchanged. -/
inductive Compares (s : Scope) : Expr → Comparison → Prop
  | columnFirst {op : Comparator} {l r : Expr} {n : Nat} {v : Literal} : s.Names l n →
      Denotes r v → Compares s (.binary (.compare op) l r) ⟨n, op, v⟩
  | literalFirst {op : Comparator} {l r : Expr} {n : Nat} {v : Literal} : Denotes l v →
      s.Names r n → Compares s (.binary (.compare op) l r) ⟨n, op.flip, v⟩

theorem isSubquery_of_names {s : Scope} {e : Expr} {n : Nat} (h : s.Names e n) :
    e.isSubquery = false := by
  cases h <;> rfl

end Scope

theorem isSubquery_of_denotes {e : Expr} {l : Literal} (h : Denotes e l) :
    e.isSubquery = false := by
  cases h <;> rfl

namespace Scope

theorem comparison_of_names {s : Scope} {op : Comparator} {l r : Expr} {text : String} {n : Nat}
    {v : Literal} (hl : s.Names l n) (hr : Denotes r v) :
    s.comparison op l r text = .ok ⟨n, op, v⟩ := by
  simp only [comparison, isSubquery_of_names hl, isSubquery_of_denotes hr, column?_eq_some.2 hl,
    literal?_eq_some.2 hr]
  rfl

theorem comparison_of_denotes {s : Scope} {op : Comparator} {l r : Expr} {text : String} {n : Nat}
    {v : Literal} (hl : Denotes l v) (hr : s.Names r n) :
    s.comparison op l r text = .ok ⟨n, op.flip, v⟩ := by
  simp only [comparison, isSubquery_of_denotes hl, isSubquery_of_names hr, column?_eq_some.2 hr,
    literal?_eq_some.2 hl, column?_of_denotes hl, literal?_of_names hr]
  rfl

/-- A comparison is taken exactly if it compares a column with a literal. -/
theorem comparison_eq_ok {s : Scope} {op : Comparator} {l r : Expr} {text : String}
    {c : Comparison} :
    s.comparison op l r text = .ok c ↔ s.Compares (.binary (.compare op) l r) c := by
  constructor
  · intro h
    unfold comparison at h
    split at h
    · cases h
    · simp only [bind_eq_ok] at h
      obtain ⟨leftColumn, hlc, rightLiteral, hrl, h⟩ := h
      split at h
      · obtain rfl := pure_eq_ok.1 h
        exact .columnFirst (column?_eq_some.1 hlc) (literal?_eq_some.1 hrl)
      · simp only [bind_eq_ok] at h
        obtain ⟨leftLiteral, hll, rightColumn, hrc, h⟩ := h
        split at h
        · obtain rfl := pure_eq_ok.1 h
          exact .literalFirst (literal?_eq_some.1 hll) (column?_eq_some.1 hrc)
        · cases h
  · rintro (⟨hl, hr⟩ | ⟨hl, hr⟩)
    · exact comparison_of_names hl hr
    · exact comparison_of_denotes hl hr

end Scope

/-! ### Conjunctions -/

/-- The parts of a condition that its `AND`s join, from left to right. -/
def conjuncts : Expr → List Expr
  | .nested e => conjuncts e
  | .binary .and l r => conjuncts l ++ conjuncts r
  | e => [e]

/-- The parts of a list that stand in a relation to the parts of two lists joined. -/
theorem forall₂_append_left {α β : Type} {R : α → β → Prop} {a b : List α} {cs : List β} :
    List.Forall₂ R (a ++ b) cs ↔
      ∃ u v, List.Forall₂ R a u ∧ List.Forall₂ R b v ∧ cs = u ++ v := by
  constructor
  · intro h
    refine ⟨cs.take a.length, cs.drop a.length, ?_, ?_, (List.take_append_drop _ _).symm⟩
    · exact (List.forall₂_take_append _ _ _ h.flip).flip
    · exact (List.forall₂_drop_append _ _ _ h.flip).flip
  · rintro ⟨u, v, hu, hv, rfl⟩
    exact List.rel_append hu hv

namespace Scope

/-- **A condition is taken apart into comparisons exactly when each of its parts is one.** -/
theorem conditions_eq_ok {s : Scope} {e : Expr} {cs : List Comparison} :
    s.conditions e = .ok cs ↔ List.Forall₂ s.Compares (conjuncts e) cs := by
  induction e generalizing cs with
  | nested e ih => exact ih
  | binary op l r ihl ihr =>
      cases op with
      | and =>
          simp only [conditions, conjuncts, bind_eq_ok, pure_eq_ok, ihl, ihr, forall₂_append_left]
          grind
      | compare op =>
          simp only [conditions_compare, conjuncts, bind_eq_ok, pure_eq_ok, comparison_eq_ok,
            List.forall₂_cons_left_iff, List.forall₂_nil_left_iff]
          grind
      | _ =>
          constructor
          · rintro ⟨⟩
          · rintro (_ | ⟨hc, -⟩)
            cases hc
  | _ =>
      constructor
      · rintro ⟨⟩
      · rintro (_ | ⟨hc, -⟩)
        cases hc

/-! ### Truth -/

/-- The value of an operand on a record, if it is a number, a string or a column, with signs before
a number and parentheses around it. -/
def value? (s : Scope) (r : Row) : Expr → Option Value
  | .number text _ =>
    if IsDecimal text then (Binary64.ofText? text).map fun x => .number x.quantity?
    else some (.ofInt (numeral text))
  | .string t => some (.text t)
  | .sign true e => (s.value? r e).bind Value.neg?
  | .sign false e => s.value? r e
  | .nested e => s.value? r e
  | .ident i => (s.table.columnCalled? i.value).map fun n => .ofInt (r.value n)
  | .path [q, c] =>
    if s.Refers [q] then (s.table.columnCalled? c.value).map fun n => .ofInt (r.value n) else none
  | _ => none

/-- The truth of a condition on a record, if it is made of comparisons by `AND` and `OR`. -/
def truth? (s : Scope) (r : Row) : Expr → Option Bool
  | .nested e => s.truth? r e
  | .binary .and l e => do return (← s.truth? r l) && (← s.truth? r e)
  | .binary .or l e => do return (← s.truth? r l) || (← s.truth? r e)
  | .binary (.compare op) l e => do return Value.compared op (← s.value? r l) (← s.value? r e)
  | _ => none

theorem value?_of_names {s : Scope} {r : Row} {e : Expr} {n : Nat} (h : s.Names e n) :
    s.value? r e = some (.ofInt (r.value n)) := by
  induction h with
  | plain hc => rw [value?, hc, Option.map_some]
  | qualified hq hc => rw [value?, if_pos hq, hc, Option.map_some]
  | nested _ ih => exact ih

theorem value?_of_denotes {s : Scope} {r : Row} {e : Expr} {l : Literal} (h : Denotes e l) :
    s.value? r e = some l.value := by
  induction h with
  | integer hd _ =>
      rw [value?, if_neg hd]
      rfl
  | decimal hd hx =>
      rw [value?, if_pos hd, hx]
      rfl
  | string _ => rfl
  | @minusInteger _ v _ ih =>
      rw [value?, ih, Option.bind_some]
      exact Value.neg?_ofInt v
  | @minusDecimal _ x _ ih =>
      rw [value?, ih, Option.bind_some, Literal.value, Literal.value, Binary64.quantity?_neg]
      rfl
  | plus _ ih => exact ih
  | nested _ ih => exact ih

/-- A part of a condition is true exactly if its comparison holds. -/
theorem truth?_of_compares {s : Scope} {r : Row} {e : Expr} {c : Comparison}
    (h : s.Compares e c) : s.truth? r e = some (c.holds r) := by
  cases h with
  | columnFirst hl hr =>
      rw [truth?, value?_of_names hl, value?_of_denotes hr]
      rfl
  | @literalFirst op _ _ n v hl hr =>
      rw [truth?, value?_of_denotes hl, value?_of_names hr]
      show some (Value.compared op v.value (.ofInt (r.value n))) = _
      rw [← Value.compared_flip]
      rfl

/-- A condition is true exactly if the comparisons of all its parts hold. -/
theorem truth?_of_forall₂ {s : Scope} {r : Row} {e : Expr} {cs : List Comparison}
    (h : List.Forall₂ s.Compares (conjuncts e) cs) :
    s.truth? r e = some (cs.all fun c => c.holds r) := by
  -- a part that is no conjunction stands alone in the list of parts
  have part : ∀ {e : Expr} {cs : List Comparison}, List.Forall₂ s.Compares [e] cs →
      s.truth? r e = some (cs.all fun c => c.holds r) := by
    rintro e cs (_ | ⟨hc, ⟨⟩⟩)
    rw [truth?_of_compares hc, List.all_cons, List.all_nil, Bool.and_true]
  induction e generalizing cs with
  | nested e ih => exact ih h
  | binary op l e ihl ihe =>
      cases op with
      | and =>
          obtain ⟨u, v, hu, hv, rfl⟩ := forall₂_append_left.1 h
          rw [truth?, ihl hu, ihe hv, List.all_append]
          rfl
      | _ => exact part h
  | _ => exact part h

/-- **The list of comparisons means what the condition means**: there is one comparison for each
part that the `AND`s of the condition join, in the order of the parts, and the condition is true
of a record exactly if all of them hold.  A condition with an `OR`, or with any other part that
does not compare a column with a literal, is refused as a whole. -/
theorem conditions_preserve_truth (s : Scope) (e : Expr) :
    (∀ cs, s.conditions e = .ok cs ↔ List.Forall₂ s.Compares (conjuncts e) cs) ∧
    (∀ cs, s.conditions e = .ok cs → ∀ r, s.truth? r e = some (cs.all fun c => c.holds r)) ∧
    (∀ x ∈ conjuncts e, (∀ c, ¬ s.Compares x c) → ∃ f, s.conditions e = .error f) ∧
    (∀ l r, .binary .or l r ∈ conjuncts e → ∃ f, s.conditions e = .error f) := by
  have refused : ∀ x ∈ conjuncts e, (∀ c, ¬ s.Compares x c) →
      ∃ f, s.conditions e = .error f := by
    intro x hx hc
    cases h : s.conditions e with
    | error f => exact ⟨f, rfl⟩
    | ok cs =>
        obtain ⟨c, hxc⟩ := exists_of_forall₂ (conditions_eq_ok.1 h) hx
        exact absurd hxc (hc c)
  refine ⟨fun cs => conditions_eq_ok, ?_, refused, ?_⟩
  · intro cs h r
    exact truth?_of_forall₂ (conditions_eq_ok.1 h)
  · intro l r hx
    exact refused _ hx fun c hc => by cases hc

/-- A table of readings, under another name. -/
def readings : Scope where
  table :=
    { name := "Readings"
      columns := [⟨"id", .int32⟩, ⟨"temp", .int64⟩, ⟨"hum", .int32⟩] }
  label := some "r"

/-- The condition `-(-5) < R.temp AND (readings.HUM <> - +3)`. -/
def warmCondition : Expr :=
  .binary .and
    (.binary (.compare .lt) (.sign true (.nested (.sign true (.number "5" false))))
      (.path [⟨"R", none⟩, ⟨"temp", none⟩]))
    (.nested (.binary (.compare .ne) (.path [⟨"readings", none⟩, ⟨"HUM", none⟩])
      (.sign true (.sign false (.number "3" false)))))

/-- Signs are folded, a comparison with its literal on the left is turned round, and names are found
whatever their case; with an `OR` among its parts the condition is refused. -/
theorem conditions_preserve_truth_warmCondition :
    readings.conditions warmCondition = .ok [⟨1, .gt, .integer 5⟩, ⟨2, .ne, .integer (-3)⟩] ∧
    readings.truth? [0, 6, 3] warmCondition = some true ∧
    readings.truth? [0, 5, 3] warmCondition = some false ∧
    readings.truth? [0, 6, -3] warmCondition = some false ∧
    ∃ f, readings.conditions
      (.binary .and warmCondition (.nested (.binary .or warmCondition warmCondition)))
        = .error f := by
  have hconditions : readings.conditions warmCondition
      = .ok [⟨1, .gt, .integer 5⟩, ⟨2, .ne, .integer (-3)⟩] := by decide +kernel
  obtain ⟨-, htruth, -, -⟩ := conditions_preserve_truth readings warmCondition
  obtain ⟨-, -, -, hor⟩ := conditions_preserve_truth readings
    (.binary .and warmCondition (.nested (.binary .or warmCondition warmCondition)))
  refine ⟨hconditions, ?_, ?_, ?_, hor warmCondition warmCondition (by simp [conjuncts])⟩
  all_goals
    rw [htruth _ hconditions]
    simp only [Comparison.holds, List.all_cons, List.all_nil, Literal.compared_integer]
    decide

end Scope

end SqlPipeline.Query
