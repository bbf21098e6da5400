/-
**Signs never take an integer out of 64 bits.**

The digits of a number are read first, and signs are applied afterwards, from the inside to the
outside: each minus sign is a negation in 64 bits that nothing checks.  Of the integers of 64 bits
only the least one has no negation, and it is the only one that digits without a sign cannot write.
Here the literal of an expression is given by the digits and by the number of minus signs around
them, however signs and parentheses are nested, so the least integer never occurs; and it follows
which comparisons of a query have no inclusive bound.

Main definitions:

* `Sql.Token.Unsigned` — a number is read as a row of digits, if it has no point and no exponent;
* `Sql.Expr.unsigned`, `Sql.Expr.minusSigns` — an expression without the signs and parentheses
  around it, and the number of minus signs among them;
* `Query.Literal.signed` — a literal after a number of minus signs.

Main results:

* `Sql.unsigned_of_tokens?` — numbers of a text have no sign;
* `Query.denotes_iff_signed` — the literal of an expression is its number with its signs;
* `Query.toInt_neg_of_inRange` — the negation in 64 bits is the negation;
* `Plan.Filter.overflows_iff` — only `>` with the greatest integer has no inclusive bound;
* `Query.signed_integers` — **signs are exact, and only one comparison overflows**.
-/

import Mathlib.Data.Nat.Digits.Defs
import SqlPipeline.Proofs.Classification

set_option autoImplicit false

namespace SqlPipeline

open Journal Query Outcome

/-! ### Numbers of a text -/

namespace Sql

/-- A number without a point and without an exponent is a row of digits. -/
def Token.Unsigned (t : Token) : Prop :=
  ∀ text long, t = .number text long → isDecimalText text = false →
    text ≠ "" ∧ ∀ c ∈ text.toList, c.isDigit = true

/-- An exponent begins with its letter. -/
theorem exists_exponentRun {cs e r : List Char} (h : exponentRun cs = some (e, r)) :
    ∃ c ∈ e, (c == '.' || c == 'e' || c == 'E') = true := by
  unfold exponentRun at h
  split at h
  · next c cs =>
      split at h
      · next hc =>
          simp only [Option.ite_none_left_eq_some, Option.some.injEq, Prod.mk.injEq] at h
          obtain ⟨-, rfl, -⟩ := h
          exact ⟨c, List.mem_cons_self, by simpa [or_assoc] using Or.inr hc⟩
      · cases h
  · cases h

theorem isDecimalText_ofList {cs : List Char} :
    isDecimalText (String.ofList cs) = false ↔
      ∀ c ∈ cs, (c == '.' || c == 'e' || c == 'E') = false := by
  simp [isDecimalText]

/-- A token that begins with a digit or a point; no other is a number. -/
theorem unsigned_numberToken {c : Char} {cs : List Char} (hc : (c.isDigit || c == '.') = true) :
    (numberToken (c :: cs)).1.Unsigned := by
  intro text long h hd
  have hdigits : ∀ d ∈ (c :: cs).takeWhile Char.isDigit, d.isDigit = true :=
    fun d hd => List.mem_takeWhile_imp hd
  have hsome : (c :: cs).takeWhile Char.isDigit = [] →
      ∃ r, (c :: cs).dropWhile Char.isDigit = '.' :: r := by
    intro hnil
    have hdigit : c.isDigit = false := by simpa using hnil
    obtain rfl : c = '.' := by simpa [hdigit] using hc
    exact ⟨cs, rfl⟩
  unfold numberToken at h
  dsimp only at h
  generalize (c :: cs).takeWhile Char.isDigit = whole at *
  generalize (c :: cs).dropWhile Char.isDigit = rest at *
  split at h
  · cases h
  · split at h
    · -- there is a point among the characters, whatever follows
      next r _ =>
        split at h
        · cases h
        · split at h
          all_goals
            obtain ⟨rfl, -⟩ := Token.number.inj h
            have hpoint := isDecimalText_ofList.1 hd '.' (by split <;> simp)
            cases hpoint
    · -- without a point, only an exponent can follow the digits
      next hpoint =>
        split at h
        · cases h
        · split at h
          all_goals
            obtain ⟨rfl, -⟩ := Token.number.inj h
            cases hexponent : exponentRun rest with
            | some run =>
                obtain ⟨d, hd', hmark⟩ := exists_exponentRun hexponent
                have hplain := isDecimalText_ofList.1 hd d (by simp [hexponent, hd'])
                rw [hmark] at hplain
                cases hplain
            | none =>
                dsimp only
                refine ⟨fun hnil => ?_, by simpa using hdigits⟩
                obtain ⟨r, hr⟩ := hsome (by simpa using hnil)
                exact hpoint r hr

theorem unsigned_wordToken (first cs : List Char) : (wordToken first cs).1.Unsigned := by
  rintro text long ⟨⟩

theorem unsigned_literalToken {form : StringForm} {run : Option (List Char × List Char)} {t : Token}
    {r : List Char} (h : literalToken form run = some (t, r)) : t.Unsigned := by
  obtain ⟨⟨v, rest⟩, -, h⟩ := Option.map_eq_some_iff.1 h
  cases h
  rintro text long ⟨⟩

theorem unsigned_letterToken {c : Char} {cs r : List Char} {t : Token}
    (h : letterToken c cs = some (t, r)) : t.Unsigned := by
  have raw : ∀ q cs, rawToken q cs = some (t, r) → t.Unsigned := by
    intro q cs h
    unfold rawToken at h
    split at h
    · exact unsigned_literalToken h
    · cases h
      rintro text long ⟨⟩
    · exact unsigned_literalToken h
  unfold letterToken at h
  split at h
  case h_3 => exact raw _ _ h
  case h_4 => exact raw _ _ h
  case h_9 =>
    cases h
    exact unsigned_wordToken _ _
  all_goals exact unsigned_literalToken h

theorem unsigned_dollarToken {cs r : List Char} {t : Token} (h : dollarToken cs = some (t, r)) :
    t.Unsigned := by
  unfold dollarToken at h
  dsimp only at h
  split at h
  · exact unsigned_literalToken h
  · cases h
    rintro text long ⟨⟩

theorem unsigned_hashToken (cs : List Char) : (hashToken cs).1.Unsigned := by
  unfold hashToken
  split <;> rintro text long ⟨⟩

theorem unsigned_atToken (cs : List Char) : (atToken cs).1.Unsigned := by
  unfold atToken
  split <;> rintro text long ⟨⟩

theorem unsigned_symbolToken (cs : List Char) : (symbolToken cs).1.Unsigned := by
  unfold symbolToken
  split <;> rintro text long ⟨⟩

theorem unsigned_lexStep {cs r : List Char} {t : Token} (h : lexStep cs = some (some t, r)) :
    t.Unsigned := by
  unfold lexStep at h
  dsimp only at h
  cases cs with
  | nil => cases h
  | cons c cs =>
      dsimp only at h
      -- by the first character, in the order in which it is looked at
      rcases ite_eq_iff.1 h with ⟨-, h⟩ | ⟨-, h⟩
      · cases h
      rcases ite_eq_iff.1 h with ⟨-, h⟩ | ⟨-, h⟩
      · obtain ⟨⟨t', r'⟩, ht, heq⟩ := Option.map_eq_some_iff.1 h
        cases heq
        exact unsigned_letterToken ht
      rcases ite_eq_iff.1 h with ⟨hc, h⟩ | ⟨-, h⟩
      · cases h
        exact unsigned_numberToken hc
      rcases ite_eq_iff.1 h with ⟨-, h⟩ | ⟨-, h⟩
      · obtain ⟨_, -, heq⟩ := Option.map_eq_some_iff.1 h
        cases heq
        rintro text long ⟨⟩
      rcases ite_eq_iff.1 h with ⟨-, h⟩ | ⟨-, h⟩
      · obtain ⟨_, -, heq⟩ := Option.map_eq_some_iff.1 h
        cases heq
        rintro text long ⟨⟩
      rcases ite_eq_iff.1 h with ⟨-, h⟩ | ⟨-, h⟩
      · cases h
        exact unsigned_hashToken cs
      rcases ite_eq_iff.1 h with ⟨-, h⟩ | ⟨-, h⟩
      · cases h
        exact unsigned_atToken cs
      rcases ite_eq_iff.1 h with ⟨-, h⟩ | ⟨-, h⟩
      · cases h
        rintro text long ⟨⟩
      rcases ite_eq_iff.1 h with ⟨-, h⟩ | ⟨-, h⟩
      · obtain ⟨⟨t', r'⟩, ht, heq⟩ := Option.map_eq_some_iff.1 h
        cases heq
        exact unsigned_dollarToken ht
      rcases ite_eq_iff.1 h with ⟨-, h⟩ | ⟨-, h⟩
      · cases h
      rcases ite_eq_iff.1 h with ⟨-, h⟩ | ⟨-, h⟩
      · obtain ⟨_, -, heq⟩ := Option.map_eq_some_iff.1 h
        cases heq
      · cases h
        exact unsigned_symbolToken _

theorem unsigned_tokensFrom {fuel : Nat} {cs : List Char} {ts : List Token}
    (h : tokensFrom fuel cs = some ts) : ∀ t ∈ ts, t.Unsigned := by
  fun_induction tokensFrom fuel cs generalizing ts with
  | case1 =>
      cases h
      exact List.forall_mem_nil _
  | case2 => cases h
  | case3 => cases h
  | case4 fuel cs hcs r hstep ih => exact ih h
  | case5 fuel cs hcs t r hstep ih =>
      obtain ⟨ts', hts', rfl⟩ := Option.map_eq_some_iff.1 h
      exact List.forall_mem_cons.2 ⟨unsigned_lexStep hstep, ih hts'⟩

/-- **The numbers of a text have no sign**: signs are tokens of their own. -/
theorem unsigned_of_tokens? {s : String} {ts : List Token} (h : tokens? s = some ts) :
    ∀ t ∈ ts, t.Unsigned :=
  unsigned_tokensFrom h

/-! ### Signs and parentheses -/

namespace Expr

/-- The expression without the signs and parentheses around it. -/
def unsigned : Expr → Expr
  | sign _ e => e.unsigned
  | nested e => e.unsigned
  | e => e

/-- The number of minus signs around the expression. -/
def minusSigns : Expr → Nat
  | sign true e => e.minusSigns + 1
  | sign false e => e.minusSigns
  | nested e => e.minusSigns
  | _ => 0

end Expr

end Sql

namespace Query

open Sql

/-- A literal after a number of minus signs: an even number of them changes nothing. -/
def Literal.signed (minuses : Nat) : Literal → Literal
  | integer v => integer (if minuses % 2 = 0 then v else -v)
  | decimal x => decimal (if minuses % 2 = 0 then x else x.neg)
  | text s => text s

/-- One more minus sign is a negation. -/
theorem Literal.neg?_signed {text : String} {l : Literal} (h : numberLiteral text = .ok l)
    (minuses : Nat) : (l.signed minuses).neg? = some (l.signed (minuses + 1)) := by
  cases l with
  | integer v =>
      rcases Nat.mod_two_eq_zero_or_one minuses with hm | hm <;>
        simp [signed, neg?, Nat.add_mod, hm]
  | decimal x =>
      rcases Nat.mod_two_eq_zero_or_one minuses with hm | hm <;>
        simp [signed, neg?, Nat.add_mod, hm]
  | text s =>
      -- a number is no text
      have hdenotes : Denotes (.number text false) (.text s) := numberLiteral_eq_ok.1 h
      cases hdenotes

/-- A number keeps its value through signs and parentheses, up to its sign. -/
theorem denotes_signed {e : Expr} {text : String} {long : Bool} {l : Literal}
    (he : e.unsigned = .number text long) (hl : numberLiteral text = .ok l) :
    Denotes e (l.signed e.minusSigns) := by
  induction e with
  | number t b =>
      cases he
      have hsame : l.signed 0 = l := by cases l <;> rfl
      show Denotes _ (l.signed 0)
      rw [hsame]
      exact numberLiteral_eq_ok.1 hl
  | nested e ih => exact .nested (ih he)
  | sign negative e ih =>
      cases negative with
      | false => exact .plus (ih he)
      | true => exact denotes_minus.2 ⟨_, ih he, Literal.neg?_signed hl _⟩
  | _ => cases he

/-- A literal that is no text is a number with signs and parentheses around it. -/
theorem exists_number_of_denotes {e : Expr} {l : Literal} (h : Denotes e l)
    (hl : ∀ s, l ≠ .text s) : ∃ text long l', e.unsigned = .number text long ∧
      numberLiteral text = .ok l' ∧ l = l'.signed e.minusSigns := by
  induction h with
  | @integer text long hd hr =>
      exact ⟨text, long, _, rfl, numberLiteral_of_integer hd hr, rfl⟩
  | @decimal text long x hd hx =>
      exact ⟨text, long, _, rfl, numberLiteral_of_decimal hd hx, rfl⟩
  | string s => exact absurd rfl (hl s)
  | @minusInteger e v _ ih =>
      obtain ⟨text, long, l₀, he, hnumber, hv⟩ := ih (by simp)
      have hneg : (Literal.integer v).neg? = some (.integer (-v)) := rfl
      rw [hv, Literal.neg?_signed hnumber, Option.some.injEq] at hneg
      exact ⟨text, long, l₀, he, hnumber, hneg.symm⟩
  | @minusDecimal e x _ ih =>
      obtain ⟨text, long, l₀, he, hnumber, hx⟩ := ih (by simp)
      have hneg : (Literal.decimal x).neg? = some (.decimal x.neg) := rfl
      rw [hx, Literal.neg?_signed hnumber, Option.some.injEq] at hneg
      exact ⟨text, long, l₀, he, hnumber, hneg.symm⟩
  | plus _ ih => exact ih hl
  | nested _ ih => exact ih hl

/-- **The literal of an expression is its number with its signs.** -/
theorem denotes_iff_signed {e : Expr} {l : Literal} (hl : ∀ s, l ≠ .text s) :
    Denotes e l ↔ ∃ text long l', e.unsigned = .number text long ∧
      numberLiteral text = .ok l' ∧ l = l'.signed e.minusSigns := by
  refine ⟨fun h => exists_number_of_denotes h hl, ?_⟩
  rintro ⟨text, long, l', he, hnumber, rfl⟩
  exact denotes_signed he hnumber

theorem literal?_eq_integer {e : Expr} {v : Int} :
    literal? e = .ok (some (.integer v)) ↔ ∃ text long, e.unsigned = .number text long ∧
      isDecimalText text = false ∧ numeral text ≤ maxInteger ∧
      v = if e.minusSigns % 2 = 0 then (numeral text : Int) else -(numeral text : Int) := by
  rw [literal?_eq_some, denotes_iff_signed (by simp)]
  simp only [isDecimalText_eq_false, le_maxInteger]
  constructor
  · rintro ⟨text, long, l, he, hnumber, hv⟩
    refine ⟨text, long, he, ?_⟩
    have hdenotes : Denotes (.number text long) l := numberLiteral_eq_ok.1 hnumber
    cases hdenotes with
    | integer hd hr => exact ⟨hd, hr, Literal.integer.inj hv⟩
    | decimal _ _ => cases hv
  · rintro ⟨text, long, he, hd, hr, rfl⟩
    exact ⟨text, long, _, he, numberLiteral_of_integer hd hr, rfl⟩

theorem literal?_eq_decimal {e : Expr} {x : Binary64} :
    literal? e = .ok (some (.decimal x)) ↔ ∃ text long y, e.unsigned = .number text long ∧
      isDecimalText text = true ∧ Binary64.ofText? text = some y ∧
      x = if e.minusSigns % 2 = 0 then y else y.neg := by
  rw [literal?_eq_some, denotes_iff_signed (by simp)]
  simp only [isDecimalText_iff]
  constructor
  · rintro ⟨text, long, l, he, hnumber, hx⟩
    have hdenotes : Denotes (.number text long) l := numberLiteral_eq_ok.1 hnumber
    cases hdenotes with
    | integer _ _ => cases hx
    | @decimal _ _ y hd hy => exact ⟨text, long, y, he, hd, hy, Literal.decimal.inj hx⟩
  · rintro ⟨text, long, y, he, hd, hy, rfl⟩
    exact ⟨text, long, _, he, numberLiteral_of_decimal hd hy, rfl⟩

/-! ### Negation in 64 bits -/

/-- An integer in range has 64 bits and is not the least such integer, so its negation in 64 bits is
its negation. -/
theorem toInt_neg_of_inRange {v : Int} (h : (Literal.integer v).InRange) :
    (Int64.ofInt v).toInt = v ∧ Int64.ofInt v ≠ Int64.minValue ∧
      (-Int64.ofInt v).toInt = -v := by
  have hmax : maxInteger = 2 ^ 63 - 1 := rfl
  have hv : v.natAbs ≤ 2 ^ 63 - 1 := hmax ▸ h
  have hself : (Int64.ofInt v).toInt = v := Int64.toInt_ofInt_of_le (by omega) (by omega)
  refine ⟨hself, fun hmin => ?_, ?_⟩
  · have := congrArg Int64.toInt hmin
    rw [hself, Int64.toInt_minValue] at this
    omega
  · rw [Int64.toInt_neg, hself]
    exact Int.bmod_eq_of_le (by omega) (by omega)

end Query

/-! ### Inclusive bounds -/

namespace Plan

namespace Filter

variable {f : Filter}

/-- Of the comparisons with integers in range, only `>` with the greatest one has no inclusive
bound. -/
theorem overflows_iff (h : (Literal.integer f.value).InRange) :
    f.Overflows ↔ f.op = .gt ∧ f.value = 2 ^ 63 - 1 := by
  have hmax : maxInteger = 2 ^ 63 - 1 := rfl
  have hv : f.value.natAbs ≤ 2 ^ 63 - 1 := hmax ▸ h
  have hgt : isWord (f.value + 1) = false ↔ f.value = 2 ^ 63 - 1 := by
    rw [Bool.eq_false_iff]
    simp only [isWord, ne_eq, Bool.and_eq_true, decide_eq_true_eq]
    omega
  have hlt : isWord (f.value - 1) = true := by
    simp only [isWord, Bool.and_eq_true, decide_eq_true_eq]
    omega
  simp [Overflows, hgt, hlt]

/-- A comparison has no inclusive bound exactly if it overflows. -/
theorem bound?_eq_error {e : Fault} :
    f.bound? = .error e ↔ f.Overflows ∧ e = .types (.boundOverflow f.op f.value) := by
  constructor
  · intro h
    refine ⟨Classical.not_not.1 fun hover => ?_, f.ensures_bound?.2 e h⟩
    by_cases hne : f.op = .ne
    · rw [bound?_of_ne hne] at h
      cases h
    · rw [bound?_of_not_overflows hover hne] at h
      cases h
  · rintro ⟨hover, rfl⟩
    cases hb : f.bound? with
    | ok b => exact absurd hover (not_overflows_of_bound? hb)
    | error e => rw [f.ensures_bound?.2 e hb]

end Filter

/-- A query whose comparisons overflow asks for one that does. -/
theorem Access.overflows_of_error {q : Resolved} {op : Comparator} {v : Int}
    (h : (Access.ofQuery q).run.value = .error (.types (.boundOverflow op v))) :
    ∃ f, q.Asks f ∧ f.Overflows ∧ f.op = op ∧ f.value = v := by
  generalize he : Fault.types (.boundOverflow op v) = e at h
  cases (ensures_unreached q).2 e h with
  | shape _ => cases he
  | literal _ => cases he
  | @bound f _ hf hfails =>
      rcases hfails with hbound | ⟨b, hkey⟩
      · obtain ⟨hover, rfl⟩ := Filter.bound?_eq_error.1 hbound
        cases he
        exact ⟨f, hf, hover, rfl, rfl⟩
      · rw [(f.ensures_keyBound b).2 e hkey] at he
        cases he

end Plan

namespace Query

open Sql

/-- **Signs before a number are exact, and only one comparison overflows.**  A number of a text has
no sign of its own.  The literal of an expression is the number inside all signs and parentheses,
negated exactly if the number of minus signs is odd.  It is never the least integer of 64 bits, so
one more minus sign is its negation in 64 bits.  Of the comparisons of a query, exactly `>` with the
greatest integer has no inclusive bound, and no other is blamed for it. -/
theorem signed_integers :
    (∀ s ts text long, tokens? s = some ts → .number text long ∈ ts →
      isDecimalText text = false → text ≠ "" ∧ ∀ c ∈ text.toList, c.isDigit = true) ∧
    (∀ e v, literal? e = .ok (some (.integer v)) ↔ ∃ text long, e.unsigned = .number text long ∧
      isDecimalText text = false ∧ numeral text ≤ 2 ^ 63 - 1 ∧
      v = if e.minusSigns % 2 = 0 then (numeral text : Int) else -(numeral text : Int)) ∧
    (∀ e x, literal? e = .ok (some (.decimal x)) ↔ ∃ text long y,
      e.unsigned = .number text long ∧ isDecimalText text = true ∧
      Binary64.ofText? text = some y ∧ x = if e.minusSigns % 2 = 0 then y else y.neg) ∧
    (∀ e v, literal? e = .ok (some (.integer v)) →
      (-(2 ^ 63 - 1) ≤ v ∧ v ≤ 2 ^ 63 - 1) ∧
      (Int64.ofInt v).toInt = v ∧ Int64.ofInt v ≠ Int64.minValue ∧
      (-Int64.ofInt v).toInt = -v ∧
      literal? (.sign true e) = .ok (some (.integer (-Int64.ofInt v).toInt))) ∧
    ∀ catalog text q, ofText catalog text = .ok q →
      (∀ f e, q.Asks f → (f.bound? = .error e ↔
        f.op = .gt ∧ f.value = 2 ^ 63 - 1 ∧ e = .types (.boundOverflow .gt (2 ^ 63 - 1)))) ∧
      ∀ op v, (Plan.Access.ofQuery q).run.value = .error (.types (.boundOverflow op v)) →
        op = .gt ∧ v = 2 ^ 63 - 1 ∧ ∃ n, q.Asks ⟨n, .gt, 2 ^ 63 - 1⟩ := by
  refine ⟨fun s ts text long hts hmem hd => unsigned_of_tokens? hts _ hmem text long rfl hd,
    fun e v => literal?_eq_integer, fun e x => literal?_eq_decimal, fun e v he => ?_,
    fun catalog text q hq => ?_⟩
  · have hrange := inRange_of_denotes (literal?_eq_some.1 he)
    obtain ⟨hself, hmin, hneg⟩ := toInt_neg_of_inRange hrange
    have hv : v.natAbs ≤ 2 ^ 63 - 1 := hrange
    refine ⟨⟨by omega, by omega⟩, hself, hmin, hneg, ?_⟩
    rw [hneg, literal?, he]
    rfl
  · have hrange := (inRange_of_ofText hq).predicates
    refine ⟨fun f e hf => ?_, fun op v h => ?_⟩
    · rw [Plan.Filter.bound?_eq_error, Plan.Filter.overflows_iff (hrange _ hf), and_assoc]
      refine and_congr_right fun hop => and_congr_right fun hv => ?_
      rw [hop, hv]
    · obtain ⟨f, hf, hover, rfl, rfl⟩ := Plan.Access.overflows_of_error h
      obtain ⟨hop, hv⟩ := (Plan.Filter.overflows_iff (hrange _ hf)).1 hover
      refine ⟨hop, hv, f.column, ?_⟩
      rw [← hop, ← hv]
      exact hf

/-- The greatest integer after three minus signs. -/
def thriceNegated : Expr :=
  .sign true (.nested (.sign true (.sign false (.nested (.sign true
    (.number "9223372036854775807" false))))))

/-- A comparison of the key with the greatest integer, which stands on the left and has signs. -/
def beyondText : String :=
  "SELECT id FROM samples WHERE -(-9223372036854775807) < id"

/-- The query that the text stands for. -/
def beyond : Resolved :=
  { Resolved.ofTable samples with
    predicates := [⟨0, .gt, .integer 9223372036854775807⟩]
    projections := [{ name := "id", kind := .column 0 }] }

theorem ofText_beyondText : ofText samplesCatalog beyondText = .ok beyond := by
  decide +kernel

theorem access_beyond : Plan.Access.ofQuery beyond
    = Plan.Access.ofFilters beyond.hints [⟨0, .gt, 9223372036854775807⟩] := rfl

theorem signed_integers_beyond :
    literal? thriceNegated = .ok (some (.integer (-9223372036854775807))) ∧
    literal? (.sign true thriceNegated) = .ok (some (.integer 9223372036854775807)) ∧
    (Plan.Access.ofQuery beyond).run.value
      = .error (.types (.boundOverflow .gt 9223372036854775807)) ∧
    ∃ n, beyond.Asks ⟨n, .gt, 9223372036854775807⟩ := by
  obtain ⟨-, hinteger, -, hneg, hquery⟩ := signed_integers
  have hthrice : literal? thriceNegated = .ok (some (.integer (-9223372036854775807))) :=
    (hinteger _ _).2 ⟨"9223372036854775807", false, rfl, by decide +kernel, by decide +kernel,
      by decide +kernel⟩
  have hbeyond : (Plan.Access.ofQuery beyond).run.value
      = .error (.types (.boundOverflow .gt 9223372036854775807)) := by
    rw [access_beyond, Plan.Access.ofFilters, Plan.Access.candidates_of_pairwise (by decide)]
    rfl
  refine ⟨hthrice, ?_, hbeyond, ?_⟩
  · obtain ⟨-, -, -, hopposite, hsign⟩ := hneg _ _ hthrice
    rw [hsign, hopposite]
    rfl
  · exact ((hquery _ _ _ ofText_beyondText).2 _ _ hbeyond).2.2

end Query

end SqlPipeline
