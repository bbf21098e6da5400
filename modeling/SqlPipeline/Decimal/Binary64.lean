/-
Decimal literals denote double-precision binary numbers.

* `Binary64` — a number `± mantissa · 2 ^ exponent`, an infinity, or no number at all;
* `Binary64.ofDecimal` — the number nearest to `± digits · 10 ^ scale`, ties to the even mantissa;
* `Binary64.ofText?` — the number a decimal text denotes;
* `Binary64.neg` and the comparison `==`, for which the two zeros are equal and `nan` is not equal
  to itself.

A finite number in normal form has a mantissa below `2 ^ 53` and an exponent of at least `-1074`,
and the mantissa is at least `2 ^ 52` unless the exponent is `-1074`.  `ofDecimal` produces this
form, so that equal numbers of one sign have equal mantissas and exponents.
-/

set_option autoImplicit false

namespace SqlPipeline

/-- A double-precision number. -/
inductive Binary64 where
  | nan
  | infinite (negative : Bool)
  /-- The number `± mantissa · 2 ^ exponent`. -/
  | finite (negative : Bool) (mantissa : Nat) (exponent : Int)
  deriving DecidableEq, Repr, Inhabited

namespace Binary64

/-- The least exponent of a number in normal form. -/
def minExponent : Int := -1074

/-- The greatest exponent of a finite number in normal form. -/
def maxExponent : Int := 971

def zero (negative : Bool) : Binary64 :=
  .finite negative 0 minExponent

def neg : Binary64 → Binary64
  | nan => nan
  | infinite s => infinite !s
  | finite s m e => finite (!s) m e

/-- Equality of values: the two zeros are equal, and `nan` equals nothing. -/
def sameValue : Binary64 → Binary64 → Bool
  | infinite s, infinite t => s == t
  | finite s m e, finite t n f => (m == 0 && n == 0) || (s == t && m == n && e == f)
  | _, _ => false

instance : BEq Binary64 := ⟨sameValue⟩

def isFinite : Binary64 → Bool
  | finite .. => true
  | _ => false

@[simp] theorem neg_neg (x : Binary64) : x.neg.neg = x := by
  cases x <;> simp [neg]

/-! ### The nearest number -/

/-- The quotient `num / den` rounded to the nearest natural number, ties to the even one. -/
def roundDiv (num den : Nat) : Nat :=
  let q := num / den
  let r := num % den
  if 2 * r < den then q else if den < 2 * r then q + 1 else if q % 2 = 0 then q else q + 1

/-- The quotient `num / den` over `2 ^ e`, as a quotient of natural numbers. -/
def scaled (num den : Nat) (e : Int) : Nat × Nat :=
  if 0 ≤ e then (num, den * Nat.pow 2 e.toNat) else (num * Nat.pow 2 (-e).toNat, den)

/-- The exponent that gives the positive quotient `num / den` a mantissa of 53 bits, or the
least exponent if that is greater. -/
def exponentOf (num den : Nat) : Int :=
  let k : Int := (Nat.log2 num : Int) - (Nat.log2 den : Int) - 52
  let s := scaled num den k
  let e := if s.1 / s.2 < Nat.pow 2 52 then k - 1 else k
  if e < minExponent then minExponent else e

/-- The number nearest to the quotient `num / den`. -/
def ofQuotient (negative : Bool) (num den : Nat) : Binary64 :=
  if num = 0 then zero negative
  else
    let e := exponentOf num den
    let s := scaled num den e
    let m := roundDiv s.1 s.2
    let (m, e) := if m = Nat.pow 2 53 then (Nat.pow 2 52, e + 1) else (m, e)
    if maxExponent < e then infinite negative else finite negative m e

/-- The number nearest to `± digits · 10 ^ scale`.  Every number of more than 310 places before
the point is infinite, and every number whose first digit stands beyond the 330th place after
it is zero, so no larger power of ten is formed. -/
def ofDecimal (negative : Bool) (digits : Nat) (scale : Int) : Binary64 :=
  let places : Int := (Nat.toDigits 10 digits).length
  if digits = 0 then zero negative
  else if 310 < places + scale then infinite negative
  else if places + scale < -330 then zero negative
  else if 0 ≤ scale then ofQuotient negative (digits * Nat.pow 10 scale.toNat) 1
  else ofQuotient negative digits (Nat.pow 10 (-scale).toNat)

/-! ### Reading -/

def digitsValue (cs : List Char) : Nat :=
  cs.foldl (fun n c => 10 * n + (c.toNat - 48)) 0

/-- Reads an unsigned number of digits, a point and an exponent; at least one digit stands
before or after the point, and at least one in an exponent that is begun. -/
def ofUnsigned? (negative : Bool) (cs : List Char) : Option Binary64 :=
  let whole := cs.takeWhile Char.isDigit
  let rest := cs.dropWhile Char.isDigit
  let (frac, rest) :=
    match rest with
    | '.' :: r => (r.takeWhile Char.isDigit, r.dropWhile Char.isDigit)
    | r => ([], r)
  if whole.isEmpty && frac.isEmpty then none
  else
    let digits := digitsValue (whole ++ frac)
    let shift : Int := -(frac.length : Int)
    match rest with
    | [] => some (ofDecimal negative digits shift)
    | e :: r =>
      if e == 'e' || e == 'E' then
        let (down, r) :=
          match r with
          | '-' :: r => (true, r)
          | '+' :: r => (false, r)
          | r => (false, r)
        if r.isEmpty || !r.all Char.isDigit then none
        else
          let n : Int := digitsValue r
          some (ofDecimal negative digits (shift + if down then -n else n))
      else none

/-- The number a text denotes: a decimal number with an optional sign, or the word for an
infinity or for `nan` in any case of letters. -/
def ofText? (s : String) : Option Binary64 :=
  let (negative, cs) :=
    match s.toList with
    | '-' :: r => (true, r)
    | '+' :: r => (false, r)
    | r => (false, r)
  let word := String.ofList (cs.map Char.toLower)
  if word == "inf" || word == "infinity" then some (infinite negative)
  else if word == "nan" then some nan
  else ofUnsigned? negative cs

end Binary64

end SqlPipeline
