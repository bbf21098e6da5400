/-
The text of a double-precision number: the fewest digits that read back as the number.

* `Binary64.Digits` — a positive number `0.d₁d₂… · 10 ^ point`;
* `Binary64.shortest` — of the decimal numbers with the fewest digits that round to a given
  number, the one nearest to it;
* `Binary64.layout` — positional notation with a digit on either side of the point from `0.0001`
  up to sixteen digits before the point, and an exponent outside;
* `Binary64.text` — the text of any number.

Every decimal number in the interval between the two midpoints around `m · 2 ^ e` rounds to it,
and the midpoints themselves do if `m` is even.  On the grid of `n` digits only the two
neighbours of the number have to be tried: if any grid point lies in the interval, one of
them does.
-/

import SqlPipeline.Decimal.Binary64

set_option autoImplicit false

namespace SqlPipeline.Binary64

/-- The digits of a positive number, and the power of ten its point stands at: the number is
`0.d₁d₂… · 10 ^ point`. -/
structure Digits where
  /-- The digits, the first of them not zero. -/
  digits : List Char
  /-- The number of digits before the point, if it is positive. -/
  point : Int
  deriving DecidableEq, Repr

/-- A positive rational number over the common denominator of one selection: the value and the
ends of the interval that rounds to it. -/
structure Interval where
  /-- The lower end, over `den`. -/
  low : Nat
  value : Nat
  high : Nat
  den : Nat
  /-- Whether the ends belong to the interval. -/
  closed : Bool

/-- The interval that rounds to `m · 2 ^ e`.  The gap below a power of two is half the gap
above it. -/
def interval (m : Nat) (e : Int) : Interval :=
  let narrow := m == Nat.pow 2 52 && minExponent < e
  let low := 4 * m - (if narrow then 1 else 2)
  let up := Nat.pow 2 (e - 2).toNat
  let down := Nat.pow 2 (2 - e).toNat
  ⟨low * up, 4 * m * up, (4 * m + 2) * up, down, m % 2 == 0⟩

def Interval.holds (i : Interval) (num den : Nat) : Bool :=
  let x := num * i.den
  if i.closed then i.low * den ≤ x && x ≤ i.high * den
  else i.low * den < x && x < i.high * den

/-- The number of digits before the point of `num / den`, or minus the number of zeros after
it: the `k` with `10 ^ (k - 1) ≤ num / den < 10 ^ k`.  The search starts from `k` and moves by
one place at a time. -/
def placesFrom (num den : Nat) : Nat → Int → Int
  | 0, k => k
  | fuel + 1, k =>
    if num * Nat.pow 10 (-k).toNat ≥ den * Nat.pow 10 k.toNat then placesFrom num den fuel (k + 1)
    else if num * Nat.pow 10 (1 - k).toNat < den * Nat.pow 10 (k - 1).toNat then
      placesFrom num den fuel (k - 1)
    else k

/-- The number of digits of `num / den` before the point. -/
def places (num den : Nat) : Int :=
  let guess : Int := (((Nat.log2 num : Int) - (Nat.log2 den : Int)) * 30103) / 100000
  placesFrom num den 8 guess

/-- A grid point as digits: trailing zeros dropped. -/
def gridDigits (c : Nat) (unit : Int) : Digits :=
  let ds := Nat.toDigits 10 c
  ⟨(ds.reverse.dropWhile (· == '0')).reverse, (ds.length : Int) + unit⟩

/-- The neighbour of the value on the grid `10 ^ unit` that rounds to it, the nearer of two,
and the upper one of two equally near. -/
def neighbour (i : Interval) (unit : Int) : Option Digits :=
  let num := Nat.pow 10 unit.toNat
  let den := Nat.pow 10 (-unit).toNat
  let c := (i.value * den) / (i.den * num)
  let lowIn := i.holds (c * num) den
  let highIn := i.holds ((c + 1) * num) den
  if lowIn && highIn then
    if 2 * (i.value * den) < (2 * c + 1) * (i.den * num) then some (gridDigits c unit)
    else some (gridDigits (c + 1) unit)
  else if lowIn then some (gridDigits c unit)
  else if highIn then some (gridDigits (c + 1) unit)
  else none

/-- The first grid of `n`, `n + 1`, … digits that has a neighbour rounding to the value. -/
def firstGrid (i : Interval) (k : Int) : Nat → Nat → Digits
  | 0, _ => ⟨[], k⟩
  | fuel + 1, n =>
    match neighbour i (k - n) with
    | some d => d
    | none => firstGrid i k fuel (n + 1)

/-- The fewest digits that read back as `m · 2 ^ e`, for a positive `m`. -/
def shortest (m : Nat) (e : Int) : Digits :=
  let i := interval m e
  firstGrid i (places i.value i.den) 17 1

/-! ### Layout -/

/-- Digits with the point among them, and at least one digit on either side of it. -/
def positional (d : Digits) : String :=
  if d.point ≤ 0 then
    "0." ++ String.ofList (List.replicate (-d.point).toNat '0' ++ d.digits)
  else
    let n := d.point.toNat
    let whole := d.digits.take n ++ List.replicate (n - d.digits.length) '0'
    let frac := d.digits.drop n
    String.ofList whole ++ "." ++ (if frac.isEmpty then "0" else String.ofList frac)

/-- Digits with the point after the first of them, and a power of ten. -/
def exponential (d : Digits) : String :=
  let head := String.ofList (d.digits.take 1)
  let tail := d.digits.drop 1
  head ++ (if tail.isEmpty then "" else "." ++ String.ofList tail) ++ "e" ++ toString (d.point - 1)

/-- Positional notation from `0.0001` up to sixteen digits before the point, an exponent
outside. -/
def layout (d : Digits) : String :=
  if -4 < d.point && d.point ≤ 16 then positional d else exponential d

/-- The text of a number: the fewest digits that read back, with a point or an exponent. -/
def text : Binary64 → String
  | nan => "NaN"
  | infinite s => if s then "-inf" else "inf"
  | finite s m e =>
    (if s then "-" else "") ++ (if m = 0 then "0.0" else layout (shortest m e))

end SqlPipeline.Binary64
