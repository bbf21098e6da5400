/-
JSON values, and reading them.

* `Json.Value` — a value.  A string is `none` if it holds half of a surrogate pair, which is no
  text;
* `Json.string?` — a string, after its opening quote;
* `Json.read?` — the value of a text.
-/

import SqlPipeline.Text.Numeral

set_option autoImplicit false

namespace SqlPipeline.Json

open Text (hexValue?)

/-- A JSON value. -/
inductive Value where
  | null
  | bool (b : Bool)
  | number (text : String)
  | string (s : Option String)
  | array (vs : List Value)
  | object (ms : List (Option String × Value))
  deriving Repr, Inhabited

/-! ### Blanks and numbers -/

def skipBlanks (cs : List Char) : List Char :=
  cs.dropWhile fun c => c == ' ' || c == '\n' || c == '\t' || c == '\r'

/-- The digits at the head of a list, of which there must be one. -/
def digits? (cs : List Char) : Option (List Char × List Char) :=
  if (cs.takeWhile Char.isDigit).isEmpty then none
  else some (cs.takeWhile Char.isDigit, cs.dropWhile Char.isDigit)

/-- The integer part of a number: a zero alone, or digits that do not begin with one. -/
def integer? (cs : List Char) : Option (List Char × List Char) := do
  let (ds, rest) ← digits? cs
  if 1 < ds.length && ds.head? == some '0' then none else some (ds, rest)

def fraction? : List Char → Option (List Char × List Char)
  | '.' :: cs => do
    let (ds, rest) ← digits? cs
    return ('.' :: ds, rest)
  | cs => some ([], cs)

def exponent? : List Char → Option (List Char × List Char)
  | e :: cs =>
    if e == 'e' || e == 'E' then
      match cs with
      | '+' :: cs => do
        let (ds, rest) ← digits? cs
        return (e :: '+' :: ds, rest)
      | '-' :: cs => do
        let (ds, rest) ← digits? cs
        return (e :: '-' :: ds, rest)
      | cs => do
        let (ds, rest) ← digits? cs
        return (e :: ds, rest)
    else some ([], e :: cs)
  | [] => some ([], [])

/-- A number without its sign. -/
def unsigned? (cs : List Char) : Option (List Char × List Char) := do
  let (i, cs) ← integer? cs
  let (f, cs) ← fraction? cs
  let (e, cs) ← exponent? cs
  return (i ++ f ++ e, cs)

def number? : List Char → Option (Value × List Char)
  | '-' :: cs => do
    let (n, rest) ← unsigned? cs
    return (.number (String.ofList ('-' :: n)), rest)
  | cs => do
    let (n, rest) ← unsigned? cs
    return (.number (String.ofList n), rest)

/-! ### Strings -/

/-- The number that four hexadecimal digits denote. -/
def unit? : List Char → Option (Nat × List Char)
  | a :: b :: c :: d :: cs => do
    let a ← hexValue? a
    let b ← hexValue? b
    let c ← hexValue? c
    let d ← hexValue? d
    return (((a * 16 + b) * 16 + c) * 16 + d, cs)
  | _ => none

/-- The character that a letter after a backslash stands for. -/
def escape? (c : Char) : Option Char :=
  match c with
  | '"' => some '"'
  | '\\' => some '\\'
  | '/' => some '/'
  | 'b' => some (Char.ofNat 8)
  | 'f' => some (Char.ofNat 12)
  | 'n' => some '\n'
  | 'r' => some '\r'
  | 't' => some '\t'
  | _ => none

/-- Whether a number is the first half of a surrogate pair. -/
def isHigh (n : Nat) : Bool :=
  0xD800 ≤ n && n < 0xDC00

def isLow (n : Nat) : Bool :=
  0xDC00 ≤ n && n < 0xE000

/-- The character of a surrogate pair. -/
def pairChar (high low : Nat) : Char :=
  Char.ofNat (0x10000 + (high - 0xD800) * 0x400 + (low - 0xDC00))

/-- The second half of a surrogate pair, if it is next. -/
def lowUnit? : List Char → Option (Nat × List Char)
  | '\\' :: 'u' :: cs => do
    let (n, rest) ← unit? cs
    if isLow n then some (n, rest) else none
  | _ => none

/-- A string after its opening quote, with what was read of it in reverse. -/
def stringFrom : Nat → Option (List Char) → List Char → Option (Option String × List Char)
  | 0, _, _ => none
  | _ + 1, _, [] => none
  | _ + 1, read, '"' :: cs => some (read.map fun r => String.ofList r.reverse, cs)
  | fuel + 1, read, '\\' :: 'u' :: cs => do
    let (n, cs) ← unit? cs
    if isHigh n then
      match lowUnit? cs with
      | some (low, cs) => stringFrom fuel (read.map (pairChar n low :: ·)) cs
      | none => stringFrom fuel none cs
    else if isLow n then stringFrom fuel none cs
    else stringFrom fuel (read.map (Char.ofNat n :: ·)) cs
  | fuel + 1, read, '\\' :: c :: cs => do
    let e ← escape? c
    stringFrom fuel (read.map (e :: ·)) cs
  | fuel + 1, read, c :: cs =>
    if c.toNat < 32 then none else stringFrom fuel (read.map (c :: ·)) cs

/-- A string after its opening quote, and what follows it. -/
def string? (cs : List Char) : Option (Option String × List Char) :=
  stringFrom (cs.length + 1) (some []) cs

/-! ### Values -/

mutual

/-- A value, and what follows it. -/
def value? : Nat → List Char → Option (Value × List Char)
  | 0, _ => none
  | fuel + 1, cs =>
    match skipBlanks cs with
    | 'n' :: 'u' :: 'l' :: 'l' :: cs => some (.null, cs)
    | 't' :: 'r' :: 'u' :: 'e' :: cs => some (.bool true, cs)
    | 'f' :: 'a' :: 'l' :: 's' :: 'e' :: cs => some (.bool false, cs)
    | '"' :: cs => do
      let (s, rest) ← string? cs
      return (.string s, rest)
    | '[' :: cs =>
      match skipBlanks cs with
      | ']' :: cs => some (.array [], cs)
      | cs => do
        let (vs, rest) ← elements? fuel cs
        return (.array vs, rest)
    | '\x7b' :: cs =>
      match skipBlanks cs with
      | '\x7d' :: cs => some (.object [], cs)
      | cs => do
        let (ms, rest) ← members? fuel cs
        return (.object ms, rest)
    | cs => number? cs

/-- The elements of an array, up to the closing bracket. -/
def elements? : Nat → List Char → Option (List Value × List Char)
  | 0, _ => none
  | fuel + 1, cs => do
    let (v, cs) ← value? fuel cs
    match skipBlanks cs with
    | ',' :: cs =>
      let (vs, rest) ← elements? fuel cs
      return (v :: vs, rest)
    | ']' :: cs => return ([v], cs)
    | _ => none

def members? : Nat → List Char → Option (List (Option String × Value) × List Char)
  | 0, _ => none
  | fuel + 1, cs =>
    match skipBlanks cs with
    | '"' :: cs => do
      let (k, cs) ← string? cs
      match skipBlanks cs with
      | ':' :: cs =>
        let (v, cs) ← value? fuel cs
        match skipBlanks cs with
        | ',' :: cs =>
          let (ms, rest) ← members? fuel cs
          return ((k, v) :: ms, rest)
        | '\x7d' :: cs => return ([(k, v)], cs)
        | _ => none
      | _ => none
    | _ => none

end

/-- The value of a text, which holds nothing else. -/
def read? (s : String) : Option Value := do
  let (v, rest) ← value? (2 * s.length + 2) s.toList
  if (skipBlanks rest).isEmpty then some v else none

end SqlPipeline.Json
