/-
The values of strings that allow escapes.

* `Sql.quotedRun` — the characters up to a closing quote; a doubled quote stands for one, and a
  backslash may give the next character another meaning;
* `Sql.escapedRun` — the same with characters by their numbers after a backslash;
* `Sql.numberedRun` — the same where every backslash is followed by a number;
* `Sql.taggedRun` — the characters up to a closing tag between dollar signs.

Each of them gives the value and the text after it, or `none` if the string is not closed or an
escape in it names no character.  An escape of several characters is passed over by a count of
those that are still to be dropped, so that every function recurses on the text.
-/

import SqlPipeline.Text.Numeral

set_option autoImplicit false

namespace SqlPipeline.Sql

open Text

def withChar (c : Char) (r : Option (List Char × List Char)) : Option (List Char × List Char) :=
  r.map fun (v, rest) => (c :: v, rest)

/-! ### Quotes -/

/-- The character that stands for a letter after a backslash. -/
def controlOf (c : Char) : Char :=
  match c with
  | '0' => '\x00'
  | 'a' => '\x07'
  | 'b' => '\x08'
  | 'f' => '\x0c'
  | 'n' => '\n'
  | 'r' => '\r'
  | 't' => '\t'
  | 'Z' => '\x1a'
  | c => c

/-- The value up to the closing quote `q`, and the text after it.  A doubled quote is one quote
of the value; `escapes` says whether a backslash has a meaning. -/
def quotedRun (q : Char) (escapes : Bool) : List Char → Option (List Char × List Char)
  | [] => none
  | [c] => if c == q then some ([], []) else none
  | c :: d :: cs =>
    if c == q then
      if d == q then withChar q (quotedRun q escapes cs) else some ([], d :: cs)
    else if escapes && c == '\\' then withChar (controlOf d) (quotedRun q escapes cs)
    else withChar c (quotedRun q escapes (d :: cs))

/-- The text before and after the first place where `mark` stands. -/
def splitAtMark (mark : List Char) : List Char → Option (List Char × List Char)
  | [] => none
  | c :: cs =>
    if mark.isPrefixOf (c :: cs) then some ([], (c :: cs).drop mark.length)
    else withChar c (splitAtMark mark cs)

/-! ### Characters by their numbers -/

def charOf? (n : Nat) : Option Char :=
  if n.isValidChar then some (Char.ofNat n) else none

/-- The character of a byte, of which the lowest eight bits count; only ASCII characters are one
byte. -/
def byteChar? (n : Nat) : Option Char :=
  if n % 256 < 128 then some (Char.ofNat (n % 256)) else none

/-- The character whose number the next `width` characters write in base sixteen; a plus sign may
stand before the digits. -/
def wideChar? (width : Nat) (cs : List Char) : Option Char :=
  if cs.length < width then none
  else
    match cs.take width with
    | '+' :: ds => (ofHexDigits? ds).bind charOf?
    | ds => (ofHexDigits? ds).bind charOf?

def isOctalDigit (c : Char) : Bool :=
  '0' ≤ c && c ≤ '7'

def ofOctalDigits (cs : List Char) : Nat :=
  cs.foldl (fun n c => 8 * n + (c.toNat - 48)) 0

/-- The character of an escape after its backslash, and the number of characters it takes. -/
def escape? : List Char → Option (Char × Nat)
  | [] => none
  | 'b' :: _ => some ('\x08', 1)
  | 'f' :: _ => some ('\x0c', 1)
  | 'n' :: _ => some ('\n', 1)
  | 'r' :: _ => some ('\r', 1)
  | 't' :: _ => some ('\t', 1)
  | 'u' :: cs => (wideChar? 4 cs).map (·, 5)
  | 'U' :: cs => (wideChar? 8 cs).map (·, 9)
  | 'x' :: cs =>
    let ds := (cs.take 2).takeWhile isHexDigit
    if ds.isEmpty then some ('x', 1)
    else ((ofHexDigits? ds).bind byteChar?).map (·, ds.length + 1)
  | c :: cs =>
    if isOctalDigit c then
      let ds := c :: (cs.take 2).takeWhile isOctalDigit
      (byteChar? (ofOctalDigits ds)).map (·, ds.length)
    else some (c, 1)

/-- The value of a string with escapes, after `skip` characters of an escape that has been read.
No escape stands for the character with number zero. -/
def escapedRun : Nat → List Char → Option (List Char × List Char)
  | _, [] => none
  | skip + 1, _ :: cs => escapedRun skip cs
  | 0, c :: cs =>
    if c == '\'' then
      if cs.head? == some '\'' then withChar '\'' (escapedRun 1 cs) else some ([], cs)
    else if c == '\\' then
      match escape? cs with
      | some (e, taken) => if e.toNat == 0 then none else withChar e (escapedRun taken cs)
      | none => none
    else withChar c (escapedRun 0 cs)

/-- The character whose number the next `width` digits of base sixteen write. -/
def numberedChar? (width : Nat) (cs : List Char) : Option Char :=
  if cs.length < width then none else (ofHexDigits? (cs.take width)).bind charOf?

/-- The value of a string with characters by their numbers, after `skip` characters of one that
has been read. -/
def numberedRun : Nat → List Char → Option (List Char × List Char)
  | _, [] => none
  | skip + 1, _ :: cs => numberedRun skip cs
  | 0, c :: cs =>
    if c == '\'' then
      if cs.head? == some '\'' then withChar '\'' (numberedRun 1 cs) else some ([], cs)
    else if c == '\\' then
      match cs with
      | '\\' :: _ => withChar '\\' (numberedRun 1 cs)
      | '+' :: ds =>
        match numberedChar? 6 ds with
        | some e => withChar e (numberedRun 7 cs)
        | none => none
      | ds =>
        match numberedChar? 4 ds with
        | some e => withChar e (numberedRun 4 cs)
        | none => none
    else withChar c (numberedRun 0 cs)

/-! ### Tags -/

/-- The value up to a dollar sign, the tag and another dollar sign; `skip` characters of the value
are passed over as they are.  A dollar sign that begins no closing tag belongs to the value, with
the part of the tag that follows it and the character at which that part ends. -/
def taggedRun (tag : List Char) : Nat → List Char → Option (List Char × List Char)
  | _, [] => none
  | skip + 1, c :: cs => withChar c (taggedRun tag skip cs)
  | 0, c :: cs =>
    if c == '$' then
      let same := ((tag.zip cs).takeWhile fun (a, b) => a == b).length
      if same < tag.length then withChar c (taggedRun tag (same + 1) cs)
      else if cs[same]? == some '$' then some ([], cs.drop (same + 1))
      else withChar c (taggedRun tag same cs)
    else withChar c (taggedRun tag 0 cs)

end SqlPipeline.Sql
