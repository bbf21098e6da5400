/-
The words, literals and symbols of SQL text.

* `Sql.StringForm` — the forms of a literal string other than plain single quotes;
* `Sql.Token` — a word with the quote it stands in, a number, a string, another literal, a
  placeholder, or a symbol by its spelling;
* `Sql.Token.keyword?` — an unquoted word in upper case: keywords are words without quotes, in
  any case of letters.
-/

set_option autoImplicit false

namespace SqlPipeline.Sql

/-! ### Literal strings -/

/-- A form of a literal string with a mark before its quote, or between marks of its own. -/
inductive StringForm where
  /-- Bytes: `B'x'`, in the given quote. -/
  | bytes (quote : Char)
  /-- A string without escapes: `R'x'`, in one quote or in three. -/
  | raw (quote : Char) (triple : Bool)
  /-- A string of the national character set: `N'x'`. -/
  | national
  /-- A number of base sixteen: `X'1F'`. -/
  | hex
  /-- A string with escapes after a backslash: `E'x'`. -/
  | escaped
  /-- A string with characters by their numbers: `U&'x'`. -/
  | numbered
  /-- A string between two equal tags of dollar signs: `$t$x$t$`. -/
  | tagged (tag : String)
  deriving DecidableEq, Repr, Inhabited

/-- A character of a string with escapes, in its normal form. -/
def escapedChar (c : Char) : String :=
  if c == '\'' then "\\'"
  else if c == '\\' then "\\\\"
  else if c == '\n' then "\\n"
  else if c == '\t' then "\\t"
  else if c == '\r' then "\\r"
  else String.singleton c

/-- A number in digits of base sixteen, in capital letters, with zeros before it up to the given
width. -/
def hexText (width n : Nat) : String :=
  let digits := (Nat.toDigits 16 n).map Char.toUpper
  String.ofList (List.replicate (width - digits.length) '0' ++ digits)

/-- A character of a string with characters by their numbers, in its normal form: a character
above U+007F is written by its number. -/
def numberedChar (c : Char) : String :=
  if c == '\'' then "''"
  else if c == '\\' then "\\\\"
  else if c.toNat < 0x80 then String.singleton c
  else if c.toNat ≤ 0xFFFF then "\\" ++ hexText 4 c.toNat
  else "\\+" ++ hexText 6 c.toNat

def StringForm.text (form : StringForm) (value : String) : String :=
  match form with
  | bytes q => "B" ++ String.singleton q ++ value ++ String.singleton q
  | raw q triple =>
    let quotes := String.ofList (List.replicate (if triple then 3 else 1) q)
    "R" ++ quotes ++ value ++ quotes
  | national => "N'" ++ value ++ "'"
  | hex => "X'" ++ value ++ "'"
  | escaped => "E'" ++ String.join (value.toList.map escapedChar) ++ "'"
  | numbered => "U&'" ++ String.join (value.toList.map numberedChar) ++ "'"
  | tagged tag => "$" ++ tag ++ "$" ++ value ++ "$" ++ tag ++ "$"

/-! ### Tokens -/

/-- A token of SQL text.  Blanks and comments are no tokens. -/
inductive Token where
  /-- A name or keyword, and the quote a quoted name stands in. -/
  | word (value : String) (quote : Option Char)
  /-- A number as written, and whether the suffix `L` follows it. -/
  | number (text : String) (long : Bool)
  /-- A string in single quotes, by its value. -/
  | string (value : String)
  /-- A string in another form, by its value. -/
  | literal (form : StringForm) (value : String)
  /-- A place for a value that is given later. -/
  | placeholder (text : String)
  | symbol (text : String)
  deriving DecidableEq, Repr, Inhabited

/-- The capital letters of a character.  Beside the letters `a` to `z` these are the few
letters and ligatures of other alphabets whose capitals are the letters `A` to `Z`. -/
def capitals (c : Char) : List Char :=
  if c.toNat < 0x80 then [c.toUpper]
  else match c.toNat with
    | 0xDF => ['S', 'S']
    | 0x131 => ['I']
    | 0x17F => ['S']
    | 0xFB00 => ['F', 'F']
    | 0xFB01 => ['F', 'I']
    | 0xFB02 => ['F', 'L']
    | 0xFB03 => ['F', 'F', 'I']
    | 0xFB04 => ['F', 'F', 'L']
    | 0xFB05 => ['S', 'T']
    | 0xFB06 => ['S', 'T']
    | _ => [c]

def capital (s : String) : String :=
  String.ofList (s.toList.flatMap capitals)

namespace Token

/-- The keyword a token can stand for: an unquoted word in capital letters. -/
def keyword? : Token → Option String
  | word v none => some (capital v)
  | _ => none

def isKeyword (k : String) (t : Token) : Bool :=
  t.keyword? == some k

/-- Whether a token is a word, quoted or not. -/
def isWord : Token → Bool
  | word _ _ => true
  | _ => false

end Token

end SqlPipeline.Sql
