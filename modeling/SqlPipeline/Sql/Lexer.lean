/-
SQL text as a list of tokens.

* `Sql.skipBlock` — the text after a block comment; comments nest;
* `Sql.numberToken`, `Sql.wordToken`, `Sql.symbolToken` — one token at the head of the text;
* `Sql.tokens?` — all tokens of a text, or `none` if a string, a quoted name or a comment is not
  closed.

Each step takes at least one character, so a text has no more tokens than characters: this bounds
the recursion of `tokensFrom`.
-/

import SqlPipeline.Sql.Escape
import SqlPipeline.Sql.Token
import SqlPipeline.Text.Blank
import SqlPipeline.Text.Letter
import SqlPipeline.Text.Numeral

set_option autoImplicit false

namespace SqlPipeline.Sql

open Text

/-! ### Runs of characters -/

/-- The text after a block comment, inside `depth` further comments; `last` is the character
before. -/
def skipBlock : Nat → Char → List Char → Option (List Char)
  | _, _, [] => none
  | depth, last, c :: cs =>
    if last == '/' && c == '*' then skipBlock (depth + 1) c cs
    else if last == '*' && c == '/' then
      match depth with
      | 0 => some cs
      | d + 1 => skipBlock d c cs
    else skipBlock depth c cs

def startsWord (c : Char) : Bool :=
  isLetter c || c == '_'

def continuesWord (c : Char) : Bool :=
  isLetter c || c.isDigit || c == '@' || c == '$' || c == '#' || c == '_'

/-! ### Numbers -/

/-- The exponent at the head of the text: a letter `e`, a sign if there is one, and digits, of
which there must be one. -/
def exponentRun : List Char → Option (List Char × List Char)
  | e :: cs =>
    if e == 'e' || e == 'E' then
      let (sign, r) :=
        match cs with
        | '+' :: r => (['+'], r)
        | '-' :: r => (['-'], r)
        | r => ([], r)
      let digits := r.takeWhile Char.isDigit
      if digits.isEmpty then none else some (e :: sign ++ digits, r.dropWhile Char.isDigit)
    else none
  | [] => none

/-- The number, or the single point, at the head of the text.  After `0x` it is a literal of
base sixteen. -/
def numberToken (cs : List Char) : Token × List Char :=
  let whole := cs.takeWhile Char.isDigit
  let rest := cs.dropWhile Char.isDigit
  match whole, rest with
  | ['0'], 'x' :: r =>
    (.literal .hex (String.ofList (r.takeWhile isHexDigit)), r.dropWhile isHexDigit)
  | _, _ =>
    let (text, rest) :=
      match rest with
      | '.' :: r => (whole ++ '.' :: r.takeWhile Char.isDigit, r.dropWhile Char.isDigit)
      | r => (whole, r)
    if text == ['.'] then (.symbol ".", rest)
    else
      let (text, rest) :=
        match exponentRun rest with
        | some (e, r) => (text ++ e, r)
        | none => (text, rest)
      match rest with
      | 'L' :: r => (.number (String.ofList text) true, r)
      | r => (.number (String.ofList text) false, r)

/-! ### Words and literals -/

/-- The word that begins with the given characters and goes on in the text. -/
def wordToken (first : List Char) (cs : List Char) : Token × List Char :=
  (.word (String.ofList (first ++ cs.takeWhile continuesWord)) none, cs.dropWhile continuesWord)

/-- The literal string whose value and rest are given. -/
def literalToken (form : StringForm) (r : Option (List Char × List Char)) :
    Option (Token × List Char) :=
  r.map fun (v, rest) => (.literal form (String.ofList v), rest)

/-- A string without escapes, from its opening quote on: in one quote, or in three, and two quotes
are an empty one. -/
def rawToken (q : Char) (cs : List Char) : Option (Token × List Char) :=
  match (cs.take 3).takeWhile (· == q) with
  | [_] => literalToken (.raw q false) (quotedRun q false (cs.drop 1))
  | [_, _] => some (.literal (.raw q false) "", cs.drop 2)
  | _ => literalToken (.raw q true) (splitAtMark [q, q, q] (cs.drop 3))

/-- The literal or word that begins with a letter. -/
def letterToken (c : Char) (cs : List Char) : Option (Token × List Char) :=
  match c.toUpper, cs with
  | 'B', '\'' :: r => literalToken (.bytes '\'') (quotedRun '\'' false r)
  | 'B', '"' :: r => literalToken (.bytes '"') (quotedRun '"' false r)
  | 'R', '\'' :: _ => rawToken '\'' cs
  | 'R', '"' :: _ => rawToken '"' cs
  | 'N', '\'' :: r => literalToken .national (quotedRun '\'' true r)
  | 'E', '\'' :: r => literalToken .escaped (escapedRun 0 r)
  | 'U', '&' :: '\'' :: r => literalToken .numbered (numberedRun 0 r)
  | 'X', '\'' :: r => literalToken .hex (quotedRun '\'' true r)
  | _, _ => some (wordToken [c] cs)

/-- The text between two equal tags of dollar signs, or a placeholder, after the first dollar
sign. -/
def dollarToken (cs : List Char) : Option (Token × List Char) :=
  let inTag (c : Char) : Bool := isLetter c || isNumeral c || c == '_'
  let tag := cs.takeWhile inTag
  match cs.dropWhile inTag with
  | '$' :: r => literalToken (.tagged (String.ofList tag)) (taggedRun tag 0 r)
  | r => some (.placeholder ("$" ++ String.ofList tag), r)

/-! ### Symbols -/

/-- The token that begins with a number sign: an operator, or a word if any other character than a
space follows. -/
def hashToken : List Char → Token × List Char
  | '-' :: cs => (.symbol "#-", cs)
  | '>' :: '>' :: cs => (.symbol "#>>", cs)
  | '>' :: cs => (.symbol "#>", cs)
  | ' ' :: cs => (.symbol "#", ' ' :: cs)
  | c :: cs => wordToken ['#', c] cs
  | [] => (.symbol "#", [])

/-- The token that begins with an at sign: an operator, or a word if any other character than a
space follows. -/
def atToken : List Char → Token × List Char
  | '>' :: cs => (.symbol "@>", cs)
  | '?' :: cs => (.symbol "@?", cs)
  | '@' :: ' ' :: cs => (.symbol "@@", ' ' :: cs)
  | '@' :: c :: cs => wordToken ['@', '@', c] cs
  | '@' :: [] => (.symbol "@@", [])
  | ' ' :: cs => (.symbol "@", ' ' :: cs)
  | c :: cs => wordToken ['@', c] cs
  | [] => (.symbol "@", [])

/-- The symbols of more than one character, the longer ones first, and their normal forms. -/
def longSymbols : List (String × String) :=
  [("!~~*", "!~~*"), ("<=>", "<=>"), ("->>", "->>"), ("||/", "||/"), ("~~*", "~~*"),
   ("!~~", "!~~"), ("!~*", "!~*"), ("->", "->"), ("=>", "=>"), ("==", "=="), ("!=", "<>"),
   ("!!", "!!"), ("!~", "!~"), ("<=", "<="), ("<>", "<>"), ("<<", "<<"), ("<@", "<@"),
   (">=", ">="), (">>", ">>"), ("::", "::"), (":=", ":="), ("||", "||"), ("|/", "|/"),
   ("&&", "&&"), ("^@", "^@"), ("~*", "~*"), ("~~", "~~"), ("//", "//")]

/-- The longest symbol at the head of the text. -/
def symbolToken (cs : List Char) : Token × List Char :=
  match longSymbols.find? fun s => s.1.toList.isPrefixOf cs with
  | some s => (.symbol s.2, cs.drop s.1.length)
  | none => (.symbol (String.ofList (cs.take 1)), cs.drop 1)

/-! ### Texts -/

/-- One step at the head of a text that is not empty: a token, or nothing for a blank or a
comment. -/
def lexStep (cs : List Char) : Option (Option Token × List Char) :=
  let found (r : Token × List Char) : Option Token × List Char := (some r.1, r.2)
  match cs with
  | [] => none
  | c :: r =>
    if isBlank c then some (none, r)
    else if startsWord c then (letterToken c r).map found
    else if c.isDigit || c == '.' then some (found (numberToken cs))
    else if c == '\'' then
      (quotedRun c false r).map fun (v, r) => (some (.string (String.ofList v)), r)
    else if c == '"' || c.toNat == 0x60 then
      (quotedRun c false r).map fun (v, r) => (some (.word (String.ofList v) (some c)), r)
    else if c == '#' then some (found (hashToken r))
    else if c == '@' then some (found (atToken r))
    else if c == '?' then
      some (some (.placeholder ("?" ++ String.ofList (r.takeWhile isNumeral))),
        r.dropWhile isNumeral)
    else if c == '$' then (dollarToken r).map found
    else if "--".toList.isPrefixOf cs then some (none, (cs.dropWhile (· != '\n')).drop 1)
    else if "/*".toList.isPrefixOf cs then
      (skipBlock 0 ' ' (cs.drop 2)).map fun r => (none, r)
    else some (found (symbolToken cs))

/-- The tokens of a text, in at most `fuel` steps. -/
def tokensFrom : Nat → List Char → Option (List Token)
  | _, [] => some []
  | 0, _ :: _ => none
  | fuel + 1, cs =>
    match lexStep cs with
    | none => none
    | some (none, r) => tokensFrom fuel r
    | some (some t, r) => (tokensFrom fuel r).map (t :: ·)

/-- The tokens of a text, or `none` if something in it is not closed. -/
def tokens? (s : String) : Option (List Token) :=
  tokensFrom s.length s.toList

end SqlPipeline.Sql
