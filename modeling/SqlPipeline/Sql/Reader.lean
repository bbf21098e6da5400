/-
Readers: functions that take tokens off the head of a list.

* `Sql.SyntaxFault` — why a text is no SQL: an unexpected token, or too deep a nesting;
* `Sql.Reader` — a reader of values of some type, which knows the place it reads at;
* `Sql.Reader.attempt` — a reader that gives its tokens back if the inner one meets an
  unexpected token; too deep a nesting is never taken back;
* `Sql.Reader.commaList`, `Sql.Reader.while?` — repetition.  Every round takes a token, so the
  number of tokens bounds the number of rounds.
-/

import SqlPipeline.Sql.Statement
import SqlPipeline.Sql.Token

set_option autoImplicit false

namespace SqlPipeline.Sql

/-- Why a text is no SQL. -/
inductive SyntaxFault where
  /-- A token that cannot stand where it stands, or the end of the text. -/
  | unexpected
  /-- More than the allowed number of nested expressions, queries and statements. -/
  | tooDeep
  deriving DecidableEq, Repr, Inhabited

/-- A value with its text in normal form. -/
structure Written (α : Type) where
  value : α
  text : String
  deriving DecidableEq, Repr, Inhabited

/-- What a reader knows of the place it reads at. -/
structure Place where
  /-- Whether the tokens belong to the rule that leads from a row of a hierarchy to the next: there
  the word `PRIOR` is an operator. -/
  inHierarchy : Bool := false
  deriving DecidableEq, Repr, Inhabited

/-- A reader of values of type `α` from the head of a list of tokens. -/
abbrev Reader (α : Type) : Type :=
  ReaderT Place (StateT (List Token) (Except SyntaxFault)) α

namespace Reader

variable {α : Type}

def fail : Reader α :=
  throw .unexpected

/-- The next token, which stays. -/
def peek : Reader (Option Token) := do
  return (← get).head?

def next : Reader Token := do
  match ← get with
  | [] => fail
  | t :: ts =>
    set ts
    return t

/-- The value of the reader, or `none` and the tokens as they were if it met an unexpected
token. -/
def attempt (p : Reader α) : Reader (Option α) := fun place ts =>
  match p place ts with
  | .ok (a, r) => .ok (some a, r)
  | .error .unexpected => .ok (none, ts)
  | .error .tooDeep => .error .tooDeep

/-! ### Symbols and keywords -/

/-- Takes the symbol if it is next. -/
def symbol? (s : String) : Reader Bool := do
  match ← get with
  | t :: ts =>
    if t == .symbol s then
      set ts
      return true
    else return false
  | [] => return false

/-- Takes the symbol, which must be next. -/
def symbol (s : String) : Reader Unit := do
  unless ← symbol? s do fail

def peekSymbol (s : String) : Reader Bool := do
  return (← peek) == some (.symbol s)

/-- Takes the keywords if all of them are next, in order. -/
def keywords? (ks : List String) : Reader Bool := do
  let ts ← get
  if (ts.take ks.length).map Token.keyword? == ks.map some then
    set (ts.drop ks.length)
    return true
  else return false

/-- Takes the keyword if it is next. -/
def keyword? (k : String) : Reader Bool :=
  keywords? [k]

def keywords (ks : List String) : Reader Unit := do
  unless ← keywords? ks do fail

def keyword (k : String) : Reader Unit :=
  keywords [k]

/-- Takes the next token if it is one of the keywords, and tells which. -/
def oneOf? (ks : List String) : Reader (Option String) := do
  match ← get with
  | t :: ts =>
    match t.keyword? with
    | some k =>
      if ks.contains k then
        set ts
        return some k
      else return none
    | none => return none
  | [] => return none

/-- Takes the next token, which must be one of the keywords, and tells which. -/
def oneOf (ks : List String) : Reader String := do
  match ← oneOf? ks with
  | some k => return k
  | none => fail

/-- Takes the first of the phrases that is next, and tells which. -/
def phrase? (ps : List (List String)) : Reader (Option (List String)) :=
  ps.findM? keywords?

def peekOneOf (ks : List String) : Reader Bool := do
  match (← peek).bind Token.keyword? with
  | some k => return ks.contains k
  | none => return false

/-! ### Repetition -/

/-- At most `n + 1` values with commas between them. -/
def commaListUpTo (p : Reader α) : Nat → Reader (List α)
  | 0 => do return [← p]
  | n + 1 => do
    let a ← p
    if ← symbol? "," then return a :: (← commaListUpTo p n) else return [a]

/-- One or more values with commas between them. -/
def commaList (p : Reader α) : Reader (List α) := do
  commaListUpTo p (← get).length

/-- The values the reader gives, until it gives none, in at most `n` rounds. -/
def whileUpTo? (p : Reader (Option α)) : Nat → Reader (List α)
  | 0 => return []
  | n + 1 => do
    match ← p with
    | some a => return a :: (← whileUpTo? p n)
    | none => return []

/-- The values the reader gives, until it gives none. -/
def while? (p : Reader (Option α)) : Reader (List α) := do
  whileUpTo? p ((← get).length + 1)

def parenthesized (p : Reader α) : Reader α := do
  symbol "("
  let a ← p
  symbol ")"
  return a

/-! ### Names and numbers -/

/-- A name: a word, or a string in single quotes. -/
def ident : Reader Ident := do
  match ← next with
  | .word v q => return ⟨v, q⟩
  | .string s => return ⟨s, some '\''⟩
  | _ => fail

/-- Names joined by points. -/
def path : Reader (List Ident) := do
  let first ← ident
  let rest ← while? do
    if ← symbol? "." then return some (← ident) else return none
  return first :: rest

def identList : Reader (List Ident) :=
  parenthesized (commaList ident)

/-- Names between parentheses, or none if no parenthesis is next. -/
def identList? : Reader (List Ident) := do
  if ← peekSymbol "(" then identList else return []

/-- A natural number below `2 ^ 64`, written in digits. -/
def natural : Reader Nat := do
  match ← next with
  | .number t _ =>
    let cs := t.toList
    if cs.isEmpty || !cs.all Char.isDigit then fail
    else
      let n := cs.foldl (fun n c => 10 * n + (c.toNat - 48)) 0
      if n < Nat.pow 2 64 then return n else fail
  | _ => fail

def commaText (ts : List String) : String :=
  ", ".intercalate ts

/-- Reads the tokens as the rule that leads from a row of a hierarchy to the next. -/
def inHierarchy (p : Reader α) : Reader α :=
  withReader (fun place => { place with inHierarchy := true }) p

def identsText (is : List Ident) : String :=
  commaText (is.map Ident.text)

end Reader

end SqlPipeline.Sql
