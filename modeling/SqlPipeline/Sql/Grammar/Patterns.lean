/-
Reading the pattern that rows in a sequence match.

A pattern is built from symbols for rows, one after the other, with repetitions and choices.
Parentheses nest to any depth, so reading one recurses on the number of tokens that are left.

* `Sql.repeatedAt` — a symbol, or a pattern in parentheses, with its repetitions;
* `Sql.patternAt` — a pattern up to the parenthesis that closes it.
-/

import SqlPipeline.Sql.Reader

set_option autoImplicit false

namespace SqlPipeline.Sql

open Reader

/-- A number of repetitions: a natural number below `2 ^ 32`. -/
def repetitionCount : Reader String := do
  let n ← natural
  if n < Nat.pow 2 32 then return toString n else fail

/-- The text of a range of repetitions, after the opening brace. -/
def repetitionRange : Reader String := do
  let text ←
    if ← symbol? "," then pure ("," ++ (← repetitionCount))
    else
      let low ← repetitionCount
      if ← symbol? "," then
        if ← peekSymbol "\x7d" then pure (low ++ ",") else pure (low ++ "," ++ (← repetitionCount))
      else pure low
  symbol "\x7d"
  return "\x7b" ++ text ++ "\x7d"

/-- How often a pattern is repeated, if that is said. -/
def repetition? : Reader (Option String) := do
  match ← get with
  | .symbol "*" :: ts =>
    set ts
    return some "*"
  | .symbol "+" :: ts =>
    set ts
    return some "+"
  | .placeholder "?" :: ts =>
    set ts
    return some "?"
  | .symbol "\x7b" :: ts =>
    set ts
    return some (← repetitionRange)
  | _ => return none

/-- A symbol for a row, or a pattern in parentheses, over a reader of patterns. -/
def basePatternAt (pattern : Reader String) : Reader String := do
  match ← get with
  | .symbol "^" :: ts =>
    set ts
    return "^"
  | .placeholder "$" :: ts =>
    set ts
    return "$"
  | .symbol "\x7b" :: ts =>
    set ts
    symbol "-"
    let name ← ident
    symbol "-"
    symbol "\x7d"
    return "\x7b- " ++ name.text ++ " -\x7d"
  | .word "PERMUTE" none :: ts =>
    set ts
    return "PERMUTE(" ++ identsText (← identList) ++ ")"
  | .symbol "(" :: ts =>
    set ts
    let p ← pattern
    symbol ")"
    return "( " ++ p ++ " )"
  | _ => return (← ident).text

/-- A pattern with its repetitions, over a reader of patterns. -/
def repeatedAt (pattern : Reader String) : Reader String := do
  let base ← basePatternAt pattern
  return base ++ String.join (← while? repetition?)

/-- Patterns one after the other, up to a parenthesis or a bar, over a reader of patterns. -/
def sequenceAt (pattern : Reader String) : Reader String := do
  let first ← repeatedAt pattern
  let rest ← while? do
    if (← peekSymbol ")") || (← peekSymbol "|") then return none
    else return some (← repeatedAt pattern)
  return " ".intercalate (first :: rest)

/-- A pattern with choices between bars, over a reader of patterns. -/
def choiceAt (pattern : Reader String) : Reader String := do
  let first ← sequenceAt pattern
  let rest ← while? do
    if ← symbol? "|" then return some (← sequenceAt pattern) else return none
  return " | ".intercalate (first :: rest)

/-- A pattern inside at most `fuel` parentheses. -/
def patternUpTo : Nat → Reader String
  | 0 => fail
  | fuel + 1 => choiceAt (patternUpTo fuel)

def patternAt : Reader String := do
  patternUpTo (← get).length

end SqlPipeline.Sql
