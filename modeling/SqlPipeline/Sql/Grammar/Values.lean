/-
Reading single values.

* `Sql.valueAt` — a number, a string, another literal, a placeholder, a truth value or nothing;
* `Sql.stringValue` — the value of a string, which may also be written as a plain word;
* `Sql.numberAt` — a number with its sign;
* `Sql.dateField` — a part of a date or a time.
-/

import SqlPipeline.Sql.Keyword
import SqlPipeline.Sql.Reader

set_option autoImplicit false

namespace SqlPipeline.Sql

open Reader

/-- The text of a placeholder that begins with the given symbol: a word or a number follows. -/
def placeholderAt (lead : String) : Reader Expr := do
  match ← next with
  | .word v _ => return .other (lead ++ v)
  | .number text false => return .other (lead ++ text)
  | _ => fail

/-- A single value: a number, a string, another literal, a truth value or nothing. -/
def valueAt : Reader Expr := do
  let t ← next
  match t with
  | .number text long => return .number text long
  | .string s => return .string s
  | .literal form v => return .other (form.text v)
  | .placeholder text => return .other text
  | .word v (some '"') => return .other (inQuotes '"' v)
  | .symbol ":" => placeholderAt ":"
  | .symbol "@" => placeholderAt "@"
  | _ =>
    match t.keyword? with
    | some "TRUE" => return .other "true"
    | some "FALSE" => return .other "false"
    | some "NULL" => return .other "NULL"
    | _ => fail

/-- The value of a string, which may also be written as a plain word. -/
def stringValue : Reader String := do
  let t ← next
  match t with
  | .string s => return s
  | .literal .escaped s => return s
  | .literal .numbered s => return s
  | .word v _ => if t.isPlainWord then return v else fail
  | _ => fail

def quotedString : Reader String := do
  match ← next with
  | .string s => return s
  | _ => fail

/-- A number without a sign, or a placeholder for one. -/
def unsignedNumber : Reader Expr := do
  match ← peek with
  | some (.number _ _) => valueAt
  | some (.placeholder _) => valueAt
  | some (.symbol _) => valueAt
  | _ => fail

/-- A number, possibly after a sign. -/
def numberAt : Reader Expr := do
  if ← symbol? "+" then return .sign false (← unsignedNumber)
  else if ← symbol? "-" then return .sign true (← unsignedNumber)
  else unsignedNumber

def dateField : Reader String := do
  let i ← ident
  match i.quote with
  | some _ => return i.text
  | none =>
    let k := capital i.value
    if k == "WEEK" then
      if ← symbol? "(" then
        let day ← ident
        symbol ")"
        return "WEEK(" ++ day.text ++ ")"
    return if dateFields.contains k then k else i.text

end SqlPipeline.Sql
