/-
Objects with one member on each line, in the order of their keys.

* `Json.Field` — nothing, a truth value, a text, or several texts;
* `Json.pretty` — an object of such fields.
-/

import SqlPipeline.Json.Text

set_option autoImplicit false

namespace SqlPipeline.Json

/-- The value of a member. -/
inductive Field where
  | null
  | bool (b : Bool)
  | text (s : String)
  | texts (ss : List String)
  deriving DecidableEq, Repr, Inhabited

namespace Field

/-- A text or nothing. -/
def optional : Option String → Field
  | some s => text s
  | none => null

/-- The value of a member, which may go over several lines. -/
def pretty : Field → String
  | null => "null"
  | bool true => "true"
  | bool false => "false"
  | text s => quoted s
  | texts [] => "[]"
  | texts ss => "[\n" ++ ",\n".intercalate (ss.map fun s => "    " ++ quoted s) ++ "\n  ]"

end Field

/-- Whether a member may stand before another. -/
def memberLe (a b : String × Field) : Bool :=
  decide (a.1 ≤ b.1)

/-- An object with one member on each line, in the order of their keys. -/
def pretty (ms : List (String × Field)) : String :=
  "\x7b\n"
    ++ ",\n".intercalate ((ms.mergeSort memberLe).map fun (k, v) =>
      "  " ++ quoted k ++ ": " ++ v.pretty)
    ++ "\n\x7d"

end SqlPipeline.Json
