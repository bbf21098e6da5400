/-
Reading a type, with its text in normal form.

Types that SQL knows are written in capital letters with their arguments; any other name is
written as it stands.  Types contain types to any depth, so reading one recurses on the number of
tokens that are left.

* `Sql.knownType` — a type that begins with a keyword;
* `Sql.typeAt` — a type.  The closing bracket of a type inside two others may be written in one
  symbol with the next, as in `ARRAY<ARRAY<INT>>`.
-/

import SqlPipeline.Sql.Grammar.Columns

set_option autoImplicit false

namespace SqlPipeline.Sql

open Reader

/-- The types without arguments, and their texts. -/
def plainTypes : List (String × String) :=
  [("BOOLEAN", "BOOLEAN"), ("BOOL", "BOOL"), ("REAL", "REAL"), ("FLOAT4", "FLOAT4"),
   ("FLOAT32", "Float32"), ("FLOAT64", "FLOAT64"), ("FLOAT8", "FLOAT8"), ("INT16", "Int16"),
   ("INT32", "Int32"), ("INT64", "INT64"), ("INT128", "Int128"), ("INT256", "Int256"),
   ("UINT8", "UInt8"), ("UINT16", "UInt16"), ("UINT32", "UInt32"), ("UINT64", "UInt64"),
   ("UINT128", "UInt128"), ("UINT256", "UInt256"), ("UUID", "UUID"), ("DATE", "DATE"),
   ("DATE32", "Date32"), ("JSON", "JSON"), ("JSONB", "JSONB"), ("REGCLASS", "REGCLASS"),
   ("TEXT", "TEXT"), ("BYTEA", "BYTEA"), ("TRIGGER", "TRIGGER")]

def lengthTypes : List String :=
  ["FLOAT", "CLOB", "BINARY", "VARBINARY", "BLOB", "BYTES", "DATETIME", "STRING"]

/-- The integer types, each with a length and a sign, and the widths at which they are stored
without and with `UNSIGNED`. -/
def integerTypes : List (String × Option IntWidth × Option IntWidth) :=
  [("TINYINT", none, none), ("INT2", none, none), ("SMALLINT", none, none),
   ("MEDIUMINT", none, none), ("INT", some .w32, some .w32), ("INT4", some .w32, none),
   ("INT8", some .w64, none), ("INTEGER", some .w32, some .w32),
   ("BIGINT", some .w64, some .w64)]

def exactTypes : List String :=
  ["NUMERIC", "DECIMAL", "DEC", "BIGNUMERIC", "BIGDECIMAL"]

/-- A length in parentheses, if there is one. -/
def length? : Reader String := do
  if ← peekSymbol "(" then
    let n ← parenthesized natural
    return "(" ++ toString n ++ ")"
  else return ""

/-- A length in characters or octets in parentheses, if there is one. -/
def charLength? : Reader String := do
  if ← symbol? "(" then
    if ← keyword? "MAX" then
      symbol ")"
      return "(MAX)"
    else
      let n ← natural
      let unit ← oneOf? ["CHARACTERS", "OCTETS"]
      symbol ")"
      return "(" ++ toString n ++ (unit.map (" " ++ ·)).getD "" ++ ")"
  else return ""

/-- A precision and a scale in parentheses, if there are any. -/
def precisionScale? : Reader String := do
  if ← symbol? "(" then
    let p ← natural
    if ← symbol? "," then
      let s ← natural
      symbol ")"
      return "(" ++ toString p ++ "," ++ toString s ++ ")"
    else
      symbol ")"
      return "(" ++ toString p ++ ")"
  else return ""

/-- Whether a time has a zone. -/
def zone? : Reader String := do
  if ← keyword? "WITH" then
    keywords ["TIME", "ZONE"]
    return " WITH TIME ZONE"
  else if ← keyword? "WITHOUT" then
    keywords ["TIME", "ZONE"]
    return " WITHOUT TIME ZONE"
  else return ""

def stringList : Reader String := do
  let vs ← parenthesized (commaList quotedString)
  return "(" ++ commaText (vs.map (inQuotes '\'')) ++ ")"

/-- The arguments of a type that SQL does not know, up to the closing parenthesis. -/
def modifiersUpTo : Nat → Reader (List String)
  | 0 => fail
  | n + 1 => do
    match ← next with
    | .word v none => return v :: (← modifiersUpTo n)
    | .word v (some q) =>
      return (String.singleton q ++ v ++ String.singleton q) :: (← modifiersUpTo n)
    | .number t _ => return t :: (← modifiersUpTo n)
    | .string s => return s :: (← modifiersUpTo n)
    | .symbol "," => modifiersUpTo n
    | .symbol ")" => return []
    | _ => fail

/-- A type by a name that SQL does not know, with its arguments. -/
def customType : Reader TypeName := do
  let name ← path
  let args ← if ← symbol? "(" then modifiersUpTo (← get).length else pure []
  let text := pathText name ++ if args.isEmpty then "" else "(" ++ commaText args ++ ")"
  return ⟨text, .custom⟩

/-- A character type, whose name may go on with further words. -/
def characterType (k : String) : Reader String := do
  if ← keyword? "VARYING" then return k ++ " VARYING" ++ (← charLength?)
  else if ← keywords? ["LARGE", "OBJECT"] then return k ++ " LARGE OBJECT" ++ (← length?)
  else return k ++ (← charLength?)

/-- A moment with a number of digits, and possibly a zone. -/
def momentType : Reader String := do
  symbol "("
  let p ← natural
  let zone ← if ← symbol? "," then pure (", '" ++ (← stringValue) ++ "'") else pure ""
  symbol ")"
  return "DateTime64(" ++ toString p ++ zone ++ ")"

/-! ### Types in types -/

/-- A type while the types around it are read: whether the symbol that closed it also closes the
type around it. -/
structure OpenType where
  type : TypeName
  /-- Whether a closing bracket is left for the type around it. -/
  closesOuter : Bool := false

/-- The closing bracket of a type, unless the type inside it brought it along. -/
def closeBracket (brought : Bool) : Reader Bool := do
  if brought then return false
  if ← symbol? ">" then return false
  symbol ">>"
  return true

/-- A type that stands alone: no closing bracket is left over. -/
def closedType (p : Reader OpenType) : Reader TypeName := do
  let t ← p
  if t.closesOuter then fail else return t.type

/-- A field of a record: its type, and its name if two words follow each other. -/
def fieldAt (p : Reader OpenType) : Reader (String × Bool) := do
  let name ←
    match ← get with
    | .word _ _ :: .word _ _ :: _ => pure [(← ident).text]
    | _ => pure []
  let t ← p
  return (" ".intercalate (name ++ [t.type.text]), t.closesOuter)

/-- At most `n + 1` fields of a record; only the last may bring the closing bracket along. -/
def fieldsUpTo (p : Reader OpenType) : Nat → Reader (List String × Bool)
  | 0 => do
    let (f, brought) ← fieldAt p
    return ([f], brought)
  | n + 1 => do
    let (f, brought) ← fieldAt p
    if ← symbol? "," then
      if brought then fail
      let (fs, brought) ← fieldsUpTo p n
      return (f :: fs, brought)
    else return ([f], brought)

def recordType (p : Reader OpenType) : Reader OpenType := do
  if ← symbol? "<" then
    let (fs, brought) ← fieldsUpTo p (← get).length
    let closesOuter ← closeBracket brought
    return ⟨⟨"STRUCT<" ++ commaText fs ++ ">", .other⟩, closesOuter⟩
  else return ⟨⟨"STRUCT", .other⟩, false⟩

def innerType (p : Reader OpenType) (name : String) : Reader String := do
  let t ← parenthesized (closedType p)
  return name ++ "(" ++ t.text ++ ")"

/-- A field of a union: a name and a type. -/
def unionField (p : Reader OpenType) : Reader String := do
  let name ← ident
  return name.text ++ " " ++ (← closedType p).text

/-- A type that contains others and begins with the keyword `k`, which has been read; `none` if no
such type does. -/
def compoundType (n : Nested) (p : Reader OpenType) (k : String) : Reader (Option OpenType) := do
  let plain (text : String) : Reader (Option OpenType) := return some ⟨⟨text, .other⟩, false⟩
  match k with
  | "ARRAY" =>
    symbol "<"
    let t ← p
    let closesOuter ← closeBracket t.closesOuter
    return some ⟨⟨"ARRAY<" ++ t.type.text ++ ">", .other⟩, closesOuter⟩
  | "STRUCT" => return some (← recordType p)
  | "UNION" =>
    let fs ← parenthesized (commaList (unionField p))
    plain ("UNION(" ++ commaText fs ++ ")")
  | "NULLABLE" => plain (← innerType p "Nullable")
  | "LOWCARDINALITY" => plain (← innerType p "LowCardinality")
  | "MAP" =>
    symbol "("
    let key ← closedType p
    symbol ","
    let value ← closedType p
    symbol ")"
    plain ("Map(" ++ key.text ++ ", " ++ value.text ++ ")")
  | "NESTED" =>
    let cs ← parenthesized (commaList (columnWith n (closedType p)))
    plain ("Nested(" ++ commaText (cs.map (·.text)) ++ ")")
  | "TUPLE" =>
    let fs ← parenthesized (commaList (fieldAt p))
    plain ("Tuple(" ++ commaText (fs.map (·.1)) ++ ")")
  | _ => return none

/-- A type without others in it that begins with the keyword `k`, which has been read; `none` if no
such type does. -/
def simpleType (k : String) : Reader (Option TypeName) := do
  let plain (text : String) : Reader (Option TypeName) := return some ⟨text, .other⟩
  if let some (_, text) := plainTypes.find? (·.1 == k) then return some ⟨text, .other⟩
  if lengthTypes.contains k then return some ⟨k ++ (← length?), .other⟩
  if let some (_, signed, unsigned) := integerTypes.find? (·.1 == k) then
    let len ← length?
    let kindOf (w : Option IntWidth) : TypeKind := (w.map TypeKind.int).getD .other
    if ← keyword? "UNSIGNED" then return some ⟨k ++ len ++ " UNSIGNED", kindOf unsigned⟩
    else return some ⟨k ++ len, kindOf signed⟩
  if exactTypes.contains k then return some ⟨k ++ (← precisionScale?), .other⟩
  match k with
  | "DOUBLE" => plain (if ← keyword? "PRECISION" then "DOUBLE PRECISION" else "DOUBLE")
  | "VARCHAR" => plain ("VARCHAR" ++ (← charLength?))
  | "NVARCHAR" => plain ("NVARCHAR" ++ (← charLength?))
  | "CHARACTER" => plain (← characterType k)
  | "CHAR" => plain (← characterType k)
  | "TIMESTAMP" => plain ("TIMESTAMP" ++ (← length?) ++ (← zone?))
  | "TIME" => plain ("TIME" ++ (← length?) ++ (← zone?))
  | "TIMESTAMPTZ" => plain ("TIMESTAMPTZ" ++ (← length?))
  | "TIMETZ" => plain ("TIMETZ" ++ (← length?))
  | "DATETIME64" => plain (← momentType)
  | "FIXEDSTRING" => plain ("FixedString(" ++ toString (← parenthesized natural) ++ ")")
  | "INTERVAL" => return some ⟨"INTERVAL", .interval⟩
  | "ENUM" => plain ("ENUM" ++ (← stringList))
  | "SET" => plain ("SET" ++ (← stringList))
  | _ => return none

/-- The brackets after a type, which make it a type of arrays. -/
def arrayBrackets : Reader String := do
  let bs ← while? do
    if ← symbol? "[" then
      let size ← attempt natural
      symbol "]"
      return some ("[" ++ (size.map toString).getD "" ++ "]")
    else return none
  return String.join bs

/-- A type, inside at most `fuel` others. -/
def openTypeAt (n : Nested) : Nat → Reader OpenType
  | 0 => fail
  | fuel + 1 => do
    let ts ← get
    let t ← next
    unless t.isWord do fail
    let k := t.keyword?.getD ""
    let base ←
      match ← simpleType k with
      | some type => pure { type }
      | none =>
        match ← compoundType n (openTypeAt n fuel) k with
        | some type => pure type
        | none =>
          set ts
          pure { type := ← customType }
    let brackets ← arrayBrackets
    if brackets.isEmpty then return base
    else return { base with type := ⟨base.type.text ++ brackets, .other⟩ }

def typeAt (n : Nested) : Reader TypeName := do
  closedType (openTypeAt n (← get).length)

def columnAt (n : Nested) : Reader (Written ColumnSpec) :=
  columnWith n (typeAt n)

end SqlPipeline.Sql
