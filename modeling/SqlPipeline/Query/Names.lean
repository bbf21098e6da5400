/-
Names in the generated program.

* `Query.reservedNames` — the names that the generated program has for itself;
* `Query.identifier` — a name as an identifier that is not reserved.
-/

set_option autoImplicit false

namespace SqlPipeline.Query

/-- The names that the generated program, its library or its language has for itself. -/
def reservedNames : List String :=
  ["op", "recordBuffer", "allocatedValues", "state", "i", "exec", "lastRecord", "lastValue",
   "calculatedValue", "buf",
   "createOperator", "execOperator", "embedDBFreeOperatorRecursive", "printf", "free", "malloc",
   "calloc", "memcpy", "NULL", "int8_t", "uint8_t", "int16_t", "uint16_t", "int32_t", "uint32_t",
   "int64_t", "uint64_t",
   "auto", "break", "case", "char", "const", "continue", "default", "do", "double", "else", "enum",
   "extern", "float", "for", "goto", "if", "inline", "int", "long", "register", "restrict",
   "return", "short", "signed", "sizeof", "static", "struct", "switch", "typedef", "union",
   "unsigned", "void", "volatile", "while"]

def isIdentifierChar (c : Char) : Bool :=
  c.isAlphanum || c == '_'

/-- A name with an underscore in place of each character that an identifier cannot have. -/
def identifierChars (name : String) : List Char :=
  name.toList.map fun c => if isIdentifierChar c then c else '_'

/-- The characters of an identifier, which does not begin with a digit and is not empty. -/
def withLead : List Char → List Char
  | [] => ['_']
  | c :: cs => if c.isDigit then '_' :: c :: cs else c :: cs

/-- A name as an identifier that is not reserved. -/
def identifier (name : String) : String :=
  let out := String.ofList (withLead (identifierChars name))
  if reservedNames.contains out then out ++ "_" else out

end SqlPipeline.Query
