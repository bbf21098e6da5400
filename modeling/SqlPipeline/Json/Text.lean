/-
JSON strings: a text between quotes, with some characters escaped.

Quotes and backslashes are escaped, and so is every character below U+0020: five of them by a
letter, the others by four hexadecimal digits.  All else stands as it is.

* `Json.escapeChar`, `Json.quoted` — writing;
* `Json.hexDigit` — a hexadecimal digit, in small letters.
-/

set_option autoImplicit false

namespace SqlPipeline.Json

def hexDigit (n : Nat) : Char :=
  if n < 10 then Char.ofNat (48 + n) else Char.ofNat (87 + n)

/-- A character inside a string. -/
def escapeChar (c : Char) : List Char :=
  if c == '"' then ['\\', '"']
  else if c == '\\' then ['\\', '\\']
  else if c == '\n' then ['\\', 'n']
  else if c == '\r' then ['\\', 'r']
  else if c == '\t' then ['\\', 't']
  else if c.toNat == 8 then ['\\', 'b']
  else if c.toNat == 12 then ['\\', 'f']
  else if c.toNat < 32 then
    ['\\', 'u', '0', '0', hexDigit (c.toNat / 16), hexDigit (c.toNat % 16)]
  else [c]

/-- A text as a string, with the quotes around it. -/
def quoted (s : String) : String :=
  String.ofList ('"' :: s.toList.flatMap escapeChar ++ ['"'])

end SqlPipeline.Json
