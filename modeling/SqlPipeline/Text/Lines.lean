/-
The lines of a sequence of bytes.

* `Text.decode?` — the text that bytes encode, if they encode one;
* `Text.byteLines` — the bytes between line breaks; a carriage return before a line break belongs
  to it;
* `Text.lines` — the lines as texts.
-/

set_option autoImplicit false

namespace SqlPipeline.Text

/-- The text that bytes encode, if they encode one. -/
def decode? (bytes : List UInt8) : Option String :=
  String.fromUTF8? ⟨bytes.toArray⟩

/-- A line in reverse, without the carriage return at its end. -/
def withoutReturn : List UInt8 → List UInt8
  | 13 :: bs => bs
  | bs => bs

/-- The lines of bytes, of which the first begins with `run` in reverse. -/
def byteLinesFrom (run : List UInt8) : List UInt8 → List (List UInt8)
  | [] => if run.isEmpty then [] else [run.reverse]
  | b :: bs =>
    if b == 10 then (withoutReturn run).reverse :: byteLinesFrom [] bs
    else byteLinesFrom (b :: run) bs

def byteLines (bytes : List UInt8) : List (List UInt8) :=
  byteLinesFrom [] bytes

/-- The lines of bytes as texts; a line that encodes none is `none`. -/
def lines (bytes : List UInt8) : List (Option String) :=
  (byteLines bytes).map decode?

end SqlPipeline.Text
