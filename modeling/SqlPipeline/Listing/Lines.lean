/-
Lines of a generated program.

* `Listing.Line` — a line with its depth of indentation;
* `Listing.text` — the text of lines;
* `Listing.block` — lines in braces, one deeper.
-/

set_option autoImplicit false

namespace SqlPipeline.Listing

/-- A line of a program.  A blank line has no indentation. -/
inductive Line where
  | blank
  | code (depth : Nat) (text : String)
  deriving DecidableEq, Repr, Inhabited

def indentation (depth : Nat) : String :=
  String.join (List.replicate depth "    ")

namespace Line

/-- The text of a line, with the line break. -/
def text : Line → String
  | blank => "\n"
  | code depth t => indentation depth ++ t ++ "\n"

/-- The line one deeper. -/
def indented : Line → Line
  | blank => blank
  | code depth t => code (depth + 1) t

end Line

def line (t : String) : Line :=
  .code 0 t

def text (ls : List Line) : String :=
  String.join (ls.map Line.text)

/-- Lines in braces after a head, one deeper. -/
def block (head : String) (body : List Line) : List Line :=
  line (head ++ " \x7b") :: body.map Line.indented ++ [line "\x7d"]

end SqlPipeline.Listing
