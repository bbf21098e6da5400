/-
Blank characters and the operations on text that look for them.

* `Text.isBlank` — the white space of the Unicode character database;
* `Text.trim` — the text without the blanks at its ends;
* `Text.words` — the maximal runs of characters that are not blank.
-/

set_option autoImplicit false

namespace SqlPipeline.Text

/-- White space: the six ASCII blanks, and the blanks of other scripts. -/
def isBlank (c : Char) : Bool :=
  let n := c.toNat
  (9 ≤ n && n ≤ 13) || n == 0x20 || n == 0x85 || n == 0xA0 || n == 0x1680
    || (0x2000 ≤ n && n ≤ 0x200A) || n == 0x2028 || n == 0x2029 || n == 0x202F || n == 0x205F
    || n == 0x3000

def dropBlankEnd (cs : List Char) : List Char :=
  (cs.reverse.dropWhile isBlank).reverse

/-- The text without the blanks at either end. -/
def trim (s : String) : String :=
  String.ofList (dropBlankEnd (s.toList.dropWhile isBlank))

/-- The runs of characters that are not blank; `run` is the current one, backwards. -/
def wordsFrom (run : List Char) : List Char → List String
  | [] => if run.isEmpty then [] else [String.ofList run.reverse]
  | c :: cs =>
    if isBlank c then
      if run.isEmpty then wordsFrom [] cs else String.ofList run.reverse :: wordsFrom [] cs
    else wordsFrom (c :: run) cs

/-- The maximal runs of characters that are not blank. -/
def words (s : String) : List String :=
  wordsFrom [] s.toList

end SqlPipeline.Text
