/-
Paths of files.

* `Command.isAbsolute` — whether a path begins at the root;
* `Command.parent` — the directory of a file;
* `Command.join` — a path in a directory.
-/

set_option autoImplicit false

namespace SqlPipeline.Command

/-- Whether a path begins at the root. -/
def isAbsolute (path : String) : Bool :=
  path.toList.head? == some '/'

/-- A path in reverse, without slashes and points at its end that do not change what it names. -/
def trimReversed : List Char → List Char
  | ['/'] => ['/']
  | '/' :: cs => trimReversed cs
  | '.' :: '/' :: cs => trimReversed ('/' :: cs)
  | cs => cs

/-- The directory of a file: the path without its last part. -/
def parent (path : String) : String :=
  let cs := trimReversed path.toList.reverse
  match cs.dropWhile (· != '/') with
  | [] => ""
  | ['/'] => if cs = ['/'] then "" else "/"
  | _ :: rest => String.ofList (trimReversed rest).reverse

def join (directory path : String) : String :=
  if isAbsolute path then path
  else if directory.isEmpty || directory.toList.getLast? == some '/' then directory ++ path
  else directory ++ "/" ++ path

end SqlPipeline.Command
