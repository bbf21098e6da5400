/-
Interactive sessions: statements over several lines, each ended by a semicolon.

* `Session.isQuery` — whether a statement is compiled; any other is applied to the catalog;
* `Session.Emission` — a text for the reader, a message about a fault, or a record;
* `Session` — the catalog and the lines of a statement that has not ended;
* `Session.step` — the session after a line;
* `Session.run` — a whole session.
-/

import SqlPipeline.Catalog.Definition
import SqlPipeline.Compile

set_option autoImplicit false

namespace SqlPipeline

open Journal

/-- What a session puts out, in order. -/
inductive Emission where
  /-- A text for the reader. -/
  | out (text : String)
  | err (text : String)
  | log (r : Record)
  deriving DecidableEq, Repr, Inhabited

namespace Emission

def outText (es : List Emission) : String :=
  String.join (es.filterMap fun
    | out t => some t
    | _ => none)

def errText (es : List Emission) : String :=
  String.join (es.filterMap fun
    | err t => some t
    | _ => none)

def records (es : List Emission) : List Record :=
  es.filterMap fun
    | log r => some r
    | _ => none

/-- The messages about faults, and among them the lines of the records that a threshold keeps. -/
def errWithLines (threshold : Severity) (es : List Emission) : String :=
  String.join (es.flatMap fun
    | out _ => []
    | err t => [t]
    | log r => Journal.lines threshold [r])

end Emission

/-- A session: its catalog, and the lines of a statement that has not ended. -/
structure Session where
  catalog : Catalog.Store
  /-- The lines of a statement that has not ended, each with its line break. -/
  buffer : String := ""
  deriving DecidableEq, Repr, Inhabited

namespace Session

def banner : String :=
  "embeddb-sql shell. Statements end with ';'. Type 'exit' to quit."

/-- The text before a line: a statement begins, or goes on. -/
def prompt (s : Session) : String :=
  if s.buffer.isEmpty then ">>> " else "... "

/-- Whether a statement is compiled: its first word says so. -/
def isQuery (statement : String) : Bool :=
  match (Text.words statement).head? with
  | some w => Text.sameName w "select" || Text.sameName w "with"
  | none => false

def withoutSemicolons (s : String) : String :=
  String.ofList (s.toList.reverse.dropWhile (· == ';')).reverse

/-- Whether a trimmed line ends the session. -/
def isExit (line : String) : Bool :=
  let word := Text.trim (withoutSemicolons line)
  Text.sameName word "exit" || Text.sameName word "quit"

def endsStatement (line : String) : Bool :=
  line.toList.getLast? == some ';'

/-- What the reader is told about a change. -/
def changeLine : Catalog.Change → String
  | .tableCreated name => "Table " ++ name ++ " created.\n"
  | .indexCreated index table => "Index " ++ index ++ " created on " ++ table ++ ".\n"
  | .skipped name => name ++ " already exists, skipped.\n"

/-- The catalog after a statement, and what is put out. -/
def execute (catalog : Catalog.Store) (explained : Bool) (statement : String) :
    Catalog.Store × List Emission :=
  if isQuery statement then
    let result := (compileStatement catalog statement explained).run
    let last :=
      match result.value with
      | .ok text => Emission.out text
      | .error f => Emission.err (f.text ++ "\n")
    (catalog, result.records.map .log ++ [last])
  else
    let result := catalog.execute statement
    let last :=
      match result.value.2 with
      | .ok changes => changes.map fun c => Emission.out (changeLine c)
      | .error f => [Emission.err (f.code ++ ": " ++ f.message ++ "\n")]
    (result.value.1, result.records.map .log ++ last)

/-- The session after a line, and what is put out; `none` if the line ends the session. -/
def step (explained : Bool) (s : Session) (line : String) :
    Option (Session × List Emission) :=
  let trimmed := Text.trim line
  if s.buffer.isEmpty && trimmed.isEmpty then some (s, [])
  else if s.buffer.isEmpty && isExit trimmed then none
  else
    let buffer := s.buffer ++ line ++ "\n"
    if endsStatement trimmed then
      let (catalog, es) := execute s.catalog explained (Text.trim buffer)
      some ({ catalog }, es)
    else some ({ s with buffer }, [])

/-- How a session came out: its last state, what it put out, and whether all its lines were
texts. -/
structure Ending where
  /-- The last state. -/
  session : Session
  emissions : List Emission
  /-- Whether all lines that were read were texts. -/
  isReadable : Bool
  deriving DecidableEq, Repr, Inhabited

/-- The session after lines, and what is put out, with the text before each line.  It ends with the
lines, at a line that says so, or at a line that is no text. -/
def runLines (explained : Bool) (s : Session) : List (Option String) → Ending
  | [] => ⟨s, [.out s.prompt, .out "\n"], true⟩
  | none :: _ => ⟨s, [.out s.prompt], false⟩
  | some l :: ls =>
    match s.step explained l with
    | none => ⟨s, [.out s.prompt, .out "\n"], true⟩
    | some (s', es) =>
      let e := runLines explained s' ls
      { e with emissions := .out s.prompt :: es ++ e.emissions }

/-- A whole session on the given catalog and lines. -/
def run (explained : Bool) (catalog : Catalog.Store) (ls : List (Option String)) : Ending :=
  let e := runLines explained { catalog } ls
  { e with emissions := .out (banner ++ "\n") :: e.emissions }

end Session

end SqlPipeline
