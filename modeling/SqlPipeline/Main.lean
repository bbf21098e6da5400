/-
The command line.

The files that a command names are read first; the rest of its work is pure, apart from a session,
which reads a line at a time.
-/

import SqlPipeline.Command.Run

set_option autoImplicit false

namespace SqlPipeline.Command

def FileFault.ofError : IO.Error → FileFault
  | .noFileOrDirectory .. => .missing
  | .inappropriateType _ 21 _ => .directory
  | .inappropriateType .. => .notDirectory
  | .invalidArgument _ 22 _ => .nulInName
  | .invalidArgument .. => .nameTooLong
  | .permissionDenied .. => .other "Permission denied (os error 13)"
  | e => .other (toString e)

/-- What is read at a path of the machine. -/
def readBytes (path : String) : IO (Except FileFault (List UInt8)) := do
  try
    return .ok (← IO.FS.readBinFile path).toList
  catch e => return .error (.ofError e)

def readFiles (paths : List String) : IO Files := do
  let found ← paths.mapM fun path => do return (path, ← readBytes path)
  return fun path => ((found.find? fun f => f.1 == path).map (·.2)).getD (.error .missing)

def configuredFiles (path : String) : IO (List String) := do
  match readText (← readFiles [path]) path with
  | .error _ => return []
  | .ok text =>
    match Config.ofText path text with
    | .error _ => return []
    | .ok c => return c.ddlFiles

/-- The files that options name, among them those of the configuration. -/
def Options.files (o : Options) : IO Files := do
  let configured ← (o.config.mapM configuredFiles : IO (Option (List String)))
  readFiles (o.config.toList ++ configured.getD [] ++ o.definitions)

def Invocation.options : Invocation → Options
  | .compile o _ => o
  | .explain o _ _ => o
  | .shell o => o

def Terminal.flush (t : Terminal) : IO Unit := do
  (← IO.getStderr).putStr t.err
  let out ← IO.getStdout
  out.putStr t.out
  out.flush

/-- A session from a line on, which ends with the input or at a line that says so. -/
partial def converse (explained : Bool) (level : Journal.Severity) (s : Session) : IO Unit := do
  let out ← IO.getStdout
  out.putStr s.prompt
  out.flush
  let line ← (← IO.getStdin).getLine
  match line.isEmpty, Text.lines line.toUTF8.toList with
  | false, [some l] =>
    match s.step explained l with
    | some (s', es) =>
      Terminal.flush { out := Emission.outText es, err := Emission.errWithLines level es }
      converse explained level s'
    | none => out.putStrLn ""
  | _, _ => out.putStrLn ""

/-- Writes what a command has written, and gives its status. -/
def finish (r : Except Fault Unit × Terminal) : IO UInt32 := do
  r.2.flush
  match r.1 with
  | .ok _ => return 0
  | .error f =>
    (← IO.getStderr).putStrLn f.text
    return 1

def Invocation.execute (i : Invocation) : IO UInt32 := do
  let files ← i.options.files
  match i with
  | .shell o =>
    match (prepare files o).run.run {} with
    | (.error f, t) => finish (.error f, t)
    | (.ok (c, s), t) =>
      t.flush
      IO.println Session.banner
      converse c.emitExplain t.level { catalog := s }
      return 0
  | _ => finish (run files [] i)

def usageText : String :=
  "Usage: embeddb-sql <compile|explain|shell> [--config <path>] [--ddl <file>]... "
    ++ "[--log-level <level>] [--json] [query]"

/-- Tells how the commands are used, and gives the status. -/
def Usage.report : Usage → IO UInt32
  | .help => do
    IO.println usageText
    return 0
  | .version => do
    IO.println "embeddb-sql"
    return 0
  | _ => do
    (← IO.getStderr).putStrLn usageText
    return 2

end SqlPipeline.Command

def main (args : List String) : IO UInt32 :=
  match SqlPipeline.Command.Invocation.ofArguments args with
  | .ok i => i.execute
  | .error u => u.report
