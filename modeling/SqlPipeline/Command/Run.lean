/-
Running a command.

* `Command.Terminal` — what a command has written, and the level of its journal;
* `Command.prepare` — the configuration and the catalog that a command starts with;
* `Command.run` — a command, over given files and a given input.
-/

import SqlPipeline.Command.Arguments
import SqlPipeline.Command.Config
import SqlPipeline.Command.Folder
import SqlPipeline.Session
import SqlPipeline.Text.Lines

set_option autoImplicit false

namespace SqlPipeline.Command

open Journal

/-- What a command has written, and the level of its journal. -/
structure Terminal where
  out : String := ""
  /-- The messages and the journal. -/
  err : String := ""
  level : Severity := .warn
  deriving DecidableEq, Repr, Inhabited

/-- A piece of work on a terminal, which may fail. -/
abbrev Working (α : Type) : Type :=
  ExceptT Fault (StateM Terminal) α

def write (text : String) : Working Unit :=
  modify fun t => { t with out := t.out ++ text }

/-- Writes the records that the level keeps. -/
def record (rs : List Record) : Working Unit :=
  modify fun t => { t with err := t.err ++ String.join (lines t.level rs) }

def emit (es : List Emission) : Working Unit :=
  modify fun t =>
    { t with
      out := t.out ++ Emission.outText es
      err := t.err ++ Emission.errWithLines t.level es }

/-- The value of work with records, which are written. -/
def logged {α : Type} (x : Logged α) : Working α := do
  record x.records
  return x.value

/-! ### Preparation -/

def readText (files : Files) (path : String) : Except FileFault String := do
  match Text.decode? (← files path) with
  | some s => return s
  | none => throw .badText

/-- The configuration that a command starts with. -/
def loadConfig (files : Files) : Option String → Working Config
  | none => return {}
  | some path =>
    match readText files path with
    | .error e => throw (.configFile e)
    | .ok text => do
      let c ← (Config.ofText path text : Except Fault Config)
      record [c.loaded path]
      return c

def applyScript (s : Catalog.Store) (script : String) : Working Catalog.Store := do
  let (s', result) ← logged (s.execute script)
  match result with
  | .ok _ => return s'
  | .error e => throw (.catalog e)

def applyFile (files : Files) (s : Catalog.Store) (path : String) : Working Catalog.Store :=
  match readText files path with
  | .error e => throw (.definitionFile path e)
  | .ok script => applyScript s script

/-- The configuration and the catalog that a command starts with. -/
def prepare (files : Files) (o : Options) : Working (Config × Catalog.Store) := do
  let c ← loadConfig files o.config
  let c := { c with logLevel := o.logLevel.getD c.logLevel }
  let level ← severity c.logLevel
  modify fun t => { t with level }
  let s ← c.ddl.foldlM applyScript .empty
  let s ← (c.ddlFiles ++ o.definitions).foldlM (applyFile files) s
  return (c, s)

/-! ### Commands -/

/-- A command, over the given files and the given input. -/
def perform (files : Files) (input : List UInt8) : Invocation → Working Unit
  | .compile o query => do
    let (c, s) ← prepare files o
    match ← logged (compileStatement s query c.emitExplain).run with
    | .ok text => write text
    | .error e => throw (.compile e)
  | .explain o query json => do
    let (_, s) ← prepare files o
    let e := Explanation.ofResult (← logged (planText s query).run)
    write (if json then Json.pretty e.fields ++ "\n" else e.text)
  | .shell o => do
    let (c, s) ← prepare files o
    let e := Session.run c.emitExplain s (Text.lines input)
    emit e.emissions
    unless e.isReadable do throw .input

/-- A command from the beginning: its result, and what it has written. -/
def run (files : Files) (input : List UInt8) (i : Invocation) : Except Fault Unit × Terminal :=
  (perform files input i).run.run {}

end SqlPipeline.Command
