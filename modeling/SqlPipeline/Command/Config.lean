/-
Configuration files.

* `Command.Config` — a configuration;
* `Command.Config.ofValue?` — the configuration that a JSON value holds: an object, in which each
  known member stands at most once, or an array of the members in order;
* `Command.Config.ofText` — the configuration of a file.
-/

import SqlPipeline.Command.Fault
import SqlPipeline.Command.Path
import SqlPipeline.Journal.Event
import SqlPipeline.Json.Value

set_option autoImplicit false

namespace SqlPipeline.Command

/-- A configuration. -/
structure Config where
  /-- Scripts of definitions, in order. -/
  ddl : List String := []
  /-- Files with further definitions, in order. -/
  ddlFiles : List String := []
  logLevel : String := "warn"
  /-- Whether listings have an explanation before them. -/
  emitExplain : Bool := false
  deriving DecidableEq, Repr, Inhabited

/-! ### Members -/

/-- The members of a configuration. -/
inductive Member where
  | ddl
  | ddlFiles
  | logLevel
  | emitExplain
  deriving DecidableEq, Repr, Inhabited

def Member.all : List Member :=
  [ddl, ddlFiles, logLevel, emitExplain]

def Member.ofText? : String → Option Member
  | "ddl" => some ddl
  | "ddl_files" => some ddlFiles
  | "log_level" => some logLevel
  | "emit_explain" => some emitExplain
  | _ => none

def text? : Json.Value → Option String
  | .string s => s
  | _ => none

def texts? : Json.Value → Option (List String)
  | .array vs => vs.mapM text?
  | _ => none

def bool? : Json.Value → Option Bool
  | .bool b => some b
  | _ => none

/-- The configuration with a value for one member. -/
def Config.set? (c : Config) (v : Json.Value) : Member → Option Config
  | .ddl => return { c with ddl := ← texts? v }
  | .ddlFiles => return { c with ddlFiles := ← texts? v }
  | .logLevel => return { c with logLevel := ← text? v }
  | .emitExplain => return { c with emitExplain := ← bool? v }

/-- The configuration with the members of an object; `seen` are those that it has. -/
def Config.addMembers? (c : Config) (seen : List Member) :
    List (Option String × Json.Value) → Option Config
  | [] => some c
  | (none, _) :: _ => none
  | (some k, v) :: ms =>
    match Member.ofText? k with
    | none => c.addMembers? seen ms
    | some m =>
      if seen.contains m then none
      else (c.set? v m).bind fun c => c.addMembers? (m :: seen) ms

/-- The configuration with values for the given members, in order. -/
def Config.addValues? (c : Config) : List Member → List Json.Value → Option Config
  | _, [] => some c
  | [], _ :: _ => none
  | m :: ms, v :: vs => (c.set? v m).bind fun c => c.addValues? ms vs

def Config.ofValue? : Json.Value → Option Config
  | .object ms => Config.addMembers? {} [] ms
  | .array vs => Config.addValues? {} Member.all vs
  | _ => none

/-! ### Files -/

/-- The level of the journal of the given name. -/
def severity (name : String) : Except Fault Journal.Severity :=
  match Journal.Severity.ofName? name with
  | some s => .ok s
  | none => .error (.logLevel name (Journal.Severity.unknownMessage name))

/-- The configuration of the file at the given path, which holds the given text.  Its files are
found from the directory of that file. -/
def Config.ofText (path text : String) : Except Fault Config :=
  match (Json.read? text).bind Config.ofValue? with
  | none => .error .configText
  | some c => do
    let _ ← severity c.logLevel
    return { c with ddlFiles := c.ddlFiles.map (join (parent path)) }

/-- The record of a configuration that was read. -/
def Config.loaded (c : Config) (path : String) : Journal.Record :=
  Journal.Event.configLoaded.record
    [("path", path), ("ddl_files", toString c.ddlFiles.length)]

end SqlPipeline.Command
