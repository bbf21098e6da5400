/-
Why a command fails.

* `Command.FileFault` — why a file cannot be read;
* `Command.Fault` — the causes, each with a code and a message.
-/

import SqlPipeline.Catalog.Fault
import SqlPipeline.Fault

set_option autoImplicit false

namespace SqlPipeline.Command

/-- Why a file cannot be read. -/
inductive FileFault where
  | missing
  | directory
  | notDirectory
  | nameTooLong
  | nulInName
  | badText
  | other (message : String)
  deriving DecidableEq, Repr, Inhabited

def FileFault.message : FileFault → String
  | missing => "No such file or directory (os error 2)"
  | directory => "Is a directory (os error 21)"
  | notDirectory => "Not a directory (os error 20)"
  | nameTooLong => "File name too long (os error 36)"
  | nulInName => "file name contained an unexpected NUL byte"
  | badText => "stream did not contain valid UTF-8"
  | other message => message

/-- Why a command fails. -/
inductive Fault where
  | configFile (cause : FileFault)
  /-- The configuration file does not hold a configuration. -/
  | configText
  /-- The level of the journal has no known name. -/
  | logLevel (name message : String)
  | definitionFile (path : String) (cause : FileFault)
  /-- The input is no text. -/
  | input
  | catalog (cause : Catalog.Fault)
  | compile (cause : SqlPipeline.Fault)
  deriving DecidableEq, Repr, Inhabited

namespace Fault

def code : Fault → String
  | configFile _ => "EMBEDDB_CLI_CONFIG_ERROR"
  | configText => "EMBEDDB_CLI_CONFIG_ERROR"
  | logLevel _ _ => "EMBEDDB_CLI_CONFIG_ERROR"
  | definitionFile _ _ => "EMBEDDB_CLI_IO_ERROR"
  | input => "EMBEDDB_CLI_IO_ERROR"
  | catalog _ => "EMBEDDB_CLI_CATALOG_ERROR"
  | compile _ => "EMBEDDB_CLI_COMPILE_ERROR"

/-- The message of a fault.  Those of the catalog and the compiler bring their own code. -/
def message : Fault → String
  | configFile cause => "Failed to read config: " ++ cause.message
  | configText => "Invalid config JSON"
  | logLevel name message => "Invalid log_level '" ++ name ++ "': " ++ message
  | definitionFile path cause => "Failed to read DDL file " ++ path ++ ": " ++ cause.message
  | input => FileFault.badText.message
  | catalog cause => cause.code ++ ": " ++ cause.message
  | compile cause => cause.text

/-- The text of a fault, with one code. -/
def text (f : Fault) : String :=
  match f with
  | catalog _ => f.message
  | compile _ => f.message
  | _ => f.code ++ ": " ++ f.message

end Fault

end SqlPipeline.Command
