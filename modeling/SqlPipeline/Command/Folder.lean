/-
Files by their paths.

* `Command.Files` — what is read at each path;
* `Command.Folder` — a directory with files in it, given by their paths;
* `Command.Folder.read` — the files of such a directory, as seen from it.
-/

import SqlPipeline.Command.Fault
import SqlPipeline.Command.Path

set_option autoImplicit false

namespace SqlPipeline.Command

/-- What is read at each path. -/
abbrev Files : Type :=
  String → Except FileFault (List UInt8)

/-- A directory with files in it, by their paths. -/
abbrev Folder : Type :=
  List (String × List UInt8)

def pathParts (path : String) : List String :=
  path.splitOn "/"

/-- The parts of a path that name something: not empty, and not the directory itself. -/
def namingParts (path : String) : List String :=
  (pathParts path).filter fun p => p ≠ "" && p ≠ "."

/-- The number of bytes that a part of a path may have. -/
def maxPart : Nat := 255

/-- The number of bytes that a path may have. -/
def maxPath : Nat := 4095

/-- What a path in a folder leads to. -/
inductive Node where
  | file (content : List UInt8)
  | directory
  /-- A directory above the folder, from where the rest of the path goes on. -/
  | outside (rest : List String)
  deriving DecidableEq, Repr, Inhabited

namespace Folder

/-- The node of the folder at the given parts of a path. -/
def node? (f : Folder) (parts : List String) : Option Node :=
  match f.find? fun e => namingParts e.1 == parts with
  | some e => some (.file e.2)
  | none =>
    if parts.isEmpty || f.any fun e => parts.isPrefixOf (namingParts e.1) then some .directory
    else none

/-- Follows the parts of a path from the node at `here`. -/
def follow (f : Folder) (here : List String) : List String → Except FileFault Node
  | [] =>
    match f.node? here with
    | some n => .ok n
    | none => .error .missing
  | p :: ps =>
    match f.node? here with
    | some .directory =>
      if p == "" || p == "." then f.follow here ps
      else if p == ".." then if here.isEmpty then .ok (.outside ps) else f.follow here.dropLast ps
      else if p.utf8ByteSize > maxPart then .error .nameTooLong
      else f.follow (here ++ [p]) ps
    | some _ => .error .notDirectory
    | none => .error .missing

/-- What is read at parts of a path that begin outside of the folder, where nothing is known but
that there are directories above it. -/
def readOutside (parts : List String) : FileFault :=
  match parts.find? fun p => p ≠ "" && p ≠ "." && p ≠ ".." with
  | none => .directory
  | some p => if p.utf8ByteSize > maxPart then .nameTooLong else .missing

/-- What is read at a path, as seen from the folder. -/
def read (f : Folder) : Files := fun path =>
  if path.toList.contains (Char.ofNat 0) then .error .nulInName
  else if path.isEmpty then .error .missing
  else if path.utf8ByteSize > maxPath then .error .nameTooLong
  else if isAbsolute path then .error (readOutside (pathParts path))
  else
    match f.follow [] (pathParts path) with
    | .error e => .error e
    | .ok (.file bytes) => .ok bytes
    | .ok .directory => .error .directory
    | .ok (.outside rest) => .error (readOutside rest)

end Folder

end SqlPipeline.Command
