/-
Command lines.

* `Command.Usage` — why a command line is not taken;
* `Command.Invocation` — what a command line asks for;
* `Command.Invocation.ofArguments` — reading a command line.

Options and the query may come in any order.  An option has its value after an equals sign or as
the next argument; after `--` every argument is the query.
-/

set_option autoImplicit false

namespace SqlPipeline.Command

/-- Why a command line is not taken. -/
inductive Usage where
  | help
  | version
  | nothingAsked
  | unknownCommand
  /-- There is no such option, or no place for the argument. -/
  | unknownArgument
  | missingQuery
  /-- An option has no value, or an empty path. -/
  | badValue
  /-- An option has a value and takes none. -/
  | surplusValue
  /-- An option that may be given once is given twice. -/
  | repeatedOption
  deriving DecidableEq, Repr, Inhabited

/-- The options that prepare a catalog. -/
structure Options where
  config : Option String := none
  /-- The files with definitions, in order. -/
  definitions : List String := []
  logLevel : Option String := none
  deriving DecidableEq, Repr, Inhabited

/-- What a command line asks for. -/
inductive Invocation where
  | compile (options : Options) (query : String)
  /-- The explanation of a query, as lines or as an object. -/
  | explain (options : Options) (query : String) (json : Bool)
  | shell (options : Options)
  deriving DecidableEq, Repr, Inhabited

/-! ### Commands and options -/

/-- The commands. -/
inductive Name where
  | compile
  | explain
  | shell
  deriving DecidableEq, Repr, Inhabited

def Name.ofText? : String → Option Name
  | "compile" => some compile
  | "explain" => some explain
  | "shell" => some shell
  | _ => none

def Name.takesQuery : Name → Bool
  | shell => false
  | _ => true

/-- The options that take a value. -/
inductive Key where
  | config
  | definitions
  | logLevel
  deriving DecidableEq, Repr, Inhabited

def Key.ofText? : String → Option Key
  | "config" => some config
  | "ddl" => some definitions
  | "log-level" => some logLevel
  | _ => none

/-- What has been read of the arguments of a command. -/
structure Reading where
  options : Options := {}
  /-- Whether an object is asked for. -/
  json : Bool := false
  query : Option String := none
  /-- The last option, with its value if that has been read. -/
  pending : Option (Key × Option String) := none
  /-- Whether every further argument is the query. -/
  isTrailing : Bool := false
  deriving DecidableEq, Repr, Inhabited

/-- The options with a value for one of them. -/
def Options.set (o : Options) (k : Key) (v : String) : Except Usage Options :=
  match k with
  | .config =>
    if o.config.isSome then .error .repeatedOption
    else if v.isEmpty then .error .badValue
    else .ok { o with config := some v }
  | .definitions =>
    if v.isEmpty then .error .badValue else .ok { o with definitions := o.definitions ++ [v] }
  | .logLevel =>
    if o.logLevel.isSome then .error .repeatedOption else .ok { o with logLevel := some v }

/-- What has been read, with the last option taken in. -/
def Reading.settle (r : Reading) : Except Usage Reading :=
  match r.pending with
  | none => .ok r
  | some (_, none) => .error .badValue
  | some (k, some v) => do
    return { r with options := ← r.options.set k v, pending := none }

/-! ### Arguments -/

/-- The name and the value of a long option, without the hyphens: the value stands after the first
equals sign. -/
def splitOption (cs : List Char) : String × Option String :=
  (String.ofList (cs.takeWhile (· != '=')),
    match cs.dropWhile (· != '=') with
    | _ :: v => some (String.ofList v)
    | [] => none)

/-- A long option, without the hyphens. -/
def Reading.long (n : Name) (r : Reading) (cs : List Char) : Except Usage Reading :=
  let (name, value) := splitOption cs
  match Key.ofText? name with
  | some k => do
    let r ← r.settle
    match value with
    | some v => return { r with options := ← r.options.set k v }
    | none => return { r with pending := some (k, none) }
  | none =>
    if name == "help" then
      if value.isSome then .error .surplusValue
      else do
        let _ ← r.settle
        throw .help
    else if name == "json" && n = .explain then
      if value.isSome then .error .surplusValue
      else do
        let r ← r.settle
        if r.json then throw .repeatedOption
        return { r with json := true }
    else .error .unknownArgument

def Reading.short (r : Reading) (cs : List Char) : Except Usage Reading :=
  if cs.head? == some 'h' then do
    let _ ← r.settle
    throw .help
  else .error .unknownArgument

/-- An argument that is no option. -/
def Reading.word (n : Name) (r : Reading) (arg : String) : Except Usage Reading :=
  if n.takesQuery && r.query.isNone then do
    let r ← r.settle
    return { r with query := some arg }
  else .error .unknownArgument

def Reading.add (n : Name) (r : Reading) (arg : String) : Except Usage Reading :=
  if r.isTrailing then r.word n arg
  else
    match arg.toList with
    | ['-', '-'] => .ok { r with isTrailing := true }
    | '-' :: '-' :: cs => r.long n cs
    | '-' :: c :: cs => r.short (c :: cs)
    | _ =>
      match r.pending with
      | some (k, none) => .ok { r with pending := some (k, some arg) }
      | _ => r.word n arg

/-- What the arguments of a command ask for. -/
def Name.read (n : Name) (args : List String) : Except Usage Invocation := do
  let r ← args.foldlM (Reading.add n) {}
  let r ← r.settle
  match n, r.query with
  | .shell, _ => return .shell r.options
  | .compile, some q => return .compile r.options q
  | .explain, some q => return .explain r.options q r.json
  | _, none => throw .missingQuery

/-! ### Command lines -/

/-- Help on the command of the given names. -/
def helpOn : List String → Usage
  | [] => .help
  | [name] => if (Name.ofText? name).isSome || name == "help" then .help else .unknownCommand
  | _ => .unknownCommand

/-- Why an option before any command is not taken. -/
def topOption (long : Bool) (cs : List Char) : Usage :=
  if long then
    let (name, value) := splitOption cs
    if name == "help" then if value.isSome then .surplusValue else .help
    else if name == "version" then if value.isSome then .surplusValue else .version
    else .unknownArgument
  else if cs.head? == some 'h' then .help
  else if cs.head? == some 'V' then .version
  else .unknownArgument

/-- Why arguments after `--` and without a command are not taken. -/
def trailingUsage : List String → Usage
  | [] => .nothingAsked
  | arg :: _ =>
    if (Name.ofText? arg).isSome || arg == "help" then .unknownArgument else .unknownCommand

def Invocation.ofArguments : List String → Except Usage Invocation
  | [] => .error .nothingAsked
  | arg :: args =>
    match Name.ofText? arg with
    | some n => n.read args
    | none =>
      if arg == "help" then .error (helpOn args)
      else
        match arg.toList with
        | ['-', '-'] => .error (trailingUsage args)
        | '-' :: '-' :: cs => .error (topOption true cs)
        | '-' :: c :: cs => .error (topOption false (c :: cs))
        | _ => .error .unknownCommand

end SqlPipeline.Command
