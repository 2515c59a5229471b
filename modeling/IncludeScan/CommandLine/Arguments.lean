/-!
Command-line arguments.

Options may be written `--name value`, `--name=value`, `-n value`, `-nvalue` or `-n=value`, and
short flags may be joined. An option comes at most once. After `--` nothing is an option.
-/

set_option autoImplicit false

namespace IncludeScan.CommandLine

/-! ## Options in general -/

/-- An option: its long name, its letter, whether it takes a value, and whether that value may be
empty. -/
structure OptionSpec where
  long : String
  short : Option Char
  takesValue : Bool
  mayBeEmpty : Bool
  deriving DecidableEq, Repr

/-- The options of a command, how many other arguments it takes, and whether these may be empty. -/
structure Grammar where
  options : List OptionSpec
  mostOthers : Option Nat
  othersMayBeEmpty : Bool
  deriving DecidableEq, Repr

/-- What has been read: the flags, the options with values, and the other arguments. -/
structure Parsed where
  flags : List String
  values : List (String × String)
  others : List String
  deriving DecidableEq, Repr

namespace Parsed

def empty : Parsed := ⟨[], [], []⟩

def addFlag? (p : Parsed) (spec : OptionSpec) : Option Parsed :=
  if p.flags.contains spec.long then none else some { p with flags := spec.long :: p.flags }

def addValue? (p : Parsed) (spec : OptionSpec) (value : String) : Option Parsed :=
  if (p.values.lookup spec.long).isSome || (value.isEmpty && !spec.mayBeEmpty) then none
  else some { p with values := (spec.long, value) :: p.values }

def addOther? (g : Grammar) (p : Parsed) (arg : String) : Option Parsed :=
  if g.mostOthers == some p.others.length || (arg.isEmpty && !g.othersMayBeEmpty) then none
  else some { p with others := p.others ++ [arg] }

def hasFlag (p : Parsed) (name : String) : Bool :=
  p.flags.contains name

def value? (p : Parsed) (name : String) : Option String :=
  p.values.lookup name

/-- Whether help has been asked for. Nothing after that is read. -/
def wantsHelp (p : Parsed) : Bool :=
  p.hasFlag "help"

end Parsed

/-- Whether an argument has the form of an option. A dash alone has not. -/
def isOptionLike (arg : List Char) : Bool :=
  match arg with
  | '-' :: _ :: _ => true
  | _ => false

/-- What the letters after a dash come to: more options, and the option that still waits for its
value. -/
def readLetters (g : Grammar) (p : Parsed) :
    List Char → Option (Parsed × Option OptionSpec)
  | [] => some (p, none)
  | x :: xs =>
    match g.options.find? (fun s => s.short == some x) with
    | none => none
    | some spec =>
      if spec.takesValue then
        match xs with
        | [] => some (p, some spec)
        | '=' :: xs => (p.addValue? spec (String.ofList xs)).map (·, none)
        | xs => (p.addValue? spec (String.ofList xs)).map (·, none)
      else (p.addFlag? spec).bind fun p =>
        if p.wantsHelp then some (p, none) else readLetters g p xs

def readLong (g : Grammar) (p : Parsed) (body : List Char) :
    Option (Parsed × Option OptionSpec) := do
  let name := String.ofList (body.takeWhile (· != '='))
  let spec ← g.options.find? (fun s => s.long == name)
  match body.dropWhile (· != '='), spec.takesValue with
  | _ :: value, true => (p.addValue? spec (String.ofList value)).map (·, none)
  | [], true => some (p, some spec)
  | [], false => (p.addFlag? spec).map (·, none)
  | _ :: _, false => none

/-- Reads arguments one by one, up to the first that is not used rightly or asks for help; `waiting`
is the option whose value comes next. -/
def readArguments (g : Grammar) (p : Parsed) (waiting : Option OptionSpec) :
    List String → Option Parsed
  | [] => if waiting.isNone then some p else none
  | arg :: args =>
    if p.wantsHelp then some p
    else match waiting, arg.toList with
    | some spec, cs =>
      if isOptionLike cs then none
      else (p.addValue? spec arg).bind (fun p => readArguments g p none args)
    | none, ['-', '-'] => args.foldlM (Parsed.addOther? g) p
    | none, '-' :: '-' :: body =>
      (readLong g p body).bind (fun (p, waiting) => readArguments g p waiting args)
    | none, '-' :: x :: xs =>
      (readLetters g p (x :: xs)).bind (fun (p, waiting) => readArguments g p waiting args)
    | none, _ => (p.addOther? g arg).bind (fun p => readArguments g p none args)

/-! ## The commands -/

structure ScanOptions where
  files : List String
  index : String
  folder : Option String
  including : Option String
  excluding : Option String
  level : Option String
  delete : Bool
  json : Bool
  silent : Bool
  deriving DecidableEq, Repr

inductive Command where
  | version
  | help
  | scan (options : ScanOptions)
  | importSnapshot (snapshot output : String)
  deriving DecidableEq, Repr

/-- Paths have to be named; other values may be empty. -/
def scanGrammar : Grammar :=
  ⟨[⟨"index", some 'i', true, false⟩, ⟨"folder", some 'f', true, false⟩,
    ⟨"match", none, true, true⟩, ⟨"exclude", none, true, true⟩, ⟨"level", some 'l', true, true⟩,
    ⟨"delete", none, false, true⟩, ⟨"json", none, false, true⟩, ⟨"silent", some 's', false, true⟩,
    ⟨"debug", none, false, true⟩, ⟨"help", some 'h', false, true⟩], none, true⟩

def importGrammar : Grammar :=
  ⟨[⟨"output", some 'o', true, false⟩, ⟨"debug", none, false, true⟩,
    ⟨"help", some 'h', false, true⟩], some 1, false⟩

def readScan (args : List String) : Option Command := do
  let p ← readArguments scanGrammar .empty none args
  if p.wantsHelp then return .help
  return .scan ⟨p.others, ← p.value? "index", p.value? "folder", p.value? "match",
    p.value? "exclude", p.value? "level", p.hasFlag "delete", p.hasFlag "json", p.hasFlag "silent"⟩

def readImport (args : List String) : Option Command := do
  let p ← readArguments importGrammar .empty none args
  if p.wantsHelp then return .help
  match p.others with
  | [snapshot] => return .importSnapshot snapshot (← p.value? "output")
  | _ => none

/-- The command that the arguments ask for; none when they are not used rightly. -/
def readCommand (debug : Bool) : List String → Option Command
  | [] => none
  | arg :: args =>
    match arg with
    | "scan" => readScan args
    | "import" => readImport args
    | "help" => if args.isEmpty || args ∈ [["scan"], ["import"], ["help"]] then some .help else none
    | "--help" => some .help
    | "--version" => some .version
    | "--debug" => if debug then none else readCommand true args
    | arg =>
      match arg.toList with
      | '-' :: 'V' :: _ => some .version
      | '-' :: 'h' :: _ => some .help
      | _ => none

end IncludeScan.CommandLine
