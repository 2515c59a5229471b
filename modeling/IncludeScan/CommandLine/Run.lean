import IncludeScan.CommandLine.Arguments
import IncludeScan.Index.Open
import IncludeScan.Snapshot.Encode
import IncludeScan.Workspace

/-!
Running a command: what it prints, what it changes in the file system, and its exit status.
-/

set_option autoImplicit false

namespace IncludeScan.CommandLine

/-! ## Output -/

inductive Printed where
  | line (s : String)
  | report (m : MultiReport)
  deriving DecidableEq, Repr

/-- The outcome of a run. `notices` are lines on standard error, `error` is the reason for a
failure. -/
structure Outcome where
  exit : Nat
  printed : List Printed
  notices : List String
  error : Option String
  deriving DecidableEq, Repr

namespace Outcome

def success (printed : List Printed) : Outcome := ⟨0, printed, [], none⟩

def failure (printed : List Printed) (error : String) : Outcome := ⟨1, printed, [], some error⟩

/-- A scan gives no report, or takes the program down. -/
def noReport (printed : List Printed) : ScanError → Outcome
  | .tooManyPermits => ⟨101, printed, [], none⟩
  | e => failure printed e.message

def usage : Outcome := ⟨2, [], [], none⟩

end Outcome

open Json in
def reportTokens (r : Report) : List Token :=
  objectTokens
    [("file_path", strToken r.path),
      ("unit", match r.unit with
        | some unit => strToken unit
        | none => [.null]),
      ("unused", arrayTokens (r.unused.map Entry.tokens))]

open Json in
def multiReportTokens (m : MultiReport) : List Token :=
  objectTokens
    [("reports", arrayTokens (m.reports.map reportTokens)),
      ("failures", arrayTokens (m.failures.map fun f =>
        objectTokens [("file_path", strToken f.path), ("error", strToken f.error.message)]))]

def Printed.text : Printed → String
  | .line s => s ++ "\n"
  | .report m => String.ofList (Json.indented 0 (multiReportTokens m)) ++ "\n"

/-! ## Scanning -/

def reportLines (silent : Bool) (r : Report) : List String :=
  if r.isIndexed then r.unused.map Entry.warning
  else if silent then []
  else [r.path ++ ": no index data"]

def textLines (silent : Bool) (m : MultiReport) : List String :=
  let reports := m.reports.mergeSort (fun a b => a.path ≤ b.path)
  let unused := m.unusedEntries.length
  let indexed := (reports.filter Report.isIndexed).length
  reports.flatMap (reportLines silent) ++
    if silent then []
    else ["", s!"Found {unused} unused include(s) in {indexed} indexed file(s)"]

def failureLines (m : MultiReport) : List String :=
  m.failures.map (fun f => f.path ++ ": scan failed: " ++ f.error.message)

/-- Deletes what the reports found, report after report, and counts the lines. A file that cannot
be edited is passed over. -/
def deleteUnused (fs : FileSystem) (reports : List Report) : Nat × FileSystem :=
  (reports.filter (fun r => !r.unused.isEmpty)).foldl
    (fun (removed, fs) r =>
      match r.removeUnused fs with
      | .ok (n, fs) => (removed + n, fs)
      | .error _ => (removed, fs))
    (0, fs)

/-- An existing file's absolute path without links; any other path as it is given. -/
def absolutePath (fs : FileSystem) (path : String) : String :=
  match fs.canonical path with
  | .ok absolute => absolute
  | .error _ => path

def finishScan (fs : FileSystem) (o : ScanOptions) (before : List Printed) (m : MultiReport) :
    Outcome × FileSystem :=
  let found := if o.json then [.report m] else (textLines o.silent m).map .line
  let (removed, fs) := if o.delete then deleteUnused fs m.reports else (0, fs)
  let deleted :=
    if o.delete && !o.silent then [.line s!"Removed {removed} include line(s)"] else []
  let printed := before ++ found ++ deleted
  let notices := if o.json then [] else failureLines m
  let failed := m.failures.length
  if failed = 0 then (⟨0, printed, notices, none⟩, fs)
  else (⟨1, printed, notices, some s!"{failed} file(s) failed to scan"⟩, fs)

def scanTargets (w : Workspace) (fs : FileSystem) (o : ScanOptions) : Outcome × FileSystem :=
  let level := w.config.level
  match o.folder with
  | some folder =>
    match fs.canonical folder with
    | .error e => (.failure [] e.message, fs)
    | .ok folder =>
      let before := if o.silent then [] else [.line s!"Scanning folder: {folder} ({level.name})"]
      match w.scanFolder Workspace.regexFilters fs (Bytes.ofText folder) (fs.lookInto folder)
          o.including o.excluding level with
      | .error e => (.noReport before e, fs)
      | .ok m => finishScan fs o before m
  | none =>
    if o.files.isEmpty then (.failure [] "Nothing to scan: pass files or --folder", fs)
    else
      match w.scanFiles fs level (o.files.map (absolutePath fs)) with
      | .error e => (.noReport [] e, fs)
      | .ok m => finishScan fs o [] m

def scanConfig (env : Environment) (level : Option String) : Except String Config :=
  let config := Config.ofEnvironment env
  match level with
  | none => .ok config
  | some name =>
    match Level.ofName? name with
    | some level => .ok (config.withLevel level)
    | none => .error ("Unknown scan level: " ++ name)

def runScan (env : Environment) (fs : FileSystem) (o : ScanOptions) : Outcome × FileSystem :=
  match scanConfig env o.level with
  | .error reason => (.failure [] reason, fs)
  | .ok config =>
    match SymbolIndex.openFile fs o.index with
    | (.error e, fs) => (.failure [] e.message, fs)
    | (.ok index, fs) => scanTargets (.create index config) fs o

/-! ## Importing -/

def runImport (fs : FileSystem) (snapshot output : String) : Outcome × FileSystem :=
  match MemoryIndex.load fs snapshot with
  | .error e => (.failure [] e.message, fs)
  | .ok m =>
    let shot := m.snapshot
    let (store, fs) := OpenStore.ofName fs none output
    match store.bind (·.importSnapshot fs shot) with
    | .error e => (.failure [] (IndexError.store e).message, fs)
    | .ok (_, fs) =>
      let units := shot.units.length
      let occurrences := shot.occurrences.length
      (.success [.line
        s!"Imported {units} units and {occurrences} occurrences into {output}"], fs)

/-! ## Commands -/

def helpLines : List String :=
  ["Find and remove unused includes using a compiler symbol index", "",
    "Usage: incprune [--debug] <COMMAND>", "",
    "Commands:",
    "  scan    Scan files for unused includes",
    "  import  Import a JSON index snapshot into a stored index"]

def run (env : Environment) (fs : FileSystem) (args : List String) : Outcome × FileSystem :=
  match readCommand false args with
  | none => (.usage, fs)
  | some .version => (.success [.line "incprune 0.1.0"], fs)
  | some .help => (.success (helpLines.map .line), fs)
  | some (.scan o) => runScan env fs o
  | some (.importSnapshot snapshot output) => runImport fs snapshot output

end IncludeScan.CommandLine
