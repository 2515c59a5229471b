import IncludeScan.Config
import IncludeScan.FileSystem.Visible
import IncludeScan.Removal
import IncludeScan.Scan

/-!
Workspaces: scans of files and folders against one index.
-/

set_option autoImplicit false

namespace IncludeScan

/-- An index, a configuration and the compiled patterns of that configuration. -/
structure Workspace where
  index : SymbolIndex
  config : Config
  patterns : List TextPattern

namespace Workspace

/-- A workspace scans at least one file at a time. -/
def create (index : SymbolIndex) (config : Config) : Workspace :=
  ⟨index, { config with maxConcurrency := config.maxConcurrency.map (max 1) },
    TextPattern.compileAll config.patterns⟩

def scanFile (w : Workspace) (fs : FileSystem) (level : Level) (path : String) :
    Except IndexError Report :=
  Scan.unusedIncludes w.index ⟨path, level⟩ w.patterns (fs.readText path).toOption

/-- The failure for a path whose scan gives an error. The path is lost with a scan that is taken
down. -/
def failureFor (path : String) : IndexError → Failure
  | .crashed => ⟨"", .task⟩
  | e => ⟨path, .index e⟩

def outcome (w : Workspace) (fs : FileSystem) (level : Level) (path : String) :
    Except Failure Report :=
  (w.scanFile fs level path).mapError (failureFor path)

def collect (m : MultiReport) : Except Failure Report → MultiReport
  | .ok report => { m with reports := m.reports ++ [report] }
  | .error failure => { m with failures := m.failures ++ [failure] }

/-- The most permits there can be: three bits of their 64-bit counter serve as flags. -/
def maxPermits : Nat := 0x1FFFFFFFFFFFFFFF

/-- The scan of many files. A file whose scan fails does not touch the others. Nothing is scanned
with more files at once than there can be permits; the machine never decides on so many. -/
def scanFiles (w : Workspace) (fs : FileSystem) (level : Level) (paths : List String) :
    Except ScanError MultiReport :=
  if w.config.maxConcurrency.any (maxPermits < ·) then .error .tooManyPermits
  else .ok ((paths.map (w.outcome fs level)).foldl collect .empty)

/-- Reads the text of a filter and tells which paths it matches. -/
abbrev FilterEngine := String → Except PatternError (String → Bool)

def regexFilters : FilterEngine := fun text =>
  (Regex.compile text).map fun m path => m.isMatch path

def compileFilter (engine : FilterEngine) :
    Option String → Except ScanError (Option (String → Bool))
  | none => .ok none
  | some text =>
    match engine text with
    | .ok matched => .ok (some matched)
    | .error cause => .error (.pattern text cause)

def passes (including excluding : Option (String → Bool)) (path : String) : Bool :=
  including.all (· path) && !excluding.any (· path)

/-- The scan of the visible files below a folder that pass the filters, where `shown` is what the
operating system shows of the folder. -/
def scanFolder (w : Workspace) (engine : FilterEngine) (fs : FileSystem) (folder : Bytes)
    (shown : Except IoError ShownListing) (including excluding : Option String) (level : Level) :
    Except ScanError MultiReport := do
  let including ← compileFilter engine including
  let excluding ← compileFilter engine excluding
  let entries ← shown.mapError .io
  let paths := (entries.visibleFiles folder).map Bytes.lossy
  w.scanFiles fs level (paths.filter (passes including excluding))

end Workspace

def Report.removeUnused (fs : FileSystem) (r : Report) : Except ScanError (Nat × FileSystem) :=
  (Removal.run fs r.path r.unused).mapError .io

end IncludeScan
