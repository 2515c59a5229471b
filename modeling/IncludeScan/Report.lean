import IncludeScan.Entry
import IncludeScan.Error

/-!
Reports: what a scan of one file or of many files found.
-/

set_option autoImplicit false

namespace IncludeScan

/-- The unused includes of a file. `unit` is the unit the tree was built from; without one the
index knows nothing of the file. -/
structure Report where
  path : String
  unit : Option String
  unused : List Entry
  deriving DecidableEq, Repr, Inhabited

namespace Report

def notIndexed (path : String) : Report := ⟨path, none, []⟩

def isIndexed (r : Report) : Bool :=
  r.unit.isSome

end Report

/-- A file whose scan failed. The path is empty when the scan was taken down. -/
structure Failure where
  path : String
  error : ScanError
  deriving DecidableEq, Repr

structure MultiReport where
  reports : List Report
  failures : List Failure
  deriving DecidableEq, Repr

namespace MultiReport

def empty : MultiReport := ⟨[], []⟩

def unusedEntries (m : MultiReport) : List Entry :=
  m.reports.flatMap (·.unused)

def notIndexed (m : MultiReport) : List String :=
  (m.reports.filter (fun r => !r.isIndexed)).map (·.path)

/-- Reports and failures by path, in the order of code points. -/
def sorted (m : MultiReport) : MultiReport :=
  ⟨m.reports.mergeSort (fun a b => a.path ≤ b.path),
    m.failures.mergeSort (fun a b => a.path ≤ b.path)⟩

end MultiReport
end IncludeScan
