import IncludeScan.Entry
import IncludeScan.Symbol.Occurrence

/-!
Compilation units with their include lists, and snapshots: the whole content of an index as one
value.
-/

set_option autoImplicit false

namespace IncludeScan

/-- A compilation unit: its main file and every include directive met while compiling it. -/
structure CompilationUnit where
  name : String
  mainFile : String
  modifiedAt : Option Int64
  includes : List Entry
  deriving DecidableEq, Repr, Inhabited

def CompilationUnit.references (u : CompilationUnit) (path : String) : Bool :=
  u.mainFile == path || u.includes.any (fun e => e.source == path || e.target == path)

/-- All units and all occurrences of an index, in index order. -/
structure Snapshot where
  units : List CompilationUnit
  occurrences : List Occurrence
  deriving DecidableEq, Repr, Inhabited

end IncludeScan
