import IncludeScan.Error
import IncludeScan.Snapshot.Basic

/-!
The seven queries through which a scan sees an index.
-/

set_option autoImplicit false

namespace IncludeScan

/-- An index of symbol occurrences, as the answers it gives. Lists are in index order. -/
structure SymbolIndex where
  unitsContaining : String → Except IndexError (List String)
  modificationTime : String → Except IndexError (Option Int64)
  includesOf : String → Except IndexError (List Entry)
  /-- The symbols that occur in a file, one per `usr`. -/
  symbolsIn : String → Except IndexError (List Symbol)
  /-- The occurrences of a `usr` with one of the roles. -/
  occurrences : String → Roles → Except IndexError (List Occurrence)
  /-- The occurrences with a relation to a `usr` by one of the roles. -/
  related : String → Roles → Except IndexError (List Occurrence)
  /-- The canonical occurrences of symbols of a name. -/
  canonical : String → Except IndexError (List Occurrence)

end IncludeScan
