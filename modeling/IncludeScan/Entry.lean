import IncludeScan.Path

/-!
Include entries: one include directive of a source file, and the texts that report it.
-/

set_option autoImplicit false

namespace IncludeScan

/-- The directive on line `line` of `source` that includes `target`. -/
structure Entry where
  source : String
  target : String
  line : UInt32
  deriving DecidableEq, Repr, Inhabited

namespace Entry

def sourceName (e : Entry) : String :=
  Path.shortName e.source

def targetName (e : Entry) : String :=
  Path.shortName e.target

/-- The finding about an entry, at a severity such as `warning`. -/
def finding (severity : String) (e : Entry) : String :=
  s!"{e.source}:{e.line}: {severity}: The import for \"" ++ e.targetName ++ "\" could be removed"

def warning (e : Entry) : String :=
  e.finding "warning"

def errorText (e : Entry) : String :=
  e.finding "error"

def describe (e : Entry) : String :=
  s!"{e.source}:{e.line} -> {e.target}"

end Entry
end IncludeScan
