import IncludeScan.Level
import IncludeScan.Pattern
import IncludeScan.Text.Fields

/-!
The configuration of a workspace, and what the environment changes in it.
-/

set_option autoImplicit false

namespace IncludeScan

/-- Level, text patterns, and how many files are scanned at once. Without `maxConcurrency` the
machine decides. -/
structure Config where
  level : Level
  patterns : List String
  maxConcurrency : Option Nat
  deriving DecidableEq, Repr, Inhabited

abbrev Environment := List (String × String)

namespace Config

def standard : Config := ⟨.standard, [TextPattern.selector], none⟩

/-- A number below 2 ^ 64 in decimal digits, with a plus sign or without. -/
def readCount? (s : String) : Option Nat :=
  let digits := match s.toList with
    | '+' :: cs => cs
    | cs => cs
  let n := digits.foldl (fun n c => 10 * n + (c.toNat - 48)) 0
  if digits.isEmpty || !digits.all Char.isDigit || 0x10000000000000000 ≤ n then none else some n

/-- The patterns in a list with semicolons between them. -/
def readPatterns (s : String) : List String :=
  (((Text.fields ';' s.toList).map Text.trim).filter (!·.isEmpty)).map String.ofList

def withLevel (c : Config) (level : Level) : Config :=
  { c with level := level }

def withPatterns (c : Config) (patterns : List String) : Config :=
  { c with patterns := patterns }

def withMaxConcurrency (c : Config) (n : Nat) : Config :=
  { c with maxConcurrency := some (max n 1) }

/-- The standard configuration with what the environment changes. Values that make no sense are
ignored. -/
def ofEnvironment (env : Environment) : Config :=
  let c := standard
  let c := match (env.lookup "INCPRUNE_SCAN_LEVEL").bind Level.ofName? with
    | some level => c.withLevel level
    | none => c
  let c := match env.lookup "INCPRUNE_EXTRA_PATTERNS" with
    | some s => c.withPatterns (readPatterns s)
    | none => c
  match (env.lookup "INCPRUNE_MAX_CONCURRENCY").bind readCount? with
  | some (n + 1) => { c with maxConcurrency := some (n + 1) }
  | _ => c

end Config
end IncludeScan
