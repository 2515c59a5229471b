import IncludeScan.Index.Basic
import IncludeScan.Level
import IncludeScan.Pattern
import IncludeScan.Report
import IncludeScan.Tree.Usage

/-!
The scan of one file: which of its direct includes lead to nothing that it needs.

A path is needed when a symbol of the file is declared, defined canonically or extended there, or
when a member of such a declaration is; and when a name found in the file's text is canonical there.
The scan remembers the paths and symbols it has dealt with and does not deal with them again.
-/

set_option autoImplicit false

namespace IncludeScan.Scan

/-! ## The unit and its tree -/

/-- Whether a modification time is later than the one before; a missing time is before all. -/
def isLater : Option Int64 → Option Int64 → Bool
  | some t, some best => best < t
  | some _, none => true
  | none, _ => false

/-- The latest of the units and the best one so far; of equally late ones the first. -/
def latestOf (ix : SymbolIndex) (best : Option (String × Option Int64)) :
    List String → Except IndexError (Option (String × Option Int64))
  | [] => .ok best
  | unit :: units => do
    let time ← ix.modificationTime unit
    match best with
    | none => latestOf ix (some (unit, time)) units
    | some (_, bestTime) =>
      latestOf ix (if isLater time bestTime then some (unit, time) else best) units

def latestUnit (ix : SymbolIndex) (file : String) : Except IndexError (Option String) := do
  let units ← ix.unitsContaining file
  return (← latestOf ix none units).map (·.1)

/-! ## Needed paths -/

/-- What the scan has done so far: the marked tree, the paths dealt with, and the symbols dealt
with in full or as members. -/
structure Progress where
  tree : Tree
  paths : List String
  full : List String
  members : List String
  deriving DecidableEq, Repr, Inhabited

def Progress.start (tree : Tree) : Progress := ⟨tree, [], [], []⟩

structure Task where
  file : String
  level : Level
  deriving DecidableEq, Repr, Inhabited

/-- The root includes to mark for a needed path, all of them or the one that is not open to
choice. -/
def rootsFor (level : Level) (tree : Tree) (path : String) : List Nat × Tree :=
  if level.marksAllRoots then (tree.allRootIncludes path, tree)
  else
    let (root, tree) := tree.singleRootInclude path
    (root.toList, tree)

def needPath (task : Task) (p : Progress) (path : String) : Progress :=
  if path == task.file || p.paths.contains path then p
  else
    let (roots, tree) := rootsFor task.level p.tree path
    { p with tree := roots.foldl Tree.mark tree, paths := path :: p.paths }

/-- Whether an occurrence counts. One that extends its symbol does only where extensions are
checked and one of its relations has a base. -/
def counts (ix : SymbolIndex) (level : Level) (o : Occurrence) : Except IndexError Bool :=
  if !o.roles.contains .extendedBy then .ok true
  else if !level.checksExtends then .ok false
  else o.relations.anyM fun r => do
    return !(← ix.related r.symbol.usr .baseOf).isEmpty

def needDeclaration (ix : SymbolIndex) (task : Task) (p : Progress) (o : Occurrence) :
    Except IndexError Progress := do
  if ← counts ix task.level o then return needPath task p o.location.path else return p

/-- Deals with one member of a declaration. Methods need nothing. -/
def needMember (ix : SymbolIndex) (task : Task) (p : Progress) (member : Occurrence) :
    Except IndexError Progress := do
  let usr := member.symbol.usr
  if p.full.contains usr || p.members.contains usr || member.symbol.kind.isMethod then return p
  let declarations ← ix.occurrences usr (Roles.declaration.union .extendedBy)
  let p ← declarations.foldlM (needDeclaration ix task) p
  return { p with members := usr :: p.members }

/-- Deals with the members of a declaration, at the levels that check them. -/
def needMembers (ix : SymbolIndex) (task : Task) (p : Progress) (o : Occurrence) :
    Except IndexError Progress := do
  if !task.level.checksContains || !o.roles.contains .declaration then return p
  let members ← ix.related o.symbol.usr .containedBy
  members.foldlM (needMember ix task) p

def needOccurrence (ix : SymbolIndex) (task : Task) (p : Progress) (o : Occurrence) :
    Except IndexError Progress := do
  if ← counts ix task.level o then
    let p ← needMembers ix task p o
    return needPath task p o.location.path
  else return p

def neededRoles : Roles :=
  (Roles.declaration.union .canonical).union .extendedBy

def needSymbol (ix : SymbolIndex) (task : Task) (p : Progress) (s : Symbol) :
    Except IndexError Progress := do
  if p.full.contains s.usr then return p
  let occurrences ← ix.occurrences s.usr neededRoles
  let p ← occurrences.foldlM (needOccurrence ix task) p
  return { p with full := s.usr :: p.full }

def needCanonical (task : Task) (p : Progress) (o : Occurrence) : Progress :=
  if p.full.contains o.symbol.usr then p
  else
    let p := needPath task p o.location.path
    { p with full := o.symbol.usr :: p.full }

def needName (ix : SymbolIndex) (task : Task) (p : Progress) (name : String) :
    Except IndexError Progress := do
  return (← ix.canonical name).foldl (needCanonical task) p

/-! ## The scan -/

/-- The names that the patterns find in the file's text, none when it cannot be read. -/
def namesIn (patterns : List TextPattern) (text : Option String) : List String :=
  match text with
  | some content => patterns.flatMap (fun p => p.names content)
  | none => []

def markNeeded (ix : SymbolIndex) (task : Task) (patterns : List TextPattern)
    (text : Option String) (tree : Tree) : Except IndexError Tree := do
  let symbols ← ix.symbolsIn task.file
  let p ← symbols.foldlM (needSymbol ix task) (.start tree)
  let p ← (namesIn patterns text).foldlM (needName ix task) p
  return p.tree.resolveBatches

/-- The unused direct includes of a file with the given text. -/
def unusedIncludes (ix : SymbolIndex) (task : Task) (patterns : List TextPattern)
    (text : Option String) : Except IndexError Report := do
  match ← latestUnit ix task.file with
  | none => return .notIndexed task.file
  | some unit =>
    let tree := Tree.build task.file (← ix.includesOf unit)
    let tree ← markNeeded ix task patterns text tree
    return ⟨task.file, some unit, tree.unusedRootIncludes⟩

end IncludeScan.Scan
