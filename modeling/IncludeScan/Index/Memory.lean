import IncludeScan.Index.Basic
import IncludeScan.Index.PositionTable
import IncludeScan.Text.Distinct

/-!
An index held in memory: the units and occurrences in order of arrival, with two tables of
positions for the look-ups by `usr` and by path.
-/

set_option autoImplicit false

namespace IncludeScan

/-- Units and occurrences in order, and where each `usr` and each path occurs. -/
structure MemoryIndex where
  units : List CompilationUnit
  occurrences : Array Occurrence
  byUsr : PositionTable
  byPath : PositionTable
  deriving Inhabited

namespace MemoryIndex

def empty : MemoryIndex := ⟨[], #[], .empty, .empty⟩

def addUnit (m : MemoryIndex) (u : CompilationUnit) : MemoryIndex :=
  { m with units := m.units ++ [u] }

def addOccurrence (m : MemoryIndex) (o : Occurrence) : MemoryIndex :=
  { m with
    occurrences := m.occurrences.push o
    byUsr := m.byUsr.record o.symbol.usr m.occurrences.size
    byPath := m.byPath.record o.location.path m.occurrences.size }

def ofSnapshot (s : Snapshot) : MemoryIndex :=
  s.occurrences.foldl addOccurrence (s.units.foldl addUnit empty)

def snapshot (m : MemoryIndex) : Snapshot :=
  ⟨m.units, m.occurrences.toList⟩

def select (m : MemoryIndex) (positions : List Nat) : List Occurrence :=
  positions.filterMap (fun i => m.occurrences[i]?)

def unit? (m : MemoryIndex) (name : String) : Except IndexError CompilationUnit :=
  match m.units.find? (fun u => u.name == name) with
  | some u => .ok u
  | none => .error (.unknownUnit name)

def unitsContaining (m : MemoryIndex) (path : String) : List String :=
  (m.units.filter (fun u => u.references path)).map (·.name)

/-- The symbol of the first occurrence in the file of each `usr`. -/
def symbolsIn (m : MemoryIndex) (path : String) : List Symbol :=
  firstBy Symbol.usr ((m.select (m.byPath.positions path)).map (·.symbol))

def occurrencesOf (m : MemoryIndex) (usr : String) (roles : Roles) : List Occurrence :=
  (m.select (m.byUsr.positions usr)).filter (fun o => o.roles.intersects roles)

def relatedTo (m : MemoryIndex) (usr : String) (roles : Roles) : List Occurrence :=
  m.occurrences.toList.filter (fun o => o.isRelatedTo usr roles)

def canonicalOf (m : MemoryIndex) (name : String) : List Occurrence :=
  m.occurrences.toList.filter (fun o => o.symbol.name == name && o.roles.contains .canonical)

/-- The queries of the index. Only a look-up of an unknown unit fails. -/
def queries (m : MemoryIndex) : SymbolIndex where
  unitsContaining path := .ok (m.unitsContaining path)
  modificationTime name := (m.unit? name).map (·.modifiedAt)
  includesOf name := (m.unit? name).map (·.includes)
  symbolsIn path := .ok (m.symbolsIn path)
  occurrences usr roles := .ok (m.occurrencesOf usr roles)
  related usr roles := .ok (m.relatedTo usr roles)
  canonical name := .ok (m.canonicalOf name)

end MemoryIndex
end IncludeScan
