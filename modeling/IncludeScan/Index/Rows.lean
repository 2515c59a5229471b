import IncludeScan.Index.Basic
import IncludeScan.Text.Distinct

/-!
An index kept as rows of four tables. Importing a snapshot replaces units of the same name in place
and appends occurrences; a query selects rows, brings them into the order of their numbers and
decodes them.

Stored lines, columns and roles are signed 64-bit, because a row can be put in from outside
unchecked. A query that reads one outside the 32-bit range fails and names the number and its
column.
-/

set_option autoImplicit false

namespace IncludeScan

/-- A stored number where an integer is asked for. -/
instance storedInt : Coe Int64 Int := ⟨Int64.toInt⟩

structure UnitRow where
  name : String
  mainFile : String
  modifiedAt : Option Int64
  deriving DecidableEq, Repr, Inhabited

structure IncludeRow where
  unit : String
  seq : Int
  source : String
  target : String
  line : Int64
  deriving DecidableEq, Repr, Inhabited

structure OccurrenceRow where
  id : Int
  usr : String
  name : String
  kind : String
  path : String
  line : Int64
  column : Int64
  roles : Int64
  deriving DecidableEq, Repr, Inhabited

/-- A relation of the occurrence row whose `id` is `occurrence`. -/
structure RelationRow where
  occurrence : Int
  roles : Int64
  usr : String
  name : String
  kind : String
  deriving DecidableEq, Repr, Inhabited

structure RowStore where
  units : List UnitRow
  includes : List IncludeRow
  occurrences : List OccurrenceRow
  relations : List RelationRow
  deriving DecidableEq, Repr, Inhabited

namespace RowStore

def empty : RowStore := ⟨[], [], [], []⟩

/-! ## Writing -/

/-- The row number for the next occurrence: one more than the largest in use. -/
def nextId (s : RowStore) : Int :=
  match (s.occurrences.map (·.id)).max? with
  | some largest => largest + 1
  | none => 1

def ofUInt32 (n : UInt32) : Int64 :=
  n.toUInt64.toInt64

/-- Writes a unit row over the one of the same name, or appends it. -/
def putUnit (row : UnitRow) : List UnitRow → List UnitRow
  | [] => [row]
  | old :: rows => if old.name = row.name then row :: rows else old :: putUnit row rows

def includeRows (u : CompilationUnit) : List IncludeRow :=
  u.includes.zipIdx.map fun (e, i) =>
    ⟨u.name, i, e.source, e.target, ofUInt32 e.line⟩

/-- Stores a unit in place of an earlier one of its name and that one's includes. -/
def importUnit (s : RowStore) (u : CompilationUnit) : RowStore :=
  { s with
    units := putUnit ⟨u.name, u.mainFile, u.modifiedAt⟩ s.units
    includes := s.includes.filter (fun row => row.unit ≠ u.name) ++ includeRows u }

def occurrenceRow (id : Int) (o : Occurrence) : OccurrenceRow :=
  ⟨id, o.symbol.usr, o.symbol.name, o.symbol.kind.name, o.location.path,
    ofUInt32 o.location.line, ofUInt32 o.location.column, ofUInt32 o.roles.bits⟩

def relationRow (id : Int) (r : Relation) : RelationRow :=
  ⟨id, ofUInt32 r.roles.bits, r.symbol.usr, r.symbol.name, r.symbol.kind.name⟩

def importOccurrence (s : RowStore) (o : Occurrence) : RowStore :=
  { s with
    occurrences := s.occurrences ++ [occurrenceRow s.nextId o]
    relations := s.relations ++ o.relations.map (relationRow s.nextId) }

def importSnapshot (s : RowStore) (shot : Snapshot) : RowStore :=
  shot.occurrences.foldl importOccurrence (shot.units.foldl importUnit s)

/-- Puts in an occurrence row as it is. A row whose number is taken is refused. -/
def insertOccurrence (s : RowStore) (row : OccurrenceRow) : RowStore :=
  if row.id ∈ s.occurrences.map (·.id) then s
  else { s with occurrences := s.occurrences ++ [row] }

def insertRelation (s : RowStore) (row : RelationRow) : RowStore :=
  { s with relations := s.relations ++ [row] }

def insertInclude (s : RowStore) (row : IncludeRow) : RowStore :=
  { s with includes := s.includes ++ [row] }

/-! ## Decoding -/

def toUInt32 (column : Nat) (n : Int64) : Except StoreError UInt32 :=
  if 0 ≤ n.toInt ∧ n.toInt < 0x100000000 then .ok n.toInt.toNat.toUInt32
  else .error (.outOfRange n column)

/-- Whether a stored role number has a bit of the mask, in two's complement. -/
def hasRole (stored : Int64) (mask : Roles) : Bool :=
  stored &&& ofUInt32 mask.bits != 0

def decodeInclude (row : IncludeRow) : Except StoreError Entry := do
  return ⟨row.source, row.target, ← toUInt32 2 row.line⟩

def decodeOccurrence (row : OccurrenceRow) : Except StoreError Occurrence := do
  let line ← toUInt32 5 row.line
  let column ← toUInt32 6 row.column
  let roles ← toUInt32 7 row.roles
  return ⟨⟨row.usr, row.name, .ofName row.kind⟩, ⟨row.path, line, column⟩, ⟨roles⟩, []⟩

def decodeRelation (row : RelationRow) : Except StoreError Relation := do
  return ⟨⟨← toUInt32 0 row.roles⟩, ⟨row.usr, row.name, .ofName row.kind⟩⟩

def relationsOf (s : RowStore) (row : OccurrenceRow) : List RelationRow :=
  s.relations.filter (fun r => r.occurrence = row.id)

/-- Decodes every row, and only then the relations, row by row. -/
def decodeAll (s : RowStore) (rows : List OccurrenceRow) : Except StoreError (List Occurrence) := do
  let decoded ← rows.mapM fun row => do return (row, ← decodeOccurrence row)
  decoded.mapM fun (row, o) => do
    return { o with relations := ← (s.relationsOf row).mapM decodeRelation }

/-! ## Queries -/

def unit? (s : RowStore) (name : String) : Except IndexError UnitRow :=
  match s.units.find? (fun row => row.name == name) with
  | some row => .ok row
  | none => .error (.unknownUnit name)

def unitsContaining (s : RowStore) (path : String) : List String :=
  (s.units.filter fun row => row.mainFile == path || s.includes.any fun i =>
    i.unit == row.name && (i.source == path || i.target == path)).map (·.name)

/-- The include rows of a unit by sequence number, ties in row order. -/
def includeRowsOf (s : RowStore) (name : String) : List IncludeRow :=
  (s.includes.filter (fun row => row.unit == name)).mergeSort (fun a b => a.seq ≤ b.seq)

def includesOf (s : RowStore) (name : String) : Except IndexError (List Entry) := do
  let _ ← s.unit? name
  ((s.includeRowsOf name).mapM decodeInclude).mapError .store

/-- The selected occurrence rows by row number. -/
def selected (s : RowStore) (keep : OccurrenceRow → Bool) : List OccurrenceRow :=
  (s.occurrences.filter keep).mergeSort (fun a b => a.id ≤ b.id)

/-- The symbol of the first row in the file of each `usr`. Reads no number of a row but its own. -/
def symbolsIn (s : RowStore) (path : String) : List Symbol :=
  firstBy Symbol.usr ((s.selected fun row => row.path == path).map fun row =>
    ⟨row.usr, row.name, .ofName row.kind⟩)

def occurrenceRowsOf (s : RowStore) (usr : String) (roles : Roles) : List OccurrenceRow :=
  s.selected fun row => row.usr == usr && hasRole row.roles roles

def relatedRowsOf (s : RowStore) (usr : String) (roles : Roles) : List OccurrenceRow :=
  s.selected fun row => (s.relationsOf row).any (fun r => r.usr == usr && hasRole r.roles roles)

def canonicalRowsOf (s : RowStore) (name : String) : List OccurrenceRow :=
  s.selected fun row => row.name == name && hasRole row.roles .canonical

def queries (s : RowStore) : SymbolIndex where
  unitsContaining path := .ok (s.unitsContaining path)
  modificationTime name := (s.unit? name).map (·.modifiedAt)
  includesOf name := s.includesOf name
  symbolsIn path := .ok (s.symbolsIn path)
  occurrences usr roles := (s.decodeAll (s.occurrenceRowsOf usr roles)).mapError .store
  related usr roles := (s.decodeAll (s.relatedRowsOf usr roles)).mapError .store
  canonical name := (s.decodeAll (s.canonicalRowsOf name)).mapError .store

end RowStore
end IncludeScan
