import IncludeScan.FileSystem.Unlinked
import IncludeScan.Index.Memory
import IncludeScan.Index.StoreName
import IncludeScan.Snapshot.Decode

/-!
Opening an index from a file: a snapshot in JSON, or stored rows.
-/

set_option autoImplicit false

namespace IncludeScan

def MemoryIndex.load (fs : FileSystem) (path : String) : Except IndexError MemoryIndex := do
  let text ← (fs.readText path).mapError .io
  match Snapshot.decode? text with
  | some s => return .ofSnapshot s
  | none => .error .malformedSnapshot

/-- A store in use: at a place in the file system, or in memory, then maybe under a key. -/
inductive OpenStore where
  | file (place : List String) (readOnly : Bool)
  | memory (key : Option String) (rows : RowStore)

namespace OpenStore

def rows (fs : FileSystem) : OpenStore → RowStore
  | file place _ =>
    match fs.item? place with
    | some (.file (.rows s)) => s
    | _ => .empty
  | memory _ s => s

def isReadOnly : OpenStore → Bool
  | file _ readOnly => readOnly
  | memory _ _ => false

def setRows (fs : FileSystem) (rows : RowStore) : OpenStore → OpenStore × FileSystem
  | file place readOnly => (file place readOnly, fs.put place (.file (.rows rows)))
  | memory key _ => (memory key rows, fs)

/-- The store in memory with a key, as long as it is in use. -/
def underKey? (key : String) : OpenStore → Option RowStore
  | memory (some k) s => if k = key then some s else none
  | _ => none

/-- Opens a store in memory: the one in use if it has the same key, else a new one. -/
def openMemory (inUse : Option OpenStore) (s : StoreName) : Except StoreError OpenStore :=
  if s.access == .readOnly then .error .readOnly
  else
    let found := do (← inUse).underKey? (← s.key?)
    .ok (.memory s.key? (found.getD .empty))

/-- How many bytes the name of a journal is longer than that of its store. -/
def journalBytes : Nat := 8

/-- Whether a journal can stand beside a store at a place. -/
def leavesRoom (place : List String) : Bool :=
  ((place.getLast?.getD "").utf8ByteSize + journalBytes ≤ FileSystem.nameLimit)

def isNear (place : List String) : Bool :=
  (FileSystem.textOfParts place).utf8ByteSize + journalBytes ≤ FileSystem.unlinkedLimit

/-- Opens a store at a place. An empty file is an empty store, and so is a missing one if its
directory exists; its tables are to be written first. Only when reading does a directory turn out
not to be a file. -/
def openPlace (fs : FileSystem) (name : String) (s : StoreName) (place : List String) :
    Except StoreError OpenStore × FileSystem :=
  let readOnly := s.access == .readOnly || s.immutable
  let fresh : Except StoreError OpenStore × FileSystem :=
    if readOnly then (.error .readOnly, fs.put place (.file (.text "")))
    else if !leavesRoom place then (.error .noJournal, fs.put place (.file (.text "")))
    else (.ok (.file place false), fs.put place (.file (.rows .empty)))
  match fs.item? place, fs.item? place.dropLast with
  | some (.file (.rows _)), _ => (.ok (.file place readOnly), fs)
  | some (.file (.text "")), _ => fresh
  | some (.file _), _ => (.error .notAStore, fs)
  | some (.directory _), _ =>
    (.error (if s.access == .readOnly then .unreadable else .cannotOpen name), fs)
  | none, some (.directory _) =>
    if s.access == .create then fresh else (.error (.cannotOpen name), fs)
  | _, _ => (.error (.cannotOpen name), fs)

/-- Opens the store with a name, `inUse` being the one used so far. -/
def ofName (fs : FileSystem) (inUse : Option OpenStore) (name : String) :
    Except StoreError OpenStore × FileSystem :=
  match StoreName.parse name with
  | .error e => (.error e, fs)
  | .ok s =>
    if s.inMemory then (openMemory inUse s, fs)
    else match fs.unlinked s.file with
    | some (part :: parts) =>
      if isNear (part :: parts) then openPlace fs name s (part :: parts)
      else (.error (.cannotOpen name), fs)
    | _ => (.error (.cannotOpen name), fs)

/-- Imports a snapshot. Without units and occurrences nothing is written. -/
def importSnapshot (fs : FileSystem) (shot : Snapshot) (s : OpenStore) :
    Except StoreError (OpenStore × FileSystem) :=
  if s.isReadOnly then
    if shot.units.isEmpty && shot.occurrences.isEmpty then .ok (s, fs) else .error .readOnly
  else .ok (s.setRows fs ((s.rows fs).importSnapshot shot))

end OpenStore

/-- Whether a path names a snapshot file: its extension is `json`, in any case of ASCII letters. -/
def isSnapshotPath (path : String) : Bool :=
  (Path.extension? path).map (fun e => e.toList.map Char.toLower) == some ['j', 's', 'o', 'n']

def SymbolIndex.openFile (fs : FileSystem) (path : String) :
    Except IndexError SymbolIndex × FileSystem :=
  if isSnapshotPath path then ((MemoryIndex.load fs path).map (·.queries), fs)
  else
    let (s, fs) := OpenStore.ofName fs none path
    ((s.map (fun s => (s.rows fs).queries)).mapError .store, fs)

end IncludeScan
