import IncludeScan.CommandLine.Run
import IncludeScan.FileSystem.Changes
import IncludeScan.Index.RowText

/-!
The command line. The part of the disk that the arguments name is read into a file system value, the
command runs on that value, and the files it has changed are written back.
-/

set_option autoImplicit false

namespace IncludeScan.CommandLine

/-! ## Contents on the disk -/

def contentOfBytes (b : ByteArray) : Content :=
  match Content.ofBytes b with
  | .text s => ((RowStore.decode? s).map Content.rows).getD (.text s)
  | content => content

def bytesOfContent : Content → ByteArray
  | .text s => s.toUTF8
  | .bytes b => ⟨b.toArray⟩
  | .rows s => s.encode.toUTF8

/-! ## Reading the disk -/

/-- The place without links that a path leads to, if there is something. -/
def realPlace? (path : String) : IO (Option (List String)) := do
  try
    let real ← IO.FS.realPath path
    if ← real.pathExists then
      return some ((Path.parts real.toString).filter (· != ""))
    else return none
  catch _ => return none

/-- The item at a path without links. Only a deep look goes below a directory. -/
partial def loadItem (deep : Bool) (path : String) : IO (Option Item) := do
  try
    let real ← IO.FS.realPath path
    match (← real.metadata).type with
    | .dir =>
      let mut entries := Listing.nil
      if deep then
        for entry in ← real.readDir do
          let below := Path.join path entry.fileName
          if (← realPlace? below) == some ((Path.parts below).filter (· != "")) then
            if let some item ← loadItem true below then
              entries := entries.set entry.fileName item
          else entries := entries.set entry.fileName (.link below)
      return some (.directory entries)
    | .file => return some (.file (contentOfBytes (← IO.FS.readBinFile path)))
    | _ => return none
  catch _ => return none

def install (deep : Bool) (fs : FileSystem) (place : List String) : IO FileSystem := do
  if !deep && (fs.item? place).isSome then return fs
  match ← loadItem deep (FileSystem.textOfParts place) with
  | some item => return fs.put place item
  | none => return fs

/-- Follows a path from a place and puts in the links on the way and the item it leads to. A step
to nothing is taken as it is written, since a later one may lead back. -/
def follow (deep : Bool) (fs : FileSystem) (here : List String) :
    List String → IO FileSystem
  | [] => install deep fs here
  | "." :: steps => follow deep fs here steps
  | ".." :: steps => follow deep fs here.dropLast steps
  | step :: steps => do
    let there := here ++ [step]
    match ← realPlace? (FileSystem.textOfParts there) with
    | none => follow deep (← install false fs here) there steps
    | some real =>
      let fs := if real == there then fs else fs.put there (.link (FileSystem.textOfParts real))
      follow deep fs real steps

def loadPath (fs : FileSystem) (deep : Bool) (path : String) : IO FileSystem :=
  if path.isEmpty || path.toList.contains '\x00' then return fs
  else follow deep fs (if FileSystem.isAbsolute path then [] else fs.cwd) (FileSystem.stepsOf path)

def indexPaths (name : String) : List String :=
  match StoreName.parse name with
  | .ok s => [name, s.file]
  | .error _ => [name]

/-- The part of the disk that a command needs. The folder comes first, since it is read as a
whole. -/
def load (fs : FileSystem) : Command → IO FileSystem
  | .scan o => do
    let fs ← o.folder.toList.foldlM (fun fs path => loadPath fs true path) fs
    (indexPaths o.index ++ o.files).foldlM (fun fs path => loadPath fs false path) fs
  | .importSnapshot snapshot output =>
    (snapshot :: indexPaths output).foldlM (fun fs path => loadPath fs false path) fs
  | _ => return fs

/-! ## The environment -/

def variableNames : List String :=
  ["INCPRUNE_SCAN_LEVEL", "INCPRUNE_EXTRA_PATTERNS", "INCPRUNE_MAX_CONCURRENCY"]

def readEnvironment : IO Environment := do
  let values ← variableNames.mapM fun name => do
    return (← IO.getEnv name).map (fun value => (name, value))
  return values.filterMap id

end IncludeScan.CommandLine

open IncludeScan CommandLine in
def main (args : List String) : IO UInt32 := do
  let here := (← realPlace? (← IO.currentDir).toString).getD []
  let start := FileSystem.atDirectory here
  let before ← match readCommand false args with
    | some command => load start command
    | none => pure start
  let (outcome, fs) := run (← readEnvironment) before args
  for piece in outcome.printed do
    IO.print piece.text
  for (place, content) in fs.changedSince before do
    IO.FS.writeBinFile (FileSystem.textOfParts place) (bytesOfContent content)
  for notice in outcome.notices do
    IO.eprintln notice
  if let some reason := outcome.error then
    IO.eprintln ("Error: " ++ reason)
  if outcome.exit == 2 then
    helpLines.forM fun line => IO.eprintln line
  return outcome.exit.toUInt32
