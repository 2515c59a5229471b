import IncludeScan.Error
import IncludeScan.Index.Rows
import IncludeScan.Path

/-!
A file system as a value: regular files, directories and symbolic links below one root, and a
working directory for relative paths.

* `locate`: where a path text leads, links followed.
* `readText`, `write`, `makeDirectory`, `makeLink`, `canonical`.
-/

set_option autoImplicit false

namespace IncludeScan

/-- What a regular file holds: a text, bytes that are no UTF-8, or the rows of a stored index. -/
inductive Content where
  | text (s : String)
  | bytes (b : List UInt8)
  | rows (s : RowStore)
  deriving DecidableEq, Inhabited

def Content.ofBytes (b : ByteArray) : Content :=
  match String.fromUTF8? b with
  | some s => .text s
  | none => .bytes b.toList

mutual

inductive Item where
  | file (content : Content)
  | directory (entries : Listing)
  | link (target : String)

inductive Listing where
  | nil
  | cons (name : String) (item : Item) (rest : Listing)

end

instance : Inhabited Item := ⟨.link ""⟩
instance : Inhabited Listing := ⟨.nil⟩

namespace Listing

def find? (name : String) : Listing → Option Item
  | nil => none
  | cons n item rest => if n = name then some item else rest.find? name

def set (name : String) (item : Item) : Listing → Listing
  | nil => cons name item nil
  | cons n old rest => if n = name then cons n item rest else cons n old (rest.set name item)

end Listing

/-- The root directory and the parts of the working directory's path. -/
structure FileSystem where
  root : Listing
  cwd : List String
  deriving Inhabited

namespace FileSystem

/-! ## Places -/

/-- The item at a path without links, given by its parts. -/
def itemIn (entries : Listing) : List String → Option Item
  | [] => some (.directory entries)
  | [name] => entries.find? name
  | name :: parts =>
    match entries.find? name with
    | some (.directory inner) => itemIn inner parts
    | _ => none

def item? (fs : FileSystem) (parts : List String) : Option Item :=
  itemIn fs.root parts

/-- Puts an item at a path without links. Directories on the way that are missing are made. -/
def putIn (entries : Listing) (item : Item) : List String → Listing
  | [] => entries
  | [name] => entries.set name item
  | name :: parts =>
    match entries.find? name with
    | some (.directory inner) => entries.set name (.directory (putIn inner item parts))
    | _ => entries.set name (.directory (putIn .nil item parts))

def put (fs : FileSystem) (parts : List String) (item : Item) : FileSystem :=
  { fs with root := putIn fs.root item parts }

/-! ## Path texts -/

/-- The steps that a path text asks for. A slash at the end asks for a directory. -/
def stepsOf (path : String) : List String :=
  (Path.parts path).filter (· != "") ++ (if path.toList.getLast? == some '/' then ["."] else [])

def isAbsolute (path : String) : Bool :=
  path.toList.head? == some '/'

def nameLimit : Nat := 255

/-- Path texts are shorter than this, in bytes. -/
def pathLimit : Nat := 4096

/-- Where a path leads: to an item, or to a name free in an existing directory. -/
inductive Place where
  | taken (parts : List String)
  | free (parts : List String)
  deriving DecidableEq, Repr

/-- Follows steps from a directory. Where a symbolic link is met, `follow` goes on from a place with
the steps still to take. -/
def walkWith (fs : FileSystem) (follow : List String → List String → Except IoError Place)
    (here : List String) : List String → Except IoError Place
  | [] => .ok (.taken here)
  | step :: steps =>
    match fs.item? here with
    | some (.directory entries) =>
      if step = "." then fs.walkWith follow here steps
      else if step = ".." then fs.walkWith follow here.dropLast steps
      else if nameLimit < step.utf8ByteSize then .error .nameTooLong
      else match entries.find? step with
        | none => if steps.isEmpty then .ok (.free (here ++ [step])) else .error .notFound
        | some (.link target) =>
          follow (if isAbsolute target then [] else here) (stepsOf target ++ steps)
        | some _ => fs.walkWith follow (here ++ [step]) steps
    | some _ => .error .notDirectory
    | none => .error .notFound

/-- Follows steps from a directory. At most `links` symbolic links are followed. -/
def walk (fs : FileSystem) : Nat → List String → List String → Except IoError Place
  | 0 => fs.walkWith fun _ _ => .error .linkLoop
  | links + 1 => fs.walkWith (fs.walk links)

def locate (fs : FileSystem) (path : String) : Except IoError Place :=
  if path.isEmpty then .error .notFound
  else if path.toList.contains '\x00' then .error .nulInName
  else if pathLimit ≤ path.utf8ByteSize then .error .nameTooLong
  else fs.walk 40 (if isAbsolute path then [] else fs.cwd) (stepsOf path)

/-- The parts of an existing item's path without links. -/
def resolve (fs : FileSystem) (path : String) : Except IoError (List String) :=
  match fs.locate path with
  | .ok (.taken parts) => .ok parts
  | .ok (.free _) => .error .notFound
  | .error e => .error e

def open? (fs : FileSystem) (path : String) : Except IoError Item :=
  match fs.resolve path with
  | .ok parts =>
    match fs.item? parts with
    | some item => .ok item
    | none => .error .notFound
  | .error e => .error e

def textOfParts (parts : List String) : String :=
  "/" ++ "/".intercalate parts

/-! ## Operations -/

/-- The absolute path without links of an existing item. -/
def canonical (fs : FileSystem) (path : String) : Except IoError String :=
  (fs.resolve path).map textOfParts

def read (fs : FileSystem) (path : String) : Except IoError Content :=
  match fs.open? path with
  | .ok (.file content) => .ok content
  | .ok _ => .error .isDirectory
  | .error e => .error e

def readText (fs : FileSystem) (path : String) : Except IoError String :=
  match fs.read path with
  | .ok (.text s) => .ok s
  | .ok _ => .error .notText
  | .error e => .error e

def write (fs : FileSystem) (path : String) (content : Content) : Except IoError FileSystem :=
  match fs.locate path with
  | .ok (.free parts) => .ok (fs.put parts (.file content))
  | .ok (.taken parts) =>
    match fs.item? parts with
    | some (.file _) => .ok (fs.put parts (.file content))
    | _ => .error .isDirectory
  | .error e => .error e

def makeDirectory (fs : FileSystem) (path : String) : FileSystem :=
  match fs.locate path with
  | .ok (.free parts) => fs.put parts (.directory .nil)
  | _ => fs

def makeLink (fs : FileSystem) (folder name target : String) : FileSystem :=
  match fs.resolve folder with
  | .ok parts => fs.put (parts ++ [name]) (.link target)
  | .error _ => fs

def atDirectory (parts : List String) : FileSystem :=
  ⟨putIn .nil (.directory .nil) parts, parts⟩

end FileSystem
end IncludeScan
