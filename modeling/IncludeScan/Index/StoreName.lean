import IncludeScan.Error

/-!
Names of stores. A name is a path, or a URI of the form

    file:PATH?option=value&option=value#anything

in which `%` and two hexadecimal digits stand for a byte. An authority, between two slashes and the
next one, is empty or `localhost`. The options `mode`, `cache`, `vfs` and `immutable` say how the
store is opened; others have no effect.
-/

set_option autoImplicit false

namespace IncludeScan

/-- What may be done with a store. A store in memory is always a new one. -/
inductive Access where
  | readOnly
  | readWrite
  | create
  | memory
  deriving DecidableEq, Repr

namespace Access

def ofName? : String → Option Access
  | "ro" => some readOnly
  | "rw" => some readWrite
  | "rwc" => some create
  | "memory" => some memory
  | _ => none

def rank : Access → Nat
  | memory => 0
  | readOnly => 1
  | readWrite => 2
  | create => 3

/-- Whether the access may be narrowed to another one. -/
def allows (current wanted : Access) : Bool :=
  current == memory || wanted.rank ≤ current.rank

end Access

/-- A store by its name: the file, and how it is opened. `onDisk` is false where the chosen file
system keeps its files in memory. -/
structure StoreName where
  file : String
  access : Access
  shared : Bool
  immutable : Bool
  onDisk : Bool
  deriving DecidableEq, Repr

namespace StoreName

def ofPath (path : String) : StoreName := ⟨path, .create, false, false, true⟩

/-! ## Escapes -/

def hexValue? (b : UInt8) : Option UInt8 :=
  if 48 ≤ b && b ≤ 57 then some (b - 48)
  else if 65 ≤ b && b ≤ 70 then some (b - 55)
  else if 97 ≤ b && b ≤ 102 then some (b - 87)
  else none

def escape? : List UInt8 → Option (UInt8 × List UInt8)
  | 37 :: a :: b :: rest => do return (16 * (← hexValue? a) + (← hexValue? b), rest)
  | _ => none

/-- Whether a byte ends a part: one of the given ones, or the mark before a fragment. -/
def isEnd (ends : List UInt8) (b : UInt8) : Bool :=
  b == 35 || ends.contains b

/-- Reads a part up to a byte that ends it. An escaped zero byte hides the rest of the part. -/
def readPart (ends : List UInt8) : Nat → List UInt8 → List UInt8 × List UInt8
  | 0, bs => ([], bs)
  | _ + 1, [] => ([], [])
  | fuel + 1, b :: rest =>
    if isEnd ends b then ([], b :: rest)
    else match escape? (b :: rest) with
    | some (0, rest) => ([], rest.dropWhile (!isEnd ends ·))
    | some (x, rest) =>
      let (part, rest) := readPart ends fuel rest
      (x :: part, rest)
    | none =>
      let (part, rest) := readPart ends fuel rest
      (b :: part, rest)

def textOf (bs : List UInt8) : String :=
  (String.fromUTF8? ⟨bs.toArray⟩).getD
    (String.ofList (bs.map (fun b => if b < 0x80 then Char.ofNat b.toNat else '�')))

/-! ## Options -/

/-- Reads options up to the fragment. One without a name is passed over. -/
def readOptions : Nat → List UInt8 → List (String × String)
  | 0, _ => []
  | fuel + 1, bs =>
    let (name, rest) := readPart [61, 38] bs.length bs
    match name, rest with
    | [], 61 :: rest =>
      match rest.dropWhile (fun b => b != 38 && b != 35) with
      | 38 :: rest => readOptions fuel rest
      | _ => []
    | [], 38 :: rest => readOptions fuel rest
    | [], _ => []
    | name, 61 :: rest =>
      match readPart [38] rest.length rest with
      | (value, 38 :: rest) => (textOf name, textOf value) :: readOptions fuel rest
      | (value, _) => [(textOf name, textOf value)]
    | name, 38 :: rest => (textOf name, "") :: readOptions fuel rest
    | name, _ => [(textOf name, "")]

/-- Whether a value says yes: a word for it, or a number other than zero in its lowest byte. -/
def isYes (value : String) : Bool :=
  let digits := value.toList.takeWhile Char.isDigit
  if digits.isEmpty then
    String.ofList (value.toList.map Char.toLower) ∈ ["on", "yes", "true"]
  else
    let n := digits.foldl (fun n d => 10 * n + (d.toNat - 48)) 0
    n < 0x80000000 && n % 256 != 0

def withOption (s : StoreName) (name value : String) : Except StoreError StoreName :=
  match name with
  | "mode" =>
    match Access.ofName? value with
    | none => .error (.noSuchMode "access" value)
    | some access =>
      if s.access.allows access then .ok { s with access } else .error (.modeNotAllowed value)
  | "cache" =>
    match value with
    | "shared" => .ok { s with shared := true }
    | "private" => .ok { s with shared := false }
    | _ => .error (.noSuchMode "cache" value)
  | _ => .ok s

/-- The file systems that a store can be kept in, and whether they are on the disk. -/
def fileSystems : List (String × Bool) :=
  [("unix", true), ("unix-none", true), ("unix-dotfile", true), ("unix-excl", true),
    ("memdb", false)]

def withFileSystem (s : StoreName) (name : Option String) : Except StoreError StoreName :=
  match name with
  | none => .ok s
  | some name =>
    match fileSystems.lookup name with
    | some onDisk => .ok { s with onDisk }
    | none => .error (.noSuchFileSystem name)

/-! ## Names -/

def dropAuthority (bs : List UInt8) : Except StoreError (List UInt8) :=
  match bs with
  | 47 :: 47 :: rest =>
    let authority := textOf (rest.takeWhile (· != 47))
    if authority ∈ ["", "localhost"] then .ok (rest.dropWhile (· != 47))
    else .error (.badAuthority authority)
  | bs => .ok bs

def ofUri (bs : List UInt8) : Except StoreError StoreName := do
  let bs ← dropAuthority bs
  let (file, rest) := readPart [63] bs.length bs
  let options := match rest with
    | 63 :: rest => readOptions rest.length rest
    | _ => []
  let s ← options.foldlM (fun s (o : String × String) => s.withOption o.1 o.2)
    (ofPath (textOf file))
  let s ← s.withFileSystem (options.reverse.lookup "vfs")
  return { s with immutable := ((options.lookup "immutable").map isYes).getD false }

def parse (name : String) : Except StoreError StoreName :=
  let bs := name.toUTF8.toList
  match bs.idxOf? 0 with
  | some position => .error (.nulInName position)
  | none =>
    match bs with
    | 102 :: 105 :: 108 :: 101 :: 58 :: rest => ofUri rest
    | _ => .ok (ofPath name)

def inMemory (s : StoreName) : Bool :=
  s.access == .memory || s.file == "" || s.file == ":memory:" || !s.onDisk

/-- The key by which a store in memory is found again while it is in use. In a file system in memory
that is an absolute path, elsewhere any file if the store is shared. -/
def key? (s : StoreName) : Option String :=
  let isAbsolute := s.file.length > 1 && s.file.toList.head? ∈ [some '/', some '\\']
  if s.file == "" then none
  else if s.onDisk then (if s.shared then some s.file else none)
  else if isAbsolute then some ("//" ++ s.file)
  else none

end StoreName
end IncludeScan
