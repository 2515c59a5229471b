import IncludeScan.Text.Bytes
import IncludeScan.Text.Fields

/-!
Path texts: their parts, file name, extension, and joining a folder with a name.

Paths are plain texts; two spellings of one place are different paths. Only the functions here look
inside one. What the operating system lists in a folder are bytes, which need not be a text.
-/

set_option autoImplicit false

namespace IncludeScan.Path

def parts (path : String) : List String :=
  (Text.fields '/' path.toList).map String.ofList

/-- The last part, where empty parts and `.` do not count. A path that ends in `..`, or has no
other part, has no file name. -/
def fileName? (path : String) : Option String :=
  match ((parts path).filter (fun p => p != "" && p != ".")).getLast? with
  | some ".." => none
  | name => name

/-- The file name, or the whole path when it has none. -/
def shortName (path : String) : String :=
  (fileName? path).getD path

/-- What follows the last dot of the file name, if something stands before that dot. -/
def extension? (path : String) : Option String :=
  (fileName? path).bind fun name =>
    match (Text.fields '.' name.toList).reverse with
    | _ :: [] => none
    | [_, []] => none
    | ext :: _ => some (String.ofList ext)
    | [] => none

/-- A folder's path text followed by a name, with one slash between them. -/
def join (folder name : String) : String :=
  String.ofList (Text.joined '/' folder.toList name.toList)

/-! ## Paths that need not be texts -/

/-- Whether a name is a text that starts with a dot. -/
def isHidden (name : Bytes) : Bool :=
  (Bytes.text? name).any (fun s => s.toList.head? == some '.')

def joinBytes (folder name : Bytes) : Bytes :=
  Text.joined Bytes.slash folder name

def le (a b : Bytes) : Bool :=
  !(Text.fields Bytes.slash b).lex (Text.fields Bytes.slash a)

end IncludeScan.Path
