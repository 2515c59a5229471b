import IncludeScan.FileSystem.Basic

/-!
The regular files of a file system with their places, and which of them a run has changed.
-/

set_option autoImplicit false

namespace IncludeScan

mutual

def Item.files (place : List String) : Item → List (List String × Content)
  | .file content => [(place, content)]
  | .directory entries => entries.files place
  | .link _ => []

def Listing.files (place : List String) : Listing → List (List String × Content)
  | .nil => []
  | .cons name item rest => item.files (place ++ [name]) ++ rest.files place

end

namespace FileSystem

def contentAt? (fs : FileSystem) (place : List String) : Option Content :=
  match fs.item? place with
  | some (.file content) => some content
  | _ => none

def changedSince (fs before : FileSystem) : List (List String × Content) :=
  (fs.root.files []).filter (fun (place, content) => before.contentAt? place ≠ some content)

end FileSystem
end IncludeScan
