import IncludeScan.FileSystem.Basic

/-!
Paths resolved by their text. Parts are taken one by one: links are followed, `..` takes away the
part before it whatever that is, and parts that do not exist are kept.
-/

set_option autoImplicit false

namespace IncludeScan.FileSystem

/-- Paths are shorter than this, in bytes. -/
def unlinkedLimit : Nat := 512

def unlinkedLinks : Nat := 201

/-- Follows steps from a place. Nothing lies below a regular file. -/
def unlinkedFrom (fs : FileSystem) (links : Nat) (here : List String) (steps : List String) :
    Option (List String) :=
  match steps with
  | [] => some here
  | step :: steps =>
    if step = "" || step = "." then fs.unlinkedFrom links here steps
    else if step = ".." then fs.unlinkedFrom links here.dropLast steps
    else if unlinkedLimit ≤ (textOfParts (here ++ [step])).utf8ByteSize then none
    else match fs.item? here, fs.item? (here ++ [step]) with
    | some (.file _), _ => none
    | some (.directory _), none =>
      if nameLimit < step.utf8ByteSize then none
      else fs.unlinkedFrom links (here ++ [step]) steps
    | _, some (.link target) =>
      match links with
      | 0 => none
      | links + 1 =>
        fs.unlinkedFrom links (if isAbsolute target then [] else here)
          (Path.parts target ++ steps)
    | _, _ => fs.unlinkedFrom links (here ++ [step]) steps
termination_by (links, steps.length)

/-- The place that a path text names, free of links. -/
def unlinked (fs : FileSystem) (path : String) : Option (List String) :=
  fs.unlinkedFrom unlinkedLinks (if isAbsolute path then [] else fs.cwd) (Path.parts path)

end IncludeScan.FileSystem
