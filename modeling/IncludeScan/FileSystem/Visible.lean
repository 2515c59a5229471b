import IncludeScan.FileSystem.Basic

/-!
The visible files of a folder: the regular files below it that are reached without passing through
a name that starts with a dot or through a symbolic link.

A search goes by what the operating system shows of a folder. Names are bytes, and a directory may
be one that cannot be read, for want of permission, because its path is too long, or for any other
reason. Directories are read one after the other, the one met last first, and one that cannot be
read is passed over.

* `Shown`, `ShownListing`: what the operating system shows.
* `ShownListing.visibleFiles`: the search.
* `FileSystem.lookInto`: what a file system shows of a folder.
-/

set_option autoImplicit false

namespace IncludeScan

/-! ## Folders as they are shown -/

mutual

/-- An item in a directory. A symbolic link, a device or an item whose kind cannot be told is
`other`. -/
inductive Shown where
  | file
  | directory (readable : Bool) (entries : ShownListing)
  | other

/-- The named items that a directory lists, up to its end or to an error in reading it. -/
inductive ShownListing where
  | nil
  | cons (name : Bytes) (item : Shown) (rest : ShownListing)

end

mutual

def Shown.directories : Shown → Nat
  | .file | .other => 0
  | .directory _ entries => entries.directories + 1

def ShownListing.directories : ShownListing → Nat
  | .nil => 0
  | .cons _ item rest => item.directories + rest.directories

end

/-! ## The search -/

/-- A directory still to be read: its path, whether it can be read, and what it lists. -/
structure Pending where
  path : Bytes
  readable : Bool
  entries : ShownListing

/-- A search under way: the files found, and the directories still to be read. -/
structure Search where
  files : List Bytes
  pending : List Pending

namespace Search

def meet (folder name : Bytes) (item : Shown) (s : Search) : Search :=
  if Path.isHidden name then s
  else match item with
    | .file => { s with files := Path.joinBytes folder name :: s.files }
    | .directory readable entries =>
      { s with pending := ⟨Path.joinBytes folder name, readable, entries⟩ :: s.pending }
    | .other => s

def collect (folder : Bytes) : ShownListing → Search → Search
  | .nil, s => s
  | .cons name item rest, s => collect folder rest (s.meet folder name item)

/-- The number of directories that are still to be read, those not yet met included. -/
def remaining (s : Search) : Nat :=
  s.pending.foldr (fun d n => d.entries.directories + 1 + n) 0

theorem remaining_meet_le (folder name : Bytes) (item : Shown) (s : Search) :
    (s.meet folder name item).remaining ≤ item.directories + s.remaining := by
  unfold meet
  split
  · omega
  · cases item with
    | file => exact Nat.le_add_left _ _
    | other => exact Nat.le_add_left _ _
    | directory readable entries => exact Nat.le_refl _

theorem remaining_collect_le (folder : Bytes) (entries : ShownListing) (s : Search) :
    (s.collect folder entries).remaining ≤ entries.directories + s.remaining :=
  match entries with
  | .nil => by simp [collect, ShownListing.directories]
  | .cons name item rest => by
    have hmeet := remaining_meet_le folder name item s
    have hrest := remaining_collect_le folder rest (s.meet folder name item)
    rw [collect, ShownListing.directories]
    omega

/-- The files found once no directory is left to be read. -/
def filesOf (files : List Bytes) : List Pending → List Bytes
  | [] => files
  | d :: pending =>
    if d.readable then
      let s := collect d.path d.entries ⟨files, pending⟩
      filesOf s.files s.pending
    else filesOf files pending
termination_by pending => (⟨files, pending⟩ : Search).remaining
decreasing_by
  · have := remaining_collect_le d.path d.entries ⟨files, pending⟩
    simp only [remaining, List.foldr_cons] at *
    omega
  · simp only [remaining, List.foldr_cons]
    omega

end Search

/-- The visible files below a folder, as the folder's path followed by the names on the way. -/
def ShownListing.visibleFiles (entries : ShownListing) (folder : Bytes) : List Bytes :=
  let s := Search.collect folder entries ⟨[], []⟩
  (Search.filesOf s.files s.pending).mergeSort Path.le

/-! ## What a file system shows -/

def FileSystem.isDirectory (fs : FileSystem) (path : String) : Bool :=
  match fs.open? path with
  | .ok (.directory _) => true
  | _ => false

mutual

/-- An item as it is shown under a path. A directory is read through its path. -/
def Item.shown (fs : FileSystem) (path : String) : Item → Shown
  | .file _ => .file
  | .directory entries => .directory (fs.isDirectory path) (entries.shown fs path)
  | .link _ => .other

def Listing.shown (fs : FileSystem) (folder : String) : Listing → ShownListing
  | .nil => .nil
  | .cons name item rest =>
    .cons (Bytes.ofText name) (item.shown fs (Path.join folder name)) (rest.shown fs folder)

end

def FileSystem.lookInto (fs : FileSystem) (folder : String) : Except IoError ShownListing :=
  match fs.open? folder with
  | .ok (.directory entries) => .ok (entries.shown fs folder)
  | .ok _ => .error .notDirectory
  | .error e => .error e

end IncludeScan
