/-!
Scan levels, from the one that reports least to the one that reports most.
-/

set_option autoImplicit false

namespace IncludeScan

/-- How much a scan may leave unchecked before it calls an include unused. -/
inductive Level where
  | completelyUnused
  | allRemovable
  | withoutExtends
  | withoutContains
  | currentFileOnly
  deriving DecidableEq, Repr, Inhabited

namespace Level

def all : List Level :=
  [completelyUnused, allRemovable, withoutExtends, withoutContains, currentFileOnly]

def standard : Level := allRemovable

/-- The place of a level in the order, the safest first. -/
def rank : Level → Nat
  | completelyUnused => 0
  | allRemovable => 1
  | withoutExtends => 2
  | withoutContains => 3
  | currentFileOnly => 4

def name : Level → String
  | completelyUnused => "completely-unused"
  | allRemovable => "all-removable"
  | withoutExtends => "without-extends"
  | withoutContains => "without-contains"
  | currentFileOnly => "current-file-only"

def ofName? (s : String) : Option Level :=
  all.find? (fun l => l.name == s)

/-- Whether extensions that declare a base keep a header. -/
def checksExtends (l : Level) : Bool :=
  l.rank < withoutExtends.rank

/-- Whether members of a declaration keep their headers. -/
def checksContains (l : Level) : Bool :=
  l.rank < withoutContains.rank

/-- Whether every direct include that leads to a needed header is kept, not one of them. -/
def marksAllRoots (l : Level) : Bool :=
  l == completelyUnused

def sort (ls : List Level) : List Level :=
  ls.mergeSort (fun a b => a.rank ≤ b.rank)

@[simp] theorem ofName?_name (l : Level) : ofName? l.name = some l := by
  cases l <;> decide +kernel

end Level
end IncludeScan
