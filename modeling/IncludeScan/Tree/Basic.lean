import IncludeScan.Entry
import IncludeScan.Index.PositionTable

/-!
Include trees. Each attached include directive is a node below the node of the file that contains
it; node `0` stands for the analyzed file itself.

The tree is plain data: `nodes` in the order of attaching, `byTarget` the nodes of each included
path, `unresolved` the nodes tried first when a directive is attached, `parked` the directives that
fit nowhere yet, and `batches` the groups of nodes among which a choice is still open.
-/

set_option autoImplicit false

namespace IncludeScan

structure Node where
  entry : Entry
  parent : Option Nat
  children : List Nat
  used : Bool
  deriving DecidableEq, Repr, Inhabited

structure Tree where
  nodes : Array Node
  byTarget : PositionTable
  unresolved : List Nat
  parked : List Entry
  batches : List (List Nat)
  deriving DecidableEq, Repr, Inhabited

namespace Tree

def ofFile (file : String) : Tree :=
  ⟨#[⟨⟨file, file, 0⟩, none, [], false⟩], .empty, [0], [], []⟩

def size (t : Tree) : Nat :=
  t.nodes.size - 1

def entry? (t : Tree) (i : Nat) : Option Entry :=
  t.nodes[i]?.map (·.entry)

def target? (t : Tree) (i : Nat) : Option String :=
  t.nodes[i]?.map (·.entry.target)

def parent? (t : Tree) (i : Nat) : Option Nat :=
  t.nodes[i]?.bind (·.parent)

def children (t : Tree) (i : Nat) : List Nat :=
  (t.nodes[i]?.map (·.children)).getD []

def isUsed (t : Tree) (i : Nat) : Bool :=
  (t.nodes[i]?.map (·.used)).getD false

def file (t : Tree) : String :=
  (t.target? 0).getD ""

def rootIncludes (t : Tree) : List Nat :=
  t.children 0

def nodesFor (t : Tree) (path : String) : List Nat :=
  t.byTarget.positions path

end Tree
end IncludeScan
