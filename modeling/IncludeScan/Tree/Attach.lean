import IncludeScan.Tree.Basic

/-!
Building an include tree from directives in any order.

A directive goes below a recently attached node that includes its source file, else below the last
attached node that does. One that fits nowhere is parked, and parked directives are tried again
until a whole pass over them attaches none.
-/

set_option autoImplicit false

namespace IncludeScan.Tree

def attach (t : Tree) (parent : Nat) (e : Entry) : Tree :=
  { t with
    nodes := (t.nodes.push ⟨e, some parent, [], false⟩).modify parent
      (fun n => { n with children := n.children ++ [t.nodes.size] })
    byTarget := t.byTarget.record e.target t.nodes.size }

/-- Whether a node may take the directive as a child when all nodes are searched: it includes the
directive's source file, and the directive does not include that file again. -/
def accepts (e : Entry) (n : Node) : Bool :=
  n.entry.target == e.source && n.entry.target != e.target

def lastAccepting? (t : Tree) (e : Entry) : Option Nat :=
  (t.nodes.toList.zipIdx.filter (fun p => accepts e p.1)).getLast?.map (·.2)

/-- Attaches a directive below the last node that accepts it. A directive equal to an attached one
is attached already. -/
def attachAnywhere? (t : Tree) (e : Entry) : Option Tree :=
  if t.nodes.any (fun n => n.entry == e) then some t
  else (t.lastAccepting? e).map (fun p => t.attach p e)

/-- Whether an equal directive is attached below the root. -/
def holds (t : Tree) (e : Entry) : Bool :=
  (t.nodesFor e.target).any (fun i => t.entry? i == some e)

def unresolvedParent? (t : Tree) (e : Entry) : Option Nat :=
  t.unresolved.find? (fun i => t.target? i == some e.source)

/-- Attaches a directive below an unresolved node. The new node becomes unresolved, and the nodes
with the entry of the parent's grandparent no longer are. -/
def attachUnresolved (t : Tree) (parent : Nat) (e : Entry) : Tree :=
  let kept := match (t.parent? parent).bind t.parent? with
    | some stale => t.unresolved.filter (fun i => t.entry? i != t.entry? stale)
    | none => t.unresolved
  { t.attach parent e with unresolved := kept ++ [t.nodes.size] }

def add (t : Tree) (e : Entry) : Tree :=
  if t.holds e then t
  else match t.unresolvedParent? e with
    | some parent => t.attachUnresolved parent e
    | none => match t.attachAnywhere? e with
      | some t' => t'
      | none => { t with parked := t.parked ++ [e] }

/-- Tries to attach the parked directives once each, the latest first. -/
def retryOnce (t : Tree) : Tree :=
  t.parked.foldr
    (fun e t => match t.attachAnywhere? e with
      | some t' => t'
      | none => { t with parked := e :: t.parked })
    { t with parked := [] }

/-- Passes over the parked directives until one attaches none. -/
def settle (t : Tree) : Tree :=
  if t.retryOnce.parked.length < t.parked.length then settle t.retryOnce else t.retryOnce
termination_by t.parked.length

/-- Tries the parked directives again. No node is unresolved afterwards. -/
def retry (t : Tree) : Tree :=
  settle { t with unresolved := [] }

def build (file : String) (entries : List Entry) : Tree :=
  (entries.foldl add (ofFile file)).retry

end IncludeScan.Tree
