import IncludeScan.Tree.Attach

/-!
Marking which includes of a tree are used.

A needed path with one node marks the root include above that node. A path with several nodes none
of which is used becomes a batch, and a batch still open at the end marks the root include above
its first node.
-/

set_option autoImplicit false

namespace IncludeScan.Tree

/-! ## Root includes -/

/-- The direct include of the analyzed file below which a node stands. Parents come before their
children, which bounds the climb. -/
def rootInclude (t : Tree) (i : Nat) : Nat :=
  match t.parent? i with
  | none => i
  | some p => if (t.parent? p).isNone then i else if p < i then t.rootInclude p else i
termination_by i

/-! ## Marking -/

/-- The children not yet looked at below unused nodes: each is visited at most once more. -/
def openChildren : List Node → Nat
  | [] => 0
  | n :: ns => (if n.used then 0 else n.children.length) + openChildren ns

def setUsed (t : Tree) (i : Nat) : Tree :=
  { t with nodes := t.nodes.modify i (fun n => { n with used := true }) }

theorem openChildren_modify {ns : List Node} {i : Nat} {n : Node} (h : ns[i]? = some n)
    (hu : n.used = false) :
    openChildren (ns.modify i (fun n => { n with used := true })) + n.children.length =
      openChildren ns := by
  induction ns generalizing i with
  | nil => simp at h
  | cons m ms ih =>
    cases i with
    | zero =>
      obtain rfl : m = n := by simpa using h
      simp [openChildren, hu]
      omega
    | succ i =>
      have := ih (i := i) (by simpa using h)
      simp only [List.modify_succ_cons, openChildren]
      omega

/-- Marks the nodes of a work list and everything below them, not going below nodes that are used
already. -/
def markAll (t : Tree) : List Nat → Tree
  | [] => t
  | i :: rest =>
    match _h : t.nodes[i]? with
    | none => t.markAll rest
    | some n =>
      if _hu : n.used then t.markAll rest
      else (t.setUsed i).markAll (n.children ++ rest)
termination_by work => work.length + openChildren t.nodes.toList
decreasing_by
  · simp
  · simp
  · have hl : t.nodes.toList[i]? = some n := by simpa using _h
    have := openChildren_modify hl (by simpa using _hu)
    simp only [setUsed, Array.toList_modify, List.length_append, List.length_cons]
    omega

def mark (t : Tree) (i : Nat) : Tree :=
  t.markAll [i]

def unusedRootIncludes (t : Tree) : List Entry :=
  (t.rootIncludes.filter (fun i => !t.isUsed i)).filterMap t.entry?

/-! ## Open choices -/

def checkBatches (t : Tree) : Tree :=
  { t with batches := t.batches.filter (fun b => !b.any t.isUsed) }

/-- The node that accounts for a needed path, if it is the only one for that path and not used.
Several unused nodes for the path become a batch. -/
def findNode (t : Tree) (path : String) : Option Nat × Tree :=
  let t := t.checkBatches
  let ids := t.nodesFor path
  if ids.any t.isUsed then (none, t)
  else match ids with
    | [] => (none, t)
    | [only] => (some only, t)
    | _ => (none, { t with batches := t.batches ++ [ids] })

def singleRootInclude (t : Tree) (path : String) : Option Nat × Tree :=
  let (found, t) := t.findNode path
  (found.map t.rootInclude, t)

def allRootIncludes (t : Tree) (path : String) : List Nat :=
  (t.nodesFor path).foldl
    (fun roots i => if roots.contains (t.rootInclude i) then roots else roots ++ [t.rootInclude i])
    []

/-- Settles one batch: unless a member is used, the root include above the first is marked. -/
def settleBatch (t : Tree) (batch : List Nat) : Tree :=
  if batch.any t.isUsed then t
  else match batch with
    | [] => t
    | first :: _ => t.mark (t.rootInclude first)

def resolveBatches (t : Tree) : Tree :=
  let t := t.checkBatches
  t.batches.foldl settleBatch { t with batches := [] }

end IncludeScan.Tree
