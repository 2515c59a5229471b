import IncludeScan.Regex.Fragment
import IncludeScan.Text.Distinct
import Std.Data.HashMap

/-!
How large an expression may be.

An expression is measured by the states of two automata over bytes, one that reads a text forwards
and one that reads it backwards. A state takes `stateBytes`, with `arcBytes` more for each of its
byte ranges and `edgeBytes` for each of its choices. The encodings of a class share states as far as
a small table remembers them; of two entries at one place of the table the later one stays.
-/

set_option autoImplicit false

namespace IncludeScan.Regex

/-! ## Tallies -/

/-- The bytes that an automaton may take. -/
def sizeLimit : Nat := 10485760

def stateBytes : Nat := 32

def arcBytes : Nat := 8

def edgeBytes : Nat := 4

/-- The number of states, and the bytes that they take beyond `stateBytes` each. -/
structure Tally where
  states : Nat
  extra : Nat
  deriving DecidableEq, Repr, Inhabited

namespace Tally

def bytes (t : Tally) : Nat :=
  stateBytes * t.states + t.extra

def checked (t : Tally) : Option Tally :=
  if t.bytes ≤ sizeLimit then some t else none

def add (states extra : Nat) (t : Tally) : Option Tally :=
  checked ⟨t.states + states, t.extra + extra⟩

def addChoice (n : Nat) : Tally → Option Tally :=
  add 1 (edgeBytes * n)

def times : Nat → (Tally → Option Tally) → Tally → Option Tally
  | 0, _, t => some t
  | n + 1, step, t =>
    match step t with
    | some t => times n step t
    | none => none

end Tally

/-! ## Tables -/

/-- Where a key stands in a table of `slots` places. -/
def slotOf (slots : UInt64) (key : List Nat) : UInt64 :=
  key.foldl (fun h n => (h ^^^ n.toUInt64) * 1099511628211) 14695981039346656037 % slots

/-- The states that a table remembers, by place: the key and the state. -/
abbrev SlotTable := Std.HashMap UInt64 (List Nat × Nat)

def SlotTable.find? (table : SlotTable) (slot : UInt64) (key : List Nat) : Option Nat :=
  match table.get? slot with
  | some (k, state) => if k = key then some state else none
  | none => none

structure SharedTally where
  tally : Tally
  table : SlotTable

/-! ## Classes read forwards -/

/-- A state being built: its arcs, each a byte range and a state, and the byte range of the arc that
is still open. -/
structure OpenState where
  arcs : List Nat
  last : Option ByteRange

def OpenState.closed (s : OpenState) (next : Nat) : List Nat :=
  match s.last with
  | some r => s.arcs ++ [r.first, r.last, next]
  | none => s.arcs

/-- The state with these arcs, a new one unless the table has it. -/
def SharedTally.state (arcs : List Nat) (b : SharedTally) : Option (Nat × SharedTally) :=
  let slot := slotOf 10000 arcs
  match b.table.find? slot arcs with
  | some state => some (state, b)
  | none => do
    let tally ← b.tally.add 1 (arcBytes * (arcs.length / 3))
    return (b.tally.states, ⟨tally, b.table.insert slot (arcs, b.tally.states)⟩)

/-- Completes the states of a path that ends at `target`, the last one first. Gives the state that
the path starts with. -/
def SharedTally.freeze (target : Nat) : List OpenState → SharedTally → Option (Nat × SharedTally)
  | [], b => some (target, b)
  | s :: path, b => do
    let (next, b) ← b.freeze target path
    b.state (s.closed next)

/-- Adds a sequence to the path of open states, leaving the states that it shares open. -/
def SharedTally.addSequence (target : Nat) :
    List OpenState → List ByteRange → SharedTally → Option (List OpenState × SharedTally)
  | s :: path, r :: rs, b =>
    if s.last = some r then do
      let (path, b) ← b.addSequence target path rs
      return (s :: path, b)
    else do
      let (next, b) ← b.freeze target path
      return (⟨s.closed next, some r⟩ :: rs.map (fun r => ⟨[], some r⟩), b)
  | path, _, b => some (path, b)

def Tally.addForward (sequences : List (List ByteRange)) (t : Tally) : Option Tally := do
  let target := t.states
  let b : SharedTally := ⟨← t.add 1 0, ∅⟩
  let (path, b) ← sequences.foldlM (fun (p : List OpenState × SharedTally) rs =>
    p.2.addSequence target p.1 rs) ([⟨[], none⟩], b)
  let (_, b) ← b.freeze target path
  return b.tally

/-! ## Classes read backwards -/

/-- Follows a sequence backwards from a state, adding the states that the table does not have. -/
def SharedTally.addReversed (start : Nat) (rs : List ByteRange) (b : SharedTally) :
    Option SharedTally := do
  let (_, b) ← rs.foldlM (fun (p : Nat × SharedTally) r =>
    let key := [p.1, r.first, r.last]
    let slot := slotOf 1000 key
    match p.2.table.find? slot key with
    | some state => some (state, p.2)
    | none => do
      let tally ← p.2.tally.add 1 0
      return (p.2.tally.states, ⟨tally, p.2.table.insert slot (key, p.2.tally.states)⟩))
    (start, b)
  return { b with tally := ← b.tally.add 0 edgeBytes }

def Tally.addBackward (sequences : List (List ByteRange)) (t : Tally) : Option Tally := do
  let b : SharedTally := ⟨← t.add 2 0, ∅⟩
  let b ← sequences.foldlM (fun b rs => b.addReversed (t.states + 1) rs) b
  return b.tally

/-! ## Literals -/

def splitEmpty : List (List Nat) → List (List (List Nat))
  | [] => [[]]
  | [] :: texts => [] :: splitEmpty texts
  | text :: texts =>
    match splitEmpty texts with
    | chunk :: chunks => (text :: chunk) :: chunks
    | [] => [[text]]

def textsAfter (byte : Nat) (texts : List (List Nat)) : List (List Nat) :=
  texts.filterMap (fun text =>
    match text with
    | b :: rest => if b = byte then some rest else none
    | [] => none)

/-- The states of a choice between texts that share their starts. The texts before an empty one are
preferred to it, and those after it are not mixed with them. -/
def trieTally : Nat → List (List Nat) → Tally
  | 0, _ => ⟨0, 0⟩
  | depth + 1, texts =>
    if texts.all (·.isEmpty) then ⟨0, 0⟩
    else
      let chunks := splitEmpty texts
      let filled := chunks.filter (!·.isEmpty)
      let choices := filled.length + (chunks.length - 1)
      filled.foldl (fun (t : Tally) chunk =>
        let bytes := firstBy id (chunk.filterMap (·.head?))
        let t : Tally :=
          ⟨t.states + 1, t.extra + if bytes.length == 1 then 0 else arcBytes * bytes.length⟩
        bytes.foldl (fun (t : Tally) byte =>
          let inner := trieTally depth (textsAfter byte chunk)
          ⟨t.states + inner.states, t.extra + inner.extra⟩) t)
        ⟨1, edgeBytes * choices⟩

def literals? (es : List Expr) : Option (List (List Char)) :=
  es.mapM (fun e => match e with | .literal text => some text | _ => none)

def Tally.addLiterals (backward : Bool) (texts : List (List Char)) (t : Tally) : Option Tally :=
  let texts := texts.map (fun text => if backward then (textBytes text).reverse else textBytes text)
  let depth := texts.foldl (fun d text => max d text.length) 0
  let trie := trieTally depth texts
  t.add (trie.states + 1) trie.extra

/-! ## Expressions -/

def Tally.addClass (backward : Bool) (c : Class) (t : Tally) : Option Tally :=
  if c.isAscii then t.add 2 (arcBytes * c.ranges.length)
  else if backward then t.addBackward (ByteRange.sequences c)
  else t.addForward (ByteRange.sequences c)

def Tally.addRepetition (least : Nat) (most : Option Nat) (consumes : Bool)
    (step : Tally → Option Tally) (t : Tally) : Option Tally :=
  match least, most with
  | 0, some 1 => do (← step (← t.addChoice 2)).add 1 0
  | 0, none =>
    if consumes then do step (← t.addChoice 2)
    else do (← (← (← step t).addChoice 2).addChoice 2).add 1 0
  | least, none => do (← t.times least step).addChoice 2
  | least, some most =>
    if least == most then t.times least step
    else do
      let t ← if least == 0 then t.add 1 0 else t.times least step
      Tally.times (most - least) (fun t => do step (← t.addChoice 2)) (← t.add 1 0)

/-- The tally once the branch with this number ends. The state that chooses and the one where the
branches meet come right after the second branch. -/
def Tally.endBranch (index : Nat) (t : Tally) : Option Tally :=
  t.add (if index == 1 then 2 else 0) edgeBytes

/-- What an expression adds to a tally, on its own and as a branch with this number or as several
branches from it on. -/
structure Measure where
  whole : Tally → Option Tally
  branch : Nat → Tally → Option Tally

def Measure.ofWhole (whole : Tally → Option Tally) : Measure :=
  ⟨whole, fun index t => (whole t).bind (Tally.endBranch index)⟩

def Measure.andThen (a b : Measure) : Measure :=
  .ofWhole (fun t => (a.whole t).bind b.whole)

def Expr.measure (backward : Bool) : Expr → Measure
  | .empty | .look _ => .ofWhole (Tally.add 1 0)
  | .literal text => .ofWhole (Tally.add (textBytes text).length 0)
  | .oneOf c => .ofWhole (Tally.addClass backward c)
  | .cat a b =>
    if backward then (b.measure backward).andThen (a.measure backward)
    else (a.measure backward).andThen (b.measure backward)
  | .alt a b =>
    let branch (index : Nat) (t : Tally) : Option Tally :=
      ((a.measure backward).branch index t).bind ((b.measure backward).branch (index + 1))
    match literals? (a :: b.branches) with
    | some texts => ⟨Tally.addLiterals backward texts, branch⟩
    | none => ⟨branch 0, branch⟩
  | .group _ e =>
    if backward then .ofWhole (e.measure backward).whole
    else .ofWhole (fun t => do (← (e.measure backward).whole (← t.add 1 0)).add 1 0)
  | .iter least most _ e =>
    .ofWhole (Tally.addRepetition least most e.consumes (e.measure backward).whole)

/-- The states in front of an expression: one where the match has to begin, or a loop that skips
bytes up to it. -/
def Tally.start (anchored : Bool) : Option Tally :=
  if anchored then Tally.add 1 0 ⟨0, 0⟩ else Tally.add 3 (2 * edgeBytes + arcBytes) ⟨0, 0⟩

/-- The number of literals from which on a choice between them needs no automaton. -/
def manyLiterals : Nat := 3000

def Expr.fits (e : Expr) : Bool :=
  let forward := do
    let t ← (← Tally.start e.startsText).add 1 0
    (← (e.measure false).whole t).add 2 0
  let backward := do
    (← (e.measure true).whole (← Tally.start e.endsText)).add 1 0
  (manyLiterals ≤ e.branches.length && (literals? e.branches).isSome)
    || (forward.isSome && backward.isSome)

end IncludeScan.Regex
