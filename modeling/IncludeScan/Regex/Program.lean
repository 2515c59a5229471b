import IncludeScan.Regex.Expr

/-!
Expressions as programs: numbered instructions, each with the instructions that may come next. An
expression is written before the instruction that follows it, so the end of the program comes first.
-/

set_option autoImplicit false

namespace IncludeScan.Regex

inductive Mark where
  | opens (index : Nat)
  | closes (index : Nat)
  deriving DecidableEq, Repr, Inhabited

/-- A step of a program: end with a match, take a character of a class, test the place, note the
place, or go on at either of two instructions, the first one preferred. -/
inductive Instr where
  | accept
  | take (c : Class) (next : Nat)
  | check (a : Assertion) (next : Nat)
  | note (m : Mark) (next : Nat)
  | fork (first second : Nat)
  deriving DecidableEq, Repr, Inhabited

structure Program where
  code : Array Instr
  start : Nat
  deriving DecidableEq, Repr, Inhabited

namespace Program

def accepting : Program := ⟨#[.accept], 0⟩

def push (p : Program) (i : Instr) : Program :=
  let start := p.code.size
  ⟨p.code.push i, start⟩

/-- A new start that goes on at the old one. -/
def before (p : Program) (i : Nat → Instr) : Program :=
  let next := p.start
  p.push (i next)

/-- A new start that chooses between `body` and `other`, the body preferred when greedy. -/
def pushFork (p : Program) (greedy : Bool) (body other : Nat) : Program :=
  p.push (if greedy then .fork body other else .fork other body)

def setInstr (p : Program) (i : Nat) (instr : Instr) : Program :=
  ⟨p.code.setIfInBounds i instr, p.start⟩

def startAt (p : Program) (start : Nat) : Program :=
  ⟨p.code, start⟩

/-- Something that is put before a program. -/
abbrev Piece := Program → Program

namespace Piece

def times : Nat → Piece → Piece
  | 0, _, p => p
  | n + 1, body, p => times n body (body p)

def optional (greedy : Bool) (body : Piece) : Piece := fun p =>
  let stop := p.start
  let q := body p
  let first := q.start
  q.pushFork greedy first stop

/-- The piece at most `n` times. Any of them may be the last. -/
def upTo (greedy : Bool) (body : Piece) (stop : Nat) : Nat → Piece
  | 0, p => p
  | n + 1, p =>
    let q := body p
    let first := q.start
    upTo greedy body stop n (q.pushFork greedy first stop)

/-- The piece once or more, a choice after it leading back to its start. -/
def onceOrMore (greedy : Bool) (body : Piece) : Piece := fun p =>
  let stop := p.start
  let loop := p.code.size
  let q := body (p.push .accept)
  let first := q.start
  q.setInstr loop (if greedy then .fork first stop else .fork stop first)

/-- The piece any number of times, the choice before it being the one after it too. -/
def anyTimes (greedy : Bool) (body : Piece) : Piece := fun p =>
  let loop := p.code.size
  (onceOrMore greedy body p).startAt loop

def iter (least : Nat) (most : Option Nat) (greedy consumes : Bool) (body : Piece) : Piece :=
  match most, least with
  | some most, least => fun p =>
    let stop := p.start
    times least body (upTo greedy body stop (most - least) p)
  | none, 0 =>
    if consumes then anyTimes greedy body else optional greedy (onceOrMore greedy body)
  | none, n + 1 => fun p => times n body (onceOrMore greedy body p)

end Piece
end Program

def Expr.emit : Expr → Program.Piece
  | .empty => id
  | .literal text => fun p => text.foldr (fun x p => p.before (.take (.single x))) p
  | .oneOf c => fun p => p.before (.take c)
  | .look a => fun p => p.before (.check a)
  | .cat a b => fun p => a.emit (b.emit p)
  | .alt a b => fun p =>
    let stop := p.start
    let q := b.emit p
    let second := q.start
    (a.emit (q.startAt stop)).before (fun first => .fork first second)
  | .group index e => fun p =>
    (e.emit (p.before (.note (.closes index)))).before (.note (.opens index))
  | .iter least most greedy e => Program.Piece.iter least most greedy e.consumes e.emit

def Expr.program (e : Expr) : Program :=
  e.emit .accepting

end IncludeScan.Regex
