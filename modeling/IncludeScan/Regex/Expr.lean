import IncludeScan.Regex.Class

/-!
Regular expressions in a reduced form.

Expressions are built with `concat`, `alternation`, `repetition` and `oneOf`, which join
neighbouring literals, drop what matches only the empty text, turn a choice of characters into a
class and move a common start of all branches in front of the choice.
-/

set_option autoImplicit false

namespace IncludeScan.Regex

inductive WordTest where
  | boundary
  | noBoundary
  | start
  | stop
  | startHalf
  | stopHalf
  deriving DecidableEq, Repr, Inhabited

inductive Assertion where
  | textStart
  | textEnd
  | lineStart
  | lineEnd
  | returnLineStart
  | returnLineEnd
  | word (test : WordTest) (asciiOnly : Bool)
  deriving DecidableEq, Repr, Inhabited

/-- A regular expression. Groups are numbered from one in the order of their opening brackets. A
literal has at least one character; `cat` and `alt` lean to the right. -/
inductive Expr where
  | empty
  | literal (text : List Char)
  | oneOf (c : Class)
  | look (a : Assertion)
  | cat (a b : Expr)
  | alt (a b : Expr)
  | group (index : Nat) (e : Expr)
  | iter (least : Nat) (most : Option Nat) (greedy : Bool) (e : Expr)
  deriving DecidableEq, Repr, Inhabited

namespace Expr

/-! ## Lengths and anchors -/

/-- Whether the expression matches at most the empty text. A class without characters does not
count as such. -/
def onlyEmpty : Expr → Bool
  | empty | look _ => true
  | literal _ | oneOf _ => false
  | cat a b | alt a b => a.onlyEmpty && b.onlyEmpty
  | group _ e => e.onlyEmpty
  | iter _ most _ e => most.isSome && e.onlyEmpty

/-- A lower bound for the length of a match; none if a class without characters leaves it open. -/
def minLength : Expr → Option Nat
  | empty | look _ => some 0
  | literal text => some text.length
  | oneOf c => if c.isEmpty then none else some 1
  | cat a b => do return (← a.minLength) + (← b.minLength)
  | alt a b => do return min (← a.minLength) (← b.minLength)
  | group _ e => e.minLength
  | iter least _ _ e => e.minLength.map (least * ·)

def consumes (e : Expr) : Bool :=
  (e.minLength.map (fun n => decide (0 < n))).getD false

def startsText : Expr → Bool
  | look a => a == .textStart
  | empty | literal _ | oneOf _ => false
  | cat a b => a.startsText || (a.onlyEmpty && b.startsText)
  | alt a b => a.startsText && b.startsText
  | group _ e => e.startsText
  | iter least _ _ e => 0 < least && e.startsText

def endsText : Expr → Bool
  | look a => a == .textEnd
  | empty | literal _ | oneOf _ => false
  | cat a b => b.endsText || (b.onlyEmpty && a.endsText)
  | alt a b => a.endsText && b.endsText
  | group _ e => e.endsText
  | iter least _ _ e => 0 < least && e.endsText

/-! ## Building -/

def ofClass (c : Class) : Expr :=
  match c.only? with
  | some x => literal [x]
  | none => oneOf c

/-- The expressions that follow each other in an expression. -/
def parts : Expr → List Expr
  | empty => []
  | cat a b => a :: b.parts
  | e => [e]

def joinLiterals : List Expr → List Expr
  | [] => []
  | e :: es =>
    match e, joinLiterals es with
    | literal s, literal t :: rest => literal (s ++ t) :: rest
    | e, rest => e :: rest

/-- The expressions one after the other, as they are. -/
def chain : List Expr → Expr
  | [] => empty
  | [e] => e
  | e :: es => cat e (chain es)

def concat (es : List Expr) : Expr :=
  chain (joinLiterals (es.flatMap parts))

def branches : Expr → List Expr
  | alt a b => a :: b.branches
  | e => [e]

def choice : List Expr → Expr
  | [] => oneOf .none
  | [e] => e
  | e :: es => alt e (choice es)

def code? : Expr → Option Nat
  | literal [x] => some x.toNat
  | _ => none

def class? : Expr → Option Class
  | oneOf c => some c
  | _ => none

def singles? (es : List Expr) : Option Class :=
  (es.mapM code?).map Class.ofCodes

def classes? (es : List Expr) : Option Class :=
  (es.mapM class?).map (List.foldl Class.union .none)

/-- Any of the expressions, earlier ones preferred; one class if they are all single characters or
all classes. -/
def anyOf (es : List Expr) : Expr :=
  match es with
  | [e] => e
  | es =>
    match (singles? es).orElse (fun _ => classes? es) with
    | some c => ofClass c
    | none => choice es

def commonStart : List Expr → List Expr → List Expr
  | a :: as, b :: bs => if a = b then a :: commonStart as bs else []
  | _, _ => []

/-- What all of the expressions start with, if each of them has several parts. -/
def sharedStart (es : List Expr) : List Expr :=
  match es with
  | e :: es =>
    if (e :: es).all (fun e => 1 < e.parts.length) then
      es.foldl (fun start e => commonStart start e.parts) e.parts
    else []
  | [] => []

/-- Any of the expressions, earlier ones preferred. What they all start with stands before the
choice; the rests have no common start then. -/
def alternation (es : List Expr) : Expr :=
  let es := es.flatMap branches
  match es, sharedStart es with
  | [e], _ => e
  | es, [] => anyOf es
  | es, start =>
    let rests := es.map (fun e => concat (e.parts.drop start.length))
    concat (start ++ [anyOf (rests.flatMap branches)])

/-- The expression again and again. What matches only the empty text is not repeated. -/
def repetition (least : Nat) (most : Option Nat) (greedy : Bool) (e : Expr) : Expr :=
  let (least, most) :=
    if e.onlyEmpty then (min least 1, some (min (most.getD 1) 1)) else (least, most)
  if most == some 0 then empty
  else if least == 1 && most == some 1 then e
  else iter least most greedy e

end Expr
end IncludeScan.Regex
