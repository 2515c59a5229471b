import IncludeScan.Regex.Expr
import IncludeScan.Regex.Flags
import IncludeScan.Regex.Property

/-!
What a backslash introduces: a literal character, a class or an assertion.
-/

set_option autoImplicit false

namespace IncludeScan.Regex

inductive Escaped where
  | literal (x : Char)
  | cls (c : Class)
  | look (a : Assertion)
  deriving DecidableEq, Repr

/-! ## Characters by their code -/

def hexDigit? (x : Char) : Option Nat :=
  if '0' ≤ x ∧ x ≤ '9' then some (x.toNat - 48)
  else if 'a' ≤ x ∧ x ≤ 'f' then some (x.toNat - 87)
  else if 'A' ≤ x ∧ x ≤ 'F' then some (x.toNat - 55)
  else none

def hexNumber? (xs : List Char) : Option Nat :=
  if xs.isEmpty then none
  else xs.foldlM (fun n x => (hexDigit? x).map (fun d => 16 * n + d)) 0

def charOf? (n : Nat) : Option Char :=
  if h : n.isValidChar then some (Char.ofNatAux n h) else none

def hexDigits (f : Flags) : Nat → Nat → List Char → Option (Nat × List Char)
  | 0, n, cs => some (n, cs)
  | _ + 1, _, [] => none
  | width + 1, n, x :: cs => do
    let d ← hexDigit? x
    hexDigits f width (16 * n + d) (f.skip cs)

/-- A character by its code: `width` digits, or any number of them in braces. Two digits without
braces stand for a byte, which has to be ASCII where only ASCII is. -/
def hexEscape (f : Flags) (width : Nat) (cs : List Char) : Option (Escaped × List Char) :=
  match f.skip cs with
  | '\x7b' :: cs =>
    match f.takeWhile (· != '\x7d') cs with
    | (digits, _ :: rest) => do
      let n ← hexNumber? digits
      return (.literal (← charOf? n), f.skip rest)
    | (_, []) => none
  | cs => do
    let (n, rest) ← hexDigits f width 0 cs
    if f.asciiOnly && width == 2 && 0x80 ≤ n then none
    else return (.literal (← charOf? n), rest)

/-! ## Word boundaries -/

def namedBoundary? : String → Option WordTest
  | "start" => some .start
  | "end" => some .stop
  | "start-half" => some .startHalf
  | "end-half" => some .stopHalf
  | _ => none

/-- A word boundary. A name in braces says which; braces that start with anything else than a
letter or a dash belong to what follows. -/
def boundary (f : Flags) (cs : List Char) : Option (Escaped × List Char) :=
  let isNamed (x : Char) : Bool := x.isAlpha || x == '-'
  let plain := some (Escaped.look (.word .boundary f.asciiOnly), cs)
  match cs with
  | '\x7b' :: inner =>
    if ((f.skip inner).head?.map isNamed).getD false then
      match f.takeWhile isNamed (f.skip inner) with
      | (name, '\x7d' :: rest) =>
        (namedBoundary? (String.ofList name)).map (fun t => (.look (.word t f.asciiOnly), rest))
      | _ => none
    else plain
  | _ => plain

/-! ## Classes -/

def letterClass (f : Flags) : Char → Option Class
  | 'd' => if f.asciiOnly then Class.ofAsciiName? "digit" else some .digit
  | 's' => if f.asciiOnly then Class.ofAsciiName? "space" else some .blank
  | 'w' => if f.asciiOnly then Class.ofAsciiName? "word" else some .word
  | _ => none

/-- The complement of a class. Where only ASCII is, nothing may be left over from it. -/
def complement? (f : Flags) (c : Class) : Option Class :=
  if f.asciiOnly then none else some c.complement

def foldIf (f : Flags) (c : Class) : Class :=
  if !f.ignoreCase then c else if f.asciiOnly then c.foldAscii else c.fold

/-- The class, closed under case when case is ignored, or its complement. -/
def foldNegate (f : Flags) (negated : Bool) (c : Class) : Option Class :=
  if negated then complement? f (foldIf f c) else some (foldIf f c)

/-- A class by a property of its characters, as a single letter or in braces. There is none where
only ASCII is. -/
def propertyEscape (f : Flags) (negated : Bool) (cs : List Char) : Option (Escaped × List Char) :=
  if f.asciiOnly then none
  else
    match f.skip cs with
    | [] => none
    | '\x7b' :: cs =>
      match f.takeWhile (· != '\x7d') cs with
      | (name, _ :: rest) => do
        let (excluded, c) ← propertyClass? name
        return (.cls (← foldNegate f (negated != excluded) c), rest)
      | (_, []) => none
    | x :: cs => do
      let c ← namedClass? [x]
      return (.cls (← foldNegate f negated c), f.skip cs)

/-! ## Escapes -/

def readEscape (f : Flags) : List Char → Option (Escaped × List Char)
  | [] => none
  | x :: cs =>
    match x with
    | 'a' => some (.literal '\x07', cs)
    | 'f' => some (.literal '\x0c', cs)
    | 't' => some (.literal '\t', cs)
    | 'n' => some (.literal '\n', cs)
    | 'r' => some (.literal '\r', cs)
    | 'v' => some (.literal '\x0b', cs)
    | 'd' | 's' | 'w' => (letterClass f x).map (fun c => (.cls c, cs))
    | 'D' | 'S' | 'W' => do
      let c ← letterClass f x.toLower
      return (.cls (← complement? f c), cs)
    | 'p' => propertyEscape f false cs
    | 'P' => propertyEscape f true cs
    | 'A' => some (.look .textStart, cs)
    | 'z' => some (.look .textEnd, cs)
    | 'B' => some (.look (.word .noBoundary f.asciiOnly), cs)
    | 'b' => boundary f cs
    | '<' => some (.look (.word .start f.asciiOnly), cs)
    | '>' => some (.look (.word .stop f.asciiOnly), cs)
    | 'x' => hexEscape f 2 cs
    | 'u' => hexEscape f 4 cs
    | 'U' => hexEscape f 8 cs
    | x => if x.toNat < 0x80 && !x.isAlphanum then some (.literal x, cs) else none

end IncludeScan.Regex
