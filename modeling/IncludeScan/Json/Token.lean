/-!
The tokens of a JSON text: reading them from characters and writing them.

The reader takes one character at a time. It is strict: no comments, no leading zeros, no raw
control characters in strings.
-/

set_option autoImplicit false

namespace IncludeScan.Json

/-- A number. Only one written as a plain integer has a value here; `-0` is none. -/
inductive Number where
  | int (n : Int)
  | other
  deriving DecidableEq, Repr, Inhabited

/-- A token. A string whose escapes leave half of a surrogate pair alone has no text. -/
inductive Token where
  | openBrace
  | closeBrace
  | openBracket
  | closeBracket
  | comma
  | colon
  | null
  | bool (b : Bool)
  | num (n : Number)
  | str (s : Option String)
  deriving DecidableEq, Repr, Inhabited

/-! ## Strings being read -/

/-- What has been read of a string: its characters, the last one first, the first half of a
surrogate pair if its second half has to follow, and whether all halves so far are paired. -/
structure OpenString where
  chars : List Char
  high : Option Nat
  paired : Bool
  deriving DecidableEq, Repr

namespace OpenString

def start : OpenString := ⟨[], none, true⟩

def push (s : OpenString) (c : Char) : OpenString :=
  ⟨c :: s.chars, none, s.paired && s.high.isNone⟩

/-- Takes a 16-bit unit written as an escape. -/
def pushUnit (s : OpenString) (u : Nat) : OpenString :=
  match s.high with
  | some h =>
    if 0xDC00 ≤ u ∧ u < 0xE000 then
      ⟨Char.ofNat (0x10000 + (h - 0xD800) * 0x400 + (u - 0xDC00)) :: s.chars, none, s.paired⟩
    else ⟨s.chars, none, false⟩
  | none =>
    if 0xD800 ≤ u ∧ u < 0xDC00 then { s with high := some u }
    else if 0xDC00 ≤ u ∧ u < 0xE000 then { s with paired := false }
    else { s with chars := Char.ofNat u :: s.chars }

def token (s : OpenString) : Token :=
  .str (if s.paired && s.high.isNone then some (String.ofList s.chars.reverse) else none)

end OpenString

/-! ## The reader -/

inductive NumberPart where
  | minus
  | zero
  | digits
  | point
  | fraction
  | exponent
  | exponentSign
  | exponentDigits
  deriving DecidableEq, Repr

/-- What the reader is in the middle of; `word left t` is a word with `left` to come. -/
inductive Mode where
  | ready
  | word (left : List Char) (t : Token)
  | number (part : NumberPart) (negative : Bool) (value : Nat)
  | string (s : OpenString)
  | escape (s : OpenString)
  | unit (s : OpenString) (digits : Nat) (value : Nat)
  deriving DecidableEq, Repr

def isBlank (c : Char) : Bool :=
  c == ' ' || c == '\n' || c == '\t' || c == '\r'

def hexValue? (c : Char) : Option Nat :=
  if '0' ≤ c ∧ c ≤ '9' then some (c.toNat - 48)
  else if 'a' ≤ c ∧ c ≤ 'f' then some (c.toNat - 87)
  else if 'A' ≤ c ∧ c ≤ 'F' then some (c.toNat - 55)
  else none

/-- The character that starts a token, or a blank. -/
def startToken (c : Char) : Option (Mode × List Token) :=
  if isBlank c then some (.ready, [])
  else match c with
    | '\x7b' => some (.ready, [.openBrace])
    | '\x7d' => some (.ready, [.closeBrace])
    | '[' => some (.ready, [.openBracket])
    | ']' => some (.ready, [.closeBracket])
    | ',' => some (.ready, [.comma])
    | ':' => some (.ready, [.colon])
    | '"' => some (.string .start, [])
    | 'n' => some (.word ['u', 'l', 'l'] .null, [])
    | 't' => some (.word ['r', 'u', 'e'] (.bool true), [])
    | 'f' => some (.word ['a', 'l', 's', 'e'] (.bool false), [])
    | '-' => some (.number .minus true 0, [])
    | '0' => some (.number .zero false 0, [])
    | c => if c.isDigit then some (.number .digits false (c.toNat - 48), []) else none

def numberToken? (part : NumberPart) (negative : Bool) (value : Nat) : Option Token :=
  match part with
  | .zero => some (.num (if negative then .other else .int 0))
  | .digits => some (.num (.int (if negative then -(value : Int) else value)))
  | .fraction | .exponentDigits => some (.num .other)
  | .minus | .point | .exponent | .exponentSign => none

def numberPart? (part : NumberPart) (c : Char) : Option NumberPart :=
  match part with
  | .minus => if c == '0' then some .zero else if c.isDigit then some .digits else none
  | .zero => if c == '.' then some .point else if c == 'e' || c == 'E' then some .exponent else none
  | .digits =>
    if c.isDigit then some .digits
    else if c == '.' then some .point
    else if c == 'e' || c == 'E' then some .exponent
    else none
  | .point => if c.isDigit then some .fraction else none
  | .fraction =>
    if c.isDigit then some .fraction
    else if c == 'e' || c == 'E' then some .exponent
    else none
  | .exponent =>
    if c.isDigit then some .exponentDigits
    else if c == '+' || c == '-' then some .exponentSign
    else none
  | .exponentSign => if c.isDigit then some .exponentDigits else none
  | .exponentDigits => if c.isDigit then some .exponentDigits else none

def shortEscape? : Char → Option Char
  | '"' => some '"'
  | '\\' => some '\\'
  | '/' => some '/'
  | 'b' => some '\x08'
  | 'f' => some '\x0c'
  | 'n' => some '\n'
  | 'r' => some '\r'
  | 't' => some '\t'
  | _ => none

/-- Reads one character: the mode after it and the tokens it completes. -/
def step (m : Mode) (c : Char) : Option (Mode × List Token) :=
  match m with
  | .ready => startToken c
  | .word left t =>
    if left = [c] then some (.ready, [t])
    else if left.head? = some c then some (.word left.tail t, [])
    else none
  | .number part negative value =>
    match numberPart? part c with
    | some .digits => some (.number .digits negative (10 * value + (c.toNat - 48)), [])
    | some part => some (.number part negative value, [])
    | none => do
      let t ← numberToken? part negative value
      let (m, ts) ← startToken c
      return (m, t :: ts)
  | .string s =>
    if c = '"' then some (.ready, [s.token])
    else if c = '\\' then some (.escape s, [])
    else if c.toNat < 0x20 then none
    else some (.string (s.push c), [])
  | .escape s =>
    if c = 'u' then some (.unit s 0 0, [])
    else (shortEscape? c).map (fun c => (.string (s.push c), []))
  | .unit s digits value =>
    (hexValue? c).map fun d =>
      if digits = 3 then (.string (s.pushUnit (16 * value + d)), [])
      else (.unit s (digits + 1) (16 * value + d), [])

def Mode.finish? : Mode → Option (List Token)
  | .ready => some []
  | .number part negative value => (numberToken? part negative value).map ([·])
  | .word _ _ | .string _ | .escape _ | .unit _ _ _ => none

/-- The mode, and the tokens so far, the last one first. -/
def stepAll (state : Mode × List Token) (c : Char) : Option (Mode × List Token) :=
  (step state.1 c).map (fun (m, ts) => (m, ts.reverse ++ state.2))

def tokens? (cs : List Char) : Option (List Token) := do
  let (m, ts) ← cs.foldlM stepAll (Mode.ready, [])
  let last ← m.finish?
  return ts.reverse ++ last

/-! ## The writer -/

def hexDigit (n : Nat) : Char :=
  if n < 10 then Char.ofNat (48 + n) else Char.ofNat (87 + n)

def escapeChar (c : Char) : List Char :=
  match c with
  | '"' => ['\\', '"']
  | '\\' => ['\\', '\\']
  | '\x08' => ['\\', 'b']
  | '\x0c' => ['\\', 'f']
  | '\n' => ['\\', 'n']
  | '\r' => ['\\', 'r']
  | '\t' => ['\\', 't']
  | c =>
    if c.toNat < 0x20 then ['\\', 'u', '0', '0', hexDigit (c.toNat / 16), hexDigit (c.toNat % 16)]
    else [c]

def quote (s : String) : List Char :=
  '"' :: s.toList.flatMap escapeChar ++ ['"']

def decimal (n : Int) : List Char :=
  if n < 0 then '-' :: Nat.toDigits 10 n.natAbs else Nat.toDigits 10 n.natAbs

namespace Token

/-- A token as it is written. A token that has no value is written as `null`. -/
def text : Token → List Char
  | openBrace => ['\x7b']
  | closeBrace => ['\x7d']
  | openBracket => ['[']
  | closeBracket => [']']
  | comma => [',']
  | colon => [':']
  | null => ['n', 'u', 'l', 'l']
  | bool true => ['t', 'r', 'u', 'e']
  | bool false => ['f', 'a', 'l', 's', 'e']
  | num (.int n) => decimal n
  | num .other => ['n', 'u', 'l', 'l']
  | str (some s) => quote s
  | str none => ['n', 'u', 'l', 'l']

end Token

def compact (ts : List Token) : List Char :=
  ts.flatMap Token.text

/-! ## Token sequences of arrays and objects -/

def commaSeparated : List (List Token) → List Token
  | [] => []
  | [part] => part
  | part :: parts => part ++ .comma :: commaSeparated parts

def arrayTokens (items : List (List Token)) : List Token :=
  .openBracket :: commaSeparated items ++ [.closeBracket]

def objectTokens (fields : List (String × List Token)) : List Token :=
  .openBrace :: commaSeparated (fields.map fun (k, v) => .str (some k) :: .colon :: v)
    ++ [.closeBrace]

def strToken (s : String) : List Token := [.str (some s)]

def intToken (n : Int) : List Token := [.num (.int n)]

/-! ## Indented text -/

def newLine (depth : Nat) : List Char :=
  '\n' :: List.replicate (2 * depth) ' '

/-- Tokens with one value or field to a line, two more blanks of indentation in each array and
object. Empty ones stay on one line. -/
def indented (depth : Nat) : List Token → List Char
  | [] => []
  | .openBrace :: .closeBrace :: ts => '\x7b' :: '\x7d' :: indented depth ts
  | .openBracket :: .closeBracket :: ts => '[' :: ']' :: indented depth ts
  | .openBrace :: ts => '\x7b' :: newLine (depth + 1) ++ indented (depth + 1) ts
  | .openBracket :: ts => '[' :: newLine (depth + 1) ++ indented (depth + 1) ts
  | .closeBrace :: ts => newLine (depth - 1) ++ '\x7d' :: indented (depth - 1) ts
  | .closeBracket :: ts => newLine (depth - 1) ++ ']' :: indented (depth - 1) ts
  | .comma :: ts => ',' :: newLine depth ++ indented depth ts
  | .colon :: ts => ':' :: ' ' :: indented depth ts
  | t :: ts => t.text ++ indented depth ts

end IncludeScan.Json
