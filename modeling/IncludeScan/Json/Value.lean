import IncludeScan.Json.Token

/-!
JSON values and their reading from tokens.

The reader keeps the arrays and objects it is inside of on a stack, so that values may be nested to
any depth.
-/

set_option autoImplicit false

namespace IncludeScan.Json

/-- A JSON value. Objects keep their fields in order, with repetitions. -/
inductive Value where
  | null
  | bool (b : Bool)
  | num (n : Number)
  | str (s : Option String)
  | arr (items : List Value)
  | obj (fields : List (Option String × Value))
  deriving Repr, Inhabited

namespace Value

def text? : Value → Option String
  | str s => s
  | _ => none

def uint32? : Value → Option UInt32
  | num (.int n) => if 0 ≤ n ∧ n < 0x100000000 then some n.toNat.toUInt32 else none
  | _ => none

def int64? : Value → Option Int64
  | num (.int n) =>
    if -0x8000000000000000 ≤ n ∧ n < 0x8000000000000000 then some (Int64.ofInt n) else none
  | _ => none

end Value

/-! ## Reading -/

/-- An array or object being read, the last item or field first; `key` names the field to come. -/
inductive Frame where
  | arr (items : List Value)
  | obj (fields : List (Option String × Value)) (key : Option String)
  deriving Repr

inductive Expected where
  | value
  | itemOrEnd
  | keyOrEnd
  | key
  | colon
  | separator
  deriving DecidableEq, Repr

/-- The frames around the place reached, the innermost first; `result` is the value at the top
level once it is complete. -/
structure Reader where
  frames : List Frame
  expected : Expected
  result : Option Value
  deriving Repr

namespace Reader

def start : Reader := ⟨[], .value, none⟩

def complete (frames : List Frame) (v : Value) : Reader :=
  match frames with
  | [] => ⟨[], .separator, some v⟩
  | .arr items :: frames => ⟨.arr (v :: items) :: frames, .separator, none⟩
  | .obj fields key :: frames => ⟨.obj ((key, v) :: fields) key :: frames, .separator, none⟩

def begin (frames : List Frame) : Token → Option Reader
  | .null => some (complete frames .null)
  | .bool b => some (complete frames (.bool b))
  | .num n => some (complete frames (.num n))
  | .str s => some (complete frames (.str s))
  | .openBracket => some ⟨.arr [] :: frames, .itemOrEnd, none⟩
  | .openBrace => some ⟨.obj [] none :: frames, .keyOrEnd, none⟩
  | _ => none

def close (frames : List Frame) (t : Token) : Option Reader :=
  match frames, t with
  | .arr items :: frames, .closeBracket => some (complete frames (.arr items.reverse))
  | .obj fields _ :: frames, .closeBrace => some (complete frames (.obj fields.reverse))
  | _, _ => none

def readKey (frames : List Frame) (t : Token) : Option Reader :=
  match frames, t with
  | .obj fields _ :: frames, .str key => some ⟨.obj fields key :: frames, .colon, none⟩
  | _, _ => none

def step (r : Reader) (t : Token) : Option Reader :=
  match r.expected with
  | .value => begin r.frames t
  | .itemOrEnd => if t = .closeBracket then close r.frames t else begin r.frames t
  | .keyOrEnd => if t = .closeBrace then close r.frames t else readKey r.frames t
  | .key => readKey r.frames t
  | .colon => if t = .colon then some { r with expected := .value } else none
  | .separator =>
    if t = .comma then
      match r.frames with
      | [] => none
      | .arr _ :: _ => some { r with expected := .value }
      | .obj _ _ :: _ => some { r with expected := .key }
    else close r.frames t

end Reader

def ofTokens? (ts : List Token) : Option Value := do
  let r ← ts.foldlM Reader.step .start
  if r.frames.isEmpty then r.result else none

def parse? (cs : List Char) : Option Value := do
  ofTokens? (← tokens? cs)

end IncludeScan.Json
