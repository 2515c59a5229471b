/-!
Names and paths as bytes, and the texts that they stand for.

Bytes are a text if they are UTF-8 (`Bytes.text?`). Other bytes have a text all the same, in which
what is no character is replaced (`Bytes.lossy`); two of them may have the same.
-/

set_option autoImplicit false

namespace IncludeScan

/-- A name or a path as the operating system has it. -/
abbrev Bytes := List UInt8

namespace Bytes

def dot : UInt8 := 0x2E

def slash : UInt8 := 0x2F

def ofText (s : String) : Bytes :=
  s.toByteArray.data.toList

def text? (b : Bytes) : Option String :=
  String.fromUTF8? ⟨b.toArray⟩

theorem text?_ofText (s : String) : text? (ofText s) = some s :=
  dif_pos s.isValidUTF8

/-- The ranges in which the bytes after a first byte lie, for characters of more than one byte. -/
def following (first : UInt8) : List (UInt8 × UInt8) :=
  if first < 0xC2 then []
  else if first < 0xE0 then [(0x80, 0xBF)]
  else if first < 0xF0 then
    [if first = 0xE0 then (0xA0, 0xBF) else if first = 0xED then (0x80, 0x9F) else (0x80, 0xBF),
      (0x80, 0xBF)]
  else if first < 0xF5 then
    [if first = 0xF0 then (0x90, 0xBF) else if first = 0xF4 then (0x80, 0x8F) else (0x80, 0xBF),
      (0x80, 0xBF), (0x80, 0xBF)]
  else []

def runLength : List (UInt8 × UInt8) → Bytes → Nat
  | (low, high) :: ranges, b :: rest =>
    if low ≤ b ∧ b ≤ high then runLength ranges rest + 1 else 0
  | _, _ => 0

/-- The characters of the bytes after the first `skip`. A byte that starts no character, or starts
one that is broken off, is replaced together with what there is of that character. -/
def replaced : Nat → Bytes → List Char
  | _, [] => []
  | skip + 1, _ :: rest => replaced skip rest
  | 0, first :: rest =>
    let more := runLength (following first) rest
    ((text? (first :: rest.take more)).bind (·.toList.head?)).getD '\uFFFD' :: replaced more rest

def lossy (b : Bytes) : String :=
  (text? b).getD (String.ofList (replaced 0 b))

theorem lossy_ofText (s : String) : lossy (ofText s) = s := by
  rw [lossy, text?_ofText, Option.getD_some]

end Bytes
end IncludeScan
