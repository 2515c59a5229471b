import IncludeScan.Entry
import IncludeScan.FileSystem.Basic
import IncludeScan.Text.Distinct
import IncludeScan.Text.Fields

/-!
Deleting reported include lines from a file.

A line goes only if it exists and still holds the file name that its entry includes. Lines are cut
at line feeds alone, so carriage returns and a missing last line feed stay as they are.
-/

set_option autoImplicit false

namespace IncludeScan.Removal

/-- The entries from the last line to the first, one for each line: of several for one line, the
first in the given order. -/
def bottomUp (entries : List Entry) : List Entry :=
  firstBy Entry.line (entries.mergeSort (fun a b => b.line ≤ a.line))

def applies (lines : List (List Char)) (e : Entry) : Bool :=
  e.line ≠ 0 && ((lines[e.line.toNat - 1]?).map
    (Text.occursIn e.targetName.toList)).getD false

def removeLine (state : List (List Char) × Nat) (e : Entry) : List (List Char) × Nat :=
  if applies state.1 e then (state.1.eraseIdx (e.line.toNat - 1), state.2 + 1) else state

def removeLines (text : List Char) (entries : List Entry) : List Char × Nat :=
  let (lines, removed) := (bottomUp entries).foldl removeLine (Text.fields '\n' text, 0)
  (Text.unfields '\n' lines, removed)

/-- Deletes the lines of the entries from a file. Without entries the file is not even read, and
without a deleted line it is not written. -/
def run (fs : FileSystem) (path : String) (entries : List Entry) :
    Except IoError (Nat × FileSystem) := do
  if entries.isEmpty then return (0, fs)
  let text ← fs.readText path
  let (text, removed) := removeLines text.toList entries
  if removed = 0 then return (0, fs)
  return (removed, ← fs.write path (.text (String.ofList text)))

end IncludeScan.Removal
