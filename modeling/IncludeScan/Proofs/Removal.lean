import IncludeScan.Proofs.FileSystem.Edits
import IncludeScan.Removal

/-!
What deleting reported lines does to a file system.

A text gets shorter or stays as it is (`shrinks_removeLines`), and without a deleted line it stays
(`removeLines_of_none`). In a file system only the file that the path leads to changes, its text to
the text without the lines (`read_after`).
-/

set_option autoImplicit false

namespace IncludeScan.Removal

/-! ## Lines -/

def Shrinks (old new : List Char) : Prop :=
  new = old ∨ new.length < old.length

theorem Shrinks.trans {a b c : List Char} (hab : Shrinks a b) (hbc : Shrinks b c) :
    Shrinks a c := by
  rcases hbc with rfl | hbc
  · exact hab
  · rcases hab with rfl | hab
    · exact Or.inr hbc
    · exact Or.inr (Nat.lt_trans hbc hab)

theorem lt_length_of_applies {lines : List (List Char)} {e : Entry} (h : applies lines e = true) :
    e.line.toNat - 1 < lines.length := by
  rw [applies, Bool.and_eq_true] at h
  cases hline : lines[e.line.toNat - 1]? with
  | none => simp [hline] at h
  | some line => exact (List.getElem?_eq_some_iff.mp hline).1

theorem shrinks_foldl_removeLine (entries : List Entry) (state : List (List Char) × Nat) :
    Shrinks (Text.unfields '\n' state.1)
      (Text.unfields '\n' (entries.foldl removeLine state).1) := by
  induction entries generalizing state with
  | nil => exact Or.inl rfl
  | cons e entries ih =>
    refine Shrinks.trans ?_ (ih (removeLine state e))
    rw [removeLine]
    split
    · next happlies => exact Text.unfields_eraseIdx '\n' (lt_length_of_applies happlies)
    · exact Or.inl rfl

theorem foldl_removeLine_count (entries : List Entry) (state : List (List Char) × Nat) :
    state.2 ≤ (entries.foldl removeLine state).2 ∧
      ((entries.foldl removeLine state).2 = state.2 →
        (entries.foldl removeLine state).1 = state.1) := by
  induction entries generalizing state with
  | nil => exact ⟨Nat.le_refl _, fun _ => rfl⟩
  | cons e entries ih =>
    obtain ⟨hle, hsame⟩ := ih (removeLine state e)
    rw [List.foldl_cons]
    by_cases happlies : applies state.1 e = true
    · have hcount : (removeLine state e).2 = state.2 + 1 := by rw [removeLine, if_pos happlies]
      exact ⟨by omega, fun h => by omega⟩
    · have hstep : removeLine state e = state := by rw [removeLine, if_neg happlies]
      rw [hstep] at hle hsame ⊢
      exact ⟨hle, hsame⟩

theorem shrinks_removeLines (text : List Char) (entries : List Entry) :
    Shrinks text (removeLines text entries).1 := by
  have h := shrinks_foldl_removeLine (bottomUp entries) (Text.fields '\n' text, 0)
  rwa [Text.unfields_fields] at h

theorem removeLines_of_none {text : List Char} {entries : List Entry}
    (h : (removeLines text entries).2 = 0) : (removeLines text entries).1 = text := by
  have hlines := (foldl_removeLine_count (bottomUp entries) (Text.fields '\n' text, 0)).2 h
  calc (removeLines text entries).1
      = Text.unfields '\n' ((bottomUp entries).foldl removeLine (Text.fields '\n' text, 0)).1 := rfl
    _ = Text.unfields '\n' (Text.fields '\n' text) := by rw [hlines]
    _ = text := Text.unfields_fields '\n' text

theorem removeLines_nil (text : List Char) : removeLines text [] = (text, 0) := by
  simp [removeLines, bottomUp, Text.unfields_fields]

/-! ## Files -/

/-- A file's content without the lines of the entries. Only texts have lines. -/
def edited (entries : List Entry) : Content → Content
  | .text s => .text (String.ofList (removeLines s.toList entries).1)
  | c => c

theorem edited_of_none {entries : List Entry} {text : String}
    (h : (removeLines text.toList entries).2 = 0) : edited entries (.text text) = .text text := by
  rw [edited, removeLines_of_none h, String.ofList_toList]

/-- The file system after deleting the lines of the entries from a file. It is the given one if
that fails. -/
def after (fs : FileSystem) (path : String) (entries : List Entry) : FileSystem :=
  match run fs path entries with
  | .ok (_, fs) => fs
  | .error _ => fs

variable {fs : FileSystem} {path : String} {entries : List Entry}

theorem after_nil (fs : FileSystem) (path : String) : after fs path [] = fs := rfl

theorem after_of_error {e : IoError} (h : fs.readText path = .error e) :
    after fs path entries = fs := by
  cases entries with
  | nil => rfl
  | cons entry entries =>
    rw [after, run, h]
    rfl

theorem run_of_text (entries : List Entry) {place : List String} {text : String}
    (hpath : fs.resolve path = .ok place) (hfile : fs.fileAt place = .ok (.text text)) :
    run fs path entries = .ok ((removeLines text.toList entries).2,
      if (removeLines text.toList entries).2 = 0 then fs
      else fs.put place (.file (edited entries (.text text)))) := by
  have hread : fs.readText path = .ok text := by
    rw [FileSystem.readText, FileSystem.read_eq, hpath]
    simp [Except.bind, hfile]
  cases entries with
  | nil =>
    rw [removeLines_nil]
    rfl
  | cons entry entries =>
    by_cases hnone : (removeLines text.toList (entry :: entries)).2 = 0
    · simp [run, hread, hnone, bind, Except.bind, pure, Except.pure]
    · simp [run, hread, hnone, FileSystem.write_of_fileAt hpath hfile, edited, bind, Except.bind,
        pure, Except.pure]

theorem after_of_text (entries : List Entry) {place : List String} {text : String}
    (hpath : fs.resolve path = .ok place) (hfile : fs.fileAt place = .ok (.text text)) :
    after fs path entries =
      if (removeLines text.toList entries).2 = 0 then fs
      else fs.put place (.file (edited entries (.text text))) := by
  rw [after, run_of_text entries hpath hfile]

/-- Either nothing is written, and then no line was to go, or the file gets its text without the
lines. -/
theorem after_cases (fs : FileSystem) (path : String) (entries : List Entry) :
    (after fs path entries = fs ∧ ∀ c, fs.read path = .ok c → edited entries c = c) ∨
      ∃ place old, fs.resolve path = .ok place ∧ fs.fileAt place = .ok old ∧
        after fs path entries = fs.put place (.file (edited entries old)) := by
  cases htext : fs.readText path with
  | error e =>
    refine Or.inl ⟨after_of_error htext, fun c hc => ?_⟩
    cases c with
    | text s => simp [FileSystem.readText, hc] at htext
    | bytes b => rfl
    | rows r => rfl
  | ok text =>
    obtain ⟨place, hpath, hfile⟩ := FileSystem.fileAt_of_readText htext
    have hafter := after_of_text entries hpath hfile
    by_cases hnone : (removeLines text.toList entries).2 = 0
    · refine Or.inl ⟨hafter.trans (if_pos hnone), fun c hc => ?_⟩
      rw [FileSystem.read_eq, hpath] at hc
      cases hfile.symm.trans hc
      exact edited_of_none hnone
    · exact Or.inr ⟨place, _, hpath, hfile, hafter.trans (if_neg hnone)⟩

theorem sameTree_after (fs : FileSystem) (path : String) (entries : List Entry) :
    fs.SameTree (after fs path entries) := by
  rcases after_cases fs path entries with ⟨hafter, -⟩ | ⟨place, old, -, hfile, hafter⟩
  · rw [hafter]
    exact .refl fs
  · rw [hafter]
    exact FileSystem.sameTree_put hfile _

theorem read_after (fs : FileSystem) (path : String) (entries : List Entry) (other : String) :
    (after fs path entries).read other =
      if fs.place? path = fs.place? other then (fs.read other).map (edited entries)
      else fs.read other := by
  rw [(sameTree_after fs path entries).read_eq, FileSystem.read_eq]
  cases hother : fs.resolve other with
  | error e => split <;> rfl
  | ok parts =>
    have hplace : fs.place? other = some parts := by rw [FileSystem.place?, hother]; rfl
    change (after fs path entries).fileAt parts =
      if _ then (fs.fileAt parts).map (edited entries) else fs.fileAt parts
    rcases after_cases fs path entries with ⟨hafter, hsame⟩ | ⟨place, old, hpath, hfile, hafter⟩
    · rw [hafter]
      split
      · next heq =>
        have hpath := FileSystem.resolve_of_place? (heq.trans hplace)
        rw [FileSystem.read_eq, hpath] at hsame
        cases hfile : fs.fileAt parts with
        | error e => rfl
        | ok c => exact congrArg Except.ok (hsame c hfile).symm
      · rfl
    · have hpath : fs.place? path = some place := by rw [FileSystem.place?, hpath]; rfl
      rw [hafter, FileSystem.fileAt_put hfile, hplace, hpath]
      by_cases heq : parts = place
      · subst heq
        rw [if_pos rfl, if_pos rfl, hfile]
        rfl
      · rw [if_neg heq, if_neg (by simpa using Ne.symm heq)]

end IncludeScan.Removal
