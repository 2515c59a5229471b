import IncludeScan.Proofs.FileSystem.Edits
import Mathlib.Data.List.Induction
import Mathlib.Tactic.ByContra

/-!
Canonical paths.

A place is settled if its parts are names and nothing on the way to it is a link. Every path that
leads to an item leads to a settled place (`resolve_settled`), and the text of a settled place leads
back to it, if anywhere (`resolve_textOfParts`). So an item has one canonical text.
-/

set_option autoImplicit false

namespace IncludeScan.FileSystem

/-! ## Texts of places -/

def IsName (name : String) : Prop :=
  name ≠ "" ∧ '/' ∉ name.toList ∧ name ≠ "." ∧ name ≠ ".."

instance : DecidablePred IsName := fun _ => inferInstanceAs (Decidable (_ ∧ _ ∧ _ ∧ _))

theorem parts_eq_of_toList {path : String} {pieces : List String}
    (h : Text.fields '/' path.toList = pieces.map String.toList) : Path.parts path = pieces := by
  rw [Path.parts, h, List.map_map]
  simp [Function.comp_def]

theorem toList_intercalate_eq_unfields (names : List String) :
    ("/".intercalate names).toList = Text.unfields '/' (names.map String.toList) := by
  induction names with
  | nil => rfl
  | cons name names ih =>
    cases names with
    | nil => simp [Text.unfields]
    | cons next names =>
      rw [String.intercalate_cons_cons]
      simp only [String.toList_append, ih, List.map_cons, Text.unfields]
      simp

theorem parts_textOfParts {place : List String} (h : ∀ name ∈ place, IsName name) :
    (Path.parts (textOfParts place)).filter (· != "") = place := by
  have hcut : Text.fields '/' (textOfParts place).toList =
      [] :: Text.fields '/' (Text.unfields '/' (place.map String.toList)) := by
    rw [textOfParts, String.toList_append, toList_intercalate_eq_unfields]
    simp [Text.fields]
  cases place with
  | nil =>
    have hparts : Path.parts (textOfParts []) = ["", ""] := parts_eq_of_toList hcut
    rw [hparts]
    rfl
  | cons name names =>
    have hpieces : ∀ piece ∈ (name :: names).map String.toList, '/' ∉ piece := by
      intro piece hpiece
      obtain ⟨n, hn, rfl⟩ := List.mem_map.mp hpiece
      exact (h n hn).2.1
    rw [Text.fields_unfields (by simp) hpieces] at hcut
    rw [parts_eq_of_toList (hcut.trans (by simp : _ = ("" :: name :: names).map String.toList)),
      List.filter_cons_of_neg (by simp)]
    exact List.filter_eq_self.mpr fun n hn => by simpa using (h n hn).1

theorem isAbsolute_textOfParts (place : List String) : isAbsolute (textOfParts place) = true := by
  simp [isAbsolute, textOfParts]

theorem mem_stepsOf {path step : String} (h : step ∈ stepsOf path) :
    step ≠ "" ∧ '/' ∉ step.toList := by
  rw [stepsOf, List.mem_append, List.mem_filter] at h
  rcases h with ⟨hpart, hne⟩ | hdot
  · obtain ⟨piece, hpiece, rfl⟩ := List.mem_map.mp hpart
    exact ⟨by simpa using hne, by simpa using Text.not_mem_of_mem_fields hpiece⟩
  · have hstep : step = "." := by
      split at hdot
      · exact List.mem_singleton.mp hdot
      · cases hdot
    subst hstep
    decide

/-! ## Settled places -/

/-- A place that is reached through directories, by names, and is not a link. -/
structure Settled (fs : FileSystem) (place : List String) : Prop where
  isName : ∀ name ∈ place, IsName name
  shape : fs.shape? place = some .file ∨ fs.shape? place = some .directory

namespace Settled

variable {fs : FileSystem} {place : List String}

theorem root (fs : FileSystem) : fs.Settled [] :=
  ⟨fun _ h => absurd h List.not_mem_nil, Or.inr rfl⟩

theorem of_concat {name : String} (h : fs.Settled (place ++ [name])) :
    fs.shape? place = some .directory := by
  by_contra hdir
  have hnone := shape?_concat_none name hdir
  rcases h.shape with hshape | hshape <;> simp [hnone] at hshape

theorem of_append {below : List String} (h : fs.Settled (place ++ below)) : fs.Settled place := by
  induction below using List.reverseRecOn with
  | nil => simpa using h
  | append_singleton below name ih =>
    rw [← List.append_assoc] at h
    exact ih ⟨fun n hn => h.isName n (List.mem_append_left _ hn), Or.inr h.of_concat⟩

theorem dropLast (h : fs.Settled place) : fs.Settled place.dropLast := by
  cases place using List.reverseRecOn with
  | nil => exact h
  | append_singleton place name => simpa using h.of_append

end Settled

variable {fs : FileSystem} {follow : List String → List String → Except IoError Place}

/-- A walk from a settled place ends at one, if what follows a link does. -/
theorem settled_walkWith
    (hfollow : ∀ here steps place, fs.Settled here → (∀ s ∈ steps, s ≠ "" ∧ '/' ∉ s.toList) →
      follow here steps = .ok (.taken place) → fs.Settled place)
    {here steps place : List String} (hhere : fs.Settled here)
    (hsteps : ∀ s ∈ steps, s ≠ "" ∧ '/' ∉ s.toList)
    (h : fs.walkWith follow here steps = .ok (.taken place)) : fs.Settled place := by
  induction steps generalizing here with
  | nil =>
    cases h
    exact hhere
  | cons step steps ih =>
    rw [List.forall_mem_cons] at hsteps
    obtain ⟨hstep, hsteps⟩ := hsteps
    rw [walkWith_cons] at h
    split at h
    · split at h
      · exact ih hhere hsteps h
      · split at h
        · exact ih hhere.dropLast hsteps h
        · next hdot hdotdot =>
          have hname : ∀ name ∈ here ++ [step], IsName name := by
            intro name hname
            rcases List.mem_append.mp hname with hname | hname
            · exact hhere.isName name hname
            · rw [List.mem_singleton.mp hname]
              exact ⟨hstep.1, hstep.2, hdot, hdotdot⟩
          split at h
          · cases h
          · split at h
            · split at h <;> cases h
            · next target hlink =>
              refine hfollow _ _ _ ?_ ?_ h
              · split
                · exact .root fs
                · exact hhere
              · intro s hs
                rcases List.mem_append.mp hs with hs | hs
                · exact mem_stepsOf hs
                · exact hsteps s hs
            · next shape hlink hshape =>
              refine ih ⟨hname, ?_⟩ hsteps h
              cases shape with
              | file => exact Or.inl hshape
              | directory => exact Or.inr hshape
              | link target => exact absurd rfl (hlink target)
    · cases h
    · cases h

theorem settled_walk {links : Nat} {here steps place : List String} (hhere : fs.Settled here)
    (hsteps : ∀ s ∈ steps, s ≠ "" ∧ '/' ∉ s.toList)
    (h : fs.walk links here steps = .ok (.taken place)) : fs.Settled place := by
  induction links generalizing here steps place with
  | zero =>
    refine settled_walkWith ?_ hhere hsteps h
    intro _ _ _ _ _ hloop
    cases hloop
  | succ links ih => exact settled_walkWith (fun _ _ _ => ih) hhere hsteps h

theorem resolve_eq_ok_iff {path : String} {place : List String} :
    fs.resolve path = .ok place ↔ path ≠ "" ∧ '\x00' ∉ path.toList ∧
      path.utf8ByteSize < pathLimit ∧
      fs.walk 40 (if isAbsolute path then [] else fs.cwd) (stepsOf path) = .ok (.taken place) := by
  have hlocate : fs.resolve path = .ok place ↔ fs.locate path = .ok (.taken place) := by
    rw [resolve]
    split
    · next htaken => simp [htaken]
    · next hfree => simp [hfree]
    · next herror => simp [herror]
  rw [hlocate, locate, Ne, ← String.isEmpty_iff, ← Nat.not_le]
  split
  · next hempty => simp [hempty]
  · next hempty =>
    split
    · next hnul => simp [List.contains_iff_mem.mp hnul]
    · next hnul =>
      have hnul : '\x00' ∉ path.toList := fun h => hnul (List.contains_iff_mem.mpr h)
      split
      · next hlong => simp [hlong]
      · next hlong => simp [hempty, hnul, hlong]

theorem walk_of_resolve {path : String} {place : List String} (h : fs.resolve path = .ok place) :
    fs.walk 40 (if isAbsolute path then [] else fs.cwd) (stepsOf path) = .ok (.taken place) :=
  (resolve_eq_ok_iff.mp h).2.2.2

theorem resolve_settled (hcwd : fs.Settled fs.cwd) {path : String} {place : List String}
    (h : fs.resolve path = .ok place) : fs.Settled place := by
  refine settled_walk ?_ (fun _ => mem_stepsOf) (walk_of_resolve h)
  split
  · exact .root fs
  · exact hcwd

/-- A walk by the names of a settled place ends there, whether a slash follows them or not. -/
theorem walkWith_settled {here names rest : List String} (h : fs.Settled (here ++ names))
    (hrest : rest = [] ∨ rest = ["."]) {place : Place}
    (hwalk : fs.walkWith follow here (names ++ rest) = .ok place) :
    place = .taken (here ++ names) := by
  induction names generalizing here with
  | nil =>
    rw [List.append_nil]
    rcases hrest with rfl | rfl
    · cases hwalk
      rfl
    · rw [List.nil_append, walkWith_cons] at hwalk
      split at hwalk
      · cases hwalk
        rfl
      · cases hwalk
      · cases hwalk
  | cons name names ih =>
    have happend : here ++ name :: names = (here ++ [name]) ++ names := by simp
    rw [happend] at h ⊢
    have hnext := h.of_append
    obtain ⟨-, -, hdot, hdotdot⟩ := hnext.isName name (by simp)
    rw [List.cons_append, walkWith_cons, hnext.of_concat] at hwalk
    simp only [if_neg hdot, if_neg hdotdot] at hwalk
    split at hwalk
    · cases hwalk
    · rcases hnext.shape with hshape | hshape
      · rw [hshape] at hwalk
        exact ih h hwalk
      · rw [hshape] at hwalk
        exact ih h hwalk

theorem resolve_textOfParts {place place' : List String} (h : fs.Settled place)
    (hresolve : fs.resolve (textOfParts place) = .ok place') : place' = place := by
  have hwalk := walk_of_resolve hresolve
  rw [isAbsolute_textOfParts, if_pos rfl] at hwalk
  have hsteps : ∃ rest, stepsOf (textOfParts place) = place ++ rest ∧
      (rest = [] ∨ rest = ["."]) := by
    refine ⟨_, by rw [stepsOf, parts_textOfParts h.isName], ?_⟩
    split
    · exact Or.inr rfl
    · exact Or.inl rfl
  obtain ⟨rest, hsteps, hrest⟩ := hsteps
  rw [hsteps] at hwalk
  have htaken := walkWith_settled (by simpa using h) hrest hwalk
  simpa using htaken

end IncludeScan.FileSystem
