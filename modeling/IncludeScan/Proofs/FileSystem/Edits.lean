import IncludeScan.FileSystem.Basic

/-!
Writing over a file.

Following a path looks only at where directories and links stand (`shape?`), and a read then looks
at one place (`fileAt`). A new content for an existing file leaves all shapes as they are and
changes one place, so paths lead where they led before and every other file reads the same
(`SameTree.resolve`, `fileAt_put`).
-/

set_option autoImplicit false

namespace IncludeScan

theorem eq_ok_of_toOption {ε α : Type} {x : Except ε α} {a : α} (h : x.toOption = some a) :
    x = .ok a := by
  cases x with
  | error e => simp [Except.toOption] at h
  | ok b => simpa [Except.toOption] using h

theorem Listing.find?_set (name : String) (item : Item) (other : String) : (l : Listing) →
    (l.set name item).find? other = if name = other then some item else l.find? other
  | .nil => rfl
  | .cons n old rest => by
    have ih := find?_set name item other rest
    by_cases hn : n = name
    · subst hn
      by_cases ho : n = other <;> simp [set, find?, ho]
    · by_cases ho : n = other
      · subst ho
        simp [set, find?, hn, Ne.symm hn]
      · simp [set, find?, hn, ho, ih]

namespace FileSystem

/-! ## Items below items -/

theorem itemIn_cons_cons (entries : Listing) (name next : String) (parts : List String) :
    itemIn entries (name :: next :: parts) =
      match entries.find? name with
      | some (.directory inner) => itemIn inner (next :: parts)
      | _ => none :=
  rfl

theorem itemIn_concat (entries : Listing) (here : List String) (step : String) :
    itemIn entries (here ++ [step]) =
      match itemIn entries here with
      | some (.directory inner) => inner.find? step
      | _ => none := by
  induction here generalizing entries with
  | nil => rfl
  | cons name parts ih =>
    cases parts with
    | nil =>
      change itemIn entries (name :: step :: []) = _
      rw [itemIn_cons_cons]
      rfl
    | cons next parts =>
      change itemIn entries (name :: next :: (parts ++ [step])) = _
      rw [itemIn_cons_cons, itemIn_cons_cons]
      split
      · exact ih _
      · rfl

/-- Two items at one place, of which a path sees no more than that both are directories. -/
def Alike (a b : Option Item) : Prop :=
  a = b ∨ ∃ l l', a = some (.directory l) ∧ b = some (.directory l')

/-- A new content shows at its own place only. -/
theorem itemIn_putIn {entries : Listing} {place : List String} {old : Content}
    (h : itemIn entries place = some (.file old)) (new : Content) (parts : List String) :
    if parts = place then itemIn (putIn entries (.file new) place) parts = some (.file new)
    else Alike (itemIn (putIn entries (.file new) place) parts) (itemIn entries parts) := by
  induction place generalizing entries parts with
  | nil => cases h
  | cons name below ih =>
    cases parts with
    | nil => exact Or.inr ⟨_, _, rfl, rfl⟩
    | cons n rest =>
      cases below with
      | nil =>
        replace h : entries.find? name = some (.file old) := h
        have hput : putIn entries (.file new) [name] = entries.set name (.file new) := rfl
        rw [hput]
        cases rest with
        | nil =>
          simp only [itemIn, Listing.find?_set, List.cons.injEq, and_true]
          by_cases hn : n = name
          · simp [hn]
          · rw [if_neg hn, if_neg (Ne.symm hn)]
            exact Or.inl rfl
        | cons next rest =>
          rw [if_neg (by simp), itemIn_cons_cons, itemIn_cons_cons, Listing.find?_set]
          by_cases hn : name = n
          · subst hn
            rw [if_pos rfl, h]
            exact Or.inl rfl
          · rw [if_neg hn]
            exact Or.inl rfl
      | cons second below =>
        rw [itemIn_cons_cons] at h
        split at h
        · next inner hfind =>
          have hput : putIn entries (.file new) (name :: second :: below) =
              entries.set name (.directory (putIn inner (.file new) (second :: below))) := by
            rw [putIn]
            · rw [hfind]
            · simp
          rw [hput]
          cases rest with
          | nil =>
            rw [if_neg (by simp)]
            simp only [itemIn, Listing.find?_set]
            by_cases hn : name = n
            · subst hn
              exact Or.inr ⟨_, _, if_pos rfl, hfind⟩
            · exact Or.inl (if_neg hn)
          | cons next rest =>
            rw [itemIn_cons_cons, itemIn_cons_cons, Listing.find?_set]
            by_cases hn : name = n
            · subst hn
              rw [if_pos rfl, hfind]
              simpa using ih h (next :: rest)
            · rw [if_neg hn, if_neg (by simp [Ne.symm hn])]
              exact Or.inl rfl
        · cases h

/-! ## Shapes -/

/-- What a path sees of an item. -/
inductive Shape where
  | file
  | directory
  | link (target : String)
  deriving DecidableEq, Repr

def shapeOf : Item → Shape
  | .file _ => .file
  | .directory _ => .directory
  | .link target => .link target

def shape? (fs : FileSystem) (place : List String) : Option Shape :=
  (fs.item? place).map shapeOf

def fileAt (fs : FileSystem) (place : List String) : Except IoError Content :=
  match fs.item? place with
  | some (.file content) => .ok content
  | some _ => .error .isDirectory
  | none => .error .notFound

theorem read_eq (fs : FileSystem) (path : String) :
    fs.read path = (fs.resolve path).bind fs.fileAt := by
  rw [read, open?]
  cases fs.resolve path with
  | error e => rfl
  | ok place =>
    simp only [Except.bind, fileAt]
    cases fs.item? place with
    | none => rfl
    | some item => cases item <;> rfl

def place? (fs : FileSystem) (path : String) : Option (List String) :=
  (fs.resolve path).toOption

theorem resolve_of_place? {fs : FileSystem} {path : String} {place : List String}
    (h : fs.place? path = some place) : fs.resolve path = .ok place :=
  eq_ok_of_toOption h

theorem read_of_place?_none {fs : FileSystem} {path : String} (h : fs.place? path = none) :
    ∃ e, fs.read path = .error e := by
  rw [place?] at h
  cases hr : fs.resolve path with
  | error e => exact ⟨e, by rw [read_eq, hr]; rfl⟩
  | ok parts => simp [hr, Except.toOption] at h

theorem item?_of_fileAt {fs : FileSystem} {place : List String} {c : Content}
    (h : fs.fileAt place = .ok c) : fs.item? place = some (.file c) := by
  rw [fileAt] at h
  split at h
  · next hitem => rw [hitem, Except.ok.inj h]
  · cases h
  · cases h

theorem fileAt_of_readText {fs : FileSystem} {path text : String}
    (h : fs.readText path = .ok text) :
    ∃ place, fs.resolve path = .ok place ∧ fs.fileAt place = .ok (.text text) := by
  rw [readText, read_eq] at h
  cases hpath : fs.resolve path with
  | error e => simp [hpath, Except.bind] at h
  | ok place =>
    refine ⟨place, rfl, ?_⟩
    simp only [hpath, Except.bind] at h
    split at h
    · next hfile => rw [hfile, Except.ok.inj h]
    · cases h
    · cases h

theorem shape?_concat_none {fs : FileSystem} {here : List String} (step : String)
    (h : fs.shape? here ≠ some .directory) : fs.shape? (here ++ [step]) = none := by
  rw [shape?, item?, itemIn_concat]
  split
  · next hitem => exact absurd (by rw [shape?, item?, hitem]; rfl) h
  · rfl

theorem walkWith_cons (fs : FileSystem) (follow : List String → List String → Except IoError Place)
    (here : List String) (step : String) (steps : List String) :
    fs.walkWith follow here (step :: steps) =
      match fs.shape? here with
      | some .directory =>
        if step = "." then fs.walkWith follow here steps
        else if step = ".." then fs.walkWith follow here.dropLast steps
        else if nameLimit < step.utf8ByteSize then .error .nameTooLong
        else match fs.shape? (here ++ [step]) with
          | none => if steps.isEmpty then .ok (.free (here ++ [step])) else .error .notFound
          | some (.link target) =>
            follow (if isAbsolute target then [] else here) (stepsOf target ++ steps)
          | some _ => fs.walkWith follow (here ++ [step]) steps
      | some _ => .error .notDirectory
      | none => .error .notFound := by
  have hnext : fs.item? (here ++ [step]) =
      match fs.item? here with
      | some (.directory inner) => inner.find? step
      | _ => none := itemIn_concat fs.root here step
  rw [walkWith, shape?, shape?, hnext]
  cases fs.item? here with
  | none => rfl
  | some item =>
    cases item with
    | file => rfl
    | link => rfl
    | directory entries =>
      simp only [Option.map_some, shapeOf]
      cases entries.find? step with
      | none => rfl
      | some below => cases below <;> rfl

/-- Two file systems that differ in the contents of files at most. -/
structure SameTree (fs fs' : FileSystem) : Prop where
  cwd_eq : fs'.cwd = fs.cwd
  shape_eq : ∀ place, fs'.shape? place = fs.shape? place

namespace SameTree

theorem refl (fs : FileSystem) : SameTree fs fs := ⟨rfl, fun _ => rfl⟩

variable {fs fs' : FileSystem}

theorem walkWith (h : SameTree fs fs')
    {follow follow' : List String → List String → Except IoError Place}
    (hfollow : ∀ here steps, follow' here steps = follow here steps) (here steps : List String) :
    fs'.walkWith follow' here steps = fs.walkWith follow here steps := by
  induction steps generalizing here with
  | nil => rfl
  | cons step steps ih =>
    simp only [walkWith_cons, h.shape_eq, hfollow, ih]

theorem walk (h : SameTree fs fs') (links : Nat) (here steps : List String) :
    fs'.walk links here steps = fs.walk links here steps := by
  induction links generalizing here steps with
  | zero => exact h.walkWith (fun _ _ => rfl) here steps
  | succ links ih => exact h.walkWith ih here steps

theorem resolve (h : SameTree fs fs') (path : String) : fs'.resolve path = fs.resolve path := by
  simp only [FileSystem.resolve, locate, h.cwd_eq, h.walk]

theorem read_eq (h : SameTree fs fs') (path : String) :
    fs'.read path = (fs.resolve path).bind fs'.fileAt := by
  rw [FileSystem.read_eq, h.resolve]

theorem place? (h : SameTree fs fs') (path : String) : fs'.place? path = fs.place? path := by
  rw [FileSystem.place?, FileSystem.place?, h.resolve]

end SameTree

/-! ## A new content -/

section Put

variable {fs : FileSystem} {place : List String} {old : Content}

theorem sameTree_put (h : fs.fileAt place = .ok old) (new : Content) :
    SameTree fs (fs.put place (.file new)) := by
  refine ⟨rfl, fun parts => ?_⟩
  have hitem := item?_of_fileAt h
  have hput := itemIn_putIn hitem new parts
  simp only [shape?, item?, put]
  split at hput
  · next hsame =>
    subst hsame
    rw [hput, show itemIn fs.root parts = _ from hitem]
    rfl
  · obtain heq | ⟨l, l', hl, hl'⟩ := hput
    · rw [heq]
    · rw [hl, hl']
      rfl

theorem fileAt_put (h : fs.fileAt place = .ok old) (new : Content) (parts : List String) :
    (fs.put place (.file new)).fileAt parts =
      if parts = place then .ok new else fs.fileAt parts := by
  have hput := itemIn_putIn (item?_of_fileAt h) new parts
  simp only [fileAt, item?, put]
  split at hput
  · next hsame => rw [hput, if_pos hsame]
  · next hother =>
    rw [if_neg hother]
    obtain heq | ⟨l, l', hl, hl'⟩ := hput
    · rw [heq]
    · rw [hl, hl']

theorem write_of_fileAt {path : String} (hpath : fs.resolve path = .ok place)
    (h : fs.fileAt place = .ok old) (new : Content) :
    fs.write path new = .ok (fs.put place (.file new)) := by
  rw [resolve] at hpath
  split at hpath
  · next parts hlocate =>
    cases hpath
    rw [write, hlocate]
    simp only [item?_of_fileAt h]
  · cases hpath
  · cases hpath

end Put
end FileSystem
end IncludeScan
