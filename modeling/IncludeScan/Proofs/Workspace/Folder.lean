import IncludeScan.Index.Memory
import IncludeScan.Proofs.FileSystem.Visible
import IncludeScan.Workspace

/-!
Scans of folders.

A scan of a folder is a scan of the visible files that pass the filters
(`Workspace.scanFolder_covers_readable_visible_files`). Nothing is assumed of the filters but that
their texts can be read, and of the folder that names are legal and that no two items of a directory
have the same.
-/

set_option autoImplicit false

namespace IncludeScan.Workspace

/-! ## Filters -/

section Filters

variable (engine : FilterEngine)

def isFilter (text : String) : Bool :=
  (engine text).isOk

def accepts (text path : String) : Bool :=
  match engine text with
  | .ok matched => matched path
  | .error _ => false

variable {engine} {filter : Option String}

theorem compileFilter_ok (h : ∀ text ∈ filter, isFilter engine text = true) :
    compileFilter engine filter = .ok (filter.map (accepts engine)) := by
  cases filter with
  | none => rfl
  | some text =>
    have htext := h text rfl
    rw [isFilter] at htext
    cases hcompile : engine text with
    | error cause => simp [hcompile, Except.isOk, Except.toBool] at htext
    | ok matched =>
      have haccepts : accepts engine text = matched := by
        funext path
        simp [accepts, hcompile]
      simp [compileFilter, hcompile, haccepts]

theorem compileFilter_error {text : String} (hmem : text ∈ filter)
    (h : isFilter engine text = false) : ∃ cause, engine text = .error cause ∧
      compileFilter engine filter = .error (.pattern text cause) := by
  cases hmem
  rw [isFilter] at h
  cases hcompile : engine text with
  | error cause => exact ⟨cause, rfl, by simp [compileFilter, hcompile]⟩
  | ok matched => simp [hcompile, Except.isOk, Except.toBool] at h

theorem passes_iff {including excluding : Option String} {path : String} :
    passes (including.map (accepts engine)) (excluding.map (accepts engine)) path = true ↔
      (∀ text ∈ including, accepts engine text path = true) ∧
        ∀ text ∈ excluding, accepts engine text path = false := by
  rw [passes]
  cases including <;> cases excluding <;> simp

end Filters

/-! ## The scan -/

/-- A filter that cannot be read is an error, and so is a folder that cannot. Otherwise the scan is
that of the files, each once, to which names that are not hidden lead through directories that can
be read, as far as the texts of their paths pass the filters. In a file system value a directory can
be read exactly if its path is short enough. -/
theorem scanFolder_covers_readable_visible_files (w : Workspace) (engine : FilterEngine)
    (fs : FileSystem) (folder : Bytes) (shown : Except IoError ShownListing)
    (including excluding : Option String) (level : Level) :
    ((∃ text, (text ∈ including ∨ text ∈ excluding) ∧ isFilter engine text = false) →
      ∃ text cause, engine text = .error cause ∧
        w.scanFolder engine fs folder shown including excluding level =
          .error (.pattern text cause)) ∧
    ((∀ text, text ∈ including ∨ text ∈ excluding → isFilter engine text = true) →
      (∀ e, shown = .error e →
        w.scanFolder engine fs folder shown including excluding level = .error (.io e)) ∧
      ∀ entries, shown = .ok entries → entries.WellFormed →
        ∃ files : List Bytes, w.scanFolder engine fs folder shown including excluding level =
            w.scanFiles fs level (files.map Bytes.lossy) ∧
          files.Nodup ∧ ∀ path, path ∈ files ↔
            (∃ rel, path = rel.foldl Path.joinBytes folder ∧ entries.Leads rel ∧
              ∀ name ∈ rel,
                ¬(name.head? = some Bytes.dot ∧ (Bytes.text? name).isSome = true)) ∧
            (∀ text ∈ including, accepts engine text (Bytes.lossy path) = true) ∧
            ∀ text ∈ excluding, accepts engine text (Bytes.lossy path) = false) ∧
    (fs.WellFormed → ∀ text base, fs.resolve text = .ok base → fs.isDirectory text = true →
      ∃ entries, fs.lookInto text = .ok entries ∧ entries.WellFormed ∧
        ∀ rel, entries.Leads rel ↔ ∃ names, rel = names.map Bytes.ofText ∧
          (∃ content, fs.item? (base ++ names) = some (.file content)) ∧
          (names.dropLast.foldl Path.join text).utf8ByteSize < FileSystem.pathLimit) := by
  refine ⟨?_, ?_, fun hfs text base => FileSystem.lookInto_spec hfs⟩
  · rintro ⟨text, hmem, htext⟩
    by_cases hincluding : ∀ text ∈ including, isFilter engine text = true
    · have hexcluding : text ∈ excluding := by
        rcases hmem with hmem | hmem
        · simp [hincluding text hmem] at htext
        · exact hmem
      obtain ⟨cause, hcause, herror⟩ := compileFilter_error hexcluding htext
      exact ⟨text, cause, hcause, by rw [scanFolder, compileFilter_ok hincluding, herror]; rfl⟩
    · simp only [not_forall, Bool.not_eq_true] at hincluding
      obtain ⟨text, hmem, htext⟩ := hincluding
      obtain ⟨cause, hcause, herror⟩ := compileFilter_error hmem htext
      exact ⟨text, cause, hcause, by rw [scanFolder, herror]; rfl⟩
  · intro hfilters
    have hincluding := compileFilter_ok fun text h => hfilters text (Or.inl h)
    have hexcluding := compileFilter_ok fun text h => hfilters text (Or.inr h)
    constructor
    · rintro e rfl
      rw [scanFolder, hincluding, hexcluding]
      rfl
    · rintro entries rfl hwf
      let keep := passes (including.map (accepts engine)) (excluding.map (accepts engine))
      refine ⟨(entries.visibleFiles folder).filter (keep ∘ Bytes.lossy), ?_,
        (nodup_visibleFiles hwf folder).filter _, fun path => ?_⟩
      · rw [← List.filter_map, scanFolder, hincluding, hexcluding]
        rfl
      · rw [List.mem_filter, mem_visibleFiles_iff hwf, Function.comp_apply, passes_iff]

/-- A folder with hidden, locked, empty and linked directories in it, and with a file whose name is
no text. -/
def crowdedFolder : ShownListing :=
  .cons (Bytes.ofText "One.m") .file
    (.cons (Bytes.ofText ".git") (.directory true (.cons (Bytes.ofText "Two.m") .file .nil))
      (.cons (Bytes.ofText "locked") (.directory false (.cons (Bytes.ofText "Three.m") .file .nil))
        (.cons (Bytes.ofText "sub")
          (.directory true (.cons [0xFF, 0x2E, 0x6D] .file (.cons (Bytes.ofText "up") .other .nil)))
          (.cons (Bytes.ofText "empty") (.directory true .nil) .nil))))

theorem nested_file_of_crowded_folder_scanned :
    crowdedFolder.WellFormed ∧ ∃ files : List Bytes,
      (create (MemoryIndex.ofSnapshot ⟨[], []⟩).queries default).scanFolder regexFilters ⟨.nil, []⟩
          (Bytes.ofText "q") (.ok crowdedFolder) (some "q/") (some "One") .allRemovable =
        (create (MemoryIndex.ofSnapshot ⟨[], []⟩).queries default).scanFiles ⟨.nil, []⟩
          .allRemovable (files.map Bytes.lossy) ∧
      files.Nodup ∧
      Bytes.ofText "q/sub/" ++ [0xFF, 0x2E, 0x6D] ∈ files ∧ Bytes.ofText "q/One.m" ∉ files ∧
      Bytes.ofText "q/.git/Two.m" ∉ files ∧ Bytes.ofText "q/locked/Three.m" ∉ files := by
  have hwf : crowdedFolder.WellFormed := by
    simp only [crowdedFolder, ShownListing.WellFormed, Shown.WellFormed, Path.IsNameBytes]
    decide +kernel
  have hfilters : ∀ text, text ∈ some "q/" ∨ text ∈ some "One" →
      isFilter regexFilters text = true := by
    simp only [Option.mem_some_iff]
    rintro text (rfl | rfl)
    · decide +kernel
    · decide +kernel
  have hscan := (scanFolder_covers_readable_visible_files
    (create (MemoryIndex.ofSnapshot ⟨[], []⟩).queries default) regexFilters ⟨.nil, []⟩
    (Bytes.ofText "q") (.ok crowdedFolder) (some "q/") (some "One") .allRemovable).2.1 hfilters
  obtain ⟨files, hfiles, hnodup, hmem⟩ := hscan.2 crowdedFolder rfl hwf
  have hfirst {path : Bytes} {rel : List Bytes} (hrel : crowdedFolder.Leads rel)
      (hpath : path = rel.foldl Path.joinBytes (Bytes.ofText "q")) :
      (Text.names Bytes.slash path).drop 1 = rel := by
    have hfolder : Text.names Bytes.slash (Bytes.ofText "q") = [Bytes.ofText "q"] := by
      decide +kernel
    have hnames := Text.names_foldl_joined (Bytes.ofText "q") (hwf.isNameBytes hrel)
    rw [hfolder] at hnames
    rw [hpath]
    exact congrArg (List.drop 1) hnames
  refine ⟨hwf, files, hfiles, hnodup, ?_, ?_, ?_, ?_⟩
  · have htext : Bytes.lossy (Bytes.ofText "q/sub/" ++ [0xFF, 0x2E, 0x6D]) = "q/sub/\uFFFD.m" := by
      decide +kernel
    refine (hmem _).mpr ⟨⟨[Bytes.ofText "sub", [0xFF, 0x2E, 0x6D]], ?_, ?_, ?_⟩, ?_⟩
    · decide +kernel
    · have hsub : crowdedFolder.find? (Bytes.ofText "sub") = some (.directory true
          (.cons [0xFF, 0x2E, 0x6D] .file (.cons (Bytes.ofText "up") .other .nil))) := by
        simp [crowdedFolder, ShownListing.find?, Bytes.ofText_inj]
      exact .inside hsub (.file (if_pos rfl))
    · decide +kernel
    · rw [htext]
      simp only [Option.mem_some_iff, forall_eq']
      exact ⟨by cbv, by cbv⟩
  · intro hone
    have hexcluded := ((hmem _).mp hone).2.2 "One" rfl
    have haccepts : accepts regexFilters "One" "q/One.m" = true := by cbv
    rw [Bytes.lossy_ofText, haccepts] at hexcluded
    cases hexcluded
  · intro htwo
    obtain ⟨⟨rel, hpath, hrel, hvisible⟩, -⟩ := (hmem _).mp htwo
    have hnames := hfirst hrel hpath
    refine hvisible (Bytes.ofText ".git") ?_ (by decide +kernel)
    rw [← hnames]
    decide +kernel
  · intro hthree
    obtain ⟨⟨rel, hpath, hrel, -⟩, -⟩ := (hmem _).mp hthree
    have hnames : rel = [Bytes.ofText "locked", Bytes.ofText "Three.m"] :=
      (hfirst hrel hpath).symm.trans (by decide +kernel)
    subst hnames
    cases hrel with
    | inside h _ => simp [crowdedFolder, ShownListing.find?, Bytes.ofText_inj] at h

/-- The working directory by a path with more slashes than it needs. -/
def slashed : Nat → String
  | 0 => "."
  | n + 1 => slashed n ++ "/"

theorem size_slashed (n : Nat) : (slashed n).utf8ByteSize = n + 1 := by
  induction n with
  | zero => decide
  | succ n ih =>
    rw [slashed, String.utf8ByteSize_append, ih]
    rfl

theorem names_slashed (n : Nat) : Path.names (slashed n) = ["."] := by
  induction n with
  | zero => decide
  | succ n ih =>
    have hnames := Path.names_append_slash (slashed n) ""
    rw [String.append_empty, ih] at hnames
    exact hnames

theorem toList_slashed (n : Nat) : (slashed n).toList = '.' :: List.replicate n '/' := by
  induction n with
  | zero => decide
  | succ n ih => rw [slashed, String.toList_append, ih, List.replicate_succ']; rfl

theorem resolve_slashed {fs : FileSystem} {n : Nat} (hn : n + 1 < FileSystem.pathLimit)
    (hcwd : fs.shape? fs.cwd = some .directory) : fs.resolve (slashed n) = .ok fs.cwd := by
  have hdot (links : Nat) (steps : List String) :
      fs.walk links fs.cwd ("." :: steps) = fs.walk links fs.cwd steps := by
    cases links with
    | zero => rw [FileSystem.walk, FileSystem.walkWith_cons, hcwd]; rfl
    | succ => rw [FileSystem.walk, FileSystem.walkWith_cons, hcwd]; rfl
  refine FileSystem.resolve_eq_ok_iff.mpr ⟨?_, ?_, ?_, ?_⟩
  · intro hempty
    simpa [hempty] using toList_slashed n
  · simp [toList_slashed]
  · rwa [size_slashed]
  · have habsolute : FileSystem.isAbsolute (slashed n) = false := by
      simp [FileSystem.isAbsolute, toList_slashed]
    rw [habsolute, FileSystem.stepsOf, ← Path.names, names_slashed, List.singleton_append,
      if_neg Bool.false_ne_true, hdot]
    split
    · exact hdot 40 []
    · rfl

def oneDirectory : FileSystem :=
  ⟨.cons "d" (.directory (.cons "F.m" (.file (.text "")) .nil)) .nil, []⟩

theorem scanFolder_oneDirectory {folder : String} (hfolder : oneDirectory.resolve folder = .ok [])
    (hunread : oneDirectory.isDirectory (Path.join folder "d") = false) (w : Workspace)
    (engine : FilterEngine) (level : Level) :
    w.scanFolder engine oneDirectory (Bytes.ofText folder) (oneDirectory.lookInto folder) none none
        level = w.scanFiles oneDirectory level [] := by
  let entries : ShownListing := .cons (Bytes.ofText "d")
    (.directory false (.cons (Bytes.ofText "F.m") .file .nil)) .nil
  have hentries : oneDirectory.lookInto folder = .ok entries := by
    have hroot : oneDirectory.item? [] =
        some (.directory (.cons "d" (.directory (.cons "F.m" (.file (.text "")) .nil)) .nil)) :=
      rfl
    simp [FileSystem.lookInto, FileSystem.open?, hfolder, hroot, Listing.shown, Item.shown, hunread,
      entries]
  have hnone : entries.visibleFiles (Bytes.ofText folder) = [] := by
    simpa [entries, ShownListing.ways, Shown.ways] using
      visibleFiles_perm entries (Bytes.ofText folder)
  rw [scanFolder, hentries]
  simp [compileFilter, hnone, bind, Except.bind, Except.mapError]

theorem file_below_long_path_not_scanned :
    oneDirectory.WellFormed ∧ oneDirectory.resolve (slashed 4094) = .ok [] ∧
      oneDirectory.item? ["d", "F.m"] = some (.file (.text "")) ∧
      ∀ (w : Workspace) (engine : FilterEngine) (level : Level),
        w.scanFolder engine oneDirectory (Bytes.ofText (slashed 4094))
            (oneDirectory.lookInto (slashed 4094)) none none level =
          w.scanFiles oneDirectory level [] := by
  have hfolder : oneDirectory.resolve (slashed 4094) = .ok [] :=
    resolve_slashed (by decide) rfl
  refine ⟨by decide, hfolder, rfl, scanFolder_oneDirectory hfolder ?_⟩
  rw [Bool.eq_false_iff]
  intro hread
  obtain ⟨_, _, hresolve, -⟩ := FileSystem.isDirectory_iff.mp hread
  have hshort := (FileSystem.resolve_eq_ok_iff.mp hresolve).2.2.1
  obtain ⟨slash, -, hjoin⟩ := Path.join_eq_append (slashed 4094) "d"
  have hd : "d".utf8ByteSize = 1 := by decide
  rw [hjoin, String.utf8ByteSize_append, String.utf8ByteSize_append, size_slashed, hd,
    FileSystem.pathLimit] at hshort
  omega

end IncludeScan.Workspace
