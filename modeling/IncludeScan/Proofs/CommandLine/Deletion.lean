import IncludeScan.CommandLine.Run
import IncludeScan.Proofs.FileSystem.Canonical
import IncludeScan.Proofs.Removal
import Mathlib.Logic.Function.Iterate

/-!
Deleting what the scan of a list of files found.

The reports are applied one after the other (`read_foldl_applied`), and those for one file are all
equal, one for each time the file is named (`filter_path_reports`). So a file is edited as often as
it is named, always by the line numbers of its first text. The main statement says exactly when that
comes to the same as editing it once.
-/

set_option autoImplicit false

namespace IncludeScan

/-! ## Editing again -/

/-- Where a function makes smaller what it changes, repeating it gives what one step gives only if
the second step changes nothing. -/
theorem iterate_eq_apply_iff {α : Type} {f : α → α} {size : α → Nat}
    (h : ∀ x, f x = x ∨ size (f x) < size x) (x : α) {k : Nat} (hk : 0 < k) :
    f^[k] x = f x ↔ k = 1 ∨ f (f x) = f x := by
  have hle : ∀ n y, size (f^[n] y) ≤ size y := by
    intro n
    induction n with
    | zero => exact fun y => Nat.le_refl _
    | succ n ih =>
      intro y
      rw [Function.iterate_succ_apply]
      rcases h y with hy | hy
      · rw [hy]
        exact ih y
      · exact Nat.le_trans (ih (f y)) (Nat.le_of_lt hy)
  obtain ⟨k, rfl⟩ := Nat.exists_eq_succ_of_ne_zero (Nat.ne_of_gt hk)
  rw [Function.iterate_succ_apply]
  constructor
  · intro hfix
    cases k with
    | zero => exact Or.inl rfl
    | succ k =>
      refine Or.inr ((h (f x)).resolve_right fun hlt => ?_)
      rw [Function.iterate_succ_apply] at hfix
      have hback := hle k (f (f x))
      rw [hfix] at hback
      omega
  · rintro (hone | hfix)
    · cases hone
      rfl
    · exact Function.iterate_fixed hfix k

namespace Removal

def textSize : Content → Nat
  | .text s => s.length
  | _ => 0

theorem edited_eq_or_lt (entries : List Entry) (c : Content) :
    edited entries c = c ∨ textSize (edited entries c) < textSize c := by
  cases c with
  | bytes b => exact Or.inl rfl
  | rows r => exact Or.inl rfl
  | text s =>
    rcases shrinks_removeLines s.toList entries with hsame | hlt
    · exact Or.inl (by rw [edited, hsame, String.ofList_toList])
    · exact Or.inr (by simpa [edited, textSize, String.length_toList] using hlt)

end Removal

/-! ## Reports of a scan -/

theorem Scan.path_unusedIncludes {ix : SymbolIndex} {task : Scan.Task}
    {patterns : List TextPattern} {text : Option String} {report : Report}
    (h : Scan.unusedIncludes ix task patterns text = .ok report) : report.path = task.file := by
  simp only [Scan.unusedIncludes, bind, Except.bind] at h
  split at h
  · cases h
  · split at h
    · cases h
      rfl
    · split at h
      · cases h
      · split at h
        · cases h
        · cases h
          rfl

namespace Workspace

variable {w : Workspace} {fs : FileSystem} {level : Level}

theorem path_outcome {path : String} {report : Report}
    (h : w.outcome fs level path = .ok report) : report.path = path := by
  rw [outcome] at h
  cases hscan : w.scanFile fs level path with
  | error e =>
    rw [hscan] at h
    cases h
  | ok r =>
    rw [hscan] at h
    cases h
    exact Scan.path_unusedIncludes hscan

theorem reports_foldl_collect (outcomes : List (Except Failure Report)) (m : MultiReport) :
    (outcomes.foldl collect m).reports = m.reports ++ outcomes.filterMap Except.toOption := by
  induction outcomes generalizing m with
  | nil => simp
  | cons o outcomes ih =>
    rw [List.foldl_cons, ih]
    cases o with
    | error e => rw [List.filterMap_cons_none rfl, collect]
    | ok r => simp [collect, Except.toOption]

section Reports

variable {paths : List String} {m : MultiReport} (hm : w.scanFiles fs level paths = .ok m)

include hm

theorem reports_scanFiles :
    m.reports = paths.filterMap (fun path => (w.outcome fs level path).toOption) := by
  unfold scanFiles at hm
  split at hm
  · cases hm
  · cases hm
    rw [reports_foldl_collect, List.filterMap_map]
    rfl

theorem outcome_of_mem_reports {report : Report} (h : report ∈ m.reports) :
    report.path ∈ paths ∧ w.outcome fs level report.path = .ok report := by
  rw [reports_scanFiles hm, List.mem_filterMap] at h
  obtain ⟨path, hpath, hreport⟩ := h
  cases houtcome : w.outcome fs level path with
  | error e => simp [houtcome, Except.toOption] at hreport
  | ok r =>
    have hr : r = report := by simpa [houtcome, Except.toOption] using hreport
    subst hr
    rw [path_outcome houtcome]
    exact ⟨hpath, houtcome⟩

/-- A file has one report for each time it is named. -/
theorem filter_path_reports {path : String} {report : Report}
    (h : w.outcome fs level path = .ok report) :
    m.reports.filter (fun r => r.path = path) = List.replicate (paths.count path) report := by
  rw [reports_scanFiles hm]
  clear hm
  induction paths with
  | nil => rfl
  | cons p paths ih =>
    by_cases hp : p = path
    · subst hp
      rw [List.filterMap_cons_some (by rw [h]; rfl), List.count_cons_self, List.replicate_succ,
        List.filter_cons_of_pos (by simpa using path_outcome h), ih]
    · rw [List.count_cons_of_ne hp, ← ih]
      cases houtcome : w.outcome fs level p with
      | error e => rw [List.filterMap_cons_none (by rw [houtcome]; rfl)]
      | ok r =>
        rw [List.filterMap_cons_some (by rw [houtcome]; rfl),
          List.filter_cons_of_neg (by simpa [path_outcome houtcome] using hp)]

end Reports
end Workspace

/-! ## Applying reports -/

/-- The file system after deleting what a report found. It is the given one if the file cannot be
edited. -/
def Report.applied (fs : FileSystem) (r : Report) : FileSystem :=
  match r.removeUnused fs with
  | .ok (_, fs) => fs
  | .error _ => fs

theorem Report.applied_eq (fs : FileSystem) (r : Report) :
    r.applied fs = Removal.after fs r.path r.unused := by
  rw [applied, removeUnused, Removal.after]
  cases Removal.run fs r.path r.unused <;> rfl

theorem Report.read_applied (fs : FileSystem) (r : Report) :
    (r.applied fs).read r.path = (fs.read r.path).map (Removal.edited r.unused) := by
  rw [applied_eq, Removal.read_after, if_pos rfl]

namespace CommandLine

theorem deleteUnused_eq (fs : FileSystem) (reports : List Report) :
    (deleteUnused fs reports).2 = reports.foldl Report.applied fs := by
  have hstep : ∀ (state : Nat × FileSystem) (r : Report), Report.applied state.2 r =
      (match r.removeUnused state.2 with
        | .ok (n, fs) => (state.1 + n, fs)
        | .error _ => (state.1, state.2)).2 := by
    intro state r
    rw [Report.applied]
    cases r.removeUnused state.2 <;> rfl
  have hskip : ∀ (fs : FileSystem) (r : Report),
      (if !r.unused.isEmpty then r.applied fs else fs) = r.applied fs := by
    intro fs r
    split
    · rfl
    · next hempty =>
      have hnil : r.unused = [] := by simpa using hempty
      rw [Report.applied_eq, hnil, Removal.after_nil]
  refine (List.foldl_hom Prod.snd hstep).symm.trans ?_
  rw [List.foldl_filter]
  simp only [hskip]

/-- Every report edits its own file, wherever the others stand. -/
theorem read_foldl_applied (reports : List Report) (fs : FileSystem) (path : String) :
    (reports.foldl Report.applied fs).read path =
      (fs.read path).map fun c =>
        (reports.filter (fun r => fs.place? r.path = fs.place? path)).foldl
          (fun c r => Removal.edited r.unused c) c := by
  induction reports generalizing fs with
  | nil =>
    change fs.read path = _
    cases fs.read path <;> rfl
  | cons r reports ih =>
    have htree : fs.SameTree (r.applied fs) := by
      rw [Report.applied_eq]
      exact Removal.sameTree_after fs r.path r.unused
    have hread := Removal.read_after fs r.path r.unused path
    rw [← Report.applied_eq] at hread
    rw [List.foldl_cons, ih, hread]
    simp only [htree.place?]
    by_cases hplace : fs.place? r.path = fs.place? path
    · rw [if_pos hplace, List.filter_cons_of_pos (by simpa using hplace)]
      cases fs.read path <;> rfl
    · rw [if_neg hplace, List.filter_cons_of_neg (by simpa using hplace)]

theorem foldl_edited_replicate (r : Report) (k : Nat) (c : Content) :
    (List.replicate k r).foldl (fun c r => Removal.edited r.unused c) c =
      (Removal.edited r.unused)^[k] c := by
  induction k generalizing c with
  | zero => rfl
  | succ k ih => rw [List.replicate_succ, List.foldl_cons, ih, Function.iterate_succ_apply]

/-! ## Files on the command line -/

section Files

variable {fs : FileSystem} (hcwd : fs.Settled fs.cwd)

include hcwd

/-- Two spellings of one place become one path. -/
theorem absolutePath_eq {path : String} {place : List String}
    (h : fs.place? (absolutePath fs path) = some place) :
    absolutePath fs path = FileSystem.textOfParts place := by
  have hresolve := FileSystem.resolve_of_place? h
  rw [absolutePath, FileSystem.canonical] at hresolve ⊢
  cases hpath : fs.resolve path with
  | error e =>
    rw [hpath] at hresolve
    cases hpath.symm.trans hresolve
  | ok parts =>
    rw [hpath] at hresolve
    have hsettled := FileSystem.resolve_settled hcwd hpath
    have hparts : place = parts := FileSystem.resolve_textOfParts hsettled hresolve
    rw [hparts]
    rfl

theorem read_deleteUnused {w : Workspace} {level : Level} {files : List String} {m : MultiReport}
    (hm : w.scanFiles fs level (files.map (absolutePath fs)) = .ok m) {report : Report}
    (h : report ∈ m.reports) :
    (deleteUnused fs m.reports).2.read report.path =
      (fs.read report.path).map
        (Removal.edited report.unused)^[(files.map (absolutePath fs)).count report.path] := by
  rw [deleteUnused_eq, read_foldl_applied]
  cases hplace : fs.place? report.path with
  | none =>
    obtain ⟨e, hread⟩ := FileSystem.read_of_place?_none hplace
    rw [hread]
    rfl
  | some place =>
    have hsame : ∀ r ∈ m.reports,
        decide (fs.place? r.path = some place) = decide (r.path = report.path) := by
      intro r hr
      obtain ⟨file, -, hfile⟩ := List.mem_map.mp (Workspace.outcome_of_mem_reports hm hr).1
      obtain ⟨file', -, hfile'⟩ := List.mem_map.mp (Workspace.outcome_of_mem_reports hm h).1
      rw [decide_eq_decide]
      constructor
      · intro hr
        rw [← hfile] at hr ⊢
        rw [← hfile'] at hplace ⊢
        rw [absolutePath_eq hcwd hr, absolutePath_eq hcwd hplace]
      · intro hr
        rw [hr, hplace]
    rw [List.filter_congr hsame,
      Workspace.filter_path_reports hm (Workspace.outcome_of_mem_reports hm h).2]
    congr 1
    funext c
    exact foldl_edited_replicate report _ c

end Files

theorem scanTargets_delete {w : Workspace} {fs : FileSystem} {o : ScanOptions} {m : MultiReport}
    (hm : w.scanFiles fs w.config.level (o.files.map (absolutePath fs)) = .ok m)
    (hfolder : o.folder = none) (hdelete : o.delete = true) :
    (scanTargets w fs o).2 = (deleteUnused fs m.reports).2 := by
  simp only [scanTargets, hfolder]
  split
  · next hempty =>
    have hnone : m.reports = [] := by
      rw [Workspace.reports_scanFiles hm, List.isEmpty_iff.1 hempty]
      rfl
    rw [hnone]
    rfl
  · rw [hm]
    simp only [finishScan, hdelete]
    split <;> rfl

theorem scanTargets_noReport {w : Workspace} {fs : FileSystem} {o : ScanOptions} {e : ScanError}
    (he : w.scanFiles fs w.config.level (o.files.map (absolutePath fs)) = .error e)
    (hfolder : o.folder = none) : (scanTargets w fs o).2 = fs := by
  simp only [scanTargets, hfolder, he]
  split <;> rfl

/-- Every file that no report leads to stays as it is. A scanned file ends up as one deletion of its
report leaves it exactly if one argument leads to it or a second deletion would change nothing
more. Without reports nothing changes at all. -/
theorem delete_eq_applied_once_iff (w : Workspace) (fs : FileSystem) (hcwd : fs.Settled fs.cwd)
    (o : ScanOptions) (hfolder : o.folder = none) (hdelete : o.delete = true) :
    let paths := o.files.map (absolutePath fs)
    let result := (scanTargets w fs o).2
    (∀ e, w.scanFiles fs w.config.level paths = .error e → result = fs) ∧
    ∀ m, w.scanFiles fs w.config.level paths = .ok m →
      (∀ path, (∀ report ∈ m.reports, fs.place? report.path ≠ fs.place? path) →
        result.read path = fs.read path) ∧
      ∀ report ∈ m.reports,
        (result.read report.path = (report.applied fs).read report.path ↔
          paths.count report.path = 1 ∨
            (report.applied (report.applied fs)).read report.path =
              (report.applied fs).read report.path) := by
  intro paths result
  refine ⟨fun e he => scanTargets_noReport he hfolder, fun m hm => ?_⟩
  have hresult : result = (deleteUnused fs m.reports).2 := scanTargets_delete hm hfolder hdelete
  refine ⟨fun path hother => ?_, fun report hreport => ?_⟩
  · rw [hresult, deleteUnused_eq, read_foldl_applied, List.filter_eq_nil_iff.mpr]
    · cases fs.read path <;> rfl
    · intro r hr
      simpa using hother r hr
  · rw [hresult, read_deleteUnused hcwd hm hreport, Report.read_applied, Report.read_applied,
      Report.read_applied]
    cases fs.read report.path with
    | error e => simp [Except.map]
    | ok c =>
      have hcount : 0 < paths.count report.path :=
        List.count_pos_iff.mpr (Workspace.outcome_of_mem_reports hm hreport).1
      simpa [Except.map] using
        iterate_eq_apply_iff (Removal.edited_eq_or_lt report.unused) c hcount

def unusedHeader (file header : String) : Workspace where
  index := (MemoryIndex.ofSnapshot ⟨[⟨"F.o", file, none, [⟨file, header, 1⟩]⟩], []⟩).queries
  config := ⟨.standard, [], none⟩
  patterns := []

def deleteFrom (files : List String) : ScanOptions :=
  ⟨files, "index.json", none, none, none, none, true, false, true⟩

def linkedFile : FileSystem where
  root := .cons "src" (.directory (.cons "F.m" (.file (.text "#import \"A.h\"\nint x;\n"))
    (.cons "L.m" (.link "F.m") .nil))) .nil
  cwd := ["src"]

theorem spellings_delete_once :
    linkedFile.Settled linkedFile.cwd ∧
    (scanTargets (unusedHeader "/src/F.m" "/src/A.h") linkedFile
        (deleteFrom ["F.m", "L.m", "../src/./F.m"])).2.read "/src/F.m" =
      (Report.applied linkedFile ⟨"/src/F.m", some "F.o", [⟨"/src/F.m", "/src/A.h", 1⟩]⟩).read
        "/src/F.m" := by
  have hcwd : linkedFile.Settled linkedFile.cwd := ⟨by decide, Or.inr (by decide +kernel)⟩
  refine ⟨hcwd, (((delete_eq_applied_once_iff (unusedHeader "/src/F.m" "/src/A.h") linkedFile hcwd
    (deleteFrom ["F.m", "L.m", "../src/./F.m"]) rfl rfl).2 _ rfl).2
    ⟨"/src/F.m", some "F.o", [⟨"/src/F.m", "/src/A.h", 1⟩]⟩ (by decide +kernel)).mpr (Or.inr ?_)⟩
  have honce : (Report.applied linkedFile
      ⟨"/src/F.m", some "F.o", [⟨"/src/F.m", "/src/A.h", 1⟩]⟩).read "/src/F.m" =
        .ok (.text "int x;\n") := eq_ok_of_toOption (by decide +kernel)
  rw [honce, Report.read_applied, honce]
  exact eq_ok_of_toOption (by decide +kernel)

def commentedFile : FileSystem where
  root := .cons "F.m" (.file (.text "#import \"A.h\"\n// see A.h\nint x;\n")) .nil
  cwd := []

theorem second_deletion_takes_comment :
    (∃ m, (unusedHeader "/F.m" "/A.h").scanFiles commentedFile .standard
        (["/F.m", "/../F.m"].map (absolutePath commentedFile)) = .ok m ∧
      (⟨"/F.m", some "F.o", [⟨"/F.m", "/A.h", 1⟩]⟩ : Report) ∈ m.reports) ∧
    (Report.applied commentedFile ⟨"/F.m", some "F.o", [⟨"/F.m", "/A.h", 1⟩]⟩).read "/F.m" =
      .ok (.text "// see A.h\nint x;\n") ∧
    (scanTargets (unusedHeader "/F.m" "/A.h") commentedFile
      (deleteFrom ["/F.m", "/../F.m"])).2.read "/F.m" = .ok (.text "int x;\n") :=
  ⟨⟨_, rfl, by decide +kernel⟩, eq_ok_of_toOption (by decide +kernel),
    eq_ok_of_toOption (by decide +kernel)⟩

end CommandLine
end IncludeScan
