import IncludeScan.Proofs.Scan.Visits

/-!
The report of a scan over an index in memory.

Such a scan always succeeds, and its report is a function of the snapshot (`unusedIncludes_eq`). The
latest unit that mentions the file gives the tree, the visited paths decide which root includes are
kept (`keptRoots`), and the other direct includes are reported. For every visited path with a node
some root include above it is kept, and no root include is kept without such a path.
-/

set_option autoImplicit false

namespace IncludeScan

/-! ## The latest unit -/

namespace Scan

def keepLater (time : String → Option Int64) (best : Option (String × Option Int64))
    (unit : String) : Option (String × Option Int64) :=
  match best with
  | none => some (unit, time unit)
  | some (_, bestTime) => if isLater (time unit) bestTime then some (unit, time unit) else best

theorem latestOf_eq {ix : SymbolIndex} {time : String → Option Int64} {units : List String}
    (h : ∀ unit ∈ units, ix.modificationTime unit = .ok (time unit))
    (best : Option (String × Option Int64)) :
    latestOf ix best units = .ok (units.foldl (keepLater time) best) := by
  induction units generalizing best with
  | nil => rfl
  | cons unit units ih =>
    have hrest := ih (fun unit' hmem => h unit' (List.mem_cons_of_mem _ hmem))
    rw [latestOf, h unit List.mem_cons_self, ok_bind]
    cases best with
    | none => exact hrest _
    | some best => exact hrest _

theorem foldl_keepLater_cases (time : String → Option Int64) (units : List String)
    (best : Option (String × Option Int64)) :
    units.foldl (keepLater time) best = best ∧ (best = none → units = []) ∨
      ∃ unit ∈ units, units.foldl (keepLater time) best = some (unit, time unit) := by
  induction units generalizing best with
  | nil => exact .inl ⟨rfl, fun _ => rfl⟩
  | cons unit units ih =>
    have hstep : keepLater time best unit = some (unit, time unit) ∨
        best ≠ none ∧ keepLater time best unit = best := by
      unfold keepLater
      split
      · exact .inl rfl
      · split
        · exact .inl rfl
        · exact .inr ⟨by simp, rfl⟩
    rw [List.foldl_cons]
    rcases ih (keepLater time best unit) with ⟨hkeep, -⟩ | ⟨unit', hmem, heq⟩
    · rw [hkeep]
      rcases hstep with hnew | ⟨hsome, hold⟩
      · exact .inr ⟨unit, List.mem_cons_self, hnew⟩
      · exact .inl ⟨hold, fun hnone => absurd hnone hsome⟩
    · exact .inr ⟨unit', List.mem_cons_of_mem _ hmem, heq⟩

end Scan

namespace Snapshot

def latestUnit? (s : Snapshot) (file : String) : Option CompilationUnit :=
  ((s.unitsContaining file).foldl
    (Scan.keepLater (fun name => (s.unit? name).bind (·.modifiedAt))) none).bind
      (fun best => s.unit? best.1)

theorem exists_unit?_of_mem {s : Snapshot} {file name : String}
    (h : name ∈ s.unitsContaining file) : ∃ u, s.unit? name = some u ∧ u.name = name := by
  obtain ⟨u, hu, rfl⟩ := List.mem_map.1 h
  have hsome : (s.unit? u.name).isSome = true :=
    List.find?_isSome.2 ⟨u, (List.mem_filter.1 hu).1, beq_self_eq_true _⟩
  obtain ⟨u', hu'⟩ := Option.isSome_iff_exists.1 hsome
  have hname := List.find?_some hu'
  exact ⟨u', hu', beq_iff_eq.1 hname⟩

theorem latestUnit_ofSnapshot (s : Snapshot) (file : String) :
    Scan.latestUnit (MemoryIndex.ofSnapshot s).queries file =
      .ok ((s.latestUnit? file).map (·.name)) ∧
      (s.latestUnit? file = none ↔ s.unitsContaining file = []) ∧
      ∀ u, s.latestUnit? file = some u → s.unit? u.name = some u := by
  have htime : ∀ name ∈ s.unitsContaining file,
      (MemoryIndex.ofSnapshot s).queries.modificationTime name =
        .ok ((s.unit? name).bind (·.modifiedAt)) := by
    intro name hname
    obtain ⟨u, hu, -⟩ := exists_unit?_of_mem hname
    rw [MemoryIndex.queries_modificationTime s hu, hu]
    rfl
  unfold Scan.latestUnit latestUnit?
  rw [MemoryIndex.queries_unitsContaining, ok_bind, Scan.latestOf_eq htime]
  rcases Scan.foldl_keepLater_cases (fun name => (s.unit? name).bind (·.modifiedAt))
    (s.unitsContaining file) none with ⟨heq, hnil⟩ | ⟨name, hname, heq⟩
  · rw [heq]
    refine ⟨rfl, ⟨fun _ => hnil rfl, fun _ => rfl⟩, ?_⟩
    rintro u ⟨⟩
  · obtain ⟨u, hu, rfl⟩ := exists_unit?_of_mem hname
    have hbind : (some (u.name, (s.unit? u.name).bind (·.modifiedAt))).bind
        (fun best => s.unit? best.1) = some u := hu
    rw [heq, hbind]
    refine ⟨rfl, ⟨?_, fun h => ?_⟩, ?_⟩
    · rintro ⟨⟩
    · rw [h] at hname
      cases hname
    · rintro u' ⟨⟩
      exact hu

theorem mem_unitsContaining_of_latestUnit? {s : Snapshot} {file : String} {u : CompilationUnit}
    (h : s.latestUnit? file = some u) : u.name ∈ s.unitsContaining file := by
  unfold latestUnit? at h
  rcases Scan.foldl_keepLater_cases (fun name => (s.unit? name).bind (·.modifiedAt))
    (s.unitsContaining file) none with ⟨heq, -⟩ | ⟨name, hname, heq⟩
  · rw [heq] at h
    cases h
  · obtain ⟨u', hu', rfl⟩ := exists_unit?_of_mem hname
    rw [heq, Option.bind_some, hu'] at h
    cases h
    exact hname

end Snapshot

/-! ## The kept root includes -/

namespace Scan

def keptRoots (level : Level) (t : Tree) (paths : List String) : List Nat :=
  if level.marksAllRoots then paths.flatMap t.rootsAbove else t.chosenRoots paths

theorem keptRoots_of_all {level : Level} (h : level.marksAllRoots = true) (t : Tree)
    (paths : List String) : keptRoots level t paths = paths.flatMap t.rootsAbove := by
  unfold keptRoots
  rw [if_pos h]

theorem keptRoots_of_one {level : Level} (h : level.marksAllRoots = false) (t : Tree)
    (paths : List String) : keptRoots level t paths = t.chosenRoots paths := by
  unfold keptRoots
  rw [if_neg (by simp [h])]

theorem exists_mem_keptRoots {level : Level} {t : Tree} {paths : List String} {path : String}
    (hmem : path ∈ paths) (hne : t.nodesFor path ≠ []) :
    ∃ r ∈ t.rootsAbove path, r ∈ keptRoots level t paths := by
  cases hl : level.marksAllRoots with
  | true =>
    obtain ⟨i, hi⟩ := List.exists_mem_of_ne_nil _ hne
    rw [keptRoots_of_all hl]
    have hr : t.rootInclude i ∈ t.rootsAbove path := List.mem_map.2 ⟨i, hi, rfl⟩
    exact ⟨t.rootInclude i, hr, List.mem_flatMap.2 ⟨path, hmem, hr⟩⟩
  | false =>
    rw [keptRoots_of_one hl]
    exact Tree.exists_mem_chosenRoots hmem hne

theorem exists_of_mem_keptRoots {level : Level} {t : Tree} {paths : List String} {r : Nat}
    (h : r ∈ keptRoots level t paths) : ∃ path ∈ paths, r ∈ t.rootsAbove path := by
  cases hl : level.marksAllRoots with
  | true =>
    rw [keptRoots_of_all hl] at h
    exact List.mem_flatMap.1 h
  | false =>
    rw [keptRoots_of_one hl] at h
    exact Tree.exists_of_mem_chosenRoots h

/-- Visiting paths and settling what was put off marks the kept root includes. -/
theorem marks_foldl_visit {file : String} {t₀ : Tree} (wf : t₀.WellFormed file)
    (hm : t₀.Marks []) (hb : t₀.batches = []) (level : Level) (paths : List String) :
    Tree.SameShape t₀ (paths.foldl (visit level) t₀).resolveBatches ∧
      (paths.foldl (visit level) t₀).resolveBatches.Marks (keptRoots level t₀ paths) := by
  cases hl : level.marksAllRoots with
  | true =>
    have hvisit : visit level = Tree.visitAll := by
      funext t path
      unfold visit
      rw [if_pos hl]
    obtain ⟨hs, hb', hm'⟩ := Tree.marks_foldl_visitAll wf hm hb paths
    rw [hvisit, Tree.resolveBatches_of_nil hb', keptRoots_of_all hl]
    exact ⟨hs, hm'⟩
  | false =>
    have hvisit : visit level = Tree.visitOne := by
      funext t path
      unfold visit
      rw [if_neg (by simp [hl])]
    obtain ⟨hs, -, hm'⟩ := Tree.marks_resolveBatches wf hm hb paths
    rw [hvisit, keptRoots_of_one hl]
    exact ⟨hs, hm'⟩

/-! ## The report -/

/-- Visiting paths in a built tree leaves the direct includes unused that are not kept for them. -/
theorem unusedRootIncludes_foldl_visit (level : Level) (file : String) (es : List Entry)
    (paths : List String) :
    (paths.foldl (visit level) (Tree.build file es)).resolveBatches.unusedRootIncludes =
      (Tree.build file es).unkeptEntries (keptRoots level (Tree.build file es) paths) := by
  have hc := Tree.build_collects file es
  obtain ⟨hs, hm⟩ :=
    marks_foldl_visit hc.wellFormed (Tree.marks_build file es) hc.batches_eq level paths
  exact Tree.unusedRootIncludes_eq hc.wellFormed hs hm

theorem namesIn_nil (text : Option String) : namesIn [] text = [] := by
  cases text with
  | none => rfl
  | some content => rfl

def unusedIn (s : Snapshot) (task : Task) (names : List String) (u : CompilationUnit) :
    List Entry :=
  let t := Tree.build task.file u.includes
  t.unkeptEntries (keptRoots task.level t (visitedPaths s task names))

def reportOf (s : Snapshot) (task : Task) (names : List String) : Report :=
  match s.latestUnit? task.file with
  | none => .notIndexed task.file
  | some u => ⟨task.file, some u.name, unusedIn s task names u⟩

theorem unusedIncludes_eq (s : Snapshot) (task : Task) (patterns : List TextPattern)
    (text : Option String) :
    unusedIncludes (MemoryIndex.ofSnapshot s).queries task patterns text =
      .ok (reportOf s task (namesIn patterns text)) := by
  obtain ⟨hlatest, -, hunit⟩ := s.latestUnit_ofSnapshot task.file
  unfold unusedIncludes reportOf
  rw [hlatest, ok_bind]
  cases hu : s.latestUnit? task.file with
  | none => rfl
  | some u =>
    have hincludes := MemoryIndex.queries_includesOf s (hunit u hu)
    simp only [Option.map_some, hincludes, ok_bind, markNeeded_eq, unusedRootIncludes_foldl_visit]
    rfl

theorem reportOf_cases (s : Snapshot) (file : String) :
    (s.unitsContaining file = [] ∧
        ∀ level names, reportOf s ⟨file, level⟩ names = .notIndexed file) ∨
      ∃ u, s.unitsContaining file ≠ [] ∧ s.unit? u.name = some u ∧
        ∀ level names, reportOf s ⟨file, level⟩ names =
          ⟨file, some u.name, unusedIn s ⟨file, level⟩ names u⟩ := by
  obtain ⟨-, hnone, hunit⟩ := s.latestUnit_ofSnapshot file
  cases hu : s.latestUnit? file with
  | none => exact .inl ⟨hnone.1 hu, fun level names => by simp only [reportOf, hu]⟩
  | some u =>
    refine .inr ⟨u, fun hnil => ?_, hunit u hu, fun level names => by simp only [reportOf, hu]⟩
    rw [hnone.2 hnil] at hu
    cases hu

theorem mem_unitsContaining_of_unit {s : Snapshot} {task : Task} {names : List String}
    {name : String} (h : (reportOf s task names).unit = some name) :
    name ∈ s.unitsContaining task.file := by
  unfold reportOf at h
  split at h
  · cases h
  · next u hu =>
    cases h
    exact Snapshot.mem_unitsContaining_of_latestUnit? hu

end Scan
end IncludeScan
