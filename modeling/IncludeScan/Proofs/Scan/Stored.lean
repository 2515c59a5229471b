import IncludeScan.Proofs.Index.Rows
import IncludeScan.Proofs.Scan.Outcome
import IncludeScan.Workspace

/-!
Scans over a store.

A store answers like the index in memory of the merged snapshots, so scans over the two are the
same (`store_agrees_with_memory`). Importing a snapshot again puts every unit back in its place and
repeats occurrences that are stored already. A scan goes by the first visit of each path, by the
first symbol of each `usr` and by whether there is a base at all; repeats behind the first
occurrences change none of these (`reportOf_append_of_subset`).
-/

set_option autoImplicit false

namespace IncludeScan

/-! ## Stores and indexes in memory -/

/-- After any imports, every query of the store has the answer of the index in memory of the merged
snapshots, and so has every scan, which succeeds. -/
theorem RowStore.store_agrees_with_memory (shots : List Snapshot) :
    (shots.foldl importSnapshot .empty).queries =
        (MemoryIndex.ofSnapshot (Snapshot.merge shots)).queries ∧
      ∀ (config : Config) (fs : FileSystem) (level : Level) (path : String), ∃ report,
        (Workspace.create (shots.foldl importSnapshot .empty).queries config).scanFile fs level
          path = .ok report ∧
        (Workspace.create (MemoryIndex.ofSnapshot (Snapshot.merge shots)).queries config).scanFile
          fs level path = .ok report := by
  have hqueries := (stores_imports shots).queries_eq
  refine ⟨hqueries, fun config fs level path => ?_⟩
  rw [hqueries]
  have hscan := Scan.unusedIncludes_eq (Snapshot.merge shots) ⟨path, level⟩
    (TextPattern.compileAll config.patterns) (fs.readText path).toOption
  exact ⟨_, hscan, hscan⟩

/-! ## Units put in place again -/

namespace Snapshot

def lastNamed? (us : List CompilationUnit) (name : String) : Option CompilationUnit :=
  us.reverse.find? (fun u => u.name == name)

theorem lastNamed?_concat (us : List CompilationUnit) (u : CompilationUnit) (name : String) :
    lastNamed? (us ++ [u]) name = if u.name = name then some u else lastNamed? us name := by
  unfold lastNamed?
  rw [List.reverse_append, List.reverse_singleton, List.singleton_append, List.find?_cons]
  by_cases h : u.name = name
  · simp [h]
  · rw [beq_false_of_ne h, if_neg h]

theorem name_of_lastNamed? {us : List CompilationUnit} {u : CompilationUnit} {name : String}
    (h : lastNamed? us name = some u) : u.name = name := by
  simpa using List.find?_some h

theorem mem_map_name_foldl_placeUnit (us acc : List CompilationUnit) (name : String) :
    name ∈ (us.foldl placeUnit acc).map (·.name) ↔
      name ∈ acc.map (·.name) ∨ name ∈ us.map (·.name) := by
  induction us generalizing acc with
  | nil => simp
  | cons u us ih =>
    rw [List.foldl_cons, ih, map_name_placeUnit, List.map_cons, List.mem_cons]
    split
    · next hu =>
      constructor
      · tauto
      · rintro (h | rfl | h) <;> tauto
    · rw [List.mem_append, List.mem_singleton, or_assoc]

/-- Units whose names are all there go where these stand, the last of each name. -/
theorem foldl_placeUnit_of_mem {us acc : List CompilationUnit}
    (h : ∀ u ∈ us, u.name ∈ acc.map (·.name)) :
    us.foldl placeUnit acc = acc.map (fun v => (lastNamed? us v.name).getD v) := by
  induction us using List.reverseRecOn with
  | nil => simp [lastNamed?]
  | append_singleton us u ih =>
    have hold := ih fun v hv => h v (List.mem_append_left _ hv)
    have hname : ∀ v : CompilationUnit, ((lastNamed? us v.name).getD v).name = v.name := by
      intro v
      cases hlast : lastNamed? us v.name with
      | none => rfl
      | some w => exact name_of_lastNamed? hlast
    have hu : u.name ∈ (us.foldl placeUnit acc).map (·.name) := by
      rw [mem_map_name_foldl_placeUnit]
      exact .inl (h u (List.mem_append_right _ (List.mem_singleton.2 rfl)))
    rw [List.foldl_append, List.foldl_cons, List.foldl_nil, placeUnit, if_pos hu, hold,
      List.map_map]
    refine List.map_congr_left fun v _ => ?_
    rw [Function.comp_apply, hname, lastNamed?_concat]
    by_cases hv : v.name = u.name
    · rw [if_pos hv, if_pos hv.symm, Option.getD_some]
    · rw [if_neg hv, if_neg fun heq => hv heq.symm]

theorem lastNamed?_of_mem_foldl_placeUnit {us : List CompilationUnit} {v : CompilationUnit}
    (h : v ∈ us.foldl placeUnit []) : lastNamed? us v.name = some v := by
  induction us using List.reverseRecOn with
  | nil => cases h
  | append_singleton us u ih =>
    rw [List.foldl_append, List.foldl_cons, List.foldl_nil] at h
    rw [lastNamed?_concat]
    rcases mem_placeUnit.1 h with rfl | ⟨hold, hne⟩
    · rw [if_pos rfl]
    · rw [if_neg fun heq => hne heq.symm, ih hold]

theorem foldl_placeUnit_again (us : List CompilationUnit) :
    us.foldl placeUnit (us.foldl placeUnit []) = us.foldl placeUnit [] := by
  have hnames : ∀ u ∈ us, u.name ∈ (us.foldl placeUnit []).map (·.name) := by
    intro u hu
    rw [mem_map_name_foldl_placeUnit]
    exact .inr (List.mem_map.2 ⟨u, hu, rfl⟩)
  rw [foldl_placeUnit_of_mem hnames]
  refine (List.map_congr_left fun v hv => ?_).trans (List.map_id _)
  rw [lastNamed?_of_mem_foldl_placeUnit hv]
  rfl

theorem merge_replicate (s : Snapshot) (k : Nat) :
    merge (List.replicate (k + 1) s) = ⟨(merge [s]).units,
      s.occurrences ++ (List.replicate k s).flatMap (·.occurrences)⟩ := by
  have hunits : (List.replicate (k + 1) s).flatMap (·.units) = s.units ++
      (List.replicate k s).flatMap (·.units) := by
    rw [List.replicate_succ, List.flatMap_cons]
  have hagain : ∀ k, ((List.replicate k s).flatMap (·.units)).foldl placeUnit
      (s.units.foldl placeUnit []) = s.units.foldl placeUnit [] := by
    intro k
    induction k with
    | zero => rfl
    | succ k ih =>
      rw [List.replicate_succ, List.flatMap_cons, List.foldl_append, foldl_placeUnit_again, ih]
  unfold merge
  rw [hunits, List.foldl_append, hagain, List.replicate_succ, List.flatMap_cons,
    List.flatMap_singleton]

/-! ## Repeated occurrences -/

section Repeats

variable {s : Snapshot} {more : List Occurrence} (hmore : more ⊆ s.occurrences)
include hmore

theorem counts_append (level : Level) (o : Occurrence) :
    counts ⟨s.units, s.occurrences ++ more⟩ level o = s.counts level o := by
  have hback : (⟨s.units, s.occurrences ++ more⟩ : Snapshot).occurrences ⊆ s.occurrences :=
    List.append_subset.2 ⟨List.Subset.refl _, hmore⟩
  have hforth : s.occurrences ⊆ (⟨s.units, s.occurrences ++ more⟩ : Snapshot).occurrences :=
    List.subset_append_left _ _
  rw [Bool.eq_iff_iff]
  exact ⟨counts_of_subset hback, counts_of_subset hforth⟩

theorem firstBy_filter_append {κ : Type} [DecidableEq κ] (key : Occurrence → κ)
    (q : Occurrence → Bool) :
    firstBy key ((s.occurrences ++ more).filter q) = firstBy key (s.occurrences.filter q) := by
  rw [List.filter_append]
  exact firstBy_append_of_subset (List.filter_subset q hmore)

theorem firstBy_flatMap_append {β κ : Type} [DecidableEq κ] (key : β → κ) (q : Occurrence → Bool)
    (f : Occurrence → List β) :
    firstBy key (((s.occurrences ++ more).filter q).flatMap f) =
      firstBy key ((s.occurrences.filter q).flatMap f) := by
  have hsub : (more.filter q).flatMap f ⊆ (s.occurrences.filter q).flatMap f := by
    intro b hb
    obtain ⟨o, ho, hmem⟩ := List.mem_flatMap.1 hb
    exact List.mem_flatMap.2 ⟨o, List.filter_subset q hmore ho, hmem⟩
  rw [List.filter_append, List.flatMap_append]
  exact firstBy_append_of_subset hsub

theorem symbolsIn_append (path : String) :
    symbolsIn ⟨s.units, s.occurrences ++ more⟩ path = s.symbolsIn path := by
  have hsub := List.map_subset (·.symbol)
    (List.filter_subset (fun o : Occurrence => o.location.path == path) hmore)
  unfold symbolsIn
  rw [List.filter_append, List.map_append]
  exact firstBy_append_of_subset hsub

theorem firstBy_declarationPaths_append (level : Level) (usr : String) :
    firstBy id (declarationPaths ⟨s.units, s.occurrences ++ more⟩ level usr) =
      firstBy id (s.declarationPaths level usr) := by
  unfold declarationPaths occurrencesOf
  rw [funext (counts_append hmore level), List.filter_filter, List.filter_filter,
    List.map_eq_flatMap, List.map_eq_flatMap]
  exact firstBy_flatMap_append hmore id _ _

theorem firstBy_memberPaths_append (level : Level) (o : Occurrence) :
    firstBy id (memberPaths ⟨s.units, s.occurrences ++ more⟩ level o) =
      firstBy id (s.memberPaths level o) := by
  unfold memberPaths
  split
  · unfold membersOf relatedTo
    rw [List.filter_filter, List.filter_filter, firstBy_flatMap_append hmore]
    exact firstBy_flatMap_congr fun m _ => firstBy_declarationPaths_append hmore level _
  · rfl

theorem firstBy_occurrencePaths_append (level : Level) (o : Occurrence) :
    firstBy id (occurrencePaths ⟨s.units, s.occurrences ++ more⟩ level o) =
      firstBy id (s.occurrencePaths level o) := by
  unfold occurrencePaths
  rw [counts_append hmore]
  split
  · exact firstBy_append_congr (firstBy_memberPaths_append hmore level o) rfl
  · rfl

theorem firstBy_neededPaths_append (level : Level) (file : String) :
    firstBy id (neededPaths ⟨s.units, s.occurrences ++ more⟩ level file) =
      firstBy id (s.neededPaths level file) := by
  unfold neededPaths
  rw [symbolsIn_append hmore]
  refine firstBy_flatMap_congr fun symbol _ => ?_
  unfold symbolPaths occurrencesOf
  rw [firstBy_flatMap_append hmore]
  exact firstBy_flatMap_congr fun o _ => firstBy_occurrencePaths_append hmore level o

theorem namePaths_append (file : String) (names : List String) :
    namePaths ⟨s.units, s.occurrences ++ more⟩ file names = s.namePaths file names := by
  have hcanonical : firstBy (·.symbol.usr)
        (names.flatMap (canonicalOf ⟨s.units, s.occurrences ++ more⟩)) =
      firstBy (·.symbol.usr) (names.flatMap s.canonicalOf) :=
    firstBy_flatMap_congr fun name _ => firstBy_filter_append hmore _ _
  have hkey : ∀ o o' : Occurrence, o.symbol.usr = o'.symbol.usr →
      decide (o.symbol.usr ∉ (s.symbolsIn file).map (·.usr)) =
        decide (o'.symbol.usr ∉ (s.symbolsIn file).map (·.usr)) := by
    intro o o' heq
    rw [heq]
  unfold namePaths
  rw [symbolsIn_append hmore, firstBy_filter hkey, firstBy_filter hkey, hcanonical]

end Repeats

end Snapshot

namespace Scan

theorem visitedPaths_append_of_subset {s : Snapshot} {more : List Occurrence}
    (hmore : more ⊆ s.occurrences) (task : Task) (names : List String) :
    visitedPaths ⟨s.units, s.occurrences ++ more⟩ task names = visitedPaths s task names := by
  have hkey : ∀ path path' : String, id path = id path' →
      decide (path ≠ task.file) = decide (path' ≠ task.file) := by
    rintro path path' rfl
    rfl
  unfold visitedPaths visits
  rw [Snapshot.namePaths_append hmore, firstBy_filter hkey, firstBy_filter hkey,
    firstBy_append_congr (Snapshot.firstBy_neededPaths_append hmore task.level task.file) rfl]

theorem reportOf_append_of_subset {s : Snapshot} {more : List Occurrence}
    (hmore : more ⊆ s.occurrences) (task : Task) (names : List String) :
    reportOf ⟨s.units, s.occurrences ++ more⟩ task names = reportOf s task names := by
  have hlatest : Snapshot.latestUnit? ⟨s.units, s.occurrences ++ more⟩ task.file =
      s.latestUnit? task.file := rfl
  unfold reportOf unusedIn
  rw [hlatest, visitedPaths_append_of_subset hmore]

/-- Importing a snapshot several times stores its occurrences as often, and every scan has the
report that it has after a single import. -/
theorem reimported_report_eq (s : Snapshot) (k : Nat) (task : Task) (patterns : List TextPattern)
    (text : Option String) :
    ((List.replicate (k + 1) s).foldl RowStore.importSnapshot .empty).occurrences.length =
        (k + 1) * s.occurrences.length ∧
      ∃ report,
        unusedIncludes ((List.replicate (k + 1) s).foldl RowStore.importSnapshot .empty).queries
          task patterns text = .ok report ∧
        unusedIncludes (RowStore.empty.importSnapshot s).queries task patterns text =
          .ok report := by
  have hmany := RowStore.stores_imports (List.replicate (k + 1) s)
  have hone : (RowStore.empty.importSnapshot s).Stores (Snapshot.merge [s]) :=
    RowStore.stores_imports [s]
  have hoccurrences : (Snapshot.merge [s]).occurrences = s.occurrences := List.flatMap_singleton _ _
  have hrepeats : (List.replicate k s).flatMap (·.occurrences) ⊆
      (Snapshot.merge [s]).occurrences := by
    intro o ho
    obtain ⟨s', hs', hmem⟩ := List.mem_flatMap.1 ho
    rw [hoccurrences, ← List.eq_of_mem_replicate hs']
    exact hmem
  have hmerge := Snapshot.merge_replicate s k
  rw [← hoccurrences] at hmerge
  refine ⟨?_, reportOf (Snapshot.merge [s]) task (namesIn patterns text), ?_, ?_⟩
  · rw [hmany.occurrences, List.length_map, List.length_zipIdx, Snapshot.merge,
      List.length_flatMap, List.map_replicate, List.sum_replicate_nat]
  · rw [hmany.queries_eq, unusedIncludes_eq, hmerge, reportOf_append_of_subset hrepeats]
  · rw [hone.queries_eq, unusedIncludes_eq]

end Scan
end IncludeScan
