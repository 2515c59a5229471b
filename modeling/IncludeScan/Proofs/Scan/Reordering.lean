import IncludeScan.Proofs.Scan.Outcome

/-!
Scans over indexes that hold the same occurrences in another order.

The order decides in which order paths are first visited, and with it which root include is kept
for a path with several nodes. It decides nothing else. The unit and its tree come from the units
alone, the needed paths depend on which occurrences there are, and a root include none of whose
targets has a second node is kept as soon as one of them is needed, whatever was visited before
(`WellFormed.mem_chosenRoots_iff_of_unshared`).
-/

set_option autoImplicit false

namespace IncludeScan

/-! ## Root includes without a choice -/

namespace Tree

/-- No target of a node at or below `r` is the target of another include. -/
def Unshared (t : Tree) (r : Nat) : Prop :=
  ∀ i j, t.Below r i → 0 < j → t.target? j = t.target? i → j = i

variable {file : String} {t : Tree} (wf : t.WellFormed file) {r : Nat} (hr : t.parent? r = some 0)
include wf hr

theorem WellFormed.rootsAbove_of_unshared (h : t.Unshared r) {path : String}
    (hmem : r ∈ t.rootsAbove path) : t.rootsAbove path = [r] := by
  obtain ⟨i, hbelow, htarget⟩ := (wf.mem_rootsAbove_iff hr).1 hmem
  have hroot := wf.rootInclude_of_below hr hbelow
  have honly : ∀ j ∈ t.nodesFor path, j = i := by
    intro j hj
    obtain ⟨hpos, hj⟩ := wf.mem_nodesFor.1 hj
    exact h i j hbelow hpos (hj.trans htarget.symm)
  have hnodup : (t.nodesFor path).Nodup := by
    rw [wf.nodesFor_eq]
    exact List.nodup_range.filter _
  have hne : t.nodesFor path ≠ [] := by
    intro hnil
    simp [rootsAbove, hnil] at hmem
  -- a list without repeats all of whose members are `i`
  have hone : t.nodesFor path = [i] := by
    cases hids : t.nodesFor path with
    | nil => exact absurd hids hne
    | cons j rest =>
      have hj := honly j (by simp [hids])
      cases rest with
      | nil => rw [hj]
      | cons k rest =>
        have hk := honly k (by simp [hids])
        rw [hids] at hnodup
        simp [hj, hk] at hnodup
  rw [rootsAbove, hone, List.map_singleton, hroot]

theorem WellFormed.mem_chosenRoots_iff_of_unshared (h : t.Unshared r) (paths : List String) :
    r ∈ t.chosenRoots paths ↔ ∃ path ∈ paths, r ∈ t.rootsAbove path := by
  constructor
  · exact exists_of_mem_chosenRoots
  · rintro ⟨path, hpath, hmem⟩
    have hsole : r ∈ t.soleRoots paths :=
      mem_soleRoots.2 ⟨path, hpath, wf.rootsAbove_of_unshared hr h hmem⟩
    exact soleRoots_subset_chosenRoots t paths hsole

theorem WellFormed.unshared_of_forall
    (h : ∀ i < t.nodes.size, t.rootInclude i = r → (t.target? i).map t.nodesFor = some [i]) :
    t.Unshared r := by
  intro i j hbelow hpos htarget
  have hi : i < t.nodes.size := hbelow.lt_size (lt_size_of_parent? hr)
  obtain ⟨path, hpath, hids⟩ :=
    Option.map_eq_some_iff.1 (h i hi (wf.rootInclude_of_below hr hbelow))
  have hmem : j ∈ t.nodesFor path := wf.mem_nodesFor.2 ⟨hpos, htarget.trans hpath⟩
  rw [hids] at hmem
  exact List.mem_singleton.1 hmem

end Tree

namespace Scan

variable {file : String} {t : Tree} (wf : t.WellFormed file) {r : Nat} (hr : t.parent? r = some 0)
include wf hr

theorem mem_keptRoots_iff_of_unshared (h : t.Unshared r) (level : Level) (paths : List String) :
    r ∈ keptRoots level t paths ↔ ∃ path ∈ paths, r ∈ t.rootsAbove path := by
  cases hl : level.marksAllRoots with
  | true => rw [keptRoots_of_all hl, List.mem_flatMap]
  | false => rw [keptRoots_of_one hl, wf.mem_chosenRoots_iff_of_unshared hr h]

end Scan

/-! ## The same occurrences -/

namespace Snapshot

variable {s s' : Snapshot}

theorem unitsContaining_congr (h : s'.units = s.units) (path : String) :
    s'.unitsContaining path = s.unitsContaining path := by
  rw [unitsContaining, h, unitsContaining]

theorem unit?_congr (h : s'.units = s.units) (name : String) : s'.unit? name = s.unit? name := by
  rw [unit?, h, unit?]

theorem latestUnit?_congr (h : s'.units = s.units) (file : String) :
    s'.latestUnit? file = s.latestUnit? file := by
  unfold latestUnit?
  simp only [unitsContaining_congr h, unit?_congr h]

theorem needed_iff_of_perm (h : s'.occurrences.Perm s.occurrences) {level : Level}
    {file path : String} : s'.Needed level file path ↔ s.Needed level file path :=
  ⟨.of_subset h.subset, .of_subset h.symm.subset⟩

end Snapshot

namespace Scan

variable {s s' : Snapshot}

theorem mem_visitedPaths_iff_of_perm (h : s'.occurrences.Perm s.occurrences) (task : Task)
    (path : String) : path ∈ visitedPaths s' task [] ↔ path ∈ visitedPaths s task [] := by
  have hnone : ∀ s : Snapshot, s.namePaths task.file [] = [] := fun _ => rfl
  rw [mem_visitedPaths, mem_visitedPaths, Snapshot.needed_iff_of_perm h, hnone, hnone]

theorem mem_keptRoots_completelyUnused_of_perm (h : s'.occurrences.Perm s.occurrences)
    (file : String) (t : Tree) (r : Nat) :
    r ∈ keptRoots .completelyUnused t (visitedPaths s' ⟨file, .completelyUnused⟩ []) ↔
      r ∈ keptRoots .completelyUnused t (visitedPaths s ⟨file, .completelyUnused⟩ []) := by
  rw [keptRoots_of_all rfl, keptRoots_of_all rfl, List.mem_flatMap, List.mem_flatMap]
  simp only [mem_visitedPaths_iff_of_perm h]

/-- Two scans whose indexes differ in the order of occurrences only take the same unit and build
the same tree, agree on every root include without a shared target below it, and agree altogether
where all root includes are kept. -/
theorem reordered_scans_agree (hunits : s'.units = s.units)
    (hperm : s'.occurrences.Perm s.occurrences) (file : String) (level : Level)
    (text : Option String) :
    ∃ r r', unusedIncludes (MemoryIndex.ofSnapshot s).queries ⟨file, level⟩ [] text = .ok r ∧
      unusedIncludes (MemoryIndex.ofSnapshot s').queries ⟨file, level⟩ [] text = .ok r' ∧
      r.unit = r'.unit ∧ (r.unit = none → r.unused = [] ∧ r'.unused = []) ∧
      (∀ name, r.unit = some name → ∃ es,
        (MemoryIndex.ofSnapshot s).queries.includesOf name = .ok es ∧
        (MemoryIndex.ofSnapshot s').queries.includesOf name = .ok es ∧
        ∀ i e, (Tree.build file es).parent? i = some 0 →
          Tree.entry? (Tree.build file es) i = some e → (Tree.build file es).Unshared i →
          (e ∈ r.unused ↔ e ∈ r'.unused)) ∧
      (level = .completelyUnused → r = r') := by
  refine ⟨_, _, unusedIncludes_eq s ⟨file, level⟩ [] text,
    unusedIncludes_eq s' ⟨file, level⟩ [] text, ?_⟩
  obtain ⟨-, -, hunit⟩ := s.latestUnit_ofSnapshot file
  have hlatest := Snapshot.latestUnit?_congr hunits file
  rw [namesIn_nil, reportOf, reportOf, hlatest]
  cases hu : s.latestUnit? file with
  | none =>
    refine ⟨rfl, fun _ => ⟨rfl, rfl⟩, ?_, fun _ => rfl⟩
    rintro name ⟨⟩
  | some u =>
    have hname := hunit u hu
    have hname' : s'.unit? u.name = some u := (Snapshot.unit?_congr hunits u.name).trans hname
    have wf := Tree.build_wellFormed file u.includes
    refine ⟨rfl, ?_, ?_, ?_⟩
    · rintro ⟨⟩
    · rintro name ⟨⟩
      refine ⟨u.includes, MemoryIndex.queries_includesOf s hname,
        MemoryIndex.queries_includesOf s' hname', fun i e hi he hshared => ?_⟩
      have hkept : i ∈ keptRoots level (Tree.build file u.includes)
            (visitedPaths s ⟨file, level⟩ []) ↔
          i ∈ keptRoots level (Tree.build file u.includes)
            (visitedPaths s' ⟨file, level⟩ []) := by
        rw [mem_keptRoots_iff_of_unshared wf hi hshared,
          mem_keptRoots_iff_of_unshared wf hi hshared]
        simp only [mem_visitedPaths_iff_of_perm hperm]
      exact (wf.entry_mem_unkeptEntries hi he).trans
        ((not_congr hkept).trans (wf.entry_mem_unkeptEntries hi he).symm)
    · rintro rfl
      have hsame : unusedIn s ⟨file, .completelyUnused⟩ [] u =
          unusedIn s' ⟨file, .completelyUnused⟩ [] u :=
        Tree.unkeptEntries_congr _ fun r =>
          (mem_keptRoots_completelyUnused_of_perm hperm file _ r).symm
      simp only [hsame]

/-- Two headers that the file needs have two nodes each, with one root include above both. -/
def overlapping : Snapshot where
  units := [⟨"F.o", "/F.m", none, [⟨"/F.m", "/A.h", 1⟩, ⟨"/F.m", "/B.h", 2⟩, ⟨"/F.m", "/C.h", 3⟩,
    ⟨"/F.m", "/D.h", 4⟩, ⟨"/F.m", "/E.h", 5⟩, ⟨"/A.h", "/P.h", 1⟩, ⟨"/B.h", "/P.h", 1⟩,
    ⟨"/B.h", "/Q.h", 2⟩, ⟨"/C.h", "/Q.h", 1⟩]⟩]
  occurrences := [⟨⟨"p", "p", .class_⟩, ⟨"/P.h", 1, 1⟩, .declaration, []⟩,
    ⟨⟨"q", "q", .class_⟩, ⟨"/Q.h", 1, 1⟩, .declaration, []⟩,
    ⟨⟨"d", "d", .class_⟩, ⟨"/D.h", 1, 1⟩, .declaration, []⟩,
    ⟨⟨"p", "p", .class_⟩, ⟨"/F.m", 7, 1⟩, .reference, []⟩,
    ⟨⟨"q", "q", .class_⟩, ⟨"/F.m", 8, 1⟩, .reference, []⟩,
    ⟨⟨"d", "d", .class_⟩, ⟨"/F.m", 9, 1⟩, .reference, []⟩]

/-- With the occurrences reversed, the second header is visited first, and the root include chosen
for it serves for the first header as well. -/
theorem reversed_overlapping_agrees :
    ∃ r r', unusedIncludes (MemoryIndex.ofSnapshot overlapping).queries ⟨"/F.m", .allRemovable⟩
          [] none = .ok r ∧
        unusedIncludes (MemoryIndex.ofSnapshot
          ⟨overlapping.units, overlapping.occurrences.reverse⟩).queries ⟨"/F.m", .allRemovable⟩
          [] none = .ok r' ∧
        r.unused = [⟨"/F.m", "/C.h", 3⟩, ⟨"/F.m", "/E.h", 5⟩] ∧
        r'.unused = [⟨"/F.m", "/A.h", 1⟩, ⟨"/F.m", "/C.h", 3⟩, ⟨"/F.m", "/E.h", 5⟩] ∧
        ((⟨"/F.m", "/D.h", 4⟩ : Entry) ∈ r.unused ↔ ⟨"/F.m", "/D.h", 4⟩ ∈ r'.unused) := by
  let reversed : Snapshot := ⟨overlapping.units, overlapping.occurrences.reverse⟩
  obtain ⟨r, r', hr, hr', -, -, hunit, -⟩ := reordered_scans_agree
    (show reversed.units = overlapping.units from rfl)
    overlapping.occurrences.reverse_perm "/F.m" .allRemovable none
  have hfirst : r = ⟨"/F.m", some "F.o", [⟨"/F.m", "/C.h", 3⟩, ⟨"/F.m", "/E.h", 5⟩]⟩ := by
    rw [unusedIncludes_eq] at hr
    rw [← Except.ok.inj hr]
    decide +kernel
  have hsecond : r' = ⟨"/F.m", some "F.o",
      [⟨"/F.m", "/A.h", 1⟩, ⟨"/F.m", "/C.h", 3⟩, ⟨"/F.m", "/E.h", 5⟩]⟩ := by
    rw [unusedIncludes_eq] at hr'
    rw [← Except.ok.inj hr']
    decide +kernel
  refine ⟨r, r', hr, hr', by rw [hfirst], by rw [hsecond], ?_⟩
  obtain ⟨es, hes, -, hagree⟩ := hunit "F.o" (by rw [hfirst])
  have hbuilt := MemoryIndex.queries_includesOf overlapping
    (show overlapping.unit? "F.o" = some _ from rfl)
  cases hbuilt.symm.trans hes
  have wf := Tree.build_wellFormed "/F.m" (overlapping.units.flatMap (·.includes))
  refine hagree 4 _ (by decide +kernel) (by decide +kernel) ?_
  exact wf.unshared_of_forall (by decide +kernel) (by decide +kernel)

end Scan
end IncludeScan
