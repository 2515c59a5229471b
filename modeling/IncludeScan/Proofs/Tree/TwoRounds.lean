import IncludeScan.Proofs.Tree.Choice
import Mathlib.Data.Set.Basic

/-!
Choices that are put off, as a choice in two rounds.

Paths are visited one by one. A path with a single node marks its root include at once, one with
several nodes leaves a batch behind, and batches are dropped or settled depending on what is used
by then. The outcome is that of two rounds over the same paths (`twoRounds`), which say nothing of
batches: the first keeps the root includes of the paths with a single node, the second goes through
the other paths in order and keeps the root include of the first node wherever no node of the path
stands below one that is kept.
-/

set_option autoImplicit false

namespace IncludeScan.Tree

/-! ## The two rounds -/

/-- Some node of the path stands at or below a kept root include. -/
def Covered (t : Tree) (kept : Set Nat) (path : String) : Prop :=
  ∃ i ∈ t.nodesFor path, ∃ r ∈ kept, t.Below r i

def firstRound (t : Tree) (paths : List String) : Set Nat :=
  {r | ∃ path ∈ paths, ∃ i, t.nodesFor path = [i] ∧ t.rootInclude i = r}

def keepFirst (t : Tree) (kept : Set Nat) (path : String) : Set Nat :=
  {r | r ∈ kept ∨
    ¬ t.Covered kept path ∧ ∃ i, (t.nodesFor path).head? = some i ∧ t.rootInclude i = r}

def twoRounds (t : Tree) (paths : List String) : Set Nat :=
  (paths.filter (fun path => 2 ≤ (t.nodesFor path).length)).foldl t.keepFirst (t.firstRound paths)

/-! ## The rounds on lists -/

theorem mem_soleRoots_iff {t : Tree} {paths : List String} {r : Nat} :
    r ∈ t.soleRoots paths ↔ r ∈ t.firstRound paths := by
  have hsole : ∀ path, t.rootsAbove path = [r] ↔
      ∃ i, t.nodesFor path = [i] ∧ t.rootInclude i = r := by
    intro path
    exact List.map_eq_singleton_iff
  rw [mem_soleRoots]
  simp only [hsole]
  rfl

/-- The paths with at most one node have no part in the second round. -/
theorem chosenRoots_eq (t : Tree) (paths : List String) :
    t.chosenRoots paths =
      ((paths.filter (fun path => 2 ≤ (t.nodesFor path).length)).map t.rootsAbove).foldl keepOne
        (t.soleRoots paths) := by
  refine (foldl_keepOne_filter fun path hmem hfew => ?_).symm
  have hlen : (t.nodesFor path).length < 2 := by
    simpa using hfew
  match hids : t.nodesFor path with
  | [] =>
    left
    rw [rootsAbove, hids, List.map_nil]
  | [i] =>
    have hroots : t.rootsAbove path = [t.rootInclude i] := by
      rw [rootsAbove, hids, List.map_singleton]
    right
    refine ⟨t.rootInclude i, ?_, mem_soleRoots.2 ⟨path, hmem, hroots⟩⟩
    rw [hroots]
    exact List.mem_singleton.2 rfl
  | i :: j :: is =>
    rw [hids, List.length_cons, List.length_cons] at hlen
    omega

section WellFormed

variable {file : String} {t : Tree} (wf : t.WellFormed file)
include wf

theorem WellFormed.covered_iff {kept : List Nat} (hkept : ∀ r ∈ kept, t.parent? r = some 0)
    (path : String) : t.Covered {r | r ∈ kept} path ↔ ∃ r ∈ t.rootsAbove path, r ∈ kept := by
  constructor
  · rintro ⟨i, hi, r, hr, hbelow⟩
    obtain ⟨-, htarget⟩ := wf.mem_nodesFor.1 hi
    exact ⟨r, (wf.mem_rootsAbove_iff (hkept r hr)).2 ⟨i, hbelow, htarget⟩, hr⟩
  · rintro ⟨r, hr, hk⟩
    obtain ⟨i, hi, rfl⟩ := List.mem_map.1 hr
    obtain ⟨hpos, htarget⟩ := wf.mem_nodesFor.1 hi
    exact ⟨i, hi, t.rootInclude i, hk, wf.below_rootInclude hpos (lt_size_of_target? htarget)⟩

theorem WellFormed.mem_keepOne_iff {kept : List Nat} (hkept : ∀ r ∈ kept, t.parent? r = some 0)
    (path : String) (r : Nat) :
    r ∈ keepOne kept (t.rootsAbove path) ↔ r ∈ t.keepFirst {r | r ∈ kept} path := by
  have hcov := wf.covered_iff hkept path
  by_cases h : t.Covered {r | r ∈ kept} path
  · obtain ⟨r', hr', hk'⟩ := hcov.1 h
    rw [keepOne_of_mem hr' hk']
    exact ⟨.inl, fun hr => hr.resolve_right (fun hnew => hnew.1 h)⟩
  · have hfree : ¬ (t.rootsAbove path).any (fun r => kept.contains r) = true := by
      intro hany
      obtain ⟨r', hr', hk'⟩ := List.any_eq_true.1 hany
      exact h (hcov.2 ⟨r', hr', List.contains_iff_mem.1 hk'⟩)
    unfold keepOne keepFirst
    rw [if_neg hfree]
    cases hids : t.nodesFor path with
    | nil => simp [rootsAbove, hids]
    | cons i is => simp [rootsAbove, hids, h, or_comm, eq_comm]

theorem WellFormed.parent?_of_mem_keepOne {kept : List Nat}
    (hkept : ∀ r ∈ kept, t.parent? r = some 0) (path : String) :
    ∀ r ∈ keepOne kept (t.rootsAbove path), t.parent? r = some 0 := by
  intro r hr
  rcases mem_keepOne hr with hr | hr
  · exact hkept r hr
  · exact wf.parent?_of_mem_rootsAbove hr

theorem WellFormed.mem_foldl_keepOne_iff (paths : List String) {kept : List Nat}
    (hkept : ∀ r ∈ kept, t.parent? r = some 0) (r : Nat) :
    r ∈ (paths.map t.rootsAbove).foldl keepOne kept ↔
      r ∈ paths.foldl t.keepFirst {r | r ∈ kept} := by
  induction paths generalizing kept with
  | nil => rfl
  | cons path paths ih =>
    have hset : {r | r ∈ keepOne kept (t.rootsAbove path)} = t.keepFirst {r | r ∈ kept} path :=
      Set.ext (wf.mem_keepOne_iff hkept path)
    rw [List.map_cons, List.foldl_cons, List.foldl_cons, ← hset]
    exact ih (wf.parent?_of_mem_keepOne hkept path)

theorem WellFormed.mem_chosenRoots_iff (paths : List String) (r : Nat) :
    r ∈ t.chosenRoots paths ↔ r ∈ t.twoRounds paths := by
  have hsole : ∀ r ∈ t.soleRoots paths, t.parent? r = some 0 := by
    intro r hr
    obtain ⟨path, -, hroots⟩ := mem_soleRoots.1 hr
    have hmem : r ∈ t.rootsAbove path := by
      rw [hroots]
      exact List.mem_singleton.2 rfl
    exact wf.parent?_of_mem_rootsAbove hmem
  have hset : {r | r ∈ t.soleRoots paths} = t.firstRound paths :=
    Set.ext fun _ => mem_soleRoots_iff
  rw [chosenRoots_eq, wf.mem_foldl_keepOne_iff _ hsole, hset]
  rfl

end WellFormed

instance decidableTwoRounds (file : String) (es : List Entry) (paths : List String) (r : Nat) :
    Decidable (r ∈ (build file es).twoRounds paths) :=
  decidable_of_iff _ ((build_wellFormed file es).mem_chosenRoots_iff paths r)

/-- Visiting paths in a built tree and settling the batches uses the nodes below the root includes
of the two rounds, leaves the other direct includes unused, and leaves no batch. -/
theorem deferred_choice_eq_twoRounds (file : String) (es : List Entry) (paths : List String) :
    let t := (paths.foldl visitOne (build file es)).resolveBatches
    (∀ i, 0 < i → i < (build file es).nodes.size →
      (t.isUsed i = true ↔ (build file es).rootInclude i ∈ (build file es).twoRounds paths)) ∧
      t.unusedRootIncludes =
        ((build file es).rootIncludes.filter
          (fun r => r ∉ (build file es).twoRounds paths)).filterMap
            (fun r => entry? (build file es) r) ∧
      t.batches = [] := by
  have hc := build_collects file es
  have wf := hc.wellFormed
  obtain ⟨hs, hb, hm⟩ := marks_resolveBatches wf (marks_build file es) hc.batches_eq paths
  refine ⟨fun i hi hlt => ?_, ?_, hb⟩
  · rw [hm i, hs.size_eq, hs.rootInclude_eq, wf.mem_chosenRoots_iff]
    exact ⟨fun h => h.2.2, fun h => ⟨hi, hlt, h⟩⟩
  · have hsame : ∀ r ∈ (build file es).rootIncludes,
        decide (r ∉ (build file es).chosenRoots paths) =
          decide (r ∉ (build file es).twoRounds paths) := by
      intro r _
      rw [decide_eq_decide, wf.mem_chosenRoots_iff]
    rw [unusedRootIncludes_eq wf hs hm, unkeptEntries, List.filter_congr hsame]

def twoWays : List Entry :=
  [⟨"/F.m", "/A.h", 1⟩, ⟨"/F.m", "/C.h", 2⟩, ⟨"/A.h", "/H.h", 1⟩, ⟨"/C.h", "/H.h", 1⟩]

/-- The choice for the header waits, and a path visited after it takes the second way. -/
theorem later_path_settles_choice :
    let t := (["/H.h", "/C.h"].foldl visitOne (build "/F.m" twoWays)).resolveBatches
    t.isUsed 4 = true ∧ ¬ t.isUsed 3 = true ∧ t.unusedRootIncludes = [⟨"/F.m", "/A.h", 1⟩] := by
  obtain ⟨hused, hunused, -⟩ := deferred_choice_eq_twoRounds "/F.m" twoWays ["/H.h", "/C.h"]
  refine ⟨(hused 4 (by decide) (by decide +kernel)).2 (by decide +kernel),
    mt (hused 3 (by decide) (by decide +kernel)).1 (by decide +kernel), hunused.trans ?_⟩
  decide +kernel

end IncludeScan.Tree
