import IncludeScan.Proofs.Tree.Calls
import Mathlib.Data.List.Basic
import Mathlib.Logic.Function.Iterate

/-!
Tracing nodes back to the direct includes of the analyzed file.

A climb goes from parent to parent and has no bound of its own. After any calls it comes to an end
all the same, since parents come first, and it ends at the one direct include whose subtree, read
downwards from the lists of children, holds the node (`rootTracing_exact`). The root includes of a
path are those whose subtree holds a node for it, in the order of the first such nodes.
-/

set_option autoImplicit false

namespace IncludeScan.Tree

/-! ## Subtrees -/

/-- Node `j` is in the subtree of node `i`: lists of children lead from `i` down to `j`. -/
def InSubtree (t : Tree) : Nat → Nat → Prop :=
  Relation.ReflTransGen (fun p c => c ∈ t.children p)

theorem WellFormed.inSubtree_iff_below {file : String} {t : Tree} (wf : t.WellFormed file)
    {i j : Nat} : t.InSubtree i j ↔ t.Below i j := by
  constructor
  · intro h
    induction h with
    | refl => exact .refl
    | tail _ hc ih => exact .step (wf.mem_children.1 hc) ih
  · intro h
    induction h with
    | refl => exact .refl
    | step hp _ ih => exact .tail ih (wf.mem_children.2 hp)

/-! ## The climb step by step -/

/-- A climb stands at a node, has arrived, or has lost its way at a node that is not there. -/
inductive Climb where
  | climbing (i : Nat)
  | arrived (r : Nat)
  | lost

/-- One step of a climb: it ends at the root and at the children of the root, and goes on to the
parent everywhere else. -/
def climbStep (t : Tree) : Climb → Climb
  | .climbing i =>
    match t.nodes[i]? with
    | none => .lost
    | some n =>
      match n.parent with
      | none => .arrived i
      | some p =>
        match t.nodes[p]? with
        | none => .lost
        | some above => if above.parent.isNone then .arrived i else .climbing p
  | c => c

section Climb

variable {file : String} {t : Tree} (wf : t.WellFormed file)
include wf

theorem WellFormed.climbStep_cases {i : Nat} (hi : i < t.nodes.size) :
    t.climbStep (.climbing i) = .arrived (t.rootInclude i) ∨
      ∃ p < i, t.climbStep (.climbing i) = .climbing p ∧ t.rootInclude p = t.rootInclude i := by
  have hnode : ∀ {j} (hj : j < t.nodes.size), t.nodes[j]? = some t.nodes[j] ∧
      t.nodes[j].parent = t.parent? j := by
    intro j hj
    simp [parent?, hj]
  obtain ⟨hn, hparent⟩ := hnode hi
  rcases Nat.eq_zero_or_pos i with rfl | hpos
  · left
    rw [rootInclude, wf.root_parent]
    simp only [climbStep, hn, hparent, wf.root_parent]
  · obtain ⟨p, hlt, hp⟩ := wf.exists_parent? hpos hi
    obtain ⟨habove, hgrand⟩ := hnode (Nat.lt_trans hlt hi)
    rcases Nat.eq_zero_or_pos p with rfl | hppos
    · left
      rw [wf.rootInclude_of_child hp]
      simp only [climbStep, hn, hparent, hp, habove, hgrand, wf.root_parent, Option.isNone_none,
        if_true]
    · right
      obtain ⟨q, -, hq⟩ := wf.exists_parent? hppos (Nat.lt_trans hlt hi)
      refine ⟨p, hlt, ?_, (wf.rootInclude_of_parent hp hppos).symm⟩
      simp only [climbStep, hn, hparent, hp, habove, hgrand, hq, Option.isNone_some,
        Bool.false_eq_true, if_false]

theorem WellFormed.exists_iterate_climbStep {i : Nat} (hi : i < t.nodes.size) :
    ∃ n ≤ i + 1, t.climbStep^[n] (.climbing i) = .arrived (t.rootInclude i) := by
  induction i using Nat.strongRecOn with
  | ind i ih =>
    rcases wf.climbStep_cases hi with hend | ⟨p, hlt, hup, hsame⟩
    · exact ⟨1, by omega, hend⟩
    · obtain ⟨n, hn, hrun⟩ := ih p hlt (Nat.lt_trans hlt hi)
      refine ⟨n + 1, by omega, ?_⟩
      rw [Function.iterate_succ_apply, hup, hrun, hsame]

theorem WellFormed.eq_rootInclude_iff {i : Nat} (hpos : 0 < i) (hi : i < t.nodes.size) (r : Nat) :
    r = t.rootInclude i ↔ r ∈ t.rootIncludes ∧ t.InSubtree r i := by
  rw [rootIncludes, wf.mem_children, wf.inSubtree_iff_below]
  constructor
  · rintro rfl
    exact ⟨wf.parent?_rootInclude hpos hi, wf.below_rootInclude hpos hi⟩
  · rintro ⟨hr, hb⟩
    exact (wf.rootInclude_of_below hr hb).symm

end Climb

/-! ## The root includes of a path -/

/-- The node at place `n` is the first one for the path in the subtree of `r`. -/
def FirstWitness (t : Tree) (path : String) (r n : Nat) : Prop :=
  (∃ i, (t.nodesFor path)[n]? = some i ∧ t.InSubtree r i) ∧
    ∀ m < n, ∀ j, (t.nodesFor path)[m]? = some j → ¬ t.InSubtree r j

section Path

variable {file : String} {t : Tree} (wf : t.WellFormed file)
include wf

theorem WellFormed.mem_allRootIncludes_iff {path : String} {r : Nat} :
    r ∈ t.allRootIncludes path ↔
      r ∈ t.rootIncludes ∧ ∃ i, t.InSubtree r i ∧ t.target? i = some path := by
  rw [mem_allRootIncludes, rootIncludes, wf.mem_children]
  simp only [wf.inSubtree_iff_below]
  constructor
  · intro h
    have hr := wf.parent?_of_mem_rootsAbove h
    exact ⟨hr, (wf.mem_rootsAbove_iff hr).1 h⟩
  · rintro ⟨hr, h⟩
    exact (wf.mem_rootsAbove_iff hr).2 h

theorem WellFormed.firstWitness_idxOf {path : String} {r : Nat} (h : r ∈ t.rootsAbove path) :
    t.FirstWitness path r ((t.rootsAbove path).idxOf r) := by
  have hr := wf.parent?_of_mem_rootsAbove h
  have hplace : ∀ {n i : Nat}, (t.nodesFor path)[n]? = some i →
      (t.rootsAbove path)[n]? = some (t.rootInclude i) ∧
        (t.InSubtree r i ↔ t.rootInclude i = r) := by
    intro n i hi
    obtain ⟨hpos, htarget⟩ := wf.mem_nodesFor.1 (List.mem_of_getElem? hi)
    refine ⟨by rw [rootsAbove, List.getElem?_map, hi, Option.map_some], ?_⟩
    rw [wf.inSubtree_iff_below, wf.below_iff hr hpos (lt_size_of_target? htarget)]
  constructor
  · have hget : (t.rootsAbove path)[(t.rootsAbove path).idxOf r]? = some r :=
      List.getElem?_idxOf h
    rw [rootsAbove, List.getElem?_map] at hget
    obtain ⟨i, hi, hroot⟩ := Option.map_eq_some_iff.1 hget
    exact ⟨i, hi, (hplace hi).2.2 hroot⟩
  · intro m hm j hj hsub
    obtain ⟨hget, hiff⟩ := hplace hj
    rw [hiff.1 hsub] at hget
    obtain ⟨hlt, heq⟩ := List.getElem?_eq_some_iff.1 hget
    have hne := List.not_of_lt_findIdx hm
    rw [heq, beq_self_eq_true] at hne
    cases hne

theorem WellFormed.pairwise_allRootIncludes (path : String) :
    (t.allRootIncludes path).Pairwise
      (fun r r' => ∃ n m, t.FirstWitness path r n ∧ t.FirstWitness path r' m ∧ n < m) := by
  rw [allRootIncludes_eq_firstBy]
  refine (pairwise_idxOf_firstBy id (t.rootsAbove path)).imp_of_mem fun {r r'} hr hr' hlt => ?_
  rw [List.map_id] at hlt
  exact ⟨_, _, wf.firstWitness_idxOf (mem_firstBy_id.1 hr),
    wf.firstWitness_idxOf (mem_firstBy_id.1 hr'), hlt⟩

end Path

/-- After any calls, a climb from a node ends after at most as many steps as there are nodes up to
it, and if the node is not the root, at the one direct include whose subtree holds the node. The
root includes of a path are, each once, the direct includes whose subtree holds a node for the
path, in the order of the first such nodes. -/
theorem rootTracing_exact (file : String) (calls : List Call) :
    let t := run file calls
    (∀ i < t.nodes.size,
        ∃ n ≤ i + 1, t.climbStep^[n] (.climbing i) = .arrived (t.rootInclude i)) ∧
      (∀ i < t.nodes.size, 0 < i →
        ∀ r, r = t.rootInclude i ↔ r ∈ t.rootIncludes ∧ t.InSubtree r i) ∧
      ∀ path, (∀ i ∈ t.nodesFor path, 0 < i ∧ i < t.nodes.size) ∧
        (t.allRootIncludes path).Nodup ∧
        (∀ r, r ∈ t.allRootIncludes path ↔
          r ∈ t.rootIncludes ∧ ∃ i, t.InSubtree r i ∧ t.target? i = some path) ∧
        (t.allRootIncludes path).Pairwise
          (fun r r' => ∃ n m, t.FirstWitness path r n ∧ t.FirstWitness path r' m ∧ n < m) := by
  intro t
  have wf : t.WellFormed file := (consistent_run file calls).toWellFormed
  refine ⟨fun i => wf.exists_iterate_climbStep, fun i hi hpos => wf.eq_rootInclude_iff hpos hi,
    fun path => ⟨fun i hi => ?_, ?_, fun r => wf.mem_allRootIncludes_iff,
      wf.pairwise_allRootIncludes path⟩⟩
  · obtain ⟨hpos, htarget⟩ := wf.mem_nodesFor.1 hi
    exact ⟨hpos, lt_size_of_target? htarget⟩
  · rw [allRootIncludes_eq_firstBy]
    simpa only [List.map_id] using nodup_map_firstBy id (t.rootsAbove path)

/-- A header includes the one that includes it, the loop is looked up and marked, and the other
direct include comes to the same header later. -/
def includedIncluder : List Call :=
  [.grow (.add ⟨"/F.m", "/A.h", 1⟩), .grow (.add ⟨"/F.m", "/C.h", 2⟩),
    .grow (.add ⟨"/C.h", "/H.h", 1⟩), .grow (.add ⟨"/H.h", "/C.h", 1⟩),
    .use (.findNode "/C.h"), .use (.mark 4), .grow (.add ⟨"/A.h", "/H.h", 2⟩), .grow .retry]

theorem includedIncluder_traced :
    let t := run "/F.m" includedIncluder
    4 < t.nodes.size ∧ t.target? 4 = t.target? 2 ∧
      (∃ n ≤ 5, t.climbStep^[n] (.climbing 4) = .arrived 2) ∧ t.InSubtree 2 4 ∧
      ¬ t.InSubtree 1 4 ∧ 5 ∈ t.nodesFor "/H.h" ∧ 5 < t.nodes.size ∧
      t.allRootIncludes "/H.h" = [2, 1] ∧
      ∃ n m, t.FirstWitness "/H.h" 2 n ∧ t.FirstWitness "/H.h" 1 m ∧ n < m := by
  intro t
  have hsize : 4 < t.nodes.size := by decide +kernel
  have hroot : t.rootInclude 4 = 2 := by decide +kernel
  have hchild : 1 ∈ t.rootIncludes := by decide +kernel
  have hnode : 5 ∈ t.nodesFor "/H.h" := by decide +kernel
  have hall : t.allRootIncludes "/H.h" = [2, 1] := by decide +kernel
  obtain ⟨hclimb, honly, hpath⟩ := rootTracing_exact "/F.m" includedIncluder
  obtain ⟨hattached, -, -, horder⟩ := hpath "/H.h"
  have hend := hclimb 4 hsize
  have hholds := honly 4 hsize (by decide)
  rw [hroot] at hend
  rw [hall] at horder
  refine ⟨hsize, by decide +kernel, hend, ((hholds 2).1 hroot.symm).2, fun hsub => ?_, hnode,
    (hattached 5 hnode).2, hall, (List.pairwise_pair.1 horder)⟩
  have hone := (hholds 1).2 ⟨hchild, hsub⟩
  rw [hroot] at hone
  cases hone

end IncludeScan.Tree
