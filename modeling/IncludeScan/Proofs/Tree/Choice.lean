import IncludeScan.Proofs.Tree.Build
import IncludeScan.Proofs.Tree.Marking
import IncludeScan.Text.Distinct
import Mathlib.Data.List.Induction
import Mathlib.Tactic.Set

/-!
Which root includes are kept for the paths that are needed.

With one root include kept for a path, choices are put off: a path with several nodes becomes a
batch, batches are dropped when one of their nodes gets used, and what is left is settled at the
end. All of that comes to a choice in two rounds (`chosenRoots`). First the root includes of the
paths with a single node are kept. Then, path by path, the root include of the first node is kept
unless one above some node of the path is kept already (`marks_resolveBatches`). With all root
includes kept, there is nothing to choose (`marks_foldl_visitAll`).
-/

set_option autoImplicit false

namespace IncludeScan.Tree

/-! ## The choice -/

/-- The root includes above the nodes of a path, node by node. -/
def rootsAbove (t : Tree) (path : String) : List Nat :=
  (t.nodesFor path).map t.rootInclude

def soleRoot? (t : Tree) (path : String) : Option Nat :=
  match t.rootsAbove path with
  | [r] => some r
  | _ => none

def soleRoots (t : Tree) (paths : List String) : List Nat :=
  paths.filterMap t.soleRoot?

/-- Keeps the first of some root includes, unless one of them is kept. -/
def keepOne (kept roots : List Nat) : List Nat :=
  if roots.any (fun r => kept.contains r) then kept
  else match roots with
    | [] => kept
    | r :: _ => r :: kept

/-- The root includes kept for some paths: those of the paths with a single node, then one for each
path that has none yet. -/
def chosenRoots (t : Tree) (paths : List String) : List Nat :=
  (paths.map t.rootsAbove).foldl keepOne (t.soleRoots paths)

theorem keepOne_nil (kept : List Nat) : keepOne kept [] = kept := rfl

theorem keepOne_of_mem {kept roots : List Nat} {r : Nat} (hr : r ∈ roots) (hk : r ∈ kept) :
    keepOne kept roots = kept := by
  have hany : roots.any (fun r => kept.contains r) = true :=
    List.any_eq_true.2 ⟨r, hr, List.contains_iff_mem.2 hk⟩
  unfold keepOne
  rw [if_pos hany]

theorem subset_keepOne (kept roots : List Nat) : kept ⊆ keepOne kept roots := by
  intro r hr
  unfold keepOne
  split
  · exact hr
  · split
    · exact hr
    · exact List.mem_cons_of_mem _ hr

theorem mem_keepOne {kept roots : List Nat} {r : Nat} (h : r ∈ keepOne kept roots) :
    r ∈ kept ∨ r ∈ roots := by
  unfold keepOne at h
  split at h
  · exact .inl h
  · split at h
    · exact .inl h
    · rcases List.mem_cons.1 h with rfl | h
      · exact .inr List.mem_cons_self
      · exact .inl h

theorem exists_mem_keepOne (kept : List Nat) {roots : List Nat} (h : roots ≠ []) :
    ∃ r ∈ roots, r ∈ keepOne kept roots := by
  unfold keepOne
  split
  · next hany =>
    obtain ⟨r, hr, hk⟩ := List.any_eq_true.1 hany
    exact ⟨r, hr, List.contains_iff_mem.1 hk⟩
  · cases roots with
    | nil => exact absurd rfl h
    | cons r rs => exact ⟨r, List.mem_cons_self, List.mem_cons_self⟩

theorem subset_foldl_keepOne (groups : List (List Nat)) (kept : List Nat) :
    kept ⊆ groups.foldl keepOne kept := by
  induction groups generalizing kept with
  | nil => exact fun _ h => h
  | cons roots groups ih => exact fun r hr => ih _ (subset_keepOne kept roots hr)

theorem foldl_keepOne_concat {β : Type} (roots : β → List Nat) (groups : List β) (b : β)
    (kept : List Nat) :
    ((groups ++ [b]).map roots).foldl keepOne kept =
      keepOne ((groups.map roots).foldl keepOne kept) (roots b) := by
  rw [List.map_append, List.foldl_append]
  rfl

theorem mem_foldl_keepOne {groups : List (List Nat)} {kept : List Nat} {r : Nat}
    (h : r ∈ groups.foldl keepOne kept) : r ∈ kept ∨ ∃ roots ∈ groups, r ∈ roots := by
  induction groups generalizing kept with
  | nil => exact .inl h
  | cons roots groups ih =>
    rcases ih h with hk | ⟨roots', hmem, hr⟩
    · exact (mem_keepOne hk).imp_right (fun hr => ⟨roots, List.mem_cons_self, hr⟩)
    · exact .inr ⟨roots', List.mem_cons_of_mem _ hmem, hr⟩

theorem exists_mem_foldl_keepOne {groups : List (List Nat)} {kept roots : List Nat}
    (hmem : roots ∈ groups) (hne : roots ≠ []) : ∃ r ∈ roots, r ∈ groups.foldl keepOne kept := by
  induction groups generalizing kept with
  | nil => cases hmem
  | cons roots' groups ih =>
    rcases List.mem_cons.1 hmem with rfl | hmem
    · obtain ⟨r, hr, hk⟩ := exists_mem_keepOne kept hne
      exact ⟨r, hr, subset_foldl_keepOne groups _ hk⟩
    · exact ih hmem

theorem foldl_keepOne_filter {β : Type} {groups : List β} {roots : β → List Nat} {kept : List Nat}
    {p : β → Bool} (h : ∀ b ∈ groups, p b = false → roots b = [] ∨ ∃ r ∈ roots b, r ∈ kept) :
    ((groups.filter p).map roots).foldl keepOne kept = (groups.map roots).foldl keepOne kept := by
  induction groups generalizing kept with
  | nil => rfl
  | cons b groups ih =>
    rw [List.map_cons, List.foldl_cons]
    by_cases hp : p b = true
    · have hrest : ∀ b' ∈ groups, p b' = false →
          roots b' = [] ∨ ∃ r ∈ roots b', r ∈ keepOne kept (roots b) := by
        intro b' hmem hp'
        refine (h b' (List.mem_cons_of_mem _ hmem) hp').imp_right ?_
        rintro ⟨r, hr, hk⟩
        exact ⟨r, hr, subset_keepOne kept (roots b) hk⟩
      rw [List.filter_cons_of_pos hp, List.map_cons, List.foldl_cons, ih hrest]
    · have hskip : keepOne kept (roots b) = kept := by
        rcases h b List.mem_cons_self (by simpa using hp) with hnil | ⟨r, hr, hk⟩
        · rw [hnil, keepOne_nil]
        · exact keepOne_of_mem hr hk
      rw [List.filter_cons_of_neg hp, hskip]
      exact ih (fun b' hmem => h b' (List.mem_cons_of_mem _ hmem))

theorem mem_soleRoots {t : Tree} {paths : List String} {r : Nat} :
    r ∈ t.soleRoots paths ↔ ∃ path ∈ paths, t.rootsAbove path = [r] := by
  have hsole : ∀ path, t.soleRoot? path = some r ↔ t.rootsAbove path = [r] := by
    intro path
    unfold soleRoot?
    split
    · next r' h => simp [h]
    · next h => simpa using h r
  simp only [soleRoots, List.mem_filterMap, hsole]

theorem mem_soleRoots_append {t : Tree} {paths : List String} {path : String} {r : Nat} :
    r ∈ t.soleRoots (paths ++ [path]) ↔ r ∈ t.soleRoots paths ∨ t.rootsAbove path = [r] := by
  simp only [mem_soleRoots, List.mem_append, List.mem_singleton, or_and_right, exists_or,
    exists_eq_left]

theorem soleRoots_mono {t : Tree} {paths paths' : List String} (h : paths ⊆ paths') :
    t.soleRoots paths ⊆ t.soleRoots paths' := by
  intro r hr
  obtain ⟨path, hmem, hroots⟩ := mem_soleRoots.1 hr
  exact mem_soleRoots.2 ⟨path, h hmem, hroots⟩

theorem soleRoots_subset_concat (t : Tree) (paths : List String) (path : String) :
    t.soleRoots paths ⊆ t.soleRoots (paths ++ [path]) :=
  soleRoots_mono (List.subset_append_left _ _)

theorem soleRoots_subset_chosenRoots (t : Tree) (paths : List String) :
    t.soleRoots paths ⊆ t.chosenRoots paths :=
  subset_foldl_keepOne _ _

theorem exists_of_mem_chosenRoots {t : Tree} {paths : List String} {r : Nat}
    (h : r ∈ t.chosenRoots paths) : ∃ path ∈ paths, r ∈ t.rootsAbove path := by
  rcases mem_foldl_keepOne h with hs | ⟨roots, hmem, hr⟩
  · obtain ⟨path, hmem, hroots⟩ := mem_soleRoots.1 hs
    exact ⟨path, hmem, hroots ▸ List.mem_singleton.2 rfl⟩
  · obtain ⟨path, hpath, rfl⟩ := List.mem_map.1 hmem
    exact ⟨path, hpath, hr⟩

theorem exists_mem_chosenRoots {t : Tree} {paths : List String} {path : String}
    (hmem : path ∈ paths) (hne : t.nodesFor path ≠ []) :
    ∃ r ∈ t.rootsAbove path, r ∈ t.chosenRoots paths := by
  refine exists_mem_foldl_keepOne (List.mem_map.2 ⟨path, hmem, rfl⟩) ?_
  simpa [rootsAbove] using hne

/-! ## Paths met more than once -/

theorem mem_keepOne_congr {kept kept' : List Nat} (h : ∀ r, r ∈ kept ↔ r ∈ kept')
    (roots : List Nat) (r : Nat) : r ∈ keepOne kept roots ↔ r ∈ keepOne kept' roots := by
  have hcontains : (fun r => kept.contains r) = fun r => kept'.contains r := by
    funext r
    rw [Bool.eq_iff_iff, List.contains_iff_mem, List.contains_iff_mem]
    exact h r
  unfold keepOne
  rw [hcontains]
  split
  · exact h r
  · split
    · exact h r
    · rw [List.mem_cons, List.mem_cons, h r]

theorem mem_foldl_keepOne_congr (groups : List (List Nat)) {kept kept' : List Nat}
    (h : ∀ r, r ∈ kept ↔ r ∈ kept') (r : Nat) :
    r ∈ groups.foldl keepOne kept ↔ r ∈ groups.foldl keepOne kept' := by
  induction groups generalizing kept kept' with
  | nil => exact h r
  | cons roots groups ih => exact ih (mem_keepOne_congr h roots)

theorem foldl_keepOne_firstBy (t : Tree) (paths : List String) (kept : List Nat) :
    ((firstBy id paths).map t.rootsAbove).foldl keepOne kept =
      (paths.map t.rootsAbove).foldl keepOne kept := by
  induction paths using List.reverseRecOn with
  | nil => rfl
  | append_singleton paths path ih =>
    rw [foldl_keepOne_concat, firstBy_concat, List.map_id]
    by_cases hmet : id path ∈ paths
    · rw [if_pos hmet, ih]
      by_cases hnil : t.rootsAbove path = []
      · rw [hnil, keepOne_nil]
      · have hgroup : t.rootsAbove path ∈ paths.map t.rootsAbove :=
          List.mem_map.2 ⟨path, hmet, rfl⟩
        have hkept : ∃ r ∈ t.rootsAbove path, r ∈ (paths.map t.rootsAbove).foldl keepOne kept :=
          exists_mem_foldl_keepOne hgroup hnil
        obtain ⟨r, hr, hk⟩ := hkept
        exact (keepOne_of_mem hr hk).symm
    · rw [if_neg hmet, foldl_keepOne_concat, ih]

theorem mem_chosenRoots_firstBy (t : Tree) (paths : List String) (r : Nat) :
    r ∈ t.chosenRoots (firstBy id paths) ↔ r ∈ t.chosenRoots paths := by
  have hsole : ∀ r, r ∈ t.soleRoots (firstBy id paths) ↔ r ∈ t.soleRoots paths := by
    intro r
    rw [mem_soleRoots, mem_soleRoots]
    simp only [mem_firstBy_id]
  unfold chosenRoots
  rw [foldl_keepOne_firstBy]
  exact mem_foldl_keepOne_congr _ hsole r

/-! ## Root includes above nodes -/

section Roots

variable {file : String} {t : Tree} (wf : t.WellFormed file)
include wf

theorem WellFormed.parent?_of_mem_rootsAbove {path : String} {r : Nat}
    (h : r ∈ t.rootsAbove path) : t.parent? r = some 0 := by
  obtain ⟨i, hi, rfl⟩ := List.mem_map.1 h
  obtain ⟨hpos, htarget⟩ := wf.mem_nodesFor.1 hi
  exact wf.parent?_rootInclude hpos (lt_size_of_target? htarget)

theorem WellFormed.mem_rootsAbove_iff {path : String} {r : Nat} (hr : t.parent? r = some 0) :
    r ∈ t.rootsAbove path ↔ ∃ i, t.Below r i ∧ t.target? i = some path := by
  unfold rootsAbove
  rw [List.mem_map]
  constructor
  · rintro ⟨i, hi, rfl⟩
    obtain ⟨hpos, htarget⟩ := wf.mem_nodesFor.1 hi
    exact ⟨i, wf.below_rootInclude hpos (lt_size_of_target? htarget), htarget⟩
  · rintro ⟨i, hb, htarget⟩
    have hpos : 0 < i := Nat.lt_of_lt_of_le (wf.pos_of_parent? hr) (wf.le_of_below hb)
    exact ⟨i, wf.mem_nodesFor.2 ⟨hpos, htarget⟩, wf.rootInclude_of_below hr hb⟩

theorem WellFormed.isUsed_iff {roots : List Nat} (hm : t.Marks roots) {path : String} {i : Nat}
    (hi : i ∈ t.nodesFor path) : t.isUsed i = true ↔ t.rootInclude i ∈ roots := by
  obtain ⟨hpos, htarget⟩ := wf.mem_nodesFor.1 hi
  rw [hm i]
  exact ⟨fun h => h.2.2, fun h => ⟨hpos, lt_size_of_target? htarget, h⟩⟩

theorem WellFormed.any_isUsed_iff {roots : List Nat} (hm : t.Marks roots) (path : String) :
    (t.nodesFor path).any t.isUsed = true ↔ ∃ r ∈ t.rootsAbove path, r ∈ roots := by
  rw [List.any_eq_true]
  constructor
  · rintro ⟨i, hi, hu⟩
    exact ⟨t.rootInclude i, List.mem_map.2 ⟨i, hi, rfl⟩, (wf.isUsed_iff hm hi).1 hu⟩
  · rintro ⟨r, hr, hk⟩
    obtain ⟨i, hi, rfl⟩ := List.mem_map.1 hr
    exact ⟨i, hi, (wf.isUsed_iff hm hi).2 hk⟩

end Roots

theorem SameShape.rootsAbove_eq {t t' : Tree} (h : SameShape t t') (path : String) :
    t'.rootsAbove path = t.rootsAbove path := by
  unfold rootsAbove
  rw [h.nodesFor_eq]
  exact List.map_congr_left (fun i _ => h.rootInclude_eq i)

theorem Marks.of_mem_iff {t : Tree} {roots roots' : List Nat} (hm : t.Marks roots)
    (h : ∀ r, r ∈ roots' ↔ r ∈ roots) : t.Marks roots' := by
  intro i
  rw [hm i, h]

theorem marks_build (file : String) (es : List Entry) : (build file es).Marks [] := by
  intro i
  rw [(build_collects file es).unused i]
  simp

theorem Marks.foldl_mark {file : String} {t : Tree} (wf : t.WellFormed file)
    {roots new : List Nat} (hm : t.Marks roots) (hnew : ∀ r ∈ new, t.parent? r = some 0) :
    SameShape t (new.foldl Tree.mark t) ∧ (new.foldl Tree.mark t).batches = t.batches ∧
      (new.foldl Tree.mark t).Marks (new.reverse ++ roots) := by
  induction new generalizing t roots with
  | nil => exact ⟨.refl t, rfl, hm⟩
  | cons r new ih =>
    have hs : SameShape t (t.mark r) := sameShape_markAll t [r]
    have hr := hnew r List.mem_cons_self
    have hrest : ∀ r' ∈ new, (t.mark r).parent? r' = some 0 := by
      intro r' hr'
      rw [hs.parent_eq]
      exact hnew r' (List.mem_cons_of_mem _ hr')
    obtain ⟨hs', hb, hm'⟩ := ih (hs.wellFormed wf) (hm.mark wf hr) hrest
    refine ⟨hs.trans hs', hb.trans (batches_markAll t [r]), ?_⟩
    rw [List.reverse_cons, List.append_assoc]
    exact hm'

/-! ## Keeping all root includes -/

def visitAll (t : Tree) (path : String) : Tree :=
  (t.allRootIncludes path).foldl mark t

theorem allRootIncludes_eq_firstBy (t : Tree) (path : String) :
    t.allRootIncludes path = firstBy id (t.rootsAbove path) := by
  unfold allRootIncludes rootsAbove
  induction t.nodesFor path using List.reverseRecOn with
  | nil => rfl
  | append_singleton ids i ih =>
    rw [List.foldl_append, List.foldl_cons, List.foldl_nil, ih, List.map_append,
      List.map_singleton, firstBy_concat, List.map_id]
    simp only [List.contains_iff_mem, mem_firstBy_id, id_eq]

theorem mem_allRootIncludes {t : Tree} {path : String} {r : Nat} :
    r ∈ t.allRootIncludes path ↔ r ∈ t.rootsAbove path := by
  rw [allRootIncludes_eq_firstBy, mem_firstBy_id]

theorem marks_foldl_visitAll {file : String} {t₀ : Tree} (wf : t₀.WellFormed file)
    (hm : t₀.Marks []) (hb : t₀.batches = []) (paths : List String) :
    SameShape t₀ (paths.foldl visitAll t₀) ∧ (paths.foldl visitAll t₀).batches = [] ∧
      (paths.foldl visitAll t₀).Marks (paths.flatMap t₀.rootsAbove) := by
  induction paths using List.reverseRecOn with
  | nil => exact ⟨.refl t₀, hb, hm⟩
  | append_singleton paths path ih =>
    obtain ⟨hs, hb, hm⟩ := ih
    rw [List.foldl_append, List.foldl_cons, List.foldl_nil]
    set t := paths.foldl visitAll t₀ with ht
    have wf' := hs.wellFormed wf
    have hroots : ∀ r ∈ t.allRootIncludes path, t.parent? r = some 0 :=
      fun r hr => wf'.parent?_of_mem_rootsAbove (mem_allRootIncludes.1 hr)
    obtain ⟨hs', hb', hm'⟩ := hm.foldl_mark wf' hroots
    refine ⟨hs.trans hs', hb'.trans hb, hm'.of_mem_iff fun r => ?_⟩
    rw [List.mem_append, List.mem_reverse, mem_allRootIncludes, hs.rootsAbove_eq]
    simp only [List.flatMap_append, List.flatMap_cons, List.flatMap_nil, List.append_nil,
      List.mem_append]
    tauto

/-! ## Keeping one root include for a path -/

/-- Marks the root include above a path with a single unused node, and puts the choice off for a
path with several. -/
def visitOne (t : Tree) (path : String) : Tree :=
  let (root, t) := t.singleRootInclude path
  root.toList.foldl mark t

theorem sameShape_checkBatches (t : Tree) : SameShape t t.checkBatches :=
  sameShape_batches t _

@[simp] theorem isUsed_checkBatches (t : Tree) (i : Nat) :
    t.checkBatches.isUsed i = t.isUsed i := rfl

@[simp] theorem nodesFor_checkBatches (t : Tree) (path : String) :
    t.checkBatches.nodesFor path = t.nodesFor path := rfl

/-- Looking for the node of a path drops batches, and puts the choice off among several nodes of
which none is used. -/
theorem findNode_cases (t : Tree) (path : String) :
    (((t.nodesFor path).any t.isUsed = true ∨ t.nodesFor path = []) ∧
        t.findNode path = (none, t.checkBatches)) ∨
      (∃ i, t.nodesFor path = [i] ∧ t.findNode path = (some i, t.checkBatches)) ∨
      (2 ≤ (t.nodesFor path).length ∧ t.findNode path = (none,
        { t.checkBatches with batches := t.checkBatches.batches ++ [t.nodesFor path] })) := by
  unfold findNode
  simp only [nodesFor_checkBatches]
  by_cases hu : (t.nodesFor path).any t.checkBatches.isUsed = true
  · exact .inl ⟨.inl hu, by simp [hu]⟩
  · match hids : t.nodesFor path with
    | [] => exact .inl ⟨.inr rfl, by simp⟩
    | [i] =>
      rw [hids] at hu
      exact .inr (.inl ⟨i, rfl, by simp [hu]⟩)
    | i :: j :: is =>
      rw [hids] at hu
      exact .inr (.inr ⟨by simp, by simp [hu]⟩)

theorem visitOne_cases (t : Tree) (path : String) :
    (((t.nodesFor path).any t.isUsed = true ∨ t.nodesFor path = []) ∧
        t.visitOne path = t.checkBatches) ∨
      (∃ i, t.nodesFor path = [i] ∧ t.visitOne path = t.checkBatches.mark (t.rootInclude i)) ∨
      (2 ≤ (t.nodesFor path).length ∧
        t.visitOne path =
          { t.checkBatches with batches := t.checkBatches.batches ++ [t.nodesFor path] }) := by
  unfold visitOne singleRootInclude
  rcases findNode_cases t path with ⟨hids, h⟩ | ⟨i, hids, h⟩ | ⟨hids, h⟩
  · rw [h]
    exact .inl ⟨hids, rfl⟩
  · have hclimb := (sameShape_checkBatches t).rootInclude_eq i
    rw [h]
    exact .inr (.inl ⟨i, hids, congrArg t.checkBatches.mark hclimb⟩)
  · rw [h]
    exact .inr (.inr ⟨hids, rfl⟩)

/-- After visiting paths, the root includes of those with a single node are marked, and settling
the batches would choose what going through all the paths chooses. -/
structure Pending (t₀ : Tree) (paths : List String) (t : Tree) : Prop where
  shape : SameShape t₀ t
  marks : t.Marks (t₀.soleRoots paths)
  batches_mem : ∀ b ∈ t.batches, ∃ path, b = t₀.nodesFor path
  deferred : ∀ kept, t₀.soleRoots paths ⊆ kept →
    (t.batches.map (fun b => b.map t₀.rootInclude)).foldl keepOne kept =
      (paths.map t₀.rootsAbove).foldl keepOne kept

namespace Pending

variable {file : String} {t₀ t : Tree} (wf : t₀.WellFormed file) {paths : List String}
include wf

theorem any_isUsed_iff (hp : Pending t₀ paths t) (path : String) :
    (t₀.nodesFor path).any t.isUsed = true ↔
      ∃ r ∈ t₀.rootsAbove path, r ∈ t₀.soleRoots paths := by
  have h := (hp.shape.wellFormed wf).any_isUsed_iff hp.marks path
  rwa [hp.shape.nodesFor_eq, hp.shape.rootsAbove_eq] at h

/-- A batch that is dropped has a member below a marked root include, so it chooses nothing. -/
theorem checkBatches (hp : Pending t₀ paths t) : Pending t₀ paths t.checkBatches := by
  refine ⟨hp.shape.trans (sameShape_checkBatches t),
    hp.marks.congr (sameShape_checkBatches t) (isUsed_checkBatches t), ?_, ?_⟩
  · intro b hb
    exact hp.batches_mem b (List.mem_filter.1 hb).1
  · intro kept hk
    rw [← hp.deferred kept hk]
    refine foldl_keepOne_filter fun b hb hdrop => ?_
    obtain ⟨path, rfl⟩ := hp.batches_mem b hb
    rw [Bool.not_eq_false'] at hdrop
    obtain ⟨r, hr, hmem⟩ := (hp.any_isUsed_iff wf path).1 hdrop
    exact .inr ⟨r, hr, hk hmem⟩

omit wf in
theorem covered (hp : Pending t₀ paths t) {path : String}
    (h : (∃ r ∈ t₀.rootsAbove path, r ∈ t₀.soleRoots paths) ∨ t₀.rootsAbove path = []) :
    Pending t₀ (paths ++ [path]) t := by
  refine ⟨hp.shape, hp.marks.of_mem_iff fun r => ?_, hp.batches_mem, fun kept hk => ?_⟩
  · rw [mem_soleRoots_append]
    refine ⟨?_, .inl⟩
    rintro (hold | hsole)
    · exact hold
    · rw [hsole] at h
      rcases h with ⟨r', hr', hmem⟩ | hnil
      · exact List.mem_singleton.1 hr' ▸ hmem
      · cases hnil
  · have hsub := soleRoots_subset_concat t₀ paths path
    rw [hp.deferred kept (fun r hr => hk (hsub hr)), foldl_keepOne_concat]
    rcases h with ⟨r, hr, hmem⟩ | hnil
    · exact (keepOne_of_mem hr (subset_foldl_keepOne _ _ (hk (hsub hmem)))).symm
    · rw [hnil]
      rfl

theorem sole (hp : Pending t₀ paths t) {path : String} {r : Nat}
    (h : t₀.rootsAbove path = [r]) : Pending t₀ (paths ++ [path]) (t.mark r) := by
  have hr : t.parent? r = some 0 := by
    rw [hp.shape.parent_eq]
    exact wf.parent?_of_mem_rootsAbove (h ▸ List.mem_singleton.2 rfl)
  have hbatches : (t.mark r).batches = t.batches := batches_markAll t [r]
  refine ⟨hp.shape.trans (sameShape_markAll _ _),
    (hp.marks.mark (hp.shape.wellFormed wf) hr).of_mem_iff fun r' => ?_, ?_, fun kept hk => ?_⟩
  · rw [mem_soleRoots_append, h, List.mem_cons, List.singleton_inj, or_comm, eq_comm]
  · rw [hbatches]
    exact hp.batches_mem
  · have hsub := soleRoots_subset_concat t₀ paths path
    have hkept : r ∈ kept := hk (mem_soleRoots_append.2 (.inr h))
    rw [hbatches, hp.deferred kept (fun r hr => hk (hsub hr)), foldl_keepOne_concat, h,
      keepOne_of_mem (List.mem_singleton.2 rfl) (subset_foldl_keepOne _ _ hkept)]

omit wf in
theorem putOff (hp : Pending t₀ paths t) {path : String} (h : 2 ≤ (t₀.nodesFor path).length) :
    Pending t₀ (paths ++ [path]) { t with batches := t.batches ++ [t₀.nodesFor path] } := by
  have hroots : ∀ r, t₀.rootsAbove path ≠ [r] := by
    intro r hr
    have hlen := congrArg List.length hr
    simp only [rootsAbove, List.length_map, List.length_singleton] at hlen
    omega
  refine ⟨hp.shape.trans (sameShape_batches _ _), ?_, ?_, fun kept hk => ?_⟩
  · refine (hp.marks.of_mem_iff fun r => ?_).congr (sameShape_batches _ _) (fun _ => rfl)
    rw [mem_soleRoots_append]
    exact ⟨fun h => h.resolve_right (hroots r), .inl⟩
  · intro b hb
    rcases List.mem_append.1 hb with hb | hb
    · exact hp.batches_mem b hb
    · exact ⟨path, List.mem_singleton.1 hb⟩
  · have hsub := soleRoots_subset_concat t₀ paths path
    rw [foldl_keepOne_concat, foldl_keepOne_concat, hp.deferred kept (fun r hr => hk (hsub hr))]
    rfl

theorem visitOne (hp : Pending t₀ paths t) (path : String) :
    Pending t₀ (paths ++ [path]) (t.visitOne path) := by
  have hc := hp.checkBatches wf
  rcases visitOne_cases t path with ⟨hids, heq⟩ | ⟨i, hids, heq⟩ | ⟨hids, heq⟩
  · rw [hp.shape.nodesFor_eq] at hids
    rw [heq]
    refine hc.covered (hids.imp (hp.any_isUsed_iff wf path).1 fun hnil => ?_)
    rw [rootsAbove, hnil, List.map_nil]
  · rw [hp.shape.nodesFor_eq] at hids
    rw [heq, hp.shape.rootInclude_eq]
    refine hc.sole wf ?_
    rw [rootsAbove, hids, List.map_singleton]
  · rw [hp.shape.nodesFor_eq] at hids heq
    rw [heq]
    exact hc.putOff hids

theorem foldl_visitOne (hm : t₀.Marks []) (hb : t₀.batches = []) (paths : List String) :
    Pending t₀ paths (paths.foldl Tree.visitOne t₀) := by
  induction paths using List.reverseRecOn with
  | nil =>
    refine ⟨.refl t₀, hm, ?_, ?_⟩
    · intro b hmem
      rw [List.foldl_nil, hb] at hmem
      cases hmem
    · intro kept _
      rw [List.foldl_nil, hb]
      rfl
  | append_singleton paths path ih =>
    rw [List.foldl_append, List.foldl_cons, List.foldl_nil]
    exact ih.visitOne wf path

end Pending

/-! ## Settling the batches -/

theorem settleBatch_cases (t : Tree) (b : List Nat) :
    t.settleBatch b = t ∨ ∃ r, t.settleBatch b = t.mark r := by
  unfold settleBatch
  split
  · exact .inl rfl
  · split
    · exact .inl rfl
    · exact .inr ⟨_, rfl⟩

theorem sameShape_settleBatch (t : Tree) (b : List Nat) : SameShape t (t.settleBatch b) := by
  rcases settleBatch_cases t b with h | ⟨r, h⟩
  · rw [h]
    exact .refl t
  · rw [h]
    exact sameShape_markAll t [r]

theorem batches_settleBatch (t : Tree) (b : List Nat) : (t.settleBatch b).batches = t.batches := by
  rcases settleBatch_cases t b with h | ⟨r, h⟩
  · rw [h]
  · rw [h]
    exact batches_markAll t [r]

theorem sameShape_foldl_settleBatch (bs : List (List Nat)) (t : Tree) :
    SameShape t (bs.foldl settleBatch t) ∧ (bs.foldl settleBatch t).batches = t.batches := by
  induction bs generalizing t with
  | nil => exact ⟨.refl t, rfl⟩
  | cons b bs ih =>
    obtain ⟨hs, hb⟩ := ih (t.settleBatch b)
    exact ⟨(sameShape_settleBatch t b).trans hs, hb.trans (batches_settleBatch t b)⟩

theorem sameShape_resolveBatches (t : Tree) : SameShape t t.resolveBatches := by
  have hs := (sameShape_checkBatches t).trans (sameShape_batches t.checkBatches [])
  exact hs.trans (sameShape_foldl_settleBatch t.checkBatches.batches _).1

theorem batches_resolveBatches (t : Tree) : t.resolveBatches.batches = [] :=
  (sameShape_foldl_settleBatch t.checkBatches.batches { t.checkBatches with batches := [] }).2

theorem Marks.settleBatch {file : String} {t : Tree} (wf : t.WellFormed file) {roots : List Nat}
    (hm : t.Marks roots) (path : String) :
    (t.settleBatch (t.nodesFor path)).Marks (keepOne roots (t.rootsAbove path)) := by
  unfold Tree.settleBatch
  split
  · next hu =>
    obtain ⟨r, hr, hk⟩ := (wf.any_isUsed_iff hm path).1 hu
    rw [keepOne_of_mem hr hk]
    exact hm
  · next hu =>
    have hfree : ¬ (t.rootsAbove path).any (fun r => roots.contains r) = true := by
      intro h
      obtain ⟨r, hr, hk⟩ := List.any_eq_true.1 h
      exact hu ((wf.any_isUsed_iff hm path).2 ⟨r, hr, List.contains_iff_mem.1 hk⟩)
    unfold keepOne
    rw [if_neg hfree]
    split
    · next hids =>
      rw [rootsAbove, hids]
      exact hm
    · next i is hids =>
      have hroots : t.rootsAbove path = t.rootInclude i :: is.map t.rootInclude := by
        rw [rootsAbove, hids, List.map_cons]
      have hr := wf.parent?_of_mem_rootsAbove (hroots ▸ List.mem_cons_self)
      rw [hroots]
      exact hm.mark wf hr

theorem Marks.foldl_settleBatch {file : String} {t₀ t : Tree} (wf : t₀.WellFormed file)
    (hs : SameShape t₀ t) {roots : List Nat} (hm : t.Marks roots) {bs : List (List Nat)}
    (hbs : ∀ b ∈ bs, ∃ path, b = t₀.nodesFor path) :
    (bs.foldl Tree.settleBatch t).Marks
      ((bs.map (fun b => b.map t₀.rootInclude)).foldl keepOne roots) := by
  induction bs generalizing t roots with
  | nil => exact hm
  | cons b bs ih =>
    obtain ⟨path, rfl⟩ := hbs b List.mem_cons_self
    have hm' := hm.settleBatch (hs.wellFormed wf) path
    rw [hs.nodesFor_eq, hs.rootsAbove_eq] at hm'
    exact ih (hs.trans (sameShape_settleBatch t _)) hm'
      (fun b hb => hbs b (List.mem_cons_of_mem _ hb))

/-- Visiting paths and settling what was put off marks the chosen root includes. -/
theorem marks_resolveBatches {file : String} {t₀ : Tree} (wf : t₀.WellFormed file)
    (hm : t₀.Marks []) (hb : t₀.batches = []) (paths : List String) :
    SameShape t₀ (paths.foldl visitOne t₀).resolveBatches ∧
      (paths.foldl visitOne t₀).resolveBatches.batches = [] ∧
      (paths.foldl visitOne t₀).resolveBatches.Marks (t₀.chosenRoots paths) := by
  have hpending := Pending.foldl_visitOne wf hm hb paths
  have hp := hpending.checkBatches wf
  have hs := sameShape_batches (paths.foldl visitOne t₀).checkBatches []
  have hm' := hp.marks.congr hs (fun _ => rfl)
  have hsettled := hm'.foldl_settleBatch wf (hp.shape.trans hs) hp.batches_mem
  rw [hp.deferred _ (fun r hr => hr)] at hsettled
  exact ⟨hpending.shape.trans (sameShape_resolveBatches _), batches_resolveBatches _, hsettled⟩

theorem resolveBatches_of_nil {t : Tree} (h : t.batches = []) : t.resolveBatches = t := by
  cases t
  subst h
  rfl

/-! ## What is left unused -/

def unkeptEntries (t : Tree) (kept : List Nat) : List Entry :=
  (t.rootIncludes.filter (fun r => r ∉ kept)).filterMap t.entry?

theorem unkeptEntries_congr (t : Tree) {kept kept' : List Nat} (h : ∀ r, r ∈ kept ↔ r ∈ kept') :
    t.unkeptEntries kept = t.unkeptEntries kept' := by
  unfold unkeptEntries
  simp only [h]

theorem unusedRootIncludes_eq {file : String} {t₀ t : Tree} (wf : t₀.WellFormed file)
    (hs : SameShape t₀ t) {roots : List Nat} (hm : t.Marks roots) :
    t.unusedRootIncludes = t₀.unkeptEntries roots := by
  have hused : ∀ r ∈ t₀.rootIncludes, (!t.isUsed r) = decide (r ∉ roots) := by
    intro r hr
    have hp := wf.mem_children.1 hr
    have hlt := lt_size_of_parent? hp
    have hiff : t.isUsed r = true ↔ r ∈ roots := by
      rw [hm r, hs.size_eq, hs.rootInclude_eq, wf.rootInclude_of_child hp]
      exact ⟨fun h => h.2.2, fun h => ⟨wf.pos_of_parent? hp, hlt, h⟩⟩
    cases h : t.isUsed r with
    | true => simp [hiff.1 h]
    | false => simp [mt hiff.2 (by simp [h])]
  unfold unusedRootIncludes unkeptEntries
  rw [hs.rootIncludes_eq, List.filter_congr hused, funext hs.entry_eq]

section Unkept

variable {file : String} {t : Tree} (wf : t.WellFormed file)
include wf

theorem WellFormed.mem_unkeptEntries {kept : List Nat} {e : Entry} :
    e ∈ t.unkeptEntries kept ↔ ∃ r, t.parent? r = some 0 ∧ t.entry? r = some e ∧ r ∉ kept := by
  rw [unkeptEntries, List.mem_filterMap]
  constructor
  · rintro ⟨r, hr, he⟩
    obtain ⟨hchild, hnot⟩ := List.mem_filter.1 hr
    exact ⟨r, wf.mem_children.1 hchild, he, by simpa using hnot⟩
  · rintro ⟨r, hp, he, hnot⟩
    exact ⟨r, List.mem_filter.2 ⟨wf.mem_children.2 hp, by simpa using hnot⟩, he⟩

theorem WellFormed.nodup_unkeptEntries (kept : List Nat) : (t.unkeptEntries kept).Nodup := by
  have hnodup : (t.rootIncludes.filter (fun r => r ∉ kept)).Nodup := by
    unfold rootIncludes
    rw [wf.children_eq]
    exact (List.nodup_range.filter _).filter _
  rw [unkeptEntries, List.Nodup, List.pairwise_filterMap]
  refine hnodup.imp_of_mem fun {r r'} hr hr' hne e he e' he' heq => hne ?_
  have hpos : ∀ {k}, k ∈ t.rootIncludes.filter (fun r => r ∉ kept) → 0 < k :=
    fun hk => wf.pos_of_parent? (wf.mem_children.1 (List.mem_filter.1 hk).1)
  subst heq
  exact wf.entry_inj (hpos hr) (hpos hr') he he'

theorem WellFormed.entry_mem_unkeptEntries {kept : List Nat} {r : Nat} {e : Entry}
    (hp : t.parent? r = some 0) (he : t.entry? r = some e) :
    e ∈ t.unkeptEntries kept ↔ r ∉ kept := by
  rw [wf.mem_unkeptEntries]
  constructor
  · rintro ⟨r', hp', he', hnot⟩
    rwa [wf.entry_inj (wf.pos_of_parent? hp) (wf.pos_of_parent? hp') he he']
  · exact fun hnot => ⟨r, hp, he, hnot⟩

theorem WellFormed.unkeptEntries_subset_iff {kept kept' : List Nat}
    (h : ∀ r ∈ kept', t.parent? r = some 0) :
    t.unkeptEntries kept ⊆ t.unkeptEntries kept' ↔ kept' ⊆ kept := by
  constructor
  · intro hsub r hr
    obtain ⟨e, he⟩ := exists_entry?_of_lt (lt_size_of_parent? (h r hr))
    by_contra hnot
    have hin := hsub ((wf.entry_mem_unkeptEntries (h r hr) he).2 hnot)
    exact (wf.entry_mem_unkeptEntries (h r hr) he).1 hin hr
  · intro hsub e he
    obtain ⟨r, hp, hr, hnot⟩ := wf.mem_unkeptEntries.1 he
    exact wf.mem_unkeptEntries.2 ⟨r, hp, hr, fun hk => hnot (hsub hk)⟩

end Unkept

end IncludeScan.Tree
