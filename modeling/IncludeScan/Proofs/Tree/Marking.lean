import IncludeScan.Proofs.Tree.Ancestry

/-!
What marking does to a tree.

Marking changes marks only (`SameShape`). While the used nodes are closed downwards, marking a node
makes used exactly what was used and the nodes at or below it (`isUsed_mark`), although the walk
stops at nodes that are used already. A scan marks root includes only, so at any time the used
nodes are those below some set of root includes (`Marks`).
-/

set_option autoImplicit false

namespace IncludeScan.Tree

/-! ## Trees that differ in marks and batches -/

/-- `t'` is `t` up to the marks and the batches. -/
structure SameShape (t t' : Tree) : Prop where
  size_eq : t'.nodes.size = t.nodes.size
  entry_eq : ∀ i, t'.entry? i = t.entry? i
  parent_eq : ∀ i, t'.parent? i = t.parent? i
  children_eq : ∀ i, t'.children i = t.children i
  byTarget_eq : t'.byTarget = t.byTarget
  unresolved_eq : t'.unresolved = t.unresolved
  parked_eq : t'.parked = t.parked

namespace SameShape

theorem refl (t : Tree) : SameShape t t :=
  ⟨rfl, fun _ => rfl, fun _ => rfl, fun _ => rfl, rfl, rfl, rfl⟩

theorem symm {t t' : Tree} (h : SameShape t t') : SameShape t' t where
  size_eq := h.size_eq.symm
  entry_eq i := (h.entry_eq i).symm
  parent_eq i := (h.parent_eq i).symm
  children_eq i := (h.children_eq i).symm
  byTarget_eq := h.byTarget_eq.symm
  unresolved_eq := h.unresolved_eq.symm
  parked_eq := h.parked_eq.symm

theorem trans {t t' t'' : Tree} (h : SameShape t t') (h' : SameShape t' t'') : SameShape t t'' where
  size_eq := h'.size_eq.trans h.size_eq
  entry_eq i := (h'.entry_eq i).trans (h.entry_eq i)
  parent_eq i := (h'.parent_eq i).trans (h.parent_eq i)
  children_eq i := (h'.children_eq i).trans (h.children_eq i)
  byTarget_eq := h'.byTarget_eq.trans h.byTarget_eq
  unresolved_eq := h'.unresolved_eq.trans h.unresolved_eq
  parked_eq := h'.parked_eq.trans h.parked_eq

variable {t t' : Tree} (h : SameShape t t')
include h

theorem target_eq (i : Nat) : t'.target? i = t.target? i := by
  rw [target?_eq_map, target?_eq_map, h.entry_eq]

theorem nodesFor_eq (path : String) : t'.nodesFor path = t.nodesFor path := by
  unfold nodesFor
  rw [h.byTarget_eq]

theorem rootInclude_eq (i : Nat) : t'.rootInclude i = t.rootInclude i :=
  rootInclude_congr h.parent_eq i

theorem rootIncludes_eq : t'.rootIncludes = t.rootIncludes :=
  h.children_eq 0

theorem below {i j : Nat} (hb : t'.Below i j) : t.Below i j :=
  hb.congr (fun k => (h.parent_eq k).symm)

theorem wellFormed {file : String} (wf : t.WellFormed file) : t'.WellFormed file where
  root_entry := (h.entry_eq 0).trans wf.root_entry
  root_parent := (h.parent_eq 0).trans wf.root_parent
  parent := by
    intro i e hi he
    obtain ⟨p, hlt, hp, htarget⟩ := wf.parent hi ((h.entry_eq i).symm.trans he)
    exact ⟨p, hlt, (h.parent_eq i).trans hp, (h.target_eq p).trans htarget⟩
  children_eq := by
    intro i
    rw [h.children_eq, wf.children_eq, h.size_eq]
    simp only [h.parent_eq]
  nodesFor_eq := by
    intro path
    rw [h.nodesFor_eq, wf.nodesFor_eq, h.size_eq]
    simp only [h.target_eq]
  entry_inj := by
    intro i j e hi hj hie hje
    rw [h.entry_eq] at hie hje
    exact wf.entry_inj hi hj hie hje

end SameShape

theorem sameShape_batches (t : Tree) (bs : List (List Nat)) :
    SameShape t { t with batches := bs } :=
  ⟨rfl, fun _ => rfl, fun _ => rfl, fun _ => rfl, rfl, rfl, rfl⟩

/-! ## Marking one node -/

theorem sameShape_setUsed (t : Tree) (i : Nat) : SameShape t (t.setUsed i) := by
  have hget : ∀ j, (t.setUsed i).nodes[j]? =
      t.nodes[j]?.map (fun n => if i = j then { n with used := true } else n) := by
    intro j
    simp only [setUsed, Array.getElem?_modify]
    by_cases h : i = j
    · simp [h]
    · simp [h]
  refine ⟨by simp [setUsed], ?_, ?_, ?_, rfl, rfl, rfl⟩
  · intro j
    unfold entry?
    rw [hget]
    cases t.nodes[j]? with
    | none => rfl
    | some n => simp only [Option.map_some]; split <;> rfl
  · intro j
    unfold parent?
    rw [hget]
    cases t.nodes[j]? with
    | none => rfl
    | some n => simp only [Option.map_some, Option.bind_some]; split <;> rfl
  · intro j
    unfold children
    rw [hget]
    cases t.nodes[j]? with
    | none => rfl
    | some n => simp only [Option.map_some, Option.getD_some]; split <;> rfl

theorem isUsed_setUsed (t : Tree) (i j : Nat) :
    (t.setUsed i).isUsed j = true ↔ (j = i ∧ i < t.nodes.size) ∨ t.isUsed j = true := by
  unfold isUsed setUsed
  rw [Array.getElem?_modify]
  by_cases h : i = j
  · subst h
    by_cases hlt : i < t.nodes.size
    · simp [hlt]
    · simp [hlt]
  · simp [h, show ¬ j = i from fun h' => h h'.symm]

theorem isUsed_of_getElem? {t : Tree} {i : Nat} {n : Node} (h : t.nodes[i]? = some n) :
    t.isUsed i = n.used := by
  simp [isUsed, h]

theorem children_of_getElem? {t : Tree} {i : Nat} {n : Node} (h : t.nodes[i]? = some n) :
    t.children i = n.children := by
  simp [children, h]

/-! ## The walk -/

theorem sameShape_markAll (t : Tree) (work : List Nat) : SameShape t (t.markAll work) := by
  fun_induction markAll t work with
  | case1 t => exact .refl t
  | case2 t i rest h ih => exact ih
  | case3 t i rest n h hu ih => exact ih
  | case4 t i rest n h hu ih => exact (sameShape_setUsed t i).trans ih

theorem batches_markAll (t : Tree) (work : List Nat) : (t.markAll work).batches = t.batches := by
  fun_induction markAll t work with
  | case1 t => rfl
  | case2 t i rest h ih => exact ih
  | case3 t i rest n h hu ih => exact ih
  | case4 t i rest n h hu ih => exact ih

theorem isUsed_markAll_mono {t : Tree} {work : List Nat} {j : Nat} (hj : t.isUsed j = true) :
    (t.markAll work).isUsed j = true := by
  fun_induction markAll t work with
  | case1 t => exact hj
  | case2 t i rest h ih => exact ih hj
  | case3 t i rest n h hu ih => exact ih hj
  | case4 t i rest n h hu ih => exact ih ((isUsed_setUsed t i j).2 (.inr hj))

theorem isUsed_markAll_of_mem {t : Tree} {work : List Nat} {j : Nat} (hj : j ∈ work)
    (hlt : j < t.nodes.size) : (t.markAll work).isUsed j = true := by
  fun_induction markAll t work with
  | case1 t => cases hj
  | case2 t i rest h ih =>
    rcases List.mem_cons.1 hj with rfl | hj
    · rw [Array.getElem?_eq_getElem hlt] at h
      cases h
    · exact ih hj hlt
  | case3 t i rest n h hu ih =>
    rcases List.mem_cons.1 hj with rfl | hj
    · exact isUsed_markAll_mono ((isUsed_of_getElem? h).trans hu)
    · exact ih hj hlt
  | case4 t i rest n h hu ih =>
    rcases List.mem_cons.1 hj with rfl | hj
    · exact isUsed_markAll_mono ((isUsed_setUsed t j j).2 (.inl ⟨rfl, hlt⟩))
    · exact ih (List.mem_append_right _ hj) ((sameShape_setUsed t i).size_eq ▸ hlt)

theorem below_of_isUsed_markAll {file : String} {t : Tree} (wf : t.WellFormed file)
    {work : List Nat} {j : Nat} (hj : (t.markAll work).isUsed j = true) :
    t.isUsed j = true ∨ ∃ i ∈ work, t.Below i j := by
  fun_induction markAll t work with
  | case1 t => exact .inl hj
  | case2 t i rest h ih =>
    rcases ih wf hj with hold | ⟨k, hk, hb⟩
    · exact .inl hold
    · exact .inr ⟨k, List.mem_cons_of_mem i hk, hb⟩
  | case3 t i rest n h hu ih =>
    rcases ih wf hj with hold | ⟨k, hk, hb⟩
    · exact .inl hold
    · exact .inr ⟨k, List.mem_cons_of_mem i hk, hb⟩
  | case4 t i rest n h hu ih =>
    have hs := sameShape_setUsed t i
    rcases ih (hs.wellFormed wf) hj with hold | ⟨k, hk, hb⟩
    · rcases (isUsed_setUsed t i j).1 hold with ⟨rfl, -⟩ | hold
      · exact .inr ⟨j, List.mem_cons_self, .refl⟩
      · exact .inl hold
    · rcases List.mem_append.1 hk with hk | hk
      · have hp : t.parent? k = some i := by
          rw [← wf.mem_children, children_of_getElem? h]
          exact hk
        exact .inr ⟨i, List.mem_cons_self, (Below.step hp .refl).trans (hs.below hb)⟩
      · exact .inr ⟨k, List.mem_cons_of_mem i hk, hs.below hb⟩

def DownClosed (t : Tree) : Prop :=
  ∀ i j, t.isUsed i = true → t.parent? j = some i → t.isUsed j = true

theorem DownClosed.below {t : Tree} (h : t.DownClosed) {i j : Nat} (hi : t.isUsed i = true)
    (hb : t.Below i j) : t.isUsed j = true := by
  induction hb with
  | refl => exact hi
  | step hp _ ih => exact h _ _ ih hp

/-- A child of a used node is used, or it waits in the work list. -/
def Awaits (t : Tree) (work : List Nat) : Prop :=
  ∀ i j, t.isUsed i = true → t.parent? j = some i → t.isUsed j = true ∨ j ∈ work

theorem DownClosed.awaits {t : Tree} (h : t.DownClosed) (work : List Nat) : t.Awaits work :=
  fun i j hi hp => .inl (h i j hi hp)

theorem Awaits.of_used {t : Tree} {i : Nat} (h : ∀ n, t.nodes[i]? = some n → n.used = true)
    {rest : List Nat} (hw : t.Awaits (i :: rest)) : t.Awaits rest := by
  intro k j hk hp
  rcases hw k j hk hp with hj | hj
  · exact .inl hj
  · rcases List.mem_cons.1 hj with rfl | hj
    · have hj := Array.getElem?_eq_getElem (lt_size_of_parent? hp)
      exact .inl ((isUsed_of_getElem? hj).trans (h _ hj))
    · exact .inr hj

theorem Awaits.setUsed {file : String} {t : Tree} (wf : t.WellFormed file) {i : Nat} {n : Node}
    (h : t.nodes[i]? = some n) {rest : List Nat} (hw : t.Awaits (i :: rest)) :
    (t.setUsed i).Awaits (n.children ++ rest) := by
  have hs := sameShape_setUsed t i
  intro k j hk hp
  rw [hs.parent_eq] at hp
  rcases (isUsed_setUsed t i k).1 hk with ⟨rfl, -⟩ | hk
  · rw [← wf.mem_children, children_of_getElem? h] at hp
    exact .inr (List.mem_append_left rest hp)
  · rcases hw k j hk hp with hj | hj
    · exact .inl ((isUsed_setUsed t i j).2 (.inr hj))
    · rcases List.mem_cons.1 hj with rfl | hj
      · exact .inl ((isUsed_setUsed t j j).2 (.inl ⟨rfl, lt_size_of_parent? hp⟩))
      · exact .inr (List.mem_append_right _ hj)

/-- During the walk the children of used nodes are used or in the work list, so at its end the
used nodes are closed downwards. -/
theorem downClosed_markAll {file : String} {t : Tree} (wf : t.WellFormed file) {work : List Nat}
    (hw : t.Awaits work) : (t.markAll work).DownClosed := by
  fun_induction markAll t work with
  | case1 t => exact fun i j hi hp => (hw i j hi hp).resolve_right List.not_mem_nil
  | case2 t i rest h ih =>
    refine ih wf (hw.of_used fun n hn => ?_)
    rw [h] at hn
    cases hn
  | case3 t i rest n h hu ih =>
    refine ih wf (hw.of_used fun n' hn' => ?_)
    rw [h] at hn'
    cases hn'
    exact hu
  | case4 t i rest n h hu ih => exact ih ((sameShape_setUsed t i).wellFormed wf) (hw.setUsed wf h)

theorem isUsed_markAll {file : String} {t : Tree} (wf : t.WellFormed file) {work : List Nat}
    (hw : t.Awaits work) (j : Nat) :
    (t.markAll work).isUsed j = true ↔
      t.isUsed j = true ∨ ∃ i ∈ work, i < t.nodes.size ∧ t.Below i j := by
  constructor
  · intro hj
    refine (below_of_isUsed_markAll wf hj).imp_right ?_
    rintro ⟨i, hi, hb⟩
    refine ⟨i, hi, ?_, hb⟩
    have hlt : j < t.nodes.size := by
      by_contra hge
      rw [← (sameShape_markAll t work).size_eq] at hge
      simp [isUsed, hge] at hj
    exact Nat.lt_of_le_of_lt (wf.le_of_below hb) hlt
  · rintro (hj | ⟨i, hi, hlt, hb⟩)
    · exact isUsed_markAll_mono hj
    · refine (downClosed_markAll wf hw).below (isUsed_markAll_of_mem hi hlt) ?_
      exact hb.congr (sameShape_markAll t work).parent_eq

theorem isUsed_mark {file : String} {t : Tree} (wf : t.WellFormed file) (hd : t.DownClosed)
    {i : Nat} (hi : i < t.nodes.size) (j : Nat) :
    (t.mark i).isUsed j = true ↔ t.isUsed j = true ∨ t.Below i j := by
  rw [mark, isUsed_markAll wf (hd.awaits [i])]
  simp only [List.mem_singleton, exists_eq_left, hi, true_and]

/-! ## Marks below root includes -/

/-- The used nodes are those below the root includes `roots`. -/
def Marks (t : Tree) (roots : List Nat) : Prop :=
  ∀ i, t.isUsed i = true ↔ 0 < i ∧ i < t.nodes.size ∧ t.rootInclude i ∈ roots

theorem Marks.congr {t t' : Tree} {roots : List Nat} (hm : t.Marks roots) (hs : SameShape t t')
    (hu : ∀ i, t'.isUsed i = t.isUsed i) : t'.Marks roots := by
  intro i
  rw [hu, hm i, hs.size_eq, hs.rootInclude_eq]

theorem Marks.downClosed {file : String} {t : Tree} (wf : t.WellFormed file) {roots : List Nat}
    (hm : t.Marks roots) : t.DownClosed := by
  intro i j hi hp
  obtain ⟨hpos, -, hr⟩ := (hm i).1 hi
  refine (hm j).2 ⟨wf.pos_of_parent? hp, lt_size_of_parent? hp, ?_⟩
  rwa [wf.rootInclude_of_parent hp hpos]

theorem Marks.mark {file : String} {t : Tree} (wf : t.WellFormed file) {roots : List Nat}
    (hm : t.Marks roots) {r : Nat} (hr : t.parent? r = some 0) : (t.mark r).Marks (r :: roots) := by
  have hlt := lt_size_of_parent? hr
  have hs : SameShape t (t.mark r) := sameShape_markAll t [r]
  intro i
  rw [isUsed_mark wf (hm.downClosed wf) hlt, hs.size_eq, hs.rootInclude_eq, hm i, List.mem_cons]
  constructor
  · rintro (⟨hpos, hi, h⟩ | hb)
    · exact ⟨hpos, hi, .inr h⟩
    · have hpos : 0 < r := wf.pos_of_parent? hr
      have hle := wf.le_of_below hb
      exact ⟨by omega, hb.lt_size hlt, .inl (wf.rootInclude_of_below hr hb)⟩
  · rintro ⟨hpos, hi, h | h⟩
    · exact .inr ((wf.below_iff hr hpos hi).2 h)
    · exact .inl ⟨hpos, hi, h⟩

end IncludeScan.Tree
