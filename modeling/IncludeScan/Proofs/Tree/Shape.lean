import IncludeScan.Tree.Attach
import Mathlib.Tactic.Common

/-!
The shape of include trees.

`WellFormed file t` says what the nodes, their links and the table of targets look like in every
tree that directives are attached to: node `0` stands for the file, every other node hangs below
an earlier one that includes its source, and the lists of children and of targets hold exactly the
nodes they should, in the order of attaching. `WellFormed.attach` is the one step that builds such
trees; the marks, the batches and the parked directives have no part in it.
-/

set_option autoImplicit false

namespace IncludeScan.Tree

/-! ## Reading single nodes -/

theorem lt_size_of_entry {t : Tree} {i : Nat} {e : Entry} (h : t.entry? i = some e) :
    i < t.nodes.size := by
  by_contra hi
  unfold entry? at h
  rw [Array.getElem?_eq_none (by omega)] at h
  cases h

theorem exists_entry?_of_lt {t : Tree} {i : Nat} (h : i < t.nodes.size) :
    ∃ e, t.entry? i = some e :=
  ⟨t.nodes[i].entry, by simp [h, entry?]⟩

theorem target?_eq_map (t : Tree) (i : Nat) : t.target? i = (t.entry? i).map (·.target) := by
  simp [target?, entry?, Function.comp_def]

theorem target?_of_entry {t : Tree} {i : Nat} {e : Entry} (h : t.entry? i = some e) :
    t.target? i = some e.target := by
  rw [target?_eq_map, h]
  rfl

theorem exists_entry?_of_target? {t : Tree} {i : Nat} {path : String}
    (h : t.target? i = some path) : ∃ e, t.entry? i = some e ∧ e.target = path := by
  rw [target?_eq_map] at h
  exact Option.map_eq_some_iff.1 h

theorem lt_size_of_target? {t : Tree} {i : Nat} {path : String} (h : t.target? i = some path) :
    i < t.nodes.size := by
  obtain ⟨e, he, -⟩ := exists_entry?_of_target? h
  exact lt_size_of_entry he

theorem lt_size_of_parent? {t : Tree} {i p : Nat} (h : t.parent? i = some p) :
    i < t.nodes.size := by
  by_contra hi
  rw [parent?, Array.getElem?_eq_none (by omega)] at h
  cases h

/-! ## Reading nodes after one more was attached -/

section Attach

variable {t : Tree} {parent : Nat} (e : Entry)

@[simp] theorem size_attach (t : Tree) (parent : Nat) (e : Entry) :
    (t.attach parent e).nodes.size = t.nodes.size + 1 := by
  simp [attach]

theorem nodesFor_attach (t : Tree) (parent : Nat) (e : Entry) (path : String) :
    (t.attach parent e).nodesFor path =
      if e.target = path then t.nodesFor path ++ [t.nodes.size] else t.nodesFor path :=
  t.byTarget.positions_record e.target path t.nodes.size

/-- The new node comes last, its parent gains a child, and all other nodes stay. -/
theorem getElem?_attach (hp : parent < t.nodes.size) (i : Nat) :
    (t.attach parent e).nodes[i]? =
      if i = t.nodes.size then some ⟨e, some parent, [], false⟩
      else if i = parent then
        t.nodes[i]?.map (fun n => { n with children := n.children ++ [t.nodes.size] })
      else t.nodes[i]? := by
  simp only [attach, Array.getElem?_modify, Array.getElem?_push]
  by_cases hi : i = t.nodes.size
  · simp [hi, show ¬ parent = t.nodes.size by omega]
  · by_cases hpi : i = parent
    · simp [hpi, show ¬ parent = t.nodes.size by omega]
    · simp [hpi, hi, show ¬ parent = i by omega]

theorem entry?_attach (hp : parent < t.nodes.size) (i : Nat) :
    entry? (t.attach parent e) i = if i = t.nodes.size then some e else t.entry? i := by
  unfold entry?
  rw [getElem?_attach e hp]
  split
  · rfl
  · split <;> simp [Function.comp_def]

theorem target?_attach (hp : parent < t.nodes.size) (i : Nat) :
    (t.attach parent e).target? i = if i = t.nodes.size then some e.target else t.target? i := by
  rw [target?_eq_map, entry?_attach e hp, target?_eq_map]
  split <;> rfl

theorem parent?_attach (hp : parent < t.nodes.size) (i : Nat) :
    (t.attach parent e).parent? i = if i = t.nodes.size then some parent else t.parent? i := by
  unfold parent?
  rw [getElem?_attach e hp]
  split
  · rfl
  · split
    · cases t.nodes[i]? <;> rfl
    · rfl

theorem isUsed_attach (hp : parent < t.nodes.size) (i : Nat) :
    (t.attach parent e).isUsed i = t.isUsed i := by
  unfold isUsed
  rw [getElem?_attach e hp]
  split
  · next h => simp [h]
  · split
    · cases t.nodes[i]? <;> rfl
    · rfl

theorem children_attach (hp : parent < t.nodes.size) (i : Nat) :
    (t.attach parent e).children i =
      if i = parent then t.children i ++ [t.nodes.size] else t.children i := by
  unfold children
  rw [getElem?_attach e hp]
  by_cases hi : i = t.nodes.size
  · simp [hi, show ¬ t.nodes.size = parent by omega]
  · by_cases hpi : i = parent
    · subst hpi
      simp [hi, hp]
    · simp [hi, hpi]

end Attach

/-! ## Well-formed trees -/

/-- The nodes of `t` form a tree for `file`, and the lists of children and of targets agree with
them. -/
structure WellFormed (file : String) (t : Tree) : Prop where
  root_entry : t.entry? 0 = some ⟨file, file, 0⟩
  root_parent : t.parent? 0 = none
  parent : ∀ {i : Nat} {e : Entry}, 0 < i → t.entry? i = some e →
    ∃ p < i, t.parent? i = some p ∧ t.target? p = some e.source
  children_eq : ∀ i,
    t.children i = (List.range t.nodes.size).filter (fun j => t.parent? j = some i)
  nodesFor_eq : ∀ path,
    t.nodesFor path = (List.range t.nodes.size).filter (fun j => 0 < j ∧ t.target? j = some path)
  entry_inj : ∀ {i j : Nat} {e : Entry}, 0 < i → 0 < j → t.entry? i = some e →
    t.entry? j = some e → i = j

namespace WellFormed

variable {file : String} {t : Tree} (wf : t.WellFormed file)
include wf

theorem target?_root : t.target? 0 = some file :=
  target?_of_entry wf.root_entry

theorem size_pos : 0 < t.nodes.size :=
  lt_size_of_entry wf.root_entry

theorem parent_lt {i p : Nat} (h : t.parent? i = some p) : p < i := by
  obtain ⟨e, he⟩ := exists_entry?_of_lt (lt_size_of_parent? h)
  have hi : 0 < i := by
    rcases Nat.eq_zero_or_pos i with rfl | hi
    · rw [wf.root_parent] at h
      cases h
    · exact hi
  obtain ⟨p', hlt, hp', -⟩ := wf.parent hi he
  rw [h] at hp'
  cases hp'
  exact hlt

theorem exists_parent? {i : Nat} (hi : 0 < i) (hlt : i < t.nodes.size) :
    ∃ p < i, t.parent? i = some p := by
  obtain ⟨e, he⟩ := exists_entry?_of_lt hlt
  obtain ⟨p, hp, h, -⟩ := wf.parent hi he
  exact ⟨p, hp, h⟩

theorem mem_children {i j : Nat} : j ∈ t.children i ↔ t.parent? j = some i := by
  rw [wf.children_eq, List.mem_filter, List.mem_range, decide_eq_true_iff]
  exact ⟨fun h => h.2, fun h => ⟨lt_size_of_parent? h, h⟩⟩

theorem mem_nodesFor {path : String} {i : Nat} :
    i ∈ t.nodesFor path ↔ 0 < i ∧ t.target? i = some path := by
  rw [wf.nodesFor_eq, List.mem_filter, List.mem_range, decide_eq_true_iff]
  exact ⟨fun h => h.2, fun h => ⟨lt_size_of_target? h.2, h⟩⟩

theorem of_eq {t' : Tree} (hn : t'.nodes = t.nodes) (hb : t'.byTarget = t.byTarget) :
    t'.WellFormed file := by
  obtain ⟨nodes, byTarget, unresolved, parked, batches⟩ := t
  obtain ⟨nodes', byTarget', unresolved', parked', batches'⟩ := t'
  obtain rfl : nodes' = nodes := hn
  obtain rfl : byTarget' = byTarget := hb
  exact ⟨wf.root_entry, wf.root_parent, wf.parent, wf.children_eq, wf.nodesFor_eq, wf.entry_inj⟩

section Attach

variable {p : Nat} {e : Entry} (hp : t.target? p = some e.source)
include hp

theorem parent_attach {i : Nat} {e' : Entry} (hi : 0 < i)
    (he' : entry? (t.attach p e) i = some e') :
    ∃ q, q < i ∧ (t.attach p e).parent? i = some q ∧
      (t.attach p e).target? q = some e'.source := by
  have hlt : p < t.nodes.size := lt_size_of_target? hp
  rw [entry?_attach e hlt] at he'
  rw [parent?_attach e hlt]
  by_cases h : i = t.nodes.size
  · rw [if_pos h] at he' ⊢
    cases he'
    refine ⟨p, by omega, rfl, ?_⟩
    rw [target?_attach e hlt, if_neg (by omega), hp]
  · rw [if_neg h] at he' ⊢
    obtain ⟨q, hq, hqi, hqt⟩ := wf.parent hi he'
    have := lt_size_of_entry he'
    refine ⟨q, hq, hqi, ?_⟩
    rw [target?_attach e hlt, if_neg (by omega), hqt]

theorem children_eq_attach (i : Nat) :
    (t.attach p e).children i = (List.range (t.attach p e).nodes.size).filter
      (fun j => (t.attach p e).parent? j = some i) := by
  have hlt : p < t.nodes.size := lt_size_of_target? hp
  have hold : (List.range t.nodes.size).filter (fun j => (t.attach p e).parent? j = some i) =
      t.children i := by
    rw [wf.children_eq]
    refine List.filter_congr fun j hj => ?_
    rw [parent?_attach e hlt, if_neg (Nat.ne_of_lt (List.mem_range.1 hj))]
  rw [children_attach e hlt, size_attach, List.range_succ, List.filter_append, hold]
  by_cases h : i = p
  · simp [h, parent?_attach e hlt]
  · simp [h, parent?_attach e hlt, show ¬ p = i from fun h' => h h'.symm]

theorem nodesFor_eq_attach (path : String) :
    (t.attach p e).nodesFor path = (List.range (t.attach p e).nodes.size).filter
      (fun j => 0 < j ∧ (t.attach p e).target? j = some path) := by
  have hlt : p < t.nodes.size := lt_size_of_target? hp
  have hold : (List.range t.nodes.size).filter
      (fun j => 0 < j ∧ (t.attach p e).target? j = some path) = t.nodesFor path := by
    rw [wf.nodesFor_eq]
    refine List.filter_congr fun j hj => ?_
    rw [target?_attach e hlt, if_neg (Nat.ne_of_lt (List.mem_range.1 hj))]
  rw [nodesFor_attach, size_attach, List.range_succ, List.filter_append, hold]
  by_cases h : e.target = path
  · simp [h, target?_attach e hlt, wf.size_pos]
  · simp [h, target?_attach e hlt]

theorem entry_inj_attach (hnew : ∀ i, 0 < i → t.entry? i ≠ some e) {i j : Nat} {e' : Entry}
    (hi : 0 < i) (hj : 0 < j) (hie : entry? (t.attach p e) i = some e')
    (hje : entry? (t.attach p e) j = some e') : i = j := by
  have hlt : p < t.nodes.size := lt_size_of_target? hp
  rw [entry?_attach e hlt] at hie hje
  by_cases hi' : i = t.nodes.size <;> by_cases hj' : j = t.nodes.size
  · omega
  · rw [if_pos hi'] at hie
    rw [if_neg hj'] at hje
    cases hie
    exact absurd hje (hnew j hj)
  · rw [if_neg hi'] at hie
    rw [if_pos hj'] at hje
    cases hje
    exact absurd hie (hnew i hi)
  · rw [if_neg hi'] at hie
    rw [if_neg hj'] at hje
    exact wf.entry_inj hi hj hie hje

theorem attach (hnew : ∀ i, 0 < i → t.entry? i ≠ some e) : (t.attach p e).WellFormed file := by
  have hlt : p < t.nodes.size := lt_size_of_target? hp
  have hpos := wf.size_pos
  refine ⟨?_, ?_, wf.parent_attach hp, wf.children_eq_attach hp, wf.nodesFor_eq_attach hp,
    wf.entry_inj_attach hp hnew⟩
  · rw [entry?_attach e hlt, if_neg (by omega), wf.root_entry]
  · rw [parent?_attach e hlt, if_neg (by omega), wf.root_parent]

end Attach

end WellFormed

theorem wellFormed_ofFile (file : String) : (ofFile file).WellFormed file := by
  have hone : ∀ {i : Nat} {e : Entry}, entry? (ofFile file) i = some e → i = 0 := by
    intro i e h
    have := lt_size_of_entry h
    have : (ofFile file).nodes.size = 1 := rfl
    omega
  refine ⟨rfl, rfl, ?_, ?_, ?_, ?_⟩
  · intro i e hi he
    have := hone he
    omega
  · intro i
    cases i with
    | zero => rfl
    | succ i => rfl
  · intro path
    rfl
  · intro i j e hi hj hie hje
    rw [hone hie, hone hje]

end IncludeScan.Tree
