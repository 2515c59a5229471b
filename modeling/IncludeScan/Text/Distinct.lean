/-!
The first member of a list for each value of a key.
-/

set_option autoImplicit false

namespace IncludeScan

variable {α κ : Type} [DecidableEq κ]

/-- Keeps a member when no earlier one has its key. -/
def firstBy (key : α → κ) : List α → List α
  | [] => []
  | x :: xs => x :: (firstBy key xs).filter (fun y => key y ≠ key x)

@[simp] theorem firstBy_nil (key : α → κ) : firstBy key [] = [] := rfl

theorem mem_of_mem_firstBy {key : α → κ} {x : α} {xs : List α} (h : x ∈ firstBy key xs) :
    x ∈ xs := by
  induction xs with
  | nil => exact h
  | cons y ys ih =>
    simp only [firstBy, List.mem_cons, List.mem_filter] at h
    obtain rfl | ⟨h, -⟩ := h
    · exact List.mem_cons_self
    · exact List.mem_cons_of_mem _ (ih h)

theorem nodup_map_firstBy (key : α → κ) (xs : List α) : ((firstBy key xs).map key).Nodup := by
  induction xs with
  | nil => exact List.nodup_nil
  | cons x xs ih =>
    simp only [firstBy, List.map_cons, List.nodup_cons, List.mem_map, List.mem_filter]
    refine ⟨fun ⟨y, ⟨_, hy⟩, hk⟩ => by simp [hk] at hy, ?_⟩
    exact ih.sublist (List.filter_sublist.map key)

theorem exists_mem_firstBy {key : α → κ} {x : α} {xs : List α} (h : x ∈ xs) :
    ∃ y ∈ firstBy key xs, key y = key x := by
  induction xs with
  | nil => cases h
  | cons z zs ih =>
    by_cases hz : key z = key x
    · exact ⟨z, by simp [firstBy], hz⟩
    · obtain rfl | h := List.mem_cons.1 h
      · exact absurd rfl hz
      · obtain ⟨y, hy, hk⟩ := ih h
        refine ⟨y, List.mem_cons_of_mem _ (List.mem_filter.2 ⟨hy, ?_⟩), hk⟩
        simpa [hk] using fun e => hz e.symm

theorem mem_firstBy_id {x : κ} {xs : List κ} : x ∈ firstBy id xs ↔ x ∈ xs := by
  refine ⟨mem_of_mem_firstBy, fun h => ?_⟩
  obtain ⟨y, hy, hk⟩ : ∃ y ∈ firstBy id xs, id y = id x := exists_mem_firstBy h
  rwa [show y = x from hk] at hy

theorem firstBy_concat (key : α → κ) (xs : List α) (x : α) :
    firstBy key (xs ++ [x]) =
      if key x ∈ xs.map key then firstBy key xs else firstBy key xs ++ [x] := by
  induction xs with
  | nil => rfl
  | cons y ys ih =>
    rw [List.cons_append, firstBy, ih, firstBy, List.map_cons]
    by_cases hy : key x = key y
    · rw [if_pos (List.mem_cons.2 (.inl hy))]
      split
      · rfl
      · rw [List.filter_append]
        simp [hy]
    · by_cases hys : key x ∈ ys.map key
      · rw [if_pos hys, if_pos (List.mem_cons.2 (.inr hys))]
      · rw [if_neg hys, if_neg (by simpa [hy] using hys), List.filter_append, List.cons_append]
        simp [hy]

theorem mem_map_firstBy {key : α → κ} {k : κ} {xs : List α} :
    k ∈ (firstBy key xs).map key ↔ k ∈ xs.map key := by
  constructor
  · intro h
    obtain ⟨x, hx, rfl⟩ := List.mem_map.1 h
    exact List.mem_map.2 ⟨x, mem_of_mem_firstBy hx, rfl⟩
  · intro h
    obtain ⟨x, hx, rfl⟩ := List.mem_map.1 h
    exact List.mem_map.2 (exists_mem_firstBy hx)

theorem firstBy_append (key : α → κ) (xs ys : List α) :
    firstBy key (xs ++ ys) =
      firstBy key xs ++ (firstBy key ys).filter (fun y => key y ∉ xs.map key) := by
  induction xs with
  | nil => exact (List.filter_eq_self.2 fun _ _ => by simp).symm
  | cons x xs ih =>
    rw [List.cons_append, firstBy, ih, firstBy, List.filter_append, List.filter_filter,
      List.cons_append]
    simp only [List.map_cons, List.mem_cons, not_or, Bool.decide_and]

theorem firstBy_append_of_subset {key : α → κ} {xs ys : List α} (h : ys ⊆ xs) :
    firstBy key (xs ++ ys) = firstBy key xs := by
  have hnone : (firstBy key ys).filter (fun y => key y ∉ xs.map key) = [] := by
    refine List.filter_eq_nil_iff.2 fun y hy => ?_
    simpa using ⟨y, h (mem_of_mem_firstBy hy), rfl⟩
  rw [firstBy_append, hnone, List.append_nil]

theorem firstBy_append_congr {key : α → κ} {xs xs' ys ys' : List α}
    (hx : firstBy key xs = firstBy key xs') (hy : firstBy key ys = firstBy key ys') :
    firstBy key (xs ++ ys) = firstBy key (xs' ++ ys') := by
  have hkeys : ∀ k, k ∈ xs.map key ↔ k ∈ xs'.map key := by
    intro k
    rw [← mem_map_firstBy, hx, mem_map_firstBy]
  rw [firstBy_append, firstBy_append, hx, hy]
  simp only [hkeys]

theorem firstBy_flatMap_congr {β : Type} {key : α → κ} {f g : β → List α} {bs : List β}
    (h : ∀ b ∈ bs, firstBy key (f b) = firstBy key (g b)) :
    firstBy key (bs.flatMap f) = firstBy key (bs.flatMap g) := by
  induction bs with
  | nil => rfl
  | cons b bs ih =>
    rw [List.flatMap_cons, List.flatMap_cons]
    exact firstBy_append_congr (h b List.mem_cons_self)
      (ih fun b' hb' => h b' (List.mem_cons_of_mem _ hb'))

theorem firstBy_filter {key : α → κ} {q : α → Bool} (hq : ∀ x y, key x = key y → q x = q y)
    (xs : List α) : firstBy key (xs.filter q) = (firstBy key xs).filter q := by
  induction xs with
  | nil => rfl
  | cons x xs ih =>
    by_cases hx : q x = true
    · rw [List.filter_cons_of_pos hx, firstBy, ih, firstBy, List.filter_cons_of_pos hx,
        List.filter_filter, List.filter_filter]
      simp only [Bool.and_comm]
    · rw [List.filter_cons_of_neg hx, ih, firstBy, List.filter_cons_of_neg hx, List.filter_filter]
      refine List.filter_congr fun y _ => ?_
      by_cases hy : q y = true
      · have hne : key y ≠ key x := fun heq => hx (hq y x heq ▸ hy)
        simp [hy, hne]
      · simp [hy]

theorem firstBy_sublist (key : α → κ) (xs : List α) : (firstBy key xs).Sublist xs := by
  induction xs with
  | nil => exact .slnil
  | cons x xs ih => exact (List.filter_sublist.trans ih).cons_cons x

/-- The members kept stand in the order in which their keys come first. -/
theorem pairwise_idxOf_firstBy (key : α → κ) (xs : List α) :
    (firstBy key xs).Pairwise
      (fun x y => (xs.map key).idxOf (key x) < (xs.map key).idxOf (key y)) := by
  induction xs with
  | nil => exact .nil
  | cons x xs ih =>
    have hlater : ∀ y ∈ (firstBy key xs).filter (fun y => key y ≠ key x),
        ((x :: xs).map key).idxOf (key y) = (xs.map key).idxOf (key y) + 1 := by
      intro y hy
      have hne : key x ≠ key y := fun heq => of_decide_eq_true (List.mem_filter.1 hy).2 heq.symm
      rw [List.map_cons, List.idxOf_cons, beq_false_of_ne hne, cond_false]
    rw [firstBy, List.pairwise_cons]
    constructor
    · intro y hy
      rw [hlater y hy, List.map_cons, List.idxOf_cons_self]
      exact Nat.succ_pos _
    · refine (ih.filter _).imp_of_mem fun {y z} hy hz hlt => ?_
      rw [hlater y hy, hlater z hz]
      exact Nat.succ_lt_succ hlt

theorem head?_firstBy (key : α → κ) (xs : List α) : (firstBy key xs).head? = xs.head? := by
  cases xs <;> rfl

theorem find?_firstBy {key : α → κ} {q : α → Bool} (hq : ∀ x y, key x = key y → q x = q y)
    (xs : List α) : (firstBy key xs).find? q = xs.find? q := by
  rw [← List.head?_filter, ← firstBy_filter hq, head?_firstBy, List.head?_filter]

end IncludeScan
