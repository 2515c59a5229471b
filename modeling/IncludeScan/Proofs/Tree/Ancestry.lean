import IncludeScan.Proofs.Tree.Shape
import IncludeScan.Tree.Usage

/-!
Ancestors in an include tree, and the root include above a node.

In a well-formed tree the climb from a node to its root include ends at the one child of the root
below which the node stands (`WellFormed.below_iff`).
-/

set_option autoImplicit false

namespace IncludeScan.Tree

/-- Node `j` stands at or below node `i`. -/
inductive Below (t : Tree) (i : Nat) : Nat → Prop
  | refl : Below t i i
  | step {p j : Nat} : t.parent? j = some p → Below t i p → Below t i j

theorem Below.trans {t : Tree} {i j k : Nat} (hij : t.Below i j) (hjk : t.Below j k) :
    t.Below i k := by
  induction hjk with
  | refl => exact hij
  | step hp _ ih => exact .step hp ih

theorem Below.congr {t t' : Tree} (h : ∀ i, t'.parent? i = t.parent? i) {i j : Nat}
    (hij : t.Below i j) : t'.Below i j := by
  induction hij with
  | refl => exact .refl
  | step hp _ ih => exact .step ((h _).trans hp) ih

theorem Below.lt_size {t : Tree} {i j : Nat} (h : t.Below i j) (hi : i < t.nodes.size) :
    j < t.nodes.size := by
  cases h with
  | refl => exact hi
  | step hp _ => exact lt_size_of_parent? hp

def belowWithin (t : Tree) (i : Nat) : Nat → Nat → Bool
  | 0, j => i == j
  | n + 1, j => i == j || (t.parent? j).any (t.belowWithin i n)

theorem rootInclude_congr {t t' : Tree} (h : ∀ i, t'.parent? i = t.parent? i) (i : Nat) :
    t'.rootInclude i = t.rootInclude i := by
  induction i using Nat.strongRecOn with
  | ind i ih =>
    unfold rootInclude
    rw [h i]
    cases hp : t.parent? i with
    | none => rfl
    | some p =>
      simp only [h p]
      by_cases hlt : p < i
      · simp only [hlt, if_true, ih p hlt]
      · simp only [hlt, if_false]

namespace WellFormed

variable {file : String} {t : Tree} (wf : t.WellFormed file)
include wf

theorem pos_of_parent? {i p : Nat} (h : t.parent? i = some p) : 0 < i :=
  Nat.zero_lt_of_lt (wf.parent_lt h)

theorem le_of_below {i j : Nat} (h : t.Below i j) : i ≤ j := by
  induction h with
  | refl => exact Nat.le_refl i
  | step hp _ ih =>
    have := wf.parent_lt hp
    omega

/-- Parents come first, so that a node is climbed from in no more steps than its number. -/
theorem belowWithin_iff (i : Nat) {n j : Nat} (hj : j ≤ n) :
    t.belowWithin i n j = true ↔ t.Below i j := by
  induction n generalizing j with
  | zero =>
    obtain rfl : j = 0 := Nat.le_zero.1 hj
    rw [belowWithin, beq_iff_eq]
    refine ⟨fun h => h ▸ .refl, fun h => ?_⟩
    cases h with
    | refl => rfl
    | step hp _ => exact absurd (wf.pos_of_parent? hp) (Nat.lt_irrefl 0)
  | succ n ih =>
    rw [belowWithin, Bool.or_eq_true, beq_iff_eq, Option.any_eq_true]
    constructor
    · rintro (rfl | ⟨p, hp, hb⟩)
      · exact .refl
      · have hlt := wf.parent_lt hp
        exact .step hp ((ih (by omega)).1 hb)
    · intro h
      cases h with
      | refl => exact .inl rfl
      | step hp hb =>
        have hlt := wf.parent_lt hp
        exact .inr ⟨_, hp, (ih (by omega)).2 hb⟩

theorem rootInclude_of_child {r : Nat} (h : t.parent? r = some 0) : t.rootInclude r = r := by
  unfold rootInclude
  rw [h]
  simp [wf.root_parent]

theorem rootInclude_of_parent {i p : Nat} (h : t.parent? i = some p) (hp : 0 < p) :
    t.rootInclude i = t.rootInclude p := by
  have hlt := wf.parent_lt h
  obtain ⟨q, -, hq⟩ := wf.exists_parent? hp (Nat.lt_trans hlt (lt_size_of_parent? h))
  rw [rootInclude, h]
  simp [hq, hlt]

theorem parent?_rootInclude {i : Nat} (hi : 0 < i) (hlt : i < t.nodes.size) :
    t.parent? (t.rootInclude i) = some 0 := by
  induction i using Nat.strongRecOn with
  | ind i ih =>
    obtain ⟨p, hp, h⟩ := wf.exists_parent? hi hlt
    rcases Nat.eq_zero_or_pos p with rfl | hpos
    · rw [wf.rootInclude_of_child h]
      exact h
    · rw [wf.rootInclude_of_parent h hpos]
      exact ih p hp hpos (Nat.lt_trans hp hlt)

theorem below_rootInclude {i : Nat} (hi : 0 < i) (hlt : i < t.nodes.size) :
    t.Below (t.rootInclude i) i := by
  induction i using Nat.strongRecOn with
  | ind i ih =>
    obtain ⟨p, hp, h⟩ := wf.exists_parent? hi hlt
    rcases Nat.eq_zero_or_pos p with rfl | hpos
    · rw [wf.rootInclude_of_child h]
      exact .refl
    · rw [wf.rootInclude_of_parent h hpos]
      exact .step h (ih p hp hpos (Nat.lt_trans hp hlt))

theorem rootInclude_of_below {r i : Nat} (hr : t.parent? r = some 0) (h : t.Below r i) :
    t.rootInclude i = r := by
  induction h with
  | refl => exact wf.rootInclude_of_child hr
  | step hp hb ih =>
    have hpos : 0 < r := wf.pos_of_parent? hr
    have hle := wf.le_of_below hb
    rw [wf.rootInclude_of_parent hp (by omega), ih]

/-- The nodes below a direct include are those whose root include it is. -/
theorem below_iff {r i : Nat} (hr : t.parent? r = some 0) (hi : 0 < i) (hlt : i < t.nodes.size) :
    t.Below r i ↔ t.rootInclude i = r :=
  ⟨wf.rootInclude_of_below hr, fun h => h ▸ wf.below_rootInclude hi hlt⟩

end WellFormed
end IncludeScan.Tree
