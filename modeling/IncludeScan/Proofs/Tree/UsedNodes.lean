import IncludeScan.Proofs.Tree.Calls
import Mathlib.Logic.Function.Iterate

/-!
The used nodes of a tree over any calls that use it.

A walk that marks a subtree goes no further at a node that is used already. That is right as long as
everything below a used node is used, and every call keeps it so (`MarkedFrom.downClosed`), whether
it marks inner nodes, root includes or the choices of batches. Of the walk itself two things are
said: the order in which it takes the waiting nodes does not matter (`markAll_congr`), and step by
step it comes to an end (`exists_iterate_walkStep`).
-/

set_option autoImplicit false

namespace IncludeScan.Tree

/-! ## The order of a walk -/

theorem SameShape.eq {t t' : Tree} (h : SameShape t t') (hb : t'.batches = t.batches)
    (hu : ∀ i, t'.isUsed i = t.isUsed i) : t' = t := by
  have hnodes : t'.nodes = t.nodes := by
    refine Array.ext h.size_eq fun i hi' hi => ?_
    have hentry := h.entry_eq i
    have hparent := h.parent_eq i
    have hchildren := h.children_eq i
    have hused := hu i
    simp only [parent?, entry?, children, isUsed, Array.getElem?_eq_getElem hi',
      Array.getElem?_eq_getElem hi, Option.map_some, Option.bind_some, Option.getD_some,
      Option.some.injEq] at hentry hparent hchildren hused
    calc t'.nodes[i] = ⟨t'.nodes[i].entry, t'.nodes[i].parent, t'.nodes[i].children,
          t'.nodes[i].used⟩ := rfl
      _ = ⟨t.nodes[i].entry, t.nodes[i].parent, t.nodes[i].children, t.nodes[i].used⟩ := by
          rw [hentry, hparent, hchildren, hused]
      _ = t.nodes[i] := rfl
  obtain ⟨nodes, byTarget, unresolved, parked, batches⟩ := t
  obtain ⟨nodes', byTarget', unresolved', parked', batches'⟩ := t'
  obtain rfl : nodes' = nodes := hnodes
  obtain rfl : byTarget' = byTarget := h.byTarget_eq
  obtain rfl : unresolved' = unresolved := h.unresolved_eq
  obtain rfl : parked' = parked := h.parked_eq
  obtain rfl : batches' = batches := hb
  rfl

theorem markAll_congr {file : String} {t : Tree} (wf : t.WellFormed file) {work work' : List Nat}
    (hw : t.Awaits work) (hmem : ∀ i, i ∈ work' ↔ i ∈ work) :
    t.markAll work' = t.markAll work := by
  have hw' : t.Awaits work' := fun i j hi hp => (hw i j hi hp).imp_right (hmem j).2
  have hs := sameShape_markAll t work
  have hs' := sameShape_markAll t work'
  have hshape : SameShape (t.markAll work) (t.markAll work') := hs.symm.trans hs'
  refine hshape.eq ?_ fun j => ?_
  · rw [batches_markAll, batches_markAll]
  · rw [Bool.eq_iff_iff, isUsed_markAll wf hw', isUsed_markAll wf hw]
    simp only [hmem]

/-! ## The walk step by step -/

/-- One step of a walk with a stack of nodes to visit: the node on top is taken off, and if it was
not used, it is marked and its children are put on top, the last one uppermost. -/
def walkStep : Tree × List Nat → Tree × List Nat
  | (t, []) => (t, [])
  | (t, i :: rest) =>
    match t.nodes[i]? with
    | none => (t, rest)
    | some n => if n.used then (t, rest) else (t.setUsed i, n.children.reverse ++ rest)

def walkBound (w : Tree × List Nat) : Nat :=
  w.2.length + openChildren w.1.nodes.toList

theorem markAll_cons_of_used {t : Tree} {i : Nat} (h : ∀ n, t.nodes[i]? = some n → n.used = true)
    (rest : List Nat) : t.markAll (i :: rest) = t.markAll rest := by
  rw [markAll]
  split
  · rfl
  · next n hn => rw [dif_pos (h n hn)]

theorem markAll_cons_of_unused {t : Tree} {i : Nat} {n : Node} (h : t.nodes[i]? = some n)
    (hu : n.used = false) (rest : List Nat) :
    t.markAll (i :: rest) = (t.setUsed i).markAll (n.children ++ rest) := by
  rw [markAll]
  split
  · next hnone =>
    rw [h] at hnone
    cases hnone
  · next n' hn' =>
    obtain rfl : n = n' := Option.some.inj (h.symm.trans hn')
    rw [dif_neg (by simp [hu])]

theorem walkStep_of_used {t : Tree} {i : Nat} (h : ∀ n, t.nodes[i]? = some n → n.used = true)
    (rest : List Nat) : walkStep (t, i :: rest) = (t, rest) := by
  rw [walkStep]
  split
  · rfl
  · next n hn => rw [if_pos (h n hn)]

theorem walkStep_of_unused {t : Tree} {i : Nat} {n : Node} (h : t.nodes[i]? = some n)
    (hu : n.used = false) (rest : List Nat) :
    walkStep (t, i :: rest) = (t.setUsed i, n.children.reverse ++ rest) := by
  simp only [walkStep, h, hu, Bool.false_eq_true, if_false]

theorem walkStep_spec {file : String} {t : Tree} (wf : t.WellFormed file) {i : Nat}
    {rest : List Nat} (hw : t.Awaits (i :: rest)) :
    ∃ t' work, walkStep (t, i :: rest) = (t', work) ∧ t'.WellFormed file ∧ t'.Awaits work ∧
      t'.markAll work = t.markAll (i :: rest) ∧
      walkBound (t', work) < walkBound (t, i :: rest) := by
  by_cases hused : ∀ n, t.nodes[i]? = some n → n.used = true
  · refine ⟨t, rest, walkStep_of_used hused rest, wf, hw.of_used hused,
      (markAll_cons_of_used hused rest).symm, ?_⟩
    simp only [walkBound, List.length_cons]
    omega
  · push Not at hused
    obtain ⟨n, hn, hu⟩ := hused
    have hu : n.used = false := eq_false_of_ne_true hu
    -- The step puts the children on the stack in reverse; only which nodes wait matters.
    have hmem : ∀ k, k ∈ n.children.reverse ++ rest ↔ k ∈ n.children ++ rest := by
      intro k
      rw [List.mem_append, List.mem_append, List.mem_reverse]
    have hwf := (sameShape_setUsed t i).wellFormed wf
    have hw' := hw.setUsed wf hn
    refine ⟨t.setUsed i, n.children.reverse ++ rest, walkStep_of_unused hn hu rest, hwf, ?_, ?_, ?_⟩
    · exact fun k j hk hp => (hw' k j hk hp).imp_right (hmem j).2
    · rw [markAll_cons_of_unused hn hu, markAll_congr hwf hw' hmem]
    · have hget : t.nodes.toList[i]? = some n := by simpa using hn
      have hopen := openChildren_modify hget hu
      simp only [walkBound, Tree.setUsed, Array.toList_modify, List.length_append,
        List.length_reverse, List.length_cons]
      omega

theorem exists_iterate_walkStep {file : String} {t : Tree} (wf : t.WellFormed file)
    {work : List Nat} (hw : t.Awaits work) :
    ∃ n ≤ walkBound (t, work), walkStep^[n] (t, work) = (t.markAll work, []) := by
  -- Marked nodes never come back, so the induction is on the bound and not on the work list.
  induction hb : walkBound (t, work) using Nat.strongRecOn generalizing t work with
  | ind bound ih =>
    cases work with
    | nil => exact ⟨0, Nat.zero_le _, by rw [Function.iterate_zero_apply, markAll]⟩
    | cons i rest =>
      obtain ⟨t', work, hstep, wf', hw', hend, hlt⟩ := walkStep_spec wf hw
      obtain ⟨n, hn, hrun⟩ := ih _ (hb ▸ hlt) wf' hw' rfl
      refine ⟨n + 1, by omega, ?_⟩
      rw [Function.iterate_succ_apply, hstep, hrun, hend]

/-! ## Calls that use a tree -/

theorem MarkedFrom.isUsed_mono {t t' : Tree} (h : MarkedFrom t t') {i : Nat}
    (hi : t.isUsed i = true) : t'.isUsed i = true := by
  induction h with
  | refl => exact hi
  | mark _ _ ih => exact isUsed_markAll_mono ih
  | batches _ _ ih => exact ih

theorem MarkedFrom.downClosed {file : String} {t t' : Tree} (h : MarkedFrom t t')
    (wf : t.WellFormed file) (hd : t.DownClosed) : t'.DownClosed := by
  induction h with
  | refl => exact hd
  | mark h i ih => exact downClosed_markAll (h.sameShape.wellFormed wf) (ih.awaits [i])
  | batches _ _ ih => exact ih

theorem markedFrom_foldl (t : Tree) (uses : List Usage) :
    MarkedFrom t (uses.foldl Usage.apply t) := by
  induction uses generalizing t with
  | nil => exact .refl
  | cons u uses ih => exact (u.markedFrom t).trans (ih (u.apply t))

theorem downClosed_build (file : String) (es : List Entry) : (build file es).DownClosed := by
  intro i j hi
  rw [(build_collects file es).unused i] at hi
  cases hi

/-- After any calls that use a built tree: no later call takes back a mark, everything below a used
node is used, and marking a node comes to an end step by step, makes used exactly what was used and
the nodes at or below the marked one, and changes nothing but marks. -/
theorem marking_exact (file : String) (es : List Entry) (uses : List Usage) :
    let t := uses.foldl Usage.apply (build file es)
    (∀ (later : List Usage) i, t.isUsed i = true →
        (later.foldl Usage.apply t).isUsed i = true) ∧
      (∀ i j, t.isUsed i = true → t.Below i j → t.isUsed j = true) ∧
      ∀ i < t.nodes.size,
        (∃ n ≤ walkBound (t, [i]), walkStep^[n] (t, [i]) = (t.mark i, [])) ∧
        (∀ j, (t.mark i).isUsed j = true ↔ t.isUsed j = true ∨ t.Below i j) ∧
        SameShape t (t.mark i) ∧ (t.mark i).batches = t.batches := by
  intro t
  have hmarked : MarkedFrom (build file es) t := markedFrom_foldl _ uses
  have wf : t.WellFormed file := hmarked.sameShape.wellFormed (build_wellFormed file es)
  have hclosed : t.DownClosed :=
    hmarked.downClosed (build_wellFormed file es) (downClosed_build file es)
  refine ⟨fun later i hi => (markedFrom_foldl t later).isUsed_mono hi,
    fun i j hi hb => hclosed.below hi hb, fun i hi => ?_⟩
  exact ⟨exists_iterate_walkStep wf (hclosed.awaits [i]), isUsed_mark wf hclosed hi,
    sameShape_markAll t [i], batches_markAll t [i]⟩

def nestedHeaders : List Entry :=
  [⟨"/F.m", "/A.h", 1⟩, ⟨"/A.h", "/B.h", 1⟩, ⟨"/B.h", "/C.h", 1⟩, ⟨"/A.h", "/S.h", 2⟩,
    ⟨"/F.m", "/D.h", 2⟩, ⟨"/D.h", "/S.h", 1⟩]

theorem marking_above_used_exact :
    let t := [Usage.mark 2, .findNode "/S.h"].foldl Usage.apply (build "/F.m" nestedHeaders)
    1 < t.nodes.size ∧ t.isUsed 3 = true ∧ t.batches = [[4, 6]] ∧
      (∃ n, walkStep^[n] (t, [1]) = (t.mark 1, [])) ∧ (t.mark 1).isUsed 4 = true ∧
      ¬ t.Below 1 6 ∧ (t.mark 1).batches = [[4, 6]] := by
  intro t
  have hsize : 1 < t.nodes.size := by decide +kernel
  have hused : t.isUsed 3 = true := by decide +kernel
  have hbatches : t.batches = [[4, 6]] := by decide +kernel
  have hother : (t.mark 1).isUsed 6 = false := by decide +kernel
  have hparent : t.parent? 4 = some 1 := by decide +kernel
  obtain ⟨-, -, hmark⟩ :=
    marking_exact "/F.m" nestedHeaders [Usage.mark 2, .findNode "/S.h"]
  obtain ⟨⟨n, -, hwalk⟩, hexact, -, hsame⟩ := hmark 1 hsize
  refine ⟨hsize, hused, hbatches, ⟨n, hwalk⟩, (hexact 4).2 (.inr (.step hparent .refl)),
    fun hb => ?_, hsame.trans hbatches⟩
  rw [(hexact 6).2 (.inr hb)] at hother
  cases hother

end IncludeScan.Tree
