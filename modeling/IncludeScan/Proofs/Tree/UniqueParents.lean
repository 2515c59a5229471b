import IncludeScan.Proofs.Tree.Growth

/-!
Trees in which every directive has one place to go.

Where no included file that includes others is included by two different directives, a directive
whose source is reached can hang below one node only. The shape of the built tree is then a matter
of the directives alone: which directive stands above which (`above_build_iff`) and which ones stay
parked (`parked_build`) is said without the order in which they came. Headers that include nothing
may be shared, and directives may be repeated.
-/

set_option autoImplicit false

namespace IncludeScan.Tree

/-- A directive stands right above another one: these are the directives of a node and of one of
its children. -/
def Above (t : Tree) (a b : Entry) : Prop :=
  ∃ p i, t.entry? p = some a ∧ t.entry? i = some b ∧ i ∈ t.children p

/-- No directive includes its own source or the analyzed file, and a file that includes others is
included by at most one of the directives. -/
structure UniqueParents (file : String) (es : List Entry) : Prop where
  source_ne_target : ∀ e ∈ es, e.source ≠ e.target
  target_ne_file : ∀ e ∈ es, e.target ≠ file
  including_eq : ∀ a ∈ es, ∀ b ∈ es, ∀ e ∈ es, a.target = e.source → b.target = e.source → a = b

theorem UniqueParents.perm {file : String} {es es' : List Entry} (h : UniqueParents file es)
    (hperm : es'.Perm es) : UniqueParents file es' where
  source_ne_target e he := h.source_ne_target e (hperm.mem_iff.1 he)
  target_ne_file e he := h.target_ne_file e (hperm.mem_iff.1 he)
  including_eq a ha b hb e he :=
    h.including_eq a (hperm.mem_iff.1 ha) b (hperm.mem_iff.1 hb) e (hperm.mem_iff.1 he)

/-! ## Attached and parked directives -/

section Build

variable {file : String} {es : List Entry} (hself : ∀ e ∈ es, e.source ≠ e.target)
include hself

theorem exists_entry?_build_iff (e : Entry) :
    (∃ i, entry? (build file es) i = some e) ↔
      e = ⟨file, file, 0⟩ ∨ e ∈ es ∧ Reaches es file e.source := by
  have hc := build_collects file es
  have hgrow : e.source ≠ e.target → ((∃ i, entry? (build file es) i = some e) ↔
      e ∈ es ∧ Reaches es file e.source) := by
    intro hne
    rw [build_eq_grow, exists_entry?_grow_iff hne, brought_map_add]
  constructor
  · rintro ⟨i, hi⟩
    rcases Nat.eq_zero_or_pos i with rfl | hpos
    · rw [hc.wellFormed.root_entry] at hi
      exact .inl (Option.some.inj hi).symm
    · exact .inr ((hgrow (hself e (hc.attached_mem hpos hi))).1 ⟨i, hi⟩)
  · rintro (rfl | hreached)
    · exact ⟨0, hc.wellFormed.root_entry⟩
    · exact (hgrow (hself e hreached.1)).2 hreached

theorem parked_build :
    (build file es).parked = es.filter (fun e => ¬ Reaches es file e.source) := by
  have hfar : ∀ e ∈ (build file es).parked, ¬ Reaches es file e.source := by
    intro e he
    have hne := hself e ((build_collects file es).parked_mem he)
    rw [build_eq_grow] at he
    have hout := not_reaches_of_parked hne he
    rwa [brought_map_add] at hout
  have hparked := filter_parked_grow file (es.map .add ++ [.retry])
    (P := fun e => e ∈ es ∧ ¬ Reaches es file e.source) (fun e he => by
      obtain ⟨hmem, hout⟩ := of_decide_eq_true he
      rw [brought_retry, brought_map_add]
      exact ⟨hself e hmem, hout⟩)
  rw [← build_eq_grow, brought_retry, brought_map_add] at hparked
  calc (build file es).parked
      = (build file es).parked.filter (fun e => e ∈ es ∧ ¬ Reaches es file e.source) := by
        refine (List.filter_eq_self.2 fun e he => decide_eq_true ?_).symm
        exact ⟨(build_collects file es).parked_mem he, hfar e he⟩
    _ = es.filter (fun e => e ∈ es ∧ ¬ Reaches es file e.source) := hparked
    _ = es.filter (fun e => ¬ Reaches es file e.source) :=
        List.filter_congr fun e he => by simp only [he, true_and]

end Build

/-! ## The shape of the tree -/

theorem above_build_iff {file : String} {es : List Entry} (h : UniqueParents file es)
    (a b : Entry) :
    (build file es).Above a b ↔ (∃ i, entry? (build file es) i = some a) ∧
      a.target = b.source ∧ b ∈ es ∧ Reaches es file b.source := by
  have hc := build_collects file es
  have wf := hc.wellFormed
  constructor
  · rintro ⟨p, i, ha, hb, hi⟩
    have hparent := wf.mem_children.1 hi
    have hpos := wf.pos_of_parent? hparent
    obtain ⟨q, -, hq, htarget⟩ := wf.parent hpos hb
    obtain rfl : p = q := Option.some.inj (hparent.symm.trans hq)
    rw [target?_of_entry ha] at htarget
    exact ⟨⟨p, ha⟩, Option.some.inj htarget, hc.attached_mem hpos hb, hc.reaches_source hpos hb⟩
  · rintro ⟨⟨k, ha⟩, hab, hb, hreach⟩
    obtain ⟨i, hi⟩ := (exists_entry?_build_iff h.source_ne_target b).2 (.inr ⟨hb, hreach⟩)
    have hpos := wf.pos_of_entry (h.source_ne_target b hb) hi
    obtain ⟨p, -, hparent, htarget⟩ := wf.parent hpos hi
    obtain ⟨a', ha', hab'⟩ := exists_entry?_of_target? htarget
    -- the node above may be the root or not, and the same holds of the given one
    have hroot : ∀ {j e}, entry? (build file es) j = some e → (0 < j ↔ e.target ≠ file) := by
      intro j e he
      refine ⟨fun hj => h.target_ne_file e (hc.attached_mem hj he), fun hne => ?_⟩
      refine Nat.pos_of_ne_zero fun h0 => hne ?_
      rw [h0, wf.root_entry] at he
      cases he
      rfl
    have heq : a = a' := by
      by_cases hfile : b.source = file
      · have hk : k = 0 := by simpa [hab, hfile] using hroot ha
        have hp : p = 0 := by simpa [hab', hfile] using hroot ha'
        rw [hk, ← hp] at ha
        exact Option.some.inj (ha.symm.trans ha')
      · have hk : 0 < k := (hroot ha).2 (hab ▸ hfile)
        have hp : 0 < p := (hroot ha').2 (hab' ▸ hfile)
        exact h.including_eq a (hc.attached_mem hk ha) a' (hc.attached_mem hp ha') b hb hab hab'
    exact ⟨p, i, heq ▸ ha', hi, wf.mem_children.2 hparent⟩

/-- With unique parents the order of the directives has no part in the shape of the tree: in every
order the same directives stand above the same ones, namely each attached one, or the root, above
all directives in reach whose source it includes; and the same directives stay parked, each as
often. -/
theorem build_perm_same_shape (file : String) {es es' : List Entry} (h : UniqueParents file es)
    (hperm : es'.Perm es) :
    (∀ a b, (build file es').Above a b ↔ (build file es).Above a b) ∧
      (∀ a b, (build file es).Above a b ↔ (∃ i, entry? (build file es) i = some a) ∧
        a.target = b.source ∧ b ∈ es ∧ Reaches es file b.source) ∧
      (build file es').parked.Perm (build file es).parked := by
  have h' := h.perm hperm
  have hreach : ∀ path, Reaches es' file path ↔ Reaches es file path :=
    fun path => ⟨fun hr => hr.mono hperm.subset, fun hr => hr.mono hperm.symm.subset⟩
  refine ⟨fun a b => ?_, above_build_iff h, ?_⟩
  · rw [above_build_iff h', above_build_iff h, exists_entry?_build_iff h'.source_ne_target,
      exists_entry?_build_iff h.source_ne_target]
    simp only [hperm.mem_iff, hreach]
  · rw [parked_build h'.source_ne_target, parked_build h.source_ne_target]
    simp only [hreach]
    exact hperm.filter _

/-- Two headers share one that includes nothing, one directive comes twice, and one is out of
reach. -/
def sharedLeaf : List Entry :=
  [⟨"/F.m", "/A.h", 1⟩, ⟨"/A.h", "/B.h", 1⟩, ⟨"/B.h", "/H.h", 3⟩, ⟨"/F.m", "/C.h", 2⟩,
    ⟨"/C.h", "/H.h", 1⟩, ⟨"/A.h", "/B.h", 1⟩, ⟨"/X.h", "/Y.h", 1⟩]

theorem reversed_sharedLeaf_same_shape :
    UniqueParents "/F.m" sharedLeaf ∧ sharedLeaf.reverse.Perm sharedLeaf ∧
      (build "/F.m" sharedLeaf.reverse).Above ⟨"/A.h", "/B.h", 1⟩ ⟨"/B.h", "/H.h", 3⟩ ∧
      (build "/F.m" sharedLeaf.reverse).Above ⟨"/F.m", "/C.h", 2⟩ ⟨"/C.h", "/H.h", 1⟩ ∧
      (build "/F.m" sharedLeaf.reverse).parked.Perm [⟨"/X.h", "/Y.h", 1⟩] := by
  have h : UniqueParents "/F.m" sharedLeaf := ⟨by decide, by decide, by decide⟩
  have hperm : sharedLeaf.reverse.Perm sharedLeaf := List.reverse_perm _
  obtain ⟨hsame, habove, hparked⟩ := build_perm_same_shape "/F.m" h hperm
  have hall : (build "/F.m" sharedLeaf).parked = [⟨"/X.h", "/Y.h", 1⟩] := by decide +kernel
  refine ⟨h, hperm, (hsame _ _).2 ((habove _ _).2 ?_), (hsame _ _).2 ((habove _ _).2 ?_),
    hall ▸ hparked⟩
  · exact ⟨⟨2, by decide +kernel⟩, rfl, by decide, by decide +kernel⟩
  · exact ⟨⟨4, by decide +kernel⟩, rfl, by decide, by decide +kernel⟩

end IncludeScan.Tree
