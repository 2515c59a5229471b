import IncludeScan.Proofs.Tree.Growth

/-!
Where the direct includes of the analyzed file are attached.

A directive of the analyzed file goes below a node that stands for that file, but the root is not
the only one once an included file includes the analyzed file again. Which of them takes the
directive depends on what came before it. Up to the first node three levels down all nodes are
unresolved, with the root in front; with that node the root is dropped (`Pruned`), and from then on
another node for the file wins. So a direct include becomes a root include exactly when the tree so
far does not have both (`rootIncludes_complete_iff`).
-/

set_option autoImplicit false

namespace IncludeScan.Tree

/-! ## How deep the nodes stand -/

/-- Some node stands at least three levels below the root. -/
def Deep (t : Tree) : Prop :=
  ∃ i p q, t.parent? i = some p ∧ t.parent? p = some q ∧ 0 < q

theorem parent?_congr {t t' : Tree} (h : t'.nodes = t.nodes) (i : Nat) :
    t'.parent? i = t.parent? i := by
  unfold parent?
  rw [h]

theorem Deep.congr {t t' : Tree} (h : t'.nodes = t.nodes) (hd : t.Deep) : t'.Deep := by
  obtain ⟨i, p, q, hi, hp, hq⟩ := hd
  exact ⟨i, p, q, (parent?_congr h i).trans hi, (parent?_congr h p).trans hp, hq⟩

theorem deep_congr {t t' : Tree} (h : t'.nodes = t.nodes) : t'.Deep ↔ t.Deep :=
  ⟨.congr h.symm, .congr h⟩

theorem parent?_attach_of_some {t : Tree} {p i q : Nat} (e : Entry) (hp : p < t.nodes.size)
    (hi : t.parent? i = some q) : (t.attach p e).parent? i = some q := by
  have hlt := lt_size_of_parent? hi
  rw [parent?_attach e hp, if_neg (by omega), hi]

theorem WellFormed.deep_attach_iff {file : String} {t : Tree} (wf : t.WellFormed file) {p : Nat}
    (e : Entry) (hp : p < t.nodes.size) :
    (t.attach p e).Deep ↔ t.Deep ∨ ∃ q, t.parent? p = some q ∧ 0 < q := by
  have hold : ∀ {i}, i < t.nodes.size → (t.attach p e).parent? i = t.parent? i := by
    intro i hi
    rw [parent?_attach e hp, if_neg (by omega)]
  constructor
  · rintro ⟨i, p', q, hi, hp', hq⟩
    by_cases hnew : i = t.nodes.size
    · rw [parent?_attach e hp, if_pos hnew] at hi
      cases hi
      exact .inr ⟨q, hold hp ▸ hp', hq⟩
    · rw [parent?_attach e hp, if_neg hnew] at hi
      have hlt := wf.parent_lt hi
      have hsize := lt_size_of_parent? hi
      rw [hold (by omega)] at hp'
      exact .inl ⟨i, p', q, hi, hp', hq⟩
  · rintro (⟨i, p', q, hi, hp', hq⟩ | ⟨q, hpq, hq⟩)
    · exact ⟨i, p', q, parent?_attach_of_some e hp hi, parent?_attach_of_some e hp hp', hq⟩
    · refine ⟨t.nodes.size, p, q, ?_, parent?_attach_of_some e hp hpq, hq⟩
      rw [parent?_attach e hp, if_pos rfl]

/-! ## When the root stops being unresolved -/

/-- All nodes are unresolved until one stands three levels down, and then the root is not. -/
def Pruned (t : Tree) : Prop :=
  ¬ t.Deep ∧ t.unresolved = List.range t.nodes.size ∨ t.Deep ∧ 0 ∉ t.unresolved

theorem pruned_ofFile (file : String) : (ofFile file).Pruned := by
  refine .inl ⟨?_, rfl⟩
  rintro ⟨i, p, q, hi, -, -⟩
  have hlt := (wellFormed_ofFile file).parent_lt hi
  have hsize := lt_size_of_parent? hi
  have hone : (ofFile file).nodes.size = 1 := rfl
  omega

theorem Pruned.congr {t t' : Tree} (h : t.Pruned) (hn : t'.nodes = t.nodes)
    (hu : t'.unresolved = t.unresolved) : t'.Pruned := by
  unfold Pruned
  rw [deep_congr hn, hn, hu]
  exact h

theorem target?_of_unresolvedParent? {t : Tree} {e : Entry} {p : Nat}
    (h : t.unresolvedParent? e = some p) : t.target? p = some e.source := by
  simpa using List.find?_some h

theorem Pruned.attachUnresolved {file : String} {t : Tree} (wf : t.WellFormed file)
    (h : t.Pruned) {e : Entry} {p : Nat} (hp : t.unresolvedParent? e = some p) :
    (t.attachUnresolved p e).Pruned := by
  have hlt := lt_size_of_target? (target?_of_unresolvedParent? hp)
  have hpos := wf.size_pos
  have hnodes : (t.attachUnresolved p e).nodes = (t.attach p e).nodes := rfl
  unfold Pruned
  rw [deep_congr hnodes, wf.deep_attach_iff e hlt, hnodes, size_attach]
  rcases h with ⟨hflat, hall⟩ | ⟨hdeep, hroot⟩
  · cases hg : (t.parent? p).bind t.parent? with
    | none =>
      left
      constructor
      · rintro (hdeep | ⟨q, hq, hqpos⟩)
        · exact hflat hdeep
        · obtain ⟨g, -, hqg⟩ := wf.exists_parent? hqpos (Nat.lt_trans (wf.parent_lt hq) hlt)
          rw [hq, Option.bind_some, hqg] at hg
          cases hg
      · simp only [Tree.attachUnresolved, hg, hall, List.range_succ]
    | some g =>
      -- a parent with a grandparent stands two levels down, so that the grandparent is the root
      obtain ⟨q, hq, hqg⟩ := Option.bind_eq_some_iff.1 hg
      have hg0 : g = 0 := by
        rcases Nat.eq_zero_or_pos g with hg0 | hgpos
        · exact hg0
        · exact absurd ⟨p, q, g, hq, hqg, hgpos⟩ hflat
      right
      refine ⟨.inr ⟨q, hq, wf.pos_of_parent? hqg⟩, ?_⟩
      simp only [Tree.attachUnresolved, hg, hg0, List.mem_append, List.mem_filter,
        List.mem_singleton]
      rintro (⟨-, hne⟩ | hzero)
      · simp at hne
      · omega
  · right
    refine ⟨.inl hdeep, ?_⟩
    intro hmem
    rcases List.mem_append.1 hmem with hold | hlast
    · split at hold
      · exact hroot (List.mem_filter.1 hold).1
      · exact hroot hold
    · have hzero := List.mem_singleton.1 hlast
      omega

theorem Takes.deep {file : String} {t t' : Tree} {e : Entry} (wf : t.WellFormed file)
    (h : Takes t e t') (hd : t.Deep) : t'.Deep := by
  cases h with
  | absorbed _ hn _ => exact hd.congr hn
  | attached p hp _ hn _ =>
    exact ((wf.deep_attach_iff e (lt_size_of_target? hp)).2 (.inl hd)).congr hn

theorem Pruned.add {file : String} {t : Tree} (wf : t.WellFormed file) (h : t.Pruned) (e : Entry) :
    (t.add e).Pruned := by
  unfold Tree.add
  split
  · exact h
  · split
    · next p hp => exact h.attachUnresolved wf hp
    · next hnone =>
      split
      · next t' ht' =>
        obtain ⟨htakes, -, -⟩ := takes_of_attachAnywhere? ht'
        have hu := unresolved_of_attachAnywhere? ht'
        rcases h with ⟨hflat, hall⟩ | ⟨hdeep, hroot⟩
        · cases htakes with
          | absorbed _ hn _ => exact Pruned.congr (.inl ⟨hflat, hall⟩) hn hu
          | attached p hp _ _ _ =>
            -- a parent for the directive would have been found among the unresolved nodes
            have hmem : p ∈ t.unresolved := by
              rw [hall]
              exact List.mem_range.2 (lt_size_of_target? hp)
            have hfound := List.find?_eq_none.1 hnone p hmem
            simp [hp] at hfound
        · exact .inr ⟨htakes.deep wf hdeep, hu ▸ hroot⟩
      · exact h.congr rfl rfl

theorem WellFormed.add {file : String} {t : Tree} (wf : t.WellFormed file) (e : Entry) :
    (t.add e).WellFormed file := by
  rcases wf.add_cases e with ⟨htakes, -, -⟩ | hpark
  · exact htakes.wellFormed wf
  · rw [hpark]
    exact wf.of_eq rfl rfl

theorem pruned_foldl_add (file : String) (es : List Entry) :
    (es.foldl add (ofFile file)).WellFormed file ∧ (es.foldl add (ofFile file)).Pruned := by
  induction es using List.reverseRecOn with
  | nil => exact ⟨wellFormed_ofFile file, pruned_ofFile file⟩
  | append_singleton es e ih =>
    rw [List.foldl_append, List.foldl_cons, List.foldl_nil]
    exact ⟨ih.1.add e, ih.2.add ih.1 e⟩

/-! ## The parent of a direct include -/

/-- A node below the root stands for the file again, and some node stands three levels down. -/
def Shadowed (file : String) (t : Tree) : Prop :=
  (∃ i, 0 < i ∧ t.target? i = some file) ∧ t.Deep

theorem le_of_lastAccepting? {t : Tree} {e : Entry} {p i : Nat} (h : t.lastAccepting? e = some p)
    (hne : e.source ≠ e.target) (hi : t.target? i = some e.source) : i ≤ p := by
  obtain ⟨n, hn, htarget⟩ := Option.map_eq_some_iff.1 hi
  have hmem := mem_accepting_iff.2 ⟨hn, accepts_iff.2 ⟨htarget, hne⟩⟩
  obtain ⟨last, hlast, rfl⟩ := Option.map_eq_some_iff.1 h
  -- the nodes come in order of their numbers, so the last one has the largest
  have hordered : (t.nodes.toList.zipIdx.filter (fun p => accepts e p.1)).Pairwise
      (fun a b => a.2 < b.2) := by
    have hnumbers : (t.nodes.toList.zipIdx.map Prod.snd).Pairwise (· < ·) := by
      rw [List.zipIdx_map_snd]
      exact List.pairwise_lt_range' _
    exact (List.pairwise_map.1 hnumbers).filter _
  obtain ⟨front, hfront⟩ := List.getLast?_eq_some_iff.1 hlast
  rw [hfront] at hmem hordered
  rcases List.mem_append.1 hmem with hmem | hmem
  · have hlt := (List.pairwise_append.1 hordered).2.2 _ hmem _ (List.mem_singleton.2 rfl)
    exact Nat.le_of_lt hlt
  · exact Nat.le_of_eq (congrArg Prod.snd (List.mem_singleton.1 hmem))

theorem Pruned.unresolvedParent?_eq {file : String} {t : Tree} (wf : t.WellFormed file)
    (h : t.Pruned) (hflat : ¬ t.Deep) {e : Entry} (hs : e.source = file) :
    t.unresolvedParent? e = some 0 := by
  obtain ⟨-, hall⟩ := h.resolve_right fun hdeep => hflat hdeep.1
  obtain ⟨n, hn⟩ := Nat.exists_eq_succ_of_ne_zero (Nat.ne_of_gt wf.size_pos)
  have hroot : (t.target? 0 == some e.source) = true := by
    rw [wf.target?_root, hs, beq_self_eq_true]
  unfold unresolvedParent?
  rw [hall, hn, List.range_succ_eq_map, List.find?_cons, hroot]

/-- A new direct include is attached below a node for the file, and below the root exactly when the
tree is not shadowed. -/
theorem Pruned.exists_parent_add {file : String} {t : Tree} (wf : t.WellFormed file)
    (h : t.Pruned) {e : Entry} (hs : e.source = file) (hne : e.target ≠ file)
    (hnew : ∀ i, 0 < i → t.entry? i ≠ some e) :
    ∃ p, entry? (t.add e) t.nodes.size = some e ∧ (t.add e).parent? t.nodes.size = some p ∧
      (p = 0 ↔ ¬ t.Shadowed file) := by
  have hst : e.source ≠ e.target := fun heq => hne (heq.symm.trans hs)
  have hplaced : ∀ {p}, p < t.nodes.size → entry? (t.attach p e) t.nodes.size = some e ∧
      (t.attach p e).parent? t.nodes.size = some p := by
    intro p hp
    rw [entry?_attach e hp, if_pos rfl, parent?_attach e hp, if_pos rfl]
    exact ⟨rfl, rfl⟩
  have hheld : ¬ t.holds e = true := by
    intro hheld
    obtain ⟨i, hi, he⟩ := wf.holds_iff.1 hheld
    exact hnew i hi he
  unfold Tree.add
  rw [if_neg hheld]
  cases hp : t.unresolvedParent? e with
  | some p =>
    have htarget := target?_of_unresolvedParent? hp
    obtain ⟨hentry, hparent⟩ := hplaced (lt_size_of_target? htarget)
    refine ⟨p, hentry, hparent, ?_⟩
    by_cases hdeep : t.Deep
    · have hroot : 0 ∉ t.unresolved := (h.resolve_left fun hflat => hflat.1 hdeep).2
      have hpos : p ≠ 0 := fun h0 => hroot (h0 ▸ List.mem_of_find?_eq_some hp)
      have hshadowed : t.Shadowed file := ⟨⟨p, Nat.pos_of_ne_zero hpos, hs ▸ htarget⟩, hdeep⟩
      exact ⟨fun h0 => absurd h0 hpos, fun hnot => absurd hshadowed hnot⟩
    · rw [h.unresolvedParent?_eq wf hdeep hs] at hp
      cases hp
      exact ⟨fun _ hshadowed => hdeep hshadowed.2, fun _ => rfl⟩
  | none =>
    have hdeep : t.Deep := by
      by_contra hflat
      rw [h.unresolvedParent?_eq wf hflat hs] at hp
      cases hp
    have hany : ¬ t.nodes.any (fun n => n.entry == e) = true := by
      intro hany
      obtain ⟨i, hi⟩ := any_entry_iff.1 hany
      exact hnew i (wf.pos_of_entry hst hi) hi
    cases hlast : t.lastAccepting? e with
    | none => exact absurd (eq_of_lastAccepting?_none hlast (hs ▸ wf.target?_root)) hst
    | some p =>
      have htarget := target?_of_lastAccepting? hlast
      obtain ⟨hentry, hparent⟩ := hplaced (lt_size_of_target? htarget)
      have hanywhere : t.attachAnywhere? e = some (t.attach p e) := by
        unfold attachAnywhere?
        rw [if_neg hany, hlast]
        rfl
      simp only [hanywhere]
      refine ⟨p, hentry, hparent, ?_, ?_⟩
      · rintro rfl ⟨⟨i, hi, hfile⟩, -⟩
        have hle := le_of_lastAccepting? hlast hst (hs ▸ hfile)
        omega
      · intro hnot
        by_contra hpos
        exact hnot ⟨⟨p, Nat.pos_of_ne_zero hpos, hs ▸ htarget⟩, hdeep⟩

/-! ## The built tree -/

theorem Takes.parent?_mono {t t' : Tree} {e : Entry} (h : Takes t e t') {i p : Nat}
    (hi : t.parent? i = some p) : t'.parent? i = some p := by
  cases h with
  | absorbed _ hn _ => rw [parent?_congr hn, hi]
  | attached q hq _ hn _ =>
    rw [parent?_congr hn, parent?_attach_of_some e (lt_size_of_target? hq) hi]

def Attached (t : Tree) (i : Nat) (e : Entry) (p : Nat) : Prop :=
  t.entry? i = some e ∧ t.parent? i = some p

theorem Takes.attachedAt {t t' : Tree} {e e' : Entry} (h : Takes t e t') {i p : Nat}
    (hi : t.Attached i e' p) : t'.Attached i e' p :=
  ⟨h.entry?_mono hi.1, h.parent?_mono hi.2⟩

theorem WellFormed.attached_foldl_add {file : String} {t : Tree} (wf : t.WellFormed file)
    (es : List Entry) {i p : Nat} {e : Entry} (h : t.Attached i e p) :
    (es.foldl Tree.add t).Attached i e p := by
  induction es generalizing t with
  | nil => exact h
  | cons e' es ih =>
    refine ih (wf.add e') ?_
    rcases wf.add_cases e' with ⟨htakes, -, -⟩ | hpark
    · exact htakes.attachedAt h
    · rw [hpark]
      exact h

theorem attached_retry {t : Tree} {i p : Nat} {e : Entry} (h : t.Attached i e p) :
    t.retry.Attached i e p := by
  refine settle_induction (P := fun t => t.Attached i e p) (fun t parked ht => ht) ?_ h
  intro t e' t' ht' ht
  exact (takes_of_attachAnywhere? ht').1.attachedAt ht

theorem exists_attached_build {file : String} {before : List Entry} {e : Entry}
    (hfirst : e ∉ before) (hs : e.source = file) (hne : e.target ≠ file) (after : List Entry) :
    ∃ i p, (build file (before ++ e :: after)).Attached i e p ∧
      (p = 0 ↔ ¬ (before.foldl add (ofFile file)).Shadowed file) := by
  obtain ⟨wf, hpruned⟩ := pruned_foldl_add file before
  have hcollects : Collects file before [] (before.foldl add (ofFile file)) :=
    (collects_ofFile file before).foldl_add (fun _ h => h)
  have hnew : ∀ i, 0 < i → entry? (before.foldl add (ofFile file)) i ≠ some e :=
    fun i hi he => hfirst (hcollects.attached_mem hi he)
  obtain ⟨p, he, hp, hroot⟩ := hpruned.exists_parent_add wf hs hne hnew
  refine ⟨(before.foldl add (ofFile file)).nodes.size, p, ?_, hroot⟩
  unfold build
  rw [List.foldl_append, List.foldl_cons]
  exact attached_retry ((wf.add e).attached_foldl_add after ⟨he, hp⟩)

theorem WellFormed.target?_of_attached {file : String} {t : Tree} (wf : t.WellFormed file)
    {i p : Nat} {e : Entry} (h : t.Attached i e p) : t.target? p = some e.source := by
  obtain ⟨q, -, hq, htarget⟩ := wf.parent (wf.pos_of_parent? h.2) h.1
  obtain rfl : p = q := Option.some.inj (h.2.symm.trans hq)
  exact htarget

/-- In a built tree every root include is a directive of the file, every directive of the file that
includes another one is attached below a node for the file, and all of these are root includes
exactly when each came first to a tree that was not shadowed. -/
theorem rootIncludes_complete_iff (file : String) (es : List Entry) :
    let t := build file es
    (∀ i ∈ t.rootIncludes, ∃ e ∈ es, t.entry? i = some e ∧ e.source = file) ∧
      (∀ e ∈ es, e.source = file → e.target ≠ file →
        ∃ i p, t.entry? i = some e ∧ t.parent? i = some p ∧ t.target? p = some file) ∧
      ((∀ e ∈ es, e.source = file → e.target ≠ file →
          ∃ i ∈ t.rootIncludes, t.entry? i = some e) ↔
        ∀ before e after, es = before ++ e :: after → e ∉ before → e.source = file →
          e.target ≠ file → ¬ (before.foldl add (ofFile file)).Shadowed file) := by
  intro t
  have wf : t.WellFormed file := build_wellFormed file es
  refine ⟨fun i hi => ?_, fun e he hs hne => ?_, ?_, ?_⟩
  · have hparent := wf.mem_children.1 hi
    obtain ⟨e, he⟩ := exists_entry?_of_lt (lt_size_of_parent? hparent)
    have htarget := wf.target?_of_attached ⟨he, hparent⟩
    rw [wf.target?_root] at htarget
    have hmem := (build_collects file es).attached_mem (wf.pos_of_parent? hparent) he
    exact ⟨e, hmem, he, (Option.some.inj htarget).symm⟩
  · obtain ⟨before, after, hsplit, hfirst⟩ := List.eq_append_cons_of_mem he
    obtain ⟨i, p, hat, -⟩ := exists_attached_build hfirst hs hne after
    rw [← hsplit] at hat
    exact ⟨i, p, hat.1, hat.2, hs ▸ wf.target?_of_attached hat⟩
  · intro hroots before e after hsplit hfirst hs hne
    obtain ⟨i, p, hat, hroot⟩ := exists_attached_build hfirst hs hne after
    rw [← hsplit] at hat
    obtain ⟨j, hj, hje⟩ := hroots e (by simp [hsplit]) hs hne
    have hparent := wf.mem_children.1 hj
    have hij : i = j := wf.entry_inj (wf.pos_of_parent? hat.2) (wf.pos_of_parent? hparent)
      hat.1 hje
    have hp : some p = some 0 := by rw [← hat.2, hij, hparent]
    exact hroot.1 (Option.some.inj hp)
  · intro hclear e he hs hne
    obtain ⟨before, after, hsplit, hfirst⟩ := List.eq_append_cons_of_mem he
    obtain ⟨i, p, hat, hroot⟩ := exists_attached_build hfirst hs hne after
    rw [← hsplit, hroot.2 (hclear before e after hsplit hfirst hs hne)] at hat
    exact ⟨i, wf.mem_children.2 hat.2, hat.1⟩

/-- The file is included again, but nothing stands more than two levels down when its second
directive comes. -/
theorem shallow_cycle_not_shadowed :
    let es : List Entry := [⟨"/F.h", "/A.h", 1⟩, ⟨"/A.h", "/F.h", 1⟩, ⟨"/F.h", "/D.h", 2⟩]
    (∀ e ∈ es, e.source = "/F.h" → e.target ≠ "/F.h" →
        ∃ i ∈ (build "/F.h" es).rootIncludes, entry? (build "/F.h" es) i = some e) ∧
      ¬ ((es.take 2).foldl add (ofFile "/F.h")).Shadowed "/F.h" := by
  intro es
  have hroots : ∀ e ∈ es, e.source = "/F.h" → e.target ≠ "/F.h" →
      ∃ i ∈ (build "/F.h" es).rootIncludes, entry? (build "/F.h" es) i = some e := by
    decide +kernel
  refine ⟨hroots, ?_⟩
  exact (rootIncludes_complete_iff "/F.h" es).2.2.1 hroots (es.take 2) ⟨"/F.h", "/D.h", 2⟩ [] rfl
    (by decide) rfl (by decide)

/-- With one more header on the way back to the file, its second directive goes below the node that
includes the file again. -/
theorem cycle_hides_direct_include :
    let es : List Entry := [⟨"/F.h", "/A.h", 1⟩, ⟨"/A.h", "/B.h", 1⟩, ⟨"/B.h", "/F.h", 1⟩,
      ⟨"/F.h", "/D.h", 2⟩]
    let t := build "/F.h" es
    ⟨"/F.h", "/D.h", 2⟩ ∈ es ∧ t.rootIncludes = [1] ∧ t.entry? 1 = some ⟨"/F.h", "/A.h", 1⟩ ∧
      t.entry? 4 = some ⟨"/F.h", "/D.h", 2⟩ ∧ t.parent? 4 = some 3 ∧
      ¬ ∃ i ∈ t.rootIncludes, t.entry? i = some ⟨"/F.h", "/D.h", 2⟩ := by
  decide +kernel

end IncludeScan.Tree
