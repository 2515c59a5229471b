import IncludeScan.Proofs.Tree.Calls

/-!
What growing a tree attaches and what it leaves parked.

Directives may be added in any order, with passes over the parked ones in between. After a last
such pass, a directive that does not include its own source is attached exactly when the directives
brought so far reach its source (`exists_entry?_grow_iff`), and the others are parked as they came
(`filter_parked_grow`). Neither depends on the order in which the attached ones were brought.
Building a tree is the case without passes in between (`build_eq_grow`), so it decides which files
some directives reach.
-/

set_option autoImplicit false

namespace IncludeScan.Tree

/-! ## Growing -/

def Growth.brings : Growth → List Entry
  | .add e => [e]
  | .retry => []

def brought (calls : List Growth) : List Entry :=
  calls.flatMap Growth.brings

def grow (file : String) (calls : List Growth) : Tree :=
  calls.foldl Growth.apply (ofFile file)

theorem brought_concat (calls : List Growth) (g : Growth) :
    brought (calls ++ [g]) = brought calls ++ g.brings := by
  unfold brought
  rw [List.flatMap_append, List.flatMap_singleton]

theorem brought_retry (calls : List Growth) : brought (calls ++ [.retry]) = brought calls := by
  rw [brought_concat, Growth.brings, List.append_nil]

theorem grow_concat (file : String) (calls : List Growth) (g : Growth) :
    grow file (calls ++ [g]) = g.apply (grow file calls) := by
  unfold grow
  rw [List.foldl_append, List.foldl_cons, List.foldl_nil]

theorem build_eq_grow (file : String) (es : List Entry) :
    build file es = grow file (es.map .add ++ [.retry]) := by
  rw [grow_concat]
  unfold build grow
  rw [List.foldl_map]
  rfl

theorem brought_map_add (es : List Entry) : brought (es.map .add) = es := by
  unfold brought
  rw [List.flatMap_map]
  exact List.flatMap_singleton' es

theorem Collects.extend {file : String} {es : List Entry} {t : Tree}
    (hc : Collects file es [] t) (e : Entry) : Collects file (es ++ [e]) [e] t := by
  refine ⟨hc.wellFormed, fun hi he => List.mem_append_left _ (hc.attached_mem hi he),
    fun he => List.mem_append_left _ (hc.parked_mem he), fun he => ?_, hc.unused, hc.batches_eq⟩
  rcases List.mem_append.1 he with hold | hnew
  · exact (hc.placed hold).imp_left (fun hw => absurd hw List.not_mem_nil)
  · exact .inl hnew

theorem collects_grow (file : String) (calls : List Growth) :
    Collects file (brought calls) [] (grow file calls) := by
  induction calls using List.reverseRecOn with
  | nil => exact collects_ofFile file []
  | append_singleton calls g ih =>
    rw [brought_concat, grow_concat]
    cases g with
    | add e => exact (ih.extend e).add (List.mem_append_right _ (List.mem_singleton.2 rfl))
    | retry =>
      rw [Growth.brings, List.append_nil]
      exact ih.retry.1

theorem collects_grow_retry (file : String) (calls : List Growth) :
    Collects file (brought calls) [] (grow file (calls ++ [.retry])) :=
  brought_retry calls ▸ collects_grow file (calls ++ [.retry])

theorem grow_retry_refuses {file : String} {calls : List Growth} {e : Entry}
    (he : e ∈ (grow file (calls ++ [.retry])).parked) :
    (grow file (calls ++ [.retry])).Refuses e := by
  rw [grow_concat] at he ⊢
  exact (collects_grow file calls).retry.2 e he

/-! ## What is reached -/

theorem Collects.reaches {file : String} {es waiting : List Entry} {t : Tree}
    (hc : Collects file es waiting t) {i : Nat} {path : String} (hi : t.target? i = some path) :
    Reaches es file path :=
  hc.wellFormed.reaches_target hi (fun _ _ hj _ he => hc.attached_mem hj he)

theorem Collects.reaches_source {file : String} {es waiting : List Entry} {t : Tree}
    (hc : Collects file es waiting t) {i : Nat} {e : Entry} (hi : 0 < i)
    (he : t.entry? i = some e) : Reaches es file e.source := by
  obtain ⟨p, -, -, hp⟩ := hc.wellFormed.parent hi he
  exact hc.reaches hp

theorem WellFormed.pos_of_entry {file : String} {t : Tree} (wf : t.WellFormed file) {i : Nat}
    {e : Entry} (hne : e.source ≠ e.target) (he : t.entry? i = some e) : 0 < i := by
  refine Nat.pos_of_ne_zero fun h0 => hne ?_
  rw [h0, wf.root_entry] at he
  cases he
  rfl

theorem reaches_iff_exists_target? (file path : String) (calls : List Growth) :
    Reaches (brought calls) file path ↔
      ∃ i, (grow file (calls ++ [.retry])).target? i = some path := by
  have hc := collects_grow_retry file calls
  constructor
  · exact hc.exists_target?_of_reaches (fun e he => grow_retry_refuses he)
  · rintro ⟨i, hi⟩
    exact hc.reaches hi

theorem not_reaches_of_parked {file : String} {calls : List Growth} {e : Entry}
    (hne : e.source ≠ e.target) (he : e ∈ (grow file (calls ++ [.retry])).parked) :
    ¬ Reaches (brought calls) file e.source := by
  intro hreach
  obtain ⟨i, hi⟩ := (reaches_iff_exists_target? file e.source calls).1 hreach
  exact hne ((grow_retry_refuses he).2 i hi)

theorem exists_entry?_grow_iff {file : String} {calls : List Growth} {e : Entry}
    (hne : e.source ≠ e.target) :
    (∃ i, entry? (grow file (calls ++ [.retry])) i = some e) ↔
      e ∈ brought calls ∧ Reaches (brought calls) file e.source := by
  have hc := collects_grow_retry file calls
  constructor
  · rintro ⟨i, hi⟩
    have hpos := hc.wellFormed.pos_of_entry hne hi
    exact ⟨hc.attached_mem hpos hi, hc.reaches_source hpos hi⟩
  · rintro ⟨hmem, hreach⟩
    rcases hc.placed hmem with hw | hnode | hpark
    · cases hw
    · exact hnode
    · exact absurd hreach (not_reaches_of_parked hne hpark)

theorem any_target_iff {t : Tree} {path : String} :
    t.nodes.any (fun n => n.entry.target == path) = true ↔ ∃ i, t.target? i = some path := by
  rw [any_node_iff]
  simp only [target?, Option.map_eq_some_iff, beq_iff_eq]

theorem any_target_build_iff {es : List Entry} {a b : String} :
    (build a es).nodes.any (fun n => n.entry.target == b) = true ↔ Reaches es a b := by
  have h := reaches_iff_exists_target? a b (es.map .add)
  rw [brought_map_add, ← build_eq_grow] at h
  rw [any_target_iff, h]

instance decidableReaches (es : List Entry) (a b : String) : Decidable (Reaches es a b) :=
  decidable_of_iff _ any_target_build_iff

/-! ## What stays parked -/

section Parked

variable {file : String} {es waiting : List Entry} {t t' : Tree} {e : Entry}

theorem Collects.not_takes (hc : Collects file es waiting t) (hne : e.source ≠ e.target)
    (hfar : ¬ Reaches es file e.source) : ¬ Takes t e t' := by
  intro h
  cases h with
  | absorbed hold _ _ =>
    obtain ⟨i, hi⟩ := hold
    exact hfar (hc.reaches_source (hc.wellFormed.pos_of_entry hne hi) hi)
  | attached p hp _ _ _ => exact hfar (hc.reaches hp)

variable {P : Entry → Bool}
  (hP : ∀ e, P e = true → e.source ≠ e.target ∧ ¬ Reaches es file e.source)
include hP

theorem Collects.eq_false_of_takes (hc : Collects file es waiting t) (h : Takes t e t') :
    P e = false := by
  refine eq_false_of_ne_true fun hpe => ?_
  obtain ⟨hne, hfar⟩ := hP e hpe
  exact hc.not_takes hne hfar h

theorem Collects.filter_parked_add (hc : Collects file es waiting t) (e : Entry) :
    (t.add e).parked.filter P = (t.parked ++ [e]).filter P := by
  rcases hc.wellFormed.add_cases e with ⟨h, hp, -⟩ | h
  · rw [hp, List.filter_append]
    simp [hc.eq_false_of_takes hP h]
  · rw [h]

theorem Collects.filter_parked_retryEntry (hc : Collects file es waiting t) (e : Entry) :
    (retryEntry e t).parked.filter P = (e :: t.parked).filter P := by
  rcases retryEntry_cases e t with ⟨h, hp, -⟩ | ⟨-, h⟩
  · rw [hp, List.filter_cons_of_neg (by simp [hc.eq_false_of_takes hP h])]
  · rw [h]

/-- A pass over parked directives keeps, in order, those that are out of reach. -/
theorem Collects.filter_parked_foldr (todo : List Entry) (hsub : todo ⊆ es)
    (hc : Collects file es (todo ++ waiting) t) :
    (todo.foldr retryEntry t).parked.filter P = (todo ++ t.parked).filter P := by
  induction todo generalizing waiting with
  | nil => rfl
  | cons e todo ih =>
    have hrest : todo ⊆ es := fun x hx => hsub (List.mem_cons_of_mem e hx)
    have hc' : Collects file es (todo ++ e :: waiting) t :=
      hc.mono List.perm_middle.symm.subset
    have hpass := ih hrest hc'
    have hinner := hc'.foldr_retryEntry todo hrest
    rw [List.foldr_cons, hinner.filter_parked_retryEntry hP e, List.filter_cons, hpass,
      List.cons_append, List.filter_cons]

theorem Collects.filter_parked_retryOnce (hc : Collects file es [] t) :
    t.retryOnce.parked.filter P = t.parked.filter P := by
  have hc' : Collects file es (t.parked ++ []) { t with parked := [] } := by
    rw [List.append_nil]
    exact hc.unpark
  rw [retryOnce_eq, hc'.filter_parked_foldr hP t.parked (fun _ he => hc.parked_mem he)]
  exact congrArg (List.filter P) (List.append_nil t.parked)

theorem Collects.filter_parked_settle (hc : Collects file es [] t) :
    t.settle.parked.filter P = t.parked.filter P := by
  fun_induction Tree.settle t with
  | case1 t _ ih => rw [ih hc.retryOnce, hc.filter_parked_retryOnce hP]
  | case2 t _ => exact hc.filter_parked_retryOnce hP

theorem Collects.filter_parked_retry (hc : Collects file es [] t) :
    t.retry.parked.filter P = t.parked.filter P :=
  hc.resolved.filter_parked_settle hP

end Parked

/-- The directives that are never in reach are parked as they came. -/
theorem filter_parked_grow (file : String) (calls : List Growth) {P : Entry → Bool}
    (hP : ∀ e, P e = true → e.source ≠ e.target ∧ ¬ Reaches (brought calls) file e.source) :
    (grow file calls).parked.filter P = (brought calls).filter P := by
  induction calls using List.reverseRecOn with
  | nil => rfl
  | append_singleton calls g ih =>
    have hc := collects_grow file calls
    -- out of reach by all directives, hence by those brought before the last call
    have hP' : ∀ e, P e = true → e.source ≠ e.target ∧ ¬ Reaches (brought calls) file e.source := by
      intro e he
      obtain ⟨hne, hfar⟩ := hP e he
      refine ⟨hne, fun hreach => hfar (hreach.mono ?_)⟩
      rw [brought_concat]
      exact List.subset_append_left _ _
    rw [brought_concat, grow_concat]
    cases g with
    | add e =>
      rw [Growth.apply, hc.filter_parked_add hP' e, List.filter_append, ih hP', Growth.brings,
        List.filter_append]
    | retry =>
      rw [Growth.apply, hc.filter_parked_retry hP', ih hP', Growth.brings, List.append_nil]

/-- After a last pass over the parked directives: every node's directive was brought and has its
source in reach; every directive with its source in reach, other than one that includes its own
source, is attached once; and those out of reach are parked as they came. So the order in which
directives are brought has no part in which of them are attached. -/
theorem grow_attaches_reached (file : String) (calls : List Growth) :
    let es := brought calls
    let t := grow file (calls ++ [.retry])
    (∀ i e, 0 < i → t.entry? i = some e → e ∈ es ∧ Reaches es file e.source) ∧
      (∀ e ∈ es, e.source ≠ e.target → Reaches es file e.source → ∃! i, t.entry? i = some e) ∧
      t.parked.filter (fun e => e.source ≠ e.target) =
        es.filter (fun e => e.source ≠ e.target ∧ ¬ Reaches es file e.source) ∧
      ∀ calls', (brought calls').Perm es → ∀ e, e.source ≠ e.target →
        ((∃ i, entry? (grow file (calls' ++ [.retry])) i = some e) ↔
          ∃ i, t.entry? i = some e) := by
  intro es t
  have hc := collects_grow_retry file calls
  refine ⟨fun i e hi he => ⟨hc.attached_mem hi he, hc.reaches_source hi he⟩, ?_, ?_, ?_⟩
  · intro e he hne hreach
    obtain ⟨i, hi⟩ := (exists_entry?_grow_iff hne).2 ⟨he, hreach⟩
    refine ⟨i, hi, fun j hj => ?_⟩
    exact hc.wellFormed.entry_inj (hc.wellFormed.pos_of_entry hne hj)
      (hc.wellFormed.pos_of_entry hne hi) hj hi
  · have hfar : ∀ e ∈ t.parked, decide (e.source ≠ e.target) =
        decide (e.source ≠ e.target ∧ ¬ Reaches es file e.source) := by
      intro e he
      rw [decide_eq_decide]
      exact ⟨fun hne => ⟨hne, not_reaches_of_parked hne he⟩, fun h => h.1⟩
    have hparked := filter_parked_grow file (calls ++ [.retry])
      (P := fun e => e.source ≠ e.target ∧ ¬ Reaches es file e.source)
      (fun e he => brought_retry calls ▸ of_decide_eq_true he)
    rw [List.filter_congr hfar, hparked, brought_retry]
  · intro calls' hperm e hne
    rw [exists_entry?_grow_iff hne, exists_entry?_grow_iff hne]
    refine ⟨fun h => ⟨hperm.mem_iff.1 h.1, h.2.mono hperm.subset⟩, fun h => ?_⟩
    exact ⟨hperm.mem_iff.2 h.1, h.2.mono hperm.symm.subset⟩

/-- Two headers that include each other, the first before the file includes it, and a directive
out of reach that comes twice. -/
def detour : List Growth :=
  [.add ⟨"/A.h", "/B.h", 1⟩, .retry, .add ⟨"/X.h", "/Y.h", 1⟩, .add ⟨"/F.m", "/A.h", 2⟩,
    .add ⟨"/B.h", "/A.h", 1⟩, .add ⟨"/X.h", "/Y.h", 1⟩]

theorem detour_attaches_reached :
    ⟨"/A.h", "/B.h", 1⟩ ∈ brought detour ∧ Reaches (brought detour) "/F.m" "/A.h" ∧
      (∃! i, entry? (grow "/F.m" (detour ++ [.retry])) i = some ⟨"/A.h", "/B.h", 1⟩) ∧
      (grow "/F.m" (detour ++ [.retry])).parked.filter (fun e => e.source ≠ e.target) =
        [⟨"/X.h", "/Y.h", 1⟩, ⟨"/X.h", "/Y.h", 1⟩] := by
  obtain ⟨-, honce, hparked, -⟩ := grow_attaches_reached "/F.m" detour
  have hmem : ⟨"/A.h", "/B.h", 1⟩ ∈ brought detour := by decide
  have hreach : Reaches (brought detour) "/F.m" "/A.h" := by decide +kernel
  refine ⟨hmem, hreach, honce _ hmem (by decide) hreach, hparked.trans ?_⟩
  decide +kernel

end IncludeScan.Tree
