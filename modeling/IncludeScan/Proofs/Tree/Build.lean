import IncludeScan.Proofs.Tree.Ancestry
import Mathlib.Logic.Relation

/-!
What building a tree attaches.

Each directive given to `build` is attached or parked, and one stays parked only when no node may
take it (`build_refuses`). So every file that the directives reach from the analyzed file is the
target of a node (`exists_target?_of_reaches`).

* `Reaches es a b`: the directives `es` lead from `a` to `b`.
* `Takes t e t'`: from `t` to `t'` the directive `e` is taken into the nodes.
* `Collects file es waiting t`: all of `es` is attached or parked in `t`, but for what still waits.
-/

set_option autoImplicit false

namespace IncludeScan

/-! ## Reaching a file -/

def Includes (es : List Entry) (a b : String) : Prop :=
  ∃ e ∈ es, e.source = a ∧ e.target = b

def Reaches (es : List Entry) : String → String → Prop :=
  Relation.ReflTransGen (Includes es)

theorem Reaches.step {es : List Entry} {a : String} {e : Entry} (h : Reaches es a e.source)
    (he : e ∈ es) : Reaches es a e.target :=
  Relation.ReflTransGen.tail h ⟨e, he, rfl, rfl⟩

theorem Reaches.mono {es es' : List Entry} (hsub : es ⊆ es') {a b : String}
    (h : Reaches es a b) : Reaches es' a b := by
  refine Relation.ReflTransGen.mono ?_ a b h
  rintro x y ⟨e, he, hx, hy⟩
  exact ⟨e, hsub he, hx, hy⟩

namespace Tree

/-! ## Taking in one directive -/

/-- A directive is taken into the nodes: it is there already, or it becomes the last node, below
one that includes its source. -/
inductive Takes (t : Tree) (e : Entry) (t' : Tree) : Prop
  | absorbed (hold : ∃ i, t.entry? i = some e) (hn : t'.nodes = t.nodes)
      (hb : t'.byTarget = t.byTarget)
  | attached (p : Nat) (hp : t.target? p = some e.source)
      (hnew : ∀ i, 0 < i → t.entry? i ≠ some e) (hn : t'.nodes = (t.attach p e).nodes)
      (hb : t'.byTarget = (t.attach p e).byTarget)

/-- The directive is not attached and no node may take it, as a search over all nodes has it. -/
def Refuses (t : Tree) (e : Entry) : Prop :=
  (∀ i, t.entry? i ≠ some e) ∧ ∀ i, t.target? i = some e.source → e.source = e.target

theorem entry?_congr {t t' : Tree} (h : t'.nodes = t.nodes) (i : Nat) :
    t'.entry? i = t.entry? i := by
  unfold entry?
  rw [h]

theorem target?_congr {t t' : Tree} (h : t'.nodes = t.nodes) (i : Nat) :
    t'.target? i = t.target? i := by
  unfold target?
  rw [h]

theorem isUsed_congr {t t' : Tree} (h : t'.nodes = t.nodes) (i : Nat) :
    t'.isUsed i = t.isUsed i := by
  unfold isUsed
  rw [h]

theorem Refuses.congr {t t' : Tree} {e : Entry} (h : t'.nodes = t.nodes) (hr : t.Refuses e) :
    t'.Refuses e :=
  ⟨fun i => entry?_congr h i ▸ hr.1 i, fun i => target?_congr h i ▸ hr.2 i⟩

namespace Takes

variable {file : String} {t t' : Tree} {e : Entry} (h : Takes t e t')
include h

theorem wellFormed (wf : t.WellFormed file) : t'.WellFormed file := by
  cases h with
  | absorbed _ hn hb => exact wf.of_eq hn hb
  | attached p hp hnew hn hb => exact (wf.attach hp hnew).of_eq hn hb

theorem entry?_mono {i : Nat} {e' : Entry} (hi : t.entry? i = some e') :
    t'.entry? i = some e' := by
  cases h with
  | absorbed _ hn _ => rw [entry?_congr hn, hi]
  | attached p hp _ hn _ =>
    have := lt_size_of_entry hi
    rw [entry?_congr hn, entry?_attach e (lt_size_of_target? hp), if_neg (by omega), hi]

theorem exists_node : ∃ i, t'.entry? i = some e := by
  cases h with
  | absorbed hold hn _ =>
    obtain ⟨i, hi⟩ := hold
    exact ⟨i, (entry?_congr hn i).trans hi⟩
  | attached p hp _ hn _ =>
    refine ⟨t.nodes.size, ?_⟩
    rw [entry?_congr hn, entry?_attach e (lt_size_of_target? hp), if_pos rfl]

theorem entry?_cases {i : Nat} {e' : Entry} (hi : t'.entry? i = some e') :
    t.entry? i = some e' ∨ e' = e := by
  cases h with
  | absorbed _ hn _ => exact .inl ((entry?_congr hn i).symm.trans hi)
  | attached p hp _ hn _ =>
    rw [entry?_congr hn, entry?_attach e (lt_size_of_target? hp)] at hi
    by_cases hs : i = t.nodes.size
    · rw [if_pos hs] at hi
      cases hi
      exact .inr rfl
    · rw [if_neg hs] at hi
      exact .inl hi

theorem isUsed_eq (i : Nat) : t'.isUsed i = t.isUsed i := by
  cases h with
  | absorbed _ hn _ => exact isUsed_congr hn i
  | attached p hp _ hn _ => rw [isUsed_congr hn, isUsed_attach e (lt_size_of_target? hp)]

end Takes

theorem accepts_iff {e : Entry} {n : Node} :
    accepts e n = true ↔ n.entry.target = e.source ∧ e.source ≠ e.target := by
  simp only [accepts, Bool.and_eq_true, beq_iff_eq, bne_iff_ne, ne_eq]
  constructor
  · rintro ⟨h, hne⟩
    exact ⟨h, fun h' => hne (h.trans h')⟩
  · rintro ⟨h, hne⟩
    exact ⟨h, fun h' => hne (h.symm.trans h')⟩

theorem mem_accepting_iff {t : Tree} {e : Entry} {n : Node} {i : Nat} :
    (n, i) ∈ t.nodes.toList.zipIdx.filter (fun p => accepts e p.1) ↔
      t.nodes[i]? = some n ∧ accepts e n = true := by
  rw [List.mem_filter, List.mem_zipIdx_iff_getElem?, Array.getElem?_toList]

theorem target?_of_lastAccepting? {t : Tree} {e : Entry} {p : Nat}
    (h : t.lastAccepting? e = some p) : t.target? p = some e.source := by
  obtain ⟨⟨n, i⟩, hn, rfl⟩ := Option.map_eq_some_iff.1 h
  obtain ⟨hi, hacc⟩ := mem_accepting_iff.1 (List.mem_of_getLast? hn)
  rw [target?, hi, Option.map_some, (accepts_iff.1 hacc).1]

theorem eq_of_lastAccepting?_none {t : Tree} {e : Entry} (h : t.lastAccepting? e = none) {i : Nat}
    (hi : t.target? i = some e.source) : e.source = e.target := by
  by_contra hne
  obtain ⟨n, hn, htarget⟩ := Option.map_eq_some_iff.1 hi
  have hmem := mem_accepting_iff.2 ⟨hn, accepts_iff.2 ⟨htarget, hne⟩⟩
  rw [lastAccepting?, Option.map_eq_none_iff, List.getLast?_eq_none_iff] at h
  rw [h] at hmem
  cases hmem

theorem any_node_iff {t : Tree} {p : Node → Bool} :
    t.nodes.any p = true ↔ ∃ (i : Nat) (n : Node), t.nodes[i]? = some n ∧ p n = true := by
  rw [Array.any_eq_true]
  constructor
  · rintro ⟨i, hi, h⟩
    exact ⟨i, _, Array.getElem?_eq_getElem hi, h⟩
  · rintro ⟨i, n, hn, h⟩
    obtain ⟨hi, rfl⟩ := Array.getElem?_eq_some_iff.1 hn
    exact ⟨i, hi, h⟩

theorem any_entry_iff {t : Tree} {e : Entry} :
    t.nodes.any (fun n => n.entry == e) = true ↔ ∃ i, t.entry? i = some e := by
  rw [any_node_iff]
  simp only [Option.map_eq_some_iff, entry?, beq_iff_eq]

theorem takes_of_attachAnywhere? {t t' : Tree} {e : Entry} (h : t.attachAnywhere? e = some t') :
    Takes t e t' ∧ t'.parked = t.parked ∧ t'.batches = t.batches := by
  unfold attachAnywhere? at h
  split at h
  · next hold =>
    cases h
    exact ⟨.absorbed (any_entry_iff.1 hold) rfl rfl, rfl, rfl⟩
  · next hnew =>
    obtain ⟨p, hp, rfl⟩ := Option.map_eq_some_iff.1 h
    have hnone : ∀ i, 0 < i → t.entry? i ≠ some e :=
      fun i _ hi => hnew (any_entry_iff.2 ⟨i, hi⟩)
    exact ⟨.attached p (target?_of_lastAccepting? hp) hnone rfl rfl, rfl, rfl⟩

theorem refuses_of_attachAnywhere? {t : Tree} {e : Entry} (h : t.attachAnywhere? e = none) :
    t.Refuses e := by
  unfold attachAnywhere? at h
  split at h
  · cases h
  · next hnew =>
    refine ⟨fun i hi => hnew (any_entry_iff.2 ⟨i, hi⟩), fun i hi => ?_⟩
    exact eq_of_lastAccepting?_none (Option.map_eq_none_iff.1 h) hi

theorem WellFormed.holds_iff {file : String} {t : Tree} (wf : t.WellFormed file) {e : Entry} :
    t.holds e = true ↔ ∃ i, 0 < i ∧ t.entry? i = some e := by
  simp only [holds, List.any_eq_true, beq_iff_eq]
  constructor
  · rintro ⟨i, hi, he⟩
    exact ⟨i, (wf.mem_nodesFor.1 hi).1, he⟩
  · rintro ⟨i, hi, he⟩
    exact ⟨i, wf.mem_nodesFor.2 ⟨hi, target?_of_entry he⟩, he⟩

theorem WellFormed.add_cases {file : String} {t : Tree} (wf : t.WellFormed file) (e : Entry) :
    (Takes t e (t.add e) ∧ (t.add e).parked = t.parked ∧ (t.add e).batches = t.batches) ∨
      t.add e = { t with parked := t.parked ++ [e] } := by
  unfold add
  split
  · next hold =>
    obtain ⟨i, -, hi⟩ := wf.holds_iff.1 hold
    exact .inl ⟨.absorbed ⟨i, hi⟩ rfl rfl, rfl, rfl⟩
  · next hnew =>
    have hnone : ∀ i, 0 < i → t.entry? i ≠ some e :=
      fun i hi he => hnew (wf.holds_iff.2 ⟨i, hi, he⟩)
    split
    · next p hp =>
      have htarget : t.target? p = some e.source := by simpa using List.find?_some hp
      exact .inl ⟨.attached p htarget hnone rfl rfl, rfl, rfl⟩
    · split
      · next t' ht' => exact .inl (takes_of_attachAnywhere? ht')
      · exact .inr rfl

/-! ## Taking in all directives -/

/-- Every one of `es` is attached or parked in `t` or still waits. `t` holds nothing else, and
nothing in it is marked. -/
structure Collects (file : String) (es waiting : List Entry) (t : Tree) : Prop where
  wellFormed : t.WellFormed file
  attached_mem : ∀ {i : Nat} {e : Entry}, 0 < i → t.entry? i = some e → e ∈ es
  parked_mem : ∀ {e : Entry}, e ∈ t.parked → e ∈ es
  placed : ∀ {e : Entry}, e ∈ es → e ∈ waiting ∨ (∃ i, t.entry? i = some e) ∨ e ∈ t.parked
  unused : ∀ i, t.isUsed i = false
  batches_eq : t.batches = []

namespace Collects

variable {file : String} {es waiting : List Entry} {t t' : Tree} {e : Entry}

theorem take (hc : Collects file es (e :: waiting) t) (he : e ∈ es) (h : Takes t e t')
    (hp : t'.parked = t.parked) (hq : t'.batches = t.batches) : Collects file es waiting t' := by
  refine ⟨h.wellFormed hc.wellFormed, ?_, ?_, ?_, fun i => h.isUsed_eq i ▸ hc.unused i,
    hq.trans hc.batches_eq⟩
  · intro i e' hi hie
    rcases h.entry?_cases hie with hold | rfl
    · exact hc.attached_mem hi hold
    · exact he
  · intro e' he'
    exact hc.parked_mem (hp ▸ he')
  · intro e' he'
    rcases hc.placed he' with hw | ⟨i, hi⟩ | hpark
    · rcases List.mem_cons.1 hw with rfl | hw
      · exact .inr (.inl h.exists_node)
      · exact .inl hw
    · exact .inr (.inl ⟨i, h.entry?_mono hi⟩)
    · exact .inr (.inr (hp ▸ hpark))

theorem park (hc : Collects file es (e :: waiting) t) (he : e ∈ es) (hn : t'.nodes = t.nodes)
    (hb : t'.byTarget = t.byTarget) (hp : ∀ x, x ∈ t'.parked ↔ x = e ∨ x ∈ t.parked)
    (hq : t'.batches = t.batches) : Collects file es waiting t' := by
  refine ⟨hc.wellFormed.of_eq hn hb, ?_, ?_, ?_, fun i => isUsed_congr hn i ▸ hc.unused i,
    hq.trans hc.batches_eq⟩
  · intro i e' hi hie
    exact hc.attached_mem hi (entry?_congr hn i ▸ hie)
  · intro e' he'
    rcases (hp e').1 he' with rfl | he'
    · exact he
    · exact hc.parked_mem he'
  · intro e' he'
    rcases hc.placed he' with hw | ⟨i, hi⟩ | hpark
    · rcases List.mem_cons.1 hw with rfl | hw
      · exact .inr (.inr ((hp e').2 (.inl rfl)))
      · exact .inl hw
    · exact .inr (.inl ⟨i, (entry?_congr hn i).trans hi⟩)
    · exact .inr (.inr ((hp e').2 (.inr hpark)))

theorem add (hc : Collects file es (e :: waiting) t) (he : e ∈ es) :
    Collects file es waiting (t.add e) := by
  rcases hc.wellFormed.add_cases e with ⟨h, hp, hq⟩ | h
  · exact hc.take he h hp hq
  · rw [h]
    exact hc.park he rfl rfl (fun x => by simp [or_comm]) rfl

theorem foldl_add {todo : List Entry} (hc : Collects file es todo t) (hsub : todo ⊆ es) :
    Collects file es [] (todo.foldl Tree.add t) := by
  induction todo generalizing t with
  | nil => exact hc
  | cons e todo ih =>
    have he := hsub List.mem_cons_self
    exact ih (hc.add he) (fun x hx => hsub (List.mem_cons_of_mem e hx))

theorem mono {waiting' : List Entry} (hc : Collects file es waiting t) (h : waiting ⊆ waiting') :
    Collects file es waiting' t :=
  ⟨hc.wellFormed, hc.attached_mem, hc.parked_mem, fun he => (hc.placed he).imp_left (h ·),
    hc.unused, hc.batches_eq⟩

theorem unpark (hc : Collects file es [] t) :
    Collects file es t.parked { t with parked := [] } := by
  refine ⟨hc.wellFormed.of_eq rfl rfl, hc.attached_mem, fun h => absurd h List.not_mem_nil, ?_,
    hc.unused, hc.batches_eq⟩
  intro e he
  rcases hc.placed he with hw | hi | hpark
  · cases hw
  · exact .inr (.inl hi)
  · exact .inl hpark

theorem resolved (hc : Collects file es waiting t) :
    Collects file es waiting { t with unresolved := [] } :=
  ⟨hc.wellFormed.of_eq rfl rfl, hc.attached_mem, hc.parked_mem, hc.placed, hc.unused,
    hc.batches_eq⟩

end Collects

/-! ## Trying parked directives again -/

def retryEntry (e : Entry) (t : Tree) : Tree :=
  match t.attachAnywhere? e with
  | some t' => t'
  | none => { t with parked := e :: t.parked }

theorem retryOnce_eq (t : Tree) :
    t.retryOnce = t.parked.foldr retryEntry { t with parked := [] } := rfl

theorem retryEntry_cases (e : Entry) (t : Tree) :
    (Takes t e (retryEntry e t) ∧ (retryEntry e t).parked = t.parked ∧
        (retryEntry e t).batches = t.batches) ∨
      (t.Refuses e ∧ retryEntry e t = { t with parked := e :: t.parked }) := by
  unfold retryEntry
  cases h : t.attachAnywhere? e with
  | some t' => exact .inl (takes_of_attachAnywhere? h)
  | none => exact .inr ⟨refuses_of_attachAnywhere? h, rfl⟩

theorem Collects.foldr_retryEntry {file : String} {es waiting : List Entry} {t : Tree}
    (todo : List Entry) (hsub : todo ⊆ es) (hc : Collects file es (todo ++ waiting) t) :
    Collects file es waiting (todo.foldr retryEntry t) := by
  induction todo generalizing waiting with
  | nil => exact hc
  | cons e todo ih =>
    have he := hsub List.mem_cons_self
    -- the later ones are tried first, while this one waits with the rest
    have hc' : Collects file es (e :: waiting) (todo.foldr retryEntry t) :=
      ih (fun x hx => hsub (List.mem_cons_of_mem e hx)) (hc.mono List.perm_middle.symm.subset)
    rw [List.foldr_cons]
    rcases retryEntry_cases e (todo.foldr retryEntry t) with ⟨h, hp, hq⟩ | ⟨-, h⟩
    · exact hc'.take he h hp hq
    · rw [h]
      exact hc'.park he rfl rfl (fun x => List.mem_cons) rfl

/-- A pass leaves fewer directives than it was given, or it refuses them all and changes nothing. -/
theorem foldr_retryEntry_progress (todo : List Entry) (t : Tree) :
    (todo.foldr retryEntry t).parked.length < todo.length + t.parked.length ∨
      (todo.foldr retryEntry t = { t with parked := todo ++ t.parked } ∧
        ∀ e ∈ todo, t.Refuses e) := by
  induction todo with
  | nil => exact .inr ⟨rfl, fun e he => absurd he List.not_mem_nil⟩
  | cons e todo ih =>
    rw [List.foldr_cons, List.length_cons]
    rcases retryEntry_cases e (todo.foldr retryEntry t) with ⟨-, hp, -⟩ | ⟨href, h⟩
    · left
      rw [hp]
      rcases ih with ih | ⟨ih, -⟩
      · omega
      · rw [ih]
        simp
    · rcases ih with ih | ⟨ih, hall⟩
      · left
        rw [h, List.length_cons]
        omega
      · right
        rw [h, ih]
        refine ⟨rfl, fun x hx => ?_⟩
        rcases List.mem_cons.1 hx with rfl | hx
        · rw [ih] at href
          exact href.congr rfl
        · exact hall x hx

theorem Collects.retryOnce {file : String} {es : List Entry} {t : Tree}
    (hc : Collects file es [] t) : Collects file es [] t.retryOnce := by
  rw [retryOnce_eq]
  refine Collects.foldr_retryEntry _ (fun e he => hc.parked_mem he) ?_
  rw [List.append_nil]
  exact hc.unpark

theorem refuses_of_retryOnce {t : Tree} (h : ¬ t.retryOnce.parked.length < t.parked.length)
    {e : Entry} (he : e ∈ t.retryOnce.parked) : t.retryOnce.Refuses e := by
  rw [retryOnce_eq] at h he ⊢
  rcases foldr_retryEntry_progress t.parked { t with parked := [] } with hlt | ⟨heq, hall⟩
  · exact absurd hlt h
  · rw [heq] at he ⊢
    simp only [List.append_nil] at he
    exact (hall e he).congr rfl

theorem Collects.settle {file : String} {es : List Entry} {t : Tree}
    (hc : Collects file es [] t) :
    Collects file es [] t.settle ∧ ∀ e ∈ t.settle.parked, t.settle.Refuses e := by
  fun_induction Tree.settle t with
  | case1 t hlt ih => exact ih hc.retryOnce
  | case2 t hlt => exact ⟨hc.retryOnce, fun e he => refuses_of_retryOnce hlt he⟩

theorem Collects.retry {file : String} {es : List Entry} {t : Tree} (hc : Collects file es [] t) :
    Collects file es [] t.retry ∧ ∀ e ∈ t.retry.parked, t.retry.Refuses e :=
  hc.resolved.settle

/-! ## The built tree -/

theorem collects_ofFile (file : String) (es : List Entry) : Collects file es es (ofFile file) := by
  refine ⟨wellFormed_ofFile file, ?_, fun h => absurd h List.not_mem_nil, fun he => .inl he, ?_,
    rfl⟩
  · intro i e hi he
    have hlt := lt_size_of_entry he
    have : (ofFile file).nodes.size = 1 := rfl
    omega
  · intro i
    cases i with
    | zero => rfl
    | succ i => rfl

theorem build_collects (file : String) (es : List Entry) : Collects file es [] (build file es) :=
  ((collects_ofFile file es).foldl_add (fun _ h => h)).retry.1

theorem build_wellFormed (file : String) (es : List Entry) : (build file es).WellFormed file :=
  (build_collects file es).wellFormed

instance decidableBelow (file : String) (es : List Entry) (i j : Nat) :
    Decidable ((build file es).Below i j) :=
  decidable_of_iff _ ((build_wellFormed file es).belowWithin_iff i (Nat.le_refl j))

theorem build_refuses {file : String} {es : List Entry} {e : Entry}
    (he : e ∈ (build file es).parked) : (build file es).Refuses e :=
  ((collects_ofFile file es).foldl_add (fun _ h => h)).retry.2 e he

/-- Every file that the directives reach is the target of a node, once no node may take what is
parked. -/
theorem Collects.exists_target?_of_reaches {file path : String} {es : List Entry} {t : Tree}
    (hc : Collects file es [] t) (href : ∀ e ∈ t.parked, t.Refuses e) (h : Reaches es file path) :
    ∃ i, t.target? i = some path := by
  induction h with
  | refl => exact ⟨0, hc.wellFormed.target?_root⟩
  | tail _ hstep ih =>
    obtain ⟨i, hi⟩ := ih
    obtain ⟨e, he, rfl, rfl⟩ := hstep
    rcases hc.placed he with hw | ⟨j, hj⟩ | hpark
    · cases hw
    · exact ⟨j, target?_of_entry hj⟩
    · -- a parked directive whose source has a node includes its own source
      rw [← (href e hpark).2 i hi]
      exact ⟨i, hi⟩

theorem exists_target?_of_reaches {file path : String} {es : List Entry}
    (h : Reaches es file path) : ∃ i, (build file es).target? i = some path :=
  (build_collects file es).exists_target?_of_reaches (fun _ he => build_refuses he) h

theorem WellFormed.reaches_target {file : String} {t : Tree} (wf : t.WellFormed file)
    {es : List Entry} {i : Nat} {path : String} (hi : t.target? i = some path)
    (hmem : ∀ j e, 0 < j → t.Below j i → t.entry? j = some e → e ∈ es) :
    Reaches es file path := by
  induction i using Nat.strongRecOn generalizing path with
  | ind i ih =>
    rcases Nat.eq_zero_or_pos i with rfl | hpos
    · rw [wf.target?_root] at hi
      cases hi
      exact Relation.ReflTransGen.refl
    · obtain ⟨e, he, rfl⟩ := exists_entry?_of_target? hi
      obtain ⟨p, hlt, hp, htarget⟩ := wf.parent hpos he
      have hreach : Reaches es file e.source :=
        ih p hlt htarget (fun j e' hj hb => hmem j e' hj (.step hp hb))
      exact hreach.step (hmem i e hpos .refl he)

end Tree
end IncludeScan
