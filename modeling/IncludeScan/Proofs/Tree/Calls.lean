import IncludeScan.Proofs.Tree.Choice

/-!
Trees under any sequence of calls.

Directives are added and retried, nodes are marked, looked up and settled, in any order. Calls that
only use a tree mark nodes and change batches (`Usage.markedFrom`), so they keep its shape; calls
that make it grow keep what is attached. From that follows the invariant of all of them
(`Consistent`), and so of every run (`consistent_run`): the nodes form a tree, the lists of children
and the table of targets agree with the nodes, and the unresolved nodes and the members of batches
are nodes.
-/

set_option autoImplicit false

namespace IncludeScan.Tree

/-! ## Calls -/

inductive Growth where
  | add (e : Entry)
  | retry

inductive Usage where
  | mark (i : Nat)
  | findNode (path : String)
  | singleRootInclude (path : String)
  | checkBatches
  | resolveBatches

inductive Call where
  | grow (g : Growth)
  | use (u : Usage)

def Growth.apply (t : Tree) : Growth → Tree
  | .add e => t.add e
  | .retry => t.retry

/-- Marking a node that is not there changes nothing. -/
def Usage.apply (t : Tree) : Usage → Tree
  | .mark i => t.mark i
  | .findNode path => (t.findNode path).2
  | .singleRootInclude path => (t.singleRootInclude path).2
  | .checkBatches => t.checkBatches
  | .resolveBatches => t.resolveBatches

def Call.apply (t : Tree) : Call → Tree
  | .grow g => g.apply t
  | .use u => u.apply t

def run (file : String) (calls : List Call) : Tree :=
  calls.foldl Call.apply (ofFile file)

theorem run_concat (file : String) (calls : List Call) (c : Call) :
    run file (calls ++ [c]) = c.apply (run file calls) := by
  unfold run
  rw [List.foldl_append, List.foldl_cons, List.foldl_nil]

/-! ## Using a tree -/

/-- The second tree comes from the first by marking nodes and changing batches. -/
inductive MarkedFrom (t : Tree) : Tree → Prop
  | refl : MarkedFrom t t
  | mark {t' : Tree} (h : MarkedFrom t t') (i : Nat) : MarkedFrom t (t'.mark i)
  | batches {t' : Tree} (h : MarkedFrom t t') (bs : List (List Nat)) :
      MarkedFrom t { t' with batches := bs }

theorem MarkedFrom.trans {t t' t'' : Tree} (h : MarkedFrom t t') (h' : MarkedFrom t' t'') :
    MarkedFrom t t'' := by
  induction h' with
  | refl => exact h
  | mark _ i ih => exact ih.mark i
  | batches _ bs ih => exact ih.batches bs

theorem MarkedFrom.sameShape {t t' : Tree} (h : MarkedFrom t t') : SameShape t t' := by
  induction h with
  | refl => exact .refl t
  | mark _ i ih => exact ih.trans (sameShape_markAll _ [i])
  | batches _ bs ih => exact ih.trans (sameShape_batches _ bs)

theorem markedFrom_findNode (t : Tree) (path : String) : MarkedFrom t (t.findNode path).2 := by
  have hcheck : MarkedFrom t t.checkBatches := .batches .refl _
  rcases findNode_cases t path with ⟨-, h⟩ | ⟨i, -, h⟩ | ⟨-, h⟩
  · rw [h]
    exact hcheck
  · rw [h]
    exact hcheck
  · rw [h]
    exact hcheck.batches _

theorem markedFrom_foldl_settleBatch (bs : List (List Nat)) (t : Tree) :
    MarkedFrom t (bs.foldl settleBatch t) := by
  induction bs generalizing t with
  | nil => exact .refl
  | cons b bs ih =>
    refine MarkedFrom.trans ?_ (ih (t.settleBatch b))
    rcases settleBatch_cases t b with h | ⟨r, h⟩
    · rw [h]
      exact .refl
    · rw [h]
      exact .mark .refl r

theorem Usage.markedFrom (t : Tree) (u : Usage) : MarkedFrom t (u.apply t) := by
  cases u with
  | mark i => exact .mark .refl i
  | findNode path => exact markedFrom_findNode t path
  | singleRootInclude path => exact markedFrom_findNode t path
  | checkBatches => exact .batches .refl _
  | resolveBatches =>
    have hclear : MarkedFrom t { t.checkBatches with batches := [] } := .batches .refl []
    exact hclear.trans (markedFrom_foldl_settleBatch _ _)

theorem Usage.sameShape (t : Tree) (u : Usage) : SameShape t (u.apply t) :=
  (u.markedFrom t).sameShape

theorem batches_findNode {t : Tree} {path : String} {b : List Nat}
    (hb : b ∈ (t.findNode path).2.batches) :
    b ∈ t.batches ∨ b = t.nodesFor path ∧ 2 ≤ b.length := by
  have hold : b ∈ t.checkBatches.batches → b ∈ t.batches := fun h => (List.mem_filter.1 h).1
  rcases findNode_cases t path with ⟨-, h⟩ | ⟨i, -, h⟩ | ⟨hlen, h⟩
  · rw [h] at hb
    exact .inl (hold hb)
  · rw [h] at hb
    exact .inl (hold hb)
  · rw [h] at hb
    rcases List.mem_append.1 hb with hb | hb
    · exact .inl (hold hb)
    · rw [List.mem_singleton.1 hb]
      exact .inr ⟨rfl, hlen⟩

theorem Usage.batches_cases {t : Tree} {u : Usage} {b : List Nat} (hb : b ∈ (u.apply t).batches) :
    b ∈ t.batches ∨ ∃ path, b = t.nodesFor path ∧ 2 ≤ b.length := by
  have hfind : ∀ path, b ∈ (t.findNode path).2.batches →
      b ∈ t.batches ∨ ∃ path, b = t.nodesFor path ∧ 2 ≤ b.length :=
    fun path h => (batches_findNode h).imp_right fun hnew => ⟨path, hnew⟩
  cases u with
  | mark i => exact .inl (batches_markAll t [i] ▸ hb)
  | findNode path => exact hfind path hb
  | singleRootInclude path => exact hfind path hb
  | checkBatches => exact .inl (List.mem_filter.1 hb).1
  | resolveBatches =>
    have hnil : (Usage.resolveBatches.apply t).batches = [] := batches_resolveBatches t
    rw [hnil] at hb
    cases hb

/-! ## Growing a tree -/

theorem Takes.size_le {t t' : Tree} {e : Entry} (h : Takes t e t') :
    t.nodes.size ≤ t'.nodes.size := by
  cases h with
  | absorbed _ hn _ => exact Nat.le_of_eq (congrArg Array.size hn.symm)
  | attached p _ _ hn _ =>
    rw [hn, size_attach]
    exact Nat.le_succ _

theorem unresolved_of_attachAnywhere? {t t' : Tree} {e : Entry}
    (h : t.attachAnywhere? e = some t') : t'.unresolved = t.unresolved := by
  unfold attachAnywhere? at h
  split at h
  · cases h
    rfl
  · obtain ⟨p, -, rfl⟩ := Option.map_eq_some_iff.1 h
    rfl

/-- Only a node attached below an unresolved one becomes unresolved. -/
theorem unresolved_add {t : Tree} {e : Entry} {i : Nat} (hi : i ∈ (t.add e).unresolved) :
    i ∈ t.unresolved ∨ i = t.nodes.size ∧ (t.add e).nodes.size = t.nodes.size + 1 := by
  unfold add at hi ⊢
  split at hi
  · exact .inl hi
  · next hnew =>
    rw [if_neg hnew]
    split at hi
    · next p hp =>
      rcases List.mem_append.1 hi with hold | hlast
      · left
        split at hold
        · exact (List.mem_filter.1 hold).1
        · exact hold
      · exact .inr ⟨List.mem_singleton.1 hlast, size_attach t p e⟩
    · split at hi
      · next t' ht' =>
        rw [unresolved_of_attachAnywhere? ht'] at hi
        exact .inl hi
      · exact .inl hi

/-- What is kept by parking and by attaching is kept by all passes over the parked directives. -/
theorem settle_induction {P : Tree → Prop} (hpark : ∀ t parked, P t → P { t with parked := parked })
    (htake : ∀ t e t', t.attachAnywhere? e = some t' → P t → P t') {t : Tree} (h : P t) :
    P t.settle := by
  have hentry : ∀ e t, P t → P (retryEntry e t) := by
    intro e t ht
    unfold retryEntry
    split
    · next t' ht' => exact htake t e t' ht' ht
    · exact hpark t _ ht
  have hpass : ∀ t, P t → P t.retryOnce := by
    intro t ht
    rw [retryOnce_eq]
    induction t.parked with
    | nil => exact hpark t [] ht
    | cons e todo ih => exact hentry e _ ih
  fun_induction settle t with
  | case1 t _ ih => exact ih (hpass t h)
  | case2 t _ => exact hpass t h

/-! ## The invariant -/

/-- A well-formed tree whose unresolved nodes are attached, and whose batches hold at least two
nodes each, all for one path. -/
structure Consistent (file : String) (t : Tree) : Prop extends WellFormed file t where
  unresolved_lt : ∀ {i : Nat}, i ∈ t.unresolved → i < t.nodes.size
  batches_large : ∀ {b : List Nat}, b ∈ t.batches → 2 ≤ b.length
  batches_target : ∀ {b : List Nat}, b ∈ t.batches →
    ∃ path, ∀ i ∈ b, t.target? i = some path

namespace Consistent

variable {file : String} {t t' : Tree}

theorem of_eq (h : t.Consistent file) (hn : t'.nodes = t.nodes) (hb : t'.byTarget = t.byTarget)
    (hu : t'.unresolved ⊆ t.unresolved) (hq : t'.batches = t.batches) : t'.Consistent file := by
  refine ⟨h.toWellFormed.of_eq hn hb, fun hi => hn ▸ h.unresolved_lt (hu hi),
    fun hb => h.batches_large (hq ▸ hb), fun hb => ?_⟩
  obtain ⟨path, hpath⟩ := h.batches_target (hq ▸ hb)
  exact ⟨path, fun i hi => (target?_congr hn i).trans (hpath i hi)⟩

theorem take {e : Entry} (h : t.Consistent file) (ht : Takes t e t')
    (hu : ∀ i ∈ t'.unresolved, i < t'.nodes.size) (hq : t'.batches = t.batches) :
    t'.Consistent file := by
  refine ⟨ht.wellFormed h.toWellFormed, fun hi => hu _ hi, fun hb => h.batches_large (hq ▸ hb),
    fun hb => ?_⟩
  obtain ⟨path, hpath⟩ := h.batches_target (hq ▸ hb)
  refine ⟨path, fun i hi => ?_⟩
  obtain ⟨e', he', rfl⟩ := exists_entry?_of_target? (hpath i hi)
  exact target?_of_entry (ht.entry?_mono he')

theorem add (h : t.Consistent file) (e : Entry) : (t.add e).Consistent file := by
  rcases h.toWellFormed.add_cases e with ⟨ht, -, hq⟩ | hpark
  · refine h.take ht (fun i hi => ?_) hq
    rcases unresolved_add hi with hold | ⟨rfl, hsize⟩
    · exact Nat.lt_of_lt_of_le (h.unresolved_lt hold) ht.size_le
    · omega
  · rw [hpark]
    exact h.of_eq rfl rfl (List.Subset.refl _) rfl

theorem attachAnywhere? {e : Entry} (h : t.Consistent file) (ht : t.attachAnywhere? e = some t') :
    t'.Consistent file := by
  obtain ⟨htakes, -, hq⟩ := takes_of_attachAnywhere? ht
  refine h.take htakes (fun i hi => ?_) hq
  rw [unresolved_of_attachAnywhere? ht] at hi
  exact Nat.lt_of_lt_of_le (h.unresolved_lt hi) htakes.size_le

theorem retry (h : t.Consistent file) : t.retry.Consistent file := by
  have hclear : ({ t with unresolved := [] } : Tree).Consistent file :=
    h.of_eq rfl rfl (List.nil_subset _) rfl
  refine settle_induction (fun t parked ht => ?_) (fun t e t' ht' ht => ?_) hclear
  · exact ht.of_eq rfl rfl (List.Subset.refl _) rfl
  · exact ht.attachAnywhere? ht'

theorem use (h : t.Consistent file) (u : Usage) : (u.apply t).Consistent file := by
  have hs := u.sameShape t
  have hmem : ∀ {b}, b ∈ (u.apply t).batches →
      2 ≤ b.length ∧ ∃ path, ∀ i ∈ b, t.target? i = some path := by
    intro b hb
    rcases Usage.batches_cases hb with hold | ⟨path, rfl, hlen⟩
    · exact ⟨h.batches_large hold, h.batches_target hold⟩
    · exact ⟨hlen, path, fun i hi => (h.mem_nodesFor.1 hi).2⟩
  refine ⟨hs.wellFormed h.toWellFormed, fun hi => ?_, fun hb => (hmem hb).1, fun hb => ?_⟩
  · rw [hs.unresolved_eq] at hi
    rw [hs.size_eq]
    exact h.unresolved_lt hi
  · obtain ⟨path, hpath⟩ := (hmem hb).2
    exact ⟨path, fun i hi => (hs.target_eq i).trans (hpath i hi)⟩

theorem apply (h : t.Consistent file) (c : Call) : (c.apply t).Consistent file := by
  match c with
  | .grow (.add e) => exact h.add e
  | .grow .retry => exact h.retry
  | .use u => exact h.use u

end Consistent

theorem consistent_ofFile (file : String) : (ofFile file).Consistent file := by
  refine ⟨wellFormed_ofFile file, fun hi => ?_, fun hb => ?_, fun hb => ?_⟩
  · rw [List.mem_singleton.1 hi]
    exact Nat.one_pos
  · cases hb
  · cases hb

theorem consistent_run (file : String) (calls : List Call) : (run file calls).Consistent file := by
  induction calls using List.reverseRecOn with
  | nil => exact consistent_ofFile file
  | append_singleton calls c ih =>
    rw [run_concat]
    exact ih.apply c

/-- After any calls, node `0` stands for the file and every other node hangs below an earlier one
that includes its source; the lists of children and the table of targets hold the nodes they
should, in the order of attaching; no directive is attached twice; and the unresolved nodes and
the members of batches are nodes, with at least two to a batch and one path for all of it. -/
theorem run_representation (file : String) (calls : List Call) :
    let t := run file calls
    t.entry? 0 = some ⟨file, file, 0⟩ ∧ t.parent? 0 = none ∧
      (∀ i e, 0 < i → t.entry? i = some e →
        ∃ p < i, t.parent? i = some p ∧ t.target? p = some e.source) ∧
      (∀ i, t.children i = (List.range t.nodes.size).filter (fun j => t.parent? j = some i)) ∧
      (∀ path, t.nodesFor path =
        (List.range t.nodes.size).filter (fun j => 0 < j ∧ t.target? j = some path)) ∧
      (∀ i j e, 0 < i → 0 < j → t.entry? i = some e → t.entry? j = some e → i = j) ∧
      (∀ i ∈ t.unresolved, i < t.nodes.size) ∧
      ∀ b ∈ t.batches, 2 ≤ b.length ∧ (∀ i ∈ b, i < t.nodes.size) ∧
        ∃ path, ∀ i ∈ b, t.target? i = some path := by
  have h := consistent_run file calls
  refine ⟨h.root_entry, h.root_parent, fun i e => h.parent, h.children_eq, h.nodesFor_eq,
    fun i j e => h.entry_inj, fun i => h.unresolved_lt, fun b hb => ?_⟩
  obtain ⟨path, hpath⟩ := h.batches_target hb
  exact ⟨h.batches_large hb, fun i hi => lt_size_of_target? (hpath i hi), path, hpath⟩

def lookedUp : List Call :=
  [.grow (.add ⟨"/F.m", "/A.h", 1⟩), .grow (.add ⟨"/F.m", "/C.h", 2⟩),
    .grow (.add ⟨"/A.h", "/H.h", 1⟩), .grow (.add ⟨"/C.h", "/H.h", 1⟩),
    .use (.findNode "/H.h"), .grow (.add ⟨"/H.h", "/A.h", 1⟩)]

theorem lookedUp_representation :
    let t := run "/F.m" lookedUp
    t.batches = [[3, 4]] ∧ (∃ p < 5, t.parent? 5 = some p ∧ t.target? p = some "/H.h") ∧
      ∃ path, ∀ i ∈ [3, 4], t.target? i = some path := by
  obtain ⟨-, -, hparent, -, -, -, -, hbatches⟩ := run_representation "/F.m" lookedUp
  have hb : (run "/F.m" lookedUp).batches = [[3, 4]] := by decide +kernel
  have he : entry? (run "/F.m" lookedUp) 5 = some ⟨"/H.h", "/A.h", 1⟩ := by decide +kernel
  obtain ⟨-, -, hpath⟩ := hbatches [3, 4] (by rw [hb]; exact List.mem_singleton.2 rfl)
  exact ⟨hb, hparent 5 _ (by decide) he, hpath⟩

end IncludeScan.Tree
