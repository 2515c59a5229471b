import IncludeScan.Index.Rows
import IncludeScan.Proofs.Index.Memory
import Mathlib.Data.List.Nodup
import Mathlib.Data.Nat.Bitwise

/-!
What the rows of a store say.

`Stores r s`: the four tables of `r` hold the units and the occurrences of the snapshot `s`. This
is kept by every import (`Stores.importUnit`, `Stores.importOccurrence`), so after any number of
them the store holds the snapshots merged into one (`stores_imports`). And then every query of the
tables has the answer of the index in memory, errors and order included (`Stores.queries_eq`).
-/

set_option autoImplicit false

namespace IncludeScan

/-! ## Merged snapshots -/

namespace Snapshot

/-- Puts a unit in the place of the one of its name, or at the end when there is none. -/
def placeUnit (us : List CompilationUnit) (u : CompilationUnit) : List CompilationUnit :=
  if u.name ∈ us.map (·.name) then us.map (fun v => if v.name = u.name then u else v)
  else us ++ [u]

/-- The units of all snapshots, a later one in the place of an earlier one of its name, and all
occurrences. -/
def merge (shots : List Snapshot) : Snapshot :=
  ⟨(shots.flatMap (·.units)).foldl placeUnit [], shots.flatMap (·.occurrences)⟩

variable {us : List CompilationUnit} {u v : CompilationUnit}

theorem mem_placeUnit : v ∈ placeUnit us u ↔ v = u ∨ v ∈ us ∧ v.name ≠ u.name := by
  unfold placeUnit
  split
  · next h =>
    obtain ⟨w, hw, hname⟩ := List.mem_map.1 h
    simp only [List.mem_map]
    constructor
    · rintro ⟨x, hx, rfl⟩
      by_cases hxu : x.name = u.name
      · simp [hxu]
      · simp [hxu, hx]
    · rintro (rfl | ⟨hv, hne⟩)
      · exact ⟨w, hw, if_pos hname⟩
      · exact ⟨v, hv, if_neg hne⟩
  · next h =>
    have hne : v ∈ us → v.name ≠ u.name := fun hv heq => h (heq ▸ List.mem_map.2 ⟨v, hv, rfl⟩)
    simp only [List.mem_append, List.mem_singleton]
    tauto

theorem map_name_placeUnit (us : List CompilationUnit) (u : CompilationUnit) :
    (placeUnit us u).map (·.name) =
      if u.name ∈ us.map (·.name) then us.map (·.name) else us.map (·.name) ++ [u.name] := by
  unfold placeUnit
  split
  · rw [List.map_map]
    refine List.map_congr_left fun v _ => ?_
    by_cases hv : v.name = u.name
    · simp [hv]
    · simp [hv]
  · simp

theorem nodup_placeUnit (h : (us.map (·.name)).Nodup) (u : CompilationUnit) :
    ((placeUnit us u).map (·.name)).Nodup := by
  rw [map_name_placeUnit]
  split
  · exact h
  · next hu =>
    rw [← List.concat_eq_append]
    exact h.concat hu

theorem placeUnit_cons_of_eq (h : v.name = u.name) (hv : v.name ∉ us.map (·.name)) :
    placeUnit (v :: us) u = u :: us := by
  have hrest : us.map (fun w => if w.name = u.name then u else w) = us := by
    refine (List.map_congr_left fun w hw => ?_).trans (List.map_id us)
    refine if_neg fun hwu => hv ?_
    rw [h, ← hwu]
    exact List.mem_map.2 ⟨w, hw, rfl⟩
  simp [placeUnit, h, hrest]

theorem placeUnit_cons_of_ne (h : v.name ≠ u.name) :
    placeUnit (v :: us) u = v :: placeUnit us u := by
  have hne : ¬ u.name = v.name := fun heq => h heq.symm
  unfold placeUnit
  by_cases hu : u.name ∈ us.map (·.name)
  · rw [if_pos (by simp [hu]), if_pos hu, List.map_cons, if_neg h]
  · rw [if_neg (by simp [hu, hne]), if_neg hu, List.cons_append]

end Snapshot

/-! ## Reading what was written -/

namespace RowStore

theorem toInt_ofUInt32 (n : UInt32) : (ofUInt32 n).toInt = n.toNat := by
  have hlt : n.toNat < 4294967296 := n.toNat_lt
  unfold ofUInt32
  rw [Int64.toInt, UInt64.toBitVec_toInt64, BitVec.toInt_eq_toNat_of_lt]
  · simp
  · simp
    omega

theorem toUInt32_ofUInt32 (column : Nat) (n : UInt32) : toUInt32 column (ofUInt32 n) = .ok n := by
  have hlt : n.toNat < 4294967296 := n.toNat_lt
  unfold toUInt32
  rw [toInt_ofUInt32, if_pos (by omega), Int.toNat_natCast]
  simp

theorem ofUInt32_inj {a b : UInt32} : ofUInt32 a = ofUInt32 b ↔ a = b := by
  constructor
  · intro h
    have hint := congrArg Int64.toInt h
    rw [toInt_ofUInt32, toInt_ofUInt32] at hint
    exact UInt32.toNat_inj.1 (by omega)
  · exact congrArg ofUInt32

theorem hasRole_ofUInt32 (a b : Roles) : hasRole (ofUInt32 a.bits) b = a.intersects b := by
  have hand : ofUInt32 a.bits &&& ofUInt32 b.bits = ofUInt32 (a.bits &&& b.bits) := by
    simp [ofUInt32]
  have hzero : (0 : Int64) = ofUInt32 0 := rfl
  rw [hasRole, hand, hzero, Roles.intersects, Bool.eq_iff_iff, bne_iff_ne, bne_iff_ne, ne_eq,
    ofUInt32_inj]

theorem contains_canonical (a : Roles) : a.contains .canonical = a.intersects .canonical := by
  obtain ⟨bits⟩ := a
  have hbit : bits &&& 16 = 0 ∨ bits &&& 16 = 16 := by
    have hnat := Nat.and_two_pow bits.toNat 4
    rcases h : bits.toNat.testBit 4 with _ | _
    · refine .inl (UInt32.toNat_inj.1 ?_)
      simpa [h] using hnat
    · refine .inr (UInt32.toNat_inj.1 ?_)
      simpa [h] using hnat
  rcases hbit with h | h
  · simp [Roles.contains, Roles.intersects, Roles.canonical, h]
  · simp [Roles.contains, Roles.intersects, Roles.canonical, h]

theorem filter_key_eq {α κ : Type} [DecidableEq κ] {key : α → κ} {k : κ} {l : List α}
    (h : ∀ x ∈ l, key x = k) (k' : κ) :
    l.filter (fun x => key x = k') = if k = k' then l else [] := by
  split
  · next hk => exact List.filter_eq_self.2 fun x hx => by simp [h x hx, hk]
  · next hk => exact List.filter_eq_nil_iff.2 fun x hx => by simp [h x hx, hk]

theorem decodeInclude_includeRow (name : String) (i : Int) (e : Entry) :
    decodeInclude ⟨name, i, e.source, e.target, ofUInt32 e.line⟩ = .ok e := by
  unfold decodeInclude
  rw [toUInt32_ofUInt32]
  rfl

theorem decodeRelation_relationRow (id : Int) (r : Relation) :
    decodeRelation (relationRow id r) = .ok r := by
  unfold decodeRelation relationRow
  rw [toUInt32_ofUInt32, Kind.ofName_name]
  rfl

theorem decodeOccurrence_occurrenceRow (id : Int) (o : Occurrence) :
    decodeOccurrence (occurrenceRow id o) = .ok { o with relations := [] } := by
  unfold decodeOccurrence occurrenceRow
  simp only [toUInt32_ofUInt32, Kind.ofName_name]
  rfl

/-! ## Stores of a snapshot -/

def unitRow (u : CompilationUnit) : UnitRow :=
  ⟨u.name, u.mainFile, u.modifiedAt⟩

def numberedRow (p : Occurrence × Nat) : OccurrenceRow :=
  occurrenceRow p.2 p.1

def numberedRelations (p : Occurrence × Nat) : List RelationRow :=
  p.1.relations.map (relationRow p.2)

/-- The rows are those of the snapshot: its units in order and under distinct names, the includes of
each in order, and the occurrences numbered from one. -/
structure Stores (r : RowStore) (s : Snapshot) : Prop where
  nodup : (s.units.map (·.name)).Nodup
  units : r.units = s.units.map unitRow
  includes : ∀ u ∈ s.units, r.includes.filter (fun row => row.unit = u.name) = includeRows u
  occurrences : r.occurrences = (s.occurrences.zipIdx 1).map numberedRow
  relations : r.relations = (s.occurrences.zipIdx 1).flatMap numberedRelations

theorem stores_empty : Stores .empty ⟨[], []⟩ :=
  ⟨List.nodup_nil, rfl, fun _ h => absurd h List.not_mem_nil, rfl, rfl⟩

theorem putUnit_map {us : List CompilationUnit} (h : (us.map (·.name)).Nodup)
    (u : CompilationUnit) :
    putUnit (unitRow u) (us.map unitRow) = (Snapshot.placeUnit us u).map unitRow := by
  induction us with
  | nil => rfl
  | cons v us ih =>
    obtain ⟨hv, hrest⟩ := List.nodup_cons.1 h
    rw [List.map_cons, putUnit]
    by_cases hname : v.name = u.name
    · have hrow : (unitRow v).name = (unitRow u).name := hname
      rw [if_pos hrow, Snapshot.placeUnit_cons_of_eq hname hv, List.map_cons]
    · have hrow : ¬ (unitRow v).name = (unitRow u).name := hname
      rw [if_neg hrow, Snapshot.placeUnit_cons_of_ne hname, List.map_cons, ih hrest]

theorem filter_includeRows (u : CompilationUnit) (name : String) :
    (includeRows u).filter (fun row => row.unit = name) =
      if u.name = name then includeRows u else [] := by
  refine filter_key_eq (fun row hrow => ?_) name
  obtain ⟨p, -, rfl⟩ := List.mem_map.1 hrow
  rfl

theorem zipIdx_concat (os : List Occurrence) (o : Occurrence) :
    (os ++ [o]).zipIdx 1 = os.zipIdx 1 ++ [(o, os.length + 1)] := by
  rw [List.zipIdx_append, List.zipIdx_singleton, Nat.add_comm]

theorem max?_numbered (os : List Occurrence) (o : Occurrence) :
    ((((os ++ [o]).zipIdx 1).map numberedRow).map (·.id)).max? = some ((os.length : Int) + 1) := by
  rw [List.map_map, List.max?_eq_some_iff, zipIdx_concat, List.map_append]
  refine ⟨by simp [numberedRow, occurrenceRow], fun n hn => ?_⟩
  rcases List.mem_append.1 hn with hn | hn
  · obtain ⟨⟨x, i⟩, hp, rfl⟩ := List.mem_map.1 hn
    have hlt := (List.mem_zipIdx hp).2.1
    show (i : Int) ≤ _
    omega
  · simp [numberedRow, occurrenceRow] at hn
    omega

namespace Stores

variable {r : RowStore} {s : Snapshot}

theorem nextId (h : Stores r s) : r.nextId = (s.occurrences.length : Int) + 1 := by
  rw [RowStore.nextId, h.occurrences]
  induction s.occurrences using List.reverseRecOn with
  | nil => rfl
  | append_singleton os o =>
    rw [max?_numbered, List.length_append]
    rfl

/-- The old includes of the name go and the new ones come last; those of other units stay. -/
theorem importUnit (h : Stores r s) (u : CompilationUnit) :
    Stores (r.importUnit u) ⟨Snapshot.placeUnit s.units u, s.occurrences⟩ := by
  refine ⟨Snapshot.nodup_placeUnit h.nodup u, ?_, ?_, h.occurrences, h.relations⟩
  · rw [← putUnit_map h.nodup, ← h.units]
    rfl
  · intro v hv
    have hsplit : (r.importUnit u).includes.filter (fun row => row.unit = v.name) =
        (r.includes.filter (fun row => row.unit ≠ u.name)).filter (fun row => row.unit = v.name) ++
          if u.name = v.name then includeRows u else [] := by
      rw [← filter_includeRows, ← List.filter_append]
      rfl
    rw [hsplit, List.filter_filter]
    rcases Snapshot.mem_placeUnit.1 hv with rfl | ⟨hold, hne⟩
    · have hgone : r.includes.filter
          (fun row => decide (row.unit = v.name) && decide (row.unit ≠ v.name)) = [] :=
        List.filter_eq_nil_iff.2 fun row _ => by simp
      rw [hgone, if_pos rfl, List.nil_append]
    · have hkept : r.includes.filter
          (fun row => decide (row.unit = v.name) && decide (row.unit ≠ u.name)) =
          r.includes.filter (fun row => row.unit = v.name) := by
        refine List.filter_congr fun row _ => ?_
        by_cases hrow : row.unit = v.name
        · simp [hrow, hne]
        · simp [hrow]
      rw [hkept, h.includes v hold, if_neg (fun heq => hne heq.symm), List.append_nil]

theorem importOccurrence (h : Stores r s) (o : Occurrence) :
    Stores (r.importOccurrence o) ⟨s.units, s.occurrences ++ [o]⟩ := by
  refine ⟨h.nodup, h.units, h.includes, ?_, ?_⟩
  · rw [RowStore.importOccurrence, zipIdx_concat, List.map_append, ← h.occurrences, h.nextId]
    rfl
  · rw [RowStore.importOccurrence, zipIdx_concat, List.flatMap_append, ← h.relations, h.nextId,
      List.flatMap_singleton]
    rfl

theorem foldl_importUnit (h : Stores r s) (us : List CompilationUnit) :
    Stores (us.foldl RowStore.importUnit r)
      ⟨us.foldl Snapshot.placeUnit s.units, s.occurrences⟩ := by
  induction us generalizing r s with
  | nil => exact h
  | cons u us ih => exact ih (h.importUnit u)

theorem foldl_importOccurrence (h : Stores r s) (os : List Occurrence) :
    Stores (os.foldl RowStore.importOccurrence r) ⟨s.units, s.occurrences ++ os⟩ := by
  induction os generalizing r s with
  | nil =>
    rw [List.append_nil]
    exact h
  | cons o os ih =>
    have hrest := ih (h.importOccurrence o)
    rwa [List.append_assoc] at hrest

theorem importSnapshot (h : Stores r s) (shot : Snapshot) :
    Stores (r.importSnapshot shot)
      ⟨shot.units.foldl Snapshot.placeUnit s.units, s.occurrences ++ shot.occurrences⟩ :=
  (h.foldl_importUnit shot.units).foldl_importOccurrence shot.occurrences

end Stores

/-- After any number of imports the store holds the snapshots merged into one. -/
theorem stores_imports (shots : List Snapshot) :
    Stores (shots.foldl importSnapshot .empty) (Snapshot.merge shots) := by
  induction shots using List.reverseRecOn with
  | nil => exact stores_empty
  | append_singleton shots shot ih =>
    have hnext := ih.importSnapshot shot
    rw [List.foldl_append]
    unfold Snapshot.merge at hnext ⊢
    rw [List.flatMap_append, List.flatMap_append, List.foldl_append, List.flatMap_singleton,
      List.flatMap_singleton]
    exact hnext

/-! ## Answers about units -/

namespace Stores

variable {r : RowStore} {s : Snapshot} (h : Stores r s)
include h

theorem unit?_eq (name : String) :
    r.unit? name = match s.unit? name with
      | some u => .ok (unitRow u)
      | none => .error (.unknownUnit name) := by
  have hfind : r.units.find? (fun row => row.name == name) = (s.unit? name).map unitRow := by
    rw [h.units, List.find?_map]
    rfl
  unfold RowStore.unit?
  rw [hfind]
  cases s.unit? name with
  | none => rfl
  | some u => rfl

theorem includes_any {u : CompilationUnit} (hu : u ∈ s.units) (p : IncludeRow → Bool) :
    (r.includes.any fun i => i.unit == u.name && p i) = (includeRows u).any p := by
  rw [← h.includes u hu, List.any_filter]
  simp only [beq_eq_decide]

theorem unitsContaining_eq (path : String) : r.unitsContaining path = s.unitsContaining path := by
  unfold RowStore.unitsContaining Snapshot.unitsContaining
  rw [h.units, List.filter_map, List.map_map]
  have hkept : s.units.filter ((fun row : UnitRow => row.mainFile == path || r.includes.any fun i =>
        i.unit == row.name && (i.source == path || i.target == path)) ∘ unitRow) =
      s.units.filter (fun u => u.references path) := by
    refine List.filter_congr fun u hu => ?_
    have hany := h.includes_any hu (fun i => i.source == path || i.target == path)
    have hrows : (includeRows u).any (fun i => i.source == path || i.target == path) =
        u.includes.any (fun e => e.source == path || e.target == path) := by
      rw [includeRows, List.any_map]
      conv_rhs => rw [← List.zipIdx_map_fst 0 u.includes, List.any_map]
      rfl
    simp only [Function.comp_apply, unitRow, CompilationUnit.references, hany, hrows]
  rw [hkept]
  rfl

/-- The sequence numbers of a unit's rows increase, so sorting leaves them as they are. -/
theorem includeRowsOf_eq {u : CompilationUnit} (hu : u ∈ s.units) :
    r.includeRowsOf u.name = includeRows u := by
  have hrows : r.includes.filter (fun row => row.unit == u.name) = includeRows u := by
    simpa only [beq_eq_decide] using h.includes u hu
  unfold RowStore.includeRowsOf
  rw [hrows]
  refine List.mergeSort_of_pairwise ?_
  unfold includeRows
  rw [List.pairwise_map]
  have hsnd : ((u.includes.zipIdx).map Prod.snd).Pairwise (· < ·) := by
    rw [List.zipIdx_map_snd]
    exact List.pairwise_lt_range'
  refine (List.pairwise_map.1 hsnd).imp fun {p q} hlt => ?_
  simp only [decide_eq_true_eq]
  omega

theorem includesOf_eq (name : String) :
    r.includesOf name = match s.unit? name with
      | some u => .ok u.includes
      | none => .error (.unknownUnit name) := by
  unfold RowStore.includesOf
  rw [h.unit?_eq]
  cases hu : s.unit? name with
  | none => rfl
  | some u =>
    have hmem : u ∈ s.units := List.mem_of_find?_eq_some hu
    have hname : u.name = name := by simpa using List.find?_some hu
    subst hname
    have hdecode : (includeRows u).mapM decodeInclude =
        .ok ((u.includes.zipIdx).map Prod.fst) := by
      unfold includeRows
      rw [List.mapM_map]
      exact mapM_eq_pure fun p _ => decodeInclude_includeRow u.name p.2 p.1
    rw [h.includeRowsOf_eq hmem, hdecode, List.zipIdx_map_fst]
    rfl

/-! ## Answers about occurrences -/

omit h in
theorem filter_numberedRelations (q : Occurrence × Nat) (i : Nat) :
    (numberedRelations q).filter (fun row : RelationRow => row.occurrence = (i : Int)) =
      if q.2 = i then numberedRelations q else [] := by
  have hrow : ∀ row ∈ numberedRelations q, row.occurrence = (q.2 : Int) := by
    intro row hrow
    obtain ⟨rel, -, rfl⟩ := List.mem_map.1 hrow
    rfl
  rw [filter_key_eq hrow]
  simp only [Int.natCast_inj]

omit h in
theorem filter_flatMap_numberedRelations {os : List Occurrence} {n : Nat} {p : Occurrence × Nat}
    (hp : p ∈ os.zipIdx n) :
    ((os.zipIdx n).flatMap numberedRelations).filter
        (fun row : RelationRow => row.occurrence = p.2) =
      numberedRelations p := by
  induction os generalizing n with
  | nil => cases hp
  | cons o os ih =>
    have hlater : ∀ q ∈ os.zipIdx (n + 1), n < q.2 := by
      rintro ⟨x, i⟩ hq
      have := (List.mem_zipIdx hq).1
      omega
    rw [List.zipIdx_cons] at hp
    rw [List.zipIdx_cons, List.flatMap_cons, List.filter_append, filter_numberedRelations]
    rcases List.mem_cons.1 hp with rfl | hp
    · have hnone : ((os.zipIdx (n + 1)).flatMap numberedRelations).filter
          (fun row : RelationRow => row.occurrence = n) = [] := by
        rw [List.filter_flatMap, List.flatMap_eq_nil_iff]
        intro q hq
        have := hlater q hq
        rw [filter_numberedRelations, if_neg (by omega)]
      rw [if_pos rfl, hnone, List.append_nil]
    · have := hlater p hp
      rw [if_neg (by simp; omega), List.nil_append, ih hp]

theorem relationsOf_eq {p : Occurrence × Nat} (hp : p ∈ s.occurrences.zipIdx 1) :
    r.relationsOf (numberedRow p) = numberedRelations p := by
  rw [← filter_flatMap_numberedRelations hp, ← h.relations]
  rfl

theorem decodeAll_eq {ps : List (Occurrence × Nat)} (hps : ps ⊆ s.occurrences.zipIdx 1) :
    r.decodeAll (ps.map numberedRow) = .ok (ps.map Prod.fst) := by
  have hrows : (ps.map numberedRow).mapM (fun row => do return (row, ← decodeOccurrence row)) =
      (.ok (ps.map fun p => (numberedRow p, { p.1 with relations := [] })) :
        Except StoreError (List (OccurrenceRow × Occurrence))) := by
    rw [List.mapM_map]
    refine mapM_eq_pure fun p _ => ?_
    rw [Function.comp_apply, numberedRow, decodeOccurrence_occurrenceRow]
    rfl
  unfold RowStore.decodeAll
  rw [hrows]
  show List.mapM _ _ = _
  rw [List.mapM_map]
  refine mapM_eq_pure fun p hp => ?_
  have hrelations : (numberedRelations p).mapM decodeRelation = .ok p.1.relations := by
    have hdecode : p.1.relations.mapM (decodeRelation ∘ relationRow p.2) =
        .ok (p.1.relations.map id) :=
      mapM_eq_pure fun rel _ => decodeRelation_relationRow p.2 rel
    rwa [List.map_id, ← List.mapM_map] at hdecode
  simp only [Function.comp_apply, h.relationsOf_eq (hps hp), hrelations]
  rfl

/-- The row numbers increase, so sorting leaves the selected rows as they are. -/
theorem selected_eq (q : OccurrenceRow → Bool) : r.selected q = r.occurrences.filter q := by
  refine List.mergeSort_of_pairwise (.filter q ?_)
  rw [h.occurrences, List.pairwise_map]
  have hsnd : ((s.occurrences.zipIdx 1).map Prod.snd).Pairwise (· < ·) := by
    rw [List.zipIdx_map_snd]
    exact List.pairwise_lt_range'
  refine (List.pairwise_map.1 hsnd).imp fun {a b} hlt => ?_
  refine decide_eq_true ?_
  show (a.2 : Int) ≤ b.2
  omega

theorem decodeAll_selected {q : OccurrenceRow → Bool} {p : Occurrence → Bool}
    (hq : ∀ x ∈ s.occurrences.zipIdx 1, q (numberedRow x) = p x.1) :
    r.decodeAll (r.selected q) = .ok (s.occurrences.filter p) := by
  have hselect : r.selected q =
      ((s.occurrences.zipIdx 1).filter (fun x => p x.1)).map numberedRow := by
    rw [h.selected_eq, h.occurrences, List.filter_map]
    exact congrArg _ (List.filter_congr hq)
  rw [hselect, h.decodeAll_eq List.filter_sublist.subset]
  conv_rhs => rw [← List.zipIdx_map_fst 1 s.occurrences, List.filter_map]
  rfl

theorem symbolsIn_eq (path : String) : r.symbolsIn path = s.symbolsIn path := by
  have hsymbols : (r.selected fun row => row.path == path).map
        (fun row => (⟨row.usr, row.name, .ofName row.kind⟩ : Symbol)) =
      (s.occurrences.filter (fun o => o.location.path == path)).map (·.symbol) := by
    rw [h.selected_eq, h.occurrences, List.filter_map, List.map_map]
    conv_rhs => rw [← List.zipIdx_map_fst 1 s.occurrences, List.filter_map, List.map_map]
    refine List.map_congr_left fun p _ => ?_
    simp [numberedRow, occurrenceRow]
  unfold RowStore.symbolsIn Snapshot.symbolsIn
  rw [hsymbols]

theorem occurrences_eq (usr : String) (roles : Roles) :
    r.decodeAll (r.occurrenceRowsOf usr roles) = .ok (s.occurrencesOf usr roles) := by
  refine h.decodeAll_selected fun p _ => ?_
  simp only [numberedRow, occurrenceRow, hasRole_ofUInt32]

theorem related_eq (usr : String) (roles : Roles) :
    r.decodeAll (r.relatedRowsOf usr roles) = .ok (s.relatedTo usr roles) := by
  refine h.decodeAll_selected fun p hp => ?_
  rw [h.relationsOf_eq hp, numberedRelations, List.any_map]
  unfold Occurrence.isRelatedTo
  simp only [Function.comp_def, relationRow, hasRole_ofUInt32]

theorem canonical_eq (name : String) :
    r.decodeAll (r.canonicalRowsOf name) = .ok (s.canonicalOf name) := by
  refine h.decodeAll_selected fun p _ => ?_
  simp only [numberedRow, occurrenceRow, hasRole_ofUInt32, contains_canonical]

/-- A store answers every query like the index in memory. -/
theorem queries_eq : r.queries = (MemoryIndex.ofSnapshot s).queries := by
  have hunit : ∀ name, (MemoryIndex.ofSnapshot s).unit? name = match s.unit? name with
      | some u => .ok u
      | none => .error (.unknownUnit name) := by
    intro name
    unfold MemoryIndex.unit?
    rw [MemoryIndex.units_ofSnapshot]
    rfl
  have hmemory : (MemoryIndex.ofSnapshot s).queries =
      { unitsContaining := fun path => .ok (s.unitsContaining path)
        modificationTime := fun name => ((MemoryIndex.ofSnapshot s).unit? name).map (·.modifiedAt)
        includesOf := fun name => ((MemoryIndex.ofSnapshot s).unit? name).map (·.includes)
        symbolsIn := fun path => .ok (s.symbolsIn path)
        occurrences := fun usr roles => .ok (s.occurrencesOf usr roles)
        related := fun usr roles => .ok (s.relatedTo usr roles)
        canonical := fun name => .ok (s.canonicalOf name) } := by
    simp only [← MemoryIndex.queries_unitsContaining, ← MemoryIndex.queries_symbolsIn,
      ← MemoryIndex.queries_occurrences, ← MemoryIndex.queries_related,
      ← MemoryIndex.queries_canonical]
    rfl
  rw [hmemory]
  unfold RowStore.queries
  congr 1
  · funext path
    rw [h.unitsContaining_eq]
  · funext name
    rw [h.unit?_eq, hunit]
    cases s.unit? name with
    | none => rfl
    | some u => rfl
  · funext name
    rw [h.includesOf_eq, hunit]
    cases s.unit? name with
    | none => rfl
    | some u => rfl
  · funext path
    rw [h.symbolsIn_eq]
  · funext usr roles
    rw [h.occurrences_eq]
    rfl
  · funext usr roles
    rw [h.related_eq]
    rfl
  · funext name
    rw [h.canonical_eq]
    rfl

end Stores
end RowStore
end IncludeScan
