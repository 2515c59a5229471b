import IncludeScan.Proofs.Index.Memory

/-!
Look-ups in an index as scans said without its tables.

A role in common is a bit set in both sets of roles (`Roles.intersects_eq`), and a file's symbols
are those of the occurrences before which none in the file has the same `usr`
(`Snapshot.symbolsIn_eq_firstsIn`). After any calls, and for every snapshot, the tables hold
positions in range only and the look-ups answer as such scans (`lookups_eq_linear_scans`).
-/

set_option autoImplicit false

namespace IncludeScan

/-! ## Roles in common -/

def Roles.common (a b : Roles) : List Nat :=
  (List.range 32).filter (fun k => a.bits.toNat.testBit k && b.bits.toNat.testBit k)

theorem Roles.intersects_eq (a b : Roles) : a.intersects b = !(a.common b).isEmpty := by
  have hzero : a.bits &&& b.bits = 0 ↔
      ∀ k, (a.bits.toNat.testBit k && b.bits.toNat.testBit k) = false := by
    rw [← UInt32.toNat_inj, UInt32.toNat_and, UInt32.toNat_zero]
    simp only [← Nat.testBit_and]
    refine ⟨fun h k => by rw [h, Nat.zero_testBit], fun h => Nat.eq_of_testBit_eq fun k => ?_⟩
    rw [h k, Nat.zero_testBit]
  have hnone : a.common b = [] ↔
      ∀ k, (a.bits.toNat.testBit k && b.bits.toNat.testBit k) = false := by
    rw [common, List.filter_eq_nil_iff]
    constructor
    · intro h k
      by_cases hk : k < 32
      · exact eq_false_of_ne_true (h k (List.mem_range.2 hk))
      · have hlt : a.bits.toNat < 2 ^ k :=
          Nat.lt_of_lt_of_le a.bits.toNat_lt (Nat.pow_le_pow_right (by decide) (by omega))
        rw [Nat.testBit_lt_two_pow hlt, Bool.false_and]
    · intro h k _
      rw [h k]
      exact Bool.false_ne_true
  rw [intersects, Bool.eq_iff_iff, bne_iff_ne, ne_eq, hzero, ← hnone, Bool.not_eq_true',
    List.isEmpty_eq_false_iff]

/-! ## First occurrences in a file -/

/-- The occurrence is in the file, and none of the earlier ones in the file has its `usr`. -/
def isFirstIn (path : String) (earlier : List Occurrence) (o : Occurrence) : Bool :=
  o.location.path == path &&
    !earlier.any (fun o' => o'.location.path == path && o'.symbol.usr == o.symbol.usr)

def firstsIn (path : String) (os : List Occurrence) : List Occurrence :=
  (os.zipIdx.filter (fun p => isFirstIn path (os.take p.2) p.1)).map (·.1)

theorem firstsIn_concat (path : String) (os : List Occurrence) (o : Occurrence) :
    firstsIn path (os ++ [o]) = firstsIn path os ++ [o].filter (isFirstIn path os) := by
  have hold : os.zipIdx.filter (fun p => isFirstIn path ((os ++ [o]).take p.2) p.1) =
      os.zipIdx.filter (fun p => isFirstIn path (os.take p.2) p.1) := by
    refine List.filter_congr fun p hp => ?_
    have hlt : p.2 < os.length := by simpa using List.snd_lt_of_mem_zipIdx hp
    rw [List.take_append_of_le_length (Nat.le_of_lt hlt)]
  rw [firstsIn, List.zipIdx_append, List.filter_append, List.map_append, hold, ← firstsIn]
  by_cases hfirst : isFirstIn path os o = true
  · simp [hfirst]
  · simp [hfirst]

theorem isFirstIn_iff {path : String} {os : List Occurrence} {o : Occurrence} :
    isFirstIn path os o = true ↔ o.location.path = path ∧ o.symbol.usr ∉
      ((os.filter (fun o' => o'.location.path == path)).map (·.symbol)).map Symbol.usr := by
  simp [isFirstIn]

theorem Snapshot.symbolsIn_eq_firstsIn (s : Snapshot) (path : String) :
    s.symbolsIn path = (firstsIn path s.occurrences).map (·.symbol) := by
  unfold symbolsIn
  induction s.occurrences using List.reverseRecOn with
  | nil => rfl
  | append_singleton os o ih =>
    rw [firstsIn_concat, List.map_append, ← ih, List.filter_append, List.map_append]
    by_cases hpath : o.location.path = path
    · have hhere : [o].filter (fun o => o.location.path == path) = [o] := by simp [hpath]
      rw [hhere, List.map_singleton, firstBy_concat]
      by_cases hfirst : isFirstIn path os o = true
      · rw [if_neg (isFirstIn_iff.1 hfirst).2, List.filter_cons_of_pos hfirst]
        rfl
      · have hseen := not_and_not_right.1 (mt isFirstIn_iff.2 hfirst) hpath
        rw [if_pos hseen, List.filter_cons_of_neg hfirst]
        exact (List.append_nil _).symm
    · have hthere : [o].filter (fun o => o.location.path == path) = [] := by simp [hpath]
      have hfirst : ¬ isFirstIn path os o = true := fun h => hpath (isFirstIn_iff.1 h).1
      rw [hthere, List.filter_cons_of_neg hfirst, List.filter_nil, List.map_nil, List.append_nil,
        List.append_nil]

/-! ## Look-ups as scans -/

namespace MemoryIndex

/-- All positions in the tables are in range, and each look-up answers as a scan of the list of all
occurrences: for a `usr` and some roles with those of that `usr` that share a role, and for a file
with the symbols of its first occurrences, no two with the same `usr`. -/
structure LooksUp (m : MemoryIndex) (os : List Occurrence) : Prop where
  byUsr_within : m.byUsr.Within m.occurrences.size
  byPath_within : m.byPath.Within m.occurrences.size
  toList_eq : m.occurrences.toList = os
  occurrences_eq : ∀ usr roles, m.queries.occurrences usr roles =
    .ok (os.filter (fun o => o.symbol.usr == usr && !(o.roles.common roles).isEmpty))
  symbolsIn_eq : ∀ path, m.queries.symbolsIn path = .ok ((firstsIn path os).map (·.symbol))
  nodup_usr : ∀ path, ((firstsIn path os).map (·.symbol.usr)).Nodup

theorem Assembled.looksUp {m : MemoryIndex} {s : Snapshot} (h : m.Assembled s) :
    m.LooksUp s.occurrences := by
  obtain ⟨hindexed, rfl, husr, hpath⟩ := h
  refine ⟨husr, hpath, rfl, fun usr roles => ?_, fun path => ?_, fun path => ?_⟩
  · simp only [queries, hindexed.occurrencesOf_eq, Snapshot.occurrencesOf, snapshot,
      Roles.intersects_eq]
  · simp only [queries, hindexed.symbolsIn_eq, Snapshot.symbolsIn_eq_firstsIn, snapshot]
  · have hnodup : ((m.snapshot.symbolsIn path).map Symbol.usr).Nodup := nodup_map_firstBy _ _
    rw [Snapshot.symbolsIn_eq_firstsIn, List.map_map] at hnodup
    exact hnodup

/-- After any calls, and for every snapshot, the look-ups of an index are linear scans of its
occurrences. -/
theorem lookups_eq_linear_scans :
    (∀ calls, (assemble calls).LooksUp (calls.filterMap Insertion.occurrence?)) ∧
      ∀ s, (ofSnapshot s).LooksUp s.occurrences :=
  ⟨fun calls => (assembled_assemble calls).looksUp, fun s => (assembled_ofSnapshot s).looksUp⟩

/-- Two symbols in turn in two files, with a unit between them. The second mention of the first
symbol in the first file has another name. -/
def interleaved : List Insertion :=
  [.occurrence ⟨⟨"s:a", "a", .function⟩, ⟨"/A.h", 1, 1⟩, .declaration, []⟩,
    .occurrence ⟨⟨"s:b", "b", .function⟩, ⟨"/B.h", 1, 1⟩, .declaration, []⟩,
    .unit ⟨"F.o", "/F.m", none, []⟩,
    .occurrence ⟨⟨"s:b", "b", .function⟩, ⟨"/A.h", 2, 1⟩, .reference, []⟩,
    .occurrence ⟨⟨"s:a", "alias", .function⟩, ⟨"/A.h", 3, 1⟩, ⟨12⟩, []⟩]

theorem interleaved_looksUp :
    let m := assemble interleaved
    m.byPath.rows = [("/A.h", [0, 2, 3]), ("/B.h", [1])] ∧
      m.queries.symbolsIn "/A.h" = .ok [⟨"s:a", "a", .function⟩, ⟨"s:b", "b", .function⟩] ∧
      m.queries.occurrences "s:a" .call =
        .ok [⟨⟨"s:a", "alias", .function⟩, ⟨"/A.h", 3, 1⟩, ⟨12⟩, []⟩] := by
  have h := lookups_eq_linear_scans.1 interleaved
  refine ⟨by decide +kernel, (h.symbolsIn_eq "/A.h").trans ?_,
    (h.occurrences_eq "s:a" .call).trans ?_⟩
  · exact congrArg Except.ok (by decide +kernel)
  · exact congrArg Except.ok (by decide +kernel)

end MemoryIndex
end IncludeScan
