import IncludeScan.Index.Memory
import Mathlib.Data.List.Basic
import Mathlib.Data.List.Induction

/-!
The answers of an index in memory, as linear scans over its content.

The two tables of positions list, for each key, the places where it occurs, in order (`Locates`).
So a look-up through a table gives the members of the whole list with that key. Units and
occurrences come call by call, in any order, and every call keeps the tables so (`Assembled.apply`);
a snapshot is loaded by such calls, and every query of `MemoryIndex.ofSnapshot s` is a query of the
snapshot `s` itself.
-/

set_option autoImplicit false

namespace IncludeScan

theorem mapM_eq_pure {m : Type → Type} [Monad m] [LawfulMonad m] {α β : Type} {f : α → m β}
    {g : α → β} {l : List α} (h : ∀ a ∈ l, f a = pure (g a)) : l.mapM f = pure (l.map g) := by
  have hmembers : l.attach.mapM (fun a => f a.1) = l.mapM f := by
    rw [List.mapM_subtype (g := f) fun _ _ => rfl, List.unattach_attach]
  rw [← hmembers, funext fun a : { x // x ∈ l } => h a.1 a.2, List.mapM_pure, List.attach_map_val]

/-! ## Tables of positions -/

/-- The table lists the positions of each key in the array, in order. -/
def Locates {α : Type} (key : α → String) (xs : Array α) (table : PositionTable) : Prop :=
  ∀ k, table.positions k = (List.range xs.size).filter (fun i => xs[i]?.map key = some k)

namespace Locates

variable {α : Type} {key : α → String}

theorem empty : Locates key #[] .empty := fun _ => rfl

theorem push {xs : Array α} {table : PositionTable} (h : Locates key xs table) (x : α) :
    Locates key (xs.push x) (table.record (key x) xs.size) := by
  intro k
  have hold : (List.range xs.size).filter (fun i => (xs.push x)[i]?.map key = some k) =
      table.positions k := by
    rw [h k]
    refine List.filter_congr fun i hi => ?_
    rw [Array.getElem?_push, if_neg (Nat.ne_of_lt (List.mem_range.1 hi))]
  rw [PositionTable.positions_record, Array.size_push, List.range_succ, List.filter_append, hold]
  by_cases hk : key x = k
  · simp [hk]
  · simp [hk]

theorem filterMap_range (l : List α) : (List.range l.length).filterMap (fun i => l[i]?) = l := by
  induction l using List.reverseRecOn with
  | nil => rfl
  | append_singleton l x ih =>
    have hold : (List.range l.length).filterMap (fun i => (l ++ [x])[i]?) = l := by
      refine Eq.trans (List.filterMap_congr fun i hi => ?_) ih
      exact List.getElem?_append_left (List.mem_range.1 hi)
    rw [List.length_append, List.length_singleton, List.range_succ, List.filterMap_append, hold]
    simp

theorem filterMap_positions {xs : Array α} {table : PositionTable} (h : Locates key xs table)
    (k : String) :
    (table.positions k).filterMap (fun i => xs[i]?) = xs.toList.filter (fun x => key x == k) := by
  have hall := filterMap_range xs.toList
  rw [h k, List.filterMap_filter]
  conv_rhs => rw [← hall, List.filter_filterMap]
  refine List.filterMap_congr fun i _ => ?_
  rw [Array.getElem?_toList]
  cases hx : xs[i]? with
  | none => simp
  | some x =>
    by_cases hk : key x = k
    · simp [hk, Option.filter]
    · simp [hk, Option.filter]

end Locates

namespace PositionTable

def Within (t : PositionTable) (n : Nat) : Prop :=
  ∀ row ∈ t.rows, ∀ i ∈ row.2, i < n

theorem mem_recordIn {key : String} {n i : Nat} {rows : List (String × List Nat)}
    {row : String × List Nat} (hrow : row ∈ recordIn key n rows) (hi : i ∈ row.2) :
    i = n ∨ ∃ old ∈ rows, i ∈ old.2 := by
  induction rows with
  | nil =>
    rw [List.mem_singleton.1 hrow] at hi
    exact .inl (List.mem_singleton.1 hi)
  | cons first rows ih =>
    rw [recordIn] at hrow
    split at hrow
    · rcases List.mem_cons.1 hrow with rfl | hrow
      · rcases List.mem_append.1 hi with hold | hnew
        · exact .inr ⟨first, List.mem_cons_self, hold⟩
        · exact .inl (List.mem_singleton.1 hnew)
      · exact .inr ⟨row, List.mem_cons_of_mem _ hrow, hi⟩
    · rcases List.mem_cons.1 hrow with rfl | hrow
      · exact .inr ⟨_, List.mem_cons_self, hi⟩
      · rcases ih hrow with hnew | ⟨old, hold, hi'⟩
        · exact .inl hnew
        · exact .inr ⟨old, List.mem_cons_of_mem _ hold, hi'⟩

theorem within_empty (n : Nat) : empty.Within n := by
  intro row hrow
  cases hrow

theorem Within.record {t : PositionTable} {n : Nat} (h : t.Within n)
    (key : String) : (t.record key n).Within (n + 1) := by
  intro row hrow i hi
  rcases mem_recordIn hrow hi with rfl | ⟨old, hold, hi'⟩
  · exact Nat.lt_succ_self i
  · exact Nat.lt_succ_of_lt (h old hold i hi')

end PositionTable

/-! ## Queries of a snapshot -/

namespace Snapshot

def unit? (s : Snapshot) (name : String) : Option CompilationUnit :=
  s.units.find? (fun u => u.name == name)

def unitsContaining (s : Snapshot) (path : String) : List String :=
  (s.units.filter (fun u => u.references path)).map (·.name)

def symbolsIn (s : Snapshot) (path : String) : List Symbol :=
  firstBy Symbol.usr ((s.occurrences.filter (fun o => o.location.path == path)).map (·.symbol))

def occurrencesOf (s : Snapshot) (usr : String) (roles : Roles) : List Occurrence :=
  s.occurrences.filter (fun o => o.symbol.usr == usr && o.roles.intersects roles)

def relatedTo (s : Snapshot) (usr : String) (roles : Roles) : List Occurrence :=
  s.occurrences.filter (fun o => o.isRelatedTo usr roles)

def canonicalOf (s : Snapshot) (name : String) : List Occurrence :=
  s.occurrences.filter (fun o => o.symbol.name == name && o.roles.contains .canonical)

end Snapshot

namespace MemoryIndex

/-! ## Look-ups through the tables -/

/-- The tables of the index list where each `usr` and each path occurs. -/
structure Indexed (m : MemoryIndex) : Prop where
  byUsr : Locates (·.symbol.usr) m.occurrences m.byUsr
  byPath : Locates (·.location.path) m.occurrences m.byPath

theorem Indexed.addOccurrence {m : MemoryIndex} (h : m.Indexed) (o : Occurrence) :
    (m.addOccurrence o).Indexed :=
  ⟨h.byUsr.push o, h.byPath.push o⟩

theorem Indexed.symbolsIn_eq {m : MemoryIndex} (h : m.Indexed) (path : String) :
    m.symbolsIn path = m.snapshot.symbolsIn path := by
  rw [symbolsIn, select, h.byPath.filterMap_positions]
  rfl

theorem Indexed.occurrencesOf_eq {m : MemoryIndex} (h : m.Indexed) (usr : String) (roles : Roles) :
    m.occurrencesOf usr roles = m.snapshot.occurrencesOf usr roles := by
  rw [occurrencesOf, select, h.byUsr.filterMap_positions, List.filter_filter]
  simp only [Snapshot.occurrencesOf, snapshot, Bool.and_comm]

/-! ## Calls -/

inductive Insertion where
  | unit (u : CompilationUnit)
  | occurrence (o : Occurrence)

def Insertion.apply (m : MemoryIndex) : Insertion → MemoryIndex
  | .unit u => m.addUnit u
  | .occurrence o => m.addOccurrence o

def Insertion.unit? : Insertion → Option CompilationUnit
  | .unit u => some u
  | .occurrence _ => none

def Insertion.occurrence? : Insertion → Option Occurrence
  | .unit _ => none
  | .occurrence o => some o

def assemble (calls : List Insertion) : MemoryIndex :=
  calls.foldl Insertion.apply empty

/-- The index holds this content, and its tables list the positions of its occurrences and no
others. -/
structure Assembled (m : MemoryIndex) (s : Snapshot) : Prop where
  indexed : m.Indexed
  snapshot_eq : m.snapshot = s
  byUsr_within : m.byUsr.Within m.occurrences.size
  byPath_within : m.byPath.Within m.occurrences.size

theorem assembled_empty : empty.Assembled ⟨[], []⟩ :=
  ⟨⟨Locates.empty, Locates.empty⟩, rfl, PositionTable.within_empty 0,
    PositionTable.within_empty 0⟩

theorem Assembled.apply {m : MemoryIndex} {s : Snapshot} (h : m.Assembled s) (c : Insertion) :
    (c.apply m).Assembled
      ⟨s.units ++ c.unit?.toList, s.occurrences ++ c.occurrence?.toList⟩ := by
  obtain ⟨hindexed, rfl, husr, hpath⟩ := h
  cases c with
  | unit u =>
    refine ⟨⟨hindexed.byUsr, hindexed.byPath⟩, ?_, husr, hpath⟩
    simp [Insertion.apply, Insertion.unit?, Insertion.occurrence?, addUnit, snapshot]
  | occurrence o =>
    have hsize : (m.addOccurrence o).occurrences.size = m.occurrences.size + 1 :=
      Array.size_push o
    refine ⟨hindexed.addOccurrence o, ?_, ?_, ?_⟩
    · simp [Insertion.apply, Insertion.unit?, Insertion.occurrence?, addOccurrence, snapshot]
    · exact hsize ▸ husr.record o.symbol.usr
    · exact hsize ▸ hpath.record o.location.path

theorem assembled_assemble (calls : List Insertion) :
    (assemble calls).Assembled
      ⟨calls.filterMap Insertion.unit?, calls.filterMap Insertion.occurrence?⟩ := by
  induction calls using List.reverseRecOn with
  | nil => exact assembled_empty
  | append_singleton calls c ih =>
    have hunit : [c].filterMap Insertion.unit? = c.unit?.toList := by
      cases c <;> rfl
    have hoccurrence : [c].filterMap Insertion.occurrence? = c.occurrence?.toList := by
      cases c <;> rfl
    rw [assemble, List.foldl_append, List.filterMap_append, List.filterMap_append, hunit,
      hoccurrence]
    exact ih.apply c

/-! ## The index of a snapshot -/

variable (s : Snapshot)

/-- A snapshot is loaded by one call for each of its units and occurrences. -/
theorem assembled_ofSnapshot : (ofSnapshot s).Assembled s := by
  have h := assembled_assemble (s.units.map .unit ++ s.occurrences.map .occurrence)
  have hsame : assemble (s.units.map .unit ++ s.occurrences.map .occurrence) = ofSnapshot s := by
    rw [assemble, List.foldl_append, List.foldl_map, List.foldl_map]
    rfl
  rw [hsame] at h
  simpa [Function.comp_def, Insertion.unit?, Insertion.occurrence?] using h

theorem indexed_ofSnapshot : (ofSnapshot s).Indexed :=
  (assembled_ofSnapshot s).indexed

theorem units_ofSnapshot : (ofSnapshot s).units = s.units :=
  congrArg Snapshot.units (assembled_ofSnapshot s).snapshot_eq

theorem occurrences_ofSnapshot : (ofSnapshot s).occurrences.toList = s.occurrences :=
  congrArg Snapshot.occurrences (assembled_ofSnapshot s).snapshot_eq

theorem unit?_ofSnapshot {name : String} {u : CompilationUnit} (h : s.unit? name = some u) :
    (ofSnapshot s).unit? name = .ok u := by
  unfold unit?
  rw [units_ofSnapshot]
  unfold Snapshot.unit? at h
  rw [h]

theorem queries_modificationTime {name : String} {u : CompilationUnit}
    (h : s.unit? name = some u) :
    (ofSnapshot s).queries.modificationTime name = .ok u.modifiedAt := by
  simp only [queries, unit?_ofSnapshot s h]
  rfl

theorem queries_includesOf {name : String} {u : CompilationUnit} (h : s.unit? name = some u) :
    (ofSnapshot s).queries.includesOf name = .ok u.includes := by
  simp only [queries, unit?_ofSnapshot s h]
  rfl

theorem queries_unitsContaining (path : String) :
    (ofSnapshot s).queries.unitsContaining path = .ok (s.unitsContaining path) := by
  simp only [queries, unitsContaining, units_ofSnapshot]
  rfl

theorem queries_symbolsIn (path : String) :
    (ofSnapshot s).queries.symbolsIn path = .ok (s.symbolsIn path) := by
  simp only [queries, (indexed_ofSnapshot s).symbolsIn_eq, snapshot, units_ofSnapshot,
    occurrences_ofSnapshot]

theorem queries_occurrences (usr : String) (roles : Roles) :
    (ofSnapshot s).queries.occurrences usr roles = .ok (s.occurrencesOf usr roles) := by
  simp only [queries, (indexed_ofSnapshot s).occurrencesOf_eq, snapshot, units_ofSnapshot,
    occurrences_ofSnapshot]

theorem queries_related (usr : String) (roles : Roles) :
    (ofSnapshot s).queries.related usr roles = .ok (s.relatedTo usr roles) := by
  simp only [queries, relatedTo, occurrences_ofSnapshot]
  rfl

theorem queries_canonical (name : String) :
    (ofSnapshot s).queries.canonical name = .ok (s.canonicalOf name) := by
  simp only [queries, canonicalOf, occurrences_ofSnapshot]
  rfl

end MemoryIndex
end IncludeScan
