import IncludeScan.Index.Rows
import Mathlib.Data.List.Basic
import Mathlib.Tactic.NormNum

/-!
Stored numbers out of range.

A query for occurrences selects rows by their text and by the bits of a stored number, and then
reads numbers one after the other: line, column and roles of every selected row, and after that the
roles of their relations (`readings`). It fails at the first number that does not fit 32 bits, and
at no other (`decodeAll_eq_checked`). No two rows of a store have the same number
(`numbered_contents`), so the order in which the rows are read is that of their numbers, and no
other.
-/

set_option autoImplicit false

namespace IncludeScan

namespace RowStore

/-! ## Contents of a store -/

/-- What can be put into a store: a snapshot, or a row as it is. -/
inductive Write where
  | snapshot (shot : Snapshot)
  | occurrence (row : OccurrenceRow)
  | relation (row : RelationRow)
  | directive (row : IncludeRow)

def Write.apply (s : RowStore) : Write → RowStore
  | snapshot shot => s.importSnapshot shot
  | occurrence row => s.insertOccurrence row
  | relation row => s.insertRelation row
  | directive row => s.insertInclude row

def contents (writes : List Write) : RowStore :=
  writes.foldl Write.apply .empty

def Numbered (s : RowStore) : Prop :=
  s.occurrences.Pairwise (fun a b => a.id ≠ b.id)

theorem lt_nextId {s : RowStore} {row : OccurrenceRow} (h : row ∈ s.occurrences) :
    row.id < s.nextId := by
  have hid : row.id ∈ s.occurrences.map (·.id) := List.mem_map_of_mem h
  unfold nextId
  split
  · next largest hmax =>
    have hle := (List.max?_eq_some_iff.1 hmax).2 _ hid
    omega
  · next hmax =>
    rw [List.max?_eq_none_iff.1 hmax] at hid
    cases hid

namespace Numbered

variable {s : RowStore}

theorem append (h : Numbered s) {row : OccurrenceRow}
    (hnew : ∀ old ∈ s.occurrences, old.id ≠ row.id) :
    (s.occurrences ++ [row]).Pairwise (fun a b => a.id ≠ b.id) := by
  refine List.pairwise_append.2 ⟨h, List.pairwise_singleton _ _, ?_⟩
  intro old hold new hmem
  rw [List.mem_singleton.1 hmem]
  exact hnew old hold

theorem importSnapshot (h : Numbered s) (shot : Snapshot) : Numbered (s.importSnapshot shot) := by
  have hunits : Numbered (shot.units.foldl RowStore.importUnit s) :=
    List.foldlRecOn (motive := Numbered) shot.units _ h fun _ hr _ _ => hr
  refine List.foldlRecOn (motive := Numbered) shot.occurrences _ hunits fun r hr o _ => ?_
  exact hr.append fun old hold => Int.ne_of_lt (lt_nextId hold)

theorem insertOccurrence (h : Numbered s) (row : OccurrenceRow) :
    Numbered (s.insertOccurrence row) := by
  unfold RowStore.insertOccurrence
  split
  · exact h
  · next hfree =>
    refine h.append fun old hold heq => hfree ?_
    exact List.mem_map.2 ⟨old, hold, heq⟩

theorem apply (h : Numbered s) (w : Write) : Numbered (w.apply s) := by
  cases w with
  | snapshot shot => exact h.importSnapshot shot
  | occurrence row => exact h.insertOccurrence row
  | relation row => exact h
  | directive row => exact h

end Numbered

theorem numbered_contents (writes : List Write) : Numbered (contents writes) :=
  List.foldlRecOn (motive := Numbered) writes _ List.Pairwise.nil fun _ hs w _ => hs.apply w

/-! ## Rows in order -/

theorem mem_selected {s : RowStore} {keep : OccurrenceRow → Bool} {row : OccurrenceRow} :
    row ∈ s.selected keep ↔ row ∈ s.occurrences ∧ keep row = true := by
  rw [selected, List.mem_mergeSort, List.mem_filter]

theorem pairwise_selected (s : RowStore) (keep : OccurrenceRow → Bool) :
    (s.selected keep).Pairwise (fun a b => decide (a.id ≤ b.id) = true) := by
  refine List.pairwise_mergeSort ?_ ?_ _
  · intro a b c hab hbc
    simp only [decide_eq_true_eq] at hab hbc ⊢
    omega
  · intro a b
    simp only [Bool.or_eq_true, decide_eq_true_eq]
    omega

theorem Numbered.pairwise_selected {s : RowStore} (h : Numbered s) (keep : OccurrenceRow → Bool) :
    (s.selected keep).Pairwise (fun a b => a.id < b.id) := by
  have hne : (s.selected keep).Pairwise (fun a b => a.id ≠ b.id) :=
    (List.Perm.pairwise_iff (fun hab => hab.symm) (List.mergeSort_perm _ _)).2 (h.filter keep)
  refine ((RowStore.pairwise_selected s keep).and hne).imp fun {a b} hab => ?_
  have hle := of_decide_eq_true hab.1
  have hdiffer := hab.2
  omega

/-! ## Numbers read in turn -/

def Fits (n : Int64) : Prop :=
  0 ≤ n.toInt ∧ n.toInt < 2 ^ 32

instance decidableFits : DecidablePred Fits := fun _ => inferInstanceAs (Decidable (_ ∧ _))

def low (n : Int64) : UInt32 :=
  n.toInt.toNat.toUInt32

/-- A result of reading numbers with their columns in turn, or the first of them that does not
fit. -/
def checked {α : Type} (numbers : List (Int64 × Nat)) (a : α) : Except StoreError α :=
  match numbers.find? (fun x => ¬ Fits x.1) with
  | some (n, column) => .error (.outOfRange n column)
  | none => .ok a

section Checked

variable {α β : Type}

theorem checked_bind {xs ys : List (Int64 × Nat)} {a : α} {b : β} {f : α → Except StoreError β}
    (h : f a = checked ys b) : (checked xs a >>= f) = checked (xs ++ ys) b := by
  unfold checked at h ⊢
  rw [List.find?_append]
  cases xs.find? (fun x => ¬ Fits x.1) with
  | none => exact h
  | some x => rfl

theorem checked_map (xs : List (Int64 × Nat)) (a : α) (f : α → β) :
    (checked xs a >>= fun a => pure (f a)) = checked xs (f a) := by
  unfold checked
  cases xs.find? (fun x => ¬ Fits x.1) with
  | none => rfl
  | some x => rfl

theorem toUInt32_eq_checked (column : Nat) (n : Int64) :
    toUInt32 column n = checked [(n, column)] (low n) := by
  have hbound : (2 : Int) ^ 32 = 0x100000000 := by norm_num
  unfold toUInt32 checked
  by_cases h : Fits n
  · rw [List.find?_cons_of_neg (by simp [h])]
    rw [Fits, hbound] at h
    rw [if_pos h]
    rfl
  · rw [List.find?_cons_of_pos (by simp [h])]
    rw [Fits, hbound] at h
    rw [if_neg h]

theorem mapM_eq_checked {f : α → Except StoreError β} {numbers : α → List (Int64 × Nat)}
    {value : α → β} {as : List α} (h : ∀ a ∈ as, f a = checked (numbers a) (value a)) :
    as.mapM f = checked (as.flatMap numbers) (as.map value) := by
  induction as with
  | nil => rfl
  | cons a as ih =>
    have hrest := ih fun b hb => h b (List.mem_cons_of_mem _ hb)
    rw [List.mapM_cons, h a List.mem_cons_self, hrest]
    exact checked_bind (checked_map _ _ _)

end Checked

def plain (row : OccurrenceRow) : Occurrence :=
  ⟨⟨row.usr, row.name, .ofName row.kind⟩, ⟨row.path, low row.line, low row.column⟩,
    ⟨low row.roles⟩, []⟩

def relationOf (r : RelationRow) : Relation :=
  ⟨⟨low r.roles⟩, ⟨r.usr, r.name, .ofName r.kind⟩⟩

/-- The occurrence of a row, as far as its numbers and those of its relations fit. -/
def occurrenceOf (s : RowStore) (row : OccurrenceRow) : Occurrence :=
  { plain row with relations := (s.relationsOf row).map relationOf }

def rowNumbers (row : OccurrenceRow) : List (Int64 × Nat) :=
  [(row.line, 5), (row.column, 6), (row.roles, 7)]

def relationNumbers (s : RowStore) (row : OccurrenceRow) : List (Int64 × Nat) :=
  (s.relationsOf row).map fun r => (r.roles, 0)

/-- The numbers that are read from selected rows, with their columns: first those of all rows, then
those of their relations. -/
def readings (s : RowStore) (rows : List OccurrenceRow) : List (Int64 × Nat) :=
  rows.flatMap rowNumbers ++ rows.flatMap s.relationNumbers

theorem decodeOccurrence_eq_checked (row : OccurrenceRow) :
    decodeOccurrence row = checked (rowNumbers row) (plain row) := by
  unfold decodeOccurrence
  simp only [toUInt32_eq_checked]
  exact checked_bind (checked_bind (checked_map _ _ _))

theorem decodeRelation_eq_checked (r : RelationRow) :
    decodeRelation r = checked [(r.roles, 0)] (relationOf r) := by
  unfold decodeRelation
  rw [toUInt32_eq_checked]
  exact checked_map _ _ _

theorem decodeAll_eq_checked (s : RowStore) (rows : List OccurrenceRow) :
    s.decodeAll rows = checked (s.readings rows) (rows.map s.occurrenceOf) := by
  have hrows : (rows.mapM fun row => do return (row, ← decodeOccurrence row)) =
      checked (rows.flatMap rowNumbers) (rows.map fun row => (row, plain row)) := by
    refine mapM_eq_checked fun row _ => ?_
    rw [decodeOccurrence_eq_checked, checked_map]
  have hrelations : ∀ row, (s.relationsOf row).mapM decodeRelation =
      checked (s.relationNumbers row) ((s.relationsOf row).map relationOf) := by
    intro row
    rw [mapM_eq_checked fun r _ => decodeRelation_eq_checked r, relationNumbers,
      List.map_eq_flatMap (f := fun r : RelationRow => (r.roles, 0))]
  unfold decodeAll
  rw [hrows]
  refine checked_bind ?_
  rw [List.mapM_map]
  refine mapM_eq_checked fun row _ => ?_
  simp only [Function.comp_apply, hrelations]
  exact checked_map _ _ _

/-! ## Selected rows -/

/-- A bit of the mask is set in the stored number, written in two's complement. -/
def SharesBit (stored : Int64) (mask : Roles) : Prop :=
  ∃ i, stored.toBitVec.getLsbD i = true ∧ mask.bits.toBitVec.getLsbD i = true

theorem hasRole_iff (stored : Int64) (mask : Roles) :
    hasRole stored mask = true ↔ SharesBit stored mask := by
  have hmask : (ofUInt32 mask.bits).toBitVec = mask.bits.toBitVec.setWidth 64 := rfl
  have hbits : ∀ i, (stored &&& ofUInt32 mask.bits).toBitVec.getLsbD i =
      (stored.toBitVec.getLsbD i && mask.bits.toBitVec.getLsbD i) := by
    intro i
    rw [Int64.toBitVec_and, BitVec.getLsbD_and, hmask, BitVec.getLsbD_setWidth]
    by_cases hi : i < 64
    · simp [hi]
    · simp [BitVec.getLsbD_of_ge _ i (Nat.le_of_not_lt hi)]
  have hzero : stored &&& ofUInt32 mask.bits = 0 ↔
      ∀ i, (stored.toBitVec.getLsbD i && mask.bits.toBitVec.getLsbD i) = false := by
    rw [← Int64.toBitVec_inj]
    simp only [← hbits]
    constructor
    · intro h i
      rw [h]
      exact BitVec.getLsbD_zero
    · intro h
      refine BitVec.eq_of_getLsbD_eq fun i _ => ?_
      rw [h i]
      exact BitVec.getLsbD_zero.symm
  rw [hasRole, bne_iff_ne, ne_eq, hzero, SharesBit]
  simp

end RowStore

inductive OccurrenceQuery where
  | occurrences (usr : String) (roles : Roles)
  | related (usr : String) (roles : Roles)
  | canonical (name : String)

namespace OccurrenceQuery

open RowStore

def ask (ix : SymbolIndex) : OccurrenceQuery → Except IndexError (List Occurrence)
  | occurrences usr roles => ix.occurrences usr roles
  | related usr roles => ix.related usr roles
  | canonical name => ix.canonical name

/-- The rows that a query selects: by an equal text in the row, or in one of its relations, and by
the bits of the roles stored beside it. -/
def Selects (s : RowStore) (row : OccurrenceRow) : OccurrenceQuery → Prop
  | occurrences usr roles => row.usr = usr ∧ SharesBit row.roles roles
  | related usr roles =>
    ∃ r ∈ s.relations, r.occurrence = row.id ∧ r.usr = usr ∧ SharesBit r.roles roles
  | canonical name => row.name = name ∧ SharesBit row.roles .canonical

/-- `Selects` as the test that a query makes. -/
def keeps (s : RowStore) : OccurrenceQuery → OccurrenceRow → Bool
  | occurrences usr roles => fun row => row.usr == usr && hasRole row.roles roles
  | related usr roles => fun row =>
    (s.relationsOf row).any (fun r => r.usr == usr && hasRole r.roles roles)
  | canonical name => fun row => row.name == name && hasRole row.roles .canonical

def rows (s : RowStore) (q : OccurrenceQuery) : List OccurrenceRow :=
  s.selected (q.keeps s)

theorem keeps_iff {s : RowStore} {q : OccurrenceQuery} {row : OccurrenceRow} :
    q.keeps s row = true ↔ q.Selects s row := by
  cases q with
  | occurrences usr roles => simp [keeps, Selects, hasRole_iff]
  | related usr roles => simp [keeps, Selects, relationsOf, hasRole_iff]
  | canonical name => simp [keeps, Selects, hasRole_iff]

theorem mem_rows {s : RowStore} {q : OccurrenceQuery} {row : OccurrenceRow} :
    row ∈ q.rows s ↔ row ∈ s.occurrences ∧ q.Selects s row := by
  rw [rows, mem_selected, keeps_iff]

theorem ask_eq_checked (s : RowStore) (q : OccurrenceQuery) :
    q.ask s.queries =
      (checked (s.readings (q.rows s)) ((q.rows s).map s.occurrenceOf)).mapError .store := by
  rw [← decodeAll_eq_checked]
  cases q with
  | occurrences => rfl
  | related => rfl
  | canonical => rfl

/-- The store without all rows that the query does not read. -/
def core (s : RowStore) (q : OccurrenceQuery) : RowStore :=
  ⟨[], [], q.rows s, s.relations.filter fun r => ∃ row ∈ q.rows s, r.occurrence = row.id⟩

variable {s : RowStore} {q : OccurrenceQuery} {row : OccurrenceRow}

theorem mem_relations_core {r : RelationRow} (h : row ∈ q.rows s) (hr : r.occurrence = row.id) :
    r ∈ (q.core s).relations ↔ r ∈ s.relations := by
  rw [core, List.mem_filter, decide_eq_true_iff]
  exact ⟨And.left, fun hmem => ⟨hmem, row, h, hr⟩⟩

theorem relationsOf_core (h : row ∈ q.rows s) :
    (q.core s).relationsOf row = s.relationsOf row := by
  rw [relationsOf, core, List.filter_filter]
  refine List.filter_congr fun r _ => ?_
  rw [Bool.and_eq_left_iff_imp, decide_eq_true_iff, decide_eq_true_iff]
  exact fun hr => ⟨row, h, hr⟩

theorem selects_core (h : row ∈ q.rows s) : q.Selects (q.core s) row := by
  have hselects := (mem_rows.1 h).2
  cases q with
  | occurrences => exact hselects
  | related usr roles =>
    obtain ⟨r, hmem, hr, hrest⟩ := hselects
    exact ⟨r, (mem_relations_core h hr).2 hmem, hr, hrest⟩
  | canonical => exact hselects

/-- The rows read are in order already, and all of them are selected again. -/
theorem rows_core (s : RowStore) (q : OccurrenceQuery) : q.rows (q.core s) = q.rows s := by
  have hall : (q.rows s).filter (q.keeps (q.core s)) = q.rows s :=
    List.filter_eq_self.2 fun row hrow => keeps_iff.2 (selects_core hrow)
  calc q.rows (q.core s)
      = ((q.rows s).filter (q.keeps (q.core s))).mergeSort (fun a b => a.id ≤ b.id) := rfl
    _ = (q.rows s).mergeSort (fun a b => a.id ≤ b.id) := by rw [hall]
    _ = q.rows s := List.mergeSort_of_pairwise (pairwise_selected s _)

theorem ask_core (s : RowStore) (q : OccurrenceQuery) :
    q.ask (q.core s).queries = q.ask s.queries := by
  have hnumbers : (q.rows s).flatMap (q.core s).relationNumbers =
      (q.rows s).flatMap s.relationNumbers := by
    refine List.flatMap_congr fun row hrow => ?_
    rw [relationNumbers, relationNumbers, relationsOf_core hrow]
  have hvalues : (q.rows s).map (q.core s).occurrenceOf = (q.rows s).map s.occurrenceOf := by
    refine List.map_congr_left fun row hrow => ?_
    rw [occurrenceOf, occurrenceOf, relationsOf_core hrow]
  rw [ask_eq_checked, ask_eq_checked, rows_core, readings, readings, hnumbers, hvalues]

theorem forall_readings_iff (s : RowStore) (rows : List OccurrenceRow) :
    (∀ x ∈ s.readings rows, Fits x.1) ↔
      ∀ row ∈ rows, (Fits row.line ∧ Fits row.column ∧ Fits row.roles) ∧
        ∀ r ∈ s.relations, r.occurrence = row.id → Fits r.roles := by
  have hnumbers : ∀ row, (∀ x ∈ rowNumbers row, Fits x.1) ↔
      Fits row.line ∧ Fits row.column ∧ Fits row.roles := by
    intro row
    simp [rowNumbers]
  have hrelations : ∀ row, (∀ x ∈ s.relationNumbers row, Fits x.1) ↔
      ∀ r ∈ s.relations, r.occurrence = row.id → Fits r.roles := by
    intro row
    simp only [relationNumbers, relationsOf, List.forall_mem_map, List.mem_filter,
      decide_eq_true_eq, and_imp]
  simp only [readings, List.forall_mem_append, List.forall_mem_flatMap, hnumbers, hrelations,
    ← forall₂_and]

/-- A query of a store with rows of any numbers selects rows by equal text and by bits, and reads
them in the order of their row numbers. It succeeds if and only if all numbers read fit, and it
names the first that does not. Without all other rows it has the same answer. -/
theorem damaged_rows_fail_exactly_their_readers (writes : List Write) (q : OccurrenceQuery) :
    ∃ rows : List OccurrenceRow, rows.Pairwise (fun a b => a.id < b.id) ∧
      (∀ row, row ∈ rows ↔
        row ∈ (contents writes).occurrences ∧ q.Selects (contents writes) row) ∧
      ((∃ os, q.ask (contents writes).queries = .ok os) ↔
        ∀ row ∈ rows, (Fits row.line ∧ Fits row.column ∧ Fits row.roles) ∧
          ∀ r ∈ (contents writes).relations, r.occurrence = row.id → Fits r.roles) ∧
      q.ask (contents writes).queries =
        (match ((contents writes).readings rows).find? (fun x => ¬ Fits x.1) with
        | some (n, column) => .error (.store (.outOfRange n column))
        | none => .ok (rows.map (contents writes).occurrenceOf)) ∧
      q.ask (q.core (contents writes)).queries = q.ask (contents writes).queries := by
  have hask := ask_eq_checked (contents writes) q
  unfold checked at hask
  refine ⟨q.rows (contents writes), (numbered_contents writes).pairwise_selected _,
    fun row => mem_rows, ?_, ?_, ask_core _ q⟩
  · rw [← forall_readings_iff, hask]
    cases hfind : ((contents writes).readings (q.rows (contents writes))).find?
        (fun x => ¬ Fits x.1) with
    | none =>
      refine ⟨fun _ x hx => ?_, fun _ => ⟨_, rfl⟩⟩
      simpa using List.find?_eq_none.1 hfind x hx
    | some x =>
      have hbad : ¬ Fits x.1 := by simpa using List.find?_some hfind
      constructor
      · rintro ⟨os, hos⟩
        cases hos
      · intro hall
        exact absurd (hall x (List.mem_of_find?_eq_some hfind)) hbad
  · rw [hask]
    cases ((contents writes).readings (q.rows (contents writes))).find? (fun x => ¬ Fits x.1) with
    | none => rfl
    | some x => rfl

-- a negative number has all high bits, so it is selected by any mask and then does not fit
example : (OccurrenceQuery.occurrences "u" .canonical).ask
    (contents [.occurrence ⟨1, "u", "n", "class", "A.h", 1, 1, -1⟩]).queries =
      .error (.store (.outOfRange (-1) 7)) := by
  decide +kernel

end OccurrenceQuery
end IncludeScan
