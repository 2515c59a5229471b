import IncludeScan.Proofs.Scan.Outcome
import Mathlib.Data.Int.ConditionallyCompleteOrder
import Mathlib.Order.ConditionallyCompleteLattice.Basic
import Mathlib.Order.WithBot

/-!
The unit from which a file is scanned.

The scan goes through the units that mention the file and keeps the latest one so far. What is kept
is the first of the latest units among those passed (`FirstLatest.keepLater`), so in the end it is
the first latest of all (`firstLatest_foldl`). This is so for every index that gives answers, and
then the scan succeeds too (`succeeds_markNeeded`).
-/

set_option autoImplicit false

namespace IncludeScan

/-! ## Indices that give answers -/

def Succeeds {ε α : Type} (x : Except ε α) : Prop :=
  ∃ a, x = .ok a

namespace Succeeds

variable {ε α β : Type}

theorem ok (a : α) : Succeeds (.ok a : Except ε α) := ⟨a, rfl⟩

theorem bind {x : Except ε α} {f : α → Except ε β} (hx : Succeeds x) (hf : ∀ a, Succeeds (f a)) :
    Succeeds (x >>= f) := by
  obtain ⟨a, rfl⟩ := hx
  exact hf a

theorem ite {c : Prop} [Decidable c] {x y : Except ε α} (hx : Succeeds x) (hy : Succeeds y) :
    Succeeds (if c then x else y) := by
  split
  · exact hx
  · exact hy

theorem foldlM {step : β → α → Except ε β} (h : ∀ b a, Succeeds (step b a)) (as : List α) (b : β) :
    Succeeds (as.foldlM step b) := by
  induction as generalizing b with
  | nil => exact .ok b
  | cons a as ih => exact (h b a).bind ih

theorem anyM {test : α → Except ε Bool} (h : ∀ a, Succeeds (test a)) (as : List α) :
    Succeeds (as.anyM test) := by
  induction as with
  | nil => exact .ok false
  | cons a as ih =>
    refine (h a).bind fun b => ?_
    cases b with
    | true => exact .ok true
    | false => exact ih

end Succeeds

/-- The index answers what a scan of the file can ask: which units mention the file, when each of
them was indexed and what it includes, and all about symbols. A unit that does not mention the file
need not be known. -/
structure SymbolIndex.Answers (ix : SymbolIndex) (file : String) : Prop where
  unitsContaining : Succeeds (ix.unitsContaining file)
  modificationTime : ∀ units, ix.unitsContaining file = .ok units →
    ∀ unit ∈ units, Succeeds (ix.modificationTime unit)
  includesOf : ∀ units, ix.unitsContaining file = .ok units →
    ∀ unit ∈ units, Succeeds (ix.includesOf unit)
  symbolsIn : Succeeds (ix.symbolsIn file)
  occurrences : ∀ usr roles, Succeeds (ix.occurrences usr roles)
  related : ∀ usr roles, Succeeds (ix.related usr roles)
  canonical : ∀ name, Succeeds (ix.canonical name)

theorem MemoryIndex.answers_ofSnapshot (s : Snapshot) (file : String) :
    (ofSnapshot s).queries.Answers file where
  unitsContaining := ⟨_, queries_unitsContaining s file⟩
  modificationTime := by
    intro units hunits unit hmem
    rw [queries_unitsContaining, Except.ok.injEq] at hunits
    obtain ⟨u, hu, -⟩ := s.exists_unit?_of_mem (hunits ▸ hmem)
    exact ⟨_, queries_modificationTime s hu⟩
  includesOf := by
    intro units hunits unit hmem
    rw [queries_unitsContaining, Except.ok.injEq] at hunits
    obtain ⟨u, hu, -⟩ := s.exists_unit?_of_mem (hunits ▸ hmem)
    exact ⟨_, queries_includesOf s hu⟩
  symbolsIn := ⟨_, queries_symbolsIn s file⟩
  occurrences := fun usr roles => ⟨_, queries_occurrences s usr roles⟩
  related := fun usr roles => ⟨_, queries_related s usr roles⟩
  canonical := fun name => ⟨_, queries_canonical s name⟩

namespace Scan

/-! ## Scans that succeed -/

section Succeeds

variable {ix : SymbolIndex} {task : Task} (h : ix.Answers task.file)
include h

theorem succeeds_counts (level : Level) (o : Occurrence) : Succeeds (counts ix level o) := by
  refine .ite (.ok true) (.ite (.ok false) (.anyM (fun r => ?_) o.relations))
  exact (h.related r.symbol.usr .baseOf).bind fun bases => .ok _

theorem succeeds_needDeclaration (p : Progress) (o : Occurrence) :
    Succeeds (needDeclaration ix task p o) :=
  (succeeds_counts h task.level o).bind fun _ => .ite (.ok _) (.ok p)

theorem succeeds_needMember (p : Progress) (m : Occurrence) :
    Succeeds (needMember ix task p m) := by
  refine .ite (.ok p) ((h.occurrences _ _).bind fun os => ?_)
  exact (Succeeds.foldlM (succeeds_needDeclaration h) os p).bind fun p' => .ok _

theorem succeeds_needOccurrence (p : Progress) (o : Occurrence) :
    Succeeds (needOccurrence ix task p o) := by
  refine (succeeds_counts h task.level o).bind fun _ => .ite (.bind ?_ fun p' => .ok _) (.ok p)
  exact .ite (.ok p) ((h.related _ _).bind fun ms => .foldlM (succeeds_needMember h) ms p)

theorem succeeds_needSymbol (p : Progress) (s : Symbol) : Succeeds (needSymbol ix task p s) := by
  refine .ite (.ok p) ((h.occurrences _ _).bind fun os => ?_)
  exact (Succeeds.foldlM (succeeds_needOccurrence h) os p).bind fun p' => .ok _

theorem succeeds_markNeeded (patterns : List TextPattern) (text : Option String) (tree : Tree) :
    Succeeds (markNeeded ix task patterns text tree) := by
  refine h.symbolsIn.bind fun symbols => ?_
  refine (Succeeds.foldlM (succeeds_needSymbol h) symbols _).bind fun p => ?_
  refine (Succeeds.foldlM (fun p name => ?_) (namesIn patterns text) p).bind fun p' => .ok _
  exact (h.canonical name).bind fun os => .ok _

end Succeeds

/-! ## The first latest unit -/

/-- Modification times in their order, a missing one below all others. -/
def rank : Option Int64 → WithBot Int
  | some time => (time.toInt : WithBot Int)
  | none => ⊥

theorem isLater_iff (time best : Option Int64) :
    isLater time best = true ↔ rank best < rank time := by
  cases time with
  | none => simp [isLater, rank]
  | some t =>
    cases best with
    | none => simp [isLater, rank]
    | some b => simp [isLater, rank, Int64.lt_iff_toInt_lt]

/-- The first of the units whose time no other one exceeds: those before it are earlier, and those
after it are not later. -/
def FirstLatest (time : String → Option Int64) (units : List String) (unit : String) : Prop :=
  ∃ before after, units = before ++ unit :: after ∧
    (∀ v ∈ before, rank (time v) < rank (time unit)) ∧
    ∀ v ∈ after, rank (time v) ≤ rank (time unit)

namespace FirstLatest

variable {time : String → Option Int64} {units : List String} {unit next : String}

theorem rank_le (h : FirstLatest time units unit) {v : String} (hv : v ∈ units) :
    rank (time v) ≤ rank (time unit) := by
  obtain ⟨before, after, rfl, hbefore, hafter⟩ := h
  rcases List.mem_append.1 hv with hv | hv
  · exact (hbefore v hv).le
  · rcases List.mem_cons.1 hv with rfl | hv
    · exact le_rfl
    · exact hafter v hv

/-- One unit more: a later one takes the place, and any other one stands after what is kept. -/
theorem keepLater (h : FirstLatest time units unit) (next : String) :
    ∃ kept, Scan.keepLater time (some (unit, time unit)) next = some (kept, time kept) ∧
      FirstLatest time (units ++ [next]) kept := by
  unfold Scan.keepLater
  by_cases hlater : isLater (time next) (time unit) = true
  · have hlt : rank (time unit) < rank (time next) := (isLater_iff _ _).1 hlater
    refine ⟨next, if_pos hlater, units, [], rfl, ?_, by simp⟩
    intro v hv
    exact (h.rank_le hv).trans_lt hlt
  · have hle : rank (time next) ≤ rank (time unit) := not_lt.1 (mt (isLater_iff _ _).2 hlater)
    obtain ⟨before, after, rfl, hbefore, hafter⟩ := h
    refine ⟨unit, if_neg hlater, before, after ++ [next], by simp, hbefore, ?_⟩
    intro v hv
    rcases List.mem_append.1 hv with hv | hv
    · exact hafter v hv
    · rw [List.mem_singleton.1 hv]
      exact hle

end FirstLatest

theorem firstLatest_foldl (time : String → Option Int64) {units : List String} (h : units ≠ []) :
    ∃ unit, units.foldl (keepLater time) none = some (unit, time unit) ∧
      FirstLatest time units unit := by
  induction units using List.reverseRecOn with
  | nil => exact absurd rfl h
  | append_singleton units next ih =>
    rw [List.foldl_append]
    by_cases hnil : units = []
    · subst hnil
      exact ⟨next, rfl, [], [], rfl, by simp, by simp⟩
    · obtain ⟨unit, hfold, hfirst⟩ := ih hnil
      rw [hfold]
      exact hfirst.keepLater next

def timeOf (ix : SymbolIndex) (unit : String) : Option Int64 :=
  (ix.modificationTime unit).toOption.join

theorem modificationTime_eq {ix : SymbolIndex} {unit : String}
    (h : Succeeds (ix.modificationTime unit)) :
    ix.modificationTime unit = .ok (timeOf ix unit) := by
  obtain ⟨time, htime⟩ := h
  rw [timeOf, htime]
  rfl

theorem latestUnit_eq {ix : SymbolIndex} {file : String} (h : ix.Answers file)
    {units : List String} (hunits : ix.unitsContaining file = .ok units) :
    latestUnit ix file = .ok ((units.foldl (keepLater (timeOf ix)) none).map (·.1)) := by
  have htime : ∀ unit ∈ units, ix.modificationTime unit = .ok (timeOf ix unit) :=
    fun unit hmem => modificationTime_eq (h.modificationTime units hunits unit hmem)
  rw [latestUnit, hunits, ok_bind, latestOf_eq htime]
  rfl

/-- A scan of a file that no unit mentions reports just that. Any other is a scan of the tree of
the first latest unit that mentions the file. -/
theorem scan_from_first_latest_unit (ix : SymbolIndex) (task : Task) (patterns : List TextPattern)
    (text : Option String) (h : ix.Answers task.file) :
    ∃ units report, ix.unitsContaining task.file = .ok units ∧
      unusedIncludes ix task patterns text = .ok report ∧ report.path = task.file ∧
      (report.unit = none ∧ report.unused = [] ↔ units = []) ∧
      (units ≠ [] → ∃ unit entries tree, report.unit = some unit ∧
        FirstLatest (timeOf ix) units unit ∧ ix.includesOf unit = .ok entries ∧
        markNeeded ix task patterns text (Tree.build task.file entries) = .ok tree ∧
        report.unused = tree.unusedRootIncludes) := by
  obtain ⟨units, hunits⟩ := h.unitsContaining
  have hlatest := latestUnit_eq h hunits
  by_cases hnil : units = []
  · subst hnil
    refine ⟨[], .notIndexed task.file, hunits, ?_, rfl, by simp [Report.notIndexed],
      fun hne => absurd rfl hne⟩
    rw [unusedIncludes, hlatest]
    rfl
  · obtain ⟨unit, hfold, hfirst⟩ := firstLatest_foldl (timeOf ix) hnil
    have hmem : unit ∈ units := by
      obtain ⟨before, after, rfl, -, -⟩ := hfirst
      simp
    obtain ⟨entries, hentries⟩ := h.includesOf units hunits unit hmem
    obtain ⟨tree, htree⟩ := succeeds_markNeeded h patterns text (Tree.build task.file entries)
    refine ⟨units, ⟨task.file, some unit, tree.unusedRootIncludes⟩, hunits, ?_, rfl,
      by simp [hnil], fun _ => ⟨unit, entries, tree, rfl, hfirst, hentries, htree, rfl⟩⟩
    rw [unusedIncludes, hlatest, hfold, Option.map_some, ok_bind]
    simp only [hentries, ok_bind, htree]
    rfl

def datedUnits : Snapshot :=
  ⟨[⟨"undated.o", "F.m", none, [⟨"F.m", "H.h", 1⟩]⟩,
    ⟨"old.o", "F.m", some (-5), [⟨"F.m", "A.h", 1⟩]⟩,
    ⟨"new.o", "F.m", some 9, [⟨"F.m", "B.h", 1⟩]⟩,
    ⟨"tie.o", "F.m", some 9, [⟨"F.m", "C.h", 1⟩]⟩], []⟩

theorem first_of_tied_units_scanned :
    (MemoryIndex.ofSnapshot datedUnits).queries.Answers "F.m" ∧
      unusedIncludes (MemoryIndex.ofSnapshot datedUnits).queries ⟨"F.m", .allRemovable⟩ [] none =
        .ok ⟨"F.m", some "new.o", [⟨"F.m", "B.h", 1⟩]⟩ ∧
      FirstLatest (timeOf (MemoryIndex.ofSnapshot datedUnits).queries)
        ["undated.o", "old.o", "new.o", "tie.o"] "new.o" := by
  have hanswers := MemoryIndex.answers_ofSnapshot datedUnits "F.m"
  have hscan : unusedIncludes (MemoryIndex.ofSnapshot datedUnits).queries ⟨"F.m", .allRemovable⟩ []
      none = .ok ⟨"F.m", some "new.o", [⟨"F.m", "B.h", 1⟩]⟩ := by
    decide +kernel
  have hnames : (MemoryIndex.ofSnapshot datedUnits).queries.unitsContaining "F.m" =
      .ok ["undated.o", "old.o", "new.o", "tie.o"] := by
    decide +kernel
  obtain ⟨units, report, hunits, hreport, -, -, hchosen⟩ :=
    scan_from_first_latest_unit _ ⟨"F.m", .allRemovable⟩ [] none hanswers
  cases hunits.symm.trans hnames
  cases hreport.symm.trans hscan
  obtain ⟨unit, -, -, hunit, hfirst, -⟩ := hchosen (by simp)
  cases hunit
  exact ⟨hanswers, hscan, hfirst⟩

end Scan
end IncludeScan
