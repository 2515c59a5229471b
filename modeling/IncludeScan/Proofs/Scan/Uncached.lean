import IncludeScan.Proofs.Scan.Outcome

/-!
A scan that remembers nothing.

`Uncached.unusedIncludes` deals with every symbol, occurrence, member and path each time it is met.
Its tree visits the needed paths as often as they are met (`Uncached.foldlM_needSymbol`), and visits
after the first change nothing once the batches are settled (`mem_keptRoots_firstBy`). So what a
scan remembers saves work and has no part in its report (`unusedIncludes_eq_uncached`).
-/

set_option autoImplicit false

namespace IncludeScan

theorem foldlM_eq_foldl {α β γ ε : Type} {step : β → α → Except ε β} {f : β → γ → β}
    {parts : α → List γ} (hstep : ∀ b a, step b a = .ok ((parts a).foldl f b)) (as : List α)
    (b : β) : as.foldlM step b = .ok ((as.flatMap parts).foldl f b) := by
  induction as generalizing b with
  | nil => rfl
  | cons a as ih => rw [List.foldlM_cons, hstep, ok_bind, ih, List.flatMap_cons, List.foldl_append]

namespace Scan

/-! ## The scan -/

namespace Uncached

def needPath (task : Task) (t : Tree) (path : String) : Tree :=
  if path == task.file then t
  else
    let (roots, t) := rootsFor task.level t path
    roots.foldl Tree.mark t

def needDeclaration (ix : SymbolIndex) (task : Task) (t : Tree) (o : Occurrence) :
    Except IndexError Tree := do
  if ← counts ix task.level o then return needPath task t o.location.path else return t

def needMember (ix : SymbolIndex) (task : Task) (t : Tree) (member : Occurrence) :
    Except IndexError Tree := do
  if member.symbol.kind.isMethod then return t
  let declarations ← ix.occurrences member.symbol.usr (Roles.declaration.union .extendedBy)
  declarations.foldlM (needDeclaration ix task) t

def needMembers (ix : SymbolIndex) (task : Task) (t : Tree) (o : Occurrence) :
    Except IndexError Tree := do
  if !task.level.checksContains || !o.roles.contains .declaration then return t
  let members ← ix.related o.symbol.usr .containedBy
  members.foldlM (needMember ix task) t

def needOccurrence (ix : SymbolIndex) (task : Task) (t : Tree) (o : Occurrence) :
    Except IndexError Tree := do
  if ← counts ix task.level o then
    let t ← needMembers ix task t o
    return needPath task t o.location.path
  else return t

def needSymbol (ix : SymbolIndex) (task : Task) (t : Tree) (s : Symbol) :
    Except IndexError Tree := do
  let occurrences ← ix.occurrences s.usr neededRoles
  occurrences.foldlM (needOccurrence ix task) t

/-- The unused direct includes of a file, found without remembering what was dealt with. -/
def unusedIncludes (ix : SymbolIndex) (task : Task) : Except IndexError Report := do
  match ← latestUnit ix task.file with
  | none => return .notIndexed task.file
  | some unit =>
    let tree := Tree.build task.file (← ix.includesOf unit)
    let symbols ← ix.symbolsIn task.file
    let tree ← symbols.foldlM (needSymbol ix task) tree
    return ⟨task.file, some unit, tree.resolveBatches.unusedRootIncludes⟩

/-! ## The paths it visits -/

section Steps

variable (s : Snapshot) (task : Task) (t : Tree)

theorem needDeclaration_eq (o : Occurrence) :
    needDeclaration (MemoryIndex.ofSnapshot s).queries task t o =
      .ok ((if s.counts task.level o then [o.location.path] else []).foldl (needPath task) t) := by
  unfold needDeclaration
  rw [counts_ofSnapshot, ok_bind]
  cases s.counts task.level o with
  | true => rfl
  | false => rfl

theorem needMember_eq (m : Occurrence) :
    needMember (MemoryIndex.ofSnapshot s).queries task t m =
      .ok ((if !m.symbol.kind.isMethod then s.declarationPaths task.level m.symbol.usr
        else []).foldl (needPath task) t) := by
  unfold needMember
  cases m.symbol.kind.isMethod with
  | true => rfl
  | false =>
    have hfold := foldlM_eq_foldl (needDeclaration_eq s task)
      (s.occurrencesOf m.symbol.usr (Roles.declaration.union .extendedBy)) t
    rw [← declarationPaths_eq] at hfold
    simpa [MemoryIndex.queries_occurrences, ok_bind] using hfold

theorem needMembers_eq (o : Occurrence) :
    needMembers (MemoryIndex.ofSnapshot s).queries task t o =
      .ok ((s.memberPaths task.level o).foldl (needPath task) t) := by
  unfold needMembers Snapshot.memberPaths
  rw [← Bool.not_and]
  cases task.level.checksContains && o.roles.contains .declaration with
  | false => rfl
  | true =>
    have hfold := foldlM_eq_foldl (needMember_eq s task) (s.relatedTo o.symbol.usr .containedBy) t
    rw [← flatMap_filter] at hfold
    simpa [MemoryIndex.queries_related, ok_bind, Snapshot.membersOf] using hfold

theorem needOccurrence_eq (o : Occurrence) :
    needOccurrence (MemoryIndex.ofSnapshot s).queries task t o =
      .ok ((s.occurrencePaths task.level o).foldl (needPath task) t) := by
  unfold needOccurrence Snapshot.occurrencePaths
  rw [counts_ofSnapshot, ok_bind]
  cases s.counts task.level o with
  | false => rfl
  | true =>
    rw [if_pos rfl, if_pos rfl, needMembers_eq, ok_bind, List.foldl_append]
    rfl

theorem needSymbol_eq (symbol : Symbol) :
    needSymbol (MemoryIndex.ofSnapshot s).queries task t symbol =
      .ok ((s.symbolPaths task.level symbol.usr).foldl (needPath task) t) := by
  unfold needSymbol
  rw [MemoryIndex.queries_occurrences, ok_bind]
  exact foldlM_eq_foldl (needOccurrence_eq s task) (s.occurrencesOf symbol.usr neededRoles) t

theorem foldl_needPath (paths : List String) :
    paths.foldl (needPath task) t =
      (paths.filter (fun path => path ≠ task.file)).foldl (visit task.level) t := by
  have hstep : needPath task =
      fun t path => if decide (path ≠ task.file) then visit task.level t path else t := by
    funext t path
    unfold needPath
    by_cases h : path = task.file
    · rw [if_pos (by simpa using h), if_neg (by simpa using h)]
    · rw [if_neg (by simpa using h), if_pos (by simpa using h), ← foldl_mark_rootsFor]
  rw [hstep, List.foldl_filter]

theorem foldlM_needSymbol :
    (s.symbolsIn task.file).foldlM (needSymbol (MemoryIndex.ofSnapshot s).queries task) t =
      .ok (((s.neededPaths task.level task.file).filter (fun path => path ≠ task.file)).foldl
        (visit task.level) t) := by
  rw [foldlM_eq_foldl (needSymbol_eq s task), ← foldl_needPath]
  rfl

end Steps

end Uncached

/-! ## Visiting again -/

theorem mem_keptRoots_firstBy (level : Level) (t : Tree) (paths : List String) (r : Nat) :
    r ∈ keptRoots level t (firstBy id paths) ↔ r ∈ keptRoots level t paths := by
  cases hl : level.marksAllRoots with
  | true =>
    rw [keptRoots_of_all hl, keptRoots_of_all hl, List.mem_flatMap, List.mem_flatMap]
    simp only [mem_firstBy_id]
  | false =>
    rw [keptRoots_of_one hl, keptRoots_of_one hl]
    exact t.mem_chosenRoots_firstBy paths r

theorem visitedPaths_nil (s : Snapshot) (task : Task) :
    visitedPaths s task [] = visits task.file (s.neededPaths task.level task.file) := by
  unfold visitedPaths
  rw [show s.namePaths task.file [] = [] from rfl, List.append_nil]

theorem Uncached.unusedIncludes_eq (s : Snapshot) (task : Task) :
    Uncached.unusedIncludes (MemoryIndex.ofSnapshot s).queries task = .ok (reportOf s task []) := by
  obtain ⟨hlatest, -, hunit⟩ := s.latestUnit_ofSnapshot task.file
  unfold Uncached.unusedIncludes reportOf
  rw [hlatest, ok_bind]
  cases hu : s.latestUnit? task.file with
  | none => rfl
  | some u =>
    have hincludes := MemoryIndex.queries_includesOf s (hunit u hu)
    simp only [Option.map_some, hincludes, ok_bind, MemoryIndex.queries_symbolsIn,
      foldlM_needSymbol, unusedRootIncludes_foldl_visit]
    rw [unusedIn, visitedPaths_nil, visits]
    rw [Tree.unkeptEntries_congr _ (mem_keptRoots_firstBy task.level _ _)]
    rfl

/-- Without text patterns, a scan over an index in memory succeeds with the report of the scan that
remembers nothing. -/
theorem unusedIncludes_eq_uncached (s : Snapshot) (task : Task) (text : Option String) :
    ∃ r, unusedIncludes (MemoryIndex.ofSnapshot s).queries task [] text = .ok r ∧
      Uncached.unusedIncludes (MemoryIndex.ofSnapshot s).queries task = .ok r := by
  refine ⟨reportOf s task [], ?_, Uncached.unusedIncludes_eq s task⟩
  rw [unusedIncludes_eq]
  cases text with
  | none => rfl
  | some content => rfl

end Scan
end IncludeScan
