import IncludeScan.Proofs.Scan.Safety

/-!
Reports at different levels.

A later level visits fewer paths (`visitedPaths_mono`). The safest one keeps all root includes, so
that it reports exactly those with no needed path below them (`unusedIn_completelyUnused`), and
whatever it reports, every level reports (`unused_subset_of_completelyUnused`). The other levels
choose a root include for each path with several nodes, and the choice depends on what is kept
already. A path that only the earlier level visits can turn the choice for another path, and then
the later level keeps an include that the earlier one reports (`unused_subset_iff_choices_kept`).
-/

set_option autoImplicit false

namespace IncludeScan.Scan

/-! ## Fewer paths -/

theorem checksExtends_of_rank_le {l l' : Level} (h : l.rank ≤ l'.rank)
    (hl' : l'.checksExtends = true) : l.checksExtends = true := by
  unfold Level.checksExtends at hl' ⊢
  have hlt := of_decide_eq_true hl'
  exact decide_eq_true (by omega)

theorem checksContains_of_rank_le {l l' : Level} (h : l.rank ≤ l'.rank)
    (hl' : l'.checksContains = true) : l.checksContains = true := by
  unfold Level.checksContains at hl' ⊢
  have hlt := of_decide_eq_true hl'
  exact decide_eq_true (by omega)

theorem visitedPaths_mono (s : Snapshot) (file : String) (names : List String) {l l' : Level}
    (h : l.rank ≤ l'.rank) :
    visitedPaths s ⟨file, l'⟩ names ⊆ visitedPaths s ⟨file, l⟩ names := by
  intro path hpath
  obtain ⟨hne, hmet⟩ := mem_visitedPaths.1 hpath
  refine mem_visitedPaths.2 ⟨hne, hmet.imp_left fun hneeded => ?_⟩
  exact hneeded.mono (checksExtends_of_rank_le h) (checksContains_of_rank_le h)

theorem unusedIn_subset_iff (s : Snapshot) (file : String) (names : List String)
    (u : CompilationUnit) (l l' : Level) :
    unusedIn s ⟨file, l⟩ names u ⊆ unusedIn s ⟨file, l'⟩ names u ↔
      keptRoots l' (Tree.build file u.includes) (visitedPaths s ⟨file, l'⟩ names) ⊆
        keptRoots l (Tree.build file u.includes) (visitedPaths s ⟨file, l⟩ names) := by
  have wf := Tree.build_wellFormed file u.includes
  refine wf.unkeptEntries_subset_iff fun r hr => ?_
  obtain ⟨path, -, habove⟩ := exists_of_mem_keptRoots hr
  exact wf.parent?_of_mem_rootsAbove habove

/-! ## The safest level -/

theorem unused_subset_of_completelyUnused (s : Snapshot) (file : String) (level : Level)
    (patterns : List TextPattern) (text : Option String) :
    ∃ r₀ r, unusedIncludes (MemoryIndex.ofSnapshot s).queries ⟨file, .completelyUnused⟩ patterns
        text = .ok r₀ ∧
      unusedIncludes (MemoryIndex.ofSnapshot s).queries ⟨file, level⟩ patterns text = .ok r ∧
      r₀.unit = r.unit ∧ r₀.unused ⊆ r.unused := by
  refine ⟨_, _, unusedIncludes_eq s _ patterns text, unusedIncludes_eq s _ patterns text, ?_⟩
  rcases reportOf_cases s file with ⟨-, hreport⟩ | ⟨u, -, -, hreport⟩
  · rw [hreport, hreport]
    exact ⟨rfl, List.Subset.refl _⟩
  · rw [hreport, hreport]
    refine ⟨rfl, (unusedIn_subset_iff s file _ u .completelyUnused level).2 fun r hr => ?_⟩
    obtain ⟨path, hpath, habove⟩ := exists_of_mem_keptRoots hr
    have hrank : Level.completelyUnused.rank ≤ level.rank := Nat.zero_le _
    rw [keptRoots_of_all rfl]
    exact List.mem_flatMap.2 ⟨path, visitedPaths_mono s file _ hrank hpath, habove⟩

theorem unusedIn_completelyUnused (s : Snapshot) (file : String) (u : CompilationUnit) :
    unusedIn s ⟨file, .completelyUnused⟩ [] u =
      ((Tree.build file u.includes).rootIncludes.filter (fun i =>
        ¬ NeededBelow s .completelyUnused file (Tree.build file u.includes) i)).filterMap
          (Tree.entry? (Tree.build file u.includes)) := by
  have wf := Tree.build_wellFormed file u.includes
  have hkept : ∀ i ∈ (Tree.build file u.includes).rootIncludes,
      decide (i ∉ keptRoots .completelyUnused (Tree.build file u.includes)
        (visitedPaths s ⟨file, .completelyUnused⟩ [])) =
      decide (¬ NeededBelow s .completelyUnused file (Tree.build file u.includes) i) := by
    intro i hi
    rw [decide_eq_decide, mem_keptRoots_completelyUnused s wf (wf.mem_children.1 hi)]
  exact congrArg (List.filterMap _) (List.filter_congr hkept)

/-- What the safest level reports without patterns: a scan succeeds and names a unit exactly when
one mentions the file; and of the root includes in the tree of that unit's directives it reports,
in the order of attaching, exactly those with no node at or below them for a path, other than the
file's own, that the file needs. -/
theorem completelyUnused_report_exact (s : Snapshot) (file : String) (text : Option String) :
    ∃ r, unusedIncludes (MemoryIndex.ofSnapshot s).queries ⟨file, .completelyUnused⟩ [] text =
        .ok r ∧ (r.unit = none ↔ s.unitsContaining file = []) ∧
      ∀ name, r.unit = some name → name ∈ s.unitsContaining file ∧
        ∃ u, s.unit? name = some u ∧
          r.unused = ((Tree.build file u.includes).rootIncludes.filter (fun i =>
            ¬ NeededBelow s .completelyUnused file (Tree.build file u.includes) i)).filterMap
              (Tree.entry? (Tree.build file u.includes)) := by
  refine ⟨_, unusedIncludes_eq s ⟨file, .completelyUnused⟩ [] text, ?_⟩
  rw [namesIn_nil]
  refine ⟨?_, fun name hname => ⟨mem_unitsContaining_of_unit hname, ?_⟩⟩
  · rcases reportOf_cases s file with ⟨hnil, hreport⟩ | ⟨u, hne, -, hreport⟩
    · rw [hreport]
      exact ⟨fun _ => hnil, fun _ => rfl⟩
    · rw [hreport]
      refine ⟨?_, fun hnil => absurd hnil hne⟩
      rintro ⟨⟩
  · rcases reportOf_cases s file with ⟨-, hreport⟩ | ⟨u, -, hu, hreport⟩
    · rw [hreport] at hname
      cases hname
    · rw [hreport] at hname ⊢
      cases hname
      exact ⟨u, hu, unusedIn_completelyUnused s file u⟩

/-- A class whose property is declared two steps away, and whose method is declared in a header of
its own. -/
def memberHeaders : Snapshot where
  units := [⟨"F.o", "/F.m", none, [⟨"/D.h", "/P.h", 1⟩, ⟨"/F.m", "/A.h", 1⟩, ⟨"/F.m", "/N.h", 2⟩,
    ⟨"/F.m", "/D.h", 3⟩]⟩]
  occurrences := [⟨⟨"c", "c", .class_⟩, ⟨"/F.m", 5, 1⟩, .reference, []⟩,
    ⟨⟨"c", "c", .class_⟩, ⟨"/A.h", 1, 1⟩, .declaration, []⟩,
    ⟨⟨"p", "p", .property⟩, ⟨"/P.h", 1, 1⟩, .declaration,
      [⟨.containedBy, ⟨"c", "c", .class_⟩⟩]⟩,
    ⟨⟨"m", "m", .instanceMethod⟩, ⟨"/N.h", 1, 1⟩, .declaration,
      [⟨.containedBy, ⟨"c", "c", .class_⟩⟩]⟩]

theorem method_header_reported :
    ∃ r, unusedIncludes (MemoryIndex.ofSnapshot memberHeaders).queries
        ⟨"/F.m", .completelyUnused⟩ [] none = .ok r ∧ r.unit = some "F.o" ∧
      r.unused = [⟨"/F.m", "/N.h", 2⟩] := by
  obtain ⟨r, hr, hnone, hexact⟩ := completelyUnused_report_exact memberHeaders "/F.m" none
  have hunits : memberHeaders.unitsContaining "/F.m" = ["F.o"] := by decide +kernel
  have hsome : r.unit ≠ none := by
    rw [ne_eq, hnone, hunits]
    exact List.cons_ne_nil _ _
  obtain ⟨name, hname⟩ := Option.ne_none_iff_exists'.1 hsome
  obtain ⟨hmem, u, hu, hunused⟩ := hexact name hname
  obtain rfl : name = "F.o" := by simpa [hunits] using hmem
  cases hu
  exact ⟨r, hr, hname, hunused.trans (by decide +kernel)⟩

/-! ## Levels that choose -/

/-- Of two levels that choose, the later reports all that the earlier does exactly when each root
include that it keeps by choice is kept at the earlier too. Those of the paths with a single node
always are. -/
theorem unused_subset_iff_choices_kept (s : Snapshot) (file : String)
    (patterns : List TextPattern) (text : Option String) {l₁ l₂ : Level}
    (h₁ : l₁ ≠ .completelyUnused) (h₂ : l₁.rank < l₂.rank) :
    ∃ r₁ r₂, unusedIncludes (MemoryIndex.ofSnapshot s).queries ⟨file, l₁⟩ patterns text = .ok r₁ ∧
      unusedIncludes (MemoryIndex.ofSnapshot s).queries ⟨file, l₂⟩ patterns text = .ok r₂ ∧
      r₁.unit = r₂.unit ∧ (r₁.unit = none → r₁.unused = [] ∧ r₂.unused = []) ∧
      ∀ name, r₁.unit = some name → ∃ u, s.unit? name = some u ∧
        (r₁.unused ⊆ r₂.unused ↔
          ∀ r ∈ (Tree.build file u.includes).chosenRoots
              (visitedPaths s ⟨file, l₂⟩ (namesIn patterns text)),
            r ∉ (Tree.build file u.includes).soleRoots
              (visitedPaths s ⟨file, l₂⟩ (namesIn patterns text)) →
            r ∈ (Tree.build file u.includes).chosenRoots
              (visitedPaths s ⟨file, l₁⟩ (namesIn patterns text))) := by
  have hone : ∀ {l : Level}, l ≠ .completelyUnused → l.marksAllRoots = false :=
    fun hl => by simpa [Level.marksAllRoots] using hl
  have hl₂ : l₂ ≠ .completelyUnused := by
    rintro rfl
    exact Nat.not_lt_zero _ h₂
  refine ⟨_, _, unusedIncludes_eq s _ patterns text, unusedIncludes_eq s _ patterns text, ?_⟩
  rcases reportOf_cases s file with ⟨-, hreport⟩ | ⟨u, -, hu, hreport⟩
  · rw [hreport, hreport]
    refine ⟨rfl, fun _ => ⟨rfl, rfl⟩, ?_⟩
    rintro name ⟨⟩
  · rw [hreport, hreport]
    refine ⟨rfl, ?_, ?_⟩
    · rintro ⟨⟩
    rintro name ⟨⟩
    refine ⟨u, hu, (unusedIn_subset_iff s file _ u l₁ l₂).trans ?_⟩
    rw [keptRoots_of_one (hone h₁), keptRoots_of_one (hone hl₂)]
    constructor
    · exact fun hsub r hr _ => hsub hr
    · intro hchoices r hr
      by_cases hsole : r ∈ (Tree.build file u.includes).soleRoots
          (visitedPaths s ⟨file, l₂⟩ (namesIn patterns text))
      · have hmono := visitedPaths_mono s file (namesIn patterns text) (Nat.le_of_lt h₂)
        exact Tree.soleRoots_subset_chosenRoots _ _ (Tree.soleRoots_mono hmono hsole)
      · exact hchoices r hr hsole

theorem unused_subset_of_diamond :
    Level.allRemovable ≠ .completelyUnused ∧ Level.allRemovable.rank < Level.withoutExtends.rank ∧
      ∃ r₁ r₂, unusedIncludes (MemoryIndex.ofSnapshot diamond).queries ⟨"/F.m", .allRemovable⟩ []
          none = .ok r₁ ∧
        unusedIncludes (MemoryIndex.ofSnapshot diamond).queries ⟨"/F.m", .withoutExtends⟩ []
          none = .ok r₂ ∧ r₁.unused = [⟨"/F.m", "/C.h", 2⟩] ∧ r₁.unused ⊆ r₂.unused := by
  obtain ⟨r₁, r₂, hr₁, hr₂, -, -, hiff⟩ := unused_subset_iff_choices_kept diamond "/F.m" [] none
    (show Level.allRemovable ≠ .completelyUnused by decide)
    (show Level.allRemovable.rank < Level.withoutExtends.rank by decide)
  have hreport : r₁ = ⟨"/F.m", some "F.o", [⟨"/F.m", "/C.h", 2⟩]⟩ :=
    (Except.ok.inj (unusedIncludes_diamond.symm.trans hr₁)).symm
  refine ⟨by decide, by decide, r₁, r₂, hr₁, hr₂, by rw [hreport], ?_⟩
  obtain ⟨u, hu, hsubset⟩ := hiff "F.o" (by rw [hreport])
  cases hu
  exact hsubset.2 (by decide +kernel)

def extendedDiamond : Snapshot where
  units := diamond.units
  occurrences := diamond.occurrences ++
    [⟨⟨"h", "h", .class_⟩, ⟨"/C.h", 1, 1⟩, .extendedBy, [⟨.extendedBy, ⟨"h", "h", .class_⟩⟩]⟩,
      ⟨⟨"p", "p", .class_⟩, ⟨"/P.h", 1, 1⟩, .reference, [⟨.baseOf, ⟨"h", "h", .class_⟩⟩]⟩]

/-- With extensions checked the second header is kept and serves for both paths. Without, the first
is chosen. -/
theorem earlier_level_reports_other_include :
    ∃ r₁ r₂, unusedIncludes (MemoryIndex.ofSnapshot extendedDiamond).queries
          ⟨"/F.m", .allRemovable⟩ [] none = .ok r₁ ∧
        unusedIncludes (MemoryIndex.ofSnapshot extendedDiamond).queries
          ⟨"/F.m", .withoutExtends⟩ [] none = .ok r₂ ∧
        r₁.unused = [⟨"/F.m", "/A.h", 1⟩] ∧ r₂.unused = [⟨"/F.m", "/C.h", 2⟩] ∧
        ¬ r₁.unused ⊆ r₂.unused := by
  refine ⟨⟨"/F.m", some "F.o", [⟨"/F.m", "/A.h", 1⟩]⟩, ⟨"/F.m", some "F.o", [⟨"/F.m", "/C.h", 2⟩]⟩,
    ?_, ?_, rfl, rfl, by decide⟩
  · rw [unusedIncludes_eq]
    decide +kernel
  · rw [unusedIncludes_eq]
    decide +kernel

end IncludeScan.Scan
