import IncludeScan.Proofs.Scan.Outcome

/-!
What deleting the reported includes leaves in reach.

Whatever a file needs and reaches, it still reaches once the reported includes are gone
(`needed_reached_without_unused`): for each needed path a root include above one of its nodes is
kept, and with it the whole way down to that node. The converse is weaker than it looks. The tree
has every directive below one node only, so a reported include may well lead to a needed path, by
directives that hang below another one, even where all root includes are kept
(`unused_lead_nowhere_iff`).
-/

set_option autoImplicit false

namespace IncludeScan.Scan

/-! ## Ways that are kept -/

theorem nodesFor_build_ne_nil {file path : String} {es : List Entry} (hne : path ≠ file)
    (h : Reaches es file path) : (Tree.build file es).nodesFor path ≠ [] := by
  have wf := Tree.build_wellFormed file es
  obtain ⟨i, hi⟩ := Tree.exists_target?_of_reaches h
  have hpos : 0 < i := by
    refine Nat.pos_of_ne_zero fun h0 => ?_
    rw [h0, wf.target?_root] at hi
    exact hne (Option.some.inj hi).symm
  exact List.ne_nil_of_mem (wf.mem_nodesFor.2 ⟨hpos, hi⟩)

/-- The way down to a node below a kept root include uses kept directives only. -/
theorem reaches_of_kept {file path : String} {es : List Entry} {kept : List Nat} {r : Nat}
    (hr : r ∈ (Tree.build file es).rootsAbove path) (hk : r ∈ kept) :
    Reaches (es.filter (fun e => e ∉ (Tree.build file es).unkeptEntries kept)) file path := by
  have wf := Tree.build_wellFormed file es
  obtain ⟨i, hbelow, htarget⟩ :=
    (wf.mem_rootsAbove_iff (wf.parent?_of_mem_rootsAbove hr)).1 hr
  refine wf.reaches_target htarget fun j e hj hb he => ?_
  have hmem : e ∈ es := (Tree.build_collects file es).attached_mem hj he
  refine List.mem_filter.2 ⟨hmem, decide_eq_true fun hun => ?_⟩
  obtain ⟨r', hp', he', hnot⟩ := wf.mem_unkeptEntries.1 hun
  have hj' : j = r' := wf.entry_inj hj (wf.pos_of_parent? hp') he he'
  -- the only direct include above the node is the kept one
  have hroot : r' = r :=
    (wf.rootInclude_of_below hp' (hj' ▸ hb)).symm.trans
      (wf.rootInclude_of_below (wf.parent?_of_mem_rootsAbove hr) hbelow)
  exact hnot (hroot ▸ hk)

theorem mem_includes_of_unkept {file : String} {es : List Entry} {kept : List Nat} {e : Entry}
    (h : e ∈ (Tree.build file es).unkeptEntries kept) : e ∈ es ∧ e.source = file := by
  have wf := Tree.build_wellFormed file es
  obtain ⟨r, hp, he, -⟩ := wf.mem_unkeptEntries.1 h
  have hpos := wf.pos_of_parent? hp
  obtain ⟨p, -, hp', htarget⟩ := wf.parent hpos he
  rw [hp] at hp'
  cases hp'
  rw [wf.target?_root] at htarget
  exact ⟨(Tree.build_collects file es).attached_mem hpos he, (Option.some.inj htarget).symm⟩

/-- Deleting the reported includes cuts off no needed path: a scan succeeds, names a unit exactly
when one mentions the file, reports distinct directives of the file, and what the file needs and
reaches by the unit's directives it reaches without the reported ones. -/
theorem needed_reached_without_unused (s : Snapshot) (task : Task) (patterns : List TextPattern)
    (text : Option String) :
    ∃ r, unusedIncludes (MemoryIndex.ofSnapshot s).queries task patterns text = .ok r ∧
      (r.unit = none ↔ s.unitsContaining task.file = []) ∧
      ∀ name, r.unit = some name → ∃ u, s.unit? name = some u ∧ r.unused.Nodup ∧
        (∀ e ∈ r.unused, e ∈ u.includes ∧ e.source = task.file) ∧
        ∀ path, path ≠ task.file → s.Needed task.level task.file path →
          Reaches u.includes task.file path →
          Reaches (u.includes.filter (fun e => e ∉ r.unused)) task.file path := by
  refine ⟨_, unusedIncludes_eq s task patterns text, ?_⟩
  obtain ⟨file, level⟩ := task
  rcases reportOf_cases s file with ⟨hnil, hreport⟩ | ⟨u, hne, hu, hreport⟩
  · rw [hreport]
    refine ⟨⟨fun _ => hnil, fun _ => rfl⟩, ?_⟩
    rintro name ⟨⟩
  · rw [hreport]
    refine ⟨⟨?_, fun hnil => absurd hnil hne⟩, ?_⟩
    · rintro ⟨⟩
    rintro name ⟨⟩
    have wf := Tree.build_wellFormed file u.includes
    refine ⟨u, hu, wf.nodup_unkeptEntries _, fun e he => mem_includes_of_unkept he, ?_⟩
    intro path hpath hneeded hreach
    have hvisited : path ∈ visitedPaths s ⟨file, level⟩ (namesIn patterns text) :=
      mem_visitedPaths.2 ⟨hpath, .inl hneeded⟩
    obtain ⟨r, hr, hk⟩ := exists_mem_keptRoots hvisited (nodesFor_build_ne_nil hpath hreach)
    exact reaches_of_kept hr hk

def diamond : Snapshot where
  units := [⟨"F.o", "/F.m", none, [⟨"/F.m", "/A.h", 1⟩, ⟨"/F.m", "/C.h", 2⟩,
    ⟨"/A.h", "/H.h", 1⟩, ⟨"/C.h", "/H.h", 1⟩]⟩]
  occurrences := [⟨⟨"h", "h", .class_⟩, ⟨"/H.h", 1, 1⟩, .declaration, []⟩,
    ⟨⟨"h", "h", .class_⟩, ⟨"/F.m", 3, 1⟩, .reference, []⟩]

theorem unusedIncludes_diamond :
    unusedIncludes (MemoryIndex.ofSnapshot diamond).queries ⟨"/F.m", .allRemovable⟩ [] none =
      .ok ⟨"/F.m", some "F.o", [⟨"/F.m", "/C.h", 2⟩]⟩ := by
  rw [unusedIncludes_eq]
  decide +kernel

theorem reaches_without_unused_of_diamond :
    ∃ r, unusedIncludes (MemoryIndex.ofSnapshot diamond).queries ⟨"/F.m", .allRemovable⟩ [] none =
        .ok r ∧ r.unused = [⟨"/F.m", "/C.h", 2⟩] ∧
      diamond.Needed .allRemovable "/F.m" "/H.h" ∧
      ∃ u, diamond.unit? "F.o" = some u ∧
        Reaches (u.includes.filter (fun e => e ∉ r.unused)) "/F.m" "/H.h" := by
  obtain ⟨r, hr, -, hunit⟩ :=
    needed_reached_without_unused diamond ⟨"/F.m", .allRemovable⟩ [] none
  have hreport : r = ⟨"/F.m", some "F.o", [⟨"/F.m", "/C.h", 2⟩]⟩ :=
    (Except.ok.inj (unusedIncludes_diamond.symm.trans hr)).symm
  have hneeded : diamond.Needed .allRemovable "/F.m" "/H.h" :=
    Snapshot.mem_neededPaths.1 (by decide +kernel)
  obtain ⟨u, hu, -, -, hreach⟩ := hunit "F.o" (by rw [hreport])
  refine ⟨r, hr, by rw [hreport], hneeded, u, hu, hreach "/H.h" (by decide) hneeded ?_⟩
  have hincludes : u.includes = [⟨"/F.m", "/A.h", 1⟩, ⟨"/F.m", "/C.h", 2⟩, ⟨"/A.h", "/H.h", 1⟩,
      ⟨"/C.h", "/H.h", 1⟩] := by
    cases hu
    rfl
  rw [hincludes]
  refine Reaches.step (e := ⟨"/A.h", "/H.h", 1⟩) ?_ (by decide)
  exact Reaches.step (e := ⟨"/F.m", "/A.h", 1⟩) .refl (by decide)

/-! ## Ways that a report overlooks -/

/-- Some path that the file needs, other than itself, is reached from a header. -/
def NeededFrom (s : Snapshot) (level : Level) (file : String) (es : List Entry)
    (header : String) : Prop :=
  ∃ path, path ≠ file ∧ s.Needed level file path ∧ Reaches es header path

/-- Some path that the file needs, other than itself, has a node below a given one. -/
def NeededBelow (s : Snapshot) (level : Level) (file : String) (t : Tree) (i : Nat) : Prop :=
  ∃ path, path ≠ file ∧ s.Needed level file path ∧ ∃ j, t.Below i j ∧ t.target? j = some path

theorem neededBelow_iff {s : Snapshot} {level : Level} {file : String} {t : Tree} {i : Nat} :
    NeededBelow s level file t i ↔ ∃ path ∈ s.neededPaths level file, path ≠ file ∧
      ∃ j ∈ List.range t.nodes.size, t.Below i j ∧ t.target? j = some path := by
  constructor
  · rintro ⟨path, hne, hneeded, j, hb, htarget⟩
    exact ⟨path, Snapshot.mem_neededPaths.2 hneeded, hne, j,
      List.mem_range.2 (Tree.lt_size_of_target? htarget), hb, htarget⟩
  · rintro ⟨path, hneeded, hne, j, -, hb, htarget⟩
    exact ⟨path, hne, Snapshot.mem_neededPaths.1 hneeded, j, hb, htarget⟩

instance decidableNeededBelow (s : Snapshot) (level : Level) (file : String) (es : List Entry)
    (i : Nat) : Decidable (NeededBelow s level file (Tree.build file es) i) :=
  decidable_of_iff _ neededBelow_iff.symm

theorem mem_keptRoots_completelyUnused (s : Snapshot) {file : String} {t : Tree}
    (wf : t.WellFormed file) {r : Nat} (hr : t.parent? r = some 0) :
    r ∈ keptRoots .completelyUnused t (visitedPaths s ⟨file, .completelyUnused⟩ []) ↔
      NeededBelow s .completelyUnused file t r := by
  have hvisited : ∀ path, path ∈ visitedPaths s ⟨file, .completelyUnused⟩ [] ↔
      path ≠ file ∧ s.Needed .completelyUnused file path := by
    intro path
    rw [mem_visitedPaths]
    simp [Snapshot.namePaths]
  rw [keptRoots_of_all rfl, List.mem_flatMap]
  simp only [hvisited, wf.mem_rootsAbove_iff hr, NeededBelow, and_assoc]

/-- With all root includes kept, the reported ones lead to nothing that is needed exactly when each
direct include from which a needed path is reached has one below it in the tree. -/
theorem unused_lead_nowhere_iff (s : Snapshot) (file : String) (text : Option String) :
    ∃ r, unusedIncludes (MemoryIndex.ofSnapshot s).queries ⟨file, .completelyUnused⟩ [] text =
        .ok r ∧ (r.unit = none → r.unused = []) ∧
      ∀ name, r.unit = some name → ∃ u, s.unit? name = some u ∧
        ((∀ e ∈ r.unused, ¬ NeededFrom s .completelyUnused file u.includes e.target) ↔
          ∀ i e, (Tree.build file u.includes).parent? i = some 0 →
            Tree.entry? (Tree.build file u.includes) i = some e →
            NeededFrom s .completelyUnused file u.includes e.target →
            NeededBelow s .completelyUnused file (Tree.build file u.includes) i) := by
  refine ⟨_, unusedIncludes_eq s ⟨file, .completelyUnused⟩ [] text, ?_⟩
  rw [namesIn_nil]
  rcases reportOf_cases s file with ⟨-, hreport⟩ | ⟨u, -, hu, hreport⟩
  · rw [hreport]
    refine ⟨fun _ => rfl, ?_⟩
    rintro name ⟨⟩
  · rw [hreport]
    refine ⟨?_, ?_⟩
    · rintro ⟨⟩
    rintro name ⟨⟩
    have wf := Tree.build_wellFormed file u.includes
    refine ⟨u, hu, ?_, ?_⟩
    · intro hnowhere i e hi he hfrom
      by_contra hbelow
      have hnot := mt (mem_keptRoots_completelyUnused s wf hi).1 hbelow
      have hmem : e ∈ unusedIn s ⟨file, .completelyUnused⟩ [] u :=
        (wf.entry_mem_unkeptEntries hi he).2 hnot
      exact hnowhere e hmem hfrom
    · intro hall e he hfrom
      obtain ⟨i, hi, hentry, hnot⟩ := wf.mem_unkeptEntries.1 he
      exact hnot ((mem_keptRoots_completelyUnused s wf hi).2 (hall i e hi hentry hfrom))

def sharedHeader : Snapshot where
  units := [⟨"F.o", "/F.m", none, [⟨"/F.m", "/A.h", 1⟩, ⟨"/F.m", "/C.h", 2⟩,
    ⟨"/A.h", "/X.h", 1⟩, ⟨"/C.h", "/X.h", 1⟩, ⟨"/X.h", "/H.h", 1⟩]⟩]
  occurrences := diamond.occurrences

/-- The last directive hangs below the first of the two headers, so the second is reported. -/
theorem unused_leads_to_needed_header :
    ∃ r, unusedIncludes (MemoryIndex.ofSnapshot sharedHeader).queries
        ⟨"/F.m", .completelyUnused⟩ [] none = .ok r ∧ r.unit = some "F.o" ∧
      r.unused = [⟨"/F.m", "/C.h", 2⟩] ∧
      ∃ u, sharedHeader.unit? "F.o" = some u ∧
        NeededFrom sharedHeader .completelyUnused "/F.m" u.includes "/C.h" := by
  refine ⟨⟨"/F.m", some "F.o", [⟨"/F.m", "/C.h", 2⟩]⟩, ?_, rfl, rfl, _, rfl,
    "/H.h", by decide, Snapshot.mem_neededPaths.1 (by decide +kernel), ?_⟩
  · rw [unusedIncludes_eq]
    decide +kernel
  · refine Reaches.step (e := ⟨"/X.h", "/H.h", 1⟩) ?_ (by decide)
    exact Reaches.step (e := ⟨"/C.h", "/X.h", 1⟩) .refl (by decide)

end IncludeScan.Scan
