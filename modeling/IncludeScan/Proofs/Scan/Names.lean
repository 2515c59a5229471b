import IncludeScan.Proofs.Scan.Safety
import IncludeScan.Proofs.Tree.Growth
import Mathlib.Computability.Primrec.List

/-!
The headers that declare the names in a file's text.

A name from the text keeps a header of each of its symbols in reach. It need not keep all of them:
a scan deals with a symbol once. Of a symbol that occurs in the file it takes the occurrences that
count, of any other the first canonical occurrence, and it passes over the rest (`PassedOver`). The
header of an occurrence passed over stays in reach exactly when a direct include that is kept for
another reason leads there (`named_headers_reached_iff`).
-/

set_option autoImplicit false

namespace IncludeScan

/-! ## Firsts in a list -/

theorem mem_firstBy_iff_find? {α κ : Type} [DecidableEq κ] {key : α → κ} {x : α} {xs : List α} :
    x ∈ firstBy key xs ↔ xs.find? (fun y => key y == key x) = some x := by
  induction xs with
  | nil => simp
  | cons y ys ih =>
    rw [firstBy, List.mem_cons, List.mem_filter, ih, List.find?_cons]
    by_cases hkey : key y = key x
    · rw [beq_iff_eq.2 hkey]
      simp [hkey, eq_comm]
    · have hne : x ≠ y := fun h => hkey (h ▸ rfl)
      rw [beq_eq_false_iff_ne.2 hkey]
      simp [hne, Ne.symm hkey]

/-! ## The last way out of a file -/

/-- Without some of the file's own directives, a path is in reach when one of the others leads
there by the directives of headers alone. -/
theorem reaches_without_iff {es gone : List Entry} {file path : String}
    (hgone : ∀ e ∈ gone, e.source = file) (hne : path ≠ file) :
    Reaches (es.filter (fun e => e ∉ gone)) file path ↔
      ∃ e ∈ es, e.source = file ∧ e ∉ gone ∧
        Reaches (es.filter (fun e => e.source ≠ file)) e.target path := by
  constructor
  · intro h
    -- along the way, the last directive of the file itself
    induction h with
    | refl => exact absurd rfl hne
    | @tail a b _ hlast ih =>
      obtain ⟨e, he, rfl, rfl⟩ := hlast
      obtain ⟨hmem, hkept⟩ := List.mem_filter.1 he
      by_cases hfile : e.source = file
      · exact ⟨e, hmem, hfile, of_decide_eq_true hkept, .refl⟩
      · obtain ⟨d, hd, hsource, hnot, hreach⟩ := ih hfile
        exact ⟨d, hd, hsource, hnot,
          hreach.step (List.mem_filter.2 ⟨hmem, decide_eq_true hfile⟩)⟩
  · rintro ⟨e, he, hsource, hnot, hreach⟩
    have hsub : es.filter (fun e => e.source ≠ file) ⊆ es.filter (fun e => e ∉ gone) := by
      intro d hd
      obtain ⟨hmem, hheader⟩ := List.mem_filter.1 hd
      refine List.mem_filter.2 ⟨hmem, decide_eq_true fun hd' => ?_⟩
      exact of_decide_eq_true hheader (hgone d hd')
    have hfirst : Reaches (es.filter (fun e => e ∉ gone)) file e.target := by
      refine Reaches.step ?_ (List.mem_filter.2 ⟨he, decide_eq_true hnot⟩)
      rw [hsource]
      exact .refl
    exact hfirst.trans (hreach.mono hsub)

/-! ## Occurrences of the names -/

namespace Snapshot

theorem mem_canonicalOf {s : Snapshot} {name : String} {o : Occurrence} :
    o ∈ s.canonicalOf name ↔
      o ∈ s.occurrences ∧ o.symbol.name = name ∧ o.roles.contains .canonical = true := by
  simp [canonicalOf, List.mem_filter]

theorem intersects_neededRoles_of_canonical {r : Roles} (h : r.contains .canonical = true) :
    r.intersects Scan.neededRoles = true := by
  refine intersects_of_contains (a := .canonical) (by decide) ?_
  simp only [Roles.contains, Roles.intersects, beq_iff_eq, bne_iff_ne] at h ⊢
  rw [h]
  decide

def named (s : Snapshot) (names : List String) : List Occurrence :=
  names.flatMap s.canonicalOf

theorem mem_named {s : Snapshot} {names : List String} {o : Occurrence} :
    o ∈ s.named names ↔
      o ∈ s.occurrences ∧ o.symbol.name ∈ names ∧ o.roles.contains .canonical = true := by
  simp only [named, List.mem_flatMap, mem_canonicalOf]
  constructor
  · rintro ⟨name, hname, ho, rfl, hrole⟩
    exact ⟨ho, hname, hrole⟩
  · rintro ⟨ho, hname, hrole⟩
    exact ⟨_, hname, ho, rfl, hrole⟩

/-- A canonical occurrence of a name does not make the scan visit its path: the symbol occurs in the
file and the occurrence does not count, or the symbol does not and another occurrence of it comes
first. -/
inductive PassedOver (s : Snapshot) (level : Level) (file : String) (names : List String)
    (o : Occurrence) : Prop
  | uncounted (hin : ∃ o' ∈ s.occurrences, o'.location.path = file ∧ o'.symbol.usr = o.symbol.usr)
      (hcounts : s.counts level o = false)
  | preceded
      (hout : ∀ o' ∈ s.occurrences, o'.location.path = file → o'.symbol.usr ≠ o.symbol.usr)
      (hfirst : (s.named names).find? (fun o' => o'.symbol.usr == o.symbol.usr) ≠ some o)

theorem mem_namePaths_of_first {s : Snapshot} {file : String} {names : List String}
    {o : Occurrence}
    (hout : ∀ o' ∈ s.occurrences, o'.location.path = file → o'.symbol.usr ≠ o.symbol.usr)
    (hfirst : (s.named names).find? (fun o' => o'.symbol.usr == o.symbol.usr) = some o) :
    o.location.path ∈ s.namePaths file names := by
  have hnew : o.symbol.usr ∉ (s.symbolsIn file).map (·.usr) := by
    rw [mem_usrs_symbolsIn]
    rintro ⟨o', ho', hpath, husr⟩
    exact hout o' ho' hpath husr
  refine List.mem_map.2 ⟨o, ?_, rfl⟩
  rw [firstBy_filter (fun x y hxy => by simp only [hxy])]
  exact List.mem_filter.2 ⟨mem_firstBy_iff_find?.2 hfirst, decide_eq_true hnew⟩

end Snapshot

namespace Scan

theorem mem_visitedPaths_of_named {s : Snapshot} {task : Task} {names : List String}
    {o : Occurrence} (ho : o ∈ s.named names)
    (hpassed : ¬ s.PassedOver task.level task.file names o) (hne : o.location.path ≠ task.file) :
    o.location.path ∈ visitedPaths s task names := by
  obtain ⟨hmem, -, hrole⟩ := Snapshot.mem_named.1 ho
  refine mem_visitedPaths.2 ⟨hne, ?_⟩
  by_cases hin : ∃ o' ∈ s.occurrences,
      o'.location.path = task.file ∧ o'.symbol.usr = o.symbol.usr
  · have hcounts : s.counts task.level o = true := by
      by_contra hc
      exact hpassed (.uncounted hin (eq_false_of_ne_true hc))
    exact .inl (.occurrence
      ⟨hmem, hin, Snapshot.intersects_neededRoles_of_canonical hrole, hcounts⟩)
  · have hout : ∀ o' ∈ s.occurrences, o'.location.path = task.file →
        o'.symbol.usr ≠ o.symbol.usr := by
      intro o' ho' hpath husr
      exact hin ⟨o', ho', hpath, husr⟩
    have hfirst : (s.named names).find? (fun o' => o'.symbol.usr == o.symbol.usr) = some o := by
      by_contra hf
      exact hpassed (.preceded hout hf)
    exact .inr (Snapshot.mem_namePaths_of_first hout hfirst)

theorem reaches_of_visited {s : Snapshot} {task : Task} {names : List String}
    {u : CompilationUnit} {path : String} (hvisited : path ∈ visitedPaths s task names)
    (hreach : Reaches u.includes task.file path) :
    Reaches (u.includes.filter (fun e => e ∉ unusedIn s task names u)) task.file path := by
  have hne := (mem_visitedPaths.1 hvisited).1
  obtain ⟨r, hr, hk⟩ := exists_mem_keptRoots hvisited (nodesFor_build_ne_nil hne hreach)
  exact reaches_of_kept hr hk

/-- A scan succeeds, and the headers of the canonical occurrences that it does not pass over stay
in reach. Those of all canonical occurrences of the names do exactly when to each that is passed
over an include that is not reported leads. -/
theorem named_headers_reached_iff (s : Snapshot) (task : Task) (patterns : List TextPattern)
    (text : Option String) :
    ∃ r, unusedIncludes (MemoryIndex.ofSnapshot s).queries task patterns text = .ok r ∧
      (r.unit = none ↔ s.unitsContaining task.file = []) ∧
      ∀ unit, r.unit = some unit → ∃ u, s.unit? unit = some u ∧
        (∀ o ∈ s.named (namesIn patterns text),
          ¬ s.PassedOver task.level task.file (namesIn patterns text) o →
          o.location.path ≠ task.file → Reaches u.includes task.file o.location.path →
          Reaches (u.includes.filter (fun e => e ∉ r.unused)) task.file o.location.path) ∧
        ((∀ name ∈ namesIn patterns text, ∀ o ∈ s.occurrences, o.symbol.name = name →
            o.roles.contains .canonical = true → o.location.path ≠ task.file →
            Reaches u.includes task.file o.location.path →
            Reaches (u.includes.filter (fun e => e ∉ r.unused)) task.file o.location.path) ↔
          ∀ o ∈ s.named (namesIn patterns text),
            s.PassedOver task.level task.file (namesIn patterns text) o →
            o.location.path ≠ task.file → Reaches u.includes task.file o.location.path →
            ∃ e ∈ u.includes, e.source = task.file ∧ e ∉ r.unused ∧
              Reaches (u.includes.filter (fun e => e.source ≠ task.file)) e.target
                o.location.path) := by
  refine ⟨_, unusedIncludes_eq s task patterns text, ?_⟩
  obtain ⟨file, level⟩ := task
  generalize namesIn patterns text = names
  rcases reportOf_cases s file with ⟨hnil, hreport⟩ | ⟨u, hne, hu, hreport⟩
  · rw [hreport]
    refine ⟨⟨fun _ => hnil, fun _ => rfl⟩, ?_⟩
    rintro unit ⟨⟩
  · rw [hreport]
    refine ⟨⟨?_, fun hnil => absurd hnil hne⟩, ?_⟩
    · rintro ⟨⟩
    rintro unit ⟨⟩
    have hsafe : ∀ o ∈ s.named names, ¬ s.PassedOver level file names o →
        o.location.path ≠ file → Reaches u.includes file o.location.path →
        Reaches (u.includes.filter (fun e => e ∉ unusedIn s ⟨file, level⟩ names u)) file
          o.location.path :=
      fun o ho hpassed hpath hreach =>
        reaches_of_visited (mem_visitedPaths_of_named ho hpassed hpath) hreach
    have hgone : ∀ e ∈ unusedIn s ⟨file, level⟩ names u, e.source = file :=
      fun e he => (mem_includes_of_unkept he).2
    refine ⟨u, hu, hsafe, ?_, ?_⟩
    · intro hall o ho _ hpath hreach
      obtain ⟨hmem, hname, hrole⟩ := Snapshot.mem_named.1 ho
      exact (reaches_without_iff hgone hpath).1 (hall _ hname o hmem rfl hrole hpath hreach)
    · rintro hled _ hname o hmem rfl hrole hpath hreach
      have ho : o ∈ s.named names := Snapshot.mem_named.2 ⟨hmem, hname, hrole⟩
      by_cases hpassed : s.PassedOver level file names o
      · exact (reaches_without_iff hgone hpath).2 (hled o ho hpassed hpath hreach)
      · exact hsafe o ho hpassed hpath hreach

/-- Two headers hold canonical occurrences of one symbol, which the file names in its text. -/
def declaredTwice : Snapshot where
  units := [⟨"F.o", "F.m", none, [⟨"F.m", "A.h", 1⟩, ⟨"F.m", "B.h", 2⟩]⟩]
  occurrences := [⟨⟨"r", "run", .instanceMethod⟩, ⟨"A.h", 1, 1⟩, .canonical, []⟩,
    ⟨⟨"r", "run", .instanceMethod⟩, ⟨"B.h", 1, 1⟩, .canonical, []⟩]

theorem namesIn_run : namesIn (TextPattern.compileAll ["run"]) (some "run") = ["run"] := by
  cbv

theorem unusedIncludes_declaredTwice :
    unusedIncludes (MemoryIndex.ofSnapshot declaredTwice).queries ⟨"F.m", .completelyUnused⟩
        (TextPattern.compileAll ["run"]) (some "run") =
      .ok ⟨"F.m", some "F.o", [⟨"F.m", "B.h", 2⟩]⟩ := by
  rw [unusedIncludes_eq, namesIn_run]
  decide +kernel

theorem first_declaring_header_reached :
    ∃ r, unusedIncludes (MemoryIndex.ofSnapshot declaredTwice).queries
        ⟨"F.m", .completelyUnused⟩ (TextPattern.compileAll ["run"]) (some "run") = .ok r ∧
      r.unused = [⟨"F.m", "B.h", 2⟩] ∧
      ∃ u, declaredTwice.unit? "F.o" = some u ∧
        Reaches (u.includes.filter (fun e => e ∉ r.unused)) "F.m" "A.h" := by
  obtain ⟨r, hr, -, hunit⟩ := named_headers_reached_iff declaredTwice
    ⟨"F.m", .completelyUnused⟩ (TextPattern.compileAll ["run"]) (some "run")
  have hreport : r = ⟨"F.m", some "F.o", [⟨"F.m", "B.h", 2⟩]⟩ :=
    (Except.ok.inj (unusedIncludes_declaredTwice.symm.trans hr)).symm
  obtain ⟨u, hu, hsafe, -⟩ := hunit "F.o" (by rw [hreport])
  rw [namesIn_run] at hsafe
  refine ⟨r, hr, by rw [hreport], u, hu, ?_⟩
  refine hsafe ⟨⟨"r", "run", .instanceMethod⟩, ⟨"A.h", 1, 1⟩, .canonical, []⟩ (by decide) ?_
    (by decide) ?_
  · intro hpassed
    cases hpassed with
    | uncounted hin hcounts => exact absurd hcounts (by decide)
    | preceded hout hfirst => exact hfirst (by decide)
  · cases hu
    decide +kernel

theorem second_declaring_header_lost :
    "run" ∈ namesIn (TextPattern.compileAll ["run"]) (some "run") ∧
      (⟨⟨"r", "run", .instanceMethod⟩, ⟨"B.h", 1, 1⟩, .canonical, []⟩ : Occurrence) ∈
        declaredTwice.canonicalOf "run" ∧
      ∃ r, unusedIncludes (MemoryIndex.ofSnapshot declaredTwice).queries
          ⟨"F.m", .completelyUnused⟩ (TextPattern.compileAll ["run"]) (some "run") = .ok r ∧
        r.unit = some "F.o" ∧ ∃ u, declaredTwice.unit? "F.o" = some u ∧
          Reaches u.includes "F.m" "B.h" ∧
          ¬ Reaches (u.includes.filter (fun e => e ∉ r.unused)) "F.m" "B.h" := by
  exact ⟨by rw [namesIn_run]; decide, by decide, _, unusedIncludes_declaredTwice, rfl, _, rfl,
    by decide +kernel, by decide +kernel⟩

end Scan
end IncludeScan
