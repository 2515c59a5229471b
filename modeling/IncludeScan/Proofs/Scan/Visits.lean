import IncludeScan.Proofs.Scan.Needed
import IncludeScan.Proofs.Tree.Choice
import Mathlib.Tactic.Set

/-!
The paths that a scan visits.

A scan remembers which paths and symbols it has dealt with and skips them. Its work on the tree is
nevertheless that of visiting, once each and in the order in which they are first met, the paths
that `Snapshot.neededPaths` and `Snapshot.namePaths` list (`markNeeded_eq`): whatever is skipped
leads to paths met before. So the report of a scan is a matter of the unit's tree and of that list
of paths.
-/

set_option autoImplicit false

namespace IncludeScan

/-! ## Lists -/

section Lists

variable {α β κ ε : Type}

theorem flatMap_filter (p : α → Bool) (f : α → List β) (l : List α) :
    (l.filter p).flatMap f = l.flatMap (fun a => if p a then f a else []) := by
  induction l with
  | nil => rfl
  | cons a l ih =>
    rw [List.flatMap_cons, ← ih]
    by_cases h : p a = true
    · rw [List.filter_cons_of_pos h, List.flatMap_cons, if_pos h]
    · rw [List.filter_cons_of_neg h, if_neg h, List.nil_append]

theorem firstBy_filter_concat [DecidableEq κ] (key : α → κ) (known : List κ) (xs : List α) (x : α) :
    firstBy key ((xs ++ [x]).filter (fun y => key y ∉ known)) =
      if key x ∈ known ∨ key x ∈ xs.map key then firstBy key (xs.filter (fun y => key y ∉ known))
      else firstBy key (xs.filter (fun y => key y ∉ known)) ++ [x] := by
  rw [List.filter_append]
  by_cases hknown : key x ∈ known
  · have hdrop : [x].filter (fun y => key y ∉ known) = [] := by simp [hknown]
    rw [if_pos (.inl hknown), hdrop, List.append_nil]
  · have hkeep : [x].filter (fun y => key y ∉ known) = [x] := by simp [hknown]
    have hold : key x ∈ (xs.filter (fun y => key y ∉ known)).map key ↔
        key x ∈ known ∨ key x ∈ xs.map key := by
      simp only [List.mem_map, List.mem_filter, decide_eq_true_eq, hknown, false_or]
      constructor
      · rintro ⟨y, ⟨hy, -⟩, heq⟩
        exact ⟨y, hy, heq⟩
      · rintro ⟨y, hy, heq⟩
        exact ⟨y, ⟨hy, heq ▸ hknown⟩, heq⟩
    rw [hkeep, firstBy_concat]
    by_cases h : key x ∈ (xs.filter (fun y => key y ∉ known)).map key
    · rw [if_pos h, if_pos (hold.1 h)]
    · rw [if_neg h, if_neg (mt hold.2 h)]

theorem ok_bind (a : α) (f : α → Except ε β) : (Except.ok a >>= f) = f a := rfl

/-- A run of steps that all succeed and keep an invariant of the members dealt with succeeds and
ends with the invariant of them all. -/
theorem foldlM_ok {step : β → α → Except ε β} (inv : List α → β → Prop)
    (hstep : ∀ done a b, inv done b → ∃ b', step b a = .ok b' ∧ inv (done ++ [a]) b')
    (as : List α) {b : β} (h : inv [] b) : ∃ b', as.foldlM step b = .ok b' ∧ inv as b' := by
  induction as using List.reverseRecOn with
  | nil => exact ⟨b, rfl, h⟩
  | append_singleton as a ih =>
    obtain ⟨b', hb', hinv⟩ := ih
    obtain ⟨b'', hb'', hinv'⟩ := hstep as a b' hinv
    refine ⟨b'', ?_, hinv'⟩
    rw [List.foldlM_append, hb', ok_bind, List.foldlM_cons, hb'']
    rfl

end Lists

namespace Scan

/-! ## First visits -/

/-- The paths in the order in which they are first met, the file itself left out. -/
def visits (file : String) (met : List String) : List String :=
  firstBy id (met.filter (fun path => path ≠ file))

theorem mem_visits {file path : String} {met : List String} :
    path ∈ visits file met ↔ path ≠ file ∧ path ∈ met := by
  unfold visits
  rw [mem_firstBy_id, List.mem_filter, decide_eq_true_iff, and_comm]

theorem visits_concat (file path : String) (met : List String) :
    visits file (met ++ [path]) =
      if path = file ∨ path ∈ visits file met then visits file met
      else visits file met ++ [path] := by
  by_cases hf : path = file
  · rw [if_pos (.inl hf)]
    simp [visits, hf]
  · have hsnoc : (met ++ [path]).filter (fun path => path ≠ file) =
        met.filter (fun path => path ≠ file) ++ [path] := by
      simp [hf]
    have hmem : id path ∈ (met.filter (fun path => path ≠ file)).map id ↔
        path = file ∨ path ∈ visits file met := by
      simp [mem_visits, hf]
    unfold visits at hmem ⊢
    rw [hsnoc, firstBy_concat]
    by_cases h : id path ∈ (met.filter (fun path => path ≠ file)).map id
    · rw [if_pos h, if_pos (hmem.1 h)]
    · rw [if_neg h, if_neg (mt hmem.2 h)]

theorem visits_append_of_subset {file : String} {met more : List String} (h : more ⊆ met) :
    visits file (met ++ more) = visits file met := by
  induction more using List.reverseRecOn with
  | nil => rw [List.append_nil]
  | append_singleton more path ih =>
    have hmore := ih (fun x hx => h (List.mem_append_left _ hx))
    have hpath : path ∈ met := h (List.mem_append_right _ (List.mem_singleton.2 rfl))
    rw [← List.append_assoc, visits_concat, hmore, if_pos]
    by_cases hf : path = file
    · exact .inl hf
    · exact .inr (mem_visits.2 ⟨hf, hpath⟩)

/-! ## Progress along the paths met -/

def visit (level : Level) (t : Tree) (path : String) : Tree :=
  if level.marksAllRoots then t.visitAll path else t.visitOne path

theorem foldl_mark_rootsFor (level : Level) (t : Tree) (path : String) :
    (rootsFor level t path).1.foldl Tree.mark (rootsFor level t path).2 = visit level t path := by
  cases hl : level.marksAllRoots with
  | true =>
    simp only [visit, rootsFor, hl]
    rfl
  | false =>
    simp only [visit, rootsFor, hl]
    rfl

theorem needPath_eq (task : Task) (p : Progress) (path : String) :
    needPath task p path =
      if path = task.file ∨ path ∈ p.paths then p
      else { p with tree := visit task.level p.tree path, paths := path :: p.paths } := by
  have hcond : (path == task.file || p.paths.contains path) = true ↔
      path = task.file ∨ path ∈ p.paths := by
    simp
  unfold needPath
  by_cases h : path = task.file ∨ path ∈ p.paths
  · rw [if_pos h, if_pos (hcond.2 h)]
  · rw [if_neg h, if_neg (mt hcond.1 h), ← foldl_mark_rootsFor]

/-- The scan has visited the paths met so far, once each. -/
structure Follows (task : Task) (t₀ : Tree) (met : List String) (p : Progress) : Prop where
  paths_eq : p.paths.reverse = visits task.file met
  tree_eq : p.tree = (visits task.file met).foldl (visit task.level) t₀

theorem follows_start (task : Task) (t₀ : Tree) : Follows task t₀ [] (.start t₀) :=
  ⟨rfl, rfl⟩

namespace Follows

variable {task : Task} {t₀ : Tree} {met : List String} {p : Progress}

theorem needPath (h : Follows task t₀ met p) (path : String) :
    Follows task t₀ (met ++ [path]) (needPath task p path) := by
  have hmem : path = task.file ∨ path ∈ p.paths ↔
      path = task.file ∨ path ∈ visits task.file met := by
    rw [← h.paths_eq, List.mem_reverse]
  rw [needPath_eq]
  by_cases hp : path = task.file ∨ path ∈ p.paths
  · have hv := visits_concat task.file path met
    rw [if_pos (hmem.1 hp)] at hv
    rw [if_pos hp]
    exact ⟨hv ▸ h.paths_eq, hv ▸ h.tree_eq⟩
  · have hv := visits_concat task.file path met
    rw [if_neg (mt hmem.2 hp)] at hv
    rw [if_neg hp]
    refine ⟨?_, ?_⟩
    · rw [hv, List.reverse_cons, h.paths_eq]
    · rw [hv, List.foldl_append, ← h.tree_eq]
      rfl

theorem skip (h : Follows task t₀ met p) {more : List String} (hsub : more ⊆ met) :
    Follows task t₀ (met ++ more) p := by
  have hv : visits task.file (met ++ more) = visits task.file met := visits_append_of_subset hsub
  exact ⟨hv ▸ h.paths_eq, hv ▸ h.tree_eq⟩

end Follows

/-! ## Symbols of the file -/

section Symbols

variable {s : Snapshot} {task : Task} {t₀ : Tree} {met : List String} {p : Progress}

/-- What is remembered is met: all that a symbol dealt with in full needs, and all declarations of
a symbol dealt with as a member. -/
structure Remembers (s : Snapshot) (task : Task) (t₀ : Tree) (met : List String) (p : Progress) :
    Prop extends Follows task t₀ met p where
  full_met : ∀ usr ∈ p.full, s.symbolPaths task.level usr ⊆ met
  members_met : ∀ usr ∈ p.members, s.declarationPaths task.level usr ⊆ met

theorem remembers_start (s : Snapshot) (task : Task) (t₀ : Tree) :
    Remembers s task t₀ [] (.start t₀) :=
  ⟨follows_start task t₀, fun _ h => absurd h List.not_mem_nil,
    fun _ h => absurd h List.not_mem_nil⟩

theorem Remembers.skip (h : Remembers s task t₀ met p) {more : List String} (hsub : more ⊆ met) :
    Remembers s task t₀ (met ++ more) p :=
  ⟨h.toFollows.skip hsub, fun usr hu _ hx => List.mem_append_left _ (h.full_met usr hu hx),
    fun usr hu _ hx => List.mem_append_left _ (h.members_met usr hu hx)⟩

theorem full_needPath (task : Task) (p : Progress) (path : String) :
    (needPath task p path).full = p.full := by
  rw [needPath_eq]
  split <;> rfl

theorem members_needPath (task : Task) (p : Progress) (path : String) :
    (needPath task p path).members = p.members := by
  rw [needPath_eq]
  split <;> rfl

theorem Remembers.needPath (h : Remembers s task t₀ met p) (path : String) :
    Remembers s task t₀ (met ++ [path]) (needPath task p path) := by
  refine ⟨h.toFollows.needPath path, fun usr hu x hx => ?_, fun usr hu x hx => ?_⟩
  · rw [full_needPath] at hu
    exact List.mem_append_left _ (h.full_met usr hu hx)
  · rw [members_needPath] at hu
    exact List.mem_append_left _ (h.members_met usr hu hx)

theorem counts_ofSnapshot (s : Snapshot) (level : Level) (o : Occurrence) :
    counts (MemoryIndex.ofSnapshot s).queries level o = .ok (s.counts level o) := by
  unfold counts Snapshot.counts
  cases o.roles.contains .extendedBy with
  | false => rfl
  | true =>
    cases level.checksExtends with
    | false => rfl
    | true =>
      simp only [MemoryIndex.queries_related]
      exact List.anyM_pure

theorem Remembers.foldlM {α : Type} {step : Progress → α → Except IndexError Progress}
    {paths : α → List String}
    (hstep : ∀ met p a, Remembers s task t₀ met p → ∃ p', step p a = .ok p' ∧
      Remembers s task t₀ (met ++ paths a) p' ∧ p'.full = p.full)
    (h : Remembers s task t₀ met p) (as : List α) :
    ∃ p', as.foldlM step p = .ok p' ∧ Remembers s task t₀ (met ++ as.flatMap paths) p' ∧
      p'.full = p.full := by
  refine foldlM_ok (fun done p' => Remembers s task t₀ (met ++ done.flatMap paths) p' ∧
    p'.full = p.full) ?_ as ⟨by simpa using h, rfl⟩
  rintro done a p' ⟨hmet, hfull⟩
  obtain ⟨p'', hp'', hmet', hfull'⟩ := hstep _ p' a hmet
  refine ⟨p'', hp'', ?_, hfull'.trans hfull⟩
  rwa [List.flatMap_append, List.flatMap_singleton, ← List.append_assoc]

theorem Remembers.needDeclaration (h : Remembers s task t₀ met p) (o : Occurrence) :
    ∃ p', needDeclaration (MemoryIndex.ofSnapshot s).queries task p o = .ok p' ∧
      Remembers s task t₀
        (met ++ if s.counts task.level o then [o.location.path] else []) p' ∧
      p'.full = p.full := by
  unfold Scan.needDeclaration
  rw [counts_ofSnapshot]
  cases s.counts task.level o with
  | true => exact ⟨_, rfl, h.needPath o.location.path, full_needPath task p _⟩
  | false => exact ⟨p, rfl, by simpa using h, rfl⟩

theorem declarationPaths_eq (s : Snapshot) (level : Level) (usr : String) :
    s.declarationPaths level usr =
      (s.occurrencesOf usr (Roles.declaration.union .extendedBy)).flatMap
        (fun o => if s.counts level o then [o.location.path] else []) := by
  rw [Snapshot.declarationPaths, List.map_eq_flatMap, flatMap_filter]

theorem Remembers.needMember (h : Remembers s task t₀ met p) (m : Occurrence) :
    ∃ p', needMember (MemoryIndex.ofSnapshot s).queries task p m = .ok p' ∧
      Remembers s task t₀ (met ++ if !m.symbol.kind.isMethod then
        s.declarationPaths task.level m.symbol.usr else []) p' ∧
      p'.full = p.full := by
  unfold Scan.needMember
  simp only [MemoryIndex.queries_occurrences]
  by_cases hskip : (p.full.contains m.symbol.usr || p.members.contains m.symbol.usr ||
      m.symbol.kind.isMethod) = true
  · -- a method needs nothing, and a symbol dealt with has had its declarations met
    rw [if_pos hskip]
    refine ⟨p, rfl, h.skip ?_, rfl⟩
    rw [Bool.or_eq_true, Bool.or_eq_true, List.contains_iff_mem, List.contains_iff_mem] at hskip
    intro x hx
    split at hx
    · next hkind =>
      rcases hskip with (hfull | hmembers) | hmethod
      · exact h.full_met _ hfull (s.declarationPaths_subset_symbolPaths task.level _ hx)
      · exact h.members_met _ hmembers hx
      · simp [hmethod] at hkind
    · cases hx
  · rw [if_neg hskip]
    have hkind : (!m.symbol.kind.isMethod) = true := by
      cases hk : m.symbol.kind.isMethod with
      | true => simp [hk] at hskip
      | false => rfl
    rw [if_pos hkind, declarationPaths_eq]
    obtain ⟨p', hp', hmet, hfull⟩ := h.foldlM (fun met p o hp => hp.needDeclaration o)
      (s.occurrencesOf m.symbol.usr (Roles.declaration.union .extendedBy))
    refine ⟨{ p' with members := m.symbol.usr :: p'.members }, ?_, ⟨⟨hmet.paths_eq, hmet.tree_eq⟩,
      hmet.full_met, fun usr hu => ?_⟩, hfull⟩
    · rw [ok_bind, hp']
      rfl
    · rcases List.mem_cons.1 hu with rfl | hu
      · rw [declarationPaths_eq]
        exact List.subset_append_right _ _
      · exact hmet.members_met usr hu

theorem Remembers.needMembers (h : Remembers s task t₀ met p) (o : Occurrence) :
    ∃ p', needMembers (MemoryIndex.ofSnapshot s).queries task p o = .ok p' ∧
      Remembers s task t₀ (met ++ s.memberPaths task.level o) p' ∧ p'.full = p.full := by
  unfold Scan.needMembers Snapshot.memberPaths
  simp only [MemoryIndex.queries_related]
  by_cases hcheck : (task.level.checksContains && o.roles.contains .declaration) = true
  · have hgo : ¬ (!task.level.checksContains || !o.roles.contains .declaration) = true := by
      rw [← Bool.not_and, hcheck]
      exact Bool.false_ne_true
    rw [if_pos hcheck, if_neg hgo, Snapshot.membersOf, flatMap_filter]
    exact h.foldlM (fun met p m hp => hp.needMember m) (s.relatedTo o.symbol.usr .containedBy)
  · have hstop : (!task.level.checksContains || !o.roles.contains .declaration) = true := by
      rw [← Bool.not_and, eq_false_of_ne_true hcheck]
      rfl
    rw [if_neg hcheck, if_pos hstop]
    exact ⟨p, rfl, by simpa using h, rfl⟩

theorem Remembers.needOccurrence (h : Remembers s task t₀ met p) (o : Occurrence) :
    ∃ p', needOccurrence (MemoryIndex.ofSnapshot s).queries task p o = .ok p' ∧
      Remembers s task t₀ (met ++ s.occurrencePaths task.level o) p' ∧ p'.full = p.full := by
  unfold Scan.needOccurrence Snapshot.occurrencePaths
  rw [counts_ofSnapshot]
  cases s.counts task.level o with
  | true =>
    obtain ⟨p', hp', hmet, hfull⟩ := h.needMembers o
    refine ⟨Scan.needPath task p' o.location.path, ?_, ?_, ?_⟩
    · rw [ok_bind, if_pos rfl, hp']
      rfl
    · rw [if_pos rfl, ← List.append_assoc]
      exact hmet.needPath o.location.path
    · rw [full_needPath, hfull]
  | false => exact ⟨p, rfl, by simpa using h, rfl⟩

theorem Remembers.needSymbol (h : Remembers s task t₀ met p) (symbol : Symbol) :
    ∃ p', needSymbol (MemoryIndex.ofSnapshot s).queries task p symbol = .ok p' ∧
      Remembers s task t₀ (met ++ s.symbolPaths task.level symbol.usr) p' ∧
      ∀ usr, usr ∈ p'.full ↔ usr ∈ p.full ∨ usr = symbol.usr := by
  unfold Scan.needSymbol
  simp only [MemoryIndex.queries_occurrences]
  by_cases hskip : p.full.contains symbol.usr = true
  · rw [if_pos hskip]
    rw [List.contains_iff_mem] at hskip
    refine ⟨p, rfl, h.skip (h.full_met _ hskip), fun usr => ⟨.inl, ?_⟩⟩
    rintro (hu | rfl)
    · exact hu
    · exact hskip
  · rw [if_neg hskip]
    obtain ⟨p', hp', hmet, hfull⟩ := h.foldlM (fun met p o hp => hp.needOccurrence o)
      (s.occurrencesOf symbol.usr neededRoles)
    refine ⟨{ p' with full := symbol.usr :: p'.full }, ?_, ⟨⟨hmet.paths_eq, hmet.tree_eq⟩,
      fun usr hu => ?_, hmet.members_met⟩, fun usr => ?_⟩
    · rw [ok_bind, hp']
      rfl
    · rcases List.mem_cons.1 hu with rfl | hu
      · exact List.subset_append_right _ _
      · exact hmet.full_met usr hu
    · rw [List.mem_cons, hfull, or_comm]

theorem foldlM_needSymbol (s : Snapshot) (task : Task) (t₀ : Tree) :
    ∃ p, (s.symbolsIn task.file).foldlM (needSymbol (MemoryIndex.ofSnapshot s).queries task)
        (.start t₀) = .ok p ∧
      Follows task t₀ (s.neededPaths task.level task.file) p ∧
      ∀ usr, usr ∈ p.full ↔ usr ∈ (s.symbolsIn task.file).map (·.usr) := by
  obtain ⟨p, hp, hmet, hfull⟩ := foldlM_ok
    (fun done p => Remembers s task t₀
        (done.flatMap (fun symbol => s.symbolPaths task.level symbol.usr)) p ∧
      ∀ usr, usr ∈ p.full ↔ usr ∈ done.map (·.usr))
    (fun done symbol p hinv => by
      obtain ⟨p', hp', hmet, hfull⟩ := hinv.1.needSymbol symbol
      refine ⟨p', hp', ?_, fun usr => ?_⟩
      · rwa [List.flatMap_append, List.flatMap_singleton]
      · rw [hfull, hinv.2, List.map_append, List.mem_append, List.map_singleton,
          List.mem_singleton])
    (s.symbolsIn task.file) ⟨remembers_start s task t₀, fun usr => Iff.rfl⟩
  exact ⟨p, hp, hmet.toFollows, hfull⟩

end Symbols

/-! ## Names from the text -/

theorem foldlM_needName (s : Snapshot) (task : Task) (names : List String) (p : Progress) :
    names.foldlM (needName (MemoryIndex.ofSnapshot s).queries task) p =
      .ok ((names.flatMap s.canonicalOf).foldl (needCanonical task) p) := by
  induction names generalizing p with
  | nil => rfl
  | cons name names ih =>
    rw [List.foldlM_cons, List.flatMap_cons, List.foldl_append, ← ih]
    unfold needName
    rw [MemoryIndex.queries_canonical]
    rfl

theorem full_needCanonical (task : Task) (p : Progress) (o : Occurrence) (usr : String) :
    usr ∈ (needCanonical task p o).full ↔ usr ∈ p.full ∨ usr = o.symbol.usr := by
  unfold needCanonical
  split
  · next h =>
    rw [List.contains_iff_mem] at h
    refine ⟨.inl, ?_⟩
    rintro (hu | rfl)
    · exact hu
    · exact h
  · show usr ∈ o.symbol.usr :: (needPath task p o.location.path).full ↔ _
    rw [full_needPath, List.mem_cons, or_comm]

/-- Of occurrences whose symbols are not known yet, the first for each symbol is met. -/
theorem Follows.foldl_needCanonical {task : Task} {t₀ : Tree} {met known : List String}
    {p : Progress} (h : Follows task t₀ met p) (hfull : ∀ usr, usr ∈ p.full ↔ usr ∈ known)
    (os : List Occurrence) :
    Follows task t₀ (met ++ (firstBy (·.symbol.usr) (os.filter (fun o => o.symbol.usr ∉ known))).map
        (·.location.path)) (os.foldl (needCanonical task) p) ∧
      ∀ usr, usr ∈ (os.foldl (needCanonical task) p).full ↔
        usr ∈ known ∨ usr ∈ os.map (·.symbol.usr) := by
  induction os using List.reverseRecOn with
  | nil => exact ⟨by simpa [firstBy] using h, by simpa using hfull⟩
  | append_singleton os o ih =>
    obtain ⟨hmet, hfull'⟩ := ih
    rw [List.foldl_append, List.foldl_cons, List.foldl_nil]
    set q := os.foldl (needCanonical task) p with hq
    refine ⟨?_, fun usr => ?_⟩
    · have hskip : q.full.contains o.symbol.usr = true ↔
          o.symbol.usr ∈ known ∨ o.symbol.usr ∈ os.map (·.symbol.usr) := by
        rw [List.contains_iff_mem, hfull']
      rw [firstBy_filter_concat]
      unfold needCanonical
      by_cases h : q.full.contains o.symbol.usr = true
      · rw [if_pos (hskip.1 h), if_pos h]
        exact hmet
      · rw [if_neg (mt hskip.2 h), if_neg h, List.map_append, ← List.append_assoc]
        have hpath := hmet.needPath o.location.path
        exact ⟨hpath.paths_eq, hpath.tree_eq⟩
    · rw [full_needCanonical, hfull', List.map_append, List.mem_append, List.map_singleton,
        List.mem_singleton, or_assoc]

/-! ## The marked tree -/

def visitedPaths (s : Snapshot) (task : Task) (names : List String) : List String :=
  visits task.file (s.neededPaths task.level task.file ++ s.namePaths task.file names)

theorem mem_visitedPaths {s : Snapshot} {task : Task} {names : List String} {path : String} :
    path ∈ visitedPaths s task names ↔ path ≠ task.file ∧
      (s.Needed task.level task.file path ∨ path ∈ s.namePaths task.file names) := by
  unfold visitedPaths
  rw [mem_visits, List.mem_append, Snapshot.mem_neededPaths]

theorem markNeeded_eq (s : Snapshot) (task : Task) (patterns : List TextPattern)
    (text : Option String) (t₀ : Tree) :
    markNeeded (MemoryIndex.ofSnapshot s).queries task patterns text t₀ =
      .ok ((visitedPaths s task (namesIn patterns text)).foldl (visit task.level)
        t₀).resolveBatches := by
  obtain ⟨p, hp, hmet, hfull⟩ := foldlM_needSymbol s task t₀
  obtain ⟨hnames, -⟩ :=
    hmet.foldl_needCanonical hfull ((namesIn patterns text).flatMap s.canonicalOf)
  unfold markNeeded
  rw [MemoryIndex.queries_symbolsIn, ok_bind, hp, ok_bind, foldlM_needName, ok_bind,
    hnames.tree_eq]
  rfl

end Scan
end IncludeScan
