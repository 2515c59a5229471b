import IncludeScan.Proofs.Index.Memory
import IncludeScan.Scan

/-!
The paths that a file needs.

`Needed s level file path` says which paths the symbols of a file need, with no word on how a scan
finds them. `neededPaths` lists them in the order in which a scan that remembers nothing meets
them, and `namePaths` the paths met for the names in the file's text. A level that checks more
needs more (`Needed.mono`), and so does a file in an index with more occurrences
(`Needed.of_subset`).
-/

set_option autoImplicit false

namespace IncludeScan.Snapshot

/-! ## What is needed -/

/-- Whether an occurrence counts: it does not extend its symbol, or extensions are checked and one
of its relations has a base. -/
def counts (s : Snapshot) (level : Level) (o : Occurrence) : Bool :=
  !o.roles.contains .extendedBy ||
    (level.checksExtends &&
      o.relations.any (fun r => !(s.relatedTo r.symbol.usr .baseOf).isEmpty))

/-- A counting occurrence, in one of the needed roles, of a symbol that occurs in the file. -/
structure NeedsOccurrence (s : Snapshot) (level : Level) (file : String) (o : Occurrence) :
    Prop where
  mem : o ∈ s.occurrences
  occurs : ∃ o' ∈ s.occurrences, o'.location.path = file ∧ o'.symbol.usr = o.symbol.usr
  role : o.roles.intersects Scan.neededRoles = true
  counts : s.counts level o = true

/-- The paths needed by the symbols of a file: those of the occurrences above and, where members
are checked, of the counting declarations and extensions of each member, other than a method, of
such a declaration. -/
inductive Needed (s : Snapshot) (level : Level) (file : String) : String → Prop
  | occurrence {o : Occurrence} (ho : s.NeedsOccurrence level file o) :
      Needed s level file o.location.path
  | member {o m d : Occurrence} (ho : s.NeedsOccurrence level file o)
      (hlevel : level.checksContains = true) (hdecl : o.roles.contains .declaration = true)
      (hm : m ∈ s.occurrences) (hrel : m.isRelatedTo o.symbol.usr .containedBy = true)
      (hkind : m.symbol.kind.isMethod = false) (hd : d ∈ s.occurrences)
      (husr : d.symbol.usr = m.symbol.usr)
      (hrole : d.roles.intersects (Roles.declaration.union .extendedBy) = true)
      (hcounts : s.counts level d = true) : Needed s level file d.location.path

/-! ## Levels -/

theorem counts_mono {s : Snapshot} {l l' : Level}
    (h : l'.checksExtends = true → l.checksExtends = true) {o : Occurrence}
    (ho : s.counts l' o = true) : s.counts l o = true := by
  unfold counts at ho ⊢
  rw [Bool.or_eq_true, Bool.and_eq_true] at ho ⊢
  exact ho.imp_right (fun hx => ⟨h hx.1, hx.2⟩)

theorem Needed.mono {s : Snapshot} {l l' : Level}
    (hext : l'.checksExtends = true → l.checksExtends = true)
    (hcon : l'.checksContains = true → l.checksContains = true) {file path : String}
    (h : s.Needed l' file path) : s.Needed l file path := by
  have hocc : ∀ {o}, s.NeedsOccurrence l' file o → s.NeedsOccurrence l file o :=
    fun ho => ⟨ho.mem, ho.occurs, ho.role, counts_mono hext ho.counts⟩
  cases h with
  | occurrence ho => exact .occurrence (hocc ho)
  | member ho hlevel hdecl hm hrel hkind hd husr hrole hcounts =>
    exact .member (hocc ho) (hcon hlevel) hdecl hm hrel hkind hd husr hrole
      (counts_mono hext hcounts)

/-! ## More occurrences -/

theorem counts_of_subset {s s' : Snapshot} (h : s.occurrences ⊆ s'.occurrences) {level : Level}
    {o : Occurrence} (ho : s.counts level o = true) : s'.counts level o = true := by
  have hbase : ∀ usr, (!(s.relatedTo usr .baseOf).isEmpty) = true →
      (!(s'.relatedTo usr .baseOf).isEmpty) = true := by
    intro usr hne
    simp only [relatedTo, Bool.not_eq_true', List.isEmpty_eq_false_iff_exists_mem,
      List.mem_filter] at hne ⊢
    obtain ⟨o', hmem, hrel⟩ := hne
    exact ⟨o', h hmem, hrel⟩
  unfold counts at ho ⊢
  simp only [Bool.or_eq_true, Bool.and_eq_true, List.any_eq_true] at ho ⊢
  rcases ho with hplain | ⟨hlevel, r, hr, hrel⟩
  · exact .inl hplain
  · exact .inr ⟨hlevel, r, hr, hbase _ hrel⟩

theorem Needed.of_subset {s s' : Snapshot} (h : s.occurrences ⊆ s'.occurrences) {level : Level}
    {file path : String} (hneeded : s.Needed level file path) : s'.Needed level file path := by
  have hocc : ∀ {o}, s.NeedsOccurrence level file o → s'.NeedsOccurrence level file o := by
    intro o ho
    obtain ⟨o', hmem, hoccurs⟩ := ho.occurs
    exact ⟨h ho.mem, ⟨o', h hmem, hoccurs⟩, ho.role, counts_of_subset h ho.counts⟩
  cases hneeded with
  | occurrence ho => exact .occurrence (hocc ho)
  | member ho hlevel hdecl hm hrel hkind hd husr hrole hcounts =>
    exact .member (hocc ho) hlevel hdecl (h hm) hrel hkind (h hd) husr hrole
      (counts_of_subset h hcounts)

/-! ## The needed paths in order -/

def declarationPaths (s : Snapshot) (level : Level) (usr : String) : List String :=
  ((s.occurrencesOf usr (Roles.declaration.union .extendedBy)).filter (s.counts level)).map
    (·.location.path)

def membersOf (s : Snapshot) (usr : String) : List Occurrence :=
  (s.relatedTo usr .containedBy).filter (fun m => !m.symbol.kind.isMethod)

/-- The paths needed with an occurrence as members of its declaration. -/
def memberPaths (s : Snapshot) (level : Level) (o : Occurrence) : List String :=
  if level.checksContains && o.roles.contains .declaration then
    (s.membersOf o.symbol.usr).flatMap (fun m => s.declarationPaths level m.symbol.usr)
  else []

def occurrencePaths (s : Snapshot) (level : Level) (o : Occurrence) : List String :=
  if s.counts level o then s.memberPaths level o ++ [o.location.path] else []

def symbolPaths (s : Snapshot) (level : Level) (usr : String) : List String :=
  (s.occurrencesOf usr Scan.neededRoles).flatMap (s.occurrencePaths level)

def neededPaths (s : Snapshot) (level : Level) (file : String) : List String :=
  (s.symbolsIn file).flatMap (fun symbol => s.symbolPaths level symbol.usr)

/-- The paths met for names from the text: of the canonical occurrences of the names, the first for
each symbol that does not occur in the file. -/
def namePaths (s : Snapshot) (file : String) (names : List String) : List String :=
  (firstBy (·.symbol.usr) ((names.flatMap s.canonicalOf).filter
    (fun o => o.symbol.usr ∉ (s.symbolsIn file).map (·.usr)))).map (·.location.path)

/-! ## The list holds what is needed -/

theorem mem_occurrencesOf {s : Snapshot} {usr : String} {roles : Roles} {o : Occurrence} :
    o ∈ s.occurrencesOf usr roles ↔
      o ∈ s.occurrences ∧ o.symbol.usr = usr ∧ o.roles.intersects roles = true := by
  simp [occurrencesOf, List.mem_filter]

theorem mem_declarationPaths {s : Snapshot} {level : Level} {usr path : String} :
    path ∈ s.declarationPaths level usr ↔ ∃ d ∈ s.occurrences, d.symbol.usr = usr ∧
      d.roles.intersects (Roles.declaration.union .extendedBy) = true ∧
      s.counts level d = true ∧ d.location.path = path := by
  simp only [declarationPaths, List.mem_map, List.mem_filter, mem_occurrencesOf]
  constructor
  · rintro ⟨d, ⟨⟨hd, husr, hrole⟩, hcounts⟩, hpath⟩
    exact ⟨d, hd, husr, hrole, hcounts, hpath⟩
  · rintro ⟨d, hd, husr, hrole, hcounts, hpath⟩
    exact ⟨d, ⟨⟨hd, husr, hrole⟩, hcounts⟩, hpath⟩

theorem mem_memberPaths {s : Snapshot} {level : Level} {o : Occurrence} {path : String} :
    path ∈ s.memberPaths level o ↔ level.checksContains = true ∧
      o.roles.contains .declaration = true ∧ ∃ m ∈ s.occurrences,
        m.isRelatedTo o.symbol.usr .containedBy = true ∧ m.symbol.kind.isMethod = false ∧
        path ∈ s.declarationPaths level m.symbol.usr := by
  unfold memberPaths
  split
  · next h =>
    rw [Bool.and_eq_true] at h
    simp only [membersOf, relatedTo, List.mem_flatMap, List.mem_filter, Bool.not_eq_true',
      and_assoc, h, true_and]
  · next h =>
    rw [Bool.and_eq_true] at h
    constructor
    · intro hmem
      cases hmem
    · rintro ⟨hlevel, hdecl, -⟩
      exact absurd ⟨hlevel, hdecl⟩ h

theorem mem_usrs_symbolsIn {s : Snapshot} {file usr : String} :
    usr ∈ (s.symbolsIn file).map (·.usr) ↔
      ∃ o ∈ s.occurrences, o.location.path = file ∧ o.symbol.usr = usr := by
  rw [List.mem_map]
  constructor
  · rintro ⟨symbol, hmem, rfl⟩
    obtain ⟨o, ho, rfl⟩ := List.mem_map.1 (mem_of_mem_firstBy hmem)
    obtain ⟨ho, hpath⟩ := List.mem_filter.1 ho
    exact ⟨o, ho, beq_iff_eq.1 hpath, rfl⟩
  · rintro ⟨o, ho, hpath, rfl⟩
    have hin : o.symbol ∈
        (s.occurrences.filter (fun o => o.location.path == file)).map (·.symbol) :=
      List.mem_map.2 ⟨o, List.mem_filter.2 ⟨ho, beq_iff_eq.2 hpath⟩, rfl⟩
    exact exists_mem_firstBy hin

theorem intersects_of_contains {r a b : Roles} (hab : b.contains a = true)
    (h : r.intersects a = true) : r.intersects b = true := by
  simp only [Roles.intersects, Roles.contains, bne_iff_ne, beq_iff_eq, ne_eq] at hab h ⊢
  intro h0
  apply h
  rw [← hab, ← UInt32.and_assoc, h0, UInt32.zero_and]

theorem declarationPaths_subset_symbolPaths (s : Snapshot) (level : Level) (usr : String) :
    s.declarationPaths level usr ⊆ s.symbolPaths level usr := by
  intro path hpath
  obtain ⟨d, hd, husr, hrole, hcounts, rfl⟩ := mem_declarationPaths.1 hpath
  have hneeded : d.roles.intersects Scan.neededRoles = true :=
    intersects_of_contains (by decide) hrole
  have hmem := mem_occurrencesOf.2 ⟨hd, husr, hneeded⟩
  refine List.mem_flatMap.2 ⟨d, hmem, ?_⟩
  unfold occurrencePaths
  rw [if_pos hcounts]
  exact List.mem_append_right _ (List.mem_singleton.2 rfl)

theorem mem_neededPaths {s : Snapshot} {level : Level} {file path : String} :
    path ∈ s.neededPaths level file ↔ s.Needed level file path := by
  simp only [neededPaths, symbolPaths, List.mem_flatMap]
  constructor
  · rintro ⟨symbol, hsymbol, o, ho, hpath⟩
    obtain ⟨hmem, husr, hrole⟩ := mem_occurrencesOf.1 ho
    unfold occurrencePaths at hpath
    split at hpath
    · next hcounts =>
      have hneeds : s.NeedsOccurrence level file o := by
        refine ⟨hmem, ?_, hrole, hcounts⟩
        rw [husr]
        exact mem_usrs_symbolsIn.1 (List.mem_map.2 ⟨symbol, hsymbol, rfl⟩)
      rcases List.mem_append.1 hpath with hpath | hpath
      · obtain ⟨hlevel, hdecl, m, hm, hrel, hkind, hmember⟩ := mem_memberPaths.1 hpath
        obtain ⟨d, hd, husr', hrole', hcounts', rfl⟩ := mem_declarationPaths.1 hmember
        exact .member hneeds hlevel hdecl hm hrel hkind hd husr' hrole' hcounts'
      · rw [List.mem_singleton.1 hpath]
        exact .occurrence hneeds
    · cases hpath
  · have hlist : ∀ {o}, s.NeedsOccurrence level file o →
        ∀ path ∈ s.memberPaths level o ++ [o.location.path], ∃ symbol ∈ s.symbolsIn file,
          ∃ o' ∈ s.occurrencesOf symbol.usr Scan.neededRoles,
            path ∈ s.occurrencePaths level o' := by
      intro o ho path hpath
      obtain ⟨symbol, hsymbol, husr⟩ := List.mem_map.1 (mem_usrs_symbolsIn.2 ho.occurs)
      refine ⟨symbol, hsymbol, o, mem_occurrencesOf.2 ⟨ho.mem, husr.symm, ho.role⟩, ?_⟩
      unfold occurrencePaths
      rw [if_pos ho.counts]
      exact hpath
    intro h
    cases h with
    | occurrence ho =>
      exact hlist ho _ (List.mem_append_right _ (List.mem_singleton.2 rfl))
    | member ho hlevel hdecl hm hrel hkind hd husr hrole hcounts =>
      refine hlist ho _ (List.mem_append_left _ (mem_memberPaths.2 ?_))
      exact ⟨hlevel, hdecl, _, hm, hrel, hkind,
        mem_declarationPaths.2 ⟨_, hd, husr, hrole, hcounts, rfl⟩⟩

end IncludeScan.Snapshot
