import IncludeScan.Index.Open
import IncludeScan.Proofs.Index.Memory
import IncludeScan.Proofs.Json.Reading
import IncludeScan.Snapshot.Encode

/-!
Snapshots are read back from the JSON text that they are written as.

For each part of a snapshot, its tokens spell a value from which the part is read again (`Writes`).
Records and lists are put together from their fields and members, so that each part needs only what
was shown for the parts inside it. The index loaded from a file with that text holds the snapshot
(`load_encode`).
-/

set_option autoImplicit false

namespace IncludeScan.Snapshot

open Json

/-- The tokens spell a value that `decode` reads as `a`. -/
def Writes {α : Type} (decode : Value → Option α) (ts : List Token) (a : α) : Prop :=
  ∃ v, Spells ts v ∧ decode v = some a

/-! ## Plain values -/

theorem writes_text (s : String) : Writes Value.text? (strToken s) s :=
  ⟨_, spells_strToken s, rfl⟩

theorem uint32?_toNat (n : UInt32) : Value.uint32? (.num (.int n.toNat)) = some n := by
  have hlt := n.toNat_lt
  have hrange : 0 ≤ (n.toNat : Int) ∧ (n.toNat : Int) < 0x100000000 := by omega
  simp only [Value.uint32?, if_pos hrange, Int.toNat_natCast]
  simp

theorem writes_uint32 (n : UInt32) : Writes Value.uint32? (intToken n.toNat) n :=
  ⟨_, spells_intToken n.toNat, uint32?_toNat n⟩

theorem writes_roles (r : Roles) : Writes rolesOf? r.tokens r := by
  refine ⟨_, spells_intToken r.bits.toNat, ?_⟩
  rw [rolesOf?, uint32?_toNat]
  rfl

theorem int64?_toInt (t : Int64) : Value.int64? (.num (.int t.toInt)) = some t := by
  have hle := t.le_toInt
  have hlt := t.toInt_lt
  have hrange : -0x8000000000000000 ≤ t.toInt ∧ t.toInt < 0x8000000000000000 := by omega
  simp only [Value.int64?, if_pos hrange, Int64.ofInt_toInt]

theorem writes_kind (k : Kind) : Writes kindOf? (strToken k.name) k :=
  ⟨_, spells_strToken k.name, Kind.ofName?_name k⟩

theorem writes_modifiedAt (t : Option Int64) :
    Writes (optionOf? Value.int64?)
      (match t with
        | some t => intToken t.toInt
        | none => [.null]) t := by
  cases t with
  | none => exact ⟨_, spells_null, rfl⟩
  | some t =>
    refine ⟨_, spells_intToken t.toInt, ?_⟩
    show (Value.int64? (.num (.int t.toInt))).map some = some (some t)
    rw [int64?_toInt]
    rfl

/-! ## Lists and records -/

theorem writes_list {α : Type} {decode : Value → Option α} {tokens : α → List Token}
    (h : ∀ a, Writes decode (tokens a) a) (as : List α) :
    Writes (listOf? decode) (arrayTokens (as.map tokens)) as := by
  choose value hspells hdecode using h
  have hitems : ∀ i ∈ as.map (fun a => (tokens a, value a)), Spells i.1 i.2 := by
    intro i hi
    obtain ⟨a, -, rfl⟩ := List.mem_map.1 hi
    exact hspells a
  have harray := spells_arrayTokens hitems
  rw [List.map_map, List.map_map] at harray
  refine ⟨_, harray, ?_⟩
  have hread : as.mapM (decode ∘ value) = some (as.map id) := mapM_eq_pure fun a _ => hdecode a
  show (as.map value).mapM decode = some as
  rw [List.mapM_map, hread, List.map_id]

theorem filter_name_eq {fields : List SpeltField} (hnames : (fields.map (·.name)).Nodup)
    {f : SpeltField} (hf : f ∈ fields) : fields.filter (fun g => g.name == f.name) = [f] := by
  induction fields with
  | nil => cases hf
  | cons g fields ih =>
    rw [List.map_cons, List.nodup_cons] at hnames
    obtain ⟨hnew, hnames⟩ := hnames
    rcases List.mem_cons.1 hf with rfl | hf
    · have hnone : fields.filter (fun g => g.name == f.name) = [] := by
        rw [List.filter_eq_nil_iff]
        intro g hg hname
        exact hnew (List.mem_map.2 ⟨g, hg, beq_iff_eq.1 hname⟩)
      rw [List.filter_cons, if_pos (beq_self_eq_true f.name), hnone]
    · have hne : ¬ (g.name == f.name) = true := by
        intro hname
        exact hnew (List.mem_map.2 ⟨f, hf, (beq_iff_eq.1 hname).symm⟩)
      rw [List.filter_cons, if_neg hne, ih hnames hf]

theorem fieldOf?_of_mem {fields : List SpeltField} (hnames : (fields.map (·.name)).Nodup)
    {f : SpeltField} (hf : f ∈ fields) :
    fieldOf? (fields.map fun f => (some f.name, f.value)) f.name = some (some f.value) := by
  have hkey : ((fun g : Option String × Value => g.1 == some f.name) ∘
      fun g : SpeltField => (some g.name, g.value)) = fun g => g.name == f.name := by
    funext g
    simp
  rw [fieldOf?, List.filter_map, hkey, filter_name_eq hnames hf]
  rfl

theorem recordOf?_obj {fields : List SpeltField} (hnames : (fields.map (·.name)).Nodup) :
    recordOf? (fields.map (·.name)) (.obj (fields.map fun f => (some f.name, f.value))) =
      some (fields.map fun f => some f.value) := by
  have hkeys : (fields.map fun f => (some f.name, f.value)).all (fun f => f.1.isSome) = true := by
    simp
  rw [recordOf?, if_pos hkeys, List.mapM_map]
  exact mapM_eq_pure fun f hf => fieldOf?_of_mem hnames hf

/-- A record is read back if it can be put together from the values of its fields. -/
theorem writes_record {α : Type} {read : List (Option Value) → Option α} {a : α}
    (fields : List SpeltField) (hnames : (fields.map (·.name)).Nodup)
    (hread : read (fields.map fun f => some f.value) = some a) :
    Writes (fun v => recordOf? (fields.map (·.name)) v >>= read)
      (objectTokens (fields.map fun f => (f.name, f.tokens))) a := by
  refine ⟨_, spells_objectTokens fields, ?_⟩
  show recordOf? _ _ >>= read = some a
  rw [recordOf?_obj hnames]
  exact hread

/-! ## The parts of a snapshot -/

theorem writes_symbol (s : Symbol) : Writes symbolOf? s.tokens s := by
  obtain ⟨usr, husr, hu⟩ := writes_text s.usr
  obtain ⟨name, hname, hn⟩ := writes_text s.name
  obtain ⟨kind, hkind, hk⟩ := writes_kind s.kind
  refine writes_record [⟨"usr", _, usr, husr⟩, ⟨"name", _, name, hname⟩, ⟨"kind", _, kind, hkind⟩]
    (by simp) ?_
  simp [required, hu, hn, hk]

theorem writes_location (l : Location) : Writes locationOf? l.tokens l := by
  obtain ⟨path, hpath, hp⟩ := writes_text l.path
  obtain ⟨line, hline, hl⟩ := writes_uint32 l.line
  obtain ⟨column, hcolumn, hc⟩ := writes_uint32 l.column
  refine writes_record [⟨"path", _, path, hpath⟩, ⟨"line", _, line, hline⟩,
    ⟨"column", _, column, hcolumn⟩] (by simp) ?_
  simp [required, hp, hl, hc]

theorem writes_relation (r : Relation) : Writes relationOf? r.tokens r := by
  obtain ⟨roles, hroles, hr⟩ := writes_roles r.roles
  obtain ⟨symbol, hsymbol, hs⟩ := writes_symbol r.symbol
  refine writes_record [⟨"roles", _, roles, hroles⟩, ⟨"symbol", _, symbol, hsymbol⟩] (by simp) ?_
  simp [required, hr, hs]

theorem writes_occurrence (o : Occurrence) : Writes occurrenceOf? o.tokens o := by
  obtain ⟨symbol, hsymbol, hs⟩ := writes_symbol o.symbol
  obtain ⟨location, hlocation, hl⟩ := writes_location o.location
  obtain ⟨roles, hroles, hr⟩ := writes_roles o.roles
  obtain ⟨relations, hrelations, hrs⟩ := writes_list writes_relation o.relations
  refine writes_record [⟨"symbol", _, symbol, hsymbol⟩, ⟨"location", _, location, hlocation⟩,
    ⟨"roles", _, roles, hroles⟩, ⟨"relations", _, relations, hrelations⟩] (by simp) ?_
  simp [required, orDefault, hs, hl, hr, hrs]

theorem writes_include (e : Entry) : Writes includeOf? e.tokens e := by
  obtain ⟨source, hsource, hs⟩ := writes_text e.source
  obtain ⟨target, htarget, ht⟩ := writes_text e.target
  obtain ⟨line, hline, hl⟩ := writes_uint32 e.line
  refine writes_record [⟨"source_path", _, source, hsource⟩, ⟨"target_path", _, target, htarget⟩,
    ⟨"line", _, line, hline⟩] (by simp) ?_
  simp [required, hs, ht, hl]

theorem writes_unit (u : CompilationUnit) : Writes unitOf? u.tokens u := by
  obtain ⟨name, hname, hn⟩ := writes_text u.name
  obtain ⟨mainFile, hmain, hm⟩ := writes_text u.mainFile
  obtain ⟨time, htime, ht⟩ := writes_modifiedAt u.modifiedAt
  obtain ⟨includes, hincludes, hi⟩ := writes_list writes_include u.includes
  refine writes_record [⟨"name", _, name, hname⟩, ⟨"main_file", _, mainFile, hmain⟩,
    ⟨"modified_at", _, time, htime⟩, ⟨"includes", _, includes, hincludes⟩] (by simp) ?_
  simp [required, orDefault, hn, hm, ht, hi]

theorem writes_snapshot (s : Snapshot) : Writes ofValue? s.tokens s := by
  obtain ⟨units, hunits, hu⟩ := writes_list writes_unit s.units
  obtain ⟨occurrences, hoccurrences, ho⟩ := writes_list writes_occurrence s.occurrences
  refine writes_record [⟨"units", _, units, hunits⟩, ⟨"occurrences", _, occurrences, hoccurrences⟩]
    (by simp) ?_
  simp [orDefault, hu, ho]

/-! ## The text of a snapshot -/

theorem decode?_encode (s : Snapshot) : decode? s.encode = some s := by
  obtain ⟨v, hspells, hread⟩ := writes_snapshot s
  unfold decode? encode
  rw [String.toList_ofList, hspells.parse?_compact]
  exact hread

theorem snapshot_ofSnapshot (s : Snapshot) : (MemoryIndex.ofSnapshot s).snapshot = s :=
  (MemoryIndex.assembled_ofSnapshot s).snapshot_eq

/-- A snapshot is read back from its text, and an index loaded from a file with that text holds
it. -/
theorem load_encode (s : Snapshot) :
    decode? s.encode = some s ∧
      ∀ fs path, FileSystem.readText fs path = .ok s.encode →
        ∃ m, MemoryIndex.load fs path = .ok m ∧ m.snapshot = s := by
  refine ⟨decode?_encode s, fun fs path hread => ⟨.ofSnapshot s, ?_, snapshot_ofSnapshot s⟩⟩
  have htext : (FileSystem.readText fs path).mapError IndexError.io = .ok s.encode := by
    rw [hread]
    rfl
  simp only [MemoryIndex.load, htext, bind, Except.bind, decode?_encode]
  rfl

/-- Names with a quote, a backslash, a zero character and characters beyond 16 bits, the least and
the greatest numbers. -/
def awkward : Snapshot where
  units := [⟨"a\"b\\c", "/d\n\t\x01", some (-9223372036854775808), [⟨"", "\x00", 4294967295⟩]⟩,
    ⟨"é😀", "", none, []⟩]
  occurrences := [⟨⟨"\x7f", "\u2028", .enumConstant⟩, ⟨"/", 0, 4294967295⟩, ⟨4294967295⟩,
    [⟨⟨0⟩, ⟨"\x0c", "\x08", .unknown⟩⟩]⟩]

def holding (text : String) : FileSystem :=
  ⟨.cons "index.json" (.file (.text text)) .nil, []⟩

theorem readText_holding (text : String) : (holding text).readText "/index.json" = .ok text := rfl

theorem load_awkward :
    (holding awkward.encode).readText "/index.json" = .ok awkward.encode ∧
      ∃ m, MemoryIndex.load (holding awkward.encode) "/index.json" = .ok m ∧
        m.snapshot = awkward := by
  have hread := readText_holding awkward.encode
  exact ⟨hread, (load_encode awkward).2 _ _ hread⟩

end IncludeScan.Snapshot
