import IncludeScan.Proofs.FileSystem.Joined
import Mathlib.Data.List.Nodup

/-!
What a search of a folder finds.

A search keeps a list of directories still to be read. What it has found and what those directories
still hold is one collection of paths, whatever is read next (`Search.filesOf_perm`). A recursion on
what is shown gives the names that lead to them (`ShownListing.ways`). Where the names in each
directory differ, that recursion comes to every visible file once (`ShownListing.nodup_ways`,
`ShownListing.mem_ways_iff`), and no two files have the same path (`nodup_visibleFiles`).

All this is so for whatever the operating system shows. A file system value shows directories that
can be read as long as their paths are short enough (`FileSystem.lookInto_spec`).
-/

set_option autoImplicit false

namespace IncludeScan

/-! ## Hidden names -/

namespace Bytes

theorem ofText_inj {s t : String} : ofText s = ofText t ↔ s = t := by
  constructor
  · intro h
    have htext := text?_ofText s
    rw [h, text?_ofText] at htext
    exact (Option.some.inj htext).symm
  · exact congrArg ofText

theorem exists_ofText_of_isSome {b : Bytes} (h : (text? b).isSome = true) : ∃ s, b = ofText s := by
  rw [text?, String.fromUTF8?] at h
  split at h
  · next hvalid => exact ⟨String.fromUTF8 _ hvalid, rfl⟩
  · cases h

theorem ofText_eq_flatMap (s : String) : ofText s = s.toList.flatMap String.utf8EncodeChar := by
  rw [ofText, ← String.utf8Encode_toList, List.utf8Encode]
  simp

/-- A byte of the ASCII range stands for its own character only. -/
theorem mem_utf8EncodeChar_iff {n : Nat} (hn : n < 128) {c : Char} :
    UInt8.ofNat n ∈ String.utf8EncodeChar c ↔ c.toNat = n := by
  have hbyte (m : Nat) : UInt8.ofNat n = UInt8.ofNat m ↔ n % 256 = m % 256 := by
    rw [← UInt8.toNat_inj, UInt8.toNat_ofNat', UInt8.toNat_ofNat']
  have hcode : c.val.toNat = c.toNat := rfl
  unfold String.utf8EncodeChar
  simp only [hcode]
  split
  · simp only [List.mem_singleton, hbyte]
    omega
  · split
    · simp only [List.mem_cons, List.not_mem_nil, or_false, hbyte]
      omega
    · split
      · simp only [List.mem_cons, List.not_mem_nil, or_false, hbyte]
        omega
      · simp only [List.mem_cons, List.not_mem_nil, or_false, hbyte]
        omega

theorem slash_mem_ofText_iff {s : String} : slash ∈ ofText s ↔ '/' ∈ s.toList := by
  have hslash (c : Char) : slash ∈ String.utf8EncodeChar c ↔ c = '/' := by
    rw [← Char.toNat_inj]
    exact mem_utf8EncodeChar_iff (n := 47) (by omega)
  simp only [ofText_eq_flatMap, List.mem_flatMap, hslash, exists_eq_right]

theorem head?_ofText {s : String} : (ofText s).head? = some dot ↔ s.toList.head? = some '.' := by
  rw [ofText_eq_flatMap]
  cases s.toList with
  | nil => simp
  | cons c cs =>
    rw [List.flatMap_cons, List.head?_append_of_ne_nil _ String.utf8EncodeChar_ne_nil,
      List.head?_cons, Option.some.injEq]
    constructor
    · intro hdot
      exact Char.toNat_inj.mp
        ((mem_utf8EncodeChar_iff (n := 46) (by omega)).mp (List.mem_of_head? hdot))
    · rintro rfl
      rfl

end Bytes

/-- A name that starts with a dot is hidden if it is a text. -/
theorem Path.isHidden_iff {name : Bytes} :
    isHidden name = true ↔ name.head? = some Bytes.dot ∧ (Bytes.text? name).isSome = true := by
  rw [isHidden]
  cases htext : Bytes.text? name with
  | none => simp
  | some s =>
    obtain ⟨t, rfl⟩ := Bytes.exists_ofText_of_isSome (by rw [htext, Option.isSome_some])
    rw [Bytes.text?_ofText, Option.some.injEq] at htext
    simp [htext, Bytes.head?_ofText]

/-! ## The run of a search -/

mutual

/-- The names that lead to the files found at or below an item. -/
def Shown.ways : Shown → List (List Bytes)
  | .file => [[]]
  | .directory readable entries => if readable then entries.ways else []
  | .other => []

def ShownListing.ways : ShownListing → List (List Bytes)
  | .nil => []
  | .cons name item rest =>
    (if Path.isHidden name then [] else item.ways.map (name :: ·)) ++ rest.ways

end

def Pending.files (d : Pending) : List Bytes :=
  (Shown.directory d.readable d.entries).ways.map (·.foldl Path.joinBytes d.path)

namespace Search

/-- The files that a search has found and those that it has still to find. -/
def outcome (s : Search) : List Bytes :=
  s.files ++ s.pending.flatMap Pending.files

theorem outcome_meet (folder name : Bytes) (item : Shown) (s : Search) :
    (s.meet folder name item).outcome.Perm
      ((if Path.isHidden name then [] else item.ways.map (name :: ·)).map
          (·.foldl Path.joinBytes folder) ++ s.outcome) := by
  unfold meet
  split
  · exact .refl _
  · cases item with
    | file => exact .refl _
    | other => exact .refl _
    | directory readable entries =>
      rw [List.map_map]
      exact List.perm_append_comm_assoc ..

theorem outcome_collect (folder : Bytes) (s : Search) : (entries : ShownListing) →
    (s.collect folder entries).outcome.Perm
      (entries.ways.map (·.foldl Path.joinBytes folder) ++ s.outcome)
  | .nil => .refl _
  | .cons name item rest => by
    have hrest := outcome_collect folder (s.meet folder name item) rest
    have hmeet := outcome_meet folder name item s
    rw [collect, ShownListing.ways, List.map_append, List.append_assoc]
    exact (hrest.trans (hmeet.append_left _)).trans (List.perm_append_comm_assoc ..)

theorem filesOf_perm (files : List Bytes) (pending : List Pending) :
    (filesOf files pending).Perm (⟨files, pending⟩ : Search).outcome := by
  fun_induction filesOf files pending with
  | case1 files => simp [outcome]
  | case2 files d pending hread s ih =>
    refine ih.trans ((outcome_collect d.path ⟨files, pending⟩ d.entries).trans ?_)
    simp only [outcome, List.flatMap_cons, Pending.files, Shown.ways, if_pos hread]
    exact List.perm_append_comm_assoc ..
  | case3 files d pending hread ih =>
    simpa [outcome, Pending.files, Shown.ways, hread] using ih

end Search

theorem visibleFiles_perm (entries : ShownListing) (folder : Bytes) :
    (entries.visibleFiles folder).Perm (entries.ways.map (·.foldl Path.joinBytes folder)) := by
  have hfound := Search.outcome_collect folder ⟨[], []⟩ entries
  refine (List.mergeSort_perm _ _).trans ((Search.filesOf_perm _ _).trans (hfound.trans ?_))
  simp [Search.outcome]

/-! ## The files of a well-formed listing -/

def ShownListing.find? (name : Bytes) : ShownListing → Option Shown
  | .nil => none
  | .cons n item rest => if n = name then some item else rest.find? name

def Path.IsNameBytes (name : Bytes) : Prop :=
  name ≠ [] ∧ Bytes.slash ∉ name

mutual

/-- Every directory lists its items under different names. -/
def Shown.WellFormed : Shown → Prop
  | .file | .other => True
  | .directory _ entries => entries.WellFormed

def ShownListing.WellFormed : ShownListing → Prop
  | .nil => True
  | .cons name item rest =>
    Path.IsNameBytes name ∧ rest.find? name = none ∧ item.WellFormed ∧ rest.WellFormed

end

theorem ShownListing.WellFormed.find? {name : Bytes} {item : Shown} : {entries : ShownListing} →
    entries.WellFormed → entries.find? name = some item → Path.IsNameBytes name ∧ item.WellFormed
  | .nil, _, h => nomatch h
  | .cons n below rest, hwf, h => by
    obtain ⟨hname, -, hitem, hrest⟩ := hwf
    rw [ShownListing.find?] at h
    split at h
    · next heq =>
      cases h
      exact ⟨heq ▸ hname, hitem⟩
    · exact hrest.find? h

/-- Names lead from a folder to a regular file, through directories that can be read. -/
inductive ShownListing.Leads : ShownListing → List Bytes → Prop
  | file {entries : ShownListing} {name : Bytes} (h : entries.find? name = some .file) :
      Leads entries [name]
  | inside {entries inner : ShownListing} {name : Bytes} {rel : List Bytes}
      (h : entries.find? name = some (.directory true inner)) (hrel : inner.Leads rel) :
      Leads entries (name :: rel)

namespace ShownListing

variable {entries : ShownListing} {rel : List Bytes}

theorem WellFormed.isNameBytes (hwf : entries.WellFormed) (h : entries.Leads rel) :
    ∀ name ∈ rel, Path.IsNameBytes name := by
  induction h with
  | file h => simpa using (hwf.find? h).1
  | inside h _ ih =>
    obtain ⟨hname, hinner⟩ := hwf.find? h
    exact List.forall_mem_cons.mpr ⟨hname, ih hinner⟩

theorem mem_ways_cons {name : Bytes} : {entries : ShownListing} → entries.WellFormed →
    (name :: rel ∈ entries.ways ↔ ∃ item, entries.find? name = some item ∧
      Path.isHidden name = false ∧ rel ∈ item.ways)
  | .nil, _ => by simp [ways, ShownListing.find?]
  | .cons n item rest, ⟨_, hfresh, _, hrest⟩ => by
    have hfirst : name :: rel ∈ (if Path.isHidden n then [] else item.ways.map (n :: ·)) ↔
        n = name ∧ Path.isHidden name = false ∧ rel ∈ item.ways := by
      split
      · next hhidden =>
        simp only [List.not_mem_nil, false_iff, not_and]
        rintro rfl hvisible
        simp [hhidden] at hvisible
      · next hvisible =>
        simp only [List.mem_map, List.cons.injEq]
        constructor
        · rintro ⟨_, hmem, rfl, rfl⟩
          exact ⟨rfl, by simpa using hvisible, hmem⟩
        · rintro ⟨rfl, -, hmem⟩
          exact ⟨rel, hmem, rfl, rfl⟩
    rw [ways, List.mem_append, hfirst, mem_ways_cons hrest, ShownListing.find?]
    by_cases hname : n = name
    · subst hname
      simp [hfresh]
    · simp [hname]

theorem nil_notMem_ways : (entries : ShownListing) → [] ∉ entries.ways
  | .nil => List.not_mem_nil
  | .cons name item rest => by
    rw [ways, List.mem_append, not_or]
    refine ⟨?_, nil_notMem_ways rest⟩
    split <;> simp

theorem mem_ways_iff (hwf : entries.WellFormed) :
    rel ∈ entries.ways ↔ entries.Leads rel ∧ ∀ name ∈ rel, Path.isHidden name = false := by
  constructor
  · intro h
    induction rel generalizing entries with
    | nil => exact absurd h (nil_notMem_ways entries)
    | cons name rel ih =>
      obtain ⟨item, hfind, hvisible, hmem⟩ := (mem_ways_cons hwf).mp h
      cases item with
      | file =>
        cases List.mem_singleton.mp hmem
        exact ⟨.file hfind, by simpa using hvisible⟩
      | other => cases hmem
      | directory readable inner =>
        rw [Shown.ways] at hmem
        split at hmem
        · next hread =>
          subst hread
          obtain ⟨hleads, hrel⟩ := ih (hwf.find? hfind).2 hmem
          exact ⟨.inside hfind hleads, List.forall_mem_cons.mpr ⟨hvisible, hrel⟩⟩
        · cases hmem
  · rintro ⟨hleads, hvisible⟩
    induction hleads with
    | file h =>
      exact (mem_ways_cons hwf).mpr ⟨_, h, hvisible _ List.mem_cons_self, List.mem_cons_self⟩
    | inside h _ ih =>
      rw [List.forall_mem_cons] at hvisible
      exact (mem_ways_cons hwf).mpr ⟨_, h, hvisible.1, ih (hwf.find? h).2 hvisible.2⟩

end ShownListing

mutual

theorem Shown.nodup_ways : (item : Shown) → item.WellFormed → item.ways.Nodup
  | .file, _ => by simp [Shown.ways]
  | .other, _ => List.nodup_nil
  | .directory readable entries, hwf => by
    rw [Shown.ways]
    split
    · exact entries.nodup_ways hwf
    · exact List.nodup_nil

theorem ShownListing.nodup_ways : (entries : ShownListing) → entries.WellFormed →
    entries.ways.Nodup
  | .nil, _ => List.nodup_nil
  | .cons name item rest, ⟨_, hfresh, hitem, hrest⟩ => by
    rw [ShownListing.ways]
    refine List.nodup_append.mpr ⟨?_, rest.nodup_ways hrest, ?_⟩
    · split
      · exact List.nodup_nil
      · exact (item.nodup_ways hitem).map List.cons_injective
    · rintro way hway _ hway' rfl
      split at hway
      · cases hway
      · -- the first name tells the two apart
        obtain ⟨rel, -, rfl⟩ := List.mem_map.mp hway
        obtain ⟨_, hfind, -⟩ := (ShownListing.mem_ways_cons hrest).mp hway'
        rw [hfresh] at hfind
        cases hfind

end

section Files

variable {entries : ShownListing} (hwf : entries.WellFormed) (folder : Bytes)

include hwf

theorem foldl_joinBytes_injOn {rel rel' : List Bytes} (h : entries.Leads rel)
    (h' : entries.Leads rel')
    (heq : rel.foldl Path.joinBytes folder = rel'.foldl Path.joinBytes folder) : rel = rel' := by
  have hnames := Text.names_foldl_joined folder (hwf.isNameBytes h)
  have hnames' := Text.names_foldl_joined folder (hwf.isNameBytes h')
  refine List.append_cancel_left (hnames.symm.trans (Eq.trans ?_ hnames'))
  exact congrArg (Text.names Bytes.slash) heq

theorem nodup_visibleFiles : (entries.visibleFiles folder).Nodup := by
  refine (visibleFiles_perm entries folder).nodup_iff.mpr
    (List.Nodup.map_on (fun rel hrel rel' hrel' => ?_) (entries.nodup_ways hwf))
  exact foldl_joinBytes_injOn hwf folder ((ShownListing.mem_ways_iff hwf).mp hrel).1
    ((ShownListing.mem_ways_iff hwf).mp hrel').1

theorem mem_visibleFiles_iff {path : Bytes} : path ∈ entries.visibleFiles folder ↔
    ∃ rel, path = rel.foldl Path.joinBytes folder ∧ entries.Leads rel ∧
      ∀ name ∈ rel, ¬(name.head? = some Bytes.dot ∧ (Bytes.text? name).isSome = true) := by
  rw [(visibleFiles_perm entries folder).mem_iff, List.mem_map]
  simp only [ShownListing.mem_ways_iff hwf, ← Path.isHidden_iff, Bool.not_eq_true]
  simp only [and_comm, eq_comm (b := path)]

end Files

/-! ## What a file system shows -/

section Listing

variable {fs : FileSystem}

theorem Listing.find?_shown {folder : String} {b : Bytes} {item : Shown} : {entries : Listing} →
    ((entries.shown fs folder).find? b = some item ↔ ∃ name below, b = Bytes.ofText name ∧
      entries.find? name = some below ∧ item = below.shown fs (Path.join folder name))
  | .nil => by simp [Listing.shown, ShownListing.find?, Listing.find?]
  | .cons n first rest => by
    rw [Listing.shown, ShownListing.find?]
    by_cases hb : Bytes.ofText n = b
    · subst hb
      rw [if_pos rfl]
      constructor
      · intro h
        exact ⟨n, first, rfl, if_pos rfl, (Option.some.inj h).symm⟩
      · rintro ⟨name, below, hname, hfind, rfl⟩
        obtain rfl := Bytes.ofText_inj.mp hname
        rw [Listing.find?, if_pos rfl] at hfind
        cases hfind
        rfl
    · rw [if_neg hb, find?_shown]
      constructor
      · rintro ⟨name, below, rfl, hfind, rfl⟩
        exact ⟨name, below, rfl, (if_neg fun h => hb (congrArg _ h)).trans hfind, rfl⟩
      · rintro ⟨name, below, rfl, hfind, rfl⟩
        rw [Listing.find?, if_neg fun h => hb (congrArg _ h)] at hfind
        exact ⟨name, below, rfl, hfind, rfl⟩

theorem Listing.find?_shown_ofText {folder name : String} {entries : Listing} {item : Shown} :
    (entries.shown fs folder).find? (Bytes.ofText name) = some item ↔
      ∃ below, entries.find? name = some below ∧ item = below.shown fs (Path.join folder name) := by
  rw [find?_shown]
  constructor
  · rintro ⟨name', below, hname, hfind, hitem⟩
    obtain rfl := Bytes.ofText_inj.mp hname
    exact ⟨below, hfind, hitem⟩
  · rintro ⟨below, hfind, hitem⟩
    exact ⟨name, below, rfl, hfind, hitem⟩

mutual

theorem Item.wellFormed_shown (path : String) : (item : Item) → item.WellFormed →
    (item.shown fs path).WellFormed
  | .file _, _ => trivial
  | .link _, _ => trivial
  | .directory entries, hwf => entries.wellFormed_shown path hwf

theorem Listing.wellFormed_shown (folder : String) : (entries : Listing) → entries.WellFormed →
    (entries.shown fs folder).WellFormed
  | .nil, _ => trivial
  | .cons name item rest, ⟨⟨⟨hne, hslash, _⟩, _⟩, hfresh, hitem, hrest⟩ => by
    refine ⟨⟨?_, mt Bytes.slash_mem_ofText_iff.mp hslash⟩, ?_,
      item.wellFormed_shown _ hitem, rest.wellFormed_shown folder hrest⟩
    · intro hnil
      exact hne (Bytes.ofText_inj.mp (hnil.trans rfl))
    · rw [Option.eq_none_iff_forall_ne_some]
      intro below hbelow
      obtain ⟨_, hfind, -⟩ := Listing.find?_shown_ofText.mp hbelow
      rw [hfresh] at hfind
      cases hfind

end

theorem ShownListing.leads_cons_iff {entries : ShownListing} {name : Bytes} {rel : List Bytes} :
    entries.Leads (name :: rel) ↔ rel = [] ∧ entries.find? name = some .file ∨
      ∃ inner, entries.find? name = some (.directory true inner) ∧ inner.Leads rel := by
  constructor
  · intro h
    cases h with
    | file h => exact Or.inl ⟨rfl, h⟩
    | inside h hrel => exact Or.inr ⟨_, h, hrel⟩
  · rintro (⟨rfl, h⟩ | ⟨inner, h, hrel⟩)
    · exact .file h
    · exact .inside h hrel

theorem Listing.exists_names_of_leads {rel : List Bytes} {entries : Listing} {folder : String}
    (h : (entries.shown fs folder).Leads rel) :
    ∃ names : List String, rel = names.map Bytes.ofText := by
  induction rel generalizing entries folder with
  | nil => exact ⟨[], rfl⟩
  | cons b rel ih =>
    rcases ShownListing.leads_cons_iff.mp h with ⟨rfl, hfind⟩ | ⟨inner, hfind, hrel⟩
    · obtain ⟨name, below, rfl, -⟩ := Listing.find?_shown.mp hfind
      exact ⟨[name], rfl⟩
    · obtain ⟨name, below, rfl, -, hbelow⟩ := Listing.find?_shown.mp hfind
      cases below with
      | file => cases hbelow
      | link => cases hbelow
      | directory es =>
        rw [Item.shown, Shown.directory.injEq] at hbelow
        obtain ⟨-, rfl⟩ := hbelow
        obtain ⟨names, rfl⟩ := ih hrel
        exact ⟨name :: names, rfl⟩

theorem Listing.leads_shown_iff {names : List String} {entries : Listing} {folder : String} :
    (entries.shown fs folder).Leads (names.map Bytes.ofText) ↔
      (∃ content, (Item.directory entries).below? names = some (.file content)) ∧
        ∀ k, 0 < k → k < names.length →
          fs.isDirectory ((names.take k).foldl Path.join folder) = true := by
  induction names generalizing entries folder with
  | nil =>
    constructor
    · intro h
      cases h
    · rintro ⟨⟨content, hfile⟩, -⟩
      cases hfile
  | cons name names ih =>
    rw [List.map_cons, ShownListing.leads_cons_iff]
    constructor
    · rintro (⟨hnil, hfind⟩ | ⟨inner, hfind, hrel⟩)
      · obtain ⟨below, hbelow, hfile⟩ := Listing.find?_shown_ofText.mp hfind
        cases below with
        | directory => cases hfile
        | link => cases hfile
        | file content =>
          obtain rfl := List.map_eq_nil_iff.mp hnil
          refine ⟨⟨content, by rw [Item.below?, hbelow]; rfl⟩, fun k hpos hk => ?_⟩
          simp only [List.length_cons, List.length_nil] at hk
          omega
      · obtain ⟨below, hbelow, hinner⟩ := Listing.find?_shown_ofText.mp hfind
        cases below with
        | file => cases hinner
        | link => cases hinner
        | directory es =>
          rw [Item.shown, Shown.directory.injEq] at hinner
          obtain ⟨hread, rfl⟩ := hinner
          obtain ⟨⟨content, hfile⟩, hbetween⟩ := ih.mp hrel
          refine ⟨⟨content, by rw [Item.below?, hbelow]; exact hfile⟩, fun k hpos hk => ?_⟩
          obtain ⟨k, rfl⟩ : ∃ k', k = k' + 1 := ⟨k - 1, by omega⟩
          rw [List.take_succ_cons, List.foldl_cons]
          cases k with
          | zero => exact hread.symm
          | succ k => exact hbetween (k + 1) (by omega) (by simpa using hk)
    · rintro ⟨⟨content, hfile⟩, hread⟩
      obtain ⟨below, hbelow, hrest⟩ := Option.bind_eq_some_iff.mp hfile
      cases names with
      | nil =>
        cases hrest
        exact Or.inl ⟨rfl, Listing.find?_shown_ofText.mpr ⟨_, hbelow, rfl⟩⟩
      | cons next more =>
        cases below with
        | file => cases hrest
        | link => cases hrest
        | directory es =>
          have hhere : fs.isDirectory (Path.join folder name) = true :=
            hread 1 (by omega) (by simp)
          refine Or.inr ⟨es.shown fs (Path.join folder name),
            Listing.find?_shown_ofText.mpr ⟨_, hbelow, by rw [Item.shown, hhere]⟩,
            ih.mpr ⟨⟨content, hrest⟩, fun k hpos hk => ?_⟩⟩
          exact hread (k + 1) (by omega) (by simpa using hk)

end Listing

/-- The directories below a folder are all read exactly if the one that holds the file can be. -/
theorem FileSystem.lookInto_spec {fs : FileSystem} (hfs : fs.WellFormed) {folder : String}
    {base : List String} (hfolder : fs.resolve folder = .ok base)
    (hdir : fs.isDirectory folder = true) :
    ∃ entries, fs.lookInto folder = .ok entries ∧ entries.WellFormed ∧
      ∀ rel, entries.Leads rel ↔ ∃ names, rel = names.map Bytes.ofText ∧
        (∃ content, fs.item? (base ++ names) = some (.file content)) ∧
        (names.dropLast.foldl Path.join folder).utf8ByteSize < pathLimit := by
  obtain ⟨place, entries, hplace, hentries⟩ := isDirectory_iff.mp hdir
  cases hfolder.symm.trans hplace
  have hitem (names) : fs.item? (base ++ names) = (Item.directory entries).below? names := by
    rw [item?_append, hentries, Option.bind_some]
  refine ⟨entries.shown fs folder, by simp [lookInto, open?, hfolder, hentries],
    entries.wellFormed_shown folder (hfs.item? hentries).2, fun rel => ?_⟩
  simp only [hitem]
  constructor
  · intro h
    obtain ⟨names, rfl⟩ := Listing.exists_names_of_leads h
    obtain ⟨hfile, hread⟩ := Listing.leads_shown_iff.mp h
    refine ⟨names, rfl, hfile, ?_⟩
    by_cases hlen : names.length ≤ 1
    · have hnil : names.dropLast = [] := List.eq_nil_of_length_eq_zero (by simp; omega)
      rw [hnil]
      exact (resolve_eq_ok_iff.mp hfolder).2.2.1
    · have hlast := hread (names.length - 1) (by omega) (by omega)
      rw [← List.dropLast_eq_take] at hlast
      obtain ⟨_, _, hresolve, -⟩ := isDirectory_iff.mp hlast
      exact (resolve_eq_ok_iff.mp hresolve).2.2.1
  · rintro ⟨names, rfl, ⟨content, hfile⟩, hshort⟩
    refine Listing.leads_shown_iff.mpr ⟨⟨content, hfile⟩, fun k _ hk => ?_⟩
    obtain ⟨inner, hinner⟩ := Item.below?_take hfile hk
    refine (isDirectory_foldl_join hfs hfolder ((hitem _).trans hinner)).mpr ?_
    have hprefix : names.take k <+: names.dropLast := by
      rw [List.dropLast_eq_take]
      exact List.take_prefix_take_left (by omega)
    obtain ⟨more, hmore⟩ := hprefix
    rw [← hmore, List.foldl_append] at hshort
    exact Nat.lt_of_le_of_lt (Path.size_le_size_foldl_join _ _) hshort

end IncludeScan
