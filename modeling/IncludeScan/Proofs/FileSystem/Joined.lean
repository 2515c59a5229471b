import IncludeScan.FileSystem.Visible
import IncludeScan.Proofs.FileSystem.Canonical

/-!
Paths into a folder.

A folder's path text with the names on the way to a directory below it leads to that directory, as
long as the whole text is short enough for a path (`isDirectory_foldl_join`). The folder itself may
be reached through links; the names below it pass through directories only.
-/

set_option autoImplicit false

namespace IncludeScan

/-! ## Joined texts -/

namespace Text

section Joined

variable {α : Type} [DecidableEq α] {sep : α}

theorem fields_append_sep (sep : α) (cs rest : List α) :
    fields sep (cs ++ sep :: rest) = fields sep cs ++ fields sep rest := by
  induction cs with
  | nil => simp [fields]
  | cons c cs ih =>
    rw [List.cons_append, fields, fields, ih]
    split
    · rw [List.cons_append]
    · obtain ⟨piece, pieces, h⟩ := List.exists_cons_of_ne_nil (fields_ne_nil sep cs)
      rw [h, List.cons_append, consFirst_cons, consFirst_cons, List.cons_append]

def names (sep : α) (cs : List α) : List (List α) :=
  (fields sep cs).filter (· ≠ [])

theorem names_append_sep (sep : α) (cs rest : List α) :
    names sep (cs ++ sep :: rest) = names sep cs ++ names sep rest := by
  rw [names, fields_append_sep, List.filter_append]
  rfl

theorem names_of_not_mem {name : List α} (hne : name ≠ []) (h : sep ∉ name) :
    names sep name = [name] := by
  simp [names, fields_of_not_mem h, hne]

theorem joined_eq_append (sep : α) (front back : List α) :
    ∃ middle, (middle = [] ∨ middle = [sep]) ∧
      joined sep front back = front ++ middle ++ back := by
  rw [joined]
  split
  · exact ⟨[], Or.inl rfl, by simp⟩
  · exact ⟨[sep], Or.inr rfl, by simp⟩

theorem names_joined (front : List α) {name : List α} (hne : name ≠ []) (h : sep ∉ name) :
    names sep (joined sep front name) = names sep front ++ [name] := by
  have hname := names_of_not_mem hne h
  have hnil : names sep ([] : List α) = [] := by simp [names, fields]
  rw [joined]
  split
  · next hend =>
    rcases hend with rfl | hend
    · rw [List.nil_append, hname, hnil, List.nil_append]
    · obtain ⟨stem, rfl⟩ := List.getLast?_eq_some_iff.mp hend
      rw [List.append_assoc, List.singleton_append, names_append_sep, names_append_sep, hname,
        hnil, List.append_nil]
  · rw [names_append_sep, hname]

theorem names_foldl_joined (front : List α) {rel : List (List α)}
    (h : ∀ name ∈ rel, name ≠ [] ∧ sep ∉ name) :
    names sep (rel.foldl (joined sep) front) = names sep front ++ rel := by
  induction rel generalizing front with
  | nil => simp
  | cons name rel ih =>
    rw [List.forall_mem_cons] at h
    rw [List.foldl_cons, ih _ h.2, names_joined front h.1.1 h.1.2, List.append_assoc]
    rfl

end Joined
end Text

namespace Path

def names (path : String) : List String :=
  (parts path).filter (· != "")

theorem names_eq_map (path : String) :
    names path = (Text.names '/' path.toList).map String.ofList := by
  rw [names, parts, List.filter_map, Text.names]
  refine congrArg _ (List.filter_congr fun cs _ => ?_)
  by_cases hcs : cs = []
  · simp [hcs]
  · simp [hcs]

theorem names_append_slash (folder rest : String) :
    names (folder ++ "/" ++ rest) = names folder ++ names rest := by
  have hlist : (folder ++ "/" ++ rest).toList = folder.toList ++ '/' :: rest.toList := by simp
  rw [names_eq_map, names_eq_map, names_eq_map, hlist, Text.names_append_sep, List.map_append]

theorem join_eq_append (folder name : String) :
    ∃ slash, (slash = "" ∨ slash = "/") ∧ join folder name = folder ++ slash ++ name := by
  obtain ⟨middle, hmiddle, hjoined⟩ := Text.joined_eq_append '/' folder.toList name.toList
  refine ⟨String.ofList middle, ?_, ?_⟩
  · rcases hmiddle with rfl | rfl
    · exact Or.inl rfl
    · exact Or.inr rfl
  · refine String.toList_inj.mp ?_
    simp [join, hjoined]

theorem names_join (folder : String) {name : String} (h : FileSystem.IsName name) :
    names (join folder name) = names folder ++ [name] := by
  obtain ⟨hne, hslash, -⟩ := h
  have hjoined := Text.names_joined folder.toList (mt String.toList_eq_nil_iff.mp hne) hslash
  rw [names_eq_map, names_eq_map, join, String.toList_ofList, hjoined, List.map_append,
    List.map_singleton, String.ofList_toList]

theorem size_le_size_join (folder name : String) :
    folder.utf8ByteSize ≤ (join folder name).utf8ByteSize := by
  obtain ⟨slash, -, hjoin⟩ := join_eq_append folder name
  rw [hjoin, String.utf8ByteSize_append, String.utf8ByteSize_append]
  omega

theorem size_le_size_foldl_join (folder : String) (rel : List String) :
    folder.utf8ByteSize ≤ (rel.foldl join folder).utf8ByteSize := by
  induction rel generalizing folder with
  | nil => exact Nat.le_refl _
  | cons name rel ih => exact Nat.le_trans (size_le_size_join folder name) (ih _)

end Path

namespace FileSystem

variable {fs : FileSystem} {follow : List String → List String → Except IoError Place}

theorem stepsOf_join (folder : String) {name : String} (h : IsName name) :
    stepsOf (Path.join folder name) = Path.names folder ++ [name] := by
  have hlast : (Path.join folder name).toList.getLast? ≠ some '/' := by
    obtain ⟨slash, -, hjoin⟩ := Path.join_eq_append folder name
    obtain ⟨c, hc⟩ := Option.isSome_iff_exists.mp
      (List.getLast?_isSome.mpr (fun hnil => h.1 (String.toList_eq_nil_iff.mp hnil)))
    rw [hjoin, String.toList_append, List.getLast?_append, hc]
    intro heq
    cases heq
    exact h.2.1 (List.mem_of_getLast? hc)
  have hnames := Path.names_join folder h
  rw [Path.names] at hnames
  rw [stepsOf, hnames, if_neg (by simpa using hlast), List.append_nil]

/-! ## Walks -/

/-- What a first step can do: lead to another place, lead to a link, or end the walk. -/
theorem walkWith_cons_cases (fs : FileSystem)
    (follow : List String → List String → Except IoError Place) (here : List String)
    (step : String) :
    (∃ there, ∀ steps, fs.walkWith follow here (step :: steps) = fs.walkWith follow there steps) ∨
      (∃ start target, ∀ steps,
        fs.walkWith follow here (step :: steps) = follow start (target ++ steps)) ∨
      ∃ last e, (∀ place, last ≠ .ok (.taken place)) ∧ ∀ steps,
        fs.walkWith follow here (step :: steps) = if steps.isEmpty then last else .error e := by
  have hstop (e : IoError) (h : ∀ steps, fs.walkWith follow here (step :: steps) = .error e) :
      ∃ last e, (∀ place, last ≠ .ok (.taken place)) ∧ ∀ steps,
        fs.walkWith follow here (step :: steps) = if steps.isEmpty then last else .error e :=
    ⟨.error e, e, nofun, fun steps => by rw [h, ite_self]⟩
  cases hhere : fs.shape? here with
  | none => exact Or.inr (Or.inr (hstop _ fun steps => by rw [walkWith_cons, hhere]))
  | some shape =>
    cases shape with
    | file => exact Or.inr (Or.inr (hstop _ fun steps => by rw [walkWith_cons, hhere]))
    | link => exact Or.inr (Or.inr (hstop _ fun steps => by rw [walkWith_cons, hhere]))
    | directory =>
      simp only [walkWith_cons, hhere] at hstop ⊢
      by_cases hdot : step = "."
      · exact Or.inl ⟨here, fun steps => if_pos hdot⟩
      by_cases hdotdot : step = ".."
      · exact Or.inl ⟨here.dropLast, fun steps => by rw [if_neg hdot, if_pos hdotdot]⟩
      simp only [if_neg hdot, if_neg hdotdot] at hstop ⊢
      by_cases hsize : nameLimit < step.utf8ByteSize
      · exact Or.inr (Or.inr (hstop _ fun steps => if_pos hsize))
      simp only [if_neg hsize]
      cases fs.shape? (here ++ [step]) with
      | none => exact Or.inr (Or.inr ⟨.ok (.free (here ++ [step])), .notFound, nofun, fun _ => rfl⟩)
      | some next =>
        cases next with
        | file => exact Or.inl ⟨here ++ [step], fun _ => rfl⟩
        | directory => exact Or.inl ⟨here ++ [step], fun _ => rfl⟩
        | link target => exact Or.inr (Or.inl ⟨_, stepsOf target, fun _ => rfl⟩)

/-- A walk that ends at an item goes on from there. -/
theorem walkWith_append (hwalk : ∃ links, fs.walkWith follow = fs.walk links)
    (hfollow : ∀ here steps base, follow here steps = .ok (.taken base) →
      ∃ links, ∀ more, follow here (steps ++ more) = fs.walk links base more)
    {here steps base : List String} (h : fs.walkWith follow here steps = .ok (.taken base)) :
    ∃ links, ∀ more, fs.walkWith follow here (steps ++ more) = fs.walk links base more := by
  induction steps generalizing here with
  | nil =>
    cases h
    obtain ⟨links, hlinks⟩ := hwalk
    exact ⟨links, fun more => by rw [hlinks, List.nil_append]⟩
  | cons step steps ih =>
    obtain ⟨there, hstep⟩ | ⟨start, target, hstep⟩ | ⟨last, e, hlast, hstep⟩ :=
      walkWith_cons_cases fs follow here step
    · rw [hstep] at h
      simpa only [List.cons_append, hstep] using ih h
    · rw [hstep] at h
      simpa only [List.cons_append, hstep, List.append_assoc] using hfollow _ _ _ h
    · rw [hstep] at h
      split at h
      · exact absurd h (hlast base)
      · cases h

theorem walk_append {links : Nat} {here steps base : List String}
    (h : fs.walk links here steps = .ok (.taken base)) :
    ∃ links', ∀ more, fs.walk links here (steps ++ more) = fs.walk links' base more := by
  induction links generalizing here steps base with
  | zero => exact walkWith_append ⟨0, rfl⟩ (fun _ _ _ hloop => nomatch hloop) h
  | succ links ih => exact walkWith_append ⟨links + 1, rfl⟩ (fun _ _ _ => ih) h

/-- A dot before another step changes nothing: both ask for a directory. -/
theorem walkWith_dot {step : String} {more : List String}
    (hfollow : ∀ here steps, follow here (steps ++ "." :: step :: more) =
      follow here (steps ++ step :: more)) (here steps : List String) :
    fs.walkWith follow here (steps ++ "." :: step :: more) =
      fs.walkWith follow here (steps ++ step :: more) := by
  induction steps generalizing here with
  | nil =>
    rw [List.nil_append, List.nil_append, walkWith_cons, if_pos rfl]
    cases hshape : fs.shape? here with
    | none => rw [walkWith_cons, hshape]
    | some shape =>
      cases shape with
      | directory => rfl
      | file => rw [walkWith_cons, hshape]
      | link target => rw [walkWith_cons, hshape]
  | cons first steps ih =>
    rw [List.cons_append, List.cons_append]
    obtain ⟨there, hstep⟩ | ⟨start, target, hstep⟩ | ⟨last, e, -, hstep⟩ :=
      walkWith_cons_cases fs follow here first
    · rw [hstep, hstep, ih]
    · rw [hstep, hstep, ← List.append_assoc, hfollow, List.append_assoc]
    · simp [hstep]

theorem walk_dot (links : Nat) (here steps : List String) (step : String) (more : List String) :
    fs.walk links here (steps ++ "." :: step :: more) =
      fs.walk links here (steps ++ step :: more) := by
  induction links generalizing here steps with
  | zero => exact walkWith_dot (fun _ _ => rfl) here steps
  | succ links ih => exact walkWith_dot ih here steps

/-- A slash at the end of a text is one more dot among its steps. -/
theorem walk_stepsOf_append (links : Nat) (here : List String) (path step : String)
    (more : List String) :
    fs.walk links here (stepsOf path ++ step :: more) =
      fs.walk links here (Path.names path ++ step :: more) := by
  rw [stepsOf, List.append_assoc, ← Path.names]
  split
  · exact walk_dot links here (Path.names path) step more
  · rfl

def IsEntryName (name : String) : Prop :=
  IsName name ∧ '\x00' ∉ name.toList ∧ name.utf8ByteSize ≤ nameLimit

instance : DecidablePred IsEntryName := fun _ => inferInstanceAs (Decidable (_ ∧ _ ∧ _))

theorem walk_step (links : Nat) {here : List String} {name : String} (hname : IsEntryName name)
    (h : fs.Settled (here ++ [name])) :
    fs.walk links here [name] = .ok (.taken (here ++ [name])) := by
  obtain ⟨⟨-, -, hdot, hdotdot⟩, -, hsize⟩ := hname
  have hwalk (follow) : fs.walkWith follow here [name] = .ok (.taken (here ++ [name])) := by
    rw [walkWith_cons, h.of_concat]
    simp only [if_neg hdot, if_neg hdotdot, if_neg (Nat.not_lt.mpr hsize)]
    rcases h.shape with hshape | hshape
    · rw [hshape]
      rfl
    · rw [hshape]
      rfl
  cases links with
  | zero => exact hwalk _
  | succ links => exact hwalk _

theorem resolve_join {folder name : String} {base : List String}
    (hfolder : fs.resolve folder = .ok base) (hname : IsEntryName name)
    (h : fs.Settled (base ++ [name]))
    (hshort : (Path.join folder name).utf8ByteSize < pathLimit) :
    fs.resolve (Path.join folder name) = .ok (base ++ [name]) := by
  obtain ⟨hne, hnul, -, hwalk⟩ := resolve_eq_ok_iff.mp hfolder
  obtain ⟨slash, hslash, hjoin⟩ := Path.join_eq_append folder name
  have habsolute : isAbsolute (Path.join folder name) = isAbsolute folder := by
    obtain ⟨c, cs, hcs⟩ := List.exists_cons_of_ne_nil (mt String.toList_eq_nil_iff.mp hne)
    simp [isAbsolute, hjoin, hcs]
  refine resolve_eq_ok_iff.mpr ⟨?_, ?_, hshort, ?_⟩
  · simp [hjoin, hne]
  · rcases hslash with rfl | rfl <;> simp [hjoin, hnul, hname.2.1]
  · obtain ⟨links, hmore⟩ := walk_append hwalk
    rw [habsolute, stepsOf_join folder hname.1, ← walk_stepsOf_append, hmore,
      walk_step links hname h]

end FileSystem

/-! ## Well-formed trees -/

mutual

/-- Every directory lists its items under different names. -/
def Item.WellFormed : Item → Prop
  | .file _ | .link _ => True
  | .directory entries => entries.WellFormed

def Listing.WellFormed : Listing → Prop
  | .nil => True
  | .cons name item rest =>
    FileSystem.IsEntryName name ∧ rest.find? name = none ∧ item.WellFormed ∧ rest.WellFormed

end

mutual

def Item.decidableWellFormed : (item : Item) → Decidable item.WellFormed
  | .file _ | .link _ => .isTrue trivial
  | .directory entries => entries.decidableWellFormed

def Listing.decidableWellFormed : (entries : Listing) → Decidable entries.WellFormed
  | .nil => .isTrue trivial
  | .cons _ item rest =>
    have := item.decidableWellFormed
    have := rest.decidableWellFormed
    inferInstanceAs (Decidable (_ ∧ _ ∧ _ ∧ _))

end

instance : DecidablePred Listing.WellFormed := Listing.decidableWellFormed

theorem Listing.WellFormed.find? {name : String} {item : Item} : {entries : Listing} →
    entries.WellFormed → entries.find? name = some item →
      FileSystem.IsEntryName name ∧ item.WellFormed
  | .nil, _, h => nomatch h
  | .cons n below rest, hwf, h => by
    obtain ⟨hname, -, hitem, hrest⟩ := hwf
    rw [Listing.find?] at h
    split at h
    · next heq =>
      cases h
      exact ⟨heq ▸ hname, hitem⟩
    · exact hrest.find? h

/-- The item that names lead to from an item, through directories only. -/
def Item.below? : Item → List String → Option Item
  | item, [] => some item
  | .directory entries, name :: rel => (entries.find? name).bind (·.below? rel)
  | _, _ :: _ => none

theorem Item.below?_append (item : Item) (rel more : List String) :
    item.below? (rel ++ more) = (item.below? rel).bind (·.below? more) := by
  induction rel generalizing item with
  | nil => rfl
  | cons name rel ih =>
    cases item with
    | file => rfl
    | link => rfl
    | directory entries =>
      rw [List.cons_append, below?, below?]
      cases entries.find? name with
      | none => rfl
      | some below => exact ih below

theorem Item.below?_take {item : Item} {rel : List String} {content : Content}
    (h : item.below? rel = some (.file content)) {k : Nat} (hk : k < rel.length) :
    ∃ entries, item.below? (rel.take k) = some (.directory entries) := by
  rw [← List.take_append_drop k rel, below?_append] at h
  obtain ⟨next, hnext, hrest⟩ := Option.bind_eq_some_iff.mp h
  rw [List.drop_eq_getElem_cons hk] at hrest
  cases next with
  | file => cases hrest
  | link => cases hrest
  | directory entries => exact ⟨entries, hnext⟩

theorem Item.WellFormed.below? {item below : Item} {rel : List String} (hwf : item.WellFormed)
    (h : item.below? rel = some below) :
    (∀ name ∈ rel, FileSystem.IsEntryName name) ∧ below.WellFormed := by
  induction rel generalizing item with
  | nil =>
    cases h
    exact ⟨nofun, hwf⟩
  | cons name rel ih =>
    cases item with
    | file => cases h
    | link => cases h
    | directory entries =>
      obtain ⟨next, hfind, hnext⟩ := Option.bind_eq_some_iff.mp h
      obtain ⟨hname, hitem⟩ := Listing.WellFormed.find? hwf hfind
      obtain ⟨hrel, hbelow⟩ := ih hitem hnext
      exact ⟨List.forall_mem_cons.mpr ⟨hname, hrel⟩, hbelow⟩

namespace FileSystem

variable {fs : FileSystem}

def WellFormed (fs : FileSystem) : Prop :=
  fs.root.WellFormed

instance : DecidablePred WellFormed := fun fs => inferInstanceAs (Decidable fs.root.WellFormed)

theorem item?_eq_below? (fs : FileSystem) (place : List String) :
    fs.item? place = (Item.directory fs.root).below? place := by
  rw [item?]
  induction place using List.reverseRecOn with
  | nil => rfl
  | append_singleton place name ih =>
    rw [itemIn_concat, Item.below?_append, ih]
    cases (Item.directory fs.root).below? place with
    | none => rfl
    | some item =>
      cases item with
      | file => rfl
      | link => rfl
      | directory entries => simp [Item.below?]

theorem item?_append (fs : FileSystem) (place rel : List String) :
    fs.item? (place ++ rel) = (fs.item? place).bind (·.below? rel) := by
  rw [item?_eq_below?, item?_eq_below?, Item.below?_append]

theorem WellFormed.item? (hfs : fs.WellFormed) {place : List String} {item : Item}
    (h : fs.item? place = some item) :
    (∀ name ∈ place, IsEntryName name) ∧ item.WellFormed := by
  have hroot : (Item.directory fs.root).WellFormed := hfs
  exact hroot.below? ((item?_eq_below? fs place).symm.trans h)

/-! ## Directories by their paths -/

theorem isDirectory_iff {path : String} :
    fs.isDirectory path = true ↔ ∃ place entries,
      fs.resolve path = .ok place ∧ fs.item? place = some (.directory entries) := by
  rw [isDirectory, open?]
  cases fs.resolve path with
  | error e => simp
  | ok place =>
    cases hitem : fs.item? place with
    | none => simp [hitem]
    | some item => cases item <;> simp [hitem]

theorem resolve_foldl_join (hfs : fs.WellFormed) {folder : String} {base dirs : List String}
    (hfolder : fs.resolve folder = .ok base) {entries : Listing}
    (hdir : fs.item? (base ++ dirs) = some (.directory entries))
    (hshort : (dirs.foldl Path.join folder).utf8ByteSize < pathLimit) :
    fs.resolve (dirs.foldl Path.join folder) = .ok (base ++ dirs) := by
  induction dirs using List.reverseRecOn generalizing entries with
  | nil => simpa using hfolder
  | append_singleton dirs name ih =>
    obtain ⟨hnames, -⟩ := hfs.item? hdir
    rw [List.foldl_append, List.foldl_cons, List.foldl_nil] at hshort ⊢
    rw [← List.append_assoc] at hdir hnames ⊢
    have hsettled : fs.Settled (base ++ dirs ++ [name]) :=
      ⟨fun n hn => (hnames n hn).1, Or.inr (by rw [shape?, hdir]; rfl)⟩
    obtain ⟨outer, houter⟩ : ∃ outer, fs.item? (base ++ dirs) = some (.directory outer) := by
      have hshape := hsettled.of_concat
      rw [shape?, Option.map_eq_some_iff] at hshape
      obtain ⟨item, hitem, hdirectory⟩ := hshape
      cases item with
      | file => cases hdirectory
      | link => cases hdirectory
      | directory outer => exact ⟨outer, hitem⟩
    have hbefore := ih houter (Nat.lt_of_le_of_lt (Path.size_le_size_join _ name) hshort)
    exact resolve_join hbefore (hnames name (by simp)) hsettled hshort

/-- The path of a directory below a folder leads to it exactly if the text is short enough. -/
theorem isDirectory_foldl_join (hfs : fs.WellFormed) {folder : String} {base dirs : List String}
    (hfolder : fs.resolve folder = .ok base) {entries : Listing}
    (hdir : fs.item? (base ++ dirs) = some (.directory entries)) :
    fs.isDirectory (dirs.foldl Path.join folder) = true ↔
      (dirs.foldl Path.join folder).utf8ByteSize < pathLimit := by
  rw [isDirectory_iff]
  constructor
  · rintro ⟨place, -, hresolve, -⟩
    exact (resolve_eq_ok_iff.mp hresolve).2.2.1
  · intro hshort
    exact ⟨_, entries, resolve_foldl_join hfs hfolder hdir hshort, hdir⟩

end FileSystem
end IncludeScan
