import IncludeScan.Proofs.Removal

/-!
Which lines a removal deletes.

Lines are deleted one after another, each by its number in a list that gets shorter. The numbers are
those of the given text all the same: they come in descending order, so that what is deleted stands
behind all lines still to be looked at (`keptLines_removeLine`). The outcome is said of the given
lines alone (`removeLines_eq`): a line goes exactly if the first entry for its number names a file
whose name stands in it.
-/

set_option autoImplicit false

namespace IncludeScan.Removal

/-! ## Lines that go and lines that stay -/

/-- The entries delete the line with number `i`: of those for this number, the first includes a
file whose name stands in the line. -/
def Deletes (entries : List Entry) (i : Nat) (line : List Char) : Prop :=
  ∃ e, entries.find? (fun e => e.line.toNat = i) = some e ∧ e.targetName.toList <:+: line

instance decidableDeletes (entries : List Entry) (i : Nat) (line : List Char) :
    Decidable (Deletes entries i line) :=
  decidable_of_iff (((entries.find? (fun e => e.line.toNat = i)).any
    (fun e => Text.occursIn e.targetName.toList line)) = true)
    (by simp [Deletes, Option.any_eq_true, Text.occursIn_iff])

/-- The lines that the entries leave, where the first line has number `n`. -/
def keptLines (entries : List Entry) (n : Nat) (lines : List (List Char)) : List (List Char) :=
  ((lines.zipIdx n).filter (fun p => ¬ Deletes entries p.2 p.1)).map Prod.fst

def deletedCount (entries : List Entry) (n : Nat) (lines : List (List Char)) : Nat :=
  (lines.zipIdx n).countP (fun p => Deletes entries p.2 p.1)

theorem deletes_cons {e : Entry} {entries : List Entry} {i : Nat} {line : List Char} :
    Deletes (e :: entries) i line ↔
      if e.line.toNat = i then e.targetName.toList <:+: line else Deletes entries i line := by
  unfold Deletes
  by_cases h : e.line.toNat = i <;> simp [h]

theorem not_deletes_of_forall {entries : List Entry} {i : Nat}
    (h : ∀ e ∈ entries, e.line.toNat ≠ i) (line : List Char) : ¬ Deletes entries i line := by
  rintro ⟨e, he, -⟩
  exact h e (List.mem_of_find?_eq_some he) (by simpa using List.find?_some he)

theorem keptLines_append (entries : List Entry) (n : Nat) (front back : List (List Char)) :
    keptLines entries n (front ++ back) =
      keptLines entries n front ++ keptLines entries (n + front.length) back := by
  simp only [keptLines, List.zipIdx_append, List.filter_append, List.map_append]

theorem keptLines_cons (entries : List Entry) (n : Nat) (line : List Char)
    (lines : List (List Char)) :
    keptLines entries n (line :: lines) =
      if Deletes entries n line then keptLines entries (n + 1) lines
      else line :: keptLines entries (n + 1) lines := by
  unfold keptLines
  by_cases h : Deletes entries n line <;> simp [List.zipIdx_cons, h]

theorem keptLines_congr {entries entries' : List Entry} {n : Nat} {lines : List (List Char)}
    (h : ∀ i line, n ≤ i → lines[i - n]? = some line →
      (Deletes entries i line ↔ Deletes entries' i line)) :
    keptLines entries n lines = keptLines entries' n lines := by
  unfold keptLines
  refine congrArg (List.map Prod.fst) (List.filter_congr fun p hp => ?_)
  obtain ⟨hn, hline⟩ := List.mk_mem_zipIdx_iff_le_and_getElem?_sub.1 hp
  rw [decide_eq_decide, h p.2 p.1 hn hline]

theorem keptLines_of_lt {entries : List Entry} {n : Nat} (h : ∀ e ∈ entries, e.line.toNat < n)
    (lines : List (List Char)) : keptLines entries n lines = lines := by
  induction lines generalizing n with
  | nil => rfl
  | cons line lines ih =>
    have hstay : ¬ Deletes entries n line :=
      not_deletes_of_forall (fun e he => Nat.ne_of_lt (h e he)) line
    rw [keptLines_cons, if_neg hstay, ih fun e he => Nat.lt_succ_of_lt (h e he)]

theorem deletedCount_add_length (entries : List Entry) (n : Nat) (lines : List (List Char)) :
    deletedCount entries n lines + (keptLines entries n lines).length = lines.length := by
  have hsplit := List.length_eq_countP_add_countP
    (fun p : List Char × Nat => decide (Deletes entries p.2 p.1)) (l := lines.zipIdx n)
  rw [List.length_zipIdx] at hsplit
  unfold deletedCount keptLines
  rw [List.length_map, ← List.countP_eq_length_filter, hsplit]
  simp only [decide_eq_true_eq]

/-! ## One deletion after another -/

theorem applies_iff {lines : List (List Char)} {e : Entry} :
    applies lines e = true ↔
      ∃ k line, e.line.toNat = k + 1 ∧ lines[k]? = some line ∧ e.targetName.toList <:+: line := by
  have hzero : e.line = 0 ↔ e.line.toNat = 0 := by
    rw [← UInt32.toNat_inj]
    rfl
  simp only [applies, Bool.and_eq_true, decide_eq_true_eq, ne_eq, hzero]
  constructor
  · rintro ⟨hpos, hfound⟩
    cases hline : lines[e.line.toNat - 1]? with
    | none => simp [hline] at hfound
    | some line =>
      rw [hline] at hfound
      exact ⟨e.line.toNat - 1, line, by omega, hline, Text.occursIn_iff.1 hfound⟩
  · rintro ⟨k, line, hk, hline, hname⟩
    refine ⟨by omega, ?_⟩
    rw [hk, Nat.add_sub_cancel, hline]
    exact Text.occursIn_iff.2 hname

theorem keptLines_removeLine {e : Entry} {entries : List Entry}
    (h : ∀ e' ∈ entries, e'.line.toNat < e.line.toNat) (state : List (List Char) × Nat) :
    keptLines entries 1 (removeLine state e).1 = keptLines (e :: entries) 1 state.1 := by
  obtain ⟨lines, count⟩ := state
  unfold removeLine
  split
  · next happlies =>
    obtain ⟨k, line, hk, hline, hname⟩ := applies_iff.1 happlies
    obtain ⟨hlt, hget⟩ := List.getElem?_eq_some_iff.1 hline
    have hlines : lines = lines.take k ++ line :: lines.drop (k + 1) := by
      rw [← hget, List.getElem_cons_drop, List.take_append_drop]
    have hlength : (lines.take k).length = k := by
      rw [List.length_take, Nat.min_eq_left (Nat.le_of_lt hlt)]
    -- in front the entry for line `k + 1` has no say, and behind nothing more goes
    have hfront : keptLines (e :: entries) 1 (lines.take k) =
        keptLines entries 1 (lines.take k) := by
      refine keptLines_congr fun i line' hi hline' => ?_
      have hsmall := (List.getElem?_eq_some_iff.1 hline').1
      rw [deletes_cons, if_neg (by omega)]
    have hback : keptLines entries (1 + k) (lines.drop (k + 1)) = lines.drop (k + 1) :=
      keptLines_of_lt (fun e' he' => by have := h e' he'; omega) _
    have hback' : keptLines (e :: entries) (1 + k + 1) (lines.drop (k + 1)) =
        lines.drop (k + 1) := by
      refine keptLines_of_lt (fun e' he' => ?_) _
      rcases List.mem_cons.1 he' with rfl | he'
      · omega
      · have := h e' he'
        omega
    have hgoes : Deletes (e :: entries) (1 + k) line := by
      rw [deletes_cons, if_pos (by omega)]
      exact hname
    calc keptLines entries 1 (lines.eraseIdx (e.line.toNat - 1))
        = keptLines entries 1 (lines.take k ++ lines.drop (k + 1)) := by
          rw [hk, Nat.add_sub_cancel, List.eraseIdx_eq_take_drop_succ]
      _ = keptLines entries 1 (lines.take k) ++ lines.drop (k + 1) := by
          rw [keptLines_append, hlength, hback]
      _ = keptLines (e :: entries) 1 (lines.take k ++ line :: lines.drop (k + 1)) := by
          rw [keptLines_append, hlength, keptLines_cons, if_pos hgoes, hback', hfront]
      _ = keptLines (e :: entries) 1 lines := by rw [← hlines]
  · next hnot =>
    refine keptLines_congr fun i line hi hline => ?_
    rw [deletes_cons]
    split
    · next hnumber =>
      have hstay : ¬ Deletes entries i line :=
        not_deletes_of_forall (fun e' he' => hnumber ▸ Nat.ne_of_lt (h e' he')) line
      refine ⟨fun hd => absurd hd hstay, fun hname => absurd (applies_iff.2 ?_) hnot⟩
      exact ⟨i - 1, line, by omega, hline, hname⟩
    · exact Iff.rfl

theorem lines_foldl_removeLine {entries : List Entry}
    (h : entries.Pairwise (fun a b => b.line.toNat < a.line.toNat))
    (state : List (List Char) × Nat) :
    (entries.foldl removeLine state).1 = keptLines entries 1 state.1 := by
  induction entries generalizing state with
  | nil => exact (keptLines_of_lt (fun e he => absurd he List.not_mem_nil) _).symm
  | cons e entries ih =>
    obtain ⟨hfirst, hrest⟩ := List.pairwise_cons.1 h
    rw [List.foldl_cons, ih hrest, keptLines_removeLine hfirst]

theorem count_foldl_removeLine (entries : List Entry) (state : List (List Char) × Nat) :
    (entries.foldl removeLine state).2 + (entries.foldl removeLine state).1.length =
      state.2 + state.1.length := by
  induction entries generalizing state with
  | nil => rfl
  | cons e entries ih =>
    rw [List.foldl_cons, ih]
    unfold removeLine
    split
    · next happlies =>
      have hlt := lt_length_of_applies happlies
      rw [List.length_eraseIdx_of_lt hlt]
      omega
    · rfl

/-! ## The order of deleting -/

theorem line_ge_trans (a b c : Entry) (hab : decide (b.line ≤ a.line) = true)
    (hbc : decide (c.line ≤ b.line) = true) : decide (c.line ≤ a.line) = true :=
  decide_eq_true (UInt32.le_trans (of_decide_eq_true hbc) (of_decide_eq_true hab))

theorem line_ge_total (a b : Entry) :
    (decide (b.line ≤ a.line) || decide (a.line ≤ b.line)) = true := by
  rw [Bool.or_eq_true, decide_eq_true_eq, decide_eq_true_eq]
  exact UInt32.le_total _ _

theorem filter_mergeSort_line (entries : List Entry) (i : Nat) :
    (entries.mergeSort (fun a b => b.line ≤ a.line)).filter (fun e => e.line.toNat = i) =
      entries.filter (fun e => e.line.toNat = i) := by
  have hequal : (entries.filter (fun e => e.line.toNat = i)).Pairwise
      (fun a b => decide (b.line ≤ a.line) = true) := by
    refine List.pairwise_of_forall_mem_list fun a ha b hb => decide_eq_true ?_
    have ha : a.line.toNat = i := of_decide_eq_true (List.mem_filter.1 ha).2
    have hb : b.line.toNat = i := of_decide_eq_true (List.mem_filter.1 hb).2
    exact UInt32.le_iff_toNat_le.2 (Nat.le_of_eq (hb.trans ha.symm))
  have hsublist := (List.sublist_mergeSort line_ge_trans line_ge_total hequal
    List.filter_sublist).filter (fun e => decide (e.line.toNat = i))
  rw [List.filter_filter] at hsublist
  simp only [Bool.and_self] at hsublist
  exact (hsublist.eq_of_length ((List.mergeSort_perm _ _).filter _).length_eq.symm).symm

theorem find?_bottomUp (entries : List Entry) (i : Nat) :
    (bottomUp entries).find? (fun e => e.line.toNat = i) =
      entries.find? (fun e => e.line.toNat = i) := by
  unfold bottomUp
  rw [find?_firstBy (fun a b hab => by rw [hab]), ← List.head?_filter, filter_mergeSort_line,
    List.head?_filter]

theorem pairwise_bottomUp (entries : List Entry) :
    (bottomUp entries).Pairwise (fun a b => b.line.toNat < a.line.toNat) := by
  have hsorted : (bottomUp entries).Pairwise (fun a b => decide (b.line ≤ a.line) = true) :=
    (List.pairwise_mergeSort line_ge_trans line_ge_total entries).sublist (firstBy_sublist _ _)
  have hdistinct : (bottomUp entries).Pairwise (fun a b => a.line ≠ b.line) :=
    List.pairwise_map.1 (nodup_map_firstBy Entry.line _)
  refine (hsorted.and hdistinct).imp fun {a b} hab => ?_
  have hle : b.line.toNat ≤ a.line.toNat := UInt32.le_iff_toNat_le.1 (of_decide_eq_true hab.1)
  have hne : a.line.toNat ≠ b.line.toNat := fun heq => hab.2 (UInt32.toNat_inj.1 heq)
  omega

theorem keptLines_bottomUp (entries : List Entry) (n : Nat) (lines : List (List Char)) :
    keptLines (bottomUp entries) n lines = keptLines entries n lines := by
  refine keptLines_congr fun i line _ _ => ?_
  unfold Deletes
  rw [find?_bottomUp]

theorem removeLines_eq (text : List Char) (entries : List Entry) :
    removeLines text entries =
      (Text.unfields '\n' (keptLines entries 1 (Text.fields '\n' text)),
        deletedCount entries 1 (Text.fields '\n' text)) := by
  have hlines := lines_foldl_removeLine (pairwise_bottomUp entries) (Text.fields '\n' text, 0)
  have hcount := count_foldl_removeLine (bottomUp entries) (Text.fields '\n' text, 0)
  have hall := deletedCount_add_length entries 1 (Text.fields '\n' text)
  rw [keptLines_bottomUp] at hlines
  simp only [hlines] at hcount
  simp only [removeLines, hlines, Prod.mk.injEq, true_and]
  omega

/-! ## The file -/

section File

variable {fs : FileSystem} {path : String}

theorem run_of_readText {text : String} (entries : List Entry) (h : fs.readText path = .ok text) :
    run fs path entries = .ok ((removeLines text.toList entries).2, after fs path entries) := by
  obtain ⟨place, hpath, hfile⟩ := FileSystem.fileAt_of_readText h
  rw [run_of_text entries hpath hfile, after_of_text entries hpath hfile]

theorem run_of_error {e : IoError} (entries : List Entry) (h : fs.readText path = .error e) :
    run fs path entries = if entries = [] then .ok (0, fs) else .error e := by
  cases entries with
  | nil => rfl
  | cons entry entries =>
    rw [run, h]
    rfl

theorem after_of_deletedCount {text : String} {entries : List Entry}
    (h : fs.readText path = .ok text)
    (hnone : deletedCount entries 1 (Text.fields '\n' text.toList) = 0) :
    after fs path entries = fs := by
  obtain ⟨place, hpath, hfile⟩ := FileSystem.fileAt_of_readText h
  have hcount : (removeLines text.toList entries).2 = 0 := by rw [removeLines_eq, hnone]
  rw [after_of_text entries hpath hfile, if_pos hcount]

theorem readText_after {text : String} (entries : List Entry) (h : fs.readText path = .ok text) :
    (after fs path entries).readText path =
      .ok (String.ofList (removeLines text.toList entries).1) := by
  have hread : fs.read path = .ok (.text text) := by
    obtain ⟨place, hpath, hfile⟩ := FileSystem.fileAt_of_readText h
    rw [FileSystem.read_eq, hpath]
    exact hfile
  rw [FileSystem.readText, read_after, if_pos rfl, hread]
  rfl

end File

/-- Deleting the lines of entries from a text file succeeds with the number of deleted lines. The
file then holds its lines, as they were and in their order, without exactly those whose number some
entry has and whose first entry names a file that the line holds. All other files stay, and all of
the file system does when no line goes. A file that cannot be read stays as it is. -/
theorem run_deletes_named_lines (fs : FileSystem) (path : String) (entries : List Entry) :
    (∀ text, fs.readText path = .ok text →
      ∃ fs', run fs path entries =
          .ok (deletedCount entries 1 (Text.fields '\n' text.toList), fs') ∧
        fs'.readText path = .ok (String.ofList (Text.unfields '\n'
          (keptLines entries 1 (Text.fields '\n' text.toList)))) ∧
        (∀ other, fs.place? path ≠ fs.place? other → fs'.read other = fs.read other) ∧
        (deletedCount entries 1 (Text.fields '\n' text.toList) = 0 → fs' = fs)) ∧
      ∀ e, fs.readText path = .error e → after fs path entries = fs ∧
        run fs path entries = if entries = [] then .ok (0, fs) else .error e := by
  refine ⟨fun text h => ?_, fun e h => ⟨after_of_error h, run_of_error entries h⟩⟩
  have hrun := run_of_readText entries h
  have hread := readText_after entries h
  rw [removeLines_eq] at hrun hread
  refine ⟨after fs path entries, hrun, hread, fun other hother => ?_, after_of_deletedCount h⟩
  rw [read_after, if_neg hother]

def importingText : String :=
  "#import \"A.h\"\n#import \"B.h\"\r\n#import \"C.h\"\nint x;"

def importingFile : FileSystem where
  root := .cons "F.m" (.file (.text importingText)) .nil
  cwd := []

def importEntries : List Entry :=
  [⟨"/F.m", "/p/A.h", 1⟩, ⟨"/F.m", "/p/C.h", 3⟩, ⟨"/F.m", "/p/Z.h", 2⟩, ⟨"/F.m", "/p/B.h", 2⟩,
    ⟨"/F.m", "/p/A.h", 0⟩, ⟨"/F.m", "/p/A.h", 9⟩]

theorem run_importingFile :
    importingFile.readText "/F.m" = .ok importingText ∧
      ∃ fs', run importingFile "/F.m" importEntries = .ok (2, fs') ∧
        fs'.readText "/F.m" = .ok "#import \"B.h\"\r\nint x;" := by
  have hread : importingFile.readText "/F.m" = .ok importingText :=
    eq_ok_of_toOption (by decide +kernel)
  obtain ⟨fs', hrun, hleft, -, -⟩ :=
    (run_deletes_named_lines importingFile "/F.m" importEntries).1 importingText hread
  have hcount : deletedCount importEntries 1 (Text.fields '\n' importingText.toList) = 2 := by
    decide +kernel
  have hkept : String.ofList (Text.unfields '\n' (keptLines importEntries 1
      (Text.fields '\n' importingText.toList))) = "#import \"B.h\"\r\nint x;" := by
    decide +kernel
  exact ⟨hread, fs', hcount ▸ hrun, hkept ▸ hleft⟩

end IncludeScan.Removal
