/-!
Cutting a text at every occurrence of one character and putting the pieces together again, and the
search for a piece of text inside another. A text to be cut may be one of characters or of bytes.

* `fields sep cs`: the pieces between the separators, one more than there are separators.
* `joined sep front back`: two texts with a separator between them.
* `occursIn needle cs`: whether `needle` stands somewhere in `cs`.
-/

set_option autoImplicit false

namespace IncludeScan.Text

/-! ## Fields -/

section Fields

variable {α : Type}

def consFirst (c : α) : List (List α) → List (List α)
  | [] => [[c]]
  | piece :: pieces => (c :: piece) :: pieces

def unfields (sep : α) : List (List α) → List α
  | [] => []
  | [piece] => piece
  | piece :: next :: pieces => piece ++ sep :: unfields sep (next :: pieces)

theorem consFirst_cons (c : α) (piece : List α) (pieces : List (List α)) :
    consFirst c (piece :: pieces) = (c :: piece) :: pieces :=
  rfl

theorem unfields_consFirst (sep c : α) {pieces : List (List α)} (h : pieces ≠ []) :
    unfields sep (consFirst c pieces) = c :: unfields sep pieces := by
  match pieces with
  | [_] => rfl
  | _ :: _ :: _ => rfl

theorem unfields_nil_cons (sep : α) {pieces : List (List α)} (h : pieces ≠ []) :
    unfields sep ([] :: pieces) = sep :: unfields sep pieces := by
  match pieces with
  | _ :: _ => rfl

theorem unfields_cons {piece : List α} {pieces : List (List α)} (sep : α)
    (h : pieces ≠ []) : unfields sep (piece :: pieces) = piece ++ sep :: unfields sep pieces := by
  match pieces with
  | _ :: _ => rfl

/-- Without one of its pieces a text is shorter, unless that piece was an empty text. -/
theorem unfields_eraseIdx (sep : α) {pieces : List (List α)} {i : Nat}
    (hi : i < pieces.length) :
    unfields sep (pieces.eraseIdx i) = unfields sep pieces ∨
      (unfields sep (pieces.eraseIdx i)).length < (unfields sep pieces).length := by
  induction pieces generalizing i with
  | nil => exact absurd hi (Nat.not_lt_zero i)
  | cons piece pieces ih =>
    cases i with
    | zero =>
      rw [List.eraseIdx_cons_zero]
      cases pieces with
      | nil => cases piece <;> simp [unfields]
      | cons next pieces =>
        right
        rw [unfields_cons sep (List.cons_ne_nil _ _), List.length_append, List.length_cons]
        omega
    | succ i =>
      have hi : i < pieces.length := Nat.lt_of_succ_lt_succ hi
      have hne : pieces ≠ [] := List.ne_nil_of_length_pos (by omega)
      rw [List.eraseIdx_cons_succ, unfields_cons sep hne]
      by_cases hrest : pieces.eraseIdx i = []
      · right
        rw [hrest, unfields, List.length_append, List.length_cons]
        omega
      · rw [unfields_cons sep hrest]
        rcases ih hi with heq | hlt
        · exact Or.inl (by rw [heq])
        · right
          simp only [List.length_append, List.length_cons]
          omega

variable [DecidableEq α]

def fields (sep : α) : List α → List (List α)
  | [] => [[]]
  | c :: cs => if c = sep then [] :: fields sep cs else consFirst c (fields sep cs)

/-- A text after another, with a separator between them unless the first one is empty or ends with
it. -/
def joined (sep : α) (front back : List α) : List α :=
  if front = [] ∨ front.getLast? = some sep then front ++ back else front ++ sep :: back

theorem fields_ne_nil (sep : α) (cs : List α) : fields sep cs ≠ [] := by
  cases cs with
  | nil => simp [fields]
  | cons c cs =>
    simp only [fields]
    split
    · simp
    · cases fields sep cs <;> simp [consFirst]

theorem unfields_fields (sep : α) (cs : List α) : unfields sep (fields sep cs) = cs := by
  induction cs with
  | nil => rfl
  | cons c cs ih =>
    simp only [fields]
    split
    · next h => rw [unfields_nil_cons sep (fields_ne_nil sep cs), ih, h]
    · rw [unfields_consFirst sep c (fields_ne_nil sep cs), ih]

theorem fields_of_not_mem {sep : α} {cs : List α} (h : sep ∉ cs) : fields sep cs = [cs] := by
  induction cs with
  | nil => rfl
  | cons c cs ih =>
    rw [List.mem_cons, not_or] at h
    rw [fields, if_neg (Ne.symm h.1), ih h.2, consFirst_cons]

theorem fields_append_cons {sep : α} {cs : List α} (h : sep ∉ cs) (rest : List α) :
    fields sep (cs ++ sep :: rest) = cs :: fields sep rest := by
  induction cs with
  | nil => simp [fields]
  | cons c cs ih =>
    rw [List.mem_cons, not_or] at h
    rw [List.cons_append, fields, if_neg (Ne.symm h.1), ih h.2, consFirst_cons]

theorem fields_unfields {sep : α} {pieces : List (List α)} (hne : pieces ≠ [])
    (h : ∀ piece ∈ pieces, sep ∉ piece) : fields sep (unfields sep pieces) = pieces := by
  induction pieces with
  | nil => exact absurd rfl hne
  | cons piece pieces ih =>
    have hpiece := h piece List.mem_cons_self
    cases pieces with
    | nil => exact fields_of_not_mem hpiece
    | cons next pieces =>
      have hrest := ih (List.cons_ne_nil _ _) fun p hp => h p (List.mem_cons_of_mem _ hp)
      rw [unfields, fields_append_cons hpiece, hrest]

theorem not_mem_of_mem_fields {sep : α} {cs piece : List α} (h : piece ∈ fields sep cs) :
    sep ∉ piece := by
  induction cs generalizing piece with
  | nil => simp_all [fields]
  | cons c cs ih =>
    rw [fields] at h
    split at h
    · rcases List.mem_cons.mp h with rfl | h
      · exact List.not_mem_nil
      · exact ih h
    · next hc =>
      obtain ⟨first, rest, hfields⟩ := List.exists_cons_of_ne_nil (fields_ne_nil sep cs)
      rw [hfields] at h ih
      rcases List.mem_cons.mp h with rfl | h
      · rw [List.mem_cons, not_or]
        exact ⟨Ne.symm hc, ih List.mem_cons_self⟩
      · exact ih (List.mem_cons_of_mem _ h)

end Fields

/-! ## Search -/

def occursIn (needle : List Char) : List Char → Bool
  | [] => needle.isEmpty
  | c :: cs => needle.isPrefixOf (c :: cs) || occursIn needle cs

theorem occursIn_iff {needle cs : List Char} : occursIn needle cs = true ↔ needle <:+: cs := by
  induction cs with
  | nil => simp [occursIn]
  | cons c cs ih =>
    simp only [occursIn, Bool.or_eq_true, List.isPrefixOf_iff_prefix, ih]
    exact List.infix_cons_iff.symm

end IncludeScan.Text
