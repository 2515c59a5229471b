/-!
Tables from a text key to the positions recorded under it, in the order of recording.
-/

set_option autoImplicit false

namespace IncludeScan

/-- The positions recorded under each key. -/
structure PositionTable where
  rows : List (String × List Nat)
  deriving DecidableEq, Repr, Inhabited

namespace PositionTable

def empty : PositionTable := ⟨[]⟩

def positions (t : PositionTable) (key : String) : List Nat :=
  (t.rows.lookup key).getD []

def recordIn (key : String) (i : Nat) : List (String × List Nat) → List (String × List Nat)
  | [] => [(key, [i])]
  | (k, is) :: rows => if key = k then (k, is ++ [i]) :: rows else (k, is) :: recordIn key i rows

def record (t : PositionTable) (key : String) (i : Nat) : PositionTable :=
  ⟨recordIn key i t.rows⟩

@[simp] theorem positions_empty (key : String) : empty.positions key = [] := rfl

theorem lookup_recordIn (key k : String) (i : Nat) (rows : List (String × List Nat)) :
    ((recordIn key i rows).lookup k).getD [] =
      if key = k then (rows.lookup k).getD [] ++ [i] else (rows.lookup k).getD [] := by
  induction rows with
  | nil =>
    by_cases h : key = k
    · simp [recordIn, h]
    · have h' : (k == key) = false := by simpa using fun e => h e.symm
      simp [recordIn, List.lookup_cons, h, h']
  | cons row rows ih =>
    obtain ⟨k', is⟩ := row
    by_cases hk : key = k'
    · subst hk
      by_cases h : key = k
      · subst h; simp [recordIn]
      · have h' : (k == key) = false := by simpa using fun e => h e.symm
        simp [recordIn, List.lookup_cons, h, h']
    · by_cases hk' : k = k'
      · subst hk'; simp [recordIn, hk]
      · have h' : (k == k') = false := by simpa using hk'
        simpa [recordIn, List.lookup_cons, hk, h'] using ih

@[simp] theorem positions_record (t : PositionTable) (key k : String) (i : Nat) :
    (t.record key i).positions k =
      if key = k then t.positions k ++ [i] else t.positions k :=
  lookup_recordIn key k i t.rows

end PositionTable
end IncludeScan
