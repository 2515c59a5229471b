import IncludeScan.Regex.Match
import Mathlib.Data.List.TakeWhile

/-!
Steps of a program.

Following ways and taking a character only ever put new ways behind those already found
(`suffix_follow`, `suffix_foldl_takeStep`). In a program that comes to its end by characters of one
class only, all ways stay at work as long as other characters are taken (`atWork_follow`,
`atWork_foldl_takeStep`). A run whose ways are all at work goes on with all of them
(`run_of_atWork`), and it stops at a way that is the first and has come to its end
(`run_of_accepts`).
-/

set_option autoImplicit false

namespace IncludeScan.Regex

def Instr.nexts : Instr → List Nat
  | .accept => []
  | .take _ next | .check _ next | .note _ next => [next]
  | .fork first second => [first, second]

namespace Program

variable {p : Program} {c : Cursor} {w : Way} {ws : List Way} {fr : Front}

/-! ## Following ways -/

@[simp] theorem follow_nil (p : Program) (c : Cursor) (fr : Front) : p.follow c [] fr = fr := by
  rw [follow]

section Unseen

variable (h : fr.seen.contains w.next = false)
include h

theorem follow_accept (hi : p.code[w.next]? = some .accept) :
    p.follow c (w :: ws) fr = p.follow c ws ((fr.meet w.next).add w) := by
  obtain ⟨hlt, hi⟩ := Array.getElem?_eq_some_iff.1 hi
  rw [follow, dif_neg (by simp [h]), dif_pos hlt, hi]

theorem follow_take {cls : Class} {next : Nat} (hi : p.code[w.next]? = some (.take cls next)) :
    p.follow c (w :: ws) fr = p.follow c ws ((fr.meet w.next).add w) := by
  obtain ⟨hlt, hi⟩ := Array.getElem?_eq_some_iff.1 hi
  rw [follow, dif_neg (by simp [h]), dif_pos hlt, hi]

theorem follow_note {m : Mark} {next : Nat} (hi : p.code[w.next]? = some (.note m next)) :
    p.follow c (w :: ws) fr = p.follow c (w.note m c next :: ws) (fr.meet w.next) := by
  obtain ⟨hlt, hi⟩ := Array.getElem?_eq_some_iff.1 hi
  rw [follow, dif_neg (by simp [h]), dif_pos hlt, hi]

theorem follow_fork {first second : Nat} (hi : p.code[w.next]? = some (.fork first second)) :
    p.follow c (w :: ws) fr =
      p.follow c (w.goto first :: w.goto second :: ws) (fr.meet w.next) := by
  obtain ⟨hlt, hi⟩ := Array.getElem?_eq_some_iff.1 hi
  rw [follow, dif_neg (by simp [h]), dif_pos hlt, hi]

end Unseen

theorem suffix_follow (p : Program) (c : Cursor) (ws : List Way) (fr : Front) :
    fr.ways <:+ (p.follow c ws fr).ways := by
  fun_induction follow p c ws fr with
  | case1 fr => exact List.suffix_refl _
  | case2 w ws fr hseen ih => exact ih
  | case3 w ws fr hseen hlt hi ih => exact (List.suffix_cons w fr.ways).trans ih
  | case4 w ws fr hseen hlt cls next hi ih => exact (List.suffix_cons w fr.ways).trans ih
  | case5 w ws fr hseen hlt a next hi hholds ih => exact ih
  | case6 w ws fr hseen hlt a next hi hholds ih => exact ih
  | case7 w ws fr hseen hlt m next hi ih => exact ih
  | case8 w ws fr hseen hlt first second hi ih => exact ih
  | case9 w ws fr hseen hlt ih => exact ih

/-- The end is come to only by taking a character of the class. -/
def EndsBy (p : Program) (cls : Class) : Prop :=
  ∀ i ∈ p.code.toList, ∀ next ∈ i.nexts, p.code[next]? = some .accept → i = .take cls next

def AtWork (p : Program) (ws : List Way) : Prop :=
  ∀ w ∈ ws, p.accepts w = false

theorem accepts_eq_false_iff : p.accepts w = false ↔ p.code[w.next]? ≠ some .accept := by
  simp [accepts]

theorem atWork_nil : p.AtWork [] := nofun

theorem AtWork.cons (hw : p.accepts w = false) (h : p.AtWork ws) : p.AtWork (w :: ws) :=
  List.forall_mem_cons.2 ⟨hw, h⟩

theorem EndsBy.accepts_goto {cls : Class} (hp : p.EndsBy cls) {i next : Nat}
    (hlt : i < p.code.size) (hnext : next ∈ p.code[i].nexts) (hi : p.code[i] ≠ .take cls next) :
    p.accepts (w.goto next) = false :=
  accepts_eq_false_iff.2 fun hend => hi (hp _ (Array.getElem_mem_toList hlt) next hnext hend)

theorem atWork_follow {cls : Class} (hp : p.EndsBy cls) (hws : p.AtWork ws)
    (hfr : p.AtWork fr.ways) : p.AtWork (p.follow c ws fr).ways := by
  fun_induction follow p c ws fr with
  | case1 fr => exact hfr
  | case2 w ws fr hseen ih => exact ih (List.forall_mem_cons.1 hws).2 hfr
  | case3 w ws fr hseen hlt hi ih =>
    obtain ⟨hw, hws⟩ := List.forall_mem_cons.1 hws
    exact ih hws (.cons hw hfr)
  | case4 w ws fr hseen hlt cls next hi ih =>
    obtain ⟨hw, hws⟩ := List.forall_mem_cons.1 hws
    exact ih hws (.cons hw hfr)
  | case5 w ws fr hseen hlt a next hi hholds ih =>
    have hnext : p.accepts (w.goto next) = false :=
      hp.accepts_goto hlt (by simp [hi, Instr.nexts]) (by simp [hi])
    exact ih (.cons hnext (List.forall_mem_cons.1 hws).2) hfr
  | case6 w ws fr hseen hlt a next hi hholds ih => exact ih (List.forall_mem_cons.1 hws).2 hfr
  | case7 w ws fr hseen hlt m next hi ih =>
    have hnext : p.accepts (w.goto next) = false :=
      hp.accepts_goto hlt (by simp [hi, Instr.nexts]) (by simp [hi])
    exact ih (.cons hnext (List.forall_mem_cons.1 hws).2) hfr
  | case8 w ws fr hseen hlt first second hi ih =>
    have hfirst : p.accepts (w.goto first) = false :=
      hp.accepts_goto hlt (by simp [hi, Instr.nexts]) (by simp [hi])
    have hsecond : p.accepts (w.goto second) = false :=
      hp.accepts_goto hlt (by simp [hi, Instr.nexts]) (by simp [hi])
    exact ih (.cons hfirst (.cons hsecond (List.forall_mem_cons.1 hws).2)) hfr
  | case9 w ws fr hseen hlt ih => exact ih (List.forall_mem_cons.1 hws).2 hfr

/-! ## Taking a character -/

def takeStep (p : Program) (x : Char) (c : Cursor) (fr : Front) (w : Way) : Front :=
  match p.code[w.next]? with
  | some (.take cls next) => if cls.contains x then p.follow c [w.goto next] fr else fr
  | _ => fr

theorem advance_eq (p : Program) (x : Char) (c : Cursor) (ws : List Way) :
    p.advance x c ws = ws.foldl (p.takeStep x c) .empty := rfl

section TakeStep

variable {x : Char} {cls : Class} {next : Nat} (hi : p.code[w.next]? = some (.take cls next))
include hi

theorem takeStep_of_contains (h : cls.contains x = true) :
    p.takeStep x c fr w = p.follow c [w.goto next] fr := by
  rw [takeStep, hi]
  exact if_pos h

theorem takeStep_of_not_contains (h : cls.contains x = false) : p.takeStep x c fr w = fr := by
  rw [takeStep, hi]
  exact if_neg (by simp [h])

end TakeStep

theorem takeStep_cases (p : Program) (x : Char) (c : Cursor) (fr : Front) (w : Way) :
    p.takeStep x c fr w = fr ∨
      ∃ cls next, p.code[w.next]? = some (.take cls next) ∧ cls.contains x = true ∧
        p.takeStep x c fr w = p.follow c [w.goto next] fr := by
  unfold takeStep
  split
  · next cls next hi =>
    by_cases h : cls.contains x = true
    · exact .inr ⟨cls, next, hi, h, if_pos h⟩
    · exact .inl (if_neg h)
  · exact .inl rfl

theorem suffix_foldl_takeStep (p : Program) (x : Char) (c : Cursor) (ws : List Way) (fr : Front) :
    fr.ways <:+ (ws.foldl (p.takeStep x c) fr).ways := by
  induction ws generalizing fr with
  | nil => exact List.suffix_refl _
  | cons w ws ih =>
    have hstep : fr.ways <:+ (p.takeStep x c fr w).ways := by
      rcases p.takeStep_cases x c fr w with h | ⟨cls, next, -, -, h⟩
      · exact ⟨[], by rw [List.nil_append, h]⟩
      · rw [h]
        exact p.suffix_follow c _ fr
    exact hstep.trans (ih _)

theorem atWork_foldl_takeStep {cls : Class} (hp : p.EndsBy cls) {x : Char}
    (hx : cls.contains x = false) (ws : List Way) (hfr : p.AtWork fr.ways) :
    p.AtWork (ws.foldl (p.takeStep x c) fr).ways := by
  induction ws generalizing fr with
  | nil => exact hfr
  | cons w ws ih =>
    refine ih ?_
    rcases p.takeStep_cases x c fr w with h | ⟨cls', next, hi, hcontains, h⟩
    · rwa [h]
    · obtain ⟨hlt, hi⟩ := Array.getElem?_eq_some_iff.1 hi
      have hnext : p.accepts (w.goto next) = false := by
        refine hp.accepts_goto hlt (by simp [hi, Instr.nexts]) ?_
        rw [hi]
        rintro ⟨⟩
        simp [hx] at hcontains
      rw [h]
      exact atWork_follow hp (.cons hnext fun _ hmem => absurd hmem List.not_mem_nil) hfr

/-! ## Runs without a match so far -/

def withStart (p : Program) (fr : Front) (here : Cursor) : List Way :=
  (p.follow here [⟨here, p.start, []⟩] fr).ways.reverse

theorem prefix_withStart (p : Program) (fr : Front) (here : Cursor) :
    fr.ways.reverse <+: p.withStart fr here :=
  List.reverse_prefix.2 (p.suffix_follow here _ fr)

theorem atWork_withStart {cls : Class} (hp : p.EndsBy cls)
    (hstart : p.code[p.start]? ≠ some .accept) (hfr : p.AtWork fr.ways) (here : Cursor) :
    p.AtWork (p.withStart fr here) := by
  have hnew : p.AtWork [⟨here, p.start, []⟩] :=
    .cons (accepts_eq_false_iff.2 hstart) fun _ hmem => absurd hmem List.not_mem_nil
  exact fun w hw => atWork_follow hp hnew hfr w (List.mem_reverse.1 hw)

theorem run_of_atWork {pos : Nat} {before : Option Char} {rest : List Char}
    (h : p.AtWork (p.withStart fr ⟨pos, before, rest⟩)) :
    p.run none fr pos before rest =
      match rest with
      | [] => none
      | x :: xs =>
        p.run none (p.advance x ⟨pos + 1, some x, xs⟩ (p.withStart fr ⟨pos, before, rest⟩))
          (pos + 1) (some x) xs := by
  have hnone : (p.withStart fr ⟨pos, before, rest⟩).find? p.accepts = none :=
    List.find?_eq_none.2 fun w hw => by simp [h w hw]
  have hall : (p.withStart fr ⟨pos, before, rest⟩).takeWhile (fun w => !p.accepts w) =
      p.withStart fr ⟨pos, before, rest⟩ :=
    List.takeWhile_eq_self_iff.2 fun w hw => by simp [h w hw]
  unfold withStart at hnone hall ⊢
  cases rest with
  | nil =>
    rw [run]
    simp [hnone]
  | cons x xs =>
    rw [run]
    simp [hnone, hall]

theorem run_of_accepts {pos : Nat} {before : Option Char} {rest : List Char} {later : List Way}
    (h : p.withStart fr ⟨pos, before, rest⟩ = w :: later) (hw : p.accepts w = true) :
    p.run none fr pos before rest = some ⟨w, ⟨pos, before, rest⟩⟩ := by
  unfold withStart at h
  cases rest with
  | nil =>
    rw [run]
    simp [h, hw]
  | cons x xs =>
    rw [run]
    simp [h, hw]

end Program
end IncludeScan.Regex
