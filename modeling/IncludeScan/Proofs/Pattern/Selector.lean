import IncludeScan.Pattern
import IncludeScan.Proofs.Regex.Steps
import Mathlib.Data.List.Infix
import Mathlib.Data.List.Permutation
import Mathlib.Tactic.IntervalCases

/-!
The default pattern as a plain scan.

`Selector.arguments` reads a text from left to right: it looks for the leftmost `@selector(` that a
closing bracket follows, takes what stands up to the first such bracket, and goes on after it. The
pattern finds the same. While its program is looking for a literal, at most one way has taken the
start of one, since no other character of `@selector(` is an `@` (`Partway.step`, `run_outside`).
Once a literal is open, its two ways stay in front of all others up to the closing bracket
(`run_inside`).
-/

set_option autoImplicit false

namespace IncludeScan.Regex.Selector

/-! ## A plain scan -/

def opening : List Char := ['@', 's', 'e', 'l', 'e', 'c', 't', 'o', 'r', '(']

def upToClosing? : List Char → Option (List Char × List Char)
  | [] => none
  | x :: xs =>
    if x = ')' then some ([], xs)
    else (upToClosing? xs).map fun (between, rest) => (x :: between, rest)

/-- The argument of the leftmost literal that is closed, and what follows it. -/
def next? : List Char → Option (List Char × List Char)
  | [] => none
  | x :: xs =>
    if opening.isPrefixOf (x :: xs) then
      (upToClosing? ((x :: xs).drop opening.length)).or (next? xs)
    else next? xs

-- an opening inside of a literal belongs to its argument, and one that is not closed is passed over
example : next? "(@selector(a\n@selector(b)@selector(".toList =
    some ("a\n@selector(b".toList, "@selector(".toList) := by
  decide +kernel

theorem upToClosing?_eq_none_iff {text : List Char} : upToClosing? text = none ↔ ')' ∉ text := by
  induction text with
  | nil => simp [upToClosing?]
  | cons x xs ih =>
    by_cases hx : x = ')'
    · simp [upToClosing?, hx]
    · simp [upToClosing?, hx, ih, Ne.symm hx]

theorem length_lt_of_upToClosing? {text between rest : List Char}
    (h : upToClosing? text = some (between, rest)) : rest.length < text.length := by
  induction text generalizing between with
  | nil => cases h
  | cons x xs ih =>
    rw [upToClosing?] at h
    split at h
    · cases h
      simp
    · obtain ⟨found, hfound, heq⟩ := Option.map_eq_some_iff.1 h
      cases heq
      have := ih hfound
      simp only [List.length_cons]
      omega

theorem next?_of_not_mem {text : List Char} (h : ')' ∉ text) : next? text = none := by
  induction text with
  | nil => rfl
  | cons x xs ih =>
    have hrest : next? xs = none := ih fun hmem => h (List.mem_cons_of_mem _ hmem)
    have hclosing : upToClosing? ((x :: xs).drop opening.length) = none :=
      upToClosing?_eq_none_iff.2 fun hmem => h (List.mem_of_mem_drop hmem)
    rw [next?, hclosing, hrest]
    simp

theorem next?_skip {skipped : List Char} (h : '@' ∉ skipped) (rest : List Char) :
    next? (skipped ++ rest) = next? rest := by
  induction skipped with
  | nil => rfl
  | cons x skipped ih =>
    rw [List.mem_cons, not_or] at h
    rw [List.cons_append, next?, if_neg, ih h.2]
    simp [opening, h.1]

theorem next?_opening (rest : List Char) : next? (opening ++ rest) = upToClosing? rest := by
  have hstep : next? (opening ++ rest) =
      (upToClosing? rest).or (next? (opening.tail ++ rest)) := rfl
  rw [hstep]
  cases h : upToClosing? rest with
  | some found => rfl
  | none =>
    have hrest : ')' ∉ rest := upToClosing?_eq_none_iff.1 h
    refine next?_of_not_mem fun hmem => ?_
    rcases List.mem_append.1 hmem with hmem | hmem
    · exact absurd hmem (by decide)
    · exact hrest hmem

/-- A start of a literal that is not continued is passed over: no other literal starts within. -/
theorem next?_broken {k : Nat} (hk : k < 10) {x : Char} (hx : x ≠ opening.get ⟨k, hk⟩)
    (rest : List Char) : next? (opening.take k ++ x :: rest) = next? (x :: rest) := by
  have hprefix : ¬ opening.isPrefixOf (opening.take k ++ x :: rest) = true := by
    rw [List.isPrefixOf_iff_prefix]
    rintro ⟨more, hmore⟩
    have hlength : (opening.take k).length = k := by simp [opening]; omega
    have hget := congrArg (·[k]?) hmore
    simp only [List.getElem?_append_left (show k < opening.length from hk)] at hget
    rw [List.getElem?_append_right hlength.le, hlength, Nat.sub_self, List.getElem?_cons_zero,
      List.getElem?_eq_getElem (show k < opening.length from hk)] at hget
    exact hx (Option.some.inj hget).symm
  cases k with
  | zero => rfl
  | succ k =>
    have htail : '@' ∉ opening.tail.take k := fun hmem =>
      absurd (List.mem_of_mem_take hmem) (by decide)
    have hcons : opening.take (k + 1) ++ x :: rest = '@' :: (opening.tail.take k ++ x :: rest) :=
      rfl
    rw [hcons] at hprefix ⊢
    rw [next?, if_neg hprefix, next?_skip htail]

theorem length_lt_of_next? {text arg rest : List Char} (h : next? text = some (arg, rest)) :
    rest.length < text.length := by
  induction text with
  | nil => cases h
  | cons x xs ih =>
    have hrest : next? xs = some (arg, rest) → rest.length < (x :: xs).length := fun hnext => by
      have := ih hnext
      simp only [List.length_cons]
      omega
    rw [next?] at h
    split at h
    · rw [Option.or_eq_some_iff] at h
      rcases h with hclosing | ⟨-, hnext⟩
      · have := length_lt_of_upToClosing? hclosing
        rw [List.length_drop] at this
        omega
      · exact hrest hnext
    · exact hrest h

def arguments (text : List Char) : List (List Char) :=
  match h : next? text with
  | none => []
  | some (arg, rest) =>
    have := length_lt_of_next? h
    arg :: arguments rest
termination_by text.length

/-! ## The program of the pattern -/

def argumentClass : Class := ⟨[(0, 40), (42, 0x10FFFF)]⟩

def expr : Expr :=
  .cat (.literal opening)
    (.cat (.group 1 (.iter 0 none true (.oneOf argumentClass))) (.literal [')']))

theorem parse_selector : parse TextPattern.selector = some expr := by
  decide +kernel

theorem fits_expr : expr.fits = true := by
  cbv

theorem ofExpr_expr : Matcher.ofExpr expr = ⟨expr.program, true, false, .direct⟩ := by
  decide +kernel

theorem start_program : expr.program.start = 15 := rfl

theorem code_literal {k : Nat} (hk : k < 10) :
    expr.program.code[15 - k]? = some (.take (.single (opening.get ⟨k, hk⟩)) (14 - k)) := by
  interval_cases k <;> rfl

theorem code_accept : expr.program.code[0]? = some .accept := rfl
theorem code_close : expr.program.code[1]? = some (.take (.single ')') 0) := rfl
theorem code_closes : expr.program.code[2]? = some (.note (.closes 1) 1) := rfl
theorem code_loop : expr.program.code[3]? = some (.fork 4 2) := rfl
theorem code_body : expr.program.code[4]? = some (.take argumentClass 3) := rfl
theorem code_opens : expr.program.code[5]? = some (.note (.opens 1) 3) := rfl

theorem contains_single {x y : Char} : (Class.single x).contains y = true ↔ y = x := by
  have hcode : y = x ↔ y.toNat = x.toNat := ⟨congrArg _, fun h => Char.toNat_inj.1 h⟩
  simp only [Class.contains, Class.single, Class.range, Text.inRanges, hcode]
  split
  · simp; omega
  · simp; omega

theorem contains_argumentClass {x : Char} : argumentClass.contains x = true ↔ x ≠ ')' := by
  have hcode : x = ')' ↔ x.toNat = 41 := ⟨congrArg _, fun h => Char.toNat_inj.1 h⟩
  have hvalid : x.toNat.isValidChar := x.valid
  unfold Nat.isValidChar at hvalid
  simp only [Class.contains, argumentClass, Text.inRanges, ne_eq, hcode]
  simp
  omega

theorem endsBy_program : expr.program.EndsBy (.single ')') := by
  unfold Program.EndsBy
  decide +kernel

/-! ## Ways through the program -/

/-- The ways inside a literal that was opened at a place: one for a character more, and one for the
closing bracket here. -/
def inside (start opened here : Cursor) : List Way :=
  [⟨start, 4, [(.opens 1, opened)]⟩, ⟨start, 1, [(.closes 1, here), (.opens 1, opened)]⟩]

theorem atWork_inside (start opened here : Cursor) :
    expr.program.AtWork (inside start opened here) := by
  refine .cons (Program.accepts_eq_false_iff.2 ?_)
    (.cons (Program.accepts_eq_false_iff.2 ?_) Program.atWork_nil)
  · rw [code_body]
    simp
  · rw [code_close]
    simp

theorem contains_meet (fr : Front) (i j : Nat) :
    (fr.meet i).seen.contains j = (i == j || fr.seen.contains j) :=
  Std.HashSet.contains_insert

theorem contains_add (fr : Front) (w : Way) (i : Nat) :
    (fr.add w).seen.contains i = fr.seen.contains i := rfl

theorem contains_empty (i : Nat) : Front.empty.seen.contains i = false :=
  Std.HashSet.contains_empty

theorem follow_loop (start opened here : Cursor) {fr : Front}
    (h : ∀ i ∈ [1, 2, 3, 4], fr.seen.contains i = false) :
    (expr.program.follow here [⟨start, 3, [(.opens 1, opened)]⟩] fr).ways =
      (inside start opened here).reverse ++ fr.ways := by
  simp only [List.forall_mem_cons] at h
  obtain ⟨h1, h2, h3, h4, -⟩ := h
  rw [Program.follow_fork h3 code_loop, Program.follow_take _ code_body,
    Program.follow_note _ code_closes, Program.follow_take _ code_close, Program.follow_nil]
  · rfl
  all_goals simp [contains_meet, contains_add, Way.goto, Way.note, *]

/-! ## Runs of the program -/

def found (m : Match) : Option (List Char) × List Char :=
  (m.group? 1, m.stop.rest)

theorem contains_close_eq_false {x : Char} (h : x ≠ ')') : (Class.single ')').contains x = false :=
  Bool.eq_false_iff.2 fun hcontains => h (contains_single.1 hcontains)

theorem start_not_accept : expr.program.code[expr.program.start]? ≠ some .accept := by
  rw [start_program, code_literal (k := 0) (by omega)]
  simp

theorem atWork_withStart {fr : Front} (h : expr.program.AtWork fr.ways) (here : Cursor) :
    expr.program.AtWork (expr.program.withStart fr here) :=
  Program.atWork_withStart endsBy_program start_not_accept h here

section Inside

variable (start opened here next : Cursor)

theorem foldl_inside_closing :
    ((inside start opened here).foldl (expr.program.takeStep ')' next) .empty).ways =
      [⟨start, 0, [(.closes 1, here), (.opens 1, opened)]⟩] := by
  have hbody : expr.program.takeStep ')' next .empty ⟨start, 4, [(.opens 1, opened)]⟩ = .empty :=
    Program.takeStep_of_not_contains code_body (by decide)
  rw [inside, List.foldl_cons, hbody, List.foldl_cons, List.foldl_nil,
    Program.takeStep_of_contains code_close (by decide),
    Program.follow_accept (contains_empty 0) code_accept, Program.follow_nil]
  rfl

theorem foldl_inside_other {x : Char} (hx : x ≠ ')') :
    ((inside start opened here).foldl (expr.program.takeStep x next) .empty).ways =
      (inside start opened next).reverse := by
  have hbody : expr.program.takeStep x next .empty ⟨start, 4, [(.opens 1, opened)]⟩ =
      expr.program.follow next [⟨start, 3, [(.opens 1, opened)]⟩] .empty :=
    Program.takeStep_of_contains code_body (contains_argumentClass.2 hx)
  rw [inside, List.foldl_cons, hbody, List.foldl_cons, List.foldl_nil,
    Program.takeStep_of_not_contains code_close (contains_close_eq_false hx)]
  have hloop := follow_loop start opened next (fun i _ => contains_empty i)
  rwa [Front.empty, List.append_nil] at hloop

theorem group?_closed (stop : Cursor) :
    Match.group? ⟨⟨start, 0, [(.closes 1, here), (.opens 1, opened)]⟩, stop⟩ 1 =
      some (opened.textTo here) := rfl

end Inside

/-- Inside a literal the run goes on to the first closing bracket, whatever other ways there are
behind. -/
theorem run_inside {start opened : Cursor} {between rest : List Char}
    (hopened : opened.rest = between ++ rest) {fr : Front} {pos : Nat} {before : Option Char}
    (hpos : pos = opened.pos + between.length)
    (hfr : inside start opened ⟨pos, before, rest⟩ <+: fr.ways.reverse)
    (hwork : expr.program.AtWork fr.ways) :
    (expr.program.run none fr pos before rest).map found =
      (upToClosing? rest).map fun r => (some (between ++ r.1), r.2) := by
  induction rest generalizing between fr pos before with
  | nil =>
    rw [Program.run_of_atWork (atWork_withStart hwork _)]
    rfl
  | cons x xs ih =>
    obtain ⟨later, hlater⟩ := hfr.trans (expr.program.prefix_withStart fr ⟨pos, before, x :: xs⟩)
    rw [Program.run_of_atWork (atWork_withStart hwork _)]
    simp only
    rw [← hlater, Program.advance_eq, List.foldl_append]
    by_cases hx : x = ')'
    · subst hx
      have hend := expr.program.suffix_foldl_takeStep ')' ⟨pos + 1, some ')', xs⟩ later
        ((inside start opened ⟨pos, before, ')' :: xs⟩).foldl
          (expr.program.takeStep ')' ⟨pos + 1, some ')', xs⟩) .empty)
      rw [foldl_inside_closing] at hend
      obtain ⟨others, hothers⟩ := (List.reverse_prefix.2 hend).trans
        (expr.program.prefix_withStart _ ⟨pos + 1, some ')', xs⟩)
      rw [Program.run_of_accepts hothers.symm (by simp [Program.accepts, code_accept])]
      simp [found, group?_closed, Cursor.textTo, hopened, hpos, upToClosing?]
    · have hnext := expr.program.suffix_foldl_takeStep x ⟨pos + 1, some x, xs⟩ later
        ((inside start opened ⟨pos, before, x :: xs⟩).foldl
          (expr.program.takeStep x ⟨pos + 1, some x, xs⟩) .empty)
      rw [foldl_inside_other _ _ _ _ hx] at hnext
      have hbetween : opened.rest = (between ++ [x]) ++ xs := by simp [hopened]
      rw [ih hbetween (by simp; omega)]
      · simp [upToClosing?, hx, Function.comp_def]
      · simpa using List.reverse_prefix.2 hnext
      · rw [← List.foldl_append]
        exact Program.atWork_foldl_takeStep endsBy_program (contains_close_eq_false hx) _
          Program.atWork_nil

/-- The run is in no literal, and the last characters are the first `k` of one that starts at a
place. -/
structure Partway (fr : Front) (start : Cursor) (k : Nat) (rest : List Char) : Prop where
  lt : k < 10
  ways_eq : fr.ways = if k = 0 then [] else [⟨start, 15 - k, []⟩]
  seen : fr.seen.contains 15 = false
  rest_eq : start.rest = opening.take k ++ rest

theorem takeStep_literal {k : Nat} (hk : k < 10) (x : Char) (start next : Cursor) (fr : Front) :
    expr.program.takeStep x next fr ⟨start, 15 - k, []⟩ =
      if x = opening.get ⟨k, hk⟩ then expr.program.follow next [⟨start, 14 - k, []⟩] fr
      else fr := by
  split
  · next hx => exact Program.takeStep_of_contains (code_literal hk) (contains_single.2 hx)
  · next hx =>
    refine Program.takeStep_of_not_contains (code_literal hk) ?_
    exact Bool.eq_false_iff.2 fun hcontains => hx (contains_single.1 hcontains)

theorem follow_literal {k : Nat} (hk : k + 1 < 10) (start next : Cursor) :
    expr.program.follow next [⟨start, 14 - k, []⟩] .empty =
      (Front.empty.meet (14 - k)).add ⟨start, 14 - k, []⟩ := by
  have hcode := code_literal hk
  rw [show 15 - (k + 1) = 14 - k by omega] at hcode
  rw [Program.follow_take (contains_empty _) hcode, Program.follow_nil]

theorem partway_literal {k : Nat} (hk : k + 1 < 10) {start : Cursor} {rest : List Char}
    (hrest : start.rest = opening.take (k + 1) ++ rest) :
    Partway ((Front.empty.meet (14 - k)).add ⟨start, 14 - k, []⟩) start (k + 1) rest where
  lt := hk
  ways_eq := by
    rw [if_neg (by omega), show 15 - (k + 1) = 14 - k by omega]
    rfl
  seen := by
    rw [contains_add, contains_meet, contains_empty]
    simp
    omega
  rest_eq := hrest

theorem exists_partway_takeStep (x : Char) (xs : List Char) (pos : Nat) (before : Option Char) :
    ∃ start k, Partway (expr.program.takeStep x ⟨pos + 1, some x, xs⟩ .empty
        ⟨⟨pos, before, x :: xs⟩, 15, []⟩) start k xs ∧
      next? start.rest = next? (x :: xs) := by
  have hstep := takeStep_literal (k := 0) (by omega) x ⟨pos, before, x :: xs⟩
    ⟨pos + 1, some x, xs⟩ .empty
  simp only [Nat.sub_zero] at hstep
  rw [hstep]
  split
  · next hx =>
    refine ⟨⟨pos, before, x :: xs⟩, 1, ?_, rfl⟩
    rw [follow_literal (k := 0) (by omega)]
    exact partway_literal (k := 0) (by omega) (by rw [hx]; rfl)
  · next hx =>
    have hskip : '@' ∉ [x] := fun hmem => hx (List.mem_singleton.1 hmem).symm
    exact ⟨⟨pos + 1, some x, xs⟩, 0, ⟨by omega, rfl, contains_empty 15, rfl⟩,
      (next?_skip hskip xs).symm⟩

theorem withStart_eq {fr : Front} (h : fr.seen.contains 15 = false) (here : Cursor) :
    expr.program.withStart fr here = fr.ways.reverse ++ [⟨here, 15, []⟩] := by
  rw [Program.withStart, start_program, Program.follow_take h (code_literal (k := 0) (by omega)),
    Program.follow_nil]
  simp [Front.add, Front.meet]

theorem takeStep_start_of_ne {x : Char} (hx : x ≠ '@') (here next : Cursor) (fr : Front) :
    expr.program.takeStep x next fr ⟨here, 15, []⟩ = fr := by
  have hne : ¬ x = opening.get ⟨0, by decide⟩ := hx
  exact (takeStep_literal (k := 0) (by omega) x here next fr).trans (if_neg hne)

theorem opening_get_ne {k : Nat} (hk : k < 10) (hpos : k ≠ 0) : opening.get ⟨k, hk⟩ ≠ '@' := by
  have hall : ∀ i : Fin opening.length, i.val ≠ 0 → opening.get i ≠ '@' := by decide
  exact hall ⟨k, hk⟩ hpos

theorem ways_follow_opens (start next : Cursor) :
    (expr.program.follow next [⟨start, 5, []⟩] .empty).ways = (inside start next next).reverse := by
  rw [Program.follow_note (contains_empty 5) code_opens]
  have hseen : ∀ i ∈ [1, 2, 3, 4], (Front.empty.meet 5).seen.contains i = false := by
    simp [contains_meet, contains_empty]
  have hloop := follow_loop start next next hseen
  rwa [Front.meet, Front.empty, List.append_nil] at hloop

/-- One character more, outside of literals: the same literal is to be looked for, or it has been
opened. -/
theorem Partway.step {fr : Front} {start : Cursor} {k : Nat} {x : Char} {xs : List Char}
    (h : Partway fr start k (x :: xs)) (pos : Nat) (before : Option Char) :
    (∃ start' k', Partway (expr.program.advance x ⟨pos + 1, some x, xs⟩
          (expr.program.withStart fr ⟨pos, before, x :: xs⟩)) start' k' xs ∧
        next? start'.rest = next? start.rest) ∨
      next? start.rest = upToClosing? xs ∧
        (expr.program.advance x ⟨pos + 1, some x, xs⟩
          (expr.program.withStart fr ⟨pos, before, x :: xs⟩)).ways =
            (inside start ⟨pos + 1, some x, xs⟩ ⟨pos + 1, some x, xs⟩).reverse := by
  have hk := h.lt
  rw [withStart_eq h.seen, h.ways_eq, h.rest_eq, Program.advance_eq]
  by_cases hzero : k = 0
  · subst hzero
    exact .inl (exists_partway_takeStep x xs pos before)
  rw [if_neg hzero, List.reverse_singleton, List.singleton_append, List.foldl_cons, List.foldl_cons,
    List.foldl_nil, takeStep_literal hk]
  by_cases hx : x = opening.get ⟨k, hk⟩
  · have htake : opening.take k ++ x :: xs = opening.take (k + 1) ++ xs := by
      rw [List.take_succ_eq_append_getElem hk, hx, List.append_assoc]
      rfl
    rw [if_pos hx, takeStep_start_of_ne (hx ▸ opening_get_ne hk hzero), htake]
    by_cases hlast : k + 1 < 10
    · rw [follow_literal hlast]
      have hrest : start.rest = opening.take (k + 1) ++ xs := h.rest_eq.trans htake
      exact .inl ⟨start, k + 1, partway_literal hlast hrest, by rw [hrest]⟩
    · obtain rfl : k = 9 := by omega
      exact .inr ⟨next?_opening xs, ways_follow_opens start _⟩
  · rw [if_neg hx, next?_broken hk hx]
    exact .inl (exists_partway_takeStep x xs pos before)

theorem Partway.atWork {fr : Front} {start : Cursor} {k : Nat} {rest : List Char}
    (h : Partway fr start k rest) : expr.program.AtWork fr.ways := by
  rw [h.ways_eq]
  split
  · exact Program.atWork_nil
  · intro w hw
    rw [List.mem_singleton.1 hw, Program.accepts_eq_false_iff, code_literal h.lt]
    simp

/-- Outside of literals the run comes to the argument of the next literal that is closed. -/
theorem run_outside {fr : Front} {start : Cursor} {k : Nat} {rest : List Char}
    (h : Partway fr start k rest) (pos : Nat) (before : Option Char) :
    (expr.program.run none fr pos before rest).map found =
      (next? start.rest).map fun r => (some r.1, r.2) := by
  induction rest generalizing fr start k pos before with
  | nil =>
    have hnone : next? start.rest = none := by
      refine next?_of_not_mem ?_
      rw [h.rest_eq, List.append_nil]
      exact fun hmem => absurd (List.mem_of_mem_take hmem) (by decide)
    rw [hnone, Program.run_of_atWork (atWork_withStart h.atWork _)]
    rfl
  | cons x xs ih =>
    rw [Program.run_of_atWork (atWork_withStart h.atWork _)]
    rcases h.step pos before with ⟨start', k', hstep, hnext⟩ | ⟨hnext, hways⟩
    · rw [← hnext]
      exact ih hstep (pos + 1) (some x)
    · rw [hnext]
      have hopened : (⟨pos + 1, some x, xs⟩ : Cursor).rest = [] ++ xs := rfl
      have hprefix : inside start ⟨pos + 1, some x, xs⟩ ⟨pos + 1, some x, xs⟩ <+:
          (expr.program.advance x ⟨pos + 1, some x, xs⟩
            (expr.program.withStart fr ⟨pos, before, x :: xs⟩)).ways.reverse := by
        rw [hways, List.reverse_reverse]
      refine run_inside hopened rfl hprefix ?_
      rw [hways]
      exact fun w hw => atWork_inside _ _ _ w (List.mem_reverse.1 hw)

theorem find?_eq (pos : Nat) (before : Option Char) (text : List Char) :
    (expr.program.find? ⟨pos, before, text⟩).map found =
      (next? text).map fun r => (some r.1, r.2) := by
  have hstart : Partway .empty ⟨pos, before, text⟩ 0 text :=
    ⟨by omega, rfl, contains_empty 15, rfl⟩
  exact run_outside hstart pos before

/-! ## All matches -/

def matcher : Matcher := ⟨expr.program, true, false, .direct⟩

theorem arguments_of_none {text : List Char} (h : next? text = none) : arguments text = [] := by
  rw [arguments]
  split
  · rfl
  · next hsome => simp [h] at hsome

theorem arguments_of_some {text arg rest : List Char} (h : next? text = some (arg, rest)) :
    arguments text = arg :: arguments rest := by
  rw [arguments]
  split
  · next hnone => simp [h] at hnone
  · next hsome =>
    cases hsome.symm.trans h
    rfl

theorem map_nameOf_matchesFrom (pos : Nat) (before : Option Char) (text : List Char)
    (afterMatch : Bool) :
    (matcher.matchesFrom pos before text afterMatch).map TextPattern.nameOf =
      (arguments text).map Text.trim := by
  induction hn : text.length using Nat.strong_induction_on
    generalizing pos before text afterMatch with
  | _ n ih =>
    have hfind := find?_eq pos before text
    have hplan : matcher.find? ⟨pos, before, text⟩ = expr.program.find? ⟨pos, before, text⟩ := rfl
    unfold Matcher.matchesFrom
    rw [hplan]
    cases hnext : next? text with
    | none =>
      rw [hnext, Option.map_none, Option.map_eq_none_iff] at hfind
      rw [hfind, arguments_of_none hnext]
      rfl
    | some r =>
      obtain ⟨arg, rest⟩ := r
      rw [hnext, Option.map_some, Option.map_eq_some_iff] at hfind
      obtain ⟨m, hm, hfound⟩ := hfind
      have hname : TextPattern.nameOf m = Text.trim arg := by
        rw [TextPattern.nameOf, show m.group? 1 = some arg from congrArg Prod.fst hfound]
        rfl
      have hrest : m.stop.rest = rest := congrArg Prod.snd hfound
      have hlt := length_lt_of_next? hnext
      rw [hm, arguments_of_some hnext]
      simp only [hrest]
      rw [if_pos hlt, List.map_cons, List.map_cons, hname, ih rest.length (hn ▸ hlt) _ _ _ _ rfl]

/-- The names that the plain scan finds: the arguments without blanks at their ends, as far as
something is left. -/
def names (text : String) : List String :=
  (((arguments text.toList).map Text.trim).filter (!·.isEmpty)).map String.ofList

end IncludeScan.Regex.Selector

namespace IncludeScan.TextPattern

open Regex

theorem compile_selector : compile selector = .ok ⟨selector, Selector.matcher⟩ := by
  have hcompile : Regex.compile selector = .ok (.ofExpr Selector.expr) := by
    rw [Regex.compile, Selector.parse_selector]
    simp [Selector.fits_expr]
  rw [compile, hcompile, Selector.ofExpr_expr]
  rfl

/-- The default pattern finds in every text what the plain scan finds. -/
theorem selector_names_eq_plain_scan (text : String) :
    (compile selector).map (·.names text) = .ok (Selector.names text) := by
  have hnames : (Selector.matcher.allMatches text.toList).map nameOf =
      (Selector.arguments text.toList).map Text.trim :=
    Selector.map_nameOf_matchesFrom 0 none text.toList false
  rw [compile_selector]
  simp only [Except.map, TextPattern.names, Selector.names, hnames]

end IncludeScan.TextPattern
