import IncludeScan.Json.Value
import IncludeScan.Proofs.Json.Lexing

/-!
Values are read back from the tokens that spell them.

`Spells ts v` says that the tokens `ts` make up the value `v` wherever a value may stand. The lemmas
follow the way in which tokens are put together: single tokens, then arrays and objects of parts
that spell something. The reader never takes two numbers in a row, so such tokens are also read
back from their text (`Spells.parse?_compact`).
-/

set_option autoImplicit false

namespace IncludeScan.Json

/-! ## What the reader takes -/

theorem Reader.expected_complete (frames : List Frame) (v : Value) :
    (Reader.complete frames v).expected = .separator := by
  match frames with
  | [] => rfl
  | .arr _ :: _ => rfl
  | .obj _ _ :: _ => rfl

/-- After a number only a separator or the end of an array or object can come. -/
theorem Reader.expected_step_number {r r' : Reader} {t : Token} (ht : t.isNumber = true)
    (h : Reader.step r t = some r') : r'.expected = .separator := by
  cases t with
  | num n =>
    have hbegin : ∀ {frames}, Reader.begin frames (.num n) = some r' →
        r'.expected = .separator := by
      intro frames h
      rw [← Option.some.inj h]
      exact expected_complete frames _
    unfold Reader.step at h
    cases hr : r.expected with
    | value => exact hbegin (by simpa [hr] using h)
    | itemOrEnd => exact hbegin (by simpa [hr] using h)
    | keyOrEnd => simp [hr, readKey] at h
    | key => simp [hr, readKey] at h
    | colon => simp [hr] at h
    | separator => simp [hr, close] at h
  | _ => cases ht

theorem Reader.not_step_number {r : Reader} {t : Token} (ht : t.isNumber = true)
    (hr : r.expected = .separator) : Reader.step r t = none := by
  cases t with
  | num n => simp [Reader.step, hr, close]
  | _ => cases ht

theorem numbersApart_of_foldlM {ts : List Token} {r r' : Reader}
    (h : ts.foldlM Reader.step r = some r') : NumbersApart ts := by
  induction ts generalizing r with
  | nil => exact .nil
  | cons t ts ih =>
    rw [List.foldlM_cons] at h
    obtain ⟨r₁, hr₁, hrest⟩ := Option.bind_eq_some_iff.1 h
    refine List.IsChain.cons (ih hrest) fun t' ht' hnumber => ?_
    obtain ⟨ts', rfl⟩ := List.head?_eq_some_iff.1 ht'
    have hexpected := Reader.expected_step_number hnumber hr₁
    refine eq_false_of_ne_true fun hnumber' => ?_
    rw [List.foldlM_cons, Reader.not_step_number hnumber' hexpected] at hrest
    cases hrest

/-! ## Tokens that spell a value -/

/-- Where a value is expected, the tokens make up `v`, and each of them can be written. -/
structure Spells (ts : List Token) (v : Value) : Prop where
  foldlM_eq : ∀ frames,
    ts.foldlM Reader.step ⟨frames, .value, none⟩ = some (Reader.complete frames v)
  hasValue : ∀ t ∈ ts, t.hasValue = true

theorem spells_null : Spells [.null] .null :=
  ⟨fun _ => rfl, by simp [Token.hasValue]⟩

theorem spells_strToken (s : String) : Spells (strToken s) (.str (some s)) :=
  ⟨fun _ => rfl, by simp [strToken, Token.hasValue]⟩

theorem spells_intToken (n : Int) : Spells (intToken n) (.num (.int n)) :=
  ⟨fun _ => rfl, by simp [intToken, Token.hasValue]⟩

/-! ## Arrays and objects -/

section Separated

variable {α : Type} {part : α → List Token} {inside : List α → Frame} {next : Expected}
  {frames : List Frame}

/-- Parts with commas between them are read one by one, if each of them is and a comma leads from
one to the next. -/
theorem foldlM_commaSeparated {as : List α} (done : List α) (a : α)
    (hpart : ∀ done, ∀ a' ∈ a :: as,
      (part a').foldlM Reader.step ⟨inside done :: frames, next, none⟩ =
        some ⟨inside (done ++ [a']) :: frames, .separator, none⟩)
    (hcomma : ∀ done, Reader.step ⟨inside done :: frames, .separator, none⟩ .comma =
      some ⟨inside done :: frames, next, none⟩) :
    (commaSeparated ((a :: as).map part)).foldlM Reader.step ⟨inside done :: frames, next, none⟩ =
      some ⟨inside (done ++ a :: as) :: frames, .separator, none⟩ := by
  induction as generalizing a done with
  | nil => exact hpart done a (by simp)
  | cons b as ih =>
    have hfirst := hpart done a (by simp)
    have hrest := ih (done ++ [a]) b (fun done a' ha' => hpart done a' (List.mem_cons_of_mem a ha'))
    have hsplit : commaSeparated ((a :: b :: as).map part) =
        part a ++ .comma :: commaSeparated ((b :: as).map part) := rfl
    rw [hsplit, List.foldlM_append, hfirst, Option.bind_eq_bind, Option.bind_some,
      List.foldlM_cons, hcomma, Option.bind_eq_bind, Option.bind_some, hrest]
    simp

end Separated

theorem mem_commaSeparated {t : Token} {parts : List (List Token)}
    (h : t ∈ commaSeparated parts) : t = .comma ∨ ∃ part ∈ parts, t ∈ part := by
  fun_induction commaSeparated parts with
  | case1 => cases h
  | case2 part => exact .inr ⟨part, by simp, h⟩
  | case3 part parts _ ih =>
    rcases List.mem_append.1 h with hfirst | hrest
    · exact .inr ⟨part, by simp, hfirst⟩
    · rcases List.mem_cons.1 hrest with hcomma | hrest
      · exact .inl hcomma
      · exact (ih hrest).imp_right fun ⟨part', hmem, ht⟩ =>
          ⟨part', List.mem_cons_of_mem part hmem, ht⟩

theorem hasValue_enclosed {first last : Token} {parts : List (List Token)}
    (hfirst : first.hasValue = true) (hlast : last.hasValue = true)
    (h : ∀ part ∈ parts, ∀ t ∈ part, t.hasValue = true) :
    ∀ t ∈ first :: commaSeparated parts ++ [last], t.hasValue = true := by
  intro t ht
  rw [List.cons_append, List.mem_cons, List.mem_append, List.mem_singleton] at ht
  rcases ht with rfl | ht | rfl
  · exact hfirst
  · rcases mem_commaSeparated ht with rfl | ⟨part, hmem, ht⟩
    · rfl
    · exact h part hmem t ht
  · exact hlast

theorem foldlM_enclosed {first last : Token} {ts : List Token} {r r₁ r₂ r₃ : Reader}
    (hfirst : Reader.step r first = some r₁) (hinner : ts.foldlM Reader.step r₁ = some r₂)
    (hlast : Reader.step r₂ last = some r₃) :
    (first :: ts ++ [last]).foldlM Reader.step r = some r₃ := by
  rw [List.cons_append, List.foldlM_cons, hfirst, Option.bind_eq_bind, Option.bind_some,
    List.foldlM_append, hinner, Option.bind_eq_bind, Option.bind_some, List.foldlM_cons, hlast]
  rfl

/-- Where an array or object may also end, its first part is read like the others. -/
theorem foldlM_orEnd {next orEnd : Expected} {ts : List Token} {frames : List Frame} {r : Reader}
    (hnext : next = .value ∧ orEnd = .itemOrEnd ∨ next = .key ∧ orEnd = .keyOrEnd)
    (h : ts.foldlM Reader.step ⟨frames, next, none⟩ = some r) (hr : r.expected = .separator) :
    ts.foldlM Reader.step ⟨frames, orEnd, none⟩ = some r := by
  cases ts with
  | nil =>
    rw [← Option.some.inj h] at hr
    rcases hnext with ⟨rfl, -⟩ | ⟨rfl, -⟩
    · cases hr
    · cases hr
  | cons t ts =>
    have hstep : Reader.step ⟨frames, orEnd, none⟩ t = Reader.step ⟨frames, next, none⟩ t := by
      rcases hnext with ⟨rfl, rfl⟩ | ⟨rfl, rfl⟩
      · have hne : t ≠ .closeBracket := by
          rintro rfl
          cases h
        simp [Reader.step, hne]
      · have hne : t ≠ .closeBrace := by
          rintro rfl
          simp [List.foldlM_cons, Reader.step, Reader.readKey] at h
        simp [Reader.step, hne]
    rw [List.foldlM_cons] at h ⊢
    rw [hstep, h]

theorem spells_arrayTokens {items : List (List Token × Value)}
    (h : ∀ i ∈ items, Spells i.1 i.2) :
    Spells (arrayTokens (items.map (·.1))) (.arr (items.map (·.2))) := by
  constructor
  · intro frames
    cases items with
    | nil => rfl
    | cons i items =>
      let inside : List (List Token × Value) → Frame := fun done => .arr (done.map (·.2)).reverse
      have hpart : ∀ done, ∀ j ∈ i :: items,
          j.1.foldlM Reader.step ⟨inside done :: frames, .value, none⟩ =
            some ⟨inside (done ++ [j]) :: frames, .separator, none⟩ := by
        intro done j hj
        rw [(h j hj).foldlM_eq]
        simp [inside, Reader.complete]
      have hitems := foldlM_orEnd (.inl ⟨rfl, rfl⟩)
        (foldlM_commaSeparated [] i hpart (fun done => rfl)) rfl
      have hend : Reader.step ⟨inside (i :: items) :: frames, .separator, none⟩ .closeBracket =
          some (Reader.complete frames (.arr ((i :: items).map (·.2)))) := by
        simp [inside, Reader.step, Reader.close]
      have hopen : Reader.step ⟨frames, .value, none⟩ .openBracket =
          some ⟨inside [] :: frames, .itemOrEnd, none⟩ := rfl
      exact foldlM_enclosed hopen hitems hend
  · have hparts : ∀ part ∈ items.map (·.1), ∀ t ∈ part, t.hasValue = true := by
      intro part hpart
      obtain ⟨i, hi, rfl⟩ := List.mem_map.1 hpart
      exact (h i hi).hasValue
    exact hasValue_enclosed rfl rfl hparts

structure SpeltField where
  name : String
  tokens : List Token
  value : Value
  spells : Spells tokens value

theorem spells_objectTokens (fields : List SpeltField) :
    Spells (objectTokens (fields.map fun f => (f.name, f.tokens)))
      (.obj (fields.map fun f => (some f.name, f.value))) := by
  let part : SpeltField → List Token := fun f => .str (some f.name) :: .colon :: f.tokens
  have hobject : objectTokens (fields.map fun f => (f.name, f.tokens)) =
      .openBrace :: commaSeparated (fields.map part) ++ [.closeBrace] := by
    rw [objectTokens, List.map_map]
    rfl
  constructor
  · intro frames
    cases fields with
    | nil => rfl
    | cons f fields =>
      let inside : List SpeltField → Frame := fun done =>
        .obj (done.map fun f => (some f.name, f.value)).reverse (done.getLast?.map (·.name))
      have hpart : ∀ done, ∀ g ∈ f :: fields,
          (part g).foldlM Reader.step ⟨inside done :: frames, .key, none⟩ =
            some ⟨inside (done ++ [g]) :: frames, .separator, none⟩ := by
        intro done g _
        have hvalue := g.spells.foldlM_eq (.obj (done.map fun f => (some f.name, f.value)).reverse
          (some g.name) :: frames)
        have hkey : (part g).foldlM Reader.step ⟨inside done :: frames, .key, none⟩ =
            g.tokens.foldlM Reader.step ⟨.obj (done.map fun f => (some f.name, f.value)).reverse
              (some g.name) :: frames, .value, none⟩ := rfl
        rw [hkey, hvalue]
        simp [inside, Reader.complete]
      have hfields := foldlM_orEnd (.inr ⟨rfl, rfl⟩)
        (foldlM_commaSeparated [] f hpart (fun done => rfl)) rfl
      have hend : Reader.step ⟨inside (f :: fields) :: frames, .separator, none⟩ .closeBrace =
          some (Reader.complete frames
            (.obj ((f :: fields).map fun f => (some f.name, f.value)))) := by
        simp [inside, Reader.step, Reader.close]
      have hopen : Reader.step ⟨frames, .value, none⟩ .openBrace =
          some ⟨inside [] :: frames, .keyOrEnd, none⟩ := rfl
      rw [hobject]
      exact foldlM_enclosed hopen hfields hend
  · have hvalues : ∀ p ∈ fields.map part, ∀ t ∈ p, t.hasValue = true := by
      intro p hp
      obtain ⟨f, -, rfl⟩ := List.mem_map.1 hp
      simpa [part, Token.hasValue] using f.spells.hasValue
    rw [hobject]
    exact hasValue_enclosed rfl rfl hvalues

/-! ## The text of a value -/

/-- The text of tokens that spell a value is read as that value. -/
theorem Spells.parse?_compact {ts : List Token} {v : Value} (h : Spells ts v) :
    parse? (compact ts) = some v := by
  have hread := h.foldlM_eq []
  have htokens := tokens?_compact h.hasValue (numbersApart_of_foldlM hread)
  have hvalue : ofTokens? ts = some v := by
    unfold ofTokens?
    rw [show Reader.start = ⟨[], .value, none⟩ from rfl, hread]
    rfl
  unfold parse?
  rw [htokens, Option.bind_eq_bind, Option.bind_some, hvalue]

end IncludeScan.Json
