import IncludeScan.Json.Token
import Mathlib.Data.List.Chain

/-!
Tokens are read back as they were written.

The reader takes one character at a time, so that what a text leads to is put together from what
its parts lead to (`Lexes`). Between two tokens it may still hold an integer, which only the next
character ends (`Between`). That is why two numbers must not stand side by side, and it is all that
is asked of a sequence of tokens that have a value (`tokens?_compact`).
-/

set_option autoImplicit false

namespace IncludeScan.Json

/-! ## Runs of the reader -/

/-- From mode `m` the characters lead to mode `m'` and complete the tokens `ts`. -/
def Lexes (m : Mode) (cs : List Char) (m' : Mode) (ts : List Token) : Prop :=
  ∀ before, cs.foldlM stepAll (m, before) = some (m', ts.reverse ++ before)

namespace Lexes

variable {m m' m'' : Mode} {c : Char} {cs cs' : List Char} {ts ts' last : List Token}

theorem refl (m : Mode) : Lexes m [] m [] := fun _ => rfl

theorem single (h : step m c = some (m', ts)) : Lexes m [c] m' ts := by
  intro before
  rw [List.foldlM_cons, stepAll, h]
  rfl

theorem trans (h : Lexes m cs m' ts) (h' : Lexes m' cs' m'' ts') :
    Lexes m (cs ++ cs') m'' (ts ++ ts') := by
  intro before
  rw [List.foldlM_append, h before, Option.bind_eq_bind, Option.bind_some, h']
  simp

theorem cons (h : step m c = some (m', [])) (h' : Lexes m' cs m'' ts) : Lexes m (c :: cs) m'' ts :=
  (single h).trans h'

theorem tokens? (h : Lexes .ready cs m ts) (hm : m.finish? = some last) :
    tokens? cs = some (ts ++ last) := by
  unfold Json.tokens?
  rw [h [], Option.bind_eq_bind, Option.bind_some]
  simp [hm]

end Lexes

/-! ## Between two tokens -/

def continuesInteger (c : Char) : Bool :=
  c.isDigit || c == '.' || c == 'e' || c == 'E'

/-- The reader stands between two tokens, and the end of the text or the start of another token
completes `ts`. -/
structure Between (m : Mode) (ts : List Token) : Prop where
  finish?_eq : m.finish? = some ts
  step_eq : ∀ c, ts = [] ∨ continuesInteger c = false →
    step m c = (startToken c).map (fun r => (r.1, ts ++ r.2))

theorem between_ready : Between .ready [] := by
  refine ⟨rfl, fun c _ => ?_⟩
  show startToken c = _
  simp

theorem Between.start {m m' : Mode} {p ts : List Token} {c : Char} (h : Between m p)
    (hc : p = [] ∨ continuesInteger c = false) (hs : startToken c = some (m', ts)) :
    step m c = some (m', p ++ ts) := by
  rw [h.step_eq c hc, hs]
  rfl

theorem numberPart?_of_not_continues {part : NumberPart} {c : Char}
    (hpart : part = .zero ∨ part = .digits) (hc : continuesInteger c = false) :
    numberPart? part c = none := by
  simp only [continuesInteger, Bool.or_eq_false_iff] at hc
  obtain ⟨⟨⟨hdigit, hpoint⟩, he⟩, hE⟩ := hc
  rcases hpart with rfl | rfl
  · simp [numberPart?, hpoint, he, hE]
  · simp [numberPart?, hdigit, hpoint, he, hE]

theorem between_number {part : NumberPart} {negative : Bool} {value : Nat} {t : Token}
    (hpart : part = .zero ∨ part = .digits) (ht : numberToken? part negative value = some t) :
    Between (.number part negative value) [t] := by
  refine ⟨by simp [Mode.finish?, ht], fun c hc => ?_⟩
  have hnone := numberPart?_of_not_continues hpart (hc.resolve_left (List.cons_ne_nil t []))
  simp only [step, hnone, ht]
  cases startToken c with
  | none => rfl
  | some r => rfl

/-! ## Words -/

theorem lexes_word (t : Token) {w : List Char} (hw : w ≠ []) : Lexes (.word w t) w .ready [t] := by
  induction w with
  | nil => exact absurd rfl hw
  | cons c w ih =>
    cases w with
    | nil => exact .single (by simp [step])
    | cons d w =>
      have hstep : step (.word (c :: d :: w) t) c = some (.word (d :: w) t, []) := by simp [step]
      exact .cons hstep (ih (List.cons_ne_nil d w))

/-! ## Strings -/

theorem hexValue?_hexDigit : ∀ n < 16, hexValue? (hexDigit n) = some n := by
  decide

theorem step_backslash (s : OpenString) : step (.string s) '\\' = some (.escape s, []) := rfl

theorem step_unicode (s : OpenString) : step (.escape s) 'u' = some (.unit s 0 0, []) := rfl

/-- A control character is written with four digits, the first two of which are zeros. -/
theorem lexes_controlEscape (cs : List Char) {c : Char} (hc : c.toNat < 0x20) :
    Lexes (.string ⟨cs, none, true⟩)
      ['\\', 'u', '0', '0', hexDigit (c.toNat / 16), hexDigit (c.toNat % 16)]
      (.string ⟨c :: cs, none, true⟩) [] := by
  have hhigh := hexValue?_hexDigit (c.toNat / 16) (by omega)
  have hlow := hexValue?_hexDigit (c.toNat % 16) (by omega)
  have hvalue : 16 * (16 * (16 * (16 * 0 + 0) + 0) + c.toNat / 16) + c.toNat % 16 = c.toNat := by
    omega
  have hzero : hexValue? '0' = some 0 := by decide
  have hunit : OpenString.pushUnit ⟨cs, none, true⟩ c.toNat = ⟨c :: cs, none, true⟩ := by
    have hhalf : ¬ (0xD800 ≤ c.toNat ∧ c.toNat < 0xDC00) := by omega
    have hhalf' : ¬ (0xDC00 ≤ c.toNat ∧ c.toNat < 0xE000) := by omega
    simp only [OpenString.pushUnit, if_neg hhalf, if_neg hhalf', Char.ofNat_toNat]
  have hfirst : step (.unit ⟨cs, none, true⟩ 0 0) '0' =
      some (.unit ⟨cs, none, true⟩ 1 (16 * 0 + 0), []) := by
    simp [step, hzero]
  have hsecond : step (.unit ⟨cs, none, true⟩ 1 (16 * 0 + 0)) '0' =
      some (.unit ⟨cs, none, true⟩ 2 (16 * (16 * 0 + 0) + 0), []) := by
    simp [step, hzero]
  have hthird : step (.unit ⟨cs, none, true⟩ 2 (16 * (16 * 0 + 0) + 0)) (hexDigit (c.toNat / 16)) =
      some (.unit ⟨cs, none, true⟩ 3 (16 * (16 * (16 * 0 + 0) + 0) + c.toNat / 16), []) := by
    simp [step, hhigh]
  refine .cons (step_backslash _) (.cons (step_unicode _) (.cons hfirst (.cons hsecond ?_)))
  refine .cons hthird (.single ?_)
  simp only [step, hlow, Option.map_some, if_true, hvalue, hunit]

theorem lexes_escapeChar (cs : List Char) (c : Char) :
    Lexes (.string ⟨cs, none, true⟩) (escapeChar c) (.string ⟨c :: cs, none, true⟩) [] := by
  have hshort : ∀ d, d ≠ 'u' → shortEscape? d = some c →
      Lexes (.string ⟨cs, none, true⟩) ['\\', d] (.string ⟨c :: cs, none, true⟩) [] := by
    intro d hd hc
    refine .cons (step_backslash _) (.single ?_)
    simp [step, hd, hc, OpenString.push]
  unfold escapeChar
  split
  · exact hshort '"' (by decide) rfl
  · exact hshort '\\' (by decide) rfl
  · exact hshort 'b' (by decide) rfl
  · exact hshort 'f' (by decide) rfl
  · exact hshort 'n' (by decide) rfl
  · exact hshort 'r' (by decide) rfl
  · exact hshort 't' (by decide) rfl
  · next hquote hslash _ _ _ _ _ =>
    split
    · next hc => exact lexes_controlEscape cs hc
    · next hc =>
      refine .single ?_
      rw [step, if_neg hquote, if_neg hslash, if_neg hc]
      rfl

theorem lexes_flatMap_escapeChar (s cs : List Char) :
    Lexes (.string ⟨cs, none, true⟩) (s.flatMap escapeChar) (.string ⟨s.reverse ++ cs, none, true⟩)
      [] := by
  induction s generalizing cs with
  | nil => exact .refl _
  | cons c s ih =>
    have h := (lexes_escapeChar cs c).trans (ih (c :: cs))
    simpa using h

theorem lexes_quoted (s : String) :
    Lexes (.string .start) (s.toList.flatMap escapeChar ++ ['"']) .ready [.str (some s)] := by
  refine (lexes_flatMap_escapeChar s.toList []).trans (.single ?_)
  simp [step, OpenString.token]

/-! ## Integers -/

theorem startToken_digitChar : ∀ d < 10, 0 < d →
    startToken (Nat.digitChar d) = some (.number .digits false d, []) := by
  decide

theorem step_minus_digitChar : ∀ d < 10, 0 < d →
    step (.number .minus true 0) (Nat.digitChar d) = some (.number .digits true d, []) := by
  decide

theorem step_digits_digitChar (negative : Bool) (value : Nat) {d : Nat} (hd : d < 10) :
    step (.number .digits negative value) (Nat.digitChar d) =
      some (.number .digits negative (10 * value + d), []) := by
  have hdigit : (Nat.digitChar d).isDigit = true := by
    rw [Nat.isDigit_digitChar, decide_eq_true hd]
  simp [step, numberPart?, hdigit, Nat.toNat_digitChar_sub_48_of_lt_ten hd]

/-- The digits of a positive number, once its first digit is read as such. -/
theorem lexes_toDigits {m : Mode} {negative : Bool}
    (hstart : ∀ d < 10, 0 < d →
      step m (Nat.digitChar d) = some (.number .digits negative d, [])) {n : Nat} (hn : 0 < n) :
    Lexes m (Nat.toDigits 10 n) (.number .digits negative n) [] := by
  induction n using Nat.strongRecOn with
  | ind n ih =>
    rcases Nat.lt_or_ge n 10 with hlt | hge
    · rw [Nat.toDigits_of_lt_base hlt]
      exact .single (hstart n hlt hn)
    · rw [Nat.toDigits_of_base_le (by omega) hge]
      have hfront := ih (n / 10) (by omega) (by omega)
      have hlast := step_digits_digitChar negative (n / 10) (Nat.mod_lt n (by omega : 0 < 10))
      rw [Nat.div_add_mod] at hlast
      exact hfront.trans (.single hlast)

theorem exists_lexes_decimal {m : Mode} (h : Between m []) (n : Int) :
    ∃ m', Lexes m (decimal n) m' [] ∧ Between m' [.num (.int n)] := by
  have hstart : ∀ {c m' ts}, startToken c = some (m', ts) → step m c = some (m', ts) :=
    fun hs => h.start (.inl rfl) hs
  unfold decimal
  rcases Int.lt_trichotomy n 0 with hneg | rfl | hpos
  · rw [if_pos hneg]
    have hdigits := lexes_toDigits step_minus_digitChar (n := n.natAbs) (by omega)
    refine ⟨.number .digits true n.natAbs, .cons (hstart rfl) hdigits, between_number (.inr rfl) ?_⟩
    have hvalue : -(n.natAbs : Int) = n := by omega
    simp only [numberToken?, if_true, hvalue]
  · exact ⟨.number .zero false 0, .single (hstart rfl), between_number (.inl rfl) rfl⟩
  · rw [if_neg (by omega)]
    refine ⟨.number .digits false n.natAbs,
      lexes_toDigits (fun d hd hd' => hstart (startToken_digitChar d hd hd')) (by omega),
      between_number (.inr rfl) ?_⟩
    have hvalue : (n.natAbs : Int) = n := by omega
    simp only [numberToken?, Bool.false_eq_true, if_false, hvalue]

/-! ## Sequences of tokens -/

namespace Token

def isNumber : Token → Bool
  | num _ => true
  | _ => false

/-- Whether the token stands for a value of its own, as those that are written do. -/
def hasValue : Token → Bool
  | num .other | str none => false
  | _ => true

end Token

/-- No two numbers stand side by side. -/
def NumbersApart (ts : List Token) : Prop :=
  ts.IsChain (fun a b => a.isNumber = true → b.isNumber = false)

/-- Writing a token and reading it leads from between two tokens to between two tokens. -/
theorem exists_lexes_text {m : Mode} {p : List Token} {t : Token} (h : Between m p)
    (hv : t.hasValue = true) (hp : p = [] ∨ t.isNumber = false) :
    ∃ m' ts p', Lexes m t.text m' ts ∧ Between m' p' ∧ ts ++ p' = p ++ [t] ∧
      (p' = [] ∨ t.isNumber = true) := by
  have hsign : ∀ {c}, continuesInteger c = false → startToken c = some (.ready, [t]) →
      t.text = [c] → ∃ m' ts p', Lexes m t.text m' ts ∧ Between m' p' ∧ ts ++ p' = p ++ [t] ∧
        (p' = [] ∨ t.isNumber = true) := by
    intro c hc hs htext
    rw [htext]
    exact ⟨.ready, _, [], .single (h.start (.inr hc) hs), between_ready, List.append_nil _,
      .inl rfl⟩
  have hlong : ∀ {c m' cs}, continuesInteger c = false → startToken c = some (m', []) →
      Lexes m' cs .ready [t] → t.text = c :: cs →
      ∃ m' ts p', Lexes m t.text m' ts ∧ Between m' p' ∧ ts ++ p' = p ++ [t] ∧
        (p' = [] ∨ t.isNumber = true) := by
    intro c m' cs hc hs hrest htext
    rw [htext]
    have hstart := Lexes.single (h.start (.inr hc) hs)
    exact ⟨.ready, _, [], hstart.trans hrest, between_ready, by simp, .inl rfl⟩
  match t, hv with
  | .openBrace, _ => exact hsign (c := '\x7b') rfl rfl rfl
  | .closeBrace, _ => exact hsign (c := '\x7d') rfl rfl rfl
  | .openBracket, _ => exact hsign (c := '[') rfl rfl rfl
  | .closeBracket, _ => exact hsign (c := ']') rfl rfl rfl
  | .comma, _ => exact hsign (c := ',') rfl rfl rfl
  | .colon, _ => exact hsign (c := ':') rfl rfl rfl
  | .null, _ => exact hlong (c := 'n') rfl rfl (lexes_word .null (by simp)) rfl
  | .bool true, _ => exact hlong (c := 't') rfl rfl (lexes_word (.bool true) (by simp)) rfl
  | .bool false, _ => exact hlong (c := 'f') rfl rfl (lexes_word (.bool false) (by simp)) rfl
  | .str (some s), _ => exact hlong (c := '"') rfl rfl (lexes_quoted s) rfl
  | .num (.int n), _ =>
    obtain rfl : p = [] := hp.resolve_right (by simp [Token.isNumber])
    obtain ⟨m', hlex, hb⟩ := exists_lexes_decimal h n
    exact ⟨m', [], _, hlex, hb, rfl, .inr rfl⟩

theorem exists_lexes_compact {ts : List Token} (hv : ∀ t ∈ ts, t.hasValue = true)
    (happart : NumbersApart ts) {m : Mode} {p : List Token} (h : Between m p)
    (hp : p = [] ∨ ∀ t ∈ ts.head?, t.isNumber = false) :
    ∃ m' done p', Lexes m (compact ts) m' done ∧ Between m' p' ∧ done ++ p' = p ++ ts := by
  induction ts generalizing m p with
  | nil => exact ⟨m, [], p, .refl m, h, by simp⟩
  | cons t ts ih =>
    have hhead : p = [] ∨ t.isNumber = false := hp.imp_right fun hfirst => hfirst t rfl
    obtain ⟨m₁, ts₁, p₁, hlex, hb, heq, hnumber⟩ := exists_lexes_text h (hv t (by simp)) hhead
    -- what is held after the token is the token itself, and then no number follows
    have hp₁ : p₁ = [] ∨ ∀ t' ∈ ts.head?, t'.isNumber = false :=
      hnumber.imp_right fun hn t' ht' => happart.rel_head? ht' hn
    obtain ⟨m₂, ts₂, p₂, hlex', hb', heq'⟩ :=
      ih (fun t' ht' => hv t' (List.mem_cons_of_mem t ht')) happart.tail hb hp₁
    refine ⟨m₂, ts₁ ++ ts₂, p₂, hlex.trans hlex', hb', ?_⟩
    calc ts₁ ++ ts₂ ++ p₂ = ts₁ ++ (p₁ ++ ts) := by rw [List.append_assoc, heq']
      _ = p ++ [t] ++ ts := by rw [← List.append_assoc, heq]
      _ = p ++ t :: ts := by rw [List.append_assoc]; rfl

/-- Tokens that have a value are read back as they were written, if no two numbers stand side by
side. -/
theorem tokens?_compact {ts : List Token} (hv : ∀ t ∈ ts, t.hasValue = true)
    (happart : NumbersApart ts) : tokens? (compact ts) = some ts := by
  obtain ⟨m, done, p, hlex, hb, heq⟩ := exists_lexes_compact hv happart between_ready (.inl rfl)
  rw [hlex.tokens? hb.finish?_eq, heq]
  rfl

end IncludeScan.Json
