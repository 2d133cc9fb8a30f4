import SttBench.Core.Ascii

/-!
# The JSON grammar

RFC 8259 on bytes: a text, the value at its beginning, and what is left behind it.
-/

namespace Json

open Ascii List

inductive Value
  | Null
  | Bool (b : Bool)
  | Number (text : Bytes)
  | String (s : Bytes)
  | Array (elements : List Value)
  | Object (members : List (Bytes × Value))

/-! ## The rules -/

def isWs (c : UInt8) : Bool := c = 32 || c = 9 || c = 10 || c = 13

inductive Ws : Bytes → Bytes → Prop
  | refl (t : Bytes) : Ws t t
  | skip {c : UInt8} {t rest : Bytes} (hc : isWs c) (h : Ws t rest) : Ws (c :: t) rest

def IsDigits (t : Bytes) : Prop := t ≠ [] ∧ ∀ c ∈ t, isDigit c

def IsInt (t : Bytes) : Prop := t = [48] ∨ IsDigits t ∧ t.head? ≠ some 48

def IsFrac (t : Bytes) : Prop := t = [] ∨ ∃ ds, t = 46 :: ds ∧ IsDigits ds

def IsExp (t : Bytes) : Prop :=
  t = [] ∨ ∃ e sign ds, t = e :: (sign ++ ds) ∧ (e = 101 ∨ e = 69) ∧
    (sign = [] ∨ sign = [43] ∨ sign = [45]) ∧ IsDigits ds

def IsNumber (t : Bytes) : Prop :=
  ∃ minus int frac exp, t = minus ++ (int ++ (frac ++ exp)) ∧ (minus = [] ∨ minus = [45]) ∧
    IsInt int ∧ IsFrac frac ∧ IsExp exp

def signedDecimal (t : Bytes) : ℤ :=
  (if t.head? = some 45 then -1 else 1) * decimal (t.filter isDigit)

def numberValue (t : Bytes) : ℚ :=
  let mantissa := t.takeWhile fun c => lower c ≠ 101
  let places := (mantissa.dropWhile (· ≠ 46)).tail.length
  signedDecimal mantissa *
    10 ^ (signedDecimal (t.dropWhile fun c => lower c ≠ 101).tail - places)

def isPlain (c : UInt8) : Bool := 32 ≤ c && c ≠ 34 && c ≠ 92

def escaped (c : UInt8) : Option UInt8 :=
  match c with
  | 34 => some 34
  | 92 => some 92
  | 47 => some 47
  | 98 => some 8
  | 102 => some 12
  | 110 => some 10
  | 114 => some 13
  | 116 => some 9
  | _ => none

def hexDigit (c : UInt8) : Option ℕ :=
  if isDigit c then some (c.toNat - 48)
  else if 97 ≤ lower c && lower c ≤ 102 then some ((lower c).toNat - 87) else none

def hex4 (a b c d : UInt8) : Option ℕ := do
  let a ← hexDigit a
  let b ← hexDigit b
  let c ← hexDigit c
  let d ← hexDigit d
  pure (((a * 16 + b) * 16 + c) * 16 + d)

def utf8 (u : ℕ) : Bytes := bytes (String.singleton (Char.ofNat u))

inductive Chars : Bytes → Bytes → Bytes → Prop
  | close (rest : Bytes) : Chars (34 :: rest) [] rest
  | plain {c : UInt8} {t s rest : Bytes} (hc : isPlain c) (h : Chars t s rest) :
      Chars (c :: t) (c :: s) rest
  | escape {e c : UInt8} {t s rest : Bytes} (he : escaped e = some c) (h : Chars t s rest) :
      Chars (92 :: e :: t) (c :: s) rest
  | unicode {a b c d : UInt8} {u : ℕ} {t s rest : Bytes} (hu : hex4 a b c d = some u)
      (hchar : u < 0xD800 ∨ 0xE000 ≤ u) (h : Chars t s rest) :
      Chars (92 :: 117 :: a :: b :: c :: d :: t) (utf8 u ++ s) rest
  | surrogates {a b c d a' b' c' d' : UInt8} {u u' : ℕ} {t s rest : Bytes}
      (hu : hex4 a b c d = some u) (hhigh : 0xD800 ≤ u ∧ u < 0xDC00)
      (hu' : hex4 a' b' c' d' = some u') (hlow : 0xDC00 ≤ u' ∧ u' < 0xE000) (h : Chars t s rest) :
      Chars (92 :: 117 :: a :: b :: c :: d :: 92 :: 117 :: a' :: b' :: c' :: d' :: t)
        (utf8 (0x10000 + (u - 0xD800) * 0x400 + (u' - 0xDC00)) ++ s) rest

mutual

inductive Derives : Bytes → Value → Bytes → Prop
  | nullLit (rest : Bytes) : Derives (bytes "null" ++ rest) .Null rest
  | trueLit (rest : Bytes) : Derives (bytes "true" ++ rest) (.Bool true) rest
  | falseLit (rest : Bytes) : Derives (bytes "false" ++ rest) (.Bool false) rest
  | number {t : Bytes} (rest : Bytes) (h : IsNumber t) : Derives (t ++ rest) (.Number t) rest
  | string {t s rest : Bytes} (h : Chars t s rest) : Derives (34 :: t) (.String s) rest
  | emptyArray {t rest : Bytes} (h : Ws t (93 :: rest)) : Derives (91 :: t) (.Array []) rest
  | array {t rest : Bytes} {vs : List Value} (h : Elements t vs rest) :
      Derives (91 :: t) (.Array vs) rest
  | emptyObject {t rest : Bytes} (h : Ws t (125 :: rest)) : Derives (123 :: t) (.Object []) rest
  | object {t rest : Bytes} {ms : List (Bytes × Value)} (h : Members t ms rest) :
      Derives (123 :: t) (.Object ms) rest

inductive Elements : Bytes → List Value → Bytes → Prop
  | last {t t₁ t₂ rest : Bytes} {v : Value} (hws : Ws t t₁) (h : Derives t₁ v t₂)
      (hend : Ws t₂ (93 :: rest)) : Elements t [v] rest
  | more {t t₁ t₂ t₃ rest : Bytes} {v : Value} {vs : List Value} (hws : Ws t t₁)
      (h : Derives t₁ v t₂) (hend : Ws t₂ (44 :: t₃)) (hmore : Elements t₃ vs rest) :
      Elements t (v :: vs) rest

inductive Members : Bytes → List (Bytes × Value) → Bytes → Prop
  | last {t t₁ t₂ t₃ t₄ t₅ rest key : Bytes} {v : Value} (hws : Ws t (34 :: t₁))
      (hkey : Chars t₁ key t₂) (hcolon : Ws t₂ (58 :: t₃)) (hws' : Ws t₃ t₄)
      (h : Derives t₄ v t₅) (hend : Ws t₅ (125 :: rest)) : Members t [(key, v)] rest
  | more {t t₁ t₂ t₃ t₄ t₅ t₆ rest key : Bytes} {v : Value} {ms : List (Bytes × Value)}
      (hws : Ws t (34 :: t₁)) (hkey : Chars t₁ key t₂) (hcolon : Ws t₂ (58 :: t₃))
      (hws' : Ws t₃ t₄) (h : Derives t₄ v t₅) (hend : Ws t₅ (44 :: t₆))
      (hmore : Members t₆ ms rest) : Members t ((key, v) :: ms) rest

end

def Text (t : Bytes) (v : Value) : Prop := ∃ t₁ t₂, Ws t t₁ ∧ Derives t₁ v t₂ ∧ Ws t₂ []

/-! ## Reading the rules backwards -/

variable {c d : UInt8} {t t' s s' rest rest' key : Bytes} {v : Value}

lemma Ws.eq_of_not_isWs (hc : isWs c = false) (h : Ws (c :: t) t') : t' = c :: t := by
  cases h with
  | refl => rfl
  | skip hws => cases hc.symm.trans hws

lemma Ws.head?_eq (h : Ws t (d :: t')) : ∃ c, t.head? = some c ∧ (isWs c = true ∨ c = d) := by
  cases h with
  | refl => exact ⟨d, rfl, .inr rfl⟩
  | skip hws _ => exact ⟨_, rfl, .inl hws⟩

lemma chars_append_iff (hquote : 34 ∉ s) (hslash : 92 ∉ s) :
    Chars (s ++ 34 :: rest) s' rest' ↔ (∀ c ∈ s, 32 ≤ c) ∧ s' = s ∧ rest' = rest := by
  induction s generalizing s' with
  | nil =>
    constructor
    · intro h
      cases h with
      | close => exact ⟨by simp, rfl, rfl⟩
      | plain hc => exact absurd hc (by decide)
    · rintro ⟨-, rfl, rfl⟩
      exact .close _
  | cons c s ih =>
    rw [mem_cons, not_or] at hquote hslash
    have ih := fun {s'} => @ih s' hquote.2 hslash.2
    constructor
    · intro h
      rw [cons_append] at h
      generalize htail : s ++ 34 :: rest = tail at h
      cases h with
      | close => exact absurd rfl hquote.1
      | plain hc h =>
        subst htail
        obtain ⟨hall, rfl, rfl⟩ := ih.mp h
        simp only [isPlain, Bool.and_eq_true, decide_eq_true_eq] at hc
        exact ⟨by simpa using ⟨hc.1.1, hall⟩, rfl, rfl⟩
      | escape | unicode | surrogates => exact absurd rfl hslash.1
    · rintro ⟨hall, rfl, rfl⟩
      obtain ⟨hc, hall⟩ := forall_mem_cons.mp hall
      refine .plain ?_ (ih.mpr ⟨hall, rfl, rfl⟩)
      simp [isPlain, hc, Ne.symm hquote.1, Ne.symm hslash.1]

lemma Chars.unique (h : Chars t s rest) (h' : Chars t s' rest') : s' = s ∧ rest' = rest := by
  have hquote : isPlain 34 = false := by decide
  have hslash : isPlain 92 = false := by decide
  have hu : escaped 117 = none := by decide
  induction h generalizing s' with
  | close rest =>
    cases h' with
    | close => exact ⟨rfl, rfl⟩
    | plain hc => cases hquote.symm.trans hc
  | plain hc h ih =>
    cases h' with
    | close => cases hquote.symm.trans hc
    | plain _ h' =>
      obtain ⟨rfl, rfl⟩ := ih h'
      exact ⟨rfl, rfl⟩
    | escape | unicode | surrogates => cases hslash.symm.trans hc
  | escape he h ih =>
    cases h' with
    | plain hc => cases hslash.symm.trans hc
    | escape he' h' =>
      obtain ⟨rfl, rfl⟩ := ih h'
      cases he.symm.trans he'
      exact ⟨rfl, rfl⟩
    | unicode | surrogates => cases hu.symm.trans he
  | unicode hx hchar h ih =>
    cases h' with
    | plain hc => cases hslash.symm.trans hc
    | escape he => cases hu.symm.trans he
    | unicode hx' _ h' =>
      obtain ⟨rfl, rfl⟩ := ih h'
      cases hx.symm.trans hx'
      exact ⟨rfl, rfl⟩
    | surrogates hx' hhigh =>
      cases hx.symm.trans hx'
      omega
  | surrogates hx hhigh hy hlow h ih =>
    cases h' with
    | plain hc => cases hslash.symm.trans hc
    | escape he => cases hu.symm.trans he
    | unicode hx' hchar' =>
      cases hx.symm.trans hx'
      omega
    | surrogates hx' _ hy' _ h' =>
      obtain ⟨rfl, rfl⟩ := ih h'
      cases hx.symm.trans hx'
      cases hy.symm.trans hy'
      exact ⟨rfl, rfl⟩

/-! ## Numbers -/

def isNumberChar (c : UInt8) : Bool :=
  isDigit c || c = 45 || c = 43 || c = 46 || c = 101 || c = 69

lemma isNumberChar_of_isDigit (h : isDigit c = true) : isNumberChar c = true := by
  simp [isNumberChar, h]

lemma IsInt.isDigits (h : IsInt t) : IsDigits t := by
  rcases h with rfl | ⟨h, -⟩
  · exact ⟨by simp, by simp; decide⟩
  · exact h

lemma IsInt.isNumber (h : IsInt t) : IsNumber t :=
  ⟨[], t, [], [], by simp, .inl rfl, h, .inl rfl, .inl rfl⟩

lemma IsNumber.ne_nil (h : IsNumber t) : t ≠ [] := by
  obtain ⟨minus, int, frac, exp, rfl, -, hint, -⟩ := h
  simp [hint.isDigits.1]

lemma IsNumber.isNumberChar (h : IsNumber t) : ∀ c ∈ t, isNumberChar c := by
  obtain ⟨minus, int, frac, exp, rfl, hminus, hint, hfrac, hexp⟩ := h
  have hdigits : ∀ {ds}, IsDigits ds → ∀ c ∈ ds, Json.isNumberChar c :=
    fun h c hc => isNumberChar_of_isDigit (h.2 c hc)
  have hsign : ∀ {sign : Bytes}, sign = [] ∨ sign = [43] ∨ sign = [45] →
      ∀ c ∈ sign, Json.isNumberChar c := by
    rintro _ (rfl | rfl | rfl) <;> decide
  simp only [forall_mem_append]
  refine ⟨?_, hdigits hint.isDigits, ?_, ?_⟩
  · rcases hminus with rfl | rfl <;> decide
  · rcases hfrac with rfl | ⟨ds, rfl, hds⟩
    · simp
    · exact forall_mem_cons.mpr ⟨by decide, hdigits hds⟩
  · rcases hexp with rfl | ⟨e, sign, ds, rfl, he, hs, hds⟩
    · simp
    · refine forall_mem_cons.mpr ⟨?_, forall_mem_append.mpr ⟨hsign hs, hdigits hds⟩⟩
      rcases he with rfl | rfl <;> decide

lemma append_inj_of_run {p : UInt8 → Bool} {a b : Bytes} (ha : ∀ c ∈ a, p c) (hb : ∀ c ∈ b, p c)
    (hs : s.head?.any p = false) (ht : t.head?.any p = false) (h : a ++ s = b ++ t) :
    a = b ∧ s = t := by
  obtain ⟨ha, hs⟩ := span_iff.mpr ⟨rfl, ha, hs⟩
  obtain ⟨hb, ht⟩ := span_iff.mpr ⟨h, hb, ht⟩
  exact ⟨ha.trans hb.symm, hs.trans ht.symm⟩

/-! ## Scalars -/

inductive Scalar
  | Number (text : Bytes)
  | String (s : Bytes)
deriving DecidableEq, Repr

namespace Scalar

def text : Scalar → Bytes
  | .Number t => t
  | .String s => 34 :: (s ++ [34])

def value : Scalar → Value
  | .Number t => .Number t
  | .String s => .String s

def Raw : Scalar → Prop
  | .Number t => t ≠ [] ∧ ∀ c ∈ t, isNumberChar c
  | .String s => 34 ∉ s ∧ 92 ∉ s

def Valid : Scalar → Prop
  | .Number t => IsNumber t
  | .String s => ∀ c ∈ s, 32 ≤ c

end Scalar

variable {x : Scalar}

inductive Begins : UInt8 → Bytes → Value → Bytes → Prop
  | literal {c : UInt8} {t : Bytes} {v : Value} {rest : Bytes} (hc : c ∈ bytes "ntf") :
      Begins c t v rest
  | number {c : UInt8} {t n rest : Bytes} (hc : isNumberChar c = true) (hn : IsNumber n)
      (htext : c :: t = n ++ rest) : Begins c t (.Number n) rest
  | string {t s rest : Bytes} (h : Chars t s rest) : Begins 34 t (.String s) rest
  | array {t : Bytes} {vs : List Value} {rest : Bytes} : Begins 91 t (.Array vs) rest
  | emptyObject {t rest : Bytes} (h : Ws t (125 :: rest)) : Begins 123 t (.Object []) rest
  | object {t : Bytes} {ms : List (Bytes × Value)} {rest : Bytes} (h : Members t ms rest) :
      Begins 123 t (.Object ms) rest

lemma Derives.begins (h : Derives (c :: t) v rest) : Begins c t v rest := by
  generalize htext : c :: t = text at h
  cases h with
  | nullLit | trueLit | falseLit =>
    obtain ⟨rfl, -⟩ := List.cons.inj htext
    exact .literal (by decide)
  | @number n rest hn =>
    obtain ⟨a, n', rfl⟩ := exists_cons_of_ne_nil hn.ne_nil
    obtain ⟨rfl, -⟩ := List.cons.inj htext
    exact .number (hn.isNumberChar c (by simp)) hn htext
  | string h =>
    cases htext
    exact .string h
  | emptyArray | array =>
    cases htext
    exact .array
  | emptyObject h =>
    cases htext
    exact .emptyObject h
  | object h =>
    cases htext
    exact .object h

def isEnd (c : UInt8) : Bool := c = 44 || c = 125

lemma isEnd.not_isWs (h : isEnd c = true) : isWs c = false := by
  simp only [isEnd, Bool.or_eq_true, decide_eq_true_eq] at h
  rcases h with rfl | rfl <;> decide

lemma isEnd.not_isNumberChar (h : isEnd c = true) : isNumberChar c = false := by
  simp only [isEnd, Bool.or_eq_true, decide_eq_true_eq] at h
  rcases h with rfl | rfl <;> decide

lemma isWs.not_isNumberChar (h : isWs c = true) : isNumberChar c = false := by
  simp only [isWs, Bool.or_eq_true, decide_eq_true_eq] at h
  rcases h with ((rfl | rfl) | rfl) | rfl <;> decide

structure Token where
  text : Bytes
  value : Value
  valid : Prop

structure Token.Ok (x : Token) : Prop where
  start : ∃ c t, x.text = c :: t ∧ isWs c = false
  derives : x.valid → ∀ rest, Derives (x.text ++ rest) x.value rest
  inv : ∀ {c d : UInt8} {v : Value} {rest t t' : Bytes}, isEnd c = true → isEnd d = true →
    Derives (x.text ++ c :: rest) v t → Ws t (d :: t') → x.valid ∧ v = x.value ∧ t = c :: rest

def numberToken (t : Bytes) : Token := ⟨t, .Number t, IsNumber t⟩

def quotedToken (body s : Bytes) (valid : Prop) : Token :=
  ⟨34 :: (body ++ [34]), .String s, valid⟩

lemma numberToken_ok (hraw : (Scalar.Number t).Raw) : (numberToken t).Ok := by
  obtain ⟨a, n, rfl⟩ := exists_cons_of_ne_nil hraw.1
  have ha := hraw.2 a (by simp)
  refine ⟨⟨a, n, rfl, ?_⟩, ?_, ?_⟩
  · by_contra hws
    cases ha.symm.trans (isWs.not_isNumberChar (Bool.eq_true_of_not_eq_false hws))
  · exact fun hn rest => .number rest hn
  · intro c d v rest t t' hc hd h hend
    obtain ⟨b, hb, hb'⟩ := hend.head?_eq
    have hstop : isNumberChar b = false := by
      rcases hb' with hws | rfl
      · exact isWs.not_isNumberChar hws
      · exact isEnd.not_isNumberChar hd
    have hbegins : Begins a (n ++ c :: rest) v t := h.begins
    cases hbegins with
    | literal hlit =>
      simp only [show bytes "ntf" = [110, 116, 102] by decide, mem_cons,
        not_mem_nil, or_false] at hlit
      rcases hlit with rfl | rfl | rfl <;> exact absurd ha (by decide)
    | @number _ _ m _ _ hm htext =>
      obtain ⟨rfl, rfl⟩ := append_inj_of_run (s := c :: rest) hraw.2 hm.isNumberChar
        (by simpa using isEnd.not_isNumberChar hc) (by simpa [hb] using hstop) htext
      exact ⟨hm, rfl, rfl⟩
    | string | array | emptyObject | object => exact absurd ha (by decide)

lemma quotedToken_ok {body : Bytes} {valid : Prop}
    (h : ∀ {s' rest rest'}, Chars (body ++ 34 :: rest) s' rest' ↔ valid ∧ s' = s ∧ rest' = rest) :
    (quotedToken body s valid).Ok := by
  have htext : ∀ rest, (quotedToken body s valid).text ++ rest = 34 :: (body ++ 34 :: rest) := by
    simp [quotedToken]
  refine ⟨⟨34, _, rfl, by decide⟩, fun hvalid rest => ?_, ?_⟩
  · rw [htext]
    exact .string (h.mpr ⟨hvalid, rfl, rfl⟩)
  · intro c d v rest t t' _ _ hderives _
    rw [htext] at hderives
    generalize htail : body ++ 34 :: c :: rest = tail at hderives
    cases hderives.begins with
    | literal hlit => exact absurd hlit (by decide)
    | number hnum => exact absurd hnum (by decide)
    | string hchars =>
      subst htail
      obtain ⟨hvalid, rfl, rfl⟩ := h.mp hchars
      exact ⟨hvalid, rfl, rfl⟩

def Scalar.token (x : Scalar) : Token := ⟨x.text, x.value, x.Valid⟩

lemma Scalar.token_ok (hraw : x.Raw) : x.token.Ok := by
  cases x with
  | Number t => exact numberToken_ok hraw
  | String s => exact quotedToken_ok (chars_append_iff hraw.1 hraw.2)

def words : List (Bytes × Value) :=
  [(bytes "null", .Null), (bytes "true", .Bool true), (bytes "false", .Bool false)]

lemma mem_words_iff {w : Bytes × Value} : w ∈ words ↔ w = ([110, 117, 108, 108], .Null) ∨
    w = ([116, 114, 117, 101], .Bool true) ∨ w = ([102, 97, 108, 115, 101], .Bool false) := by
  simp only [words, show bytes "null" = [110, 117, 108, 108] by decide,
    show bytes "true" = [116, 114, 117, 101] by decide,
    show bytes "false" = [102, 97, 108, 115, 101] by decide, mem_cons, not_mem_nil,
    or_false]

lemma Derives.word (h : Derives (c :: t) v rest) (hc : c ∈ bytes "ntfi") :
    ∃ w ∈ words, c :: t = w.1 ++ rest ∧ v = w.2 := by
  generalize htext : c :: t = text at h
  cases h with
  | nullLit => exact ⟨(bytes "null", .Null), by simp [words], rfl, rfl⟩
  | trueLit => exact ⟨(bytes "true", .Bool true), by simp [words], rfl, rfl⟩
  | falseLit => exact ⟨(bytes "false", .Bool false), by simp [words], rfl, rfl⟩
  | number _ hn =>
    obtain ⟨a, n, rfl⟩ := exists_cons_of_ne_nil hn.ne_nil
    obtain ⟨rfl, -⟩ := List.cons.inj htext
    have hletter : ∀ c ∈ bytes "ntfi", isNumberChar c = false := by decide
    cases (hletter c hc).symm.trans (hn.isNumberChar c (by simp))
  | string | emptyArray | array | emptyObject | object =>
    obtain ⟨rfl, -⟩ := List.cons.inj htext
    exact absurd hc (by decide)

lemma wordToken_ok {w : Bytes × Value} (hw : w ∈ words) : (Token.mk w.1 w.2 True).Ok := by
  have hfirst : ∀ {w w' : Bytes × Value} {t t' : Bytes}, w ∈ words → w' ∈ words →
      w.1 ++ t = w'.1 ++ t' → w' = w ∧ t' = t := by
    intro w w' t t' hw hw' h
    rcases mem_words_iff.mp hw with rfl | rfl | rfl <;>
      rcases mem_words_iff.mp hw' with rfl | rfl | rfl <;>
      first
      | exact ⟨rfl, (append_cancel_left h).symm⟩
      | exact absurd (List.cons.inj h).1 (by decide)
  refine ⟨?_, ?_, ?_⟩
  · rcases mem_words_iff.mp hw with rfl | rfl | rfl <;> exact ⟨_, _, rfl, by decide⟩
  · intro _ rest
    simp only [words, mem_cons, not_mem_nil, or_false] at hw
    rcases hw with rfl | rfl | rfl
    · exact .nullLit rest
    · exact .trueLit rest
    · exact .falseLit rest
  · intro c d v rest t t' _ _ h _
    obtain ⟨w', hw', htext, rfl⟩ : ∃ w' ∈ words, w.1 ++ c :: rest = w'.1 ++ t ∧ v = w'.2 := by
      rcases mem_words_iff.mp hw with rfl | rfl | rfl <;> exact h.word (by decide)
    obtain ⟨rfl, rfl⟩ := hfirst hw hw' htext
    exact ⟨trivial, rfl, rfl⟩

def notNumbers : List Bytes := [bytes "inf", bytes "-inf", bytes "nan", bytes "-nan"]

lemma IsNumber.isDigit_of_minus {a : UInt8} (h : IsNumber s) (hs : s ++ t = 45 :: a :: rest) :
    isDigit a = true := by
  obtain ⟨minus, int, frac, exp, rfl, hminus, hint, -⟩ := h
  obtain ⟨b, int, rfl⟩ := exists_cons_of_ne_nil hint.isDigits.1
  have hb := hint.isDigits.2 b (by simp)
  rcases hminus with rfl | rfl
  · obtain ⟨rfl, -⟩ := List.cons.inj hs
    exact absurd hb (by decide)
  · obtain ⟨rfl, -⟩ := List.cons.inj (List.cons.inj hs).2
    exact hb

lemma not_derives_notNumber (hs : s ∈ notNumbers) : ¬ Derives (s ++ rest) v t := by
  simp only [notNumbers, show bytes "inf" = [105, 110, 102] by decide,
    show bytes "-inf" = [45, 105, 110, 102] by decide, show bytes "nan" = [110, 97, 110] by decide,
    show bytes "-nan" = [45, 110, 97, 110] by decide, mem_cons, not_mem_nil,
    or_false] at hs
  have hletter : ∀ {c t}, c ∈ bytes "in" → (c = 110 → t.head? = some 97) →
      ∀ {v rest}, ¬ Derives (c :: t) v rest := by
    intro c t hc hnext v rest h
    have hword : ∀ c ∈ bytes "in", c ∈ bytes "ntfi" := by decide
    obtain ⟨w, hw, htext, -⟩ := h.word (hword c hc)
    rcases mem_words_iff.mp hw with rfl | rfl | rfl
    · cases htext
      exact absurd (hnext rfl) (by simp)
    all_goals
      obtain ⟨rfl, -⟩ := List.cons.inj htext
      exact absurd hc (by decide)
  have hminus : ∀ {a t v rest}, Derives (45 :: a :: t) v rest → isDigit a = true := by
    intro a t v rest h
    cases h.begins with
    | literal hlit => exact absurd hlit (by decide)
    | number _ hn htext => exact hn.isDigit_of_minus htext.symm
  rcases hs with rfl | rfl | rfl | rfl
  · exact hletter (by decide) fun h => absurd h (by decide)
  · exact fun h => absurd (hminus h) (by decide)
  · exact hletter (by decide) fun _ => rfl
  · exact fun h => absurd (hminus h) (by decide)

lemma not_isNumber_of_mem_notNumbers (hs : s ∈ notNumbers) : ¬ IsNumber s := fun h =>
  not_derives_notNumber hs (.number [] h)

lemma numberToken_ok_of_printed (h : IsNumber t ∨ t ∈ notNumbers) : (numberToken t).Ok := by
  rcases h with h | h
  · exact numberToken_ok ⟨h.ne_nil, h.isNumberChar⟩
  · have hstart : ∀ s ∈ notNumbers, ∃ c ∈ bytes "in-", s.head? = some c := by decide
    obtain ⟨c, hc, hhead⟩ := hstart t h
    obtain ⟨t', rfl⟩ : ∃ t', t = c :: t' := by
      cases t with
      | nil => cases hhead
      | cons a t' => exact ⟨t', by rw [Option.some.inj hhead]⟩
    have hws : ∀ c ∈ bytes "in-", isWs c = false := by decide
    exact ⟨⟨c, t', rfl, hws c hc⟩, fun hn => absurd hn (not_isNumber_of_mem_notNumbers h),
      fun _ _ hderives _ => absurd hderives (not_derives_notNumber h)⟩

/-! ## Flat objects -/

def memberText (m : Bytes × Scalar) : Bytes := 34 :: (m.1 ++ 34 :: 58 :: m.2.text)

def membersText : List (Bytes × Scalar) → Bytes
  | [] => []
  | [m] => memberText m
  | m :: ms => memberText m ++ 44 :: membersText ms

def objectText (ms : List (Bytes × Scalar)) : Bytes := 123 :: (membersText ms ++ [125])

def IsKey (key : Bytes) : Prop := 34 ∉ key ∧ 92 ∉ key ∧ ∀ c ∈ key, 32 ≤ c

instance (key : Bytes) : Decidable (IsKey key) := inferInstanceAs (Decidable (_ ∧ _))

lemma chars_key_iff (hkey : IsKey key) :
    Chars (key ++ 34 :: rest) s rest' ↔ s = key ∧ rest' = rest := by
  rw [chars_append_iff hkey.1 hkey.2.1, and_iff_right hkey.2.2]

def tokenText (m : Bytes × Token) : Bytes := 34 :: (m.1 ++ 34 :: 58 :: m.2.text)

def tokensText : List (Bytes × Token) → Bytes
  | [] => []
  | [m] => tokenText m
  | m :: ms => tokenText m ++ 44 :: tokensText ms

lemma tokensText_cons (m : Bytes × Token) (ms : List (Bytes × Token)) :
    tokensText (m :: ms) = tokenText m ++ ms.flatMap fun m => 44 :: tokenText m := by
  induction ms generalizing m with
  | nil => exact (append_nil _).symm
  | cons m' ms ih =>
    have hcons : tokensText (m :: m' :: ms) = tokenText m ++ 44 :: tokensText (m' :: ms) := rfl
    rw [hcons, ih, flatMap_cons, cons_append]

lemma tokenText_append (m : Bytes × Token) (rest : Bytes) :
    tokenText m ++ rest = 34 :: (m.1 ++ 34 :: 58 :: (m.2.text ++ rest)) := by
  simp [tokenText]

lemma member_inv {m : Bytes × Token} {t₁ t₂ t₃ t₄ : Bytes} (hkey : IsKey m.1) (hm : m.2.Ok)
    (hws : Ws (tokenText m ++ rest) (34 :: t₁)) (hchars : Chars t₁ key t₂)
    (hcolon : Ws t₂ (58 :: t₃)) (hws' : Ws t₃ t₄) : key = m.1 ∧ t₄ = m.2.text ++ rest := by
  rw [tokenText_append] at hws
  obtain ⟨-, rfl⟩ := List.cons.inj (hws.eq_of_not_isWs (by decide))
  obtain ⟨rfl, rfl⟩ := (chars_key_iff hkey).mp hchars
  obtain ⟨-, rfl⟩ := List.cons.inj (hcolon.eq_of_not_isWs (by decide))
  obtain ⟨c, t, ht, hc⟩ := hm.start
  rw [ht] at hws' ⊢
  exact ⟨rfl, hws'.eq_of_not_isWs hc⟩

lemma Token.Ok.value_inv {x : Token} (hx : x.Ok) (hc : isEnd c = true) (hd : isEnd d = true)
    (h : Derives (x.text ++ c :: rest) v t) (hend : Ws t (d :: t')) :
    x.valid ∧ v = x.value ∧ d = c ∧ t' = rest := by
  obtain ⟨hvalid, hv, rfl⟩ := hx.inv hc hd h hend
  obtain ⟨rfl, rfl⟩ := List.cons.inj (hend.eq_of_not_isWs (isEnd.not_isWs hc))
  exact ⟨hvalid, hv, rfl, rfl⟩

lemma members_iff : ∀ {ms : List (Bytes × Token)} {vs : List (Bytes × Value)}, ms ≠ [] →
    (∀ m ∈ ms, IsKey m.1 ∧ m.2.Ok) →
    (Members (tokensText ms ++ 125 :: rest) vs rest' ↔
      (∀ m ∈ ms, m.2.valid) ∧ vs = ms.map (fun m => (m.1, m.2.value)) ∧ rest' = rest)
  | [], _, hne, _ => absurd rfl hne
  | [m], vs, _, hms => by
    obtain ⟨hkey, hm⟩ := hms m (by simp)
    constructor
    · intro h
      cases h with
      | last hws hchars hcolon hws' h hend =>
        obtain ⟨rfl, rfl⟩ := member_inv hkey hm hws hchars hcolon hws'
        obtain ⟨hvalid, rfl, -, rfl⟩ := hm.value_inv (by decide) (by decide) h hend
        exact ⟨by simpa using hvalid, rfl, rfl⟩
      | more hws hchars hcolon hws' h hend hmore =>
        obtain ⟨rfl, rfl⟩ := member_inv hkey hm hws hchars hcolon hws'
        exact absurd (hm.value_inv (by decide) (by decide) h hend).2.2.1 (by decide)
    · rintro ⟨hvalid, rfl, rfl⟩
      rw [tokensText, tokenText_append]
      exact .last (.refl _) ((chars_key_iff hkey).mpr ⟨rfl, rfl⟩) (.refl _) (.refl _)
        (hm.derives (hvalid m (by simp)) _) (.refl _)
  | m :: m' :: ms, vs, _, hms => by
    obtain ⟨hkey, hm⟩ := hms m (by simp)
    have htext : tokensText (m :: m' :: ms) ++ 125 :: rest =
        tokenText m ++ 44 :: (tokensText (m' :: ms) ++ 125 :: rest) := by
      simp [tokensText]
    have ih := fun {vs} => @members_iff (m' :: ms) vs (by simp) fun m hm => hms m (by simp [hm])
    rw [htext]
    constructor
    · intro h
      cases h with
      | last hws hchars hcolon hws' h hend =>
        obtain ⟨rfl, rfl⟩ := member_inv hkey hm hws hchars hcolon hws'
        exact absurd (hm.value_inv (by decide) (by decide) h hend).2.2.1 (by decide)
      | more hws hchars hcolon hws' h hend hmore =>
        obtain ⟨rfl, rfl⟩ := member_inv hkey hm hws hchars hcolon hws'
        obtain ⟨hvalid, rfl, -, rfl⟩ := hm.value_inv (by decide) (by decide) h hend
        obtain ⟨hall, rfl, rfl⟩ := ih.mp hmore
        exact ⟨forall_mem_cons.mpr ⟨hvalid, hall⟩, rfl, rfl⟩
    · rintro ⟨hvalid, rfl, rfl⟩
      obtain ⟨hvalid, hall⟩ := forall_mem_cons.mp hvalid
      rw [tokenText_append]
      exact .more (.refl _) ((chars_key_iff hkey).mpr ⟨rfl, rfl⟩) (.refl _) (.refl _)
        (hm.derives hvalid _) (.refl _) (ih.mpr ⟨hall, rfl, rfl⟩)

theorem text_tokens_iff {ms : List (Bytes × Token)} (hne : ms ≠ [])
    (hms : ∀ m ∈ ms, IsKey m.1 ∧ m.2.Ok) :
    Text (123 :: (tokensText ms ++ [125])) v ↔
      (∀ m ∈ ms, m.2.valid) ∧ v = .Object (ms.map fun m => (m.1, m.2.value)) := by
  constructor
  · rintro ⟨t₁, t₂, hws, h, hend⟩
    obtain rfl := Ws.eq_of_not_isWs (by decide) hws
    cases h.begins with
    | literal hlit => exact absurd hlit (by decide)
    | number hnum => exact absurd hnum (by decide)
    | emptyObject hws =>
      -- the members begin with a quote, not with the closing brace
      obtain ⟨m, ms, rfl⟩ := exists_cons_of_ne_nil hne
      obtain ⟨t', ht'⟩ : ∃ t', tokensText (m :: ms) ++ [125] = 34 :: t' := by
        cases ms <;> exact ⟨_, rfl⟩
      rw [ht'] at hws
      cases hws.eq_of_not_isWs (by decide)
    | object hmembers =>
      obtain ⟨hvalid, rfl, -⟩ := (members_iff hne hms).mp hmembers
      exact ⟨hvalid, rfl⟩
  · rintro ⟨hvalid, rfl⟩
    exact ⟨_, [], .refl _, .object ((members_iff hne hms).mpr ⟨hvalid, rfl, rfl⟩), .refl _⟩

lemma membersText_eq : ∀ ms : List (Bytes × Scalar),
    membersText ms = tokensText (ms.map fun m => (m.1, m.2.token))
  | [] => rfl
  | [_] => rfl
  | m :: m' :: ms => congrArg (memberText m ++ 44 :: ·) (membersText_eq (m' :: ms))

theorem text_objectText_iff {ms : List (Bytes × Scalar)} (hne : ms ≠ [])
    (hms : ∀ m ∈ ms, IsKey m.1 ∧ m.2.Raw) :
    Text (objectText ms) v ↔
      (∀ m ∈ ms, m.2.Valid) ∧ v = .Object (ms.map fun m => (m.1, m.2.value)) := by
  have hok : ∀ m ∈ ms.map fun m => (m.1, m.2.token), IsKey m.1 ∧ m.2.Ok := by
    simp only [forall_mem_map]
    exact fun m hm => ⟨(hms m hm).1, Scalar.token_ok (hms m hm).2⟩
  rw [objectText, membersText_eq, text_tokens_iff (by simpa using hne) hok]
  simp only [forall_mem_map, map_map]
  exact Iff.rfl

lemma Members.isNumber {ms : List (Bytes × Value)} (h : Members t ms rest) {n : Bytes}
    (hmem : (key, .Number n) ∈ ms) : IsNumber n := by
  have hvalue {t rest : Bytes} (h : Derives t (.Number n) rest) : IsNumber n := by
    cases h
    assumption
  induction ms generalizing t with
  | nil => cases hmem
  | cons m ms ih =>
    cases h with
    | last _ _ _ _ hv _ =>
      cases mem_singleton.mp hmem
      exact hvalue hv
    | more _ _ _ _ hv _ hmore =>
      rcases mem_cons.mp hmem with heq | hmem
      · cases heq
        exact hvalue hv
      · exact ih hmore hmem

lemma Text.isNumber {ms : List (Bytes × Value)} (h : Text t (.Object ms)) {n : Bytes}
    (hmem : (key, .Number n) ∈ ms) : IsNumber n := by
  obtain ⟨_, _, -, hobject, -⟩ := h
  cases hobject with
  | emptyObject => cases hmem
  | object hms => exact hms.isNumber hmem

def IsUtf8 (s : Bytes) : Prop := ∃ cs : List Char, s = cs.flatMap String.utf8EncodeChar

lemma utf8EncodeChar_cases (c : Char) :
    (∃ b : UInt8, b < 128 ∧ String.utf8EncodeChar c = [b]) ∨
      ∀ b ∈ String.utf8EncodeChar c, 128 ≤ b ∧ b ≠ 255 := by
  unfold String.utf8EncodeChar
  dsimp only
  split_ifs with h₁
  · refine .inl ⟨_, ?_, rfl⟩
    rw [UInt8.lt_iff_toNat_lt, UInt8.toNat_ofNat']
    exact (Nat.mod_le _ _).trans_lt (Nat.lt_succ_of_le h₁)
  all_goals
    right
    simp only [forall_mem_cons, UInt8.le_iff_toNat_le, ne_eq, ← UInt8.toNat_inj,
      UInt8.toNat_ofNat']
    simp
    omega

lemma IsUtf8.append {a b : Bytes} (ha : IsUtf8 a) (hb : IsUtf8 b) : IsUtf8 (a ++ b) := by
  obtain ⟨cs, rfl⟩ := ha
  obtain ⟨ds, rfl⟩ := hb
  exact ⟨cs ++ ds, flatMap_append.symm⟩

lemma IsUtf8.not_mem {s : Bytes} (hs : IsUtf8 s) : 255 ∉ s := by
  obtain ⟨cs, rfl⟩ := hs
  rw [mem_flatMap]
  rintro ⟨c, -, hc⟩
  rcases utf8EncodeChar_cases c with ⟨b, hb, heq⟩ | hlarge
  · rw [heq, mem_singleton] at hc
    exact absurd hb (by rw [← hc]; decide)
  · exact (hlarge 255 hc).2 rfl

end Json
