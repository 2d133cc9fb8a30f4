import SttBench.Core.Ascii

/-! # The `str` functions of the Rust standard library -/

namespace RustStr

open Ascii List

def isCont (b : UInt8) : Bool := 0x80 ≤ b && b ≤ 0xBF

def isSecond3 (b c : UInt8) : Bool :=
  if b = 0xE0 then 0xA0 ≤ c && c ≤ 0xBF else if b = 0xED then 0x80 ≤ c && c ≤ 0x9F else isCont c

def isSecond4 (b c : UInt8) : Bool :=
  if b = 0xF0 then 0x90 ≤ c && c ≤ 0xBF else if b = 0xF4 then 0x80 ≤ c && c ≤ 0x8F else isCont c

def isUtf8 : List UInt8 → Bool
  | [] => true
  | b :: rest =>
    if b < 0x80 then isUtf8 rest
    else if 0xC2 ≤ b && b ≤ 0xDF then
      match rest with
      | c :: rest => isCont c && isUtf8 rest
      | _ => false
    else if 0xE0 ≤ b && b ≤ 0xEF then
      match rest with
      | c :: d :: rest => isSecond3 b c && isCont d && isUtf8 rest
      | _ => false
    else if 0xF0 ≤ b && b ≤ 0xF4 then
      match rest with
      | c :: d :: e :: rest => isSecond4 b c && isCont d && isCont e && isUtf8 rest
      | _ => false
    else false

def fromUtf8 (s : List UInt8) : Option (List UInt8) := if isUtf8 s then some s else none

/-! ## White space -/

def isWs1 (b : UInt8) : Bool := (9 ≤ b && b ≤ 13) || b = 32

def isWs2 (b c : UInt8) : Bool := b = 0xC2 && (c = 0x85 || c = 0xA0)

def isWs3 (b c d : UInt8) : Bool :=
  (b = 0xE1 && c = 0x9A && d = 0x80) ||
  (b = 0xE2 && c = 0x80 && ((0x80 ≤ d && d ≤ 0x8A) || d = 0xA8 || d = 0xA9 || d = 0xAF)) ||
  (b = 0xE2 && c = 0x81 && d = 0x9F) || (b = 0xE3 && c = 0x80 && d = 0x80)

def strip (ws2 : UInt8 → UInt8 → Bool) (ws3 : UInt8 → UInt8 → UInt8 → Bool) :
    List UInt8 → List UInt8
  | [] => []
  | b :: rest =>
    if isWs1 b then strip ws2 ws3 rest
    else match rest with
      | [] => [b]
      | c :: rest' =>
        if ws2 b c then strip ws2 ws3 rest'
        else match rest' with
          | [] => [b, c]
          | d :: rest'' =>
            if ws3 b c d then strip ws2 ws3 rest'' else b :: c :: d :: rest''

def trimStart (s : List UInt8) : List UInt8 := strip isWs2 isWs3 s

def trimEnd (s : List UInt8) : List UInt8 :=
  (strip (fun b c => isWs2 c b) (fun b c d => isWs3 d c b) s.reverse).reverse

def trim (s : List UInt8) : List UInt8 := trimEnd (trimStart s)

/-! ## Splitting and parsing -/

def splitCrlf : List UInt8 → List (List UInt8)
  | [] => [[]]
  | [b] => [[b]]
  | b :: c :: rest =>
    if b = 13 ∧ c = 10 then [] :: splitCrlf rest
    else (splitCrlf (c :: rest)).modifyHead (b :: ·)

def splitOnce (sep : UInt8) : List UInt8 → Option (List UInt8 × List UInt8)
  | [] => none
  | b :: rest =>
    if b = sep then some ([], rest) else (splitOnce sep rest).map fun p => (b :: p.1, p.2)

def eqIgnoreAsciiCase (s t : List UInt8) : Bool := s.map lower == t.map lower

def parseDigits (bound : ℕ) : ℕ → List UInt8 → Option ℕ
  | acc, [] => some acc
  | acc, b :: bs =>
    if isDigit b then
      if acc * 10 + (b.toNat - 48) < bound then parseDigits bound (acc * 10 + (b.toNat - 48)) bs
      else none
    else none

def parseUnsigned (bound : ℕ) : List UInt8 → Option ℕ
  | [] => none
  | b :: bs =>
    if b = 43 then (if bs = [] then none else parseDigits bound 0 bs)
    else parseDigits bound 0 (b :: bs)

lemma parseDigits_lt {bound : ℕ} : ∀ {bs : List UInt8} {acc n : ℕ}, acc < bound →
    parseDigits bound acc bs = some n → n < bound
  | [], acc, n, hacc, h => by
    obtain rfl : acc = n := by simpa [parseDigits] using h
    exact hacc
  | b :: bs, acc, n, hacc, h => by
    rw [parseDigits] at h
    split_ifs at h with hd hv
    exact parseDigits_lt hv h

lemma parseUnsigned_lt {bound n : ℕ} {s : List UInt8} (hb : 0 < bound)
    (h : parseUnsigned bound s = some n) : n < bound := by
  cases s with
  | nil => simp [parseUnsigned] at h
  | cons b bs =>
    rw [parseUnsigned] at h
    split_ifs at h
    · exact parseDigits_lt hb h
    · exact parseDigits_lt hb h

lemma parseDigits_of_digits {bound : ℕ} : ∀ {ds : List UInt8} {acc : ℕ}, (∀ b ∈ ds, isDigit b) →
    decimalFrom acc ds < bound → parseDigits bound acc ds = some (decimalFrom acc ds)
  | [], acc, _, _ => by simp [parseDigits]
  | b :: ds, acc, hds, hv => by
    rw [decimalFrom_cons] at hv ⊢
    have hacc := le_decimalFrom ds (acc * 10 + (b.toNat - 48))
    rw [parseDigits, if_pos (hds b (by simp)), if_pos (by omega)]
    exact parseDigits_of_digits (fun c hc => hds c (mem_cons_of_mem _ hc)) hv

lemma parseUnsigned_of_digits {bound : ℕ} {ds : List UInt8} (hne : ds ≠ [])
    (hds : ∀ b ∈ ds, isDigit b) (hv : decimal ds < bound) :
    parseUnsigned bound ds = some (decimal ds) := by
  obtain ⟨b, ds, rfl⟩ := exists_cons_of_ne_nil hne
  have hplus : b ≠ 43 := by
    rintro rfl
    exact absurd (hds 43 (by simp)) (by decide)
  rw [parseUnsigned, if_neg hplus]
  exact parseDigits_of_digits hds hv

/-! ## Lines and padding -/

lemma splitCrlf_line (rest : List UInt8) : ∀ {l : List UInt8}, (13 : UInt8) ∉ l →
    splitCrlf (l ++ 13 :: 10 :: rest) = l :: splitCrlf rest
  | [], _ => by simp [splitCrlf]
  | b :: l, hl => by
    simp only [mem_cons, not_or] at hl
    have ih := splitCrlf_line rest hl.2
    -- the second byte is there, whether or not the line goes on
    obtain ⟨c, t, ht⟩ : ∃ c t, l ++ 13 :: 10 :: rest = c :: t := by
      cases l with
      | nil => exact ⟨13, 10 :: rest, rfl⟩
      | cons c l => exact ⟨c, l ++ 13 :: 10 :: rest, rfl⟩
    rw [cons_append, ht, splitCrlf, if_neg fun h => hl.1 h.1.symm, ← ht, ih]
    rfl

lemma splitOnce_of_notMem {sep : UInt8} {rest : List UInt8} : ∀ {l : List UInt8}, sep ∉ l →
    splitOnce sep (l ++ sep :: rest) = some (l, rest)
  | [], _ => by simp [splitOnce]
  | b :: l, hl => by
    simp only [mem_cons, not_or] at hl
    rw [cons_append, splitOnce, if_neg (Ne.symm hl.1), splitOnce_of_notMem hl.2]
    rfl

lemma strip_pad {ws2 : UInt8 → UInt8 → Bool} {ws3 : UInt8 → UInt8 → UInt8 → Bool} {b : UInt8}
    {rest : List UInt8} (h1 : isWs1 b = false) (h2 : ∀ c, ws2 b c = false)
    (h3 : ∀ c d, ws3 b c d = false) :
    ∀ {pad : List UInt8}, (∀ x ∈ pad, isWs1 x) →
      strip ws2 ws3 (pad ++ b :: rest) = b :: rest
  | [], _ => by
    cases rest with
    | nil => simp [strip, h1]
    | cons c rest => cases rest <;> simp [strip, h1, h2, h3]
  | x :: pad, hpad => by
    rw [cons_append, strip.eq_def]
    simp only [if_pos (hpad x (by simp))]
    exact strip_pad h1 h2 h3 fun y hy => hpad y (mem_cons_of_mem _ hy)

lemma isWs1_of_isVisible {b : UInt8} (hb : isVisible b) : isWs1 b = false := by
  rw [isVisible_iff] at hb
  simp only [isWs1, UInt8.le_iff_toNat_le, ← UInt8.toNat_inj, Bool.or_eq_false_iff,
    Bool.and_eq_false_iff, decide_eq_false_iff_not]
  simp
  omega

lemma trim_padded (pre s post : List UInt8) (hpre : ∀ x ∈ pre, isWs1 x)
    (hpost : ∀ x ∈ post, isWs1 x) (hne : s ≠ []) (hs : ∀ b ∈ s, isVisible b) :
    trim (pre ++ (s ++ post)) = s := by
  have hascii : ∀ b ∈ s, b.toNat < 128 := fun b hb => by
    have := isVisible_iff.mp (hs b hb)
    omega
  have hstart : trimStart (pre ++ (s ++ post)) = s ++ post := by
    obtain ⟨b, t, rfl⟩ := exists_cons_of_ne_nil hne
    have hb := hascii b (by simp)
    refine strip_pad (isWs1_of_isVisible (hs b (by simp))) (fun c => ?_) (fun c d => ?_) hpre
    all_goals
      simp only [isWs2, isWs3, ← UInt8.toNat_inj, Bool.and_eq_false_iff, Bool.or_eq_false_iff,
        decide_eq_false_iff_not]
      simp
      omega
  -- from the other end: the last byte is ASCII, so it ends no longer character
  rw [trim, hstart, trimEnd, reverse_append]
  obtain ⟨t, b, rfl⟩ := (eq_nil_or_concat s).resolve_left hne
  have hb := hascii b (by simp)
  rw [concat_eq_append, reverse_append, reverse_singleton, singleton_append]
  rw [strip_pad (isWs1_of_isVisible (hs b (by simp))) (fun c => ?_) (fun c d => ?_)
    (fun x hx => hpost x (mem_reverse.mp hx))]
  · simp
  all_goals
    simp only [isWs2, isWs3, ← UInt8.toNat_inj, UInt8.le_iff_toNat_le, Bool.and_eq_false_iff,
      Bool.or_eq_false_iff, decide_eq_false_iff_not]
    simp
    omega

end RustStr
