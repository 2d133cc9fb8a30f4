import SttBench.Core.Http1
import SttBench.OxcamlEpoll.Protocol

/-! # ocaml-oxcaml-epoll: `Http_response.parse` -/

namespace SttBench.OxcamlEpoll.HttpResponse

open Ascii List Option
open Http1 (crlf crlf2)

structure Parsed where
  status : ℤ
  bodyPos : ℕ
  bodyLen : ℤ
  hasContentLength : Bool
deriving DecidableEq, Repr

def parseIntLoop : Bytes → ℤ → Bool → ℤ
  | [], acc, seen => if seen then acc else 0
  | b :: bs, acc, seen =>
    if isDigit b then parseIntLoop bs (wrap (acc * 10 + (b.toNat - 48))) true
    else if seen then acc else parseIntLoop bs acc false

def parseInt (b : Bytes) : ℤ := parseIntLoop b 0 false

def status (head : Bytes) : ℤ := parseInt ((head.dropWhile (· ≠ 32)).drop 1)

def lengthField (line : Bytes) : Option Bytes :=
  let line := if line.getLast? = some 13 then line.dropLast else line
  if bytes "content-length" <+: line.map lower ∧ (line.drop 14).head? = some 58 then
    some (line.drop 15)
  else none

def contentLength (head : Bytes) : Option ℤ :=
  ((head.splitOn 10).findSome? lengthField).map parseInt

def complete (b : Bytes) (headEnd : ℕ) (contentLength : Option ℤ) : Option Parsed :=
  let bodyPos := headEnd + 4
  let bodyLen := contentLength.getD 0
  if b.length < wrap (bodyPos + bodyLen) then none
  else some ⟨status (b.take headEnd), bodyPos, bodyLen, contentLength.isSome⟩

def parse (b : Bytes) : Option Parsed :=
  match Search.find crlf2 b with
  | none => none
  | some headEnd => complete b headEnd (contentLength (b.take headEnd))

/-! ## What the buffer announces -/

def firstDigits (b : Bytes) : Bytes := (b.dropWhile fun c => !isDigit c).takeWhile isDigit

def announced (b : Bytes) : Option (ℕ × Option ℕ) :=
  (Search.find crlf2 b).map fun headEnd => (headEnd + 4,
    (((b.take headEnd).splitOn 10).findSome? lengthField).map fun v => decimal (firstDigits v))

def LengthFits (b : Bytes) : Prop :=
  ∀ pos n, announced b = some (pos, some n) → pos + n % 2 ^ 63 < 2 ^ 62

lemma parseIntLoop_seen : ∀ (b : Bytes) (acc : ℕ),
    parseIntLoop b (wrap acc) true = wrap (decimalFrom acc (b.takeWhile isDigit))
  | [], acc => by simp [parseIntLoop]
  | c :: b, acc => by
    rw [parseIntLoop]
    by_cases hc : isDigit c
    · rw [if_pos hc, wrap_digit hc, parseIntLoop_seen b, takeWhile_cons_of_pos hc,
        decimalFrom_cons]
    · rw [if_neg hc, if_pos rfl, takeWhile_cons_of_neg hc, decimalFrom_nil]

lemma parseInt_eq (b : Bytes) : parseInt b = wrap (decimal (firstDigits b)) := by
  unfold parseInt
  induction b with
  | nil => rw [show decimal (firstDigits []) = 0 from rfl, Nat.cast_zero, wrap_zero]; rfl
  | cons c b ih =>
    rw [parseIntLoop]
    by_cases hc : isDigit c
    · have hzero : wrap (0 * 10 + (c.toNat - 48)) = wrap ((c.toNat - 48 : ℕ) : ℤ) := by
        have h48 := (isDigit_iff.mp hc).1
        congr 1
        omega
      rw [if_pos hc, hzero, parseIntLoop_seen, firstDigits, dropWhile_cons_of_neg (by simp [hc]),
        takeWhile_cons_of_pos hc, decimal, decimalFrom_cons, Nat.zero_mul, Nat.zero_add]
    · rw [if_neg hc, if_neg (by simp), ih, firstDigits, firstDigits,
        dropWhile_cons_of_pos (by simp [hc])]

def reduced : Option ℕ → Option ℤ
  | none => none
  | some n => some (wrap n)

lemma parse_eq (b : Bytes) :
    parse b = (announced b).bind fun x => complete b (x.1 - 4) (reduced x.2) := by
  have hlen : ∀ head, contentLength head = reduced
      (((head.splitOn 10).findSome? lengthField).map fun v => decimal (firstDigits v)) := by
    intro head
    rw [contentLength]
    cases (head.splitOn 10).findSome? lengthField with
    | none => rfl
    | some v => simp only [map_some, reduced, parseInt_eq]
  unfold parse announced
  cases Search.find crlf2 b with
  | none => rfl
  | some headEnd => simp only [map_some, bind_some, Nat.add_sub_cancel, hlen]

variable {b : Bytes} {length : Option ℤ} {pos : ℕ}

lemma complete_eq_some {p : Parsed} (hpos : 4 ≤ pos) (h : complete b (pos - 4) length = some p) :
    wrap (pos + length.getD 0) ≤ b.length ∧
      p = ⟨status (b.take (pos - 4)), pos, length.getD 0, length.isSome⟩ := by
  simp only [complete, Nat.sub_add_cancel hpos] at h
  split_ifs at h with hlen
  exact ⟨not_lt.mp hlen, (Option.some.inj h).symm⟩

lemma complete_of_le (hpos : 4 ≤ pos) (h : wrap (pos + length.getD 0) ≤ b.length) :
    complete b (pos - 4) length =
      some ⟨status (b.take (pos - 4)), pos, length.getD 0, length.isSome⟩ := by
  simp only [complete, Nat.sub_add_cancel hpos, if_neg (not_lt.mpr h)]

lemma complete_bounded_iff (hpos : 4 ≤ pos) :
    (∀ p, complete b (pos - 4) length = some p →
      0 ≤ p.bodyLen ∧ p.bodyPos + p.bodyLen ≤ b.length) ↔
    (wrap (pos + length.getD 0) ≤ b.length →
      0 ≤ length.getD 0 ∧ pos + length.getD 0 ≤ b.length) := by
  constructor
  · exact fun h hle => h _ (complete_of_le hpos hle)
  · intro h p hp
    obtain ⟨hle, rfl⟩ := complete_eq_some hpos hp
    exact h hle

lemma complete_of_lt (hpos : 4 ≤ pos)
    (h : b.length < wrap (pos + length.getD 0)) : complete b (pos - 4) length = none := by
  simp only [complete, Nat.sub_add_cancel hpos, if_pos h]

lemma announced_le {n : Option ℕ} (h : announced b = some (pos, n)) :
    4 ≤ pos ∧ pos ≤ b.length := by
  obtain ⟨headEnd, hfind, hx⟩ := map_eq_some_iff.mp h
  obtain ⟨rfl, -⟩ := Prod.mk.inj hx
  exact ⟨Nat.le_add_left 4 headEnd, Search.find_fits hfind⟩

lemma announced_append {x : ℕ × Option ℕ} (ext : Bytes) (h : announced b = some x) :
    announced (b ++ ext) = some x := by
  obtain ⟨headEnd, hfind, rfl⟩ := map_eq_some_iff.mp h
  have hfit : headEnd + 4 ≤ b.length := Search.find_fits hfind
  rw [announced, Search.find_append ext hfind, map_some,
    take_append_of_le_length (by omega)]

lemma LengthFits.of_append {b ext : Bytes} (h : LengthFits (b ++ ext)) : LengthFits b :=
  fun pos n hb => h pos n (announced_append ext hb)

/-! ## When the range of the body lies in the buffer -/

lemma wrap_of_fits {pos n : ℕ} (h : pos + n % 2 ^ 63 < 2 ^ 62) :
    wrap n = (n % 2 ^ 63 : ℕ) ∧ wrap (pos + wrap n) = (pos + n % 2 ^ 63 : ℕ) := by
  have hn : wrap n = (n % 2 ^ 63 : ℕ) := by rw [wrap_cast, if_pos (by omega)]
  refine ⟨hn, ?_⟩
  rw [hn, ← Nat.cast_add, wrap_of_lt h]

lemma wrap_lt_of_not_fits {pos n : ℕ} (hpos : pos < 2 ^ 62) (h : 2 ^ 62 ≤ pos + n % 2 ^ 63) :
    wrap (pos + wrap n) < pos ∧ (wrap n < 0 ∨ (2 ^ 62 : ℤ) ≤ pos + wrap n) := by
  have hlt : n % 2 ^ 63 < 2 ^ 63 := Nat.mod_lt _ (by norm_num)
  simp only [wrap_eq_bmod, Int.bmod_def]
  split_ifs <;> omega

theorem parse_bounded_iff (hb : b.length < 2 ^ 62) :
    (∀ p, parse b = some p → 0 ≤ p.bodyLen ∧ p.bodyPos + p.bodyLen ≤ b.length) ↔
      LengthFits b := by
  rw [LengthFits]
  cases hann : announced b with
  | none => simp [parse_eq, hann]
  | some x =>
    obtain ⟨pos, n⟩ := x
    obtain ⟨h4, hpos⟩ := announced_le hann
    simp only [parse_eq, hann, bind_some]
    rw [complete_bounded_iff h4]
    cases n with
    | none =>
      simp only [reduced, getD_none]
      simp [hpos]
    | some n =>
      simp only [reduced, getD_some]
      have hall : (∀ p q, some (pos, some n) = some (p, some q) → p + q % 2 ^ 63 < 2 ^ 62) ↔
          pos + n % 2 ^ 63 < 2 ^ 62 := by
        simp only [Option.some.injEq, Prod.mk.injEq]
        exact ⟨fun h => h _ _ ⟨rfl, rfl⟩, fun h p q ⟨hp, hq⟩ => hp ▸ hq ▸ h⟩
      rw [hall]
      by_cases hfit : pos + n % 2 ^ 63 < 2 ^ 62
      · obtain ⟨hn, hsum⟩ := wrap_of_fits hfit
        rw [hsum, hn]
        exact iff_of_true (fun hle => by omega) hfit
      · obtain ⟨hwrap, hbad⟩ := wrap_lt_of_not_fits (by omega) (not_lt.mp hfit)
        refine iff_of_false (fun h => ?_) hfit
        have := h (by omega)
        omega

/-! ## Reading a well-formed response -/

section Wire

open Http1

lemma findSome_splitOn {β : Type*} {f : Bytes → Option β} (hf : ∀ l, 13 ∉ l → f (l ++ [13]) = f l) :
    ∀ {ls : List Bytes}, ls ≠ [] → (∀ l ∈ ls, (13 : UInt8) ∉ l ∧ (10 : UInt8) ∉ l) →
      ((List.intercalate crlf ls).splitOn 10).findSome? f = ls.findSome? f
  | [], hne, _ => absurd rfl hne
  | [l], _, hls => by
    rw [intercalate_singleton, splitOn_eq_singleton (hls l (by simp)).2]
  | l :: l' :: ls, _, hls => by
    have ih := findSome_splitOn hf (cons_ne_nil l' ls)
      fun x hx => hls x (mem_cons_of_mem _ hx)
    obtain ⟨h13, h10⟩ := hls l (by simp)
    have hsplit : List.intercalate crlf (l :: l' :: ls) =
        (l ++ [13]) ++ 10 :: List.intercalate crlf (l' :: ls) := by
      rw [intercalate_cons_cons]
      simp [crlf]
    rw [hsplit, splitOn_append_cons_self_of_not_mem (by simpa using h10),
      List.findSome?_cons, List.findSome?_cons, hf l h13, ih]

lemma lengthField_cr {l : Bytes} (h : 13 ∉ l) : lengthField (l ++ [13]) = lengthField l := by
  have hlast : l.getLast? ≠ some 13 := fun hl => h (mem_of_getLast? hl)
  simp [lengthField, if_neg hlast]

lemma isLengthLine_iff (f : Field) :
    (contentLengthName <+: f.line.map lower ∧ (f.line.drop 14).head? = some 58) ↔
      f.name.map lower = contentLengthName := by
  have hcolon : (58 : UInt8) ∉ f.name := fun h => (f.name_ok 58 h).2 rfl
  have hline : f.line.map lower = f.name.map lower ++ 58 :: f.value.map lower := by
    rw [Field.line, map_append, map_cons]
    rfl
  constructor
  · rintro ⟨⟨t, ht⟩, hhead⟩
    rw [hline] at ht
    rcases append_eq_append_iff.mp ht with ⟨as, hname, -⟩ | ⟨bs, hname, hbs⟩
    · -- a longer name would have to go on with a colon
      cases as with
      | nil => rw [hname, append_nil]
      | cons a as =>
        have hlen := congrArg List.length hname
        rw [length_map, length_append, show contentLengthName.length = 14 from rfl,
          length_cons] at hlen
        rw [Field.line, drop_append_of_le_length (by omega), List.head?_append,
          List.head?_drop] at hhead
        have hget : f.name[14]? = some 58 := by
          have h14 : 14 < f.name.length := by omega
          simpa [List.getElem?_eq_getElem h14] using hhead
        exact absurd (mem_of_getElem? hget) hcolon
    · -- a shorter one would put the colon into the word
      cases bs with
      | nil => rw [hname, append_nil]
      | cons b bs =>
        have hb : (58 : UInt8) ∈ contentLengthName := by
          rw [hname, (List.cons.inj hbs).1]
          simp
        exact absurd hb (by decide)
  · intro hname
    have hlen : f.name.length = 14 := by
      rw [← length_map lower, hname]
      rfl
    refine ⟨?_, ?_⟩
    · rw [hline, hname]
      exact prefix_append _ _
    · rw [Field.line, ← hlen, drop_left, List.head?_cons]

lemma lengthField_line (f : Field) :
    lengthField f.line = if f.named contentLengthName then some f.value else none := by
  have hlast : f.line.getLast? ≠ some 13 := fun hl => f.line_no_cr (mem_of_getLast? hl)
  have hiff := isLengthLine_iff f
  simp only [lengthField, if_neg hlast, Field.named, beq_iff_eq]
  rw [← contentLengthName]
  by_cases hname : f.name.map lower = contentLengthName
  · have hlen : f.name.length + 1 = 15 := by
      rw [← length_map lower, hname]
      rfl
    rw [if_pos (hiff.mpr hname), if_pos hname, Field.line, ← hlen, drop_append]
    simp
  · rw [if_neg (hiff.not.mpr hname), if_neg hname]

lemma findSome_lengthField {fields : List Field} {f : Field}
    (hf : fields.filter (Field.named contentLengthName) = [f]) :
    (fields.map Field.line).findSome? lengthField = some f.value := by
  induction fields with
  | nil => simp at hf
  | cons g fields ih =>
    rw [map_cons, List.findSome?_cons, lengthField_line]
    by_cases hg : g.named contentLengthName
    · obtain ⟨rfl, -⟩ : g = f ∧ _ := by simpa [filter_cons, hg] using hf
      simp [hg]
    · simp only [hg]
      exact ih (by simpa [filter_cons, hg] using hf)

lemma firstDigits_padded {pre ds post : Bytes} (hpre : ∀ b ∈ pre, isDigit b = false)
    (hne : ds ≠ []) (hds : ∀ b ∈ ds, isDigit b) (hpost : post.head?.any isDigit = false) :
    firstDigits (pre ++ (ds ++ post)) = ds := by
  have hdrop : (ds ++ post).dropWhile (fun c => !isDigit c) = ds ++ post := by
    cases ds with
    | nil => exact absurd rfl hne
    | cons d ds => rw [cons_append, dropWhile_cons_of_neg (by simp [hds d])]
  have htake : post.takeWhile isDigit = [] := by
    cases post with
    | nil => rfl
    | cons b post => exact takeWhile_cons_of_neg (by simpa using hpost)
  rw [firstDigits, dropWhile_append_of_pos (by simpa using hpre), hdrop,
    takeWhile_append_of_pos hds, htake, append_nil]

lemma decimal_firstDigits {v : Bytes} {n : ℕ} (hv : IsLength v n) :
    decimal (firstDigits v) = n := by
  obtain ⟨pre, ds, post, rfl, hpre, hpost, hne, hds, rfl⟩ := hv
  have hows : ∀ b, isOws b = true → isDigit b = false := fun b hb => by
    simp only [isOws, Bool.or_eq_true, decide_eq_true_eq] at hb
    rcases hb with rfl | rfl <;> decide
  rw [firstDigits_padded (fun b hb => hows b (hpre b hb)) hne hds]
  cases post with
  | nil => rfl
  | cons b post => simpa using hows b (hpost b (by simp))

variable {r : Response}

lemma status_wire (r : Response) : status (List.intercalate crlf r.lines) = r.status := by
  have hrest : ∃ rest, List.intercalate crlf r.lines = r.version ++ 32 :: (r.code ++ 32 :: rest) := by
    cases hfields : r.fields.map Field.line with
    | nil => exact ⟨r.reason, by simp [Response.lines, hfields, Response.statusLine]⟩
    | cons l ls =>
      refine ⟨r.reason ++ (crlf ++ List.intercalate crlf (l :: ls)), ?_⟩
      rw [Response.lines, hfields, intercalate_cons_cons, Response.statusLine]
      simp
  obtain ⟨rest, hrest⟩ := hrest
  have hskip : (r.version ++ 32 :: (r.code ++ 32 :: rest)).dropWhile (· ≠ 32) =
      32 :: (r.code ++ 32 :: rest) := by
    rw [dropWhile_append_of_pos, dropWhile_cons_of_neg (by simp)]
    intro b hb
    simpa using fun h : b = 32 => r.blank_notMem_version (h ▸ hb)
  have hdigits : firstDigits (r.code ++ 32 :: rest) = r.code := by
    have hne : r.code ≠ [] := by simp [Response.code]
    exact @firstDigits_padded [] r.code (32 :: rest) (by simp) hne r.isDigit_of_mem_code rfl
  have hlt := r.status_lt
  rw [status, hrest, hskip, drop_one, tail_cons, parseInt_eq, hdigits, r.decimal_code,
    wrap_of_lt (by omega)]

lemma lengthField_statusLine (r : Response) : lengthField r.statusLine = none := by
  have hlast : r.statusLine.getLast? ≠ some 13 :=
    fun hl => r.statusLine_no_cr (mem_of_getLast? hl)
  rw [lengthField, if_neg hlast, if_neg]
  rintro ⟨⟨t, ht⟩, -⟩
  have hc : (bytes "content-length" ++ t).head? = some 99 := rfl
  have hh : (r.statusLine.map lower).head? = some 104 := rfl
  rw [ht, hh] at hc
  exact absurd hc (by decide)

lemma announced_wire (hr : LengthDelimited r) :
    announced r.wire = some (r.head.length, some r.body.length) := by
  obtain ⟨⟨f, hf, hv⟩, -⟩ := hr
  have hlines : ∀ l ∈ r.lines, (13 : UInt8) ∉ l ∧ (10 : UInt8) ∉ l :=
    fun l hl => ⟨(r.lines_ok l hl).2, r.lf_notMem_lines l hl⟩
  have hfield : ((List.intercalate crlf r.lines).splitOn 10).findSome? lengthField = some f.value := by
    rw [findSome_splitOn (fun l => lengthField_cr) (by simp [Response.lines]) hlines,
      Response.lines, List.findSome?_cons, lengthField_statusLine]
    exact findSome_lengthField hf
  rw [announced, r.find_wire, map_some, r.take_wire, hfield, map_some,
    decimal_firstDigits hv, Nat.sub_add_cancel r.four_le_head]

theorem parse_wire (hr : LengthDelimited r) (hlen : r.wire.length < 2 ^ 62) :
    parse r.wire = some ⟨r.status, r.head.length, r.body.length, true⟩ := by
  have hsum := r.length_wire
  have hmod : r.body.length % 2 ^ 63 = r.body.length := Nat.mod_eq_of_lt (by omega)
  have hfit : r.head.length + r.body.length % 2 ^ 63 < 2 ^ 62 := by omega
  obtain ⟨hn, hwrap⟩ := wrap_of_fits hfit
  rw [parse_eq, announced_wire hr, bind_some, complete_of_le r.four_le_head]
  · simp only [reduced, getD_some, isSome_some, hn, hmod, r.take_wire, status_wire]
  · simp only [reduced, getD_some, hwrap]
    omega

theorem parse_take (hr : LengthDelimited r) (hlen : r.wire.length < 2 ^ 62) {n : ℕ}
    (hn : n < r.wire.length) : parse (r.wire.take n) = none := by
  have hsum := r.length_wire
  have hmod : r.body.length % 2 ^ 63 = r.body.length := Nat.mod_eq_of_lt (by omega)
  rw [parse_eq]
  cases h : announced (r.wire.take n) with
  | none => rfl
  | some x =>
    have happ := announced_append (r.wire.drop n) h
    rw [take_append_drop, announced_wire hr, Option.some.injEq] at happ
    subst happ
    have hfit : r.head.length + r.body.length % 2 ^ 63 < 2 ^ 62 := by omega
    obtain ⟨-, hwrap⟩ := wrap_of_fits hfit
    refine complete_of_lt r.four_le_head ?_
    simp only [reduced, getD_some, hwrap, length_take]
    omega

end Wire

end SttBench.OxcamlEpoll.HttpResponse
