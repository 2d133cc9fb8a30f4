import SttBench.Core.Http1
import SttBench.Core.RustStr
import SttBench.RustSync.Protocol

/-!
# rust-sync: `parse_response`

It is run over the whole receive buffer each time the socket has been drained.
-/

namespace SttBench.RustSync

open Ascii List Option
open Http1 (crlf crlf2)

structure ParseErr where
  stage : ErrorStage
  kind : ErrorKind
  message : String
  status : Option ℕ
deriving DecidableEq, Repr

def usizeBound : ℕ := 2 ^ 64

def sliceRange (buf : Bytes) (a b : ℕ) : Except Panic Bytes :=
  if a ≤ b ∧ b ≤ buf.length then .ok ((buf.drop a).take (b - a)) else .error .SliceIndex

def statusOf (statusLine : Bytes) : ℕ :=
  (((statusLine.splitOn 32)[1]?).bind (RustStr.parseUnsigned (2 ^ 16))).getD 0

def declaredLength (line : Bytes) : Option ℕ :=
  (RustStr.splitOnce 58 line).bind fun kv =>
    if RustStr.eqIgnoreAsciiCase (RustStr.trim kv.1) (bytes "content-length") then
      RustStr.parseUnsigned usizeBound (RustStr.trim kv.2)
    else none

def contentLen (lines : List Bytes) : ℕ := (lines.findSome? declaredLength).getD 0

def classifyStatus (status : ℕ) : ErrorKind × Bool :=
  if status = 429 then (.Http429, true)
  else if 500 ≤ status ∧ status < 600 then (.Http5xx, true)
  else (.Http5xx, false)

def kindRetryable (kind : ErrorKind) : Bool := kind ≠ .ParseError

def interpret (fromSlice : Bytes → Except String InferResponse) (status : ℕ) (body : Bytes) :
    Except ParseErr InferResponse :=
  if ¬ (200 ≤ status ∧ status < 300) then
    .error ⟨.InferenceRequest, (classifyStatus status).1,
      "inference returned status " ++ toString status, some status⟩
  else match fromSlice body with
    | .ok infer => .ok infer
    | .error e => .error ⟨.InferenceResponseParse, .ParseError, e, some status⟩

def parseResponse (fromSlice : Bytes → Except String InferResponse) (buf : Bytes) :
    Except Panic (Option (Except ParseErr InferResponse)) :=
  match Search.find crlf2 buf with
  | none => .ok none
  | some pos =>
    let headEnd := pos + 4
    match RustStr.fromUtf8 (buf.take headEnd) with
    | none => .ok none
    | some head =>
      let lines := RustStr.splitCrlf head
      let status := statusOf (lines.headD [])
      let contentLen := contentLen lines.tail
      -- `head_end + content_len` wraps in a release build
      let stop := (headEnd + contentLen) % usizeBound
      if buf.length < stop then .ok none
      else (sliceRange buf headEnd stop).map fun body => some (interpret fromSlice status body)

lemma parseResponse_error {fromSlice : Bytes → Except String InferResponse} {buf : Bytes} {e : Panic}
    (h : parseResponse fromSlice buf = .error e) : e = .SliceIndex := by
  unfold parseResponse at h
  split at h
  · cases h
  · dsimp only at h
    split at h
    · cases h
    · unfold sliceRange at h
      split_ifs at h
      · cases h
      · exact (Except.error.inj h).symm

/-! ## What the buffer announces

`announced buf` is what the head of the buffer says, read off before any arithmetic is done: the
length of the head, the status, and the length declared for the body.  `parseResponse` is a
function of it and the bytes (`parseResponse_eq`).
-/

def announced (buf : Bytes) : Option (ℕ × ℕ × ℕ) :=
  (Search.find crlf2 buf).bind fun pos =>
    (RustStr.fromUtf8 (buf.take (pos + 4))).map fun head =>
      (pos + 4, statusOf ((RustStr.splitCrlf head).headD []),
        contentLen (RustStr.splitCrlf head).tail)

def LengthFits (buf : Bytes) : Prop :=
  ∀ headEnd status n, announced buf = some (headEnd, status, n) → headEnd + n < usizeBound

lemma parseResponse_eq (fromSlice : Bytes → Except String InferResponse) (buf : Bytes) :
    parseResponse fromSlice buf =
      match announced buf with
      | none => .ok none
      | some (headEnd, status, n) =>
        if buf.length < (headEnd + n) % usizeBound then .ok none
        else (sliceRange buf headEnd ((headEnd + n) % usizeBound)).map fun body =>
          some (interpret fromSlice status body) := by
  unfold parseResponse announced
  cases Search.find crlf2 buf with
  | none => rfl
  | some pos =>
    cases h : RustStr.fromUtf8 (buf.take (pos + 4)) with
    | none | some head => simp [h]

lemma contentLen_lt (lines : List Bytes) : contentLen lines < usizeBound := by
  unfold contentLen
  cases h : lines.findSome? declaredLength with
  | none => simp [usizeBound]
  | some n =>
    obtain ⟨line, -, hline⟩ := exists_of_findSome?_eq_some h
    simp only [declaredLength, bind_eq_some_iff] at hline
    obtain ⟨kv, -, hkv⟩ := hline
    split_ifs at hkv
    exact RustStr.parseUnsigned_lt (by simp [usizeBound]) hkv

lemma announced_bounds {buf : Bytes} {headEnd status n : ℕ}
    (h : announced buf = some (headEnd, status, n)) : headEnd ≤ buf.length ∧ n < usizeBound := by
  simp only [announced, bind_eq_some_iff, map_eq_some_iff, Prod.mk.injEq] at h
  obtain ⟨pos, hpos, head, -, rfl, -, rfl⟩ := h
  exact ⟨Search.find_fits hpos, contentLen_lt _⟩

lemma announced_append {buf : Bytes} {x : ℕ × ℕ × ℕ} (ext : Bytes) (h : announced buf = some x) :
    announced (buf ++ ext) = some x := by
  simp only [announced, bind_eq_some_iff] at h
  obtain ⟨pos, hpos, h⟩ := h
  have hfit : pos + 4 ≤ buf.length := Search.find_fits hpos
  rw [announced, Search.find_append ext hpos, bind_some,
    take_append_of_le_length hfit]
  exact h

/-! ## The four ways a call can go -/

section Cases

variable (fromSlice : Bytes → Except String InferResponse) {buf : Bytes} {headEnd status n : ℕ}

lemma parseResponse_of_no_head (h : announced buf = none) :
    parseResponse fromSlice buf = .ok none := by
  rw [parseResponse_eq, h]

lemma parseResponse_of_short (h : announced buf = some (headEnd, status, n))
    (hfit : headEnd + n < usizeBound) (hshort : buf.length < headEnd + n) :
    parseResponse fromSlice buf = .ok none := by
  rw [parseResponse_eq, h]
  exact if_pos (by rwa [Nat.mod_eq_of_lt hfit])

lemma parseResponse_of_complete (h : announced buf = some (headEnd, status, n))
    (hfit : headEnd + n < usizeBound) (hlong : headEnd + n ≤ buf.length) :
    parseResponse fromSlice buf =
      .ok (some (interpret fromSlice status ((buf.drop headEnd).take n))) := by
  simp only [parseResponse_eq, h, Nat.mod_eq_of_lt hfit, if_neg (not_lt.mpr hlong), sliceRange,
    if_pos (And.intro (Nat.le_add_right headEnd n) hlong), Nat.add_sub_cancel_left]
  rfl

lemma wrapped_lt (hn : n < usizeBound) (hwrap : usizeBound ≤ headEnd + n) :
    (headEnd + n) % usizeBound < headEnd := by
  rw [Nat.mod_eq_sub_mod hwrap]
  calc (headEnd + n - usizeBound) % usizeBound ≤ headEnd + n - usizeBound := Nat.mod_le _ _
    _ < headEnd := by omega

lemma parseResponse_of_wraps (h : announced buf = some (headEnd, status, n))
    (hwrap : usizeBound ≤ headEnd + n) : parseResponse fromSlice buf = .error .SliceIndex := by
  obtain ⟨hhead, hn⟩ := announced_bounds h
  have hstop := wrapped_lt hn hwrap
  -- the test for completeness passes, since the stop lies inside the head
  have hlong : ¬ buf.length < (headEnd + n) % usizeBound := by omega
  have hrange : ¬ (headEnd ≤ (headEnd + n) % usizeBound ∧
      (headEnd + n) % usizeBound ≤ buf.length) := fun hr => by omega
  simp only [parseResponse_eq, h, if_neg hlong, sliceRange, if_neg hrange]
  rfl

end Cases

/-! ## Panics and stability -/

theorem parseResponse_returns_iff (fromSlice : Bytes → Except String InferResponse) (buf : Bytes) :
    (∃ o, parseResponse fromSlice buf = .ok o) ↔ LengthFits buf := by
  cases h : announced buf with
  | none => simp [LengthFits, h, parseResponse_of_no_head]
  | some x =>
    obtain ⟨headEnd, status, n⟩ := x
    have hfits : LengthFits buf ↔ headEnd + n < usizeBound := by
      simp only [LengthFits, h, Option.some.injEq, Prod.mk.injEq]
      exact ⟨fun hl => hl _ _ _ ⟨rfl, rfl, rfl⟩, fun hl _ _ _ ⟨h1, _, h3⟩ => h1 ▸ h3 ▸ hl⟩
    rw [hfits]
    by_cases hfit : headEnd + n < usizeBound
    · simp only [hfit, iff_true]
      by_cases hlong : headEnd + n ≤ buf.length
      · exact ⟨_, parseResponse_of_complete fromSlice h hfit hlong⟩
      · exact ⟨_, parseResponse_of_short fromSlice h hfit (not_le.mp hlong)⟩
    · simp [hfit, parseResponse_of_wraps fromSlice h (not_lt.mp hfit)]

theorem parseResponse_append {fromSlice : Bytes → Except String InferResponse} {buf : Bytes}
    {r : Except ParseErr InferResponse} (ext : Bytes)
    (hr : parseResponse fromSlice buf = .ok (some r)) :
    parseResponse fromSlice (buf ++ ext) = .ok (some r) := by
  cases h : announced buf with
  | none => simp [parseResponse_of_no_head fromSlice h] at hr
  | some x =>
    obtain ⟨headEnd, status, n⟩ := x
    have hfit : headEnd + n < usizeBound := by
      by_contra hwrap
      simp [parseResponse_of_wraps fromSlice h (not_lt.mp hwrap)] at hr
    have hlong : headEnd + n ≤ buf.length := by
      by_contra hshort
      simp [parseResponse_of_short fromSlice h hfit (not_le.mp hshort)] at hr
    have hbody : ((buf ++ ext).drop headEnd).take n = (buf.drop headEnd).take n := by
      rw [drop_append_of_le_length (by omega), take_append_of_le_length]
      rw [length_drop]
      omega
    rw [parseResponse_of_complete fromSlice (announced_append ext h) hfit
      (by rw [length_append]; omega), hbody]
    rwa [parseResponse_of_complete fromSlice h hfit hlong] at hr

theorem parseResponse_safe_iff (fromSlice : Bytes → Except String InferResponse) (buf : Bytes) :
    ((∃ o, parseResponse fromSlice buf = .ok o) ∧
      ∀ r ext, parseResponse fromSlice buf = .ok (some r) →
        parseResponse fromSlice (buf ++ ext) = .ok (some r)) ↔ LengthFits buf := by
  rw [parseResponse_returns_iff]
  exact ⟨fun h => h.1, fun h => ⟨h, fun r ext hr => parseResponse_append ext hr⟩⟩

theorem parseResponse_panics :
    parseResponse (fun _ => .error "")
      (bytes "HTTP/1.1 200 OK\r\nContent-Length: 18446744073709551615\r\n\r\n") =
        .error .SliceIndex := by
  decide

/-! ## Reading a well-formed response

What the parser makes of a length-delimited response in the grammar of `Core.Http1`: nothing while
it is incomplete, and its meaning from its last byte on, whatever follows.  The one thing the
grammar allows and the parser does not is a head that is not UTF-8.
-/

section Wire

open Http1

lemma statusOf_statusLine (r : Response) : statusOf r.statusLine = r.status := by
  have hcode : (32 : UInt8) ∉ r.code := fun h => absurd (r.isDigit_of_mem_code 32 h) (by decide)
  have hlt : decimal r.code < 2 ^ 16 := by
    have := r.status_lt
    rw [r.decimal_code]
    omega
  rw [statusOf, Response.statusLine,
    splitOn_append_cons_self_of_not_mem r.blank_notMem_version,
    splitOn_append_cons_self_of_not_mem hcode]
  have hparse := RustStr.parseUnsigned_of_digits (by simp [Response.code]) r.isDigit_of_mem_code hlt
  simp only [List.getElem?_cons_succ, List.getElem?_cons_zero, bind_some, hparse,
    r.decimal_code, getD_some]

lemma declaredLength_line (f : Field) :
    declaredLength f.line =
      if f.named contentLengthName then RustStr.parseUnsigned usizeBound (RustStr.trim f.value)
      else none := by
  have hcolon : (58 : UInt8) ∉ f.name := fun h => (f.name_ok 58 h).2 rfl
  have htrim : RustStr.trim f.name = f.name := by
    simpa using RustStr.trim_padded [] f.name [] (by simp) (by simp) f.name_ne
      fun b hb => (f.name_ok b hb).1
  have hname : RustStr.eqIgnoreAsciiCase f.name (bytes "content-length") =
      f.named contentLengthName := by
    have hlow : (bytes "content-length").map lower = contentLengthName := by decide
    rw [RustStr.eqIgnoreAsciiCase, hlow, Field.named]
  rw [declaredLength, Field.line, RustStr.splitOnce_of_notMem hcolon]
  simp only [bind_some, htrim, hname]

lemma parseUnsigned_trim {v : Bytes} {n : ℕ} (hv : IsLength v n) (hn : n < usizeBound) :
    RustStr.parseUnsigned usizeBound (RustStr.trim v) = some n := by
  obtain ⟨pre, ds, post, rfl, hpre, hpost, hne, hds, rfl⟩ := hv
  have hows : ∀ b, isOws b = true → RustStr.isWs1 b = true := fun b hb => by
    simp only [isOws, Bool.or_eq_true, decide_eq_true_eq] at hb
    rcases hb with rfl | rfl <;> decide
  rw [RustStr.trim_padded pre ds post (fun b hb => hows b (hpre b hb))
    (fun b hb => hows b (hpost b hb)) hne fun b hb => isDigit.isVisible (hds b hb)]
  exact RustStr.parseUnsigned_of_digits hne hds hn

lemma findSome_declaredLength {fields : List Field} {f : Field} {n : ℕ} (tail : List Bytes)
    (hf : fields.filter (Field.named contentLengthName) = [f]) (hv : IsLength f.value n)
    (hn : n < usizeBound) :
    (fields.map Field.line ++ tail).findSome? declaredLength = some n := by
  induction fields with
  | nil => simp at hf
  | cons g fields ih =>
    rw [map_cons, cons_append, List.findSome?_cons, declaredLength_line]
    by_cases hg : g.named contentLengthName
    · obtain ⟨rfl, -⟩ : g = f ∧ _ := by simpa [filter_cons, hg] using hf
      simp [hg, parseUnsigned_trim hv hn]
    · simp only [hg, Bool.false_eq_true, if_false]
      exact ih (by simpa [filter_cons, hg] using hf)

lemma splitCrlf_head (r : Response) : RustStr.splitCrlf r.head = r.lines ++ [[], []] := by
  have hlines : ∀ ls : List Bytes, (∀ l ∈ ls, (13 : UInt8) ∉ l) →
      RustStr.splitCrlf (ls.flatMap (· ++ crlf) ++ crlf) = ls ++ [[], []] := by
    intro ls hls
    induction ls with
    | nil => rfl
    | cons l ls ih =>
      simp only [flatMap_cons, append_assoc, cons_append]
      have ih := ih fun x hx => hls x (mem_cons_of_mem _ hx)
      rw [show crlf ++ (ls.flatMap (· ++ crlf) ++ crlf) =
        13 :: 10 :: (ls.flatMap (· ++ crlf) ++ crlf) from rfl,
        RustStr.splitCrlf_line _ (hls l (by simp)), ih]
  exact hlines r.lines fun l hl => (r.lines_ok l hl).2

variable {r : Response}

lemma find_wire_append (r : Response) (ext : Bytes) :
    Search.find crlf2 (r.wire ++ ext) = some (r.head.length - 4) :=
  Search.find_append ext r.find_wire

lemma take_head (r : Response) (ext : Bytes) :
    (r.wire ++ ext).take (r.head.length - 4 + 4) = r.head := by
  rw [Nat.sub_add_cancel r.four_le_head, Response.wire, append_assoc, take_left']
  rfl

lemma announced_wire (hr : LengthDelimited r) (hutf : RustStr.isUtf8 r.head)
    (hlen : r.body.length < usizeBound) (ext : Bytes) :
    announced (r.wire ++ ext) = some (r.head.length, r.status, r.body.length) := by
  obtain ⟨⟨f, hf, hv⟩, -⟩ := hr
  have hcl : contentLen ((r.lines ++ [[], []]).tail) = r.body.length := by
    rw [contentLen, Response.lines, cons_append, tail_cons,
      findSome_declaredLength _ hf hv hlen]
    rfl
  have hst : statusOf ((r.lines ++ [[], []]).headD []) = r.status := statusOf_statusLine r
  rw [announced, find_wire_append, bind_some, take_head, RustStr.fromUtf8, if_pos hutf,
    map_some, splitCrlf_head, hcl, hst, Nat.sub_add_cancel r.four_le_head]

theorem parseResponse_wire (fromSlice : Bytes → Except String InferResponse)
    (hr : LengthDelimited r) (hutf : RustStr.isUtf8 r.head) (hlen : r.wire.length < usizeBound)
    (ext : Bytes) :
    parseResponse fromSlice (r.wire ++ ext) = .ok (some (interpret fromSlice r.status r.body)) := by
  have hsum := r.length_wire
  have hann := announced_wire hr hutf (by omega) ext
  rw [parseResponse_of_complete fromSlice hann (by omega) (by rw [length_append]; omega),
    Response.wire, append_assoc, drop_left, take_left]

theorem parseResponse_take (fromSlice : Bytes → Except String InferResponse)
    (hr : LengthDelimited r) (hlen : r.wire.length < usizeBound) {n : ℕ} (hn : n < r.wire.length) :
    parseResponse fromSlice (r.wire.take n) = .ok none := by
  have hsum := r.length_wire
  have h4 := r.four_le_head
  cases h : announced (r.wire.take n) with
  | none => exact parseResponse_of_no_head fromSlice h
  | some x =>
    obtain ⟨headEnd, status, m⟩ := x
    have happ := announced_append (r.wire.drop n) h
    rw [take_append_drop] at happ
    by_cases hutf : RustStr.isUtf8 r.head
    · have hann := announced_wire hr hutf (by omega) []
      rw [append_nil, happ, Option.some.injEq, Prod.mk.injEq, Prod.mk.injEq] at hann
      obtain ⟨rfl, -, rfl⟩ := hann
      refine parseResponse_of_short fromSlice h (by omega) ?_
      rw [length_take]
      omega
    · -- the head is never accepted, so it cannot have been announced
      have hfind := find_wire_append r []
      have htake := take_head r []
      rw [append_nil] at hfind htake
      rw [announced, hfind, bind_some, htake, RustStr.fromUtf8, if_neg hutf] at happ
      simp at happ

theorem parseResponse_of_not_utf8 (fromSlice : Bytes → Except String InferResponse)
    (hutf : RustStr.isUtf8 r.head = false) (ext : Bytes) :
    parseResponse fromSlice (r.wire ++ ext) = .ok none := by
  refine parseResponse_of_no_head fromSlice ?_
  rw [announced, find_wire_append, bind_some, take_head, RustStr.fromUtf8, hutf]
  simp

end Wire

end SttBench.RustSync
