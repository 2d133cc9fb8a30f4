import SttBench.Core.Ascii
import SttBench.Core.Search

/-!
# HTTP/1.1 responses on the wire

The grammar of a response message, independent of any parser.
-/

namespace Http1

open Ascii List

def crlf : Bytes := [13, 10]

def crlf2 : Bytes := [13, 10, 13, 10]

structure Field where
  name : Bytes
  value : Bytes
  name_ne : name ≠ []
  name_ok : ∀ b ∈ name, isVisible b ∧ b ≠ 58
  value_ok : ∀ b ∈ value, b ≠ 13 ∧ b ≠ 10

def Field.line (f : Field) : Bytes := f.name ++ 58 :: f.value

def Field.named (n : Bytes) (f : Field) : Bool := f.name.map lower == n

structure Response where
  minor : Fin 10
  hundreds : Fin 10
  tens : Fin 10
  ones : Fin 10
  reason : Bytes
  reason_ok : ∀ b ∈ reason, b ≠ 13 ∧ b ≠ 10
  fields : List Field
  body : Bytes

namespace Response

variable (r : Response)

def status : ℕ := 100 * r.hundreds + 10 * r.tens + r.ones

def version : Bytes := bytes "HTTP/1." ++ [digit r.minor]

def code : Bytes := [digit r.hundreds, digit r.tens, digit r.ones]

def statusLine : Bytes := r.version ++ 32 :: (r.code ++ 32 :: r.reason)

def lines : List Bytes := r.statusLine :: r.fields.map Field.line

def head : Bytes := r.lines.flatMap (· ++ crlf) ++ crlf

def wire : Bytes := r.head ++ r.body

end Response

def isOws (b : UInt8) : Bool := b = 32 || b = 9

def IsLength (v : Bytes) (n : ℕ) : Prop :=
  ∃ pre ds post : Bytes, v = pre ++ (ds ++ post) ∧ (∀ b ∈ pre, isOws b) ∧ (∀ b ∈ post, isOws b) ∧
    ds ≠ [] ∧ (∀ b ∈ ds, isDigit b) ∧ decimal ds = n

def contentLengthName : Bytes := bytes "content-length"

def transferEncodingName : Bytes := bytes "transfer-encoding"

def LengthDelimited (r : Response) : Prop :=
  (∃ f, r.fields.filter (Field.named contentLengthName) = [f] ∧ IsLength f.value r.body.length) ∧
    ∀ g ∈ r.fields, g.named transferEncodingName = false

/-! ## The head ends at the first blank line -/

lemma Field.line_no_cr (f : Field) : (13 : UInt8) ∉ f.line := by
  simp only [Field.line, mem_append, mem_cons, not_or]
  refine ⟨fun h => ?_, by decide, fun h => (f.value_ok 13 h).1 rfl⟩
  exact absurd (f.name_ok 13 h).1 (by decide)

lemma Response.statusLine_no_cr (r : Response) : (13 : UInt8) ∉ r.statusLine := by
  have hd : ∀ d : Fin 10, (13 : UInt8) ≠ digit d := fun d => (digit_ne d (by decide)).symm
  have hv : (13 : UInt8) ∉ bytes "HTTP/1." := by decide
  simp only [Response.statusLine, Response.version, Response.code, mem_append, mem_cons,
    not_mem_nil, not_or, or_false]
  exact ⟨⟨hv, hd _⟩, by decide, ⟨hd _, hd _, hd _⟩, by decide, fun h => (r.reason_ok 13 h).1 rfl⟩

lemma find_lines {ls : List Bytes} (body : Bytes) (hne : ls ≠ [])
    (hls : ∀ l ∈ ls, l ≠ [] ∧ (13 : UInt8) ∉ l) :
    Search.find crlf2 (ls.flatMap (· ++ crlf) ++ (crlf ++ body))
      = some ((ls.flatMap (· ++ crlf)).length - 2) := by
  induction ls with
  | nil => exact absurd rfl hne
  | cons l ls ih =>
    obtain ⟨-, hl⟩ := hls l (by simp)
    cases ls with
    | nil =>
      have h0 : Search.find crlf2 (crlf ++ (crlf ++ body)) = some 0 := by
        rw [crlf, crlf2, cons_append, Search.find, if_pos]
        exact ⟨body, by simp⟩
      simp only [flatMap_cons, flatMap_nil, append_nil, append_assoc]
      rw [crlf2, Search.find_skip hl, ← crlf2, h0]
      simp [crlf]
    | cons l' ls =>
      have ih := ih (by simp) (fun x hx => hls x (mem_cons_of_mem _ hx))
      obtain ⟨hne', hl'⟩ := hls l' (by simp)
      -- the line after this one starts with something other than a carriage return
      obtain ⟨c, t, rfl⟩ := exists_cons_of_ne_nil hne'
      simp only [mem_cons, not_or] at hl'
      set rest := ((c :: t) :: ls).flatMap (· ++ crlf) ++ (crlf ++ body) with hrest
      obtain ⟨u, hu⟩ : ∃ u, rest = c :: u :=
        ⟨t ++ (crlf ++ (ls.flatMap (· ++ crlf) ++ (crlf ++ body))), by simp [hrest]⟩
      have hskip : Search.find crlf2 (crlf ++ rest) = (Search.find crlf2 rest).map (· + 2) := by
        rw [hu, crlf, crlf2, cons_append, cons_append, nil_append, Search.find,
          if_neg (by simp [hl'.1]), Search.find, if_neg (by simp)]
        simp [Option.map_map, Function.comp_def]
      rw [flatMap_cons, append_assoc, append_assoc, ← hrest, crlf2,
        Search.find_skip hl, ← crlf2, hskip, ih]
      simp [crlf]
      omega

namespace Response

variable (r : Response)

lemma lines_ok : ∀ l ∈ r.lines, l ≠ [] ∧ (13 : UInt8) ∉ l := by
  intro l hl
  rcases mem_cons.mp hl with rfl | hl
  · exact ⟨by simp [statusLine, version], r.statusLine_no_cr⟩
  · obtain ⟨f, -, rfl⟩ := mem_map.mp hl
    exact ⟨by simp [Field.line], f.line_no_cr⟩

lemma lf_notMem_lines : ∀ l ∈ r.lines, (10 : UInt8) ∉ l := by
  intro l hl hmem
  rcases mem_cons.mp hl with rfl | hl
  · have hd : ∀ d : Fin 10, (10 : UInt8) ≠ digit d := fun d => (digit_ne d (by decide)).symm
    have hv : (10 : UInt8) ∉ bytes "HTTP/1." := by decide
    simp only [statusLine, version, code, mem_append, mem_cons, not_mem_nil,
      or_false] at hmem
    rcases hmem with (hmem | hmem) | hmem | (hmem | hmem | hmem) | hmem | hmem
    · exact hv hmem
    · exact hd _ hmem
    · exact absurd hmem (by decide)
    · exact hd _ hmem
    · exact hd _ hmem
    · exact hd _ hmem
    · exact absurd hmem (by decide)
    · exact (r.reason_ok 10 hmem).2 rfl
  · obtain ⟨f, -, rfl⟩ := mem_map.mp hl
    simp only [Field.line, mem_append, mem_cons] at hmem
    rcases hmem with hmem | hmem | hmem
    · exact absurd (f.name_ok 10 hmem).1 (by decide)
    · exact absurd hmem (by decide)
    · exact (f.value_ok 10 hmem).2 rfl

lemma take_wire : r.wire.take (r.head.length - 4) = List.intercalate crlf r.lines := by
  have htext : ∀ {ls : List Bytes}, ls ≠ [] →
      ls.flatMap (· ++ crlf) = List.intercalate crlf ls ++ crlf := by
    intro ls hne
    induction ls with
    | nil => exact absurd rfl hne
    | cons l ls ih =>
      cases ls with
      | nil => simp [List.intercalate]
      | cons l' ls =>
        rw [flatMap_cons, ih (by simp), intercalate_cons_cons]
        simp
  have hhead : r.head = List.intercalate crlf r.lines ++ crlf2 := by
    rw [head, htext (by simp [lines]), append_assoc]
    rfl
  rw [wire, hhead, append_assoc, length_append, show crlf2.length = 4 from rfl,
    Nat.add_sub_cancel, take_left]

lemma blank_notMem_version : (32 : UInt8) ∉ r.version := by
  simp only [version, mem_append, mem_singleton, not_or]
  exact ⟨by decide, (digit_ne _ (by decide)).symm⟩

lemma isDigit_of_mem_code : ∀ b ∈ r.code, isDigit b := by
  simp only [code, mem_cons, not_mem_nil, or_false]
  rintro b (rfl | rfl | rfl) <;> exact isDigit_digit _

lemma decimal_code : decimal r.code = r.status := by
  simp only [decimal, code, status, decimalFrom_cons, decimalFrom_nil, digit_toNat]
  omega

lemma status_lt : r.status < 1000 := by
  rw [status]
  omega

lemma four_le_head : 4 ≤ r.head.length := by
  simp only [head, lines, flatMap_cons, length_append, crlf, length_cons,
    length_nil]
  omega

lemma length_wire : r.wire.length = r.head.length + r.body.length :=
  length_append

lemma head?_wire : r.wire.head? = some 72 := rfl

theorem find_wire : Search.find crlf2 r.wire = some (r.head.length - 4) := by
  rw [wire, head, append_assoc, find_lines r.body (by simp [lines]) r.lines_ok]
  simp [crlf]

end Response

def okAnswer (field : Field) (body : Bytes) : Response where
  minor := 1
  hundreds := 2
  tens := 0
  ones := 0
  reason := bytes "OK"
  reason_ok := by decide
  fields := [field]
  body := body

/-! ## A keep-alive connection -/

def stream (answers : ℕ → Response) (n : ℕ) : Bytes := (List.range n).flatMap fun i => (answers i).wire

lemma stream_succ (answers : ℕ → Response) (n : ℕ) :
    stream answers (n + 1) = stream answers n ++ (answers n).wire := by
  simp [stream, range_succ]

end Http1
