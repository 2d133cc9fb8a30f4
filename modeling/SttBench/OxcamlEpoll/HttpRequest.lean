import SttBench.Core.Buffer
import SttBench.Core.Json
import SttBench.OxcamlEpoll.Protocol

/-! # ocaml-oxcaml-epoll: the request in a slot -/

namespace SttBench.OxcamlEpoll

open Ascii Buffer

namespace HttpRequest

def postPrefix : Bytes := bytes "POST /infer HTTP/1.1\r\nHost: "
def portPrefix : Bytes := bytes ":"
def cpuPassesPrefix : Bytes := bytes "\r\nx-cpu-passes: "
def contentTypePrefix : Bytes :=
  bytes "\r\nContent-Type: application/octet-stream\r\nContent-Length: "
def suffix : Bytes := bytes "\r\nConnection: keep-alive\r\n\r\n"

def decimalLenLoop (n digits : ℕ) : ℕ :=
  if n < 10 then digits else decimalLenLoop (n / 10) (digits + 1)

def decimalLen (n : ℤ) : ℕ := decimalLenLoop (max 0 n).toNat 1

def inferHeaderLen (host : Bytes) (port cpuPasses bodyLen : ℤ) : ℕ :=
  postPrefix.length + host.length + portPrefix.length + decimalLen port + cpuPassesPrefix.length +
    decimalLen cpuPasses + contentTypePrefix.length + decimalLen bodyLen + suffix.length

def writeString (s : Bytes) (out : Bytes) (pos : ℕ) : Option (Bytes × ℕ) := do
  let out ← blit s 0 out pos s.length
  some (out, pos + s.length)

def writeDigits (pos : ℕ) (out : Bytes) (value : ℕ) : ℕ → Option Bytes
  | 0 => set out (pos + 0) (48 + UInt8.ofNat (value % 10))
  | i + 1 => do
      let out ← set out (pos + (i + 1)) (48 + UInt8.ofNat (value % 10))
      writeDigits pos out (value / 10) i

def writeDecimal (n : ℤ) (out : Bytes) (pos : ℕ) : Option (Bytes × ℕ) := do
  let n := max 0 n
  let len := decimalLen n
  let out ← writeDigits pos out n.toNat (len - 1)
  some (out, pos + len)

def writeInferHeader (host : Bytes) (port cpuPasses bodyLen : ℤ) (out : Bytes) (pos : ℕ) :
    Option (Bytes × ℕ) := do
  let start := pos
  let (out, pos) ← writeString postPrefix out pos
  let (out, pos) ← writeString host out pos
  let (out, pos) ← writeString portPrefix out pos
  let (out, pos) ← writeDecimal port out pos
  let (out, pos) ← writeString cpuPassesPrefix out pos
  let (out, pos) ← writeDecimal cpuPasses out pos
  let (out, pos) ← writeString contentTypePrefix out pos
  let (out, pos) ← writeDecimal bodyLen out pos
  let (out, pos) ← writeString suffix out pos
  some (out, pos - start)

/-! ## Numbers -/

structure Reads (ds : Bytes) (n : ℤ) : Prop where
  digits : Json.IsDigits ds
  value : (decimal ds : ℤ) = n

lemma decimalLenLoop_eq (n digits : ℕ) :
    decimalLenLoop n (digits + 1) = OxcamlEpoll.decimalLen n + digits := by
  fun_induction OxcamlEpoll.decimalLen n generalizing digits with
  | case1 n hlt => rw [decimalLenLoop, if_pos hlt, Nat.add_comm]
  | case2 n hge ih => rw [decimalLenLoop, if_neg hge, ih, Nat.add_assoc, Nat.add_comm 1]

lemma decimalLen_eq (n : ℤ) : decimalLen n = OxcamlEpoll.decimalLen n.toNat := by
  have hmax : (max 0 n).toNat = n.toNat := by omega
  rw [decimalLen, hmax, decimalLenLoop_eq n.toNat 0, Nat.add_zero]

lemma length_decimalDigits (value len : ℕ) : (decimalDigits value len).length = len := by
  induction len generalizing value with
  | zero => rfl
  | succ len ih => rw [decimalDigits, List.length_append, ih, List.length_singleton]

lemma decimalDigits_spec (value len : ℕ) :
    (∀ c ∈ decimalDigits value len, isDigit c) ∧
      decimal (decimalDigits value len) = value % 10 ^ len := by
  induction len generalizing value with
  | zero => simp [decimalDigits, decimal, Nat.mod_one]
  | succ len ih =>
    obtain ⟨hdigits, hvalue⟩ := ih (value / 10)
    have hlt : value % 10 < 10 := Nat.mod_lt _ (by decide)
    have hdigit : 48 + UInt8.ofNat (value % 10) = digit ⟨value % 10, hlt⟩ := rfl
    rw [decimalDigits, hdigit]
    constructor
    · simpa [or_imp, forall_and] using ⟨hdigits, isDigit_digit _⟩
    · rw [decimal, decimalFrom] at hvalue
      rw [decimal, decimalFrom, List.foldl_append, hvalue, pow_succ']
      simp only [List.foldl_cons, List.foldl_nil, digit_toNat]
      rw [Nat.mod_mul]
      omega

lemma lt_pow_decimalLen (n : ℕ) : n < 10 ^ OxcamlEpoll.decimalLen n := by
  fun_induction OxcamlEpoll.decimalLen n with
  | case1 n hlt => simpa using hlt
  | case2 n hge ih =>
    rw [pow_succ]
    omega

lemma decimalLen_pos (n : ℕ) : 0 < OxcamlEpoll.decimalLen n := by
  rw [OxcamlEpoll.decimalLen]
  split_ifs <;> omega

lemma reads_writeDecimal {n : ℤ} (hn : 0 ≤ n) : Reads (OxcamlEpoll.writeDecimal n) n := by
  obtain ⟨hdigits, hvalue⟩ := decimalDigits_spec n.toNat (OxcamlEpoll.decimalLen n.toNat)
  rw [Nat.mod_eq_of_lt (lt_pow_decimalLen _)] at hvalue
  refine ⟨⟨?_, hdigits⟩, ?_⟩
  · have hpos := decimalLen_pos n.toNat
    rw [← List.length_pos_iff, OxcamlEpoll.writeDecimal, length_decimalDigits]
    exact hpos
  · rw [OxcamlEpoll.writeDecimal, hvalue]
    exact Int.toNat_of_nonneg hn

/-! ## The header -/

lemma writeString_writes (s : Bytes) : Writes (writeString s) s := by
  intro out pos
  simp only [writeString, blit_all, Option.bind_eq_bind, Option.map_eq_bind]
  rfl

lemma writeDigits_eq (pos value i : ℕ) (out : Bytes) :
    writeDigits pos out value i = write out pos (decimalDigits value (i + 1)) := by
  induction i generalizing out value with
  | zero => rfl
  | succ i ih =>
    have hlen : (decimalDigits (value / 10) (i + 1)).length = i + 1 := length_decimalDigits _ _
    rw [decimalDigits, ← write_append_rev, hlen]
    simp only [writeDigits, ih]
    rfl

lemma writeDecimal_writes (n : ℤ) : Writes (writeDecimal n) (OxcamlEpoll.writeDecimal n) := by
  intro out pos
  have hmax : (max 0 n).toNat = n.toNat := by omega
  have hpos := decimalLen_pos n.toNat
  have hlen : OxcamlEpoll.decimalLen n.toNat - 1 + 1 = OxcamlEpoll.decimalLen n.toNat := by omega
  simp only [writeDecimal, decimalLen_eq, hmax, writeDigits_eq, hlen, Option.bind_eq_bind,
    OxcamlEpoll.writeDecimal, length_decimalDigits, Option.map_eq_bind]
  rfl

lemma length_inferHeader (config : Config) (bodyLen : ℕ) :
    (inferHeader config bodyLen).length =
      inferHeaderLen config.inferenceHost config.inferencePort config.cpuPasses bodyLen := by
  have hlen (n : ℤ) : (OxcamlEpoll.writeDecimal n).length = decimalLen n := by
    rw [OxcamlEpoll.writeDecimal, length_decimalDigits, decimalLen_eq]
  simp only [inferHeader, List.length_append, hlen]
  rfl

lemma writeInferHeader_eq (config : Config) (bodyLen : ℕ) (out : Bytes) (pos : ℕ) :
    writeInferHeader config.inferenceHost config.inferencePort config.cpuPasses bodyLen out pos =
      (write out pos (inferHeader config bodyLen)).map
        (·, inferHeaderLen config.inferenceHost config.inferencePort config.cpuPasses bodyLen) := by
  have hall := (writeString_writes postPrefix).andThen
    ((writeString_writes config.inferenceHost).andThen
    ((writeString_writes portPrefix).andThen
    ((writeDecimal_writes config.inferencePort).andThen
    ((writeString_writes cpuPassesPrefix).andThen
    ((writeDecimal_writes config.cpuPasses).andThen
    ((writeString_writes contentTypePrefix).andThen
    ((writeDecimal_writes bodyLen).andThen (writeString_writes suffix))))))))
  simp only [← List.append_assoc] at hall
  have hheader := congrArg (Option.map fun x : Bytes × ℕ => (x.1, x.2 - pos)) (hall out pos)
  refine Eq.trans ?_ (hheader.trans ?_)
  · simp only [writeInferHeader, Option.bind_eq_bind, Option.map_eq_bind, Option.bind_assoc]
    rfl
  · rw [Option.map_map, ← length_inferHeader]
    simp only [Function.comp_def, Nat.add_sub_cancel_left]
    rfl

end HttpRequest

/-! ## The buffer of a slot -/

structure Dynbuf where
  data : Bytes
  len : ℕ
deriving DecidableEq, Repr

namespace Dynbuf

variable (alloc : Alloc UInt8)

def contents (b : Dynbuf) : Bytes := b.data.take b.len

def ensure (b : Dynbuf) (extra : ℕ) : Option Dynbuf := do
  let data ← reserve alloc b.data b.len extra
  some { b with data := data }

def appendBytes (b : Dynbuf) (src : Bytes) (pos len : ℕ) : Option Dynbuf := do
  let b ← b.ensure alloc len
  let data ← blit src pos b.data b.len len
  some ⟨data, b.len + len⟩

def clear (b : Dynbuf) : Dynbuf := { b with len := 0 }

end Dynbuf

structure SlotRequest where
  req : Dynbuf
  reqPos : ℕ
deriving DecidableEq, Repr

open HttpRequest in
def buildRequest (alloc : Alloc UInt8) (config : Config) (slot : SlotRequest) (body : Bytes)
    (bodyLen : ℕ) : Option SlotRequest := do
  let req := slot.req.clear
  let headerLen :=
    inferHeaderLen config.inferenceHost config.inferencePort config.cpuPasses bodyLen
  let req ← req.ensure alloc (headerLen + bodyLen)
  let (data, wrote) ← writeInferHeader config.inferenceHost config.inferencePort config.cpuPasses
    bodyLen req.data req.len
  let req : Dynbuf := ⟨data, req.len + wrote⟩
  let req ← req.appendBytes alloc body 0 bodyLen
  some ⟨req, 0⟩

open HttpRequest

lemma buildRequest_eq (alloc : Alloc UInt8) (config : Config) (slot : SlotRequest) {body : Bytes}
    {bodyLen : ℕ} (hbody : bodyLen ≤ body.length) :
    ∃ slot', buildRequest alloc config slot body bodyLen = some slot' ∧ slot'.reqPos = 0 ∧
      slot'.req.contents = request config (body.take bodyLen) := by
  have htake : (body.take bodyLen).length = bodyLen := List.length_take_of_le hbody
  have hlen := length_inferHeader config bodyLen
  have hnil : [] <+: slot.req.data := List.nil_prefix
  obtain ⟨data₁, h₁, hroom₁, -⟩ := reserve_spec alloc hnil
    (inferHeaderLen config.inferenceHost config.inferencePort config.cpuPasses bodyLen + bodyLen)
  simp only [List.length_nil, Nat.zero_add] at h₁ hroom₁
  obtain ⟨data₂, h₂⟩ := exists_write data₁ 0 (inferHeader config bodyLen) (by omega)
  have hheader : [] ++ inferHeader config bodyLen <+: data₂ := prefix_of_write List.nil_prefix h₂
  rw [List.nil_append] at hheader
  obtain ⟨data₃, h₃, hroom₃, hdata₃⟩ := reserve_spec alloc hheader bodyLen
  obtain ⟨data₄, h₄⟩ := exists_write data₃ (inferHeader config bodyLen).length (body.take bodyLen)
    (by rwa [htake])
  have hdata₄ := prefix_of_write hdata₃ h₄
  have hslice : slice body 0 bodyLen = some (body.take bodyLen) := by
    rw [slice, if_pos (by omega), List.drop_zero]
  rw [hlen] at h₃ h₄
  refine ⟨⟨⟨data₄, (inferHeader config bodyLen).length + bodyLen⟩, 0⟩, ?_, rfl, ?_⟩
  · simp only [buildRequest, Dynbuf.clear, Dynbuf.ensure, Dynbuf.appendBytes, h₁, h₂, h₃, h₄, blit,
      hslice, hlen, writeInferHeader_eq, Option.map_some, Option.bind_eq_bind, Option.bind_some,
      Nat.zero_add]
  · rw [Dynbuf.contents, request, htake, List.prefix_iff_eq_take.mp hdata₄, List.length_append,
      htake]

theorem request_framed (alloc : Alloc UInt8) (config : Config)
    (hport : 0 ≤ config.inferencePort) (hpasses : 0 ≤ config.cpuPasses) (slot : SlotRequest)
    (body : Bytes) (bodyLen : ℕ) (hbody : bodyLen ≤ body.length) :
    ∃ port passes len header : Bytes,
      Reads port config.inferencePort ∧ Reads passes config.cpuPasses ∧ Reads len bodyLen ∧
      header = postPrefix ++ config.inferenceHost ++ portPrefix ++ port ++ cpuPassesPrefix ++
        passes ++ contentTypePrefix ++ len ++ suffix ∧
      header.length =
        inferHeaderLen config.inferenceHost config.inferencePort config.cpuPasses bodyLen ∧
      (∀ out pos,
        writeInferHeader config.inferenceHost config.inferencePort config.cpuPasses bodyLen
          out pos = (write out pos header).map fun out => (out, header.length)) ∧
      ∃ slot', buildRequest alloc config slot body bodyLen = some slot' ∧ slot'.reqPos = 0 ∧
        slot'.req.contents = header ++ body.take bodyLen := by
  have hlen := length_inferHeader config bodyLen
  refine ⟨_, _, _, inferHeader config bodyLen, reads_writeDecimal hport, reads_writeDecimal hpasses,
    reads_writeDecimal (Int.natCast_nonneg bodyLen), rfl, hlen, fun out pos => ?_, ?_⟩
  · rw [hlen]
    exact writeInferHeader_eq config bodyLen out pos
  · obtain ⟨slot', hslot', hpos, hcontents⟩ := buildRequest_eq alloc config slot hbody
    rw [request, List.length_take_of_le hbody] at hcontents
    exact ⟨slot', hslot', hpos, hcontents⟩

theorem request_framed_reused :
    ∃ port passes len header : Bytes, Reads port 9000 ∧ Reads passes 4 ∧ Reads len 3 ∧
      header = postPrefix ++ bytes "127.0.0.1" ++ portPrefix ++ port ++ cpuPassesPrefix ++ passes ++
        contentTypePrefix ++ len ++ suffix ∧
      header.length = inferHeaderLen (bytes "127.0.0.1") 9000 4 3 ∧
      (∀ out pos, writeInferHeader (bytes "127.0.0.1") 9000 4 3 out pos =
        (write out pos header).map fun out => (out, header.length)) ∧
      ∃ slot', buildRequest (fun n => ⟨.replicate n 0, by simp⟩)
          ⟨bytes "127.0.0.1", 9000, 1, 4, 0, 1000⟩ ⟨⟨.replicate 500 7, 400⟩, 100⟩ [1, 2, 3, 4] 3 =
            some slot' ∧ slot'.reqPos = 0 ∧ slot'.req.contents = header ++ [1, 2, 3] :=
  request_framed (fun n => ⟨.replicate n 0, by simp⟩) ⟨bytes "127.0.0.1", 9000, 1, 4, 0, 1000⟩
    (by decide) (by decide) ⟨⟨.replicate 500 7, 400⟩, 100⟩ [1, 2, 3, 4] 3 (by decide)

end SttBench.OxcamlEpoll
