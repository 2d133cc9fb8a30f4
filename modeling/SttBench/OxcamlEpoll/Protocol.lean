import SttBench.Core.Ascii
import SttBench.Core.Binary64

/-! # ocaml-oxcaml-epoll: configuration, wire types and the result decoder -/

namespace SttBench.OxcamlEpoll

open Ascii

abbrev F64 := UInt64

def Ms := ℚ

namespace Ms

def value (t : Ms) : ℚ := t

instance : LinearOrder Ms := inferInstanceAs (LinearOrder ℚ)
instance : Repr Ms := inferInstanceAs (Repr ℚ)
instance (n : ℕ) : OfNat Ms n := ⟨(n : ℚ)⟩
instance : Add Ms := ⟨fun a b => Binary64.roundFinite (a.value + b.value)⟩
instance : Sub Ms := ⟨fun a b => Binary64.roundFinite (a.value - b.value)⟩

/-- `float_of_int`. -/
instance : IntCast Ms := ⟨fun i => Binary64.roundFinite i⟩

@[simp] lemma value_lt {a b : Ms} : a.value < b.value ↔ a < b := Iff.rfl

@[simp] lemma value_inj {a b : Ms} : a.value = b.value ↔ a = b := Iff.rfl

end Ms

def wrap (n : ℤ) : ℤ := (BitVec.ofInt 63 n).toInt

lemma wrap_eq_bmod (n : ℤ) : wrap n = n.bmod (2 ^ 63) := BitVec.toInt_ofInt ..

@[simp] lemma wrap_zero : wrap 0 = 0 := by
  rw [wrap_eq_bmod, Int.zero_bmod]

lemma wrap_cast (n : ℕ) :
    wrap n = if n % 2 ^ 63 < 2 ^ 62 then ((n % 2 ^ 63 : ℕ) : ℤ)
      else ((n % 2 ^ 63 : ℕ) : ℤ) - 2 ^ 63 := by
  rw [wrap_eq_bmod, Int.bmod_def]
  split_ifs <;> omega

lemma wrap_of_lt {n : ℕ} (h : n < 2 ^ 62) : wrap n = n := by
  rw [wrap_cast, Nat.mod_eq_of_lt (by omega), if_pos h]

lemma wrap_digit {c : UInt8} (hc : isDigit c) (acc : ℕ) :
    wrap (wrap acc * 10 + (c.toNat - 48)) = wrap ((acc * 10 + (c.toNat - 48) : ℕ) : ℤ) := by
  have h48 := (isDigit_iff.mp hc).1
  rw [wrap_eq_bmod, wrap_eq_bmod, wrap_eq_bmod, Int.add_bmod, Int.bmod_mul_bmod, ← Int.add_bmod]
  congr 1
  omega

inductive Exn
  | InvalidArgument (fn : String)
deriving DecidableEq, Repr

def frameBytes : ℕ := 640

def requestTimeoutMs : Ms := 2000

structure Config where
  inferenceHost : Bytes
  inferencePort : ℤ
  inferenceHttpClients : ℕ
  cpuPasses : ℤ
  modelDelayMs : ℤ
  flushIntervalMs : ℤ
deriving DecidableEq, Repr

structure InferResponse where
  rms : F64
  zeroCrossings : ℤ
  checksum : ℤ
  samples : ℤ
  transcript : Bytes
  audioBytes : ℤ
deriving DecidableEq, Repr

structure Partial where
  oldestFrameSeq : ℕ
  newestFrameSeq : ℕ
  frames : ℕ
  rms : F64
  zeroCrossings : ℤ
  checksum : ℤ
  samples : ℤ
  transcript : Bytes
  audioBytes : ℤ
  cpuPasses : ℤ
  modelDelayMs : ℤ
  flushLatenessMs : Ms
deriving DecidableEq, Repr

inductive ErrorStage
  | InferenceRequest
  | InferenceResponseParse
deriving DecidableEq, Repr

inductive ErrorKind
  | Timeout
  | ConnectionReset
  | Http4xx
  | Http5xx
  | Http429
  | ParseError
deriving DecidableEq, Repr

structure Error where
  stage : ErrorStage
  kind : ErrorKind
  message : String
  oldestFrameSeq : ℕ
  newestFrameSeq : ℕ
  frames : ℕ
  audioBytes : ℕ
  oldestAgeMs : Ms
  newestAgeMs : Ms
  flushLatenessMs : Ms
  inferenceElapsedMs : Option Ms
  inflightGatewayBatches : ℕ
  gatewayBufferFrames : ℕ
  inferenceStatus : Option ℤ
  retryable : Bool
deriving DecidableEq, Repr

abbrev InferResult := Except Error InferResponse

def makeTransportError (kind : ErrorKind) (message : String) (elapsedMs : Ms) : Error where
  stage := .InferenceRequest
  kind := kind
  message := message
  oldestFrameSeq := 0
  newestFrameSeq := 0
  frames := 0
  audioBytes := 0
  oldestAgeMs := 0
  newestAgeMs := 0
  flushLatenessMs := 0
  inferenceElapsedMs := some elapsedMs
  inflightGatewayBatches := 1
  gatewayBufferFrames := 0
  inferenceStatus := none
  retryable := true

def classifyStatus (status : ℤ) : ErrorKind × Bool :=
  if status = 429 then (.Http429, true)
  else if 400 ≤ status ∧ status < 500 then (.Http4xx, false)
  else (.Http5xx, 500 ≤ status)

lemma classifyStatus_ne_connectionReset (status : ℤ) :
    (classifyStatus status).1 ≠ .ConnectionReset := by
  unfold classifyStatus
  split_ifs <;> exact ErrorKind.noConfusion

/-! ## JSON -/

inductive Json
  | Int (i : ℤ)
  | Intlit (s : Bytes)
  | Float (f : F64)
  | String (s : Bytes)
  | Assoc (fields : List (Bytes × Json))
  | Other

structure Decoders where
  /-- `Yojson.Safe.from_string`; the error is the exception, printed. -/
  fromString : Bytes → Except String Json
  /-- `float_of_string`, `none` for `Failure`. -/
  floatOfString : Bytes → Option F64
  floatOfInt : ℤ → F64

def startMessageOk (d : Decoders) (s : Bytes) : Bool :=
  match d.fromString s with
  | .ok (.Assoc [(k, .String v)]) => k = bytes "type" ∧ v = bytes "start"
  | _ => false

def digitIn (base : ℕ) (b : UInt8) : Option ℕ :=
  let n := if isDigit b then b.toNat - 48
    else if 97 ≤ lower b ∧ lower b ≤ 102 then (lower b).toNat - 87 else 16
  if n < base then some n else none

def digitsIn (base : ℕ) : ℕ → Bytes → Option ℕ
  | acc, [] => some acc
  | acc, b :: bs =>
    if b = 95 then digitsIn base acc bs
    else (digitIn base b).bind fun d => digitsIn base (acc * base + d) bs

def intOfString (s : Bytes) : Option ℤ :=
  let (neg, s) := match s with
    | 45 :: s => (true, s)
    | 43 :: s => (false, s)
    | s => (false, s)
  let (base, unsigned, s) := match s with
    | 48 :: b :: s =>
      if lower b = 120 then (16, true, s) else if lower b = 111 then (8, true, s)
      else if lower b = 98 then (2, true, s) else if lower b = 117 then (10, true, s)
      else (10, false, 48 :: b :: s)
    | s => (10, false, s)
  match s with
  | [] => none
  | b :: bs =>
    if b = 95 then none
    else (digitsIn base 0 (b :: bs)).bind fun n =>
      let v : ℤ := if neg then -n else n
      if unsigned then if n < 2 ^ 63 then some (wrap v) else none
      else if -2 ^ 62 ≤ v ∧ v < 2 ^ 62 then some v else none

def readInt : Json → Except String ℤ
  | .Int i => .ok i
  | .Intlit s =>
    match intOfString s with
    | some i => .ok i
    | none => .error "expected integer"
  | _ => .error "expected integer"

def readFloat (d : Decoders) : Json → Except String F64
  | .Float f => .ok f
  | .Int i => .ok (d.floatOfInt i)
  | _ => .error "expected number"

def readString : Json → Except String Bytes
  | .String s => .ok s
  | _ => .error "expected string"

def known : List String :=
  ["rms", "zero_crossings", "checksum", "samples", "transcript", "audio_bytes"]

def keyText (k : Bytes) : String := String.ofList (k.map fun b => Char.ofNat b.toNat)

def find {α : Type} (fields : List (Bytes × Json)) (key : String) (reader : Json → Except String α) :
    Except String α :=
  match fields.lookup (bytes key) with
  | none => .error ("Infer_response: missing " ++ key)
  | some value => reader value

def inferResponseOfString (d : Decoders) (s : Bytes) : Except String InferResponse :=
  match d.fromString s with
  | .error e => .error e
  | .ok (.Assoc fields) =>
    match fields.find? fun kv => kv.1 ∉ known.map bytes with
    | some (k, _) => .error ("Infer_response: rejected unknown field " ++ keyText k)
    | none => do
        let rms ← find fields "rms" (readFloat d)
        let zeroCrossings ← find fields "zero_crossings" readInt
        let checksum ← find fields "checksum" readInt
        let samples ← find fields "samples" readInt
        let transcript ← find fields "transcript" readString
        let audioBytes ← find fields "audio_bytes" readInt
        pure { rms, zeroCrossings, checksum, samples, transcript, audioBytes }
  | .ok _ => .error "Infer_response: expected JSON object"

/-! ## The fast decoder

It walks the bytes from `pos` up to `limit`; here it walks the list of them and returns what is
left.
-/

def parseLiteral (s : String) (b : Bytes) : Option Bytes :=
  if bytes s <+: b then some (b.drop (bytes s).length) else none

def parseUintLoop : Bytes → ℤ → ℤ × Bytes
  | [], value => (value, [])
  | b :: bs, value =>
    if isDigit b then parseUintLoop bs (wrap (value * 10 + b.toNat - 48)) else (value, b :: bs)

def parseUintBytes (b : Bytes) : Option (ℤ × Bytes) :=
  if b.head?.any isDigit then some (parseUintLoop b 0) else none

def isNumberChar (b : UInt8) : Bool :=
  isDigit b || b = 45 || b = 43 || b = 46 || b = 101 || b = 69

def parseFloatBytes (d : Decoders) (b : Bytes) : Option (F64 × Bytes) :=
  let text := b.takeWhile isNumberChar
  if text = [] then none
  else (d.floatOfString text).map fun f => (f, b.dropWhile isNumberChar)

def parseSimpleJsonString : Bytes → Option (Bytes × Bytes)
  | 34 :: b =>
    let text := b.takeWhile fun c => c ≠ 34 ∧ c ≠ 92
    match b.drop text.length with
    | 34 :: rest => some (text, rest)
    | _ => none
  | _ => none

def inferResponseOfRange (d : Decoders) (b : Bytes) : Option InferResponse := do
  let b ← parseLiteral "\x7b\"rms\":" b
  let (rms, b) ← parseFloatBytes d b
  let b ← parseLiteral ",\"zero_crossings\":" b
  let (zeroCrossings, b) ← parseUintBytes b
  let b ← parseLiteral ",\"checksum\":" b
  let (checksum, b) ← parseUintBytes b
  let b ← parseLiteral ",\"samples\":" b
  let (samples, b) ← parseUintBytes b
  let b ← parseLiteral ",\"transcript\":" b
  let (transcript, b) ← parseSimpleJsonString b
  let b ← parseLiteral ",\"audio_bytes\":" b
  let (audioBytes, b) ← parseUintBytes b
  let b ← parseLiteral "\x7d" b
  if b = [] then some { rms, zeroCrossings, checksum, samples, transcript, audioBytes } else none

def inferResponseOfBytesFast (d : Decoders) (b : Bytes) (pos len : ℤ) : Option InferResponse :=
  let limit := wrap (pos + len)
  if pos < 0 ∨ len < 0 ∨ b.length < limit then none
  else inferResponseOfRange d ((b.take limit.toNat).drop pos.toNat)

def subString (b : Bytes) (pos len : ℤ) : Except Exn Bytes :=
  if pos < 0 ∨ len < 0 ∨ b.length - len < pos then
    .error (.InvalidArgument "String.sub / Bytes.sub")
  else .ok ((b.drop pos.toNat).take len.toNat)

def inferResponseOfBytes (d : Decoders) (b : Bytes) (pos len : ℤ) :
    Except Exn (Except String InferResponse) :=
  match inferResponseOfBytesFast d b pos len with
  | some infer => .ok (.ok infer)
  | none => (subString b pos len).map (inferResponseOfString d)

/-! ## The request -/

def decimalLen (n : ℕ) : ℕ := if n < 10 then 1 else decimalLen (n / 10) + 1

def decimalDigits (value : ℕ) : ℕ → Bytes
  | 0 => []
  | len + 1 => decimalDigits (value / 10) len ++ [48 + UInt8.ofNat (value % 10)]

def writeDecimal (n : ℤ) : Bytes := decimalDigits n.toNat (decimalLen n.toNat)

def inferHeader (config : Config) (bodyLen : ℕ) : Bytes :=
  bytes "POST /infer HTTP/1.1\r\nHost: " ++ config.inferenceHost ++ bytes ":" ++
    writeDecimal config.inferencePort ++ bytes "\r\nx-cpu-passes: " ++
    writeDecimal config.cpuPasses ++
    bytes "\r\nContent-Type: application/octet-stream\r\nContent-Length: " ++
    writeDecimal bodyLen ++ bytes "\r\nConnection: keep-alive\r\n\r\n"

def request (config : Config) (body : Bytes) : Bytes := inferHeader config body.length ++ body

end SttBench.OxcamlEpoll
