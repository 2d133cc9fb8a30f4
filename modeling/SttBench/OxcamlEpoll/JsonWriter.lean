import SttBench.OxcamlEpoll.FastDecoder
import SttBench.OxcamlEpoll.HttpRequest
import SttBench.OxcamlEpoll.Outbuf
import SttBench.OxcamlEpoll.Server

/-! # ocaml-oxcaml-epoll: the messages as JSON -/

namespace SttBench.OxcamlEpoll

open Ascii List

def isFinite (f : F64) : Bool := f &&& 0x7FF0000000000000 ≠ 0x7FF0000000000000

structure Printer where
  g17 : F64 → Bytes
  time : Ms → Bytes
  isNumber : ∀ f, isFinite f → Json.IsNumber (g17 f)
  notNumber : ∀ f, ¬ isFinite f → g17 f ∈ Json.notNumbers
  isNumber_time : ∀ t, Json.IsNumber (time t)

/-! ## The writers -/

def partialType : Bytes := bytes "partial"
def errorType : Bytes := bytes "error"

def stageToWire : ErrorStage → Bytes
  | .InferenceRequest => bytes "inference_request"
  | .InferenceResponseParse => bytes "inference_response_parse"

def kindToWire : ErrorKind → Bytes
  | .Timeout => bytes "timeout"
  | .ConnectionReset => bytes "connection_reset"
  | .Http4xx => bytes "http_4xx"
  | .Http5xx => bytes "http_5xx"
  | .Http429 => bytes "http_429"
  | .ParseError => bytes "parse_error"

def hexChar (n : ℕ) : UInt8 := if n < 10 then 48 + UInt8.ofNat n else 87 + UInt8.ofNat n

def hexByte (c : UInt8) : Bytes := [48, 48, hexChar (c.toNat / 16), hexChar (c.toNat % 16)]

def jsonChar (c : UInt8) : WriterCall :=
  if c = 34 then .AddString (bytes "\\\"")
  else if c = 92 then .AddString (bytes "\\\\")
  else if c = 10 then .AddString (bytes "\\n")
  else if c = 13 then .AddString (bytes "\\r")
  else if c = 9 then .AddString (bytes "\\t")
  else if c < 0x20 then .AddString (bytes "\\u" ++ hexByte c)
  else .AddChar c

def jsonString (s : Bytes) : List WriterCall := .AddChar 34 :: (s.map jsonChar ++ [.AddChar 34])

def stringOfInt (i : ℤ) : Bytes := if i < 0 then 45 :: writeDecimal (-i) else writeDecimal i

def addInt (i : ℤ) : List WriterCall := [.AddString (stringOfInt i)]

def addBool (v : Bool) : List WriterCall := [.AddString (bytes (if v then "true" else "false"))]

def optionInt : Option ℤ → List WriterCall
  | none => [.AddString (bytes "null")]
  | some i => addInt i

def comma (key : String) : List WriterCall := [.AddString (bytes (",\"" ++ key ++ "\":"))]

variable (pr : Printer)

def addFloat (f : F64) : List WriterCall := [.AddString (pr.g17 f)]

def addTime (t : Ms) : List WriterCall := [.AddString (pr.time t)]

def optionTime : Option Ms → List WriterCall
  | none => [.AddString (bytes "null")]
  | some t => addTime pr t

def writePartialJson (p : Partial) : List WriterCall :=
  [.AddString (bytes "\x7b\"type\":")] ++ jsonString partialType ++
    comma "oldest_frame_seq" ++ addInt p.oldestFrameSeq ++
    comma "newest_frame_seq" ++ addInt p.newestFrameSeq ++
    comma "frames" ++ addInt p.frames ++
    comma "rms" ++ addFloat pr p.rms ++
    comma "zero_crossings" ++ addInt p.zeroCrossings ++
    comma "checksum" ++ addInt p.checksum ++
    comma "samples" ++ addInt p.samples ++
    comma "transcript" ++ jsonString p.transcript ++
    comma "audio_bytes" ++ addInt p.audioBytes ++
    comma "cpu_passes" ++ addInt p.cpuPasses ++
    comma "model_delay_ms" ++ addInt p.modelDelayMs ++
    comma "flush_lateness_ms" ++ addTime pr p.flushLatenessMs ++
    [.AddString (bytes ",\"inflight_model_jobs\":0\x7d")]

def writeErrorJson (e : Error) (message : Bytes) : List WriterCall :=
  [.AddString (bytes "\x7b\"type\":")] ++ jsonString errorType ++
    comma "stage" ++ jsonString (stageToWire e.stage) ++
    comma "kind" ++ jsonString (kindToWire e.kind) ++
    comma "message" ++ jsonString message ++
    comma "oldest_frame_seq" ++ addInt e.oldestFrameSeq ++
    comma "newest_frame_seq" ++ addInt e.newestFrameSeq ++
    comma "frames" ++ addInt e.frames ++
    comma "audio_bytes" ++ addInt e.audioBytes ++
    comma "oldest_age_ms" ++ addTime pr e.oldestAgeMs ++
    comma "newest_age_ms" ++ addTime pr e.newestAgeMs ++
    comma "flush_lateness_ms" ++ addTime pr e.flushLatenessMs ++
    comma "inference_elapsed_ms" ++ optionTime pr e.inferenceElapsedMs ++
    comma "inflight_gateway_batches" ++ addInt e.inflightGatewayBatches ++
    comma "gateway_buffer_frames" ++ addInt e.gatewayBufferFrames ++
    comma "inference_status" ++ optionInt e.inferenceStatus ++
    comma "retryable" ++ addBool e.retryable ++
    [.AddChar 125]

structure OxcamlPartial extends Partial where
  type : Bytes
  inflightModelJobs : ℤ
deriving DecidableEq, Repr

def oxcamlToString (t : OxcamlPartial) : List WriterCall :=
  [.AddString (bytes "\x7b\"type\":")] ++ jsonString t.type ++
    comma "oldest_frame_seq" ++ addInt t.oldestFrameSeq ++
    comma "newest_frame_seq" ++ addInt t.newestFrameSeq ++
    comma "frames" ++ addInt t.frames ++
    comma "rms" ++ addFloat pr t.rms ++
    comma "zero_crossings" ++ addInt t.zeroCrossings ++
    comma "checksum" ++ addInt t.checksum ++
    comma "samples" ++ addInt t.samples ++
    comma "transcript" ++ jsonString t.transcript ++
    comma "audio_bytes" ++ addInt t.audioBytes ++
    comma "cpu_passes" ++ addInt t.cpuPasses ++
    comma "model_delay_ms" ++ addInt t.modelDelayMs ++
    comma "flush_lateness_ms" ++ addTime pr t.flushLatenessMs ++
    comma "inflight_model_jobs" ++ addInt t.inflightModelJobs ++
    [.AddChar 125]

/-! ## What is meant -/

section

def escapedBytes (s : Bytes) : Bytes := written (s.map jsonChar)

def stringToken (s : Bytes) : Json.Token := Json.quotedToken (escapedBytes s) s True

def intToken (i : ℤ) : Json.Token := Json.numberToken (stringOfInt i)

def boolToken (b : Bool) : Json.Token := ⟨bytes (if b then "true" else "false"), .Bool b, True⟩

def optionToken {α : Type} (token : α → Json.Token) : Option α → Json.Token
  | none => ⟨bytes "null", .Null, True⟩
  | some a => token a

def Partial.members (jobs : ℤ) (p : Partial) : List (String × Json.Token) :=
  [("oldest_frame_seq", intToken p.oldestFrameSeq),
    ("newest_frame_seq", intToken p.newestFrameSeq), ("frames", intToken p.frames),
    ("rms", Json.numberToken (pr.g17 p.rms)), ("zero_crossings", intToken p.zeroCrossings),
    ("checksum", intToken p.checksum), ("samples", intToken p.samples),
    ("transcript", stringToken p.transcript), ("audio_bytes", intToken p.audioBytes),
    ("cpu_passes", intToken p.cpuPasses), ("model_delay_ms", intToken p.modelDelayMs),
    ("flush_lateness_ms", Json.numberToken (pr.time p.flushLatenessMs)),
    ("inflight_model_jobs", intToken jobs)]

def Error.members (message : Bytes) (e : Error) : List (String × Json.Token) :=
  [("stage", stringToken (stageToWire e.stage)), ("kind", stringToken (kindToWire e.kind)),
    ("message", stringToken message), ("oldest_frame_seq", intToken e.oldestFrameSeq),
    ("newest_frame_seq", intToken e.newestFrameSeq), ("frames", intToken e.frames),
    ("audio_bytes", intToken e.audioBytes),
    ("oldest_age_ms", Json.numberToken (pr.time e.oldestAgeMs)),
    ("newest_age_ms", Json.numberToken (pr.time e.newestAgeMs)),
    ("flush_lateness_ms", Json.numberToken (pr.time e.flushLatenessMs)),
    ("inference_elapsed_ms",
      optionToken (fun t => Json.numberToken (pr.time t)) e.inferenceElapsedMs),
    ("inflight_gateway_batches", intToken e.inflightGatewayBatches),
    ("gateway_buffer_frames", intToken e.gatewayBufferFrames),
    ("inference_status", optionToken intToken e.inferenceStatus),
    ("retryable", boolToken e.retryable)]

def message (type : Bytes) (ms : List (String × Json.Token)) : List (Bytes × Json.Token) :=
  (bytes "type", stringToken type) :: ms.map fun m => (bytes m.1, m.2)

def objectOf (type : Bytes) (ms : List (String × Json.Token)) : Json.Value :=
  .Object ((message type ms).map fun m => (m.1, m.2.value))

end

/-! ## Strings -/

lemma written_append (cs ds : List WriterCall) : written (cs ++ ds) = written cs ++ written ds :=
  flatMap_append

@[simp] lemma written_addString (s : Bytes) : written [.AddString s] = s := append_nil s

@[simp] lemma written_addChar (c : UInt8) : written [.AddChar c] = [c] := rfl

lemma hexByte_spec {c : UInt8} (h : c < 32) :
    ∃ a b, hexByte c = [48, 48, a, b] ∧ Json.hex4 48 48 a b = some c.toNat ∧
      Json.utf8 c.toNat = [c] ∧ 32 ≤ a ∧ 32 ≤ b := by
  have hall : ∀ n < 32, Json.hex4 48 48 (hexChar (n / 16)) (hexChar (n % 16)) = some n ∧
      Json.utf8 n = [UInt8.ofNat n] ∧ 32 ≤ hexChar (n / 16) ∧ 32 ≤ hexChar (n % 16) := by
    decide +kernel
  obtain ⟨hhex, hutf8, hle⟩ := hall c.toNat (UInt8.lt_iff_toNat_lt.mp h)
  exact ⟨_, _, rfl, hhex, by rw [hutf8, UInt8.ofNat_toNat], hle⟩

lemma jsonChar_cases (c : UInt8) :
    (Json.isPlain c = true ∧ written [jsonChar c] = [c]) ∨
      (∃ e, Json.escaped e = some c ∧ 32 ≤ e ∧ written [jsonChar c] = [92, e]) ∨
      c < 32 ∧ written [jsonChar c] = 92 :: 117 :: hexByte c := by
  unfold jsonChar
  split_ifs with h₁ h₂ h₃ h₄ h₅ h₆
  · exact .inr (.inl ⟨34, by rw [h₁]; decide, by decide, by decide⟩)
  · exact .inr (.inl ⟨92, by rw [h₂]; decide, by decide, by decide⟩)
  · exact .inr (.inl ⟨110, by rw [h₃]; decide, by decide, by decide⟩)
  · exact .inr (.inl ⟨114, by rw [h₄]; decide, by decide, by decide⟩)
  · exact .inr (.inl ⟨116, by rw [h₅]; decide, by decide, by decide⟩)
  · have hslash : bytes "\\u" = [92, 117] := by decide
    exact .inr (.inr ⟨h₆, by rw [written_addString, hslash]; rfl⟩)
  · exact .inl ⟨by simp [Json.isPlain, h₁, h₂, UInt8.not_lt.mp h₆], rfl⟩

lemma chars_jsonChar (c : UInt8) {t s rest : Bytes} (h : Json.Chars t s rest) :
    Json.Chars (written [jsonChar c] ++ t) (c :: s) rest := by
  rcases jsonChar_cases c with ⟨hc, hw⟩ | ⟨e, he, -, hw⟩ | ⟨hc, hw⟩
  · rw [hw]
    exact .plain hc h
  · rw [hw]
    exact .escape he h
  · obtain ⟨a, b, hhex, hcode, hutf8, -⟩ := hexByte_spec hc
    have hlt : c.toNat < 32 := UInt8.lt_iff_toNat_lt.mp hc
    have hchars := Json.Chars.unicode hcode (.inl (by omega)) h
    rw [hutf8] at hchars
    rw [hw, hhex]
    exact hchars

lemma le_of_mem_jsonChar (c : UInt8) : ∀ b ∈ written [jsonChar c], 32 ≤ b := by
  rcases jsonChar_cases c with ⟨hc, hw⟩ | ⟨e, -, he, hw⟩ | ⟨hc, hw⟩
  · simp only [Json.isPlain, Bool.and_eq_true, decide_eq_true_eq] at hc
    simpa [hw] using hc.1.1
  · simpa [hw] using he
  · obtain ⟨a, b, hhex, -, -, ha, hb⟩ := hexByte_spec hc
    simpa [hw, hhex] using ⟨ha, hb⟩

lemma le_of_mem_escapedBytes (s : Bytes) : ∀ b ∈ escapedBytes s, 32 ≤ b := by
  intro b hb
  simp only [escapedBytes, written, mem_flatMap, mem_map] at hb
  obtain ⟨_, ⟨c, -, rfl⟩, hb⟩ := hb
  exact le_of_mem_jsonChar c b (by simpa [written] using hb)

lemma chars_escapedBytes (s rest : Bytes) : Json.Chars (escapedBytes s ++ 34 :: rest) s rest := by
  induction s with
  | nil => exact .close rest
  | cons c s ih =>
    have hcons : escapedBytes (c :: s) = written [jsonChar c] ++ escapedBytes s :=
      written_append [jsonChar c] _
    rw [hcons, append_assoc]
    exact chars_jsonChar c ih

lemma chars_escapedBytes_iff {s s' rest rest' : Bytes} :
    Json.Chars (escapedBytes s ++ 34 :: rest) s' rest' ↔ s' = s ∧ rest' = rest := by
  constructor
  · exact fun h => (chars_escapedBytes s rest).unique h
  · rintro ⟨rfl, rfl⟩
    exact chars_escapedBytes _ _

lemma stringToken_ok (s : Bytes) : (stringToken s).Ok :=
  Json.quotedToken_ok (by simp only [chars_escapedBytes_iff, true_and, implies_true])

/-! ## Integers -/

lemma head_decimalDigits {n : ℕ} (h : 0 < n) :
    (decimalDigits n (decimalLen n)).head? ≠ some 48 := by
  fun_induction decimalLen n with
  | case1 n hlt =>
    have hdigit : ∀ n < 10, 0 < n → (decimalDigits n 1).head? ≠ some 48 := by decide
    exact hdigit n hlt h
  | case2 n hge ih =>
    have ih := ih (by omega)
    rw [decimalDigits]
    cases hds : decimalDigits (n / 10) (decimalLen (n / 10)) with
    | nil =>
      have hlen := HttpRequest.length_decimalDigits (n / 10) (decimalLen (n / 10))
      have hpos := HttpRequest.decimalLen_pos (n / 10)
      rw [hds, length_nil] at hlen
      omega
    | cons d ds => rwa [hds] at ih

lemma isInt_writeDecimal {n : ℤ} (h : 0 ≤ n) : Json.IsInt (writeDecimal n) := by
  by_cases hn : n = 0
  · exact .inl (by simp [hn, writeDecimal, decimalLen, decimalDigits])
  · exact .inr ⟨(HttpRequest.reads_writeDecimal h).digits, head_decimalDigits (by omega)⟩

lemma stringOfInt_spec (i : ℤ) :
    Json.IsNumber (stringOfInt i) ∧ integer (stringOfInt i) = some i := by
  rw [stringOfInt]
  split_ifs with hi
  · have hreads := HttpRequest.reads_writeDecimal (show 0 ≤ -i by omega)
    have hint := isInt_writeDecimal (show 0 ≤ -i by omega)
    refine ⟨⟨[45], _, [], [], by simp, .inr rfl, hint, .inl rfl, .inl rfl⟩, ?_⟩
    rw [integer, if_pos (all_eq_true.mpr hreads.digits.2), hreads.value, neg_neg]
  · have hreads := HttpRequest.reads_writeDecimal (show 0 ≤ i by omega)
    exact ⟨(isInt_writeDecimal (by omega)).isNumber, by
      rw [integer_eq hreads.digits, hreads.value]⟩

lemma intToken_ok (i : ℤ) : (intToken i).Ok :=
  Json.numberToken_ok_of_printed (.inl (stringOfInt_spec i).1)

/-! ## Messages -/

lemma written_jsonString (s : Bytes) : written (jsonString s) = (stringToken s).text :=
  congrArg (34 :: ·) (written_append (s.map jsonChar) [.AddChar 34])

lemma written_addInt (i : ℤ) : written (addInt i) = (intToken i).text := written_addString _

lemma written_addFloat (f : F64) :
    written (addFloat pr f) = (Json.numberToken (pr.g17 f)).text := written_addString _

lemma written_addTime (t : Ms) :
    written (addTime pr t) = (Json.numberToken (pr.time t)).text := written_addString _

def messageText (type : Bytes) (ms : List (String × Json.Token)) : Bytes :=
  123 :: (Json.tokensText (message type ms) ++ [125])

lemma messageText_eq (type : Bytes) (ms : List (String × Json.Token)) :
    messageText type ms = written [.AddString (bytes "\x7b\"type\":")] ++
      (written (jsonString type) ++
        ((ms.flatMap fun m => written (comma m.1) ++ m.2.text) ++ [125])) := by
  have htype : bytes "\x7b\"type\":" = 123 :: 34 :: (bytes "type" ++ [34, 58]) := by decide
  have hopen : bytes ",\"" = [44, 34] := by decide
  have hclose : bytes "\":" = [34, 58] := by decide
  have hcomma : (fun m : String × Json.Token => written (comma m.1) ++ m.2.text) =
      fun m => 44 :: Json.tokenText (bytes m.1, m.2) := by
    funext m
    rw [comma, written_addString, bytes_append, bytes_append, hopen, hclose]
    simp [Json.tokenText]
  rw [messageText, message, Json.tokensText_cons, flatMap_map, hcomma, written_addString,
    htype, written_jsonString, Json.tokenText]
  simp

lemma written_partialMessage (p : Partial) :
    written (writePartialJson pr p) = messageText partialType (p.members pr 0) := by
  have hjobs : written [.AddString (bytes ",\"inflight_model_jobs\":0\x7d")] =
      written (comma "inflight_model_jobs") ++ ((intToken 0).text ++ [125]) := by
    have hzero : (intToken 0).text = [48] := by
      simp [intToken, Json.numberToken, stringOfInt, writeDecimal, decimalLen, decimalDigits]
    rw [hzero]
    decide
  rw [messageText_eq]
  unfold writePartialJson Partial.members
  simp only [flatMap_cons, flatMap_nil, written_append, hjobs,
    written_addInt, written_addFloat, written_addTime, written_jsonString, append_assoc,
    nil_append]

lemma written_oxcaml (t : OxcamlPartial) :
    written (oxcamlToString pr t) =
      messageText t.type (t.toPartial.members pr t.inflightModelJobs) := by
  rw [messageText_eq]
  unfold oxcamlToString Partial.members
  simp only [flatMap_cons, flatMap_nil, written_append, written_addInt,
    written_addFloat, written_addTime, written_jsonString, written_addChar, append_assoc,
    nil_append]

lemma written_error (e : Error) (text : Bytes) :
    written (writeErrorJson pr e text) = messageText errorType (e.members pr text) := by
  have hstatus : written (optionInt e.inferenceStatus) =
      (optionToken intToken e.inferenceStatus).text := by
    cases e.inferenceStatus <;> exact written_addString _
  have helapsed : written (optionTime pr e.inferenceElapsedMs) =
      (optionToken (fun t => Json.numberToken (pr.time t)) e.inferenceElapsedMs).text := by
    cases e.inferenceElapsedMs <;> exact written_addString _
  have hretryable : written (addBool e.retryable) = (boolToken e.retryable).text :=
    written_addString _
  rw [messageText_eq]
  unfold writeErrorJson Error.members
  simp only [flatMap_cons, flatMap_nil, written_append, written_addInt,
    written_addTime, written_jsonString, hstatus, helapsed, hretryable, written_addChar,
    append_assoc, nil_append]

lemma text_messageText_iff {type : Bytes} {ms : List (String × Json.Token)} {v : Json.Value}
    (hms : ∀ m ∈ ms, Json.IsKey (bytes m.1) ∧ m.2.Ok) :
    Json.Text (messageText type ms) v ↔ (∀ m ∈ ms, m.2.valid) ∧ v = objectOf type ms := by
  have hall : ∀ m ∈ message type ms, Json.IsKey m.1 ∧ m.2.Ok := by
    simp only [message, forall_mem_cons, forall_mem_map]
    exact ⟨⟨by decide, stringToken_ok type⟩, hms⟩
  rw [messageText, Json.text_tokens_iff (by simp [message]) hall]
  simp only [message, forall_mem_cons, forall_mem_map]
  exact and_congr_left fun _ => and_iff_right trivial

lemma Printer.g17_ok (f : F64) : (Json.numberToken (pr.g17 f)).Ok :=
  Json.numberToken_ok_of_printed ((em _).imp (pr.isNumber f) (pr.notNumber f))

lemma Printer.time_ok (t : Ms) : (Json.numberToken (pr.time t)).Ok :=
  Json.numberToken_ok_of_printed (.inl (pr.isNumber_time t))

lemma optionToken_ok {α : Type} {token : α → Json.Token} (h : ∀ a, (token a).Ok ∧ (token a).valid)
    (o : Option α) : (optionToken token o).Ok ∧ (optionToken token o).valid := by
  cases o with
  | none => exact ⟨Json.wordToken_ok (w := (bytes "null", .Null)) (by simp [Json.words]), trivial⟩
  | some a => exact h a

lemma boolToken_ok (b : Bool) : (boolToken b).Ok := by
  cases b with
  | false => exact Json.wordToken_ok (w := (bytes "false", .Bool false)) (by simp [Json.words])
  | true => exact Json.wordToken_ok (w := (bytes "true", .Bool true)) (by simp [Json.words])

lemma Partial.members_ok (jobs : ℤ) (p : Partial) :
    ∀ m ∈ p.members pr jobs, Json.IsKey (bytes m.1) ∧ m.2.Ok := by
  simp only [Partial.members, forall_mem_cons]
  refine ⟨⟨by decide, intToken_ok _⟩, ⟨by decide, intToken_ok _⟩, ⟨by decide, intToken_ok _⟩,
    ⟨by decide, pr.g17_ok _⟩, ⟨by decide, intToken_ok _⟩, ⟨by decide, intToken_ok _⟩,
    ⟨by decide, intToken_ok _⟩, ⟨by decide, stringToken_ok _⟩, ⟨by decide, intToken_ok _⟩,
    ⟨by decide, intToken_ok _⟩, ⟨by decide, intToken_ok _⟩, ⟨by decide, pr.time_ok _⟩,
    ⟨by decide, intToken_ok _⟩, by simp⟩

lemma Partial.members_valid_iff (jobs : ℤ) (p : Partial) :
    (∀ m ∈ p.members pr jobs, m.2.valid) ↔ Json.IsNumber (pr.g17 p.rms) := by
  have hint : ∀ i, (intToken i).valid := fun i => (stringOfInt_spec i).1
  have hstring : ∀ s, (stringToken s).valid := fun _ => trivial
  have htime : ∀ t, (Json.numberToken (pr.time t)).valid := pr.isNumber_time
  simp only [Partial.members, forall_mem_cons, hint, hstring, htime, not_mem_nil,
    false_imp_iff, implies_true, true_and, and_true]
  exact Iff.rfl

lemma Error.members_ok (text : Bytes) (e : Error) :
    ∀ m ∈ e.members pr text, (Json.IsKey (bytes m.1) ∧ m.2.Ok) ∧ m.2.valid := by
  have hint : ∀ i, (intToken i).valid := fun i => (stringOfInt_spec i).1
  have htime : ∀ t, (Json.numberToken (pr.time t)).valid := pr.isNumber_time
  have hstatus := optionToken_ok (fun i => ⟨intToken_ok i, hint i⟩) e.inferenceStatus
  have helapsed := optionToken_ok (fun t => ⟨pr.time_ok t, htime t⟩) e.inferenceElapsedMs
  simp only [Error.members, forall_mem_cons]
  refine ⟨⟨⟨by decide, stringToken_ok _⟩, trivial⟩, ⟨⟨by decide, stringToken_ok _⟩, trivial⟩,
    ⟨⟨by decide, stringToken_ok _⟩, trivial⟩, ⟨⟨by decide, intToken_ok _⟩, hint _⟩,
    ⟨⟨by decide, intToken_ok _⟩, hint _⟩, ⟨⟨by decide, intToken_ok _⟩, hint _⟩,
    ⟨⟨by decide, intToken_ok _⟩, hint _⟩, ⟨⟨by decide, pr.time_ok _⟩, htime _⟩,
    ⟨⟨by decide, pr.time_ok _⟩, htime _⟩, ⟨⟨by decide, pr.time_ok _⟩, htime _⟩,
    ⟨⟨by decide, helapsed.1⟩, helapsed.2⟩, ⟨⟨by decide, intToken_ok _⟩, hint _⟩,
    ⟨⟨by decide, intToken_ok _⟩, hint _⟩, ⟨⟨by decide, hstatus.1⟩, hstatus.2⟩,
    ⟨⟨by decide, boolToken_ok _⟩, trivial⟩, by simp⟩

lemma text_partial_iff (jobs : ℤ) (type : Bytes) (p : Partial) {v : Json.Value} :
    Json.Text (messageText type (p.members pr jobs)) v ↔
      Json.IsNumber (pr.g17 p.rms) ∧ v = objectOf type (p.members pr jobs) := by
  rw [text_messageText_iff (p.members_ok pr jobs), p.members_valid_iff]

theorem strings_contained :
    (∀ s : Bytes, ∃ body, written (jsonString s) = 34 :: (body ++ [34]) ∧ (∀ c ∈ body, 32 ≤ c) ∧
      ∀ s' rest rest', Json.Chars (body ++ 34 :: rest) s' rest' ↔ s' = s ∧ rest' = rest) ∧
    (∀ i : ℤ, integer (stringOfInt i) = some i) ∧
    (∀ (p : Partial) (v : Json.Value), Json.IsNumber (pr.g17 p.rms) →
      (Json.Text (written (writePartialJson pr p)) v ↔
        v = objectOf partialType (p.members pr 0))) ∧
    (∀ (t : OxcamlPartial) (v : Json.Value), Json.IsNumber (pr.g17 t.rms) →
      (Json.Text (written (oxcamlToString pr t)) v ↔
        v = objectOf t.type (t.toPartial.members pr t.inflightModelJobs))) ∧
    ∀ (e : Error) (text : Bytes) (v : Json.Value),
      Json.Text (written (writeErrorJson pr e text)) v ↔
        v = objectOf errorType (e.members pr text) := by
  refine ⟨fun s => ⟨escapedBytes s, written_jsonString s, le_of_mem_escapedBytes s,
    fun _ _ _ => chars_escapedBytes_iff⟩, fun i => (stringOfInt_spec i).2, ?_, ?_, ?_⟩
  · intro p v hrms
    rw [written_partialMessage, text_partial_iff, and_iff_right hrms]
  · intro t v hrms
    rw [written_oxcaml, text_partial_iff, and_iff_right hrms]
  · intro e text v
    rw [written_error, text_messageText_iff fun m hm => (e.members_ok pr text m hm).1,
      and_iff_right fun m hm => (e.members_ok pr text m hm).2]

def coarsePrinter : Printer where
  g17 f := if isFinite f then [48] else bytes "inf"
  time _ := [48]
  isNumber f hf := by
    rw [if_pos hf]
    exact Json.IsInt.isNumber (.inl rfl)
  notNumber f hf := by
    rw [if_neg hf]
    decide
  isNumber_time _ := Json.IsInt.isNumber (.inl rfl)

theorem strings_contained_quoted :
    Json.Text
      (written (writeErrorJson coarsePrinter (makeTransportError .Timeout "" 0)
        (bytes "\",\"retryable\":false,\"x\":\"")))
      (objectOf errorType ((makeTransportError .Timeout "" 0).members coarsePrinter
        (bytes "\",\"retryable\":false,\"x\":\""))) :=
  ((strings_contained coarsePrinter).2.2.2.2 _ _ _).mpr rfl

/-! ## UTF-8 -/

inductive Carries (d : Decoders) (s : Bytes) : Bytes → Bytes → Prop
  | layout (f : Fields) (hs : s = f.text) (hf : f.Scanned d) : Carries d s f.rms f.transcript
  | object {ms : List (Bytes × Json.Value)} {t str : Bytes} (hs : Json.Text s (.Object ms))
      (hrms : ms.lookup (bytes "rms") = some (.Number t))
      (htranscript : ms.lookup (bytes "transcript") = some (.String str)) : Carries d s t str

section

variable {d : Decoders} {r : InferResponse} {s : Bytes}

end

end SttBench.OxcamlEpoll
