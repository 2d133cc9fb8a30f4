import SttBench.Core.Batcher
import SttBench.Wire.Messages

/-! # cpp23-uwebsockets: the session of one connection -/

namespace SttBench.Cpp23Uws

open Ascii Tiling

abbrev Instant := ℕ
abbrev Duration := ℕ

def frameBytes : ℕ := 640
def closeProtocolError : ℕ := 1002
def closeUnsupportedData : ℕ := 1003
def reasonNeedStart : String := "first message must be start"
def reasonTextAfterStart : String := "expected binary PCM frames after start"
def reasonBadFrameSize : String := "expected 640 byte PCM frame"

structure Config where
  cpuPasses : ℕ
  modelDelayMs : ℕ
  flushInterval : Duration
deriving DecidableEq, Repr

inductive ErrorStage
  | InferenceRequest
  | InferenceResponseParse
deriving DecidableEq, Repr

inductive ErrorKind
  | Timeout
  | Http5xx
  | Http429
  | ConnectionReset
  | ParseError
deriving DecidableEq, Repr

structure InferResponse where
  rms : UInt64
  zeroCrossings : ℕ
  checksum : ℕ
  samples : ℕ
  transcript : String
  audioBytes : ℕ
deriving DecidableEq, Repr

structure InferenceFailure where
  stage : ErrorStage
  kind : ErrorKind
  detail : String
  status : Option ℕ
  retryable : Bool
deriving DecidableEq, Repr

abbrev InferenceResult := Except InferenceFailure InferResponse

structure PartialMessage where
  oldestFrameSeq : ℕ
  newestFrameSeq : ℕ
  frames : ℕ
  rms : UInt64
  zeroCrossings : ℕ
  checksum : ℕ
  samples : ℕ
  transcript : String
  audioBytes : ℕ
  cpuPasses : ℕ
  modelDelayMs : ℕ
  flushLateness : Duration
  inflightModelJobs : ℕ
deriving DecidableEq, Repr

structure ErrorMessage where
  stage : ErrorStage
  kind : ErrorKind
  message : String
  oldestFrameSeq : ℕ
  newestFrameSeq : ℕ
  frames : ℕ
  audioBytes : ℕ
  oldestAge : Duration
  newestAge : Duration
  flushLateness : Duration
  inferenceElapsed : Option Duration
  inflightGatewayBatches : ℕ
  gatewayBufferFrames : ℕ
  inferenceStatus : Option ℕ
  retryable : Bool
deriving DecidableEq, Repr

inductive Message
  | Partial (m : PartialMessage)
  | Error (m : ErrorMessage)
deriving DecidableEq, Repr

def Message.range : Message → Range
  | .Partial m => ⟨m.oldestFrameSeq, m.newestFrameSeq⟩
  | .Error m => ⟨m.oldestFrameSeq, m.newestFrameSeq⟩

structure Frame where
  seq : ℕ
  payload : Bytes
  receivedAt : Instant
deriving DecidableEq, Repr

structure BatchContext where
  oldestSeq : ℕ
  newestSeq : ℕ
  frames : ℕ
  bodyBytes : ℕ
  flushLateness : Duration
  startedAt : Instant
  oldestReceivedAt : Instant
  newestReceivedAt : Instant
deriving DecidableEq, Repr

def BatchContext.range (ctx : BatchContext) : Range := ⟨ctx.oldestSeq, ctx.newestSeq⟩

inductive SinkCall
  | Send (m : Message)
  | CloseWith (code : ℕ) (reason : String)
deriving DecidableEq, Repr

structure Submission where
  body : Bytes
  cpuPasses : ℕ
  ctx : BatchContext
deriving DecidableEq, Repr

def elapsed (now earlier : Instant) : Duration := now - earlier

inductive Session.State
  | Pending
  | Started
  | Closed
deriving DecidableEq, Repr

structure Session where
  state : Session.State
  inflight : Bool
  seq : ℕ
  buffer : List Frame
  expectedNextFlush : Option Instant
deriving DecidableEq, Repr

namespace Session

def start (firstFire : Instant) : Session := ⟨.Pending, false, 0, [], some firstFire⟩

def failProtocol (s : Session) (code : ℕ) (reason : String) : Session × List SinkCall :=
  ({ s with state := .Closed }, [.CloseWith code reason])

def onText (startMessage : Bytes → Bool) (s : Session) (text : Bytes) : Session × List SinkCall :=
  match s.state with
  | .Closed => (s, [])
  | .Started => s.failProtocol closeProtocolError reasonTextAfterStart
  | .Pending =>
    if startMessage text then ({ s with state := .Started }, [])
    else s.failProtocol closeProtocolError reasonNeedStart

def onBinary (s : Session) (payload : Bytes) (now : Instant) : Session × List SinkCall :=
  match s.state with
  | .Closed => (s, [])
  | .Pending => s.failProtocol closeProtocolError reasonNeedStart
  | .Started =>
    if payload.length = frameBytes then
      ({ s with seq := s.seq + 1, buffer := s.buffer ++ [⟨s.seq + 1, payload, now⟩] }, [])
    else s.failProtocol closeUnsupportedData reasonBadFrameSize

def onFlushTick (config : Config) (s : Session) (now : Instant) : Session × Option Submission :=
  match s.state with
  | .Started =>
    let lateness := (s.expectedNextFlush.map (elapsed now)).getD 0
    let s := { s with expectedNextFlush := s.expectedNextFlush.map (· + config.flushInterval) }
    if s.inflight then (s, none)
    else
      match s.buffer.head?, s.buffer.getLast? with
      | some oldest, some newest =>
        let body := s.buffer.flatMap Frame.payload
        let ctx : BatchContext :=
          { oldestSeq := oldest.seq
            newestSeq := newest.seq
            frames := s.buffer.length
            bodyBytes := body.length
            flushLateness := lateness
            startedAt := now
            oldestReceivedAt := oldest.receivedAt
            newestReceivedAt := newest.receivedAt }
        ({ s with inflight := true, buffer := [] }, some ⟨body, config.cpuPasses, ctx⟩)
      | _, _ => (s, none)
  | _ => (s, none)

def partialFrom (config : Config) (infer : InferResponse) (ctx : BatchContext) : PartialMessage where
  oldestFrameSeq := ctx.oldestSeq
  newestFrameSeq := ctx.newestSeq
  frames := ctx.frames
  rms := infer.rms
  zeroCrossings := infer.zeroCrossings
  checksum := infer.checksum
  samples := infer.samples
  transcript := infer.transcript
  audioBytes := infer.audioBytes
  cpuPasses := config.cpuPasses
  modelDelayMs := config.modelDelayMs
  flushLateness := ctx.flushLateness
  inflightModelJobs := 0

def errorFrom (s : Session) (err : InferenceFailure) (ctx : BatchContext) (now : Instant) :
    ErrorMessage where
  stage := err.stage
  kind := err.kind
  message := err.detail
  oldestFrameSeq := ctx.oldestSeq
  newestFrameSeq := ctx.newestSeq
  frames := ctx.frames
  audioBytes := ctx.bodyBytes
  oldestAge := elapsed now ctx.oldestReceivedAt
  newestAge := elapsed now ctx.newestReceivedAt
  flushLateness := ctx.flushLateness
  inferenceElapsed := some (elapsed now ctx.startedAt)
  inflightGatewayBatches := 1
  gatewayBufferFrames := s.buffer.length
  inferenceStatus := err.status
  retryable := err.retryable

def onInferenceFinished (config : Config) (writes : Message → Bool) (s : Session)
    (result : InferenceResult) (ctx : BatchContext) (now : Instant) : Session × List SinkCall :=
  let s := { s with inflight := false }
  match s.state with
  | .Closed => (s, [])
  | _ =>
    let m : Message := match result with
      | .ok infer => .Partial (partialFrom config infer ctx)
      | .error err => .Error (s.errorFrom err ctx now)
    (s, if writes m then [.Send m] else [])

/-! ## One batch at a time -/

variable {s : Session} {b : Batcher}

structure Follows (s : Session) (b : Batcher) : Prop where
  seq : s.seq = b.seq
  collects : Collects Frame.seq b s.buffer
  inflight : s.inflight = b.flight.isSome

lemma follows_start (firstFire : Instant) : (start firstFire).Follows Batcher.start :=
  ⟨rfl, Collects.start, rfl⟩

structure Quiet (s : Session) (r : Session × List SinkCall) : Prop where
  calls : ∀ call ∈ r.2, ∃ code reason, call = .CloseWith code reason
  closed : s.state = .Closed → r.1.state = .Closed

lemma quiet_failProtocol (s : Session) (code : ℕ) (reason : String) :
    s.Quiet (s.failProtocol code reason) :=
  ⟨by simp [failProtocol], fun _ => rfl⟩

lemma quiet_onText (s : Session) (startMessage : Bytes → Bool) (text : Bytes) :
    s.Quiet (s.onText startMessage text) := by
  unfold onText
  split
  case h_1 => exact ⟨nofun, id⟩
  case h_2 => exact s.quiet_failProtocol _ _
  case h_3 hstate =>
    split_ifs
    · exact ⟨nofun, fun h => absurd (hstate.symm.trans h) nofun⟩
    · exact s.quiet_failProtocol _ _

lemma quiet_onBinary (s : Session) (payload : Bytes) (now : Instant) :
    s.Quiet (s.onBinary payload now) := by
  unfold onBinary
  split
  case h_1 => exact ⟨nofun, id⟩
  case h_2 => exact s.quiet_failProtocol _ _
  case h_3 =>
    split_ifs
    · exact ⟨nofun, id⟩
    · exact s.quiet_failProtocol _ _

lemma onFlushTick_state (config : Config) (s : Session) (now : Instant) :
    (s.onFlushTick config now).1.state = s.state := by
  unfold onFlushTick
  dsimp only
  split
  case h_2 => rfl
  case h_1 =>
    split_ifs
    · rfl
    · split <;> rfl

lemma Follows.onText (h : s.Follows b) (startMessage : Bytes → Bool) (text : Bytes) :
    (s.onText startMessage text).1.Follows b := by
  have hstate (state : State) : { s with state := state }.Follows b := { h with }
  unfold Session.onText
  split
  · exact h
  · exact hstate .Closed
  · split_ifs
    · exact hstate .Started
    · exact hstate .Closed

lemma Follows.onBinary (h : s.Follows b) (payload : Bytes) (now : Instant) :
    (s.onBinary payload now).1.Follows b ∨ (s.onBinary payload now).1.Follows b.receive := by
  have hclosed : { s with state := .Closed }.Follows b := { h with }
  unfold Session.onBinary
  split
  · exact .inl h
  · exact .inl hclosed
  · split_ifs
    · right
      exact ⟨congrArg (· + 1) h.seq, h.collects.receive (congrArg (· + 1) h.seq), h.inflight⟩
    · exact .inl hclosed

lemma Follows.onFlushTick (h : s.Follows b) (config : Config) (now : Instant) :
    (s.onFlushTick config now).2 = none ∧ (s.onFlushTick config now).1.Follows b ∨
      ∃ sub, (s.onFlushTick config now).2 = some sub ∧ b.flight = none ∧ b.taken < b.seq ∧
        sub.ctx.range = ⟨b.taken + 1, b.seq⟩ ∧ (s.onFlushTick config now).1.Follows b.take := by
  unfold Session.onFlushTick
  split
  case h_2 => exact .inl ⟨rfl, h⟩
  case h_1 =>
    have hsame : { s with expectedNextFlush := s.expectedNextFlush.map (· + config.flushInterval)
        }.Follows b := { h with }
    dsimp only
    split_ifs with hflight
    · exact .inl ⟨rfl, hsame⟩
    · split
      case h_2 => exact .inl ⟨rfl, hsame⟩
      case h_1 oldest newest hfirst hlast =>
        have hne : s.buffer ≠ [] := by
          intro hnil
          simp [hnil] at hfirst
        have hnone : b.flight = none := by
          rw [h.inflight] at hflight
          simpa using hflight
        obtain ⟨holdest, hnewest⟩ := h.collects.range hfirst hlast
        refine .inr ⟨_, rfl, hnone, h.collects.lt hne, ?_, h.seq, Collects.take b, rfl⟩
        simp only [BatchContext.range, holdest, hnewest]

lemma Follows.onInferenceFinished (h : s.Follows b) (config : Config) (writes : Message → Bool)
    (result : InferenceResult) (ctx : BatchContext) (now : Instant) (r : Range) :
    (s.onInferenceFinished config writes result ctx now).1.Follows (b.answer r) := by
  have hdone : { s with inflight := false }.Follows (b.answer r) :=
    ⟨h.seq, h.collects.answer r, rfl⟩
  unfold Session.onInferenceFinished
  dsimp only
  split
  · exact hdone
  · exact hdone

lemma onInferenceFinished_state (s : Session) (config : Config) (writes : Message → Bool)
    (result : InferenceResult) (ctx : BatchContext) (now : Instant) :
    (s.onInferenceFinished config writes result ctx now).1.state = s.state := by
  unfold Session.onInferenceFinished
  dsimp only
  split <;> rfl

lemma onInferenceFinished_calls (s : Session) (config : Config) {writes : Message → Bool}
    (hwrites : ∀ m, writes m = true) (result : InferenceResult) (ctx : BatchContext)
    (now : Instant) :
    (s.state = .Closed ∧ (s.onInferenceFinished config writes result ctx now).2 = []) ∨
      s.state ≠ .Closed ∧ ∃ m, m.range = ctx.range ∧
        (s.onInferenceFinished config writes result ctx now).2 = [.Send m] := by
  unfold Session.onInferenceFinished
  dsimp only
  split
  case h_1 hclosed => exact .inl ⟨hclosed, rfl⟩
  case h_2 hopen =>
    right
    rw [if_pos (hwrites _)]
    refine ⟨hopen, _, ?_, rfl⟩
    cases result <;> rfl

end Session

end SttBench.Cpp23Uws
