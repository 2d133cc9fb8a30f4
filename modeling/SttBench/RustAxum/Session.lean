import SttBench.Core.Ascii
import SttBench.Core.Batcher
import SttBench.Core.Drift

/-!
# rust-axum: the session of one connection

The receive loop and the flush loop share a buffer.
-/

namespace SttBench.RustAxum

open Ascii Tiling TransitionSystem

abbrev Instant := ℕ
abbrev Duration := ℕ

def frameBytes : ℕ := 640
def maxInflightInferences : ℕ := 1
def partialChannelDepth : ℕ := 4
def closeProtocolError : ℕ := 1002
def closeUnsupportedData : ℕ := 1003
def reasonNeedStart : String := "first message must be start"
def reasonTextAfterStart : String := "expected binary PCM frames after start"
def reasonBadFrameSize : String := "expected 640 byte PCM frame"

/-! ## Messages -/

structure Frame where
  seq : ℕ
  payload : Bytes
  receivedAt : Instant
deriving DecidableEq, Repr

structure InferResponse where
  rms : UInt64
  zeroCrossings : ℕ
  checksum : ℕ
  samples : ℕ
  transcript : String
  audioBytes : ℕ
deriving DecidableEq, Repr

structure PartialMessage where
  oldestFrameSeq : ℕ
  newestFrameSeq : ℕ
  frames : ℕ
  rms : UInt64
  zeroCrossings : ℕ
  checksum : ℕ
  samples : ℕ
  transcript : String
  audioBytes : ℕ
  cpuPasses : ℕ
  modelDelayMs : ℕ
  flushLateness : Duration
  inflightModelJobs : ℕ
deriving DecidableEq, Repr

inductive ErrorStage
  | InferenceRequest
  | InferenceResponseParse
deriving DecidableEq, Repr

inductive ErrorKind
  | Timeout
  | Http5xx
  | Http429
  | ConnectionReset
  | ParseError
deriving DecidableEq, Repr

structure ErrorMessage where
  stage : ErrorStage
  kind : ErrorKind
  message : String
  oldestFrameSeq : ℕ
  newestFrameSeq : ℕ
  frames : ℕ
  audioBytes : ℕ
  oldestAge : Duration
  newestAge : Duration
  flushLateness : Duration
  inferenceElapsed : Option Duration
  inflightGatewayBatches : ℕ
  gatewayBufferFrames : ℕ
  inferenceStatus : Option ℕ
  retryable : Bool
deriving DecidableEq, Repr

inductive Outbound
  | Partial (m : PartialMessage)
  | Error (m : ErrorMessage)
deriving DecidableEq, Repr

def Outbound.report : Outbound → Range × Duration
  | .Partial m => (⟨m.oldestFrameSeq, m.newestFrameSeq⟩, m.flushLateness)
  | .Error m => (⟨m.oldestFrameSeq, m.newestFrameSeq⟩, m.flushLateness)

/-! ## One inference request -/

structure Batch where
  frames : List Frame
  flushLateness : Duration
  nonempty : frames ≠ []
deriving DecidableEq

namespace Batch

def oldest (b : Batch) : Frame := b.frames.head b.nonempty

def newest (b : Batch) : Frame := b.frames.getLast b.nonempty

def report (b : Batch) : Range × Duration := (⟨b.oldest.seq, b.newest.seq⟩, b.flushLateness)

end Batch

def concatPcm (batch : List Frame) : Bytes := batch.flatMap Frame.payload

structure RequestError where
  isTimeout : Bool
  isConnect : Bool
  isDecode : Bool
  text : String
deriving DecidableEq, Repr

def classifyRequestError (error : RequestError) : ErrorKind × Bool :=
  if error.isTimeout then (.Timeout, true)
  else if error.isConnect then (.ConnectionReset, true)
  else if error.isDecode then (.ParseError, false)
  else (.ConnectionReset, true)

def classifyStatus (status : ℕ) : ErrorKind × Bool :=
  if status = 429 then (.Http429, true)
  else if 500 ≤ status ∧ status < 600 then (.Http5xx, true)
  else (.Http5xx, false)

inductive Exchange
  | Failed (error : RequestError)
  | Answer (status : ℕ) (display : String) (json : Except String InferResponse)

structure AppContext where
  cpuPasses : ℕ
  modelDelayMs : ℕ
  flushInterval : Duration
  flushPhaseJitter : Duration
deriving DecidableEq, Repr

def PartialMessage.new (context : AppContext) (infer : InferResponse) (batch : Batch) :
    PartialMessage where
  oldestFrameSeq := batch.oldest.seq
  newestFrameSeq := batch.newest.seq
  frames := batch.frames.length
  rms := infer.rms
  zeroCrossings := infer.zeroCrossings
  checksum := infer.checksum
  samples := infer.samples
  transcript := infer.transcript
  audioBytes := infer.audioBytes
  cpuPasses := context.cpuPasses
  modelDelayMs := context.modelDelayMs
  flushLateness := batch.flushLateness
  inflightModelJobs := 0

structure Moment where
  startedAt : Instant
  now : Instant
  gatewayBufferFrames : ℕ

def makeError (batch : Batch) (moment : Moment) (stage : ErrorStage) (kind : ErrorKind)
    (message : String) (inferenceStatus : Option ℕ) (retryable : Bool) : ErrorMessage where
  stage := stage
  kind := kind
  message := message
  oldestFrameSeq := batch.oldest.seq
  newestFrameSeq := batch.newest.seq
  frames := batch.frames.length
  audioBytes := (concatPcm batch.frames).length
  oldestAge := moment.now - batch.oldest.receivedAt
  newestAge := moment.now - batch.newest.receivedAt
  flushLateness := batch.flushLateness
  inferenceElapsed := some (moment.now - moment.startedAt)
  inflightGatewayBatches := 1
  gatewayBufferFrames := moment.gatewayBufferFrames
  inferenceStatus := inferenceStatus
  retryable := retryable

def requestPartial (context : AppContext) (batch : Batch) (moment : Moment) : Exchange → Outbound
  | .Failed error =>
    let (kind, retryable) := classifyRequestError error
    .Error (makeError batch moment .InferenceRequest kind error.text none retryable)
  | .Answer status display json =>
    if ¬ (200 ≤ status ∧ status < 300) then
      let (kind, retryable) := classifyStatus status
      .Error (makeError batch moment .InferenceRequest kind
        ("inference returned status " ++ display) (some status) retryable)
    else
      match json with
      | .ok infer => .Partial (PartialMessage.new context infer batch)
      | .error error =>
        .Error (makeError batch moment .InferenceResponseParse .ParseError error (some status)
          false)

lemma report_requestPartial (context : AppContext) (batch : Batch) (moment : Moment)
    (exchange : Exchange) :
    (requestPartial context batch moment exchange).report = batch.report := by
  cases exchange with
  | Failed error => rfl
  | Answer status display json =>
    dsimp only [requestPartial]
    split
    · rfl
    · cases json with
      | ok infer => rfl
      | error error => rfl

/-! ## The ticker -/

structure Interval where
  deadline : Instant
  period : Duration
deriving DecidableEq, Repr

def missedAfter : Duration := 5000000

def Interval.tick (ticker : Interval) (t : Instant) : Interval :=
  if ticker.deadline + missedAfter < t then { ticker with deadline := t + ticker.period }
  else { ticker with deadline := ticker.deadline + ticker.period }

/-! ## The two tasks -/

inductive Message
  | Text (text : String)
  | Binary (payload : Bytes)
  | Ping
  | Pong
  | Close
deriving DecidableEq, Repr

inductive Received
  | Ok (message : Message)
  | Err
  | End
deriving DecidableEq, Repr

inductive FirstMessage
  | Start
  | Control
  | Invalid
deriving DecidableEq, Repr

def classifyFirstMessage (clientMessage : String → Bool) : Message → FirstMessage
  | .Text text => if clientMessage text then .Start else .Invalid
  | .Ping => .Control
  | .Pong => .Control
  | _ => .Invalid

inductive Receiving
  | AwaitStart
  | Open
  | Ended (close : Option (ℕ × String))
deriving DecidableEq, Repr

inductive FlushStage
  | Ticking
  | Requesting (batch : Batch) (startedAt : Instant)
  | Sending (m : Outbound)
deriving DecidableEq

structure FlushLoop where
  ticker : Interval
  expected : Instant
  stage : FlushStage
deriving DecidableEq

structure Tick where
  scheduled : Instant
  polled : Instant
  now : Instant
  batch : Option Batch

def Tick.OnTime (t : Tick) : Prop := t.polled ≤ t.scheduled + missedAfter

instance (t : Tick) : Decidable t.OnTime := inferInstanceAs (Decidable (_ ≤ _))

structure Session where
  receiving : Receiving
  buffer : List Frame
  seq : ℕ
  /-- The permits left of `compute_sem`. -/
  permits : ℕ
  flusher : Option FlushLoop
  channel : List Outbound
  sent : List Outbound
  ticks : List Tick

namespace Session

def start : Session := ⟨.AwaitStart, [], 0, maxInflightInferences, none, [], [], []⟩

def handleFirst (clientMessage : String → Bool) (s : Session) : Received → Session
  | .Ok message =>
    match classifyFirstMessage clientMessage message with
    | .Start => { s with receiving := .Open }
    | .Control => s
    | .Invalid => { s with receiving := .Ended (some (closeProtocolError, reasonNeedStart)) }
  | .Err => { s with receiving := .Ended none }
  | .End => { s with receiving := .Ended none }

def handleInbound (s : Session) (now : Instant) : Received → Session
  | .Ok (.Binary payload) =>
    if payload.length = frameBytes then
      { s with seq := s.seq + 1, buffer := s.buffer ++ [⟨s.seq + 1, payload, now⟩] }
    else { s with receiving := .Ended (some (closeUnsupportedData, reasonBadFrameSize)) }
  | .Ok (.Text _) =>
    { s with receiving := .Ended (some (closeProtocolError, reasonTextAfterStart)) }
  | .Ok .Close => { s with receiving := .Ended none }
  | .Ok .Ping => s
  | .Ok .Pong => s
  | .Err => { s with receiving := .Ended none }
  | .End => { s with receiving := .Ended none }

def flushTick (context : AppContext) (s : Session) (f : FlushLoop) (polled now : Instant) :
    Session :=
  let scheduled := f.ticker.deadline
  let flushLateness := now - f.expected
  let f := { f with ticker := f.ticker.tick polled, expected := f.expected + context.flushInterval }
  if s.permits = 0 then
    { s with flusher := some f, ticks := s.ticks ++ [⟨scheduled, polled, now, none⟩] }
  else if h : s.buffer = [] then
    { s with flusher := some f, ticks := s.ticks ++ [⟨scheduled, polled, now, none⟩] }
  else
    let batch : Batch := ⟨s.buffer, flushLateness, h⟩
    { s with
      buffer := []
      permits := s.permits - 1
      flusher := some { f with stage := .Requesting batch now }
      ticks := s.ticks ++ [⟨scheduled, polled, now, some batch⟩] }

end Session

inductive Event
  | Inbound (received : Received) (now : Instant)
  | FlushBegins (now : Instant) (jitter : Duration)
  | Tick (polled now : Instant)
  | Answered (exchange : Exchange) (now : Instant)
  | Queued
  | Outbound (delivered : Bool)

structure Env where
  context : AppContext
  clientMessage : String → Bool

namespace Session

def step (env : Env) (s : Session) : Event → Option Session
  | .Inbound received now =>
    match s.receiving with
    | .AwaitStart => some (s.handleFirst env.clientMessage received)
    | .Open => some (s.handleInbound now received)
    | .Ended _ => none
  | .FlushBegins now jitter =>
    match s.receiving, s.flusher with
    | .Open, none =>
      if jitter ≤ env.context.flushPhaseJitter then
        let start := now + env.context.flushInterval + jitter
        some { s with flusher := some ⟨⟨start, env.context.flushInterval⟩, start, .Ticking⟩ }
      else none
    | _, _ => none
  | .Tick polled now =>
    match s.receiving, s.flusher with
    | .Open, some ⟨ticker, expected, .Ticking⟩ =>
      if ticker.deadline ≤ polled ∧ polled ≤ now then
        some (s.flushTick env.context ⟨ticker, expected, .Ticking⟩ polled now)
      else none
    | _, _ => none
  | .Answered exchange now =>
    match s.receiving, s.flusher with
    | .Open, some ⟨ticker, expected, .Requesting batch startedAt⟩ =>
      let m := requestPartial env.context batch ⟨startedAt, now, s.buffer.length⟩ exchange
      some { s with flusher := some ⟨ticker, expected, .Sending m⟩ }
    | _, _ => none
  | .Queued =>
    match s.receiving, s.flusher with
    | .Open, some ⟨ticker, expected, .Sending m⟩ =>
      if s.channel.length < partialChannelDepth then
        some { s with
          channel := s.channel ++ [m]
          permits := s.permits + 1
          flusher := some ⟨ticker, expected, .Ticking⟩ }
      else none
    | _, _ => none
  | .Outbound delivered =>
    match s.receiving, s.channel with
    | .Open, m :: channel =>
      if delivered then some { s with sent := s.sent ++ [m], channel := channel }
      else some { s with receiving := .Ended none }
    | _, _ => none

def system (env : Env) : TransitionSystem Session Event := ofFun start (step env)

def reported (s : Session) : List Outbound := s.sent ++ s.channel

def batches (s : Session) : List Batch := s.ticks.filterMap Tick.batch

/-! ## What a step can do -/

inductive Moves (env : Env) (s : Session) : Session → Prop
  | receiving (r : Receiving) : Moves env s { s with receiving := r }
  | frame (payload : Bytes) (now : Instant) :
      Moves env s { s with seq := s.seq + 1, buffer := s.buffer ++ [⟨s.seq + 1, payload, now⟩] }
  | begins (start : Instant) (hflusher : s.flusher = none) :
      Moves env s
        { s with flusher := some ⟨⟨start, env.context.flushInterval⟩, start, .Ticking⟩ }
  | tick {ticker : Interval} {expected polled now : Instant}
      (hflusher : s.flusher = some ⟨ticker, expected, .Ticking⟩)
      (hdue : ticker.deadline ≤ polled) (hpolled : polled ≤ now) :
      Moves env s (s.flushTick env.context ⟨ticker, expected, .Ticking⟩ polled now)
  | answered {ticker : Interval} {expected startedAt : Instant} {batch : Batch} {m : Outbound}
      (hflusher : s.flusher = some ⟨ticker, expected, .Requesting batch startedAt⟩)
      (hm : m.report = batch.report) :
      Moves env s { s with flusher := some ⟨ticker, expected, .Sending m⟩ }
  | queued {ticker : Interval} {expected : Instant} {m : Outbound}
      (hflusher : s.flusher = some ⟨ticker, expected, .Sending m⟩) :
      Moves env s
        { s with
          channel := s.channel ++ [m]
          permits := s.permits + 1
          flusher := some ⟨ticker, expected, .Ticking⟩ }
  | delivered {m : Outbound} {channel : List Outbound} (hchannel : s.channel = m :: channel) :
      Moves env s { s with sent := s.sent ++ [m], channel := channel }

variable {env : Env} {s s' : Session} {e : Event}

lemma moves_handleFirst (clientMessage : String → Bool) (received : Received) :
    Moves env s (s.handleFirst clientMessage received) := by
  cases received with
  | Ok message =>
    rw [handleFirst]
    split
    · exact .receiving _
    · exact .receiving s.receiving
    · exact .receiving _
  | Err | End => exact .receiving _

lemma moves_handleInbound (now : Instant) (received : Received) :
    Moves env s (s.handleInbound now received) := by
  unfold handleInbound
  split
  · split_ifs
    · exact .frame _ now
    · exact .receiving _
  · exact .receiving _
  · exact .receiving _
  · exact .receiving s.receiving
  · exact .receiving s.receiving
  · exact .receiving _
  · exact .receiving _

lemma step_moves (h : step env s e = some s') : Moves env s s' := by
  cases e with
  | Inbound received now =>
    dsimp only [step] at h
    split at h
    · exact Option.some.inj h ▸ moves_handleFirst _ _
    · exact Option.some.inj h ▸ moves_handleInbound _ _
    · cases h
  | FlushBegins now jitter =>
    dsimp only [step] at h
    split at h
    · split_ifs at h
      exact Option.some.inj h ▸ .begins _ ‹_›
    · cases h
  | Tick polled now =>
    dsimp only [step] at h
    split at h
    · split_ifs at h with hdue
      exact Option.some.inj h ▸ .tick ‹_› hdue.1 hdue.2
    · cases h
  | Answered exchange now =>
    dsimp only [step] at h
    split at h
    · exact Option.some.inj h ▸ .answered ‹_› (report_requestPartial _ _ _ _)
    · cases h
  | Queued =>
    dsimp only [step] at h
    split at h
    · split_ifs at h
      exact Option.some.inj h ▸ .queued ‹_›
    · cases h
  | Outbound delivered =>
    dsimp only [step] at h
    split at h
    · split_ifs at h
      · exact Option.some.inj h ▸ .delivered ‹_›
      · exact Option.some.inj h ▸ .receiving _
    · cases h

lemma flushTick_cases (context : AppContext) (s : Session) (ticker : Interval)
    (expected polled now : Instant) :
    let f' : FlushLoop := ⟨ticker.tick polled, expected + context.flushInterval, .Ticking⟩
    s.flushTick context ⟨ticker, expected, .Ticking⟩ polled now =
        { s with
          flusher := some f'
          ticks := s.ticks ++ [⟨ticker.deadline, polled, now, none⟩] } ∨
      ∃ hbuffer : s.buffer ≠ [],
        s.flushTick context ⟨ticker, expected, .Ticking⟩ polled now =
          { s with
            buffer := []
            permits := s.permits - 1
            flusher := some { f' with stage := .Requesting ⟨s.buffer, now - expected, hbuffer⟩ now }
            ticks := s.ticks ++
              [⟨ticker.deadline, polled, now, some ⟨s.buffer, now - expected, hbuffer⟩⟩] } := by
  dsimp only [flushTick]
  by_cases hpermits : s.permits = 0
  · exact .inl (if_pos hpermits)
  · rw [if_neg hpermits]
    by_cases hbuffer : s.buffer = []
    · exact .inl (dif_pos hbuffer)
    · exact .inr ⟨hbuffer, dif_neg hbuffer⟩

/-! ## The answers and the batches -/

def owed : Option FlushLoop → List (Range × Duration)
  | some ⟨_, _, .Requesting batch _⟩ => [batch.report]
  | some ⟨_, _, .Sending m⟩ => [m.report]
  | _ => []

def Answers (s : Session) : Prop :=
  s.reported.map Outbound.report ++ owed s.flusher = s.batches.map Batch.report

lemma answers_inductive (env : Env) : (system env).Inductive Answers where
  init := by
    rintro s rfl
    rfl
  step := by
    intro s e s' h hstep
    unfold Answers reported batches at h ⊢
    cases step_moves hstep with
    | receiving r | frame payload now => exact h
    | begins start hflusher => rwa [hflusher] at h
    | answered hflusher hm =>
      rw [hflusher] at h
      simpa only [owed, hm] using h
    | queued hflusher =>
      rw [hflusher] at h
      simpa [owed] using h
    | delivered hchannel =>
      simpa [hchannel] using h
    | @tick ticker expected polled now hflusher hdue hpolled =>
      rw [hflusher] at h
      obtain hskip | ⟨hbuffer, hflush⟩ := flushTick_cases env.context s ticker expected polled now
      · rw [hskip]
        simpa [owed] using h
      · rw [hflush]
        simp only [owed, List.append_nil] at h
        simp [owed, h]

structure Follows (s : Session) (b : Batcher) : Prop where
  seq : s.seq = b.seq
  collects : Collects Frame.seq b s.buffer
  flight : b.flight.toList = (owed s.flusher).map Prod.fst
  answered : b.answered = s.reported.map (·.report.1)

lemma Follows.flight_eq_none {b : Batcher} (h : s.Follows b) (howed : owed s.flusher = []) :
    b.flight = none := by
  have hflight := h.flight
  rw [howed] at hflight
  simpa using hflight

lemma Follows.range {b : Batcher} (h : s.Follows b) {lateness : Duration}
    (hbuffer : s.buffer ≠ []) :
    (Batch.report ⟨s.buffer, lateness, hbuffer⟩).1 = ⟨b.taken + 1, b.seq⟩ := by
  have hfirst : s.buffer.head? = some (s.buffer.head hbuffer) := List.head?_eq_some_head hbuffer
  have hlast : s.buffer.getLast? = some (s.buffer.getLast hbuffer) :=
    List.getLast?_eq_some_getLast hbuffer
  obtain ⟨holdest, hnewest⟩ := h.collects.range hfirst hlast
  rw [← holdest, ← hnewest]
  rfl

theorem follows_batcher (hs : (system env).Reachable s) :
    ∃ b, Batcher.system.Reachable b ∧ s.Follows b := by
  refine hs.simulate (R := Follows) ?_ ?_
  · rintro s rfl
    exact ⟨.start, rfl, rfl, Collects.start, rfl, rfl⟩
  · intro s e s' b _ h hstep
    cases step_moves hstep with
    | receiving r => exact .inl { h with }
    | frame payload now =>
      refine .inr ⟨_, _, .receive b, congrArg (· + 1) h.seq, ?_, h.flight, h.answered⟩
      exact h.collects.receive (congrArg (· + 1) h.seq)
    | begins start hflusher =>
      have hflight := h.flight
      rw [hflusher] at hflight
      exact .inl ⟨h.seq, h.collects, hflight, h.answered⟩
    | @answered ticker expected startedAt batch m hflusher hm =>
      have hflight := h.flight
      rw [hflusher] at hflight
      refine .inl ⟨h.seq, h.collects, ?_, h.answered⟩
      simpa only [owed, hm] using hflight
    | @queued ticker expected m hflusher =>
      have hflight := h.flight
      rw [hflusher] at hflight
      have hflight : b.flight = some m.report.1 := by
        simpa [owed, Option.toList_eq_singleton_iff] using hflight
      refine .inr ⟨_, _, .answer hflight, h.seq, h.collects.answer _, rfl, ?_⟩
      simp [Batcher.answer, h.answered, reported]
    | delivered hchannel =>
      refine .inl ⟨h.seq, h.collects, h.flight, ?_⟩
      simp [h.answered, reported, hchannel]
    | @tick ticker expected polled now hflusher hdue hpolled =>
      have howed : owed s.flusher = [] := by rw [hflusher]; rfl
      have hflight := h.flight_eq_none howed
      obtain hskip | ⟨hbuffer, hflush⟩ := flushTick_cases env.context s ticker expected polled now
      · rw [hskip]
        refine .inl ⟨h.seq, h.collects, ?_, h.answered⟩
        simp [owed, hflight]
      · rw [hflush]
        have hlt := h.collects.lt hbuffer
        refine .inr ⟨_, _, .take hflight hlt, h.seq, Collects.take b, ?_, h.answered⟩
        simp [Batcher.take, owed, h.range hbuffer]

theorem reported_tile (hs : (system env).Reachable s) :
    ∃ k ≤ s.seq, Tiles (s.reported.map (·.report.1)) k := by
  obtain ⟨b, hb, hfollows⟩ := follows_batcher hs
  obtain ⟨k, hk, htiles⟩ := Batcher.answered_tiles hb
  refine ⟨k, ?_, hfollows.answered ▸ htiles⟩
  rw [hfollows.seq]
  exact hk.trans (Batcher.taken_le hb)

/-! ## The lateness -/

def LatenessExact (before : List Tick) (tick : Tick) : Prop :=
  ∀ batch, tick.batch = some batch →
    (batch.flushLateness = tick.now - tick.scheduled ↔ ∀ t ∈ before, t.OnTime)

lemma tick_deadline (ticker : Interval) (polled : Instant) :
    ∃ b, (ticker.tick polled).deadline = ticker.deadline + b ∧ ticker.period ≤ b ∧
      (polled ≤ ticker.deadline + missedAfter ↔ ticker.period = b) := by
  unfold Interval.tick
  split_ifs with hmissed
  · obtain ⟨gap, rfl⟩ := Nat.exists_eq_add_of_lt hmissed
    refine ⟨missedAfter + gap + 1 + ticker.period, ?_, ?_, ?_⟩
    · dsimp only
      ring
    · exact Nat.le_add_left _ _
    · have hpositive : 0 < missedAfter + gap + 1 := Nat.succ_pos _
      constructor
      · intro hle
        exact absurd hle (Nat.not_le_of_lt hmissed)
      · intro heq
        exact absurd heq (Nat.ne_of_lt (Nat.lt_add_of_pos_left hpositive))
  · exact ⟨ticker.period, rfl, le_rfl, by simpa using hmissed⟩

structure Paced (env : Env) (s : Session) : Prop where
  idle : s.flusher = none → s.ticks = []
  drift : ∀ f, s.flusher = some f →
    f.ticker.period = env.context.flushInterval ∧
      Drift Tick.OnTime s.ticks f.expected f.ticker.deadline
  exact : Along LatenessExact s.ticks

lemma Paced.of_stage (h : s.Paced env) {f : FlushLoop} (hflusher : s.flusher = some f)
    (stage : FlushStage) {s' : Session} (hflusher' : s'.flusher = some { f with stage := stage })
    (hticks : s'.ticks = s.ticks) : s'.Paced env where
  idle := fun hnone => absurd (hflusher'.symm.trans hnone) (Option.some_ne_none _)
  drift := by
    intro f' hf'
    cases hflusher'.symm.trans hf'
    rw [hticks]
    exact h.drift f hflusher
  exact := hticks ▸ h.exact

lemma Paced.tick (h : s.Paced env) {ticker : Interval} {expected polled now : Instant}
    (hflusher : s.flusher = some ⟨ticker, expected, .Ticking⟩) (hdue : ticker.deadline ≤ polled)
    (hpolled : polled ≤ now) {batch : Option Batch}
    (hbatch : ∀ b ∈ batch, b.flushLateness = now - expected) {stage : FlushStage} {s' : Session}
    (hflusher' : s'.flusher =
      some ⟨ticker.tick polled, expected + env.context.flushInterval, stage⟩)
    (hticks : s'.ticks = s.ticks ++ [⟨ticker.deadline, polled, now, batch⟩]) : s'.Paced env := by
  obtain ⟨hperiod, hdrift⟩ := h.drift _ hflusher
  obtain ⟨b, hdeadline, hle, honTime⟩ := tick_deadline ticker polled
  refine ⟨fun hnone => absurd (hflusher'.symm.trans hnone) (Option.some_ne_none _), ?_, ?_⟩
  · intro f' hf'
    cases hflusher'.symm.trans hf'
    have hperiod' : (ticker.tick polled).period = ticker.period := by
      unfold Interval.tick
      split_ifs <;> rfl
    refine ⟨hperiod'.trans hperiod, ?_⟩
    rw [hticks, hdeadline, ← hperiod]
    exact hdrift.run hle honTime
  · rw [hticks]
    refine h.exact.concat ?_
    intro b hb
    rw [hbatch b hb]
    exact hdrift.lateness_iff (hdue.trans hpolled)

lemma paced_inductive (env : Env) : (system env).Inductive (Paced env) where
  init := by
    rintro s rfl
    exact ⟨fun _ => rfl, by simp [start], Along.nil⟩
  step := by
    intro s e s' h hstep
    cases step_moves hstep with
    | receiving r | frame payload now | delivered hchannel => exact { h with }
    | begins start hflusher =>
      have hticks := h.idle hflusher
      refine ⟨by simp, ?_, h.exact⟩
      intro f hf
      cases hf
      refine ⟨rfl, ?_⟩
      dsimp only
      rw [hticks]
      exact Drift.start _ start
    | answered hflusher hm | queued hflusher => exact h.of_stage hflusher _ rfl rfl
    | @tick ticker expected polled now hflusher hdue hpolled =>
      obtain hskip | ⟨hbuffer, hflush⟩ := flushTick_cases env.context s ticker expected polled now
      · rw [hskip]
        exact h.tick hflusher hdue hpolled (by simp) rfl rfl
      · rw [hflush]
        exact h.tick hflusher hdue hpolled (by simp) rfl rfl

theorem flushLateness_iff (hs : (system env).Reachable s) :
    s.reported.map Outbound.report <+: s.batches.map Batch.report ∧
    ∀ before tick after batch, s.ticks = before ++ tick :: after → tick.batch = some batch →
      (batch.flushLateness = tick.now - tick.scheduled ↔
        ∀ t ∈ before, t.polled ≤ t.scheduled + missedAfter) := by
  constructor
  · rw [← (answers_inductive env).reachable hs]
    exact List.prefix_append _ _
  · intro before tick after batch hsplit hbatch
    exact ((paced_inductive env).reachable hs).exact before tick after hsplit batch hbatch

def defaultEnv : Env :=
  ⟨⟨4, 75, 1000000000, 0⟩, fun text => text == "\x7b\"type\":\"start\"\x7d"⟩

def lateStart : List Event :=
  let frame : Received := .Ok (.Binary (List.replicate 640 0))
  [.Inbound (.Ok (.Text "\x7b\"type\":\"start\"\x7d")) 0, .FlushBegins 0 0,
    .Inbound frame 20000000, .Tick 1400000000 1400000000,
    .Answered (.Failed ⟨true, false, false, "timeout"⟩) 1500000000, .Queued,
    .Inbound frame 1600000000, .Tick 2400000000 2400000000,
    .Answered (.Failed ⟨true, false, false, "timeout"⟩) 2500000000, .Queued]

def punctualStart : List Event :=
  let frame : Received := .Ok (.Binary (List.replicate 640 0))
  [.Inbound (.Ok (.Text "\x7b\"type\":\"start\"\x7d")) 0, .FlushBegins 0 0,
    .Inbound frame 20000000, .Tick 1003000000 1003000000,
    .Answered (.Failed ⟨true, false, false, "timeout"⟩) 1500000000, .Queued,
    .Inbound frame 1600000000, .Tick 2003000000 2003000000]

theorem punctual_tick_reported_late :
    ∃ s, (system defaultEnv).Reachable s ∧
      s.reported.map Outbound.report = [(⟨1, 1⟩, 400000000), (⟨2, 2⟩, 400000000)] ∧
      s.ticks.map (fun t => (t.scheduled, t.now)) =
        [(1000000000, 1400000000), (2400000000, 2400000000)] :=
  Reachable.exists_of_exec lateStart (by decide +kernel)

theorem flushLateness_iff_punctual :
    ∃ s, (system defaultEnv).Reachable s ∧
      ∃ first second batch, s.ticks = [first, second] ∧ second.batch = some batch ∧
        first.OnTime ∧ batch.flushLateness = second.now - second.scheduled := by
  obtain ⟨s, hs, hlength, hticks⟩ : ∃ s, (system defaultEnv).Reachable s ∧
      s.ticks.length = 2 ∧ ∀ t ∈ s.ticks, t.OnTime ∧ t.batch.isSome :=
    Reachable.exists_of_exec punctualStart (by decide +kernel)
  obtain ⟨first, second, heq⟩ := List.length_eq_two.mp hlength
  have hfirst := (hticks first (by simp [heq])).1
  obtain ⟨batch, hbatch⟩ := Option.isSome_iff_exists.mp (hticks second (by simp [heq])).2
  refine ⟨s, hs, first, second, batch, heq, hbatch, hfirst, ?_⟩
  refine ((flushLateness_iff hs).2 [first] second [] batch heq hbatch).mpr ?_
  intro t ht
  rwa [List.mem_singleton.mp ht]

end Session

end SttBench.RustAxum
