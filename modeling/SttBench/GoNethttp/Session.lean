import SttBench.Core.Batcher
import SttBench.Wire.Messages

/-!
# go-nethttp: the goroutines of one session

A step is one action of one goroutine, so any interleaving is a run.
-/

namespace SttBench.GoNethttp

open Ascii Tiling TransitionSystem Wire

abbrev Nanos := ℤ
abbrev Rms := ℚ

def maxMessageBytes : ℕ := 8 * 1024

structure Config where
  cpuPasses : ℕ
  modelDelayMs : ℕ
  outboxDepth : ℕ
  flushInterval : Nanos
  flushPhaseJitter : Nanos

def Config.depth (config : Config) : ℕ := max 1 config.outboxDepth

def Config.interval (config : Config) : Nanos :=
  if config.flushInterval ≤ 0 then 1000000000 else config.flushInterval

inductive InferError
  | Details (details : Failure)
  | Other (message : String) (timeout : Bool)

def classifyRequest (message : String) (timeout : Bool) : Failure :=
  ⟨.InferenceRequest, if timeout then .Timeout else .ConnectionReset, message, none, true⟩

def asDetails : InferError → Failure
  | .Details details => details
  | .Other message timeout => classifyRequest message timeout

structure Batch where
  oldest : Frame Nanos
  newest : Frame Nanos
  frames : ℕ
  body : Bytes

def Batch.range (batch : Batch) : Range := ⟨batch.oldest.seq, batch.newest.seq⟩

inductive FlushPc
  | NotStarted
  /-- Before `expected` is computed. -/
  | Starting
  | Waiting
  /-- In `flushToOutbox`, with the token. -/
  | Acquired (flushLateness : Nanos)
  /-- The buffer was empty, and the token goes back. -/
  | Empty
  /-- Before the `go` statement. -/
  | Drained (batch : Batch) (flushLateness : Nanos)
  | Exited

def FlushPc.owes : FlushPc → Option Range
  | .Drained batch _ => some batch.range
  | _ => none

def FlushPc.holds : FlushPc → Bool
  | .Acquired _ | .Empty | .Drained _ _ => true
  | _ => false

inductive BatchPc
  | Spawned
  /-- In the call of `Infer`. -/
  | Inferring
  | Inferred (result : Except InferError (Prediction Rms))
  /-- At the `select` with the outbox. -/
  | Sending (payload : Message Rms Nanos)
  /-- Before the deferred `releaseInflight`. -/
  | Releasing

structure BatchGoroutine where
  batch : Batch
  flushLateness : Nanos
  startedAt : Nanos
  pc : BatchPc

def BatchGoroutine.owes (g : BatchGoroutine) : Option Range :=
  match g.pc with
  | .Releasing => none
  | _ => some g.batch.range

inductive WriterPc
  | NotStarted
  | Waiting
  | Writing (payload : Message Rms Nanos)
  | Exited

inductive MessageType
  | Text
  | Binary
deriving DecidableEq, Repr

structure Session where
  started : Bool
  seq : ℕ
  buffer : List (Frame Nanos)
  token : ℕ
  outbox : List (Message Rms Nanos)
  /-- The context has been cancelled. -/
  done : Bool
  reading : Bool
  closed : Option (ℕ × String)
  flush : FlushPc
  expected : Nanos
  batches : List BatchGoroutine
  writer : WriterPc
  received : List (Message Rms Nanos)
  drained : List Range

structure Env where
  config : Config
  parseStartMessage : Bytes → Bool

inductive Event
  | Read (messageType : MessageType) (payload : Bytes) (receivedAt : Nanos)
  | ReadFails
  | Cancel
  | FlushStart (now : Nanos) (random : ℚ)
  | Timer (now : Nanos)
  | DrainBuffer
  | FlushRelease
  | Go
  | FlushExit
  | CallInfer (k : ℕ) (now : Nanos)
  | InferReturns (k : ℕ) (result : Except InferError (Prediction Rms))
  | Respond (k : ℕ) (now : Nanos)
  | Send (k : ℕ)
  | SendCancelled (k : ℕ)
  | Release (k : ℕ)
  | Receive
  | WriteReturns (failed : Bool)
  | WriterExit

namespace Session

def start : Session :=
  ⟨false, 0, [], 1, [], false, true, none, .NotStarted, 0, [], .NotStarted, [], []⟩

/-! ## The reader -/

def runReturns (s : Session) : Session := { s with reading := false, done := true }

def closeWith (s : Session) (code : ℕ) (reason : String) : Session :=
  { s with closed := some (code, reason) }.runReturns

def handleMessage (env : Env) (s : Session) (messageType : MessageType) (payload : Bytes)
    (receivedAt : Nanos) : Session :=
  if !s.started then
    if messageType ≠ .Text || !env.parseStartMessage payload then
      s.closeWith closeProtocolError reasonNeedStart
    -- `Run` starts the two loops once the start message has been handled
    else { s with started := true, flush := .Starting, writer := .Waiting }
  else if messageType = .Text then s.closeWith closeProtocolError reasonTextAfterStart
  else if payload.length ≠ frameBytes then s.closeWith closeUnsupportedData reasonBadFrameSize
  else { s with seq := s.seq + 1, buffer := s.buffer ++ [⟨s.seq + 1, payload, receivedAt⟩] }

/-! ## The flush goroutine -/

def durationMs (now earlier : Nanos) : Nanos := max 0 (now - earlier)

def tryAcquireInflight (s : Session) : Option Session :=
  if 0 < s.token then some { s with token := s.token - 1 } else none

def releaseInflight (s : Session) : Session :=
  if s.token < 1 then { s with token := s.token + 1 } else s

def drainBuffer (s : Session) : Option Batch :=
  match s.buffer.head?, s.buffer.getLast? with
  | some oldest, some newest =>
    some ⟨oldest, newest, s.buffer.length, s.buffer.flatMap Frame.payload⟩
  | _, _ => none

def flushReturns (env : Env) (s : Session) : Session :=
  { s with flush := .Waiting, expected := s.expected + env.config.interval }

def flushStep (env : Env) (s : Session) : Event → Option Session
  | .FlushStart now random =>
    match s.flush with
    | .Starting =>
      some { s with
        flush := .Waiting
        expected := now + env.config.interval + ⌊random * env.config.flushPhaseJitter⌋ }
    | _ => none
  | .Timer now =>
    match s.flush with
    | .Waiting =>
      match s.tryAcquireInflight with
      | some s => some { s with flush := .Acquired (durationMs now s.expected) }
      | none => some (s.flushReturns env)
    | _ => none
  | .DrainBuffer =>
    match s.flush with
    | .Acquired flushLateness =>
      match s.drainBuffer with
      | none => some { s with flush := .Empty }
      | some batch =>
        some { s with
          buffer := []
          flush := .Drained batch flushLateness
          drained := s.drained ++ [batch.range] }
    | _ => none
  | .FlushRelease =>
    match s.flush with
    | .Empty => some (s.releaseInflight.flushReturns env)
    | _ => none
  | .Go =>
    match s.flush with
    | .Drained batch flushLateness =>
      let g : BatchGoroutine := ⟨batch, flushLateness, 0, .Spawned⟩
      some ({ s with batches := s.batches ++ [g] }.flushReturns env)
    | _ => none
  | .FlushExit =>
    match s.flush with
    | .Waiting => if s.done then some { s with flush := .Exited } else none
    | _ => none
  | _ => none

/-! ## A batch -/

def newPartialMessage (config : Config) (g : BatchGoroutine) (prediction : Prediction Rms) :
    Message Rms Nanos :=
  .Partial
    { oldestFrameSeq := g.batch.oldest.seq
      newestFrameSeq := g.batch.newest.seq
      frames := g.batch.frames
      rms := prediction.rms
      zeroCrossings := prediction.zeroCrossings
      checksum := prediction.checksum
      samples := prediction.samples
      transcript := prediction.transcript
      audioBytes := prediction.audioBytes
      cpuPasses := config.cpuPasses
      modelDelayMs := config.modelDelayMs
      flushLateness := g.flushLateness
      inflightModelJobs := 0 }

def errorMessage (s : Session) (g : BatchGoroutine) (details : Failure) (now : Nanos) :
    Message Rms Nanos :=
  .Error
    { stage := details.stage
      kind := details.kind
      message := details.message
      oldestFrameSeq := g.batch.oldest.seq
      newestFrameSeq := g.batch.newest.seq
      frames := g.batch.frames
      audioBytes := g.batch.body.length
      oldestAge := durationMs now g.batch.oldest.receivedAt
      newestAge := durationMs now g.batch.newest.receivedAt
      flushLateness := g.flushLateness
      inferenceElapsed := some (durationMs now g.startedAt)
      inflightGatewayBatches := 1
      gatewayBufferFrames := s.buffer.length
      inferenceStatus := details.status
      retryable := details.retryable }

def processBatch (config : Config) (s : Session) (g : BatchGoroutine) (now : Nanos) :
    Except InferError (Prediction Rms) → Option (Message Rms Nanos)
  | .ok prediction => some (newPartialMessage config g prediction)
  | .error err => if s.done then none else some (s.errorMessage g (asDetails err) now)

def setPc (s : Session) (k : ℕ) (g : BatchGoroutine) (pc : BatchPc) : Session :=
  { s with batches := s.batches.set k { g with pc := pc } }

def batchStep (env : Env) (s : Session) (k : ℕ) (g : BatchGoroutine) : Event → Option Session
  | .CallInfer _ now =>
    match g.pc with
    | .Spawned => some (s.setPc k { g with startedAt := now } .Inferring)
    | _ => none
  | .InferReturns _ result =>
    match g.pc with
    | .Inferring => some (s.setPc k g (.Inferred result))
    | _ => none
  | .Respond _ now =>
    match g.pc with
    | .Inferred result =>
      match s.processBatch env.config g now result with
      | some payload => some (s.setPc k g (.Sending payload))
      | none => some (s.setPc k g .Releasing)
    | _ => none
  | .Send _ =>
    match g.pc with
    | .Sending payload =>
      if s.outbox.length < env.config.depth then
        some ({ s with outbox := s.outbox ++ [payload] }.setPc k g .Releasing)
      else none
    | _ => none
  | .SendCancelled _ =>
    match g.pc with
    | .Sending _ => if s.done then some (s.setPc k g .Releasing) else none
    | _ => none
  | .Release _ =>
    match g.pc with
    | .Releasing => some { s.releaseInflight with batches := s.batches.eraseIdx k }
    | _ => none
  | _ => none

/-! ## The session -/

def step (env : Env) (s : Session) (e : Event) : Option Session :=
  match e with
  | .Read messageType payload receivedAt =>
    if s.reading then
      some (s.handleMessage env messageType (payload.take (maxMessageBytes + 1)) receivedAt)
    else none
  | .ReadFails => if s.reading then some s.runReturns else none
  | .Cancel => some { s with done := true }
  | .FlushStart .. | .Timer .. | .DrainBuffer | .FlushRelease | .Go | .FlushExit =>
    s.flushStep env e
  | .CallInfer k _ | .InferReturns k _ | .Respond k _ | .Send k | .SendCancelled k | .Release k => do
      let g ← s.batches[k]?
      s.batchStep env k g e
  | .Receive =>
    match s.writer, s.outbox with
    | .Waiting, payload :: outbox =>
      some { s with
        outbox := outbox
        writer := .Writing payload
        received := s.received ++ [payload] }
    | _, _ => none
  | .WriteReturns failed =>
    match s.writer with
    | .Writing _ =>
      if failed then some { s with writer := .Exited, done := true }
      else some { s with writer := .Waiting }
    | _ => none
  | .WriterExit =>
    match s.writer with
    | .Waiting => if s.done then some { s with writer := .Exited } else none
    | _ => none

def system (env : Env) : TransitionSystem Session Event := ofFun start (step env)

/-! ## The token -/

variable {env : Env} {s s' : Session} {b : Batcher} {e : Event}

inductive Holder (token : ℕ) (flush : FlushPc) (batches : List BatchGoroutine)
    (flight : Option Range) : Prop
  | channel (htoken : token = 1) (hflush : flush.holds = false) (hbatches : batches = [])
      (hflight : flight = none)
  | acquired (lateness : Nanos) (htoken : token = 0) (hflush : flush = .Acquired lateness)
      (hbatches : batches = []) (hflight : flight = none)
  | empty (htoken : token = 0) (hflush : flush = .Empty) (hbatches : batches = [])
      (hflight : flight = none)
  | drained (batch : Batch) (lateness : Nanos) (htoken : token = 0)
      (hflush : flush = .Drained batch lateness) (hbatches : batches = [])
      (hflight : flight = some batch.range)
  | goroutine (g : BatchGoroutine) (htoken : token = 0) (hflush : flush.holds = false)
      (hbatches : batches = [g]) (hflight : flight = g.owes)
      (hpayload : ∀ payload, g.pc = .Sending payload → payload.range = g.batch.range)

structure Tracks (s : Session) (b : Batcher) : Prop where
  seq : s.seq = b.seq
  collects : Collects Frame.seq b s.buffer
  drained : s.drained = b.batches
  /-- No response is lost as long as the context is live. -/
  responses : s.done = false → (s.received ++ s.outbox).map Message.range = b.answered
  holder : Holder s.token s.flush s.batches b.flight
  notStarted : s.started = false → s.flush = .NotStarted

def Inv (s : Session) : Prop := ∃ b, Batcher.system.Reachable b ∧ s.Tracks b

section Holder

variable {token : ℕ} {pc pc' : FlushPc} {batches : List BatchGoroutine} {flight : Option Range}
  (h : Holder token pc batches flight)
include h

lemma Holder.flush (hflush : pc.holds = false) (hflush' : pc'.holds = false) :
    Holder token pc' batches flight := by
  cases h with
  | channel htoken _ hbatches hflight => exact .channel htoken hflush' hbatches hflight
  | goroutine g htoken _ hbatches hflight hpayload =>
    exact .goroutine g htoken hflush' hbatches hflight hpayload
  | acquired _ _ heq | empty _ heq | drained _ _ _ heq => rw [heq] at hflush; cases hflush

lemma Holder.of_flush (hflush : pc = pc') (hholds : pc'.holds = true) :
    token = 0 ∧ batches = [] ∧ flight = pc'.owes := by
  subst hflush
  cases h with
  | channel _ hfree | goroutine _ _ hfree => cases hfree.symm.trans hholds
  | acquired _ htoken heq hbatches hflight | empty htoken heq hbatches hflight
  | drained _ _ htoken heq hbatches hflight => exact heq ▸ ⟨htoken, hbatches, hflight⟩

lemma Holder.of_goroutine {k : ℕ} {g : BatchGoroutine} (hk : batches[k]? = some g) :
    k = 0 ∧ batches = [g] ∧ token = 0 ∧ pc.holds = false ∧ flight = g.owes ∧
      ∀ payload, g.pc = .Sending payload → payload.range = g.batch.range := by
  cases h with
  | channel _ _ hbatches | acquired _ _ _ hbatches | empty _ _ hbatches
  | drained _ _ _ _ hbatches => simp [hbatches] at hk
  | goroutine g' htoken hflush hbatches hflight hpayload =>
    rw [hbatches] at hk
    obtain ⟨hlt, hg⟩ := List.getElem?_eq_some_iff.mp hk
    obtain rfl : k = 0 := by simpa using hlt
    obtain rfl : g' = g := by simpa using hg
    exact ⟨rfl, hbatches, htoken, hflush, hflight, hpayload⟩

end Holder

lemma Inv.handleMessage (h : s.Inv) (messageType : MessageType) (payload : Bytes)
    (receivedAt : Nanos) : (s.handleMessage env messageType payload receivedAt).Inv := by
  obtain ⟨b, hb, htracks⟩ := h
  have hclose (code : ℕ) (reason : String) : (s.closeWith code reason).Inv :=
    ⟨b, hb, { htracks with responses := nofun }⟩
  unfold Session.handleMessage
  split_ifs with hstarted
  · exact hclose _ _
  · have hidle : s.flush = .NotStarted := htracks.notStarted (by simpa using hstarted)
    refine ⟨b, hb, { htracks with holder := ?_, notStarted := nofun }⟩
    exact htracks.holder.flush (by rw [hidle]; rfl) rfl
  · exact hclose _ _
  · exact hclose _ _
  · refine ⟨b.receive, hb.step (.receive b), ?_⟩
    exact
      { htracks with
        seq := congrArg (· + 1) htracks.seq
        collects := htracks.collects.receive (congrArg (· + 1) htracks.seq) }

lemma drainBuffer_range (h : Collects Frame.seq b s.buffer) {batch : Batch}
    (hdrain : s.drainBuffer = some batch) :
    batch.range = ⟨b.taken + 1, b.seq⟩ ∧ b.taken < b.seq := by
  unfold drainBuffer at hdrain
  split at hdrain
  case h_2 => cases hdrain
  case h_1 oldest newest hfirst hlast =>
    cases hdrain
    obtain ⟨holdest, hnewest⟩ := h.range hfirst hlast
    refine ⟨by simp only [Batch.range, holdest, hnewest], h.lt ?_⟩
    rintro hnil
    simp [hnil] at hfirst

lemma releaseInflight_of_zero (h : s.token = 0) : s.releaseInflight = { s with token := 1 } := by
  rw [releaseInflight, if_pos (by omega), h]

lemma Inv.flushStep (env : Env) (e : Event) (h : s.Inv)
    (hstep : s.flushStep env e = some s') : s'.Inv := by
  obtain ⟨b, hb, htracks⟩ := h
  have hstarted {flush flush' : FlushPc} (hflush : s.flush = flush) (hne : flush ≠ .NotStarted) :
      s.started = false → flush' = .NotStarted :=
    fun hfalse => absurd (hflush.symm.trans (htracks.notStarted hfalse)) hne
  -- without the token, it goes on
  have hfree {flush : FlushPc} (flush' : FlushPc) (hflush : s.flush = flush)
      (hne : flush ≠ .NotStarted) (hholds : flush.holds = false) (hholds' : flush'.holds = false)
      (expected : Nanos) : Inv { s with flush := flush', expected := expected } :=
    ⟨b, hb, { htracks with
      holder := htracks.holder.flush (hflush ▸ hholds) hholds'
      notStarted := hstarted hflush hne }⟩
  revert hstep
  fun_cases Session.flushStep env s e with
  | case1 _ _ hflush | case4 _ hflush =>
    rintro ⟨⟩
    exact hfree .Waiting hflush nofun rfl rfl _
  | case3 now hflush s₁ hacquire =>
    rintro ⟨⟩
    unfold tryAcquireInflight at hacquire
    split_ifs at hacquire with htoken
    cases hacquire
    refine ⟨b, hb, { htracks with holder := ?_, notStarted := hstarted hflush nofun }⟩
    cases htracks.holder with
    | channel hone _ hbatches hflight =>
      exact .acquired _ (by show s.token - 1 = 0; omega) rfl hbatches hflight
    | acquired _ hzero | empty hzero | drained _ _ hzero | goroutine _ hzero => omega
  | case6 _ hflush hnone =>
    rintro ⟨⟩
    obtain ⟨htoken, hbatches, hflight⟩ := htracks.holder.of_flush hflush rfl
    exact ⟨b, hb, { htracks with
      holder := .empty htoken rfl hbatches hflight
      notStarted := hstarted hflush nofun }⟩
  | case7 lateness hflush batch hsome =>
    rintro ⟨⟩
    obtain ⟨htoken, hbatches, hflight⟩ := htracks.holder.of_flush hflush rfl
    obtain ⟨hrange, hlt⟩ := drainBuffer_range htracks.collects hsome
    exact ⟨b.take, hb.step (.take hflight hlt), { htracks with
      collects := Collects.take b
      drained := by rw [Batcher.batches_take hflight, ← htracks.drained, ← hrange]
      holder := .drained batch lateness htoken rfl hbatches (by rw [hrange]; rfl)
      notStarted := hstarted hflush nofun }⟩
  | case9 hflush =>
    rintro ⟨⟩
    obtain ⟨htoken, hbatches, hflight⟩ := htracks.holder.of_flush hflush rfl
    rw [releaseInflight_of_zero htoken]
    exact ⟨b, hb, { htracks with
      holder := .channel rfl rfl hbatches hflight
      notStarted := hstarted hflush nofun }⟩
  | case11 batch lateness hflush =>
    rintro ⟨⟩
    obtain ⟨htoken, hbatches, hflight⟩ := htracks.holder.of_flush hflush rfl
    exact ⟨b, hb, { htracks with
      holder := .goroutine ⟨batch, lateness, 0, .Spawned⟩ htoken rfl (by rw [hbatches]; rfl)
        hflight (by rintro _ ⟨⟩)
      notStarted := hstarted hflush nofun }⟩
  | case13 hflush =>
    rintro ⟨⟩
    exact hfree .Exited hflush nofun rfl rfl _
  | _ => rintro ⟨⟩

variable {g : BatchGoroutine}

lemma processBatch_range {config : Config} {now : Nanos}
    {result : Except InferError (Prediction Rms)} {payload : Message Rms Nanos}
    (h : s.processBatch config g now result = some payload) : payload.range = g.batch.range := by
  cases result with
  | ok prediction =>
    cases h
    rfl
  | error err =>
    simp only [processBatch] at h
    split_ifs at h
    cases h
    rfl

lemma processBatch_eq_none {config : Config} {now : Nanos}
    {result : Except InferError (Prediction Rms)}
    (h : s.processBatch config g now result = none) : s.done = true := by
  cases result with
  | ok prediction => cases h
  | error err =>
    simp only [processBatch] at h
    split_ifs at h with hdone
    exact hdone

lemma Tracks.setPc (h : s.Tracks b) {k : ℕ} (hk : s.batches[k]? = some g)
    (howes : g.owes = some g.batch.range) {g' : BatchGoroutine} (hbatch : g'.batch = g.batch)
    {pc : BatchPc} (hpc : pc ≠ .Releasing)
    (hpayload : ∀ payload, pc = .Sending payload → payload.range = g.batch.range) :
    (s.setPc k g' pc).Tracks b := by
  obtain ⟨rfl, hbatches, htoken, hflush, hflight, -⟩ := h.holder.of_goroutine hk
  refine { h with holder := .goroutine { g' with pc := pc } htoken hflush ?_ ?_ ?_ }
  · show s.batches.set 0 _ = _
    rw [hbatches]
    rfl
  · rw [hflight, howes, BatchGoroutine.owes]
    cases pc with
    | Releasing => exact absurd rfl hpc
    | _ => rw [hbatch]
  · intro payload hsending
    rw [hbatch]
    exact hpayload payload hsending

lemma Tracks.finish (h : s.Tracks b) (hb : Batcher.system.Reachable b) {k : ℕ}
    (hk : s.batches[k]? = some g) (howes : g.owes = some g.batch.range)
    {outbox : List (Message Rms Nanos)}
    (houtbox : s.done = false → ∃ payload, outbox = s.outbox ++ [payload] ∧
      payload.range = g.batch.range) :
    ({ s with outbox := outbox }.setPc k g .Releasing).Inv := by
  obtain ⟨rfl, hbatches, htoken, hflush, hflight, -⟩ := h.holder.of_goroutine hk
  rw [howes] at hflight
  refine ⟨b.answer g.batch.range, hb.step (.answer hflight), ?_⟩
  refine
    { h with
      collects := h.collects.answer _
      drained := h.drained.trans (Batcher.batches_answer hflight).symm
      responses := ?_
      holder := .goroutine { g with pc := .Releasing } htoken hflush ?_ rfl (by simp) }
  · intro hlive
    obtain ⟨payload, rfl, hrange⟩ := houtbox hlive
    show (s.received ++ (s.outbox ++ [payload])).map Message.range = b.answered ++ [g.batch.range]
    rw [← List.append_assoc, List.map_append, h.responses hlive, ← hrange]
    rfl
  · show s.batches.set 0 _ = _
    rw [hbatches]
    rfl

lemma Inv.batchStep (h : s.Inv) {k : ℕ} (hk : s.batches[k]? = some g)
    (hstep : s.batchStep env k g e = some s') : s'.Inv := by
  obtain ⟨b, hb, htracks⟩ := h
  have howes (hpc : g.pc ≠ .Releasing) : g.owes = some g.batch.range := by
    rw [BatchGoroutine.owes]
    split
    · exact absurd ‹_› hpc
    · rfl
  revert hstep
  fun_cases Session.batchStep env s k g e with
  | case1 _ _ hpc | case3 _ _ hpc =>
    rintro ⟨⟩
    refine ⟨b, hb, htracks.setPc hk (howes ?_) ?_ ?_ ?_⟩
    exacts [by simp [hpc], rfl, by simp, by simp]
  | case5 _ _ _ hpc payload hsome =>
    rintro ⟨⟩
    refine ⟨b, hb, htracks.setPc hk (howes (by simp [hpc])) rfl (by simp) ?_⟩
    rintro _ ⟨⟩
    exact processBatch_range hsome
  | case6 _ _ _ hpc hnone =>
    rintro ⟨⟩
    refine htracks.finish hb hk (howes (by simp [hpc])) fun hlive => ?_
    cases (processBatch_eq_none hnone).symm.trans hlive
  | case8 _ payload hpc =>
    rintro ⟨⟩
    obtain ⟨-, -, -, -, -, hpayload⟩ := htracks.holder.of_goroutine hk
    exact htracks.finish hb hk (howes (by simp [hpc])) fun _ =>
      ⟨payload, rfl, hpayload payload hpc⟩
  | case11 _ payload hpc hdone =>
    rintro ⟨⟩
    refine htracks.finish hb hk (howes (by simp [hpc])) fun hlive => ?_
    cases hdone.symm.trans hlive
  | case14 _ hpc =>
    rintro ⟨⟩
    obtain ⟨rfl, hbatches, htoken, hflush, hflight, -⟩ := htracks.holder.of_goroutine hk
    have hnone : b.flight = none := by rw [hflight, BatchGoroutine.owes, hpc]
    rw [releaseInflight_of_zero htoken]
    exact ⟨b, hb, { htracks with
      holder := .channel rfl hflush (by rw [hbatches]; rfl) hnone }⟩
  | _ => rintro ⟨⟩

/-! ## Every run -/

theorem inv_inductive (env : Env) : (system env).Inductive Inv where
  init := by
    rintro s rfl
    exact ⟨.start, .start rfl, rfl, Collects.start, rfl, fun _ => rfl, .channel rfl rfl rfl rfl,
      fun _ => rfl⟩
  step := by
    intro s e s' hs hstep
    have hdone (s' : Session) (hs' : s' = { s with
        done := true, reading := s'.reading, writer := s'.writer }) : s'.Inv := by
      obtain ⟨b, hb, htracks⟩ := hs
      exact hs' ▸ ⟨b, hb, { htracks with responses := nofun }⟩
    replace hstep : s.step env e = some s' := hstep
    revert hstep
    fun_cases Session.step env s e with
    | case1 messageType payload receivedAt =>
      rintro ⟨⟩
      exact hs.handleMessage messageType _ receivedAt
    | case3 | case5 | case20 =>
      rintro ⟨⟩
      exact hdone _ rfl
    | case6 | case7 | case8 | case9 | case10 | case11 => exact hs.flushStep env _
    | case12 | case13 | case14 | case15 | case16 | case17 =>
      intro hstep
      obtain ⟨g, hk, hstep⟩ := Option.bind_eq_some_iff.mp hstep
      exact hs.batchStep hk hstep
    | case18 payload outbox houtbox =>
      rintro ⟨⟩
      obtain ⟨b, hb, htracks⟩ := hs
      refine ⟨b, hb, { htracks with responses := fun hlive => ?_ }⟩
      show ((s.received ++ [payload]) ++ outbox).map Message.range = b.answered
      rw [List.append_assoc, ← htracks.responses hlive, houtbox]
      rfl
    | case21 | case23 =>
      rintro ⟨⟩
      obtain ⟨b, hb, htracks⟩ := hs
      exact ⟨b, hb, { htracks with }⟩
    | _ => rintro ⟨⟩

def tokens (s : Session) : ℕ := s.token + s.flush.holds.toNat + s.batches.length

def inferCalls (s : Session) : List BatchGoroutine :=
  s.batches.filter fun g => g.pc matches .Inferring

theorem one_token (hs : (system env).Reachable s) :
    s.tokens = 1 ∧ s.inferCalls.length ≤ 1 ∧
      (s.done = false → s.received.map Message.range <+: s.drained ∧
        ∃ k, Tiles (s.received.map Message.range) k) := by
  obtain ⟨b, hb, htracks⟩ := (inv_inductive env).reachable hs
  have htokens : s.tokens = 1 := by
    unfold tokens
    cases htracks.holder with
    | channel htoken hflush hbatches => simp [htoken, hflush, hbatches]
    | acquired _ htoken hflush hbatches | empty htoken hflush hbatches
    | drained _ _ htoken hflush hbatches => simp [htoken, hflush, hbatches, FlushPc.holds]
    | goroutine _ htoken hflush hbatches => simp [htoken, hflush, hbatches]
  refine ⟨htokens, ?_, fun hlive => ?_⟩
  · have hle : s.inferCalls.length ≤ s.batches.length := List.length_filter_le _ _
    unfold tokens at htokens
    omega
  · have hbegin : s.received.map Message.range <+: b.batches := by
      refine List.IsPrefix.trans ?_ (List.prefix_append b.answered _)
      rw [← htracks.responses hlive, List.map_append]
      exact List.prefix_append _ _
    obtain ⟨k, -, hk⟩ := (Batcher.tiles hb).of_isPrefix hbegin
    exact ⟨htracks.drained ▸ hbegin, k, hk⟩

def defaultEnv : Env := ⟨⟨4, 75, 4, 1000, 0⟩, fun text => text = bytes startJson⟩

def upToAcquire : List Event :=
  [.Read .Text (bytes startJson) 0, .FlushStart 0 0, .Read .Binary (List.replicate 640 0) 20, .Timer 1000]

def oneBatch : List Event :=
  upToAcquire ++ [.DrainBuffer, .Go, .CallInfer 0 1000,
    .InferReturns 0 (.ok ⟨0, 0, 0, 320, "", 640⟩), .Respond 0 1100, .Send 0, .Receive]

theorem one_token_oneBatch :
    ∃ s, (system defaultEnv).Reachable s ∧ s.done = false ∧
      s.received.map Message.range = [⟨1, 1⟩] ∧ s.tokens = 1 ∧
      ∃ k, Tiles (s.received.map Message.range) k := by
  obtain ⟨s, hreach, hlive, hreceived⟩ : ∃ s, (system defaultEnv).Reachable s ∧
      s.done = false ∧ s.received.map Message.range = [⟨1, 1⟩] :=
    Reachable.exists_of_exec oneBatch (by decide +kernel)
  have hsafe := one_token hreach
  exact ⟨s, hreach, hlive, hreceived, hsafe.1, (hsafe.2.2 hlive).2⟩

theorem token_held_by_flush :
    ∃ s, (system defaultEnv).Reachable s ∧ s.done = false ∧ s.token = 0 ∧ s.batches = [] ∧
      ¬s.token + s.batches.length = 1 := by
  obtain ⟨s, hreach, hlive, htoken, hbatches⟩ : ∃ s, (system defaultEnv).Reachable s ∧
      s.done = false ∧ s.token = 0 ∧ s.batches.length = 0 :=
    Reachable.exists_of_exec upToAcquire (by decide +kernel)
  refine ⟨s, hreach, hlive, htoken, List.length_eq_zero_iff.mp hbatches, ?_⟩
  omega

end Session

end SttBench.GoNethttp
