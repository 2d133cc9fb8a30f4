import SttBench.Core.Binary64
import SttBench.Core.ReentrantLock
import SttBench.Core.TransitionSystem
import SttBench.Wire.Messages

/-!
# java-helidon-nima: the threads of one session

The receive callbacks, the writer and the flush thread; a step is one action of one of them.
-/

namespace SttBench.JavaHelidon

open Ascii Wire

abbrev Nanos := ℤ
abbrev JavaString := List UInt16

def units (s : String) : JavaString := s.toList.map fun c => UInt16.ofNat c.toNat

def maxStartChars : ℕ := 1024
def maxBacklogFrames : ℕ := 300

def reasonBacklog : String := "gateway overloaded: unflushed audio backlog exceeded"

/-! ## Configuration -/

structure Config where
  inferenceTimeoutMs : ℤ
  cpuPasses : ℤ
  modelDelayMs : ℤ
  flushIntervalMs : ℤ
  flushPhaseJitterMs : ℤ
  partialChannelDepth : ℤ
deriving DecidableEq, Repr

def zeros : List ℕ :=
  [0x30, 0x660, 0x6f0, 0x7c0, 0x966, 0x9e6, 0xa66, 0xae6, 0xb66, 0xbe6, 0xc66, 0xce6, 0xd66, 0xde6,
    0xe50, 0xed0, 0xf20, 0x1040, 0x1090, 0x17e0, 0x1810, 0x1946, 0x19d0, 0x1a80, 0x1a90, 0x1b50,
    0x1bb0, 0x1c40, 0x1c50, 0xa620, 0xa8d0, 0xa900, 0xa9d0, 0xa9f0, 0xaa50, 0xabf0, 0xff10]

def digit (c : Char) : Option ℕ :=
  (zeros.find? fun z => z ≤ c.toNat ∧ c.toNat < z + 10).map (c.toNat - ·)

def parseLong (raw : List Char) : Option ℤ :=
  let (sign, digits) : ℤ × List Char :=
    match raw with
    | '-' :: digits => (-1, digits)
    | '+' :: digits => (1, digits)
    | digits => (1, digits)
  if digits = [] then none
  else do
    let value := sign * (← digits.mapM digit).foldl (fun (n : ℕ) d => 10 * n + d) 0
    if -2 ^ 63 ≤ value ∧ value < 2 ^ 63 then some value else none

def envLong (getenv : String → Option String) (name : String) (fallback : ℤ) : ℤ :=
  match getenv name with
  | none => fallback
  | some raw => if raw.isEmpty then fallback else (parseLong raw.toList).getD fallback

def toInt (x : ℤ) : ℤ := x.bmod (2 ^ 32)

def Config.load (getenv : String → Option String) : Config where
  inferenceTimeoutMs := envLong getenv "INFERENCE_TIMEOUT_MS" 2000
  cpuPasses := toInt (max 1 (envLong getenv "CPU_PASSES" 4))
  modelDelayMs := max 0 (envLong getenv "MODEL_DELAY_MS" 75)
  flushIntervalMs := max 1 (envLong getenv "FLUSH_INTERVAL_MS" 1000)
  flushPhaseJitterMs := max 0 (envLong getenv "FLUSH_PHASE_JITTER_MS" 0)
  partialChannelDepth := toInt (max 1 (envLong getenv "PARTIAL_CHANNEL_DEPTH" 4))

def toNanos (ms : ℤ) : Option Nanos := if ms * 1000000 < 2 ^ 63 then some (ms * 1000000) else none

/-! ## Messages -/

structure InferResponse where
  rms : Double
  zeroCrossings : ℤ
  checksum : ℤ
  samples : ℤ
  transcript : Option String
  audioBytes : ℤ

structure PartialMessage where
  oldestFrameSeq : ℕ
  newestFrameSeq : ℕ
  frames : ℕ
  infer : InferResponse
  cpuPasses : ℤ
  modelDelayMs : ℤ
  flushLateness : Nanos
  inflightModelJobs : ℕ

inductive OutboundMessage
  | Partial (m : PartialMessage)
  | Error (m : ErrorMessage Nanos)

inductive Thrown
  | InferenceException (stage : ErrorStage) (kind : ErrorKind) (message : Option String)
      (status : Option ℕ) (retryable : Bool)
  | RuntimeException (simpleName : String) (message : Option String)

def Thrown.failure : Thrown → Failure
  | .InferenceException stage kind message status retryable =>
    ⟨stage, kind, message.getD "", status, retryable⟩
  | .RuntimeException simpleName message =>
    ⟨.InferenceResponseParse, .ParseError, simpleName ++ ": " ++ message.getD "null", none, false⟩

structure FlushContext where
  batch : List (Frame Nanos)
  oldest : Frame Nanos
  newest : Frame Nanos
  bodyBytes : ℕ
  flushLateness : Nanos
  startedAt : Nanos

/-! ## Threads -/

inductive Thread
  | Receive
  | Writer
  | Flush
deriving DecidableEq, Repr

inductive SocketCall
  | Send (payload : OutboundMessage)
  | Pong (buffer : Bytes)
  | Close (code : ℕ) (reason : String)

inductive LockForClose
  | First
  | Interrupt
  | Second
deriving DecidableEq, Repr

inductive Shutdown
  | Cas
  | Lock (stage : LockForClose)
  | Interrupt
  | Unlock
deriving DecidableEq, Repr

inductive ReceivePc
  /-- Between two callbacks. -/
  | Idle
  /-- The writer has been started, and the flush thread has not. -/
  | StartFlush
  | Append (payload : Bytes)
  | CloseWith (code : ℕ) (reason : String)
  | CloseLock (stage : LockForClose) (code : ℕ) (reason : String)
  | CloseHeld (code : ℕ) (reason : String)
  | InClose (code : ℕ) (reason : String)
  | CloseInterrupt
  | CloseUnlock
  | Ping (buffer : Bytes)
  | PingHeld (buffer : Bytes)
  | PingChecked (buffer : Bytes)
  | InPong (buffer : Bytes)
  | PingUnlock
  | Shutdown (pc : Shutdown)

inductive WriterPc
  | NotStarted
  /-- At the `while` of `writeLoop`. -/
  | Loop
  | Take
  | Lock (payload : OutboundMessage)
  | Held (payload : OutboundMessage)
  | Checked (payload : OutboundMessage)
  | InSend (payload : OutboundMessage)
  /-- In the `shutdown` after a send that failed. -/
  | Failed (pc : Shutdown)
  /-- Before `unlock`; `sent` is what `send` returns. -/
  | Unlock (sent : Bool)
  | Exited

inductive FlushPc
  | NotStarted
  | Starting
  /-- At the `while` of `flushLoop`. -/
  | Loop
  | Parked
  | TryFlush (flushLateness : Nanos)
  | Drain (flushLateness : Nanos)
  | Process (batch : List (Frame Nanos)) (flushLateness : Nanos)
  | Inferring (ctx : FlushContext)
  | Enqueue (message : OutboundMessage)
  /-- Before `inflight.set(false)`. -/
  | Release
  | Exited

structure Session where
  closed : Bool
  sendLock : ReentrantLock Thread
  inflight : Bool
  started : Bool
  pendingText : Option JavaString
  pendingFrame : Option Bytes
  seq : ℕ
  buffer : List (Frame Nanos)
  outbox : List OutboundMessage
  expected : Nanos
  receive : ReceivePc
  writer : WriterPc
  flush : FlushPc
  writerInterrupted : Bool
  flushInterrupted : Bool
  calls : List (CallEntry SocketCall)

structure Env where
  config : Config
  readStart : JavaString → Bool
  marshals : OutboundMessage → Bool

inductive Callback
  | Text (text : JavaString) (last : Bool)
  | Binary (frame : Bytes) (last : Bool)
  | Ping (buffer : Bytes)
  | Close
  | Error

inductive Event
  | Callback (callback : Callback)
  | Receive (ok : Bool) (now : Nanos)
  | Writer (ok : Bool)
  | FlushStart (now offset : Nanos)
  | Flush (now : Nanos)
  | InferReturns (result : Except Thrown InferResponse) (now : Nanos)

namespace Session

def start : Session where
  closed := false
  sendLock := .free
  inflight := false
  started := false
  pendingText := none
  pendingFrame := none
  seq := 0
  buffer := []
  outbox := []
  expected := 0
  receive := .Idle
  writer := .NotStarted
  flush := .NotStarted
  writerInterrupted := false
  flushInterrupted := false
  calls := []

/-! ## The callbacks -/

def closeWith (s : Session) (code : ℕ) (reason : String) : Session :=
  { s with receive := .CloseWith code reason }

def startWith (env : Env) (s : Session) (message : JavaString) : Session :=
  if env.readStart message then { s with started := true, writer := .Loop, receive := .StartFlush }
  else s.closeWith closeProtocolError reasonNeedStart

def onText (env : Env) (s : Session) (text : JavaString) (last : Bool) : Session :=
  if s.closed then s
  else if s.started then s.closeWith closeProtocolError reasonTextAfterStart
  else if s.pendingText.isSome || !last then
    let pending := s.pendingText.getD [] ++ text
    if pending.length > maxStartChars then
      { s with pendingText := none }.closeWith closeProtocolError reasonNeedStart
    else if !last then { s with pendingText := some pending }
    else { s with pendingText := none }.startWith env pending
  else s.startWith env text

def onBinary (s : Session) (frame : Bytes) (last : Bool) : Session :=
  if s.closed then s
  else if !s.started then s.closeWith closeProtocolError reasonNeedStart
  else if s.pendingFrame.isNone && last then
    if frame.length ≠ frameBytes then s.closeWith closeUnsupportedData reasonBadFrameSize
    else { s with receive := .Append frame }
  else
    let pending := s.pendingFrame.getD []
    if frame.length > frameBytes - pending.length then
      { s with pendingFrame := none }.closeWith closeUnsupportedData reasonBadFrameSize
    else if !last then { s with pendingFrame := some (pending ++ frame) }
    else if (pending ++ frame).length ≠ frameBytes then
      { s with pendingFrame := none }.closeWith closeUnsupportedData reasonBadFrameSize
    else { s with pendingFrame := none, receive := .Append (pending ++ frame) }

def callback (env : Env) (s : Session) : Callback → Session
  | .Text text last => s.onText env text last
  | .Binary frame last => s.onBinary frame last
  | .Ping buffer => { s with receive := .Ping buffer }
  | .Close | .Error => { s with receive := .Shutdown .Cas }

def append (s : Session) (payload : Bytes) (receivedAt : Nanos) : Session :=
  if s.buffer.length < maxBacklogFrames then
    { s with
      seq := s.seq + 1
      buffer := s.buffer ++ [⟨s.seq + 1, payload, receivedAt⟩]
      receive := .Idle }
  else s.closeWith closeTryAgainLater reasonBacklog

/-! ## Locking for a close -/

def interruptWorkers (s : Session) : Session :=
  { s with
    flushInterrupted := s.flushInterrupted || !s.flush matches .NotStarted
    writerInterrupted := s.writerInterrupted || !s.writer matches .NotStarted }

def tryLockSend (s : Session) (t : Thread) (ok : Bool) : Option (Bool × Session) :=
  if ok then (s.sendLock.acquire t).map fun lock => (true, { s with sendLock := lock })
  else some (false, s)

inductive Locked
  | Acquired
  | Pending (stage : LockForClose)
  | Wedged

def lockForClose (s : Session) (t : Thread) (stage : LockForClose) (ok : Bool) :
    Option (Locked × Session) :=
  match stage with
  | .First => do
      let (locked, s) ← s.tryLockSend t ok
      return (if locked then .Acquired else .Pending .Interrupt, s)
  | .Interrupt => some (.Pending .Second, s.interruptWorkers)
  | .Second => do
      let (locked, s) ← s.tryLockSend t ok
      return (if locked then .Acquired else .Wedged, s)

def unlock (s : Session) (t : Thread) : Option Session :=
  (s.sendLock.release t).map fun lock => { s with sendLock := lock }

def shutdown (s : Session) (t : Thread) (pc : Shutdown) (ok : Bool) :
    Option (Option Shutdown × Session) :=
  match pc with
  | .Cas =>
    if s.closed then some (none, s) else some (some (.Lock .First), { s with closed := true })
  | .Lock stage => do
      match ← s.lockForClose t stage ok with
      | (.Acquired, s) => return (some .Interrupt, s)
      | (.Pending stage, s) => return (some (.Lock stage), s)
      | (.Wedged, s) => return (none, s)
  | .Interrupt => some (some .Unlock, s.interruptWorkers)
  | .Unlock => do
      let s ← s.unlock t
      return (none, s)

/-! ## The receive thread -/

def receiveStep (s : Session) (ok : Bool) (now : Nanos) : Option Session :=
  match s.receive with
  | .Idle => none
  | .StartFlush => some { s with receive := .Idle, flush := .Starting }
  | .Append payload => some (s.append payload now)
  | .CloseWith code reason =>
    if s.closed then some { s with receive := .Idle }
    else some { s with closed := true, receive := .CloseLock .First code reason }
  | .CloseLock stage code reason => do
      match ← s.lockForClose .Receive stage ok with
      | (.Acquired, s) => return { s with receive := .CloseHeld code reason }
      | (.Pending stage, s) => return { s with receive := .CloseLock stage code reason }
      | (.Wedged, s) => return { s with receive := .Idle }
  | .CloseHeld code reason =>
    some { s with
      calls := s.calls ++ [.enter (.Close code reason)]
      receive := .InClose code reason }
  | .InClose code reason =>
    some { s with
      calls := s.calls ++ [.leave (.Close code reason)]
      receive := if ok then .CloseInterrupt else .CloseUnlock }
  | .CloseInterrupt => some { s.interruptWorkers with receive := .CloseUnlock }
  | .CloseUnlock => do
      let s ← s.unlock .Receive
      return { s with receive := .Idle }
  | .Ping buffer => do
      let (locked, s) ← s.tryLockSend .Receive ok
      return { s with receive := if locked then .PingHeld buffer else .Idle }
  | .PingHeld buffer =>
    some { s with receive := if s.closed then .PingUnlock else .PingChecked buffer }
  | .PingChecked buffer =>
    some { s with calls := s.calls ++ [.enter (.Pong buffer)], receive := .InPong buffer }
  | .InPong buffer =>
    some { s with calls := s.calls ++ [.leave (.Pong buffer)], receive := .PingUnlock }
  | .PingUnlock => do
      let s ← s.unlock .Receive
      return { s with receive := .Idle }
  | .Shutdown pc => do
      match ← s.shutdown .Receive pc ok with
      | (some pc, s) => return { s with receive := .Shutdown pc }
      | (none, s) => return { s with receive := .Idle }

/-! ## The writer -/

def writerStep (s : Session) (ok : Bool) : Option Session :=
  match s.writer with
  | .NotStarted | .Exited => none
  | .Loop => some { s with writer := if s.closed then .Exited else .Take }
  | .Take =>
    if s.writerInterrupted then some { s with writer := .Exited }
    else
      match s.outbox with
      | [] => none
      | payload :: outbox => some { s with outbox := outbox, writer := .Lock payload }
  | .Lock payload => do
      let lock ← s.sendLock.acquire .Writer
      return { s with sendLock := lock, writer := .Held payload }
  | .Held payload => some { s with writer := if s.closed then .Unlock false else .Checked payload }
  | .Checked payload =>
    some { s with calls := s.calls ++ [.enter (.Send payload)], writer := .InSend payload }
  | .InSend payload =>
    some { s with
      calls := s.calls ++ [.leave (.Send payload)]
      writer := if ok then .Unlock true else .Failed .Cas }
  | .Failed pc => do
      match ← s.shutdown .Writer pc ok with
      | (some pc, s) => return { s with writer := .Failed pc }
      | (none, s) => return { s with writer := .Unlock false }
  | .Unlock sent => do
      let s ← s.unlock .Writer
      return { s with writer := if sent then .Loop else .Exited }

/-! ## The flush thread -/

def elapsed (now earlier : Nanos) : Nanos := max 0 (now - earlier)

def partialMessage (config : Config) (ctx : FlushContext) (infer : InferResponse) :
    OutboundMessage :=
  .Partial
    { oldestFrameSeq := ctx.oldest.seq
      newestFrameSeq := ctx.newest.seq
      frames := ctx.batch.length
      infer := infer
      cpuPasses := config.cpuPasses
      modelDelayMs := config.modelDelayMs
      flushLateness := ctx.flushLateness
      inflightModelJobs := 0 }

def buildError (s : Session) (ctx : FlushContext) (err : Failure) (now : Nanos) :
    OutboundMessage :=
  .Error
    { stage := err.stage
      kind := err.kind
      message := err.message
      oldestFrameSeq := ctx.oldest.seq
      newestFrameSeq := ctx.newest.seq
      frames := ctx.batch.length
      audioBytes := ctx.bodyBytes
      oldestAge := elapsed now ctx.oldest.receivedAt
      newestAge := elapsed now ctx.newest.receivedAt
      flushLateness := ctx.flushLateness
      inferenceElapsed := some (elapsed now ctx.startedAt)
      inflightGatewayBatches := 1
      gatewayBufferFrames := s.buffer.length
      inferenceStatus := err.status
      retryable := err.retryable }

def flushStart (env : Env) (s : Session) (now offset : Nanos) : Session :=
  match toNanos env.config.flushIntervalMs, toNanos env.config.flushPhaseJitterMs with
  | some interval, some jitterRange =>
    { s with expected := now + interval + max 0 (min offset jitterRange), flush := .Loop }
  | _, _ => { s with flush := .Exited }

def flushStep (env : Env) (s : Session) (now : Nanos) : Option Session :=
  match s.flush with
  | .Loop => some { s with flush := if s.closed then .Exited else .Parked }
  | .Parked =>
    if s.closed then some { s with flush := .Exited }
    else
      some { s with
        expected := s.expected + env.config.flushIntervalMs * 1000000
        flush := .TryFlush (elapsed now s.expected) }
  | .TryFlush flushLateness =>
    if s.inflight then some { s with flush := .Loop }
    else some { s with inflight := true, flush := .Drain flushLateness }
  | .Drain flushLateness =>
    match s.buffer with
    | [] => some { s with flush := .Release }
    | _ :: _ => some { s with buffer := [], flush := .Process s.buffer flushLateness }
  | .Process batch flushLateness =>
    match batch.head?, batch.getLast? with
    | some oldest, some newest =>
      some { s with
        flush := .Inferring ⟨batch, oldest, newest, batch.length * frameBytes, flushLateness, now⟩ }
    | _, _ => none
  | .Enqueue message =>
    if !env.marshals message || s.flushInterrupted then some { s with flush := .Release }
    else if s.outbox.length < env.config.partialChannelDepth then
      some { s with outbox := s.outbox ++ [message], flush := .Release }
    else none
  | .Release => some { s with inflight := false, flush := .Loop }
  | _ => none

def inferReturns (env : Env) (s : Session) (ctx : FlushContext)
    (result : Except Thrown InferResponse) (now : Nanos) : Session :=
  match result with
  | .ok infer => { s with flush := .Enqueue (partialMessage env.config ctx infer) }
  | .error thrown => { s with flush := .Enqueue (s.buildError ctx thrown.failure now) }

/-! ## The session -/

def step (env : Env) (s : Session) : Event → Option Session
  | .Callback callback =>
    match s.receive with
    | .Idle => some (s.callback env callback)
    | _ => none
  | .Receive ok now => s.receiveStep ok now
  | .Writer ok => s.writerStep ok
  | .FlushStart now offset =>
    match s.flush with
    | .Starting => some (s.flushStart env now offset)
    | _ => none
  | .Flush now => s.flushStep env now
  | .InferReturns result now =>
    match s.flush with
    | .Inferring ctx => some (s.inferReturns env ctx result now)
    | _ => none

def system (env : Env) : TransitionSystem Session Event where
  init s := 1 ≤ env.config.partialChannelDepth ∧ s = start
  step s e s' := s.step env e = some s'

end Session

end SttBench.JavaHelidon
