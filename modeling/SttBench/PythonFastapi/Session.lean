import SttBench.Core.Asyncio
import SttBench.Core.TransitionSystem
import SttBench.Wire.Messages

/-!
# python-fastapi: the session and its teardown

Four tasks of one event loop share the fields of `SttSession`.
-/

namespace SttBench.PythonFastapi

open Ascii Asyncio TransitionSystem Wire

abbrev Seconds := ℚ

def partialChannelDepth : ℕ := 4

def reasonTextAfterStart : String := "text after start"

structure Settings where
  cpuPasses : ℕ
  modelDelayMs : ℕ
  flushIntervalMs : ℕ
  flushPhaseJitterMs : ℕ

structure BatchContext where
  batch : List (Frame Seconds)
  body : Bytes
  flushLateness : Seconds
  startedAt : Seconds
  nonempty : batch ≠ []

namespace BatchContext

def oldest (ctx : BatchContext) : Frame Seconds := ctx.batch.head ctx.nonempty

def newest (ctx : BatchContext) : Frame Seconds := ctx.batch.getLast ctx.nonempty

end BatchContext

structure Prediction (ρ : Type) where
  rms : ρ
  zeroCrossings : ℤ
  checksum : ℤ
  samples : ℤ
  transcript : String
  audioBytes : ℤ

structure PartialMessage (ρ : Type) extends Prediction ρ where
  oldestFrameSeq : ℕ
  newestFrameSeq : ℕ
  frames : ℕ
  cpuPasses : ℕ
  modelDelayMs : ℕ
  flushLateness : Seconds
  inflightModelJobs : ℕ

inductive Text (ρ : Type)
  | Partial (m : PartialMessage ρ)
  | Error (m : ErrorMessage Seconds)

/-! ## Suspension points -/

inductive RunPoint
  | Receiving
  | ClosingSocket (code : ℕ) (reason : String)
  | WaitingWriter
  | AwaitingInflight
  | Joining

inductive FlushPoint
  | Starting
  | Sleeping (nextDue : Seconds)

inductive WriterPoint (ρ : Type)
  | Starting
  | Getting
  | Sending (text : Text ρ)

inductive BatchPoint (ρ : Type)
  | Starting (ctx : BatchContext)
  | Inferring (ctx : BatchContext)
  | Putting (text : Text ρ)

def WriterPoint.isSending {ρ : Type} : WriterPoint ρ → Bool
  | .Sending _ => true
  | _ => false

def WriterPoint.isGetting {ρ : Type} : WriterPoint ρ → Bool
  | .Getting => true
  | _ => false

def BatchPoint.isInferring {ρ : Type} : BatchPoint ρ → Bool
  | .Inferring _ => true
  | _ => false

def BatchPoint.isPutting {ρ : Type} : BatchPoint ρ → Bool
  | .Putting _ => true
  | _ => false

def FlushPoint.isSleeping : FlushPoint → Bool
  | .Sleeping _ => true
  | _ => false

def RunPoint.onSocket : RunPoint → Bool
  | .Receiving | .ClosingSocket .. => true
  | _ => false

inductive Entry (ρ : Type)
  /-- `run` has entered its `finally` block. -/
  | Cleanup
  /-- `run` has called `cancel` on the writer task, which was as given. -/
  | CancelWriter (writer : AsyncTask (WriterPoint ρ))
  /-- The flusher has created a batch task. -/
  | StartInference (ctx : BatchContext)
  /-- The writer has called `send_text`. -/
  | BeginSend (text : Text ρ)

structure Session (ρ : Type) where
  buffer : List (Frame Seconds)
  outbox : Queue (Text ρ) partialChannelDepth
  inflight : Option (AsyncTask (BatchPoint ρ))
  seq : ℕ
  sending : Bool
  closing : Bool
  run : AsyncTask RunPoint
  /-- The body of the task group has raised. -/
  raised : Bool
  flusher : AsyncTask FlushPoint
  writer : AsyncTask (WriterPoint ρ)
  log : List (Entry ρ)

inductive Received
  | Bytes (payload : Bytes) (receivedAt : Seconds)
  | Text
  | Disconnect
  | Raised

inductive Inferred (ρ : Type)
  | Answered (pred : Prediction ρ)
  | Failed (err : Failure)
  | Cancelled
  | Raised

inductive Event (ρ : Type)
  | Run (message : Received)
  | Flush (jitter now startedAt : Seconds)
  | Write (raised : Bool)
  | Batch (result : Inferred ρ) (now later : Seconds)
  /-- The transport has answered `run`. -/
  | SocketReady
  /-- The flusher's sleep is over. -/
  | TimerFired
  /-- The transport has finished the send. -/
  | SendReady
  /-- The inference call can go on. -/
  | InferenceReady
  /-- The five seconds for the batch task are over. -/
  | TimeoutFired

namespace Session

variable {ρ : Type}

def start : Session ρ where
  buffer := []
  outbox := .empty
  inflight := none
  seq := 0
  sending := false
  closing := false
  run := .park .Receiving
  raised := false
  flusher := .create .Starting
  writer := .create .Starting
  log := []

/-! ## The texts -/

def buildPartialText (settings : Settings) (ctx : BatchContext) (pred : Prediction ρ) : Text ρ :=
  .Partial
    { pred with
      oldestFrameSeq := ctx.oldest.seq
      newestFrameSeq := ctx.newest.seq
      frames := ctx.batch.length
      cpuPasses := settings.cpuPasses
      modelDelayMs := settings.modelDelayMs
      flushLateness := ctx.flushLateness
      inflightModelJobs := 0 }

def buildErrorText (s : Session ρ) (ctx : BatchContext) (err : Failure) (now later : Seconds) :
    Text ρ :=
  .Error
    { stage := err.stage
      kind := err.kind
      message := err.message
      oldestFrameSeq := ctx.oldest.seq
      newestFrameSeq := ctx.newest.seq
      frames := ctx.batch.length
      audioBytes := ctx.body.length
      oldestAge := now - ctx.oldest.receivedAt
      newestAge := now - ctx.newest.receivedAt
      flushLateness := ctx.flushLateness
      inferenceElapsed := some (later - ctx.startedAt)
      inflightGatewayBatches := 1
      gatewayBufferFrames := s.buffer.length
      inferenceStatus := err.status
      retryable := err.retryable }

/-! ## The flusher -/

def busy (s : Session ρ) : Bool :=
  match s.inflight with
  | some task => !task.done
  | none => false

def flushInterval (settings : Settings) : Seconds := settings.flushIntervalMs / 1000

def flush (settings : Settings) (s : Session ρ) (nextDue now startedAt : Seconds) : Session ρ :=
  let s := { s with flusher := .park (.Sleeping (nextDue + flushInterval settings)) }
  if h : s.busy = true ∨ s.buffer = [] then s
  else
    let ctx : BatchContext :=
      { batch := s.buffer
        body := s.buffer.flatMap Frame.payload
        flushLateness := max 0 (now - nextDue)
        startedAt
        nonempty := (not_or.mp h).2 }
    { s with
      buffer := []
      inflight := some (.create (.Starting ctx))
      log := s.log ++ [.StartInference ctx] }

def flushLoop (settings : Settings) (s : Session ρ) (jitter now startedAt : Seconds) :
    Option (Session ρ) :=
  match s.flusher.resume with
  | none => none
  | some (_, true) => some { s with flusher := .Done .Cancelled }
  | some (.Starting, false) =>
    some { s with flusher := .park (.Sleeping (now + flushInterval settings + jitter)) }
  | some (.Sleeping nextDue, false) => some (s.flush settings nextDue now startedAt)

/-! ## The writer -/

def takeNext (s : Session ρ) : Session ρ :=
  match s.outbox.get with
  | none => { s with writer := .park .Getting }
  | some (text, outbox) =>
    { s with
      outbox
      inflight := s.inflight.map (AsyncTask.wakeAt BatchPoint.isPutting)
      sending := true
      writer := .park (.Sending text)
      log := s.log ++ [.BeginSend text] }

def nextText (s : Session ρ) : Session ρ :=
  if s.closing then { s with writer := .Done .Returned } else s.takeNext

def writerLoop (s : Session ρ) (raised : Bool) : Option (Session ρ) :=
  match s.writer.resume with
  | none => none
  | some (.Starting, true) | some (.Getting, true) => some { s with writer := .Done .Cancelled }
  | some (.Sending _, true) => some { s with sending := false, writer := .Done .Cancelled }
  | some (.Starting, false) => some s.nextText
  | some (.Getting, false) => some s.takeNext
  | some (.Sending _, false) =>
    if raised then
      some { s with closing := true, sending := false, writer := .Done .Returned }
    else some { s with sending := false }.nextText

/-! ## The batch task -/

def put (s : Session ρ) (text : Text ρ) : Session ρ :=
  match s.outbox.put text with
  | none => { s with inflight := some (.park (.Putting text)) }
  | some outbox =>
    { s with
      outbox
      writer := s.writer.wakeAt WriterPoint.isGetting
      inflight := some (.Done .Returned) }

def processBatch (settings : Settings) (s : Session ρ) (result : Inferred ρ)
    (now later : Seconds) : Option (Session ρ) :=
  match s.inflight.bind AsyncTask.resume with
  | none => none
  | some (.Starting ctx, false) => some { s with inflight := some (.park (.Inferring ctx)) }
  | some (.Inferring ctx, _) =>
    -- The client may turn a cancellation into an error of its own, so that any end is possible.
    match result with
    | .Answered pred => some (s.put (buildPartialText settings ctx pred))
    | .Failed err => some (s.put (s.buildErrorText ctx err now later))
    | .Cancelled => some { s with inflight := some (.Done .Cancelled) }
    | .Raised => some { s with inflight := some (.Done .Raised) }
  | some (.Putting text, false) => some (s.put text)
  | some (.Starting _, true) | some (.Putting _, true) =>
    some { s with inflight := some (.Done .Cancelled) }

/-! ## The receive loop and the cleanup -/

def cancelWriter (s : Session ρ) : Session ρ :=
  { s with writer := s.writer.cancel, log := s.log ++ [.CancelWriter s.writer] }

def join (s : Session ρ) : Session ρ :=
  let s := { s with run := .park .Joining }
  if s.raised then { s.cancelWriter with flusher := s.flusher.cancel } else s

def cancelTasks (s : Session ρ) : Session ρ :=
  let s := s.cancelWriter
  match s.inflight with
  | some (.Suspended point ready cancelled) =>
    { s with
      inflight := some (AsyncTask.cancel (.Suspended point ready cancelled))
      run := .park .AwaitingInflight }
  | _ => { s with inflight := none }.join

def cleanup (s : Session ρ) (raised : Bool) : Session ρ :=
  let s : Session ρ := { s with
    closing := true
    raised
    flusher := s.flusher.cancel
    log := s.log ++ [.Cleanup] }
  if s.sending then { s with run := .park .WaitingWriter } else s.cancelTasks

def receive (s : Session ρ) : Received → Session ρ
  | .Raised => s.cleanup true
  | .Disconnect => s.cleanup false
  | .Text => { s with run := .park (.ClosingSocket closeProtocolError reasonTextAfterStart) }
  | .Bytes payload receivedAt =>
    if payload.length ≠ frameBytes then
      { s with run := .park (.ClosingSocket closeUnsupportedData reasonBadFrameSize) }
    else
      let seq := s.seq + 1
      let s : Session ρ := { s with seq, buffer := s.buffer ++ [⟨seq, payload, receivedAt⟩] }
      if s.closing then s.cleanup false else { s with run := .park .Receiving }

def afterInflight (s : Session ρ) (timedOut : Bool) : Session ρ :=
  match s.inflight with
  | some (.Done .Raised) => if timedOut then { s with inflight := none }.join
      else { s with raised := true }.join
  | _ => { s with inflight := none }.join

def runLoop (s : Session ρ) (message : Received) : Option (Session ρ) :=
  match s.run.resume with
  | some (.Receiving, false) => some (s.receive message)
  | some (.ClosingSocket .., false) =>
    match message with
    | .Raised => some (s.cleanup true)
    | _ => some (s.cleanup false)
  | some (.WaitingWriter, false) => some s.cancelTasks
  | some (.AwaitingInflight, timedOut) => some (s.afterInflight timedOut)
  | some (.Joining, false) => some { s with run := .Done (if s.raised then .Raised else .Returned) }
  | _ => none

/-! ## The transition system -/

def settled (s : Session ρ) : RunPoint → Bool
  | .WaitingWriter => s.writer.done
  | .AwaitingInflight => !s.busy
  | .Joining => s.flusher.done && s.writer.done
  | _ => false

def callbacks (s : Session ρ) : Session ρ := { s with run := s.run.wakeAt s.settled }

def timeout (s : Session ρ) : Option (Session ρ) :=
  match s.run with
  | .Suspended .AwaitingInflight .. =>
    if s.busy then some { s with inflight := s.inflight.map AsyncTask.cancel }
    else some { s with run := s.run.cancel }
  | _ => none

def handle (settings : Settings) (s : Session ρ) : Event ρ → Option (Session ρ)
  | .Run message => s.runLoop message
  | .Flush jitter now startedAt => s.flushLoop settings jitter now startedAt
  | .Write raised => s.writerLoop raised
  | .Batch result now later => s.processBatch settings result now later
  | .SocketReady => some { s with run := s.run.wakeAt RunPoint.onSocket }
  | .TimerFired => some { s with flusher := s.flusher.wakeAt FlushPoint.isSleeping }
  | .SendReady => some { s with writer := s.writer.wakeAt WriterPoint.isSending }
  | .InferenceReady =>
    some { s with inflight := s.inflight.map (AsyncTask.wakeAt BatchPoint.isInferring) }
  | .TimeoutFired => s.timeout

def step (settings : Settings) (s : Session ρ) (e : Event ρ) : Option (Session ρ) :=
  (s.handle settings e).map callbacks

def system (ρ : Type) (settings : Settings) : TransitionSystem (Session ρ) (Event ρ) :=
  .ofFun start (step settings)

end Session

/-! ## The invariant -/

def Entry.startsWork {ρ : Type} : Entry ρ → Bool
  | .StartInference _ | .BeginSend _ => true
  | .Cleanup | .CancelWriter _ => false

def RunPoint.isWaitingWriter : RunPoint → Bool
  | .WaitingWriter => true
  | _ => false

def InSendText {ρ : Type} (writer : AsyncTask (WriterPoint ρ)) : Bool :=
  writer.suspendedAt WriterPoint.isSending

structure Orderly {ρ : Type} (log : List (Entry ρ)) : Prop where
  cancels : ∀ writer, .CancelWriter writer ∈ log → InSendText writer = false
  order : log.Pairwise fun e later => e = .Cleanup → later.startsWork = false

lemma Orderly.append {ρ : Type} {log : List (Entry ρ)} {e : Entry ρ} (h : Orderly log)
    (hcancel : ∀ writer, e = .CancelWriter writer → InSendText writer = false)
    (hwork : .Cleanup ∈ log → e.startsWork = false) : Orderly (log ++ [e]) where
  cancels := by
    intro writer hmem
    rcases List.mem_append.mp hmem with hmem | hmem
    · exact h.cancels writer hmem
    · exact hcancel writer (List.mem_singleton.mp hmem).symm
  order := by
    refine List.pairwise_append.mpr ⟨h.order, List.pairwise_singleton _ _, ?_⟩
    intro a ha b hb heq
    rw [List.mem_singleton.mp hb]
    exact hwork (heq ▸ ha)

namespace Session

variable {ρ : Type} {settings : Settings} {s s' : Session ρ}

def Serving (s : Session ρ) : Prop := s.run.suspendedAt RunPoint.onSocket = true

structure Finishing (s : Session ρ) : Prop where
  closing : s.closing = true
  flusher : s.flusher.Stopping
  writer : s.sending = true ∨ s.writer.Stopping

structure Inv (s : Session ρ) : Prop where
  log : Orderly s.log
  sending : s.sending = InSendText s.writer
  serving : s.Serving → .Cleanup ∉ s.log
  finishing : ¬ s.Serving → s.Finishing
  sent : ¬ s.Serving → s.run.suspendedAt RunPoint.isWaitingWriter = false → s.sending = false
  waited : ∀ cancelled, s.run = .Suspended .WaitingWriter true cancelled → s.writer.done = true

lemma Serving.not_waiting {ready cancelled : Bool} (hserving : s.Serving) :
    s.run ≠ .Suspended .WaitingWriter ready cancelled := by
  intro hrun
  rw [Serving, hrun] at hserving
  cases hserving

lemma Serving.inv (hserving : s.Serving) (hlog : Orderly s.log)
    (hsending : s.sending = InSendText s.writer) (hclean : .Cleanup ∉ s.log) : Inv s where
  log := hlog
  sending := hsending
  serving _ := hclean
  finishing h := absurd hserving h
  sent h := absurd hserving h
  waited _ h := absurd h hserving.not_waiting

lemma inv_start : Inv (start : Session ρ) :=
  Serving.inv rfl ⟨by simp [start], by simp [start]⟩ rfl (by simp [start])

structure Aside (s s' : Session ρ) : Prop where
  sending : s'.sending = s.sending
  closing : s'.closing = s.closing
  log : s'.log = s.log
  run : ∀ p, s'.run.suspendedAt p = s.run.suspendedAt p
  waited : ∀ cancelled, s'.run = .Suspended .WaitingWriter true cancelled →
    s.run = .Suspended .WaitingWriter true cancelled ∨ s.writer.done = true
  flusher : s.flusher.Stopping → s'.flusher.Stopping
  inSendText : InSendText s'.writer = InSendText s.writer
  writer : s.writer.Stopping → s'.writer.Stopping
  done : s.writer.done = true → s'.writer.done = true

lemma Inv.aside (hs : Inv s) (h : Aside s s') : Inv s' := by
  have hserving : s'.Serving ↔ s.Serving := by rw [Serving, Serving, h.run]
  constructor
  · rw [h.log]
    exact hs.log
  · rw [h.sending, h.inSendText]
    exact hs.sending
  · rw [hserving, h.log]
    exact hs.serving
  · intro hleft
    have hfin := hs.finishing (mt hserving.mpr hleft)
    exact ⟨h.closing ▸ hfin.closing, h.flusher hfin.flusher,
      hfin.writer.imp (fun hsend => h.sending ▸ hsend) h.writer⟩
  · intro hleft hwait
    rw [h.sending]
    exact hs.sent (mt hserving.mpr hleft) (by rw [← h.run, hwait])
  · intro cancelled hrun
    exact h.done ((h.waited cancelled hrun).elim (hs.waited cancelled) id)

lemma aside_inflight {buffer : List (Frame Seconds)} {outbox : Queue (Text ρ) partialChannelDepth}
    {inflight : Option (AsyncTask (BatchPoint ρ))} :
    Aside s { s with buffer, outbox, inflight } :=
  ⟨rfl, rfl, rfl, fun _ => rfl, fun _ => .inl, id, rfl, id, id⟩

lemma aside_flusher {flusher : AsyncTask FlushPoint} (h : s.flusher.Stopping → flusher.Stopping) :
    Aside s { s with flusher } :=
  ⟨rfl, rfl, rfl, fun _ => rfl, fun _ => .inl, h, rfl, id, id⟩

lemma aside_writer {p : WriterPoint ρ → Bool} : Aside s { s with writer := s.writer.wakeAt p } :=
  ⟨rfl, rfl, rfl, fun _ => rfl, fun _ => .inl, id, AsyncTask.suspendedAt_wakeAt,
    AsyncTask.stopping_wakeAt.mpr, AsyncTask.done_wakeAt.trans⟩

lemma aside_run {p : RunPoint → Bool} (h : p .WaitingWriter = true → s.writer.done = true) :
    Aside s { s with run := s.run.wakeAt p } := by
  refine ⟨rfl, rfl, rfl, fun _ => AsyncTask.suspendedAt_wakeAt, ?_, id, rfl, id, id⟩
  intro cancelled hrun
  rcases AsyncTask.wakeAt_eq_suspended.mp hrun with ⟨ready, hrun, hready⟩
  cases ready with
  | true => exact .inl hrun
  | false => exact .inr (h (by simpa using hready.symm))

/-! ## The writer -/

lemma Inv.writer_done (hs : Inv s) {closing sending : Bool} {ending : Ending}
    (hclosing : s.closing = true → closing = true) (hsending : sending = false) :
    Inv { s with closing, sending, writer := .Done ending } where
  log := hs.log
  sending := hsending
  serving := hs.serving
  finishing hleft :=
    ⟨hclosing (hs.finishing hleft).closing, (hs.finishing hleft).flusher, .inr trivial⟩
  sent _ _ := hsending
  waited _ _ := rfl

lemma Serving.takeNext (hserving : s.Serving) (hlog : Orderly s.log) (hclean : .Cleanup ∉ s.log)
    (hsending : s.sending = false) : Inv s.takeNext := by
  unfold Session.takeNext
  split
  · exact Serving.inv hserving hlog hsending hclean
  · refine Serving.inv hserving ?_ rfl (by simpa using hclean)
    exact hlog.append (fun _ h => nomatch h) (fun h => absurd h hclean)

lemma Inv.nextText (hs : Inv s) {sending : Bool} (hsending : sending = false)
    (hopen : s.closing = false → s.Serving) : Inv { s with sending }.nextText := by
  unfold Session.nextText
  split
  case isTrue => exact hs.writer_done id hsending
  case isFalse hclosing =>
    have hserving := hopen (by simpa using hclosing)
    exact Serving.takeNext hserving hs.log (hs.serving hserving) hsending

lemma Inv.sending_of_resume (hs : Inv s) {point : WriterPoint ρ} {cancelled : Bool}
    (hresume : s.writer.resume = some (point, cancelled)) : s.sending = point.isSending := by
  rw [hs.sending, InSendText, AsyncTask.suspendedAt_of_resume hresume]

lemma Inv.serving_of_resume (hs : Inv s) {point : WriterPoint ρ}
    (hresume : s.writer.resume = some (point, false)) (hpoint : point.isSending = false) :
    s.Serving := by
  by_contra hleft
  rcases (hs.finishing hleft).writer with hsending | hstop
  · rw [hs.sending_of_resume hresume, hpoint] at hsending
    cases hsending
  · cases hstop.of_resume hresume

lemma Inv.writerLoop {raised : Bool} (hs : Inv s) (h : s.writerLoop raised = some s') : Inv s' := by
  -- After its send the writer goes on only if `closing` is not set, and `run` sets it first.
  have hopen : s.closing = false → s.Serving := by
    intro hclosing
    by_contra hleft
    simp [(hs.finishing hleft).closing] at hclosing
  unfold Session.writerLoop at h
  split at h
  case h_1 => cases h
  case h_2 hresume | h_3 hresume =>
    cases h
    exact hs.writer_done id (hs.sending_of_resume hresume)
  case h_4 =>
    cases h
    exact hs.writer_done id rfl
  case h_5 hresume =>
    cases h
    exact hs.nextText (hs.sending_of_resume hresume) hopen
  case h_6 hresume =>
    cases h
    have hserving := hs.serving_of_resume hresume rfl
    exact hserving.takeNext hs.log (hs.serving hserving) (hs.sending_of_resume hresume)
  case h_7 =>
    split at h
    · cases h
      exact hs.writer_done (fun _ => rfl) rfl
    · cases h
      exact hs.nextText rfl hopen

/-! ## The flusher and the batch task -/

lemma Inv.flush {nextDue now startedAt : Seconds} (hs : Inv s) (hserving : s.Serving) :
    Inv (s.flush settings nextDue now startedAt) := by
  have hclean := hs.serving hserving
  dsimp only [Session.flush]
  split
  · exact Serving.inv hserving hs.log hs.sending hclean
  · refine Serving.inv hserving ?_ hs.sending (by simpa using hclean)
    exact hs.log.append (fun _ h => nomatch h) (fun h => absurd h hclean)

lemma Inv.flushLoop {jitter now startedAt : Seconds} (hs : Inv s)
    (h : s.flushLoop settings jitter now startedAt = some s') : Inv s' := by
  unfold Session.flushLoop at h
  split at h
  case h_1 => cases h
  case h_2 =>
    cases h
    exact hs.aside (aside_flusher fun _ => trivial)
  case h_3 hresume =>
    cases h
    -- A flusher that is resumed without the cancellation has not been cancelled.
    exact hs.aside (aside_flusher fun hstop => nomatch hstop.of_resume hresume)
  case h_4 nextDue hresume =>
    cases h
    refine hs.flush ?_
    by_contra hleft
    cases (hs.finishing hleft).flusher.of_resume hresume

lemma Inv.put {text : Text ρ} (hs : Inv s) : Inv (s.put text) := by
  unfold Session.put
  split
  · exact hs.aside aside_inflight
  · exact (hs.aside aside_writer).aside aside_inflight

lemma Inv.processBatch {result : Inferred ρ} {now later : Seconds} (hs : Inv s)
    (h : s.processBatch settings result now later = some s') : Inv s' := by
  unfold Session.processBatch at h
  split at h
  case h_1 => cases h
  case h_3 =>
    cases result with
    | Answered pred | Failed err =>
      cases h
      exact hs.put
    | Cancelled | Raised =>
      cases h
      exact hs.aside aside_inflight
  case h_4 =>
    cases h
    exact hs.put
  case h_2 | h_5 | h_6 =>
    cases h
    exact hs.aside aside_inflight

/-! ## The cleanup -/

structure Sent (s : Session ρ) : Prop where
  log : Orderly s.log
  closing : s.closing = true
  flusher : s.flusher.Stopping
  sending : s.sending = false
  writer : InSendText s.writer = false

lemma Sent.cancelWriter (hs : Sent s) : Sent s.cancelWriter where
  log := by
    refine hs.log.append ?_ (fun _ => rfl)
    intro writer heq
    cases heq
    exact hs.writer
  closing := hs.closing
  flusher := hs.flusher
  sending := hs.sending
  writer := AsyncTask.suspendedAt_cancel.trans hs.writer

lemma Sent.of_parts {run : AsyncTask RunPoint} {inflight : Option (AsyncTask (BatchPoint ρ))}
    {raised : Bool} (hs : Sent s) : Sent { s with run, inflight, raised } :=
  { hs with }

lemma Sent.inv (hs : Sent s) (hwriter : s.writer.Stopping)
    (hsocket : s.run.suspendedAt RunPoint.onSocket = false)
    (hwait : s.run.suspendedAt RunPoint.isWaitingWriter = false) : Inv s where
  log := hs.log
  sending := hs.sending.trans hs.writer.symm
  serving hserving := absurd (hserving.symm.trans hsocket) (by decide)
  finishing _ := ⟨hs.closing, hs.flusher, .inr hwriter⟩
  sent _ _ := hs.sending
  waited cancelled hrun := by
    rw [hrun] at hwait
    cases hwait

lemma Sent.join (hs : Sent s) (hwriter : s.writer.Stopping) : Inv s.join := by
  dsimp only [Session.join]
  split
  · have hcancel : Sent { s with run := .park .Joining }.cancelWriter := hs.of_parts.cancelWriter
    exact Sent.inv ⟨hcancel.log, hcancel.closing, AsyncTask.stopping_cancel, hcancel.sending,
      hcancel.writer⟩ AsyncTask.stopping_cancel rfl rfl
  · exact Sent.inv hs.of_parts hwriter rfl rfl

lemma Sent.cancelTasks (hs : Sent s) : Inv s.cancelTasks := by
  have hcancel := hs.cancelWriter
  dsimp only [Session.cancelTasks]
  split
  · exact Sent.inv hcancel.of_parts AsyncTask.stopping_cancel rfl rfl
  · exact Sent.join hcancel.of_parts AsyncTask.stopping_cancel

lemma Sent.afterInflight {timedOut : Bool} (hs : Sent s) (hwriter : s.writer.Stopping) :
    Inv (s.afterInflight timedOut) := by
  unfold Session.afterInflight
  split
  · split
    · exact Sent.join hs.of_parts hwriter
    · exact Sent.join hs.of_parts hwriter
  · exact Sent.join hs.of_parts hwriter

lemma Inv.cleanup {raised : Bool} (hs : Inv s) : Inv (s.cleanup raised) := by
  have hlog : Orderly (s.log ++ [.Cleanup]) := hs.log.append (fun _ h => nomatch h) (fun _ => rfl)
  dsimp only [Session.cleanup]
  split
  case isTrue hsending =>
    exact {
      log := hlog
      sending := hs.sending
      serving := fun h => nomatch h
      finishing := fun _ => ⟨rfl, AsyncTask.stopping_cancel, .inl hsending⟩
      sent := fun _ h => nomatch h
      waited := fun _ h => nomatch h }
  case isFalse hsending =>
    have hsending : s.sending = false := by simpa using hsending
    exact Sent.cancelTasks
      ⟨hlog, rfl, AsyncTask.stopping_cancel, hsending, hs.sending.symm.trans hsending⟩

lemma Inv.receive {message : Received} (hs : Inv s) (hserving : s.Serving) :
    Inv (s.receive message) := by
  have hclean := hs.serving hserving
  cases message with
  | Raised | Disconnect => exact hs.cleanup
  | Text => exact Serving.inv rfl hs.log hs.sending hclean
  | Bytes payload receivedAt =>
    dsimp only [Session.receive]
    split
    · exact Serving.inv rfl hs.log hs.sending hclean
    · split
      · exact Inv.cleanup (Serving.inv hserving hs.log hs.sending hclean)
      · exact Serving.inv rfl hs.log hs.sending hclean

lemma Inv.not_serving {point : RunPoint} {cancelled : Bool}
    (hresume : s.run.resume = some (point, cancelled)) (hsocket : point.onSocket = false) :
    ¬ s.Serving := by
  simp [Serving, AsyncTask.suspendedAt_of_resume hresume, hsocket]

lemma Inv.sent_of_waited (hs : Inv s) (hresume : s.run.resume = some (.WaitingWriter, false)) :
    Sent s := by
  obtain ⟨hclosing, hflusher, -⟩ := hs.finishing (Inv.not_serving hresume rfl)
  have hwriter : InSendText s.writer = false :=
    AsyncTask.suspendedAt_of_done (hs.waited _ (AsyncTask.resume_eq_some_false.mp hresume))
  exact ⟨hs.log, hclosing, hflusher, hs.sending.trans hwriter, hwriter⟩

lemma Inv.sent_of_resume {point : RunPoint} {cancelled : Bool} (hs : Inv s)
    (hresume : s.run.resume = some (point, cancelled)) (hsocket : point.onSocket = false)
    (hwait : point.isWaitingWriter = false) : Sent s ∧ s.writer.Stopping := by
  have hleft := Inv.not_serving hresume hsocket
  have hsending : s.sending = false :=
    hs.sent hleft (by rw [AsyncTask.suspendedAt_of_resume hresume, hwait])
  obtain ⟨hclosing, hflusher, hwriter⟩ := hs.finishing hleft
  exact ⟨⟨hs.log, hclosing, hflusher, hsending, hs.sending.symm.trans hsending⟩,
    hwriter.resolve_left (by simp [hsending])⟩

lemma Inv.runLoop {message : Received} (hs : Inv s) (h : s.runLoop message = some s') : Inv s' := by
  unfold Session.runLoop at h
  split at h
  case h_1 hresume =>
    cases h
    exact hs.receive (AsyncTask.suspendedAt_of_resume hresume)
  case h_2 =>
    cases message with
    | Raised | Bytes _ _ | Text | Disconnect =>
      cases h
      exact hs.cleanup
  case h_3 hresume =>
    cases h
    exact (hs.sent_of_waited hresume).cancelTasks
  case h_4 hresume =>
    cases h
    obtain ⟨hsent, hwriter⟩ := hs.sent_of_resume hresume rfl rfl
    exact hsent.afterInflight hwriter
  case h_5 hresume =>
    cases h
    obtain ⟨hsent, hwriter⟩ := hs.sent_of_resume hresume rfl rfl
    exact Sent.inv hsent.of_parts hwriter rfl rfl
  case h_6 => cases h

/-! ## The result -/

lemma Inv.timeout (hs : Inv s) (h : s.timeout = some s') : Inv s' := by
  unfold Session.timeout at h
  split at h
  case h_1 ready cancelled hrun =>
    split at h
    · cases h
      exact hs.aside aside_inflight
    · cases h
      refine hs.aside ⟨rfl, rfl, rfl, fun _ => AsyncTask.suspendedAt_cancel, ?_, id, rfl, id, id⟩
      intro c hc
      rw [hrun] at hc
      cases hc
  case h_2 => cases h

lemma Inv.handle {event : Event ρ} (hs : Inv s) (h : s.handle settings event = some s') :
    Inv s' := by
  cases event with
  | Run message => exact hs.runLoop h
  | Flush jitter now startedAt => exact hs.flushLoop h
  | Write raised => exact hs.writerLoop h
  | Batch result now later => exact hs.processBatch h
  | SocketReady =>
    cases h
    exact hs.aside (aside_run fun h => nomatch h)
  | TimerFired =>
    cases h
    exact hs.aside (aside_flusher AsyncTask.stopping_wakeAt.mpr)
  | SendReady =>
    cases h
    exact hs.aside aside_writer
  | InferenceReady =>
    cases h
    exact hs.aside aside_inflight
  | TimeoutFired => exact hs.timeout h

lemma inv_inductive : (system ρ settings).Inductive Inv where
  init s h := h ▸ inv_start
  step s event s' hs h := by
    obtain ⟨t, ht, rfl⟩ := Option.map_eq_some_iff.mp h
    exact (hs.handle ht).aside (aside_run id)

theorem teardown_orderly (hs : (system ρ settings).Reachable s) :
    (∀ writer, .CancelWriter writer ∈ s.log → InSendText writer = false) ∧
      ∀ before after, s.log = before ++ .Cleanup :: after → ∀ e ∈ after, e.startsWork = false := by
  have hlog := (inv_inductive.reachable hs).log
  refine ⟨hlog.cancels, ?_⟩
  intro before after heq e he
  have horder := hlog.order
  rw [heq] at horder
  exact (List.pairwise_cons.mp (List.pairwise_append.mp horder).2.1).1 e he rfl

def leaveInSend : List (Event ℕ) :=
  [.Flush 0 0 0, .Write false, .SocketReady, .Run (.Bytes (List.replicate frameBytes 0) 0),
    .TimerFired, .Flush 0 1 1, .Batch .Raised 1 1, .InferenceReady,
    .Batch (.Answered ⟨0, 0, 0, 320, "", 640⟩) 2 2, .Write false, .SocketReady, .Run .Disconnect,
    .Flush 0 2 2, .SendReady, .Write false, .Run .Disconnect, .Run .Disconnect]

theorem teardown_orderly_leaveInSend :
    ∃ s, (system ℕ ⟨4, 75, 1000, 0⟩).Reachable s ∧
      (s.log.map Entry.startsWork = [true, true, false, false] ∧ s.run.done = true) ∧
      (∀ writer, .CancelWriter writer ∈ s.log → InSendText writer = false) ∧
      ∀ before after, s.log = before ++ .Cleanup :: after →
        ∀ e ∈ after, e.startsWork = false := by
  obtain ⟨s, hs, hlog⟩ : ∃ s, (system ℕ ⟨4, 75, 1000, 0⟩).Reachable s ∧
      s.log.map Entry.startsWork = [true, true, false, false] ∧ s.run.done = true :=
    Reachable.exists_of_exec leaveInSend (by decide +kernel)
  exact ⟨s, hs, hlog, teardown_orderly hs⟩

end Session

end SttBench.PythonFastapi
