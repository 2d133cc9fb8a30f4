import SttBench.Core.Binary64
import SttBench.Loadgen.Verify

/-!
# Load generator: a session task

`run_session` as a coroutine; `Pc` is the await it is suspended at.
-/

namespace SttBench.Loadgen

abbrev Instant := ℕ

def frameInterval : ℕ := frameIntervalMs * 1000000

def microsSince (now since : Instant) : ℕ := (now - since) / 1000

/-! ## What the tasks share -/

inductive TimeoutKind
  | Connect
  | Send
  | Close
  | Session
deriving DecidableEq, Repr

inductive MessageType
  | Partial
  | Error
  | Malformed
  | SessionEnd
deriving DecidableEq, Repr

structure Record where
  sessionId : ℕ
  messageType : MessageType
  oldest : ℕ
  newest : ℕ
  mismatches : List Mismatch
deriving DecidableEq, Repr

structure VerifyJob where
  sessionId : ℕ
  message : PartialMessage
  inline : List Mismatch
deriving DecidableEq

structure Sample where
  sessionId : ℕ
  oldestFrameSeq : UInt64
  newestFrameSeq : UInt64
  frames : UInt64
  transcript : String
  audioBytes : UInt64
  newestUs : ℕ
  oldestUs : ℕ
  flushLatenessUs : ℕ
  receivedUs : ℕ
deriving DecidableEq

structure Histogram where
  high : ℕ
  values : List ℕ
deriving DecidableEq

namespace Histogram

def saturatingRecord (h : Histogram) (v : ℕ) : Histogram := { h with values := h.values ++ [v] }

def add (h h' : Histogram) : Histogram := { h with values := h.values ++ h'.values }

end Histogram

def lagHistogram : Histogram := ⟨10000000, []⟩

inductive Effect
  | Record (r : Record)
  /-- `submit_verify`. -/
  | Submit (job : VerifyJob)
  /-- A sample goes into the channel. -/
  | Sample (s : Sample)
  | Timeout (kind : TimeoutKind)
  | InferenceError
  | ProtocolError
  /-- The task's histograms are added to the run's. -/
  | Merge (lag block : Histogram)

namespace Effect

def samples : Effect → List Loadgen.Sample
  | .Sample s => [s]
  | _ => []

def jobs : Effect → List VerifyJob
  | .Submit job => [job]
  | _ => []

def timeouts : Effect → List TimeoutKind
  | .Timeout kind => [kind]
  | _ => []

def protocolErrors : Effect → ℕ
  | .ProtocolError => 1
  | _ => 0

end Effect

def Record.of (sessionId : ℕ) (messageType : MessageType) (oldest newest : ℕ)
    (mismatches : List Mismatch) : List Record :=
  if mismatches = [] then [] else [⟨sessionId, messageType, oldest, newest, mismatches⟩]

def record (sessionId : ℕ) (messageType : MessageType) (oldest newest : ℕ)
    (mismatches : List Mismatch) : List Effect :=
  (Record.of sessionId messageType oldest newest mismatches).map .Record

/-! ## `process_inbound` -/

structure Config where
  sessions : ℕ
  verifyEvery : ℕ
  expected : ExpectedConfig
  stub : Stub
  measureStart : Instant
  endAt : Instant

def Config.measured (cfg : Config) (now : Instant) : Bool := cfg.measureStart ≤ now && now ≤ cfg.endAt

structure SessionCheck where
  continuity : Continuity
  measuredPartials : ℕ
deriving DecidableEq

inductive Inbound
  | Close
  /-- The end of the stream, `ConnectionClosed` or `AlreadyClosed`. -/
  | Closed
  | Failed
  /-- A text, and what `serde_json` makes of it. -/
  | Text (decoded : Except String ServerMessage)
  | Binary (length : ℕ)
  /-- Ping, pong, raw frame. -/
  | Control

inductive Processed
  | Closed
  | Failed
  | Open
  /-- It is suspended in `sample_tx.send`; behind that the job is verified or recorded. -/
  | Send (sample : Sample) (job : VerifyJob) (unsent : Bool)

structure Response where
  oldest : UInt64
  newest : UInt64
  isError : Bool
  measured : Bool
  /-- The number of frames sent by then. -/
  sent : ℕ
deriving DecidableEq

def selectPartial (cfg : Config) (check : SessionCheck) (job : VerifyJob) (unsent : Bool) :
    SessionCheck × List Effect :=
  let counted := !unsent && 0 < cfg.verifyEvery
  let selected := counted && check.measuredPartials % cfg.verifyEvery = 0
  (if counted then { check with measuredPartials := check.measuredPartials + 1 } else check,
   if selected then [.Submit job]
   else record job.sessionId .Partial job.message.oldestFrameSeq.toNat
     job.message.newestFrameSeq.toNat job.inline)

def flushLatenessUs (ms : ℚ) : ℕ :=
  match Binary64.nearest (max ms 0 * 1000) with
  | .finite x => min ⌊x + 1 / 2⌋.toNat (2 ^ 64 - 1)
  | .inf _ => 2 ^ 64 - 1
  | .nan => 0

def sampleOf (cfg : Config) (sessionId : ℕ) (p : PartialMessage) (now : Instant)
    (sentTimes : List Instant) : Option Sample :=
  match sentTimes[p.newestFrameSeq.toNat - 1]?, sentTimes[p.oldestFrameSeq.toNat - 1]? with
  | some newestSent, some oldestSent =>
    some {
      sessionId
      oldestFrameSeq := p.oldestFrameSeq
      newestFrameSeq := p.newestFrameSeq
      frames := p.frames
      transcript := p.transcript
      audioBytes := p.audioBytes
      newestUs := microsSince now newestSent
      oldestUs := microsSince now oldestSent
      flushLatenessUs := flushLatenessUs p.flushLatenessMs
      receivedUs := microsSince now cfg.measureStart }
  | _, _ => none

def unsentMismatch (newest : UInt64) (sent : ℕ) : List Mismatch :=
  if sent < newest.toNat then
    [⟨.UnsentFrame, s!"newest_frame_seq={newest} but only {sent} frames sent"⟩]
  else []

def processPartial (cfg : Config) (sessionId : ℕ) (now : Instant) (sentTimes : List Instant)
    (check : SessionCheck) (p : PartialMessage) : SessionCheck × List Effect × Processed :=
  let oldest := p.oldestFrameSeq
  let newest := p.newestFrameSeq
  let continuity := (check.continuity.observe oldest newest).1.toList
  let check := { check with continuity := (check.continuity.observe oldest newest).2 }
  match p.validate with
  | .error error =>
    (check, record sessionId .Partial oldest.toNat newest.toNat
      (continuity ++ [⟨.InvalidPartial, error⟩]), .Open)
  | .ok () =>
    if ¬ cfg.measured now then (check, [], .Open)
    else
      let sent := sentTimes.length
      let unsent : Bool := sent < newest.toNat
      let job := ⟨sessionId, p, continuity ++ unsentMismatch newest sent⟩
      match sampleOf cfg sessionId p now sentTimes with
      | some sample => (check, [], .Send sample job unsent)
      | none =>
        let (check, effects) := selectPartial cfg check job unsent
        (check, effects, .Open)

def processError (cfg : Config) (sessionId : ℕ) (now : Instant) (check : SessionCheck)
    (e : ErrorMessage) : SessionCheck × List Effect × Processed :=
  let oldest := e.oldestFrameSeq
  let newest := e.newestFrameSeq
  let gap := (check.continuity.observe oldest newest).1
  ({ check with continuity := (check.continuity.observe oldest newest).2 },
   (if cfg.measured now then record sessionId .Error oldest.toNat newest.toNat gap.toList else []) ++
     [.InferenceError],
   .Open)

def recordMalformed (sessionId : ℕ) (detail : String) : List Effect :=
  record sessionId .Malformed 0 0 [⟨.MalformedMessage, detail⟩]

def processInbound (cfg : Config) (sessionId : ℕ) (now : Instant) (sentTimes : List Instant)
    (check : SessionCheck) : Inbound → SessionCheck × List Effect × Processed
  | .Close => (check, [], .Closed)
  | .Closed => (check, [], .Closed)
  | .Failed => (check, [], .Failed)
  | .Binary length =>
    (check, recordMalformed sessionId s!"unexpected binary message ({length} bytes)", .Open)
  | .Control => (check, [], .Open)
  | .Text (.error error) =>
    (check, recordMalformed sessionId ("decode server message: " ++ error), .Open)
  | .Text (.ok (.Partial p)) => processPartial cfg sessionId now sentTimes check p
  | .Text (.ok (.Error e)) => processError cfg sessionId now check e

def Inbound.response (cfg : Config) (now : Instant) (sent : ℕ) : Inbound → Option Response
  | .Text (.ok (.Partial p)) =>
    some ⟨p.oldestFrameSeq, p.newestFrameSeq, false, cfg.measured now, sent⟩
  | .Text (.ok (.Error e)) => some ⟨e.oldestFrameSeq, e.newestFrameSeq, true, cfg.measured now, sent⟩
  | _ => none

/-! ## `run_session` -/

inductive Loop
  | Streaming
  | Closing
deriving DecidableEq, Repr

inductive Outcome
  | Ok
  | Err
  | Elapsed
deriving DecidableEq, Repr

inductive Pc
  /-- In `sleep_until(session_start_at)`. -/
  | Sleeping
  | Connecting
  | SendingStart
  /-- In the `select!` of the send loop. -/
  | Streaming
  | SendingFrame (woke : Instant)
  | Sampling (loop : Loop) (sample : Sample) (job : VerifyJob) (unsent : Bool)
  | SendingClose
  /-- In the `select!` of the close loop. -/
  | Closing
  /-- `run_session` is over, and what it held has been dropped. -/
  | Returned (outcome : Outcome)
  /-- Behind `record_session_outcome`. -/
  | Recorded (outcome : Outcome)
deriving DecidableEq

def Pc.isReturned : Pc → Bool
  | .Returned _ => true
  | .Recorded _ => true
  | _ => false

def Pc.isPlain : Pc → Bool
  | .Sampling _ _ _ _ => false
  | .Returned _ => false
  | .Recorded _ => false
  | _ => true

def Pc.isEarly : Pc → Bool
  | .Sleeping => true
  | .Connecting => true
  | .SendingStart => true
  | _ => false

def Pc.failed : Pc → Bool
  | .Returned outcome => outcome ≠ .Ok
  | .Recorded outcome => outcome ≠ .Ok
  | _ => false

def Pc.succeeded : Pc → Bool
  | .Returned outcome => outcome = .Ok
  | .Recorded outcome => outcome = .Ok
  | _ => false

def Pc.isRecorded : Pc → Bool
  | .Recorded _ => true
  | _ => false

structure Task where
  pc : Pc
  sentTimes : List Instant
  nextTick : Instant
  check : SessionCheck
  lag : Histogram
  block : Histogram
  /-- The responses read so far, oldest first. -/
  responses : List Response

inductive TimedResult
  | Done
  | Failed
  | Elapsed
deriving DecidableEq, Repr

inductive TaskEvent
  /-- The session's start has come. -/
  | Wake
  /-- The future of a `timed` ends, or its timeout. -/
  | Timed (result : TimedResult) (now later : Instant)
  | Tick (woke : Instant)
  | Message (message : Inbound) (now later : Instant)
  /-- The sample channel takes the sample. -/
  | SampleSent (later : Instant)
  | CloseGrace
  /-- The whole-session deadline. -/
  | Deadline
  /-- The task goes on to `record_session_outcome`. -/
  | Finish

namespace Task

def spawn : Task where
  pc := .Sleeping
  sentTimes := []
  nextTick := 0
  check := ⟨⟨0⟩, 0⟩
  lag := lagHistogram
  block := lagHistogram
  responses := []

def returned (t : Task) (outcome : Outcome) : Task := { t with pc := .Returned outcome }

def timed (t : Task) (kind : TimeoutKind) (next : Task) : TimedResult → Task × List Effect
  | .Done => (next, [])
  | .Failed => (t.returned .Err, [])
  | .Elapsed => (t.returned .Err, [.Timeout kind])

def loopHead (cfg : Config) (later : Instant) : Pc :=
  if later < cfg.endAt then .Streaming else .SendingClose

def resume (cfg : Config) (later : Instant) : Loop → Pc
  | .Streaming => loopHead cfg later
  | .Closing => .Closing

def checkSessionTail (cfg : Config) (sessionId : ℕ) (t : Task) : List Effect :=
  match t.sentTimes.getLast? with
  | none => []
  | some last =>
    if last < cfg.measureStart then []
    else
      let sent := t.sentTimes.length
      let reported := t.check.continuity.lastNewest
      record sessionId .SessionEnd (reported.toNat + 1) sent (checkTail sent reported).toList

def message (cfg : Config) (sessionId : ℕ) (t : Task) (loop : Loop) (m : Inbound)
    (now later : Instant) : Task × List Effect :=
  let (check, effects, processed) := processInbound cfg sessionId now t.sentTimes t.check m
  let t := { t with
    check
    responses := t.responses ++ (m.response cfg now t.sentTimes.length).toList }
  match processed with
  | .Failed => (t.returned .Err, effects)
  | .Open => ({ t with pc := resume cfg later loop }, effects)
  | .Send sample job unsent => ({ t with pc := .Sampling loop sample job unsent }, effects)
  | .Closed =>
    match loop with
    | .Streaming => (t.returned .Err, effects)
    | .Closing => (t.returned .Ok, effects ++ checkSessionTail cfg sessionId t)

def recordSessionOutcome : Outcome → List Effect
  | .Ok => []
  | .Err => [.ProtocolError]
  | .Elapsed => [.Timeout .Session, .ProtocolError]

def step (cfg : Config) (sessionId : ℕ) (t : Task) (e : TaskEvent) : Option (Task × List Effect) :=
  match t.pc, e with
  | .Sleeping, .Wake => some ({ t with pc := .Connecting }, [])
  | .Connecting, .Timed result _ _ =>
    some (t.timed .Connect { t with pc := .SendingStart } result)
  | .SendingStart, .Timed result now later =>
    some (t.timed .Send { t with pc := loopHead cfg later, nextTick := now } result)
  | .Streaming, .Tick woke =>
    some ({ t with
      pc := .SendingFrame woke
      sentTimes := t.sentTimes ++ [t.nextTick]
      lag := if cfg.measureStart ≤ t.nextTick then
          t.lag.saturatingRecord (microsSince woke t.nextTick) else t.lag }, [])
  | .SendingFrame woke, .Timed result now later =>
    some (t.timed .Send { t with
      pc := loopHead cfg later
      nextTick := t.nextTick + frameInterval
      block := if cfg.measureStart ≤ t.nextTick then
          t.block.saturatingRecord (microsSince now woke) else t.block } result)
  | .Streaming, .Message m now later => some (t.message cfg sessionId .Streaming m now later)
  | .Closing, .Message m now later => some (t.message cfg sessionId .Closing m now later)
  | .Sampling loop sample job unsent, .SampleSent later =>
    let (check, effects) := selectPartial cfg t.check job unsent
    some ({ t with pc := resume cfg later loop, check }, .Sample sample :: effects)
  | .SendingClose, .Timed result _ _ => some (t.timed .Send { t with pc := .Closing } result)
  | .Closing, .CloseGrace => some (t.returned .Err, [.Timeout .Close])
  | .Returned outcome, .Finish =>
    some ({ t with pc := .Recorded outcome },
      .Merge t.lag t.block :: recordSessionOutcome outcome)
  | .Returned _, _ => none
  | .Recorded _, _ => none
  | _, .Deadline => some (t.returned .Elapsed, [])
  | _, _ => none

/-! ### What a step of a task can do -/

variable {cfg : Config} {sessionId : ℕ} {t t' : Task} {e : TaskEvent} {effects : List Effect}

inductive Steps (cfg : Config) (sessionId : ℕ) (t : Task) : Task → List Effect → Prop
  /-- From one await to the next. -/
  | waits {t' : Task} (hpc : t.pc.isPlain = true) (hpc' : t'.pc.isPlain = true)
      (hcheck : t'.check = t.check) (hresponses : t'.responses = t.responses) :
      Steps cfg sessionId t t' []
  /-- `run_session` returns an error or is dropped. -/
  | stopped {outcome : Outcome} {effects : List Effect} (hpc : t.pc.isReturned = false)
      (houtcome : outcome ≠ .Ok)
      (heffects : effects = [] ∨
        outcome = .Err ∧ ∃ kind, kind ≠ .Session ∧ effects = [.Timeout kind]) :
      Steps cfg sessionId t (t.returned outcome) effects
  | message (loop : Loop) (m : Inbound) (now later : Instant) (hpc : t.pc.isPlain = true) :
      Steps cfg sessionId t (t.message cfg sessionId loop m now later).1
        (t.message cfg sessionId loop m now later).2
  | sampled {loop : Loop} {sample : Sample} {job : VerifyJob} {unsent : Bool} (later : Instant)
      (hpc : t.pc = .Sampling loop sample job unsent) :
      Steps cfg sessionId t
        { t with
          pc := resume cfg later loop
          check := (selectPartial cfg t.check job unsent).1 }
        (.Sample sample :: (selectPartial cfg t.check job unsent).2)
  | finished {outcome : Outcome} (hpc : t.pc = .Returned outcome) :
      Steps cfg sessionId t { t with pc := .Recorded outcome }
        (.Merge t.lag t.block :: recordSessionOutcome outcome)

lemma message_check {loop : Loop} {m : Inbound} {now later : Instant} :
    (t.message cfg sessionId loop m now later).1.check =
      (processInbound cfg sessionId now t.sentTimes t.check m).1 := by
  simp only [message]
  split
  case h_4 => cases loop <;> rfl
  all_goals rfl

lemma message_responses {loop : Loop} {m : Inbound} {now later : Instant} :
    (t.message cfg sessionId loop m now later).1.responses =
      t.responses ++ (m.response cfg now t.sentTimes.length).toList := by
  simp only [message]
  split
  case h_4 => cases loop <;> rfl
  all_goals rfl

lemma loopHead_isPlain (later : Instant) : (loopHead cfg later).isPlain = true := by
  unfold loopHead
  split_ifs <;> rfl

lemma resume_isPlain (later : Instant) (loop : Loop) : (resume cfg later loop).isPlain = true := by
  cases loop with
  | Streaming => exact loopHead_isPlain later
  | Closing => rfl

lemma timed_steps {kind : TimeoutKind} {next : Task} (result : TimedResult)
    (hpc : t.pc.isPlain = true) (hkind : kind ≠ .Session) (hnext : next.pc.isPlain = true)
    (hcheck : next.check = t.check) (hresponses : next.responses = t.responses) :
    Steps cfg sessionId t (t.timed kind next result).1 (t.timed kind next result).2 := by
  have hreturned : t.pc.isReturned = false := by
    cases hpc' : t.pc <;> simp_all [Pc.isPlain, Pc.isReturned]
  cases result with
  | Done => exact .waits hpc hnext hcheck hresponses
  | Failed => exact .stopped hreturned nofun (.inl rfl)
  | Elapsed => exact .stopped hreturned nofun (.inr ⟨rfl, kind, hkind, rfl⟩)

lemma Steps.of_isReturned (h : Steps cfg sessionId t t' effects) (ht : t.pc.isReturned = true) :
    ∃ outcome, t.pc = .Returned outcome ∧ t' = { t with pc := .Recorded outcome } ∧
      effects = .Merge t.lag t.block :: recordSessionOutcome outcome := by
  cases h with
  | finished hpc => exact ⟨_, hpc, rfl, rfl⟩
  | stopped hpc _ _ => simp [ht] at hpc
  | waits hpc _ _ _ | message _ _ _ _ hpc | sampled _ hpc =>
    cases hpc' : t.pc <;> simp_all [Pc.isPlain, Pc.isReturned]

theorem steps_of_step (h : t.step cfg sessionId e = some (t', effects)) :
    Steps cfg sessionId t t' effects := by
  unfold step at h
  split at h <;> simp only [Option.some.injEq, reduceCtorEq] at h
  case h_1 hpc | h_4 hpc =>
    cases h
    exact .waits (by rw [hpc]; rfl) rfl rfl rfl
  case h_2 hpc | h_9 hpc =>
    obtain ⟨rfl, rfl⟩ := Prod.ext_iff.mp h
    exact timed_steps _ (by rw [hpc]; rfl) nofun rfl rfl rfl
  case h_3 hpc | h_5 hpc =>
    obtain ⟨rfl, rfl⟩ := Prod.ext_iff.mp h
    exact timed_steps _ (by rw [hpc]; rfl) nofun (loopHead_isPlain _) rfl rfl
  case h_6 m now later hpc =>
    obtain ⟨rfl, rfl⟩ := Prod.ext_iff.mp h
    exact .message .Streaming m now later (by rw [hpc]; rfl)
  case h_7 m now later hpc =>
    obtain ⟨rfl, rfl⟩ := Prod.ext_iff.mp h
    exact .message .Closing m now later (by rw [hpc]; rfl)
  case h_8 later hpc =>
    cases h
    exact .sampled later hpc
  case h_10 hpc =>
    cases h
    exact .stopped (by rw [hpc]; rfl) nofun (.inr ⟨rfl, .Close, nofun, rfl⟩)
  case h_11 hpc =>
    cases h
    exact .finished hpc
  case h_14 hreturned hrecorded =>
    cases h
    refine .stopped ?_ nofun (.inl rfl)
    cases hpc : t.pc with
    | Returned outcome => exact (hreturned outcome hpc).elim
    | Recorded outcome => exact (hrecorded outcome hpc).elim
    | _ => rfl

end Task

end SttBench.Loadgen
