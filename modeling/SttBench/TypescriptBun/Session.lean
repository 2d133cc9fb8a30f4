import SttBench.Core.Batcher
import SttBench.Core.Binary64
import SttBench.TypescriptBun.Outbox

/-!
# typescript-bun: the session of one connection

One callback runs at a time, so an event is a callback.
-/

namespace SttBench.TypescriptBun

open Ascii Tiling TransitionSystem Wire List

abbrev Millis := ℚ
abbrev Rms := ℚ

def frameMs : ℚ := 20

def reasonBacklogExceeded : String := "gateway overloaded: frame backlog limit exceeded"

structure SessionConfig where
  cpuPasses : ℕ
  modelDelayMs : ℕ
  flushIntervalMs : Millis
  flushPhaseJitterMs : Millis
  inferenceTimeoutMs : Millis

def maxBufferedFrames (config : SessionConfig) : Double :=
  let longestWaitMs :=
    (Binary64.nearest (config.flushIntervalMs + config.flushPhaseJitterMs)).max
      (Binary64.nearest (config.inferenceTimeoutMs + config.flushIntervalMs))
  (Double.finite 2).mul Binary64.nearest
    (longestWaitMs.div Binary64.nearest (.finite frameMs)).ceil

/-- At the defaults the cap is 300 frames. -/
example : maxBufferedFrames ⟨4, 75, 1000, 0, 2000⟩ = .finite 300 := by decide +kernel

structure Batch where
  oldestSeq : ℕ
  newestSeq : ℕ
  frames : ℕ
  oldestReceivedAtMs : Millis
  newestReceivedAtMs : Millis
  body : Bytes

def Batch.range (batch : Batch) : Range := ⟨batch.oldestSeq, batch.newestSeq⟩

inductive Rejection
  | InferenceError (details : Failure)
  | Other (message : String)

def Rejection.details : Rejection → Failure
  | .InferenceError details => details
  | .Other message => ⟨.InferenceRequest, .ConnectionReset, message, none, true⟩

inductive Phase
  /-- It awaits the inference. -/
  | Inference
  /-- It awaits `enqueue`: the message waits for space, or its continuation has still to run. -/
  | Enqueue (message : Message Rms Millis)
  /-- It has returned, and `finally` has still to run. -/
  | Settled

structure Task where
  id : ℕ
  batch : Batch
  flushLatenessMs : Millis
  startedAtMs : Millis
  phase : Phase

inductive Inbound
  | Text (text : String)
  | Binary (bytes : Bytes)

structure Session where
  started : Bool
  closed : Bool
  seq : ℕ
  buffer : List (Frame Millis)
  timer : Bool
  nextDueMs : Millis
  inflight : Option ℕ
  outbox : BoundedOutbox (Message Rms Millis)
  tasks : List Task
  /-- The number of tasks started. -/
  taskCount : ℕ
  calls : List (SocketCall (Message Rms Millis))
  drained : List Range

structure SocketState where
  bufferedAmount : ℕ
  statuses : List ℤ

inductive Event
  | HandleMessage (message : Inbound) (nowMs random : Millis)
  | FlushTimer (nowMs startedAtMs : Millis)
  | Inference (task : ℕ) (result : Except Rejection (Prediction Rms)) (nowMs : Millis)
      (socket : SocketState)
  | Woken (task : ℕ) (socket : SocketState)
  | Finally (task : ℕ)
  | Drain (socket : SocketState)
  | Close

structure Env where
  config : SessionConfig
  parseStartMessage : String → Bool

namespace Session

def start : Session :=
  ⟨false, false, 0, [], false, 0, none, .start partialChannelDepth, [], 0, [], []⟩

def close (s : Session) : Session :=
  { s with closed := true, timer := false, outbox := s.outbox.close }

def closeWith (s : Session) (code : ℕ) (reason : String) : Session :=
  { s.close with calls := s.calls ++ [.Close code reason] }

def startFlushLoop (config : SessionConfig) (s : Session) (nowMs random : Millis) : Session :=
  { s with
    timer := true
    nextDueMs := nowMs + config.flushIntervalMs + random * config.flushPhaseJitterMs }

def handleMessage (env : Env) (s : Session) (message : Inbound) (nowMs random : Millis) : Session :=
  if s.closed then s
  else if !s.started then
    match message with
    | .Text text =>
      if env.parseStartMessage text then
        { s with started := true }.startFlushLoop env.config nowMs random
      else s.closeWith closeProtocolError reasonNeedStart
    | .Binary _ => s.closeWith closeProtocolError reasonNeedStart
  else
    match message with
    | .Text _ => s.closeWith closeProtocolError reasonTextAfterStart
    | .Binary bytes =>
      if bytes.length ≠ frameBytes then s.closeWith closeUnsupportedData reasonBadFrameSize
      else if (maxBufferedFrames env.config).le (.finite s.buffer.length) then
        s.closeWith closeTryAgainLater reasonBacklogExceeded
      else
        { s with seq := s.seq + 1, buffer := s.buffer ++ [⟨s.seq + 1, bytes, nowMs⟩] }

def flushDue (s : Session) (flushLatenessMs startedAtMs : Millis) : Session :=
  if s.inflight.isSome || s.buffer.isEmpty || s.closed then s
  else
    match s.buffer.head?, s.buffer.getLast? with
    | some oldest, some newest =>
      let batch : Batch :=
        { oldestSeq := oldest.seq
          newestSeq := newest.seq
          frames := s.buffer.length
          oldestReceivedAtMs := oldest.receivedAt
          newestReceivedAtMs := newest.receivedAt
          body := s.buffer.flatMap Frame.payload }
      { s with
        buffer := []
        inflight := some s.taskCount
        tasks := s.tasks ++ [⟨s.taskCount, batch, flushLatenessMs, startedAtMs, .Inference⟩]
        taskCount := s.taskCount + 1
        drained := s.drained ++ [batch.range] }
    | _, _ => s

def flushTimer (config : SessionConfig) (s : Session) (nowMs startedAtMs : Millis) : Session :=
  let flushLatenessMs := max 0 (nowMs - s.nextDueMs)
  ({ s with nextDueMs := s.nextDueMs + config.flushIntervalMs, timer := !s.closed }).flushDue
    flushLatenessMs startedAtMs

def buildPartialMessage (config : SessionConfig) (task : Task) (prediction : Prediction Rms) :
    Message Rms Millis :=
  .Partial
    { oldestFrameSeq := task.batch.oldestSeq
      newestFrameSeq := task.batch.newestSeq
      frames := task.batch.frames
      rms := prediction.rms
      zeroCrossings := prediction.zeroCrossings
      checksum := prediction.checksum
      samples := prediction.samples
      transcript := prediction.transcript
      audioBytes := prediction.audioBytes
      cpuPasses := config.cpuPasses
      modelDelayMs := config.modelDelayMs
      flushLateness := task.flushLatenessMs
      inflightModelJobs := 0 }

def buildErrorMessage (s : Session) (task : Task) (details : Failure) (nowMs : Millis) :
    Message Rms Millis :=
  .Error
    { stage := details.stage
      kind := details.kind
      message := details.message
      oldestFrameSeq := task.batch.oldestSeq
      newestFrameSeq := task.batch.newestSeq
      frames := task.batch.frames
      audioBytes := task.batch.body.length
      oldestAge := nowMs - task.batch.oldestReceivedAtMs
      newestAge := nowMs - task.batch.newestReceivedAtMs
      flushLateness := task.flushLatenessMs
      inferenceElapsed := some (nowMs - task.startedAtMs)
      inflightGatewayBatches := 1
      gatewayBufferFrames := s.buffer.length
      inferenceStatus := details.status
      retryable := details.retryable }

def setPhase (s : Session) (task : ℕ) (phase : Phase) : Session :=
  { s with tasks := s.tasks.map fun t => if t.id = task then { t with phase := phase } else t }

def enqueue (s : Session) (task : ℕ) (message : Message Rms Millis) (socket : SocketState) :
    Option Session := do
  match ← s.outbox.enqueue task message socket.bufferedAmount socket.statuses with
  | .Parked outbox => return { s with outbox := outbox }.setPhase task (.Enqueue message)
  | .Done outbox calls =>
    return { s with outbox := outbox, calls := s.calls ++ calls }.setPhase task .Settled

def settle (env : Env) (s : Session) (task : Task)
    (result : Except Rejection (Prediction Rms)) (nowMs : Millis) (socket : SocketState) :
    Option Session :=
  if s.closed then some (s.setPhase task.id .Settled)
  else
    match result with
    | .ok prediction => s.enqueue task.id (buildPartialMessage env.config task prediction) socket
    | .error rejection => s.enqueue task.id (s.buildErrorMessage task rejection.details nowMs) socket

def finish (s : Session) (task : ℕ) : Session :=
  { s with
    tasks := s.tasks.filter fun t => t.id ≠ task
    inflight := if s.inflight = some task then none else s.inflight }

def step (env : Env) (s : Session) : Event → Option Session
  | .HandleMessage message nowMs random => some (s.handleMessage env message nowMs random)
  | .FlushTimer nowMs startedAtMs =>
    if s.timer then some (s.flushTimer env.config nowMs startedAtMs) else none
  | .Inference task result nowMs socket => do
      let t ← s.tasks.find? fun t => t.id = task
      match t.phase with
      | .Inference => s.settle env t result nowMs socket
      | _ => none
  | .Woken task socket => do
      let t ← s.tasks.find? fun t => t.id = task
      match t.phase with
      | .Enqueue message => if task ∈ s.outbox.waiters then none else s.enqueue task message socket
      | _ => none
  | .Finally task => do
      let t ← s.tasks.find? fun t => t.id = task
      match t.phase with
      | .Settled => return s.finish task
      | _ => none
  | .Drain socket => do
      let (outbox, calls) ← s.outbox.drain socket.bufferedAmount socket.statuses
      return { s with outbox := outbox, calls := s.calls ++ calls }
  | .Close => some s.close

def system (env : Env) : TransitionSystem Session Event := ofFun start (step env)

/-! ## The invariant -/

variable {env : Env} {s s' : Session} {b : Batcher} {given : List (Message Rms Millis)}

inductive Running (s : Session) (b : Batcher) : Prop
  | idle (tasks : s.tasks = []) (inflight : s.inflight = none) (flight : b.flight = none)
      (waiters : s.outbox.waiters = [])
  | inference (t : Task) (tasks : s.tasks = [t]) (phase : t.phase = .Inference)
      (inflight : s.inflight = some t.id) (flight : b.flight = some t.batch.range)
      (waiters : s.outbox.waiters = [])
  | enqueue (t : Task) (message : Message Rms Millis) (tasks : s.tasks = [t])
      (phase : t.phase = .Enqueue message) (range : message.range = t.batch.range)
      (inflight : s.inflight = some t.id) (flight : b.flight = some t.batch.range)
      (waiters : s.outbox.waiters <:+ [t.id])
  | settled (t : Task) (tasks : s.tasks = [t]) (phase : t.phase = .Settled)
      (inflight : s.inflight = some t.id) (flight : b.flight = none)
      (waiters : s.outbox.waiters = [])

structure Tracks (s : Session) (b : Batcher) (given : List (Message Rms Millis)) : Prop where
  seq : s.seq = b.seq
  collects : Collects Frame.seq b s.buffer
  drained : s.drained = b.batches
  responses : given.map Message.range = b.answered
  outbox : s.outbox.Inv s.calls given
  depth : s.outbox.depth = partialChannelDepth
  closed : s.closed = true → s.outbox.closed = true
  running : s.Running b

def Inv (s : Session) : Prop := ∃ b given, Batcher.system.Reachable b ∧ s.Tracks b given

lemma Running.congr (h : s.Running b) (s' : Session) (htasks : s'.tasks = s.tasks)
    (hinflight : s'.inflight = s.inflight) (hwaiters : s'.outbox.waiters <:+ s.outbox.waiters)
    {b' : Batcher} (hflight : b'.flight = b.flight) : s'.Running b' := by
  cases h with
  | idle tasks inflight flight waiters =>
    rw [waiters, suffix_nil] at hwaiters
    exact .idle (htasks.trans tasks) (hinflight.trans inflight) (hflight.trans flight) hwaiters
  | inference t tasks phase inflight flight waiters =>
    rw [waiters, suffix_nil] at hwaiters
    exact .inference t (htasks.trans tasks) phase (hinflight.trans inflight)
      (hflight.trans flight) hwaiters
  | enqueue t message tasks phase range inflight flight waiters =>
    exact .enqueue t message (htasks.trans tasks) phase range (hinflight.trans inflight)
      (hflight.trans flight) (hwaiters.trans waiters)
  | settled t tasks phase inflight flight waiters =>
    rw [waiters, suffix_nil] at hwaiters
    exact .settled t (htasks.trans tasks) phase (hinflight.trans inflight)
      (hflight.trans flight) hwaiters

lemma inv_start : start.Inv :=
  ⟨.start, [], .start rfl, rfl, Collects.start, rfl, rfl, BoundedOutbox.inv_start _, rfl, nofun,
    .idle rfl rfl rfl rfl⟩

lemma Tracks.congr (h : s.Tracks b given) (hseq : s'.seq = s.seq) (hbuffer : s'.buffer = s.buffer)
    (hdrained : s'.drained = s.drained) (houtbox : s'.outbox = s.outbox)
    (hcalls : s'.calls = s.calls) (hclosed : s'.closed = s.closed) (htasks : s'.tasks = s.tasks)
    (hinflight : s'.inflight = s.inflight) : s'.Tracks b given where
  seq := hseq.trans h.seq
  collects := hbuffer ▸ h.collects
  drained := hdrained.trans h.drained
  responses := h.responses
  outbox := by rw [houtbox, hcalls]; exact h.outbox
  depth := by rw [houtbox]; exact h.depth
  closed := by rw [houtbox, hclosed]; exact h.closed
  running := h.running.congr s' htasks hinflight (houtbox ▸ suffix_refl _) rfl

lemma Tracks.close (h : s.Tracks b given) : s.close.Tracks b given where
  seq := h.seq
  collects := h.collects
  drained := h.drained
  responses := h.responses
  outbox := h.outbox.close
  depth := h.depth
  closed := fun _ => rfl
  running := by
    refine h.running.congr _ ?_ ?_ ?_ ?_
    exacts [rfl, rfl, nil_suffix, rfl]

lemma Tracks.closeWith (h : s.Tracks b given) (code : ℕ) (reason : String) :
    (s.closeWith code reason).Tracks b given :=
  { h.close with
    outbox := h.outbox.close.close_socket rfl code reason
    running := by
      refine h.running.congr _ ?_ ?_ ?_ ?_
      exacts [rfl, rfl, nil_suffix, rfl] }

lemma Inv.handleMessage (h : s.Inv) (message : Inbound) (nowMs random : Millis) :
    (s.handleMessage env message nowMs random).Inv := by
  obtain ⟨b, given, hb, htracks⟩ := h
  have hclose (code : ℕ) (reason : String) : (s.closeWith code reason).Inv :=
    ⟨b, given, hb, htracks.closeWith code reason⟩
  cases message with
  | Text text =>
    simp only [Session.handleMessage]
    split_ifs
    · exact ⟨b, given, hb, htracks⟩
    · exact ⟨b, given, hb, htracks.congr rfl rfl rfl rfl rfl rfl rfl rfl⟩
    · exact hclose _ _
    · exact hclose _ _
  | Binary bytes =>
    simp only [Session.handleMessage]
    split_ifs
    · exact ⟨b, given, hb, htracks⟩
    · exact hclose _ _
    · exact hclose _ _
    · exact hclose _ _
    · refine ⟨b.receive, given, hb.step (.receive b), ?_⟩
      exact
        { htracks with
          seq := congrArg (· + 1) htracks.seq
          collects := htracks.collects.receive (congrArg (· + 1) htracks.seq)
          running := by
            refine htracks.running.congr _ ?_ ?_ ?_ ?_
            exacts [rfl, rfl, suffix_refl _, rfl] }

lemma Inv.flushDue (h : s.Inv) (flushLatenessMs startedAtMs : Millis) :
    (s.flushDue flushLatenessMs startedAtMs).Inv := by
  obtain ⟨b, given, hb, htracks⟩ := h
  have hsame : s.Inv := ⟨b, given, hb, htracks⟩
  unfold Session.flushDue
  split_ifs with hguard
  · exact hsame
  · split
    case h_2 => exact hsame
    case h_1 oldest newest hfirst hlast =>
      simp only [Bool.or_eq_true, not_or, Bool.not_eq_true, Option.isSome_eq_false_iff,
        Option.isNone_iff_eq_none] at hguard
      obtain ⟨⟨hinflight, hne⟩, -⟩ := hguard
      obtain ⟨holdest, hnewest⟩ := htracks.collects.range hfirst hlast
      have hlt := htracks.collects.lt (by simpa using hne)
      cases htracks.running with
      | idle tasks inflight flight waiters =>
        refine ⟨b.take, given, hb.step (.take flight hlt), ?_⟩
        exact
          { htracks with
            collects := Collects.take b
            drained := by
              rw [Batcher.batches_take flight, htracks.drained]
              simp only [Batch.range, holdest, hnewest]
            running := .inference _ (by rw [tasks]; rfl) rfl rfl
              (by simp only [Batch.range, holdest, hnewest]; rfl) waiters }
      | inference t tasks phase inflight | enqueue t message tasks phase range inflight
      | settled t tasks phase inflight => rw [hinflight] at inflight; cases inflight

variable {socket : SocketState} {t : Task} {task : ℕ}

lemma Inv.enqueue (hb : Batcher.system.Reachable b) (htracks : s.Tracks b given)
    (tasks : s.tasks = [t]) (inflight : s.inflight = some t.id)
    (flight : b.flight = some t.batch.range) (waiters : s.outbox.waiters = [])
    {message : Message Rms Millis} (range : message.range = t.batch.range)
    (h : s.enqueue t.id message socket = some s') : s'.Inv := by
  obtain ⟨r, henqueue, h⟩ := Option.bind_eq_some_iff.mp h
  obtain ⟨outbox, rfl, hkeeps, hwaiters, hinv⟩ | ⟨outbox, calls, rfl, hkeeps, hwaiters, hinv⟩ :=
    htracks.outbox.enqueue waiters henqueue
  · cases h
    refine ⟨b, given, hb, ?_⟩
    exact
      { htracks with
        outbox := hinv
        depth := hkeeps.depth.trans htracks.depth
        closed := fun hclosed => hkeeps.closed (htracks.closed hclosed)
        running := .enqueue { t with phase := .Enqueue message } message (by simp [setPhase, tasks])
          rfl range inflight flight (hwaiters ▸ suffix_refl _) }
  · cases h
    refine ⟨b.answer t.batch.range, given ++ [message], hb.step (.answer flight), ?_⟩
    exact
      { htracks with
        collects := htracks.collects.answer _
        drained := htracks.drained.trans (Batcher.batches_answer flight).symm
        responses := by
          rw [map_append, htracks.responses, map_singleton, range]
          rfl
        outbox := hinv
        depth := hkeeps.depth.trans htracks.depth
        closed := fun hclosed => hkeeps.closed (htracks.closed hclosed)
        running := .settled { t with phase := .Settled } (by simp [setPhase, tasks]) rfl inflight
          rfl hwaiters }

lemma eq_of_find {t t' : Task} (tasks : s.tasks = [t'])
    (h : s.tasks.find? (fun t => t.id = task) = some t) : t' = t ∧ t.id = task := by
  rw [tasks] at h
  have hmem := mem_of_find?_eq_some h
  have hid := List.find?_some h
  exact ⟨(mem_singleton.mp hmem).symm, by simpa using hid⟩

lemma Inv.settle (hs : s.Inv)
    (hfind : s.tasks.find? (fun t => t.id = task) = some t) (hphase : t.phase = .Inference)
    {result : Except Rejection (Prediction Rms)} {nowMs : Millis}
    (h : s.settle env t result nowMs socket = some s') : s'.Inv := by
  obtain ⟨b, given, hb, htracks⟩ := hs
  cases htracks.running with
  | idle tasks => simp [tasks] at hfind
  | enqueue t' message tasks phase | settled t' tasks phase =>
    obtain ⟨rfl, -⟩ := eq_of_find tasks hfind
    cases phase.symm.trans hphase
  | inference t' tasks phase inflight flight waiters =>
    obtain ⟨rfl, -⟩ := eq_of_find tasks hfind
    unfold Session.settle at h
    split_ifs at h with hclosed
    · -- the session is closed, and the response is not even built
      cases h
      let response := s.buildErrorMessage t' (Rejection.Other "").details nowMs
      refine ⟨b.answer t'.batch.range, given ++ [response], hb.step (.answer flight), ?_⟩
      exact
        { htracks with
          collects := htracks.collects.answer _
          drained := htracks.drained.trans (Batcher.batches_answer flight).symm
          responses := by
            rw [map_append, htracks.responses]
            rfl
          outbox := htracks.outbox.discard (htracks.closed hclosed) response
          running := .settled { t' with phase := .Settled } (by simp [setPhase, tasks]) rfl
            inflight rfl waiters }
    · split at h
      · exact Inv.enqueue hb htracks tasks inflight flight waiters rfl h
      · exact Inv.enqueue hb htracks tasks inflight flight waiters rfl h

lemma Inv.woken (hs : s.Inv) {message : Message Rms Millis}
    (hfind : s.tasks.find? (fun t => t.id = task) = some t) (hphase : t.phase = .Enqueue message)
    (hwaits : task ∉ s.outbox.waiters) (h : s.enqueue task message socket = some s') : s'.Inv := by
  obtain ⟨b, given, hb, htracks⟩ := hs
  cases htracks.running with
  | idle tasks => simp [tasks] at hfind
  | inference t' tasks phase | settled t' tasks phase =>
    obtain ⟨rfl, -⟩ := eq_of_find tasks hfind
    cases phase.symm.trans hphase
  | enqueue t' message' tasks phase range inflight flight waiters =>
    obtain ⟨rfl, rfl⟩ := eq_of_find tasks hfind
    cases phase.symm.trans hphase
    obtain hnil | hwaiting := suffix_cons_iff.mp waiters
    · exact absurd (hnil ▸ mem_singleton_self _) hwaits
    · exact Inv.enqueue hb htracks tasks inflight flight (suffix_nil.mp hwaiting) range h

lemma Inv.finish (hs : s.Inv)
    (hfind : s.tasks.find? (fun t => t.id = task) = some t) (hphase : t.phase = .Settled) :
    (s.finish task).Inv := by
  obtain ⟨b, given, hb, htracks⟩ := hs
  cases htracks.running with
  | idle tasks => simp [tasks] at hfind
  | inference t' tasks phase | enqueue t' message tasks phase =>
    obtain ⟨rfl, -⟩ := eq_of_find tasks hfind
    cases phase.symm.trans hphase
  | settled t' tasks phase inflight flight waiters =>
    obtain ⟨rfl, rfl⟩ := eq_of_find tasks hfind
    refine ⟨b, given, hb, ?_⟩
    exact
      { htracks with
        running := .idle (by simp [Session.finish, tasks]) (by simp [Session.finish, inflight])
          flight waiters }

theorem inv_inductive (env : Env) : (system env).Inductive Inv where
  init := by
    rintro s rfl
    exact inv_start
  step := by
    intro s e s' hs hstep
    cases e with
    | HandleMessage message nowMs random =>
      cases hstep
      exact hs.handleMessage message nowMs random
    | FlushTimer nowMs startedAtMs =>
      simp only [system, ofFun, step] at hstep
      split_ifs at hstep
      cases hstep
      obtain ⟨b, given, hb, htracks⟩ := hs
      refine Inv.flushDue ⟨b, given, hb, ?_⟩ _ _
      exact htracks.congr rfl rfl rfl rfl rfl rfl rfl rfl
    | Inference task result nowMs socket =>
      obtain ⟨t, hfind, h⟩ := Option.bind_eq_some_iff.mp hstep
      split at h
      case h_2 => cases h
      case h_1 hphase => exact hs.settle hfind hphase h
    | Woken task socket =>
      obtain ⟨t, hfind, h⟩ := Option.bind_eq_some_iff.mp hstep
      split at h
      case h_2 => cases h
      case h_1 message hphase =>
        split_ifs at h with hwaits
        exact hs.woken hfind hphase hwaits h
    | Finally task =>
      obtain ⟨t, hfind, h⟩ := Option.bind_eq_some_iff.mp hstep
      split at h
      case h_2 => cases h
      case h_1 hphase =>
        cases h
        exact hs.finish hfind hphase
    | Drain socket =>
      obtain ⟨⟨outbox, calls⟩, hdrain, h⟩ := Option.bind_eq_some_iff.mp hstep
      cases h
      obtain ⟨b, given, hb, htracks⟩ := hs
      obtain ⟨hkeeps, hsuffix⟩ := BoundedOutbox.drain_keeps hdrain
      refine ⟨b, given, hb, ?_⟩
      exact
        { htracks with
          outbox := htracks.outbox.drain hdrain
          depth := hkeeps.depth.trans htracks.depth
          closed := fun hclosed => hkeeps.closed (htracks.closed hclosed)
          running := by
            refine htracks.running.congr _ ?_ ?_ ?_ ?_
            exacts [rfl, rfl, hsuffix, rfl] }
    | Close =>
      cases hstep
      obtain ⟨b, given, hb, htracks⟩ := hs
      exact ⟨b, given, hb, htracks.close⟩

def outstanding (s : Session) : List Task := s.tasks.filter fun t => t.phase matches .Inference

theorem session_safe (hs : (system env).Reachable s) :
    s.outstanding.length ≤ 1 ∧
      ((BoundedOutbox.accepted s.calls).map Message.range <+: s.drained ∧
        ∃ k, Tiles ((BoundedOutbox.accepted s.calls).map Message.range) k) ∧
      BoundedOutbox.DropCloses s.calls ∧
      s.outbox.occupiedSlots ≤ partialChannelDepth ∧
      ∀ task ∈ s.outbox.waiters,
        s.outbox.closed = false ∧ partialChannelDepth ≤ s.outbox.occupiedSlots := by
  obtain ⟨b, given, hb, htracks⟩ := (inv_inductive env).reachable hs
  have hbegin : (BoundedOutbox.accepted s.calls).map Message.range <+: b.batches := by
    refine (htracks.outbox.begin.map Message.range).trans ?_
    rw [htracks.responses]
    exact prefix_append _ _
  refine ⟨?_, ⟨htracks.drained ▸ hbegin, ?_⟩, htracks.outbox.drops, ?_, ?_⟩
  · have hsingle : s.tasks.length ≤ 1 := by
      cases htracks.running with
      | idle tasks | inference t tasks | enqueue t message tasks | settled t tasks => simp [tasks]
    exact (length_filter_le _ _).trans hsingle
  · obtain ⟨k, -, hk⟩ := (Batcher.tiles hb).of_isPrefix hbegin
    exact ⟨k, hk⟩
  · exact htracks.depth ▸ htracks.outbox.occupied
  · intro task htask
    exact htracks.depth ▸ htracks.outbox.parked (ne_nil_of_mem htask)

def defaultEnv : Env := ⟨⟨4, 75, 1000, 0, 2000⟩, fun text => text = startJson⟩

def twoFrames : List Event :=
  [.HandleMessage (.Text startJson) 0 0, .HandleMessage (.Binary (List.replicate 640 0)) 20 0,
    .FlushTimer 1000 1000, .Inference 0 (.ok ⟨0, 0, 0, 320, "", 640⟩) 1100 ⟨0, [-1]⟩, .Finally 0,
    .HandleMessage (.Binary (List.replicate 640 0)) 1200 0, .FlushTimer 2000 2000,
    .Inference 1 (.error (.Other "reset")) 2100 ⟨0, [0]⟩]

theorem session_safe_twoFrames :
    ∃ s, (system defaultEnv).Reachable s ∧ s.calls.length = 3 ∧
      (BoundedOutbox.accepted s.calls).map Message.range = [⟨1, 1⟩] ∧
      BoundedOutbox.DropCloses s.calls := by
  obtain ⟨s, hreach, hcalls, haccepted⟩ : ∃ s, (system defaultEnv).Reachable s ∧
      s.calls.length = 3 ∧ (BoundedOutbox.accepted s.calls).map Message.range = [⟨1, 1⟩] :=
    Reachable.exists_of_exec twoFrames (by decide +kernel)
  exact ⟨s, hreach, hcalls, haccepted, (session_safe hreach).2.2.1⟩

end Session

end SttBench.TypescriptBun
