import SttBench.Core.Batcher
import SttBench.Wire.Messages

/-!
# scala-pekko: the session actor

It handles one message of its mailbox at a time.
-/

namespace SttBench.ScalaPekko

open Ascii Tiling TransitionSystem Wire List

abbrev Nanos := ℤ

abbrev Rms := UInt64

def stashCapacity : ℕ := 1024

structure Config where
  cpuPasses : ℕ
  modelDelayMs : ℕ
  flushInterval : Nanos
  flushPhaseJitter : Nanos

structure BatchContext where
  oldestSeq : ℕ
  newestSeq : ℕ
  frames : ℕ
  bodyBytes : ℕ
  flushLateness : Nanos
  startedAtNanos : Nanos
  oldestReceivedAtNanos : Nanos
  newestReceivedAtNanos : Nanos

def BatchContext.range (ctx : BatchContext) : Range := ⟨ctx.oldestSeq, ctx.newestSeq⟩

inductive Rejection
  | InferenceFailure (failure : Failure)
  | Other (message : Option String) (simpleName : String)

def Rejection.failure : Rejection → Failure
  | .InferenceFailure failure => failure
  | .Other message simpleName =>
    ⟨.InferenceRequest, .ConnectionReset, message.getD simpleName, none, true⟩

inductive Kind
  | Text
  | Binary
deriving DecidableEq, Repr

inductive Strict
  | Text (text : String)
  | Binary (data : Bytes)

def Strict.kind : Strict → Kind
  | .Text _ => .Text
  | .Binary _ => .Binary

inductive WsMessage
  | Strict (message : Strict)
  | Streamed (kind : Kind)

structure Collecting where
  position : ℕ
  kind : Kind

def Kind.failure : Kind → ℕ × String
  | .Text => (closeProtocolError, reasonNeedStart)
  | .Binary => (closeUnsupportedData, reasonBadFrameSize)

inductive QueueOfferResult
  | Enqueued
  | Dropped
  | QueueClosed
  | Failure
deriving DecidableEq, Repr

inductive Behavior
  | Normal
  | AwaitingStrict
deriving DecidableEq, Repr

structure Actor where
  behavior : Behavior
  stopped : Bool
  started : Bool
  inflight : Bool
  seq : ℕ
  buffer : List (Frame Nanos)
  expectedNextFlushNanos : Nanos
  pendingOutbound : Option (Message Rms Nanos)
  /-- The stashed messages, with their positions on the wire. -/
  stash : List (ℕ × WsMessage)
  /-- `closed` of the outbox. -/
  outboxClosed : Bool
  closeIntent : Option (ℕ × String)
  /-- The outbound queue has been completed, or its stream has ended. -/
  queueDone : Bool
  /-- The futures that are running. -/
  collecting : List Collecting
  inferring : List BatchContext
  /-- The number of WebSocket messages that have arrived. -/
  arrived : ℕ
  /-- The positions on the wire of the frames recorded, in order of `seq`. -/
  recorded : List ℕ
  accepted : List (Message Rms Nanos)
  drained : List Range

structure Env where
  config : Config
  decodeStartMessage : String → Bool

inductive Command
  | WsMessage (message : WsMessage) (now : Nanos) (random : ℚ)
  | WsClosed
  /-- A collection has succeeded; `clock` is the time at which the message of a position is
  handled. -/
  | StrictReady (k : ℕ) (message : Strict) (clock : ℕ → Nanos) (random : ℚ)
  | CloseRequested (k : ℕ)
  | FlushTick (now : Nanos) (offer : QueueOfferResult)
  | InferenceDone (k : ℕ) (result : Except Rejection (Prediction Rms)) (now : Nanos)
      (offer : QueueOfferResult)
  /-- The stream behind the outbound queue ends. -/
  | QueueDone

namespace Actor

def start : Actor :=
  ⟨.Normal, false, false, false, 0, [], 0, none, [], false, none, false, [], [], 0, [], [], []⟩

/-! ## The outbox -/

def sendText (s : Actor) (payload : Message Rms Nanos) (offer : QueueOfferResult) :
    Option (Bool × Actor) :=
  if s.outboxClosed then some (true, s)
  else
    match s.queueDone, offer with
    | false, .Enqueued => some (true, { s with accepted := s.accepted ++ [payload] })
    | false, .Dropped => some (false, s)
    | true, .QueueClosed | true, .Failure => some (true, s)
    | _, _ => none

def completeOutbox (s : Actor) : Actor := { s with outboxClosed := true, queueDone := true }

def stop (s : Actor) : Actor := { s.completeOutbox with stopped := true }

def closeWith (s : Actor) (code : ℕ) (reason : String) : Actor :=
  { s with closeIntent := if s.outboxClosed then s.closeIntent else some (code, reason) }.stop

/-! ## WebSocket messages -/

def scheduleFlush (config : Config) (s : Actor) (now : Nanos) (random : ℚ) : Actor :=
  let jitterNanos := if config.flushPhaseJitter = 0 then 0 else ⌊random * config.flushPhaseJitter⌋
  { s with expectedNextFlushNanos := now + (config.flushInterval + jitterNanos) }

def onText (env : Env) (s : Actor) (text : String) (now : Nanos) (random : ℚ) : Actor :=
  if s.started then s.closeWith closeProtocolError reasonTextAfterStart
  else if env.decodeStartMessage text then
    { s with started := true }.scheduleFlush env.config now random
  else s.closeWith closeProtocolError reasonNeedStart

def onBinary (s : Actor) (position : ℕ) (payload : Bytes) (now : Nanos) : Actor :=
  if !s.started then s.closeWith closeProtocolError reasonNeedStart
  else if payload.length ≠ frameBytes then s.closeWith closeUnsupportedData reasonBadFrameSize
  else
    { s with
      seq := s.seq + 1
      buffer := s.buffer ++ [⟨s.seq + 1, payload, now⟩]
      recorded := s.recorded ++ [position] }

def onStrict (env : Env) (s : Actor) (position : ℕ) (now : Nanos) (random : ℚ) : Strict → Actor
  | .Text text => s.onText env text now random
  | .Binary data => s.onBinary position data now

def onWsMessage (env : Env) (s : Actor) (position : ℕ) (now : Nanos) (random : ℚ) :
    WsMessage → Actor
  | .Strict message => s.onStrict env position now random message
  | .Streamed kind =>
    { s with
      behavior := .AwaitingStrict
      collecting := s.collecting ++ [⟨position, kind⟩] }

def receiveWs (env : Env) (s : Actor) (position : ℕ) (message : WsMessage) (now : Nanos)
    (random : ℚ) : Actor :=
  match s.behavior with
  | .Normal => s.onWsMessage env position now random message
  | .AwaitingStrict =>
    if stashCapacity ≤ s.stash.length then s.stop
    else { s with stash := s.stash ++ [(position, message)] }

def unstashAll (env : Env) (s : Actor) (clock : ℕ → Nanos) (random : ℚ) : Actor :=
  s.stash.foldl
    (fun s entry =>
      if s.stopped then s else s.receiveWs env entry.1 entry.2 (clock entry.1) random)
    { s with stash := [], behavior := .Normal }

/-! ## Internal messages -/

def batchContext (s : Actor) (oldest newest : Frame Nanos) (flushLateness now : Nanos) :
    BatchContext where
  oldestSeq := oldest.seq
  newestSeq := newest.seq
  frames := s.buffer.length
  bodyBytes := (s.buffer.flatMap Frame.payload).length
  flushLateness := flushLateness
  startedAtNanos := now
  oldestReceivedAtNanos := oldest.receivedAt
  newestReceivedAtNanos := newest.receivedAt

def retryOutbound (s : Actor) (offer : QueueOfferResult) : Option Actor :=
  match s.pendingOutbound with
  | none => some s
  | some payload => do
      match ← s.sendText payload offer with
      | (true, s) => return { s with pendingOutbound := none, inflight := false }
      | (false, s) => return s

def onFlushTick (config : Config) (s : Actor) (now : Nanos) (offer : QueueOfferResult) :
    Option Actor := do
  let flushLateness := max 0 (now - s.expectedNextFlushNanos)
  let s := { s with expectedNextFlushNanos := s.expectedNextFlushNanos + config.flushInterval }
  let s ← s.retryOutbound offer
  if s.inflight then return s
  else
    match s.buffer.head?, s.buffer.getLast? with
    | some oldest, some newest =>
      let ctx := s.batchContext oldest newest flushLateness now
      return { s with
        inflight := true
        buffer := []
        inferring := s.inferring ++ [ctx]
        drained := s.drained ++ [ctx.range] }
    | _, _ => return s

def elapsed (now earlier : Nanos) : Nanos := max 0 (now - earlier)

def partialFrom (config : Config) (ctx : BatchContext) (infer : Prediction Rms) :
    Message Rms Nanos :=
  .Partial
    { oldestFrameSeq := ctx.oldestSeq
      newestFrameSeq := ctx.newestSeq
      frames := ctx.frames
      rms := infer.rms
      zeroCrossings := infer.zeroCrossings
      checksum := infer.checksum
      samples := infer.samples
      transcript := infer.transcript
      audioBytes := infer.audioBytes
      cpuPasses := config.cpuPasses
      modelDelayMs := config.modelDelayMs
      flushLateness := ctx.flushLateness
      inflightModelJobs := 0 }

def errorFrom (s : Actor) (ctx : BatchContext) (err : Failure) (now : Nanos) : Message Rms Nanos :=
  .Error
    { stage := err.stage
      kind := err.kind
      message := err.message
      oldestFrameSeq := ctx.oldestSeq
      newestFrameSeq := ctx.newestSeq
      frames := ctx.frames
      audioBytes := ctx.bodyBytes
      oldestAge := elapsed now ctx.oldestReceivedAtNanos
      newestAge := elapsed now ctx.newestReceivedAtNanos
      flushLateness := ctx.flushLateness
      inferenceElapsed := some (elapsed now ctx.startedAtNanos)
      inflightGatewayBatches := 1
      gatewayBufferFrames := s.buffer.length
      inferenceStatus := err.status
      retryable := err.retryable }

def response (config : Config) (s : Actor) (ctx : BatchContext) (now : Nanos) :
    Except Rejection (Prediction Rms) → Message Rms Nanos
  | .ok infer => partialFrom config ctx infer
  | .error rejection => s.errorFrom ctx rejection.failure now

def enqueue (s : Actor) (payload : Message Rms Nanos) (offer : QueueOfferResult) :
    Option Actor := do
  match ← s.sendText payload offer with
  | (true, s) => return { s with inflight := false }
  | (false, s) => return { s with pendingOutbound := some payload }

def receive (env : Env) (s : Actor) : Command → Option Actor
  | .WsMessage message now random =>
    some ({ s with arrived := s.arrived + 1 }.receiveWs env s.arrived message now random)
  | .WsClosed => some s.stop
  | .StrictReady k message clock random => do
      let c ← s.collecting[k]?
      let s := { s with collecting := s.collecting.eraseIdx k }
      if c.kind = message.kind then
        match s.behavior with
        | .Normal => return s
        | .AwaitingStrict =>
          let s := s.onStrict env c.position (clock c.position) random message
          return if s.stopped then s else s.unstashAll env clock random
      else none
  | .CloseRequested k => do
      let c ← s.collecting[k]?
      return { s with collecting := s.collecting.eraseIdx k }.closeWith
        c.kind.failure.1 c.kind.failure.2
  | .FlushTick now offer => if s.started then s.onFlushTick env.config now offer else none
  | .InferenceDone k result now offer => do
      let ctx ← s.inferring[k]?
      let s := { s with inferring := s.inferring.eraseIdx k }
      s.enqueue (s.response env.config ctx now result) offer
  | .QueueDone => some { s with queueDone := true }

def step (env : Env) (s : Actor) (command : Command) : Option Actor :=
  if s.stopped then none else s.receive env command

def system (env : Env) : TransitionSystem Actor Command := ofFun start (step env)

/-! ## The inflight slot -/

variable {env : Env} {s s' : Actor} {b : Batcher}

inductive Slot (inflight : Bool) (inferring : List BatchContext)
    (pending : Option (Message Rms Nanos)) (flight : Option Range) : Prop
  | free (hinflight : inflight = false) (hinferring : inferring = []) (hpending : pending = none)
      (hflight : flight = none)
  | inferring (ctx : BatchContext) (hinflight : inflight = true) (hinferring : inferring = [ctx])
      (hpending : pending = none) (hflight : flight = some ctx.range)
  | parked (payload : Message Rms Nanos) (hinflight : inflight = true)
      (hinferring : inferring = []) (hpending : pending = some payload)
      (hflight : flight = some payload.range)

structure Accepts (accepted : List (Message Rms Nanos)) (queueDone : Bool)
    (answered : List Range) : Prop where
  begin : accepted.map Message.range <+: answered
  all : queueDone = false → accepted.map Message.range = answered

structure Tracks (s : Actor) (b : Batcher) : Prop where
  seq : s.seq = b.seq
  collects : Collects Frame.seq b s.buffer
  drained : s.drained = b.batches
  /-- The frames are the messages behind the first one, in wire order. -/
  recorded : s.recorded = List.range' 1 s.seq
  accepts : Accepts s.accepted s.queueDone b.answered
  closed : s.outboxClosed = true → s.queueDone = true
  slot : Slot s.inflight s.inferring s.pendingOutbound b.flight

lemma Tracks.stop (h : s.Tracks b) : s.stop.Tracks b :=
  { h with
    accepts := ⟨h.accepts.begin, nofun⟩
    closed := fun _ => rfl }

lemma Tracks.closeWith (h : s.Tracks b) (code : ℕ) (reason : String) :
    (s.closeWith code reason).Tracks b :=
  { h.stop with closed := fun _ => rfl }

variable {offer : QueueOfferResult}

lemma Accepts.sendText {answered : List Range} (h : Accepts s.accepted s.queueDone answered)
    (hdown : s.outboxClosed = true → s.queueDone = true) {payload : Message Rms Nanos}
    {taken : Bool} (hsend : s.sendText payload offer = some (taken, s')) :
    s' = { s with accepted := s'.accepted } ∧
      if taken then Accepts s'.accepted s'.queueDone (answered ++ [payload.range]) else s' = s := by
  have hgrow : s.accepted.map Message.range <+: answered ++ [payload.range] :=
    h.begin.trans (prefix_append _ _)
  unfold Actor.sendText at hsend
  split_ifs at hsend with hclosed
  · cases hsend
    refine ⟨rfl, hgrow, fun hopen => ?_⟩
    rw [hdown hclosed] at hopen
    cases hopen
  · split at hsend
    case h_1 hdone =>
      cases hsend
      have hall : (s.accepted ++ [payload]).map Message.range = answered ++ [payload.range] := by
        rw [map_append, h.all hdone]
        rfl
      exact ⟨rfl, hall ▸ prefix_refl _, fun _ => hall⟩
    case h_2 =>
      cases hsend
      exact ⟨rfl, rfl⟩
    case h_3 hdone | h_4 hdone =>
      cases hsend
      refine ⟨rfl, hgrow, fun hopen => ?_⟩
      rw [hdone] at hopen
      cases hopen
    case h_5 => cases hsend

/-! ## The wire -/

def handled (s : Actor) : ℕ := s.seq + s.started.toNat

inductive Wire (behavior : Behavior) (collecting : List Collecting) (stash : List (ℕ × WsMessage))
    (handled arrived : ℕ) (rest : List (ℕ × WsMessage)) : Prop
  | normal (hbehavior : behavior = .Normal) (hcollecting : collecting = []) (hstash : stash = [])
      (hpositions : rest.map Prod.fst = List.range' handled rest.length)
      (harrived : arrived = handled + rest.length)
  | awaiting (c : Collecting) (hbehavior : behavior = .AwaitingStrict)
      (hcollecting : collecting = [c]) (hposition : c.position = handled)
      (hpositions : (stash ++ rest).map Prod.fst =
        List.range' (handled + 1) (stash ++ rest).length)
      (harrived : arrived = handled + 1 + (stash ++ rest).length)

def Good (s : Actor) (rest : List (ℕ × WsMessage)) : Prop :=
  ∃ b, Batcher.system.Reachable b ∧ s.Tracks b ∧
    (s.stopped = false → Wire s.behavior s.collecting s.stash s.handled s.arrived rest)

variable {rest : List (ℕ × WsMessage)}

lemma Good.stop (h : s.Good rest) (rest' : List (ℕ × WsMessage)) : s.stop.Good rest' := by
  obtain ⟨b, hb, htracks, -⟩ := h
  exact ⟨b, hb, htracks.stop, nofun⟩

lemma Tracks.onStrict (env : Env) (h : s.Tracks b) (hb : Batcher.system.Reachable b) {position : ℕ}
    (hposition : position = s.handled) (now : Nanos) (random : ℚ) (message : Strict) :
    ∃ b', Batcher.system.Reachable b' ∧ (s.onStrict env position now random message).Tracks b' ∧
      ((s.onStrict env position now random message).stopped = false →
        ∃ started seq buffer expected recorded,
          s.onStrict env position now random message =
            { s with
              started := started
              seq := seq
              buffer := buffer
              expectedNextFlushNanos := expected
              recorded := recorded } ∧
          seq + started.toNat = s.handled + 1) := by
  cases message with
  | Text text =>
    simp only [Actor.onStrict, onText]
    split_ifs with hstarted
    · exact ⟨b, hb, h.closeWith _ _, nofun⟩
    · refine ⟨b, hb, { h with }, fun _ => ⟨true, s.seq, s.buffer, _, s.recorded, rfl, ?_⟩⟩
      simp [handled, hstarted]
    · exact ⟨b, hb, h.closeWith _ _, nofun⟩
  | Binary data =>
    simp only [Actor.onStrict, onBinary]
    split_ifs with hstarted
    · exact ⟨b, hb, h.closeWith _ _, nofun⟩
    · exact ⟨b, hb, h.closeWith _ _, nofun⟩
    · have hstart : s.started = true := by simpa using hstarted
      refine ⟨b.receive, hb.step (.receive b), ?_, fun _ => ?_⟩
      · exact
          { h with
            seq := congrArg (· + 1) h.seq
            collects := h.collects.receive (congrArg (· + 1) h.seq)
            recorded := by
              rw [h.recorded, hposition, List.range'_1_concat]
              simp [handled, hstart, Nat.add_comm] }
      · refine ⟨s.started, _, _, s.expectedNextFlushNanos, _, rfl, ?_⟩
        simp only [handled]
        omega

lemma receiveWs_normal (h : s.behavior = .Normal) (position : ℕ) (message : WsMessage)
    (now : Nanos) (random : ℚ) :
    s.receiveWs env position message now random = s.onWsMessage env position now random message := by
  rw [receiveWs, h]

lemma receiveWs_awaiting (h : s.behavior = .AwaitingStrict) (position : ℕ) (message : WsMessage)
    (now : Nanos) (random : ℚ) :
    s.receiveWs env position message now random =
      if stashCapacity ≤ s.stash.length then s.stop
      else { s with stash := s.stash ++ [(position, message)] } := by
  rw [receiveWs, h]

lemma Good.receiveWs {position : ℕ} {message : WsMessage}
    (h : s.Good ((position, message) :: rest)) (hlive : s.stopped = false) (now : Nanos)
    (random : ℚ) : (s.receiveWs env position message now random).Good rest := by
  obtain ⟨b, hb, htracks, hwire⟩ := h
  cases hwire hlive with
  | normal hbehavior hcollecting hstash hpositions harrived =>
    rw [map_cons, length_cons, List.range'_succ, List.cons.injEq] at hpositions
    obtain ⟨hposition, hpositions⟩ := hpositions
    rw [length_cons] at harrived
    rw [receiveWs_normal hbehavior]
    cases message with
    | Streamed kind =>
      refine ⟨b, hb, { htracks with }, fun _ => ?_⟩
      refine .awaiting ⟨position, kind⟩ rfl ?_ hposition ?_ ?_
      · show s.collecting ++ _ = _
        rw [hcollecting, nil_append]
      · show (s.stash ++ rest).map Prod.fst =
          List.range' (s.handled + 1) (s.stash ++ rest).length
        rw [hstash, nil_append]
        exact hpositions
      · show s.arrived = s.handled + 1 + (s.stash ++ rest).length
        rw [harrived, hstash, nil_append]
        omega
    | Strict message =>
      show (s.onStrict env position now random message).Good rest
      obtain ⟨b', hb', htracks', hnext⟩ :=
        htracks.onStrict env hb hposition now random message
      refine ⟨b', hb', htracks', fun hlive' => ?_⟩
      obtain ⟨started, seq, buffer, expected, recorded, heq, hhandled⟩ := hnext hlive'
      rw [heq]
      refine .normal hbehavior hcollecting hstash ?_ ?_
      · show rest.map Prod.fst = List.range' (seq + started.toNat) rest.length
        rw [hhandled, hpositions]
      · show s.arrived = seq + started.toNat + rest.length
        omega
  | awaiting c hbehavior hcollecting hposition hpositions harrived =>
    rw [receiveWs_awaiting hbehavior]
    split_ifs
    · exact ⟨b, hb, htracks.stop, nofun⟩
    · refine ⟨b, hb, { htracks with }, fun _ => ?_⟩
      refine .awaiting c hbehavior hcollecting hposition ?_ ?_
      · show ((s.stash ++ [(position, message)]) ++ rest).map Prod.fst = List.range' _ _
        rw [append_assoc]
        exact hpositions
      · show s.arrived = s.handled + 1 + ((s.stash ++ [(position, message)]) ++ rest).length
        rw [append_assoc]
        exact harrived

lemma Good.foldl (clock : ℕ → Nanos) (random : ℚ) :
    ∀ {rest : List (ℕ × WsMessage)} {s : Actor}, s.Good rest →
      (rest.foldl (fun s entry => if s.stopped then s
        else s.receiveWs env entry.1 entry.2 (clock entry.1) random) s).Good [] := by
  intro rest
  induction rest with
  | nil =>
    intro s h
    exact h
  | cons entry rest ih =>
    intro s h
    rw [foldl_cons]
    split_ifs with hstopped
    · obtain ⟨b, hb, htracks, -⟩ := h
      refine ih ⟨b, hb, htracks, fun hlive => ?_⟩
      rw [hstopped] at hlive
      cases hlive
    · exact ih (h.receiveWs (by simpa using hstopped) (clock entry.1) random)

lemma Good.strictReady (h : s.Good []) (hlive : s.stopped = false) {k : ℕ} {c : Collecting}
    (hk : s.collecting[k]? = some c) (hbehavior : s.behavior = .AwaitingStrict)
    (message : Strict) (clock : ℕ → Nanos) (random : ℚ)
    (hs' : s' = { s with collecting := s.collecting.eraseIdx k }.onStrict env c.position
      (clock c.position) random message) :
    (if s'.stopped then s' else s'.unstashAll env clock random).Good [] := by
  obtain ⟨b, hb, htracks, hwire⟩ := h
  cases hwire hlive with
  | normal hnormal => cases hbehavior.symm.trans hnormal
  | awaiting c' _ hcollecting hposition hpositions harrived =>
    rw [hcollecting] at hk hs'
    obtain ⟨hlt, hc⟩ := List.getElem?_eq_some_iff.mp hk
    obtain rfl : k = 0 := by simpa using hlt
    obtain rfl : c' = c := by simpa using hc
    have herased : { s with collecting := [] }.Tracks b := { htracks with }
    obtain ⟨b', hb', htracks', hnext⟩ :=
      herased.onStrict env hb hposition (clock c'.position) random message
    have hs'' : s' = { s with collecting := [] }.onStrict env c'.position (clock c'.position)
        random message := hs'
    rw [← hs''] at htracks' hnext
    split_ifs with hstopped
    · refine ⟨b', hb', htracks', fun hlive' => ?_⟩
      rw [hstopped] at hlive'
      cases hlive'
    · obtain ⟨started, seq, buffer, expected, recorded, heq, hhandled⟩ :=
        hnext (by simpa using hstopped)
      change seq + started.toNat = s.handled + 1 at hhandled
      refine Good.foldl clock random ⟨b', hb', { htracks' with }, fun _ => ?_⟩
      rw [heq]
      refine .normal rfl rfl rfl ?_ ?_
      · show s.stash.map Prod.fst = List.range' (seq + started.toNat) s.stash.length
        rw [hhandled]
        simpa using hpositions
      · show s.arrived = seq + started.toNat + s.stash.length
        rw [hhandled]
        simpa using harrived

/-! ## Internal messages -/

lemma Tracks.retryOutbound (h : s.Tracks b) (hb : Batcher.system.Reachable b)
    (hretry : s.retryOutbound offer = some s') :
    ∃ b', Batcher.system.Reachable b' ∧ s'.Tracks b' ∧
      s' = { s with
        accepted := s'.accepted
        pendingOutbound := s'.pendingOutbound
        inflight := s'.inflight } := by
  unfold Actor.retryOutbound at hretry
  split at hretry
  case h_1 =>
    cases hretry
    exact ⟨b, hb, h, rfl⟩
  case h_2 payload hpending =>
    obtain ⟨⟨taken, s₁⟩, hsend, hretry⟩ := Option.bind_eq_some_iff.mp hretry
    obtain ⟨heq, haccepts⟩ := h.accepts.sendText h.closed hsend
    cases taken with
    | false =>
      obtain rfl := Option.some.inj hretry
      obtain rfl : s₁ = s := haccepts
      exact ⟨b, hb, h, rfl⟩
    | true =>
      cases hretry
      cases h.slot with
      | free _ _ hnone | inferring _ _ _ hnone => cases hpending.symm.trans hnone
      | parked payload' hinflight hinferring hpending' hflight =>
        obtain rfl : payload = payload' := Option.some.inj (hpending.symm.trans hpending')
        rw [heq] at haccepts ⊢
        refine ⟨b.answer payload.range, hb.step (.answer hflight), ?_, rfl⟩
        exact
          { h with
            collects := h.collects.answer _
            drained := h.drained.trans (Batcher.batches_answer hflight).symm
            accepts := haccepts
            slot := .free rfl hinferring rfl rfl }

lemma Good.onFlushTick (h : s.Good []) {now : Nanos}
    (htick : s.onFlushTick env.config now offer = some s') : s'.Good [] := by
  obtain ⟨b, hb, htracks, hwire⟩ := h
  obtain ⟨s₁, hretry, htick⟩ := Option.bind_eq_some_iff.mp htick
  have hadvanced : { s with
      expectedNextFlushNanos := s.expectedNextFlushNanos + env.config.flushInterval }.Tracks b :=
    { htracks with }
  obtain ⟨b₁, hb₁, htracks₁, heq⟩ := hadvanced.retryOutbound hb hretry
  have hwire₁ : s₁.stopped = false →
      Wire s₁.behavior s₁.collecting s₁.stash s₁.handled s₁.arrived [] := by
    rw [heq]
    exact hwire
  split_ifs at htick with hinflight
  · cases htick
    exact ⟨b₁, hb₁, htracks₁, hwire₁⟩
  · split at htick
    case h_2 =>
      cases htick
      exact ⟨b₁, hb₁, htracks₁, hwire₁⟩
    case h_1 oldest newest hfirst hlast =>
      cases htick
      obtain ⟨holdest, hnewest⟩ := htracks₁.collects.range hfirst hlast
      have hlt : b₁.taken < b₁.seq := by
        refine htracks₁.collects.lt ?_
        rintro hnil
        simp [hnil] at hfirst
      have hrange : (s₁.batchContext oldest newest (max 0 (now - s.expectedNextFlushNanos))
          now).range = ⟨b₁.taken + 1, b₁.seq⟩ := by
        simp only [BatchContext.range, batchContext, holdest, hnewest]
      cases htracks₁.slot with
      | inferring _ htrue | parked _ htrue => exact absurd htrue hinflight
      | free _ hinferring hpending hflight =>
        refine ⟨b₁.take, hb₁.step (.take hflight hlt), ?_, hwire₁⟩
        exact
          { htracks₁ with
            collects := Collects.take b₁
            drained := by
              rw [Batcher.batches_take hflight, ← hrange, ← htracks₁.drained]
            slot := .inferring _ rfl (by rw [hinferring]; rfl) hpending
              (by rw [hrange]; rfl) }

lemma Good.inferenceDone (h : s.Good []) {k : ℕ} {ctx : BatchContext}
    (hk : s.inferring[k]? = some ctx) {payload : Message Rms Nanos}
    (hpayload : payload.range = ctx.range)
    (henqueue : { s with inferring := s.inferring.eraseIdx k }.enqueue payload offer = some s') :
    s'.Good [] := by
  obtain ⟨b, hb, htracks, hwire⟩ := h
  cases htracks.slot with
  | free _ hnil | parked _ _ hnil => simp [hnil] at hk
  | inferring ctx' hinflight hinferring hpending hflight =>
    rw [hinferring] at hk henqueue
    obtain ⟨hlt, hctx⟩ := List.getElem?_eq_some_iff.mp hk
    obtain rfl : k = 0 := by simpa using hlt
    obtain rfl : ctx' = ctx := by simpa using hctx
    obtain ⟨⟨taken, s₁⟩, hsend, henqueue⟩ := Option.bind_eq_some_iff.mp henqueue
    obtain ⟨heq, haccepts⟩ :=
      Accepts.sendText (s := { s with inferring := [] }) htracks.accepts htracks.closed hsend
    cases taken with
    | false =>
      cases henqueue
      obtain rfl : s₁ = { s with inferring := [] } := haccepts
      refine ⟨b, hb, ?_, hwire⟩
      exact { htracks with slot := .parked payload hinflight rfl rfl (hpayload ▸ hflight) }
    | true =>
      cases henqueue
      rw [heq] at haccepts ⊢
      refine ⟨b.answer payload.range, hb.step (.answer (hpayload ▸ hflight)), ?_, hwire⟩
      exact
        { htracks with
          collects := htracks.collects.answer _
          drained := htracks.drained.trans (Batcher.batches_answer (hpayload ▸ hflight)).symm
          accepts := haccepts
          slot := .free rfl rfl hpending rfl }

/-! ## Every run -/

lemma Good.arrive (h : s.Good []) (hlive : s.stopped = false) (message : WsMessage) :
    { s with arrived := s.arrived + 1 }.Good [(s.arrived, message)] := by
  obtain ⟨b, hb, htracks, hwire⟩ := h
  refine ⟨b, hb, { htracks with }, fun _ => ?_⟩
  cases hwire hlive with
  | normal hbehavior hcollecting hstash hpositions harrived =>
    refine .normal hbehavior hcollecting hstash ?_ ?_
    · show [s.arrived] = [s.handled]
      rw [harrived]
      rfl
    · show s.arrived + 1 = s.handled + 1
      rw [harrived]
      rfl
  | awaiting c hbehavior hcollecting hposition hpositions harrived =>
    rw [append_nil] at hpositions harrived
    refine .awaiting c hbehavior hcollecting hposition ?_ ?_
    · show (s.stash ++ [(s.arrived, message)]).map Prod.fst =
        List.range' (s.handled + 1) (s.stash ++ [(s.arrived, message)]).length
      rw [map_append, hpositions, length_append, length_singleton,
        List.range'_1_concat, harrived]
      rfl
    · show s.arrived + 1 = s.handled + 1 + (s.stash ++ [(s.arrived, message)]).length
      rw [harrived, length_append, length_singleton]
      omega

lemma Good.awaiting_of_collecting (h : s.Good []) (hlive : s.stopped = false) {k : ℕ}
    {c : Collecting} (hk : s.collecting[k]? = some c) : s.behavior ≠ .Normal := by
  obtain ⟨b, -, -, hwire⟩ := h
  cases hwire hlive with
  | normal _ hcollecting => simp [hcollecting] at hk
  | awaiting c' hbehavior => simp [hbehavior]

lemma response_range (config : Config) (s : Actor) (ctx : BatchContext) (now : Nanos)
    (result : Except Rejection (Prediction Rms)) :
    (s.response config ctx now result).range = ctx.range := by
  cases result <;> rfl

lemma receive_of_step {command : Command} (h : s.step env command = some s') :
    s.stopped = false ∧ s.receive env command = some s' := by
  rw [step] at h
  split_ifs at h with hstopped
  exact ⟨by simpa using hstopped, h⟩

theorem good_inductive (env : Env) : (system env).Inductive fun s => s.Good [] where
  init := by
    rintro s rfl
    refine ⟨.start, .start rfl, ⟨rfl, Collects.start, rfl, rfl, ⟨prefix_refl _, fun _ => rfl⟩,
      nofun, .free rfl rfl rfl rfl⟩, fun _ => .normal rfl rfl rfl rfl rfl⟩
  step := by
    intro s command s' hs hstep
    obtain ⟨hlive, hstep⟩ := receive_of_step hstep
    cases command with
    | WsMessage message now random =>
      cases hstep
      exact Good.receiveWs (s := { s with arrived := s.arrived + 1 }) (hs.arrive hlive message)
        hlive now random
    | WsClosed =>
      cases hstep
      exact hs.stop []
    | StrictReady k message clock random =>
      obtain ⟨c, hk, hstep⟩ := Option.bind_eq_some_iff.mp hstep
      split at hstep
      case isFalse => cases hstep
      case isTrue =>
        dsimp only at hstep
        split at hstep
        case h_1 hnormal => exact absurd hnormal (hs.awaiting_of_collecting hlive hk)
        case h_2 hawaiting =>
          cases hstep
          exact hs.strictReady hlive hk hawaiting message clock random rfl
    | CloseRequested k =>
      obtain ⟨c, -, hstep⟩ := Option.bind_eq_some_iff.mp hstep
      cases hstep
      obtain ⟨b, hb, htracks, -⟩ := hs
      have herased : { s with collecting := s.collecting.eraseIdx k }.Tracks b := { htracks with }
      exact ⟨b, hb, herased.closeWith _ _, nofun⟩
    | FlushTick now offer =>
      change (if s.started then s.onFlushTick env.config now offer else none) = some s' at hstep
      split_ifs at hstep
      exact hs.onFlushTick hstep
    | InferenceDone k result now offer =>
      obtain ⟨ctx, hk, hstep⟩ := Option.bind_eq_some_iff.mp hstep
      exact hs.inferenceDone hk (response_range _ _ _ _ _) hstep
    | QueueDone =>
      cases hstep
      obtain ⟨b, hb, htracks, hwire⟩ := hs
      refine ⟨b, hb, ?_, hwire⟩
      exact { htracks with accepts := ⟨htracks.accepts.begin, nofun⟩, closed := fun _ => rfl }

theorem actor_in_order (hs : (system env).Reachable s) :
    s.recorded = List.range' 1 s.seq ∧
      (s.inflight = true ↔ s.inferring ≠ [] ∨ s.pendingOutbound ≠ none) ∧
      s.accepted.map Message.range <+: s.drained ∧
      ∃ k, Tiles (s.accepted.map Message.range) k := by
  obtain ⟨b, hb, htracks, -⟩ := (good_inductive env).reachable hs
  have hbegin : s.accepted.map Message.range <+: b.batches :=
    htracks.accepts.begin.trans (prefix_append _ _)
  refine ⟨htracks.recorded, ?_, htracks.drained ▸ hbegin, ?_⟩
  · cases htracks.slot with
    | free hinflight hinferring hpending => simp [hinflight, hinferring, hpending]
    | inferring ctx hinflight hinferring => simp [hinflight, hinferring]
    | parked payload hinflight _ hpending => simp [hinflight, hpending]
  · obtain ⟨k, -, hk⟩ := (Batcher.tiles hb).of_isPrefix hbegin
    exact ⟨k, hk⟩

def defaultEnv : Env := ⟨⟨4, 75, 1000, 0⟩, fun text => text = startJson⟩

def fragmented : List Command :=
  [.WsMessage (.Strict (.Text startJson)) 0 0, .WsMessage (.Streamed .Binary) 20 0,
    .WsMessage (.Strict (.Binary (List.replicate 640 0))) 40 0,
    .StrictReady 0 (.Binary (List.replicate 640 0)) (fun position => 40 + position) 0,
    .FlushTick 1000 .Enqueued, .InferenceDone 0 (.ok ⟨0, 0, 0, 320, "", 1280⟩) 1100 .Dropped,
    .FlushTick 2000 .Enqueued]

theorem actor_in_order_fragmented :
    ∃ s, (system defaultEnv).Reachable s ∧
      s.accepted.map Message.range = [⟨1, 2⟩] ∧ s.seq = 2 ∧ s.recorded = List.range' 1 s.seq := by
  obtain ⟨s, hreach, haccepted, hseq⟩ : ∃ s, (system defaultEnv).Reachable s ∧
      s.accepted.map Message.range = [⟨1, 2⟩] ∧ s.seq = 2 :=
    Reachable.exists_of_exec fragmented (by decide +kernel)
  exact ⟨s, hreach, haccepted, hseq, (actor_in_order hreach).1⟩

end Actor

end SttBench.ScalaPekko
