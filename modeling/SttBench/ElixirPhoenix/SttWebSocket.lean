import SttBench.Core.Batcher
import SttBench.Core.Binary64
import SttBench.Wire.Messages

/-!
# elixir-phoenix: the session process

It handles one message at a time; a task reports once, at any time.
-/

namespace SttBench.ElixirPhoenix

open Ascii Tiling TransitionSystem Wire List

abbrev Micros := ℤ

def frameMs : ℚ := 20
def receiveTimeoutMs : ℕ := 2000

def reasonBacklogExceeded : String := "gateway overloaded: frame backlog limit exceeded"

def maxBufferedFrames (flushIntervalMs flushPhaseJitterMs receiveTimeoutMs : ℤ) : Option ℤ :=
  let longestWaitMs := max (flushIntervalMs + flushPhaseJitterMs) (receiveTimeoutMs + flushIntervalMs)
  match (Binary64.nearest longestWaitMs).div Binary64.nearest (.finite frameMs) with
  | .finite q => some (2 * ⌈q⌉)
  | _ => none

lemma maxBufferedFrames_nonneg {flushIntervalMs flushPhaseJitterMs cap : ℤ} {timeoutMs : ℕ}
    (h : maxBufferedFrames (max flushIntervalMs 1) flushPhaseJitterMs timeoutMs = some cap) :
    0 ≤ cap := by
  dsimp only [maxBufferedFrames] at h
  have hwait : 0 ≤ max (max flushIntervalMs 1 + flushPhaseJitterMs)
      (timeoutMs + max flushIntervalMs 1) := by
    refine le_max_of_le_right ?_
    omega
  split at h
  case h_2 => cases h
  case h_1 q hq =>
    cases h
    have hnonneg : 0 ≤ q := Binary64.nonneg_of_div_nearest (by exact_mod_cast hwait)
      (by norm_num [frameMs]) hq
    have := Int.ceil_nonneg hnonneg
    omega

/-- At the defaults the cap is 300 frames. -/
example : maxBufferedFrames 1000 0 receiveTimeoutMs = some 300 := by decide +kernel

inductive Opcode
  | Text
  | Binary
deriving DecidableEq, Repr

structure Context where
  oldestSeq : ℕ
  newestSeq : ℕ
  frames : ℕ
  flushLateness : Micros
  oldestReceivedAt : Micros
  newestReceivedAt : Micros

def Context.range (context : Context) : Range := ⟨context.oldestSeq, context.newestSeq⟩

structure InferenceResult (J : Type) where
  rms : J
  zeroCrossings : J
  checksum : J
  samples : J
  transcript : J
  audioBytes : J

structure ErrorPayload where
  stage : ErrorStage
  kind : ErrorKind
  message : String
  inferenceStatus : Option ℕ
  inferenceElapsed : Option Micros
  retryable : Bool

structure PartialMessage (J : Type) where
  oldestFrameSeq : ℕ
  newestFrameSeq : ℕ
  frames : ℕ
  result : InferenceResult J
  cpuPasses : ℤ
  modelDelayMs : ℤ
  flushLateness : Micros
  inflightModelJobs : ℕ

inductive Pushed (J : Type)
  | Partial (m : PartialMessage J)
  | Error (m : ErrorMessage Micros)

def Pushed.range {J : Type} : Pushed J → Range
  | .Partial m => ⟨m.oldestFrameSeq, m.newestFrameSeq⟩
  | .Error m => ⟨m.oldestFrameSeq, m.newestFrameSeq⟩

def Pushed.frames {J : Type} : Pushed J → ℕ
  | .Partial m => m.frames
  | .Error m => m.frames

structure Request where
  body : List Bytes
  cpuPasses : ℤ
  context : Context

def Request.Whole (r : Request) : Prop := r.body.length = r.context.range.size

structure Task where
  context : Context
  startedAt : Micros

inductive Status
  | Running
  | Stopped (code : ℕ) (reason : String)
  | Raised
deriving DecidableEq, Repr

structure Env where
  flushIntervalMs : ℤ
  flushPhaseJitterMs : ℤ
  cpuPasses : ℤ
  modelDelayMs : ℤ
  receiveTimeoutMs : ℕ
  startMessage : Bytes → Bool

structure Socket (J : Type) where
  seq : ℕ
  buffer : List (Frame Micros)
  buffered : ℕ
  maxBufferedFrames : ℤ
  cpuPasses : ℤ
  modelDelayMs : ℤ
  flushIntervalMs : ℤ
  flushPhaseJitterMs : ℤ
  nextDue : Option Micros
  busy : Bool
  status : Status
  /-- The tasks that have not reported. -/
  tasks : List Task
  arrived : List Bytes
  requests : List Request
  pushed : List (Pushed J)

inductive Event (J : Type)
  | In (payload : Bytes) (opcode : Opcode) (now : Micros) (random : ℤ)
  | Flush (now : Micros)
  | ComputeFinished (k : ℕ) (result : Except ErrorPayload (InferenceResult J)) (now : Micros)

namespace Socket

variable {J : Type}

def init (env : Env) : Option (Socket J) := do
  let flushIntervalMs := max env.flushIntervalMs 1
  let cap ← ElixirPhoenix.maxBufferedFrames flushIntervalMs env.flushPhaseJitterMs
    env.receiveTimeoutMs
  return {
    seq := 0
    buffer := []
    buffered := 0
    maxBufferedFrames := cap
    cpuPasses := env.cpuPasses
    modelDelayMs := env.modelDelayMs
    flushIntervalMs := flushIntervalMs
    flushPhaseJitterMs := env.flushPhaseJitterMs
    nextDue := none
    busy := false
    status := .Running
    tasks := []
    arrived := []
    requests := []
    pushed := [] }

def close (s : Socket J) (code : ℕ) (reason : String) : Socket J :=
  { s with status := .Stopped code reason }

def jitterOffsetMs (maxMs random : ℤ) : Option ℤ :=
  if maxMs = 0 then some 0 else if 0 ≤ maxMs then some (max 0 (min random maxMs)) else none

def handleIn (env : Env) (s : Socket J) (payload : Bytes) (opcode : Opcode) (now : Micros)
    (random : ℤ) : Socket J :=
  match opcode, s.nextDue with
  | .Text, none =>
    if env.startMessage payload then
      match jitterOffsetMs s.flushPhaseJitterMs random with
      | some offset => { s with nextDue := some (now + (s.flushIntervalMs + offset) * 1000) }
      | none => { s with status := .Raised }
    else s.close closeProtocolError reasonNeedStart
  | .Text, some _ => s.close closeProtocolError reasonTextAfterStart
  | .Binary, none => s.close closeProtocolError reasonNeedStart
  | .Binary, some _ =>
    if payload.length = frameBytes ∧ s.buffered < s.maxBufferedFrames then
      { s with
        seq := s.seq + 1
        buffer := ⟨s.seq + 1, payload, now⟩ :: s.buffer
        buffered := s.buffered + 1
        arrived := s.arrived ++ [payload] }
    else if payload.length = frameBytes then s.close closeTryAgainLater reasonBacklogExceeded
    else s.close closeUnsupportedData reasonBadFrameSize

def doFlush (s : Socket J) (nextDue flushLateness now : Micros) : Socket J :=
  match s.buffer, s.busy with
  | [], _ => { s with nextDue := some nextDue }
  | _, true => { s with nextDue := some nextDue }
  | newest :: older, false =>
    let batch := (newest :: older).reverse
    let oldest := batch.head (by simp [batch])
    let context : Context :=
      { oldestSeq := oldest.seq
        newestSeq := s.seq
        frames := s.seq - oldest.seq + 1
        flushLateness := flushLateness
        oldestReceivedAt := oldest.receivedAt
        newestReceivedAt := newest.receivedAt }
    { s with
      buffer := []
      buffered := 0
      nextDue := some nextDue
      busy := true
      tasks := s.tasks ++ [⟨context, now⟩]
      requests := s.requests ++ [⟨batch.map Frame.payload, s.cpuPasses, context⟩] }

def handleFlush (s : Socket J) (due now : Micros) : Socket J :=
  s.doFlush (due + s.flushIntervalMs * 1000) (max (now - due) 0) now

def response (s : Socket J) (context : Context) (now : Micros) :
    Except ErrorPayload (InferenceResult J) → Pushed J
  | .ok result =>
    .Partial
      { oldestFrameSeq := context.oldestSeq
        newestFrameSeq := context.newestSeq
        frames := context.frames
        result := result
        cpuPasses := s.cpuPasses
        modelDelayMs := s.modelDelayMs
        flushLateness := context.flushLateness
        inflightModelJobs := 0 }
  | .error payload =>
    .Error
      { stage := payload.stage
        kind := payload.kind
        message := payload.message
        oldestFrameSeq := context.oldestSeq
        newestFrameSeq := context.newestSeq
        frames := context.frames
        audioBytes := context.frames * frameBytes
        oldestAge := now - context.oldestReceivedAt
        newestAge := now - context.newestReceivedAt
        flushLateness := context.flushLateness
        inferenceElapsed := payload.inferenceElapsed
        inflightGatewayBatches := 1
        gatewayBufferFrames := s.buffered
        inferenceStatus := payload.inferenceStatus
        retryable := payload.retryable }

def handleEvent (env : Env) (s : Socket J) : Event J → Option (Socket J)
  | .In payload opcode now random => some (s.handleIn env payload opcode now random)
  | .Flush now => s.nextDue.map fun due => s.handleFlush due now
  | .ComputeFinished k result now => do
      let task ← s.tasks[k]?
      return { s with
        tasks := s.tasks.eraseIdx k
        pushed := s.pushed ++ [s.response task.context now result]
        busy := false }

def step (env : Env) (s : Socket J) (e : Event J) : Option (Socket J) :=
  match s.status with
  | .Running => s.handleEvent env e
  | _ => none

def system (J : Type) (env : Env) : TransitionSystem (Socket J) (Event J) where
  init s := init env = some s
  step s e s' := s.step env e = some s'

/-! ## The invariant -/

variable {env : Env} {s s' : Socket J} {b : Batcher}

inductive Slot (busy : Bool) (tasks : List Task) (flight : Option Range) : Prop
  | free (hbusy : busy = false) (htasks : tasks = []) (hflight : flight = none)
  | task (task : Task) (hbusy : busy = true) (htasks : tasks = [task])
      (hflight : flight = some task.context.range)
      (hframes : task.context.frames = task.context.range.size)

structure Tracks (s : Socket J) (b : Batcher) : Prop where
  seq : s.seq = b.seq
  collects : Collects Frame.seq b s.buffer.reverse
  buffered : s.buffered = s.buffer.length
  slot : Slot s.busy s.tasks b.flight
  requests : s.requests.map (fun r => r.context.range) = b.batches
  whole : ∀ r ∈ s.requests, r.Whole
  bodies : s.requests.flatMap Request.body ++ s.buffer.reverse.map Frame.payload = s.arrived
  pushed : s.pushed.map Pushed.range = b.answered
  frames : ∀ m ∈ s.pushed, m.frames = m.range.size
  capacity : (s.buffered : ℤ) ≤ s.maxBufferedFrames
  backlog : ∀ reason, s.status = .Stopped closeTryAgainLater reason →
    (s.buffered : ℤ) = s.maxBufferedFrames

def Inv (s : Socket J) : Prop := ∃ b, Batcher.system.Reachable b ∧ s.Tracks b

lemma inv_init (h : init env = some s) : s.Inv := by
  obtain ⟨cap, hcap, h⟩ := Option.bind_eq_some_iff.mp h
  cases h
  refine ⟨.start, .start rfl, ?_⟩
  exact
    { seq := rfl
      collects := Collects.start
      buffered := rfl
      slot := .free rfl rfl rfl
      requests := rfl
      whole := by simp
      bodies := rfl
      pushed := rfl
      frames := by simp
      capacity := maxBufferedFrames_nonneg hcap
      backlog := nofun }

lemma Inv.stop (hs : s.Inv) {status : Status}
    (hstatus : ∀ reason, status = .Stopped closeTryAgainLater reason →
      (s.buffered : ℤ) = s.maxBufferedFrames) : { s with status := status }.Inv := by
  obtain ⟨b, hb, htracks⟩ := hs
  exact ⟨b, hb, { htracks with backlog := hstatus }⟩

lemma Inv.due (hs : s.Inv) (nextDue : Option Micros) : { s with nextDue := nextDue }.Inv := by
  obtain ⟨b, hb, htracks⟩ := hs
  exact ⟨b, hb, { htracks with }⟩

lemma Inv.frame (hs : s.Inv) (payload : Bytes) (now : Micros) (hstatus : s.status = .Running)
    (hroom : s.buffered < s.maxBufferedFrames) :
    Inv { s with
      seq := s.seq + 1
      buffer := ⟨s.seq + 1, payload, now⟩ :: s.buffer
      buffered := s.buffered + 1
      arrived := s.arrived ++ [payload] } := by
  obtain ⟨b, hb, htracks⟩ := hs
  refine ⟨b.receive, hb.step (.receive b), ?_⟩
  exact
    { htracks with
      seq := congrArg (· + 1) htracks.seq
      collects := by
        rw [reverse_cons]
        exact htracks.collects.receive (congrArg (· + 1) htracks.seq)
      buffered := by rw [htracks.buffered, length_cons]
      bodies := by
        rw [reverse_cons, map_append, ← append_assoc, htracks.bodies]
        rfl
      capacity := by
        push_cast
        omega
      backlog := by simp [hstatus] }

lemma Inv.handleIn (hs : s.Inv) (payload : Bytes) (opcode : Opcode) (now : Micros) (random : ℤ)
    (hstatus : s.status = .Running) : (s.handleIn env payload opcode now random).Inv := by
  have hclose (code : ℕ) (reason : String) (hcode : code ≠ closeTryAgainLater) :
      (s.close code reason).Inv := by
    refine hs.stop fun _ h => absurd ?_ hcode
    exact (Status.Stopped.inj h).1
  unfold Socket.handleIn
  split
  · split_ifs
    · split
      · exact hs.due _
      · exact hs.stop nofun
    · exact hclose _ _ (by decide)
  · exact hclose _ _ (by decide)
  · exact hclose _ _ (by decide)
  · split_ifs with hframe hlength
    · exact hs.frame payload now hstatus hframe.2
    · refine hs.stop fun _ _ => ?_
      obtain ⟨b, hb, htracks⟩ := hs
      exact le_antisymm htracks.capacity (not_lt.mp fun hroom => hframe ⟨hlength, hroom⟩)
    · exact hclose _ _ (by decide)

lemma Inv.doFlush (hs : s.Inv) (hstatus : s.status = .Running)
    (nextDue flushLateness now : Micros) : (s.doFlush nextDue flushLateness now).Inv := by
  unfold Socket.doFlush
  split
  · exact hs.due _
  · exact hs.due _
  · rename_i newest older hbuffer hbusy
    obtain ⟨b, hb, htracks⟩ := hs
    cases htracks.slot with
    | task task htask => cases hbusy.symm.trans htask
    | free _ htasks hflight =>
      have hcollects := hbuffer ▸ htracks.collects
      have hne : (newest :: older).reverse ≠ [] := by simp
      have holdest : ((newest :: older).reverse.head hne).seq = b.taken + 1 :=
        hcollects.numbered.head (List.head?_eq_some_head hne)
      refine ⟨b.take, hb.step (.take hflight (hcollects.lt hne)), ?_⟩
      have hlength := hcollects.length
      have hlt := hcollects.lt hne
      exact
        { htracks with
          collects := Collects.take b
          buffered := rfl
          slot := .task _ rfl (by rw [htasks]; rfl)
            (by simp only [Batcher.take, Context.range, holdest, htracks.seq]) rfl
          requests := by
            rw [map_append, htracks.requests, Batcher.batches_take hflight]
            simp only [Context.range, map_cons, map_nil, holdest, htracks.seq]
          whole := by
            intro r hr
            rcases mem_append.mp hr with hr | hr
            · exact htracks.whole r hr
            · obtain rfl := mem_singleton.mp hr
              simp only [Request.Whole, Context.range, Range.size, length_map, holdest,
                htracks.seq]
              omega
          bodies := by
            rw [← htracks.bodies, hbuffer, flatMap_append]
            simp
          capacity := (Int.natCast_nonneg _).trans htracks.capacity
          backlog := by simp [hstatus] }

lemma range_response (s : Socket J) (context : Context) (now : Micros)
    (result : Except ErrorPayload (InferenceResult J)) :
    (s.response context now result).range = context.range := by
  cases result <;> rfl

lemma frames_response (s : Socket J) (context : Context) (now : Micros)
    (result : Except ErrorPayload (InferenceResult J)) :
    (s.response context now result).frames = context.frames := by
  cases result <;> rfl

lemma Inv.computeFinished (hs : s.Inv) {k : ℕ} {task : Task}
    (hk : s.tasks[k]? = some task) (result : Except ErrorPayload (InferenceResult J))
    (now : Micros) :
    Inv { s with
      tasks := s.tasks.eraseIdx k
      pushed := s.pushed ++ [s.response task.context now result]
      busy := false } := by
  obtain ⟨b, hb, htracks⟩ := hs
  cases htracks.slot with
  | free _ htasks => simp [htasks] at hk
  | task task' _ htasks hflight hframes =>
    obtain ⟨rfl, rfl⟩ : k = 0 ∧ task' = task := by
      rw [htasks] at hk
      simpa [List.getElem?_singleton] using hk
    refine ⟨b.answer task'.context.range, hb.step (.answer hflight), ?_⟩
    exact
      { htracks with
        collects := htracks.collects.answer _
        slot := .free rfl (by rw [htasks]; rfl) rfl
        requests := htracks.requests.trans (Batcher.batches_answer hflight).symm
        pushed := by
          rw [map_append, htracks.pushed, map_singleton, range_response]
          rfl
        frames := by
          intro m hm
          rcases mem_append.mp hm with hm | hm
          · exact htracks.frames m hm
          · obtain rfl := mem_singleton.mp hm
            rw [frames_response, range_response, hframes] }

theorem inv_inductive (env : Env) : (system J env).Inductive Inv where
  init _ h := inv_init h
  step := by
    intro s e s' hs hstep
    simp only [system, step] at hstep
    split at hstep
    case h_2 => cases hstep
    case h_1 hstatus =>
      cases e with
      | In payload opcode now random =>
        cases hstep
        exact hs.handleIn payload opcode now random hstatus
      | Flush now =>
        obtain ⟨due, -, rfl⟩ := Option.map_eq_some_iff.mp hstep
        exact hs.doFlush hstatus _ _ now
      | ComputeFinished k result now =>
        obtain ⟨task, hk, h⟩ := Option.bind_eq_some_iff.mp hstep
        cases h
        exact hs.computeFinished hk result now

/-! ## The result -/

lemma Tracks.pushed_isPrefix (h : s.Tracks b) :
    s.pushed.map (fun m => (m.range, m.frames)) <+:
      s.requests.map fun r => (r.context.range, r.body.length) := by
  have hpushed : s.pushed.map (fun m => (m.range, m.frames)) =
      b.answered.map fun r => (r, r.size) := by
    rw [← h.pushed, map_map]
    exact map_congr_left fun m hm => Prod.ext rfl (h.frames m hm)
  have hrequests : s.requests.map (fun r => (r.context.range, r.body.length)) =
      b.batches.map fun r => (r, r.size) := by
    rw [← h.requests, map_map]
    exact map_congr_left fun r hr => Prod.ext rfl (h.whole r hr)
  rw [hpushed, hrequests]
  exact (prefix_append _ _).map _

lemma Tracks.buffer (h : s.Tracks b) :
    s.buffer.map Frame.seq = (List.range' (s.seq - s.buffered + 1) s.buffered).reverse := by
  have hlength := h.collects.length
  rw [length_reverse, ← h.buffered, ← h.seq] at hlength
  have hnumbers := h.collects.numbered.map_eq
  rw [length_reverse, ← h.buffered, map_reverse] at hnumbers
  rw [← reverse_reverse (s.buffer.map Frame.seq), hnumbers]
  congr 3
  omega

theorem socket_in_order (hs : (system J env).Reachable s) :
    (s.buffered = s.buffer.length ∧ s.buffered ≤ s.seq ∧
      s.buffer.map Frame.seq = (List.range' (s.seq - s.buffered + 1) s.buffered).reverse) ∧
    s.tasks.length = s.busy.toNat ∧
    s.requests.flatMap Request.body ++ s.buffer.reverse.map Frame.payload = s.arrived ∧
    (s.pushed.map (fun m => (m.range, m.frames)) <+:
        s.requests.map fun r => (r.context.range, r.body.length)) ∧
    (∃ k, Tiles (s.pushed.map Pushed.range) k) ∧
    ∀ reason, s.status = .Stopped closeTryAgainLater reason →
      (s.buffered : ℤ) = s.maxBufferedFrames := by
  obtain ⟨b, hb, htracks⟩ := (inv_inductive env).reachable hs
  refine ⟨⟨htracks.buffered, ?_, htracks.buffer⟩, ?_, htracks.bodies, htracks.pushed_isPrefix, ?_,
    htracks.backlog⟩
  · have hlength := htracks.collects.length
    rw [length_reverse] at hlength
    have := htracks.buffered
    have := htracks.seq
    omega
  · cases htracks.slot with
    | free hbusy htasks | task task hbusy htasks => rw [hbusy, htasks]; rfl
  · obtain ⟨k, -, hk⟩ := Batcher.answered_tiles hb
    exact ⟨k, htracks.pushed ▸ hk⟩

def defaultEnv : Env := ⟨1000, 0, 4, 75, 2000, fun text => text = bytes startJson⟩

def threeFrames : List (Event ℕ) :=
  let frame (now : Micros) : Event ℕ := .In (List.replicate 640 0) .Binary now 0
  [.In (bytes startJson) .Text 0 0, frame 20000, frame 40000, .Flush 1000000,
    frame 1020000, .ComputeFinished 0 (.ok ⟨0, 0, 0, 640, 0, 1280⟩) 1100000, .Flush 2000000,
    .ComputeFinished 0 (.error ⟨.InferenceRequest, .Timeout, "", none, none, true⟩) 4000000,
    frame 4010000]

theorem socket_in_order_threeFrames :
    ∃ s, (system ℕ defaultEnv).Reachable s ∧ s.seq = 4 ∧
      s.pushed.map (fun m => (m.range, m.frames)) = [(⟨1, 2⟩, 2), (⟨3, 3⟩, 1)] ∧
      s.buffer.map Frame.seq = [4] := by
  obtain ⟨s₀, hinit, s, hexec, hseq, hbuffered, hpushed⟩ : ∃ s₀ ∈ init defaultEnv,
      ∃ s ∈ exec (step defaultEnv) s₀ threeFrames, s.seq = 4 ∧ s.buffered = 1 ∧
        s.pushed.map (fun m => (m.range, m.frames)) = [(⟨1, 2⟩, 2), (⟨3, 3⟩, 1)] := by
    decide +kernel
  have hreach : (system ℕ defaultEnv).Reachable s :=
    Reachable.of_exec (fun _ _ _ h => h) (.start hinit) hexec
  refine ⟨s, hreach, hseq, hpushed, ?_⟩
  rw [(socket_in_order hreach).1.2.2, hseq, hbuffered]
  rfl

end Socket

end SttBench.ElixirPhoenix
