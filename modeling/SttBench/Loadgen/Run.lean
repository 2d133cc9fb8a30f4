import SttBench.Core.Tally
import SttBench.Core.TransitionSystem
import SttBench.Loadgen.Session

/-!
# Load generator: a run

`main`: the session tasks, the verifier thread and the loop that receives the samples.
-/

namespace SttBench.Loadgen

open TransitionSystem

def verifyQueueCapacity : ℕ := 16384

def sampleChannelCapacity : ℕ := 8192

structure TimeoutCounters where
  connect : ℕ
  send : ℕ
  close : ℕ
  session : ℕ
deriving DecidableEq, Repr

namespace TimeoutCounters

def increment (c : TimeoutCounters) : TimeoutKind → TimeoutCounters
  | .Connect => { c with connect := c.connect + 1 }
  | .Send => { c with send := c.send + 1 }
  | .Close => { c with close := c.close + 1 }
  | .Session => { c with session := c.session + 1 }

def total (c : TimeoutCounters) : ℕ := c.connect + c.send + c.close + c.session

lemma total_increment (c : TimeoutCounters) (kind : TimeoutKind) :
    (c.increment kind).total = c.total + 1 := by
  cases kind <;> simp only [increment, total] <;> omega

end TimeoutCounters

structure Shared where
  /-- What `Correctness::record` has been called with. -/
  records : List Record
  verified : ℕ
  verifyDropped : ℕ
  queue : List VerifyJob
  /-- The job the verifier thread has taken off the queue. -/
  verifying : Option VerifyJob
  channel : List Sample
  /-- The samples `main` has received. -/
  received : List Sample
  newestHist : Histogram
  oldestHist : Histogram
  flushHist : Histogram
  harnessLag : Histogram
  sendBlock : Histogram
  timeouts : TimeoutCounters
  /-- Which session has incremented which of them. -/
  bumps : List (ℕ × TimeoutKind)
  protocolErrors : ℕ
  inferenceErrors : ℕ

namespace Shared

def create : Shared where
  records := []
  verified := 0
  verifyDropped := 0
  queue := []
  verifying := none
  channel := []
  received := []
  newestHist := ⟨60000000, []⟩
  oldestHist := ⟨60000000, []⟩
  flushHist := ⟨60000000, []⟩
  harnessLag := lagHistogram
  sendBlock := lagHistogram
  timeouts := ⟨0, 0, 0, 0⟩
  bumps := []
  protocolErrors := 0
  inferenceErrors := 0

def record (sh : Shared) (job : VerifyJob) (mismatches : List Mismatch) : Shared :=
  { sh with
    records := sh.records ++ Record.of job.sessionId .Partial
      job.message.oldestFrameSeq.toNat job.message.newestFrameSeq.toNat mismatches }

def submitVerify (sh : Shared) (job : VerifyJob) : Shared :=
  if sh.queue.length < verifyQueueCapacity then { sh with queue := sh.queue ++ [job] }
  else { sh with verifyDropped := sh.verifyDropped + 1 }.record job job.inline

def apply (sessionId : ℕ) (sh : Shared) : Effect → Shared
  | .Record r => { sh with records := sh.records ++ [r] }
  | .Submit job => sh.submitVerify job
  | .Sample s => { sh with channel := sh.channel ++ [s] }
  | .Timeout kind =>
    { sh with timeouts := sh.timeouts.increment kind, bumps := sh.bumps ++ [(sessionId, kind)] }
  | .InferenceError => { sh with inferenceErrors := sh.inferenceErrors + 1 }
  | .ProtocolError => { sh with protocolErrors := sh.protocolErrors + 1 }
  | .Merge lag block =>
    { sh with harnessLag := sh.harnessLag.add lag, sendBlock := sh.sendBlock.add block }

/-! ### What a list of effects adds up to -/

def submitted (sh : Shared) : ℕ :=
  sh.verified + sh.verifyDropped + sh.queue.length + sh.verifying.toList.length

section

variable (i : ℕ) (effects : List Effect) (sh : Shared)

lemma foldl_apply_channel :
    (effects.foldl (apply i) sh).channel = sh.channel ++ effects.flatMap Effect.samples := by
  refine Tally.foldl_append ?_ effects sh
  intro sh e
  cases e <;> simp [apply, submitVerify, record, Effect.samples, apply_ite Shared.channel]

lemma foldl_apply_received : (effects.foldl (apply i) sh).received = sh.received := by
  refine Tally.foldl_keep (P := fun sh' : Shared => sh'.received = sh.received) ?_ effects rfl
  rintro sh' e hsh
  cases e <;> simp [apply, submitVerify, record, hsh, apply_ite Shared.received]

lemma foldl_apply_submitted :
    (effects.foldl (apply i) sh).submitted =
      sh.submitted + (effects.map fun e => e.jobs.length).sum := by
  refine Tally.foldl_add ?_ effects sh
  intro sh e
  cases e with
  | Submit job =>
    simp only [apply, submitVerify, record, submitted, Effect.jobs]
    split_ifs <;> simp <;> omega
  | _ => simp [apply, submitted, Effect.jobs]

lemma foldl_apply_bumps :
    (effects.foldl (apply i) sh).bumps =
      sh.bumps ++ effects.flatMap fun e => e.timeouts.map (i, ·) := by
  refine Tally.foldl_append ?_ effects sh
  intro sh e
  cases e <;> simp [apply, submitVerify, record, Effect.timeouts, apply_ite Shared.bumps]

lemma foldl_apply_protocolErrors :
    (effects.foldl (apply i) sh).protocolErrors =
      sh.protocolErrors + (effects.map Effect.protocolErrors).sum := by
  refine Tally.foldl_add ?_ effects sh
  intro sh e
  cases e <;> simp [apply, submitVerify, record, Effect.protocolErrors,
    apply_ite Shared.protocolErrors]

end

def verify (cfg : Config) (sh : Shared) (job : VerifyJob) : Shared :=
  { sh with verifying := none, verified := sh.verified + 1 }.record job
    (job.inline ++ verifyPartial cfg.stub cfg.expected job.sessionId job.message)

end Shared

structure Percentiles where
  p50Ms : ℚ
  p95Ms : ℚ
  p99Ms : ℚ
  p999Ms : ℚ
  maxMs : ℚ
deriving DecidableEq

structure Hdr where
  /-- Whether `record` takes a value, of a histogram created with a maximum. -/
  accepts : ℕ → ℕ → Bool
  accepts_le : ∀ high v, v ≤ high → accepts high v = true
  percentiles : Histogram → Percentiles

def Histogram.record (hdr : Hdr) (h : Histogram) (v : ℕ) : Histogram :=
  if hdr.accepts h.high v then { h with values := h.values ++ [v] } else h

def Shared.receive (hdr : Hdr) (sh : Shared) (s : Sample) (rest : List Sample) : Shared :=
  { sh with
    channel := rest
    received := sh.received ++ [s]
    newestHist := sh.newestHist.record hdr s.newestUs
    oldestHist := sh.oldestHist.record hdr s.oldestUs
    flushHist := sh.flushHist.record hdr s.flushLatenessUs }

structure Output where
  sessions : ℕ
  partials : ℕ
  protocolErrors : ℕ
  inferenceErrors : ℕ
  correctnessErrors : ℕ
  verifyEvery : ℕ
  verifiedPartials : ℕ
  verifyDropped : ℕ
  timeouts : TimeoutCounters
  newestFrameToPartialLatency : Percentiles
  oldestFrameToPartialLatency : Percentiles
  flushLateness : Percentiles
  harnessLag : Percentiles
  harnessLagSamples : ℕ
  harnessFaults : ℕ
  sendBlock : Percentiles
deriving DecidableEq

inductive Main
  | Receiving
  | Joining
  | Draining
  | Printed (output : Output)
deriving DecidableEq

structure Run (n : ℕ) where
  tasks : Fin n → Task
  shared : Shared
  main : Main

inductive RunEvent (n : ℕ)
  | Task (i : Fin n) (e : TaskEvent)
  /-- The verifier thread takes a job off its queue. -/
  | Take
  /-- It verifies the job. -/
  | Verify
  | Receive
  /-- The sample channel is closed. -/
  | Closed
  /-- Every task has been joined. -/
  | Joined
  /-- The verifier thread has ended. -/
  | Drained

namespace Run

variable {n : ℕ}

def start : Run n := ⟨fun _ => Task.spawn, Shared.create, .Receiving⟩

def output (cfg : Config) (hdr : Hdr) (sh : Shared) : Output where
  sessions := cfg.sessions
  partials := sh.received.length
  protocolErrors := sh.protocolErrors
  inferenceErrors := sh.inferenceErrors
  correctnessErrors := sh.records.length
  verifyEvery := cfg.verifyEvery
  verifiedPartials := sh.verified
  verifyDropped := sh.verifyDropped
  timeouts := sh.timeouts
  newestFrameToPartialLatency := hdr.percentiles sh.newestHist
  oldestFrameToPartialLatency := hdr.percentiles sh.oldestHist
  flushLateness := hdr.percentiles sh.flushHist
  harnessLag := hdr.percentiles sh.harnessLag
  harnessLagSamples := sh.harnessLag.values.length
  harnessFaults := 0
  sendBlock := hdr.percentiles sh.sendBlock

def blocked (sh : Shared) : TaskEvent → Bool
  | .SampleSent _ => sampleChannelCapacity ≤ sh.channel.length
  | _ => false

def step (cfg : Config) (hdr : Hdr) (s : Run n) :
    RunEvent n → Option (Run n)
  | .Task i e =>
    if blocked s.shared e then none
    else ((s.tasks i).step cfg i e).map fun (t, effects) =>
      { s with
        tasks := Function.update s.tasks i t
        shared := effects.foldl (Shared.apply i) s.shared }
  | .Take =>
    match s.shared.verifying, s.shared.queue with
    | none, job :: rest =>
      some { s with shared := { s.shared with queue := rest, verifying := some job } }
    | _, _ => none
  | .Verify =>
    match s.shared.verifying with
    | some job => some { s with shared := s.shared.verify cfg job }
    | none => none
  | .Receive =>
    match s.main, s.shared.channel with
    | .Receiving, sample :: rest => some { s with shared := s.shared.receive hdr sample rest }
    | _, _ => none
  | .Closed =>
    match s.main with
    | .Receiving =>
      if s.shared.channel = [] ∧ ∀ i, (s.tasks i).pc.isReturned = true then
        some { s with main := .Joining }
      else none
    | _ => none
  | .Joined =>
    match s.main with
    | .Joining =>
      if ∀ i, (s.tasks i).pc.isRecorded = true then some { s with main := .Draining } else none
    | _ => none
  | .Drained =>
    match s.main with
    | .Draining =>
      if s.shared.queue = [] ∧ s.shared.verifying = none then
        some { s with main := .Printed (output cfg hdr s.shared) }
      else none
    | _ => none

end Run

def loadgen (cfg : Config) (hdr : Hdr) :
    TransitionSystem (Run cfg.sessions) (RunEvent cfg.sessions) :=
  TransitionSystem.ofFun Run.start (Run.step cfg hdr)

/-! ## The end of a run -/

section

variable {cfg : Config} {hdr : Hdr}

namespace Run

variable {n : ℕ} {s s' : Run n}

def Settled (cfg : Config) (hdr : Hdr) (s : Run n) : Prop :=
  match s.main with
  | .Receiving => True
  | .Joining => s.shared.channel = [] ∧ ∀ i, (s.tasks i).pc.isReturned = true
  | .Draining => s.shared.channel = [] ∧ ∀ i, (s.tasks i).pc.isRecorded = true
  | .Printed out =>
    s.shared.channel = [] ∧ (∀ i, (s.tasks i).pc.isRecorded = true) ∧ s.shared.queue = [] ∧
      s.shared.verifying = none ∧ out = output cfg hdr s.shared

lemma step_task {i : Fin n} {e : TaskEvent} (h : s.step cfg hdr (.Task i e) = some s') :
    ∃ t effects, (s.tasks i).step cfg i e = some (t, effects) ∧
      s' = { s with
        tasks := Function.update s.tasks i t
        shared := effects.foldl (Shared.apply i) s.shared } := by
  simp only [step] at h
  split_ifs at h
  obtain ⟨⟨t, effects⟩, hstep, rfl⟩ := Option.map_eq_some_iff.mp h
  exact ⟨t, effects, hstep, rfl⟩

end Run

namespace Run

variable {n : ℕ} {s s' : Run n}

lemma channel_finished (i : ℕ) (sh : Shared) {lag block : Histogram} (outcome : Outcome) :
    ((Effect.Merge lag block :: Task.recordSessionOutcome outcome).foldl (Shared.apply i)
      sh).channel = sh.channel := by
  rw [Shared.foldl_apply_channel]
  cases outcome <;> simp [Task.recordSessionOutcome, Effect.samples]

lemma settled_task {i : Fin n} {e : TaskEvent} (hs : s.Settled cfg hdr)
    (h : s.step cfg hdr (.Task i e) = some s') : s'.Settled cfg hdr := by
  obtain ⟨t, effects, hstep, rfl⟩ := step_task h
  have hsteps := Task.steps_of_step hstep
  -- a task that has recorded its outcome does not step
  have hover : ¬ (s.tasks i).pc.isRecorded = true := by
    intro hrec
    have hreturned : (s.tasks i).pc.isReturned = true := by
      cases hpc : (s.tasks i).pc <;> simp_all [Pc.isRecorded, Pc.isReturned]
    obtain ⟨outcome, hpc, -, -⟩ := hsteps.of_isReturned hreturned
    simp [hpc, Pc.isRecorded] at hrec
  cases hmain : s.main with
  | Receiving => trivial
  | Joining =>
    simp only [Settled, hmain] at hs ⊢
    obtain ⟨outcome, -, rfl, rfl⟩ := hsteps.of_isReturned (hs.2 i)
    refine ⟨(channel_finished _ _ _).trans hs.1, ?_⟩
    intro j
    simp only [Function.update_apply]
    split_ifs
    · rfl
    · exact hs.2 j
  | Draining =>
    simp only [Settled, hmain] at hs
    exact absurd (hs.2 i) hover
  | Printed out =>
    simp only [Settled, hmain] at hs
    exact absurd (hs.2.1 i) hover

lemma settled_inductive : (loadgen cfg hdr).Inductive (Settled cfg hdr) where
  init := by
    rintro s rfl
    trivial
  step := by
    intro s e s' hs h
    cases e with
    | Task i e => exact settled_task hs h
    | Take =>
      simp only [loadgen, ofFun, step] at h
      split at h <;> simp only [Option.some.injEq, reduceCtorEq] at h
      case h_1 job rest _ hqueue =>
        subst h
        cases hmain : s.main <;> simp_all [Settled]
    | Verify =>
      simp only [loadgen, ofFun, step] at h
      split at h <;> simp only [Option.some.injEq, reduceCtorEq] at h
      case h_1 job hverifying =>
        subst h
        cases hmain : s.main <;> simp_all [Settled, Shared.verify, Shared.record]
    | Receive =>
      simp only [loadgen, ofFun, step] at h
      split at h <;> simp only [Option.some.injEq, reduceCtorEq] at h
      case h_1 hmain _ =>
        subst h
        simp [Settled, hmain]
    | Closed =>
      simp only [loadgen, ofFun, step] at h
      split at h <;> try cases h
      split_ifs at h with hclosed
      cases h
      exact hclosed
    | Joined =>
      simp only [loadgen, ofFun, step] at h
      split at h <;> try cases h
      case h_1 hmain =>
        split_ifs at h with hjoined
        cases h
        simp only [Settled, hmain] at hs
        exact ⟨hs.1, hjoined⟩
    | Drained =>
      simp only [loadgen, ofFun, step] at h
      split at h <;> try cases h
      case h_1 hmain =>
        split_ifs at h with hdrained
        cases h
        simp only [Settled, hmain] at hs
        exact ⟨hs.1, hs.2, hdrained.1, hdrained.2, rfl⟩

theorem printed_final {s : Run cfg.sessions} {out : Output}
    (hs : (loadgen cfg hdr).Reachable s) (hprinted : s.main = .Printed out) :
    s.shared.channel = [] ∧ (∀ i, (s.tasks i).pc.isRecorded = true) ∧ s.shared.queue = [] ∧
      s.shared.verifying = none ∧ out = output cfg hdr s.shared := by
  have h := settled_inductive.reachable hs
  simpa only [Settled, hprinted] using h

end Run

end

/-! ## A run of one session -/

def onePartial : PartialMessage := ⟨1, 1, 1, 0, 0, 0, 1, "a", 640, 4, 75, 0⟩

def oneStub : Stub := ⟨fun _ _ _ _ => ⟨0, 0, 0, 1, "a"⟩, fun _ => "", id⟩

def oneSession : Config := ⟨1, 1, ⟨4, 75⟩, oneStub, 0, 100⟩

-- the task of a run of one session is written `0`
instance neZeroOne : NeZero 1 := ⟨by decide⟩

def quantile (h : Histogram) (q : ℚ) : ℚ :=
  (h.values.insertionSort (· ≤ ·)).getD (⌈q * h.values.length⌉.toNat - 1) 0 / 1000

lemma lt_of_le_high (high v : ℕ) (h : v ≤ high) : decide (v < 2 ^ (high.log2 + 1)) = true :=
  decide_eq_true (h.trans_lt Nat.lt_log2_self)

def hdrHistogram : Hdr where
  accepts high v := v < 2 ^ (high.log2 + 1)
  accepts_le := lt_of_le_high
  percentiles h :=
    ⟨quantile h (1 / 2), quantile h (19 / 20), quantile h (99 / 100), quantile h (999 / 1000),
      quantile h 1⟩

example : hdrHistogram.accepts 60000000 67108863 ∧ ¬hdrHistogram.accepts 60000000 67108864 := by
  decide +kernel

def twoFrameSession : Config := { oneSession with endAt := 25000000 }

def twoFrames : List (RunEvent 1) :=
  let answered (seq : UInt64) : Inbound :=
    .Text (.ok (.Partial { onePartial with oldestFrameSeq := seq, newestFrameSeq := seq }))
  [.Task 0 .Wake, .Task 0 (.Timed .Done 0 0), .Task 0 (.Timed .Done 0 0), .Task 0 (.Tick 0),
   .Task 0 (.Timed .Done 0 1000), .Task 0 (.Message (answered 1) 5000 6000),
   .Task 0 (.SampleSent 7000), .Task 0 (.Tick 20000000),
   .Task 0 (.Timed .Done 20001000 20001000), .Task 0 (.Message (answered 2) 20005000 30000000),
   .Task 0 (.SampleSent 30000000), .Task 0 (.Timed .Done 30000000 30000000),
   .Task 0 (.Message .Close 30001000 30001000), .Take, .Verify, .Receive, .Take, .Verify, .Receive,
   .Closed, .Task 0 .Finish, .Joined, .Drained]

lemma twoFrames_printed :
    ∃ s : Run 1, (loadgen twoFrameSession hdrHistogram).Reachable s ∧
      s.main = .Printed (Run.output twoFrameSession hdrHistogram s.shared) ∧
      (s.tasks 0).pc = .Recorded .Ok ∧ s.shared.received.length = 2 ∧ s.shared.records = [] ∧
      (s.tasks 0).responses = [⟨1, 1, false, true, 1⟩, ⟨2, 2, false, true, 2⟩] :=
  TransitionSystem.Reachable.exists_of_exec twoFrames (by decide +kernel)

end SttBench.Loadgen
