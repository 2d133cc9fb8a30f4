import SttBench.Core.Tiling
import SttBench.RustSync.Slot

/-! # rust-sync: one connection of thread A -/

namespace SttBench.RustSync

open Ascii Tiling List

inductive Message
  | Partial (m : PartialMessage)
  | Error (m : ErrorMessage)
deriving DecidableEq, Repr

inductive CloseCode
  | Protocol
  | Unsupported
deriving DecidableEq, Repr

inductive WsWrite
  | Text (m : Message)
  | Close (frame : Option (CloseCode × String))
deriving DecidableEq, Repr

inductive Outcome
  | Keep
  | Close
deriving DecidableEq, Repr

inductive Route
  | WebSocket
  | Handled
  | NeedMore
  | Err
deriving DecidableEq, Repr

inductive WsRead
  | Text (t : Bytes)
  | Binary (payload : Bytes) (now : Instant)
  | Close
  /-- A ping, a pong or a raw frame. -/
  | Control
  | WouldBlock
  | Err
deriving DecidableEq, Repr

inductive WsFlush
  | Ok
  | WouldBlock
  | Err
deriving DecidableEq, Repr

structure WsIo where
  route : Route
  reads : List WsRead
  flush : WsFlush
deriving DecidableEq, Repr

structure FrameMeta where
  seq : ℕ
  receivedAt : Instant
deriving DecidableEq, Repr

structure Batch where
  oldestSeq : ℕ
  newestSeq : ℕ
  oldestAt : Instant
  newestAt : Instant
  frames : ℕ
  audioBytes : ℕ
  flushLateness : Duration
deriving DecidableEq, Repr

def Batch.tag (b : Batch) : ℕ := b.oldestSeq

structure Pending where
  batch : Batch
  started : Instant
deriving DecidableEq, Repr

inductive Tick
  | Keep
  | Flush (batch : Batch)
  | Timeout (elapsed : Duration)
deriving DecidableEq, Repr

structure Conn where
  id : ℕ
  /-- The stream is still ours: the upgrade is not complete. -/
  pre : Bool
  /-- The WebSocket exists. -/
  ws : Bool
  started : Bool
  wsWritable : Bool
  pending : Option Pending
  pcm : Bytes
  frameMeta : List FrameMeta
  seq : ℕ
  nextFlush : Instant
deriving DecidableEq, Repr

namespace Conn

def new (id : ℕ) (config : Config) (now : Instant) (phase : Duration) : Conn where
  id := id
  pre := true
  ws := false
  started := false
  wsWritable := false
  pending := none
  pcm := []
  frameMeta := []
  seq := 0
  nextFlush := now + config.flushInterval + phase

def deadline (c : Conn) : Instant :=
  match c.pending with
  | some p => min (p.started + inferenceTimeout) c.nextFlush
  | none => c.nextFlush

def hasPending (c : Conn) : Bool := c.pending.isSome

/-! ## Reading -/

def handshake (c : Conn) (route : Route) : Except Panic (Conn × Outcome) :=
  if c.pre then
    match route with
    | .NeedMore => .ok (c, .Keep)
    | .Handled => .ok (c, .Close)
    | .Err => .ok (c, .Close)
    | .WebSocket => .ok ({ c with pre := false, ws := true }, .Keep)
  else .error .ExpectPre

def flushWs (c : Conn) (flush : WsFlush) : Conn × Outcome :=
  if c.ws then
    match flush with
    | .Ok => ({ c with wsWritable := false }, .Keep)
    | .WouldBlock => ({ c with wsWritable := true }, .Keep)
    | .Err => (c, .Close)
  else (c, .Keep)

def close (c : Conn) (code : CloseCode) (reason : String) : List WsWrite :=
  if c.ws then [.Close (some (code, reason))] else []

def record (c : Conn) (payload : Bytes) (now : Instant) : Conn :=
  { c with seq := c.seq + 1, pcm := c.pcm ++ payload,
           frameMeta := c.frameMeta ++ [⟨c.seq + 1, now⟩] }

def readLoop (startMessage : Bytes → Bool) (c : Conn) :
    List WsRead → Conn × List Bytes × List WsWrite × Bool
  | [] => (c, [], [], false)
  | .WouldBlock :: _ => (c, [], [], false)
  | .Err :: _ => (c, [], [], true)
  | .Close :: _ => (c, [], [.Close none], true)
  | .Control :: rs => c.readLoop startMessage rs
  | .Text t :: rs =>
    if c.started then (c, [], c.close .Protocol reasonTextAfterStart, true)
    else if startMessage t then { c with started := true }.readLoop startMessage rs
    else (c, [], c.close .Protocol reasonNeedStart, true)
  | .Binary p now :: rs =>
    if c.started then
      if p.length = frameBytes then
        let r := (c.record p now).readLoop startMessage rs
        (r.1, p :: r.2.1, r.2.2)
      else (c, [], c.close .Unsupported reasonBadFrameSize, true)
    else (c, [], c.close .Protocol reasonNeedStart, true)

structure Handled where
  conn : Conn
  frames : List Bytes
  wrote : List WsWrite
  outcome : Outcome
deriving DecidableEq, Repr

def onReadable (startMessage : Bytes → Bool) (c : Conn) (io : WsIo) : Except Panic Handled :=
  if c.ws then
    let r := c.readLoop startMessage io.reads
    if r.2.2.2 then .ok ⟨r.1, r.2.1, r.2.2.1, .Close⟩
    else
      let f := r.1.flushWs io.flush
      .ok ⟨f.1, r.2.1, r.2.2.1, f.2⟩
  else (c.handshake io.route).map fun r => ⟨r.1, [], [], r.2⟩

def onReady (startMessage : Bytes → Bool) (c : Conn) (readable writable : Bool) (io : WsIo) :
    Except Panic Handled :=
  if readable then c.onReadable startMessage io
  else if writable then
    let f := c.flushWs io.flush
    .ok ⟨f.1, [], [], f.2⟩
  else .ok ⟨c, [], [], .Keep⟩

/-! ## Flushing and answering -/

def batchOf (first last : FrameMeta) (c : Conn) (lateness : Duration) : Batch where
  oldestSeq := first.seq
  newestSeq := last.seq
  oldestAt := first.receivedAt
  newestAt := last.receivedAt
  frames := c.frameMeta.length
  audioBytes := c.pcm.length
  flushLateness := lateness

def onTimer (c : Conn) (now : Instant) (config : Config) : Conn × Tick :=
  match c.pending.filter fun p => p.started + inferenceTimeout ≤ now with
  | some p => (c, .Timeout (now - p.started))
  | none =>
    if now < c.nextFlush then (c, .Keep)
    else
      let lateness := now - c.nextFlush
      let c := { c with nextFlush := c.nextFlush + config.flushInterval }
      if c.pending.isSome then (c, .Keep)
      else match c.frameMeta.head?, c.frameMeta.getLast? with
        | some first, some last => (c, .Flush (batchOf first last c lateness))
        | _, _ => (c, .Keep)

def beginPending (c : Conn) (batch : Batch) (started : Instant) : Conn :=
  { c with pending := some ⟨batch, started⟩, pcm := [], frameMeta := [] }

def answerFor (b : Batch) (result : InferResult) (config : Config) (now : Instant) : Message :=
  match result with
  | .ok infer => .Partial
      { oldestFrameSeq := b.oldestSeq, newestFrameSeq := b.newestSeq, frames := b.frames,
        rms := infer.rms, zeroCrossings := infer.zeroCrossings, checksum := infer.checksum,
        samples := infer.samples, transcript := infer.transcript, audioBytes := infer.audioBytes,
        cpuPasses := config.cpuPasses, modelDelayMs := config.modelDelayMs,
        flushLateness := b.flushLateness, inflightModelJobs := 0 }
  | .error e => .Error
      { stage := e.stage, kind := e.kind, message := e.message, oldestFrameSeq := b.oldestSeq,
        newestFrameSeq := b.newestSeq, frames := b.frames, audioBytes := b.audioBytes,
        oldestAge := now - b.oldestAt, newestAge := now - b.newestAt,
        flushLateness := b.flushLateness, inferenceElapsed := some e.elapsed,
        inflightGatewayBatches := 1, gatewayBufferFrames := 0, inferenceStatus := e.status,
        retryable := e.retryable }

def deliver (c : Conn) (result : InferResult) (config : Config) (now : Instant) (flush : WsFlush) :
    Handled :=
  match c.pending with
  | none => ⟨c, [], [], .Keep⟩
  | some p =>
    let c := { c with pending := none }
    let f := c.flushWs flush
    ⟨f.1, [], if c.ws then [.Text (answerFor p.batch result config now)] else [], f.2⟩

def onDone (c : Conn) (tag : ℕ) (result : InferResult) (config : Config) (now : Instant)
    (flush : WsFlush) : Handled :=
  if c.pending.any fun p => p.batch.tag = tag then c.deliver result config now flush
  else ⟨c, [], [], .Keep⟩

end Conn

/-! ## What a connection has received and answered -/

namespace Message

def range : Message → Range
  | .Partial m => ⟨m.oldestFrameSeq, m.newestFrameSeq⟩
  | .Error m => ⟨m.oldestFrameSeq, m.newestFrameSeq⟩

def frames : Message → ℕ
  | .Partial m => m.frames
  | .Error m => m.frames

@[simp] lemma range_answerFor (b : Batch) (result : InferResult) (config : Config) (now : Instant) :
    (Conn.answerFor b result config now).range = ⟨b.oldestSeq, b.newestSeq⟩ := by
  cases result <;> rfl

@[simp] lemma frames_answerFor (b : Batch) (result : InferResult) (config : Config)
    (now : Instant) : (Conn.answerFor b result config now).frames = b.frames := by
  cases result <;> rfl

end Message

def PartialMessage.Carries (m : PartialMessage) (infer : InferResponse) : Prop :=
  m.rms = infer.rms ∧ m.zeroCrossings = infer.zeroCrossings ∧ m.checksum = infer.checksum ∧
    m.samples = infer.samples ∧ m.transcript = infer.transcript ∧ m.audioBytes = infer.audioBytes

structure Trace where
  frames : List Bytes
  wrote : List WsWrite
deriving DecidableEq, Repr

def WsWrite.message? : WsWrite → Option Message
  | .Text m => some m
  | .Close _ => none

namespace Trace

def start : Trace := ⟨[], []⟩

def extend (tr : Trace) (r : Conn.Handled) : Trace := ⟨tr.frames ++ r.frames, tr.wrote ++ r.wrote⟩

def messages (tr : Trace) : List Message := tr.wrote.filterMap WsWrite.message?

def ranges (tr : Trace) : List Range := tr.messages.map Message.range

def pcm (tr : Trace) (r : Range) : Bytes :=
  ((tr.frames.drop (r.oldest - 1)).take (r.newest + 1 - r.oldest)).flatten

lemma messages_extend (tr : Trace) (r : Conn.Handled) :
    (tr.extend r).messages = tr.messages ++ r.wrote.filterMap WsWrite.message? := by
  simp [messages, extend]

lemma pcm_append {tr tr' : Trace} {r : Range} {new : List Bytes}
    (hframes : tr'.frames = tr.frames ++ new) (h1 : 1 ≤ r.oldest)
    (hle : r.oldest ≤ r.newest) (hr : r.newest ≤ tr.frames.length) : tr'.pcm r = tr.pcm r := by
  rw [pcm, pcm, hframes, drop_append_of_le_length (by omega), take_append_of_le_length]
  rw [length_drop]
  omega

end Trace

namespace Conn

def flushed (c : Conn) : ℕ := c.seq - c.frameMeta.length

def unanswered (c : Conn) : ℕ :=
  match c.pending with
  | some p => p.batch.oldestSeq
  | none => c.flushed + 1

structure Inv (c : Conn) (tr : Trace) : Prop where
  seq_eq : c.seq = tr.frames.length
  buffered_le : c.frameMeta.length ≤ c.seq
  buffered : c.frameMeta.map FrameMeta.seq = List.range' (c.flushed + 1) c.frameMeta.length
  pcm_eq : c.pcm = (tr.frames.drop c.flushed).flatten
  upgraded : c.pending.isSome ∨ c.frameMeta ≠ [] → c.ws
  batch : ∀ p ∈ c.pending, p.batch.oldestSeq ≤ p.batch.newestSeq ∧ p.batch.newestSeq = c.flushed ∧
    p.batch.frames = p.batch.newestSeq - p.batch.oldestSeq + 1
  tiles : TilesFrom 1 tr.ranges c.unanswered
  sizes : ∀ m ∈ tr.messages, m.frames = m.range.size

section

variable {c c' : Conn} {tr tr' : Trace}

lemma Inv.new (id : ℕ) (config : Config) (now : Instant) (phase : Duration) :
    (Conn.new id config now phase).Inv .start :=
  ⟨rfl, le_rfl, rfl, rfl, by simp [Conn.new], by simp [Conn.new], rfl, by simp [Trace.messages,
    Trace.start]⟩

lemma Inv.congr (h : c.Inv tr) (hseq : c'.seq = c.seq) (hmeta : c'.frameMeta = c.frameMeta)
    (hpcm : c'.pcm = c.pcm) (hpending : c'.pending = c.pending) (hws : c.ws → c'.ws) :
    c'.Inv tr := by
  have hflushed : c'.flushed = c.flushed := by rw [flushed, flushed, hseq, hmeta]
  have hunans : c'.unanswered = c.unanswered := by rw [unanswered, unanswered, hpending, hflushed]
  constructor
  · rw [hseq, h.seq_eq]
  · rw [hseq, hmeta]
    exact h.buffered_le
  · rw [hmeta, hflushed]
    exact h.buffered
  · rw [hpcm, hflushed]
    exact h.pcm_eq
  · rw [hpending, hmeta]
    exact fun hb => hws (h.upgraded hb)
  · rw [hpending, hflushed]
    exact h.batch
  · rw [hunans]
    exact h.tiles
  · exact h.sizes

lemma Inv.of_trace (h : c.Inv tr) (hframes : tr'.frames = tr.frames)
    (hmessages : tr'.messages = tr.messages) : c.Inv tr' := by
  refine ⟨hframes ▸ h.seq_eq, h.buffered_le, h.buffered, hframes ▸ h.pcm_eq, h.upgraded, h.batch,
    ?_, hmessages ▸ h.sizes⟩
  rw [Trace.ranges, hmessages]
  exact h.tiles

@[simp] lemma flushed_record (c : Conn) (p : Bytes) (now : Instant) :
    (c.record p now).flushed = c.flushed := by
  simp [flushed, record]

@[simp] lemma pending_record (c : Conn) (p : Bytes) (now : Instant) :
    (c.record p now).pending = c.pending := rfl

@[simp] lemma ws_record (c : Conn) (p : Bytes) (now : Instant) : (c.record p now).ws = c.ws := rfl

lemma Inv.record (h : c.Inv tr) (hws : c.ws) (p : Bytes) (now : Instant) :
    (c.record p now).Inv ⟨tr.frames ++ [p], tr.wrote⟩ := by
  have hle := h.buffered_le
  have hlen : c.flushed + 1 + c.frameMeta.length = c.seq + 1 := by
    rw [flushed]
    omega
  have hdrop : c.flushed ≤ tr.frames.length := by
    rw [← h.seq_eq, flushed]
    omega
  constructor
  · simp [Conn.record, h.seq_eq]
  · simpa [Conn.record] using hle
  · rw [flushed_record]
    simp only [Conn.record, map_append, map_cons, map_nil, length_append,
      length_singleton]
    rw [h.buffered, List.range'_concat, one_mul, hlen]
  · rw [flushed_record, drop_append_of_le_length hdrop]
    simp [Conn.record, h.pcm_eq]
  · exact fun _ => hws
  · rw [flushed_record]
    exact h.batch
  · rw [unanswered, flushed_record]
    exact h.tiles
  · exact h.sizes

lemma message?_close (c : Conn) (code : CloseCode) (reason : String) :
    (c.close code reason).filterMap WsWrite.message? = [] := by
  unfold close
  split <;> rfl

lemma Inv.readLoop (startMessage : Bytes → Bool) : ∀ (rs : List WsRead) {c : Conn} {tr : Trace},
    c.Inv tr → c.ws →
    (c.readLoop startMessage rs).1.Inv
        ⟨tr.frames ++ (c.readLoop startMessage rs).2.1, tr.wrote⟩ ∧
      (c.readLoop startMessage rs).1.pending = c.pending ∧
      (c.readLoop startMessage rs).1.flushed = c.flushed ∧
      (c.readLoop startMessage rs).1.ws = c.ws ∧
      (c.readLoop startMessage rs).2.2.1.filterMap WsWrite.message? = []
  | [], c, tr, h, hws => by simpa [Conn.readLoop] using h
  | .WouldBlock :: _, c, tr, h, hws => by simpa [Conn.readLoop] using h
  | .Err :: _, c, tr, h, hws => by simpa [Conn.readLoop] using h
  | .Close :: _, c, tr, h, hws => by simpa [Conn.readLoop, WsWrite.message?] using h
  | .Control :: rs, c, tr, h, hws => by
    rw [Conn.readLoop]
    exact Inv.readLoop startMessage rs h hws
  | .Text t :: rs, c, tr, h, hws => by
    rw [Conn.readLoop]
    split_ifs
    · simpa [message?_close] using h
    · exact Inv.readLoop startMessage rs (h.congr rfl rfl rfl rfl fun hw => hw) hws
    · simpa [message?_close] using h
  | .Binary p now :: rs, c, tr, h, hws => by
    rw [Conn.readLoop]
    split_ifs
    · have ih := Inv.readLoop startMessage rs (h.record hws p now) hws
      simpa using ih
    · simpa [message?_close] using h
    · simpa [message?_close] using h

lemma Inv.flushWs (h : c.Inv tr) (flush : WsFlush) :
    (c.flushWs flush).1.Inv tr ∧ (c.flushWs flush).1.pending = c.pending ∧
      (c.flushWs flush).1.flushed = c.flushed := by
  unfold Conn.flushWs
  split_ifs
  · cases flush with
    | Ok | WouldBlock => exact ⟨h.congr rfl rfl rfl rfl fun hw => hw, rfl, rfl⟩
    | Err => exact ⟨h, rfl, rfl⟩
  · exact ⟨h, rfl, rfl⟩

theorem Inv.onReady (h : c.Inv tr) {startMessage : Bytes → Bool} {readable writable : Bool}
    {io : WsIo} {r : Handled} (hr : c.onReady startMessage readable writable io = .ok r) :
    r.conn.Inv (tr.extend r) ∧ r.conn.pending = c.pending ∧ r.conn.flushed = c.flushed ∧
      (tr.extend r).messages = tr.messages := by
  have hdone : ∀ {c' : Conn} {frames : List Bytes} {wrote : List WsWrite} {outcome : Outcome},
      ⟨c', frames, wrote, outcome⟩ = r → c'.Inv ⟨tr.frames ++ frames, tr.wrote⟩ →
      c'.pending = c.pending → c'.flushed = c.flushed → wrote.filterMap WsWrite.message? = [] →
      r.conn.Inv (tr.extend r) ∧ r.conn.pending = c.pending ∧ r.conn.flushed = c.flushed ∧
        (tr.extend r).messages = tr.messages := by
    rintro c' frames wrote outcome rfl h' hp hf hm
    have hm' : (tr.extend ⟨c', frames, wrote, outcome⟩).messages = tr.messages := by
      rw [Trace.messages_extend, hm, append_nil]
    exact ⟨h'.of_trace rfl hm', hp, hf, hm'⟩
  have htr : ∀ {c' : Conn}, c'.Inv tr → c'.Inv ⟨tr.frames ++ [], tr.wrote⟩ := fun h' =>
    h'.of_trace (append_nil _) rfl
  simp only [Conn.onReady, Conn.onReadable] at hr
  split_ifs at hr with hreadable hws hclose
  · -- the loop returned `Close`
    obtain ⟨h', hp, hf, -, hm⟩ := h.readLoop startMessage io.reads hws
    exact hdone (Except.ok.inj hr) h' hp hf hm
  · obtain ⟨h', hp, hf, -, hm⟩ := h.readLoop startMessage io.reads hws
    obtain ⟨h'', hp', hf'⟩ := h'.flushWs io.flush
    exact hdone (Except.ok.inj hr) h'' (hp'.trans hp) (hf'.trans hf) hm
  · unfold Conn.handshake at hr
    split_ifs at hr with hpre
    · cases hroute : io.route <;> simp only [hroute, Except.map, Except.ok.injEq] at hr
      · exact hdone hr (htr (h.congr rfl rfl rfl rfl fun _ => rfl)) rfl rfl rfl
      all_goals exact hdone hr (htr h) rfl rfl rfl
    · simp [Except.map] at hr
  · obtain ⟨h', hp, hf⟩ := h.flushWs io.flush
    exact hdone (Except.ok.inj hr) (htr h') hp hf rfl
  · exact hdone (Except.ok.inj hr) (htr h) rfl rfl rfl

lemma Inv.pcm_range (h : c.Inv tr) : c.pcm = tr.pcm ⟨c.flushed + 1, c.seq⟩ := by
  have hle := h.buffered_le
  rw [h.pcm_eq, Trace.pcm]
  simp only [Nat.add_sub_cancel]
  rw [take_of_length_le]
  rw [length_drop, ← h.seq_eq]
  omega

structure Covers (c : Conn) (b : Batch) : Prop where
  idle : c.pending = none
  oldest : b.oldestSeq = c.flushed + 1
  newest : b.newestSeq = c.seq
  nonempty : b.oldestSeq ≤ b.newestSeq
  frames : b.frames = b.newestSeq - b.oldestSeq + 1

lemma Inv.covers (h : c.Inv tr) {first last : FrameMeta} (hidle : c.pending = none)
    (hfirst : c.frameMeta.head? = some first) (hlast : c.frameMeta.getLast? = some last)
    (lateness : Duration) : c.Covers (batchOf first last c lateness) := by
  have hle := h.buffered_le
  have hne : c.frameMeta ≠ [] := by
    rintro hnil
    simp [hnil] at hfirst
  have hpos : 0 < c.frameMeta.length := length_pos_iff.mpr hne
  have hseqs := h.buffered
  have hf : first.seq = c.flushed + 1 := by
    have := congrArg List.head? hseqs
    rw [List.head?_map, hfirst, List.head?_range'] at this
    simpa [hne] using this
  have hl : last.seq = c.seq := by
    have := congrArg List.getLast? hseqs
    rw [List.getLast?_map, hlast, List.getLast?_range'] at this
    simp only [Option.map_some, hpos.ne', if_false, Option.some.injEq] at this
    rw [this, flushed]
    omega
  refine ⟨hidle, hf, hl, ?_, ?_⟩
  · simp only [batchOf, hf, hl, flushed]
    omega
  · simp only [batchOf, hf, hl, flushed]
    omega

theorem Inv.onTimer (h : c.Inv tr) {config : Config} {now : Instant} {tick : Tick}
    (ht : c.onTimer now config = (c', tick)) :
    c'.Inv tr ∧ c'.pending = c.pending ∧ c'.flushed = c.flushed ∧
      (∀ elapsed, tick = .Timeout elapsed → c.pending.isSome) ∧
      ∀ b, tick = .Flush b → c'.Covers b := by
  unfold Conn.onTimer at ht
  cases hpend : c.pending.filter fun p => p.started + inferenceTimeout ≤ now with
  | some p =>
    simp only [hpend, Prod.mk.injEq] at ht
    obtain ⟨rfl, rfl⟩ := ht
    have hsome : c.pending.isSome := by
      rw [Option.filter_eq_some_iff] at hpend
      simp [hpend.1]
    exact ⟨h, rfl, rfl, fun _ _ => hsome, by simp⟩
  | none =>
    simp only [hpend] at ht
    -- moving the next flush on changes nothing the invariant looks at
    have hlater : { c with nextFlush := c.nextFlush + config.flushInterval }.Inv tr :=
      h.congr rfl rfl rfl rfl fun hw => hw
    split_ifs at ht with hearly hbusy
    · cases ht
      exact ⟨h, rfl, rfl, by simp, by simp⟩
    · cases ht
      exact ⟨hlater, rfl, rfl, by simp, by simp⟩
    · have hidle : c.pending = none := by simpa using hbusy
      split at ht
      · rename_i first last hfirst hlast
        cases ht
        refine ⟨hlater, rfl, rfl, by simp, ?_⟩
        rintro b ⟨⟩
        exact hlater.covers hidle hfirst hlast _
      · cases ht
        exact ⟨hlater, rfl, rfl, by simp, by simp⟩

theorem Inv.beginPending (h : c.Inv tr) {b : Batch} (hb : c.Covers b) (now : Instant) :
    (c.beginPending b now).Inv tr ∧ (c.beginPending b now).flushed = b.newestSeq := by
  have hflushed : (c.beginPending b now).flushed = c.seq := by
    simp [flushed, Conn.beginPending]
  have htiles : TilesFrom 1 tr.ranges b.oldestSeq := by
    have := h.tiles
    rwa [unanswered, hb.idle, ← hb.oldest] at this
  have hws : c.ws := h.upgraded (Or.inr fun hnil => by
    have := hb.nonempty
    rw [hb.oldest, hb.newest, flushed, hnil, length_nil] at this
    omega)
  refine ⟨⟨h.seq_eq, Nat.zero_le _, rfl, ?_, fun _ => hws, ?_, htiles, h.sizes⟩,
    hflushed.trans hb.newest.symm⟩
  · rw [hflushed, h.seq_eq, drop_length]
    rfl
  · rintro p ⟨⟩
    exact ⟨hb.nonempty, hb.newest.trans hflushed.symm, hb.frames⟩

theorem Inv.deliver (h : c.Inv tr) (result : InferResult) (config : Config) (now : Instant)
    (flush : WsFlush) :
    (c.deliver result config now flush).conn.Inv (tr.extend (c.deliver result config now flush)) ∧
      (c.deliver result config now flush).conn.pending = none ∧
      (c.deliver result config now flush).conn.flushed = c.flushed ∧
      (c.deliver result config now flush).frames = [] ∧
      (tr.extend (c.deliver result config now flush)).messages = tr.messages ++
        (c.pending.map fun p => answerFor p.batch result config now).toList := by
  cases hp : c.pending with
  | none =>
    rw [show c.deliver result config now flush = ⟨c, [], [], .Keep⟩ by simp [Conn.deliver, hp]]
    have hm : (tr.extend ⟨c, [], [], .Keep⟩).messages = tr.messages := by
      simp [Trace.messages_extend]
    exact ⟨h.of_trace (append_nil _) hm, hp, rfl, rfl, by simpa using hm⟩
  | some p =>
    have hws : c.ws := h.upgraded (Or.inl (by simp [hp]))
    obtain ⟨hle, hnewest, hframes⟩ := h.batch p hp
    have hunans : c.unanswered = p.batch.oldestSeq := by rw [unanswered, hp]
    set m := answerFor p.batch result config now with hm
    have hrange : m.range = ⟨p.batch.oldestSeq, p.batch.newestSeq⟩ := Message.range_answerFor ..
    -- the batch is gone and its message is written
    have hinv : { c with pending := none }.Inv ⟨tr.frames, tr.wrote ++ [WsWrite.Text m]⟩ := by
      refine ⟨h.seq_eq, h.buffered_le, h.buffered, h.pcm_eq, ?_, by simp, ?_, ?_⟩
      · exact fun _ => hws
      · have hranges : Trace.ranges ⟨tr.frames, tr.wrote ++ [WsWrite.Text m]⟩ =
            tr.ranges ++ [m.range] := by
          simp [Trace.ranges, Trace.messages, WsWrite.message?]
        have hnext : { c with pending := none }.unanswered = m.range.newest + 1 := by
          rw [hrange, hnewest]
          rfl
        rw [hranges, hnext]
        exact h.tiles.concat (by rw [hrange, hunans]) (by rw [hrange]; exact hle)
      · intro m' hm'
        simp only [Trace.messages, filterMap_append, mem_append] at hm'
        rcases hm' with hm' | hm'
        · exact h.sizes m' hm'
        · obtain rfl : m' = m := by simpa [WsWrite.message?] using hm'
          rw [hrange, hm, Message.frames_answerFor, hframes, Range.size]
    obtain ⟨hinv', hpend, hflushed⟩ := hinv.flushWs flush
    have heq : c.deliver result config now flush =
        ⟨({ c with pending := none }.flushWs flush).1, [], [.Text m],
          ({ c with pending := none }.flushWs flush).2⟩ := by
      simp [Conn.deliver, hp, hws, hm]
    rw [heq]
    refine ⟨hinv'.of_trace (append_nil _) rfl, hpend, hflushed, rfl, ?_⟩
    simp [Trace.messages_extend, WsWrite.message?, hm]

end

end Conn

end SttBench.RustSync
