import SttBench.Core.Http1
import SttBench.Core.Tiling
import SttBench.OxcamlEpoll.Ws

/-! # ocaml-oxcaml-epoll: a client connection -/

namespace SttBench.OxcamlEpoll

open Ascii List

inductive ConnState
  | Handshake
  | Open
deriving DecidableEq, Repr

structure Pending where
  oldestSeq : ℕ
  newestSeq : ℕ
  oldestMs : Ms
  newestMs : Ms
  frames : ℕ
  audioBytes : ℕ
  flushLatenessMs : Ms
  startedMs : Ms
  timeoutGen : ℕ
deriving DecidableEq, Repr

structure Conn where
  input : Bytes
  pcm : Bytes
  batchOldestSeq : ℕ
  batchNewestSeq : ℕ
  batchOldestMs : Ms
  batchNewestMs : Ms
  batchFrames : ℕ
  seq : ℕ
  state : ConnState
  started : Bool
  nextFlushMs : Ms
  flushGen : ℕ
  pending : Option Pending
  timeoutGen : ℕ
  closeAfterWrite : Bool
  outPending : Bool
deriving DecidableEq, Repr

inductive Out
  | Http (code : ℕ) (reason body : String)
  | Upgrade (key : Bytes)
  | Pong (payload : Bytes)
  | Close (code : ℕ)
  | Partial (m : Partial)
  | Error (m : Error)
deriving DecidableEq, Repr

structure Handled where
  conn : Conn
  frames : List Bytes
  out : List Out
deriving DecidableEq, Repr

namespace Conn

def new (config : Config) (now jitter : Ms) : Conn where
  input := []
  pcm := []
  batchOldestSeq := 0
  batchNewestSeq := 0
  batchOldestMs := 0
  batchNewestMs := 0
  batchFrames := 0
  seq := 0
  state := .Handshake
  started := false
  nextFlushMs := now + config.flushIntervalMs + jitter
  flushGen := 0
  pending := none
  timeoutGen := 0
  closeAfterWrite := false
  outPending := false

/-! ## Batches -/

def clearBatch (c : Conn) : Conn := { c with batchFrames := 0 }

def drain (c : Conn) : Conn := { c.clearBatch with pcm := [] }

def setPending (c : Conn) (pending : Option Pending) : Conn := { c with pending := pending }

def recordBatchFrame (c : Conn) (receivedMs : Ms) : Conn :=
  { c with
    seq := c.seq + 1
    batchOldestSeq := if c.batchFrames = 0 then c.seq + 1 else c.batchOldestSeq
    batchOldestMs := if c.batchFrames = 0 then receivedMs else c.batchOldestMs
    batchNewestSeq := c.seq + 1
    batchNewestMs := receivedMs
    batchFrames := c.batchFrames + 1 }

def recordPcm (c : Conn) (payload : Bytes) (receivedMs : Ms) : Conn :=
  { c.recordBatchFrame receivedMs with pcm := c.pcm ++ payload }

def consumeInput (c : Conn) (n : ℕ) : Conn := { c with input := c.input.drop n }

/-! ## Queueing -/

def enqueueRaw (c : Conn) : Conn := { c with outPending := true }

def enqueueClose (c : Conn) (code : ℕ) : Handled :=
  ⟨{ c.enqueueRaw with closeAfterWrite := true }, [], [.Close code]⟩

def enqueueGeneratedText (c : Conn) (out : Out) : Handled :=
  if c.closeAfterWrite then ⟨c, [], []⟩ else ⟨c.enqueueRaw, [], [out]⟩

def respondAndClose (c : Conn) (code : ℕ) (reason body : String) : Handled :=
  ⟨{ c.enqueueRaw with closeAfterWrite := true }, [], [.Http code reason body]⟩

/-! ## Frames -/

def fastRun (clock : ℕ → Ms) (c : Conn) : Handled :=
  if h : c.started ∧ Ws.fixedBinary640 c.input then
    let payload := Ws.copyUnmasked640 c.input
    let r := fastRun clock ((c.recordPcm payload (clock (c.seq + 1))).consumeInput 648)
    ⟨r.conn, payload :: r.frames, r.out⟩
  else ⟨c, [], []⟩
termination_by c.input.length
decreasing_by
  have hlen : 648 ≤ c.input.length := (of_decide_eq_true h.2).1
  simp only [consumeInput, recordPcm, recordBatchFrame, length_drop]
  omega

inductive Next
  | Continue (c : Conn) (frames : List Bytes) (out : List Out)
  | Stop (r : Handled)

def onFrame (startMessageOk : Bytes → Bool) (clock : ℕ → Ms) (c : Conn) (f : Ws.Frame) : Next :=
  match f.opcode with
  | .Text =>
    if f.fin = false then .Stop (c.enqueueClose 1002)
    else if c.started = false then
      if startMessageOk f.payload then .Continue { c with started := true } [] []
      else .Stop (c.enqueueClose 1002)
    else .Stop (c.enqueueClose 1002)
  | .Binary =>
    if f.fin = false then .Stop (c.enqueueClose 1002)
    else if c.started = false then .Stop (c.enqueueClose 1002)
    else if f.payload.length = frameBytes then
      .Continue (c.recordPcm f.payload (clock (c.seq + 1))) [f.payload] []
    else .Stop (c.enqueueClose 1003)
  | .Ping => .Continue c.enqueueRaw [] [.Pong f.payload]
  | .Pong => .Continue c [] []
  | .Close => .Stop (c.enqueueClose 1000)
  | .Continuation => .Stop (c.enqueueClose 1002)
  | .Other _ => .Stop (c.enqueueClose 1002)

lemma fastRun_input (clock : ℕ → Ms) (c : Conn) :
    (c.fastRun clock).conn.input.length + 648 * (c.fastRun clock).frames.length = c.input.length := by
  fun_induction fastRun clock c with
  | case1 c h payload r ih =>
    have hlen : 648 ≤ c.input.length := (of_decide_eq_true h.2).1
    have hdrop : ((c.recordPcm payload (clock (c.seq + 1))).consumeInput 648).input.length =
        c.input.length - 648 := length_drop ..
    have hr : r = fastRun clock
      ((c.recordPcm payload (clock (c.seq + 1))).consumeInput 648) := rfl
    rw [hdrop, ← hr] at ih
    simp only [length_cons]
    omega
  | case2 c h => simp

lemma fastRun_out (clock : ℕ → Ms) (c : Conn) : (c.fastRun clock).out = [] := by
  fun_induction fastRun clock c with
  | case1 c h payload r ih => exact ih
  | case2 c h => rfl

lemma fastRun_closeAfterWrite (clock : ℕ → Ms) (c : Conn) :
    (c.fastRun clock).conn.closeAfterWrite = c.closeAfterWrite := by
  fun_induction fastRun clock c with
  | case1 c h payload r ih => exact ih
  | case2 c h => rfl

lemma onFrame_cases (startMessageOk : Bytes → Bool) (clock : ℕ → Ms) (c : Conn) (f : Ws.Frame) :
    (∃ code, c.onFrame startMessageOk clock f = .Stop (c.enqueueClose code)) ∨
    c.onFrame startMessageOk clock f = .Continue { c with started := true } [] [] ∨
    (∃ payload, payload.length = frameBytes ∧ c.onFrame startMessageOk clock f =
      .Continue (c.recordPcm payload (clock (c.seq + 1))) [payload] []) ∨
    (∃ payload, c.onFrame startMessageOk clock f = .Continue c.enqueueRaw [] [.Pong payload]) ∨
    c.onFrame startMessageOk clock f = .Continue c [] [] := by
  unfold onFrame
  split
  · split_ifs
    · exact Or.inl ⟨1002, rfl⟩
    · exact Or.inr (Or.inl rfl)
    · exact Or.inl ⟨1002, rfl⟩
    · exact Or.inl ⟨1002, rfl⟩
  · split_ifs with hfin hstarted hlen
    · exact Or.inl ⟨1002, rfl⟩
    · exact Or.inl ⟨1002, rfl⟩
    · exact Or.inr (Or.inr (Or.inl ⟨f.payload, hlen, rfl⟩))
    · exact Or.inl ⟨1003, rfl⟩
  · exact Or.inr (Or.inr (Or.inr (Or.inl ⟨f.payload, rfl⟩)))
  · exact Or.inr (Or.inr (Or.inr (Or.inr rfl)))
  · exact Or.inl ⟨1000, rfl⟩
  · exact Or.inl ⟨1002, rfl⟩
  · exact Or.inl ⟨1002, rfl⟩

lemma onFrame_continue {startMessageOk : Bytes → Bool} {clock : ℕ → Ms} {c c' : Conn}
    {f : Ws.Frame} {frames : List Bytes} {out : List Out}
    (h : c.onFrame startMessageOk clock f = .Continue c' frames out) :
    c'.input = c.input ∧ c'.closeAfterWrite = c.closeAfterWrite := by
  rcases onFrame_cases startMessageOk clock c f with
    ⟨code, hc⟩ | hc | ⟨payload, -, hc⟩ | ⟨payload, hc⟩ | hc <;> rw [hc] at h
  · cases h
  all_goals
    obtain ⟨rfl, -, -⟩ := Next.Continue.inj h
    exact ⟨rfl, rfl⟩

def processFrames (startMessageOk : Bytes → Bool) (clock : ℕ → Ms) (c : Conn) : Handled :=
  if _hfast : (c.fastRun clock).frames ≠ [] then
    let r := processFrames startMessageOk clock (c.fastRun clock).conn
    ⟨r.conn, (c.fastRun clock).frames ++ r.frames, r.out⟩
  else
    match _hparse : Ws.parseOne c.input 0 with
    | .error _ => c.enqueueClose 1002
    | .ok none => ⟨c, [], []⟩
    | .ok (some (f, next)) =>
      match _hframe : (c.consumeInput next).onFrame startMessageOk clock f with
      | .Stop r => r
      | .Continue c' frames out =>
        let r := processFrames startMessageOk clock c'
        ⟨r.conn, frames ++ r.frames, out ++ r.out⟩
termination_by c.input.length
decreasing_by
  · have hlen := fastRun_input clock c
    have hpos := length_pos_iff.mpr _hfast
    omega
  · have hnext := Ws.parseOne_bounds _hparse
    rw [(onFrame_continue _hframe).1, consumeInput, length_drop]
    omega

/-! ## The upgrade request -/

def trimCr (line : Bytes) : Bytes := if line.getLast? = some 13 then line.dropLast else line

def isSpace (b : UInt8) : Bool := b = 32 || b = 12 || b = 10 || b = 13 || b = 9

def trim (s : Bytes) : Bytes := ((s.dropWhile isSpace).reverse.dropWhile isSpace).reverse

def headerValue (lines : List Bytes) (name : String) : Option Bytes :=
  lines.findSome? fun line =>
    if 58 ∈ line then
      if (trim (line.takeWhile (· ≠ 58))).map lower = (bytes name).map lower then
        some (trim ((line.dropWhile (· ≠ 58)).drop 1))
      else none
    else none

def requestLine (lines : List Bytes) : Bytes × Bytes :=
  match (lines.headD []).splitOn 32 with
  | method :: path :: _ => (method, path)
  | _ => ([], [])

def processHttp (startMessageOk : Bytes → Bool) (clock : ℕ → Ms) (c : Conn) : Option Handled :=
  match Search.find Http1.crlf2 c.input with
  | none => if 16 * 1024 < c.input.length then none else some ⟨c, [], []⟩
  | some headEnd =>
    let lines := ((c.input.take headEnd).splitOn 10).map trimCr
    let method := (requestLine lines).1
    let path := (requestLine lines).2
    let c := c.consumeInput (headEnd + 4)
    if method ≠ bytes "GET" then some (c.respondAndClose 405 "Method Not Allowed" "")
    else if path = bytes "/health" then some (c.respondAndClose 200 "OK" "ok")
    else if path = bytes "/ws/stt" then
      match headerValue lines "sec-websocket-key" with
      | none => some (c.respondAndClose 400 "Bad Request" "invalid websocket upgrade")
      | some key =>
        let r := { c.enqueueRaw with state := .Open }.processFrames startMessageOk clock
        some ⟨r.conn, r.frames, .Upgrade key :: r.out⟩
    else some (c.respondAndClose 404 "Not Found" "not found")

inductive ReadResult
  | Data (chunk : Bytes)
  | Again
  | Intr
  | Fail (message : String)
deriving DecidableEq, Repr

def readLoop (c : Conn) : List ReadResult → Option Conn
  | [] => some c
  | .Again :: _ => some c
  | .Intr :: rs => c.readLoop rs
  | .Fail _ :: _ => none
  | .Data [] :: _ => none
  | .Data chunk :: rs =>
    let c := { c with input := c.input ++ chunk }
    if chunk.length = 8192 then c.readLoop rs else some c

def read (startMessageOk : Bytes → Bool) (clock : ℕ → Ms) (c : Conn) (reads : List ReadResult) :
    Option Handled :=
  (c.readLoop reads).bind fun c =>
    match c.state with
    | .Handshake => c.processHttp startMessageOk clock
    | .Open => some (c.processFrames startMessageOk clock)

inductive WriteResult
  | Part
  | All
  | Zero
  | Again
  | Intr
  | Fail
deriving DecidableEq, Repr

def writeLoop (c : Conn) : List WriteResult → Option Conn
  | [] => some c
  | w :: ws =>
    if c.outPending = false then some c
    else match w with
      | .Part => c.writeLoop ws
      | .All => { c with outPending := false }.writeLoop ws
      | .Zero => none
      | .Again => some c
      | .Intr => c.writeLoop ws
      | .Fail => none

def write (c : Conn) (writes : List WriteResult) : Option Conn :=
  (c.writeLoop writes).bind fun c =>
    if c.outPending = false ∧ c.closeAfterWrite then none else some c

/-! ## What a read is made of -/

structure ClientRule (R : Conn → Handled → Prop) : Prop where
  refl : ∀ c, R c ⟨c, [], []⟩
  trans : ∀ {c r r'}, R c r → R r.conn r' → r.conn.closeAfterWrite = c.closeAfterWrite →
    R c ⟨r'.conn, r.frames ++ r'.frames, r.out ++ r'.out⟩
  input : ∀ c input, R c ⟨{ c with input := input }, [], []⟩
  start : ∀ c, R c ⟨{ c with started := true }, [], []⟩
  record : ∀ c payload now, payload.length = frameBytes →
    R c ⟨c.recordPcm payload now, [payload], []⟩
  pong : ∀ c payload, R c ⟨c.enqueueRaw, [], [.Pong payload]⟩
  close : ∀ c code, R c (c.enqueueClose code)
  respond : ∀ c code reason body, R c (c.respondAndClose code reason body)
  upgrade : ∀ c key, R c ⟨{ c.enqueueRaw with state := .Open }, [], [.Upgrade key]⟩

namespace ClientRule

variable {R : Conn → Handled → Prop} {startMessageOk : Bytes → Bool} {clock : ℕ → Ms}
  {c c' : Conn} {r : Handled}

lemma consume (hR : ClientRule R) {n : ℕ} (h : R (c.consumeInput n) r) : R c r :=
  hR.trans (hR.input c _) h rfl

lemma fastRun (hR : ClientRule R) (clock : ℕ → Ms) (c : Conn) : R c (c.fastRun clock) := by
  fun_induction Conn.fastRun clock c with
  | case1 c h payload r ih =>
    have hrecord := hR.record c payload (clock (c.seq + 1)) (Ws.length_copyUnmasked640 h.2)
    exact hR.trans (hR.trans hrecord (hR.input _ _) rfl) ih rfl
  | case2 c h => exact hR.refl c

lemma onFrame (hR : ClientRule R) (startMessageOk : Bytes → Bool) (clock : ℕ → Ms) (c : Conn)
    (f : Ws.Frame) :
    match c.onFrame startMessageOk clock f with
    | .Stop r => R c r
    | .Continue c' frames out => R c ⟨c', frames, out⟩ := by
  rcases onFrame_cases startMessageOk clock c f with
    ⟨code, hf⟩ | hf | ⟨payload, hlen, hf⟩ | ⟨payload, hf⟩ | hf <;> rw [hf]
  · exact hR.close c code
  · exact hR.start c
  · exact hR.record c payload _ hlen
  · exact hR.pong c payload
  · exact hR.refl c

theorem processFrames (hR : ClientRule R) (startMessageOk : Bytes → Bool) (clock : ℕ → Ms)
    (c : Conn) : R c (c.processFrames startMessageOk clock) := by
  fun_induction Conn.processFrames startMessageOk clock c with
  | case1 c h r ih =>
    have hfast := hR.trans (hR.fastRun clock c) ih (fastRun_closeAfterWrite clock c)
    rwa [fastRun_out] at hfast
  | case2 c h e hp => exact hR.close c 1002
  | case3 c h hp => exact hR.refl c
  | case4 c h f next hp r hf =>
    have hframe := hR.onFrame startMessageOk clock (c.consumeInput next) f
    rw [hf] at hframe
    exact hR.consume hframe
  | case5 c h f next hp c' frames out hf r ih =>
    have hframe := hR.onFrame startMessageOk clock (c.consumeInput next) f
    rw [hf] at hframe
    have hclosing := (onFrame_continue hf).2
    exact hR.trans (hR.consume hframe) ih hclosing

theorem processHttp (hR : ClientRule R) (h : c.processHttp startMessageOk clock = some r) :
    R c r := by
  have hclose : ∀ n code reason body,
      R c ((c.consumeInput n).respondAndClose code reason body) := fun n code reason body =>
    hR.consume (hR.respond _ code reason body)
  unfold Conn.processHttp at h
  split at h
  · split_ifs at h
    cases h
    exact hR.refl c
  · rename_i headEnd _
    simp only [] at h
    split_ifs at h
    · cases h
      exact hclose ..
    · cases h
      exact hclose ..
    · split at h
      · cases h
        exact hclose ..
      · rename_i key _
        cases h
        exact hR.consume (hR.trans (hR.upgrade _ key) (hR.processFrames ..) rfl)
    · cases h
      exact hclose ..

lemma readLoop_eq_input {reads : List ReadResult} (h : c.readLoop reads = some c') :
    c' = { c with input := c'.input } := by
  fun_induction Conn.readLoop c reads with
  | case1 | case2 =>
    cases h
    rfl
  | case3 c rs ih | case6 c chunk rs _ d hlen ih => exact ih h
  | case4 | case5 => cases h
  | case7 c chunk rs _ d hlen =>
    rw [← Option.some.inj h]

theorem read (hR : ClientRule R) {reads : List ReadResult}
    (h : c.read startMessageOk clock reads = some r) : R c r := by
  obtain ⟨c₁, hloop, h⟩ := Option.bind_eq_some_iff.mp h
  have hc₁ := readLoop_eq_input hloop
  have hc : R c ⟨c₁, [], []⟩ := by
    rw [hc₁]
    exact hR.input c _
  have hclosing : c₁.closeAfterWrite = c.closeAfterWrite := by rw [hc₁]
  split at h
  · exact hR.trans hc (hR.processHttp h) hclosing
  · cases h
    exact hR.trans hc (hR.processFrames ..) hclosing

end ClientRule

end Conn

/-! ## Histories -/

open Tiling

structure Trace where
  frames : List Bytes
  out : List Out
deriving DecidableEq, Repr

def Out.range? : Out → Option Range
  | .Partial m => some ⟨m.oldestFrameSeq, m.newestFrameSeq⟩
  | .Error m => some ⟨m.oldestFrameSeq, m.newestFrameSeq⟩
  | _ => none

namespace Trace

def extend (tr : Trace) (r : Handled) : Trace := ⟨tr.frames ++ r.frames, tr.out ++ r.out⟩

def ranges (tr : Trace) : List Range := tr.out.filterMap Out.range?

def pcm (tr : Trace) (r : Range) : Bytes :=
  ((tr.frames.drop (r.oldest - 1)).take (r.newest + 1 - r.oldest)).flatten

lemma extend_nil (tr : Trace) (c : Conn) : tr.extend ⟨c, [], []⟩ = tr := by
  simp [extend]

lemma extend_extend (tr : Trace) (r r' : Handled) :
    (tr.extend r).extend r' = tr.extend ⟨r'.conn, r.frames ++ r'.frames, r.out ++ r'.out⟩ := by
  simp [extend]

lemma ranges_extend (tr : Trace) (r : Handled) :
    (tr.extend r).ranges = tr.ranges ++ r.out.filterMap Out.range? := by
  simp [ranges, extend]

lemma pcm_append {tr tr' : Trace} {r : Range} {new : List Bytes}
    (hframes : tr'.frames = tr.frames ++ new) (h1 : 1 ≤ r.oldest)
    (hle : r.oldest ≤ r.newest) (hr : r.newest ≤ tr.frames.length) : tr'.pcm r = tr.pcm r := by
  rw [pcm, pcm, hframes, drop_append_of_le_length (by omega), take_append_of_le_length]
  rw [length_drop]
  omega

end Trace

namespace Conn

def flushed (c : Conn) : ℕ := c.seq - c.batchFrames

def unanswered (c : Conn) : ℕ :=
  match c.pending with
  | some p => p.oldestSeq
  | none => c.flushed + 1

structure Inv (c : Conn) (tr : Trace) : Prop where
  seq_eq : c.seq = tr.frames.length
  batch_le : c.batchFrames ≤ c.seq
  sizes : ∀ f ∈ tr.frames, f.length = frameBytes
  pcm_eq : c.pcm = (tr.frames.drop c.flushed).flatten
  batch : 0 < c.batchFrames → c.batchOldestSeq = c.flushed + 1 ∧ c.batchNewestSeq = c.seq
  pending : ∀ p ∈ c.pending, 1 ≤ p.oldestSeq ∧ p.oldestSeq ≤ p.newestSeq ∧ p.newestSeq = c.flushed
  tiles : c.closeAfterWrite = false → TilesFrom 1 tr.ranges c.unanswered

section

variable {c c' : Conn} {tr : Trace} {r r' : Handled}

lemma Inv.new (config : Config) (now jitter : Ms) : (Conn.new config now jitter).Inv ⟨[], []⟩ where
  seq_eq := rfl
  batch_le := le_rfl
  sizes := by simp
  pcm_eq := rfl
  batch := by simp [Conn.new]
  pending := by simp [Conn.new]
  tiles _ := rfl

lemma Inv.length_pcm (h : c.Inv tr) : c.pcm.length = frameBytes * c.batchFrames := by
  have hall : ∀ f ∈ tr.frames.drop c.flushed, f.length = frameBytes :=
    fun f hf => h.sizes f (mem_of_mem_drop hf)
  have hsum : ∀ l : List Bytes, (∀ f ∈ l, f.length = frameBytes) →
      l.flatten.length = frameBytes * l.length := by
    intro l hl
    induction l with
    | nil => rfl
    | cons f l ih =>
      rw [flatten_cons, length_append, hl f (by simp),
        ih fun x hx => hl x (mem_cons_of_mem _ hx), length_cons]
      ring
  rw [h.pcm_eq, hsum _ hall, length_drop, ← h.seq_eq, flushed,
    Nat.sub_sub_self h.batch_le]

structure Keeps (c : Conn) (r : Handled) : Prop where
  pending : r.conn.pending = c.pending
  flushed : r.conn.flushed = c.flushed
  out : ∀ o ∈ r.out, o.range? = none
  inv : ∀ tr, c.Inv tr → r.conn.Inv (tr.extend r)

lemma Keeps.trans (h : c.Keeps r) (h' : r.conn.Keeps r') :
    c.Keeps ⟨r'.conn, r.frames ++ r'.frames, r.out ++ r'.out⟩ where
  pending := h'.pending.trans h.pending
  flushed := h'.flushed.trans h.flushed
  out o ho := (mem_append.mp ho).elim (h.out o) (h'.out o)
  inv tr hinv := by
    have := h'.inv _ (h.inv tr hinv)
    rwa [Trace.extend_extend] at this

lemma Keeps.of_eq {out : List Out} (hpcm : c'.pcm = c.pcm)
    (hoseq : c'.batchOldestSeq = c.batchOldestSeq) (hnseq : c'.batchNewestSeq = c.batchNewestSeq) (hframes : c'.batchFrames = c.batchFrames)
    (hseq : c'.seq = c.seq) (hpending : c'.pending = c.pending)
    (hclose : c'.closeAfterWrite = false → c.closeAfterWrite = false)
    (hout : ∀ o ∈ out, o.range? = none) : c.Keeps ⟨c', [], out⟩ := by
  have hflushed : c'.flushed = c.flushed := by rw [Conn.flushed, Conn.flushed, hseq, hframes]
  refine ⟨hpending, hflushed, hout, fun tr h => ?_⟩
  have hranges : (tr.extend ⟨c', [], out⟩).ranges = tr.ranges := by
    rw [Trace.ranges_extend, filterMap_eq_nil_iff.mpr hout, append_nil]
  have htr : (tr.extend ⟨c', [], out⟩).frames = tr.frames := append_nil _
  refine ⟨?_, ?_, ?_, ?_, ?_, ?_, ?_⟩
  · rw [htr, hseq, h.seq_eq]
  · rw [hframes, hseq]
    exact h.batch_le
  · rw [htr]
    exact h.sizes
  · rw [htr, hpcm, hflushed, h.pcm_eq]
  · rw [hframes, hoseq, hnseq, hflushed, hseq]
    exact h.batch
  · rw [hpending, hflushed]
    exact h.pending
  · intro hc
    rw [hranges, unanswered, hpending, hflushed]
    exact h.tiles (hclose hc)

lemma Keeps.record {payload : Bytes} (hlen : payload.length = frameBytes) (now : Ms) :
    c.Keeps ⟨c.recordPcm payload now, [payload], []⟩ := by
  have hflushed : (c.recordPcm payload now).flushed = c.flushed := Nat.add_sub_add_right ..
  refine ⟨rfl, hflushed, by simp, fun tr h => ?_⟩
  have hdrop : c.flushed ≤ tr.frames.length := h.seq_eq ▸ Nat.sub_le ..
  refine ⟨?_, ?_, ?_, ?_, ?_, ?_, ?_⟩
  · simp [recordPcm, recordBatchFrame, Trace.extend, h.seq_eq]
  · exact Nat.add_le_add_right h.batch_le 1
  · intro f hf
    rcases mem_append.mp hf with hf | hf
    · exact h.sizes f hf
    · rw [mem_singleton.mp hf, hlen]
  · rw [hflushed]
    simp only [recordPcm, Trace.extend]
    rw [drop_append_of_le_length hdrop, flatten_append, ← h.pcm_eq]
    simp
  · intro _
    rw [hflushed]
    refine ⟨?_, rfl⟩
    by_cases h0 : c.batchFrames = 0
    · simp [recordPcm, recordBatchFrame, h0, Conn.flushed]
    · simpa [recordPcm, recordBatchFrame, h0] using (h.batch (Nat.pos_of_ne_zero h0)).1
  · rw [hflushed]
    exact h.pending
  · intro hc
    have hranges : (tr.extend ⟨c.recordPcm payload now, [payload], []⟩).ranges = tr.ranges := by
      simp [Trace.ranges_extend]
    rw [hranges, unanswered, hflushed]
    exact h.tiles hc

lemma Keeps.refl (c : Conn) : c.Keeps ⟨c, [], []⟩ :=
  Keeps.of_eq rfl rfl rfl rfl rfl rfl id (by simp)

lemma clientRule_keeps : ClientRule Keeps where
  refl := Keeps.refl
  trans h h' _ := h.trans h'
  input _ _ := Keeps.of_eq rfl rfl rfl rfl rfl rfl id (by simp)
  start _ := Keeps.of_eq rfl rfl rfl rfl rfl rfl id (by simp)
  record _ _ now hlen := Keeps.record hlen now
  pong _ _ := Keeps.of_eq rfl rfl rfl rfl rfl rfl id (by simp [Out.range?])
  close _ _ := Keeps.of_eq rfl rfl rfl rfl rfl rfl (by simp) (by simp [Out.range?])
  respond _ _ _ _ := Keeps.of_eq rfl rfl rfl rfl rfl rfl (by simp) (by simp [Out.range?])
  upgrade _ _ := Keeps.of_eq rfl rfl rfl rfl rfl rfl id (by simp [Out.range?])

theorem read_keeps {startMessageOk : Bytes → Bool} {clock : ℕ → Ms} {reads : List ReadResult}
    (h : c.read startMessageOk clock reads = some r) : c.Keeps r :=
  clientRule_keeps.read h

lemma writeLoop_keeps {writes : List WriteResult} (h : c.writeLoop writes = some c') :
    c.Keeps ⟨c', [], []⟩ := by
  fun_induction writeLoop c writes with
  | case1 | case2 | case6 =>
    cases h
    exact Keeps.refl _
  | case3 c ws _ ih | case7 c ws _ ih => exact ih h
  | case4 c ws _ ih =>
    have hall : c.Keeps ⟨{ c with outPending := false }, [], []⟩ :=
      Keeps.of_eq rfl rfl rfl rfl rfl rfl id (by simp)
    exact hall.trans (ih h)
  | case5 | case8 => cases h

theorem write_keeps {writes : List WriteResult} (h : c.write writes = some c') :
    c.Keeps ⟨c', [], []⟩ := by
  obtain ⟨c₁, hloop, h⟩ := Option.bind_eq_some_iff.mp h
  split_ifs at h
  cases h
  exact writeLoop_keeps hloop

/-! ## Batches and answers -/

lemma Inv.flushed_le (h : c.Inv tr) : c.flushed ≤ tr.frames.length := h.seq_eq ▸ Nat.sub_le ..

lemma Inv.pcm_batch (h : c.Inv tr) (hpos : 0 < c.batchFrames) :
    c.pcm = tr.pcm ⟨c.batchOldestSeq, c.batchNewestSeq⟩ := by
  obtain ⟨hold, hnew⟩ := h.batch hpos
  have hle := h.flushed_le
  rw [h.pcm_eq, Trace.pcm, hold, hnew, h.seq_eq, take_of_length_le, Nat.add_sub_cancel]
  simp only [length_drop]
  omega

lemma Inv.unanswered_le (h : c.Inv tr) : c.unanswered ≤ tr.frames.length + 1 := by
  have hle := h.flushed_le
  unfold unanswered
  split
  · rename_i p hp
    have := h.pending p hp
    omega
  · omega

lemma Inv.submit {p : Pending} (h : c.Inv tr) (hnone : c.pending = none) (hpos : 0 < c.batchFrames)
    (hold : p.oldestSeq = c.batchOldestSeq) (hnew : p.newestSeq = c.batchNewestSeq) :
    (c.drain.setPending (some p)).Inv tr := by
  obtain ⟨hbold, hbnew⟩ := h.batch hpos
  have hflushed : c.flushed + 1 ≤ c.seq := by
    have := h.batch_le
    unfold flushed
    omega
  refine ⟨h.seq_eq, Nat.zero_le _, h.sizes, ?_, ?_, ?_, ?_⟩
  · show [] = (tr.frames.drop c.seq).flatten
    rw [h.seq_eq, drop_length, flatten_nil]
  · intro hlt
    exact absurd hlt (lt_irrefl 0)
  · rintro _ ⟨⟩
    rw [hold, hnew, hbold, hbnew]
    exact ⟨Nat.le_add_left .., hflushed, rfl⟩
  · intro hc
    have htiles := h.tiles hc
    rw [unanswered, hnone] at htiles
    show TilesFrom 1 tr.ranges p.oldestSeq
    rwa [hold, hbold]

lemma Inv.answer {p : Pending} {o : Out} (h : c.Inv tr) (hp : c.pending = some p)
    (ho : o.range? = some ⟨p.oldestSeq, p.newestSeq⟩) :
    ((c.setPending none).enqueueGeneratedText o).conn.Inv
      (tr.extend ((c.setPending none).enqueueGeneratedText o)) := by
  obtain ⟨-, hle, hnew⟩ := h.pending p hp
  unfold enqueueGeneratedText
  split_ifs with hc
  · rw [Trace.extend_nil]
    refine ⟨h.seq_eq, h.batch_le, h.sizes, h.pcm_eq, h.batch, by simp [setPending], ?_⟩
    intro hopen
    exact absurd (hc.symm.trans hopen) (by simp)
  · have htr : ∀ r : Conn, (tr.extend ⟨r, [], [o]⟩).frames = tr.frames := fun r => append_nil _
    have hranges : ∀ r : Conn, (tr.extend ⟨r, [], [o]⟩).ranges =
        tr.ranges ++ [⟨p.oldestSeq, p.newestSeq⟩] := fun r => by
      rw [Trace.ranges_extend]
      simp [ho]
    have htiles := h.tiles (Bool.eq_false_iff.mpr hc)
    rw [unanswered, hp] at htiles
    refine ⟨?_, h.batch_le, ?_, ?_, h.batch, by simp [enqueueRaw, setPending], ?_⟩
    · rw [htr]
      exact h.seq_eq
    · rw [htr]
      exact h.sizes
    · rw [htr]
      exact h.pcm_eq
    · intro _
      have hun : (c.setPending none).enqueueRaw.unanswered = p.newestSeq + 1 :=
        congrArg (· + 1) hnew.symm
      rw [hranges, hun]
      exact htiles.concat rfl hle

end

end Conn

end SttBench.OxcamlEpoll
