import SttBench.Core.Courier
import SttBench.RustSync.Pool
import SttBench.RustSync.Session

/-!
# rust-sync: the two threads

The WebSocket loop, the inference loop, and the channels between them.
-/

namespace SttBench.RustSync

open Ascii Tiling Function

inductive Cmd
  | Submit (owner tag : ℕ) (body : Bytes) (cpuPasses : ℕ)
  | Abort (owner : ℕ)
deriving DecidableEq, Repr

structure Setup where
  config : Config
  fromSlice : Bytes → Except String InferResponse
  startMessage : Bytes → Bool

structure Gateway where
  conns : ℕ → Option Conn
  nextId : ℕ
  timers : List (Instant × ℕ)
  closing : List ℕ
  cmds : Channel Cmd
  dones : Channel Done
  pool : Pool
  traces : ℕ → Trace

inductive Event
  /-- Thread A accepts a connection, which may fail to register. -/
  | Accept (now : Instant) (phase : Duration) (registered : Bool)
  /-- Thread A handles readiness of a WebSocket. -/
  | Ready (id : ℕ) (readable writable : Bool) (io : WsIo)
  /-- Thread A receives a completion. -/
  | Result (now : Instant) (flush : WsFlush)
  /-- Thread A pops the timer `(due, id)`; `clock` is read again if an error is sent. -/
  | Timer (due : Instant) (id : ℕ) (now clock : Instant) (flush : WsFlush)
  /-- Thread A drops a connection that is to be closed. -/
  | Reap (id : ℕ)
  /-- Thread B handles readiness of a slot. -/
  | Drive (idx : ℕ) (w : Wake)
  /-- Thread B receives a command. -/
  | Command (now : Instant) (connect : Bool)

def firstConnId : ℕ := 2

namespace Gateway

def start (g : Setup) (now : Instant) : Gateway where
  conns _ := none
  nextId := firstConnId
  timers := []
  closing := []
  cmds := .empty
  dones := .empty
  pool := Pool.new now g.config.inferenceClients
  traces _ := .start

def handled (s : Gateway) (id : ℕ) (r : Conn.Handled) : Gateway :=
  { s with conns := update s.conns id (some r.conn),
           traces := update s.traces id ((s.traces id).extend r),
           closing := if r.outcome = .Close then s.closing ++ [id] else s.closing }

def isNextTimer (s : Gateway) (due : Instant) (id : ℕ) : Bool :=
  (due, id) ∈ s.timers ∧ ∀ e ∈ s.timers, due < e.1 ∨ (due = e.1 ∧ id ≤ e.2)

def tick (g : Setup) (s : Gateway) (id : ℕ) (c : Conn) (now clock : Instant) (flush : WsFlush) :
    Gateway :=
  match c.onTimer now g.config with
  | (c, .Keep) =>
    { s with conns := update s.conns id (some c),
             timers := (c.deadline, id) :: s.timers }
  | (c, .Flush batch) =>
    let c' := c.beginPending batch now
    { s with conns := update s.conns id (some c'),
             cmds := s.cmds.send (.Submit id batch.tag c.pcm g.config.cpuPasses),
             timers := (c'.deadline, id) :: s.timers }
  | (c, .Timeout elapsed) =>
    let r := c.deliver (.error (timeoutError elapsed)) g.config clock flush
    { s.handled id r with
      cmds := s.cmds.send (.Abort id),
      timers := if r.outcome = .Close then s.timers else (r.conn.deadline, id) :: s.timers }

def report (s : Gateway) (d : Option Done) : Gateway :=
  match d with
  | none => s
  | some d => { s with dones := s.dones.send d }

def execute (g : Setup) (s : Gateway) (now : Instant) (connect : Bool) : Cmd → Option Gateway
  | .Submit owner tag body cpuPasses =>
    match s.pool.submit g.config owner tag body cpuPasses now connect with
    | .ok (p, d) => some ({ s with pool := p }.report d)
    | .error _ => none
  | .Abort owner => some { s with pool := s.pool.abortOwner owner }

def step (g : Setup) (s : Gateway) : Event → Option Gateway
  | .Accept now phase registered =>
    let c := Conn.new s.nextId g.config now phase
    if registered then
      some { s with conns := update s.conns s.nextId (some c), nextId := s.nextId + 1,
                    timers := (c.deadline, s.nextId) :: s.timers }
    else some { s with nextId := s.nextId + 1 }
  | .Ready id readable writable io =>
    match s.conns id with
    | none => some s
    | some c =>
      match c.onReady g.startMessage readable writable io with
      | .ok r => some (s.handled id r)
      | .error _ => none
  | .Result now flush =>
    match s.dones.recv? with
    | none => none
    | some (d, dones) =>
      match s.conns d.owner with
      | none => some { s with dones := dones }
      | some c => some ({ s with dones := dones }.handled d.owner
          (c.onDone d.tag d.result g.config now flush))
  | .Timer due id now clock flush =>
    if s.isNextTimer due id ∧ due ≤ now then
      match s.conns id with
      | none => some { s with timers := s.timers.erase (due, id) }
      | some c =>
        some ({ s with timers := s.timers.erase (due, id) }.tick g id c now clock flush)
    else none
  | .Reap id =>
    if id ∈ s.closing then
      match s.conns id with
      | none => some { s with closing := s.closing.erase id }
      | some c => some
          { s with closing := s.closing.erase id, conns := update s.conns id none,
                   cmds := if c.hasPending then s.cmds.send (.Abort id) else s.cmds }
    else none
  | .Drive idx w =>
    match s.pool.onEvent g.fromSlice idx w.writable w.io w.connect with
    | .ok (p, d) => some ({ s with pool := p }.report d)
    | .error _ => none
  | .Command now connect =>
    match s.cmds.recv? with
    | none => none
    | some (cmd, cmds) => { s with cmds := cmds }.execute g now connect cmd

end Gateway

def gateway (g : Setup) (now : Instant) : TransitionSystem Gateway Event :=
  TransitionSystem.ofFun (Gateway.start g now) (Gateway.step g)

/-! ## The invariant of thread A -/

namespace Gateway

structure Inv (s : Gateway) : Prop where
  pool : s.pool.WF
  conn : ∀ id c, s.conns id = some c → c.Inv (s.traces id) ∧ id < s.nextId
  sent : ∀ o t body cpuPasses, .Submit o t body cpuPasses ∈ s.cmds.log →
    o < s.nextId ∧ ∀ c, s.conns o = some c → t ≤ c.flushed
  fresh : ∀ id, s.nextId ≤ id → s.traces id = .start

section

variable {g : Setup} {s s' : Gateway} {id : ℕ} {c c' : Conn}

lemma Inv.start (g : Setup) (now : Instant) : (start g now).Inv where
  pool := Pool.WF.new now _
  conn := by simp [Gateway.start]
  sent := by simp [Gateway.start, Channel.empty]
  fresh _ _ := rfl

lemma Inv.setConn (h : s.Inv) {tr : Trace} (timers : List (Instant × ℕ)) (closing : List ℕ)
    (dones : Channel Done) (hc : s.conns id = some c) (hinv : c'.Inv tr)
    (hflushed : c.flushed ≤ c'.flushed) :
    Inv { s with conns := update s.conns id (some c'), timers := timers,
                 closing := closing, dones := dones,
                 traces := update s.traces id tr } where
  pool := h.pool
  conn id' c'' hc' := by
    obtain ⟨rfl, rfl⟩ | ⟨hid, hc'⟩ := Tables.update_some_iff.mp hc'
    · simpa using ⟨hinv, (h.conn _ _ hc).2⟩
    · simpa [hid] using h.conn id' c'' hc'
  sent o t body cpuPasses hmem := by
    obtain ⟨hlt, hle⟩ := h.sent o t body cpuPasses hmem
    refine ⟨hlt, fun c'' hc' => ?_⟩
    obtain ⟨rfl, rfl⟩ | ⟨-, hc'⟩ := Tables.update_some_iff.mp hc'
    · exact le_trans (hle c hc) hflushed
    · exact hle c'' hc'
  fresh id' hid' := by
    have hlt : id < id' := lt_of_lt_of_le (h.conn _ _ hc).2 hid'
    simp only [update_of_ne hlt.ne']
    exact h.fresh id' hid'

lemma Inv.send (h : s.Inv) {cmd : Cmd}
    (hcmd : ∀ o t body cpuPasses, cmd = .Submit o t body cpuPasses →
      o < s.nextId ∧ ∀ c, s.conns o = some c → t ≤ c.flushed) :
    Inv { s with cmds := s.cmds.send cmd } where
  pool := h.pool
  conn := h.conn
  sent o t body cpuPasses hmem := by
    rcases List.mem_append.mp hmem with hmem | hmem
    · exact h.sent o t body cpuPasses hmem
    · exact hcmd o t body cpuPasses (List.mem_singleton.mp hmem).symm
  fresh := h.fresh

lemma Inv.accept (h : s.Inv) (now : Instant) (phase : Duration) (timers : List (Instant × ℕ)) :
    Inv { s with
      conns := update s.conns s.nextId (some (Conn.new s.nextId g.config now phase)),
      nextId := s.nextId + 1, timers := timers } where
  pool := h.pool
  conn id c hc := by
    obtain ⟨rfl, rfl⟩ | ⟨-, hc⟩ := Tables.update_some_iff.mp hc
    · exact ⟨h.fresh _ le_rfl ▸ Conn.Inv.new .., Nat.lt_succ_self _⟩
    · exact ⟨(h.conn id c hc).1, Nat.lt_succ_of_lt (h.conn id c hc).2⟩
  sent o t body cpuPasses hmem := by
    obtain ⟨hlt, hle⟩ := h.sent o t body cpuPasses hmem
    refine ⟨Nat.lt_succ_of_lt hlt, fun c hc => hle c ?_⟩
    simpa only [update_of_ne hlt.ne] using hc
  fresh id hid := h.fresh id (Nat.le_of_succ_le hid)

lemma Inv.skip (h : s.Inv) : Inv { s with nextId := s.nextId + 1 } where
  pool := h.pool
  conn id c hc := ⟨(h.conn id c hc).1, Nat.lt_succ_of_lt (h.conn id c hc).2⟩
  sent o t body cpuPasses hmem :=
    ⟨Nat.lt_succ_of_lt (h.sent o t body cpuPasses hmem).1, (h.sent o t body cpuPasses hmem).2⟩
  fresh id hid := h.fresh id (Nat.le_of_succ_le hid)

lemma Inv.drop (h : s.Inv) (id : ℕ) (closing : List ℕ) :
    Inv { s with conns := update s.conns id none, closing := closing } where
  pool := h.pool
  conn id' c hc := h.conn id' c (Tables.update_none_iff.mp hc).2
  sent o t body cpuPasses hmem := by
    obtain ⟨hlt, hle⟩ := h.sent o t body cpuPasses hmem
    exact ⟨hlt, fun c hc => hle c (Tables.update_none_iff.mp hc).2⟩
  fresh := h.fresh

end

/-! ## The protocol the two threads follow -/

end Gateway

def Cmd.toCourier (config : Config) : Cmd → Courier.Cmd ℕ Bytes
  | .Submit owner tag body cpuPasses => .Submit owner tag (Slot.request config body cpuPasses)
  | .Abort owner => .Abort owner

def Done.toReport (d : Done) : Courier.Report ℕ InferResult := ⟨d.owner, d.tag, d.result⟩

@[simp] lemma Done.toReport_owner (d : Done) : d.toReport.owner = d.owner := rfl

def Conn.awaited (config : Config) (c : Conn) (tr : Trace) : Option (ℕ × Bytes) :=
  c.pending.map fun p => (p.batch.tag,
    Slot.request config (tr.pcm ⟨p.batch.oldestSeq, p.batch.newestSeq⟩) config.cpuPasses)

def ResultOf (Answers : Bytes → InferResponse → Prop) (req : Bytes) (result : InferResult) : Prop :=
  ∀ infer, result = .ok infer → Answers req infer

namespace Gateway

def courier (g : Setup) (s : Gateway) : Courier ℕ Bytes InferResult where
  pend o := (s.conns o).bind fun c => c.awaited g.config (s.traces o)
  cmds := s.cmds.map (Cmd.toCourier g.config)
  reports := s.dones.map Done.toReport
  held := s.pool.held

def parsed (fromSlice : Bytes → Except String InferResponse) (slot : Slot) (w : Wake) :
    Option InferResponse :=
  match slot.drive fromSlice w.writable w.io with
  | .ok (_, .Done (.ok infer)) => some infer
  | _ => none

def ServerAnswers (g : Setup) (Answers : Bytes → InferResponse → Prop) (s : Gateway) : Event → Prop
  | .Drive idx w => ∀ slot ∈ s.pool.slots[idx]?, ∀ infer ∈ parsed g.fromSlice slot w,
      Answers slot.req infer
  | _ => True

instance (g : Setup) (Answers : Bytes → InferResponse → Prop) [∀ req, DecidablePred (Answers req)]
    (s : Gateway) : ∀ e, Decidable (ServerAnswers g Answers s e)
  | .Drive idx w => inferInstanceAs (Decidable (∀ slot ∈ s.pool.slots[idx]?,
      ∀ infer ∈ parsed g.fromSlice slot w, Answers slot.req infer))
  | .Accept .. => isTrue trivial
  | .Ready .. => isTrue trivial
  | .Result .. => isTrue trivial
  | .Timer .. => isTrue trivial
  | .Reap _ => isTrue trivial
  | .Command .. => isTrue trivial

def Answered (g : Setup) (s s' : Gateway) (id : ℕ) : Prop :=
  ∃ c p result now, s.conns id = some c ∧ c.pending = some p ∧
    (s'.traces id).messages =
      (s.traces id).messages ++ [Conn.answerFor p.batch result g.config now] ∧
    ∀ infer, result = .ok infer →
      ∃ d ∈ s.dones.log, d.owner = id ∧ d.tag = p.batch.tag ∧ d.result = .ok infer

structure Move (g : Setup) (Answers : Bytes → InferResponse → Prop) (s s' : Gateway) : Prop where
  inv : s'.Inv
  sim : s'.courier g = s.courier g ∨
    Courier.Step (ResultOf Answers) (s.courier g) (s'.courier g)
  frames : ∀ id, ∃ new, (s'.traces id).frames = (s.traces id).frames ++ new
  messages : ∀ id, (s'.traces id).messages = (s.traces id).messages ∨ Answered g s s' id

section

variable {g : Setup} {Answers : Bytes → InferResponse → Prop} {s s' : Gateway} {id : ℕ}
  {c c' : Conn} {tr : Trace}

lemma awaited_extend (h : c.Inv tr) (r : Conn.Handled) (hpending : r.conn.pending = c.pending) :
    r.conn.awaited g.config (tr.extend r) = c.awaited g.config tr := by
  rw [Conn.awaited, Conn.awaited, hpending]
  cases hp : c.pending with
  | none => rfl
  | some p =>
    obtain ⟨hle, hnewest, -⟩ := h.batch p hp
    have h1 : 1 ≤ p.batch.oldestSeq := by
      have := h.tiles.le
      rwa [Conn.unanswered, hp] at this
    have hlen : p.batch.newestSeq ≤ tr.frames.length := by
      rw [hnewest, ← h.seq_eq, Conn.flushed]
      omega
    rw [Option.map_some, Option.map_some, Trace.pcm_append rfl h1 hle hlen]

lemma pend_update (conns : ℕ → Option Conn) (traces : ℕ → Trace) (id : ℕ) (c' : Conn)
    (tr : Trace) :
    (fun o => (update conns id (some c') o).bind fun c =>
      c.awaited g.config (update traces id tr o)) =
    update (fun o => (conns o).bind fun c => c.awaited g.config (traces o)) id
      (c'.awaited g.config tr) := by
  funext o
  by_cases ho : o = id
  · subst ho
    simp
  · simp [update_of_ne ho]

lemma pend_update_same {conns : ℕ → Option Conn} {traces : ℕ → Trace} (hc : conns id = some c)
    (hawaited : c'.awaited g.config tr = c.awaited g.config (traces id)) :
    (fun o => (update conns id (some c') o).bind fun c =>
      c.awaited g.config (update traces id tr o)) =
    fun o => (conns o).bind fun c => c.awaited g.config (traces o) := by
  rw [pend_update, hawaited, update_eq_iff]
  exact ⟨by simp [hc], fun _ _ => rfl⟩

lemma Move.of_traces (hinv : s'.Inv) (htraces : s'.traces = s.traces)
    (hsim : s'.courier g = s.courier g ∨
      Courier.Step (ResultOf Answers) (s.courier g) (s'.courier g)) : Move g Answers s s' where
  inv := hinv
  sim := hsim
  frames id := ⟨[], by rw [htraces, List.append_nil]⟩
  messages id := Or.inl (by rw [htraces])

lemma Move.of_handled {r : Conn.Handled} (hinv : s'.Inv)
    (htraces : s'.traces = update s.traces id ((s.traces id).extend r))
    (hmessages : ((s.traces id).extend r).messages = (s.traces id).messages ∨ Answered g s s' id)
    (hsim : s'.courier g = s.courier g ∨
      Courier.Step (ResultOf Answers) (s.courier g) (s'.courier g)) : Move g Answers s s' where
  inv := hinv
  sim := hsim
  frames id' := by
    rw [htraces]
    by_cases hid : id' = id
    · subst hid
      exact ⟨r.frames, by simp [Trace.extend]⟩
    · exact ⟨[], by rw [update_of_ne hid, List.append_nil]⟩
  messages id' := by
    by_cases hid : id' = id
    · subst hid
      exact hmessages.imp (fun hm => by rw [htraces, update_self, hm]) id
    · exact Or.inl (by rw [htraces, update_of_ne hid])

variable {now : Instant} {timers : List (Instant × ℕ)}

lemma move_accept (h : s.Inv) {phase : Duration} {registered : Bool}
    (hstep : s.step g (.Accept now phase registered) = some s') : Move g Answers s s' := by
  -- the new id is not in use, and the new connection waits for nothing
  have hnew : s.conns s.nextId = none := by
    cases hc : s.conns s.nextId with
    | none => rfl
    | some c => exact absurd (h.conn _ c hc).2 (lt_irrefl _)
  simp only [step] at hstep
  split_ifs at hstep <;> cases hstep
  · refine Move.of_traces (h.accept now phase _) rfl (Or.inl ?_)
    simp only [courier, Courier.mk.injEq, and_true]
    funext o
    by_cases ho : o = s.nextId
    · subst ho
      simp [hnew, Conn.awaited, Conn.new]
    · simp [update_of_ne ho]
  · exact Move.of_traces h.skip rfl (Or.inl rfl)

lemma move_quiet (h : s.Inv) {r : Conn.Handled} {dones : Channel Done}
    (hc : s.conns id = some c) (hinv : r.conn.Inv ((s.traces id).extend r))
    (hpending : r.conn.pending = c.pending) (hflushed : r.conn.flushed = c.flushed)
    (hmessages : ((s.traces id).extend r).messages = (s.traces id).messages)
    (hreports : dones.map Done.toReport = s.dones.map Done.toReport ∨
      ∃ d, s.dones.recv? = some (d, dones)) :
    Move g Answers s ({ s with dones := dones }.handled id r) := by
  refine Move.of_handled (h.setConn _ _ _ hc hinv hflushed.ge) rfl (Or.inl hmessages) ?_
  have hsame := pend_update_same (g := g) hc (awaited_extend (h.conn id c hc).1 r hpending)
  rcases hreports with hreports | ⟨d, hrecv⟩
  · left
    simp only [courier, handled, Courier.mk.injEq, and_true, true_and]
    exact ⟨hsame, hreports⟩
  · right
    have := Courier.Step.discard (R := ResultOf Answers) (s := s.courier g) d.toReport
      (dones.map Done.toReport) (Channel.map_recv? _ hrecv)
    simpa only [courier, handled, hsame] using this

lemma move_ready (h : s.Inv) {readable writable : Bool} {io : WsIo}
    (hstep : s.step g (.Ready id readable writable io) = some s') : Move g Answers s s' := by
  simp only [step] at hstep
  cases hc : s.conns id with
  | none =>
    simp only [hc, Option.some.injEq] at hstep
    exact Move.of_traces (hstep ▸ h) (hstep ▸ rfl) (Or.inl (hstep ▸ rfl))
  | some c =>
    simp only [hc] at hstep
    cases hr : c.onReady g.startMessage readable writable io with
    | error e => simp [hr] at hstep
    | ok r =>
      simp only [hr, Option.some.injEq] at hstep
      obtain ⟨hinv, hp, hf, hm⟩ := (h.conn id c hc).1.onReady hr
      exact hstep ▸ move_quiet h hc hinv hp hf hm (Or.inl rfl)

lemma move_result (h : s.Inv) {flush : WsFlush}
    (hstep : s.step g (.Result now flush) = some s') : Move g Answers s s' := by
  simp only [step] at hstep
  cases hrecv : s.dones.recv? with
  | none => simp [hrecv] at hstep
  | some x =>
    obtain ⟨d, dones⟩ := x
    have hrecv' := Channel.map_recv? Done.toReport hrecv
    have hmem : d ∈ s.dones.log := by
      obtain ⟨-, -, hunread, -⟩ := Channel.recv?_eq_some hrecv
      rw [← s.dones.taken_append_unread, hunread]
      simp
    simp only [hrecv] at hstep
    cases hc : s.conns d.owner with
    | none =>
      simp only [hc, Option.some.injEq] at hstep
      subst hstep
      exact Move.of_traces { h with } rfl
        (Or.inr (Courier.Step.discard d.toReport (dones.map Done.toReport) hrecv'))
    | some c =>
      simp only [hc, Option.some.injEq] at hstep
      subst hstep
      have hci := (h.conn _ c hc).1
      unfold Conn.onDone
      split_ifs with htag
      · -- the completion of the pending batch
        obtain ⟨p, hp, htag⟩ : ∃ p, c.pending = some p ∧ p.batch.tag = d.tag := by
          simpa [Option.any_eq_true] using htag
        obtain ⟨hinv, hpend, hflushed, -, hmessages⟩ :=
          hci.deliver d.result g.config now flush
        refine Move.of_handled (h.setConn _ _ _ hc hinv hflushed.ge) rfl (Or.inr ?_) (Or.inr ?_)
        · refine ⟨c, p, d.result, now, hc, hp, ?_, fun infer hi => ⟨d, hmem, rfl, htag.symm, hi⟩⟩
          simpa [handled, hp] using hmessages
        · have hwaits : (s.courier g).pend d.owner = some (d.tag, Slot.request g.config
              ((s.traces d.owner).pcm ⟨p.batch.oldestSeq, p.batch.newestSeq⟩)
              g.config.cpuPasses) := by
            simp [courier, hc, Conn.awaited, hp, htag]
          have hstep := Courier.Step.deliver (R := ResultOf Answers) d.toReport
            (dones.map Done.toReport) _ hrecv' hwaits
          have hawait : (c.deliver d.result g.config now flush).conn.awaited g.config
              ((s.traces d.owner).extend (c.deliver d.result g.config now flush)) = none := by
            rw [Conn.awaited, hpend, Option.map_none]
          simpa only [courier, handled, pend_update, hawait, Done.toReport_owner] using hstep
      · -- a late completion, dropped
        refine move_quiet h hc ?_ rfl rfl ?_ (Or.inr ⟨d, hrecv⟩)
        · simpa [Trace.extend] using hci
        · simp [Trace.messages_extend]

lemma move_flush (h : s.Inv) {batch : Batch} (now : Instant)
    (hc : s.conns id = some c) (hci : c'.Inv (s.traces id)) (hflushed : c'.flushed = c.flushed)
    (hcovers : c'.Covers batch) (hidle : c.pending = none) :
    Move g Answers s
      { s with conns := update s.conns id (some (c'.beginPending batch now)),
               cmds := s.cmds.send (.Submit id batch.tag c'.pcm g.config.cpuPasses),
               timers := timers } := by
  obtain ⟨hinv, hnew⟩ := hci.beginPending hcovers now
  have hlater : c.flushed < batch.tag := by
    rw [Batch.tag, hcovers.oldest, hflushed]
    exact Nat.lt_succ_self _
  have hgrow : c.flushed ≤ (c'.beginPending batch now).flushed := by
    rw [hnew]
    exact le_trans hlater.le hcovers.nonempty
  have hupd := h.setConn timers s.closing s.dones hc hinv hgrow
  rw [update_eq_self] at hupd
  refine Move.of_traces (hupd.send ?_) rfl (Or.inr ?_)
  · rintro o t body cpuPasses ⟨⟩
    refine ⟨(h.conn id c hc).2, fun c'' hc'' => ?_⟩
    obtain rfl : c'.beginPending batch now = c'' := by simpa using hc''
    rw [hnew]
    exact hcovers.nonempty
  · have hwaits : (s.courier g).pend id = none := by
      simp [courier, hc, Conn.awaited, hidle]
    have hfresh : (id, batch.tag) ∉ (s.courier g).cmds.log.filterMap Courier.Cmd.key := by
      intro hmem
      obtain ⟨cmd', hcmd', hkey⟩ := List.mem_filterMap.mp hmem
      obtain ⟨cmd, hcmd, rfl⟩ := List.mem_map.mp hcmd'
      cases cmd with
      | Abort o => simp [Cmd.toCourier, Courier.Cmd.key] at hkey
      | Submit o t body cpuPasses =>
        obtain ⟨rfl, rfl⟩ : o = id ∧ t = batch.tag := by
          simpa [Cmd.toCourier, Courier.Cmd.key] using hkey
        exact absurd ((h.sent o _ body cpuPasses hcmd).2 c hc) (not_le.mpr hlater)
    have hawait : (c'.beginPending batch now).awaited g.config (s.traces id) = some (batch.tag,
        Slot.request g.config c'.pcm g.config.cpuPasses) := by
      rw [hci.pcm_range, ← hcovers.oldest, ← hcovers.newest]
      rfl
    have hstep := Courier.Step.submit (R := ResultOf Answers) id batch.tag
      (Slot.request g.config c'.pcm g.config.cpuPasses) hwaits hfresh
    have hpend := pend_update (g := g) s.conns s.traces id (c'.beginPending batch now) (s.traces id)
    rw [update_eq_self, hawait] at hpend
    simpa only [courier, hpend, Channel.map_send, Cmd.toCourier] using hstep

lemma courier_abort {conns : ℕ → Option Conn} {traces : ℕ → Trace} {closing : List ℕ}
    (hpend : (fun o => (conns o).bind fun c => c.awaited g.config (traces o)) =
      update (s.courier g).pend id none) :
    Courier.Step (ResultOf Answers) (s.courier g)
      (Gateway.courier g { s with conns := conns, traces := traces, timers := timers,
                                  closing := closing, cmds := s.cmds.send (.Abort id) }) := by
  have hstep := Courier.Step.abort (R := ResultOf Answers) (s := s.courier g) id
  rw [← hpend] at hstep
  simpa only [courier, Channel.map_send, Cmd.toCourier] using hstep

lemma move_timeout (h : s.Inv) {elapsed : Duration} {p : Pending}
    (clock : Instant) (flush : WsFlush) (hc : s.conns id = some c) (hci : c'.Inv (s.traces id))
    (hpending : c'.pending = c.pending) (hflushed : c'.flushed = c.flushed)
    (hp : c.pending = some p) :
    Move g Answers s
      { s.handled id (c'.deliver (.error (timeoutError elapsed)) g.config clock flush) with
        cmds := s.cmds.send (.Abort id), timers := timers } := by
  obtain ⟨hinv, hpend, hflushed', -, hmessages⟩ :=
    hci.deliver (.error (timeoutError elapsed)) g.config clock flush
  set r := c'.deliver (.error (timeoutError elapsed)) g.config clock flush
  have hupd := h.setConn timers (s.handled id r).closing s.dones hc hinv
    (hflushed'.trans hflushed).ge
  refine Move.of_handled (hupd.send (by simp)) rfl (Or.inr ?_) (Or.inr (courier_abort ?_))
  · refine ⟨c, p, .error (timeoutError elapsed), clock, hc, hp, ?_, by simp⟩
    simpa [handled, hpending, hp] using hmessages
  · have hawait : r.conn.awaited g.config ((s.traces id).extend r) = none := by
      rw [Conn.awaited, hpend, Option.map_none]
    simp only [handled, pend_update, hawait]
    rfl

lemma move_tick (h : s.Inv) (now clock : Instant) (flush : WsFlush) (hc : s.conns id = some c) :
    Move g Answers s (s.tick g id c now clock flush) := by
  unfold tick
  cases ht : c.onTimer now g.config with
  | mk c' tick =>
    obtain ⟨hci, hpend, hflushed, htimeout, hflush⟩ := (h.conn id c hc).1.onTimer ht
    cases tick with
    | Keep =>
      have hupd := h.setConn ((c'.deadline, id) :: s.timers) s.closing s.dones hc hci hflushed.ge
      rw [update_eq_self] at hupd
      refine Move.of_traces hupd rfl (Or.inl ?_)
      have hawaited : c'.awaited g.config (s.traces id) = c.awaited g.config (s.traces id) := by
        rw [Conn.awaited, Conn.awaited, hpend]
      have hsame := pend_update_same hc hawaited
      rw [update_eq_self] at hsame
      simp only [courier, hsame]
    | Flush batch =>
      have hcovers := hflush batch rfl
      exact move_flush h now hc hci hflushed hcovers (hpend ▸ hcovers.idle)
    | Timeout elapsed =>
      obtain ⟨p, hp⟩ := Option.isSome_iff_exists.mp (htimeout elapsed rfl)
      exact move_timeout h clock flush hc hci hpend hflushed hp

lemma Move.of_timers
    (hmove : Move g Answers { s with timers := timers } s') : Move g Answers s s' :=
  { hmove with }

lemma move_timer (h : s.Inv) {due now clock : Instant} {flush : WsFlush}
    (hstep : s.step g (.Timer due id now clock flush) = some s') : Move g Answers s s' := by
  simp only [step] at hstep
  split_ifs at hstep
  cases hc : s.conns id with
  | none =>
    simp only [hc, Option.some.injEq] at hstep
    exact hstep ▸ Move.of_traces { h with } rfl (Or.inl rfl)
  | some c =>
    simp only [hc, Option.some.injEq] at hstep
    subst hstep
    have h' : Inv { s with timers := s.timers.erase (due, id) } := { h with }
    exact Move.of_timers (move_tick h' now clock flush hc)

lemma move_reap (h : s.Inv) (hstep : s.step g (.Reap id) = some s') : Move g Answers s s' := by
  simp only [step] at hstep
  split_ifs at hstep
  cases hc : s.conns id with
  | none =>
    simp only [hc, Option.some.injEq] at hstep
    exact hstep ▸ Move.of_traces { h with } rfl (Or.inl rfl)
  | some c =>
    have hpend : (fun o => (update s.conns id none o).bind fun c =>
        c.awaited g.config (s.traces o)) = update (s.courier g).pend id none := by
      funext o
      by_cases ho : o = id
      · subst ho
        simp
      · simp [update_of_ne ho, courier]
    simp only [hc, Option.some.injEq] at hstep
    subst hstep
    cases hp : c.pending with
    | some p =>
      rw [if_pos (by simp [Conn.hasPending, hp])]
      exact Move.of_traces ((h.drop id _).send (by simp)) rfl (Or.inr (courier_abort hpend))
    | none =>
      rw [if_neg (by simp [Conn.hasPending, hp])]
      refine Move.of_traces (h.drop id _) rfl (Or.inl ?_)
      have hsame : update (s.courier g).pend id none = (s.courier g).pend := by
        rw [update_eq_self_iff]
        simp [courier, hc, Conn.awaited, hp]
      simp only [courier, hpend, Courier.mk.injEq, and_true]
      exact hsame

lemma move_drive (h : s.Inv) {idx : ℕ} {w : Wake} (hserver : ServerAnswers g Answers s (.Drive idx w))
    (hstep : s.step g (.Drive idx w) = some s') : Move g Answers s s' := by
  simp only [step] at hstep
  cases hev : s.pool.onEvent g.fromSlice idx w.writable w.io w.connect with
  | error e => simp [hev] at hstep
  | ok x =>
    obtain ⟨p, d⟩ := x
    simp only [hev, Option.some.injEq] at hstep
    subst hstep
    obtain ⟨hwf, ⟨rfl, hheld⟩ | ⟨done, slot, rfl, hslot, hwork, hheld, hdrive⟩⟩ :=
      Pool.onEvent_spec h.pool hev
    · refine Move.of_traces { h with pool := hwf } rfl (Or.inl ?_)
      simp only [report, courier, hheld]
    · refine Move.of_traces { h with pool := hwf } rfl (Or.inr ?_)
      have hin : (s.courier g).held idx = some (done.owner, done.tag, slot.req) := by
        exact (Pool.held_eq hslot).trans hwork
      have hfinish := Courier.Step.finish (R := ResultOf Answers) idx done.owner done.tag
        slot.req done.result hin fun infer hi => by
          obtain ⟨slot', hd⟩ := hdrive infer hi
          exact hserver slot hslot infer (by simp [parsed, hd])
      simpa only [report, courier, Channel.map_send, hheld, Done.toReport] using hfinish

lemma move_submit (h : s.Inv) {owner tag cpuPasses : ℕ} {body : Bytes}
    {connect : Bool} {cmds : Channel Cmd}
    (hrecv : s.cmds.recv? = some (.Submit owner tag body cpuPasses, cmds))
    (hstep : { s with cmds := cmds }.execute g now connect (.Submit owner tag body cpuPasses) =
      some s') : Move g Answers s s' := by
  have hrecv' := Channel.map_recv? (Cmd.toCourier g.config) hrecv
  have hlog := (Channel.recv?_eq_some hrecv).1
  simp only [execute] at hstep
  cases hsub : s.pool.submit g.config owner tag body cpuPasses now connect with
  | error e => simp [hsub] at hstep
  | ok x =>
    obtain ⟨p, d⟩ := x
    simp only [hsub, Option.some.injEq] at hstep
    subst hstep
    obtain ⟨hwf, ⟨rfl, hheld⟩ | ⟨rfl, idx, hfree, hheld⟩⟩ := Pool.submit_spec h.pool hsub
    · refine Move.of_traces { h with pool := hwf, sent := hlog ▸ h.sent } rfl (Or.inr ?_)
      have hrefuse := Courier.Step.refuse (R := ResultOf Answers) (s := s.courier g) owner tag
        (Slot.request g.config body cpuPasses) (cmds.map (Cmd.toCourier g.config))
        (.error resetError) hrecv' (by simp [ResultOf])
      simpa only [report, courier, Channel.map_send, hheld, Done.toReport] using hrefuse
    · refine Move.of_traces { h with pool := hwf, sent := hlog ▸ h.sent } rfl (Or.inr ?_)
      have htake := Courier.Step.take (R := ResultOf Answers) (s := s.courier g) owner tag
        (Slot.request g.config body cpuPasses) (cmds.map (Cmd.toCourier g.config)) idx
        hrecv' hfree
      simpa only [report, courier, hheld] using htake

lemma move_abort (h : s.Inv) (hcourier : Courier.Inv (ResultOf Answers) (s.courier g)) {owner : ℕ}
    {cmds : Channel Cmd} (hrecv : s.cmds.recv? = some (.Abort owner, cmds)) :
    Move g Answers s { s with cmds := cmds, pool := s.pool.abortOwner owner } := by
  have hrecv' := Channel.map_recv? (Cmd.toCourier g.config) hrecv
  have hlog := (Channel.recv?_eq_some hrecv).1
  obtain ⟨hwf, hheld⟩ := Pool.abortOwner_spec h.pool owner
  refine Move.of_traces { h with pool := hwf, sent := hlog ▸ h.sent } rfl (Or.inr ?_)
  refine Courier.Step.cancel (s := s.courier g) owner (cmds.map (Cmd.toCourier g.config))
    (s.pool.abortOwner owner).held hrecv' ?_ ?_ ?_ <;>
    rcases hheld with ⟨hnone, hsame⟩ | ⟨idx, t, req, hidx, hdrop⟩
  · rw [hsame]
    exact fun i x hi => hi
  · intro i x hi
    by_cases hne : i = idx
    · simp [hdrop, hne] at hi
    · rwa [hdrop, update_of_ne hne] at hi
  · rwa [hsame]
  · intro i t' b hi
    by_cases hne : i = idx
    · simp [hdrop, hne] at hi
    · rw [hdrop, update_of_ne hne] at hi
      exact hne (hcourier.held_inj i idx owner t' t b req hi hidx)
  · rw [hsame]
    exact fun i x hi _ => hi
  · intro i x hi hne
    have hidx' : i ≠ idx := by
      rintro rfl
      exact hne (congrArg Prod.fst (Option.some.inj (hi.symm.trans hidx)))
    rwa [hdrop, update_of_ne hidx']

lemma move_command (h : s.Inv) (hcourier : Courier.Inv (ResultOf Answers) (s.courier g))
    {connect : Bool} (hstep : s.step g (.Command now connect) = some s') :
    Move g Answers s s' := by
  simp only [step] at hstep
  cases hrecv : s.cmds.recv? with
  | none => simp [hrecv] at hstep
  | some x =>
    obtain ⟨cmd, cmds⟩ := x
    simp only [hrecv] at hstep
    cases cmd with
    | Submit owner tag body cpuPasses => exact move_submit h hrecv hstep
    | Abort owner =>
      cases hstep
      exact move_abort h hcourier hrecv

theorem step_simulates (h : s.Inv) (hcourier : Courier.Inv (ResultOf Answers) (s.courier g))
    {e : Event} (hserver : ServerAnswers g Answers s e) (hstep : s.step g e = some s') :
    Move g Answers s s' := by
  cases e with
  | Accept now phase registered => exact move_accept h hstep
  | Ready id readable writable io => exact move_ready h hstep
  | Result now flush => exact move_result h hstep
  | Timer due id now clock flush => exact move_timer h hstep
  | Reap id => exact move_reap h hstep
  | Drive idx w => exact move_drive h hserver hstep
  | Command now connect => exact move_command h hcourier hstep

lemma courier_start (g : Setup) (now : Instant) :
    (start g now).courier g = (Courier.start : Courier ℕ Bytes InferResult) := by
  simp only [courier, start, Courier.start, Pool.held_new]
  rfl

theorem courier_reachable (hr : ((gateway g now).restrict (ServerAnswers g Answers)).Reachable s) :
    s.Inv ∧ (Courier.system (ResultOf Answers)).Reachable (s.courier g) := by
  refine hr.refine (fun s hs => ?_) fun s e s' h hc hstep => ?_
  · obtain rfl : s = start g now := hs
    exact ⟨Inv.start g now, courier_start g now⟩
  · have hmove := step_simulates h ((Courier.inv_inductive _).reachable hc) hstep.1 hstep.2
    exact ⟨hmove.inv, hmove.sim.imp id fun hsim => ⟨(), hsim⟩⟩

end

end Gateway

end SttBench.RustSync
