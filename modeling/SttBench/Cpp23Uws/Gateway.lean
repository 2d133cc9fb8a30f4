import SttBench.Core.Tables
import SttBench.Cpp23Uws.Client

/-! # cpp23-uwebsockets: sessions, sinks and the inference client together -/

namespace SttBench.Cpp23Uws

open Ascii Tiling TransitionSystem Option List

inductive SendStatus
  | BACKPRESSURE
  | SUCCESS
  | DROPPED
deriving DecidableEq, Repr

structure Callback where
  session : ℕ
  ctx : BatchContext
deriving DecidableEq, Repr

inductive Task
  /-- The result of a request, for its session. -/
  | Deliver (callback : Callback) (result : InferenceResult)
  /-- The session and the sink that the close handler has moved out of the socket's data. -/
  | Destroy (session : ℕ)

structure Conn where
  session : Session
  sinkClosed : Bool
  /-- The data of the socket still holds the session. -/
  attached : Bool
  /-- The session is gone, and every `weak_ptr` to it has expired. -/
  destroyed : Bool
  /-- `UwsScheduler::alive_` of its loop. -/
  alive : Bool
  /-- What has been sent, and what came of it. -/
  sent : List (Message × SendStatus)
  /-- The batches the session has drained. -/
  drained : List Range

namespace Conn

def start (firstFire : Instant) : Conn := ⟨.start firstFire, false, true, false, true, [], []⟩

def sinkCall (status : SendStatus) (c : Conn) : SinkCall → Conn
  | .Send m => if c.sinkClosed then c else { c with sent := c.sent ++ [(m, status)] }
  | .CloseWith _ _ => { c with sinkClosed := true }

def handled (c : Conn) (r : Session × List SinkCall) (status : SendStatus) : Conn :=
  r.2.foldl (sinkCall status) { c with session := r.1 }

def live (c : Conn) : Bool := c.alive && !c.destroyed

def received (c : Conn) : List Range :=
  (c.sent.filter fun entry => entry.2 ≠ .DROPPED).map fun entry => entry.1.range

end Conn

structure Gateway where
  conns : ℕ → Option Conn
  client : Client Callback
  tasks : List Task
  /-- The calls of `infer_async`. -/
  submitted : Multiset Callback
  /-- The callbacks that have run. -/
  completed : Multiset Callback

inductive Event
  | Open (i : ℕ) (firstFire : Instant)
  | Text (i : ℕ) (text : Bytes)
  | Binary (i : ℕ) (payload : Bytes) (now : Instant)
  | Tick (i : ℕ) (now : Instant)
  | Close (i : ℕ)
  | RunTask (k : ℕ) (now : Instant) (status : SendStatus)
  | MarkDead (i : ℕ)
  | Shutdown
  | Net (e : NetEvent)

structure Env where
  config : Config
  cap : ℕ
  startMessage : Bytes → Bool
  writes : Message → Bool

namespace Gateway

def start : Gateway := ⟨fun _ => none, .start, [], 0, 0⟩

def setConn (g : Gateway) (i : ℕ) (c : Conn) : Gateway :=
  { g with conns := Function.update g.conns i (some c) }

def post (g : Gateway) (i : ℕ) (task : Task) : Gateway :=
  match g.conns i with
  | some c => if c.alive then { g with tasks := g.tasks ++ [task] } else g
  | none => g

def inferAsync (g : Gateway) (i : ℕ) (sub : Submission) : Gateway :=
  { g with
    client := g.client.inferAsync ⟨sub.body, sub.cpuPasses, ⟨i, sub.ctx⟩⟩
    submitted := ⟨i, sub.ctx⟩ ::ₘ g.submitted }

def runCallback (g : Gateway) (done : Completion Callback) : Gateway :=
  ({ g with completed := done.callback ::ₘ g.completed }).post done.callback.session
    (.Deliver done.callback done.result)

def runTask (env : Env) (g : Gateway) (now : Instant) (status : SendStatus) : Task → Option Gateway
  | .Deliver callback result => do
      let c ← g.conns callback.session
      if !c.alive then none
      else if c.destroyed then return g
      else
        let r := c.session.onInferenceFinished env.config env.writes result callback.ctx now
        return g.setConn callback.session (c.handled r status)
  | .Destroy i => do
      let c ← g.conns i
      if c.alive then return g.setConn i { c with destroyed := true } else none

def step (env : Env) (g : Gateway) : Event → Option Gateway
  | .Open i firstFire =>
    match g.conns i with
    | none => some (g.setConn i (.start firstFire))
    | some _ => none
  | .Text i text => do
      let c ← g.conns i
      if c.alive && c.attached then
        return g.setConn i (c.handled (c.session.onText env.startMessage text) .SUCCESS)
      else none
  | .Binary i payload now => do
      let c ← g.conns i
      if c.alive && c.attached then
        return g.setConn i (c.handled (c.session.onBinary payload now) .SUCCESS)
      else none
  | .Tick i now => do
      let c ← g.conns i
      if c.live then
        match c.session.onFlushTick env.config now with
        | (session, none) => return g.setConn i { c with session := session }
        | (session, some sub) =>
          -- the client is destroyed when the loops have stopped
          if g.client.shuttingDown then none
          else
            let c := { c with session := session, drained := c.drained ++ [sub.ctx.range] }
            return (g.setConn i c).inferAsync i sub
      else none
  | .Close i => do
      let c ← g.conns i
      if c.alive && c.attached then
        return (g.setConn i { c with sinkClosed := true, attached := false }).post i (.Destroy i)
      else none
  | .RunTask k now status => do
      let task ← g.tasks[k]?
      ({ g with tasks := g.tasks.eraseIdx k }).runTask env now status task
  | .MarkDead i => do
      let c ← g.conns i
      return g.setConn i { c with alive := false }
  | .Shutdown => some { g with client := g.client.shutdown }
  | .Net e => do
      match ← g.client.step env.cap e with
      | (client, none) => return { g with client := client }
      | (client, some done) => return ({ g with client := client }).runCallback done

def system (env : Env) : TransitionSystem Gateway Event := ofFun start (step env)

/-! ## Requests -/

def Task.callbacks : Task → Multiset Callback
  | .Deliver callback _ => {callback}
  | .Destroy _ => 0

def outstanding (g : Gateway) : Multiset Callback :=
  g.client.held + (g.tasks.map Task.callbacks).sum

def outstandingOf (g : Gateway) (i : ℕ) : Multiset Callback :=
  g.outstanding.filter fun callback => callback.session = i

end Gateway

/-! ## One connection -/

namespace Conn

variable {env : Env} {c : Conn} {b : Batcher} {i : ℕ} {o : Multiset Callback}

lemma handled_eq (c : Conn) (r : Session × List SinkCall) (status : SendStatus) :
    ∃ closed sent, c.handled r status =
      { c with session := r.1, sinkClosed := closed, sent := sent } := by
  obtain ⟨session, calls⟩ := r
  rw [handled]
  induction calls generalizing c with
  | nil => exact ⟨c.sinkClosed, c.sent, rfl⟩
  | cons call calls ih =>
    cases call with
    | CloseWith code reason => exact ih { c with sinkClosed := true }
    | Send m =>
      rw [foldl_cons, sinkCall]
      split_ifs
      · exact ih c
      · exact ih { c with sent := c.sent ++ [(m, status)] }

@[simp] lemma handled_session (c : Conn) (r : Session × List SinkCall) (status : SendStatus) :
    (c.handled r status).session = r.1 := by
  obtain ⟨closed, sent, h⟩ := c.handled_eq r status
  rw [h]

@[simp] lemma handled_drained (c : Conn) (r : Session × List SinkCall) (status : SendStatus) :
    (c.handled r status).drained = c.drained := by
  obtain ⟨closed, sent, h⟩ := c.handled_eq r status
  rw [h]

@[simp] lemma handled_live (c : Conn) (r : Session × List SinkCall) (status : SendStatus) :
    (c.handled r status).live = c.live := by
  obtain ⟨closed, sent, h⟩ := c.handled_eq r status
  rw [h]
  rfl

variable {r : Session × List SinkCall}

lemma mem_sent_handled (c : Conn) {status : SendStatus}
    {entry : Message × SendStatus} (h : entry ∈ (c.handled r status).sent) :
    entry ∈ c.sent ∨ entry.2 = status := by
  have hstart : entry ∈ { c with session := r.1 }.sent → entry ∈ c.sent ∨ entry.2 = status :=
    fun h => .inl h
  refine List.foldlRecOn (motive := fun c' => entry ∈ c'.sent → entry ∈ c.sent ∨ entry.2 = status)
    r.2 (sinkCall status) hstart ?_ h
  intro c' ih call _ hmem
  cases call with
  | CloseWith code reason => exact ih hmem
  | Send m =>
    rw [sinkCall] at hmem
    split_ifs at hmem
    · exact ih hmem
    · obtain hmem | hmem := mem_append.mp hmem
      · exact ih hmem
      · exact .inr (congrArg Prod.snd (mem_singleton.mp hmem))

def sentRanges (c : Conn) : List Range := c.sent.map fun entry => entry.1.range

structure Sends (c : Conn) (answered : List Range) : Prop where
  begin : c.sentRanges <+: answered
  all : c.sinkClosed = false → c.session.state ≠ .Closed → c.sentRanges = answered

structure Tracks (env : Env) (c : Conn) (b : Batcher) : Prop where
  follows : c.session.Follows b
  drained : c.drained = b.batches
  sends : (∀ m, env.writes m = true) → c.Sends b.answered

structure Waits (i : ℕ) (c : Conn) (b : Batcher) (o : Multiset Callback) : Prop where
  live : c.live = true →
    b.flight = none ∧ o = 0 ∨ ∃ ctx, b.flight = some ctx.range ∧ o = {⟨i, ctx⟩}
  card : o.card ≤ 1

def Ok (env : Env) (i : ℕ) (c : Conn) (o : Multiset Callback) : Prop :=
  ∃ b, Batcher.system.Reachable b ∧ c.Tracks env b ∧ c.Waits i b o

lemma ok_start (env : Env) (i : ℕ) (firstFire : Instant) : (start firstFire).Ok env i 0 := by
  refine ⟨.start, .start rfl, ⟨Session.follows_start firstFire, rfl, fun _ => ⟨?_, fun _ _ => rfl⟩⟩,
    fun _ => .inl ⟨rfl, rfl⟩, Nat.zero_le 1⟩
  exact prefix_refl _

lemma Sends.handled_quiet {answered : List Range} (h : c.Sends answered)
    (hquiet : c.session.Quiet r) (status : SendStatus) :
    (c.handled r status).Sends answered := by
  have hopen : { c with session := r.1 }.Sends answered :=
    ⟨h.begin, fun hsink hstate => h.all hsink fun hclosed => hstate (hquiet.closed hclosed)⟩
  rw [handled]
  refine List.foldlRecOn (motive := fun c' => c'.Sends answered) r.2 (sinkCall status) hopen ?_
  intro c' hc' call hcall
  obtain ⟨code, reason, rfl⟩ := hquiet.calls call hcall
  exact ⟨hc'.begin, nofun⟩

lemma Sends.handled_finished {answered : List Range} (h : c.Sends answered)
    (hwrites : ∀ m, env.writes m = true) (result : InferenceResult) (ctx : BatchContext)
    (now : Instant) (status : SendStatus) :
    (c.handled (c.session.onInferenceFinished env.config env.writes result ctx now)
      status).Sends (answered ++ [ctx.range]) := by
  have hstate := c.session.onInferenceFinished_state env.config env.writes result ctx now
  have hgrow : c.sentRanges <+: answered ++ [ctx.range] :=
    h.begin.trans (prefix_append _ _)
  obtain ⟨hclosed, hcalls⟩ | ⟨hopen, m, hrange, hcalls⟩ :=
    c.session.onInferenceFinished_calls env.config hwrites result ctx now
  · rw [handled, hcalls]
    exact ⟨hgrow, fun _ hne => absurd (hstate.trans hclosed) hne⟩
  · rw [handled, hcalls, foldl_cons, foldl_nil, sinkCall]
    split_ifs with hsink
    · exact ⟨hgrow, fun hne => absurd hsink (by simpa using hne)⟩
    · have hall : c.sentRanges = answered := h.all (by simpa using hsink) hopen
      have hnext : c.sentRanges ++ [m.range] = answered ++ [ctx.range] := by rw [hall, hrange]
      have hranges : (c.sent ++ [(m, status)]).map (fun entry => entry.1.range) =
          answered ++ [ctx.range] := by
        rw [← hnext, map_append]
        rfl
      exact ⟨hranges ▸ prefix_refl _, fun _ _ => hranges⟩

lemma Tracks.congr {c' : Conn} (h : c.Tracks env b) (hsession : c'.session = c.session)
    (hdrained : c'.drained = c.drained) (hsent : c'.sent = c.sent)
    (hsink : c'.sinkClosed = false → c.sinkClosed = false) : c'.Tracks env b := by
  refine ⟨hsession ▸ h.follows, hdrained.trans h.drained, fun hwrites => ?_⟩
  have hranges : c'.sentRanges = c.sentRanges := by rw [sentRanges, sentRanges, hsent]
  refine ⟨hranges ▸ (h.sends hwrites).begin, fun hopen hstate => ?_⟩
  rw [hranges]
  exact (h.sends hwrites).all (hsink hopen) (hsession ▸ hstate)

lemma Waits.congr {c' : Conn} {b' : Batcher} (h : c.Waits i b o) (hlive : c'.live = true → c.live = true)
    (hflight : b'.flight = b.flight) : c'.Waits i b' o :=
  ⟨fun h' => hflight ▸ h.live (hlive h'), h.card⟩

lemma Ok.quiet (h : c.Ok env i o) (status : SendStatus) (hquiet : c.session.Quiet r)
    (hfollows : ∀ b, c.session.Follows b → r.1.Follows b ∨ r.1.Follows b.receive) :
    (c.handled r status).Ok env i o := by
  obtain ⟨b, hb, htracks, hwaits⟩ := h
  have hsends : (∀ m, env.writes m = true) → (c.handled r status).Sends b.answered :=
    fun hwrites => (htracks.sends hwrites).handled_quiet hquiet status
  obtain hsame | hreceive := hfollows b htracks.follows
  · refine ⟨b, hb, ⟨?_, ?_, hsends⟩, hwaits.congr (by simp) rfl⟩
    · rwa [handled_session]
    · rw [handled_drained, htracks.drained]
  · refine ⟨b.receive, hb.step (.receive b), ⟨?_, ?_, hsends⟩, hwaits.congr (by simp) rfl⟩
    · rwa [handled_session]
    · rw [handled_drained, htracks.drained]
      rfl

lemma Ok.tick_none (h : c.Ok env i o) {now : Instant} {session : Session}
    (hlive : c.live = true) (htick : c.session.onFlushTick env.config now = (session, none)) :
    { c with session := session }.Ok env i o := by
  obtain ⟨b, hb, htracks, hwaits⟩ := h
  have hstate := Session.onFlushTick_state env.config c.session now
  have hfollows := htracks.follows.onFlushTick env.config now
  simp only [htick, true_and, reduceCtorEq, false_and, exists_false, or_false] at hstate hfollows
  refine ⟨b, hb, ⟨hfollows, htracks.drained, fun hwrites => ?_⟩, hwaits.congr (fun _ => hlive) rfl⟩
  have hsends := htracks.sends hwrites
  exact ⟨hsends.begin, fun hopen hne => hsends.all hopen (hstate ▸ hne)⟩

lemma Ok.tick_some (h : c.Ok env i o) {now : Instant} {session : Session} {sub : Submission}
    (hlive : c.live = true) (htick : c.session.onFlushTick env.config now = (session, some sub)) :
    { c with session := session, drained := c.drained ++ [sub.ctx.range] }.Ok env i
      (⟨i, sub.ctx⟩ ::ₘ o) := by
  obtain ⟨b, hb, htracks, hwaits⟩ := h
  have hstate := Session.onFlushTick_state env.config c.session now
  have hfollows := htracks.follows.onFlushTick env.config now
  simp only [htick, reduceCtorEq, false_and, false_or, Option.some.injEq, exists_eq_left']
    at hstate hfollows
  obtain ⟨hnone, hlt, hrange, hfollows⟩ := hfollows
  obtain ⟨-, rfl⟩ | ⟨ctx, hsome, -⟩ := hwaits.live hlive
  · refine ⟨b.take, hb.step (.take hnone hlt), ⟨hfollows, ?_, fun hwrites => ?_⟩, fun _ => ?_, ?_⟩
    · show c.drained ++ [sub.ctx.range] = _
      rw [htracks.drained, hrange, Batcher.batches_take hnone]
    · have hsends := htracks.sends hwrites
      exact ⟨hsends.begin, fun hopen hne => hsends.all hopen (hstate ▸ hne)⟩
    · exact .inr ⟨sub.ctx, by rw [hrange]; rfl, rfl⟩
    · exact Nat.le_refl 1
  · rw [hnone] at hsome
    cases hsome

lemma Ok.finished (h : c.Ok env i o) (hlive : c.live = true) {ctx : BatchContext}
    (hmem : (⟨i, ctx⟩ : Callback) ∈ o) (result : InferenceResult) (now : Instant)
    (status : SendStatus) :
    (c.handled (c.session.onInferenceFinished env.config env.writes result ctx now) status).Ok
      env i 0 := by
  obtain ⟨b, hb, htracks, hwaits⟩ := h
  obtain ⟨-, rfl⟩ | ⟨ctx', hsome, rfl⟩ := hwaits.live hlive
  · cases Multiset.notMem_zero _ hmem
  · obtain rfl : ctx = ctx' := by simpa using hmem
    refine ⟨b.answer ctx.range, hb.step (.answer hsome), ⟨?_, ?_, fun hwrites => ?_⟩,
      fun _ => .inl ⟨rfl, rfl⟩, Nat.zero_le 1⟩
    · rw [handled_session]
      exact htracks.follows.onInferenceFinished env.config env.writes result ctx now ctx.range
    · rw [handled_drained, htracks.drained, Batcher.batches_answer hsome]
    · exact (htracks.sends hwrites).handled_finished hwrites result ctx now status

lemma Ok.of_le (h : c.Ok env i o) {o' : Multiset Callback} (hlive : c.live = false) (hle : o' ≤ o) :
    c.Ok env i o' := by
  obtain ⟨b, hb, htracks, hwaits⟩ := h
  refine ⟨b, hb, htracks, fun h => ?_, (Multiset.card_le_card hle).trans hwaits.card⟩
  rw [hlive] at h
  cases h

lemma Ok.congr {c' : Conn} (h : c.Ok env i o) (hsession : c'.session = c.session)
    (hdrained : c'.drained = c.drained) (hsent : c'.sent = c.sent)
    (hsink : c'.sinkClosed = false → c.sinkClosed = false)
    (hlive : c'.live = true → c.live = true) : c'.Ok env i o := by
  obtain ⟨b, hb, htracks, hwaits⟩ := h
  exact ⟨b, hb, htracks.congr hsession hdrained hsent hsink, hwaits.congr hlive rfl⟩

end Conn

/-! ## The invariant -/

namespace Gateway

variable {env : Env} {g g' : Gateway} {i : ℕ}

structure Inv (env : Env) (g : Gateway) : Prop where
  client : g.client.Inv env.cap
  /-- A callback has run or is held by the client. -/
  conserved : g.submitted = g.completed + g.client.held
  conns : ∀ i c, g.conns i = some c → c.Ok env i (g.outstandingOf i)
  fresh : ∀ i, g.conns i = none → g.outstandingOf i = 0

lemma outstandingOf_congr (h : g'.outstanding = g.outstanding) (i : ℕ) :
    g'.outstandingOf i = g.outstandingOf i := by rw [outstandingOf, outstandingOf, h]

lemma outstandingOf_of_cons {callback : Callback}
    (h : g.outstanding = callback ::ₘ g'.outstanding) :
    g.outstandingOf callback.session = callback ::ₘ g'.outstandingOf callback.session ∧
      ∀ j, j ≠ callback.session → g.outstandingOf j = g'.outstandingOf j := by
  refine ⟨?_, fun j hj => ?_⟩
  · rw [outstandingOf, h, Multiset.filter_cons, if_pos rfl, Multiset.singleton_add, outstandingOf]
  · rw [outstandingOf, h, Multiset.filter_cons, if_neg (Ne.symm hj), zero_add, outstandingOf]

lemma Inv.of_conn (hg : g.Inv env) {c' : Conn} (hclient : g'.client.Inv env.cap)
    (hconserved : g'.submitted = g'.completed + g'.client.held)
    (hconns : g'.conns = Function.update g.conns i (some c'))
    (hok : c'.Ok env i (g'.outstandingOf i))
    (hothers : ∀ j, j ≠ i → g'.outstandingOf j = g.outstandingOf j) : g'.Inv env := by
  refine ⟨hclient, hconserved, ?_, ?_⟩
  · intro j c hc
    rw [hconns] at hc
    obtain ⟨rfl, rfl⟩ | ⟨hj, hc⟩ := Tables.update_some_iff.mp hc
    · exact hok
    · rw [hothers j hj]
      exact hg.conns j c hc
  · intro j hj
    rw [hconns] at hj
    by_cases hji : j = i
    · subst hji
      simp at hj
    · rw [Function.update_of_ne hji] at hj
      rw [hothers j hji]
      exact hg.fresh j hj

variable {c : Conn}

lemma Inv.setConn (hg : g.Inv env) (hok : c.Ok env i (g.outstandingOf i)) :
    (g.setConn i c).Inv env :=
  hg.of_conn hg.client hg.conserved rfl hok fun _ _ => rfl

lemma Inv.of_outstanding_eq (hg : g.Inv env) (hclient : g'.client.Inv env.cap)
    (hconserved : g'.submitted = g'.completed + g'.client.held) (hconns : g'.conns = g.conns)
    (hsame : g'.outstanding = g.outstanding) : g'.Inv env := by
  refine ⟨hclient, hconserved, fun j c hc => ?_, fun j hj => ?_⟩
  · rw [outstandingOf_congr hsame]
    exact hg.conns j c (hconns ▸ hc)
  · rw [outstandingOf_congr hsame]
    exact hg.fresh j (hconns ▸ hj)

lemma Inv.of_lost (hg : g.Inv env) (hclient : g'.client.Inv env.cap)
    (hconserved : g'.submitted = g'.completed + g'.client.held) (hconns : g'.conns = g.conns)
    {callback : Callback} (hlost : g.outstanding = callback ::ₘ g'.outstanding)
    (hc : g.conns callback.session = some c) (hlive : c.live = false) : g'.Inv env := by
  obtain ⟨hown, hothers⟩ := outstandingOf_of_cons hlost
  refine hg.of_conn hclient hconserved ?_ ((hg.conns _ c hc).of_le hlive ?_)
    fun j hj => (hothers j hj).symm
  · rw [hconns, Function.update_eq_self_iff.mpr hc.symm]
  · exact hown ▸ Multiset.le_cons_self _ _

lemma inv_start (env : Env) : start.Inv env :=
  ⟨Client.inv_start env.cap, rfl, nofun, fun _ _ => rfl⟩

lemma Inv.post_destroy (hg : g.Inv env) (i j : ℕ) : (g.post i (.Destroy j)).Inv env := by
  unfold post
  split
  case h_2 => exact hg
  case h_1 =>
    split_ifs
    · exact hg.of_outstanding_eq hg.client hg.conserved rfl (by simp [outstanding, Task.callbacks])
    · exact hg

lemma outstanding_eraseIdx {k : ℕ} {task : Task} (h : g.tasks[k]? = some task) :
    g.outstanding =
      Task.callbacks task + ({ g with tasks := g.tasks.eraseIdx k } : Gateway).outstanding := by
  obtain ⟨hk, hget⟩ := List.getElem?_eq_some_iff.mp h
  have hperm := getElem_cons_eraseIdx_perm hk
  rw [hget] at hperm
  have hsum := (hperm.map Task.callbacks).sum_eq
  rw [map_cons, sum_cons] at hsum
  simp only [outstanding, ← hsum]
  abel

lemma Inv.runTask (hg : g.Inv env) {k : ℕ} {task : Task} (hk : g.tasks[k]? = some task)
    {now : Instant} {status : SendStatus}
    (h : ({ g with tasks := g.tasks.eraseIdx k } : Gateway).runTask env now status task = some g') :
    g'.Inv env := by
  have hsplit := outstanding_eraseIdx hk
  set g₁ : Gateway := { g with tasks := g.tasks.eraseIdx k } with hg₁
  cases task with
  | Destroy j =>
    have hg₁ : g₁.Inv env := by
      refine hg.of_outstanding_eq hg.client hg.conserved rfl ?_
      rw [hsplit, Task.callbacks, zero_add]
    obtain ⟨c, hc, h⟩ := bind_eq_some_iff.mp h
    split_ifs at h with halive
    cases h
    refine hg₁.setConn ((hg₁.conns j c hc).congr rfl rfl rfl id ?_)
    simp [Conn.live]
  | Deliver callback result =>
    obtain ⟨c, hc, h⟩ := bind_eq_some_iff.mp h
    split_ifs at h with halive hdestroyed
    · -- the session is gone
      obtain rfl := Option.some.inj h
      exact hg.of_lost hg.client hg.conserved rfl hsplit hc (by simp [Conn.live, hdestroyed])
    · cases h
      obtain ⟨hown, hothers⟩ := outstandingOf_of_cons hsplit
      have hok := hg.conns callback.session c hc
      have hlive : c.live = true := by
        simpa [Conn.live, hdestroyed] using halive
      have hmem : callback ∈ g.outstandingOf callback.session :=
        hown ▸ Multiset.mem_cons_self _ _
      have hzero : g₁.outstandingOf callback.session = 0 := by
        obtain ⟨b, -, -, hwaits⟩ := hok
        have hcard := hwaits.card
        rw [hown, Multiset.card_cons] at hcard
        exact Multiset.card_eq_zero.mp (by omega)
      refine hg.of_conn hg.client hg.conserved rfl ?_ fun j hj => (hothers j hj).symm
      show Conn.Ok env callback.session _ (g₁.outstandingOf callback.session)
      rw [hzero]
      exact hok.finished hlive hmem result now status

lemma Inv.runCallback (hg : g.Inv env) {client : Client Callback} {e : NetEvent}
    {done : Completion Callback} (h : g.client.step env.cap e = some (client, some done)) :
    (({ g with client := client } : Gateway).runCallback done).Inv env := by
  have hheld : g.client.held = done.callback ::ₘ client.held := Client.step_held h
  have hclient := hg.client.step h
  have hconserved : g.submitted = (done.callback ::ₘ g.completed) + client.held := by
    rw [hg.conserved, hheld, Multiset.add_cons, Multiset.cons_add]
  -- the request, once it is neither held nor posted
  have hlost : g.outstanding = done.callback ::ₘ ({ g with
      client := client
      completed := done.callback ::ₘ g.completed } : Gateway).outstanding := by
    simp only [outstanding, hheld, Multiset.cons_add]
  unfold Gateway.runCallback post
  split
  case h_1 c hc =>
    split_ifs with halive
    · refine hg.of_outstanding_eq hclient hconserved rfl ?_
      rw [hlost]
      simp only [outstanding, map_append, sum_append, map_singleton,
        sum_singleton, Task.callbacks]
      rw [← add_assoc]
      exact (Multiset.add_comm _ _).trans (Multiset.singleton_add _ _)
    · exact hg.of_lost hclient hconserved rfl hlost hc (by simp [Conn.live, halive])
  case h_2 hnone =>
    have hown := (outstandingOf_of_cons hlost).1
    rw [hg.fresh _ hnone] at hown
    cases Multiset.zero_ne_cons hown

lemma Inv.net_none (hg : g.Inv env) {client : Client Callback} {e : NetEvent}
    (h : g.client.step env.cap e = some (client, none)) :
    ({ g with client := client } : Gateway).Inv env := by
  have hheld : g.client.held = client.held := by
    simpa [Client.ran] using Client.step_held h
  refine hg.of_outstanding_eq (hg.client.step h) (hheld ▸ hg.conserved) rfl ?_
  rw [outstanding, outstanding, hheld]

lemma Inv.inferAsync (hg : g.Inv env) {sub : Submission}
    (hok : c.Ok env i (⟨i, sub.ctx⟩ ::ₘ g.outstandingOf i)) (hdown : g.client.shuttingDown = false) :
    ((g.setConn i c).inferAsync i sub).Inv env := by
  set g' := (g.setConn i c).inferAsync i sub with hg'
  have hheld : g'.client.held = ⟨i, sub.ctx⟩ ::ₘ g.client.held := g.client.held_inferAsync _
  have hcons : g'.outstanding = ⟨i, sub.ctx⟩ ::ₘ g.outstanding := by
    rw [outstanding, hheld, Multiset.cons_add]
    rfl
  obtain ⟨hown, hothers⟩ := outstandingOf_of_cons hcons
  refine hg.of_conn (hg.client.inferAsync hdown _) ?_ rfl (hown ▸ hok) hothers
  show ⟨i, sub.ctx⟩ ::ₘ g.submitted = g.completed + g'.client.held
  rw [hheld, hg.conserved, Multiset.add_cons]

lemma Inv.tick (hg : g.Inv env) {now : Instant} (hc : g.conns i = some c)
    (h : g.step env (.Tick i now) = some g') : g'.Inv env := by
  have hok := hg.conns i c hc
  simp only [step, hc, bind_eq_bind, bind_some] at h
  split at h
  case isFalse => cases h
  case isTrue hlive =>
    split at h
    case h_1 session htick =>
      cases h
      exact hg.setConn (hok.tick_none hlive htick)
    case h_2 session sub htick =>
      split_ifs at h with hdown
      cases h
      exact hg.inferAsync (hok.tick_some hlive htick) (by simpa using hdown)

theorem inv_inductive (env : Env) : (system env).Inductive (Inv env) where
  init := by
    rintro g rfl
    exact inv_start env
  step := by
    intro g e g' hg hstep
    cases e with
    | Open i firstFire =>
      simp only [system, ofFun, step] at hstep
      split at hstep
      case h_2 => cases hstep
      case h_1 hnone =>
        cases hstep
        apply hg.setConn
        rw [hg.fresh i hnone]
        exact Conn.ok_start env i firstFire
    | Text i text =>
      obtain ⟨c, hc, hstep⟩ := bind_eq_some_iff.mp hstep
      split_ifs at hstep
      cases hstep
      exact hg.setConn ((hg.conns i c hc).quiet _ (c.session.quiet_onText env.startMessage text)
        fun b hb => .inl (hb.onText env.startMessage text))
    | Binary i payload now =>
      obtain ⟨c, hc, hstep⟩ := bind_eq_some_iff.mp hstep
      split_ifs at hstep
      cases hstep
      exact hg.setConn ((hg.conns i c hc).quiet _ (c.session.quiet_onBinary payload now)
        fun b hb => hb.onBinary payload now)
    | Tick i now =>
      obtain ⟨c, hc, -⟩ := bind_eq_some_iff.mp hstep
      exact hg.tick hc hstep
    | Close i =>
      obtain ⟨c, hc, hstep⟩ := bind_eq_some_iff.mp hstep
      split_ifs at hstep
      cases hstep
      refine Inv.post_destroy (hg.setConn ?_) i i
      exact (hg.conns i c hc).congr rfl rfl rfl nofun id
    | RunTask k now status =>
      obtain ⟨task, hk, hstep⟩ := bind_eq_some_iff.mp hstep
      exact hg.runTask hk hstep
    | MarkDead i =>
      obtain ⟨c, hc, hstep⟩ := bind_eq_some_iff.mp hstep
      cases hstep
      refine hg.setConn ?_
      exact (hg.conns i c hc).congr rfl rfl rfl id (by simp [Conn.live])
    | Shutdown =>
      cases hstep
      exact ⟨hg.client.shutdown, hg.conserved, hg.conns, hg.fresh⟩
    | Net e =>
      obtain ⟨⟨client, done⟩, hclient, hstep⟩ := bind_eq_some_iff.mp hstep
      cases done with
      | none =>
        cases hstep
        exact hg.net_none hclient
      | some done =>
        cases hstep
        exact hg.runCallback hclient

/-! ## Each request once -/

theorem requests_run_once (hg : (system env).Reachable g) :
    g.completed ≤ g.submitted ∧
      (g.client.pc = .Exited → g.completed = g.submitted) ∧
      g.client.active.length ≤ env.cap ∧
      ∀ i c, g.conns i = some c →
        (g.outstandingOf i).card ≤ 1 ∧
          (c.live = true → (c.session.inflight = true ↔ g.outstandingOf i ≠ 0)) ∧
          ∃ k, Tiles c.drained k := by
  have hinv := (inv_inductive env).reachable hg
  refine ⟨?_, ?_, hinv.client.active_le, ?_⟩
  · rw [hinv.conserved]
    exact Multiset.le_add_right _ _
  · intro hexited
    rw [hinv.conserved, hinv.client.held_eq_zero hexited, add_zero]
  · intro i c hc
    obtain ⟨b, hb, htracks, hwaits⟩ := hinv.conns i c hc
    refine ⟨hwaits.card, fun hlive => ?_, b.taken, ?_⟩
    · rw [htracks.follows.inflight]
      obtain ⟨hnone, hzero⟩ | ⟨ctx, hsome, hone⟩ := hwaits.live hlive
      · simp [hnone, hzero]
      · simp [hsome, hone]
    · rw [htracks.drained]
      exact Batcher.tiles hb

def defaultEnv : Env :=
  ⟨⟨1, 0, 320⟩, 64, fun text => text = bytes Wire.startJson, fun _ => true⟩

def oneFrame : List Event :=
  [.Open 0 0, .Text 0 (bytes Wire.startJson), .Binary 0 (List.replicate 640 0) 20, .Tick 0 320,
    .Net .DrainQueue, .Net (.SubmitOne (some 7) none), .Net .Submitted, .Net (.Perform none),
    .Net (.InfoRead (some (7, some ⟨.Ok, 200, .ok ⟨0, 0, 0, 320, "", 640⟩⟩))),
    .Net (.InfoRead none), .RunTask 0 330 .SUCCESS, .Shutdown, .Net .ShouldExit, .Net .FailNext]

theorem requests_run_once_oneFrame :
    ∃ g, (system defaultEnv).Reachable g ∧ g.client.pc = .Exited ∧ g.submitted.card = 1 ∧
      g.completed = g.submitted := by
  obtain ⟨g, hreach, hpc, hcard⟩ : ∃ g, (system defaultEnv).Reachable g ∧
      (g.client.pc matches .Exited) = true ∧ g.submitted.card = 1 :=
    Reachable.exists_of_exec oneFrame (by decide +kernel)
  have hexited : g.client.pc = .Exited := by
    cases hcase : g.client.pc with
    | Exited => rfl
    | _ => simp [hcase] at hpc
  exact ⟨g, hreach, hexited, hcard, (requests_run_once hreach).2.1 hexited⟩

/-! ## Dropped messages -/

def NoDrop (_ : Gateway) (e : Event) : Prop := ∀ k now, e ≠ .RunTask k now .DROPPED

def Delivered (g : Gateway) : Prop :=
  ∀ i c, g.conns i = some c → ∀ entry ∈ c.sent, entry.2 ≠ .DROPPED

lemma Delivered.setConn (hg : g.Delivered) (hc : ∀ entry ∈ c.sent, entry.2 ≠ .DROPPED) :
    (g.setConn i c).Delivered := by
  intro j c' hc'
  by_cases hj : j = i
  · subst hj
    obtain rfl : c = c' := by simpa [Gateway.setConn] using hc'
    exact hc
  · exact hg j c' (by simpa [Gateway.setConn, hj] using hc')

lemma Delivered.post (hg : g.Delivered) (i : ℕ) (task : Task) : (g.post i task).Delivered := by
  unfold Gateway.post
  split
  · split_ifs
    · exact hg
    · exact hg
  · exact hg

lemma delivered_inductive (env : Env) : ((system env).restrict NoDrop).Inductive Delivered where
  init := by
    rintro g rfl i c hc
    cases hc
  step := by
    rintro g e g' hg ⟨hnodrop, hstep⟩
    have hhandled {i : ℕ} {c : Conn} (hc : g.conns i = some c) (r : Session × List SinkCall)
        {status : SendStatus} (hstatus : status ≠ .DROPPED) :
        ∀ entry ∈ (c.handled r status).sent, entry.2 ≠ .DROPPED := by
      intro entry hentry
      obtain hbefore | hnow := c.mem_sent_handled hentry
      · exact hg i c hc entry hbefore
      · exact hnow ▸ hstatus
    cases e with
    | Open i firstFire =>
      simp only [system, ofFun, step] at hstep
      split at hstep
      case h_2 => cases hstep
      case h_1 =>
        cases hstep
        exact hg.setConn nofun
    | Text i text | Binary i payload now =>
      obtain ⟨c, hc, hstep⟩ := bind_eq_some_iff.mp hstep
      split_ifs at hstep
      cases hstep
      exact hg.setConn (hhandled hc _ nofun)
    | Tick i now =>
      obtain ⟨c, hc, hstep⟩ := bind_eq_some_iff.mp hstep
      split at hstep
      case isFalse => cases hstep
      case isTrue =>
        split at hstep
        case h_1 =>
          cases hstep
          exact hg.setConn (hg i c hc)
        case h_2 =>
          split_ifs at hstep
          cases hstep
          exact hg.setConn (hg i c hc)
    | Close i =>
      obtain ⟨c, hc, hstep⟩ := bind_eq_some_iff.mp hstep
      split_ifs at hstep
      cases hstep
      refine Delivered.post (hg.setConn ?_) i _
      exact hg i c hc
    | RunTask k now status =>
      have hstatus : status ≠ .DROPPED := fun h => hnodrop k now (h ▸ rfl)
      obtain ⟨task, -, hstep⟩ := bind_eq_some_iff.mp hstep
      cases task with
      | Deliver callback result =>
        obtain ⟨c, hc, hstep⟩ := bind_eq_some_iff.mp hstep
        split_ifs at hstep
        · cases hstep
          exact hg
        · cases hstep
          exact Delivered.setConn hg (hhandled hc _ hstatus)
      | Destroy i =>
        obtain ⟨c, hc, hstep⟩ := bind_eq_some_iff.mp hstep
        split_ifs at hstep
        cases hstep
        exact Delivered.setConn hg (hg i c hc)
    | MarkDead i =>
      obtain ⟨c, hc, hstep⟩ := bind_eq_some_iff.mp hstep
      cases hstep
      exact hg.setConn (hg i c hc)
    | Shutdown =>
      cases hstep
      exact hg
    | Net e =>
      obtain ⟨⟨client, done⟩, -, hstep⟩ := bind_eq_some_iff.mp hstep
      cases done with
      | none =>
        cases hstep
        exact hg
      | some done =>
        cases hstep
        exact Delivered.post (g := { g with client := client, completed := _ }) hg _ _

theorem responses_consecutive (hwrites : ∀ m, env.writes m = true)
    (hg : ((system env).restrict NoDrop).Reachable g) {c : Conn} (hc : g.conns i = some c) :
    (∃ k, Tiles c.received k) ∨ c.sinkClosed = true := by
  have hdelivered := (delivered_inductive env).reachable hg i c hc
  obtain ⟨b, hb, htracks, -⟩ := ((inv_inductive env).reachable hg.of_restrict).conns i c hc
  have hreceived : c.received = c.sentRanges := by
    rw [Conn.received, Conn.sentRanges, filter_eq_self.mpr]
    simpa using hdelivered
  have htiles := (Batcher.tiles hb).of_isPrefix
    ((htracks.sends hwrites).begin.trans (prefix_append _ _))
  obtain ⟨k, -, hk⟩ := htiles
  exact .inl ⟨k, hreceived ▸ hk⟩

def oneTransfer : List Event :=
  [.Net .DrainQueue, .Net (.SubmitOne (some 7) none), .Net .Submitted, .Net (.Perform none),
    .Net (.InfoRead (some (7, some ⟨.Ok, 200, .ok ⟨0, 0, 0, 320, "", 640⟩⟩))),
    .Net (.InfoRead none), .Net .ShouldExit, .Net .WaitForWork]

def twoFrames (status : SendStatus) : List Event :=
  [.Open 0 0, .Text 0 (bytes Wire.startJson), .Binary 0 (List.replicate 640 0) 20, .Tick 0 320] ++ oneTransfer ++
    [.RunTask 0 330 status, .Binary 0 (List.replicate 640 0) 340, .Tick 0 640] ++ oneTransfer ++
    [.RunTask 0 650 .SUCCESS]

instance (g : Gateway) (e : Event) : Decidable (g.NoDrop e) :=
  match e with
  | .RunTask k now .DROPPED => isFalse fun h => h k now rfl
  | .RunTask _ _ .SUCCESS | .RunTask _ _ .BACKPRESSURE => isTrue nofun
  | .Open .. | .Text .. | .Binary .. | .Tick .. | .Close .. | .MarkDead .. | .Shutdown | .Net .. =>
    isTrue nofun

theorem responses_consecutive_twoFrames :
    ∃ g c, ((system defaultEnv).restrict NoDrop).Reachable g ∧ g.conns 0 = some c ∧
      c.received = [⟨1, 1⟩, ⟨2, 2⟩] ∧ ((∃ k, Tiles c.received k) ∨ c.sinkClosed = true) := by
  obtain ⟨g, hreach, c, hc, hreceived⟩ : ∃ g, ((system defaultEnv).restrict NoDrop).Reachable g ∧
      ∃ c ∈ g.conns 0, c.received = [⟨1, 1⟩, ⟨2, 2⟩] :=
    Reachable.exists_of_guarded (twoFrames .SUCCESS) (by decide +kernel)
  exact ⟨g, c, hreach, hc, hreceived, responses_consecutive (fun _ => rfl) hreach hc⟩

theorem response_lost :
    ∃ g c, (system defaultEnv).Reachable g ∧ g.conns 0 = some c ∧ c.received = [⟨2, 2⟩] ∧
      c.sinkClosed = false ∧ c.attached = true ∧ c.session.state = .Started ∧
      ¬((∃ k, Tiles c.received k) ∨ c.sinkClosed = true) := by
  obtain ⟨g, hreach, c, hc, hreceived, hopen, hattached, hstarted⟩ :
      ∃ g, (system defaultEnv).Reachable g ∧ ∃ c ∈ g.conns 0, c.received = [⟨2, 2⟩] ∧
        c.sinkClosed = false ∧ c.attached = true ∧ c.session.state = .Started :=
    Reachable.exists_of_exec (twoFrames .DROPPED) (by decide +kernel)
  refine ⟨g, c, hreach, hc, hreceived, hopen, hattached, hstarted, ?_⟩
  rintro (⟨k, hk⟩ | hclosed)
  · rw [hreceived] at hk
    cases hk.1
  · rw [hopen] at hclosed
    cases hclosed

end Gateway

end SttBench.Cpp23Uws
