import SttBench.Core.Spacing
import SttBench.JavaHelidon.CloseSafety

/-! # java-helidon-nima: the backlog of a healthy session -/

namespace SttBench.JavaHelidon

open Ascii CallEntry TransitionSystem Wire

def ms (n : ℤ) : Nanos := n * 1000000

def Config.longestWait (config : Config) : Nanos :=
  max (ms (config.flushIntervalMs + config.flushPhaseJitterMs)) (ms config.inferenceTimeoutMs)

structure Config.Valid (config : Config) : Prop where
  interval : 1 ≤ config.flushIntervalMs
  jitter : 0 ≤ config.flushPhaseJitterMs
  timeout : 1 ≤ config.inferenceTimeoutMs

lemma Config.load_valid {getenv : String → Option String}
    (htimeout : 1 ≤ (Config.load getenv).inferenceTimeoutMs) : (Config.load getenv).Valid :=
  ⟨le_max_left _ _, le_max_left _ _, htimeout⟩

@[simp] def FlushPc.inflight : FlushPc → Bool
  | .Drain _ | .Process _ _ | .Inferring _ | .Enqueue _ | .Release => true
  | _ => false

@[simp] def ReceivePc.closing : ReceivePc → Option ℕ
  | .CloseLock _ code _ | .CloseHeld code _ | .InClose code _ => some code
  | _ => none

@[simp] def ReceivePc.fresh : ReceivePc → Bool
  | .StartFlush | .Append _ | .CloseWith _ _ => true
  | _ => false

def Event.time : Event → Option Nanos
  | .Receive _ now => some now
  | .FlushStart now _ => some now
  | .Flush now => some now
  | .InferReturns _ now => some now
  | .Callback _ | .Writer _ => none

def Event.isFlush (e : Event) : Bool := e matches .Flush _

namespace Session

variable {env : Env} {s s' : Session} {p : Timed Session Nanos} {t now : Nanos}
  {last : Option Nanos}

def arrival (s : Session) : Event → Bool
  | .Receive _ _ => (s.receive matches .Append _)
  | _ => false

def deadline (config : Config) (p : Timed Session Nanos) : Option Nanos :=
  match p.state.flush with
  | .NotStarted => if p.state.receive matches .StartFlush then some p.now else none
  | .Parked => some (max p.state.expected p.now)
  | .Inferring ctx => some (ctx.startedAt + ms config.inferenceTimeoutMs)
  | .Exited => none
  | _ => some p.now

@[mk_iff]
structure OnSchedule (env : Env) (p : Timed Session Nanos) (t : Nanos) (e : Event) : Prop where
  time : ∀ now ∈ e.time, now = t
  deadline : ∀ due ∈ deadline env.config p, t ≤ due
  tick : (p.state.flush matches .Parked) = true → e.isFlush = true → p.state.expected ≤ t

def healthy (env : Env) : TransitionSystem (Timed Session Nanos) (Nanos × Event) :=
  (system env).timed (ms 20) arrival (OnSchedule env)

/-! ## The invariant -/

def Bound (config : Config) (expected since now : Nanos) : FlushPc → Prop
  | .NotStarted | .Exited => False
  | .Starting => now ≤ since
  | .Loop | .Parked => expected ≤ since + config.longestWait ∧ now ≤ since + config.longestWait
  | .TryFlush _ | .Drain _ =>
    expected ≤ now + ms config.flushIntervalMs ∧ now ≤ since + config.longestWait
  | .Process _ _ => expected ≤ since + ms config.flushIntervalMs ∧ now ≤ since
  | .Inferring ctx =>
    ctx.startedAt = since ∧ expected ≤ since + ms config.flushIntervalMs ∧
      now ≤ since + ms config.inferenceTimeoutMs
  | .Enqueue _ | .Release =>
    expected ≤ since + ms config.flushIntervalMs ∧ now ≤ since + ms config.inferenceTimeoutMs

structure Window (config : Config) (s : Session) (now : Nanos) (last : Option Nanos) : Prop where
  inflight : s.inflight = s.flush.inflight
  bound : ∃ since, Spaced (ms 20) since now last s.buffer.length ∧
    Bound config s.expected since now s.flush

structure Unstarted (s : Session) : Prop where
  flush : s.flush = .NotStarted
  buffer : s.buffer = []
  inflight : s.inflight = false
  append : ∀ payload, s.receive ≠ .Append payload
  started : s.started = true → s.receive = .StartFlush

structure Calm (config : Config) (s : Session) (now : Nanos) (last : Option Nanos) : Prop where
  quiet : ∀ reason, .enter (.Close closeTryAgainLater reason) ∉ s.calls
  closing : s.receive.closing ≠ some closeTryAgainLater
  startFlush : s.receive = .StartFlush → s.started = true
  notStarted : s.started = false ∨ s.receive = .StartFlush → s.flush = .NotStarted
  /-- A session that is closed may have any backlog: it is not closed again. -/
  closeWith : s.closed = false → ∀ reason, s.receive ≠ .CloseWith closeTryAgainLater reason
  window : s.closed = false → Unstarted s ∨ Window config s now last

/-! ## Time -/

lemma ms_le_longestWait (config : Config) :
    ms (config.flushIntervalMs + config.flushPhaseJitterMs) ≤ config.longestWait ∧
      ms config.inferenceTimeoutMs ≤ config.longestWait :=
  ⟨le_max_left _ _, le_max_right _ _⟩

variable {config : Config} {s₁ : Session} {u : Thread} {ok : Bool} {pc : ReceivePc}

lemma longestWait_bounds (hconfig : config.Valid) :
    ms config.flushIntervalMs ≤ config.longestWait ∧
      ms config.inferenceTimeoutMs ≤ config.longestWait ∧ 0 ≤ ms config.inferenceTimeoutMs ∧
      0 ≤ config.longestWait := by
  obtain ⟨hinterval, htimeout⟩ := ms_le_longestWait config
  have := hconfig.interval
  have := hconfig.jitter
  have := hconfig.timeout
  unfold ms at *
  refine ⟨?_, htimeout, ?_, ?_⟩
  all_goals linarith

lemma Bound.now_le (hconfig : config.Valid) {expected since : Nanos}
    {pc : FlushPc} (h : Bound config expected since now pc) : now ≤ since + config.longestWait := by
  obtain ⟨-, htimeout, -, hnonneg⟩ := longestWait_bounds hconfig
  cases pc with
  | NotStarted | Exited => exact h.elim
  | Starting =>
    have hnow : now ≤ since := h
    linarith
  | Loop | Parked | TryFlush | Drain => exact h.2
  | Process =>
    have hnow : now ≤ since := h.2
    linarith
  | Inferring ctx =>
    have hnow := h.2.2
    linarith
  | Enqueue | Release =>
    have hnow := h.2
    linarith

lemma Bound.wait {since : Nanos} (h : Bound env.config p.state.expected since p.now p.state.flush)
    (ht : p.now ≤ t) (hdue : ∀ due ∈ deadline env.config p, t ≤ due) :
    Bound env.config p.state.expected since t p.state.flush := by
  unfold deadline at hdue
  cases hflush : p.state.flush with
  | NotStarted | Exited => rw [hflush] at h; exact h.elim
  | Parked =>
    rw [hflush] at h
    simp only [hflush, Option.mem_def, Option.some.injEq, forall_eq'] at hdue
    exact ⟨h.1, hdue.trans (max_le h.1 h.2)⟩
  | Inferring ctx =>
    rw [hflush] at h
    simp only [hflush, Option.mem_def, Option.some.injEq, forall_eq'] at hdue
    exact ⟨h.1, h.2.1, h.1 ▸ hdue⟩
  | _ =>
    rw [hflush] at h
    simp only [hflush, Option.mem_def, Option.some.injEq, forall_eq'] at hdue
    obtain rfl := le_antisymm ht hdue
    exact h

lemma Calm.wait (h : Calm env.config p.state p.now p.last) (ht : p.now ≤ t)
    (hdue : ∀ due ∈ deadline env.config p, t ≤ due) : Calm env.config p.state t p.last :=
  { h with
    window := fun hopen => (h.window hopen).imp id fun hwindow =>
      { hwindow with
        bound := by
          obtain ⟨since, hspaced, hbound⟩ := hwindow.bound
          exact ⟨since, hspaced.wait ht, hbound.wait ht hdue⟩ } }

/-! ## Steps that leave the frames alone -/

structure Aside (s s' : Session) : Prop where
  buffer : s'.buffer = s.buffer
  flush : s'.flush = s.flush
  expected : s'.expected = s.expected
  inflight : s'.inflight = s.inflight
  closed : s.closed = true → s'.closed = true

lemma Aside.opened (h : Aside s s') (hopen : s'.closed = false) : s.closed = false := by
  by_contra hclosed
  cases (h.closed (Bool.eq_true_of_not_eq_false hclosed)).symm.trans hopen

lemma Aside.window (h : Aside s s') (hwindow : Window config s now last) :
    Window config s' now last where
  inflight := by rw [h.inflight, h.flush, hwindow.inflight]
  bound := by rw [h.buffer, h.flush, h.expected]; exact hwindow.bound

lemma aside_interruptWorkers (s : Session) : Aside s s.interruptWorkers :=
  ⟨rfl, rfl, rfl, rfl, id⟩

lemma aside_sendLock (s : Session) (lock : ReentrantLock Thread) :
    Aside s { s with sendLock := lock } :=
  ⟨rfl, rfl, rfl, rfl, id⟩

structure Helped (s s₁ : Session) : Prop extends Aside s s₁ where
  calls : s₁.calls = s.calls
  started : s₁.started = s.started
  receive : s₁.receive = s.receive

lemma helped_self (s : Session) : Helped s s := ⟨⟨rfl, rfl, rfl, rfl, id⟩, rfl, rfl, rfl⟩

lemma helped_interruptWorkers (s : Session) : Helped s s.interruptWorkers :=
  ⟨aside_interruptWorkers s, rfl, rfl, rfl⟩

lemma helped_sendLock (s : Session) (lock : ReentrantLock Thread) :
    Helped s { s with sendLock := lock } :=
  ⟨aside_sendLock s lock, rfl, rfl, rfl⟩

lemma helped_tryLockSend {ok locked : Bool}
    (h : s.tryLockSend u ok = some (locked, s₁)) : Helped s s₁ := by
  obtain ⟨-, lock, -, rfl⟩ | ⟨-, rfl⟩ := tryLockSend_cases h
  · exact helped_sendLock s lock
  · exact helped_self s₁

lemma helped_lockForClose {stage : LockForClose}
    {r : Locked} (h : s.lockForClose u stage ok = some (r, s₁)) : Helped s s₁ := by
  obtain ⟨-, lock, -, rfl⟩ | ⟨-, rfl | rfl⟩ := lockForClose_cases h
  · exact helped_sendLock s lock
  · exact helped_self s₁
  · exact helped_interruptWorkers s

lemma helped_unlock (h : s.unlock u = some s₁) : Helped s s₁ := by
  obtain ⟨lock, -, rfl⟩ := unlock_cases h
  exact helped_sendLock s lock

lemma helped_shutdown {pc : Shutdown}
    {pc' : Option Shutdown} (h : s.shutdown u pc ok = some (pc', s₁)) : Helped s s₁ := by
  cases shutdown_cases h with
  | acquire lock _ hs₁ | release lock _ hs₁ => exact hs₁ ▸ helped_sendLock s lock
  | shut hs₁ => exact hs₁ ▸ ⟨⟨rfl, rfl, rfl, rfl, fun _ => rfl⟩, rfl, rfl, rfl⟩
  | none hs₁ =>
    rcases hs₁ with rfl | rfl
    · exact helped_self s₁
    · exact helped_interruptWorkers s

/-! ## The receive thread -/

structure Proceeds (s s' : Session) : Prop extends Aside s s' where
  started : s'.started = s.started
  notStart : s.receive ≠ .StartFlush
  fresh : s'.receive.fresh = false
  closing : ∀ code, s'.receive.closing = some code → s.receive.closing = some code ∨
    s.closed = false ∧ ∃ reason, s.receive = .CloseWith code reason
  calls : ∀ code reason, .enter (.Close code reason) ∈ s'.calls →
    .enter (.Close code reason) ∈ s.calls ∨ s.receive.closing = some code

lemma Proceeds.receive_ne (h : Proceeds s s') (hpc : pc.fresh = true) :
    s'.receive ≠ pc := by
  intro hreceive
  have hfresh := h.fresh
  rw [hreceive, hpc] at hfresh
  cases hfresh

lemma Calm.proceeds (h : Calm config s now last) (hs' : Proceeds s s') :
    Calm config s' now last where
  quiet reason hmem := by
    rcases hs'.calls _ reason hmem with hmem | hclosing
    · exact h.quiet reason hmem
    · exact h.closing hclosing
  closing hclosing := by
    rcases hs'.closing _ hclosing with hclosing | ⟨hopen, reason, hreceive⟩
    · exact h.closing hclosing
    · exact h.closeWith hopen reason hreceive
  startFlush hreceive := absurd hreceive (hs'.receive_ne rfl)
  notStarted hnot := by
    rw [hs'.flush]
    rcases hnot with hstarted | hreceive
    · exact h.notStarted (.inl (hs'.started ▸ hstarted))
    · exact absurd hreceive (hs'.receive_ne rfl)
  closeWith _ reason := hs'.receive_ne rfl
  window hopen := by
    refine (h.window (hs'.opened hopen)).imp (fun hun => ?_) hs'.toAside.window
    exact
      { flush := hs'.flush.trans hun.flush
        buffer := hs'.buffer.trans hun.buffer
        inflight := hs'.inflight.trans hun.inflight
        append := fun payload => hs'.receive_ne rfl
        started := fun hstarted => absurd (hun.started (hs'.started ▸ hstarted)) hs'.notStart }

lemma Helped.proceeds (h : Helped s s₁)
    (hstart : s.receive ≠ .StartFlush) (hfresh : pc.fresh = false)
    (hclosing : pc.closing = none ∨ pc.closing = s.receive.closing) :
    Proceeds s { s₁ with receive := pc } where
  toAside := { h.toAside with }
  started := h.started
  notStart := hstart
  fresh := hfresh
  closing code hcode := by
    rcases hclosing with hnone | hsame
    · cases hnone.symm.trans hcode
    · exact .inl (hsame ▸ hcode)
  calls code reason hmem := .inl (h.calls ▸ hmem)

lemma proceeds_log {entry : CallEntry SocketCall}
    (hstart : s.receive ≠ .StartFlush) (hfresh : pc.fresh = false)
    (hclosing : pc.closing = none ∨ pc.closing = s.receive.closing)
    (hentry : ∀ code reason, entry = .enter (.Close code reason) →
      s.receive.closing = some code) :
    Proceeds s { s with calls := s.calls ++ [entry], receive := pc } where
  toAside := ⟨rfl, rfl, rfl, rfl, id⟩
  started := rfl
  notStart := hstart
  fresh := hfresh
  closing := ((helped_self s).proceeds hstart hfresh hclosing).closing
  calls code reason hmem := by
    rcases List.mem_append.mp hmem with hmem | hmem
    · exact .inl hmem
    · exact .inr (hentry code reason (List.mem_singleton.mp hmem).symm)

lemma proceeds_receiveStep (h : s.receiveStep ok t = some s')
    (hstart : s.receive ≠ .StartFlush) (happend : ∀ payload, s.receive ≠ .Append payload) :
    Proceeds s s' := by
  unfold receiveStep at h
  split at h
  case h_1 => cases h
  case h_2 hreceive => exact absurd hreceive hstart
  case h_3 payload hreceive => exact absurd hreceive (happend payload)
  case h_4 code reason hreceive =>
    split_ifs at h with hclosed
    · cases h
      exact (helped_self s).proceeds hstart rfl (.inl rfl)
    · cases h
      refine ⟨⟨rfl, rfl, rfl, rfl, fun _ => rfl⟩, rfl, hstart, rfl, ?_, fun _ _ => .inl⟩
      rintro code' hcode
      cases hcode
      exact .inr ⟨Bool.eq_false_of_not_eq_true hclosed, reason, hreceive⟩
  case h_5 stage code reason hreceive =>
    obtain ⟨⟨r, s₁⟩, hlock, h⟩ := Option.bind_eq_some_iff.mp h
    have hs₁ := helped_lockForClose hlock
    cases r with
    | Acquired | Pending stage =>
      cases h
      exact hs₁.proceeds hstart rfl (.inr (by simp [hreceive]))
    | Wedged =>
      cases h
      exact hs₁.proceeds hstart rfl (.inl rfl)
  case h_6 code reason hreceive =>
    cases h
    refine proceeds_log hstart rfl (.inr (by simp [hreceive])) ?_
    intro code' reason' hentry
    cases hentry
    simp [hreceive]
  case h_7 code reason hreceive =>
    cases h
    refine proceeds_log hstart ?_ (.inl ?_) nofun
    all_goals cases ok <;> rfl
  case h_8 =>
    cases h
    exact (helped_interruptWorkers s).proceeds hstart rfl (.inl rfl)
  case h_9 | h_14 =>
    obtain ⟨s₁, hunlock, h⟩ := Option.bind_eq_some_iff.mp h
    cases h
    exact (helped_unlock hunlock).proceeds hstart rfl (.inl rfl)
  case h_10 =>
    obtain ⟨⟨locked, s₁⟩, htry, h⟩ := Option.bind_eq_some_iff.mp h
    cases h
    refine (helped_tryLockSend htry).proceeds hstart ?_ (.inl ?_)
    all_goals cases locked <;> rfl
  case h_11 =>
    cases h
    refine (helped_self s).proceeds hstart ?_ (.inl ?_)
    all_goals cases s.closed <;> rfl
  case h_12 | h_13 =>
    cases h
    exact proceeds_log hstart rfl (.inl rfl) nofun
  case h_15 =>
    obtain ⟨⟨pc', s₁⟩, hshutdown, h⟩ := Option.bind_eq_some_iff.mp h
    have hs₁ := helped_shutdown hshutdown
    cases pc' with
    | none | some pc' =>
      cases h
      exact hs₁.proceeds hstart rfl (.inl rfl)

lemma Calm.starts (h : Calm config s t last) (hreceive : s.receive = .StartFlush) :
    Calm config { s with receive := .Idle, flush := .Starting } t last where
  quiet := h.quiet
  closing := by simp
  startFlush := by simp
  notStarted hnot := by simp [h.startFlush hreceive] at hnot
  closeWith := by simp
  window hopen := by
    refine .inr ?_
    rcases h.window hopen with hun | hwindow
    · refine ⟨hun.inflight, t, ?_, le_refl t⟩
      show Spaced (ms 20) t t last s.buffer.length
      rw [hun.buffer]
      exact .zero (le_refl t)
    · obtain ⟨since, -, hbound⟩ := hwindow.bound
      rw [h.notStarted (.inr hreceive)] at hbound
      exact hbound.elim

lemma Calm.append (hconfig : env.config.Valid) (hwait : env.config.longestWait < ms 6000)
    {payload : Bytes} (h : Calm env.config s t last) (hreceive : s.receive = .Append payload)
    (hgap : ∀ l ∈ last, l + ms 20 ≤ t) : Calm env.config (s.append payload t) t (some t) := by
  unfold Session.append
  split_ifs with hroom
  · exact
      { quiet := h.quiet
        closing := by simp
        startFlush := by simp
        notStarted := fun hnot => h.notStarted (hnot.imp id (by simp))
        closeWith := by simp
        window := by
          intro hopen
          rcases h.window hopen with hun | hwindow
          · exact absurd hreceive (hun.append payload)
          · obtain ⟨since, hspaced, hbound⟩ := hwindow.bound
            refine .inr ⟨hwindow.inflight, since, ?_, hbound⟩
            simp only [List.length_append, List.length_singleton]
            exact hspaced.arrive (le_refl t) hgap }
  · have hclosed : s.closed ≠ false := by
      intro hopen
      rcases h.window hopen with hun | hwindow
      · exact hun.append payload hreceive
      · obtain ⟨since, hspaced, hbound⟩ := hwindow.bound
        have hmany := hspaced.mul_gap_le (le_refl t) hgap
        have hnow := hbound.now_le hconfig
        have hlength : (maxBacklogFrames : ℤ) ≤ s.buffer.length := by
          exact_mod_cast not_lt.mp hroom
        unfold ms maxBacklogFrames at *
        push_cast at hlength
        linarith
    exact
      { quiet := h.quiet
        closing := by simp [Session.closeWith]
        startFlush := by simp [Session.closeWith]
        notStarted := fun hnot => h.notStarted (hnot.imp id (by simp [Session.closeWith]))
        closeWith := fun hopen => absurd hopen hclosed
        window := fun hopen => absurd hopen hclosed }

lemma Calm.receiveStep (hconfig : env.config.Valid) (hwait : env.config.longestWait < ms 6000)
    (h : Calm env.config s t last) (hstep : s.receiveStep ok t = some s')
    (hgap : ∀ payload, s.receive = .Append payload → ∀ l ∈ last, l + ms 20 ≤ t) :
    Calm env.config s' t (if arrival s (.Receive ok t) then some t else last) := by
  cases hreceive : s.receive with
  | StartFlush =>
    rw [Session.receiveStep, hreceive] at hstep
    cases hstep
    simp only [arrival, hreceive]
    exact h.starts hreceive
  | Append payload =>
    rw [Session.receiveStep, hreceive] at hstep
    cases hstep
    simp only [arrival, hreceive]
    exact h.append hconfig hwait hreceive (hgap payload hreceive)
  | _ =>
    simp only [arrival, hreceive]
    exact h.proceeds (proceeds_receiveStep hstep (by simp [hreceive]) (by simp [hreceive]))

/-! ## Callbacks -/

structure Opens (s s' : Session) : Prop extends Aside s s' where
  calls : s'.calls = s.calls
  closing : s'.receive.closing = none
  closeWith : ∀ reason, s'.receive ≠ .CloseWith closeTryAgainLater reason
  started : s'.started = s.started ∧ s'.receive ≠ .StartFlush ∧
      (∀ payload, s'.receive = .Append payload → s.started = true) ∨
    s.started = false ∧ s'.receive = .StartFlush ∧ s'.started = true

lemma opens_closeWith {code : ℕ} {reason : String} (hcode : code ≠ closeTryAgainLater) :
    Opens s (s.closeWith code reason) where
  toAside := ⟨rfl, rfl, rfl, rfl, id⟩
  calls := rfl
  closing := rfl
  closeWith reason' := by simp [Session.closeWith, hcode]
  started := .inl ⟨rfl, by simp [Session.closeWith], by simp [Session.closeWith]⟩

lemma opens_startWith (hstarted : s.started = false) (message : JavaString) :
    Opens s (s.startWith env message) := by
  unfold startWith
  split_ifs
  · exact ⟨⟨rfl, rfl, rfl, rfl, id⟩, rfl, rfl, by simp, .inr ⟨hstarted, rfl, rfl⟩⟩
  · exact opens_closeWith (by decide)

lemma opens_callback (env : Env) (hreceive : s.receive = .Idle) (callback : Callback) :
    Opens s (s.callback env callback) := by
  have hself : Opens s s :=
    ⟨⟨rfl, rfl, rfl, rfl, id⟩, rfl, by simp [hreceive], by simp [hreceive],
      .inl ⟨rfl, by simp [hreceive], by simp [hreceive]⟩⟩
  cases callback with
  | Text text last =>
    simp only [Session.callback, onText]
    split_ifs with hclosed hstarted hlong hlast
    · exact hself
    · exact opens_closeWith (by decide)
    · exact { opens_closeWith (s := { s with pendingText := none }) (by decide) with }
    · exact { hself with }
    · exact { opens_startWith (s := { s with pendingText := none })
        (Bool.eq_false_of_not_eq_true hstarted) _ with }
    · exact opens_startWith (Bool.eq_false_of_not_eq_true hstarted) text
  | Binary frame last =>
    simp only [Session.callback, onBinary]
    split_ifs with hclosed hstarted
    · exact hself
    · exact opens_closeWith (by decide)
    · exact opens_closeWith (by decide)
    · exact ⟨⟨rfl, rfl, rfl, rfl, id⟩, rfl, rfl, by simp,
        .inl ⟨rfl, by simp, fun _ _ => by simpa using hstarted⟩⟩
    · exact { opens_closeWith (s := { s with pendingFrame := none }) (by decide) with }
    · exact { hself with }
    · exact { opens_closeWith (s := { s with pendingFrame := none }) (by decide) with }
    · exact ⟨⟨rfl, rfl, rfl, rfl, id⟩, rfl, rfl, by simp,
        .inl ⟨rfl, by simp, fun _ _ => by simpa using hstarted⟩⟩
  | Ping buffer | Close | Error =>
    exact ⟨⟨rfl, rfl, rfl, rfl, id⟩, rfl, rfl, by simp [Session.callback],
      .inl ⟨rfl, by simp [Session.callback], by simp [Session.callback]⟩⟩

lemma Calm.opens (h : Calm config s t last) (hreceive : s.receive = .Idle)
    (hs' : Opens s s') : Calm config s' t last where
  quiet reason := by rw [hs'.calls]; exact h.quiet reason
  closing := by rw [hs'.closing]; exact Option.some_ne_none _ ∘ Eq.symm
  startFlush hstart := by
    rcases hs'.started with ⟨-, hne, -⟩ | ⟨-, -, hstarted⟩
    · exact absurd hstart hne
    · exact hstarted
  notStarted hnot := by
    rw [hs'.flush]
    rcases hs'.started with ⟨hsame, hne, -⟩ | ⟨hstarted, -, -⟩
    · exact h.notStarted (.inl (hsame ▸ hnot.resolve_right hne))
    · exact h.notStarted (.inl hstarted)
  closeWith _ := hs'.closeWith
  window hopen := by
    refine (h.window (hs'.opened hopen)).imp (fun hun => ?_) hs'.toAside.window
    -- a session that has not been started is started now, or gets no frame
    have hnot : s.started = false := by
      by_contra hstarted
      cases (hun.started (Bool.eq_true_of_not_eq_false hstarted)).symm.trans hreceive
    refine ⟨hs'.flush.trans hun.flush, hs'.buffer.trans hun.buffer,
      hs'.inflight.trans hun.inflight, ?_, ?_⟩
    · intro payload happend
      rcases hs'.started with ⟨-, -, hstarted⟩ | ⟨-, hstart, -⟩
      · cases (hstarted payload happend).symm.trans hnot
      · cases hstart.symm.trans happend
    · intro hstarted
      rcases hs'.started with ⟨hsame, -⟩ | ⟨-, hstart, -⟩
      · cases (hsame ▸ hstarted).symm.trans hnot
      · exact hstart

/-! ## The writer -/

structure Writes (s s' : Session) : Prop extends Aside s s' where
  started : s'.started = s.started
  receive : s'.receive = s.receive
  calls : ∀ code reason, .enter (.Close code reason) ∈ s'.calls →
    .enter (.Close code reason) ∈ s.calls

lemma Calm.writes (h : Calm config s t last) (hs' : Writes s s') :
    Calm config s' t last where
  quiet reason hmem := h.quiet reason (hs'.calls _ reason hmem)
  closing := by rw [hs'.receive]; exact h.closing
  startFlush hreceive := hs'.started.trans (h.startFlush (hs'.receive ▸ hreceive))
  notStarted := by
    rw [hs'.flush, hs'.started, hs'.receive]
    exact h.notStarted
  closeWith hopen := by
    rw [hs'.receive]
    exact h.closeWith (hs'.opened hopen)
  window hopen := by
    refine (h.window (hs'.opened hopen)).imp (fun hun => ?_) hs'.toAside.window
    exact ⟨hs'.flush.trans hun.flush, hs'.buffer.trans hun.buffer,
      hs'.inflight.trans hun.inflight, by rw [hs'.receive]; exact hun.append,
      by rw [hs'.receive, hs'.started]; exact hun.started⟩

lemma Helped.writes (h : Helped s s₁) (pc : WriterPc) :
    Writes s { s₁ with writer := pc } :=
  ⟨{ h.toAside with }, h.started, h.receive, fun _ _ hmem => h.calls ▸ hmem⟩

lemma writes_log {entry : CallEntry SocketCall} {pc : WriterPc}
    (hentry : ∀ code reason, entry ≠ .enter (.Close code reason)) :
    Writes s { s with calls := s.calls ++ [entry], writer := pc } where
  toAside := ⟨rfl, rfl, rfl, rfl, id⟩
  started := rfl
  receive := rfl
  calls code reason hmem := by
    rcases List.mem_append.mp hmem with hmem | hmem
    · exact hmem
    · exact absurd (List.mem_singleton.mp hmem).symm (hentry code reason)

lemma writes_writerStep (h : s.writerStep ok = some s') : Writes s s' := by
  unfold writerStep at h
  split at h
  case h_1 | h_2 => cases h
  case h_3 | h_6 =>
    cases h
    exact (helped_self s).writes _
  case h_4 =>
    split_ifs at h
    · cases h
      exact (helped_self s).writes _
    · split at h
      case h_1 => cases h
      case h_2 =>
        cases h
        exact ⟨⟨rfl, rfl, rfl, rfl, id⟩, rfl, rfl, fun _ _ => id⟩
  case h_5 payload _ =>
    obtain ⟨lock, -, h⟩ := Option.bind_eq_some_iff.mp h
    cases h
    exact (helped_sendLock s lock).writes _
  case h_7 | h_8 =>
    cases h
    exact writes_log nofun
  case h_9 =>
    obtain ⟨⟨pc', s₁⟩, hshutdown, h⟩ := Option.bind_eq_some_iff.mp h
    have hs₁ := helped_shutdown hshutdown
    cases pc' with
    | none | some pc' =>
      cases h
      exact hs₁.writes _
  case h_10 =>
    obtain ⟨s₁, hunlock, h⟩ := Option.bind_eq_some_iff.mp h
    cases h
    exact (helped_unlock hunlock).writes _

/-! ## The flush thread -/

lemma Calm.flushes (h : Calm config s t last) (hs' : FlushOnly s s') (hruns : s.flush ≠ .NotStarted)
    (hwindow : s.closed = false → Window config s t last → Window config s' t last) :
    Calm config s' t last where
  quiet := by rw [hs'.calls]; exact h.quiet
  closing := by rw [hs'.receive]; exact h.closing
  startFlush := by rw [hs'.receive, hs'.started]; exact h.startFlush
  notStarted := by
    rw [hs'.receive, hs'.started]
    exact fun hnot => absurd (h.notStarted hnot) hruns
  closeWith := by rw [hs'.receive, hs'.closed]; exact h.closeWith
  window := by
    rw [hs'.closed]
    intro hopen
    rcases h.window hopen with hun | hw
    · exact absurd hun.flush hruns
    · exact .inr (hwindow hopen hw)

lemma ms_add (a b : ℤ) : ms (a + b) = ms a + ms b := by
  unfold ms
  ring

lemma toNanos_eq {n : ℤ} (h : ms n < ms 6000) : toNanos n = some (ms n) := by
  unfold toNanos
  rw [if_pos]
  · rfl
  · unfold ms at h
    linarith

lemma Calm.flushStart (hconfig : env.config.Valid) (hwait : env.config.longestWait < ms 6000)
    (h : Calm env.config s t last) (hflush : s.flush = .Starting) (offset : Nanos) :
    Calm env.config (s.flushStart env t offset) t last := by
  have hjitter : ms env.config.flushIntervalMs + ms env.config.flushPhaseJitterMs ≤
      env.config.longestWait := by
    rw [← ms_add]
    exact (ms_le_longestWait env.config).1
  have hnonneg : 0 ≤ ms env.config.flushIntervalMs ∧ 0 ≤ ms env.config.flushPhaseJitterMs := by
    have := hconfig.interval
    have := hconfig.jitter
    unfold ms
    constructor <;> linarith
  unfold Session.flushStart
  rw [toNanos_eq (by linarith), toNanos_eq (by linarith)]
  refine h.flushes ⟨rfl, rfl, rfl, rfl, rfl, rfl⟩ (by simp [hflush]) fun _ hwindow => ?_
  obtain ⟨since, hspaced, hbound⟩ := hwindow.bound
  rw [hflush] at hbound
  have hoffset : max 0 (min offset (ms env.config.flushPhaseJitterMs)) ≤
      ms env.config.flushPhaseJitterMs :=
    max_le hnonneg.2 (min_le_right _ _)
  have hnow : t ≤ since := hbound
  refine ⟨hwindow.inflight.trans (by simp [hflush]), since, hspaced, ?_, ?_⟩
  · show t + ms env.config.flushIntervalMs + _ ≤ _
    linarith
  · linarith

lemma Window.flushStep (hconfig : env.config.Valid) (hwindow : Window env.config s t last)
    (hopen : s.closed = false) (hstep : s.flushStep env t = some s')
    (htick : s.flush = .Parked → s.expected ≤ t) : Window env.config s' t last := by
  obtain ⟨hinterval, htimeout, hpos, hnonneg⟩ := longestWait_bounds hconfig
  obtain ⟨hinflight, since, hspaced, hbound⟩ := hwindow
  unfold Session.flushStep at hstep
  split at hstep
  case h_1 hflush =>
    rw [hflush] at hbound hinflight
    cases hstep
    refine ⟨?_, since, hspaced, ?_⟩
    · simp [hinflight, hopen]
    · simp only [hopen]
      exact hbound
  case h_2 hflush =>
    rw [hflush] at hbound hinflight
    simp only [hopen, Bool.false_eq_true, if_false] at hstep
    cases hstep
    refine ⟨hinflight, since, hspaced, ?_, hbound.2⟩
    show s.expected + ms env.config.flushIntervalMs ≤ _
    have := htick hflush
    linarith
  case h_3 flushLateness hflush =>
    rw [hflush] at hbound hinflight
    rw [if_neg (by simp [hinflight])] at hstep
    cases hstep
    exact ⟨rfl, since, hspaced, hbound⟩
  case h_4 flushLateness hflush =>
    -- the buffer is empty from this time on
    rw [hflush] at hbound hinflight
    split at hstep
    case h_1 hbuffer =>
      cases hstep
      refine ⟨hinflight, t, ?_, hbound.1, by linarith⟩
      show Spaced (ms 20) t t last s.buffer.length
      rw [hbuffer]
      exact .zero (le_refl t)
    case h_2 =>
      cases hstep
      exact ⟨hinflight, t, .zero (le_refl t), hbound.1, le_refl t⟩
  case h_5 batch flushLateness hflush =>
    rw [hflush] at hbound hinflight
    split at hstep
    case h_2 => cases hstep
    case h_1 =>
      cases hstep
      obtain rfl := le_antisymm hbound.2 hspaced.1
      exact ⟨hinflight, t, hspaced, rfl, hbound.1, by linarith⟩
  case h_6 message hflush =>
    rw [hflush] at hbound hinflight
    split_ifs at hstep
    · cases hstep
      exact ⟨hinflight, since, hspaced, hbound⟩
    · cases hstep
      exact ⟨hinflight, since, hspaced, hbound⟩
  case h_7 hflush =>
    rw [hflush] at hbound
    cases hstep
    obtain ⟨hexpected, hnow⟩ := hbound
    refine ⟨rfl, since, hspaced, ?_, ?_⟩
    · show s.expected ≤ _
      linarith
    · linarith
  case h_8 => cases hstep

lemma Calm.flushStep (hconfig : env.config.Valid) (h : Calm env.config s t last)
    (hstep : s.flushStep env t = some s') (htick : s.flush = .Parked → s.expected ≤ t) :
    Calm env.config s' t last := by
  refine h.flushes (flushOnly_flushStep hstep) ?_ fun hopen hwindow =>
    hwindow.flushStep hconfig hopen hstep htick
  intro hflush
  rw [Session.flushStep, hflush] at hstep
  cases hstep

lemma Calm.inferReturns (h : Calm env.config s t last) {ctx : FlushContext}
    (hflush : s.flush = .Inferring ctx) (result : Except Thrown InferResponse) :
    Calm env.config (s.inferReturns env ctx result t) t last := by
  have hbound (message : OutboundMessage) (hwindow : Window env.config s t last) :
      Window env.config { s with flush := .Enqueue message } t last := by
    obtain ⟨since, hspaced, hbound⟩ := hwindow.bound
    rw [hflush] at hbound
    exact ⟨hwindow.inflight.trans (by simp [hflush]), since, hspaced, hbound.2⟩
  cases result with
  | ok infer | error thrown =>
    exact h.flushes ⟨rfl, rfl, rfl, rfl, rfl, rfl⟩ (by simp [hflush]) fun _ => hbound _

/-! ## Whole runs -/

lemma calm_start (config : Config) (now : Nanos) : Calm config start now none where
  quiet _ := List.not_mem_nil
  closing := by simp [start]
  startFlush := by simp [start]
  notStarted _ := rfl
  closeWith := by simp [start]
  window _ := .inl ⟨rfl, rfl, rfl, by simp [start], by simp [start]⟩

lemma calm_inductive (hconfig : env.config.Valid) (hwait : env.config.longestWait < ms 6000) :
    (healthy env).Inductive fun p => Calm env.config p.state p.now p.last where
  init := by
    rintro ⟨s, now, last⟩ ⟨⟨-, rfl⟩, rfl⟩
    exact calm_start env.config now
  step := by
    rintro p ⟨t, e⟩ p' h ⟨⟨ht, hgap, hschedule⟩, s', hstep, rfl⟩
    have hcalm := h.wait ht hschedule.deadline
    have htime := hschedule.time
    cases e with
    | Callback callback =>
      simp only [system, step] at hstep
      split at hstep
      case h_2 => cases hstep
      case h_1 hreceive =>
        cases hstep
        exact hcalm.opens hreceive (opens_callback env hreceive callback)
    | Receive ok now =>
      obtain rfl := htime now rfl
      exact hcalm.receiveStep hconfig hwait hstep (fun payload hreceive => hgap (by
        rw [arrival, hreceive]))
    | Writer ok => exact hcalm.writes (writes_writerStep hstep)
    | FlushStart now offset =>
      obtain rfl := htime now rfl
      simp only [system, step] at hstep
      split at hstep
      case h_2 => cases hstep
      case h_1 hflush =>
        cases hstep
        exact hcalm.flushStart hconfig hwait hflush offset
    | Flush now =>
      obtain rfl := htime now rfl
      refine hcalm.flushStep hconfig hstep fun hflush => hschedule.tick ?_ rfl
      rw [hflush]
    | InferReturns result now =>
      obtain rfl := htime now rfl
      simp only [system, step] at hstep
      split at hstep
      case h_2 => cases hstep
      case h_1 ctx hflush =>
        cases hstep
        exact hcalm.inferReturns hflush result

theorem short_wait_not_closed {getenv : String → Option String}
    (hload : env.config = Config.load getenv) (htimeout : 1 ≤ env.config.inferenceTimeoutMs)
    (hwait : env.config.longestWait < ms 6000) (hp : (healthy env).Reachable p) (reason : String) :
    .enter (.Close closeTryAgainLater reason) ∉ p.state.calls := by
  have hconfig : env.config.Valid := by
    rw [hload] at htimeout ⊢
    exact Config.load_valid htimeout
  exact ((calm_inductive hconfig hwait).reachable hp).quiet reason

instance (env : Env) (p : Timed Session Nanos) (t : Nanos) (e : Event) :
    Decidable (OnSchedule env p t e) :=
  decidable_of_iff _ (onSchedule_iff env p t e).symm

def untilParked : List (Nanos × Event) :=
  [(0, .Callback (.Text (units startJson) true)), (0, .Receive true 0), (0, .FlushStart 0 0), (0, .Flush 0)]

def silence : Bytes := List.replicate 640 0

def frameAt (k : ℕ) : List (Nanos × Event) :=
  [(ms (20 * k), .Callback (.Binary silence true)),
    (ms (20 * k), .Receive true (ms (20 * k)))]

def answered : List (Nanos × Event) :=
  List.replicate 4 (ms 1000, .Flush (ms 1000)) ++
    [(ms 1100, .InferReturns (.ok ⟨.finite 0, 0, 0, 320, some "", 640⟩) (ms 1100)),
      (ms 1100, .Flush (ms 1100))] ++ List.replicate 6 (ms 1100, .Writer true)

theorem short_wait_not_closed_answered :
    ∃ p, (healthy defaultEnv).Reachable p ∧ p.state.buffer = [] ∧ p.state.calls.length = 2 ∧
      ∀ reason, .enter (.Close closeTryAgainLater reason) ∉ p.state.calls := by
  obtain ⟨p, hp, hbuffer, hcalls⟩ : ∃ p, (healthy defaultEnv).Reachable p ∧
      p.state.buffer.length = 0 ∧ p.state.calls.length = 2 :=
    Reachable.exists_of_timedStep (M := system defaultEnv) (fun _ _ _ h => h) start 0
      ⟨by decide +kernel, rfl⟩ (untilParked ++ frameAt 1 ++ answered) (by decide +kernel)
  exact ⟨p, hp, List.length_eq_zero_iff.mp hbuffer, hcalls,
    short_wait_not_closed rfl (by decide +kernel) (by decide +kernel) hp⟩

/-! ## A wait of six seconds -/

lemma onSchedule_parked {e : Event} (hflush : p.state.flush = .Parked)
    (ht : t ≤ p.state.expected) (htime : ∀ now ∈ e.time, now = t) (he : e.isFlush = false) :
    OnSchedule env p t e where
  time := htime
  deadline due hdue := by
    rw [Session.deadline, hflush] at hdue
    cases hdue
    exact ht.trans (le_max_left _ _)
  tick _ hflush := by
    rw [he] at hflush
    cases hflush

lemma reachable_receive (hp : (healthy env).Reachable ⟨s, t, last⟩) (hflush : s.flush = .Parked)
    (ht : t ≤ s.expected)
    (hgap : arrival s (.Receive true t) = true → ∀ l ∈ last, l + ms 20 ≤ t)
    (hstep : s.receiveStep true t = some s') :
    (healthy env).Reachable ⟨s', t, if arrival s (.Receive true t) then some t else last⟩ :=
  .step hp (e := (t, .Receive true t))
    ⟨⟨le_refl t, hgap, onSchedule_parked hflush ht (by simp [Event.time]) rfl⟩, s', hstep, rfl⟩

structure Collecting (p : Timed Session Nanos) (k : ℕ) : Prop where
  opened : p.state.closed = false
  started : p.state.started = true
  whole : p.state.pendingFrame = none
  receive : p.state.receive = .Idle
  flush : p.state.flush = .Parked
  expected : ms 6000 ≤ p.state.expected
  sendLock : p.state.sendLock = .free
  length : p.state.buffer.length = k
  now : p.now ≤ ms (20 * k)
  last : ∀ l ∈ p.last, l + ms 20 ≤ ms (20 * k)

lemma ms_le_ms {a b : ℤ} (h : a ≤ b) : ms a ≤ ms b := by
  unfold ms
  linarith

lemma Collecting.arrives {k : ℕ} (h : Collecting p k) (hk : k ≤ 300)
    (hp : (healthy env).Reachable p) :
    (healthy env).Reachable
      ⟨{ p.state with receive := .Append silence }, ms (20 * k), p.last⟩ := by
  have hexpected : ms (20 * k) ≤ p.state.expected := (ms_le_ms (by omega)).trans h.expected
  refine .step hp (e := (ms (20 * k), .Callback (.Binary silence true)))
    ⟨⟨h.now, nofun, onSchedule_parked h.flush hexpected nofun rfl⟩, _, ?_, rfl⟩
  show p.state.step env _ = some _
  rw [step, h.receive]
  have hlength : silence.length = frameBytes := List.length_replicate
  simp [Session.callback, onBinary, h.opened, h.started, h.whole, hlength]

lemma Collecting.succ {k : ℕ} (h : Collecting p k) (hk : k < 300)
    (hp : (healthy env).Reachable p) :
    ∃ p', (healthy env).Reachable p' ∧ Collecting p' (k + 1) := by
  have hexpected : ms (20 * k) ≤ p.state.expected := (ms_le_ms (by omega)).trans h.expected
  refine ⟨_, reachable_receive (h.arrives hk.le hp) h.flush hexpected (fun _ => h.last) rfl, ?_⟩
  have hroom : p.state.buffer.length < maxBacklogFrames := h.length ▸ hk
  have hnext : ms (20 * k) + ms 20 = ms (20 * (k + 1 : ℕ)) := by
    unfold ms
    push_cast
    ring
  simp only [Session.append, hroom, if_true, arrival]
  exact
    { opened := h.opened
      started := h.started
      whole := h.whole
      receive := rfl
      flush := h.flush
      expected := h.expected
      sendLock := h.sendLock
      length := by simp [h.length]
      now := ms_le_ms (by push_cast; linarith)
      last := by
        intro l hl
        cases hl
        exact hnext.le }

lemma Collecting.reachable (h : Collecting p 0) (hp : (healthy env).Reachable p) (k : ℕ)
    (hk : k ≤ 300) : ∃ p', (healthy env).Reachable p' ∧ Collecting p' k := by
  induction k with
  | zero => exact ⟨p, hp, h⟩
  | succ k ih =>
    obtain ⟨p', hp', h'⟩ := ih (by omega)
    exact h'.succ (by omega) hp'

lemma Collecting.overflows (h : Collecting p 300) (hp : (healthy env).Reachable p) :
    ∃ p', (healthy env).Reachable p' ∧
      .enter (.Close closeTryAgainLater reasonBacklog) ∈ p'.state.calls := by
  have hroom : ¬ p.state.buffer.length < maxBacklogFrames := by simp [h.length, maxBacklogFrames]
  have hrefused := reachable_receive (h.arrives (le_refl 300) hp) h.flush h.expected
    (fun _ => h.last) rfl
  rw [Session.append, if_neg hroom] at hrefused
  have hclosing := reachable_receive hrefused h.flush h.expected (by rintro ⟨⟩) (by
    simp only [receiveStep, closeWith, h.opened, Bool.false_eq_true, if_false]
    rfl)
  have hheld := reachable_receive hclosing h.flush h.expected (by rintro ⟨⟩) (by
    simp only [receiveStep, lockForClose, tryLockSend, h.sendLock, if_true]
    rfl)
  refine ⟨_, reachable_receive hheld h.flush h.expected (by rintro ⟨⟩) rfl, ?_⟩
  exact List.mem_append_right _ (List.mem_singleton_self _)

def tenSeconds : Env :=
  { defaultEnv with
    config := Config.load fun name => if name = "FLUSH_INTERVAL_MS" then some "10000" else none }

def waiting : Session :=
  { start with started := true, writer := .Loop, flush := .Parked, expected := ms 10000 }

lemma reachable_waiting : (healthy tenSeconds).Reachable ⟨waiting, 0, none⟩ := by
  have hrun : exec (timedStep (step tenSeconds) (ms 20) arrival (OnSchedule tenSeconds))
      ⟨start, 0, none⟩ untilParked = some ⟨waiting, 0, none⟩ := by
    rfl
  exact Reachable.of_exec (fun _ _ _ => timed_step_of_timedStep fun _ _ _ h => h)
    (.start ⟨⟨by decide +kernel, rfl⟩, rfl⟩) hrun

lemma collecting_waiting : Collecting ⟨waiting, 0, none⟩ 0 :=
  ⟨rfl, rfl, rfl, rfl, rfl, by decide, rfl, rfl, by decide, nofun⟩

theorem long_interval_closed :
    1 ≤ tenSeconds.config.inferenceTimeoutMs ∧
      ∃ p, (healthy tenSeconds).Reachable p ∧
        ∃ reason, .enter (.Close closeTryAgainLater reason) ∈ p.state.calls := by
  refine ⟨by decide +kernel, ?_⟩
  obtain ⟨p₁, hp₁, hfull⟩ := collecting_waiting.reachable reachable_waiting 300 (le_refl 300)
  obtain ⟨p₂, hp₂, hclosed⟩ := hfull.overflows hp₁
  exact ⟨p₂, hp₂, reasonBacklog, hclosed⟩

end Session

end SttBench.JavaHelidon
