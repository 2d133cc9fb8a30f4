import SttBench.Core.LastCall
import SttBench.JavaHelidon.Session

/-! # java-helidon-nima: the calls of the socket -/

namespace SttBench.JavaHelidon

open CallEntry TransitionSystem Function Option

def SocketCall.IsClose (c : SocketCall) : Prop := c matches .Close _ _

instance : DecidablePred SocketCall.IsClose := fun _ => inferInstanceAs (Decidable (_ = true))

/-! ## What a program counter says -/

@[simp] def Shutdown.holds : Shutdown → ℕ
  | .Cas | .Lock _ => 0
  | .Interrupt | .Unlock => 1

@[simp] def ReceivePc.holds : ReceivePc → ℕ
  | .CloseHeld _ _ | .InClose _ _ | .CloseInterrupt | .CloseUnlock => 1
  | .PingHeld _ | .PingChecked _ | .InPong _ | .PingUnlock => 1
  | .Shutdown pc => pc.holds
  | _ => 0

@[simp] def WriterPc.holds : WriterPc → ℕ
  | .Held _ | .Checked _ | .InSend _ | .Unlock _ => 1
  | .Failed pc => pc.holds + 1
  | _ => 0

@[simp] def ReceivePc.closer : ReceivePc → Option Thread
  | .CloseLock _ _ _ | .CloseHeld _ _ => some .Receive
  | _ => none

@[simp] def ReceivePc.view : ReceivePc → CallerView SocketCall
  | .PingChecked _ => ⟨true, none⟩
  | .InPong buffer => ⟨false, some (.Pong buffer)⟩
  | .InClose code reason => ⟨false, some (.Close code reason)⟩
  | _ => ⟨false, none⟩

@[simp] def WriterPc.view : WriterPc → CallerView SocketCall
  | .Checked _ => ⟨true, none⟩
  | .InSend payload => ⟨false, some (.Send payload)⟩
  | _ => ⟨false, none⟩

namespace Session

variable {env : Env} {s s' s₁ : Session} {t : Thread} {ok : Bool}

@[simp] def view (s : Session) : Thread → CallerView SocketCall
  | .Receive => s.receive.view
  | .Writer => s.writer.view
  | .Flush => ⟨false, none⟩

@[simp] def held (s : Session) : Thread → ℕ
  | .Receive => s.receive.holds
  | .Writer => s.writer.holds
  | .Flush => 0

def LockHeld (s : Session) : Prop := s.sendLock.holds = s.held

def WriterWaits (s : Session) : Prop := s.started = false → s.writer = .NotStarted

def abs (s : Session) : LastCall Thread SocketCall :=
  ⟨s.sendLock, s.closed, s.receive.closer, s.view, s.calls⟩

/-! ## What the helper functions do -/

lemma tryLockSend_cases {locked : Bool} (h : s.tryLockSend t ok = some (locked, s₁)) :
    (locked = true ∧ ∃ lock, s.sendLock.acquire t = some lock ∧ s₁ = { s with sendLock := lock }) ∨
      (locked = false ∧ s₁ = s) := by
  unfold tryLockSend at h
  split_ifs at h
  · obtain ⟨lock, hlock, h⟩ := map_eq_some_iff.mp h
    cases h
    exact .inl ⟨rfl, lock, hlock, rfl⟩
  · cases h
    exact .inr ⟨rfl, rfl⟩

lemma lockForClose_cases {stage : LockForClose} {r : Locked}
    (h : s.lockForClose t stage ok = some (r, s₁)) :
    (r = .Acquired ∧ ∃ lock, s.sendLock.acquire t = some lock ∧ s₁ = { s with sendLock := lock }) ∨
      (r ≠ .Acquired ∧ (s₁ = s ∨ s₁ = s.interruptWorkers)) := by
  cases stage with
  | First | Second =>
    obtain ⟨⟨locked, s₂⟩, htry, h⟩ := bind_eq_some_iff.mp h
    cases h
    obtain ⟨rfl, hacquire⟩ | ⟨rfl, rfl⟩ := tryLockSend_cases htry
    · exact .inl ⟨rfl, hacquire⟩
    · exact .inr ⟨nofun, .inl rfl⟩
  | Interrupt =>
    cases h
    exact .inr ⟨nofun, .inr rfl⟩

lemma unlock_cases (h : s.unlock t = some s₁) :
    ∃ lock, s.sendLock.release t = some lock ∧ s₁ = { s with sendLock := lock } := by
  obtain ⟨lock, hlock, rfl⟩ := map_eq_some_iff.mp h
  exact ⟨lock, hlock, rfl⟩

inductive ShutdownStep (s : Session) (t : Thread) (pc : Shutdown) (pc' : Option Shutdown)
    (s₁ : Session) : Prop
  | acquire (lock : ReentrantLock Thread) (hlock : s.sendLock.acquire t = some lock)
      (hs₁ : s₁ = { s with sendLock := lock }) (hholds : pc'.elim 0 Shutdown.holds = pc.holds + 1)
  | release (lock : ReentrantLock Thread) (hlock : s.sendLock.release t = some lock)
      (hs₁ : s₁ = { s with sendLock := lock }) (hholds : pc'.elim 0 Shutdown.holds + 1 = pc.holds)
  | shut (hs₁ : s₁ = { s with closed := true }) (hholds : pc'.elim 0 Shutdown.holds = pc.holds)
  | none (hs₁ : s₁ = s ∨ s₁ = s.interruptWorkers) (hholds : pc'.elim 0 Shutdown.holds = pc.holds)

lemma shutdown_cases {pc : Shutdown} {pc' : Option Shutdown}
    (h : s.shutdown t pc ok = some (pc', s₁)) : ShutdownStep s t pc pc' s₁ := by
  cases pc with
  | Cas =>
    simp only [shutdown] at h
    split_ifs at h
    · cases h
      exact .none (.inl rfl) rfl
    · cases h
      exact .shut rfl rfl
  | Lock stage =>
    obtain ⟨⟨r, s₂⟩, htry, h⟩ := bind_eq_some_iff.mp h
    cases r with
    | Acquired =>
      cases h
      obtain ⟨-, lock, hlock, rfl⟩ | ⟨hne, -⟩ := lockForClose_cases htry
      · exact .acquire lock hlock rfl rfl
      · exact absurd rfl hne
    | Pending stage | Wedged =>
      cases h
      obtain ⟨hr, -⟩ | ⟨-, hs₁⟩ := lockForClose_cases htry
      · cases hr
      · exact .none hs₁ rfl
  | Interrupt =>
    cases h
    exact .none (.inr rfl) rfl
  | Unlock =>
    obtain ⟨s₂, hunlock, h⟩ := bind_eq_some_iff.mp h
    cases h
    obtain ⟨lock, hlock, rfl⟩ := unlock_cases hunlock
    exact .release lock hlock rfl rfl

lemma ShutdownStep.pcs {pc : Shutdown} {pc' : Option Shutdown} (h : ShutdownStep s t pc pc' s₁) :
    s₁.receive = s.receive ∧ s₁.writer = s.writer := by
  cases h with
  | acquire lock hlock hs₁ | release lock hlock hs₁ | shut hs₁ => exact hs₁ ▸ ⟨rfl, rfl⟩
  | none hs₁ => rcases hs₁ with rfl | rfl <;> exact ⟨rfl, rfl⟩

/-! ## One thread moves -/

structure Moves (t : Thread) (s s' : Session) : Prop where
  view : ∀ u ≠ t, s'.view u = s.view u
  held : ∀ u ≠ t, s'.held u = s.held u
  waits : s.WriterWaits → s'.WriterWaits

lemma Moves.of_pcs
    (hreceive : t ≠ .Receive →
      s'.receive.view = s.receive.view ∧ s'.receive.holds = s.receive.holds)
    (hwriter : t ≠ .Writer → s'.writer.view = s.writer.view ∧ s'.writer.holds = s.writer.holds)
    (hwaits : s.WriterWaits → s'.WriterWaits) : Moves t s s' where
  view u hu := by
    cases u with
    | Receive => exact (hreceive hu.symm).1
    | Writer => exact (hwriter hu.symm).1
    | Flush => rfl
  held u hu := by
    cases u with
    | Receive => exact (hreceive hu.symm).2
    | Writer => exact (hwriter hu.symm).2
    | Flush => rfl
  waits := hwaits

lemma moves_receive (h : s'.writer = s.writer) (hstarted : s'.started = s.started) :
    Moves .Receive s s' :=
  .of_pcs (absurd rfl) (fun _ => h ▸ ⟨rfl, rfl⟩) fun hwaits hs' =>
    h.trans (hwaits (hstarted ▸ hs'))

lemma moves_writer (h : s'.receive = s.receive) (hstarted : s'.started = s.started)
    (hruns : s.writer ≠ .NotStarted) : Moves .Writer s s' :=
  .of_pcs (fun _ => h ▸ ⟨rfl, rfl⟩) (absurd rfl) fun hwaits hs' =>
    absurd (hwaits (hstarted ▸ hs')) hruns

lemma moves_flush (h : s'.receive = s.receive) (hwriter : s'.writer = s.writer)
    (hstarted : s'.started = s.started) : Moves .Flush s s' :=
  .of_pcs (fun _ => h ▸ ⟨rfl, rfl⟩) (fun _ => hwriter ▸ ⟨rfl, rfl⟩) fun hwaits hs' =>
    hwriter.trans (hwaits (hstarted ▸ hs'))

lemma Moves.view_eq (h : Moves t s s') : s'.view = update s.view t (s'.view t) :=
  (update_eq_iff.mpr ⟨rfl, fun u hu => (h.view u hu).symm⟩).symm

lemma Moves.held_eq (h : Moves t s s') : s'.held = update s.held t (s'.held t) :=
  (update_eq_iff.mpr ⟨rfl, fun u hu => (h.held u hu).symm⟩).symm

/-! ## The simulation -/

structure Sim (s s' : Session) : Prop where
  lockHeld : s'.LockHeld
  waits : s.WriterWaits → s'.WriterWaits
  step : s'.abs = s.abs ∨ ∃ d, LastCall.Step SocketCall.IsClose s.abs d s'.abs

lemma LockHeld.pos (h : s.LockHeld) (hpos : 0 < s.held t) : 0 < s.abs.lock.holds t := by
  show 0 < s.sendLock.holds t
  rw [h]
  exact hpos

lemma LockHeld.moves (h : s.LockHeld) (hm : Moves t s s') (hlock : s'.sendLock = s.sendLock)
    (hheld : s'.held t = s.held t) : s'.LockHeld := by
  rw [LockHeld, hlock, h, hm.held_eq, hheld, update_eq_self]

lemma Sim.of_step (h : s.LockHeld) (hm : Moves t s s') (hlock : s'.sendLock = s.sendLock)
    (hheld : s'.held t = s.held t) {d : LastCall.Label} {a : LastCall Thread SocketCall}
    (hstep : LastCall.Step SocketCall.IsClose s.abs d a)
    (hclosed : s'.closed = a.closed) (hcloser : s'.receive.closer = a.closer)
    (hview : update s.view t (s'.view t) = a.view) (hlog : s'.calls = a.log)
    (halock : a.lock = s.sendLock) : Sim s s' := by
  have habs : s'.abs = a :=
    LastCall.ext (hlock.trans halock.symm) hclosed hcloser (hm.view_eq.trans hview) hlog
  exact ⟨h.moves hm hlock hheld, hm.waits, .inr ⟨d, habs ▸ hstep⟩⟩

lemma Sim.stutter (h : s.LockHeld) (hm : Moves t s s') (hlock : s'.sendLock = s.sendLock)
    (hheld : s'.held t = s.held t) (hclosed : s'.closed = s.closed)
    (hcloser : s'.receive.closer = s.receive.closer) (hview : s'.view t = s.view t)
    (hlog : s'.calls = s.calls) : Sim s s' := by
  have hviews : s'.view = s.view := by rw [hm.view_eq, hview, update_eq_self]
  exact ⟨h.moves hm hlock hheld, hm.waits, .inl (LastCall.ext hlock hclosed hcloser hviews hlog)⟩

lemma Sim.acquire (h : s.LockHeld) (hm : Moves t s s')
    (hlock : s.sendLock.acquire t = some s'.sendLock) (hheld : s'.held t = s.held t + 1)
    (hclosed : s'.closed = s.closed) (hcloser : s'.receive.closer = s.receive.closer)
    (hview : s'.view t = s.view t) (hlog : s'.calls = s.calls) : Sim s s' := by
  have hviews : s'.view = s.view := by rw [hm.view_eq, hview, update_eq_self]
  refine ⟨?_, hm.waits, .inr ⟨.acquire, ?_⟩⟩
  · rw [LockHeld, ReentrantLock.holds_acquire hlock, hm.held_eq, hheld, h]
  · have habs : s'.abs = { s.abs with lock := s'.sendLock } :=
      LastCall.ext rfl hclosed hcloser hviews hlog
    exact habs ▸ .acquire hlock

lemma Sim.release (h : s.LockHeld) (hm : Moves t s s')
    (hlock : s.sendLock.release t = some s'.sendLock) (hheld : s'.held t + 1 = s.held t)
    (hclosed : s'.closed = s.closed) (hcloser : s'.receive.closer = s.receive.closer)
    (hview : s.view t = ⟨false, none⟩) (hview' : s'.view t = ⟨false, none⟩)
    (hlog : s'.calls = s.calls) : Sim s s' := by
  have hviews : s'.view = s.view := by
    rw [hm.view_eq, hview'.trans hview.symm, update_eq_self]
  refine ⟨?_, hm.waits, .inr ⟨.release, ?_⟩⟩
  · rw [LockHeld, ReentrantLock.holds_release hlock, hm.held_eq, h, ← hheld, Nat.add_sub_cancel]
  · have habs : s'.abs = { s.abs with lock := s'.sendLock } :=
      LastCall.ext rfl hclosed hcloser hviews hlog
    exact habs ▸ .release hlock hview

lemma Sim.shutdown (h : s.LockHeld) {pc : Shutdown} {pc' : Option Shutdown}
    (hstep : ShutdownStep s t pc pc' s₁) (hm : Moves t s₁ s') (hlock : s'.sendLock = s₁.sendLock)
    (hclosed : s'.closed = s₁.closed) (hcloser : s'.receive.closer = s₁.receive.closer)
    (hlog : s'.calls = s₁.calls) (hview : s.view t = ⟨false, none⟩)
    (hview' : s'.view t = ⟨false, none⟩) {k : ℕ} (hheld : s.held t = pc.holds + k)
    (hheld' : s'.held t = pc'.elim 0 Shutdown.holds + k) : Sim s s' := by
  have hviews : s'.view t = s.view t := hview'.trans hview.symm
  cases hstep with
  | acquire lock hacquire hs₁ hholds =>
    subst hs₁
    exact .acquire h { hm with } (hlock ▸ hacquire) (by omega) hclosed hcloser hviews hlog
  | release lock hrelease hs₁ hholds =>
    subst hs₁
    exact .release h { hm with } (hlock ▸ hrelease) (by omega) hclosed hcloser hview
      hview' hlog
  | shut hs₁ hholds =>
    subst hs₁
    refine .of_step h { hm with } hlock (by omega) .shut hclosed hcloser ?_ hlog rfl
    rw [hviews, update_eq_self]
    rfl
  | none hs₁ hholds =>
    rcases hs₁ with hs₁ | hs₁ <;> subst hs₁
    · exact .stutter h hm hlock (by omega) hclosed hcloser hviews hlog
    · exact .stutter h { hm with } hlock (by omega) hclosed hcloser hviews hlog

structure Begins (s s' : Session) : Prop where
  lock : s'.sendLock = s.sendLock
  closed : s'.closed = s.closed
  calls : s'.calls = s.calls
  holds : s'.receive.holds = 0
  closer : s'.receive.closer = none
  view : s'.receive.view = ⟨false, none⟩
  writer : s'.writer = s.writer ∧ s'.started = s.started ∨
    s.started = false ∧ s'.writer = .Loop ∧ s'.started = true

lemma begins_startWith (hstarted : s.started = false) (message : JavaString) :
    Begins s (s.startWith env message) := by
  unfold startWith
  split_ifs
  · exact ⟨rfl, rfl, rfl, rfl, rfl, rfl, .inr ⟨hstarted, rfl, rfl⟩⟩
  · exact ⟨rfl, rfl, rfl, rfl, rfl, rfl, .inl ⟨rfl, rfl⟩⟩

lemma begins_callback (env : Env) (hreceive : s.receive = .Idle) (callback : Callback) :
    Begins s (s.callback env callback) := by
  have hself : Begins s s := ⟨rfl, rfl, rfl, by simp [hreceive], by simp [hreceive],
    by simp [hreceive], .inl ⟨rfl, rfl⟩⟩
  cases callback with
  | Text text last =>
    simp only [Session.callback, onText]
    split_ifs with hclosed hstarted hlong hlast
    · exact hself
    · exact ⟨rfl, rfl, rfl, rfl, rfl, rfl, .inl ⟨rfl, rfl⟩⟩
    · exact ⟨rfl, rfl, rfl, rfl, rfl, rfl, .inl ⟨rfl, rfl⟩⟩
    · exact { hself with }
    · exact { begins_startWith (s := { s with pendingText := none })
        (Bool.eq_false_of_not_eq_true hstarted) _ with }
    · exact begins_startWith (Bool.eq_false_of_not_eq_true hstarted) text
  | Binary frame last =>
    simp only [Session.callback, onBinary]
    split_ifs
    · exact hself
    all_goals first
      | exact { hself with }
      | exact ⟨rfl, rfl, rfl, rfl, rfl, rfl, .inl ⟨rfl, rfl⟩⟩
  | Ping buffer | Close | Error => exact ⟨rfl, rfl, rfl, rfl, rfl, rfl, .inl ⟨rfl, rfl⟩⟩

lemma Sim.callback (h : s.LockHeld) (hwaits : s.WriterWaits) (hreceive : s.receive = .Idle)
    (callback : Callback) : Sim s (s.callback env callback) := by
  have hbegins := begins_callback env hreceive callback
  have hwriter : (s.callback env callback).writer.view = s.writer.view ∧
      (s.callback env callback).writer.holds = s.writer.holds := by
    rcases hbegins.writer with ⟨hwriter, -⟩ | ⟨hstarted, hwriter, -⟩
    · rw [hwriter]
      exact ⟨rfl, rfl⟩
    · rw [hwriter, hwaits hstarted]
      exact ⟨rfl, rfl⟩
  have hm : Moves .Receive s (s.callback env callback) := by
    refine .of_pcs (absurd rfl) (fun _ => hwriter) fun _ hs' => ?_
    rcases hbegins.writer with ⟨hsame, hstarted⟩ | ⟨-, -, hstarted⟩
    · exact hsame.trans (hwaits (hstarted ▸ hs'))
    · cases hs'.symm.trans hstarted
  refine .stutter h hm hbegins.lock ?_ hbegins.closed ?_ ?_ hbegins.calls
  · exact hbegins.holds.trans (by simp [hreceive])
  · exact hbegins.closer.trans (by simp [hreceive])
  · exact hbegins.view.trans (by simp [hreceive])

lemma Sim.receiveStep (h : s.LockHeld) {now : Nanos} (hstep : s.receiveStep ok now = some s') :
    Sim s s' := by
  unfold Session.receiveStep at hstep
  split at hstep
  case h_1 => cases hstep
  case h_2 hreceive | h_8 hreceive =>
    cases hstep
    refine .stutter h (moves_receive rfl rfl) rfl ?_ rfl ?_ ?_ rfl
    all_goals simp [hreceive]
  case h_3 payload hreceive =>
    cases hstep
    unfold append
    split_ifs
    all_goals
      refine .stutter h (moves_receive rfl rfl) rfl ?_ rfl ?_ ?_ rfl
      all_goals simp [closeWith, hreceive]
  case h_4 code reason hreceive =>
    split_ifs at hstep with hclosed
    · cases hstep
      refine .stutter h (moves_receive rfl rfl) rfl ?_ rfl ?_ ?_ rfl
      all_goals simp [hreceive]
    · -- the flag is set: this thread may close the socket
      cases hstep
      have hopen : s.closed = false := Bool.eq_false_of_not_eq_true hclosed
      refine .of_step h (moves_receive rfl rfl) rfl ?_ (.close (t := .Receive) hopen) rfl rfl ?_ rfl rfl
      · simp [hreceive]
      · rw [update_eq_iff]
        simp [abs, hreceive]
  case h_5 stage code reason hreceive =>
    obtain ⟨⟨r, s₁⟩, htry, hstep⟩ := bind_eq_some_iff.mp hstep
    obtain ⟨rfl, lock, hlock, rfl⟩ | ⟨hne, hs₁⟩ := lockForClose_cases htry
    · cases hstep
      refine .acquire h (moves_receive rfl rfl) hlock ?_ rfl ?_ ?_ rfl
      all_goals simp [hreceive]
    · cases r with
      | Acquired => exact absurd rfl hne
      | Pending stage =>
        cases hstep
        rcases hs₁ with rfl | rfl
        all_goals
          refine .stutter h (moves_receive rfl rfl) rfl ?_ rfl ?_ ?_ rfl
          all_goals simp [hreceive]
      | Wedged =>
        -- it gives up: the socket stays open
        cases hstep
        rcases hs₁ with rfl | rfl
        all_goals
          refine .of_step h (moves_receive rfl rfl) rfl ?_ .quit rfl rfl ?_ rfl rfl
          · simp [hreceive]
          · rw [update_eq_iff]
            simp [abs, hreceive]
  case h_6 code reason hreceive =>
    cases hstep
    refine .of_step h (moves_receive rfl rfl) rfl ?_
      (.lastCall (t := .Receive) (c := .Close code reason) (h.pos ?_) ?_ ?_) rfl rfl ?_ rfl rfl
    all_goals simp [abs, LastCall.enter, LastCall.set, hreceive]
  case h_7 code reason hreceive =>
    cases hstep
    refine .of_step h (moves_receive rfl rfl) rfl ?_
      (.leave (t := .Receive) (c := .Close code reason) ?_) rfl ?_ ?_ rfl rfl
    all_goals
      cases ok
      all_goals simp [abs, LastCall.leave, LastCall.set, hreceive]
  case h_9 hreceive | h_14 hreceive =>
    obtain ⟨s₁, hunlock, hstep⟩ := bind_eq_some_iff.mp hstep
    obtain ⟨lock, hlock, rfl⟩ := unlock_cases hunlock
    cases hstep
    refine .release h (moves_receive rfl rfl) hlock ?_ rfl ?_ ?_ ?_ rfl
    all_goals simp [hreceive]
  case h_10 buffer hreceive =>
    obtain ⟨⟨locked, s₁⟩, htry, hstep⟩ := bind_eq_some_iff.mp hstep
    cases hstep
    obtain ⟨rfl, lock, hlock, rfl⟩ | ⟨rfl, rfl⟩ := tryLockSend_cases htry
    · refine .acquire h (moves_receive rfl rfl) hlock ?_ rfl ?_ ?_ rfl
      all_goals simp [hreceive]
    · refine .stutter h (moves_receive rfl rfl) rfl ?_ rfl ?_ ?_ rfl
      all_goals simp [hreceive]
  case h_11 buffer hreceive =>
    cases hstep
    by_cases hclosed : s.closed = true
    · refine .stutter h (moves_receive rfl rfl) rfl ?_ rfl ?_ ?_ rfl
      all_goals simp [hclosed, hreceive]
    · have hopen : s.closed = false := Bool.eq_false_of_not_eq_true hclosed
      refine .of_step h (moves_receive rfl rfl) rfl ?_
        (.arm (t := .Receive) (h.pos ?_) hopen ?_) rfl ?_ ?_ rfl rfl
      all_goals simp [abs, LastCall.set, hopen, hreceive]
  case h_12 buffer hreceive =>
    cases hstep
    refine .of_step h (moves_receive rfl rfl) rfl ?_
      (.call (t := .Receive) (c := .Pong buffer) ?_ ?_) rfl ?_ ?_ rfl rfl
    all_goals simp [abs, LastCall.enter, LastCall.set, hreceive, SocketCall.IsClose]
  case h_13 buffer hreceive =>
    cases hstep
    refine .of_step h (moves_receive rfl rfl) rfl ?_
      (.leave (t := .Receive) (c := .Pong buffer) ?_) rfl ?_ ?_ rfl rfl
    all_goals simp [abs, LastCall.leave, LastCall.set, hreceive]
  case h_15 pc hreceive =>
    obtain ⟨⟨pc', s₁⟩, hshutdown, hstep⟩ := bind_eq_some_iff.mp hstep
    have hs₁ := shutdown_cases hshutdown
    have hcloser : s₁.receive.closer = none := by rw [hs₁.pcs.1, hreceive]; rfl
    cases pc' with
    | none | some pc' =>
      cases hstep
      refine .shutdown h hs₁ (moves_receive rfl rfl) rfl rfl hcloser.symm rfl ?_ ?_ (k := 0) ?_ ?_
      all_goals simp [hreceive]

lemma Sim.writerStep (h : s.LockHeld) (hstep : s.writerStep ok = some s') : Sim s s' := by
  unfold Session.writerStep at hstep
  split at hstep
  case h_1 | h_2 => cases hstep
  case h_3 hwriter =>
    cases hstep
    refine .stutter h (moves_writer rfl rfl (by simp [hwriter])) rfl ?_ rfl rfl ?_ rfl
    all_goals
      cases s.closed
      all_goals simp [hwriter]
  case h_4 hwriter =>
    split_ifs at hstep
    · cases hstep
      refine .stutter h (moves_writer rfl rfl (by simp [hwriter])) rfl ?_ rfl rfl ?_ rfl
      all_goals simp [hwriter]
    · split at hstep
      · cases hstep
      · cases hstep
        refine .stutter h (moves_writer rfl rfl (by simp [hwriter])) rfl ?_ rfl rfl ?_ rfl
        all_goals simp [hwriter]
  case h_5 payload hwriter =>
    obtain ⟨lock, hlock, hstep⟩ := bind_eq_some_iff.mp hstep
    cases hstep
    refine .acquire h (moves_writer rfl rfl (by simp [hwriter])) hlock ?_ rfl rfl ?_ rfl
    all_goals simp [hwriter]
  case h_6 payload hwriter =>
    cases hstep
    by_cases hclosed : s.closed = true
    · refine .stutter h (moves_writer rfl rfl (by simp [hwriter])) rfl ?_ rfl rfl ?_ rfl
      all_goals simp [hclosed, hwriter]
    · have hopen : s.closed = false := Bool.eq_false_of_not_eq_true hclosed
      refine .of_step h (moves_writer rfl rfl (by simp [hwriter])) rfl ?_
        (.arm (t := .Writer) (h.pos ?_) hopen ?_) rfl rfl ?_ rfl rfl
      all_goals simp [abs, LastCall.set, hopen, hwriter]
  case h_7 payload hwriter =>
    cases hstep
    refine .of_step h (moves_writer rfl rfl (by simp [hwriter])) rfl ?_
      (.call (t := .Writer) (c := .Send payload) ?_ ?_) rfl rfl ?_ rfl rfl
    all_goals simp [abs, LastCall.enter, LastCall.set, hwriter, SocketCall.IsClose]
  case h_8 payload hwriter =>
    cases hstep
    refine .of_step h (moves_writer rfl rfl (by simp [hwriter])) rfl ?_
      (.leave (t := .Writer) (c := .Send payload) ?_) rfl rfl ?_ rfl rfl
    all_goals
      cases ok
      all_goals simp [abs, LastCall.leave, LastCall.set, hwriter]
  case h_9 pc hwriter =>
    -- the writer has the lock already, and `shutdown` may take it once more
    obtain ⟨⟨pc', s₁⟩, hshutdown, hstep⟩ := bind_eq_some_iff.mp hstep
    have hs₁ := shutdown_cases hshutdown
    have hruns : s₁.writer ≠ .NotStarted := by simp [hs₁.pcs.2, hwriter]
    cases pc' with
    | none | some pc' =>
      cases hstep
      refine .shutdown h hs₁ (moves_writer rfl rfl hruns) rfl rfl rfl rfl ?_ ?_ (k := 1) ?_ ?_
      all_goals simp [hwriter]
  case h_10 sent hwriter =>
    obtain ⟨s₁, hunlock, hstep⟩ := bind_eq_some_iff.mp hstep
    obtain ⟨lock, hlock, rfl⟩ := unlock_cases hunlock
    cases hstep
    refine .release h (moves_writer rfl rfl (by simp [hwriter])) hlock ?_ rfl rfl ?_ ?_ rfl
    all_goals
      cases sent
      all_goals simp [hwriter]

structure FlushOnly (s s' : Session) : Prop where
  lock : s'.sendLock = s.sendLock
  closed : s'.closed = s.closed
  calls : s'.calls = s.calls
  receive : s'.receive = s.receive
  writer : s'.writer = s.writer
  started : s'.started = s.started

lemma flushOnly_flushStep {now : Nanos} (h : s.flushStep env now = some s') : FlushOnly s s' := by
  unfold flushStep at h
  split at h
  all_goals
    try split at h
    all_goals
      try split at h
      all_goals first
        | (cases h; done)
        | (cases h
           exact ⟨rfl, rfl, rfl, rfl, rfl, rfl⟩)

lemma FlushOnly.sim (h : s.LockHeld) (hflush : FlushOnly s s') : Sim s s' := by
  refine .stutter h (moves_flush hflush.receive hflush.writer hflush.started) hflush.lock rfl
    hflush.closed ?_ rfl hflush.calls
  rw [hflush.receive]

theorem sim_step {e : Event} (h : s.LockHeld) (hwaits : s.WriterWaits)
    (hstep : s.step env e = some s') : Sim s s' := by
  cases e with
  | Callback callback =>
    simp only [step] at hstep
    split at hstep
    case h_2 => cases hstep
    case h_1 hreceive =>
      cases hstep
      exact .callback h hwaits hreceive callback
  | Receive ok now => exact .receiveStep h hstep
  | Writer ok => exact .writerStep h hstep
  | FlushStart now offset =>
    simp only [step] at hstep
    split at hstep
    case h_2 => cases hstep
    case h_1 =>
      cases hstep
      refine FlushOnly.sim h ?_
      unfold flushStart
      split <;> exact ⟨rfl, rfl, rfl, rfl, rfl, rfl⟩
  | Flush now => exact FlushOnly.sim h (flushOnly_flushStep hstep)
  | InferReturns result now =>
    simp only [step] at hstep
    split at hstep
    case h_2 => cases hstep
    case h_1 =>
      cases hstep
      refine FlushOnly.sim h ?_
      cases result <;> exact ⟨rfl, rfl, rfl, rfl, rfl, rfl⟩

theorem abs_reachable (hs : (system env).Reachable s) :
    (LastCall.system Thread SocketCall.IsClose).Reachable s.abs := by
  have hrefine := Reachable.refine (P := fun s => s.LockHeld ∧ s.WriterWaits) (f := abs)
    (N := LastCall.system Thread SocketCall.IsClose) ?_ ?_ hs
  · exact hrefine.2
  · rintro s ⟨-, rfl⟩
    have hview : start.view = fun _ => ⟨false, none⟩ := by
      funext t
      cases t <;> rfl
    have hheld : start.LockHeld := by
      funext t
      cases t <;> rfl
    exact ⟨⟨hheld, fun _ => rfl⟩, LastCall.ext rfl rfl rfl hview rfl⟩
  · rintro s e s' ⟨h, hwaits⟩ - hstep
    have hsim := sim_step h hwaits hstep
    exact ⟨⟨hsim.lockHeld, hsim.waits hwaits⟩, hsim.step⟩

theorem calls_one_at_a_time (hs : (system env).Reachable s) :
    (∃ c, Serial s.calls c) ∧ (entered SocketCall.IsClose s.calls).length ≤ 1 ∧
      NoneAfter SocketCall.IsClose s.calls := by
  obtain ⟨hserial, hafter⟩ := LastCall.safe (abs_reachable hs)
  exact ⟨hserial, hafter.length_entered_le, hafter⟩

def defaultEnv : Env :=
  ⟨Config.load fun _ => none, fun text => text = units Wire.startJson, fun _ => true⟩

def closeDuringSend : List Event :=
  [.Callback (.Text (units Wire.startJson) true), .Receive true 0, .FlushStart 0 0, .Callback (.Binary
      (List.replicate 640 0) true), .Receive true 20, .Flush 0, .Flush 1000000000,
    .Flush 1000000000, .Flush 1000000000, .Flush 1000000000,
    .InferReturns (.ok ⟨.finite 0, 0, 0, 320, some "", 640⟩) 1100000000, .Flush 1100000000,
    .Writer true, .Writer true, .Writer true, .Writer true, .Writer true,
    .Callback (.Text [] true), .Receive true 1100000000, .Receive false 2100000000,
    .Receive true 2100000000, .Writer false, .Writer true, .Writer true,
    .Receive true 2200000000, .Receive true 2200000000]

theorem calls_one_at_a_time_closeDuringSend :
    ∃ s, (system defaultEnv).Reachable s ∧ s.calls.length = 3 ∧
      NoneAfter SocketCall.IsClose s.calls := by
  obtain ⟨s, hexec, hcalls⟩ : ∃ s ∈ exec (step defaultEnv) start closeDuringSend,
      s.calls.length = 3 := by
    decide +kernel
  have hreach : (system defaultEnv).Reachable s :=
    Reachable.of_exec (fun _ _ _ h => h) (.start ⟨by decide +kernel, rfl⟩) hexec
  exact ⟨s, hreach, hcalls, (calls_one_at_a_time hreach).2.2⟩

end Session

end SttBench.JavaHelidon
