import SttBench.Core.Spacing
import SttBench.ElixirPhoenix.SttWebSocket

/-! # elixir-phoenix: the backlog of a healthy session -/

namespace SttBench.ElixirPhoenix

open TransitionSystem Wire

def longestWaitMs (env : Env) : ℤ :=
  max (max env.flushIntervalMs 1 + env.flushPhaseJitterMs)
    (env.receiveTimeoutMs + max env.flushIntervalMs 1)

theorem longestWaitMs_lt_maxBufferedFrames {env : Env} (htimeout : 1 ≤ env.receiveTimeoutMs)
    {cap : ℤ}
    (h : maxBufferedFrames (max env.flushIntervalMs 1) env.flushPhaseJitterMs
      env.receiveTimeoutMs = some cap) :
    longestWaitMs env + 1 ≤ 20 * cap := by
  have hwait : (2 : ℤ) ≤ longestWaitMs env := by
    refine le_max_of_le_right ?_
    omega
  have hwait' : (2 : ℚ) ≤ longestWaitMs env := by exact_mod_cast hwait
  have hbound := ((Double.atLeast_nearest (x := longestWaitMs env)
    (by norm_num; linarith)).div (y := frameMs) (by norm_num [frameMs])
      (by norm_num [frameMs]; linarith))
  dsimp only [maxBufferedFrames] at h
  split at h
  case h_2 => cases h
  case h_1 q hdiv =>
    cases h
    have hdiv : (Binary64.nearest (longestWaitMs env)).div Binary64.nearest (.finite frameMs) =
      .finite q := hdiv
    rw [hdiv] at hbound
    have hceil := Int.le_ceil q
    have hq : 999 / 1000 * (999 / 1000 * (longestWaitMs env : ℚ) / 20) ≤ q := hbound
    have : ((longestWaitMs env + 1 : ℤ) : ℚ) ≤ ((20 * (2 * ⌈q⌉) : ℤ) : ℚ) := by
      push_cast
      linarith
    exact_mod_cast this

namespace Event

variable {J : Type}

def time : Event J → Micros
  | .In _ _ now _ => now
  | .Flush now => now
  | .ComputeFinished _ _ now => now

def isFrame : Event J → Bool
  | .In payload .Binary _ _ => payload.length = frameBytes
  | _ => false

def isFlush : Event J → Bool
  | .Flush _ => true
  | _ => false

end Event

namespace Socket

variable {J : Type} {env : Env} {s s' : Socket J} {p : Timed (Socket J) Micros} {t : Micros}
  {e : Event J}

@[mk_iff]
structure OnSchedule (env : Env) (p : Timed (Socket J) Micros) (t : Micros) (e : Event J) :
    Prop where
  time : e.time = t
  tick : ∀ due ∈ p.state.nextDue, t ≤ due
  early : e.isFlush = true → ∀ due ∈ p.state.nextDue, due - 1000 < t
  report : ∀ task ∈ p.state.tasks, t ≤ task.startedAt + env.receiveTimeoutMs * 1000

instance (env : Env) (p : Timed (Socket J) Micros) (t : Micros) (e : Event J) :
    Decidable (OnSchedule env p t e) :=
  decidable_of_iff _ (onSchedule_iff env p t e).symm

def healthy (J : Type) (env : Env) : TransitionSystem (Timed (Socket J) Micros) (Micros × Event J) :=
  (system J env).timed 20000 (fun _ e => e.isFrame) (OnSchedule env)

/-! ## The invariant -/

structure Configured (env : Env) (s : Socket J) : Prop where
  interval : s.flushIntervalMs = max env.flushIntervalMs 1
  jitter : s.flushPhaseJitterMs = env.flushPhaseJitterMs
  cap : ElixirPhoenix.maxBufferedFrames (max env.flushIntervalMs 1) env.flushPhaseJitterMs
    env.receiveTimeoutMs = some s.maxBufferedFrames

structure Window (env : Env) (due since now : Micros) (last : Option Micros) (buffered : ℕ)
    (tasks : List Task) : Prop where
  spaced : Spaced 20000 since now last buffered
  due : due < since + (longestWaitMs env + 1) * 1000
  started : ∀ task ∈ tasks, task.startedAt = since

def Windowed (env : Env) (nextDue : Option Micros) (now : Micros) (last : Option Micros)
    (buffered : ℕ) (tasks : List Task) : Prop :=
  match nextDue with
  | none => buffered = 0 ∧ tasks = []
  | some due => ∃ since, Window env due since now last buffered tasks

structure Calm (env : Env) (p : Timed (Socket J) Micros) : Prop where
  configured : p.state.Configured env
  windowed : Windowed env p.state.nextDue p.now p.last p.state.buffered p.state.tasks
  quiet : ∀ reason, p.state.status ≠ .Stopped closeTryAgainLater reason

variable {buffered : ℕ} {due since now : Micros} {last : Option Micros} {tasks : List Task}

lemma Window.wait (h : Window env due since now last buffered tasks) (ht : now ≤ t) :
    Window env due since t last buffered tasks :=
  { h with spaced := h.spaced.wait ht }

lemma Windowed.wait {nextDue : Option Micros} {now : Micros}
    (h : Windowed env nextDue now last buffered tasks) (ht : now ≤ t) :
    Windowed env nextDue t last buffered tasks := by
  cases nextDue with
  | none => exact h
  | some due =>
    obtain ⟨since, hwindow⟩ := h
    exact ⟨since, hwindow.wait ht⟩

lemma Calm.stop (h : Calm env p) (ht : p.now ≤ t) {status : Status}
    (hlast : p.state.nextDue ≠ none → last = p.last)
    (hstatus : ∀ reason, status ≠ .Stopped closeTryAgainLater reason) :
    Calm env ⟨{ p.state with status := status }, t, last⟩ := by
  refine ⟨{ h.configured with }, ?_, hstatus⟩
  have hwindowed := h.windowed.wait ht
  show Windowed env p.state.nextDue t last p.state.buffered p.state.tasks
  cases hdue : p.state.nextDue with
  | none =>
    rw [hdue] at hwindowed
    exact hwindowed
  | some due =>
    rw [hlast (by simp [hdue]), ← hdue]
    exact hwindowed

lemma window_start (s : Socket J) (hs : s.Configured env) {random offset : ℤ}
    (hoffset : jitterOffsetMs s.flushPhaseJitterMs random = some offset) (now : Micros) :
    Window env (now + (s.flushIntervalMs + offset) * 1000) now now last 0 [] where
  spaced := .zero (le_refl now)
  due := by
    have hle : offset ≤ env.flushPhaseJitterMs := by
      rw [← hs.jitter]
      unfold jitterOffsetMs at hoffset
      split_ifs at hoffset with hzero hnonneg
      · cases hoffset
        exact hzero.symm.le
      · cases hoffset
        exact max_le hnonneg (min_le_right _ _)
    have hwait : s.flushIntervalMs + offset ≤ longestWaitMs env := by
      refine le_max_of_le_left ?_
      rw [hs.interval]
      exact Int.add_le_add_left hle _
    linarith
  started := by simp

lemma Window.room (htimeout : 1 ≤ env.receiveTimeoutMs) (hs : s.Configured env)
    (h : Window env due since now last s.buffered tasks) (ht : now ≤ t) (hdue : t ≤ due)
    (hgap : ∀ l ∈ last, l + 20000 ≤ t) : (s.buffered : ℤ) < s.maxBufferedFrames := by
  have hcap := longestWaitMs_lt_maxBufferedFrames htimeout hs.cap
  have hframes := h.spaced.mul_gap_le ht hgap
  have hlate := h.due
  by_contra hfull
  rw [not_lt] at hfull
  linarith

lemma Calm.handleIn (htimeout : 1 ≤ env.receiveTimeoutMs) (h : Calm env p) {payload : Ascii.Bytes}
    {opcode : Opcode} {random : ℤ} (ht : p.now ≤ t)
    (hgap : Event.isFrame (J := J) (.In payload opcode t random) = true →
      ∀ l ∈ p.last, l + 20000 ≤ t)
    (hdue : ∀ due ∈ p.state.nextDue, t ≤ due) (hrunning : p.state.status = .Running) :
    Calm env (tick (fun _ => Event.isFrame (J := J)) p (t, .In payload opcode t random)
      (p.state.handleIn env payload opcode t random)) := by
  unfold Socket.handleIn tick
  split
  · rename_i hnone
    by_cases hstart : env.startMessage payload = true
    · rw [if_pos hstart]
      split
      · rename_i offset hoffset
        have hempty := h.windowed
        rw [hnone] at hempty
        refine ⟨{ h.configured with }, ?_, ?_⟩
        · refine ⟨t, ?_⟩
          simp only [hempty.1, hempty.2]
          exact window_start p.state h.configured hoffset t
        · simp [hrunning]
      · exact h.stop ht (fun _ => rfl) nofun
    · rw [if_neg hstart]
      exact h.stop ht (fun _ => rfl) (by simp [closeProtocolError, closeTryAgainLater])
  · exact h.stop ht (fun _ => rfl) (by simp [closeProtocolError, closeTryAgainLater])
  · rename_i hnone
    exact h.stop ht (fun hne => absurd hnone hne) (by simp [closeProtocolError, closeTryAgainLater])
  · rename_i due hsome
    by_cases hframe : payload.length = frameBytes
    · obtain ⟨since, hwindow⟩ : ∃ since, Window env due since p.now p.last p.state.buffered
          p.state.tasks := by simpa [Windowed, hsome] using h.windowed
      have hgap : ∀ l ∈ p.last, l + 20000 ≤ t := hgap (by simp [Event.isFrame, hframe])
      have hroom := hwindow.room htimeout h.configured ht (hdue due hsome) hgap
      rw [if_pos ⟨hframe, hroom⟩]
      refine ⟨{ h.configured with }, ?_, ?_⟩
      · show Windowed env p.state.nextDue t _ (p.state.buffered + 1) p.state.tasks
        rw [hsome]
        refine ⟨since, ?_, hwindow.due, hwindow.started⟩
        simpa [Event.isFrame, hframe] using hwindow.spaced.arrive ht hgap
      · simp [hrunning]
    · rw [if_neg (fun hroom => hframe hroom.1), if_neg hframe]
      refine h.stop ht (fun _ => ?_) (by simp [closeUnsupportedData, closeTryAgainLater])
      simp [Event.isFrame, hframe]

lemma Window.tick (h : Window env due since now last buffered tasks) (ht : now ≤ t)
    (hearly : due - 1000 < t) {task : Task} (htask : task ∈ tasks)
    (hreport : t ≤ task.startedAt + env.receiveTimeoutMs * 1000) :
    Window env (due + max env.flushIntervalMs 1 * 1000) since t last buffered tasks where
  spaced := h.spaced.wait ht
  due := by
    have hwait : env.receiveTimeoutMs + max env.flushIntervalMs 1 ≤ longestWaitMs env :=
      le_max_right _ _
    rw [h.started task htask] at hreport
    linarith
  started := h.started

lemma window_of_empty {due : Micros}
    (hearly : due - 1000 < t) (hstarted : ∀ task ∈ tasks, task.startedAt = t) :
    Window env (due + max env.flushIntervalMs 1 * 1000) t t last 0 tasks where
  spaced := .zero (le_refl t)
  due := by
    have hwait : env.receiveTimeoutMs + max env.flushIntervalMs 1 ≤ longestWaitMs env :=
      le_max_right _ _
    have hnonneg : (0 : ℤ) ≤ env.receiveTimeoutMs := Int.natCast_nonneg _
    linarith
  started := hstarted

lemma Calm.flush (h : Calm env p) (hinv : p.state.Inv) {due : Micros}
    (hsome : p.state.nextDue = some due) (ht : p.now ≤ t) (hearly : due - 1000 < t)
    (hreport : ∀ task ∈ p.state.tasks, t ≤ task.startedAt + env.receiveTimeoutMs * 1000) :
    Calm env ⟨p.state.handleFlush due t, t, p.last⟩ := by
  obtain ⟨b, -, htracks⟩ := hinv
  obtain ⟨since, hwindow⟩ : ∃ since, Window env due since p.now p.last p.state.buffered
      p.state.tasks := by simpa [Windowed, hsome] using h.windowed
  -- the tick leaves the frames and the task where they are
  have hkeep : p.state.busy = true →
      Calm env ⟨{ p.state with nextDue := some (due + p.state.flushIntervalMs * 1000) }, t,
        p.last⟩ := by
    intro hbusy
    refine ⟨{ h.configured with }, ?_, h.quiet⟩
    cases htracks.slot with
    | free hfree => cases hfree.symm.trans hbusy
    | task task _ htasks =>
      have hmem : task ∈ p.state.tasks := htasks ▸ List.mem_singleton_self task
      refine ⟨since, ?_⟩
      rw [h.configured.interval]
      exact hwindow.tick ht hearly hmem (hreport task hmem)
  unfold handleFlush doFlush
  split
  · rename_i hbuffer
    cases htracks.slot with
    | task task hbusy => exact hkeep hbusy
    | free _ htasks =>
      refine ⟨{ h.configured with }, ?_, h.quiet⟩
      refine ⟨t, ?_⟩
      simp only [htracks.buffered, hbuffer, htasks, h.configured.interval, List.length_nil]
      exact window_of_empty hearly (by simp)
  · rename_i hbusy _
    exact hkeep hbusy
  · rename_i hbusy
    refine ⟨{ h.configured with }, ?_, h.quiet⟩
    cases htracks.slot with
    | task task htask => cases hbusy.symm.trans htask
    | free _ htasks =>
      refine ⟨t, ?_⟩
      simp only [htasks, h.configured.interval, List.nil_append]
      exact window_of_empty hearly (by simp)

lemma Calm.computeFinished (h : Calm env p) (ht : p.now ≤ t) (k : ℕ) (pushed : List (Pushed J)) :
    Calm env ⟨{ p.state with tasks := p.state.tasks.eraseIdx k, pushed := pushed, busy := false },
      t, p.last⟩ := by
  refine ⟨{ h.configured with }, ?_, h.quiet⟩
  have hwindowed := h.windowed.wait ht
  show Windowed env p.state.nextDue t p.last p.state.buffered (p.state.tasks.eraseIdx k)
  cases hdue : p.state.nextDue with
  | none =>
    rw [hdue] at hwindowed
    exact ⟨hwindowed.1, by simp [hwindowed.2]⟩
  | some due =>
    rw [hdue] at hwindowed
    obtain ⟨since, hwindow⟩ := hwindowed
    refine ⟨since, hwindow.spaced, hwindow.due, fun task htask => hwindow.started task ?_⟩
    exact List.mem_of_mem_eraseIdx htask

theorem calm_inductive (htimeout : 1 ≤ env.receiveTimeoutMs) :
    (healthy J env).InductiveUnder (fun p => p.state.Inv) (Calm env) where
  init := by
    rintro ⟨s, now, last⟩ ⟨hinit, -⟩
    obtain ⟨cap, hcap, h⟩ := Option.bind_eq_some_iff.mp hinit
    cases h
    exact ⟨⟨rfl, rfl, hcap⟩, ⟨rfl, rfl⟩, nofun⟩
  step := by
    rintro p ⟨t, e⟩ p' hinv h ⟨⟨ht, hgap, hschedule⟩, s', hstep, rfl⟩
    obtain ⟨htime, hdue, hearly, hreport⟩ := hschedule
    simp only [system, step] at hstep
    split at hstep
    case h_2 => cases hstep
    case h_1 hrunning =>
      cases e with
      | In payload opcode now random =>
        obtain rfl : now = t := htime
        cases hstep
        exact h.handleIn htimeout ht hgap hdue hrunning
      | Flush now =>
        obtain rfl : now = t := htime
        obtain ⟨due, hsome, rfl⟩ := Option.map_eq_some_iff.mp hstep
        exact h.flush hinv hsome ht (hearly rfl due hsome) hreport
      | ComputeFinished k result now =>
        obtain rfl : now = t := htime
        obtain ⟨task, -, h'⟩ := Option.bind_eq_some_iff.mp hstep
        cases h'
        exact h.computeFinished ht k _

theorem not_closed_for_backlog (htimeout : 1 ≤ env.receiveTimeoutMs)
    (hp : (healthy J env).Reachable p) (reason : String) :
    p.state.status ≠ .Stopped closeTryAgainLater reason :=
  ((calm_inductive htimeout).reachable
    (fun _ hp => (inv_inductive env).reachable hp.of_timed) hp).quiet reason

end Socket

end SttBench.ElixirPhoenix
