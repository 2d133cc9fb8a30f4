import SttBench.Core.Spacing
import SttBench.TypescriptBun.Session

/-! # typescript-bun: the backlog of a healthy session -/

namespace SttBench.TypescriptBun

open TransitionSystem Wire List

def longestWaitMs (config : SessionConfig) : Millis :=
  max (config.flushIntervalMs + config.flushPhaseJitterMs)
    (config.inferenceTimeoutMs + config.flushIntervalMs)

structure SessionConfig.Valid (config : SessionConfig) : Prop where
  interval : 1 ≤ config.flushIntervalMs
  jitter : 0 ≤ config.flushPhaseJitterMs
  timeout : 1 ≤ config.inferenceTimeoutMs

theorem longestWaitMs_lt_maxBufferedFrames {config : SessionConfig} (hconfig : config.Valid) {n : ℚ}
    (h : (maxBufferedFrames config).le (.finite n) = true) : longestWaitMs config + 1 ≤ 20 * n := by
  have hinterval := hconfig.interval
  have hjitter := hconfig.jitter
  have htimeout := hconfig.timeout
  have hfirst := Double.atLeast_nearest (x := config.flushIntervalMs + config.flushPhaseJitterMs)
    (by norm_num; linarith)
  have hlater := Double.atLeast_nearest (x := config.inferenceTimeoutMs + config.flushIntervalMs)
    (by norm_num; linarith)
  have hwait : 2 ≤ longestWaitMs config := le_max_of_le_right (by linarith)
  have hmax := hfirst.max hlater
  rw [← mul_max_of_nonneg _ _ (by norm_num : (0 : ℚ) ≤ 999 / 1000)] at hmax
  change Double.AtLeast (999 / 1000 * longestWaitMs config) _ at hmax
  have hquot := hmax.div (y := frameMs) (by norm_num [frameMs]) (by norm_num [frameMs]; linarith)
  have hcap := (hquot.ceil.mul (y := 2) (by norm_num) (by norm_num [frameMs]; linarith)).le_of_le h
  norm_num [frameMs] at hcap
  linarith

/-! ## Healthy sessions -/

namespace Event

def times : Event → List Millis
  | .HandleMessage _ nowMs _ => [nowMs]
  | .FlushTimer nowMs startedAtMs => [nowMs, startedAtMs]
  | .Inference _ _ nowMs _ => [nowMs]
  | _ => []

def randoms : Event → List ℚ
  | .HandleMessage _ _ random => [random]
  | _ => []

def isFrame : Event → Bool
  | .HandleMessage (.Binary bytes) _ _ => bytes.length = frameBytes
  | _ => false

def isFlushTimer : Event → Bool
  | .FlushTimer _ _ => true
  | _ => false

end Event

namespace Session

variable {env : Env} {s s' : Session} {p : Timed Session Millis} {t : Millis}

@[mk_iff]
structure OnSchedule (env : Env) (bounded : Phase → Bool) (p : Timed Session Millis) (t : Millis)
    (e : Event) : Prop where
  time : ∀ now ∈ e.times, now = t
  random : ∀ random ∈ e.randoms, 0 ≤ random ∧ random < 1
  tick : p.state.timer = true → t ≤ p.state.nextDueMs
  early : e.isFlushTimer = true → p.state.nextDueMs - 1 < t
  finish : ∀ task ∈ p.state.tasks, bounded task.phase = true →
    t ≤ task.startedAtMs + env.config.inferenceTimeoutMs

instance (env : Env) (bounded : Phase → Bool) (p : Timed Session Millis) (t : Millis) (e : Event) :
    Decidable (OnSchedule env bounded p t e) :=
  decidable_of_iff _ (onSchedule_iff env bounded p t e).symm

def healthy (env : Env) (bounded : Phase → Bool) :
    TransitionSystem (Timed Session Millis) (Millis × Event) :=
  (system env).timed 20 (fun _ => Event.isFrame) (OnSchedule env bounded)

/-! ## The invariant -/

structure Window (config : SessionConfig) (due since now : Millis) (last : Option Millis)
    (buffered : ℕ) (tasks : List Task) : Prop where
  spaced : Spaced 20 since now last buffered
  due : due < since + longestWaitMs config + 1
  started : ∀ task ∈ tasks, task.startedAtMs = since

structure Windowed (config : SessionConfig) (p : Timed Session Millis) : Prop where
  waiting : p.state.started = false → p.state.buffer = [] ∧ p.state.tasks = []
  running : p.state.started = true → p.state.timer = true ∧
    ∃ since, Window config p.state.nextDueMs since p.now p.last p.state.buffer.length p.state.tasks

def Quiet (calls : List (SocketCall (Message Rms Millis))) : Prop :=
  ∀ reason, .Close closeTryAgainLater reason ∉ calls

structure Calm (config : SessionConfig) (p : Timed Session Millis) : Prop where
  windowed : p.state.closed = false → Windowed config p
  quiet : Quiet p.state.calls

/-! ## Calls -/

lemma Quiet.append {calls calls' : List (SocketCall (Message Rms Millis))} (h : Quiet calls)
    (h' : ∀ code reason, .Close code reason ∈ calls' → code ≠ closeTryAgainLater) :
    Quiet (calls ++ calls') := by
  intro reason hmem
  rcases mem_append.mp hmem with hmem | hmem
  · exact h reason hmem
  · exact h' _ reason hmem rfl

lemma sendLoop_close {queue : List (Message Rms Millis)} :
    ∀ {o o' : BoundedOutbox (Message Rms Millis)} {statuses : List ℤ}
      {calls : List (SocketCall (Message Rms Millis))},
      o.sendLoop queue statuses = some (o', calls) →
      ∀ code reason, .Close code reason ∈ calls → code ≠ closeTryAgainLater := by
  induction queue with
  | nil =>
    intro o o' statuses calls h code reason hmem
    obtain ⟨-, rfl⟩ := Prod.ext_iff.mp (Option.some.inj h)
    cases hmem
  | cons next rest ih =>
    intro o o' statuses calls h code reason hmem
    cases statuses with
    | nil => cases h
    | cons status statuses =>
      rw [BoundedOutbox.sendLoop] at h
      split_ifs at h
      · obtain ⟨-, rfl⟩ := Prod.ext_iff.mp (Option.some.inj h)
        obtain ⟨rfl, -⟩ : code = closeInternalError ∧ reason = reasonSendDropped := by
          simpa using hmem
        decide
      · obtain ⟨-, rfl⟩ := Prod.ext_iff.mp (Option.some.inj h)
        simp at hmem
      · obtain ⟨⟨o₁, calls₁⟩, hloop, heq⟩ := Option.bind_eq_some_iff.mp h
        obtain ⟨-, rfl⟩ := Prod.ext_iff.mp (Option.some.inj heq)
        exact ih hloop code reason (by simpa using hmem)

variable {buffered : ℕ} {config : SessionConfig} {due since now : Millis} {last : Option Millis}
  {tasks : List Task}

lemma drain_close {o o' : BoundedOutbox (Message Rms Millis)} {statuses : List ℤ}
    {calls : List (SocketCall (Message Rms Millis))}
    (h : o.drain buffered statuses = some (o', calls)) :
    ∀ code reason, .Close code reason ∈ calls → code ≠ closeTryAgainLater := by
  rw [BoundedOutbox.drain] at h
  split_ifs at h
  · obtain ⟨-, rfl⟩ := Prod.ext_iff.mp (Option.some.inj h)
    exact fun _ _ hmem => by cases hmem
  · obtain ⟨-, rfl⟩ := Prod.ext_iff.mp (Option.some.inj h)
    exact fun _ _ hmem => by cases hmem
  · exact sendLoop_close h
  · exact sendLoop_close h

structure GoesOn (s s' : Session) : Prop where
  closed : s'.closed = s.closed
  started : s'.started = s.started
  timer : s'.timer = s.timer
  due : s'.nextDueMs = s.nextDueMs
  buffer : s'.buffer = s.buffer
  tasks : s'.tasks.map Task.startedAtMs ⊆ s.tasks.map Task.startedAtMs
  calls : Quiet s.calls → Quiet s'.calls

lemma map_startedAtMs_setPhase (s : Session) (task : ℕ) (phase : Phase) :
    (s.setPhase task phase).tasks.map Task.startedAtMs = s.tasks.map Task.startedAtMs := by
  simp only [setPhase, map_map]
  refine map_congr_left fun t _ => ?_
  simp only [Function.comp]
  split_ifs <;> rfl

lemma goesOn_enqueue {task : ℕ} {message : Message Rms Millis} {socket : SocketState}
    (h : s.enqueue task message socket = some s') : GoesOn s s' := by
  obtain ⟨r, henqueue, h⟩ := Option.bind_eq_some_iff.mp h
  cases r with
  | Parked outbox =>
    cases h
    refine ⟨rfl, rfl, rfl, rfl, rfl, ?_, id⟩
    rw [map_startedAtMs_setPhase]
    exact List.Subset.refl _
  | Done outbox calls =>
    cases h
    refine ⟨rfl, rfl, rfl, rfl, rfl, ?_, fun hquiet => hquiet.append ?_⟩
    · rw [map_startedAtMs_setPhase]
      exact List.Subset.refl _
    · rw [BoundedOutbox.enqueue] at henqueue
      split_ifs at henqueue
      · cases henqueue
      · cases henqueue
        exact fun _ _ hmem => by cases hmem
      · obtain ⟨⟨o, calls'⟩, hdrain, heq⟩ := Option.bind_eq_some_iff.mp henqueue
        cases heq
        exact drain_close hdrain

lemma goesOn_settle {task : Task} {result : Except Rejection (Prediction Rms)} {nowMs : Millis}
    {socket : SocketState} (h : s.settle env task result nowMs socket = some s') : GoesOn s s' := by
  unfold settle at h
  split_ifs at h
  · cases h
    refine ⟨rfl, rfl, rfl, rfl, rfl, ?_, id⟩
    rw [map_startedAtMs_setPhase]
    exact List.Subset.refl _
  · split at h
    · exact goesOn_enqueue h
    · exact goesOn_enqueue h

/-! ## Steps -/

lemma Window.wait {tasks tasks' : List Task}
    (h : Window config due since now last buffered tasks) (ht : now ≤ t)
    (htasks : tasks'.map Task.startedAtMs ⊆ tasks.map Task.startedAtMs) :
    Window config due since t last buffered tasks' where
  spaced := h.spaced.wait ht
  due := h.due
  started task htask := by
    obtain ⟨task', htask', heq⟩ := mem_map.mp (htasks (mem_map_of_mem htask))
    rw [← heq]
    exact h.started task' htask'

lemma Calm.goesOn (h : Calm env.config p) (ht : p.now ≤ t) (hs' : GoesOn p.state s') :
    Calm env.config ⟨s', t, p.last⟩ := by
  refine ⟨fun hopen => ?_, hs'.calls h.quiet⟩
  obtain ⟨hwaiting, hrunning⟩ := h.windowed (hs'.closed ▸ hopen)
  refine ⟨fun hstarted => ?_, fun hstarted => ?_⟩
  · obtain ⟨hbuffer, htasks⟩ := hwaiting (hs'.started ▸ hstarted)
    have hnil := hs'.tasks
    rw [htasks, map_nil, subset_nil, map_eq_nil_iff] at hnil
    exact ⟨hs'.buffer.trans hbuffer, hnil⟩
  · obtain ⟨htimer, since, hwindow⟩ := hrunning (hs'.started ▸ hstarted)
    refine ⟨hs'.timer.trans htimer, since, ?_⟩
    show Window env.config s'.nextDueMs since t p.last s'.buffer.length s'.tasks
    rw [hs'.due, hs'.buffer]
    exact hwindow.wait ht hs'.tasks

lemma Calm.closed {now : Millis}
    (hclosed : s'.closed = true) (hquiet : Quiet s'.calls) : Calm config ⟨s', now, last⟩ := by
  refine ⟨fun hopen => ?_, hquiet⟩
  cases hclosed.symm.trans hopen

lemma Quiet.closeWith (h : Quiet s.calls) {code : ℕ} (reason : String)
    (hcode : code ≠ closeTryAgainLater) : Quiet (s.closeWith code reason).calls := by
  refine h.append fun code' reason' hmem => ?_
  obtain ⟨rfl, -⟩ : code' = code ∧ reason' = reason := by simpa using hmem
  exact hcode

lemma Window.room (hconfig : config.Valid) {n : ℕ}
    (h : Window config due since now last n tasks) (ht : now ≤ t) (hdue : t ≤ due)
    (hgap : ∀ l ∈ last, l + 20 ≤ t) :
    ¬ (maxBufferedFrames config).le (.finite n) = true := by
  intro hfull
  have hcap := longestWaitMs_lt_maxBufferedFrames hconfig hfull
  have hframes := h.spaced.mul_gap_le ht hgap
  have hlate := h.due
  linarith

lemma window_start (hconfig : config.Valid) {random : ℚ}
    (hrandom : random < 1) (now : Millis) (last : Option Millis) :
    Window config (now + config.flushIntervalMs + random * config.flushPhaseJitterMs) now now last
      0 [] where
  spaced := .zero (le_refl now)
  due := by
    have hjitter : random * config.flushPhaseJitterMs ≤ config.flushPhaseJitterMs :=
      mul_le_of_le_one_left hconfig.jitter hrandom.le
    have hwait : config.flushIntervalMs + config.flushPhaseJitterMs ≤ longestWaitMs config :=
      le_max_left _ _
    linarith
  started := by simp

lemma Calm.handleMessage (hconfig : env.config.Valid) (h : Calm env.config p) {message : Inbound}
    {random : ℚ} (ht : p.now ≤ t)
    (hgap : (Event.HandleMessage message t random).isFrame = true → ∀ l ∈ p.last, l + 20 ≤ t)
    (hrandom : 0 ≤ random ∧ random < 1) (htick : p.state.timer = true → t ≤ p.state.nextDueMs) :
    Calm env.config (tick (fun _ => Event.isFrame) p (t, .HandleMessage message t random)
      (p.state.handleMessage env message t random)) := by
  unfold Session.handleMessage TransitionSystem.tick
  by_cases hclosed : p.state.closed = true
  · rw [if_pos hclosed]
    exact Calm.closed hclosed h.quiet
  rw [if_neg hclosed]
  have hopen : p.state.closed = false := Bool.eq_false_of_not_eq_true hclosed
  obtain ⟨hwaiting, hrunning⟩ := h.windowed hopen
  have hprotocol (reason : String) (last : Option Millis) :
      Calm env.config ⟨p.state.closeWith closeProtocolError reason, t, last⟩ :=
    Calm.closed rfl (h.quiet.closeWith reason (by decide))
  by_cases hstarted : p.state.started = true
  · rw [if_neg (by simp [hstarted])]
    obtain ⟨htimer, since, hwindow⟩ := hrunning hstarted
    cases message with
    | Text text => exact hprotocol _ _
    | Binary bytes =>
      by_cases hlength : bytes.length = frameBytes
      · have hgap : ∀ l ∈ p.last, l + 20 ≤ t := hgap (by simp [Event.isFrame, hlength])
        have hroom := hwindow.room hconfig ht (htick htimer) hgap
        simp only [hlength, ne_eq, not_true_eq_false, if_false, hroom]
        refine ⟨fun _ => ⟨fun hwaits => ?_, fun _ => ⟨htimer, since, ?_⟩⟩, h.quiet⟩
        · cases hstarted.symm.trans hwaits
        · refine ⟨?_, hwindow.due, hwindow.started⟩
          simpa [Event.isFrame, hlength] using hwindow.spaced.arrive ht hgap
      · simp only [hlength, ne_eq, not_false_eq_true, if_true]
        exact Calm.closed rfl (h.quiet.closeWith _ (by decide))
  · have hnot : p.state.started = false := Bool.eq_false_of_not_eq_true hstarted
    rw [if_pos (by simp [hnot])]
    obtain ⟨hbuffer, htasks⟩ := hwaiting hnot
    cases message with
    | Binary bytes => exact hprotocol _ _
    | Text text =>
      by_cases hparse : env.parseStartMessage text = true
      · simp only [hparse, if_true]
        refine ⟨fun _ => ⟨fun hwaits => (by cases hwaits), fun _ => ⟨rfl, t, ?_⟩⟩, h.quiet⟩
        simp only [startFlushLoop, hbuffer, htasks, length_nil]
        exact window_start hconfig hrandom.2 t _
      · simp only [hparse]
        exact hprotocol _ _

lemma Window.tick (h : Window config due since now last buffered tasks)
    (ht : now ≤ t) (hearly : due - 1 < t) {task : Task} (htask : task ∈ tasks)
    (hfinish : t ≤ task.startedAtMs + config.inferenceTimeoutMs) :
    Window config (due + config.flushIntervalMs) since t last buffered tasks where
  spaced := h.spaced.wait ht
  due := by
    have hwait : config.inferenceTimeoutMs + config.flushIntervalMs ≤ longestWaitMs config :=
      le_max_right _ _
    rw [h.started task htask] at hfinish
    linarith
  started := h.started

lemma window_of_empty (hconfig : config.Valid) {due : Millis} (hearly : due - 1 < t)
    (hstarted : ∀ task ∈ tasks, task.startedAtMs = t) :
    Window config (due + config.flushIntervalMs) t t last 0 tasks where
  spaced := .zero (le_refl t)
  due := by
    have hwait : config.inferenceTimeoutMs + config.flushIntervalMs ≤ longestWaitMs config :=
      le_max_right _ _
    have htimeout := hconfig.timeout
    linarith
  started := hstarted

lemma Running.exists_task {b : Batcher} (h : s.Running b) (hinflight : s.inflight ≠ none) :
    ∃ task, task ∈ s.tasks := by
  cases h with
  | idle _ inflight => exact absurd inflight hinflight
  | inference task tasks => exact ⟨task, tasks ▸ mem_singleton_self task⟩
  | enqueue task _ tasks => exact ⟨task, tasks ▸ mem_singleton_self task⟩
  | settled task tasks => exact ⟨task, tasks ▸ mem_singleton_self task⟩

lemma Running.tasks_eq_nil {b : Batcher} (h : s.Running b) (hinflight : s.inflight = none) :
    s.tasks = [] := by
  cases h with
  | idle tasks => exact tasks
  | inference task _ _ inflight => cases hinflight.symm.trans inflight
  | enqueue task _ _ _ _ inflight => cases hinflight.symm.trans inflight
  | settled task _ _ inflight => cases hinflight.symm.trans inflight

lemma Calm.flushTimer (hconfig : env.config.Valid) (h : Calm env.config p) (hinv : p.state.Inv)
    (ht : p.now ≤ t) (hearly : p.state.nextDueMs - 1 < t)
    (hfinish : ∀ task ∈ p.state.tasks, t ≤ task.startedAtMs + env.config.inferenceTimeoutMs) :
    Calm env.config ⟨p.state.flushTimer env.config t t, t, p.last⟩ := by
  obtain ⟨b, given, -, htracks⟩ := hinv
  unfold Session.flushTimer flushDue
  dsimp only
  by_cases hclosed : p.state.closed = true
  · rw [if_pos (by simp [hclosed])]
    exact Calm.closed hclosed h.quiet
  have hopen : p.state.closed = false := Bool.eq_false_of_not_eq_true hclosed
  obtain ⟨hwaiting, hrunning⟩ := h.windowed hopen
  by_cases hinflight : p.state.inflight = none
  · have htasks := htracks.running.tasks_eq_nil hinflight
    split_ifs with hguard
    · -- there is nothing to take
      have hbuffer : p.state.buffer = [] := by simpa [hinflight, hopen] using hguard
      refine ⟨fun _ => ⟨fun _ => ⟨hbuffer, htasks⟩, fun _ => ⟨by simp [hopen], t, ?_⟩⟩, h.quiet⟩
      simp only [hbuffer, htasks, length_nil]
      exact window_of_empty hconfig hearly (by simp)
    · split
      · refine ⟨fun _ => ⟨fun hwaits => ?_, fun _ => ⟨by simp [hopen], t, ?_⟩⟩, h.quiet⟩
        · have hbuffer := (hwaiting hwaits).1
          simp [hbuffer] at hguard
        · simp only [htasks, nil_append, length_nil]
          exact window_of_empty hconfig hearly (by simp)
      · -- a buffer that is not empty has a first and a last frame
        rename_i hnone
        have hbuffer : p.state.buffer ≠ [] := fun hbuffer => by simp [hbuffer] at hguard
        exact (hnone _ _ (List.head?_eq_some_head hbuffer)
          (List.getLast?_eq_some_getLast hbuffer)).elim
  · obtain ⟨task, htask⟩ := htracks.running.exists_task hinflight
    rw [if_pos (by simp [Option.isSome_iff_ne_none.mpr hinflight])]
    refine ⟨fun _ => ⟨hwaiting, fun hstarted => ⟨by simp [hopen], ?_⟩⟩, h.quiet⟩
    obtain ⟨-, since, hwindow⟩ := hrunning hstarted
    exact ⟨since, hwindow.tick ht hearly htask (hfinish task htask)⟩

theorem calm_inductive (hconfig : env.config.Valid) :
    (healthy env fun _ => true).InductiveUnder (fun p => p.state.Inv) (Calm env.config) where
  init := by
    rintro ⟨s, now, last⟩ ⟨rfl, -⟩
    refine ⟨fun _ => ⟨fun _ => ⟨rfl, rfl⟩, fun hstarted => ?_⟩, fun _ hmem => ?_⟩
    · cases hstarted
    · cases hmem
  step := by
    rintro p ⟨t, e⟩ p' hinv h ⟨⟨ht, hgap, hschedule⟩, s', hstep, rfl⟩
    cases e with
    | HandleMessage message nowMs random =>
      obtain rfl : nowMs = t := hschedule.time nowMs (mem_singleton_self _)
      cases hstep
      have hrandom := hschedule.random random (mem_singleton_self _)
      exact h.handleMessage hconfig ht hgap hrandom hschedule.tick
    | FlushTimer nowMs startedAtMs =>
      obtain rfl : nowMs = t := hschedule.time nowMs (by simp [Event.times])
      obtain rfl : startedAtMs = nowMs := hschedule.time startedAtMs (by simp [Event.times])
      simp only [system, ofFun, step] at hstep
      split_ifs at hstep
      cases hstep
      exact h.flushTimer hconfig hinv ht (hschedule.early rfl)
        fun task htask => hschedule.finish task htask rfl
    | Inference task result nowMs socket =>
      obtain ⟨t', -, hstep⟩ := Option.bind_eq_some_iff.mp hstep
      split at hstep
      case h_2 => cases hstep
      case h_1 => exact h.goesOn ht (goesOn_settle hstep)
    | Woken task socket =>
      obtain ⟨t', -, hstep⟩ := Option.bind_eq_some_iff.mp hstep
      split at hstep
      case h_2 => cases hstep
      case h_1 =>
        split_ifs at hstep
        exact h.goesOn ht (goesOn_enqueue hstep)
    | Finally task =>
      obtain ⟨t', -, hstep⟩ := Option.bind_eq_some_iff.mp hstep
      split at hstep
      case h_2 => cases hstep
      case h_1 =>
        cases hstep
        refine h.goesOn ht ⟨rfl, rfl, rfl, rfl, rfl, ?_, id⟩
        exact map_subset _ fun _ hmem => mem_of_mem_filter hmem
    | Drain socket =>
      obtain ⟨⟨outbox, calls⟩, hdrain, hstep⟩ := Option.bind_eq_some_iff.mp hstep
      cases hstep
      refine h.goesOn ht ⟨rfl, rfl, rfl, rfl, rfl, List.Subset.refl _, fun hquiet => ?_⟩
      exact hquiet.append (drain_close hdrain)
    | Close =>
      cases hstep
      exact Calm.closed rfl h.quiet

theorem not_closed_for_backlog (hconfig : env.config.Valid)
    (hp : (healthy env fun _ => true).Reachable p) : Quiet p.state.calls :=
  ((calm_inductive hconfig).reachable
    (fun _ hp => (inv_inductive env).reachable hp.of_timed) hp).quiet

/-! ## A client that does not read -/

def clientStopsReading : List (Millis × Event) :=
  let frame (k : ℕ) : Millis × Event :=
    (20 * k - 10, .HandleMessage (.Binary (List.replicate 640 0)) (20 * k - 10) 0)
  let tick (k : ℕ) : Millis × Event := (20 * k, .FlushTimer (20 * k) (20 * k))
  let settled (k : ℕ) : Millis × Event :=
    (20 * k, .Inference (k - 1) (.ok ⟨0, 0, 0, 320, "", 640⟩) (20 * k) ⟨1, [-1]⟩)
  (0, .HandleMessage (.Text startJson) 0 0) ::
    ([1, 2, 3, 4].flatMap fun k => [frame k, tick k, settled k, (20 * k, .Finally (k - 1))]) ++
    [frame 5, tick 5, settled 5] ++
    ([6, 7, 8, 9].flatMap fun k => [frame k, tick k]) ++ [frame 10]

def everyTwenty : Env := ⟨⟨4, 75, 20, 0, 1⟩, fun text => text = startJson⟩

theorem closed_for_backlog :
    everyTwenty.config.Valid ∧
      ∃ p, (healthy everyTwenty fun phase => phase matches .Inference).Reachable p ∧
        ∃ reason, .Close closeTryAgainLater reason ∈ p.state.calls := by
  refine ⟨⟨by decide +kernel, by decide +kernel, by decide +kernel⟩, ?_⟩
  obtain ⟨p, hreach, hclosed⟩ :
      ∃ p, (healthy everyTwenty fun phase => phase matches .Inference).Reachable p ∧
        (p.state.calls.any fun call => call matches .Close 1013 _) = true :=
    Reachable.exists_of_timedStep (fun _ _ _ h => h) start 0 rfl clientStopsReading
      (by decide +kernel)
  refine ⟨p, hreach, ?_⟩
  obtain ⟨call, hmem, hcall⟩ := any_eq_true.mp hclosed
  split at hcall
  · exact ⟨_, hmem⟩
  · cases hcall

end Session

end SttBench.TypescriptBun
