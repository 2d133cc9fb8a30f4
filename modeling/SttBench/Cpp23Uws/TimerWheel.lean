import SttBench.Core.Drift
import SttBench.Cpp23Uws.Gateway

/-!
# cpp23-uwebsockets: the timer wheel of a loop

`FlushTimerWheel` has one entry for each session of its loop.
-/

namespace SttBench.Cpp23Uws

open Ascii TransitionSystem Function Option List

structure LoadedEnv extends Env where
  positive : 0 < config.flushInterval

structure Entry where
  when : Instant
  session : ℕ
deriving DecidableEq, Repr

def emplace (queue : List Entry) (e : Entry) : List Entry :=
  queue.orderedInsert (fun a b => a.when < b.when) e

def catchUp (interval : ℕ) (hpositive : 0 < interval) (now next : ℕ) : ℕ :=
  if next ≤ now then catchUp interval hpositive now (next + interval) else next
termination_by now + 1 - next

structure Fired where
  session : ℕ
  when : Instant
  now : Instant
  /-- The state the tick found the session in. -/
  state : Session.State
deriving DecidableEq, Repr

structure Loops where
  gateway : Gateway
  wheels : ℕ → List Entry
  fired : List Fired

inductive LoopEvent
  | Open (loop i : ℕ) (firstFire : Instant)
  | Fire (loop : ℕ) (now : Instant)
  | Other (e : Event)

def Event.ofWheel : Event → Bool
  | .Open _ _ => true
  | .Tick _ _ => true
  | _ => false

namespace Loops

def start : Loops := ⟨.start, fun _ => [], []⟩

def setWheel (s : Loops) (loop : ℕ) (queue : List Entry) : Loops :=
  { s with wheels := update s.wheels loop queue }

def fire (env : LoadedEnv) (s : Loops) (loop : ℕ) (now : Instant) : Option Loops :=
  match s.wheels loop with
  | [] => none
  | ⟨when, i⟩ :: queue =>
    if when ≤ now then do
      let c ← s.gateway.conns i
      if c.destroyed then return s.setWheel loop queue
      else
        let gateway ← s.gateway.step env.toEnv (.Tick i now)
        let interval := env.config.flushInterval
        let next := catchUp interval env.positive now (when + interval)
        return { s.setWheel loop (emplace queue ⟨next, i⟩) with
          gateway := gateway
          fired := s.fired ++ [⟨i, when, now, c.session.state⟩] }
    else none

def step (env : LoadedEnv) (s : Loops) : LoopEvent → Option Loops
  | .Open loop i firstFire => do
      let gateway ← s.gateway.step env.toEnv (.Open i firstFire)
      return { s.setWheel loop (emplace (s.wheels loop) ⟨firstFire, i⟩) with gateway := gateway }
  | .Fire loop now => s.fire env loop now
  | .Other e =>
    if e.ofWheel then none
    else do
      let gateway ← s.gateway.step env.toEnv e
      return { s with gateway := gateway }

def system (env : LoadedEnv) : TransitionSystem Loops LoopEvent := ofFun start (step env)

end Loops

/-! ## Catching up -/

lemma catchUp_spec {interval now next : ℕ} (hpositive : 0 < interval) :
    ∃ skipped, catchUp interval hpositive now next = next + skipped ∧
      (now < next ↔ skipped = 0) := by
  fun_induction catchUp interval hpositive now next with
  | case1 next hdue ih =>
    obtain ⟨skipped, heq, -⟩ := ih
    refine ⟨interval + skipped, ?_, ?_⟩
    · rw [heq, Nat.add_assoc]
    · omega
  | case2 next hdue => exact ⟨0, rfl, by omega⟩

/-! ## The session's own time -/

namespace Session

lemma onText_expected (startMessage : Bytes → Bool) (s : Session) (text : Bytes) :
    (s.onText startMessage text).1.expectedNextFlush = s.expectedNextFlush := by
  unfold onText
  split
  · rfl
  · rfl
  · split_ifs <;> rfl

lemma onBinary_expected (s : Session) (payload : Bytes) (now : Instant) :
    (s.onBinary payload now).1.expectedNextFlush = s.expectedNextFlush := by
  unfold onBinary
  split
  · rfl
  · rfl
  · split_ifs <;> rfl

lemma onInferenceFinished_expected (config : Config) (writes : Message → Bool) (s : Session)
    (result : InferenceResult) (ctx : BatchContext) (now : Instant) :
    (s.onInferenceFinished config writes result ctx now).1.expectedNextFlush =
      s.expectedNextFlush := by
  unfold onInferenceFinished
  dsimp only
  split <;> rfl

lemma onFlushTick_expected (config : Config) (s : Session) (now : Instant) :
    (s.onFlushTick config now).1.expectedNextFlush =
      s.expectedNextFlush.map
        (· + if s.state = .Started then config.flushInterval else 0) := by
  unfold onFlushTick
  split
  · next hstate =>
      rw [if_pos hstate]
      dsimp only
      split_ifs
      · rfl
      · split <;> rfl
  · next hstate =>
      rw [if_neg hstate]
      simp

lemma onFlushTick_lateness {config : Config} {s : Session} {now : Instant} {sub : Submission}
    (h : (s.onFlushTick config now).2 = some sub) {expected : Instant}
    (hexpected : s.expectedNextFlush = some expected) :
    sub.ctx.flushLateness = now - expected := by
  unfold onFlushTick at h
  split at h
  · dsimp only at h
    split_ifs at h
    split at h
    · cases h
      rw [hexpected]
      rfl
    · simp at h
  · simp at h

end Session

namespace Gateway

variable {env : Env} {g g' : Gateway} {i : ℕ}

def expectedOf (g : Gateway) (i : ℕ) : Option (Option Instant) :=
  (g.conns i).map (·.session.expectedNextFlush)

lemma expectedOf_setConn (g : Gateway) (i : ℕ) (c : Conn) :
    (g.setConn i c).expectedOf =
      update g.expectedOf i (some c.session.expectedNextFlush) := by
  funext j
  by_cases hj : j = i
  · subst hj
    simp [expectedOf, setConn]
  · simp [expectedOf, setConn, hj]

lemma expectedOf_setConn_eq {c c' : Conn} (hc : g.conns i = some c)
    (h : c'.session.expectedNextFlush = c.session.expectedNextFlush) :
    (g.setConn i c').expectedOf = g.expectedOf := by
  rw [expectedOf_setConn, update_eq_self_iff, expectedOf, hc, h]
  rfl

lemma expectedOf_congr (h : g'.conns = g.conns) : g'.expectedOf = g.expectedOf := by
  funext j
  rw [expectedOf, expectedOf, h]

lemma post_conns (g : Gateway) (i : ℕ) (task : Task) : (g.post i task).conns = g.conns := by
  unfold post
  split
  · split_ifs <;> rfl
  · rfl

lemma expectedOf_runTask {now : Instant} {status : SendStatus} {task : Task}
    (h : g.runTask env now status task = some g') : g'.expectedOf = g.expectedOf := by
  cases task with
  | Destroy j =>
    obtain ⟨c, hc, h⟩ := bind_eq_some_iff.mp h
    split_ifs at h
    cases h
    exact expectedOf_setConn_eq hc rfl
  | Deliver callback result =>
    obtain ⟨c, hc, h⟩ := bind_eq_some_iff.mp h
    split_ifs at h
    · cases h
      rfl
    · cases h
      refine expectedOf_setConn_eq hc ?_
      rw [Conn.handled_session]
      exact Session.onInferenceFinished_expected _ _ _ _ _ _

lemma expectedOf_step {e : Event} (he : e.ofWheel = false) (h : g.step env e = some g') :
    g'.expectedOf = g.expectedOf := by
  cases e with
  | Open i firstFire | Tick i now => cases he
  | Text i text =>
    obtain ⟨c, hc, h⟩ := bind_eq_some_iff.mp h
    split_ifs at h
    cases h
    refine expectedOf_setConn_eq hc ?_
    rw [Conn.handled_session]
    exact Session.onText_expected _ _ _
  | Binary i payload now =>
    obtain ⟨c, hc, h⟩ := bind_eq_some_iff.mp h
    split_ifs at h
    cases h
    refine expectedOf_setConn_eq hc ?_
    rw [Conn.handled_session]
    exact Session.onBinary_expected _ _ _
  | Close i =>
    obtain ⟨c, hc, h⟩ := bind_eq_some_iff.mp h
    split_ifs at h
    cases h
    rw [expectedOf_congr (post_conns _ i _)]
    exact expectedOf_setConn_eq hc rfl
  | RunTask k now status =>
    obtain ⟨task, -, h⟩ := bind_eq_some_iff.mp h
    rw [expectedOf_runTask h]
    rfl
  | MarkDead i =>
    obtain ⟨c, hc, h⟩ := bind_eq_some_iff.mp h
    cases h
    exact expectedOf_setConn_eq hc rfl
  | Shutdown =>
    cases h
    rfl
  | Net e =>
    obtain ⟨⟨client, done⟩, -, h⟩ := bind_eq_some_iff.mp h
    cases done with
    | none =>
      cases h
      rfl
    | some done =>
      cases h
      exact expectedOf_congr (post_conns _ _ _)

lemma expectedOf_tick {c : Conn} {now : Instant} (hc : g.conns i = some c)
    (h : g.step env (.Tick i now) = some g') :
    g'.expectedOf = update g.expectedOf i
      (some (c.session.onFlushTick env.config now).1.expectedNextFlush) := by
  simp only [step, hc, bind_eq_bind, bind_some] at h
  split at h
  case isFalse => cases h
  case isTrue =>
    split at h
    case h_1 session htick =>
      cases h
      rw [htick, expectedOf_setConn]
    case h_2 session sub htick =>
      split_ifs at h
      cases h
      rw [htick]
      exact expectedOf_setConn g i _

lemma expectedOf_open {firstFire : Instant} (h : g.step env (.Open i firstFire) = some g') :
    g.conns i = none ∧ g'.expectedOf = update g.expectedOf i (some (some firstFire)) := by
  dsimp only [step] at h
  split at h
  · next hnone =>
      cases h
      exact ⟨hnone, expectedOf_setConn g i _⟩
  · cases h

end Gateway

/-! ## The wheels and the gateway -/

namespace Loops

variable {env : LoadedEnv} {s s' : Loops} {loop i : ℕ} {now : Instant}

lemma fire_cases (h : s.fire env loop now = some s') :
    ∃ when i queue c, s.wheels loop = ⟨when, i⟩ :: queue ∧ when ≤ now ∧
      s.gateway.conns i = some c ∧
      (s' = s.setWheel loop queue ∨
        ∃ gateway, s.gateway.step env.toEnv (.Tick i now) = some gateway ∧
          s' = { s.setWheel loop (emplace queue ⟨catchUp env.config.flushInterval env.positive now
                  (when + env.config.flushInterval), i⟩) with
                gateway := gateway
                fired := s.fired ++ [⟨i, when, now, c.session.state⟩] }) := by
  unfold fire at h
  split at h
  case h_1 => cases h
  case h_2 when i queue hqueue =>
    split_ifs at h with hdue
    obtain ⟨c, hc, h⟩ := bind_eq_some_iff.mp h
    refine ⟨when, i, queue, c, hqueue, hdue, hc, ?_⟩
    split_ifs at h
    · exact .inl (Option.some.inj h).symm
    · obtain ⟨gateway, hstep, h⟩ := bind_eq_some_iff.mp h
      exact .inr ⟨gateway, hstep, (Option.some.inj h).symm⟩

theorem gateway_reachable (hs : (system env).Reachable s) :
    (Gateway.system env.toEnv).Reachable s.gateway := by
  refine (hs.refine (f := Loops.gateway) (P := fun _ => True) ?_ ?_).2
  · rintro s rfl
    exact ⟨trivial, rfl⟩
  · intro s e s' _ _ h
    refine ⟨trivial, ?_⟩
    cases e with
    | Open loop i firstFire =>
      obtain ⟨gateway, hstep, h⟩ := bind_eq_some_iff.mp h
      cases h
      exact .inr ⟨_, hstep⟩
    | Fire loop now =>
      obtain ⟨when, i, queue, c, -, -, -, rfl | ⟨gateway, hstep, rfl⟩⟩ := fire_cases h
      · exact .inl rfl
      · exact .inr ⟨_, hstep⟩
    | Other e =>
      simp only [system, ofFun, step] at h
      split_ifs at h
      obtain ⟨gateway, hstep, h⟩ := bind_eq_some_iff.mp h
      cases h
      exact .inr ⟨_, hstep⟩

/-! ## The time of an entry and that of its session -/

def OnTime (env : LoadedEnv) (f : Fired) : Prop :=
  f.state = .Started ∧ f.now < f.when + env.config.flushInterval

def firedOf (s : Loops) (i : ℕ) : List Fired := s.fired.filter (·.session = i)

def sessions (s : Loops) (loop : ℕ) : List ℕ := (s.wheels loop).map Entry.session

structure Inv (env : LoadedEnv) (s : Loops) : Prop where
  nodup : ∀ loop, (s.sessions loop).Nodup
  apart : ∀ loop loop' i, i ∈ s.sessions loop → i ∈ s.sessions loop' → loop = loop'
  paced : ∀ loop, ∀ e ∈ s.wheels loop, ∃ expected,
    s.gateway.expectedOf e.session = some (some expected) ∧
      Drift (OnTime env) (s.firedOf e.session) expected e.when
  known : ∀ f ∈ s.fired, s.gateway.expectedOf f.session ≠ none

lemma Inv.not_mem_sessions (h : s.Inv env) (hi : s.gateway.expectedOf i = none) (loop : ℕ) :
    i ∉ s.sessions loop := by
  intro hmem
  obtain ⟨e, he, rfl⟩ := mem_map.mp hmem
  obtain ⟨expected, hexpected, -⟩ := h.paced loop e he
  rw [hi] at hexpected
  cases hexpected

lemma Inv.firedOf_eq_nil (h : s.Inv env) (hi : s.gateway.expectedOf i = none) :
    s.firedOf i = [] := by
  rw [firedOf, filter_eq_nil_iff]
  intro f hf hsession
  have hsession : f.session = i := by simpa using hsession
  exact h.known f hf (hsession ▸ hi)

lemma Inv.drop (h : s.Inv env) {e : Entry} {queue : List Entry}
    (hqueue : s.wheels loop = e :: queue) : (s.setWheel loop queue).Inv env := by
  have hsub : ∀ loop', ((s.setWheel loop queue).wheels loop').Sublist (s.wheels loop') := by
    intro loop'
    by_cases hloop : loop' = loop
    · subst hloop
      simp [setWheel, hqueue]
    · simp [setWheel, hloop]
  refine ⟨fun loop' => (h.nodup loop').sublist ((hsub loop').map _), ?_, ?_, h.known⟩
  · intro loop₁ loop₂ j h₁ h₂
    exact h.apart loop₁ loop₂ j (((hsub loop₁).map _).subset h₁) (((hsub loop₂).map _).subset h₂)
  · intro loop' e' he'
    exact h.paced loop' e' ((hsub loop').subset he')

lemma Inv.emplace (h : s.Inv env) {queue : List Entry} {t : Instant} {expected : Instant}
    (hqueue : queue.Sublist (s.wheels loop)) (hnot : i ∉ queue.map Entry.session)
    (helsewhere : ∀ loop', i ∈ s.sessions loop' → loop' = loop)
    (hwheels : s'.wheels = update s.wheels loop (Cpp23Uws.emplace queue ⟨t, i⟩))
    (hexpected : s'.gateway.expectedOf =
      update s.gateway.expectedOf i (some (some expected)))
    (hfired : ∀ f ∈ s'.fired, f ∈ s.fired ∨ f.session = i)
    (hothers : ∀ j, j ≠ i → s'.firedOf j = s.firedOf j)
    (hdrift : Drift (OnTime env) (s'.firedOf i) expected t) : s'.Inv env := by
  have hperm : (Cpp23Uws.emplace queue ⟨t, i⟩).Perm (⟨t, i⟩ :: queue) :=
    perm_orderedInsert _ _ _
  have hhere : s'.wheels loop = Cpp23Uws.emplace queue ⟨t, i⟩ := by
    rw [hwheels, update_self]
  have hthere : ∀ loop', loop' ≠ loop → s'.wheels loop' = s.wheels loop' := by
    intro loop' hloop
    rw [hwheels, update_of_ne hloop]
  have hold : ∀ loop' j, j ≠ i → j ∈ s'.sessions loop' → j ∈ s.sessions loop' := by
    intro loop' j hj hmem
    by_cases hloop : loop' = loop
    · subst hloop
      rw [sessions, hhere, (hperm.map _).mem_iff] at hmem
      obtain rfl | hmem := mem_cons.mp hmem
      · exact absurd rfl hj
      · exact (hqueue.map _).subset hmem
    · rwa [sessions, hthere loop' hloop] at hmem
  have hnew : ∀ loop', i ∈ s'.sessions loop' → loop' = loop := by
    intro loop' hmem
    by_contra hloop
    rw [sessions, hthere loop' hloop] at hmem
    exact hloop (helsewhere loop' hmem)
  refine ⟨?_, ?_, ?_, ?_⟩
  · intro loop'
    by_cases hloop : loop' = loop
    · subst hloop
      rw [sessions, hhere, (hperm.map _).nodup_iff]
      exact nodup_cons.mpr ⟨hnot, (h.nodup loop').sublist (hqueue.map _)⟩
    · rw [sessions, hthere loop' hloop]
      exact h.nodup loop'
  · intro loop₁ loop₂ j h₁ h₂
    by_cases hj : j = i
    · subst hj
      rw [hnew loop₁ h₁, hnew loop₂ h₂]
    · exact h.apart loop₁ loop₂ j (hold loop₁ j hj h₁) (hold loop₂ j hj h₂)
  · -- the entries of the other sessions were there before
    have hpaced : ∀ loop' e, e ∈ s.wheels loop' → e.session ≠ i → ∃ expected,
        s'.gateway.expectedOf e.session = some (some expected) ∧
          Drift (OnTime env) (s'.firedOf e.session) expected e.when := by
      intro loop' e he hne
      rw [hexpected, update_of_ne hne, hothers _ hne]
      exact h.paced loop' e he
    intro loop' e he
    by_cases hloop : loop' = loop
    · subst hloop
      rw [hhere, hperm.mem_iff] at he
      obtain rfl | he := mem_cons.mp he
      · exact ⟨expected, by rw [hexpected, update_self], hdrift⟩
      · exact hpaced loop' e (hqueue.subset he) fun hi => hnot (hi ▸ mem_map_of_mem he)
    · rw [hthere loop' hloop] at he
      refine hpaced loop' e he fun hi => hloop (helsewhere loop' ?_)
      exact hi ▸ mem_map_of_mem he
  · intro f hf
    rw [hexpected]
    by_cases hi : f.session = i
    · rw [hi, update_self]
      exact some_ne_none _
    · rw [update_of_ne hi]
      exact h.known f ((hfired f hf).resolve_right hi)

lemma firedOf_concat (s : Loops) (f : Fired) (j : ℕ) :
    ({ s with fired := s.fired ++ [f] } : Loops).firedOf j =
      s.firedOf j ++ if f.session = j then [f] else [] := by
  by_cases hj : f.session = j <;> simp [firedOf, hj]

lemma Inv.tick (h : s.Inv env) {when : Instant} {queue : List Entry} {c : Conn} {gateway : Gateway}
    (hqueue : s.wheels loop = ⟨when, i⟩ :: queue) (hc : s.gateway.conns i = some c)
    (hstep : s.gateway.step env.toEnv (.Tick i now) = some gateway) :
    Inv env { s.setWheel loop (Cpp23Uws.emplace queue ⟨catchUp env.config.flushInterval
        env.positive now (when + env.config.flushInterval), i⟩) with
      gateway := gateway
      fired := s.fired ++ [⟨i, when, now, c.session.state⟩] } := by
  have hmem : (⟨when, i⟩ : Entry) ∈ s.wheels loop := hqueue ▸ mem_cons_self
  obtain ⟨expected, hexpected, hdrift⟩ := h.paced loop _ hmem
  have hsession : c.session.expectedNextFlush = some expected := by
    simpa [Gateway.expectedOf, hc] using hexpected
  have hnodup : i ∉ queue.map Entry.session := by
    have hnodup := h.nodup loop
    rw [sessions, hqueue] at hnodup
    exact (nodup_cons.mp hnodup).1
  obtain ⟨skipped, hcatchUp, hskipped⟩ :=
    @catchUp_spec _ now (when + env.config.flushInterval) env.positive
  -- how far the session's own time moves
  set moved := if c.session.state = .Started then env.config.flushInterval else 0 with hmoved
  have hle : moved ≤ env.config.flushInterval + skipped := by
    rw [hmoved]
    split_ifs
    · exact Nat.le_add_right _ _
    · exact Nat.zero_le _
  have honTime : OnTime env ⟨i, when, now, c.session.state⟩ ↔
      moved = env.config.flushInterval + skipped := by
    have hpositive := env.positive
    unfold OnTime
    dsimp only
    rw [hskipped, hmoved]
    split_ifs with hstarted
    · rw [left_eq_add]
      simp [hstarted]
    · simp only [hstarted, false_and, false_iff]
      exact (Nat.add_pos_left hpositive skipped).ne
  have hrun := hdrift.run hle honTime
  rw [hcatchUp, Nat.add_assoc]
  refine h.emplace ?_ hnodup ?_ rfl ?_ ?_ ?_ ((congrArg (Drift _ · _ _) ?_).mpr hrun)
  · rw [hqueue]
    exact sublist_cons_self _ _
  · intro loop' hloop'
    exact h.apart loop' loop i hloop' (mem_map_of_mem hmem)
  · dsimp only
    rw [Gateway.expectedOf_tick hc hstep, Session.onFlushTick_expected, hsession]
    rfl
  · intro f hf
    obtain hf | hf := mem_append.mp hf
    · exact .inl hf
    · exact .inr (by rw [mem_singleton.mp hf])
  · intro j hj
    refine (firedOf_concat s _ j).trans ?_
    rw [if_neg (Ne.symm hj), append_nil]
  · refine (firedOf_concat s _ i).trans ?_
    rw [if_pos rfl]

lemma inv_inductive (env : LoadedEnv) : (system env).Inductive (Inv env) where
  init := by
    rintro s rfl
    exact ⟨fun _ => nodup_nil, nofun, nofun, nofun⟩
  step := by
    intro s e s' h hstep
    cases e with
    | Open loop i firstFire =>
      obtain ⟨gateway, hopen, hstep⟩ := bind_eq_some_iff.mp hstep
      cases hstep
      obtain ⟨hnone, hexpected⟩ := Gateway.expectedOf_open hopen
      have hfresh : s.gateway.expectedOf i = none := by simp [Gateway.expectedOf, hnone]
      refine h.emplace (List.Sublist.refl _) (h.not_mem_sessions hfresh loop) ?_ rfl hexpected
        (fun f hf => .inl hf) (fun _ _ => rfl) ?_
      · intro loop' hmem
        exact absurd hmem (h.not_mem_sessions hfresh loop')
      · exact (congrArg (Drift _ · _ _) (h.firedOf_eq_nil hfresh)).mpr (Drift.start _ firstFire)
    | Fire loop now =>
      obtain ⟨when, i, queue, c, hqueue, -, hc, rfl | ⟨gateway, htick, rfl⟩⟩ := fire_cases hstep
      · exact h.drop hqueue
      · exact h.tick hqueue hc htick
    | Other e =>
      simp only [system, ofFun, step] at hstep
      split_ifs at hstep with hwheel
      obtain ⟨gateway, he, hstep⟩ := bind_eq_some_iff.mp hstep
      cases hstep
      have hexpected := Gateway.expectedOf_step (Bool.eq_false_iff.mpr hwheel) he
      refine ⟨h.nodup, h.apart, ?_, ?_⟩
      · dsimp only
        rw [hexpected]
        exact h.paced
      · dsimp only
        rw [hexpected]
        exact h.known

theorem expectedNextFlush_iff (hs : (system env).Reachable s) {when : Instant} {queue : List Entry}
    {c : Conn} (hqueue : s.wheels loop = ⟨when, i⟩ :: queue) (hdue : when ≤ now)
    (hc : s.gateway.conns i = some c) :
    (c.session.expectedNextFlush = some when ↔
      ∀ f ∈ s.fired, f.session = i →
        f.state = .Started ∧ f.now < f.when + env.config.flushInterval) ∧
    ∀ sub, (c.session.onFlushTick env.config now).2 = some sub →
      (sub.ctx.flushLateness = now - when ↔
        ∀ f ∈ s.fired, f.session = i →
          f.state = .Started ∧ f.now < f.when + env.config.flushInterval) := by
  have hinv := (inv_inductive env).reachable hs
  obtain ⟨expected, hexpected, hdrift⟩ := hinv.paced loop ⟨when, i⟩ (hqueue ▸ mem_cons_self)
  have hsession : c.session.expectedNextFlush = some expected := by
    simpa [Gateway.expectedOf, hc] using hexpected
  have hticks : (∀ f ∈ s.firedOf i, OnTime env f) ↔
      ∀ f ∈ s.fired, f.session = i →
        f.state = .Started ∧ f.now < f.when + env.config.flushInterval := by
    simp [firedOf, OnTime]
  rw [← hticks]
  constructor
  · rw [hsession, some_inj]
    exact hdrift.eq_iff
  · intro sub hsub
    rw [Session.onFlushTick_lateness hsub hsession]
    exact hdrift.lateness_iff hdue

def loadedEnv : LoadedEnv where
  toEnv := Gateway.defaultEnv
  positive := by decide

def startBetweenTicks : List LoopEvent :=
  [.Open 0 0 320, .Fire 0 320, .Other (.Text 0 (bytes Wire.startJson)), .Other (.Binary 0 (List.replicate 640 0) 400)]

theorem punctual_tick_of_late_start :
    ∃ s, (system loadedEnv).Reachable s ∧ s.wheels 0 = [⟨640, 0⟩] ∧
      ∃ c, s.gateway.conns 0 = some c ∧ c.session.state = .Started ∧
        c.session.expectedNextFlush = some 320 ∧
        ∃ sub, (c.session.onFlushTick loadedEnv.config 640).2 = some sub ∧
          sub.ctx.flushLateness = 320 := by
  have hrun : ∃ s ∈ exec (step loadedEnv) start startBetweenTicks, s.wheels 0 = [⟨640, 0⟩] ∧
      ∃ c ∈ s.gateway.conns 0, c.session.state = .Started ∧
        c.session.expectedNextFlush = some 320 ∧
        ∃ sub ∈ (c.session.onFlushTick loadedEnv.config 640).2, sub.ctx.flushLateness = 320 := by
    decide +kernel
  exact Reachable.exists_of_exec startBetweenTicks hrun

def startBeforeTicks : List LoopEvent :=
  [.Open 0 0 320, .Other (.Text 0 (bytes Wire.startJson)), .Fire 0 330]

theorem expectedNextFlush_iff_started :
    ∃ s, (system loadedEnv).Reachable s ∧ s.wheels 0 = [⟨640, 0⟩] ∧ s.fired.length = 1 ∧
      ∃ c, s.gateway.conns 0 = some c ∧ c.session.expectedNextFlush = some 640 := by
  obtain ⟨s, hs, hwheel, hfired, hconn⟩ : ∃ s, (system loadedEnv).Reachable s ∧
      s.wheels 0 = [⟨640, 0⟩] ∧ s.fired = [⟨0, 320, 330, .Started⟩] ∧
        (s.gateway.conns 0).isSome = true :=
    Reachable.exists_of_exec startBeforeTicks (by decide +kernel)
  obtain ⟨c, hc⟩ := isSome_iff_exists.mp hconn
  refine ⟨s, hs, hwheel, by rw [hfired]; rfl, c, hc, ?_⟩
  refine (expectedNextFlush_iff hs hwheel (le_refl 640) hc).1.mpr ?_
  rw [hfired]
  decide

end Loops

end SttBench.Cpp23Uws
