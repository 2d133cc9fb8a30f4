import SttBench.Core.Drain
import SttBench.RustSync.ExactlyOnce

/-!
# rust-sync: the timer heap

An entry stays in the heap until it is popped; one that came too early is pushed again.
-/

namespace SttBench.RustSync

open Ascii Drain Gateway Function List

/-! ## The deadlines of a connection -/

namespace Conn

variable {c c' : Conn}

def SameClock (c c' : Conn) : Prop := c'.pending = c.pending ∧ c'.nextFlush = c.nextFlush

lemma SameClock.deadline (h : SameClock c c') : c'.deadline = c.deadline := by
  rw [Conn.deadline, Conn.deadline, h.1, h.2]

lemma readLoop_sameClock (startMessage : Bytes → Bool) (rs : List WsRead) (c : Conn) :
    SameClock c (c.readLoop startMessage rs).1 := by
  fun_induction readLoop startMessage c rs with
  | case5 c rs ih | case7 c t rs _ _ ih | case9 c p now rs _ _ _ ih => exact ih
  | _ => exact ⟨rfl, rfl⟩

lemma flushWs_sameClock (c : Conn) (flush : WsFlush) : SameClock c (c.flushWs flush).1 := by
  unfold flushWs
  split_ifs
  · cases flush <;> exact ⟨rfl, rfl⟩
  · exact ⟨rfl, rfl⟩

lemma onReady_sameClock {startMessage : Bytes → Bool} {readable writable : Bool} {io : WsIo}
    {r : Handled} (hr : c.onReady startMessage readable writable io = .ok r) :
    SameClock c r.conn := by
  simp only [onReady, onReadable] at hr
  split_ifs at hr with hreadable hws hclose
  · cases hr
    exact readLoop_sameClock startMessage io.reads c
  · cases hr
    have hread := readLoop_sameClock startMessage io.reads c
    have hflush := flushWs_sameClock (c.readLoop startMessage io.reads).1 io.flush
    exact ⟨hflush.1.trans hread.1, hflush.2.trans hread.2⟩
  · unfold handshake at hr
    split_ifs at hr
    · cases hroute : io.route <;> simp only [hroute, Except.map, Except.ok.injEq] at hr <;>
        subst hr <;> exact ⟨rfl, rfl⟩
    · cases hr
  · cases hr
    exact flushWs_sameClock c io.flush
  · cases hr
    exact ⟨rfl, rfl⟩

lemma deliver_clock (c : Conn) (result : InferResult) (config : Config) (now : Instant)
    (flush : WsFlush) :
    (c.deliver result config now flush).conn.pending = none ∧
      (c.deliver result config now flush).conn.nextFlush = c.nextFlush := by
  unfold deliver
  split
  · rename_i hnone
    exact ⟨hnone, rfl⟩
  · exact flushWs_sameClock _ flush

lemma deadline_le_nextFlush (c : Conn) : c.deadline ≤ c.nextFlush := by
  unfold deadline
  split
  · exact min_le_right _ _
  · exact le_rfl

lemma deadline_of_idle (h : c.pending = none) : c.deadline = c.nextFlush := by
  rw [deadline, h]

lemma onDone_deadline (c : Conn) (tag : ℕ) (result : InferResult) (config : Config) (now : Instant)
    (flush : WsFlush) : c.deadline ≤ (c.onDone tag result config now flush).conn.deadline := by
  unfold onDone
  split_ifs
  · obtain ⟨hidle, hnext⟩ := deliver_clock c result config now flush
    rw [deadline_of_idle hidle, hnext]
    exact c.deadline_le_nextFlush
  · exact le_rfl

def isLate (c : Conn) (now : Instant) : Bool :=
  c.pending.any fun p => p.started + inferenceTimeout ≤ now

noncomputable def turnsLeft (config : Config) (now : Instant) (c : Conn) : ℕ :=
  turnsDue (now : ℤ) config.flushInterval c.nextFlush + if c.isLate now then 1 else 0

inductive Turned (config : Config) (now : Instant) (c : Conn) : Conn × Tick → Prop
  | timeout (elapsed : Duration) (hlate : c.isLate now = true) :
      Turned config now c (c, .Timeout elapsed)
  | early (hdeadline : now < c.deadline) : Turned config now c (c, .Keep)
  | wait (hdue : c.nextFlush ≤ now) :
      Turned config now c ({ c with nextFlush := c.nextFlush + config.flushInterval }, .Keep)
  | flush (batch : Batch) (hdue : c.nextFlush ≤ now) (hlate : c.isLate now = false) :
      Turned config now c ({ c with nextFlush := c.nextFlush + config.flushInterval }, .Flush batch)

lemma lt_deadline {now : Instant} (hlate : c.isLate now = false) (hearly : now < c.nextFlush) :
    now < c.deadline := by
  unfold deadline
  split
  · rename_i p hp
    rw [isLate, hp, Option.any_some, decide_eq_false_iff_not, not_le] at hlate
    exact lt_min hlate hearly
  · exact hearly

lemma onTimer_turned (c : Conn) (now : Instant) (config : Config) :
    Turned config now c (c.onTimer now config) := by
  unfold onTimer
  cases hp : c.pending.filter fun p => p.started + inferenceTimeout ≤ now with
  | some p =>
    obtain ⟨hp, hlate⟩ := Option.filter_eq_some_iff.mp hp
    refine .timeout _ ?_
    rw [isLate, hp, Option.any_some]
    exact hlate
  | none =>
    have hlate : c.isLate now = false := by
      rw [isLate, Option.any_eq_false]
      exact fun p hmem => Bool.eq_false_iff.mpr (Option.filter_eq_none_iff.mp hp p hmem)
    dsimp only
    split_ifs with hearly
    · exact .early (lt_deadline hlate hearly)
    · exact .wait (not_lt.mp hearly)
    · split
      · exact .flush _ (not_lt.mp hearly) hlate
      · exact .wait (not_lt.mp hearly)

section

variable {config : Config} {now : Instant}

lemma turnsDue_advance (hinterval : 0 < config.flushInterval) (hdue : c.nextFlush ≤ now) :
    turnsDue (now : ℤ) config.flushInterval (c.nextFlush + config.flushInterval : ℕ) <
      turnsDue (now : ℤ) config.flushInterval c.nextFlush := by
  have hperiod : (0 : ℤ) < config.flushInterval := by exact_mod_cast hinterval
  have hdue : (c.nextFlush : ℤ) ≤ now := by exact_mod_cast hdue
  rw [turnsDue_eq_add_one hperiod hdue, Nat.cast_add]
  exact Nat.lt_succ_self _

lemma isLate_beginPending (c : Conn) (batch : Batch) (now : Instant) :
    (c.beginPending batch now).isLate now = false := by
  have htimeout : 0 < inferenceTimeout := by norm_num [inferenceTimeout]
  rw [isLate, beginPending, Option.any_some, decide_eq_false_iff_not, not_le]
  exact Nat.lt_add_of_pos_right htimeout

lemma isLate_of_idle (h : c.pending = none) : c.isLate now = false := by
  rw [isLate, h, Option.any_none]

end

end Conn

namespace Gateway

variable {g : Setup} {s s' : Gateway} {id : ℕ} {c : Conn} {now clock due : Instant}
  {flush : WsFlush}

lemma tick_spec (s : Gateway) (id : ℕ) (c : Conn) (now clock : Instant) (flush : WsFlush) :
    ∃ c', (s.tick g id c now clock flush).conns = update s.conns id (some c') ∧
      (s.tick g id c now clock flush).nextId = s.nextId ∧
      s.closing ⊆ (s.tick g id c now clock flush).closing ∧
      ((s.tick g id c now clock flush).timers = (c'.deadline, id) :: s.timers ∨
        (s.tick g id c now clock flush).timers = s.timers ∧
          id ∈ (s.tick g id c now clock flush).closing) ∧
      (0 < g.config.flushInterval → c'.deadline ≤ now →
        c'.turnsLeft g.config now < c.turnsLeft g.config now) := by
  have hturned := c.onTimer_turned now g.config
  unfold tick
  generalize c.onTimer now g.config = turn at hturned
  cases hturned with
  | early hdeadline =>
    exact ⟨c, rfl, rfl, List.Subset.refl _, .inl rfl,
      fun _ hdue => absurd hdue (not_le.mpr hdeadline)⟩
  | wait hdue =>
    refine ⟨_, rfl, rfl, List.Subset.refl _, .inl rfl, fun hinterval _ => ?_⟩
    exact Nat.add_lt_add_right (Conn.turnsDue_advance hinterval hdue) _
  | flush batch hdue hlate =>
    refine ⟨_, rfl, rfl, List.Subset.refl _, .inl rfl, fun hinterval _ => ?_⟩
    rw [Conn.turnsLeft, Conn.turnsLeft, Conn.isLate_beginPending, hlate]
    exact Nat.add_lt_add_right (Conn.turnsDue_advance hinterval hdue) _
  | timeout elapsed hlate =>
    obtain ⟨hidle, hnext⟩ :=
      c.deliver_clock (.error (timeoutError elapsed)) g.config clock flush
    refine ⟨_, rfl, rfl, ?_, ?_, fun _ _ => ?_⟩
    · show s.closing ⊆ if _ then _ else _
      split_ifs
      · exact subset_append_left _ _
      · exact List.Subset.refl _
    · show (if _ then _ else _) = _ ∨ (if _ then _ else _) = _ ∧ _ ∈ if _ then _ else _
      split_ifs
      · exact .inr ⟨rfl, by simp⟩
      · exact .inl rfl
    · rw [Conn.turnsLeft, Conn.turnsLeft, hnext, Conn.isLate_of_idle hidle, hlate]
      exact Nat.lt_succ_self _

/-! ## What a step does to the heap -/

inductive Timed (s s' : Gateway) : Prop
  | same (hconns : s'.conns = s.conns) (htimers : s'.timers = s.timers)
      (hnext : s.nextId ≤ s'.nextId) (hclosing : s.closing ⊆ s'.closing) : Timed s s'
  | serve {id : ℕ} {c c' : Conn} (hc : s.conns id = some c)
      (hconns : s'.conns = update s.conns id (some c')) (htimers : s'.timers = s.timers)
      (hnext : s'.nextId = s.nextId) (hclosing : s.closing ⊆ s'.closing)
      (hdeadline : c.deadline ≤ c'.deadline) : Timed s s'
  | accept {c : Conn} (hconns : s'.conns = update s.conns s.nextId (some c))
      (htimers : s'.timers = (c.deadline, s.nextId) :: s.timers)
      (hnext : s'.nextId = s.nextId + 1) (hclosing : s.closing ⊆ s'.closing) : Timed s s'
  | tick {due : Instant} {id : ℕ} {c : Conn} (hmem : (due, id) ∈ s.timers)
      (hconns : s'.conns = update s.conns id (some c))
      (htimers : s'.timers = (c.deadline, id) :: s.timers.erase (due, id))
      (hnext : s'.nextId = s.nextId) (hclosing : s.closing ⊆ s'.closing) : Timed s s'
  | pop {due : Instant} {id : ℕ} (hmem : (due, id) ∈ s.timers)
      (hconns : ∀ j ≠ id, s'.conns j = s.conns j)
      (hgone : s'.conns id = none ∨ id ∈ s'.closing)
      (htimers : s'.timers = s.timers.erase (due, id)) (hnext : s'.nextId = s.nextId)
      (hclosing : s.closing ⊆ s'.closing) : Timed s s'
  | reap {id : ℕ} (hconns : s'.conns = update s.conns id none)
      (htimers : s'.timers = s.timers) (hnext : s'.nextId = s.nextId)
      (hclosing : ∀ j ≠ id, j ∈ s.closing → j ∈ s'.closing) : Timed s s'

lemma Timed.of_channels {cmds : Channel Cmd} {dones : Channel Done} {pool : Pool}
    (h : Timed { s with cmds := cmds, dones := dones, pool := pool } s') : Timed s s' := by
  cases h with
  | same hconns htimers hnext hclosing => exact .same hconns htimers hnext hclosing
  | serve hc hconns htimers hnext hclosing hdeadline =>
    exact .serve hc hconns htimers hnext hclosing hdeadline
  | accept hconns htimers hnext hclosing => exact .accept hconns htimers hnext hclosing
  | tick hmem hconns htimers hnext hclosing => exact .tick hmem hconns htimers hnext hclosing
  | pop hmem hconns hgone htimers hnext hclosing =>
    exact .pop hmem hconns hgone htimers hnext hclosing
  | reap hconns htimers hnext hclosing => exact .reap hconns htimers hnext hclosing

lemma report_timed (s : Gateway) (d : Option Done) : Timed s (s.report d) := by
  cases d <;> exact .same rfl rfl le_rfl (List.Subset.refl _)

lemma handled_timed {r : Conn.Handled} (hc : s.conns id = some c)
    (hdeadline : c.deadline ≤ r.conn.deadline) : Timed s (s.handled id r) := by
  refine .serve hc rfl rfl rfl ?_ hdeadline
  show s.closing ⊆ if _ then _ else _
  split_ifs
  · exact subset_append_left _ _
  · exact List.Subset.refl _

lemma timer_timed (hstep : s.step g (.Timer due id now clock flush) = some s') : Timed s s' := by
  simp only [step] at hstep
  split_ifs at hstep with hnext
  have hmem : (due, id) ∈ s.timers := (of_decide_eq_true hnext.1).1
  split at hstep
  · rename_i hnone
    cases hstep
    exact .pop hmem (fun _ _ => rfl) (.inl hnone) rfl rfl (List.Subset.refl _)
  · rename_i c hc
    cases hstep
    obtain ⟨c', hconns, hid, hclosing, htimers | ⟨htimers, hgone⟩, -⟩ :=
      tick_spec { s with timers := s.timers.erase (due, id) } id c now clock flush (g := g)
    · exact .tick hmem hconns htimers hid hclosing
    · refine .pop hmem (fun j hj => ?_) (.inr hgone) htimers hid hclosing
      rw [hconns]
      exact update_of_ne hj _ _

lemma step_timed {e : Event} (hstep : s.step g e = some s') : Timed s s' := by
  cases e with
  | Accept now phase registered =>
    simp only [step] at hstep
    split_ifs at hstep <;> cases hstep
    · exact .accept rfl rfl rfl (List.Subset.refl _)
    · exact .same rfl rfl (Nat.le_succ _) (List.Subset.refl _)
  | Ready id readable writable io =>
    simp only [step] at hstep
    split at hstep
    · cases hstep
      exact .same rfl rfl le_rfl (List.Subset.refl _)
    · rename_i c hc
      split at hstep
      · rename_i r hr
        cases hstep
        exact handled_timed hc (Conn.onReady_sameClock hr).deadline.ge
      · cases hstep
  | Result now flush =>
    simp only [step] at hstep
    split at hstep
    · cases hstep
    · rename_i d dones _
      split at hstep
      · cases hstep
        exact .same rfl rfl le_rfl (List.Subset.refl _)
      · rename_i c hc
        cases hstep
        have htimed : Timed { s with dones := dones } _ :=
          handled_timed hc (c.onDone_deadline d.tag d.result g.config now flush)
        exact htimed.of_channels
  | Timer due id now clock flush => exact timer_timed hstep
  | Reap id =>
    simp only [step] at hstep
    split_ifs at hstep
    have herase : ∀ j ≠ id, j ∈ s.closing → j ∈ s.closing.erase id :=
      fun j hj hmem => (mem_erase_of_ne hj).mpr hmem
    split at hstep
    · rename_i hnone
      cases hstep
      exact .reap (update_eq_self_iff.mpr hnone.symm).symm rfl rfl herase
    · cases hstep
      exact .reap rfl rfl rfl herase
  | Drive idx w =>
    simp only [step] at hstep
    split at hstep
    · rename_i p d _
      cases hstep
      exact (report_timed { s with pool := p } d).of_channels
    · cases hstep
  | Command now connect =>
    simp only [step] at hstep
    split at hstep
    · cases hstep
    · rename_i cmd cmds _
      cases cmd with
      | Abort owner =>
        cases hstep
        exact .same rfl rfl le_rfl (List.Subset.refl _)
      | Submit owner tag body cpuPasses =>
        rw [execute] at hstep
        split at hstep
        · rename_i p d _
          cases hstep
          exact (report_timed { s with cmds := cmds, pool := p } d).of_channels
        · cases hstep

/-! ## One entry for each connection -/

structure Scheduled (s : Gateway) : Prop where
  token : ∀ id ∈ s.timers.map Prod.snd, id < s.nextId
  nodup : (s.timers.map Prod.snd).Nodup
  entry : ∀ id c, s.conns id = some c → id ∉ s.closing → id ∈ s.timers.map Prod.snd
  early : ∀ due id c, (due, id) ∈ s.timers → s.conns id = some c → due ≤ c.deadline

lemma perm_popped (hmem : (due, id) ∈ s.timers) :
    (s.timers.map Prod.snd).Perm (id :: (s.timers.erase (due, id)).map Prod.snd) :=
  (perm_cons_erase hmem).map Prod.snd

lemma Scheduled.push {rest : List (Instant × ℕ)} (h : s.Scheduled) (hrest : rest.Sublist s.timers)
    (hnot : id ∉ rest.map Prod.snd)
    (hall : ∀ j ∈ s.timers.map Prod.snd, j = id ∨ j ∈ rest.map Prod.snd)
    (hconns : s'.conns = update s.conns id (some c))
    (htimers : s'.timers = (c.deadline, id) :: rest) (hnext : s.nextId ≤ s'.nextId)
    (hid : id < s'.nextId) (hclosing : s.closing ⊆ s'.closing) : s'.Scheduled := by
  have hids : s'.timers.map Prod.snd = id :: rest.map Prod.snd := by rw [htimers, map_cons]
  have hsub := hrest.map Prod.snd
  refine ⟨?_, ?_, ?_, ?_⟩
  · intro j hj
    rw [hids] at hj
    rcases mem_cons.mp hj with rfl | hj
    · exact hid
    · exact (h.token j (hsub.subset hj)).trans_le hnext
  · rw [hids]
    exact nodup_cons.mpr ⟨hnot, h.nodup.sublist hsub⟩
  · intro j d hd hnotin
    rw [hids, mem_cons]
    rw [hconns] at hd
    by_cases hj : j = id
    · exact .inl hj
    · exact hall j (h.entry j d (by simpa [hj] using hd) fun hmem => hnotin (hclosing hmem))
  · intro due j d hmem hd
    rw [hconns] at hd
    rw [htimers] at hmem
    rcases mem_cons.mp hmem with heq | hold
    · cases heq
      obtain rfl : c = d := by simpa using hd
      exact le_rfl
    · have hj : j ≠ id := by
        rintro rfl
        exact hnot (mem_map_of_mem hold)
      exact h.early due j d (hrest.subset hold) (by simpa [hj] using hd)

lemma Timed.scheduled (ht : Timed s s') (h : s.Scheduled) : s'.Scheduled := by
  cases ht with
  | same hconns htimers hnext hclosing =>
    refine ⟨?_, htimers ▸ h.nodup, ?_, ?_⟩
    · exact fun id hid => (h.token id (htimers ▸ hid)).trans_le hnext
    · exact fun id c hc hnot =>
        htimers ▸ h.entry id c (hconns ▸ hc) fun hmem => hnot (hclosing hmem)
    · exact fun due id c hmem hc => h.early due id c (htimers ▸ hmem) (hconns ▸ hc)
  | @serve id c c' hc hconns htimers hnext hclosing hdeadline =>
    refine ⟨?_, htimers ▸ h.nodup, ?_, ?_⟩
    · exact fun id hid => hnext ▸ h.token id (htimers ▸ hid)
    · intro j d hd hnot
      rw [hconns] at hd
      rw [htimers]
      by_cases hj : j = id
      · exact hj ▸ h.entry id c hc fun hmem => hnot (hclosing (hj ▸ hmem))
      · exact h.entry j d (by simpa [hj] using hd) fun hmem => hnot (hclosing hmem)
    · intro due j d hmem hd
      rw [hconns] at hd
      rw [htimers] at hmem
      by_cases hj : j = id
      · subst hj
        obtain rfl : c' = d := by simpa using hd
        exact (h.early due j c hmem hc).trans hdeadline
      · exact h.early due j d hmem (by simpa [hj] using hd)
  | accept hconns htimers hnext hclosing =>
    exact h.push (List.Sublist.refl _) (fun hmem => (h.token _ hmem).ne rfl)
      (fun _ hj => .inr hj) hconns htimers (by omega) (by omega) hclosing
  | @tick due id c hmem hconns htimers hnext hclosing =>
    have hperm := perm_popped hmem
    refine h.push erase_sublist (nodup_cons.mp (hperm.nodup_iff.mp h.nodup)).1
      (fun j hj => mem_cons.mp (hperm.mem_iff.mp hj)) hconns htimers hnext.ge ?_ hclosing
    exact hnext ▸ h.token id (mem_map_of_mem hmem)
  | @pop due id hmem hconns hgone htimers hnext hclosing =>
    have hperm := perm_popped hmem
    obtain ⟨hnot, hnodup⟩ := nodup_cons.mp (hperm.nodup_iff.mp h.nodup)
    refine ⟨?_, htimers ▸ hnodup, ?_, ?_⟩
    · intro j hj
      rw [htimers] at hj
      exact hnext ▸ h.token j (hperm.mem_iff.mpr (mem_cons_of_mem _ hj))
    · intro j d hd hnotin
      have hj : j ≠ id := by
        rintro rfl
        rcases hgone with hnone | hin
        · cases hnone.symm.trans hd
        · exact hnotin hin
      have hold := h.entry j d ((hconns j hj).symm.trans hd) fun hmem => hnotin (hclosing hmem)
      rw [htimers]
      exact (mem_cons.mp (hperm.mem_iff.mp hold)).resolve_left hj
    · intro due' j d hmem' hd
      rw [htimers] at hmem'
      have hj : j ≠ id := by
        rintro rfl
        exact hnot (mem_map_of_mem hmem')
      exact h.early due' j d (mem_of_mem_erase hmem') ((hconns j hj).symm.trans hd)
  | @reap id hconns htimers hnext hclosing =>
    have hother : ∀ j d, s'.conns j = some d → j ≠ id ∧ s.conns j = some d := by
      intro j d hd
      rw [hconns] at hd
      have hj : j ≠ id := by
        rintro rfl
        simp at hd
      exact ⟨hj, by simpa [hj] using hd⟩
    refine ⟨fun j hj => hnext ▸ h.token j (htimers ▸ hj), htimers ▸ h.nodup, ?_, ?_⟩
    · intro j d hd hnot
      obtain ⟨hj, hd⟩ := hother j d hd
      exact htimers ▸ h.entry j d hd fun hmem => hnot (hclosing j hj hmem)
    · exact fun due j d hmem hd => h.early due j d (htimers ▸ hmem) (hother j d hd).2

lemma scheduled_inductive (g : Setup) (now : Instant) : (gateway g now).Inductive Scheduled where
  init := by
    rintro s rfl
    exact ⟨nofun, nodup_nil, nofun, nofun⟩
  step _ _ _ h hstep := (step_timed hstep).scheduled h

/-! ## The loop -/

def idleCap : Duration := 10 ^ 9

def peek (s : Gateway) : Option (Instant × ℕ) := s.timers.find? fun e => s.isNextTimer e.1 e.2

lemma isNextTimer_of_peek (h : s.peek = some (due, id)) : s.isNextTimer due id = true :=
  List.find?_some (p := fun e : Instant × ℕ => s.isNextTimer e.1 e.2) h

lemma peek_le (h : s.peek = some (due, id)) {e : Instant × ℕ} (he : e ∈ s.timers) : due ≤ e.1 := by
  rcases (of_decide_eq_true (isNextTimer_of_peek h)).2 e he with hlt | ⟨heq, -⟩
  · exact hlt.le
  · exact heq.le

lemma timers_eq_nil_of_peek (h : s.peek = none) : s.timers = [] := by
  by_contra hne
  obtain ⟨least, hmem, hle⟩ := s.timers.toFinset.exists_min_image toLex
    (toFinset_nonempty_iff _ |>.mpr hne)
  refine absurd ?_ (List.find?_eq_none.mp h least (mem_toFinset.mp hmem))
  refine decide_eq_true ⟨mem_toFinset.mp hmem, fun e he => ?_⟩
  exact Prod.Lex.le_iff.mp (hle e (mem_toFinset.mpr he))

def timerTurn (g : Setup) (now : Instant) (io : ℕ → Instant × WsFlush) (turn : ℕ) (s : Gateway) :
    Gateway ⊕ Gateway :=
  match s.peek with
  | none => .inr s
  | some (t, id) =>
    if now < t then .inr s
    else
      let s := { s with timers := s.timers.erase (t, id) }
      match s.conns id with
      | none => .inl s
      | some c => .inl (s.tick g id c now (io turn).1 (io turn).2)

def drainTimers (g : Setup) (s : Gateway) (now : Instant) (io : ℕ → Instant × WsFlush) (fuel : ℕ) :
    Option Gateway :=
  loop (timerTurn g now io) fuel 0 s

def pollTimeout (s : Gateway) (now : Instant) : Duration :=
  match s.peek with
  | some (t, _) => min (t - now) idleCap
  | none => idleCap

lemma step_of_timerTurn {io : ℕ → Instant × WsFlush} {turn : ℕ}
    (h : timerTurn g now io turn s = .inl s') :
    ∃ due id, (due, id) ∈ s.timers ∧ due ≤ now ∧
      s.step g (.Timer due id now (io turn).1 (io turn).2) = some s' := by
  unfold timerTurn at h
  split at h
  · cases h
  · rename_i due id hpeek
    split_ifs at h with hdue
    have hnext := isNextTimer_of_peek hpeek
    refine ⟨due, id, (of_decide_eq_true hnext).1, not_lt.mp hdue, ?_⟩
    rw [step, if_pos ⟨hnext, not_lt.mp hdue⟩]
    dsimp only at h ⊢
    cases hc : s.conns id with
    | none | some c =>
      rw [hc] at h
      exact congrArg some (Sum.inl.inj h)

lemma not_due_of_timerTurn {io : ℕ → Instant × WsFlush} {turn : ℕ}
    (h : timerTurn g now io turn s = .inr s') : s' = s ∧ ∀ e ∈ s.timers, now < e.1 := by
  unfold timerTurn at h
  split at h
  · rename_i hpeek
    exact ⟨(Sum.inr.inj h).symm, by simp [timers_eq_nil_of_peek hpeek]⟩
  · rename_i due id hpeek
    split_ifs at h with hdue
    · exact ⟨(Sum.inr.inj h).symm, fun e he => hdue.trans_le (peek_le hpeek he)⟩
    · dsimp only at h
      split at h <;> cases h

noncomputable def turnsLeft (g : Setup) (now : Instant) (conns : ℕ → Option Conn)
    (e : Instant × ℕ) : ℕ :=
  if e.1 ≤ now then 1 + (conns e.2).elim 0 (Conn.turnsLeft g.config now) else 0

lemma turnsLeft_pos (conns : ℕ → Option Conn) (hdue : due ≤ now) :
    0 < turnsLeft g now conns (due, id) := by
  rw [turnsLeft, if_pos hdue]
  exact Nat.lt_add_right _ Nat.one_pos

lemma turnsLeft_other {conns : ℕ → Option Conn} {x : Option Conn} {rest : List (Instant × ℕ)}
    (hnot : id ∉ rest.map Prod.snd) :
    rest.map (turnsLeft g now (update conns id x)) =
      rest.map (turnsLeft g now conns) := by
  refine map_congr_left fun e he => ?_
  have hne : e.2 ≠ id := by
    rintro rfl
    exact hnot (mem_map_of_mem he)
  rw [turnsLeft, turnsLeft, update_of_ne hne]

lemma turnsLeft_step (hinterval : 0 < g.config.flushInterval) (h : s.Scheduled)
    (hmem : (due, id) ∈ s.timers) (hdue : due ≤ now)
    (hstep : s.step g (.Timer due id now clock flush) = some s') :
    (s'.timers.map (turnsLeft g now s'.conns)).sum <
      (s.timers.map (turnsLeft g now s.conns)).sum := by
  have hnot := (nodup_cons.mp ((perm_popped hmem).nodup_iff.mp h.nodup)).1
  have hsum := ((perm_cons_erase hmem).map (turnsLeft g now s.conns)).sum_eq
  rw [hsum, map_cons, sum_cons]
  simp only [step] at hstep
  split_ifs at hstep
  split at hstep
  · -- the connection of the entry is gone
    cases hstep
    dsimp only
    exact Nat.lt_add_of_pos_left (turnsLeft_pos s.conns hdue)
  · rename_i c hc
    cases hstep
    obtain ⟨c', hconns, -, -, htimers, hturns⟩ :=
      tick_spec { s with timers := s.timers.erase (due, id) } id c now clock flush (g := g)
    rw [hconns]
    dsimp only at htimers ⊢
    rcases htimers with htimers | ⟨htimers, -⟩
    · rw [htimers, map_cons, sum_cons, turnsLeft_other hnot]
      refine Nat.add_lt_add_right ?_ _
      by_cases hdue' : c'.deadline ≤ now
      · have hpushed : turnsLeft g now (update s.conns id (some c')) (c'.deadline, id) =
            1 + c'.turnsLeft g.config now := by
          rw [turnsLeft, if_pos hdue', update_self]
          rfl
        have hpopped : turnsLeft g now s.conns (due, id) = 1 + c.turnsLeft g.config now := by
          rw [turnsLeft, if_pos hdue, hc]
          rfl
        rw [hpushed, hpopped]
        exact Nat.add_lt_add_left (hturns hinterval hdue') 1
      · rw [turnsLeft, if_neg hdue']
        exact turnsLeft_pos s.conns hdue
    · rw [htimers, turnsLeft_other hnot]
      exact Nat.lt_add_of_pos_left (turnsLeft_pos s.conns hdue)

lemma drainTimers_stops {start : Instant} (hinterval : 0 < g.config.flushInterval)
    (hs : (gateway g start).Reachable s) (now : Instant) (io : ℕ → Instant × WsFlush) :
    ∃ turns s', (∀ fuel > turns, s.drainTimers g now io fuel = some s') ∧
      (gateway g start).Leads s s' ∧ ∀ e ∈ s'.timers, now < e.1 := by
  have hgo : ∀ turn u u', (gateway g start).Leads s u → timerTurn g now io turn u = .inl u' →
      (gateway g start).Leads s u' ∧
        (u'.timers.map (turnsLeft g now u'.conns)).sum <
          (u.timers.map (turnsLeft g now u.conns)).sum := by
    intro turn u u' hu hturn
    obtain ⟨due, id, hmem, hdue, hstep⟩ := step_of_timerTurn hturn
    have hscheduled := (scheduled_inductive g start).reachable (hs.leads hu)
    exact ⟨hu.tail ⟨_, hstep⟩, turnsLeft_step hinterval hscheduled hmem hdue hstep⟩
  have hstop : ∀ turn u r, (gateway g start).Leads s u → timerTurn g now io turn u = .inr r →
      (gateway g start).Leads s r ∧ ∀ e ∈ r.timers, now < e.1 := by
    intro turn u r hu hturn
    obtain ⟨rfl, hnot⟩ := not_due_of_timerTurn hturn
    exact ⟨hu, hnot⟩
  obtain ⟨r, hr, hloop⟩ := loop_stops (fun u => (u.timers.map (turnsLeft g now u.conns)).sum) hgo
    hstop 0 .refl
  exact ⟨_, r, hloop, hr⟩

lemma pollTimeout_le (h : s.Scheduled) (hc : s.conns id = some c) (hlive : id ∉ s.closing)
    (now : Instant) : now + s.pollTimeout now ≤ max now c.deadline := by
  obtain ⟨⟨due, j⟩, hmem, rfl⟩ := mem_map.mp (h.entry id c hc hlive)
  have hearly := h.early due j c hmem hc
  unfold pollTimeout
  split
  · rename_i t k hpeek
    calc now + min (t - now) idleCap
        ≤ now + (t - now) := Nat.add_le_add_left (min_le_left _ _) now
      _ = max now t := add_tsub_eq_max
      _ ≤ max now c.deadline := max_le_max le_rfl ((peek_le hpeek hmem).trans hearly)
  · rename_i hpeek
    rw [timers_eq_nil_of_peek hpeek] at hmem
    cases hmem

end Gateway

theorem timers_in_time {g : Setup} {start : Instant} {s : Gateway}
    (hs : (gateway g start).Reachable s) :
    (∀ id c, s.conns id = some c → id ∉ s.closing →
      (s.timers.map Prod.snd).count id = 1 ∧ (∀ due, (due, id) ∈ s.timers → due ≤ c.deadline) ∧
        ∀ now, now + s.pollTimeout now ≤ max now c.deadline) ∧
    (0 < g.config.flushInterval → ∀ now io, ∃ turns s',
      (∀ fuel > turns, s.drainTimers g now io fuel = some s') ∧
        (gateway g start).Leads s s' ∧ ∀ e ∈ s'.timers, now < e.1) := by
  have h := (Gateway.scheduled_inductive g start).reachable hs
  refine ⟨fun id c hc hlive => ⟨?_, fun due hmem => h.early due id c hmem hc, ?_⟩, ?_⟩
  · exact count_eq_one_of_mem h.nodup (h.entry id c hc hlive)
  · exact Gateway.pollTimeout_le h hc hlive
  · exact fun hinterval now io => Gateway.drainTimers_stops hinterval hs now io

theorem timers_in_time_unanswered :
    ∃ s c, (gateway sampleSetup 0).Reachable s ∧ s.conns 2 = some c ∧ c.pending.isSome ∧
      (s.timers.map Prod.snd).count 2 = 1 ∧ (∀ now, now + s.pollTimeout now ≤ max now c.deadline) ∧
      ∃ turns s', ∀ fuel > turns,
        s.drainTimers sampleSetup (60 * 10 ^ 9) (fun _ => (0, .Ok)) fuel = some s' := by
  obtain ⟨s, hs, ⟨c, hc, hpending⟩, hlive⟩ : ∃ s, (gateway sampleSetup 0).Reachable s ∧
      (∃ c ∈ s.conns 2, c.pending.isSome) ∧ 2 ∉ s.closing :=
    TransitionSystem.Reachable.exists_of_exec oneFrame (by decide +kernel)
  obtain ⟨hentry, hloop⟩ := timers_in_time hs
  obtain ⟨hone, -, hpoll⟩ := hentry 2 c hc hlive
  obtain ⟨turns, s', hdrain, -⟩ := hloop (by norm_num [sampleSetup, sampleConfig]) (60 * 10 ^ 9)
    fun _ => (0, .Ok)
  exact ⟨s, c, hs, hc, hpending, hone, hpoll, turns, s', hdrain⟩

end SttBench.RustSync
