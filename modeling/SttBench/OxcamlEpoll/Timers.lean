import SttBench.Core.Drain
import SttBench.OxcamlEpoll.Acts

/-!
# ocaml-oxcaml-epoll: the timer heap

A timer that no longer means anything is told by its generation.
-/

namespace SttBench.OxcamlEpoll

open Conn Drain Function List

variable {g : Setup} {reads : Conn → Prop} {v v' : View} {id : ℕ} {c : Conn} {l owed : List Push}

/-! ## What an act does to a connection's timers -/

inductive Timed (g : Setup) (v v' : View) : List Push → Prop
  | serve {id : ℕ} {c c' : Conn} (hc : v.conns id = some c)
      (hconns : v'.conns = update v.conns id (some c'))
      (htimers : v'.timers = v.timers) (hnext : v'.nextConnId = v.nextConnId)
      (hflush : flushOf id c' = flushOf id c)
      (hclosing : c.closeAfterWrite = true → c'.closeAfterWrite = true)
      (hpending : ∀ p, c'.pending = some p → c.pending = some p)
      (hgen : c.timeoutGen ≤ c'.timeoutGen) : Timed g v v' []
  | flush {id : ℕ} {c : Conn} (hc : v.conns id = some c)
      (hconns : v'.conns = update v.conns id (some (c.reschedule g.config)))
      (htimers : v'.timers = flushOf id (c.reschedule g.config) :: v.timers)
      (hnext : v'.nextConnId = v.nextConnId) : Timed g v v' [.Flush id (c.reschedule g.config)]
  | submit {id : ℕ} {c c' : Conn} {p : Pending} (hc : v.conns id = some c)
      (hconns : v'.conns = update v.conns id (some c'))
      (htimers : v'.timers = timeoutOf id p :: v.timers) (hnext : v'.nextConnId = v.nextConnId)
      (hflush : flushOf id c' = flushOf id c) (hclosing : c'.closeAfterWrite = c.closeAfterWrite)
      (hpending : c'.pending = some p) (hgen : c'.timeoutGen = p.timeoutGen)
      (hlt : c.timeoutGen < p.timeoutGen) : Timed g v v' [.Timeout id p]
  | accept {c : Conn} (hconns : v'.conns = update v.conns v.nextConnId (some c))
      (htimers : v'.timers = flushOf v.nextConnId c :: v.timers)
      (hnext : v'.nextConnId = v.nextConnId + 1) (hpending : c.pending = none) :
      Timed g v v' [.Flush v.nextConnId c]
  | close (id : ℕ) (hconns : v'.conns = update v.conns id none)
      (htimers : v'.timers = v.timers) (hnext : v'.nextConnId = v.nextConnId) : Timed g v v' []

lemma Conn.enqueueGeneratedText_conn (c : Conn) (out : Out) :
    flushOf id (c.enqueueGeneratedText out).conn = flushOf id c ∧
      (c.enqueueGeneratedText out).conn.closeAfterWrite = c.closeAfterWrite ∧
      (c.enqueueGeneratedText out).conn.pending = c.pending ∧
      (c.enqueueGeneratedText out).conn.timeoutGen = c.timeoutGen := by
  unfold enqueueGeneratedText
  split_ifs <;> exact ⟨rfl, rfl, rfl, rfl⟩

lemma Conn.Serves.flushOf_eq {r : Handled} (h : c.Serves r) : flushOf id r.conn = flushOf id c := by
  rw [flushOf, flushOf, h.nextFlushMs, h.flushGen]

lemma Act.timed (h : Act g reads v l v') : Timed g v v' l := by
  cases h with
  | read hc _ hr | write hc hr =>
    exact .serve hc rfl rfl rfl hr.flushOf_eq hr.closing (fun p hp => hr.pending ▸ hp)
      hr.timeoutGen.ge
  | accept now jitter => exact .accept rfl rfl rfl rfl
  | close id => exact .close id rfl rfl rfl
  | @answer id c p out hc hp hout =>
    obtain ⟨hflush, hclosing, hpending, hgen⟩ := enqueueGeneratedText_conn (c.setPending none) out
    exact .serve hc rfl rfl rfl hflush hclosing.trans
      (fun p hp => by cases hpending.symm.trans hp) hgen.ge
  | flush hc hopen => exact .flush hc rfl rfl rfl
  | submit hc hopen hnone hgen =>
    exact .submit hc rfl rfl rfl rfl rfl rfl rfl (hgen ▸ Nat.lt_succ_self _)
  | @refuse id c hc hopen hnone err =>
    obtain ⟨hflush, hclosing, hpending, hgen⟩ := enqueueGeneratedText_conn
      (({ c with timeoutGen := c.timeoutGen + 1 } : Conn).drain.setPending none) (.Error err)
    exact .serve hc rfl rfl rfl hflush hclosing.trans
      (fun p hp => by cases hpending.symm.trans hp) ((Nat.le_succ _).trans hgen.ge)

lemma Timed.timers (h : Timed g v v' l) : v'.timers = l.map Push.timer ++ v.timers := by
  cases h with
  | serve _ _ htimers | flush _ _ htimers | submit _ _ htimers | accept _ htimers
  | close _ _ htimers => exact htimers

lemma Acts.timers (h : Acts g reads v l v') : v'.timers.Perm (l.map Push.timer ++ v.timers) := by
  induction h with
  | refl v => exact .refl _
  | @head v v₁ v' l l' hact _ ih =>
    rw [hact.timed.timers] at ih
    rw [map_append, append_assoc]
    exact ih.trans (perm_append_comm_assoc ..)

lemma conns_of_update {conns conns' : ℕ → Option Conn} {x : Option Conn} {j : ℕ} {d : Conn}
    (h : conns' = update conns id x) (hj : j ≠ id) (hd : conns' j = some d) :
    conns j = some d := by
  rw [h] at hd
  simpa [hj] using hd

lemma conns_of_close {conns conns' : ℕ → Option Conn} {j : ℕ} {d : Conn}
    (h : conns' = update conns id none) (hd : conns' j = some d) : conns j = some d := by
  refine conns_of_update h ?_ hd
  rintro rfl
  simp [h] at hd

structure Below (v : View) : Prop where
  below : ∀ id c, v.conns id = some c → id < v.nextConnId

lemma Below.update {x : Option Conn} (h : Below v)
    (hconns : v'.conns = update v.conns id x) (hnext : v.nextConnId ≤ v'.nextConnId)
    (hid : id < v'.nextConnId) : Below v' where
  below j d hd := by
    by_cases hj : j = id
    · exact hj ▸ hid
    · exact (h.below j d (conns_of_update hconns hj hd)).trans_le hnext

lemma Timed.below (ht : Timed g v v' l) (h : Below v) : Below v' := by
  cases ht with
  | serve hc hconns _ hnext | flush hc hconns _ hnext | submit hc hconns _ hnext =>
    exact h.update hconns hnext.ge (hnext ▸ h.below _ _ hc)
  | accept hconns _ hnext => exact h.update hconns (by omega) (by omega)
  | close id hconns _ hnext =>
    exact ⟨fun j d hd => hnext ▸ h.below j d (conns_of_close hconns hd)⟩

/-! ## Flushes -/

def isFlush (id gen : ℕ) (t : Timer) : Bool := t.token = id ∧ t.kind = .Flush ∧ t.gen = gen

@[simp] lemma isFlush_flushOf (id gen j : ℕ) (c : Conn) :
    isFlush id gen (flushOf j c) = decide (j = id ∧ c.flushGen = gen) := by
  simp [isFlush, flushOf]

structure Clocked (v : View) (owed : List Push) : Prop extends Below v where
  token : ∀ t ∈ v.timers, t.token < v.nextConnId
  gen : ∀ t ∈ v.timers, t.kind = .Flush → ∀ c, v.conns t.token = some c → t.gen ≤ c.flushGen
  flush : ∀ id c, v.conns id = some c → c.closeAfterWrite = false → (∀ d, .Flush id d ∉ owed) →
    v.timers.filter (isFlush id c.flushGen) = [flushOf id c]

lemma Clocked.mono (h : Clocked v []) (owed : List Push) : Clocked v owed :=
  { h with flush := fun id c hc hopen _ => h.flush id c hc hopen (by simp) }

lemma Clocked.serve {c' : Conn} (new : List Timer) (h : Clocked v owed) (hbelow : Below v')
    (hc : v.conns id = some c) (hconns : v'.conns = update v.conns id (some c'))
    (htimers : v'.timers = new ++ v.timers) (hnext : v'.nextConnId = v.nextConnId)
    (hflush : flushOf id c' = flushOf id c)
    (hclosing : c.closeAfterWrite = true → c'.closeAfterWrite = true)
    (hnew : ∀ t ∈ new, t.token = id ∧ t.kind = .Timeout) : Clocked v' owed := by
  have hgen : c'.flushGen = c.flushGen := congrArg Timer.gen hflush
  have hnone : ∀ j gen, new.filter (isFlush j gen) = [] := by
    intro j gen
    refine filter_eq_nil_iff.mpr fun t ht hflush => ?_
    cases (hnew t ht).2.symm.trans (of_decide_eq_true hflush).2.1
  have hself : v'.conns id = some c' := by simp [hconns]
  refine ⟨hbelow, ?_, ?_, ?_⟩
  · intro t ht
    rw [htimers] at ht
    rw [hnext]
    rcases mem_append.mp ht with ht | ht
    · exact (hnew t ht).1 ▸ h.below id c hc
    · exact h.token t ht
  · intro t ht hkind d hd
    rw [htimers] at ht
    rcases mem_append.mp ht with ht | ht
    · cases (hnew t ht).2.symm.trans hkind
    · by_cases hj : t.token = id
      · obtain rfl := Option.some.inj (hself.symm.trans (hj ▸ hd))
        exact hgen ▸ h.gen t ht hkind c (hj ▸ hc)
      · exact h.gen t ht hkind d (conns_of_update hconns hj hd)
  · intro j d hd hopen howed
    rw [htimers, filter_append, hnone, nil_append]
    by_cases hj : j = id
    · subst hj
      cases hself.symm.trans hd
      rw [hgen, hflush]
      refine h.flush j c hc ?_ howed
      by_contra hclose
      cases (hclosing (Bool.eq_true_of_not_eq_false hclose)).symm.trans hopen
    · exact h.flush j d (conns_of_update hconns hj hd) hopen howed

lemma Clocked.schedule (h : Clocked v (.Flush id c :: owed)) (hbelow : Below v')
    (hconns : v'.conns = update v.conns id (some c))
    (htimers : v'.timers = flushOf id c :: v.timers) (hnext : v.nextConnId ≤ v'.nextConnId)
    (hfresh : ∀ t ∈ v.timers, t.token = id → t.kind = .Flush → t.gen < c.flushGen) :
    Clocked v' owed := by
  have hself : v'.conns id = some c := by simp [hconns]
  refine ⟨hbelow, ?_, ?_, ?_⟩
  · intro t ht
    rw [htimers] at ht
    rcases mem_cons.mp ht with rfl | ht
    · exact hbelow.below id c hself
    · exact (h.token t ht).trans_le hnext
  · intro t ht hkind d hd
    rw [htimers] at ht
    by_cases hj : t.token = id
    · obtain rfl := Option.some.inj (hself.symm.trans (hj ▸ hd))
      rcases mem_cons.mp ht with rfl | ht
      · exact le_rfl
      · exact (hfresh t ht hj hkind).le
    · rcases mem_cons.mp ht with rfl | ht
      · exact absurd rfl hj
      · exact h.gen t ht hkind d (conns_of_update hconns hj hd)
  · intro j d hd hopen howed
    rw [htimers, filter_cons]
    by_cases hj : j = id
    · subst hj
      cases hself.symm.trans hd
      have hold : v.timers.filter (isFlush j c.flushGen) = [] := by
        refine filter_eq_nil_iff.mpr fun t ht hflush => ?_
        obtain ⟨htoken, hkind, hgen⟩ := of_decide_eq_true hflush
        exact absurd hgen (hfresh t ht htoken hkind).ne
      simp [hold]
    · have howed' : ∀ e, .Flush j e ∉ Push.Flush id c :: owed := by
        intro e hmem
        rcases mem_cons.mp hmem with heq | hmem
        · exact hj (Push.Flush.inj heq).1
        · exact howed e hmem
      simpa [Ne.symm hj] using h.flush j d (conns_of_update hconns hj hd) hopen howed'

lemma Timed.clocked (ht : Timed g v v' l) (h : Clocked v (l ++ owed)) : Clocked v' owed := by
  have hbelow := ht.below h.toBelow
  cases ht with
  | serve hc hconns htimers hnext hflush hclosing _ _ =>
    exact h.serve [] hbelow hc hconns htimers hnext hflush hclosing (by simp)
  | @submit id c c' p hc hconns htimers hnext hflush hclosing _ _ _ =>
    have h' : Clocked v owed :=
      { h with
        flush := fun j d hd hopen howed => h.flush j d hd hopen (by simpa using howed) }
    refine h'.serve [timeoutOf id p] hbelow hc hconns htimers hnext hflush hclosing.trans ?_
    simp [timeoutOf]
  | @flush id c hc hconns htimers hnext =>
    refine h.schedule hbelow hconns htimers hnext.ge ?_
    rintro t ht rfl hkind
    exact Nat.lt_succ_of_le (h.gen t ht hkind c hc)
  | accept hconns htimers hnext _ =>
    refine h.schedule hbelow hconns htimers (by omega) fun t ht htoken _ => ?_
    exact absurd htoken (h.token t ht).ne
  | close id hconns htimers hnext =>
    refine ⟨hbelow, fun t ht => hnext ▸ h.token t (htimers ▸ ht), ?_, ?_⟩
    · intro t ht hkind d hd
      exact h.gen t (htimers ▸ ht) hkind d (conns_of_close hconns hd)
    · intro j d hd hopen howed
      rw [htimers]
      exact h.flush j d (conns_of_close hconns hd) hopen howed

lemma Acts.clocked (ha : Acts g reads v l v') (h : Clocked v l) : Clocked v' [] := by
  induction ha with
  | refl v => exact h
  | head hact _ ih => exact ih (hact.timed.clocked h)

namespace Server

variable {s t : Server} {e : Event} {timer : Timer} {now : Ms}

lemma reads_true (s : Server) (e : Event) : s.Reads (fun _ => True) e := by
  cases e with
  | Timer timer now io => trivial
  | Ready token events io => exact fun _ _ _ _ _ => trivial

lemma clocked_popped (h : Clocked s.view []) :
    Clocked { s.view with timers := s.timers.erase timer } (s.pushes g timer now) := by
  refine ⟨⟨h.below⟩, fun t ht => h.token t (mem_of_mem_erase ht), ?_, ?_⟩
  · exact fun t ht => h.gen t (mem_of_mem_erase ht)
  · intro id c hc hopen howed
    have hother : isFlush id c.flushGen timer = false := by
      rw [Bool.eq_false_iff]
      intro hflush
      obtain ⟨rfl, hkind, hgen⟩ := of_decide_eq_true hflush
      refine howed (c.reschedule g.config) ?_
      have hconn : s.conns timer.token = some c := hc
      rw [pushes, hconn]
      simp [hkind, hgen, hopen]
    show (s.timers.erase timer).filter (isFlush id c.flushGen) = [flushOf id c]
    rw [← erase_filter, erase_of_not_mem]
    · exact h.flush id c hc hopen (by simp)
    · intro hmem
      cases (mem_filter.mp hmem).2.symm.trans hother

lemma conns_create (g : Setup) (id : ℕ) : (create g).view.conns id ≠ some c :=
  (Option.some_ne_none c).symm

lemma timers_create (g : Setup) (t : Timer) : t ∉ (create g).view.timers :=
  not_mem_nil

lemma below_create (g : Setup) : Below (create g).view where
  below id _ hc := absurd hc (conns_create g id)

lemma clocked_inductive (g : Setup) : (server g).Inductive fun s => Clocked s.view [] where
  init := by
    rintro s rfl
    exact {
      below_create g with
      token := fun t ht => absurd ht (timers_create g t)
      gen := fun t ht => absurd ht (timers_create g t)
      flush := fun id c hc => absurd hc (conns_create g id) }
  step := by
    intro s e t h hstep
    obtain ⟨l, hacts, -, hl⟩ := step_acts (reads_true s e) hstep
    cases e with
    | Timer timer now io =>
      rw [hl timer now io rfl] at hacts
      exact hacts.clocked (clocked_popped h)
    | Ready token events io => exact hacts.clocked (h.mono l)

end Server

/-! ## Timeouts -/

def loggedStep (g : Setup) (s : Server × List (ℕ × Pending)) (e : Event) :
    Option (Server × List (ℕ × Pending)) :=
  (s.1.step g e).map fun t => (t, s.2 ++ s.1.submission g e)

def logged (g : Setup) : TransitionSystem (Server × List (ℕ × Pending)) Event :=
  TransitionSystem.ofFun (Server.create g, []) (loggedStep g)

structure Recorded (v : View) (log : List (ℕ × Pending)) : Prop extends Below v where
  accepted : ∀ b ∈ log, b.1 < v.nextConnId
  gen : ∀ b ∈ log, ∀ c, v.conns b.1 = some c → b.2.timeoutGen ≤ c.timeoutGen
  nodup : (log.map fun b => (b.1, b.2.timeoutGen)).Nodup
  pending : ∀ id c p, v.conns id = some c → c.pending = some p → (id, p) ∈ log
  timer : ∀ t ∈ v.timers, t.kind = .Timeout → ∃ b ∈ log, t = timeoutOf b.1 b.2

variable {log : List (ℕ × Pending)}

lemma Recorded.serve {c' : Conn} (h : Recorded v log) (hbelow : Below v')
    (hc : v.conns id = some c) (hconns : v'.conns = update v.conns id (some c'))
    (htimers : ∀ t ∈ v'.timers, t.kind = .Timeout → t ∈ v.timers)
    (hnext : v'.nextConnId = v.nextConnId)
    (hpending : ∀ p, c'.pending = some p → c.pending = some p)
    (hgen : c.timeoutGen ≤ c'.timeoutGen) : Recorded v' log := by
  have hself : v'.conns id = some c' := by simp [hconns]
  refine ⟨hbelow, fun b hb => hnext ▸ h.accepted b hb, ?_, h.nodup, ?_, ?_⟩
  · intro b hb d hd
    by_cases hj : b.1 = id
    · obtain rfl := Option.some.inj (hself.symm.trans (hj ▸ hd))
      exact (h.gen b hb c (hj ▸ hc)).trans hgen
    · exact h.gen b hb d (conns_of_update hconns hj hd)
  · intro j d p hd hp
    by_cases hj : j = id
    · subst hj
      cases hself.symm.trans hd
      exact h.pending j c p hc (hpending p hp)
    · exact h.pending j d p (conns_of_update hconns hj hd) hp
  · exact fun t ht hkind => h.timer t (htimers t ht hkind) hkind

lemma Recorded.submit {c' : Conn} {p : Pending} (h : Recorded v log) (hbelow : Below v')
    (hc : v.conns id = some c) (hconns : v'.conns = update v.conns id (some c'))
    (htimers : v'.timers = timeoutOf id p :: v.timers) (hnext : v'.nextConnId = v.nextConnId)
    (hpending : c'.pending = some p) (hgen : c'.timeoutGen = p.timeoutGen)
    (hlt : c.timeoutGen < p.timeoutGen) : Recorded v' (log ++ [(id, p)]) := by
  have hself : v'.conns id = some c' := by simp [hconns]
  refine ⟨hbelow, ?_, ?_, ?_, ?_, ?_⟩
  · intro b hb
    rcases mem_append.mp hb with hb | hb
    · exact hnext ▸ h.accepted b hb
    · obtain rfl := mem_singleton.mp hb
      exact hbelow.below id c' hself
  · intro b hb d hd
    rcases mem_append.mp hb with hb | hb
    · by_cases hj : b.1 = id
      · obtain rfl := Option.some.inj (hself.symm.trans (hj ▸ hd))
        exact hgen ▸ (h.gen b hb c (hj ▸ hc)).trans hlt.le
      · exact h.gen b hb d (conns_of_update hconns hj hd)
    · obtain rfl := mem_singleton.mp hb
      cases hself.symm.trans hd
      exact hgen.ge
  · rw [map_append, nodup_append']
    refine ⟨h.nodup, nodup_singleton _, fun k hk hk' => ?_⟩
    obtain ⟨b, hb, rfl⟩ := mem_map.mp hk
    obtain ⟨hid, heq⟩ := Prod.ext_iff.mp (mem_singleton.mp hk')
    exact absurd heq ((h.gen b hb c (hid ▸ hc)).trans_lt hlt).ne
  · intro j d q hd hq
    by_cases hj : j = id
    · subst hj
      cases hself.symm.trans hd
      cases hpending.symm.trans hq
      exact mem_append_right _ (mem_singleton.mpr rfl)
    · exact mem_append_left _ (h.pending j d q (conns_of_update hconns hj hd) hq)
  · intro t ht hkind
    rw [htimers] at ht
    rcases mem_cons.mp ht with rfl | ht
    · exact ⟨(id, p), by simp, rfl⟩
    · obtain ⟨b, hb, heq⟩ := h.timer t ht hkind
      exact ⟨b, mem_append_left _ hb, heq⟩

lemma mem_of_flushOf_cons {timers : List Timer} {t : Timer} (ht : t ∈ flushOf id c :: timers)
    (hkind : t.kind = .Timeout) : t ∈ timers := by
  rcases mem_cons.mp ht with rfl | ht
  · cases hkind
  · exact ht

lemma Timed.recorded (ht : Timed g v v' l) (h : Recorded v log) :
    Recorded v' (log ++ l.filterMap Push.batch?) := by
  have hbelow := ht.below h.toBelow
  cases ht with
  | serve hc hconns htimers hnext _ _ hpending hgen =>
    rw [filterMap_nil, append_nil]
    exact h.serve hbelow hc hconns (fun t ht _ => htimers ▸ ht) hnext hpending hgen
  | @flush id c hc hconns htimers hnext =>
    have hlog : log ++ [Push.Flush id (c.reschedule g.config)].filterMap Push.batch? = log :=
      append_nil log
    rw [hlog]
    exact h.serve hbelow hc hconns (fun t ht => mem_of_flushOf_cons (htimers ▸ ht)) hnext
      (fun _ hp => hp) le_rfl
  | submit hc hconns htimers hnext _ _ hpending hgen hlt =>
    exact h.submit hbelow hc hconns htimers hnext hpending hgen hlt
  | @accept c hconns htimers hnext hpending =>
    have hlog : log ++ [Push.Flush v.nextConnId c].filterMap Push.batch? = log :=
      append_nil log
    rw [hlog]
    refine ⟨hbelow, fun b hb => hnext ▸ Nat.lt_succ_of_lt (h.accepted b hb), ?_, h.nodup, ?_, ?_⟩
    · exact fun b hb d hd => h.gen b hb d (conns_of_update hconns (h.accepted b hb).ne hd)
    · intro j d p hd hp
      by_cases hj : j = v.nextConnId
      · have hself : v'.conns v.nextConnId = some c := by simp [hconns]
        obtain rfl := Option.some.inj (hself.symm.trans (hj ▸ hd))
        cases hpending.symm.trans hp
      · exact h.pending j d p (conns_of_update hconns hj hd) hp
    · exact fun t ht hkind => h.timer t (mem_of_flushOf_cons (htimers ▸ ht) hkind) hkind
  | close id hconns htimers hnext =>
    rw [filterMap_nil, append_nil]
    refine ⟨hbelow, fun b hb => hnext ▸ h.accepted b hb, ?_, h.nodup, ?_, ?_⟩
    · exact fun b hb d hd => h.gen b hb d (conns_of_close hconns hd)
    · exact fun j d p hd => h.pending j d p (conns_of_close hconns hd)
    · exact fun t ht => h.timer t (htimers ▸ ht)

lemma Acts.recorded (ha : Acts g reads v l v') (h : Recorded v log) :
    Recorded v' (log ++ l.filterMap Push.batch?) := by
  induction ha generalizing log with
  | refl v => simpa using h
  | head hact _ ih =>
    rw [filterMap_append, ← append_assoc]
    exact ih (hact.timed.recorded h)

lemma Recorded.popped {s : Server} (h : Recorded s.view log) (e : Event) :
    Recorded (s.popped e) log := by
  cases e with
  | Timer t now io =>
    exact ⟨⟨h.below⟩, h.accepted, h.gen, h.nodup, h.pending,
      fun t ht => h.timer t (mem_of_mem_erase ht)⟩
  | Ready token events io => exact h

lemma Recorded.step {s t : Server} {e : Event} (h : Recorded s.view log)
    (hstep : s.step g e = some t) : Recorded t.view (log ++ s.submission g e) := by
  obtain ⟨l, hacts, hl, -⟩ := Server.step_acts (Server.reads_true s e) hstep
  rw [← hl]
  exact hacts.recorded (h.popped e)

lemma recorded_create (g : Setup) : Recorded (Server.create g).view [] where
  toBelow := Server.below_create g
  accepted := by simp
  gen := by simp
  nodup := nodup_nil
  pending id _ _ hc := absurd hc (Server.conns_create g id)
  timer t ht := absurd ht (Server.timers_create g t)

lemma recorded_inductive (g : Setup) : (logged g).Inductive fun s => Recorded s.1.view s.2 where
  init := by
    rintro s rfl
    exact recorded_create g
  step := by
    rintro s e _ h hstep
    obtain ⟨t, ht, rfl⟩ := Option.map_eq_some_iff.mp hstep
    exact h.step ht

lemma reachable_of_logged {s : Server} (hs : (logged g).Reachable (s, log)) :
    (server g).Reachable s := by
  refine (TransitionSystem.Reachable.refine (P := fun _ => True) (f := Prod.fst) ?_ ?_ hs).2
  · rintro s rfl
    exact ⟨trivial, rfl⟩
  · rintro s e s' - - hstep
    obtain ⟨t, ht, rfl⟩ := Option.map_eq_some_iff.mp hstep
    exact ⟨trivial, .inr ⟨e, ht⟩⟩

lemma Recorded.eq_of_timer (h : Recorded v log) {p : Pending} {t : Timer} (hp : (id, p) ∈ log)
    (ht : t ∈ v.timers) (hkind : t.kind = .Timeout) (htoken : t.token = id)
    (hgen : t.gen = p.timeoutGen) :
    t = timeoutOf id p ∧ ∀ b ∈ log, timeoutOf b.1 b.2 = t → b = (id, p) := by
  have hsame : ∀ b ∈ log, timeoutOf b.1 b.2 = t → b = (id, p) := by
    rintro b hb rfl
    exact inj_on_of_nodup_map h.nodup hb hp (Prod.ext htoken hgen)
  obtain ⟨b, hb, rfl⟩ := h.timer t ht hkind
  exact ⟨by rw [hsame b hb rfl], hsame⟩

namespace Server

variable {s t : Server} {timer : Timer} {now : Ms} {io : Io}

lemma timeoutConn_conns (g : Setup) {gen : ℕ}
    (hok : s.timeoutConn id c now gen io = .ok t) :
    t.conns = s.conns ∨
      ∃ p, c.pending = some p ∧ p.timeoutGen = gen ∧ ∀ j ≠ id, t.conns j = s.conns j := by
  unfold timeoutConn at hok
  split at hok
  · cases hok
    exact .inl rfl
  · rename_i p hp
    split_ifs at hok with hgen
    · cases hok
      exact .inl rfl
    · obtain ⟨u, hu, rfl⟩ := exists_ok_of_map hok
      have hrule := handlerRule_acts g fun _ => True
      have hview : u.view = s.view := (hrule.forOwned (fun _ _ _ _ => hrule.freeSlot) hu).2
      have hconns : u.conns = s.conns := congrArg View.conns hview
      refine .inr ⟨p, hp, not_not.mp hgen, fun j hj => ?_⟩
      rw [← hconns]
      exact update_of_ne hj _ _

lemma step_timeout (h : Recorded s.view log) (hkind : timer.kind = .Timeout)
    (hstep : s.step g (.Timer timer now io) = some t) (hc : s.conns id = some c)
    (hne : t.conns id ≠ some c) :
    ∃ p, c.pending = some p ∧ (id, p) ∈ log ∧ timer = timeoutOf id p ∧
      ∀ b ∈ log, timeoutOf b.1 b.2 = timer → b = (id, p) := by
  rw [step] at hstep
  split_ifs at hstep with hnext
  have hmem : timer ∈ s.timers := (of_decide_eq_true hnext.1).1
  have hok := eq_ok_of_toOption hstep
  unfold processTimer at hok
  split at hok
  · cases hok
    exact absurd hc hne
  · rename_i d hd
    rw [if_neg (by simp [hkind]), if_pos hkind] at hok
    rcases timeoutConn_conns g hok with hsame | ⟨p, hp, hgen, hother⟩
    · exact absurd (hsame ▸ hc) hne
    · have hid : id = timer.token := by
        by_contra hid
        exact hne ((hother id hid).trans hc)
      subst hid
      obtain rfl : d = c := Option.some.inj (hd.symm.trans hc)
      have hlog := h.pending _ d p hc hp
      exact ⟨p, hp, hlog, h.eq_of_timer hlog hmem hkind rfl hgen.symm⟩

end Server

/-! ## The loop -/

def Timer.key (t : Timer) : Ms ×ₗ ℕ ×ₗ ℕ ×ₗ ℕ :=
  toLex (t.atMs, toLex (t.token, toLex (match t.kind with | .Flush => 0 | .Timeout => 1, t.gen)))

lemma Timer.le_iff (a b : Timer) : a.le b = true ↔ a.key ≤ b.key := by
  obtain ⟨_, _, ka, _⟩ := a
  obtain ⟨_, _, kb, _⟩ := b
  cases ka <;> cases kb <;> simp [Timer.le, Timer.key, Prod.Lex.le_iff]

namespace Server

variable {s t : Server} {timer : Timer} {now : Ms}

def peek (s : Server) : Option Timer := s.timers.find? s.isNextTimer

lemma isNextTimer_of_peek (h : s.peek = some timer) : s.isNextTimer timer = true :=
  List.find?_some h

lemma timers_eq_nil_of_peek (h : s.peek = none) : s.timers = [] := by
  by_contra hne
  obtain ⟨least, hmem, hle⟩ := s.timers.toFinset.exists_min_image Timer.key
    (toFinset_nonempty_iff _ |>.mpr hne)
  refine absurd ?_ (List.find?_eq_none.mp h least (mem_toFinset.mp hmem))
  refine decide_eq_true ⟨mem_toFinset.mp hmem, fun t ht => ?_⟩
  exact (Timer.le_iff least t).mpr (hle t (mem_toFinset.mpr ht))

def timerTurn (g : Setup) (now : Ms) (io : ℕ → Io) (turn : ℕ) (s : Server) :
    Server ⊕ Except Exn Server :=
  match s.peek with
  | none => .inr (.ok s)
  | some t =>
    if now < t.atMs then .inr (.ok s)
    else
      match { s with timers := s.timers.erase t }.processTimer g t now (io turn) with
      | .ok s => .inl s
      | .error exn => .inr (.error exn)

def processTimers (g : Setup) (s : Server) (now : Ms) (io : ℕ → Io) (fuel : ℕ) :
    Option (Except Exn Server) :=
  loop (timerTurn g now io) fuel 0 s

lemma step_of_timerTurn {io : ℕ → Io} {turn : ℕ} (h : timerTurn g now io turn s = .inl t) :
    ∃ timer, timer ∈ s.timers ∧ timer.atMs ≤ now ∧
      s.step g (.Timer timer now (io turn)) = some t := by
  unfold timerTurn at h
  split at h
  · cases h
  · rename_i timer hpeek
    split_ifs at h with hdue
    have hnext := isNextTimer_of_peek hpeek
    split at h
    · rename_i t' hok
      cases h
      refine ⟨timer, (of_decide_eq_true hnext).1, not_lt.mp hdue, ?_⟩
      rw [step, if_pos ⟨hnext, not_lt.mp hdue⟩, hok]
      rfl
    · cases h

lemma not_due_of_timerTurn {io : ℕ → Io} {turn : ℕ} (h : timerTurn g now io turn s = .inr (.ok t)) :
    t = s ∧ ∀ timer ∈ s.timers, now < timer.atMs := by
  unfold timerTurn at h
  split at h
  · rename_i hpeek
    cases h
    exact ⟨rfl, by simp [timers_eq_nil_of_peek hpeek]⟩
  · rename_i timer hpeek
    split_ifs at h with hdue
    · cases h
      refine ⟨rfl, fun t ht => hdue.trans_le ?_⟩
      have hle := (of_decide_eq_true (isNextTimer_of_peek hpeek)).2 t ht
      have hkey := (Timer.le_iff timer t).mp hle
      rcases Prod.Lex.le_iff.mp hkey with hlt | ⟨heq, -⟩
      · exact hlt.le
      · exact heq.le
    · split at h
      · cases h
      · cases h

def turnsLeft (now : Ms) (t : Timer) : ℕ :=
  match t.kind with
  | .Flush => 2 * placesDue (2 ^ 52) now.value t.atMs.value
  | .Timeout => if t.atMs ≤ now then 1 else 0

lemma turnsLeft_pos (hdue : timer.atMs ≤ now) : 0 < turnsLeft now timer := by
  unfold turnsLeft
  split
  · exact Nat.mul_pos two_pos (placesDue_pos hdue)
  · rw [if_pos hdue]
    exact Nat.one_pos

lemma turnsLeft_timeoutOf_le (p : Pending) : turnsLeft now (timeoutOf id p) ≤ 1 := by
  change (if _ then 1 else 0) ≤ 1
  split_ifs <;> omega

lemma turnsLeft_reschedule_lt (hinterval : 1 ≤ g.config.flushIntervalMs)
    (hnow : now.value < 2 ^ 53 * (g.config.flushIntervalMs : Ms).value)
    (hnonneg : 0 ≤ c.nextFlushMs) (hdue : c.nextFlushMs ≤ now) :
    turnsLeft now (flushOf id (c.reschedule g.config)) + 1 < turnsLeft now (flushOf id c) := by
  have hstart : 0 ≤ c.nextFlushMs.value := hnonneg
  have hend : c.nextFlushMs.value ≤ now.value := hdue
  have hperiod : 1 ≤ (g.config.flushIntervalMs : Ms).value :=
    Binary64.one_le_roundFinite (by exact_mod_cast hinterval)
  have hlater := Binary64.lt_roundFinite_add hstart hperiod (hend.trans_lt hnow)
  have hplace := Binary64.roundFinite_grid (hperiod.trans (le_add_of_nonneg_left hstart))
  have hlt := placesDue_lt (n := 2 ^ 52) (by norm_num) hend hlater (by exact_mod_cast hplace)
  change 2 * placesDue _ _ (Binary64.roundFinite _) + 1 < 2 * placesDue _ _ c.nextFlushMs.value
  omega

lemma flushOf_of_gen (h : Clocked s.view []) (hmem : timer ∈ s.timers)
    (hc : s.conns timer.token = some c) (hkind : timer.kind = .Flush)
    (hgen : timer.gen = c.flushGen) (hopen : c.closeAfterWrite = false) :
    timer = flushOf timer.token c := by
  have hone : timer ∈ s.timers.filter (isFlush timer.token c.flushGen) :=
    mem_filter.mpr ⟨hmem, decide_eq_true ⟨rfl, hkind, hgen⟩⟩
  have hfilter : s.timers.filter (isFlush timer.token c.flushGen) = [flushOf timer.token c] :=
    h.flush timer.token c hc hopen (by simp)
  rwa [hfilter, mem_singleton] at hone

def SinceEpoch (s : Server) : Prop := ∀ t ∈ s.timers, 0 ≤ t.atMs

lemma add_nonneg_ms {a b : Ms} (ha : 0 ≤ a) (hb : 0 ≤ b) : 0 ≤ a + b :=
  Binary64.roundFinite_nonneg (add_nonneg (show 0 ≤ a.value from ha) (show 0 ≤ b.value from hb))

lemma pushes_spec (hinterval : 1 ≤ g.config.flushIntervalMs)
    (hnow : now.value < 2 ^ 53 * (g.config.flushIntervalMs : Ms).value) (h : Clocked s.view [])
    (hepoch : s.SinceEpoch) (hmem : timer ∈ s.timers) (hdue : timer.atMs ≤ now) :
    (((s.pushes g timer now).map Push.timer).map (turnsLeft now)).sum < turnsLeft now timer ∧
      ∀ t ∈ (s.pushes g timer now).map Push.timer, 0 ≤ t.atMs := by
  unfold pushes
  split
  · exact ⟨turnsLeft_pos hdue, by simp⟩
  · rename_i c hc
    by_cases hflush : timer.kind = .Flush ∧ timer.gen = c.flushGen ∧ c.closeAfterWrite = false
    · rw [if_pos hflush]
      have htimer := flushOf_of_gen h hmem hc hflush.1 hflush.2.1 hflush.2.2
      have hat : timer.atMs = c.nextFlushMs := by rw [htimer]; rfl
      have hnonneg : 0 ≤ timer.atMs := hepoch timer hmem
      have hturns : turnsLeft now (flushOf timer.token (c.reschedule g.config)) + 1 <
          turnsLeft now (flushOf timer.token c) :=
        turnsLeft_reschedule_lt hinterval hnow (hat ▸ hnonneg) (hat ▸ hdue)
      rw [← htimer] at hturns
      have hinterval : (0 : Ms) ≤ g.config.flushIntervalMs :=
        Binary64.roundFinite_nonneg (by exact_mod_cast (zero_le_one.trans hinterval))
      have hnext : 0 ≤ (flushOf timer.token (c.reschedule g.config)).atMs :=
        add_nonneg_ms (hat ▸ hnonneg) hinterval
      refine ⟨?_, forall_mem_cons.mpr ⟨hnext, fun t ht => ?_⟩⟩
      · refine (Nat.add_le_add_left (m := 1) ?_ _).trans_lt hturns
        split_ifs
        · exact turnsLeft_timeoutOf_le _
        · exact Nat.zero_le 1
      · split_ifs at ht with hsubmit
        · rw [mem_singleton.mp ht]
          exact add_nonneg_ms (hnonneg.trans hdue) (by decide)
        · cases ht
    · rw [if_neg hflush]
      exact ⟨turnsLeft_pos hdue, by simp⟩

lemma turnsLeft_step (hinterval : 1 ≤ g.config.flushIntervalMs)
    (hnow : now.value < 2 ^ 53 * (g.config.flushIntervalMs : Ms).value) (h : Clocked s.view [])
    (hepoch : s.SinceEpoch) {io : Io} (hmem : timer ∈ s.timers) (hdue : timer.atMs ≤ now)
    (hstep : s.step g (.Timer timer now io) = some t) :
    t.SinceEpoch ∧ (t.timers.map (turnsLeft now)).sum < (s.timers.map (turnsLeft now)).sum := by
  obtain ⟨l, hacts, -, hl⟩ := step_acts (reads_true s _) hstep
  rw [hl timer now io rfl] at hacts
  have hperm : t.timers.Perm ((s.pushes g timer now).map Push.timer ++ s.timers.erase timer) :=
    hacts.timers
  obtain ⟨hlt, hnew⟩ := pushes_spec hinterval hnow h hepoch hmem hdue
  have herase := sum_map_erase (turnsLeft now) hmem
  refine ⟨fun u hu => ?_, ?_⟩
  · rcases mem_append.mp (hperm.mem_iff.mp hu) with hu | hu
    · exact hnew u hu
    · exact hepoch u (mem_of_mem_erase hu)
  · rw [(hperm.map _).sum_eq, map_append, sum_append]
    omega

lemma processTimers_stops (hinterval : 1 ≤ g.config.flushIntervalMs) (hs : (server g).Reachable s)
    (hepoch : s.SinceEpoch) (hnow : now.value < 2 ^ 53 * (g.config.flushIntervalMs : Ms).value)
    (io : ℕ → Io) :
    ∃ turns r, (∀ fuel > turns, s.processTimers g now io fuel = some r) ∧
      ∀ t, r = .ok t → (server g).Leads s t ∧ ∀ timer ∈ t.timers, now < timer.atMs := by
  have hgo : ∀ turn u u', (server g).Leads s u ∧ u.SinceEpoch →
      timerTurn g now io turn u = .inl u' →
      ((server g).Leads s u' ∧ u'.SinceEpoch) ∧
        (u'.timers.map (turnsLeft now)).sum < (u.timers.map (turnsLeft now)).sum := by
    rintro turn u u' ⟨hu, hepoch⟩ hturn
    obtain ⟨timer, hmem, hdue, hstep⟩ := step_of_timerTurn hturn
    have hclocked := (clocked_inductive g).reachable (hs.leads hu)
    obtain ⟨hepoch', hlt⟩ := turnsLeft_step hinterval hnow hclocked hepoch hmem hdue hstep
    exact ⟨⟨hu.tail ⟨_, hstep⟩, hepoch'⟩, hlt⟩
  have hstop : ∀ turn u r, (server g).Leads s u ∧ u.SinceEpoch → timerTurn g now io turn u = .inr r →
      ∀ t, r = .ok t → (server g).Leads s t ∧ ∀ timer ∈ t.timers, now < timer.atMs := by
    rintro turn u r ⟨hu, -⟩ hturn t rfl
    obtain ⟨rfl, hnot⟩ := not_due_of_timerTurn hturn
    exact ⟨hu, hnot⟩
  obtain ⟨r, hr, hloop⟩ := loop_stops (fun u => (u.timers.map (turnsLeft now)).sum) hgo hstop 0
    ⟨.refl, hepoch⟩
  exact ⟨_, r, hloop, hr⟩

end Server

theorem timers_sound {s : Server} {log : List (ℕ × Pending)} (hs : (logged g).Reachable (s, log)) :
    (∀ id c, s.conns id = some c → c.closeAfterWrite = false →
      (s.timers.filter (isFlush id c.flushGen)).length = 1) ∧
    (∀ timer now io t, timer.kind = .Timeout → s.step g (.Timer timer now io) = some t →
      ∀ id c, s.conns id = some c → t.conns id ≠ some c →
        ∃ p, c.pending = some p ∧ (id, p) ∈ log ∧ timer = timeoutOf id p ∧
          ∀ b ∈ log, timeoutOf b.1 b.2 = timer → b = (id, p)) ∧
    (1 ≤ g.config.flushIntervalMs → s.SinceEpoch → ∀ now : Ms,
      now.value < 2 ^ 53 * (g.config.flushIntervalMs : Ms).value → ∀ io, ∃ turns r,
        (∀ fuel > turns, s.processTimers g now io fuel = some r) ∧
          ∀ t, r = .ok t → (server g).Leads s t ∧ ∀ timer ∈ t.timers, now < timer.atMs) := by
  have hreach := reachable_of_logged hs
  have hclocked := (Server.clocked_inductive g).reachable hreach
  have hrecorded : Recorded s.view log := (recorded_inductive g).reachable hs
  refine ⟨fun id c hc hopen => ?_, fun timer now io t hkind hstep id c hc hne => ?_,
    fun hinterval hepoch now hnow io => Server.processTimers_stops hinterval hreach hepoch hnow io⟩
  · have hfilter : s.timers.filter (isFlush id c.flushGen) = [flushOf id c] :=
      hclocked.flush id c hc hopen (by simp)
    rw [hfilter, length_singleton]
  · exact Server.step_timeout hrecorded hkind hstep hc hne

def slowSetup : Setup :=
  { sampleSetup with config := { sampleSetup.config with flushIntervalMs := 5000 } }

theorem timers_sound_unanswered :
    ∃ s log t p, (logged slowSetup).Reachable (s, log) ∧
      s.step slowSetup (.Timer ⟨7000, 1, .Timeout, 1⟩ 7000 sampleIo) = some t ∧
      (∃ c, s.conns 1 = some c ∧ (s.timers.filter (isFlush 1 c.flushGen)).length = 1 ∧
        c.pending = some p ∧ t.conns 1 ≠ some c) ∧
      (1, p) ∈ log ∧ ⟨7000, 1, .Timeout, 1⟩ = timeoutOf 1 p ∧
      ∃ turns r, ∀ fuel > turns,
        s.processTimers slowSetup 22000 (fun _ => sampleIo) fuel = some r := by
  obtain ⟨⟨s, log⟩, hs, hepoch, c, hc, hopen, t, hstep, hne⟩ :
      ∃ s, (logged slowSetup).Reachable s ∧ (∀ t ∈ s.1.timers, 0 ≤ t.atMs) ∧
        ∃ c ∈ s.1.conns 1, c.closeAfterWrite = false ∧
          ∃ t ∈ s.1.step slowSetup (.Timer ⟨7000, 1, .Timeout, 1⟩ 7000 sampleIo),
            t.conns 1 ≠ some c :=
    TransitionSystem.Reachable.exists_of_exec
      (oneFrame ++ [.Timer ⟨5000, 1, .Flush, 0⟩ 5000 sampleIo]) (by decide +kernel)
  obtain ⟨hflush, htimeout, hloop⟩ := timers_sound hs
  obtain ⟨p, hp, hlog, heq, -⟩ := htimeout _ _ _ t rfl hstep 1 c hc hne
  have hnow : (22000 : Ms).value < 2 ^ 53 * (slowSetup.config.flushIntervalMs : Ms).value := by
    decide +kernel
  obtain ⟨turns, r, hr, -⟩ := hloop (by decide) hepoch 22000 hnow fun _ => sampleIo
  exact ⟨s, log, t, p, hs, hstep, ⟨c, hc, hflush 1 c hc hopen, hp, hne⟩, hlog, heq, turns, r, hr⟩

def tickSetup : Setup :=
  { sampleSetup with config := { sampleSetup.config with flushIntervalMs := 1 } }

def Stuck (s : Server) : Prop :=
  ∃ c, s.conns 1 = some c ∧ s.timers = [flushOf 1 c] ∧ c.nextFlushMs = 9007199254740992 ∧
    c.closeAfterWrite = false ∧ c.batchFrames = 0

lemma Stuck.timerTurn {s : Server} (h : Stuck s) (io : ℕ → Io) (turn : ℕ) :
    ∃ t, s.timerTurn tickSetup 9007199254740992 io turn = .inl t ∧ Stuck t := by
  obtain ⟨c, hc, htimers, hnext, hopen, hframes⟩ := h
  have hpeek : s.peek = some (flushOf 1 c) := by
    simp [Server.peek, Server.isNextTimer, htimers, Timer.le_iff]
  have hdue : ¬9007199254740992 < (flushOf 1 c).atMs := by simp [flushOf, hnext]
  have hsum : (9007199254740992 : Ms) + (tickSetup.config.flushIntervalMs : Ms) =
      9007199254740992 := by
    decide +kernel
  let t : Server := { s.handled 1 ⟨c.reschedule tickSetup.config, [], []⟩ with
    timers := [flushOf 1 (c.reschedule tickSetup.config)] }
  have hturn : ({ s with timers := s.timers.erase (flushOf 1 c) } : Server).processTimer tickSetup
      (flushOf 1 c) 9007199254740992 (io turn) = .ok t := by
    simp [Server.processTimer, Server.flushConn, flushOf, hc, hopen, hframes, htimers, t,
      Conn.reschedule, Server.handled]
  refine ⟨t, ?_, c.reschedule tickSetup.config, update_self 1 _ s.conns,
    rfl, ?_, hopen, hframes⟩
  · rw [Server.timerTurn, hpeek]
    dsimp only
    rw [if_neg hdue, hturn]
  · rw [Conn.reschedule, hnext, hsum]

theorem process_timers_endless :
    ∃ s log, (logged tickSetup).Reachable (s, log) ∧ 1 ≤ tickSetup.config.flushIntervalMs ∧
      s.SinceEpoch ∧ ∀ io fuel, s.processTimers tickSetup 9007199254740992 io fuel = none := by
  let s : Server := (Server.create tickSetup).acceptLoop tickSetup [(9007199254740991, 0)]
  have hs : (logged tickSetup).Reachable (s, []) :=
    .step (.start rfl) (e := .Ready listenerToken epollin
      { sampleIo with accepts := [(9007199254740991, 0)] }) rfl
  have hstuck : Stuck s := ⟨_, rfl, rfl, by decide +kernel, rfl, rfl⟩
  have hepoch : ∀ t ∈ s.timers, 0 ≤ t.atMs := by decide +kernel
  refine ⟨s, [], hs, by decide, hepoch, fun io fuel => ?_⟩
  have hloop : ∀ fuel turn (u : Server), Stuck u →
      loop (Server.timerTurn tickSetup 9007199254740992 io) fuel turn u = none := by
    intro fuel
    induction fuel with
    | zero => exact fun _ _ _ => rfl
    | succ fuel ih =>
      intro turn u hu
      obtain ⟨t, hturn, ht⟩ := hu.timerTurn io turn
      rw [loop, hturn]
      exact ih (turn + 1) t ht
  exact hloop fuel 0 s hstuck

end SttBench.OxcamlEpoll
