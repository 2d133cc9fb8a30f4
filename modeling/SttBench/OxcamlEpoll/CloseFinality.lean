import SttBench.OxcamlEpoll.Ownership
import SttBench.OxcamlEpoll.Chunks

/-! # ocaml-oxcaml-epoll: a Close is the last thing -/

namespace SttBench.OxcamlEpoll

open Conn

def polled (g : Setup) : TransitionSystem Server Event :=
  (server g).restrict fun s e => s.Reads (fun c => c.connEvents &&& epollin ≠ 0) e

variable {g : Setup} {v v' : View} {id : ℕ} {c : Conn} {r : Handled} {l : List Push}

/-! ## What an act queues -/

structure Conn.Speaks (c : Conn) (r : Handled) : Prop where
  silent : c.closeAfterWrite = true → r.out = [] ∧ r.conn.closeAfterWrite = true
  closes : ∀ code, .Close code ∈ r.out → r.conn.closeAfterWrite = true
  closeLast : CloseLast r.out

lemma Conn.speaks_enqueueGeneratedText {c₁ : Conn} {out : Out}
    (hclosing : c₁.closeAfterWrite = c.closeAfterWrite) (hout : ∀ code, out ≠ .Close code) :
    c.Speaks (c₁.enqueueGeneratedText out) := by
  unfold enqueueGeneratedText
  split_ifs with hclose
  · exact ⟨fun _ => ⟨rfl, hclose⟩, by simp, closeLast_of_not_mem (by simp)⟩
  · refine ⟨fun h => absurd (hclosing.trans h) hclose, fun code hmem => ?_, closeLast_single out⟩
    exact absurd (List.mem_singleton.mp hmem).symm (hout code)

lemma Conn.speaks_nothing {c' : Conn} (h : c.closeAfterWrite = true → c'.closeAfterWrite = true) :
    c.Speaks ⟨c', [], []⟩ :=
  ⟨fun hclosing => ⟨rfl, h hclosing⟩, by simp, closeLast_of_not_mem (by simp)⟩

inductive Told (g : Setup) (v : View) (l : List Push) : View → Prop
  | handled {id : ℕ} {c : Conn} {r : Handled} (timers : List Timer) (hc : v.conns id = some c)
      (hr : c.Speaks r) (hl : ∀ j p, .Timeout j p ∈ l → j = id ∧ c.closeAfterWrite = false) :
      Told g v l { v.handled id r with timers := timers }
  | accept (now jitter : Ms) (timers : List Timer) (hl : ∀ j p, .Timeout j p ∉ l) :
      Told g v l
        { v with
          conns := Function.update v.conns v.nextConnId (some (Conn.new g.config now jitter))
          nextConnId := v.nextConnId + 1
          timers := timers }
  | close (id : ℕ) (hl : ∀ j p, .Timeout j p ∉ l) :
      Told g v l { v with conns := Function.update v.conns id none }

lemma Act.told (h : Act g (fun c => c.connEvents &&& epollin ≠ 0) v l v') : Told g v l v' := by
  cases h with
  | read hc hreads hr =>
    have hopen := (connEvents_epollin _).mp hreads
    refine .handled v.timers hc ⟨fun hclosing => ?_, hr.closes, hr.closeLast hopen⟩ (by simp)
    cases hopen.symm.trans hclosing
  | write hc hr => exact .handled v.timers hc (speaks_nothing hr.closing) (by simp)
  | accept now jitter => exact .accept now jitter _ (by simp)
  | close id => exact .close id (by simp)
  | answer hc hp hout =>
    exact .handled v.timers hc (speaks_enqueueGeneratedText rfl hout) (by simp)
  | flush hc hopen => exact .handled _ hc (speaks_nothing fun h => h) (by simp)
  | submit hc hopen hnone hgen =>
    exact .handled _ hc (speaks_nothing fun h => h) (by simp [hopen])
  | refuse hc hopen hnone err =>
    exact .handled v.timers hc (speaks_enqueueGeneratedText rfl nofun) (by simp)

/-! ## The Close is the last thing queued -/

structure Sealed (v : View) : Prop where
  below : ∀ id c, v.conns id = some c → id < v.nextConnId
  unused : ∀ id, v.nextConnId ≤ id → (v.traces id).out = []
  closeLast : ∀ id, CloseLast (v.traces id).out
  closing : ∀ id code, .Close code ∈ (v.traces id).out → ∀ c, v.conns id = some c →
    c.closeAfterWrite = true

lemma Sealed.not_mem (h : Sealed v) (hc : v.conns id = some c) (hopen : c.closeAfterWrite = false)
    (code : ℕ) : .Close code ∉ (v.traces id).out := fun hmem => by
  cases (h.closing id code hmem c hc).symm.trans hopen

lemma Sealed.handled (h : Sealed v) (hc : v.conns id = some c) (hr : c.Speaks r)
    (timers : List Timer) : Sealed { v.handled id r with timers := timers } := by
  have hlt := h.below id c hc
  refine ⟨?_, ?_, ?_, ?_⟩
  · intro j d hd
    by_cases hj : j = id
    · exact hj ▸ hlt
    · exact h.below j d (by simpa [View.handled, hj] using hd)
  · intro j hj
    have hne : j ≠ id := by
      rintro rfl
      exact absurd hlt (not_lt.mpr hj)
    simpa [View.handled, hne] using h.unused j hj
  · intro j
    by_cases hj : j = id
    · subst hj
      simp only [View.handled, Function.update_self, Trace.extend]
      cases hopen : c.closeAfterWrite with
      | false => exact hr.closeLast.append (h.not_mem hc hopen)
      | true =>
        rw [(hr.silent hopen).1, List.append_nil]
        exact h.closeLast j
    · simpa [View.handled, hj] using h.closeLast j
  · intro j code hmem d hd
    by_cases hj : j = id
    · subst hj
      obtain rfl : r.conn = d := by simpa [View.handled] using hd
      simp only [View.handled, Function.update_self, Trace.extend] at hmem
      rcases List.mem_append.mp hmem with hmem | hmem
      · exact (hr.silent (h.closing j code hmem c hc)).2
      · exact hr.closes code hmem
    · exact h.closing j code (by simpa [View.handled, hj] using hmem) d
        (by simpa [View.handled, hj] using hd)

lemma Told.seals (ht : Told g v l v') (h : Sealed v) : Sealed v' := by
  cases ht with
  | handled timers hc hr => exact h.handled hc hr timers
  | accept now jitter timers =>
    refine ⟨?_, fun id hid => h.unused id (Nat.le_of_succ_le hid), h.closeLast, ?_⟩
    · intro id c hc
      by_cases hid : id = v.nextConnId
      · exact hid ▸ Nat.lt_succ_self _
      · exact Nat.lt_succ_of_lt (h.below id c (by simpa [hid] using hc))
    · intro id code hmem c hc
      have hid : id ≠ v.nextConnId := by
        rintro rfl
        simp [h.unused v.nextConnId (le_refl _)] at hmem
      exact h.closing id code hmem c (by simpa [hid] using hc)
  | close id =>
    have hsome : ∀ j c, Function.update v.conns id none j = some c → v.conns j = some c := by
      intro j c hc
      have hj : j ≠ id := by
        rintro rfl
        simp at hc
      simpa [hj] using hc
    exact ⟨fun j c hc => h.below j c (hsome j c hc), h.unused, h.closeLast,
      fun j code hmem c hc => h.closing j code hmem c (hsome j c hc)⟩

/-! ## Behind the Close -/

structure Closing (id : ℕ) (v : View) : Prop where
  accepted : id < v.nextConnId
  closing : ∀ c, v.conns id = some c → c.closeAfterWrite = true

lemma Told.closing (ht : Told g v l v') (h : Closing id v) :
    Closing id v' ∧ (v'.traces id).out = (v.traces id).out ∧ ∀ p, .Timeout id p ∉ l := by
  cases ht with
  | @handled j c r timers hc hr hl =>
    by_cases hj : id = j
    · subst hj
      obtain ⟨hout, hclosing⟩ := hr.silent (h.closing c hc)
      refine ⟨⟨h.accepted, fun d hd => ?_⟩, ?_, fun p hp => ?_⟩
      · obtain rfl : r.conn = d := by simpa [View.handled] using hd
        exact hclosing
      · simp [View.handled, Trace.extend, hout]
      · cases (hl id p hp).2.symm.trans (h.closing c hc)
    · refine ⟨⟨h.accepted, fun d hd => h.closing d ?_⟩, ?_, fun p hp => hj (hl id p hp).1⟩
      · simpa [View.handled, hj] using hd
      · simp [View.handled, hj]
  | accept now jitter timers hl =>
    refine ⟨⟨Nat.lt_succ_of_lt h.accepted, fun c hc => h.closing c ?_⟩, rfl, hl id⟩
    simpa [h.accepted.ne] using hc
  | close j hl =>
    refine ⟨⟨h.accepted, fun c hc => h.closing c ?_⟩, rfl, hl id⟩
    by_cases hj : id = j
    · simp [hj] at hc
    · simpa [hj] using hc

lemma Acts.sealed (ha : Acts g (fun c => c.connEvents &&& epollin ≠ 0) v l v') (h : Sealed v) :
    Sealed v' := by
  induction ha with
  | refl v => exact h
  | head hact _ ih => exact ih (hact.told.seals h)

lemma Acts.closing (ha : Acts g (fun c => c.connEvents &&& epollin ≠ 0) v l v')
    (h : Closing id v) :
    Closing id v' ∧ (v'.traces id).out = (v.traces id).out ∧ ∀ p, .Timeout id p ∉ l := by
  induction ha with
  | refl v => exact ⟨h, rfl, by simp⟩
  | head hact _ ih =>
    obtain ⟨h₁, hout₁, hl₁⟩ := hact.told.closing h
    obtain ⟨h', hout', hl'⟩ := ih h₁
    refine ⟨h', hout'.trans hout₁, fun p hp => ?_⟩
    exact (List.mem_append.mp hp).elim (hl₁ p) (hl' p)

/-! ## Whole runs -/

variable {s s' : Server} {e : Event}

lemma Sealed.popped (h : Sealed s.view) (e : Event) : Sealed (s.popped e) := by
  cases e with
  | Timer t now io => exact { h with }
  | Ready token events io => exact h

lemma sealed_inductive (g : Setup) : (polled g).Inductive fun s => Sealed s.view where
  init := by
    rintro s rfl
    refine ⟨?_, fun _ _ => rfl, fun _ => closeLast_of_not_mem ?_, ?_⟩
    · exact fun _ c hc => absurd hc (Option.some_ne_none c).symm
    · exact fun _ => List.not_mem_nil
    · exact fun _ _ hmem => absurd hmem List.not_mem_nil
  step := by
    rintro s e s' h ⟨hreads, hstep⟩
    obtain ⟨l, hacts, -⟩ := Server.step_acts hreads hstep
    exact hacts.sealed (h.popped e)

lemma Closing.step (h : Closing id s.view) (hstep : (polled g).step s e s') :
    Closing id s'.view ∧ (s'.traces id).out = (s.traces id).out ∧
      ∀ p, (id, p) ∉ s.submission g e := by
  obtain ⟨l, hacts, hl, -⟩ := Server.step_acts hstep.1 hstep.2
  have hpopped : Closing id (s.popped e) ∧ (s.popped e).traces = s.traces := by
    cases e with
    | Timer t now io => exact ⟨⟨h.accepted, h.closing⟩, rfl⟩
    | Ready token events io => exact ⟨h, rfl⟩
  obtain ⟨hclosing, hout, hnone⟩ := hacts.closing hpopped.1
  rw [hpopped.2] at hout
  refine ⟨hclosing, hout, fun p hp => ?_⟩
  rw [← hl, List.mem_filterMap] at hp
  obtain ⟨push, hpush, hbatch⟩ := hp
  cases push with
  | Flush j c => cases hbatch
  | Timeout j q =>
    obtain ⟨rfl, rfl⟩ := Prod.ext_iff.mp (Option.some.inj hbatch)
    exact hnone q hpush

lemma Closing.owner (h : Closing id s.view) (hinv : Inv g s) (hstep : s.step g e = some s')
    {idx : ℕ} (howner : s'.ownerOf idx = some id) : s.ownerOf idx = some id := by
  cases e with
  | Ready token events io =>
    exact Server.handleEvent_ownersKept (eq_ok_of_toOption hstep) idx id howner
  | Timer t now io =>
    rw [Server.step] at hstep
    split_ifs at hstep
    have hok := eq_ok_of_toOption hstep
    unfold Server.processTimer at hok
    split at hok
    · cases hok
      exact howner
    · rename_i c hc
      split_ifs at hok
      · have hgiven := Server.flushConn_givenTo hok hinv.pool idx id howner
        rcases hgiven with hsame | ⟨-, rfl⟩
        · exact hsame
        · -- a flush of this connection does nothing
          rw [Server.flushConn, if_pos (h.closing c hc)] at hok
          cases hok
          exact howner
      · have hkept := (handlerRule_ownersKept g).timeoutConn hc hok idx id howner
        exact hkept
      · cases hok
        exact howner

lemma Sealed.toClosing (h : Sealed s.view) {code : ℕ} (hclose : .Close code ∈ (s.traces id).out) :
    Closing id s.view where
  accepted := by
    by_contra hid
    have hnone : (s.traces id).out = [] := h.unused id (not_lt.mp hid)
    simp [hnone] at hclose
  closing := h.closing id code hclose

theorem close_is_final (hs : (polled g).Reachable s) {code : ℕ}
    (hclose : .Close code ∈ (s.traces id).out) :
    (∃ before, (s.traces id).out = before ++ [.Close code]) ∧
      ∀ s', (polled g).Leads s s' → (s'.traces id).out = (s.traces id).out ∧
        ∀ e s'', (polled g).step s' e s'' → (∀ p, (id, p) ∉ s'.submission g e) ∧
          ∀ idx, s''.ownerOf idx = some id → s'.ownerOf idx = some id := by
  have hsealed := (sealed_inductive g).reachable hs
  have hclosing : Closing id s.view := hsealed.toClosing hclose
  refine ⟨?_, fun s' hleads => ?_⟩
  · obtain ⟨before, behind, hout⟩ := List.append_of_mem hclose
    obtain rfl := hsealed.closeLast id before code behind hout
    exact ⟨before, hout⟩
  · have hkept : Closing id s'.view ∧ (s'.traces id).out = (s.traces id).out := by
      refine hleads.keeps (fun a e b ha hstep => ?_)
        (P := fun a : Server => Closing id a.view ∧ (a.traces id).out = (s.traces id).out)
        ⟨hclosing, rfl⟩
      obtain ⟨hb, hout, -⟩ := ha.1.step hstep
      exact ⟨hb, hout.trans ha.2⟩
    refine ⟨hkept.2, fun e s'' hstep => ⟨(hkept.1.step hstep).2.2, fun idx howner => ?_⟩⟩
    have hinv := (server_inductive g).reachable (hs.leads hleads).of_restrict
    exact hkept.1.owner hinv hstep.2 howner

instance (s : Server) (e : Event) : Decidable (s.Reads (fun c => c.connEvents &&& epollin ≠ 0) e) :=
  match e with
  | .Timer _ _ _ => inferInstanceAs (Decidable True)
  | .Ready _ _ _ => inferInstanceAs (Decidable (_ → ∀ _ ∈ _, ∀ _ ∈ _, _))

def clientCloses : List Event :=
  oneFrame ++ answered.take 3 ++
    [.Ready (firstConnToken + 1) epollin
      { sampleIo with reads := [.Data [0x88, 0x80, 0, 0, 0, 0]] }]

theorem close_is_final_lateResult :
    ∃ s s', (polled sampleSetup).Reachable s ∧ .Close 1000 ∈ (s.traces 1).out ∧
      (polled sampleSetup).Leads s s' ∧ s'.finished.length = 1 ∧
      (s'.traces 1).out = (s.traces 1).out := by
  obtain ⟨s, hr, hclose, s', hs', hfinished⟩ : ∃ s, (polled sampleSetup).Reachable s ∧
      .Close 1000 ∈ (s.traces 1).out ∧ ∃ s' ∈ TransitionSystem.exec (TransitionSystem.guarded
        (Server.Reads fun c => c.connEvents &&& epollin ≠ 0) (Server.step sampleSetup)) s
          (answered.drop 3), s'.finished.length = 1 :=
    TransitionSystem.Reachable.exists_of_guarded clientCloses (by decide +kernel)
  have hleads : (polled sampleSetup).Leads s s' := TransitionSystem.Leads.of_exec_guarded hs'
  exact ⟨s, s', hr, hclose, hleads, hfinished, ((close_is_final hr hclose).2 s' hleads).1⟩

end SttBench.OxcamlEpoll
