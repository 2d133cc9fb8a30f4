import SttBench.Core.Channel
import SttBench.Core.Tables
import SttBench.Core.TransitionSystem

/-!
# One request in flight per client, over two FIFO channels

Clients may give up on a request; the worker then drops it, or its report is never read.
-/

inductive Courier.Cmd (ω β : Type*)
  | Submit (owner : ω) (tag : ℕ) (body : β)
  | Abort (owner : ω)

structure Courier.Report (ω ρ : Type*) where
  owner : ω
  tag : ℕ
  result : ρ

structure Courier (ω β ρ : Type*) where
  /-- The request a client waits for. -/
  pend : ω → Option (ℕ × β)
  cmds : Channel (Courier.Cmd ω β)
  reports : Channel (Courier.Report ω ρ)
  /-- The request a slot works on. -/
  held : ℕ → Option (ω × ℕ × β)

namespace Courier

open Function List

variable {ω β ρ : Type*} [DecidableEq ω]

def Cmd.key : Cmd ω β → Option (ω × ℕ)
  | .Submit o t _ => some (o, t)
  | .Abort _ => none

def Cmd.owner : Cmd ω β → ω
  | .Submit o _ _ => o
  | .Abort o => o

def Report.key (r : Report ω ρ) : ω × ℕ := (r.owner, r.tag)

def start : Courier ω β ρ := ⟨fun _ => none, .empty, .empty, fun _ => none⟩

inductive Step (R : β → ρ → Prop) (s : Courier ω β ρ) : Courier ω β ρ → Prop
  /-- A client that waits for nothing sends a request under a new number. -/
  | submit (o : ω) (t : ℕ) (b : β) (hidle : s.pend o = none)
      (hfresh : (o, t) ∉ s.cmds.log.filterMap Cmd.key) :
      Step R s { s with pend := update s.pend o (some (t, b)),
                        cmds := s.cmds.send (.Submit o t b) }
  /-- A client gives up. -/
  | abort (o : ω) :
      Step R s { s with pend := update s.pend o none, cmds := s.cmds.send (.Abort o) }
  /-- A client receives the report it waits for. -/
  | deliver (r : Report ω ρ) (reports : Channel (Report ω ρ)) (b : β)
      (hrecv : s.reports.recv? = some (r, reports)) (hpend : s.pend r.owner = some (r.tag, b)) :
      Step R s { s with pend := update s.pend r.owner none, reports := reports }
  /-- A client receives a report it does not wait for. -/
  | discard (r : Report ω ρ) (reports : Channel (Report ω ρ))
      (hrecv : s.reports.recv? = some (r, reports)) : Step R s { s with reports := reports }
  /-- The worker takes a request on. -/
  | take (o : ω) (t : ℕ) (b : β) (cmds : Channel (Cmd ω β)) (i : ℕ)
      (hrecv : s.cmds.recv? = some (.Submit o t b, cmds)) (hfree : s.held i = none) :
      Step R s { s with cmds := cmds, held := update s.held i (some (o, t, b)) }
  /-- The worker answers a request at once. -/
  | refuse (o : ω) (t : ℕ) (b : β) (cmds : Channel (Cmd ω β)) (r : ρ)
      (hrecv : s.cmds.recv? = some (.Submit o t b, cmds)) (hr : R b r) :
      Step R s { s with cmds := cmds, reports := s.reports.send ⟨o, t, r⟩ }
  /-- The worker finishes a request. -/
  | finish (i : ℕ) (o : ω) (t : ℕ) (b : β) (r : ρ) (hheld : s.held i = some (o, t, b))
      (hr : R b r) :
      Step R s { s with held := update s.held i none,
                        reports := s.reports.send ⟨o, t, r⟩ }
  /-- The worker drops what it works on for a client that has given up. -/
  | cancel (o : ω) (cmds : Channel (Cmd ω β)) (held : ℕ → Option (ω × ℕ × β))
      (hrecv : s.cmds.recv? = some (.Abort o, cmds))
      (hsub : ∀ i x, held i = some x → s.held i = some x)
      (hgone : ∀ i t b, held i ≠ some (o, t, b))
      (hkeep : ∀ i x, s.held i = some x → x.1 ≠ o → held i = some x) :
      Step R s { s with cmds := cmds, held := held }

def system (R : β → ρ → Prop) : TransitionSystem (Courier ω β ρ) Unit where
  init s := s = start
  step s _ s' := Step R s s'

/-! ## Alternation -/

def Alternates (o : ω) : Option ℕ → List (Cmd ω β) → Option ℕ → Prop
  | busy, [], p => ∀ t, busy = some t → p = some t
  | busy, .Submit o' t _ :: q, p =>
    if o' = o then busy = none ∧ Alternates o (some t) q p else Alternates o busy q p
  | busy, .Abort o' :: q, p => if o' = o then Alternates o none q p else Alternates o busy q p

section Alternation

variable {o : ω} {busy p : Option ℕ} {q : List (Cmd ω β)}

lemma Alternates.emptied (h : Alternates o busy q p) : Alternates o none q p := by
  induction q with
  | nil => exact fun t ht => by simp at ht
  | cons cmd q ih =>
    cases cmd with
    | Submit o' t b =>
      simp only [Alternates] at h ⊢
      split_ifs at h ⊢ with ho
      · exact ⟨trivial, h.2⟩
      · exact ih h
    | Abort o' =>
      simp only [Alternates] at h ⊢
      split_ifs at h ⊢ with ho
      · exact h
      · exact ih h

variable {cmd : Cmd ω β}

lemma Alternates.concat {p' : Option ℕ}
    (hend : ∀ busy, Alternates o busy ([] : List (Cmd ω β)) p → Alternates o busy [cmd] p')
    (h : Alternates o busy q p) : Alternates o busy (q ++ [cmd]) p' := by
  induction q generalizing busy with
  | nil => exact hend busy h
  | cons c q ih =>
    cases c with
    | Submit o' t b =>
      simp only [Alternates, cons_append] at h ⊢
      split_ifs at h ⊢ with ho
      · exact ⟨h.1, ih h.2⟩
      · exact ih h
    | Abort o' =>
      simp only [Alternates, cons_append] at h ⊢
      split_ifs at h ⊢ with ho
      · exact ih h
      · exact ih h

lemma Alternates.submit (h : Alternates o busy q none) (t : ℕ) (b : β) :
    Alternates o busy (q ++ [.Submit o t b]) (some t) := by
  refine h.concat fun busy hb => ?_
  simp only [Alternates, if_true, Option.some.injEq, forall_eq', and_true]
  cases busy with
  | none => rfl
  | some t => exact absurd (hb t rfl) (by simp)

lemma Alternates.abort (h : Alternates o busy q p) :
    Alternates o busy (q ++ [.Abort o]) none := by
  refine h.concat fun busy _ => ?_
  simp [Alternates]

lemma alternates_cons_other (hne : cmd.owner ≠ o) :
    Alternates o busy (cmd :: q) p ↔ Alternates o busy q p := by
  cases cmd <;> simp only [Cmd.owner] at hne <;> simp only [Alternates, if_neg hne]

lemma Alternates.other (h : Alternates o busy q p) (hne : cmd.owner ≠ o) :
    Alternates o busy (q ++ [cmd]) p :=
  h.concat fun _ hb => (alternates_cons_other hne).mpr hb

lemma Alternates.delivered {t : ℕ} (h : Alternates o busy q (some t)) (hbusy : busy ≠ some t)
    (hq : (o, t) ∉ q.filterMap Cmd.key) : Alternates o busy q none := by
  induction q generalizing busy with
  | nil =>
    intro t' ht'
    exact absurd (ht'.trans (h t' ht').symm) hbusy
  | cons c q ih =>
    cases c with
    | Submit o' t' b =>
      simp only [filterMap_cons, Cmd.key, mem_cons, not_or] at hq
      simp only [Alternates] at h ⊢
      split_ifs at h ⊢ with ho
      · refine ⟨h.1, ih h.2 (fun heq => hq.1 ?_) hq.2⟩
        rw [ho, Option.some.inj heq]
      · exact ih h hbusy hq.2
    | Abort o' =>
      simp only [filterMap_cons, Cmd.key] at hq
      simp only [Alternates] at h ⊢
      split_ifs at h ⊢ with ho
      · exact ih h (by simp) hq
      · exact ih h hbusy hq

end Alternation

/-! ## The invariant -/

structure Inv (R : β → ρ → Prop) (s : Courier ω β ρ) : Prop where
  submits_nodup : (s.cmds.log.filterMap Cmd.key).Nodup
  pend_sent : ∀ o t b, s.pend o = some (t, b) → .Submit o t b ∈ s.cmds.log
  held_received : ∀ i o t b, s.held i = some (o, t, b) → .Submit o t b ∈ s.cmds.taken
  held_inj : ∀ i j o t t' b b', s.held i = some (o, t, b) → s.held j = some (o, t', b') → i = j
  held_unreported : ∀ i o t b, s.held i = some (o, t, b) → (o, t) ∉ s.reports.log.map Report.key
  reported : ∀ r ∈ s.reports.log, ∃ b, .Submit r.owner r.tag b ∈ s.cmds.taken ∧ R b r.result
  reports_nodup : (s.reports.log.map Report.key).Nodup
  alternates : ∀ o, Alternates o none s.cmds.unread ((s.pend o).map Prod.fst)
  alternates_held : ∀ i o t b, s.held i = some (o, t, b) →
    Alternates o (some t) s.cmds.unread ((s.pend o).map Prod.fst)

section Invariant

variable {R : β → ρ → Prop} {s s' : Courier ω β ρ}
variable {b : β} {o : ω} {t : ℕ} {r : Report ω ρ} {cmds : Channel (Cmd ω β)}

lemma Inv.not_mem_unread (h : Inv R s) (hb : .Submit o t b ∈ s.cmds.taken) :
    (o, t) ∉ s.cmds.unread.filterMap Cmd.key := by
  have hnd := h.submits_nodup
  rw [← s.cmds.taken_append_unread, filterMap_append] at hnd
  exact fun hmem => (nodup_append.mp hnd).2.2 (o, t)
    (mem_filterMap.mpr ⟨_, hb, rfl⟩) (o, t) hmem rfl

lemma Inv.body_unique (h : Inv R s) {b b' : β} (hb : .Submit o t b ∈ s.cmds.log)
    (hb' : .Submit o t b' ∈ s.cmds.log) : b = b' := by
  have hinj : ∀ l : List (Cmd ω β), (l.filterMap Cmd.key).Nodup → .Submit o t b ∈ l →
      .Submit o t b' ∈ l → b = b' := by
    intro l
    induction l with
    | nil => simp
    | cons cmd l ih =>
      intro hnd hb hb'
      have hkey : ∀ b, .Submit o t b ∈ l → (o, t) ∈ l.filterMap Cmd.key := fun b hb =>
        mem_filterMap.mpr ⟨_, hb, rfl⟩
      rcases mem_cons.mp hb with rfl | hl <;> rcases mem_cons.mp hb' with hc | hl'
      · simpa using hc.symm
      · exact absurd (hkey b' hl') (nodup_cons.mp hnd).1
      · subst hc
        exact absurd (hkey b hl) (nodup_cons.mp hnd).1
      · exact ih (hnd.sublist ((sublist_cons_self _ _).filterMap _)) hl hl'
  exact hinj _ h.submits_nodup hb hb'

theorem Inv.answers (h : Inv R s) (hr : r ∈ s.reports.log)
    (hpend : s.pend r.owner = some (r.tag, b)) : R b r.result := by
  obtain ⟨b', hb', hR⟩ := h.reported r hr
  rwa [h.body_unique (h.pend_sent _ _ _ hpend) (Channel.mem_log_of_mem_taken hb')]

lemma Inv.start : Inv R (start : Courier ω β ρ) := by
  constructor <;> simp [Courier.start, Channel.empty, Alternates, Channel.unread]

lemma Inv.submit (h : Inv R s) (hidle : s.pend o = none)
    (hfresh : (o, t) ∉ s.cmds.log.filterMap Cmd.key) :
    Inv R { s with pend := update s.pend o (some (t, b)),
                   cmds := s.cmds.send (.Submit o t b) } := by
  have halt : ∀ {o' : ω} {busy : Option ℕ},
      Alternates o' busy s.cmds.unread ((s.pend o').map Prod.fst) →
      Alternates o' busy (s.cmds.send (.Submit o t b)).unread
        ((update s.pend o (some (t, b)) o').map Prod.fst) := by
    intro o' busy ha
    rw [Channel.unread_send]
    by_cases ho : o' = o
    · subst ho
      rw [hidle] at ha
      simpa using Alternates.submit ha t b
    · rw [update_of_ne ho]
      exact ha.other (Ne.symm ho)
  refine { h with
    submits_nodup := ?_, pend_sent := ?_, held_received := ?_, reported := ?_,
    alternates := fun o' => halt (h.alternates o'),
    alternates_held := fun i o' t' b' hi => halt (h.alternates_held i o' t' b' hi) }
  · rw [Channel.send_log, filterMap_append]
    exact nodup_append.mpr ⟨h.submits_nodup, by simp [Cmd.key], fun x hx y hy => by
      obtain rfl : y = (o, t) := by simpa [Cmd.key] using hy
      exact fun heq => hfresh (heq ▸ hx)⟩
  · intro o' t' b' hp
    rw [Channel.send_log]
    obtain ⟨rfl, ⟨⟩⟩ | ⟨-, hp⟩ := Tables.update_some_iff.mp hp
    · simp
    · exact mem_append_left _ (h.pend_sent o' t' b' hp)
  · simpa using h.held_received
  · simpa using h.reported

lemma Inv.abort (h : Inv R s) (o : ω) :
    Inv R { s with pend := update s.pend o none, cmds := s.cmds.send (.Abort o) } := by
  have halt : ∀ {o' : ω} {busy : Option ℕ},
      Alternates o' busy s.cmds.unread ((s.pend o').map Prod.fst) →
      Alternates o' busy (s.cmds.send (.Abort o)).unread
        ((update s.pend o none o').map Prod.fst) := by
    intro o' busy ha
    rw [Channel.unread_send]
    by_cases ho : o' = o
    · subst ho
      simpa using ha.abort
    · rw [update_of_ne ho]
      exact ha.other (Ne.symm ho)
  refine { h with
    submits_nodup := ?_, pend_sent := ?_, held_received := ?_, reported := ?_,
    alternates := fun o' => halt (h.alternates o'),
    alternates_held := fun i o' t' b' hi => halt (h.alternates_held i o' t' b' hi) }
  · simp only [Channel.send_log, filterMap_append, filterMap_cons, Cmd.key,
      filterMap_nil, append_nil]
    exact h.submits_nodup
  · intro o' t' b' hp
    exact mem_append_left _ (h.pend_sent o' t' b' (Tables.update_none_iff.mp hp).2)
  · simpa using h.held_received
  · simpa using h.reported

lemma Inv.discard (h : Inv R s) {reports : Channel (Report ω ρ)}
    (hrecv : s.reports.recv? = some (r, reports)) : Inv R { s with reports := reports } := by
  obtain ⟨hlog, -, -, -⟩ := Channel.recv?_eq_some hrecv
  exact { h with
    held_unreported := hlog ▸ h.held_unreported
    reported := hlog ▸ h.reported
    reports_nodup := hlog ▸ h.reports_nodup }

lemma Inv.deliver (h : Inv R s) {reports : Channel (Report ω ρ)}
    (hrecv : s.reports.recv? = some (r, reports)) (hpend : s.pend r.owner = some (r.tag, b)) :
    Inv R { s with pend := update s.pend r.owner none, reports := reports } := by
  obtain ⟨-, -, hunread, -⟩ := Channel.recv?_eq_some hrecv
  have hr : r ∈ s.reports.log := by
    rw [← s.reports.taken_append_unread, hunread]
    simp
  -- the request has been reported, so it is neither unread nor held
  obtain ⟨b', hb', -⟩ := h.reported r hr
  have hq := h.not_mem_unread hb'
  have halt : ∀ {o' : ω} {busy : Option ℕ}, (o' = r.owner → busy ≠ some r.tag) →
      Alternates o' busy s.cmds.unread ((s.pend o').map Prod.fst) →
      Alternates o' busy s.cmds.unread
        ((update s.pend r.owner none o').map Prod.fst) := by
    intro o' busy hbusy ha
    by_cases ho : o' = r.owner
    · subst ho
      rw [hpend] at ha
      simpa using Alternates.delivered ha (hbusy rfl) hq
    · rwa [update_of_ne ho]
  refine { h.discard hrecv with
    pend_sent := ?_
    alternates := fun o' => halt (by simp) (h.alternates o')
    alternates_held := fun i o' t' b' hi => halt ?_ (h.alternates_held i o' t' b' hi) }
  · intro o' t' b' hp
    exact h.pend_sent o' t' b' (Tables.update_none_iff.mp hp).2
  · rintro rfl ht
    cases ht
    exact h.held_unreported i _ _ _ hi (mem_map.mpr ⟨r, hr, rfl⟩)

lemma Inv.next_request (h : Inv R s) (hrecv : s.cmds.recv? = some (.Submit o t b, cmds)) :
    (o, t) ∉ s.reports.log.map Report.key ∧ (∀ i t' b', s.held i ≠ some (o, t', b')) ∧
      Alternates o (some t) cmds.unread ((s.pend o).map Prod.fst) := by
  obtain ⟨-, -, hunread, -⟩ := Channel.recv?_eq_some hrecv
  have hkey : (o, t) ∈ s.cmds.unread.filterMap Cmd.key := by
    rw [hunread]
    exact mem_cons_self
  refine ⟨fun hmem => ?_, fun i t' b' hi => ?_, ?_⟩
  · obtain ⟨r, hr, hrkey⟩ := mem_map.mp hmem
    cases hrkey
    obtain ⟨b', hb', -⟩ := h.reported r hr
    exact h.not_mem_unread hb' hkey
  · have ha := h.alternates_held i o t' b' hi
    rw [hunread] at ha
    simp [Alternates] at ha
  · have ha := h.alternates o
    rw [hunread] at ha
    simpa [Alternates] using ha

lemma Inv.alternates_recv (h : Inv R s) {cmd : Cmd ω β}
    (hrecv : s.cmds.recv? = some (cmd, cmds)) (o : ω) :
    Alternates o none cmds.unread ((s.pend o).map Prod.fst) := by
  obtain ⟨-, -, hunread, -⟩ := Channel.recv?_eq_some hrecv
  have ha := h.alternates o
  rw [hunread] at ha
  by_cases ho : cmd.owner = o
  · cases cmd with
    | Submit o' t b =>
      obtain rfl : o' = o := ho
      exact (h.next_request hrecv).2.2.emptied
    | Abort o' =>
      obtain rfl : o' = o := ho
      simpa [Alternates] using ha
  · exact (alternates_cons_other ho).mp ha

lemma Inv.alternates_held_recv (h : Inv R s) {cmd : Cmd ω β}
    (hrecv : s.cmds.recv? = some (cmd, cmds)) {i : ℕ}
    (hi : s.held i = some (o, t, b)) (ho : cmd.owner ≠ o) :
    Alternates o (some t) cmds.unread ((s.pend o).map Prod.fst) := by
  obtain ⟨-, -, hunread, -⟩ := Channel.recv?_eq_some hrecv
  have ha := h.alternates_held i o t b hi
  rw [hunread] at ha
  exact (alternates_cons_other ho).mp ha

lemma Inv.take (h : Inv R s) (i : ℕ) (hrecv : s.cmds.recv? = some (.Submit o t b, cmds)) :
    Inv R { s with cmds := cmds, held := update s.held i (some (o, t, b)) } := by
  obtain ⟨hlog, -, -, htaken⟩ := Channel.recv?_eq_some hrecv
  obtain ⟨hunrep, hnone, halt⟩ := h.next_request hrecv
  have hget : ∀ {j o' t' b'}, update s.held i (some (o, t, b)) j = some (o', t', b') →
      (j = i ∧ o = o' ∧ t = t' ∧ b = b') ∨ (o ≠ o' ∧ s.held j = some (o', t', b')) := by
    intro j o' t' b' hj
    obtain ⟨hji, ⟨⟩⟩ | ⟨-, hj⟩ := Tables.update_some_iff.mp hj
    · exact .inl ⟨hji, rfl, rfl, rfl⟩
    · refine .inr ⟨?_, hj⟩
      rintro rfl
      exact hnone j t' b' hj
  refine { h with
    submits_nodup := hlog ▸ h.submits_nodup
    pend_sent := hlog ▸ h.pend_sent
    held_received := ?_, held_inj := ?_, held_unreported := ?_, reported := ?_,
    alternates := h.alternates_recv hrecv, alternates_held := ?_ }
  · intro j o' t' b' hj
    rcases hget hj with ⟨-, rfl, rfl, rfl⟩ | ⟨-, hj⟩
    · simp [htaken]
    · exact Channel.mem_taken_of_recv hrecv (h.held_received j o' t' b' hj)
  · intro j k o' t' t'' b' b'' hj hk
    rcases hget hj with ⟨rfl, rfl, -⟩ | ⟨hne, hj⟩ <;> rcases hget hk with ⟨rfl, hk, -⟩ | ⟨hne', hk⟩
    · rfl
    · exact absurd rfl hne'
    · exact absurd hk hne
    · exact h.held_inj j k o' t' t'' b' b'' hj hk
  · intro j o' t' b' hj
    rcases hget hj with ⟨-, rfl, rfl, -⟩ | ⟨-, hj⟩
    · exact hunrep
    · exact h.held_unreported j o' t' b' hj
  · intro r hr
    obtain ⟨b', hb', hR⟩ := h.reported r hr
    exact ⟨b', Channel.mem_taken_of_recv hrecv hb', hR⟩
  · intro j o' t' b' hj
    rcases hget hj with ⟨-, rfl, rfl, -⟩ | ⟨hne, hj⟩
    · exact halt
    · exact h.alternates_held_recv hrecv hj hne

lemma Inv.nodup_send (h : Inv R s) (hr : r.key ∉ s.reports.log.map Report.key) :
    ((s.reports.send r).log.map Report.key).Nodup := by
  rw [Channel.send_log, map_append, map_singleton, ← concat_eq_append]
  exact h.reports_nodup.concat hr

lemma Inv.refuse (h : Inv R s) {r : ρ}
    (hrecv : s.cmds.recv? = some (.Submit o t b, cmds)) (hr : R b r) :
    Inv R { s with cmds := cmds, reports := s.reports.send ⟨o, t, r⟩ } := by
  obtain ⟨hlog, -, -, htaken⟩ := Channel.recv?_eq_some hrecv
  obtain ⟨hunrep, hnone, -⟩ := h.next_request hrecv
  have hother : ∀ {i o' t' b'}, s.held i = some (o', t', b') → o ≠ o' := by
    rintro i o' t' b' hi rfl
    exact hnone i t' b' hi
  refine { h with
    submits_nodup := hlog ▸ h.submits_nodup
    pend_sent := hlog ▸ h.pend_sent
    held_received := fun i o' t' b' hi => Channel.mem_taken_of_recv hrecv (h.held_received i o' t' b' hi)
    held_unreported := ?_, reported := ?_, reports_nodup := ?_
    alternates := h.alternates_recv hrecv
    alternates_held := fun i o' t' b' hi => h.alternates_held_recv hrecv hi (hother hi) }
  · intro i o' t' b' hi hmem
    rw [Channel.send_log, map_append] at hmem
    rcases mem_append.mp hmem with hmem | hmem
    · exact h.held_unreported i o' t' b' hi hmem
    · exact hother hi (by simpa [Report.key] using (congrArg Prod.fst (mem_singleton.mp hmem)).symm)
  · intro r' hr'
    rcases mem_append.mp hr' with hr' | hr'
    · obtain ⟨b', hb', hR⟩ := h.reported r' hr'
      exact ⟨b', Channel.mem_taken_of_recv hrecv hb', hR⟩
    · obtain rfl := mem_singleton.mp hr'
      exact ⟨b, by simp [htaken], hr⟩
  · exact h.nodup_send hunrep

lemma Inv.finish (h : Inv R s) {i : ℕ} {r : ρ} (hheld : s.held i = some (o, t, b)) (hr : R b r) :
    Inv R { s with held := update s.held i none,
                   reports := s.reports.send ⟨o, t, r⟩ } := by
  have hget : ∀ {j x}, update s.held i none j = some x → j ≠ i ∧ s.held j = some x :=
    Tables.update_none_iff.mp
  refine { h with
    held_received := fun j o' t' b' hj => h.held_received j o' t' b' (hget hj).2
    held_inj := fun j k o' t' t'' b' b'' hj hk =>
      h.held_inj j k o' t' t'' b' b'' (hget hj).2 (hget hk).2
    held_unreported := ?_, reported := ?_, reports_nodup := ?_
    alternates_held := fun j o' t' b' hj => h.alternates_held j o' t' b' (hget hj).2 }
  · intro j o' t' b' hj hmem
    obtain ⟨hji, hj'⟩ := hget hj
    rw [Channel.send_log, map_append] at hmem
    rcases mem_append.mp hmem with hmem | hmem
    · exact h.held_unreported j o' t' b' hj' hmem
    · obtain rfl : o' = o := congrArg Prod.fst (mem_singleton.mp hmem)
      exact hji (h.held_inj j i o' t' t b' b hj' hheld)
  · intro r' hr'
    rcases mem_append.mp hr' with hr' | hr'
    · exact h.reported r' hr'
    · obtain rfl := mem_singleton.mp hr'
      exact ⟨b, h.held_received i o t b hheld, hr⟩
  · exact h.nodup_send (h.held_unreported i o t b hheld)

lemma Inv.cancel (h : Inv R s) {held : ℕ → Option (ω × ℕ × β)}
    (hrecv : s.cmds.recv? = some (.Abort o, cmds))
    (hsub : ∀ i x, held i = some x → s.held i = some x)
    (hgone : ∀ i t b, held i ≠ some (o, t, b)) : Inv R { s with cmds := cmds, held := held } := by
  obtain ⟨hlog, -, -, -⟩ := Channel.recv?_eq_some hrecv
  refine { h with
    submits_nodup := hlog ▸ h.submits_nodup
    pend_sent := hlog ▸ h.pend_sent
    held_received := fun i o' t' b' hi =>
      Channel.mem_taken_of_recv hrecv (h.held_received i o' t' b' (hsub i _ hi))
    held_inj := fun i j o' t' t'' b' b'' hi hj =>
      h.held_inj i j o' t' t'' b' b'' (hsub i _ hi) (hsub j _ hj)
    held_unreported := fun i o' t' b' hi => h.held_unreported i o' t' b' (hsub i _ hi)
    reported := fun r hr => ?_
    alternates := h.alternates_recv hrecv
    alternates_held := fun i o' t' b' hi => h.alternates_held_recv hrecv (hsub i _ hi) ?_ }
  · obtain ⟨b', hb', hR⟩ := h.reported r hr
    exact ⟨b', Channel.mem_taken_of_recv hrecv hb', hR⟩
  · rintro rfl
    exact hgone i t' b' hi

theorem inv_inductive (R : β → ρ → Prop) :
    (system R : TransitionSystem (Courier ω β ρ) Unit).Inductive (Inv R) where
  init s hs := hs ▸ Inv.start
  step s _ s' h hstep := by
    cases hstep with
    | submit o t b hidle hfresh => exact h.submit hidle hfresh
    | abort o => exact h.abort o
    | deliver r reports b hrecv hpend => exact h.deliver hrecv hpend
    | discard r reports hrecv => exact h.discard hrecv
    | take o t b cmds i hrecv => exact h.take i hrecv
    | refuse o t b cmds r hrecv hr => exact h.refuse hrecv hr
    | finish i o t b r hheld hr => exact h.finish hheld hr
    | cancel o cmds held hrecv hsub hgone hkeep => exact h.cancel hrecv hsub hgone

end Invariant

end Courier
