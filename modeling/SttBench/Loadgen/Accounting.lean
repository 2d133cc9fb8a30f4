import SttBench.Bench.EvalSlo

/-! # Load generator: what the counters of the summary add up to -/

namespace SttBench.Loadgen

open TransitionSystem List

variable {cfg : Config} {hdr : Hdr}

def Pc.reported : Pc → ℕ
  | .Recorded .Ok => 0
  | .Recorded _ => 1
  | _ => 0

def Pc.timeouts : Pc → ℕ
  | .Returned .Err => 1
  | .Recorded .Ok => 0
  | .Recorded _ => 1
  | _ => 0

lemma Pc.of_not_isReturned {pc : Pc} (h : pc.isReturned = false) :
    pc.timeouts = 0 ∧ pc.reported = 0 := by
  cases pc <;> first | exact ⟨rfl, rfl⟩ | simp [isReturned] at h

/-! ## What a step of a task emits -/

section

variable {sessionId : ℕ} {now : Instant} {sentTimes : List Instant} {check : SessionCheck}
  {t t' : Task} {effects effects' : List Effect}

def jobCount (effects : List Effect) : ℕ := (effects.map fun e => e.jobs.length).sum

def failureCount (effects : List Effect) : ℕ := (effects.map Effect.protocolErrors).sum

def Effect.isNote : Effect → Bool
  | .Record _ => true
  | .InferenceError => true
  | _ => false

def Notes (effects : List Effect) : Prop := ∀ e ∈ effects, e.isNote = true

def Silent (effects : List Effect) : Prop :=
  effects.flatMap Effect.samples = [] ∧ jobCount effects = 0

def Orderly (effects : List Effect) : Prop :=
  effects.flatMap Effect.timeouts = [] ∧ failureCount effects = 0

lemma Effect.of_isNote {e : Effect} (h : e.isNote = true) :
    e.samples = [] ∧ e.jobs = [] ∧ e.timeouts = [] ∧ e.protocolErrors = 0 := by
  cases e with
  | Record _ | InferenceError => exact ⟨rfl, rfl, rfl, rfl⟩
  | _ => simp [isNote] at h

lemma Notes.silent (h : Notes effects) : Silent effects := by
  refine ⟨flatMap_eq_nil_iff.mpr fun e he => (Effect.of_isNote (h e he)).1, ?_⟩
  refine sum_eq_zero (forall_mem_map.mpr ?_)
  intro e he
  rw [(Effect.of_isNote (h e he)).2.1, length_nil]

lemma Notes.orderly (h : Notes effects) : Orderly effects := by
  refine ⟨flatMap_eq_nil_iff.mpr fun e he => (Effect.of_isNote (h e he)).2.2.1, ?_⟩
  exact sum_eq_zero (forall_mem_map.mpr fun e he => (Effect.of_isNote (h e he)).2.2.2)

lemma notes_record (messageType : MessageType) (oldest newest : ℕ) (mismatches : List Mismatch) :
    Notes (record sessionId messageType oldest newest mismatches) := by
  unfold record Record.of
  split_ifs
  · exact nofun
  · exact forall_mem_singleton.mpr rfl

lemma notes_checkSessionTail : Notes (t.checkSessionTail cfg sessionId) := by
  unfold Task.checkSessionTail
  split
  · exact nofun
  · split_ifs
    · exact nofun
    · exact notes_record _ _ _ _

lemma silent_recordSessionOutcome {lag block : Histogram} (outcome : Outcome) :
    Silent (.Merge lag block :: Task.recordSessionOutcome outcome) := by
  cases outcome <;> exact ⟨rfl, rfl⟩

lemma sampleOf_isSome_iff {p : PartialMessage} (hp : p.validate = .ok ()) :
    (sampleOf cfg sessionId p now sentTimes).isSome = true ↔
      p.newestFrameSeq.toNat ≤ sentTimes.length := by
  obtain ⟨hpos, hle⟩ := PartialMessage.range_of_validate hp
  have hpos' : 0 < p.oldestFrameSeq.toNat := UInt64.lt_iff_toNat_lt.mp hpos
  have hle' : p.oldestFrameSeq.toNat ≤ p.newestFrameSeq.toNat := UInt64.le_iff_toNat_le.mp hle
  constructor
  · intro h
    by_contra hlt
    have hnone : sentTimes[p.newestFrameSeq.toNat - 1]? = none := by
      rw [List.getElem?_eq_none_iff]
      omega
    simp [sampleOf, hnone] at h
  · intro h
    have hnewest : p.newestFrameSeq.toNat - 1 < sentTimes.length := by omega
    have holdest : p.oldestFrameSeq.toNat - 1 < sentTimes.length := by omega
    simp [sampleOf, List.getElem?_eq_getElem hnewest, List.getElem?_eq_getElem holdest]

lemma sessionId_of_sampleOf {p : PartialMessage} {sample : Sample}
    (h : sampleOf cfg sessionId p now sentTimes = some sample) : sample.sessionId = sessionId := by
  unfold sampleOf at h
  split at h
  · cases h
    rfl
  · cases h

lemma selectPartial_sent (hk : 0 < cfg.verifyEvery) (job : VerifyJob) :
    (selectPartial cfg check job false).1.measuredPartials = check.measuredPartials + 1 ∧
      (selectPartial cfg check job false).2.flatMap Effect.samples = [] ∧
      jobCount (selectPartial cfg check job false).2 =
        if check.measuredPartials % cfg.verifyEvery = 0 then 1 else 0 := by
  have hcount : (selectPartial cfg check job false).1.measuredPartials =
      check.measuredPartials + 1 := by
    simp [selectPartial, hk]
  refine ⟨hcount, ?_⟩
  simp only [selectPartial, hk, Bool.not_false, Bool.true_and, decide_true, decide_eq_true_eq]
  split_ifs with hselected
  · exact ⟨rfl, rfl⟩
  · exact (notes_record _ _ _ _).silent

lemma selectPartial_orderly (job : VerifyJob) (unsent : Bool) :
    Orderly (selectPartial cfg check job unsent).2 := by
  simp only [selectPartial]
  split_ifs
  · exact ⟨rfl, rfl⟩
  · exact (notes_record _ _ _ _).orderly

def Processed.Own (sessionId : ℕ) : Processed → Prop
  | .Send sample _ unsent => sample.sessionId = sessionId ∧ unsent = false
  | _ => True

lemma processPartial_notes {p : PartialMessage} :
    (processPartial cfg sessionId now sentTimes check p).1.measuredPartials =
        check.measuredPartials ∧
      Notes (processPartial cfg sessionId now sentTimes check p).2.1 ∧
      (processPartial cfg sessionId now sentTimes check p).2.2.Own sessionId := by
  simp only [processPartial]
  split
  case h_1 => exact ⟨rfl, notes_record _ _ _ _, trivial⟩
  case h_2 hvalid =>
    have hsome : (sampleOf cfg sessionId p now sentTimes).isSome = true ↔ _ :=
      sampleOf_isSome_iff hvalid
    split_ifs
    · split
      case h_1 sample hsample =>
        have hsent := hsome.mp (by rw [hsample]; rfl)
        exact ⟨rfl, nofun, sessionId_of_sampleOf hsample,
          decide_eq_false (Nat.not_lt.mpr hsent)⟩
      case h_2 hnone =>
        have hunsent : sentTimes.length < p.newestFrameSeq.toNat := by
          rw [hnone] at hsome
          simpa using hsome
        simp only [hunsent, decide_true]
        exact ⟨rfl, notes_record _ _ _ _, trivial⟩
    · exact ⟨rfl, nofun, trivial⟩

lemma processInbound_notes (m : Inbound) :
    (processInbound cfg sessionId now sentTimes check m).1.measuredPartials =
        check.measuredPartials ∧
      Notes (processInbound cfg sessionId now sentTimes check m).2.1 ∧
      (processInbound cfg sessionId now sentTimes check m).2.2.Own sessionId := by
  match m with
  | .Close | .Closed | .Failed | .Control => exact ⟨rfl, nofun, trivial⟩
  | .Binary _ | .Text (.error _) => exact ⟨rfl, notes_record _ _ _ _, trivial⟩
  | .Text (.ok (.Partial p)) => exact processPartial_notes
  | .Text (.ok (.Error e)) =>
    refine ⟨rfl, forall_mem_append.mpr ⟨?_, forall_mem_singleton.mpr rfl⟩, trivial⟩
    split_ifs
    · exact notes_record _ _ _ _
    · exact nofun

namespace Task

def InHand (sessionId : ℕ) (t : Task) : Prop :=
  ∀ loop sample job unsent, t.pc = .Sampling loop sample job unsent →
    sample.sessionId = sessionId ∧ unsent = false

lemma inHand_of_pc {pc : Pc} (hpc : t.pc = pc) (hplain : ∀ loop sample job unsent,
    pc ≠ .Sampling loop sample job unsent) : t.InHand sessionId := by
  intro loop sample job unsent hsampling
  exact (hplain loop sample job unsent (hpc.symm.trans hsampling)).elim

lemma inHand_of_isPlain (hpc : t.pc.isPlain = true) : t.InHand sessionId := by
  intro loop sample job unsent hsampling
  simp [hsampling, Pc.isPlain] at hpc

structure Emits (cfg : Config) (sessionId : ℕ) (t t' : Task) (effects : List Effect) : Prop where
  inHand : t'.InHand sessionId
  own : ∀ s ∈ effects.flatMap Effect.samples, s.sessionId = sessionId
  counted : t'.check.measuredPartials =
    t.check.measuredPartials + (effects.flatMap Effect.samples).length
  submitted : t'.check.measuredPartials ⌈/⌉ cfg.verifyEvery =
    t.check.measuredPartials ⌈/⌉ cfg.verifyEvery + jobCount effects

lemma Emits.of_silent (hinHand : t'.InHand sessionId) (h : Silent effects)
    (hcheck : t'.check.measuredPartials = t.check.measuredPartials) :
    Emits cfg sessionId t t' effects :=
  ⟨hinHand, by simp [h.1], by simp [h.1, hcheck], by simp [h.2, hcheck]⟩

lemma message_notes (loop : Loop) (m : Inbound) (now later : Instant) :
    Notes (t.message cfg sessionId loop m now later).2 ∧
      (t.message cfg sessionId loop m now later).1.InHand sessionId := by
  have hprocessed : (processInbound cfg sessionId now t.sentTimes t.check m).1.measuredPartials =
      t.check.measuredPartials ∧ _ := processInbound_notes m
  obtain ⟨-, hnotes, hown⟩ := hprocessed
  simp only [message]
  split
  case h_1 => exact ⟨hnotes, inHand_of_pc rfl (by rintro _ _ _ _ ⟨⟩)⟩
  case h_2 => exact ⟨hnotes, inHand_of_isPlain (resume_isPlain _ _)⟩
  case h_3 hsend =>
    refine ⟨hnotes, ?_⟩
    rintro _ _ _ _ ⟨⟩
    rw [hsend] at hown
    exact hown
  case h_4 =>
    cases loop with
    | Streaming => exact ⟨hnotes, inHand_of_pc rfl (by rintro _ _ _ _ ⟨⟩)⟩
    | Closing =>
      exact ⟨forall_mem_append.mpr ⟨hnotes, notes_checkSessionTail⟩, inHand_of_pc rfl (by rintro _ _ _ _ ⟨⟩)⟩

lemma emits_of_steps (hk : 0 < cfg.verifyEvery) (h : Steps cfg sessionId t t' effects)
    (ht : t.InHand sessionId) : Emits cfg sessionId t t' effects := by
  cases h with
  | waits hpc hpc' hcheck hresponses =>
    exact .of_silent (inHand_of_isPlain hpc') ⟨rfl, rfl⟩ (by rw [hcheck])
  | stopped hpc houtcome heffects =>
    refine .of_silent (inHand_of_pc rfl (by rintro _ _ _ _ ⟨⟩)) ?_ rfl
    rcases heffects with rfl | ⟨-, kind, -, rfl⟩
    · exact ⟨rfl, rfl⟩
    · exact ⟨rfl, rfl⟩
  | message loop m now later hpc =>
    obtain ⟨hnotes, hinHand⟩ := message_notes loop m now later
    exact .of_silent hinHand hnotes.silent (message_check ▸ (processInbound_notes m).1)
  | @sampled _ sample job _ later hpc =>
    obtain ⟨hid, rfl⟩ := ht _ _ _ _ hpc
    have hselect : (selectPartial cfg t.check job false).1.measuredPartials =
        t.check.measuredPartials + 1 ∧ _ := selectPartial_sent hk job
    obtain ⟨hcount, hsamples, hjobs⟩ := hselect
    have hemitted : (Effect.Sample sample ::
        (selectPartial cfg t.check job false).2).flatMap Effect.samples = [sample] := by
      rw [flatMap_cons, hsamples]
      rfl
    refine ⟨inHand_of_isPlain (resume_isPlain _ _), ?_, ?_, ?_⟩
    · rw [hemitted]
      exact forall_mem_singleton.mpr hid
    · rw [hemitted]
      exact hcount
    · show (selectPartial cfg t.check job false).1.measuredPartials ⌈/⌉ _ = _
      rw [hcount, Tally.ceilDiv_succ _ hk]
      simpa [jobCount, Effect.jobs] using hjobs.symm
  | finished hpc =>
    exact .of_silent (inHand_of_pc rfl (by rintro _ _ _ _ ⟨⟩)) (silent_recordSessionOutcome _) rfl

structure Fails (t t' : Task) (effects : List Effect) : Prop where
  timeouts : t.pc.timeouts + (effects.flatMap Effect.timeouts).length ≤ t'.pc.timeouts
  reported : t'.pc.reported = t.pc.reported + failureCount effects

lemma Fails.of_orderly (h : Orderly effects) (ht : t.pc.isReturned = false)
    (ht' : t'.pc.isRecorded = false) : Fails t t' effects := by
  obtain ⟨htimeouts, hreported⟩ := Pc.of_not_isReturned ht
  have hreported' : t'.pc.reported = 0 := by
    cases hpc : t'.pc <;> simp_all [Pc.isRecorded, Pc.reported]
  exact ⟨by simp [htimeouts, h.1], by rw [hreported, hreported', h.2]⟩

lemma fails_of_steps (h : Steps cfg sessionId t t' effects) : Fails t t' effects := by
  have hplain {pc : Pc} (hpc : pc.isPlain = true) :
      pc.isReturned = false ∧ pc.isRecorded = false := by
    cases pc <;> simp_all [Pc.isPlain, Pc.isReturned, Pc.isRecorded]
  cases h with
  | waits hpc hpc' hcheck hresponses =>
    exact .of_orderly ⟨rfl, rfl⟩ (hplain hpc).1 (hplain hpc').2
  | stopped hpc houtcome heffects =>
    rcases heffects with rfl | ⟨rfl, kind, -, rfl⟩
    · exact .of_orderly ⟨rfl, rfl⟩ hpc rfl
    · obtain ⟨htimeouts, hreported⟩ := Pc.of_not_isReturned hpc
      exact ⟨by rw [htimeouts]; rfl, by rw [hreported]; rfl⟩
  | message loop m now later hpc =>
    refine .of_orderly (message_notes loop m now later).1.orderly (hplain hpc).1 ?_
    simp only [message]
    split
    case h_2 => exact (hplain (resume_isPlain _ _)).2
    case h_4 => cases loop <;> rfl
    all_goals rfl
  | @sampled _ _ job unsent later hpc =>
    have horderly : Orderly (selectPartial cfg t.check job unsent).2 :=
      selectPartial_orderly job unsent
    exact .of_orderly ⟨horderly.1, (Nat.zero_add _).trans horderly.2⟩ (by rw [hpc]; rfl)
      (hplain (resume_isPlain _ _)).2
  | @finished outcome hpc =>
    cases outcome <;> exact ⟨by rw [hpc]; exact Nat.le_refl _, by rw [hpc]; rfl⟩

end Task

end

/-! ## Totals of a run -/

namespace Shared

def samples (sh : Shared) : List Sample := sh.received ++ sh.channel

def emitted (sh : Shared) (sessionId : ℕ) : ℕ := sh.samples.countP fun s => s.sessionId = sessionId

lemma foldl_apply_samples (i : ℕ) (effects : List Effect) (sh : Shared) :
    (effects.foldl (apply i) sh).samples = sh.samples ++ effects.flatMap Effect.samples := by
  rw [samples, foldl_apply_received, foldl_apply_channel, samples, append_assoc]

lemma foldl_apply_emitted {n : ℕ} {i : Fin n} {effects : List Effect} (sh : Shared)
    (hown : ∀ s ∈ effects.flatMap Effect.samples, s.sessionId = i) (j : Fin n) :
    (effects.foldl (apply i) sh).emitted j =
      sh.emitted j + if j = i then (effects.flatMap Effect.samples).length else 0 := by
  rw [emitted, foldl_apply_samples, Tally.countP_append_own Sample.sessionId _ hown, emitted]

structure SameTotals (sh sh' : Shared) : Prop where
  samples : sh'.samples = sh.samples
  submitted : sh'.submitted = sh.submitted
  bumps : sh'.bumps = sh.bumps
  timeouts : sh'.timeouts = sh.timeouts
  protocolErrors : sh'.protocolErrors = sh.protocolErrors

lemma SameTotals.refl (sh : Shared) : SameTotals sh sh := ⟨rfl, rfl, rfl, rfl, rfl⟩

end Shared

namespace Run

variable {n : ℕ} {s s' : Run n} {e : RunEvent n}

lemma sameTotals_of_step (h : s.step cfg hdr e = some s')
    (hother : ∀ i e', e ≠ .Task i e') : s'.tasks = s.tasks ∧ s.shared.SameTotals s'.shared := by
  cases e with
  | Task i e => exact absurd rfl (hother i e)
  | Take =>
    simp only [step] at h
    split at h <;> simp only [Option.some.injEq, reduceCtorEq] at h
    case h_1 job rest hnone hqueue =>
      subst h
      exact ⟨rfl, rfl, by simp [Shared.submitted, hnone, hqueue]; omega, rfl, rfl, rfl⟩
  | Verify =>
    simp only [step] at h
    split at h <;> simp only [Option.some.injEq, reduceCtorEq] at h
    case h_1 job hsome =>
      subst h
      refine ⟨rfl, rfl, ?_, rfl, rfl, rfl⟩
      simp [Shared.verify, Shared.record, Shared.submitted, hsome]
      omega
  | Receive =>
    simp only [step] at h
    split at h <;> simp only [Option.some.injEq, reduceCtorEq] at h
    case h_1 hchannel =>
      subst h
      exact ⟨rfl, by simp [Shared.samples, Shared.receive, hchannel], rfl, rfl, rfl, rfl⟩
  | Closed | Joined | Drained =>
    simp only [step] at h
    split at h <;> try cases h
    split_ifs at h
    cases h
    exact ⟨rfl, .refl _⟩

lemma step_totals (h : s.step cfg hdr e = some s') :
    (∃ (i : Fin n) (t : Task) (effects : List Effect), Task.Steps cfg i (s.tasks i) t effects ∧
      s' = { s with
        tasks := Function.update s.tasks i t
        shared := effects.foldl (Shared.apply i) s.shared }) ∨
    s'.tasks = s.tasks ∧ s.shared.SameTotals s'.shared := by
  cases e with
  | Task i e =>
    obtain ⟨t, effects, hstep, rfl⟩ := step_task h
    exact .inl ⟨i, t, effects, Task.steps_of_step hstep, rfl⟩
  | _ => exact .inr (sameTotals_of_step h (by simp))

end Run

lemma inductive_of_tasks {P : Run cfg.sessions → Prop} (hstart : P Run.start)
    (htask : ∀ (s : Run cfg.sessions) (i : Fin cfg.sessions) (t : Task) (effects : List Effect),
      P s → Task.Steps cfg i (s.tasks i) t effects →
      P { s with
        tasks := Function.update s.tasks i t
        shared := effects.foldl (Shared.apply i) s.shared })
    (hother : ∀ s s', P s → s'.tasks = s.tasks → s.shared.SameTotals s'.shared → P s') :
    (loadgen cfg hdr).Inductive P where
  init := by
    rintro s rfl
    exact hstart
  step := by
    intro s e s' hs h
    rcases Run.step_totals h with ⟨i, t, effects, hsteps, rfl⟩ | ⟨htasks, htotals⟩
    · exact htask s i t effects hs hsteps
    · exact hother s s' hs htasks htotals

/-! ## Verification -/

structure Run.Verifies (cfg : Config) (s : Run cfg.sessions) : Prop where
  inHand : ∀ i, (s.tasks i).InHand i
  owned : ∀ sample ∈ s.shared.samples, sample.sessionId < cfg.sessions
  emitted : ∀ i : Fin cfg.sessions, s.shared.emitted i = (s.tasks i).check.measuredPartials
  submitted : s.shared.submitted =
    ∑ i, (s.tasks i).check.measuredPartials ⌈/⌉ cfg.verifyEvery

lemma verifies_inductive (hk : 0 < cfg.verifyEvery) :
    (loadgen cfg hdr).Inductive (Run.Verifies cfg) := by
  refine inductive_of_tasks ?_ ?_ ?_
  · refine ⟨fun _ => Task.inHand_of_isPlain rfl, nofun, fun _ => rfl, ?_⟩
    simp [Run.start, Task.spawn, Shared.submitted, Shared.create]
  · intro s i t effects hs hsteps
    have hemits := Task.emits_of_steps hk hsteps (hs.inHand i)
    refine ⟨?_, ?_, ?_, ?_⟩
    · intro j
      by_cases hj : j = i
      · subst hj
        simpa using hemits.inHand
      · simpa [hj] using hs.inHand j
    · intro sample hmem
      rw [Shared.foldl_apply_samples] at hmem
      rcases mem_append.mp hmem with hmem | hmem
      · exact hs.owned sample hmem
      · exact (hemits.own sample hmem).trans_lt i.isLt
    · intro j
      rw [Shared.foldl_apply_emitted _ hemits.own, hs.emitted j]
      by_cases hj : j = i
      · subst hj
        simp [hemits.counted]
      · simp [hj]
    · rw [Shared.foldl_apply_submitted, hs.submitted]
      exact (Tally.sum_update s.tasks i
        (fun t => t.check.measuredPartials ⌈/⌉ cfg.verifyEvery) hemits.submitted).symm
  · intro s s' hs htasks htotals
    refine ⟨by rw [htasks]; exact hs.inHand, by rw [htotals.samples]; exact hs.owned, ?_, ?_⟩
    · intro i
      rw [Shared.emitted, htotals.samples, htasks]
      exact hs.emitted i
    · rw [htotals.submitted, htasks]
      exact hs.submitted

theorem verification_accounted {s : Run cfg.sessions} {out : Output} (hk : 0 < cfg.verifyEvery)
    (hs : (loadgen cfg hdr).Reachable s) (hprinted : s.main = .Printed out) :
    out.verifiedPartials + out.verifyDropped =
        ∑ i : Fin cfg.sessions, s.shared.emitted i ⌈/⌉ cfg.verifyEvery ∧
      ∑ i : Fin cfg.sessions, s.shared.emitted i = out.partials ∧
      (cfg.verifyEvery = 1 → out.partials = out.verifiedPartials + out.verifyDropped) := by
  obtain ⟨hchannel, -, hqueue, hverifying, rfl⟩ := Run.printed_final hs hprinted
  have hv := (verifies_inductive hk).reachable hs
  have hsubmitted : s.shared.verified + s.shared.verifyDropped =
      ∑ i : Fin cfg.sessions, s.shared.emitted i ⌈/⌉ cfg.verifyEvery := by
    simpa [Shared.submitted, hqueue, hverifying, hv.emitted] using hv.submitted
  have hpartials : ∑ i : Fin cfg.sessions, s.shared.emitted i = s.shared.received.length := by
    refine (Tally.length_eq_sum_countP Sample.sessionId hv.owned).symm.trans ?_
    rw [Shared.samples, hchannel, append_nil]
  refine ⟨hsubmitted, hpartials, ?_⟩
  intro hone
  show s.shared.received.length = s.shared.verified + s.shared.verifyDropped
  simp only [hsubmitted, ← hpartials, hone, ceilDiv_one]

theorem verification_accounted_twoFrames :
    ∃ (s : Run 1) (out : Output), (loadgen twoFrameSession hdrHistogram).Reachable s ∧
      s.main = .Printed out ∧ out.partials = 2 ∧
      out.verifiedPartials + out.verifyDropped = ∑ i : Fin 1, s.shared.emitted i ⌈/⌉ 1 ∧
      ∑ i : Fin 1, s.shared.emitted i = out.partials ∧
      ((1 : ℕ) = 1 → out.partials = out.verifiedPartials + out.verifyDropped) := by
  obtain ⟨s, hreach, hmain, -, htwo, -⟩ := twoFrames_printed
  exact ⟨s, _, hreach, hmain, htwo, verification_accounted Nat.one_pos hreach hmain⟩

/-! ## Failures -/

namespace Shared

def timeoutsOf (sh : Shared) (sessionId : ℕ) : ℕ := sh.bumps.countP fun bump => bump.1 = sessionId

lemma foldl_apply_timeouts (i : ℕ) (effects : List Effect) (sh : Shared) :
    (effects.foldl (apply i) sh).timeouts.total =
      sh.timeouts.total + (effects.flatMap Effect.timeouts).length := by
  rw [length_flatMap]
  refine Tally.foldl_add (m := fun sh : Shared => sh.timeouts.total) ?_ effects sh
  intro sh e
  cases e <;> simp [apply, submitVerify, record, Effect.timeouts, TimeoutCounters.total_increment,
    apply_ite Shared.timeouts]

end Shared

structure Run.Reports (cfg : Config) (s : Run cfg.sessions) : Prop where
  owned : ∀ bump ∈ s.shared.bumps, bump.1 < cfg.sessions
  bumps : ∀ i : Fin cfg.sessions,
    s.shared.timeoutsOf i ≤ (s.tasks i).pc.timeouts
  timeouts : s.shared.timeouts.total = s.shared.bumps.length
  reported : s.shared.protocolErrors = ∑ i, (s.tasks i).pc.reported

lemma reports_inductive : (loadgen cfg hdr).Inductive (Run.Reports cfg) := by
  refine inductive_of_tasks ?_ ?_ ?_
  · refine ⟨nofun, fun _ => Nat.le_refl 0, rfl, ?_⟩
    simp [Run.start, Task.spawn, Pc.reported, Shared.create]
  · intro s i t effects hs hsteps
    have hfails := Task.fails_of_steps hsteps
    have hbumps := Shared.foldl_apply_bumps i effects s.shared
    have hown : ∀ bump ∈ effects.flatMap fun e => e.timeouts.map ((i : ℕ), ·),
        bump.1 = (i : ℕ) := by
      simp only [mem_flatMap, mem_map]
      rintro _ ⟨e, -, kind, -, rfl⟩
      rfl
    have hlength : (effects.flatMap fun e => e.timeouts.map ((i : ℕ), ·)).length =
        (effects.flatMap Effect.timeouts).length := by
      simp [length_flatMap]
    refine ⟨?_, ?_, ?_, ?_⟩
    · intro bump hmem
      rw [hbumps] at hmem
      rcases mem_append.mp hmem with hmem | hmem
      · exact hs.owned bump hmem
      · exact (hown bump hmem).trans_lt i.isLt
    · intro j
      rw [Shared.timeoutsOf, hbumps, Tally.countP_append_own Prod.fst _ hown, hlength]
      have hj' : s.shared.bumps.countP (fun bump => bump.1 = (j : ℕ)) ≤ _ := hs.bumps j
      by_cases hj : j = i
      · subst hj
        simp only [if_true, Function.update_self]
        exact (Nat.add_le_add_right hj' _).trans hfails.timeouts
      · simpa [hj] using hj'
    · rw [Shared.foldl_apply_timeouts, hbumps, length_append, hlength, hs.timeouts]
    · rw [Shared.foldl_apply_protocolErrors, hs.reported]
      exact (Tally.sum_update s.tasks i (fun t => t.pc.reported) hfails.reported).symm
  · intro s s' hs htasks htotals
    refine ⟨by rw [htotals.bumps]; exact hs.owned, ?_, ?_, ?_⟩
    · intro i
      rw [Shared.timeoutsOf, htotals.bumps, htasks]
      exact hs.bumps i
    · rw [htotals.timeouts, htotals.bumps, hs.timeouts]
    · rw [htotals.protocolErrors, htasks, hs.reported]

theorem failures_accounted {s : Run cfg.sessions} {out : Output}
    (hs : (loadgen cfg hdr).Reachable s) (hprinted : s.main = .Printed out) :
    out.protocolErrors = (Finset.univ.filter fun i => (s.tasks i).pc.failed = true).card ∧
      (∀ i : Fin cfg.sessions,
        s.shared.timeoutsOf i ≤ if (s.tasks i).pc.failed then 1 else 0) ∧
      out.timeouts.total = s.shared.bumps.length ∧
      out.timeouts.total ≤ out.protocolErrors ∧ out.protocolErrors ≤ out.sessions ∧
      ∀ py, Bench.EvalSlo.countErrors py out.json =
        .ok (.int (out.protocolErrors + out.inferenceErrors)) := by
  obtain ⟨-, hrecorded, -, -, rfl⟩ := Run.printed_final hs hprinted
  have hr := reports_inductive.reachable hs
  -- of a task that has recorded its outcome, the three counts say the same
  have hcounts (i : Fin cfg.sessions) :
      (s.tasks i).pc.timeouts = (if (s.tasks i).pc.failed then 1 else 0) ∧
        (s.tasks i).pc.reported = if (s.tasks i).pc.failed then 1 else 0 := by
    have hi := hrecorded i
    cases hpc : (s.tasks i).pc with
    | Recorded outcome => cases outcome <;> simp [Pc.timeouts, Pc.reported, Pc.failed]
    | _ => simp [hpc, Pc.isRecorded] at hi
  have hprotocol : s.shared.protocolErrors =
      (Finset.univ.filter fun i => (s.tasks i).pc.failed = true).card := by
    rw [hr.reported, Finset.card_filter]
    exact Finset.sum_congr rfl fun i _ => (hcounts i).2
  have htotal : s.shared.timeouts.total ≤ s.shared.protocolErrors := by
    calc s.shared.timeouts.total
        = ∑ i : Fin cfg.sessions, s.shared.timeoutsOf i :=
          hr.timeouts.trans (Tally.length_eq_sum_countP Prod.fst hr.owned)
      _ ≤ ∑ i, (s.tasks i).pc.reported := by
          refine Finset.sum_le_sum ?_
          intro i _
          rw [(hcounts i).2, ← (hcounts i).1]
          exact hr.bumps i
      _ = s.shared.protocolErrors := hr.reported.symm
  refine ⟨hprotocol, fun i => (hr.bumps i).trans_eq (hcounts i).1, hr.timeouts, htotal, ?_, ?_⟩
  · show s.shared.protocolErrors ≤ cfg.sessions
    rw [hprotocol]
    exact (Finset.card_filter_le _ _).trans_eq (Finset.card_fin _)
  · intro py
    rw [Bench.EvalSlo.countErrors_json, Output.errors]
    show Except.ok (Python.Number.int ((max s.shared.protocolErrors s.shared.timeouts.total +
      s.shared.inferenceErrors : ℕ) : ℤ)) = _
    rw [max_eq_left htotal]
    rfl

def connectTimeout : List (RunEvent 1) :=
  [.Task 0 .Wake, .Task 0 (.Timed .Elapsed 0 0), .Closed, .Task 0 .Finish, .Joined, .Drained]

theorem failures_accounted_connectTimeout :
    ∃ (s : Run 1) (out : Output), (loadgen oneSession hdrHistogram).Reachable s ∧
      s.main = .Printed out ∧ out.timeouts = ⟨1, 0, 0, 0⟩ ∧
      out.protocolErrors = (Finset.univ.filter fun i => (s.tasks i).pc.failed = true).card ∧
      (∀ i : Fin 1, s.shared.timeoutsOf i ≤ if (s.tasks i).pc.failed then 1 else 0) ∧
      out.timeouts.total = s.shared.bumps.length ∧
      out.timeouts.total ≤ out.protocolErrors ∧ out.protocolErrors ≤ out.sessions ∧
      ∀ py, Bench.EvalSlo.countErrors py out.json =
        .ok (.int (out.protocolErrors + out.inferenceErrors)) := by
  obtain ⟨s, hreach, htimeouts, hmain⟩ : ∃ s : Run 1, (loadgen oneSession hdrHistogram).Reachable s ∧
      s.shared.timeouts = ⟨1, 0, 0, 0⟩ ∧
        s.main = .Printed (Run.output oneSession hdrHistogram s.shared) :=
    Reachable.exists_of_exec connectTimeout (by decide +kernel)
  exact ⟨s, _, hreach, hmain, htimeouts, failures_accounted hreach hmain⟩

end SttBench.Loadgen
