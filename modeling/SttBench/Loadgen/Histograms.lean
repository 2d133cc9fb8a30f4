import SttBench.Loadgen.Accounting

/-!
# Load generator: the latency histograms

A histogram refuses what is above its maximum, and `main` does not look at the result.
-/

namespace SttBench.Loadgen

open TransitionSystem List

variable {cfg : Config} {hdr : Hdr}

def latencyMax : ℕ := 60000000

/-! ## What the histograms hold -/

lemma Histogram.record_eq (h : Histogram) (v : ℕ) :
    h.record hdr v = ⟨h.high, h.values ++ [v].filter (hdr.accepts h.high)⟩ := by
  by_cases hv : hdr.accepts h.high v <;> simp [record, hv]

def Histogram.Given (hdr : Hdr) (h : Histogram) (vs : List ℕ) : Prop :=
  h = ⟨latencyMax, vs.filter (hdr.accepts latencyMax)⟩

variable {h : Histogram} {vs : List ℕ}

lemma Histogram.Given.record (hgiven : h.Given hdr vs) (v : ℕ) :
    (h.record hdr v).Given hdr (vs ++ [v]) := by
  unfold Given at hgiven ⊢
  rw [record_eq, hgiven, filter_append]

lemma Histogram.Given.length_iff (hgiven : h.Given hdr vs) :
    h.values.length = vs.length ↔ ∀ v ∈ vs, hdr.accepts latencyMax v = true := by
  rw [hgiven, length_filter_eq_length_iff]

lemma Histogram.Given.values_eq (hgiven : h.Given hdr vs)
    (hfit : ∀ v ∈ vs, hdr.accepts latencyMax v = true) : h.values = vs := by
  rw [hgiven, filter_eq_self]
  exact hfit

structure Shared.Recorded (hdr : Hdr) (sh : Shared) : Prop where
  newest : sh.newestHist.Given hdr (sh.received.map Sample.newestUs)
  oldest : sh.oldestHist.Given hdr (sh.received.map Sample.oldestUs)
  flush : sh.flushHist.Given hdr (sh.received.map Sample.flushLatenessUs)

lemma Shared.Recorded.foldl_apply {sh : Shared} (h : sh.Recorded hdr) (i : ℕ) (effects : List Effect) :
    (effects.foldl (Shared.apply i) sh).Recorded hdr := by
  refine Tally.foldl_keep (P := Shared.Recorded hdr) ?_ effects h
  rintro sh e ⟨hnewest, holdest, hflush⟩
  cases e with
  | Submit job =>
    simp only [apply, submitVerify, Shared.record]
    split_ifs <;> exact ⟨hnewest, holdest, hflush⟩
  | _ => exact ⟨hnewest, holdest, hflush⟩

lemma Shared.Recorded.receive {sh : Shared} (h : sh.Recorded hdr) (sample : Sample)
    (rest : List Sample) : (sh.receive hdr sample rest).Recorded hdr := by
  refine ⟨?_, ?_, ?_⟩
  · simpa [Shared.receive] using h.newest.record sample.newestUs
  · simpa [Shared.receive] using h.oldest.record sample.oldestUs
  · simpa [Shared.receive] using h.flush.record sample.flushLatenessUs

lemma recorded_inductive :
    (loadgen cfg hdr).Inductive fun s => s.shared.Recorded hdr where
  init := by
    rintro s rfl
    exact ⟨rfl, rfl, rfl⟩
  step := by
    intro s e s' hs h
    cases e with
    | Task i e =>
      obtain ⟨t, effects, -, rfl⟩ := Run.step_task h
      exact hs.foldl_apply i effects
    | Take | Verify =>
      simp only [loadgen, ofFun, Run.step] at h
      split at h <;> simp only [Option.some.injEq, reduceCtorEq] at h
      subst h
      exact { hs with }
    | Receive =>
      simp only [loadgen, ofFun, Run.step] at h
      split at h <;> simp only [Option.some.injEq, reduceCtorEq] at h
      subst h
      exact hs.receive _ _
    | Closed | Joined | Drained =>
      simp only [loadgen, ofFun, Run.step] at h
      split at h <;> try cases h
      split_ifs at h
      cases h
      exact hs

structure Sample.All (P : ℕ → Prop) (sample : Sample) : Prop where
  newest : P sample.newestUs
  oldest : P sample.oldestUs
  flush : P sample.flushLatenessUs

def Sample.Fits : Sample → Prop := Sample.All (· ≤ latencyMax)

theorem histograms_complete_iff {s : Run cfg.sessions} (hs : (loadgen cfg hdr).Reachable s) :
    (s.shared.newestHist.values.length = s.shared.received.length ∧
      s.shared.oldestHist.values.length = s.shared.received.length ∧
      s.shared.flushHist.values.length = s.shared.received.length) ↔
    ∀ sample ∈ s.shared.received, sample.All fun v => hdr.accepts latencyMax v = true := by
  obtain ⟨hnewest, holdest, hflush⟩ := recorded_inductive.reachable hs
  have hnewest := hnewest.length_iff
  have holdest := holdest.length_iff
  have hflush := hflush.length_iff
  rw [length_map, forall_mem_map] at hnewest holdest hflush
  rw [hnewest, holdest, hflush]
  constructor
  · rintro ⟨hn, ho, hf⟩ sample hmem
    exact ⟨hn sample hmem, ho sample hmem, hf sample hmem⟩
  · intro h
    exact ⟨fun s hs => (h s hs).newest, fun s hs => (h s hs).oldest, fun s hs => (h s hs).flush⟩

/-! ## Where a sample comes from -/

namespace Task

variable {sessionId : ℕ} {t t' : Task} {e : TaskEvent} {effects : List Effect} {now later : Instant}

lemma samples_selectPartial (check : SessionCheck) (job : VerifyJob) (unsent : Bool) :
    (selectPartial cfg check job unsent).2.flatMap Effect.samples = [] := by
  simp only [selectPartial]
  split_ifs
  · rfl
  · exact (notes_record _ _ _ _).silent.1

variable {sample : Sample} {job : VerifyJob} {unsent : Bool}

lemma Steps.samples (h : Steps cfg sessionId t t' effects)
    (hmem : sample ∈ effects.flatMap Effect.samples) :
    ∃ loop job unsent, t.pc = .Sampling loop sample job unsent := by
  cases h with
  | waits => simp at hmem
  | stopped hpc houtcome heffects =>
    obtain rfl | ⟨-, kind, -, rfl⟩ := heffects
    · simp at hmem
    · simp [Effect.samples] at hmem
  | message loop m now later hpc =>
    rw [(message_notes loop m now later).1.silent.1] at hmem
    cases hmem
  | @sampled loop sample' job unsent later hpc =>
    rw [flatMap_cons, samples_selectPartial, append_nil] at hmem
    obtain rfl := mem_singleton.mp hmem
    exact ⟨loop, job, unsent, hpc⟩
  | @finished outcome hpc =>
    rw [(silent_recordSessionOutcome outcome).1] at hmem
    cases hmem

lemma processInbound_send {check check' : SessionCheck} {m : Inbound} {sentTimes : List Instant}
    (h : processInbound cfg sessionId now sentTimes check m =
      (check', effects, .Send sample job unsent)) :
    ∃ p, m = .Text (.ok (.Partial p)) ∧ p.validate = .ok () ∧ cfg.measured now = true ∧
      sampleOf cfg sessionId p now sentTimes = some sample := by
  unfold processInbound at h
  split at h
  case h_7 p =>
    dsimp only [processPartial] at h
    split at h
    · simp at h
    · next hvalid =>
        split_ifs at h with hmeasured
        · split at h
          · next sample' hsample =>
              obtain ⟨-, -, hsend⟩ := Prod.mk.inj h |>.imp_right Prod.mk.inj
              obtain ⟨rfl, -, -⟩ := Processed.Send.inj hsend
              exact ⟨p, rfl, hvalid, hmeasured, hsample⟩
          · simp at h
        · simp at h
  all_goals simp [processError] at h

lemma isPlain_ne_sampling {pc : Pc} (h : pc.isPlain = true) (loop : Loop) (sample : Sample)
    (job : VerifyJob) (unsent : Bool) : pc ≠ .Sampling loop sample job unsent := by
  rintro rfl
  cases h

lemma message_sampling {loop loop' : Loop} {m : Inbound}
    (hpc : (t.message cfg sessionId loop m now later).1.pc = .Sampling loop' sample job unsent) :
    ∃ p, m = .Text (.ok (.Partial p)) ∧ p.validate = .ok () ∧ cfg.measured now = true ∧
      sampleOf cfg sessionId p now t.sentTimes = some sample := by
  simp only [message] at hpc
  split at hpc
  case h_1 => simp [returned] at hpc
  case h_2 => exact absurd hpc (isPlain_ne_sampling (resume_isPlain later loop) _ _ _ _)
  case h_3 hsend =>
    obtain ⟨-, rfl, -, -⟩ := Pc.Sampling.inj hpc
    exact processInbound_send (Prod.ext rfl (Prod.ext rfl hsend))
  case h_4 => cases loop <;> simp [returned] at hpc

lemma timed_ne_sampling {kind : TimeoutKind} {next : Task} (hnext : next.pc.isPlain = true)
    (result : TimedResult) (loop : Loop) (sample : Sample) (job : VerifyJob) (unsent : Bool) :
    (t.timed kind next result).1.pc ≠ .Sampling loop sample job unsent := by
  cases result with
  | Done => exact isPlain_ne_sampling hnext _ _ _ _
  | Failed | Elapsed => simp [timed, returned]

lemma sampling_of_step (h : t.step cfg sessionId e = some (t', effects)) {loop : Loop}
    (hpc : t'.pc = .Sampling loop sample job unsent) :
    ∃ p now later, e = .Message (.Text (.ok (.Partial p))) now later ∧ p.validate = .ok () ∧
      cfg.measured now = true ∧ sampleOf cfg sessionId p now t.sentTimes = some sample := by
  unfold step at h
  split at h <;> simp only [Option.some.injEq, reduceCtorEq] at h
  case h_2 | h_9 =>
    obtain ⟨rfl, rfl⟩ := Prod.ext_iff.mp h
    exact absurd hpc (timed_ne_sampling rfl _ _ _ _ _)
  case h_3 | h_5 =>
    obtain ⟨rfl, rfl⟩ := Prod.ext_iff.mp h
    exact absurd hpc (timed_ne_sampling (loopHead_isPlain _) _ _ _ _ _)
  case h_6 m now later _ | h_7 m now later _ =>
    obtain ⟨rfl, rfl⟩ := Prod.ext_iff.mp h
    obtain ⟨p, rfl, hread⟩ := message_sampling hpc
    exact ⟨p, now, later, rfl, hread⟩
  case h_8 loop' _ _ _ later _ =>
    obtain ⟨rfl, rfl⟩ := Prod.mk.inj h
    exact absurd hpc (isPlain_ne_sampling (resume_isPlain later loop') _ _ _ _)
  all_goals
    obtain ⟨rfl, rfl⟩ := Prod.mk.inj h
    simp [returned] at hpc

end Task

/-! ## Runs whose durations fit -/

def RunEvent.counted {n : ℕ} (cfg : Config) : RunEvent n → Option (Fin n × PartialMessage × Instant)
  | .Task i (.Message (.Text (.ok (.Partial p))) now _) =>
    if p.validate.isOk ∧ cfg.measured now then some (i, p, now) else none
  | _ => none

def Recordable (cfg : Config) {n : ℕ} (s : Run n) (e : RunEvent n) : Prop :=
  ∀ read ∈ e.counted cfg,
    (∀ sent ∈ (s.tasks read.1).sentTimes[read.2.1.newestFrameSeq.toNat - 1]?,
      read.2.2 < sent + (latencyMax + 1) * 1000) ∧
    (∀ sent ∈ (s.tasks read.1).sentTimes[read.2.1.oldestFrameSeq.toNat - 1]?,
      read.2.2 < sent + (latencyMax + 1) * 1000) ∧
    read.2.1.flushLatenessMs ≤ 60000

instance {n : ℕ} (s : Run n) (e : RunEvent n) : Decidable (Recordable cfg s e) :=
  inferInstanceAs (Decidable (∀ _ ∈ _, _))

lemma microsSince_le {now since : Instant} (h : now < since + (latencyMax + 1) * 1000) :
    microsSince now since ≤ latencyMax := by
  have hlt : now - since < (latencyMax + 1) * 1000 := by
    obtain hle | hle := Nat.le_total now since
    · rw [Nat.sub_eq_zero_of_le hle]
      decide
    · exact Nat.sub_lt_left_of_lt_add hle h
  exact Nat.lt_succ_iff.mp ((Nat.div_lt_iff_lt_mul (by decide)).mpr hlt)

lemma flushLatenessUs_le {ms : ℚ} (h : ms ≤ 60000) : flushLatenessUs ms ≤ latencyMax := by
  have hms : max ms 0 * 1000 ≤ (latencyMax : ℕ) := by
    have := max_le h (show (0 : ℚ) ≤ 60000 by norm_num)
    norm_num [latencyMax]
    linarith
  have hround := Binary64.roundFinite_le_natCast (by decide) hms
  have hnonneg := Binary64.roundFinite_nonneg
    (mul_nonneg (le_max_right ms 0) (show (0 : ℚ) ≤ 1000 by norm_num))
  have hsmall : |Binary64.roundFinite (max ms 0 * 1000)| < 2 ^ 1024 := by
    rw [abs_of_nonneg hnonneg]
    calc _ ≤ ((latencyMax : ℕ) : ℚ) := hround
      _ < 2 ^ 53 := by norm_num [latencyMax]
      _ ≤ 2 ^ 1024 := pow_le_pow_right₀ one_le_two (by decide)
  have hfloor : ⌊Binary64.roundFinite (max ms 0 * 1000) + 1 / 2⌋ < latencyMax + 1 := by
    rw [Int.floor_lt]
    push_cast
    linarith
  have hnearest : Binary64.nearest (max ms 0 * 1000) =
      .finite (Binary64.roundFinite (max ms 0 * 1000)) := if_pos hsmall
  unfold flushLatenessUs
  rw [hnearest]
  exact (min_le_left _ _).trans (by omega)

lemma fits_of_recordable {n : ℕ} {s : Run n} {i : Fin n} {p : PartialMessage} {now later : Instant}
    (hrecordable : Recordable cfg s (.Task i (.Message (.Text (.ok (.Partial p))) now later)))
    (hvalid : p.validate = .ok ()) (hmeasured : cfg.measured now = true) {sample : Sample}
    (hsample : sampleOf cfg i p now (s.tasks i).sentTimes = some sample) : sample.Fits := by
  obtain ⟨hnewest, holdest, hflush⟩ := hrecordable (i, p, now) (by
    simp [RunEvent.counted, hvalid, hmeasured, Except.isOk, Except.toBool])
  unfold sampleOf at hsample
  split at hsample
  · next newestSent oldestSent hn ho =>
      cases hsample
      exact ⟨microsSince_le (hnewest _ hn), microsSince_le (holdest _ ho),
        flushLatenessUs_le hflush⟩
  · cases hsample

structure Run.AllFit {n : ℕ} (s : Run n) : Prop where
  inHand : ∀ i loop sample job unsent, (s.tasks i).pc = .Sampling loop sample job unsent →
    sample.Fits
  emitted : ∀ sample ∈ s.shared.samples, sample.Fits

lemma allFit_inductive :
    ((loadgen cfg hdr).restrict (Recordable cfg)).Inductive Run.AllFit where
  init := by
    rintro s rfl
    refine ⟨?_, by simp [Run.start, Shared.create, Shared.samples]⟩
    intro i
    simp [Run.start, Task.spawn]
  step := by
    rintro s e s' hs ⟨hrecordable, h⟩
    cases e with
    | Task i e =>
      obtain ⟨t, effects, hstep, rfl⟩ := Run.step_task h
      refine ⟨?_, ?_⟩
      · intro j loop sample job unsent hpc
        by_cases hj : j = i
        · subst hj
          dsimp only at hpc
          rw [Function.update_self] at hpc
          obtain ⟨p, now, later, rfl, hvalid, hmeasured, hsample⟩ :=
            Task.sampling_of_step hstep hpc
          exact fits_of_recordable hrecordable hvalid hmeasured hsample
        · dsimp only at hpc
          rw [Function.update_of_ne hj] at hpc
          exact hs.inHand j _ _ _ _ hpc
      · intro sample hmem
        rw [Shared.foldl_apply_samples] at hmem
        obtain hmem | hmem := mem_append.mp hmem
        · exact hs.emitted sample hmem
        · obtain ⟨loop, job, unsent, hpc⟩ := (Task.steps_of_step hstep).samples hmem
          exact hs.inHand i _ _ _ _ hpc
    | _ =>
      obtain ⟨htasks, htotals⟩ := Run.sameTotals_of_step h (by simp)
      exact ⟨htasks ▸ hs.inHand, htotals.samples ▸ hs.emitted⟩

theorem histograms_complete {s : Run cfg.sessions}
    (hs : ((loadgen cfg hdr).restrict (Recordable cfg)).Reachable s) :
    s.shared.newestHist.values = s.shared.received.map Sample.newestUs ∧
      s.shared.oldestHist.values = s.shared.received.map Sample.oldestUs ∧
      s.shared.flushHist.values = s.shared.received.map Sample.flushLatenessUs := by
  have hfit : ∀ sample ∈ s.shared.received, sample.Fits := by
    intro sample hmem
    exact (allFit_inductive.reachable hs).emitted sample (mem_append_left _ hmem)
  obtain ⟨hnewest, holdest, hflush⟩ := recorded_inductive.reachable hs.of_restrict
  refine ⟨hnewest.values_eq ?_, holdest.values_eq ?_, hflush.values_eq ?_⟩
  · exact forall_mem_map.mpr fun sample hmem => hdr.accepts_le _ _ (hfit sample hmem).newest
  · exact forall_mem_map.mpr fun sample hmem => hdr.accepts_le _ _ (hfit sample hmem).oldest
  · exact forall_mem_map.mpr fun sample hmem => hdr.accepts_le _ _ (hfit sample hmem).flush

theorem histograms_complete_twoFrames :
    ∃ s, ((loadgen twoFrameSession hdrHistogram).restrict
        (Recordable twoFrameSession)).Reachable s ∧
      s.shared.received.length = 2 ∧
      s.shared.newestHist.values = s.shared.received.map Sample.newestUs ∧
      s.shared.oldestHist.values = s.shared.received.map Sample.oldestUs ∧
      s.shared.flushHist.values = s.shared.received.map Sample.flushLatenessUs := by
  obtain ⟨s, hs, hlength⟩ : ∃ s, ((loadgen twoFrameSession hdrHistogram).restrict
      (Recordable twoFrameSession)).Reachable s ∧ s.shared.received.length = 2 :=
    Reachable.exists_of_guarded twoFrames (by decide +kernel)
  exact ⟨s, hs, hlength, histograms_complete hs⟩

def lateFrame : List (RunEvent 1) :=
  [.Task 0 .Wake, .Task 0 (.Timed .Done 0 0), .Task 0 (.Timed .Done 0 0), .Task 0 (.Tick 0),
   .Task 0 (.Timed .Done 0 1),
   .Task 0 (.Message (.Text (.ok (.Partial { onePartial with flushLatenessMs := 600000 }))) 5 200),
   .Task 0 (.SampleSent 200), .Receive]

theorem lateness_lost :
    ∃ s, (loadgen oneSession hdrHistogram).Reachable s ∧
      s.shared.received.map Sample.flushLatenessUs = [600000000] ∧
      s.shared.flushHist.values = [] :=
  Reachable.exists_of_exec lateFrame (by decide +kernel)

end SttBench.Loadgen
