import SttBench.Loadgen.Run

/-! # Load generator: what a session without a correctness error has been told -/

namespace SttBench.Loadgen

open TransitionSystem List

/-! ## Tiling -/

def highest (responses : List Response) : ℕ :=
  responses.foldl (fun h r => if wellFormed r.oldest r.newest then max h r.newest.toNat else h) 0

def Response.Covers (r : Response) (frame : ℕ) : Prop :=
  wellFormed r.oldest r.newest ∧ r.oldest.toNat ≤ frame ∧ frame ≤ r.newest.toNat

def Continues (responses : List Response) (r : Response) : Prop :=
  wellFormed r.oldest r.newest ∧ r.oldest.toNat = highest responses + 1

def Tiled (responses : List Response) : Prop :=
  ∀ j r, responses[j]? = some r → r.measured = true → Continues (responses.take j) r

lemma highest_concat (responses : List Response) (r : Response) :
    highest (responses ++ [r]) =
      if wellFormed r.oldest r.newest then max (highest responses) r.newest.toNat
      else highest responses := by
  simp [highest]

variable {responses : List Response} {messageType : MessageType} {mismatches : List Mismatch}
  {oldest newest : ℕ} {p : PartialMessage}

lemma newest_le_highest {r : Response} (hr : r ∈ responses)
    (hwell : wellFormed r.oldest r.newest) : r.newest.toNat ≤ highest responses := by
  induction responses using List.reverseRecOn with
  | nil => cases hr
  | append_singleton responses last ih =>
    rw [highest_concat]
    rcases mem_append.mp hr with hr | hr
    · have hle := ih hr
      split_ifs
      · exact hle.trans (le_max_left _ _)
      · exact hle
    · obtain rfl := mem_singleton.mp hr
      rw [if_pos hwell]
      exact le_max_right _ _

lemma Tiled.concat {r : Response} (h : Tiled responses)
    (hr : r.measured = true → Continues responses r) : Tiled (responses ++ [r]) := by
  intro j q hj hq
  rcases Nat.lt_or_ge j responses.length with hlt | hge
  · rw [List.getElem?_append_left hlt] at hj
    rw [take_append_of_le_length hlt.le]
    exact h j q hj hq
  · rw [List.getElem?_append_right hge] at hj
    obtain ⟨hzero, rfl⟩ : j - responses.length = 0 ∧ r = q := by
      simpa [List.getElem?_singleton] using hj
    obtain rfl : j = responses.length := by omega
    simpa using hr hq

lemma Tiled.disjoint (h : Tiled responses) {j k : ℕ} {r r' : Response}
    (hjk : j < k) (hj : responses[j]? = some r) (hk : responses[k]? = some r')
    (hr' : r'.measured = true) {frame : ℕ} (hcovers : r.Covers frame) : ¬ r'.Covers frame := by
  intro hcovers'
  have hmem : r ∈ responses.take k := by
    refine mem_of_getElem? (i := j) ?_
    rw [List.getElem?_take_of_lt hjk]
    exact hj
  have hle : r.newest.toNat ≤ highest (responses.take k) := newest_le_highest hmem hcovers.1
  have hstart := (h k r' hk hr').2
  have h₁ := hcovers.2.2
  have h₂ := hcovers'.2.1
  omega

/-! ## What is recorded -/

def Effect.Flags (sessionId : ℕ) : Effect → Prop
  | .Record r => r.sessionId = sessionId
  | .Submit job => job.sessionId = sessionId ∧ job.inline ≠ []
  | _ => False

def Flagged (sessionId : ℕ) (effects : List Effect) : Prop := ∃ e ∈ effects, e.Flags sessionId

variable {cfg : Config} {sessionId : ℕ} {now : Instant} {sentTimes : List Instant}
  {check : SessionCheck}

lemma Record.exists_of (h : mismatches ≠ []) :
    ∃ r ∈ Record.of sessionId messageType oldest newest mismatches, r.sessionId = sessionId := by
  refine ⟨⟨sessionId, messageType, oldest, newest, mismatches⟩, ?_, rfl⟩
  simp [Record.of, h]

lemma flagged_record (h : mismatches ≠ []) :
    Flagged sessionId (record sessionId messageType oldest newest mismatches) := by
  obtain ⟨r, hmem, hr⟩ := Record.exists_of h
  exact ⟨.Record r, mem_map_of_mem hmem, hr⟩

lemma flagged_selectPartial {job : VerifyJob} {unsent : Bool} (hjob : job.sessionId = sessionId)
    (h : job.inline ≠ []) : Flagged sessionId (selectPartial cfg check job unsent).2 := by
  subst hjob
  simp only [selectPartial]
  split_ifs
  · exact ⟨_, mem_singleton.mpr rfl, rfl, h⟩
  · exact flagged_record h

lemma selectPartial_continuity {job : VerifyJob} {unsent : Bool} :
    (selectPartial cfg check job unsent).1.continuity = check.continuity := by
  simp only [selectPartial]
  split_ifs <;> rfl

def Processed.Holds (sessionId : ℕ) : Processed → Prop
  | .Send _ job _ => job.sessionId = sessionId ∧ job.inline ≠ []
  | _ => False

lemma processPartial_continuity (p : PartialMessage) :
    (processPartial cfg sessionId now sentTimes check p).1.continuity =
      (check.continuity.observe p.oldestFrameSeq p.newestFrameSeq).2 := by
  simp only [processPartial]
  split
  · rfl
  · split
    · rfl
    · split
      · rfl
      · rw [selectPartial_continuity]

lemma processPartial_flags (hnow : cfg.measured now = true)
    (hmismatch : (check.continuity.observe p.oldestFrameSeq p.newestFrameSeq).1 ≠ none) :
    Flagged sessionId (processPartial cfg sessionId now sentTimes check p).2.1 ∨
      (processPartial cfg sessionId now sentTimes check p).2.2.Holds sessionId := by
  have hne : ∀ rest : List Mismatch,
      (check.continuity.observe p.oldestFrameSeq p.newestFrameSeq).1.toList ++ rest ≠ [] := by
    intro rest
    simp [Option.toList_eq_nil_iff, hmismatch]
  simp only [processPartial, hnow, not_true_eq_false, if_false]
  split
  · exact .inl (flagged_record (hne _))
  · split
    · exact .inr ⟨rfl, hne _⟩
    · exact .inl (flagged_selectPartial rfl (hne _))

lemma processError_flags {e : ErrorMessage} (hnow : cfg.measured now = true)
    (hmismatch : (check.continuity.observe e.oldestFrameSeq e.newestFrameSeq).1 ≠ none) :
    Flagged sessionId (processError cfg sessionId now check e).2.1 := by
  simp only [processError, hnow, if_true]
  have hne : (check.continuity.observe e.oldestFrameSeq e.newestFrameSeq).1.toList ≠ [] := by
    simpa [Option.toList_eq_nil_iff] using hmismatch
  obtain ⟨effect, hmem, hflags⟩ : Flagged sessionId (record sessionId .Error _ _ _) :=
    flagged_record hne
  exact ⟨effect, mem_append_left _ hmem, hflags⟩

lemma processInbound_response {m : Inbound} {r : Response}
    (hr : m.response cfg now sentTimes.length = some r) :
    (processInbound cfg sessionId now sentTimes check m).1.continuity =
        (check.continuity.observe r.oldest r.newest).2 ∧
      (r.measured = true → (check.continuity.observe r.oldest r.newest).1 ≠ none →
        Flagged sessionId (processInbound cfg sessionId now sentTimes check m).2.1 ∨
          (processInbound cfg sessionId now sentTimes check m).2.2.Holds sessionId) := by
  match m, hr with
  | .Text (.ok (.Partial p)), hr =>
    cases hr
    exact ⟨processPartial_continuity p, processPartial_flags⟩
  | .Text (.ok (.Error e)), hr =>
    cases hr
    exact ⟨rfl, fun hnow hmismatch => .inl (processError_flags hnow hmismatch)⟩

lemma processInbound_other {m : Inbound} (hm : m.response cfg now sentTimes.length = none) :
    (processInbound cfg sessionId now sentTimes check m).1 = check := by
  match m, hm with
  | .Close, _ | .Closed, _ | .Failed, _ | .Binary _, _ | .Control, _ | .Text (.error _), _ => rfl

/-! ## A session task -/

namespace Task

variable {t t' : Task} {effects : List Effect}

def Tracks (t : Task) : Prop := t.check.continuity.lastNewest.toNat = highest t.responses

def TailReported (cfg : Config) (t : Task) : Prop :=
  (∃ sentAt ∈ t.sentTimes, cfg.measureStart ≤ sentAt) →
    t.sentTimes.length ≤ highest t.responses + 300

def Holds (sessionId : ℕ) (t : Task) : Prop :=
  match t.pc with
  | .Sampling _ _ job _ => job.sessionId = sessionId ∧ job.inline ≠ []
  | _ => False

def Clean (cfg : Config) (t : Task) : Prop :=
  Tiled t.responses ∧ (t.pc.succeeded = true → t.TailReported cfg)

lemma continues_of_observe {r : Response} (ht : t.Tracks)
    (h : (t.check.continuity.observe r.oldest r.newest).1 = none) : Continues t.responses r := by
  obtain ⟨hwell, hstart⟩ := Continuity.observe_eq_none_iff.mp h
  refine ⟨hwell, ?_⟩
  rw [← ht, hstart]
  -- the sum does not wrap: the range does not start at 0
  have hpos : t.check.continuity.lastNewest + 1 ≠ 0 := by
    rw [← hstart]
    exact UInt64.pos_iff_ne_zero.mp hwell.1
  have hlt := t.check.continuity.lastNewest.toNat_lt
  rw [Ne, ← UInt64.toNat_inj] at hpos
  simp only [UInt64.toNat_add, UInt64.toNat_one, UInt64.toNat_zero] at hpos ⊢
  omega

lemma tracks_observe {r : Response} (ht : t.Tracks) :
    (t.check.continuity.observe r.oldest r.newest).2.lastNewest.toNat =
      highest (t.responses ++ [r]) := by
  rw [Continuity.observe_lastNewest, highest_concat, ← ht]
  split_ifs
  · exact UInt64.toNat_max _ _
  · rfl

structure OnTime (t : Task) : Prop where
  early : t.pc.isEarly = true → t.sentTimes = []
  sorted : t.sentTimes.Pairwise (· ≤ ·)
  le : ∀ sentAt ∈ t.sentTimes, sentAt ≤ t.nextTick

lemma OnTime.keep (h : t.OnTime) (hsent : t'.sentTimes = t.sentTimes)
    (htick : t.nextTick ≤ t'.nextTick) (hpc : t'.pc.isEarly = true → t.pc.isEarly = true) :
    t'.OnTime := by
  refine ⟨?_, ?_, ?_⟩
  · intro hearly
    rw [hsent]
    exact h.early (hpc hearly)
  · rw [hsent]
    exact h.sorted
  · rw [hsent]
    exact fun sentAt hmem => (h.le sentAt hmem).trans htick

lemma isEarly_loopHead (later : Instant) : (loopHead cfg later).isEarly = false := by
  unfold loopHead
  split_ifs <;> rfl

lemma isEarly_resume (later : Instant) (loop : Loop) : (resume cfg later loop).isEarly = false := by
  cases loop with
  | Streaming => exact isEarly_loopHead later
  | Closing => rfl

lemma OnTime.timed {kind : TimeoutKind} {next : Task} (h : t.OnTime) (hnext : next.OnTime)
    (result : TimedResult) : (t.timed kind next result).1.OnTime := by
  cases result with
  | Done => exact hnext
  | Failed | Elapsed => exact h.keep rfl le_rfl nofun

variable {m : Inbound}

lemma OnTime.message {loop : Loop} {later : Instant} (h : t.OnTime) :
    (t.message cfg sessionId loop m now later).1.OnTime := by
  simp only [Task.message]
  split
  · exact h.keep rfl le_rfl (by rintro ⟨⟩)
  · exact h.keep rfl le_rfl (by simp [isEarly_resume])
  · exact h.keep rfl le_rfl (by rintro ⟨⟩)
  · split
    · exact h.keep rfl le_rfl (by rintro ⟨⟩)
    · exact h.keep rfl le_rfl (by rintro ⟨⟩)

lemma onTime_step {e : TaskEvent} (h : t.OnTime)
    (hstep : t.step cfg sessionId e = some (t', effects)) : t'.OnTime := by
  unfold step at hstep
  split at hstep <;> simp only [Option.some.injEq, reduceCtorEq] at hstep <;>
    obtain ⟨rfl, rfl⟩ := Prod.ext_iff.mp hstep
  case h_1 hpc => exact h.keep rfl le_rfl (by simp [hpc, Pc.isEarly])
  case h_2 hpc =>
    refine h.timed ?_ _
    exact h.keep rfl le_rfl (by simp [hpc, Pc.isEarly])
  case h_3 hpc =>
    -- the first tick is set
    have hnil : t.sentTimes = [] := h.early (by rw [hpc]; rfl)
    refine h.timed ?_ _
    exact ⟨fun _ => hnil, h.sorted, by simp [hnil]⟩
  case h_4 hpc =>
    refine ⟨nofun, ?_, ?_⟩
    · refine pairwise_append.mpr ⟨h.sorted, pairwise_singleton _ _, ?_⟩
      intro a ha b hb
      exact (h.le a ha).trans_eq (mem_singleton.mp hb).symm
    · intro a ha
      rcases mem_append.mp ha with ha | ha
      · exact h.le a ha
      · exact (mem_singleton.mp ha).le
  case h_5 hpc =>
    refine h.timed ?_ _
    exact h.keep rfl (Nat.le_add_right _ _) (by simp [isEarly_loopHead])
  case h_6 | h_7 => exact h.message
  case h_8 => exact h.keep rfl le_rfl (by simp [isEarly_resume])
  case h_9 =>
    refine h.timed ?_ _
    exact h.keep rfl le_rfl nofun
  case h_10 | h_11 | h_14 => exact h.keep rfl le_rfl nofun

lemma tail_reported (ht : t.Tracks) (hontime : t.OnTime) :
    t.TailReported cfg ∨ Flagged sessionId (checkSessionTail cfg sessionId t) := by
  cases hlast : t.sentTimes.getLast? with
  | none =>
    left
    rintro ⟨sentAt, hmem, -⟩
    simp [List.getLast?_eq_none_iff.mp hlast] at hmem
  | some last =>
    by_cases hbefore : last < cfg.measureStart
    · -- then every frame was sent before the window
      left
      rintro ⟨sentAt, hmem, hat⟩
      have hle : sentAt ≤ last := by
        obtain ⟨init, hinit⟩ := List.getLast?_eq_some_iff.mp hlast
        have hsorted := hontime.sorted
        rw [hinit] at hmem hsorted
        rcases mem_append.mp hmem with hmem | hmem
        · exact (pairwise_append.mp hsorted).2.2 sentAt hmem last (mem_singleton_self _)
        · exact (mem_singleton.mp hmem).le
      exact absurd (hat.trans hle) (Nat.not_le_of_lt hbefore)
    · cases htail : checkTail t.sentTimes.length t.check.continuity.lastNewest with
      | none =>
        left
        intro _
        rw [← ht]
        exact checkTail_eq_none_iff.mp htail
      | some mismatch =>
        right
        simp only [checkSessionTail, hlast, hbefore, if_false, htail]
        exact flagged_record (by simp)

def Accounted (cfg : Config) (sessionId : ℕ) (t : Task) : Prop :=
  t.pc.failed = true ∨ t.Clean cfg ∨ t.Holds sessionId

lemma Clean.of_isPlain (h : Tiled t.responses) (hpc : t.pc.isPlain = true) : t.Clean cfg := by
  refine ⟨h, ?_⟩
  intro hsucceeded
  cases hpc' : t.pc <;> simp_all [Pc.isPlain, Pc.succeeded]

lemma Accounted.tiled (h : t.Accounted cfg sessionId) (hpc : t.pc.isPlain = true) :
    Tiled t.responses := by
  rcases h with h | h | h
  · cases hpc' : t.pc <;> simp_all [Pc.isPlain, Pc.failed]
  · exact h.1
  · cases hpc' : t.pc <;> simp_all [Pc.isPlain, Holds]

lemma tiled_message (ht : t.Tracks) (htiled : Tiled t.responses) :
    Tiled (t.responses ++ (m.response cfg now t.sentTimes.length).toList) ∨
      Flagged sessionId (processInbound cfg sessionId now t.sentTimes t.check m).2.1 ∨
      (processInbound cfg sessionId now t.sentTimes t.check m).2.2.Holds sessionId := by
  cases hr : m.response cfg now t.sentTimes.length with
  | none => exact .inl (by simpa using htiled)
  | some r =>
    by_cases hmismatch : (t.check.continuity.observe r.oldest r.newest).1 = none
    · exact .inl (htiled.concat fun _ => continues_of_observe ht hmismatch)
    · cases hmeasured : r.measured with
      | false => exact .inl (htiled.concat (by simp [hmeasured]))
      | true => exact .inr ((processInbound_response hr).2 hmeasured hmismatch)

lemma tracks_message (ht : t.Tracks) :
    (processInbound cfg sessionId now t.sentTimes t.check m).1.continuity.lastNewest.toNat =
      highest (t.responses ++ (m.response cfg now t.sentTimes.length).toList) := by
  cases hr : m.response cfg now t.sentTimes.length with
  | none =>
    rw [processInbound_other hr, Option.toList_none, append_nil]
    exact ht
  | some r =>
    rw [(processInbound_response hr).1]
    exact tracks_observe ht

lemma message_accounted {loop : Loop} {later : Instant} (ht : t.Tracks)
    (hontime : t.OnTime) (htiled : Tiled t.responses) :
    (t.message cfg sessionId loop m now later).1.Accounted cfg sessionId ∨
      Flagged sessionId (t.message cfg sessionId loop m now later).2 := by
  have hcase : Tiled (t.responses ++ (m.response cfg now t.sentTimes.length).toList) ∨
      Flagged sessionId (processInbound cfg sessionId now t.sentTimes t.check m).2.1 ∨
      (processInbound cfg sessionId now t.sentTimes t.check m).2.2.Holds sessionId :=
    tiled_message ht htiled
  have htracks : (processInbound cfg sessionId now t.sentTimes t.check m).1.continuity.lastNewest.toNat
      = highest (t.responses ++ (m.response cfg now t.sentTimes.length).toList) :=
    tracks_message ht
  simp only [message]
  generalize processInbound cfg sessionId now t.sentTimes t.check m = p at hcase htracks ⊢
  generalize t.responses ++ (m.response cfg now t.sentTimes.length).toList = responses
    at hcase htracks ⊢
  obtain ⟨check', effects, processed⟩ := p
  cases processed with
  | Failed => exact .inl (.inl rfl)
  | Open =>
    rcases hcase with htiled' | hflagged | hholds
    · exact .inl (.inr (.inl (.of_isPlain htiled' (resume_isPlain later loop))))
    · exact .inr hflagged
    · exact hholds.elim
  | Send sample job unsent =>
    rcases hcase with htiled' | hflagged | hholds
    · exact .inl (.inr (.inl ⟨htiled', (by rintro ⟨⟩)⟩))
    · exact .inr hflagged
    · exact .inl (.inr (.inr hholds))
  | Closed =>
    cases loop with
    | Streaming => exact .inl (.inl rfl)
    | Closing =>
      rcases hcase with htiled' | ⟨e, hmem, hflags⟩ | hholds
      · -- the session has come to its end: the tail is looked at
        have htail : TailReported cfg { t with check := check', responses := responses } ∨
            Flagged sessionId (checkSessionTail cfg sessionId
              { t with check := check', responses := responses }) :=
          tail_reported htracks (hontime.keep rfl le_rfl id)
        rcases htail with htail | ⟨e, hmem, hflags⟩
        · exact .inl (.inr (.inl ⟨htiled', fun _ => htail⟩))
        · exact .inr ⟨e, mem_append_right _ hmem, hflags⟩
      · exact .inr ⟨e, mem_append_left _ hmem, hflags⟩
      · exact hholds.elim

theorem steps_accounted (h : Steps cfg sessionId t t' effects) (ht : t.Tracks)
    (hontime : t.OnTime) (hacc : t.Accounted cfg sessionId) :
    t'.Accounted cfg sessionId ∨ Flagged sessionId effects := by
  cases h with
  | waits hpc hpc' _ hresponses =>
    exact .inl (.inr (.inl (.of_isPlain (hresponses ▸ hacc.tiled hpc) hpc')))
  | stopped _ houtcome _ =>
    refine .inl (.inl ?_)
    simpa [returned, Pc.failed] using houtcome
  | message loop m now later hpc => exact message_accounted ht hontime (hacc.tiled hpc)
  | @sampled loop sample job unsent later hpc =>
    rcases hacc with hfailed | hclean | hholds
    · simp [hpc, Pc.failed] at hfailed
    · exact .inl (.inr (.inl (.of_isPlain hclean.1 (resume_isPlain later loop))))
    · simp only [Holds, hpc] at hholds
      obtain ⟨e, hmem, hflags⟩ : Flagged sessionId (selectPartial cfg t.check job unsent).2 :=
        flagged_selectPartial hholds.1 hholds.2
      exact .inr ⟨e, mem_cons_of_mem _ hmem, hflags⟩
  | finished hpc =>
    left
    rcases hacc with hfailed | hclean | hholds
    · refine .inl ?_
      simpa [hpc, Pc.failed] using hfailed
    · refine .inr (.inl ⟨hclean.1, ?_⟩)
      intro hsucceeded
      exact hclean.2 (by simpa [hpc, Pc.succeeded] using hsucceeded)
    · simp [Holds, hpc] at hholds

lemma steps_tracks (h : Steps cfg sessionId t t' effects) (ht : t.Tracks) : t'.Tracks := by
  cases h with
  | waits _ _ hcheck hresponses =>
    unfold Tracks
    rw [hcheck, hresponses]
    exact ht
  | stopped _ _ _ | finished _ => exact ht
  | message loop m now later _ =>
    unfold Tracks
    rw [message_check, message_responses]
    exact tracks_message ht
  | sampled later _ =>
    unfold Tracks
    rw [selectPartial_continuity]
    exact ht

end Task

/-! ## The run -/

namespace Shared

variable {sh : Shared} {i : ℕ}

def Flagged (i : ℕ) (sh : Shared) : Prop :=
  (∃ r ∈ sh.records, r.sessionId = i) ∨
    ∃ job, (job ∈ sh.queue ∨ sh.verifying = some job) ∧ job.sessionId = i ∧ job.inline ≠ []

lemma Flagged.mono {sh' : Shared} (h : sh.Flagged i) (hrecords : sh.records ⊆ sh'.records)
    (hqueue : sh.queue ⊆ sh'.queue) (hverifying : sh'.verifying = sh.verifying) : sh'.Flagged i := by
  rcases h with ⟨r, hmem, hr⟩ | ⟨job, hmem | hmem, hjob⟩
  · exact .inl ⟨r, hrecords hmem, hr⟩
  · exact .inr ⟨job, .inl (hqueue hmem), hjob⟩
  · exact .inr ⟨job, .inr (hverifying.trans hmem), hjob⟩

lemma Flagged.apply (h : sh.Flagged i) (k : ℕ) (e : Effect) : (sh.apply k e).Flagged i := by
  cases e with
  | Record r => exact h.mono (subset_append_left _ _) (List.Subset.refl _) rfl
  | Submit job =>
    simp only [Shared.apply, submitVerify, record]
    split_ifs
    · exact h.mono (List.Subset.refl _) (subset_append_left _ _) rfl
    · exact h.mono (subset_append_left _ _) (List.Subset.refl _) rfl
  | Sample _ | Timeout _ | InferenceError | ProtocolError | Merge _ _ =>
    exact h.mono (List.Subset.refl _) (List.Subset.refl _) rfl

lemma flagged_apply {e : Effect} (h : e.Flags i) (k : ℕ) : (sh.apply k e).Flagged i := by
  cases e with
  | Record r => exact .inl ⟨r, by simp [Shared.apply], h⟩
  | Submit job =>
    obtain ⟨hid, hinline⟩ := h
    simp only [Shared.apply, submitVerify, record]
    split_ifs
    · exact .inr ⟨job, .inl (by simp), hid, hinline⟩
    · obtain ⟨r, hmem, hr⟩ := Record.exists_of hinline
      exact .inl ⟨r, mem_append_right _ hmem, hr.trans hid⟩
  | Sample _ | Timeout _ | InferenceError | ProtocolError | Merge _ _ => exact h.elim

lemma Flagged.foldl (h : sh.Flagged i) (k : ℕ) (effects : List Effect) :
    (effects.foldl (Shared.apply k) sh).Flagged i :=
  Tally.foldl_keep (P := Flagged i) (fun _ e hsh => hsh.apply k e) effects h

lemma flagged_foldl {effects : List Effect} (h : Loadgen.Flagged i effects) (k : ℕ) :
    (effects.foldl (Shared.apply k) sh).Flagged i := by
  induction effects generalizing sh with
  | nil => simp [Loadgen.Flagged] at h
  | cons e es ih =>
    obtain ⟨e', hmem, hflags⟩ := h
    rcases mem_cons.mp hmem with rfl | hmem
    · exact (flagged_apply hflags k).foldl k es
    · exact ih ⟨e', hmem, hflags⟩

lemma Flagged.verify (h : sh.Flagged i) {job : VerifyJob} (hjob : sh.verifying = some job) :
    (sh.verify cfg job).Flagged i := by
  rcases h with ⟨r, hmem, hr⟩ | ⟨job', hmem | hmem, hid, hinline⟩
  · exact .inl ⟨r, mem_append_left _ hmem, hr⟩
  · exact .inr ⟨job', .inl hmem, hid, hinline⟩
  · obtain rfl : job = job' := Option.some.inj (hjob.symm.trans hmem)
    obtain ⟨r, hmem, hr⟩ := Record.exists_of (append_ne_nil_of_left_ne_nil hinline _)
    exact .inl ⟨r, mem_append_right _ hmem, hr.trans hid⟩

lemma Flagged.recorded (h : sh.Flagged i) (hqueue : sh.queue = [])
    (hverifying : sh.verifying = none) : ∃ r ∈ sh.records, r.sessionId = i := by
  rcases h with h | ⟨job, hmem | hmem, -⟩
  · exact h
  · simp [hqueue] at hmem
  · simp [hverifying] at hmem

end Shared

variable {hdr : Hdr}

namespace Run

variable {n : ℕ} {s s' : Run n}

structure AllAccounted (cfg : Config) (s : Run n) : Prop where
  tracks : ∀ i, (s.tasks i).Tracks
  onTime : ∀ i, (s.tasks i).OnTime
  accounted : ∀ i : Fin n, (s.tasks i).Accounted cfg i ∨ s.shared.Flagged i

lemma accounted_task {i : Fin n} {e : TaskEvent} (hs : s.AllAccounted cfg)
    (h : s.step cfg hdr (.Task i e) = some s') : s'.AllAccounted cfg := by
  obtain ⟨t, effects, hstep, rfl⟩ := step_task h
  have hsteps := Task.steps_of_step hstep
  refine ⟨?_, ?_, ?_⟩
  · intro j
    by_cases hj : j = i
    · subst hj
      simpa using Task.steps_tracks hsteps (hs.tracks j)
    · simpa [hj] using hs.tracks j
  · intro j
    by_cases hj : j = i
    · subst hj
      simpa using Task.onTime_step (hs.onTime j) hstep
    · simpa [hj] using hs.onTime j
  · intro j
    by_cases hj : j = i
    · subst hj
      rcases hs.accounted j with hacc | hflagged
      · rcases Task.steps_accounted hsteps (hs.tracks j) (hs.onTime j) hacc with hacc' | hflags
        · exact .inl (by simpa using hacc')
        · exact .inr (Shared.flagged_foldl hflags j)
      · exact .inr (hflagged.foldl j effects)
    · rcases hs.accounted j with hacc | hflagged
      · exact .inl (by simpa [hj] using hacc)
      · exact .inr (hflagged.foldl i effects)

lemma AllAccounted.keep (hs : s.AllAccounted cfg) {sh : Shared} {main : Main}
    (h : ∀ i, s.shared.Flagged i → sh.Flagged i) :
    AllAccounted cfg { s with shared := sh, main := main } :=
  ⟨hs.tracks, hs.onTime, fun i => (hs.accounted i).imp_right (h i)⟩

end Run

lemma accounted_inductive :
    (loadgen cfg hdr).Inductive (Run.AllAccounted cfg) where
  init := by
    rintro s rfl
    refine ⟨fun _ => rfl, fun _ => ⟨fun _ => rfl, List.Pairwise.nil, nofun⟩, fun _ => .inl ?_⟩
    exact .inr (.inl ⟨nofun, nofun⟩)
  step := by
    intro s e s' hs h
    cases e with
    | Task i e => exact Run.accounted_task hs h
    | Take =>
      simp only [loadgen, ofFun, Run.step] at h
      split at h <;> simp only [Option.some.injEq, reduceCtorEq] at h
      case h_1 job rest hnone hqueue =>
        subst h
        refine hs.keep ?_
        rintro i (hrecord | ⟨job', hmem | hmem, hjob⟩)
        · exact .inl hrecord
        · rw [hqueue] at hmem
          rcases mem_cons.mp hmem with rfl | hmem
          · exact .inr ⟨job', .inr rfl, hjob⟩
          · exact .inr ⟨job', .inl hmem, hjob⟩
        · simp [hnone] at hmem
    | Verify =>
      simp only [loadgen, ofFun, Run.step] at h
      split at h <;> simp only [Option.some.injEq, reduceCtorEq] at h
      case h_1 job hverifying =>
        subst h
        exact hs.keep fun i hflagged => hflagged.verify hverifying
    | Receive =>
      simp only [loadgen, ofFun, Run.step] at h
      split at h <;> simp only [Option.some.injEq, reduceCtorEq] at h
      subst h
      exact hs.keep fun i hflagged => hflagged
    | Closed | Joined | Drained =>
      simp only [loadgen, ofFun, Run.step] at h
      split at h <;> try cases h
      split_ifs at h
      cases h
      exact hs.keep fun i hflagged => hflagged

theorem coverage_sound {s : Run cfg.sessions} {out : Output}
    (hs : (loadgen cfg hdr).Reachable s) (hprinted : s.main = .Printed out)
    (i : Fin cfg.sessions) (hclean : (s.tasks i).pc = .Recorded .Ok)
    (hnone : ∀ r ∈ s.shared.records, r.sessionId ≠ i) :
    (∀ (j : ℕ) (r : Response), (s.tasks i).responses[j]? = some r → r.measured = true →
      wellFormed r.oldest r.newest ∧
        r.oldest.toNat = highest ((s.tasks i).responses.take j) + 1) ∧
    (∀ (j k : ℕ) (r r' : Response), j < k → (s.tasks i).responses[j]? = some r →
      (s.tasks i).responses[k]? = some r' → r.measured = true → r'.measured = true →
        ∀ frame, r.Covers frame → ¬ r'.Covers frame) ∧
    ((∃ sentAt ∈ (s.tasks i).sentTimes, cfg.measureStart ≤ sentAt) →
      (s.tasks i).sentTimes.length ≤ highest (s.tasks i).responses + 300) := by
  obtain ⟨-, -, hqueue, hverifying, -⟩ := Run.printed_final hs hprinted
  have hnot : ¬ s.shared.Flagged i := by
    intro hflagged
    obtain ⟨r, hmem, hr⟩ := hflagged.recorded hqueue hverifying
    exact hnone r hmem hr
  have hacc := ((accounted_inductive.reachable hs).accounted i).resolve_right hnot
  have hgood : (s.tasks i).Clean cfg := by
    rcases hacc with hfailed | hgood | hholds
    · simp [hclean, Pc.failed] at hfailed
    · exact hgood
    · simp [Task.Holds, hclean] at hholds
  refine ⟨hgood.1, ?_, hgood.2 (by simp [hclean, Pc.succeeded])⟩
  intro j k r r' hjk hj hk _ hr' frame hcovers
  exact hgood.1.disjoint hjk hj hk hr' hcovers

theorem coverage_sound_twoFrames :
    ∃ s : Run 1, (loadgen twoFrameSession hdrHistogram).Reachable s ∧
      (s.tasks 0).responses = [⟨1, 1, false, true, 1⟩, ⟨2, 2, false, true, 2⟩] ∧
      (∀ (j : ℕ) (r : Response), (s.tasks 0).responses[j]? = some r → r.measured = true →
        wellFormed r.oldest r.newest ∧
          r.oldest.toNat = highest ((s.tasks 0).responses.take j) + 1) ∧
      (∀ (j k : ℕ) (r r' : Response), j < k → (s.tasks 0).responses[j]? = some r →
        (s.tasks 0).responses[k]? = some r' → r.measured = true → r'.measured = true →
          ∀ frame, r.Covers frame → ¬ r'.Covers frame) ∧
      ((∃ sentAt ∈ (s.tasks 0).sentTimes, 0 ≤ sentAt) →
        (s.tasks 0).sentTimes.length ≤ highest (s.tasks 0).responses + 300) := by
  obtain ⟨s, hreach, hmain, hpc, -, hnone, hresponses⟩ := twoFrames_printed
  exact ⟨s, hreach, hresponses, coverage_sound hreach hmain (0 : Fin 1) hpc (by simp [hnone])⟩

/-! ## Frames that have not been sent -/

def Recorded (effects : List Effect) : Prop := ∃ r, Effect.Record r ∈ effects

lemma recorded_record_iff :
    Recorded (record sessionId messageType oldest newest mismatches) ↔ mismatches ≠ [] := by
  unfold Recorded record Record.of
  split_ifs with h <;> simp [h]

lemma sampleOf_eq_none (h : sentTimes.length < p.newestFrameSeq.toNat) :
    sampleOf cfg sessionId p now sentTimes = none := by
  have hnone : sentTimes[p.newestFrameSeq.toNat - 1]? = none := by
    rw [List.getElem?_eq_none_iff]
    omega
  simp [sampleOf, hnone]

lemma recorded_processPartial (hnow : cfg.measured now = true)
    (hunsent : sentTimes.length < p.newestFrameSeq.toNat) :
    Recorded (processPartial cfg sessionId now sentTimes check p).2.1 := by
  have hmismatch : unsentMismatch p.newestFrameSeq sentTimes.length ≠ [] := by
    simp [unsentMismatch, hunsent]
  simp only [processPartial]
  split
  · exact recorded_record_iff.mpr (by simp)
  · simp only [hnow, not_true_eq_false, if_false, sampleOf_eq_none hunsent, selectPartial, hunsent,
      decide_true, Bool.not_true, Bool.false_and, Bool.false_eq_true]
    exact recorded_record_iff.mpr (append_ne_nil_of_right_ne_nil _ hmismatch)

theorem unsent_recorded_iff {m : Inbound} {r : Response}
    (hr : m.response cfg now sentTimes.length = some r) (hmeasured : r.measured = true)
    (hunsent : sentTimes.length < r.newest.toNat) :
    (∃ rec, Effect.Record rec ∈ (processInbound cfg sessionId now sentTimes check m).2.1) ↔
      r.isError = false ∨
        ¬ (wellFormed r.oldest r.newest ∧ r.oldest = check.continuity.lastNewest + 1) := by
  match m, hr with
  | .Text (.ok (.Partial p)), hr =>
    cases hr
    exact ⟨fun _ => .inl rfl, fun _ => recorded_processPartial hmeasured hunsent⟩
  | .Text (.ok (.Error e)), hr =>
    cases hr
    have hnow : cfg.measured now = true := hmeasured
    simp only [processInbound, processError, hnow, if_true, mem_append, mem_singleton,
      reduceCtorEq, or_false, Bool.true_eq_false, false_or]
    rw [← Continuity.observe_eq_none_iff]
    exact recorded_record_iff.trans (not_congr Option.toList_eq_nil_iff)

theorem unsent_recorded_iff_threeFrames :
    (∃ rec, Effect.Record rec ∈ (processInbound oneSession 0 5 [0] ⟨⟨0⟩, 0⟩
      (.Text (.ok (.Partial { onePartial with newestFrameSeq := 3 })))).2.1) ↔
      false = false ∨ ¬ (wellFormed 1 3 ∧ (1 : UInt64) = 0 + 1) :=
  unsent_recorded_iff (r := ⟨1, 3, false, true, 1⟩) rfl rfl (by decide)

def tenFrames : List (RunEvent 1) :=
  [.Task 0 .Wake, .Task 0 (.Timed .Done 0 0), .Task 0 (.Timed .Done 0 0), .Task 0 (.Tick 0),
   .Task 0 (.Timed .Done 0 1), .Task 0 (.Message (.Text (.ok (.Error ⟨1, 10⟩))) 5 200),
   .Task 0 (.Timed .Done 200 200), .Task 0 (.Message .Close 201 201),
   .Closed, .Task 0 .Finish, .Joined, .Drained]

theorem tenFrames_unrecorded :
    ∃ s : Run 1, (loadgen oneSession hdrHistogram).Reachable s ∧
      s.main = .Printed (Run.output oneSession hdrHistogram s.shared) ∧
      (s.tasks 0).pc = .Recorded .Ok ∧ (s.tasks 0).responses = [⟨1, 10, true, true, 1⟩] ∧
      (s.tasks 0).sentTimes.length = 1 ∧ s.shared.records = [] :=
  Reachable.exists_of_exec tenFrames (by decide +kernel)

end SttBench.Loadgen
