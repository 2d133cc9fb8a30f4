import Mathlib.Data.List.Induction
import SttBench.Loadgen.Protocol

/-! # Load generator: the checks on a response -/

namespace SttBench.Loadgen

inductive MismatchKind
  | ContinuityGap
  | ContinuityOverlap
  | InvalidRange
  | UnsentFrame
  | RangeTooLarge
  | MissingTail
  | MalformedMessage
  | InvalidPartial
  | Frames
  | AudioBytes
  | CpuPasses
  | ModelDelayMs
  | Checksum
  | ZeroCrossings
  | Samples
  | Rms
  | Transcript
deriving DecidableEq, Repr

structure Mismatch where
  kind : MismatchKind
  detail : String
deriving DecidableEq, Repr

/-! ## Continuity -/

def wellFormed (oldest newest : UInt64) : Prop := 0 < oldest ∧ oldest ≤ newest

instance (oldest newest : UInt64) : Decidable (wellFormed oldest newest) :=
  inferInstanceAs (Decidable (_ ∧ _))

structure Continuity where
  lastNewest : UInt64
deriving DecidableEq, Repr

def Continuity.observe (c : Continuity) (oldest newest : UInt64) : Option Mismatch × Continuity :=
  if oldest = 0 ∨ newest < oldest then
    (some ⟨.InvalidRange, s!"oldest={oldest} newest={newest}"⟩, c)
  else
    let lastNewest := c.lastNewest
    let expected := lastNewest + 1
    let before := oldest - 1
    let mismatch :=
      if expected < oldest then
        some ⟨.ContinuityGap,
          s!"oldest={oldest} expected {expected}: frames {expected}..={before} never reported"⟩
      else if oldest < expected then
        some ⟨.ContinuityOverlap,
          s!"range {oldest}..={newest} overlaps already-reported ..={lastNewest}"⟩
      else none
    (mismatch, ⟨max lastNewest newest⟩)

variable {oldest newest : UInt64} {c : Continuity}

lemma not_invalid_iff :
    ¬ (oldest = 0 ∨ newest < oldest) ↔ wellFormed oldest newest := by
  simp [wellFormed, UInt64.pos_iff_ne_zero, not_or]

lemma Continuity.observe_eq_none_iff :
    (c.observe oldest newest).1 = none ↔
      wellFormed oldest newest ∧ oldest = c.lastNewest + 1 := by
  rw [← not_invalid_iff]
  unfold observe
  split_ifs with hinvalid
  · simp [hinvalid]
  · simp only [hinvalid, not_false_eq_true, true_and]
    split_ifs with hgap hoverlap
    · simpa using (UInt64.ne_of_lt hgap).symm
    · simpa using UInt64.ne_of_lt hoverlap
    · simpa using UInt64.le_antisymm (UInt64.not_lt.mp hgap) (UInt64.not_lt.mp hoverlap)

lemma Continuity.observe_lastNewest :
    (c.observe oldest newest).2.lastNewest =
      if wellFormed oldest newest then max c.lastNewest newest else c.lastNewest := by
  unfold observe
  split_ifs with hinvalid hwell hwell
  · exact absurd hinvalid (not_invalid_iff.mpr hwell)
  · rfl
  · rfl
  · exact absurd (not_invalid_iff.mp hinvalid) hwell

/-! ## Whole sequences of ranges

The tracker is fed whatever numbers a gateway sends.  What it should say is stated over the
naturals, where the successor of the highest frame covered always exists. -/

structure SeqRange where
  oldest : UInt64
  newest : UInt64
deriving DecidableEq, Repr

def SeqRange.WellFormed (r : SeqRange) : Prop := wellFormed r.oldest r.newest

instance (r : SeqRange) : Decidable r.WellFormed :=
  inferInstanceAs (Decidable (wellFormed _ _))

def Continuity.track (ranges : List SeqRange) : Continuity :=
  ranges.foldl (fun c r => (c.observe r.oldest r.newest).2) ⟨0⟩

def largestNewest (ranges : List SeqRange) : ℕ :=
  ((ranges.filter (·.WellFormed)).map (·.newest.toNat)).foldr max 0

structure Classified (L : ℕ) (r : SeqRange) (m : Option Mismatch) : Prop where
  invalid : m.map (·.kind) = some .InvalidRange ↔ r.oldest = 0 ∨ r.newest < r.oldest
  gap : m.map (·.kind) = some .ContinuityGap ↔ r.WellFormed ∧ L + 1 < r.oldest.toNat
  overlap : m.map (·.kind) = some .ContinuityOverlap ↔ r.WellFormed ∧ r.oldest.toNat ≤ L
  accepted : m = none ↔ r.WellFormed ∧ r.oldest.toNat = L + 1

def SeqRange.ReachesEnd (r : SeqRange) : Prop := r.WellFormed ∧ r.newest.toNat = 2 ^ 64 - 1

lemma largestNewest_concat (ranges : List SeqRange) (r : SeqRange) :
    largestNewest (ranges ++ [r]) =
      if r.WellFormed then max (largestNewest ranges) r.newest.toNat
      else largestNewest ranges := by
  have hfold : ∀ (ns : List ℕ) (n : ℕ), ns.foldr max n = max (ns.foldr max 0) n := by
    intro ns n
    induction ns with
    | nil => simp
    | cons m ns ih => simp only [List.foldr_cons, ih, max_assoc]
  split_ifs with hwell
  · simp [largestNewest, hwell, hfold _ r.newest.toNat]
  · simp [largestNewest, hwell]

lemma Continuity.track_concat (ranges : List SeqRange) (r : SeqRange) :
    track (ranges ++ [r]) = ((track ranges).observe r.oldest r.newest).2 := by
  simp [track]

lemma Continuity.track_lastNewest (ranges : List SeqRange) :
    (track ranges).lastNewest.toNat = largestNewest ranges := by
  induction ranges using List.reverseRecOn with
  | nil => rfl
  | append_singleton ranges r ih =>
    rw [track_concat, observe_lastNewest, largestNewest_concat, ← ih]
    by_cases hwell : r.WellFormed
    · rw [if_pos hwell, if_pos (show wellFormed _ _ from hwell)]
      exact UInt64.toNat_max _ _
    · rw [if_neg hwell, if_neg (show ¬ wellFormed _ _ from hwell)]

lemma Continuity.observe_classified {r : SeqRange}
    (hroom : r.WellFormed → c.lastNewest.toNat < 2 ^ 64 - 1) :
    Classified c.lastNewest.toNat r (c.observe r.oldest r.newest).1 := by
  by_cases hwell : r.WellFormed
  · have hinvalid := not_invalid_iff.mpr hwell
    have hnext : (c.lastNewest + 1).toNat = c.lastNewest.toNat + 1 := by
      have := hroom hwell
      rw [UInt64.toNat_add, UInt64.toNat_one]
      omega
    rw [observe, if_neg hinvalid]
    simp only [UInt64.lt_iff_toNat_lt, hnext]
    split_ifs with hgap hoverlap
    · exact ⟨by simp [hinvalid], by simp [hwell, hgap], by simp; omega, by simp; omega⟩
    · exact ⟨by simp [hinvalid], by simp; omega, by simp [hwell]; omega, by simp; omega⟩
    · exact ⟨by simp [hinvalid], by simp; omega, by simp; omega, by simp [hwell]; omega⟩
  · have hinvalid : r.oldest = 0 ∨ r.newest < r.oldest := by
      by_contra h
      exact hwell (not_invalid_iff.mp h)
    rw [observe, if_pos hinvalid]
    exact ⟨by simp [hinvalid], by simp [hwell], by simp [hwell], by simp [hwell]⟩

lemma largestNewest_lt_iff (ranges : List SeqRange) :
    largestNewest ranges < 2 ^ 64 - 1 ↔ ∀ r ∈ ranges, ¬ r.ReachesEnd := by
  induction ranges using List.reverseRecOn with
  | nil => simp [largestNewest]
  | append_singleton ranges r ih =>
    have hbound := r.newest.toNat_lt
    rw [largestNewest_concat, List.forall_mem_append, ← ih, List.forall_mem_singleton]
    by_cases hwell : r.WellFormed
    · have hreaches : ¬ r.ReachesEnd ↔ r.newest.toNat < 2 ^ 64 - 1 := by
        simp only [SeqRange.ReachesEnd, hwell, true_and]
        omega
      rw [if_pos hwell, hreaches, max_lt_iff]
    · have hreaches : ¬ r.ReachesEnd := fun h => hwell h.1
      simp [hwell, hreaches]

lemma Continuity.not_classified_of_end {r : SeqRange} (hwell : r.WellFormed)
    (hend : c.lastNewest.toNat = 2 ^ 64 - 1) :
    ¬ Classified c.lastNewest.toNat r (c.observe r.oldest r.newest).1 := by
  intro hclass
  have hwrap : c.lastNewest + 1 = 0 := by
    rw [← UInt64.toNat_inj, UInt64.toNat_add, hend]
    rfl
  have hgap : ((c.observe r.oldest r.newest).1.map (·.kind)) = some .ContinuityGap := by
    rw [observe, if_neg (not_invalid_iff.mpr hwell)]
    simp only [hwrap]
    rw [if_pos hwell.1]
    rfl
  have hbeyond := (hclass.gap.mp hgap).2
  have hbound := r.oldest.toNat_lt
  omega

theorem Continuity.classifies_iff (ranges : List SeqRange) :
    (∀ before r after, ranges = before ++ r :: after →
      Classified (largestNewest before) r ((track before).observe r.oldest r.newest).1 ∧
      (r.WellFormed → (track before).lastNewest.toNat + 1 < 2 ^ 64)) ↔
    ∀ before r after, ranges = before ++ r :: after → r.WellFormed →
      ∀ earlier ∈ before, ¬ earlier.ReachesEnd := by
  constructor
  · intro hall before r after hsplit hwell
    obtain ⟨hclass, -⟩ := hall before r after hsplit
    rw [← track_lastNewest] at hclass
    rw [← largestNewest_lt_iff, ← track_lastNewest]
    have hbound := (track before).lastNewest.toNat_lt
    by_contra hnot
    exact not_classified_of_end hwell (by omega) hclass
  · intro hall before r after hsplit
    have hroom : r.WellFormed → (track before).lastNewest.toNat < 2 ^ 64 - 1 := by
      intro hwell
      rw [track_lastNewest, largestNewest_lt_iff]
      exact hall before r after hsplit hwell
    refine ⟨?_, fun hwell => by have := hroom hwell; omega⟩
    rw [← track_lastNewest]
    exact observe_classified hroom

theorem Continuity.repeated_called_gap :
    let before : List SeqRange := [⟨1, 18446744073709551615⟩]
    largestNewest before = 18446744073709551615 ∧
      ((track before).observe 1 1).1.map (·.kind) = some .ContinuityGap ∧
      ¬ Classified (largestNewest before) ⟨1, 1⟩ ((track before).observe 1 1).1 := by
  refine ⟨by decide, by decide, fun h => ?_⟩
  have hbeyond := (h.gap.mp (by decide)).2
  exact absurd hbeyond (by decide)

/-! ## The tail -/

def gatewayInferenceTimeoutMs : ℕ := 2000

def tailToleranceFrames : ℕ :=
  (2 * flushIntervalMs + 2 * gatewayInferenceTimeoutMs) / frameIntervalMs

def checkTail (framesSent : ℕ) (lastReported : UInt64) : Option Mismatch :=
  let unreported := framesSent - lastReported.toNat
  let first := lastReported.toNat + 1
  if tailToleranceFrames < unreported then
    some ⟨.MissingTail,
      s!"frames {first}..={framesSent} never reported ({unreported} frames; " ++
        s!"tolerance {tailToleranceFrames})"⟩
  else none

lemma checkTail_eq_none_iff {framesSent : ℕ} {lastReported : UInt64} :
    checkTail framesSent lastReported = none ↔ framesSent ≤ lastReported.toNat + 300 := by
  have h300 : tailToleranceFrames = 300 := rfl
  simp only [checkTail, h300]
  split_ifs with h
  · simpa using by omega
  · simpa using by omega

/-! ## The values of a partial -/

structure StubResult where
  rms : ℚ
  zeroCrossings : UInt64
  checksum : UInt32
  samples : UInt64
  transcript : String

structure Stub where
  expectedStub : ℕ → UInt64 → UInt64 → UInt32 → StubResult
  display : ℚ → String
  debug : String → String

structure ExpectedConfig where
  cpuPasses : UInt32
  modelDelayMs : UInt64

def rmsTolerance : ℚ := 1 / 1000000

def maxVerifyFrames : UInt64 := 30000

def rmsMatches (actual expected : ℚ) : Bool :=
  let diff := |actual - expected|
  diff ≤ rmsTolerance || diff ≤ rmsTolerance * |expected|

def mismatchUnless (ok : Bool) (kind : MismatchKind) (detail : String) : List Mismatch :=
  if ok then [] else [⟨kind, detail⟩]

def verifyPartial (stub : Stub) (expected : ExpectedConfig) (sessionId : ℕ) (p : PartialMessage) :
    List Mismatch :=
  let oldest := p.oldestFrameSeq
  let newest := p.newestFrameSeq
  if oldest = 0 ∨ newest < oldest then [⟨.InvalidRange, s!"oldest={oldest} newest={newest}"⟩]
  else
    let range := newest - oldest + 1
    let rangeBytes := min (range.toNat * frameBytes) (2 ^ 64 - 1)
    let echoed :=
      mismatchUnless (p.frames = range) .Frames
        (let frames := p.frames; s!"frames={frames} but range {oldest}..={newest} is {range}") ++
      mismatchUnless (p.audioBytes.toNat = rangeBytes) .AudioBytes
        (let audioBytes := p.audioBytes; s!"audio_bytes={audioBytes} expected {rangeBytes}") ++
      mismatchUnless (p.cpuPasses = expected.cpuPasses) .CpuPasses
        (let (actual, want) := (p.cpuPasses, expected.cpuPasses)
         s!"cpu_passes={actual} expected {want}") ++
      mismatchUnless (p.modelDelayMs = expected.modelDelayMs) .ModelDelayMs
        (let (actual, want) := (p.modelDelayMs, expected.modelDelayMs)
         s!"model_delay_ms={actual} expected {want}")
    if maxVerifyFrames < range then
      echoed ++ [⟨.RangeTooLarge, s!"range of {range} frames exceeds {maxVerifyFrames}"⟩]
    else
      let want := stub.expectedStub sessionId oldest newest expected.cpuPasses
      echoed ++
        mismatchUnless (p.checksum = want.checksum) .Checksum
          (let (actual, want) := (p.checksum, want.checksum)
           s!"checksum={actual} expected {want}") ++
        mismatchUnless (p.zeroCrossings = want.zeroCrossings) .ZeroCrossings
          (let (actual, want) := (p.zeroCrossings, want.zeroCrossings)
           s!"zero_crossings={actual} expected {want}") ++
        mismatchUnless (p.samples = want.samples) .Samples
          (let (actual, want) := (p.samples, want.samples)
           s!"samples={actual} expected {want}") ++
        mismatchUnless (rmsMatches p.rms want.rms) .Rms
          ("rms=" ++ stub.display p.rms ++ " expected " ++ stub.display want.rms) ++
        mismatchUnless (p.transcript = want.transcript) .Transcript
          ("transcript=" ++ stub.debug p.transcript ++ " expected " ++ stub.debug want.transcript)

end SttBench.Loadgen
