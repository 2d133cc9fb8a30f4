import Mathlib.Algebra.Order.Field.Rat

/-! # Load generator: the messages of a gateway -/

namespace SttBench.Loadgen

def frameIntervalMs : ℕ := 20

def flushIntervalMs : ℕ := 1000

def frameBytes : ℕ := 640

structure PartialMessage where
  oldestFrameSeq : UInt64
  newestFrameSeq : UInt64
  frames : UInt64
  rms : ℚ
  zeroCrossings : UInt64
  checksum : UInt32
  samples : UInt64
  transcript : String
  audioBytes : UInt64
  cpuPasses : UInt32
  modelDelayMs : UInt64
  flushLatenessMs : ℚ
deriving DecidableEq

structure ErrorMessage where
  oldestFrameSeq : UInt64
  newestFrameSeq : UInt64

inductive ServerMessage
  | Partial (p : PartialMessage)
  | Error (e : ErrorMessage)

def PartialMessage.validate (p : PartialMessage) : Except String Unit :=
  if ¬ 0 < p.oldestFrameSeq then .error "oldest_frame_seq must be positive"
  else if ¬ p.oldestFrameSeq ≤ p.newestFrameSeq then
    .error "newest_frame_seq must be >= oldest_frame_seq"
  else if ¬ 0 < p.frames then .error "frames must be positive"
  else if ¬ 0 < p.samples then .error "samples must be positive"
  else if p.transcript = "" then .error "transcript must be non-empty"
  else if ¬ 0 < p.audioBytes then .error "audio_bytes must be positive"
  else if ¬ 0 ≤ p.flushLatenessMs then
    .error "flush_lateness_ms must be finite and non-negative"
  else .ok ()

lemma PartialMessage.range_of_validate {p : PartialMessage} (h : p.validate = .ok ()) :
    0 < p.oldestFrameSeq ∧ p.oldestFrameSeq ≤ p.newestFrameSeq := by
  unfold validate at h
  split_ifs at h with hold hrange
  exact ⟨hold, hrange⟩

end SttBench.Loadgen
