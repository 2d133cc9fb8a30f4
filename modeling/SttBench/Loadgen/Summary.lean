import SttBench.Core.Python
import SttBench.Loadgen.Run

/-! # Load generator: the summary as JSON -/

namespace SttBench.Loadgen

open SttBench.Python

def countJson (n : ℕ) : Json := .num (.int n)

def msJson (ms : ℚ) : Json := .num (.float (.finite ms))

def Percentiles.dict (p : Percentiles) : Dict :=
  [("p50_ms", msJson p.p50Ms), ("p95_ms", msJson p.p95Ms), ("p99_ms", msJson p.p99Ms),
   ("p999_ms", msJson p.p999Ms), ("max_ms", msJson p.maxMs)]

def Percentiles.json (p : Percentiles) : Json := .obj p.dict

def TimeoutCounters.json (c : TimeoutCounters) : Json :=
  .obj [("connect", countJson c.connect), ("send", countJson c.send), ("close", countJson c.close),
    ("session", countJson c.session)]

def Output.json (out : Output) : Dict :=
  [("sessions", countJson out.sessions),
   ("partials", countJson out.partials),
   ("protocol_errors", countJson out.protocolErrors),
   ("inference_errors", countJson out.inferenceErrors),
   ("correctness_errors", countJson out.correctnessErrors),
   ("verify_every", countJson out.verifyEvery),
   ("verified_partials", countJson out.verifiedPartials),
   ("verify_dropped", countJson out.verifyDropped),
   ("timeouts", out.timeouts.json),
   ("newest_frame_to_partial_latency", out.newestFrameToPartialLatency.json),
   ("oldest_frame_to_partial_latency", out.oldestFrameToPartialLatency.json),
   ("flush_lateness", out.flushLateness.json),
   ("harness_lag", out.harnessLag.json),
   ("harness_lag_samples", countJson out.harnessLagSamples),
   ("harness_faults", countJson out.harnessFaults),
   ("send_block", out.sendBlock.json)]

def Percentiles.Nonneg (p : Percentiles) : Prop :=
  0 ≤ p.p50Ms ∧ 0 ≤ p.p95Ms ∧ 0 ≤ p.p99Ms ∧ 0 ≤ p.p999Ms ∧ 0 ≤ p.maxMs

structure Output.Complete (out : Output) : Prop where
  newest : out.newestFrameToPartialLatency.Nonneg
  oldest : out.oldestFrameToPartialLatency.Nonneg
  flush : out.flushLateness.Nonneg
  harnessLag : out.harnessLag.Nonneg
  sendBlock : out.sendBlock.Nonneg

def Output.errors (out : Output) : ℕ :=
  max out.protocolErrors out.timeouts.total + out.inferenceErrors

end SttBench.Loadgen
