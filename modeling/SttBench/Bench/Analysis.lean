import SttBench.Bench.EvalSlo

/-!
# The analyzer's SLO evaluation

`_analyze_summary_only` and `_evaluate_slo`, the second judge of a summary.
-/

namespace SttBench.Bench.Analysis

open Python

structure MetricStats where
  p50Ms : Double
  p95Ms : Double
  p99Ms : Double
  p999Ms : Double
  maxMs : Double

structure AnalysisResult where
  sessions : ℤ
  repeats : ℤ
  warmupSecs : ℤ
  measureSecs : ℤ
  rampUpSecs : ℤ
  sessionStartSpreadMs : ℤ
  partials : ℤ
  protocolErrors : ℤ
  inferenceErrors : ℤ
  timeouts : List (String × ℤ)
  newestLatency : MetricStats
  oldestLatency : MetricStats
  flushLateness : MetricStats

structure SloThresholds where
  oldestP50Ms : Double
  newestP50Ms : Double
  oldestP95Ms : Double
  newestP95Ms : Double
  flushLatenessP95WarningMs : Double
  maxErrorRate : Double

inductive Reason
  | oldestP50
  | newestP50
  | oldestP95
  | newestP95
  | protocolErrors
  | timeouts
  | inferenceErrors
  | errorRate
deriving DecidableEq, Repr

structure SloEvaluation where
  passes : Bool
  reasons : List Reason
  flushLatenessWarning : Bool
deriving DecidableEq

section

variable (py : Interpreter)

def truncate : Double → Except Exception ℤ
  | .finite q => .ok (if 0 ≤ q then ⌊q⌋ else ⌈q⌉)
  | .inf _ => .error .OverflowError
  | .nan => .error .ValueError

def int (value : Option Json) (default : ℤ) : Except Exception ℤ :=
  match value with
  | none => .ok default
  | some .null => .ok default
  | some (.num (.int n)) => .ok n
  | some (.num (.float x)) => truncate x
  | some (.bool b) => .ok b.toInt
  | some (.str s) => py.int s
  | some _ => .error .TypeError

def float (value : Option Json) : Except Exception Double :=
  match value with
  | none => .ok (.finite 0)
  | some .null => .ok (.finite 0)
  | some (.num x) => x.toFloat py.fl
  | some (.bool b) => Number.toFloat py.fl (.int b.toInt)
  | some (.str s) => py.float s
  | some _ => .error .TypeError

def metricFromSummary : Option Json → Except Exception MetricStats
  | some (.obj summary) => do
      return {
        p50Ms := ← float py (Dict.get summary "p50_ms")
        p95Ms := ← float py (Dict.get summary "p95_ms")
        p99Ms := ← float py (Dict.get summary "p99_ms")
        p999Ms := ← float py (Dict.get summary "p999_ms")
        maxMs := ← float py (Dict.get summary "max_ms") }
  | _ => return ⟨.finite 0, .finite 0, .finite 0, .finite 0, .finite 0⟩

def timeouts (summary : Dict) : Except Exception (List (String × ℤ)) :=
  match summary.get "timeouts" with
  | some (.obj value) =>
    ["connect", "send", "close", "session"].mapM fun key => do
      return (key, ← int py (Dict.get value key) 0)
  | _ => return [("connect", 0), ("send", 0), ("close", 0), ("session", 0)]

def analyzeSummaryOnly (summary : Dict) : Except Exception AnalysisResult := do
  return {
    sessions := ← int py (summary.get "sessions") 0
    repeats := ← int py (summary.get "repeat") 1
    warmupSecs := ← int py (summary.get "warmup_secs") 0
    measureSecs := ← int py (summary.get "measure_secs") 0
    rampUpSecs := ← int py (summary.get "ramp_up_secs") 0
    sessionStartSpreadMs := ← int py (summary.get "session_start_spread_ms") 0
    partials := ← int py (summary.get "partials") 0
    protocolErrors := ← int py (summary.get "protocol_errors") 0
    inferenceErrors := ← int py (summary.get "inference_errors") 0
    timeouts := ← timeouts py summary
    newestLatency := ← metricFromSummary py (summary.get "newest_frame_to_partial_latency")
    oldestLatency := ← metricFromSummary py (summary.get "oldest_frame_to_partial_latency")
    flushLateness := ← metricFromSummary py (summary.get "flush_lateness") }

def balancedRealtime (maxErrorRate : Double) : SloThresholds where
  oldestP50Ms := .finite 1200
  newestP50Ms := .finite 200
  oldestP95Ms := .finite 1650
  newestP95Ms := .finite 350
  flushLatenessP95WarningMs := .finite 100
  maxErrorRate := maxErrorRate

def AnalysisResult.timeoutTotal (result : AnalysisResult) : ℤ := (result.timeouts.map Prod.snd).sum

def distinctErrors (result : AnalysisResult) : ℤ :=
  max result.protocolErrors result.timeoutTotal + result.inferenceErrors

def errorReasons (result : AnalysisResult) (thresholds : SloThresholds) :
    Except Exception (List Reason) := do
  let totalErrors := distinctErrors result
  if thresholds.maxErrorRate.lt (.finite 0) || thresholds.maxErrorRate.eq (.finite 0) then
    return (if 0 < result.protocolErrors then [.protocolErrors] else []) ++
      (if 0 < result.timeoutTotal then [.timeouts] else []) ++
      (if 0 < result.inferenceErrors then [.inferenceErrors] else [])
  else
    let denom := result.partials + totalErrors
    let rate ← if 0 < denom then Number.truediv py.fl (.int totalErrors) (.int denom)
      else pure (.float (.finite 0))
    return if thresholds.maxErrorRate.lt rate.value then [.errorRate] else []

def evaluateSlo (result : AnalysisResult) (thresholds : SloThresholds) :
    Except Exception SloEvaluation := do
  let latency (reason : Reason) (bound x : Double) : List Reason :=
    if bound.lt x then [reason] else []
  let reasons :=
    latency .oldestP50 thresholds.oldestP50Ms result.oldestLatency.p50Ms ++
    latency .newestP50 thresholds.newestP50Ms result.newestLatency.p50Ms ++
    latency .oldestP95 thresholds.oldestP95Ms result.oldestLatency.p95Ms ++
    latency .newestP95 thresholds.newestP95Ms result.newestLatency.p95Ms ++
    (← errorReasons py result thresholds)
  return {
    passes := reasons.isEmpty
    reasons
    flushLatenessWarning :=
      thresholds.flushLatenessP95WarningMs.lt result.flushLateness.p95Ms }

def Passes (summary : Dict) : Prop :=
  ∃ result evaluation, analyzeSummaryOnly py summary = .ok result ∧
    evaluateSlo py result (balancedRealtime (py.fl (1 / 100000))) = .ok evaluation ∧
    evaluation.passes = true

end

/-! ## On a load generator summary -/

section

open Loadgen EvalSlo

variable {py : Interpreter} {out : Output} {sess stdin : String}

def metricStats (p : Percentiles) : MetricStats :=
  ⟨.finite p.p50Ms, .finite p.p95Ms, .finite p.p99Ms, .finite p.p999Ms, .finite p.maxMs⟩

def resultOf (out : Output) : AnalysisResult where
  sessions := out.sessions
  repeats := 1
  warmupSecs := 0
  measureSecs := 0
  rampUpSecs := 0
  sessionStartSpreadMs := 0
  partials := out.partials
  protocolErrors := out.protocolErrors
  inferenceErrors := out.inferenceErrors
  timeouts := [("connect", out.timeouts.connect), ("send", out.timeouts.send),
    ("close", out.timeouts.close), ("session", out.timeouts.session)]
  newestLatency := metricStats out.newestFrameToPartialLatency
  oldestLatency := metricStats out.oldestFrameToPartialLatency
  flushLateness := metricStats out.flushLateness

lemma analyzeSummaryOnly_json : analyzeSummaryOnly py out.json = .ok (resultOf out) := rfl

lemma distinctErrors_resultOf : distinctErrors (resultOf out) = out.errors := by
  simp only [distinctErrors, AnalysisResult.timeoutTotal, resultOf, List.map_cons, List.map_nil,
    List.sum_cons, List.sum_nil, Output.errors, TimeoutCounters.total]
  push_cast
  omega

lemma errorReasons_resultOf (hpy : py.fl = .finite) :
    errorReasons py (resultOf out) (balancedRealtime (py.fl (1 / 100000))) =
      .ok (if out.partials + out.errors < out.errors * 100000 then [.errorRate] else []) := by
  have hbudget : ¬ (1 / 100000 : ℚ) < 0 ∧ ¬ (1 / 100000 : ℚ) = 0 := by norm_num
  have hpartials : (resultOf out).partials = out.partials := rfl
  simp only [errorReasons, distinctErrors_resultOf, balancedRealtime, hpy, hpartials,
    Double.lt_finite, Double.eq_finite, hbudget, decide_false, Bool.or_self, Bool.false_eq_true,
    if_false]
  rcases Nat.eq_zero_or_pos (out.partials + out.errors) with hzero | hpos
  · have herrors : out.errors = 0 := by omega
    have hnone : out.partials = 0 := by omega
    simp [hnone, herrors, Number.value, pure, Except.pure]
  · have hdenom : (0 : ℤ) < out.partials + out.errors := by exact_mod_cast hpos
    have hrate := lt_rate_iff out.errors hpos
    push_cast at hrate
    simp only [hdenom, if_true, Number.truediv_exact _ hdenom.ne', ok_bind, Number.value,
      Double.lt_finite, decide_eq_true_eq, pure, Except.pure]
    push_cast
    simp only [hrate]

lemma passes_iff (hpy : py.fl = .finite) :
    Passes py out.json ↔
      out.oldestFrameToPartialLatency.p50Ms ≤ 1200 ∧
      out.newestFrameToPartialLatency.p50Ms ≤ 200 ∧
      out.oldestFrameToPartialLatency.p95Ms ≤ 1650 ∧
      out.newestFrameToPartialLatency.p95Ms ≤ 350 ∧
      out.errors * 100000 ≤ out.partials + out.errors := by
  simp only [Passes, analyzeSummaryOnly_json, Except.ok.injEq, exists_and_left, exists_eq_left',
    evaluateSlo, errorReasons_resultOf hpy, ok_bind, pure, Except.pure]
  simp [balancedRealtime, resultOf, metricStats, Double.lt_finite]

lemma fails_of_passes_iff (hpy : py.fl = .finite) (hpasses : Passes py out.json) :
    ((∃ g, Misses out g) ∧ ¬ ((∀ g, Misses out g → g.isLatency = true) ∧ Lagging out)) ↔
      ¬ (0 < out.partials ∧ out.errors * 100000 ≤ out.partials ∧ out.correctnessErrors = 0) := by
  obtain ⟨holdest50, hnewest50, holdest95, hnewest95, -⟩ := (passes_iff hpy).mp hpasses
  constructor
  · rintro ⟨⟨g, hg⟩, -⟩ ⟨hpartials, hrate, hcorrect⟩
    cases g with
    | newestP50 => exact (not_lt.mpr hnewest50) hg
    | newestP95 => exact (not_lt.mpr hnewest95) hg
    | oldestP50 => exact (not_lt.mpr holdest50) hg
    | oldestP95 => exact (not_lt.mpr holdest95) hg
    | errRate => exact hg.elim (Nat.not_lt.mpr hrate) hpartials.ne'
    | zeroPartials => exact hpartials.ne' hg
    | correctnessErrors => exact hg hcorrect
  · intro hbad
    have hgate : ∃ g, Misses out g ∧ g.isLatency = false := by
      by_cases hcorrect : out.correctnessErrors = 0
      · refine ⟨.errRate, ?_, rfl⟩
        show out.partials < out.errors * 100000 ∨ out.partials = 0
        omega
      · exact ⟨.correctnessErrors, hcorrect, rfl⟩
    obtain ⟨g, hg, hlatency⟩ := hgate
    refine ⟨⟨g, hg⟩, ?_⟩
    rintro ⟨hall, -⟩
    simp [hall g hg] at hlatency

theorem judges_agree_iff (hpy : py.fl = .finite) (hout : out.Complete)
    (hstdin : py.loads (String.ofList (strip stdin.toList)) = .ok (.obj out.json)) :
    (Passes py out.json → ∀ line, main py sess stdin = .ok line → line.verdict ≠ .FAIL) ↔
      (1200 < out.oldestFrameToPartialLatency.p50Ms ∨
        200 < out.newestFrameToPartialLatency.p50Ms ∨
        1650 < out.oldestFrameToPartialLatency.p95Ms ∨
        350 < out.newestFrameToPartialLatency.p95Ms ∨
        out.partials + out.errors < out.errors * 100000) ∨
      ¬ Judged py sess out ∨
      (0 < out.partials ∧ out.errors * 100000 ≤ out.partials ∧ out.correctnessErrors = 0) := by
  have hmain : main py sess stdin = evaluate py sess out.json := by simp only [main, hstdin]
  have hnot : (Passes py out.json → ∀ line, main py sess stdin = .ok line →
      line.verdict ≠ .FAIL) ↔ ¬ (Passes py out.json ∧
        ∃ line, evaluate py sess out.json = .ok line ∧ line.verdict = .FAIL) := by
    rw [hmain]
    push Not
    rfl
  rw [hnot, fail_iff hpy hout]
  by_cases hpasses : Passes py out.json
  · have hbounds := (passes_iff hpy).mp hpasses
    rw [fails_of_passes_iff hpy hpasses]
    have hnone : ¬ (1200 < out.oldestFrameToPartialLatency.p50Ms ∨
        200 < out.newestFrameToPartialLatency.p50Ms ∨
        1650 < out.oldestFrameToPartialLatency.p95Ms ∨
        350 < out.newestFrameToPartialLatency.p95Ms ∨
        out.partials + out.errors < out.errors * 100000) := by
      simpa only [not_or, not_lt] using hbounds
    simp only [hpasses, true_and, hnone, false_or]
    tauto
  · have hsome := hpasses
    rw [passes_iff hpy] at hsome
    simp only [hpasses, false_and, not_false_eq_true, true_iff]
    left
    by_contra hall
    exact hsome (by simpa only [not_or, not_lt] using hall)


/-! ### Summaries the judges disagree on -/

def Disagree (partials protocolErrors correctnessErrors : ℕ) : Prop :=
  let py := reading .finite partials protocolErrors correctnessErrors
  Passes py (summaryOf partials protocolErrors correctnessErrors).json ∧
    ∃ line, main py "1" (summaryText partials protocolErrors correctnessErrors) = .ok line ∧
      line.verdict = .FAIL

lemma disagree_of_mem (counts : ℕ × ℕ × ℕ)
    (hcounts : counts ∈ [(0, 0, 0), (99999, 1, 0), (100000, 0, 1)]) :
    Disagree counts.1 counts.2.1 counts.2.2 := by
  constructor
  · rw [passes_iff rfl]
    revert counts
    decide +kernel
  · rw [main_summaryText]
    have hrun : ∀ counts : ℕ × ℕ × ℕ, counts ∈ [(0, 0, 0), (99999, 1, 0), (100000, 0, 1)] →
        (evaluate (reading .finite counts.1 counts.2.1 counts.2.2) "1"
          (summaryOf counts.1 counts.2.1 counts.2.2).json).toOption.map Line.verdict =
            some .FAIL := by
      decide +kernel
    exact exists_line_of_verdict (hrun counts hcounts)

theorem judges_disagree : Disagree 0 0 0 ∧ Disagree 99999 1 0 ∧ Disagree 100000 0 1 :=
  ⟨disagree_of_mem (0, 0, 0) (by simp), disagree_of_mem (99999, 1, 0) (by simp),
    disagree_of_mem (100000, 0, 1) (by simp)⟩

theorem judges_agree_iff_clean :
    (Passes (reading .finite 100000 0 0) (summaryOf 100000 0 0).json →
      ∀ line, main (reading .finite 100000 0 0) "1" (summaryText 100000 0 0) = .ok line →
        line.verdict ≠ .FAIL) ↔
      ((1200 : ℚ) < 0 ∨ (200 : ℚ) < 0 ∨ (1650 : ℚ) < 0 ∨ (350 : ℚ) < 0 ∨
        100000 + (summaryOf 100000 0 0).errors < (summaryOf 100000 0 0).errors * 100000) ∨
      ¬ Judged (reading .finite 100000 0 0) "1" (summaryOf 100000 0 0) ∨
      (0 < 100000 ∧ (summaryOf 100000 0 0).errors * 100000 ≤ 100000 ∧ 0 = 0) :=
  judges_agree_iff rfl (summaryOf_complete _ _ _) (loads_summaryText ..)

end

end SttBench.Bench.Analysis
