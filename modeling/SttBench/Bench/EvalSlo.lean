import SttBench.Loadgen.Summary

/-!
# eval_slo.py

The judge of one benchmark point. What the interpreter does with numbers is a parameter.
-/

namespace SttBench.Bench.EvalSlo

open Python List

def harnessLagP99MaxMs : ℚ := 10

def sendBlockP99MaxMs : ℚ := 5

def required : List (String × List String) :=
  [("sessions", []),
   ("partials", []),
   ("protocol_errors", []),
   ("inference_errors", []),
   ("correctness_errors", []),
   ("verified_partials", []),
   ("verify_dropped", []),
   ("harness_faults", []),
   ("harness_lag_samples", []),
   ("timeouts", ["connect", "send", "close", "session"]),
   ("newest_frame_to_partial_latency", ["p50_ms", "p95_ms"]),
   ("oldest_frame_to_partial_latency", ["p50_ms", "p95_ms"]),
   ("flush_lateness", ["p95_ms"]),
   ("harness_lag", ["p50_ms", "p99_ms", "p999_ms"]),
   ("send_block", ["p99_ms"])]

inductive Gate
  | newestP50
  | newestP95
  | oldestP50
  | oldestP95
  | errRate
  | zeroPartials
  | correctnessErrors
deriving DecidableEq, Repr

def Gate.isLatency : Gate → Bool
  | .newestP50 => true
  | .newestP95 => true
  | .oldestP50 => true
  | .oldestP95 => true
  | _ => false

structure Miss where
  gate : Gate
  text : String

inductive Verdict
  | PASS
  | FAIL
  | INVALID
deriving DecidableEq, Repr

def Verdict.text : Verdict → String
  | .PASS => "PASS"
  | .FAIL => "FAIL"
  | .INVALID => "INVALID"

structure Line where
  sessions : String
  verdict : Verdict
  rest : String

def Line.text (l : Line) : String := l.sessions ++ " " ++ l.verdict.text ++ " " ++ l.rest

section

variable (py : Interpreter)

def isNumber : Option Json → Except Exception Bool
  | some (.num (.int n)) => do
      let _ ← Number.toFloat py.fl (.int n)
      return 0 ≤ n
  | some (.num (.float (.finite q))) => return 0 ≤ q
  | _ => return false

def malformedField (summary : Dict) (key : String) (fields : List String) :
    Except Exception (Option String) := do
  if fields.isEmpty then
    if ← isNumber py (summary.get key) then return none
    return some ("malformed-summary(" ++ key ++ ")")
  match summary.get key with
  | some (.obj v) =>
    fields.findSomeM? fun f => do
      if ← isNumber py (Dict.get v f) then return none
      return some ("malformed-summary(" ++ key ++ "." ++ f ++ ")")
  | _ => return some ("malformed-summary(" ++ key ++ ")")

def malformed (summary : Dict) (sessions : String) : Except Exception (Option String) := do
  if let some bad ← required.findSomeM? fun (key, fields) => malformedField py summary key fields then
    return some bad
  if py.isdigit sessions then
    let found ← summary.number "sessions"
    if !found.eq (.int (← py.int sessions)) then
      return some ("sessions-mismatch(summary=" ++ py.str found "" ++ ",requested=" ++ sessions ++ ")")
  if Number.lt (.int 0) (← summary.number "partials") then
    if (← summary.number "harness_lag_samples").eq (.int 0) then
      return some "no-harness-lag-samples"
  return none

def harnessInvalid (summary : Dict) (gates : List Miss) : Except Exception (Option String) := do
  if !gates.all fun g => g.gate.isLatency then return none
  let lag ← (← summary.dict "harness_lag").number "p99_ms"
  if Number.lt (.float (.finite harnessLagP99MaxMs)) lag then
    let block ← (← summary.dict "send_block").number "p99_ms"
    if block.lt (.float (.finite sendBlockP99MaxMs)) then
      return some ("harness_lag_p99=" ++ py.str lag ".1f" ++ ">" ++
        py.str (.float (.finite harnessLagP99MaxMs)) "g")
  return none

def verificationIncomplete (summary : Dict) : Except Exception (Option String) := do
  let p ← summary.number "partials"
  let v ← summary.number "verified_partials"
  let dropped ← summary.number "verify_dropped"
  if Number.lt (.int 0) dropped || !v.eq p then
    return some ("verification-incomplete(" ++ py.str v "" ++ "/" ++ py.str p "" ++ "verified," ++
      py.str dropped "" ++ "dropped)")
  return none

def getOrZero (d : Dict) (key : String) : Except Exception Number :=
  match d.get key with
  | some v => v.asNumber
  | none => .ok (.int 0)

def countErrors (summary : Dict) : Except Exception Number := do
  let t ← match summary.get "timeouts" with
    | some v => if v.truthy then v.asDict else pure []
    | none => pure []
  let timeouts ← Number.sum py.fl (← ["connect", "send", "close", "session"].mapM (getOrZero t))
  let protocolErrors ← getOrZero summary "protocol_errors"
  (protocolErrors.max timeouts).add py.fl (← getOrZero summary "inference_errors")

def errorRate (errs p : Number) : Except Exception Number :=
  if p.eq (.int 0) then .ok (.float (.finite 1)) else errs.truediv py.fl p

def missedGates (d : Dict) (errs : Number) : Except Exception (List Miss) := do
  let p ← d.number "partials"
  let nf ← d.dict "newest_frame_to_partial_latency"
  let of ← d.dict "oldest_frame_to_partial_latency"
  let erate ← errorRate py errs p
  let cerr ← d.number "correctness_errors"
  let latency (gate : Gate) (name : String) (x : Number) (bound : ℤ) : List Miss :=
    if Number.lt (.int bound) x then
      [⟨gate, name ++ "=" ++ py.str x ".0f" ++ ">" ++ toString bound⟩]
    else []
  return latency .newestP50 "newest_p50" (← nf.number "p50_ms") 200 ++
    latency .newestP95 "newest_p95" (← nf.number "p95_ms") 350 ++
    latency .oldestP50 "oldest_p50" (← of.number "p50_ms") 1200 ++
    latency .oldestP95 "oldest_p95" (← of.number "p95_ms") 1650 ++
    (if Number.lt (.float (py.fl (1 / 100000))) erate then
      [⟨.errRate, "err_rate=" ++ py.str erate ".2e" ++ ">1e-5 (" ++ py.str errs "" ++ "/" ++
        py.str p "" ++ ")"⟩]
    else []) ++
    (if p.eq (.int 0) then [⟨.zeroPartials, "zero-partials"⟩] else []) ++
    (if Number.lt (.int 0) cerr then
      [⟨.correctnessErrors, "correctness_errors=" ++ py.str cerr ""⟩] else [])

def judge (d : Dict) (gates : List Miss) : Except Exception (Verdict × List String) := do
  let verdict := if gates.isEmpty then Verdict.PASS else .FAIL
  let invalid ← match ← harnessInvalid py d gates with
    | some invalid => pure (some invalid)
    | none => if verdict = .PASS then verificationIncomplete py d else pure none
  match invalid with
  | some invalid => return (.INVALID, invalid :: gates.map Miss.text)
  | none => return (verdict, gates.map Miss.text)

def details (d : Dict) (errs : Number) (gates : List String) : Except Exception String := do
  let p ← d.number "partials"
  let nf ← d.dict "newest_frame_to_partial_latency"
  let of ← d.dict "oldest_frame_to_partial_latency"
  let cerr ← d.number "correctness_errors"
  let cver ← d.number "verified_partials"
  let cdrop ← d.number "verify_dropped"
  let hl ← d.dict "harness_lag"
  return (if gates.isEmpty then "ok" else ";".intercalate gates) ++ " | " ++
    "partials=" ++ py.str p "" ++ " err=" ++ py.str errs "" ++ " " ++
    "newest " ++ py.str (← nf.number "p50_ms") ".0f" ++ "/" ++
      py.str (← nf.number "p95_ms") ".0f" ++ " " ++
    "oldest " ++ py.str (← of.number "p50_ms") ".0f" ++ "/" ++
      py.str (← of.number "p95_ms") ".0f" ++ " " ++
    "flush_p95=" ++ py.str (← (← d.dict "flush_lateness").number "p95_ms") ".2f" ++ " " ++
    "correctness_err=" ++ py.str cerr "" ++ "/" ++ py.str cver "" ++ "verified" ++
      (if cdrop.eq (.int 0) then "" else "," ++ py.str cdrop "" ++ "dropped") ++
    " harness_lag=" ++ py.str (← hl.number "p50_ms") ".1f" ++ "/" ++
      py.str (← hl.number "p99_ms") ".1f" ++ "/" ++ py.str (← hl.number "p999_ms") ".1f" ++
    " send_block_p99=" ++ py.str (← (← d.dict "send_block").number "p99_ms") ".1f"

def evaluate (sess : String) (d : Dict) : Except Exception Line := do
  if let some bad ← malformed py d sess then
    return ⟨sess, .INVALID, bad⟩
  let faults ← d.number "harness_faults"
  if Number.lt (.int 0) faults then
    return ⟨sess, .INVALID, "harness_faults=" ++ py.str faults "" ++ " (session tasks panicked)"⟩
  let errs ← countErrors py d
  let (verdict, gates) ← judge py d (← missedGates py d errs)
  return ⟨sess, verdict, ← details py d errs gates⟩

def main (sess stdin : String) : Except Exception Line :=
  let raw := String.ofList (strip stdin.toList)
  let noJson (e : String) : Line :=
    ⟨sess, .INVALID,
      "no-json (" ++ e ++ "); raw: " ++ py.repr (String.ofList (raw.toList.take 200))⟩
  match py.loads raw with
  | .ok (.obj d) => evaluate py sess d
  | .ok _ => .ok (noJson "summary is not a JSON object")
  | .error e => .ok (noJson e)

end

/-! ## On a load generator summary -/

section

open Loadgen

variable {py : Interpreter} {out : Output} {sess : String}

lemma countErrors_json : countErrors py out.json = .ok (.int out.errors) := by
  have hcount : countErrors py out.json = (Number.max (.int out.protocolErrors)
      (.int (0 + out.timeouts.connect + out.timeouts.send + out.timeouts.close +
        out.timeouts.session))).add py.fl (.int out.inferenceErrors) := rfl
  rw [hcount, Number.max, Number.lt_int_int, Output.errors, TimeoutCounters.total]
  split_ifs with h <;> simp only [decide_eq_true_eq] at h <;>
    simp only [Number.add, Except.ok.injEq, Number.int.injEq] <;> push_cast <;> omega

lemma isNumber_countJson (hpy : py.fl = .finite) (n : ℕ) :
    isNumber py (some (countJson n)) = .ok true := by
  simp [isNumber, countJson, Number.toFloat, hpy, pure, Except.pure]

lemma isNumber_msJson {q : ℚ} (hq : 0 ≤ q) : isNumber py (some (msJson q)) = .ok true := by
  simp [isNumber, msJson, hq, pure, Except.pure]

lemma malformedField_count (hpy : py.fl = .finite) {d : Dict} {key : String} {n : ℕ}
    (h : d.get key = some (countJson n)) : malformedField py d key [] = .ok none := by
  simp [malformedField, h, isNumber_countJson hpy, pure, Except.pure]

lemma malformedField_obj {d v : Dict} {key f : String} {fields : List String}
    (h : d.get key = some (.obj v))
    (hv : ∀ f' ∈ f :: fields, isNumber py (v.get f') = .ok true) :
    malformedField py d key (f :: fields) = .ok none := by
  simp only [malformedField, isEmpty_cons, Bool.false_eq_true, if_false, h]
  refine findSomeM?_eq_ok_none ?_
  intro f' hf'
  simp [hv f' hf', pure, Except.pure]

lemma fields_json (hpy : py.fl = .finite) (hout : out.Complete) :
    (required.findSomeM? fun (key, fields) => malformedField py out.json key fields) =
      .ok none := by
  refine findSomeM?_eq_ok_none ?_
  simp only [required, forall_mem_cons]
  have hcount (n : ℕ) := isNumber_countJson hpy n
  refine ⟨malformedField_count hpy rfl, malformedField_count hpy rfl, malformedField_count hpy rfl,
    malformedField_count hpy rfl, malformedField_count hpy rfl, malformedField_count hpy rfl,
    malformedField_count hpy rfl, malformedField_count hpy rfl, malformedField_count hpy rfl,
    malformedField_obj rfl ?_, malformedField_obj rfl ?_, malformedField_obj rfl ?_,
    malformedField_obj rfl ?_, malformedField_obj rfl ?_, malformedField_obj rfl ?_, nofun⟩
  · simp only [forall_mem_cons]
    exact ⟨hcount _, hcount _, hcount _, hcount _, nofun⟩
  · simp only [forall_mem_cons]
    exact ⟨isNumber_msJson hout.newest.1, isNumber_msJson hout.newest.2.1, nofun⟩
  · simp only [forall_mem_cons]
    exact ⟨isNumber_msJson hout.oldest.1, isNumber_msJson hout.oldest.2.1, nofun⟩
  · simp only [forall_mem_cons]
    exact ⟨isNumber_msJson hout.flush.2.1, nofun⟩
  · simp only [forall_mem_cons]
    exact ⟨isNumber_msJson hout.harnessLag.1, isNumber_msJson hout.harnessLag.2.2.1,
      isNumber_msJson hout.harnessLag.2.2.2.1, nofun⟩
  · simp only [forall_mem_cons]
    exact ⟨isNumber_msJson hout.sendBlock.2.2.1, nofun⟩

def Judged (py : Interpreter) (sess : String) (out : Output) : Prop :=
  (py.isdigit sess = true → py.int sess = .ok (out.sessions : ℤ)) ∧
    (0 < out.partials → out.harnessLagSamples ≠ 0) ∧ out.harnessFaults = 0

def Misses (out : Output) : Gate → Prop
  | .newestP50 => 200 < out.newestFrameToPartialLatency.p50Ms
  | .newestP95 => 350 < out.newestFrameToPartialLatency.p95Ms
  | .oldestP50 => 1200 < out.oldestFrameToPartialLatency.p50Ms
  | .oldestP95 => 1650 < out.oldestFrameToPartialLatency.p95Ms
  | .errRate => out.partials < out.errors * 100000 ∨ out.partials = 0
  | .zeroPartials => out.partials = 0
  | .correctnessErrors => out.correctnessErrors ≠ 0

def Lagging (out : Output) : Prop := 10 < out.harnessLag.p99Ms ∧ out.sendBlock.p99Ms < 5

lemma malformed_json_eq_none_iff (sess : String) (hpy : py.fl = .finite) (hout : out.Complete) :
    malformed py out.json sess = .ok none ↔
      (py.isdigit sess = true → py.int sess = .ok (out.sessions : ℤ)) ∧
        (0 < out.partials → out.harnessLagSamples ≠ 0) := by
  have hsessions : out.json.number "sessions" = .ok (.int out.sessions) := rfl
  have hpartials : out.json.number "partials" = .ok (.int out.partials) := rfl
  have hsamples : out.json.number "harness_lag_samples" = .ok (.int out.harnessLagSamples) := rfl
  simp only [malformed, fields_json hpy hout, ok_bind, hsessions, hpartials, hsamples,
    Number.lt_int_int, Number.eq_int_int, pure, Except.pure]
  by_cases hdigit : py.isdigit sess = true
  · cases hint : py.int sess with
    | error e => simp [hdigit, bind, Except.bind]
    | ok k =>
      simp only [hdigit, if_true, ok_bind]
      by_cases hk : (out.sessions : ℤ) = k
      · subst hk
        by_cases hp : 0 < out.partials <;> simp [hp]
      · simp [hk, Ne.symm hk]
  · by_cases hp : 0 < out.partials <;> simp [hdigit, hp]

lemma lt_rate_iff (errs : ℕ) {n : ℕ} (hn : 0 < n) :
    (1 / 100000 : ℚ) < errs / n ↔ n < errs * 100000 := by
  have hpos : (0 : ℚ) < n := by exact_mod_cast hn
  rw [lt_div_iff₀ hpos, one_div_mul_eq_div, div_lt_iff₀ (by norm_num)]
  exact_mod_cast Iff.rfl

lemma lt_errorRate_iff (hpy : py.fl = .finite) (errs p : ℕ) :
    ∃ erate, errorRate py (.int errs) (.int p) = .ok erate ∧
      (Number.lt (.float (py.fl (1 / 100000))) erate = true ↔ p < errs * 100000 ∨ p = 0) := by
  rcases Nat.eq_zero_or_pos p with rfl | hp
  · refine ⟨.float (.finite 1), by simp [errorRate], ?_⟩
    simp only [hpy, Number.lt_float_float, decide_eq_true_eq, or_true, iff_true]
    norm_num
  · have hzero : (p : ℤ) ≠ 0 := by exact_mod_cast hp.ne'
    refine ⟨.float (.finite (errs / p)), ?_, ?_⟩
    · simpa [errorRate, hp.ne', hpy] using Number.truediv_exact errs hzero
    · simp only [hpy, Number.lt_float_float, decide_eq_true_eq, lt_rate_iff errs hp, hp.ne',
        or_false]

lemma exists_mem_ite {c : Prop} [Decidable c] {m : Miss} {g : Gate} :
    (∃ x ∈ (if c then [m] else []), x.gate = g) ↔ c ∧ m.gate = g := by
  split_ifs with hc <;> simp [hc]

lemma missedGates_json (out : Output) (hpy : py.fl = .finite) :
    ∃ gates, missedGates py out.json (.int out.errors) = .ok gates ∧
      ∀ g, (∃ m ∈ gates, m.gate = g) ↔ Misses out g := by
  have hpartials : out.json.number "partials" = .ok (.int out.partials) := rfl
  have hcerr : out.json.number "correctness_errors" = .ok (.int out.correctnessErrors) := rfl
  have hnf : out.json.dict "newest_frame_to_partial_latency" =
    .ok out.newestFrameToPartialLatency.dict := rfl
  have hof : out.json.dict "oldest_frame_to_partial_latency" =
    .ok out.oldestFrameToPartialLatency.dict := rfl
  have hp50 (p : Percentiles) : p.dict.number "p50_ms" = .ok (.float (.finite p.p50Ms)) := rfl
  have hp95 (p : Percentiles) : p.dict.number "p95_ms" = .ok (.float (.finite p.p95Ms)) := rfl
  obtain ⟨erate, herate, hlt⟩ := lt_errorRate_iff hpy out.errors out.partials
  simp only [missedGates, hpartials, hcerr, hnf, hof, hp50, hp95, herate, ok_bind, pure,
    Except.pure, Except.ok.injEq, exists_eq_left']
  intro g
  simp only [mem_append, or_and_right, exists_or, exists_mem_ite, Number.lt_int_float, hlt,
    Number.lt_int_int, Number.eq_int_int, decide_eq_true_eq]
  cases g <;> simp [Misses, Nat.pos_iff_ne_zero]

lemma harnessInvalid_json (py : Interpreter) (out : Output) (gates : List Miss) :
    ∃ invalid, harnessInvalid py out.json gates = .ok invalid ∧
      (invalid.isSome = true ↔ (∀ m ∈ gates, m.gate.isLatency = true) ∧ Lagging out) := by
  have hlag : out.json.dict "harness_lag" = .ok out.harnessLag.dict := rfl
  have hblock : out.json.dict "send_block" = .ok out.sendBlock.dict := rfl
  have hp99 (p : Percentiles) : p.dict.number "p99_ms" = .ok (.float (.finite p.p99Ms)) := rfl
  simp only [harnessInvalid, hlag, hblock, hp99, ok_bind, Number.lt_float_float, pure, Except.pure,
    decide_eq_true_eq, harnessLagP99MaxMs, sendBlockP99MaxMs, Bool.not_eq_true', ← Bool.not_eq_true,
    all_eq_true]
  split_ifs with hall hlt hblocked <;> simp_all [Lagging]

lemma verificationIncomplete_json (py : Interpreter) (out : Output) :
    ∃ incomplete, verificationIncomplete py out.json = .ok incomplete := by
  have hpartials : out.json.number "partials" = .ok (.int out.partials) := rfl
  have hverified : out.json.number "verified_partials" = .ok (.int out.verifiedPartials) := rfl
  have hdropped : out.json.number "verify_dropped" = .ok (.int out.verifyDropped) := rfl
  simp only [verificationIncomplete, hpartials, hverified, hdropped, ok_bind, pure, Except.pure]
  split_ifs <;> exact ⟨_, rfl⟩

lemma judge_json (py : Interpreter) (out : Output) (gates : List Miss) :
    ∃ verdict texts, judge py out.json gates = .ok (verdict, texts) ∧
      (verdict = .FAIL ↔
        gates ≠ [] ∧ ¬ ((∀ m ∈ gates, m.gate.isLatency = true) ∧ Lagging out)) := by
  obtain ⟨invalid, hinvalid, hsome⟩ := harnessInvalid_json py out gates
  obtain ⟨incomplete, hincomplete⟩ := verificationIncomplete_json py out
  rw [← hsome]
  simp only [judge, hinvalid, hincomplete, ok_bind]
  cases invalid with
  | some text => exact ⟨.INVALID, _, rfl, by simp⟩
  | none =>
    cases gates with
    | cons m gates => exact ⟨.FAIL, _, rfl, by simp⟩
    | nil => cases incomplete with
      | some text => exact ⟨.INVALID, _, rfl, by simp⟩
      | none => exact ⟨.PASS, _, rfl, by simp⟩

theorem fail_iff (hpy : py.fl = .finite) (hout : out.Complete) :
    (∃ line, evaluate py sess out.json = .ok line ∧ line.verdict = .FAIL) ↔
      Judged py sess out ∧ (∃ g, Misses out g) ∧
        ¬ ((∀ g, Misses out g → g.isLatency = true) ∧ Lagging out) := by
  obtain ⟨gates, hgates, hmisses⟩ := missedGates_json out hpy
  obtain ⟨verdict, texts, hjudge, hfail⟩ := judge_json py out gates
  have hdetails : ∃ text, details py out.json (.int out.errors) texts = .ok text := ⟨_, rfl⟩
  obtain ⟨text, hdetails⟩ := hdetails
  have hfaults : out.json.number "harness_faults" = .ok (.int out.harnessFaults) := rfl
  have hnonempty : gates ≠ [] ↔ ∃ g, Misses out g := by
    simp only [← hmisses, exists_comm, exists_and_left, exists_eq', and_true]
    exact ⟨exists_mem_of_ne_nil gates, fun ⟨m, hm⟩ => ne_nil_of_mem hm⟩
  have hlatency : (∀ m ∈ gates, m.gate.isLatency = true) ↔
      ∀ g, Misses out g → g.isLatency = true := by
    simp only [← hmisses]
    exact ⟨fun h g ⟨m, hm, hg⟩ => hg ▸ h m hm, fun h m hm => h m.gate ⟨m, hm, rfl⟩⟩
  rw [hnonempty, hlatency] at hfail
  rw [← hfail, Judged, ← and_assoc, ← malformed_json_eq_none_iff sess hpy hout]
  cases hmalformed : malformed py out.json sess with
  | error e => simp [evaluate, hmalformed, bind, Except.bind]
  | ok bad => cases bad with
    | some bad =>
      simp only [evaluate, hmalformed, ok_bind, pure, Except.pure]
      simp
    | none =>
      simp only [evaluate, hmalformed, ok_bind, hfaults, Number.lt_int_int, countErrors_json,
        hgates, hjudge, hdetails, pure, Except.pure]
      by_cases hzero : out.harnessFaults = 0
      · simp [hzero]
      · simp [hzero, Nat.pos_of_ne_zero hzero]

/-! ## A summary without delays -/

def summaryOf (partials protocolErrors correctnessErrors : ℕ) : Output where
  sessions := 1
  partials := partials
  protocolErrors := protocolErrors
  inferenceErrors := 0
  correctnessErrors := correctnessErrors
  verifyEvery := 1
  verifiedPartials := partials
  verifyDropped := 0
  timeouts := ⟨0, 0, 0, 0⟩
  newestFrameToPartialLatency := ⟨0, 0, 0, 0, 0⟩
  oldestFrameToPartialLatency := ⟨0, 0, 0, 0, 0⟩
  flushLateness := ⟨0, 0, 0, 0, 0⟩
  harnessLag := ⟨0, 0, 0, 0, 0⟩
  harnessLagSamples := 1
  harnessFaults := 0
  sendBlock := ⟨0, 0, 0, 0, 0⟩

lemma summaryOf_complete (partials protocolErrors correctnessErrors : ℕ) :
    (summaryOf partials protocolErrors correctnessErrors).Complete := by
  have hzero : (⟨0, 0, 0, 0, 0⟩ : Percentiles).Nonneg := by simp [Percentiles.Nonneg]
  exact ⟨hzero, hzero, hzero, hzero, hzero⟩

def members (partials protocolErrors correctnessErrors : ℕ) : String :=
  let count (key : String) (n : ℕ) : String := "\"" ++ key ++ "\":" ++ toString n
  let zeros (key : String) : String := "\"" ++ key ++
    "\":\x7b\"p50_ms\":0.0,\"p95_ms\":0.0,\"p99_ms\":0.0,\"p999_ms\":0.0,\"max_ms\":0.0\x7d"
  ",".intercalate
    [count "sessions" 1, count "partials" partials, count "protocol_errors" protocolErrors,
      count "inference_errors" 0, count "correctness_errors" correctnessErrors,
      count "verify_every" 1, count "verified_partials" partials, count "verify_dropped" 0,
      "\"timeouts\":\x7b\"connect\":0,\"send\":0,\"close\":0,\"session\":0\x7d",
      zeros "newest_frame_to_partial_latency", zeros "oldest_frame_to_partial_latency",
      zeros "flush_lateness", zeros "harness_lag", count "harness_lag_samples" 1,
      count "harness_faults" 0, zeros "send_block"]

def summaryText (partials protocolErrors correctnessErrors : ℕ) : String :=
  "\x7b" ++ members partials protocolErrors correctnessErrors ++ "\x7d"

def samplePython (fl : ℚ → Double) : Interpreter where
  fl := fl
  format _ _ := "0"
  repr s := "'" ++ String.ofList (s.toList.flatMap fun c => if c = '\n' then ['\\', 'n'] else [c]) ++ "'"
  loads _ := .error "Expecting value: line 1 column 1 (char 0)"
  isdigit s := !s.toList.isEmpty && s.toList.all Char.isDigit
  int s := .ok (s.toList.foldl (fun n c => 10 * n + (c.toNat - 48)) 0 : ℕ)
  float _ := .error .ValueError

def reading (fl : ℚ → Double) (partials protocolErrors correctnessErrors : ℕ) : Interpreter :=
  (samplePython fl).reads (summaryText partials protocolErrors correctnessErrors)
    (.obj (summaryOf partials protocolErrors correctnessErrors).json)

lemma strip_object (text : String) :
    String.ofList (strip ("\x7b" ++ text ++ "\x7d").toList) = "\x7b" ++ text ++ "\x7d" := by
  have hopen : isSpace '\x7b' = false := rfl
  have hclose : isSpace '\x7d' = false := rfl
  rw [← String.toList_inj]
  simp [strip, hopen, hclose]

lemma loads_object (py : Interpreter) (text : String) (v : Json) :
    (py.reads ("\x7b" ++ text ++ "\x7d") v).loads
      (String.ofList (strip ("\x7b" ++ text ++ "\x7d").toList)) = .ok v := by
  rw [strip_object, Interpreter.loads_reads]

lemma loads_summaryText (fl : ℚ → Double) (partials protocolErrors correctnessErrors : ℕ) :
    (reading fl partials protocolErrors correctnessErrors).loads
        (String.ofList (strip (summaryText partials protocolErrors correctnessErrors).toList)) =
      .ok (.obj (summaryOf partials protocolErrors correctnessErrors).json) :=
  loads_object ..

lemma main_summaryText (fl : ℚ → Double) (partials protocolErrors correctnessErrors : ℕ) :
    main (reading fl partials protocolErrors correctnessErrors) sess
        (summaryText partials protocolErrors correctnessErrors) =
      evaluate (reading fl partials protocolErrors correctnessErrors) sess
        (summaryOf partials protocolErrors correctnessErrors).json := by
  rw [main]
  simp only [loads_summaryText]

lemma exists_line_of_verdict {r : Except Exception Line} {v : Verdict}
    (h : r.toOption.map Line.verdict = some v) : ∃ line, r = .ok line ∧ line.verdict = v := by
  cases r with
  | error e => cases h
  | ok line => exact ⟨line, rfl, Option.some.inj h⟩

end

end SttBench.Bench.EvalSlo
