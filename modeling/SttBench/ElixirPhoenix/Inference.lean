import SttBench.ElixirPhoenix.SttWebSocket

/-!
# elixir-phoenix: the inference task

From the replies of the pool to the text the session pushes.
-/

namespace SttBench.ElixirPhoenix

open Ascii TransitionSystem Wire

inductive Term
  | Nil
  | Boolean (b : Bool)
  | Integer (i : ℤ)
  | Float (bits : UInt64)
  | Binary (s : Bytes)
  | List (elements : List Term)
  | Map (entries : List (Bytes × Term))

structure Codec where
  /-- `JSON.decode`; the error is inspected. -/
  decode : Bytes → Except String Term
  /-- `inspect(_, limit: 5)`. -/
  inspect : Term → String

/-! ## The request -/

inductive FinchError
  /-- `%Mint.TransportError{reason: :timeout}` -/
  | TransportTimeout
  /-- `%Finch.Error{reason: :request_timeout}` -/
  | RequestTimeout
  | Other (inspected : String)
deriving DecidableEq, Repr

inductive Reply
  | Status (status : ℕ)
  | Headers
  | Data (data : Bytes)
  | Done
  | Error (e : FinchError)
deriving DecidableEq, Repr

inductive Attempt
  | Raised (banner : String)
  | Replies (replies : List Reply)
deriving DecidableEq, Repr

inductive Requested
  | Response (status : ℕ) (body : Bytes)
  | Error (e : FinchError)
  | Crashed (message : String)
deriving DecidableEq, Repr

def awaitResponse (status : ℕ) (body : Bytes) : List Reply → Requested
  | [] => .Error .TransportTimeout
  | .Status status :: rs => awaitResponse status body rs
  | .Headers :: rs => awaitResponse status body rs
  | .Data data :: rs => awaitResponse status (body ++ data) rs
  | .Done :: _ => .Response status body
  | .Error e :: _ => .Error e

def safeRequest : Attempt → Requested
  | .Raised banner => .Crashed ("inference request crashed: " ++ banner)
  | .Replies replies => awaitResponse 0 [] replies

/-! ## The result -/

def makeErrorPayload (stage : ErrorStage) (kind : ErrorKind) (message : String)
    (inferenceStatus : Option ℕ) (elapsed : Micros) (retryable : Bool) : ErrorPayload where
  stage := stage
  kind := kind
  message := message
  inferenceStatus := inferenceStatus
  inferenceElapsed := some elapsed
  retryable := retryable

def statusError (status : ℕ) (elapsed : Micros) : ErrorPayload :=
  let (kind, retryable) : ErrorKind × Bool :=
    if status = 429 then (.Http429, true)
    else if 500 ≤ status ∧ status ≤ 599 then (.Http5xx, true)
    else (.Http5xx, false)
  makeErrorPayload .InferenceRequest kind ("inference returned status " ++ toString status)
    (some status) elapsed retryable

def transportError (e : FinchError) (elapsed : Micros) : ErrorPayload :=
  let (kind, message) : ErrorKind × String :=
    match e with
    | .TransportTimeout | .RequestTimeout => (.Timeout, "inference request timed out")
    | .Other inspected => (.ConnectionReset, inspected)
  makeErrorPayload .InferenceRequest kind message none elapsed true

def fetch (decoded : List (Bytes × Term)) (key : String) : Term :=
  (decoded.lookup (bytes key)).getD .Nil

def buildResult (decoded : List (Bytes × Term)) : InferenceResult Term where
  rms := fetch decoded "rms"
  zeroCrossings := fetch decoded "zero_crossings"
  checksum := fetch decoded "checksum"
  samples := fetch decoded "samples"
  transcript := fetch decoded "transcript"
  audioBytes := fetch decoded "audio_bytes"

def decodeBody (codec : Codec) (body : Bytes) (elapsed : Micros) :
    Except ErrorPayload (InferenceResult Term) :=
  match codec.decode body with
  | .ok (.Map decoded) => .ok (buildResult decoded)
  | .ok other => .error (makeErrorPayload .InferenceResponseParse .ParseError
      ("inference response is not a JSON object: " ++ codec.inspect other) (some 200) elapsed false)
  | .error e =>
    .error (makeErrorPayload .InferenceResponseParse .ParseError e (some 200) elapsed false)

def callInference (codec : Codec) (attempt : Attempt) (elapsed : Micros) :
    Except ErrorPayload (InferenceResult Term) :=
  match safeRequest attempt with
  | .Response status body =>
    if status = 200 then decodeBody codec body elapsed else .error (statusError status elapsed)
  | .Error e => .error (transportError e elapsed)
  | .Crashed message =>
    .error (makeErrorPayload .InferenceRequest .ConnectionReset message none elapsed true)

/-! ## Complete results -/

def Term.isNumber : Term → Bool
  | .Integer _ | .Float _ => true
  | _ => false

def Term.isCount : Term → Bool
  | .Integer i => 0 ≤ i
  | _ => false

def Term.isText : Term → Bool
  | .Binary _ => true
  | _ => false

structure Holds (decoded : List (Bytes × Term)) (r : InferenceResult Term) : Prop where
  rms : decoded.lookup (bytes "rms") = some r.rms ∧ r.rms.isNumber
  zeroCrossings : decoded.lookup (bytes "zero_crossings") = some r.zeroCrossings ∧
    r.zeroCrossings.isCount
  checksum : decoded.lookup (bytes "checksum") = some r.checksum ∧ r.checksum.isCount
  samples : decoded.lookup (bytes "samples") = some r.samples ∧ r.samples.isCount
  transcript : decoded.lookup (bytes "transcript") = some r.transcript ∧ r.transcript.isText
  audioBytes : decoded.lookup (bytes "audio_bytes") = some r.audioBytes ∧ r.audioBytes.isCount

def Codec.Accepts (codec : Codec) (body : Bytes) (r : InferenceResult Term) : Prop :=
  ∃ decoded, codec.decode body = .ok (.Map decoded) ∧ Holds decoded r

lemma fetch_of_lookup {decoded : List (Bytes × Term)} {key : String} {t : Term}
    (h : decoded.lookup (bytes key) = some t) : fetch decoded key = t := by
  rw [fetch, h, Option.getD_some]

lemma Holds.buildResult {decoded : List (Bytes × Term)} {r : InferenceResult Term}
    (h : Holds decoded r) : buildResult decoded = r := by
  rw [ElixirPhoenix.buildResult, fetch_of_lookup h.rms.1, fetch_of_lookup h.zeroCrossings.1,
    fetch_of_lookup h.checksum.1, fetch_of_lookup h.samples.1, fetch_of_lookup h.transcript.1,
    fetch_of_lookup h.audioBytes.1]

def Pushed.isParseError : Pushed Term → Bool
  | .Partial _ => false
  | .Error m => m.kind = .ParseError

namespace Socket

variable {env : Env} {s : Socket Term} {k : ℕ} {task : Task} {attempt : Attempt}
  {body : Bytes} {elapsed now : Micros}

lemma response_decodeBody (s : Socket Term) (codec : Codec) (body : Bytes) (context : Context)
    (elapsed now : Micros) :
    (∃ decoded p, codec.decode body = .ok (.Map decoded) ∧ p.result = buildResult decoded ∧
      s.response context now (decodeBody codec body elapsed) = .Partial p) ∨
    (∀ decoded, codec.decode body ≠ .ok (.Map decoded)) ∧
      (s.response context now (decodeBody codec body elapsed)).isParseError = true ∧
      ∀ p, s.response context now (decodeBody codec body elapsed) ≠ .Partial p := by
  unfold decodeBody
  split
  · rename_i decoded hdecode
    exact .inl ⟨decoded, _, hdecode, rfl, rfl⟩
  · rename_i other hother hdecode
    refine .inr ⟨fun decoded h => ?_, rfl, fun p => by simp [response]⟩
    exact hother decoded (Except.ok.inj (hdecode.symm.trans h))
  · rename_i e hdecode
    refine .inr ⟨fun decoded h => ?_, rfl, fun p => by simp [response]⟩
    cases hdecode.symm.trans h

lemma step_computeFinished (hrun : s.status = .Running) (hk : s.tasks[k]? = some task)
    (result : Except ErrorPayload (InferenceResult Term)) :
    s.step env (.ComputeFinished k result now) =
      some { s with
        tasks := s.tasks.eraseIdx k
        pushed := s.pushed ++ [s.response task.context now result]
        busy := false } := by
  simp [step, hrun, handleEvent, hk]

theorem relays_complete_iff (codec : Codec) (hrun : s.status = .Running)
    (hk : s.tasks[k]? = some task) (hresponse : safeRequest attempt = .Response 200 body) :
    (∃ s' m, s.step env (.ComputeFinished k (callInference codec attempt elapsed) now) = some s' ∧
      s'.status = .Running ∧ s'.pushed = s.pushed ++ [m] ∧ m.range = task.context.range ∧
      m.frames = task.context.frames ∧ (∀ p, m = .Partial p → codec.Accepts body p.result) ∧
      ((∀ r, ¬codec.Accepts body r) → m.isParseError = true)) ↔
    ∀ decoded, codec.decode body = .ok (.Map decoded) → ∃ r, Holds decoded r := by
  have hcall : callInference codec attempt elapsed = decodeBody codec body elapsed := by
    rw [callInference, hresponse]
    exact if_pos rfl
  rw [hcall, step_computeFinished hrun hk]
  have hcases := response_decodeBody s codec body task.context elapsed now
  constructor
  · rintro ⟨s', m, hs', -, hpushed, -, -, haccepts, -⟩ decoded hdecode
    cases hs'
    obtain rfl := List.singleton_inj.mp (List.append_cancel_left hpushed)
    obtain ⟨-, p, -, -, hp⟩ | ⟨hnone, -⟩ := hcases
    · obtain ⟨decoded', hdecode', hholds⟩ := haccepts p hp
      cases hdecode.symm.trans hdecode'
      exact ⟨_, hholds⟩
    · exact absurd hdecode (hnone decoded)
  · intro hcomplete
    refine ⟨_, _, rfl, hrun, rfl, range_response .., frames_response .., ?_, ?_⟩
    · rintro p hp
      obtain ⟨decoded, p', hdecode, hresult, hp'⟩ | ⟨-, -, hnot⟩ := hcases
      · obtain rfl := Pushed.Partial.inj (hp'.symm.trans hp)
        obtain ⟨r, hr⟩ := hcomplete decoded hdecode
        exact ⟨decoded, hdecode, by rwa [hresult, hr.buildResult]⟩
      · exact absurd hp (hnot p)
    · intro hnot
      obtain ⟨decoded, -, hdecode, -⟩ | ⟨-, hparse, -⟩ := hcases
      · obtain ⟨r, hr⟩ := hcomplete decoded hdecode
        exact absurd ⟨decoded, hdecode, hr⟩ (hnot r)
      · exact hparse

lemma exists_waiting : ∃ (s : Socket Term) (task : Task), (system Term defaultEnv).Reachable s ∧
    s.status = .Running ∧ s.tasks[0]? = some task ∧ s.pushed = [] ∧
      task.context.range = ⟨1, 1⟩ := by
  obtain ⟨s₀, hinit, s, hexec, hstatus, hpushed, htasks⟩ : ∃ s₀ ∈ init defaultEnv,
      ∃ s : Socket Term, s ∈ exec (step defaultEnv) s₀ [.In (bytes startJson) .Text 0 0,
        .In (List.replicate 640 0) .Binary 20000 0, .Flush 1000000] ∧ s.status = .Running ∧
        s.pushed.isEmpty ∧ s.tasks.map (fun t => t.context.range) = [⟨1, 1⟩] := by
    decide +kernel
  obtain ⟨task, htask, hrange⟩ := List.map_eq_singleton_iff.mp htasks
  refine ⟨s, task, Reachable.of_exec (fun _ _ _ h => h) (.start hinit) hexec, hstatus, ?_,
    List.isEmpty_iff.mp hpushed, hrange⟩
  rw [htask]
  rfl

def oneText (text : String) (t : Term) : Codec where
  decode b := if b = bytes text then .ok t else .error "\x7b:unexpected_end, 0\x7d"
  inspect _ := "nil"

def okReplies (text : String) : Attempt :=
  .Replies [.Status 200, .Headers, .Data (bytes text), .Done]

def completeText : String :=
  "\x7b\"rms\":1,\"zero_crossings\":2,\"checksum\":3,\"samples\":320,\"transcript\":\"a\"," ++
    "\"audio_bytes\":640\x7d"

def completeTerm : Term :=
  .Map [(bytes "rms", .Integer 1), (bytes "zero_crossings", .Integer 2),
    (bytes "checksum", .Integer 3), (bytes "samples", .Integer 320),
    (bytes "transcript", .Binary (bytes "a")), (bytes "audio_bytes", .Integer 640)]

theorem relays_complete_iff_result :
    ∃ s s' m, (system Term defaultEnv).Reachable s ∧
      s.step defaultEnv (.ComputeFinished 0
        (callInference (oneText completeText completeTerm) (okReplies completeText) 80000)
        1080000) = some s' ∧
      s'.status = .Running ∧ s'.pushed = [m] ∧ m.range = ⟨1, 1⟩ ∧
      ∀ p, m = .Partial p →
        (oneText completeText completeTerm).Accepts (bytes completeText) p.result := by
  obtain ⟨s, task, hreach, hrun, hk, hpushed, hrange⟩ := exists_waiting
  have hdecode : (oneText completeText completeTerm).decode (bytes completeText) =
      .ok completeTerm := by
    simp only [oneText, if_pos]
  have hholds : ∀ decoded, (oneText completeText completeTerm).decode (bytes completeText) =
      .ok (.Map decoded) → ∃ r, Holds decoded r := by
    intro decoded h
    cases hdecode.symm.trans h
    exact ⟨⟨.Integer 1, .Integer 2, .Integer 3, .Integer 320, .Binary (bytes "a"), .Integer 640⟩,
      ⟨rfl, rfl⟩, ⟨rfl, rfl⟩, ⟨rfl, rfl⟩, ⟨rfl, rfl⟩, ⟨rfl, rfl⟩, ⟨rfl, rfl⟩⟩
  obtain ⟨s', m, hstep, hrun', hpushed', hrange', -, haccepts, -⟩ :=
    (relays_complete_iff (oneText completeText completeTerm) hrun hk
      (show safeRequest (okReplies completeText) = .Response 200 (bytes completeText) from rfl)).mpr
      hholds
  rw [hpushed] at hpushed'
  exact ⟨s, s', m, hreach, hstep, hrun', hpushed', hrange'.trans hrange, haccepts⟩

theorem empty_object_relayed :
    ∃ s s' m, (system Term defaultEnv).Reachable s ∧
      s.step defaultEnv (.ComputeFinished 0
        (callInference (oneText "\x7b\x7d" (.Map [])) (okReplies "\x7b\x7d") 80000) 1080000) =
        some s' ∧
      s'.pushed = [.Partial m] ∧ m.result = ⟨.Nil, .Nil, .Nil, .Nil, .Nil, .Nil⟩ := by
  obtain ⟨s, task, hreach, hrun, hk, hpushed, -⟩ := exists_waiting
  obtain ⟨m, hm, hresult⟩ : ∃ m, s.response task.context 1080000
      (callInference (oneText "\x7b\x7d" (.Map [])) (okReplies "\x7b\x7d") 80000) = .Partial m ∧
      m.result = ⟨.Nil, .Nil, .Nil, .Nil, .Nil, .Nil⟩ := ⟨_, rfl, rfl⟩
  refine ⟨s, _, m, hreach, step_computeFinished hrun hk _, ?_, hresult⟩
  rw [hpushed, hm]
  rfl

end Socket

end SttBench.ElixirPhoenix
