import Mathlib.Tactic

/-! # rust-sync: configuration, wire types and panics -/

namespace SttBench.RustSync

abbrev F64 := UInt64
abbrev Instant := ℕ
abbrev Duration := ℕ

def frameBytes : ℕ := 640

def inferenceTimeout : Duration := 2 * 10 ^ 9

def reasonNeedStart : String := "first message must be start"
def reasonTextAfterStart : String := "expected binary PCM frames after start"
def reasonBadFrameSize : String := "expected 640 byte PCM frame"

structure Config where
  inferenceHost : String
  inferencePath : String
  inferenceClients : ℕ
  cpuPasses : ℕ
  modelDelayMs : ℕ
  flushInterval : Duration
deriving DecidableEq, Repr

structure InferResponse where
  rms : F64
  zeroCrossings : ℕ
  checksum : ℕ
  samples : ℕ
  transcript : String
  audioBytes : ℕ
deriving DecidableEq, Repr

inductive ErrorStage
  | InferenceRequest
  | InferenceResponseParse
deriving DecidableEq, Repr

inductive ErrorKind
  | Timeout
  | Http5xx
  | Http429
  | ConnectionReset
  | ParseError
deriving DecidableEq, Repr

structure InferError where
  stage : ErrorStage
  kind : ErrorKind
  message : String
  status : Option ℕ
  retryable : Bool
  elapsed : Duration
deriving DecidableEq, Repr

def transportError (kind : ErrorKind) (message : String) (elapsed : Duration) : InferError where
  stage := .InferenceRequest
  kind := kind
  message := message
  status := none
  retryable := true
  elapsed := elapsed

def timeoutError (elapsed : Duration) : InferError :=
  transportError .Timeout "inference timed out" elapsed

def resetError : InferError := transportError .ConnectionReset "inference connection reset" 0

abbrev InferResult := Except InferError InferResponse

structure PartialMessage where
  oldestFrameSeq : ℕ
  newestFrameSeq : ℕ
  frames : ℕ
  rms : F64
  zeroCrossings : ℕ
  checksum : ℕ
  samples : ℕ
  transcript : String
  audioBytes : ℕ
  cpuPasses : ℕ
  modelDelayMs : ℕ
  flushLateness : Duration
  inflightModelJobs : ℕ
deriving DecidableEq, Repr

structure ErrorMessage where
  stage : ErrorStage
  kind : ErrorKind
  message : String
  oldestFrameSeq : ℕ
  newestFrameSeq : ℕ
  frames : ℕ
  audioBytes : ℕ
  oldestAge : Duration
  newestAge : Duration
  flushLateness : Duration
  inferenceElapsed : Option Duration
  inflightGatewayBatches : ℕ
  gatewayBufferFrames : ℕ
  inferenceStatus : Option ℕ
  retryable : Bool
deriving DecidableEq, Repr

inductive Panic
  | SliceIndex
  | ExpectSock
  | ExpectPre
  | SlotIndex
deriving DecidableEq, Repr

end SttBench.RustSync
