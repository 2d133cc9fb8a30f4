import SttBench.Core.Http1
import SttBench.Core.Tiling

/-! # The messages of the WebSocket protocol -/

namespace SttBench.Wire

open Ascii Http1 Tiling

def frameBytes : ℕ := 640

def closeProtocolError : ℕ := 1002
def closeUnsupportedData : ℕ := 1003
def closeInternalError : ℕ := 1011
def closeTryAgainLater : ℕ := 1013

def reasonNeedStart : String := "first message must be start"
def reasonTextAfterStart : String := "expected binary PCM frames after start"
def reasonBadFrameSize : String := "expected 640 byte PCM frame"

def startJson : String := "\x7b\"type\":\"start\"\x7d"

def silenceJson : String :=
  "\x7b\"rms\":0,\"zero_crossings\":0,\"checksum\":0,\"samples\":320,\"transcript\":\"\"," ++
    "\"audio_bytes\":640\x7d"

def silenceAnswer : Response :=
  okAnswer ⟨bytes "Content-Length", bytes " 89", by decide, by decide, by decide⟩
    (bytes silenceJson)

lemma lengthDelimited_silenceAnswer : LengthDelimited silenceAnswer := by
  refine ⟨⟨_, rfl, [32], [56, 57], [], ?_⟩, ?_⟩ <;> decide

inductive ErrorStage
  | WebsocketReceive
  | BatchFlush
  | InferenceRequest
  | InferenceResponseParse
  | WebsocketSend
deriving DecidableEq, Repr

inductive ErrorKind
  | Timeout
  | PoolTimeout
  | Http5xx
  | Http429
  | ConnectionReset
  | ParseError
  | SendError
deriving DecidableEq, Repr

structure Frame (τ : Type) where
  seq : ℕ
  payload : Ascii.Bytes
  receivedAt : τ
deriving DecidableEq, Repr

structure Prediction (ρ : Type) where
  rms : ρ
  zeroCrossings : ℕ
  checksum : ℕ
  samples : ℕ
  transcript : String
  audioBytes : ℕ
deriving DecidableEq, Repr

structure Failure where
  stage : ErrorStage
  kind : ErrorKind
  message : String
  status : Option ℕ
  retryable : Bool
deriving DecidableEq, Repr

structure PartialMessage (ρ τ : Type) where
  oldestFrameSeq : ℕ
  newestFrameSeq : ℕ
  frames : ℕ
  rms : ρ
  zeroCrossings : ℕ
  checksum : ℕ
  samples : ℕ
  transcript : String
  audioBytes : ℕ
  cpuPasses : ℕ
  modelDelayMs : ℕ
  flushLateness : τ
  inflightModelJobs : ℕ
deriving DecidableEq, Repr

structure ErrorMessage (τ : Type) where
  stage : ErrorStage
  kind : ErrorKind
  message : String
  oldestFrameSeq : ℕ
  newestFrameSeq : ℕ
  frames : ℕ
  audioBytes : ℕ
  oldestAge : τ
  newestAge : τ
  flushLateness : τ
  inferenceElapsed : Option τ
  inflightGatewayBatches : ℕ
  gatewayBufferFrames : ℕ
  inferenceStatus : Option ℕ
  retryable : Bool
deriving DecidableEq, Repr

inductive Message (ρ τ : Type)
  | Partial (m : PartialMessage ρ τ)
  | Error (m : ErrorMessage τ)
deriving DecidableEq, Repr

namespace Message

variable {ρ τ : Type}

def range : Message ρ τ → Range
  | .Partial m => ⟨m.oldestFrameSeq, m.newestFrameSeq⟩
  | .Error m => ⟨m.oldestFrameSeq, m.newestFrameSeq⟩

def frames : Message ρ τ → ℕ
  | .Partial m => m.frames
  | .Error m => m.frames

end Message

end SttBench.Wire
