import SttBench.OcamlAsync.WebsocketFrame
import SttBench.Wire.Messages

/-! # ocaml-oxcaml, ocaml-websocket-async: the receive loop of a connection -/

namespace SttBench.OcamlAsync.WebsocketConnection

open Ascii WebSocket WebsocketFrame Wire

/-! ## The start message -/

inductive Yojson
  | Assoc (fields : List (String × Yojson))
  | String (value : String)
  | Other

def startMessageOfYojson : Yojson → Except String String
  | .Assoc fields =>
    match fields.lookup "type" with
    | some (.String value) =>
      if fields.length = 1 then .ok value
      else .error "Start_message: rejected unknown fields"
    | some _ => .error "Start_message: rejected unknown fields"
    | none => .error "Start_message: missing required \"type\" field"
  | _ => .error "Start_message: expected JSON object"

def readStartMessage (fromString : Bytes → Option Yojson) (payload : Bytes) :
    Except String Unit :=
  match fromString payload with
  | none => .error "first frame: invalid JSON"
  | some json =>
    match startMessageOfYojson json with
    | .ok type =>
      if type = "start" then .ok () else .error "first frame: type must equal \"start\""
    | .error e => .error e

/-! ## The connection -/

structure Session where
  seq : ℕ
  recorded : List (ℕ × Bytes)
deriving DecidableEq, Repr

inductive Verdict
  | Continue
  | Close (code : ℕ) (reason : String)
deriving DecidableEq, Repr

def Session.onBinary (s : Session) (payload : Bytes) : Session × Verdict :=
  if payload.length ≠ frameBytes then
    (s, .Close 1003 s!"frame must be {frameBytes} bytes")
  else (⟨s.seq + 1, s.recorded ++ [(s.seq + 1, payload)]⟩, .Continue)

structure Fragmented where
  messageOpcode : Opcode
  parts : List Bytes
  len : ℕ
deriving DecidableEq, Repr

namespace Fragmented

def add (f : Fragmented) (payload : Bytes) : Fragmented :=
  { f with parts := payload :: f.parts, len := f.len + payload.length }

def concat (f : Fragmented) : Bytes := f.parts.reverse.flatten

@[simp] lemma concat_add (f : Fragmented) (payload : Bytes) :
    (f.add payload).concat = f.concat ++ payload := by
  simp [add, concat]

end Fragmented

structure Conn where
  started : Bool
  fragments : Option Fragmented
  session : Session
  outboundClosed : Bool
  closeCode : Option ℕ
  delivered : List (Opcode × Bytes)
deriving DecidableEq, Repr

inductive Written
  | Pong (payload : Bytes)
  | Close (code : ℕ)
deriving DecidableEq, Repr

def closeMessageTooBig : ℕ := 1009

namespace Conn

def start : Conn := ⟨false, none, ⟨0, []⟩, false, none, []⟩

def closeSession (c : Conn) (code : ℕ) : Conn × List Written :=
  ({ c with outboundClosed := true, closeCode := some code }, [.Close code])

def deliver (c : Conn) (opcode : Opcode) (payload : Bytes) : Conn :=
  { c with delivered := c.delivered ++ [(opcode, payload)] }

end Conn

def receiveLoop (onFrame : Conn → Frame → Conn × List Written) (c : Conn) (stream : Bytes) :
    Conn × List Written :=
  match _h : read stream with
  | .Eof => ({ c with outboundClosed := true }, [])
  | .Error _ => c.closeSession closeProtocolError
  | .Ok frame rest =>
    let (c', out) := onFrame c frame
    if c'.closeCode.isSome then (c', out)
    else
      let (c'', out') := receiveLoop onFrame c' rest
      (c'', out ++ out')
termination_by stream.length
decreasing_by exact length_of_read _h

namespace Oxcaml

variable (fromString : Bytes → Option Yojson)

def maxMessageBytes : ℕ := 2 ^ 20

def dispatch (c : Conn) (frame : Frame) : Conn × List Written :=
  match frame.opcode with
  | .Text =>
    let c := c.deliver frame.opcode frame.payload
    if c.started = false then
      match readStartMessage fromString frame.payload with
      | .ok () => ({ c with started := true }, [])
      | .error _ => c.closeSession closeProtocolError
    else c.closeSession closeProtocolError
  | .Binary =>
    let c := c.deliver frame.opcode frame.payload
    if c.started = false then c.closeSession closeProtocolError
    else
      match c.session.onBinary frame.payload with
      | (session, .Continue) => ({ c with session }, [])
      | (_, .Close code _) => c.closeSession code
  | .Ping => (c, [.Pong frame.payload])
  | .Close =>
    if validClosePayload frame.payload then c.closeSession 1000
    else c.closeSession closeProtocolError
  | .Pong => (c, [])
  | .Continuation => c.closeSession closeProtocolError
  | .Other _ => c.closeSession closeProtocolError

def onData (c : Conn) (frame : Frame) : Conn × List Written :=
  match c.fragments with
  | some _ => c.closeSession closeProtocolError
  | none =>
    if frame.fin = false then
      ({ c with fragments := some ⟨frame.opcode, [frame.payload], frame.payload.length⟩ }, [])
    else dispatch fromString c frame

def onFrame (c : Conn) (frame : Frame) : Conn × List Written :=
  match frame.opcode with
  | .Text => onData fromString c frame
  | .Binary => onData fromString c frame
  | .Continuation =>
    match c.fragments with
    | none => c.closeSession closeProtocolError
    | some f =>
      let f := f.add frame.payload
      let c := { c with fragments := some f }
      if maxMessageBytes < f.len then c.closeSession closeMessageTooBig
      else if frame.fin = false then (c, [])
      else
        dispatch fromString { c with fragments := none }
          ⟨true, f.messageOpcode, f.concat⟩
  | _ => dispatch fromString c frame

end Oxcaml

namespace WebsocketAsync

variable (fromString : Bytes → Option Yojson)

def maxMessageBytes : ℕ := 64 * 1024

def onMessage (c : Conn) (opcode : Opcode) (payload : Bytes) : Conn × List Written :=
  let c := c.deliver opcode payload
  match opcode, c.started with
  | .Text, false =>
    match readStartMessage fromString payload with
    | .ok () => ({ c with started := true }, [])
    | .error _ => c.closeSession closeProtocolError
  | .Binary, true =>
    match c.session.onBinary payload with
    | (session, .Continue) => ({ c with session }, [])
    | (_, .Close code _) => c.closeSession code
  | _, _ => c.closeSession closeProtocolError

def onData (c : Conn) (frame : Frame) : Conn × List Written :=
  match c.fragments with
  | some _ => c.closeSession closeProtocolError
  | none =>
    if frame.fin then onMessage fromString c frame.opcode frame.payload
    else if maxMessageBytes < frame.payload.length then c.closeSession closeMessageTooBig
    else
      ({ c with fragments := some ⟨frame.opcode, [frame.payload], frame.payload.length⟩ }, [])

def onFrame (c : Conn) (frame : Frame) : Conn × List Written :=
  match frame.opcode with
  | .Ping => (c, [.Pong frame.payload])
  | .Pong => (c, [])
  | .Close => c.closeSession 1000
  | .Text => onData fromString c frame
  | .Binary => onData fromString c frame
  | .Continuation =>
    match c.fragments with
    | none => c.closeSession closeProtocolError
    | some f =>
      let f := f.add frame.payload
      if maxMessageBytes < f.len then c.closeSession closeMessageTooBig
      else if frame.fin then
        onMessage fromString { c with fragments := none } f.messageOpcode f.concat
      else ({ c with fragments := some f }, [])
  | .Other _ => c.closeSession closeProtocolError

end WebsocketAsync

/-! ## What the gateways have in common -/

def opcodeOf (m : DataOpcode) : Opcode := opcodeOfInt m.code

structure Reassembles (limit : ℕ) (onFrame : Conn → Frame → Conn × List Written)
    (onMessage : Conn → Opcode → Bytes → Conn × List Written) : Prop where
  limit_le : limit ≤ 2 ^ 30
  fragments_onMessage : ∀ c opcode payload, (onMessage c opcode payload).1.fragments = c.fragments
  ping : ∀ c fin payload, (onFrame c ⟨fin, .Ping, payload⟩).1 = c
  pong : ∀ c fin payload, (onFrame c ⟨fin, .Pong, payload⟩).1 = c
  whole : ∀ c opcode payload, c.fragments = none →
    onFrame c ⟨true, opcodeOf opcode, payload⟩ = onMessage c (opcodeOf opcode) payload
  first : ∀ c opcode payload, c.fragments = none → payload.length ≤ limit →
    (onFrame c ⟨false, opcodeOf opcode, payload⟩).1 =
      { c with fragments := some ⟨opcodeOf opcode, [payload], payload.length⟩ }
  more : ∀ c f payload, c.fragments = some f → f.len + payload.length ≤ limit →
    (onFrame c ⟨false, .Continuation, payload⟩).1 = { c with fragments := some (f.add payload) }
  last : ∀ c f payload, c.fragments = some f → f.len + payload.length ≤ limit →
    onFrame c ⟨true, .Continuation, payload⟩ =
      onMessage { c with fragments := none } f.messageOpcode (f.concat ++ payload)

namespace Oxcaml

variable (fromString : Bytes → Option Yojson)

def onMessage (c : Conn) (opcode : Opcode) (payload : Bytes) : Conn × List Written :=
  dispatch fromString c ⟨true, opcode, payload⟩

lemma onFrame_data (c : Conn) (fin : Bool) (opcode : DataOpcode) (payload : Bytes) :
    onFrame fromString c ⟨fin, opcodeOf opcode, payload⟩ =
      onData fromString c ⟨fin, opcodeOf opcode, payload⟩ := by
  cases opcode <;> rfl

lemma fragments_dispatch (c : Conn) (frame : Frame) :
    (dispatch fromString c frame).1.fragments = c.fragments := by
  unfold dispatch
  split
  · dsimp only
    split_ifs
    · split <;> rfl
    · rfl
  · dsimp only
    split_ifs
    · rfl
    · split <;> rfl
  · rfl
  · split_ifs <;> rfl
  · rfl
  · rfl
  · rfl

lemma reassembles :
    Reassembles maxMessageBytes (onFrame fromString) (onMessage fromString) where
  limit_le := by decide
  fragments_onMessage c opcode payload := fragments_dispatch fromString c ⟨true, opcode, payload⟩
  ping _ _ _ := rfl
  pong _ _ _ := rfl
  whole c opcode payload hc := by
    simp only [onFrame_data, onData, hc]
    rfl
  first c opcode payload hc _ := by
    simp only [onFrame_data, onData, hc]
    rfl
  more c f payload hc hlen := by
    have hlimit : ¬ maxMessageBytes < (f.add payload).len := Nat.not_lt.mpr hlen
    simp only [onFrame, hc, if_neg hlimit]
    rfl
  last c f payload hc hlen := by
    have hlimit : ¬ maxMessageBytes < (f.add payload).len := Nat.not_lt.mpr hlen
    simp only [onFrame, hc, if_neg hlimit, Fragmented.concat_add]
    rfl

end Oxcaml

namespace WebsocketAsync

variable (fromString : Bytes → Option Yojson)

lemma onFrame_data (c : Conn) (fin : Bool) (opcode : DataOpcode) (payload : Bytes) :
    onFrame fromString c ⟨fin, opcodeOf opcode, payload⟩ =
      onData fromString c ⟨fin, opcodeOf opcode, payload⟩ := by
  cases opcode <;> rfl

lemma fragments_onMessage (c : Conn) (opcode : Opcode) (payload : Bytes) :
    (onMessage fromString c opcode payload).1.fragments = c.fragments := by
  unfold onMessage
  dsimp only
  split
  · split <;> rfl
  · split <;> rfl
  · rfl

lemma reassembles :
    Reassembles maxMessageBytes (onFrame fromString) (onMessage fromString) where
  limit_le := by decide
  fragments_onMessage := fragments_onMessage fromString
  ping _ _ _ := rfl
  pong _ _ _ := rfl
  whole c opcode payload hc := by
    simp only [onFrame_data, onData, hc]
    rfl
  first c opcode payload hc hlen := by
    simp only [onFrame_data, onData, hc, if_neg (Nat.not_lt.mpr hlen)]
    rfl
  more c f payload hc hlen := by
    have hlimit : ¬ maxMessageBytes < (f.add payload).len := Nat.not_lt.mpr hlen
    simp only [onFrame, hc, if_neg hlimit]
    rfl
  last c f payload hc hlen := by
    have hlimit : ¬ maxMessageBytes < (f.add payload).len := Nat.not_lt.mpr hlen
    simp only [onFrame, hc, if_neg hlimit, Fragmented.concat_add]
    rfl

end WebsocketAsync

/-! ## Streams of frames -/

section Stream

variable {limit : ℕ} {onFrame : Conn → Frame → Conn × List Written}
  {onMessage : Conn → Opcode → Bytes → Conn × List Written} {c : Conn} {f : ClientFrame}
  {frames : List ClientFrame}

def goOn (onFrame : Conn → Frame → Conn × List Written) (c : Conn) (stream : Bytes) : Conn :=
  if c.closeCode.isSome then c else (receiveLoop onFrame c stream).1

lemma goOn_open (h : c.closeCode = none) (stream : Bytes) :
    goOn onFrame c stream = (receiveLoop onFrame c stream).1 := by
  rw [goOn, h]
  rfl

lemma goOn_eq {stream : Bytes} {c' : Conn}
    (h : c.closeCode = none → (receiveLoop onFrame c stream).1 = c') :
    goOn onFrame c stream = if c.closeCode.isSome then c else c' := by
  unfold goOn
  split_ifs with hclosed
  · rfl
  · exact h (Option.not_isSome_iff_eq_none.mp hclosed)

def wire (frames : List ClientFrame) : Bytes := frames.flatMap ClientFrame.bytes

lemma receiveLoop_nil : receiveLoop onFrame c [] = ({ c with outboundClosed := true }, []) := by
  rw [receiveLoop]
  rfl

lemma receiveLoop_frame (hf : f.Admissible) (hn : f.payload.length ≤ 2 ^ 30)
    (frames : List ClientFrame) (tail : Bytes) :
    (receiveLoop onFrame c (wire (f :: frames) ++ tail)).1 =
      goOn onFrame (onFrame c (ofClient f)).1 (wire frames ++ tail) := by
  have hwire : wire (f :: frames) ++ tail = f.bytes ++ (wire frames ++ tail) := by
    simp [wire]
  rw [hwire, receiveLoop]
  split
  case h_1 h | h_2 h =>
    rw [read_bytes hf hn] at h
    cases h
  case h_3 h =>
    rw [read_bytes hf hn] at h
    obtain ⟨rfl, rfl⟩ := Read.Ok.inj h
    unfold goOn
    dsimp only
    split_ifs <;> rfl

variable (h : Reassembles limit onFrame onMessage)
include h

lemma receiveLoop_control (hf : f.IsPingPong) (hc : c.closeCode = none)
    (frames : List ClientFrame) (tail : Bytes) :
    (receiveLoop onFrame c (wire (f :: frames) ++ tail)).1 =
      (receiveLoop onFrame c (wire frames ++ tail)).1 := by
  have hsame : (onFrame c (ofClient f)).1 = c := by
    obtain hopcode | hopcode := hf.opcode
    · rw [ofClient, hopcode]
      exact h.ping c f.fin f.payload
    · rw [ofClient, hopcode]
      exact h.pong c f.fin f.payload
  have hlength := hf.length_le
  rw [receiveLoop_frame (fun _ => ⟨hf.fin, hf.length_le⟩) (by omega), hsame, goOn_open hc]

lemma receiveLoop_completes {rest : Bytes} (hrest : Completes rest frames) {g : Fragmented}
    (hg : c.fragments = some g) (hc : c.closeCode = none) (hlen : g.len + rest.length ≤ limit)
    (tail : Bytes) :
    (receiveLoop onFrame c (wire frames ++ tail)).1 =
      goOn onFrame (onMessage { c with fragments := none } g.messageOpcode (g.concat ++ rest)).1
        tail := by
  have hlimit := h.limit_le
  -- a continuation is no control frame
  have hadmissible {f : ClientFrame} (hf : f.opcode = 0) : f.Admissible := by
    intro hcontrol
    rw [ClientFrame.IsControl, hf] at hcontrol
    cases hcontrol
  induction hrest generalizing c g with
  | @last f hopcode hfin =>
    have hlast : onFrame c (ofClient f) =
        onMessage { c with fragments := none } g.messageOpcode (g.concat ++ f.payload) := by
      rw [ofClient, hopcode, hfin]
      exact h.last c g f.payload hg hlen
    rw [receiveLoop_frame (hadmissible hopcode) (by omega), hlast]
    rfl
  | @more f payload frames hopcode hfin _ ih =>
    rw [List.length_append] at hlen
    have hmore : (onFrame c (ofClient f)).1 = { c with fragments := some (g.add f.payload) } := by
      rw [ofClient, hopcode, hfin]
      exact h.more c g f.payload hg (by omega)
    have hlen' : (g.add f.payload).len + payload.length ≤ limit := by
      show g.len + f.payload.length + payload.length ≤ limit
      omega
    have hopen : { c with fragments := some (g.add f.payload) }.closeCode = none := hc
    rw [receiveLoop_frame (hadmissible hopcode) (by omega), hmore, goOn_open hopen,
      ih rfl hopen hlen', Fragmented.concat_add, List.append_assoc]
    rfl
  | control hf _ ih => rw [receiveLoop_control h hf hc, ih hg hc hlen]

def deliverAll (onFrame : Conn → Frame → Conn × List Written)
    (onMessage : Conn → Opcode → Bytes → Conn × List Written) (tail : Bytes) :
    Conn → List Message → Conn
  | c, [] => (receiveLoop onFrame c tail).1
  | c, m :: messages =>
    let c' := (onMessage c (opcodeOf m.opcode) m.payload).1
    if c'.closeCode.isSome then c' else deliverAll onFrame onMessage tail c' messages

theorem receiveLoop_carries {messages : List Message} (hframes : Carries messages frames)
    (hlimit : ∀ m ∈ messages, m.payload.length ≤ limit) (hg : c.fragments = none)
    (hc : c.closeCode = none) (tail : Bytes) :
    (receiveLoop onFrame c (wire frames ++ tail)).1 =
      deliverAll onFrame onMessage tail c messages := by
  have hmax := h.limit_le
  have hadmissible {f : ClientFrame} {opcode : DataOpcode} (hf : f.opcode = opcode.code) :
      f.Admissible := by
    intro hcontrol
    rw [ClientFrame.IsControl, hf] at hcontrol
    cases opcode <;> exact absurd hcontrol (by decide)
  induction hframes generalizing c with
  | nil => rfl
  | control hf _ ih => rw [receiveLoop_control h hf hc, ih hlimit hg hc]
  | @whole f m messages frames hopcode hfin hpayload _ ih =>
    obtain ⟨hm, hmessages⟩ := List.forall_mem_cons.mp hlimit
    have hwhole : onFrame c (ofClient f) = onMessage c (opcodeOf m.opcode) m.payload := by
      rw [ofClient, hopcode, hfin, hpayload]
      exact h.whole c m.opcode m.payload hg
    rw [receiveLoop_frame (hadmissible hopcode) (by rw [hpayload]; omega), hwhole]
    exact goOn_eq fun hopen => ih hmessages ((h.fragments_onMessage _ _ _).trans hg) hopen
  | @fragmented f m rest fragments messages frames hopcode hfin hpayload hrest _ ih =>
    obtain ⟨hm, hmessages⟩ := List.forall_mem_cons.mp hlimit
    rw [← hpayload, List.length_append] at hm
    let g : Fragmented := ⟨opcodeOf m.opcode, [f.payload], f.payload.length⟩
    have hfirst : (onFrame c (ofClient f)).1 = { c with fragments := some g } := by
      rw [ofClient, hopcode, hfin]
      exact h.first c m.opcode f.payload hg (by omega)
    have hopen : { c with fragments := some g }.closeCode = none := hc
    have hwire : wire (fragments ++ frames) ++ tail =
        wire fragments ++ (wire frames ++ tail) := by
      simp [wire]
    have hconcat : g.concat ++ rest = m.payload := by
      simp [g, Fragmented.concat, hpayload]
    have hnone : { c with fragments := none } = c := by rw [← hg]
    rw [receiveLoop_frame (hadmissible hopcode) (by omega), hfirst, goOn_open hopen, hwire,
      receiveLoop_completes h hrest rfl hopen hm, hconcat, hnone]
    exact goOn_eq fun hopen => ih hmessages ((h.fragments_onMessage _ _ _).trans hg) hopen

end Stream

/-! ## Fragmentation -/

inductive Gateway
  | oxcaml
  | websocketAsync
deriving DecidableEq, Repr

namespace Gateway

def maxMessageBytes : Gateway → ℕ
  | .oxcaml => Oxcaml.maxMessageBytes
  | .websocketAsync => WebsocketAsync.maxMessageBytes

def onFrame (fromString : Bytes → Option Yojson) : Gateway → Conn → Frame → Conn × List Written
  | .oxcaml => Oxcaml.onFrame fromString
  | .websocketAsync => WebsocketAsync.onFrame fromString

def onMessage (fromString : Bytes → Option Yojson) :
    Gateway → Conn → Opcode → Bytes → Conn × List Written
  | .oxcaml => Oxcaml.onMessage fromString
  | .websocketAsync => WebsocketAsync.onMessage fromString

lemma reassembles (fromString : Bytes → Option Yojson) (gateway : Gateway) :
    Reassembles gateway.maxMessageBytes (gateway.onFrame fromString)
      (gateway.onMessage fromString) := by
  cases gateway with
  | oxcaml => exact Oxcaml.reassembles fromString
  | websocketAsync => exact WebsocketAsync.reassembles fromString

def run (fromString : Bytes → Option Yojson) (gateway : Gateway) (stream : Bytes) :
    Conn × List Written :=
  receiveLoop (gateway.onFrame fromString) .start stream

end Gateway

theorem fragmentation_invariant (gateway : Gateway) (fromString : Bytes → Option Yojson)
    {messages : List Message} {frames whole : List ClientFrame} (hframes : Carries messages frames)
    (hwhole : Unfragmented messages whole)
    (hlimit : ∀ m ∈ messages, m.payload.length ≤ gateway.maxMessageBytes) (tail : Bytes) :
    (gateway.run fromString (wire frames ++ tail)).1 =
      (gateway.run fromString (wire whole ++ tail)).1 := by
  have h := gateway.reassembles fromString
  calc (gateway.run fromString (wire frames ++ tail)).1
      = deliverAll (gateway.onFrame fromString) (gateway.onMessage fromString) tail .start
          messages := receiveLoop_carries h hframes hlimit rfl rfl tail
    _ = (gateway.run fromString (wire whole ++ tail)).1 :=
        (receiveLoop_carries h hwhole.carries hlimit rfl rfl tail).symm

def shortFrame (fin : Bool) (opcode : Fin 16) (payload : Bytes) (h : payload.length < 126) :
    ClientFrame :=
  ⟨fin, opcode, [1, 2, 3, 4], payload, .Short, length_sampleKey, h⟩

def startText : Message := ⟨.Text, bytes startJson⟩

def parseStart (payload : Bytes) : Option Yojson :=
  if payload = bytes startJson then some (.Assoc [("type", .String "start")]) else none

def startFragments : List ClientFrame :=
  [shortFrame false 1 (bytes "\x7b\"type\":") (by decide +kernel), shortFrame true 9 [7] (by decide),
    shortFrame false 0 [] (by decide), shortFrame true 0 (bytes "\"start\"\x7d") (by decide +kernel)]

def startFrame : ClientFrame := shortFrame true 1 (bytes startJson) (by decide +kernel)

lemma carries_startFragments : Carries [startText] startFragments :=
  .fragmented rfl rfl (by decide +kernel)
    (.control ⟨.inl rfl, rfl, by decide⟩ (.more rfl rfl (.last rfl rfl))) .nil

theorem fragmentation_invariant_start :
    (Gateway.websocketAsync.run parseStart (wire startFragments ++ [])).1 =
        (Gateway.websocketAsync.run parseStart (wire [startFrame] ++ [])).1 ∧
      (Gateway.websocketAsync.run parseStart (wire startFragments ++ [])).1.started = true := by
  have hlimit : ∀ m ∈ [startText], m.payload.length ≤ Gateway.websocketAsync.maxMessageBytes := by
    decide +kernel
  refine ⟨fragmentation_invariant .websocketAsync parseStart carries_startFragments
    (.cons ⟨rfl, rfl, rfl⟩ .nil) hlimit [], ?_⟩
  have hrun := receiveLoop_carries (Gateway.websocketAsync.reassembles parseStart)
    carries_startFragments hlimit (rfl : Conn.start.fragments = none) rfl []
  have hmessage : (WebsocketAsync.onMessage parseStart .start .Text (bytes startJson)).1 =
      ⟨true, none, ⟨0, []⟩, false, none, [(.Text, bytes startJson)]⟩ := by
    decide +kernel
  calc (Gateway.websocketAsync.run parseStart (wire startFragments ++ [])).1.started
      = (deliverAll (WebsocketAsync.onFrame parseStart) (WebsocketAsync.onMessage parseStart) []
          .start [startText]).started := congrArg Conn.started hrun
    _ = true := by
        have hfirst : (WebsocketAsync.onMessage parseStart .start (opcodeOf startText.opcode)
            startText.payload).1 = _ := hmessage
        simp only [deliverAll, hfirst, Option.isSome_none, receiveLoop_nil]
        rfl

end SttBench.OcamlAsync.WebsocketConnection
