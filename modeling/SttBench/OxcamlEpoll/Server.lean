import SttBench.Core.TransitionSystem
import SttBench.OxcamlEpoll.HttpResponse
import SttBench.OxcamlEpoll.Session

/-!
# ocaml-oxcaml-epoll: the server

`linux/server.ml`, function by function. There is one thread, so a step is one event.
-/

namespace SttBench.OxcamlEpoll

open Ascii Conn

abbrev SockId := ℕ

def epollin : ℕ := 0x001
def epollout : ℕ := 0x004
def epollerr : ℕ := 0x008
def epollhup : ℕ := 0x010

def listenerToken : ℕ := 1
def firstSlotToken : ℕ := 2
def firstConnToken : ℕ := 10000

def Conn.connEvents (c : Conn) : ℕ :=
  (if c.closeAfterWrite then 0 else epollin) ||| (if c.outPending then epollout else 0) |||
    epollerr ||| epollhup

/-! ## Slots -/

inductive SlotState
  | Idle
  | Connecting
  | Sending
  | Receiving
deriving DecidableEq, Repr

inductive Attempt
  | Failed (fd : Option SockId)
  | Raised
deriving DecidableEq, Repr

structure Slot where
  fd : Option SockId
  registered : Bool
  state : SlotState
  req : Bytes
  reqPos : ℕ
  resp : Bytes
  owner : Option ℕ
  startedMs : Ms
  retried : Bool
  /-- The log of the request; no handler reads it. -/
  attempts : List Attempt
deriving DecidableEq, Repr

inductive Connect
  | NoSocket (message : String)
  | Refused (message : String)
  | NotRegistered (message : String)
  | Ok
deriving DecidableEq, Repr

inductive SendResult
  | Wrote (n : ℕ)
  | Again
  | Intr
  | Fail (message : String)
deriving DecidableEq, Repr

structure Io where
  /-- The connections `accept` returns, with the clock and the jitter of each. -/
  accepts : List (Ms × Ms)
  reads : List ReadResult
  writes : List WriteResult
  sends : List SendResult
  /-- `getsockopt_error`. -/
  sockError : Option String
  connect : Connect
  /-- The clock, when an elapsed time is taken, and once more when an error is sent. -/
  now : Ms
  clock : Ms
  /-- The clock, when the frame of this number is recorded. -/
  received : ℕ → Ms

namespace Slot

def new : Slot where
  fd := none
  registered := false
  state := .Idle
  req := []
  reqPos := 0
  resp := []
  owner := none
  startedMs := 0
  retried := false
  attempts := []

def isFree (slot : Slot) : Bool := slot.state = .Idle ∧ slot.owner = none

def canHandleEvent (slot : Slot) : Bool := slot.state ≠ .Idle ∧ slot.owner.isSome

def hasReadableResponseEvent (slot : Slot) (events : ℕ) : Bool :=
  slot.state = .Receiving ∧ events &&& epollin ≠ 0

def register (slot : Slot) : Slot :=
  { slot with registered := if slot.fd.isSome ∧ slot.state ≠ .Idle then true else slot.registered }

def unregister (slot : Slot) : Slot :=
  { slot with registered := if slot.fd.isSome then false else slot.registered }

def closeFd (slot : Slot) : Slot := { slot.unregister with fd := none }

def log (slot : Slot) (a : Attempt) : Slot := { slot with attempts := slot.attempts ++ [a] }

def connect (slot : Slot) (sock : SockId) : Connect → Slot × Option String
  | .NoSocket m => (slot.log .Raised, some m)
  | .Refused m => ({ slot with fd := some sock, state := .Connecting }.closeFd.log .Raised, some m)
  | .NotRegistered m => ({ slot with fd := some sock, state := .Connecting }.log .Raised, some m)
  | .Ok => ({ slot with fd := some sock, state := .Connecting }.register, none)

def freed (slot : Slot) : Slot :=
  { slot.unregister with owner := none, state := .Idle, reqPos := 0, resp := [] }

def dropped (slot : Slot) : Slot :=
  { slot with fd := none, registered := false, owner := none, state := .Idle, reqPos := 0,
              resp := [] }

def sendLoop (slot : Slot) : List SendResult → Slot × Option String
  | [] =>
    if slot.req.length ≤ slot.reqPos then ({ slot with state := .Receiving }.register, none)
    else (slot.register, none)
  | w :: ws =>
    if slot.req.length ≤ slot.reqPos then ({ slot with state := .Receiving }.register, none)
    else match w with
      | .Again => (slot.register, none)
      | .Intr => slot.sendLoop ws
      | .Fail message => (slot, some message)
      | .Wrote 0 => (slot, some "inference write returned zero")
      | .Wrote n => { slot with reqPos := slot.reqPos + n }.sendLoop ws

inductive Received
  | Wait
  | Failed (message : String)
  | Complete (p : HttpResponse.Parsed)
deriving DecidableEq, Repr

def recvLoop (slot : Slot) : List ReadResult → Slot × Received
  | [] => (slot.register, .Wait)
  | .Again :: _ => (slot.register, .Wait)
  | .Intr :: rs => slot.recvLoop rs
  | .Fail message :: _ => (slot, .Failed message)
  | .Data [] :: _ => (slot, .Failed "inference closed response")
  | .Data chunk :: rs =>
    let slot := { slot with resp := slot.resp ++ chunk }
    match HttpResponse.parse slot.resp with
    | none => slot.recvLoop rs
    | some p => (slot, .Complete p)

end Slot

/-! ## The state -/

structure IntStack where
  data : List ℕ
  capacity : ℕ
deriving DecidableEq, Repr

namespace IntStack

def push (t : IntStack) (value : ℕ) : Except Exn IntStack :=
  if t.data.length = t.capacity then .error (.InvalidArgument "Int_stack.push")
  else .ok { t with data := value :: t.data }

def pop (t : IntStack) : Option (ℕ × IntStack) :=
  match t.data with
  | [] => none
  | v :: data => some (v, { t with data := data })

def init (n : ℕ) : IntStack := ⟨List.range n, n⟩

end IntStack

inductive TimerKind
  | Flush
  | Timeout
deriving DecidableEq, Repr

structure Timer where
  atMs : Ms
  token : ℕ
  kind : TimerKind
  gen : ℕ
deriving DecidableEq, Repr

def Timer.le (a b : Timer) : Bool :=
  let rank : TimerKind → ℕ | .Flush => 0 | .Timeout => 1
  a.atMs < b.atMs ∨ (a.atMs = b.atMs ∧ (a.token < b.token ∨ (a.token = b.token ∧
    (rank a.kind < rank b.kind ∨ (a.kind = b.kind ∧ a.gen ≤ b.gen)))))

structure Wire where
  sent : List Bytes
  got : Bytes
deriving DecidableEq, Repr

structure Finish where
  idx : ℕ
  owner : ℕ
  result : InferResult
  attempts : List Attempt

structure Setup where
  config : Config
  decoders : Decoders

structure Server where
  conns : ℕ → Option Conn
  slots : List Slot
  freeSlots : IntStack
  timers : List Timer
  nextConnId : ℕ
  nextSock : SockId
  traces : ℕ → Trace
  wires : SockId → Wire
  finished : List Finish

namespace Server

variable (g : Setup)

def create : Server where
  conns _ := none
  slots := List.replicate g.config.inferenceHttpClients Slot.new
  freeSlots := IntStack.init g.config.inferenceHttpClients
  timers := []
  nextConnId := 1
  nextSock := 0
  traces _ := ⟨[], []⟩
  wires _ := ⟨[], []⟩
  finished := []

def setSlot (s : Server) (idx : ℕ) (slot : Slot) : Server :=
  { s with slots := s.slots.set idx slot }

def handled (s : Server) (id : ℕ) (r : Handled) : Server :=
  { s with conns := Function.update s.conns id (some r.conn),
           traces := Function.update s.traces id ((s.traces id).extend r) }

def connectSlot (s : Server) (idx : ℕ) (slot : Slot) (connect : Connect) : Server :=
  { s.setSlot idx (slot.connect s.nextSock connect).1 with
    nextSock := match connect with | .NoSocket _ => s.nextSock | _ => s.nextSock + 1 }

def freeSlot (s : Server) (idx : ℕ) (slot : Slot) : Except Exn Server :=
  if slot.isFree then .ok (s.setSlot idx slot)
  else (s.freeSlots.push idx).map fun free => { s.setSlot idx slot.freed with freeSlots := free }

/-! ## Answers -/

def errorFor (c : Conn) (p : Pending) (err : Error) (clock : Ms) : Error :=
  { err with
    oldestFrameSeq := p.oldestSeq
    newestFrameSeq := p.newestSeq
    frames := p.frames
    audioBytes := p.audioBytes
    oldestAgeMs := max 0 (clock - p.oldestMs)
    newestAgeMs := max 0 (clock - p.newestMs)
    flushLatenessMs := p.flushLatenessMs
    gatewayBufferFrames := c.batchFrames }

def partialFor (p : Pending) (infer : InferResponse) : Partial where
  oldestFrameSeq := p.oldestSeq
  newestFrameSeq := p.newestSeq
  frames := p.frames
  rms := infer.rms
  zeroCrossings := infer.zeroCrossings
  checksum := infer.checksum
  samples := infer.samples
  transcript := infer.transcript
  audioBytes := infer.audioBytes
  cpuPasses := g.config.cpuPasses
  modelDelayMs := g.config.modelDelayMs
  flushLatenessMs := p.flushLatenessMs

def deliverError (s : Server) (id : ℕ) (c : Conn) (p : Pending) (err : Error) (clock : Ms) :
    Server :=
  s.handled id ((c.setPending none).enqueueGeneratedText (.Error (errorFor c p err clock)))

def deliverResult (s : Server) (owner : ℕ) (result : InferResult) (clock : Ms) : Server :=
  match s.conns owner with
  | none => s
  | some c =>
    match c.pending with
    | none => s
    | some p =>
      match result with
      | .ok infer => s.handled owner
          ((c.setPending none).enqueueGeneratedText (.Partial (partialFor g p infer)))
      | .error err => s.deliverError owner c p err clock

def slotDone (s : Server) (idx : ℕ) (slot : Slot) (result : InferResult) (clock : Ms) :
    Except Exn Server :=
  (s.freeSlot idx slot).map fun s =>
    match slot.owner with
    | none => s
    | some owner =>
      deliverResult g { s with finished := s.finished ++ [⟨idx, owner, result, slot.attempts⟩] }
        owner result clock

/-! ## Driving a slot -/

def retryOrFail (s : Server) (idx : ℕ) (slot : Slot) (message : String) (io : Io) :
    Except Exn Server :=
  let slot := slot.log (.Failed slot.fd)
  if slot.retried then
    let slot := slot.closeFd
    s.slotDone g idx slot
      (.error (makeTransportError .ConnectionReset message (io.now - slot.startedMs))) io.clock
  else
    let slot := { { slot with retried := true }.closeFd with reqPos := 0, resp := [] }
    let r := slot.connect s.nextSock io.connect
    match r.2 with
    | none => .ok (s.connectSlot idx slot io.connect)
    | some _ => (s.connectSlot idx slot io.connect).slotDone g idx r.1
        (.error (makeTransportError .ConnectionReset message 0)) io.clock

def respond (s : Server) (idx : ℕ) (slot : Slot) (p : HttpResponse.Parsed) (io : Io) :
    Except Exn Server :=
  let elapsed := io.now - slot.startedMs
  if p.hasContentLength = false then
    s.slotDone g idx slot.closeFd (.error
      { makeTransportError .ParseError "inference response missing Content-Length" elapsed with
        stage := .InferenceResponseParse, inferenceStatus := some p.status, retryable := false })
      io.clock
  else if p.status < 200 ∨ 300 ≤ p.status then
    s.slotDone g idx slot.closeFd (.error
      { makeTransportError (classifyStatus p.status).1
          ("inference returned HTTP " ++ toString p.status) elapsed with
        inferenceStatus := some p.status, retryable := (classifyStatus p.status).2 }) io.clock
  else
    match inferResponseOfBytes g.decoders slot.resp p.bodyPos p.bodyLen with
    | .error e => .error e
    | .ok (.ok infer) => s.slotDone g idx slot (.ok infer) io.clock
    | .ok (.error message) => s.slotDone g idx slot (.error
        { makeTransportError .ParseError message elapsed with
          stage := .InferenceResponseParse, inferenceStatus := some p.status, retryable := false })
        io.clock

def driveSlot (s : Server) (idx : ℕ) (slot : Slot) (io : Io) : Except Exn Server :=
  match slot.fd, slot.state with
  | none, _ => .ok s
  | some _, .Idle => .ok s
  | some _, .Connecting =>
    match io.sockError with
    | none => .ok (s.setSlot idx { slot with state := .Sending }.register)
    | some message => s.retryOrFail g idx slot message io
  | some k, .Sending =>
    let r := slot.sendLoop io.sends
    let s := s.setSlot idx r.1
    let s := if r.1.state = .Receiving then
        { s with wires := Function.update s.wires k
                   { (s.wires k) with sent := (s.wires k).sent ++ [slot.req] } }
      else s
    match r.2 with
    | none => .ok s
    | some message => s.retryOrFail g idx r.1 message io
  | some k, .Receiving =>
    let r := slot.recvLoop io.reads
    let s := s.setSlot idx r.1
    let got := (s.wires k).got ++ r.1.resp.drop slot.resp.length
    let s := { s with wires := Function.update s.wires k { (s.wires k) with got := got } }
    match r.2 with
    | .Wait => .ok s
    | .Failed message => s.retryOrFail g idx r.1 message io
    | .Complete p => s.respond g idx r.1 p io

/-! ## Batches -/

def onOwned (id : ℕ) (f : Server → ℕ → Slot → Except Exn Server) (s : Server) (idx : ℕ) :
    Except Exn Server :=
  match s.slots[idx]? with
  | none => .ok s
  | some slot => if slot.owner = some id then f s idx slot else .ok s

def forOwned (id : ℕ) (f : Server → ℕ → Slot → Except Exn Server) (s : Server) :
    Except Exn Server :=
  (List.range s.slots.length).foldlM (onOwned id f) s

def closeConn (s : Server) (id : ℕ) : Except Exn Server :=
  (s.forOwned id fun s idx slot => (s.freeSlots.push idx).map fun free =>
    { s.setSlot idx slot.dropped with freeSlots := free }).map fun s =>
      { s with conns := Function.update s.conns id none }

def submitInference (s : Server) (id : ℕ) (c : Conn) (p : Pending) (io : Io) :
    Except Exn Server :=
  match s.freeSlots.pop with
  | none => .ok (s.deliverError id c.drain p
      (makeTransportError .ConnectionReset "inference pool exhausted" 0) io.clock)
  | some (idx, free) =>
    match s.slots[idx]? with
    | none => .error (.InvalidArgument "index out of bounds")
    | some slot =>
      let slot := { slot with owner := some id, startedMs := p.startedMs, retried := false,
                              req := request g.config c.pcm, reqPos := 0, resp := [],
                              attempts := [] }
      let c := c.drain.setPending (some p)
      let s := { s.handled id ⟨c, [], []⟩ with
                  freeSlots := free,
                  timers := ⟨p.startedMs + requestTimeoutMs, id, .Timeout, p.timeoutGen⟩ ::
                    s.timers }
      if slot.fd = none then
        let r := slot.connect s.nextSock io.connect
        match r.2 with
        | none => .ok (s.connectSlot idx slot io.connect)
        | some message => (s.connectSlot idx slot io.connect).slotDone g idx r.1
            (.error (makeTransportError .ConnectionReset message 0)) io.clock
      else .ok (s.setSlot idx { slot with state := .Sending }.register)

def batchOf (c : Conn) (flushLatenessMs now : Ms) : Pending where
  oldestSeq := c.batchOldestSeq
  newestSeq := c.batchNewestSeq
  oldestMs := c.batchOldestMs
  newestMs := c.batchNewestMs
  frames := c.batchFrames
  audioBytes := c.pcm.length
  flushLatenessMs := flushLatenessMs
  startedMs := now
  timeoutGen := c.timeoutGen + 1

def flushConn (s : Server) (id : ℕ) (c : Conn) (now : Ms) (io : Io) : Except Exn Server :=
  if c.closeAfterWrite then .ok s
  else
    let flushLatenessMs := max 0 (now - c.nextFlushMs)
    let c := { c with nextFlushMs := c.nextFlushMs + g.config.flushIntervalMs,
                      flushGen := c.flushGen + 1 }
    let s := { s.handled id ⟨c, [], []⟩ with
                timers := ⟨c.nextFlushMs, id, .Flush, c.flushGen⟩ :: s.timers }
    if c.pending.isSome ∨ c.batchFrames = 0 then .ok s
    else
      let p := batchOf c flushLatenessMs now
      let c := { c with timeoutGen := p.timeoutGen }
      (s.handled id ⟨c, [], []⟩).submitInference g id c p io

def timeoutConn (s : Server) (id : ℕ) (c : Conn) (now : Ms) (gen : ℕ) (io : Io) :
    Except Exn Server :=
  match c.pending with
  | none => .ok s
  | some p =>
    if p.timeoutGen ≠ gen then .ok s
    else (s.forOwned id fun s idx slot => s.freeSlot idx slot.closeFd).map fun s =>
      s.deliverError id c p
        (makeTransportError .Timeout "inference timed out" (now - p.startedMs)) io.clock

/-! ## Events -/

def isNextTimer (s : Server) (t : Timer) : Bool := t ∈ s.timers ∧ ∀ t' ∈ s.timers, t.le t'

def processTimer (s : Server) (t : Timer) (now : Ms) (io : Io) : Except Exn Server :=
  match s.conns t.token with
  | none => .ok s
  | some c =>
    if t.kind = .Flush ∧ t.gen = c.flushGen then s.flushConn g t.token c now io
    else if t.kind = .Timeout then s.timeoutConn t.token c now t.gen io
    else .ok s

def acceptLoop (s : Server) : List (Ms × Ms) → Server
  | [] => s
  | (now, jitter) :: accepts =>
    let c := Conn.new g.config now jitter
    acceptLoop { s with conns := Function.update s.conns s.nextConnId (some c),
                        nextConnId := s.nextConnId + 1,
                        timers := ⟨c.nextFlushMs, s.nextConnId, .Flush, c.flushGen⟩ :: s.timers }
      accepts

def settle (s : Server) (id : ℕ) : Option Handled → Except Exn Server
  | none => s.closeConn id
  | some r => .ok (s.handled id r)

def slotEventRest (s : Server) (idx : ℕ) (events : ℕ) (readable : Bool) (io : Io) :
    Except Exn Server :=
  match s.slots[idx]? with
  | none => .ok s
  | some slot =>
    if slot.canHandleEvent then
      if events &&& (epollerr ||| epollhup) ≠ 0 then
        s.retryOrFail g idx slot "inference socket error" io
      else if readable then .ok s
      else s.driveSlot g idx slot io
    else .ok s

def slotEvent (s : Server) (idx : ℕ) (events : ℕ) (io : Io) : Except Exn Server :=
  match s.slots[idx]? with
  | none => .ok s
  | some slot =>
    if slot.canHandleEvent then
      if slot.hasReadableResponseEvent events then
        (s.driveSlot g idx slot io).bind fun s => s.slotEventRest g idx events true io
      else s.slotEventRest g idx events false io
    else .ok s

def writeConn (s : Server) (id : ℕ) (io : Io) : Except Exn Server :=
  match s.conns id with
  | none => .ok s
  | some c => s.settle id ((c.write io.writes).map fun c => ⟨c, [], []⟩)

def connEvent (s : Server) (id : ℕ) (events : ℕ) (io : Io) : Except Exn Server :=
  match s.conns id with
  | none => .ok s
  | some c =>
    if events &&& (epollerr ||| epollhup) ≠ 0 then s.closeConn id
    else
      (if events &&& epollin ≠ 0 then
        s.settle id (c.read (startMessageOk g.decoders) io.received io.reads)
      else .ok s).bind fun s => if events &&& epollout ≠ 0 then s.writeConn id io else .ok s

def handleEvent (s : Server) (token events : ℕ) (io : Io) : Except Exn Server :=
  if token = listenerToken then .ok (s.acceptLoop g io.accepts)
  else if firstSlotToken ≤ token ∧ token < firstSlotToken + s.slots.length then
    s.slotEvent g (token - firstSlotToken) events io
  else if firstConnToken ≤ token then s.connEvent g (token - firstConnToken) events io
  else .ok s

end Server

inductive Event
  /-- A timer that is due is popped. -/
  | Timer (t : Timer) (now : Ms) (io : Io)
  /-- `epoll_wait` has reported an event. -/
  | Ready (token events : ℕ) (io : Io)

def Server.step (g : Setup) (s : Server) : Event → Option Server
  | .Timer t now io =>
    if s.isNextTimer t ∧ t.atMs ≤ now then
      ({ s with timers := s.timers.erase t }.processTimer g t now io).toOption
    else none
  | .Ready token events io => (s.handleEvent g token events io).toOption

def server (g : Setup) : TransitionSystem Server Event :=
  TransitionSystem.ofFun (Server.create g) (Server.step g)

end SttBench.OxcamlEpoll
