import SttBench.RustSync.ParseResponse

/-! # rust-sync: one slot of the inference pool -/

namespace SttBench.RustSync

open Ascii

abbrev SockId := ℕ

inductive ReadResult
  | Ok (chunk : Bytes)
  | WouldBlock
  | Interrupted
  | Err (e : String)
deriving DecidableEq, Repr

inductive WriteResult
  | Ok (n : ℕ)
  | WouldBlock
  | Interrupted
  | Err (e : String)
deriving DecidableEq, Repr

structure Io where
  now : Instant
  /-- The error `take_error` finds pending on the socket, or fails with. -/
  takeError : Option String
  /-- `peer_addr` succeeds: the connection is established. -/
  peerAddr : Bool
  writes : List WriteResult
  reads : List ReadResult
  /-- The one-byte read that probes an idle socket. -/
  probe : ReadResult
deriving DecidableEq, Repr

inductive SlotState
  | Disconnected
  | Connecting
  | Idle
  | Sending (off : ℕ)
  | Receiving
deriving DecidableEq, Repr

structure Slot where
  sock : Option SockId
  state : SlotState
  owner : Option ℕ
  tag : ℕ
  req : Bytes
  resp : Bytes
  started : Instant
  retried : Bool
  dialed : Bool
  registered : Bool
deriving DecidableEq, Repr

inductive Step
  | Pending (wantWritable : Bool)
  | Redial
  | Done (result : InferResult)
deriving DecidableEq, Repr

def unexpectedEof : String := "unexpected end of file"

def writeZero : String := "write zero"

namespace Slot

def new (now : Instant) : Slot where
  sock := none
  state := .Disconnected
  owner := none
  tag := 0
  req := []
  resp := []
  started := now
  retried := false
  dialed := false
  registered := false

def ensureRegistered (s : Slot) : Slot :=
  { s with dialed := false, registered := s.sock.isSome }

def deregister (s : Slot) : Slot := { s with registered := false }

def requestHead (config : Config) (cpuPasses n : ℕ) : Bytes :=
  bytes ("POST " ++ config.inferencePath ++ " HTTP/1.1\r\nHost: " ++ config.inferenceHost ++
    "\r\nx-cpu-passes: " ++ toString cpuPasses ++ "\r\nContent-Length: " ++ toString n ++
    "\r\nConnection: keep-alive\r\n\r\n")

def request (config : Config) (body : Bytes) (cpuPasses : ℕ) : Bytes :=
  requestHead config cpuPasses body.length ++ body

def build (s : Slot) (now : Instant) (config : Config) (body : Bytes) (cpuPasses : ℕ) : Slot :=
  { s with started := now, retried := false, resp := [], req := request config body cpuPasses }

def dial (s : Slot) (sock : SockId) : Slot :=
  { s with sock := some sock, state := .Connecting, dialed := true }

end Slot

/-! ## The two loops -/

def readLoop (resp : Bytes) : List ReadResult → Bytes × Option String
  | [] => (resp, none)
  | .Ok chunk :: rs =>
    if chunk = [] then (resp, some unexpectedEof) else readLoop (resp ++ chunk) rs
  | .WouldBlock :: _ => (resp, none)
  | .Interrupted :: rs => readLoop resp rs
  | .Err e :: _ => (resp, some e)

inductive WriteEnd
  | Sent
  | Blocked (off : ℕ)
  | Failed (e : String)
deriving DecidableEq, Repr

def writeLoop (len off : ℕ) : List WriteResult → WriteEnd
  | [] => if off < len then .Blocked off else .Sent
  | w :: ws =>
    if off < len then
      match w with
      | .Ok 0 => .Failed writeZero
      | .Ok n => writeLoop len (off + n) ws
      | .WouldBlock => .Blocked off
      | .Interrupted => writeLoop len off ws
      | .Err e => .Failed e
    else .Sent

def delivered (rs : List ReadResult) : Bytes := (readLoop [] rs).1

def broken (rs : List ReadResult) : Option String := (readLoop [] rs).2

lemma readLoop_eq (resp : Bytes) (rs : List ReadResult) :
    readLoop resp rs = (resp ++ delivered rs, broken rs) := by
  have hgen : ∀ (rs : List ReadResult) (a b : Bytes),
      readLoop (a ++ b) rs = (a ++ (readLoop b rs).1, (readLoop b rs).2) := by
    intro rs
    induction rs with
    | nil => intro a b; rfl
    | cons r rs ih =>
      intro a b
      cases r with
      | Ok chunk =>
        by_cases hc : chunk = []
        · simp [readLoop, hc]
        · simp only [readLoop, hc, if_false, List.append_assoc]
          exact ih a (b ++ chunk)
      | WouldBlock => rfl
      | Interrupted => exact ih a b
      | Err e => rfl
  simpa [delivered, broken] using hgen rs resp []

/-! ## `Slot::run` -/

def outcome (elapsed : Duration) : Except ParseErr InferResponse → InferResult
  | .ok infer => .ok infer
  | .error e => .error
      { stage := e.stage, kind := e.kind, message := e.message, status := e.status,
        retryable := kindRetryable e.kind, elapsed := elapsed }

namespace Slot

variable (fromSlice : Bytes → Except String InferResponse)

def receive (s : Slot) (io : Io) : Except Panic (Slot × Except String Step) :=
  if s.sock.isNone then .error .ExpectSock
  else
    let drained := readLoop s.resp io.reads
    let s := { s with state := .Receiving, resp := drained.1 }
    match drained.2 with
    | some e => .ok (s, .error e)
    | none =>
      match parseResponse fromSlice s.resp with
      | .error p => .error p
      | .ok (some result) =>
        .ok ({ s with state := .Idle }, .ok (.Done (outcome (io.now - s.started) result)))
      | .ok none => .ok (s, .ok (.Pending false))

def send (s : Slot) (off : ℕ) (io : Io) : Except Panic (Slot × Except String Step) :=
  if s.sock.isNone then .error .ExpectSock
  else match writeLoop s.req.length off io.writes with
    | .Failed e => .ok (s, .error e)
    | .Blocked off => .ok ({ s with state := .Sending off }, .ok (.Pending true))
    | .Sent => s.receive fromSlice io

def idle (s : Slot) (writable : Bool) (io : Io) : Except Panic (Slot × Except String Step) :=
  if writable then .ok (s, .ok (.Pending false))
  else if s.sock.isNone then .error .ExpectSock
  else if io.probe = .Ok [] then
    .ok ({ s with sock := none, state := .Disconnected }, .ok (.Pending false))
  else .ok (s, .ok (.Pending false))

def run (s : Slot) (writable : Bool) (io : Io) : Except Panic (Slot × Except String Step) :=
  match s.state with
  | .Connecting =>
    if s.sock.isNone then .error .ExpectSock
    else match io.takeError with
      | some e => .ok (s, .error e)
      | none =>
        if ¬ io.peerAddr then .ok (s, .ok (.Pending true))
        else { s with state := .Sending 0 }.send fromSlice 0 io
  | .Sending off => s.send fromSlice off io
  | .Receiving => s.receive fromSlice io
  | .Idle => s.idle writable io
  | .Disconnected => .ok (s, .ok (.Pending false))

def retryOrFail (s : Slot) (now : Instant) (e : String) : Slot × Step :=
  if ¬ s.retried ∧ s.sock.isSome then
    ({ s with retried := true, resp := [], state := .Sending 0, sock := none }, .Redial)
  else
    ({ s with sock := none, state := .Disconnected },
      .Done (.error (transportError .ConnectionReset e (now - s.started))))

def settle (now : Instant) : Slot × Except String Step → Slot × Step
  | (s, .ok step) => (s, step)
  | (s, .error e) => s.retryOrFail now e

def drive (s : Slot) (writable : Bool) (io : Io) : Except Panic (Slot × Step) :=
  (s.run fromSlice writable io).map (settle io.now)

/-! ## Everything `drive` can do -/

def Active (s : Slot) : Prop := s.state ≠ .Idle ∧ s.state ≠ .Disconnected

def Parked (s : Slot) : Prop := ¬ s.Active ∨ s.sock = none

def requestOut (s : Slot) (io : Io) : Bool :=
  match s.state with
  | .Connecting => io.takeError.isNone && io.peerAddr && writeLoop s.req.length 0 io.writes = .Sent
  | .Sending off => writeLoop s.req.length off io.writes = .Sent
  | .Receiving => true
  | .Idle => false
  | .Disconnected => false

inductive Driven (s : Slot) (io : Io) : Slot → Step → Prop
  /-- The connection is not established yet, or the request is not out yet. -/
  | sending (hs : s.Active) (hsock : s.sock.isSome) (state : SlotState)
      (hstate : state = .Connecting ∨ ∃ off, state = .Sending off) :
      Driven s io { s with state := state } (.Pending true)
  /-- The response is not complete yet. -/
  | receiving (hs : s.Active) (hsock : s.sock.isSome) (hout : s.requestOut io)
      (hread : broken io.reads = none)
      (hparse : parseResponse fromSlice (s.resp ++ delivered io.reads) = .ok none) :
      Driven s io { s with state := .Receiving, resp := s.resp ++ delivered io.reads }
        (.Pending false)
  /-- The response is complete; the socket is kept. -/
  | answered (hs : s.Active) (hsock : s.sock.isSome) (hout : s.requestOut io)
      (hread : broken io.reads = none)
      (result : Except ParseErr InferResponse)
      (hparse : parseResponse fromSlice (s.resp ++ delivered io.reads) = .ok (some result)) :
      Driven s io { s with state := .Idle, resp := s.resp ++ delivered io.reads }
        (.Done (outcome (io.now - s.started) result))
  /-- The socket failed for the first time. -/
  | redial (hs : s.Active) (hsock : s.sock.isSome) (hretried : s.retried = false) :
      Driven s io { s with retried := true, resp := [], state := .Sending 0, sock := none } .Redial
  /-- The socket failed once more. -/
  | failed (hs : s.Active) (hsock : s.sock.isSome) (hretried : s.retried = true) (resp : Bytes)
      (e : String) :
      Driven s io { s with sock := none, state := .Disconnected, resp := resp }
        (.Done (.error (transportError .ConnectionReset e (io.now - s.started))))
  /-- No request is under way, and nothing is noticed. -/
  | quiet (hs : ¬ s.Active) : Driven s io s (.Pending false)
  /-- No request is under way, and the server has closed the socket. -/
  | closed (hs : s.state = .Idle) (hprobe : io.probe = .Ok []) :
      Driven s io { s with sock := none, state := .Disconnected } (.Pending false)

section Cases

variable {fromSlice} {s s' : Slot} {io : Io} {writable : Bool} {step : Step}

lemma driven_retryOrFail {e : String} (hs : s.Active) (hsock : s.sock.isSome) (state : SlotState)
    (resp : Bytes)
    (h : { s with state := state, resp := resp }.retryOrFail io.now e = (s', step)) :
    Driven fromSlice s io s' step := by
  cases hr : s.retried with
  | false =>
    simp only [retryOrFail, hr, hsock, Bool.false_eq_true, not_false_eq_true, and_self, if_true,
      Prod.mk.injEq] at h
    obtain ⟨rfl, rfl⟩ := h
    exact Driven.redial hs hsock hr
  | true =>
    simp only [retryOrFail, hr, not_true_eq_false, false_and, if_false, Prod.mk.injEq] at h
    obtain ⟨rfl, rfl⟩ := h
    exact hr ▸ Driven.failed hs hsock hr resp e

lemma driven_receive (hs : s.Active) (hout : s.requestOut io) (state : SlotState)
    (h : ({ s with state := state }.receive fromSlice io).map (settle io.now) = .ok (s', step)) :
    Driven fromSlice s io s' step := by
  unfold receive at h
  by_cases hsock : s.sock.isNone
  · simp [hsock, Except.map] at h
  simp only [hsock, Bool.false_eq_true, if_false, readLoop_eq] at h
  have hsock : s.sock.isSome := Option.isSome_iff_ne_none.mpr fun hn => by simp [hn] at hsock
  cases hread : broken io.reads with
  | some e =>
    simp only [hread, Except.map, settle, Except.ok.injEq] at h
    exact driven_retryOrFail hs hsock _ _ h
  | none =>
    simp only [hread] at h
    cases hparse : parseResponse fromSlice (s.resp ++ delivered io.reads) with
    | error p => simp [hparse, Except.map] at h
    | ok o =>
      cases o with
      | none =>
        simp only [hparse, Except.map, settle, Except.ok.injEq, Prod.mk.injEq] at h
        obtain ⟨rfl, rfl⟩ := h
        exact Driven.receiving hs hsock hout hread hparse
      | some result =>
        simp only [hparse, Except.map, settle, Except.ok.injEq, Prod.mk.injEq] at h
        obtain ⟨rfl, rfl⟩ := h
        exact Driven.answered hs hsock hout hread result hparse

lemma driven_send (hs : s.Active) (state : SlotState) (off : ℕ)
    (hout : writeLoop s.req.length off io.writes = .Sent → s.requestOut io)
    (h : ({ s with state := state }.send fromSlice off io).map (settle io.now) = .ok (s', step)) :
    Driven fromSlice s io s' step := by
  unfold send at h
  by_cases hsock : s.sock.isNone
  · simp [hsock, Except.map] at h
  simp only [hsock, Bool.false_eq_true, if_false] at h
  have hsock : s.sock.isSome := Option.isSome_iff_ne_none.mpr fun hn => by simp [hn] at hsock
  cases hw : writeLoop s.req.length off io.writes with
  | Failed e =>
    simp only [hw, Except.map, settle, Except.ok.injEq] at h
    exact driven_retryOrFail hs hsock _ _ h
  | Blocked off =>
    simp only [hw, Except.map, settle, Except.ok.injEq, Prod.mk.injEq] at h
    obtain ⟨rfl, rfl⟩ := h
    exact Driven.sending hs hsock _ (Or.inr ⟨off, rfl⟩)
  | Sent =>
    simp only [hw] at h
    exact driven_receive hs (hout hw) state h

theorem drive_cases (h : s.drive fromSlice writable io = .ok (s', step)) :
    Driven fromSlice s io s' step := by
  unfold drive run at h
  cases hst : s.state with
  | Disconnected =>
    simp only [hst, Except.map, settle, Except.ok.injEq, Prod.mk.injEq] at h
    obtain ⟨rfl, rfl⟩ := h
    exact Driven.quiet fun ha => ha.2 hst
  | Idle =>
    simp only [hst, idle] at h
    have hquiet : Driven fromSlice s io s (.Pending false) := Driven.quiet fun ha => ha.1 hst
    split_ifs at h with hw hsock hprobe <;> simp only [Except.map, settle, Except.ok.injEq,
      Prod.mk.injEq, reduceCtorEq] at h
    · obtain ⟨rfl, rfl⟩ := h
      exact hquiet
    · obtain ⟨rfl, rfl⟩ := h
      exact Driven.closed hst hprobe
    · obtain ⟨rfl, rfl⟩ := h
      exact hquiet
  | Receiving =>
    have hs : s.Active := by simp [Active, hst]
    simp only [hst] at h
    exact driven_receive hs (by simp [requestOut, hst]) .Receiving (hst ▸ h)
  | Sending off =>
    have hs : s.Active := by simp [Active, hst]
    simp only [hst] at h
    exact driven_send hs (.Sending off) off (fun hw => by simp [requestOut, hst, hw]) (hst ▸ h)
  | Connecting =>
    have hs : s.Active := by simp [Active, hst]
    simp only [hst] at h
    by_cases hsock : s.sock.isNone
    · simp [hsock, Except.map] at h
    simp only [hsock, Bool.false_eq_true, if_false] at h
    cases he : io.takeError with
    | some e =>
      have hsock : s.sock.isSome := Option.isSome_iff_ne_none.mpr fun hn => by simp [hn] at hsock
      simp only [he, Except.map, settle, Except.ok.injEq] at h
      exact driven_retryOrFail hs hsock s.state s.resp h
    | none =>
      simp only [he] at h
      split_ifs at h with hpeer
      · exact driven_send hs (.Sending 0) 0 (fun hw => by simp [requestOut, hst, he, hpeer, hw]) h
      · have hsock : s.sock.isSome :=
          Option.isSome_iff_ne_none.mpr fun hn => by simp [hn] at hsock
        simp only [Except.map, settle, Except.ok.injEq, Prod.mk.injEq] at h
        obtain ⟨rfl, rfl⟩ := h
        exact Driven.sending hs hsock s.state (Or.inl hst)

lemma drive_of_requestOut {sock : SockId} (hsock : s.sock = some sock) (h : s.requestOut io) :
    s.drive fromSlice writable io = (s.receive fromSlice io).map (settle io.now) := by
  have hsend : ∀ (state : SlotState) (off : ℕ), writeLoop s.req.length off io.writes = .Sent →
      { s with state := state }.send fromSlice off io = s.receive fromSlice io := by
    intro state off hw
    simp [send, hsock, hw, receive]
  unfold drive run
  unfold requestOut at h
  cases hst : s.state with
  | Connecting =>
    simp only [hst, Bool.and_eq_true, Option.isNone_iff_eq_none, decide_eq_true_eq] at h
    obtain ⟨⟨herr, hpeer⟩, hw⟩ := h
    have hn : ¬ s.sock.isNone := by simp [hsock]
    simp [hn, herr, hpeer, hsend (.Sending 0) 0 hw]
  | Sending off =>
    simp only [hst, decide_eq_true_eq] at h
    have hs := hsend s.state off h
    simp only
    rw [← hs]
  | Receiving => rfl
  | Idle | Disconnected => simp [hst] at h

lemma Driven.frame (h : Driven fromSlice s io s' step) :
    s'.owner = s.owner ∧ s'.tag = s.tag ∧ s'.req = s.req := by
  cases h <;> exact ⟨rfl, rfl, rfl⟩

lemma Driven.of_parked (h : Driven fromSlice s io s' step) (hs : s.Parked) :
    step = .Pending false ∧ s'.Parked := by
  have hbusy : s.Active → s.sock.isSome → False := fun ha hsock => by
    rcases hs with hs | hs
    · exact hs ha
    · simp [hs] at hsock
  cases h with
  | sending ha hsock | receiving ha hsock | answered ha hsock | redial ha hsock
  | failed ha hsock => exact (hbusy ha hsock).elim
  | quiet => exact ⟨rfl, hs⟩
  | closed => exact ⟨rfl, Or.inr rfl⟩

lemma Driven.parked_of_done {result : InferResult} (h : Driven fromSlice s io s' (.Done result)) :
    s'.Parked := by
  cases h with
  | answered => exact Or.inl fun ha => ha.1 rfl
  | failed => exact Or.inr rfl

lemma Driven.parked_of_redial (h : Driven fromSlice s io s' .Redial) : s'.Parked := by
  cases h
  exact Or.inr rfl

end Cases

end Slot

end SttBench.RustSync
