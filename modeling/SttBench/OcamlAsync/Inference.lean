import SttBench.Core.TransitionSystem
import SttBench.OcamlAsync.Response

/-!
# ocaml-oxcaml, ocaml-websocket-async: the session's inference connection

`do_request` and `send` as coroutines: a step runs to the next bind.
-/

namespace SttBench.OcamlAsync

open Ascii

abbrev SockId := ℕ

structure Sock where
  /-- `Writer.close` has not been called. -/
  isOpen : Bool
  /-- What the server is still going to send. -/
  unread : Bytes
  /-- The epoch of the request that published the socket. -/
  published : Option ℕ
  /-- The exchanges begun on the socket; for those that finished, the bytes they read. -/
  exchanges : List (Option Bytes)

inductive Attempt
  | First
  | Second
deriving DecidableEq, Repr

inductive Pc (R : Type)
  /-- Before `acquire`. -/
  | Created
  /-- In `dial`. -/
  | Dialing (attempt : Attempt)
  /-- Before `exchange`. -/
  | Acquired (sock : SockId) (attempt : Attempt)
  /-- In `exchange`: the request is written. -/
  | Waiting (sock : SockId) (attempt : Attempt)
  /-- Behind `exchange`. -/
  | Ended (outcome : Exchanged R) (attempt : Attempt)
  /-- In the `close_conn` of `redial`. -/
  | ClosingStale
  /-- In the `close_conn` behind the second exchange. -/
  | ClosingFailed
  /-- In the `close_rw` of `publish_or_abandon`. -/
  | ClosingOwn
  | Returned (result : Except Error R)
  | Raised

def Pc.held {R : Type} : Pc R → Option SockId
  | .Acquired k _ => some k
  | .Waiting k _ => some k
  | _ => none

def Pc.unanswered {R : Type} : Pc R → Bool
  | .Waiting _ _ => true
  | .Ended (.Done _) _ => false
  | .Ended _ _ => true
  | .Raised => true
  | _ => false

def Pc.dials {R : Type} : Pc R → Bool
  | .Dialing _ => true
  | .ClosingStale => true
  | _ => false

structure Req (R : Type) where
  epoch : ℕ
  pc : Pc R

inductive Resume
  /-- It is scheduled. -/
  | Go
  /-- `Tcp.connect` returns a socket, on which the server is going to send these bytes. -/
  | Connected (stream : Bytes)
  /-- The response has come, or the end of the stream. -/
  | Responded
  /-- The request cannot be written, or the socket is closed. -/
  | Broken
  /-- Something raises. -/
  | Raises

inductive Act
  | Store
  | Close (sock : SockId)
  | Write (sock : SockId)
deriving DecidableEq, Repr

def abandonedError : Error := connectionReset (bytes "inference connection abandoned")

def failedError : Error := connectionReset (bytes "inference connection failed after redial")

structure Shared where
  rw : Option SockId
  epoch : ℕ
  socks : SockId → Sock
  nextSock : SockId

namespace Shared

variable {R : Type} (decode : Bytes → Except Bytes R)

def setSock (sh : Shared) (k : SockId) (sock : Sock) : Shared :=
  { sh with socks := Function.update sh.socks k sock }

def closeSock (sh : Shared) (k : SockId) : Shared :=
  sh.setSock k { sh.socks k with isOpen := false }

def closeConn (sh : Shared) : Shared :=
  match sh.rw with
  | none => sh
  | some k => { sh.closeSock k with rw := none }

def closeConnActs (sh : Shared) : List Act :=
  match sh.rw with
  | none => []
  | some k => [.Store, .Close k]

def dialed (sh : Shared) (stream : Bytes) (isOpen : Bool) (published : Option ℕ) : Shared :=
  { sh.setSock sh.nextSock ⟨isOpen, stream, published, []⟩ with nextSock := sh.nextSock + 1 }

def written (sh : Shared) (k : SockId) : Shared :=
  sh.setSock k { sh.socks k with exchanges := (sh.socks k).exchanges ++ [none] }

def finished (sh : Shared) (k : SockId) (rest : Bytes) : Shared :=
  let sock := sh.socks k
  let taken := sock.unread.take (sock.unread.length - rest.length)
  sh.setSock k { sock with unread := rest, exchanges := sock.exchanges.dropLast ++ [some taken] }

def advance (sh : Shared) (r : Req R) : Resume → Option (Shared × Req R × List Act)
  | .Go =>
    match r.pc with
    | .Created =>
      match sh.rw with
      | some k => some (sh, { r with pc := .Acquired k .First }, [])
      | none => some (sh, { r with pc := .Dialing .First }, [])
    | .Acquired k attempt =>
      -- `Writer.write` raises on a closed writer
      if (sh.socks k).isOpen then
        some (sh.written k, { r with pc := .Waiting k attempt }, [.Write k])
      else some (sh, { r with pc := .Ended .Retry attempt }, [])
    | .Ended (.Done result) _ => some (sh, { r with pc := .Returned result }, [])
    | .Ended .Raise _ => some (sh, { r with pc := .Raised }, [])
    | .Ended .Retry .First =>
      if sh.epoch = r.epoch then
        some (sh.closeConn, { r with pc := .ClosingStale }, sh.closeConnActs)
      else some (sh, { r with pc := .Returned (.error abandonedError) }, [])
    | .Ended .Retry .Second =>
      if sh.epoch = r.epoch then
        some (sh.closeConn, { r with pc := .ClosingFailed }, sh.closeConnActs)
      else some (sh, { r with pc := .ClosingFailed }, [])
    | .ClosingStale => some (sh, { r with pc := .Dialing .Second }, [])
    | .ClosingFailed => some (sh, { r with pc := .Returned (.error failedError) }, [])
    | .ClosingOwn => some (sh, { r with pc := .Returned (.error abandonedError) }, [])
    | _ => none
  | .Connected stream =>
    match r.pc with
    | .Dialing attempt =>
      -- `publish_or_abandon`
      if sh.epoch = r.epoch then
        some ({ sh.dialed stream true (some r.epoch) with rw := some sh.nextSock },
          { r with pc := .Acquired sh.nextSock attempt }, [.Store])
      else some (sh.dialed stream false none, { r with pc := .ClosingOwn }, [.Close sh.nextSock])
    | _ => none
  | .Responded =>
    match r.pc with
    | .Waiting k attempt =>
      match readResponse decode (sh.socks k).unread with
      | (.Done result, rest) =>
        some (sh.finished k rest, { r with pc := .Ended (.Done result) attempt }, [])
      | (outcome, _) => some (sh, { r with pc := .Ended outcome attempt }, [])
    | _ => none
  | .Broken =>
    match r.pc with
    | .Waiting _ attempt => some (sh, { r with pc := .Ended .Retry attempt }, [])
    | _ => none
  | .Raises =>
    match r.pc with
    | .Dialing _ => some (sh, { r with pc := .Raised }, [])
    | .Waiting _ _ => some (sh, { r with pc := .Raised }, [])
    | _ => none

/-! ### What a step of a coroutine can do -/

inductive Effect (sh : Shared) (r : Req R) (e : Resume) : Shared → Pc R → List Act → Prop
  | acquired {k : SockId} (hpc : r.pc = .Created) (hk : sh.rw = some k) :
      Effect sh r e sh (.Acquired k .First) []
  | moved {pc : Pc R} (hheld : pc.held = none)
      (hanswer : pc.unanswered = true ∨ r.pc.unanswered = false ∨ sh.epoch ≠ r.epoch)
      (hdials : pc.dials = true → sh.rw = none ∨ r.pc.dials = true) :
      Effect sh r e sh pc []
  | wrote {k : SockId} {attempt : Attempt} (hpc : r.pc = .Acquired k attempt)
      (hopen : (sh.socks k).isOpen = true) :
      Effect sh r e (sh.written k) (.Waiting k attempt) [.Write k]
  | read {k : SockId} {attempt : Attempt} {result : Except Error R} {rest : Bytes}
      (hresponded : e = .Responded) (hpc : r.pc = .Waiting k attempt)
      (hread : readResponse decode (sh.socks k).unread = (.Done result, rest)) :
      Effect sh r e (sh.finished k rest) (.Ended (.Done result) attempt) []
  | closed {pc : Pc R} (hheld : pc.held = none) (hcurrent : sh.epoch = r.epoch) :
      Effect sh r e sh.closeConn pc sh.closeConnActs
  | published {attempt : Attempt} (stream : Bytes) (hpc : r.pc = .Dialing attempt)
      (hcurrent : sh.epoch = r.epoch) :
      Effect sh r e { sh.dialed stream true (some r.epoch) with rw := some sh.nextSock }
        (.Acquired sh.nextSock attempt) [.Store]
  | dropped {attempt : Attempt} (stream : Bytes) (hpc : r.pc = .Dialing attempt)
      (hstale : sh.epoch ≠ r.epoch) :
      Effect sh r e (sh.dialed stream false none) .ClosingOwn [.Close sh.nextSock]

variable {decode}
variable {acts : List Act} {sh sh' : Shared}

lemma advance_go {r r' : Req R} (h : sh.advance decode r .Go = some (sh', r', acts)) :
    r'.epoch = r.epoch ∧ r'.pc ≠ .Created ∧ Effect decode sh r .Go sh' r'.pc acts := by
  obtain ⟨epoch, pc⟩ := r
  cases pc with
  | Created =>
    cases hrw : sh.rw with
    | none =>
      simp only [advance, hrw, Option.some.injEq, Prod.mk.injEq] at h
      obtain ⟨rfl, rfl, rfl⟩ := h
      exact ⟨rfl, by simp, .moved rfl (.inr (.inl rfl)) fun _ => .inl hrw⟩
    | some k =>
      simp only [advance, hrw, Option.some.injEq, Prod.mk.injEq] at h
      obtain ⟨rfl, rfl, rfl⟩ := h
      exact ⟨rfl, by simp, .acquired rfl hrw⟩
  | Acquired k attempt =>
    simp only [advance] at h
    split_ifs at h with hopen <;> simp only [Option.some.injEq, Prod.mk.injEq] at h <;>
      obtain ⟨rfl, rfl, rfl⟩ := h
    · exact ⟨rfl, by simp, .wrote rfl hopen⟩
    · exact ⟨rfl, by simp, .moved rfl (.inl rfl) nofun⟩
  | Ended outcome attempt =>
    cases outcome with
    | Done result =>
      simp only [advance, Option.some.injEq, Prod.mk.injEq] at h
      obtain ⟨rfl, rfl, rfl⟩ := h
      exact ⟨rfl, by simp, .moved rfl (.inr (.inl rfl)) nofun⟩
    | Raise =>
      simp only [advance, Option.some.injEq, Prod.mk.injEq] at h
      obtain ⟨rfl, rfl, rfl⟩ := h
      exact ⟨rfl, by simp, .moved rfl (.inl rfl) nofun⟩
    | Retry =>
      cases attempt <;> simp only [advance] at h <;> split_ifs at h with hcurrent <;>
        simp only [Option.some.injEq, Prod.mk.injEq] at h <;> obtain ⟨rfl, rfl, rfl⟩ := h
      · exact ⟨rfl, by simp, .closed rfl hcurrent⟩
      · exact ⟨rfl, by simp, .moved rfl (.inr (.inr hcurrent)) nofun⟩
      · exact ⟨rfl, by simp, .closed rfl hcurrent⟩
      · exact ⟨rfl, by simp, .moved rfl (.inr (.inr hcurrent)) nofun⟩
  | ClosingStale | ClosingFailed | ClosingOwn =>
    simp only [advance, Option.some.injEq, Prod.mk.injEq] at h
    obtain ⟨rfl, rfl, rfl⟩ := h
    exact ⟨rfl, by simp, .moved rfl (.inr (.inl rfl)) (by simp [Pc.dials])⟩
  | Dialing _ | Waiting _ _ | Returned _ | Raised => simp [advance] at h

lemma advance_responded {r r' : Req R} (h : sh.advance decode r .Responded = some (sh', r', acts)) :
    r'.epoch = r.epoch ∧ r'.pc ≠ .Created ∧ Effect decode sh r .Responded sh' r'.pc acts := by
  obtain ⟨epoch, pc⟩ := r
  cases pc with
  | Waiting k attempt =>
    simp only [advance] at h
    split at h <;> simp only [Option.some.injEq, Prod.mk.injEq] at h <;>
      obtain ⟨rfl, rfl, rfl⟩ := h
    case h_1 hread => exact ⟨rfl, by simp, .read rfl rfl hread⟩
    case h_2 outcome _ hnot hread =>
      cases outcome with
      | Done result => exact (hnot result rfl).elim
      | Retry | Raise => exact ⟨rfl, by simp, .moved rfl (.inl rfl) nofun⟩
  | _ => simp [advance] at h

theorem advance_effect {r r' : Req R} {e : Resume}
    (h : sh.advance decode r e = some (sh', r', acts)) :
    r'.epoch = r.epoch ∧ r'.pc ≠ .Created ∧ Effect decode sh r e sh' r'.pc acts := by
  cases e with
  | Go => exact advance_go h
  | Responded => exact advance_responded h
  | Connected stream =>
    obtain ⟨epoch, pc⟩ := r
    cases pc with
    | Dialing attempt =>
      simp only [advance] at h
      split_ifs at h with hcurrent <;> simp only [Option.some.injEq, Prod.mk.injEq] at h <;>
        obtain ⟨rfl, rfl, rfl⟩ := h
      · exact ⟨rfl, by simp, .published stream rfl hcurrent⟩
      · exact ⟨rfl, by simp, .dropped stream rfl hcurrent⟩
    | _ => simp [advance] at h
  | Broken | Raises =>
    obtain ⟨epoch, pc⟩ := r
    cases pc <;> simp only [advance, Option.some.injEq, Prod.mk.injEq, reduceCtorEq] at h <;>
      obtain ⟨rfl, rfl, rfl⟩ := h <;> exact ⟨rfl, by simp, .moved rfl (.inl rfl) nofun⟩

end Shared

inductive Send (R : Type)
  | Idle
  | Running (r : Req R)
  /-- In the `close_conn` of `abandon`. -/
  | Abandoning
  /-- The flush loop has seen the session closed; there are no more sends. -/
  | Closed

structure Deed where
  orphan : Bool
  epoch : ℕ
  act : Act
deriving DecidableEq, Repr

structure Session (R : Type) where
  shared : Shared
  send : Send R
  orphans : List (Req R)
  deeds : List Deed

inductive Event
  | Send
  /-- The request of the running send is resumed. -/
  | Request (e : Resume)
  /-- The running send returns the result of its request. -/
  | Return
  /-- The running send times out, or its monitor sees an exception. -/
  | Abandon
  /-- The abandoned send returns. -/
  | Abandoned
  /-- The flush loop ends. -/
  | Close
  /-- The request of an earlier, abandoned send is resumed. -/
  | Orphan (i : ℕ) (e : Resume)

namespace Session

variable {R : Type} (decode : Bytes → Except Bytes R)

def create : Session R where
  shared := ⟨none, 0, fun _ => ⟨false, [], none, []⟩, 0⟩
  send := .Idle
  orphans := []
  deeds := []

def step (s : Session R) : Event → Option (Session R)
  | .Send =>
    match s.send with
    | .Idle => some { s with send := .Running ⟨s.shared.epoch, .Created⟩ }
    | _ => none
  | .Request e =>
    match s.send with
    | .Running r => (s.shared.advance decode r e).map fun (sh, r', acts) =>
      { s with shared := sh, send := .Running r',
               deeds := s.deeds ++ acts.map (⟨false, r.epoch, ·⟩) }
    | _ => none
  | .Return =>
    match s.send with
    | .Running ⟨_, .Returned _⟩ => some { s with send := .Idle }
    | _ => none
  | .Abandon =>
    match s.send with
    | .Running ⟨_, .Created⟩ => none
    | .Running r =>
      some { s with shared := { s.shared with epoch := s.shared.epoch + 1 }.closeConn,
                    send := .Abandoning, orphans := s.orphans ++ [r] }
    | _ => none
  | .Abandoned =>
    match s.send with
    | .Abandoning => some { s with send := .Idle }
    | _ => none
  | .Close =>
    match s.send with
    | .Idle => some { s with shared := s.shared.closeConn, send := .Closed }
    | _ => none
  | .Orphan i e =>
    match s.orphans[i]? with
    | none => none
    | some r => (s.shared.advance decode r e).map fun (sh, r', acts) =>
      { s with shared := sh, orphans := s.orphans.set i r',
               deeds := s.deeds ++ acts.map (⟨true, r.epoch, ·⟩) }

end Session

def session {R : Type} (decode : Bytes → Except Bytes R) : TransitionSystem (Session R) Event :=
  TransitionSystem.ofFun Session.create (Session.step decode)

end SttBench.OcamlAsync
