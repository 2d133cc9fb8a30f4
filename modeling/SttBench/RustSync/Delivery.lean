import SttBench.RustSync.Pool
import SttBench.RustSync.Session
import SttBench.Wire.Messages

/-!
# rust-sync: is a completed answer delivered?

An answer arrives in any number of readiness events, cut up in any way.
-/

namespace SttBench.RustSync

open Ascii Http1 List
open Wire (silenceAnswer lengthDelimited_silenceAnswer)

inductive Served
  | Waiting (p : Pool)
  | Resent (p : Pool)
  | Finished (p : Pool) (done : Option Done)
deriving DecidableEq, Repr

def serve (fromSlice : Bytes → Except String InferResponse) (idx : ℕ) :
    Pool → List Wake → Except Panic Served
  | p, [] => .ok (.Waiting p)
  | p, w :: ws =>
    match p.slots[idx]? with
    | none => .error .SlotIndex
    | some slot => do
        let (_, step) ← slot.drive fromSlice w.writable w.io
        let (p, done) ← p.onEvent fromSlice idx w.writable w.io w.connect
        match step with
        | .Pending _ => serve fromSlice idx p ws
        | .Redial => .ok (.Resent p)
        | .Done _ => .ok (.Finished p done)

def received : List Wake → Bytes
  | [] => []
  | w :: ws => delivered w.io.reads ++ if (broken w.io.reads).isSome then [] else received ws

def receivedOpen : List Wake → Bytes
  | [] => []
  | w :: ws => if (broken w.io.reads).isSome then [] else delivered w.io.reads ++ receivedOpen ws

section

variable (fromSlice : Bytes → Except String InferResponse) {p : Pool} {idx o : ℕ} {s : Slot}
  {sock : SockId} {w : Wake}

def Slot.drained (s : Slot) (w : Wake) : Slot :=
  { s with state := .Receiving, resp := s.resp ++ delivered w.io.reads, dialed := false,
           registered := true }

lemma serve_cons_pending (hs : p.slots[idx]? = some s) (hsock : s.sock = some sock)
    (hout : s.requestOut w.io) (hread : broken w.io.reads = none)
    (hparse : parseResponse fromSlice (s.resp ++ delivered w.io.reads) = .ok none)
    (ws : List Wake) :
    serve fromSlice idx p (w :: ws) =
      serve fromSlice idx { p with slots := p.slots.set idx (s.drained w) } ws := by
  have hdrive : s.drive fromSlice w.writable w.io =
      .ok ({ s with state := .Receiving, resp := s.resp ++ delivered w.io.reads },
        .Pending false) := by
    rw [Slot.drive_of_requestOut hsock hout, Slot.receive, readLoop_eq]
    simp [hsock, hread, hparse, Except.map, Slot.settle]
  simp [serve, hs, hdrive, Pool.onEvent, Except.map, Bind.bind, Except.bind, Slot.drained,
    Slot.ensureRegistered, hsock]

lemma drive_of_complete (hsock : s.sock = some sock) (hout : s.requestOut w.io)
    (hread : broken w.io.reads = none) {result : Except ParseErr InferResponse}
    (hparse : parseResponse fromSlice (s.resp ++ delivered w.io.reads) = .ok (some result)) :
    s.drive fromSlice w.writable w.io =
      .ok ({ s with state := .Idle, resp := s.resp ++ delivered w.io.reads },
        .Done (outcome (w.io.now - s.started) result)) := by
  rw [Slot.drive_of_requestOut hsock hout, Slot.receive, readLoop_eq]
  simp [hsock, hread, hparse, Except.map, Slot.settle]

lemma serve_cons_complete (hs : p.slots[idx]? = some s) (hsock : s.sock = some sock)
    (ho : s.owner = some o) (hout : s.requestOut w.io) (hread : broken w.io.reads = none)
    {result : Except ParseErr InferResponse}
    (hparse : parseResponse fromSlice (s.resp ++ delivered w.io.reads) = .ok (some result))
    (ws : List Wake) :
    ∃ p', serve fromSlice idx p (w :: ws) =
      .ok (.Finished p' (some ⟨o, s.tag, outcome (w.io.now - s.started) result⟩)) := by
  have hdrive := drive_of_complete fromSlice hsock hout hread hparse
  simp [serve, hs, hdrive, Pool.onEvent, Except.map, Bind.bind, Except.bind, Pool.finish, ho]

lemma serve_cons_broken (hs : p.slots[idx]? = some s) (hsock : s.sock = some sock)
    (ho : s.owner = some o) (hout : s.requestOut w.io) {e : String}
    (hread : broken w.io.reads = some e) (ws : List Wake) :
    (∃ p', serve fromSlice idx p (w :: ws) = .ok (.Resent p')) ∨
      ∃ p', serve fromSlice idx p (w :: ws) = .ok (.Finished p' (some ⟨o, s.tag,
        .error (transportError .ConnectionReset e (w.io.now - s.started))⟩)) := by
  have hdrive : s.drive fromSlice w.writable w.io =
      .ok ({ s with state := .Receiving, resp := s.resp ++ delivered w.io.reads }.retryOrFail
        w.io.now e) := by
    rw [Slot.drive_of_requestOut hsock hout, Slot.receive, readLoop_eq]
    simp [hsock, hread, Except.map, Slot.settle]
  cases hr : s.retried with
  | false =>
    left
    simp [serve, hs, hdrive, Slot.retryOrFail, hr, hsock, Pool.onEvent, Except.map, Bind.bind,
      Except.bind]
  | true =>
    right
    simp [serve, hs, hdrive, Slot.retryOrFail, hr, Pool.onEvent, Except.map, Bind.bind,
      Except.bind, Pool.finish, ho]

lemma outcome_ne_transportError {elapsed elapsed' : Duration} {status : ℕ} {body : Bytes}
    {kind : ErrorKind} {e : String} :
    outcome elapsed (interpret fromSlice status body) ≠
      .error (transportError kind e elapsed') := by
  by_cases hstatus : 200 ≤ status ∧ status < 300
  · cases hbody : fromSlice body <;> simp [interpret, hstatus, hbody, outcome, transportError]
  · simp [interpret, hstatus, outcome, transportError]

lemma parseResponse_stretch {r : Response} (hr : LengthDelimited r)
    (hlen : r.wire.length < usizeBound) {acc rest : Bytes} (hall : r.wire <+: acc ++ rest) :
    parseResponse fromSlice acc =
      if RustStr.isUtf8 r.head ∧ r.wire.length ≤ acc.length then
        .ok (some (interpret fromSlice r.status r.body))
      else .ok none := by
  by_cases hle : r.wire.length ≤ acc.length
  · obtain ⟨ext, rfl⟩ := prefix_of_prefix_length_le hall (prefix_append acc rest) hle
    cases hutf : RustStr.isUtf8 r.head with
    | true => simp [parseResponse_wire fromSlice hr hutf hlen]
    | false => simp [parseResponse_of_not_utf8 fromSlice hutf]
  · have hacc : acc <+: r.wire :=
      prefix_of_prefix_length_le (prefix_append acc rest) hall (not_le.mp hle).le
    rw [if_neg fun h => hle h.2, prefix_iff_eq_take.mp hacc]
    exact parseResponse_take fromSlice hr hlen (not_le.mp hle)

lemma serve_finishes_iff_aux {r : Response} (hr : LengthDelimited r)
    (hlen : r.wire.length < usizeBound) : ∀ (ws : List Wake) {p : Pool} {s : Slot},
    p.slots[idx]? = some s → s.sock = some sock → s.owner = some o →
    (∀ w ∈ ws.head?, s.requestOut w.io) → r.wire <+: s.resp ++ received ws →
    (RustStr.isUtf8 r.head → s.resp.length < r.wire.length) →
    ((∃ p' elapsed, serve fromSlice idx p ws = .ok (.Finished p' (some ⟨o, s.tag,
        outcome elapsed (interpret fromSlice r.status r.body)⟩))) ↔
      RustStr.isUtf8 r.head ∧ r.wire <+: s.resp ++ receivedOpen ws)
  | [], p, s, hs, hsock, ho, hout, hall, hshort => by
    simp only [serve, receivedOpen, append_nil, Except.ok.injEq, reduceCtorEq, exists_false,
      false_iff, not_and]
    intro hutf hpre
    have := hpre.length_le
    have := hshort hutf
    omega
  | w :: ws, p, s, hs, hsock, ho, hout, hall, hshort => by
    have hout : s.requestOut w.io := hout w rfl
    cases hread : broken w.io.reads with
    | some e =>
      -- the event sees the close: nothing it has read counts
      have hopen : receivedOpen (w :: ws) = [] := by simp [receivedOpen, hread]
      have hright :
          ¬ (RustStr.isUtf8 r.head ∧ r.wire <+: s.resp ++ receivedOpen (w :: ws)) := by
        rintro ⟨hutf, hpre⟩
        rw [hopen, append_nil] at hpre
        have := hpre.length_le
        have := hshort hutf
        omega
      simp only [hright, iff_false]
      rintro ⟨p', elapsed, hfin⟩
      rcases serve_cons_broken fromSlice hs hsock ho hout hread ws with
        ⟨p'', h⟩ | ⟨p'', h⟩
      · simp [h] at hfin
      · simp only [h, Except.ok.injEq, Served.Finished.injEq, Option.some.injEq, Done.mk.injEq,
          true_and] at hfin
        exact outcome_ne_transportError fromSlice hfin.2.symm
    | none =>
      have hrec : received (w :: ws) = delivered w.io.reads ++ received ws := by
        simp [received, hread]
      have hopen : receivedOpen (w :: ws) = delivered w.io.reads ++ receivedOpen ws := by
        simp [receivedOpen, hread]
      rw [hrec, ← append_assoc] at hall
      have hparse := parseResponse_stretch fromSlice hr hlen hall
      by_cases hdone : RustStr.isUtf8 r.head ∧
          r.wire.length ≤ (s.resp ++ delivered w.io.reads).length
      · rw [if_pos hdone] at hparse
        obtain ⟨p', h⟩ := serve_cons_complete fromSlice hs hsock ho hout hread hparse ws
        have hpre : r.wire <+: s.resp ++ delivered w.io.reads :=
          prefix_of_prefix_length_le hall (prefix_append _ _) hdone.2
        refine iff_of_true ⟨p', _, h⟩ ⟨hdone.1, ?_⟩
        rw [hopen, ← append_assoc]
        exact hpre.trans (prefix_append _ _)
      · rw [if_neg hdone] at hparse
        rw [serve_cons_pending fromSlice hs hsock hout hread hparse ws, hopen,
          ← append_assoc]
        refine serve_finishes_iff_aux hr hlen ws (s := s.drained w) ?_ hsock ho
          (fun _ _ => rfl) hall fun hutf => ?_
        · have hlt := (List.getElem?_eq_some_iff.mp hs).1
          simp [hlt]
        · exact not_le.mp fun hle => hdone ⟨hutf, hle⟩

theorem serve_finishes_iff (fromSlice : Bytes → Except String InferResponse) {p : Pool}
    {idx o : ℕ} {s : Slot} {sock : SockId} {r : Response} (w : Wake) (ws : List Wake)
    (hs : p.slots[idx]? = some s) (hsock : s.sock = some sock) (ho : s.owner = some o)
    (hresp : s.resp = []) (hout : s.requestOut w.io) (hr : LengthDelimited r)
    (hlen : (received (w :: ws)).length < usizeBound) (hall : r.wire <+: received (w :: ws)) :
    (∃ p' elapsed, serve fromSlice idx p (w :: ws) = .ok (.Finished p' (some ⟨o, s.tag,
        outcome elapsed (interpret fromSlice r.status r.body)⟩))) ↔
      RustStr.isUtf8 r.head ∧ r.wire <+: receivedOpen (w :: ws) := by
  have hne : 0 < r.wire.length := by
    have := r.four_le_head
    rw [r.length_wire]
    omega
  have hwire : r.wire.length < usizeBound := lt_of_le_of_lt hall.length_le hlen
  have h := serve_finishes_iff_aux fromSlice hr hwire (w :: ws) hs hsock ho
    (fun x hx => by
      obtain rfl : w = x := by simpa using hx
      exact hout)
    (by simpa [hresp] using hall) (by simpa [hresp] using fun _ => hne)
  simpa [hresp] using h

end

def waitingSlot : Slot :=
  { Slot.new 0 with sock := some 0, state := .Receiving, owner := some 2, tag := 1 }

def waitingPool : Pool where
  slots := [waitingSlot]
  free := []
  nextSock := 1

def readable (reads : List ReadResult) : Wake where
  writable := false
  io := ⟨0, none, true, [], reads, .WouldBlock⟩
  connect := true

def fromSilence (body : Bytes) : Except String InferResponse :=
  if body = bytes Wire.silenceJson then .ok ⟨0, 0, 0, 320, "", 640⟩
  else .error "EOF while parsing a value"

theorem serve_finishes_of_open :
    ∃ p' elapsed, serve fromSilence 0 waitingPool
      [readable [.Ok silenceAnswer.wire, .WouldBlock]] =
        .ok (.Finished p' (some ⟨2, 1, outcome elapsed
          (interpret fromSilence silenceAnswer.status silenceAnswer.body)⟩)) :=
  (serve_finishes_iff _ (readable [.Ok silenceAnswer.wire, .WouldBlock]) [] (s := waitingSlot) rfl
    rfl rfl rfl rfl lengthDelimited_silenceAnswer (by decide +kernel) (by decide +kernel)).mpr
    ⟨by decide +kernel, by decide +kernel⟩

theorem serve_resends_complete_response :
    received [readable [.Ok silenceAnswer.wire, .Ok []]] = silenceAnswer.wire ∧
      ∃ p', serve fromSilence 0 waitingPool
        [readable [.Ok silenceAnswer.wire, .Ok []]] = .ok (.Resent p') :=
  ⟨by decide +kernel, _, rfl⟩

/-! ## The retryable flag -/

def Retries (status : ℕ) : Prop := status = 429 ∨ 500 ≤ status ∧ status < 600

lemma classifyStatus_retryable_iff (status : ℕ) :
    (classifyStatus status).2 = true ↔ Retries status := by
  unfold classifyStatus Retries
  split_ifs <;> simp <;> omega

lemma kindRetryable_classifyStatus (status : ℕ) :
    kindRetryable (classifyStatus status).1 = true := by
  unfold classifyStatus
  split_ifs <;> rfl

lemma onEvent_of_error_status (fromSlice : Bytes → Except String InferResponse) {p : Pool}
    {idx o : ℕ} {s : Slot} {sock : SockId} {w : Wake} {headEnd status n : ℕ}
    (hs : p.slots[idx]? = some s) (hsock : s.sock = some sock) (ho : s.owner = some o)
    (hout : s.requestOut w.io) (hread : broken w.io.reads = none)
    (hlen : (s.resp ++ delivered w.io.reads).length < usizeBound)
    (hhead : announced (s.resp ++ delivered w.io.reads) = some (headEnd, status, n))
    (hbody : headEnd + n ≤ (s.resp ++ delivered w.io.reads).length)
    (hstatus : ¬ (200 ≤ status ∧ status < 300)) :
    ∃ p' e, p.onEvent fromSlice idx w.writable w.io w.connect =
        .ok (p', some ⟨o, s.tag, .error e⟩) ∧ e.status = some status ∧ e.retryable = true := by
  have hparse := parseResponse_of_complete fromSlice hhead (hbody.trans_lt hlen) hbody
  rw [interpret, if_pos hstatus] at hparse
  have hdrive := drive_of_complete fromSlice hsock hout hread hparse
  have hevent : ∃ p', p.onEvent fromSlice idx w.writable w.io w.connect = .ok (p',
      some ⟨o, s.tag, outcome (w.io.now - s.started) (.error ⟨.InferenceRequest,
        (classifyStatus status).1, "inference returned status " ++ toString status,
        some status⟩)⟩) := by
    simp [Pool.onEvent, hs, hdrive, Except.map, Pool.finish, ho]
  obtain ⟨p', hevent⟩ := hevent
  exact ⟨p', _, hevent, rfl, kindRetryable_classifyStatus status⟩

theorem retryable_right_iff {fromSlice : Bytes → Except String InferResponse} {p : Pool}
    {idx o : ℕ} {s : Slot} {sock : SockId} {w : Wake} {headEnd status n : ℕ} {c : Conn}
    {batch : Batch} {started now : Instant} {config : Config} {flush : WsFlush}
    (hs : p.slots[idx]? = some s) (hsock : s.sock = some sock) (ho : s.owner = some o)
    (hout : s.requestOut w.io) (hread : broken w.io.reads = none)
    (hlen : (s.resp ++ delivered w.io.reads).length < usizeBound)
    (hhead : announced (s.resp ++ delivered w.io.reads) = some (headEnd, status, n))
    (hbody : headEnd + n ≤ (s.resp ++ delivered w.io.reads).length)
    (hstatus : ¬ (200 ≤ status ∧ status < 300)) (hws : c.ws = true)
    (hpending : c.pending = some ⟨batch, started⟩) (htag : batch.tag = s.tag) :
    ∃ p' d m, p.onEvent fromSlice idx w.writable w.io w.connect = .ok (p', some d) ∧
      d.owner = o ∧ (c.onDone d.tag d.result config now flush).wrote = [.Text (.Error m)] ∧
      m.inferenceStatus = some status ∧
      ((m.retryable = true ↔ status = 429 ∨ 500 ≤ status ∧ status < 600) ∧
        m.retryable = (classifyStatus status).2 ↔ Retries status) := by
  obtain ⟨p', e, hevent, hstatus', hretry⟩ :=
    onEvent_of_error_status fromSlice hs hsock ho hout hread hlen hhead hbody hstatus
  have hwrote : (c.onDone s.tag (.error e) config now flush).wrote =
      [.Text (Conn.answerFor batch (.error e) config now)] := by
    simp [Conn.onDone, Conn.deliver, hpending, htag, hws]
  have hflag : (e.retryable = true ↔ status = 429 ∨ 500 ≤ status ∧ status < 600) ∧
      e.retryable = (classifyStatus status).2 ↔ Retries status := by
    constructor
    · rintro ⟨-, h⟩
      exact (classifyStatus_retryable_iff status).mp (h.symm.trans hretry)
    · intro h
      exact ⟨iff_of_true hretry h,
        hretry.trans ((classifyStatus_retryable_iff status).mpr h).symm⟩
  exact ⟨p', _, _, hevent, rfl, hwrote, hstatus', hflag⟩

def waitingConfig : Config := ⟨"inference", "/infer", 1, 4, 75, 10 ^ 9⟩

def waitingConn : Conn :=
  { Conn.new 2 waitingConfig 0 0 with
    pre := false, ws := true, pending := some ⟨⟨1, 5, 0, 0, 5, 3200, 0⟩, 0⟩ }

def errorAnswer (status : String) : Bytes :=
  bytes ("HTTP/1.1 " ++ status ++ "\r\nContent-Length: 0\r\n\r\n")

theorem retryable_right_iff_unavailable :
    ∃ p' d m, waitingPool.onEvent fromSilence 0 false
        (readable [.Ok (errorAnswer "503 Busy"), .WouldBlock]).io true = .ok (p', some d) ∧
      (waitingConn.onDone d.tag d.result waitingConfig 0 .Ok).wrote = [.Text (.Error m)] ∧
      m.inferenceStatus = some 503 ∧ m.retryable = (classifyStatus 503).2 := by
  have hs : waitingPool.slots[0]? = some waitingSlot := rfl
  have hhead : announced (waitingSlot.resp ++ delivered (readable
      [.Ok (errorAnswer "503 Busy"), .WouldBlock]).io.reads) = some (40, 503, 0) := by decide
  obtain ⟨p', d, m, hevent, -, hwrote, hstatus, hflag⟩ :=
    retryable_right_iff (c := waitingConn) hs rfl rfl rfl rfl (by decide) hhead (by decide)
      (by decide) rfl rfl rfl
  exact ⟨p', d, m, hevent, hwrote, hstatus, (hflag.mpr (.inr (by decide))).2⟩

theorem not_found_retryable :
    ∃ p' d m, waitingPool.onEvent fromSilence 0 false
        (readable [.Ok (errorAnswer "404 Not Found"), .WouldBlock]).io true = .ok (p', some d) ∧
      (waitingConn.onDone d.tag d.result waitingConfig 0 .Ok).wrote = [.Text (.Error m)] ∧
      m.inferenceStatus = some 404 ∧ m.retryable = true ∧ (classifyStatus 404).2 = false :=
  ⟨_, _, _, rfl, rfl, rfl, rfl, rfl⟩

end SttBench.RustSync
