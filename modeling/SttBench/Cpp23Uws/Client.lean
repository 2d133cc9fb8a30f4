import SttBench.Cpp23Uws.Session

/-!
# cpp23-uwebsockets: the inference client

`CurlInferenceClient`: a locked queue, and the network thread that drains it.
-/

namespace SttBench.Cpp23Uws

open Ascii List

/-! ## Failures -/

inductive CurlCode
  | Ok
  | OperationTimedout (strerror : String)
  | Failed (strerror : String)
deriving DecidableEq, Repr

structure CurlmError where
  strerror : String
deriving DecidableEq, Repr

def classifyStatus (status : ℕ) : InferenceFailure where
  stage := .InferenceRequest
  kind := if status = 429 then .Http429 else .Http5xx
  detail := "inference returned status " ++ toString status
  status := some (status % 2 ^ 16)
  retryable := status = 429 || (500 ≤ status && status < 600)

def requestFailure (kind : ErrorKind) (detail : String) (retryable : Bool) : InferenceFailure where
  stage := .InferenceRequest
  kind := kind
  detail := detail
  status := none
  retryable := retryable

def classifyCurl : CurlCode → InferenceFailure
  | .OperationTimedout strerror => requestFailure .Timeout strerror true
  | .Failed strerror => requestFailure .ConnectionReset strerror true
  | .Ok => requestFailure .ConnectionReset "No error" true

def classifyMulti (code : CurlmError) : InferenceFailure :=
  requestFailure .ConnectionReset code.strerror true

structure Transfer where
  code : CurlCode
  status : ℕ
  parsed : Except String InferResponse

def finishEasy (t : Transfer) : InferenceResult :=
  match t.code with
  | .Ok =>
    if t.status < 200 || 300 ≤ t.status then .error (classifyStatus t.status)
    else
      match t.parsed with
      | .ok parsed => .ok parsed
      | .error detail =>
        .error
          { stage := .InferenceResponseParse
            kind := .ParseError
            detail := detail
            status := some (t.status % 2 ^ 16)
            retryable := false }
  | code => .error (classifyCurl code)

/-! ## The client -/

variable {κ : Type}

structure Request (κ : Type) where
  body : Bytes
  cpuPasses : ℕ
  onComplete : κ

structure Completion (κ : Type) where
  callback : κ
  result : InferenceResult
  body : Bytes

def complete (request : Request κ) (result : InferenceResult) : Completion κ :=
  ⟨request.onComplete, result, request.body⟩

abbrev Handle := ℕ

inductive Pc (κ : Type)
  | DrainQueue
  | SubmitOne (pending : List (Request κ))
  | Perform
  /-- In the loop of `fail_active`; `final` is the call behind the main loop. -/
  | FailActive (rest : List (Handle × Request κ)) (failure : InferenceFailure) (final : Bool)
  | HarvestCompletions
  | ShouldExit
  | WaitForWork
  | Exited

inductive NetEvent
  | DrainQueue
  /-- The next pending request: what `curl_easy_init` returns if it is called, and how
  `curl_multi_add_handle` fails if it does. -/
  | SubmitOne (init : Option Handle) (add : Option CurlmError)
  | Submitted
  | Perform (failed : Option CurlmError)
  | FailNext
  /-- `curl_multi_info_read`: nothing, or a message about a handle, which is done or not. -/
  | InfoRead (message : Option (Handle × Option Transfer))
  | ShouldExit
  | WaitForWork

structure Client (κ : Type) where
  queue : List (Request κ)
  shuttingDown : Bool
  pc : Pc κ
  active : List (Handle × Request κ)
  /-- The handles of `IdlePool`, the back of the vector first. -/
  idle : List Handle

def maxActiveEasyHandlesForClientCount (clientCount : ℤ) : ℕ := (max 1 clientCount).toNat * 64

namespace Client

def start : Client κ := ⟨[], false, .DrainQueue, [], []⟩

def inferAsync (c : Client κ) (request : Request κ) : Client κ :=
  { c with queue := c.queue ++ [request] }

def shutdown (c : Client κ) : Client κ := { c with shuttingDown := true }

variable (cap : ℕ)

def recycle (c : Client κ) (handle : Handle) : Client κ :=
  if cap ≤ c.idle.length then c else { c with idle := handle :: c.idle }

def acquire (c : Client κ) (init : Option Handle) : Option (Option Handle × Client κ) :=
  match c.idle with
  | handle :: idle => some (some handle, { c with idle := idle })
  | [] =>
    if ∃ handle ∈ init, handle ∈ c.active.map Prod.fst then none
    else some (init, c)

def submitOne (c : Client κ) (request : Request κ) (init : Option Handle) (add : Option CurlmError) :
    Option (Client κ × Option (Completion κ)) := do
  match ← c.acquire init with
  | (none, c) =>
    let failure := requestFailure .ConnectionReset "curl_easy_init failed" true
    return (c, some (complete request (.error failure)))
  | (some handle, c) =>
    match add with
    | some code =>
      return (c.recycle cap handle, some (complete request (.error (classifyMulti code))))
    | none => return ({ c with active := c.active ++ [(handle, request)] }, none)

def harvest (c : Client κ) (handle : Handle) (t : Transfer) : Client κ × Option (Completion κ) :=
  match c.active.find? fun entry => entry.1 = handle with
  | none => (c, none)
  | some (_, request) =>
    ({ c with active := c.active.eraseP fun entry => entry.1 = handle }.recycle cap handle,
      some (complete request (finishEasy t)))

def step (c : Client κ) : NetEvent → Option (Client κ × Option (Completion κ))
  | .DrainQueue =>
    match c.pc with
    | .DrainQueue =>
      let headroom := cap - c.active.length
      some ({ c with queue := c.queue.drop headroom
                     pc := .SubmitOne (c.queue.take headroom) }, none)
    | _ => none
  | .SubmitOne init add =>
    match c.pc with
    | .SubmitOne (request :: pending) =>
      ({ c with pc := .SubmitOne pending }).submitOne cap request init add
    | _ => none
  | .Submitted =>
    match c.pc with
    | .SubmitOne [] => some ({ c with pc := .Perform }, none)
    | _ => none
  | .Perform failed =>
    match c.pc with
    | .Perform =>
      match failed with
      | none => some ({ c with pc := .HarvestCompletions }, none)
      | some code => some ({ c with pc := .FailActive c.active (classifyMulti code) false }, none)
    | _ => none
  | .FailNext =>
    match c.pc with
    | .FailActive ((handle, request) :: rest) failure final =>
      some (({ c with pc := .FailActive rest failure final }).recycle cap handle,
        some (complete request (.error failure)))
    | .FailActive [] _ final =>
      some ({ c with active := [], pc := if final then .Exited else .HarvestCompletions }, none)
    | _ => none
  | .InfoRead message =>
    match c.pc with
    | .HarvestCompletions =>
      match message with
      | none => some ({ c with pc := .ShouldExit }, none)
      | some (_, none) => some (c, none)
      | some (handle, some t) => some (c.harvest cap handle t)
    | _ => none
  | .ShouldExit =>
    match c.pc with
    | .ShouldExit =>
      if c.shuttingDown && c.queue.isEmpty && c.active.isEmpty then
        let failure := requestFailure .ConnectionReset "inference client shutting down" false
        some ({ c with pc := .FailActive c.active failure true }, none)
      else some ({ c with pc := .WaitForWork }, none)
    | _ => none
  | .WaitForWork =>
    match c.pc with
    | .WaitForWork => some ({ c with pc := .DrainQueue }, none)
    | _ => none

/-! ## Where the requests are -/

def taken (c : Client κ) : List (Request κ) :=
  match c.pc with
  | .SubmitOne pending => pending ++ c.active.map Prod.snd
  | .FailActive rest _ _ => rest.map Prod.snd
  | _ => c.active.map Prod.snd

def held (c : Client κ) : Multiset κ := ((c.queue ++ c.taken).map Request.onComplete : List κ)

def ran (done : Option (Completion κ)) : Multiset κ := done.elim 0 fun x => {x.callback}

lemma recycle_eq (c : Client κ) (handle : Handle) :
    ∃ idle, c.recycle cap handle = { c with idle := idle } := by
  unfold recycle
  split_ifs
  · exact ⟨c.idle, rfl⟩
  · exact ⟨handle :: c.idle, rfl⟩

variable {cap} {c c' : Client κ} {e : NetEvent} {done : Option (Completion κ)}

lemma held_inferAsync (c : Client κ) (request : Request κ) :
    (c.inferAsync request).held = request.onComplete ::ₘ c.held := by
  have hperm : ((c.queue ++ [request]) ++ c.taken).Perm (request :: (c.queue ++ c.taken)) := by
    simp
  exact Quot.sound (hperm.map Request.onComplete)

lemma held_of_perm (h : (c.queue ++ c.taken).Perm (c'.queue ++ c'.taken)) :
    c.held = ran none + c'.held := by
  rw [ran, Option.elim_none, zero_add]
  exact Quot.sound (h.map Request.onComplete)

lemma held_of_perm_cons {request : Request κ} (result : InferenceResult)
    (h : (c.queue ++ c.taken).Perm (request :: (c'.queue ++ c'.taken))) :
    c.held = ran (some (complete request result)) + c'.held :=
  Quot.sound (h.map Request.onComplete)

lemma acquire_eq {init : Option Handle} {r : Option Handle × Client κ}
    (h : c.acquire init = some r) : ∃ idle, r.2 = { c with idle := idle } := by
  revert h
  fun_cases acquire c init with
  | case1 handle idle =>
    rintro ⟨⟩
    exact ⟨idle, rfl⟩
  | case2 => rintro ⟨⟩
  | case3 =>
    rintro ⟨⟩
    exact ⟨c.idle, rfl⟩

lemma submitOne_eq {request : Request κ} {init : Option Handle} {add : Option CurlmError}
    (h : c.submitOne cap request init add = some (c', done)) :
    (∃ idle result, c' = { c with idle := idle } ∧ done = some (complete request result)) ∨
      ∃ idle handle, c' = { c with idle := idle, active := c.active ++ [(handle, request)] } ∧
        done = none := by
  unfold submitOne at h
  obtain ⟨r, hr, h⟩ := Option.bind_eq_some_iff.mp h
  obtain ⟨idle, hidle⟩ := acquire_eq hr
  obtain ⟨handle, c₁⟩ := r
  obtain rfl : c₁ = { c with idle := idle } := hidle
  cases handle with
  | none =>
    cases h
    exact .inl ⟨idle, _, rfl, rfl⟩
  | some handle => cases add with
    | none =>
      cases h
      exact .inr ⟨idle, handle, rfl, rfl⟩
    | some code =>
      cases h
      obtain ⟨idle', hrecycle⟩ := recycle_eq cap { c with idle := idle } handle
      exact .inl ⟨idle', _, hrecycle, rfl⟩

lemma harvest_eq (c : Client κ) (handle : Handle) (t : Transfer) :
    c.harvest cap handle t = (c, none) ∨
      ∃ idle before entry after, c.active = before ++ entry :: after ∧
        c.harvest cap handle t = ({ c with idle := idle, active := before ++ after },
          some (complete entry.2 (finishEasy t))) := by
  unfold harvest
  cases hfind : c.active.find? fun entry => entry.1 = handle with
  | none => exact .inl rfl
  | some entry =>
    obtain ⟨hentry, before, after, hactive, hbefore⟩ := List.find?_eq_some_iff_append.mp hfind
    have herase : c.active.eraseP (fun entry => entry.1 = handle) = before ++ after := by
      rw [hactive, eraseP_append_right _ (by simpa using hbefore), eraseP_cons, hentry]
      rfl
    obtain ⟨idle, hrecycle⟩ :=
      recycle_eq cap { c with active := c.active.eraseP fun entry => entry.1 = handle } handle
    refine .inr ⟨idle, before, entry, after, hactive, ?_⟩
    dsimp only
    rw [hrecycle, herase]

theorem step_held (h : c.step cap e = some (c', done)) : c.held = ran done + c'.held := by
  revert h
  fun_cases step cap c e with
  | case1 hpc headroom =>
    rintro ⟨⟩
    apply held_of_perm
    simp only [taken, hpc, ← append_assoc]
    refine List.Perm.append_right _ ?_
    conv_lhs => rw [← take_append_drop headroom c.queue]
    exact perm_append_comm
  | case3 init add request pending hpc =>
    intro h
    obtain ⟨idle, result, rfl, rfl⟩ | ⟨idle, handle, rfl, rfl⟩ := submitOne_eq h
    · apply held_of_perm_cons
      simp only [taken, hpc, cons_append]
      exact perm_middle
    · apply held_of_perm
      simp only [taken, hpc, map_append, map_singleton, ← append_assoc]
      refine List.Perm.trans ?_ (perm_append_singleton _ _).symm
      simp
  | case5 hpc | case7 hpc | case8 hpc | case13 hpc | case17 hpc | case18 hpc | case20 hpc =>
    rintro ⟨⟩
    apply held_of_perm
    simp [taken, hpc]
  | case10 handle request rest failure final hpc =>
    obtain ⟨idle, hrecycle⟩ :=
      recycle_eq cap { c with pc := .FailActive rest failure final } handle
    rintro ⟨⟩
    apply held_of_perm_cons
    simp only [hrecycle, taken, hpc, map_cons]
    exact perm_middle
  | case11 failure final hpc =>
    rintro ⟨⟩
    apply held_of_perm
    cases final <;> simp [taken, hpc]
  | case14 =>
    rintro ⟨⟩
    exact held_of_perm (List.Perm.refl _)
  | case15 hpc handle t =>
    intro h
    obtain heq | ⟨idle, before, entry, after, hactive, heq⟩ := harvest_eq c handle t
    · cases heq.symm.trans (Option.some.inj h)
      exact held_of_perm (List.Perm.refl _)
    · cases heq.symm.trans (Option.some.inj h)
      apply held_of_perm_cons
      simp only [taken, hpc, hactive, map_append, map_cons, ← append_assoc]
      exact perm_middle
  | _ => rintro ⟨⟩

/-! ## The cap, and the end of the thread -/

def pending (c : Client κ) : List (Request κ) :=
  match c.pc with
  | .SubmitOne pending => pending
  | _ => []

structure Inv (cap : ℕ) (c : Client κ) : Prop where
  room : c.active.length + c.pending.length ≤ cap
  /-- The thread leaves its loop when the client shuts down and nothing is left. -/
  final : ∀ rest failure, c.pc = .FailActive rest failure true →
    c.shuttingDown = true ∧ c.queue = [] ∧ rest = []
  exited : c.pc = .Exited → c.shuttingDown = true ∧ c.queue = [] ∧ c.active = []

lemma inv_start (cap : ℕ) : (start : Client κ).Inv cap :=
  ⟨Nat.zero_le cap, nofun, nofun⟩

lemma Inv.held_eq_zero (hc : c.Inv cap) (h : c.pc = .Exited) : c.held = 0 := by
  obtain ⟨-, hqueue, hactive⟩ := hc.exited h
  simp [held, taken, h, hqueue, hactive]

lemma Inv.inferAsync (hc : c.Inv cap) (h : c.shuttingDown = false) (request : Request κ) :
    (c.inferAsync request).Inv cap := by
  refine ⟨hc.room, ?_, ?_⟩
  · intro rest failure hpc
    have := (hc.final rest failure hpc).1
    simp [h] at this
  · intro hpc
    have := (hc.exited hpc).1
    simp [h] at this

lemma Inv.shutdown (hc : c.Inv cap) : c.shutdown.Inv cap :=
  ⟨hc.room, fun rest failure hpc => ⟨rfl, (hc.final rest failure hpc).2⟩,
    fun hpc => ⟨rfl, (hc.exited hpc).2⟩⟩

lemma Inv.of_active (hroom : c.active.length ≤ cap) (hpending : c.pending = [])
    (hfinal : ∀ rest failure, c.pc ≠ .FailActive rest failure true) (hexited : c.pc ≠ .Exited) :
    c.Inv cap :=
  ⟨by rw [hpending]; exact hroom, fun rest failure h => absurd h (hfinal rest failure),
    fun h => absurd h hexited⟩

lemma Inv.active_le (hc : c.Inv cap) : c.active.length ≤ cap :=
  (Nat.le_add_right _ _).trans hc.room

theorem Inv.step (hc : c.Inv cap) (h : c.step cap e = some (c', done)) : c'.Inv cap := by
  have hactive := hc.active_le
  revert h
  fun_cases Client.step cap c e with
  | case1 =>
    rintro ⟨⟩
    refine ⟨?_, by simp, by simp⟩
    simp only [pending, length_take]
    omega
  | case3 init add request pending hpc =>
    intro h
    have hroom := hc.room
    simp only [Client.pending, hpc, length_cons] at hroom
    obtain ⟨idle, result, rfl, rfl⟩ | ⟨idle, handle, rfl, rfl⟩ := submitOne_eq h <;>
      refine ⟨?_, by simp, by simp⟩
    · simp only [Client.pending]
      omega
    · simp only [Client.pending, length_append, length_singleton]
      omega
  | case5 | case7 | case8 | case13 | case18 | case20 =>
    rintro ⟨⟩
    exact .of_active hactive rfl (by simp) (by simp)
  | case10 handle request rest failure final hpc =>
    obtain ⟨idle, hrecycle⟩ :=
      recycle_eq cap { c with pc := .FailActive rest failure final } handle
    rintro ⟨⟩
    rw [hrecycle]
    cases final with
    | false => exact .of_active hactive rfl (by simp) (by simp)
    | true => cases (hc.final _ _ hpc).2.2
  | case11 failure final hpc =>
    rintro ⟨⟩
    cases final with
    | false => exact .of_active (Nat.zero_le cap) rfl (by simp) (by simp)
    | true =>
      obtain ⟨hdown, hqueue, -⟩ := hc.final _ _ hpc
      exact ⟨Nat.zero_le cap, by simp, fun _ => ⟨hdown, hqueue, rfl⟩⟩
  | case14 =>
    rintro ⟨⟩
    exact hc
  | case15 hpc handle t =>
    intro h
    obtain heq | ⟨idle, before, entry, after, hsplit, heq⟩ := harvest_eq c handle t
    · cases heq.symm.trans (Option.some.inj h)
      exact hc
    · cases heq.symm.trans (Option.some.inj h)
      refine .of_active ?_ (by simp [pending, hpc]) (by simp [hpc]) (by simp [hpc])
      rw [hsplit] at hactive
      simp only [length_append, length_cons] at hactive ⊢
      omega
  | case17 hpc hexit =>
    rintro ⟨⟩
    simp only [Bool.and_eq_true, List.isEmpty_iff] at hexit
    obtain ⟨⟨hdown, hqueue⟩, hempty⟩ := hexit
    refine ⟨hactive, ?_, by simp⟩
    rintro rest failure ⟨⟩
    exact ⟨hdown, hqueue, hempty⟩
  | _ => rintro ⟨⟩

end Client

end SttBench.Cpp23Uws
