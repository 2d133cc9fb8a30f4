import SttBench.OxcamlEpoll.Invariant

/-! # ocaml-oxcaml-epoll: the handlers, move by move -/

namespace SttBench.OxcamlEpoll

open Ascii Tiling Conn List

/-! ## Chains of moves -/

inductive Moves (g : Setup) : Server → Server → Prop
  | refl (s : Server) : Moves g s s
  | head {s s₁ s' : Server} (hm : Move g s s₁) (h : Moves g s₁ s') (hw : s'.wires = s₁.wires) :
      Moves g s s'

namespace Moves

variable {g : Setup} {s s₁ s' : Server}

lemma single (hm : Move g s s') : Moves g s s' := head hm (refl s') rfl

lemma trans (h : Moves g s s₁) (h' : Moves g s₁ s') (hw : s'.wires = s₁.wires) : Moves g s s' := by
  induction h with
  | refl s => exact h'
  | head hm _ hw₁ ih => exact head hm (ih h' hw) (hw.trans hw₁)

theorem inv (h : Moves g s s') (hs : Inv g s) : Inv g s' := by
  induction h with
  | refl s => exact hs
  | head hm _ _ ih => exact ih (hm.inv hs)

end Moves

def Quiet (g : Setup) (s : Server) (r : Except Exn Server) : Prop :=
  ∃ s', r = .ok s' ∧ Moves g s s' ∧ s'.wires = s.wires

namespace Quiet

variable {g : Setup} {s s' : Server} {r : Except Exn Server}

lemma refl (s : Server) : Quiet g s (.ok s) := ⟨s, rfl, .refl s, rfl⟩

lemma single (hm : Move g s s') (hw : s'.wires = s.wires) : Quiet g s (.ok s') :=
  ⟨s', rfl, .single hm, hw⟩

lemma head (hm : Move g s s') (hw : s'.wires = s.wires) (h : Quiet g s' r) : Quiet g s r := by
  obtain ⟨t, hr, hmoves, ht⟩ := h
  exact ⟨t, hr, .head hm hmoves ht, ht.trans hw⟩

lemma bind {k : Server → Except Exn Server} (h : Quiet g s r)
    (hk : ∀ t, Moves g s t → Quiet g t (k t)) : Quiet g s (r.bind k) := by
  obtain ⟨t, rfl, hmoves, ht⟩ := h
  obtain ⟨s', hs', hmoves', ht'⟩ := hk t hmoves
  exact ⟨s', hs', hmoves.trans hmoves' ht', ht'.trans ht⟩

lemma moves (hm : Move g s s') (h : Quiet g s' r) : ∃ t, r = .ok t ∧ Moves g s t := by
  obtain ⟨t, hr, hmoves, ht⟩ := h
  exact ⟨t, hr, .head hm hmoves ht⟩

end Quiet

/-! ## Results -/

section

variable {α β : Type}

lemma exists_ok_of_bind {k : α → Except Exn β} {b : β} :
    ∀ {r : Except Exn α}, r.bind k = .ok b → ∃ a, r = .ok a ∧ k a = .ok b
  | .error _, h => nomatch h
  | .ok a, h => ⟨a, rfl, h⟩

lemma exists_ok_of_map {f : α → β} {b : β} :
    ∀ {r : Except Exn α}, r.map f = .ok b → ∃ a, r = .ok a ∧ f a = b
  | .error _, h => nomatch h
  | .ok a, h => ⟨a, rfl, Except.ok.inj h⟩

lemma eq_ok_of_toOption {a : α} : ∀ {r : Except Exn α}, r.toOption = some a → r = .ok a
  | .ok _, h => congrArg _ (Option.some.inj h)

lemma eq_error_of_map {f : α → β} {e : Exn} : ∀ {r : Except Exn α}, r.map f = .error e → r = .error e
  | .ok _, h => nomatch h
  | .error _, h => congrArg _ (Except.error.inj h)

end

/-! ## The loops on a slot -/

namespace Slot

structure Same (slot slot' : Slot) : Prop where
  owner : slot'.owner = slot.owner
  req : slot'.req = slot.req
  fd : slot'.fd = slot.fd
  retried : slot'.retried = slot.retried
  attempts : slot'.attempts = slot.attempts

lemma Same.trans {slot slot₁ slot₂ : Slot} (h : slot.Same slot₁) (h' : slot₁.Same slot₂) :
    slot.Same slot₂ :=
  ⟨h'.owner.trans h.owner, h'.req.trans h.req, h'.fd.trans h.fd, h'.retried.trans h.retried,
    h'.attempts.trans h.attempts⟩

lemma Same.logged {slot slot' : Slot} (h : slot.Same slot') (hlog : slot.Logged) : slot'.Logged := by
  cases hlog with
  | first hfd hretried hlog =>
    exact .first (h.fd.trans hfd) (h.retried.trans hretried) (h.attempts.trans hlog)
  | second hfd hne hretried hlog =>
    exact .second (h.fd.trans hfd) hne (h.retried.trans hretried) (h.attempts.trans hlog)
  | raised hraised hretried =>
    rw [← h.attempts] at hraised hretried
    exact .raised hraised (h.retried ▸ hretried)

lemma sendLoop_same (slot : Slot) (sends : List SendResult) :
    slot.Same (slot.sendLoop sends).1 ∧ (slot.sendLoop sends).1.resp = slot.resp := by
  fun_induction sendLoop slot sends with
  | case1 | case2 | case3 | case4 | case6 | case7 => exact ⟨⟨rfl, rfl, rfl, rfl, rfl⟩, rfl⟩
  | case5 slot ws h ih => exact ih
  | case8 slot ws h n hn ih => exact ⟨{ ih.1 with }, ih.2⟩

lemma sendLoop_state (slot : Slot) (sends : List SendResult) :
    (slot.sendLoop sends).1.state = slot.state ∨
      (slot.sendLoop sends).1.state = .Receiving ∧ (slot.sendLoop sends).2 = none := by
  fun_induction sendLoop slot sends with
  | case1 | case3 => exact Or.inr ⟨rfl, rfl⟩
  | case2 | case4 | case6 | case7 => exact Or.inl rfl
  | case5 slot ws h ih | case8 slot ws h n hn ih => exact ih

lemma recvLoop_same (slot : Slot) (reads : List ReadResult) :
    slot.Same (slot.recvLoop reads).1 ∧ (slot.recvLoop reads).1.state = slot.state := by
  fun_induction recvLoop slot reads with
  | case1 | case2 | case4 | case5 | case7 => exact ⟨⟨rfl, rfl, rfl, rfl, rfl⟩, rfl⟩
  | case3 slot rs ih => exact ih
  | case6 slot chunk rs _ slot' _ ih => exact ⟨{ ih.1 with }, ih.2⟩

lemma recvLoop_resp (slot : Slot) (reads : List ReadResult) :
    slot.resp <+: (slot.recvLoop reads).1.resp := by
  fun_induction recvLoop slot reads with
  | case1 | case2 | case4 | case5 => exact prefix_rfl
  | case3 slot rs ih => exact ih
  | case6 slot chunk rs _ slot' _ ih => exact (prefix_append ..).trans ih
  | case7 slot chunk rs _ slot' p _ => exact prefix_append ..

lemma recvLoop_complete {slot : Slot} {reads : List ReadResult} {p : HttpResponse.Parsed}
    (h : (slot.recvLoop reads).2 = .Complete p) :
    HttpResponse.parse (slot.recvLoop reads).1.resp = some p := by
  fun_induction recvLoop slot reads with
  | case1 | case2 | case4 | case5 => cases h
  | case3 slot rs ih | case6 slot chunk rs _ slot' _ ih => exact ih h
  | case7 slot chunk rs _ slot' q hq =>
    cases h
    exact hq

end Slot

/-! ## A request comes to its end -/

section

variable {g : Setup} {s s' : Server} {idx id : ℕ} {slot slot' : Slot} {c : Conn}

lemma GivesUp.freed_of_fd (hfd : slot'.fd = none) : GivesUp slot slot'.freed :=
  ⟨rfl, rfl, rfl, Or.inl hfd⟩

lemma GivesUp.freed (h : slot.state = .Receiving → (HttpResponse.parse slot.resp).isSome) :
    GivesUp slot slot.freed :=
  ⟨rfl, rfl, rfl, Or.inr ⟨rfl, h⟩⟩

variable {p : Pending}

lemma Server.deliverResult_eq (s : Server) (hc : s.conns id = some c) (hp : c.pending = some p)
    (result : InferResult) (clock : Ms) :
    s.deliverResult g id result clock = s.handled id
      ((c.setPending none).enqueueGeneratedText (answerFor g c p result clock)) := by
  unfold deliverResult
  rw [hc]
  dsimp only
  rw [hp]
  cases result <;> rfl

lemma Server.freeSlot_eq (h : Inv g s) (hslot : s.slots[idx]? = some slot)
    (howner : slot.owner = some id) (howner' : slot'.owner = some id) :
    s.freeSlot idx slot' = .ok { s.setSlot idx slot'.freed with
      freeSlots := ⟨idx :: s.freeSlots.data, s.freeSlots.capacity⟩ } := by
  unfold freeSlot
  rw [if_neg (by simp [Slot.isFree, howner']), h.pool.push hslot (by simp [howner])]
  rfl

lemma Server.slotDone_eq (h : Inv g s) (hslot : s.slots[idx]? = some slot)
    (howner : slot.owner = some id) (howner' : slot'.owner = some id) (hc : s.conns id = some c)
    (hp : c.pending = some p) (result : InferResult) (clock : Ms) :
    s.slotDone g idx slot' result clock = .ok (handled { s.setSlot idx slot'.freed with
      freeSlots := ⟨idx :: s.freeSlots.data, s.freeSlots.capacity⟩
      finished := s.finished ++ [⟨idx, id, result, slot'.attempts⟩] } id
      ((c.setPending none).enqueueGeneratedText (answerFor g c p result clock))) := by
  let t : Server := { s.setSlot idx slot'.freed with
    freeSlots := ⟨idx :: s.freeSlots.data, s.freeSlots.capacity⟩
    finished := s.finished ++ [⟨idx, id, result, slot'.attempts⟩] }
  have hdone : s.slotDone g idx slot' result clock = .ok (t.deliverResult g id result clock) := by
    unfold slotDone
    rw [freeSlot_eq h hslot howner howner', howner']
    rfl
  rw [hdone, deliverResult_eq t hc hp]

theorem Server.slotDone_quiet (h : Inv g s) (hslot : s.slots[idx]? = some slot)
    (howner : slot.owner = some id) (howner' : slot'.owner = some id)
    (hgives : GivesUp slot slot'.freed) {result : InferResult}
    (hresult : ∀ infer, result = .ok infer → Decoded g slot infer)
    (hspent : ∀ e, result = .error e → e.kind = .ConnectionReset → Spent slot'.attempts) (clock : Ms) :
    Quiet g s (s.slotDone g idx slot' result clock) := by
  obtain ⟨c, p, hc, hp, -⟩ := h.pending_of_owner hslot howner
  rw [slotDone_eq h hslot howner howner' hc hp]
  have hreset : Finish.isReset ⟨idx, id, result, slot'.attempts⟩ → Spent slot'.attempts := by
    cases result with
    | ok infer => rintro ⟨⟩
    | error e => exact fun hkind => hspent e rfl (of_decide_eq_true hkind)
  exact Quiet.head (.finish clock hslot howner hgives hc hp hresult) rfl
    (Quiet.single (.record _ hreset) rfl)

lemma Server.slotDone_error_quiet (h : Inv g s) (hslot : s.slots[idx]? = some slot)
    (howner : slot.owner = some id) (howner' : slot'.owner = some id)
    (hgives : GivesUp slot slot'.freed) {err : Error}
    (hspent : err.kind = .ConnectionReset → Spent slot'.attempts) (clock : Ms) :
    Quiet g s (s.slotDone g idx slot' (.error err) clock) :=
  slotDone_quiet h hslot howner howner' hgives (by rintro _ ⟨⟩) (by rintro _ ⟨⟩; exact hspent) clock

lemma Server.connectSlot_move (slot' : Slot) (hslot : s.slots[idx]? = some slot) (howner : slot.owner ≠ none)
    (howner' : slot'.owner = slot.owner) (hreq : slot'.req = slot.req) (hstate : slot'.state ≠ .Idle)
    (hfd : slot'.fd = none) (hresp : slot'.resp = []) (connect : Connect)
    (hlog : (∀ k, slot.fd = some k → k < s.nextSock) → slot.Logged →
      (slot'.connect s.nextSock connect).1.Logged) :
    Move g s (s.connectSlot idx slot' connect) := by
  cases connect with
  | NoSocket m => exact .drive hslot howner howner' hreq hstate (.drop hfd le_rfl) hlog
  | Refused m =>
    exact .drive hslot howner howner' hreq SlotState.noConfusion (.drop rfl (Nat.le_succ _)) hlog
  | NotRegistered m | Ok =>
    exact .drive hslot howner howner' hreq SlotState.noConfusion (.dial rfl hresp rfl) hlog

lemma Server.slots_setSlot (hslot : s.slots[idx]? = some slot) :
    (s.setSlot idx slot').slots[idx]? = some slot' := by
  show (s.slots.set idx slot')[idx]? = some slot'
  rw [PoolInv.getElem?_set hslot, if_pos rfl]

lemma Slot.owner_of_canHandleEvent (h : slot.canHandleEvent) : ∃ id, slot.owner = some id :=
  Option.isSome_iff_exists.mp (of_decide_eq_true h).2

lemma Inv.state_ne_idle (h : Inv g s) (hslot : s.slots[idx]? = some slot)
    (howner : slot.owner = some id) : slot.state ≠ .Idle := fun hidle => by
  have hnone := (h.pool.idle_iff slot (mem_of_getElem? hslot)).mp hidle
  simp [hnone] at howner

lemma Slot.connect_owner (slot : Slot) (sock : SockId) (connect : Connect) :
    (slot.connect sock connect).1.owner = slot.owner := by
  cases connect <;> rfl

lemma Slot.connect_givesUp (hfd : slot.fd = none) (sock : SockId) (connect : Connect) :
    GivesUp (slot.connect sock connect).1 (slot.connect sock connect).1.freed := by
  cases connect with
  | NoSocket m => exact GivesUp.freed_of_fd hfd
  | Refused m => exact GivesUp.freed_of_fd rfl
  | NotRegistered m | Ok => exact GivesUp.freed nofun

def Slot.again (slot : Slot) : Slot :=
  { { slot.log (.Failed slot.fd) with retried := true }.closeFd with reqPos := 0, resp := [] }

lemma Slot.Logged.again {n : SockId} (h : slot.Logged) (hfirst : slot.retried = false)
    (hfd : ∀ k, slot.fd = some k → k < n) (connect : Connect) :
    (slot.again.connect n connect).1.Logged := by
  have hraised {slot' : Slot} (hretried : slot'.retried = true)
      (hlog : slot'.attempts = slot.attempts ++ [.Failed slot.fd] ++ [.Raised]) : slot'.Logged :=
    .raised (by simp [hlog]) (iff_of_true hretried ⟨slot.fd, by simp [hlog]⟩)
  cases connect with
  | NoSocket m | Refused m | NotRegistered m => exact hraised rfl rfl
  | Ok =>
    cases h with
    | @first k hk _ hlog =>
      refine .second (k := k) rfl (hfd k hk).ne rfl ?_
      show slot.attempts ++ [.Failed slot.fd] = _
      rw [hlog, hk, nil_append]
    | second _ _ hretried _ => cases hfirst.symm.trans hretried
    | raised hmem _ =>
      exact .raised (mem_append_left _ hmem) (iff_of_true rfl ⟨slot.fd, by
        exact mem_append_right _ (mem_singleton_self _)⟩)

lemma Slot.spent_connect {n : SockId} {connect : Connect} {message : String}
    (h : (slot.connect n connect).2 = some message) : Spent (slot.connect n connect).1.attempts := by
  cases connect with
  | Ok => cases h
  | NoSocket m | Refused m | NotRegistered m =>
    exact .inl (mem_append_right _ (mem_singleton_self _))

lemma Slot.Logged.spent (h : slot.Logged) (hretried : slot.retried = true) :
    Spent (slot.log (.Failed slot.fd)).attempts := by
  cases h with
  | first _ hfirst _ => cases hretried.symm.trans hfirst
  | @second k k' hfd hne _ hlog => exact .inr ⟨k, k', hne, by rw [log, hlog, hfd]; rfl⟩
  | raised hmem _ => exact .inl (mem_append_left _ hmem)

lemma Inv.logged (h : Inv g s) (hslot : s.slots[idx]? = some slot) (howner : slot.owner = some id) :
    slot.Logged :=
  h.attempts.logged slot (mem_of_getElem? hslot) (by simp [howner])

lemma Inv.redial (h : Inv g s) (hslot : s.slots[idx]? = some slot) (howner : slot.owner = some id)
    (hfirst : slot.retried = false) (connect : Connect) :
    Move g s (s.connectSlot idx slot.again connect) := by
  have hstate : slot.state ≠ .Idle := h.state_ne_idle hslot howner
  exact Server.connectSlot_move slot.again hslot (by simp [howner]) rfl rfl hstate rfl rfl connect
    fun hfd hlog => hlog.again hfirst hfd connect

theorem Server.retryOrFail_quiet (h : Inv g s) (hslot : s.slots[idx]? = some slot)
    (howner : slot.owner = some id) (message : String) (io : Io) :
    Quiet g s (s.retryOrFail g idx slot message io) := by
  unfold retryOrFail
  dsimp only
  split_ifs with hretried
  · exact slotDone_error_quiet h hslot howner
      (show (slot.log (.Failed slot.fd)).closeFd.owner = some id from howner)
      (GivesUp.freed_of_fd rfl) (fun _ => (h.logged hslot howner).spent hretried) _
  · have hmove := h.redial hslot howner (Bool.eq_false_of_not_eq_true hretried) io.connect
    split
    · exact Quiet.single hmove rfl
    · rename_i hraised
      have howner' : (slot.again.connect s.nextSock io.connect).1.owner = some id :=
        (Slot.connect_owner ..).trans howner
      exact Quiet.head hmove rfl (slotDone_error_quiet (hmove.inv h) (slots_setSlot hslot)
        howner' howner' (Slot.connect_givesUp rfl _ _) (fun _ => Slot.spent_connect hraised) _)

/-! ## Driving a slot -/

theorem Server.respond_cases {p : HttpResponse.Parsed} (h : Inv g s)
    (hslot : s.slots[idx]? = some slot) (howner : slot.owner = some id)
    (hstate : slot.state = .Receiving) (hfd : slot.fd.isSome)
    (hp : HttpResponse.parse slot.resp = some p) (io : Io) :
    Quiet g s (s.respond g idx slot p io) ∨
      ∃ e, s.respond g idx slot p io = .error e ∧
        inferResponseOfBytes g.decoders slot.resp p.bodyPos p.bodyLen = .error e := by
  have hclosed {err : Error} (hkind : err.kind ≠ .ConnectionReset) :
      Quiet g s (s.slotDone g idx slot.closeFd (.error err) io.clock) :=
    slotDone_error_quiet h hslot howner (show slot.closeFd.owner = some id from howner)
      (GivesUp.freed_of_fd rfl) (fun hreset => absurd hreset hkind) _
  have hkept : GivesUp slot slot.freed := GivesUp.freed fun _ => by rw [hp]; rfl
  unfold respond
  dsimp only
  split_ifs
  · exact Or.inl (hclosed ErrorKind.noConfusion)
  · exact Or.inl (hclosed (classifyStatus_ne_connectionReset p.status))
  · split
    · rename_i e he
      exact Or.inr ⟨e, rfl, he⟩
    · rename_i infer hinfer
      refine Or.inl (slotDone_quiet h hslot howner howner hkept ?_ (by rintro _ ⟨⟩) io.clock)
      rintro _ ⟨⟩
      exact ⟨hstate, hfd, p, hp, hinfer⟩
    · exact Or.inl (slotDone_error_quiet h hslot howner howner hkept (by rintro ⟨⟩) _)

structure Server.Stands (s : Server) (idx : ℕ) (slot : Slot) (t : Server) : Prop where
  slot : t.slots[idx]? = some slot
  finished : t.finished = s.finished

lemma Server.driveSlot_sending {k : SockId} (hslot : s.slots[idx]? = some slot)
    (howner : slot.owner = some id) (hfd : slot.fd = some k) (hstate : slot.state = .Sending)
    (io : Io) :
    ∃ t, Move g s t ∧ s.Stands idx (slot.sendLoop io.sends).1 t ∧
      s.driveSlot g idx slot io = match (slot.sendLoop io.sends).2 with
        | none => .ok t
        | some message => t.retryOrFail g idx (slot.sendLoop io.sends).1 message io := by
  obtain ⟨hsame, hresp⟩ := slot.sendLoop_same io.sends
  have howner' : slot.owner ≠ none := by simp [howner]
  let r := (slot.sendLoop io.sends).1
  let t : Server := if r.state = .Receiving then
    { s.setSlot idx r with
      wires := Function.update s.wires k
        { (s.wires k) with sent := (s.wires k).sent ++ [slot.req] } }
    else s.setSlot idx r
  refine ⟨t, ?_, ?_, ?_⟩
  · simp only [t]
    split_ifs with hrecv
    · exact .drive hslot howner' hsame.owner hsame.req (by simp [hrecv])
        (.sent hfd (hsame.fd.trans hfd) hresp hstate hrecv) fun _ => hsame.logged
    · have hkept : r.state = slot.state := by
        rcases slot.sendLoop_state io.sends with hkept | ⟨hr, -⟩
        · exact hkept
        · exact absurd hr hrecv
      exact .drive hslot howner' hsame.owner hsame.req (by simp [hkept, hstate])
        (.keep hsame.fd hresp (by rw [hkept])) fun _ => hsame.logged
  · simp only [t]
    split_ifs <;> exact ⟨slots_setSlot hslot, rfl⟩
  · unfold driveSlot
    rw [hfd, hstate]
    rfl

lemma Server.driveSlot_receiving {k : SockId} (hslot : s.slots[idx]? = some slot)
    (howner : slot.owner = some id) (hfd : slot.fd = some k) (hstate : slot.state = .Receiving)
    (io : Io) :
    ∃ t, Move g s t ∧ s.Stands idx (slot.recvLoop io.reads).1 t ∧
      s.driveSlot g idx slot io = match (slot.recvLoop io.reads).2 with
        | .Wait => .ok t
        | .Failed message => t.retryOrFail g idx (slot.recvLoop io.reads).1 message io
        | .Complete p => t.respond g idx (slot.recvLoop io.reads).1 p io := by
  obtain ⟨hsame, hkept⟩ := slot.recvLoop_same io.reads
  obtain ⟨chunk, hchunk⟩ := slot.recvLoop_resp io.reads
  let r := (slot.recvLoop io.reads).1
  have hrstate : r.state = .Receiving := hkept.trans hstate
  refine ⟨{ s.setSlot idx r with
    wires := Function.update s.wires k { (s.wires k) with got := (s.wires k).got ++ chunk } },
    ?_, ⟨slots_setSlot hslot, rfl⟩, ?_⟩
  · exact .drive hslot (by simp [howner]) hsame.owner hsame.req (by simp [hrstate])
      (.received hfd (hsame.fd.trans hfd) hstate hrstate hchunk.symm) fun _ => hsame.logged
  · have hdrop : (slot.recvLoop io.reads).1.resp.drop slot.resp.length = chunk := by
      rw [← hchunk, drop_left]
    unfold driveSlot
    rw [hfd, hstate]
    dsimp only
    rw [hdrop]
    rfl

theorem Server.driveSlot_cases (h : Inv g s) (hslot : s.slots[idx]? = some slot)
    (howner : slot.owner = some id) (io : Io) :
    (∃ s', s.driveSlot g idx slot io = .ok s' ∧ Moves g s s') ∨
      ∃ e p, slot.state = .Receiving ∧ (slot.recvLoop io.reads).2 = .Complete p ∧
        s.driveSlot g idx slot io = .error e ∧
        inferResponseOfBytes g.decoders (slot.recvLoop io.reads).1.resp p.bodyPos p.bodyLen =
          .error e := by
  cases hfd : slot.fd with
  | none =>
    refine Or.inl ⟨s, ?_, .refl s⟩
    rw [driveSlot, hfd]
  | some k =>
    cases hstate : slot.state with
    | Idle => exact absurd hstate (h.state_ne_idle hslot howner)
    | Connecting =>
      refine Or.inl ?_
      unfold driveSlot
      rw [hfd, hstate]
      dsimp only
      split
      · exact ⟨_, rfl, .single (.drive hslot (by simp [howner]) rfl rfl SlotState.noConfusion
          (.keep hfd.symm rfl (iff_of_false SlotState.noConfusion (by simp [hstate])))
          fun _ => Slot.Same.logged ⟨rfl, rfl, hfd.symm, rfl, rfl⟩)⟩
      · obtain ⟨s', hs', hmoves, -⟩ := retryOrFail_quiet h hslot howner _ io
        exact ⟨s', hs', hmoves⟩
    | Sending =>
      obtain ⟨t, hmove, hstands, hdrive⟩ := driveSlot_sending (g := g) hslot howner hfd hstate io
      have howner' := (slot.sendLoop_same io.sends).1.owner.trans howner
      rw [hdrive]
      split
      · exact Or.inl ⟨t, rfl, .single hmove⟩
      · exact Or.inl ((retryOrFail_quiet (hmove.inv h) hstands.slot howner' _ io).moves hmove)
    | Receiving =>
      obtain ⟨t, hmove, hstands, hdrive⟩ := driveSlot_receiving (g := g) hslot howner hfd hstate io
      obtain ⟨hsame, hkept⟩ := slot.recvLoop_same io.reads
      have howner' := hsame.owner.trans howner
      rw [hdrive]
      split
      · exact Or.inl ⟨t, rfl, .single hmove⟩
      · exact Or.inl ((retryOrFail_quiet (hmove.inv h) hstands.slot howner' _ io).moves hmove)
      · rename_i p hp
        have hrfd : (slot.recvLoop io.reads).1.fd.isSome := by rw [hsame.fd, hfd]; rfl
        rcases respond_cases (hmove.inv h) hstands.slot howner' (hkept.trans hstate) hrfd
          (Slot.recvLoop_complete hp) io with hquiet | ⟨e, he, hdecode⟩
        · exact Or.inl (hquiet.moves hmove)
        · exact Or.inr ⟨e, p, rfl, hp, he, hdecode⟩

/-! ## The slots of a connection -/

lemma Server.foldlM_onOwned {f : Server → ℕ → Slot → Except Exn Server} {l : List ℕ}
    (hnone : ∀ j ∈ l, ∀ slot : Slot, s.slots[j]? = some slot → slot.owner ≠ some id) :
    l.foldlM (onOwned id f) s = .ok s := by
  induction l with
  | nil => rfl
  | cons j l ih =>
    have hj : onOwned id f s j = .ok s := by
      unfold onOwned
      split
      · rfl
      · rename_i slot hslot
        rw [if_neg (hnone j (mem_cons_self ..) slot hslot)]
    rw [foldlM_cons, hj]
    exact ih fun i hi => hnone i (mem_cons_of_mem _ hi)

lemma Inv.not_owned (h : Inv g s) (hc : s.conns id = some c) (hnone : c.pending = none) :
    ∀ (idx : ℕ) (slot : Slot), s.slots[idx]? = some slot → slot.owner ≠ some id :=
  fun _ _ hslot howner =>
  h.assigned.held_ne (Server.pend_of_none hc hnone) _ _ (Server.held_of_slot hslot howner)

lemma Inv.owned (h : Inv g s) (hc : s.conns id = some c) (hp : c.pending = some p) :
    ∃ (idx : ℕ) (slot : Slot), s.slots[idx]? = some slot ∧ slot.owner = some id := by
  obtain ⟨idx, hheld⟩ := h.assigned.held_of_open id _ (Server.pend_of_pending hc hp)
  obtain ⟨slot, hslot, hheld⟩ := Option.bind_eq_some_iff.mp hheld
  obtain ⟨owner, howner, heq⟩ := Option.map_eq_some_iff.mp hheld
  exact ⟨idx, slot, hslot, howner.trans (congrArg some (Prod.mk.inj heq).1)⟩

lemma Inv.owned_unique (h : Inv g s) {idx' : ℕ} (hslot : s.slots[idx]? = some slot)
    (howner : slot.owner = some id) (hslot' : s.slots[idx']? = some slot')
    (howner' : slot'.owner = some id) : idx' = idx :=
  h.assigned.unique _ _ _ _ _ (Server.held_of_slot hslot' howner') (Server.held_of_slot hslot howner)

lemma Server.forOwned_one {f : Server → ℕ → Slot → Except Exn Server} (h : Inv g s)
    (hslot : s.slots[idx]? = some slot) (howner : slot.owner = some id)
    (hf : f s idx slot = .ok s') (hs' : s'.slots = s.slots.set idx slot') (hnone : slot'.owner = none) :
    s.forOwned id f = .ok s' := by
  have hmem : idx ∈ List.range s.slots.length :=
    mem_range.mpr (List.getElem?_eq_some_iff.mp hslot).1
  obtain ⟨l₁, l₂, hl, hnotMem⟩ := eq_append_cons_of_mem hmem
  have hbefore : l₁.foldlM (onOwned id f) s = .ok s := foldlM_onOwned fun j hj a ha hown =>
    hnotMem (h.owned_unique hslot howner ha hown ▸ hj)
  have hone : onOwned id f s idx = .ok s' := by
    rw [onOwned, hslot]
    dsimp only
    rw [if_pos howner, hf]
  have hafter : l₂.foldlM (onOwned id f) s' = .ok s' := foldlM_onOwned fun j _ a ha hown => by
    rw [hs', PoolInv.getElem?_set hslot] at ha
    split_ifs at ha with hj
    · cases ha
      simp [hnone] at hown
    · exact hj (h.owned_unique hslot howner ha hown)
  rw [forOwned, hl, foldlM_append, hbefore]
  show (idx :: l₂).foldlM (onOwned id f) s = .ok s'
  rw [foldlM_cons, hone]
  exact hafter

theorem Server.closeConn_quiet (h : Inv g s) (hc : s.conns id = some c) :
    Quiet g s (s.closeConn id) := by
  unfold closeConn
  cases hp : c.pending with
  | none =>
    rw [forOwned, foldlM_onOwned fun j _ => h.not_owned hc hp j]
    exact Quiet.single (.close hc hp) rfl
  | some p =>
    obtain ⟨idx, slot, hslot, howner⟩ := h.owned hc hp
    have hdrop : ((s.freeSlots.push idx).map fun free =>
        { s.setSlot idx slot.dropped with freeSlots := free }) = .ok { s.setSlot idx slot.dropped with
          freeSlots := ⟨idx :: s.freeSlots.data, s.freeSlots.capacity⟩ } := by
      rw [h.pool.push hslot (by simp [howner])]
      rfl
    rw [forOwned_one h hslot howner hdrop rfl rfl]
    exact Quiet.single (.abandon hslot howner ⟨rfl, rfl, rfl, Or.inl rfl⟩ hc) rfl

theorem Server.timeoutConn_quiet (h : Inv g s) (hc : s.conns id = some c) (now : Ms) (gen : ℕ)
    (io : Io) : Quiet g s (s.timeoutConn id c now gen io) := by
  unfold timeoutConn
  cases hp : c.pending with
  | none => exact Quiet.refl s
  | some p =>
    dsimp only
    split_ifs with hgen
    · exact Quiet.refl s
    · obtain ⟨idx, slot, hslot, howner⟩ := h.owned hc hp
      have hfree := freeSlot_eq h hslot howner (show slot.closeFd.owner = some id from howner)
      have hresult : ∀ infer, Except.error (makeTransportError .Timeout "inference timed out"
          (now - p.startedMs)) = .ok infer → Decoded g slot infer := by
        rintro _ ⟨⟩
      rw [forOwned_one h hslot howner hfree rfl rfl]
      exact Quiet.single (.finish io.clock hslot howner (GivesUp.freed_of_fd rfl) hc hp hresult) rfl

/-! ## Batches -/

lemma Server.setSlot_setSlot (s : Server) (idx : ℕ) (a b : Slot) :
    (s.setSlot idx a).setSlot idx b = s.setSlot idx b := by
  simp [setSlot, set_set]

lemma Server.slotDone_setSlot (s : Server) (idx : ℕ) (a b : Slot) (result : InferResult)
    (clock : Ms) :
    (s.setSlot idx a).slotDone g idx b result clock = s.slotDone g idx b result clock := by
  unfold slotDone freeSlot
  rw [setSlot_setSlot, setSlot_setSlot]
  rfl

lemma Server.submit_failed {data : List ℕ} (h : Inv g s) (hc : s.conns id = some c)
    (hbatch : Batch c p) (hfree : s.freeSlots.data = idx :: data)
    (hslot : s.slots[idx]? = some slot) (failed : Slot) (nextSock : SockId)
    (htakes : TakesOn g s id c slot { failed with state := .Connecting } nextSock)
    (hspent : Spent failed.attempts) (err : Error) (clock : Ms) :
    Quiet g s (slotDone g { (s.handled id ⟨c.drain.setPending (some p), [], []⟩).setSlot idx failed
      with freeSlots := ⟨data, s.freeSlots.capacity⟩, nextSock := nextSock } idx failed (.error err)
      clock) := by
  let t : Server := { s.handled id ⟨c.drain.setPending (some p), [], []⟩ with
    freeSlots := ⟨data, s.freeSlots.capacity⟩, nextSock := nextSock }
  have hmove : Move g s (t.setSlot idx { failed with state := .Connecting }) :=
    .submit hc hbatch hfree hslot htakes
  have howner : failed.owner = some id := htakes.owner
  have hdone : Quiet g (t.setSlot idx { failed with state := .Connecting })
      ((t.setSlot idx { failed with state := .Connecting }).slotDone g idx failed (.error err)
        clock) :=
    slotDone_error_quiet (hmove.inv h) (slots_setSlot hslot) howner howner
      ⟨rfl, rfl, rfl, Or.inr ⟨rfl, nofun⟩⟩ (fun _ => hspent) clock
  rw [slotDone_setSlot] at hdone
  show Quiet g s ((t.setSlot idx failed).slotDone g idx failed (.error err) clock)
  rw [slotDone_setSlot]
  exact Quiet.head hmove rfl hdone

theorem Server.submitInference_quiet (h : Inv g s) (hc : s.conns id = some c)
    (hbatch : Batch c p) (io : Io) : Quiet g s (s.submitInference g id c p io) := by
  unfold submitInference
  cases hfree : s.freeSlots.data with
  | nil =>
    rw [IntStack.pop, hfree]
    exact Quiet.single (.refuse hc hbatch rfl) rfl
  | cons idx data =>
    obtain ⟨slot, hslot, -⟩ := (h.pool.mem_iff idx).mp (by simp [hfree])
    rw [IntStack.pop, hfree]
    dsimp only
    rw [hslot]
    dsimp only
    let taken : Slot := { slot with owner := some id, startedMs := p.startedMs, retried := false,
                                    req := request g.config c.pcm, reqPos := 0, resp := [],
                                    attempts := [] }
    have hlogged {slot' : Slot} (hretried : slot'.retried = false) (hlog : slot'.attempts = [.Raised]) :
        slot'.Logged := .raised (by simp [hlog]) (by simp [hretried, hlog])
    have hspent : Spent [.Raised] := .inl (mem_singleton_self _)
    have htimers : Move g s { s with timers :=
        ⟨p.startedMs + requestTimeoutMs, id, .Timeout, p.timeoutGen⟩ :: s.timers } := .timers _
    have h' := htimers.inv h
    refine Quiet.head htimers rfl ?_
    split_ifs with hfd
    · cases io.connect with
      | NoSocket m =>
        exact submit_failed h' hc hbatch hfree hslot (taken.log .Raised) s.nextSock
          ⟨rfl, rfl, rfl, Or.inl rfl, Or.inl ⟨hfd, le_rfl⟩, hlogged rfl rfl⟩ hspent _ _
      | Refused m =>
        exact submit_failed h' hc hbatch hfree hslot
          ({ taken with fd := some s.nextSock, state := .Connecting }.closeFd.log .Raised)
          (s.nextSock + 1)
          ⟨rfl, rfl, rfl, Or.inl rfl, Or.inl ⟨rfl, Nat.le_succ _⟩, hlogged rfl rfl⟩ hspent _ _
      | NotRegistered m =>
        exact submit_failed h' hc hbatch hfree hslot
          ({ taken with fd := some s.nextSock, state := .Connecting }.log .Raised) (s.nextSock + 1)
          ⟨rfl, rfl, rfl, Or.inl rfl, Or.inr (Or.inr ⟨rfl, rfl⟩), hlogged rfl rfl⟩ hspent _ _
      | Ok =>
        exact Quiet.single (.submit hc hbatch hfree hslot
          ⟨rfl, rfl, rfl, Or.inl rfl, Or.inr (Or.inr ⟨rfl, rfl⟩), .first rfl rfl rfl⟩) rfl
    · obtain ⟨k, hk⟩ := Option.ne_none_iff_exists'.mp hfd
      exact Quiet.single (.submit hc hbatch hfree hslot ⟨rfl, rfl, rfl, Or.inr rfl,
        Or.inr (Or.inl ⟨rfl, le_rfl⟩), .first hk rfl rfl⟩) rfl

theorem Server.flushConn_quiet (h : Inv g s) (hc : s.conns id = some c) (now : Ms) (io : Io) :
    Quiet g s (s.flushConn g id c now io) := by
  unfold flushConn
  split_ifs with hclose
  · exact Quiet.refl s
  · let next : Conn := { c with nextFlushMs := c.nextFlushMs + g.config.flushIntervalMs,
                                flushGen := c.flushGen + 1 }
    let t : Server := { s.handled id ⟨next, [], []⟩ with
      timers := ⟨next.nextFlushMs, id, .Flush, next.flushGen⟩ :: s.timers }
    have hnext : c.Keeps ⟨next, [], []⟩ := Keeps.of_eq rfl rfl rfl rfl rfl rfl (fun h => h) (by simp)
    have hfirst : Move g s (s.handled id ⟨next, [], []⟩) := .handler hc hnext
    have hsecond : Move g (s.handled id ⟨next, [], []⟩) t := .timers _
    refine Quiet.head hfirst rfl (Quiet.head hsecond rfl ?_)
    have ht := hsecond.inv (hfirst.inv h)
    have hct : t.conns id = some next := Function.update_self ..
    show Quiet g t (if c.pending.isSome ∨ c.batchFrames = 0 then .ok t else _)
    split_ifs with hwait
    · exact Quiet.refl t
    · rw [not_or] at hwait
      let p := batchOf next (max 0 (now - c.nextFlushMs)) now
      have htimeout : next.Keeps ⟨{ next with timeoutGen := p.timeoutGen }, [], []⟩ :=
        Keeps.of_eq rfl rfl rfl rfl rfl rfl (fun h => h) (by simp)
      have hthird : Move g t (t.handled id ⟨{ next with timeoutGen := p.timeoutGen }, [], []⟩) :=
        .handler hct htimeout
      exact Quiet.head hthird rfl (submitInference_quiet (hthird.inv ht) (Function.update_self ..)
        ⟨Option.not_isSome_iff_eq_none.mp hwait.1, Nat.pos_of_ne_zero hwait.2, rfl, rfl⟩ io)

/-! ## Events -/

theorem Server.processTimer_quiet (h : Inv g s) (t : Timer) (now : Ms) (io : Io) :
    Quiet g s (s.processTimer g t now io) := by
  unfold processTimer
  split
  · exact Quiet.refl s
  · rename_i c hc
    split_ifs
    · exact flushConn_quiet h hc now io
    · exact timeoutConn_quiet h hc now t.gen io
    · exact Quiet.refl s

theorem Server.acceptLoop_quiet (accepts : List (Ms × Ms)) :
    ∀ s : Server, Quiet g s (.ok (s.acceptLoop g accepts)) := by
  induction accepts with
  | nil => exact Quiet.refl
  | cons accepted accepts ih =>
    intro s
    obtain ⟨now, jitter⟩ := accepted
    have haccept : Move g s { s with
        conns := Function.update s.conns s.nextConnId (some (Conn.new g.config now jitter))
        nextConnId := s.nextConnId + 1 } := .accept now jitter
    rw [acceptLoop]
    exact Quiet.head haccept rfl (Quiet.head (.timers (⟨(Conn.new g.config now jitter).nextFlushMs,
      s.nextConnId, .Flush, (Conn.new g.config now jitter).flushGen⟩ :: s.timers)) rfl (ih _))

lemma Server.settle_quiet {r : Option Handled} (h : Inv g s) (hc : s.conns id = some c)
    (hr : ∀ r', r = some r' → c.Keeps r') : Quiet g s (s.settle id r) := by
  cases r with
  | none => exact closeConn_quiet h hc
  | some r => exact Quiet.single (.handler hc (hr r rfl)) rfl

lemma Server.writeConn_quiet (h : Inv g s) (id : ℕ) (io : Io) : Quiet g s (s.writeConn id io) := by
  unfold writeConn
  split
  · exact Quiet.refl s
  · rename_i c hc
    refine settle_quiet h hc fun r hr => ?_
    obtain ⟨c', hc', rfl⟩ := Option.map_eq_some_iff.mp hr
    exact write_keeps hc'

theorem Server.connEvent_quiet (h : Inv g s) (id events : ℕ) (io : Io) :
    Quiet g s (s.connEvent g id events io) := by
  unfold connEvent
  split
  · exact Quiet.refl s
  · rename_i c hc
    split
    · exact closeConn_quiet h hc
    · refine Quiet.bind ?_ fun t hmoves => ?_
      · split_ifs
        · exact settle_quiet h hc fun r hr => read_keeps hr
        · exact Quiet.refl s
      · split_ifs
        · exact writeConn_quiet (hmoves.inv h) id io
        · exact Quiet.refl t

lemma Server.driveSlot_moves (h : Inv g s) (hslot : s.slots[idx]? = some slot)
    (howner : slot.owner = some id) {io : Io} (hok : s.driveSlot g idx slot io = .ok s') :
    Moves g s s' := by
  rcases driveSlot_cases h hslot howner io with ⟨t, ht, hmoves⟩ | ⟨e, p, -, -, he, -⟩
  · cases hok.symm.trans ht
    exact hmoves
  · cases hok.symm.trans he

lemma Server.slotEventRest_quiet (h : Inv g s) (idx events : ℕ) (io : Io) :
    Quiet g s (s.slotEventRest g idx events true io) := by
  unfold slotEventRest
  split
  · exact Quiet.refl s
  · rename_i slot hslot
    rw [if_pos rfl]
    split_ifs with hcan herr
    · obtain ⟨id, howner⟩ := Slot.owner_of_canHandleEvent hcan
      exact retryOrFail_quiet h hslot howner _ io
    · exact Quiet.refl s
    · exact Quiet.refl s

theorem Server.slotEvent_moves (h : Inv g s) {events : ℕ} {io : Io}
    (hok : s.slotEvent g idx events io = .ok s') : Moves g s s' := by
  unfold slotEvent at hok
  split at hok
  · cases hok
    exact .refl s
  · rename_i slot hslot
    split_ifs at hok with hcan hread
    · obtain ⟨id, howner⟩ := Slot.owner_of_canHandleEvent hcan
      obtain ⟨t, hdrive, hok⟩ := exists_ok_of_bind hok
      have hmoves := driveSlot_moves h hslot howner hdrive
      obtain ⟨s₂, hs₂, hrest, hw⟩ := slotEventRest_quiet (hmoves.inv h) idx events io
      cases hok.symm.trans hs₂
      exact hmoves.trans hrest hw
    · obtain ⟨id, howner⟩ := Slot.owner_of_canHandleEvent hcan
      unfold slotEventRest at hok
      rw [hslot] at hok
      dsimp only at hok
      rw [if_pos hcan, if_neg Bool.false_ne_true] at hok
      split_ifs at hok
      · obtain ⟨s₂, hs₂, hmoves, -⟩ := retryOrFail_quiet h hslot howner "inference socket error" io
        cases hok.symm.trans hs₂
        exact hmoves
      · exact driveSlot_moves h hslot howner hok
    · cases hok
      exact .refl s

theorem Server.handleEvent_moves (h : Inv g s) {token events : ℕ} {io : Io}
    (hok : s.handleEvent g token events io = .ok s') : Moves g s s' := by
  have hquiet : ∀ r, Quiet g s r → r = .ok s' → Moves g s s' := by
    rintro r ⟨t, rfl, hmoves, -⟩ ht
    cases ht
    exact hmoves
  unfold handleEvent at hok
  split_ifs at hok
  · exact hquiet _ (acceptLoop_quiet io.accepts s) hok
  · exact slotEvent_moves h hok
  · exact hquiet _ (connEvent_quiet h _ events io) hok
  · exact hquiet _ (Quiet.refl s) hok

theorem Server.step_moves (h : Inv g s) {e : Event} (hstep : s.step g e = some s') :
    Moves g s s' := by
  cases e with
  | Timer t now io =>
    rw [step] at hstep
    split_ifs at hstep
    have htimers : Move g s { s with timers := s.timers.erase t } := .timers _
    obtain ⟨s₂, hs₂, hmoves, hw⟩ := processTimer_quiet (htimers.inv h) t now io
    rw [hs₂] at hstep
    cases hstep
    exact .head htimers hmoves hw
  | Ready token events io =>
    rw [step] at hstep
    cases hok : s.handleEvent g token events io with
    | error e =>
      rw [hok] at hstep
      cases hstep
    | ok t =>
      rw [hok] at hstep
      cases hstep
      exact handleEvent_moves h hok

lemma Server.create_inv (g : Setup) : Inv g (create g) where
  pool := PoolInv.init _
  conns := ConnsInv.init
  assigned := by
    have hheld : (create g).held = fun _ => none := by
      funext idx
      simp [held, create, List.getElem?_replicate, Slot.new]
    rw [hheld]
    exact Assigned.empty
  attempts := by
    have hnew : ∀ slot ∈ (create g).slots, slot = Slot.new := fun _ => eq_of_mem_replicate
    refine ⟨fun slot hslot => ?_, fun slot hslot howner => ?_, by simp [create]⟩
    · simp [hnew slot hslot, Slot.new]
    · rw [hnew slot hslot] at howner
      exact absurd rfl howner

theorem server_inductive (g : Setup) : (server g).Inductive (Inv g) where
  init s hs := by
    rw [show s = Server.create g from hs]
    exact Server.create_inv g
  step s e s' hs hstep := (Server.step_moves hs hstep).inv hs

end

end SttBench.OxcamlEpoll
