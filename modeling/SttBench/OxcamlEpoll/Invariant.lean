import SttBench.Core.Assignment
import SttBench.OxcamlEpoll.Server

/-!
# ocaml-oxcaml-epoll: what a step can do, and what it keeps

A step is a chain of a few kinds of moves; each keeps the invariant.
-/

namespace SttBench.OxcamlEpoll

open Ascii Tiling Function Option List

/-! ## The pool -/

structure PoolInv (slots : List Slot) (free : IntStack) : Prop where
  nodup : free.data.Nodup
  capacity : free.capacity = slots.length
  mem_iff : ∀ idx, idx ∈ free.data ↔ ∃ slot, slots[idx]? = some slot ∧ slot.owner = none
  idle_iff : ∀ slot ∈ slots, slot.state = .Idle ↔ slot.owner = none

namespace PoolInv

variable {slots : List Slot} {free : IntStack} {idx : ℕ} {slot slot' : Slot}

lemma init (n : ℕ) : PoolInv (List.replicate n Slot.new) (IntStack.init n) where
  nodup := nodup_range
  capacity := (length_replicate ..).symm
  mem_iff idx := by
    simp [IntStack.init, List.getElem?_replicate, Slot.new]
  idle_iff slot h := by
    rw [eq_of_mem_replicate h]
    simp [Slot.new]

lemma getElem?_set (hslot : slots[idx]? = some slot) (j : ℕ) :
    (slots.set idx slot')[j]? = if j = idx then some slot' else slots[j]? := by
  obtain ⟨hlt, -⟩ := List.getElem?_eq_some_iff.mp hslot
  by_cases hj : j = idx
  · rw [if_pos hj, hj, List.getElem?_set_self hlt]
  · rw [if_neg hj, List.getElem?_set_ne (Ne.symm hj)]

lemma mem_set (h : slot ∈ slots.set idx slot') : slot ∈ slots ∨ slot = slot' :=
  mem_or_eq_of_mem_set h

lemma push (h : PoolInv slots free) (hslot : slots[idx]? = some slot) (howner : slot.owner ≠ none) :
    free.push idx = .ok ⟨idx :: free.data, free.capacity⟩ := by
  have hnotMem : idx ∉ free.data := fun hmem => by
    obtain ⟨slot', hslot', hnone⟩ := (h.mem_iff idx).mp hmem
    rw [hslot] at hslot'
    exact howner (Option.some.inj hslot' ▸ hnone)
  have hnodup : (idx :: free.data).Nodup := nodup_cons.mpr ⟨hnotMem, h.nodup⟩
  have hsub : (idx :: free.data) ⊆ List.range slots.length := by
    intro j hj
    rw [mem_range]
    rcases mem_cons.mp hj with rfl | hj
    · exact (List.getElem?_eq_some_iff.mp hslot).1
    · obtain ⟨_, hslot', -⟩ := (h.mem_iff j).mp hj
      exact (List.getElem?_eq_some_iff.mp hslot').1
  have hlen := (hnodup.subperm hsub).length_le
  rw [length_range, length_cons] at hlen
  rw [IntStack.push, if_neg]
  rw [h.capacity]
  omega

lemma set (h : PoolInv slots free) (hslot : slots[idx]? = some slot)
    (howner : slot'.owner = slot.owner) (hidle : slot'.state = .Idle ↔ slot'.owner = none) :
    PoolInv (slots.set idx slot') free where
  nodup := h.nodup
  capacity := h.capacity.trans (length_set ..).symm
  mem_iff j := by
    rw [h.mem_iff, getElem?_set hslot]
    by_cases hj : j = idx
    · subst hj
      simp [hslot, howner]
    · rw [if_neg hj]
  idle_iff a ha := by
    rcases mem_set ha with ha | rfl
    · exact h.idle_iff a ha
    · exact hidle

lemma take {data : List ℕ} (h : PoolInv slots free) (hfree : free.data = idx :: data)
    (hslot : slots[idx]? = some slot) (howner : slot'.owner ≠ none) (hstate : slot'.state ≠ .Idle) :
    PoolInv (slots.set idx slot') ⟨data, free.capacity⟩ := by
  have hnodup := hfree ▸ h.nodup
  obtain ⟨hnotMem, hdata⟩ := nodup_cons.mp hnodup
  refine ⟨hdata, h.capacity.trans (length_set ..).symm, ?_, ?_⟩
  · intro j
    rw [getElem?_set hslot]
    by_cases hj : j = idx
    · subst hj
      simp [hnotMem, howner]
    · rw [if_neg hj, ← h.mem_iff, hfree]
      simp [hj]
  · intro a ha
    rcases mem_set ha with ha | rfl
    · exact h.idle_iff a ha
    · simp [howner, hstate]

lemma put (h : PoolInv slots free) (hslot : slots[idx]? = some slot) (howner : slot.owner ≠ none)
    (hnone : slot'.owner = none) (hidle : slot'.state = .Idle) :
    PoolInv (slots.set idx slot') ⟨idx :: free.data, free.capacity⟩ := by
  refine ⟨?_, h.capacity.trans (length_set ..).symm, ?_, ?_⟩
  · refine nodup_cons.mpr ⟨fun hmem => ?_, h.nodup⟩
    obtain ⟨a, ha, hanone⟩ := (h.mem_iff idx).mp hmem
    rw [hslot] at ha
    exact howner (Option.some.inj ha ▸ hanone)
  · intro j
    rw [getElem?_set hslot, mem_cons, h.mem_iff]
    by_cases hj : j = idx
    · simp [hj, hnone]
    · simp [hj]
  · intro a ha
    rcases mem_set ha with ha | rfl
    · exact h.idle_iff a ha
    · simp [hnone, hidle]

end PoolInv

/-! ## The connections -/

structure ConnsInv (conns : ℕ → Option Conn) (traces : ℕ → Trace) (next : ℕ) : Prop where
  conn : ∀ id c, conns id = some c → c.Inv (traces id)
  conn_lt : ∀ id c, conns id = some c → id < next
  trace_new : ∀ id, next ≤ id → traces id = ⟨[], []⟩
  tiles : ∀ id, ∃ k ≤ (traces id).frames.length + 1, TilesFrom 1 (traces id).ranges k

namespace ConnsInv

variable {conns : ℕ → Option Conn} {traces : ℕ → Trace} {next id : ℕ} {c : Conn} {r : Handled}

lemma init : ConnsInv (fun _ => none) (fun _ => ⟨[], []⟩) 1 where
  conn := by simp
  conn_lt := by simp
  trace_new _ _ := rfl
  tiles _ := ⟨1, le_rfl, rfl⟩

lemma accept (h : ConnsInv conns traces next) (config : Config) (now jitter : Ms) :
    ConnsInv (update conns next (some (Conn.new config now jitter))) traces (next + 1) where
  conn id c hc := by
    obtain ⟨rfl, rfl⟩ | ⟨-, hc⟩ := Tables.update_some_iff.mp hc
    · rw [h.trace_new id le_rfl]
      exact Conn.Inv.new config now jitter
    · exact h.conn id c hc
  conn_lt id c hc := by
    obtain ⟨rfl, -⟩ | ⟨-, hc⟩ := Tables.update_some_iff.mp hc
    · exact Nat.lt_succ_self _
    · exact Nat.lt_succ_of_lt (h.conn_lt id c hc)
  trace_new id hid := h.trace_new id (Nat.le_of_succ_le hid)
  tiles := h.tiles

lemma handled (h : ConnsInv conns traces next) (hc : conns id = some c)
    (hinv : r.conn.Inv ((traces id).extend r))
    (hout : r.conn.closeAfterWrite → ∀ o ∈ r.out, o.range? = none) :
    ConnsInv (update conns id (some r.conn))
      (update traces id ((traces id).extend r)) next := by
  have hlt := h.conn_lt id c hc
  refine ⟨?_, ?_, ?_, ?_⟩
  · intro j d hd
    obtain ⟨rfl, rfl⟩ | ⟨hj, hd⟩ := Tables.update_some_iff.mp hd
    · rwa [update_self]
    · rw [update_of_ne hj]
      exact h.conn j d hd
  · intro j d hd
    obtain ⟨rfl, -⟩ | ⟨-, hd⟩ := Tables.update_some_iff.mp hd
    · exact hlt
    · exact h.conn_lt j d hd
  · intro j hj
    rw [update_of_ne (by omega)]
    exact h.trace_new j hj
  · intro j
    by_cases hj : j = id
    · subst hj
      rw [update_self]
      by_cases hclose : r.conn.closeAfterWrite
      · obtain ⟨k, hk, htiles⟩ := h.tiles j
        have hranges : ((traces j).extend r).ranges = (traces j).ranges := by
          rw [Trace.ranges_extend, filterMap_eq_nil_iff.mpr (hout hclose), append_nil]
        refine ⟨k, hk.trans ?_, hranges ▸ htiles⟩
        simp [Trace.extend]
      · exact ⟨_, hinv.unanswered_le, hinv.tiles (Bool.eq_false_iff.mpr hclose)⟩
    · rw [update_of_ne hj]
      exact h.tiles j

lemma close (h : ConnsInv conns traces next) (id : ℕ) :
    ConnsInv (update conns id none) traces next where
  conn j c hc := h.conn j c (Tables.update_none_iff.mp hc).2
  conn_lt j c hc := h.conn_lt j c (Tables.update_none_iff.mp hc).2
  trace_new := h.trace_new
  tiles := h.tiles

end ConnsInv

/-! ## Attempts -/

inductive Slot.Logged (slot : Slot) : Prop
  | first {k : SockId} (hfd : slot.fd = some k) (hretried : slot.retried = false)
      (hlog : slot.attempts = [])
  | second {k k' : SockId} (hfd : slot.fd = some k') (hne : k ≠ k') (hretried : slot.retried = true)
      (hlog : slot.attempts = [.Failed (some k)])
  | raised (hraised : .Raised ∈ slot.attempts)
      (hretried : slot.retried = true ↔ ∃ fd, .Failed fd ∈ slot.attempts)

def Finish.isReset (f : Finish) : Bool :=
  match f.result with
  | .error e => e.kind = .ConnectionReset
  | .ok _ => false

def Spent (log : List Attempt) : Prop :=
  .Raised ∈ log ∨ ∃ k k', k ≠ k' ∧ log = [.Failed (some k), .Failed (some k')]

structure AttemptsInv (slots : List Slot) (nextSock : SockId) (finished : List Finish) : Prop where
  fd_lt : ∀ slot ∈ slots, ∀ k, slot.fd = some k → k < nextSock
  logged : ∀ slot ∈ slots, slot.owner ≠ none → slot.Logged
  spent : ∀ f ∈ finished, f.isReset → Spent f.attempts

lemma Slot.Logged.retried_iff {slot : Slot} (h : slot.Logged) :
    slot.retried = true ↔ ∃ fd, .Failed fd ∈ slot.attempts := by
  cases h with
  | first _ hretried hlog | second _ _ hretried hlog => simp [hretried, hlog]
  | raised _ hretried => exact hretried

lemma AttemptsInv.set {slots : List Slot} {n n' : SockId} {finished : List Finish} {idx : ℕ}
    {slot' : Slot} (h : AttemptsInv slots n finished) (hn : n ≤ n')
    (hfd : ∀ k, slot'.fd = some k → k < n') (hlog : slot'.owner ≠ none → slot'.Logged) :
    AttemptsInv (slots.set idx slot') n' finished where
  fd_lt slot hslot k hk := by
    rcases PoolInv.mem_set hslot with hold | rfl
    · exact (h.fd_lt slot hold k hk).trans_le hn
    · exact hfd k hk
  logged slot hslot howner := by
    rcases PoolInv.mem_set hslot with hold | rfl
    · exact h.logged slot hold howner
    · exact hlog howner
  spent := h.spent

/-! ## Moves -/

namespace Server

variable (g : Setup)

def held (s : Server) (idx : ℕ) : Option (ℕ × Bytes) :=
  (s.slots[idx]?).bind fun slot => slot.owner.map (·, slot.req)

def requestFor (s : Server) (id : ℕ) (r : Range) : Bytes := request g.config ((s.traces id).pcm r)

def pend (s : Server) (id : ℕ) : Option Bytes :=
  (s.conns id).bind fun c => c.pending.map fun p => s.requestFor g id ⟨p.oldestSeq, p.newestSeq⟩

def answerFor (c : Conn) (p : Pending) (result : InferResult) (clock : Ms) : Out :=
  match result with
  | .ok infer => .Partial (partialFor g p infer)
  | .error err => .Error (errorFor c p err clock)

end Server

inductive Drives (s : Server) (slot slot' : Slot) : (SockId → Wire) → SockId → Prop
  | drop {n : SockId} (hfd : slot'.fd = none) (hn : s.nextSock ≤ n) : Drives s slot slot' s.wires n
  | keep (hfd : slot'.fd = slot.fd) (hresp : slot'.resp = slot.resp)
      (hstate : slot'.state = .Receiving ↔ slot.state = .Receiving) :
      Drives s slot slot' s.wires s.nextSock
  | dial (hfd : slot'.fd = some s.nextSock) (hresp : slot'.resp = [])
      (hstate : slot'.state = .Connecting) : Drives s slot slot' s.wires (s.nextSock + 1)
  | sent {k : SockId} (hk : slot.fd = some k) (hfd : slot'.fd = some k)
      (hresp : slot'.resp = slot.resp) (hsending : slot.state = .Sending)
      (hstate : slot'.state = .Receiving) :
      Drives s slot slot' (update s.wires k
        { (s.wires k) with sent := (s.wires k).sent ++ [slot.req] }) s.nextSock
  | received {k : SockId} {chunk : Bytes} (hk : slot.fd = some k) (hfd : slot'.fd = some k)
      (hreceiving : slot.state = .Receiving) (hstate : slot'.state = .Receiving)
      (hresp : slot'.resp = slot.resp ++ chunk) :
      Drives s slot slot' (update s.wires k
        { (s.wires k) with got := (s.wires k).got ++ chunk }) s.nextSock

def Decoded (g : Setup) (slot : Slot) (infer : InferResponse) : Prop :=
  slot.state = .Receiving ∧ slot.fd.isSome ∧ ∃ p, HttpResponse.parse slot.resp = some p ∧
    inferResponseOfBytes g.decoders slot.resp p.bodyPos p.bodyLen = .ok (.ok infer)

structure GivesUp (slot slot' : Slot) : Prop where
  owner : slot'.owner = none
  state : slot'.state = .Idle
  resp : slot'.resp = []
  fd : slot'.fd = none ∨ slot'.fd = slot.fd ∧
    (slot.state = .Receiving → (HttpResponse.parse slot.resp).isSome)

structure TakesOn (g : Setup) (s : Server) (id : ℕ) (c : Conn) (slot slot' : Slot)
    (nextSock : SockId) : Prop where
  owner : slot'.owner = some id
  req : slot'.req = request g.config c.pcm
  resp : slot'.resp = []
  state : slot'.state = .Connecting ∨ slot'.state = .Sending
  fd : slot'.fd = none ∧ s.nextSock ≤ nextSock ∨ slot'.fd = slot.fd ∧ s.nextSock ≤ nextSock ∨
    slot'.fd = some s.nextSock ∧ nextSock = s.nextSock + 1
  logged : slot'.Logged

structure Batch (c : Conn) (p : Pending) : Prop where
  none : c.pending = none
  pos : 0 < c.batchFrames
  oldest : p.oldestSeq = c.batchOldestSeq
  newest : p.newestSeq = c.batchNewestSeq

inductive Move (g : Setup) (s : Server) : Server → Prop
  | timers (timers : List Timer) : Move g s { s with timers := timers }
  | record (f : Finish) (hf : f.isReset → Spent f.attempts) :
      Move g s { s with finished := s.finished ++ [f] }
  | handler {id : ℕ} {c : Conn} {r : Handled} (hc : s.conns id = some c) (hr : c.Keeps r) :
      Move g s (s.handled id r)
  | accept (now jitter : Ms) :
      Move g s { s with
        conns := update s.conns s.nextConnId (some (Conn.new g.config now jitter))
        nextConnId := s.nextConnId + 1 }
  | drive {idx : ℕ} {slot slot' : Slot} {wires : SockId → Wire} {nextSock : SockId}
      (hslot : s.slots[idx]? = some slot) (howner : slot.owner ≠ none)
      (howner' : slot'.owner = slot.owner) (hreq : slot'.req = slot.req)
      (hstate : slot'.state ≠ .Idle) (hd : Drives s slot slot' wires nextSock)
      (hlog : (∀ k, slot.fd = some k → k < s.nextSock) → slot.Logged → slot'.Logged) :
      Move g s { s.setSlot idx slot' with wires := wires, nextSock := nextSock }
  | finish {idx id : ℕ} {slot slot' : Slot} {c : Conn} {p : Pending} {result : InferResult}
      (clock : Ms) (hslot : s.slots[idx]? = some slot) (howner : slot.owner = some id)
      (hgives : GivesUp slot slot') (hc : s.conns id = some c) (hp : c.pending = some p)
      (hresult : ∀ infer, result = .ok infer → Decoded g slot infer) :
      Move g s (Server.handled
        { s.setSlot idx slot' with freeSlots := ⟨idx :: s.freeSlots.data, s.freeSlots.capacity⟩ } id
        ((c.setPending none).enqueueGeneratedText (Server.answerFor g c p result clock)))
  | submit {idx id : ℕ} {data : List ℕ} {slot slot' : Slot} {c : Conn} {p : Pending}
      {nextSock : SockId} (hc : s.conns id = some c) (hbatch : Batch c p)
      (hfree : s.freeSlots.data = idx :: data) (hslot : s.slots[idx]? = some slot)
      (htakes : TakesOn g s id c slot slot' nextSock) :
      Move g s { (s.handled id ⟨c.drain.setPending (some p), [], []⟩).setSlot
                  idx slot' with
                 freeSlots := ⟨data, s.freeSlots.capacity⟩, nextSock := nextSock }
  | refuse {id : ℕ} {c : Conn} {p : Pending} {err : Error} (hc : s.conns id = some c)
      (hbatch : Batch c p)
      (herr : (Out.Error err).range? = some ⟨p.oldestSeq, p.newestSeq⟩) :
      Move g s (s.handled id
        ((c.drain.setPending none).enqueueGeneratedText (.Error err)))
  | close {id : ℕ} {c : Conn} (hc : s.conns id = some c) (hnone : c.pending = none) :
      Move g s { s with conns := update s.conns id none }
  | abandon {idx id : ℕ} {slot slot' : Slot} {c : Conn} (hslot : s.slots[idx]? = some slot)
      (howner : slot.owner = some id) (hgives : GivesUp slot slot') (hc : s.conns id = some c) :
      Move g s { s.setSlot idx slot' with
                 freeSlots := ⟨idx :: s.freeSlots.data, s.freeSlots.capacity⟩
                 conns := update s.conns id none }

/-! ## The invariant -/

structure Inv (g : Setup) (s : Server) : Prop where
  pool : PoolInv s.slots s.freeSlots
  conns : ConnsInv s.conns s.traces s.nextConnId
  assigned : Assigned (s.pend g) s.held
  attempts : AttemptsInv s.slots s.nextSock s.finished

section

variable {g : Setup} {s s' : Server} {idx id : ℕ} {slot slot' : Slot} {c : Conn} {r : Handled}

lemma Server.held_setSlot (hslot : s.slots[idx]? = some slot) :
    (s.setSlot idx slot').held =
      update s.held idx (slot'.owner.map (·, slot'.req)) := by
  funext j
  by_cases hj : j = idx
  · simp [held, setSlot, PoolInv.getElem?_set hslot, hj]
  · simp [held, setSlot, PoolInv.getElem?_set hslot, hj]

lemma Server.pend_handled :
    (s.handled id r).pend g = update (s.pend g) id (r.conn.pending.map fun p =>
      request g.config (((s.traces id).extend r).pcm ⟨p.oldestSeq, p.newestSeq⟩)) := by
  funext j
  by_cases hj : j = id
  · subst hj
    simp [pend, handled, requestFor]
  · simp [pend, handled, requestFor, hj]

lemma Server.pend_close (s : Server) (id : ℕ) :
    Server.pend g { s with conns := update s.conns id none } =
      update (s.pend g) id none := by
  funext j
  by_cases hj : j = id
  · simp [pend, hj]
  · simp [pend, requestFor, hj]

lemma Server.pend_of_pending {p : Pending} (hc : s.conns id = some c) (hp : c.pending = some p) :
    s.pend g id = some (s.requestFor g id ⟨p.oldestSeq, p.newestSeq⟩) := by
  rw [pend, hc, bind_some, hp, map_some]

lemma Server.pend_of_none (hc : s.conns id = some c) (hp : c.pending = none) :
    s.pend g id = none := by
  rw [pend, hc, bind_some, hp, map_none]

lemma Server.range?_answerFor (g : Setup) (c : Conn) (p : Pending) (result : InferResult)
    (clock : Ms) : (answerFor g c p result clock).range? = some ⟨p.oldestSeq, p.newestSeq⟩ := by
  cases result <;> rfl

lemma Conn.enqueueGeneratedText_pending (c : Conn) (o : Out) :
    (c.enqueueGeneratedText o).conn.pending = c.pending := by
  unfold Conn.enqueueGeneratedText
  split_ifs <;> rfl

lemma Conn.enqueueGeneratedText_closing {o o' : Out}
    (h : (c.enqueueGeneratedText o).conn.closeAfterWrite) (ho : o' ∈ (c.enqueueGeneratedText o).out) :
    o'.range? = none := by
  unfold Conn.enqueueGeneratedText at h ho
  split_ifs at h ho with hc
  · simp at ho
  · exact absurd h hc

lemma Server.pend_keeps (h : ConnsInv s.conns s.traces s.nextConnId) (hc : s.conns id = some c)
    (hr : c.Keeps r) : (s.handled id r).pend g = s.pend g := by
  rw [pend_handled, hr.pending]
  refine update_eq_self_iff.mpr ?_
  have hinv := h.conn id c hc
  cases hp : c.pending with
  | none => rw [pend_of_none hc hp, map_none]
  | some p =>
    obtain ⟨h1, hle, hnew⟩ := hinv.pending p hp
    have hpcm : ((s.traces id).extend r).pcm ⟨p.oldestSeq, p.newestSeq⟩ =
        (s.traces id).pcm ⟨p.oldestSeq, p.newestSeq⟩ :=
      Trace.pcm_append rfl h1 hle (hnew.trans_le hinv.flushed_le)
    rw [pend_of_pending hc hp, map_some, hpcm, requestFor]

lemma Batch.inv {p : Pending} {tr : Trace} (hb : Batch c p) (h : c.Inv tr) :
    (c.drain.setPending (some p)).Inv tr :=
  h.submit hb.none hb.pos hb.oldest hb.newest

lemma Server.pend_answered (o : Out) :
    (s.handled id ((c.setPending none).enqueueGeneratedText o)).pend g =
      update (s.pend g) id none := by
  rw [pend_handled, Conn.enqueueGeneratedText_pending]
  rfl

lemma Server.held_of_slot (hslot : s.slots[idx]? = some slot) (howner : slot.owner = some id) :
    s.held idx = some (id, slot.req) := by
  rw [held, hslot, bind_some, howner, map_some]

lemma Inv.pending_of_owner (h : Inv g s) (hslot : s.slots[idx]? = some slot)
    (howner : slot.owner = some id) :
    ∃ c p, s.conns id = some c ∧ c.pending = some p ∧
      slot.req = s.requestFor g id ⟨p.oldestSeq, p.newestSeq⟩ := by
  have hpend := h.assigned.open_of_held idx id slot.req (Server.held_of_slot hslot howner)
  obtain ⟨c, hc, hpend⟩ := bind_eq_some_iff.mp hpend
  obtain ⟨p, hp, hreq⟩ := map_eq_some_iff.mp hpend
  exact ⟨c, p, hc, hp, hreq.symm⟩

lemma Inv.release (h : Inv g s) (hslot : s.slots[idx]? = some slot) (howner : slot.owner = some id)
    (hgives : GivesUp slot slot') :
    Assigned (update (s.pend g) id none) (s.setSlot idx slot').held := by
  rw [Server.held_setSlot hslot, hgives.owner, map_none]
  exact h.assigned.release (Server.held_of_slot hslot howner)

lemma Drives.attempts {wires : SockId → Wire} {n : SockId} (hd : Drives s slot slot' wires n)
    (h : AttemptsInv s.slots s.nextSock s.finished) (hslot : slot ∈ s.slots)
    (howner : slot.owner ≠ none)
    (hlog : (∀ k, slot.fd = some k → k < s.nextSock) → slot.Logged → slot'.Logged) :
    AttemptsInv (s.slots.set idx slot') n s.finished := by
  have hlogged := hlog (h.fd_lt slot hslot) (h.logged slot hslot howner)
  cases hd with
  | drop hfd hn => exact h.set hn (by simp [hfd]) fun _ => hlogged
  | keep hfd => exact h.set le_rfl (hfd ▸ h.fd_lt slot hslot) fun _ => hlogged
  | dial hfd => exact h.set (Nat.le_succ _) (by simp [hfd]) fun _ => hlogged
  | sent hk hfd | received hk hfd =>
    exact h.set le_rfl ((hk.trans hfd.symm) ▸ h.fd_lt slot hslot) fun _ => hlogged

lemma GivesUp.attempts (hg : GivesUp slot slot') (h : AttemptsInv s.slots s.nextSock s.finished)
    (hslot : slot ∈ s.slots) : AttemptsInv (s.slots.set idx slot') s.nextSock s.finished := by
  refine h.set le_rfl ?_ fun howner => absurd hg.owner howner
  rcases hg.fd with hnone | ⟨hfd, -⟩
  · simp [hnone]
  · exact hfd ▸ h.fd_lt slot hslot

lemma TakesOn.attempts {n : SockId} (ht : TakesOn g s id c slot slot' n)
    (h : AttemptsInv s.slots s.nextSock s.finished) (hslot : slot ∈ s.slots) :
    AttemptsInv (s.slots.set idx slot') n s.finished := by
  rcases ht.fd with ⟨hfd, hn⟩ | ⟨hfd, hn⟩ | ⟨hfd, rfl⟩
  · exact h.set hn (by simp [hfd]) fun _ => ht.logged
  · exact h.set hn (fun k hk => (h.fd_lt slot hslot k (hfd ▸ hk)).trans_le hn) fun _ => ht.logged
  · exact h.set (Nat.le_succ _) (by simp [hfd]) fun _ => ht.logged

theorem Move.inv (hm : Move g s s') (h : Inv g s) : Inv g s' := by
  cases hm with
  | timers timers => exact { h with }
  | record f hf =>
    refine ⟨h.pool, h.conns, h.assigned, h.attempts.fd_lt, h.attempts.logged, ?_⟩
    intro f' hmem
    rcases mem_append.mp hmem with hold | hnew
    · exact h.attempts.spent f' hold
    · exact mem_singleton.mp hnew ▸ hf
  | handler hc hr =>
    refine ⟨h.pool, ?_, ?_, h.attempts⟩
    · exact h.conns.handled hc (hr.inv _ (h.conns.conn _ _ hc)) fun _ => hr.out
    · rw [Server.pend_keeps h.conns hc hr]
      exact h.assigned
  | accept now jitter =>
    refine ⟨h.pool, h.conns.accept g.config now jitter, ?_, h.attempts⟩
    have hpend : s.pend g = Server.pend g { s with
        conns := update s.conns s.nextConnId (some (Conn.new g.config now jitter))
        nextConnId := s.nextConnId + 1 } := by
      funext j
      by_cases hj : j = s.nextConnId
      · have hnone : s.conns j = none := by
          refine eq_none_iff_forall_ne_some.mpr fun c hc => ?_
          exact absurd (h.conns.conn_lt j c hc) (by omega)
        simp [Server.pend, ← hj, hnone, Conn.new]
      · simp [Server.pend, Server.requestFor, hj]
    rw [← hpend]
    exact h.assigned
  | drive hslot howner howner' hreq hstate hd hlog =>
    refine ⟨h.pool.set hslot howner' (by simp [hstate, howner', howner]), h.conns, ?_,
      hd.attempts h.attempts (mem_of_getElem? hslot) howner hlog⟩
    show Assigned (s.pend g) (s.setSlot _ _).held
    rw [Server.held_setSlot hslot, howner', hreq, update_eq_self_iff.mpr]
    · exact h.assigned
    · rw [Server.held, hslot, bind_some]
  | finish clock hslot howner hgives hc hp hresult =>
    refine ⟨h.pool.put hslot (by simp [howner]) hgives.owner hgives.state, ?_, ?_,
      hgives.attempts h.attempts (mem_of_getElem? hslot)⟩
    · exact h.conns.handled hc
        ((h.conns.conn _ _ hc).answer hp (Server.range?_answerFor ..))
        fun hclose o ho => Conn.enqueueGeneratedText_closing hclose ho
    · rw [Server.pend_answered]
      exact h.release hslot howner hgives
  | @submit idx id data slot slot' c p nextSock hc hbatch hfree hslot htakes =>
    have hinv := h.conns.conn _ _ hc
    have hstate : slot'.state ≠ .Idle := by
      rcases htakes.state with hs | hs <;> simp [hs]
    have hnone : s.held idx = none := by
      obtain ⟨a, ha, hanone⟩ := (h.pool.mem_iff idx).mp (by simp [hfree])
      rw [Server.held, ha, bind_some, hanone, map_none]
    have hreq : slot'.req = s.requestFor g id ⟨p.oldestSeq, p.newestSeq⟩ := by
      rw [htakes.req, hinv.pcm_batch hbatch.pos, hbatch.oldest, hbatch.newest, Server.requestFor]
    have hconn : Conn.Inv (c.drain.setPending (some p))
        ((s.traces id).extend ⟨c.drain.setPending (some p), [], []⟩) := by
      rw [Trace.extend_nil]
      exact hbatch.inv hinv
    refine ⟨h.pool.take hfree hslot (by simp [htakes.owner]) hstate,
      h.conns.handled hc hconn (by simp), ?_,
      htakes.attempts h.attempts (mem_of_getElem? hslot)⟩
    have hassign := h.assigned.assign (Server.pend_of_none hc hbatch.none) hnone slot'.req
    show Assigned (Server.pend g (s.handled id _)) (s.setSlot idx slot').held
    rw [Server.pend_handled, Trace.extend_nil, Server.held_setSlot hslot, htakes.owner,
      map_some]
    rw [hreq] at hassign ⊢
    exact hassign
  | refuse hc hbatch herr =>
    have hinv := (hbatch.inv (h.conns.conn _ _ hc)).answer rfl herr
    refine ⟨h.pool, h.conns.handled hc hinv fun hclose o ho =>
      Conn.enqueueGeneratedText_closing hclose ho, ?_, h.attempts⟩
    rw [Server.pend_answered, update_eq_self_iff.mpr (Server.pend_of_none hc hbatch.none).symm]
    exact h.assigned
  | close hc hnone =>
    refine ⟨h.pool, h.conns.close _, ?_, h.attempts⟩
    rw [Server.pend_close,
      update_eq_self_iff.mpr (Server.pend_of_none hc hnone).symm]
    exact h.assigned
  | abandon hslot howner hgives hc =>
    refine ⟨h.pool.put hslot (by simp [howner]) hgives.owner hgives.state, h.conns.close _, ?_,
      hgives.attempts h.attempts (mem_of_getElem? hslot)⟩
    show Assigned (Server.pend g { s with conns := _ }) (s.setSlot _ _).held
    rw [Server.pend_close]
    exact h.release hslot howner hgives

end

end SttBench.OxcamlEpoll
