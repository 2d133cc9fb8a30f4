import SttBench.Core.TransitionSystem
import SttBench.RustSync.Pool

/-! # rust-sync: the pool and its poll -/

namespace SttBench.RustSync

open Ascii Function

abbrev Registry := ℕ → Option SockId

def Registry.drop (poll : Registry) (sock : Option SockId) : Registry :=
  fun i => if poll i = sock then none else poll i

def Slot.register (slot : Slot) (idx : ℕ) (ok : Bool) (poll : Registry) : Registry :=
  match slot.sock with
  | none => poll
  | some sock =>
    if slot.dialed ∨ slot.registered = false then
      if ok then update poll idx (some sock) else poll
    else poll

def Slot.dropped (slot slot' : Slot) (poll : Registry) : Registry :=
  if slot'.sock = slot.sock then poll else poll.drop slot.sock

inductive Op
  | Submit (owner tag : ℕ) (body : Bytes) (cpuPasses : ℕ) (now : Instant) (connect ok : Bool)
  | Abort (owner : ℕ)
  | Ready (idx : ℕ) (wake : Wake) (ok : Bool)
deriving DecidableEq, Repr

structure Watched where
  pool : Pool
  poll : Registry
  /-- The requests for which a slot was taken. -/
  requests : ℕ
  /-- The request a slot was taken for last. -/
  serving : ℕ → ℕ
  /-- The slots that were pushed onto the free list, with the request they were taken for. -/
  released : List (ℕ × ℕ)

namespace Watched

variable (config : Config) (fromSlice : Bytes → Except String InferResponse)

def new (now : Instant) (size : ℕ) : Watched where
  pool := Pool.new now size
  poll _ := none
  requests := 0
  serving _ := 0
  released := []

def taken (w : Watched) (idx : ℕ) (slot : Slot) (connect ok : Bool) : Watched :=
  let w := { w with requests := w.requests + 1,
                    serving := update w.serving idx (w.requests + 1) }
  if slot.sock.isSome then { w with poll := slot.register idx ok w.poll }
  else if connect then { w with poll := (slot.dial w.pool.nextSock).register idx ok w.poll }
  else { w with released := w.released ++ [(idx, w.requests)] }

def recycled (w : Watched) (idx : ℕ) (slot : Slot) (ok : Bool) : Watched :=
  { w with poll := slot.register idx ok w.poll, released := w.released ++ [(idx, w.serving idx)] }

def driven (w : Watched) (idx : ℕ) (slot slot' : Slot) (step : Step) (connect ok : Bool) : Watched :=
  let w := { w with poll := slot.dropped slot' w.poll }
  match step with
  | .Pending _ => { w with poll := slot'.register idx ok w.poll }
  | .Redial =>
    if connect then { w with poll := (slot'.dial w.pool.nextSock).register idx ok w.poll }
    else w.recycled idx slot' ok
  | .Done _ => w.recycled idx slot' ok

def step (w : Watched) : Op → Option Watched
  | .Submit owner tag body cpuPasses now connect ok =>
    match w.pool.submit config owner tag body cpuPasses now connect with
    | .error _ => none
    | .ok (p, _) =>
      match w.pool.free with
      | [] => some { w with pool := p }
      | idx :: _ =>
        match w.pool.slots[idx]? with
        | none => none
        | some slot => some { w.taken idx slot connect ok with pool := p }
  | .Abort owner =>
    match w.pool.slots.findIdx? fun s => s.owner = some owner with
    | none => some { w with pool := w.pool.abortOwner owner }
    | some idx =>
      match w.pool.slots[idx]? with
      | none => none
      | some slot =>
        let dropped := { slot with owner := none, sock := none, state := .Disconnected }
        some { { w with poll := slot.dropped dropped w.poll }.recycled idx dropped true with
          pool := w.pool.abortOwner owner }
  | .Ready idx wake ok =>
    if (w.poll idx).isNone then none
    else
      match w.pool.slots[idx]? with
      | none => none
      | some slot =>
        match slot.drive fromSlice wake.writable wake.io,
          w.pool.onEvent fromSlice idx wake.writable wake.io wake.connect with
        | .ok (slot', step), .ok (p, _) =>
          some { w.driven idx slot slot' step wake.connect ok with pool := p }
        | _, _ => none

end Watched

def watched (config : Config) (fromSlice : Bytes → Except String InferResponse) (now : Instant)
    (size : ℕ) : TransitionSystem Watched Op :=
  TransitionSystem.ofFun (Watched.new now size) (Watched.step config fromSlice)

/-! ## What is watched -/

def Watches (slots : List Slot) (poll : Registry) : Prop :=
  ∀ idx sock, poll idx = some sock → ∃ slot, slots[idx]? = some slot ∧ slot.sock = some sock

section

variable {slots : List Slot} {poll : Registry} {idx : ℕ} {old slot new reg : Slot} (ok : Bool)

variable {ok} in
lemma Slot.register_eq_some {sock : SockId} {j : ℕ} (h : slot.register idx ok poll j = some sock) :
    j = idx ∧ slot.sock = some sock ∨ poll j = some sock := by
  unfold Slot.register at h
  cases hk : slot.sock with
  | none =>
    rw [hk] at h
    exact Or.inr h
  | some k =>
    rw [hk] at h
    dsimp only at h
    split_ifs at h
    · by_cases hj : j = idx
      · subst hj
        rw [update_self] at h
        exact Or.inl ⟨rfl, h⟩
      · rw [update_of_ne hj] at h
        exact Or.inr h
    · exact Or.inr h
    · exact Or.inr h

lemma Slot.dropped_eq_some {sock : SockId} {j : ℕ} (h : old.dropped slot poll j = some sock) :
    poll j = some sock ∧ (old.sock = some sock → slot.sock = some sock) := by
  unfold Slot.dropped at h
  split_ifs at h with hsame
  · exact ⟨h, fun hold => hsame.trans hold⟩
  · unfold Registry.drop at h
    split_ifs at h with hold
    exact ⟨h, fun hsock => absurd (h.trans hsock.symm) hold⟩

lemma Watches.move (h : Watches slots poll) (hold : slots[idx]? = some old)
    (hreg : reg.sock = new.sock) (hkeep : ∀ sock, slot.sock = some sock → new.sock = some sock) :
    Watches (slots.set idx new) (reg.register idx ok (old.dropped slot poll)) := by
  intro j sock hj
  have hlt := (List.getElem?_eq_some_iff.mp hold).1
  rcases Slot.register_eq_some hj with ⟨rfl, hsock⟩ | hj
  · exact ⟨new, List.getElem?_set_self hlt, hreg ▸ hsock⟩
  · obtain ⟨hpoll, hdrop⟩ := Slot.dropped_eq_some hj
    obtain ⟨slot', hslot', hsock⟩ := h j sock hpoll
    by_cases hji : j = idx
    · subst hji
      cases hold.symm.trans hslot'
      exact ⟨new, List.getElem?_set_self hlt, hkeep sock (hdrop hsock)⟩
    · exact ⟨slot', by rw [List.getElem?_set_ne (Ne.symm hji), hslot'], hsock⟩

lemma Watches.keep (h : Watches slots poll) (hold : slots[idx]? = some old)
    (hreg : reg.sock = new.sock) (hkeep : ∀ sock, old.sock = some sock → new.sock = some sock) :
    Watches (slots.set idx new) (reg.register idx ok poll) := by
  have hsame : old.dropped old poll = poll := if_pos rfl
  have hmove := h.move ok hold hreg hkeep
  rwa [hsame] at hmove

end

/-! ## The invariant -/

structure Releases (slots : List Slot) (requests : ℕ) (serving : ℕ → ℕ) (released : List (ℕ × ℕ)) :
    Prop where
  nodup : released.Nodup
  released_le : ∀ r ∈ released, r.2 ≤ requests
  serving_le : ∀ idx, serving idx ≤ requests
  owned : ∀ idx slot, slots[idx]? = some slot → slot.owner ≠ none →
    (idx, serving idx) ∉ released

namespace Releases

variable {slots : List Slot} {requests : ℕ} {serving : ℕ → ℕ} {released : List (ℕ × ℕ)} {idx : ℕ}
  {old new : Slot}

lemma keep (h : Releases slots requests serving released) (hold : slots[idx]? = some old)
    (howner : new.owner = old.owner) :
    Releases (slots.set idx new) requests serving released where
  nodup := h.nodup
  released_le := h.released_le
  serving_le := h.serving_le
  owned j slot hslot hown := by
    by_cases hj : j = idx
    · subst hj
      rw [List.getElem?_set_self (List.getElem?_eq_some_iff.mp hold).1] at hslot
      cases hslot
      exact h.owned j old hold (howner ▸ hown)
    · rw [List.getElem?_set_ne (Ne.symm hj)] at hslot
      exact h.owned j slot hslot hown

lemma take (h : Releases slots requests serving released) (new : Slot) :
    Releases (slots.set idx new) (requests + 1) (update serving idx (requests + 1))
      released where
  nodup := h.nodup
  released_le r hr := Nat.le_succ_of_le (h.released_le r hr)
  serving_le j := by
    by_cases hj : j = idx
    · rw [hj, update_self]
    · rw [update_of_ne hj]
      exact Nat.le_succ_of_le (h.serving_le j)
  owned j slot hslot hown := by
    by_cases hj : j = idx
    · rw [hj, update_self]
      intro hmem
      exact absurd (h.released_le _ hmem) (by simp)
    · rw [update_of_ne hj]
      rw [List.getElem?_set_ne (Ne.symm hj)] at hslot
      exact h.owned j slot hslot hown

lemma release (h : Releases slots requests serving released) (hold : slots[idx]? = some old)
    (hown : old.owner ≠ none) (hnone : new.owner = none) :
    Releases (slots.set idx new) requests serving (released ++ [(idx, serving idx)]) where
  nodup := by
    rw [List.nodup_append_comm]
    exact List.nodup_cons.mpr ⟨h.owned idx old hold hown, h.nodup⟩
  released_le r hr := by
    rcases List.mem_append.mp hr with hr | hr
    · exact h.released_le r hr
    · rw [List.mem_singleton.mp hr]
      exact h.serving_le idx
  serving_le := h.serving_le
  owned j slot hslot hown' := by
    by_cases hj : j = idx
    · subst hj
      rw [List.getElem?_set_self (List.getElem?_eq_some_iff.mp hold).1] at hslot
      cases hslot
      exact absurd hnone hown'
    · rw [List.getElem?_set_ne (Ne.symm hj)] at hslot
      simp [h.owned j slot hslot hown', hj]

end Releases

structure WatchInv (w : Watched) : Prop where
  wf : w.pool.WF
  watched : Watches w.pool.slots w.poll
  releases : Releases w.pool.slots w.requests w.serving w.released

namespace WatchInv

variable {config : Config} {fromSlice : Bytes → Except String InferResponse} {w w' : Watched}

lemma new (now : Instant) (size : ℕ) : WatchInv (Watched.new now size) where
  wf := Pool.WF.new now size
  watched _ _ h := nomatch h
  releases :=
    { nodup := List.nodup_nil
      released_le := nofun
      serving_le := fun _ => le_rfl
      owned := fun _ _ _ _ => List.not_mem_nil }

lemma submit {owner tag cpuPasses : ℕ} {body : Bytes} {now : Instant} {connect ok : Bool}
    (h : WatchInv w)
    (hstep : w.step config fromSlice (.Submit owner tag body cpuPasses now connect ok) = some w') :
    WatchInv w' := by
  simp only [Watched.step] at hstep
  split at hstep
  · cases hstep
  · rename_i p d hsubmit
    have hwf := (Pool.submit_spec h.wf hsubmit).1
    rcases Pool.submit_cases hsubmit with
      ⟨hfree, rfl, -⟩ | ⟨idx, free, old, slot, hfree, hold, rfl, hcase⟩
    · rw [hfree] at hstep
      cases hstep
      exact h
    · rw [hfree] at hstep
      dsimp only at hstep
      rw [hold] at hstep
      cases hstep
      rcases hcase with ⟨hsock, -, rfl⟩ | ⟨hsock, rfl, -, rfl⟩ | ⟨hsock, rfl, -, rfl⟩
      · have hisSome : old.sock.isSome = true := hsock
        refine ⟨hwf, ?_, ?_⟩
        · simp only [Watched.taken, hisSome, if_true]
          exact h.watched.keep ok hold rfl fun _ hs => hs
        · simp only [Watched.taken, hisSome, if_true]
          exact h.releases.take _
      · have hisSome : ¬ old.sock.isSome = true := by simp [hsock]
        refine ⟨hwf, ?_, ?_⟩
        · simp only [Watched.taken, if_neg hisSome, if_true]
          exact h.watched.keep ok hold rfl (by simp [hsock])
        · simp only [Watched.taken, if_neg hisSome, if_true]
          exact h.releases.take _
      · have hisSome : ¬ old.sock.isSome = true := by simp [hsock]
        have hlt := (List.getElem?_eq_some_iff.mp hold).1
        let built := { old with owner := some owner, tag := tag }.build now config body cpuPasses
        refine ⟨hwf, ?_, ?_⟩
        · have hkeep : Watches (w.pool.slots.set idx { built with owner := none })
              (old.register idx ok w.poll) := h.watched.keep ok hold rfl fun _ hs => hs
          rw [Slot.register, hsock] at hkeep
          simp only [Watched.taken, if_neg hisSome, Bool.false_eq_true, if_false]
          exact hkeep
        · have htaken : (w.pool.slots.set idx built)[idx]? = some built := List.getElem?_set_self hlt
          have hown : built.owner ≠ none := Option.some_ne_none owner
          have hrel : Releases ((w.pool.slots.set idx built).set idx { built with owner := none }) _ _ _ :=
            (h.releases.take built).release htaken hown rfl
          rw [List.set_set, update_self] at hrel
          simp only [Watched.taken, if_neg hisSome, Bool.false_eq_true, if_false]
          exact hrel

lemma abort {owner : ℕ} (h : WatchInv w)
    (hstep : w.step config fromSlice (.Abort owner) = some w') : WatchInv w' := by
  have hwf := (Pool.abortOwner_spec h.wf owner).1
  simp only [Watched.step] at hstep
  split at hstep
  · rename_i hidx
    cases hstep
    have hsame : w.pool.abortOwner owner = w.pool := by rw [Pool.abortOwner, hidx]
    rw [hsame]
    exact h
  · rename_i idx hidx
    split at hstep
    · cases hstep
    · rename_i slot hslot
      cases hstep
      have hpool : w.pool.abortOwner owner =
          w.pool.recycle idx { slot with owner := none, sock := none, state := .Disconnected } := by
        rw [Pool.abortOwner, hidx]
        dsimp only
        rw [hslot]
      have hown : slot.owner ≠ none := by
        obtain ⟨hlt, hfound, -⟩ := List.findIdx?_eq_some_iff_getElem.mp hidx
        cases (List.getElem?_eq_getElem hlt).symm.trans hslot
        simp_all
      refine ⟨hwf, ?_, ?_⟩
      · rw [hpool]
        exact h.watched.move true hslot rfl fun _ hs => nomatch hs
      · rw [hpool]
        exact h.releases.release hslot hown rfl

lemma recycle {idx : ℕ} {old slot : Slot} (h : WatchInv w) (hold : w.pool.slots[idx]? = some old)
    (hown : old.owner ≠ none) (hparked : slot.Parked) (ok : Bool) :
    WatchInv { { w with poll := old.dropped slot w.poll }.recycled idx slot ok with
      pool := w.pool.recycle idx slot } where
  wf := h.wf.recycle hold hown hparked
  watched := h.watched.move ok hold (Slot.recycled_sock slot).symm fun _ hs =>
    (Slot.recycled_sock slot).trans hs
  releases := h.releases.release hold hown (Slot.recycled_owner slot)

lemma ready {idx : ℕ} {wake : Wake} {ok : Bool} (h : WatchInv w)
    (hstep : w.step config fromSlice (.Ready idx wake ok) = some w') : WatchInv w' := by
  simp only [Watched.step] at hstep
  split_ifs at hstep
  split at hstep
  · cases hstep
  · rename_i old hold
    split at hstep
    · rename_i slot step p d hdrive hevent
      cases hstep
      have hwf := (Pool.onEvent_spec h.wf hevent).1
      have hdriven := Slot.drive_cases hdrive
      obtain ⟨howner, -, -⟩ := hdriven.frame
      obtain ⟨old', slot', step', hold', hdrive', hcase⟩ := Pool.onEvent_cases hevent
      cases hold.symm.trans hold'
      cases hdrive.symm.trans hdrive'
      -- a slot without an owner is parked, and only waits
      have hbusy : step ≠ .Pending false → old.owner ≠ none := fun hne hnone =>
        hne (hdriven.of_parked (h.wf.parked idx old hold hnone)).1
      rcases hcase with ⟨want, rfl, -, rfl⟩ | ⟨rfl, hc, -, rfl⟩ | ⟨rfl, hc, hfin⟩ | ⟨result, rfl, hfin⟩
      · exact ⟨hwf, h.watched.move ok hold rfl fun _ hs => hs, h.releases.keep hold howner⟩
      · have hnone : slot.sock = none := by
          cases hdriven
          rfl
        let dialed := slot.dial w.pool.nextSock
        have hmove : Watches (w.pool.slots.set idx dialed.ensureRegistered)
            (dialed.register idx ok (old.dropped slot w.poll)) :=
          h.watched.move ok hold rfl fun sock hs => by cases hnone.symm.trans hs
        simp only [Watched.driven, hc, if_true]
        exact ⟨hwf, hmove, h.releases.keep hold howner⟩
      · cases hfin
        simp only [Watched.driven, hc, Bool.false_eq_true, if_false]
        exact h.recycle hold (hbusy nofun) hdriven.parked_of_redial ok
      · cases hfin
        exact h.recycle hold (hbusy nofun) hdriven.parked_of_done ok
    · cases hstep

end WatchInv

theorem watched_inductive (config : Config) (fromSlice : Bytes → Except String InferResponse)
    (now : Instant) (size : ℕ) : (watched config fromSlice now size).Inductive WatchInv where
  init := by
    rintro w rfl
    exact WatchInv.new now size
  step w op w' h hstep := by
    cases op with
    | Submit owner tag body cpuPasses now connect ok => exact h.submit hstep
    | Abort owner => exact h.abort hstep
    | Ready idx wake ok => exact h.ready hstep

/-! ## The pool -/

namespace Slot

variable {slot : Slot} {fromSlice : Bytes → Except String InferResponse} {io : Io} {e : Panic}

lemma receive_error (hsock : slot.sock ≠ none) (h : slot.receive fromSlice io = .error e) :
    e = .SliceIndex := by
  unfold receive at h
  rw [if_neg (by simpa using hsock)] at h
  dsimp only at h
  split at h
  · cases h
  · split at h
    · rename_i p hparse
      cases h
      exact parseResponse_error hparse
    · cases h
    · cases h

lemma send_error {off : ℕ} (hsock : slot.sock ≠ none) (h : slot.send fromSlice off io = .error e) :
    e = .SliceIndex := by
  unfold send at h
  rw [if_neg (by simpa using hsock)] at h
  split at h
  · cases h
  · cases h
  · exact receive_error hsock h

theorem drive_error {writable : Bool} (hsock : slot.sock ≠ none)
    (h : slot.drive fromSlice writable io = .error e) : e = .SliceIndex := by
  have hrun : slot.run fromSlice writable io = .error e := by
    unfold drive at h
    cases hrun : slot.run fromSlice writable io with
    | ok r =>
      rw [hrun] at h
      cases h
    | error e' =>
      rw [hrun] at h
      exact congrArg _ (Except.error.inj h)
  have hsome : ¬ slot.sock.isNone := by simpa using hsock
  unfold run at hrun
  split at hrun
  · rw [if_neg hsome] at hrun
    split at hrun
    · cases hrun
    · split_ifs at hrun
      exact send_error (show { slot with state := .Sending 0 }.sock ≠ none from hsock) hrun
  · exact send_error hsock hrun
  · exact receive_error hsock hrun
  · unfold idle at hrun
    split_ifs at hrun
  · cases hrun

end Slot

variable {config : Config} {fromSlice : Bytes → Except String InferResponse} {now : Instant}
  {size : ℕ} {w : Watched}

theorem free_list_exact (hr : (watched config fromSlice now size).Reachable w) :
    w.pool.free.Nodup ∧
      (∀ idx, idx ∈ w.pool.free ↔ ∃ slot, w.pool.slots[idx]? = some slot ∧ slot.owner = none) ∧
      (∀ idx sock, w.poll idx = some sock →
        ∃ slot, w.pool.slots[idx]? = some slot ∧ slot.sock = some sock ∧
          ∀ writable io, slot.drive fromSlice writable io ≠ .error .ExpectSock) ∧
      w.released.Nodup := by
  have h := (watched_inductive config fromSlice now size).reachable hr
  refine ⟨h.wf.free_nodup, ?_, ?_, h.releases.nodup⟩
  · intro idx
    constructor
    · intro hmem
      have hslot := List.getElem?_eq_getElem (h.wf.free_lt idx hmem)
      exact ⟨_, hslot, (h.wf.free_iff idx _ hslot).mp hmem⟩
    · rintro ⟨slot, hslot, hnone⟩
      exact (h.wf.free_iff idx slot hslot).mpr hnone
  · intro idx sock hpoll
    obtain ⟨slot, hslot, hsock⟩ := h.watched idx sock hpoll
    refine ⟨slot, hslot, hsock, fun writable io herr => ?_⟩
    cases Slot.drive_error (by simp [hsock]) herr

def redialFails : List Op :=
  [.Submit 7 1 [] 4 0 true true,
   .Ready 0 ⟨true, ⟨0, some "connection refused", false, [], [], .WouldBlock⟩, false⟩ true]

theorem free_list_exact_redialFails :
    ∃ w slot, (watched ⟨"inference", "/infer", 1, 4, 75, 10 ^ 9⟩ (fun _ => .error "EOF") 0 1).Reachable w ∧
      w.pool.slots[0]? = some slot ∧ slot.state = .Sending 0 ∧ slot.sock = none ∧
      0 ∈ w.pool.free ∧ w.poll 0 = none := by
  obtain ⟨w, hr, slot, hslot, hstate, hsock, howner⟩ : ∃ w, (watched ⟨"inference", "/infer", 1, 4, 75,
      10 ^ 9⟩ (fun _ => .error "EOF") 0 1).Reachable w ∧ ∃ slot ∈ w.pool.slots[0]?,
        slot.state = .Sending 0 ∧ slot.sock = none ∧ slot.owner = none :=
    TransitionSystem.Reachable.exists_of_exec redialFails (by decide +kernel)
  obtain ⟨-, hfree, hwatched, -⟩ := free_list_exact hr
  refine ⟨w, slot, hr, hslot, hstate, hsock, (hfree 0).mpr ⟨slot, hslot, howner⟩, ?_⟩
  cases hpoll : w.poll 0 with
  | none => rfl
  | some sock =>
    obtain ⟨slot', hslot', hsock', -⟩ := hwatched 0 sock hpoll
    cases hslot.symm.trans hslot'
    cases hsock.symm.trans hsock'

end SttBench.RustSync
