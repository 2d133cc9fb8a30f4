import SttBench.OxcamlEpoll.Acts

/-! # ocaml-oxcaml-epoll: who has which slot -/

namespace SttBench.OxcamlEpoll

open Ascii Conn

variable {g : Setup} {s s' t : Server} {idx id : ℕ} {slot slot' : Slot} {io : Io}

namespace Server

lemma ownerOf_setSlot (s : Server) (idx : ℕ) (slot : Slot) (j : ℕ) :
    (s.setSlot idx slot).ownerOf j =
      if j = idx ∧ idx < s.slots.length then slot.owner else s.ownerOf j := by
  show (s.slots.set idx slot)[j]?.bind Slot.owner = _
  rw [List.getElem?_set, ownerOf]
  split_ifs <;> simp_all

end Server

/-! ## Owners that are kept -/

def OwnersKept (s t : Server) : Prop := ∀ idx id, t.ownerOf idx = some id → s.ownerOf idx = some id

namespace OwnersKept

lemma refl (s : Server) : OwnersKept s s := fun _ _ h => h

lemma trans (h : OwnersKept s t) (h' : OwnersKept t s') : OwnersKept s s' :=
  fun idx id howner => h idx id (h' idx id howner)

lemma setSlot (h : slot.owner = none ∨ slot.owner = s.ownerOf idx) :
    OwnersKept s (s.setSlot idx slot) := by
  intro j id howner
  rw [Server.ownerOf_setSlot] at howner
  split_ifs at howner with hj
  · rcases h with hnone | hsame
    · cases hnone.symm.trans howner
    · rw [hj.1, ← hsame, howner]
  · exact howner

lemma of_slots (h : OwnersKept s t) (hslots : s'.slots = t.slots) : OwnersKept s s' := by
  intro idx id howner
  rw [Server.ownerOf, hslots] at howner
  exact h idx id howner

end OwnersKept

lemma handlerRule_ownersKept (g : Setup) : HandlerRule g (fun _ => True) OwnersKept where
  trans h h' := h.trans h'
  same hslots _ := (OwnersKept.refl _).of_slots hslots
  store hslots howner _ := (OwnersKept.setSlot howner).of_slots hslots
  act hslots _ := (OwnersKept.refl _).of_slots hslots

namespace Server

lemma acceptLoop_slots (accepts : List (Ms × Ms)) : ∀ s : Server, (s.acceptLoop g accepts).slots = s.slots := by
  induction accepts with
  | nil =>
    intro s
    rfl
  | cons accepted accepts ih =>
    intro s
    exact ih _

lemma handleEvent_ownersKept {token events : ℕ} (hok : s.handleEvent g token events io = .ok t) :
    OwnersKept s t := by
  unfold handleEvent at hok
  split_ifs at hok
  · cases hok
    exact (OwnersKept.refl s).of_slots (acceptLoop_slots _ s)
  · exact (handlerRule_ownersKept g).slotEvent hok
  · exact (handlerRule_ownersKept g).connEvent (fun _ _ _ => trivial) hok
  · cases hok
    exact .refl s

end Server

/-! ## Slots that are given -/

def OwnersGiven (s t : Server) : Prop :=
  ∀ idx id, t.ownerOf idx = some id → s.ownerOf idx = some id ∨ s.ownerOf idx = none

lemma OwnersKept.given (h : OwnersKept s t) : OwnersGiven s t :=
  fun idx id howner => Or.inl (h idx id howner)

def OwnersGivenTo (id : ℕ) (s t : Server) : Prop :=
  ∀ idx id', t.ownerOf idx = some id' → s.ownerOf idx = some id' ∨
    s.ownerOf idx = none ∧ id' = id

lemma OwnersKept.givenTo (h : OwnersKept s t) : OwnersGivenTo id s t :=
  fun idx id' howner => Or.inl (h idx id' howner)

lemma OwnersGivenTo.given (h : OwnersGivenTo id s t) : OwnersGiven s t :=
  fun idx id' howner => (h idx id' howner).imp_right And.left

lemma OwnersGivenTo.trans (h : OwnersGivenTo id s t) (h' : OwnersKept t s') :
    OwnersGivenTo id s s' :=
  fun idx id' howner => h idx id' (h' idx id' howner)

lemma IntStack.mem_of_pop {stack rest : IntStack} (h : stack.pop = some (idx, rest)) :
    idx ∈ stack.data := by
  unfold pop at h
  split at h
  · cases h
  · rename_i hdata
    cases h
    rw [hdata]
    exact List.mem_cons_self

namespace Server

lemma setSlot_givenTo (hnone : s.ownerOf idx = none) (howner : slot.owner = some id) :
    OwnersGivenTo id s (s.setSlot idx slot) := by
  intro j id' howner'
  rw [ownerOf_setSlot] at howner'
  split_ifs at howner' with hj
  · exact Or.inr ⟨hj.1 ▸ hnone, (Option.some.inj (howner.symm.trans howner')).symm⟩
  · exact Or.inl howner'

lemma submitInference_givenTo {c : Conn} {p : Pending}
    (hok : s.submitInference g id c p io = .ok t) (h : PoolInv s.slots s.freeSlots) :
    OwnersGivenTo id s t := by
  unfold submitInference at hok
  split at hok
  · cases hok
    exact (OwnersKept.refl s).givenTo
  · rename_i idx free hpop
    split at hok
    · cases hok
    · rename_i slot hslot
      have hnone : s.ownerOf idx = none := by
        obtain ⟨slot', hslot', hnone⟩ := (h.mem_iff idx).mp (IntStack.mem_of_pop hpop)
        rw [ownerOf_of_slot hslot', hnone]
      dsimp only at hok
      split_ifs at hok
      · split at hok
        · cases hok
          exact setSlot_givenTo hnone (Slot.connect_owner ..)
        · refine OwnersGivenTo.trans ?_ ((handlerRule_ownersKept g).slotDone hok)
          exact setSlot_givenTo hnone (Slot.connect_owner ..)
      · cases hok
        exact setSlot_givenTo hnone rfl

lemma flushConn_givenTo {c : Conn} {now : Ms} (hok : s.flushConn g id c now io = .ok t)
    (h : PoolInv s.slots s.freeSlots) : OwnersGivenTo id s t := by
  unfold flushConn at hok
  dsimp only at hok
  split_ifs at hok
  · cases hok
    exact (OwnersKept.refl s).givenTo
  · cases hok
    exact (OwnersKept.refl s).givenTo
  · have hgiven := submitInference_givenTo hok h
    exact hgiven

lemma step_ownersGiven {e : Event} (h : Inv g s) (hstep : s.step g e = some t) : OwnersGiven s t := by
  cases e with
  | Timer timer now io =>
    rw [step] at hstep
    split_ifs at hstep
    have hok := eq_ok_of_toOption hstep
    unfold processTimer at hok
    split at hok
    · cases hok
      exact (OwnersKept.refl s).given
    · rename_i c hc
      split_ifs at hok
      · have hgiven := (flushConn_givenTo hok h.pool).given
        exact hgiven
      · have hkept := (handlerRule_ownersKept g).timeoutConn hc hok
        exact hkept.given
      · cases hok
        exact (OwnersKept.refl s).given
  | Ready token events io => exact (handleEvent_ownersKept (eq_ok_of_toOption hstep)).given

/-! ## Exceptions -/

def raised (g : Setup) (s : Server) : Event → Option Exn
  | .Timer t now io => match { s with timers := s.timers.erase t }.processTimer g t now io with
      | .ok _ => none
      | .error e => some e
  | .Ready token events io => match s.handleEvent g token events io with
      | .ok _ => none
      | .error e => some e

end Server

lemma inferResponseOfBytes_error {d : Decoders} {b : Bytes} {pos len : ℤ} {e : Exn}
    (h : inferResponseOfBytes d b pos len = .error e) :
    e = .InvalidArgument "String.sub / Bytes.sub" := by
  unfold inferResponseOfBytes at h
  split at h
  · cases h
  · have hsub := eq_error_of_map h
    unfold subString at hsub
    split_ifs at hsub
    exact (Except.error.inj hsub).symm

namespace Server

lemma driveSlot_error {e : Exn} (h : Inv g s) (hslot : s.slots[idx]? = some slot)
    (howner : slot.owner = some id) (herr : s.driveSlot g idx slot io = .error e) :
    e = .InvalidArgument "String.sub / Bytes.sub" := by
  rcases driveSlot_cases h hslot howner io with ⟨t, ht, -⟩ | ⟨e', p, -, -, he', hdecode⟩
  · cases herr.symm.trans ht
  · cases herr.symm.trans he'
    exact inferResponseOfBytes_error hdecode

lemma slotEvent_error {events : ℕ} {e : Exn} (h : Inv g s)
    (herr : s.slotEvent g idx events io = .error e) :
    e = .InvalidArgument "String.sub / Bytes.sub" := by
  unfold slotEvent at herr
  split at herr
  · cases herr
  · rename_i slot hslot
    split_ifs at herr with hcan
    · obtain ⟨id, howner⟩ := Slot.owner_of_canHandleEvent hcan
      cases hdrive : s.driveSlot g idx slot io with
      | error e' =>
        rw [hdrive] at herr
        cases herr
        exact driveSlot_error h hslot howner hdrive
      | ok t =>
        rw [hdrive] at herr
        obtain ⟨u, hu, -⟩ := slotEventRest_quiet
          ((driveSlot_moves h hslot howner hdrive).inv h) idx events io
        cases herr.symm.trans hu
    · obtain ⟨id, howner⟩ := Slot.owner_of_canHandleEvent hcan
      rw [slotEventRest, hslot] at herr
      dsimp only at herr
      rw [if_pos hcan, if_neg Bool.false_ne_true] at herr
      split_ifs at herr
      · obtain ⟨u, hu, -⟩ := retryOrFail_quiet h hslot howner "inference socket error" io
        cases herr.symm.trans hu
      · exact driveSlot_error h hslot howner herr

theorem raised_eq {ev : Event} {e : Exn} (h : Inv g s) (hraised : s.raised g ev = some e) :
    e = .InvalidArgument "String.sub / Bytes.sub" := by
  have hquiet : ∀ {s : Server} {r : Except Exn Server}, Quiet g s r → r ≠ .error e := by
    rintro s _ ⟨t, rfl, -⟩ ⟨⟩
  cases ev with
  | Timer t now io =>
    rw [raised] at hraised
    split at hraised
    · cases hraised
    · rename_i e' herr
      cases hraised
      have htimers : Move g s { s with timers := s.timers.erase t } := .timers _
      exact absurd herr (hquiet (processTimer_quiet (htimers.inv h) t now io))
  | Ready token events io =>
    rw [raised] at hraised
    split at hraised
    · cases hraised
    · rename_i e' herr
      cases hraised
      unfold handleEvent at herr
      split_ifs at herr
      · exact slotEvent_error h herr
      · exact absurd herr (hquiet (connEvent_quiet h _ events io))

end Server

/-! ## The pool -/

theorem pool_integrity (hr : (server g).Reachable s) :
    s.freeSlots.data.Nodup ∧
      (∀ idx, idx ∈ s.freeSlots.data ↔ ∃ slot, s.slots[idx]? = some slot ∧ slot.isFree) ∧
      (∀ e, s.raised g e ≠ some (.InvalidArgument "Int_stack.push")) ∧
      (∀ e s', s.step g e = some s' → ∀ idx id id', s.ownerOf idx = some id →
        s'.ownerOf idx = some id' → id' = id) ∧
      ∀ idx slot, s.slots[idx]? = some slot → slot.state = .Idle ∨ slot.owner = none →
        ∀ events io, s.handleEvent g (firstSlotToken + idx) events io = .ok s := by
  have h := (server_inductive g).reachable hr
  refine ⟨h.pool.nodup, ?_, ?_, ?_, ?_⟩
  · intro idx
    rw [h.pool.mem_iff]
    refine exists_congr fun slot => and_congr_right fun hslot => ?_
    have hidle := h.pool.idle_iff slot (List.mem_of_getElem? hslot)
    simp [Slot.isFree, hidle]
  · intro e hraised
    have heq := Server.raised_eq h hraised
    simp at heq
  · intro e s' hstep idx id id' howner howner'
    rcases Server.step_ownersGiven h hstep idx id' howner' with hsame | hnone
    · exact Option.some.inj (hsame.symm.trans howner)
    · cases hnone.symm.trans howner
  · intro idx slot hslot hfree events io
    have hlt := (List.getElem?_eq_some_iff.mp hslot).1
    have hcan : ¬ slot.canHandleEvent := by
      rcases hfree with hidle | hnone
      · simp [Slot.canHandleEvent, hidle]
      · simp [Slot.canHandleEvent, hnone]
    have htoken : firstSlotToken + idx ≠ listenerToken := by
      show 2 + idx ≠ 1
      omega
    unfold Server.handleEvent
    rw [if_neg htoken, if_pos ⟨by omega, by omega⟩,
      Nat.add_sub_cancel_left, Server.slotEvent, hslot]
    exact if_neg hcan

theorem pool_integrity_oneFrame :
    ∃ s, (server sampleSetup).Reachable s ∧ s.ownerOf 0 = some 1 ∧ 0 ∉ s.freeSlots.data := by
  obtain ⟨s, hr, howner⟩ : ∃ s, (server sampleSetup).Reachable s ∧ s.ownerOf 0 = some 1 :=
    TransitionSystem.Reachable.exists_of_exec (oneFrame ++ answered.take 1) (by decide +kernel)
  refine ⟨s, hr, howner, fun hmem => ?_⟩
  obtain ⟨slot, hslot, hfree⟩ := ((pool_integrity hr).2.1 0).mp hmem
  rw [Server.ownerOf_of_slot hslot, (of_decide_eq_true hfree).2] at howner
  cases howner

end SttBench.OxcamlEpoll
