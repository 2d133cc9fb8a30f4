import SttBench.RustSync.Slot

/-! # rust-sync: the inference pool -/

namespace SttBench.RustSync

open Ascii Function Option

structure Done where
  owner : ℕ
  tag : ℕ
  result : InferResult
deriving DecidableEq, Repr

structure Wake where
  writable : Bool
  io : Io
  /-- A redial, if one is made, succeeds. -/
  connect : Bool
deriving DecidableEq, Repr

structure Pool where
  slots : List Slot
  /-- The top of the stack comes first. -/
  free : List ℕ
  /-- The next socket the operating system hands out. -/
  nextSock : SockId
deriving DecidableEq, Repr

def Slot.recycled (slot : Slot) : Slot :=
  if slot.sock.isSome then { slot with owner := none }.ensureRegistered
  else { slot with owner := none }.deregister

@[simp] lemma Slot.recycled_owner (s : Slot) : s.recycled.owner = none := by
  unfold Slot.recycled
  split <;> rfl

@[simp] lemma Slot.recycled_sock (s : Slot) : s.recycled.sock = s.sock := by
  unfold Slot.recycled
  split <;> rfl

@[simp] lemma Slot.recycled_active (s : Slot) : s.recycled.Active ↔ s.Active := by
  unfold Slot.recycled
  split <;> rfl

def Slot.work (s : Slot) : Option (ℕ × ℕ × Bytes) := s.owner.map fun o => (o, s.tag, s.req)

namespace Pool

def new (now : Instant) (size : ℕ) : Pool where
  slots := List.replicate size (Slot.new now)
  free := List.range size
  nextSock := 0

def hasInflight (p : Pool) : Bool := p.free.length ≠ p.slots.length

def recycle (p : Pool) (idx : ℕ) (slot : Slot) : Pool :=
  { p with slots := p.slots.set idx slot.recycled, free := idx :: p.free }

def submit (config : Config) (p : Pool) (owner tag : ℕ) (body : Bytes) (cpuPasses : ℕ)
    (now : Instant) (connect : Bool) : Except Panic (Pool × Option Done) :=
  match p.free with
  | [] => .ok (p, some ⟨owner, tag, .error resetError⟩)
  | idx :: free =>
    match p.slots[idx]? with
    | none => .error .SlotIndex
    | some slot =>
      let slot := { slot with owner := some owner, tag := tag }.build now config body cpuPasses
      if slot.sock.isSome then
        let slot := { slot with state := .Sending 0 }.ensureRegistered
        .ok ({ p with slots := p.slots.set idx slot, free := free }, none)
      else if connect then
        let slot := (slot.dial p.nextSock).ensureRegistered
        .ok (⟨p.slots.set idx slot, free, p.nextSock + 1⟩, none)
      else
        .ok ({ p with slots := p.slots.set idx { slot with owner := none }, free := idx :: free },
          some ⟨owner, tag, .error resetError⟩)

def finish (p : Pool) (idx : ℕ) (slot : Slot) (result : InferResult) : Pool × Option Done :=
  (p.recycle idx slot, slot.owner.map fun o => ⟨o, slot.tag, result⟩)

def onEvent (fromSlice : Bytes → Except String InferResponse) (p : Pool) (idx : ℕ)
    (writable : Bool) (io : Io) (connect : Bool) : Except Panic (Pool × Option Done) :=
  match p.slots[idx]? with
  | none => .error .SlotIndex
  | some slot =>
    (slot.drive fromSlice writable io).map fun (slot, step) =>
      match step with
      | .Pending _ => ({ p with slots := p.slots.set idx slot.ensureRegistered }, none)
      | .Redial =>
        if connect then
          (⟨p.slots.set idx (slot.dial p.nextSock).ensureRegistered, p.free, p.nextSock + 1⟩,
            none)
        else p.finish idx slot (.error resetError)
      | .Done result => p.finish idx slot result

def abortOwner (p : Pool) (owner : ℕ) : Pool :=
  match p.slots.findIdx? fun s => s.owner = some owner with
  | none => p
  | some idx =>
    match p.slots[idx]? with
    | none => p
    | some slot => p.recycle idx { slot with owner := none, sock := none, state := .Disconnected }

/-! ## What the operations can do -/

section

variable {p p' : Pool} {idx : ℕ} {d : Option Done}

lemma submit_cases {config : Config} {owner tag cpuPasses : ℕ} {body : Bytes} {now : Instant}
    {connect : Bool} (h : p.submit config owner tag body cpuPasses now connect = .ok (p', d)) :
    (p.free = [] ∧ p' = p ∧ d = some ⟨owner, tag, .error resetError⟩) ∨
      ∃ idx free old slot, p.free = idx :: free ∧ p.slots[idx]? = some old ∧
        slot = { old with owner := some owner, tag := tag }.build now config body cpuPasses ∧
        ((old.sock.isSome ∧ d = none ∧
            p' = ⟨p.slots.set idx { slot with state := .Sending 0 }.ensureRegistered, free,
              p.nextSock⟩) ∨
          (old.sock = none ∧ connect = true ∧ d = none ∧
            p' = ⟨p.slots.set idx (slot.dial p.nextSock).ensureRegistered, free,
              p.nextSock + 1⟩) ∨
          (old.sock = none ∧ connect = false ∧ d = some ⟨owner, tag, .error resetError⟩ ∧
            p' = ⟨p.slots.set idx { slot with owner := none }, p.free, p.nextSock⟩)) := by
  unfold submit at h
  cases hfree : p.free with
  | nil =>
    simp only [hfree, Except.ok.injEq, Prod.mk.injEq] at h
    exact Or.inl ⟨rfl, h.1.symm, h.2.symm⟩
  | cons idx free =>
    obtain hold | ⟨old, hold⟩ := eq_none_or_eq_some (p.slots[idx]?)
    · simp [hfree, hold] at h
    simp only [hfree, hold] at h
    refine Or.inr ⟨idx, free, old, _, rfl, hold, rfl, ?_⟩
    split_ifs at h with hsock hconn <;> obtain ⟨rfl, rfl⟩ := Prod.mk.inj (Except.ok.inj h)
    · exact Or.inl ⟨hsock, rfl, rfl⟩
    · exact Or.inr (Or.inl ⟨not_isSome_iff_eq_none.mp hsock, hconn, rfl, rfl⟩)
    · exact Or.inr (Or.inr ⟨not_isSome_iff_eq_none.mp hsock,
        Bool.eq_false_of_not_eq_true hconn, rfl, rfl⟩)

lemma onEvent_cases {fromSlice : Bytes → Except String InferResponse} {writable connect : Bool}
    {io : Io} (h : p.onEvent fromSlice idx writable io connect = .ok (p', d)) :
    ∃ old slot step, p.slots[idx]? = some old ∧
      old.drive fromSlice writable io = .ok (slot, step) ∧
      ((∃ w, step = .Pending w ∧ d = none ∧
          p' = ⟨p.slots.set idx slot.ensureRegistered, p.free, p.nextSock⟩) ∨
        (step = .Redial ∧ connect = true ∧ d = none ∧
          p' = ⟨p.slots.set idx (slot.dial p.nextSock).ensureRegistered, p.free, p.nextSock + 1⟩) ∨
        (step = .Redial ∧ connect = false ∧ (p', d) = p.finish idx slot (.error resetError)) ∨
        ∃ result, step = .Done result ∧ (p', d) = p.finish idx slot result) := by
  unfold onEvent at h
  obtain hold | ⟨old, hold⟩ := eq_none_or_eq_some (p.slots[idx]?)
  · simp [hold] at h
  cases hdrive : old.drive fromSlice writable io with
  | error e => simp [hold, hdrive, Except.map] at h
  | ok r =>
    obtain ⟨slot, step⟩ := r
    simp only [hold, hdrive, Except.map, Except.ok.injEq] at h
    refine ⟨old, slot, step, hold, hdrive, ?_⟩
    cases step with
    | Pending w =>
      cases h
      exact Or.inl ⟨w, rfl, rfl, rfl⟩
    | Redial =>
      cases connect with
      | true =>
        cases h
        exact Or.inr (Or.inl ⟨rfl, rfl, rfl, rfl⟩)
      | false => exact Or.inr (Or.inr (Or.inl ⟨rfl, rfl, h.symm⟩))
    | Done result => exact Or.inr (Or.inr (Or.inr ⟨result, rfl, h.symm⟩))

lemma abortOwner_cases (p : Pool) (owner : ℕ) :
    ((∀ (i : ℕ) (s : Slot), p.slots[i]? = some s → s.owner ≠ some owner) ∧
        p.abortOwner owner = p) ∨
      ∃ idx old, p.slots[idx]? = some old ∧ old.owner = some owner ∧
        p.abortOwner owner =
          p.recycle idx { old with owner := none, sock := none, state := .Disconnected } := by
  unfold abortOwner
  cases hidx : p.slots.findIdx? (fun s => s.owner = some owner) with
  | none =>
    refine Or.inl ⟨fun i s hs => ?_, rfl⟩
    simpa using List.findIdx?_eq_none_iff.mp hidx s (List.mem_of_getElem? hs)
  | some idx =>
    obtain ⟨hlt, hown, -⟩ := List.findIdx?_eq_some_iff_getElem.mp hidx
    have hold : p.slots[idx]? = some p.slots[idx] := List.getElem?_eq_getElem hlt
    exact Or.inr ⟨idx, _, hold, by simpa using hown, by simp only [hold]⟩

end

/-! ## Well-formed pools -/

structure WF (p : Pool) : Prop where
  free_nodup : p.free.Nodup
  free_lt : ∀ i ∈ p.free, i < p.slots.length
  free_iff : ∀ (i : ℕ) (s : Slot), p.slots[i]? = some s → (i ∈ p.free ↔ s.owner = none)
  parked : ∀ (i : ℕ) (s : Slot), p.slots[i]? = some s → s.owner = none → s.Parked

section

variable {p : Pool} {idx : ℕ} {slot : Slot}

lemma WF.update (h : p.WF) {free : List ℕ} (n : SockId) (hidx : idx < p.slots.length)
    (hnodup : free.Nodup) (hrest : ∀ j, j ≠ idx → (j ∈ free ↔ j ∈ p.free))
    (hown : idx ∈ free ↔ slot.owner = none) (hparked : slot.owner = none → slot.Parked) :
    (⟨p.slots.set idx slot, free, n⟩ : Pool).WF where
  free_nodup := hnodup
  free_lt j hj := by
    rw [List.length_set]
    by_cases hji : j = idx
    · exact hji ▸ hidx
    · exact h.free_lt j ((hrest j hji).mp hj)
  free_iff j s hs := by
    by_cases hji : j = idx
    · subst hji
      obtain rfl : slot = s := by simpa [hidx] using hs
      exact hown
    · rw [List.getElem?_set_ne (Ne.symm hji)] at hs
      exact (hrest j hji).trans (h.free_iff j s hs)
  parked j s hs := by
    by_cases hji : j = idx
    · subst hji
      obtain rfl : slot = s := by simpa [hidx] using hs
      exact hparked
    · rw [List.getElem?_set_ne (Ne.symm hji)] at hs
      exact h.parked j s hs

lemma WF.set (h : p.WF) (n : SockId) {old : Slot} (hold : p.slots[idx]? = some old)
    (hown : slot.owner = none ↔ old.owner = none) (hparked : slot.owner = none → slot.Parked) :
    (⟨p.slots.set idx slot, p.free, n⟩ : Pool).WF :=
  h.update n (List.getElem?_eq_some_iff.mp hold).1 h.free_nodup (fun _ _ => Iff.rfl)
    ((h.free_iff idx old hold).trans hown.symm) hparked

lemma WF.recycle (h : p.WF) {old : Slot} (hold : p.slots[idx]? = some old)
    (hown : old.owner ≠ none) (hparked : slot.Parked) : (p.recycle idx slot).WF := by
  have hfree : idx ∉ p.free := fun hf => hown ((h.free_iff idx old hold).mp hf)
  refine h.update p.nextSock (List.getElem?_eq_some_iff.mp hold).1
    (List.nodup_cons.mpr ⟨hfree, h.free_nodup⟩) (fun j hj => by simp [hj]) (by simp) fun _ => ?_
  simpa [Slot.Parked] using hparked

theorem WF.new (now : Instant) (size : ℕ) : (Pool.new now size).WF where
  free_nodup := List.nodup_range
  free_lt i hi := by simpa [Pool.new] using hi
  free_iff i s hs := by
    obtain ⟨hlt, rfl⟩ : i < size ∧ Slot.new now = s := by
      simpa [Pool.new, List.getElem?_replicate] using hs
    simp [Pool.new, Slot.new, hlt]
  parked i s hs _ := by
    obtain ⟨-, rfl⟩ : i < size ∧ Slot.new now = s := by
      simpa [Pool.new, List.getElem?_replicate] using hs
    exact Or.inr rfl

end

/-! ## What the pool holds

Thread A's correctness only depends on which slot works on which request, so each operation is
described by how that changes.
-/

def held (p : Pool) (i : ℕ) : Option (ℕ × ℕ × Bytes) :=
  p.slots[i]?.bind Slot.work

section

variable {p p' : Pool} {idx : ℕ} {d : Option Done} {old slot : Slot}

lemma held_eq (hold : p.slots[idx]? = some old) : p.held idx = old.work := by
  rw [held, hold, bind_some]

lemma held_new (now : Instant) (size : ℕ) : (Pool.new now size).held = fun _ => none := by
  funext i
  simp [held, Pool.new, bind_eq_none_iff, List.getElem?_replicate, Slot.work, Slot.new]

lemma held_set (hold : p.slots[idx]? = some old) (free : List ℕ) (n : SockId) :
    (⟨p.slots.set idx slot, free, n⟩ : Pool).held = update p.held idx slot.work := by
  have hlt := (List.getElem?_eq_some_iff.mp hold).1
  funext i
  by_cases hi : i = idx
  · subst hi
    simp [held, hlt]
  · rw [update_of_ne hi, held, held]
    simp only [List.getElem?_set_ne (Ne.symm hi)]

lemma held_set_same (hold : p.slots[idx]? = some old) (slot : Slot) (hwork : slot.work = old.work)
    (free : List ℕ) (n : SockId) :
    (⟨p.slots.set idx slot, free, n⟩ : Pool).held = p.held := by
  rw [held_set hold, hwork, ← held_eq hold, update_eq_self]

lemma held_recycle (hold : p.slots[idx]? = some old) :
    (p.recycle idx slot).held = update p.held idx none := by
  rw [recycle, held_set hold, Slot.work, Slot.recycled_owner, map_none]

theorem submit_spec {config : Config} {owner tag cpuPasses : ℕ} {body : Bytes} {now : Instant}
    {connect : Bool} (hwf : p.WF)
    (h : p.submit config owner tag body cpuPasses now connect = .ok (p', d)) :
    p'.WF ∧
      ((d = some ⟨owner, tag, .error resetError⟩ ∧ p'.held = p.held) ∨
        (d = none ∧ ∃ idx, p.held idx = none ∧ p'.held =
          update p.held idx (some (owner, tag, Slot.request config body cpuPasses)))) := by
  rcases submit_cases h with ⟨-, rfl, rfl⟩ | ⟨idx, free, old, slot, hfree, hold, rfl, hcase⟩
  · exact ⟨hwf, Or.inl ⟨rfl, rfl⟩⟩
  have hmem : idx ∈ p.free := hfree ▸ List.mem_cons_self
  have hnodup : idx ∉ free ∧ free.Nodup := List.nodup_cons.mp (hfree ▸ hwf.free_nodup)
  have hidx := hwf.free_lt idx hmem
  have hown : old.owner = none := (hwf.free_iff idx old hold).mp hmem
  have hidle : old.work = none := by rw [Slot.work, hown, map_none]
  -- a slot that takes the request on leaves the free list
  have htake : ∀ (slot : Slot) (n : SockId),
      slot.work = some (owner, tag, Slot.request config body cpuPasses) →
      (⟨p.slots.set idx slot, free, n⟩ : Pool).WF ∧ ∃ idx', p.held idx' = none ∧
        (⟨p.slots.set idx slot, free, n⟩ : Pool).held =
          update p.held idx' (some (owner, tag, Slot.request config body cpuPasses)) := by
    intro slot n hwork
    have howned : slot.owner ≠ none := fun hn => by simp [Slot.work, hn] at hwork
    refine ⟨hwf.update n hidx hnodup.2 (fun j hj => by simp [hfree, hj]) ?_ ?_, idx, ?_, ?_⟩
    · simp [hnodup.1, howned]
    · exact fun hn => absurd hn howned
    · rw [held_eq hold, hidle]
    · rw [held_set hold, hwork]
  rcases hcase with ⟨-, rfl, rfl⟩ | ⟨-, -, rfl, rfl⟩ | ⟨-, -, rfl, rfl⟩
  · exact (htake _ _ rfl).imp id fun hh => Or.inr ⟨rfl, hh⟩
  · exact (htake _ _ rfl).imp id fun hh => Or.inr ⟨rfl, hh⟩
  · refine ⟨hwf.update p.nextSock hidx hwf.free_nodup (fun _ _ => Iff.rfl) (by simp [hmem])
      fun _ => hwf.parked idx old hold hown, Or.inl ⟨rfl, held_set_same hold _ ?_ _ _⟩⟩
    rw [hidle]
    rfl

theorem onEvent_spec {fromSlice : Bytes → Except String InferResponse} {writable connect : Bool}
    {io : Io} (hwf : p.WF) (h : p.onEvent fromSlice idx writable io connect = .ok (p', d)) :
    p'.WF ∧
      ((d = none ∧ p'.held = p.held) ∨
        ∃ done slot, d = some done ∧ p.slots[idx]? = some slot ∧
          slot.work = some (done.owner, done.tag, slot.req) ∧
          p'.held = update p.held idx none ∧
          ∀ infer, done.result = .ok infer →
            ∃ slot', slot.drive fromSlice writable io = .ok (slot', .Done (.ok infer))) := by
  obtain ⟨old, slot, step, hold, hdrive, hcase⟩ := onEvent_cases h
  have hdriven := Slot.drive_cases hdrive
  obtain ⟨hown, htag, hreq⟩ := hdriven.frame
  -- an unowned slot is parked, so it only ever waits
  have hwait : slot.owner = none → step = .Pending false ∧ slot.Parked := fun hn =>
    hdriven.of_parked (hwf.parked idx old hold (hown.symm.trans hn))
  have hwork : slot.work = old.work := by rw [Slot.work, Slot.work, hown, htag, hreq]
  have hfinish : ∀ result, step ≠ .Pending false → slot.Parked →
      (∀ infer, result = .ok infer → step = .Done (.ok infer)) →
      (p', d) = p.finish idx slot result →
      p'.WF ∧ ∃ done slot, d = some done ∧ p.slots[idx]? = some slot ∧
        slot.work = some (done.owner, done.tag, slot.req) ∧
        p'.held = update p.held idx none ∧
        ∀ infer, done.result = .ok infer →
          ∃ slot', slot.drive fromSlice writable io = .ok (slot', .Done (.ok infer)) := by
    intro result hstep hparked hresult hfin
    obtain ⟨o, ho⟩ := ne_none_iff_exists'.mp fun hn => hstep (hwait hn).1
    rw [finish, ho, map_some] at hfin
    cases hfin
    have howned : old.owner ≠ none := fun hn => by simp [hown, hn] at ho
    refine ⟨hwf.recycle hold howned hparked, _, old, rfl, hold, ?_, held_recycle hold, ?_⟩
    · rw [← hwork, Slot.work, ho, map_some, hreq]
    · exact fun infer hi => ⟨slot, by rw [hdrive, hresult infer hi]⟩
  rcases hcase with ⟨w, rfl, rfl, rfl⟩ | ⟨rfl, -, rfl, rfl⟩ | ⟨rfl, -, hfin⟩ | ⟨result, rfl, hfin⟩
  · exact ⟨hwf.set p.nextSock hold (by rw [← hown]; rfl) fun hn => (hwait hn).2,
      Or.inl ⟨rfl, held_set_same hold slot.ensureRegistered hwork _ _⟩⟩
  · exact ⟨hwf.set (p.nextSock + 1) hold (by rw [← hown]; rfl)
      fun hn => absurd (hwait hn).1 (by simp),
      Or.inl ⟨rfl, held_set_same hold (slot.dial p.nextSock).ensureRegistered hwork _ _⟩⟩
  · exact (hfinish _ (by simp) hdriven.parked_of_redial (by simp) hfin).imp id Or.inr
  · exact (hfinish _ (by simp) hdriven.parked_of_done (by simp) hfin).imp id Or.inr

theorem abortOwner_spec (hwf : p.WF) (owner : ℕ) :
    (p.abortOwner owner).WF ∧
      (((∀ i t req, p.held i ≠ some (owner, t, req)) ∧ (p.abortOwner owner).held = p.held) ∨
        ∃ idx t req, p.held idx = some (owner, t, req) ∧
          (p.abortOwner owner).held = update p.held idx none) := by
  rcases abortOwner_cases p owner with ⟨hnone, heq⟩ | ⟨idx, old, hold, hown, heq⟩ <;> rw [heq]
  · refine ⟨hwf, Or.inl ⟨fun i t req hi => ?_, rfl⟩⟩
    obtain ⟨s, hs, hwork⟩ := bind_eq_some_iff.mp hi
    obtain ⟨o, ho, hwork⟩ := map_eq_some_iff.mp hwork
    exact hnone i s hs ((Prod.mk.inj hwork).1 ▸ ho)
  · refine ⟨hwf.recycle hold (by simp [hown]) (Or.inr rfl), Or.inr ⟨idx, old.tag, old.req, ?_, ?_⟩⟩
    · rw [held_eq hold, Slot.work, hown, map_some]
    · exact held_recycle hold

end

end Pool

end SttBench.RustSync
