import SttBench.OxcamlEpoll.Answers

/-! # ocaml-oxcaml-epoll: whose event it is -/

namespace SttBench.OxcamlEpoll

open Ascii

/-! ## The configuration -/

def intEnv (value : Option Bytes) (default : ℤ) : ℤ :=
  match value with
  | none => default
  | some [] => default
  | some s => (intOfString s).getD default

def loadInferenceHttpClients (value : Option Bytes) : ℤ := max 1 (intEnv value 1024)

/-! ## Tokens -/

inductive Target
  | Listener
  | Slot (idx : ℕ)
  | Conn (id : ℕ)
deriving DecidableEq, Repr

def Target.token : Target → ℕ
  | .Listener => listenerToken
  | .Slot idx => firstSlotToken + idx
  | .Conn id => firstConnToken + id

def intVal (n : ℤ) : BitVec 32 := BitVec.ofInt 32 n

def epollData (token : ℤ) : BitVec 64 := (intVal token).signExtend 64

def reportedToken (data : BitVec 64) : ℤ := (data.setWidth 32).toInt

def echo (token : ℤ) : ℤ := reportedToken (epollData token)

lemma echo_eq_bmod (token : ℤ) : echo token = token.bmod (2 ^ 32) := by
  have hlow : (epollData token).setWidth 32 = intVal token := by
    refine BitVec.eq_of_getLsbD_eq fun i hi => ?_
    have hi' : i < 64 := by omega
    simp only [epollData, BitVec.getLsbD_setWidth, BitVec.getLsbD_signExtend, hi, hi', decide_true,
      Bool.true_and, if_true]
  rw [echo, reportedToken, hlow, intVal, BitVec.toInt_ofInt]

lemma echo_of_lt {token : ℕ} (h : token < 2 ^ 31) : echo token = token := by
  rw [echo_eq_bmod]
  exact Int.bmod_eq_of_le (by omega) (by omega)

lemma echo_overflow : echo (2 ^ 31 : ℕ) = -2 ^ 31 := by decide

/-! ## Dispatch -/

def target (slots : ℕ) (token : ℤ) : Option Target :=
  if token = listenerToken then some .Listener
  else if firstSlotToken ≤ token ∧ token < firstSlotToken + slots then
    some (.Slot (token - firstSlotToken).toNat)
  else if firstConnToken ≤ token then some (.Conn (token - firstConnToken).toNat)
  else none

namespace Server

variable {g : Setup} {s s' : Server}

def serve (g : Setup) (s : Server) (t : Option Target) (events : ℕ) (io : Io) : Except Exn Server :=
  match t with
  | some .Listener => .ok (s.acceptLoop g io.accepts)
  | some (.Slot idx) => s.slotEvent g idx events io
  | some (.Conn id) => s.connEvent g id events io
  | none => .ok s

lemma handleEvent_eq (s : Server) (token events : ℕ) (io : Io) :
    s.handleEvent g token events io = s.serve g (target s.slots.length token) events io := by
  unfold handleEvent target
  simp only [Nat.cast_inj, ← Nat.cast_add, Nat.cast_le, Nat.cast_lt, Int.toNat_sub]
  split_ifs <;> rfl

structure Sized (g : Setup) (s : Server) : Prop where
  slots : s.slots.length = g.config.inferenceHttpClients
  next : 1 ≤ s.nextConnId

lemma sized_of_move (hm : Move g s s') (h : s.Sized g) : s'.Sized g := by
  cases hm with
  | accept now jitter => exact ⟨h.slots, Nat.le_succ_of_le h.next⟩
  | drive | finish | submit | abandon => exact ⟨(List.length_set ..).trans h.slots, h.next⟩
  | _ => exact ⟨h.slots, h.next⟩

def Registered (s : Server) : Target → Prop
  | .Listener => True
  | .Slot idx => idx < s.slots.length
  | .Conn id => 1 ≤ id ∧ id < s.nextConnId

def Routes (s : Server) : Prop :=
  (∀ t t', s.Registered t → s.Registered t' → echo t.token = echo t'.token → t = t') ∧
    ∀ t, s.Registered t → target s.slots.length (echo t.token) = some t

lemma sized_of_moves (hm : Moves g s s') (h : s.Sized g) : s'.Sized g := by
  induction hm with
  | refl s => exact h
  | head hm _ _ ih => exact ih (sized_of_move hm h)

lemma sized_inductive (g : Setup) : (server g).InductiveUnder (Inv g) (Sized g) where
  init := by
    rintro s rfl
    exact ⟨List.length_replicate .., le_rfl⟩
  step _ _ _ hinv h hstep := sized_of_moves (step_moves hinv hstep) h

lemma token_lt (hslots : s.slots.length + 1 < 2 ^ 31)
    (hconns : s.nextConnId ≤ 1 ∨ s.nextConnId + 9999 < 2 ^ 31) {t : Target}
    (ht : s.Registered t) : t.token < 2 ^ 31 := by
  cases t with
  | Listener => exact Nat.one_lt_two_pow (by decide)
  | Slot idx =>
    have hlt : idx < s.slots.length := ht
    show 2 + idx < 2 ^ 31
    omega
  | Conn id =>
    obtain ⟨hpos, hlt⟩ : 1 ≤ id ∧ id < s.nextConnId := ht
    show 10000 + id < 2 ^ 31
    omega

lemma target_token (h : s.nextConnId ≤ 1 ∨ s.slots.length ≤ 9999) {t : Target}
    (ht : s.Registered t) : target s.slots.length t.token = some t := by
  unfold target Target.token listenerToken firstSlotToken firstConnToken
  cases t with
  | Listener => rfl
  | Slot idx =>
    have hlt : idx < s.slots.length := ht
    dsimp only
    rw [if_neg (by omega), if_pos (by omega)]
    congr
    omega
  | Conn id =>
    obtain ⟨hpos, hlt⟩ : 1 ≤ id ∧ id < s.nextConnId := ht
    dsimp only
    rw [if_neg (by omega), if_neg (by omega), if_pos (by omega)]
    congr
    omega

lemma target_overflow (slots : ℕ) : target slots (echo (2 ^ 31 : ℕ)) = none := by
  rw [echo_overflow]
  unfold target listenerToken firstSlotToken firstConnToken
  rw [if_neg (by omega), if_neg (by omega), if_neg (by omega)]

lemma target_crowded {slots : ℕ} (h : 10000 ≤ slots) :
    target slots (echo (Target.Conn 1).token) = some (.Slot 9999) := by
  have hecho : echo (Target.Conn 1).token = 10001 := by decide
  rw [hecho]
  unfold target listenerToken firstSlotToken
  rw [if_neg (by omega), if_pos (by omega)]
  rfl

end Server

theorem events_routed_iff {g : Setup} {s : Server} (hr : (server g).Reachable s) :
    s.Routes ↔
      s.nextConnId = 1 ∧ g.config.inferenceHttpClients + 1 < 2 ^ 31 ∨
        g.config.inferenceHttpClients ≤ 9999 ∧ s.nextConnId + 9999 < 2 ^ 31 := by
  obtain ⟨hslots, hnext⟩ := (Server.sized_inductive g).reachable
    (fun _ => (server_inductive g).reachable) hr
  rw [← hslots]
  constructor
  · rintro ⟨-, hroutes⟩
    by_cases hnone : s.nextConnId = 1
    · refine .inl ⟨hnone, ?_⟩
      by_contra hmany
      have hlast := hroutes (.Slot (2 ^ 31 - 2)) (show 2 ^ 31 - 2 < s.slots.length by omega)
      rw [show (Target.Slot (2 ^ 31 - 2)).token = 2 ^ 31 from rfl, Server.target_overflow] at hlast
      cases hlast
    · refine .inr ⟨?_, ?_⟩
      · by_contra hmany
        have hfirst := hroutes (.Conn 1) ⟨le_rfl, by omega⟩
        rw [Server.target_crowded (by omega)] at hfirst
        cases hfirst
      · by_contra hmany
        have hlast := hroutes (.Conn (2 ^ 31 - 10000)) ⟨by decide, by omega⟩
        rw [show (Target.Conn (2 ^ 31 - 10000)).token = 2 ^ 31 from rfl, Server.target_overflow]
          at hlast
        cases hlast
  · intro h
    have hroutes : ∀ t, s.Registered t → target s.slots.length (echo t.token) = some t := by
      intro t ht
      rw [echo_of_lt (Server.token_lt (by omega) (by omega) ht)]
      exact Server.target_token (by omega) ht
    refine ⟨fun t t' ht ht' heq => ?_, hroutes⟩
    have htarget := hroutes t ht
    rw [heq, hroutes t' ht'] at htarget
    exact (Option.some.inj htarget).symm

theorem events_routed_iff_oneClient :
    ∃ s, (server sampleSetup).Reachable s ∧ s.nextConnId = 2 ∧ s.Routes := by
  obtain ⟨s, hs, hnext⟩ : ∃ s, (server sampleSetup).Reachable s ∧ s.nextConnId = 2 :=
    TransitionSystem.Reachable.exists_of_exec (oneFrame.take 1) (by decide +kernel)
  refine ⟨s, hs, hnext, (events_routed_iff hs).mpr (.inr ⟨by decide, ?_⟩)⟩
  rw [hnext]
  omega

def crowdedSetup : Setup :=
  { sampleSetup with
    config := { sampleSetup.config with
      inferenceHttpClients := (loadInferenceHttpClients (some (bytes "10000"))).toNat } }

theorem crowded_misrouted :
    ∃ s, (server crowdedSetup).Reachable s ∧ (s.conns 1).isSome ∧ s.Registered (.Conn 1) ∧
      s.Registered (.Slot 9999) ∧ echo (Target.Conn 1).token = echo (Target.Slot 9999).token ∧
      target s.slots.length (echo (Target.Conn 1).token) = some (.Slot 9999) ∧
      ∀ events io, s.handleEvent crowdedSetup (Target.Conn 1).token events io = .ok s := by
  have hclients : crowdedSetup.config.inferenceHttpClients = 10000 := by decide +kernel
  let s : Server := (Server.create crowdedSetup).acceptLoop crowdedSetup [(0, 0)]
  have hs : (server crowdedSetup).Reachable s :=
    .step (.start rfl) (e := .Ready listenerToken epollin { sampleIo with accepts := [(0, 0)] }) rfl
  have hslots : s.slots = List.replicate 10000 Slot.new := congrArg (List.replicate · _) hclients
  have hlength : s.slots.length = 10000 := by rw [hslots, List.length_replicate]
  refine ⟨s, hs, rfl, ⟨le_rfl, Nat.one_lt_two⟩, ?_, by decide, ?_, fun events io => ?_⟩
  · show 9999 < s.slots.length
    omega
  · exact Server.target_crowded hlength.ge
  · have htarget := Server.target_crowded hlength.ge
    rw [echo_of_lt (by decide)] at htarget
    rw [Server.handleEvent_eq, htarget, Server.serve, Server.slotEvent, hslots,
      List.getElem?_replicate, if_pos (by decide)]
    exact if_neg (by decide)

end SttBench.OxcamlEpoll
