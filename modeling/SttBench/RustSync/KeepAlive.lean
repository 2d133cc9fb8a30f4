import SttBench.Core.TransitionSystem
import SttBench.RustSync.Delivery

/-! # rust-sync: framing on a kept socket -/

namespace SttBench.RustSync

open Ascii Http1
open Wire (silenceAnswer lengthDelimited_silenceAnswer)

structure Finish where
  sock : SockId
  exchange : ℕ
  /-- Everything read from the socket since the exchange began. -/
  consumed : Bytes
  result : InferResult
deriving DecidableEq, Repr

structure Traced where
  pool : Pool
  current : SockId → ℕ
  exchanges : ℕ
  finished : List Finish

inductive PoolEvent
  | Submit (owner tag : ℕ) (body : Bytes) (cpuPasses : ℕ) (now : Instant) (connect : Bool)
  | Ready (idx : ℕ) (w : Wake)
  | Abort (owner : ℕ)

namespace Traced

def beginOn (t : Traced) (p : Pool) (k : SockId) : Traced :=
  { t with pool := p, current := Function.update t.current k t.exchanges,
           exchanges := t.exchanges + 1 }

def finish (t : Traced) (p : Pool) (slot : Slot) (result : InferResult) : Traced :=
  { t with pool := p,
           finished := t.finished ++
             (slot.sock.map fun k => ⟨k, t.current k, slot.resp, result⟩).toList }

def nextSocket (t : Traced) : Option SockId :=
  (t.pool.free.head?.bind (t.pool.slots[·]?)).map fun slot => slot.sock.getD t.pool.nextSock

variable (config : Config) (fromSlice : Bytes → Except String InferResponse)

def step (t : Traced) : PoolEvent → Option Traced
  | .Submit owner tag body cpuPasses now connect =>
    match t.pool.submit config owner tag body cpuPasses now connect, t.nextSocket with
    | .ok (p, none), some k => some (t.beginOn p k)
    | .ok (p, _), _ => some { t with pool := p }
    | .error _, _ => none
  | .Ready idx w =>
    match t.pool.slots[idx]? with
    | none => none
    | some slot =>
      match slot.drive fromSlice w.writable w.io,
          t.pool.onEvent fromSlice idx w.writable w.io w.connect with
      | .ok (slot, step), .ok (p, _) =>
        match step with
        | .Pending _ => some { t with pool := p }
        | .Redial =>
          if w.connect then some (t.beginOn p t.pool.nextSock)
          else some { t with pool := p }
        | .Done result => some (t.finish p slot result)
      | _, _ => none
  | .Abort owner => some { t with pool := t.pool.abortOwner owner }

def start (now : Instant) (size : ℕ) : Traced := ⟨Pool.new now size, fun _ => 0, 0, []⟩

end Traced

def keepAlive (config : Config) (fromSlice : Bytes → Except String InferResponse) (now : Instant)
    (size : ℕ) : TransitionSystem Traced PoolEvent :=
  TransitionSystem.ofFun (Traced.start now size) (Traced.step config fromSlice)

def ServerFrames (answer : ℕ → Response) (t : Traced) : PoolEvent → Prop
  | .Ready idx w => ∀ slot ∈ t.pool.slots[idx]?, ∀ k ∈ slot.sock, slot.requestOut w.io →
      slot.resp ++ delivered w.io.reads <+: (answer (t.current k)).wire
  | _ => True

instance (answer : ℕ → Response) (t : Traced) : ∀ e, Decidable (ServerFrames answer t e)
  | .Submit .. => isTrue trivial
  | .Ready idx w => inferInstanceAs (Decidable (∀ slot ∈ t.pool.slots[idx]?, ∀ k ∈ slot.sock,
      slot.requestOut w.io → slot.resp ++ delivered w.io.reads <+: (answer (t.current k)).wire))
  | .Abort _ => isTrue trivial

def Framed (fromSlice : Bytes → Except String InferResponse) (answer : ℕ → Response) (f : Finish) :
    Prop :=
  f.consumed = (answer f.exchange).wire ∧ ∃ elapsed,
    f.result = outcome elapsed
      (interpret fromSlice (answer f.exchange).status (answer f.exchange).body)

structure KeepAliveInv (fromSlice : Bytes → Except String InferResponse) (answer : ℕ → Response)
    (t : Traced) : Prop where
  sock_lt : ∀ (i : ℕ) (s : Slot) (k : SockId), t.pool.slots[i]? = some s → s.sock = some k →
    k < t.pool.nextSock
  sock_inj : ∀ (i j : ℕ) (s s' : Slot) (k : SockId), t.pool.slots[i]? = some s →
    t.pool.slots[j]? = some s' → s.sock = some k → s'.sock = some k → i = j
  aligned : ∀ (i : ℕ) (s : Slot) (k : SockId), t.pool.slots[i]? = some s → s.sock = some k →
    s.Active → s.resp <+: (answer (t.current k)).wire
  framed : ∀ f ∈ t.finished, Framed fromSlice answer f

section

variable {config : Config} {fromSlice : Bytes → Except String InferResponse}
  {answer : ℕ → Response} {t t' : Traced} {idx : ℕ} {old slot : Slot}

lemma KeepAliveInv.update (h : KeepAliveInv fromSlice answer t) {free : List ℕ} {n : SockId}
    {current : SockId → ℕ} {exchanges : ℕ} {finished : List Finish}
    (hold : t.pool.slots[idx]? = some old) (hn : t.pool.nextSock ≤ n)
    (hsock : ∀ k, slot.sock = some k → old.sock = some k ∨ (t.pool.nextSock ≤ k ∧ k < n))
    (hcur : ∀ k, slot.sock ≠ some k → current k = t.current k)
    (halign : ∀ k, slot.sock = some k → slot.Active → slot.resp <+: (answer (current k)).wire)
    (hfin : ∀ f ∈ finished, Framed fromSlice answer f) :
    KeepAliveInv fromSlice answer
      ⟨⟨t.pool.slots.set idx slot, free, n⟩, current, exchanges, finished⟩ := by
  have hlt := (List.getElem?_eq_some_iff.mp hold).1
  have hget : ∀ {i : ℕ} {s : Slot}, (t.pool.slots.set idx slot)[i]? = some s →
      (i = idx ∧ s = slot) ∨ (i ≠ idx ∧ t.pool.slots[i]? = some s) := by
    intro i s hs
    by_cases hi : i = idx
    · subst hi
      exact Or.inl ⟨rfl, by simpa [hlt, eq_comm] using hs⟩
    · exact Or.inr ⟨hi, by rwa [List.getElem?_set_ne (Ne.symm hi)] at hs⟩
  -- the changed slot's socket belongs to no other slot
  have hother : ∀ {i : ℕ} {s : Slot} {k : SockId}, i ≠ idx → t.pool.slots[i]? = some s →
      s.sock = some k → slot.sock ≠ some k := by
    intro i s k hi hs hk hk'
    rcases hsock k hk' with ho | ⟨hge, -⟩
    · exact hi (h.sock_inj i idx s old k hs hold hk ho)
    · exact not_lt.mpr hge (h.sock_lt i s k hs hk)
  refine ⟨?_, ?_, ?_, hfin⟩
  · intro i s k hs hk
    rcases hget hs with ⟨-, rfl⟩ | ⟨-, hs⟩
    · rcases hsock k hk with ho | ⟨-, hk⟩
      · exact lt_of_lt_of_le (h.sock_lt idx old k hold ho) hn
      · exact hk
    · exact lt_of_lt_of_le (h.sock_lt i s k hs hk) hn
  · intro i j s s' k hs hs' hk hk'
    rcases hget hs with ⟨rfl, rfl⟩ | ⟨hi, hi'⟩ <;> rcases hget hs' with ⟨rfl, rfl⟩ | ⟨hj, hj'⟩
    · rfl
    · exact absurd hk (hother hj hj' hk')
    · exact absurd hk' (hother hi hi' hk)
    · exact h.sock_inj i j s s' k hi' hj' hk hk'
  · intro i s k hs hk ha
    rcases hget hs with ⟨-, rfl⟩ | ⟨hi, hs⟩
    · exact halign k hk ha
    · simp only
      rw [hcur k (hother hi hs hk)]
      exact h.aligned i s k hs hk ha

lemma KeepAliveInv.beginOn (h : KeepAliveInv fromSlice answer t) {free : List ℕ} {n : SockId}
    {k : SockId} (hold : t.pool.slots[idx]? = some old) (hn : t.pool.nextSock ≤ n)
    (hk : slot.sock = some k) (hsock : old.sock = some k ∨ (t.pool.nextSock ≤ k ∧ k < n))
    (hresp : slot.resp = []) :
    KeepAliveInv fromSlice answer (t.beginOn ⟨t.pool.slots.set idx slot, free, n⟩ k) := by
  refine h.update hold hn (fun k' hk' => ?_) (fun k' hk' => ?_) (fun _ _ _ => ?_) h.framed
  · obtain rfl : k = k' := Option.some.inj (hk.symm.trans hk')
    exact hsock
  · exact Function.update_of_ne (fun he : k' = k => hk' (he ▸ hk)) _ _
  · simp [hresp]

lemma KeepAliveInv.keep (h : KeepAliveInv fromSlice answer t) {free : List ℕ}
    (hold : t.pool.slots[idx]? = some old) (hsock : ∀ k, slot.sock = some k → old.sock = some k)
    (halign : ∀ k, slot.sock = some k → slot.Active → slot.resp <+: (answer (t.current k)).wire) :
    KeepAliveInv fromSlice answer
      { t with pool := ⟨t.pool.slots.set idx slot, free, t.pool.nextSock⟩ } :=
  h.update hold le_rfl (fun k hk => Or.inl (hsock k hk)) (fun _ _ => rfl) halign h.framed

lemma KeepAliveInv.recycle (h : KeepAliveInv fromSlice answer t) {finished : List Finish}
    (hold : t.pool.slots[idx]? = some old) (hsock : ∀ k, slot.sock = some k → old.sock = some k)
    (hidle : ∀ k, slot.sock = some k → ¬ slot.Active)
    (hfin : ∀ f ∈ finished, Framed fromSlice answer f) :
    KeepAliveInv fromSlice answer
      { t with pool := t.pool.recycle idx slot, finished := finished } := by
  refine h.update hold le_rfl (fun k hk => Or.inl (hsock k ?_)) (fun _ _ => rfl)
    (fun k hk ha => absurd (slot.recycled_active.mp ha) (hidle k ?_)) hfin
  · simpa using hk
  · simpa using hk

lemma KeepAliveInv.submit (h : KeepAliveInv fromSlice answer t) {owner tag cpuPasses : ℕ}
    {body : Bytes} {now : Instant} {connect : Bool}
    (hstep : t.step config fromSlice (.Submit owner tag body cpuPasses now connect) = some t') :
    KeepAliveInv fromSlice answer t' := by
  simp only [Traced.step] at hstep
  cases hsub : t.pool.submit config owner tag body cpuPasses now connect with
  | error e => simp [hsub] at hstep
  | ok r =>
    obtain ⟨p, d⟩ := r
    rcases Pool.submit_cases hsub with ⟨-, rfl, rfl⟩ | ⟨idx, free, old, slot, hfree, hold, rfl, hcase⟩
    · simp only [hsub, Option.some.injEq] at hstep
      exact hstep ▸ h
    have hnext : t.nextSocket = some (old.sock.getD t.pool.nextSock) := by
      simp [Traced.nextSocket, hfree, hold]
    rcases hcase with ⟨hsome, rfl, rfl⟩ | ⟨hnone, -, rfl, rfl⟩ | ⟨hnone, -, rfl, rfl⟩
    · obtain ⟨k, hk⟩ := Option.isSome_iff_exists.mp hsome
      have hnext : t.nextSocket = some k := by simp [hnext, hk]
      simp only [hsub, hnext, Option.some.injEq] at hstep
      subst hstep
      exact h.beginOn hold le_rfl hk (Or.inl hk) rfl
    · have hnext : t.nextSocket = some t.pool.nextSock := by simp [hnext, hnone]
      simp only [hsub, hnext, Option.some.injEq] at hstep
      exact hstep ▸ h.beginOn hold (Nat.le_succ _) rfl (Or.inr ⟨le_rfl, Nat.lt_succ_self _⟩) rfl
    · simp only [hsub, Option.some.injEq] at hstep
      refine hstep ▸ h.keep hold (fun k hk => hk) fun k hk => ?_
      exact absurd (hnone.symm.trans hk) (by simp)

lemma KeepAliveInv.abort (h : KeepAliveInv fromSlice answer t) {owner : ℕ}
    (hstep : t.step config fromSlice (.Abort owner) = some t') :
    KeepAliveInv fromSlice answer t' := by
  simp only [Traced.step, Option.some.injEq] at hstep
  subst hstep
  rcases Pool.abortOwner_cases t.pool owner with ⟨-, heq⟩ | ⟨idx, old, hold, -, heq⟩ <;> rw [heq]
  · exact h
  · exact h.recycle hold (by simp) (by simp) h.framed

lemma framed_of_answered
    (hanswer : ∀ n, LengthDelimited (answer n) ∧ (answer n).wire.length < usizeBound)
    {k : SockId} {w : Wake} {result : Except ParseErr InferResponse}
    (hserver : old.resp ++ delivered w.io.reads <+: (answer (t.current k)).wire)
    (hparse : parseResponse fromSlice (old.resp ++ delivered w.io.reads) = .ok (some result)) :
    Framed fromSlice answer ⟨k, t.current k, old.resp ++ delivered w.io.reads,
      outcome (w.io.now - old.started) result⟩ := by
  obtain ⟨hr, hlen⟩ := hanswer (t.current k)
  obtain ⟨rest, hrest⟩ := hserver
  rw [parseResponse_stretch fromSlice hr hlen (by rw [hrest])] at hparse
  split_ifs at hparse with hdone
  · obtain rfl := Option.some.inj (Except.ok.inj hparse)
    have hnil : rest = [] := by
      have := congrArg List.length hrest
      rw [List.length_append] at this
      exact List.eq_nil_of_length_eq_zero (by omega)
    exact ⟨by simpa [hnil] using hrest, _, rfl⟩
  · simp at hparse

lemma KeepAliveInv.ready (h : KeepAliveInv fromSlice answer t)
    (hanswer : ∀ n, LengthDelimited (answer n) ∧ (answer n).wire.length < usizeBound) {w : Wake}
    (hserver : ServerFrames answer t (.Ready idx w))
    (hstep : t.step config fromSlice (.Ready idx w) = some t') :
    KeepAliveInv fromSlice answer t' := by
  simp only [Traced.step] at hstep
  cases hev : t.pool.onEvent fromSlice idx w.writable w.io w.connect with
  | error e =>
    cases hs : t.pool.slots[idx]? with
    | none => simp [hs] at hstep
    | some s => simp [hs, hev] at hstep
  | ok r =>
    obtain ⟨p, d⟩ := r
    obtain ⟨old, slot, step, hold, hdrive, hcase⟩ := Pool.onEvent_cases hev
    simp only [hold, hdrive, hev] at hstep
    have hdriven := Slot.drive_cases hdrive
    rcases hcase with ⟨wantWritable, rfl, -, rfl⟩ | ⟨rfl, hconn, -, rfl⟩ |
      ⟨rfl, hconn, hfin⟩ | ⟨result, rfl, hfin⟩
    · -- the slot waits: what it has read so far continues the response
      cases hstep
      refine h.keep hold ?_ ?_
      · cases hdriven <;> simp [Slot.ensureRegistered]
      · cases hdriven with
        | sending ha => exact fun k hk _ => h.aligned idx old k hold hk ha
        | receiving _ _ hout => exact fun k hk _ => hserver old hold k hk hout
        | quiet ha => exact fun _ _ ha' => absurd ha' ha
        | closed => exact fun _ _ ha' => absurd rfl ha'.2
    · simp only [hconn, if_true, Option.some.injEq] at hstep
      cases hdriven
      exact hstep ▸ h.beginOn hold (Nat.le_succ _) rfl (Or.inr ⟨le_rfl, Nat.lt_succ_self _⟩) rfl
    · simp only [hconn, Bool.false_eq_true, if_false, Option.some.injEq] at hstep
      obtain rfl : p = t.pool.recycle idx slot := congrArg Prod.fst hfin
      cases hdriven
      exact hstep ▸ h.recycle hold (by simp) (by simp) h.framed
    · cases hstep
      obtain rfl : p = t.pool.recycle idx slot := congrArg Prod.fst hfin
      cases hdriven with
      | failed =>
        refine h.recycle hold (by simp) (by simp) ?_
        simpa using h.framed
      | answered ha hsome hout hread res hparse =>
        obtain ⟨k, hk⟩ := Option.isSome_iff_exists.mp hsome
        refine h.recycle hold (fun _ hk => hk) (fun _ _ ha => ha.1 rfl) fun f hf => ?_
        rcases List.mem_append.mp hf with hf | hf
        · exact h.framed f hf
        · obtain rfl : f = _ := by simpa [hk] using hf
          exact framed_of_answered hanswer (hserver old hold k hk hout) hparse

theorem keepAliveInv_inductive (now : Instant) (size : ℕ)
    (hanswer : ∀ n, LengthDelimited (answer n) ∧ (answer n).wire.length < usizeBound) :
    ((keepAlive config fromSlice now size).restrict (ServerFrames answer)).Inductive
      (KeepAliveInv fromSlice answer) where
  init := by
    rintro t rfl
    have hnone : ∀ (i : ℕ) (s : Slot), (Traced.start now size).pool.slots[i]? = some s →
        s.sock = none := by
      intro i s hs
      obtain ⟨-, rfl⟩ : i < size ∧ Slot.new now = s := by
        simpa [Traced.start, Pool.new, List.getElem?_replicate] using hs
      rfl
    refine ⟨?_, ?_, ?_, by simp [Traced.start]⟩
    · intro i s k hs hk
      simp [hnone i s hs] at hk
    · intro i j s s' k hs _ hk
      simp [hnone i s hs] at hk
    · intro i s k hs hk
      simp [hnone i s hs] at hk
  step := by
    rintro t e t' h ⟨hserver, hstep⟩
    cases e with
    | Submit => exact h.submit hstep
    | Ready => exact h.ready hanswer hserver hstep
    | Abort => exact h.abort hstep

end

theorem kept_socket_framed {config : Config} {fromSlice : Bytes → Except String InferResponse}
    {now : Instant} {size : ℕ} {answer : ℕ → Response}
    (hanswer : ∀ n, LengthDelimited (answer n) ∧ (answer n).wire.length < usizeBound) {t : Traced}
    (ht : ((keepAlive config fromSlice now size).restrict (ServerFrames answer)).Reachable t) :
    ∀ f ∈ t.finished, (∃ r, LengthDelimited r ∧ f.consumed = r.wire) ∧
      Framed fromSlice answer f := by
  intro f hf
  have hframed := ((keepAliveInv_inductive now size hanswer).reachable ht).framed f hf
  exact ⟨⟨_, (hanswer f.exchange).1, hframed.1⟩, hframed⟩

def sampleConfig : Config := ⟨"inference", "/infer", 1, 4, 75, 10 ^ 9⟩

def submits (owner : ℕ) : PoolEvent := .Submit owner 1 [] 4 0 true

def answers (chunk : Bytes) : PoolEvent :=
  .Ready 0 ⟨true, ⟨0, none, true, [.Ok 200], [.Ok chunk, .WouldBlock], .WouldBlock⟩, true⟩

theorem kept_socket_framed_twoExchanges :
    ∃ t, (keepAlive sampleConfig fromSilence 0 1).Reachable t ∧
      t.finished.map (fun f => (f.sock, f.exchange)) = [(0, 0), (0, 1)] ∧
      ∀ f ∈ t.finished, (∃ r, LengthDelimited r ∧ f.consumed = r.wire) ∧
        Framed fromSilence (fun _ => silenceAnswer) f := by
  obtain ⟨t, hr, hfinished⟩ : ∃ t, ((keepAlive sampleConfig fromSilence 0 1).restrict
      (ServerFrames fun _ => silenceAnswer)).Reachable t ∧
        t.finished.map (fun f => (f.sock, f.exchange)) = [(0, 0), (0, 1)] :=
    TransitionSystem.Reachable.exists_of_guarded [submits 2, answers silenceAnswer.wire, submits 3,
      answers silenceAnswer.wire] (by decide +kernel)
  exact ⟨t, hr.of_restrict, hfinished,
    kept_socket_framed (fun _ => ⟨lengthDelimited_silenceAnswer, by decide +kernel⟩) hr⟩

theorem kept_socket_misframed :
    ∃ t, (keepAlive sampleConfig fromSilence 0 1).Reachable t ∧
      t.finished.map (fun f => (f.sock, f.exchange, f.consumed)) =
        [(0, 0, bytes "HTTP/1.1 200 OK\r\nTransfer-Encoding: chunked\r\n\r\n"),
          (0, 1, bytes "5\r\nhello\r\n0\r\n\r\n")] ∧
      ∀ r : Response, bytes "5\r\nhello\r\n0\r\n\r\n" ≠ r.wire := by
  obtain ⟨t, ht, hfin⟩ : ∃ t, (keepAlive sampleConfig fromSilence 0 1).Reachable t ∧
      t.finished.map (fun f => (f.sock, f.exchange, f.consumed)) =
        [(0, 0, bytes "HTTP/1.1 200 OK\r\nTransfer-Encoding: chunked\r\n\r\n"),
          (0, 1, bytes "5\r\nhello\r\n0\r\n\r\n")] :=
    TransitionSystem.Reachable.exists_of_exec
      [submits 2, answers (bytes "HTTP/1.1 200 OK\r\nTransfer-Encoding: chunked\r\n\r\n"),
        submits 3, answers (bytes "5\r\nhello\r\n0\r\n\r\n")] (by decide)
  refine ⟨t, ht, hfin, ?_⟩
  intro r h
  have hhead := congrArg List.head? h
  rw [Response.head?_wire] at hhead
  exact absurd hhead (by decide)

end SttBench.RustSync
