import SttBench.OxcamlEpoll.Steps
import SttBench.Wire.Messages

/-! # ocaml-oxcaml-epoll: batches, messages and answers -/

namespace SttBench.OxcamlEpoll

open Ascii Tiling Http1 List
open SttBench.Wire (startJson silenceAnswer lengthDelimited_silenceAnswer)

def AnsweredBy (answer : SockId → ℕ → Response) (s : Server) : Prop :=
  ∀ k < s.nextSock, (s.wires k).got <+: stream (answer k) (s.wires k).sent.length

instance (answer : SockId → ℕ → Response) (s : Server) : Decidable (AnsweredBy answer s) :=
  Nat.decidableBallLT _ _

structure Aligned (answers : ℕ → Response) (slot : Slot) (w : Wire) : Prop where
  receiving : slot.state = .Receiving →
    ∃ front, w.sent = front ++ [slot.req] ∧ w.got = stream answers front.length ++ slot.resp
  between : slot.state ≠ .Receiving → slot.resp = [] ∧ w.got = stream answers w.sent.length

/-! ## Sockets -/

structure Sockets (answer : SockId → ℕ → Response) (slots : List Slot) (wires : SockId → Wire)
    (next : SockId) : Prop where
  wire_new : ∀ k, next ≤ k → wires k = ⟨[], []⟩
  fd_lt : ∀ (i : ℕ) (a : Slot) (k : SockId), slots[i]? = some a → a.fd = some k → k < next
  fd_inj : ∀ (i j : ℕ) (a b : Slot) (k : SockId), slots[i]? = some a → slots[j]? = some b →
    a.fd = some k → b.fd = some k → i = j
  aligned : ∀ (i : ℕ) (a : Slot) (k : SockId), slots[i]? = some a → a.fd = some k →
    Aligned (answer k) a (wires k)

namespace Sockets

variable {answer : SockId → ℕ → Response} {slots : List Slot} {wires wires' : SockId → Wire}
  {next next' : SockId} {idx : ℕ} {slot slot' : Slot}

lemma set (h : Sockets answer slots wires next) (hslot : slots[idx]? = some slot)
    (hnext : next ≤ next')
    (hfd : ∀ k, slot'.fd = some k → (slot.fd = some k ∨ next ≤ k) ∧ k < next' ∧
      Aligned (answer k) slot' (wires' k))
    (hwires : ∀ k, wires' k = wires k ∨ slot'.fd = some k) :
    Sockets answer (slots.set idx slot') wires' next' := by
  -- another slot does not have the socket of the changed one
  have hother : ∀ j a k, j ≠ idx → slots[j]? = some a → a.fd = some k → slot'.fd ≠ some k := by
    intro j a k hj ha hak hk
    rcases (hfd k hk).1 with hold | hle
    · exact hj (h.fd_inj j idx a slot k ha hslot hak hold)
    · exact absurd (h.fd_lt j a k ha hak) (not_lt.mpr hle)
  refine ⟨?_, ?_, ?_, ?_⟩
  · intro k hk
    rcases hwires k with heq | hfd'
    · rw [heq]
      exact h.wire_new k (hnext.trans hk)
    · exact absurd (hfd k hfd').2.1 (not_lt.mpr hk)
  · intro j a k ha hk
    rw [PoolInv.getElem?_set hslot] at ha
    split_ifs at ha with hj
    · cases ha
      exact (hfd k hk).2.1
    · exact (h.fd_lt j a k ha hk).trans_le hnext
  · intro i j a b k ha hb hak hbk
    rw [PoolInv.getElem?_set hslot] at ha hb
    split_ifs at ha hb with hi hj hj
    · rw [hi, hj]
    · cases ha
      exact absurd hak (hother j b k hj hb hbk)
    · cases hb
      exact absurd hbk (hother i a k hi ha hak)
    · exact h.fd_inj i j a b k ha hb hak hbk
  · intro j a k ha hk
    rw [PoolInv.getElem?_set hslot] at ha
    split_ifs at ha with hj
    · cases ha
      exact (hfd k hk).2.2
    · rcases hwires k with heq | hfd'
      · rw [heq]
        exact h.aligned j a k ha hk
      · exact absurd hfd' (hother j a k hj ha hk)

lemma init (answer : SockId → ℕ → Response) (n : ℕ) :
    Sockets answer (List.replicate n Slot.new) (fun _ => ⟨[], []⟩) 0 := by
  have hfd : ∀ (i : ℕ) (a : Slot), (List.replicate n Slot.new)[i]? = some a → a.fd = none := by
    intro i a ha
    rw [eq_of_mem_replicate (mem_of_getElem? ha)]
    rfl
  refine ⟨fun _ _ => rfl, ?_, ?_, ?_⟩
  · intro i a k ha hk
    simp [hfd i a ha] at hk
  · intro i j a b k ha _ hk
    simp [hfd i a ha] at hk
  · intro i a k ha hk
    simp [hfd i a ha] at hk

end Sockets

/-! ## Moves keep the alignment -/

section

variable {answer : SockId → ℕ → Response} {g : Setup} {s s' : Server} {idx : ℕ} {slot slot' : Slot}

def Answering (answer : SockId → ℕ → Response) : Prop :=
  ∀ k n, LengthDelimited (answer k n) ∧ (answer k n).wire.length < 2 ^ 62

lemma Aligned.complete {answers : ℕ → Response} {w : Wire}
    (hanswers : ∀ n, LengthDelimited (answers n) ∧ (answers n).wire.length < 2 ^ 62)
    (h : Aligned answers slot w) (hstate : slot.state = .Receiving)
    (hgot : w.got <+: stream answers w.sent.length) (hparse : (HttpResponse.parse slot.resp).isSome) :
    ∃ front, w.sent = front ++ [slot.req] ∧ slot.resp = (answers front.length).wire ∧
      w.got = stream answers w.sent.length := by
  obtain ⟨front, hsent, heq⟩ := h.receiving hstate
  have hlen : w.sent.length = front.length + 1 := by rw [hsent, length_append]; rfl
  obtain ⟨hr, hfits⟩ := hanswers front.length
  have hshort : slot.resp <+: (answers front.length).wire := by
    rw [hlen, stream_succ, heq] at hgot
    exact (prefix_append_right_inj _).mp hgot
  have hwhole : slot.resp = (answers front.length).wire := by
    by_contra hne
    have hlt : slot.resp.length < (answers front.length).wire.length :=
      lt_of_le_of_ne hshort.length_le fun hl => hne (hshort.eq_of_length hl)
    rw [prefix_iff_eq_take.mp hshort, HttpResponse.parse_take hr hfits hlt] at hparse
    cases hparse
  exact ⟨front, hsent, hwhole, by rw [hlen, stream_succ, heq, hwhole]⟩

lemma Drives.sockets {wires : SockId → Wire} {n : SockId} (hd : Drives s slot slot' wires n)
    (h : Sockets answer s.slots s.wires s.nextSock) (hslot : s.slots[idx]? = some slot)
    (hreq : slot'.req = slot.req) : Sockets answer (s.slots.set idx slot') wires n := by
  cases hd with
  | drop hfd hn => exact h.set hslot hn (by simp [hfd]) fun _ => Or.inl rfl
  | keep hfd hresp hstate =>
    refine h.set hslot le_rfl ?_ fun _ => Or.inl rfl
    intro k hk
    have hold := hfd.symm.trans hk
    have hal := h.aligned idx slot k hslot hold
    refine ⟨Or.inl hold, h.fd_lt idx slot k hslot hold, ?_, ?_⟩
    · rw [hstate, hreq, hresp]
      exact hal.receiving
    · rw [Ne, hstate, hresp]
      exact hal.between
  | dial hfd hresp hstate =>
    refine h.set hslot (Nat.le_succ _) ?_ fun _ => Or.inl rfl
    intro k hk
    obtain rfl : s.nextSock = k := Option.some.inj (hfd.symm.trans hk)
    refine ⟨Or.inr le_rfl, Nat.lt_succ_self _, ?_, ?_⟩
    · simp [hstate]
    · intro _
      rw [h.wire_new _ le_rfl]
      exact ⟨hresp, rfl⟩
  | @sent k hk hfd hresp hsending hstate =>
    have hal := h.aligned idx slot k hslot hk
    obtain ⟨hnil, hgot⟩ := hal.between (by simp [hsending])
    refine h.set hslot le_rfl ?_ ?_
    · intro j hj
      obtain rfl : k = j := Option.some.inj (hfd.symm.trans hj)
      refine ⟨Or.inl hk, h.fd_lt idx slot k hslot hk, ?_, ?_⟩
      · intro _
        rw [Function.update_self, hreq, hresp, hnil]
        exact ⟨_, rfl, by rw [append_nil, hgot]⟩
      · exact fun hne => absurd hstate hne
    · intro j
      by_cases hj : j = k
      · exact Or.inr (hj ▸ hfd)
      · exact Or.inl (Function.update_of_ne hj ..)
  | @received k chunk hk hfd hreceiving hstate hresp =>
    have hal := h.aligned idx slot k hslot hk
    obtain ⟨front, hsent, hgot⟩ := hal.receiving hreceiving
    refine h.set hslot le_rfl ?_ ?_
    · intro j hj
      obtain rfl : k = j := Option.some.inj (hfd.symm.trans hj)
      refine ⟨Or.inl hk, h.fd_lt idx slot k hslot hk, ?_, ?_⟩
      · intro _
        rw [Function.update_self, hreq, hresp]
        exact ⟨front, hsent, by rw [hgot, append_assoc]⟩
      · exact fun hne => absurd hstate hne
    · intro j
      by_cases hj : j = k
      · exact Or.inr (hj ▸ hfd)
      · exact Or.inl (Function.update_of_ne hj ..)

lemma GivesUp.sockets (hg : GivesUp slot slot') (hanswer : Answering answer)
    (h : Sockets answer s.slots s.wires s.nextSock) (hs : AnsweredBy answer s)
    (hslot : s.slots[idx]? = some slot) :
    Sockets answer (s.slots.set idx slot') s.wires s.nextSock := by
  refine h.set hslot le_rfl ?_ fun _ => Or.inl rfl
  intro k hk
  rcases hg.fd with hnone | ⟨hfd, hparse⟩
  · simp [hnone] at hk
  · have hold := hfd.symm.trans hk
    have hal := h.aligned idx slot k hslot hold
    refine ⟨Or.inl hold, h.fd_lt idx slot k hslot hold, by simp [hg.state], fun _ => ⟨hg.resp, ?_⟩⟩
    by_cases hstate : slot.state = .Receiving
    · obtain ⟨_, -, -, hgot⟩ := hal.complete (hanswer k) hstate
        (hs k (h.fd_lt idx slot k hslot hold)) (hparse hstate)
      exact hgot
    · exact (hal.between hstate).2

lemma TakesOn.sockets {id : ℕ} {c : Conn} {n : SockId} (ht : TakesOn g s id c slot slot' n)
    (h : Sockets answer s.slots s.wires s.nextSock) (hslot : s.slots[idx]? = some slot)
    (hidle : slot.state = .Idle) : Sockets answer (s.slots.set idx slot') s.wires n := by
  have hstate : slot'.state ≠ .Receiving := by
    rcases ht.state with hs | hs <;> simp [hs]
  rcases ht.fd with ⟨hfd, hn⟩ | ⟨hfd, hn⟩ | ⟨hfd, rfl⟩
  · exact h.set hslot hn (by simp [hfd]) fun _ => Or.inl rfl
  · refine h.set hslot hn ?_ fun _ => Or.inl rfl
    intro k hk
    have hold := hfd.symm.trans hk
    have hal := h.aligned idx slot k hslot hold
    refine ⟨Or.inl hold, (h.fd_lt idx slot k hslot hold).trans_le hn, fun hr => absurd hr hstate,
      fun _ => ⟨ht.resp, (hal.between (by simp [hidle])).2⟩⟩
  · refine h.set hslot (Nat.le_succ _) ?_ fun _ => Or.inl rfl
    intro k hk
    obtain rfl : s.nextSock = k := Option.some.inj (hfd.symm.trans hk)
    refine ⟨Or.inr le_rfl, Nat.lt_succ_self _, fun hr => absurd hr hstate, fun _ => ⟨ht.resp, ?_⟩⟩
    rw [h.wire_new _ le_rfl]
    rfl

theorem Move.sockets (hm : Move g s s') (hanswer : Answering answer) (hinv : Inv g s)
    (h : Sockets answer s.slots s.wires s.nextSock) (hs : AnsweredBy answer s) :
    Sockets answer s'.slots s'.wires s'.nextSock := by
  cases hm with
  | timers | record | handler | accept | refuse | close => exact h
  | drive hslot howner howner' hreq hstate hd => exact hd.sockets h hslot hreq
  | finish clock hslot howner hgives hc hp hresult => exact hgives.sockets hanswer h hs hslot
  | submit hc hbatch hfree hslot htakes =>
    obtain ⟨a, ha, hnone⟩ := (hinv.pool.mem_iff _).mp (by rw [hfree]; exact mem_cons_self ..)
    cases hslot.symm.trans ha
    exact htakes.sockets h hslot ((hinv.pool.idle_iff _ (mem_of_getElem? hslot)).mpr hnone)
  | abandon hslot howner hgives hc => exact hgives.sockets hanswer h hs hslot

/-! ## What a partial carries -/

structure Partial.Carries (m : Partial) (infer : InferResponse) : Prop where
  rms : m.rms = infer.rms
  zeroCrossings : m.zeroCrossings = infer.zeroCrossings
  checksum : m.checksum = infer.checksum
  samples : m.samples = infer.samples
  transcript : m.transcript = infer.transcript
  audioBytes : m.audioBytes = infer.audioBytes

def Carried (answer : SockId → ℕ → Response) (g : Setup) (s : Server) (id : ℕ) (m : Partial) : Prop :=
  ∃ k n infer,
    (s.wires k).sent[n]? = some (s.requestFor g id ⟨m.oldestFrameSeq, m.newestFrameSeq⟩) ∧
    inferResponseOfBytes g.decoders (answer k n).wire (answer k n).head.length
      (answer k n).body.length = .ok (.ok infer) ∧
    m.Carries infer

structure Extends (s s' : Server) : Prop where
  sent : ∀ k, (s.wires k).sent <+: (s'.wires k).sent
  frames : ∀ id, (s.traces id).frames <+: (s'.traces id).frames

lemma Move.extends (hm : Move g s s') : Extends s s' := by
  have hhandled : ∀ (t : Server) (id : ℕ) (r : Handled), t.traces = s.traces →
      ∀ j, (s.traces j).frames <+: ((t.handled id r).traces j).frames := by
    intro t id r ht j
    by_cases hj : j = id
    · subst hj
      simp [Server.handled, Trace.extend, ht]
    · simp [Server.handled, hj, ht]
  cases hm with
  | timers | record | accept | close | abandon =>
    exact ⟨fun _ => prefix_rfl, fun _ => prefix_rfl⟩
  | handler | finish | submit | refuse =>
    exact ⟨fun _ => prefix_rfl, hhandled _ _ _ rfl⟩
  | drive hslot howner howner' hreq hstate hd =>
    refine ⟨fun j => ?_, fun _ => prefix_rfl⟩
    cases hd with
    | drop | keep | dial => exact prefix_rfl
    | @sent k | @received k =>
      by_cases hj : j = k
      · subst hj
        simp
      · simp [hj]

lemma Server.mem_out_handled {id j : ℕ} {r : Handled} {o : Out} (s : Server)
    (h : o ∈ ((s.handled id r).traces j).out) : o ∈ (s.traces j).out ∨ j = id ∧ o ∈ r.out := by
  by_cases hj : j = id
  · subst hj
    simpa [handled, Trace.extend] using h
  · simp only [handled, Function.update_of_ne hj] at h
    exact Or.inl h

lemma Conn.mem_enqueueGeneratedText {c : Conn} {o o' : Out}
    (h : o' ∈ (c.enqueueGeneratedText o).out) : o' = o := by
  unfold Conn.enqueueGeneratedText at h
  split_ifs at h
  · simp at h
  · simpa using h

lemma Move.partials (hm : Move g s s') {j : ℕ} {m : Partial}
    (h : Out.Partial m ∈ (s'.traces j).out) :
    Out.Partial m ∈ (s.traces j).out ∨
      ∃ (idx : ℕ) (slot : Slot) (c : Conn) (p : Pending) (infer : InferResponse),
        s.slots[idx]? = some slot ∧ slot.owner = some j ∧ s.conns j = some c ∧
        c.pending = some p ∧ Decoded g slot infer ∧ m = Server.partialFor g p infer := by
  cases hm with
  | timers | record | accept | drive | close | abandon => exact Or.inl h
  | handler hc hr =>
    rcases Server.mem_out_handled s h with h | ⟨-, h⟩
    · exact Or.inl h
    · exact absurd (hr.out _ h) (by simp [Out.range?])
  | submit hc hbatch hfree hslot htakes =>
    rcases Server.mem_out_handled s h with h | ⟨-, h⟩
    · exact Or.inl h
    · simp at h
  | refuse hc hbatch herr =>
    rcases Server.mem_out_handled s h with h | ⟨-, h⟩
    · exact Or.inl h
    · cases Conn.mem_enqueueGeneratedText h
  | @finish idx id slot slot' c p result clock hslot howner hgives hc hp hresult =>
    rcases Server.mem_out_handled _ h with hold | ⟨rfl, hnew⟩
    · exact Or.inl hold
    · cases result with
      | error err => cases Conn.mem_enqueueGeneratedText hnew
      | ok infer =>
        cases Conn.mem_enqueueGeneratedText hnew
        exact Or.inr ⟨idx, slot, c, p, infer, hslot, howner, hc, hp, hresult infer rfl, rfl⟩

lemma Inv.partial_range (h : Inv g s) {id : ℕ} {m : Partial} (hm : Out.Partial m ∈ (s.traces id).out) :
    1 ≤ m.oldestFrameSeq ∧ m.oldestFrameSeq ≤ m.newestFrameSeq ∧
      m.newestFrameSeq ≤ (s.traces id).frames.length := by
  obtain ⟨k, hk, htiles⟩ := h.conns.tiles id
  have hmem : (⟨m.oldestFrameSeq, m.newestFrameSeq⟩ : Range) ∈ (s.traces id).ranges :=
    mem_filterMap.mpr ⟨_, hm, rfl⟩
  have hbounds := htiles.mem_bounds hmem
  simp only at hbounds
  omega

lemma Extends.requestFor (he : Extends s s') {id : ℕ} {r : Range} (h1 : 1 ≤ r.oldest)
    (hle : r.oldest ≤ r.newest) (hr : r.newest ≤ (s.traces id).frames.length) :
    s'.requestFor g id r = s.requestFor g id r := by
  obtain ⟨new, hnew⟩ := he.frames id
  rw [Server.requestFor, Server.requestFor, Trace.pcm_append hnew.symm h1 hle hr]

lemma Extends.sent_getElem? (he : Extends s s') {k : SockId} {n : ℕ} {req : Bytes}
    (h : (s.wires k).sent[n]? = some req) : (s'.wires k).sent[n]? = some req := by
  obtain ⟨more, hmore⟩ := he.sent k
  rw [← hmore, List.getElem?_append_left (List.getElem?_eq_some_iff.mp h).1, h]

lemma Carried.extends {id : ℕ} {m : Partial} (hc : Carried answer g s id m) (hinv : Inv g s)
    (hm : Out.Partial m ∈ (s.traces id).out) (he : Extends s s') : Carried answer g s' id m := by
  obtain ⟨k, n, infer, hsent, hdecode, hcarries⟩ := hc
  obtain ⟨h1, hle, hlen⟩ := hinv.partial_range hm
  refine ⟨k, n, infer, ?_, hdecode, hcarries⟩
  rw [he.requestFor h1 hle hlen]
  exact he.sent_getElem? hsent

lemma Decoded.of_answer {infer : InferResponse} (hanswer : Answering answer)
    (h : Sockets answer s.slots s.wires s.nextSock) (hs : AnsweredBy answer s)
    (hslot : s.slots[idx]? = some slot) (hd : Decoded g slot infer) :
    ∃ k n, (s.wires k).sent[n]? = some slot.req ∧
      inferResponseOfBytes g.decoders (answer k n).wire (answer k n).head.length
        (answer k n).body.length = .ok (.ok infer) := by
  obtain ⟨hstate, hfd, p, hp, hinfer⟩ := hd
  obtain ⟨k, hk⟩ := Option.isSome_iff_exists.mp hfd
  obtain ⟨front, hsent, hresp, -⟩ := (h.aligned idx slot k hslot hk).complete (hanswer k) hstate
    (hs k (h.fd_lt idx slot k hslot hk)) (by rw [hp]; rfl)
  obtain ⟨hr, hfits⟩ := hanswer k front.length
  rw [hresp] at hp hinfer
  cases (HttpResponse.parse_wire hr hfits).symm.trans hp
  refine ⟨k, front.length, ?_, hinfer⟩
  rw [hsent, List.getElem?_concat_length]

structure Streams (answer : SockId → ℕ → Response) (g : Setup) (s : Server) : Prop where
  sockets : Sockets answer s.slots s.wires s.nextSock
  carried : ∀ id m, Out.Partial m ∈ (s.traces id).out → Carried answer g s id m

theorem Move.streams (hm : Move g s s') (hanswer : Answering answer) (hinv : Inv g s)
    (h : Streams answer g s) (hs : AnsweredBy answer s) : Streams answer g s' := by
  refine ⟨hm.sockets hanswer hinv h.sockets hs, fun id m hmem => ?_⟩
  have he := hm.extends
  rcases hm.partials hmem with hold | ⟨idx, slot, c, p, infer, hslot, howner, hc, hp, hd, rfl⟩
  · exact (h.carried id m hold).extends hinv hold he
  · obtain ⟨k, n, hsent, hdecode⟩ := hd.of_answer hanswer h.sockets hs hslot
    obtain ⟨c', p', hc', hp', hreq⟩ := hinv.pending_of_owner hslot howner
    cases hc.symm.trans hc'
    cases hp.symm.trans hp'
    obtain ⟨h1, hle, hnew⟩ := (hinv.conns.conn id c hc).pending p hp
    refine ⟨k, n, infer, ?_, hdecode, ⟨rfl, rfl, rfl, rfl, rfl, rfl⟩⟩
    show _ = some (s'.requestFor g id ⟨p.oldestSeq, p.newestSeq⟩)
    rw [he.requestFor h1 hle (hnew.trans_le (hinv.conns.conn id c hc).flushed_le), ← hreq]
    exact he.sent_getElem? hsent

lemma Move.nextSock_le (hm : Move g s s') : s.nextSock ≤ s'.nextSock := by
  cases hm with
  | timers | record | handler | accept | finish | refuse | close | abandon => exact le_rfl
  | drive hslot howner howner' hreq hstate hd =>
    cases hd with
    | drop hfd hn => exact hn
    | keep | sent | received => exact le_rfl
    | dial => exact Nat.le_succ _
  | submit hc hbatch hfree hslot htakes =>
    rcases htakes.fd with ⟨-, hn⟩ | ⟨-, hn⟩ | ⟨-, rfl⟩
    · exact hn
    · exact hn
    · exact Nat.le_succ _

lemma Moves.nextSock_le (hm : Moves g s s') : s.nextSock ≤ s'.nextSock := by
  induction hm with
  | refl s => exact le_rfl
  | head hmove _ _ ih => exact hmove.nextSock_le.trans ih

theorem Moves.streams (hm : Moves g s s') (hanswer : Answering answer) (hinv : Inv g s)
    (h : Streams answer g s) (hs : AnsweredBy answer s) (hs' : AnsweredBy answer s') :
    Streams answer g s' := by
  induction hm with
  | refl s => exact h
  | head hmove hrest hw ih =>
    have hmid : AnsweredBy answer _ := fun k hk => hw ▸ hs' k (hk.trans_le hrest.nextSock_le)
    exact ih (hmove.inv hinv) (hmove.streams hanswer hinv h hs) hmid hs'

end

/-! ## Exactly once -/

def ServerAnswers (g : Setup) (answer : SockId → ℕ → Response) (s : Server) (e : Event) : Prop :=
  ∀ s' ∈ s.step g e, AnsweredBy answer s'

instance (g : Setup) (answer : SockId → ℕ → Response) (s : Server) (e : Event) :
    Decidable (ServerAnswers g answer s e) :=
  Option.decidableForallMem ..

variable {g : Setup} {answer : SockId → ℕ → Response} {s : Server}

theorem streams_reachable (hanswer : Answering answer)
    (hr : ((server g).restrict (ServerAnswers g answer)).Reachable s) :
    Streams answer g s ∧ AnsweredBy answer s := by
  induction hr with
  | start h0 =>
    obtain rfl : _ = Server.create g := h0
    refine ⟨⟨Sockets.init answer _, ?_⟩, ?_⟩
    · intro id m hm
      simp [Server.create] at hm
    · intro k hk
      exact absurd hk (Nat.not_lt_zero k)
  | step hs hstep ih =>
    have hinv := (server_inductive g).reachable hs.of_restrict
    have hs' := hstep.1 _ hstep.2
    exact ⟨(Server.step_moves hinv hstep.2).streams hanswer hinv ih.1 ih.2 hs', hs'⟩

lemma Inv.pending_iff {id : ℕ} {c : Conn} (h : Inv g s) (hc : s.conns id = some c) :
    c.pending.isSome ↔ ∃! idx : ℕ, ∃ slot, s.slots[idx]? = some slot ∧ slot.owner = some id := by
  constructor
  · intro hp
    obtain ⟨p, hp⟩ := Option.isSome_iff_exists.mp hp
    obtain ⟨idx, slot, hslot, howner⟩ := h.owned hc hp
    refine ⟨idx, ⟨slot, hslot, howner⟩, ?_⟩
    rintro j ⟨a, ha, hown⟩
    exact h.owned_unique hslot howner ha hown
  · rintro ⟨idx, ⟨slot, hslot, howner⟩, -⟩
    rw [Option.isSome_iff_ne_none]
    exact fun hnone => h.not_owned hc hnone idx slot hslot howner

theorem batches_exactly_once (hr : (server g).Reachable s) :
    (∀ id c, s.conns id = some c →
      c.seq = (s.traces id).frames.length ∧ c.pcm.length = 640 * c.batchFrames ∧
      (0 < c.batchFrames → c.batchOldestSeq + c.batchFrames = c.seq + 1 ∧
        c.batchNewestSeq = c.seq ∧ c.pcm = (s.traces id).pcm ⟨c.batchOldestSeq, c.seq⟩) ∧
      (c.pending.isSome ↔
        ∃! idx : ℕ, ∃ slot, s.slots[idx]? = some slot ∧ slot.owner = some id)) ∧
    (∀ id, ∃ k ≤ (s.traces id).frames.length, TilesFrom 1 (s.traces id).ranges (k + 1)) ∧
    ∀ answer, Answering answer → ((server g).restrict (ServerAnswers g answer)).Reachable s →
      ∀ id m, .Partial m ∈ (s.traces id).out → Carried answer g s id m := by
  have h := (server_inductive g).reachable hr
  refine ⟨fun id c hc => ?_, fun id => ?_, fun answer hanswer hr' => ?_⟩
  · have hinv := h.conns.conn id c hc
    refine ⟨hinv.seq_eq, hinv.length_pcm, fun hpos => ?_, h.pending_iff hc⟩
    obtain ⟨hold, hnew⟩ := hinv.batch hpos
    refine ⟨?_, hnew, hnew ▸ hinv.pcm_batch hpos⟩
    have hle := hinv.batch_le
    rw [hold, Conn.flushed]
    omega
  · obtain ⟨k, hk, htiles⟩ := h.conns.tiles id
    have h1 := htiles.le
    exact ⟨k - 1, by omega, by rwa [Nat.sub_add_cancel h1]⟩
  · exact (streams_reachable hanswer hr').1.carried

def sampleSetup : Setup where
  config := ⟨bytes "inference", 8080, 1, 4, 75, 100⟩
  decoders :=
    { fromString := fun s => if s = bytes startJson
        then .ok (.Assoc [(bytes "type", .String (bytes "start"))]) else .error "Json_error"
      floatOfString := fun t => if t.all isDigit
        then some (Binary64.bits (Binary64.nearest (decimal t))) else none
      floatOfInt := fun i => Binary64.bits (Binary64.nearest i) }

def sampleIo : Io := ⟨[], [], [], [], none, .Ok, 0, 0, fun _ => 0⟩

def binaryFrame : Bytes := [0x82, 0xfe, 2, 128, 0, 0, 0, 0] ++ List.replicate 640 0

def oneFrame : List Event :=
  [.Ready listenerToken epollin { sampleIo with accepts := [(0, 0)] },
   .Ready (firstConnToken + 1) epollin { sampleIo with reads := [.Data
      (bytes "GET /ws/stt HTTP/1.1\r\nSec-WebSocket-Key: x\r\n\r\n" ++
        [0x81, 0x90, 0, 0, 0, 0] ++ bytes startJson ++ binaryFrame)] }]

def answered : List Event :=
  [.Timer ⟨100, 1, .Flush, 0⟩ 100 sampleIo,
   .Ready firstSlotToken epollout sampleIo,
   .Ready firstSlotToken epollout { sampleIo with sends := [.Wrote 2000] },
   .Ready firstSlotToken epollin { sampleIo with
      reads := [.Data (silenceAnswer.wire.take 20), .Data (silenceAnswer.wire.drop 20)] }]

def answeredTwice : List Event :=
  oneFrame ++ answered ++
    [.Ready (firstConnToken + 1) epollin { sampleIo with reads := [.Data binaryFrame] },
     .Timer ⟨200, 1, .Flush, 1⟩ 200 sampleIo,
     .Ready firstSlotToken epollout { sampleIo with sends := [.Wrote 2000] },
     .Ready firstSlotToken epollin { sampleIo with reads := [.Data silenceAnswer.wire] }]

def isPartial : Out → Bool
  | .Partial _ => true
  | _ => false

theorem batches_exactly_once_answeredTwice :
    ∃ s, (server sampleSetup).Reachable s ∧ (s.wires 0).sent.length = 2 ∧
      (s.traces 1).ranges = [⟨1, 1⟩, ⟨2, 2⟩] ∧ (s.traces 1).out.countP isPartial = 2 ∧
      ∀ m, .Partial m ∈ (s.traces 1).out →
        Carried (fun _ _ => silenceAnswer) sampleSetup s 1 m := by
  obtain ⟨s, hr, hsent, hranges, hout⟩ : ∃ s, ((server sampleSetup).restrict
      (ServerAnswers sampleSetup fun _ _ => silenceAnswer)).Reachable s ∧
        (s.wires 0).sent.length = 2 ∧ (s.traces 1).ranges = [⟨1, 1⟩, ⟨2, 2⟩] ∧
          (s.traces 1).out.countP isPartial = 2 :=
    TransitionSystem.Reachable.exists_of_guarded answeredTwice (by decide +kernel)
  have hanswer : Answering fun _ _ => silenceAnswer := fun _ _ =>
    ⟨lengthDelimited_silenceAnswer, show silenceAnswer.wire.length < 2 ^ 62 by decide +kernel⟩
  obtain ⟨-, -, hcarried⟩ := batches_exactly_once hr.of_restrict
  exact ⟨s, hr.of_restrict, hsent, hranges, hout, hcarried _ hanswer hr 1⟩

end SttBench.OxcamlEpoll
