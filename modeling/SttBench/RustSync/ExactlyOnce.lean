import SttBench.RustSync.Gateway
import SttBench.RustSync.KeepAlive

/-! # rust-sync: isolation of requests, and exactly-once delivery -/

namespace SttBench.RustSync

open Ascii Tiling List
open Wire (silenceAnswer)

def Cmd.key : Cmd → Option (ℕ × ℕ)
  | .Submit owner tag _ _ => some (owner, tag)
  | .Abort _ => none

def Done.key (d : Done) : ℕ × ℕ := (d.owner, d.tag)

lemma Cmd.key_toCourier (config : Config) (cmd : Cmd) : (cmd.toCourier config).key = cmd.key := by
  cases cmd <;> rfl

namespace Gateway

variable {g : Setup} {Answers : Bytes → InferResponse → Prop} {s s' : Gateway} {now : Instant}

lemma keys_toCourier (config : Config) (l : List Cmd) :
    (l.map (Cmd.toCourier config)).filterMap Courier.Cmd.key = l.filterMap Cmd.key := by
  rw [filterMap_map]
  exact filterMap_congr fun cmd _ => Cmd.key_toCourier config cmd

lemma reachable_any (hr : (gateway g now).Reachable s) :
    ((gateway g now).restrict (ServerAnswers g fun _ _ => True)).Reachable s := by
  refine hr.restrict fun s e => ?_
  cases e <;> simp [ServerAnswers]

lemma courier_inv (hr : ((gateway g now).restrict (ServerAnswers g Answers)).Reachable s) :
    s.Inv ∧ Courier.Inv (ResultOf Answers) (s.courier g) :=
  (courier_reachable hr).imp id (Courier.inv_inductive _).reachable

/-! ## Isolation -/

lemma held_of_owner {i o : ℕ} {slot : Slot} (hslot : s.pool.slots[i]? = some slot)
    (ho : slot.owner = some o) : s.pool.held i = some (o, slot.tag, slot.req) := by
  rw [Pool.held_eq hslot, Slot.work, ho, Option.map_some]

lemma held_taken (hinv : Courier.Inv (ResultOf Answers) (s.courier g)) {i o t : ℕ} {req : Bytes}
    (hheld : s.pool.held i = some (o, t, req)) :
    (o, t) ∈ s.cmds.taken.filterMap Cmd.key ∧ (o, t) ∉ s.cmds.unread.filterMap Cmd.key := by
  have hmem : .Submit o t req ∈ (s.courier g).cmds.taken := hinv.held_received i o t req hheld
  have hgone := hinv.not_mem_unread hmem
  simp only [courier, Channel.map_taken, Channel.map_unread, keys_toCourier] at hmem hgone
  refine ⟨?_, hgone⟩
  rw [← keys_toCourier g.config]
  exact mem_filterMap.mpr ⟨_, hmem, rfl⟩

lemma abort_drops (hinv : s.Inv) (hcourier : Courier.Inv (ResultOf Answers) (s.courier g))
    {o : ℕ} {clock : Instant} {connect : Bool}
    (habort : s.cmds.log[s.cmds.read]? = some (.Abort o))
    (hstep : s.step g (.Command clock connect) = some s') {i owner tag : ℕ} {req : Bytes}
    (hheld : s.pool.held i = some (owner, tag, req))
    (hdrop : s'.pool.held i ≠ some (owner, tag, req)) :
    owner = o ∧ (o, tag) ∈ s.cmds.taken.filterMap Cmd.key ∧
      ∀ k body cpuPasses, s.cmds.log[k]? = some (.Submit o tag body cpuPasses) →
        k < s.cmds.read := by
  obtain ⟨hlt, hget⟩ := List.getElem?_eq_some_iff.mp habort
  simp only [step, Channel.recv?, dif_pos hlt, hget, execute, Option.some.injEq] at hstep
  subst hstep
  obtain ⟨-, ⟨-, hsame⟩ | ⟨idx, t, req', hidx, hupd⟩⟩ := Pool.abortOwner_spec hinv.pool o
  · exact absurd (hsame ▸ hheld) hdrop
  · -- the slot given up is the one in question
    obtain rfl : i = idx := by
      by_contra hne
      exact hdrop (by rw [hupd, Function.update_of_ne hne, hheld])
    obtain ⟨rfl, rfl, rfl⟩ : o = owner ∧ t = tag ∧ req' = req := by
      simpa using hidx.symm.trans hheld
    obtain ⟨htaken, hgone⟩ := held_taken hcourier hheld
    refine ⟨rfl, htaken, fun k body cpuPasses hk => ?_⟩
    by_contra hle
    exact hgone (mem_filterMap.mpr
      ⟨_, Channel.mem_unread_of_le (not_lt.mp hle) hk, rfl⟩)

theorem requests_isolated (hr : (gateway g now).Reachable s) :
    (∀ (i j o : ℕ) (a b : Slot), s.pool.slots[i]? = some a → s.pool.slots[j]? = some b →
      a.owner = some o → b.owner = some o → i = j) ∧
    ((s.cmds.log.filterMap Cmd.key).Nodup ∧ (s.dones.log.map Done.key).Nodup ∧
      ∀ d ∈ s.dones.log, d.key ∈ s.cmds.taken.filterMap Cmd.key) ∧
    ∀ o clock connect s', s.cmds.log[s.cmds.read]? = some (.Abort o) →
      s.step g (.Command clock connect) = some s' →
      ∀ i owner tag req, s.pool.held i = some (owner, tag, req) →
        s'.pool.held i ≠ some (owner, tag, req) →
        owner = o ∧ (o, tag) ∈ s.cmds.taken.filterMap Cmd.key ∧
          ∀ k body cpuPasses, s.cmds.log[k]? = some (.Submit o tag body cpuPasses) →
            k < s.cmds.read := by
  obtain ⟨hinv, hcourier⟩ := courier_inv (reachable_any hr)
  refine ⟨fun i j o a b hi hj ha hb => ?_, ⟨?_, ?_, fun d hd => ?_⟩, ?_⟩
  · exact hcourier.held_inj i j o _ _ _ _ (held_of_owner hi ha) (held_of_owner hj hb)
  · simpa only [courier, Channel.map, keys_toCourier] using hcourier.submits_nodup
  · have hnodup := hcourier.reports_nodup
    simp only [courier, Channel.map, map_map] at hnodup
    exact hnodup
  · obtain ⟨b, hb, -⟩ := hcourier.reported d.toReport (mem_map_of_mem hd)
    simp only [courier, Channel.map_taken] at hb
    rw [← keys_toCourier g.config]
    exact mem_filterMap.mpr ⟨_, hb, rfl⟩
  · exact fun o clock connect s' habort hstep i owner tag req =>
      abort_drops hinv hcourier habort hstep

def sampleSetup : Setup where
  config := sampleConfig
  fromSlice := fromSilence
  startMessage text := text = bytes Wire.startJson

def silence : Bytes := List.replicate frameBytes 0

def oneFrame : List Event :=
  [.Accept 0 0 true, .Ready 2 true false ⟨.WebSocket, [], .Ok⟩,
    .Ready 2 true false ⟨.NeedMore, [.Text (bytes Wire.startJson), .Binary silence 1, .WouldBlock], .Ok⟩,
    .Timer (10 ^ 9) 2 (10 ^ 9) 0 .Ok, .Command (10 ^ 9) true]

theorem requests_isolated_timeout :
    ∃ s s', (gateway sampleSetup 0).Reachable s ∧
      s.step sampleSetup (.Command 0 true) = some s' ∧
      s.pool.held 0 = some (2, 1, Slot.request sampleConfig silence 4) ∧ s'.pool.held 0 = none ∧
      ∀ k body cpuPasses, s.cmds.log[k]? = some (.Submit 2 1 body cpuPasses) → k < 1 := by
  obtain ⟨s, hr, hheld, hread, hlog, s', hstep, hgone⟩ : ∃ s, (gateway sampleSetup 0).Reachable s ∧
      s.pool.held 0 = some (2, 1, Slot.request sampleConfig silence 4) ∧ s.cmds.read = 1 ∧
      s.cmds.log[1]? = some (.Abort 2) ∧
      ∃ s' ∈ s.step sampleSetup (.Command 0 true), s'.pool.held 0 = none :=
    TransitionSystem.Reachable.exists_of_exec
      (oneFrame ++ [.Timer (2 * 10 ^ 9) 2 (10 ^ 11) (10 ^ 11) .Ok]) (by decide +kernel)
  have hisolated := (requests_isolated hr).2.2 2 0 true s' (hread ▸ hlog) hstep 0 2 1 _ hheld
    (by simp [hgone])
  exact ⟨s, s', hr, hstep, hheld, hgone, hread ▸ hisolated.2.2⟩

/-! ## Delivery -/

structure Delivered (g : Setup) (Answers : Bytes → InferResponse → Prop) (tr : Trace) : Prop where
  tiles : ∃ k, TilesFrom 1 tr.ranges k
  bounded : ∀ m ∈ tr.messages, m.range.newest ≤ tr.frames.length
  sizes : ∀ m ∈ tr.messages, m.frames = m.range.size
  carries : ∀ m, .Partial m ∈ tr.messages → ∃ infer,
    Answers (Slot.request g.config (tr.pcm (Message.Partial m).range) g.config.cpuPasses) infer ∧
      m.Carries infer

lemma Delivered.start : Delivered g Answers .start where
  tiles := ⟨1, rfl⟩
  bounded := by simp [Trace.start, Trace.messages]
  sizes := by simp [Trace.start, Trace.messages]
  carries := by simp [Trace.start, Trace.messages]

lemma Delivered.frames {tr tr' : Trace} {new : List Bytes} (h : Delivered g Answers tr)
    (hframes : tr'.frames = tr.frames ++ new) (hmessages : tr'.messages = tr.messages) :
    Delivered g Answers tr' where
  tiles := by
    rw [Trace.ranges, hmessages]
    exact h.tiles
  bounded m hm := by
    rw [hmessages] at hm
    rw [hframes, length_append]
    exact Nat.le_add_right_of_le (h.bounded m hm)
  sizes := hmessages ▸ h.sizes
  carries m hm := by
    rw [hmessages] at hm
    obtain ⟨k, hk⟩ := h.tiles
    obtain ⟨h1, hle, -⟩ := hk.mem_bounds (mem_map_of_mem hm)
    rw [Trace.pcm_append hframes h1 hle (h.bounded _ hm)]
    exact h.carries m hm

lemma Delivered.answer {tr : Trace} (wrote : List WsWrite) {c : Conn} {p : Pending}
    {result : InferResult} {clock : Instant} (h : Delivered g Answers tr) (hc : c.Inv tr)
    (hp : c.pending = some p)
    (hmessages : Trace.messages ⟨tr.frames, wrote⟩ =
      tr.messages ++ [Conn.answerFor p.batch result g.config clock])
    (hanswers : ∀ infer, result = .ok infer → Answers (Slot.request g.config
      (tr.pcm ⟨p.batch.oldestSeq, p.batch.newestSeq⟩) g.config.cpuPasses) infer) :
    Delivered g Answers ⟨tr.frames, wrote⟩ := by
  obtain ⟨hle, hnewest, hframes⟩ := hc.batch p hp
  have htiles : TilesFrom 1 tr.ranges p.batch.oldestSeq := by
    simpa only [Conn.unanswered, hp] using hc.tiles
  refine ⟨⟨p.batch.newestSeq + 1, ?_⟩, ?_, ?_, ?_⟩
  · rw [Trace.ranges, hmessages, map_append, map_singleton, Message.range_answerFor]
    exact htiles.concat rfl hle
  all_goals
    intro m hm
    rw [hmessages, mem_append, mem_singleton] at hm
    rcases hm with hm | hm
  · exact h.bounded m hm
  · rw [hm, Message.range_answerFor]
    have : p.batch.newestSeq ≤ c.seq := hnewest ▸ Nat.sub_le _ _
    exact hc.seq_eq ▸ this
  · exact h.sizes m hm
  · rw [hm, Message.frames_answerFor, Message.range_answerFor, hframes]
    rfl
  · exact h.carries m hm
  · cases result with
    | error e => simp [Conn.answerFor] at hm
    | ok infer =>
      have hrange : (Message.Partial m).range = ⟨p.batch.oldestSeq, p.batch.newestSeq⟩ :=
        hm ▸ Message.range_answerFor ..
      obtain rfl := Message.Partial.inj hm
      exact ⟨infer, hrange ▸ hanswers infer rfl, ⟨rfl, rfl, rfl, rfl, rfl, rfl⟩⟩

lemma Delivered.step (h : ∀ id, Delivered g Answers (s.traces id)) (hinv : s.Inv)
    (hcourier : Courier.Inv (ResultOf Answers) (s.courier g)) (hmove : Move g Answers s s')
    (id : ℕ) : Delivered g Answers (s'.traces id) := by
  obtain ⟨new, hframes⟩ := hmove.frames id
  rcases hmove.messages id with hsame | ⟨c, p, result, clock, hc, hp, hmessages, hresult⟩
  · exact (h id).frames hframes hsame
  · -- first the answer, then the frames that came with it
    have hanswer := (h id).answer (s'.traces id).wrote (hinv.conn id c hc).1 hp hmessages
      fun infer hi => by
        obtain ⟨d, hd, rfl, htag, hd'⟩ := hresult infer hi
        refine hcourier.answers (mem_map_of_mem hd) ?_ infer hd'
        simp [courier, Done.toReport, hc, Conn.awaited, hp, htag]
    exact hanswer.frames hframes rfl

theorem delivered_reachable (hr : ((gateway g now).restrict (ServerAnswers g Answers)).Reachable s) :
    ∀ id, Delivered g Answers (s.traces id) := by
  induction hr with
  | start h0 =>
    obtain rfl : _ = start g now := h0
    exact fun _ => Delivered.start
  | step hs hstep ih =>
    obtain ⟨hinv, hcourier⟩ := courier_inv hs
    exact Delivered.step ih hinv hcourier (step_simulates hinv hcourier hstep.1 hstep.2)

theorem messages_tile (hr : ((gateway g now).restrict (ServerAnswers g Answers)).Reachable s)
    (id : ℕ) :
    (∀ m, (s.traces id).messages.head? = some m → m.range.oldest = 1) ∧
    (∀ i m m', (s.traces id).messages[i]? = some m → (s.traces id).messages[i + 1]? = some m' →
      m'.range.oldest = m.range.newest + 1) ∧
    (∀ m ∈ (s.traces id).messages, m.range.oldest ≤ m.range.newest ∧
      m.frames = m.range.newest - m.range.oldest + 1) ∧
    ∀ m, .Partial m ∈ (s.traces id).messages → ∃ infer,
      Answers (Slot.request g.config
        ((s.traces id).pcm ⟨m.oldestFrameSeq, m.newestFrameSeq⟩) g.config.cpuPasses) infer ∧
      m.Carries infer := by
  obtain ⟨⟨k, htiles⟩, -, hsizes, hcarries⟩ := delivered_reachable hr id
  obtain ⟨hhead, hnext⟩ := htiles.consecutive
  refine ⟨fun m hm => hhead _ ?_, fun i m m' hm hm' => hnext i _ _ ?_ ?_, fun m hm => ?_, hcarries⟩
  · rw [Trace.ranges, List.head?_map, hm, Option.map_some]
  · rw [Trace.ranges, List.getElem?_map, hm, Option.map_some]
  · rw [Trace.ranges, List.getElem?_map, hm', Option.map_some]
  · exact ⟨(htiles.mem_bounds (mem_map_of_mem hm)).2.1, hsizes m hm⟩

def AnswersSilence (req : Bytes) (infer : InferResponse) : Prop :=
  req = Slot.request sampleConfig silence 4 ∧ infer.samples = 320

instance (req : Bytes) : DecidablePred (AnswersSilence req) :=
  fun _ => inferInstanceAs (Decidable (_ ∧ _))

def isPartial : Message → Bool
  | .Partial _ => true
  | .Error _ => false

def answered (now : Instant) : List Event :=
  [.Drive 0 ⟨true, ⟨now, none, true, [.Ok 2000], [.Ok silenceAnswer.wire, .WouldBlock],
    .WouldBlock⟩, true⟩, .Result now .Ok]

def answeredTwice : List Event :=
  oneFrame ++ answered (10 ^ 9) ++
    [.Ready 2 true false ⟨.NeedMore, [.Binary silence 2, .WouldBlock], .Ok⟩,
      .Timer (2 * 10 ^ 9) 2 (2 * 10 ^ 9) 0 .Ok, .Command (2 * 10 ^ 9) true] ++
    answered (2 * 10 ^ 9)

theorem messages_tile_answeredTwice :
    ∃ s m m' infer infer', (gateway sampleSetup 0).Reachable s ∧
      (s.traces 2).messages = [.Partial m, .Partial m'] ∧
      m.oldestFrameSeq = 1 ∧ m'.oldestFrameSeq = m.newestFrameSeq + 1 ∧
      AnswersSilence (Slot.request sampleConfig
        ((s.traces 2).pcm ⟨m.oldestFrameSeq, m.newestFrameSeq⟩) 4) infer ∧ m.Carries infer ∧
      AnswersSilence (Slot.request sampleConfig
        ((s.traces 2).pcm ⟨m'.oldestFrameSeq, m'.newestFrameSeq⟩) 4) infer' ∧
      m'.Carries infer' := by
  obtain ⟨s, hr, hlen, hall⟩ : ∃ s, ((gateway sampleSetup 0).restrict
      (ServerAnswers sampleSetup AnswersSilence)).Reachable s ∧
        (s.traces 2).messages.length = 2 ∧ (s.traces 2).messages.all isPartial :=
    TransitionSystem.Reachable.exists_of_guarded answeredTwice (by decide +kernel)
  obtain ⟨m, m', hm⟩ := length_eq_two.mp hlen
  obtain ⟨hfirst, hnext, -, hcarries⟩ := messages_tile hr 2
  rw [hm] at hall hfirst hnext hcarries
  cases m with
  | Error e => simp [isPartial] at hall
  | Partial m =>
    cases m' with
    | Error e => simp [isPartial] at hall
    | Partial m' =>
      obtain ⟨infer, hanswers, hinfer⟩ := hcarries m (by simp)
      obtain ⟨infer', hanswers', hinfer'⟩ := hcarries m' (by simp)
      exact ⟨s, m, m', infer, infer', hr.of_restrict, hm, hfirst _ rfl, hnext 0 _ _ rfl rfl,
        hanswers, hinfer, hanswers', hinfer'⟩

end Gateway

end SttBench.RustSync
