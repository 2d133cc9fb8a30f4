import SttBench.Core.Decoder
import SttBench.OxcamlEpoll.Server

/-!
# ocaml-oxcaml-epoll: the pieces of the client's stream

What is made of a stream does not depend on the reads it comes in.
-/

namespace SttBench.OxcamlEpoll

open Ascii Conn List

/-! ## Frame by frame -/

structure Stage where
  started : Bool
  seq : ℕ
deriving DecidableEq, Repr

inductive Item
  | Frame (seq : ℕ) (payload : Bytes)
  | Pong (payload : Bytes)
  | Close (code : ℕ)
deriving DecidableEq, Repr

variable (startMessageOk : Bytes → Bool)

def Stage.onFrame (stage : Stage) (f : Ws.Frame) (n : ℕ) : Decoder.Step Stage Item :=
  match f.opcode with
  | .Text =>
    if f.fin ∧ stage.started = false ∧ startMessageOk f.payload then
      .next { stage with started := true } n []
    else .halt [.Close 1002]
  | .Binary =>
    if f.fin = false ∨ stage.started = false then .halt [.Close 1002]
    else if f.payload.length ≠ frameBytes then .halt [.Close 1003]
    else .next { stage with seq := stage.seq + 1 } n [.Frame (stage.seq + 1) f.payload]
  | .Ping => .next stage n [.Pong f.payload]
  | .Pong => .next stage n []
  | .Close => .halt [.Close 1000]
  | .Continuation => .halt [.Close 1002]
  | .Other _ => .halt [.Close 1002]

lemma Stage.onFrame_next {stage stage' : Stage} {f : Ws.Frame} {n m : ℕ} {out : List Item}
    (h : stage.onFrame startMessageOk f n = .next stage' m out) : m = n := by
  unfold onFrame at h
  split at h <;> (try split_ifs at h) <;> cases h <;> rfl

def frameByFrame : Decoder Stage UInt8 Item where
  step stage b :=
    match Ws.parseOne b 0 with
    | .error _ => some (.halt [.Close 1002])
    | .ok none => none
    | .ok (some (f, n)) => some (stage.onFrame startMessageOk f n)
  progress h := by
    split at h
    · cases h
    · cases h
    · rename_i f n hparse
      rw [Stage.onFrame_next startMessageOk (Option.some.inj h)]
      exact Ws.parseOne_bounds hparse
  stable x h := by
    rw [Ws.parseOne_append x]
    · exact h
    · intro hnone
      rw [hnone] at h
      cases h

/-! ## The handlers of a connection -/

def Item.frame? : Item → Option (ℕ × Bytes)
  | .Frame seq payload => some (seq, payload)
  | _ => none

def Item.out? : Item → Option Out
  | .Pong payload => some (.Pong payload)
  | .Close code => some (.Close code)
  | _ => none

def numbered (seq : ℕ) : List Bytes → List (ℕ × Bytes)
  | [] => []
  | f :: fs => (seq + 1, f) :: numbered (seq + 1) fs

lemma numbered_append (fs gs : List Bytes) :
    ∀ seq, numbered seq (fs ++ gs) = numbered seq fs ++ numbered (seq + fs.length) gs := by
  induction fs with
  | nil =>
    intro seq
    rfl
  | cons f fs ih =>
    intro seq
    rw [cons_append, numbered, ih, numbered, length_cons, cons_append,
      Nat.add_right_comm, ← Nat.add_assoc]

def Conn.stage (c : Conn) : Stage := ⟨c.started, c.seq⟩

structure Advances (c c' : Conn) (fs : List Bytes) (o : List Out) (items : List Item) : Prop where
  frames : items.filterMap Item.frame? = numbered c.seq fs
  out : items.filterMap Item.out? = o
  seq : c'.seq = c.seq + fs.length
  closing : c'.closeAfterWrite = c.closeAfterWrite
  state : c'.state = c.state

lemma Advances.trans {c c' c'' : Conn} {fs fs' : List Bytes} {o o' : List Out} {items items' : List Item}
    (h : Advances c c' fs o items) (h' : Advances c' c'' fs' o' items') :
    Advances c c'' (fs ++ fs') (o ++ o') (items ++ items') where
  frames := by rw [filterMap_append, h.frames, h'.frames, numbered_append, h.seq]
  out := by rw [filterMap_append, h.out, h'.out]
  seq := by rw [h'.seq, h.seq, length_append, Nat.add_assoc]
  closing := h'.closing.trans h.closing
  state := h'.state.trans h.state

lemma Conn.onFrame_refines (clock : ℕ → Ms) (c : Conn) (f : Ws.Frame) (n : ℕ) :
    (∃ code, c.onFrame startMessageOk clock f = .Stop (c.enqueueClose code) ∧
      c.stage.onFrame startMessageOk f n = .halt [.Close code]) ∨
    ∃ c' frames out items, c.onFrame startMessageOk clock f = .Continue c' frames out ∧
      c.stage.onFrame startMessageOk f n = .next c'.stage n items ∧
      Advances c c' frames out items := by
  obtain ⟨fin, opcode, payload⟩ := f
  cases opcode with
  | Text =>
    simp only [onFrame, Stage.onFrame, stage]
    by_cases hstart : fin ∧ c.started = false ∧ startMessageOk payload
    · obtain ⟨hfin, hstarted, hok⟩ := hstart
      refine Or.inr ⟨{ c with started := true }, [], [], [], ?_, ?_, rfl, rfl, rfl, rfl, rfl⟩
      · simp [hfin, hstarted, hok]
      · simp [hfin, hstarted, hok]
    · refine Or.inl ⟨1002, ?_, if_neg hstart⟩
      split_ifs with hfin hstarted hok
      · rfl
      · exact absurd ⟨by simpa using hfin, hstarted, hok⟩ hstart
      · rfl
      · rfl
  | Binary =>
    by_cases hfin : fin = false
    · exact Or.inl ⟨1002, if_pos hfin, if_pos (Or.inl hfin)⟩
    · by_cases hstarted : c.started = false
      · exact Or.inl ⟨1002, (if_neg hfin).trans (if_pos hstarted), if_pos (Or.inr hstarted)⟩
      · have hgo : ¬ (fin = false ∨ c.started = false) := not_or.mpr ⟨hfin, hstarted⟩
        by_cases hlen : payload.length = frameBytes
        · exact Or.inr ⟨c.recordPcm payload (clock (c.seq + 1)), [payload], [],
            [.Frame (c.seq + 1) payload],
            (if_neg hfin).trans ((if_neg hstarted).trans (if_pos hlen)),
            (if_neg hgo).trans (if_neg (not_not.mpr hlen)), rfl, rfl, rfl, rfl, rfl⟩
        · exact Or.inl ⟨1003, (if_neg hfin).trans ((if_neg hstarted).trans (if_neg hlen)),
            (if_neg hgo).trans (if_pos hlen)⟩
  | Ping =>
    exact Or.inr ⟨c.enqueueRaw, [], [.Pong payload], [.Pong payload], rfl, rfl, rfl, rfl, rfl, rfl,
      rfl⟩
  | Pong => exact Or.inr ⟨c, [], [], [], rfl, rfl, rfl, rfl, rfl, rfl, rfl⟩
  | Close => exact Or.inl ⟨1000, rfl, rfl⟩
  | Continuation | Other k => exact Or.inl ⟨1002, rfl, rfl⟩

lemma Conn.fastRun_refines (clock : ℕ → Ms) (c : Conn) :
    ∃ items, Advances c (c.fastRun clock).conn (c.fastRun clock).frames [] items ∧
      (frameByFrame startMessageOk).run c.stage c.input =
        ((frameByFrame startMessageOk).run (c.fastRun clock).conn.stage
          (c.fastRun clock).conn.input).prepend items := by
  fun_induction fastRun clock c with
  | case1 c h payload r ih =>
    obtain ⟨hstarted, hfast⟩ := h
    let c₁ := (c.recordPcm payload (clock (c.seq + 1))).consumeInput 648
    obtain ⟨items, hadv, hrun⟩ := ih
    have hone : Advances c c₁ [payload] [] [.Frame (c.seq + 1) payload] := ⟨rfl, rfl, rfl, rfl, rfl⟩
    have hstep : (frameByFrame startMessageOk).step c.stage c.input =
        some (.next c₁.stage 648 [.Frame (c.seq + 1) payload]) := by
      have hgo : ¬ (true = false ∨ c.started = false) := by simp [hstarted]
      simp only [frameByFrame, Ws.parseOne_fixedBinary640 hfast]
      exact congrArg some ((if_neg hgo).trans
        (if_neg (not_not.mpr (Ws.length_copyUnmasked640 hfast))))
    refine ⟨_, hone.trans hadv, ?_⟩
    rw [Decoder.run_of_next hstep]
    exact (congrArg _ hrun).trans (Decoder.Result.prepend_prepend ..)
  | case2 c h => exact ⟨[], ⟨rfl, rfl, rfl, rfl, rfl⟩, rfl⟩

structure Shows (q : Decoder.Result Stage UInt8 Item) (seq : ℕ) (r : Handled) : Prop where
  frames : q.out.filterMap Item.frame? = numbered seq r.frames
  out : q.out.filterMap Item.out? = r.out
  seq : r.conn.seq = seq + r.frames.length
  closing : r.conn.closeAfterWrite = q.state.isNone
  state : r.conn.state = .Open
  live : ∀ stage, q.state = some stage → r.conn.stage = stage ∧ r.conn.input = q.rest

variable {q : Decoder.Result Stage UInt8 Item} {r : Handled} {seq : ℕ}

lemma Shows.after {c c' : Conn} {fs : List Bytes} {o : List Out} {items : List Item}
    (hq : Shows q c'.seq r) (h : Advances c c' fs o items) :
    Shows (q.prepend items) c.seq ⟨r.conn, fs ++ r.frames, o ++ r.out⟩ where
  frames := by
    rw [Decoder.Result.prepend, filterMap_append, h.frames, hq.frames, numbered_append, h.seq]
  out := by rw [Decoder.Result.prepend, filterMap_append, h.out, hq.out]
  seq := by rw [hq.seq, h.seq, length_append, Nat.add_assoc]
  closing := hq.closing
  state := hq.state
  live := hq.live

theorem Conn.processFrames_shows (clock : ℕ → Ms) (c : Conn) (hopen : c.state = .Open)
    (hclosing : c.closeAfterWrite = false) :
    Shows ((frameByFrame startMessageOk).run c.stage c.input) c.seq
      (c.processFrames startMessageOk clock) := by
  fun_induction processFrames startMessageOk clock c with
  | case1 c hfast r ih =>
    obtain ⟨items, hadv, hrun⟩ := fastRun_refines startMessageOk clock c
    rw [hrun]
    exact (ih (hadv.state.trans hopen) (hadv.closing.trans hclosing)).after hadv
  | case2 c hfast e hparse =>
    have hstep : (frameByFrame startMessageOk).step c.stage c.input = some (.halt [.Close 1002]) := by
      simp only [frameByFrame, hparse]
    rw [Decoder.run_of_halt hstep]
    exact ⟨rfl, rfl, rfl, rfl, hopen, (by rintro _ ⟨⟩)⟩
  | case3 c hfast hparse =>
    have hstep : (frameByFrame startMessageOk).step c.stage c.input = none := by
      simp only [frameByFrame, hparse]
    rw [Decoder.run_of_none hstep]
    refine ⟨rfl, rfl, rfl, hclosing, hopen, ?_⟩
    rintro _ ⟨⟩
    exact ⟨rfl, rfl⟩
  | case4 c hfast f next hparse r hframe =>
    have hstep : (frameByFrame startMessageOk).step c.stage c.input =
        some (c.stage.onFrame startMessageOk f next) := by
      simp only [frameByFrame, hparse]
    rcases onFrame_refines startMessageOk clock (c.consumeInput next) f next with
      ⟨code, hstop, hhalt⟩ | ⟨_, _, _, _, hgo, -⟩
    · cases hframe.symm.trans hstop
      rw [Decoder.run_of_halt (hstep.trans (congrArg some hhalt))]
      exact ⟨rfl, rfl, rfl, rfl, hopen, (by rintro _ ⟨⟩)⟩
    · cases hframe.symm.trans hgo
  | case5 c hfast f next hparse c' frames out hframe r ih =>
    have hstep : (frameByFrame startMessageOk).step c.stage c.input =
        some (c.stage.onFrame startMessageOk f next) := by
      simp only [frameByFrame, hparse]
    rcases onFrame_refines startMessageOk clock (c.consumeInput next) f next with
      ⟨code, hstop, -⟩ | ⟨_, _, _, items, hgo, hnext, hadv⟩
    · cases hframe.symm.trans hstop
    · cases hframe.symm.trans hgo
      have hinput : c'.input = c.input.drop next :=
        (onFrame_continue hframe).1
      have hadv : Advances c c' frames out items :=
        { hadv with }
      rw [Decoder.run_of_next (hstep.trans (congrArg some hnext)), ← hinput]
      exact (ih (hadv.state.trans hopen) (hadv.closing.trans hclosing)).after hadv

/-! ## Reads -/

def readBytes : List ReadResult → Bytes
  | [] => []
  | .Again :: _ => []
  | .Intr :: rs => readBytes rs
  | .Fail _ :: _ => []
  | .Data chunk :: rs => if chunk.length = 8192 then chunk ++ readBytes rs else chunk

def readEnds : List ReadResult → Bool
  | [] => false
  | .Again :: _ => false
  | .Intr :: rs => readEnds rs
  | .Fail _ :: _ => true
  | .Data chunk :: rs => chunk.isEmpty || (chunk.length = 8192 && readEnds rs)

lemma Conn.readLoop_eq (reads : List ReadResult) :
    ∀ c : Conn, c.readLoop reads =
      if readEnds reads then none else some { c with input := c.input ++ readBytes reads } := by
  induction reads with
  | nil =>
    intro c
    simp [readLoop, readBytes, readEnds]
  | cons r rs ih =>
    intro c
    cases r with
    | Again => simp [readLoop, readBytes, readEnds]
    | Intr => exact ih c
    | Fail m => rfl
    | Data chunk =>
      cases chunk with
      | nil => rfl
      | cons x chunk =>
        rw [readLoop, readBytes, readEnds]
        · split_ifs <;> simp_all
        · simp

inductive Turn
  | Read (reads : List ReadResult) (received : ℕ → Ms)
  | Handle (f : Conn → Conn)

def Turn.Apart : Turn → Prop
  | .Read _ _ => True
  | .Handle f => ∀ c, (f c).input = c.input ∧ (f c).stage = c.stage ∧ (f c).state = c.state ∧
      (f c).closeAfterWrite = c.closeAfterWrite

namespace Conn

def turn (c : Conn) : Turn → Option Handled
  | .Read reads received =>
    if c.connEvents &&& epollin ≠ 0 then c.read startMessageOk received reads else some ⟨c, [], []⟩
  | .Handle f => some ⟨f c, [], []⟩

def turns (r : Handled) : List Turn → Handled
  | [] => r
  | t :: ts => match r.conn.turn startMessageOk t with
    | none => r
    | some q => turns ⟨q.conn, r.frames ++ q.frames, r.out ++ q.out⟩ ts

end Conn

def arrivals : List Turn → Bytes
  | [] => []
  | .Read reads _ :: ts => readBytes reads ++ if readEnds reads then [] else arrivals ts
  | .Handle _ :: ts => arrivals ts

def Turn.Whole : Turn → Prop
  | .Read reads _ => readEnds reads = true → readBytes reads = []
  | .Handle _ => True

lemma Conn.connEvents_epollin (c : Conn) :
    c.connEvents &&& epollin ≠ 0 ↔ c.closeAfterWrite = false := by
  cases hclosing : c.closeAfterWrite <;> cases hout : c.outPending <;>
    simp [connEvents, hclosing, hout, epollin, epollout, epollerr, epollhup]

lemma Shows.handle {f : Conn → Conn}
    (h : Shows q seq r) (hf : (Turn.Handle f).Apart) : Shows q seq ⟨f r.conn, r.frames, r.out⟩ := by
  obtain ⟨hinput, hstage, hstate, hclosing⟩ := hf r.conn
  refine ⟨h.frames, h.out, ?_, hclosing.trans h.closing, hstate.trans h.state, ?_⟩
  · exact (congrArg Stage.seq hstage).trans h.seq
  · intro stage hlive
    obtain ⟨hs, hi⟩ := h.live stage hlive
    exact ⟨hstage.trans hs, hinput.trans hi⟩

lemma Shows.turn_halted
    (h : Shows q seq r) (hq : q.state = none) (reads : List ReadResult) (received : ℕ → Ms) :
    r.conn.turn startMessageOk (.Read reads received) = some ⟨r.conn, [], []⟩ := by
  have hclosing : r.conn.closeAfterWrite = true := by rw [h.closing, hq]; rfl
  exact if_neg (by simp [connEvents_epollin, hclosing])

theorem Shows.read {reads : List ReadResult} (h : Shows q seq r) (hgoes : readEnds reads = false)
    (received : ℕ → Ms) :
    ∃ r', r.conn.turn startMessageOk (.Read reads received) = some r' ∧
      Shows ((frameByFrame startMessageOk).resume q (readBytes reads)) seq
        ⟨r'.conn, r.frames ++ r'.frames, r.out ++ r'.out⟩ := by
  cases hq : q.state with
  | none =>
    refine ⟨⟨r.conn, [], []⟩, h.turn_halted startMessageOk hq reads received, ?_⟩
    rw [Decoder.resume, hq, append_nil, append_nil]
    exact h
  | some stage =>
    have hclosing : r.conn.closeAfterWrite = false := by rw [h.closing, hq]; rfl
    obtain ⟨hstage, hinput⟩ := h.live stage hq
    let c₁ : Conn := { r.conn with input := r.conn.input ++ readBytes reads }
    have hshows := c₁.processFrames_shows startMessageOk received h.state hclosing
    refine ⟨c₁.processFrames startMessageOk received, ?_, ?_⟩
    · rw [turn, if_pos ((connEvents_epollin _).mpr hclosing), Conn.read, readLoop_eq, hgoes,
        if_neg Bool.false_ne_true, Option.bind_some]
      split
      case h_1 hhandshake => cases hhandshake.symm.trans h.state
      case h_2 => rfl
    · have hrun : (frameByFrame startMessageOk).resume q (readBytes reads) =
          ((frameByFrame startMessageOk).run c₁.stage c₁.input).prepend q.out := by
        rw [Decoder.resume, hq, ← hstage, ← hinput]
        rfl
      have hseq : c₁.seq = seq + r.frames.length := h.seq
      rw [hrun]
      refine ⟨?_, ?_, ?_, hshows.closing, hshows.state, hshows.live⟩
      · rw [Decoder.Result.prepend, filterMap_append, h.frames, hshows.frames,
          numbered_append, hseq]
      · rw [Decoder.Result.prepend, filterMap_append, h.out, hshows.out]
      · rw [hshows.seq, hseq, length_append, Nat.add_assoc]

lemma Shows.turn_ends {reads : List ReadResult} (h : Shows q seq r) (hends : readEnds reads = true)
    (received : ℕ → Ms) (hlive : q.state ≠ none) :
    r.conn.turn startMessageOk (.Read reads received) = none := by
  have hclosing : r.conn.closeAfterWrite = false := by simp [h.closing, hlive, Option.isNone_eq_false_iff, Option.isSome_iff_ne_none]
  rw [turn, if_pos ((connEvents_epollin _).mpr hclosing), Conn.read, readLoop_eq, hends]
  rfl

lemma turns_some {r q : Handled} {t : Turn} (ts : List Turn)
    (h : r.conn.turn startMessageOk t = some q) :
    Conn.turns startMessageOk r (t :: ts) =
      Conn.turns startMessageOk ⟨q.conn, r.frames ++ q.frames, r.out ++ q.out⟩ ts := by
  rw [Conn.turns, h]

lemma turns_handle (f : Conn → Conn) (ts : List Turn) :
    Conn.turns startMessageOk r (.Handle f :: ts) =
      Conn.turns startMessageOk ⟨f r.conn, r.frames, r.out⟩ ts := by
  rw [turns_some startMessageOk ts rfl, append_nil, append_nil]

lemma Shows.turns_halted (hq : q.state = none) (ts : List Turn) :
    ∀ {r : Handled}, (∀ t ∈ ts, t.Apart) → Shows q seq r →
      Shows q seq (Conn.turns startMessageOk r ts) := by
  induction ts with
  | nil =>
    intro r _ h
    exact h
  | cons t ts ih =>
    intro r hapart h
    have hrest : ∀ t ∈ ts, t.Apart := fun t ht => hapart t (mem_cons_of_mem _ ht)
    cases t with
    | Read reads received =>
      rw [turns_some startMessageOk ts (h.turn_halted startMessageOk hq reads received), append_nil,
        append_nil]
      exact ih hrest h
    | Handle f =>
      rw [turns_handle]
      exact ih hrest (h.handle (hapart _ mem_cons_self))

theorem Shows.turns {stage : Stage} (ts : List Turn) :
    ∀ {b : Bytes} {r : Handled}, (∀ t ∈ ts, t.Apart) → (∀ t ∈ ts, t.Whole) →
      Shows ((frameByFrame startMessageOk).run stage b) seq r →
      Shows ((frameByFrame startMessageOk).run stage (b ++ arrivals ts)) seq
        (Conn.turns startMessageOk r ts) := by
  induction ts with
  | nil =>
    intro b r _ _ h
    rw [arrivals, append_nil]
    exact h
  | cons t ts ih =>
    intro b r hapart hwhole h
    have hrest : ∀ t ∈ ts, t.Apart := fun t ht => hapart t (mem_cons_of_mem _ ht)
    have hrest' : ∀ t ∈ ts, t.Whole := fun t ht => hwhole t (mem_cons_of_mem _ ht)
    cases t with
    | Read reads received =>
      cases hends : readEnds reads with
      | false =>
        obtain ⟨r', hr', h'⟩ := h.read startMessageOk hends received
        rw [← Decoder.run_append] at h'
        rw [turns_some startMessageOk ts hr', arrivals, hends, if_neg Bool.false_ne_true,
          ← append_assoc]
        exact ih hrest hrest' h'
      | true =>
        have hnil : readBytes reads = [] := hwhole _ mem_cons_self hends
        rw [arrivals, hends, hnil, if_pos rfl, append_nil, append_nil]
        cases hq : ((frameByFrame startMessageOk).run stage b).state with
        | none => exact h.turns_halted startMessageOk hq _ hapart
        | some stage' =>
          rw [Conn.turns, h.turn_ends startMessageOk hends received (by simp [hq])]
          exact h
    | Handle f =>
      rw [turns_handle]
      exact ih hrest hrest' (h.handle (hapart _ mem_cons_self))

theorem input_independent_of_reads {c : Conn} {ts : List Turn}
    (hopen : c.state = .Open) (hclosing : c.closeAfterWrite = false)
    (hapart : ∀ t ∈ ts, t.Apart) (hwhole : ∀ t ∈ ts, t.Whole) (received : ℕ → Ms) :
    let r := turns startMessageOk (c.processFrames startMessageOk received) ts
    let reference := (frameByFrame startMessageOk).run c.stage (c.input ++ arrivals ts)
    numbered c.seq r.frames = reference.out.filterMap Item.frame? ∧
      r.out = reference.out.filterMap Item.out? := by
  have h := Shows.turns startMessageOk ts hapart hwhole
    (c.processFrames_shows startMessageOk received hopen hclosing)
  exact ⟨h.frames.symm, h.out.symm⟩

def splitPing : List Turn :=
  [.Read [.Data [0x89, 0x81, 1]] (fun _ => 0), .Handle Conn.drain,
    .Read [.Intr, .Data [0, 0, 0, 7], .Again] (fun _ => 1), .Read [.Data []] (fun _ => 2)]

def upgraded : Conn := { Conn.new ⟨[], 0, 1, 4, 75, 100⟩ 0 0 with state := .Open }

theorem input_independent_of_reads_splitPing :
    (turns (fun _ => true) (upgraded.processFrames (fun _ => true) (fun _ => 0)) splitPing).out =
      [.Pong [6]] := by
  have hapart : ∀ t ∈ splitPing, t.Apart := by
    simp [splitPing, Turn.Apart, Conn.drain, Conn.clearBatch, Conn.stage]
  have hwhole : ∀ t ∈ splitPing, t.Whole := by
    simp [splitPing, Turn.Whole, readBytes, readEnds]
  refine (input_independent_of_reads (fun _ => true) (c := upgraded) rfl rfl hapart hwhole
    (fun _ => 0)).2.trans ?_
  decide +kernel

def ping : Bytes := [0x89, 0x82, 0, 0, 0, 0, 1, 2]

def pings : Bytes := (List.replicate 1024 ping).flatten

def endTogether : List Turn := [.Read [.Data pings, .Data []] (fun _ => 0)]

def endApart : List Turn :=
  [.Read [.Data pings, .Again] (fun _ => 0), .Read [.Data []] (fun _ => 1)]

theorem pings_dropped :
    let start := upgraded.processFrames (fun _ => true) (fun _ => 0)
    arrivals endTogether = arrivals endApart ∧ (turns (fun _ => true) start endTogether).out = [] ∧
      ∃ out, (turns (fun _ => true) start endApart).out = .Pong [1, 2] :: out := by
  let startMessageOk : Bytes → Bool := fun _ => true
  have hlen : pings.length = 8192 := by
    rw [pings, length_flatten, map_replicate, sum_replicate]
    rfl
  have hpings : pings = ping ++ (List.replicate 1023 ping).flatten := rfl
  have hne : pings.isEmpty = false := by rw [hpings]; rfl
  have hnone : (frameByFrame startMessageOk).run ⟨false, 0⟩ [] = ⟨some ⟨false, 0⟩, [], []⟩ :=
    Decoder.run_of_none rfl
  have hshows := upgraded.processFrames_shows startMessageOk (fun _ => 0) rfl rfl
  have hstart : Shows ⟨some ⟨false, 0⟩, [], []⟩ 0 (upgraded.processFrames startMessageOk fun _ => 0) :=
    hnone ▸ hshows
  have harrivals : arrivals endApart = pings := by
    simp [endApart, arrivals, readBytes, readEnds, hlen, hne]
  refine ⟨?_, ?_, ?_⟩
  · simp [harrivals, endTogether, arrivals, readBytes, readEnds, hlen]
  · have hends : readEnds [.Data pings, .Data []] = true := by simp [readEnds, hlen]
    rw [endTogether, turns, hstart.turn_ends startMessageOk hends _ (by simp)]
    exact hstart.out.symm
  · have hparse : Ws.parseOne pings 0 = .ok (some (⟨true, .Ping, [1, 2]⟩, 8)) := by
      rw [hpings, Ws.parseOne_append]
      · rfl
      · rintro ⟨⟩
    have hstep : (frameByFrame startMessageOk).step ⟨false, 0⟩ pings =
        some (.next ⟨false, 0⟩ 8 [.Pong [1, 2]]) := by
      simp only [frameByFrame, hparse]
      rfl
    have hwhole : ∀ t ∈ endApart, t.Whole := by
      simp [endApart, Turn.Whole, readBytes, readEnds, hlen, hne]
    have hend := Shows.turns startMessageOk endApart (by simp [endApart, Turn.Apart]) hwhole hshows
    rw [harrivals, show upgraded.input = [] from rfl, nil_append,
      show upgraded.stage = ⟨false, 0⟩ from rfl, Decoder.run_of_next hstep] at hend
    exact ⟨_, hend.out.symm⟩

end SttBench.OxcamlEpoll
