import Mathlib.Data.List.DropRight
import SttBench.Core.Buffer
import SttBench.Wire.Messages

/-! # ocaml-oxcaml, ocaml-websocket-async: the frames between two flushes -/

namespace SttBench.OcamlAsync

open Ascii Buffer Wire List

variable {τ : Type}

inductive CloseAction
  | Continue
  | Close (code : ℕ) (reason : String)
deriving DecidableEq, Repr

def badFrame : CloseAction := .Close 1003 s!"frame must be {frameBytes} bytes"

structure Drained (τ : Type) where
  body : List Bytes
  bodyLen : ℕ
  frameCount : ℕ
  oldestSeq : ℕ
  newestSeq : ℕ
  oldestReceivedAt : τ
  newestReceivedAt : τ
deriving DecidableEq, Repr

inductive Op (τ : Type)
  | OnBinary (payload : Bytes) (now : τ)
  | Drain

inductive Out (τ : Type)
  | OnBinary (action : CloseAction)
  | Drain (drained : Option (Drained τ))

/-! ## ocaml-oxcaml -/

structure FrameBuffer (τ : Type) where
  payloads : List Bytes
  count : ℕ
  bodyLen : ℕ
  oldestSeq : ℕ
  newestSeq : ℕ
  oldestReceivedAt : τ
  newestReceivedAt : τ

namespace FrameBuffer

def create (epoch : τ) : FrameBuffer τ := ⟨.replicate 64 [], 0, 0, 0, 0, epoch, epoch⟩

def ensureCapacity (t : FrameBuffer τ) : Option (FrameBuffer τ) :=
  if t.count = t.payloads.length then do
    let next := List.replicate (max 1 (t.payloads.length * 2)) []
    let payloads ← blit t.payloads 0 next 0 t.count
    some { t with payloads := payloads }
  else some t

def push (t : FrameBuffer τ) (seq : ℕ) (payload : Bytes) (receivedAt : τ) :
    Option (FrameBuffer τ) := do
  let t ← t.ensureCapacity
  let t := if t.count = 0 then { t with oldestSeq := seq, oldestReceivedAt := receivedAt } else t
  let payloads ← set t.payloads t.count payload
  some { t with
    payloads := payloads
    count := t.count + 1
    bodyLen := t.bodyLen + payload.length
    newestSeq := seq
    newestReceivedAt := receivedAt }

def reset (epoch : τ) (t : FrameBuffer τ) : FrameBuffer τ := ⟨t.payloads, 0, 0, 0, 0, epoch, epoch⟩

def drainLoop (payloads body : List Bytes) : ℕ → Option (List Bytes × List Bytes)
  | 0 => some (payloads, body)
  | i + 1 => do
      let payload ← payloads[i]?
      let payloads ← set payloads i []
      drainLoop payloads (payload :: body) i

end FrameBuffer

structure ArraySession (τ : Type) where
  buffer : FrameBuffer τ
  seq : ℕ

namespace ArraySession

def create (epoch : τ) : ArraySession τ := ⟨.create epoch, 0⟩

def onBinary (t : ArraySession τ) (payload : Bytes) (now : τ) :
    Option (ArraySession τ × CloseAction) :=
  if payload.length ≠ frameBytes then some (t, badFrame)
  else do
    let seq := t.seq + 1
    let buffer ← t.buffer.push seq payload now
    some (⟨buffer, seq⟩, .Continue)

def drain (epoch : τ) (t : ArraySession τ) : Option (ArraySession τ × Option (Drained τ)) :=
  let b := t.buffer
  if b.count = 0 then some (t, none)
  else do
    let (payloads, body) ← FrameBuffer.drainLoop b.payloads [] b.count
    let drained : Drained τ := ⟨body, b.bodyLen, b.count, b.oldestSeq, b.newestSeq,
      b.oldestReceivedAt, b.newestReceivedAt⟩
    some ({ t with buffer := { b with payloads := payloads }.reset epoch }, some drained)

def step (epoch : τ) (t : ArraySession τ) : Op τ → Option (ArraySession τ × Out τ)
  | .OnBinary payload now => (t.onBinary payload now).map (Prod.map id .OnBinary)
  | .Drain => (t.drain epoch).map (Prod.map id .Drain)

def run (epoch : τ) (ops : List (Op τ)) : Option (ArraySession τ × List (Out τ)) :=
  ops.foldlM (fun s op => (s.1.step epoch op).map fun r => (r.1, s.2 ++ [r.2])) (create epoch, [])

end ArraySession

/-! ## ocaml-websocket-async -/

structure QueueSession (τ : Type) where
  buffer : List (Frame τ)
  seq : ℕ

namespace QueueSession

def create : QueueSession τ := ⟨[], 0⟩

def onBinary (t : QueueSession τ) (payload : Bytes) (now : τ) : QueueSession τ × CloseAction :=
  if payload.length ≠ frameBytes then (t, badFrame)
  else (⟨t.buffer ++ [⟨t.seq + 1, payload, now⟩], t.seq + 1⟩, .Continue)

def fold (acc : Drained τ) (f : Frame τ) : Drained τ :=
  { acc with
    body := f.payload :: acc.body
    bodyLen := acc.bodyLen + f.payload.length
    frameCount := acc.frameCount + 1
    newestSeq := f.seq
    newestReceivedAt := f.receivedAt }

def drain (t : QueueSession τ) : QueueSession τ × Option (Drained τ) :=
  match t.buffer.head? with
  | none => (t, none)
  | some first =>
    let acc := t.buffer.foldl fold
      ⟨[], 0, 0, first.seq, first.seq, first.receivedAt, first.receivedAt⟩
    ({ t with buffer := [] }, some { acc with body := acc.body.reverse })

def step (t : QueueSession τ) : Op τ → QueueSession τ × Out τ
  | .OnBinary payload now => (t.onBinary payload now).map id .OnBinary
  | .Drain => t.drain.map id .Drain

def run (ops : List (Op τ)) : QueueSession τ × List (Out τ) :=
  ops.foldl (fun s op => ((s.1.step op).1, s.2 ++ [(s.1.step op).2])) (create, [])

lemma run_concat (ops : List (Op τ)) (op : Op τ) :
    run (ops ++ [op]) = (((run ops).1.step op).1, (run ops).2 ++ [((run ops).1.step op).2]) := by
  rw [run, foldl_append]
  rfl

lemma length_run (ops : List (Op τ)) : (run ops).2.length = ops.length := by
  induction ops using List.reverseRecOn with
  | nil => rfl
  | append_singleton ops op ih => simp [run_concat, ih]

lemma run_append (before after : List (Op τ)) :
    (run before).2 <+: (run (before ++ after)).2 := by
  induction after using List.reverseRecOn with
  | nil => rw [append_nil]
  | append_singleton after op ih =>
    rw [← append_assoc, run_concat]
    exact ih.trans (prefix_append ..)

lemma run_getElem? (before : List (Op τ)) (op : Op τ) (after : List (Op τ)) :
    (run (before ++ op :: after)).2[before.length]? = some ((run before).1.step op).2 := by
  have h := run_append (before ++ [op]) after
  rw [run_concat, append_assoc, singleton_append] at h
  obtain ⟨rest, hrest⟩ := h
  simp [← hrest, ← length_run before]

end QueueSession

/-! ## The batch -/

def batchOf (frames : List (Frame τ)) : Option (Drained τ) := do
  let first ← frames.head?
  let last ← frames.getLast?
  some ⟨frames.map Frame.payload, (frames.map (·.payload.length)).sum, frames.length, first.seq,
    last.seq, first.receivedAt, last.receivedAt⟩

namespace QueueSession

lemma foldl_fold (acc : Drained τ) (frames : List (Frame τ)) :
    frames.foldl fold acc =
      { acc with
        body := (frames.map Frame.payload).reverse ++ acc.body
        bodyLen := acc.bodyLen + (frames.map (·.payload.length)).sum
        frameCount := acc.frameCount + frames.length
        newestSeq := (frames.getLast?.map Frame.seq).getD acc.newestSeq
        newestReceivedAt := (frames.getLast?.map Frame.receivedAt).getD acc.newestReceivedAt } := by
  induction frames generalizing acc with
  | nil => simp
  | cons f frames ih =>
    rw [foldl_cons, ih]
    cases hlast : frames.getLast? with
    | none | some l => simp [fold, List.getLast?_cons, hlast, Nat.add_assoc, Nat.add_comm 1]

lemma drain_eq (t : QueueSession τ) : t.drain = (⟨[], t.seq⟩, batchOf t.buffer) := by
  obtain ⟨frames, seq⟩ := t
  cases frames with
  | nil => rfl
  | cons first frames =>
    cases hlast : (first :: frames).getLast? with
    | none => simp at hlast
    | some last =>
      simp only [drain, List.head?_cons, foldl_fold, hlast, batchOf]
      simp

end QueueSession

/-! ## The array holds the frames of the queue -/

structure Holds (b : FrameBuffer τ) (frames : List (Frame τ)) : Prop where
  payloads : frames.map Frame.payload <+: b.payloads
  count : b.count = frames.length
  bodyLen : b.bodyLen = (frames.map (·.payload.length)).sum
  oldest : ∀ f ∈ frames.head?, b.oldestSeq = f.seq ∧ b.oldestReceivedAt = f.receivedAt
  newest : ∀ f ∈ frames.getLast?, b.newestSeq = f.seq ∧ b.newestReceivedAt = f.receivedAt

variable {b : FrameBuffer τ} {frames : List (Frame τ)}

lemma Holds.ensureCapacity (h : Holds b frames) :
    ∃ b', b.ensureCapacity = some b' ∧ Holds b' frames ∧ frames.length < b'.payloads.length := by
  have hlen : (frames.map Frame.payload).length = b.count := by rw [length_map, h.count]
  have hle := h.payloads.length_le
  have hcount := h.count
  simp only [FrameBuffer.ensureCapacity, Option.bind_eq_bind]
  split_ifs with hfull
  · obtain ⟨payloads, hblit, hnext, hpayloads⟩ := blit_front h.payloads
      (.replicate (max 1 (b.payloads.length * 2)) []) (by simp only [length_replicate]; omega)
    rw [length_replicate] at hnext
    rw [hlen] at hblit
    refine ⟨{ b with payloads := payloads }, by rw [hblit, Option.bind_some], ?_, ?_⟩
    · exact ⟨hpayloads, h.count, h.bodyLen, h.oldest, h.newest⟩
    · show frames.length < payloads.length
      omega
  · exact ⟨b, rfl, h, by omega⟩

lemma Holds.push (h : Holds b frames) (f : Frame τ) :
    ∃ b', b.push f.seq f.payload f.receivedAt = some b' ∧ Holds b' (frames ++ [f]) := by
  obtain ⟨b₁, hb₁, h₁, hroom⟩ := h.ensureCapacity
  have hlen : (frames.map Frame.payload).length = b₁.count := by rw [length_map, h₁.count]
  obtain ⟨payloads, hset⟩ := exists_write b₁.payloads b₁.count [f.payload] (by
    rw [h₁.count, length_singleton]
    exact hroom)
  have hpayloads : (frames ++ [f]).map Frame.payload <+: payloads := by
    rw [map_append]
    exact prefix_of_write h₁.payloads (hlen ▸ hset)
  have hcount : b₁.count + 1 = (frames ++ [f]).length := by simp [h₁.count]
  have hbodyLen : b₁.bodyLen + f.payload.length =
      ((frames ++ [f]).map (·.payload.length)).sum := by simp [h₁.bodyLen]
  have hnewest : ∀ x ∈ (frames ++ [f]).getLast?, f.seq = x.seq ∧ f.receivedAt = x.receivedAt := by
    simp
  simp only [FrameBuffer.push, hb₁, Option.bind_eq_bind, Option.bind_some]
  split_ifs with hempty
  · refine ⟨_, by rw [Buffer.set, hset, Option.bind_some], hpayloads, hcount, hbodyLen, ?_, hnewest⟩
    obtain rfl : frames = [] := eq_nil_of_length_eq_zero (h₁.count ▸ hempty)
    simp
  · refine ⟨_, by rw [Buffer.set, hset, Option.bind_some], hpayloads, hcount, hbodyLen, ?_, hnewest⟩
    intro x hx
    refine h₁.oldest x ?_
    cases frames with
    | nil => exact absurd h₁.count hempty
    | cons g frames => exact hx

lemma drainLoop_eq (s r body : List Bytes) :
    ∃ payloads, FrameBuffer.drainLoop (s ++ r) body s.length = some (payloads, s ++ body) := by
  induction s using List.reverseRecOn generalizing r body with
  | nil => exact ⟨r, rfl⟩
  | append_singleton s payload ih =>
    obtain ⟨payloads, hloop⟩ := ih ([] :: r) (payload :: body)
    have hset : Buffer.set (s ++ ([payload] ++ r)) s.length [] = some (s ++ ([] :: r)) :=
      write_run (s := [[]]) rfl
    rw [singleton_append] at hset
    refine ⟨payloads, ?_⟩
    rw [length_append, length_singleton, FrameBuffer.drainLoop, append_assoc,
      append_assoc, singleton_append, singleton_append]
    simp [hset, hloop]

lemma Holds.drain (h : Holds b frames) (epoch : τ) (seq : ℕ) :
    ∃ b', ArraySession.drain epoch ⟨b, seq⟩ = some (⟨b', seq⟩, batchOf frames) ∧ Holds b' [] := by
  have hcount := h.count
  cases frames with
  | nil => exact ⟨b, if_pos hcount, h⟩
  | cons first rest =>
    obtain ⟨last, hlast⟩ : ∃ last, (first :: rest).getLast? = some last :=
      Option.isSome_iff_exists.mp (by simp)
    obtain ⟨r, hr⟩ := h.payloads
    obtain ⟨payloads, hloop⟩ := drainLoop_eq ((first :: rest).map Frame.payload) r []
    rw [hr, append_nil, length_map, ← hcount] at hloop
    obtain ⟨holdest, holdest'⟩ := h.oldest first rfl
    obtain ⟨hnewest, hnewest'⟩ := h.newest last hlast
    have hbatch : batchOf (first :: rest) = some ⟨(first :: rest).map Frame.payload, b.bodyLen,
        b.count, b.oldestSeq, b.newestSeq, b.oldestReceivedAt, b.newestReceivedAt⟩ := by
      simp [batchOf, hlast, holdest, holdest', hnewest, hnewest', h.bodyLen, hcount]
    have hne : b.count ≠ 0 := by
      rw [hcount]
      exact Nat.succ_ne_zero _
    refine ⟨{ b with payloads := payloads }.reset epoch, ?_,
      ⟨List.nil_prefix, rfl, rfl, nofun, nofun⟩⟩
    simp [ArraySession.drain, if_neg hne, hloop, hbatch]

lemma Holds.step (epoch : τ) {q : QueueSession τ} (h : Holds b q.buffer) (op : Op τ) :
    ∃ b', ArraySession.step epoch ⟨b, q.seq⟩ op =
      some (⟨b', (q.step op).1.seq⟩, (q.step op).2) ∧ Holds b' (q.step op).1.buffer := by
  cases op with
  | OnBinary payload now =>
    by_cases hsize : payload.length ≠ frameBytes
    · refine ⟨b, ?_, ?_⟩
      · simp [ArraySession.step, ArraySession.onBinary, QueueSession.step, QueueSession.onBinary,
          hsize]
      · simpa [QueueSession.step, QueueSession.onBinary, hsize] using h
    · obtain ⟨b', hpush, h'⟩ := h.push ⟨q.seq + 1, payload, now⟩
      refine ⟨b', ?_, ?_⟩
      · simp [ArraySession.step, ArraySession.onBinary, QueueSession.step, QueueSession.onBinary,
          hsize, hpush]
      · simpa [QueueSession.step, QueueSession.onBinary, hsize] using h'
  | Drain =>
    obtain ⟨b', hdrain, h'⟩ := h.drain epoch q.seq
    refine ⟨b', ?_, ?_⟩
    · rw [ArraySession.step, hdrain, QueueSession.step, QueueSession.drain_eq]
      rfl
    · rw [QueueSession.step, QueueSession.drain_eq]
      exact h'

lemma holds_create (epoch : τ) : Holds (.create epoch) ([] : List (Frame τ)) :=
  ⟨List.nil_prefix, rfl, rfl, nofun, nofun⟩

lemma holds_run (epoch : τ) (ops : List (Op τ)) :
    ∃ b, ArraySession.run epoch ops =
        some (⟨b, (QueueSession.run ops).1.seq⟩, (QueueSession.run ops).2) ∧
      Holds b (QueueSession.run ops).1.buffer := by
  induction ops using List.reverseRecOn with
  | nil => exact ⟨.create epoch, rfl, holds_create epoch⟩
  | append_singleton ops op ih =>
    obtain ⟨b, hrun, h⟩ := ih
    obtain ⟨b', hstep, h'⟩ := h.step epoch op
    rw [QueueSession.run_concat]
    refine ⟨b', ?_, h'⟩
    rw [ArraySession.run] at hrun
    rw [ArraySession.run, foldlM_append, hrun]
    simp [hstep]

/-! ## What is drained -/

def accepted (ops : List (Op τ)) : List Bytes :=
  ops.filterMap fun
    | .OnBinary payload _ => if payload.length = frameBytes then some payload else none
    | .Drain => none

def bodies (outs : List (Out τ)) : List Bytes :=
  outs.flatMap fun
    | .Drain (some d) => d.body
    | _ => []

def Op.isDrain : Op τ → Bool
  | .OnBinary _ _ => false
  | .Drain => true

def sinceDrain (ops : List (Op τ)) : List Bytes := accepted (ops.rtakeWhile (!·.isDrain))

structure Drained.Sound (d : Drained τ) (all : List Bytes) : Prop where
  body : d.body = (all.take d.newestSeq).drop (d.oldestSeq - 1)
  bodyLen : d.bodyLen = (d.body.map List.length).sum
  count : d.frameCount = d.body.length
  range : 1 ≤ d.oldestSeq ∧ d.oldestSeq ≤ d.newestSeq ∧ d.newestSeq ≤ all.length

lemma Drained.Sound.append {d : Drained τ} {all : List Bytes} (h : d.Sound all) (r : List Bytes) :
    d.Sound (all ++ r) where
  body := by rw [take_append_of_le_length h.range.2.2, h.body]
  bodyLen := h.bodyLen
  count := h.count
  range := by
    rw [length_append]
    exact ⟨h.range.1, h.range.2.1, h.range.2.2.trans (Nat.le_add_right ..)⟩

structure Inv (all : List Bytes) (q : QueueSession τ) (outs : List (Out τ)) : Prop where
  split : bodies outs ++ q.buffer.map Frame.payload = all
  seq : q.seq = all.length
  numbered : q.buffer.map Frame.seq = .range' ((bodies outs).length + 1) q.buffer.length
  sound : ∀ d, .Drain (some d) ∈ outs → d.Sound all

lemma Inv.sound_batchOf {all : List Bytes} {q : QueueSession τ} {outs : List (Out τ)}
    (h : Inv all q outs) {d : Drained τ} (hd : batchOf q.buffer = some d) : d.Sound all := by
  obtain ⟨hsplit, hseq, hnumbered, -⟩ := h
  simp only [batchOf, Option.bind_eq_bind, Option.bind_eq_some_iff] at hd
  obtain ⟨first, hfirst, last, hlast, hd⟩ := hd
  cases hd
  have hpos : 0 < q.buffer.length := by
    cases hbuffer : q.buffer with
    | nil => simp [hbuffer] at hfirst
    | cons f frames => exact Nat.succ_pos _
  have hfirstSeq : first.seq = (bodies outs).length + 1 := by
    have hhead := congrArg List.head? hnumbered
    rw [List.head?_map, hfirst, List.head?_range', if_neg hpos.ne'] at hhead
    exact Option.some.inj hhead
  have hlastSeq : last.seq = (bodies outs).length + q.buffer.length := by
    have hgetLast := congrArg List.getLast? hnumbered
    rw [List.getLast?_map, hlast, List.getLast?_range', if_neg hpos.ne'] at hgetLast
    have := Option.some.inj hgetLast
    omega
  have hlength : all.length = last.seq := by
    rw [← hsplit, length_append, length_map, hlastSeq]
  refine ⟨?_, ?_, (length_map _).symm, ?_, ?_, hlength.ge⟩
  · show _ = (all.take last.seq).drop (first.seq - 1)
    rw [← hlength, take_length, hfirstSeq, Nat.add_sub_cancel, ← hsplit, drop_left]
  · rw [map_map]
    rfl
  · show 1 ≤ first.seq
    omega
  · show first.seq ≤ last.seq
    omega

lemma bodies_drain (outs : List (Out τ)) (frames : List (Frame τ)) :
    bodies (outs ++ [.Drain (batchOf frames)]) = bodies outs ++ frames.map Frame.payload := by
  have hbatch : bodies [.Drain (batchOf frames)] = frames.map Frame.payload := by
    cases frames with
    | nil => rfl
    | cons first rest =>
      obtain ⟨last, hlast⟩ : ∃ last, (first :: rest).getLast? = some last :=
        Option.isSome_iff_exists.mp (by simp)
      simp [bodies, batchOf, hlast]
  rw [← hbatch, bodies, flatMap_append]
  rfl

lemma Inv.step {ops : List (Op τ)} {q : QueueSession τ} {outs : List (Out τ)}
    (h : Inv (accepted ops) q outs) (op : Op τ) :
    Inv (accepted (ops ++ [op])) (q.step op).1 (outs ++ [(q.step op).2]) := by
  obtain ⟨hsplit, hseq, hnumbered, hsound⟩ := h
  cases op with
  | OnBinary payload now =>
    have hbodies (action : CloseAction) : bodies (outs ++ [.OnBinary action]) = bodies outs := by
      simp [bodies]
    by_cases hsize : payload.length = frameBytes
    · have hall : accepted (ops ++ [.OnBinary payload now]) = accepted ops ++ [payload] := by
        simp [accepted, hsize]
      have hstep : q.step (.OnBinary payload now) =
          (⟨q.buffer ++ [⟨q.seq + 1, payload, now⟩], q.seq + 1⟩, .OnBinary .Continue) := by
        simp [QueueSession.step, QueueSession.onBinary, hsize]
      rw [hall, hstep]
      refine ⟨?_, ?_, ?_, ?_⟩
      · rw [hbodies, map_append, ← append_assoc, hsplit]
        rfl
      · rw [length_append, ← hseq]
        rfl
      · have hlength := congrArg List.length hsplit
        rw [length_append, length_map, ← hseq] at hlength
        rw [hbodies, map_append, hnumbered, length_append, length_singleton,
          List.range'_concat, ← hlength]
        simp [Nat.add_right_comm]
      · intro d hd
        refine (hsound d ?_).append _
        simpa using hd
    · have hall : accepted (ops ++ [.OnBinary payload now]) = accepted ops := by
        simp [accepted, hsize]
      have hstep : q.step (.OnBinary payload now) = (q, .OnBinary badFrame) := by
        simp [QueueSession.step, QueueSession.onBinary, hsize]
      rw [hall, hstep]
      exact ⟨by rw [hbodies, hsplit], hseq, by rw [hbodies, hnumbered], by simpa using hsound⟩
  | Drain =>
    have hall : accepted (ops ++ [.Drain]) = accepted ops := by simp [accepted]
    have hstep : q.step .Drain = (⟨[], q.seq⟩, .Drain (batchOf q.buffer)) := by
      rw [QueueSession.step, QueueSession.drain_eq]
      rfl
    rw [hall, hstep]
    refine ⟨?_, hseq, rfl, ?_⟩
    · rw [bodies_drain, map_nil, append_nil, hsplit]
    · intro d hd
      rw [mem_append, mem_singleton] at hd
      rcases hd with hd | hd
      · exact hsound d hd
      · have hbatch : batchOf q.buffer = some d := (Out.Drain.inj hd).symm
        exact Inv.sound_batchOf ⟨hsplit, hseq, hnumbered, hsound⟩ hbatch

lemma inv_run (ops : List (Op τ)) :
    Inv (accepted ops) (QueueSession.run ops).1 (QueueSession.run ops).2 := by
  induction ops using List.reverseRecOn with
  | nil => exact ⟨rfl, rfl, rfl, nofun⟩
  | append_singleton ops op ih =>
    rw [QueueSession.run_concat]
    exact ih.step op

lemma buffer_run (ops : List (Op τ)) :
    (QueueSession.run ops).1.buffer.map Frame.payload = sinceDrain ops := by
  induction ops using List.reverseRecOn with
  | nil => rfl
  | append_singleton ops op ih =>
    rw [QueueSession.run_concat]
    cases op with
    | OnBinary payload now =>
      have hsince : sinceDrain (ops ++ [.OnBinary payload now]) =
          sinceDrain ops ++ accepted [.OnBinary payload now] := by
        rw [sinceDrain, rtakeWhile_concat_pos _ _ _ rfl, accepted, filterMap_append]
        rfl
      rw [hsince, ← ih]
      by_cases hsize : payload.length = frameBytes <;>
        simp [QueueSession.step, QueueSession.onBinary, accepted, hsize]
    | Drain =>
      rw [sinceDrain, rtakeWhile_concat_neg _ _ _ (by simp [Op.isDrain]), QueueSession.step,
        QueueSession.drain_eq]
      rfl

lemma batchOf_spec (frames : List (Frame τ)) :
    (batchOf frames = none ↔ frames.map Frame.payload = []) ∧
      ∀ d, batchOf frames = some d → d.body = frames.map Frame.payload := by
  cases hlast : frames.getLast? with
  | none =>
    obtain rfl := List.getLast?_eq_none_iff.mp hlast
    exact ⟨by simp [batchOf], by simp [batchOf]⟩
  | some last =>
    cases frames with
    | nil => cases hlast
    | cons first rest =>
      refine ⟨by simp [batchOf, hlast], fun d hd => ?_⟩
      simp only [batchOf, hlast, List.head?_cons, Option.bind_eq_bind, Option.bind_some,
        Option.some.injEq] at hd
      rw [← hd]

theorem buffers_agree (epoch : τ) (ops : List (Op τ)) :
    ∃ a q outs, ArraySession.run epoch ops = some (a, outs) ∧ QueueSession.run ops = (q, outs) ∧
      (∀ before after, ops = before ++ .Drain :: after → ∃ drained,
        outs[before.length]? = some (.Drain drained) ∧
        (drained = none ↔ sinceDrain before = []) ∧
        ∀ d, drained = some d → d.body = sinceDrain before) ∧
      (∀ d, .Drain (some d) ∈ outs →
        d.body = ((accepted ops).take d.newestSeq).drop (d.oldestSeq - 1) ∧
        d.bodyLen = (d.body.map List.length).sum ∧ d.frameCount = d.body.length ∧
        1 ≤ d.oldestSeq ∧ d.oldestSeq ≤ d.newestSeq ∧
        d.frameCount = d.newestSeq - d.oldestSeq + 1) ∧
      q.buffer.map Frame.payload = sinceDrain ops ∧ a.buffer.count = (sinceDrain ops).length ∧
      bodies outs ++ q.buffer.map Frame.payload = accepted ops := by
  obtain ⟨b, hrun, hholds⟩ := holds_run epoch ops
  have h := inv_run ops
  have hbuffer := buffer_run ops
  refine ⟨_, _, _, hrun, rfl, ?_, fun d hd => ?_, hbuffer, ?_, h.split⟩
  · rintro before after rfl
    refine ⟨batchOf (QueueSession.run before).1.buffer, ?_, ?_⟩
    · rw [QueueSession.run_getElem?, QueueSession.step, QueueSession.drain_eq]
      rfl
    · rw [← buffer_run before]
      exact batchOf_spec _
  · obtain ⟨hbody, hbodyLen, hcount, hone, hle, hall⟩ := h.sound d hd
    refine ⟨hbody, hbodyLen, hcount, hone, hle, ?_⟩
    rw [hcount, hbody, length_drop, length_take_of_le hall]
    omega
  · rw [← hbuffer, length_map]
    exact hholds.count

def tone (b : UInt8) : Bytes := List.replicate frameBytes b

def threeFrames : List (Op ℕ) :=
  [.OnBinary (tone 1) 20, .OnBinary (tone 2) 40, .Drain, .Drain, .OnBinary [0] 50,
    .OnBinary (tone 3) 60, .Drain]

theorem buffers_agree_threeFrames :
    ∃ a q outs d d', ArraySession.run 0 threeFrames = some (a, outs) ∧
      QueueSession.run threeFrames = (q, outs) ∧ outs[2]? = some (.Drain (some d)) ∧
      d.body = [tone 1, tone 2] ∧ outs[3]? = some (.Drain none) ∧
      outs[6]? = some (.Drain (some d')) ∧ d'.body = [tone 3] ∧ q.buffer.map Frame.payload = [] ∧
      a.buffer.count = 0 := by
  obtain ⟨a, q, outs, ha, hq, hdrain, -, hbuffer, hcount, -⟩ := buffers_agree 0 threeFrames
  have htwo : sinceDrain (threeFrames.take 2) = [tone 1, tone 2] := by decide +kernel
  have hnone : sinceDrain (threeFrames.take 3) = [] := by decide +kernel
  have hone : sinceDrain (threeFrames.take 6) = [tone 3] := by decide +kernel
  have hend : sinceDrain threeFrames = [] := by decide +kernel
  obtain ⟨d, houts, hne, hd⟩ := hdrain (threeFrames.take 2) (threeFrames.drop 3) rfl
  obtain ⟨none', houts', hnil, -⟩ := hdrain (threeFrames.take 3) (threeFrames.drop 4) rfl
  obtain ⟨d', houts'', hne', hd'⟩ := hdrain (threeFrames.take 6) [] rfl
  obtain ⟨d, rfl⟩ := Option.ne_none_iff_exists'.mp (by simp [hne, htwo] : d ≠ none)
  obtain ⟨d', rfl⟩ := Option.ne_none_iff_exists'.mp (by simp [hne', hone] : d' ≠ none)
  obtain rfl := hnil.mpr hnone
  exact ⟨a, q, outs, d, d', ha, hq, houts, htwo ▸ hd d rfl, houts', houts'', hone ▸ hd' d' rfl,
    hend ▸ hbuffer, by rw [hcount, hend]; rfl⟩

end SttBench.OcamlAsync
