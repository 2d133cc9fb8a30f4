import SttBench.Core.Buffer
import SttBench.OxcamlEpoll.Ws

/-! # ocaml-oxcaml-epoll: the output buffer -/

namespace SttBench.OxcamlEpoll

open Ascii Buffer Option

/-! ## Frames -/

namespace Ws

def opcodeToInt : Opcode → ℕ
  | .Continuation => 0
  | .Text => 1
  | .Binary => 2
  | .Close => 8
  | .Ping => 9
  | .Pong => 10
  | .Other n => n

def chr (n : ℕ) : Option UInt8 := if n < 256 then some (UInt8.ofNat n) else none

def headerLen (payloadLen : ℕ) : ℕ :=
  if payloadLen < 126 then 2 else if payloadLen < 65536 then 4 else 10

def writeHeader (opcode : Opcode) (payloadLen : ℕ) (out : Bytes) (pos : ℕ) :
    Option (Bytes × ℕ) := do
  let byte0 ← chr (0x80 ||| opcodeToInt opcode)
  let out ← set out pos byte0
  let out ←
    if payloadLen < 126 then do
      let byte1 ← chr payloadLen
      set out (pos + 1) byte1
    else if payloadLen < 65536 then do
      let byte1 ← chr 126
      let out ← set out (pos + 1) byte1
      write out (pos + 2) (WebSocket.bigEndian 2 payloadLen)
    else do
      let byte1 ← chr 127
      let out ← set out (pos + 1) byte1
      write out (pos + 2) (WebSocket.bigEndian 8 payloadLen)
  some (out, headerLen payloadLen)

def frameLen (payload : Bytes) : ℕ := headerLen payload.length + payload.length

def writeFrame (opcode : Opcode) (payload : Bytes) (out : Bytes) (pos : ℕ) :
    Option (Bytes × ℕ) := do
  let (out, headerLen) ← writeHeader opcode payload.length out pos
  let out ← blit payload 0 out (pos + headerLen) payload.length
  some (out, headerLen + payload.length)

def header (opcode : Opcode) (payloadLen : ℕ) : Bytes :=
  UInt8.ofNat (0x80 ||| opcodeToInt opcode) ::
    if payloadLen < 126 then [UInt8.ofNat payloadLen]
    else if payloadLen < 65536 then 126 :: WebSocket.bigEndian 2 payloadLen
    else 127 :: WebSocket.bigEndian 8 payloadLen

variable {opcode : Opcode} {out : Bytes} {pos : ℕ}

lemma length_header (n : ℕ) : (header opcode n).length = headerLen n := by
  simp only [header, headerLen]
  split_ifs <;> simp

lemma opcodeToInt_text : 0x80 ||| opcodeToInt .Text < 256 := by decide

lemma writeHeader_eq (hop : 0x80 ||| opcodeToInt opcode < 256) (n : ℕ) :
    writeHeader opcode n out pos =
      (write out pos (header opcode n)).map fun out => (out, headerLen n) := by
  have hchr {k : ℕ} (hk : k < 256) : chr k = some (UInt8.ofNat k) := if_pos hk
  -- the bytes are set one behind the other
  have hset (byte0 byte1 : UInt8) : ((set out pos byte0).bind fun out => set out (pos + 1) byte1) =
      write out pos [byte0, byte1] := write_append (s := [byte0])
  have hmore (byte0 byte1 : UInt8) (s : Bytes) :
      ((set out pos byte0).bind fun out => (set out (pos + 1) byte1).bind fun out =>
        write out (pos + 2) s) = write out pos (byte0 :: byte1 :: s) := by
    rw [← bind_assoc, hset]
    exact write_append (s := [byte0, byte1])
  simp only [writeHeader, header, hchr hop, hchr (by decide : 126 < 256),
    hchr (by decide : 127 < 256), bind_eq_bind, bind_some]
  split_ifs with hshort hmedium
  · rw [map_eq_bind, ← hset, bind_assoc]
    simp only [hchr (by omega : n < 256), bind_some]
    rfl
  · rw [map_eq_bind, ← hmore]
    simp only [bind_assoc]
    rfl
  · rw [map_eq_bind, ← hmore]
    simp only [bind_assoc]
    rfl

lemma writeFrame_eq (hop : 0x80 ||| opcodeToInt opcode < 256) (payload : Bytes) :
    writeFrame opcode payload out pos =
      (write out pos (header opcode payload.length ++ payload)).map
        fun out => (out, frameLen payload) := by
  rw [← write_append, length_header]
  simp only [writeFrame, writeHeader_eq hop, blit_all, bind_eq_bind, map_eq_bind,
    bind_assoc]
  rfl

end Ws

/-! ## The buffer -/

structure Outbuf where
  out : Bytes
  outPos : ℕ
  outLen : ℕ
deriving DecidableEq, Repr

inductive WriterCall
  | AddString (s : Bytes)
  | AddChar (c : UInt8)
deriving DecidableEq, Repr

def written (calls : List WriterCall) : Bytes :=
  calls.flatMap fun
    | .AddString s => s
    | .AddChar c => [c]

namespace Outbuf

variable (alloc : Alloc UInt8) (b : Outbuf)

def outCompact : Option Outbuf :=
  if 0 < b.outPos then do
    let out ←
      if b.outPos < b.outLen then blit b.out b.outPos b.out 0 (b.outLen - b.outPos)
      else some b.out
    some ⟨out, 0, b.outLen - b.outPos⟩
  else some b

def outEnsure (extra : ℕ) : Option Outbuf := do
  let b ← b.outCompact
  let out ← reserve alloc b.out b.outLen extra
  some { b with out := out }

def outAddString (s : Bytes) : Option Outbuf := do
  let b ← b.outEnsure alloc s.length
  let out ← blit s 0 b.out b.outLen s.length
  some { b with out := out, outLen := b.outLen + s.length }

def outAddChar (c : UInt8) : Option Outbuf := do
  let b ← b.outEnsure alloc 1
  let out ← set b.out b.outLen c
  some { b with out := out, outLen := b.outLen + 1 }

def outAddWsFrame (opcode : Ws.Opcode) (payload : Bytes) : Option Outbuf := do
  let b ← b.outEnsure alloc (Ws.frameLen payload)
  let (out, wrote) ← Ws.writeFrame opcode payload b.out b.outLen
  some { b with out := out, outLen := b.outLen + wrote }

def call (b : Outbuf) : WriterCall → Option Outbuf
  | .AddString s => b.outAddString alloc s
  | .AddChar c => b.outAddChar alloc c

def outAddTextGenerated (calls : List WriterCall) : Option Outbuf := do
  let b ← b.outCompact
  let b ← b.outEnsure alloc 10
  let frameStart := b.outLen
  let b := { b with outLen := b.outLen + 10 }
  let payloadStart := b.outLen
  let b ← calls.foldlM (call alloc) b
  let payloadLen := b.outLen - payloadStart
  let (out, headerLen) ← Ws.writeHeader .Text payloadLen b.out frameStart
  let out ←
    if headerLen ≠ 10 then blit out payloadStart out (frameStart + headerLen) payloadLen
    else some out
  some { b with out := out, outLen := frameStart + headerLen + payloadLen }

def pending : Bytes := (b.out.take b.outLen).drop b.outPos

structure Valid : Prop where
  pos_le : b.outPos ≤ b.outLen
  len_le : b.outLen ≤ b.out.length

structure Holds (s : Bytes) : Prop where
  pos : b.outPos = 0
  len : b.outLen = s.length
  out : s <+: b.out

variable {b} {s : Bytes}

lemma Holds.pending_eq (h : b.Holds s) : b.pending = s := by
  rw [pending, h.pos, h.len, List.drop_zero, ← List.prefix_iff_eq_take.mp h.out]

lemma Holds.valid (h : b.Holds s) : b.Valid where
  pos_le := by rw [h.pos]; exact Nat.zero_le _
  len_le := by rw [h.len]; exact h.out.length_le

lemma outCompact_holds (h : b.Valid) : ∃ b', b.outCompact = some b' ∧ b'.Holds b.pending := by
  obtain ⟨hpos, hlen⟩ := h
  have hlength : b.pending.length = b.outLen - b.outPos := by
    rw [pending, List.length_drop, List.length_take_of_le hlen]
  simp only [outCompact, bind_eq_bind]
  split_ifs with hsent hmore
  · have hslice : slice b.out b.outPos (b.outLen - b.outPos) = some b.pending := by
      rw [slice, if_pos (by omega), pending, List.drop_take]
    obtain ⟨out, hout⟩ := exists_write b.out 0 b.pending (by omega)
    refine ⟨⟨out, 0, b.outLen - b.outPos⟩, ?_, rfl, hlength.symm, ?_⟩
    · rw [blit, hslice, bind_some, hout, bind_some]
    · exact prefix_of_write List.nil_prefix hout
  · have hnil : b.pending = [] := List.eq_nil_of_length_eq_zero (by omega)
    exact ⟨_, rfl, rfl, hlength.symm, hnil ▸ List.nil_prefix⟩
  · obtain hzero : b.outPos = 0 := by omega
    refine ⟨b, rfl, hzero, by omega, ?_⟩
    rw [pending, hzero, List.drop_zero]
    exact List.take_prefix _ _

lemma outEnsure_holds (h : b.Valid) (extra : ℕ) :
    ∃ b', b.outEnsure alloc extra = some b' ∧ b'.Holds b.pending ∧
      b.pending.length + extra ≤ b'.out.length := by
  obtain ⟨b', hb', hpos, hlen, hout⟩ := outCompact_holds h
  obtain ⟨out, hreserve, hroom, hprefix⟩ := reserve_spec alloc hout extra
  refine ⟨{ b' with out := out }, ?_, ⟨hpos, hlen, hprefix⟩, hroom⟩
  simp [outEnsure, hb', hlen, hreserve]

lemma Holds.write {out t : Bytes} (h : b.Holds s)
    (hout : Buffer.write b.out b.outLen t = some out) :
    Holds { b with out := out, outLen := b.outLen + t.length } (s ++ t) where
  pos := h.pos
  len := by rw [List.length_append, ← h.len]
  out := prefix_of_write h.out (h.len ▸ hout)

lemma outEnsure_write (h : b.Valid) (t : Bytes) :
    ∃ b' out, b.outEnsure alloc t.length = some b' ∧ Buffer.write b'.out b'.outLen t = some out ∧
      Holds { b' with out := out, outLen := b'.outLen + t.length } (b.pending ++ t) := by
  obtain ⟨b', hb', hholds, hroom⟩ := outEnsure_holds alloc h t.length
  obtain ⟨out, hout⟩ := exists_write b'.out b'.outLen t (by rwa [hholds.len])
  exact ⟨b', out, hb', hout, hholds.write hout⟩

lemma outAddString_holds (h : b.Valid) (t : Bytes) :
    ∃ b', b.outAddString alloc t = some b' ∧ b'.Holds (b.pending ++ t) := by
  obtain ⟨b', out, hb', hout, hholds⟩ := outEnsure_write alloc h t
  refine ⟨_, ?_, hholds⟩
  simp [outAddString, hb', blit_all, hout]

lemma outAddChar_holds (h : b.Valid) (c : UInt8) :
    ∃ b', b.outAddChar alloc c = some b' ∧ b'.Holds (b.pending ++ [c]) := by
  obtain ⟨b', out, hb', hout, hholds⟩ := outEnsure_write alloc h [c]
  refine ⟨_, ?_, hholds⟩
  rw [List.length_singleton] at hb'
  simp only [outAddChar, hb', Buffer.set, hout, bind_eq_bind, bind_some]
  rfl

lemma outAddWsFrame_holds (h : b.Valid) (payload : Bytes) :
    ∃ b', b.outAddWsFrame alloc .Text payload = some b' ∧
      b'.Holds (b.pending ++ (Ws.header .Text payload.length ++ payload)) := by
  have hlen : (Ws.header .Text payload.length ++ payload).length = Ws.frameLen payload := by
    rw [List.length_append, Ws.length_header, Ws.frameLen]
  obtain ⟨b', out, hb', hout, hholds⟩ := outEnsure_write alloc h
    (Ws.header .Text payload.length ++ payload)
  rw [hlen] at hb' hholds
  refine ⟨_, ?_, hholds⟩
  simp [outAddWsFrame, hb', Ws.writeFrame_eq Ws.opcodeToInt_text, hout]

lemma call_holds (h : b.Holds s) (c : WriterCall) :
    ∃ b', b.call alloc c = some b' ∧ b'.Holds (s ++ written [c]) := by
  cases c with
  | AddString t =>
    have hadd := outAddString_holds alloc h.valid t
    rw [h.pending_eq] at hadd
    simpa [call, written] using hadd
  | AddChar c =>
    have hadd := outAddChar_holds alloc h.valid c
    rw [h.pending_eq] at hadd
    simpa [call, written] using hadd

lemma calls_hold (h : b.Holds s) (calls : List WriterCall) :
    ∃ b', calls.foldlM (call alloc) b = some b' ∧ b'.Holds (s ++ written calls) := by
  induction calls generalizing b s with
  | nil => exact ⟨b, rfl, by simpa [written] using h⟩
  | cons c calls ih =>
    obtain ⟨b₁, hb₁, h₁⟩ := call_holds alloc h c
    obtain ⟨b₂, hb₂, h₂⟩ := ih h₁
    refine ⟨b₂, ?_, ?_⟩
    · rw [List.foldlM_cons, hb₁]
      exact hb₂
    · simpa [written] using h₂

lemma Holds.leave {n : ℕ} (h : b.Holds s) (hroom : s.length + n ≤ b.out.length) :
    ∃ gap : Bytes, gap.length = n ∧ Holds { b with outLen := b.outLen + n } (s ++ gap) := by
  obtain ⟨r, hr⟩ := h.out
  have hgap : (r.take n).length = n := by
    rw [← hr, List.length_append] at hroom
    exact List.length_take_of_le (by omega)
  refine ⟨r.take n, hgap, h.pos, by rw [List.length_append, hgap, ← h.len], ?_⟩
  show s ++ r.take n <+: b.out
  rw [← hr, List.prefix_append_right_inj]
  exact List.take_prefix _ _

lemma moved_down (payload r : Bytes) {head gap : Bytes} (hgap : gap.length = 10)
    (hhead : head.length ≤ 10) :
    ∃ out, (if head.length ≠ 10 then
        blit (s ++ (head ++ (gap.drop head.length ++ (payload ++ r)))) (s.length + 10)
          (s ++ (head ++ (gap.drop head.length ++ (payload ++ r)))) (s.length + head.length)
          payload.length
      else some (s ++ (head ++ (gap.drop head.length ++ (payload ++ r))))) = some out ∧
      s ++ (head ++ payload) <+: out := by
  have hrest : (gap.drop head.length).length = 10 - head.length := by
    rw [List.length_drop, hgap]
  split_ifs with hshort
  · have hsource : s ++ (head ++ (gap.drop head.length ++ (payload ++ r))) =
        (s ++ head ++ gap.drop head.length) ++ (payload ++ r) := by simp
    have hslice : slice (s ++ (head ++ (gap.drop head.length ++ (payload ++ r)))) (s.length + 10)
        payload.length = some payload := by
      have hlen : s.length + 10 = (s ++ head ++ gap.drop head.length).length := by
        rw [List.length_append, List.length_append, hrest]
        omega
      rw [hsource, hlen, slice_run]
    rw [blit, hslice, bind_some, ← List.length_append]
    obtain ⟨out, hout⟩ := exists_write
      (s ++ (head ++ (gap.drop head.length ++ (payload ++ r)))) (s ++ head).length payload
      (by simp; omega)
    refine ⟨out, hout, ?_⟩
    rw [← List.append_assoc]
    refine prefix_of_write ?_ hout
    rw [← List.append_assoc]
    exact List.prefix_append _ _
  · have hnil : gap.drop head.length = [] := List.eq_nil_of_length_eq_zero (by omega)
    refine ⟨_, rfl, r, ?_⟩
    rw [hnil]
    simp

lemma outAddTextGenerated_holds (h : b.Valid) (calls : List WriterCall) :
    ∃ b', b.outAddTextGenerated alloc calls = some b' ∧
      b'.Holds (b.pending ++ (Ws.header .Text (written calls).length ++ written calls)) := by
  obtain ⟨b₀, hb₀, h₀⟩ := outCompact_holds h
  obtain ⟨b₁, hb₁, h₁, hroom⟩ := outEnsure_holds alloc h₀.valid 10
  rw [h₀.pending_eq] at h₁ hroom
  generalize b.pending = s at h₀ h₁ hroom ⊢
  obtain ⟨gap, hgap, hleft⟩ := h₁.leave hroom
  obtain ⟨b₂, hb₂, h₂⟩ := calls_hold alloc hleft calls
  generalize written calls = payload at h₂ ⊢
  have hlen : b₂.outLen - (b₁.outLen + 10) = payload.length := by
    rw [h₂.len, h₁.len, List.length_append, List.length_append, hgap]
    omega
  obtain ⟨r', hr'⟩ := h₂.out
  have hhead : (Ws.header .Text payload.length).length ≤ 10 := by
    rw [Ws.length_header, Ws.headerLen]
    split_ifs <;> decide
  have hwrite : write b₂.out s.length (Ws.header .Text payload.length) =
      some (s ++ (Ws.header .Text payload.length ++
        (gap.drop (Ws.header .Text payload.length).length ++ (payload ++ r')))) := by
    have hsplit : b₂.out = s ++ (gap.take (Ws.header .Text payload.length).length ++
        (gap.drop (Ws.header .Text payload.length).length ++ (payload ++ r'))) := by
      rw [← hr', ← List.append_assoc (gap.take _), List.take_append_drop]
      simp
    rw [hsplit]
    exact write_run (List.length_take_of_le (hgap.symm ▸ hhead))
  obtain ⟨out, hout, hprefix⟩ := moved_down payload r' hgap hhead (s := s)
  rw [Ws.length_header] at hout hwrite
  refine ⟨⟨out, b₂.outPos, s.length + Ws.headerLen payload.length + payload.length⟩, ?_, h₂.pos, ?_,
    hprefix⟩
  · rw [h₁.len] at hb₂ hlen
    simp only [outAddTextGenerated, hb₀, hb₁, hb₂, hlen, h₁.len, hwrite,
      Ws.writeHeader_eq Ws.opcodeToInt_text, map_some, bind_eq_bind,
      bind_some]
    split_ifs at hout ⊢
    · rw [hout, bind_some]
    · rw [Option.some.inj hout]
  · simp [Ws.length_header, Nat.add_assoc]

theorem generated_eq_plain (alloc alloc' : Alloc UInt8) {b : Outbuf} (hb : b.Valid)
    (calls : List WriterCall) :
    ∃ b₁ b₂, b.outAddTextGenerated alloc calls = some b₁ ∧
      b.outAddWsFrame alloc' .Text (written calls) = some b₂ ∧
      b₁.pending = b₂.pending ∧ b.pending <+: b₁.pending ∧ b₁.Valid ∧ b₂.Valid := by
  obtain ⟨b₁, hb₁, h₁⟩ := outAddTextGenerated_holds alloc hb calls
  obtain ⟨b₂, hb₂, h₂⟩ := outAddWsFrame_holds alloc' hb (written calls)
  refine ⟨b₁, b₂, hb₁, hb₂, h₁.pending_eq.trans h₂.pending_eq.symm, ?_, h₁.valid, h₂.valid⟩
  rw [h₁.pending_eq]
  exact List.prefix_append _ _

theorem generated_eq_plain_partlySent :
    Valid ⟨[1, 2, 3, 4], 1, 3⟩ ∧ ∃ b₁ b₂ : Outbuf,
      outAddTextGenerated (fun n => ⟨.replicate n 0, by simp⟩) ⟨[1, 2, 3, 4], 1, 3⟩
        [.AddString (bytes "hi"), .AddChar 33] = some b₁ ∧
      outAddWsFrame (fun n => ⟨.replicate n 0, by simp⟩) ⟨[1, 2, 3, 4], 1, 3⟩ .Text
        (written [.AddString (bytes "hi"), .AddChar 33]) = some b₂ ∧
      b₁.pending = b₂.pending ∧ pending ⟨[1, 2, 3, 4], 1, 3⟩ <+: b₁.pending ∧
      b₁.Valid ∧ b₂.Valid :=
  ⟨⟨by decide, by decide⟩, generated_eq_plain _ _ ⟨by decide, by decide⟩ _⟩

end Outbuf

end SttBench.OxcamlEpoll
