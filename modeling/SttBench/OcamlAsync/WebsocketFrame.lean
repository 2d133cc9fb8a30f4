import SttBench.Core.WebSocket

/-! # ocaml-oxcaml, ocaml-websocket-async: `Websocket_frame.read` -/

namespace SttBench.OcamlAsync.WebsocketFrame

open Ascii WebSocket

inductive Opcode
  | Continuation
  | Text
  | Binary
  | Close
  | Ping
  | Pong
  | Other (n : ℕ)
deriving DecidableEq, Repr

structure Frame where
  fin : Bool
  opcode : Opcode
  payload : Bytes
deriving DecidableEq, Repr

def opcodeOfInt : ℕ → Opcode
  | 0 => .Continuation
  | 1 => .Text
  | 2 => .Binary
  | 8 => .Close
  | 9 => .Ping
  | 10 => .Pong
  | n => .Other n

inductive Read
  | Eof
  | Error (message : String)
  | Ok (frame : Frame) (rest : Bytes)
deriving DecidableEq, Repr

def readBytes (len : ℕ) (stream : Bytes) : Option (Bytes × Bytes) :=
  if stream.length < len then none else some (stream.take len, stream.drop len)

def parseExtendedLength (stream : Bytes) (baseLen : ℕ) : Option (ℕ × Bytes) :=
  if baseLen < 126 then some (baseLen, stream)
  else if baseLen = 126 then
    match readBytes 2 stream with
    | none => none
    | some (b, rest) => some (ofBigEndian b, rest)
  else
    match readBytes 8 stream with
    | none => none
    | some (b, rest) =>
      let full := ofBigEndian b
      if 2 ^ 63 ≤ full ∨ 2 ^ 30 < full then none else some (full, rest)

def read (stream : Bytes) : Read :=
  match stream with
  | byte0 :: byte1 :: stream =>
    let fin : Bool := byte0 &&& 0x80 ≠ 0
    let opcode := opcodeOfInt (byte0 &&& 0x0f).toNat
    if byte0 &&& 0x70 ≠ 0 then .Error "reserved bits set"
    else if byte1 &&& 0x80 = 0 then .Error "client frame not masked"
    else
      match parseExtendedLength stream (byte1 &&& 0x7f).toNat with
      | none => .Error "frame too large"
      | some (len, stream) =>
        if 8 ≤ (byte0 &&& 0x0f).toNat ∧ (125 < len ∨ fin = false) then
          .Error "invalid control frame"
        else
          match readBytes 4 stream with
          | none => .Eof
          | some (key, stream) =>
            match readBytes len stream with
            | none => .Eof
            | some (raw, stream) => .Ok ⟨fin, opcode, mask key raw⟩ stream
  | _ => .Eof

def validClosePayload : Bytes → Bool
  | [] => true
  | [_] => false
  | a :: b :: _ =>
    let code := a.toNat * 256 + b.toNat
    (1000 ≤ code && code ≤ 1014 && !(1004 ≤ code && code ≤ 1006)) ||
      (3000 ≤ code && code ≤ 4999)

/-! ## What is taken off the stream -/

lemma readBytes_append {b : Bytes} {len : ℕ} (h : b.length = len) (rest : Bytes) :
    readBytes len (b ++ rest) = some (b, rest) := by
  rw [readBytes, if_neg (by rw [List.length_append]; omega), List.take_left' h, List.drop_left' h]

lemma length_of_readBytes {len : ℕ} {stream b rest : Bytes}
    (h : readBytes len stream = some (b, rest)) : rest.length ≤ stream.length := by
  unfold readBytes at h
  split_ifs at h
  obtain ⟨-, rfl⟩ := Prod.mk.inj (Option.some.inj h)
  rw [List.length_drop]
  omega

lemma length_of_parseExtendedLength {stream rest : Bytes} {baseLen len : ℕ}
    (h : parseExtendedLength stream baseLen = some (len, rest)) :
    rest.length ≤ stream.length := by
  unfold parseExtendedLength at h
  split_ifs at h
  · obtain ⟨-, rfl⟩ := Prod.mk.inj (Option.some.inj h)
    exact le_rfl
  · split at h
    · cases h
    · rename_i hread
      obtain ⟨-, rfl⟩ := Prod.mk.inj (Option.some.inj h)
      exact length_of_readBytes hread
  · split at h
    · cases h
    · rename_i hread
      dsimp only at h
      split_ifs at h
      obtain ⟨-, rfl⟩ := Prod.mk.inj (Option.some.inj h)
      exact length_of_readBytes hread

lemma length_of_read {stream rest : Bytes} {frame : Frame} (h : read stream = .Ok frame rest) :
    rest.length < stream.length := by
  unfold read at h
  split at h
  · dsimp only at h
    split_ifs at h
    split at h
    · cases h
    · rename_i hlength
      split_ifs at h
      split at h
      · cases h
      · rename_i hkey
        split at h
        · cases h
        · rename_i hraw
          obtain ⟨-, rfl⟩ := Read.Ok.inj h
          have hlength := length_of_parseExtendedLength hlength
          have hkey := length_of_readBytes hkey
          have hraw := length_of_readBytes hraw
          simp only [List.length_cons]
          omega
  · cases h

/-! ## A frame of a client -/

lemma parseExtendedLength_extended {form : LengthForm} {n : ℕ} (hform : form.Holds n)
    (hn : n ≤ 2 ^ 30) (rest : Bytes) :
    parseExtendedLength (form.extended n ++ rest) (form.base n) = some (n, rest) := by
  cases form with
  | Short => exact if_pos hform
  | Medium =>
    have hread : ofBigEndian (bigEndian 2 n) = n := ofBigEndian_bigEndian hform
    simp only [LengthForm.extended, LengthForm.base]
    rw [parseExtendedLength, if_neg (by omega), if_pos rfl,
      readBytes_append (length_bigEndian 2 n)]
    dsimp only
    rw [hread]
  | Long =>
    have hread : ofBigEndian (bigEndian 8 n) = n :=
      ofBigEndian_bigEndian (lt_trans (hform : n < 2 ^ 63) (by norm_num))
    simp only [LengthForm.extended, LengthForm.base]
    rw [parseExtendedLength, if_neg (by omega), if_neg (by omega),
      readBytes_append (length_bigEndian 8 n)]
    dsimp only
    rw [hread, if_neg (by omega)]

def ofClient (f : ClientFrame) : Frame := ⟨f.fin, opcodeOfInt f.opcode, f.payload⟩

theorem read_bytes {f : ClientFrame} (hf : f.Admissible) (hn : f.payload.length ≤ 2 ^ 30)
    (rest : Bytes) : read (f.bytes ++ rest) = .Ok (ofClient f) rest := by
  obtain ⟨hfin, hopcode, hreserved⟩ := f.byte0_bits
  obtain ⟨hmasked, hbase⟩ := f.byte1_bits
  have hfin' : decide (f.byte0 &&& 0x80 ≠ 0) = f.fin := by
    rw [Bool.eq_iff_iff, decide_eq_true_eq, hfin]
  have hcontrol : ¬ (8 ≤ f.opcode.val ∧ (125 < f.payload.length ∨ f.fin = false)) := by
    rintro ⟨hcontrol, hbad⟩
    obtain ⟨hfinal, hshort⟩ := hf hcontrol
    simp [hfinal] at hbad
    omega
  have hbytes : f.bytes ++ rest = f.byte0 :: f.byte1 ::
      (f.form.extended f.payload.length ++ (f.key ++ (mask f.key f.payload ++ rest))) := by
    simp [ClientFrame.bytes, ClientFrame.body]
  rw [hbytes, read, if_neg (not_not.mpr hreserved), if_neg hmasked, hbase,
    parseExtendedLength_extended f.holds hn]
  dsimp only
  rw [hopcode, hfin', if_neg hcontrol, readBytes_append f.key_length]
  dsimp only
  rw [readBytes_append (length_mask ..)]
  dsimp only
  rw [mask_mask]
  rfl

end SttBench.OcamlAsync.WebsocketFrame
