import SttBench.Core.WebSocket
import SttBench.OxcamlEpoll.Protocol

/-! # ocaml-oxcaml-epoll: `Ws.parse_one` -/

namespace SttBench.OxcamlEpoll.Ws

open Ascii List

inductive Opcode
  | Continuation
  | Text
  | Binary
  | Close
  | Ping
  | Pong
  | Other (n : ℕ)
deriving DecidableEq, Repr

structure Frame where
  fin : Bool
  opcode : Opcode
  payload : Bytes
deriving DecidableEq, Repr

def opcodeOfInt : ℕ → Opcode
  | 0 => .Continuation
  | 1 => .Text
  | 2 => .Binary
  | 8 => .Close
  | 9 => .Ping
  | 10 => .Pong
  | n => .Other n

def bigEndian (b : Bytes) : ℕ := b.foldl (fun n x => n * 256 + x.toNat) 0

def unmask (mask payload : Bytes) : Bytes :=
  payload.mapIdx fun i b => b ^^^ mask.getD (i % 4) 0

def parseLen (b : Bytes) (baseLen : ℕ) : Except String (Option (ℕ × ℕ)) :=
  if baseLen < 126 then .ok (some (baseLen, 0))
  else if baseLen = 126 then
    if b.length < 2 then .ok none else .ok (some (bigEndian (b.take 2), 2))
  else if b.length < 8 then .ok none
  else
    let full := bigEndian (b.take 8)
    if 2 ^ 63 ≤ full ∨ 2 ^ 30 < full then .error "frame too large" else .ok (some (full, 8))

def parseOne (b : Bytes) (pos : ℕ) : Except String (Option (Frame × ℕ)) :=
  match b.drop pos with
  | byte0 :: byte1 :: rest =>
    let fin : Bool := byte0 &&& 0x80 ≠ 0
    let opcodeInt := (byte0 &&& 0x0f).toNat
    let baseLen := (byte1 &&& 0x7f).toNat
    if byte1 &&& 0x80 = 0 then .error "client frame not masked"
    else if byte0 &&& 0x70 ≠ 0 then .error "reserved bits set without a negotiated extension"
    else if 8 ≤ opcodeInt ∧ (fin = false ∨ 125 < baseLen) then .error "invalid control frame"
    else
      match parseLen rest baseLen with
      | .error e => .error e
      | .ok none => .ok none
      | .ok (some (payloadLen, used)) =>
        if rest.length < used + 4 + payloadLen then .ok none
        else
          let mask := (rest.drop used).take 4
          let payload := (rest.drop (used + 4)).take payloadLen
          .ok (some (⟨fin, opcodeOfInt opcodeInt, unmask mask payload⟩,
            pos + 2 + used + 4 + payloadLen))
  | _ => .ok none

lemma parseOne_bounds {b : Bytes} {pos next : ℕ} {f : Frame}
    (h : parseOne b pos = .ok (some (f, next))) : pos < next ∧ next ≤ b.length := by
  unfold parseOne at h
  split at h
  · rename_i byte0 byte1 rest hdrop
    have hlen := congrArg List.length hdrop
    simp only [length_drop, length_cons] at hlen
    simp only at h
    split_ifs at h
    split at h
    · simp at h
    · simp at h
    · rename_i payloadLen used _
      split_ifs at h with hshort
      · simp at h
      · obtain ⟨-, hnext⟩ := Prod.mk.inj (Option.some.inj (Except.ok.inj h))
        omega
  · simp at h

def fixedBinary640 (b : Bytes) : Bool :=
  648 ≤ b.length ∧ b.take 2 = [0x82, 0xfe] ∧ bigEndian ((b.drop 2).take 2) = frameBytes

def unmaskFour (m0 m1 m2 m3 : UInt8) : Bytes → Bytes
  | a :: b :: c :: d :: rest =>
    (a ^^^ m0) :: (b ^^^ m1) :: (c ^^^ m2) :: (d ^^^ m3) :: unmaskFour m0 m1 m2 m3 rest
  | _ => []

def copyUnmasked640 (b : Bytes) : Bytes :=
  match (b.drop 4).take 4 with
  | [m0, m1, m2, m3] => unmaskFour m0 m1 m2 m3 ((b.drop 8).take frameBytes)
  | _ => []

lemma length_unmaskFour (m0 m1 m2 m3 : UInt8) (l : Bytes) :
    (unmaskFour m0 m1 m2 m3 l).length = l.length / 4 * 4 := by
  fun_induction unmaskFour m0 m1 m2 m3 l with
  | case1 a b c d rest ih =>
    simp only [length_cons, ih]
    omega
  | case2 l h =>
    match l with
    | [] | [_] | [_, _] | [_, _, _] => simp
    | a :: b :: c :: d :: rest => exact absurd rfl (h a b c d rest)

lemma length_copyUnmasked640 {b : Bytes} (h : fixedBinary640 b) :
    (copyUnmasked640 b).length = frameBytes := by
  have hlen : 648 ≤ b.length := (of_decide_eq_true h).1
  have hmask : ((b.drop 4).take 4).length = 4 := by
    rw [length_take, length_drop]
    omega
  obtain ⟨m0, m1, m2, m3, hm⟩ : ∃ m0 m1 m2 m3, (b.drop 4).take 4 = [m0, m1, m2, m3] :=
    length_eq_four.mp hmask
  rw [copyUnmasked640, hm]
  dsimp only
  rw [length_unmaskFour, length_take, length_drop, frameBytes]
  omega

/-! ## More input, and the bulk path -/

lemma take_drop_append {b x : Bytes} {pos n : ℕ} (h : pos + n ≤ b.length) :
    ((b ++ x).drop pos).take n = (b.drop pos).take n := by
  rw [drop_append_of_le_length (by omega),
    take_append_of_le_length (by rw [length_drop]; omega)]

lemma parseLen_append {b : Bytes} {baseLen : ℕ} (x : Bytes) (h : parseLen b baseLen ≠ .ok none) :
    parseLen (b ++ x) baseLen = parseLen b baseLen := by
  unfold parseLen at h ⊢
  by_cases hsmall : baseLen < 126
  · rw [if_pos hsmall, if_pos hsmall]
  · rw [if_neg hsmall] at h ⊢
    rw [if_neg hsmall]
    by_cases hmid : baseLen = 126
    · rw [if_pos hmid] at h ⊢
      rw [if_pos hmid]
      have hlen : ¬ b.length < 2 := fun hlt => h (if_pos hlt)
      rw [if_neg hlen, if_neg (by rw [length_append]; omega),
        take_append_of_le_length (by omega)]
    · rw [if_neg hmid] at h ⊢
      rw [if_neg hmid]
      have hlen : ¬ b.length < 8 := fun hlt => h (if_pos hlt)
      rw [if_neg hlen, if_neg (by rw [length_append]; omega),
        take_append_of_le_length (by omega)]

theorem parseOne_append {b : Bytes} (x : Bytes) (h : parseOne b 0 ≠ .ok none) :
    parseOne (b ++ x) 0 = parseOne b 0 := by
  match b with
  | [] => exact absurd rfl h
  | [_] => exact absurd rfl h
  | byte0 :: byte1 :: rest =>
    unfold parseOne at h ⊢
    simp only [drop_zero, cons_append] at h ⊢
    split_ifs at h ⊢
    · rfl
    · rfl
    · rfl
    · have hlen : parseLen rest (byte1 &&& 0x7f).toNat ≠ .ok none := fun hnone => by
        rw [hnone] at h
        exact h rfl
      rw [parseLen_append x hlen]
      split at h
      · rfl
      · exact absurd rfl h
      · rename_i payloadLen used _
        have hfits : ¬ rest.length < used + 4 + payloadLen := fun hlt => h (if_pos hlt)
        rw [if_neg hfits, if_neg (by rw [length_append]; omega), take_drop_append (by omega),
          take_drop_append (by omega)]

lemma unmask_four (m0 m1 m2 m3 a b c d : UInt8) (rest : Bytes) :
    unmask [m0, m1, m2, m3] (a :: b :: c :: d :: rest) =
      (a ^^^ m0) :: (b ^^^ m1) :: (c ^^^ m2) :: (d ^^^ m3) :: unmask [m0, m1, m2, m3] rest := by
  have hshift : ∀ i : ℕ, (i + 1 + 1 + 1 + 1) % 4 = i % 4 := fun i => by omega
  simp only [unmask, mapIdx_cons, hshift]
  rfl

lemma unmaskFour_eq (m0 m1 m2 m3 : UInt8) {l : Bytes} (h : 4 ∣ l.length) :
    unmaskFour m0 m1 m2 m3 l = unmask [m0, m1, m2, m3] l := by
  fun_induction unmaskFour m0 m1 m2 m3 l with
  | case1 a b c d rest ih => rw [unmask_four, ih (by simpa using h)]
  | case2 l hne =>
    match l with
    | [] => rfl
    | [_] | [_, _] | [_, _, _] => simp at h
    | a :: b :: c :: d :: rest => exact absurd rfl (hne a b c d rest)

theorem parseOne_fixedBinary640 {b : Bytes} (h : fixedBinary640 b) :
    parseOne b 0 = .ok (some (⟨true, .Binary, copyUnmasked640 b⟩, 648)) := by
  obtain ⟨hlen, hhead, hsize⟩ := of_decide_eq_true h
  match b with
  | [] | [_] => simp at hlen
  | byte0 :: byte1 :: rest =>
    simp only [take_succ_cons, take_zero, List.cons.injEq, and_true] at hhead
    obtain ⟨rfl, rfl⟩ := hhead
    simp only [length_cons] at hlen
    simp only [drop_succ_cons, drop_zero] at hsize
    have hparse : parseLen rest 126 = .ok (some (640, 2)) := by
      rw [parseLen, if_neg (by omega), if_pos rfl, if_neg (by omega), hsize]
      rfl
    have hmask : ((rest.drop 2).take 4).length = 4 := by
      rw [length_take, length_drop]
      omega
    obtain ⟨m0, m1, m2, m3, hm⟩ := length_eq_four.mp hmask
    have hcopy : copyUnmasked640 (0x82 :: 0xfe :: rest) =
        unmask ((rest.drop 2).take 4) ((rest.drop 6).take 640) := by
      have hm' : ((0x82 :: 0xfe :: rest : Bytes).drop 4).take 4 = [m0, m1, m2, m3] := hm
      rw [copyUnmasked640, hm', hm]
      refine unmaskFour_eq m0 m1 m2 m3 ?_
      rw [length_take, length_drop]
      simp only [frameBytes, length_cons]
      omega
    rw [hcopy]
    have hbase : ((0xfe : UInt8) &&& 0x7f).toNat = 126 := rfl
    unfold parseOne
    simp only [drop_zero]
    rw [if_neg (by decide), if_neg (by decide), if_neg (by decide), hbase, hparse]
    exact if_neg (by omega)

/-! ## Every frame is decoded -/

open WebSocket

lemma parseOne_drop (b : Bytes) (pos : ℕ) :
    parseOne b pos = (parseOne (b.drop pos) 0).map (Option.map fun r => (r.1, pos + r.2)) := by
  unfold parseOne
  rw [drop_zero]
  split
  · dsimp only
    split_ifs
    · rfl
    · rfl
    · rfl
    · split
      · rfl
      · rfl
      · split_ifs
        · rfl
        · simp [Except.map, Nat.add_assoc]
  · rfl

lemma parseLen_extended {form : LengthForm} {n : ℕ} (hform : form.Holds n) (hn : n ≤ 2 ^ 30)
    (rest : Bytes) :
    parseLen (form.extended n ++ rest) (form.base n) =
      .ok (some (n, (form.extended n).length)) := by
  cases form with
  | Short => exact if_pos hform
  | Medium =>
    have hread : bigEndian ((WebSocket.bigEndian 2 n ++ rest).take 2) = n := by
      rw [take_left' (length_bigEndian 2 n)]
      exact ofBigEndian_bigEndian hform
    simp only [LengthForm.extended, LengthForm.base, length_bigEndian]
    rw [parseLen, if_neg (by omega), if_pos rfl, if_neg (by simp; omega), hread]
  | Long =>
    have hread : bigEndian ((WebSocket.bigEndian 8 n ++ rest).take 8) = n := by
      rw [take_left' (length_bigEndian 8 n)]
      exact ofBigEndian_bigEndian (lt_trans (hform : n < 2 ^ 63) (by norm_num))
    simp only [LengthForm.extended, LengthForm.base, length_bigEndian]
    rw [parseLen, if_neg (by omega), if_neg (by omega), if_neg (by simp)]
    dsimp only
    rw [hread, if_neg (by omega)]

def ofClient (f : ClientFrame) : Frame := ⟨f.fin, opcodeOfInt f.opcode, f.payload⟩

lemma parseOne_bytes {f : ClientFrame} (hf : f.Admissible) (hform : f.IsControl → f.form = .Short)
    (hn : f.payload.length ≤ 2 ^ 30) (rest : Bytes) :
    parseOne (f.bytes ++ rest) 0 = .ok (some (ofClient f, f.bytes.length)) := by
  obtain ⟨hfin, hopcode, hreserved⟩ := f.byte0_bits
  obtain ⟨hmasked, hbase⟩ := f.byte1_bits
  -- A control frame is refused if it is not final, or if its length is not in the short form.
  have hcontrol : ¬ (8 ≤ (f.byte0 &&& 0x0f).toNat ∧
      (decide (f.byte0 &&& 0x80 ≠ 0) = false ∨ 125 < (f.byte1 &&& 0x7f).toNat)) := by
    rw [hopcode, hbase]
    rintro ⟨hcontrol, hbad⟩
    obtain ⟨hfinal, hshort⟩ := hf hcontrol
    rw [hform hcontrol, LengthForm.base] at hbad
    simp [hfin, hfinal] at hbad
    omega
  set n := f.payload.length with hlength
  have hrest : f.body ++ rest =
      f.form.extended n ++ (f.key ++ (mask f.key f.payload ++ rest)) := by
    simp [ClientFrame.body, hlength]
  have hkey : ((f.form.extended n ++ (f.key ++ (mask f.key f.payload ++ rest))).drop
      (f.form.extended n).length).take 4 = f.key := by
    rw [drop_left, take_left' f.key_length]
  have hpayload : ((f.form.extended n ++ (f.key ++ (mask f.key f.payload ++ rest))).drop
      ((f.form.extended n).length + 4)).take n = mask f.key f.payload := by
    rw [← drop_drop, drop_left, drop_left' f.key_length,
      take_left' (length_mask ..)]
  have hbytes : (f.bytes ++ rest).drop 0 = f.byte0 :: f.byte1 :: (f.body ++ rest) := rfl
  rw [parseOne, hbytes]
  dsimp only
  rw [if_neg hmasked, if_neg (not_not.mpr hreserved), if_neg hcontrol, hbase, hrest,
    parseLen_extended f.holds hn]
  dsimp only
  rw [if_neg (by simp [f.key_length, ← hlength]; omega), hkey, hpayload, hopcode]
  have hpayload' : unmask f.key (mask f.key f.payload) = f.payload := mask_mask ..
  have hfin' : decide (f.byte0 &&& 0x80 ≠ 0) = f.fin := by
    rw [Bool.eq_iff_iff, decide_eq_true_eq, hfin]
  have hsize : 0 + 2 + (f.form.extended n).length + 4 + n = f.bytes.length := by
    simp only [ClientFrame.bytes, ClientFrame.body, length_cons, length_append,
      length_mask, f.key_length, ← hlength]
    omega
  rw [hpayload', hfin', hsize]
  rfl

theorem parseOne_decodes {f : ClientFrame} (hf : f.Admissible)
    (hform : f.IsControl → f.form = .Short) (hn : f.payload.length ≤ 2 ^ 30) (before : Bytes) :
    (∀ rest, parseOne (before ++ f.bytes ++ rest) before.length =
      .ok (some (ofClient f, before.length + f.bytes.length))) ∧
    ∀ part, part <+: f.bytes → part ≠ f.bytes →
      parseOne (before ++ part) before.length = .ok none := by
  constructor
  · intro rest
    rw [parseOne_drop, append_assoc, drop_left, parseOne_bytes hf hform hn]
    rfl
  · rintro part ⟨missing, hpart⟩ hne
    have hall := parseOne_bytes hf hform hn []
    rw [append_nil, ← hpart] at hall
    have hnone : parseOne part 0 = .ok none := by
      by_contra hdecided
      rw [parseOne_append missing hdecided] at hall
      have hle := (parseOne_bounds hall).2
      rw [length_append] at hle
      have hnil : missing = [] := eq_nil_of_length_eq_zero (by omega)
      rw [hnil, append_nil] at hpart
      exact hne hpart
    rw [parseOne_drop, drop_left, hnone]
    rfl

def longText : ClientFrame where
  fin := true
  opcode := 1
  key := [1, 2, 3, 4]
  payload := bytes "hi"
  form := .Long
  key_length := length_sampleKey
  holds := by decide +kernel

theorem parseOne_decodes_longText :
    longText.bytes = [0x81, 0xff, 0, 0, 0, 0, 0, 0, 0, 2, 1, 2, 3, 4, 0x69, 0x6b] ∧
      parseOne ([7, 7, 7] ++ longText.bytes ++ [9]) 3 = .ok (some (⟨true, .Text, bytes "hi"⟩, 19)) ∧
      parseOne ([7, 7, 7] ++ longText.bytes.take 9) 3 = .ok none := by
  have hdecodes := @parseOne_decodes longText (fun h => absurd h (by decide))
    (fun h => absurd h (by decide)) (by decide +kernel) [7, 7, 7]
  refine ⟨by decide +kernel, hdecodes.1 [9], ?_⟩
  exact hdecodes.2 _ (List.take_prefix _ _) (by decide +kernel)

def mediumPing : ClientFrame where
  fin := true
  opcode := 9
  key := [0, 0, 0, 0]
  payload := []
  form := .Medium
  key_length := rfl
  holds := by decide

theorem mediumPing_refused : mediumPing.Admissible ∧ mediumPing.payload.length ≤ 2 ^ 30 ∧
    parseOne mediumPing.bytes 0 = .error "invalid control frame" :=
  ⟨fun _ => ⟨rfl, by decide⟩, by decide, by decide +kernel⟩

end SttBench.OxcamlEpoll.Ws
