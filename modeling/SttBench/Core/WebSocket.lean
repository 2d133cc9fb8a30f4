import SttBench.Core.Ascii

/-!
# Frames of the WebSocket protocol

A frame as a client may put it on the wire, and what a reader gets back from its parts.
-/

namespace WebSocket

open Ascii

/-! ## Numbers -/

def ofBigEndian (b : Bytes) : ℕ := b.foldl (fun n x => n * 256 + x.toNat) 0

def bigEndian : ℕ → ℕ → Bytes
  | 0, _ => []
  | width + 1, n => bigEndian width (n / 256) ++ [UInt8.ofNat n]

@[simp] lemma length_bigEndian (width n : ℕ) : (bigEndian width n).length = width := by
  induction width generalizing n with
  | zero => rfl
  | succ width ih => simp [bigEndian, ih]

lemma ofBigEndian_bigEndian {width n : ℕ} (h : n < 256 ^ width) :
    ofBigEndian (bigEndian width n) = n := by
  induction width generalizing n with
  | zero =>
    obtain rfl : n = 0 := by simpa using h
    rfl
  | succ width ih =>
    have hread := ih (Nat.div_lt_of_lt_mul (by rwa [pow_succ'] at h))
    rw [ofBigEndian] at hread
    rw [bigEndian, ofBigEndian, List.foldl_append, hread]
    simp only [List.foldl_cons, List.foldl_nil, UInt8.toNat_ofNat']
    omega

/-! ## Masks -/

def mask (key payload : Bytes) : Bytes := payload.mapIdx fun i b => b ^^^ key.getD (i % 4) 0

@[simp] lemma length_mask (key payload : Bytes) : (mask key payload).length = payload.length := by
  rw [mask, List.length_mapIdx]

@[simp] lemma mask_mask (key payload : Bytes) : mask key (mask key payload) = payload := by
  refine List.ext_getElem (by simp) fun i _ _ => ?_
  simp only [mask, List.getElem_mapIdx, UInt8.xor_assoc, UInt8.xor_self, UInt8.xor_zero]

/-! ## Frames -/

-- opcodes are written as numerals
instance neZeroSixteen : NeZero 16 := ⟨by decide⟩

lemma length_sampleKey : ([1, 2, 3, 4] : Bytes).length = 4 := rfl

inductive LengthForm
  | Short
  | Medium
  | Long
deriving DecidableEq, Repr

namespace LengthForm

def Holds : LengthForm → ℕ → Prop
  | .Short, n => n < 126
  | .Medium, n => n < 2 ^ 16
  | .Long, n => n < 2 ^ 63

instance : (form : LengthForm) → (n : ℕ) → Decidable (form.Holds n)
  | .Short, n => inferInstanceAs (Decidable (n < 126))
  | .Medium, n => inferInstanceAs (Decidable (n < 2 ^ 16))
  | .Long, n => inferInstanceAs (Decidable (n < 2 ^ 63))

def base : LengthForm → ℕ → ℕ
  | .Short, n => n
  | .Medium, _ => 126
  | .Long, _ => 127

def extended : LengthForm → ℕ → Bytes
  | .Short, _ => []
  | .Medium, n => bigEndian 2 n
  | .Long, n => bigEndian 8 n

lemma base_lt {form : LengthForm} {n : ℕ} (h : form.Holds n) : form.base n < 128 := by
  cases form with
  | Short => exact lt_trans (h : n < 126) (by omega)
  | Medium => exact (by decide : 126 < 128)
  | Long => exact (by decide : 127 < 128)

end LengthForm

structure ClientFrame where
  fin : Bool
  opcode : Fin 16
  key : Bytes
  payload : Bytes
  form : LengthForm
  key_length : key.length = 4
  holds : form.Holds payload.length

namespace ClientFrame

variable (f : ClientFrame)

def byte0 : UInt8 := (if f.fin then 0x80 else 0) ||| UInt8.ofNat f.opcode

def byte1 : UInt8 := 0x80 ||| UInt8.ofNat (f.form.base f.payload.length)

def body : Bytes :=
  f.form.extended f.payload.length ++ (f.key ++ mask f.key f.payload)

def bytes : Bytes := f.byte0 :: f.byte1 :: f.body

lemma byte0_bits : (f.byte0 &&& 0x80 ≠ 0 ↔ f.fin = true) ∧ (f.byte0 &&& 0x0f).toNat = f.opcode ∧
    f.byte0 &&& 0x70 = 0 := by
  have hall : ∀ (fin : Bool) (opcode : Fin 16),
      (((if fin then 0x80 else 0) ||| UInt8.ofNat opcode : UInt8) &&& 0x80 ≠ 0 ↔ fin = true) ∧
        (((if fin then 0x80 else 0) ||| UInt8.ofNat opcode : UInt8) &&& 0x0f).toNat = opcode ∧
        ((if fin then 0x80 else 0) ||| UInt8.ofNat opcode : UInt8) &&& 0x70 = 0 := by
    decide
  exact hall f.fin f.opcode

lemma byte1_bits : f.byte1 &&& 0x80 ≠ 0 ∧
    (f.byte1 &&& 0x7f).toNat = f.form.base f.payload.length := by
  have hall : ∀ n : Fin 128, (0x80 ||| UInt8.ofNat n : UInt8) &&& 0x80 ≠ 0 ∧
      ((0x80 ||| UInt8.ofNat n : UInt8) &&& 0x7f).toNat = n := by
    decide
  exact hall ⟨_, LengthForm.base_lt f.holds⟩

def IsControl : Prop := 8 ≤ f.opcode.val

instance : Decidable f.IsControl := inferInstanceAs (Decidable (8 ≤ f.opcode.val))

def Admissible : Prop := f.IsControl → f.fin = true ∧ f.payload.length ≤ 125

end ClientFrame

/-! ## Messages in frames -/

inductive DataOpcode
  | Text
  | Binary
deriving DecidableEq, Repr

def DataOpcode.code : DataOpcode → Fin 16
  | .Text => 1
  | .Binary => 2

structure Message where
  opcode : DataOpcode
  payload : Bytes
deriving DecidableEq, Repr

structure ClientFrame.IsPingPong (f : ClientFrame) : Prop where
  opcode : f.opcode = 9 ∨ f.opcode = 10
  fin : f.fin = true
  length_le : f.payload.length ≤ 125

inductive Completes : Bytes → List ClientFrame → Prop
  | last {f : ClientFrame} (hopcode : f.opcode = 0) (hfin : f.fin = true) :
      Completes f.payload [f]
  | more {f : ClientFrame} {payload : Bytes} {frames : List ClientFrame} (hopcode : f.opcode = 0)
      (hfin : f.fin = false) (h : Completes payload frames) :
      Completes (f.payload ++ payload) (f :: frames)
  | control {f : ClientFrame} {payload : Bytes} {frames : List ClientFrame} (hf : f.IsPingPong)
      (h : Completes payload frames) : Completes payload (f :: frames)

inductive Carries : List Message → List ClientFrame → Prop
  | nil : Carries [] []
  | control {f : ClientFrame} {messages : List Message} {frames : List ClientFrame}
      (hf : f.IsPingPong) (h : Carries messages frames) : Carries messages (f :: frames)
  | whole {f : ClientFrame} {m : Message} {messages : List Message} {frames : List ClientFrame}
      (hopcode : f.opcode = m.opcode.code) (hfin : f.fin = true) (hpayload : f.payload = m.payload)
      (h : Carries messages frames) : Carries (m :: messages) (f :: frames)
  | fragmented {f : ClientFrame} {m : Message} {rest : Bytes} {fragments : List ClientFrame}
      {messages : List Message} {frames : List ClientFrame} (hopcode : f.opcode = m.opcode.code)
      (hfin : f.fin = false) (hpayload : f.payload ++ rest = m.payload)
      (hrest : Completes rest fragments) (h : Carries messages frames) :
      Carries (m :: messages) (f :: (fragments ++ frames))

def Unfragmented (messages : List Message) (frames : List ClientFrame) : Prop :=
  List.Forall₂ (fun m f => f.opcode = m.opcode.code ∧ f.fin = true ∧ f.payload = m.payload)
    messages frames

lemma Unfragmented.carries {messages : List Message} {frames : List ClientFrame}
    (h : Unfragmented messages frames) : Carries messages frames := by
  induction h with
  | nil => exact .nil
  | cons hf _ ih => exact .whole hf.1 hf.2.1 hf.2.2 ih

end WebSocket
