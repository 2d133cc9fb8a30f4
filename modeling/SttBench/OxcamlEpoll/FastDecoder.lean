import SttBench.Core.Json
import SttBench.OxcamlEpoll.Protocol

/-! # ocaml-oxcaml-epoll: the fast decoder against the general one -/

namespace SttBench.OxcamlEpoll

open Ascii List

/-! ## What `Yojson` makes of a text -/

def integer : Bytes → Option ℤ
  | 45 :: ds => if ds.all isDigit then some (-decimal ds) else none
  | ds => if ds.all isDigit then some (decimal ds) else none

def IsNative (n : ℤ) : Prop := -2 ^ 62 ≤ n ∧ n < 2 ^ 62

instance (n : ℤ) : Decidable (IsNative n) := inferInstanceAs (Decidable (_ ∧ _))

def ofNumber (floatOfString : Bytes → Option F64) (t : Bytes) : Json :=
  match integer t with
  | some i => if IsNative i then .Int i else .Intlit t
  | none => .Float ((floatOfString t).getD 0)

mutual

def ofValue (floatOfString : Bytes → Option F64) : Json.Value → Json
  | .Number t => ofNumber floatOfString t
  | .String s => .String s
  | .Object ms => .Assoc (ofMembers floatOfString ms)
  | .Null | .Bool _ | .Array _ => .Other

def ofMembers (floatOfString : Bytes → Option F64) :
    List (Bytes × Json.Value) → List (Bytes × Json)
  | [] => []
  | (key, v) :: ms => (key, ofValue floatOfString v) :: ofMembers floatOfString ms

end

def SameFloat (f g : F64) : Prop :=
  f = g ∨ f &&& 0x7FFFFFFFFFFFFFFF = 0 ∧ g &&& 0x7FFFFFFFFFFFFFFF = 0

structure Decoders.ReadsJson (d : Decoders) : Prop where
  accepts : ∀ {b : Bytes} {w : Json.Value}, Json.Text b w → ∃ v, d.fromString b = .ok v
  sound : ∀ {b : Bytes} {v : Json}, d.fromString b = .ok v →
    ∃ w, Json.Text b w ∧ v = ofValue d.floatOfString w
  floats : ∀ {t : Bytes} {i : ℤ} {f : F64}, Json.IsNumber t → integer t = some i → IsNative i →
    d.floatOfString t = some f → SameFloat f (d.floatOfInt i)

/-! ## The scanners -/

variable {d : Decoders} {b rest : Bytes}

lemma parseLiteral_iff {s : String} : parseLiteral s b = some rest ↔ b = bytes s ++ rest := by
  unfold parseLiteral
  constructor
  · intro h
    split_ifs at h with hpre
    obtain ⟨t, rfl⟩ := hpre
    rw [drop_left] at h
    rw [Option.some.inj h]
  · rintro rfl
    rw [if_pos (prefix_append _ _), drop_left]

lemma parseUintLoop_eq : ∀ (b : Bytes) (acc : ℕ),
    parseUintLoop b (wrap acc) =
      (wrap (decimalFrom acc (b.takeWhile isDigit)), b.dropWhile isDigit)
  | [], acc => by simp [parseUintLoop]
  | c :: b, acc => by
    rw [parseUintLoop]
    by_cases hc : isDigit c
    · rw [if_pos hc, add_sub_assoc, wrap_digit hc, parseUintLoop_eq b,
        takeWhile_cons_of_pos hc, dropWhile_cons_of_pos hc, decimalFrom_cons]
    · rw [if_neg hc, takeWhile_cons_of_neg hc, dropWhile_cons_of_neg hc,
        decimalFrom_nil]

lemma parseUintBytes_iff {n : ℤ} : parseUintBytes b = some (n, rest) ↔
    ∃ ds, b = ds ++ rest ∧ Json.IsDigits ds ∧ rest.head?.any isDigit = false ∧
      n = wrap (decimal ds) := by
  have hloop : parseUintLoop b 0 = (wrap (decimal (b.takeWhile isDigit)), b.dropWhile isDigit) := by
    simpa [decimal] using parseUintLoop_eq b 0
  have hhead : b.head?.any isDigit = true ↔ b.takeWhile isDigit ≠ [] := by
    cases b with
    | nil => simp
    | cons c b => by_cases hc : isDigit c <;> simp [hc]
  rw [parseUintBytes, hloop]
  constructor
  · intro h
    split_ifs at h with hdigit
    obtain ⟨hn, hrest⟩ := Prod.ext_iff.mp (Option.some.inj h)
    obtain ⟨hb, hds, hstop⟩ := span_iff.mp ⟨rfl, hrest.symm⟩
    exact ⟨_, hb, ⟨hhead.mp hdigit, hds⟩, hstop, hn.symm⟩
  · rintro ⟨ds, hb, hds, hstop, rfl⟩
    obtain ⟨rfl, rfl⟩ := span_iff.mpr ⟨hb, hds.2, hstop⟩
    rw [if_pos (hhead.mpr hds.1)]

lemma parseFloatBytes_iff {f : F64} : parseFloatBytes d b = some (f, rest) ↔
    ∃ t, b = t ++ rest ∧ (t ≠ [] ∧ ∀ c ∈ t, isNumberChar c) ∧
      rest.head?.any isNumberChar = false ∧ d.floatOfString t = some f := by
  rw [parseFloatBytes]
  constructor
  · intro h
    split_ifs at h with hne
    obtain ⟨f', hf, hpair⟩ := Option.map_eq_some_iff.mp h
    obtain ⟨rfl, hrest⟩ := Prod.ext_iff.mp hpair
    obtain ⟨hb, ht, hstop⟩ := span_iff.mp ⟨rfl, hrest.symm⟩
    exact ⟨_, hb, ⟨hne, ht⟩, hstop, hf⟩
  · rintro ⟨t, hb, ⟨hne, ht⟩, hstop, hf⟩
    obtain ⟨rfl, rfl⟩ := span_iff.mpr ⟨hb, ht, hstop⟩
    simp only [if_neg hne, hf, Option.map_some]

lemma parseSimpleJsonString_iff {s : Bytes} : parseSimpleJsonString b = some (s, rest) ↔
    b = 34 :: (s ++ 34 :: rest) ∧ 34 ∉ s ∧ 92 ∉ s := by
  let p : UInt8 → Bool := fun c => c ≠ 34 ∧ c ≠ 92
  have hplain : (∀ c ∈ s, p c) ↔ 34 ∉ s ∧ 92 ∉ s := by
    simp only [p, decide_eq_true_eq, forall_and, ne_eq, forall_mem_ne']
  have hdrop : ∀ (p : UInt8 → Bool) (b : Bytes), b.drop (b.takeWhile p).length = b.dropWhile p := by
    intro p b
    nth_rewrite 2 [← takeWhile_append_dropWhile (p := p) (l := b)]
    rw [drop_left]
  constructor
  · intro h
    unfold parseSimpleJsonString at h
    split at h
    · rename_i b
      dsimp only at h
      rw [hdrop] at h
      split at h
      · rename_i tail htail
        cases h
        obtain ⟨hb, hs, -⟩ := span_iff.mp ⟨rfl, htail.symm⟩
        exact ⟨congrArg (34 :: ·) hb, hplain.mp hs⟩
      · cases h
    · cases h
  · rintro ⟨rfl, hs⟩
    obtain ⟨htake, htail⟩ := span_iff.mpr
      ⟨rfl, hplain.mpr hs, show (34 :: rest).head?.any p = false from rfl⟩
    unfold parseSimpleJsonString
    simp only [hdrop]
    rw [← htake, ← htail]
    rfl

/-! ## The layout -/

structure Fields where
  rms : Bytes
  zeroCrossings : Bytes
  checksum : Bytes
  samples : Bytes
  transcript : Bytes
  audioBytes : Bytes

namespace Fields

def text (f : Fields) : Bytes :=
  bytes "\x7b\"rms\":" ++ (f.rms ++
  (bytes ",\"zero_crossings\":" ++ (f.zeroCrossings ++
  (bytes ",\"checksum\":" ++ (f.checksum ++
  (bytes ",\"samples\":" ++ (f.samples ++
  (bytes ",\"transcript\":" ++ (34 :: (f.transcript ++ 34 ::
  (bytes ",\"audio_bytes\":" ++ (f.audioBytes ++
  (bytes "\x7d" ++ [])))))))))))))

def integers (f : Fields) : List Bytes := [f.zeroCrossings, f.checksum, f.samples, f.audioBytes]

structure Scanned (d : Decoders) (f : Fields) : Prop where
  rms : f.rms ≠ [] ∧ ∀ c ∈ f.rms, isNumberChar c
  float : (d.floatOfString f.rms).isSome
  integers : ∀ t ∈ f.integers, Json.IsDigits t
  transcript : 34 ∉ f.transcript ∧ 92 ∉ f.transcript

def response (d : Decoders) (f : Fields) : InferResponse where
  rms := (d.floatOfString f.rms).getD 0
  zeroCrossings := wrap (decimal f.zeroCrossings)
  checksum := wrap (decimal f.checksum)
  samples := wrap (decimal f.samples)
  transcript := f.transcript
  audioBytes := wrap (decimal f.audioBytes)

end Fields

lemma inferResponseOfRange_eq_some_iff {r : InferResponse} : inferResponseOfRange d b = some r ↔
    ∃ f : Fields, b = f.text ∧ f.Scanned d ∧ r = f.response d := by
  constructor
  · intro h
    simp only [inferResponseOfRange, Option.bind_eq_bind, Option.bind_eq_some_iff, Prod.exists,
      parseLiteral_iff, parseFloatBytes_iff, parseUintBytes_iff, parseSimpleJsonString_iff] at h
    obtain ⟨_, rfl, rms, _, ⟨rmsText, rfl, hrms, -, hfloat⟩, _, rfl, _, _, ⟨zc, rfl, hzc, -, rfl⟩,
      _, rfl, _, _, ⟨ck, rfl, hck, -, rfl⟩, _, rfl, _, _, ⟨sm, rfl, hsm, -, rfl⟩, _, rfl, tr, _,
      ⟨rfl, htr⟩, _, rfl, _, _, ⟨ab, rfl, hab, -, rfl⟩, _, rfl, hend⟩ := h
    split_ifs at hend with hnil
    subst hnil
    cases hend
    refine ⟨⟨rmsText, zc, ck, sm, tr, ab⟩, rfl, ⟨hrms, by simp [hfloat], ?_, htr⟩, ?_⟩
    · simpa [Fields.integers] using ⟨hzc, hck, hsm, hab⟩
    · simp [Fields.response, hfloat]
  · rintro ⟨f, rfl, hf, rfl⟩
    obtain ⟨x, hx⟩ := Option.isSome_iff_exists.mp hf.float
    have hints := hf.integers
    simp only [Fields.integers, forall_mem_cons] at hints
    simp only [inferResponseOfRange, Option.bind_eq_bind, Option.bind_eq_some_iff, Prod.exists,
      parseLiteral_iff, parseFloatBytes_iff, parseUintBytes_iff, parseSimpleJsonString_iff]
    refine ⟨_, rfl, x, _, ⟨f.rms, rfl, hf.rms, rfl, hx⟩, _, rfl, _, _,
      ⟨f.zeroCrossings, rfl, hints.1, rfl, rfl⟩, _, rfl, _, _,
      ⟨f.checksum, rfl, hints.2.1, rfl, rfl⟩, _, rfl, _, _,
      ⟨f.samples, rfl, hints.2.2.1, rfl, rfl⟩, _, rfl, f.transcript, _,
      ⟨rfl, hf.transcript⟩, _, rfl, _, _, ⟨f.audioBytes, rfl, hints.2.2.2.1, rfl, rfl⟩, _,
      rfl, ?_⟩
    rw [if_pos rfl, Fields.response, hx, Option.getD_some]

/-! ## The general decoder on the layout -/

lemma digitsIn_eq : ∀ {ds : Bytes} (acc : ℕ), (∀ c ∈ ds, isDigit c) →
    digitsIn 10 acc ds = some (decimalFrom acc ds)
  | [], acc, _ => rfl
  | c :: ds, acc, h => by
    obtain ⟨hc, hds⟩ := forall_mem_cons.mp h
    have hbounds := isDigit_iff.mp hc
    have hne : c ≠ 95 := by
      rintro rfl
      exact absurd hc (by decide)
    have hdigit : digitIn 10 c = some (c.toNat - 48) := by
      rw [digitIn, if_pos hc, if_pos (by omega)]
    rw [digitsIn, if_neg hne, hdigit, Option.bind_some, digitsIn_eq _ hds, decimalFrom_cons]

lemma lower_ne_of_isDigit {b l : UInt8} (hb : isDigit b) (hl : 58 ≤ l.toNat) : lower b ≠ l := by
  have hbounds := isDigit_iff.mp hb
  have hlow : lower b = b := by
    rw [lower, if_neg]
    simp only [Bool.and_eq_true, decide_eq_true_eq, UInt8.le_iff_toNat_le]
    exact fun h => absurd (hbounds.2.trans_lt (by decide)) (not_lt.mpr h.1)
  rintro rfl
  rw [hlow] at hl
  omega

lemma intOfString_eq {ds : Bytes} (h : Json.IsDigits ds) :
    intOfString ds = if decimal ds < 2 ^ 62 then some (decimal ds : ℤ) else none := by
  obtain ⟨hne, hds⟩ := h
  obtain ⟨c, ds, rfl⟩ := exists_cons_of_ne_nil hne
  have hc := hds c (by simp)
  have hsign : c ≠ 45 ∧ c ≠ 43 ∧ c ≠ 95 := by
    refine ⟨?_, ?_, ?_⟩ <;> rintro rfl <;> exact absurd hc (by decide)
  have hread : ((digitsIn 10 0 (c :: ds)).bind fun n =>
      if -2 ^ 62 ≤ (n : ℤ) ∧ (n : ℤ) < 2 ^ 62 then some (n : ℤ) else none) =
      if decimal (c :: ds) < 2 ^ 62 then some (decimal (c :: ds) : ℤ) else none := by
    rw [digitsIn_eq 0 hds, Option.bind_some, ← decimal]
    split_ifs <;> first | rfl | omega
  unfold intOfString
  split
  rename_i neg s heq
  split at heq
  · rename_i h
    exact absurd (List.cons.inj h).1 hsign.1
  · rename_i h
    exact absurd (List.cons.inj h).1 hsign.2.1
  · cases heq
    split
    rename_i base unsigned s' heq'
    split at heq'
    · rename_i b s hs
      have hb : isDigit b := hds b (by simp [hs])
      rw [if_neg (lower_ne_of_isDigit hb (by decide)), if_neg (lower_ne_of_isDigit hb (by decide)),
        if_neg (lower_ne_of_isDigit hb (by decide)), if_neg (lower_ne_of_isDigit hb (by decide)),
        ← hs] at heq'
      cases heq'
      simpa [hsign.2.2] using hread
    · cases heq'
      simpa [hsign.2.2] using hread

variable {float : Bytes → Option F64} {t : Bytes}

lemma integer_eq (h : Json.IsDigits t) : integer t = some (decimal t : ℤ) := by
  unfold integer
  split
  · exact absurd (h.2 45 (by simp)) (by decide)
  · rw [if_pos (all_eq_true.mpr h.2)]

lemma readInt_ofNumber (h : Json.IsDigits t) : readInt (ofNumber float t) =
    if decimal t < 2 ^ 62 then .ok (decimal t : ℤ) else .error "expected integer" := by
  rw [ofNumber, integer_eq h]
  dsimp only
  have hnative : IsNative (decimal t) ↔ decimal t < 2 ^ 62 := by
    simp only [IsNative]
    omega
  by_cases hlt : decimal t < 2 ^ 62
  · rw [if_pos (hnative.mpr hlt), if_pos hlt, readInt]
  · rw [if_neg (mt hnative.mp hlt), if_neg hlt, readInt, intOfString_eq h, if_neg hlt]

lemma readInt_eq_ok {n : ℤ} (h : Json.IsDigits t) : readInt (ofNumber float t) = .ok n ↔
    decimal t < 2 ^ 62 ∧ n = decimal t := by
  rw [readInt_ofNumber h]
  by_cases hlt : decimal t < 2 ^ 62
  · rw [if_pos hlt, Except.ok.injEq, and_iff_right hlt, eq_comm]
  · rw [if_neg hlt]
    exact iff_of_false nofun fun h => hlt h.1

lemma readFloat_ofNumber {f : F64} : readFloat d (ofNumber d.floatOfString t) = .ok f ↔
    (∃ i, integer t = some i ∧ IsNative i ∧ f = d.floatOfInt i) ∨
      integer t = none ∧ f = (d.floatOfString t).getD 0 := by
  rw [ofNumber]
  cases integer t with
  | none => simp [readFloat, eq_comm]
  | some i => by_cases hi : IsNative i <;> simp [hi, readFloat, eq_comm]

lemma bind_eq_ok {α β : Type} {x : Except String α} {k : α → Except String β} {y : β} :
    x >>= k = .ok y ↔ ∃ a, x = .ok a ∧ k a = .ok y := by
  cases x <;> simp [bind, Except.bind]

namespace Fields

variable {f : Fields}

def members (f : Fields) : List (Bytes × Json.Scalar) :=
  [(bytes "rms", .Number f.rms), (bytes "zero_crossings", .Number f.zeroCrossings),
    (bytes "checksum", .Number f.checksum), (bytes "samples", .Number f.samples),
    (bytes "transcript", .String f.transcript), (bytes "audio_bytes", .Number f.audioBytes)]

lemma text_eq_objectText (f : Fields) : f.text = Json.objectText f.members := by
  have hfirst : bytes "\x7b\"rms\":" = 123 :: 34 :: (bytes "rms" ++ [34, 58]) := by decide
  have hzc : bytes ",\"zero_crossings\":" =
    44 :: 34 :: (bytes "zero_crossings" ++ [34, 58]) := by decide
  have hck : bytes ",\"checksum\":" = 44 :: 34 :: (bytes "checksum" ++ [34, 58]) := by decide
  have hsm : bytes ",\"samples\":" = 44 :: 34 :: (bytes "samples" ++ [34, 58]) := by decide
  have htr : bytes ",\"transcript\":" = 44 :: 34 :: (bytes "transcript" ++ [34, 58]) := by decide
  have hab : bytes ",\"audio_bytes\":" =
    44 :: 34 :: (bytes "audio_bytes" ++ [34, 58]) := by decide
  have hend : bytes "\x7d" = [125] := by decide
  simp only [text, hfirst, hzc, hck, hsm, htr, hab, hend, Json.objectText, members,
    Json.membersText, Json.memberText, Json.Scalar.text, append_assoc, cons_append,
    nil_append, append_nil]

structure Fits (f : Fields) : Prop where
  rms : Json.IsNumber f.rms ∧ ∀ i, integer f.rms = some i → IsNative i
  integers : ∀ t ∈ f.integers, Json.IsNumber t ∧ decimal t < 2 ^ 62
  transcript : ∀ c ∈ f.transcript, 32 ≤ c

def json (float : Bytes → Option F64) (f : Fields) : Json :=
  .Assoc [(bytes "rms", ofNumber float f.rms),
    (bytes "zero_crossings", ofNumber float f.zeroCrossings),
    (bytes "checksum", ofNumber float f.checksum), (bytes "samples", ofNumber float f.samples),
    (bytes "transcript", .String f.transcript), (bytes "audio_bytes", ofNumber float f.audioBytes)]

lemma text_iff {w : Json.Value} (hf : f.Scanned d) : Json.Text f.text w ↔
    (∀ m ∈ f.members, m.2.Valid) ∧ w = .Object (f.members.map fun m => (m.1, m.2.value)) := by
  have hints := hf.integers
  simp only [integers, forall_mem_cons] at hints
  have hraw : ∀ {t}, Json.IsDigits t → (Json.Scalar.Number t).Raw := fun h =>
    ⟨h.1, fun c hc => Json.isNumberChar_of_isDigit (h.2 c hc)⟩
  have hms : ∀ m ∈ f.members, Json.IsKey m.1 ∧ m.2.Raw := by
    simp only [members, forall_mem_cons]
    exact ⟨⟨by decide, hf.rms⟩, ⟨by decide, hraw hints.1⟩, ⟨by decide, hraw hints.2.1⟩,
      ⟨by decide, hraw hints.2.2.1⟩, ⟨by decide, hf.transcript⟩,
      ⟨by decide, hraw hints.2.2.2.1⟩, by simp⟩
  rw [text_eq_objectText]
  exact Json.text_objectText_iff (by simp [members]) hms

lemma fromString_text_iff {v : Json} (hd : d.ReadsJson) (hf : f.Scanned d) :
    d.fromString f.text = .ok v ↔
      (∀ m ∈ f.members, m.2.Valid) ∧ v = f.json d.floatOfString := by
  constructor
  · intro h
    obtain ⟨w, hw, rfl⟩ := hd.sound h
    obtain ⟨hvalid, rfl⟩ := (text_iff hf).mp hw
    exact ⟨hvalid, rfl⟩
  · rintro ⟨hvalid, rfl⟩
    obtain ⟨v, hv⟩ := hd.accepts ((text_iff hf).mpr ⟨hvalid, rfl⟩)
    obtain ⟨w, hw, rfl⟩ := hd.sound hv
    obtain ⟨-, rfl⟩ := (text_iff hf).mp hw
    exact hv

def read (d : Decoders) (f : Fields) : Except String InferResponse := do
  let rms ← readFloat d (ofNumber d.floatOfString f.rms)
  let zeroCrossings ← readInt (ofNumber d.floatOfString f.zeroCrossings)
  let checksum ← readInt (ofNumber d.floatOfString f.checksum)
  let samples ← readInt (ofNumber d.floatOfString f.samples)
  let transcript ← readString (.String f.transcript)
  let audioBytes ← readInt (ofNumber d.floatOfString f.audioBytes)
  pure { rms, zeroCrossings, checksum, samples, transcript, audioBytes }

lemma exists_json_of_ok {r : InferResponse} (h : inferResponseOfString d b = .ok r) :
    ∃ v, d.fromString b = .ok v := by
  cases hv : d.fromString b with
  | error e => simp [inferResponseOfString, hv] at h
  | ok v => exact ⟨v, rfl⟩

lemma inferResponseOfString_of_json (h : d.fromString b = .ok (f.json d.floatOfString)) :
    inferResponseOfString d b = f.read d := by
  rw [inferResponseOfString, h]
  rfl

lemma read_eq_ok_iff {r : InferResponse} (hf : f.Scanned d) : f.read d = .ok r ↔
    (∀ t ∈ f.integers, decimal t < 2 ^ 62) ∧
      ∃ x, readFloat d (ofNumber d.floatOfString f.rms) = .ok x ∧
        r = ⟨x, decimal f.zeroCrossings, decimal f.checksum, decimal f.samples, f.transcript,
          decimal f.audioBytes⟩ := by
  have hints := hf.integers
  simp only [integers, forall_mem_cons] at hints
  obtain ⟨hzc, hck, hsm, hab, -⟩ := hints
  simp only [read, bind_eq_ok, readInt_eq_ok hzc, readInt_eq_ok hck, readInt_eq_ok hsm,
    readInt_eq_ok hab, readString, Except.ok.injEq, integers, forall_mem_cons, pure,
    Except.pure]
  constructor
  · rintro ⟨rms, hrms, _, ⟨hzc', rfl⟩, _, ⟨hck', rfl⟩, _, ⟨hsm', rfl⟩, _, rfl, _, ⟨hab', rfl⟩, rfl⟩
    exact ⟨⟨hzc', hck', hsm', hab', by simp⟩, rms, hrms, rfl⟩
  · rintro ⟨⟨hzc', hck', hsm', hab', -⟩, rms, hrms, rfl⟩
    exact ⟨_, hrms, _, ⟨hzc', rfl⟩, _, ⟨hck', rfl⟩, _, ⟨hsm', rfl⟩, _, rfl, _, ⟨hab', rfl⟩, rfl⟩

end Fields

structure InferResponse.Agrees (r r' : InferResponse) : Prop where
  rms : SameFloat r.rms r'.rms
  zeroCrossings : r.zeroCrossings = r'.zeroCrossings
  checksum : r.checksum = r'.checksum
  samples : r.samples = r'.samples
  transcript : r.transcript = r'.transcript
  audioBytes : r.audioBytes = r'.audioBytes

namespace Fields

variable {f : Fields}

lemma text_injective {g : Fields} (hf : f.Scanned d) (hg : g.Scanned d) (h : f.text = g.text) :
    f = g := by
  have hfints := hf.integers
  have hgints := hg.integers
  simp only [integers, forall_mem_cons] at hfints hgints
  unfold text at h
  obtain ⟨hrms, h⟩ := Json.append_inj_of_run hf.rms.2 hg.rms.2 rfl rfl (append_cancel_left h)
  obtain ⟨hzc, h⟩ := Json.append_inj_of_run hfints.1.2 hgints.1.2 rfl rfl
    (append_cancel_left h)
  obtain ⟨hck, h⟩ := Json.append_inj_of_run hfints.2.1.2 hgints.2.1.2 rfl rfl
    (append_cancel_left h)
  obtain ⟨hsm, h⟩ := Json.append_inj_of_run hfints.2.2.1.2 hgints.2.2.1.2 rfl rfl
    (append_cancel_left h)
  have hplain : ∀ {s : Bytes}, 34 ∉ s → ∀ c ∈ s, decide (c ≠ 34) = true := by
    intro s hs c hc
    exact decide_eq_true fun h => hs (h ▸ hc)
  obtain ⟨htr, h⟩ := Json.append_inj_of_run (hplain hf.transcript.1) (hplain hg.transcript.1)
    (by simp) (by simp) (List.cons.inj (append_cancel_left h)).2
  obtain ⟨hab, -⟩ := Json.append_inj_of_run hfints.2.2.2.1.2 hgints.2.2.2.1.2 rfl rfl
    (append_cancel_left (List.cons.inj h).2)
  cases f
  cases g
  cases hrms
  cases hzc
  cases hck
  cases hsm
  cases htr
  cases hab
  rfl

lemma readFloat_agrees (hd : d.ReadsJson) (hf : f.Scanned d) (hnumber : Json.IsNumber f.rms) :
    (∀ i, integer f.rms = some i → IsNative i) ↔
      ∃ x, readFloat d (ofNumber d.floatOfString f.rms) = .ok x ∧
        SameFloat ((d.floatOfString f.rms).getD 0) x := by
  obtain ⟨x, hx⟩ := Option.isSome_iff_exists.mp hf.float
  simp only [readFloat_ofNumber]
  cases hinteger : integer f.rms with
  | none =>
    refine iff_of_true (by simp) ⟨_, .inr ⟨rfl, rfl⟩, .inl rfl⟩
  | some i =>
    constructor
    · intro h
      refine ⟨_, .inl ⟨i, rfl, h i rfl, rfl⟩, ?_⟩
      rw [hx, Option.getD_some]
      exact hd.floats hnumber hinteger (h i rfl) hx
    · rintro ⟨_, ⟨j, hj, hnative, -⟩ | ⟨hnone, -⟩, -⟩
      · rw [hj]
        exact fun i hi => Option.some.inj hi ▸ hnative
      · cases hnone

lemma agrees_iff (hd : d.ReadsJson) (hf : f.Scanned d) :
    (∃ r, inferResponseOfString d f.text = .ok r ∧ (f.response d).Agrees r) ↔ f.Fits := by
  have hvalid : (∀ m ∈ f.members, m.2.Valid) ↔ Json.IsNumber f.rms ∧
      (∀ t ∈ f.integers, Json.IsNumber t) ∧ ∀ c ∈ f.transcript, 32 ≤ c := by
    simp only [members, integers, forall_mem_cons, Json.Scalar.Valid]
    tauto
  constructor
  · rintro ⟨r, hr, hagrees⟩
    obtain ⟨v, hv⟩ := exists_json_of_ok hr
    obtain ⟨hall, rfl⟩ := (fromString_text_iff hd hf).mp hv
    obtain ⟨hrms, hints, htranscript⟩ := hvalid.mp hall
    rw [inferResponseOfString_of_json hv] at hr
    obtain ⟨hlt, x, hfloat, rfl⟩ := (read_eq_ok_iff hf).mp hr
    exact ⟨⟨hrms, (readFloat_agrees hd hf hrms).mpr ⟨_, hfloat, hagrees.rms⟩⟩,
      fun t ht => ⟨hints t ht, hlt t ht⟩, htranscript⟩
  · rintro ⟨⟨hrms, hnative⟩, hints, htranscript⟩
    have hv := (fromString_text_iff hd hf).mpr
      ⟨hvalid.mpr ⟨hrms, fun t ht => (hints t ht).1, htranscript⟩, rfl⟩
    obtain ⟨x, hx, hsame⟩ := (readFloat_agrees hd hf hrms).mp hnative
    rw [inferResponseOfString_of_json hv]
    refine ⟨_, (read_eq_ok_iff hf).mpr ⟨fun t ht => (hints t ht).2, x, hx, rfl⟩, ?_⟩
    have hwrap : ∀ t ∈ f.integers, wrap (decimal t) = decimal t :=
      fun t ht => wrap_of_lt (hints t ht).2
    exact ⟨hsame, hwrap _ (by simp [integers]), hwrap _ (by simp [integers]),
      hwrap _ (by simp [integers]), rfl, hwrap _ (by simp [integers])⟩

end Fields

/-! ## On a range of bytes -/

lemma inferResponseOfBytesFast_eq {pos len : ℤ} (hb : b.length < 2 ^ 62) (hpos : IsNative pos)
    (hlen : IsNative len) :
    inferResponseOfBytesFast d b pos len =
      match subString b pos len with
      | .ok s => inferResponseOfRange d s
      | .error _ => none := by
  obtain ⟨-, hpos⟩ := hpos
  obtain ⟨-, hlen⟩ := hlen
  unfold inferResponseOfBytesFast subString
  dsimp only
  by_cases hneg : pos < 0 ∨ len < 0
  · rw [if_pos (show pos < 0 ∨ len < 0 ∨ _ by tauto), if_pos (show pos < 0 ∨ len < 0 ∨ _ by tauto)]
  · rw [not_or, not_lt, not_lt] at hneg
    have hfits : pos + len < 2 ^ 62 → wrap (pos + len) = pos + len := by
      intro h
      rw [wrap_eq_bmod, Int.bmod_def]
      split_ifs <;> omega
    by_cases hend : b.length - len < pos
    · rw [if_pos (show pos < 0 ∨ len < 0 ∨ _ from .inr (.inr hend))]
      by_cases hover : pos + len < 2 ^ 62
      · rw [hfits hover, if_pos (by omega)]
      · -- the end wraps to a negative number, and no byte is below it
        have hlimit : wrap (pos + len) < 0 := by
          rw [wrap_eq_bmod, Int.bmod_def]
          split_ifs <;> omega
        rw [if_neg (by omega), Int.toNat_of_nonpos hlimit.le, take_zero, drop_nil]
        rfl
    · rw [hfits (by omega), if_neg (by omega), if_neg (by omega), drop_take,
        show (pos + len).toNat - pos.toNat = len.toNat by omega]

lemma subString_whole (b : Bytes) : subString b 0 b.length = .ok b := by
  simp [subString]

lemma fast_eq_response {f : Fields} (hf : f.Scanned d) (hlen : f.text.length < 2 ^ 62) :
    inferResponseOfBytesFast d f.text 0 f.text.length = some (f.response d) := by
  have hnative : IsNative f.text.length := by
    simp only [IsNative]
    omega
  rw [inferResponseOfBytesFast_eq hlen (by decide) hnative, subString_whole]
  exact inferResponseOfRange_eq_some_iff.mpr ⟨f, rfl, hf, rfl⟩

/-! ## A reader of the grammar -/

lemma numberValue_of_integer {i : ℤ} (h : integer t = some i) : Json.numberValue t = i := by
  have hdigits {ds : Bytes} (hds : ds.all isDigit = true) :
      ds.filter isDigit = ds ∧ (∀ c ∈ ds, lower c ≠ 101 ∧ c ≠ 46) ∧ ds.head? ≠ some 45 := by
    rw [all_eq_true] at hds
    refine ⟨filter_eq_self.mpr hds, fun c hc => ?_, fun hhead => ?_⟩
    · have hdigit := hds c hc
      exact ⟨lower_ne_of_isDigit hdigit (by decide), by rintro rfl; cases hdigit⟩
    · cases hds 45 (mem_of_head? hhead)
  have hplain (hchars : ∀ c ∈ t, lower c ≠ 101 ∧ c ≠ 46) :
      Json.numberValue t = Json.signedDecimal t := by
    have hspan (p : UInt8 → Bool) (hp : ∀ c ∈ t, p c) : t = t.takeWhile p ∧ [] = t.dropWhile p :=
      span_iff.mpr ⟨(append_nil t).symm, hp, rfl⟩
    obtain ⟨htake, hdrop⟩ := hspan (fun c => lower c ≠ 101) fun c hc => by
      simpa using (hchars c hc).1
    obtain ⟨-, hpoint⟩ := hspan (· ≠ 46) fun c hc => by simpa using (hchars c hc).2
    rw [Json.numberValue, ← htake, ← hdrop, ← hpoint]
    simp [Json.signedDecimal, decimal]
  unfold integer at h
  split at h
  case h_1 ds =>
    split_ifs at h with hds
    obtain ⟨hfilter, hchars, -⟩ := hdigits hds
    obtain rfl := Option.some.inj h
    rw [hplain (by simpa [lower] using hchars), Json.signedDecimal, filter_cons_of_neg (by decide),
      hfilter]
    simp
  case h_2 =>
    split_ifs at h with hds
    obtain ⟨hfilter, hchars, hhead⟩ := hdigits hds
    obtain rfl := Option.some.inj h
    rw [hplain hchars, Json.signedDecimal, if_neg hhead, hfilter]
    simp

open Classical in
noncomputable def floatOfNumber (t : Bytes) : Option F64 :=
  if Json.IsNumber t then some (Binary64.bits (Binary64.nearest (Json.numberValue t))) else none

open Classical in
noncomputable def grammarDecoders : Decoders where
  fromString b :=
    if h : ∃ w, Json.Text b w then .ok (ofValue floatOfNumber h.choose) else .error "Json_error"
  floatOfString := floatOfNumber
  floatOfInt i := Binary64.bits (Binary64.nearest i)

lemma grammarDecoders_readsJson : grammarDecoders.ReadsJson where
  accepts := by
    intro b w hw
    exact ⟨_, dif_pos ⟨w, hw⟩⟩
  sound := by
    intro b v h
    by_cases hw : ∃ w, Json.Text b w
    · have hread : grammarDecoders.fromString b = .ok (ofValue floatOfNumber hw.choose) :=
        dif_pos hw
      exact ⟨_, hw.choose_spec, Except.ok.inj (h.symm.trans hread)⟩
    · have hread : grammarDecoders.fromString b = .error "Json_error" := dif_neg hw
      cases h.symm.trans hread
  floats := by
    intro t i f hnumber hi _ hf
    left
    rw [← Option.some.inj ((if_pos hnumber).symm.trans hf), numberValue_of_integer hi]
    rfl

def resultWith (checksum : String) : Fields where
  rms := bytes "0.5"
  zeroCrossings := bytes "12"
  checksum := bytes checksum
  samples := bytes "320"
  transcript := bytes "hello"
  audioBytes := bytes "640"

lemma isNumber_half : Json.IsNumber (bytes "0.5") :=
  ⟨[], [48], [46, 53], [], rfl, .inl rfl, .inl rfl, .inr ⟨[53], rfl, by decide, by decide⟩, .inl rfl⟩

lemma resultWith_scanned {checksum : String} (h : Json.IsDigits (bytes checksum)) :
    (resultWith checksum).Scanned grammarDecoders where
  rms := show bytes "0.5" ≠ [] ∧ ∀ c ∈ bytes "0.5", isNumberChar c by decide
  float := by
    show (floatOfNumber (bytes "0.5")).isSome
    rw [floatOfNumber, if_pos isNumber_half]
    rfl
  integers := by
    simp only [Fields.integers, resultWith, forall_mem_cons]
    exact ⟨⟨by decide, by decide⟩, h, ⟨by decide, by decide⟩, ⟨by decide, by decide⟩, by simp⟩
  transcript := show 34 ∉ bytes "hello" ∧ 92 ∉ bytes "hello" by decide

lemma resultWith_fits : (resultWith "77").Fits where
  rms := ⟨isNumber_half, by
    intro i hi
    cases hi⟩
  integers := by
    have hint : ∀ t ∈ (resultWith "77").integers, Json.IsDigits t ∧ t.head? ≠ some 48 ∧
        decimal t < 2 ^ 62 := by
      unfold Json.IsDigits
      decide
    intro t ht
    obtain ⟨hdigits, hhead, hlt⟩ := hint t ht
    exact ⟨Json.IsInt.isNumber (.inr ⟨hdigits, hhead⟩), hlt⟩
  transcript := by decide

/-! ## The two decoders -/

theorem fast_agrees_iff {pos len : ℤ} (hd : d.ReadsJson) (hb : b.length < 2 ^ 62)
    (hpos : IsNative pos) (hlen : IsNative len) :
    (∀ r, inferResponseOfBytesFast d b pos len = some r →
      ∃ s r', subString b pos len = .ok s ∧ inferResponseOfString d s = .ok r' ∧ r.Agrees r') ↔
    ∀ f : Fields, subString b pos len = .ok f.text → f.Scanned d → f.Fits := by
  rw [inferResponseOfBytesFast_eq hb hpos hlen]
  cases hsub : subString b pos len with
  | error e => simp
  | ok s =>
    constructor
    · intro h f hs hf
      cases hs
      obtain ⟨_, r', hs, hr', hagrees⟩ :=
        h _ (inferResponseOfRange_eq_some_iff.mpr ⟨f, rfl, hf, rfl⟩)
      cases hs
      exact (Fields.agrees_iff hd hf).mp ⟨r', hr', hagrees⟩
    · intro h r hr
      obtain ⟨f, rfl, hf, rfl⟩ := inferResponseOfRange_eq_some_iff.mp hr
      obtain ⟨r', hr', hagrees⟩ := (Fields.agrees_iff hd hf).mpr (h f rfl hf)
      exact ⟨_, r', rfl, hr', hagrees⟩

theorem fast_agrees_iff_result :
    ∃ r r', inferResponseOfBytesFast grammarDecoders (resultWith "77").text 0
        (resultWith "77").text.length = some r ∧
      inferResponseOfString grammarDecoders (resultWith "77").text = .ok r' ∧ r.Agrees r' := by
  have hscanned : (resultWith "77").Scanned grammarDecoders :=
    resultWith_scanned ⟨by decide, by decide⟩
  have hsub := subString_whole (resultWith "77").text
  have hfast := fast_eq_response hscanned (by decide)
  obtain ⟨s, r', hs, hr', hagrees⟩ :=
    (fast_agrees_iff grammarDecoders_readsJson (by decide) (by decide) (by decide)).mpr
      (fun f hf hscan => by
        obtain rfl := Fields.text_injective hscan hscanned (Except.ok.inj (hf.symm.trans hsub))
        exact resultWith_fits) _ hfast
  cases hs.symm.trans hsub
  exact ⟨_, r', hfast, hr', hagrees⟩

theorem wrapped_checksum_refused :
    inferResponseOfBytesFast grammarDecoders (resultWith "4611686018427387904").text 0
        (resultWith "4611686018427387904").text.length =
      some ⟨0x3FE0000000000000, 12, -4611686018427387904, 320, bytes "hello", 640⟩ ∧
    subString (resultWith "4611686018427387904").text 0
        (resultWith "4611686018427387904").text.length =
      .ok (resultWith "4611686018427387904").text ∧
    ∀ r, inferResponseOfString grammarDecoders (resultWith "4611686018427387904").text ≠ .ok r := by
  have hscanned : (resultWith "4611686018427387904").Scanned grammarDecoders :=
    resultWith_scanned ⟨by decide, by decide⟩
  refine ⟨?_, subString_whole _, fun r hr => ?_⟩
  · have hhalf : Binary64.bits (Binary64.nearest (Json.numberValue (bytes "0.5"))) =
        0x3FE0000000000000 := by
      decide +kernel
    have hrms : floatOfNumber (bytes "0.5") = some 0x3FE0000000000000 :=
      (if_pos isNumber_half).trans (congrArg some hhalf)
    have hchecksum : wrap (decimal (bytes "4611686018427387904")) = -4611686018427387904 := by decide
    rw [fast_eq_response hscanned (by decide +kernel)]
    simp only [Fields.response, resultWith, grammarDecoders, hrms, hchecksum]
    rfl
  · obtain ⟨v, hv⟩ := Fields.exists_json_of_ok hr
    obtain ⟨-, rfl⟩ := (Fields.fromString_text_iff grammarDecoders_readsJson hscanned).mp hv
    rw [Fields.inferResponseOfString_of_json hv] at hr
    have hlt := ((Fields.read_eq_ok_iff hscanned).mp hr).1 (bytes "4611686018427387904")
      (by decide)
    exact absurd hlt (by decide)

end SttBench.OxcamlEpoll
