import SttBench.Bench.Analysis
import SttBench.Core.Csv

/-!
# The file of samples

Which transcripts the analyzer reads back from the lines the load generator writes.
-/

namespace SttBench.Loadgen

/-! ## The writer -/

def display (n : ℕ) : List Char := Nat.toDigits 10 n

def writeMillis (micros : ℕ) : List Char :=
  display (micros / 1000) ++ '.' :: List.leftpad 3 '0' (display (micros % 1000))

def samplesCsvHeader : String :=
  "sample_index,session_id,oldest_frame_seq,newest_frame_seq,frames,transcript,audio_bytes," ++
  "newest_latency_ms,oldest_latency_ms,flush_lateness_ms,received_ms\n"

def writeSampleCsvRow (sampleIndex : UInt64) (sample : Sample) : List Char :=
  [display sampleIndex.toNat, display sample.sessionId, display sample.oldestFrameSeq.toNat,
    display sample.newestFrameSeq.toNat, display sample.frames.toNat, sample.transcript.toList,
    display sample.audioBytes.toNat].flatMap (· ++ [',']) ++
  (writeMillis sample.newestUs ++ [',']) ++
  (writeMillis sample.oldestUs ++ [',']) ++
  (writeMillis sample.flushLatenessUs ++ [',']) ++
  (writeMillis sample.receivedUs ++ ['\n'])

def writeRows (partials : UInt64) : List Sample → List Char
  | [] => []
  | sample :: samples => writeSampleCsvRow partials sample ++ writeRows (partials + 1) samples

def samplesCsv (samples : List Sample) : List Char :=
  samplesCsvHeader.toList ++ writeRows 0 samples

structure Sample.IsMachine (s : Sample) : Prop where
  sessionId : s.sessionId < 2 ^ 64
  newestUs : s.newestUs < 2 ^ 64
  oldestUs : s.oldestUs < 2 ^ 64
  flushLatenessUs : s.flushLatenessUs < 2 ^ 64
  receivedUs : s.receivedUs < 2 ^ 64

end SttBench.Loadgen

namespace SttBench.Bench.Analysis

open Python Loadgen List

/-! ## The reader -/

structure DecimalPython extends Interpreter where
  float_decimal : ∀ whole frac : List Char, whole ≠ [] →
    (∀ c ∈ whole ++ frac, c.isDigit = true) →
      float (.ofList (whole ++ '.' :: frac)) =
        .ok (Binary64.nearest (Nat.ofDigitChars 10 (whole ++ frac) 0 / 10 ^ frac.length))
  float_comma : ∀ text : List Char, ',' ∈ text → float (.ofList text) = .error .ValueError

inductive ReadError
  | Csv
  | MissingColumns (missing : List String)
  | Raised (e : Exception)
deriving DecidableEq, Repr

def requiredSampleFields : List String :=
  ["sample_index", "session_id", "oldest_frame_seq", "newest_frame_seq", "frames",
    "newest_latency_ms", "oldest_latency_ms", "flush_lateness_ms", "received_ms"]

def missingFields (fieldnames : List (List Char)) : List String :=
  requiredSampleFields.filter fun field => field.toList ∉ fieldnames

structure SampleColumns where
  newestLatencyMs : List Double
  oldestLatencyMs : List Double
  flushLatenessMs : List Double
deriving DecidableEq

def dictRow (fieldnames row : List (List Char)) (key : String) :
    Except Exception (Option (List Char)) :=
  match (fieldnames.zip (row.map some ++ List.replicate fieldnames.length none)).reverse.lookup
      key.toList with
  | some value => .ok value
  | none => .error .KeyError

section

variable (py : Interpreter)

def floatOf (fieldnames row : List (List Char)) (key : String) : Except Exception Double := do
  match ← dictRow fieldnames row key with
  | some text => py.float (.ofList text)
  | none => .error .TypeError

def readRow (fieldnames row : List (List Char)) : Except Exception (Double × Double × Double) := do
  let newest ← floatOf py fieldnames row "newest_latency_ms"
  let oldest ← floatOf py fieldnames row "oldest_latency_ms"
  let flush ← floatOf py fieldnames row "flush_lateness_ms"
  return (newest, oldest, flush)

def readRows (rows : List (List (List Char))) : Except ReadError SampleColumns :=
  let fieldnames := rows.headD []
  match missingFields fieldnames with
  | [] =>
    match (rows.tail.filter (· ≠ [])).mapM (readRow py fieldnames) with
    | .ok read => .ok ⟨read.map (·.1), read.map (·.2.1), read.map (·.2.2)⟩
    | .error e => .error (.Raised e)
  | missing => .error (.MissingColumns missing)

def readSamples (text : List Char) : Except ReadError SampleColumns :=
  match Csv.rows text with
  | .ok rows => readRows py rows
  | .error (.FieldLimit []) => .error .Csv
  | .error (.FieldLimit rows) => do
      let _ ← readRows py rows
      .error .Csv

end

/-! ## What reading back means -/

def SameMicros : Double → ℕ → Prop
  | .finite q, micros => |q * 1000 - micros| < 1 / 2
  | _, _ => False

instance : (d : Double) → (micros : ℕ) → Decidable (SameMicros d micros)
  | .finite q, micros => inferInstanceAs (Decidable (|q * 1000 - micros| < 1 / 2))
  | .inf _, _ => inferInstanceAs (Decidable False)
  | .nan, _ => inferInstanceAs (Decidable False)

def Exact (micros : ℕ) : Prop := SameMicros (Binary64.nearest (micros / 1000)) micros

instance (micros : ℕ) : Decidable (Exact micros) := inferInstanceAs (Decidable (SameMicros _ _))

theorem exact_of_lt {micros : ℕ} (h : micros < 2 ^ 43 * 1000) : Exact micros := by
  have hx : (micros : ℚ) / 1000 < 2 ^ 43 := by
    rw [div_lt_iff₀ (by norm_num)]
    exact_mod_cast h
  have hnonneg : (0 : ℚ) ≤ micros / 1000 := by positivity
  generalize hxdef : (micros : ℚ) / 1000 = x at hx hnonneg
  have hlog : Int.log 2 |x| ≤ 42 := by
    rw [abs_of_nonneg hnonneg]
    obtain rfl | hpos := hnonneg.eq_or_lt
    · simp
    · have hlt : Int.log 2 x < 43 :=
        (Int.lt_zpow_iff_log_lt one_lt_two hpos).mp (by exact_mod_cast hx)
      omega
  have hulp : Binary64.ulp x ≤ 2 ^ (-10 : ℤ) :=
    zpow_le_zpow_right₀ one_le_two (by omega)
  have herr := Binary64.abs_roundFinite_sub_le_ulp x
  have hround : |Binary64.roundFinite x - x| ≤ 1 / 2 ^ 11 := by
    refine herr.trans ?_
    norm_num at hulp ⊢
    linarith
  have hbound := abs_le.mp hround
  have hfinite : Binary64.nearest x = .finite (Binary64.roundFinite x) := by
    refine if_pos ?_
    rw [abs_of_nonneg (Binary64.roundFinite_nonneg hnonneg)]
    calc Binary64.roundFinite x ≤ 2 ^ 43 + 1 / 2 ^ 11 := by linarith [hbound.2]
      _ < 2 ^ 44 := by norm_num
      _ ≤ 2 ^ 1024 := pow_le_pow_right₀ one_le_two (by norm_num)
  have hmicros : (micros : ℚ) = x * 1000 := by
    rw [← hxdef]
    ring
  show SameMicros (Binary64.nearest (micros / 1000)) micros
  rw [hxdef, hfinite]
  show |Binary64.roundFinite x * 1000 - micros| < 1 / 2
  rw [hmicros, ← sub_mul, abs_mul]
  norm_num at hround ⊢
  linarith

def ReadBack (py : Interpreter) (samples : List Sample) : Prop :=
  ∃ columns, readSamples py (samplesCsv samples) = .ok columns ∧
    List.Forall₂ SameMicros columns.newestLatencyMs (samples.map (·.newestUs)) ∧
    List.Forall₂ SameMicros columns.oldestLatencyMs (samples.map (·.oldestUs)) ∧
    List.Forall₂ SameMicros columns.flushLatenessMs (samples.map (·.flushLatenessUs))

/-! ## Plain cells -/

open Csv Csv.Scanner

lemma kind_of_isDigit {c : Char} (h : c.isDigit = true) : kind c = .other := by
  have hne : c ≠ ',' ∧ c ≠ '"' ∧ c ≠ '\n' ∧ c ≠ '\r' := by
    refine ⟨?_, ?_, ?_, ?_⟩
    all_goals
      rintro rfl
      exact absurd h (by decide)
  simp [kind, hne]

variable {n : ℕ}

lemma isDigit_of_mem_display {c : Char} (h : c ∈ display n) : c.isDigit = true :=
  Nat.isDigit_of_mem_toDigits (by norm_num) le_rfl h

lemma length_display_le (h : n < 2 ^ 64) : (display n).length ≤ 20 :=
  (Nat.length_toDigits_le_iff (by norm_num) (by norm_num)).mpr (by omega)

lemma plain_display (h : n < 2 ^ 64) : Plain (display n) :=
  ⟨Nat.toDigits_ne_nil, fun _ hc => kind_of_isDigit (isDigit_of_mem_display hc),
    (length_display_le h).trans (by decide)⟩

lemma isDigit_of_mem_leftpad {c : Char} (h : c ∈ List.leftpad 3 '0' (display n)) :
    c.isDigit = true := by
  obtain h | h := mem_append.mp h
  · rw [eq_of_mem_replicate h]
    rfl
  · exact isDigit_of_mem_display h

lemma length_leftpad_display (h : n < 1000) :
    (List.leftpad 3 '0' (display n)).length = 3 := by
  have hlength : (display n).length ≤ 3 :=
    (Nat.length_toDigits_le_iff (by norm_num) (by norm_num)).mpr (by omega)
  rw [length_leftpad]
  exact max_eq_left hlength

lemma plain_writeMillis {micros : ℕ} (h : micros < 2 ^ 64) : Plain (writeMillis micros) := by
  have hwhole := plain_display (n := micros / 1000) (by omega)
  refine ⟨by simp [writeMillis], fun c hc => ?_, ?_⟩
  · obtain hc | hc := mem_append.mp hc
    · exact hwhole.2.1 c hc
    · obtain rfl | hc := mem_cons.mp hc
      · rfl
      · exact kind_of_isDigit (isDigit_of_mem_leftpad hc)
  · have hlength := length_display_le (n := micros / 1000) (by omega)
    have hfrac := length_leftpad_display (Nat.mod_lt micros (by norm_num : 1000 > 0))
    rw [writeMillis, length_append, length_cons, hfrac]
    exact (by omega : _ ≤ 24).trans (by decide)

lemma float_writeMillis (py : DecimalPython) (micros : ℕ) :
    py.float (.ofList (writeMillis micros)) = .ok (Binary64.nearest (micros / 1000)) := by
  have hfrac := length_leftpad_display (Nat.mod_lt micros (by norm_num : 1000 > 0))
  have hdigits : ∀ c ∈ display (micros / 1000) ++ List.leftpad 3 '0' (display (micros % 1000)),
      c.isDigit = true := by
    intro c hc
    obtain hc | hc := mem_append.mp hc
    · exact isDigit_of_mem_display hc
    · exact isDigit_of_mem_leftpad hc
  rw [writeMillis, py.float_decimal (display (micros / 1000)) _ Nat.toDigits_ne_nil hdigits, hfrac]
  have hpadded :
      Nat.ofDigitChars 10 (List.leftpad 3 '0' (display (micros % 1000))) 0 = micros % 1000 := by
    rw [List.leftpad, Nat.ofDigitChars_append, Nat.ofDigitChars_replicate_zero, Nat.mul_zero]
    exact Nat.ofDigitChars_ten_toDigits
  have hvalue : Nat.ofDigitChars 10
      (display (micros / 1000) ++ List.leftpad 3 '0' (display (micros % 1000))) 0 = micros := by
    rw [Nat.ofDigitChars_append, Nat.ofDigitChars_eq_ofDigitChars_zero, hfrac, hpadded, display,
      Nat.ofDigitChars_ten_toDigits]
    exact Nat.div_add_mod micros 1000
  rw [hvalue]
  norm_num

/-! ## A row and the file -/

def sampleFields : List (List Char) :=
  ["sample_index", "session_id", "oldest_frame_seq", "newest_frame_seq", "frames", "transcript",
    "audio_bytes", "newest_latency_ms", "oldest_latency_ms", "flush_lateness_ms",
    "received_ms"].map String.toList

lemma run_samplesCsvHeader :
    start.run samplesCsvHeader.toList = .ok ⟨⟨[sampleFields], [], []⟩, .StartRecord⟩ := by
  decide +kernel

def cellsBefore (sampleIndex : UInt64) (s : Sample) : List (List Char) :=
  [display sampleIndex.toNat, display s.sessionId, display s.oldestFrameSeq.toNat,
    display s.newestFrameSeq.toNat, display s.frames.toNat]

def cellsAfter (s : Sample) : List (List Char) :=
  [display s.audioBytes.toNat, writeMillis s.newestUs, writeMillis s.oldestUs,
    writeMillis s.flushLatenessUs]

variable {py : DecimalPython} {sampleIndex : UInt64} {s : Sample} {samples : List Sample}
  {R : List (List (List Char))}

lemma writeSampleCsvRow_eq (sampleIndex : UInt64) (s : Sample) :
    writeSampleCsvRow sampleIndex s =
      (cellsBefore sampleIndex s).flatMap (· ++ [',']) ++
        ((s.transcript.toList ++ [',']) ++
          ((cellsAfter s).flatMap (· ++ [',']) ++ (writeMillis s.receivedUs ++ ['\n']))) := by
  simp [writeSampleCsvRow, cellsBefore, cellsAfter]

lemma plain_cellsBefore (hs : s.IsMachine) (w : List Char) (hw : w ∈ cellsBefore sampleIndex s) :
    Plain w := by
  simp only [cellsBefore, mem_cons, not_mem_nil, or_false] at hw
  obtain rfl | rfl | rfl | rfl | rfl := hw
  · exact plain_display (UInt64.toNat_lt _)
  · exact plain_display hs.sessionId
  all_goals exact plain_display (UInt64.toNat_lt _)

lemma plain_cellsAfter (hs : s.IsMachine) (w : List Char) (hw : w ∈ cellsAfter s) :
    Plain w := by
  simp only [cellsAfter, mem_cons, not_mem_nil, or_false] at hw
  obtain rfl | rfl | rfl | rfl := hw
  · exact plain_display (UInt64.toNat_lt _)
  · exact plain_writeMillis hs.newestUs
  · exact plain_writeMillis hs.oldestUs
  · exact plain_writeMillis hs.flushLatenessUs

lemma run_cellsBefore (hs : s.IsMachine) :
    run ⟨⟨R, [], []⟩, .StartRecord⟩ ((cellsBefore sampleIndex s).flatMap (· ++ [','])) =
      .ok ⟨⟨R, cellsBefore sampleIndex s, []⟩, .StartField⟩ := by
  have hplain : ∀ w ∈ cellsBefore sampleIndex s, Plain w := plain_cellsBefore hs
  obtain ⟨hindex, hcells⟩ := forall_mem_cons.mp hplain
  rw [cellsBefore, flatMap_cons, run_append_of_ok (run_plain_comma (.inl rfl) hindex),
    run_plain_commas hcells]
  rfl

def cells (sampleIndex : UInt64) (s : Sample) (w : List Char) : List (List Char) :=
  cellsBefore sampleIndex s ++ w :: cellsAfter s ++ [writeMillis s.receivedUs]

lemma run_writeSampleCsvRow (hs : s.IsMachine) {w : List Char}
    (hw : content s.transcript.toList = some w) (hlength : w.length ≤ fieldLimit) :
    run ⟨⟨R, [], []⟩, .StartRecord⟩ (writeSampleCsvRow sampleIndex s) =
      .ok ⟨⟨R ++ [cells sampleIndex s w], [], []⟩, .StartRecord⟩ := by
  rw [writeSampleCsvRow_eq, run_append_of_ok (run_cellsBefore hs),
    run_append_of_ok (run_oneField hw hlength),
    run_append_of_ok (run_plain_commas (plain_cellsAfter hs)),
    run_plain_lf (plain_writeMillis hs.receivedUs)]
  simp [cells]

structure ReadsAs (row : List (List Char)) (s : Sample) : Prop where
  newest : row[7]? = some (writeMillis s.newestUs)
  oldest : row[8]? = some (writeMillis s.oldestUs)
  flush : row[9]? = some (writeMillis s.flushLatenessUs)

lemma run_writeRows (partials : UInt64)
    (h : ∀ s ∈ samples, s.IsMachine ∧ OneField s.transcript.toList) :
    ∃ rows, run ⟨⟨R, [], []⟩, .StartRecord⟩ (writeRows partials samples) =
        .ok ⟨⟨R ++ rows, [], []⟩, .StartRecord⟩ ∧
      [] ∉ rows ∧ List.Forall₂ ReadsAs rows samples := by
  induction samples generalizing R partials with
  | nil => exact ⟨[], by simp [writeRows], by simp, .nil⟩
  | cons s samples ih =>
    obtain ⟨⟨hs, w, hw, hlength⟩, hsamples⟩ := forall_mem_cons.mp h
    obtain ⟨rows, hrun, hne, hrows⟩ := ih (R := R ++ [cells partials s w]) (partials + 1) hsamples
    refine ⟨cells partials s w :: rows, ?_, ?_, .cons ⟨rfl, rfl, rfl⟩ hrows⟩
    · rw [writeRows, run_append_of_ok (run_writeSampleCsvRow hs hw hlength), hrun,
        append_assoc]
      rfl
    · simp [cells, hne]

/-! ## What the reader makes of rows -/

lemma lookup_zip_reverse {names : List (List Char)} {α : Type} {values : List α} {key : List Char}
    {i : ℕ} (hnodup : names.Nodup) (hkey : names[i]? = some key)
    (hlength : names.length ≤ values.length) :
    (names.zip values).reverse.lookup key = values[i]? := by
  induction names generalizing values i with
  | nil => simp at hkey
  | cons name names ih =>
    obtain ⟨hname, hnodup⟩ := nodup_cons.mp hnodup
    cases values with
    | nil => simp at hlength
    | cons value values =>
      have hlength : names.length ≤ values.length := by simpa using hlength
      rw [zip_cons_cons, reverse_cons, lookup_append]
      cases i with
      | zero =>
        obtain rfl : name = key := by simpa using hkey
        have hnone : (names.zip values).reverse.lookup name = none := by
          rw [lookup_eq_none_iff]
          rintro ⟨name', value'⟩ hmem
          have hmem := (of_mem_zip (mem_reverse.mp hmem)).1
          simpa using fun heq : name = name' => hname (heq ▸ hmem)
        simp [hnone]
      | succ i =>
        have hkey : names[i]? = some key := by simpa using hkey
        have hi : i < values.length :=
          (List.getElem?_eq_some_iff.mp hkey).1.trans_le hlength
        simp [ih hnodup hkey hlength, hi]

lemma dictRow_eq {fieldnames row : List (List Char)} {key : String} {i : ℕ}
    (hnodup : fieldnames.Nodup) (hkey : fieldnames[i]? = some key.toList) :
    dictRow fieldnames row key = .ok row[i]? := by
  have hi : i < fieldnames.length := (List.getElem?_eq_some_iff.mp hkey).1
  have hvalue : (row.map some ++ List.replicate fieldnames.length none)[i]? = some row[i]? := by
    by_cases hrow : i < row.length
    · rw [List.getElem?_append_left (by simpa using hrow)]
      simp [hrow]
    · rw [List.getElem?_append_right (by simpa using hrow)]
      simp [List.getElem?_replicate, List.getElem?_eq_none (not_lt.mp hrow)]
      omega
  rw [dictRow, lookup_zip_reverse hnodup hkey (by simp), hvalue]

lemma nodup_sampleFields : sampleFields.Nodup := by decide +kernel

lemma floatOf_eq (py : Interpreter) {row : List (List Char)} {key : String} {i : ℕ}
    (hkey : sampleFields[i]? = some key.toList) :
    floatOf py sampleFields row key =
      match row[i]? with
      | some text => py.float (.ofList text)
      | none => .error .TypeError := by
  rw [floatOf, dictRow_eq nodup_sampleFields hkey]
  rfl

lemma ReadsAs.readRow {row : List (List Char)} (h : ReadsAs row s) :
    readRow py.toInterpreter sampleFields row =
      .ok (Binary64.nearest (s.newestUs / 1000), Binary64.nearest (s.oldestUs / 1000),
        Binary64.nearest (s.flushLatenessUs / 1000)) := by
  rw [Analysis.readRow, floatOf_eq _ (by decide +kernel : sampleFields[7]? = _), h.newest,
    floatOf_eq _ (by decide +kernel : sampleFields[8]? = _), h.oldest,
    floatOf_eq _ (by decide +kernel : sampleFields[9]? = _), h.flush]
  simp only [float_writeMillis]
  rfl

lemma floatOf_of_readRow {py : Interpreter} {fieldnames row : List (List Char)}
    {d : Double × Double × Double} (h : readRow py fieldnames row = .ok d) :
    floatOf py fieldnames row "newest_latency_ms" = .ok d.1 := by
  unfold readRow at h
  cases hnewest : floatOf py fieldnames row "newest_latency_ms" with
  | error e =>
    rw [hnewest] at h
    cases h
  | ok newest =>
    cases holdest : floatOf py fieldnames row "oldest_latency_ms" with
    | error e =>
      rw [hnewest, holdest] at h
      cases h
    | ok oldest =>
      cases hflush : floatOf py fieldnames row "flush_lateness_ms" with
      | error e =>
        rw [hnewest, holdest, hflush] at h
        cases h
      | ok flush =>
        rw [hnewest, holdest, hflush] at h
        cases h
        rfl

lemma filter_ne_nil {rows : List (List (List Char))} (h : [] ∉ rows) :
    rows.filter (· ≠ []) = rows := by
  rw [filter_eq_self]
  intro row hrow
  exact decide_eq_true (ne_of_mem_of_not_mem hrow h)

lemma readRows_sampleFields (py : Interpreter) (rows : List (List (List Char))) :
    readRows py (sampleFields :: rows) =
      match (rows.filter (· ≠ [])).mapM (readRow py sampleFields) with
      | .ok read => .ok ⟨read.map (·.1), read.map (·.2.1), read.map (·.2.2)⟩
      | .error e => .error (.Raised e) := by
  have hmissing : missingFields sampleFields = [] := by decide +kernel
  simp [readRows, hmissing]

lemma readSamples_samplesCsv (h : ∀ s ∈ samples, s.IsMachine ∧ OneField s.transcript.toList) :
    readSamples py.toInterpreter (samplesCsv samples) =
      .ok ⟨samples.map fun s => Binary64.nearest (s.newestUs / 1000),
        samples.map fun s => Binary64.nearest (s.oldestUs / 1000),
        samples.map fun s => Binary64.nearest (s.flushLatenessUs / 1000)⟩ := by
  obtain ⟨rows, hrun, hne, hrows⟩ := run_writeRows (R := [sampleFields]) 0 h
  have htext : Csv.rows (samplesCsv samples) = .ok (sampleFields :: rows) := by
    rw [Csv.rows, samplesCsv, complete_append_of_ok run_samplesCsvHeader, complete, hrun]
    rfl
  have hread : rows.mapM (readRow py.toInterpreter sampleFields) =
      .ok (samples.map fun s => (Binary64.nearest (s.newestUs / 1000),
        Binary64.nearest (s.oldestUs / 1000), Binary64.nearest (s.flushLatenessUs / 1000))) := by
    rw [mapM_eq_ok_iff, forall₂_map_right_iff]
    exact hrows.imp fun row s h => h.readRow
  simp only [readSamples, htext, readRows_sampleFields, filter_ne_nil hne, hread, map_map]
  rfl

/-! ## Which files are read back -/

lemma readBack_iff_of_oneField (h : ∀ s ∈ samples, s.IsMachine ∧ OneField s.transcript.toList) :
    ReadBack py.toInterpreter samples ↔
      ∀ s ∈ samples, Exact s.newestUs ∧ Exact s.oldestUs ∧ Exact s.flushLatenessUs := by
  have hcolumn (us : Sample → ℕ) :
      List.Forall₂ SameMicros (samples.map fun s => Binary64.nearest (us s / 1000))
        (samples.map us) ↔ ∀ s ∈ samples, Exact (us s) := by
    rw [forall₂_map_left_iff, forall₂_map_right_iff, forall₂_same]
    rfl
  constructor
  · rintro ⟨columns, hread, hnewest, holdest, hflush⟩
    obtain rfl := Except.ok.inj ((readSamples_samplesCsv h).symm.trans hread)
    intro s hs
    exact ⟨(hcolumn _).mp hnewest s hs, (hcolumn _).mp holdest s hs, (hcolumn _).mp hflush s hs⟩
  · intro hexact
    refine ⟨_, readSamples_samplesCsv h, ?_, ?_, ?_⟩
    · exact (hcolumn _).mpr fun s hs => (hexact s hs).1
    · exact (hcolumn _).mpr fun s hs => (hexact s hs).2.1
    · exact (hcolumn _).mpr fun s hs => (hexact s hs).2.2

section Astray

variable {t : String} {before : List String} {rest : List Char}

def sampleOfTranscript (newestUs : ℕ) (transcript : String) : Sample where
  sessionId := 0
  oldestFrameSeq := 0
  newestFrameSeq := 0
  frames := 0
  transcript
  audioBytes := 0
  newestUs
  oldestUs := 0
  flushLatenessUs := 0
  receivedUs := 0

lemma isMachine_sampleOfTranscript {newestUs : ℕ} (h : newestUs < 2 ^ 64) (t : String) :
    (sampleOfTranscript newestUs t).IsMachine :=
  ⟨Nat.two_pow_pos 64, h, Nat.two_pow_pos 64, Nat.two_pow_pos 64, Nat.two_pow_pos 64⟩

lemma writeRows_append (partials : UInt64) (samples samples' : List Sample) :
    writeRows partials (samples ++ samples') =
      writeRows partials samples ++ writeRows (partials + .ofNat samples.length) samples' := by
  induction samples generalizing partials with
  | nil => simp [writeRows]
  | cons s samples ih =>
    rw [cons_append, writeRows, writeRows, ih, append_assoc, length_cons,
      UInt64.ofNat_add, UInt64.add_assoc, UInt64.add_comm 1]
    rfl

lemma forall₂_getElem? {α β : Type} {r : α → β → Prop} {as : List α} {bs : List β}
    (h : List.Forall₂ r as bs) {i : ℕ} {a : α} (ha : as[i]? = some a) :
    ∃ b, bs[i]? = some b ∧ r a b := by
  induction h generalizing i with
  | nil => simp at ha
  | @cons a' b' as bs hab _ ih =>
    cases i with
    | zero =>
      obtain rfl : a' = a := by simpa using ha
      exact ⟨b', rfl, hab⟩
    | succ i => exact ih (by simpa using ha)

lemma newest_of_readSamples {py : Interpreter} {text : List Char} {T : Table}
    {rows : List (List (List Char))} {columns : SampleColumns}
    (htext : start.complete text = .ok T) (hT : T.rows = sampleFields :: rows)
    (hread : readSamples py text = .ok columns) :
    List.Forall₂ (fun d row => ∃ w, row[7]? = some w ∧ py.float (.ofList w) = .ok d)
      columns.newestLatencyMs (rows.filter (· ≠ [])) := by
  have hrows : Csv.rows text = .ok (sampleFields :: rows) := by
    rw [Csv.rows, htext]
    exact congrArg Except.ok hT
  simp only [readSamples, hrows, readRows_sampleFields] at hread
  split at hread
  case h_2 => cases hread
  case h_1 read hmap =>
    cases hread
    rw [forall₂_map_left_iff]
    refine (mapM_eq_ok_iff.mp hmap).flip.imp fun d row hrow => ?_
    have hnewest : floatOf py sampleFields row "newest_latency_ms" = .ok d.1 :=
      floatOf_of_readRow hrow
    rw [floatOf_eq py (by decide +kernel : sampleFields[7]? = _)] at hnewest
    split at hnewest
    case h_2 => cases hnewest
    case h_1 w hw => exact ⟨w, hw, hnewest⟩

lemma complete_of_readSamples {py : Interpreter} {text : List Char} {columns : SampleColumns}
    (hread : readSamples py text = .ok columns) : ∃ T, start.complete text = .ok T := by
  cases hT : start.complete text with
  | ok T => exact ⟨T, rfl⟩
  | error e =>
    obtain ⟨rows⟩ := e
    have hrows : Csv.rows text = .error (.FieldLimit rows) := by
      rw [Csv.rows, hT]
      rfl
    rw [readSamples, hrows] at hread
    cases rows with
    | nil => cases hread
    | cons fieldnames rows =>
      cases hrest : readRows py (fieldnames :: rows) with
      | error e | ok columns => simp [hrest, bind, Except.bind] at hread

def oneLatency (before after : List String) (t : String) (newestUs : ℕ) : List Sample :=
  before.map (sampleOfTranscript 0) ++
    sampleOfTranscript newestUs t :: after.map (sampleOfTranscript 0)

lemma cell_of_readBack {text text' : List Char} {n : ℕ}
    {rows : List (List (List Char))} {F : List (List Char)}
    (htext : samplesCsv samples = text ++ text')
    (hrun : start.run text = .ok ⟨⟨sampleFields :: rows, F, []⟩, .StartField⟩)
    (hne : [] ∉ rows) (hF : F ≠ []) (hn : (samples.map (·.newestUs))[rows.length]? = some n)
    (h : ReadBack py.toInterpreter samples) :
    ∃ T w d, complete ⟨⟨sampleFields :: rows, F, []⟩, .StartField⟩ text' = .ok T ∧
      T.cell (rows.length + 1) 7 = some w ∧ py.float (.ofList w) = .ok d ∧ SameMicros d n := by
  obtain ⟨columns, hread, hnewest, -⟩ := h
  obtain ⟨T, hT⟩ := complete_of_readSamples hread
  obtain ⟨d, hd, hsame⟩ := forall₂_getElem? hnewest.flip hn
  have hrest : complete ⟨⟨sampleFields :: rows, F, []⟩, .StartField⟩ text' = .ok T := by
    rw [← complete_append_of_ok hrun, ← htext]
    exact hT
  obtain ⟨hrows, -⟩ | ⟨more, S, hrows⟩ := extends_complete hrest
  · -- the row has not been read to its end
    obtain ⟨row, hrow, -⟩ := forall₂_getElem? (newest_of_readSamples hT hrows hread) hd
    rw [filter_ne_nil hne] at hrow
    simp at hrow
  · have hrows : T.rows = sampleFields :: (rows ++ (F ++ more) :: S) := hrows
    obtain ⟨row, hrow, w, hw, hfloat⟩ := forall₂_getElem? (newest_of_readSamples hT hrows hread) hd
    have hne' : F ++ more ≠ [] := append_ne_nil_of_left_ne_nil hF more
    rw [filter_append, filter_ne_nil hne, filter_cons, if_pos (decide_eq_true hne')]
      at hrow
    obtain rfl : F ++ more = row := by simpa using hrow
    refine ⟨T, w, d, hrest, ?_, hfloat, hsame⟩
    rw [Table.cell, hrows]
    simpa using hw

def textBefore (partials : UInt64) (before : List String) (t : String) : List Char :=
  writeRows partials (before.map (sampleOfTranscript 0)) ++
    (cellsBefore (partials + .ofNat before.length) (sampleOfTranscript 0 t)).flatMap (· ++ [','])

def textAfter (partials : UInt64) (before after : List String) : List Char :=
  [','] ++ (writeMillis 0 ++ [',']) ++ (writeMillis 0 ++ [',']) ++ (writeMillis 0 ++ ['\n']) ++
    writeRows (partials + .ofNat before.length + 1) (after.map (sampleOfTranscript 0))

lemma writeRows_oneLatency (partials : UInt64) (before after : List String) (t : String) {n : ℕ}
    {c : Char} (hn : writeMillis n = ['0', '.', '0', '0', c]) :
    writeRows partials (oneLatency before after t n) =
      textBefore partials before t ++
        (t.toList ++ (',' :: ['0'] ++ ',' :: ['0', '.', '0', '0']) ++
          c :: textAfter partials before after) := by
  have hdisplay : display 0 = ['0'] := by decide
  have hbefore (i : UInt64) :
      cellsBefore i (sampleOfTranscript n t) = cellsBefore i (sampleOfTranscript 0 t) := rfl
  rw [oneLatency, writeRows_append, length_map, writeRows, writeSampleCsvRow_eq, hbefore]
  simp [textBefore, textAfter, cellsAfter, sampleOfTranscript, hn, hdisplay]

lemma run_textBefore (hbefore : ∀ t ∈ before, OneField t.toList) (t : String) :
    ∃ rows, [] ∉ rows ∧ rows.length = before.length ∧
      start.run (samplesCsvHeader.toList ++ textBefore 0 before t) =
        .ok ⟨⟨sampleFields :: rows, cellsBefore (0 + .ofNat before.length) (sampleOfTranscript 0 t),
          []⟩, .StartField⟩ := by
  have hsamples : ∀ s ∈ before.map (sampleOfTranscript 0),
      s.IsMachine ∧ OneField s.transcript.toList := by
    intro s hs
    obtain ⟨t', ht', rfl⟩ := mem_map.mp hs
    exact ⟨isMachine_sampleOfTranscript (by norm_num) t', hbefore t' ht'⟩
  obtain ⟨rows, hrun, hne, hrows⟩ := run_writeRows (R := [sampleFields]) 0 hsamples
  refine ⟨rows, hne, by simpa using hrows.length_eq, ?_⟩
  rw [textBefore, run_append_of_ok run_samplesCsvHeader, run_append_of_ok hrun]
  exact run_cellsBefore (isMachine_sampleOfTranscript (by norm_num) t)

lemma not_sameMicros_two {d : Double} (h : SameMicros d 1) : ¬ SameMicros d 2 := by
  cases d with
  | finite q =>
    intro h'
    have h := abs_lt.mp h
    have h' := abs_lt.mp h'
    push_cast at h h'
    linarith [h.2, h'.1]
  | inf negative | nan => exact h.elim

lemma not_readBack_both {before after : List String}
    (hbefore : ∀ t ∈ before, OneField t.toList) (ht : ¬ OneField t.toList) :
    ¬ (ReadBack py.toInterpreter (oneLatency before after t 1) ∧
      ReadBack py.toInterpreter (oneLatency before after t 2)) := by
  rintro ⟨h₁, h₂⟩
  obtain ⟨rows, hne, hlength, hrun⟩ := run_textBefore hbefore t
  have hlatency (n : ℕ) :
      ((oneLatency before after t n).map (·.newestUs))[rows.length]? = some n := by
    simp [oneLatency, sampleOfTranscript, hlength]
  have htext {n : ℕ} {c : Char} (hn : writeMillis n = ['0', '.', '0', '0', c]) :
      samplesCsv (oneLatency before after t n) =
        samplesCsvHeader.toList ++ textBefore 0 before t ++
          (t.toList ++ (',' :: ['0'] ++ ',' :: ['0', '.', '0', '0']) ++
            c :: textAfter 0 before after) := by
    rw [samplesCsv, writeRows_oneLatency 0 before after t hn]
    exact (append_assoc _ _ _).symm
  obtain ⟨A, w, d, hA, hw, hd, hsame⟩ := cell_of_readBack
    (htext (n := 1) (c := '1') (by decide)) hrun hne (cons_ne_nil _ _) (hlatency 1) h₁
  obtain ⟨B, w', d', hB, hw', hd', hsame'⟩ := cell_of_readBack
    (htext (n := 2) (c := '2') (by decide)) hrun hne (cons_ne_nil _ _) (hlatency 2) h₂
  obtain ⟨s, hs, hA⟩ := complete_append_eq_ok hA
  obtain ⟨s', hs', hB⟩ := complete_append_eq_ok hB
  cases hs.symm.trans hs'
  -- the transcript takes the machine astray, and the cells up to the latency leave it so
  have hastray : s.Astray (rows.length + 1) 7 := by
    obtain ⟨s₁, ht₁, hs⟩ := run_append_eq_ok hs
    obtain ⟨s₂, h₂, hs⟩ := run_append_eq_ok hs
    exact (((run_not_oneField ht ht₁).run_comma (by decide) h₂).strayed).run_comma (by decide) hs
  obtain hcell | ⟨w'', hcell, hcomma⟩ := hastray.cell_eq (by decide) (by decide) _ hA hB
  · obtain rfl : w = w' := Option.some.inj (hw.symm.trans (hcell.trans hw'))
    cases hd.symm.trans hd'
    exact absurd hsame' (not_sameMicros_two hsame)
  · cases hw.symm.trans hcell
    rw [py.float_comma w hcomma] at hd
    cases hd

lemma map_transcript_oneLatency (before after : List String) (t : String) (n : ℕ) :
    (oneLatency before after t n).map (·.transcript) = before ++ t :: after := by
  have hzero (ts : List String) : (ts.map (sampleOfTranscript 0)).map (·.transcript) = ts := by
    rw [map_map]
    exact map_id ts
  rw [oneLatency, map_append, map_cons, hzero, hzero]
  rfl

lemma exact_oneLatency {n : ℕ} (hn : n < 10) (before after : List String) (t : String) :
    ∀ s ∈ oneLatency before after t n, s.IsMachine ∧
      Exact s.newestUs ∧ Exact s.oldestUs ∧ Exact s.flushLatenessUs := by
  have hsample (n : ℕ) (hn : n < 10) (t : String) : (sampleOfTranscript n t).IsMachine ∧
      Exact n ∧ Exact 0 ∧ Exact 0 :=
    ⟨isMachine_sampleOfTranscript (by omega) t, exact_of_lt (by omega),
      exact_of_lt (by norm_num), exact_of_lt (by norm_num)⟩
  intro s hs
  simp only [oneLatency, mem_append, mem_map, mem_cons] at hs
  obtain ⟨t', -, rfl⟩ | rfl | ⟨t', -, rfl⟩ := hs
  · exact hsample 0 (by norm_num) t'
  · exact hsample n hn t
  · exact hsample 0 (by norm_num) t'

end Astray

theorem samplesCsv_read_back_iff (py : DecimalPython) (transcripts : List String) :
    (∀ samples : List Sample, samples.map (·.transcript) = transcripts →
      (∀ s ∈ samples, s.IsMachine) →
        (ReadBack py.toInterpreter samples ↔
          ∀ s ∈ samples, Exact s.newestUs ∧ Exact s.oldestUs ∧ Exact s.flushLatenessUs)) ↔
      ∀ t ∈ transcripts, OneField t.toList := by
  constructor
  · intro h
    classical
    by_contra hbad
    -- the first transcript that is not a field
    obtain ⟨t, hfind⟩ :
        ∃ t, transcripts.find? (fun t : String => decide (¬ OneField t.toList)) = some t := by
      rw [← Option.isSome_iff_exists, List.find?_isSome]
      simpa using hbad
    obtain ⟨ht, before, after, rfl, hbefore⟩ := List.find?_eq_some_iff_append.mp hfind
    have hread (n : ℕ) (hn : n < 10) :
        ReadBack py.toInterpreter (oneLatency before after t n) := by
      have hsamples := exact_oneLatency hn before after t
      exact (h _ (map_transcript_oneLatency before after t n) fun s hs => (hsamples s hs).1).mpr
        fun s hs => (hsamples s hs).2
    exact not_readBack_both (fun t ht => by simpa using hbefore t ht) (of_decide_eq_true ht)
      ⟨hread 1 (by norm_num), hread 2 (by norm_num)⟩
  · rintro h samples rfl hmachine
    exact readBack_iff_of_oneField fun s hs =>
      ⟨hmachine s hs, h s.transcript (mem_map_of_mem hs)⟩

/-! ## A transcript with a comma -/

def floatOfDigits (s : String) : Except Exception Double :=
  let whole := s.toList.takeWhile Char.isDigit
  match s.toList.dropWhile Char.isDigit with
  | [] =>
    if whole = [] then .error .ValueError
    else .ok (Binary64.nearest (Nat.ofDigitChars 10 whole 0))
  | point :: frac =>
    if whole ≠ [] ∧ point = '.' ∧ ∀ c ∈ frac, c.isDigit = true then
      .ok (Binary64.nearest (Nat.ofDigitChars 10 (whole ++ frac) 0 / 10 ^ frac.length))
    else .error .ValueError

lemma floatOfDigits_decimal (whole frac : List Char) (hwhole : whole ≠ [])
    (hdigits : ∀ c ∈ whole ++ frac, c.isDigit = true) :
    floatOfDigits (.ofList (whole ++ '.' :: frac)) =
      .ok (Binary64.nearest (Nat.ofDigitChars 10 (whole ++ frac) 0 / 10 ^ frac.length)) := by
  have htake : (whole ++ '.' :: frac).takeWhile Char.isDigit = whole := by
    rw [takeWhile_append_of_pos fun c hc => hdigits c (mem_append_left _ hc)]
    simp
  have hdrop : (whole ++ '.' :: frac).dropWhile Char.isDigit = '.' :: frac := by
    rw [dropWhile_append_of_pos fun c hc => hdigits c (mem_append_left _ hc)]
    simp
  simp only [floatOfDigits, String.toList_ofList, htake, hdrop]
  exact if_pos ⟨hwhole, trivial, fun c hc => hdigits c (mem_append_right _ hc)⟩

lemma floatOfDigits_comma (text : List Char) (h : ',' ∈ text) :
    floatOfDigits (.ofList text) = .error .ValueError := by
  have hsplit : text.takeWhile Char.isDigit ++ text.dropWhile Char.isDigit = text :=
    takeWhile_append_dropWhile
  have hrest : ',' ∈ text.dropWhile Char.isDigit := by
    rw [← hsplit] at h
    refine (mem_append.mp h).resolve_left fun hmem => ?_
    exact absurd (all_eq_true.mp all_takeWhile ',' hmem) (by decide)
  simp only [floatOfDigits, String.toList_ofList]
  split
  case h_1 hdrop => simp [hdrop] at hrest
  case h_2 point frac hdrop =>
    rw [hdrop] at hrest
    refine if_neg ?_
    rintro ⟨-, rfl, hfrac⟩
    obtain hpoint | hmem := mem_cons.mp hrest
    · exact absurd hpoint (by decide)
    · exact absurd (hfrac ',' hmem) (by decide)

def decimalPython : DecimalPython where
  fl := Binary64.nearest
  format _ _ := ""
  repr s := s
  loads _ := .error ""
  isdigit _ := false
  int _ := .error .ValueError
  float := floatOfDigits
  float_decimal := floatOfDigits_decimal
  float_comma := floatOfDigits_comma

def testSample (transcript : String) : Sample where
  sessionId := 7
  oldestFrameSeq := 2
  newestFrameSeq := 4
  frames := 3
  transcript
  audioBytes := 1920
  newestUs := 12345
  oldestUs := 67890
  flushLatenessUs := 1200
  receivedUs := 250500

theorem testSample_read_back : ReadBack decimalPython.toInterpreter [testSample "now"] := by
  have hfield : ∀ t ∈ ["now"], OneField t.toList := by
    intro t ht
    obtain rfl := mem_singleton.mp ht
    exact ⟨['n', 'o', 'w'], by decide +kernel, by decide⟩
  refine ((samplesCsv_read_back_iff decimalPython ["now"]).mpr hfield [testSample "now"] rfl
    ?_).mpr ?_
  · intro s hs
    obtain rfl := mem_singleton.mp hs
    exact ⟨by decide, by decide, by decide, by decide, by decide⟩
  · intro s hs
    obtain rfl := mem_singleton.mp hs
    exact ⟨exact_of_lt (by decide), exact_of_lt (by decide), exact_of_lt (by decide)⟩

theorem comma_moves_columns :
    readSamples decimalPython.toInterpreter (samplesCsv [testSample "no, now"]) =
        .ok ⟨[.finite 1920], [Binary64.nearest (12345 / 1000)],
          [Binary64.nearest (67890 / 1000)]⟩ ∧
      ¬ ReadBack decimalPython.toInterpreter [testSample "no, now"] := by
  have hread : readSamples decimalPython.toInterpreter (samplesCsv [testSample "no, now"]) =
      .ok ⟨[.finite 1920], [Binary64.nearest (12345 / 1000)],
        [Binary64.nearest (67890 / 1000)]⟩ := by
    decide +kernel
  refine ⟨hread, ?_⟩
  rintro ⟨columns, hcolumns, hnewest, -⟩
  cases hread.symm.trans hcolumns
  obtain ⟨hsame, -⟩ := forall₂_cons.mp hnewest
  exact absurd hsame (by decide +kernel)

end SttBench.Bench.Analysis
