import SttBench.OxcamlEpoll.Server

/-! # ocaml-oxcaml-epoll: the status of a response -/

namespace SttBench.OxcamlEpoll.HttpResponse

open Ascii
open Http1 (crlf2)

/-! ## What the head says -/

def statusLine (head : Bytes) : Bytes := head.takeWhile (· ≠ 10)

def behindBlank (l : Bytes) : Bytes := (l.dropWhile (· ≠ 32)).drop 1

def statusCode (head : Bytes) : Option ℕ :=
  let digits := firstDigits (behindBlank (statusLine head))
  if digits = [] then none else some (decimal digits)

def foundNumber (head : Bytes) : ℕ := decimal (firstDigits (behindBlank head))

lemma status_eq (head : Bytes) : status head = wrap (foundNumber head) := parseInt_eq _

lemma firstDigits_append {l rest : Bytes} (hne : firstDigits l ≠ [])
    (hrest : rest.head?.any isDigit = false) : firstDigits (l ++ rest) = firstDigits l := by
  let d := l.dropWhile fun c => !isDigit c
  have hl : l = l.takeWhile (fun c => !isDigit c) ++
      (d.takeWhile isDigit ++ d.dropWhile isDigit) := by
    rw [List.takeWhile_append_dropWhile, List.takeWhile_append_dropWhile]
  have hpre : ∀ b ∈ l.takeWhile (fun c => !isDigit c), isDigit b = false := by
    intro b hb
    simpa using List.all_eq_true.mp List.all_takeWhile b hb
  have hpost : (d.dropWhile isDigit ++ rest).head?.any isDigit = false := by
    cases htail : d.dropWhile isDigit with
    | nil => exact hrest
    | cons b tail =>
      have hb := List.head?_dropWhile_not isDigit d
      rw [htail] at hb
      simpa using hb
  calc firstDigits (l ++ rest)
      = firstDigits (l.takeWhile (fun c => !isDigit c) ++
          (d.takeWhile isDigit ++ (d.dropWhile isDigit ++ rest))) := by
        rw [← List.append_assoc (d.takeWhile isDigit), ← List.append_assoc, ← hl]
    _ = d.takeWhile isDigit :=
        firstDigits_padded hpre hne (List.all_eq_true.mp List.all_takeWhile) hpost

lemma behindBlank_append {l : Bytes} (rest : Bytes) (h : behindBlank l ≠ []) :
    behindBlank (l ++ rest) = behindBlank l ++ rest := by
  unfold behindBlank at h ⊢
  rw [List.dropWhile_append]
  cases hl : l.dropWhile (· ≠ 32) with
  | nil =>
    rw [hl] at h
    exact absurd rfl h
  | cons b tail => simp

lemma foundNumber_of_statusCode {head : Bytes} {n : ℕ} (h : statusCode head = some n) :
    foundNumber head = n := by
  unfold statusCode at h
  dsimp only at h
  split_ifs at h with hdigits
  have hhead : head = statusLine head ++ head.dropWhile (· ≠ 10) :=
    (List.takeWhile_append_dropWhile ..).symm
  have hblank : behindBlank (statusLine head) ≠ [] := by
    intro hnil
    rw [hnil] at hdigits
    exact hdigits rfl
  have hrest : (head.dropWhile (· ≠ 10)).head?.any isDigit = false := by
    cases htail : head.dropWhile (· ≠ 10) with
    | nil => rfl
    | cons b tail =>
      have hb := List.head?_dropWhile_not (· ≠ 10) head
      rw [htail] at hb
      obtain rfl : b = 10 := by simpa using hb
      rfl
  rw [foundNumber, hhead, behindBlank_append _ hblank, firstDigits_append hdigits hrest]
  exact Option.some.inj h

/-! ## Success and error -/

def Parsed.isSuccess (p : Parsed) : Bool := p.hasContentLength ∧ 200 ≤ p.status ∧ p.status < 300

lemma respond_of_isSuccess {g : Setup} {s : Server} {idx : ℕ} {slot : Slot} {p : Parsed} {io : Io}
    (h : p.isSuccess = true) {infer : InferResponse}
    (hbody : inferResponseOfBytes g.decoders slot.resp p.bodyPos p.bodyLen = .ok (.ok infer)) :
    s.respond g idx slot p io = s.slotDone g idx slot (.ok infer) io.clock := by
  obtain ⟨hlength, hmin, hmax⟩ := of_decide_eq_true h
  rw [Server.respond, if_neg (by simp [hlength]), if_neg (by omega), hbody]

lemma respond_of_not_isSuccess {g : Setup} {s : Server} {idx : ℕ} {slot : Slot} {p : Parsed}
    {io : Io} (h : p.isSuccess = false) :
    ∃ err, s.respond g idx slot p io = s.slotDone g idx slot.closeFd (.error err) io.clock ∧
      err.inferenceStatus = some p.status := by
  rw [Server.respond]
  by_cases hlength : p.hasContentLength = false
  · rw [if_pos hlength]
    exact ⟨_, rfl, rfl⟩
  · have hstatus : p.status < 200 ∨ 300 ≤ p.status := by
      by_contra hstatus
      refine absurd (of_decide_eq_false h) (not_not.mpr ⟨?_, by omega⟩)
      exact Bool.eq_true_of_not_eq_false hlength
    rw [if_neg hlength, if_pos hstatus]
    exact ⟨_, rfl, rfl⟩

def StatusRight (b : Bytes) (p : Parsed) : Prop :=
  match statusCode (b.take (p.bodyPos - 4)) with
  | some n => p.status = n
  | none => p.isSuccess = false

def StatusFits (b : Bytes) : Prop :=
  ∀ headEnd, Search.find crlf2 b = some headEnd →
    match statusCode (b.take headEnd) with
    | some n => n < 2 ^ 62
    | none => ((b.take headEnd).splitOn 10).findSome? lengthField = none ∨
        foundNumber (b.take headEnd) % 2 ^ 63 < 200 ∨ 300 ≤ foundNumber (b.take headEnd) % 2 ^ 63

lemma parse_eq_some {b : Bytes} {p : Parsed} (h : parse b = some p) :
    ∃ headEnd, Search.find crlf2 b = some headEnd ∧ p.bodyPos = headEnd + 4 ∧
      p.status = wrap (foundNumber (b.take headEnd)) ∧
      p.hasContentLength = (((b.take headEnd).splitOn 10).findSome? lengthField).isSome := by
  unfold parse at h
  split at h
  · cases h
  · rename_i headEnd hfind
    unfold complete at h
    dsimp only at h
    split_ifs at h
    cases h
    exact ⟨headEnd, hfind, rfl, status_eq _, Option.isSome_map⟩

lemma wrap_eq_iff {n : ℕ} : wrap n = n ↔ n < 2 ^ 62 := by
  rw [wrap_cast]
  split_ifs <;> omega

lemma wrap_success_iff {n : ℕ} :
    200 ≤ wrap n ∧ wrap n < 300 ↔ 200 ≤ n % 2 ^ 63 ∧ n % 2 ^ 63 < 300 := by
  rw [wrap_cast]
  split_ifs <;> omega

lemma statusRight_iff {b : Bytes} {p : Parsed} (h : parse b = some p) :
    StatusRight b p ↔ StatusFits b := by
  obtain ⟨headEnd, hfind, hpos, hstatus, hlength⟩ := parse_eq_some h
  have hfits : StatusFits b ↔ match statusCode (b.take headEnd) with
      | some n => n < 2 ^ 62
      | none => ((b.take headEnd).splitOn 10).findSome? lengthField = none ∨
          foundNumber (b.take headEnd) % 2 ^ 63 < 200 ∨
            300 ≤ foundNumber (b.take headEnd) % 2 ^ 63 := by
    refine ⟨fun hall => hall headEnd hfind, fun hone e he => ?_⟩
    cases hfind.symm.trans he
    exact hone
  rw [hfits, StatusRight, hpos, Nat.add_sub_cancel]
  cases hcode : statusCode (b.take headEnd) with
  | some n =>
    rw [foundNumber_of_statusCode hcode] at hstatus
    dsimp only
    rw [hstatus]
    exact wrap_eq_iff
  | none =>
    have hsuccess := @wrap_success_iff (foundNumber (b.take headEnd))
    dsimp only
    rw [Parsed.isSuccess, hstatus, hlength, decide_eq_false_iff_not, hsuccess,
      Option.isSome_iff_ne_none, not_and_or, not_and_or, not_not, not_le, not_lt]

theorem status_right_iff {b : Bytes} {p : Parsed} (h : parse b = some p) :
    (StatusRight b p ↔ StatusFits b) ∧
      ∀ (g : Setup) (s : Server) (idx : ℕ) (slot : Slot) (io : Io), p.isSuccess = false →
        ∃ err, s.respond g idx slot p io = s.slotDone g idx slot.closeFd (.error err) io.clock ∧
          err.inferenceStatus = some p.status :=
  ⟨statusRight_iff h, fun _ _ _ _ _ => respond_of_not_isSuccess⟩

theorem status_right_iff_ok :
    ∃ p, parse (bytes "HTTP/1.1 200 OK\r\nContent-Length: 0\r\n\r\n") = some p ∧ p.status = 200 ∧
      StatusRight (bytes "HTTP/1.1 200 OK\r\nContent-Length: 0\r\n\r\n") p := by
  have hparse : parse (bytes "HTTP/1.1 200 OK\r\nContent-Length: 0\r\n\r\n") =
      some ⟨200, 38, 0, true⟩ := by
    decide +kernel
  refine ⟨_, hparse, rfl, (status_right_iff hparse).1.mpr fun headEnd hfind => ?_⟩
  have hend : Search.find crlf2 (bytes "HTTP/1.1 200 OK\r\nContent-Length: 0\r\n\r\n") =
      some 34 := by
    decide +kernel
  cases hend.symm.trans hfind
  have hcode : statusCode ((bytes "HTTP/1.1 200 OK\r\nContent-Length: 0\r\n\r\n").take 34) =
      some 200 := by
    decide +kernel
  rw [hcode]
  decide

def codeless : Bytes :=
  bytes "HTTP/1.1 Error\r\nContent-Length: 250\r\n\r\n" ++ List.replicate 250 32

theorem codeless_isSuccess :
    ∃ p, parse codeless = some p ∧ statusCode (codeless.take 35) = none ∧ p.bodyPos = 39 ∧
      p.status = 250 ∧ ¬StatusRight codeless p ∧
      ∀ (g : Setup) (s : Server) (idx : ℕ) (slot : Slot) (io : Io) (infer : InferResponse),
        inferResponseOfBytes g.decoders slot.resp p.bodyPos p.bodyLen = .ok (.ok infer) →
          s.respond g idx slot p io = s.slotDone g idx slot (.ok infer) io.clock := by
  have hparse : parse codeless = some ⟨250, 39, 250, true⟩ := by decide +kernel
  have hcode : statusCode (codeless.take 35) = none := by decide +kernel
  refine ⟨_, hparse, hcode, rfl, rfl, fun hright => ?_, fun _ _ _ _ _ _ => respond_of_isSuccess rfl⟩
  unfold StatusRight at hright
  dsimp only at hright
  rw [hcode] at hright
  cases hright

end SttBench.OxcamlEpoll.HttpResponse
