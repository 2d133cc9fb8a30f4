import SttBench.Core.Ascii

/-! # ocaml-oxcaml, ocaml-websocket-async: reading a response -/

namespace SttBench.OcamlAsync

open Ascii

/-! ## The reader -/

def chomp (line : Bytes) : Bytes := if line.getLast? = some 13 then line.dropLast else line

def readLine (b : Bytes) : Option (Bytes × Bytes) :=
  if b = [] then none
  else some (chomp (b.takeWhile (· ≠ 10)), (b.dropWhile (· ≠ 10)).drop 1)

lemma readLine_length {b line rest : Bytes} (h : readLine b = some (line, rest)) :
    rest.length < b.length := by
  unfold readLine at h
  split_ifs at h with hb
  obtain ⟨-, rfl⟩ := Prod.mk.inj (Option.some.inj h)
  have hle := (List.dropWhile_suffix (l := b) (· ≠ 10)).length_le
  have hpos := List.length_pos_iff.mpr hb
  rw [List.length_drop]
  omega

def isWhitespace (b : UInt8) : Bool := (9 ≤ b && b ≤ 13) || b = 32

def strip (s : Bytes) : Bytes :=
  ((s.dropWhile isWhitespace).reverse.dropWhile isWhitespace).reverse

def field (line : Bytes) : Option (Bytes × Bytes) :=
  if 58 ∈ line then
    some ((strip (line.takeWhile (· ≠ 58))).map lower, strip ((line.dropWhile (· ≠ 58)).drop 1))
  else none

def readHeaders (b : Bytes) : Option (List (Bytes × Bytes) × Bytes) :=
  match _h : readLine b with
  | none => none
  | some ([], rest) => some ([], rest)
  | some (line, rest) => (readHeaders rest).map fun r => ((field line).toList ++ r.1, r.2)
termination_by b.length
decreasing_by exact readLine_length _h

def find (headers : List (Bytes × Bytes)) (name : Bytes) : Option Bytes :=
  (headers.find? fun h => h.1 = name.map lower).map Prod.snd

/-! ## `Int.of_string_opt` -/

def digitValue (b : UInt8) : ℕ :=
  if 48 ≤ b && b ≤ 57 then b.toNat - 48
  else if 97 ≤ b && b ≤ 122 then b.toNat - 87
  else if 65 ≤ b && b ≤ 90 then b.toNat - 55
  else 36

def digits (base acc : ℕ) : Bytes → Option ℕ
  | [] => some acc
  | b :: bs =>
    if b = 95 then digits base acc bs
    else if digitValue b < base then digits base (acc * base + digitValue b) bs
    else none

def baseOf : Bytes → ℕ × Bool × Bytes
  | 48 :: b :: bs =>
    if lower b = 120 then (16, false, bs)
    else if lower b = 111 then (8, false, bs)
    else if lower b = 98 then (2, false, bs)
    else if lower b = 117 then (10, false, bs)
    else (10, true, 48 :: b :: bs)
  | bs => (10, true, bs)

def signOf : Bytes → Bool × Bytes
  | 45 :: bs => (true, bs)
  | 43 :: bs => (false, bs)
  | bs => (false, bs)

def intOfString (s : Bytes) : Option ℤ :=
  let neg := (signOf s).1
  let base := (baseOf (signOf s).2).1
  let plain := (baseOf (signOf s).2).2.1
  match (baseOf (signOf s).2).2.2 with
  | [] => none
  | b :: bs =>
    if digitValue b < base then
      (digits base (digitValue b) bs).bind fun n =>
        let value : ℤ := if neg then -n else n
        if plain then if -2 ^ 62 ≤ value ∧ value < 2 ^ 62 then some value else none
        else if n < 2 ^ 63 then some (value.bmod (2 ^ 63)) else none
    else none

/-! ## The response -/

def parseStatusLine (line : Bytes) : Option ℤ := ((line.splitOn 32)[1]?).bind intOfString

inductive Head
  | Closed
  | BadStatus (line : Bytes)
  | ChunkedUnsupported
  | NoLength
  | Ok (status len : ℤ)
deriving DecidableEq, Repr

def transferEncoding : Bytes := bytes "transfer-encoding"

def contentLength : Bytes := bytes "content-length"

def readResponseHead (b : Bytes) : Head × Bytes :=
  match readLine b with
  | none => (.Closed, [])
  | some (line, rest) =>
    match parseStatusLine line with
    | none => (.BadStatus line, rest)
    | some status =>
      match readHeaders rest with
      | none => (.Closed, [])
      | some (headers, rest) =>
        if (find headers transferEncoding).isSome then (.ChunkedUnsupported, rest)
        else match (find headers contentLength).bind intOfString with
          | none => (.NoLength, rest)
          | some len => (.Ok status len, rest)

inductive Stage
  | InferenceRequest
  | InferenceResponseParse
deriving DecidableEq, Repr

inductive Kind
  | Timeout
  | ConnectionReset
  | Http429
  | Http5xx
  | ParseError
deriving DecidableEq, Repr

structure Error where
  stage : Stage
  kind : Kind
  message : Bytes
  status : Option ℤ
deriving DecidableEq, Repr

def parseErr (message : Bytes) : Error := ⟨.InferenceResponseParse, .ParseError, message, none⟩

def connectionReset (message : Bytes) : Error := ⟨.InferenceRequest, .ConnectionReset, message, none⟩

inductive Exchanged (R : Type)
  | Retry
  | Done (result : Except Error R)
  | Raise

def maxStringLength : ℤ := 2 ^ 57 - 9

variable {R : Type} (decode : Bytes → Except Bytes R)

def resultOf (status : ℤ) (body : Bytes) : Except Error R :=
  if status ≠ 200 then
    .error ⟨.InferenceRequest, if status = 429 then .Http429 else .Http5xx,
      bytes ("inference returned HTTP " ++ toString status), some status⟩
  else match decode body with
    | .ok infer => .ok infer
    | .error message => .error (parseErr message)

def readResponse (b : Bytes) : Exchanged R × Bytes :=
  match readResponseHead b with
  | (.Closed, rest) => (.Retry, rest)
  | (.BadStatus line, rest) => (.Done (.error (parseErr (bytes "bad status line: " ++ line))), rest)
  | (.ChunkedUnsupported, rest) =>
    (.Done (.error (parseErr (bytes "chunked transfer-encoding not supported"))), rest)
  | (.NoLength, rest) => (.Done (.error (parseErr (bytes "missing Content-Length"))), rest)
  | (.Ok status len, rest) =>
    if len < 0 ∨ maxStringLength < len then (.Raise, rest)
    else if rest.length < len then (.Retry, [])
    else (.Done (resultOf decode status (rest.take len.toNat)), rest.drop len.toNat)

end SttBench.OcamlAsync
