import Mathlib.Data.List.TakeWhile
import SttBench.OcamlAsync.Fence

/-! # ocaml-oxcaml, ocaml-websocket-async: what is left on a kept socket -/

namespace SttBench.OcamlAsync

open Ascii TransitionSystem List
open Wire (silenceAnswer)

/-! ## One response -/

def Framed (w : Bytes) : Prop := ∃ status body, readResponseHead w = (.Ok status body.length, body)

def wellFramed (b : Bytes) : Bool :=
  match readLine b with
  | none => true
  | some (line, rest) =>
    (parseStatusLine line).isSome &&
      match readHeaders rest with
      | none => true
      | some (headers, _) =>
        (find headers transferEncoding).isNone &&
          ((find headers contentLength).bind intOfString).isSome

def Takes {α : Type} (read : Bytes → Option (α × Bytes)) (p : Bytes) (a : α) (rest : Bytes) : Prop :=
  ∀ x, x <+: rest → read (p ++ x) = some (a, x)

section

variable {α : Type*} {p : α → Bool} {l t : List α} {c : α}

lemma not_of_dropWhile_eq_cons (h : l.dropWhile p = c :: t) : p c = false := by
  have hhead := head_dropWhile_not p (h ▸ cons_ne_nil c t)
  simpa [h] using hhead

lemma takeWhile_append_cons (h : l.dropWhile p = c :: t) (x : List α) :
    (l.takeWhile p ++ c :: x).takeWhile p = l.takeWhile p ∧
      (l.takeWhile p ++ c :: x).dropWhile p = c :: x := by
  have hc := not_of_dropWhile_eq_cons h
  have hall : ∀ a ∈ l.takeWhile p, p a = true := fun a ha => mem_takeWhile_imp ha
  rw [takeWhile_append_of_pos hall, dropWhile_append_of_pos hall]
  simp [hc]

end

lemma readLine_takes {b line rest : Bytes} (h : readLine b = some (line, rest)) :
    ∃ p, b = p ++ rest ∧ Takes readLine p line rest := by
  unfold readLine at h
  split_ifs at h with hb
  obtain ⟨rfl, rfl⟩ := Prod.mk.inj (Option.some.inj h)
  have hsplit : b.takeWhile (· ≠ 10) ++ b.dropWhile (· ≠ 10) = b := takeWhile_append_dropWhile
  cases hdrop : b.dropWhile (· ≠ 10) with
  | nil =>
    -- the last line has no newline, and nothing is behind it
    refine ⟨b, by simp, ?_⟩
    intro x hx
    obtain rfl : x = [] := by simpa using hx
    rw [append_nil, readLine, if_neg hb, hdrop]
    rfl
  | cons c t =>
    have hc : c = 10 := by simpa using not_of_dropWhile_eq_cons hdrop
    subst hc
    refine ⟨b.takeWhile (· ≠ 10) ++ [10], ?_, ?_⟩
    · conv_lhs => rw [← hsplit, hdrop]
      simp
    · intro x _
      obtain ⟨htake, hrest⟩ := takeWhile_append_cons hdrop x
      rw [append_assoc, singleton_append, readLine, if_neg (by simp), htake, hrest]
      rfl

lemma readHeaders_nil {b rest : Bytes} (h : readLine b = some ([], rest)) :
    readHeaders b = some ([], rest) := by
  rw [readHeaders]
  split <;> simp_all

lemma readHeaders_cons {b line rest : Bytes} (h : readLine b = some (line, rest))
    (hline : line ≠ []) :
    readHeaders b = (readHeaders rest).map fun r => ((field line).toList ++ r.1, r.2) := by
  rw [readHeaders]
  split <;> simp_all

lemma readHeaders_takes {b rest : Bytes} {headers : List (Bytes × Bytes)}
    (h : readHeaders b = some (headers, rest)) :
    ∃ p, b = p ++ rest ∧ Takes readHeaders p headers rest := by
  induction hn : b.length using Nat.strong_induction_on generalizing b headers with
  | _ n ih =>
    cases hline : readLine b with
    | none =>
      rw [readHeaders] at h
      split at h <;> simp_all
    | some lr =>
      obtain ⟨line, rest'⟩ := lr
      obtain ⟨p, hp, htakes⟩ := readLine_takes hline
      by_cases hnil : line = []
      · subst hnil
        rw [readHeaders_nil hline] at h
        obtain ⟨rfl, rfl⟩ := Prod.mk.inj (Option.some.inj h)
        exact ⟨p, hp, fun x hx => readHeaders_nil (htakes x hx)⟩
      · rw [readHeaders_cons hline hnil] at h
        obtain ⟨⟨headers', rest''⟩, hrest, heq⟩ := Option.map_eq_some_iff.mp h
        cases heq
        obtain ⟨q, hq, htakes'⟩ := ih _ (hn ▸ readLine_length hline) hrest rfl
        refine ⟨p ++ q, by rw [hp, hq, append_assoc], ?_⟩
        intro x hx
        have hread : readLine (p ++ (q ++ x)) = some (line, q ++ x) :=
          htakes _ (hq ▸ (prefix_append_right_inj q).mpr hx)
        rw [append_assoc, readHeaders_cons hread hnil, htakes' x hx]
        rfl

lemma readResponseHead_takes {b rest : Bytes} {status len : ℤ}
    (h : readResponseHead b = (.Ok status len, rest)) :
    ∃ p, b = p ++ rest ∧ ∀ x, x <+: rest → readResponseHead (p ++ x) = (.Ok status len, x) := by
  unfold readResponseHead at h
  split at h
  · cases h
  case h_2 line rest' hline =>
    split at h
    · cases h
    case h_2 status' hstatus =>
      split at h
      · cases h
      case h_2 headers rest'' hheaders =>
        split_ifs at h with hte
        · cases h
        split at h
        · cases h
        case h_2 len' hlen =>
          obtain ⟨hhead, rfl⟩ := Prod.mk.inj h
          obtain ⟨rfl, rfl⟩ := Head.Ok.inj hhead
          obtain ⟨p, hp, htakes⟩ := readLine_takes hline
          obtain ⟨q, hq, htakes'⟩ := readHeaders_takes hheaders
          refine ⟨p ++ q, by rw [hp, hq, append_assoc], ?_⟩
          intro x hx
          have hread : readLine (p ++ (q ++ x)) = some (line, q ++ x) :=
            htakes _ (hq ▸ (prefix_append_right_inj q).mpr hx)
          have hread' : readHeaders (q ++ x) = some (headers, x) := htakes' x hx
          simp [readResponseHead, append_assoc, hread, hread', hstatus, hte, hlen]

lemma readResponseHead_of_wellFramed {b : Bytes} (hb : wellFramed b = true) :
    (∃ rest, readResponseHead b = (.Closed, rest)) ∨
      ∃ status len rest, readResponseHead b = (.Ok status len, rest) := by
  cases hline : readLine b with
  | none => exact .inl ⟨[], by simp [readResponseHead, hline]⟩
  | some lr =>
    obtain ⟨line, rest⟩ := lr
    simp only [wellFramed, hline, Bool.and_eq_true] at hb
    obtain ⟨status, hstatus⟩ := Option.isSome_iff_exists.mp hb.1
    cases hheaders : readHeaders rest with
    | none => exact .inl ⟨[], by simp [readResponseHead, hline, hstatus, hheaders]⟩
    | some hr =>
      obtain ⟨headers, rest'⟩ := hr
      have hb' := hb.2
      simp only [hheaders, Bool.and_eq_true, Option.isNone_iff_eq_none] at hb'
      obtain ⟨len, hlen⟩ := Option.isSome_iff_exists.mp hb'.2
      exact .inr ⟨status, len, rest', by
        simp [readResponseHead, hline, hstatus, hheaders, hb'.1, hlen]⟩

theorem framed_of_done {R : Type} {decode : Bytes → Except Bytes R} {b rest : Bytes}
    {result : Except Error R} (h : readResponse decode b = (.Done result, rest))
    (hb : wellFramed b = true) : Framed (b.take (b.length - rest.length)) := by
  rcases readResponseHead_of_wellFramed hb with ⟨rest', hhead⟩ | ⟨status, len, rest', hhead⟩
  · simp [readResponse, hhead] at h
  · simp only [readResponse, hhead] at h
    split_ifs at h with hraise hshort
    · simp at h
    · simp at h
    · obtain ⟨-, rfl⟩ := Prod.mk.inj h
      obtain ⟨p, rfl, htakes⟩ := readResponseHead_takes hhead
      have hle : len.toNat ≤ rest'.length := by omega
      have htake : (p ++ rest').take ((p ++ rest').length - (rest'.drop len.toNat).length) =
          p ++ rest'.take len.toNat := by
        rw [length_drop, length_append, take_append, take_of_length_le (by omega)]
        congr 2
        omega
      refine ⟨status, rest'.take len.toNat, ?_⟩
      rw [htake, htakes _ (List.take_prefix _ _), length_take, min_eq_left hle]
      congr 2
      omega

/-! ## The session -/

variable {R : Type} {decode : Bytes → Except Bytes R}

def Clean (exchange : Option Bytes) : Prop := ∃ w, exchange = some w ∧ Framed w

namespace Shared

variable {sh sh' : Shared} {r : Req R} {e : Resume} {pc : Pc R} {acts : List Act}

def KeepsClean (sh : Shared) : Prop := ∀ k, ∀ u ∈ (sh.socks k).exchanges.dropLast, Clean u

def Ready (sh : Shared) : Prop := ∀ k, sh.rw = some k → ∀ u ∈ (sh.socks k).exchanges, Clean u

lemma Ready.of_none (h : sh.rw = none) : sh.Ready := by
  intro k hk
  simp [h] at hk

lemma closeConn_exchanges (k : SockId) :
    (sh.closeConn.socks k).exchanges = (sh.socks k).exchanges := by
  unfold closeConn closeSock setSock
  split
  · rfl
  · simp only [Function.update_apply]
    split_ifs with hk
    · rw [hk]
    · rfl

lemma dialed_exchanges {stream : Bytes} {isOpen : Bool} {published : Option ℕ} (k : SockId) :
    ((sh.dialed stream isOpen published).socks k).exchanges =
      if k = sh.nextSock then [] else (sh.socks k).exchanges := by
  simp only [dialed, setSock, Function.update_apply]
  split_ifs <;> rfl

lemma written_exchanges (k j : SockId) :
    ((sh.written k).socks j).exchanges =
      if j = k then (sh.socks k).exchanges ++ [none] else (sh.socks j).exchanges := by
  simp only [written, setSock, Function.update_apply]
  split_ifs <;> rfl

lemma finished_exchanges (k j : SockId) (rest : Bytes) :
    ((sh.finished k rest).socks j).exchanges =
      if j = k then (sh.socks k).exchanges.dropLast ++
        [some ((sh.socks k).unread.take ((sh.socks k).unread.length - rest.length))]
      else (sh.socks j).exchanges := by
  simp only [finished, setSock, Function.update_apply]
  split_ifs <;> rfl

lemma KeepsClean.closeConn (h : sh.KeepsClean) : sh.closeConn.KeepsClean := by
  intro k
  rw [closeConn_exchanges]
  exact h k

lemma KeepsClean.dialed (h : sh.KeepsClean) {stream : Bytes} {isOpen : Bool}
    {published : Option ℕ} : (sh.dialed stream isOpen published).KeepsClean := by
  intro k
  rw [dialed_exchanges]
  split_ifs
  · simp
  · exact h k

lemma KeepsClean.finished (h : sh.KeepsClean) {k : SockId} {rest : Bytes} :
    (sh.finished k rest).KeepsClean := by
  intro j
  rw [finished_exchanges]
  split_ifs with hj
  · rw [dropLast_concat]
    exact h k
  · exact h j

lemma KeepsClean.written (h : sh.KeepsClean) {k : SockId}
    (hk : ∀ u ∈ (sh.socks k).exchanges, Clean u) : (sh.written k).KeepsClean := by
  intro j
  rw [written_exchanges]
  split_ifs with hj
  · rw [dropLast_concat]
    exact hk
  · exact h j

structure Tidy (sh : Shared) (pc : Pc R) : Prop where
  holds : ∀ k, pc.held = some k → sh.rw = some k
  ready : pc.unanswered = false → sh.Ready

lemma Effect.tidy (heff : Effect decode sh r e sh' pc acts) (hcur : sh.epoch = r.epoch)
    (hclean : sh.KeepsClean) (htidy : sh.Tidy r.pc)
    (hread : e = .Responded → ∀ k attempt, r.pc = .Waiting k attempt →
      wellFramed (sh.socks k).unread = true) :
    sh'.KeepsClean ∧ sh'.Tidy pc := by
  cases heff with
  | @acquired k hpc hk =>
    refine ⟨hclean, ?_, fun _ => htidy.ready (by rw [hpc]; rfl)⟩
    rintro j ⟨⟩
    exact hk
  | moved hheld hanswer _ =>
    refine ⟨hclean, ?_, ?_⟩
    · intro k hk
      simp [hheld] at hk
    · intro hpc
      rcases hanswer with h | h | h
      · simp [hpc] at h
      · exact htidy.ready h
      · exact absurd hcur h
  | @wrote k attempt hpc _ =>
    have hrw : sh.rw = some k := htidy.holds k (by rw [hpc]; rfl)
    have hready : sh.Ready := htidy.ready (by rw [hpc]; rfl)
    refine ⟨hclean.written (hready k hrw), ?_, nofun⟩
    rintro j ⟨⟩
    exact hrw
  | @read k attempt result rest hresponded hpc hdone =>
    have hrw : sh.rw = some k := htidy.holds k (by rw [hpc]; rfl)
    refine ⟨hclean.finished, nofun, ?_⟩
    intro _ j hj u hu
    obtain rfl : k = j := Option.some.inj (hrw.symm.trans hj)
    rw [finished_exchanges, if_pos rfl] at hu
    rcases mem_append.mp hu with hu | hu
    · exact hclean k u hu
    · obtain rfl := mem_singleton.mp hu
      exact ⟨_, rfl, framed_of_done hdone (hread hresponded k attempt hpc)⟩
  | closed hheld _ =>
    refine ⟨hclean.closeConn, ?_, fun _ => .of_none closeConn_rw⟩
    intro k hk
    simp [hheld] at hk
  | published stream _ _ =>
    refine ⟨hclean.dialed, fun k hk => hk, ?_⟩
    rintro _ k ⟨⟩
    have hnil : ((sh.dialed stream true (some r.epoch)).socks sh.nextSock).exchanges = [] :=
      (dialed_exchanges _).trans (if_pos rfl)
    intro u hu
    have hu' : u ∈ ((sh.dialed stream true (some r.epoch)).socks sh.nextSock).exchanges := hu
    simp [hnil] at hu'
  | dropped _ _ hstale => exact absurd hcur hstale

lemma Effect.orphan (heff : Effect decode sh r e sh' pc acts) (hs : sh.Sound)
    (howns : sh.Owns r.epoch r.pc) (hstale : sh.epoch ≠ r.epoch) (hpc : r.pc ≠ .Created)
    (hclean : sh.KeepsClean) : sh'.KeepsClean ∧ (sh.Ready → sh'.Ready) := by
  -- what it holds is not the connection's socket
  have hother : ∀ k, r.pc.held = some k → sh.rw ≠ some k := by
    intro k hk hrw
    exact hstale (Option.some.inj ((hs.current k hrw).symm.trans (howns k hk)))
  cases heff with
  | acquired hcreated _ => exact absurd hcreated hpc
  | moved _ _ _ => exact ⟨hclean, id⟩
  | @wrote k attempt hacq hopen =>
    have hheld : r.pc.held = some k := by rw [hacq]; rfl
    exact absurd (hs.live k _ hopen (howns k hheld)) (hother k hheld)
  | @read k attempt result rest _ hwait hdone =>
    have hheld : r.pc.held = some k := by rw [hwait]; rfl
    refine ⟨hclean.finished, ?_⟩
    intro hready j hj
    have hjk : j ≠ k := by
      rintro rfl
      exact hother j hheld hj
    rw [finished_exchanges, if_neg hjk]
    exact hready j hj
  | closed _ hcurrent | published _ _ hcurrent => exact absurd hcurrent hstale
  | dropped stream _ _ =>
    refine ⟨hclean.dialed, ?_⟩
    intro hready j hj
    rw [dialed_exchanges]
    split_ifs
    · simp
    · exact hready j hj

end Shared

namespace Session

variable {s s' : Session R}

def Readable (s : Session R) : Event → Prop
  | .Request .Responded =>
    match s.send with
    | .Running ⟨_, .Waiting k _⟩ => wellFramed (s.shared.socks k).unread = true
    | _ => True
  | _ => True

instance (s : Session R) (e : Event) : Decidable (s.Readable e) := by
  unfold Readable
  split
  · split <;> infer_instance
  · infer_instance

structure Framing (s : Session R) : Prop where
  clean : s.shared.KeepsClean
  running : ∀ r, s.send = .Running r → s.shared.Tidy r.pc
  ready : (∀ r, s.send ≠ .Running r) → s.shared.Ready

lemma framing_send (hs : s.Framing) (h : s.step decode .Send = some s') : s'.Framing := by
  simp only [step] at h
  split at h
  case h_1 hidle =>
    cases h
    have hready : s.shared.Ready := hs.ready (by simp [hidle])
    refine ⟨hs.clean, ?_, fun h => absurd rfl (h _)⟩
    rintro r ⟨⟩
    exact ⟨(by rintro _ ⟨⟩), fun _ => hready⟩
  case h_2 => cases h

lemma framing_request {e : Resume} (hfence : s.Fenced) (hs : s.Framing)
    (hread : s.Readable (.Request e)) (h : s.step decode (.Request e) = some s') :
    s'.Framing := by
  simp only [step] at h
  split at h
  case h_2 => cases h
  case h_1 r hsend =>
    obtain ⟨⟨sh, r', acts⟩, hadv, rfl⟩ := Option.map_eq_some_iff.mp h
    obtain ⟨-, -, heff⟩ := Shared.advance_effect hadv
    have hwell : e = .Responded → ∀ k attempt, r.pc = .Waiting k attempt →
        wellFramed (s.shared.socks k).unread = true := by
      rintro rfl k attempt hpc
      obtain ⟨epoch, pc⟩ := r
      obtain rfl : pc = .Waiting k attempt := hpc
      simpa [Readable, hsend] using hread
    obtain ⟨hclean, htidy⟩ :=
      heff.tidy (hfence.running r hsend).1.symm hs.clean (hs.running r hsend) hwell
    refine ⟨hclean, ?_, fun h => absurd rfl (h _)⟩
    rintro q ⟨⟩
    exact htidy

lemma framing_orphan {i : ℕ} {e : Resume} (hfence : s.Fenced) (hs : s.Framing)
    (h : s.step decode (.Orphan i e) = some s') : s'.Framing := by
  simp only [step] at h
  split at h
  case h_1 => cases h
  case h_2 r hi =>
    obtain ⟨⟨sh, r', acts⟩, hadv, rfl⟩ := Option.map_eq_some_iff.mp h
    obtain ⟨-, -, heff⟩ := Shared.advance_effect hadv
    obtain ⟨hlt, hpc, howns⟩ := hfence.orphans r (mem_of_getElem? hi)
    obtain ⟨hclean, hready⟩ := heff.orphan hfence.sound howns hlt.ne' hpc hs.clean
    refine ⟨hclean, ?_, fun h => hready (hs.ready h)⟩
    intro q hq
    obtain ⟨hholds, hq'⟩ := hs.running q hq
    exact ⟨fun k hk => (heff.rw_eq hlt.ne').trans (hholds k hk), fun h => hready (hq' h)⟩

lemma Framing.of_not_running {send : Send R} {sh : Shared} {orphans : List (Req R)}
    {deeds : List Deed} (hclean : sh.KeepsClean) (hready : sh.Ready)
    (hsend : ∀ r, send ≠ .Running r) : Framing ⟨sh, send, orphans, deeds⟩ :=
  ⟨hclean, fun r hr => absurd hr (hsend r), fun _ => hready⟩

lemma framing_abandon (hs : s.Framing) (h : s.step decode .Abandon = some s') : s'.Framing := by
  have hclean : Shared.KeepsClean { s.shared with epoch := s.shared.epoch + 1 } := hs.clean
  simp only [step] at h
  split at h
  case h_2 =>
    cases h
    exact .of_not_running hclean.closeConn (.of_none Shared.closeConn_rw) (by rintro _ ⟨⟩)
  all_goals cases h

lemma framing_return (hs : s.Framing) (h : s.step decode .Return = some s') : s'.Framing := by
  simp only [step] at h
  split at h
  case h_1 epoch result hsend =>
    cases h
    exact .of_not_running hs.clean ((hs.running _ hsend).ready rfl) (by rintro _ ⟨⟩)
  case h_2 => cases h

lemma framing_abandoned (hs : s.Framing) (h : s.step decode .Abandoned = some s') :
    s'.Framing := by
  simp only [step] at h
  split at h
  case h_1 hsend =>
    cases h
    exact .of_not_running hs.clean (hs.ready (by simp [hsend])) (by rintro _ ⟨⟩)
  case h_2 => cases h

lemma framing_close (hs : s.Framing) (h : s.step decode .Close = some s') : s'.Framing := by
  simp only [step] at h
  split at h
  case h_1 =>
    cases h
    exact .of_not_running hs.clean.closeConn (.of_none Shared.closeConn_rw) (by rintro _ ⟨⟩)
  case h_2 => cases h

end Session

lemma framing_inductive :
    ((session decode).restrict Session.Readable).InductiveUnder Session.Fenced Session.Framing where
  init := by
    rintro s rfl
    exact ⟨fun _ => nofun, nofun, fun _ => nofun⟩
  step := by
    rintro s e s' hfence hs ⟨hread, h⟩
    cases e with
    | Send => exact Session.framing_send hs h
    | Request e => exact Session.framing_request hfence hs hread h
    | Return => exact Session.framing_return hs h
    | Abandon => exact Session.framing_abandon hs h
    | Abandoned => exact Session.framing_abandoned hs h
    | Close => exact Session.framing_close hs h
    | Orphan i e => exact Session.framing_orphan hfence hs h

theorem responses_framed {s : Session R}
    (hs : ((session decode).restrict Session.Readable).Reachable s) :
    ∀ k, ∀ u ∈ (s.shared.socks k).exchanges.dropLast, ∃ w, u = some w ∧ Framed w :=
  (framing_inductive.reachable (fun _ h => fenced_inductive.reachable h.of_restrict) hs).clean

def twoBatches (stream : Bytes) : List Event :=
  [.Send, .Request .Go, .Request (.Connected stream), .Request .Go, .Request .Responded,
   .Request .Go, .Return, .Send, .Request .Go, .Request .Go, .Request .Responded]

theorem responses_framed_twoBatches :
    ∃ s, ((session decodeSilence).restrict Session.Readable).Reachable s ∧
      (s.shared.socks 0).exchanges = [some silenceAnswer.wire, some silenceAnswer.wire] ∧
      ∀ k, ∀ u ∈ (s.shared.socks k).exchanges.dropLast, ∃ w, u = some w ∧ Framed w := by
  obtain ⟨s, hreach, hs⟩ : ∃ s, ((session decodeSilence).restrict Session.Readable).Reachable s ∧
      (s.shared.socks 0).exchanges = [some silenceAnswer.wire, some silenceAnswer.wire] :=
    Reachable.exists_of_guarded (twoBatches (silenceAnswer.wire ++ silenceAnswer.wire))
      (by decide +kernel)
  exact ⟨s, hreach, hs, responses_framed hreach⟩

def chunkedHead : Bytes := bytes "HTTP/1.1 200 OK\r\nTransfer-Encoding: chunked\r\n\r\n"

def chunkedBody : Bytes := bytes "2\r\n\x7b\x7d\r\n0\r\n\r\n"

def Session.failedWith (s : Session R) (message : Bytes) : Bool :=
  match s.send with
  | .Running ⟨_, .Ended (.Done (.error e)) _⟩ => e.message = message
  | _ => false

lemma not_framed_chunkedHead : ¬ Framed chunkedHead := by
  rintro ⟨status, body, h⟩
  have hhead : (readResponseHead chunkedHead).1 = .ChunkedUnsupported := by decide +kernel
  simp [h] at hhead

theorem chunked_answers_next :
    ∃ s, (session decodeSilence).Reachable s ∧
      ((s.shared.socks 0).exchanges = [some chunkedHead, some (bytes "2\r\n")] ∧
        s.failedWith (bytes "bad status line: 2") = true) ∧
      ¬ ∀ k, ∀ u ∈ (s.shared.socks k).exchanges.dropLast, ∃ w, u = some w ∧ Framed w := by
  obtain ⟨s, hreach, hstate⟩ : ∃ s, (session decodeSilence).Reachable s ∧
      (s.shared.socks 0).exchanges = [some chunkedHead, some (bytes "2\r\n")] ∧
        s.failedWith (bytes "bad status line: 2") = true :=
    Reachable.exists_of_exec (twoBatches (chunkedHead ++ chunkedBody)) (by decide +kernel)
  refine ⟨s, hreach, hstate, ?_⟩
  intro hall
  obtain ⟨w, hw, hframed⟩ := hall 0 (some chunkedHead) (by simp [hstate.1])
  exact not_framed_chunkedHead (Option.some.inj hw ▸ hframed)

end SttBench.OcamlAsync
