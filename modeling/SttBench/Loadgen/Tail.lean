import SttBench.Core.Batcher
import SttBench.Loadgen.Verify

/-!
# Load generator: the tail check and a correct gateway

The argument by which `verify.rs` justifies `TAIL_TOLERANCE`.
-/

namespace SttBench.Loadgen

open Tiling TransitionSystem List

abbrev Millis := ℚ

structure Flight where
  range : Range
  /-- Since when the gateway had been idle. -/
  idleAt : Millis
  flushedAt : Millis

structure Reached where
  flight : Flight
  reachedAt : Millis

structure Link where
  now : Millis
  startedAt : Millis
  sentAt : List Millis
  receivedAt : List Millis
  gateway : Batcher
  /-- When the gateway has last become idle. -/
  idleAt : Millis
  /-- The batches whose answers have not reached the client, oldest first. -/
  out : List Flight
  last : Option Reached
  check : Continuity

inductive LinkEvent
  | Send
  | Receive
  | Flush
  | Answer
  | Reach
deriving DecidableEq, Repr

namespace Link

def start (t : Millis) : Link where
  now := t
  startedAt := t
  sentAt := []
  receivedAt := []
  gateway := .start
  idleAt := t
  out := []
  last := none
  check := ⟨0⟩

def flight (s : Link) : Flight where
  range := ⟨s.gateway.taken + 1, s.gateway.seq⟩
  idleAt := s.idleAt
  flushedAt := s.now

def handle (s : Link) : LinkEvent → Option Link
  | .Send =>
    if ∀ l ∈ s.sentAt.getLast?, l + frameIntervalMs ≤ s.now then
      some { s with sentAt := s.sentAt ++ [s.now] }
    else none
  | .Receive =>
    if s.receivedAt.length < s.sentAt.length then
      some { s with receivedAt := s.receivedAt ++ [s.now], gateway := s.gateway.receive }
    else none
  | .Flush =>
    -- the whole buffer, and only while no request is in flight
    if s.gateway.flight = none ∧ s.gateway.taken < s.gateway.seq then
      some { s with out := s.out ++ [s.flight], gateway := s.gateway.take }
    else none
  | .Answer =>
    s.gateway.flight.map fun r => { s with gateway := s.gateway.answer r, idleAt := s.now }
  | .Reach =>
    match s.out with
    | [] => none
    | f :: out =>
      if out = [] ∧ s.gateway.flight ≠ none then none
      else some { s with
        out := out
        last := some ⟨f, s.now⟩
        check := (s.check.observe (UInt64.ofNat f.range.oldest)
          (UInt64.ofNat f.range.newest)).2 }

def step (s : Link) (e : Millis × LinkEvent) : Option Link :=
  if s.now ≤ e.1 then { s with now := e.1 }.handle e.2 else none

def system (t : Millis) : TransitionSystem Link (Millis × LinkEvent) := ofFun (start t) step

def reported (s : Link) : ℕ := (s.last.map fun r => r.flight.range.newest).getD 0

/-! ## The deadlines -/

def Met (deadline c : Millis) : Option Millis → Prop
  | some t => t ≤ deadline
  | none => c < deadline

def nextIdleAt (s : Link) : Millis := (s.out.head?.map Flight.idleAt).getD s.idleAt

def due (s : Link) (a : Millis) : Millis :=
  match s.last with
  | none => max (s.startedAt + 2 * flushIntervalMs) (a + flushIntervalMs)
  | some _ => max s.nextIdleAt a + flushIntervalMs

structure Delays where
  frame : Millis
  answer : Millis
  flush : Millis
  next : Millis
  frame_nonneg : 0 ≤ frame
  answer_nonneg : 0 ≤ answer
  flush_nonneg : 0 ≤ flush
  next_nonneg : 0 ≤ next

def Delays.total (d : Delays) : Millis := d.frame + d.answer + d.flush + d.next

structure OnTime (s : Link) (c : Millis) (d : Delays) : Prop where
  frame : ∀ x ∈ s.sentAt[s.reported]?, Met (x + d.frame) c s.receivedAt[s.reported]?
  answer : ∀ r ∈ s.last,
    Met (r.flight.flushedAt + gatewayInferenceTimeoutMs + d.answer) c (some r.reachedAt)
  flush : ∀ a ∈ s.receivedAt[s.reported]?,
    Met (s.due a + d.flush) c (s.out.head?.map Flight.flushedAt)
  next : ∀ f ∈ s.out.head?, Met (f.flushedAt + gatewayInferenceTimeoutMs + d.next) c none

/-! ## The invariant -/

def Whole (receivedAt : List Millis) (f : Flight) : Prop :=
  ∀ i a, f.range.newest ≤ i → receivedAt[i]? = some a → f.flushedAt ≤ a

structure Inv (s : Link) : Prop where
  sent : s.sentAt.IsChain fun x y : Millis => x + frameIntervalMs ≤ y
  clock : ∀ x ∈ s.sentAt, s.startedAt ≤ x ∧ x ≤ s.now
  began : s.startedAt ≤ s.now
  received : s.receivedAt.length = s.gateway.seq ∧ s.gateway.seq ≤ s.sentAt.length
  taken : s.gateway.taken ≤ s.gateway.seq
  tiles : TilesFrom (s.reported + 1) (s.out.map Flight.range) (s.gateway.taken + 1)
  busy : s.gateway.flight ≠ none → s.out ≠ []
  past : s.idleAt ≤ s.now ∧ ∀ f ∈ s.out, f.idleAt ≤ s.now ∧ f.flushedAt ≤ s.now
  idle : ∀ r ∈ s.last, s.nextIdleAt ≤ r.reachedAt ∧ r.flight.flushedAt ≤ s.now
  whole : (∀ f ∈ s.out, Whole s.receivedAt f) ∧ ∀ r ∈ s.last, Whole s.receivedAt r.flight
  check : s.sentAt.length < 2 ^ 64 → s.check.lastNewest.toNat = s.reported

variable {s s' : Link} {t c : Millis} {d : Delays}

lemma inv_start (t : Millis) : (start t).Inv where
  sent := .nil
  clock := by simp [start]
  began := le_refl t
  received := ⟨rfl, le_refl 0⟩
  taken := le_refl 0
  tiles := rfl
  busy := fun h => absurd rfl h
  past := ⟨le_refl t, by simp [start]⟩
  idle := by simp [start]
  whole := ⟨by simp [start], by simp [start]⟩
  check := fun _ => rfl

lemma Inv.wait (h : s.Inv) (ht : s.now ≤ t) : { s with now := t }.Inv where
  sent := h.sent
  clock x hx := ⟨(h.clock x hx).1, (h.clock x hx).2.trans ht⟩
  began := h.began.trans ht
  received := h.received
  taken := h.taken
  tiles := h.tiles
  busy := h.busy
  past := ⟨h.past.1.trans ht, fun f hf =>
    ⟨((h.past.2 f hf).1).trans ht, ((h.past.2 f hf).2).trans ht⟩⟩
  idle r hr := ⟨(h.idle r hr).1, (h.idle r hr).2.trans ht⟩
  whole := h.whole
  check := h.check

lemma Inv.send (h : s.Inv) (hgap : ∀ l ∈ s.sentAt.getLast?, l + frameIntervalMs ≤ s.now) :
    { s with sentAt := s.sentAt ++ [s.now] }.Inv :=
  { h with
    sent := by
      refine isChain_append.mpr ⟨h.sent, .singleton _, ?_⟩
      intro x hx y hy
      cases hy
      exact hgap x hx
    clock := by
      intro x hx
      rcases mem_append.mp hx with hx | hx
      · exact h.clock x hx
      · obtain rfl := mem_singleton.mp hx
        exact ⟨h.began, le_refl _⟩
    received := by
      refine ⟨h.received.1, ?_⟩
      rw [length_append]
      exact h.received.2.trans (Nat.le_add_right _ _)
    check := by
      intro hlt
      rw [length_append] at hlt
      exact h.check (Nat.lt_of_le_of_lt (Nat.le_add_right _ _) hlt) }

lemma Whole.receive {receivedAt : List Millis} {f : Flight} {now : Millis}
    (h : Whole receivedAt f) (hnow : f.flushedAt ≤ now) : Whole (receivedAt ++ [now]) f := by
  intro i a hi ha
  rw [List.getElem?_append] at ha
  split_ifs at ha
  · exact h i a hi ha
  · obtain rfl := mem_singleton.mp (mem_of_getElem? ha)
    exact hnow

lemma Inv.receive (h : s.Inv) (hlt : s.receivedAt.length < s.sentAt.length) :
    { s with receivedAt := s.receivedAt ++ [s.now], gateway := s.gateway.receive }.Inv :=
  { h with
    received := by
      obtain ⟨hseq, -⟩ := h.received
      simp only [length_append, length_singleton, Batcher.receive]
      omega
    taken := h.taken.trans (Nat.le_succ _)
    whole := ⟨fun f hf => (h.whole.1 f hf).receive (h.past.2 f hf).2,
      fun r hr => (h.whole.2 r hr).receive (h.idle r hr).2⟩ }

lemma Inv.flush (h : s.Inv) (hlt : s.gateway.taken < s.gateway.seq) :
    { s with out := s.out ++ [s.flight], gateway := s.gateway.take }.Inv :=
  { h with
    taken := le_refl _
    tiles := by
      rw [map_append]
      exact h.tiles.concat (r := s.flight.range) rfl hlt
    busy := by simp
    past := by
      refine ⟨h.past.1, ?_⟩
      intro f hf
      rcases mem_append.mp hf with hf | hf
      · exact h.past.2 f hf
      · obtain rfl := mem_singleton.mp hf
        exact ⟨h.past.1, le_refl _⟩
    idle := by
      intro r hr
      refine ⟨?_, (h.idle r hr).2⟩
      have hidle := (h.idle r hr).1
      unfold nextIdleAt at hidle ⊢
      cases hout : s.out with
      | nil => simpa [hout, flight] using hidle
      | cons f out => simpa [hout] using hidle
    whole := by
      refine ⟨?_, h.whole.2⟩
      intro f hf
      rcases mem_append.mp hf with hf | hf
      · exact h.whole.1 f hf
      · obtain rfl := mem_singleton.mp hf
        intro i a hi ha
        have hlength := (List.getElem?_eq_some_iff.mp ha).1
        rw [h.received.1] at hlength
        exact absurd hlength (not_lt.mpr hi) }

lemma Inv.answer (h : s.Inv) {r : Range} (hflight : s.gateway.flight = some r) :
    { s with gateway := s.gateway.answer r, idleAt := s.now }.Inv :=
  { h with
    busy := fun h => absurd rfl h
    past := ⟨le_refl _, h.past.2⟩
    idle := by
      intro r' hr'
      refine ⟨?_, (h.idle r' hr').2⟩
      have hidle := (h.idle r' hr').1
      obtain ⟨f, out, hout⟩ := exists_cons_of_ne_nil (h.busy (by simp [hflight]))
      unfold nextIdleAt at hidle ⊢
      simpa [hout] using hidle }

lemma observe_lastNewest {check : Continuity} {r : Range}
    (hnext : r.oldest = check.lastNewest.toNat + 1) (hle : r.oldest ≤ r.newest)
    (hlt : r.newest < 2 ^ 64) :
    (check.observe (UInt64.ofNat r.oldest) (UInt64.ofNat r.newest)).2.lastNewest.toNat =
      r.newest := by
  have holdest : (UInt64.ofNat r.oldest).toNat = r.oldest :=
    UInt64.toNat_ofNat_of_lt (hle.trans_lt hlt)
  have hnewest : (UInt64.ofNat r.newest).toNat = r.newest := UInt64.toNat_ofNat_of_lt hlt
  have hwell : wellFormed (UInt64.ofNat r.oldest) (UInt64.ofNat r.newest) := by
    rw [wellFormed, UInt64.lt_iff_toNat_lt, UInt64.le_iff_toNat_le, holdest, hnewest]
    exact ⟨by simp [hnext], hle⟩
  rw [Continuity.observe_lastNewest, if_pos hwell, UInt64.toNat_max, hnewest]
  omega

lemma Inv.reach (h : s.Inv) {f : Flight} {out : List Flight} (hout : s.out = f :: out)
    (hflight : ¬ (out = [] ∧ s.gateway.flight ≠ none)) :
    { s with
      out := out
      last := some ⟨f, s.now⟩
      check := (s.check.observe (UInt64.ofNat f.range.oldest)
        (UInt64.ofNat f.range.newest)).2 }.Inv := by
  have htiles := h.tiles
  rw [hout] at htiles
  obtain ⟨holdest, hle, htiles⟩ := htiles
  have hpast := hout ▸ h.past.2
  have hwhole := hout ▸ h.whole.1
  exact
    { h with
      tiles := htiles
      busy := by
        intro hbusy hnil
        exact hflight ⟨hnil, hbusy⟩
      past := ⟨h.past.1, fun g hg => hpast g (mem_cons_of_mem f hg)⟩
      idle := by
        rintro r ⟨⟩
        refine ⟨?_, (hpast f (by simp)).2⟩
        unfold nextIdleAt
        cases out with
        | nil => exact h.past.1
        | cons g out => exact (hpast g (by simp)).1
      whole := by
        refine ⟨fun g hg => hwhole g (mem_cons_of_mem f hg), ?_⟩
        rintro r ⟨⟩
        exact hwhole f (by simp)
      check := by
        intro hlt
        have hend := htiles.le
        have htaken := h.taken
        have hsent : s.gateway.seq < 2 ^ 64 := h.received.2.trans_lt hlt
        refine observe_lastNewest ?_ hle (by omega)
        rw [h.check hlt]
        exact holdest }

theorem inv_inductive (t : Millis) : (system t).Inductive Inv where
  init := by
    rintro s rfl
    exact inv_start t
  step := by
    rintro s ⟨t', e⟩ s' h hstep
    simp only [system, ofFun, step] at hstep
    split_ifs at hstep with ht
    have hwait := h.wait ht
    cases e with
    | Send =>
      simp only [handle] at hstep
      split_ifs at hstep with hgap
      cases hstep
      exact hwait.send hgap
    | Receive =>
      simp only [handle] at hstep
      split_ifs at hstep with hlt
      cases hstep
      exact hwait.receive hlt
    | Flush =>
      simp only [handle] at hstep
      split_ifs at hstep with hidle
      cases hstep
      exact hwait.flush hidle.2
    | Answer =>
      obtain ⟨r, hr, rfl⟩ := Option.map_eq_some_iff.mp hstep
      exact hwait.answer hr
    | Reach =>
      simp only [handle] at hstep
      split at hstep
      · cases hstep
      · rename_i f out hout
        split_ifs at hstep with hflight
        cases hstep
        exact hwait.reach hout hflight

/-! ## The check -/

lemma sent_le {sentAt : List Millis}
    (h : sentAt.IsChain fun x y : Millis => x + frameIntervalMs ≤ y) {x y : Millis} {i n : ℕ}
    (hx : sentAt[i]? = some x) (hy : sentAt[i + n]? = some y) :
    x + n * frameIntervalMs ≤ y := by
  induction n generalizing y with
  | zero =>
    cases hx.symm.trans hy
    simp
  | succ n ih =>
    obtain ⟨hlt, rfl⟩ := List.getElem?_eq_some_iff.mp hy
    have hlt' : i + n < sentAt.length := Nat.lt_of_succ_lt hlt
    have hgap := isChain_iff_getElem.mp h (i + n) hlt
    calc x + (n + 1 : ℕ) * frameIntervalMs
        = x + n * frameIntervalMs + frameIntervalMs := by push_cast; ring
      _ ≤ sentAt[i + n] + frameIntervalMs := by
          gcongr
          exact ih (List.getElem?_eq_getElem hlt')
      _ ≤ sentAt[i + n + 1] := hgap

lemma due_le (h : s.Inv) (hd : s.OnTime c d) {x a : Millis} (hx : s.sentAt[s.reported]? = some x)
    (ha : s.receivedAt[s.reported]? = some a) :
    s.due a ≤ x + d.frame + d.answer + gatewayInferenceTimeoutMs + flushIntervalMs := by
  have hframe : a ≤ x + d.frame := by
    have hmet := hd.frame x hx
    rwa [ha] at hmet
  have hintervals : ((flushIntervalMs : ℕ) : Millis) ≤ (gatewayInferenceTimeoutMs : ℕ) := by
    norm_num [flushIntervalMs, gatewayInferenceTimeoutMs]
  have htimeout : (0 : Millis) ≤ (gatewayInferenceTimeoutMs : ℕ) := Nat.cast_nonneg _
  have := d.frame_nonneg
  have := d.answer_nonneg
  unfold due
  cases hlast : s.last with
  | none =>
    have hstart := (h.clock x (mem_of_getElem? hx)).1
    refine max_le ?_ ?_ <;> linarith
  | some r =>
    have hreported : s.reported = r.flight.range.newest := by simp [reported, hlast]
    have hwhole : r.flight.flushedAt ≤ a := h.whole.2 r hlast s.reported a hreported.ge ha
    have hanswer : r.reachedAt ≤ r.flight.flushedAt + gatewayInferenceTimeoutMs + d.answer :=
      hd.answer r hlast
    have hidle := (h.idle r hlast).1
    refine add_le_add_left (max_le ?_ ?_) _ <;> linarith

lemma close_lt (h : s.Inv) (hd : s.OnTime c d) {x : Millis} (hx : s.sentAt[s.reported]? = some x) :
    c < x + 2 * gatewayInferenceTimeoutMs + flushIntervalMs + d.total := by
  have htimeout : (0 : Millis) ≤ (gatewayInferenceTimeoutMs : ℕ) := Nat.cast_nonneg _
  have hinterval : (0 : Millis) ≤ (flushIntervalMs : ℕ) := Nat.cast_nonneg _
  have := d.answer_nonneg
  have := d.flush_nonneg
  have := d.next_nonneg
  unfold Delays.total
  cases ha : s.receivedAt[s.reported]? with
  | none =>
    -- the frame is still on its way
    have hmet : c < x + d.frame := by
      have hmet := hd.frame x hx
      rwa [ha] at hmet
    linarith
  | some a =>
    have hdue := due_le h hd hx ha
    have hflush := hd.flush a ha
    cases hout : s.out.head? with
    | none =>
      -- the gateway has not flushed it
      rw [hout] at hflush
      have hmet : c < s.due a + d.flush := hflush
      linarith
    | some f =>
      rw [hout] at hflush
      have hmet : f.flushedAt ≤ s.due a + d.flush := hflush
      have hnext : c < f.flushedAt + gatewayInferenceTimeoutMs + d.next := hd.next f hout
      linarith

theorem tail_not_blamed (hs : (system t).Reachable s) (hlength : s.sentAt.length < 2 ^ 64)
    (hc : s.now ≤ c) (hd : s.OnTime c d) (htotal : d.total ≤ flushIntervalMs) :
    checkTail s.sentAt.length s.check.lastNewest = none := by
  have h := (inv_inductive t).reachable hs
  rw [checkTail_eq_none_iff, h.check hlength]
  by_contra hlong
  obtain ⟨n, hn⟩ : ∃ n, s.sentAt.length = s.reported + (300 + n) + 1 :=
    ⟨s.sentAt.length - s.reported - 301, by omega⟩
  have hx := List.getElem?_eq_getElem (l := s.sentAt) (i := s.reported) (by omega)
  have hy := List.getElem?_eq_getElem (l := s.sentAt) (i := s.reported + (300 + n)) (by omega)
  have hspan := sent_le h.sent hx hy
  have hsent := (h.clock _ (mem_of_getElem? hy)).2
  have hclose := close_lt h hd hx
  norm_num [frameIntervalMs, flushIntervalMs, gatewayInferenceTimeoutMs] at hspan hclose htotal
  linarith

def threeFrames : List (Millis × LinkEvent) :=
  [(0, .Send), (5, .Receive), (20, .Send), (25, .Receive), (1000, .Flush), (1010, .Send),
    (1015, .Receive), (1080, .Answer), (1085, .Reach)]

theorem tail_not_blamed_threeFrames : ∃ s, (system 0).Reachable s ∧ s.sentAt.length = 3 ∧
    s.reported = 2 ∧ checkTail s.sentAt.length s.check.lastNewest = none := by
  obtain ⟨s, hreach, hnow, hsent, hreceived, hidle, hout, r, hr, hnewest, hflushed, hreached⟩ :
      ∃ s, (system 0).Reachable s ∧ s.now = 1085 ∧ s.sentAt = [0, 20, 1010] ∧
        s.receivedAt = [5, 25, 1015] ∧ s.idleAt = 1080 ∧ s.out.isEmpty ∧ ∃ r ∈ s.last,
          r.flight.range.newest = 2 ∧ r.flight.flushedAt = 1000 ∧ r.reachedAt = 1085 :=
    Reachable.exists_of_exec threeFrames (by decide +kernel)
  replace hr : s.last = some r := hr
  have hreported : s.reported = 2 := by simp [reported, hr, hnewest]
  have hout : s.out = [] := isEmpty_iff.mp hout
  have hd : s.OnTime 1100 ⟨5, 0, 0, 0, by norm_num, le_refl 0, le_refl 0, le_refl 0⟩ := by
    refine ⟨?_, ?_, ?_, ?_⟩
    · simp [hreported, hsent, hreceived, Met]
      norm_num
    · rintro r' hr'
      cases hr.symm.trans hr'
      norm_num [Met, hflushed, hreached, gatewayInferenceTimeoutMs]
    · norm_num [hreported, hreceived, hout, Met, due, hr, nextIdleAt, hidle, flushIntervalMs]
    · simp [hout]
  refine ⟨s, hreach, by rw [hsent]; rfl, hreported, ?_⟩
  exact tail_not_blamed hreach (by rw [hsent]; decide) (by rw [hnow]; norm_num) hd
    (by norm_num [Delays.total, flushIntervalMs])

end Link

end SttBench.Loadgen
