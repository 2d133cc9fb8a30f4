import SttBench.Wire.Messages

/-! # typescript-bun: the bounded outbox -/

namespace SttBench.TypescriptBun

open Wire List

def partialChannelDepth : ℕ := 4

def reasonSendDropped : String := "outbound message dropped"

variable {μ : Type}

inductive SocketCall (μ : Type)
  | Send (message : μ) (status : ℤ)
  | Close (code : ℕ) (reason : String)

structure BoundedOutbox (μ : Type) where
  depth : ℕ
  queue : List μ
  /-- The tasks that await space. -/
  waiters : List ℕ
  closed : Bool
  pendingBackpressure : ℕ

namespace BoundedOutbox

def start (depth : ℕ) : BoundedOutbox μ := ⟨depth, [], [], false, 0⟩

def occupiedSlots (o : BoundedOutbox μ) : ℕ := o.queue.length + o.pendingBackpressure

def resolveSpace (o : BoundedOutbox μ) : BoundedOutbox μ := { o with waiters := o.waiters.tail }

def close (o : BoundedOutbox μ) : BoundedOutbox μ :=
  { o with closed := true, queue := [], pendingBackpressure := 0, waiters := [] }

def sendLoop (o : BoundedOutbox μ) :
    List μ → List ℤ → Option (BoundedOutbox μ × List (SocketCall μ))
  | [], _ => some ({ o with queue := [] }, [])
  | _ :: _, [] => none
  | next :: rest, status :: statuses =>
    if status = 0 then
      some (o.close, [.Send next status, .Close closeInternalError reasonSendDropped])
    else if status < 0 then
      some ({ o with queue := rest, pendingBackpressure := 1 }.resolveSpace, [.Send next status])
    else do
      let (o, calls) ← o.resolveSpace.sendLoop rest statuses
      return (o, .Send next status :: calls)

def drain (o : BoundedOutbox μ) (buffered : ℕ) (statuses : List ℤ) :
    Option (BoundedOutbox μ × List (SocketCall μ)) :=
  if o.closed then some (o, [])
  else if 0 < o.pendingBackpressure then
    if 0 < buffered then some (o, [])
    else { o with pendingBackpressure := 0 }.resolveSpace.sendLoop o.queue statuses
  else o.sendLoop o.queue statuses

inductive Enqueued (μ : Type)
  | Parked (o : BoundedOutbox μ)
  | Done (o : BoundedOutbox μ) (calls : List (SocketCall μ))

def enqueue (o : BoundedOutbox μ) (task : ℕ) (message : μ) (buffered : ℕ) (statuses : List ℤ) :
    Option (Enqueued μ) :=
  if !o.closed && o.depth ≤ o.occupiedSlots then
    some (.Parked { o with waiters := o.waiters ++ [task] })
  else if o.closed then some (.Done o [])
  else do
    let (o, calls) ← { o with queue := o.queue ++ [message] }.drain buffered statuses
    return .Done o calls

/-! ## What the socket has been given -/

def accepted : List (SocketCall μ) → List μ
  | [] => []
  | .Send message status :: calls =>
    if status = 0 then accepted calls else message :: accepted calls
  | .Close _ _ :: calls => accepted calls

@[simp] lemma accepted_append (calls calls' : List (SocketCall μ)) :
    accepted (calls ++ calls') = accepted calls ++ accepted calls' := by
  induction calls with
  | nil => rfl
  | cons call calls ih =>
    cases call with
    | Close code reason => exact ih
    | Send message status =>
      simp only [cons_append, accepted, ih]
      split_ifs <;> rfl

def AllTaken (calls : List (SocketCall μ)) : Prop :=
  ∀ call ∈ calls, ∃ message status, call = .Send message status ∧ status ≠ 0

def IsClose (call : SocketCall μ) : Prop := ∃ code reason, call = .Close code reason

def DropCloses : List (SocketCall μ) → Prop
  | [] => True
  | .Close _ _ :: calls => DropCloses calls
  | .Send _ status :: calls =>
    (status = 0 → calls.head? = some (.Close closeInternalError reasonSendDropped) ∧
      ∀ call ∈ calls, IsClose call) ∧ DropCloses calls

variable {calls : List (SocketCall μ)} {buffered : ℕ} {statuses : List ℤ}

lemma AllTaken.concat (h : AllTaken calls) (message : μ) {status : ℤ}
    (hstatus : status ≠ 0) : AllTaken (calls ++ [.Send message status]) := by
  intro call hcall
  obtain hcall | hcall := mem_append.mp hcall
  · exact h call hcall
  · exact ⟨message, status, mem_singleton.mp hcall, hstatus⟩

lemma AllTaken.dropCloses_drop (h : AllTaken calls) (message : μ) :
    DropCloses (calls ++ [.Send message 0, .Close closeInternalError reasonSendDropped]) := by
  induction calls with
  | nil => exact ⟨fun _ => ⟨rfl, fun call hcall => ⟨_, _, mem_singleton.mp hcall⟩⟩, trivial⟩
  | cons call calls ih =>
    obtain ⟨⟨message', status, rfl, hne⟩, hrest⟩ := forall_mem_cons.mp h
    exact ⟨fun hzero => absurd hzero hne, ih hrest⟩

lemma AllTaken.dropCloses (h : AllTaken calls) :
    DropCloses calls := by
  induction calls with
  | nil => trivial
  | cons call calls ih =>
    obtain ⟨⟨message', status, rfl, hne⟩, hrest⟩ := forall_mem_cons.mp h
    exact ⟨fun hzero => absurd hzero hne, ih hrest⟩

lemma DropCloses.close (h : DropCloses calls) (code : ℕ)
    (reason : String) : DropCloses (calls ++ [.Close code reason]) := by
  induction calls with
  | nil => trivial
  | cons call calls ih =>
    cases call with
    | Close code' reason' => exact ih h
    | Send message status =>
      refine ⟨fun hzero => ?_, ih h.2⟩
      obtain ⟨hhead, hall⟩ := h.1 hzero
      refine ⟨?_, ?_⟩
      · show (calls ++ [SocketCall.Close code reason]).head? = _
        rw [List.head?_append, hhead]
        rfl
      · intro call hcall
        obtain hcall | hcall := mem_append.mp hcall
        · exact hall call hcall
        · exact ⟨code, reason, mem_singleton.mp hcall⟩

/-! ## The invariant -/

structure Inv (o : BoundedOutbox μ) (calls : List (SocketCall μ)) (given : List μ) : Prop where
  taken : o.closed = false → AllTaken calls ∧ accepted calls ++ o.queue = given
  begin : accepted calls <+: given
  drops : DropCloses calls
  occupied : o.occupiedSlots ≤ o.depth
  single : o.waiters.length ≤ 1
  /-- Who waits, waits for space. -/
  parked : o.waiters ≠ [] → o.closed = false ∧ o.depth ≤ o.occupiedSlots

variable {o o' : BoundedOutbox μ} {calls calls' : List (SocketCall μ)} {given : List μ}

lemma inv_start (depth : ℕ) : (start depth : BoundedOutbox μ).Inv [] [] :=
  ⟨fun _ => ⟨nofun, rfl⟩, prefix_refl _, trivial, Nat.zero_le _, Nat.zero_le _, nofun⟩

lemma Inv.resolveSpace_waiters (h : o.Inv calls given) : o.resolveSpace.waiters = [] := by
  have := h.single
  rw [resolveSpace, ← length_eq_zero_iff, length_tail]
  omega

lemma Inv.close (h : o.Inv calls given) : o.close.Inv calls given :=
  ⟨nofun, h.begin, h.drops, Nat.zero_le _, Nat.zero_le _, fun hne => absurd rfl hne⟩

lemma Inv.discard (h : o.Inv calls given) (hclosed : o.closed = true) (message : μ) :
    o.Inv calls (given ++ [message]) := by
  refine ⟨fun hopen => ?_, h.begin.trans (prefix_append _ _), h.drops, h.occupied, h.single,
    h.parked⟩
  rw [hclosed] at hopen
  cases hopen

lemma Inv.close_socket (h : o.Inv calls given) (hclosed : o.closed = true) (code : ℕ)
    (reason : String) : o.Inv (calls ++ [.Close code reason]) given := by
  refine ⟨fun hopen => ?_, ?_, h.drops.close code reason, h.occupied, h.single, h.parked⟩
  · rw [hclosed] at hopen
    cases hopen
  · simpa [accepted] using h.begin

lemma Inv.next {next : μ} {rest : List μ} {status : ℤ} {pending : ℕ}
    (h : { o with queue := next :: rest }.Inv calls given) (hopen : o.closed = false)
    (hstatus : status ≠ 0) (hpending : pending ≤ o.pendingBackpressure + 1) :
    { o.resolveSpace with queue := rest, pendingBackpressure := pending }.Inv
      (calls ++ [SocketCall.Send next status]) given := by
  obtain ⟨htaken, hgiven⟩ := h.taken hopen
  have hgiven' : accepted (calls ++ [SocketCall.Send next status]) ++ rest = given := by
    simpa [accepted, hstatus] using hgiven
  have htaken' := htaken.concat next hstatus
  have hwaiters := h.resolveSpace_waiters
  have hroom : (next :: rest).length + o.pendingBackpressure ≤ o.depth := h.occupied
  refine ⟨fun _ => ⟨htaken', hgiven'⟩, ⟨rest, hgiven'⟩, htaken'.dropCloses, ?_, ?_, ?_⟩
  · show rest.length + pending ≤ o.depth
    rw [length_cons] at hroom
    omega
  · exact hwaiters ▸ Nat.zero_le _
  · exact fun hne => absurd hwaiters hne

lemma Inv.sendLoop {queue : List μ} :
    ∀ {o : BoundedOutbox μ} {statuses : List ℤ} {calls calls' : List (SocketCall μ)},
      o.closed = false → { o with queue := queue }.Inv calls given →
      o.sendLoop queue statuses = some (o', calls') → o'.Inv (calls ++ calls') given := by
  induction queue with
  | nil =>
    intro o statuses calls calls' _ hinv h
    cases h
    simpa using hinv
  | cons next rest ih =>
    intro o statuses calls calls' hopen hinv h
    cases statuses with
    | nil => cases h
    | cons status statuses =>
      rw [BoundedOutbox.sendLoop] at h
      split_ifs at h with hzero hneg
      · -- dropped
        subst hzero
        cases h
        have hdrops := (hinv.taken hopen).1.dropCloses_drop next
        refine ⟨nofun, ?_, hdrops, Nat.zero_le _, Nat.zero_le _, fun hne => absurd rfl hne⟩
        simpa [accepted] using hinv.begin
      · -- buffered: its slot stays occupied
        cases h
        exact hinv.next hopen hzero (Nat.le_add_left 1 _)
      · -- sent
        obtain ⟨⟨o₁, calls₁⟩, hloop, heq⟩ := Option.bind_eq_some_iff.mp h
        cases heq
        have hnext := hinv.next hopen hzero (Nat.le_succ o.pendingBackpressure)
        have hrest := ih (o := o.resolveSpace) hopen hnext hloop
        rwa [append_assoc] at hrest

lemma Inv.drain (hinv : o.Inv calls given)
    (h : o.drain buffered statuses = some (o', calls')) : o'.Inv (calls ++ calls') given := by
  rw [BoundedOutbox.drain] at h
  split_ifs at h with hclosed hpending hbuffered
  · cases h
    rwa [append_nil]
  · cases h
    rwa [append_nil]
  · -- the socket has written what it had buffered
    have hwaiters := hinv.resolveSpace_waiters
    have hopen : o.closed = false := by simpa using hclosed
    refine Inv.sendLoop (o := { o with pendingBackpressure := 0 }.resolveSpace) hopen ?_ h
    refine ⟨hinv.taken, hinv.begin, hinv.drops, ?_, ?_, ?_⟩
    · exact Nat.le_trans (Nat.le_add_right _ _) hinv.occupied
    · exact hwaiters ▸ Nat.zero_le _
    · exact fun hne => absurd hwaiters hne
  · exact Inv.sendLoop (by simpa using hclosed) hinv h

structure Keeps (o o' : BoundedOutbox μ) : Prop where
  depth : o'.depth = o.depth
  closed : o.closed = true → o'.closed = true

lemma sendLoop_keeps {queue : List μ} :
    ∀ {o : BoundedOutbox μ} {statuses : List ℤ} {calls : List (SocketCall μ)},
      o.sendLoop queue statuses = some (o', calls) → o.Keeps o' ∧ o'.waiters <:+ o.waiters := by
  induction queue with
  | nil =>
    intro o statuses calls h
    obtain ⟨rfl, -⟩ := Prod.ext_iff.mp (Option.some.inj h)
    exact ⟨⟨rfl, id⟩, suffix_refl _⟩
  | cons next rest ih =>
    intro o statuses calls h
    cases statuses with
    | nil => cases h
    | cons status statuses =>
      rw [sendLoop] at h
      split_ifs at h
      · obtain ⟨rfl, -⟩ := Prod.ext_iff.mp (Option.some.inj h)
        exact ⟨⟨rfl, fun _ => rfl⟩, nil_suffix⟩
      · obtain ⟨rfl, -⟩ := Prod.ext_iff.mp (Option.some.inj h)
        exact ⟨⟨rfl, id⟩, tail_suffix _⟩
      · obtain ⟨⟨o₁, calls₁⟩, hloop, heq⟩ := Option.bind_eq_some_iff.mp h
        obtain ⟨rfl, -⟩ := Prod.ext_iff.mp (Option.some.inj heq)
        obtain ⟨hkeeps, hsuffix⟩ := ih hloop
        exact ⟨⟨hkeeps.depth, hkeeps.closed⟩, hsuffix.trans (tail_suffix _)⟩

lemma drain_keeps
    (h : o.drain buffered statuses = some (o', calls')) : o.Keeps o' ∧ o'.waiters <:+ o.waiters := by
  rw [BoundedOutbox.drain] at h
  split_ifs at h
  · obtain ⟨rfl, -⟩ := Prod.ext_iff.mp (Option.some.inj h)
    exact ⟨⟨rfl, id⟩, suffix_refl _⟩
  · obtain ⟨rfl, -⟩ := Prod.ext_iff.mp (Option.some.inj h)
    exact ⟨⟨rfl, id⟩, suffix_refl _⟩
  · obtain ⟨hkeeps, hsuffix⟩ := sendLoop_keeps h
    exact ⟨⟨hkeeps.depth, hkeeps.closed⟩, hsuffix.trans (tail_suffix _)⟩
  · exact sendLoop_keeps h

lemma Inv.enqueue (hinv : o.Inv calls given) {task : ℕ} {message : μ}
    (hwaiters : o.waiters = []) {r : Enqueued μ}
    (h : o.enqueue task message buffered statuses = some r) :
    (∃ o', r = .Parked o' ∧ o.Keeps o' ∧ o'.waiters = [task] ∧ o'.Inv calls given) ∨
      ∃ o' calls', r = .Done o' calls' ∧ o.Keeps o' ∧ o'.waiters = [] ∧
        o'.Inv (calls ++ calls') (given ++ [message]) := by
  rw [BoundedOutbox.enqueue] at h
  split_ifs at h with hfull hclosed
  · cases h
    simp only [Bool.and_eq_true, Bool.not_eq_true', decide_eq_true_eq] at hfull
    refine .inl ⟨_, rfl, ⟨rfl, id⟩, by simp [hwaiters], ?_⟩
    exact ⟨hinv.taken, hinv.begin, hinv.drops, hinv.occupied, by simp [hwaiters], fun _ => hfull⟩
  · cases h
    refine .inr ⟨o, [], rfl, ⟨rfl, id⟩, hwaiters, ?_⟩
    rw [append_nil]
    exact hinv.discard hclosed message
  · obtain ⟨⟨o', calls'⟩, hdrain, heq⟩ := Option.bind_eq_some_iff.mp h
    cases heq
    have hopen : o.closed = false := by simpa using hclosed
    have hroom : o.occupiedSlots < o.depth := by
      simpa only [hopen, Bool.not_false, Bool.true_and, decide_eq_true_eq, not_le] using hfull
    have hpushed : { o with queue := o.queue ++ [message] }.Inv calls (given ++ [message]) := by
      obtain ⟨htaken, hgiven⟩ := hinv.taken hopen
      refine ⟨fun _ => ⟨htaken, ?_⟩, hinv.begin.trans (prefix_append _ _), hinv.drops, ?_,
        hinv.single, fun hne => absurd hwaiters hne⟩
      · rw [← hgiven, append_assoc]
      · simp only [occupiedSlots, length_append, length_singleton] at hroom ⊢
        omega
    obtain ⟨hkeeps, hsuffix⟩ := drain_keeps hdrain
    rw [hwaiters, suffix_nil] at hsuffix
    exact .inr ⟨o', calls', rfl, ⟨hkeeps.depth, hkeeps.closed⟩, hsuffix, hpushed.drain hdrain⟩

end BoundedOutbox

end SttBench.TypescriptBun
