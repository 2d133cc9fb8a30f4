import SttBench.OxcamlEpoll.Answers

/-! # ocaml-oxcaml-epoll: what a step does to the connections and the timers -/

namespace SttBench.OxcamlEpoll

open Ascii Conn

structure View where
  conns : ℕ → Option Conn
  traces : ℕ → Trace
  timers : List Timer
  nextConnId : ℕ

def Server.view (s : Server) : View := ⟨s.conns, s.traces, s.timers, s.nextConnId⟩

def View.handled (v : View) (id : ℕ) (r : Handled) : View :=
  { v with
    conns := Function.update v.conns id (some r.conn)
    traces := Function.update v.traces id ((v.traces id).extend r) }

lemma View.handled_handled (v : View) (id : ℕ) (c : Conn) (r : Handled) :
    (v.handled id ⟨c, [], []⟩).handled id r = v.handled id r := by
  simp [handled, Trace.extend_nil]

def flushOf (id : ℕ) (c : Conn) : Timer := ⟨c.nextFlushMs, id, .Flush, c.flushGen⟩

def timeoutOf (id : ℕ) (p : Pending) : Timer :=
  ⟨p.startedMs + requestTimeoutMs, id, .Timeout, p.timeoutGen⟩

inductive Push
  | Flush (id : ℕ) (c : Conn)
  | Timeout (id : ℕ) (p : Pending)

def Push.timer : Push → Timer
  | .Flush id c => flushOf id c
  | .Timeout id p => timeoutOf id p

def Push.batch? : Push → Option (ℕ × Pending)
  | .Flush _ _ => none
  | .Timeout id p => some (id, p)

def CloseLast (out : List Out) : Prop :=
  ∀ before code behind, out = before ++ .Close code :: behind → behind = []

lemma closeLast_of_not_mem {out : List Out} (h : ∀ code, .Close code ∉ out) : CloseLast out := by
  rintro before code behind rfl
  exact absurd (by simp) (h code)

lemma closeLast_single (o : Out) : CloseLast [o] := by
  intro before code behind h
  rcases List.cons_eq_append_iff.mp h with ⟨-, h⟩ | ⟨before, -, h⟩
  · exact (List.cons.inj h).2
  · simp at h

lemma CloseLast.append {out out' : List Out} (h : CloseLast out')
    (hnone : ∀ code, .Close code ∉ out) : CloseLast (out ++ out') := by
  intro before code behind heq
  rcases List.append_eq_append_iff.mp heq with ⟨mid, -, hout'⟩ | ⟨mid, hout, hbehind⟩
  · exact h _ _ _ hout'
  · cases mid with
    | nil => exact h [] code behind hbehind.symm
    | cons o mid =>
      obtain ⟨rfl, -⟩ := List.cons.inj hbehind
      exact absurd (by simp [hout]) (hnone code)

namespace Conn

def reschedule (c : Conn) (config : Config) : Conn :=
  { c with nextFlushMs := c.nextFlushMs + config.flushIntervalMs, flushGen := c.flushGen + 1 }

structure Serves (c : Conn) (r : Handled) : Prop where
  nextFlushMs : r.conn.nextFlushMs = c.nextFlushMs
  flushGen : r.conn.flushGen = c.flushGen
  pending : r.conn.pending = c.pending
  timeoutGen : r.conn.timeoutGen = c.timeoutGen
  closing : c.closeAfterWrite = true → r.conn.closeAfterWrite = true
  closes : ∀ code, .Close code ∈ r.out → r.conn.closeAfterWrite = true
  closeLast : c.closeAfterWrite = false → CloseLast r.out

lemma serves_refl (c : Conn) : c.Serves ⟨c, [], []⟩ :=
  ⟨rfl, rfl, rfl, rfl, id, by simp, fun _ => closeLast_of_not_mem (by simp)⟩

lemma clientRule_serves : ClientRule Serves where
  refl := serves_refl
  trans h h' hclosing :=
    { nextFlushMs := h'.nextFlushMs.trans h.nextFlushMs
      flushGen := h'.flushGen.trans h.flushGen
      pending := h'.pending.trans h.pending
      timeoutGen := h'.timeoutGen.trans h.timeoutGen
      closing := h'.closing ∘ h.closing
      closes := fun code hmem =>
        (List.mem_append.mp hmem).elim (fun hmem => h'.closing (h.closes code hmem))
          (h'.closes code)
      closeLast := fun hopen => by
        have hopen' := hclosing.trans hopen
        refine (h'.closeLast hopen').append fun code hmem => ?_
        cases (h.closes code hmem).symm.trans hopen' }
  input c _ := { serves_refl c with }
  start c := { serves_refl c with }
  record c _ _ _ := { serves_refl c with }
  pong _ _ := ⟨rfl, rfl, rfl, rfl, id, by simp, fun _ => closeLast_of_not_mem (by simp)⟩
  close _ code := ⟨rfl, rfl, rfl, rfl, fun _ => rfl, fun _ _ => rfl, fun _ => closeLast_single _⟩
  respond _ _ _ _ :=
    ⟨rfl, rfl, rfl, rfl, fun _ => rfl, fun _ _ => rfl, fun _ => closeLast_single _⟩
  upgrade _ _ := ⟨rfl, rfl, rfl, rfl, id, by simp, fun _ => closeLast_single _⟩

lemma writeLoop_serves {c c' : Conn} {writes : List WriteResult}
    (h : c.writeLoop writes = some c') : c.Serves ⟨c', [], []⟩ := by
  fun_induction writeLoop c writes with
  | case1 | case2 | case6 =>
    cases h
    exact clientRule_serves.refl _
  | case3 c ws _ ih | case7 c ws _ ih => exact ih h
  | case4 c ws _ ih => exact { ih h with }
  | case5 | case8 => cases h

lemma write_serves {c c' : Conn} {writes : List WriteResult} (h : c.write writes = some c') :
    c.Serves ⟨c', [], []⟩ := by
  obtain ⟨c₁, hloop, h⟩ := Option.bind_eq_some_iff.mp h
  split_ifs at h
  cases h
  exact writeLoop_serves hloop

end Conn

/-! ## Acts -/

inductive Act (g : Setup) (reads : Conn → Prop) (v : View) : List Push → View → Prop
  | read {id : ℕ} {c : Conn} {r : Handled} (hc : v.conns id = some c) (hreads : reads c)
      (hr : c.Serves r) : Act g reads v [] (v.handled id r)
  | write {id : ℕ} {c c' : Conn} (hc : v.conns id = some c) (hr : c.Serves ⟨c', [], []⟩) :
      Act g reads v [] (v.handled id ⟨c', [], []⟩)
  | accept (now jitter : Ms) :
      Act g reads v [.Flush v.nextConnId (Conn.new g.config now jitter)]
        { v with
          conns := Function.update v.conns v.nextConnId (some (Conn.new g.config now jitter))
          nextConnId := v.nextConnId + 1
          timers := flushOf v.nextConnId (Conn.new g.config now jitter) :: v.timers }
  | close (id : ℕ) : Act g reads v [] { v with conns := Function.update v.conns id none }
  | answer {id : ℕ} {c : Conn} {p : Pending} {out : Out} (hc : v.conns id = some c)
      (hp : c.pending = some p) (hout : ∀ code, out ≠ .Close code) :
      Act g reads v [] (v.handled id ((c.setPending none).enqueueGeneratedText out))
  | flush {id : ℕ} {c : Conn} (hc : v.conns id = some c) (hopen : c.closeAfterWrite = false) :
      Act g reads v [.Flush id (c.reschedule g.config)]
        { v.handled id ⟨c.reschedule g.config, [], []⟩ with
          timers := flushOf id (c.reschedule g.config) :: v.timers }
  | submit {id : ℕ} {c : Conn} {p : Pending} (hc : v.conns id = some c)
      (hopen : c.closeAfterWrite = false) (hnone : c.pending = none)
      (hgen : p.timeoutGen = c.timeoutGen + 1) :
      Act g reads v [.Timeout id p]
        { v.handled id
            ⟨({ c with timeoutGen := p.timeoutGen } : Conn).drain.setPending (some p), [], []⟩ with
          timers := timeoutOf id p :: v.timers }
  | refuse {id : ℕ} {c : Conn} (hc : v.conns id = some c) (hopen : c.closeAfterWrite = false)
      (hnone : c.pending = none) (err : Error) :
      Act g reads v []
        (v.handled id ((({ c with timeoutGen := c.timeoutGen + 1 } : Conn).drain.setPending
          none).enqueueGeneratedText (.Error err)))

inductive Acts (g : Setup) (reads : Conn → Prop) : View → List Push → View → Prop
  | refl (v : View) : Acts g reads v [] v
  | head {v v₁ v' : View} {l l' : List Push} (h : Act g reads v l v₁)
      (h' : Acts g reads v₁ l' v') : Acts g reads v (l ++ l') v'

namespace Acts

variable {g : Setup} {reads : Conn → Prop} {v v₁ v' : View} {l l' : List Push}

lemma single (h : Act g reads v l v') : Acts g reads v l v' := by
  simpa using head h (refl v')

lemma trans (h : Acts g reads v l v₁) (h' : Acts g reads v₁ l' v') :
    Acts g reads v (l ++ l') v' := by
  induction h with
  | refl v => exact h'
  | head hact _ ih =>
    rw [List.append_assoc]
    exact head hact (ih h')

lemma of_view (h : Acts g reads v₁ l v') (hview : v₁ = v) : Acts g reads v l v' := hview ▸ h

end Acts

/-! ## The handlers -/

namespace Server

def ownerOf (s : Server) (idx : ℕ) : Option ℕ := s.slots[idx]?.bind Slot.owner

variable {g : Setup} {reads : Conn → Prop} {s t : Server} {idx id : ℕ} {slot : Slot} {c : Conn}
  {io : Io}

lemma ownerOf_of_slot (hslot : s.slots[idx]? = some slot) : s.ownerOf idx = slot.owner := by
  rw [ownerOf, hslot]
  rfl

lemma forOwned_rel {Q : Server → Server → Prop} {f : Server → ℕ → Slot → Except Exn Server}
    (hrefl : ∀ s, Q s s) (htrans : ∀ {s t u}, Q s t → Q t u → Q s u)
    (hf : ∀ s idx slot t, f s idx slot = .ok t → Q s t) (hok : s.forOwned id f = .ok t) :
    Q s t := by
  have hone : ∀ (s : Server) j t, onOwned id f s j = .ok t → Q s t := by
    intro s j t hj
    unfold onOwned at hj
    split at hj
    · cases hj
      exact hrefl s
    · split_ifs at hj
      · exact hf _ _ _ _ hj
      · cases hj
        exact hrefl s
  have hfold : ∀ (l : List ℕ) (s : Server), l.foldlM (onOwned id f) s = .ok t → Q s t := by
    intro l
    induction l with
    | nil =>
      rintro s ⟨⟩
      exact hrefl _
    | cons j l ih =>
      intro s hl
      rw [List.foldlM_cons] at hl
      obtain ⟨u, hu, hl⟩ := exists_ok_of_bind hl
      exact htrans (hone s j u hu) (ih u hl)
  exact hfold _ s hok

end Server

structure HandlerRule (g : Setup) (reads : Conn → Prop) (R : Server → Server → Prop) : Prop where
  trans : ∀ {s t u}, R s t → R t u → R s u
  same : ∀ {s t : Server}, t.slots = s.slots → t.view = s.view → R s t
  store : ∀ {s t : Server} {idx : ℕ} {slot : Slot},
    t.slots = s.slots.set idx slot → slot.owner = none ∨ slot.owner = s.ownerOf idx →
      t.view = s.view → R s t
  act : ∀ {s t : Server}, t.slots = s.slots → Act g reads s.view [] t.view → R s t

namespace HandlerRule

variable {g : Setup} {reads : Conn → Prop} {R : Server → Server → Prop} {s t : Server}
  {idx id events : ℕ} {slot : Slot} {c : Conn} {io : Io} (h : HandlerRule g reads R)
include h

lemma refl (s : Server) : R s s := h.same rfl rfl

lemma freeSlot (hok : s.freeSlot idx slot = .ok t) : R s t ∧ t.view = s.view := by
  unfold Server.freeSlot at hok
  split_ifs at hok with hfree
  · cases hok
    exact ⟨h.store rfl (.inl (of_decide_eq_true hfree).2) rfl, rfl⟩
  · obtain ⟨free, -, rfl⟩ := exists_ok_of_map hok
    exact ⟨h.store rfl (.inl rfl) rfl, rfl⟩

lemma deliverResult (s : Server) (owner : ℕ) (result : InferResult) (clock : Ms) :
    R s (s.deliverResult g owner result clock) := by
  unfold Server.deliverResult
  split
  · exact h.refl s
  · rename_i c hc
    split
    · exact h.refl s
    · rename_i p hp
      split
      · exact h.act rfl (.answer hc hp (by simp))
      · exact h.act rfl (.answer hc hp (by simp))

lemma slotDone {result : InferResult} {clock : Ms}
    (hok : s.slotDone g idx slot result clock = .ok t) : R s t := by
  obtain ⟨u, hu, rfl⟩ := exists_ok_of_map hok
  refine h.trans (h.freeSlot hu).1 ?_
  split
  · exact h.refl u
  · refine h.trans ?_ (h.deliverResult _ _ _ _)
    exact h.same rfl rfl

lemma retryOrFail {message : String} (howner : slot.owner = s.ownerOf idx)
    (hok : s.retryOrFail g idx slot message io = .ok t) : R s t := by
  rw [Server.retryOrFail] at hok
  split_ifs at hok
  · refine h.trans ?_ (h.slotDone hok)
    exact h.same rfl rfl
  · dsimp only at hok
    split at hok
    · cases hok
      exact h.store rfl (.inr ((Slot.connect_owner ..).trans howner)) rfl
    · refine h.trans ?_ (h.slotDone hok)
      exact h.store rfl (.inr ((Slot.connect_owner ..).trans howner)) rfl

lemma respond {p : HttpResponse.Parsed} (hok : s.respond g idx slot p io = .ok t) : R s t := by
  unfold Server.respond at hok
  dsimp only at hok
  split_ifs at hok
  · exact h.slotDone hok
  · exact h.slotDone hok
  · split at hok
    · cases hok
    · exact h.slotDone hok
    · exact h.slotDone hok

lemma driveSlot (hslot : s.slots[idx]? = some slot) (hok : s.driveSlot g idx slot io = .ok t) :
    R s t := by
  have howner : slot.owner = s.ownerOf idx := (Server.ownerOf_of_slot hslot).symm
  -- the slot as the loop leaves it has been stored, whatever the wires are
  have hstored {slot' : Slot} (hsame : slot'.owner = slot.owner) {u : Server}
      (hslots : u.slots = s.slots.set idx slot') (hview : u.view = s.view) :
      R s u ∧ slot'.owner = u.ownerOf idx := by
    refine ⟨h.store hslots (.inr (hsame.trans howner)) hview, ?_⟩
    have hlt := (List.getElem?_eq_some_iff.mp hslot).1
    rw [Server.ownerOf, hslots, List.getElem?_set_self hlt]
    rfl
  unfold Server.driveSlot at hok
  split at hok
  · cases hok
    exact h.refl s
  · cases hok
    exact h.refl s
  · split at hok
    · cases hok
      exact h.store rfl (.inr howner) rfl
    · exact h.retryOrFail howner hok
  · have hsent {u : Server} := hstored (slot.sendLoop_same io.sends).1.owner (u := u)
    dsimp only at hok
    split at hok
    · cases hok
      exact (hsent (by split_ifs <;> rfl) (by split_ifs <;> rfl)).1
    · refine h.trans (hsent ?_ ?_).1 (h.retryOrFail (hsent ?_ ?_).2 hok)
      all_goals split_ifs <;> rfl
  · have hread {u : Server} := hstored (slot.recvLoop_same io.reads).1.owner (u := u)
    dsimp only at hok
    split at hok
    · cases hok
      refine (hread ?_ ?_).1 <;> rfl
    · refine h.trans (hread ?_ ?_).1 (h.retryOrFail (hread ?_ ?_).2 hok)
      all_goals rfl
    · refine h.trans (hread ?_ ?_).1 (h.respond hok)
      all_goals rfl

lemma forOwned {f : Server → ℕ → Slot → Except Exn Server}
    (hf : ∀ s idx slot t, f s idx slot = .ok t → R s t ∧ t.view = s.view)
    (hok : s.forOwned id f = .ok t) : R s t ∧ t.view = s.view :=
  Server.forOwned_rel (Q := fun s t => R s t ∧ t.view = s.view) (fun s => ⟨h.refl s, rfl⟩)
    (fun hst htu => ⟨h.trans hst.1 htu.1, htu.2.trans hst.2⟩) hf hok

lemma closeConn (hok : s.closeConn id = .ok t) : R s t := by
  obtain ⟨u, hu, rfl⟩ := exists_ok_of_map hok
  refine h.trans (h.forOwned (fun s idx slot t hf => ?_) hu).1 (h.act rfl (.close id))
  obtain ⟨free, -, rfl⟩ := exists_ok_of_map hf
  exact ⟨h.store rfl (.inl rfl) rfl, rfl⟩

lemma timeoutConn {now : Ms} {gen : ℕ} (hc : s.conns id = some c)
    (hok : s.timeoutConn id c now gen io = .ok t) : R s t := by
  unfold Server.timeoutConn at hok
  split at hok
  · cases hok
    exact h.refl s
  · rename_i p hp
    split_ifs at hok
    · cases hok
      exact h.refl s
    · obtain ⟨u, hu, rfl⟩ := exists_ok_of_map hok
      obtain ⟨hfreed, hview⟩ := h.forOwned (fun _ _ _ _ => h.freeSlot) hu
      have hcu : u.view.conns id = some c := by rw [hview]; exact hc
      exact h.trans hfreed (h.act rfl (.answer hcu hp (by simp)))

lemma writeConn (hok : s.writeConn id io = .ok t) : R s t := by
  unfold Server.writeConn at hok
  split at hok
  · cases hok
    exact h.refl s
  · rename_i c hc
    cases hwrite : c.write io.writes with
    | none =>
      rw [hwrite] at hok
      exact h.closeConn hok
    | some c' =>
      rw [hwrite] at hok
      cases hok
      exact h.act rfl (.write hc (write_serves hwrite))

lemma connEvent (hreads : events &&& epollin ≠ 0 → ∀ c, s.conns id = some c → reads c)
    (hok : s.connEvent g id events io = .ok t) : R s t := by
  unfold Server.connEvent at hok
  split at hok
  · cases hok
    exact h.refl s
  · rename_i c hc
    split at hok
    · exact h.closeConn hok
    · obtain ⟨u, hu, hok⟩ := exists_ok_of_bind hok
      have hread : R s u := by
        split_ifs at hu with hin
        · cases hr : c.read (startMessageOk g.decoders) io.received io.reads with
          | none =>
            rw [hr] at hu
            exact h.closeConn hu
          | some r =>
            rw [hr] at hu
            cases hu
            exact h.act rfl (.read hc (hreads hin c hc) (clientRule_serves.read hr))
        · cases hu
          exact h.refl s
      refine h.trans hread ?_
      split_ifs at hok
      · exact h.writeConn hok
      · cases hok
        exact h.refl _

lemma slotEventRest {readable : Bool} (hok : s.slotEventRest g idx events readable io = .ok t) :
    R s t := by
  unfold Server.slotEventRest at hok
  split at hok
  · cases hok
    exact h.refl s
  · rename_i slot hslot
    split_ifs at hok
    · exact h.retryOrFail (Server.ownerOf_of_slot hslot).symm hok
    · cases hok
      exact h.refl s
    · exact h.driveSlot hslot hok
    · cases hok
      exact h.refl s

lemma slotEvent (hok : s.slotEvent g idx events io = .ok t) : R s t := by
  unfold Server.slotEvent at hok
  split at hok
  · cases hok
    exact h.refl s
  · rename_i slot hslot
    split_ifs at hok
    · obtain ⟨u, hu, hok⟩ := exists_ok_of_bind hok
      exact h.trans (h.driveSlot hslot hu) (h.slotEventRest hok)
    · exact h.slotEventRest hok
    · cases hok
      exact h.refl s

end HandlerRule

lemma handlerRule_acts (g : Setup) (reads : Conn → Prop) :
    HandlerRule g reads fun s t => Acts g reads s.view [] t.view where
  trans h h' := h.trans h'
  same _ hview := (Acts.refl _).of_view hview
  store _ _ hview := (Acts.refl _).of_view hview
  act _ h := .single h

namespace Server

variable {g : Setup} {reads : Conn → Prop} {s t : Server} {id : ℕ} {c : Conn} {io : Io}

def pushes (g : Setup) (s : Server) (t : Timer) (now : Ms) : List Push :=
  match s.conns t.token with
  | none => []
  | some c =>
    if t.kind = .Flush ∧ t.gen = c.flushGen ∧ c.closeAfterWrite = false then
      .Flush t.token (c.reschedule g.config) ::
        if c.pending = none ∧ c.batchFrames ≠ 0 ∧ s.freeSlots.data ≠ [] then
          [.Timeout t.token (batchOf c (max 0 (now - c.nextFlushMs)) now)]
        else []
    else []

def submission (g : Setup) (s : Server) : Event → List (ℕ × Pending)
  | .Timer t now _ => (s.pushes g t now).filterMap Push.batch?
  | .Ready _ _ _ => []

lemma submitInference_acts {p : Pending} (hc : s.conns id = some c)
    (hopen : c.closeAfterWrite = false) (hnone : c.pending = none)
    (hgen : p.timeoutGen = c.timeoutGen + 1)
    (hok : (s.handled id ⟨{ c with timeoutGen := p.timeoutGen }, [], []⟩).submitInference g id
      { c with timeoutGen := p.timeoutGen } p io = .ok t) :
    Acts g reads s.view (if s.freeSlots.data = [] then [] else [.Timeout id p]) t.view := by
  have hsubmit : Act g reads s.view [.Timeout id p] _ := .submit hc hopen hnone hgen
  rw [← View.handled_handled _ _ { c with timeoutGen := p.timeoutGen }] at hsubmit
  unfold submitInference at hok
  cases hfree : s.freeSlots.data with
  | nil =>
    have hpop : s.freeSlots.pop = none := by rw [IntStack.pop, hfree]
    have hpop' : (s.handled id ⟨{ c with timeoutGen := p.timeoutGen }, [], []⟩).freeSlots.pop =
        none := hpop
    rw [hpop'] at hok
    cases hok
    rw [if_pos rfl]
    have hrefuse : Act g reads s.view [] _ := .refuse hc hopen hnone (errorFor
      ({ c with timeoutGen := p.timeoutGen } : Conn).drain p
      (makeTransportError .ConnectionReset "inference pool exhausted" 0) io.clock)
    rw [← hgen, ← View.handled_handled _ _ { c with timeoutGen := p.timeoutGen }] at hrefuse
    exact .single hrefuse
  | cons idx data =>
    rw [if_neg (List.cons_ne_nil idx data)]
    have hpop : (s.handled id ⟨{ c with timeoutGen := p.timeoutGen }, [], []⟩).freeSlots.pop =
        some (idx, { s.freeSlots with data := data }) := by
      show s.freeSlots.pop = _
      rw [IntStack.pop, hfree]
    rw [hpop] at hok
    dsimp only at hok
    split at hok
    · cases hok
    · split_ifs at hok
      · split at hok
        · cases hok
          exact .single hsubmit
        · exact .head hsubmit ((handlerRule_acts g reads).slotDone hok)
      · cases hok
        exact .single hsubmit

lemma flushConn_acts {now : Ms} (hc : s.conns id = some c) (hopen : c.closeAfterWrite = false)
    (hok : s.flushConn g id c now io = .ok t) :
    Acts g reads s.view
      (.Flush id (c.reschedule g.config) ::
        if c.pending = none ∧ c.batchFrames ≠ 0 ∧ s.freeSlots.data ≠ [] then
          [.Timeout id (batchOf c (max 0 (now - c.nextFlushMs)) now)] else []) t.view := by
  let next := c.reschedule g.config
  let s₁ : Server := { s.handled id ⟨next, [], []⟩ with timers := flushOf id next :: s.timers }
  have hflush : Act g reads s.view [.Flush id next] s₁.view := .flush hc hopen
  unfold flushConn at hok
  rw [if_neg (by simp [hopen])] at hok
  dsimp only at hok
  split_ifs at hok with hwait
  · cases hok
    rw [if_neg]
    · exact .single hflush
    · rintro ⟨hnone, hframes, -⟩
      simp [hnone, hframes] at hwait
  · rw [not_or, Option.not_isSome_iff_eq_none] at hwait
    let p := batchOf next (max 0 (now - c.nextFlushMs)) now
    have hok' : (s₁.handled id ⟨{ next with timeoutGen := p.timeoutGen }, [], []⟩).submitInference
        g id { next with timeoutGen := p.timeoutGen } p io = .ok t := hok
    have hconn : s₁.conns id = some next := Function.update_self ..
    have hsubmit : Acts g reads s₁.view _ t.view :=
      submitInference_acts hconn hopen hwait.1 rfl hok'
    have hlabel : (if c.pending = none ∧ c.batchFrames ≠ 0 ∧ s.freeSlots.data ≠ [] then
        [Push.Timeout id p] else []) = if s₁.freeSlots.data = [] then [] else [.Timeout id p] := by
      show _ = if s.freeSlots.data = [] then [] else [Push.Timeout id p]
      by_cases hfree : s.freeSlots.data = []
      · rw [if_neg (by simp [hfree]), if_pos hfree]
      · rw [if_pos ⟨hwait.1, hwait.2, hfree⟩, if_neg hfree]
    rw [← hlabel] at hsubmit
    exact .head hflush hsubmit

lemma processTimer_acts {timer : Timer} {now : Ms}
    (hok : s.processTimer g timer now io = .ok t) :
    Acts g reads s.view (s.pushes g timer now) t.view := by
  unfold processTimer at hok
  unfold pushes
  cases hc : s.conns timer.token with
  | none =>
    rw [hc] at hok
    cases hok
    exact .refl _
  | some c =>
    rw [hc] at hok
    dsimp only at hok ⊢
    split_ifs at hok with hflush htimeout
    · by_cases hopen : c.closeAfterWrite = false
      · rw [if_pos ⟨hflush.1, hflush.2, hopen⟩]
        exact flushConn_acts hc hopen hok
      · rw [flushConn, if_pos (Bool.eq_true_of_not_eq_false hopen)] at hok
        cases hok
        rw [if_neg fun h => hopen h.2.2]
        exact .refl _
    · rw [if_neg (by simp [htimeout])]
      exact (handlerRule_acts g reads).timeoutConn hc hok
    · cases hok
      rw [if_neg fun h => hflush ⟨h.1, h.2.1⟩]
      exact .refl _

lemma acceptLoop_acts (g : Setup) (reads : Conn → Prop) (accepts : List (Ms × Ms)) :
    ∀ s : Server, ∃ l, Acts g reads s.view l (s.acceptLoop g accepts).view ∧
      l.filterMap Push.batch? = [] := by
  induction accepts with
  | nil => exact fun s => ⟨[], .refl _, rfl⟩
  | cons accepted accepts ih =>
    intro s
    obtain ⟨now, jitter⟩ := accepted
    rw [acceptLoop]
    obtain ⟨l, hacts, hl⟩ := ih _
    exact ⟨_, .head (.accept now jitter) (hacts.of_view rfl), hl⟩

def connOf (s : Server) (token : ℕ) : Option ℕ :=
  if token = listenerToken ∨ firstSlotToken ≤ token ∧ token < firstSlotToken + s.slots.length then
    none
  else if firstConnToken ≤ token then some (token - firstConnToken) else none

def Reads (reads : Conn → Prop) (s : Server) : Event → Prop
  | .Timer _ _ _ => True
  | .Ready token events _ =>
    events &&& epollin ≠ 0 → ∀ id ∈ s.connOf token, ∀ c ∈ s.conns id, reads c

def popped (s : Server) : Event → View
  | .Timer t _ _ => { s.view with timers := s.timers.erase t }
  | .Ready _ _ _ => s.view

theorem step_acts {e : Event} (hreads : s.Reads reads e) (hstep : s.step g e = some t) :
    ∃ l, Acts g reads (s.popped e) l t.view ∧ l.filterMap Push.batch? = s.submission g e ∧
      ∀ timer now io, e = .Timer timer now io → l = s.pushes g timer now := by
  cases e with
  | Timer timer now io =>
    rw [step] at hstep
    split_ifs at hstep
    refine ⟨s.pushes g timer now, ?_, rfl, by rintro _ _ _ ⟨⟩; rfl⟩
    have hacts : Acts g reads _ _ t.view := processTimer_acts (eq_ok_of_toOption hstep)
    exact hacts
  | Ready token events io =>
    have hok := eq_ok_of_toOption hstep
    unfold handleEvent at hok
    split_ifs at hok with hlistener hslot hconn
    · cases hok
      obtain ⟨l, hacts, hl⟩ := acceptLoop_acts g reads io.accepts s
      exact ⟨l, hacts, hl, by simp⟩
    · exact ⟨[], (handlerRule_acts g reads).slotEvent hok, rfl, by simp⟩
    · refine ⟨[], (handlerRule_acts g reads).connEvent (fun hin c hc => hreads hin _ ?_ c hc) hok,
        rfl, by simp⟩
      rw [connOf, if_neg (by simp [hlistener, hslot]), if_pos hconn]
      rfl
    · cases hok
      exact ⟨[], .refl _, rfl, by simp⟩

end Server

end SttBench.OxcamlEpoll
