import SttBench.JavaHelidon.Backlog

/-! # java-helidon-nima: messages in parts -/

namespace SttBench.JavaHelidon

open Ascii Wire TransitionSystem List

/-! ## A session and its container -/

inductive SplitMessage
  | Text (parts : List JavaString) (final : JavaString)
  | Binary (parts : List Bytes) (final : Bytes)
deriving DecidableEq, Repr

namespace SplitMessage

def callbacks : SplitMessage → List Callback
  | .Text parts final => parts.map (.Text · false) ++ [.Text final true]
  | .Binary parts final => parts.map (.Binary · false) ++ [.Binary final true]

def whole : SplitMessage → Callback
  | .Text parts final => .Text (parts.flatten ++ final) true
  | .Binary parts final => .Binary (parts.flatten ++ final) true

def Fits (env : Env) : SplitMessage → Prop
  | .Text parts final => parts ≠ [] → env.readStart (parts.flatten ++ final) = true →
      (parts.flatten ++ final).length ≤ maxStartChars
  | .Binary _ _ => True

end SplitMessage

def Callback.isMessage : Callback → Bool
  | .Text _ _ => true
  | .Binary _ _ => true
  | _ => false

def Event.isMessage : Event → Bool
  | .Callback callback => callback.isMessage
  | _ => false

inductive Turn
  | Deliver
  | Other (e : Event)

structure Fed where
  session : Session
  input : List Callback
  appended : List (Frame Nanos)

def Session.appendedBy (s s' : Session) : List (Frame Nanos) :=
  if s'.seq = s.seq then [] else s'.buffer.getLast?.toList

namespace Fed

def move (s : Fed) (input : List Callback) (s' : Session) : Fed :=
  ⟨s', input, s.appended ++ s.session.appendedBy s'⟩

def step (env : Env) (s : Fed) : Turn → Option Fed
  | .Deliver =>
    match s.input with
    | [] => none
    | callback :: input => (s.session.step env (.Callback callback)).map (s.move input)
  | .Other e => if e.isMessage then none else (s.session.step env e).map (s.move s.input)

end Fed

def fed (env : Env) (input : List Callback) : TransitionSystem Fed Turn where
  init s := (Session.system env).init s.session ∧ s.input = input ∧ s.appended = []
  step s turn s' := s.step env turn = some s'

namespace Session

def effects (s : Session) : Session := { s with pendingText := none, pendingFrame := none }

def Outcome (env : Env) (input : List Callback) (effects : Session)
    (appended : List (Frame Nanos)) : Prop :=
  ∃ s, (fed env input).Reachable ⟨s, [], appended⟩ ∧ s.receive = .Idle ∧ s.effects = effects

/-! ## The parts that are put aside -/

variable {env : Env} {s s' : Session}

def withPending (s : Session) (text : Option JavaString) (frame : Option Bytes) : Session :=
  { s with pendingText := text, pendingFrame := frame }

section Pending

variable (text : Option JavaString) (frame : Option Bytes)

lemma tryLockSend_withPending (t : Thread) (ok : Bool) :
    (s.withPending text frame).tryLockSend t ok =
      (s.tryLockSend t ok).map (Prod.map id (withPending · text frame)) := by
  unfold tryLockSend
  split_ifs
  · rw [Option.map_map]
    rfl
  · rfl

lemma lockForClose_withPending (t : Thread) (stage : LockForClose) (ok : Bool) :
    (s.withPending text frame).lockForClose t stage ok =
      (s.lockForClose t stage ok).map (Prod.map id (withPending · text frame)) := by
  cases stage with
  | First | Second =>
    simp only [lockForClose, tryLockSend_withPending]
    cases s.tryLockSend t ok <;> rfl
  | Interrupt => rfl

lemma unlock_withPending (t : Thread) :
    (s.withPending text frame).unlock t = (s.unlock t).map (withPending · text frame) := by
  unfold unlock
  rw [Option.map_map]
  rfl

lemma shutdown_withPending (t : Thread) (pc : Shutdown) (ok : Bool) :
    (s.withPending text frame).shutdown t pc ok =
      (s.shutdown t pc ok).map (Prod.map id (withPending · text frame)) := by
  cases pc with
  | Cas =>
    simp only [shutdown]
    cases hclosed : s.closed <;> simp [withPending, hclosed]
  | Lock stage =>
    simp only [shutdown, lockForClose_withPending]
    obtain _ | ⟨locked, s₁⟩ := s.lockForClose t stage ok
    · rfl
    · cases locked <;> rfl
  | Interrupt => rfl
  | Unlock =>
    simp only [shutdown, unlock_withPending]
    cases s.unlock t <;> rfl

lemma append_withPending (payload : Bytes) (now : Nanos) :
    (s.withPending text frame).append payload now =
      (s.append payload now).withPending text frame := by
  have hbuffer : (s.withPending text frame).buffer = s.buffer := rfl
  unfold append
  rw [hbuffer]
  split_ifs <;> rfl

lemma receiveStep_withPending (ok : Bool) (now : Nanos) :
    (s.withPending text frame).receiveStep ok now =
      (s.receiveStep ok now).map (withPending · text frame) := by
  have hpc : (s.withPending text frame).receive = s.receive := rfl
  unfold receiveStep
  rw [hpc]
  cases s.receive with
  | Append payload => exact congrArg some (append_withPending text frame payload now)
  | CloseWith code reason => cases hclosed : s.closed <;> simp [withPending, hclosed]
  | CloseLock stage code reason =>
    simp only [lockForClose_withPending]
    obtain _ | ⟨locked, s₁⟩ := s.lockForClose .Receive stage ok
    · rfl
    · cases locked <;> rfl
  | CloseUnlock | PingUnlock =>
    simp only [unlock_withPending]
    cases s.unlock .Receive <;> rfl
  | Ping buffer =>
    simp only [tryLockSend_withPending]
    cases s.tryLockSend .Receive ok <;> rfl
  | Shutdown pc =>
    simp only [shutdown_withPending]
    obtain _ | ⟨pc', s₁⟩ := s.shutdown .Receive pc ok
    · rfl
    · cases pc' <;> rfl
  | _ => rfl

lemma writerStep_withPending (ok : Bool) :
    (s.withPending text frame).writerStep ok =
      (s.writerStep ok).map (withPending · text frame) := by
  have hpc : (s.withPending text frame).writer = s.writer := rfl
  unfold writerStep
  rw [hpc]
  cases s.writer with
  | Take =>
    cases hinterrupted : s.writerInterrupted <;> cases houtbox : s.outbox <;>
      simp [withPending, hinterrupted, houtbox]
  | Lock payload =>
    show (s.sendLock.acquire .Writer).bind _ = _
    cases s.sendLock.acquire .Writer <;> rfl
  | Failed pc =>
    simp only [shutdown_withPending]
    obtain _ | ⟨pc', s₁⟩ := s.shutdown .Writer pc ok
    · rfl
    · cases pc' <;> rfl
  | Unlock sent =>
    simp only [unlock_withPending]
    cases s.unlock .Writer <;> rfl
  | _ => rfl

lemma flushStep_withPending (now : Nanos) :
    (s.withPending text frame).flushStep env now =
      (s.flushStep env now).map (withPending · text frame) := by
  have hpc : (s.withPending text frame).flush = s.flush := rfl
  unfold flushStep
  rw [hpc]
  cases s.flush with
  | Parked => cases hclosed : s.closed <;> simp [withPending, hclosed]
  | TryFlush flushLateness => cases hinflight : s.inflight <;> simp [withPending, hinflight]
  | Drain flushLateness => cases hbuffer : s.buffer <;> simp [withPending, hbuffer]
  | Process batch flushLateness =>
    cases hhead : batch.head? <;> cases hlast : batch.getLast? <;>
      simp [withPending, hhead, hlast]
  | Enqueue message =>
    cases hdrop : !env.marshals message || s.flushInterrupted
    · by_cases hroom : s.outbox.length < env.config.partialChannelDepth <;>
        simp [withPending, hdrop, hroom]
    · simp [withPending, hdrop]
  | _ => rfl

lemma step_withPending {e : Event} (he : e.isMessage = false) :
    (s.withPending text frame).step env e = (s.step env e).map (withPending · text frame) := by
  have hreceive : (s.withPending text frame).receive = s.receive := rfl
  have hflush : (s.withPending text frame).flush = s.flush := rfl
  cases e with
  | Callback callback =>
    simp only [step, hreceive]
    cases callback with
    | Text text last | Binary frame last => cases he
    | _ => cases s.receive <;> rfl
  | Receive ok now => exact receiveStep_withPending text frame ok now
  | Writer ok => exact writerStep_withPending text frame ok
  | FlushStart now offset =>
    simp only [step, hflush]
    cases s.flush with
    | Starting =>
      unfold flushStart
      cases toNanos env.config.flushIntervalMs <;>
        cases toNanos env.config.flushPhaseJitterMs <;> rfl
    | _ => rfl
  | Flush now => exact flushStep_withPending text frame now
  | InferReturns result now =>
    simp only [step, hflush]
    cases s.flush with
    | Inferring ctx => cases result <;> rfl
    | _ => rfl

end Pending

/-! ## Steps of the other threads, and other callbacks -/

def Closes (s : Session) : Prop :=
  s.closed = true ∨ ∃ code reason, s.receive = .CloseWith code reason

lemma Closes.closed (h : s.Closes) (hidle : s.receive = .Idle) : s.closed = true := by
  rcases h with hclosed | ⟨code, reason, hreceive⟩
  · exact hclosed
  · cases hidle.symm.trans hreceive

lemma closes_closeWith (s : Session) (code : ℕ) (reason : String) :
    (s.closeWith code reason).Closes :=
  .inr ⟨code, reason, rfl⟩

structure Onward (s s' : Session) : Prop where
  started : s'.started = s.started
  closes : s.Closes → s'.Closes

lemma onward_of_receive_eq (hstarted : s'.started = s.started)
    (hclosed : s.closed = true → s'.closed = true) (hreceive : s'.receive = s.receive) :
    Onward s s' where
  started := hstarted
  closes h := h.imp hclosed fun ⟨code, reason, h⟩ => ⟨code, reason, hreceive.trans h⟩

lemma onward_of_ne (hstarted : s'.started = s.started)
    (hclosed : s.closed = true → s'.closed = true)
    (hne : ∀ code reason, s.receive ≠ .CloseWith code reason) : Onward s s' where
  started := hstarted
  closes h := .inl (hclosed (h.resolve_right fun ⟨code, reason, h⟩ => hne code reason h))

lemma onward_append (payload : Bytes) (now : Nanos)
    (hne : ∀ code reason, s.receive ≠ .CloseWith code reason) :
    Onward s (s.append payload now) := by
  unfold append
  split_ifs
  · exact onward_of_ne rfl id hne
  · exact onward_of_ne rfl id hne

lemma onward_receiveStep {ok : Bool} {now : Nanos} (h : s.receiveStep ok now = some s') :
    Onward s s' := by
  cases hreceive : s.receive with
  | StartFlush =>
    simp only [receiveStep, hreceive] at h
    cases h
    exact onward_of_ne rfl id (by simp [hreceive])
  | Append payload =>
    simp only [receiveStep, hreceive] at h
    cases h
    exact onward_append payload now (by simp [hreceive])
  | CloseWith code reason =>
    have hproceeds := proceeds_receiveStep h (by simp [hreceive]) (by simp [hreceive])
    refine ⟨hproceeds.started, fun _ => .inl ?_⟩
    simp only [receiveStep, hreceive] at h
    split_ifs at h with hclosed
    · cases h
      exact hclosed
    · cases h
      rfl
  | _ =>
    have hproceeds := proceeds_receiveStep h (by simp [hreceive]) (by simp [hreceive])
    exact onward_of_ne hproceeds.started hproceeds.closed (by simp [hreceive])

lemma FlushOnly.onward (h : FlushOnly s s') : Onward s s' :=
  onward_of_receive_eq h.started (fun hclosed => h.closed.trans hclosed) h.receive

lemma onward_step {e : Event} (he : e.isMessage = false) (h : s.step env e = some s') :
    Onward s s' := by
  cases e with
  | Callback callback =>
    simp only [step] at h
    split at h
    case h_2 => cases h
    case h_1 hidle =>
      cases h
      cases callback with
      | Text text last | Binary frame last => cases he
      | _ => exact onward_of_ne rfl id (by simp [hidle])
  | Receive ok now => exact onward_receiveStep h
  | Writer ok =>
    have hwrites := writes_writerStep h
    exact onward_of_receive_eq hwrites.started hwrites.closed hwrites.receive
  | FlushStart now offset =>
    simp only [step] at h
    split at h
    case h_2 => cases h
    case h_1 =>
      cases h
      unfold flushStart
      split <;> exact onward_of_receive_eq rfl id rfl
  | Flush now => exact (flushOnly_flushStep h).onward
  | InferReturns result now =>
    simp only [step] at h
    split at h
    case h_2 => cases h
    case h_1 =>
      cases h
      cases result <;> exact onward_of_receive_eq rfl id rfl

lemma pending_step {e : Event} (he : e.isMessage = false) (h : s.step env e = some s') :
    s'.pendingText = s.pendingText ∧ s'.pendingFrame = s.pendingFrame := by
  have hsame : some s' = some (s'.withPending s.pendingText s.pendingFrame) := by
    rw [← h]
    exact (step_withPending _ _ he).trans (congrArg _ h)
  rw [Option.some.inj hsame]
  exact ⟨rfl, rfl⟩

/-! ## Messages -/

lemma callback_closed (hclosed : s.closed = true) {callback : Callback}
    (h : callback.isMessage = true) : s.callback env callback = s := by
  cases callback with
  | Text text last | Binary frame last => exact if_pos hclosed
  | _ => cases h

lemma seq_startWith (message : JavaString) : (s.startWith env message).seq = s.seq := by
  unfold startWith
  split_ifs <;> rfl

/-- Nothing is put aside, and no start message is waited for. -/
structure Settled (s : Session) : Prop where
  clean : s.effects = s
  settled : s.started = true ∨ s.Closes

lemma settled_closeWith (hclean : s.effects = s) (code : ℕ) (reason : String) :
    (s.closeWith code reason).Settled :=
  ⟨congrArg (closeWith · code reason) hclean, .inr (closes_closeWith ..)⟩

lemma settled_startWith (hclean : s.effects = s) (message : JavaString) :
    (s.startWith env message).Settled := by
  unfold startWith
  split_ifs
  · exact ⟨congrArg (fun s : Session =>
      { s with started := true, writer := .Loop, receive := .StartFlush }) hclean, .inl rfl⟩
  · exact settled_closeWith hclean ..

/-- What a frame does that is there as a whole. -/
def takeFrame (s : Session) (frame : Bytes) : Session :=
  if frame.length ≠ frameBytes then s.closeWith closeUnsupportedData reasonBadFrameSize
  else { s with receive := .Append frame }

lemma settled_takeFrame (hclean : s.effects = s) (hstarted : s.started = true) (frame : Bytes) :
    (s.takeFrame frame).Settled := by
  unfold takeFrame
  split_ifs
  · exact settled_closeWith hclean ..
  · exact ⟨congrArg (fun s : Session => { s with receive := .Append frame }) hclean, .inl hstarted⟩

lemma seq_callback (callback : Callback) : (s.callback env callback).seq = s.seq := by
  cases callback with
  | Text text last =>
    simp only [Session.callback, onText]
    split_ifs
    all_goals first
      | rfl
      | exact seq_startWith _
  | Binary frame last =>
    simp only [Session.callback, onBinary]
    split_ifs <;> rfl
  | _ => rfl

section Open

variable (hopen : s.closed = false)
include hopen

lemma onText_started (hstarted : s.started = true) (text : JavaString) (last : Bool) :
    s.onText env text last = s.closeWith closeProtocolError reasonTextAfterStart := by
  simp [onText, hopen, hstarted]

lemma onText_whole (hstarted : s.started = false) (hnone : s.pendingText = none)
    (text : JavaString) : s.onText env text true = s.startWith env text := by
  simp [onText, hopen, hstarted, hnone]

lemma onText_part (hstarted : s.started = false) {last : Bool}
    (hpart : s.pendingText.isSome = true ∨ last = false) (text : JavaString) :
    s.onText env text last =
      if maxStartChars < (s.pendingText.getD [] ++ text).length then
        { s with pendingText := none }.closeWith closeProtocolError reasonNeedStart
      else if last = false then { s with pendingText := some (s.pendingText.getD [] ++ text) }
      else { s with pendingText := none }.startWith env (s.pendingText.getD [] ++ text) := by
  have hcollect : (s.pendingText.isSome || !last) = true := by simpa using hpart
  simp [onText, hopen, hstarted, hcollect]

lemma onBinary_unstarted (hstarted : s.started = false) (frame : Bytes) (last : Bool) :
    s.onBinary frame last = s.closeWith closeProtocolError reasonNeedStart := by
  simp [onBinary, hopen, hstarted]

lemma onBinary_more (hstarted : s.started = true) (frame : Bytes)
    (hlen : (s.pendingFrame.getD []).length ≤ frameBytes) :
    s.onBinary frame false =
      if frameBytes < (s.pendingFrame.getD [] ++ frame).length then
        { s with pendingFrame := none }.closeWith closeUnsupportedData reasonBadFrameSize
      else { s with pendingFrame := some (s.pendingFrame.getD [] ++ frame) } := by
  have hmore : frame.length > frameBytes - (s.pendingFrame.getD []).length ↔
      frameBytes < (s.pendingFrame.getD [] ++ frame).length := by
    rw [length_append]
    omega
  simp [onBinary, hopen, hstarted, hmore]

lemma onBinary_last (hstarted : s.started = true) (frame : Bytes)
    (hlen : (s.pendingFrame.getD []).length ≤ frameBytes) :
    s.onBinary frame true =
      { s with pendingFrame := none }.takeFrame (s.pendingFrame.getD [] ++ frame) := by
  have hover : frame.length > frameBytes - (s.pendingFrame.getD []).length →
      (s.pendingFrame.getD [] ++ frame).length ≠ frameBytes := by
    rw [length_append]
    omega
  rcases s with ⟨closed, _, _, started, _, pending, _⟩
  obtain rfl : closed = false := hopen
  obtain rfl : started = true := hstarted
  cases pending with
  | none => simp [onBinary, takeFrame]
  | some pending =>
    simp only [onBinary, takeFrame] at hover ⊢
    split_ifs
    all_goals simp_all

end Open

end Session

/-! ## Turns -/

namespace Fed

variable {env : Env} {s s' : Fed}

lemma step_deliver :
    s.step env .Deliver = some s' ↔ ∃ callback input, s.input = callback :: input ∧
      s.session.receive = .Idle ∧
      s' = ⟨s.session.callback env callback, input, s.appended⟩ := by
  have hmove (callback : Callback) (input : List Callback) :
      s.move input (s.session.callback env callback) =
        ⟨s.session.callback env callback, input, s.appended⟩ := by
    rw [move, Session.appendedBy, if_pos (Session.seq_callback callback), append_nil]
  simp only [step]
  split
  case h_1 hinput =>
    simp [hinput]
  case h_2 callback input hinput =>
    simp only [Session.step, hinput, List.cons.injEq]
    split
    case h_1 hidle =>
      simp only [Option.map_some, hmove, Option.some.injEq]
      constructor
      · rintro rfl
        exact ⟨callback, input, ⟨rfl, rfl⟩, hidle, rfl⟩
      · rintro ⟨-, -, ⟨rfl, rfl⟩, -, rfl⟩
        rfl
    case h_2 hbusy =>
      simp only [Option.map_none, false_iff, reduceCtorEq]
      rintro ⟨-, -, -, hidle, -⟩
      exact hbusy hidle

lemma step_other {e : Event} :
    s.step env (.Other e) = some s' ↔ e.isMessage = false ∧
      ∃ t, s.session.step env e = some t ∧ s' = s.move s.input t := by
  cases he : e.isMessage with
  | false => simp [step, he, eq_comm]
  | true => simp [step, he]

end Fed

/-! ## Parts and whole messages -/

open SplitMessage

variable {env : Env}

inductive Phase (env : Env) (w : Session) :
    Option JavaString → Option Bytes → List Callback → List Callback → Prop
  | inStep (messages : List SplitMessage)
      (hfits : w.started = true ∨ w.Closes ∨ ∀ m ∈ messages.head?, m.Fits env) :
      Phase env w none none (messages.flatMap callbacks) (messages.map whole)
  | text {pending : Option JavaString} {parts : List JavaString} {final message : JavaString}
      (messages : List SplitMessage) (hstarted : w.started = false)
      (hpart : pending.isSome = true ∨ parts ≠ [])
      (hmessage : message = pending.getD [] ++ (parts.flatten ++ final))
      (hfits : env.readStart message = true → message.length ≤ maxStartChars) :
      Phase env w pending none
        ((SplitMessage.Text parts final).callbacks ++ messages.flatMap callbacks)
        (.Text message true :: messages.map whole)
  | binary {pending : Option Bytes} {parts : List Bytes} {final message : Bytes}
      (messages : List SplitMessage) (hstarted : w.started = true)
      (hpart : pending.isSome = true ∨ parts ≠ [])
      (hmessage : message = pending.getD [] ++ (parts.flatten ++ final))
      (hlen : (pending.getD []).length ≤ frameBytes) :
      Phase env w none pending
        ((SplitMessage.Binary parts final).callbacks ++ messages.flatMap callbacks)
        (.Binary message true :: messages.map whole)
  | ended {text : Option JavaString} {frame : Option Bytes} {rest : List Callback}
      (messages : List SplitMessage) (hcloses : w.Closes)
      (hrest : ∀ callback ∈ rest, callback.isMessage = true) :
      Phase env w text frame (rest ++ messages.flatMap callbacks) (messages.map whole)

structure Follows (env : Env) (s w : Fed) : Prop where
  effects : s.session.effects = w.session
  appended : s.appended = w.appended
  phase : Phase env w.session s.session.pendingText s.session.pendingFrame s.input w.input

lemma Phase.onward {w w' : Session} {text : Option JavaString} {frame : Option Bytes}
    {input winput : List Callback} (h : Phase env w text frame input winput)
    (hw : w.Onward w') : Phase env w' text frame input winput := by
  cases h with
  | inStep messages hfits =>
    exact .inStep messages (hfits.imp hw.started.trans (Or.imp_left hw.closes))
  | text messages hstarted hpart hmessage hfits =>
    exact .text messages (hw.started.trans hstarted) hpart hmessage hfits
  | binary messages hstarted hpart hmessage hlen =>
    exact .binary messages (hw.started.trans hstarted) hpart hmessage hlen
  | ended messages hcloses hrest => exact .ended messages (hw.closes hcloses) hrest

lemma callbacks_text_cons (part : JavaString) (parts : List JavaString) (final : JavaString) :
    (SplitMessage.Text (part :: parts) final).callbacks =
      .Text part false :: (SplitMessage.Text parts final).callbacks :=
  rfl

lemma isMessage_of_mem {α : Type} {K : List α → Bool → Callback}
    (hkind : ∀ part last, (K part last).isMessage = true) {parts : List (List α)} {final : List α} :
    ∀ callback ∈ parts.map (K · false) ++ [K final true], callback.isMessage = true := by
  simp only [forall_mem_append, forall_mem_map, forall_mem_singleton, hkind,
    implies_true, and_self]

lemma isMessage_of_mem_callbacks {m : SplitMessage} {callback : Callback}
    (h : callback ∈ m.callbacks) : callback.isMessage = true := by
  cases m with
  | Text parts final | Binary parts final => exact isMessage_of_mem (fun _ _ => rfl) callback h

lemma exists_callbacks_eq_cons (m : SplitMessage) :
    ∃ callback rest, m.callbacks = callback :: rest := by
  cases m with
  | Text parts final | Binary parts final => cases parts <;> exact ⟨_, _, rfl⟩

section Steps

variable {s w : Fed}

lemma Follows.other (h : Follows env s w) {e : Event} {s' : Fed}
    (hstep : s.step env (.Other e) = some s') :
    ∃ w', w.step env (.Other e) = some w' ∧ Follows env s' w' := by
  obtain ⟨he, t, ht, rfl⟩ := Fed.step_other.mp hstep
  have hw : w.session.step env e = some t.effects := by
    rw [← h.effects]
    exact (Session.step_withPending none none he).trans (congrArg _ ht)
  refine ⟨w.move w.input t.effects, Fed.step_other.mpr ⟨he, _, hw, rfl⟩, rfl, ?_, ?_⟩
  · show s.appended ++ s.session.appendedBy t = w.appended ++ w.session.appendedBy t.effects
    rw [h.appended, ← h.effects]
    rfl
  · show Phase env t.effects t.pendingText t.pendingFrame s.input w.input
    rw [(Session.pending_step he ht).1, (Session.pending_step he ht).2]
    exact h.phase.onward (Session.onward_step he hw)

lemma Follows.other_whole (h : Follows env s w) {e : Event} {w' : Fed}
    (hstep : w.step env (.Other e) = some w') :
    ∃ s', s.step env (.Other e) = some s' ∧ Follows env s' w' := by
  obtain ⟨he, t, ht, -⟩ := Fed.step_other.mp hstep
  have hs : s.session.step env e = some
      (t.withPending s.session.pendingText s.session.pendingFrame) := by
    rw [← h.effects] at ht
    exact (Session.step_withPending (s := s.session.effects) _ _ he).trans (congrArg _ ht)
  have hs' := Fed.step_other.mpr ⟨he, _, hs, rfl⟩
  obtain ⟨w'', hw'', hfollows⟩ := h.other hs'
  cases hw''.symm.trans hstep
  exact ⟨_, hs', hfollows⟩

def Matched (env : Env) (w s' : Session) (input winput : List Callback) : Prop :=
  (s'.effects = w ∧ Phase env w s'.pendingText s'.pendingFrame input winput) ∨
    ∃ message winput', winput = message :: winput' ∧ s'.effects = w.callback env message ∧
      Phase env (w.callback env message) s'.pendingText s'.pendingFrame input winput'

section Deliver

variable {w : Session} {messages : List SplitMessage} {callback : Callback} {input : List Callback}

lemma matched_close {s' : Session} {message : Callback} {rest : List Callback} {code : ℕ}
    {reason : String} (hs' : s'.effects = w.closeWith code reason)
    (hw : w.callback env message = w.closeWith code reason)
    (hrest : ∀ callback ∈ rest, callback.isMessage = true) :
    Matched env w s' (rest ++ messages.flatMap callbacks) (message :: messages.map whole) := by
  refine .inr ⟨message, _, rfl, hs'.trans hw.symm, ?_⟩
  rw [hw]
  exact .ended messages (Session.closes_closeWith w code reason) hrest

lemma matched_last {s' : Session} {message : Callback} (hs' : s' = w.callback env message)
    (hsettled : s'.Settled) :
    Matched env w s' (messages.flatMap callbacks) (message :: messages.map whole) := by
  have htext : s'.pendingText = none := hsettled.clean ▸ rfl
  have hframe : s'.pendingFrame = none := hsettled.clean ▸ rfl
  refine .inr ⟨message, _, rfl, hsettled.clean.trans hs', ?_⟩
  rw [← hs', htext, hframe]
  exact .inStep messages (hsettled.settled.imp id .inl)

section Kind

variable {α : Type} {K : List α → Bool → Callback} {parts : List (List α)} {final message : List α}
  {code : ℕ} {reason : String} (hclean : w.effects = w)
  (hkind : ∀ part last, (K part last).isMessage = true)
  (hinput : parts.map (K · false) ++ [K final true] ++ messages.flatMap callbacks =
    callback :: input)
include hclean hkind hinput

lemma matched_refused
    (hrefused : ∀ part last, w.callback env (K part last) = w.closeWith code reason) :
    Matched env w (w.callback env callback) input (K message true :: messages.map whole) := by
  have hclose (part : List α) (last : Bool) : (w.callback env (K part last)).effects =
      w.closeWith code reason := by
    rw [hrefused]
    exact (Session.settled_closeWith hclean ..).clean
  cases parts with
  | nil =>
    cases hinput
    show Matched env w _ ([] ++ messages.flatMap callbacks) _
    exact matched_close (hclose _ _) (hrefused _ _) (by simp)
  | cons part parts =>
    cases hinput
    exact matched_close (hclose _ _) (hrefused _ _) (isMessage_of_mem hkind)

lemma matched_part {H : Option (List α) → Session} {limit : ℕ} {pending : Option (List α)}
    (hhere : ∀ p, (H p).effects = w)
    (hmessage : message = pending.getD [] ++ (parts.flatten ++ final))
    (hmore : ∀ part, (H pending).callback env (K part false) =
      if limit < (pending.getD [] ++ part).length then w.closeWith code reason
      else H (some (pending.getD [] ++ part)))
    (hlong : limit < message.length → w.callback env (K message true) = w.closeWith code reason)
    (hlast : parts = [] → (H pending).callback env (K final true) = w.callback env (K message true))
    (hsettled : (w.callback env (K message true)).Settled)
    (hphase : ∀ part (parts : List (List α)), message = pending.getD [] ++ part ++ (parts.flatten ++ final) →
      (pending.getD [] ++ part).length ≤ limit →
      Phase env w (H (some (pending.getD [] ++ part))).pendingText
        (H (some (pending.getD [] ++ part))).pendingFrame
        (parts.map (K · false) ++ [K final true] ++ messages.flatMap callbacks)
        (K message true :: messages.map whole)) :
    Matched env w ((H pending).callback env callback) input
      (K message true :: messages.map whole) := by
  cases parts with
  | nil =>
    cases hinput
    rw [hlast rfl]
    exact matched_last rfl hsettled
  | cons part parts =>
    cases hinput
    have hmessage' : message = pending.getD [] ++ part ++ (parts.flatten ++ final) := by
      simpa using hmessage
    rw [hmore]
    split_ifs with hlen
    · refine matched_close (Session.settled_closeWith hclean ..).clean (hlong ?_)
        (isMessage_of_mem hkind)
      rw [hmessage', length_append]
      omega
    · exact .inl ⟨hhere _, hphase part parts hmessage' (not_lt.mp hlen)⟩

end Kind

variable (hopen : w.closed = false) (hclean : w.effects = w)
include hopen hclean

lemma matched_text {pending : Option JavaString} {parts : List JavaString}
    {final message : JavaString} (hstarted : w.started = false)
    (hpart : pending.isSome = true ∨ parts ≠ [])
    (hmessage : message = pending.getD [] ++ (parts.flatten ++ final))
    (hfits : env.readStart message = true → message.length ≤ maxStartChars)
    (hinput : (SplitMessage.Text parts final).callbacks ++ messages.flatMap callbacks =
      callback :: input) :
    Matched env w ((w.withPending pending none).callback env callback) input
      (.Text message true :: messages.map whole) := by
  have hwhole : w.callback env (.Text message true) = w.startWith env message :=
    Session.onText_whole hopen hstarted (hclean ▸ rfl) message
  -- what is too long in parts is no start message
  have hlong (hlen : maxStartChars < message.length) :
      w.startWith env message = w.closeWith closeProtocolError reasonNeedStart := by
    have hread : ¬ env.readStart message = true := fun h => absurd (hfits h) (by omega)
    rw [Session.startWith, if_neg hread]
  have honText {last : Bool} (h : pending.isSome = true ∨ last = false) (part : JavaString) :
      (w.withPending pending none).callback env (.Text part last) =
        if maxStartChars < (pending.getD [] ++ part).length then
          w.effects.closeWith closeProtocolError reasonNeedStart
        else if last = false then w.withPending (some (pending.getD [] ++ part)) none
        else w.effects.startWith env (pending.getD [] ++ part) :=
    Session.onText_part (s := w.withPending pending none) hopen hstarted h part
  rw [hclean] at honText
  refine matched_part (K := .Text) (H := (w.withPending · none)) hclean (fun _ _ => rfl) hinput
    (fun _ => hclean) hmessage (honText (.inr rfl)) (fun hlen => hwhole.trans (hlong hlen)) ?_ ?_ ?_
  · rintro rfl
    rw [flatten_nil, nil_append] at hmessage
    rw [honText (hpart.imp_right fun h => absurd rfl h), hwhole, ← hmessage,
      if_neg (by simp : ¬ true = false)]
    split_ifs with hlen
    · exact (hlong hlen).symm
    · rfl
  · rw [hwhole]
    exact Session.settled_startWith hclean message
  · intro part parts hmessage' _
    exact .text messages hstarted (.inl rfl) hmessage' hfits

lemma matched_binary {pending : Option Bytes} {parts : List Bytes} {final message : Bytes}
    (hstarted : w.started = true)
    (hmessage : message = pending.getD [] ++ (parts.flatten ++ final))
    (hlen : (pending.getD []).length ≤ frameBytes)
    (hinput : (SplitMessage.Binary parts final).callbacks ++ messages.flatMap callbacks =
      callback :: input) :
    Matched env w ((w.withPending none pending).callback env callback) input
      (.Binary message true :: messages.map whole) := by
  have honBinary {pending : Option Bytes} (hlen : (pending.getD []).length ≤ frameBytes)
      (frame : Bytes) : (w.withPending none pending).callback env (.Binary frame true) =
        w.effects.takeFrame (pending.getD [] ++ frame) :=
    Session.onBinary_last (s := w.withPending none pending) hopen hstarted frame hlen
  have hmore (part : Bytes) : (w.withPending none pending).callback env (.Binary part false) =
      if frameBytes < (pending.getD [] ++ part).length then
        w.effects.closeWith closeUnsupportedData reasonBadFrameSize
      else w.withPending none (some (pending.getD [] ++ part)) :=
    Session.onBinary_more (s := w.withPending none pending) hopen hstarted part hlen
  rw [hclean] at honBinary hmore
  have hwhole : w.callback env (.Binary message true) = w.takeFrame message :=
    (congrArg (Session.callback env · _) hclean.symm).trans (honBinary (Nat.zero_le _) message)
  refine matched_part (K := .Binary) (H := (w.withPending none ·)) hclean (fun _ _ => rfl) hinput
    (fun _ => hclean) hmessage hmore ?_ ?_ ?_ ?_
  · intro hlong
    rw [hwhole, Session.takeFrame, if_pos hlong.ne']
  · rintro rfl
    rw [honBinary hlen, hwhole, hmessage]
    rfl
  · rw [hwhole]
    exact Session.settled_takeFrame hclean hstarted message
  · intro part parts hmessage' hle
    exact .binary messages hstarted (.inl rfl) hmessage' hle

lemma matched_text_first {parts : List JavaString} {final : JavaString}
    (hfits : w.started = false → (SplitMessage.Text parts final).Fits env)
    (hinput : (SplitMessage.Text parts final).callbacks ++ messages.flatMap callbacks =
      callback :: input) :
    Matched env w (w.callback env callback) input
      ((SplitMessage.Text parts final).whole :: messages.map whole) := by
  cases hstarted : w.started with
  | true =>
    exact matched_refused (K := .Text) hclean (fun _ _ => rfl) hinput
      (Session.onText_started hopen hstarted)
  | false =>
    by_cases hparts : parts = []
    · subst hparts
      cases hinput
      have hcallback : w.callback env (.Text final true) = w.startWith env final :=
        Session.onText_whole hopen hstarted (hclean ▸ rfl) final
      exact matched_last rfl (hcallback ▸ Session.settled_startWith hclean final)
    · have hmatched : Matched env w ((w.withPending none none).callback env callback) input
          (.Text (parts.flatten ++ final) true :: messages.map whole) :=
        matched_text hopen hclean hstarted (.inr hparts) rfl (hfits hstarted hparts) hinput
      rwa [show w.withPending none none = w from hclean] at hmatched

lemma matched_binary_first {parts : List Bytes} {final : Bytes}
    (hinput : (SplitMessage.Binary parts final).callbacks ++ messages.flatMap callbacks =
      callback :: input) :
    Matched env w (w.callback env callback) input
      ((SplitMessage.Binary parts final).whole :: messages.map whole) := by
  cases hstarted : w.started with
  | false =>
    exact matched_refused (K := .Binary) hclean (fun _ _ => rfl) hinput
      (Session.onBinary_unstarted hopen hstarted)
  | true =>
    have hmatched : Matched env w ((w.withPending none none).callback env callback) input
        (.Binary (parts.flatten ++ final) true :: messages.map whole) :=
      matched_binary hopen hclean hstarted rfl (Nat.zero_le _) hinput
    rwa [show w.withPending none none = w from hclean] at hmatched

end Deliver

variable {frame : Option Bytes} {input winput : List Callback} {text : Option JavaString}

lemma Phase.matched_closed {w : Session} (hclosed : w.closed = true) (hclean : w.effects = w)
    {callback : Callback} (h : Phase env w text frame (callback :: input) winput) :
    Matched env w ((w.withPending text frame).callback env callback) input winput := by
  have hsame (hcallback : callback.isMessage = true) :
      (w.withPending text frame).callback env callback = w.withPending text frame :=
    Session.callback_closed (s := w.withPending text frame) hclosed hcallback
  -- the other session loses the message together with its first part
  have hlost {m : SplitMessage} {messages : List SplitMessage} {message : Callback}
      (hmessage : message.isMessage = true)
      (hinput : callback :: input = m.callbacks ++ messages.flatMap callbacks) :
      Matched env w ((w.withPending text frame).callback env callback) input
        (message :: messages.map whole) := by
    obtain ⟨first, rest, hcallbacks⟩ := exists_callbacks_eq_cons m
    have hmem {c : Callback} (hc : c ∈ first :: rest) : c.isMessage = true :=
      isMessage_of_mem_callbacks (m := m) (hcallbacks ▸ hc)
    rw [hcallbacks, cons_append] at hinput
    cases hinput
    have hw : w.callback env message = w := Session.callback_closed hclosed hmessage
    rw [hsame (hmem (mem_cons_self ..))]
    refine .inr ⟨message, _, rfl, hclean.trans hw.symm, ?_⟩
    rw [hw]
    exact .ended messages (.inl hclosed) fun c hc => hmem (mem_cons_of_mem _ hc)
  have hwhole (m : SplitMessage) : m.whole.isMessage = true := by cases m <;> rfl
  generalize hinput : callback :: input = parts at h
  cases h with
  | inStep messages hfits =>
    cases messages with
    | nil => cases hinput
    | cons m messages => exact hlost (hwhole m) hinput
  | text messages hstarted hpart hmessage hfits
  | binary messages hstarted hpart hmessage hlen => exact hlost rfl hinput
  | @ended _ _ rest messages hcloses hrest =>
    cases rest with
    | nil =>
      cases messages with
      | nil => cases hinput
      | cons m messages => exact hlost (hwhole m) hinput
    | cons first rest =>
      cases hinput
      rw [hsame (hrest _ (mem_cons_self ..))]
      exact .inl ⟨hclean, .ended messages hcloses fun c hc =>
        hrest c (mem_cons_of_mem _ hc)⟩

lemma Phase.matched {w : Session} (hidle : w.receive = .Idle) (hclean : w.effects = w)
    {callback : Callback} (h : Phase env w text frame (callback :: input) winput) :
    Matched env w ((w.withPending text frame).callback env callback) input winput := by
  cases hclosed : w.closed with
  | true => exact h.matched_closed hclosed hclean
  | false =>
    have hcloses : ¬ w.Closes := fun h => by cases hclosed.symm.trans (h.closed hidle)
    generalize hinput : callback :: input = parts at h
    cases h with
    | inStep messages hfits =>
      rw [show w.withPending none none = w from hclean]
      cases messages with
      | nil => cases hinput
      | cons m messages =>
        cases m with
        | Text parts final =>
          refine matched_text_first hclosed hclean (fun hstarted => ?_) hinput.symm
          obtain htrue | hends | hfits := hfits
          · cases htrue.symm.trans hstarted
          · exact absurd hends hcloses
          · exact hfits _ rfl
        | Binary parts final => exact matched_binary_first hclosed hclean hinput.symm
    | text messages hstarted hpart hmessage hfits =>
      exact matched_text hclosed hclean hstarted hpart hmessage hfits hinput.symm
    | binary messages hstarted hpart hmessage hlen =>
      exact matched_binary hclosed hclean hstarted hmessage hlen hinput.symm
    | ended messages hends hrest => exact absurd hends hcloses

theorem Follows.step (h : Follows env s w) {turn : Turn} {s' : Fed}
    (hstep : s.step env turn = some s') :
    Follows env s' w ∨ ∃ w', w.step env turn = some w' ∧ Follows env s' w' := by
  cases turn with
  | Other e => exact .inr (h.other hstep)
  | Deliver =>
    obtain ⟨callback, input, hinput, hidle, rfl⟩ := Fed.step_deliver.mp hstep
    have hidle' : w.session.receive = .Idle := h.effects ▸ hidle
    have hclean : w.session.effects = w.session := h.effects ▸ rfl
    have hself : w.session.withPending s.session.pendingText s.session.pendingFrame =
        s.session := h.effects ▸ rfl
    have hphase := h.phase
    rw [hinput] at hphase
    have hmatched := hphase.matched hidle' hclean
    rw [hself] at hmatched
    obtain ⟨heffects, hphase'⟩ | ⟨message, winput, hwinput, heffects, hphase'⟩ := hmatched
    · exact .inl ⟨heffects, h.appended, hphase'⟩
    · exact .inr ⟨_, Fed.step_deliver.mpr ⟨message, winput, hwinput, hidle', rfl⟩, heffects,
        h.appended, hphase'⟩

lemma Phase.exists_part {w : Session} {message : Callback}
    (h : Phase env w text frame input (message :: winput)) :
    ∃ callback rest, input = callback :: rest := by
  have hcons (m : SplitMessage) (rest : List Callback) :
      ∃ callback rest', m.callbacks ++ rest = callback :: rest' := by
    obtain ⟨callback, rest', hcallbacks⟩ := exists_callbacks_eq_cons m
    exact ⟨callback, rest' ++ rest, by rw [hcallbacks, cons_append]⟩
  generalize hwinput : message :: winput = winput' at h
  cases h with
  | inStep messages hfits =>
    cases messages with
    | nil => cases hwinput
    | cons m messages => exact hcons m _
  | text messages hstarted hpart hmessage hfits
  | binary messages hstarted hpart hmessage hlen => exact hcons _ _
  | @ended _ _ rest messages hcloses hrest =>
    cases messages with
    | nil => cases hwinput
    | cons m messages =>
      cases rest with
      | nil => exact hcons m _
      | cons first rest => exact ⟨first, _, rfl⟩

lemma Follows.deliver (h : Follows env s w) (hidle : w.session.receive = .Idle)
    (input : List Callback) :
    ∃ s', (fed env input).Leads s s' ∧ ((s'.input = [] ∧ Follows env s' w) ∨
      ∃ w', w.step env .Deliver = some w' ∧ Follows env s' w') := by
  generalize hinput : s.input = parts
  induction parts generalizing s with
  | nil => exact ⟨s, .refl, .inl ⟨hinput, h⟩⟩
  | cons callback rest ih =>
    have hidle' : s.session.effects.receive = .Idle := h.effects ▸ hidle
    have hdeliver : s.step env .Deliver =
        some ⟨s.session.callback env callback, rest, s.appended⟩ :=
      Fed.step_deliver.mpr ⟨callback, rest, hinput, hidle', rfl⟩
    obtain hfollows | hw' := h.step hdeliver
    · obtain ⟨s', hleads, hs'⟩ := ih hfollows rfl
      exact ⟨s', .head ⟨_, hdeliver⟩ hleads, hs'⟩
    · exact ⟨_, .single ⟨_, hdeliver⟩, .inr hw'⟩

theorem Follows.step_whole (h : Follows env s w) {turn : Turn} {w' : Fed}
    (hstep : w.step env turn = some w') (input : List Callback) :
    ∃ s', (fed env input).Leads s s' ∧ Follows env s' w' := by
  cases turn with
  | Deliver =>
    obtain ⟨message, winput, hwinput, hidle, -⟩ := Fed.step_deliver.mp hstep
    obtain ⟨s', hleads, ⟨hinput, hfollows⟩ | ⟨w'', hw'', hfollows⟩⟩ := h.deliver hidle input
    · have hphase := hfollows.phase
      rw [hinput, hwinput] at hphase
      obtain ⟨callback, rest, hcons⟩ := hphase.exists_part
      cases hcons
    · cases hw''.symm.trans hstep
      exact ⟨s', hleads, hfollows⟩
  | Other e =>
    obtain ⟨s', hs', hfollows⟩ := h.other_whole hstep
    exact ⟨s', .single ⟨_, hs'⟩, hfollows⟩

end Steps

/-! ## Outcomes -/

section Outcomes

variable {messages : List SplitMessage} {effects : Session} {appended : List (Frame Nanos)}

lemma follows_start (hfits : ∀ m ∈ messages.head?, m.Fits env) :
    Follows env ⟨.start, messages.flatMap callbacks, []⟩ ⟨.start, messages.map whole, []⟩ :=
  ⟨rfl, rfl, .inStep messages (.inr (.inr hfits))⟩

lemma outcome_whole (hfits : ∀ m ∈ messages.head?, m.Fits env)
    (h : Session.Outcome env (messages.flatMap callbacks) effects appended) :
    Session.Outcome env (messages.map whole) effects appended := by
  obtain ⟨s, hs, hidle, rfl⟩ := h
  have hinit (s : Fed) (h : (fed env (messages.flatMap callbacks)).init s) :
      ∃ w, (fed env (messages.map whole)).init w ∧ Follows env s w := by
    obtain ⟨s, input, appended⟩ := s
    obtain ⟨⟨hdepth, rfl⟩, rfl, rfl⟩ := h
    exact ⟨_, ⟨⟨hdepth, rfl⟩, rfl, rfl⟩, follows_start hfits⟩
  obtain ⟨⟨w, winput, wappended⟩, hw, rfl, rfl, hphase⟩ := Reachable.simulate hinit
    (fun s turn s' w _ hfollows hstep =>
      (hfollows.step hstep).imp id fun ⟨w', hw', h⟩ => ⟨turn, w', hw', h⟩) hs
  have hwinput : winput = [] := by
    by_contra hne
    obtain ⟨message, rest, rfl⟩ := exists_cons_of_ne_nil hne
    obtain ⟨callback, rest, hcons⟩ := hphase.exists_part
    cases hcons
  exact ⟨s.effects, hwinput ▸ hw, hidle, rfl⟩

lemma outcome_split (hfits : ∀ m ∈ messages.head?, m.Fits env)
    (h : Session.Outcome env (messages.map whole) effects appended) :
    Session.Outcome env (messages.flatMap callbacks) effects appended := by
  obtain ⟨w, hw, hidle, rfl⟩ := h
  have hinit (w : Fed) (h : (fed env (messages.map whole)).init w) :
      ∃ s, (fed env (messages.flatMap callbacks)).init s ∧ Follows env s w := by
    obtain ⟨w, input, appended⟩ := w
    obtain ⟨⟨hdepth, rfl⟩, rfl, rfl⟩ := h
    exact ⟨_, ⟨⟨hdepth, rfl⟩, rfl, rfl⟩, follows_start hfits⟩
  obtain ⟨s, hs, hfollows⟩ := Reachable.simulate_leads (R := fun w s => Follows env s w) hinit
    (fun w turn w' s _ hfollows hstep => hfollows.step_whole hstep _) hw
  -- what is left of the last message is lost
  obtain ⟨⟨s', input, appended⟩, hleads, ⟨rfl, heffects, rfl, -⟩ | ⟨w', hw', -⟩⟩ :=
    hfollows.deliver hidle (messages.flatMap callbacks)
  · obtain rfl : s'.effects = w := heffects
    exact ⟨s', hs.leads hleads, hidle, rfl⟩
  · obtain ⟨message, rest, hcons, -⟩ := Fed.step_deliver.mp hw'
    cases hcons

end Outcomes

/-! ## A start message that is too long -/

structure Rejects (s : Fed) : Prop where
  unstarted : s.session.started = false
  closes : s.session.Closes ∨ ∃ parts final rest,
    s.input = (SplitMessage.Text parts final).callbacks ++ rest ∧
    (s.session.pendingText.isSome = true ∨ parts ≠ []) ∧
    maxStartChars < (s.session.pendingText.getD [] ++ (parts.flatten ++ final)).length

lemma Rejects.deliver {s s' : Fed} (h : Rejects s) (hstep : s.step env .Deliver = some s') :
    Rejects s' := by
  obtain ⟨callback, input, hinput, hidle, rfl⟩ := Fed.step_deliver.mp hstep
  cases hclosed : s.session.closed with
  | true =>
    have hignored : (s.session.callback env callback).started = s.session.started ∧
        (s.session.callback env callback).closed = true := by
      cases hcallback : callback.isMessage with
      | true =>
        rw [Session.callback_closed hclosed hcallback]
        exact ⟨rfl, hclosed⟩
      | false =>
        cases callback with
        | Text text last | Binary frame last => cases hcallback
        | _ => exact ⟨rfl, hclosed⟩
    exact ⟨hignored.1.trans h.unstarted, .inl (.inl hignored.2)⟩
  | false =>
    obtain hcloses | ⟨parts, final, rest, hparts, hpart, hlong⟩ := h.closes
    · cases hclosed.symm.trans (hcloses.closed hidle)
    · rw [hparts] at hinput
      cases parts with
      | nil =>
        cases hinput
        have hcallback : s.session.callback env (.Text final true) = _ :=
          Session.onText_part hclosed h.unstarted (hpart.imp id fun h => absurd rfl h) final
        rw [flatten_nil, nil_append] at hlong
        rw [if_pos hlong] at hcallback
        rw [hcallback]
        exact ⟨h.unstarted, .inl (Session.closes_closeWith ..)⟩
      | cons part parts =>
        rw [callbacks_text_cons, cons_append] at hinput
        cases hinput
        have hcallback : s.session.callback env (.Text part false) = _ :=
          Session.onText_part hclosed h.unstarted (.inr rfl) part
        rw [if_pos (rfl : false = false)] at hcallback
        rw [hcallback]
        split_ifs
        · exact ⟨h.unstarted, .inl (Session.closes_closeWith ..)⟩
        · refine ⟨h.unstarted, .inr ⟨parts, final, rest, rfl, .inl rfl, ?_⟩⟩
          simpa using hlong

lemma Rejects.other {s s' : Fed} (h : Rejects s) {e : Event}
    (hstep : s.step env (.Other e) = some s') : Rejects s' := by
  obtain ⟨he, t, ht, rfl⟩ := Fed.step_other.mp hstep
  have honward := Session.onward_step he ht
  have hsame := (Session.pending_step he ht).1
  refine ⟨honward.started.trans h.unstarted, h.closes.imp honward.closes ?_⟩
  rintro ⟨parts, final, rest, hinput, hpart, hlong⟩
  rw [← hsame] at hpart hlong
  exact ⟨parts, final, rest, hinput, hpart, hlong⟩

lemma rejects_of_reachable {parts : List JavaString} {final : JavaString} (hparts : parts ≠ [])
    (hlong : maxStartChars < (parts.flatten ++ final).length) {rest : List Callback} {s : Fed}
    (hs : (fed env ((SplitMessage.Text parts final).callbacks ++ rest)).Reachable s) :
    Rejects s := by
  refine Inductive.reachable ⟨?_, ?_⟩ hs
  · rintro ⟨s, input, appended⟩ ⟨⟨-, rfl⟩, rfl, -⟩
    exact ⟨rfl, .inr ⟨parts, final, rest, rfl, .inr hparts, hlong⟩⟩
  · intro s turn s' h hstep
    cases turn with
    | Deliver => exact h.deliver hstep
    | Other e => exact h.other hstep

lemma leads_closed {s : Session} (hclosed : s.closed = true) (hidle : s.receive = .Idle)
    (all : List Callback) (appended : List (Frame Nanos)) {input : List Callback}
    (hinput : ∀ callback ∈ input, callback.isMessage = true) :
    (fed env all).Leads ⟨s, input, appended⟩ ⟨s, [], appended⟩ := by
  induction input with
  | nil => exact .refl
  | cons callback input ih =>
    obtain ⟨hcallback, hinput⟩ := forall_mem_cons.mp hinput
    refine .head ⟨.Deliver, ?_⟩ (ih hinput)
    refine Fed.step_deliver.mpr ⟨callback, input, rfl, hidle, ?_⟩
    rw [Session.callback_closed hclosed hcallback]

lemma outcome_started (hdepth : 1 ≤ env.config.partialChannelDepth) {message : JavaString}
    (hread : env.readStart message = true) {input : List Callback}
    (hinput : ∀ callback ∈ input, callback.isMessage = true) :
    ∃ effects, effects.started = true ∧
      Session.Outcome env (.Text message true :: input) effects [] := by
  let begun : Session :=
    { Session.start with started := true, writer := .Loop, receive := .StartFlush }
  let shut : Session :=
    { begun with
      receive := .Idle
      flush := .Starting
      closed := true
      writerInterrupted := true
      flushInterrupted := true }
  have hstart : (fed env (.Text message true :: input)).Reachable
      ⟨.start, .Text message true :: input, []⟩ := .start ⟨⟨hdepth, rfl⟩, rfl, rfl⟩
  have hbegun : (⟨.start, .Text message true :: input, []⟩ : Fed).step env .Deliver =
      some ⟨begun, input, []⟩ :=
    Fed.step_deliver.mpr ⟨_, input, rfl, rfl, congrArg (Fed.mk · input []) (if_pos hread).symm⟩
  have hshut : exec (Fed.step env) ⟨begun, input, []⟩
      (.Other (.Receive false 0) :: .Other (.Callback .Close) ::
        List.replicate 4 (.Other (.Receive false 0))) = some ⟨shut, input, []⟩ := rfl
  refine ⟨shut, rfl, shut, ?_, rfl, rfl⟩
  exact (Reachable.of_exec (fun _ _ _ h => h) (.step hstart hbegun) hshut).leads
    (leads_closed rfl rfl _ [] hinput)

theorem split_outcomes_iff (hdepth : 1 ≤ env.config.partialChannelDepth)
    (messages : List SplitMessage) :
    (∀ effects appended, Session.Outcome env (messages.flatMap callbacks) effects appended ↔
      Session.Outcome env (messages.map whole) effects appended) ↔
    ∀ m ∈ messages.head?, m.Fits env := by
  constructor
  · intro h m hm
    cases m with
    | Binary parts final => trivial
    | Text parts final =>
      intro hparts hread
      by_contra hlen
      obtain ⟨rest, rfl⟩ : ∃ rest, messages = .Text parts final :: rest := by
        cases messages with
        | nil => cases hm
        | cons first rest => exact ⟨rest, by rw [Option.some.inj hm]⟩
      have hmessages : ∀ callback ∈ rest.map whole, callback.isMessage = true := by
        simp only [forall_mem_map]
        rintro (_ | _) - <;> rfl
      obtain ⟨effects, hstarted, houtcome⟩ := outcome_started hdepth hread hmessages
      obtain ⟨s, hs, -, rfl⟩ := (h effects []).mpr houtcome
      have hunstarted := (rejects_of_reachable hparts (by omega) hs).unstarted
      cases hunstarted.symm.trans hstarted
  · exact fun hfits effects appended => ⟨outcome_whole hfits, outcome_split hfits⟩

def blankStart : Env :=
  ⟨Config.load fun _ => none,
    fun text => (text.reverse.dropWhile (· = 32)).reverse = units startJson, fun _ => true⟩

def shortParts : List SplitMessage :=
  [.Text [units "\x7b\"type\":", []] (units "\"start\"\x7d  "), .Binary [List.replicate 600 7] (List.replicate 40 7),
    .Binary [[]] []]

theorem split_outcomes_shortParts :
    1 ≤ blankStart.config.partialChannelDepth ∧ ∀ effects appended,
      Session.Outcome blankStart (shortParts.flatMap callbacks) effects appended ↔
        Session.Outcome blankStart (shortParts.map whole) effects appended := by
  have hdepth : 1 ≤ blankStart.config.partialChannelDepth := by decide +kernel
  refine ⟨hdepth, (split_outcomes_iff hdepth shortParts).mpr ?_⟩
  rintro m hm
  cases hm
  intro _ _
  decide +kernel

def paddedStart : SplitMessage := .Text [units startJson] (List.replicate 1024 32)

theorem paddedStart_outcomes :
    (∃ effects, effects.started = true ∧
        Session.Outcome blankStart [paddedStart.whole] effects []) ∧
      ∀ effects appended, Session.Outcome blankStart paddedStart.callbacks effects appended →
        effects.started = false ∧ effects.closed = true := by
  constructor
  · exact outcome_started (by decide +kernel) (by decide +kernel) (by simp)
  · rintro effects appended ⟨s, hs, hidle, rfl⟩
    rw [← append_nil paddedStart.callbacks] at hs
    have hrejects := rejects_of_reachable (by simp) (by decide +kernel) hs
    refine ⟨hrejects.unstarted, ?_⟩
    obtain hcloses | ⟨parts, final, rest, hinput, -⟩ := hrejects.closes
    · exact hcloses.closed hidle
    · obtain ⟨callback, rest', hcallbacks⟩ := exists_callbacks_eq_cons (.Text parts final)
      rw [hcallbacks] at hinput
      cases hinput

end SttBench.JavaHelidon
