import SttBench.ElixirPhoenix.Backlog
import SttBench.TypescriptBun.Backlog

/-!
# Two caps that follow from the timeouts

typescript-bun and elixir-phoenix compute the cap by one formula; no healthy session reaches it.
-/

namespace SttBench

open Ascii TransitionSystem Wire
open ElixirPhoenix.Socket (defaultEnv)

theorem healthy_never_closed_for_backlog (bun : TypescriptBun.Env) (hconfig : bun.config.Valid)
    (J : Type) (phoenix : ElixirPhoenix.Env) (htimeout : 1 ≤ phoenix.receiveTimeoutMs) :
    (∀ p, (TypescriptBun.Session.healthy bun fun _ => true).Reachable p →
      ∀ reason, .Close closeTryAgainLater reason ∉ p.state.calls) ∧
    ∀ p, (ElixirPhoenix.Socket.healthy J phoenix).Reachable p →
      ∀ reason, p.state.status ≠ .Stopped closeTryAgainLater reason :=
  ⟨fun _ hp => TypescriptBun.Session.not_closed_for_backlog hconfig hp,
    fun _ hp => ElixirPhoenix.Socket.not_closed_for_backlog htimeout hp⟩

def bunBatch : List (TypescriptBun.Millis × TypescriptBun.Event) :=
  [(0, .HandleMessage (.Text startJson) 0 0),
    (10, .HandleMessage (.Binary (List.replicate 640 0)) 10 0), (20, .FlushTimer 20 20),
    (21, .Inference 0 (.ok ⟨0, 0, 0, 320, "", 640⟩) 21 ⟨0, [1]⟩), (21, .Finally 0)]

def phoenixBatch : List (ElixirPhoenix.Micros × ElixirPhoenix.Event ℕ) :=
  [(0, .In (bytes startJson) .Text 0 0), (20000, .In (List.replicate 640 0) .Binary 20000 0),
    (1000000, .Flush 1000000), (1100000, .ComputeFinished 0 (.ok ⟨0, 0, 0, 320, 0, 640⟩) 1100000)]

lemma bunBatch_sent :
    ∃ p, (TypescriptBun.Session.healthy TypescriptBun.Session.everyTwenty
      fun _ => true).Reachable p ∧ p.state.calls.length = 1 :=
  Reachable.exists_of_timedStep (fun _ _ _ h => h) .start 0 rfl bunBatch (by decide +kernel)

lemma init_isSome : (ElixirPhoenix.Socket.init (J := ℕ) defaultEnv).isSome := by
  decide +kernel

lemma phoenixBatch_pushed :
    ∃ p, (ElixirPhoenix.Socket.healthy ℕ defaultEnv).Reachable p ∧
      p.state.pushed.length = 1 :=
  Reachable.exists_of_timedStep (fun _ _ _ h => h)
    ((ElixirPhoenix.Socket.init defaultEnv).get init_isSome) 0 (Option.some_get init_isSome).symm
    phoenixBatch (by decide +kernel)

theorem healthy_never_closed_for_backlog_oneBatch :
    (∃ p, (TypescriptBun.Session.healthy TypescriptBun.Session.everyTwenty
      fun _ => true).Reachable p ∧ p.state.calls.length = 1 ∧
      ∀ reason, .Close closeTryAgainLater reason ∉ p.state.calls) ∧
    ∃ p, (ElixirPhoenix.Socket.healthy ℕ defaultEnv).Reachable p ∧
      p.state.pushed.length = 1 ∧
      ∀ reason, p.state.status ≠ .Stopped closeTryAgainLater reason := by
  obtain ⟨hbun, hphoenix⟩ := healthy_never_closed_for_backlog TypescriptBun.Session.everyTwenty
    ⟨by decide +kernel, by decide +kernel, by decide +kernel⟩ ℕ defaultEnv (by decide)
  obtain ⟨p, hp, hcalls⟩ := bunBatch_sent
  obtain ⟨p', hp', hpushed⟩ := phoenixBatch_pushed
  exact ⟨⟨p, hp, hcalls, hbun p hp⟩, p', hp', hpushed, hphoenix p' hp'⟩

end SttBench
