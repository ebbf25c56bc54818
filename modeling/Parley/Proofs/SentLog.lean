import Mathlib.Data.List.Basic
import Parley.Proofs.Owner

/-! What a client has put into its log of sent messages. A log takes in something with each step and
is emptied by a clear, so it holds what came in since the last one. A send is accepted exactly while
the client is open, and then it logs one message of the owner; one that is refused changes nothing,
and what is sent through a handle is not logged. -/

namespace Parley.Client

open Connection

def sinceClear (run : List Step) : List Step :=
  (run.reverse.takeWhile fun s => decide (s.action ≠ .clear)).reverse

theorem sinceClear_append_singleton (run : List Step) (s : Step) :
    sinceClear (run ++ [s]) = if s.action = .clear then [] else sinceClear run ++ [s] := by
  unfold sinceClear
  rw [List.reverse_append, List.reverse_singleton, List.singleton_append, List.takeWhile_cons]
  by_cases h : s.action = .clear <;> simp [h]

theorem mem_of_mem_sinceClear {run : List Step} {s : Step} (h : s ∈ sinceClear run) : s ∈ run := by
  have hmem := (List.takeWhile_prefix _).subset (List.mem_reverse.1 h)
  exact List.mem_reverse.1 hmem

/-- A log of a client that takes in a part of every step, and that a clear empties. -/
structure Logs {α : Type} (log : Client → List α) (part : Step → List α) : Prop where
  clear : ∀ c : Client, log c.clear = []
  step : ∀ {c : Client}, Orderly c.sessions → ∀ (net : Network) {a : Action}, a ≠ .clear →
    log (c.perform net a).client = log c ++ part ⟨c, a, c.perform net a⟩

theorem Logs.after {α : Type} {log : Client → List α} {part : Step → List α} (h : Logs log part)
    {server : Server} {clock : FixedClock} {audience : Audience}
    (hempty : log (fresh server clock audience) = []) (net : Network) (actions : List Action) :
    log (Client.after net (fresh server clock audience) actions) =
      (sinceClear (steps net (fresh server clock audience) actions)).flatMap part := by
  induction actions using List.reverseRecOn with
  | nil => exact hempty
  | append_singleton actions a ih =>
    rw [after_append_singleton, steps_append_singleton, sinceClear_append_singleton]
    by_cases ha : a = .clear
    · subst ha
      rw [if_pos rfl]
      exact h.clear _
    · rw [if_neg ha, h.step (orderly_after net server clock audience actions) net ha, ih,
        List.flatMap_append, List.flatMap_singleton]

theorem Outcome.sent {c : Client} {net : Network} {attempt : Attempt} (h : Outcome c net attempt) :
    attempt.client.sent = c.sent := by
  cases h <;> rfl

theorem arrive_sent (c : Client) (k : Nat) (a : Link.Arrival) : (c.arrive k a).1.sent = c.sent := by
  cases hk : c.sessions[k]? with
  | none => rw [arrive_none hk]
  | some s => rw [arrive_some hk]

end Parley.Client
