import Telima.Async.RelyGuarantee
import Telima.Auth.Footprints

/-!
# Runs of the calls

The commands of `AuthService` start no handlers, so a run is safe if each call keeps the protocol from
the tables it starts on.
-/

namespace Telima.Auth

theorem trace_step {w : World Store Cmd} {i n : ℕ} {c : Cmd} :
    (w.step system i c n).trace = ⟨i, .did c, w.store⟩ :: w.trace := by
  rw [World.step_of_no_handlers rfl]
  rfl

theorem since_step {w : World Store Cmd} {i j n : ℕ} {c : Cmd} {p : Cmd → Bool}
    (h : j ≠ i ∨ p c = false) :
    (w.step system j c n).since i p = ⟨j, .did c, w.store⟩ :: w.since i p := by
  rw [World.step_of_no_handlers rfl]
  exact World.since_act_of_not h

section Safe

variable {P : Protocol system} {post : ℕ → Except Error (Option TokenPair) → World Store Cmd → Prop}

theorem handlersKeep : P.HandlersKeep post := by
  intro c k h hh
  rw [system_handlers] at hh
  exact absurd hh (by simp)

/-- Calls that keep a protocol keep it through every run. -/
theorem safe_of_run {env : AuthEnv} {s : Store} {calls : List Call}
    {q : Pool Store Cmd Error (Option TokenPair)} (hstable : ∀ i r, P.Stable i (post i r))
    (hinv : P.inv ⟨s, []⟩)
    (hcalls : ∀ i call, calls[i]? = some call → P.wp i (call.program env) (post i) ⟨s, []⟩)
    (hrun : Pool.Run system P.cond P.fault (start env s calls) q) : P.Safe post q := by
  have hstart : P.Safe post (start env s calls) := by
    refine Protocol.safe_init hinv fun i t ht => ?_
    obtain ⟨call, hcall, rfl⟩ := exists_call_of_start (s := s) ht
    exact hcalls i call hcall
  exact hstart.run hstable handlersKeep hrun

end Safe

end Telima.Auth
