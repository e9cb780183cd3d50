import Mathlib.Data.List.Perm.Subperm
import Telima.Async.RelyGuarantee

/-!
# Counting what was done

How often the history of a world records something, in all (`total`) and by one thread (`count`).
When every thread has done two things equally often, so has the whole pool; a count of one thread is
not changed by the others.
-/

namespace Telima

variable {σ ℓ ε ρ : Type}

namespace World

/-- How many entries of the history are of the kind `p`. -/
def total (w : World σ ℓ) (p : EventKind ℓ → σ → Bool) : ℕ := w.trace.countP fun e => p e.kind e.before

/-- How many entries of thread `i` are of the kind `p`. -/
def count (w : World σ ℓ) (i : ℕ) (p : EventKind ℓ → σ → Bool) : ℕ :=
  w.trace.countP fun e => decide (e.tid = i) && p e.kind e.before

variable {S : System σ ℓ ε ρ} {w : World σ ℓ} {i j n : ℕ} {c : ℓ} {p q : EventKind ℓ → σ → Bool}

theorem total_spawnMany (k : ℕ) :
    (w.spawnMany n c k).total p = w.total p + k * (p (.spawned c) w.store).toNat := by
  induction k with
  | zero => simp [spawnMany]
  | succ k ih =>
    have hspawn : ((w.spawnMany n c k).spawn (n + k) c).total p =
        (w.spawnMany n c k).total p + (p (.spawned c) w.store).toNat := by
      rw [total, trace_spawn, List.countP_cons, spawnMany_store]
      cases p (.spawned c) w.store <;> rfl
    rw [spawnMany, hspawn, ih, Nat.add_mul, Nat.one_mul, Nat.add_assoc]

/-- A step adds its command, and the start of its handlers. -/
theorem total_step : (w.step S i c n).total p =
    w.total p + (p (.did c) w.store).toNat + (S.handlers c).length * (p (.spawned c) (S.exec c w.store)).toNat := by
  have hact : (w.act S.exec i c).total p = w.total p + (p (.did c) w.store).toNat := by
    rw [total, trace_act, List.countP_cons]
    cases p (.did c) w.store <;> rfl
  rw [step, total_spawnMany, hact, store_act]

theorem count_spawnMany (k : ℕ) : (w.spawnMany n c k).count i p =
    w.count i p + (decide (n ≤ i ∧ i < n + k) && p (.spawned c) w.store).toNat := by
  induction k with
  | zero =>
    have hout : decide (n ≤ i ∧ i < n + 0) = false := decide_eq_false (by omega)
    rw [hout]
    rfl
  | succ k ih =>
    have hspawn : ((w.spawnMany n c k).spawn (n + k) c).count i p =
        (w.spawnMany n c k).count i p + (decide (n + k = i) && p (.spawned c) w.store).toNat := by
      rw [count, trace_spawn, List.countP_cons, spawnMany_store]
      cases decide (n + k = i) && p (.spawned c) w.store <;> rfl
    rw [spawnMany, hspawn, ih]
    by_cases hi : n + k = i
    · have hin : n ≤ i ∧ i < n + (k + 1) := by omega
      simp [hin, hi]
    · have hsame : (n ≤ i ∧ i < n + (k + 1)) ↔ (n ≤ i ∧ i < n + k) := by omega
      simp [hi, hsame]

theorem count_step : (w.step S j c n).count i p = w.count i p +
    (decide (j = i) && p (.did c) w.store).toNat +
      (decide (n ≤ i ∧ i < n + (S.handlers c).length) && p (.spawned c) (S.exec c w.store)).toNat := by
  have hact : (w.act S.exec j c).count i p =
      w.count i p + (decide (j = i) && p (.did c) w.store).toNat := by
    rw [count, trace_act, List.countP_cons]
    cases decide (j = i) && p (.did c) w.store <;> rfl
  rw [step, count_spawnMany, hact, store_act]

/-- A thread that runs counts its own commands. -/
theorem count_step_self (hi : i < n) :
    (w.step S i c n).count i p = w.count i p + (p (.did c) w.store).toNat := by
  have hout : ¬ (n ≤ i ∧ i < n + (S.handlers c).length) := by omega
  rw [count_step]
  simp [hout]

/-- A thread does not count what others do. -/
theorem count_step_of_ne (hj : j ≠ i) (hi : i < n) :
    (w.step S j c n).count i p = w.count i p := by
  have hout : ¬ (n ≤ i ∧ i < n + (S.handlers c).length) := by omega
  rw [count_step]
  simp [hout, hj]

theorem Fresh.count (h : w.Fresh n) (hi : n ≤ i) : w.count i p = 0 := by
  rw [World.count, List.countP_eq_zero]
  intro e he
  have hne : e.tid ≠ i := by
    have hlt := h e he
    omega
  simp [hne]

/-- A thread that starts counts its start. -/
theorem Fresh.count_started {k : ℕ} (h : w.Fresh n) (hj : j < n) (hk : k < (S.handlers c).length) :
    (w.step S j c n).count (n + k) p = (p (.spawned c) (S.exec c w.store)).toNat := by
  have hne : j ≠ n + k := by omega
  have hin : n ≤ n + k ∧ n + k < n + (S.handlers c).length := by omega
  rw [count_step, h.count (Nat.le_add_right n k)]
  simp [hne, hin]

theorem count_le_total : w.count i p ≤ w.total p := by
  refine List.countP_mono_left fun e _ he => ?_
  rw [Bool.and_eq_true] at he
  exact he.2

/-- What every thread has done at most as often, the pool has done at most as often. -/
theorem total_le_of_count_le (h : ∀ i, w.count i p ≤ w.count i q) : w.total p ≤ w.total q := by
  have hcount : ∀ (p : EventKind ℓ → σ → Bool) (i : ℕ),
      ((w.trace.filter fun e => p e.kind e.before).map Event.tid).count i = w.count i p := by
    intro p i
    rw [List.count, List.countP_map, List.countP_filter, World.count]
    rfl
  have hsub : ((w.trace.filter fun e => p e.kind e.before).map Event.tid).Subperm
      ((w.trace.filter fun e => q e.kind e.before).map Event.tid) := by
    rw [List.subperm_ext_iff]
    intro i _
    rw [hcount, hcount]
    exact h i
  have hlength := hsub.length_le
  rwa [List.length_map, List.length_map, ← List.countP_eq_length_filter,
    ← List.countP_eq_length_filter] at hlength

theorem total_eq_of_count_eq (h : ∀ i, w.count i p = w.count i q) : w.total p = w.total q :=
  Nat.le_antisymm (total_le_of_count_le fun i => Nat.le_of_eq (h i))
    (total_le_of_count_le fun i => Nat.le_of_eq (h i).symm)

end World

namespace Protocol

variable {S : System σ ℓ ε ρ} {P : Protocol S}

/-- A thread's own counts are stable. -/
theorem stable_count (i : ℕ) (Φ : ((EventKind ℓ → σ → Bool) → ℕ) → Prop) :
    P.Stable i fun w => Φ (w.count i) := by
  rintro w _ ⟨j, c, n, hj, hi, -, -, -, -, -, rfl⟩ h
  have hsame : (w.step S j c n).count i = w.count i := by
    funext p
    exact World.count_step_of_ne hj hi
  rwa [hsame]

end Protocol

end Telima
