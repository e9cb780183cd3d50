import Telima.Async.Run
import Mathlib.Data.List.TakeWhile
import Mathlib.Logic.Relation
import Mathlib.Tactic.SplitIfs

/-!
# Interleaved runs

A `Pool` is a store shared by any number of programs.  One `Step` lets one program perform the
command it is at; a program that came to a synchronous command keeps the processor
(`Pool.current`) until its next await.  A command may start handlers, which join the pool.  Steps
are restricted by a predicate `cond` on the thread, the world before the step and the command,
and a predicate `fault` says with which errors an awaited command may be rejected: `Run` with
`cond := fun _ _ _ => True` and `fault := fun _ => False` are all schedules without
infrastructure failure.

The `World` of a pool is its store with the history of what was done, by which thread and in which
store, newest first; a property of a whole run is a property of the world it ends in.

`Pool.schedule?` runs a given schedule, for runs on concrete inputs.
-/

namespace Telima

/-- What an entry of the history records: a command was performed, or a thread was started by a
command. -/
inductive EventKind (ℓ : Type) where
  | did (c : ℓ)
  | spawned (c : ℓ)
  deriving DecidableEq

/-- The entry records a command of the kind `p`. -/
def EventKind.performs {ℓ : Type} (p : ℓ → Bool) : EventKind ℓ → Bool
  | .did c => p c
  | .spawned _ => false

/-- The command the entry says was performed. -/
def EventKind.command? {ℓ : Type} : EventKind ℓ → Option ℓ
  | .did c => some c
  | .spawned _ => none

/-- An entry of the history: thread `tid` did something in the store `before`. -/
structure Event (σ ℓ : Type) where
  tid : ℕ
  kind : EventKind ℓ
  before : σ

/-- A store and how it came about, newest entry first. -/
structure World (σ ℓ : Type) where
  store : σ
  trace : List (Event σ ℓ)

variable {σ ℓ ε ρ : Type}

namespace World

/-- Thread `i` performs `c`. -/
def act (exec : ℓ → σ → σ) (w : World σ ℓ) (i : ℕ) (c : ℓ) : World σ ℓ :=
  ⟨exec c w.store, ⟨i, .did c, w.store⟩ :: w.trace⟩

/-- Thread `n` is started by `c`. -/
def spawn (w : World σ ℓ) (n : ℕ) (c : ℓ) : World σ ℓ :=
  ⟨w.store, ⟨n, .spawned c, w.store⟩ :: w.trace⟩

/-- Threads `n, …, n + k - 1` are started by `c`. -/
def spawnMany (w : World σ ℓ) (n : ℕ) (c : ℓ) : ℕ → World σ ℓ
  | 0 => w
  | k + 1 => (w.spawnMany n c k).spawn (n + k) c

@[simp] theorem store_act (exec : ℓ → σ → σ) (w : World σ ℓ) (i : ℕ) (c : ℓ) :
    (w.act exec i c).store = exec c w.store := rfl

@[simp] theorem trace_act (exec : ℓ → σ → σ) (w : World σ ℓ) (i : ℕ) (c : ℓ) :
    (w.act exec i c).trace = ⟨i, .did c, w.store⟩ :: w.trace := rfl

@[simp] theorem store_spawn (w : World σ ℓ) (n : ℕ) (c : ℓ) : (w.spawn n c).store = w.store := rfl

@[simp] theorem trace_spawn (w : World σ ℓ) (n : ℕ) (c : ℓ) :
    (w.spawn n c).trace = ⟨n, .spawned c, w.store⟩ :: w.trace := rfl

/-- Thread `i` has performed a command satisfying `H`. -/
def Did (w : World σ ℓ) (i : ℕ) (H : ℓ → Prop) : Prop :=
  ∃ e ∈ w.trace, e.tid = i ∧ ∃ c, e.kind = .did c ∧ H c

instance [DecidableEq ℓ] (w : World σ ℓ) (i : ℕ) (c : ℓ) : Decidable (w.Did i (· = c)) :=
  decidable_of_iff (∃ e ∈ w.trace, e.tid = i ∧ e.kind = .did c) (by simp [Did])

theorem did_iff_performs {w : World σ ℓ} {i : ℕ} {p : ℓ → Bool} :
    w.Did i (p · = true) ↔ ∃ e ∈ w.trace, e.tid = i ∧ e.kind.performs p = true := by
  constructor
  · rintro ⟨e, he, htid, c, hkind, hc⟩
    exact ⟨e, he, htid, by rw [hkind, EventKind.performs, hc]⟩
  · rintro ⟨⟨tid, kind, before⟩, he, htid, hkind⟩
    cases kind with
    | did c => exact ⟨_, he, htid, c, rfl, hkind⟩
    | spawned c => cases hkind

instance (w : World σ ℓ) (i : ℕ) (p : ℓ → Bool) : Decidable (w.Did i (p · = true)) :=
  decidable_of_iff _ did_iff_performs.symm

/-- Thread `i` was started by `c`. -/
def Started (w : World σ ℓ) (i : ℕ) (c : ℓ) : Prop :=
  ∃ e ∈ w.trace, e.tid = i ∧ e.kind = .spawned c

/-- The store in which thread `i` last performed a command of the kind `p`. -/
def lastRead (w : World σ ℓ) (i : ℕ) (p : ℓ → Bool) : Option σ :=
  (w.trace.find? fun e => decide (e.tid = i) && e.kind.performs p).map Event.before

/-- The last answer thread `i` has got from a command, where `f` says what a command answers. -/
def lastAnswer {β : Type} (w : World σ ℓ) (i : ℕ) (f : ℓ → σ → Option β) : Option β :=
  w.trace.findSome? fun e =>
    match e.kind with
    | .did c => if e.tid = i then f c e.before else none
    | .spawned _ => none

/-- What happened since thread `i` last performed a command of the kind `p`. -/
def since (w : World σ ℓ) (i : ℕ) (p : ℓ → Bool) : List (Event σ ℓ) :=
  w.trace.takeWhile fun e => !(decide (e.tid = i) && e.kind.performs p)

theorem since_act_of_not {exec : ℓ → σ → σ} {w : World σ ℓ} {i j : ℕ} {c : ℓ} {p : ℓ → Bool}
    (h : j ≠ i ∨ p c = false) :
    (w.act exec j c).since i p = ⟨j, .did c, w.store⟩ :: w.since i p := by
  rw [since, trace_act, List.takeWhile_cons_of_pos, since]
  rcases h with hj | hc
  · simp [hj]
  · simp [EventKind.performs, hc]

/-- The history up to the last read of a thread, the read, and what was before. -/
theorem trace_eq_since {w : World σ ℓ} {i : ℕ} {p : ℓ → Bool} {s : σ}
    (h : w.lastRead i p = some s) : ∃ e older, w.trace = w.since i p ++ e :: older ∧ e.tid = i ∧
      e.kind.performs p = true ∧ e.before = s := by
  obtain ⟨e, hfind, hbefore⟩ := Option.map_eq_some_iff.mp h
  obtain ⟨hentry, newer, older, htrace, hnewer⟩ := List.find?_eq_some_iff_append.mp hfind
  rw [Bool.and_eq_true] at hentry
  have hsince : w.since i p = newer := by
    rw [since, htrace, List.takeWhile_append_of_pos hnewer, List.takeWhile_cons, hentry.1, hentry.2]
    exact List.append_nil newer
  exact ⟨e, older, by rw [hsince, htrace], of_decide_eq_true hentry.1, hentry.2, hbefore⟩

/-- A thread that has performed no such command. -/
theorem since_of_lastRead_none {w : World σ ℓ} {i : ℕ} {p : ℓ → Bool} (h : w.lastRead i p = none) :
    w.since i p = w.trace := by
  rw [lastRead, Option.map_eq_none_iff, List.find?_eq_none] at h
  rw [since, List.takeWhile_eq_self_iff]
  intro e he
  rw [Bool.not_eq_true']
  exact Bool.eq_false_iff.mpr (h e he)

theorem did_act {exec : ℓ → σ → σ} {w : World σ ℓ} {i j : ℕ} {c : ℓ} {H : ℓ → Prop} :
    (w.act exec j c).Did i H ↔ (j = i ∧ H c) ∨ w.Did i H := by
  simp [Did]

theorem did_spawn {w : World σ ℓ} {i j : ℕ} {c : ℓ} {H : ℓ → Prop} :
    (w.spawn j c).Did i H ↔ w.Did i H := by
  simp [Did]

theorem started_act {exec : ℓ → σ → σ} {w : World σ ℓ} {i j : ℕ} {c d : ℓ} :
    (w.act exec j c).Started i d ↔ w.Started i d := by
  simp [Started]

theorem started_spawn {w : World σ ℓ} {i j : ℕ} {c d : ℓ} :
    (w.spawn j c).Started i d ↔ (j = i ∧ c = d) ∨ w.Started i d := by
  simp [Started]

/-- Every thread in the history comes before `n`. -/
def Fresh (w : World σ ℓ) (n : ℕ) : Prop := ∀ e ∈ w.trace, e.tid < n

/-- Thread `i` performs `c`, and the handlers of `c` start as threads `n, n + 1, …`. -/
def step (S : System σ ℓ ε ρ) (w : World σ ℓ) (i : ℕ) (c : ℓ) (n : ℕ) : World σ ℓ :=
  (w.act S.exec i c).spawnMany n c (S.handlers c).length

theorem step_of_no_handlers {S : System σ ℓ ε ρ} {c : ℓ} (hc : S.handlers c = []) (w : World σ ℓ)
    (i n : ℕ) : w.step S i c n = w.act S.exec i c := by
  simp [step, hc, spawnMany]

@[simp] theorem spawnMany_store (w : World σ ℓ) (n : ℕ) (c : ℓ) (k : ℕ) :
    (w.spawnMany n c k).store = w.store := by
  induction k with
  | zero => rfl
  | succ k ih => rw [spawnMany, store_spawn, ih]

theorem started_spawnMany {w : World σ ℓ} {n k i : ℕ} {c d : ℓ} :
    (w.spawnMany n c k).Started i d ↔ (n ≤ i ∧ i < n + k ∧ c = d) ∨ w.Started i d := by
  induction k with
  | zero => simp only [spawnMany, iff_or_self]; omega
  | succ k ih =>
    rw [spawnMany, started_spawn, ih]
    constructor
    · rintro (⟨rfl, rfl⟩ | ⟨h, hk, rfl⟩ | h)
      · exact Or.inl ⟨by omega, by omega, rfl⟩
      · exact Or.inl ⟨h, by omega, rfl⟩
      · exact Or.inr h
    · rintro (⟨h, hk, rfl⟩ | h)
      · rcases Nat.lt_or_ge i (n + k) with hlt | hge
        · exact Or.inr (Or.inl ⟨h, hlt, rfl⟩)
        · exact Or.inl ⟨by omega, rfl⟩
      · exact Or.inr (Or.inr h)

theorem did_spawnMany {w : World σ ℓ} {n k i : ℕ} {c : ℓ} {H : ℓ → Prop} :
    (w.spawnMany n c k).Did i H ↔ w.Did i H := by
  induction k with
  | zero => rfl
  | succ k ih => rw [spawnMany, did_spawn, ih]

theorem fresh_spawnMany {w : World σ ℓ} {n : ℕ} (h : w.Fresh n) (c : ℓ) (k : ℕ) :
    (w.spawnMany n c k).Fresh (n + k) := by
  induction k with
  | zero => exact h
  | succ k ih =>
    intro e he
    rcases List.mem_cons.mp he with rfl | he
    · exact Nat.lt_succ_self _
    · exact Nat.lt_succ_of_lt (ih e he)

theorem trace_spawnMany_suffix {w : World σ ℓ} {n k : ℕ} {c : ℓ} :
    w.trace <:+ (w.spawnMany n c k).trace := by
  induction k with
  | zero => exact List.suffix_refl _
  | succ k ih => exact ih.trans (List.suffix_cons _ _)

theorem trace_step_suffix {S : System σ ℓ ε ρ} {w : World σ ℓ} {i n : ℕ} {c : ℓ} :
    w.trace <:+ (w.step S i c n).trace := by
  have hspawned : (w.act S.exec i c).trace <:+ (w.step S i c n).trace := trace_spawnMany_suffix
  exact (List.suffix_cons _ _).trans hspawned

theorem did_mem_trace_step {S : System σ ℓ ε ρ} {w : World σ ℓ} {i n : ℕ} {c : ℓ} :
    ⟨i, .did c, w.store⟩ ∈ (w.step S i c n).trace := by
  have hspawned : (w.act S.exec i c).trace <:+ (w.step S i c n).trace := trace_spawnMany_suffix
  exact hspawned.subset List.mem_cons_self

/-- The commands in the history after a step. -/
theorem mem_trace_step {S : System σ ℓ ε ρ} {w : World σ ℓ} {i n : ℕ} {c : ℓ} {e : Event σ ℓ} :
    e ∈ (w.step S i c n).trace → (∃ d, e.kind = .spawned d) ∨ e = ⟨i, .did c, w.store⟩ ∨
      e ∈ w.trace := by
  rw [step]
  generalize (S.handlers c).length = k
  induction k with
  | zero => exact fun he => Or.inr (List.mem_cons.mp he)
  | succ k ih =>
    intro he
    rcases List.mem_cons.mp he with rfl | he
    · exact Or.inl ⟨c, rfl⟩
    · exact ih he

@[simp] theorem store_step (S : System σ ℓ ε ρ) (w : World σ ℓ) (i : ℕ) (c : ℓ) (n : ℕ) :
    (w.step S i c n).store = S.exec c w.store := by
  rw [step, spawnMany_store, store_act]

theorem did_step {S : System σ ℓ ε ρ} {w : World σ ℓ} {i j n : ℕ} {c : ℓ} {H : ℓ → Prop} :
    (w.step S j c n).Did i H ↔ (j = i ∧ H c) ∨ w.Did i H := by
  rw [step, did_spawnMany, did_act]

theorem started_step {S : System σ ℓ ε ρ} {w : World σ ℓ} {i j n : ℕ} {c d : ℓ} :
    (w.step S j c n).Started i d ↔
      (n ≤ i ∧ i < n + (S.handlers c).length ∧ c = d) ∨ w.Started i d := by
  rw [step, started_spawnMany, started_act]

/-- A step of another thread says nothing new about what thread `i` did. -/
theorem did_step_of_ne {S : System σ ℓ ε ρ} {w : World σ ℓ} {i j n : ℕ} {c : ℓ} {H : ℓ → Prop}
    (hj : j ≠ i) : (w.step S j c n).Did i H ↔ w.Did i H := by
  simp [did_step, hj]

/-- A command that is not of the kind adds nothing of the kind. -/
theorem did_step_of_not {S : System σ ℓ ε ρ} {w : World σ ℓ} {i j n : ℕ} {c : ℓ} {H : ℓ → Prop}
    (hc : ¬ H c) : (w.step S j c n).Did i H ↔ w.Did i H := by
  simp [did_step, hc]

/-- A thread is started before the threads a later step starts. -/
theorem started_step_of_lt {S : System σ ℓ ε ρ} {w : World σ ℓ} {i j n : ℕ} {c d : ℓ}
    (hi : i < n) : (w.step S j c n).Started i d ↔ w.Started i d := by
  rw [started_step, or_iff_right]
  omega

theorem lastRead_spawnMany {w : World σ ℓ} {n k i : ℕ} {c : ℓ} {p : ℓ → Bool} :
    (w.spawnMany n c k).lastRead i p = w.lastRead i p := by
  induction k with
  | zero => rfl
  | succ k ih =>
    rw [← ih]
    simp [spawnMany, lastRead, EventKind.performs]

theorem lastRead_step_self {S : System σ ℓ ε ρ} {w : World σ ℓ} {i n : ℕ} {c : ℓ} {p : ℓ → Bool}
    (hc : p c = true) : (w.step S i c n).lastRead i p = some w.store := by
  rw [step, lastRead_spawnMany]
  simp [lastRead, EventKind.performs, hc]

/-- A command of another thread, or of another kind, is not the last one. -/
theorem lastRead_step_of_not {S : System σ ℓ ε ρ} {w : World σ ℓ} {i j n : ℕ} {c : ℓ}
    {p : ℓ → Bool} (h : j ≠ i ∨ p c = false) :
    (w.step S j c n).lastRead i p = w.lastRead i p := by
  have hentry : (decide (j = i) && EventKind.performs p (.did c)) = false := by
    rcases h with h | h
    · simp [h]
    · simp [EventKind.performs, h]
  rw [step, lastRead_spawnMany]
  simp only [lastRead, trace_act, List.find?_cons, hentry]

theorem since_spawnMany_suffix {w : World σ ℓ} {n k i : ℕ} {c : ℓ} {p : ℓ → Bool} :
    w.since i p <:+ (w.spawnMany n c k).since i p := by
  induction k with
  | zero => exact List.suffix_refl _
  | succ k ih =>
    refine ih.trans ?_
    rw [spawnMany, since, since, trace_spawn, List.takeWhile_cons_of_pos]
    · exact List.suffix_cons _ _
    · simp [EventKind.performs]

/-- A command of another thread, or of another kind, is added to what happened since. -/
theorem since_step_suffix {S : System σ ℓ ε ρ} {w : World σ ℓ} {i j n : ℕ} {c : ℓ} {p : ℓ → Bool}
    (h : j ≠ i ∨ p c = false) :
    ⟨j, .did c, w.store⟩ :: w.since i p <:+ (w.step S j c n).since i p := by
  have hact : (w.act S.exec j c).since i p = ⟨j, .did c, w.store⟩ :: w.since i p :=
    since_act_of_not h
  rw [← hact]
  exact since_spawnMany_suffix

theorem lastAnswer_spawnMany {β : Type} {w : World σ ℓ} {n k i : ℕ} {c : ℓ}
    {f : ℓ → σ → Option β} : (w.spawnMany n c k).lastAnswer i f = w.lastAnswer i f := by
  induction k with
  | zero => rfl
  | succ k ih => exact ih

theorem lastAnswer_step_self {β : Type} {S : System σ ℓ ε ρ} {w : World σ ℓ} {i n : ℕ} {c : ℓ}
    {f : ℓ → σ → Option β} {b : β} (hc : f c w.store = some b) :
    (w.step S i c n).lastAnswer i f = some b := by
  rw [step, lastAnswer_spawnMany]
  simp [lastAnswer, hc]

/-- A command of another thread, or one without an answer, is not the last one. -/
theorem lastAnswer_step_of_not {β : Type} {S : System σ ℓ ε ρ} {w : World σ ℓ} {i j n : ℕ} {c : ℓ}
    {f : ℓ → σ → Option β} (h : j ≠ i ∨ f c w.store = none) :
    (w.step S j c n).lastAnswer i f = w.lastAnswer i f := by
  have hentry : (if j = i then f c w.store else none) = none := by
    rcases h with h | h
    · exact if_neg h
    · rw [h, ite_self]
  rw [step, lastAnswer_spawnMany]
  simp only [lastAnswer, trace_act, List.findSome?_cons, hentry]

theorem Fresh.lastRead {w : World σ ℓ} {n i : ℕ} (h : w.Fresh n) (hi : n ≤ i) (p : ℓ → Bool) :
    w.lastRead i p = none := by
  rw [World.lastRead, Option.map_eq_none_iff, List.find?_eq_none]
  intro e he
  have hlt := h e he
  have hne : e.tid ≠ i := by omega
  simp [hne]

theorem Fresh.not_did {w : World σ ℓ} {n i : ℕ} (h : w.Fresh n) (hi : n ≤ i) (H : ℓ → Prop) :
    ¬ w.Did i H := by
  rintro ⟨e, he, rfl, -⟩
  exact absurd (h e he) (by omega)

theorem Fresh.step {S : System σ ℓ ε ρ} {w : World σ ℓ} {n i : ℕ} (h : w.Fresh n) (hi : i < n)
    (c : ℓ) : (w.step S i c n).Fresh (n + (S.handlers c).length) := by
  apply fresh_spawnMany
  intro e he
  rcases List.mem_cons.mp he with rfl | he
  · exact hi
  · exact h e he

end World

/-- A shared store and the programs running on it; `current` is the program that has the
processor, if one is in the middle of synchronous code. -/
structure Pool (σ ℓ ε ρ : Type) where
  world : World σ ℓ
  threads : List (Async σ ℓ ε ρ)
  current : Option ℕ

namespace Pool

/-- The pool in which the programs `ps` are about to start on the store `s`. -/
def init (s : σ) (ps : List (Async σ ℓ ε ρ)) : Pool σ ℓ ε ρ := ⟨⟨s, []⟩, ps, none⟩

/-- Every program has returned or thrown. -/
def Finished (p : Pool σ ℓ ε ρ) : Prop := ∀ t ∈ p.threads, t.isDone = true

instance (p : Pool σ ℓ ε ρ) : Decidable p.Finished :=
  inferInstanceAs (Decidable (∀ t ∈ p.threads, t.isDone = true))

/-- Thread `i` may run: no other thread has the processor. -/
def MayRun (p : Pool σ ℓ ε ρ) (i : ℕ) : Prop := p.current = none ∨ p.current = some i

instance (p : Pool σ ℓ ε ρ) (i : ℕ) : Decidable (p.MayRun i) :=
  inferInstanceAs (Decidable (_ ∨ _))

/-- Thread `i` is now `t`. -/
def replace (p : Pool σ ℓ ε ρ) (i : ℕ) (t : Async σ ℓ ε ρ) : Pool σ ℓ ε ρ :=
  ⟨p.world, p.threads.set i t, if t.isSync then some i else none⟩

/-- The pool after thread `i`, which is `t`, performed its command `c`. -/
def advance (S : System σ ℓ ε ρ) (p : Pool σ ℓ ε ρ) (i : ℕ) (t : Async σ ℓ ε ρ) (c : ℓ) :
    Pool σ ℓ ε ρ :=
  let t' := t.resume p.world.store
  ⟨p.world.step S i c p.threads.length, p.threads.set i t' ++ S.handlers c,
    if t'.isSync then some i else none⟩

variable (S : System σ ℓ ε ρ) (cond : ℕ → World σ ℓ → ℓ → Prop) (fault : ε → Prop)

/-- One program performs its command, or has it rejected. -/
inductive Step : Pool σ ℓ ε ρ → Pool σ ℓ ε ρ → Prop
  | act {p : Pool σ ℓ ε ρ} {i : ℕ} {t : Async σ ℓ ε ρ} {c : ℓ} (hi : p.threads[i]? = some t)
      (hrun : p.MayRun i) (hc : t.command? = some c) (hcond : cond i p.world c) :
      Step p (p.advance S i t c)
  | reject {p : Pool σ ℓ ε ρ} {i : ℕ} {t t' : Async σ ℓ ε ρ} {e : ε}
      (hi : p.threads[i]? = some t) (hrun : p.MayRun i) (he : fault e)
      (ht : t.rejected? e = some t') : Step p (p.replace i t')

/-- A run of any length. -/
def Run : Pool σ ℓ ε ρ → Pool σ ℓ ε ρ → Prop := Relation.ReflTransGen (Step S cond fault)

variable {S cond fault} in
theorem Step.trace_suffix {p q : Pool σ ℓ ε ρ} (h : Step S cond fault p q) :
    p.world.trace <:+ q.world.trace := by
  cases h with
  | reject hi hrun he ht => exact List.suffix_refl _
  | act hi hrun hc hcond => exact World.trace_step_suffix

variable {S cond fault} in
/-- A run adds to the history. -/
theorem Run.trace_suffix {p q : Pool σ ℓ ε ρ} (h : Run S cond fault p q) :
    p.world.trace <:+ q.world.trace := by
  induction h with
  | refl => exact List.suffix_refl _
  | tail _ hstep ih => exact ih.trans hstep.trace_suffix

variable {S cond fault} in
theorem Step.fresh {p q : Pool σ ℓ ε ρ} (h : Step S cond fault p q)
    (hp : p.world.Fresh p.threads.length) : q.world.Fresh q.threads.length := by
  cases h with
  | reject hi hrun he ht => simpa [replace] using hp
  | @act i t c hi hrun hc hcond =>
    have hlt : i < p.threads.length := (List.getElem?_eq_some_iff.mp hi).1
    simpa [advance] using hp.step hlt c

variable {S cond fault} in
/-- Only threads of the pool act. -/
theorem Run.fresh {s : σ} {ps : List (Async σ ℓ ε ρ)} {q : Pool σ ℓ ε ρ}
    (h : Run S cond fault (init s ps) q) : q.world.Fresh q.threads.length := by
  induction h with
  | refl => exact fun e he => absurd he List.not_mem_nil
  | tail _ hstep ih => exact hstep.fresh ih

section Schedule

variable [∀ i w c, Decidable (cond i w c)]

/-- Thread `i` performs its command, if it may. -/
def stepAt? (p : Pool σ ℓ ε ρ) (i : ℕ) : Option (Pool σ ℓ ε ρ) :=
  if p.MayRun i then
    (p.threads[i]?).bind fun t => t.command?.bind fun c =>
      if cond i p.world c then some (p.advance S i t c) else none
  else none

/-- The pool after the threads performed their commands in the given order. -/
def schedule? : List ℕ → Pool σ ℓ ε ρ → Option (Pool σ ℓ ε ρ)
  | [], p => some p
  | i :: is, p => (p.stepAt? S cond i).bind (schedule? is)

variable {S cond fault}

theorem step_of_stepAt? {p q : Pool σ ℓ ε ρ} {i : ℕ} (h : p.stepAt? S cond i = some q) :
    Step S cond fault p q := by
  unfold stepAt? at h
  split_ifs at h with hrun
  obtain ⟨t, ht, h⟩ := Option.bind_eq_some_iff.mp h
  obtain ⟨c, hc, h⟩ := Option.bind_eq_some_iff.mp h
  split_ifs at h with hcond
  obtain rfl := Option.some.inj h
  exact .act ht hrun hc hcond

/-- A schedule that goes through is a run. -/
theorem run_of_schedule? {p q : Pool σ ℓ ε ρ} {is : List ℕ} (h : p.schedule? S cond is = some q) :
    Run S cond fault p q := by
  induction is generalizing p with
  | nil => obtain rfl := Option.some.inj h; exact .refl
  | cons i is ih =>
    obtain ⟨r, hr, h⟩ := Option.bind_eq_some_iff.mp h
    exact .head (step_of_stepAt? hr) (ih h)

variable (S cond fault) in
/-- A schedule that goes through to a pool satisfying `Φ`. -/
theorem exists_run_of_schedule? (p : Pool σ ℓ ε ρ) (is : List ℕ) (Φ : Pool σ ℓ ε ρ → Prop)
    [DecidablePred Φ] (h : ((p.schedule? S cond is).any fun q => decide (Φ q)) = true) :
    ∃ q, Run S cond fault p q ∧ Φ q := by
  cases hq : p.schedule? S cond is with
  | none => simp [hq] at h
  | some q =>
    rw [hq, Option.any_some] at h
    exact ⟨q, run_of_schedule? hq, of_decide_eq_true h⟩

end Schedule

end Pool

end Telima
