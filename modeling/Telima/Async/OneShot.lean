import Telima.Async.RelyGuarantee

/-!
# Marks that are set once

A thread looks a record up, finds it open, and marks it later without looking again: a token is revoked,
a code is consumed.  If nobody has marked the record since the thread has looked, then no record is
marked by two threads (`MarkedOnce.step`).
-/

namespace Telima

variable {σ ℓ ε ρ κ : Type}

/-- Records with keys `κ` that are looked up and marked. -/
structure OneShot (S : System σ ℓ ε ρ) (κ : Type) where
  /-- The command looks a record up. -/
  reads : ℓ → Bool
  /-- The command that marks a record. -/
  mark : κ → ℓ
  /-- The record can be marked. -/
  isOpen : κ → σ → Prop
  /-- There is, or was, such a record. -/
  known : κ → σ → Prop
  /-- The commands of the threads. -/
  admits : ℓ → σ → Prop
  quiet : ∀ c, S.handlers c = []
  reads_mark : ∀ k, reads (mark k) = false
  known_exec : ∀ {c s k}, admits c s → known k s → known k (S.exec c s)
  isOpen_of_exec : ∀ {c s k}, admits c s → known k s → isOpen k (S.exec c s) → isOpen k s
  not_isOpen_mark : ∀ {s k}, known k s → ¬ isOpen k (S.exec (mark k) s)

namespace OneShot

variable {S : System σ ℓ ε ρ} (O : OneShot S κ)

/-- No record is marked by two threads, and a record that is open was marked by none. -/
structure MarkedOnce (w : World σ ℓ) : Prop where
  once : ∀ k, ∀ e ∈ w.trace, ∀ e' ∈ w.trace, e.kind = .did (O.mark k) → e'.kind = .did (O.mark k) →
    e.tid = e'.tid
  before : ∀ newer e older, w.trace = newer ++ e :: older → ∀ k, O.isOpen k e.before →
    ∀ e' ∈ older, e'.kind ≠ .did (O.mark k)
  now : ∀ k, O.isOpen k w.store → ∀ e ∈ w.trace, e.kind ≠ .did (O.mark k)
  known : ∀ k, ∀ e ∈ w.trace, e.kind = .did (O.mark k) → O.known k w.store

/-- A thread marks a record it has found open. -/
def Guards (i : ℕ) (w : World σ ℓ) (c : ℓ) : Prop :=
  O.admits c w.store ∧ ∀ k, c = O.mark k →
    (∃ s, w.lastRead i O.reads = some s ∧ O.isOpen k s) ∧ O.known k w.store

/-- Nobody has marked the record since the thread has looked it up. -/
def Unmarked (i : ℕ) (w : World σ ℓ) (c : ℓ) : Prop :=
  ∀ k, c = O.mark k → ∀ e ∈ w.since i O.reads, e.kind ≠ .did (O.mark k)

variable {O} {w : World σ ℓ} {i n : ℕ} {c : ℓ}

theorem markedOnce_init (s : σ) : O.MarkedOnce ⟨s, []⟩ where
  once _ _ he := absurd he List.not_mem_nil
  before newer e older htrace := by
    have hlength := congrArg List.length htrace
    rw [List.length_append, List.length_cons] at hlength
    exact absurd hlength (by simp)
  now _ _ _ he := absurd he List.not_mem_nil
  known _ _ he := absurd he List.not_mem_nil

/-- Nobody has marked the record a thread is about to mark. -/
theorem MarkedOnce.not_marked (hw : O.MarkedOnce w) {k : κ} (hcond : O.Unmarked i w (O.mark k))
    (hguar : O.Guards i w (O.mark k)) : ∀ e ∈ w.trace, e.kind ≠ .did (O.mark k) := by
  obtain ⟨⟨s, hread, hopen⟩, -⟩ := hguar.2 k rfl
  obtain ⟨e₀, older, htrace, -, hperforms, rfl⟩ := World.trace_eq_since hread
  intro e he hkind
  rw [htrace, List.mem_append, List.mem_cons] at he
  rcases he with he | rfl | he
  · exact hcond k rfl e he hkind
  · rw [hkind, EventKind.performs, O.reads_mark] at hperforms
    cases hperforms
  · exact hw.before _ _ _ htrace k hopen e he hkind

theorem trace_step {w : World σ ℓ} {i n : ℕ} {c : ℓ} (O : OneShot S κ) :
    (w.step S i c n).trace = ⟨i, .did c, w.store⟩ :: w.trace := by
  rw [World.step_of_no_handlers (O.quiet c)]
  rfl

theorem MarkedOnce.step (hw : O.MarkedOnce w) (hcond : O.Unmarked i w c) (hguar : O.Guards i w c) :
    O.MarkedOnce (w.step S i c n) where
  once := by
    -- the new entry is the only one that marks its record
    have hnew : ∀ k, (EventKind.did c : EventKind ℓ) = .did (O.mark k) →
        ∀ e ∈ w.trace, e.kind ≠ .did (O.mark k) := by
      intro k hc
      obtain rfl := EventKind.did.inj hc
      exact hw.not_marked hcond hguar
    intro k e he e' he' hkind hkind'
    rw [O.trace_step] at he he'
    rcases List.mem_cons.mp he with rfl | he <;> rcases List.mem_cons.mp he' with rfl | he'
    · rfl
    · exact absurd hkind' (hnew k hkind e' he')
    · exact absurd hkind (hnew k hkind' e he)
    · exact hw.once k e he e' he' hkind hkind'
  before := by
    intro newer e older htrace k hopen
    rw [O.trace_step] at htrace
    cases newer with
    | nil =>
      obtain ⟨rfl, rfl⟩ := List.cons.inj htrace
      exact hw.now k hopen
    | cons e' newer => exact hw.before newer e older (List.cons.inj htrace).2 k hopen
  now := by
    intro k hopen e he hkind
    rw [World.store_step] at hopen
    rw [O.trace_step] at he
    rcases List.mem_cons.mp he with rfl | he
    · obtain rfl := EventKind.did.inj hkind
      exact O.not_isOpen_mark (hguar.2 k rfl).2 hopen
    · exact hw.now k (O.isOpen_of_exec hguar.1 (hw.known k e he hkind) hopen) e he hkind
  known := by
    intro k e he hkind
    rw [World.store_step]
    rw [O.trace_step] at he
    rcases List.mem_cons.mp he with rfl | he
    · obtain rfl := EventKind.did.inj hkind
      exact O.known_exec hguar.1 (hguar.2 k rfl).2
    · exact O.known_exec hguar.1 (hw.known k e he hkind)

variable (O) in
/-- The protocol of threads that mark what nobody has marked since. -/
def protocol (cond : ℕ → World σ ℓ → ℓ → Prop) (hcond : ∀ {i w c}, cond i w c → O.Unmarked i w c)
    (fault : ε → Prop) : Protocol S where
  cond := cond
  fault := fault
  inv := O.MarkedOnce
  guar := O.Guards
  inv_step hw hc hguar _ _ := hw.step (hcond hc) hguar

end OneShot

end Telima
