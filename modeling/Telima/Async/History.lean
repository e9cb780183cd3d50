import Telima.Async.Pool

/-!
# Moments of a run

The history of a world, oldest entry first, numbers the moments of a run: entry `k` was written at moment
`k`, in the store of that moment, and the store of the world is that of the moment after the last entry.
Properties that order commands of several threads, or that say what was read when, are stated with these
numbers.
-/

namespace Telima

variable {σ ℓ ε ρ : Type}

namespace World

/-- The history, oldest entry first. -/
def history (w : World σ ℓ) : List (Event σ ℓ) := w.trace.reverse

/-- The present moment. -/
def moment (w : World σ ℓ) : ℕ := w.trace.length

/-- The store of a moment. -/
def storeAt (w : World σ ℓ) (k : ℕ) : σ := (w.history[k]?).elim w.store Event.before

/-- Thread `i` performed `c` at moment `k`. -/
def DidAt (w : World σ ℓ) (k i : ℕ) (c : ℓ) : Prop := ∃ s, w.history[k]? = some ⟨i, .did c, s⟩

variable {w : World σ ℓ} {exec : ℓ → σ → σ} {i j k : ℕ} {c d : ℓ}

@[simp] theorem length_history (w : World σ ℓ) : w.history.length = w.moment :=
  List.length_reverse

@[simp] theorem moment_act : (w.act exec i c).moment = w.moment + 1 := rfl

theorem history_act : (w.act exec i c).history = w.history ++ [⟨i, .did c, w.store⟩] :=
  List.reverse_cons

@[simp] theorem storeAt_moment (w : World σ ℓ) : w.storeAt w.moment = w.store := by
  have hnone : w.history[w.moment]? = none := by
    rw [List.getElem?_eq_none_iff, length_history]
  rw [storeAt, hnone]
  rfl

/-- The past stays as it was. -/
theorem storeAt_act (h : k ≤ w.moment) : (w.act exec i c).storeAt k = w.storeAt k := by
  rcases Nat.lt_or_eq_of_le h with hlt | rfl
  · have hentry : (w.act exec i c).history[k]? = w.history[k]? := by
      rw [history_act, List.getElem?_append_left (by rwa [length_history])]
    have hlength : k < w.history.length := by rwa [length_history]
    rw [storeAt, storeAt, hentry, List.getElem?_eq_getElem hlength]
    rfl
  · have hlast : (w.act exec i c).history[w.moment]? = some ⟨i, .did c, w.store⟩ := by
      rw [history_act, ← length_history, List.getElem?_concat_length]
    rw [storeAt_moment, storeAt, hlast]
    rfl

theorem DidAt.lt (h : w.DidAt k i c) : k < w.moment := by
  obtain ⟨s, hs⟩ := h
  rw [← length_history]
  exact (List.getElem?_eq_some_iff.mp hs).1

theorem DidAt.did (h : w.DidAt k i c) {H : ℓ → Prop} (hc : H c) : w.Did i H := by
  obtain ⟨s, hs⟩ := h
  have hmem : (⟨i, .did c, s⟩ : Event σ ℓ) ∈ w.history := List.mem_of_getElem? hs
  exact ⟨_, List.mem_reverse.mp hmem, rfl, c, rfl, hc⟩

theorem didAt_act : (w.act exec j d).DidAt k i c ↔
    w.DidAt k i c ∨ (k = w.moment ∧ j = i ∧ d = c) := by
  unfold DidAt
  rw [history_act]
  rcases Nat.lt_trichotomy k w.moment with hlt | rfl | hgt
  · rw [List.getElem?_append_left (by rwa [length_history])]
    constructor
    · exact Or.inl
    · rintro (h | ⟨rfl, -⟩)
      · exact h
      · exact absurd hlt (Nat.lt_irrefl _)
  · have hnone : w.history[w.moment]? = none := by
      rw [List.getElem?_eq_none_iff, length_history]
    have hlast : (w.history ++ [⟨j, .did d, w.store⟩])[w.moment]? = some ⟨j, .did d, w.store⟩ := by
      rw [← length_history, List.getElem?_concat_length]
    rw [hlast, hnone]
    simp
  · have hnone : w.history[k]? = none := by
      rw [List.getElem?_eq_none_iff, length_history]
      omega
    have hnone' : (w.history ++ [⟨j, .did d, w.store⟩])[k]? = none := by
      rw [List.getElem?_eq_none_iff, List.length_append, length_history, List.length_singleton]
      omega
    rw [hnone, hnone']
    constructor
    · rintro ⟨s, hs⟩
      cases hs
    · rintro (⟨s, hs⟩ | ⟨rfl, -⟩)
      · cases hs
      · exact absurd hgt (Nat.lt_irrefl _)

theorem DidAt.act (h : w.DidAt k i c) : (w.act exec j d).DidAt k i c := didAt_act.mpr (Or.inl h)

/-- Thread `i` performed a command of the kind `p` at moment `k`. -/
def didKindAt (w : World σ ℓ) (k i : ℕ) (p : ℓ → Bool) : Bool :=
  (w.history[k]?).any fun e => decide (e.tid = i) && e.kind.performs p

theorem exists_didAt {p : ℓ → Bool} (h : w.didKindAt k i p = true) :
    ∃ c, w.DidAt k i c ∧ p c = true := by
  obtain ⟨e, he, hkind⟩ := (Option.any_eq_true _ _).mp h
  obtain ⟨htid, hperforms⟩ := Bool.and_eq_true_iff.mp hkind
  obtain ⟨tid, kind, before⟩ := e
  obtain rfl : tid = i := of_decide_eq_true htid
  cases kind with
  | did c => exact ⟨c, ⟨before, he⟩, hperforms⟩
  | spawned c => cases hperforms

/-- The moment of the last read of a thread, after which everything was done since. -/
theorem exists_moment_of_lastRead {p : ℓ → Bool} {s : σ} (h : w.lastRead i p = some s) :
    ∃ k, k < w.moment ∧ w.storeAt k = s ∧ (∃ c, w.DidAt k i c ∧ p c = true) ∧
      ∀ a j c, w.DidAt a j c → k < a → ∃ s, ⟨j, .did c, s⟩ ∈ w.since i p := by
  obtain ⟨e, older, htrace, htid, hperforms, hbefore⟩ := trace_eq_since h
  have hhistory : w.history = older.reverse ++ e :: (w.since i p).reverse := by
    rw [history, htrace]
    simp
  have hentry : w.history[older.length]? = some e := by
    rw [hhistory, List.getElem?_append_right (by simp)]
    simp
  refine ⟨older.length, ?_, ?_, ?_, ?_⟩
  · rw [moment, htrace]
    simp
    omega
  · rw [storeAt, hentry]
    exact hbefore
  · obtain ⟨tid, kind, before⟩ := e
    cases kind with
    | did c => exact ⟨c, ⟨before, by rw [hentry, ← htid]⟩, hperforms⟩
    | spawned c => cases hperforms
  · rintro a j c ⟨s, hs⟩ hlt
    have hle : older.reverse.length ≤ a := by
      rw [List.length_reverse]
      omega
    rw [hhistory, List.getElem?_append_right hle] at hs
    obtain ⟨m, hm⟩ : ∃ m, a - older.reverse.length = m + 1 := by
      rw [List.length_reverse]
      exact ⟨a - older.length - 1, by omega⟩
    rw [hm, List.getElem?_cons_succ] at hs
    exact ⟨s, List.mem_reverse.mp (List.mem_of_getElem? hs)⟩

end World

/-! ### One thread alone -/

/-- Thread `i` performs commands, and nobody else does. -/
inductive RunsAlone (exec : ℓ → σ → σ) (i : ℕ) :
    Async σ ℓ ε ρ → World σ ℓ → Async σ ℓ ε ρ → World σ ℓ → Prop
  | refl {t : Async σ ℓ ε ρ} {w : World σ ℓ} : RunsAlone exec i t w t w
  | step {t t' : Async σ ℓ ε ρ} {w w' : World σ ℓ} {c : ℓ} (hc : t.command? = some c)
      (h : RunsAlone exec i (t.resume w.store) (w.act exec i c) t' w') : RunsAlone exec i t w t' w'

theorem RunsAlone.trans {exec : ℓ → σ → σ} {i : ℕ} {t t' t'' : Async σ ℓ ε ρ}
    {w w' w'' : World σ ℓ} (h : RunsAlone exec i t w t' w') (h' : RunsAlone exec i t' w' t'' w'') :
    RunsAlone exec i t w t'' w'' := by
  induction h with
  | refl => exact h'
  | step hc _ ih => exact .step hc (ih h')

namespace Pool

/-- The processor is free, or with thread `i`, which needs it. -/
def Turn (p : Pool σ ℓ ε ρ) (i : ℕ) (t : Async σ ℓ ε ρ) : Prop :=
  p.current = none ∨ (p.current = some i ∧ t.isSync = true)

/-- A thread that runs alone, where commands start no handlers. -/
theorem run_of_runsAlone {S : System σ ℓ ε ρ} (hhandlers : ∀ c, S.handlers c = []) (fault : ε → Prop)
    {i : ℕ} {t t' : Async σ ℓ ε ρ} {w w' : World σ ℓ} (h : RunsAlone S.exec i t w t' w')
    {p : Pool σ ℓ ε ρ} (hworld : p.world = w) (hi : p.threads[i]? = some t) (hturn : p.Turn i t) :
    ∃ q, Run S (fun _ _ _ => True) fault p q ∧ q.world = w' ∧ q.threads = p.threads.set i t' ∧
      q.Turn i t' := by
  induction h generalizing p with
  | @refl t w =>
    obtain ⟨hlt, hget⟩ := List.getElem?_eq_some_iff.mp hi
    have hset : p.threads.set i t = p.threads := by rw [← hget, List.set_getElem_self]
    exact ⟨p, .refl, hworld, hset.symm, hturn⟩
  | @step t t' w w' c hc _ ih =>
    obtain rfl := hworld
    have hlt : i < p.threads.length := (List.getElem?_eq_some_iff.mp hi).1
    have hmay : p.MayRun i := hturn.imp_right And.left
    have hthreads : (p.advance S i t c).threads = p.threads.set i (t.resume p.world.store) := by
      show p.threads.set i _ ++ S.handlers c = _
      rw [hhandlers, List.append_nil]
    have hworld : (p.advance S i t c).world = p.world.act S.exec i c :=
      World.step_of_no_handlers (hhandlers c) p.world i p.threads.length
    have hturn' : (p.advance S i t c).Turn i (t.resume p.world.store) := by
      by_cases hsync : (t.resume p.world.store).isSync = true
      · exact Or.inr ⟨if_pos hsync, hsync⟩
      · exact Or.inl (if_neg hsync)
    obtain ⟨q, hrun, hq, hset, hlast⟩ :=
      ih hworld (by rw [hthreads, List.getElem?_set_self hlt]) hturn'
    refine ⟨q, .head (.act hi hmay hc trivial) hrun, hq, ?_, hlast⟩
    rw [hset, hthreads, List.set_set]

end Pool

end Telima
