import Telima.Async.Caching

/-!
# What started a thread

The handlers of a command start in the step that performs it, so the history tells of a thread which
command started it, when, and as which of its handlers (`World.StartedAt`).  In a run every handler of
every command is started (`Pool.Run.exists_startedAt`), and a thread is started once
(`Pool.Run.startedAt_inj`).
-/

namespace Telima

variable {σ ℓ ε ρ : Type} {S : System σ ℓ ε ρ}

namespace World

variable {w w' : World σ ℓ} {i j k d n : ℕ} {c : ℓ}

theorem history_spawnMany (w : World σ ℓ) (n : ℕ) (c : ℓ) (count : ℕ) :
    (w.spawnMany n c count).history =
      w.history ++ (List.range count).map fun e => ⟨n + e, .spawned c, w.store⟩ := by
  induction count with
  | zero => exact (List.append_nil _).symm
  | succ count ih =>
    rw [spawnMany, history, trace_spawn, List.reverse_cons, ← history, ih, List.range_succ,
      List.map_append, List.append_assoc, spawnMany_store]
    rfl

theorem history_step (w : World σ ℓ) (j : ℕ) (c : ℓ) (n : ℕ) :
    (w.step S j c n).history = w.history ++ ⟨j, .did c, w.store⟩ ::
      (List.range (S.handlers c).length).map fun e => ⟨n + e, .spawned c, S.exec c w.store⟩ := by
  rw [step, history_spawnMany, history_act, List.append_assoc]
  rfl

/-- One thing happens at a moment. -/
theorem DidAt.unique {c' : ℓ} (h : w.DidAt k i c) (h' : w.DidAt k j c') : i = j ∧ c = c' := by
  obtain ⟨s, hs⟩ := h
  obtain ⟨s', hs'⟩ := h'
  rw [hs] at hs'
  cases hs'
  exact ⟨rfl, rfl⟩

/-- Thread `i` is handler `d` of the command `c`, which was performed at moment `k`. -/
def StartedAt (w : World σ ℓ) (k i : ℕ) (c : ℓ) (d : ℕ) : Prop :=
  (∃ j, w.DidAt k j c) ∧ ∃ n, i = n + d ∧
    ∀ e ≤ d, ∃ s, w.history[k + 1 + e]? = some ⟨n + e, .spawned c, s⟩

theorem StartedAt.lt (h : w.StartedAt k i c d) : k < w.moment := by
  obtain ⟨⟨j, hdid⟩, -⟩ := h
  exact hdid.lt

theorem StartedAt.of_suffix (h : w.StartedAt k i c d) (hsuffix : w.trace <:+ w'.trace) :
    w'.StartedAt k i c d := by
  obtain ⟨⟨j, hdid⟩, n, hi, hentries⟩ := h
  refine ⟨⟨j, hdid.of_suffix hsuffix⟩, n, hi, fun e he => ?_⟩
  obtain ⟨s, hs⟩ := hentries e he
  have hlt : k + 1 + e < w.moment := by
    rw [← length_history]
    exact (List.getElem?_eq_some_iff.mp hs).1
  exact ⟨s, by rw [getElem?_history_of_suffix hsuffix hlt, hs]⟩

theorem historic_startedAt : Protocol.Historic fun w : World σ ℓ => w.StartedAt k i c d :=
  fun _ _ hsuffix h => h.of_suffix hsuffix

/-- A step starts the handlers of its command. -/
theorem startedAt_step (hd : d < (S.handlers c).length) :
    (w.step S j c n).StartedAt w.moment (n + d) c d := by
  refine ⟨⟨j, didAt_step.1⟩, n, rfl, fun e he => ⟨S.exec c w.store, ?_⟩⟩
  have hentry : (w.step S j c n).history[w.history.length + (1 + e)]? =
      some ⟨n + e, .spawned c, S.exec c w.store⟩ := by
    rw [history_step, List.getElem?_append_right (Nat.le_add_right _ _), Nat.add_sub_cancel_left,
      Nat.add_comm, List.getElem?_cons_succ, List.getElem?_map,
      List.getElem?_range (he.trans_lt hd), Option.map_some]
  rwa [length_history, ← Nat.add_assoc] at hentry

/-- What a step adds to the threads that were started. -/
theorem spawned_of_step {a : ℕ} {s : σ} {e : ℓ}
    (h : (w.step S j c n).history[a]? = some ⟨i, .spawned e, s⟩) :
    (a < w.moment ∧ w.history[a]? = some ⟨i, .spawned e, s⟩) ∨
      w.moment < a ∧ i + w.moment + 1 = n + a := by
  rw [history_step] at h
  rcases Nat.lt_or_ge a w.moment with hlt | hge
  · rw [List.getElem?_append_left (by rwa [length_history])] at h
    exact Or.inl ⟨hlt, h⟩
  · rw [List.getElem?_append_right (by rwa [length_history]), length_history] at h
    cases hpos : a - w.moment with
    | zero =>
      rw [hpos, List.getElem?_cons_zero] at h
      cases h
    | succ b =>
      rw [hpos, List.getElem?_cons_succ, List.getElem?_map] at h
      obtain ⟨b', hb', hentry⟩ := Option.map_eq_some_iff.mp h
      obtain ⟨hblt, hb⟩ := List.getElem?_eq_some_iff.mp hb'
      obtain rfl : b = b' := by simpa using hb
      have htid : n + b = i := congrArg Event.tid hentry
      exact Or.inr ⟨by omega, by omega⟩

end World

namespace Pool

variable {cond : ℕ → World σ ℓ → ℓ → Prop} {fault : ε → Prop} {s : σ}
  {ps : List (Async σ ℓ ε ρ)} {p : Pool σ ℓ ε ρ} {i k k' d d' : ℕ} {c c' : ℓ}

theorem Run.length_le (h : Run S cond fault (init s ps) p) : ps.length ≤ p.threads.length := by
  induction h with
  | refl => exact le_rfl
  | tail _ hstep ih =>
    refine ih.trans ?_
    cases hstep with
    | reject hi hrun he ht => simp [replace]
    | act hi hrun hc hcond => simp [advance]

/-- A thread that is started is none of the first, and is started once. -/
theorem Run.spawned_once (h : Run S cond fault (init s ps) p) {a : ℕ} {t : σ}
    (ha : p.world.history[a]? = some ⟨i, .spawned c, t⟩) : ps.length ≤ i ∧
      ∀ (b : ℕ) (c' : ℓ) (t' : σ), p.world.history[b]? = some ⟨i, .spawned c', t'⟩ → a = b := by
  induction h generalizing a i c t with
  | refl => cases ha
  | @tail p q hp hstep ih =>
    cases hstep with
    | reject hi hrun he ht => exact ih ha
    | @act j u e hj hrun hc hcond =>
      have hfresh : p.world.Fresh p.threads.length := Run.fresh hp
      have hle : ps.length ≤ p.threads.length := Run.length_le hp
      have hold : ∀ {a : ℕ} {c : ℓ} {t : σ}, p.world.history[a]? = some ⟨i, .spawned c, t⟩ →
          i < p.threads.length := by
        intro a c t hentry
        exact hfresh _ (List.mem_reverse.mp (List.mem_of_getElem? hentry))
      rcases World.spawned_of_step ha with ⟨-, hpast⟩ | ⟨halt, hnew⟩
      · refine ⟨(ih hpast).1, fun b c' t' hb => ?_⟩
        rcases World.spawned_of_step hb with ⟨-, hpast'⟩ | ⟨hblt, hnew'⟩
        · exact (ih hpast).2 b c' t' hpast'
        · have hlt := hold hpast
          omega
      · refine ⟨by omega, fun b c' t' hb => ?_⟩
        rcases World.spawned_of_step hb with ⟨-, hpast'⟩ | ⟨hblt, hnew'⟩
        · have hlt := hold hpast'
          omega
        · omega

theorem Run.le_of_startedAt (h : Run S cond fault (init s ps) p) (hi : p.world.StartedAt k i c d) :
    ps.length ≤ i := by
  obtain ⟨-, n, rfl, hentries⟩ := hi
  obtain ⟨t, ht⟩ := hentries d le_rfl
  exact (h.spawned_once ht).1

/-- A thread is started by one command. -/
theorem Run.startedAt_inj (h : Run S cond fault (init s ps) p) (hi : p.world.StartedAt k i c d)
    (hi' : p.world.StartedAt k' i c' d') : k = k' ∧ c = c' ∧ d = d' := by
  obtain ⟨⟨j, t, hdid⟩, n, rfl, hentries⟩ := hi
  obtain ⟨⟨j', t', hdid'⟩, n', hn, hentries'⟩ := hi'
  obtain ⟨u, hu⟩ := hentries d le_rfl
  obtain ⟨u', hu'⟩ := hentries' d' le_rfl
  rw [← hn] at hu'
  have hsame : k + 1 + d = k' + 1 + d' := (h.spawned_once hu).2 _ _ _ hu'
  -- between the command and the start of its handler only handlers start
  have hk : k = k' := by
    rcases Nat.lt_trichotomy k k' with hlt | heq | hgt
    · obtain ⟨v, hv⟩ := hentries (k' - k - 1) (by omega)
      rw [show k + 1 + (k' - k - 1) = k' by omega, hdid'] at hv
      cases hv
    · exact heq
    · obtain ⟨v, hv⟩ := hentries' (k - k' - 1) (by omega)
      rw [show k' + 1 + (k - k' - 1) = k by omega, hdid] at hv
      cases hv
  subst hk
  rw [hdid] at hdid'
  cases hdid'
  exact ⟨rfl, rfl, by omega⟩

/-- Two handlers of one number were started by one command only if they are the same. -/
theorem startedAt_unique {w : World σ ℓ} {i' : ℕ} (hi : w.StartedAt k i c d)
    (hi' : w.StartedAt k i' c' d) : i = i' := by
  obtain ⟨-, n, rfl, hentries⟩ := hi
  obtain ⟨-, n', rfl, hentries'⟩ := hi'
  obtain ⟨t, ht⟩ := hentries d le_rfl
  obtain ⟨t', ht'⟩ := hentries' d le_rfl
  rw [ht] at ht'
  exact congrArg Event.tid (Option.some.inj ht')

/-- Every handler is started. -/
theorem Run.exists_startedAt (h : Run S cond fault (init s ps) p) {j : ℕ}
    (hdid : p.world.DidAt k j c) (hd : d < (S.handlers c).length) :
    ∃ i < p.threads.length, p.world.StartedAt k i c d := by
  induction h with
  | refl => exact absurd hdid.lt (Nat.not_lt_zero k)
  | @tail p q hp hstep ih =>
    cases hstep with
    | @reject j' u u' e hj hrun he ht =>
      obtain ⟨i, hi, hstarted⟩ := ih hdid
      exact ⟨i, by simpa [replace] using hi, hstarted⟩
    | @act j' u c' hj hrun hc hcond =>
      rcases hdid.of_step with hpast | ⟨rfl, -, rfl⟩
      · obtain ⟨i, hi, hstarted⟩ := ih hpast
        refine ⟨i, ?_, hstarted.of_suffix World.trace_step_suffix⟩
        simp only [advance, List.length_append, List.length_set]
        omega
      · refine ⟨p.threads.length + d, ?_, World.startedAt_step hd⟩
        simp only [advance, List.length_append, List.length_set]
        omega

end Pool

end Telima
