import Telima.Async.Pool
import Mathlib.Data.List.Forall2
import Mathlib.Data.Option.Basic

/-!
# Two runs in step

`Async.Related` relates two programs that come to related commands, and return related results,
whatever they read in related stores.  Two pools of related programs that are run under one
schedule (a list of `Move`s) stay related (`Pool.Related.moves?`), so that what the programs of one
run return is related to what the programs of the other return.
-/

namespace Telima

variable {σ ℓ ε α β γ δ ρ : Type}

namespace Async

/-- The programs perform commands related by `C` in step, while the stores are related by `R`, and
their results are related by `Q`. -/
inductive Related (R : σ → σ → Prop) (C : ℓ → ℓ → Prop) (Q : Except ε α → Except ε β → Prop) :
    Async σ ℓ ε α → Async σ ℓ ε β → Prop
  | done {r r'} (hr : Q r r') : Related R C Q (.done r) (.done r')
  | await {c c' next next' reject reject'} (hc : C c c')
      (hnext : ∀ s s', R s s' → Related R C Q (next s) (next' s'))
      (hreject : ∀ e, Related R C Q (reject e) (reject' e)) :
      Related R C Q (.await c next reject) (.await c' next' reject')
  | sync {c c' next next'} (hc : C c c')
      (hnext : ∀ s s', R s s' → Related R C Q (next s) (next' s')) :
      Related R C Q (.sync c next) (.sync c' next')

variable {R : σ → σ → Prop} {C : ℓ → ℓ → Prop} {Q : Except ε α → Except ε β → Prop}
  {Q' : Except ε γ → Except ε δ → Prop}

/-! ### Rules -/

theorem Related.bind {p : Async σ ℓ ε α} {p' : Async σ ℓ ε β} {f : α → Async σ ℓ ε γ}
    {f' : β → Async σ ℓ ε δ} (hp : p.Related R C Q p')
    (hf : ∀ r r', Q r r' →
      ((Async.done r).bind f).Related R C Q' ((Async.done r').bind f')) :
    (p.bind f).Related R C Q' (p'.bind f') := by
  induction hp with
  | done hr => exact hf _ _ hr
  | await hc _ _ ih ihr => exact .await hc ih ihr
  | sync hc _ ih => exact .sync hc ih

theorem Related.tryCatch {p : Async σ ℓ ε α} {p' : Async σ ℓ ε β} {k : ε → Async σ ℓ ε α}
    {k' : ε → Async σ ℓ ε β} {Q' : Except ε α → Except ε β → Prop} (hp : p.Related R C Q p')
    (hk : ∀ r r', Q r r' →
      ((Async.done r).tryCatch k).Related R C Q' ((Async.done r').tryCatch k')) :
    (p.tryCatch k).Related R C Q' (p'.tryCatch k') := by
  induction hp with
  | done hr => exact hk _ _ hr
  | await hc _ _ ih ihr => exact .await hc ih ihr
  | sync hc _ ih => exact .sync hc ih

/-- Related programs are at related commands. -/
theorem Related.command? {p : Async σ ℓ ε α} {p' : Async σ ℓ ε β} {c : ℓ}
    (hp : p.Related R C Q p') (h : p.command? = some c) :
    ∃ c', p'.command? = some c' ∧ C c c' := by
  cases hp with
  | done hr => simp [Async.command?] at h
  | await hc _ _ => obtain rfl := Option.some.inj h; exact ⟨_, rfl, hc⟩
  | sync hc _ => obtain rfl := Option.some.inj h; exact ⟨_, rfl, hc⟩

theorem Related.resume {p : Async σ ℓ ε α} {p' : Async σ ℓ ε β} {s s' : σ}
    (hp : p.Related R C Q p') (hs : R s s') : (p.resume s).Related R C Q (p'.resume s') := by
  cases hp with
  | done hr => exact .done hr
  | await _ hnext _ => exact hnext s s' hs
  | sync _ hnext => exact hnext s s' hs

theorem Related.rejected? {p t : Async σ ℓ ε α} {p' : Async σ ℓ ε β} {e : ε}
    (hp : p.Related R C Q p') (ht : p.rejected? e = some t) :
    ∃ t', p'.rejected? e = some t' ∧ t.Related R C Q t' := by
  cases hp with
  | done hr => simp [Async.rejected?] at ht
  | await _ _ hreject => obtain rfl := Option.some.inj ht; exact ⟨_, rfl, hreject e⟩
  | sync _ _ => simp [Async.rejected?] at ht

theorem Related.isSync {p : Async σ ℓ ε α} {p' : Async σ ℓ ε β} (hp : p.Related R C Q p') :
    p.isSync = p'.isSync := by
  cases hp <;> rfl

/-- The result, once the program has one. -/
def result? : Async σ ℓ ε α → Option (Except ε α)
  | .done r => some r
  | _ => none

theorem Related.result? {p : Async σ ℓ ε α} {p' : Async σ ℓ ε β} (hp : p.Related R C Q p') :
    Option.Rel Q p.result? p'.result? := by
  cases hp with
  | done hr => exact .some hr
  | await _ _ _ => exact .none
  | sync _ _ => exact .none

end Async

/-! ### Pools under one schedule -/

/-- One entry of a schedule. -/
inductive Move (ε : Type) where
  /-- Thread `i` performs its command. -/
  | act (i : ℕ)
  /-- The command thread `i` awaits is rejected with `e`. -/
  | reject (i : ℕ) (e : ε)

namespace Pool

variable (S : System σ ℓ ε ρ)

/-- The pool after one move, if it can be made. -/
def move? (p : Pool σ ℓ ε ρ) : Move ε → Option (Pool σ ℓ ε ρ)
  | .act i =>
    if p.MayRun i then
      (p.threads[i]?).bind fun t => t.command?.map fun c => p.advance S i t c
    else none
  | .reject i e =>
    if p.MayRun i then
      (p.threads[i]?).bind fun t => (t.rejected? e).map fun t' => p.replace i t'
    else none

/-- The pool after a schedule. -/
def moves? : List (Move ε) → Pool σ ℓ ε ρ → Option (Pool σ ℓ ε ρ)
  | [], p => some p
  | m :: ms, p => (p.move? S m).bind (moves? ms)

variable {S}

theorem step_of_move? {p q : Pool σ ℓ ε ρ} {m : Move ε} (h : p.move? S m = some q) :
    Step S (fun _ _ _ => True) (fun _ => True) p q := by
  cases m with
  | act i =>
    simp only [move?] at h
    split_ifs at h with hrun
    obtain ⟨t, ht, h⟩ := Option.bind_eq_some_iff.mp h
    obtain ⟨c, hc, rfl⟩ := Option.map_eq_some_iff.mp h
    exact .act ht hrun hc trivial
  | reject i e =>
    simp only [move?] at h
    split_ifs at h with hrun
    obtain ⟨t, ht, h⟩ := Option.bind_eq_some_iff.mp h
    obtain ⟨t', ht', rfl⟩ := Option.map_eq_some_iff.mp h
    exact .reject ht hrun trivial ht'

/-- A schedule that goes through is a run. -/
theorem run_of_moves? {p q : Pool σ ℓ ε ρ} {ms : List (Move ε)} (h : p.moves? S ms = some q) :
    Run S (fun _ _ _ => True) (fun _ => True) p q := by
  induction ms generalizing p with
  | nil => obtain rfl := Option.some.inj h; exact .refl
  | cons m ms ih =>
    obtain ⟨r, hr, h⟩ := Option.bind_eq_some_iff.mp h
    exact .head (step_of_move? hr) (ih h)

/-- What each thread has returned or thrown so far. -/
def results (p : Pool σ ℓ ε ρ) : List (Option (Except ε ρ)) := p.threads.map Async.result?

/-- The pools have related stores and related threads. -/
structure Related (R : σ → σ → Prop) (C : ℓ → ℓ → Prop) (Q : Except ε ρ → Except ε ρ → Prop)
    (p p' : Pool σ ℓ ε ρ) : Prop where
  store : R p.world.store p'.world.store
  threads : List.Forall₂ (Async.Related R C Q) p.threads p'.threads
  current : p.current = p'.current

variable {S' : System σ ℓ ε ρ} {R : σ → σ → Prop} {C : ℓ → ℓ → Prop}
  {Q : Except ε ρ → Except ε ρ → Prop} {p p' q : Pool σ ℓ ε ρ}

theorem Related.thread (h : p.Related R C Q p') {i : ℕ} {t : Async σ ℓ ε ρ}
    (ht : p.threads[i]? = some t) : ∃ t', p'.threads[i]? = some t' ∧ t.Related R C Q t' := by
  obtain ⟨hlt, rfl⟩ := List.getElem?_eq_some_iff.mp ht
  have hlt' : i < p'.threads.length := h.threads.length_eq ▸ hlt
  exact ⟨p'.threads[i], List.getElem?_eq_getElem hlt', h.threads.get hlt hlt'⟩

theorem Related.set (h : p.Related R C Q p') (i : ℕ) {t t' : Async σ ℓ ε ρ}
    (ht : t.Related R C Q t') :
    List.Forall₂ (Async.Related R C Q) (p.threads.set i t) (p'.threads.set i t') := by
  rw [List.forall₂_iff_get]
  refine ⟨by simp [h.threads.length_eq], fun j hj hj' => ?_⟩
  simp only [List.get_eq_getElem, List.getElem_set]
  split_ifs
  · exact ht
  · exact h.threads.get (by simpa using hj) (by simpa using hj')

/-- Lists of related results are equal if the results that are there are. -/
theorem eq_of_results {rs rs' : List (Option (Except ε ρ))}
    (h : List.Forall₂ (Option.Rel Q) rs rs')
    (heq : ∀ (i : ℕ) r r', rs[i]? = some (some r) → rs'[i]? = some (some r') → Q r r' → r = r') :
    rs = rs' := by
  refine List.ext_get h.length_eq fun i hi hi' => ?_
  have hrel := h.get hi hi'
  have hget : rs[i]? = some (rs.get ⟨i, hi⟩) := List.getElem?_eq_getElem hi
  have hget' : rs'[i]? = some (rs'.get ⟨i, hi'⟩) := List.getElem?_eq_getElem hi'
  cases hr : rs.get ⟨i, hi⟩ with
  | none =>
    cases hr' : rs'.get ⟨i, hi'⟩ with
    | none => rfl
    | some r' =>
      rw [hr, hr'] at hrel
      exact absurd hrel Option.not_rel_none_some
  | some r =>
    cases hr' : rs'.get ⟨i, hi'⟩ with
    | none =>
      rw [hr, hr'] at hrel
      exact absurd hrel Option.not_rel_some_none
    | some r' =>
      rw [hr, hr', Option.rel_some_some] at hrel
      rw [hr] at hget
      rw [hr'] at hget'
      rw [heq i r r' hget hget' hrel]

/-- What the first pool can do the second can, and they stay related. -/
theorem Related.move? (hexec : ∀ c c' s s', C c c' → R s s' → R (S.exec c s) (S'.exec c' s'))
    (hhandlers : ∀ c c', C c c' →
      List.Forall₂ (Async.Related R C Q) (S.handlers c) (S'.handlers c'))
    (h : p.Related R C Q p') {m : Move ε} (hq : p.move? S m = some q) :
    ∃ q', p'.move? S' m = some q' ∧ q.Related R C Q q' := by
  have hmay : ∀ i, p'.MayRun i ↔ p.MayRun i := fun i => by rw [MayRun, MayRun, h.current]
  cases m with
  | act i =>
    simp only [Pool.move?] at hq
    split_ifs at hq with hrun
    obtain ⟨t, ht, hq⟩ := Option.bind_eq_some_iff.mp hq
    obtain ⟨c, hc, rfl⟩ := Option.map_eq_some_iff.mp hq
    obtain ⟨t', ht', hrel⟩ := h.thread ht
    obtain ⟨c', hc', hcc⟩ := hrel.command? hc
    have hresume := hrel.resume h.store
    refine ⟨p'.advance S' i t' c', ?_, ?_, ?_, ?_⟩
    · simp [Pool.move?, (hmay i).mpr hrun, ht', hc']
    · simpa [advance] using hexec c c' _ _ hcc h.store
    · exact List.rel_append (h.set i hresume) (hhandlers c c' hcc)
    · simp only [advance, hresume.isSync]
  | reject i e =>
    simp only [Pool.move?] at hq
    split_ifs at hq with hrun
    obtain ⟨t, ht, hq⟩ := Option.bind_eq_some_iff.mp hq
    obtain ⟨u, hu, rfl⟩ := Option.map_eq_some_iff.mp hq
    obtain ⟨t', ht', hrel⟩ := h.thread ht
    obtain ⟨u', hu', hrel'⟩ := hrel.rejected? hu
    refine ⟨p'.replace i u', ?_, h.store, h.set i hrel', ?_⟩
    · simp [Pool.move?, (hmay i).mpr hrun, ht', hu']
    · simp only [replace, hrel'.isSync]

theorem Related.moves? (hexec : ∀ c c' s s', C c c' → R s s' → R (S.exec c s) (S'.exec c' s'))
    (hhandlers : ∀ c c', C c c' →
      List.Forall₂ (Async.Related R C Q) (S.handlers c) (S'.handlers c'))
    (h : p.Related R C Q p') {ms : List (Move ε)} (hq : p.moves? S ms = some q) :
    ∃ q', p'.moves? S' ms = some q' ∧ q.Related R C Q q' := by
  induction ms generalizing p p' with
  | nil => obtain rfl := Option.some.inj hq; exact ⟨p', rfl, h⟩
  | cons m ms ih =>
    obtain ⟨r, hr, hq⟩ := Option.bind_eq_some_iff.mp hq
    obtain ⟨r', hr', hrel⟩ := h.move? hexec hhandlers hr
    obtain ⟨q', hq', hrel'⟩ := ih hrel hq
    refine ⟨q', ?_, hrel'⟩
    rw [Pool.moves?, hr', Option.bind_some, hq']

/-- Related pools return related results. -/
theorem Related.results (h : p.Related R C Q p') :
    List.Forall₂ (Option.Rel Q) p.results p'.results :=
  List.forall₂_map_left_iff.mpr
    (List.forall₂_map_right_iff.mpr (h.threads.imp fun _ _ hrel => hrel.result?))

end Pool

end Telima
