import Telima.Async.Pool

/-!
# Rely-guarantee reasoning about interleaved runs

A `Protocol` states what the threads of a pool promise each other: an invariant of the world, and
for each thread and command a guarantee `guar` that holds whenever the command is performed.
`Protocol.wp i p Q w` says that thread `i`, about to run `p` in the world `w`, keeps the protocol
and ends in a result and a world satisfying `Q`, whatever the other threads do within the
protocol.  It is defined by recursion on `p`, so a proof about a program follows its text.

`Safe.run` is the soundness theorem: a pool whose threads all satisfy `wp` keeps the protocol
through every run.
-/

namespace Telima

variable {σ ℓ ε α β ρ : Type}

/-- What the threads of a pool promise each other. -/
structure Protocol (S : System σ ℓ ε ρ) where
  /-- The steps the runs are restricted to. -/
  cond : ℕ → World σ ℓ → ℓ → Prop
  /-- The errors an awaited command may be rejected with. -/
  fault : ε → Prop
  /-- The invariant of the world. -/
  inv : World σ ℓ → Prop
  /-- What holds when a thread performs a command. -/
  guar : ℕ → World σ ℓ → ℓ → Prop
  inv_step : ∀ {w i c n}, inv w → cond i w c → guar i w c → i < n → w.Fresh n → inv (w.step S i c n)

namespace Protocol

variable {S : System σ ℓ ε ρ} (P : Protocol S)

/-- One step of a thread other than `i`. -/
def Other (i : ℕ) (w w' : World σ ℓ) : Prop :=
  ∃ j c n, j ≠ i ∧ i < n ∧ j < n ∧ w.Fresh n ∧ P.inv w ∧ P.cond j w c ∧ P.guar j w c ∧
    w' = w.step S j c n

/-- Any number of steps of threads other than `i`. -/
def Interferes (i : ℕ) : World σ ℓ → World σ ℓ → Prop := Relation.ReflTransGen (P.Other i)

/-- Thread `i` may rely on `A`: no other thread invalidates it. -/
def Stable (i : ℕ) (A : World σ ℓ → Prop) : Prop := ∀ ⦃w w'⦄, P.Other i w w' → A w → A w'

variable {P}

theorem Stable.interferes {i : ℕ} {A : World σ ℓ → Prop} (hA : P.Stable i A) {w w' : World σ ℓ}
    (h : P.Interferes i w w') (hw : A w) : A w' := by
  induction h with
  | refl => exact hw
  | tail _ hstep ih => exact hA hstep ih

theorem Stable.and {i : ℕ} {A B : World σ ℓ → Prop} (hA : P.Stable i A) (hB : P.Stable i B) :
    P.Stable i fun w => A w ∧ B w :=
  fun _ _ h hw => ⟨hA h hw.1, hB h hw.2⟩

theorem stable_const (i : ℕ) (p : Prop) : P.Stable i fun _ => p := fun _ _ _ hp => hp

/-- What a thread did is not undone, nor added to, by others. -/
theorem stable_did (i : ℕ) (H : ℓ → Prop) : P.Stable i fun w => w.Did i H := by
  rintro w _ ⟨j, c, n, hj, -, -, -, -, -, -, rfl⟩ h
  exact (World.did_step_of_ne hj).mpr h

theorem stable_not_did (i : ℕ) (H : ℓ → Prop) : P.Stable i fun w => ¬ w.Did i H := by
  rintro w _ ⟨j, c, n, hj, -, -, -, -, -, -, rfl⟩ h
  rwa [World.did_step_of_ne hj]

/-- The last read of a thread stays its last read while others run. -/
theorem stable_lastRead (i : ℕ) (p : ℓ → Bool) (s : Option σ) :
    P.Stable i fun w => w.lastRead i p = s := by
  rintro w _ ⟨j, c, n, hj, -, -, -, -, -, -, rfl⟩ h
  rwa [World.lastRead_step_of_not (Or.inl hj)]

variable (P)

/-- Thread `i` keeps the protocol while it runs the program from the world `w`, and ends in a
result and a world satisfying `Q`. -/
def wp (i : ℕ) : Async σ ℓ ε α → (Except ε α → World σ ℓ → Prop) → World σ ℓ → Prop
  | .done r, Q, w => Q r w
  | .await c next reject, Q, w =>
    ∀ w', P.Interferes i w w' → P.inv w' →
      (P.cond i w' c → P.guar i w' c ∧
        ∀ n, i < n → w'.Fresh n → wp i (next w'.store) Q (w'.step S i c n)) ∧
      ∀ e, P.fault e → wp i (reject e) Q w'
  | .sync c next, Q, w =>
    ∀ w', P.Interferes i w w' → P.inv w' →
      P.cond i w' c → P.guar i w' c ∧
        ∀ n, i < n → w'.Fresh n → wp i (next w'.store) Q (w'.step S i c n)

/-- What performing `c` asks of thread `i` in the world `w`, and what it leaves. -/
def Performs (i : ℕ) (c : ℓ) (w : World σ ℓ) (Q : World σ ℓ → Prop) : Prop :=
  P.cond i w c → P.guar i w c ∧ ∀ n, i < n → w.Fresh n → Q (w.step S i c n)

variable {P} {i : ℕ}

/-! ### Rules -/

theorem wp_mono {p : Async σ ℓ ε α} {Q Q' : Except ε α → World σ ℓ → Prop} {w : World σ ℓ}
    (hQ : ∀ r w, Q r w → Q' r w) (h : P.wp i p Q w) : P.wp i p Q' w := by
  induction p generalizing w with
  | done r => exact hQ r w h
  | await c next reject ih ihr =>
    intro w' hw' hinv
    obtain ⟨hact, hrej⟩ := h w' hw' hinv
    refine ⟨fun hc => ⟨(hact hc).1, fun n hn hf => ih _ ((hact hc).2 n hn hf)⟩, fun e he => ?_⟩
    exact ihr e (hrej e he)
  | sync c next ih =>
    intro w' hw' hinv hc
    exact ⟨(h w' hw' hinv hc).1, fun n hn hf => ih _ ((h w' hw' hinv hc).2 n hn hf)⟩

theorem wp_bind {p : Async σ ℓ ε α} {f : α → Async σ ℓ ε β}
    {Q : Except ε β → World σ ℓ → Prop} {w : World σ ℓ}
    (h : P.wp i p (fun r w => P.wp i ((Async.done r).bind f) Q w) w) :
    P.wp i (p.bind f) Q w := by
  induction p generalizing w with
  | done r => exact h
  | await c next reject ih ihr =>
    intro w' hw' hinv
    obtain ⟨hact, hrej⟩ := h w' hw' hinv
    refine ⟨fun hc => ⟨(hact hc).1, fun n hn hf => ih _ ((hact hc).2 n hn hf)⟩, fun e he => ?_⟩
    exact ihr e (hrej e he)
  | sync c next ih =>
    intro w' hw' hinv hc
    exact ⟨(h w' hw' hinv hc).1, fun n hn hf => ih _ ((h w' hw' hinv hc).2 n hn hf)⟩

theorem wp_tryCatch {p : Async σ ℓ ε α} {k : ε → Async σ ℓ ε α}
    {Q : Except ε α → World σ ℓ → Prop} {w : World σ ℓ}
    (h : P.wp i p (fun r w => P.wp i ((Async.done r).tryCatch k) Q w) w) :
    P.wp i (p.tryCatch k) Q w := by
  induction p generalizing w with
  | done r => exact h
  | await c next reject ih ihr =>
    intro w' hw' hinv
    obtain ⟨hact, hrej⟩ := h w' hw' hinv
    refine ⟨fun hc => ⟨(hact hc).1, fun n hn hf => ih _ ((hact hc).2 n hn hf)⟩, fun e he => ?_⟩
    exact ihr e (hrej e he)
  | sync c next ih =>
    intro w' hw' hinv hc
    exact ⟨(h w' hw' hinv hc).1, fun n hn hf => ih _ ((h w' hw' hinv hc).2 n hn hf)⟩

theorem wp_as {p : Async σ ℓ ε α} {b : β} {w : World σ ℓ} (h : P.wp i p (fun _ _ => True) w) :
    P.wp i (p.as b) (fun _ _ => True) w := by
  apply wp_bind
  refine wp_mono ?_ h
  intro r w _
  cases r <;> trivial

/-- A thread that has not run yet, or is waiting, is not disturbed by the others. -/
theorem wp_interferes {p : Async σ ℓ ε α} {Q : Except ε α → World σ ℓ → Prop}
    (hQ : ∀ r, P.Stable i (Q r)) {w w' : World σ ℓ} (h : P.Interferes i w w')
    (hw : P.wp i p Q w) : P.wp i p Q w' := by
  cases p with
  | done r => exact (hQ r).interferes h hw
  | await c next reject => exact fun v hv hinv => hw v (h.trans hv) hinv
  | sync c next => exact fun v hv hinv => hw v (h.trans hv) hinv

/-- A thread that starts has read nothing. -/
theorem lastRead_started {S : System σ ℓ ε ρ} {c : ℓ} {j k n : ℕ} {w : World σ ℓ} (hj : j < n)
    (hfresh : w.Fresh n) (p : ℓ → Bool) : (w.step S j c n).lastRead (n + k) p = none := by
  have hne : j ≠ n + k := by omega
  rw [World.lastRead_step_of_not (Or.inl hne)]
  exact hfresh.lastRead (Nat.le_add_right n k) p

section Assertion

variable {A : World σ ℓ → Prop} {Q : Except ε β → World σ ℓ → Prop} {w : World σ ℓ}

theorem wp_queryE_bind {c : ℓ} {f : σ → Except ε α} {g : α → Async σ ℓ ε β}
    (hA : P.Stable i A) (hw : A w)
    (h : ∀ w, A w → P.inv w →
      P.Performs i c w fun w' => P.wp i ((Async.done (f w.store)).bind g) Q w')
    (hrej : ∀ e w, P.fault e → A w → P.inv w → Q (.error e) w) :
    P.wp i ((Async.queryE c f).bind g) Q w := by
  intro w' hw' hinv
  have hAw' : A w' := hA.interferes hw' hw
  exact ⟨h w' hAw' hinv, fun e he => hrej e w' he hAw' hinv⟩

theorem wp_queryE {c : ℓ} {f : σ → Except ε β} (hA : P.Stable i A) (hw : A w)
    (h : ∀ w, A w → P.inv w → P.Performs i c w fun w' => Q (f w.store) w')
    (hrej : ∀ e w, P.fault e → A w → P.inv w → Q (.error e) w) :
    P.wp i (Async.queryE c f) Q w :=
  fun w' hw' hinv => ⟨h w' (hA.interferes hw' hw) hinv,
    fun e he => hrej e w' he (hA.interferes hw' hw) hinv⟩

theorem wp_query {c : ℓ} {f : σ → β} (hA : P.Stable i A) (hw : A w)
    (h : ∀ w, A w → P.inv w → P.Performs i c w fun w' => Q (.ok (f w.store)) w')
    (hrej : ∀ e w, P.fault e → A w → P.inv w → Q (.error e) w) :
    P.wp i (Async.query c f) Q w :=
  wp_queryE hA hw h hrej

theorem wp_query_bind {c : ℓ} {f : σ → α} {g : α → Async σ ℓ ε β} (hA : P.Stable i A) (hw : A w)
    (h : ∀ w, A w → P.inv w → P.Performs i c w fun w' => P.wp i (g (f w.store)) Q w')
    (hrej : ∀ e w, P.fault e → A w → P.inv w → Q (.error e) w) :
    P.wp i ((Async.query c f).bind g) Q w :=
  fun w' hw' hinv => ⟨h w' (hA.interferes hw' hw) hinv,
    fun e he => hrej e w' he (hA.interferes hw' hw) hinv⟩

theorem wp_read_bind {c : ℓ} {f : σ → α} {g : α → Async σ ℓ ε β} (hA : P.Stable i A) (hw : A w)
    (h : ∀ w, A w → P.inv w → P.Performs i c w fun w' => P.wp i (g (f w.store)) Q w') :
    P.wp i ((Async.read c f).bind g) Q w :=
  fun w' hw' hinv => h w' (hA.interferes hw' hw) hinv

end Assertion

/-- `A` survives every step of another thread, and every step of thread `i` that performs a
command satisfying `H`; such commands keep the protocol. -/
structure Frame (P : Protocol S) (i : ℕ) (H : ℓ → Prop) (A : World σ ℓ → Prop) : Prop where
  stable : P.Stable i A
  performs : ∀ {c w}, H c → A w → P.inv w → P.Performs i c w A

theorem Frame.and {H : ℓ → Prop} {A B : World σ ℓ → Prop} (hA : P.Frame i H A)
    (hB : P.Frame i H B) : P.Frame i H fun w => A w ∧ B w where
  stable := hA.stable.and hB.stable
  performs := by
    intro c w hc hw hinv hcond
    obtain ⟨hguar, hA'⟩ := hA.performs hc hw.1 hinv hcond
    obtain ⟨-, hB'⟩ := hB.performs hc hw.2 hinv hcond
    exact ⟨hguar, fun n hn hfresh => ⟨hA' n hn hfresh, hB' n hn hfresh⟩⟩

/-- A framed program keeps `A`, and returns what it can return. -/
theorem Frame.wp_yields {H : ℓ → Prop} {A : World σ ℓ → Prop} (hA : P.Frame i H A)
    {p : Async σ ℓ ε α} {Φ : α → Prop} (hp : p.Only H) (hΦ : p.Yields Φ) {w : World σ ℓ}
    (hw : A w) : P.wp i p (fun r w => A w ∧ ∀ a, r = .ok a → Φ a) w := by
  induction p generalizing w with
  | done r =>
    refine ⟨hw, fun a ha => ?_⟩
    rw [ha] at hΦ
    exact hΦ
  | await c next reject ih ihr =>
    intro w' hw' hinv
    have hAw' : A w' := hA.stable.interferes hw' hw
    refine ⟨fun hc => ⟨(hA.performs hp.1 hAw' hinv hc).1, fun n hn hf => ?_⟩, fun e _ => ?_⟩
    · exact ih _ (hp.2.1 _) (hΦ.1 _) ((hA.performs hp.1 hAw' hinv hc).2 n hn hf)
    · exact ihr e (hp.2.2 e) (hΦ.2 e) hAw'
  | sync c next ih =>
    intro w' hw' hinv hc
    have hAw' : A w' := hA.stable.interferes hw' hw
    refine ⟨(hA.performs hp.1 hAw' hinv hc).1, fun n hn hf => ?_⟩
    exact ih _ (hp.2 _) (hΦ _) ((hA.performs hp.1 hAw' hinv hc).2 n hn hf)

/-- The frame rule: a program that only performs commands satisfying `H` keeps `A`. -/
theorem Frame.wp {H : ℓ → Prop} {A : World σ ℓ → Prop} (hA : P.Frame i H A)
    {p : Async σ ℓ ε α} (hp : p.Only H) {w : World σ ℓ} (hw : A w) :
    P.wp i p (fun _ => A) w :=
  wp_mono (fun _ _ h => h.1) (hA.wp_yields hp p.yields_true hw)

/-- A framed program before the rest of a program. -/
theorem Frame.wp_bind {H : ℓ → Prop} {A : World σ ℓ → Prop} (hA : P.Frame i H A)
    {p : Async σ ℓ ε α} (hp : p.Only H) {f : α → Async σ ℓ ε β}
    {Q : Except ε β → World σ ℓ → Prop} {w : World σ ℓ} (hw : A w)
    (hok : ∀ a w, A w → P.wp i (f a) Q w) (herr : ∀ e w, A w → Q (.error e) w) :
    P.wp i (p.bind f) Q w := by
  apply Protocol.wp_bind
  refine wp_mono ?_ (hA.wp hp hw)
  rintro (e | a) w hw
  · exact herr e w hw
  · exact hok a w hw

theorem Frame.wp_bind_yields {H : ℓ → Prop} {A : World σ ℓ → Prop} (hA : P.Frame i H A)
    {p : Async σ ℓ ε α} {Φ : α → Prop} (hp : p.Only H) (hΦ : p.Yields Φ) {f : α → Async σ ℓ ε β}
    {Q : Except ε β → World σ ℓ → Prop} {w : World σ ℓ} (hw : A w)
    (hok : ∀ a w, Φ a → A w → P.wp i (f a) Q w) (herr : ∀ e w, A w → Q (.error e) w) :
    P.wp i (p.bind f) Q w := by
  apply Protocol.wp_bind
  refine wp_mono ?_ (hA.wp_yields hp hΦ hw)
  rintro (e | a) w ⟨hw, ha⟩
  · exact herr e w hw
  · exact hok a w (ha a rfl) hw

/-! ### Programs that may do anything the protocol allows -/

variable (P) in
/-- Thread `i` keeps the protocol while it runs the program, from whatever world. -/
def Keeps (i : ℕ) (p : Async σ ℓ ε α) : Prop := ∀ w, P.wp i p (fun _ _ => True) w

theorem keeps_done (r : Except ε α) : P.Keeps i (.done r) := fun _ => trivial

theorem Frame.keeps {H : ℓ → Prop} (hA : P.Frame i H fun _ => True) {p : Async σ ℓ ε α}
    (hp : p.Only H) : P.Keeps i p := fun _ => hA.wp hp trivial

theorem Keeps.bind {p : Async σ ℓ ε α} {f : α → Async σ ℓ ε β} (hp : P.Keeps i p)
    (hf : ∀ a, P.Keeps i (f a)) : P.Keeps i (p.bind f) := by
  intro w
  apply Protocol.wp_bind
  refine wp_mono ?_ (hp w)
  rintro (e | a) w' -
  · trivial
  · exact hf a w'

theorem Keeps.tryCatch {p : Async σ ℓ ε α} {k : ε → Async σ ℓ ε α} (hp : P.Keeps i p)
    (hk : ∀ e, P.Keeps i (k e)) : P.Keeps i (p.tryCatch k) := by
  intro w
  apply Protocol.wp_tryCatch
  refine wp_mono ?_ (hp w)
  rintro (e | a) w' -
  · exact hk e w'
  · trivial

theorem Keeps.as {p : Async σ ℓ ε α} {b : β} (hp : P.Keeps i p) : P.Keeps i (p.as b) :=
  fun w => wp_as (hp w)

theorem Keeps.forEach {f : α → Async σ ℓ ε Unit} {xs : List α}
    (hf : ∀ x ∈ xs, P.Keeps i (f x)) : P.Keeps i (Async.forEach f xs) := by
  induction xs with
  | nil => exact keeps_done _
  | cons x xs ih =>
    refine (hf x List.mem_cons_self).bind fun _ => ih fun y hy => ?_
    exact hf y (List.mem_cons_of_mem x hy)

end Protocol

/-! ### Soundness -/

namespace Protocol

variable {S : System σ ℓ ε ρ} (P : Protocol S) (post : ℕ → Except ε ρ → World σ ℓ → Prop)

/-- A handler satisfies the protocol from the step on that starts it. -/
def HandlersKeep : Prop :=
  ∀ ⦃c : ℓ⦄ ⦃k : ℕ⦄ ⦃h : Async σ ℓ ε ρ⦄, (S.handlers c)[k]? = some h →
    ∀ ⦃j n : ℕ⦄ ⦃w : World σ ℓ⦄, P.inv w → P.cond j w c → P.guar j w c → j < n → w.Fresh n →
      P.wp (n + k) h (post (n + k)) (w.step S j c n)

/-- The invariant holds and every thread keeps the protocol from here on. -/
structure Safe (p : Pool σ ℓ ε ρ) : Prop where
  inv : P.inv p.world
  fresh : p.world.Fresh p.threads.length
  threads : ∀ ⦃i t⦄, p.threads[i]? = some t → P.wp i t (post i) p.world

variable {P post}

theorem safe_init {s : σ} {ps : List (Async σ ℓ ε ρ)} (hinv : P.inv ⟨s, []⟩)
    (hps : ∀ i t, ps[i]? = some t → P.wp i t (post i) ⟨s, []⟩) : P.Safe post (Pool.init s ps) :=
  ⟨hinv, fun _ he => absurd he List.not_mem_nil, hps⟩

/-- The guarantee of the command a thread is at, and its state after the command. -/
theorem wp_command {i : ℕ} {t : Async σ ℓ ε α} {c : ℓ} {Q : Except ε α → World σ ℓ → Prop}
    {w : World σ ℓ} (ht : t.command? = some c) (hinv : P.inv w) (h : P.wp i t Q w) :
    P.Performs i c w fun w' => P.wp i (t.resume w.store) Q w' := by
  cases t with
  | done r => simp [Async.command?] at ht
  | await c' next reject => obtain rfl := Option.some.inj ht; exact (h w .refl hinv).1
  | sync c' next => obtain rfl := Option.some.inj ht; exact h w .refl hinv

theorem wp_rejected {i : ℕ} {t t' : Async σ ℓ ε α} {e : ε} {Q : Except ε α → World σ ℓ → Prop}
    {w : World σ ℓ} (ht : t.rejected? e = some t') (he : P.fault e) (hinv : P.inv w)
    (h : P.wp i t Q w) : P.wp i t' Q w := by
  cases t with
  | done r => simp [Async.rejected?] at ht
  | await c next reject => obtain rfl := Option.some.inj ht; exact (h w .refl hinv).2 e he
  | sync c next => simp [Async.rejected?] at ht

theorem Safe.performs {p : Pool σ ℓ ε ρ} (h : P.Safe post p) {i : ℕ} {t : Async σ ℓ ε ρ} {c : ℓ}
    (hi : p.threads[i]? = some t) (hc : t.command? = some c) :
    P.Performs i c p.world fun w' => P.wp i (t.resume p.world.store) (post i) w' :=
  wp_command hc h.inv (h.threads hi)

theorem Safe.step (hstable : ∀ i r, P.Stable i (post i r)) (hhandlers : P.HandlersKeep post)
    {p q : Pool σ ℓ ε ρ} (h : P.Safe post p) (hs : Pool.Step S P.cond P.fault p q) :
    P.Safe post q := by
  have hfresh := hs.fresh h.fresh
  cases hs with
  | @reject i t t' e hi hrun he ht =>
    refine ⟨h.inv, hfresh, fun j u hj => ?_⟩
    rcases Decidable.em (i = j) with rfl | hji
    · have hlt : i < p.threads.length := (List.getElem?_eq_some_iff.mp hi).1
      obtain rfl : t' = u := by simpa [Pool.replace, hlt] using hj
      exact wp_rejected ht he h.inv (h.threads hi)
    · exact h.threads (by simpa [Pool.replace, List.getElem?_set_ne hji] using hj)
  | @act i t c hi hrun hc hcond =>
    have hlt : i < p.threads.length := (List.getElem?_eq_some_iff.mp hi).1
    obtain ⟨hguar, hnext⟩ := h.performs hi hc hcond
    have hinv := P.inv_step h.inv hcond hguar hlt h.fresh
    have hother : ∀ j, j ≠ i → j < p.threads.length →
        P.Interferes j p.world (p.world.step S i c p.threads.length) := fun j hj hjlt =>
      .single ⟨i, c, p.threads.length, Ne.symm hj, hjlt, hlt, h.fresh, h.inv, hcond, hguar, rfl⟩
    refine ⟨hinv, hfresh, fun j u hj => ?_⟩
    simp only [Pool.advance] at hj ⊢
    rcases Nat.lt_or_ge j p.threads.length with hjlt | hjge
    · rw [List.getElem?_append_left (by simpa using hjlt)] at hj
      rcases Decidable.em (i = j) with rfl | hji
      · obtain rfl : t.resume p.world.store = u := by simpa [hlt] using hj
        exact hnext _ hlt h.fresh
      · rw [List.getElem?_set_ne hji] at hj
        exact wp_interferes (hstable j) (hother j (Ne.symm hji) hjlt) (h.threads hj)
    · -- a thread the command has just started
      rw [List.getElem?_append_right (by simpa using hjge), List.length_set] at hj
      have hwp := hhandlers hj h.inv hcond hguar hlt h.fresh
      rwa [Nat.add_sub_cancel' hjge] at hwp

theorem Safe.run (hstable : ∀ i r, P.Stable i (post i r)) (hhandlers : P.HandlersKeep post)
    {p q : Pool σ ℓ ε ρ} (h : P.Safe post p) (hr : Pool.Run S P.cond P.fault p q) :
    P.Safe post q := by
  induction hr with
  | refl => exact h
  | tail _ hs ih => exact ih.step hstable hhandlers hs

/-- A relation between stores that every step of the protocol respects holds along a run. -/
theorem Safe.run_rel (hstable : ∀ i r, P.Stable i (post i r)) (hhandlers : P.HandlersKeep post)
    {R : σ → σ → Prop} (hrefl : ∀ s, R s s) (htrans : ∀ s t u, R s t → R t u → R s u)
    (hstep : ∀ i w c, P.inv w → P.cond i w c → P.guar i w c → R w.store (S.exec c w.store))
    {p q : Pool σ ℓ ε ρ} (h : P.Safe post p) (hr : Pool.Run S P.cond P.fault p q) :
    R p.world.store q.world.store := by
  induction hr with
  | refl => exact hrefl _
  | @tail q r hrun hs ih =>
    have hq := h.run hstable hhandlers hrun
    refine htrans _ _ _ ih ?_
    cases hs with
    | reject hi hmay he ht => exact hrefl _
    | @act i t c hi hmay hc hcond =>
      have hR := hstep i q.world c hq.inv hcond (hq.performs hi hc hcond).1
      simpa [Pool.advance] using hR

/-- When every thread has ended, the threads' postconditions hold together. -/
theorem Safe.post_of_finished {p : Pool σ ℓ ε ρ} (h : P.Safe post p) (hfin : p.Finished) {i : ℕ}
    (hi : i < p.threads.length) : ∃ r, post i r p.world := by
  have hmem : p.threads[i]? = some p.threads[i] := List.getElem?_eq_getElem hi
  have hwp := h.threads hmem
  have hdone := hfin _ (List.getElem_mem hi)
  cases ht : p.threads[i] with
  | done r => exact ⟨r, by rwa [ht] at hwp⟩
  | await c next reject => simp [ht, Async.isDone] at hdone
  | sync c next => simp [ht, Async.isDone] at hdone

end Protocol

end Telima
