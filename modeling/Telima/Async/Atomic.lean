import Telima.Async.Pool

/-!
# Rely-guarantee reasoning with synchronous code

What a thread does between two awaits no other thread sees half done.  An `AtomicProtocol` states what
the threads promise each other when the processor is free: the invariant `inv` holds, and what thread
`i` does from one await to the next is in the relation `rel i`; `guar` is what holds whenever a command
is performed.  It is about systems that start no threads.

`AtomicProtocol.wp i p Q w₀ w` says that thread `i`, which runs since `w₀` and is about to run `p` in
`w`, keeps the protocol and ends in a result and worlds satisfying `Q`.  `Safe.run` is the soundness
theorem.
-/

namespace Telima

variable {σ ℓ ε α β ρ : Type}

/-- What the threads of a pool promise each other when the processor is free. -/
structure AtomicProtocol (S : System σ ℓ ε ρ) where
  /-- The steps the runs are restricted to. -/
  cond : ℕ → World σ ℓ → ℓ → Prop
  /-- The errors an awaited command may be rejected with. -/
  fault : ε → Prop
  /-- What holds when the processor is free. -/
  inv : World σ ℓ → Prop
  /-- What holds when a thread performs a command. -/
  guar : ℕ → World σ ℓ → ℓ → Prop
  /-- What a thread does from one await to the next. -/
  rel : ℕ → World σ ℓ → World σ ℓ → Prop
  rel_refl : ∀ i w, rel i w w
  no_handlers : ∀ c, S.handlers c = []

namespace AtomicProtocol

variable {S : System σ ℓ ε ρ} (P : AtomicProtocol S)

/-- What a thread other than `i` does between two awaits. -/
def Other (i : ℕ) (w w' : World σ ℓ) : Prop := ∃ j, j ≠ i ∧ P.inv w ∧ P.inv w' ∧ P.rel j w w'

/-- What the threads other than `i` do while `i` waits. -/
def Interferes (i : ℕ) : World σ ℓ → World σ ℓ → Prop := Relation.ReflTransGen (P.Other i)

/-- Thread `i` may rely on `A`: no other thread invalidates it. -/
def Stable (i : ℕ) (A : World σ ℓ → Prop) : Prop := ∀ ⦃w w'⦄, P.Other i w w' → A w → A w'

/-- Thread `i` keeps the protocol while it runs the program: it runs since `w₀`, and is now in `w`. -/
def wp (i : ℕ) : Async σ ℓ ε α → (Except ε α → World σ ℓ → World σ ℓ → Prop) →
    World σ ℓ → World σ ℓ → Prop
  | .done r, Q, w₀, w => Q r w₀ w
  | .await c next reject, Q, w₀, w =>
    (P.inv w ∧ P.rel i w₀ w) ∧ ∀ w', P.Interferes i w w' → P.inv w' →
      (P.cond i w' c → P.guar i w' c ∧ wp i (next w'.store) Q w' (w'.act S.exec i c)) ∧
      ∀ e, P.fault e → wp i (reject e) Q w' w'
  | .sync c next, Q, w₀, w =>
    P.cond i w c → P.guar i w c ∧ wp i (next w.store) Q w₀ (w.act S.exec i c)

/-- The end of a thread: the processor is free again. -/
def Ends (i : ℕ) (post : Except ε α → World σ ℓ → Prop) (r : Except ε α) (w₀ w : World σ ℓ) : Prop :=
  (P.inv w ∧ P.rel i w₀ w) ∧ post r w

/-- Thread `i` waits for the processor. -/
def Waits (i : ℕ) (p : Async σ ℓ ε α) (post : Except ε α → World σ ℓ → Prop) (w : World σ ℓ) :
    Prop :=
  ∀ w', P.Interferes i w w' → P.inv w' → P.wp i p (P.Ends i post) w' w'

variable {P} {i : ℕ}

theorem Stable.interferes {A : World σ ℓ → Prop} (hA : P.Stable i A) {w w' : World σ ℓ}
    (h : P.Interferes i w w') (hw : A w) : A w' := by
  induction h with
  | refl => exact hw
  | tail _ hstep ih => exact hA hstep ih

/-! ### Rules -/

theorem wp_mono {p : Async σ ℓ ε α} {Q Q' : Except ε α → World σ ℓ → World σ ℓ → Prop}
    {w₀ w : World σ ℓ} (hQ : ∀ r w₀ w, Q r w₀ w → Q' r w₀ w) (h : P.wp i p Q w₀ w) :
    P.wp i p Q' w₀ w := by
  induction p generalizing w₀ w with
  | done r => exact hQ r w₀ w h
  | await c next reject ih ihr =>
    refine ⟨h.1, fun w' hw' hinv => ?_⟩
    obtain ⟨hact, hrej⟩ := h.2 w' hw' hinv
    exact ⟨fun hc => ⟨(hact hc).1, ih _ (hact hc).2⟩, fun e he => ihr e (hrej e he)⟩
  | sync c next ih => exact fun hc => ⟨(h hc).1, ih _ (h hc).2⟩

theorem wp_bind {p : Async σ ℓ ε α} {f : α → Async σ ℓ ε β}
    {Q : Except ε β → World σ ℓ → World σ ℓ → Prop} {w₀ w : World σ ℓ}
    (h : P.wp i p (fun r w₀ w => P.wp i ((Async.done r).bind f) Q w₀ w) w₀ w) :
    P.wp i (p.bind f) Q w₀ w := by
  induction p generalizing w₀ w with
  | done r => exact h
  | await c next reject ih ihr =>
    refine ⟨h.1, fun w' hw' hinv => ?_⟩
    obtain ⟨hact, hrej⟩ := h.2 w' hw' hinv
    exact ⟨fun hc => ⟨(hact hc).1, ih _ (hact hc).2⟩, fun e he => ihr e (hrej e he)⟩
  | sync c next ih => exact fun hc => ⟨(h hc).1, ih _ (h hc).2⟩

theorem wp_tryCatch {p : Async σ ℓ ε α} {k : ε → Async σ ℓ ε α}
    {Q : Except ε α → World σ ℓ → World σ ℓ → Prop} {w₀ w : World σ ℓ}
    (h : P.wp i p (fun r w₀ w => P.wp i ((Async.done r).tryCatch k) Q w₀ w) w₀ w) :
    P.wp i (p.tryCatch k) Q w₀ w := by
  induction p generalizing w₀ w with
  | done r => exact h
  | await c next reject ih ihr =>
    refine ⟨h.1, fun w' hw' hinv => ?_⟩
    obtain ⟨hact, hrej⟩ := h.2 w' hw' hinv
    exact ⟨fun hc => ⟨(hact hc).1, ih _ (hact hc).2⟩, fun e he => ihr e (hrej e he)⟩
  | sync c next ih => exact fun hc => ⟨(h hc).1, ih _ (h hc).2⟩

/-- An awaited command: the code before it ends in `w`, and `A` survives until it is performed. -/
theorem wp_queryE_bind {A : World σ ℓ → Prop} {c : ℓ} {f : σ → Except ε α}
    {g : α → Async σ ℓ ε β} {Q : Except ε β → World σ ℓ → World σ ℓ → Prop} {w₀ w : World σ ℓ}
    (hbefore : P.inv w ∧ P.rel i w₀ w) (hA : P.Stable i A) (hw : A w) (hfault : ∀ e, ¬ P.fault e)
    (h : ∀ w, A w → P.inv w → P.cond i w c →
      P.guar i w c ∧ P.wp i ((Async.done (f w.store)).bind g) Q w (w.act S.exec i c)) :
    P.wp i ((Async.queryE c f).bind g) Q w₀ w :=
  ⟨hbefore, fun w' hw' hinv =>
    ⟨h w' (hA.interferes hw' hw) hinv, fun e he => absurd he (hfault e)⟩⟩

theorem wp_query_bind {A : World σ ℓ → Prop} {c : ℓ} {f : σ → α} {g : α → Async σ ℓ ε β}
    {Q : Except ε β → World σ ℓ → World σ ℓ → Prop} {w₀ w : World σ ℓ}
    (hbefore : P.inv w ∧ P.rel i w₀ w) (hA : P.Stable i A) (hw : A w) (hfault : ∀ e, ¬ P.fault e)
    (h : ∀ w, A w → P.inv w → P.cond i w c →
      P.guar i w c ∧ P.wp i (g (f w.store)) Q w (w.act S.exec i c)) :
    P.wp i ((Async.query c f).bind g) Q w₀ w :=
  ⟨hbefore, fun w' hw' hinv =>
    ⟨h w' (hA.interferes hw' hw) hinv, fun e he => absurd he (hfault e)⟩⟩

/-- A synchronous command. -/
theorem wp_read_bind {c : ℓ} {f : σ → α} {g : α → Async σ ℓ ε β}
    {Q : Except ε β → World σ ℓ → World σ ℓ → Prop} {w₀ w : World σ ℓ}
    (h : P.cond i w c → P.guar i w c ∧ P.wp i (g (f w.store)) Q w₀ (w.act S.exec i c)) :
    P.wp i ((Async.read c f).bind g) Q w₀ w := h

theorem wp_emit_bind {c : ℓ} {g : Unit → Async σ ℓ ε β}
    {Q : Except ε β → World σ ℓ → World σ ℓ → Prop} {w₀ w : World σ ℓ}
    (h : P.cond i w c → P.guar i w c ∧ P.wp i (g ()) Q w₀ (w.act S.exec i c)) :
    P.wp i ((Async.emit c).bind g) Q w₀ w := h

/-! ### Soundness -/

theorem Waits.interferes {p : Async σ ℓ ε α} {post : Except ε α → World σ ℓ → Prop}
    {w w' : World σ ℓ} (h : P.Waits i p post w) (hw : P.Interferes i w w') : P.Waits i p post w' :=
  fun _ hw' hinv => h _ (hw.trans hw') hinv

/-- A thread that reaches an await, or its end, waits. -/
theorem waits_of_wp {p : Async σ ℓ ε α} {post : Except ε α → World σ ℓ → Prop}
    (hpost : ∀ r, P.Stable i (post r)) {w₀ w : World σ ℓ} (h : P.wp i p (P.Ends i post) w₀ w)
    (hsync : p.isSync = false) : (P.inv w ∧ P.rel i w₀ w) ∧ P.Waits i p post w := by
  cases p with
  | done r =>
    exact ⟨h.1, fun w' hw' hinv =>
      ⟨⟨hinv, P.rel_refl i w'⟩, (hpost r).interferes hw' h.2⟩⟩
  | await c next reject =>
    exact ⟨h.1, fun w' hw' hinv =>
      ⟨⟨hinv, P.rel_refl i w'⟩, fun w'' hw'' => h.2 w'' (hw'.trans hw'')⟩⟩
  | sync => cases hsync

variable (P) (post : ℕ → Except ε ρ → World σ ℓ → Prop)

/-- Every thread keeps the protocol from here on: all of them wait, or one of them has the processor,
since `w₀`. -/
structure Safe (p : Pool σ ℓ ε ρ) : Prop where
  idle : p.current = none → P.inv p.world ∧
    ∀ i t, p.threads[i]? = some t → P.Waits i t (post i) p.world
  busy : ∀ i, p.current = some i → ∃ t w₀, p.threads[i]? = some t ∧ t.isSync = true ∧ P.inv w₀ ∧
    P.wp i t (P.Ends i (post i)) w₀ p.world ∧
    ∀ j u, j ≠ i → p.threads[j]? = some u → P.Waits j u (post j) w₀

variable {P post}

theorem safe_init {s : σ} {ps : List (Async σ ℓ ε ρ)} (hinv : P.inv ⟨s, []⟩)
    (hps : ∀ i t, ps[i]? = some t → P.Waits i t (post i) ⟨s, []⟩) :
    P.Safe post (Pool.init s ps) :=
  ⟨fun _ => ⟨hinv, hps⟩, fun _ h => by cases h⟩

/-- The thread that may run, since when it runs, and the others. -/
theorem Safe.runs {p : Pool σ ℓ ε ρ} (h : P.Safe post p) {t : Async σ ℓ ε ρ}
    (hi : p.threads[i]? = some t) (hrun : p.MayRun i) : ∃ w₀, P.inv w₀ ∧
      P.wp i t (P.Ends i (post i)) w₀ p.world ∧
      ∀ j u, j ≠ i → p.threads[j]? = some u → P.Waits j u (post j) w₀ := by
  rcases hrun with hnone | hsome
  · obtain ⟨hinv, hwaits⟩ := h.idle hnone
    exact ⟨p.world, hinv, hwaits i t hi p.world .refl hinv, fun j u _ hu => hwaits j u hu⟩
  · obtain ⟨u, w₀, hu, -, hinv, hwp, hothers⟩ := h.busy i hsome
    obtain rfl := Option.some.inj (hi.symm.trans hu)
    exact ⟨w₀, hinv, hwp, hothers⟩

/-- What a command of the thread that may run meets. -/
theorem Safe.guar {p : Pool σ ℓ ε ρ} (h : P.Safe post p) {t : Async σ ℓ ε ρ} {c : ℓ}
    (hi : p.threads[i]? = some t) (hrun : p.MayRun i) (hc : t.command? = some c)
    (hcond : P.cond i p.world c) : P.guar i p.world c := by
  obtain ⟨w₀, -, hwp, -⟩ := h.runs hi hrun
  cases t with
  | done r => cases hc
  | await c' next reject =>
    obtain rfl := Option.some.inj hc
    exact ((hwp.2 p.world .refl hwp.1.1).1 hcond).1
  | sync c' next =>
    obtain rfl := Option.some.inj hc
    exact (hwp hcond).1

/-- The pool after a step of thread `i`, which is now `t`. -/
theorem safe_of_wp {p q : Pool σ ℓ ε ρ} {t : Async σ ℓ ε ρ} {w₀ : World σ ℓ}
    (hstable : ∀ i r, P.Stable i (post i r)) (hinv : P.inv w₀)
    (hwp : P.wp i t (P.Ends i (post i)) w₀ q.world)
    (hothers : ∀ j u, j ≠ i → p.threads[j]? = some u → P.Waits j u (post j) w₀)
    (hlt : i < p.threads.length) (hthreads : q.threads = p.threads.set i t)
    (hcurrent : q.current = if t.isSync then some i else none) : P.Safe post q := by
  have hself : q.threads[i]? = some t := by rw [hthreads, List.getElem?_set_self hlt]
  have hother : ∀ j u, j ≠ i → q.threads[j]? = some u → p.threads[j]? = some u := by
    intro j u hj hu
    rwa [hthreads, List.getElem?_set_ne (Ne.symm hj)] at hu
  cases hsync : t.isSync with
  | true =>
    rw [hsync, if_pos rfl] at hcurrent
    refine ⟨fun h => ?_, fun j hj => ?_⟩
    · rw [hcurrent] at h
      cases h
    · obtain rfl := Option.some.inj (hcurrent.symm.trans hj)
      exact ⟨t, w₀, hself, hsync, hinv, hwp, fun j u hj hu => hothers j u hj (hother j u hj hu)⟩
  | false =>
    rw [hsync, if_neg Bool.false_ne_true] at hcurrent
    obtain ⟨⟨hinv', hrel⟩, hwaits⟩ := waits_of_wp (hstable i) hwp hsync
    refine ⟨fun _ => ⟨hinv', fun j u hu => ?_⟩, fun j hj => ?_⟩
    · by_cases hj : j = i
      · obtain rfl := hj
        obtain rfl := Option.some.inj (hself.symm.trans hu)
        exact hwaits
      · exact (hothers j u hj (hother j u hj hu)).interferes
          (.single ⟨i, Ne.symm hj, hinv, hinv', hrel⟩)
    · rw [hcurrent] at hj
      cases hj

theorem Safe.step (hstable : ∀ i r, P.Stable i (post i r)) {p q : Pool σ ℓ ε ρ}
    (h : P.Safe post p) (hs : Pool.Step S P.cond P.fault p q) : P.Safe post q := by
  cases hs with
  | @reject i t t' e hi hrun he ht =>
    obtain ⟨w₀, hinv, hwp, hothers⟩ := h.runs hi hrun
    have hlt : i < p.threads.length := (List.getElem?_eq_some_iff.mp hi).1
    cases t with
    | done => cases ht
    | sync => cases ht
    | await c next reject =>
      obtain rfl := Option.some.inj ht
      have hwaits : ∀ j u, j ≠ i → p.threads[j]? = some u → P.Waits j u (post j) p.world :=
        fun j u hj hu => (hothers j u hj hu).interferes
          (.single ⟨i, Ne.symm hj, hinv, hwp.1.1, hwp.1.2⟩)
      exact safe_of_wp hstable hwp.1.1 ((hwp.2 p.world .refl hwp.1.1).2 e he) hwaits hlt rfl rfl
  | @act i t c hi hrun hc hcond =>
    obtain ⟨w₀, hinv, hwp, hothers⟩ := h.runs hi hrun
    have hlt : i < p.threads.length := (List.getElem?_eq_some_iff.mp hi).1
    have hworld : (p.advance S i t c).world = p.world.act S.exec i c :=
      World.step_of_no_handlers (P.no_handlers c) p.world i p.threads.length
    have hthreads : (p.advance S i t c).threads = p.threads.set i (t.resume p.world.store) := by
      show p.threads.set i (t.resume p.world.store) ++ S.handlers c = _
      rw [P.no_handlers, List.append_nil]
    cases t with
    | done => cases hc
    | sync c' next =>
      obtain rfl := Option.some.inj hc
      refine safe_of_wp hstable hinv ?_ hothers hlt hthreads rfl
      rw [hworld]
      exact (hwp hcond).2
    | await c' next reject =>
      obtain rfl := Option.some.inj hc
      have hwaits : ∀ j u, j ≠ i → p.threads[j]? = some u → P.Waits j u (post j) p.world :=
        fun j u hj hu => (hothers j u hj hu).interferes
          (.single ⟨i, Ne.symm hj, hinv, hwp.1.1, hwp.1.2⟩)
      refine safe_of_wp hstable hwp.1.1 ?_ hwaits hlt hthreads rfl
      rw [hworld]
      exact ((hwp.2 p.world .refl hwp.1.1).1 hcond).2

theorem Safe.run (hstable : ∀ i r, P.Stable i (post i r)) {p q : Pool σ ℓ ε ρ}
    (h : P.Safe post p) (hr : Pool.Run S P.cond P.fault p q) : P.Safe post q := by
  induction hr with
  | refl => exact h
  | tail _ hs ih => exact ih.step hstable hs

/-- When every thread has ended, the invariant and the postconditions hold. -/
theorem Safe.finished {p : Pool σ ℓ ε ρ} (h : P.Safe post p) (hfin : p.Finished) :
    P.inv p.world ∧ ∀ i t, p.threads[i]? = some t → ∃ r, t = .done r ∧ post i r p.world := by
  have hidle : p.current = none := by
    cases hcurrent : p.current with
    | none => rfl
    | some i =>
      obtain ⟨t, w₀, ht, hsync, -⟩ := h.busy i hcurrent
      have hdone := hfin t (List.mem_of_getElem? ht)
      cases t with
      | done => cases hsync
      | await => cases hdone
      | sync => cases hdone
  obtain ⟨hinv, hwaits⟩ := h.idle hidle
  refine ⟨hinv, fun i t ht => ?_⟩
  have hdone := hfin t (List.mem_of_getElem? ht)
  cases t with
  | done r => exact ⟨r, rfl, (hwaits i _ ht p.world .refl hinv).2⟩
  | await => cases hdone
  | sync => cases hdone

end AtomicProtocol

end Telima
