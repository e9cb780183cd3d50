import Telima.Async.Run
import Mathlib.Logic.Relation

/-!
# Programs that run to their end one after another

A `Machine` keeps beside the store what else is of interest: which events are still to be handled,
what was done.  `Async.play` runs a program on it, nothing else running and nothing failing.
`Async.wlp` is its weakest liberal precondition: if every command of the run meets `cond` when it is
performed, the run ends in `Q`.  It follows the text of the program; `wlp_iff` ties it to `play`.
-/

namespace Telima

/-- States `τ` on which commands `ℓ` are performed, and the store a program reads of them. -/
structure Machine (σ ℓ τ : Type) where
  store : τ → σ
  perform : ℓ → τ → τ

variable {σ ℓ ε τ α β : Type}

namespace Async

section Play

variable (M : Machine σ ℓ τ)

/-- The result of a run, and the state it leaves. -/
def play : Async σ ℓ ε α → τ → Except ε α × τ
  | done r, t => (r, t)
  | await c next _, t => (next (M.store t)).play (M.perform c t)
  | sync c next, t => (next (M.store t)).play (M.perform c t)

/-- Every command of the run meets `cond`. -/
def Obeys (cond : τ → ℓ → Prop) : Async σ ℓ ε α → τ → Prop
  | done _, _ => True
  | await c next _, t => cond t c ∧ (next (M.store t)).Obeys cond (M.perform c t)
  | sync c next, t => cond t c ∧ (next (M.store t)).Obeys cond (M.perform c t)

/-- If every command of the run meets `cond`, the run ends in `Q`. -/
def wlp (cond : τ → ℓ → Prop) : Async σ ℓ ε α → (Except ε α → τ → Prop) → τ → Prop
  | done r, Q, t => Q r t
  | await c next _, Q, t => cond t c → (next (M.store t)).wlp cond Q (M.perform c t)
  | sync c next, Q, t => cond t c → (next (M.store t)).wlp cond Q (M.perform c t)

end Play

variable {M : Machine σ ℓ τ} {cond : τ → ℓ → Prop} {t : τ}

theorem wlp_iff {p : Async σ ℓ ε α} {Q : Except ε α → τ → Prop} :
    p.wlp M cond Q t ↔ (p.Obeys M cond t → Q (p.play M t).1 (p.play M t).2) := by
  induction p generalizing t with
  | done r => exact ⟨fun h _ => h, fun h => h trivial⟩
  | await c next _ ih _ =>
    simp only [wlp, Obeys, play, ih]
    exact ⟨fun h hobeys => h hobeys.1 hobeys.2, fun h hc hrest => h ⟨hc, hrest⟩⟩
  | sync c next ih =>
    simp only [wlp, Obeys, play, ih]
    exact ⟨fun h hobeys => h hobeys.1 hobeys.2, fun h hc hrest => h ⟨hc, hrest⟩⟩

theorem obeys_true (p : Async σ ℓ ε α) : p.Obeys M (fun _ _ => True) t := by
  induction p generalizing t with
  | done r => trivial
  | await c next _ ih _ => exact ⟨trivial, ih _⟩
  | sync c next ih => exact ⟨trivial, ih _⟩

/-- What holds after every run holds after the run. -/
theorem play_of_wlp {p : Async σ ℓ ε α} {Q : Except ε α → τ → Prop}
    (h : p.wlp M (fun _ _ => True) Q t) : Q (p.play M t).1 (p.play M t).2 :=
  wlp_iff.mp h (obeys_true p)

/-- On a machine whose commands do to the store what `exec` does, a program runs as it does alone. -/
theorem play_eq_run {exec : ℓ → σ → σ} (hM : ∀ c t, M.store (M.perform c t) = exec c (M.store t))
    (p : Async σ ℓ ε α) : (p.play M t).1 = (p.run exec (M.store t)).result ∧
      M.store (p.play M t).2 = (p.run exec (M.store t)).store := by
  induction p generalizing t with
  | done r => exact ⟨rfl, rfl⟩
  | await c next _ ih _ =>
    have hnext := ih (M.store t) (t := M.perform c t)
    rwa [hM] at hnext
  | sync c next ih =>
    have hnext := ih (M.store t) (t := M.perform c t)
    rwa [hM] at hnext

instance decidableObeys [∀ t c, Decidable (cond t c)] :
    (p : Async σ ℓ ε α) → (t : τ) → Decidable (p.Obeys M cond t)
  | done _, _ => .isTrue trivial
  | await c next _, t =>
    have := decidableObeys (next (M.store t)) (M.perform c t)
    inferInstanceAs (Decidable (cond t c ∧ (next (M.store t)).Obeys M cond (M.perform c t)))
  | sync c next, t =>
    have := decidableObeys (next (M.store t)) (M.perform c t)
    inferInstanceAs (Decidable (cond t c ∧ (next (M.store t)).Obeys M cond (M.perform c t)))

/-! ### Rules -/

theorem wlp_mono {p : Async σ ℓ ε α} {Q Q' : Except ε α → τ → Prop}
    (h : p.wlp M cond Q t) (hQ : ∀ r t, Q r t → Q' r t) : p.wlp M cond Q' t := by
  rw [wlp_iff] at h ⊢
  exact fun hobeys => hQ _ _ (h hobeys)

theorem wlp_and {p : Async σ ℓ ε α} {Q Q' : Except ε α → τ → Prop} (h : p.wlp M cond Q t)
    (h' : p.wlp M cond Q' t) : p.wlp M cond (fun r t => Q r t ∧ Q' r t) t := by
  rw [wlp_iff] at h h' ⊢
  exact fun hobeys => ⟨h hobeys, h' hobeys⟩

theorem wlp_bind {p : Async σ ℓ ε α} {f : α → Async σ ℓ ε β} {Q : Except ε β → τ → Prop}
    (h : p.wlp M cond (fun r t => ((done r).bind f).wlp M cond Q t) t) :
    (p.bind f).wlp M cond Q t := by
  induction p generalizing t with
  | done r => exact h
  | await c next _ ih _ => exact fun hc => ih _ (h hc)
  | sync c next ih => exact fun hc => ih _ (h hc)

theorem wlp_tryCatch {p : Async σ ℓ ε α} {k : ε → Async σ ℓ ε α} {Q : Except ε α → τ → Prop}
    (h : p.wlp M cond (fun r t => ((done r).tryCatch k).wlp M cond Q t) t) :
    (p.tryCatch k).wlp M cond Q t := by
  induction p generalizing t with
  | done r => exact h
  | await c next _ ih _ => exact fun hc => ih _ (h hc)
  | sync c next ih => exact fun hc => ih _ (h hc)

/-- A sequence whose first part returns. -/
theorem wlp_bind_of_ok {p : Async σ ℓ ε α} {f : α → Async σ ℓ ε β} {Q : Except ε β → τ → Prop}
    {R : α → τ → Prop} (hp : p.wlp M cond (fun r t => ∃ a, r = .ok a ∧ R a t) t)
    (hf : ∀ a t, R a t → (f a).wlp M cond Q t) : (p.bind f).wlp M cond Q t := by
  apply wlp_bind
  refine wlp_mono hp ?_
  rintro r t ⟨a, rfl, ha⟩
  exact hf a t ha

/-- A program that is run for its effect. -/
theorem wlp_as {p : Async σ ℓ ε α} {b : β} {Q : τ → Prop} (h : p.wlp M cond (fun _ => Q) t) :
    (p.as b).wlp M cond (fun _ => Q) t := by
  refine wlp_bind (wlp_mono h fun r t ht => ?_)
  cases r with
  | ok a => exact ht
  | error e => exact ht

/-- A `try` whose body returns. -/
theorem wlp_tryCatch_of_ok {p : Async σ ℓ ε α} {k : ε → Async σ ℓ ε α}
    {R : α → τ → Prop} (hp : p.wlp M cond (fun r t => ∃ a, r = .ok a ∧ R a t) t) :
    (p.tryCatch k).wlp M cond (fun r t => ∃ a, r = .ok a ∧ R a t) t := by
  apply wlp_tryCatch
  refine wlp_mono hp ?_
  rintro r t ⟨a, rfl, ha⟩
  exact ⟨a, rfl, ha⟩

theorem wlp_query_bind {c : ℓ} {f : σ → α} {g : α → Async σ ℓ ε β} {Q : Except ε β → τ → Prop} :
    ((query c f).bind g).wlp M cond Q t ↔
      (cond t c → (g (f (M.store t))).wlp M cond Q (M.perform c t)) := Iff.rfl

theorem wlp_queryE_bind {c : ℓ} {f : σ → Except ε α} {g : α → Async σ ℓ ε β}
    {Q : Except ε β → τ → Prop} : ((queryE c f).bind g).wlp M cond Q t ↔
      (cond t c → ((done (f (M.store t))).bind g).wlp M cond Q (M.perform c t)) := Iff.rfl

theorem wlp_perform_bind {c : ℓ} {g : Unit → Async σ ℓ ε β} {Q : Except ε β → τ → Prop} :
    ((perform c).bind g).wlp M cond Q t ↔
      (cond t c → (g ()).wlp M cond Q (M.perform c t)) := Iff.rfl

theorem wlp_read_bind {c : ℓ} {f : σ → α} {g : α → Async σ ℓ ε β} {Q : Except ε β → τ → Prop} :
    ((read c f).bind g).wlp M cond Q t ↔
      (cond t c → (g (f (M.store t))).wlp M cond Q (M.perform c t)) := Iff.rfl

theorem wlp_emit_bind {c : ℓ} {g : Unit → Async σ ℓ ε β} {Q : Except ε β → τ → Prop} :
    ((emit c).bind g).wlp M cond Q t ↔
      (cond t c → (g ()).wlp M cond Q (M.perform c t)) := Iff.rfl

theorem wlp_queryE {c : ℓ} {f : σ → Except ε α} {Q : Except ε α → τ → Prop} :
    (queryE c f).wlp M cond Q t ↔ (cond t c → Q (f (M.store t)) (M.perform c t)) := Iff.rfl

theorem wlp_emit {c : ℓ} {Q : Except ε Unit → τ → Prop} :
    (emit c : Async σ ℓ ε Unit).wlp M cond Q t ↔ (cond t c → Q (.ok ()) (M.perform c t)) := Iff.rfl

/-- The loop rule; `A xs` holds when `xs` is still to be done. -/
theorem wlp_forEach {f : α → Async σ ℓ ε Unit} {A : List α → τ → Prop} {xs : List α}
    (hstep : ∀ x xs t, A (x :: xs) t → (f x).wlp M cond (fun r t => r = .ok () ∧ A xs t) t)
    (hA : A xs t) : (forEach f xs).wlp M cond (fun r t => r = .ok () ∧ A [] t) t := by
  induction xs generalizing t with
  | nil => exact ⟨rfl, hA⟩
  | cons x xs ih =>
    apply wlp_bind
    refine wlp_mono (hstep x xs t hA) ?_
    rintro r t ⟨rfl, hA⟩
    exact ih hA

/-- A program keeps what each of its commands keeps. -/
theorem Only.wlp {H : ℓ → Prop} {A : τ → Prop}
    (hA : ∀ c t, H c → cond t c → A t → A (M.perform c t)) {p : Async σ ℓ ε α} (hp : p.Only H)
    (ht : A t) : p.wlp M cond (fun _ => A) t := by
  induction p generalizing t with
  | done r => exact ht
  | await c next _ ih _ => exact fun hc => ih _ (hp.2.1 _) (hA c t hp.1 hc ht)
  | sync c next ih => exact fun hc => ih _ (hp.2 _) (hA c t hp.1 hc ht)

/-! ### Programs that keep an invariant -/

variable (M cond) in
/-- The program keeps `I`, from whatever state. -/
def Maintains (I : τ → Prop) (p : Async σ ℓ ε α) : Prop :=
  ∀ t, I t → p.wlp M cond (fun _ => I) t

section Maintains

variable {I : τ → Prop}

theorem maintains_done (r : Except ε α) : (done r).Maintains M cond I := fun _ ht => ht

theorem Only.maintains {H : ℓ → Prop} (hI : ∀ c t, H c → cond t c → I t → I (M.perform c t))
    {p : Async σ ℓ ε α} (hp : p.Only H) : p.Maintains M cond I := fun _ ht => hp.wlp hI ht

theorem Maintains.bind {p : Async σ ℓ ε α} {f : α → Async σ ℓ ε β} (hp : p.Maintains M cond I)
    (hf : ∀ a, (f a).Maintains M cond I) : (p.bind f).Maintains M cond I := by
  intro t ht
  apply wlp_bind
  refine wlp_mono (hp t ht) ?_
  rintro (e | a) t' ht'
  · exact ht'
  · exact hf a t' ht'

theorem Maintains.tryCatch {p : Async σ ℓ ε α} {k : ε → Async σ ℓ ε α} (hp : p.Maintains M cond I)
    (hk : ∀ e, (k e).Maintains M cond I) : (p.tryCatch k).Maintains M cond I := by
  intro t ht
  apply wlp_tryCatch
  refine wlp_mono (hp t ht) ?_
  rintro (e | a) t' ht'
  · exact hk e t' ht'
  · exact ht'

theorem Maintains.forEach {f : α → Async σ ℓ ε Unit} {xs : List α}
    (hf : ∀ x ∈ xs, (f x).Maintains M cond I) : (forEach f xs).Maintains M cond I := by
  induction xs with
  | nil => exact maintains_done _
  | cons x xs ih =>
    refine (hf x List.mem_cons_self).bind fun _ => ih fun y hy => ?_
    exact hf y (List.mem_cons_of_mem x hy)

end Maintains

/-- A program that does not throw returns. -/
theorem Returns.wlp {p : Async σ ℓ ε α} (hp : p.Returns) :
    p.wlp M cond (fun r _ => ∃ a, r = .ok a) t := by
  induction p generalizing t with
  | done r => exact hp
  | await c next _ ih _ => exact fun _ => ih _ (hp _)
  | sync c next ih => exact fun _ => ih _ (hp _)

theorem Yields.wlp {p : Async σ ℓ ε α} {Φ : α → Prop} (hp : p.Yields Φ) :
    p.wlp M cond (fun r _ => ∀ a, r = .ok a → Φ a) t := by
  induction p generalizing t with
  | done r =>
    rintro a rfl
    exact hp
  | await c next _ ih _ => exact fun _ => ih _ (hp.1 _)
  | sync c next ih => exact fun _ => ih _ (hp _)

end Async

end Telima
