import Telima.Async.Basic

/-!
# Compositional properties

A property of programs is compositional if a program has it whose parts have it.  What a program has by
its text is shown once, for all such properties.
-/

namespace Telima.Async

variable {σ ℓ ε : Type}

/-- `P` holds of what is put together from programs it holds of. -/
structure Compositional (P : (α : Type) → Async σ ℓ ε α → Prop) : Prop where
  done : ∀ {α : Type} (r : Except ε α), P α (done r)
  bind : ∀ {α β : Type} {p : Async σ ℓ ε α} {f : α → Async σ ℓ ε β}, P α p → (∀ a, P β (f a)) →
    P β (p.bind f)
  tryCatch : ∀ {α : Type} {p : Async σ ℓ ε α} {k : ε → Async σ ℓ ε α}, P α p → (∀ e, P α (k e)) →
    P α (p.tryCatch k)

namespace Compositional

variable {P : (α : Type) → Async σ ℓ ε α → Prop} {α β : Type}

theorem as (h : Compositional P) {p : Async σ ℓ ε α} (hp : P α p) (b : β) : P β (p.as b) :=
  h.bind hp fun _ => h.done _

theorem forEach (h : Compositional P) {f : α → Async σ ℓ ε Unit} {xs : List α}
    (hf : ∀ x ∈ xs, P Unit (f x)) : P Unit (forEach f xs) := by
  induction xs with
  | nil => exact h.done _
  | cons x xs ih =>
    refine h.bind (hf x List.mem_cons_self) fun _ => ih fun y hy => ?_
    exact hf y (List.mem_cons_of_mem x hy)

end Compositional

end Telima.Async
