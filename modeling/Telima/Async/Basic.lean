import Mathlib.Data.Nat.Notation

/-!
# Asynchronous programs

An asynchronous function runs synchronously up to its next `await`; between two of its awaits
every other function may run.  `Async σ ℓ ε α` is such a function as a tree: `await c` hands the
command `c : ℓ` to the store and waits for it, `sync c` performs `c` without giving up the
processor, and `done` returns a value or throws.  What a command does to the store is not part of
the tree (see `Async/Run.lean` and `Async/Pool.lean`); a continuation receives the store in which
the command was performed and reads its answer there.

A waiting program also says how it goes on when the command is rejected, so that
`Async.tryCatch` catches store failures and thrown errors alike.
-/

namespace Telima

/-- An asynchronous program over stores `σ`, with commands `ℓ`, errors `ε` and results `α`. -/
inductive Async (σ ℓ ε α : Type) : Type where
  /-- The program has returned or thrown. -/
  | done (r : Except ε α)
  /-- The program waits for the command `c`. -/
  | await (c : ℓ) (next : σ → Async σ ℓ ε α) (reject : ε → Async σ ℓ ε α)
  /-- The program performs the command `c` and keeps running. -/
  | sync (c : ℓ) (next : σ → Async σ ℓ ε α)

namespace Async

variable {σ ℓ ε α β γ : Type}

/-- Run `p`, and on its value `f`; an error of `p` is the error of the whole. -/
def bind : Async σ ℓ ε α → (α → Async σ ℓ ε β) → Async σ ℓ ε β
  | done (.ok a), f => f a
  | done (.error e), _ => done (.error e)
  | await c next reject, f => await c (fun s => (next s).bind f) fun e => (reject e).bind f
  | sync c next, f => sync c fun s => (next s).bind f

/-- Run `p` for its effect, and return `b`. -/
def as (p : Async σ ℓ ε α) (b : β) : Async σ ℓ ε β := p.bind fun _ => done (.ok b)

/-- Run `p`, and on its error `h`. -/
def tryCatch : Async σ ℓ ε α → (ε → Async σ ℓ ε α) → Async σ ℓ ε α
  | done (.ok a), _ => done (.ok a)
  | done (.error e), h => h e
  | await c next reject, h =>
    await c (fun s => (next s).tryCatch h) fun e => (reject e).tryCatch h
  | sync c next, h => sync c fun s => (next s).tryCatch h

/-- Throw `e`. -/
def throw (e : ε) : Async σ ℓ ε α := done (.error e)

instance : Monad (Async σ ℓ ε) where
  pure a := done (.ok a)
  bind := Async.bind

/-- Await the command `c`, whose answer is `f` of the store it was performed in. -/
def query (c : ℓ) (f : σ → α) : Async σ ℓ ε α :=
  await c (fun s => done (.ok (f s))) fun e => done (.error e)

/-- Await the command `c`, whose answer is a value or an error. -/
def queryE (c : ℓ) (f : σ → Except ε α) : Async σ ℓ ε α :=
  await c (fun s => done (f s)) fun e => done (.error e)

/-- Await the command `c`. -/
def perform (c : ℓ) : Async σ ℓ ε Unit := query c fun _ => ()

/-- Perform the command `c` synchronously and read `f` of the store. -/
def read (c : ℓ) (f : σ → α) : Async σ ℓ ε α := sync c fun s => done (.ok (f s))

/-- Perform the command `c` synchronously. -/
def emit (c : ℓ) : Async σ ℓ ε Unit := read c fun _ => ()

/-- `for (const x of xs) await f(x)`. -/
def forEach (f : α → Async σ ℓ ε Unit) : List α → Async σ ℓ ε Unit
  | [] => pure ()
  | x :: xs => do
    f x
    forEach f xs

/-- The program on a part of a larger store, with its commands among others. -/
def embed {σ' ℓ' : Type} (part : σ' → σ) (inj : ℓ → ℓ') : Async σ ℓ ε α → Async σ' ℓ' ε α
  | done r => done r
  | await c next reject =>
    await (inj c) (fun s => (next (part s)).embed part inj) fun e => (reject e).embed part inj
  | sync c next => sync (inj c) fun s => (next (part s)).embed part inj

/-- The command the program is at. -/
def command? : Async σ ℓ ε α → Option ℓ
  | done _ => none
  | await c _ _ => some c
  | sync c _ => some c

/-- The program after its command was performed in the store `s`. -/
def resume : Async σ ℓ ε α → σ → Async σ ℓ ε α
  | done r, _ => done r
  | await _ next _, s => next s
  | sync _ next, s => next s

/-- The program after its command was rejected with `e`; only an awaited command can be. -/
def rejected? : Async σ ℓ ε α → ε → Option (Async σ ℓ ε α)
  | await _ _ reject, e => some (reject e)
  | _, _ => none

/-- The program is in the middle of synchronous code. -/
def isSync : Async σ ℓ ε α → Bool
  | sync _ _ => true
  | _ => false

/-- The program has returned or thrown. -/
def isDone : Async σ ℓ ε α → Bool
  | done _ => true
  | _ => false

/-! ### Equations -/

@[simp] theorem pure_eq (a : α) : (pure a : Async σ ℓ ε α) = done (.ok a) := rfl

@[simp] theorem bind_eq (p : Async σ ℓ ε α) (f : α → Async σ ℓ ε β) : p >>= f = p.bind f := rfl

@[simp] theorem done_ok_bind (a : α) (f : α → Async σ ℓ ε β) : (done (.ok a)).bind f = f a := rfl

@[simp] theorem done_error_bind (e : ε) (f : α → Async σ ℓ ε β) :
    (done (.error e)).bind f = done (.error e) := rfl

@[simp] theorem throw_bind (e : ε) (f : α → Async σ ℓ ε β) : (throw e).bind f = throw e := rfl

@[simp] theorem resume_query_bind (c : ℓ) (g : σ → α) (f : α → Async σ ℓ ε β) (s : σ) :
    ((query c g).bind f).resume s = f (g s) := rfl

theorem bind_assoc (p : Async σ ℓ ε α) (f : α → Async σ ℓ ε β) (g : β → Async σ ℓ ε γ) :
    (p.bind f).bind g = p.bind fun a => (f a).bind g := by
  induction p with
  | done r => cases r <;> rfl
  | await c next reject ih ihr => simp only [bind, ih, ihr]
  | sync c next ih => simp only [bind, ih]

theorem bind_pure (p : Async σ ℓ ε α) : p.bind (fun a => done (.ok a)) = p := by
  induction p with
  | done r => cases r <;> rfl
  | await c next reject ih ihr => simp only [bind, ih, ihr]
  | sync c next ih => simp only [bind, ih]

theorem embed_query_bind {σ' ℓ' : Type} {part : σ' → σ} {inj : ℓ → ℓ'} (c : ℓ) (g : σ → α)
    (f : α → Async σ ℓ ε β) : ((query c g).bind f).embed part inj =
      (query (inj c) fun s => g (part s)).bind fun a => (f a).embed part inj := rfl

theorem embed_emit_bind {σ' ℓ' : Type} {part : σ' → σ} {inj : ℓ → ℓ'} (c : ℓ)
    (f : Unit → Async σ ℓ ε β) : ((emit c).bind f).embed part inj =
      (emit (inj c)).bind fun a => (f a).embed part inj := rfl

theorem embed_bind {σ' ℓ' : Type} {part : σ' → σ} {inj : ℓ → ℓ'} (p : Async σ ℓ ε α)
    (f : α → Async σ ℓ ε β) : (p.bind f).embed part inj =
      (p.embed part inj).bind fun a => (f a).embed part inj := by
  induction p with
  | done r => cases r <;> rfl
  | await c next reject ih ihr => simp only [bind, embed, ih, ihr]
  | sync c next ih => simp only [bind, embed, ih]

theorem embed_tryCatch {σ' ℓ' : Type} {part : σ' → σ} {inj : ℓ → ℓ'} (p : Async σ ℓ ε α)
    (h : ε → Async σ ℓ ε α) : (p.tryCatch h).embed part inj =
      (p.embed part inj).tryCatch fun e => (h e).embed part inj := by
  induction p with
  | done r => cases r <;> rfl
  | await c next reject ih ihr => simp only [tryCatch, embed, ih, ihr]
  | sync c next ih => simp only [tryCatch, embed, ih]

/-! ### Programs that only perform some commands -/

/-- Every command `p` can come to perform satisfies `H`. -/
def Only (H : ℓ → Prop) : Async σ ℓ ε α → Prop
  | done _ => True
  | await c next reject => H c ∧ (∀ s, (next s).Only H) ∧ ∀ e, (reject e).Only H
  | sync c next => H c ∧ ∀ s, (next s).Only H

variable {H K : ℓ → Prop}

@[simp] theorem only_done (r : Except ε α) : (done r : Async σ ℓ ε α).Only H := trivial

@[simp] theorem only_throw (e : ε) : (throw e : Async σ ℓ ε α).Only H := trivial

@[simp] theorem only_query {c : ℓ} {f : σ → α} : (query c f : Async σ ℓ ε α).Only H ↔ H c := by
  simp [query, Only]

@[simp] theorem only_queryE {c : ℓ} {f : σ → Except ε α} :
    (queryE c f : Async σ ℓ ε α).Only H ↔ H c := by
  simp [queryE, Only]

@[simp] theorem only_perform {c : ℓ} : (perform c : Async σ ℓ ε Unit).Only H ↔ H c := by
  simp [perform]

@[simp] theorem only_read {c : ℓ} {f : σ → α} : (read c f : Async σ ℓ ε α).Only H ↔ H c := by
  simp [read, Only]

@[simp] theorem only_emit {c : ℓ} : (emit c : Async σ ℓ ε Unit).Only H ↔ H c := by
  simp [emit]

@[simp] theorem only_query_bind {c : ℓ} {f : σ → α} {g : α → Async σ ℓ ε β} :
    ((query c f).bind g).Only H ↔ H c ∧ ∀ s, (g (f s)).Only H := by
  simp [query, Async.bind, Only]

@[simp] theorem only_queryE_bind {c : ℓ} {f : σ → Except ε α} {g : α → Async σ ℓ ε β} :
    ((queryE c f).bind g).Only H ↔ H c ∧ ∀ s, ((done (f s)).bind g).Only H := by
  simp [queryE, Async.bind, Only]

@[simp] theorem only_perform_bind {c : ℓ} {g : Unit → Async σ ℓ ε β} :
    ((perform c).bind g).Only H ↔ H c ∧ ∀ _ : σ, (g ()).Only H := by
  simp [perform, query, Async.bind, Only]

@[simp] theorem only_read_bind {c : ℓ} {f : σ → α} {g : α → Async σ ℓ ε β} :
    ((read c f).bind g).Only H ↔ H c ∧ ∀ s, (g (f s)).Only H := by
  simp [read, Async.bind, Only]

@[simp] theorem only_emit_bind {c : ℓ} {g : Unit → Async σ ℓ ε β} :
    ((emit c).bind g).Only H ↔ H c ∧ ∀ _ : σ, (g ()).Only H := by
  simp [emit, read, Async.bind, Only]

theorem Only.bind {p : Async σ ℓ ε α} {f : α → Async σ ℓ ε β} (hp : p.Only H)
    (hf : ∀ a, (f a).Only H) : (p.bind f).Only H := by
  induction p with
  | done r =>
    cases r with
    | ok a => exact hf a
    | error e => trivial
  | await c next reject ih ihr =>
    exact ⟨hp.1, fun s => ih s (hp.2.1 s), fun e => ihr e (hp.2.2 e)⟩
  | sync c next ih => exact ⟨hp.1, fun s => ih s (hp.2 s)⟩

theorem Only.tryCatch {p : Async σ ℓ ε α} {h : ε → Async σ ℓ ε α} (hp : p.Only H)
    (hh : ∀ e, (h e).Only H) : (p.tryCatch h).Only H := by
  induction p with
  | done r =>
    cases r with
    | ok a => trivial
    | error e => exact hh e
  | await c next reject ih ihr =>
    exact ⟨hp.1, fun s => ih s (hp.2.1 s), fun e => ihr e (hp.2.2 e)⟩
  | sync c next ih => exact ⟨hp.1, fun s => ih s (hp.2 s)⟩

theorem Only.forEach {f : α → Async σ ℓ ε Unit} {xs : List α} (hf : ∀ x ∈ xs, (f x).Only H) :
    (Async.forEach f xs).Only H := by
  induction xs with
  | nil => trivial
  | cons x xs ih =>
    exact (hf x List.mem_cons_self).bind fun _ => ih fun y hy => hf y (List.mem_cons_of_mem x hy)

theorem Only.mono {p : Async σ ℓ ε α} (hp : p.Only H) (hHK : ∀ c, H c → K c) : p.Only K := by
  induction p with
  | done r => trivial
  | await c next reject ih ihr =>
    exact ⟨hHK c hp.1, fun s => ih s (hp.2.1 s), fun e => ihr e (hp.2.2 e)⟩
  | sync c next ih => exact ⟨hHK c hp.1, fun s => ih s (hp.2 s)⟩

theorem Only.embed {σ' ℓ' : Type} {K : ℓ' → Prop} {part : σ' → σ} {inj : ℓ → ℓ'}
    {p : Async σ ℓ ε α} (hp : p.Only H) (h : ∀ c, H c → K (inj c)) : (p.embed part inj).Only K := by
  induction p with
  | done r => trivial
  | await c next reject ih ihr =>
    exact ⟨h c hp.1, fun s => ih (part s) (hp.2.1 (part s)), fun e => ihr e (hp.2.2 e)⟩
  | sync c next ih => exact ⟨h c hp.1, fun s => ih (part s) (hp.2 (part s))⟩

theorem only_true (p : Async σ ℓ ε α) : p.Only fun _ => True := by
  induction p with
  | done r => trivial
  | await c next reject ih ihr => exact ⟨trivial, ih, ihr⟩
  | sync c next ih => exact ⟨trivial, ih⟩

theorem only_embed {σ' ℓ' : Type} {K : ℓ' → Prop} {part : σ' → σ} {inj : ℓ → ℓ'}
    (h : ∀ c, K (inj c)) (p : Async σ ℓ ε α) : (p.embed part inj).Only K :=
  p.only_true.embed fun c _ => h c

/-! ### What a program can return -/

/-- Every value `p` can return satisfies `Φ`. -/
def Yields (Φ : α → Prop) : Async σ ℓ ε α → Prop
  | done (.ok a) => Φ a
  | done (.error _) => True
  | await _ next reject => (∀ s, (next s).Yields Φ) ∧ ∀ e, (reject e).Yields Φ
  | sync _ next => ∀ s, (next s).Yields Φ

theorem yields_true (p : Async σ ℓ ε α) : p.Yields fun _ => True := by
  induction p with
  | done r => cases r <;> trivial
  | await c next reject ih ihr => exact ⟨ih, ihr⟩
  | sync c next ih => exact ih

/-- A sequence returns what its last part returns. -/
theorem Yields.bind {Φ : β → Prop} (p : Async σ ℓ ε α) {f : α → Async σ ℓ ε β}
    (hf : ∀ a, (f a).Yields Φ) : (p.bind f).Yields Φ := by
  induction p with
  | done r =>
    cases r with
    | ok a => exact hf a
    | error e => trivial
  | await c next reject ih ihr => exact ⟨ih, ihr⟩
  | sync c next ih => exact ih

theorem yields_query_bind {Φ : β → Prop} {c : ℓ} {f : σ → α} {g : α → Async σ ℓ ε β} :
    ((query c f).bind g).Yields Φ ↔ ∀ s, (g (f s)).Yields Φ := by
  simp [query, Async.bind, Yields]

/-- The rest of a program only runs on what its first part can return. -/
theorem Only.bind_yields {Φ : α → Prop} {p : Async σ ℓ ε α} {f : α → Async σ ℓ ε β}
    (hp : p.Only H) (hΦ : p.Yields Φ) (hf : ∀ a, Φ a → (f a).Only H) : (p.bind f).Only H := by
  induction p with
  | done r =>
    cases r with
    | ok a => exact hf a hΦ
    | error e => trivial
  | await c next reject ih ihr =>
    exact ⟨hp.1, fun s => ih s (hp.2.1 s) (hΦ.1 s), fun e => ihr e (hp.2.2 e) (hΦ.2 e)⟩
  | sync c next ih => exact ⟨hp.1, fun s => ih s (hp.2 s) (hΦ s)⟩

end Async

end Telima
