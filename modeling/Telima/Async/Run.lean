import Telima.Async.Basic

/-!
# Uninterrupted and interrupted runs of one program

`System` says what a command does to the store and which programs it starts (an event starts its
handlers).  `Async.run` is the run of one program that nothing interferes with and in which no
command is rejected; `System.complete` also runs the handlers of the commands it performed, each
to completion, and the handlers of those.  `Async.interrupt` is a run with one failure: the
process dies, or one awaited command is rejected.
-/

namespace Telima

/-- The effect of the commands on the store, and the programs they start. -/
structure System (σ ℓ ε ρ : Type) where
  /-- What a command does to the store. -/
  exec : ℓ → σ → σ
  /-- The programs a command starts. -/
  handlers : ℓ → List (Async σ ℓ ε ρ)

/-- What a run leaves: a result, the store, and the commands performed, in order. -/
structure Outcome (σ ℓ ε α : Type) where
  result : Except ε α
  store : σ
  cmds : List ℓ

variable {σ ℓ ε α β ρ : Type}

/-- The outcome of a run that performed `cs` before it came to the run `o`. -/
def Outcome.after (cs : List ℓ) (o : Outcome σ ℓ ε α) : Outcome σ ℓ ε α :=
  ⟨o.result, o.store, cs ++ o.cmds⟩

@[simp] theorem Outcome.result_after (cs : List ℓ) (o : Outcome σ ℓ ε α) :
    (o.after cs).result = o.result := rfl

@[simp] theorem Outcome.store_after (cs : List ℓ) (o : Outcome σ ℓ ε α) :
    (o.after cs).store = o.store := rfl

@[simp] theorem Outcome.cmds_after (cs : List ℓ) (o : Outcome σ ℓ ε α) :
    (o.after cs).cmds = cs ++ o.cmds := rfl

namespace Async

section Run

variable (exec : ℓ → σ → σ)

/-- The run of a program on its own. -/
def run : Async σ ℓ ε α → σ → Outcome σ ℓ ε α
  | done r, s => ⟨r, s, []⟩
  | await c next _, s => ((next s).run (exec c s)).after [c]
  | sync c next, s => ((next s).run (exec c s)).after [c]

@[simp] theorem run_done (r : Except ε α) (s : σ) :
    (done r : Async σ ℓ ε α).run exec s = ⟨r, s, []⟩ := rfl

@[simp] theorem run_throw (e : ε) (s : σ) :
    (throw e : Async σ ℓ ε α).run exec s = ⟨.error e, s, []⟩ := rfl

@[simp] theorem run_query (c : ℓ) (f : σ → α) (s : σ) :
    (query c f : Async σ ℓ ε α).run exec s = ⟨.ok (f s), exec c s, [c]⟩ := rfl

@[simp] theorem run_query_bind (c : ℓ) (f : σ → α) (g : α → Async σ ℓ ε β) (s : σ) :
    ((query c f).bind g).run exec s = ((g (f s)).run exec (exec c s)).after [c] := rfl

theorem run_queryE (c : ℓ) (f : σ → Except ε α) (s : σ) :
    (queryE c f : Async σ ℓ ε α).run exec s = ⟨f s, exec c s, [c]⟩ := rfl

@[simp] theorem run_queryE_bind (c : ℓ) (f : σ → Except ε α) (g : α → Async σ ℓ ε β) (s : σ) :
    ((queryE c f).bind g).run exec s = (((done (f s)).bind g).run exec (exec c s)).after [c] := rfl

@[simp] theorem run_perform (c : ℓ) (s : σ) :
    (perform c : Async σ ℓ ε Unit).run exec s = ⟨.ok (), exec c s, [c]⟩ := rfl

@[simp] theorem run_perform_bind (c : ℓ) (g : Unit → Async σ ℓ ε β) (s : σ) :
    ((perform c).bind g).run exec s = ((g ()).run exec (exec c s)).after [c] := rfl

@[simp] theorem run_read_bind (c : ℓ) (f : σ → α) (g : α → Async σ ℓ ε β) (s : σ) :
    ((read c f).bind g).run exec s = ((g (f s)).run exec (exec c s)).after [c] := rfl

@[simp] theorem run_emit (c : ℓ) (s : σ) :
    (emit c : Async σ ℓ ε Unit).run exec s = ⟨.ok (), exec c s, [c]⟩ := rfl

@[simp] theorem run_emit_bind (c : ℓ) (g : Unit → Async σ ℓ ε β) (s : σ) :
    ((emit c).bind g).run exec s = ((g ()).run exec (exec c s)).after [c] := rfl

/-- The run of a sequence, when its first part returns. -/
theorem run_bind_of_ok {p : Async σ ℓ ε α} {s : σ} {a : α} (h : (p.run exec s).result = .ok a)
    (f : α → Async σ ℓ ε β) :
    (p.bind f).run exec s =
      ((f a).run exec (p.run exec s).store).after (p.run exec s).cmds := by
  induction p generalizing s with
  | done r => cases r <;> simp_all [bind, run, Outcome.after]
  | await c next reject ih _ =>
    have h' : ((next s).run exec (exec c s)).result = .ok a := h
    simp only [bind, run, ih s h', Outcome.after, List.append_assoc]
  | sync c next ih =>
    have h' : ((next s).run exec (exec c s)).result = .ok a := h
    simp only [bind, run, ih s h', Outcome.after, List.append_assoc]

/-- The run of a sequence, when its first part throws. -/
theorem run_bind_of_error {p : Async σ ℓ ε α} {s : σ} {e : ε}
    (h : (p.run exec s).result = .error e) (f : α → Async σ ℓ ε β) :
    (p.bind f).run exec s = ⟨.error e, (p.run exec s).store, (p.run exec s).cmds⟩ := by
  induction p generalizing s with
  | done r => cases r <;> simp_all [bind, run]
  | await c next reject ih _ =>
    have h' : ((next s).run exec (exec c s)).result = .error e := h
    simp only [bind, run, ih s h', Outcome.after]
  | sync c next ih =>
    have h' : ((next s).run exec (exec c s)).result = .error e := h
    simp only [bind, run, ih s h', Outcome.after]

/-- A sequence returns when both of its parts do. -/
theorem run_bind_eq_ok_iff {p : Async σ ℓ ε α} {f : α → Async σ ℓ ε β} {s : σ} {b : β} :
    ((p.bind f).run exec s).result = .ok b ↔
      ∃ a, (p.run exec s).result = .ok a ∧
        ((f a).run exec (p.run exec s).store).result = .ok b := by
  cases h : (p.run exec s).result with
  | ok a =>
    rw [run_bind_of_ok exec h, Outcome.result_after]
    refine ⟨fun hb => ⟨a, rfl, hb⟩, ?_⟩
    rintro ⟨a', ha', hb⟩
    obtain rfl := Except.ok.inj ha'
    exact hb
  | error e =>
    rw [run_bind_of_error exec h]
    constructor
    · intro hb
      exact absurd hb (by simp)
    · rintro ⟨a, ha, -⟩
      exact absurd ha (by simp)

/-- What only returns after a program leaves what the program leaves. -/
theorem run_store_bind_done (p : Async σ ℓ ε α) (f : α → Except ε β) (s : σ) :
    ((p.bind fun a => done (f a)).run exec s).store = (p.run exec s).store := by
  cases h : (p.run exec s).result with
  | ok a => rw [run_bind_of_ok exec h]; rfl
  | error e => rw [run_bind_of_error exec h]

/-- A handler that only answers changes the result. -/
theorem run_tryCatch_done (p : Async σ ℓ ε α) (f : ε → Except ε α) (s : σ) :
    (p.tryCatch fun e => done (f e)).run exec s =
      ⟨(p.run exec s).result.tryCatch f, (p.run exec s).store, (p.run exec s).cmds⟩ := by
  induction p generalizing s with
  | done r => cases r <;> rfl
  | await c next reject ih _ => exact congrArg (Outcome.after [c]) (ih s (exec c s))
  | sync c next ih => exact congrArg (Outcome.after [c]) (ih s (exec c s))

theorem run_store_tryCatch_done (p : Async σ ℓ ε α) (f : ε → Except ε α) (s : σ) :
    ((p.tryCatch fun e => done (f e)).run exec s).store = (p.run exec s).store := by
  rw [run_tryCatch_done]

/-- The run of a program on a part of the store. -/
theorem run_embed {σ' ℓ' : Type} (exec' : ℓ' → σ' → σ') (part : σ' → σ) (inj : ℓ → ℓ')
    (h : ∀ c s, part (exec' (inj c) s) = exec c (part s)) (p : Async σ ℓ ε α) (s : σ') :
    ((p.embed part inj).run exec' s).result = (p.run exec (part s)).result ∧
      part ((p.embed part inj).run exec' s).store = (p.run exec (part s)).store ∧
      ((p.embed part inj).run exec' s).cmds = (p.run exec (part s)).cmds.map inj := by
  induction p generalizing s with
  | done r => exact ⟨rfl, rfl, rfl⟩
  | await c next reject ih _ =>
    obtain ⟨hresult, hstore, hcmds⟩ := ih (part s) (exec' (inj c) s)
    rw [h] at hresult hstore hcmds
    exact ⟨hresult, hstore, congrArg (inj c :: ·) hcmds⟩
  | sync c next ih =>
    obtain ⟨hresult, hstore, hcmds⟩ := ih (part s) (exec' (inj c) s)
    rw [h] at hresult hstore hcmds
    exact ⟨hresult, hstore, congrArg (inj c :: ·) hcmds⟩

/-- A program keeps a property of the store that its commands keep. -/
theorem Only.run_store {H : ℓ → Prop} {I : σ → Prop} (hI : ∀ c s, H c → I s → I (exec c s))
    {p : Async σ ℓ ε α} (hp : p.Only H) {s : σ} (hs : I s) : I (p.run exec s).store := by
  induction p generalizing s with
  | done r => exact hs
  | await c next reject ih _ => exact ih s (hp.2.1 s) (hI c s hp.1 hs)
  | sync c next ih => exact ih s (hp.2 s) (hI c s hp.1 hs)

/-- The commands of a run are commands of the program. -/
theorem Only.of_mem_cmds {H : ℓ → Prop} {p : Async σ ℓ ε α} (hp : p.Only H) {s : σ} {c : ℓ}
    (hc : c ∈ (p.run exec s).cmds) : H c := by
  induction p generalizing s with
  | done r => simp at hc
  | await c' next reject ih _ =>
    rcases List.mem_cons.mp hc with rfl | hc
    · exact hp.1
    · exact ih s (hp.2.1 s) hc
  | sync c' next ih =>
    rcases List.mem_cons.mp hc with rfl | hc
    · exact hp.1
    · exact ih s (hp.2 s) hc

/-- A run returns what its program can return. -/
theorem Yields.of_run {Φ : α → Prop} {p : Async σ ℓ ε α} (hp : p.Yields Φ) {s : σ} {a : α}
    (h : (p.run exec s).result = .ok a) : Φ a := by
  induction p generalizing s with
  | done r =>
    obtain rfl : r = .ok a := h
    exact hp
  | await c next reject ih _ => exact ih s (hp.1 s) h
  | sync c next ih => exact ih s (hp s) h

end Run

/-! ### Runs that return -/

/-- The run returns a value. -/
def Succeeds (exec : ℓ → σ → σ) (p : Async σ ℓ ε α) (s : σ) : Prop :=
  ∃ a, (p.run exec s).result = .ok a

section Succeeds

variable {exec : ℓ → σ → σ} {s : σ}

@[simp] theorem succeeds_done_ok (a : α) : (done (.ok a) : Async σ ℓ ε α).Succeeds exec s :=
  ⟨a, rfl⟩

@[simp] theorem not_succeeds_throw (e : ε) : ¬ (throw e : Async σ ℓ ε α).Succeeds exec s := by
  rintro ⟨a, h⟩
  exact nomatch h

@[simp] theorem succeeds_query_bind {c : ℓ} {f : σ → α} {g : α → Async σ ℓ ε β} :
    ((query c f).bind g).Succeeds exec s ↔ (g (f s)).Succeeds exec (exec c s) := Iff.rfl

@[simp] theorem succeeds_queryE_bind {c : ℓ} {f : σ → Except ε α} {g : α → Async σ ℓ ε β} :
    ((queryE c f).bind g).Succeeds exec s ↔
      ((done (f s)).bind g).Succeeds exec (exec c s) := Iff.rfl

@[simp] theorem succeeds_perform_bind {c : ℓ} {g : Unit → Async σ ℓ ε β} :
    ((perform c).bind g).Succeeds exec s ↔ (g ()).Succeeds exec (exec c s) := Iff.rfl

@[simp] theorem succeeds_read_bind {c : ℓ} {f : σ → α} {g : α → Async σ ℓ ε β} :
    ((read c f).bind g).Succeeds exec s ↔ (g (f s)).Succeeds exec (exec c s) := Iff.rfl

theorem succeeds_bind_iff {p : Async σ ℓ ε α} {f : α → Async σ ℓ ε β} :
    (p.bind f).Succeeds exec s ↔
      ∃ a, (p.run exec s).result = .ok a ∧ (f a).Succeeds exec (p.run exec s).store := by
  constructor
  · rintro ⟨b, hb⟩
    obtain ⟨a, ha, hf⟩ := (run_bind_eq_ok_iff exec).mp hb
    exact ⟨a, ha, b, hf⟩
  · rintro ⟨a, ha, b, hb⟩
    exact ⟨b, (run_bind_eq_ok_iff exec).mpr ⟨a, ha, hb⟩⟩

end Succeeds

/-! ### Programs that do not throw -/

/-- The program returns, whatever it reads, unless a command is rejected. -/
def Returns : Async σ ℓ ε α → Prop
  | done r => ∃ a, r = .ok a
  | await _ next _ => ∀ s, (next s).Returns
  | sync _ next => ∀ s, (next s).Returns

theorem Returns.succeeds {p : Async σ ℓ ε α} (hp : p.Returns) (exec : ℓ → σ → σ) (s : σ) :
    p.Succeeds exec s := by
  induction p generalizing s with
  | done r => exact hp
  | await c next reject ih _ => exact ih s (hp s) (exec c s)
  | sync c next ih => exact ih s (hp s) (exec c s)

@[simp] theorem returns_done_ok (a : α) : (done (.ok a) : Async σ ℓ ε α).Returns := ⟨a, rfl⟩

@[simp] theorem returns_query (c : ℓ) (f : σ → α) : (query c f : Async σ ℓ ε α).Returns :=
  fun s => ⟨f s, rfl⟩

/-- A sequence whose first part does not throw. -/
theorem Returns.succeeds_bind_iff {p : Async σ ℓ ε α} (hp : p.Returns) {exec : ℓ → σ → σ}
    {f : α → Async σ ℓ ε β} {s : σ} {K : Prop}
    (hf : ∀ a, (f a).Succeeds exec (p.run exec s).store ↔ K) : (p.bind f).Succeeds exec s ↔ K := by
  rw [Async.succeeds_bind_iff]
  obtain ⟨a, ha⟩ := hp.succeeds exec s
  constructor
  · rintro ⟨b, -, hb⟩
    exact (hf b).mp hb
  · intro hK
    exact ⟨a, ha, (hf a).mpr hK⟩

@[simp] theorem returns_perform (c : ℓ) : (perform c : Async σ ℓ ε Unit).Returns :=
  fun _ => ⟨(), rfl⟩

@[simp] theorem returns_emit (c : ℓ) : (emit c : Async σ ℓ ε Unit).Returns := fun _ => ⟨(), rfl⟩

@[simp] theorem returns_query_bind {c : ℓ} {f : σ → α} {g : α → Async σ ℓ ε β} :
    ((query c f).bind g).Returns ↔ ∀ s, (g (f s)).Returns := Iff.rfl

@[simp] theorem returns_perform_bind {c : ℓ} {g : Unit → Async σ ℓ ε β} :
    ((perform c).bind g).Returns ↔ ∀ _ : σ, (g ()).Returns := Iff.rfl

@[simp] theorem returns_read_bind {c : ℓ} {f : σ → α} {g : α → Async σ ℓ ε β} :
    ((read c f).bind g).Returns ↔ ∀ s, (g (f s)).Returns := Iff.rfl

@[simp] theorem returns_emit_bind {c : ℓ} {g : Unit → Async σ ℓ ε β} :
    ((emit c).bind g).Returns ↔ ∀ _ : σ, (g ()).Returns := Iff.rfl

theorem Returns.bind {p : Async σ ℓ ε α} {f : α → Async σ ℓ ε β} (hp : p.Returns)
    (hf : ∀ a, (f a).Returns) : (p.bind f).Returns := by
  induction p with
  | done r =>
    obtain ⟨a, rfl⟩ := hp
    exact hf a
  | await c next reject ih _ => exact fun s => ih s (hp s)
  | sync c next ih => exact fun s => ih s (hp s)

/-- A program whose errors are caught does not throw. -/
theorem returns_tryCatch {p : Async σ ℓ ε α} {h : ε → Async σ ℓ ε α} (hh : ∀ e, (h e).Returns) :
    (p.tryCatch h).Returns := by
  induction p with
  | done r =>
    cases r with
    | ok a => exact ⟨a, rfl⟩
    | error e => exact hh e
  | await c next reject ih _ => exact fun s => ih s
  | sync c next ih => exact fun s => ih s

theorem Returns.forEach {f : α → Async σ ℓ ε Unit} {xs : List α} (hf : ∀ x, (f x).Returns) :
    (Async.forEach f xs).Returns := by
  induction xs with
  | nil => exact ⟨(), rfl⟩
  | cons x xs ih => exact (hf x).bind fun _ => ih

/-! ### What a program can throw -/

/-- Every error the program can throw satisfies `Φ`, unless a command is rejected. -/
def Throws (Φ : ε → Prop) : Async σ ℓ ε α → Prop
  | done (.ok _) => True
  | done (.error e) => Φ e
  | await _ next _ => ∀ s, (next s).Throws Φ
  | sync _ next => ∀ s, (next s).Throws Φ

section Throws

variable {Φ : ε → Prop}

theorem Returns.throws {p : Async σ ℓ ε α} (hp : p.Returns) : p.Throws Φ := by
  induction p with
  | done r =>
    obtain ⟨a, rfl⟩ := hp
    trivial
  | await c next reject ih _ => exact fun s => ih s (hp s)
  | sync c next ih => exact fun s => ih s (hp s)

theorem Throws.bind {p : Async σ ℓ ε α} {f : α → Async σ ℓ ε β} (hp : p.Throws Φ)
    (hf : ∀ a, (f a).Throws Φ) : (p.bind f).Throws Φ := by
  induction p with
  | done r =>
    cases r with
    | ok a => exact hf a
    | error e => exact hp
  | await c next reject ih _ => exact fun s => ih s (hp s)
  | sync c next ih => exact fun s => ih s (hp s)

/-- The rest of a program whose first part does not throw. -/
theorem Returns.throws_bind {p : Async σ ℓ ε α} {f : α → Async σ ℓ ε β} (hp : p.Returns)
    (hf : ∀ a, (f a).Throws Φ) : (p.bind f).Throws Φ := hp.throws.bind hf

theorem throws_query_bind {c : ℓ} {f : σ → α} {g : α → Async σ ℓ ε β} :
    ((query c f).bind g).Throws Φ ↔ ∀ s, (g (f s)).Throws Φ := Iff.rfl

theorem Throws.run {p : Async σ ℓ ε α} (hp : p.Throws Φ) {exec : ℓ → σ → σ} {s : σ} {e : ε}
    (h : (p.run exec s).result = .error e) : Φ e := by
  induction p generalizing s with
  | done r =>
    cases r with
    | ok a => cases h
    | error e' =>
      obtain rfl := Except.error.inj h
      exact hp
  | await c next reject ih _ => exact ih s (hp s) h
  | sync c next ih => exact ih s (hp s) h

end Throws

/-! ### Programs that check before they write -/

/-- If the run ends in an error of the kind `R`, then it has left the store as it was and performed
commands of the kind `H` only. -/
def ChecksFirst (exec : ℓ → σ → σ) (H : ℓ → Prop) (R : ε → Prop) (p : Async σ ℓ ε α) (s : σ) :
    Prop :=
  ∀ e, (p.run exec s).result = .error e → R e →
    (p.run exec s).store = s ∧ ∀ c ∈ (p.run exec s).cmds, H c

section ChecksFirst

variable {exec : ℓ → σ → σ} {H : ℓ → Prop} {R : ε → Prop} {s : σ} {p : Async σ ℓ ε α}
  {f : α → Async σ ℓ ε β}

theorem checksFirst_throw (e : ε) : (throw e : Async σ ℓ ε α).ChecksFirst exec H R s :=
  fun _ _ _ => ⟨rfl, fun _ hc => absurd hc List.not_mem_nil⟩

/-- A program that throws no error of the kind. -/
theorem Throws.checksFirst (hp : p.Throws fun e => ¬ R e) : p.ChecksFirst exec H R s :=
  fun _ he hR => absurd hR (hp.run he)

theorem Returns.checksFirst (hp : p.Returns) : p.ChecksFirst exec H R s :=
  hp.throws.checksFirst

theorem Succeeds.checksFirst (hp : p.Succeeds exec s) : p.ChecksFirst exec H R s := by
  intro e he
  obtain ⟨a, ha⟩ := hp
  rw [ha] at he
  cases he

/-- What comes after the checks throws no error of the kind. -/
theorem ChecksFirst.bind (hp : p.ChecksFirst exec H R s) (hf : ∀ a, (f a).Throws fun e => ¬ R e) :
    (p.bind f).ChecksFirst exec H R s := by
  intro e he hR
  cases hr : (p.run exec s).result with
  | ok a =>
    rw [run_bind_of_ok exec hr] at he
    exact absurd hR ((hf a).run he)
  | error e' =>
    rw [run_bind_of_error exec hr] at he ⊢
    obtain rfl := Except.error.inj he
    exact hp _ hr hR

/-- A check, which only reads, and the rest. -/
theorem Only.checksFirst_bind (hH : ∀ c s, H c → exec c s = s) (hp : p.Only H)
    (hf : ∀ a, (p.run exec s).result = .ok a → (f a).ChecksFirst exec H R s) :
    (p.bind f).ChecksFirst exec H R s := by
  have hstore : (p.run exec s).store = s :=
    hp.run_store (I := fun t => t = s) exec (fun c t hc ht => (hH c t hc).trans ht) rfl
  have hcmds : ∀ c ∈ (p.run exec s).cmds, H c := fun c hc => hp.of_mem_cmds exec hc
  intro e he hR
  cases hr : (p.run exec s).result with
  | ok a =>
    rw [run_bind_of_ok exec hr, hstore] at he ⊢
    obtain ⟨hkept, hrest⟩ := hf a hr e he hR
    refine ⟨hkept, fun c hc => ?_⟩
    rcases List.mem_append.mp hc with hc | hc
    · exact hcmds c hc
    · exact hrest c hc
  | error e' =>
    rw [run_bind_of_error exec hr]
    exact ⟨hstore, hcmds⟩

end ChecksFirst

/-! ### One failure -/

/-- A single failure of a run, at its `k`-th await. -/
inductive Fault (ε : Type) where
  /-- The process dies before the command of the `k`-th await takes effect. -/
  | crash (k : ℕ)
  /-- The command of the `k`-th await has no effect and is rejected with `e`. -/
  | reject (k : ℕ) (e : ε)

/-- The store a run with the failure leaves. -/
def interrupt (exec : ℓ → σ → σ) : Async σ ℓ ε α → Fault ε → σ → σ
  | done _, _, s => s
  | await _ _ _, .crash 0, s => s
  | await c next _, .crash (k + 1), s => (next s).interrupt exec (.crash k) (exec c s)
  | await _ _ reject, .reject 0 e, s => ((reject e).run exec s).store
  | await c next _, .reject (k + 1) e, s => (next s).interrupt exec (.reject k e) (exec c s)
  | sync c next, fault, s => (next s).interrupt exec fault (exec c s)

/-- The awaited command that fails; `none` if the run ends before. -/
def failing (exec : ℓ → σ → σ) : Async σ ℓ ε α → Fault ε → σ → Option ℓ
  | done _, _, _ => none
  | await c _ _, .crash 0, _ => some c
  | await c next _, .crash (k + 1), s => (next s).failing exec (.crash k) (exec c s)
  | await c _ _, .reject 0 _, _ => some c
  | await c next _, .reject (k + 1) e, s => (next s).failing exec (.reject k e) (exec c s)
  | sync c next, fault, s => (next s).failing exec fault (exec c s)

/-- Wherever the run fails, the failing command and the store left satisfy `Φ`. -/
def Interrupts (exec : ℓ → σ → σ) (Φ : Option ℓ → σ → Prop) : Async σ ℓ ε α → σ → Prop
  | done _, s => Φ none s
  | await c next reject, s =>
    Φ (some c) s ∧ (∀ e, Φ (some c) ((reject e).run exec s).store) ∧
      (next s).Interrupts exec Φ (exec c s)
  | sync c next, s => (next s).Interrupts exec Φ (exec c s)

section Interrupts

variable {exec : ℓ → σ → σ} {Φ : Option ℓ → σ → Prop}

theorem Interrupts.fault {p : Async σ ℓ ε α} {s : σ} (h : p.Interrupts exec Φ s)
    (fault : Fault ε) : Φ (p.failing exec fault s) (p.interrupt exec fault s) := by
  induction p generalizing s fault with
  | done r => exact h
  | await c next reject ih _ =>
    obtain ⟨hcrash, hreject, hnext⟩ := h
    match fault with
    | .crash 0 => exact hcrash
    | .crash (k + 1) => exact ih s hnext (.crash k)
    | .reject 0 e => exact hreject e
    | .reject (k + 1) e => exact ih s hnext (.reject k e)
  | sync c next ih => exact ih s h fault

/-- The uninterrupted run is the case in which nothing fails. -/
theorem Interrupts.run {p : Async σ ℓ ε α} {s : σ} (h : p.Interrupts exec Φ s) :
    Φ none (p.run exec s).store := by
  induction p generalizing s with
  | done r => exact h
  | await c next reject ih _ => exact ih s h.2.2
  | sync c next ih => exact ih s h

@[simp] theorem interrupts_done (r : Except ε α) (s : σ) :
    (done r : Async σ ℓ ε α).Interrupts exec Φ s ↔ Φ none s := Iff.rfl

@[simp] theorem interrupts_query_bind (c : ℓ) (f : σ → α) (g : α → Async σ ℓ ε β) (s : σ) :
    ((query c f).bind g).Interrupts exec Φ s ↔
      Φ (some c) s ∧ (∀ _ : ε, Φ (some c) s) ∧ (g (f s)).Interrupts exec Φ (exec c s) := Iff.rfl

@[simp] theorem interrupts_queryE_bind (c : ℓ) (f : σ → Except ε α) (g : α → Async σ ℓ ε β)
    (s : σ) :
    ((queryE c f).bind g).Interrupts exec Φ s ↔
      Φ (some c) s ∧ (∀ _ : ε, Φ (some c) s) ∧
        ((done (f s)).bind g).Interrupts exec Φ (exec c s) := Iff.rfl

@[simp] theorem interrupts_read_bind (c : ℓ) (f : σ → α) (g : α → Async σ ℓ ε β) (s : σ) :
    ((read c f).bind g).Interrupts exec Φ s ↔ (g (f s)).Interrupts exec Φ (exec c s) := Iff.rfl

@[simp] theorem interrupts_emit (c : ℓ) (s : σ) :
    (emit c : Async σ ℓ ε Unit).Interrupts exec Φ s ↔ Φ none (exec c s) := Iff.rfl

@[simp] theorem interrupts_emit_bind (c : ℓ) (g : Unit → Async σ ℓ ε β) (s : σ) :
    ((emit c).bind g).Interrupts exec Φ s ↔ (g ()).Interrupts exec Φ (exec c s) := Iff.rfl

theorem interrupts_bind_done (p : Async σ ℓ ε α) (f : α → Except ε β) (s : σ) :
    (p.bind fun a => done (f a)).Interrupts exec Φ s ↔ p.Interrupts exec Φ s := by
  induction p generalizing s with
  | done r => cases r <;> rfl
  | await c next reject ih _ =>
    simp only [Async.bind, Interrupts, run_store_bind_done, ih]
  | sync c next ih => simp only [Async.bind, Interrupts, ih]

theorem interrupts_tryCatch_done (p : Async σ ℓ ε α) (f : ε → Except ε α) (s : σ) :
    (p.tryCatch fun e => done (f e)).Interrupts exec Φ s ↔ p.Interrupts exec Φ s := by
  induction p generalizing s with
  | done r => cases r <;> rfl
  | await c next reject ih _ =>
    simp only [Async.tryCatch, Interrupts, run_store_tryCatch_done, ih]
  | sync c next ih => simp only [Async.tryCatch, Interrupts, ih]

end Interrupts

end Async

namespace System

/-- Run the programs in turn, each followed by the handlers of its commands; `depth` bounds how
many generations of handlers run. -/
def settle (S : System σ ℓ ε ρ) : ℕ → List (Async σ ℓ ε ρ) → σ → σ × List ℓ
  | 0, _, s => (s, [])
  | depth + 1, ps, s =>
    ps.foldl (fun acc p =>
      let o := p.run S.exec acc.1
      let rest := S.settle depth (o.cmds.flatMap S.handlers) o.store
      (rest.1, acc.2 ++ o.cmds ++ rest.2)) (s, [])

theorem settle_nil (S : System σ ℓ ε ρ) (depth : ℕ) (s : σ) : S.settle depth [] s = (s, []) := by
  cases depth <;> rfl

/-- The run of `p` and then of the handlers it started. -/
def complete (S : System σ ℓ ε ρ) (depth : ℕ) (p : Async σ ℓ ε α) (s : σ) : Outcome σ ℓ ε α :=
  let o := p.run S.exec s
  let rest := S.settle depth (o.cmds.flatMap S.handlers) o.store
  ⟨o.result, rest.1, o.cmds ++ rest.2⟩

section Complete

variable {S : System σ ℓ ε ρ} {depth : ℕ} {p q : Async σ ℓ ε α} {s t : σ} {cs : List ℓ}

/-- A run whose commands start no handlers is the whole run. -/
theorem complete_of_quiet (h : ∀ c ∈ (p.run S.exec s).cmds, S.handlers c = []) :
    S.complete depth p s = p.run S.exec s := by
  simp only [complete, List.flatMap_eq_nil_iff.mpr h, settle_nil, List.append_nil]

/-- A program that comes to the run of another one, after commands that start no handlers. -/
theorem complete_of_run_eq (h : p.run S.exec s = (q.run S.exec t).after cs)
    (hcs : ∀ c ∈ cs, S.handlers c = []) :
    S.complete depth p s = (S.complete depth q t).after cs := by
  simp only [complete, h, Outcome.after, List.flatMap_append, List.flatMap_eq_nil_iff.mpr hcs,
    List.nil_append, List.append_assoc]

end Complete

end System

end Telima
