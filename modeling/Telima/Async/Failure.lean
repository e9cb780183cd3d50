import Telima.Async.Run

/-!
# A run in which one call fails

`Async.runReject` is the run of a program whose `k`-th awaited command has no effect and is rejected.
A program that only reads before it comes to a second one (`ComesTo`) throws, and leaves the store,
when one of these reads is rejected; later rejections are those of the second program.
-/

namespace Telima

variable {σ ℓ ε α β : Type}

namespace Async

/-- The run in which the `k`-th awaited command is rejected with `e`; `none` if the run awaits fewer
commands. -/
def runReject (exec : ℓ → σ → σ) (e : ε) : Async σ ℓ ε α → ℕ → σ → Option (Outcome σ ℓ ε α)
  | done _, _, _ => none
  | await _ _ reject, 0, s => some ((reject e).run exec s)
  | await c next _, k + 1, s => ((next s).runReject exec e k (exec c s)).map (Outcome.after [c])
  | sync c next, k, s => ((next s).runReject exec e k (exec c s)).map (Outcome.after [c])

/-- The run in which one awaited command is rejected, or none. -/
def runFailing (exec : ℓ → σ → σ) (p : Async σ ℓ ε α) (failure : Option (ℕ × ε)) (s : σ) :
    Option (Outcome σ ℓ ε α) :=
  match failure with
  | none => some (p.run exec s)
  | some (k, e) => p.runReject exec e k s

section RunReject

variable {exec : ℓ → σ → σ} {e : ε} {s : σ} {k : ℕ}

@[simp] theorem runReject_queryE_bind_zero (c : ℓ) (f : σ → Except ε α) (g : α → Async σ ℓ ε β) :
    ((queryE c f).bind g).runReject exec e 0 s = some ⟨.error e, s, []⟩ := rfl

@[simp] theorem runReject_queryE_bind_succ (c : ℓ) (f : σ → Except ε α) (g : α → Async σ ℓ ε β) :
    ((queryE c f).bind g).runReject exec e (k + 1) s =
      (((done (f s)).bind g).runReject exec e k (exec c s)).map (Outcome.after [c]) := rfl

/-- The failure is the one of `interrupt`. -/
theorem interrupt_reject (p : Async σ ℓ ε α) (k : ℕ) (s : σ) :
    p.interrupt exec (.reject k e) s =
      ((p.runReject exec e k s).map Outcome.store).getD (p.run exec s).store := by
  induction p generalizing k s with
  | done r => rfl
  | await c next reject ih _ =>
    cases k with
    | zero => rfl
    | succ k =>
      rw [interrupt, ih, runReject, Option.map_map]
      rfl
  | sync c next ih =>
    rw [interrupt, ih, runReject, Option.map_map]
    rfl

/-- What the commands of a program keep is kept when one of them is rejected. -/
theorem Only.runReject_store {H : ℓ → Prop} {I : σ → Prop}
    (hI : ∀ c s, H c → I s → I (exec c s)) {p : Async σ ℓ ε α} (hp : p.Only H) {o : Outcome σ ℓ ε α}
    (ho : p.runReject exec e k s = some o) (hs : I s) : I o.store := by
  induction p generalizing k s o with
  | done r => cases ho
  | await c next reject ih _ =>
    cases k with
    | zero =>
      obtain rfl := Option.some.inj ho
      exact (hp.2.2 e).run_store exec hI hs
    | succ k =>
      obtain ⟨o', ho', rfl⟩ := Option.map_eq_some_iff.mp ho
      have hkept : I o'.store := ih s (hp.2.1 s) ho' (hI c s hp.1 hs)
      exact hkept
  | sync c next ih =>
    obtain ⟨o', ho', rfl⟩ := Option.map_eq_some_iff.mp ho
    have hkept : I o'.store := ih s (hp.2 s) ho' (hI c s hp.1 hs)
    exact hkept

end RunReject

/-! ### Programs that catch nothing -/

/-- The program throws the error of a command that is rejected. -/
def Propagates : Async σ ℓ ε α → Prop
  | done _ => True
  | await _ next reject => (∀ e, reject e = throw e) ∧ ∀ s, (next s).Propagates
  | sync _ next => ∀ s, (next s).Propagates

section Propagates

variable {exec : ℓ → σ → σ} {e : ε} {s : σ} {k : ℕ} {p : Async σ ℓ ε α}

theorem Propagates.runReject_result (hp : p.Propagates) {o : Outcome σ ℓ ε α}
    (ho : p.runReject exec e k s = some o) : o.result = .error e := by
  induction p generalizing k s o with
  | done r => cases ho
  | await c next reject ih _ =>
    cases k with
    | zero =>
      rw [runReject, hp.1] at ho
      obtain rfl := Option.some.inj ho
      rfl
    | succ k =>
      obtain ⟨o', ho', rfl⟩ := Option.map_eq_some_iff.mp ho
      have hresult : o'.result = .error e := ih s (hp.2 s) ho'
      exact hresult
  | sync c next ih =>
    obtain ⟨o', ho', rfl⟩ := Option.map_eq_some_iff.mp ho
    have hresult : o'.result = .error e := ih s (hp s) ho'
    exact hresult

theorem Propagates.bind {f : α → Async σ ℓ ε β} (hp : p.Propagates) (hf : ∀ a, (f a).Propagates) :
    (p.bind f).Propagates := by
  induction p with
  | done r =>
    cases r with
    | ok a => exact hf a
    | error e => trivial
  | await c next reject ih _ =>
    refine ⟨fun e => ?_, fun s => ih s (hp.2 s)⟩
    show (reject e).bind f = throw e
    rw [hp.1]
    rfl
  | sync c next ih => exact fun s => ih s (hp s)

theorem propagates_done (r : Except ε α) : (done r : Async σ ℓ ε α).Propagates := trivial

theorem propagates_queryE (c : ℓ) (f : σ → Except ε α) :
    (queryE c f : Async σ ℓ ε α).Propagates := ⟨fun _ => rfl, fun _ => trivial⟩

theorem propagates_query (c : ℓ) (f : σ → α) : (query c f : Async σ ℓ ε α).Propagates :=
  ⟨fun _ => rfl, fun _ => trivial⟩

theorem propagates_emit (c : ℓ) : (emit c : Async σ ℓ ε Unit).Propagates := fun _ => trivial

theorem Propagates.embed {σ' ℓ' : Type} {part : σ' → σ} {inj : ℓ → ℓ'} (hp : p.Propagates) :
    (p.embed part inj).Propagates := by
  induction p with
  | done r => trivial
  | await c next reject ih _ =>
    refine ⟨fun e => ?_, fun s => ih (part s) (hp.2 (part s))⟩
    show (reject e).embed part inj = throw e
    rw [hp.1]
    rfl
  | sync c next ih => exact fun s => ih (part s) (hp (part s))

end Propagates

/-! ### Programs that read first -/

/-- In the store `s`, `p` comes to `q` after `n` awaited commands.  They satisfy `H` and leave the
store, and `p` throws when one of them is rejected. -/
inductive ComesTo (exec : ℓ → σ → σ) (H : ℓ → Prop) (s : σ) :
    ℕ → Async σ ℓ ε α → Async σ ℓ ε α → Prop
  | refl (p : Async σ ℓ ε α) : ComesTo exec H s 0 p p
  | await {n : ℕ} {c : ℓ} {next : σ → Async σ ℓ ε α} {reject : ε → Async σ ℓ ε α}
      {q : Async σ ℓ ε α} (hc : H c) (hexec : exec c s = s) (hreject : ∀ e, reject e = throw e)
      (h : ComesTo exec H s n (next s) q) : ComesTo exec H s (n + 1) (await c next reject) q
  | sync {n : ℕ} {c : ℓ} {next : σ → Async σ ℓ ε α} {q : Async σ ℓ ε α} (hc : H c)
      (hexec : exec c s = s) (h : ComesTo exec H s n (next s) q) :
      ComesTo exec H s n (sync c next) q

namespace ComesTo

variable {exec : ℓ → σ → σ} {H : ℓ → Prop} {s : σ} {n k : ℕ} {p q : Async σ ℓ ε α} {e : ε}

/-- A rejected read. -/
theorem runReject_of_lt (h : ComesTo exec H s n p q) (hk : k < n) :
    ∃ cs, (∀ c ∈ cs, H c) ∧ p.runReject exec e k s = some ⟨.error e, s, cs⟩ := by
  induction h generalizing k with
  | refl p => omega
  | @await n c next reject q hc hexec hreject _ ih =>
    cases k with
    | zero => exact ⟨[], fun _ h => absurd h List.not_mem_nil, by rw [runReject, hreject]; rfl⟩
    | succ k =>
      obtain ⟨cs, hcs, hrun⟩ := ih (Nat.lt_of_succ_lt_succ hk)
      refine ⟨c :: cs, List.forall_mem_cons.mpr ⟨hc, hcs⟩, ?_⟩
      rw [runReject, hexec, hrun]
      rfl
  | @sync n c next q hc hexec _ ih =>
    obtain ⟨cs, hcs, hrun⟩ := ih hk
    refine ⟨c :: cs, List.forall_mem_cons.mpr ⟨hc, hcs⟩, ?_⟩
    rw [runReject, hexec, hrun]
    rfl

/-- A rejection after the reads. -/
theorem runReject_add (h : ComesTo exec H s n p q) (k : ℕ) :
    ∃ cs, (∀ c ∈ cs, H c) ∧
      p.runReject exec e (n + k) s = (q.runReject exec e k s).map (Outcome.after cs) := by
  induction h with
  | refl p =>
    refine ⟨[], fun _ h => absurd h List.not_mem_nil, ?_⟩
    rw [Nat.zero_add]
    exact (Option.map_id' (x := p.runReject exec e k s)).symm
  | @await n c next reject q hc hexec hreject _ ih =>
    obtain ⟨cs, hcs, hrun⟩ := ih
    refine ⟨c :: cs, List.forall_mem_cons.mpr ⟨hc, hcs⟩, ?_⟩
    rw [Nat.add_right_comm, runReject, hexec, hrun, Option.map_map]
    rfl
  | @sync n c next q hc hexec _ ih =>
    obtain ⟨cs, hcs, hrun⟩ := ih
    refine ⟨c :: cs, List.forall_mem_cons.mpr ⟨hc, hcs⟩, ?_⟩
    rw [runReject, hexec, hrun, Option.map_map]
    rfl

theorem query_bind {c : ℓ} {f : σ → β} {g : β → Async σ ℓ ε α} (hc : H c) (hexec : exec c s = s)
    (h : ComesTo exec H s n (g (f s)) q) : ComesTo exec H s (n + 1) ((query c f).bind g) q :=
  .await hc hexec (fun _ => rfl) h

theorem read_bind {c : ℓ} {f : σ → β} {g : β → Async σ ℓ ε α} (hc : H c) (hexec : exec c s = s)
    (h : ComesTo exec H s n (g (f s)) q) : ComesTo exec H s n ((read c f).bind g) q :=
  .sync hc hexec h

/-- The rest of a program whose first part only reads. -/
theorem bind {p' : Async σ ℓ ε β} {q' : Async σ ℓ ε β} {f : β → Async σ ℓ ε α}
    (h : ComesTo exec H s n p' q') : ComesTo exec H s n (p'.bind f) (q'.bind f) := by
  induction h with
  | refl p => exact .refl _
  | await hc hexec hreject _ ih =>
    exact .await hc hexec (fun e => by rw [hreject]; rfl) ih
  | sync hc hexec _ ih => exact .sync hc hexec ih

theorem bind_ok {p' : Async σ ℓ ε β} {b : β} {f : β → Async σ ℓ ε α}
    (h : ComesTo exec H s n p' (done (.ok b))) : ComesTo exec H s n (p'.bind f) (f b) := h.bind

theorem trans {m : ℕ} {r : Async σ ℓ ε α} (h : ComesTo exec H s n p q)
    (h' : ComesTo exec H s m q r) : ComesTo exec H s (n + m) p r := by
  induction h with
  | refl p =>
    rw [Nat.zero_add]
    exact h'
  | await hc hexec hreject _ ih =>
    rw [Nat.add_right_comm]
    exact .await hc hexec hreject (ih h')
  | sync hc hexec _ ih => exact .sync hc hexec (ih h')

end ComesTo

end Async

end Telima
