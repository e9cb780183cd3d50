import Telima.Async.Relational
import Mathlib.Data.List.Nodup

/-!
# Observers

A system `S'` observes a system `S` if it keeps more in its store, has commands beside those of `S`, and
starts handlers `S` does not start, none of which touches what `S` is about (`Observation`).  Then a run
of `S'` is a run of `S` if one looks at the part of the store, the commands and the threads of `S` only
(`Observation.exists_run`).
-/

namespace Telima

variable {σ σ' ℓ ℓ' ε ρ ρ' : Type}

/-- The commands that were performed, each with the store it was performed in, newest first. -/
def World.commands (w : World σ ℓ) : List (ℓ × σ) :=
  w.trace.filterMap fun e => e.kind.command?.map fun c => (c, e.before)

theorem World.commands_step {S : System σ ℓ ε ρ} (w : World σ ℓ) (i : ℕ) (c : ℓ) (n : ℕ) :
    (w.step S i c n).commands = (c, w.store) :: w.commands := by
  rw [World.step]
  generalize (S.handlers c).length = k
  induction k with
  | zero => rfl
  | succ k ih => exact ih

namespace Async

/-- The program as a part of a larger system, which has its result as one of its own. -/
def within (part : σ' → σ) (inj : ℓ → ℓ') (lift : ρ → ρ') (p : Async σ ℓ ε ρ) :
    Async σ' ℓ' ε ρ' :=
  (p.embed part inj).bind fun r => done (.ok (lift r))

variable {part : σ' → σ} {inj : ℓ → ℓ'} {lift : ρ → ρ'} (p : Async σ ℓ ε ρ)

theorem command?_within : (p.within part inj lift).command? = p.command?.map inj := by
  cases p with
  | done r => cases r <;> rfl
  | await c next reject => rfl
  | sync c next => rfl

theorem resume_within (s : σ') :
    (p.within part inj lift).resume s = (p.resume (part s)).within part inj lift := by
  cases p with
  | done r => cases r <;> rfl
  | await c next reject => rfl
  | sync c next => rfl

theorem rejected?_within (e : ε) : (p.within part inj lift).rejected? e =
    (p.rejected? e).map fun t => t.within part inj lift := by
  cases p with
  | done r => cases r <;> rfl
  | await c next reject => rfl
  | sync c next => rfl

theorem result?_within : (p.within part inj lift).result? = p.result?.map (Except.map lift) := by
  cases p with
  | done r => cases r <;> rfl
  | await c next reject => rfl
  | sync c next => rfl

theorem isSync_within : (p.within part inj lift).isSync = p.isSync := by
  cases p with
  | done r => cases r <;> rfl
  | await c next reject => rfl
  | sync c next => rfl

variable {p} {H : ℓ → Prop}

theorem Only.resume (h : p.Only H) (s : σ) : (p.resume s).Only H := by
  cases p with
  | done r => exact h
  | await c next reject => exact h.2.1 s
  | sync c next => exact h.2 s

theorem Only.rejected {e : ε} {t : Async σ ℓ ε ρ} (h : p.Only H) (ht : p.rejected? e = some t) :
    t.Only H := by
  cases p with
  | await c next reject =>
    rw [← Option.some.inj ht]
    exact h.2.2 e
  | _ => cases ht

theorem Only.command {c : ℓ} (h : p.Only H) (hc : p.command? = some c) : H c := by
  cases p with
  | done r => cases hc
  | await d next reject =>
    rw [← Option.some.inj hc]
    exact h.1
  | sync d next =>
    rw [← Option.some.inj hc]
    exact h.1

end Async

/-- How `S'` observes `S`. -/
structure Observation (S : System σ ℓ ε ρ) (S' : System σ' ℓ' ε ρ') where
  part : σ' → σ
  inj : ℓ → ℓ'
  /-- The command of `S` a command is, if it is one. -/
  inner? : ℓ' → Option ℓ
  lift : ρ → ρ'
  /-- The handlers that `S` does not start. -/
  observers : ℓ' → List (Async σ' ℓ' ε ρ')
  inner?_inj : ∀ c, inner? (inj c) = some c
  eq_inj : ∀ {c' c}, inner? c' = some c → c' = inj c
  exec_inj : ∀ c s, part (S'.exec (inj c) s) = S.exec c (part s)
  exec_of_none : ∀ {c'} s, inner? c' = none → part (S'.exec c' s) = part s
  handlers_inj : ∀ c, S'.handlers (inj c) =
    (S.handlers c).map (fun p => p.within part inj lift) ++ observers (inj c)
  handlers_of_none : ∀ {c'}, inner? c' = none → S'.handlers c' = observers c'
  observes : ∀ {c' p}, p ∈ observers c' → p.Only fun d => inner? d = none

namespace Observation

variable {S : System σ ℓ ε ρ} {S' : System σ' ℓ' ε ρ'} (O : Observation S S')

/-- A program of `S` as one of `S'`. -/
def within (p : Async σ ℓ ε ρ) : Async σ' ℓ' ε ρ' := p.within O.part O.inj O.lift

/-- The program performs no command of `S`. -/
def Observer (p : Async σ' ℓ' ε ρ') : Prop := p.Only fun d => O.inner? d = none

/-- The commands of `S` among those that were performed. -/
def innerCommands (w : World σ' ℓ') : List (ℓ × σ) :=
  w.commands.filterMap fun entry => (O.inner? entry.1).map fun c => (c, O.part entry.2)

/-- What `p'` shows of `S` is `p`; thread `i` of `p` is thread `names[i]` of `p'`. -/
structure Shows (names : List ℕ) (p' : Pool σ' ℓ' ε ρ') (p : Pool σ ℓ ε ρ) : Prop where
  store : p.world.store = O.part p'.world.store
  commands : p.world.commands = O.innerCommands p'.world
  length : names.length = p.threads.length
  nodup : names.Nodup
  inner : ∀ {i j : ℕ} {t}, names[i]? = some j → p.threads[i]? = some t →
    p'.threads[j]? = some (O.within t)
  observer : ∀ {j : ℕ} {t'}, p'.threads[j]? = some t' → j ∉ names → O.Observer t'
  current : ∀ {i : ℕ}, p.current = some i → ∃ j, names[i]? = some j ∧ p'.current = some j

variable {O} {names : List ℕ} {p' q' : Pool σ' ℓ' ε ρ'} {p q : Pool σ ℓ ε ρ} {i j : ℕ}
  {cond : σ → ℓ → Prop} {fault : ε → Prop}

namespace Shows

/-- The thread of `p` behind a thread of `p'`. -/
theorem exists_thread (h : O.Shows names p' p) (hj : j ∈ names) : ∃ (i : ℕ) (t : Async σ ℓ ε ρ),
    names[i]? = some j ∧ p.threads[i]? = some t ∧ p'.threads[j]? = some (O.within t) := by
  obtain ⟨i, hi⟩ := List.getElem?_of_mem hj
  have hlt : i < p.threads.length := by
    rw [← h.length]
    exact (List.getElem?_eq_some_iff.mp hi).1
  have ht : p.threads[i]? = some p.threads[i] := List.getElem?_eq_getElem hlt
  exact ⟨i, p.threads[i], hi, ht, h.inner hi ht⟩

theorem lt_of_mem (h : O.Shows names p' p) (hj : j ∈ names) : j < p'.threads.length := by
  obtain ⟨i, t, -, -, ht'⟩ := h.exists_thread hj
  exact (List.getElem?_eq_some_iff.mp ht').1

/-- Two threads have different names. -/
theorem name_inj (h : O.Shows names p' p) {i' : ℕ} (hi : names[i]? = some j)
    (hi' : names[i']? = some j) : i = i' := by
  obtain ⟨hlt, hname⟩ := List.getElem?_eq_some_iff.mp hi
  obtain ⟨hlt', hname'⟩ := List.getElem?_eq_some_iff.mp hi'
  exact (h.nodup.getElem_inj_iff).mp (hname.trans hname'.symm)

theorem mayRun (h : O.Shows names p' p) (hi : names[i]? = some j) (hrun : p'.MayRun j) :
    p.MayRun i := by
  cases hcurrent : p.current with
  | none => exact Or.inl hcurrent
  | some k =>
    obtain ⟨j', hk, hj'⟩ := h.current hcurrent
    rcases hrun with hnone | hsome
    · rw [hnone] at hj'
      cases hj'
    · rw [hsome] at hj'
      obtain rfl := Option.some.inj hj'
      exact Or.inr (by rw [hcurrent, h.name_inj hi hk])

/-- While an observer runs, no thread of `S` has the processor. -/
theorem current_eq_none (h : O.Shows names p' p) (hj : j ∉ names) (hrun : p'.MayRun j) :
    p.current = none := by
  cases hcurrent : p.current with
  | none => rfl
  | some k =>
    obtain ⟨j', hk, hj'⟩ := h.current hcurrent
    rcases hrun with hnone | hsome
    · rw [hnone] at hj'
      cases hj'
    · rw [hsome] at hj'
      obtain rfl := Option.some.inj hj'
      exact absurd (List.mem_of_getElem? hk) hj

/-- A thread of `S` goes on as `t`, and new threads start. -/
theorem replace_inner (h : O.Shows names p' p) (hi : names[i]? = some j) {t : Async σ ℓ ε ρ}
    {w : World σ ℓ} {w' : World σ' ℓ'} (hstore : w.store = O.part w'.store)
    (hcommands : w.commands = O.innerCommands w') (started : List (Async σ ℓ ε ρ))
    {observers : List (Async σ' ℓ' ε ρ')} (hobservers : ∀ o ∈ observers, O.Observer o) :
    O.Shows (names ++ List.range' p'.threads.length started.length)
      ⟨w', p'.threads.set j (O.within t) ++ (started.map O.within ++ observers),
        if (O.within t).isSync then some j else none⟩
      ⟨w, p.threads.set i t ++ started, if t.isSync then some i else none⟩ where
  store := hstore
  commands := hcommands
  length := by simp [h.length]
  nodup := by
    refine h.nodup.append List.nodup_range' fun k hk hnew => ?_
    have hlt := h.lt_of_mem hk
    obtain ⟨hle, -⟩ := List.mem_range'_1.mp hnew
    omega
  inner := by
    intro k j' t' hk ht'
    have hjlt : j < p'.threads.length := h.lt_of_mem (List.mem_of_getElem? hi)
    rcases Nat.lt_or_ge k names.length with hlt | hge
    · rw [List.getElem?_append_left hlt] at hk
      have hlt' : j' < p'.threads.length := h.lt_of_mem (List.mem_of_getElem? hk)
      rw [List.getElem?_append_left (by simpa [← h.length] using hlt), List.getElem?_set] at ht'
      rw [List.getElem?_append_left (by simpa using hlt'), List.getElem?_set]
      by_cases hik : i = k
      · subst hik
        obtain rfl : j = j' := Option.some.inj (hi.symm.trans hk)
        rw [if_pos rfl, if_pos (by simpa [← h.length] using hlt)] at ht'
        rw [if_pos rfl, if_pos hjlt, Option.some.inj ht']
      · have hjj' : j ≠ j' := fun heq => hik (h.name_inj hi (by rw [hk, heq]))
        rw [if_neg hik] at ht'
        rw [if_neg hjj']
        exact h.inner hk ht'
    · -- one of the new threads
      rw [List.getElem?_append_right (by simpa [← h.length] using hge), List.length_set,
        ← h.length] at ht'
      have hnew : k - names.length < started.length := (List.getElem?_eq_some_iff.mp ht').1
      rw [List.getElem?_append_right hge, List.getElem?_range' hnew] at hk
      obtain rfl := Option.some.inj hk
      rw [List.getElem?_append_right (by simp), List.getElem?_append_left (by simpa using hnew)]
      simp [ht']
  observer := by
    intro j' t' ht' hj'
    rw [List.mem_append, not_or] at hj'
    rcases Nat.lt_or_ge j' p'.threads.length with hlt | hge
    · have hne : j ≠ j' := fun heq => hj'.1 (heq ▸ List.mem_of_getElem? hi)
      rw [List.getElem?_append_left (by simpa using hlt), List.getElem?_set_ne hne] at ht'
      exact h.observer ht' hj'.1
    · have hle : started.length ≤ j' - p'.threads.length := by
        by_contra hlt
        exact hj'.2 (List.mem_range'_1.mpr ⟨hge, by omega⟩)
      rw [List.getElem?_append_right (by simpa using hge),
        List.getElem?_append_right (by simpa using hle)] at ht'
      exact hobservers t' (List.mem_of_getElem? ht')
  current := by
    intro k hk
    have hlt : i < names.length := (List.getElem?_eq_some_iff.mp hi).1
    have hsync : (O.within t).isSync = t.isSync := Async.isSync_within t
    cases ht : t.isSync with
    | false => simp [ht] at hk
    | true =>
      obtain rfl : i = k := by simpa [ht] using hk
      exact ⟨j, by rw [List.getElem?_append_left hlt, hi], by simp [hsync, ht]⟩

/-- An observer goes on as `t'`, and observers start. -/
theorem replace_observer (h : O.Shows names p' p) (hj : j ∉ names) (hrun : p'.MayRun j)
    {t' : Async σ' ℓ' ε ρ'} (ht' : O.Observer t') {w' : World σ' ℓ'}
    (hstore : O.part w'.store = O.part p'.world.store)
    (hcommands : O.innerCommands w' = O.innerCommands p'.world)
    {observers : List (Async σ' ℓ' ε ρ')} (hobservers : ∀ o ∈ observers, O.Observer o) :
    O.Shows names ⟨w', p'.threads.set j t' ++ observers, if t'.isSync then some j else none⟩ p where
  store := by rw [h.store, hstore]
  commands := by rw [h.commands, hcommands]
  length := h.length
  nodup := h.nodup
  inner := by
    intro k j' t hk ht
    have hmem : j' ∈ names := List.mem_of_getElem? hk
    have hne : j ≠ j' := fun heq => hj (heq ▸ hmem)
    rw [List.getElem?_append_left (by simpa using h.lt_of_mem hmem), List.getElem?_set_ne hne]
    exact h.inner hk ht
  observer := by
    intro j' t'' ht'' hj'
    rcases Nat.lt_or_ge j' p'.threads.length with hlt | hge
    · rw [List.getElem?_append_left (by simpa using hlt), List.getElem?_set] at ht''
      split_ifs at ht'' with heq
      · rw [← Option.some.inj ht'']
        exact ht'
      · exact h.observer ht'' hj'
    · rw [List.getElem?_append_right (by simpa using hge)] at ht''
      exact hobservers t'' (List.mem_of_getElem? ht'')
  current := by
    intro k hk
    rw [h.current_eq_none hj hrun] at hk
    cases hk

/-- One step: it is a step of `S`, or `S` does not see it. -/
theorem step (h : O.Shows names p' p)
    (hstep : Pool.Step S' (fun _ w c' => ∀ c ∈ O.inner? c', cond (O.part w.store) c) fault
      p' q') : ∃ q added, (q = p ∨ Pool.Step S (fun _ w c => cond w.store c) fault p q) ∧
        O.Shows (names ++ added) q' q := by
  cases hstep with
  | @act j t' c' hj hrun hc hcond =>
    by_cases hmem : j ∈ names
    · obtain ⟨i, t, hi, ht, hwithin⟩ := h.exists_thread hmem
      obtain rfl : O.within t = t' := Option.some.inj (hwithin.symm.trans hj)
      rw [within, Async.command?_within] at hc
      obtain ⟨c, hcommand, rfl⟩ := Option.map_eq_some_iff.mp hc
      have hadmitted : cond p.world.store c := by
        rw [h.store]
        exact hcond c (O.inner?_inj c)
      refine ⟨p.advance S i t c, List.range' p'.threads.length (S.handlers c).length,
        Or.inr (.act ht (h.mayRun hi hrun) hcommand hadmitted), ?_⟩
      have hresume : (O.within t).resume p'.world.store = O.within (t.resume p.world.store) := by
        rw [within, Async.resume_within, h.store]
        rfl
      rw [Pool.advance, Pool.advance, hresume, O.handlers_inj]
      refine h.replace_inner hi ?_ ?_ _ fun o ho => O.observes ho
      · rw [World.store_step, World.store_step, O.exec_inj, h.store]
      · rw [World.commands_step, innerCommands, World.commands_step, List.filterMap_cons,
          O.inner?_inj, h.commands, h.store]
        rfl
    · have hobserver : O.Observer t' := h.observer hj hmem
      have hnone : O.inner? c' = none := hobserver.command hc
      refine ⟨p, [], Or.inl rfl, ?_⟩
      rw [Pool.advance, O.handlers_of_none hnone, List.append_nil]
      refine h.replace_observer hmem hrun (hobserver.resume _) ?_ ?_ fun o ho => O.observes ho
      · rw [World.store_step, O.exec_of_none _ hnone]
      · rw [innerCommands, World.commands_step, List.filterMap_cons, hnone]
        rfl
  | @reject j t' t'' e hj hrun he ht'' =>
    by_cases hmem : j ∈ names
    · obtain ⟨i, t, hi, ht, hwithin⟩ := h.exists_thread hmem
      obtain rfl : O.within t = t' := Option.some.inj (hwithin.symm.trans hj)
      rw [within, Async.rejected?_within] at ht''
      obtain ⟨u, hu, rfl⟩ := Option.map_eq_some_iff.mp ht''
      refine ⟨p.replace i u, [], Or.inr (.reject ht (h.mayRun hi hrun) he hu), ?_⟩
      have hshows : O.Shows (names ++ List.range' p'.threads.length 0)
          ⟨p'.world, p'.threads.set j (O.within u) ++ ([].map O.within ++ []), _⟩
          ⟨p.world, p.threads.set i u ++ [], _⟩ :=
        h.replace_inner hi h.store h.commands [] fun o ho => absurd ho List.not_mem_nil
      simp only [List.map_nil, List.append_nil, List.range'_zero] at hshows
      rw [List.append_nil]
      exact hshows
    · have hobserver : O.Observer t' := h.observer hj hmem
      refine ⟨p, [], Or.inl rfl, ?_⟩
      have hshows : O.Shows names ⟨p'.world, p'.threads.set j t'' ++ [], _⟩ p :=
        h.replace_observer hmem hrun (hobserver.rejected ht'') rfl rfl fun o ho =>
          absurd ho List.not_mem_nil
      simpa [Pool.replace] using hshows

/-- The results of a thread. -/
theorem results (h : O.Shows names p' p) {i j : ℕ} (hi : names[i]? = some j) :
    p'.results[j]? = p.results[i]?.map (Option.map (Except.map O.lift)) := by
  have hlt : i < p.threads.length := by
    rw [← h.length]
    exact (List.getElem?_eq_some_iff.mp hi).1
  have ht : p.threads[i]? = some p.threads[i] := List.getElem?_eq_getElem hlt
  rw [Pool.results, Pool.results, List.getElem?_map, List.getElem?_map, ht, h.inner hi ht,
    Option.map_some, Option.map_some, Option.map_some, within, Async.result?_within]

end Shows

/-- The programs of `S` are the first threads. -/
theorem shows_init {s : σ'} {ps : List (Async σ ℓ ε ρ)} {os : List (Async σ' ℓ' ε ρ')}
    (hos : ∀ o ∈ os, O.Observer o) : O.Shows (List.range ps.length)
      (Pool.init s (ps.map O.within ++ os)) (Pool.init (O.part s) ps) where
  store := rfl
  commands := rfl
  length := List.length_range
  nodup := List.nodup_range
  inner := by
    intro i j t hi ht
    have hthread : ps[i]? = some t := ht
    have hlt : i < ps.length := (List.getElem?_eq_some_iff.mp ht).1
    obtain rfl : i = j := by simpa [hlt] using hi
    show (ps.map O.within ++ os)[i]? = _
    rw [List.getElem?_append_left (by simpa using hlt), List.getElem?_map, hthread,
      Option.map_some]
  observer := by
    intro j t' ht' hj
    have hge : ps.length ≤ j := by simpa using hj
    rw [Pool.init, List.getElem?_append_right (by simpa using hge)] at ht'
    exact hos t' (List.mem_of_getElem? ht')
  current := by
    intro i hi
    cases hi

/-- A run of `S'` is a run of `S`: it leaves the same of what `S` keeps, it has performed the same
commands of `S`, each in the same store, and the programs of `S` have the same results. -/
theorem exists_run (O : Observation S S') {s : σ'} {ps : List (Async σ ℓ ε ρ)}
    {os : List (Async σ' ℓ' ε ρ')} (hos : ∀ o ∈ os, O.Observer o)
    (hrun : Pool.Run S' (fun _ w c' => ∀ c ∈ O.inner? c', cond (O.part w.store) c) fault
      (Pool.init s (ps.map O.within ++ os)) p') :
    ∃ p, Pool.Run S (fun _ w c => cond w.store c) fault (Pool.init (O.part s) ps) p ∧
      p.world.store = O.part p'.world.store ∧ p.world.commands = O.innerCommands p'.world ∧
      ∀ i < ps.length, p'.results[i]? = p.results[i]?.map (Option.map (Except.map O.lift)) := by
  have hshows : ∃ p added, Pool.Run S (fun _ w c => cond w.store c) fault
      (Pool.init (O.part s) ps) p ∧ O.Shows (List.range ps.length ++ added) p' p := by
    induction hrun with
    | refl => exact ⟨_, [], .refl, by simpa using shows_init hos⟩
    | tail _ hstep ih =>
      obtain ⟨p, added, hp, hshows⟩ := ih
      obtain ⟨q, new, hq, hnew⟩ := hshows.step hstep
      rw [List.append_assoc] at hnew
      rcases hq with rfl | hq
      · exact ⟨_, _, hp, hnew⟩
      · exact ⟨q, _, hp.tail hq, hnew⟩
  obtain ⟨p, added, hp, hshows⟩ := hshows
  refine ⟨p, hp, hshows.store, hshows.commands, fun i hi => hshows.results ?_⟩
  rw [List.getElem?_append_left (by simpa using hi), List.getElem?_range hi]

end Observation

end Telima
