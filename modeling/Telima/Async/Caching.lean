import Telima.Async.History
import Telima.Async.Relational
import Telima.Async.RelyGuarantee

/-!
# Caches

A function that asks a slow source keeps the answer for some time, and the calls of that time use what
is kept.  A `TtlCache` says which commands ask the source, which keep an answer, and until when.  Any number
of threads may do so at once, and the source may change meanwhile.

If every thread keeps an answer at most `lag` after it was given (`Prompt`), then whatever is in the cache
was answered less than its life and `lag` before its deadline (`Backed`), and a call is given an answer
that was not older when it came, or one the source gave it (`Served`).
-/

namespace Telima

variable {σ ℓ ε α κ β ρ : Type}

/-! ### Moments before a step -/

namespace World

variable {w w' : World σ ℓ} {i k : ℕ} {c : ℓ}

theorem getElem?_history_of_suffix (h : w.trace <:+ w'.trace) (hk : k < w.moment) :
    w'.history[k]? = w.history[k]? := by
  obtain ⟨newer, hnewer⟩ := h
  have hhistory : w'.history = w.history ++ newer.reverse := by
    rw [history, ← hnewer, List.reverse_append, history]
  rw [hhistory, List.getElem?_append_left (by rwa [length_history])]

theorem DidAt.of_suffix (hd : w.DidAt k i c) (h : w.trace <:+ w'.trace) : w'.DidAt k i c := by
  rw [DidAt, getElem?_history_of_suffix h hd.lt]
  exact hd

theorem storeAt_of_suffix (h : w.trace <:+ w'.trace) (hk : k < w.moment) :
    w'.storeAt k = w.storeAt k := by
  have hlength : k < w.history.length := by rwa [length_history]
  rw [storeAt, storeAt, getElem?_history_of_suffix h hk, List.getElem?_eq_getElem hlength]
  rfl

theorem moment_lt_step {S : System σ ℓ ε ρ} {n : ℕ} : w.moment < (w.step S i c n).moment := by
  have hspawned : (w.act S.exec i c).trace <:+ (w.step S i c n).trace := trace_spawnMany_suffix
  exact hspawned.length_le

theorem didAt_step {S : System σ ℓ ε ρ} {n : ℕ} :
    (w.step S i c n).DidAt w.moment i c ∧ (w.step S i c n).storeAt w.moment = w.store := by
  have hspawned : (w.act S.exec i c).trace <:+ (w.step S i c n).trace := trace_spawnMany_suffix
  have hlt : w.moment < (w.act S.exec i c).moment := Nat.lt_succ_self _
  have hdid : (w.act S.exec i c).DidAt w.moment i c := didAt_act.mpr (Or.inr ⟨rfl, rfl, rfl⟩)
  refine ⟨hdid.of_suffix hspawned, ?_⟩
  rw [storeAt_of_suffix hspawned hlt, storeAt_act le_rfl, storeAt_moment]

theorem didAt_spawn {n : ℕ} {d : ℓ} : (w.spawn n d).DidAt k i c ↔ w.DidAt k i c := by
  have hhistory : (w.spawn n d).history = w.history ++ [⟨n, .spawned d, w.store⟩] :=
    List.reverse_cons
  unfold DidAt
  rw [hhistory]
  rcases Nat.lt_trichotomy k w.history.length with hlt | rfl | hgt
  · rw [List.getElem?_append_left hlt]
  · simp
  · have hlength : (w.history ++ [(⟨n, .spawned d, w.store⟩ : Event σ ℓ)]).length ≤ k := by
      rw [List.length_append]
      exact hgt
    rw [List.getElem?_eq_none hgt.le, List.getElem?_eq_none hlength]

/-- What has been done after a step was done before, or is the step. -/
theorem DidAt.of_step {S : System σ ℓ ε ρ} {j n : ℕ} {d : ℓ} (h : (w.step S j d n).DidAt k i c) :
    w.DidAt k i c ∨ (k = w.moment ∧ j = i ∧ d = c) := by
  have hact : (w.act S.exec j d).DidAt k i c := by
    rw [step] at h
    generalize (S.handlers d).length = count at h
    induction count with
    | zero => exact h
    | succ count ih => exact ih (didAt_spawn.mp h)
  exact didAt_act.mp hact

/-- The last answer was given at some moment. -/
theorem exists_moment_of_lastAnswer {f : ℓ → σ → Option β} {b : β}
    (h : w.lastAnswer i f = some b) : ∃ m c, w.DidAt m i c ∧ f c (w.storeAt m) = some b := by
  obtain ⟨newer, e, older, htrace, he, -⟩ := List.findSome?_eq_some_iff.mp h
  have hentry : w.history[older.length]? = some e := by
    rw [history, htrace]
    simp
  obtain ⟨tid, kind, before⟩ := e
  cases kind with
  | spawned c => cases he
  | did c =>
    split_ifs at he with htid
    refine ⟨older.length, c, ⟨before, by rw [hentry, ← htid]⟩, ?_⟩
    rw [storeAt, hentry]
    exact he

end World

namespace Protocol

variable {S : System σ ℓ ε ρ} {P : Protocol S} {i : ℕ} {A : World σ ℓ → Prop}

/-- What was so stays so. -/
def Historic (A : World σ ℓ → Prop) : Prop := ∀ ⦃w w'⦄, w.trace <:+ w'.trace → A w → A w'

theorem historic_didAt {k : ℕ} {c : ℓ} : Historic fun w : World σ ℓ => w.DidAt k i c :=
  fun _ _ hsuffix hw => hw.of_suffix hsuffix

theorem historic_lt_moment {k : ℕ} : Historic fun w : World σ ℓ => k < w.moment :=
  fun _ _ hsuffix hw => hw.trans_le hsuffix.length_le

theorem Historic.stable (hA : Historic A) : P.Stable i A := by
  rintro w _ ⟨j, c, n, -, -, -, -, -, -, -, rfl⟩ hw
  exact hA World.trace_step_suffix hw

/-- What every command had grounds for in the past, if the next one has too. -/
theorem grounds_step {R : ℕ → ℕ → ℓ → World σ ℓ → Prop} (hR : ∀ k j d, Historic (R k j d))
    {w : World σ ℓ} {c : ℓ} {n : ℕ} (h : ∀ k j d, w.DidAt k j d → R k j d w)
    (hc : R w.moment i c w) (k j : ℕ) (d : ℓ) (hd : (w.step S i c n).DidAt k j d) :
    R k j d (w.step S i c n) := by
  rcases hd.of_step with hd | ⟨rfl, rfl, rfl⟩
  · exact hR k j d World.trace_step_suffix (h k j d hd)
  · exact hR _ _ _ World.trace_step_suffix hc

/-- Whatever a program does, it does not change the past. -/
theorem wp_historic (hA : Historic A) {p : Async σ ℓ ε α} {Q : Except ε α → World σ ℓ → Prop}
    {w : World σ ℓ} (h : P.wp i p Q w) (hw : A w) : P.wp i p (fun r w => Q r w ∧ A w) w := by
  induction p generalizing w with
  | done r => exact ⟨h, hw⟩
  | await c next reject ih ihr =>
    intro w' hw' hinv
    have hA' : A w' := hA.stable.interferes hw' hw
    obtain ⟨hact, hrej⟩ := h w' hw' hinv
    refine ⟨fun hc => ⟨(hact hc).1, fun n hn hf => ?_⟩, fun e he => ihr e (hrej e he) hA'⟩
    exact ih _ ((hact hc).2 n hn hf) (hA World.trace_step_suffix hA')
  | sync c next ih =>
    intro w' hw' hinv hc
    have hA' : A w' := hA.stable.interferes hw' hw
    refine ⟨(h w' hw' hinv hc).1, fun n hn hf => ?_⟩
    exact ih _ ((h w' hw' hinv hc).2 n hn hf) (hA World.trace_step_suffix hA')

end Protocol

/-! ### Caches -/

/-- A cache of the answers of a source, by keys `κ`. -/
structure TtlCache (S : System σ ℓ ε ρ) (κ β : Type) where
  now : σ → ℕ
  /-- What is kept under a key, and until when. -/
  entry : σ → κ → Option (β × ℤ)
  /-- What the source answers a command, and for how long the answer is good. -/
  answer : ℓ → σ → κ → Option (β × ℤ)
  /-- What a command keeps, and until when. -/
  fill : ℓ → σ → κ → Option (β × ℤ)
  entry_exec : ∀ {c s k kept}, entry (S.exec c s) k = some kept →
    fill c s k = some kept ∨ entry s k = some kept

namespace TtlCache

variable {S : System σ ℓ ε ρ} (C : TtlCache S κ β)

/-- The answer to a command, and when it was given. -/
def answerAt (k : κ) (c : ℓ) (s : σ) : Option ((β × ℤ) × ℕ) :=
  (C.answer c s k).map fun answer => (answer, C.now s)

/-- The source answered `b` at moment `m`, good for `life`. -/
def AnsweredAt (w : World σ ℓ) (m : ℕ) (k : κ) (b : β) (life : ℤ) : Prop :=
  ∃ i c, w.DidAt m i c ∧ C.answer c (w.storeAt m) k = some (b, life)

/-- A thread keeps an answer at most `lag` after it has got it. -/
def Prompt (lag i : ℕ) (w : World σ ℓ) (c : ℓ) : Prop :=
  ∀ k kept, C.fill c w.store k = some kept →
    ∀ answer t, w.lastAnswer i (C.answerAt k) = some (answer, t) → C.now w.store ≤ t + lag

/-- A thread keeps the last answer it has got, no longer than it is good. -/
def KeepsAnswer (i : ℕ) (w : World σ ℓ) (c : ℓ) : Prop :=
  ∀ k b deadline, C.fill c w.store k = some (b, deadline) →
    ∃ life t, w.lastAnswer i (C.answerAt k) = some ((b, life), t) ∧ deadline ≤ C.now w.store + life

/-- What is kept was answered, less than its life and `lag` before its deadline. -/
def Backed (lag : ℕ) (w : World σ ℓ) : Prop :=
  ∀ k b deadline, C.entry w.store k = some (b, deadline) →
    ∃ m life, C.AnsweredAt w m k b life ∧ deadline ≤ C.now (w.storeAt m) + life + lag

/-- Thread `i`, which looked at the cache at moment `l`, has got the answer since. -/
def Loaded (i l : ℕ) (k : κ) (b : β) (life : ℤ) (w : World σ ℓ) : Prop :=
  (∃ t, w.lastAnswer i (C.answerAt k) = some ((b, life), t)) ∧
    ∃ m, l < m ∧ C.AnsweredAt w m k b life

/-- What a thread was given that looked at the cache at moment `l`: something the source has answered
since, or less than its life and `lag` before. -/
def Served (lag l : ℕ) (k : κ) (b : β) (w : World σ ℓ) : Prop :=
  ∃ m life, C.AnsweredAt w m k b life ∧
    (l < m ∨ (C.now (w.storeAt l) : ℤ) < C.now (w.storeAt m) + life + lag)

variable {C} {w w' : World σ ℓ} {i j l m n lag : ℕ} {k : κ} {b : β} {c : ℓ} {life : ℤ}

/-! ### Commands that keep an answer -/

/-- A command that keeps nothing keeps no answer for too long. -/
theorem keepsAnswer_of_not_fill (hc : ∀ k, C.fill c w.store k = none) : C.KeepsAnswer i w c := by
  intro k b deadline hfill
  rw [hc] at hfill
  cases hfill

/-- A command is prompt if it is for the keys under which it may keep something. -/
theorem prompt_iff {keys : List κ} (hkeys : ∀ k kept, C.fill c w.store k = some kept → k ∈ keys) :
    C.Prompt lag i w c ↔ ∀ k ∈ keys, (C.fill c w.store k).isSome = true →
      ((w.lastAnswer i (C.answerAt k)).all fun answer =>
        decide (C.now w.store ≤ answer.2 + lag)) = true := by
  constructor
  · intro h k _ hfill
    obtain ⟨kept, hkept⟩ := Option.isSome_iff_exists.mp hfill
    cases hlast : w.lastAnswer i (C.answerAt k) with
    | none => rfl
    | some answer => exact decide_eq_true (h k kept hkept answer.1 answer.2 hlast)
  · intro h k kept hkept answer t hlast
    have hall := h k (hkeys k kept hkept) (by rw [hkept]; rfl)
    rw [hlast] at hall
    exact of_decide_eq_true hall

/-- Whether a command is prompt can be told from the keys under which it may keep something. -/
def decidablePrompt (keys : List κ) (hkeys : ∀ k kept, C.fill c w.store k = some kept → k ∈ keys) :
    Decidable (C.Prompt lag i w c) :=
  decidable_of_iff _ (prompt_iff hkeys).symm

/-! ### What was answered -/

theorem AnsweredAt.lt (h : C.AnsweredAt w m k b life) : m < w.moment := by
  obtain ⟨i, c, hdid, -⟩ := h
  exact hdid.lt

theorem AnsweredAt.of_suffix (h : C.AnsweredAt w m k b life) (hsuffix : w.trace <:+ w'.trace) :
    C.AnsweredAt w' m k b life := by
  have hstore := World.storeAt_of_suffix hsuffix h.lt
  obtain ⟨i, c, hdid, hanswer⟩ := h
  exact ⟨i, c, hdid.of_suffix hsuffix, by rwa [hstore]⟩

theorem Served.of_suffix (h : C.Served lag l k b w) (hl : l < w.moment)
    (hsuffix : w.trace <:+ w'.trace) : C.Served lag l k b w' := by
  obtain ⟨m, life, hm, hold⟩ := h
  refine ⟨m, life, hm.of_suffix hsuffix, ?_⟩
  rwa [World.storeAt_of_suffix hsuffix hl, World.storeAt_of_suffix hsuffix hm.lt]

/-- What was served, where every answer is good for the same time. -/
theorem Served.exists_answeredAt {t : ℕ} (h : C.Served lag l k b w)
    (hlife : ∀ c s b life, C.answer c s k = some (b, life) → life = t) :
    ∃ m, C.AnsweredAt w m k b t ∧
      (l < m ∨ C.now (w.storeAt l) < C.now (w.storeAt m) + t + lag) := by
  obtain ⟨m, life, hm, hold⟩ := h
  obtain ⟨i, c, -, hanswer⟩ := id hm
  obtain rfl := hlife _ _ _ _ hanswer
  exact ⟨m, hm, hold.imp_right fun hlt => by exact_mod_cast hlt⟩

/-- What the last answer of a thread was, and when. -/
theorem exists_answeredAt {t : ℕ} (h : w.lastAnswer i (C.answerAt k) = some ((b, life), t)) :
    ∃ m, C.AnsweredAt w m k b life ∧ C.now (w.storeAt m) = t := by
  obtain ⟨m, c, hdid, hanswer⟩ := World.exists_moment_of_lastAnswer h
  obtain ⟨answer, hb, hpair⟩ := Option.map_eq_some_iff.mp hanswer
  obtain ⟨rfl, rfl⟩ := Prod.mk.inj hpair
  exact ⟨m, ⟨i, c, hdid, hb⟩, rfl⟩

/-- One step: a thread that keeps an answer does so in time. -/
theorem Backed.step (h : C.Backed lag w) (hprompt : C.Prompt lag i w c)
    (hkeeps : C.KeepsAnswer i w c) : C.Backed lag (w.step S i c n) := by
  have hsuffix : w.trace <:+ (w.step S i c n).trace := World.trace_step_suffix
  intro k b deadline hentry
  rw [World.store_step] at hentry
  have hkept : ∃ m life, C.AnsweredAt w m k b life ∧
      deadline ≤ C.now (w.storeAt m) + life + lag := by
    rcases C.entry_exec hentry with hfill | hentry
    · obtain ⟨life, t, hlast, hdeadline⟩ := hkeeps k b deadline hfill
      obtain ⟨m, hm, hnow⟩ := exists_answeredAt hlast
      have hlag := hprompt k _ hfill _ t hlast
      exact ⟨m, life, hm, by rw [hnow]; omega⟩
    · exact h k b deadline hentry
  obtain ⟨m, life, hm, hdeadline⟩ := hkept
  refine ⟨m, life, hm.of_suffix hsuffix, ?_⟩
  rwa [World.storeAt_of_suffix hsuffix hm.lt]

/-- What the threads that use a cache promise each other. -/
def protocol (C : TtlCache S κ β) (lag : ℕ) (fault : ε → Prop) : Protocol S where
  cond := C.Prompt lag
  fault := fault
  inv := C.Backed lag
  guar := C.KeepsAnswer
  inv_step hinv hcond hguar _ _ := hinv.step hcond hguar

variable {fault : ε → Prop}

/-! ### What a thread may rely on -/

theorem stable_loaded {P : Protocol S} : P.Stable i (C.Loaded i l k b life) := by
  rintro w _ ⟨j, d, n, hj, -, -, -, -, -, -, rfl⟩ ⟨⟨t, hlast⟩, m, hlm, hm⟩
  refine ⟨⟨t, ?_⟩, m, hlm, hm.of_suffix World.trace_step_suffix⟩
  rwa [World.lastAnswer_step_of_not (Or.inl hj)]

/-- An answer that a thread gets after it has looked at the cache. -/
theorem loaded_step (hl : l < w.moment) (hanswer : C.answer c w.store k = some (b, life)) :
    C.Loaded i l k b life (w.step S i c n) := by
  obtain ⟨hdid, hstore⟩ := World.didAt_step (S := S) (w := w) (i := i) (c := c) (n := n)
  refine ⟨⟨C.now w.store, World.lastAnswer_step_self ?_⟩, w.moment, hl, i, c, hdid, ?_⟩
  · rw [answerAt, hanswer, Option.map_some]
  · rwa [hstore]

/-- A command that asks for nothing under the key. -/
theorem Loaded.step (h : C.Loaded i l k b life w) (hanswer : C.answer c w.store k = none) :
    C.Loaded i l k b life (w.step S i c n) := by
  obtain ⟨⟨t, hlast⟩, m, hlm, hm⟩ := h
  refine ⟨⟨t, ?_⟩, m, hlm, hm.of_suffix World.trace_step_suffix⟩
  rw [World.lastAnswer_step_of_not]
  · exact hlast
  · exact Or.inr (by rw [answerAt, hanswer, Option.map_none])

theorem Loaded.served (h : C.Loaded i l k b life w) : C.Served lag l k b w := by
  obtain ⟨-, m, hlm, hm⟩ := h
  exact ⟨m, life, hm, Or.inl hlm⟩

/-- What a thread finds in the cache. -/
theorem served_of_entry (hinv : C.Backed lag w) {d : ℤ}
    (hentry : C.entry w.store k = some (b, d)) (hlive : (C.now w.store : ℤ) < d) :
    C.Served lag w.moment k b (w.step S i c n) := by
  obtain ⟨m, life, hm, hdeadline⟩ := hinv k b d hentry
  have hsuffix : w.trace <:+ (w.step S i c n).trace := World.trace_step_suffix
  obtain ⟨-, hstore⟩ := World.didAt_step (S := S) (w := w) (i := i) (c := c) (n := n)
  refine ⟨m, life, hm.of_suffix hsuffix, Or.inr ?_⟩
  rw [hstore, World.storeAt_of_suffix hsuffix hm.lt]
  omega

end TtlCache

/-- A thread that has a result has ended. -/
theorem Pool.thread_of_results {p : Pool σ ℓ ε ρ} {i : ℕ} {r : Except ε ρ}
    (h : p.results[i]? = some (some r)) : p.threads[i]? = some (.done r) := by
  rw [Pool.results, List.getElem?_map] at h
  obtain ⟨t, ht, hresult⟩ := Option.map_eq_some_iff.mp h
  cases t with
  | done r' => rw [ht, Option.some.inj hresult]
  | await c next reject => cases hresult
  | sync c next => cases hresult

/-! ### A call that uses a cache -/

/-- Use what is kept; else load it, and keep it. -/
def Async.cached (look : ℓ) (kept : σ → Option α) (load : Async σ ℓ ε α) (keep : α → ℓ) :
    Async σ ℓ ε α :=
  (Async.read look kept).bind fun cached =>
    match cached with
    | some a => pure a
    | none => load.bind fun a => (Async.emit (keep a)).bind fun _ => pure a

namespace TtlCache

variable {S : System σ ℓ ε ρ} {C : TtlCache S κ β} {lag i : ℕ} {fault : ε → Prop} {K : κ → Prop}
  {part : α → κ → β} {d : α → κ → ℤ}

/-- What a call returns was served, under each of its keys. -/
def Returned (C : TtlCache S κ β) (lag i : ℕ) (look : ℓ) (K : κ → Prop) (part : α → κ → β)
    (r : Except ε α) (w : World σ ℓ) : Prop :=
  ∀ a, r = .ok a → ∃ l, w.DidAt l i look ∧ ∀ k, K k → C.Served lag l k (part a k) w

theorem historic_returned {look : ℓ} (r : Except ε α) :
    Protocol.Historic (C.Returned lag i look K part r) := by
  intro w w' hsuffix hw a ha
  obtain ⟨l, hl, hserved⟩ := hw a ha
  exact ⟨l, hl.of_suffix hsuffix, fun k hk => (hserved k hk).of_suffix hl.lt hsuffix⟩

/-- The call: what it finds is live, what it loads was answered since it looked, and that is what it
keeps. -/
theorem wp_cached {look : ℓ} {kept : σ → Option α} {load : Async σ ℓ ε α} {keep : α → ℓ}
    (hlook : ∀ s k, C.fill look s k = none)
    (hkept : ∀ s a, kept s = some a → ∀ k, K k →
      ∃ deadline, C.entry s k = some (part a k, deadline) ∧ (C.now s : ℤ) < deadline)
    (hload : ∀ l w, l < w.moment → (C.protocol lag fault).wp i load
      (fun r w => ∀ a, r = .ok a → ∀ k, K k → C.Loaded i l k (part a k) (d a k) w) w)
    (hkeep : ∀ a s k b deadline, C.fill (keep a) s k = some (b, deadline) →
      K k ∧ b = part a k ∧ deadline ≤ C.now s + d a k)
    (hsilent : ∀ a s k, C.answer (keep a) s k = none) (w : World σ ℓ) :
    (C.protocol lag fault).wp i (Async.cached look kept load keep) (C.Returned lag i look K part)
      w := by
  refine Protocol.wp_read_bind (Protocol.stable_const i True) trivial fun v _ hinv _ => ?_
  refine ⟨keepsAnswer_of_not_fill (hlook v.store), fun n _ _ => ?_⟩
  obtain ⟨hdid, -⟩ := World.didAt_step (S := S) (w := v) (i := i) (c := look) (n := n)
  cases hcached : kept v.store with
  | some a =>
    rintro a' ha'
    obtain rfl := Except.ok.inj ha'
    refine ⟨v.moment, hdid, fun k hk => ?_⟩
    obtain ⟨deadline, hentry, hlive⟩ := hkept v.store a hcached k hk
    exact served_of_entry hinv hentry hlive
  | none =>
    have hloaded := Protocol.wp_historic Protocol.historic_didAt
      (hload v.moment _ World.moment_lt_step) hdid
    refine Protocol.wp_bind (Protocol.wp_mono ?_ hloaded)
    rintro (e | a) u ⟨hparts, hlooked⟩
    · exact fun a ha => by cases ha
    have hall : ∀ k, K k → C.Loaded i v.moment k (part a k) (d a k) u := hparts a rfl
    have hstable : (C.protocol lag fault).Stable i fun u =>
        (∀ k, K k → C.Loaded i v.moment k (part a k) (d a k) u) ∧ u.DidAt v.moment i look := by
      refine Protocol.Stable.and (fun u u' hother hu k hk => ?_) Protocol.historic_didAt.stable
      exact stable_loaded hother (hu k hk)
    refine Protocol.wp_read_bind hstable ⟨hall, hlooked⟩ fun u hu _ _ => ⟨?_, fun n _ _ => ?_⟩
    · intro k b deadline hfill
      obtain ⟨hk, rfl, hdeadline⟩ := hkeep a u.store k b deadline hfill
      obtain ⟨⟨t, hlast⟩, -⟩ := hu.1 k hk
      exact ⟨d a k, t, hlast, hdeadline⟩
    · rintro a' ha'
      obtain rfl := Except.ok.inj ha'
      refine ⟨v.moment, hu.2.of_suffix World.trace_step_suffix, fun k hk => ?_⟩
      exact ((hu.1 k hk).step (hsilent a u.store k)).served

end TtlCache

end Telima
