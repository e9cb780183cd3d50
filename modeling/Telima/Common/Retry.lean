import Telima.Async.History
import Telima.Async.Relational
import Telima.Common.Idempotency

/-!
# Retrying a request that failed

The lock of a key is deleted in the callback of `tap`, after the response is cached.  A request whose
handler throws, or whose response cannot be cached, never gets there: its lock stays until it expires, and
for five minutes a request with the key is told that the failed one is still running, or gets the response
of an earlier one.  When no request with the key is running, the next one runs its handler if no failed
request holds the lock in this way, and no response is cached under the name of the lock
(`retry_runs_handler_iff`).
-/

namespace Telima.Idempotency

variable {τ ℓ ε : Type}

/-- The request runs its handler if it comes in now. -/
def RunsHandler (conflict : ε) (request : Request τ ℓ ε) (key : String) (s : Store τ) : Prop :=
  ((intercept conflict request).resume s).command? = some (.handle key)

/-- No request with the key has come in and not ended. -/
def NoneRunning (key : String) (p : Pool (Store τ) (Cmd ℓ) ε Unit) : Prop :=
  ∀ a j, p.world.DidAt a j (.acquire key) → ∃ r, p.threads[j]? = some (.done r)

/-- A request has acquired the lock at moment `a`. -/
def AcquiredAt (key : String) (a j : ℕ) (w : World (Store τ) (Cmd ℓ)) : Prop :=
  w.DidAt a j (.acquire key) ∧ (w.storeAt a).get (lockKey key) = none

/-- The lock was not deleted after moment `a`. -/
def NotReleased (key : String) (a : ℕ) (w : World (Store τ) (Cmd ℓ)) : Prop :=
  ∀ b j, a < b → ¬ w.DidAt b j (.release key)

/-- An entry of Redis that was written at moment `a` is still there, if nobody has deleted it. -/
def Unexpired (a : ℕ) (w : World (Store τ) (Cmd ℓ)) : Prop :=
  w.store.now < (w.storeAt a).now + keyTtl

/-- A request with the key has acquired the lock in the last five minutes and ended with an error, and
nobody has deleted the lock. -/
def HeldByFailed (key : String) (p : Pool (Store τ) (Cmd ℓ) ε Unit) : Prop :=
  ∃ a j e, p.threads[j]? = some (.done (.error e)) ∧ AcquiredAt key a j p.world ∧
    Unexpired a p.world ∧ NotReleased key a p.world

/-- A response of another key was cached in the last five minutes under the name of the lock, and nobody
has deleted it. -/
def CachedAsLock (key : String) (w : World (Store τ) (Cmd ℓ)) : Prop :=
  ∃ a j other response, redisKey other = lockKey key ∧ w.DidAt a j (.store other response) ∧
    Unexpired a w ∧ NotReleased key a w

namespace Retry

variable {exec : ℓ → τ → τ} {key : String} {i j a : ℕ} {w : World (Store τ) (Cmd ℓ)} {c : Cmd ℓ}

/-! ### The lock and the history -/

/-- The entry of the lock was written at moment `a`. -/
def WroteLock (key : String) (a : ℕ) (w : World (Store τ) (Cmd ℓ)) : Prop :=
  (∃ j, AcquiredAt key a j w) ∨
    ∃ j other response, redisKey other = lockKey key ∧ w.DidAt a j (.store other response)

/-- The entry of the lock is the last one written, unless the lock was deleted since. -/
structure Inv (key : String) (w : World (Store τ) (Cmd ℓ)) : Prop where
  past : ∀ a ≤ w.moment, (w.storeAt a).now ≤ w.store.now
  wrote : ∀ value expiresAt, w.store.redis (lockKey key) = some (value, expiresAt) →
    ∃ a, WroteLock key a w ∧ NotReleased key a w ∧ expiresAt = (w.storeAt a).now + keyTtl
  entry : ∀ a, WroteLock key a w → NotReleased key a w → ∃ value expiresAt,
    w.store.redis (lockKey key) = some (value, expiresAt) ∧ (w.storeAt a).now + keyTtl ≤ expiresAt

abbrev next (exec : ℓ → τ → τ) (w : World (Store τ) (Cmd ℓ)) (i : ℕ) (c : Cmd ℓ) :
    World (Store τ) (Cmd ℓ) := w.act (Cmd.exec exec) i c

theorem wroteLock_lt (h : WroteLock key a w) : a < w.moment := by
  rcases h with ⟨j, hdid, -⟩ | ⟨j, other, response, -, hdid⟩
  · exact hdid.lt
  · exact hdid.lt

theorem acquiredAt_act : AcquiredAt key a j (next exec w i c) ↔ AcquiredAt key a j w ∨
    (a = w.moment ∧ i = j ∧ c = .acquire key ∧ w.store.get (lockKey key) = none) := by
  constructor
  · rintro ⟨hdid, hfree⟩
    rcases World.didAt_act.mp hdid with hdid | ⟨rfl, rfl, rfl⟩
    · rw [World.storeAt_act (Nat.le_of_lt hdid.lt)] at hfree
      exact Or.inl ⟨hdid, hfree⟩
    · rw [World.storeAt_act (Nat.le_refl _), World.storeAt_moment] at hfree
      exact Or.inr ⟨rfl, rfl, rfl, hfree⟩
  · rintro (⟨hdid, hfree⟩ | ⟨rfl, rfl, rfl, hfree⟩)
    · exact ⟨hdid.act, by rwa [World.storeAt_act (Nat.le_of_lt hdid.lt)]⟩
    · refine ⟨World.didAt_act.mpr (Or.inr ⟨rfl, rfl, rfl⟩), ?_⟩
      rwa [World.storeAt_act (Nat.le_refl _), World.storeAt_moment]

/-- The command writes the entry of the lock. -/
def WritesLock (key : String) (s : Store τ) : Cmd ℓ → Prop
  | .acquire other => other = key ∧ s.get (lockKey key) = none
  | .store other _ => redisKey other = lockKey key
  | _ => False

theorem wroteLock_act : WroteLock key a (next exec w i c) ↔
    WroteLock key a w ∨ (a = w.moment ∧ WritesLock key w.store c) := by
  constructor
  · rintro (⟨j, hacquired⟩ | ⟨j, other, response, hname, hdid⟩)
    · rcases acquiredAt_act.mp hacquired with hacquired | ⟨rfl, rfl, rfl, hfree⟩
      · exact Or.inl (Or.inl ⟨j, hacquired⟩)
      · exact Or.inr ⟨rfl, rfl, hfree⟩
    · rcases World.didAt_act.mp hdid with hdid | ⟨rfl, rfl, rfl⟩
      · exact Or.inl (Or.inr ⟨j, other, response, hname, hdid⟩)
      · exact Or.inr ⟨rfl, hname⟩
  · rintro ((⟨j, hacquired⟩ | ⟨j, other, response, hname, hdid⟩) | ⟨rfl, hwrites⟩)
    · exact Or.inl ⟨j, acquiredAt_act.mpr (Or.inl hacquired)⟩
    · exact Or.inr ⟨j, other, response, hname, hdid.act⟩
    · cases c with
      | acquire other =>
        obtain ⟨rfl, hfree⟩ := hwrites
        exact Or.inl ⟨i, acquiredAt_act.mpr (Or.inr ⟨rfl, rfl, rfl, hfree⟩)⟩
      | store other response =>
        exact Or.inr ⟨i, other, response, hwrites, World.didAt_act.mpr (Or.inr ⟨rfl, rfl, rfl⟩)⟩
      | _ => cases hwrites

theorem notReleased_act (ha : a < w.moment) : NotReleased key a (next exec w i c) ↔
    NotReleased key a w ∧ c ≠ .release key := by
  constructor
  · intro h
    refine ⟨fun b j hb hdid => h b j hb hdid.act, fun hc => ?_⟩
    exact h w.moment i ha (World.didAt_act.mpr (Or.inr ⟨rfl, rfl, hc⟩))
  · rintro ⟨h, hc⟩ b j hb hdid
    rcases World.didAt_act.mp hdid with hdid | ⟨-, -, heq⟩
    · exact h b j hb hdid
    · exact hc heq

/-- What a command does to the entry of the lock. -/
inductive Effect (exec : ℓ → τ → τ) (key : String) (s : Store τ) (c : Cmd ℓ) : Prop
  | same (hwrites : ¬ WritesLock key s c) (hc : c ≠ .release key)
      (hentry : (c.exec exec s).redis (lockKey key) = s.redis (lockKey key))
  | written (hwrites : WritesLock key s c) (value : Json)
      (hentry : (c.exec exec s).redis (lockKey key) = some (value, s.now + keyTtl))
  | deleted (hc : c = .release key) (hentry : (c.exec exec s).redis (lockKey key) = none)

theorem effect (exec : ℓ → τ → τ) (key : String) (s : Store τ) (c : Cmd ℓ) :
    Effect exec key s c := by
  cases c with
  | acquire other =>
    by_cases hfree : s.get (lockKey other) = none
    · have hexec := @Once.exec_acquire_of_free τ ℓ exec other s hfree
      by_cases hother : other = key
      · obtain rfl := hother
        refine .written ⟨rfl, hfree⟩ (.num 1) ?_
        rw [hexec]
        exact Function.update_self _ _ _
      · refine .same (fun hwrites => hother hwrites.1) nofun ?_
        rw [hexec]
        exact Function.update_of_ne (fun h => hother (lockKey_inj.mp h.symm)) _ _
    · have hexec : (Cmd.acquire other).exec exec s = s :=
        if_pos (Option.isSome_iff_ne_none.mpr hfree)
      refine .same ?_ nofun (by rw [hexec])
      rintro ⟨rfl, hnone⟩
      exact hfree hnone
  | store other response =>
    by_cases hname : redisKey other = lockKey key
    · refine .written hname response ?_
      show Function.update s.redis (redisKey other) _ (lockKey key) = _
      rw [hname, Function.update_self]
    · exact .same hname nofun (Function.update_of_ne (Ne.symm hname) _ _)
  | release other =>
    by_cases hother : other = key
    · obtain rfl := hother
      exact .deleted rfl (Function.update_self _ _ _)
    · refine .same id (fun hc => hother (Cmd.release.inj hc)) ?_
      exact Function.update_of_ne (fun h => hother (lockKey_inj.mp h.symm)) _ _
  | _ => exact .same id nofun rfl

/-- Time does not go back. -/
theorem now_le (exec : ℓ → τ → τ) (s : Store τ) (c : Cmd ℓ) : s.now ≤ (c.exec exec s).now := by
  cases c with
  | acquire key =>
    rw [Cmd.exec]
    split
    · exact Nat.le_refl _
    · exact Nat.le_refl _
  | tick ms => exact Nat.le_add_right _ _
  | _ => exact Nat.le_refl _

theorem inv_act (hw : Inv key w) : Inv key (next exec w i c) := by
  have hnow : w.store.now ≤ (next exec w i c).store.now := now_le exec w.store c
  have hpast : ∀ a ≤ (next exec w i c).moment,
      ((next exec w i c).storeAt a).now ≤ (next exec w i c).store.now := by
    intro a ha
    rcases Nat.lt_or_ge w.moment a with hgt | hle
    · have hlast : a = (next exec w i c).moment := by
        rw [World.moment_act] at ha ⊢
        omega
      rw [hlast, World.storeAt_moment]
    · rw [World.storeAt_act hle]
      exact (hw.past a hle).trans hnow
  refine ⟨hpast, fun value expiresAt hentry => ?_, fun a hwrote hnot => ?_⟩
  · rw [World.store_act] at hentry
    cases effect exec key w.store c with
    | same hwrites hc hsame =>
      obtain ⟨a, hwrote, hnot, hexpires⟩ := hw.wrote value expiresAt (hsame.symm.trans hentry)
      have ha := wroteLock_lt hwrote
      refine ⟨a, wroteLock_act.mpr (Or.inl hwrote), (notReleased_act ha).mpr ⟨hnot, hc⟩, ?_⟩
      rw [World.storeAt_act (Nat.le_of_lt ha)]
      exact hexpires
    | written hwrites new hnew =>
      obtain ⟨-, rfl⟩ := Prod.mk.inj (Option.some.inj (hnew.symm.trans hentry))
      refine ⟨w.moment, wroteLock_act.mpr (Or.inr ⟨rfl, hwrites⟩), fun b j hb hdid => ?_, ?_⟩
      · have hlt := hdid.lt
        rw [World.moment_act] at hlt
        omega
      · rw [World.storeAt_act (Nat.le_refl _), World.storeAt_moment]
    | deleted hc hnone =>
      rw [hnone] at hentry
      cases hentry
  · rw [World.store_act]
    rcases wroteLock_act.mp hwrote with hold | ⟨rfl, hwrites⟩
    · have ha := wroteLock_lt hold
      obtain ⟨hnot, hc⟩ := (notReleased_act ha).mp hnot
      rw [World.storeAt_act (Nat.le_of_lt ha)]
      cases effect exec key w.store c with
      | same hwrites _ hsame =>
        rw [hsame]
        exact hw.entry a hold hnot
      | written hwrites value hnew =>
        have hle := hw.past a (Nat.le_of_lt ha)
        exact ⟨value, _, hnew, by omega⟩
      | deleted heq _ => exact absurd heq hc
    · rw [World.storeAt_act (Nat.le_refl _), World.storeAt_moment]
      cases effect exec key w.store c with
      | same hnot _ _ => exact absurd hwrites hnot
      | written _ value hnew => exact ⟨value, _, hnew, Nat.le_refl _⟩
      | deleted hc _ =>
        rw [hc] at hwrites
        cases hwrites

/-- The lock is taken as long as what was written in it is not expired. -/
theorem locked_iff (hw : Inv key w) : w.store.get (lockKey key) ≠ none ↔
    ∃ a, WroteLock key a w ∧ NotReleased key a w ∧ Unexpired a w := by
  constructor
  · intro hlocked
    cases hentry : w.store.redis (lockKey key) with
    | none =>
      rw [Store.get, hentry] at hlocked
      exact absurd rfl hlocked
    | some entry =>
      obtain ⟨a, hwrote, hnot, hexpires⟩ := hw.wrote entry.1 entry.2 hentry
      refine ⟨a, hwrote, hnot, ?_⟩
      rw [Store.get, hentry, Option.bind_some] at hlocked
      have hlive : w.store.now < entry.2 := by
        by_contra hdead
        rw [if_neg hdead] at hlocked
        exact hlocked rfl
      rw [Unexpired, ← hexpires]
      exact hlive
  · rintro ⟨a, hwrote, hnot, hunexpired⟩
    obtain ⟨value, expiresAt, hentry, hle⟩ := hw.entry a hwrote hnot
    have hlive : w.store.now < expiresAt := Nat.lt_of_lt_of_le hunexpired hle
    rw [Store.get, hentry, Option.bind_some, if_pos hlive]
    exact fun h => by cases h

/-! ### The threads -/

/-- Anything may happen; the entry of the lock agrees with the history. -/
def protocol (exec : ℓ → τ → τ) (fault : ε → Prop) (key : String) :
    Protocol (system exec : System (Store τ) (Cmd ℓ) ε Unit) where
  cond _ _ _ := True
  fault := fault
  inv := Inv key
  guar _ _ _ := True
  inv_step := by
    intro w i c n hinv _ _ _ _
    rw [World.step_of_no_handlers rfl]
    exact inv_act hinv

/-- A request that has succeeded has deleted the lock it had acquired. -/
def post (key : String) (i : ℕ) (r : Except ε Unit) (w : World (Store τ) (Cmd ℓ)) : Prop :=
  r = .ok () → ∀ a, AcquiredAt key a i w → ∃ b, a < b ∧ w.DidAt b i (.release key)

section Threads

variable {fault : ε → Prop} {conflict : ε}

theorem stable_post (i : ℕ) (r : Except ε Unit) :
    (protocol exec fault key).Stable i (post key i r) := by
  rintro w _ ⟨j, c, n, hj, -, -, -, -, -, -, rfl⟩ h hr a hacquired
  rw [World.step_of_no_handlers rfl] at hacquired ⊢
  rcases acquiredAt_act.mp hacquired with hacquired | ⟨-, hij, -⟩
  · obtain ⟨b, hb, hdid⟩ := h hr a hacquired
    exact ⟨b, hb, hdid.act⟩
  · exact absurd hij hj

/-- A thread that does not ask for the lock has not acquired it. -/
theorem frame_not_acquired : (protocol exec fault key).Frame i (fun c => c ≠ .acquire key)
    fun w => ∀ a, ¬ AcquiredAt key a i w where
  stable := by
    rintro w _ ⟨j, c, n, hj, -, -, -, -, -, -, rfl⟩ h a hacquired
    rw [World.step_of_no_handlers rfl] at hacquired
    rcases acquiredAt_act.mp hacquired with hacquired | ⟨-, hij, -⟩
    · exact h a hacquired
    · exact hj hij
  performs := by
    intro c w hc hw _ _
    refine ⟨trivial, fun n _ _ a hacquired => ?_⟩
    rw [World.step_of_no_handlers rfl] at hacquired
    rcases acquiredAt_act.mp hacquired with hacquired | ⟨-, -, heq, -⟩
    · exact hw a hacquired
    · exact hc heq

theorem frame_any : (protocol exec fault key).Frame i (fun _ => True) fun _ => True where
  stable := fun _ _ _ _ => trivial
  performs := fun _ _ _ _ => ⟨trivial, fun _ _ _ => trivial⟩

/-- The request that has acquired the lock deletes it last. -/
theorem wp_execute (request : Request τ ℓ ε) :
    (protocol exec fault key).wp i
      ((Async.emit (.handle key)).bind fun _ => request.handler.bind fun response =>
        (Async.emit (.respond key response)).bind fun _ =>
          (Async.perform (.store key response)).bind fun _ => Async.perform (.release key))
      (post key i) w := by
  have herror : ∀ e (v : World (Store τ) (Cmd ℓ)), post key i (.error e : Except ε Unit) v := by
    intro e v hr
    cases hr
  have honly : ∀ {α : Type} (p : Async (Store τ) (Cmd ℓ) ε α), p.Only fun _ => True :=
    fun p => p.only_true
  refine frame_any.wp_bind (honly _) trivial (fun _ _ _ => ?_) fun e v _ => herror e v
  refine frame_any.wp_bind (honly _) trivial (fun response _ _ => ?_) fun e v _ => herror e v
  refine frame_any.wp_bind (honly _) trivial (fun _ _ _ => ?_) fun e v _ => herror e v
  refine frame_any.wp_bind (honly _) trivial (fun _ v _ => ?_) fun e v _ => herror e v
  refine Protocol.wp_query frame_any.stable trivial (fun u _ _ _ => ?_) fun e u _ _ _ => herror e u
  refine ⟨trivial, fun n _ _ _ a hacquired => ?_⟩
  rw [World.step_of_no_handlers rfl] at hacquired ⊢
  rcases acquiredAt_act.mp hacquired with ⟨hdid, -⟩ | ⟨-, -, heq, -⟩
  · exact ⟨u.moment, hdid.lt, World.didAt_act.mpr (Or.inr ⟨rfl, rfl, rfl⟩)⟩
  · cases heq

theorem post_of_not_acquired (r : Except ε Unit) (h : ∀ a, ¬ AcquiredAt key a i w) :
    post key i r w := by
  intro _ a hacquired
  exact absurd hacquired (h a)

/-- A program that does not ask for the lock. -/
theorem wp_never {p : Async (Store τ) (Cmd ℓ) ε Unit} (hidle : ∀ a, ¬ AcquiredAt key a i w)
    (hp : p.Only fun c => c ≠ .acquire key) :
    (protocol exec fault key).wp i p (post key i) w :=
  Protocol.wp_mono (fun r _ h => post_of_not_acquired r h) (frame_not_acquired.wp hp hidle)

theorem wp_intercept (request : Request τ ℓ ε) (hidle : ∀ a, ¬ AcquiredAt key a i w) :
    (protocol exec fault key).wp i (intercept conflict request) (post key i) w := by
  have hhandler : request.handler.Only (fun c => c ≠ .acquire key) :=
    Async.only_embed (fun _ => nofun) request.next
  unfold intercept
  split
  · exact wp_never hidle (hhandler.bind fun _ => trivial)
  · rename_i other _
    refine Protocol.wp_query_bind frame_not_acquired.stable hidle (fun v hv _ _ => ?_)
      fun e v _ hv _ => post_of_not_acquired _ hv
    refine ⟨trivial, fun n _ _ => ?_⟩
    rw [World.step_of_no_handlers rfl]
    by_cases hacquired : other = key ∧ v.store.get (lockKey other) = none
    · obtain ⟨rfl, hfree⟩ := hacquired
      rw [hfree]
      exact wp_execute request
    · have hnot : ∀ a, ¬ AcquiredAt key a i (next exec v i (.acquire other)) := by
        intro a h
        rcases acquiredAt_act.mp h with h | ⟨-, -, heq, hfree⟩
        · exact hv a h
        · obtain rfl := Cmd.acquire.inj heq
          exact hacquired ⟨rfl, hfree⟩
      refine wp_never hnot ?_
      cases (v.store.get (lockKey other)).isNone with
      | true =>
        refine Async.only_emit_bind.mpr ⟨nofun, fun _ => hhandler.bind fun response => ?_⟩
        refine Async.only_emit_bind.mpr ⟨nofun, fun _ => ?_⟩
        exact Async.only_perform_bind.mpr ⟨nofun, fun _ => Async.only_perform.mpr nofun⟩
      | false =>
        refine Async.only_query_bind.mpr ⟨nofun, fun s => ?_⟩
        cases s.get (redisKey other) with
        | none => trivial
        | some response => exact Async.only_emit.mpr nofun

end Threads

theorem inv_start {s : Store τ} (hlock : s.redis (lockKey key) = none) :
    Inv key (⟨s, []⟩ : World (Store τ) (Cmd ℓ)) := by
  refine ⟨fun a ha => ?_, fun value expiresAt hentry => ?_, fun a hwrote => ?_⟩
  · obtain rfl : a = 0 := Nat.le_zero.mp ha
    exact Nat.le_refl _
  · rw [hlock] at hentry
    cases hentry
  · exact absurd (wroteLock_lt hwrote) (Nat.not_lt_zero a)

/-- The request runs its handler when it finds the lock free. -/
theorem runsHandler_iff {conflict : ε} {request : Request τ ℓ ε} {s : Store τ}
    (hkey : request.key? = some key) :
    RunsHandler conflict request key s ↔ s.get (lockKey key) = none := by
  rw [RunsHandler, intercept_of_key hkey]
  cases hlock : s.get (lockKey key) with
  | none =>
    refine iff_of_true ?_ rfl
    show (Async.command? (if (s.get (lockKey key)).isNone = true then _ else _)) = _
    rw [hlock]
    rfl
  | some lock =>
    refine iff_of_false ?_ fun h => by cases h
    show (Async.command? (if (s.get (lockKey key)).isNone = true then _ else _)) ≠ _
    rw [hlock]
    exact fun h => by cases h

end Retry

open Retry in
/-- When no request with the key is running, the next one runs its handler if and only if no request that
has failed holds the lock and no response is cached in its place. -/
theorem retry_runs_handler_iff (exec : ℓ → τ → τ) (conflict : ε) (fault : ε → Prop) (s : Store τ)
    {key : String} (hlock : s.redis (lockKey key) = none) (calls : List (Call τ ℓ ε))
    {p : Pool (Store τ) (Cmd ℓ) ε Unit}
    (hrun : Pool.Run (system exec) (fun _ _ _ => True) fault (start conflict s calls) p)
    (hnone : NoneRunning key p) {request : Request τ ℓ ε} (hkey : request.key? = some key) :
    RunsHandler conflict request key p.world.store ↔
      ¬ HeldByFailed key p ∧ ¬ CachedAsLock key p.world := by
  have hstart : (protocol exec fault key).Safe (post key) (start conflict s calls) := by
    refine Protocol.safe_init (inv_start hlock) fun i t ht => ?_
    rw [List.getElem?_map] at ht
    obtain ⟨call, -, rfl⟩ := Option.map_eq_some_iff.mp ht
    have hidle : ∀ a, ¬ AcquiredAt key a i (⟨s, []⟩ : World (Store τ) (Cmd ℓ)) :=
      fun a h => absurd h.1.lt (Nat.not_lt_zero a)
    cases call with
    | request request => exact wp_intercept request hidle
    | wait ms =>
      have honly : (Async.perform (.tick ms) : Async (Store τ) (Cmd ℓ) ε Unit).Only
          fun c => c ≠ .acquire key := Async.only_perform.mpr nofun
      exact wp_never hidle honly
  have hsafe := hstart.run stable_post (fun _ _ _ hk => by cases hk) hrun
  rw [runsHandler_iff hkey, ← not_or, ← not_iff_not, not_not, ← ne_eq, locked_iff hsafe.inv]
  constructor
  · rintro ⟨a, ⟨j, hacquired⟩ | ⟨j, other, response, hname, hdid⟩, hnot, hunexpired⟩
    · obtain ⟨r, hdone⟩ := hnone a j hacquired.1
      cases r with
      | error e => exact Or.inl ⟨a, j, e, hdone, hacquired, hunexpired, hnot⟩
      | ok _ =>
        -- a request that has succeeded has deleted its lock
        have hpost : post key j (.ok () : Except ε Unit) p.world := hsafe.threads hdone
        obtain ⟨b, hb, hdid⟩ := hpost rfl a hacquired
        exact absurd hdid (hnot b j hb)
    · exact Or.inr ⟨a, j, other, response, hname, hdid, hunexpired, hnot⟩
  · rintro (⟨a, j, e, -, hacquired, hunexpired, hnot⟩ |
      ⟨a, j, other, response, hname, hdid, hunexpired, hnot⟩)
    · exact ⟨a, Or.inl ⟨j, hacquired⟩, hnot, hunexpired⟩
    · exact ⟨a, Or.inr ⟨j, other, response, hname, hdid⟩, hnot, hunexpired⟩

/-! ### Runs -/

namespace Retry

/-- A request for a trip whose handler fails. -/
def failing : Request ℕ Unit String :=
  { isIdempotent := true, idempotencyKey := some "k", next := Async.throw "503" }

/-- The request is sent again, after a while. -/
def again (ms : ℕ) : List (Call ℕ Unit String) := [.request failing, .wait ms, .request failing]

def isAcquire : Cmd Unit → Bool
  | .acquire _ => true
  | _ => false

/-- Every request that has come in has ended. -/
def allEnded (p : Pool (Store ℕ) (Cmd Unit) String Unit) : Bool :=
  p.world.trace.all fun e => !e.kind.performs isAcquire || (p.threads[e.tid]?).any Async.isDone

theorem noneRunning_of_allEnded {p : Pool (Store ℕ) (Cmd Unit) String Unit}
    (h : allEnded p = true) (key : String) : NoneRunning key p := by
  rintro a j ⟨s, hentry⟩
  have hmem : (⟨j, .did (.acquire key), s⟩ : Event (Store ℕ) (Cmd Unit)) ∈ p.world.trace :=
    List.mem_reverse.mp (List.mem_of_getElem? hentry)
  have hended := List.all_eq_true.mp h _ hmem
  rw [EventKind.performs, isAcquire, Bool.not_true, Bool.false_or] at hended
  obtain ⟨t, ht, hdone⟩ := (Option.any_eq_true _ _).mp hended
  cases t with
  | done r => exact ⟨r, ht⟩
  | _ => cases hdone

end Retry

open Retry in
/-- Five minutes later, the lock of the failed request is gone. -/
theorem retry_runs_handler_later : ∃ p : Pool (Store ℕ) (Cmd Unit) String Unit,
    (p.threads[0]?).bind Async.result? = some (.error "503") ∧
      RunsHandler "409" failing "k" p.world.store := by
  obtain ⟨p, hrun, hfailed, hended, hexpired, hmoment⟩ := Pool.exists_run_of_schedule? Once.trips
    (fun _ _ _ => True) (fun _ => False) (start "409" { app := 0 } (again 300000)) [0, 0, 1]
    (fun p => (p.threads[0]?).bind Async.result? = some (.error "503") ∧ allEnded p = true ∧
      (∀ a ∈ List.range 3, (p.world.storeAt a).now + keyTtl ≤ p.world.store.now) ∧
      p.world.moment = 3)
    (by decide +kernel)
  have hexpired : ∀ a, a < p.world.moment → ¬ Unexpired a p.world := by
    intro a ha hunexpired
    have hle := hexpired a (List.mem_range.mpr (hmoment ▸ ha))
    exact absurd hunexpired (Nat.not_lt.mpr hle)
  refine ⟨p, hfailed, ?_⟩
  refine (retry_runs_handler_iff _ "409" _ { app := 0 } rfl (again 300000) hrun
    (noneRunning_of_allEnded hended "k") rfl).mpr ⟨?_, ?_⟩
  · rintro ⟨a, j, e, -, hacquired, hunexpired, -⟩
    exact hexpired a hacquired.1.lt hunexpired
  · rintro ⟨a, j, other, response, -, hdid, hunexpired, -⟩
    exact hexpired a hdid.lt hunexpired

open Retry in
/-- A request that fails, and the same request at once: it is answered 409, although none is running. -/
theorem retry_refused :
    ∃ p q : Pool (Store ℕ) (Cmd Unit) String Unit,
      Pool.Run Once.trips (fun _ _ _ => True) (fun _ => False) (start "409" { app := 0 } (again 0)) p ∧
        (p.threads[0]?).bind Async.result? = some (.error "503") ∧ NoneRunning "k" p ∧
        ¬ RunsHandler "409" failing "k" p.world.store ∧
        Pool.Run Once.trips (fun _ _ _ => True) (fun _ => False) p q ∧
        (q.threads[2]?).bind Async.result? = some (.error "409") := by
  obtain ⟨p, hrun, hfailed, hended, hlocked, hanswered⟩ := Pool.exists_run_of_schedule? Once.trips
    (fun _ _ _ => True) (fun _ => False) (start "409" { app := 0 } (again 0)) [0, 0]
    (fun p => (p.threads[0]?).bind Async.result? = some (.error "503") ∧ allEnded p = true ∧
      p.world.store.get (lockKey "k") ≠ none ∧
      ((p.schedule? Once.trips (fun _ _ _ => True) [2, 2]).any fun q =>
        decide ((q.threads[2]?).bind Async.result? = some (.error "409"))) = true)
    (by decide +kernel)
  obtain ⟨q, hrun', hanswer⟩ := Pool.exists_run_of_schedule? Once.trips (fun _ _ _ => True)
    (fun _ => False) p [2, 2] (fun q => (q.threads[2]?).bind Async.result? = some (.error "409"))
    hanswered
  exact ⟨p, q, hrun, hfailed, noneRunning_of_allEnded hended "k",
    fun hruns => hlocked ((runsHandler_iff rfl).mp hruns), hrun', hanswer⟩

end Telima.Idempotency
