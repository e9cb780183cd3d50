import Telima.Async.RelyGuarantee
import Telima.Data.Json

/-!
# The `Idempotency-Key`

`IdempotencyInterceptor` runs the handler of a request that has acquired the lock of its key, caches the
response and deletes the lock; it looks for a cached response only when the lock is taken.  A request
that comes in after the lock was deleted runs the handler again.  If no request comes in then, the
handlers of the requests with a key run once, and all of them get the same response or are told to come
back while the first one holds the lock (`handler_runs_once`).
-/

namespace Telima.Idempotency

variable {τ ℓ ε : Type}

/-- Redis, the time, and what the handlers work on.  An entry of Redis is a JSON value, with the time
it expires at. -/
structure Store (τ : Type) where
  redis : String → Option (Json × ℕ) := fun _ => none
  now : ℕ := 0
  app : τ

/-- `GET` -/
def Store.get (s : Store τ) (name : String) : Option Json :=
  (s.redis name).bind fun entry => if s.now < entry.2 then some entry.1 else none

/-- `KEY_PREFIX` -/
def keyPrefix : String := "telima:idem:"

/-- `KEY_TTL`, in milliseconds -/
def keyTtl : ℕ := 300 * 1000

def redisKey (key : String) : String := keyPrefix ++ key

def lockKey (key : String) : String := redisKey key ++ ":lock"

inductive Cmd (ℓ : Type) where
  /-- `SET lockKey 1 EX ttl NX` -/
  | acquire (key : String)
  /-- `GET redisKey` -/
  | read (key : String)
  /-- `SET redisKey response EX ttl` -/
  | store (key : String) (response : Json)
  /-- `DEL lockKey` -/
  | release (key : String)
  /-- `next.handle()`; nothing happens yet. -/
  | handle (key : String)
  /-- The client receives the response. -/
  | respond (key : String) (response : Json)
  /-- A command of a handler. -/
  | app (c : ℓ)
  | tick (ms : ℕ)

/-- The effect of a command, where `exec` is the effect of the handlers' commands. -/
def Cmd.exec (exec : ℓ → τ → τ) : Cmd ℓ → Store τ → Store τ
  | acquire key, s =>
    if (s.get (lockKey key)).isSome then s
    else { s with redis := Function.update s.redis (lockKey key) (some (.num 1, s.now + keyTtl)) }
  | store key response, s =>
    { s with redis := Function.update s.redis (redisKey key) (some (response, s.now + keyTtl)) }
  | release key, s => { s with redis := Function.update s.redis (lockKey key) none }
  | app c, s => { s with app := exec c s.app }
  | tick ms, s => { s with now := s.now + ms }
  | _, s => s

/-- A request of a route, and its handler. -/
structure Request (τ ℓ ε : Type) where
  /-- The route is `@Idempotent`. -/
  isIdempotent : Bool
  /-- The header `idempotency-key`. -/
  idempotencyKey : Option String
  next : Async τ ℓ ε Json

/-- The key under which the request is handled, if any; an empty header counts as none. -/
def Request.key? (request : Request τ ℓ ε) : Option String :=
  if request.isIdempotent then request.idempotencyKey.filter fun key => decide (key ≠ "") else none

/-- The handler, in the whole store. -/
def Request.handler (request : Request τ ℓ ε) : Async (Store τ) (Cmd ℓ) ε Json :=
  request.next.embed Store.app .app

/-- `intercept`; `conflict` is its `ConflictException`.  The response is sent before it is cached: the
callback of `tap` is not awaited. -/
def intercept (conflict : ε) (request : Request τ ℓ ε) : Async (Store τ) (Cmd ℓ) ε Unit :=
  match request.key? with
  | none => request.handler.as ()
  | some key => do
    let acquired ← Async.query (.acquire key) fun s => (s.get (lockKey key)).isNone
    if acquired then do
      Async.emit (.handle key)
      let response ← request.handler
      Async.emit (.respond key response)
      Async.perform (.store key response)
      Async.perform (.release key)
    else
      Async.bind (Async.query (.read key) fun s => s.get (redisKey key)) fun cached =>
        match cached with
        | some cached => Async.emit (.respond key cached)
        | none => Async.throw conflict

/-- What a request answers that has found the lock taken. -/
def answer (conflict : ε) (key : String) : Option Json → Async (Store τ) (Cmd ℓ) ε Unit
  | some cached => Async.emit (.respond key cached)
  | none => Async.throw conflict

theorem intercept_of_key {conflict : ε} {request : Request τ ℓ ε} {key : String}
    (hkey : request.key? = some key) : intercept conflict request =
      (Async.query (.acquire key) fun s => (s.get (lockKey key)).isNone).bind fun acquired =>
        if acquired then
          (Async.emit (.handle key)).bind fun _ => request.handler.bind fun response =>
            (Async.emit (.respond key response)).bind fun _ =>
              (Async.perform (.store key response)).bind fun _ => Async.perform (.release key)
        else (Async.query (.read key) fun s => s.get (redisKey key)).bind (answer conflict key) := by
  unfold intercept
  rw [hkey]
  rfl

/-- A request comes in, or time passes. -/
inductive Call (τ ℓ ε : Type) where
  | request (request : Request τ ℓ ε)
  | wait (ms : ℕ)

def Call.program (conflict : ε) : Call τ ℓ ε → Async (Store τ) (Cmd ℓ) ε Unit
  | request r => intercept conflict r
  | wait ms => Async.perform (.tick ms)

/-- The requests share the server and start no handlers of events. -/
def system (exec : ℓ → τ → τ) : System (Store τ) (Cmd ℓ) ε Unit where
  exec := Cmd.exec exec
  handlers _ := []

def start (conflict : ε) (s : Store τ) (calls : List (Call τ ℓ ε)) :
    Pool (Store τ) (Cmd ℓ) ε Unit :=
  Pool.init s (calls.map (Call.program conflict))

/-! ### The names in Redis -/

section Names

variable {key other : String}

theorem redisKey_inj : redisKey key = redisKey other ↔ key = other := by
  refine ⟨fun h => ?_, fun h => by rw [h]⟩
  have hlist := congrArg String.toList h
  rw [redisKey, redisKey, String.toList_append, String.toList_append] at hlist
  exact String.toList_injective (List.append_cancel_left hlist)

theorem lockKey_inj : lockKey key = lockKey other ↔ key = other := by
  refine ⟨fun h => ?_, fun h => by rw [h]⟩
  have hlist := congrArg String.toList h
  rw [lockKey, lockKey, String.toList_append, String.toList_append] at hlist
  exact redisKey_inj.mp (String.toList_injective (List.append_cancel_right hlist))

theorem lockKey_ne_redisKey (key : String) : lockKey key ≠ redisKey key := by
  intro h
  have hlength := congrArg List.length (congrArg String.toList h)
  rw [lockKey, String.toList_append, List.length_append] at hlength
  have hlock : (":lock".toList).length = 5 := by decide
  omega

end Names

/-! ### Runs -/

/-- No request with the key comes in when the lock is free and the response cached, nothing of another
key has the name of something of this one, and the entries of the key do not expire. -/
def NoLateRetry (key : String) (_ : ℕ) (w : World (Store τ) (Cmd ℓ)) : Cmd ℓ → Prop
  | .acquire other =>
    (other = key → w.store.get (lockKey key) = none → w.store.get (redisKey key) = none) ∧
      (other ≠ key → lockKey other ≠ redisKey key ∧ redisKey other ≠ lockKey key)
  | .tick ms => ∀ name, name = lockKey key ∨ name = redisKey key →
      ∀ value expiresAt, w.store.redis name = some (value, expiresAt) → w.store.now + ms < expiresAt
  | _ => True

/-- A handler runs for the key. -/
def handles (key : String) (e : Event (Store τ) (Cmd ℓ)) : Bool :=
  match e.kind with
  | .did (.handle other) => decide (other = key)
  | _ => false

/-- The thread has acquired the lock of the key. -/
def Acquired (key : String) (i : ℕ) (w : World (Store τ) (Cmd ℓ)) : Prop :=
  ∃ e ∈ w.trace, e.tid = i ∧ e.kind = .did (.acquire key) ∧ e.before.get (lockKey key) = none

/-- The thread has got no response, and the lock was taken. -/
def FoundLocked (key : String) (i : ℕ) (w : World (Store τ) (Cmd ℓ)) : Prop :=
  ∃ e ∈ w.trace, e.tid = i ∧ e.kind = .did (.read key) ∧
    (e.before.get (lockKey key)).isSome = true ∧ e.before.get (redisKey key) = none

namespace Once

variable {exec : ℓ → τ → τ} {key : String} {i j : ℕ} {w : World (Store τ) (Cmd ℓ)} {c : Cmd ℓ}

/-- What the history says of the key, and Redis of the history. -/
structure Inv (key : String) (w : World (Store τ) (Cmd ℓ)) : Prop where
  live : ∀ name, name = lockKey key ∨ name = redisKey key →
    ∀ value expiresAt, w.store.redis name = some (value, expiresAt) → w.store.now < expiresAt
  one : ∀ i j, Acquired key i w → Acquired key j w → i = j
  kept : ∀ i, Acquired key i w →
    (w.store.get (lockKey key)).isSome = true ∨ (w.store.get (redisKey key)).isSome = true
  locked : (w.store.get (lockKey key)).isSome = true → ∃ i, Acquired key i w
  cached : ∀ response, w.store.get (redisKey key) = some response →
    ∃ i, Acquired key i w ∧ w.Did i (· = .respond key response)
  handled : ∀ i, w.Did i (· = .handle key) → Acquired key i w
  once : w.trace.countP (handles key) ≤ 1
  responded : ∀ i response, w.Did i (· = .respond key response) →
    ∃ j, Acquired key j w ∧ w.Did j (· = .handle key) ∧ w.Did j (· = .respond key response)
  same : ∀ i response response', Acquired key i w → w.Did i (· = .respond key response) →
    w.Did i (· = .respond key response') → response = response'

/-- What holds when a thread performs a command: the handler runs, the response is cached and the lock
deleted by the thread that has acquired it. -/
def Guar (key : String) (i : ℕ) (w : World (Store τ) (Cmd ℓ)) : Cmd ℓ → Prop
  | .handle other => other = key → Acquired key i w ∧ ¬ w.Did i (· = .handle key)
  | .respond other response => other = key →
      (Acquired key i w ∧ w.Did i (· = .handle key) ∧
        ¬ w.Did i fun c => ∃ before, c = .respond key before) ∨
      ∃ j, Acquired key j w ∧ w.Did j (· = .handle key) ∧ w.Did j (· = .respond key response)
  | .store other response =>
      (other = key → Acquired key i w ∧ w.Did i (· = .respond key response)) ∧
        (other ≠ key → redisKey other ≠ lockKey key)
  | .release other =>
      (other = key → Acquired key i w ∧ (w.store.get (redisKey key)).isSome = true) ∧
        (other ≠ key → lockKey other ≠ redisKey key)
  | _ => True

/-! ### What a command changes -/

abbrev act (exec : ℓ → τ → τ) (w : World (Store τ) (Cmd ℓ)) (i : ℕ) (c : Cmd ℓ) :
    World (Store τ) (Cmd ℓ) := w.act (Cmd.exec exec) i c

theorem acquired_act : Acquired key j (act exec w i c) ↔
    (i = j ∧ c = .acquire key ∧ w.store.get (lockKey key) = none) ∨ Acquired key j w := by
  constructor
  · rintro ⟨e, he, htid, hkind, hfree⟩
    rcases List.mem_cons.mp he with rfl | he
    · exact Or.inl ⟨htid, EventKind.did.inj hkind, hfree⟩
    · exact Or.inr ⟨e, he, htid, hkind, hfree⟩
  · rintro (⟨rfl, rfl, hfree⟩ | ⟨e, he, hrest⟩)
    · exact ⟨_, List.mem_cons_self, rfl, rfl, hfree⟩
    · exact ⟨e, List.mem_cons_of_mem _ he, hrest⟩

theorem acquired_mono (h : Acquired key j w) : Acquired key j (act exec w i c) :=
  acquired_act.mpr (Or.inr h)

theorem did_act {H : Cmd ℓ → Prop} (h : w.Did j H) : (act exec w i c).Did j H :=
  World.did_act.mpr (Or.inr h)

theorem countP_act : (act exec w i c).trace.countP (handles key) =
    w.trace.countP (handles key) + if handles key ⟨i, .did c, w.store⟩ then 1 else 0 :=
  List.countP_cons

theorem get_update_of_ne {s : Store τ} {name other : String} (h : name ≠ other)
    (entry : Option (Json × ℕ)) :
    ({ s with redis := Function.update s.redis other entry } : Store τ).get name = s.get name := by
  show (Function.update s.redis other entry name).bind _ = _
  rw [Function.update_of_ne h]
  rfl

theorem get_update_self {s : Store τ} {name : String} (value : Json) :
    ({ s with redis := Function.update s.redis name (some (value, s.now + keyTtl)) } : Store τ).get
      name = some value := by
  show (Function.update s.redis name (some (value, s.now + keyTtl)) name).bind _ = _
  have hlive : s.now < s.now + keyTtl := Nat.lt_add_of_pos_right (by decide)
  rw [Function.update_self, Option.bind_some, if_pos hlive]

theorem get_update_none {s : Store τ} {name : String} :
    ({ s with redis := Function.update s.redis name none } : Store τ).get name = none := by
  show (Function.update s.redis name none name).bind _ = _
  rw [Function.update_self]
  rfl

/-- What a command does to the lock of the key and to the cached response. -/
inductive Effect (exec : ℓ → τ → τ) (key : String) (s : Store τ) (c : Cmd ℓ) : Prop
  | same (hacquire : c = .acquire key → s.get (lockKey key) ≠ none)
      (hlock : (c.exec exec s).get (lockKey key) = s.get (lockKey key))
      (hcached : (c.exec exec s).get (redisKey key) = s.get (redisKey key))
  | acquire (hc : c = .acquire key) (hfree : s.get (lockKey key) = none)
      (hlock : ((c.exec exec s).get (lockKey key)).isSome = true)
      (hcached : (c.exec exec s).get (redisKey key) = s.get (redisKey key))
  | store (response : Json) (hc : c = .store key response)
      (hlock : (c.exec exec s).get (lockKey key) = s.get (lockKey key))
      (hcached : (c.exec exec s).get (redisKey key) = some response)
  | release (hc : c = .release key) (hlock : (c.exec exec s).get (lockKey key) = none)
      (hcached : (c.exec exec s).get (redisKey key) = s.get (redisKey key))

theorem exec_acquire_of_free {s : Store τ} (h : s.get (lockKey key) = none) :
    (Cmd.acquire key).exec exec s =
      { s with
        redis := Function.update s.redis (lockKey key) (some (.num 1, s.now + keyTtl)) } := by
  rw [Cmd.exec, if_neg]
  rw [h]
  exact Bool.false_ne_true

theorem get_tick {ms : ℕ} {name : String} {s : Store τ}
    (h : ∀ value expiresAt, s.redis name = some (value, expiresAt) → s.now + ms < expiresAt) :
    ((Cmd.tick ms).exec exec s).get name = s.get name := by
  show (s.redis name).bind (fun entry => if s.now + ms < entry.2 then some entry.1 else none) =
    (s.redis name).bind fun entry => if s.now < entry.2 then some entry.1 else none
  cases hentry : s.redis name with
  | none => rfl
  | some entry =>
    have hlive := h entry.1 entry.2 hentry
    rw [Option.bind_some, Option.bind_some, if_pos hlive, if_pos (by omega)]

theorem effect (hcond : NoLateRetry key i w c) (hguar : Guar key i w c) :
    Effect exec key w.store c := by
  have hne := lockKey_ne_redisKey key
  cases c with
  | acquire other =>
    by_cases hfree : w.store.get (lockKey other) = none
    · have hexec := @exec_acquire_of_free τ ℓ exec other w.store hfree
      by_cases hother : other = key
      · obtain rfl := hother
        refine .acquire rfl hfree ?_ ?_
        · rw [hexec, get_update_self]
          rfl
        · rw [hexec, get_update_of_ne hne.symm]
      · refine .same (fun hc => absurd (Cmd.acquire.inj hc) hother) ?_ ?_
        · rw [hexec, get_update_of_ne fun h => hother (lockKey_inj.mp h.symm)]
        · rw [hexec, get_update_of_ne (hcond.2 hother).1.symm]
    · have hexec : (Cmd.acquire other).exec exec w.store = w.store :=
        if_pos (Option.isSome_iff_ne_none.mpr hfree)
      refine .same (fun hc => ?_) (by rw [hexec]) (by rw [hexec])
      obtain rfl := Cmd.acquire.inj hc
      exact hfree
  | store other response =>
    by_cases hother : other = key
    · obtain rfl := hother
      exact .store response rfl (get_update_of_ne hne _) (get_update_self response)
    · exact .same nofun (get_update_of_ne (hguar.2 hother).symm _)
        (get_update_of_ne (fun h => hother (redisKey_inj.mp h.symm)) _)
  | release other =>
    by_cases hother : other = key
    · obtain rfl := hother
      exact .release rfl get_update_none (get_update_of_ne hne.symm _)
    · exact .same nofun (get_update_of_ne (fun h => hother (lockKey_inj.mp h.symm)) _)
        (get_update_of_ne (hguar.2 hother).symm _)
  | tick ms => exact .same nofun (get_tick (hcond _ (Or.inl rfl))) (get_tick (hcond _ (Or.inr rfl)))
  | _ => exact .same nofun rfl rfl

/-- Entries that do not expire before the next step. -/
theorem live_act (hw : Inv key w) (hcond : NoLateRetry key i w c) (name : String)
    (hname : name = lockKey key ∨ name = redisKey key) (value : Json) (expiresAt : ℕ)
    (h : (c.exec exec w.store).redis name = some (value, expiresAt)) :
    (c.exec exec w.store).now < expiresAt := by
  have hlive := hw.live name hname value expiresAt
  have hset : ∀ other (new : Json),
      Function.update w.store.redis other (some (new, w.store.now + keyTtl)) name =
        some (value, expiresAt) → w.store.now < expiresAt := by
    intro other new hentry
    by_cases hother : name = other
    · obtain rfl := hother
      rw [Function.update_self] at hentry
      obtain ⟨-, rfl⟩ := Prod.mk.inj (Option.some.inj hentry)
      exact Nat.lt_add_of_pos_right (by decide)
    · rw [Function.update_of_ne hother] at hentry
      exact hlive hentry
  cases c with
  | acquire other =>
    by_cases hfree : w.store.get (lockKey other) = none
    · rw [exec_acquire_of_free hfree] at h ⊢
      exact hset (lockKey other) _ h
    · have hexec : (Cmd.acquire other).exec exec w.store = w.store :=
        if_pos (Option.isSome_iff_ne_none.mpr hfree)
      rw [hexec] at h ⊢
      exact hlive h
  | store other response => exact hset (redisKey other) response h
  | release other =>
    have hentry : Function.update w.store.redis (lockKey other) none name = some (value, expiresAt) :=
      h
    by_cases hother : name = lockKey other
    · rw [hother, Function.update_self] at hentry
      cases hentry
    · rw [Function.update_of_ne hother] at hentry
      exact hlive hentry
  | tick ms => exact hcond name hname value expiresAt h
  | _ => exact hlive h

/-- Nobody has acquired a lock that a request finds free. -/
theorem not_acquired_of_free (hw : Inv key w) (hcond : NoLateRetry key i w (.acquire key))
    (hfree : w.store.get (lockKey key) = none) (j : ℕ) : ¬ Acquired key j w := by
  intro hj
  rcases hw.kept j hj with hlock | hcached
  · rw [hfree] at hlock
    cases hlock
  · rw [hcond.1 rfl hfree] at hcached
    cases hcached

theorem not_handles (hw : Inv key w) (hi : Acquired key i w) (hnot : ¬ w.Did i (· = .handle key)) :
    w.trace.countP (handles key) = 0 := by
  refine List.countP_eq_zero.mpr fun e he hhandles => ?_
  have hkind : e.kind = .did (.handle key) := by
    unfold handles at hhandles
    split at hhandles
    · rename_i other heq
      rw [heq, of_decide_eq_true hhandles]
    · cases hhandles
  have hdid : w.Did e.tid (· = .handle key) := ⟨e, he, rfl, _, hkind, rfl⟩
  rw [hw.one e.tid i (hw.handled e.tid hdid) hi] at hdid
  exact hnot hdid

theorem inv_act (hw : Inv key w) (hcond : NoLateRetry key i w c) (hguar : Guar key i w c) :
    Inv key (act exec w i c) := by
  have heffect : Effect exec key w.store c := effect hcond hguar
  refine ⟨live_act hw hcond, ?_, ?_, ?_, ?_, ?_, ?_, ?_, ?_⟩
  · intro j k hj hk
    rcases acquired_act.mp hj with ⟨hij, hc, hfree⟩ | hbefore
    · rcases acquired_act.mp hk with ⟨hik, -, -⟩ | hbefore
      · exact hij.symm.trans hik
      · rw [hc] at hcond
        exact absurd hbefore (not_acquired_of_free hw hcond hfree k)
    · rcases acquired_act.mp hk with ⟨-, hc, hfree⟩ | hbefore'
      · rw [hc] at hcond
        exact absurd hbefore (not_acquired_of_free hw hcond hfree j)
      · exact hw.one j k hbefore hbefore'
  · intro j hj
    rw [World.store_act]
    cases heffect with
    | same hacquire hlock hcached =>
      rw [hlock, hcached]
      rcases acquired_act.mp hj with ⟨-, hc, hfree⟩ | hj
      · exact absurd hfree (hacquire hc)
      · exact hw.kept j hj
    | acquire hc hfree hlock hcached => exact Or.inl hlock
    | store response hc hlock hcached => exact Or.inr (by rw [hcached]; rfl)
    | release hc hlock hcached =>
      rw [hcached]
      rw [hc] at hguar
      exact Or.inr (hguar.1 rfl).2
  · intro hlocked
    rw [World.store_act] at hlocked
    cases heffect with
    | same hacquire hlock hcached =>
      rw [hlock] at hlocked
      exact (hw.locked hlocked).imp fun _ => acquired_mono
    | acquire hc hfree hlock hcached => exact ⟨i, acquired_act.mpr (Or.inl ⟨rfl, hc, hfree⟩)⟩
    | store response hc hlock hcached =>
      rw [hlock] at hlocked
      exact (hw.locked hlocked).imp fun _ => acquired_mono
    | release hc hlock hcached =>
      rw [hlock] at hlocked
      cases hlocked
  · intro response hresponse
    rw [World.store_act] at hresponse
    have hold : w.store.get (redisKey key) = some response →
        ∃ j, Acquired key j (act exec w i c) ∧
          (act exec w i c).Did j (· = .respond key response) := fun h =>
      (hw.cached response h).imp fun _ hj => ⟨acquired_mono hj.1, did_act hj.2⟩
    cases heffect with
    | same hacquire hlock hcached => exact hold (hcached.symm.trans hresponse)
    | acquire hc hfree hlock hcached => exact hold (hcached.symm.trans hresponse)
    | store stored hc hlock hcached =>
      obtain rfl := Option.some.inj (hcached.symm.trans hresponse)
      rw [hc] at hguar
      obtain ⟨hacquired, hdid⟩ := hguar.1 rfl
      exact ⟨i, acquired_mono hacquired, did_act hdid⟩
    | release hc hlock hcached => exact hold (hcached.symm.trans hresponse)
  · intro j hj
    rcases World.did_act.mp hj with ⟨rfl, rfl⟩ | hj
    · exact acquired_mono (hguar rfl).1
    · exact acquired_mono (hw.handled j hj)
  · rw [countP_act]
    split_ifs with hhandles
    · have hc : c = .handle key := by
        unfold handles at hhandles
        split at hhandles
        · rename_i other heq
          rw [EventKind.did.inj heq, of_decide_eq_true hhandles]
        · cases hhandles
      rw [hc] at hguar
      obtain ⟨hacquired, hnot⟩ := hguar rfl
      rw [not_handles hw hacquired hnot]
    · exact hw.once
  · intro j response hj
    have hold : (∃ k, Acquired key k w ∧ w.Did k (· = .handle key) ∧
        w.Did k (· = .respond key response)) → ∃ k, Acquired key k (act exec w i c) ∧
          (act exec w i c).Did k (· = .handle key) ∧
          (act exec w i c).Did k (· = .respond key response) := fun h =>
      h.imp fun _ hk => ⟨acquired_mono hk.1, did_act hk.2.1, did_act hk.2.2⟩
    rcases World.did_act.mp hj with ⟨rfl, rfl⟩ | hj
    · rcases hguar rfl with ⟨hacquired, hhandled, -⟩ | hother
      · exact ⟨i, acquired_mono hacquired, did_act hhandled, World.did_act.mpr (Or.inl ⟨rfl, rfl⟩)⟩
      · exact hold hother
    · exact hold (hw.responded j response hj)
  · intro j response response' hj hresponse hresponse'
    -- a thread that has acquired the lock just now has not responded
    have hacquired : ∀ r, w.Did j (· = .respond key r) → Acquired key j w := by
      intro r hr
      rcases acquired_act.mp hj with ⟨rfl, rfl, hfree⟩ | hj
      · obtain ⟨k, hk, -⟩ := hw.responded i r hr
        exact absurd hk (not_acquired_of_free hw hcond hfree k)
      · exact hj
    have hnew : ∀ r r', c = .respond key r → i = j → w.Did j (· = .respond key r') → r = r' := by
      rintro r r' rfl rfl hr'
      have hi := hacquired r' hr'
      rcases hguar rfl with ⟨-, -, hnone⟩ | ⟨k, hk, -, hr⟩
      · obtain ⟨e, he, htid, c, hkind, hc⟩ := hr'
        exact absurd ⟨e, he, htid, c, hkind, r', hc⟩ hnone
      · obtain rfl := hw.one k i hk hi
        exact hw.same k r r' hi hr hr'
    rcases World.did_act.mp hresponse with ⟨hij, hc⟩ | hr
    · rcases World.did_act.mp hresponse' with ⟨-, hc'⟩ | hr'
      · exact (Cmd.respond.inj (hc.symm.trans hc')).2
      · exact hnew response response' hc hij hr'
    · rcases World.did_act.mp hresponse' with ⟨hij, hc'⟩ | hr'
      · exact (hnew response' response hc' hij hr).symm
      · exact hw.same j response response' (hacquired response hr) hr hr'

/-- A cached response stays cached. -/
theorem cached_act (hcond : NoLateRetry key i w c) (hguar : Guar key i w c)
    (h : (w.store.get (redisKey key)).isSome = true) :
    ((act exec w i c).store.get (redisKey key)).isSome = true := by
  have heffect : Effect exec key w.store c := effect hcond hguar
  rw [World.store_act]
  cases heffect with
  | same hacquire hlock hcached => rw [hcached, h]
  | acquire hc hfree hlock hcached => rw [hcached, h]
  | store response hc hlock hcached => rw [hcached]; rfl
  | release hc hlock hcached => rw [hcached, h]

/-- The rules of the runs. -/
def protocol (exec : ℓ → τ → τ) (fault : ε → Prop) (key : String) :
    Protocol (system exec : System (Store τ) (Cmd ℓ) ε Unit) where
  cond := NoLateRetry key
  fault := fault
  inv := Inv key
  guar := Guar key
  inv_step := by
    intro w i c n hinv hcond hguar _ _
    rw [World.step_of_no_handlers rfl]
    exact inv_act hinv hcond hguar

/-! ### The threads -/

section Threads

variable {fault : ε → Prop} {conflict : ε}

/-- What a request with the key can end in. -/
def Served (conflict : ε) (fault : ε → Prop) (key : String) (i : ℕ) (r : Except ε Unit)
    (w : World (Store τ) (Cmd ℓ)) : Prop :=
  w.Did i (· = .handle key) ∨ (∃ response, w.Did i (· = .respond key response)) ∨
    (r = .error conflict ∧ FoundLocked key i w) ∨ ∃ e, fault e ∧ r = .error e

/-- What the history says is not undone by a step. -/
theorem stable_of_act {A : World (Store τ) (Cmd ℓ) → Prop}
    (hA : ∀ w j c, j ≠ i → NoLateRetry key j w c → Guar key j w c → A w → A (act exec w j c)) :
    (protocol exec fault key).Stable i A := by
  rintro w _ ⟨j, c, n, hj, -, -, -, -, hcond, hguar, rfl⟩ h
  rw [World.step_of_no_handlers rfl]
  exact hA w j c hj hcond hguar h

theorem stable_acquired : (protocol exec fault key).Stable i (Acquired key j) :=
  stable_of_act fun _ _ _ _ _ _ h => acquired_mono h

theorem foundLocked_mono (h : FoundLocked key j w) : FoundLocked key j (act exec w i c) := by
  obtain ⟨e, he, hrest⟩ := h
  exact ⟨e, List.mem_cons_of_mem _ he, hrest⟩

theorem served_mono {r : Except ε Unit} (h : Served conflict fault key j r w) :
    Served conflict fault key j r (act exec w i c) := by
  rcases h with h | ⟨response, h⟩ | ⟨hr, h⟩ | h
  · exact Or.inl (did_act h)
  · exact Or.inr (Or.inl ⟨response, did_act h⟩)
  · exact Or.inr (Or.inr (Or.inl ⟨hr, foundLocked_mono h⟩))
  · exact Or.inr (Or.inr (Or.inr h))

/-- The thread has acquired the lock, and runs the handler. -/
structure Running (key : String) (i : ℕ) (w : World (Store τ) (Cmd ℓ)) : Prop where
  acquired : Acquired key i w
  handled : w.Did i (· = .handle key)
  silent : ¬ w.Did i fun c => ∃ before, c = .respond key before

/-- The commands of a handler. -/
def IsApp : Cmd ℓ → Prop
  | .app _ => True
  | _ => False

theorem frame_running : (protocol exec fault key).Frame i IsApp (Running key i) where
  stable := stable_of_act fun w j c hj _ _ h =>
    ⟨acquired_mono h.acquired, did_act h.handled, fun hdid => by
      rcases World.did_act.mp hdid with ⟨heq, -⟩ | hdid
      · exact hj heq
      · exact h.silent hdid⟩
  performs := by
    intro c w hc hw _ _
    cases c with
    | app c =>
      refine ⟨trivial, fun n _ _ => ?_⟩
      rw [World.step_of_no_handlers rfl]
      refine ⟨acquired_mono hw.acquired, did_act hw.handled, fun hdid => ?_⟩
      rcases World.did_act.mp hdid with ⟨-, before, heq⟩ | hdid
      · cases heq
      · exact hw.silent hdid
    | _ => cases hc

/-- The guarantee of the command holds anyway. -/
def Free (τ : Type) (key : String) (c : Cmd ℓ) : Prop :=
  ∀ i (w : World (Store τ) (Cmd ℓ)), Guar key i w c

theorem frame_free : (protocol exec fault key).Frame i (Free τ key) fun _ => True where
  stable := fun _ _ _ _ => trivial
  performs := fun hc _ _ _ => ⟨hc _ _, fun _ _ _ => trivial⟩

theorem only_handler {H : Cmd ℓ → Prop} (h : ∀ c, H (.app c)) (request : Request τ ℓ ε) :
    request.handler.Only H :=
  Async.only_embed h request.next

/-- The response is sent and cached, and the lock deleted. -/
theorem wp_respond (response : Json) (hw : Running key i w) :
    (protocol exec fault key).wp i
      ((Async.emit (.respond key response)).bind fun _ =>
        (Async.perform (.store key response)).bind fun _ => Async.perform (.release key))
      (Served conflict fault key i) w := by
  have hserved : ∀ (r : Except ε Unit) (v : World (Store τ) (Cmd ℓ)),
      v.Did i (· = .handle key) → Served conflict fault key i r v := fun _ _ h => Or.inl h
  have hresponded : (protocol exec fault key).Stable i fun w => Acquired key i w ∧
      w.Did i (· = .handle key) ∧ w.Did i (· = .respond key response) :=
    stable_acquired.and ((Protocol.stable_did i _).and (Protocol.stable_did i _))
  refine Protocol.wp_read_bind frame_running.stable hw fun v hv _ _ => ?_
  refine ⟨fun _ => Or.inl ⟨hv.acquired, hv.handled, hv.silent⟩, fun n _ _ => ?_⟩
  rw [World.step_of_no_handlers rfl]
  refine Protocol.wp_query_bind hresponded ?_ (fun v hv _ hcond => ?_)
    fun _ v _ hv _ => hserved _ v hv.2.1
  · exact ⟨acquired_mono hv.acquired, did_act hv.handled, World.did_act.mpr (Or.inl ⟨rfl, rfl⟩)⟩
  · have hguar : Guar key i v (.store key response) :=
      ⟨fun _ => ⟨hv.1, hv.2.2⟩, fun hne => absurd rfl hne⟩
    refine ⟨hguar, fun n _ _ => ?_⟩
    rw [World.step_of_no_handlers rfl]
    have hcached : ((act exec v i (.store key response)).store.get (redisKey key)).isSome = true := by
      rw [World.store_act]
      show (Store.get { v.store with redis := _ } _).isSome = true
      rw [get_update_self]
      rfl
    have hstable : (protocol exec fault key).Stable i fun w =>
        (Acquired key i w ∧ w.Did i (· = .handle key)) ∧
          (w.store.get (redisKey key)).isSome = true :=
      (stable_acquired.and (Protocol.stable_did i _)).and
        (stable_of_act fun _ _ _ _ hcond hguar h => cached_act hcond hguar h)
    refine Protocol.wp_query hstable ⟨⟨acquired_mono hv.1, did_act hv.2.1⟩, hcached⟩
      (fun u hu _ _ => ?_) fun _ u _ hu _ => hserved _ u hu.1.2
    refine ⟨⟨fun _ => ⟨hu.1.1, hu.2⟩, fun hne => absurd rfl hne⟩, fun n _ _ => ?_⟩
    rw [World.step_of_no_handlers rfl]
    exact hserved _ _ (did_act hu.1.2)

/-- The request that has acquired the lock. -/
theorem wp_execute (request : Request τ ℓ ε) (hacquired : Acquired key i w)
    (hhandled : ¬ w.Did i (· = .handle key))
    (hsilent : ¬ w.Did i fun c => ∃ before, c = .respond key before) :
    (protocol exec fault key).wp i
      ((Async.emit (.handle key)).bind fun _ => request.handler.bind fun response =>
        (Async.emit (.respond key response)).bind fun _ =>
          (Async.perform (.store key response)).bind fun _ => Async.perform (.release key))
      (Served conflict fault key i) w := by
  have hstable : (protocol exec fault key).Stable i fun w => Acquired key i w ∧
      ¬ w.Did i (· = .handle key) ∧ ¬ w.Did i fun c => ∃ before, c = .respond key before :=
    stable_acquired.and ((Protocol.stable_not_did i _).and (Protocol.stable_not_did i _))
  refine Protocol.wp_read_bind hstable ⟨hacquired, hhandled, hsilent⟩ fun v hv _ _ => ?_
  refine ⟨fun _ => ⟨hv.1, hv.2.1⟩, fun n _ _ => ?_⟩
  rw [World.step_of_no_handlers rfl]
  have hrunning : Running key i (act exec v i (.handle key)) := by
    refine ⟨acquired_mono hv.1, World.did_act.mpr (Or.inl ⟨rfl, rfl⟩), fun hdid => ?_⟩
    rcases World.did_act.mp hdid with ⟨-, before, heq⟩ | hdid
    · cases heq
    · exact hv.2.2 hdid
  exact frame_running.wp_bind (only_handler (fun _ => trivial) request) hrunning
    (fun response u hu => wp_respond response hu) fun _ u hu => Or.inl hu.handled

/-- The request that has found the lock taken. -/
theorem wp_lookUp (hw : ∃ j, Acquired key j w) :
    (protocol exec fault key).wp i
      ((Async.query (.read key) fun s => s.get (redisKey key)).bind fun cached =>
        match cached with
        | some cached => Async.emit (.respond key cached)
        | none => Async.throw conflict) (Served conflict fault key i) w := by
  obtain ⟨j, hj⟩ := hw
  refine Protocol.wp_query_bind stable_acquired hj (fun v hv hinv hcond => ⟨trivial, fun n _ _ => ?_⟩)
    fun e _ he _ _ => Or.inr (Or.inr (Or.inr ⟨e, he, rfl⟩))
  rw [World.step_of_no_handlers rfl]
  cases hcached : v.store.get (redisKey key) with
  | none =>
    refine Or.inr (Or.inr (Or.inl ⟨rfl, _, List.mem_cons_self, rfl, rfl, ?_, hcached⟩))
    rcases hinv.kept j hv with hlock | hsome
    · exact hlock
    · rw [hcached] at hsome
      cases hsome
  | some response =>
    -- the thread that has cached the response has sent it before
    obtain ⟨k, hk, hdid⟩ := hinv.cached response hcached
    obtain ⟨k', hk', hhandled, hdid'⟩ := hinv.responded k response hdid
    have hstable : (protocol exec fault key).Stable i fun w => Acquired key k' w ∧
        w.Did k' (· = .handle key) ∧ w.Did k' (· = .respond key response) :=
      stable_of_act fun _ _ _ _ _ _ h => ⟨acquired_mono h.1, did_act h.2.1, did_act h.2.2⟩
    refine Protocol.wp_read_bind (g := fun r => Async.done (.ok r)) hstable
      ⟨acquired_mono hk', did_act hhandled, did_act hdid'⟩ fun u hu _ _ => ?_
    refine ⟨fun _ => Or.inr ⟨k', hu⟩, fun n _ _ => Or.inr (Or.inl ⟨response, ?_⟩)⟩
    rw [World.step_of_no_handlers rfl]
    exact World.did_act.mpr (Or.inl ⟨rfl, rfl⟩)

theorem wp_intercept (request : Request τ ℓ ε) (hidle : ¬ w.Did i fun _ => True) :
    (protocol exec fault key).wp i (intercept conflict request)
      (fun r w => request.key? = some key → Served conflict fault key i r w) w := by
  have hnot : ∀ (v : World (Store τ) (Cmd ℓ)) H, ¬ v.Did i (fun _ => True) → ¬ v.Did i H :=
    fun v H hv ⟨e, he, htid, c, hkind, _⟩ => hv ⟨e, he, htid, c, hkind, trivial⟩
  have hignored : ∀ {p : Async (Store τ) (Cmd ℓ) ε Unit} {v : World (Store τ) (Cmd ℓ)},
      request.key? ≠ some key → p.Only (Free τ key) →
      (protocol exec fault key).wp i p
        (fun r w => request.key? = some key → Served conflict fault key i r w) v :=
    fun hkey hp => Protocol.wp_mono (fun _ _ _ heq => absurd heq hkey) (frame_free.wp hp trivial)
  have hhandler : request.handler.Only (Free τ key) := only_handler (fun _ _ _ => trivial) request
  unfold intercept
  split
  · rename_i hkey
    exact hignored (by rw [hkey]; exact nofun) (hhandler.bind fun _ => trivial)
  · rename_i other hkey
    refine Protocol.wp_query_bind (Protocol.stable_not_did i _) hidle
      (fun v hv hinv hcond => ⟨trivial, fun n _ _ => ?_⟩) fun e _ he _ _ _ =>
        Or.inr (Or.inr (Or.inr ⟨e, he, rfl⟩))
    rw [World.step_of_no_handlers rfl]
    by_cases hother : other = key
    · obtain rfl := hother
      refine Protocol.wp_mono (fun _ _ h _ => h) ?_
      cases hfree : v.store.get (lockKey other) with
      | none =>
        refine wp_execute request (acquired_act.mpr (Or.inl ⟨rfl, rfl, hfree⟩)) (fun hdid => ?_)
          fun hdid => ?_
        · rcases World.did_act.mp hdid with ⟨-, heq⟩ | hdid
          · cases heq
          · exact hnot v _ hv hdid
        · rcases World.did_act.mp hdid with ⟨-, before, heq⟩ | hdid
          · cases heq
          · exact hnot v _ hv hdid
      | some lock =>
        refine wp_lookUp ((hinv.locked (by rw [hfree]; rfl)).imp fun _ => acquired_mono)
    · -- another key
      obtain ⟨hlock, hredis⟩ := hcond.2 hother
      have hne : request.key? ≠ some key := by
        rw [hkey]
        exact fun heq => hother (Option.some.inj heq)
      refine hignored hne ?_
      cases (v.store.get (lockKey other)).isNone with
      | true =>
        refine Async.only_emit_bind.mpr ⟨fun _ _ heq => absurd heq hother, fun _ => ?_⟩
        refine hhandler.bind fun response => ?_
        refine Async.only_emit_bind.mpr ⟨fun _ _ heq => absurd heq hother, fun _ => ?_⟩
        refine Async.only_perform_bind.mpr ⟨fun _ _ => ⟨fun heq => absurd heq hother, fun _ => hredis⟩,
          fun _ => Async.only_perform.mpr fun _ _ => ⟨fun heq => absurd heq hother, fun _ => hlock⟩⟩
      | false =>
        refine Async.only_query_bind.mpr ⟨fun _ _ => trivial, fun s => ?_⟩
        cases s.get (redisKey other) with
        | none => trivial
        | some response => exact Async.only_emit.mpr fun _ _ heq => absurd heq hother

theorem wp_wait (ms : ℕ) :
    (protocol exec fault key).wp i (Async.perform (.tick ms)) (fun _ _ => True) w :=
  have hfree : Free τ key (.tick ms : Cmd ℓ) := fun _ _ => trivial
  frame_free.wp (Async.only_perform.mpr hfree) trivial

end Threads

/-- What a thread that runs a request with the key ends in. -/
def post (conflict : ε) (fault : ε → Prop) (key : String) (calls : List (Call τ ℓ ε)) (i : ℕ)
    (r : Except ε Unit) (w : World (Store τ) (Cmd ℓ)) : Prop :=
  ∀ request, calls[i]? = some (.request request) → request.key? = some key →
    Served conflict fault key i r w

theorem inv_start {s : Store τ} (hlock : s.redis (lockKey key) = none)
    (hcached : s.redis (redisKey key) = none) : Inv key (⟨s, []⟩ : World (Store τ) (Cmd ℓ)) := by
  have hnone : ∀ name, s.redis name = none → s.get name = none := fun name h => by
    rw [Store.get, h, Option.bind_none]
  have hacquired : ∀ i, ¬ Acquired key i (⟨s, []⟩ : World (Store τ) (Cmd ℓ)) :=
    fun i ⟨e, he, _⟩ => by cases he
  have hdid : ∀ i (H : Cmd ℓ → Prop), ¬ World.Did ⟨s, []⟩ i H := fun i H ⟨e, he, _⟩ => by cases he
  refine ⟨?_, fun i _ hi => absurd hi (hacquired i), fun i hi => absurd hi (hacquired i), ?_, ?_,
    fun i hi => absurd hi (hdid i _), Nat.zero_le 1, fun i _ hi => absurd hi (hdid i _),
    fun i _ _ hi => absurd hi (hacquired i)⟩
  · rintro name (rfl | rfl) value expiresAt hentry
    · rw [hlock] at hentry
      cases hentry
    · rw [hcached] at hentry
      cases hentry
  · intro hlocked
    rw [hnone _ hlock] at hlocked
    cases hlocked
  · intro response hresponse
    rw [hnone _ hcached] at hresponse
    cases hresponse

theorem wp_call {conflict : ε} {fault : ε → Prop} {calls : List (Call τ ℓ ε)} {call : Call τ ℓ ε}
    (hcall : calls[i]? = some call) (hidle : ¬ w.Did i fun _ => True) :
    (protocol exec fault key).wp i (call.program conflict) (post conflict fault key calls i) w := by
  cases call with
  | wait ms =>
    refine Protocol.wp_mono (fun _ _ _ request hrequest => ?_) (wp_wait ms)
    rw [hcall] at hrequest
    cases hrequest
  | request request =>
    refine Protocol.wp_mono (fun _ _ h request' hrequest hkey => ?_) (wp_intercept request hidle)
    rw [hcall] at hrequest
    obtain rfl := Call.request.inj (Option.some.inj hrequest)
    exact h hkey

end Once

open Once in
/-- If no request with the key comes in after the lock was deleted, then the handler runs once at most,
and once if there is a response; every response is that of the request that has run it; and every request
with the key runs the handler, gets the response, finds the lock taken or fails with Redis or the
handler. -/
theorem handler_runs_once (exec : ℓ → τ → τ) (conflict : ε) (fault : ε → Prop) (key : String)
    (s : Store τ) (hlock : s.redis (lockKey key) = none) (hcached : s.redis (redisKey key) = none)
    (calls : List (Call τ ℓ ε)) {p : Pool (Store τ) (Cmd ℓ) ε Unit}
    (hrun : Pool.Run (system exec) (NoLateRetry key) fault (start conflict s calls) p) :
    p.world.trace.countP (handles key) ≤ 1 ∧
      (∀ j response, p.world.Did j (· = .respond key response) →
        p.world.trace.countP (handles key) = 1 ∧
          ∃ i, p.world.Did i (· = .handle key) ∧ p.world.Did i (· = .respond key response) ∧
            ∀ response', p.world.Did i (· = .respond key response') → response' = response) ∧
      ∀ j request r, calls[j]? = some (.request request) → request.key? = some key →
        p.threads[j]? = some (.done r) → Served conflict fault key j r p.world := by
  have hstart : (protocol exec fault key).Safe (post conflict fault key calls)
      (start conflict s calls) := by
    refine Protocol.safe_init (inv_start hlock hcached) fun i t ht => ?_
    rw [List.getElem?_map] at ht
    obtain ⟨call, hcall, rfl⟩ := Option.map_eq_some_iff.mp ht
    exact wp_call hcall fun ⟨e, he, _⟩ => absurd he List.not_mem_nil
  have hstable : ∀ i r, (protocol exec fault key).Stable i (post conflict fault key calls i r) :=
    fun i r => stable_of_act fun _ _ _ _ _ _ h request hcall hkey =>
      served_mono (h request hcall hkey)
  have hhandlers : (protocol exec fault key).HandlersKeep (post conflict fault key calls) := by
    intro c k h hk
    cases hk
  have hsafe := hstart.run hstable hhandlers hrun
  refine ⟨hsafe.inv.once, fun j response hj => ?_, fun j request r hcall hkey hdone =>
    hsafe.threads hdone request hcall hkey⟩
  obtain ⟨i, hi, hhandled, hresponse⟩ := hsafe.inv.responded j response hj
  refine ⟨?_, i, hhandled, hresponse, fun response' h => hsafe.inv.same i _ _ hi h hresponse⟩
  have hpos : 0 < p.world.trace.countP (handles key) := by
    obtain ⟨e, he, -, c, hkind, rfl⟩ := hhandled
    refine List.countP_pos_iff.mpr ⟨e, he, ?_⟩
    rw [handles, hkind]
    exact decide_eq_true rfl
  have hle := hsafe.inv.once
  omega

/-! ### Runs -/

instance (key : String) (i : ℕ) (w : World (Store τ) (Cmd ℓ)) (c : Cmd ℓ) :
    Decidable (NoLateRetry key i w c) := by
  cases c with
  | acquire other => exact inferInstanceAs (Decidable (_ ∧ _))
  | tick ms =>
    refine decidable_of_iff (∀ name ∈ [lockKey key, redisKey key], ∀ entry ∈ w.store.redis name,
      w.store.now + ms < entry.2) ⟨fun h name hname value expiresAt hentry => ?_,
        fun h name hname entry hentry => ?_⟩
    · exact h name (by simpa using hname) (value, expiresAt) hentry
    · exact h name (by simpa using hname) entry.1 entry.2 hentry
  | _ => exact inferInstanceAs (Decidable True)

namespace Once

/-- `createTrip` adds a trip to those there are, and the app sends the request twice. -/
def twice : List (Call ℕ Unit String) :=
  let request : Request ℕ Unit String :=
    { isIdempotent := true, idempotencyKey := some "k", next := Async.query () fun trips => .num trips }
  [.request request, .request request]

def trips : System (Store ℕ) (Cmd Unit) String Unit := system fun _ trips => trips + 1

/-- The second request finds the lock taken, and the response cached when it looks. -/
def during : List ℕ := [0, 0, 0, 0, 1, 0, 0, 1, 1]

/-- The second request comes in after the first one has ended. -/
def after : List ℕ := [0, 0, 0, 0, 0, 0, 1, 1, 1, 1, 1, 1]

end Once

open Once in
/-- One of two requests runs the handler, and both get its response. -/
theorem handler_runs_once_during :
    ∃ q : Pool (Store ℕ) (Cmd Unit) String Unit, q.Finished ∧ q.world.store.app = 1 ∧
      q.world.trace.countP (handles "k") ≤ 1 := by
  obtain ⟨q, hrun, hfinished, happ⟩ := Pool.exists_run_of_schedule? trips (NoLateRetry "k")
    (fun _ => False) (start "409" { app := 0 } twice) during
    (fun q => q.Finished ∧ q.world.store.app = 1) (by decide +kernel)
  exact ⟨q, hfinished, happ,
    (handler_runs_once _ "409" _ "k" { app := 0 } rfl rfl twice hrun).1⟩

open Once in
/-- The same request after the first one has ended makes a second trip. -/
theorem handler_runs_twice :
    ∃ q, Pool.Run trips (fun _ _ _ => True) (fun _ => False) (start "409" { app := 0 } twice) q ∧
      q.Finished ∧ q.world.store.app = 2 ∧ ¬ q.world.trace.countP (handles "k") ≤ 1 :=
  Pool.exists_run_of_schedule? trips (fun _ _ _ => True) (fun _ => False)
    (start "409" { app := 0 } twice) after
    (fun q => q.Finished ∧ q.world.store.app = 2 ∧ ¬ q.world.trace.countP (handles "k") ≤ 1)
    (by decide +kernel)

end Telima.Idempotency
