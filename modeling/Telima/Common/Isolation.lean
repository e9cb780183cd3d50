import Telima.Async.History
import Telima.Common.Idempotency
import Mathlib.Algebra.Order.Field.Rat
import Mathlib.Tactic.Linarith

/-!
# Whose response a request gets

The name in Redis is made of the key alone: neither the user nor the route is in it.  A request that finds
the lock of its key taken gets what is cached under its key, whoever has cached it.  And the lock of `k` has
the name of the response of `k:lock`, so that the `1` of the former can be taken for the latter.  Every
response is that of the request itself or of an earlier one of the same user on the same route with the
same key if and only if no two requests of different origins share a key and no three requests have keys
that meet in this way (`responses_isolated_iff`).
-/

namespace Telima.Idempotency

variable {τ ℓ ε ω : Type}

/-- The key of a request that comes in. -/
def Call.key? : Call τ ℓ ε → Option String
  | request r => r.key?
  | wait _ => none

/-- Every response is sent by a request that has run its handler, or has been sent before, for the same
key, by one of the same origin that had run its handler.  The origin of a request is its user and its
route. -/
def Isolated (origin : ℕ → ω) (w : World (Store τ) (Cmd ℓ)) : Prop :=
  ∀ d i key response, w.DidAt d i (.respond key response) →
    (∃ b < d, w.DidAt b i (.handle key)) ∨
      ∃ c j, c < d ∧ origin j = origin i ∧ w.DidAt c j (.respond key response) ∧
        ∃ b < c, w.DidAt b j (.handle key)

/-- Requests with the same key have the same origin, and no request meets the lock of another key in the
place of its response. -/
structure Separate (origin : ℕ → ω) (keys : List (Option String)) : Prop where
  own : ∀ (i j : ℕ) (key : String), keys[i]? = some (some key) → keys[j]? = some (some key) → origin i = origin j
  apart : ∀ (i j l : ℕ) (key : String), keys[i]? = some (some (key ++ ":lock")) →
    keys[j]? = some (some key) → l ≠ i → keys[l]? ≠ some (some (key ++ ":lock")) ∧
      keys[l]? ≠ some (some (key ++ ":lock" ++ ":lock"))

theorem lockKey_eq (key : String) : lockKey key = redisKey (key ++ ":lock") :=
  String.append_assoc

theorem redisKey_eq_lockKey {key other : String} :
    redisKey other = lockKey key ↔ other = key ++ ":lock" := by
  rw [lockKey_eq, redisKey_inj]

namespace Isolation

variable {exec : ℓ → τ → τ} {origin : ℕ → ω} {keys : List (Option String)} {i j : ℕ}
  {w : World (Store τ) (Cmd ℓ)} {c : Cmd ℓ}

abbrev next (exec : ℓ → τ → τ) (w : World (Store τ) (Cmd ℓ)) (i : ℕ) (c : Cmd ℓ) :
    World (Store τ) (Cmd ℓ) := w.act (Cmd.exec exec) i c

/-! ### Where an entry of Redis comes from -/

/-- The request has run its handler. -/
def Handled (key : String) (i : ℕ) (w : World (Store τ) (Cmd ℓ)) : Prop :=
  ∃ b, w.DidAt b i (.handle key)

/-- The request has run its handler and sent the response. -/
def Responded (key : String) (i : ℕ) (response : Json) (w : World (Store τ) (Cmd ℓ)) : Prop :=
  ∃ c, w.DidAt c i (.respond key response) ∧ ∃ b < c, w.DidAt b i (.handle key)

theorem handled_next {key : String} (h : Handled key j w) : Handled key j (next exec w i c) :=
  h.imp fun _ => World.DidAt.act

theorem responded_next {key : String} {response : Json} (h : Responded key j response w) :
    Responded key j response (next exec w i c) := by
  obtain ⟨a, hdid, b, hlt, hhandled⟩ := h
  exact ⟨a, hdid.act, b, hlt, hhandled.act⟩

/-- An entry is the lock of a request that has come in, or the response of one that has run its
handler. -/
inductive Entry (keys : List (Option String)) (w : World (Store τ) (Cmd ℓ)) (name : String)
    (value : Json) : Prop
  | lock (j : ℕ) (key : String) (hkey : keys[j]? = some (some key))
      (hdid : w.Did j (· = .acquire key)) (hname : name = lockKey key)
  | response (j : ℕ) (key : String) (hkey : keys[j]? = some (some key))
      (hresponded : Responded key j value w) (hname : name = redisKey key)

theorem Entry.next {name : String} {value : Json} (h : Entry keys w name value) :
    Entry keys (next exec w i c) name value := by
  cases h with
  | lock j key hkey hdid hname => exact .lock j key hkey (World.did_act.mpr (Or.inr hdid)) hname
  | response j key hkey hresponded hname => exact .response j key hkey (responded_next hresponded) hname

/-- Where the entries come from, and whose responses were sent. -/
structure Inv (origin : ℕ → ω) (keys : List (Option String)) (w : World (Store τ) (Cmd ℓ)) : Prop where
  entries : ∀ name value expiresAt, w.store.redis name = some (value, expiresAt) →
    Entry keys w name value
  isolated : Isolated origin w

/-- A request uses its own key, caches its own response and answers with it or with one of the same
origin. -/
def Guar (origin : ℕ → ω) (keys : List (Option String)) (i : ℕ) (w : World (Store τ) (Cmd ℓ)) :
    Cmd ℓ → Prop
  | .acquire key => keys[i]? = some (some key)
  | .store key response => keys[i]? = some (some key) ∧ Responded key i response w
  | .respond key response => Handled key i w ∨
      ∃ j, origin j = origin i ∧ Responded key j response w
  | _ => True

theorem entries_next (hw : Inv origin keys w) (hguar : Guar origin keys i w c) (name : String)
    (value : Json) (expiresAt : ℕ) (h : (c.exec exec w.store).redis name = some (value, expiresAt)) :
    Entry keys (next exec w i c) name value := by
  have hold : w.store.redis name = some (value, expiresAt) → Entry keys (next exec w i c) name value :=
    fun hentry => (hw.entries name value expiresAt hentry).next
  cases c with
  | acquire key =>
    by_cases hfree : w.store.get (lockKey key) = none
    · rw [Once.exec_acquire_of_free hfree] at h
      by_cases hname : name = lockKey key
      · have hvalue : value = .num 1 := by
          rw [hname] at h
          have hentry := (Function.update_self _ _ _).symm.trans h
          exact (Prod.mk.inj (Option.some.inj hentry)).1.symm
        have hdid : (next exec w i (.acquire key)).Did i (· = .acquire key) :=
          World.did_act.mpr (Or.inl ⟨rfl, rfl⟩)
        rw [hvalue]
        exact .lock i key hguar hdid hname
      · exact hold ((Function.update_of_ne hname _ _).symm.trans h)
    · have hexec : (Cmd.acquire key).exec exec w.store = w.store :=
        if_pos (Option.isSome_iff_ne_none.mpr hfree)
      rw [hexec] at h
      exact hold h
  | store key response =>
    by_cases hname : name = redisKey key
    · have hvalue : value = response := by
        rw [hname] at h
        have hentry := (Function.update_self _ _ _).symm.trans h
        exact (Prod.mk.inj (Option.some.inj hentry)).1.symm
      rw [hvalue]
      exact .response i key hguar.1 (responded_next hguar.2) hname
    · exact hold ((Function.update_of_ne hname _ _).symm.trans h)
  | release key =>
    by_cases hname : name = lockKey key
    · rw [hname] at h
      have hentry := (Function.update_self _ _ _).symm.trans h
      cases hentry
    · exact hold ((Function.update_of_ne hname _ _).symm.trans h)
  | _ => exact hold h

theorem isolated_next (hw : Isolated origin w) (hguar : Guar origin keys i w c) :
    Isolated origin (next exec w i c) := by
  intro d j key response hdid
  rcases World.didAt_act.mp hdid with hbefore | ⟨rfl, rfl, rfl⟩
  · rcases hw d j key response hbefore with ⟨b, hlt, hhandled⟩ | ⟨a, l, hlt, horigin, hsent, b, hb, hhandled⟩
    · exact Or.inl ⟨b, hlt, hhandled.act⟩
    · exact Or.inr ⟨a, l, hlt, horigin, hsent.act, b, hb, hhandled.act⟩
  · rcases hguar with ⟨b, hhandled⟩ | ⟨l, horigin, a, hsent, b, hb, hhandled⟩
    · exact Or.inl ⟨b, hhandled.lt, hhandled.act⟩
    · exact Or.inr ⟨a, l, hsent.lt, horigin, hsent.act, b, hb, hhandled.act⟩

/-- The rules of the runs: anything may happen. -/
def protocol (exec : ℓ → τ → τ) (fault : ε → Prop) (origin : ℕ → ω) (keys : List (Option String)) :
    Protocol (system exec : System (Store τ) (Cmd ℓ) ε Unit) where
  cond _ _ _ := True
  fault := fault
  inv := Inv origin keys
  guar := Guar origin keys
  inv_step := by
    intro w i c n hinv _ hguar _ _
    rw [World.step_of_no_handlers rfl]
    exact ⟨entries_next hinv hguar, isolated_next hinv.isolated hguar⟩

/-! ### The threads -/

section Threads

variable {fault : ε → Prop} {conflict : ε} {key : String}

/-- What the history says is not undone by a step. -/
theorem stable_of_next {A : World (Store τ) (Cmd ℓ) → Prop}
    (hA : ∀ w j c, A w → A (next exec w j c)) : (protocol exec fault origin keys).Stable i A := by
  rintro w _ ⟨j, c, n, -, -, -, -, -, -, -, rfl⟩ h
  rw [World.step_of_no_handlers rfl]
  exact hA w j c h

/-- The commands of a handler. -/
def IsApp : Cmd ℓ → Prop
  | .app _ => True
  | _ => False

theorem frame_app {A : World (Store τ) (Cmd ℓ) → Prop} (hA : ∀ w j c, A w → A (next exec w j c)) :
    (protocol exec fault origin keys).Frame i IsApp A where
  stable := stable_of_next hA
  performs := by
    intro c w hc hw _ _
    cases c with
    | app c =>
      refine ⟨trivial, fun n _ _ => ?_⟩
      rw [World.step_of_no_handlers rfl]
      exact hA w i _ hw
    | _ => cases hc

theorem isApp_handler (request : Request τ ℓ ε) : request.handler.Only IsApp :=
  Async.only_embed (fun _ => trivial) request.next

/-- The response is sent, cached and the lock deleted. -/
theorem wp_respond (response : Json) (hkey : keys[i]? = some (some key)) (hw : Handled key i w) :
    (protocol exec fault origin keys).wp i
      ((Async.emit (.respond key response)).bind fun _ =>
        (Async.perform (.store key response)).bind fun _ => Async.perform (.release key))
      (fun _ _ => True) w := by
  have hhandled : (protocol exec fault origin keys).Stable i (Handled key i) :=
    stable_of_next fun _ _ _ => handled_next
  have hresponded : (protocol exec fault origin keys).Stable i (Responded key i response) :=
    stable_of_next fun _ _ _ => responded_next
  refine Protocol.wp_read_bind hhandled hw fun v hv _ _ => ⟨Or.inl hv, fun n _ _ => ?_⟩
  rw [World.step_of_no_handlers rfl]
  have hsent : Responded key i response (next exec v i (.respond key response)) := by
    obtain ⟨b, hb⟩ := hv
    exact ⟨v.moment, World.didAt_act.mpr (Or.inr ⟨rfl, rfl, rfl⟩), b, hb.lt, hb.act⟩
  refine Protocol.wp_query_bind hresponded hsent (fun u hu _ _ => ⟨⟨hkey, hu⟩, fun n _ _ => ?_⟩)
    fun _ _ _ _ _ => trivial
  refine Protocol.wp_query (Protocol.stable_const i True) trivial (fun u _ _ _ => ?_)
    fun _ _ _ _ _ => trivial
  exact ⟨trivial, fun _ _ _ => trivial⟩

/-- The request that has acquired the lock. -/
theorem wp_execute (request : Request τ ℓ ε) (hkey : keys[i]? = some (some key)) :
    (protocol exec fault origin keys).wp i
      ((Async.emit (.handle key)).bind fun _ => request.handler.bind fun response =>
        (Async.emit (.respond key response)).bind fun _ =>
          (Async.perform (.store key response)).bind fun _ => Async.perform (.release key))
      (fun _ _ => True) w := by
  refine Protocol.wp_read_bind (Protocol.stable_const i True) trivial fun v _ _ _ =>
    ⟨trivial, fun n _ _ => ?_⟩
  rw [World.step_of_no_handlers rfl]
  have hhandled : Handled key i (next exec v i (.handle key)) :=
    ⟨v.moment, World.didAt_act.mpr (Or.inr ⟨rfl, rfl, rfl⟩)⟩
  exact (frame_app fun _ _ _ => handled_next).wp_bind (isApp_handler request) hhandled
    (fun response u hu => wp_respond response hkey hu) fun _ _ _ => trivial

/-- Whoever has taken the lock of a key that another request asks for has the key, or that of the
response that has the name of the lock. -/
theorem exists_holder (hw : Inv origin keys w) (hidle : ¬ w.Did i fun _ => True)
    (hlocked : w.store.get (lockKey key) ≠ none) :
    ∃ l, l ≠ i ∧ (keys[l]? = some (some key) ∨ keys[l]? = some (some (key ++ ":lock"))) := by
  have hnot : ∀ H, ¬ w.Did i H := fun H ⟨e, he, htid, c, hkind, _⟩ => hidle ⟨e, he, htid, c, hkind, trivial⟩
  obtain ⟨entry, hentry⟩ : ∃ entry, w.store.redis (lockKey key) = some entry := by
    rw [← Option.ne_none_iff_exists']
    intro hnone
    rw [Store.get, hnone] at hlocked
    exact hlocked rfl
  cases hw.entries (lockKey key) entry.1 entry.2 hentry with
  | lock l other hother hdid hname =>
    obtain rfl := lockKey_inj.mp hname
    refine ⟨l, fun hl => ?_, Or.inl hother⟩
    rw [hl] at hdid
    exact hnot _ hdid
  | response l other hother hresponded hname =>
    obtain rfl := redisKey_eq_lockKey.mp hname.symm
    refine ⟨l, fun hl => ?_, Or.inr hother⟩
    obtain ⟨a, hdid, -⟩ := hresponded
    rw [hl] at hdid
    exact hnot (fun _ => True) (hdid.did trivial)

/-- What a request of a separate key finds cached is the response of one of its own origin. -/
theorem responded_of_cached (hseparate : Separate origin keys) (hw : Inv origin keys w)
    (hkey : keys[i]? = some (some key)) {l : ℕ} (hl : l ≠ i)
    (hlock : keys[l]? = some (some key) ∨ keys[l]? = some (some (key ++ ":lock"))) {response : Json}
    (hcached : w.store.get (redisKey key) = some response) :
    ∃ j, origin j = origin i ∧ Responded key j response w := by
  obtain ⟨entry, hentry, hlive⟩ := Option.bind_eq_some_iff.mp hcached
  have hvalue : entry.1 = response := by
    split_ifs at hlive with hnow
    exact Option.some.inj hlive
  cases hw.entries (redisKey key) entry.1 entry.2 hentry with
  | lock j other hother hdid hname =>
    -- the lock of another key in the place of the response
    obtain rfl := redisKey_eq_lockKey.mp hname
    obtain ⟨hsame, hmore⟩ := hseparate.apart i j l other hkey hother hl
    rcases hlock with h | h
    · exact absurd h hsame
    · exact absurd h hmore
  | response j other hother hresponded hname =>
    obtain rfl := redisKey_inj.mp hname
    rw [hvalue] at hresponded
    exact ⟨j, hseparate.own j i key hother hkey, hresponded⟩

theorem wp_intercept (hseparate : Separate origin keys) (request : Request τ ℓ ε)
    (hkeys : keys[i]? = some request.key?) (hidle : ¬ w.Did i fun _ => True) :
    (protocol exec fault origin keys).wp i (intercept conflict request) (fun _ _ => True) w := by
  unfold intercept
  split
  · exact Protocol.wp_as ((frame_app fun _ _ _ _ => trivial).wp (isApp_handler request) trivial)
  · rename_i key hrequest
    rw [hrequest] at hkeys
    refine Protocol.wp_query_bind (Protocol.stable_not_did i _) hidle
      (fun v hv hinv _ => ⟨hkeys, fun n _ _ => ?_⟩) fun _ _ _ _ _ => trivial
    rw [World.step_of_no_handlers rfl]
    cases hfree : v.store.get (lockKey key) with
    | none => exact wp_execute request hkeys
    | some lock =>
      have hlocked : v.store.get (lockKey key) ≠ none := by
        rw [hfree]
        exact nofun
      obtain ⟨l, hl, hlock⟩ := exists_holder hinv hv hlocked
      refine Protocol.wp_query_bind (Protocol.stable_const i True) trivial
        (fun u _ hinv _ => ⟨trivial, fun n _ _ => ?_⟩) fun _ _ _ _ _ => trivial
      rw [World.step_of_no_handlers rfl]
      cases hcached : u.store.get (redisKey key) with
      | none => trivial
      | some response =>
        have hsent := responded_of_cached hseparate hinv hkeys hl hlock hcached
        have hstable : (protocol exec fault origin keys).Stable i
            fun w => ∃ j, origin j = origin i ∧ Responded key j response w :=
          stable_of_next fun _ _ _ h => h.imp fun _ hj => ⟨hj.1, responded_next hj.2⟩
        have hsent' : ∃ j, origin j = origin i ∧
            Responded key j response (next exec u i (.read key)) :=
          hsent.imp fun _ hj => ⟨hj.1, responded_next hj.2⟩
        refine Protocol.wp_read_bind (g := fun r => Async.done (.ok r)) hstable hsent' fun v hv _ _ => ?_
        exact ⟨Or.inr hv, fun _ _ _ => trivial⟩

end Threads

end Isolation

open Isolation in
/-- Requests with separate keys get their own responses, or earlier ones of the same origin. -/
theorem isolated_of_separate (exec : ℓ → τ → τ) (conflict : ε) (fault : ε → Prop) (now : ℕ) (app : τ)
    {origin : ℕ → ω} {calls : List (Call τ ℓ ε)} (hseparate : Separate origin (calls.map Call.key?))
    {p : Pool (Store τ) (Cmd ℓ) ε Unit}
    (hrun : Pool.Run (system exec) (fun _ _ _ => True) fault
      (start conflict { now := now, app := app } calls) p) : Isolated origin p.world := by
  have hinv : Inv origin (calls.map Call.key?)
      (⟨{ now := now, app := app }, []⟩ : World (Store τ) (Cmd ℓ)) := by
    refine ⟨fun name value expiresAt hentry => ?_, fun d i key response hdid => ?_⟩
    · cases hentry
    · exact absurd hdid.lt (Nat.not_lt_zero d)
  have hstart : (protocol exec fault origin (calls.map Call.key?)).Safe (fun _ _ _ => True)
      (start conflict { now := now, app := app } calls) := by
    refine Protocol.safe_init hinv fun i t ht => ?_
    rw [List.getElem?_map] at ht
    obtain ⟨call, hcall, rfl⟩ := Option.map_eq_some_iff.mp ht
    have hkey : (calls.map Call.key?)[i]? = some call.key? := by
      rw [List.getElem?_map, hcall]
      rfl
    cases call with
    | request request =>
      exact wp_intercept hseparate request hkey fun ⟨e, he, _⟩ => absurd he List.not_mem_nil
    | wait ms =>
      refine Protocol.wp_query (Protocol.stable_const i True) trivial (fun u _ _ _ => ?_)
        fun _ _ _ _ _ => trivial
      exact ⟨trivial, fun _ _ _ => trivial⟩
  exact (hstart.run (fun i _ => Protocol.stable_const i True) (fun _ _ _ hk => by cases hk)
    hrun).inv.isolated

/-! ### Runs in which a request gets the response of another -/

/-- The same request, or the same wait, where the handlers return different responses at once. -/
def Call.answered (i : ℕ) : Call τ ℓ ε → Call τ ℓ ε
  | request r => request { r with next := Async.done (.ok (.num (i + 2))) }
  | wait ms => wait ms

def answered (calls : List (Call τ ℓ ε)) : List (Call τ ℓ ε) := calls.mapIdx Call.answered

namespace Isolation

variable {exec : ℓ → τ → τ} {origin : ℕ → ω} {i j : ℕ} {w : World (Store τ) (Cmd ℓ)} {c : Cmd ℓ}
  {key other : String} {response : Json}

theorem key?_answered (call : Call τ ℓ ε) : (call.answered i).key? = call.key? := by
  cases call <;> rfl

theorem map_key?_answered (calls : List (Call τ ℓ ε)) :
    (answered calls).map Call.key? = calls.map Call.key? := by
  refine List.ext_getElem? fun k => ?_
  rw [List.getElem?_map, List.getElem?_map, answered, List.getElem?_mapIdx]
  cases calls[k]? with
  | none => rfl
  | some call => exact congrArg some (key?_answered call)

/-- A request that returns at once. -/
structure Answers (request : Request τ ℓ ε) (key : String) (response : Json) : Prop where
  key : request.key? = some key
  next : request.next = Async.done (.ok response)

theorem thread_answered (conflict : ε) (s : Store τ) {calls : List (Call τ ℓ ε)}
    (hkey : (calls.map Call.key?)[i]? = some (some key)) :
    ∃ request : Request τ ℓ ε, Answers request key (.num (i + 2)) ∧
      (start conflict s (answered calls)).threads[i]? = some (intercept conflict request) := by
  rw [List.getElem?_map] at hkey
  obtain ⟨call, hcall, hkey⟩ := Option.map_eq_some_iff.mp hkey
  cases call with
  | wait ms => cases hkey
  | request r =>
    refine ⟨{ r with next := Async.done (.ok (.num (i + 2))) }, ⟨hkey, rfl⟩, ?_⟩
    show ((answered calls).map (Call.program conflict))[i]? = _
    rw [List.getElem?_map, answered, List.getElem?_mapIdx, hcall]
    rfl

/-! ### One request alone -/

/-- The request acquires the lock, runs its handler and sends its response. -/
abbrev sent (exec : ℓ → τ → τ) (w : World (Store τ) (Cmd ℓ)) (i : ℕ) (key : String) (response : Json) :
    World (Store τ) (Cmd ℓ) :=
  next exec (next exec (next exec w i (.acquire key)) i (.handle key)) i (.respond key response)

/-- What is left of the request then. -/
def caching (key : String) (response : Json) : Async (Store τ) (Cmd ℓ) ε Unit :=
  (Async.perform (.store key response)).bind fun _ => Async.perform (.release key)

/-- The request finds the lock taken and a response cached. -/
abbrev looked (exec : ℓ → τ → τ) (w : World (Store τ) (Cmd ℓ)) (i : ℕ) (key : String)
    (response : Json) : World (Store τ) (Cmd ℓ) :=
  next exec (next exec (next exec w i (.acquire key)) i (.read key)) i (.respond key response)

section Alone

variable {conflict : ε} {request : Request τ ℓ ε}

theorem sends_alone (hanswers : Answers request key response)
    (hfree : w.store.get (lockKey key) = none) :
    RunsAlone (Cmd.exec exec) i (intercept conflict request) w (caching key response)
      (sent exec w i key response) := by
  have hhandler : request.handler = Async.done (.ok response) := by
    rw [Request.handler, hanswers.next]
    rfl
  have hisNone : (w.store.get (lockKey key)).isNone = true := by
    rw [hfree]
    rfl
  rw [intercept_of_key hanswers.key, hhandler]
  refine .step (c := .acquire key) rfl ?_
  show RunsAlone _ _ (if (w.store.get (lockKey key)).isNone = true then _ else _) _ _ _
  rw [if_pos hisNone]
  exact .step rfl (.step rfl .refl)

theorem caches_alone (hanswers : Answers request key response)
    (hfree : w.store.get (lockKey key) = none) :
    RunsAlone (Cmd.exec exec) i (intercept conflict request) w (Async.perform (.release key))
      (next exec (sent exec w i key response) i (.store key response)) :=
  (sends_alone hanswers hfree).trans (.step rfl .refl)

theorem looks_alone (hkey : request.key? = some key) (hlocked : w.store.get (lockKey key) ≠ none)
    (hcached : w.store.get (redisKey key) = some response) :
    RunsAlone (Cmd.exec exec) i (intercept conflict request) w (Async.done (.ok ()))
      (looked exec w i key response) := by
  have hisNone : (w.store.get (lockKey key)).isNone ≠ true := by
    intro h
    exact hlocked (Option.isNone_iff_eq_none.mp h)
  have hexec : (Cmd.acquire key).exec exec w.store = w.store :=
    if_pos (Option.isSome_iff_ne_none.mpr hlocked)
  have hstill : (next exec w i (.acquire key)).store.get (redisKey key) = some response := by
    rw [World.store_act, hexec, hcached]
  rw [intercept_of_key hkey]
  refine .step (c := .acquire key) rfl ?_
  show RunsAlone _ _ (if (w.store.get (lockKey key)).isNone = true then _ else _) _ _ _
  rw [if_neg hisNone]
  refine .step (c := .read key) rfl ?_
  show RunsAlone _ _ (answer conflict key ((next exec w i (.acquire key)).store.get (redisKey key))) _ _ _
  rw [hstill]
  exact .step rfl .refl

end Alone

/-- The lock of a request that has sent its response. -/
theorem get_sent_self (hfree : w.store.get (lockKey key) = none) :
    (sent exec w i key response).store.get (lockKey key) = some (.num 1) := by
  show ((Cmd.acquire key).exec exec w.store).get (lockKey key) = _
  rw [Once.exec_acquire_of_free hfree, Once.get_update_self]

theorem get_sent_of_ne (hfree : w.store.get (lockKey key) = none) {name : String}
    (hname : name ≠ lockKey key) :
    (sent exec w i key response).store.get name = w.store.get name := by
  show ((Cmd.acquire key).exec exec w.store).get name = _
  rw [Once.exec_acquire_of_free hfree, Once.get_update_of_ne hname]

/-- The response is not the request's own, nor that of one of its origin. -/
structure Strange (origin : ℕ → ω) (key : String) (i : ℕ) (response : Json)
    (w : World (Store τ) (Cmd ℓ)) : Prop where
  idle : ∀ b, ¬ w.DidAt b i (.handle key)
  foreign : ∀ a j, w.DidAt a j (.respond key response) → origin j ≠ origin i

theorem Strange.step (h : Strange origin key i response w) (hhandle : c = .handle key → j ≠ i)
    (hrespond : c = .respond key response → origin j ≠ origin i) :
    Strange origin key i response (next exec w j c) := by
  refine ⟨fun b hdid => ?_, fun a l hdid => ?_⟩
  · rcases World.didAt_act.mp hdid with hdid | ⟨-, hj, hc⟩
    · exact h.idle b hdid
    · exact hhandle hc hj
  · rcases World.didAt_act.mp hdid with hdid | ⟨-, rfl, hc⟩
    · exact h.foreign a l hdid
    · exact hrespond hc

theorem Strange.acquire (h : Strange origin key i response w) :
    Strange origin key i response (next exec w j (.acquire other)) := by
  apply h.step
  · intro hc
    cases hc
  · intro hc
    cases hc

theorem Strange.sent {new : Json} (h : Strange origin key i response w) (hj : j ≠ i)
    (hrespond : other = key → new = response → origin j ≠ origin i) :
    Strange origin key i response (sent exec w j other new) := by
  have hhandled : Strange origin key i response
      (Isolation.next exec (Isolation.next exec w j (.acquire other)) j (.handle other)) := by
    apply h.acquire.step
    · intro _
      exact hj
    · intro hc
      cases hc
  apply hhandled.step
  · intro hc
    cases hc
  · intro hc
    obtain ⟨hother, hnew⟩ := Cmd.respond.inj hc
    exact hrespond hother hnew

theorem Strange.store {new : Json} (h : Strange origin key i response w) :
    Strange origin key i response (Isolation.next exec w j (.store other new)) := by
  apply h.step
  · intro hc
    cases hc
  · intro hc
    cases hc

/-- A request that answers with a strange response. -/
theorem Strange.not_isolated (h : Strange origin key i response w) :
    ¬ Isolated origin (looked exec w i key response) := by
  have hread : Strange origin key i response
      (Isolation.next exec (Isolation.next exec w i (.acquire key)) i (.read key)) := by
    apply h.acquire.step
    · intro hc
      cases hc
    · intro hc
      cases hc
  intro hisolated
  have hlast : (looked exec w i key response).DidAt (w.moment + 2) i (.respond key response) :=
    World.didAt_act.mpr (Or.inr ⟨rfl, rfl, rfl⟩)
  rcases hisolated _ i key response hlast with ⟨b, -, hhandled⟩ | ⟨a, j, hlt, horigin, hdid, -⟩
  · rcases World.didAt_act.mp hhandled with hhandled | ⟨-, -, hc⟩
    · exact hread.idle b hhandled
    · cases hc
  · rcases World.didAt_act.mp hdid with hdid | ⟨ha, -⟩
    · exact hread.foreign a j hdid horigin
    · simp at ha
      omega

theorem strange_start {s : Store τ} :
    Strange origin key i response (⟨s, []⟩ : World (Store τ) (Cmd ℓ)) :=
  ⟨fun b hdid => absurd hdid.lt (Nat.not_lt_zero b), fun a _ hdid => absurd hdid.lt (Nat.not_lt_zero a)⟩

/-! ### Two and three requests -/

section Several

variable {conflict : ε}

/-- Some request of the pool runs alone, from one await to another. -/
theorem exists_run_alone (exec : ℓ → τ → τ) (fault : ε → Prop)
    {p : Pool (Store τ) (Cmd ℓ) ε Unit} {t t' : Async (Store τ) (Cmd ℓ) ε Unit}
    {w' : World (Store τ) (Cmd ℓ)} (hfree : p.current = none) (hi : p.threads[i]? = some t)
    (h : RunsAlone (Cmd.exec exec) i t p.world t' w') (hawait : t'.isSync = false) :
    ∃ q, Pool.Run (system exec) (fun _ _ _ => True) fault p q ∧ q.world = w' ∧ q.current = none ∧
      ∀ j, j ≠ i → q.threads[j]? = p.threads[j]? := by
  obtain ⟨q, hrun, hworld, hthreads, hturn⟩ := Pool.run_of_runsAlone (S := system exec)
    (fun _ => rfl) fault h rfl hi (Or.inl hfree)
  refine ⟨q, hrun, hworld, ?_, fun j hj => ?_⟩
  · rcases hturn with hnone | ⟨-, hsync⟩
    · exact hnone
    · rw [hawait] at hsync
      cases hsync
  · rw [hthreads, List.getElem?_set_ne (Ne.symm hj)]

/-- The request `i` finds the lock of its key taken, and a strange response under its key. -/
theorem exists_not_isolated (exec : ℓ → τ → τ) (fault : ε → Prop)
    {p : Pool (Store τ) (Cmd ℓ) ε Unit} {request : Request τ ℓ ε}
    (hfree : p.current = none) (hi : p.threads[i]? = some (intercept conflict request))
    (hkey : request.key? = some key) (hlocked : p.world.store.get (lockKey key) ≠ none)
    (hcached : p.world.store.get (redisKey key) = some response)
    (hstrange : Strange origin key i response p.world) :
    ∃ q, Pool.Run (system exec) (fun _ _ _ => True) fault p q ∧ ¬ Isolated origin q.world := by
  obtain ⟨q, hrun, hworld, -⟩ := exists_run_alone exec fault hfree hi
    (looks_alone hkey hlocked hcached) rfl
  refine ⟨q, hrun, ?_⟩
  rw [hworld]
  exact hstrange.not_isolated

/-- Two requests of different origins with the same key: the second one comes in before the first one has
deleted its lock, and gets its response. -/
theorem broken_of_shared (exec : ℓ → τ → τ) (conflict : ε) (fault : ε → Prop) (now : ℕ) (app : τ)
    {calls : List (Call τ ℓ ε)} (hi : (calls.map Call.key?)[i]? = some (some key))
    (hj : (calls.map Call.key?)[j]? = some (some key)) (horigin : origin j ≠ origin i) :
    ∃ q, Pool.Run (system exec) (fun _ _ _ => True) fault
      (start conflict { now := now, app := app } (answered calls)) q ∧ ¬ Isolated origin q.world := by
  obtain ⟨first, hfirst, hthread⟩ := thread_answered conflict { now := now, app := app } hj
  obtain ⟨second, hsecond, hthread'⟩ := thread_answered conflict { now := now, app := app } hi
  have hne : i ≠ j := fun h => horigin (by rw [h])
  obtain ⟨p, hrun, hworld, hcurrent, hothers⟩ := exists_run_alone exec fault rfl
    hthread (caches_alone hfirst rfl) rfl
  have hlocked : p.world.store.get (lockKey key) = some (.num 1) := by
    rw [hworld]
    show Store.get { (sent exec _ j key (.num (j + 2))).store with redis := _ } (lockKey key) = _
    rw [Once.get_update_of_ne (lockKey_ne_redisKey key)]
    exact get_sent_self rfl
  have hcached : p.world.store.get (redisKey key) = some (.num (j + 2)) := by
    rw [hworld]
    exact Once.get_update_self _
  have hstrange : Strange origin key i (.num (j + 2)) p.world := by
    rw [hworld]
    exact (strange_start.sent hne.symm fun _ _ => horigin).store
  obtain ⟨q, hrun', hbroken⟩ := exists_not_isolated exec fault hcurrent
    ((hothers i hne).trans hthread') hsecond.key (by rw [hlocked]; exact nofun) hcached hstrange
  exact ⟨q, hrun.trans hrun', hbroken⟩

theorem length_lock (key : String) : (key ++ ":lock").length = key.length + 5 := by
  have hlock : ":lock".length = 5 := by decide
  rw [String.length_append, hlock]

theorem lock_ne (key : String) : key ++ ":lock" ≠ key := by
  intro h
  have hlength := congrArg String.length h
  rw [length_lock] at hlength
  omega

theorem lock_lock_ne (key : String) : key ++ ":lock" ++ ":lock" ≠ key := by
  intro h
  have hlength := congrArg String.length h
  rw [length_lock, length_lock] at hlength
  omega

/-- The request `l` makes the lock of `k:lock` look taken, and leaves that of `k` alone. -/
theorem exists_run_holding (exec : ℓ → τ → τ) (conflict : ε) (fault : ε → Prop) (now : ℕ) (app : τ)
    (origin : ℕ → ω) {calls : List (Call τ ℓ ε)} {l : ℕ} (hl : l ≠ i)
    (hkey : (calls.map Call.key?)[l]? = some (some (key ++ ":lock")) ∨
      (calls.map Call.key?)[l]? = some (some (key ++ ":lock" ++ ":lock"))) :
    ∃ p, Pool.Run (system exec) (fun _ _ _ => True) fault
      (start conflict { now := now, app := app } (answered calls)) p ∧ p.current = none ∧
        (∀ j, j ≠ l → p.threads[j]? =
          (start conflict ({ now := now, app := app } : Store τ) (answered calls)).threads[j]?) ∧
        p.world.store.get (lockKey (key ++ ":lock")) ≠ none ∧
        p.world.store.get (lockKey key) = none ∧
        Strange origin (key ++ ":lock") i (.num 1) p.world := by
  have hnumber : (.num (l + 2) : Json) ≠ .num 1 := by
    intro h
    have heq := Json.num.inj h
    have hpos : (0 : ℚ) ≤ l := Nat.cast_nonneg l
    linarith
  have hsent : ∀ other, Strange origin (key ++ ":lock") i (.num 1)
      (sent exec (⟨{ now := now, app := app }, []⟩ : World (Store τ) (Cmd ℓ)) l other (.num (l + 2))) :=
    fun other => strange_start.sent hl fun _ h => absurd h hnumber
  have hne := lock_ne key
  have hne' := lock_ne (key ++ ":lock")
  rcases hkey with hkey | hkey
  · obtain ⟨request, hanswers, hthread⟩ := thread_answered conflict { now := now, app := app } hkey
    obtain ⟨p, hrun, hworld, hcurrent, hothers⟩ := exists_run_alone exec fault rfl
      hthread (sends_alone hanswers rfl) rfl
    refine ⟨p, hrun, hcurrent, hothers, ?_, ?_, ?_⟩
    · rw [hworld, get_sent_self rfl]
      exact nofun
    · rw [hworld, get_sent_of_ne rfl fun h => hne (lockKey_inj.mp h).symm]
      rfl
    · rw [hworld]
      exact hsent _
  · obtain ⟨request, hanswers, hthread⟩ := thread_answered conflict { now := now, app := app } hkey
    obtain ⟨p, hrun, hworld, hcurrent, hothers⟩ := exists_run_alone exec fault rfl
      hthread (caches_alone hanswers rfl) rfl
    refine ⟨p, hrun, hcurrent, hothers, ?_, ?_, ?_⟩
    · -- its response has the name of the lock
      rw [hworld, lockKey_eq]
      show Store.get { (sent exec _ l _ (.num (l + 2))).store with redis := _ } (redisKey _) ≠ _
      rw [Once.get_update_self]
      exact nofun
    · have hname : lockKey key ≠ redisKey (key ++ ":lock" ++ ":lock") := by
        intro h
        exact hne' (redisKey_eq_lockKey.mp h.symm)
      have hname' : lockKey key ≠ lockKey (key ++ ":lock" ++ ":lock") := by
        intro h
        exact lock_lock_ne key (lockKey_inj.mp h).symm
      rw [hworld]
      show Store.get { (sent exec _ l _ (.num (l + 2))).store with redis := _ } (lockKey key) = _
      rw [Once.get_update_of_ne hname, get_sent_of_ne rfl hname']
      rfl
    · rw [hworld]
      exact (hsent _).store

/-- Three requests with keys that meet: the lock of `k` is taken for the response of `k:lock`. -/
theorem broken_of_meeting (exec : ℓ → τ → τ) (conflict : ε) (fault : ε → Prop) (now : ℕ) (app : τ)
    (origin : ℕ → ω) {calls : List (Call τ ℓ ε)} {l : ℕ}
    (hi : (calls.map Call.key?)[i]? = some (some (key ++ ":lock")))
    (hj : (calls.map Call.key?)[j]? = some (some key)) (hl : l ≠ i)
    (hkey : (calls.map Call.key?)[l]? = some (some (key ++ ":lock")) ∨
      (calls.map Call.key?)[l]? = some (some (key ++ ":lock" ++ ":lock"))) :
    ∃ q, Pool.Run (system exec) (fun _ _ _ => True) fault
      (start conflict { now := now, app := app } (answered calls)) q ∧ ¬ Isolated origin q.world := by
  obtain ⟨p, hrun, hcurrent, hothers, hlocked, hfree, hstrange⟩ :=
    exists_run_holding exec conflict fault now app origin hl hkey
  obtain ⟨first, hfirst, hthread⟩ := thread_answered conflict { now := now, app := app } hj
  obtain ⟨second, hsecond, hthread'⟩ := thread_answered conflict { now := now, app := app } hi
  have hne := lock_ne key
  have hij : j ≠ i := by
    rintro rfl
    rw [hj] at hi
    exact hne (Option.some.inj (Option.some.inj hi)).symm
  have hlj : j ≠ l := by
    rintro rfl
    rw [hj] at hkey
    rcases hkey with h | h
    · exact hne (Option.some.inj (Option.some.inj h)).symm
    · exact lock_lock_ne key (Option.some.inj (Option.some.inj h)).symm
  obtain ⟨p', hrun', hworld', hcurrent', hothers'⟩ := exists_run_alone exec fault
    hcurrent ((hothers j hlj).trans hthread) (sends_alone hfirst hfree) rfl
  have hlocked' : p'.world.store.get (lockKey (key ++ ":lock")) ≠ none := by
    rw [hworld', get_sent_of_ne hfree fun h => hne (lockKey_inj.mp h)]
    exact hlocked
  have hcached : p'.world.store.get (redisKey (key ++ ":lock")) = some (.num 1) := by
    rw [hworld', ← lockKey_eq]
    exact get_sent_self hfree
  have hstrange' : Strange origin (key ++ ":lock") i (.num 1) p'.world := by
    rw [hworld']
    exact hstrange.sent hij fun h => absurd h.symm hne
  obtain ⟨q, hrun'', hbroken⟩ := exists_not_isolated exec fault hcurrent'
    ((hothers' i hij.symm).trans ((hothers i hl.symm).trans hthread')) hsecond.key hlocked' hcached
    hstrange'
  exact ⟨q, (hrun.trans hrun').trans hrun'', hbroken⟩

end Several

end Isolation

open Isolation in
/-- The responses are isolated in every interleaving, whatever the handlers do, if and only if the keys
are separate. -/
theorem responses_isolated_iff (exec : ℓ → τ → τ) (conflict : ε) (fault : ε → Prop) (now : ℕ) (app : τ)
    (origin : ℕ → ω) (calls : List (Call τ ℓ ε)) :
    (∀ calls' : List (Call τ ℓ ε), calls'.map Call.key? = calls.map Call.key? → ∀ p,
        Pool.Run (system exec) (fun _ _ _ => True) fault
          (start conflict { now := now, app := app } calls') p → Isolated origin p.world) ↔
      Separate origin (calls.map Call.key?) := by
  constructor
  · intro h
    have hnone : ∀ q, Pool.Run (system exec) (fun _ _ _ => True) fault
        (start conflict { now := now, app := app } (answered calls)) q → Isolated origin q.world :=
      h (answered calls) (map_key?_answered calls)
    refine ⟨fun i j key hi hj => ?_, fun i j l key hi hj hl => ?_⟩
    · by_contra horigin
      obtain ⟨q, hrun, hbroken⟩ := broken_of_shared exec conflict fault now app hi hj (Ne.symm horigin)
      exact hbroken (hnone q hrun)
    · by_contra hmeet
      have hkey := or_iff_not_and_not.mpr fun hnot => hmeet ⟨fun h => hnot.1 h, fun h => hnot.2 h⟩
      obtain ⟨q, hrun, hbroken⟩ :=
        broken_of_meeting exec conflict fault now app origin hi hj hl hkey
      exact hbroken (hnone q hrun)
  · intro hseparate calls' hkeys p hrun
    rw [← hkeys] at hseparate
    exact isolated_of_separate exec conflict fault now app hseparate hrun

namespace Isolation

def isHandle : Cmd Unit → Bool
  | .handle _ => true
  | _ => false

def isRespond : Cmd Unit → Bool
  | .respond _ _ => true
  | _ => false

end Isolation

open Isolation in
/-- Two users send a request with the same key, and the second one gets the trip of the first. -/
theorem responses_shared : ∃ q : Pool (Store ℕ) (Cmd Unit) String Unit,
    Pool.Run Once.trips (fun _ _ _ => True) (fun _ => False) (start "409" { app := 0 } Once.twice) q ∧
      ¬ Isolated (fun i => i) q.world := by
  obtain ⟨q, hrun, hresponds, hidle⟩ := Pool.exists_run_of_schedule? Once.trips (fun _ _ _ => True)
    (fun _ => False) (start "409" { app := 0 } Once.twice) Once.during
    (fun q => q.world.didKindAt 8 1 isRespond = true ∧
      ∀ e ∈ q.world.trace, e.tid = 1 → e.kind.performs isHandle = false) (by decide +kernel)
  have hnever : ∀ b key, ¬ q.world.DidAt b 1 (.handle key) := by
    rintro b key ⟨s, hs⟩
    have hkind := hidle _ (List.mem_reverse.mp (List.mem_of_getElem? hs)) rfl
    cases hkind
  refine ⟨q, hrun, fun hisolated => ?_⟩
  obtain ⟨c, hdid, hrespond⟩ := World.exists_didAt hresponds
  cases c <;> try cases hrespond
  rename_i key response
  rcases hisolated 8 1 key response hdid with ⟨b, -, hhandled⟩ | ⟨c, j, -, horigin, -, b, -, hhandled⟩
  · exact hnever b key hhandled
  · obtain rfl : j = 1 := horigin
    exact hnever b key hhandled

end Telima.Idempotency
