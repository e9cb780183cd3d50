import Telima.Async.Caching
import Telima.Async.Relational
import Telima.Data.ToFixed
import Telima.Distance.Service

/-!
# The Google distance provider

`GoogleDistanceProvider` asks Google for a distance, keeps the answer in Redis under the coordinates with
four decimals, and falls back to the haversine distance, which it keeps too.  What Google answers is a
parameter, as far as the code reads it: distances and durations are whole numbers.

Calls for different points can have the same key.  They have the same mode, and no coordinate is more than
a ten-thousandth of a degree away (`near_of_cacheKey_eq`).  So whatever calls come in, and whichever of their
awaits fail, each leg that is returned was computed for points as near as that, since the call looked in
Redis, or less than the life of the cache before (`legs_recent`).
-/

namespace Telima.Distance.Google

inductive Mode where
  | driving | walking | motorcycle
  deriving DecidableEq, Repr

def Mode.text : Mode → List Char
  | driving => "driving".toList
  | walking => "walking".toList
  | motorcycle => "motorcycle".toList

theorem Mode.text_injective : Function.Injective Mode.text := by
  intro mode mode' h
  cases mode <;> cases mode' <;> first | rfl | exact absurd h (by decide)

/-- The errors, all of which the provider catches but those of Redis. -/
inductive Error where
  | http (status : ℕ)
  | status (text : String)
  | syntaxError
  | typeError
  /-- Redis: `invalid expire time in 'setex' command`. -/
  | redis
  /-- A service does not answer. -/
  | unavailable
  deriving DecidableEq, Repr

/-- `data.rows[0].elements[0]`; a route that is not found has no distance. -/
structure Element where
  distance : Option ℤ
  duration : Option ℤ

structure Body where
  status : String
  element : Option Element

/-- What Google answers; `body` is what the text parses to, if it does. -/
structure Response where
  status : ℕ
  body : Option Body

/-- What is in Redis, and until when. -/
structure Store where
  redis : List Char → Option (DistanceMatrixResult × ℕ) := fun _ => none
  now : ℕ := 0

/-- The settings of the provider, and what Google answers: the mode is `driving` or `walking`. -/
structure Env where
  apiKey : String
  /-- In seconds. -/
  cacheTtl : ℕ
  google : (origin destination : Point) → Mode → (apiKey : String) → Store → Response

/-- The commands; `fallBack` writes the warnings to the log. -/
inductive Cmd where
  | get (key : List Char)
  | fetch (origin destination : Point) (mode : Mode)
  | readBody
  | setex (key : List Char) (ttl : ℕ) (result : DistanceMatrixResult)
  | fallBack (origin destination : Point) (mode : Mode)
  | tick (ms : ℕ)

def Cmd.exec : Cmd → Store → Store
  | get _, s | fetch _ _ _, s | readBody, s | fallBack _ _ _, s => s
  | setex key ttl result, s =>
    if ttl = 0 then s
    else { s with redis := Function.update s.redis key (some (result, s.now + 1000 * ttl)) }
  | tick ms, s => { s with now := s.now + ms }

abbrev Prog := Async Store Cmd Error

/-- `redis.get(key)`: what has expired is not there. -/
def Store.get (s : Store) (key : List Char) : Option DistanceMatrixResult :=
  (s.redis key).bind fun kept => if s.now < kept.2 then some kept.1 else none

/-- `${point.lat.toFixed(4)},${point.lng.toFixed(4)}` -/
def pointText (p : Point) : List Char := toFixed 4 p.lat ++ ',' :: toFixed 4 p.lng

/-- `buildCacheKey` -/
def cacheKey (origin destination : Point) (mode : Mode) : List Char :=
  "telima:distance:".toList ++ (pointText origin ++ ':' :: (pointText destination ++ ':' :: mode.text))

/-- `response.ok` -/
def Response.ok (response : Response) : Bool :=
  decide (200 ≤ response.status) && decide (response.status < 300)

/-- What `callGoogleApi` makes of the body: a motorcycle is shorter and quicker than a car. -/
def Body.result (body : Body) (origin destination : Point) (mode : Mode) :
    Except Error DistanceMatrixResult :=
  match body.element with
  | none => .error (.status body.status)
  | some element =>
    if body.status ≠ "OK" then .error (.status body.status)
    else
      match element.distance, element.duration with
      | some distanceMeters, some durationSeconds =>
        if mode = .motorcycle then
          .ok ⟨origin, destination, mathRound (distanceMeters * (7 / 10)),
            mathRound (durationSeconds * (6 / 10))⟩
        else .ok ⟨origin, destination, distanceMeters, durationSeconds⟩
      | _, _ => .error .typeError

/-- `mode === 'walking' ? 'walking' : 'driving'` -/
def googleMode (mode : Mode) : Mode := if mode = .walking then .walking else .driving

section Program

variable (env : Env) (haversine : Point → Point → ℤ)

def callGoogleApi (origin destination : Point) (mode : Mode) : Prog DistanceMatrixResult := do
  let response ← Async.query (.fetch origin destination mode)
    fun s => env.google origin destination (googleMode mode) env.apiKey s
  if !response.ok then Async.throw (.http response.status)
  else
    let body ← Async.queryE .readBody fun _ => response.body.elim (.error .syntaxError) .ok
    Async.done (body.result origin destination mode)

def haversineFallback (origin destination : Point) (mode : Mode) : Prog DistanceMatrixResult := do
  Async.emit (.fallBack origin destination mode)
  pure (estimate haversine origin destination)

/-- `await this.redis.setex(cacheKey, this.cacheTtl, JSON.stringify(result)); return result;` -/
def setex (key : List Char) (result : DistanceMatrixResult) : Prog DistanceMatrixResult := do
  Async.queryE (.setex key env.cacheTtl result) fun _ =>
    if env.cacheTtl = 0 then .error .redis else .ok ()
  pure result

def getDistanceMatrix (origin destination : Point) (mode : Mode) : Prog DistanceMatrixResult := do
  let cached ← Async.query (.get (cacheKey origin destination mode)) fun s =>
    s.get (cacheKey origin destination mode)
  match cached with
  | some result => pure result
  | none =>
    ((callGoogleApi env origin destination mode).bind
      (setex env (cacheKey origin destination mode))).tryCatch fun _ => do
        let fallback ← haversineFallback haversine origin destination mode
        setex env (cacheKey origin destination mode) fallback

def getRouteDistance (waypoints : List Point) (mode : Mode) : Prog RouteDistance :=
  routeLoop (m := Prog) (fun a b => getDistanceMatrix env haversine a b mode) waypoints {}

end Program

/-! ### The calls of a server -/

inductive Call where
  | getDistanceMatrix (origin destination : Point) (mode : Mode)
  | getRouteDistance (waypoints : List Point) (mode : Mode)
  | wait (ms : ℕ)

inductive Answer where
  | matrix (result : DistanceMatrixResult)
  | route (route : RouteDistance)
  | nothing
  deriving DecidableEq

def Call.program (env : Env) (haversine : Point → Point → ℤ) : Call → Prog Answer
  | getDistanceMatrix origin destination mode => do
    let result ← Google.getDistanceMatrix env haversine origin destination mode
    pure (.matrix result)
  | getRouteDistance waypoints mode => do
    let route ← Google.getRouteDistance env haversine waypoints mode
    pure (.route route)
  | wait ms => (Async.perform (.tick ms)).as .nothing

/-- The legs a call asks for. -/
def Call.legs : Call → List (Point × Point)
  | getDistanceMatrix origin destination _ => [(origin, destination)]
  | getRouteDistance waypoints _ => Telima.legs waypoints
  | wait _ => []

def Call.mode : Call → Mode
  | getDistanceMatrix _ _ mode | getRouteDistance _ mode => mode
  | wait _ => .driving

/-- The legs a call answers. -/
def Answer.legs : Answer → List DistanceMatrixResult
  | matrix result => [result]
  | route r => r.legs
  | nothing => []

def system : System Store Cmd Error Answer where
  exec := Cmd.exec
  handlers _ := []

/-- The calls come in, with nothing in Redis. -/
def start (env : Env) (haversine : Point → Point → ℤ) (calls : List Call) :
    Pool Store Cmd Error Answer :=
  Pool.init {} (calls.map (Call.program env haversine))

/-! ### Keys -/

/-- The points differ by a ten-thousandth of a degree at most. -/
structure Near (a b : Point) : Prop where
  lat : |a.lat - b.lat| ≤ 1 / 10 ^ 4
  lng : |a.lng - b.lng| ≤ 1 / 10 ^ 4

theorem not_mem_toFixed {x : ℚ} {c : Char} (hc : c = ',' ∨ c = ':') : c ∉ toFixed 4 x := by
  intro h
  rcases hc with rfl | rfl <;> rcases mem_toFixed h with h | h | h <;> exact absurd h (by decide)

theorem not_mem_pointText {p : Point} : ':' ∉ pointText p := by
  intro h
  rw [pointText, List.mem_append, List.mem_cons] at h
  rcases h with h | h | h
  · exact not_mem_toFixed (Or.inr rfl) h
  · exact absurd h (by decide)
  · exact not_mem_toFixed (Or.inr rfl) h

theorem near_of_pointText_eq {a b : Point} (h : pointText a = pointText b) : Near a b := by
  obtain ⟨hlat, hlng⟩ :=
    append_cons_inj_of_not_mem (not_mem_toFixed (Or.inl rfl)) (not_mem_toFixed (Or.inl rfl)) h
  exact ⟨abs_sub_le_of_toFixed_eq hlat, abs_sub_le_of_toFixed_eq hlng⟩

/-- Calls with the same key ask for the same mode, between points that are near. -/
theorem near_of_cacheKey_eq {origin origin' destination destination' : Point} {mode mode' : Mode}
    (h : cacheKey origin destination mode = cacheKey origin' destination' mode') :
    Near origin origin' ∧ Near destination destination' ∧ mode = mode' := by
  have hpoints := List.append_cancel_left h
  obtain ⟨horigin, hrest⟩ := append_cons_inj_of_not_mem not_mem_pointText not_mem_pointText hpoints
  obtain ⟨hdestination, hmode⟩ := append_cons_inj_of_not_mem not_mem_pointText not_mem_pointText hrest
  exact ⟨near_of_pointText_eq horigin, near_of_pointText_eq hdestination, Mode.text_injective hmode⟩

/-! ### The cache -/

/-- What `callGoogleApi` makes of an answer. -/
def Response.result (response : Response) (origin destination : Point) (mode : Mode) :
    Except Error DistanceMatrixResult :=
  if !response.ok then .error (.http response.status)
  else response.body.elim (.error .syntaxError) fun body => body.result origin destination mode

/-- Redis, as a cache of what Google answers and of what the fallback computes. -/
def cache (env : Env) (haversine : Point → Point → ℤ) :
    TtlCache system (List Char) DistanceMatrixResult where
  now := Store.now
  entry s key := (s.redis key).map fun kept => (kept.1, (kept.2 : ℤ))
  answer c s key :=
    match c with
    | .fetch origin destination mode =>
      if cacheKey origin destination mode = key then
        ((env.google origin destination (googleMode mode) env.apiKey s).result origin destination
          mode).toOption.map fun result => (result, ((1000 * env.cacheTtl : ℕ) : ℤ))
      else none
    | .fallBack origin destination mode =>
      if cacheKey origin destination mode = key then
        some (estimate haversine origin destination, ((1000 * env.cacheTtl : ℕ) : ℤ))
      else none
    | _ => none
  fill c s key :=
    match c with
    | .setex key' ttl result =>
      if key' = key ∧ ttl ≠ 0 then some (result, ((s.now + 1000 * ttl : ℕ) : ℤ)) else none
    | _ => none
  entry_exec := by
    intro c s key kept hentry
    cases c with
    | setex key' ttl result =>
      have hexec : ((Cmd.setex key' ttl result).exec s).redis key = if ttl = 0 then s.redis key else
          Function.update s.redis key' (some (result, s.now + 1000 * ttl)) key := by
        show (if _ then _ else _ : Store).redis key = _
        split_ifs <;> rfl
      have hentry' : (((Cmd.setex key' ttl result).exec s).redis key).map _ = some kept := hentry
      rw [hexec] at hentry'
      by_cases hfill : key' = key ∧ ttl ≠ 0
      · obtain ⟨rfl, httl⟩ := hfill
        rw [if_neg httl, Function.update_self] at hentry'
        exact Or.inl ((if_pos ⟨rfl, httl⟩).trans hentry')
      · refine Or.inr (Eq.trans ?_ hentry')
        split_ifs with httl
        · rfl
        · rw [Function.update_of_ne fun h => hfill ⟨h.symm, httl⟩]
    | _ => exact Or.inr hentry

section Proof

variable {env : Env} {haversine : Point → Point → ℤ} {lag i : ℕ} {fault : Error → Prop}
  {w w' : World Store Cmd} {origin destination : Point} {mode : Mode} {result : DistanceMatrixResult}

/-- At moment `m` the distance was computed for the points: from an answer of Google, or by the
fallback. -/
def ComputedAt (env : Env) (haversine : Point → Point → ℤ) (w : World Store Cmd) (m : ℕ)
    (origin destination : Point) (mode : Mode) (result : DistanceMatrixResult) : Prop :=
  ∃ i, (w.DidAt m i (.fetch origin destination mode) ∧
      (env.google origin destination (googleMode mode) env.apiKey (w.storeAt m)).result origin
        destination mode = .ok result) ∨
    (w.DidAt m i (.fallBack origin destination mode) ∧ result = estimate haversine origin destination)

/-- The leg that thread `i` was given is that of two points near the ones it asked for, computed since it
looked in Redis, or less than the life of the cache and `lag` before. -/
def Recent (env : Env) (haversine : Point → Point → ℤ) (lag i : ℕ) (mode : Mode)
    (leg : Point × Point) (result : DistanceMatrixResult) (w : World Store Cmd) : Prop :=
  ∃ l m origin destination, w.DidAt l i (.get (cacheKey leg.1 leg.2 mode)) ∧
    ComputedAt env haversine w m origin destination mode result ∧
    Near leg.1 origin ∧ Near leg.2 destination ∧
    (l < m ∨ (w.storeAt l).now < (w.storeAt m).now + 1000 * env.cacheTtl + lag)

theorem ComputedAt.lt {m : ℕ} (h : ComputedAt env haversine w m origin destination mode result) :
    m < w.moment := by
  obtain ⟨i, ⟨hdid, -⟩ | ⟨hdid, -⟩⟩ := h
  · exact hdid.lt
  · exact hdid.lt

theorem ComputedAt.of_suffix {m : ℕ}
    (h : ComputedAt env haversine w m origin destination mode result)
    (hsuffix : w.trace <:+ w'.trace) :
    ComputedAt env haversine w' m origin destination mode result := by
  have hstore := World.storeAt_of_suffix hsuffix h.lt
  obtain ⟨i, ⟨hdid, hresult⟩ | ⟨hdid, hresult⟩⟩ := h
  · exact ⟨i, Or.inl ⟨hdid.of_suffix hsuffix, by rwa [hstore]⟩⟩
  · exact ⟨i, Or.inr ⟨hdid.of_suffix hsuffix, hresult⟩⟩

theorem historic_recent {leg : Point × Point} :
    Protocol.Historic (Recent env haversine lag i mode leg result) := by
  intro w w' hsuffix hw
  obtain ⟨l, m, origin, destination, hl, hcomputed, horigin, hdestination, hold⟩ := hw
  refine ⟨l, m, origin, destination, hl.of_suffix hsuffix, hcomputed.of_suffix hsuffix, horigin,
    hdestination, ?_⟩
  rwa [World.storeAt_of_suffix hsuffix hcomputed.lt, World.storeAt_of_suffix hsuffix hl.lt]

/-- What is answered under a key was computed for points with that key. -/
theorem exists_computedAt {m : ℕ} {key : List Char} {life : ℤ}
    (h : (cache env haversine).AnsweredAt w m key result life) :
    ∃ origin destination mode, cacheKey origin destination mode = key ∧
      life = (1000 * env.cacheTtl : ℕ) ∧
      ComputedAt env haversine w m origin destination mode result := by
  obtain ⟨j, c, hdid, hanswer⟩ := h
  cases c with
  | fetch origin destination mode =>
    obtain ⟨hkey, hanswer⟩ := Option.ite_none_right_eq_some.mp hanswer
    obtain ⟨result', hresult, hpair⟩ := Option.map_eq_some_iff.mp hanswer
    obtain ⟨rfl, rfl⟩ := Prod.mk.inj hpair
    cases hcomputed : (env.google origin destination (googleMode mode) env.apiKey
      (w.storeAt m)).result origin destination mode with
    | error e =>
      rw [hcomputed] at hresult
      cases hresult
    | ok computed =>
      rw [hcomputed] at hresult
      obtain rfl := Option.some.inj hresult
      exact ⟨origin, destination, mode, hkey, rfl, j, Or.inl ⟨hdid, hcomputed⟩⟩
  | fallBack origin destination mode =>
    obtain ⟨hkey, hanswer⟩ := Option.ite_none_right_eq_some.mp hanswer
    obtain ⟨rfl, rfl⟩ := Prod.mk.inj (Option.some.inj hanswer)
    exact ⟨origin, destination, mode, hkey, rfl, j, Or.inr ⟨hdid, rfl⟩⟩
  | _ => cases hanswer

theorem recent_of_served {l : ℕ} (hl : w.DidAt l i (.get (cacheKey origin destination mode)))
    (h : (cache env haversine).Served lag l (cacheKey origin destination mode) result w) :
    Recent env haversine lag i mode (origin, destination) result w := by
  obtain ⟨m, life, hanswered, hold⟩ := h
  obtain ⟨origin', destination', mode', hkey, rfl, hcomputed⟩ := exists_computedAt hanswered
  obtain ⟨horigin, hdestination, rfl⟩ := near_of_cacheKey_eq hkey.symm
  refine ⟨l, m, origin', destination', hl, hcomputed, horigin, hdestination, ?_⟩
  refine hold.imp_right fun hlt => ?_
  have hnat : (((w.storeAt l).now : ℕ) : ℤ) <
      ((w.storeAt m).now + 1000 * env.cacheTtl + lag : ℕ) := by
    push_cast at hlt ⊢
    exact hlt
  exact_mod_cast hnat

/-! ### The program -/

variable (env haversine lag fault) in
/-- What the calls promise each other: they keep what they were answered. -/
abbrev promise : Protocol system := (cache env haversine).protocol lag fault

/-- What is returned under the key, by a thread that has looked at moment `l`. -/
def Returns (env : Env) (haversine : Point → Point → ℤ) (lag l : ℕ) (key : List Char)
    (r : Except Error DistanceMatrixResult) (w : World Store Cmd) : Prop :=
  l < w.moment ∧ ∀ result, r = .ok result → (cache env haversine).Served lag l key result w

/-- What has been loaded is kept. -/
theorem wp_setex {l : ℕ} {key : List Char} (hl : l < w.moment)
    (h : (cache env haversine).Loaded i l key result (1000 * env.cacheTtl : ℕ) w) :
    (promise env haversine lag fault).wp i (setex env key result)
      (Returns env haversine lag l key) w := by
  have hstable : (promise env haversine lag fault).Stable i fun w =>
      l < w.moment ∧ (cache env haversine).Loaded i l key result (1000 * env.cacheTtl : ℕ) w :=
    Protocol.historic_lt_moment.stable.and TtlCache.stable_loaded
  refine Protocol.wp_queryE_bind hstable ⟨hl, h⟩ (fun u hu _ _ => ⟨?_, fun n _ _ => ?_⟩)
    fun e u _ hu _ => ⟨hu.1, fun _ hr => by cases hr⟩
  · intro key' b deadline hfill
    obtain ⟨⟨rfl, -⟩, hkept⟩ := Option.ite_none_right_eq_some.mp hfill
    obtain ⟨rfl, rfl⟩ := Prod.mk.inj (Option.some.inj hkept)
    obtain ⟨⟨t, hlast⟩, -⟩ := hu.2
    refine ⟨_, t, hlast, ?_⟩
    show ((u.store.now + 1000 * env.cacheTtl : ℕ) : ℤ) ≤ (u.store.now : ℤ) + (1000 * env.cacheTtl : ℕ)
    push_cast
    exact le_rfl
  · have hlater := hu.1.trans (World.moment_lt_step (S := system) (i := i)
      (c := .setex key env.cacheTtl result) (n := n))
    split_ifs
    · exact ⟨hlater, fun _ hr => by cases hr⟩
    · refine ⟨hlater, fun result' hr => ?_⟩
      obtain rfl := Except.ok.inj hr
      exact (hu.2.step rfl).served

/-- What Google answers is kept; whatever fails is left to the fallback. -/
theorem wp_callGoogleApi {l : ℕ} (hl : l < w.moment) :
    (promise env haversine lag fault).wp i ((callGoogleApi env origin destination mode).bind
      (setex env (cacheKey origin destination mode)))
      (Returns env haversine lag l (cacheKey origin destination mode)) w := by
  unfold callGoogleApi
  rw [Async.bind_eq, Async.bind_assoc]
  refine Protocol.wp_query_bind Protocol.historic_lt_moment.stable hl (fun u hu _ _ =>
    ⟨TtlCache.keepsAnswer_of_not_fill fun _ => rfl, fun n _ _ => ?_⟩)
    fun e u _ hu _ => ⟨hu, fun _ hr => by cases hr⟩
  have hlater := hu.trans (World.moment_lt_step (S := system) (i := i)
    (c := .fetch origin destination mode) (n := n))
  generalize hresponse :
    env.google origin destination (googleMode mode) env.apiKey u.store = response
  by_cases hok : response.ok = true
  · -- what the answer amounts to, the thread has loaded
    let A : World Store Cmd → Prop := fun v => l < v.moment ∧ ∀ result,
      response.result origin destination mode = .ok result →
        (cache env haversine).Loaded i l (cacheKey origin destination mode) result
          (1000 * env.cacheTtl : ℕ) v
    have hA : (promise env haversine lag fault).Stable i A :=
      Protocol.historic_lt_moment.stable.and fun v v' hother hv result hresult =>
        TtlCache.stable_loaded hother (hv result hresult)
    have hloaded : A (u.step system i (.fetch origin destination mode) n) := by
      refine ⟨hlater, fun result hresult => TtlCache.loaded_step hu ?_⟩
      show (if _ then _ else _) = _
      rw [if_pos rfl, hresponse, hresult]
      rfl
    rw [if_neg (by simp [hok]), Async.bind_eq, Async.bind_assoc]
    refine Protocol.wp_queryE_bind hA hloaded (fun v hv _ _ =>
      ⟨TtlCache.keepsAnswer_of_not_fill fun _ => rfl, fun n _ _ => ?_⟩)
      fun e v _ hv _ => ⟨hv.1, fun _ hr => by cases hr⟩
    have hlater' := hv.1.trans (World.moment_lt_step (S := system) (i := i) (c := .readBody) (n := n))
    cases hbody : response.body with
    | none => exact ⟨hlater', fun _ hr => by cases hr⟩
    | some body =>
      show (promise env haversine lag fault).wp i
        ((Async.done (body.result origin destination mode)).bind _) _ _
      cases hresult : body.result origin destination mode with
      | error e => exact ⟨hlater', fun _ hr => by cases hr⟩
      | ok result =>
        have hwhole : response.result origin destination mode = .ok result := by
          rw [Response.result, if_neg (by simp [hok]), hbody]
          exact hresult
        exact wp_setex hlater' ((hv.2 result hwhole).step rfl)
  · rw [if_pos (by simpa using hok)]
    exact ⟨hlater, fun _ hr => by cases hr⟩

theorem wp_getDistanceMatrix :
    (promise env haversine lag fault).wp i
      (getDistanceMatrix env haversine origin destination mode)
      (fun r w => ∀ result, r = .ok result →
        Recent env haversine lag i mode (origin, destination) result w) w := by
  refine Protocol.wp_query_bind (Protocol.stable_const i True) trivial (fun v _ hinv _ =>
    ⟨TtlCache.keepsAnswer_of_not_fill fun _ => rfl, fun n _ _ => ?_⟩) fun e v _ _ _ _ hr => by cases hr
  obtain ⟨hlook, -⟩ := World.didAt_step (S := system) (w := v) (i := i)
    (c := .get (cacheKey origin destination mode)) (n := n)
  cases hcached : v.store.get (cacheKey origin destination mode) with
  | some result =>
    intro result' hr
    obtain rfl := Except.ok.inj hr
    obtain ⟨⟨kept, expiresAt⟩, hkept, hlive⟩ := Option.bind_eq_some_iff.mp hcached
    split_ifs at hlive with hnow
    obtain rfl := Option.some.inj hlive
    refine recent_of_served hlook (TtlCache.served_of_entry hinv (d := (expiresAt : ℤ)) ?_ ?_)
    · show (v.store.redis (cacheKey origin destination mode)).map _ = _
      rw [hkept, Option.map_some]
    · exact_mod_cast hnow
  | none =>
    have hreturns : (promise env haversine lag fault).wp i
        (((callGoogleApi env origin destination mode).bind
          (setex env (cacheKey origin destination mode))).tryCatch fun _ =>
            (haversineFallback haversine origin destination mode).bind
              (setex env (cacheKey origin destination mode)))
        (Returns env haversine lag v.moment (cacheKey origin destination mode))
        (v.step system i (.get (cacheKey origin destination mode)) n) := by
      refine Protocol.wp_tryCatch (Protocol.wp_mono ?_ (wp_callGoogleApi World.moment_lt_step))
      rintro (e | result) u hu
      · refine Protocol.wp_read_bind Protocol.historic_lt_moment.stable hu.1 fun x hx _ _ =>
          ⟨TtlCache.keepsAnswer_of_not_fill fun _ => rfl, fun n _ _ => ?_⟩
        refine wp_setex (hx.trans World.moment_lt_step) (TtlCache.loaded_step hx ?_)
        exact if_pos rfl
      · exact hu
    refine Protocol.wp_mono ?_ (Protocol.wp_historic Protocol.historic_didAt hreturns hlook)
    rintro r u ⟨hu, hlooked⟩ result hr
    exact recent_of_served hlooked (hu.2 result hr)

/-! ### Routes -/

/-- The route is the one before, with a leg more for each of the legs asked for. -/
def Extends (env : Env) (haversine : Point → Point → ℤ) (lag i : ℕ) (mode : Mode)
    (waypoints : List Point) (before : RouteDistance) (r : Except Error RouteDistance)
    (w : World Store Cmd) : Prop :=
  ∀ route, r = .ok route → ∃ results : List DistanceMatrixResult,
    List.Forall₂ (fun leg result => Recent env haversine lag i mode leg result w)
      (Telima.legs waypoints) results ∧
    route.legs = before.legs ++ results ∧
    route.totalDistanceMeters =
      before.totalDistanceMeters + (results.map DistanceMatrixResult.distanceMeters).sum ∧
    route.totalDurationSeconds =
      before.totalDurationSeconds + (results.map DistanceMatrixResult.durationSeconds).sum

theorem wp_routeLoop (waypoints : List Point) (before : RouteDistance) (w : World Store Cmd) :
    (promise env haversine lag fault).wp i
      (routeLoop (m := Prog) (fun a b => getDistanceMatrix env haversine a b mode) waypoints before)
      (Extends env haversine lag i mode waypoints before) w := by
  induction waypoints using Telima.legs.induct generalizing before w with
  | case1 a b rest ih =>
    refine Protocol.wp_bind (Protocol.wp_mono ?_ wp_getDistanceMatrix)
    rintro (e | leg) v hv
    · intro _ hr
      cases hr
    -- the leg stays what it was while the others are asked for
    refine Protocol.wp_mono ?_ (Protocol.wp_historic historic_recent (ih (before.push leg) v)
      (hv leg rfl))
    rintro r u ⟨hrest, hleg⟩ route hr
    obtain ⟨results, hresults, hlegs, hdistance, hduration⟩ := hrest route hr
    refine ⟨leg :: results, .cons hleg hresults, ?_, ?_, ?_⟩
    · rw [hlegs, RouteDistance.push, List.append_assoc, List.singleton_append]
    · rw [hdistance, RouteDistance.push, List.map_cons, List.sum_cons, add_assoc]
    · rw [hduration, RouteDistance.push, List.map_cons, List.sum_cons, add_assoc]
  | case2 points h =>
    have hdone : routeLoop (m := Prog) (fun a b => getDistanceMatrix env haversine a b mode) points
        before = pure before ∧ Telima.legs points = [] := by
      cases points with
      | nil => exact ⟨rfl, rfl⟩
      | cons a rest =>
        cases rest with
        | nil => exact ⟨rfl, rfl⟩
        | cons b rest => exact absurd rfl (h a b rest)
    rw [hdone.1]
    intro route hr
    obtain rfl := Except.ok.inj hr
    rw [hdone.2]
    exact ⟨[], .nil, by simp⟩

/-- The totals of a route are those of its legs. -/
def Answer.AddsUp : Answer → Prop
  | matrix _ | nothing => True
  | route r => r.totalDistanceMeters = (r.legs.map DistanceMatrixResult.distanceMeters).sum ∧
      r.totalDurationSeconds = (r.legs.map DistanceMatrixResult.durationSeconds).sum

/-- What thread `i` answers to a call. -/
structure Answers (env : Env) (haversine : Point → Point → ℤ) (lag i : ℕ) (call : Call)
    (answer : Answer) (w : World Store Cmd) : Prop where
  legs : List.Forall₂ (fun leg result => Recent env haversine lag i call.mode leg result w)
    call.legs answer.legs
  addsUp : answer.AddsUp

/-- What holds when a thread has ended. -/
def Post (env : Env) (haversine : Point → Point → ℤ) (lag : ℕ) (calls : List Call) (i : ℕ)
    (r : Except Error Answer) (w : World Store Cmd) : Prop :=
  ∀ call answer, calls[i]? = some call → r = .ok answer → Answers env haversine lag i call answer w

theorem historic_post {calls : List Call} {r : Except Error Answer} :
    Protocol.Historic (Post env haversine lag calls i r) := by
  intro w w' hsuffix hw call answer hcall hr
  obtain ⟨hlegs, hsum⟩ := hw call answer hcall hr
  exact ⟨hlegs.imp fun _ _ hleg => historic_recent hsuffix hleg, hsum⟩

theorem wp_program {calls : List Call} {call : Call} (hcall : calls[i]? = some call) :
    (promise env haversine lag fault).wp i (call.program env haversine)
      (Post env haversine lag calls i) w := by
  have hpost : ∀ {r : Except Error Answer} {u : World Store Cmd},
      (∀ answer, r = .ok answer → Answers env haversine lag i call answer u) →
        Post env haversine lag calls i r u := by
    intro r u h call' answer hcall' hr
    obtain rfl : call = call' := Option.some.inj (hcall.symm.trans hcall')
    exact h answer hr
  cases call with
  | getDistanceMatrix origin destination mode =>
    refine Protocol.wp_bind (Protocol.wp_mono ?_ wp_getDistanceMatrix)
    rintro (e | result) u hu
    · exact hpost fun _ hr => by cases hr
    refine hpost fun answer hr => ?_
    obtain rfl := Except.ok.inj hr
    exact ⟨.cons (hu result rfl) .nil, trivial⟩
  | getRouteDistance waypoints mode =>
    refine Protocol.wp_bind (Protocol.wp_mono ?_ (wp_routeLoop waypoints {} w))
    rintro (e | route) u hu
    · exact hpost fun _ hr => by cases hr
    refine hpost fun answer hr => ?_
    obtain rfl := Except.ok.inj hr
    obtain ⟨results, hresults, hlegs, hdistance, hduration⟩ := hu route rfl
    have hroute : route.legs = results := by rw [hlegs]; rfl
    refine ⟨?_, ?_, ?_⟩
    · show List.Forall₂ _ (Telima.legs waypoints) route.legs
      rwa [hroute]
    · rw [hdistance, hroute]
      exact zero_add _
    · rw [hduration, hroute]
      exact zero_add _
  | wait ms =>
    refine Protocol.wp_query_bind (Protocol.stable_const i True) trivial (fun _ _ _ _ =>
      ⟨TtlCache.keepsAnswer_of_not_fill fun _ => rfl, fun _ _ _ => hpost fun answer hr => ?_⟩)
      fun _ _ _ _ _ => hpost fun _ hr => by cases hr
    obtain rfl := Except.ok.inj hr
    exact ⟨.nil, trivial⟩

end Proof

instance decidablePrompt (env : Env) (haversine : Point → Point → ℤ) (lag i : ℕ)
    (w : World Store Cmd) (c : Cmd) : Decidable ((cache env haversine).Prompt lag i w c) := by
  cases c with
  | setex key ttl result =>
    refine TtlCache.decidablePrompt [key] ?_
    intro key' kept hfill
    rw [(Option.ite_none_right_eq_some.mp hfill).1.1]
    exact List.mem_singleton_self _
  | _ => exact TtlCache.decidablePrompt [] fun _ _ hfill => by cases hfill

namespace Bamako

def market : Point := ⟨126392 / 10000, -80029 / 10000⟩

/-- Three metres further on. -/
def corner : Point := ⟨12639221 / 1000000, -8002914 / 1000000⟩

def station : Point := ⟨126499 / 10000, -79981 / 10000⟩

/-- Google answers with a kilometre and a half. -/
def env : Env where
  apiKey := "key"
  cacheTtl := 3600
  google _ _ _ _ _ := ⟨200, some ⟨"OK", some ⟨some 1500, some 300⟩⟩⟩

/-- The way of the market is asked for, and half an hour later that of the corner. -/
def calls : List Call :=
  [.getDistanceMatrix market station .motorcycle, .wait 1800000,
    .getRouteDistance [corner, station] .motorcycle]

def fromMarket : DistanceMatrixResult := ⟨market, station, 1050, 180⟩

end Bamako

end Telima.Distance.Google
