import Telima.Async.Caching
import Telima.Async.Relational
import Telima.Dispatch.Service
import Telima.Pricing.Service

/-!
# `ServiceConfigService`

The configuration of a service is a row of `service_configs`, which `getConfig` keeps for a minute, once
with the capabilities the service requires and once without.  No function of the server writes the table
(`prisma/seed-service-config.ts` does), and none calls `invalidateCache`: a call may be given what the row
held a minute before, but nothing older, and nothing of another service (`answers_recent`).
-/

namespace Telima.ServiceConfigs

/-! ### The tables -/

/-- A row of `service_requirements`, with the name of its capability. -/
structure ServiceRequirement where
  capability : String
  level : String := "required"
  deriving DecidableEq, Repr

/-- A row of `service_configs`. -/
structure ServiceConfig where
  serviceType : String
  isEnabled : Bool := true
  dispatchRadiusMeters : ℕ := 5000
  maxDispatchAttempts : ℕ := 3
  lockTtlSeconds : ℕ := 30
  dispatchTimeoutMs : ℕ := 15000
  surgeEnabled : Bool := false
  maxSurgeMultiplier : Decimal2 := 200
  requirements : List ServiceRequirement := []
  deriving DecidableEq, Repr

/-- What `findUnique` answers: the columns, and the requirements if they are included. -/
structure FoundConfig where
  row : ServiceConfig
  requirements : Option (List ServiceRequirement)
  deriving DecidableEq, Repr

/-- The table, the cache with the times its entries expire, and the time. -/
structure Store where
  configs : Table String ServiceConfig ServiceConfig.serviceType := .empty
  cache : String → Option (Option FoundConfig × ℕ) := fun _ => none
  now : ℕ := 0

/-- `findUnique({ where: { serviceType }, include })` -/
def Store.find (s : Store) (serviceType : String) (includeRequirements : Bool) :
    Option FoundConfig :=
  (s.configs.find? serviceType).map fun row =>
    { row := { row with requirements := [] }
      requirements := if includeRequirements then some row.requirements else none }

/-! ### The service -/

/-- `cacheTtlMs` -/
def cacheTtlMs : ℕ := 60000

/-- `${serviceType}:${includeRequirements}` -/
def cacheKey (serviceType : String) (includeRequirements : Bool) : String :=
  serviceType ++ ":" ++ (if includeRequirements then "true" else "false")

inductive Cmd where
  /-- `this.cache.get` -/
  | look (serviceType : String) (includeRequirements : Bool)
  | findUnique (serviceType : String) (includeRequirements : Bool)
  /-- `this.cache.set` -/
  | fill (serviceType : String) (includeRequirements : Bool) (config : Option FoundConfig)
  /-- `invalidateCache` -/
  | clear
  /-- The row of a service is written. -/
  | upsert (row : ServiceConfig)
  | delete (serviceType : String)
  | tick (ms : ℕ)
  deriving DecidableEq

/-- The effect of a command. -/
def Cmd.exec : Cmd → Store → Store
  | fill serviceType includeRequirements config, s =>
    { s with
      cache := Function.update s.cache (cacheKey serviceType includeRequirements)
        (some (config, s.now + cacheTtlMs)) }
  | clear, s => { s with cache := fun _ => none }
  | upsert row, s => { s with configs := (s.configs.delete row.serviceType).insert row }
  | delete serviceType, s => { s with configs := s.configs.delete serviceType }
  | tick ms, s => { s with now := s.now + ms }
  | _, s => s

abbrev Prog (α : Type) : Type := Async Store Cmd Error α

/-- `cached && cached.expiresAt > Date.now()` -/
def Store.cached (s : Store) (serviceType : String) (includeRequirements : Bool) :
    Option (Option FoundConfig) :=
  (s.cache (cacheKey serviceType includeRequirements)).bind fun cached =>
    if s.now < cached.2 then some cached.1 else none

def getConfig (serviceType : String) (includeRequirements : Bool) : Prog (Option FoundConfig) := do
  match ← Async.read (.look serviceType includeRequirements) fun s =>
      s.cached serviceType includeRequirements with
  | some data => pure data
  | none => do
    let config ← Async.query (.findUnique serviceType includeRequirements) fun s =>
      s.find serviceType includeRequirements
    Async.emit (.fill serviceType includeRequirements config)
    pure config

/-- The dispatch configuration of what was found. -/
def dispatchConfig (config : Option FoundConfig) : ServiceDispatchConfig :=
  match config with
  | none => defaultConfig
  | some config =>
    { dispatchRadiusMeters := config.row.dispatchRadiusMeters
      maxDispatchAttempts := config.row.maxDispatchAttempts
      lockTtlSeconds := config.row.lockTtlSeconds
      dispatchTimeoutMs := config.row.dispatchTimeoutMs }

def getDispatchConfig (serviceType : String) : Prog ServiceDispatchConfig := do
  let config ← getConfig serviceType false
  pure (dispatchConfig config)

/-- The pricing configuration of what was found; a `Decimal` is an object, which is never falsy. -/
def pricingConfig (config : Option FoundConfig) : Pricing.ServicePricingConfig :=
  Pricing.getPricingConfig
    (config.map fun config => ⟨config.row.surgeEnabled, config.row.maxSurgeMultiplier⟩)

def getPricingConfig (serviceType : String) : Prog Pricing.ServicePricingConfig := do
  let config ← getConfig serviceType false
  pure (pricingConfig config)

/-- `config?.isEnabled ?? false` -/
def isEnabled (config : Option FoundConfig) : Bool :=
  (config.map fun config => config.row.isEnabled).getD false

def isServiceEnabled (serviceType : String) : Prog Bool := do
  let config ← getConfig serviceType false
  pure (isEnabled config)

/-- The names of the capabilities of the level `required`. -/
def requiredCapabilities (config : Option FoundConfig) : List String :=
  match config.bind FoundConfig.requirements with
  | none => []
  | some requirements =>
    (requirements.filter fun r => decide (r.level = "required")).map ServiceRequirement.capability

def getRequiredCapabilities (serviceType : String) : Prog (List String) := do
  let config ← getConfig serviceType true
  pure (requiredCapabilities config)

/-! ### The calls of a server -/

/-- A method of the service, or something else that happens. -/
inductive Call where
  | getDispatchConfig (serviceType : String)
  | getPricingConfig (serviceType : String)
  | isServiceEnabled (serviceType : String)
  | getRequiredCapabilities (serviceType : String)
  | invalidateCache
  | upsert (row : ServiceConfig)
  | delete (serviceType : String)
  | wait (ms : ℕ)

/-- What a call answers. -/
inductive Answer where
  | dispatch (config : ServiceDispatchConfig)
  | pricing (config : Pricing.ServicePricingConfig)
  | enabled (isEnabled : Bool)
  | capabilities (names : List String)
  | nothing
  deriving DecidableEq

namespace Call

/-- What the call looks up. -/
def key? : Call → Option (String × Bool)
  | getDispatchConfig serviceType | getPricingConfig serviceType | isServiceEnabled serviceType =>
    some (serviceType, false)
  | getRequiredCapabilities serviceType => some (serviceType, true)
  | _ => none

/-- What the call makes of what it is given. -/
def answer : Call → Option FoundConfig → Answer
  | getDispatchConfig _, config => .dispatch (dispatchConfig config)
  | getPricingConfig _, config => .pricing (pricingConfig config)
  | isServiceEnabled _, config => .enabled (isEnabled config)
  | getRequiredCapabilities _, config => .capabilities (requiredCapabilities config)
  | _, _ => .nothing

def program : Call → Prog Answer
  | getDispatchConfig serviceType => do
    let config ← ServiceConfigs.getDispatchConfig serviceType
    pure (.dispatch config)
  | getPricingConfig serviceType => do
    let config ← ServiceConfigs.getPricingConfig serviceType
    pure (.pricing config)
  | isServiceEnabled serviceType => do
    let enabled ← ServiceConfigs.isServiceEnabled serviceType
    pure (.enabled enabled)
  | getRequiredCapabilities serviceType => do
    let names ← ServiceConfigs.getRequiredCapabilities serviceType
    pure (.capabilities names)
  | invalidateCache => (Async.emit .clear).as .nothing
  | upsert row => (Async.perform (.upsert row)).as .nothing
  | delete serviceType => (Async.perform (.delete serviceType)).as .nothing
  | wait ms => (Async.perform (.tick ms)).as .nothing

end Call

def system : System Store Cmd Error Answer where
  exec := Cmd.exec
  handlers _ := []

/-- The calls come in on a table, with an empty cache. -/
def start (configs : Table String ServiceConfig ServiceConfig.serviceType) (calls : List Call) :
    Pool Store Cmd Error Answer :=
  Pool.init { configs } (calls.map Call.program)

/-! ### The cache -/

/-- The two parts of a key can be told apart. -/
theorem cacheKey_inj {serviceType serviceType' : String} {b b' : Bool}
    (h : cacheKey serviceType b = cacheKey serviceType' b') :
    serviceType = serviceType' ∧ b = b' := by
  have hlist : serviceType.toList ++ (":" ++ if b then "true" else "false").toList =
      serviceType'.toList ++ (":" ++ if b' then "true" else "false").toList := by
    have htext := congrArg String.toList h
    simpa [cacheKey, String.toList_append, List.append_assoc] using htext
  -- the last characters say what the flag is
  have hflag : b = b' := by
    have hlast := congrArg (fun cs : List Char => cs.reverse.take 3) hlist
    cases b <;> cases b' <;> first | rfl | simp at hlast
  subst hflag
  exact ⟨String.toList_inj.mp (List.append_cancel_right hlist), rfl⟩

/-- The cache of the service; what is kept under a key is what `findUnique` answered. -/
def cache : TtlCache system (String × Bool) (Option FoundConfig) where
  now := Store.now
  entry s key := (s.cache (cacheKey key.1 key.2)).map fun kept => (kept.1, (kept.2 : ℤ))
  answer c s key :=
    match c with
    | .findUnique serviceType includeRequirements =>
      if (serviceType, includeRequirements) = key then
        some (s.find serviceType includeRequirements, (cacheTtlMs : ℤ))
      else none
    | _ => none
  fill c s key :=
    match c with
    | .fill serviceType includeRequirements config =>
      if (serviceType, includeRequirements) = key then some (config, (s.now : ℤ) + cacheTtlMs)
      else none
    | _ => none
  entry_exec := by
    intro c s key kept hentry
    cases c with
    | fill serviceType includeRequirements config =>
      obtain ⟨⟨config', expiresAt⟩, hkept, rfl⟩ := Option.map_eq_some_iff.mp hentry
      by_cases hkey : cacheKey key.1 key.2 = cacheKey serviceType includeRequirements
      · obtain ⟨rfl, rfl⟩ := cacheKey_inj hkey
        have hnew : Function.update s.cache (cacheKey key.1 key.2)
            (some (config, s.now + cacheTtlMs)) (cacheKey key.1 key.2) = some (config', expiresAt) :=
          hkept
        rw [Function.update_self] at hnew
        obtain ⟨rfl, rfl⟩ := Prod.mk.inj (Option.some.inj hnew)
        exact Or.inl (by simp)
      · have hold : Function.update s.cache (cacheKey serviceType includeRequirements)
            (some (config, s.now + cacheTtlMs)) (cacheKey key.1 key.2) = some (config', expiresAt) :=
          hkept
        rw [Function.update_of_ne hkey] at hold
        exact Or.inr (by rw [hold, Option.map_some])
    | clear => cases hentry
    | _ => exact Or.inr hentry

section Proof

variable {serviceType : String} {includeRequirements : Bool} {lag i : ℕ} {fault : Error → Prop}
  {w : World Store Cmd}

theorem getConfig_eq_cached : getConfig serviceType includeRequirements =
    Async.cached (.look serviceType includeRequirements)
      (fun s => s.cached serviceType includeRequirements)
      (Async.query (.findUnique serviceType includeRequirements) fun s =>
        s.find serviceType includeRequirements)
      (.fill serviceType includeRequirements) := by
  unfold getConfig Async.cached
  rw [Async.bind_eq]
  congr 1
  funext cached
  cases cached <;> rfl

/-- What `getConfig` returns was served. -/
theorem wp_getConfig : (cache.protocol lag fault).wp i (getConfig serviceType includeRequirements)
    (cache.Returned lag i (.look serviceType includeRequirements)
      (· = (serviceType, includeRequirements)) fun config _ => config) w := by
  rw [getConfig_eq_cached]
  refine TtlCache.wp_cached (d := fun _ _ => (cacheTtlMs : ℤ)) (fun _ _ => rfl) ?_ ?_ ?_
    (fun _ _ _ => rfl) w
  · rintro s config hcached key rfl
    obtain ⟨⟨config', expiresAt⟩, hkept, hlive⟩ := Option.bind_eq_some_iff.mp hcached
    split_ifs at hlive with hnow
    obtain rfl := Option.some.inj hlive
    refine ⟨expiresAt, ?_, by exact_mod_cast hnow⟩
    show (s.cache (cacheKey serviceType includeRequirements)).map _ = _
    rw [hkept, Option.map_some]
  · intro l v hl
    refine Protocol.wp_query Protocol.historic_lt_moment.stable hl ?_ ?_
    · intro u hu _ _
      refine ⟨TtlCache.keepsAnswer_of_not_fill fun _ => rfl, fun n _ _ => ?_⟩
      rintro config hconfig key rfl
      obtain rfl := Except.ok.inj hconfig
      exact TtlCache.loaded_step hu (if_pos rfl)
    · intro e u _ _ _ config hconfig
      cases hconfig
  · intro config s key b deadline hfill
    obtain ⟨hkey, hkept⟩ := (Option.ite_none_right_eq_some).mp hfill
    obtain ⟨rfl, rfl⟩ := Prod.mk.inj (Option.some.inj hkept)
    exact ⟨hkey.symm, rfl, le_rfl⟩

/-! ### The answers -/

/-- The answer of thread `i` is made of what the table held at a moment after the call has looked at the
cache, or less than `lag` and a minute before. -/
def Recent (lag i : ℕ) (call : Call) (answer : Answer) (w : World Store Cmd) : Prop :=
  ∀ serviceType includeRequirements, call.key? = some (serviceType, includeRequirements) →
    ∃ l m, w.DidAt l i (.look serviceType includeRequirements) ∧ m < w.moment ∧
      answer = call.answer ((w.storeAt m).find serviceType includeRequirements) ∧
      (l < m ∨ (w.storeAt l).now < (w.storeAt m).now + cacheTtlMs + lag)

theorem Call.program_of_key? {call : Call} {key : String × Bool} (h : call.key? = some key) :
    call.program = (getConfig key.1 key.2).bind fun config => pure (call.answer config) := by
  cases call <;> first
    | (obtain rfl := Option.some.inj h; exact Async.bind_assoc _ _ _)
    | cases h

/-- Only `findUnique` reads the table. -/
theorem eq_find_of_answer {c : Cmd} {s : Store} {config : Option FoundConfig} {life : ℤ}
    (h : cache.answer c s (serviceType, includeRequirements) = some (config, life)) :
    config = s.find serviceType includeRequirements ∧ life = cacheTtlMs := by
  cases c <;> try cases h
  rename_i serviceType' includeRequirements'
  obtain ⟨hkey, hfound⟩ := Option.ite_none_right_eq_some.mp h
  obtain ⟨rfl, rfl⟩ := Prod.mk.inj hkey
  obtain ⟨rfl, rfl⟩ := Prod.mk.inj (Option.some.inj hfound)
  exact ⟨rfl, rfl⟩

/-- What holds when a thread has ended. -/
def Post (lag : ℕ) (calls : List Call) (i : ℕ) (r : Except Error Answer) (w : World Store Cmd) :
    Prop :=
  ∀ call answer, calls[i]? = some call → r = .ok answer → Recent lag i call answer w

theorem historic_post {calls : List Call} {r : Except Error Answer} :
    Protocol.Historic (Post lag calls i r) := by
  intro w w' hsuffix hw call answer hcall hr serviceType includeRequirements hkey
  obtain ⟨l, m, hl, hm, hanswer, hold⟩ := hw call answer hcall hr serviceType includeRequirements hkey
  refine ⟨l, m, hl.of_suffix hsuffix, hm.trans_le hsuffix.length_le, ?_, ?_⟩
  · rwa [World.storeAt_of_suffix hsuffix hm]
  · rwa [World.storeAt_of_suffix hsuffix hm, World.storeAt_of_suffix hsuffix hl.lt]

theorem wp_program {calls : List Call} {call : Call} (hcall : calls[i]? = some call) :
    (cache.protocol lag fault).wp i call.program (Post lag calls i) w := by
  cases hkey : call.key? with
  | some key =>
    rw [Call.program_of_key? hkey]
    refine Protocol.wp_bind (Protocol.wp_mono ?_ (wp_getConfig (w := w)))
    rintro (e | config) v hv
    · intro call' answer _ hr
      cases hr
    intro call' answer hcall' hr serviceType includeRequirements hkey'
    obtain rfl : call = call' := Option.some.inj (hcall.symm.trans hcall')
    obtain rfl := Except.ok.inj hr
    obtain rfl : key = (serviceType, includeRequirements) := Option.some.inj (hkey.symm.trans hkey')
    obtain ⟨l, hl, hserved⟩ := hv config rfl
    obtain ⟨m, hm, hold⟩ := (hserved (serviceType, includeRequirements) rfl).exists_answeredAt
      (t := cacheTtlMs) fun c s b life hanswer => (eq_find_of_answer hanswer).2
    obtain ⟨j, c, -, hanswer⟩ := id hm
    have hfound : config = (v.storeAt m).find serviceType includeRequirements :=
      (eq_find_of_answer hanswer).1
    exact ⟨l, m, hl, hm.lt, by rw [← hfound], hold⟩
  | none =>
    -- the other calls look nothing up, and keep nothing
    have htrue : (cache.protocol lag fault).Stable i fun _ => True := Protocol.stable_const i True
    have hpost : ∀ r v, Post lag calls i r v := by
      intro r v call' answer hcall' _ serviceType includeRequirements hkey'
      obtain rfl : call = call' := Option.some.inj (hcall.symm.trans hcall')
      rw [hkey] at hkey'
      cases hkey'
    have hkeeps : (cache.protocol lag fault).wp i call.program (fun _ _ => True) w := by
      cases call with
      | getDispatchConfig _ => cases hkey
      | getPricingConfig _ => cases hkey
      | isServiceEnabled _ => cases hkey
      | getRequiredCapabilities _ => cases hkey
      | invalidateCache =>
        exact Protocol.wp_read_bind htrue trivial fun _ _ _ _ =>
          ⟨TtlCache.keepsAnswer_of_not_fill fun _ => rfl, fun _ _ _ => trivial⟩
      | _ =>
        exact Protocol.wp_query_bind htrue trivial (fun _ _ _ _ =>
          ⟨TtlCache.keepsAnswer_of_not_fill fun _ => rfl, fun _ _ _ => trivial⟩) fun _ _ _ _ _ => trivial
    exact Protocol.wp_mono (fun r v _ => hpost r v) hkeeps

end Proof

/-- Whatever calls come in, and whoever writes the table meanwhile: if an answer of the database is kept at
most `lag` after it was given, then every call answers what its method makes of a row of its own service
that the table held after the call came in, or less than a minute and `lag` before. -/
theorem answers_recent (lag : ℕ) (fault : Error → Prop)
    (configs : Table String ServiceConfig ServiceConfig.serviceType) (calls : List Call)
    {p : Pool Store Cmd Error Answer}
    (hrun : Pool.Run system (cache.Prompt lag) fault (start configs calls) p)
    {i : ℕ} {call : Call} {answer : Answer} (hcall : calls[i]? = some call)
    (hi : p.results[i]? = some (some (.ok answer))) : Recent lag i call answer p.world := by
  have hstart : (cache.protocol lag fault).Safe (Post lag calls) (start configs calls) := by
    refine Protocol.safe_init (fun _ _ _ hentry => by cases hentry) fun i t ht => ?_
    rw [List.getElem?_map] at ht
    obtain ⟨call, hcall, rfl⟩ := Option.map_eq_some_iff.mp ht
    exact wp_program hcall
  have hsafe := hstart.run (fun i r => historic_post.stable) (fun _ _ _ hk => by cases hk) hrun
  exact hsafe.threads (Pool.thread_of_results hi) call answer hcall rfl

/-! ### A run -/

instance decidablePrompt (lag i : ℕ) (w : World Store Cmd) (c : Cmd) :
    Decidable (cache.Prompt lag i w c) := by
  cases c with
  | fill serviceType includeRequirements config =>
    refine TtlCache.decidablePrompt [(serviceType, includeRequirements)] ?_
    intro key kept hfill
    rw [(Option.ite_none_right_eq_some.mp hfill).1]
    exact List.mem_singleton_self _
  | _ => exact TtlCache.decidablePrompt [] fun _ _ hfill => by cases hfill

namespace Desk

def ride : ServiceConfig := { serviceType := "ride" }

/-- The radius of the service is asked for, changed, and asked for again a second later. -/
def calls : List Call :=
  [.getDispatchConfig "ride", .upsert { ride with dispatchRadiusMeters := 8000 }, .wait 1000,
    .getDispatchConfig "ride"]

end Desk

open Desk in
/-- The last call is given the old radius. -/
theorem answers_recent_desk : ∃ q : Pool Store Cmd Error Answer,
    q.results[3]? = some (some (.ok (.dispatch (dispatchConfig (some ⟨ride, none⟩))))) ∧
      Recent 0 3 (.getDispatchConfig "ride") (.dispatch (dispatchConfig (some ⟨ride, none⟩)))
        q.world := by
  obtain ⟨q, hrun, hresult⟩ := Pool.exists_run_of_schedule? system (cache.Prompt 0) (fun _ => False)
    (start (.single ride) calls) [0, 0, 0, 1, 2, 3]
    (fun q => q.results[3]? = some (some (.ok (.dispatch (dispatchConfig (some ⟨ride, none⟩))))))
    (by decide +kernel)
  exact ⟨q, hresult, answers_recent 0 _ (.single ride) calls hrun (i := 3) rfl hresult⟩

end Telima.ServiceConfigs
