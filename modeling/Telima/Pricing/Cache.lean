import Telima.Async.History
import Telima.Async.RelyGuarantee
import Telima.Pricing.RowOrder

/-!
# The cache of `DynamicPricingService`

`loadData` keeps the active zones and rules for a minute, and every mutation of the administration clears
the cache when it has written.  A call of `getSurgeMultiplier` that has read the tables before a mutation
and fills the cache after it was cleared puts the old rows back, and the calls of the next minute use
them (`old_rows_used`).  If no call fills the cache with rows that were read before such a mutation, then
every call that starts after a mutation has cleared the cache uses it (`mutations_seen`).
-/

namespace Telima.Pricing.Cache

/-! ### The mutations -/

/-- What `UpdateZoneDto` gives of the columns the surge uses. -/
structure ZoneData where
  centerLat : Option ℚ := none
  centerLng : Option ℚ := none
  radiusKm : Option ℚ := none
  surgeMultiplier : Option ℚ := none
  isActive : Option Bool := none

def ZoneData.apply (data : ZoneData) (z : ServiceZone) : ServiceZone :=
  { z with
    centerLat := data.centerLat.getD z.centerLat
    centerLng := data.centerLng.getD z.centerLng
    radiusKm := data.radiusKm.getD z.radiusKm
    surgeMultiplier := (data.surgeMultiplier.map Decimal2.ofNumber).getD z.surgeMultiplier
    isActive := data.isActive.getD z.isActive }

/-- What `UpdatePricingRuleDto` gives of the columns the surge uses; a scope may be set to `null`. -/
structure RuleData where
  serviceType : Option (Option ServiceType) := none
  vehicleTypeId : Option (Option ℕ) := none
  zoneId : Option (Option String) := none
  condition : Option Json := none
  modifier : Option ℚ := none
  priority : Option ℤ := none
  isActive : Option Bool := none

def RuleData.apply (data : RuleData) (r : PricingRule) : PricingRule :=
  { r with
    serviceType := data.serviceType.getD r.serviceType
    vehicleTypeId := data.vehicleTypeId.getD r.vehicleTypeId
    zoneId := data.zoneId.getD r.zoneId
    condition := data.condition.getD r.condition
    modifier := (data.modifier.map Decimal2.ofNumber).getD r.modifier
    priority := data.priority.getD r.priority
    isActive := data.isActive.getD r.isActive }

/-- The writes of `AdminPricingController`; a created row comes with the id the database gives it. -/
inductive Mutation where
  | createZone (zone : ServiceZone)
  | updateZone (id : String) (data : ZoneData)
  | deleteZone (id : String)
  | createPricingRule (rule : PricingRule)
  | updatePricingRule (id : String) (data : RuleData)
  | deletePricingRule (id : String)

namespace Mutation

/-- The zone is there, if one is given. -/
def zoneExists (rows : Rows) (zoneId : Option String) : Bool :=
  zoneId.all fun id => rows.zones.any fun z => decide (z.id = id)

/-- The record to write exists, and the zone it refers to. -/
def accepted (rows : Rows) : Mutation → Bool
  | createZone _ => true
  | updateZone id _ | deleteZone id => rows.zones.any fun z => decide (z.id = id)
  | createPricingRule rule => zoneExists rows rule.zoneId
  | updatePricingRule id data => (rows.rules.any fun r => decide (r.id = id)) &&
      zoneExists rows (data.zoneId.getD none)
  | deletePricingRule id => rows.rules.any fun r => decide (r.id = id)

/-- The rows after the write.  The rules of a deleted zone lose their scope (`onDelete: SetNull`). -/
def apply (rows : Rows) : Mutation → Rows
  | createZone zone => { rows with zones := rows.zones ++ [zone] }
  | updateZone id data =>
    { rows with zones := rows.zones.map fun z => if z.id = id then data.apply z else z }
  | deleteZone id =>
    { zones := rows.zones.filter fun z => decide (z.id ≠ id)
      rules := rows.rules.map fun r => if r.zoneId = some id then { r with zoneId := none } else r }
  | createPricingRule rule => { rows with rules := rows.rules ++ [rule] }
  | updatePricingRule id data =>
    { rows with rules := rows.rules.map fun r => if r.id = id then data.apply r else r }
  | deletePricingRule id => { rows with rules := rows.rules.filter fun r => decide (r.id ≠ id) }

/-- The table `service_zones` is written. -/
def writesZones : Mutation → Bool
  | createZone _ | updateZone _ _ | deleteZone _ => true
  | _ => false

/-- The table `pricing_rules` is written. -/
def writesRules : Mutation → Bool
  | createZone _ | updateZone _ _ => false
  | _ => true

end Mutation

/-! ### The service -/

/-- The tables, the cache with the time it was filled, and the time. -/
structure Store where
  rows : Rows := {}
  cache : Option (SurgeData × ℕ) := none
  now : ℕ := 0

/-- `CACHE_TTL_MS` -/
def cacheTtlMs : ℕ := 60000

/-- What the cache holds, if it is not too old. -/
def Store.cached (s : Store) : Option SurgeData :=
  s.cache.bind fun entry => if s.now < entry.2 + cacheTtlMs then some entry.1 else none

/-- The active rules, by priority. -/
def loadedRules (rows : Rows) : List RuleEntry :=
  ((rows.rules.filter PricingRule.isActive).mergeSort fun a b =>
    decide (a.priority ≤ b.priority)).map PricingRule.entry

/-- What the two queries answer is what `loadData` may load. -/
theorem loads_rows (rows : Rows) : Loads rows ⟨rows.activeZones, loadedRules rows⟩ where
  zones := List.Perm.refl _
  rules := ⟨_, OrderedBy.mergeSort_of_perm (List.Perm.refl _), rfl⟩

inductive Cmd where
  /-- A call of `getSurgeMultiplier` looks at the cache. -/
  | start
  | findZones
  | findRules
  /-- The answer of the database has arrived. -/
  | answer
  /-- `this.cache = …` -/
  | fill (data : SurgeData)
  /-- A call of `getSurgeMultiplier` has got its zones and rules. -/
  | use (data : SurgeData)
  | mutate (m : Mutation)
  /-- `invalidateCache` -/
  | invalidate
  | tick (ms : ℕ)

/-- The effect of a command. -/
def Cmd.exec : Cmd → Store → Store
  | fill data, s => { s with cache := some (data, s.now) }
  | mutate m, s => { s with rows := if m.accepted s.rows then m.apply s.rows else s.rows }
  | invalidate, s => { s with cache := none }
  | tick ms, s => { s with now := s.now + ms }
  | _, s => s

/-- The two queries; they run at the same time, and either one may be answered first. -/
def queryRows (zonesFirst : Bool) : Async Store Cmd Error SurgeData :=
  if zonesFirst then do
    let zones ← Async.query .findZones fun s => s.rows.activeZones
    let rules ← Async.query .findRules fun s => loadedRules s.rows
    pure ⟨zones, rules⟩
  else do
    let rules ← Async.query .findRules fun s => loadedRules s.rows
    let zones ← Async.query .findZones fun s => s.rows.activeZones
    pure ⟨zones, rules⟩

def loadData (zonesFirst : Bool) : Async Store Cmd Error SurgeData :=
  (Async.read .start Store.cached).bind fun cached =>
    match cached with
    | some data => pure data
    | none => do
      let data ← queryRows zonesFirst
      -- `await Promise.all`
      Async.perform .answer
      Async.emit (.fill data)
      pure data

def getSurgeMultiplier (isWithinRadius : ℚ → ℚ → ZoneEntry → Bool) (zonesFirst : Bool)
    (context : PricingContext) : Async Store Cmd Error ℚ := do
  let data ← loadData zonesFirst
  Async.emit (.use data)
  Async.done (Pricing.getSurgeMultiplier isWithinRadius data context)

/-- A method of `AdminPricingController` that writes. -/
def mutation (m : Mutation) : Async Store Cmd Error Unit := do
  Async.queryE (.mutate m) fun s => if m.accepted s.rows then .ok () else .error .recordNotFound
  Async.perform .answer
  Async.emit .invalidate

/-- What comes in. -/
inductive Call where
  | getSurgeMultiplier (zonesFirst : Bool) (context : PricingContext)
  | mutation (m : Mutation)
  | wait (ms : ℕ)

def Call.program (isWithinRadius : ℚ → ℚ → ZoneEntry → Bool) : Call → Async Store Cmd Error Unit
  | getSurgeMultiplier zonesFirst context =>
    (Cache.getSurgeMultiplier isWithinRadius zonesFirst context).as ()
  | mutation m => Cache.mutation m
  | wait ms => Async.perform (.tick ms)

def system : System Store Cmd Error Unit where
  exec := Cmd.exec
  handlers _ := []

/-- The calls come in on tables with the rows, with an empty cache. -/
def start (isWithinRadius : ℚ → ℚ → ZoneEntry → Bool) (rows : Rows) (calls : List Call) :
    Pool Store Cmd Error Unit :=
  Pool.init { rows := rows } (calls.map (Call.program isWithinRadius))

/-! ### What a call uses -/

abbrev CacheWorld : Type := World Store Cmd

def isFindZones : Cmd → Bool
  | .findZones => true
  | _ => false

def isFindRules : Cmd → Bool
  | .findRules => true
  | _ => false

/-- A call fills the cache only if no mutation of a table that was written since it has read the table has
cleared the cache already. -/
def NoStaleFill (i : ℕ) (w : CacheWorld) : Cmd → Prop
  | .fill _ => ∀ j m s,
      (m.writesZones = true → ⟨j, .did (.mutate m), s⟩ ∈ w.since i isFindZones →
        ¬ w.Did j (· = .invalidate)) ∧
      (m.writesRules = true → ⟨j, .did (.mutate m), s⟩ ∈ w.since i isFindRules →
        ¬ w.Did j (· = .invalidate))
  | _ => True

/-- What was read of a table is what the table held at some moment after every mutation of it that had
cleared the cache when the call started, and before moment `d`. -/
def Seen {β : Type} (table : Rows → β) (writes : Mutation → Bool) (w : CacheWorld) (d j : ℕ)
    (rows : β) : Prop :=
  ∀ a b c i m, w.DidAt a i (.mutate m) → w.DidAt b i .invalidate → w.DidAt c j .start → b < c →
    c < d → writes m = true → ∃ k, a < k ∧ k ≤ d ∧ table (w.storeAt k).rows = rows

/-- Every call uses the mutations that had cleared the cache when it started. -/
def MutationsSeen (w : CacheWorld) : Prop :=
  ∀ d j data, w.DidAt d j (.use data) →
    Seen Rows.activeZones Mutation.writesZones w d j data.zones ∧
      Seen loadedRules Mutation.writesRules w d j data.rules

section Proof

variable {β : Type} {table : Rows → β} {writes : Mutation → Bool} {w : CacheWorld} {i j d : ℕ}
  {c : Cmd} {rows : β}

abbrev perform (w : CacheWorld) (i : ℕ) (c : Cmd) : CacheWorld := w.act Cmd.exec i c

/-- What was read of a table is what it held at some moment, and the mutations of it since then have not
cleared the cache. -/
def Covers (table : Rows → β) (writes : Mutation → Bool) (w : CacheWorld) (rows : β) : Prop :=
  ∃ k, k ≤ w.moment ∧ table (w.storeAt k).rows = rows ∧
    ∀ a i m, w.DidAt a i (.mutate m) → writes m = true → k ≤ a → ¬ w.Did i (· = .invalidate)

/-- What holds when a thread performs a command. -/
def Guar (i : ℕ) (w : CacheWorld) : Cmd → Prop
  | .mutate _ => ¬ w.Did i (· = .invalidate)
  | .fill data => (∃ s, w.lastRead i isFindZones = some s ∧ s.rows.activeZones = data.zones) ∧
      ∃ s, w.lastRead i isFindRules = some s ∧ loadedRules s.rows = data.rules
  | .use data => Seen Rows.activeZones Mutation.writesZones w w.moment i data.zones ∧
      Seen loadedRules Mutation.writesRules w w.moment i data.rules
  | _ => True

/-- What was seen stays seen: a step adds nothing before moment `d`, and a mutation is written before it
clears the cache. -/
theorem Seen.act (hd : d ≤ w.moment) (hguar : Guar i w c) (h : Seen table writes w d j rows) :
    Seen table writes (perform w i c) d j rows := by
  intro a b c' i' m ha hb hc' hbc hcd hwrites
  have hstart : w.DidAt c' j .start := by
    rcases World.didAt_act.mp hc' with hc' | ⟨hmoment, -⟩
    · exact hc'
    · omega
  have hcleared : w.DidAt b i' .invalidate := by
    rcases World.didAt_act.mp hb with hb | ⟨hmoment, -⟩
    · exact hb
    · omega
  have hwritten : w.DidAt a i' (.mutate m) := by
    rcases World.didAt_act.mp ha with ha | ⟨-, rfl, rfl⟩
    · exact ha
    · exact (hguar (hcleared.did rfl)).elim
  obtain ⟨k, hak, hkd, hread⟩ := h a b c' i' m hwritten hcleared hstart hbc hcd hwrites
  refine ⟨k, hak, hkd, ?_⟩
  rw [World.storeAt_act (by omega)]
  exact hread

/-- A call that has started knows what it has seen, whatever the others do. -/
theorem Seen.act_moment (hstart : i ≠ j ∨ c ≠ .start) (hguar : Guar i w c)
    (h : Seen table writes w w.moment j rows) :
    Seen table writes (perform w i c) (perform w i c).moment j rows := by
  intro a b c' i' m ha hb hc' hbc hcd hwrites
  have hc' : w.DidAt c' j .start := by
    rcases World.didAt_act.mp hc' with hc' | ⟨-, rfl, rfl⟩
    · exact hc'
    · rcases hstart with hne | hne
      · exact absurd rfl hne
      · exact absurd rfl hne
  have hlt := hc'.lt
  have hkept : Seen table writes (perform w i c) w.moment j rows := h.act le_rfl hguar
  obtain ⟨k, hak, hkd, hread⟩ := hkept a b c' i' m ha hb hc'.act hbc hlt hwrites
  exact ⟨k, hak, Nat.le_succ_of_le hkd, hread⟩

theorem Covers.act (hguar : Guar i w c) (hc : c ≠ .invalidate) (h : Covers table writes w rows) :
    Covers table writes (perform w i c) rows := by
  obtain ⟨k, hk, hread, hmutations⟩ := h
  refine ⟨k, Nat.le_succ_of_le hk, ?_, fun a i' m ha hwrites hka hdid => ?_⟩
  · rw [World.storeAt_act hk]
    exact hread
  · have hcleared : w.Did i' (· = .invalidate) := by
      rcases World.did_act.mp hdid with ⟨-, heq⟩ | hdid
      · exact absurd heq hc
      · exact hdid
    rcases World.didAt_act.mp ha with ha | ⟨-, rfl, rfl⟩
    · exact hmutations a i' m ha hwrites hka hcleared
    · exact hguar hcleared

/-- What is in the cache when a call starts. -/
theorem Covers.seen (h : Covers table writes w rows) :
    Seen table writes w w.moment j rows := by
  obtain ⟨k, hk, hread, hmutations⟩ := h
  intro a b c i m ha hb _ _ _ hwrites
  refine ⟨k, ?_, hk, hread⟩
  by_contra hka
  exact hmutations a i m ha hwrites (by omega) (hb.did rfl)

/-- What a call that has started reads. -/
theorem seen_of_read (hwrites : ∀ m, c ≠ .mutate m) :
    Seen table writes (perform w i c) (perform w i c).moment j (table w.store.rows) := by
  intro a b c' i' m ha _ hc' _ _ _
  have hwritten : w.DidAt a i' (.mutate m) := by
    rcases World.didAt_act.mp ha with ha | ⟨-, -, heq⟩
    · exact ha
    · exact absurd heq (hwrites m)
  refine ⟨w.moment, hwritten.lt, Nat.le_succ _, ?_⟩
  rw [World.storeAt_act le_rfl, World.storeAt_moment]

/-- What a call has read is in the cache, and no mutation since then has cleared it. -/
theorem covers_of_fill {data : SurgeData} {p : Cmd → Bool} {s : Store}
    (hguar : Guar i w (.fill data))
    (hread : w.lastRead i p = some s) (hp : ∀ m, p (.mutate m) = false)
    (hsince : ∀ j m s, writes m = true → ⟨j, .did (.mutate m), s⟩ ∈ w.since i p →
      ¬ w.Did j (· = .invalidate)) :
    Covers table writes (perform w i (.fill data)) (table s.rows) := by
  obtain ⟨k, hk, hstore, ⟨c, hc, hpc⟩, hafter⟩ := World.exists_moment_of_lastRead hread
  refine Covers.act hguar nofun ⟨k, hk.le, by rw [hstore], fun a j m ha hwrites hka => ?_⟩
  rcases Nat.lt_or_eq_of_le hka with hlt | rfl
  · obtain ⟨s', hs'⟩ := hafter a j (.mutate m) ha hlt
    exact hsince j m s' hwrites hs'
  · -- the read is no mutation
    obtain ⟨s', hs'⟩ := hc
    obtain ⟨s'', hs''⟩ := ha
    rw [hs'] at hs''
    cases hs''
    rw [hp m] at hpc
    cases hpc

/-- What the cache holds and what the calls have used. -/
structure Inv (w : CacheWorld) : Prop where
  cached : ∀ data loadedAt, w.store.cache = some (data, loadedAt) →
    Covers Rows.activeZones Mutation.writesZones w data.zones ∧
      Covers loadedRules Mutation.writesRules w data.rules
  used : MutationsSeen w

theorem inv_act (hinv : Inv w) (hcond : NoStaleFill i w c) (hguar : Guar i w c) :
    Inv (perform w i c) := by
  constructor
  · intro data loadedAt hcache
    have hkept : (perform w i c).store.cache = w.store.cache → c ≠ .invalidate →
        Covers Rows.activeZones Mutation.writesZones (perform w i c) data.zones ∧
          Covers loadedRules Mutation.writesRules (perform w i c) data.rules := by
      intro hsame hc
      rw [hsame] at hcache
      obtain ⟨hzones, hrules⟩ := hinv.cached data loadedAt hcache
      exact ⟨hzones.act hguar hc, hrules.act hguar hc⟩
    cases c with
    | invalidate => cases hcache
    | fill filled =>
      obtain ⟨⟨s, hs, hzones⟩, s', hs', hrules⟩ := id hguar
      obtain ⟨rfl, -⟩ := Prod.mk.inj (Option.some.inj hcache)
      rw [← hzones, ← hrules]
      exact ⟨covers_of_fill hguar hs (fun _ => rfl) fun j m s => (hcond j m s).1,
        covers_of_fill hguar hs' (fun _ => rfl) fun j m s => (hcond j m s).2⟩
    | _ => exact hkept rfl nofun
  · intro d j data hdid
    rcases World.didAt_act.mp hdid with hdid | ⟨rfl, rfl, rfl⟩
    · obtain ⟨hzones, hrules⟩ := hinv.used d j data hdid
      exact ⟨hzones.act hdid.lt.le hguar, hrules.act hdid.lt.le hguar⟩
    · exact ⟨hguar.1.act le_rfl hguar, hguar.2.act le_rfl hguar⟩

/-- The rules of the runs. -/
def protocol (fault : Error → Prop) : Protocol system where
  cond := NoStaleFill
  fault := fault
  inv := Inv
  guar := Guar
  inv_step := by
    intro w i c n hinv hcond hguar _ _
    rw [World.step_of_no_handlers rfl]
    exact inv_act hinv hcond hguar

/-! ### The threads -/

variable {fault : Error → Prop} {data : SurgeData}

theorem stable_seen : (protocol fault).Stable j fun w => Seen table writes w w.moment j rows := by
  rintro w _ ⟨i, c, n, hij, -, -, -, -, -, hguar, rfl⟩ h
  rw [World.step_of_no_handlers rfl]
  exact h.act_moment (Or.inl hij) hguar

/-- The call may use the data. -/
def Knows (j : ℕ) (data : SurgeData) (w : CacheWorld) : Prop :=
  Seen Rows.activeZones Mutation.writesZones w w.moment j data.zones ∧
    Seen loadedRules Mutation.writesRules w w.moment j data.rules

theorem stable_knows : (protocol fault).Stable j (Knows j data) := stable_seen.and stable_seen

theorem Knows.perform (hc : c ≠ .start) (hguar : Guar j w c) (h : Knows j data w) :
    Knows j data (perform w j c) :=
  ⟨h.1.act_moment (Or.inr hc) hguar, h.2.act_moment (Or.inr hc) hguar⟩

theorem lastRead_perform {p : Cmd → Bool} (hp : p c = true) :
    (perform w j c).lastRead j p = some w.store := by
  have h := World.lastRead_step_self (S := system) (w := w) (i := j) (n := 0) hp
  rwa [World.step_of_no_handlers rfl] at h

theorem lastRead_perform_of_not {p : Cmd → Bool} (hp : p c = false) :
    (perform w j c).lastRead j p = w.lastRead j p := by
  have h := World.lastRead_step_of_not (S := system) (w := w) (i := j) (j := j) (n := 0)
    (Or.inr hp)
  rwa [World.step_of_no_handlers rfl] at h

/-- The call has read the data. -/
structure Loaded (j : ℕ) (data : SurgeData) (w : CacheWorld) : Prop where
  knows : Knows j data w
  zones : ∃ s, w.lastRead j isFindZones = some s ∧ s.rows.activeZones = data.zones
  rules : ∃ s, w.lastRead j isFindRules = some s ∧ loadedRules s.rows = data.rules

theorem Loaded.perform_answer (h : Loaded j data w) : Loaded j data (perform w j .answer) := by
  have hzones : (perform w j .answer).lastRead j isFindZones = w.lastRead j isFindZones :=
    lastRead_perform_of_not rfl
  have hrules : (perform w j .answer).lastRead j isFindRules = w.lastRead j isFindRules :=
    lastRead_perform_of_not rfl
  exact ⟨h.knows.perform nofun trivial, hzones ▸ h.zones, hrules ▸ h.rules⟩

theorem stable_loaded : (protocol fault).Stable j (Loaded j data) := by
  intro w w' hother h
  obtain ⟨s, hs, hzones⟩ := h.zones
  obtain ⟨s', hs', hrules⟩ := h.rules
  exact ⟨stable_knows hother h.knows, ⟨s, Protocol.stable_lastRead j _ _ hother hs, hzones⟩,
    ⟨s', Protocol.stable_lastRead j _ _ hother hs', hrules⟩⟩

theorem wp_use (hw : Knows j data w) (r : Except Error ℚ) :
    (protocol fault).wp j ((Async.emit (.use data)).bind fun _ => Async.done r) (fun _ _ => True)
      w := by
  refine Protocol.wp_read_bind stable_knows hw fun v hv _ _ => ⟨hv, fun n _ _ => ?_⟩
  trivial

/-- What one of the two queries has answered. -/
def HasRead (table : Rows → β) (writes : Mutation → Bool) (p : Cmd → Bool) (j : ℕ) (s : Store)
    (w : CacheWorld) : Prop :=
  w.lastRead j p = some s ∧ Seen table writes w w.moment j (table s.rows)

theorem stable_hasRead {p : Cmd → Bool} {s : Store} :
    (protocol fault).Stable j (HasRead table writes p j s) :=
  (Protocol.stable_lastRead j p (some s)).and stable_seen

/-- The other query leaves what one has answered. -/
theorem HasRead.perform {p : Cmd → Bool} {s : Store} (hp : p c = false) (hc : c ≠ .start)
    (hguar : Guar j w c) (h : HasRead table writes p j s w) :
    HasRead table writes p j s (perform w j c) := by
  refine ⟨?_, h.2.act_moment (Or.inr hc) hguar⟩
  rw [lastRead_perform_of_not hp]
  exact h.1

/-- One of the two queries, before the rest of a program that relies on `B`. -/
theorem wp_query_table {p : Cmd → Bool} {α : Type} {g : β → Async Store Cmd Error α}
    {B : CacheWorld → Prop} {Q : Except Error α → CacheWorld → Prop} (hp : p c = true)
    (hwrites : ∀ m, c ≠ .mutate m) (hguar : ∀ w, Guar j w c) (hB : (protocol fault).Stable j B)
    (hw : B w) (hkeep : ∀ v, B v → B (perform v j c))
    (hnext : ∀ s v, HasRead table writes p j s v → B v →
      (protocol fault).wp j (g (table s.rows)) Q v)
    (herr : ∀ e v, Q (.error e) v) :
    (protocol fault).wp j ((Async.query c fun s => table s.rows).bind g) Q w := by
  refine Protocol.wp_query_bind hB hw (fun v hv _ _ => ?_) fun e v _ _ _ => herr e v
  refine ⟨hguar v, fun n _ _ => ?_⟩
  rw [World.step_of_no_handlers rfl]
  exact hnext v.store _ ⟨lastRead_perform hp, seen_of_read hwrites⟩ (hkeep v hv)

/-- In either order, the queries answer what the tables hold when they are asked. -/
theorem wp_queryRows (zonesFirst : Bool) :
    (protocol fault).wp j (queryRows zonesFirst)
      (fun r v => ∀ data, r = .ok data → Loaded j data v) w := by
  have htrue : (protocol fault).Stable j fun _ => True := Protocol.stable_const j True
  have hdone : ∀ {s s' : Store} {v : CacheWorld},
      HasRead Rows.activeZones Mutation.writesZones isFindZones j s v →
      HasRead loadedRules Mutation.writesRules isFindRules j s' v →
      ∀ data, (Except.ok ⟨s.rows.activeZones, loadedRules s'.rows⟩ : Except Error SurgeData) =
        .ok data → Loaded j data v := by
    rintro s s' v hzones hrules data hdata
    obtain rfl := Except.ok.inj hdata
    exact ⟨⟨hzones.2, hrules.2⟩, ⟨s, hzones.1, rfl⟩, s', hrules.1, rfl⟩
  have herror : ∀ (e : Error) (v : CacheWorld) (data : SurgeData),
      (Except.error e : Except Error SurgeData) = .ok data → Loaded j data v := by
    intro e v data h
    cases h
  have hfindZones : ∀ m, Cmd.findZones ≠ .mutate m := by
    intro m h
    cases h
  have hfindRules : ∀ m, Cmd.findRules ≠ .mutate m := by
    intro m h
    cases h
  unfold queryRows
  cases zonesFirst with
  | true =>
    rw [if_pos rfl]
    have hsecond : ∀ s v, HasRead Rows.activeZones Mutation.writesZones isFindZones j s v → True →
        (protocol fault).wp j ((Async.query .findRules fun s => loadedRules s.rows).bind fun rules =>
          Async.done (.ok ⟨s.rows.activeZones, rules⟩))
          (fun r v => ∀ data, r = .ok data → Loaded j data v) v := by
      intro s v hzones _
      refine wp_query_table (c := .findRules) (p := isFindRules) rfl hfindRules (fun _ => trivial)
        stable_hasRead hzones
        (fun u hu => hu.perform (c := .findRules) rfl nofun trivial)
        (fun s' u (hrules : HasRead loadedRules Mutation.writesRules isFindRules j s' u) hzones =>
          ?_) herror
      exact hdone hzones hrules
    exact wp_query_table (c := .findZones) (p := isFindZones) rfl hfindZones (fun _ => trivial) htrue
      trivial (fun _ _ => trivial) hsecond herror
  | false =>
    rw [if_neg Bool.false_ne_true]
    have hsecond : ∀ s v, HasRead loadedRules Mutation.writesRules isFindRules j s v → True →
        (protocol fault).wp j ((Async.query .findZones fun s => s.rows.activeZones).bind fun zones =>
          Async.done (.ok ⟨zones, loadedRules s.rows⟩))
          (fun r v => ∀ data, r = .ok data → Loaded j data v) v := by
      intro s v hrules _
      refine wp_query_table (c := .findZones) (p := isFindZones) rfl hfindZones (fun _ => trivial)
        stable_hasRead hrules
        (fun u hu => hu.perform (c := .findZones) rfl nofun trivial)
        (fun s' u (hzones : HasRead Rows.activeZones Mutation.writesZones isFindZones j s' u) hrules =>
          ?_) herror
      exact hdone hzones hrules
    exact wp_query_table (c := .findRules) (p := isFindRules) rfl hfindRules (fun _ => trivial) htrue
      trivial (fun _ _ => trivial) hsecond herror

theorem wp_loadData (zonesFirst : Bool) :
    (protocol fault).wp j (loadData zonesFirst)
      (fun r v => ∀ data, r = .ok data → Knows j data v) w := by
  refine Protocol.wp_read_bind (Protocol.stable_const j True) trivial fun v _ hinv _ => ?_
  refine ⟨trivial, fun n _ _ => ?_⟩
  rw [World.step_of_no_handlers rfl]
  cases hcached : v.store.cached with
  | some data =>
    rintro data' hdata
    obtain rfl := Except.ok.inj hdata
    obtain ⟨⟨entry, loadedAt⟩, hentry, hlive⟩ := Option.bind_eq_some_iff.mp hcached
    split_ifs at hlive
    obtain rfl := Option.some.inj hlive
    obtain ⟨hzones, hrules⟩ := hinv.cached entry loadedAt hentry
    exact ⟨(hzones.act (i := j) (c := .start) trivial nofun).seen,
      (hrules.act (i := j) (c := .start) trivial nofun).seen⟩
  | none =>
    refine Protocol.wp_bind (Protocol.wp_mono ?_ (wp_queryRows zonesFirst))
    rintro (e | data) u hu
    · exact nofun
    · have hloaded : Loaded j data u := hu data rfl
      refine Protocol.wp_query_bind stable_loaded hloaded (fun u hu _ _ => ⟨trivial, fun n _ _ => ?_⟩)
        fun _ _ _ _ _ => nofun
      rw [World.step_of_no_handlers rfl]
      refine Protocol.wp_read_bind stable_loaded hu.perform_answer fun u hu _ _ => ?_
      have hguar : Guar j u (.fill data) := ⟨hu.zones, hu.rules⟩
      refine ⟨hguar, fun n _ _ => ?_⟩
      rw [World.step_of_no_handlers rfl]
      rintro data' hdata
      obtain rfl := Except.ok.inj hdata
      exact hu.knows.perform nofun hguar

theorem wp_getSurgeMultiplier (isWithinRadius : ℚ → ℚ → ZoneEntry → Bool) (zonesFirst : Bool)
    (context : PricingContext) :
    (protocol fault).wp j (getSurgeMultiplier isWithinRadius zonesFirst context) (fun _ _ => True)
      w := by
  refine Protocol.wp_bind (Protocol.wp_mono ?_ (wp_loadData zonesFirst))
  rintro (e | data) u hu
  · trivial
  · exact wp_use (hu data rfl) _

theorem wp_mutation (m : Mutation) (hw : ¬ w.Did j (· = .invalidate)) :
    (protocol fault).wp j (mutation m) (fun _ _ => True) w := by
  refine Protocol.wp_queryE_bind (Protocol.stable_not_did j _) hw (fun v hv _ _ => ?_)
    fun _ _ _ _ _ => trivial
  refine ⟨hv, fun n _ _ => ?_⟩
  cases hresult : (if m.accepted v.store.rows then .ok () else .error .recordNotFound :
      Except Error Unit) with
  | error e => trivial
  | ok a =>
    refine Protocol.wp_query_bind (Protocol.stable_const j True) trivial
      (fun _ _ _ _ => ⟨trivial, fun _ _ _ => ?_⟩) fun _ _ _ _ _ => trivial
    exact Protocol.wp_read_bind (g := fun r => Async.done (.ok r)) (Protocol.stable_const j True)
      trivial fun _ _ _ _ => ⟨trivial, fun _ _ _ => trivial⟩

theorem wp_call (isWithinRadius : ℚ → ℚ → ZoneEntry → Bool) (call : Call)
    (hw : ¬ w.Did j (· = .invalidate)) :
    (protocol fault).wp j (call.program isWithinRadius) (fun _ _ => True) w := by
  cases call with
  | getSurgeMultiplier zonesFirst context =>
    exact Protocol.wp_as (wp_getSurgeMultiplier isWithinRadius zonesFirst context)
  | mutation m => exact wp_mutation m hw
  | wait ms =>
    exact Protocol.wp_query (Protocol.stable_const j True) trivial
      (fun _ _ _ _ => ⟨trivial, fun _ _ _ => trivial⟩) fun _ _ _ _ _ => trivial

end Proof

/-- If no call fills the cache with rows of a table that it has read before a mutation of the table that
has cleared the cache meanwhile, then every call that starts after a mutation has cleared the cache uses
zones and rules that include the mutation. -/
theorem mutations_seen (isWithinRadius : ℚ → ℚ → ZoneEntry → Bool) (fault : Error → Prop)
    (rows : Rows) (calls : List Call) {p : Pool Store Cmd Error Unit}
    (hrun : Pool.Run system NoStaleFill fault (start isWithinRadius rows calls) p) :
    MutationsSeen p.world := by
  have hempty : ∀ k i c, ¬ World.DidAt (⟨{ rows := rows }, []⟩ : CacheWorld) k i c := by
    intro k i c hdid
    exact absurd hdid.lt (Nat.not_lt_zero k)
  have hstart : (protocol fault).Safe (fun _ _ _ => True) (start isWithinRadius rows calls) := by
    refine Protocol.safe_init ⟨nofun, fun d j data hdid => absurd hdid (hempty d j _)⟩
      fun i t ht => ?_
    rw [List.getElem?_map] at ht
    obtain ⟨call, -, rfl⟩ := Option.map_eq_some_iff.mp ht
    exact wp_call isWithinRadius call fun ⟨e, he, _⟩ => absurd he List.not_mem_nil
  have hsafe := hstart.run (fun i _ => Protocol.stable_const i True) (fun _ _ _ hk => by cases hk) hrun
  exact hsafe.inv.used

/-! ### Runs -/

def isInvalidate : Cmd → Bool
  | .invalidate => true
  | _ => false

instance (w : CacheWorld) (j : ℕ) : Decidable (w.Did j (· = .invalidate)) := by
  refine decidable_of_iff
    (∃ e ∈ w.trace, e.tid = j ∧ e.kind.performs isInvalidate = true) ⟨?_, ?_⟩
  · rintro ⟨⟨tid, kind, before⟩, he, htid, hperforms⟩
    refine ⟨_, he, htid, ?_⟩
    cases kind with
    | spawned c => cases hperforms
    | did c => cases c <;> first | exact ⟨_, rfl, rfl⟩ | cases hperforms
  · rintro ⟨⟨tid, kind, before⟩, he, htid, c, rfl, rfl⟩
    exact ⟨_, he, htid, rfl⟩

/-- The entry records no mutation that has cleared the cache already. -/
def notCleared (w : CacheWorld) (writes : Mutation → Bool) (e : Event Store Cmd) : Bool :=
  match e.kind with
  | .did (.mutate m) => !(writes m && decide (w.Did e.tid (· = .invalidate)))
  | _ => true

instance (i : ℕ) (w : CacheWorld) (c : Cmd) : Decidable (NoStaleFill i w c) := by
  cases c with
  | fill data =>
    refine decidable_of_iff
      ((∀ e ∈ w.since i isFindZones, notCleared w Mutation.writesZones e = true) ∧
        ∀ e ∈ w.since i isFindRules, notCleared w Mutation.writesRules e = true) ⟨?_, ?_⟩
    · rintro ⟨hzones, hrules⟩ j m s
      refine ⟨fun hwrites he hdid => ?_, fun hwrites he hdid => ?_⟩
      · have h := hzones _ he
        simp [notCleared, hwrites, hdid] at h
      · have h := hrules _ he
        simp [notCleared, hwrites, hdid] at h
    · intro h
      refine ⟨fun e he => ?_, fun e he => ?_⟩
      · obtain ⟨tid, kind, before⟩ := e
        unfold notCleared
        split
        · rename_i m hkind
          obtain rfl : kind = .did (.mutate m) := hkind
          have hnot := (h tid m before).1
          by_cases hwrites : m.writesZones = true
          · simp [hnot hwrites he]
          · simp [hwrites]
        · rfl
      · obtain ⟨tid, kind, before⟩ := e
        unfold notCleared
        split
        · rename_i m hkind
          obtain rfl : kind = .did (.mutate m) := hkind
          have hnot := (h tid m before).2
          by_cases hwrites : m.writesRules = true
          · simp [hnot hwrites he]
          · simp [hwrites]
        · rfl
  | _ => exact inferInstanceAs (Decidable True)

namespace Office

open Town

/-- The surge is asked for, while a zone around the pickup is created, and again. -/
def calls : List Call :=
  [.getSurgeMultiplier true request, .mutation (.createZone plateau), .getSurgeMultiplier true request]

/-- The first call reads the tables before the zone is created, and fills the cache afterwards. -/
def crossing : List ℕ := [0, 0, 0, 1, 1, 1, 0, 0, 0, 2, 2]

/-- The last call comes in after the zone was created. -/
def inTurn : List ℕ := [1, 1, 1, 2, 2, 2, 2, 2, 2]

def writesZone : Cmd → Bool
  | .mutate m => m.writesZones
  | _ => false

def isStart : Cmd → Bool
  | .start => true
  | _ => false

/-- A call uses these zones. -/
def usesZones (zones : List ZoneEntry) : Cmd → Bool
  | .use data => decide (data.zones = zones)
  | _ => false

end Office

open Office Town in
/-- A call after the zone was created uses it. -/
theorem mutations_seen_town : ∃ q : Pool Store Cmd Error Unit,
    q.world.didKindAt 8 2 (usesZones [plateau.entry]) = true ∧ MutationsSeen q.world := by
  obtain ⟨q, hrun, huses⟩ := Pool.exists_run_of_schedule? system NoStaleFill (fun _ => False)
    (start haversine {} calls) inTurn
    (fun q => q.world.didKindAt 8 2 (usesZones [plateau.entry]) = true) (by decide +kernel)
  exact ⟨q, huses, mutations_seen haversine _ {} calls hrun⟩

open Office Town in
/-- The first call puts the old rows back after the cache was cleared, and the last one uses them. -/
theorem old_rows_used : ∃ q : Pool Store Cmd Error Unit,
    Pool.Run system (fun _ _ _ => True) (fun _ => False) (start haversine {} calls) q ∧
      ¬ MutationsSeen q.world := by
  obtain ⟨q, hrun, hwrites, hclears, hstarts, huses, hrows⟩ :=
    Pool.exists_run_of_schedule? system (fun _ _ _ => True) (fun _ => False)
      (start haversine {} calls) crossing
      (fun q => q.world.didKindAt 3 1 writesZone = true ∧
        q.world.didKindAt 5 1 isInvalidate = true ∧ q.world.didKindAt 9 2 isStart = true ∧
        q.world.didKindAt 10 2 (usesZones []) = true ∧
        ∀ k ∈ List.range' 4 7, (q.world.storeAt k).rows.activeZones.isEmpty = false)
      (by decide +kernel)
  refine ⟨q, hrun, fun hseen => ?_⟩
  obtain ⟨mutate, hmutate, hwrites⟩ := World.exists_didAt hwrites
  obtain ⟨clear, hclear, hclears⟩ := World.exists_didAt hclears
  obtain ⟨begin, hbegin, hstarts⟩ := World.exists_didAt hstarts
  obtain ⟨use, huse, huses⟩ := World.exists_didAt huses
  cases mutate <;> try cases hwrites
  cases clear <;> try cases hclears
  cases begin <;> try cases hstarts
  cases use <;> try cases huses
  rename_i m data
  obtain ⟨k, hlt, hle, hread⟩ :=
    (hseen 10 2 data huse).1 3 5 9 1 m hmutate hclear hbegin (by decide) (by decide) hwrites
  have hmoment : k ∈ List.range' 4 7 := List.mem_range'_1.mpr ⟨hlt, by omega⟩
  have hempty := hrows k hmoment
  rw [hread, of_decide_eq_true huses] at hempty
  cases hempty

end Telima.Pricing.Cache
