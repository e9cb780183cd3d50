import Mathlib.Analysis.SpecialFunctions.Trigonometric.Inverse
import Telima.Data.JsNumber
import Telima.Data.OrderBy
import Telima.Store.Commands

/-!
# `PricingService`, `PricingEngineService` and `DynamicPricingService`

The price of a trip: the tariff of its vehicle type, for the distance and the time, times the surge.
The surge is the multiplier of the first active zone the pickup is in, times the modifiers of the
active rules that match.  What `loadData` returns, and which zones a point is in, are parameters; the
cache is modelled in `Pricing/Cache.lean`, and `haversine` is the test of the code.
-/

namespace Telima.Pricing

/-! ### The tables -/

/-- A row of `service_zones`. -/
structure ServiceZone where
  id : String
  centerLat : ℚ
  centerLng : ℚ
  radiusKm : ℚ
  surgeMultiplier : Decimal2 := 100
  isActive : Bool := true
  deriving DecidableEq, Repr

/-- A row of `pricing_rules`. -/
structure PricingRule where
  id : String
  serviceType : Option ServiceType := none
  vehicleTypeId : Option ℕ := none
  zoneId : Option String := none
  condition : Json
  modifier : Decimal2
  priority : ℤ := 100
  isActive : Bool := true

/-- What `calculatePrice` reads of a row of `vehicle_types`. -/
structure Tariff where
  id : ℕ
  serviceType : ServiceType
  baseFare : Decimal2
  pricePerKm : Decimal2
  pricePerMin : Decimal2
  commissionPercentage : Decimal2
  isActive : Bool := true
  deriving DecidableEq, Repr

/-- What `getPricingConfig` reads of a row of `service_configs`. -/
structure ServiceConfig where
  surgeEnabled : Bool := false
  maxSurgeMultiplier : Decimal2 := 200
  deriving DecidableEq, Repr

/-! ### `ServiceConfigService` -/

structure ServicePricingConfig where
  surgeEnabled : Bool
  maxSurgeMultiplier : ℚ
  deriving DecidableEq, Repr

/-- `DEFAULT_PRICING_CONFIG` -/
def defaultPricingConfig : ServicePricingConfig where
  surgeEnabled := false
  maxSurgeMultiplier := 2

/-- `getPricingConfig`, of the row of the service. -/
def getPricingConfig (config : Option ServiceConfig) : ServicePricingConfig :=
  match config with
  | none => defaultPricingConfig
  | some config => ⟨config.surgeEnabled, config.maxSurgeMultiplier.toNumber⟩

/-! ### `PricingEngineService` -/

structure PricingContext where
  serviceType : ServiceType
  vehicleTypeId : ℕ
  baseFare : ℚ
  pricePerKm : ℚ
  pricePerMin : ℚ
  commissionPercentage : ℚ
  distanceMeters : ℚ
  durationSeconds : ℚ
  pickupLat : ℚ
  pickupLng : ℚ
  dropoffLat : ℚ
  dropoffLng : ℚ
  /-- Milliseconds, on the clock of the server. -/
  requestedAt : ℕ
  surgeMultiplier : Option ℚ := none
  deriving DecidableEq, Repr

/-- `requestedAt.getHours()` -/
def PricingContext.getHours (context : PricingContext) : ℕ := context.requestedAt / 3600000 % 24

/-- `requestedAt.getMinutes()` -/
def PricingContext.getMinutes (context : PricingContext) : ℕ := context.requestedAt / 60000 % 60

structure PricingBreakdown where
  baseFare : ℚ
  distanceCost : ℚ
  durationCost : ℚ
  surgeMultiplier : ℚ
  total : ℚ
  deriving DecidableEq, Repr

structure PricingResult where
  estimatedPrice : ℚ
  commissionAmount : ℤ
  distanceMeters : ℚ
  durationSeconds : ℚ
  breakdown : PricingBreakdown
  deriving DecidableEq, Repr

/-- The interface of a rule of the engine. -/
structure EngineRule where
  priority : ℚ
  isApplicable : PricingContext → Bool
  apply : PricingContext → PricingBreakdown → PricingBreakdown

def baseFareRule : EngineRule where
  priority := 10
  isApplicable _ := true
  apply context currentBreakdown :=
    let distanceCost := context.distanceMeters / 1000 * context.pricePerKm
    let durationCost := context.durationSeconds / 60 * context.pricePerMin
    { baseFare := context.baseFare
      distanceCost := distanceCost
      durationCost := durationCost
      surgeMultiplier := currentBreakdown.surgeMultiplier
      total := mathRound (context.baseFare + distanceCost + durationCost) }

def surgeMultiplierRule : EngineRule where
  priority := 20
  isApplicable context := decide (context.surgeMultiplier.getD 1 ≠ 1)
  apply context currentBreakdown :=
    let surge := context.surgeMultiplier.getD 1
    { currentBreakdown with
      surgeMultiplier := surge
      total := mathRound (currentBreakdown.total * surge) }

namespace PricingEngineService

/-- `rules.push(rule)`, and a stable sort by priority. -/
def registerRule (rules : List EngineRule) (rule : EngineRule) : List EngineRule :=
  (rules ++ [rule]).mergeSort fun a b => decide (a.priority ≤ b.priority)

/-- The rules the constructor registers. -/
def rules : List EngineRule := [baseFareRule, surgeMultiplierRule].foldl registerRule []

def initialBreakdown : PricingBreakdown where
  baseFare := 0
  distanceCost := 0
  durationCost := 0
  surgeMultiplier := 1
  total := 0

/-- The breakdown after the rules that apply. -/
def breakdown (context : PricingContext) : PricingBreakdown :=
  rules.foldl (fun breakdown rule =>
    if rule.isApplicable context then rule.apply context breakdown else breakdown) initialBreakdown

def calculate (context : PricingContext) : PricingResult :=
  let breakdown := breakdown context
  { estimatedPrice := breakdown.total
    commissionAmount := mathRound (breakdown.total * (context.commissionPercentage / 100))
    distanceMeters := context.distanceMeters
    durationSeconds := context.durationSeconds
    breakdown := breakdown }

end PricingEngineService

/-! ### `DynamicPricingService` -/

structure ZoneEntry where
  id : String
  centerLat : ℚ
  centerLng : ℚ
  radiusKm : ℚ
  surgeMultiplier : ℚ
  deriving DecidableEq, Repr

structure RuleEntry where
  serviceType : Option ServiceType
  vehicleTypeId : Option ℕ
  zoneId : Option String
  condition : Json
  modifier : ℚ

def ServiceZone.entry (z : ServiceZone) : ZoneEntry :=
  ⟨z.id, z.centerLat, z.centerLng, z.radiusKm, z.surgeMultiplier.toNumber⟩

def PricingRule.entry (r : PricingRule) : RuleEntry :=
  ⟨r.serviceType, r.vehicleTypeId, r.zoneId, r.condition, r.modifier.toNumber⟩

/-- What `loadData` returns. -/
structure SurgeData where
  zones : List ZoneEntry := []
  rules : List RuleEntry := []

/-- A bound of a `time_range`, in minutes; `split` is a method of strings only. -/
def timeBound : Json → Except Error JsNumber
  | .str text => .ok (minutesOfDay text)
  | _ => .error .typeError

/-- The case `time_range` of `isConditionMatched`. -/
def isInTimeRange (condition : Json) (context : PricingContext) : Except Error Bool :=
  match condition.field "from", condition.field "to" with
  | some start, some stop =>
    if start.truthy && stop.truthy then do
      let now := JsNumber.finite (context.getHours * 60 + context.getMinutes)
      let start ← timeBound start
      let stop ← timeBound stop
      pure (now.ge start && now.lt stop)
    else pure false
  | _, _ => pure false

def isConditionMatched (condition : Json) (context : PricingContext)
    (matchedZoneId : Option String) : Except Error Bool :=
  match condition.field "type" with
  | some (.str "zone") =>
    pure <| match condition.field "zoneId" with
      | some (.str zoneId) => decide (matchedZoneId = some zoneId)
      | _ => false
  | some (.str "time_range") => isInTimeRange condition context
  | _ => pure false

section Surge

variable (isWithinRadius : ℚ → ℚ → ZoneEntry → Bool)

/-- The first zone the pickup is in. -/
def containingZone (data : SurgeData) (context : PricingContext) : Option ZoneEntry :=
  data.zones.find? (isWithinRadius context.pickupLat context.pickupLng)

/-- The body of the loop over the rules. -/
def applyRule (context : PricingContext) (matchedZoneId : Option String) (multiplier : ℚ)
    (rule : RuleEntry) : Except Error ℚ :=
  if rule.serviceType.any fun serviceType => decide (serviceType ≠ context.serviceType) then
    pure multiplier
  else if rule.vehicleTypeId.any fun vehicleTypeId =>
      decide (vehicleTypeId ≠ context.vehicleTypeId) then pure multiplier
  else do
    let matched ← isConditionMatched rule.condition context matchedZoneId
    pure (if matched then multiplier * rule.modifier else multiplier)

/-- `multiplier`, before it is rounded. -/
def multiplier (data : SurgeData) (context : PricingContext) : Except Error ℚ :=
  let containingZone := containingZone isWithinRadius data context
  data.rules.foldlM (applyRule context (containingZone.map ZoneEntry.id))
    (containingZone.elim 1 fun zone => 1 * zone.surgeMultiplier)

/-- `Math.round(multiplier * 100) / 100` -/
def roundCents (multiplier : ℚ) : ℚ := mathRound (multiplier * 100) / 100

def getSurgeMultiplier (data : SurgeData) (context : PricingContext) : Except Error ℚ :=
  (multiplier isWithinRadius data context).map roundCents

/-! ### `PricingService` -/

structure PriceQuoteInput where
  serviceType : ServiceType
  vehicleTypeId : ℕ
  pickup : Point
  dropoff : Point
  deriving DecidableEq, Repr

/-- What `getDistanceMatrix` answers. -/
structure DistanceMatrixResult where
  distanceMeters : ℤ
  durationSeconds : ℤ
  deriving DecidableEq, Repr

/-- The tariff of an active vehicle type of the service. -/
def findTariff (vehicleTypes : List Tariff) (input : PriceQuoteInput) : Option Tariff :=
  vehicleTypes.find? fun v =>
    decide (v.id = input.vehicleTypeId) && v.isActive && decide (v.serviceType = input.serviceType)

/-- The context, without the surge. -/
def pricingContext (input : PriceQuoteInput) (vehicleType : Tariff)
    (distanceResult : DistanceMatrixResult) (now : ℕ) : PricingContext where
  serviceType := input.serviceType
  vehicleTypeId := input.vehicleTypeId
  baseFare := vehicleType.baseFare.toNumber
  pricePerKm := vehicleType.pricePerKm.toNumber
  pricePerMin := vehicleType.pricePerMin.toNumber
  commissionPercentage := vehicleType.commissionPercentage.toNumber
  distanceMeters := distanceResult.distanceMeters
  durationSeconds := distanceResult.durationSeconds
  pickupLat := input.pickup.lat
  pickupLng := input.pickup.lng
  dropoffLat := input.dropoff.lat
  dropoffLng := input.dropoff.lng
  requestedAt := now

/-- `calculatePrice`, where `getDistanceMatrix` is the distance provider, `data` what `loadData` has
returned and `now` the time. -/
def calculatePrice (vehicleTypes : List Tariff)
    (getDistanceMatrix : Point → Point → Except Error DistanceMatrixResult) (data : SurgeData)
    (now : ℕ) (input : PriceQuoteInput) : Except Error PricingResult := do
  match findTariff vehicleTypes input with
  | none =>
    .error (.notFound ("Type de véhicule introuvable ou inactif: " ++ toString input.vehicleTypeId))
  | some vehicleType =>
    let distanceResult ← getDistanceMatrix input.pickup input.dropoff
    let context := pricingContext input vehicleType distanceResult now
    let surgeMultiplier ← getSurgeMultiplier isWithinRadius data context
    let result := PricingEngineService.calculate
      { context with surgeMultiplier := some surgeMultiplier }
    pure
      { result with
        distanceMeters := distanceResult.distanceMeters
        durationSeconds := distanceResult.durationSeconds }

end Surge

/-! ### `isWithinRadius` -/

noncomputable def toRad (deg : ℝ) : ℝ := deg * Real.pi / 180

/-- The haversine distance in kilometres between a point and the centre of a zone. -/
noncomputable def haversineKm (lat lng : ℚ) (zone : ZoneEntry) : ℝ :=
  let dLat := toRad (zone.centerLat - lat)
  let dLng := toRad (zone.centerLng - lng)
  let a := Real.sin (dLat / 2) ^ 2 +
    Real.cos (toRad lat) * Real.cos (toRad zone.centerLat) * Real.sin (dLng / 2) ^ 2
  2 * 6371 * Real.arcsin (Real.sqrt a)

open Classical in
/-- `isWithinRadius` of the code. -/
noncomputable def haversine (lat lng : ℚ) (zone : ZoneEntry) : Bool :=
  decide (haversineKm lat lng zone ≤ zone.radiusKm)

/-- The centre of a zone is in it. -/
theorem haversine_center {zone : ZoneEntry} (h : 0 ≤ zone.radiusKm) :
    haversine zone.centerLat zone.centerLng zone = true := by
  have hdistance : haversineKm zone.centerLat zone.centerLng zone = 0 := by
    simp [haversineKm, toRad]
  refine decide_eq_true ?_
  rw [hdistance]
  exact_mod_cast h

end Telima.Pricing
