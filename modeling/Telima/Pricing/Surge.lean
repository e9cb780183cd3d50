import Mathlib.Algebra.BigOperators.Group.List.Basic
import Mathlib.Algebra.Order.BigOperators.GroupWithZero.List
import Telima.Pricing.Service

/-!
# The surge

What a rule says (`RuleEntry.applies`), and the surge of a request as a product (`surge`).  The loop of
the code multiplies the modifiers of the rules that match (`RuleEntry.matched`), and throws at a time
range whose bounds are no texts (`multiplier_eq`).  It does not look at the zone a rule is for, so it
computes the surge if the rules for other zones that match otherwise cancel out
(`multiplier_eq_surge_iff`).
-/

namespace Telima.Pricing

/-! ### What a rule says -/

/-- When a rule applies. -/
inductive DynamicCondition where
  /-- The pickup is in the zone. -/
  | zone (zoneId : String)
  /-- The time of the request is between the bounds, in minutes of the day. -/
  | timeRange (start stop : JsNumber)
  deriving DecidableEq, Repr

namespace DynamicCondition

/-- The time range between two bounds. -/
def ofBounds : Json → Json → Option DynamicCondition
  | .str start, .str stop => some (.timeRange (minutesOfDay start) (minutesOfDay stop))
  | _, _ => none

/-- The condition a JSON value describes. -/
def ofJson (condition : Json) : Option DynamicCondition :=
  match condition.field "type" with
  | some (.str "zone") =>
    match condition.field "zoneId" with
    | some (.str zoneId) => some (.zone zoneId)
    | _ => none
  | some (.str "time_range") =>
    match condition.field "from", condition.field "to" with
    | some start, some stop => ofBounds start stop
    | _, _ => none
  | _ => none

/-- The condition holds of a request with its pickup in the zone. -/
def holds (context : PricingContext) (zoneId : Option String) : DynamicCondition → Bool
  | zone id => decide (zoneId = some id)
  | timeRange start stop =>
    let now := JsNumber.finite (context.getHours * 60 + context.getMinutes)
    now.ge start && now.lt stop

end DynamicCondition

namespace RuleEntry

/-- The service and the vehicle type of the request are those of the rule. -/
def inScope (context : PricingContext) (rule : RuleEntry) : Bool :=
  (rule.serviceType.all fun serviceType => decide (serviceType = context.serviceType)) &&
    rule.vehicleTypeId.all fun vehicleTypeId => decide (vehicleTypeId = context.vehicleTypeId)

/-- The zone of the request is that of the rule. -/
def inZone (zoneId : Option String) (rule : RuleEntry) : Bool :=
  rule.zoneId.all fun id => decide (zoneId = some id)

/-- The condition of the rule holds. -/
def holds (context : PricingContext) (zoneId : Option String) (rule : RuleEntry) : Bool :=
  (DynamicCondition.ofJson rule.condition).any (DynamicCondition.holds context zoneId)

/-- The rule applies to the request: its scopes match and its condition holds. -/
def applies (context : PricingContext) (zoneId : Option String) (rule : RuleEntry) : Bool :=
  rule.inScope context && rule.inZone zoneId && rule.holds context zoneId

/-- The rule matches, whatever zone it is for. -/
def matched (context : PricingContext) (zoneId : Option String) (rule : RuleEntry) : Bool :=
  rule.inScope context && rule.holds context zoneId

/-- A rule for another zone that matches. -/
def strays (context : PricingContext) (zoneId : Option String) (rule : RuleEntry) : Bool :=
  rule.matched context zoneId && !rule.inZone zoneId

end RuleEntry

/-- The modifiers of rules, multiplied. -/
def modifiers (rules : List RuleEntry) : ℚ := (rules.map RuleEntry.modifier).prod

/-- The surge of a request whose pickup is in the zone. -/
def surge (zone : Option ZoneEntry) (rules : List RuleEntry) (context : PricingContext) : ℚ :=
  zone.elim 1 ZoneEntry.surgeMultiplier *
    modifiers (rules.filter (RuleEntry.applies context (zone.map ZoneEntry.id)))

/-- What the loop multiplies for a request whose pickup it takes to be in the zone. -/
def surgeProduct (zone : Option ZoneEntry) (rules : List RuleEntry) (context : PricingContext) : ℚ :=
  zone.elim 1 ZoneEntry.surgeMultiplier *
    modifiers (rules.filter (RuleEntry.matched context (zone.map ZoneEntry.id)))

/-- A bound of a time range that is given but is no text. -/
def malformedBound : Json → Bool
  | .str _ => false
  | bound => bound.truthy

/-- A time range with two bounds, not both of them texts. -/
def malformed (condition : Json) : Bool :=
  match condition.field "type" with
  | some (.str "time_range") =>
    match condition.field "from", condition.field "to" with
    | some start, some stop =>
      start.truthy && stop.truthy && (malformedBound start || malformedBound stop)
    | _, _ => false
  | _ => false

/-- A rule for the service and the vehicle type of the request is malformed. -/
def Malformed (rules : List RuleEntry) (context : PricingContext) : Prop :=
  ∃ rule ∈ rules, rule.inScope context = true ∧ malformed rule.condition = true

/-- The values the forms of the administration admit. -/
structure SurgeData.Admitted (data : SurgeData) : Prop where
  /-- `@Min(1)` -/
  zones : ∀ zone ∈ data.zones, 1 ≤ zone.surgeMultiplier
  /-- `@Min(0.1)` -/
  rules : ∀ rule ∈ data.rules, 1 / 10 ≤ rule.modifier

/-! ### What the loop computes -/

section Loop

variable {context : PricingContext} {zoneId : Option String} {rules : List RuleEntry}

theorem minutesOfDay_empty : minutesOfDay "" = .nan := by decide

theorem timeBound_of_malformedBound {bound : Json} (htruthy : bound.truthy = true)
    (h : malformedBound bound = true) : timeBound bound = .error .typeError := by
  cases bound <;> first | rfl | cases h

theorem timeBound_of_not_malformedBound {bound : Json} (htruthy : bound.truthy = true)
    (h : ¬ malformedBound bound = true) : ∃ text, bound = .str text := by
  cases bound <;> first | exact ⟨_, rfl⟩ | exact absurd htruthy h

/-- Two texts, of which one is empty, bound nothing. -/
theorem holds_of_empty {start stop : String} (h : start = "" ∨ stop = "") :
    DynamicCondition.holds context zoneId
      (.timeRange (minutesOfDay start) (minutesOfDay stop)) = false := by
  unfold DynamicCondition.holds
  dsimp only
  rcases h with rfl | rfl
  · rw [minutesOfDay_empty]
    rfl
  · rw [minutesOfDay_empty, Bool.and_eq_false_iff]
    exact Or.inr rfl

theorem any_ofBounds_of_not_truthy {start stop : Json}
    (h : ¬ (start.truthy && stop.truthy) = true) :
    (DynamicCondition.ofBounds start stop).any (DynamicCondition.holds context zoneId) = false := by
  unfold DynamicCondition.ofBounds
  split
  · rename_i start stop
    have hempty : start = "" ∨ stop = "" := by
      by_contra hne
      rw [not_or] at hne
      exact h (Bool.and_eq_true_iff.mpr ⟨decide_eq_true hne.1, decide_eq_true hne.2⟩)
    rw [Option.any_some]
    exact holds_of_empty hempty
  · rfl

/-- The case `time_range`. -/
theorem isInTimeRange_eq (condition : Json) :
    isInTimeRange condition context =
      match condition.field "from", condition.field "to" with
      | some start, some stop =>
        if start.truthy && stop.truthy && (malformedBound start || malformedBound stop) then
          .error .typeError
        else .ok ((DynamicCondition.ofBounds start stop).any
          (DynamicCondition.holds context zoneId))
      | _, _ => .ok false := by
  unfold isInTimeRange
  generalize condition.field "from" = start
  generalize condition.field "to" = stop
  cases start with
  | none => rfl
  | some start =>
    cases stop with
    | none => rfl
    | some stop =>
      dsimp only
      by_cases htruthy : (start.truthy && stop.truthy) = true
      · obtain ⟨hstart, hstop⟩ := Bool.and_eq_true_iff.mp htruthy
        rw [if_pos htruthy, htruthy, Bool.true_and]
        by_cases hmalformed : malformedBound start = true
        · rw [timeBound_of_malformedBound hstart hmalformed, hmalformed]
          rfl
        · obtain ⟨_, rfl⟩ := timeBound_of_not_malformedBound hstart hmalformed
          by_cases hmalformed' : malformedBound stop = true
          · rw [timeBound_of_malformedBound hstop hmalformed', hmalformed', Bool.or_true]
            rfl
          · obtain ⟨_, rfl⟩ := timeBound_of_not_malformedBound hstop hmalformed'
            rfl
      · rw [if_neg htruthy, Bool.eq_false_iff.mpr htruthy, Bool.false_and,
          any_ofBounds_of_not_truthy htruthy]
        rfl

theorem isConditionMatched_eq (condition : Json) :
    isConditionMatched condition context zoneId =
      if malformed condition then .error .typeError
      else .ok ((DynamicCondition.ofJson condition).any
        (DynamicCondition.holds context zoneId)) := by
  unfold isConditionMatched malformed DynamicCondition.ofJson
  rw [isInTimeRange_eq]
  generalize condition.field "type" = type
  split
  · -- the zone
    generalize condition.field "zoneId" = id
    cases id with
    | none => rfl
    | some id => cases id <;> rfl
  · -- the time range
    generalize condition.field "from" = start
    generalize condition.field "to" = stop
    cases start with
    | none => rfl
    | some start => cases stop <;> rfl
  · -- any other type
    simp only [Bool.false_eq_true, if_false]
    rfl

/-- One step of the loop. -/
theorem applyRule_eq (m : ℚ) (rule : RuleEntry) :
    applyRule context zoneId m rule =
      if rule.inScope context && malformed rule.condition then .error .typeError
      else .ok (if rule.matched context zoneId then m * rule.modifier else m) := by
  have hservice : (rule.serviceType.any fun serviceType =>
      decide (serviceType ≠ context.serviceType)) =
        !rule.serviceType.all fun serviceType => decide (serviceType = context.serviceType) := by
    cases rule.serviceType <;> simp
  have hvehicle : (rule.vehicleTypeId.any fun vehicleTypeId =>
      decide (vehicleTypeId ≠ context.vehicleTypeId)) =
        !rule.vehicleTypeId.all fun vehicleTypeId =>
          decide (vehicleTypeId = context.vehicleTypeId) := by
    cases rule.vehicleTypeId <;> simp
  unfold applyRule RuleEntry.matched RuleEntry.inScope RuleEntry.holds
  rw [hservice, hvehicle, isConditionMatched_eq]
  cases rule.serviceType.all fun serviceType => decide (serviceType = context.serviceType) with
  | false => rfl
  | true =>
    cases rule.vehicleTypeId.all fun vehicleTypeId =>
      decide (vehicleTypeId = context.vehicleTypeId) with
    | false => rfl
    | true => cases malformed rule.condition <;> rfl

/-- The loop fails at a malformed rule in scope, and multiplies the modifiers of the rules that match
otherwise. -/
theorem foldlM_applyRule (m : ℚ) :
    rules.foldlM (applyRule context zoneId) m =
      if rules.any fun rule => rule.inScope context && malformed rule.condition then
        .error .typeError
      else .ok (m * modifiers (rules.filter (RuleEntry.matched context zoneId))) := by
  induction rules generalizing m with
  | nil =>
    show Except.ok m = Except.ok (m * 1)
    rw [mul_one]
  | cons rule rules ih =>
    rw [List.foldlM_cons, applyRule_eq, List.any_cons]
    by_cases hmalformed : (rule.inScope context && malformed rule.condition) = true
    · rw [hmalformed]
      rfl
    · rw [if_neg hmalformed, Bool.eq_false_iff.mpr hmalformed, Bool.false_or]
      show rules.foldlM (applyRule context zoneId) _ = _
      rw [ih]
      by_cases hmatched : rule.matched context zoneId = true
      · rw [if_pos hmatched, List.filter_cons_of_pos hmatched, modifiers, modifiers, List.map_cons,
          List.prod_cons, mul_assoc]
      · rw [if_neg hmatched, List.filter_cons_of_neg hmatched]

theorem malformed_iff : Malformed rules context ↔
    (rules.any fun rule => rule.inScope context && malformed rule.condition) = true := by
  simp [Malformed]

theorem multiplier_of_malformed {isWithinRadius : ℚ → ℚ → ZoneEntry → Bool} {data : SurgeData}
    (h : Malformed data.rules context) :
    multiplier isWithinRadius data context = .error .typeError := by
  unfold multiplier
  rw [foldlM_applyRule, if_pos (malformed_iff.mp h)]

/-- What the loop computes, when it does not fail. -/
theorem multiplier_eq {isWithinRadius : ℚ → ℚ → ZoneEntry → Bool} {data : SurgeData}
    (h : ¬ Malformed data.rules context) :
    multiplier isWithinRadius data context =
      .ok (surgeProduct (containingZone isWithinRadius data context) data.rules context) := by
  unfold multiplier surgeProduct
  rw [foldlM_applyRule, if_neg (mt malformed_iff.mpr h)]
  cases containingZone isWithinRadius data context with
  | none => rfl
  | some zone => simp

end Loop

/-! ### Products of modifiers -/

section Products

variable {context : PricingContext} {zoneId : Option String} {rules rules' : List RuleEntry}

theorem modifiers_pos (h : ∀ rule ∈ rules, 0 < rule.modifier) : 0 < modifiers rules := by
  refine List.prod_pos fun q hq => ?_
  obtain ⟨rule, hrule, rfl⟩ := List.mem_map.mp hq
  exact h rule hrule

theorem modifiers_filter_pos {p : RuleEntry → Bool} (h : ∀ rule ∈ rules, 0 < rule.modifier) :
    0 < modifiers (rules.filter p) :=
  modifiers_pos fun rule hrule => h rule (List.mem_of_mem_filter hrule)

theorem modifiers_perm (h : rules.Perm rules') : modifiers rules = modifiers rules' :=
  (h.map _).prod_eq

/-- The rules that match are those that apply, and the stray ones. -/
theorem modifiers_matched (context : PricingContext) (zoneId : Option String)
    (rules : List RuleEntry) :
    modifiers (rules.filter (RuleEntry.matched context zoneId)) =
      modifiers (rules.filter (RuleEntry.applies context zoneId)) *
        modifiers (rules.filter (RuleEntry.strays context zoneId)) := by
  induction rules with
  | nil => simp [modifiers]
  | cons rule rules ih =>
    have hcons : ∀ p : RuleEntry → Bool, modifiers ((rule :: rules).filter p) =
        (if p rule then rule.modifier else 1) * modifiers (rules.filter p) := by
      intro p
      by_cases hp : p rule = true
      · rw [List.filter_cons_of_pos hp, if_pos hp, modifiers, modifiers, List.map_cons,
          List.prod_cons]
      · rw [List.filter_cons_of_neg hp, if_neg hp, one_mul]
    have happlies : rule.applies context zoneId =
        (rule.matched context zoneId && rule.inZone zoneId) := by
      unfold RuleEntry.applies RuleEntry.matched
      rw [Bool.and_right_comm]
    rw [hcons, hcons, hcons, ih, happlies, RuleEntry.strays]
    cases rule.matched context zoneId with
    | false => simp
    | true => cases rule.inZone zoneId <;> simp <;> ring

end Products

/-! ### The surge of a request -/

section Request

variable {isWithinRadius : ℚ → ℚ → ZoneEntry → Bool} {data : SurgeData} {context : PricingContext}
  {zone : Option ZoneEntry}

/-- The zone of the data the pickup is in, if it is in one. -/
def IsZoneOf (isWithinRadius : ℚ → ℚ → ZoneEntry → Bool) (data : SurgeData)
    (context : PricingContext) : Option ZoneEntry → Prop
  | none => ∀ z ∈ data.zones, isWithinRadius context.pickupLat context.pickupLng z = false
  | some zone => zone ∈ data.zones ∧
      isWithinRadius context.pickupLat context.pickupLng zone = true

/-- No point is in two zones. -/
def Disjoint (isWithinRadius : ℚ → ℚ → ZoneEntry → Bool) (zones : List ZoneEntry) : Prop :=
  ∀ z ∈ zones, ∀ z' ∈ zones, ∀ lat lng, isWithinRadius lat lng z = true →
    isWithinRadius lat lng z' = true → z = z'

theorem containingZone_eq (hdisjoint : Disjoint isWithinRadius data.zones)
    (h : IsZoneOf isWithinRadius data context zone) :
    containingZone isWithinRadius data context = zone := by
  cases zone with
  | none => exact List.find?_eq_none.mpr fun z hz => Bool.eq_false_iff.mp (h z hz)
  | some zone =>
    obtain ⟨hmem, hwithin⟩ := h
    cases hfound : containingZone isWithinRadius data context with
    | none => exact absurd hwithin (List.find?_eq_none.mp hfound zone hmem)
    | some z =>
      have hz : isWithinRadius context.pickupLat context.pickupLng z = true :=
        List.find?_some hfound
      rw [hdisjoint z (List.mem_of_find?_eq_some hfound) zone hmem _ _ hz hwithin]

theorem SurgeData.Admitted.modifier_pos (h : data.Admitted) {rule : RuleEntry}
    (hrule : rule ∈ data.rules) : 0 < rule.modifier := by
  have hle := h.rules rule hrule
  linarith

theorem SurgeData.Admitted.surge_pos (h : data.Admitted)
    (hzone : IsZoneOf isWithinRadius data context zone) : 0 < surge zone data.rules context := by
  refine mul_pos ?_ (modifiers_filter_pos fun rule hrule => h.modifier_pos hrule)
  cases zone with
  | none => exact one_pos
  | some zone =>
    have hle := h.zones zone hzone.1
    show 0 < zone.surgeMultiplier
    linarith

theorem surgeProduct_eq (zone : Option ZoneEntry) (rules : List RuleEntry)
    (context : PricingContext) : surgeProduct zone rules context =
      surge zone rules context *
        modifiers (rules.filter (RuleEntry.strays context (zone.map ZoneEntry.id))) := by
  unfold surgeProduct surge
  rw [modifiers_matched, mul_assoc]

/-- The code computes the surge, and rounds it, if no rule in scope is malformed and the modifiers of
the stray rules multiply to one; otherwise what it rounds is not the surge, or it fails. -/
theorem multiplier_eq_surge_iff (isWithinRadius : ℚ → ℚ → ZoneEntry → Bool) (data : SurgeData)
    (context : PricingContext) (zone : Option ZoneEntry) (hadmitted : data.Admitted)
    (hdisjoint : Disjoint isWithinRadius data.zones)
    (hzone : IsZoneOf isWithinRadius data context zone) :
    (multiplier isWithinRadius data context = .ok (surge zone data.rules context) ∧
        getSurgeMultiplier isWithinRadius data context =
          .ok (roundCents (surge zone data.rules context))) ↔
      ¬ Malformed data.rules context ∧
        modifiers (data.rules.filter
          (RuleEntry.strays context (zone.map ZoneEntry.id))) = 1 := by
  have hcontaining := containingZone_eq hdisjoint hzone
  have hpos := hadmitted.surge_pos hzone
  constructor
  · rintro ⟨h, -⟩
    have hnot : ¬ Malformed data.rules context := by
      intro hmalformed
      rw [multiplier_of_malformed hmalformed] at h
      cases h
    rw [multiplier_eq hnot, hcontaining] at h
    have heq := Except.ok.inj h
    rw [surgeProduct_eq] at heq
    exact ⟨hnot, mul_left_cancel₀ hpos.ne' (heq.trans (mul_one _).symm)⟩
  · rintro ⟨hnot, hstrays⟩
    have hmultiplier : multiplier isWithinRadius data context =
        .ok (surge zone data.rules context) := by
      rw [multiplier_eq hnot, hcontaining, surgeProduct_eq, hstrays, mul_one]
    refine ⟨hmultiplier, ?_⟩
    rw [getSurgeMultiplier, hmultiplier]
    rfl

end Request

/-! ### A request -/

instance (rules : List RuleEntry) (context : PricingContext) :
    Decidable (Malformed rules context) :=
  decidable_of_iff _ malformed_iff.symm

namespace Town

/-- A zone around the pickup. -/
def zone : ZoneEntry := ⟨"plateau", 147 / 10, -174 / 10, 5, 3 / 2⟩

/-- A rule for the evening, of a zone or of all of them. -/
def evening (zoneId : Option String) : RuleEntry where
  serviceType := none
  vehicleTypeId := none
  zoneId := zoneId
  condition := .obj [("type", .str "time_range"), ("from", .str "18:00"), ("to", .str "22:00")]
  modifier := 6 / 5

/-- A request at seven in the evening. -/
def request : PricingContext where
  serviceType := .ride
  vehicleTypeId := 1
  baseFare := 500
  pricePerKm := 200
  pricePerMin := 50
  commissionPercentage := 20
  distanceMeters := 5000
  durationSeconds := 900
  pickupLat := 147 / 10
  pickupLng := -174 / 10
  dropoffLat := 1475 / 100
  dropoffLng := -1745 / 100
  requestedAt := 19 * 3600000

/-- The zone, and its rule. -/
def data : SurgeData := { zones := [zone], rules := [evening (some "plateau")] }

theorem haversine_zone : haversine request.pickupLat request.pickupLng zone = true :=
  haversine_center (by decide : (0 : ℚ) ≤ zone.radiusKm)

end Town

open Town in
/-- The surge of the zone, and its rule. -/
theorem multiplier_eq_surge_town :
    multiplier haversine data request = .ok (surge (some zone) data.rules request) ∧
      getSurgeMultiplier haversine data request =
        .ok (roundCents (surge (some zone) data.rules request)) := by
  have hadmitted : data.Admitted := ⟨by decide +kernel, by decide +kernel⟩
  have hdisjoint : Disjoint haversine data.zones := by
    intro z hz z' hz' _ _ _ _
    rw [List.mem_singleton.mp hz, List.mem_singleton.mp hz']
  have hzone : IsZoneOf haversine data request (some zone) :=
    ⟨List.mem_singleton.mpr rfl, haversine_zone⟩
  exact (multiplier_eq_surge_iff haversine data request (some zone) hadmitted hdisjoint hzone).mpr
    (by decide +kernel)

open Town in
/-- The rule of a zone that is not active applies to a request outside of all zones. -/
theorem stray_rule_applies :
    IsZoneOf haversine { rules := [evening (some "plateau")] } request none ∧
      getSurgeMultiplier haversine { rules := [evening (some "plateau")] } request = .ok (6 / 5) ∧
      roundCents (surge none [evening (some "plateau")] request) = 1 ∧
      ¬ (multiplier haversine { rules := [evening (some "plateau")] } request =
            .ok (surge none [evening (some "plateau")] request) ∧
          getSurgeMultiplier haversine { rules := [evening (some "plateau")] } request =
            .ok (roundCents (surge none [evening (some "plateau")] request))) := by
  refine ⟨fun z hz => absurd hz List.not_mem_nil, ?_⟩
  decide +kernel

end Telima.Pricing
