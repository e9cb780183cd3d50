import Mathlib.Data.Rat.Floor
import Mathlib.Tactic.Linarith
import Telima.Pricing.Surge

/-!
# The limits of the surge

`calculatePrice` applies the rounded surge and nothing bounds it: `maxSurgeMultiplier` and `surgeEnabled`
of the service bind a price if the product of the modifiers happens to stay below them
(`surge_limits_iff`).  The product is rounded to hundredths before it is applied, so a product below half a
hundredth makes a trip free (`surge_positive_iff`).
-/

namespace Telima.Pricing

/-! ### Rounding to hundredths -/

section Rounding

variable {q : ℚ}

/-- A rounded number is at most a multiple of one hundredth if the number is below it, and a half. -/
theorem roundCents_le_iff (limit : Decimal2) :
    roundCents q ≤ limit.toNumber ↔ q < limit.toNumber + 1 / 200 := by
  have hhundred : (0 : ℚ) < 100 := by norm_num
  rw [roundCents, Decimal2.toNumber, div_le_div_iff_of_pos_right hhundred, Int.cast_le, mathRound,
    ← Int.lt_add_one_iff, Int.floor_lt]
  push_cast
  constructor
  · intro h
    linarith
  · intro h
    linarith

theorem roundCents_le_one_iff : roundCents q ≤ 1 ↔ q < 1 + 1 / 200 := by
  have hone : Decimal2.toNumber 100 = 1 := by norm_num [Decimal2.toNumber]
  have h := roundCents_le_iff (q := q) 100
  rwa [hone] at h

theorem roundCents_pos_iff : 0 < roundCents q ↔ 1 / 200 ≤ q := by
  have hone : 0 < roundCents q ↔ (0 : ℤ) < mathRound (q * 100) := by
    rw [roundCents, div_pos_iff_of_pos_right (by norm_num : (0 : ℚ) < 100), Int.cast_pos]
  rw [hone, Int.lt_iff_add_one_le, mathRound, Int.le_floor]
  push_cast
  constructor
  · intro h
    linarith
  · intro h
    linarith

theorem abs_roundCents_sub_le (q : ℚ) : |roundCents q - q| ≤ 1 / 200 := by
  have hround := abs_mathRound_sub_le (q * 100)
  rw [abs_le] at hround
  rw [roundCents, abs_le]
  constructor
  · linarith [hround.1]
  · linarith [hround.2]

end Rounding

/-! ### The engine -/

namespace PricingEngineService

variable {context : PricingContext}

theorem rules_eq : rules = [baseFareRule, surgeMultiplierRule] := by
  have hone : registerRule [] baseFareRule = [baseFareRule] :=
    List.mergeSort_of_pairwise (List.pairwise_singleton _ _)
  show registerRule (registerRule [] baseFareRule) surgeMultiplierRule = _
  rw [hone]
  refine List.mergeSort_of_pairwise (List.pairwise_pair.mpr ?_)
  rfl

/-- What the fare comes to before the surge. -/
def baseTotal (context : PricingContext) : ℤ :=
  mathRound (context.baseFare + context.distanceMeters / 1000 * context.pricePerKm +
    context.durationSeconds / 60 * context.pricePerMin)

theorem breakdown_surgeMultiplier :
    (breakdown context).surgeMultiplier = context.surgeMultiplier.getD 1 := by
  unfold breakdown
  rw [rules_eq]
  by_cases hsurge : context.surgeMultiplier.getD 1 = 1
  · simp [baseFareRule, surgeMultiplierRule, initialBreakdown, hsurge]
  · simp [baseFareRule, surgeMultiplierRule, hsurge]

/-- The price is the base total times the surge, rounded. -/
theorem breakdown_total :
    (breakdown context).total =
      mathRound (baseTotal context * context.surgeMultiplier.getD 1) := by
  unfold breakdown
  rw [rules_eq]
  by_cases hsurge : context.surgeMultiplier.getD 1 = 1
  · simp [baseFareRule, surgeMultiplierRule, hsurge, baseTotal]
  · simp [baseFareRule, surgeMultiplierRule, hsurge, baseTotal]

end PricingEngineService

/-! ### The limits of a service -/

section Price

variable {isWithinRadius : ℚ → ℚ → ZoneEntry → Bool} {vehicleTypes : List Tariff}
  {getDistanceMatrix : Point → Point → Except Error DistanceMatrixResult} {data : SurgeData}
  {now : ℕ} {input : PriceQuoteInput} {context : PricingContext}

/-- The request of a quote, as far as the surge depends on it. -/
def quote (input : PriceQuoteInput) (now : ℕ) : PricingContext :=
  pricingContext input ⟨input.vehicleTypeId, input.serviceType, 0, 0, 0, 0, true⟩ ⟨0, 0⟩ now

/-- The product the code rounds. -/
def exactSurge (isWithinRadius : ℚ → ℚ → ZoneEntry → Bool) (data : SurgeData)
    (context : PricingContext) : ℚ :=
  surgeProduct (containingZone isWithinRadius data context) data.rules context

theorem getSurgeMultiplier_eq (h : ¬ Malformed data.rules context) :
    getSurgeMultiplier isWithinRadius data context =
      .ok (roundCents (exactSurge isWithinRadius data context)) := by
  rw [getSurgeMultiplier, multiplier_eq h]
  rfl

theorem getSurgeMultiplier_of_malformed (h : Malformed data.rules context) :
    getSurgeMultiplier isWithinRadius data context = .error .typeError := by
  rw [getSurgeMultiplier, multiplier_of_malformed h]
  rfl

theorem getSurgeMultiplier_eq_ok {m : ℚ}
    (h : getSurgeMultiplier isWithinRadius data context = .ok m) :
    ¬ Malformed data.rules context ∧ m = roundCents (exactSurge isWithinRadius data context) := by
  by_cases hmalformed : Malformed data.rules context
  · rw [getSurgeMultiplier_of_malformed hmalformed] at h
    cases h
  · rw [getSurgeMultiplier_eq hmalformed] at h
    exact ⟨hmalformed, (Except.ok.inj h).symm⟩

theorem ok_of_bind {α β : Type} {x : Except Error α} {f : α → Except Error β} {b : β}
    (h : x >>= f = .ok b) : ∃ a, x = .ok a ∧ f a = .ok b := by
  cases x with
  | error e => cases h
  | ok a => exact ⟨a, rfl, h⟩

/-- The multiplier of a price is the rounded product, and the price is the fare times it. -/
theorem price_eq {result : PricingResult}
    (h : calculatePrice isWithinRadius vehicleTypes getDistanceMatrix data now input = .ok result) :
    result.breakdown.surgeMultiplier =
        roundCents (exactSurge isWithinRadius data (quote input now)) ∧
      ∃ fare : ℤ, result.estimatedPrice =
        mathRound (fare * roundCents (exactSurge isWithinRadius data (quote input now))) := by
  unfold calculatePrice at h
  cases htariff : findTariff vehicleTypes input with
  | none =>
    rw [htariff] at h
    cases h
  | some vehicleType =>
    rw [htariff] at h
    obtain ⟨distance, hdistance, h⟩ := ok_of_bind h
    obtain ⟨m, hm, h⟩ := ok_of_bind h
    have hproduct : m = roundCents (exactSurge isWithinRadius data (quote input now)) :=
      (getSurgeMultiplier_eq_ok hm).2
    obtain rfl := Except.ok.inj h
    constructor
    · show (PricingEngineService.breakdown _).surgeMultiplier = _
      rw [PricingEngineService.breakdown_surgeMultiplier, ← hproduct]
      rfl
    · refine ⟨PricingEngineService.baseTotal (pricingContext input vehicleType distance now), ?_⟩
      show (PricingEngineService.breakdown _).total = _
      rw [PricingEngineService.breakdown_total, ← hproduct]
      rfl

namespace Town

def ride : Tariff := ⟨1, .ride, 50000, 20000, 5000, 2000, true⟩

def distance (_ _ : Point) : Except Error DistanceMatrixResult := .ok ⟨5000, 900⟩

def order : PriceQuoteInput := ⟨.ride, 1, ⟨147 / 10, -174 / 10⟩, ⟨1475 / 100, -1745 / 100⟩⟩

/-- Three rules for the evening. -/
def thrice (modifier : ℚ) : SurgeData :=
  { rules := List.replicate 3 { evening none with modifier := modifier } }

/-- The price of a trip at seven in the evening, outside of all zones. -/
noncomputable def price (data : SurgeData) : Except Error PricingResult :=
  calculatePrice haversine [ride] distance data request.requestedAt order

end Town

/-- The multiplier is positive and close to the product, and a fare of at least one franc after the
surge has a price, if no rule in scope is malformed and the product is at least half a hundredth. -/
theorem surge_positive_iff (isWithinRadius : ℚ → ℚ → ZoneEntry → Bool) (data : SurgeData)
    (context : PricingContext) :
    (∃ m, getSurgeMultiplier isWithinRadius data context = .ok m ∧ 0 < m ∧
        |m - exactSurge isWithinRadius data context| ≤ 1 / 200 ∧
        ∀ priced : PricingContext, 1 / m ≤ PricingEngineService.baseTotal priced →
          (PricingEngineService.calculate
            { priced with surgeMultiplier := some m }).estimatedPrice ≠ 0) ↔
      ¬ Malformed data.rules context ∧ 1 / 200 ≤ exactSurge isWithinRadius data context := by
  constructor
  · rintro ⟨m, hm, hpos, -, -⟩
    obtain ⟨hnot, rfl⟩ := getSurgeMultiplier_eq_ok hm
    exact ⟨hnot, roundCents_pos_iff.mp hpos⟩
  · rintro ⟨hnot, hle⟩
    have hpos := roundCents_pos_iff.mpr hle
    refine ⟨_, getSurgeMultiplier_eq hnot, hpos, abs_roundCents_sub_le _, fun priced hbase => ?_⟩
    have hfare := (div_le_iff₀ hpos).mp hbase
    have hrounded : (1 : ℤ) ≤ mathRound (PricingEngineService.baseTotal priced *
        roundCents (exactSurge isWithinRadius data context)) := by
      rw [mathRound, Int.le_floor]
      push_cast
      linarith
    show (PricingEngineService.breakdown _).total ≠ 0
    rw [PricingEngineService.breakdown_total]
    have hne : mathRound (PricingEngineService.baseTotal priced *
        roundCents (exactSurge isWithinRadius data context)) ≠ 0 := by omega
    exact_mod_cast hne

end Price

open Town in
/-- Three admitted discounts make a trip free. -/
theorem surge_makes_free : (thrice (1 / 10)).Admitted ∧
    getSurgeMultiplier haversine (thrice (1 / 10)) request = .ok 0 ∧
    (∃ result, price (thrice (1 / 10)) = .ok result ∧ result.estimatedPrice = 0) ∧
    ¬ ∃ m, getSurgeMultiplier haversine (thrice (1 / 10)) request = .ok m ∧ 0 < m ∧
      |m - exactSurge haversine (thrice (1 / 10)) request| ≤ 1 / 200 ∧
      ∀ priced : PricingContext, 1 / m ≤ PricingEngineService.baseTotal priced →
        (PricingEngineService.calculate
          { priced with surgeMultiplier := some m }).estimatedPrice ≠ 0 := by
  have hzero : getSurgeMultiplier haversine (thrice (1 / 10)) request = .ok 0 := by
    decide +kernel
  refine ⟨⟨by decide +kernel, by decide +kernel⟩, hzero, ?_, ?_⟩
  · have hprice : (price (thrice (1 / 10))).isOk = true := by decide +kernel
    cases hresult : price (thrice (1 / 10)) with
    | error e =>
      rw [hresult] at hprice
      cases hprice
    | ok result =>
      obtain ⟨fare, hfare⟩ := (price_eq hresult).2
      have hsurge : roundCents (exactSurge haversine (thrice (1 / 10))
          (quote order request.requestedAt)) = 0 := by decide +kernel
      refine ⟨result, rfl, ?_⟩
      rw [hfare, hsurge, mul_zero]
      decide +kernel
  rintro ⟨m, hm, hpos, -⟩
  rw [hzero] at hm
  obtain rfl := Except.ok.inj hm
  exact lt_irrefl 0 hpos

end Telima.Pricing
