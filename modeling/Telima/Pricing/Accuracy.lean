import Telima.Pricing.Limits

/-!
# How a price depends on its context

The engine rounds the fare, and the fare times the surge, which is left out when it is one.  The price
grows with the tariff, the distance, the time and the surge, and stays within half the surge and a half
of the exact amount (`price_monotone_and_accurate`).
-/

namespace Telima.Pricing

namespace PricingContext

/-- The multiplier the rule of the surge applies. -/
def surge (context : PricingContext) : ℚ := context.surgeMultiplier.getD 1

/-- `baseFare + km * pricePerKm + min * pricePerMin` -/
def exactFare (context : PricingContext) : ℚ :=
  context.baseFare + context.distanceMeters / 1000 * context.pricePerKm +
    context.durationSeconds / 60 * context.pricePerMin

/-- The tariff, the distance, the time and the surge are not negative. -/
structure Nonneg (context : PricingContext) : Prop where
  baseFare : 0 ≤ context.baseFare
  pricePerKm : 0 ≤ context.pricePerKm
  pricePerMin : 0 ≤ context.pricePerMin
  distanceMeters : 0 ≤ context.distanceMeters
  durationSeconds : 0 ≤ context.durationSeconds
  surge : 0 ≤ context.surge

/-- The tariff, the distance, the time and the surge of the first context are at most those of the
second one. -/
structure Below (context context' : PricingContext) : Prop where
  baseFare : context.baseFare ≤ context'.baseFare
  pricePerKm : context.pricePerKm ≤ context'.pricePerKm
  pricePerMin : context.pricePerMin ≤ context'.pricePerMin
  distanceMeters : context.distanceMeters ≤ context'.distanceMeters
  durationSeconds : context.durationSeconds ≤ context'.durationSeconds
  surge : context.surge ≤ context'.surge

variable {context context' : PricingContext}

theorem Nonneg.exactFare (h : context.Nonneg) : 0 ≤ context.exactFare := by
  have hdistance : 0 ≤ context.distanceMeters / 1000 * context.pricePerKm :=
    mul_nonneg (div_nonneg h.distanceMeters (by norm_num)) h.pricePerKm
  have hduration : 0 ≤ context.durationSeconds / 60 * context.pricePerMin :=
    mul_nonneg (div_nonneg h.durationSeconds (by norm_num)) h.pricePerMin
  have hbase := h.baseFare
  unfold PricingContext.exactFare
  linarith

/-- A product of amounts grows with both of them. -/
theorem Below.exactFare_le (h : context.Below context') (hcontext : context.Nonneg) :
    context.exactFare ≤ context'.exactFare := by
  have hdistance : context.distanceMeters / 1000 * context.pricePerKm ≤
      context'.distanceMeters / 1000 * context'.pricePerKm := by
    have hkm : context.distanceMeters / 1000 ≤ context'.distanceMeters / 1000 := by
      linarith [h.distanceMeters]
    have hkm' : 0 ≤ context'.distanceMeters / 1000 := by
      linarith [h.distanceMeters, hcontext.distanceMeters]
    exact mul_le_mul hkm h.pricePerKm hcontext.pricePerKm hkm'
  have hduration : context.durationSeconds / 60 * context.pricePerMin ≤
      context'.durationSeconds / 60 * context'.pricePerMin := by
    have hmin : context.durationSeconds / 60 ≤ context'.durationSeconds / 60 := by
      linarith [h.durationSeconds]
    have hmin' : 0 ≤ context'.durationSeconds / 60 := by
      linarith [h.durationSeconds, hcontext.durationSeconds]
    exact mul_le_mul hmin h.pricePerMin hcontext.pricePerMin hmin'
  have hbase := h.baseFare
  unfold PricingContext.exactFare
  linarith

end PricingContext

namespace PricingEngineService

variable {context context' : PricingContext}

theorem estimatedPrice_eq (context : PricingContext) :
    (calculate context).estimatedPrice = mathRound (baseTotal context * context.surge) :=
  breakdown_total

theorem baseTotal_eq (context : PricingContext) : baseTotal context = mathRound context.exactFare :=
  rfl

theorem estimatedPrice_le (hcontext : context.Nonneg) (h : context.Below context') :
    (calculate context).estimatedPrice ≤ (calculate context').estimatedPrice := by
  have hbase : baseTotal context ≤ baseTotal context' := by
    rw [baseTotal_eq, baseTotal_eq]
    exact mathRound_mono (h.exactFare_le hcontext)
  have hbase' : 0 ≤ baseTotal context' := by
    rw [baseTotal_eq]
    exact mathRound_nonneg (hcontext.exactFare.trans (h.exactFare_le hcontext))
  have htotal : (baseTotal context : ℚ) * context.surge ≤ baseTotal context' * context'.surge :=
    mul_le_mul (by exact_mod_cast hbase) h.surge hcontext.surge (by exact_mod_cast hbase')
  rw [estimatedPrice_eq, estimatedPrice_eq]
  exact_mod_cast mathRound_mono htotal

/-- The surge multiplies the error of the first rounding, and the second rounding adds its own. -/
theorem abs_estimatedPrice_sub_le (hsurge : 0 ≤ context.surge) :
    |(calculate context).estimatedPrice - context.exactFare * context.surge| ≤
      context.surge / 2 + 1 / 2 := by
  have hfare : |(baseTotal context : ℚ) - context.exactFare| ≤ 1 / 2 := by
    rw [baseTotal_eq]
    exact abs_mathRound_sub_le _
  have htotal : |(baseTotal context : ℚ) * context.surge - context.exactFare * context.surge| ≤
      context.surge / 2 := by
    rw [← sub_mul, abs_mul, abs_of_nonneg hsurge]
    calc |(baseTotal context : ℚ) - context.exactFare| * context.surge
        ≤ 1 / 2 * context.surge := mul_le_mul_of_nonneg_right hfare hsurge
      _ = context.surge / 2 := by ring
  have hprice := abs_mathRound_sub_le (baseTotal context * context.surge)
  rw [estimatedPrice_eq]
  calc |(mathRound (baseTotal context * context.surge) : ℚ) - context.exactFare * context.surge|
      ≤ |(mathRound (baseTotal context * context.surge) : ℚ) - baseTotal context * context.surge| +
          |(baseTotal context : ℚ) * context.surge - context.exactFare * context.surge| :=
        abs_sub_le _ _ _
    _ ≤ context.surge / 2 + 1 / 2 := by linarith

end PricingEngineService

open PricingEngineService in
/-- For amounts that are not negative, the price does not fall when any of the tariff, the distance, the
time and the surge rise, and it differs from the exact amount by at most half the surge and a half. -/
theorem price_monotone_and_accurate :
    (∀ context context' : PricingContext, context.Nonneg → context.Below context' →
      (calculate context).estimatedPrice ≤ (calculate context').estimatedPrice) ∧
    ∀ context : PricingContext, context.Nonneg →
      |(calculate context).estimatedPrice -
        (context.baseFare + context.distanceMeters / 1000 * context.pricePerKm +
          context.durationSeconds / 60 * context.pricePerMin) * context.surge| ≤
        context.surge / 2 + 1 / 2 :=
  ⟨fun _ _ => estimatedPrice_le, fun _ h => abs_estimatedPrice_sub_le h.surge⟩

open PricingEngineService Town in
/-- A surge of a half makes the request of the town cheaper, and its price exact to three quarters. -/
theorem price_monotone_and_accurate_town :
    (calculate { request with surgeMultiplier := some (1 / 2) }).estimatedPrice ≤
        (calculate request).estimatedPrice ∧
      |(calculate { request with surgeMultiplier := some (1 / 2) }).estimatedPrice -
        (500 + 5000 / 1000 * 200 + 900 / 60 * 50) * (1 / 2)| ≤ 1 / 2 / 2 + 1 / 2 := by
  have hnonneg : ({ request with surgeMultiplier := some (1 / 2) } : PricingContext).Nonneg := by
    constructor <;> decide +kernel
  have hbelow : ({ request with surgeMultiplier := some (1 / 2) } : PricingContext).Below request := by
    constructor <;> decide +kernel
  exact ⟨price_monotone_and_accurate.1 _ _ hnonneg hbelow, price_monotone_and_accurate.2 _ hnonneg⟩

end Telima.Pricing
