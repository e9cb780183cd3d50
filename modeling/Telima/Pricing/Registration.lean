import Telima.Data.StableSort
import Telima.Pricing.Limits

/-!
# The registration of the engine's rules

`registerRule` sorts the rules again after every rule that is added.  The rules are then in the order of
their priorities, and those of one priority in the order they were registered; for rules with different
priorities the order of the registrations does not matter (`registration_order_irrelevant`).
-/

namespace Telima.Pricing

namespace PricingEngineService

/-- The engine after the rules `added` were registered one by one. -/
def registerAll (rules added : List EngineRule) : List EngineRule := added.foldl registerRule rules

/-- `breakdown`, for an engine with the rules. -/
def breakdownWith (rules : List EngineRule) (context : PricingContext) : PricingBreakdown :=
  rules.foldl (fun breakdown rule =>
    if rule.isApplicable context then rule.apply context breakdown else breakdown) initialBreakdown

/-- `calculate`, for an engine with the rules. -/
def calculateWith (rules : List EngineRule) (context : PricingContext) : PricingResult :=
  let breakdown := breakdownWith rules context
  { estimatedPrice := breakdown.total
    commissionAmount := mathRound (breakdown.total * (context.commissionPercentage / 100))
    distanceMeters := context.distanceMeters
    durationSeconds := context.durationSeconds
    breakdown := breakdown }

/-- `calculate` is that of the engine the constructor leaves. -/
theorem calculate_eq (context : PricingContext) : calculate context = calculateWith rules context := rfl

/-- What the constructor registers. -/
def builtIn : List EngineRule := [baseFareRule, surgeMultiplierRule]

/-- The engine holds the stable sort of all rules that were registered. -/
theorem stableSort_registerAll (added : List EngineRule) :
    StableSort EngineRule.priority (builtIn ++ added) (registerAll rules added) := by
  have hrules : StableSort EngineRule.priority builtIn rules :=
    StableSort.nil.insertAll [baseFareRule, surgeMultiplierRule]
  exact hrules.insertAll added

end PricingEngineService

open PricingEngineService

/-- Rules with different priorities can be registered in any order: the engine has the same rules, in
the order of their priorities, and calculates the same.  Rules of one priority, in whatever list, stay
in the order they were registered. -/
theorem registration_order_irrelevant {added added' : List EngineRule}
    (hdistinct : added.Pairwise fun a b => a.priority ≠ b.priority) (hperm : added.Perm added') :
    registerAll rules added = registerAll rules added' ∧
    (registerAll rules added).Pairwise (fun a b => a.priority ≤ b.priority) ∧
    (∀ context, calculateWith (registerAll rules added) context =
      calculateWith (registerAll rules added') context) ∧
    ∀ (all : List EngineRule) priority,
      ((registerAll rules all).filter fun rule => decide (rule.priority = priority)) =
        (builtIn ++ all).filter fun rule => decide (rule.priority = priority) := by
  have hsort := stableSort_registerAll added
  have hsort' : StableSort EngineRule.priority (builtIn ++ added) (registerAll rules added') := by
    have hadded' := stableSort_registerAll added'
    refine ⟨hadded'.sorted, fun priority => ?_⟩
    rw [hadded'.classes priority, List.filter_append, List.filter_append,
      filter_key_eq_of_perm hdistinct hperm priority]
  have hsame : registerAll rules added = registerAll rules added' := hsort.unique hsort'
  refine ⟨hsame, hsort.sorted, fun context => ?_, fun all => (stableSort_registerAll all).classes⟩
  rw [hsame]

namespace Registration

/-- A rule that halves the total. -/
def half : EngineRule where
  priority := 15
  isApplicable _ := true
  apply _ breakdown := { breakdown with total := breakdown.total / 2 }

/-- A rule that adds a fee, when there is no surge. -/
def fee : EngineRule where
  priority := 12
  isApplicable context := context.surgeMultiplier.isNone
  apply _ breakdown := { breakdown with total := breakdown.total + 100 }

end Registration

open Registration in
/-- The two rules come between those of the constructor, whichever is registered first. -/
theorem registration_order_irrelevant_fee :
    registerAll rules [half, fee] = registerAll rules [fee, half] ∧
      (registerAll rules [half, fee]).Pairwise (fun a b => a.priority ≤ b.priority) := by
  have hpriority : half.priority ≠ fee.priority := by
    show (15 : ℚ) ≠ 12
    norm_num
  obtain ⟨hsame, hsorted, -⟩ := registration_order_irrelevant (List.pairwise_pair.mpr hpriority)
    (List.Perm.swap fee half [])
  exact ⟨hsame, hsorted⟩

end Telima.Pricing
