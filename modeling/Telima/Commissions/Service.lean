import Telima.Store.Commands

/-!
# `CommissionsService` and the `getFinances` report
-/

namespace Telima

/-- `Math.round(finalPrice * (percentage / 100))` -/
def commissionOf (finalPrice percentage : ℚ) : ℤ := mathRound (finalPrice * (percentage / 100))

namespace CommissionsService

/-- `prisma.trip.findUnique({ where: { id }, include: { vehicleType: true } })` -/
def findTripWithVehicleType (tripId : ℕ) : Prog (Option (Trip × Option VehicleType)) :=
  Async.query (.findTrip tripId) fun s =>
    (s.trips.find? tripId).map fun trip => (trip, s.vehicleTypes.find? trip.vehicleTypeId)

/-- The handler of `TripCompleted`. -/
def handleTripCompleted (tripId : ℕ) : Prog Unit := do
  match ← findTripWithVehicleType tripId with
  | none => pure ()
  | some (trip, vehicleType) =>
    match trip.driverId, trip.finalPrice, vehicleType with
    | some driverId, some price, some vehicleType =>
      let finalPrice := price.toNumber
      let percentage := vehicleType.commissionPercentage.toNumber
      let commissionAmount := commissionOf finalPrice percentage
      Async.queryE (.chargeCommission trip.id driverId commissionAmount finalPrice) fun s =>
        if Cmd.chargeable s trip.id driverId then .ok () else .error .recordNotFound
    | some _, some _, none => Async.throw .typeError
    | _, _, _ => pure ()

/-- The handler reads the trip, and charges its driver. -/
theorem only_handleTripCompleted {P : Cmd → Prop} {tripId : ℕ} (hread : P (.findTrip tripId))
    (hcharge : ∀ t driverId amount finalPrice, P (.chargeCommission t driverId amount finalPrice)) :
    (handleTripCompleted tripId).Only P := by
  refine Async.only_query_bind.mpr ⟨hread, fun s => ?_⟩
  cases s.trips.find? tripId with
  | none => trivial
  | some trip =>
    dsimp only [Option.map_some]
    split
    · exact Async.only_queryE.mpr (hcharge _ _ _ _)
    · trivial
    · trivial

def markCommissionPaid (driverId : ℕ) (amount : ℚ) : Prog Unit :=
  Async.queryE (.decrementCommissionDue driverId amount) fun s =>
    orNotFound ((s.drivers.find? driverId).map fun _ => ())

end CommissionsService

namespace AdminStatsController

/-- The parts of the `getFinances` report about commissions. -/
structure Finances where
  commissionTotal : ℚ
  collected : ℚ
  outstanding : ℚ
  deriving DecidableEq

/-- `_sum: { commissionAmount: true }` over the completed trips. -/
def sumCommissionAmount (s : Store) : Decimal2 :=
  s.trips.sum fun trip => if trip.status = .completed then trip.commissionAmount.getD 0 else 0

/-- `_sum: { amount: true }` over the succeeded payments. -/
def sumSucceededAmount (s : Store) : Decimal2 :=
  s.payments.sum fun payment => if payment.status = .succeeded then payment.amount else 0

/-- `_sum: { commissionDue: true }` over the drivers. -/
def sumCommissionDue (s : Store) : Decimal2 := s.drivers.sum Driver.commissionDue

def getFinances : Prog Finances := do
  let revenue ← Async.query .aggregate sumCommissionAmount
  let commissionPaid ← Async.query .aggregate sumSucceededAmount
  let commissionPending ← Async.query .aggregate sumCommissionDue
  pure
    { commissionTotal := revenue.toNumber
      collected := commissionPaid.toNumber
      outstanding := commissionPending.toNumber }

end AdminStatsController

end Telima
