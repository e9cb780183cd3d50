import Telima.System
import Telima.Trips.Runs

/-!
# The routine of the requests

Apart from its creation, the requests of a trip and the handlers of its events neither search for a
driver nor rate it (`Cmd.isRoutine`); nor do they write a payment (`Cmd.isUnpaid`).
-/

namespace Telima

open TripsService

/-- The command has nothing to do with the creation of a trip, the search for its driver or its
rating, but for the withdrawal of offers. -/
def Cmd.isRoutine : Cmd → Bool
  | .insertTrip _ | .createDetails _ | .upsertAttempt _ _ | .rearmAttempt _ _ | .createRating _
  | .redisIncr _ | .redisExpire _ _ | .redisSet _ _ _ | .redisSetNx _ _ _ | .addJob _ _ _
  | .emit (.tripCreated _ _ _ _) | .emit (.tripRated _ _ _ _ _) | .emit (.dispatchFailed _ _)
  | .emit (.driverNotified _ _ _ _) => false
  | .broadcast _ _ payload => !payload.isRequest
  | _ => true

namespace Cmd

variable {c : Cmd}

theorem isRoutine_of_reports (h : c.reports = true) : c.isRoutine = true := by
  unfold reports at h
  split at h <;> first | rfl | exact h | cases h

theorem isRoutine_of_touchesOffers (h : c.touchesOffers = true) : c.isRoutine = true := by
  unfold touchesOffers at h
  split at h <;> first | rfl | exact h | cases h

/-- The command is routine, and writes no payment. -/
def isUnpaid (c : Cmd) : Prop := c.isRoutine = true ∧ c.keepsPayments = true

theorem isUnpaid_of_reports (h : c.reports = true) : c.isUnpaid := by
  have hpayments : c.keepsPayments = true := by
    cases c <;> first | rfl | simp [reports] at h
  exact ⟨isRoutine_of_reports h, hpayments⟩

theorem isUnpaid_of_touchesOffers (h : c.touchesOffers = true) : c.isUnpaid :=
  ⟨isRoutine_of_touchesOffers h, keepsPayments_of_touchesOffers h⟩

end Cmd

/-- The program is routine. -/
abbrev Routine {α : Type} (p : Prog α) : Prop := p.Only fun c => c.isRoutine = true

/-- The program is routine, and writes no payment. -/
abbrev Unpaid {α : Type} (p : Prog α) : Prop := p.Only Cmd.isUnpaid

theorem Unpaid.routine {α : Type} {p : Prog α} (hp : Unpaid p) : Routine p :=
  hp.mono fun _ hc => hc.1

namespace TripsService

theorem unpaid_getTrip (tripId : ℕ) : Unpaid (getTrip tripId) :=
  (onlyReports_getTrip tripId).mono fun _ hc => Cmd.isUnpaid_of_reports hc

theorem unpaid_findById (tripId : ℕ) : Unpaid (TripRepository.findById tripId) :=
  (onlyReports_findById tripId).mono fun _ hc => Cmd.isUnpaid_of_reports hc

theorem unpaid_update (tripId : ℕ) (data : TripData) :
    Unpaid (TripRepository.update tripId data) := Async.only_queryE.mpr ⟨rfl, rfl⟩

theorem unpaid_reportStatus (updated : Option Trip) (userId : ℕ) (status : TripStatus)
    (cancelReason : Option String) :
    Unpaid (reportStatus updated userId status cancelReason) := by
  refine (only_reportStatus updated userId status cancelReason).mono fun c hc => ?_
  rcases hc with hc | ⟨trip, -, finalPrice, -, rfl⟩
  · exact Cmd.isUnpaid_of_reports hc
  · exact ⟨rfl, rfl⟩

theorem unpaid_updateStatus (tripId userId : ℕ) (role : UserRole) (dto : UpdateTripStatusDto) :
    Unpaid (TripsService.updateStatus tripId userId role dto) := by
  refine (unpaid_getTrip tripId).bind fun trip => ?_
  split_ifs
  · refine ((onlyOffers_statusCase trip userId role dto).mono fun _ hc =>
      Cmd.isUnpaid_of_touchesOffers hc).bind fun data => ?_
    refine Async.Only.bind ?_ fun updated => unpaid_reportStatus updated userId _ _
    exact (unpaid_update tripId data).bind fun _ => unpaid_findById tripId
  · trivial

theorem unpaid_completeTrip (tripId userId : ℕ) (role : UserRole) (dto : PaymentReceivedDto) :
    Unpaid (TripsService.completeTrip tripId userId role dto) := by
  unfold TripsService.completeTrip
  split_ifs
  · trivial
  refine (unpaid_getTrip tripId).bind fun trip => ?_
  refine Async.only_query_bind.mpr ⟨⟨rfl, rfl⟩, fun s => ?_⟩
  split_ifs
  · trivial
  · trivial
  · refine Async.only_read_bind.mpr ⟨⟨rfl, rfl⟩, fun now => ?_⟩
    refine (unpaid_update tripId _).bind fun _ => ?_
    exact (unpaid_getTrip tripId).bind fun _ => unpaid_reportStatus _ _ _ _
  · trivial

theorem unpaid_handleDriverAssigned (geo : GeoEnv) (tripId driverId : ℕ) :
    Unpaid (handleDriverAssigned geo tripId driverId) := by
  refine Async.Only.bind ?_ fun trip => Async.Only.bind ?_ fun _ => Async.only_emit.mpr ⟨rfl, rfl⟩
  · exact Async.only_read_bind.mpr ⟨⟨rfl, rfl⟩, fun now => unpaid_update tripId _⟩
  · exact (onlyReports_broadcastAccepted geo trip driverId).mono fun _ hc =>
      Cmd.isUnpaid_of_reports hc

theorem unpaid_handleTripCompleted (tripId : ℕ) :
    Unpaid (CommissionsService.handleTripCompleted tripId) :=
  CommissionsService.only_handleTripCompleted ⟨rfl, rfl⟩ fun _ _ _ _ => ⟨rfl, rfl⟩

theorem routine_getTrip (tripId : ℕ) : Routine (getTrip tripId) := (unpaid_getTrip tripId).routine

theorem routine_findById (tripId : ℕ) : Routine (TripRepository.findById tripId) :=
  (unpaid_findById tripId).routine

theorem routine_update (tripId : ℕ) (data : TripData) :
    Routine (TripRepository.update tripId data) := (unpaid_update tripId data).routine

theorem routine_updateStatus (tripId userId : ℕ) (role : UserRole) (dto : UpdateTripStatusDto) :
    Routine (TripsService.updateStatus tripId userId role dto) :=
  (unpaid_updateStatus tripId userId role dto).routine

theorem routine_completeTrip (tripId userId : ℕ) (role : UserRole) (dto : PaymentReceivedDto) :
    Routine (TripsService.completeTrip tripId userId role dto) :=
  (unpaid_completeTrip tripId userId role dto).routine

theorem routine_handleDriverAssigned (geo : GeoEnv) (tripId driverId : ℕ) :
    Routine (handleDriverAssigned geo tripId driverId) :=
  (unpaid_handleDriverAssigned geo tripId driverId).routine

theorem routine_handleTripCompleted (tripId : ℕ) :
    Routine (CommissionsService.handleTripCompleted tripId) :=
  (unpaid_handleTripCompleted tripId).routine

theorem routine_confirmPaymentReceived (tripId userId : ℕ) (role : UserRole)
    (dto : PaymentReceivedDto) :
    Routine (TripsService.confirmPaymentReceived tripId userId role dto) := by
  unfold TripsService.confirmPaymentReceived
  split_ifs
  · trivial
  refine (routine_getTrip tripId).bind fun trip => ?_
  refine Async.only_query_bind.mpr ⟨rfl, fun s => ?_⟩
  split_ifs
  · trivial
  · trivial
  · exact Async.only_read_bind.mpr ⟨rfl, fun now => routine_update tripId _⟩

theorem routine_handleDispatchFailed (tripId : ℕ) (reason : String) :
    Routine (handleDispatchFailed tripId reason) := by
  refine Async.Only.bind ?_ fun _ => (routine_findById tripId).bind fun trip => ?_
  · exact Async.only_read_bind.mpr ⟨rfl, fun now => Async.only_perform.mpr rfl⟩
  · split
    · exact Async.only_emit.mpr rfl
    · trivial

theorem routine_sweepStaleAssigned : Routine DispatchRecoveryService.sweepStaleAssigned := by
  refine Async.only_read_bind.mpr ⟨rfl, fun now => ?_⟩
  refine Async.Only.bind (Async.Only.tryCatch (Async.only_query.mpr rfl) fun _ => trivial)
    fun stale => Async.Only.forEach fun trip _ => ?_
  refine Async.Only.tryCatch ((routine_update _ _).bind fun _ => ?_) fun _ => trivial
  refine Async.Only.bind ((DispatchService.onlyOffers_releaseLocksForTrip trip.id).mono fun _ hc =>
    Cmd.isRoutine_of_touchesOffers hc) fun _ => ?_
  split
  · exact Async.only_emit.mpr rfl
  · trivial

end TripsService

end Telima
