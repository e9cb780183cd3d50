import Telima.Async.Compositional
import Telima.Operations.Server
import Telima.Trips.Routine

/-!
# What all programs of the server have

A timeout job is queued and named only when a candidate is notified.  A compositional property that
holds of this, and of every program that names no job, holds of every program of the server
(`OfferWalk.program`, `OfferWalk.handler`).
-/

namespace Telima

open TripsService DispatchService DispatchRecoveryService

/-- The command may set the name of a timeout job. -/
def Cmd.namesJob : Cmd → Bool
  | .redisSet (.dispatchTimeoutJob _ _) _ _ | .redisSetNx (.dispatchTimeoutJob _ _) _ _
  | .redisIncr (.dispatchTimeoutJob _ _) | .redisExpire (.dispatchTimeoutJob _ _) _ => true
  | _ => false

/-- The program names no job. -/
abbrev NamesNone {α : Type} (p : Prog α) : Prop := p.Only fun c => c.namesJob = false

theorem namesNone_of_routine {α : Type} {p : Prog α} (hp : Routine p) : NamesNone p := by
  refine hp.mono fun c hc => ?_
  cases c <;> first | rfl | cases hc

theorem namesNone_cancelTimeoutJob (tripId driverId : ℕ) :
    NamesNone (cancelTimeoutJob tripId driverId) :=
  namesNone_of_routine ((onlyOffers_cancelTimeoutJob tripId driverId).mono fun _ hc =>
    Cmd.isRoutine_of_touchesOffers hc)

/-- `P` is compositional, and holds of the programs that name no job and of the notification of a
candidate. -/
structure OfferWalk (P : (α : Type) → Prog α → Prop) : Prop extends Async.Compositional P where
  namesNone : ∀ {α : Type} {p : Prog α}, NamesNone p → P α p
  notifyCandidate : ∀ (config : ServiceDispatchConfig) (tripId : ℕ) (pickup : Point)
    (serviceType : ServiceType) (trip : Option (Trip × Option VehicleType)) (dropoff : Option Point)
    (driver : NearbyDriver),
    P Bool (notifyCandidate config tripId pickup serviceType trip dropoff driver)

namespace OfferWalk

variable {P : (α : Type) → Prog α → Prop} (h : OfferWalk P)

include h

theorem routine {α : Type} {p : Prog α} (hp : Routine p) : P α p :=
  h.namesNone (namesNone_of_routine hp)

theorem query {α : Type} {c : Cmd} {f : Store → α} (hc : c.namesJob = false) :
    P α (Async.query c f) := h.namesNone (Async.only_query.mpr hc)

theorem perform {c : Cmd} (hc : c.namesJob = false) : P Unit (Async.perform c) :=
  h.namesNone (Async.only_perform.mpr hc)

theorem emit {c : Cmd} (hc : c.namesJob = false) : P Unit (Async.emit c) :=
  h.namesNone (Async.only_emit.mpr hc)

/-! ### The search -/

theorem notifyCandidates (config : ServiceDispatchConfig) (tripId : ℕ) (pickup : Point)
    (serviceType : ServiceType) (trip : Option (Trip × Option VehicleType))
    (dropoff : Option Point) (drivers : List NearbyDriver) :
    P ℕ (notifyCandidates config tripId pickup serviceType trip dropoff drivers) := by
  induction drivers with
  | nil => exact h.done _
  | cons driver rest ih =>
    refine h.bind (h.notifyCandidate config tripId pickup serviceType trip dropoff driver) fun _ => ?_
    exact h.bind ih fun _ => h.done _

theorem emitDispatchFailed (tripId : ℕ) (reason : String) :
    P Unit (emitDispatchFailed tripId reason) :=
  h.namesNone (Async.only_emit_bind.mpr ⟨rfl, fun _ => Async.only_emit.mpr rfl⟩)

theorem attemptDispatch (env : DispatchEnv) (tripId : ℕ) (pickup : Point)
    (serviceType : ServiceType) (vehicleTypeId : Option ℕ) :
    P Unit (attemptDispatch env tripId pickup serviceType vehicleTypeId) := by
  refine h.bind (h.perform rfl) fun _ => ?_
  refine h.bind (h.perform rfl) fun _ => ?_
  refine h.bind (h.query rfl) fun config => ?_
  refine h.bind (h.query rfl) fun candidates => ?_
  split_ifs
  · exact h.emitDispatchFailed _ _
  · refine h.bind (h.query rfl) fun trip => ?_
    split_ifs
    · exact h.done _
    · have hdropoff : P _ (findDropoff tripId) := h.tryCatch (h.query rfl) fun _ => h.done _
      refine h.bind hdropoff fun dropoff => ?_
      refine h.bind (h.notifyCandidates _ _ _ _ _ _ _) fun notified => ?_
      split_ifs
      · exact h.emitDispatchFailed _ _
      · exact h.done _

theorem checkAndRetryDispatch (env : DispatchEnv) (tripId : ℕ) :
    P Unit (checkAndRetryDispatch env tripId) := by
  refine h.bind (h.query rfl) fun trip => ?_
  split
  · exact h.done _
  · refine h.bind (h.query rfl) fun remaining => ?_
    split_ifs
    · refine h.bind (h.query rfl) fun rounds => ?_
      refine h.bind (h.query rfl) fun config => ?_
      split_ifs
      · exact h.emitDispatchFailed _ _
      · exact h.bind (h.query rfl) fun pickup => h.attemptDispatch env tripId _ _ _
    · exact h.done _

/-! ### The calls -/

theorem handleDriverDecline (tripId driverId : ℕ) : P Unit (handleDriverDecline tripId driverId) := by
  refine h.namesNone (Async.only_perform_bind.mpr ⟨rfl, fun _ => ?_⟩)
  exact Async.only_perform_bind.mpr ⟨rfl, fun _ => namesNone_cancelTimeoutJob tripId driverId⟩

theorem handleDriverDeclineAndRetry (env : DispatchEnv) (tripId driverId : ℕ) :
    P Unit (handleDriverDeclineAndRetry env tripId driverId) :=
  h.bind (h.handleDriverDecline tripId driverId) fun _ => h.checkAndRetryDispatch env tripId

theorem handleDriverTimeout (env : DispatchEnv) (tripId driverId : ℕ) :
    P Unit (handleDriverTimeout env tripId driverId) := by
  refine h.bind (h.perform rfl) fun _ => ?_
  refine h.bind (h.perform rfl) fun _ => ?_
  exact h.bind (h.perform rfl) fun _ => h.checkAndRetryDispatch env tripId

theorem handleDriverAccept (tripId driverId : ℕ) : P Unit (handleDriverAccept tripId driverId) :=
  h.routine ((onlyOffers_handleDriverAccept tripId driverId).mono fun _ hc =>
    Cmd.isRoutine_of_touchesOffers hc)

theorem releaseLocksForTrip (tripId : ℕ) : P Unit (releaseLocksForTrip tripId) :=
  h.routine ((onlyOffers_releaseLocksForTrip tripId).mono fun _ hc =>
    Cmd.isRoutine_of_touchesOffers hc)

theorem declineTrip (env : DispatchEnv) (tripId userId : ℕ) :
    P Unit (TripsService.declineTrip env tripId userId) := by
  refine h.bind (h.routine (routine_getTrip tripId)) fun _ => ?_
  refine h.bind (h.query rfl) fun driver => ?_
  cases driver with
  | none => exact h.done _
  | some driverId =>
    refine h.bind (h.query rfl) fun active => ?_
    split_ifs
    · exact h.handleDriverDeclineAndRetry env tripId driverId
    · exact h.done _

theorem recoverTrip (env : DispatchEnv) (quiet : Bool) (now : ℕ) (trip : Trip) :
    P Unit (recoverTrip env quiet now trip) := by
  have hredispatch : P Unit (redispatch env trip) := by
    refine h.bind (h.releaseLocksForTrip trip.id) fun _ => ?_
    refine h.bind (h.query rfl) fun pickup => ?_
    split
    · exact h.emitDispatchFailed _ _
    · exact h.attemptDispatch env trip.id _ _ _
  unfold DispatchRecoveryService.recoverTrip
  by_cases hyoung : quiet = true ∧ now < trip.createdAt + redispatchMinAgeMs
  · rw [if_pos hyoung]
    exact h.done _
  · rw [if_neg hyoung]
    refine h.tryCatch ?_ fun _ => h.done _
    by_cases hold : trip.createdAt + redispatchMaxAgeMs < now
    · rw [if_pos hold]
      exact h.emitDispatchFailed _ _
    · rw [if_neg hold]
      exact hredispatch

theorem run (env : DispatchEnv) (quiet : Bool) :
    P Unit (DispatchRecoveryService.run env quiet) := by
  refine h.bind (h.tryCatch (h.query rfl) fun _ => h.done _) fun pending => ?_
  split_ifs
  · exact h.done _
  · refine h.bind (h.namesNone (Async.only_read.mpr rfl)) fun now => ?_
    exact h.forEach fun trip _ => h.recoverTrip env quiet now trip

theorem getPendingRequestForDriver (userId : ℕ) : P _ (getPendingRequestForDriver userId) := by
  have hrearm : ∀ tripId driverId, P Unit (rearm tripId driverId) := by
    intro tripId driverId
    refine h.tryCatch ?_ fun _ => h.done _
    exact h.bind (h.namesNone (Async.only_queryE.mpr rfl)) fun _ => h.perform rfl
  refine h.bind (h.query rfl) fun driver => ?_
  cases driver with
  | none => exact h.done _
  | some driverId =>
    refine h.bind (h.query rfl) fun found => ?_
    split
    · exact h.done _
    next attempt trip vehicleType =>
      refine h.bind (h.query rfl) fun anotherAccepted => ?_
      split_ifs
      · exact h.done _
      · refine h.bind (hrearm trip.id driverId) fun _ => ?_
        refine h.bind (h.tryCatch (h.query rfl) fun _ => h.done _) fun coords => ?_
        split <;> exact h.done _

theorem createTrip (pricing : PricingEnv) (clientId : ℕ) (dto : CreateTripDto) :
    P _ (TripsService.createTrip pricing clientId dto) := by
  refine h.bind (h.namesNone (Async.only_queryE.mpr rfl)) fun priceResult => ?_
  refine h.bind (h.namesNone (Async.only_queryE.mpr rfl)) fun tripId => ?_
  have hdetails : P Unit (createDetails tripId dto.serviceType) := by
    unfold createDetails
    split <;> first | exact h.perform rfl | exact h.done _
  refine h.bind hdetails fun _ => ?_
  refine h.bind (h.routine (routine_getTrip tripId)) fun trip => ?_
  exact h.bind (h.emit rfl) fun _ => h.done _

theorem program (env : Env) (pricing : PricingEnv) (op : Operation) :
    P Unit (op.program env pricing) := by
  cases op with
  | createTrip clientId dto => exact h.as (h.createTrip pricing clientId dto) ()
  | updateStatus tripId userId role dto =>
    exact h.as (h.routine (routine_updateStatus tripId userId role dto)) ()
  | completeTrip tripId userId role dto =>
    exact h.as (h.routine (routine_completeTrip tripId userId role dto)) ()
  | wsAccept tripId userId =>
    refine h.tryCatch ?_ fun _ => h.done _
    exact h.bind (h.routine (routine_updateStatus tripId userId _ _)) fun _ => h.done _
  | declineTrip tripId userId => exact h.declineTrip env.dispatch tripId userId
  | wsDecline tripId driverId => exact h.handleDriverDeclineAndRetry env.dispatch tripId driverId
  | timeout job =>
    exact h.bind (h.perform rfl) fun _ => h.handleDriverTimeout env.dispatch job.tripId job.driverId
  | recovery quiet => exact h.run env.dispatch quiet
  | sweep => exact h.routine routine_sweepStaleAssigned
  | getPendingRequest userId => exact h.as (h.getPendingRequestForDriver userId) ()
  | wait ms => exact h.perform rfl

theorem handler (env : Env) (event : DomainEvent) {handler : Prog Unit}
    (hhandler : handler ∈ eventHandlers env event) : P Unit handler := by
  cases event with
  | tripCreated tripId pickup serviceType vehicleTypeId =>
    obtain rfl := List.mem_singleton.mp hhandler
    exact h.attemptDispatch env.dispatch tripId pickup serviceType _
  | tripCompleted tripId driverId clientId finalPrice =>
    obtain rfl := List.mem_singleton.mp hhandler
    exact h.routine (routine_handleTripCompleted tripId)
  | driverAssigned tripId driverId =>
    obtain rfl := List.mem_singleton.mp hhandler
    exact h.routine (routine_handleDriverAssigned env.geo tripId driverId)
  | dispatchFailed tripId reason =>
    obtain rfl := List.mem_singleton.mp hhandler
    exact h.routine (routine_handleDispatchFailed tripId reason)
  | _ => cases hhandler

theorem handleEvent (env : Env) (event : DomainEvent) : P Unit (handleEvent env event) :=
  h.forEach fun _ hhandler => h.tryCatch (h.handler env event hhandler) fun _ => h.done _

end OfferWalk

end Telima
