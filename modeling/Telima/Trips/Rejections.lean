import Telima.Dispatch.Runs
import Telima.System
import Telima.Trips.Runs

/-!
# Rejected requests have no effect

The checks of a trip request only read, and all of them come before the first write: a request that is
refused with a 404, 403, 400 or 409 has left the store as it was, and told nobody
(`rejected_request_changes_nothing`).
-/

namespace Telima

open TripsService DispatchService

/-- `NotFoundException`, `ForbiddenException`, `BadRequestException` and `ConflictException` -/
def Error.isRejection : Error → Bool
  | .notFound _ | .forbidden _ | .badRequest _ | .conflict _ => true
  | _ => false

/-- The command only reads the store. -/
def Cmd.isQuery : Cmd → Bool
  | .findTrip _ | .findTripCoordinates _ | .findStaleAssignedTrips | .findDriver _
  | .findActiveAttempt _ _ | .findAttempts _ | .findPendingTrips | .findPendingAttempt _
  | .findAcceptedAttempt _ _ | .findPayment | .findRating _ _ | .aggregate | .redisGet _
  | .getJob _ | .date => true
  | _ => false

theorem Cmd.exec_of_isQuery {c : Cmd} {s : Store} (h : c.isQuery = true) : c.exec s = s := by
  cases c <;> first | rfl | simp [isQuery] at h

theorem Cmd.not_isMessage_of_isQuery {c : Cmd} (h : c.isQuery = true) : c.isMessage = false := by
  cases c <;> first | rfl | simp [isQuery] at h

/-- A request of a trip that the service can refuse. -/
inductive TripRequest where
  | updateStatus (tripId userId : ℕ) (role : UserRole) (dto : UpdateTripStatusDto)
  | acceptTrip (tripId userId : ℕ)
  | declineTrip (tripId userId : ℕ)
  | confirmPaymentReceived (tripId userId : ℕ) (role : UserRole) (dto : PaymentReceivedDto)
  | completeTrip (tripId userId : ℕ) (role : UserRole) (dto : PaymentReceivedDto)
  | rateTrip (tripId userId : ℕ) (role : UserRole) (dto : CreateRatingDto)
  | confirmDelivery (tripId userId : ℕ)
  | reportDeliveryIssue (tripId userId : ℕ) (reason : String)

def TripRequest.program (env : DispatchEnv) : TripRequest → Prog Unit
  | updateStatus tripId userId role dto => (TripsService.updateStatus tripId userId role dto).as ()
  | acceptTrip tripId userId => (TripsService.acceptTrip tripId userId).as ()
  | declineTrip tripId userId => TripsService.declineTrip env tripId userId
  | confirmPaymentReceived tripId userId role dto =>
    (TripsService.confirmPaymentReceived tripId userId role dto).as ()
  | completeTrip tripId userId role dto => (TripsService.completeTrip tripId userId role dto).as ()
  | rateTrip tripId userId role dto => (TripsService.rateTrip tripId userId role dto).as ()
  | confirmDelivery tripId userId => TripsService.confirmDelivery tripId userId
  | reportDeliveryIssue tripId userId reason =>
    TripsService.reportDeliveryIssue tripId userId reason

/-! ### What the dispatch can throw -/

/-- The error does not refuse the request. -/
abbrev Unrefused (e : Error) : Prop := ¬ e.isRejection = true

namespace DispatchService

theorem throws_attemptDispatch (env : DispatchEnv) (tripId : ℕ) (pickup : Point)
    (serviceType : ServiceType) (vehicleTypeId : Option ℕ) :
    (attemptDispatch env tripId pickup serviceType vehicleTypeId).Throws Unrefused := by
  have hdropoff : (findDropoff tripId).Returns :=
    Async.returns_tryCatch fun _ => Async.returns_done_ok none
  refine (Async.returns_perform _).throws_bind fun _ => ?_
  refine (Async.returns_perform _).throws_bind fun _ => ?_
  refine Async.throws_query_bind.mpr fun s => ?_
  refine Async.throws_query_bind.mpr fun s' => ?_
  split_ifs
  · exact (returns_emitDispatchFailed _ _).throws
  · refine Async.throws_query_bind.mpr fun s'' => ?_
    split_ifs
    · exact Bool.false_ne_true
    · refine hdropoff.throws_bind fun dropoff => ?_
      refine (returns_notifyCandidates _ _ _ _ _ _ _).throws_bind fun notified => ?_
      split_ifs
      · exact (returns_emitDispatchFailed _ _).throws
      · trivial

theorem throws_checkAndRetryDispatch (env : DispatchEnv) (tripId : ℕ) :
    (checkAndRetryDispatch env tripId).Throws Unrefused := by
  refine Async.throws_query_bind.mpr fun s => ?_
  split
  · trivial
  · refine Async.throws_query_bind.mpr fun s' => ?_
    split_ifs
    · refine Async.throws_query_bind.mpr fun s'' => ?_
      refine Async.throws_query_bind.mpr fun s''' => ?_
      split_ifs
      · exact (returns_emitDispatchFailed _ _).throws
      · exact Async.throws_query_bind.mpr fun _ => throws_attemptDispatch _ _ _ _ _
    · trivial

theorem throws_handleDriverDeclineAndRetry (env : DispatchEnv) (tripId driverId : ℕ) :
    (handleDriverDeclineAndRetry env tripId driverId).Throws Unrefused := by
  have hdecline : (handleDriverDecline tripId driverId).Returns := by
    refine Async.returns_perform_bind.mpr fun _ => ?_
    exact Async.returns_perform_bind.mpr fun _ => returns_cancelTimeoutJob _ _
  exact hdecline.throws_bind fun _ => throws_checkAndRetryDispatch env tripId

end DispatchService

/-! ### The requests -/

namespace TripsService

variable {s : Store} {tripId userId : ℕ} {role : UserRole}

/-- A refusal leaves the store as it was and tells nobody. -/
abbrev ChecksFirst {α : Type} (p : Prog α) (s : Store) : Prop :=
  p.ChecksFirst Cmd.exec (fun c => c.isQuery = true) (fun e => e.isRejection = true) s

theorem checksFirst_bind {α β : Type} {p : Prog α} {f : α → Prog β}
    (hp : p.Only fun c => c.isQuery = true)
    (hf : ∀ a, (p.run Cmd.exec s).result = .ok a → ChecksFirst (f a) s) :
    ChecksFirst (p.bind f) s :=
  hp.checksFirst_bind (fun _ _ h => Cmd.exec_of_isQuery h) hf

theorem isQuery_findById (tripId : ℕ) :
    (TripRepository.findById tripId).Only fun c => c.isQuery = true := only_findById rfl rfl

theorem isQuery_getTrip (tripId : ℕ) : (getTrip tripId).Only fun c => c.isQuery = true :=
  only_getTrip rfl rfl

theorem isQuery_findDriverByUserId (userId : ℕ) :
    (TripRepository.findDriverByUserId userId).Only fun c => c.isQuery = true :=
  Async.only_query.mpr rfl

/-- The checks of a request that starts with the trip. -/
theorem checksFirst_getTrip_bind {α : Type} {f : Trip → Prog α}
    (hf : ∀ trip, s.trips.find? tripId = some trip → ChecksFirst (f trip) s) :
    ChecksFirst ((getTrip tripId).bind f) s := by
  refine checksFirst_bind (isQuery_getTrip tripId) fun trip htrip => ?_
  cases hfind : s.trips.find? tripId with
  | none =>
    have hnone := run_getTrip_bind_none hfind fun trip => Async.done (.ok trip)
    rw [Async.bind_pure] at hnone
    rw [hnone] at htrip
    cases htrip
  | some row =>
    have hsome := run_getTrip_bind hfind fun trip => Async.done (.ok trip)
    rw [Async.bind_pure] at hsome
    rw [hsome] at htrip
    exact hf trip (Except.ok.inj htrip ▸ hfind)

theorem throws_update (data : TripData) :
    (TripRepository.update tripId data).Throws Unrefused := by
  intro s
  show (Async.done (orNotFound ((s.trips.find? tripId).map (data.apply s.now))) : Prog Trip).Throws
    Unrefused
  cases s.trips.find? tripId with
  | none => exact Bool.false_ne_true
  | some trip => trivial

theorem throws_updateStatus (data : TripData) (status : TripStatus) (cancelReason : Option String) :
    ((TripRepository.updateStatus tripId data).bind fun updated =>
      reportStatus updated userId status cancelReason).Throws Unrefused := by
  unfold TripRepository.updateStatus
  rw [Async.bind_eq, Async.bind_assoc]
  refine (throws_update data).bind fun _ => ?_
  have hfind : (TripRepository.findById tripId).Returns := by
    refine Async.returns_query_bind.mpr fun s => ?_
    cases s.trips.find? tripId with
    | none => exact Async.returns_done_ok none
    | some trip => exact Async.returns_perform_bind.mpr fun _ => Async.returns_done_ok _
  refine hfind.throws_bind fun updated => ?_
  cases updated with
  | none => exact Bool.false_ne_true
  | some updated => exact (returns_reportStatus _ _ _ _).throws

theorem checksFirst_acceptCase : ChecksFirst (acceptCase tripId userId role) s := by
  unfold acceptCase
  by_cases hrole : role ≠ .driver
  · rw [if_pos hrole]
    exact Async.checksFirst_throw _
  · rw [if_neg hrole]
    refine checksFirst_bind (isQuery_findDriverByUserId userId) fun driver _ => ?_
    cases driver with
    | none => exact Async.checksFirst_throw _
    | some driverId =>
      refine checksFirst_bind (Async.only_query.mpr rfl) fun hasActiveAttempt _ => ?_
      cases hasActiveAttempt with
      | false => exact Async.checksFirst_throw _
      | true =>
        refine Async.Returns.checksFirst (Async.returns_read_bind.mpr fun _ => ?_)
        exact (returns_handleDriverAccept _ _).bind fun _ => Async.returns_done_ok _

/-- The cases in which the assigned driver acts. -/
theorem checksFirst_assigned {trip : Trip} {α : Type} {e e' : Error} {g : Prog α}
    (hg : ChecksFirst g s) :
    ChecksFirst (if role ≠ .driver then Async.throw e
      else (TripRepository.findDriverByUserId userId).bind fun driver =>
        if driver.isNone ∨ trip.driverId ≠ driver then Async.throw e' else g) s := by
  by_cases hrole : role ≠ .driver
  · rw [if_pos hrole]
    exact Async.checksFirst_throw _
  · rw [if_neg hrole]
    refine checksFirst_bind (isQuery_findDriverByUserId userId) fun driver _ => ?_
    by_cases hother : driver.isNone ∨ trip.driverId ≠ driver
    · rw [if_pos hother]
      exact Async.checksFirst_throw _
    · rw [if_neg hother]
      exact hg

theorem checksFirst_statusCase (trip : Trip) (dto : UpdateTripStatusDto) :
    ChecksFirst (statusCase trip userId role dto) s := by
  have hdate : ∀ data : ℕ → TripData,
      (newDate.bind fun now => .done (.ok (data now)) : Prog TripData).Returns := fun data =>
    Async.returns_read_bind.mpr fun _ => Async.returns_done_ok _
  have hwithdraw : ∀ (reason : String) (data : ℕ → TripData),
      (newDate.bind fun now => (withdrawOffers trip reason).bind fun _ =>
        .done (.ok (data now)) : Prog TripData).Returns := fun reason data =>
    Async.returns_read_bind.mpr fun _ =>
      (returns_withdrawOffers trip reason).bind fun _ => Async.returns_done_ok _
  unfold statusCase
  cases dto.status with
  | accepted => exact checksFirst_acceptCase
  | driverArriving => exact checksFirst_assigned (hdate _).checksFirst
  | inProgress => exact checksFirst_assigned (hdate _).checksFirst
  | completed => exact checksFirst_assigned (hdate _).checksFirst
  | cancelledByDriver => exact checksFirst_assigned (hdate _).checksFirst
  | cancelledByClient =>
    simp only [cancelByClientCase]
    by_cases hclient : role ≠ .client ∧ userId ≠ trip.clientId
    · rw [if_pos hclient]
      exact Async.checksFirst_throw _
    · rw [if_neg hclient]
      exact (hwithdraw _ _).checksFirst
  | cancelledAuto => exact (hwithdraw _ _).checksFirst
  | pending => exact (Async.returns_done_ok _).checksFirst

theorem checksFirst_updateStatus (dto : UpdateTripStatusDto) :
    ChecksFirst (updateStatus tripId userId role dto) s := by
  refine checksFirst_getTrip_bind fun trip _ => ?_
  by_cases hcan : canTransition trip.status dto.status = true
  · rw [if_pos hcan]
    refine (checksFirst_statusCase trip dto).bind fun data => ?_
    exact throws_updateStatus data dto.status dto.cancelReason
  · rw [if_neg hcan]
    exact Async.checksFirst_throw _

theorem checksFirst_declineTrip (env : DispatchEnv) : ChecksFirst (declineTrip env tripId userId) s := by
  refine checksFirst_getTrip_bind fun trip _ => ?_
  refine checksFirst_bind (isQuery_findDriverByUserId userId) fun driver _ => ?_
  cases driver with
  | none => exact Async.checksFirst_throw _
  | some driverId =>
    refine checksFirst_bind (Async.only_query.mpr rfl) fun hasActiveAttempt _ => ?_
    cases hasActiveAttempt with
    | false => exact Async.checksFirst_throw _
    | true => exact (throws_handleDriverDeclineAndRetry env tripId driverId).checksFirst

/-- The checks of the two requests with a payment, and their rest. -/
theorem checksFirst_payment {α : Type} {e e' : Error} {e'' : Trip → Error} {g : Trip → Prog α}
    (hg : ∀ trip, s.trips.find? tripId = some trip → ChecksFirst (g trip) s) :
    ChecksFirst (if role ≠ .driver then Async.throw e
      else (getTrip tripId).bind fun trip =>
        (TripRepository.findDriverByUserId userId).bind fun driver =>
          if driver.isNone ∨ trip.driverId ≠ driver then Async.throw e'
          else if trip.status ≠ .inProgress then Async.throw (e'' trip) else g trip) s := by
  by_cases hrole : role ≠ .driver
  · rw [if_pos hrole]
    exact Async.checksFirst_throw _
  · rw [if_neg hrole]
    refine checksFirst_getTrip_bind fun trip htrip => ?_
    refine checksFirst_bind (isQuery_findDriverByUserId userId) fun driver _ => ?_
    split_ifs
    · exact Async.checksFirst_throw _
    · exact Async.checksFirst_throw _
    · exact hg trip htrip

theorem checksFirst_confirmPaymentReceived (dto : PaymentReceivedDto) :
    ChecksFirst (confirmPaymentReceived tripId userId role dto) s :=
  checksFirst_payment fun _ _ => Async.Throws.checksFirst fun _ => throws_update _

/-- The row that is updated is there when it is read again. -/
theorem update_getTrip_succeeds {trip : Trip} (htrip : s.trips.find? tripId = some trip)
    (data : TripData) :
    ((TripRepository.update tripId data).bind fun _ => (getTrip tripId).bind fun updated =>
      reportStatus (some updated) userId .completed none).Succeeds Cmd.exec s := by
  have hfind : ((Cmd.updateTrip tripId data).exec s).trips.find? tripId =
      some (data.apply s.now trip) := by
    rw [Store.find?_updateTrip, htrip, Option.map_some, if_pos rfl]
  rw [TripRepository.update, Async.succeeds_queryE_bind, htrip]
  refine getTrip_bind_succeeds_iff.mpr ⟨_, hfind, ?_⟩
  exact (returns_reportStatus _ _ _ _).succeeds _ _

theorem checksFirst_completeTrip (dto : PaymentReceivedDto) :
    ChecksFirst (completeTrip tripId userId role dto) s := by
  refine checksFirst_payment fun trip htrip => ?_
  split_ifs
  · refine Async.Succeeds.checksFirst (Async.succeeds_read_bind.mpr ?_)
    exact update_getTrip_succeeds htrip _
  · exact Async.checksFirst_throw _

theorem checksFirst_rateTrip (dto : CreateRatingDto) :
    ChecksFirst (rateTrip tripId userId role dto) s := by
  refine checksFirst_getTrip_bind fun trip _ => ?_
  have hchecks : (checkRater trip userId role).Only fun c => c.isQuery = true := by
    unfold checkRater
    split_ifs
    · refine (isQuery_findDriverByUserId userId).bind fun driver => ?_
      split_ifs <;> trivial
    · trivial
    · trivial
  refine checksFirst_bind hchecks fun _ _ => ?_
  by_cases hstatus : trip.status ≠ .completed
  · rw [if_pos hstatus]
    exact Async.checksFirst_throw _
  · rw [if_neg hstatus]
    refine checksFirst_bind (Async.only_query.mpr rfl) fun existing _ => ?_
    cases existing with
    | some rating => exact Async.checksFirst_throw _
    | none =>
      have hcreate : ∀ data, (TripRepository.createRating data).Throws Unrefused := by
        intro data t
        show (Async.done (if _ then .error .uniqueConstraint else .ok _) :
          Prog TripRating).Throws Unrefused
        split_ifs
        · exact Bool.false_ne_true
        · trivial
      refine Async.Throws.checksFirst ((hcreate _).bind fun rating => Async.Returns.throws ?_)
      exact Async.returns_emit_bind.mpr fun _ => Async.returns_done_ok rating

theorem checksFirst_confirmDelivery : ChecksFirst (confirmDelivery tripId userId) s := by
  refine checksFirst_getTrip_bind fun trip _ => ?_
  split_ifs
  · exact Async.checksFirst_throw _
  · exact Async.checksFirst_throw _
  · exact Async.checksFirst_throw _
  · exact Async.checksFirst_throw _
  · refine Async.Throws.checksFirst fun t => (throws_update _).bind fun _ => Async.Returns.throws ?_
    refine Async.returns_emit_bind.mpr fun _ => ?_
    exact Async.Returns.forEach fun driverId => Async.returns_emit _

theorem checksFirst_reportDeliveryIssue (reason : String) :
    ChecksFirst (reportDeliveryIssue tripId userId reason) s := by
  refine checksFirst_getTrip_bind fun trip _ => ?_
  split_ifs
  · exact Async.checksFirst_throw _
  · exact Async.checksFirst_throw _
  · exact ((throws_update _).bind fun _ => (Async.returns_done_ok ()).throws).checksFirst

/-- Every request checks first. -/
theorem checksFirst_program (env : DispatchEnv) (request : TripRequest) :
    ChecksFirst (request.program env) s := by
  have has : ∀ {α : Type} {p : Prog α}, ChecksFirst p s → ChecksFirst (p.as ()) s := fun hp =>
    hp.bind fun _ => trivial
  cases request with
  | updateStatus tripId userId role dto => exact has (checksFirst_updateStatus dto)
  | acceptTrip tripId userId => exact has (checksFirst_updateStatus _)
  | declineTrip tripId userId => exact checksFirst_declineTrip env
  | confirmPaymentReceived tripId userId role dto => exact has (checksFirst_confirmPaymentReceived dto)
  | completeTrip tripId userId role dto => exact has (checksFirst_completeTrip dto)
  | rateTrip tripId userId role dto => exact has (checksFirst_rateTrip dto)
  | confirmDelivery tripId userId => exact checksFirst_confirmDelivery
  | reportDeliveryIssue tripId userId reason => exact checksFirst_reportDeliveryIssue reason

end TripsService

/-- A request that is refused has left the store as it was, and neither emitted an event nor sent a
message. -/
theorem rejected_request_changes_nothing (env : DispatchEnv) (request : TripRequest) (s : Store)
    (e : Error) (hthrows : ((request.program env).run Cmd.exec s).result = .error e)
    (he : e.isRejection = true) :
    ((request.program env).run Cmd.exec s).store = s ∧
      ∀ c ∈ ((request.program env).run Cmd.exec s).cmds, c.isMessage = false := by
  obtain ⟨hstore, hcmds⟩ := TripsService.checksFirst_program env request e hthrows he
  exact ⟨hstore, fun c hc => Cmd.not_isMessage_of_isQuery (hcmds c hc)⟩

/-- A pending trip nobody was asked to take, and a driver (user 10). -/
def Store.unoffered : Store where
  drivers := .single ⟨1, 10, 0, 0⟩
  trips :=
    .single { id := 1, clientId := 20, vehicleTypeId := 1, serviceType := .ride
              pickupLocation := ⟨0, 0⟩, dropoffLocation := ⟨0, 0⟩, createdAt := 0, updatedAt := 0 }

/-- The driver may not accept the trip, and nothing happens. -/
theorem rejected_request_changes_nothing_accept :
    ((((TripRequest.acceptTrip 1 10).program Env.offline.dispatch).run Cmd.exec
      Store.unoffered).store = Store.unoffered) ∧
    ∀ c ∈ (((TripRequest.acceptTrip 1 10).program Env.offline.dispatch).run Cmd.exec
      Store.unoffered).cmds, c.isMessage = false :=
  rejected_request_changes_nothing Env.offline.dispatch (.acceptTrip 1 10) Store.unoffered
    (.forbidden "Cette course ne vous est pas assignee (dispatch)") rfl rfl

end Telima
