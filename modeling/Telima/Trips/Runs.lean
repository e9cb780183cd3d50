import Telima.Dispatch.OfferState
import Telima.Trips.Service

/-!
# What a trip call does on its own

When a call of `TripsService` succeeds, and what the parts of `updateStatus` touch.
-/

namespace Telima

open DispatchService

/-! ### The writes of a trip -/

namespace Store

variable {s : Store} {tripId id : ℕ} {data : TripData}

theorem find?_insertTrip {data : CreateTripData} :
    ((Cmd.insertTrip data).exec s).trips.find? tripId = (s.trips.find? tripId).or
      (if (s.vehicleTypes.find? data.vehicleTypeId).isSome = true ∧ s.trips.freshKey = tripId then
        some (data.row tripId s.now) else none) := by
  simp only [Cmd.exec]
  by_cases hvehicle : (s.vehicleTypes.find? data.vehicleTypeId).isSome = true
  · rw [if_pos hvehicle, Table.find?_insert]
    by_cases hid : s.trips.freshKey = tripId
    · rw [CreateTripData.id_row, if_pos hid, if_pos ⟨hvehicle, hid⟩, hid]
    · rw [CreateTripData.id_row, if_neg hid, if_neg fun h => hid h.2]
  · rw [if_neg hvehicle, if_neg fun h => hvehicle h.1, Option.or_none]

theorem find?_insertTrip_of_some {data : CreateTripData} {trip : Trip}
    (htrip : s.trips.find? tripId = some trip) :
    ((Cmd.insertTrip data).exec s).trips.find? tripId = some trip := by
  rw [find?_insertTrip, htrip, Option.some_or]

theorem find?_updateTrip : ((Cmd.updateTrip id data).exec s).trips.find? tripId =
    (s.trips.find? tripId).map fun trip =>
      if tripId = id then data.apply s.now trip else trip :=
  Table.find?_update_eq_map _ (data.id_apply s.now)

theorem find?_updateTripIfPending : ((Cmd.updateTripIfPending id data).exec s).trips.find? tripId =
    (s.trips.find? tripId).map fun trip =>
      if decide (trip.id = id) && decide (trip.status = .pending) then data.apply s.now trip
      else trip :=
  Table.find?_updateMany _ _ (data.id_apply s.now)

theorem find?_chargeCommission {driverId : ℕ} {commissionAmount : ℤ} {finalPrice : ℚ} :
    ((Cmd.chargeCommission id driverId commissionAmount finalPrice).exec s).trips.find? tripId =
      (s.trips.find? tripId).map fun trip =>
        if Cmd.chargeable s id driverId = true ∧ tripId = id then trip.charge commissionAmount s.now
        else trip := by
  unfold Cmd.exec
  by_cases hcharge : Cmd.chargeable s id driverId = true
  · simp only [hcharge, if_true, true_and]
    exact Table.find?_update_eq_map _ (Trip.id_charge commissionAmount s.now)
  · simp [hcharge]

end Store

/-- The command reads a trip, asks for a position, or tells of a trip; it writes no row and starts no
handler. -/
def Cmd.reports : Cmd → Bool
  | .findTrip _ | .findTripCoordinates _ | .external
  | .emit (.tripArrived _ _ _) | .emit (.tripStarted _ _ _) | .emit (.tripCancelled _ _ _) => true
  | .broadcast _ _ payload => !payload.isRequest
  | _ => false

/-- The command reads a trip, asks for a position, or tells the apps of clients and admins. -/
def Cmd.reads : Cmd → Bool
  | .findTrip _ | .findTripCoordinates _ | .external => true
  | .broadcast (.driver _) _ _ => false
  | .broadcast _ _ payload => !payload.isRequest
  | _ => false

theorem Cmd.reports_of_reads {c : Cmd} (h : c.reads = true) : c.reports = true := by
  unfold reads at h
  split at h <;> first | rfl | exact h | cases h

theorem Cmd.keepsTrips_of_reports {c : Cmd} (h : c.reports = true) : c.keepsTrips = true := by
  cases c <;> first | rfl | simp [reports] at h

namespace TripsService

/-! ### Reads and reports -/

theorem only_findById {P : Cmd → Prop} {tripId : ℕ} (hread : P (.findTrip tripId))
    (hcoords : P (.findTripCoordinates tripId)) : (TripRepository.findById tripId).Only P := by
  refine Async.only_query_bind.mpr ⟨hread, fun s => ?_⟩
  cases s.trips.find? tripId with
  | none => trivial
  | some trip => exact Async.only_perform_bind.mpr ⟨hcoords, fun _ => trivial⟩

theorem only_getTrip {P : Cmd → Prop} {tripId : ℕ} (hread : P (.findTrip tripId))
    (hcoords : P (.findTripCoordinates tripId)) : (getTrip tripId).Only P := by
  refine (only_findById hread hcoords).bind fun trip => ?_
  cases trip <;> trivial

theorem only_createDetails {P : Cmd → Prop} {tripId : ℕ} (h : P (.createDetails tripId))
    (serviceType : ServiceType) : (createDetails tripId serviceType).Only P := by
  unfold createDetails
  cases serviceType with
  | assistance => trivial
  | _ => exact Async.only_perform.mpr h

/-- `createTrip` inserts a trip and its details, reads the trip, and announces it. -/
theorem only_createTrip {P : Cmd → Prop} (pricing : PricingEnv) (clientId : ℕ) (dto : CreateTripDto)
    (hexternal : P .external) (hinsert : ∀ data, P (.insertTrip data))
    (hdetails : ∀ tripId, P (.createDetails tripId)) (hget : ∀ tripId, (getTrip tripId).Only P)
    (hemit : ∀ tripId, P (.emit (.tripCreated tripId dto.pickup dto.serviceType dto.vehicleTypeId))) :
    (createTrip pricing clientId dto).Only P := by
  refine Async.Only.bind (Async.only_queryE.mpr hexternal) fun priceResult => ?_
  refine Async.Only.bind (Async.only_queryE.mpr (hinsert _)) fun tripId => ?_
  refine (only_createDetails (hdetails tripId) dto.serviceType).bind fun _ => ?_
  refine (hget tripId).bind fun trip => ?_
  exact Async.only_emit_bind.mpr ⟨hemit trip.id, fun _ => trivial⟩

theorem onlyReports_findById (tripId : ℕ) :
    (TripRepository.findById tripId).Only fun c => c.reports = true := only_findById rfl rfl

/-- A call that starts with a trip goes on with the row, or fails when there is none. -/
theorem getTrip_bind {α : Type} (tripId : ℕ) (f : Trip → Prog α) :
    (getTrip tripId).bind f =
      (Async.query (.findTrip tripId) fun s => s.trips.find? tripId).bind fun row =>
        row.elim (Async.throw (.notFound "Course introuvable")) fun trip =>
          (Async.perform (.findTripCoordinates tripId)).bind fun _ => f trip := by
  unfold getTrip TripRepository.findById
  rw [Async.bind_eq, Async.bind_eq, Async.bind_assoc, Async.bind_assoc]
  congr 1
  funext row
  cases row with
  | none => rfl
  | some trip => rfl

theorem onlyReports_getTrip (tripId : ℕ) : (getTrip tripId).Only fun c => c.reports = true :=
  only_getTrip rfl rfl

theorem yields_getTrip (tripId : ℕ) : (getTrip tripId).Yields fun trip => trip.id = tripId := by
  unfold getTrip TripRepository.findById
  rw [Async.bind_eq, Async.bind_eq, Async.bind_assoc, Async.yields_query_bind]
  intro s
  cases htrip : s.trips.find? tripId with
  | none => trivial
  | some trip => exact ⟨fun _ => Table.key_of_find? htrip, fun _ => trivial⟩

theorem onlyReports_broadcastStatusEvent (trip : Trip) (status : TripStatus)
    (cancelReason : Option String) :
    (broadcastStatusEvent trip status cancelReason).Only fun c => c.reports = true := by
  unfold broadcastStatusEvent
  split
  · trivial
  · refine Async.only_emit_bind.mpr ⟨rfl, fun _ => ?_⟩
    refine Async.only_emit_bind.mpr ⟨rfl, fun _ => ?_⟩
    refine Async.Only.bind (Async.Only.forEach fun d _ => ?_) fun _ => ?_
    · exact Async.only_emit.mpr rfl
    · exact Async.only_emit.mpr rfl

/-- The report of a trip emits `TripCompleted` only of a trip that is completed. -/
theorem only_reportStatus (updated : Option Trip) (userId : ℕ) (status : TripStatus)
    (cancelReason : Option String) :
    (reportStatus updated userId status cancelReason).Only fun c => c.reports = true ∨
      ∃ trip ∈ updated, ∃ finalPrice, trip.status = .completed ∧
        c = .emit (.tripCompleted trip.id trip.driverId trip.clientId finalPrice) := by
  cases updated with
  | none => trivial
  | some trip =>
    refine Async.Only.bind ?_ fun _ => Async.Only.bind ?_ fun _ => trivial
    · unfold emitStatusEvent statusEvent
      cases hstatus : trip.status with
      | pending => trivial
      | accepted => trivial
      | completed =>
        exact Async.only_emit.mpr (Or.inr ⟨trip, rfl, _, hstatus, rfl⟩)
      | _ => exact Async.only_emit.mpr (Or.inl rfl)
    · exact (onlyReports_broadcastStatusEvent trip status cancelReason).mono fun _ hc => Or.inl hc

/-- The message of an accepted trip is sent whether or not the arrival can be estimated. -/
theorem returns_broadcastAccepted (geo : GeoEnv) (trip : Trip) (driverId : ℕ) :
    (broadcastAccepted geo trip driverId).Returns := by
  have hestimate : (estimateArrival geo trip.id driverId).Returns :=
    Async.returns_tryCatch fun _ => Async.returns_done_ok _
  unfold broadcastAccepted
  split
  · exact Async.returns_done_ok ()
  · exact hestimate.bind fun _ => Async.returns_emit_bind.mpr fun _ =>
      Async.returns_emit_bind.mpr fun _ => Async.returns_emit _

theorem onlyReads_broadcastAccepted (geo : GeoEnv) (trip : Trip) (driverId : ℕ) :
    (broadcastAccepted geo trip driverId).Only fun c => c.reads = true := by
  have hestimate : (estimateArrival geo trip.id driverId).Only fun c => c.reads = true := by
    refine Async.Only.tryCatch ?_ fun _ => trivial
    refine Async.only_query_bind.mpr ⟨rfl, fun s => ?_⟩
    refine Async.only_query_bind.mpr ⟨rfl, fun s' => ?_⟩
    split
    · refine Async.Only.bind (Async.Only.tryCatch ?_ fun _ => trivial) fun _ => trivial
      exact Async.only_query_bind.mpr ⟨rfl, fun _ => trivial⟩
    · trivial
  unfold broadcastAccepted
  split
  · trivial
  · refine hestimate.bind fun estimate => ?_
    refine Async.only_emit_bind.mpr ⟨rfl, fun _ => ?_⟩
    refine Async.only_emit_bind.mpr ⟨rfl, fun _ => ?_⟩
    exact Async.only_emit.mpr rfl

theorem onlyReports_broadcastAccepted (geo : GeoEnv) (trip : Trip) (driverId : ℕ) :
    (broadcastAccepted geo trip driverId).Only fun c => c.reports = true :=
  (onlyReads_broadcastAccepted geo trip driverId).mono fun _ hc => Cmd.reports_of_reads hc

/-! ### The switch of `updateStatus` -/

theorem onlyOffers_notifyDispatchedDriversOfCancellation (tripId : ℕ) (serviceType : ServiceType)
    (reason : String) :
    OnlyOffers (notifyDispatchedDriversOfCancellation tripId serviceType reason) := by
  unfold notifyDispatchedDriversOfCancellation
  split
  · trivial
  · refine Async.only_query_bind.mpr ⟨rfl, fun s => ?_⟩
    exact Async.Only.forEach fun d _ => Async.only_emit.mpr rfl

theorem onlyOffers_withdrawOffers (trip : Trip) (reason : String) :
    OnlyOffers (withdrawOffers trip reason) :=
  (onlyOffers_releaseLocksForTrip trip.id).bind fun _ =>
    onlyOffers_notifyDispatchedDriversOfCancellation _ _ _

theorem onlyOffers_acceptCase (tripId userId : ℕ) (role : UserRole) :
    OnlyOffers (acceptCase tripId userId role) := by
  unfold acceptCase
  split_ifs
  · trivial
  · refine Async.only_query_bind.mpr ⟨rfl, fun s => ?_⟩
    cases (s.drivers.findFirst fun d => decide (d.userId = userId)).map Driver.id with
    | none => trivial
    | some driverId =>
      refine Async.only_query_bind.mpr ⟨rfl, fun s => ?_⟩
      split_ifs
      · refine Async.only_read_bind.mpr ⟨rfl, fun s => ?_⟩
        exact (onlyOffers_handleDriverAccept _ _).bind fun _ => trivial
      · trivial

/-- The checks of the switch touch offers only, and so do the offers it withdraws. -/
theorem onlyOffers_statusCase (trip : Trip) (userId : ℕ) (role : UserRole)
    (dto : UpdateTripStatusDto) : OnlyOffers (statusCase trip userId role dto) := by
  have hadvance : ∀ status, OnlyOffers (advanceCase trip userId role status) := fun status => by
    unfold advanceCase
    split_ifs
    · trivial
    · refine Async.only_query_bind.mpr ⟨rfl, fun s => ?_⟩
      split_ifs
      · trivial
      · exact Async.only_read_bind.mpr ⟨rfl, fun _ => trivial⟩
  unfold statusCase
  cases dto.status with
  | accepted => exact onlyOffers_acceptCase _ _ _
  | driverArriving => exact hadvance _
  | inProgress => exact hadvance _
  | completed => exact hadvance _
  | cancelledByClient =>
    simp only [cancelByClientCase]
    split_ifs
    · trivial
    · refine Async.only_read_bind.mpr ⟨rfl, fun s => ?_⟩
      exact (onlyOffers_withdrawOffers _ _).bind fun _ => trivial
  | cancelledByDriver =>
    simp only [cancelByDriverCase]
    split_ifs
    · trivial
    · refine Async.only_query_bind.mpr ⟨rfl, fun s => ?_⟩
      split_ifs
      · trivial
      · exact Async.only_read_bind.mpr ⟨rfl, fun _ => trivial⟩
  | cancelledAuto =>
    refine Async.only_read_bind.mpr ⟨rfl, fun s => ?_⟩
    exact (onlyOffers_withdrawOffers _ _).bind fun _ => trivial
  | pending => trivial

/-- The columns the switch writes have the target status. -/
theorem yields_statusCase (trip : Trip) (userId : ℕ) (role : UserRole)
    (dto : UpdateTripStatusDto) :
    (statusCase trip userId role dto).Yields fun data => data.status = some dto.status := by
  have hadvance : ∀ status : TripStatus, (∀ now, (advanceData trip status now).status = some status) →
      (advanceCase trip userId role status).Yields fun data => data.status = some status := by
    intro status hstatus
    unfold advanceCase
    split_ifs
    · trivial
    · refine Async.Yields.bind _ fun driver => ?_
      split_ifs
      · trivial
      · exact Async.Yields.bind _ hstatus
  unfold statusCase
  cases dto.status with
  | accepted =>
    simp only [acceptCase]
    split_ifs
    · trivial
    · refine Async.Yields.bind _ fun driver => ?_
      cases driver with
      | none => trivial
      | some driverId =>
        refine Async.Yields.bind _ fun hasActiveAttempt => ?_
        split_ifs
        · exact Async.Yields.bind _ fun _ => Async.Yields.bind _ fun _ => rfl
        · trivial
  | driverArriving => exact hadvance _ fun _ => rfl
  | inProgress => exact hadvance _ fun _ => rfl
  | completed => exact hadvance _ fun _ => rfl
  | cancelledByClient =>
    simp only [cancelByClientCase]
    split_ifs
    · trivial
    · exact Async.Yields.bind _ fun _ => Async.Yields.bind _ fun _ => rfl
  | cancelledByDriver =>
    simp only [cancelByDriverCase]
    split_ifs
    · trivial
    · refine Async.Yields.bind _ fun driver => ?_
      split_ifs
      · trivial
      · exact Async.Yields.bind _ fun _ => rfl
  | cancelledAuto => exact Async.Yields.bind _ fun _ => Async.Yields.bind _ fun _ => rfl
  | pending => rfl

theorem isNotified_iff {s : Store} {tripId driverId : ℕ} :
    TripRepository.isNotified s tripId driverId = true ↔ s.offers.Notified tripId driverId := by
  rw [TripRepository.isNotified, Offers.Notified, Store.offers]
  dsimp only
  rw [Store.attemptStatus]
  cases s.attempts.find? (tripId, driverId) with
  | none => simp
  | some attempt => simp

/-- What the switch checks before it lets the user set the status. -/
def Permits (s : Store) (trip : Trip) (userId : ℕ) (role : UserRole) : TripStatus → Prop
  | .accepted => role = .driver ∧
    ∃ driver, (s.drivers.findFirst fun d => decide (d.userId = userId)) = some driver ∧
      TripRepository.isNotified s trip.id driver.id = true
  | .driverArriving | .inProgress | .completed | .cancelledByDriver => role = .driver ∧
    ∃ driver, (s.drivers.findFirst fun d => decide (d.userId = userId)) = some driver ∧
      trip.driverId = some driver.id
  | .cancelledByClient => role = .client ∨ userId = trip.clientId
  | .cancelledAuto | .pending => True

section Succeeds

variable {s : Store} {trip : Trip} {userId : ℕ} {role : UserRole}

theorem returns_withdrawOffers (trip : Trip) (reason : String) :
    (withdrawOffers trip reason).Returns := by
  refine (returns_releaseLocksForTrip trip.id).bind fun _ => ?_
  unfold notifyDispatchedDriversOfCancellation
  split
  · exact Async.returns_done_ok ()
  · refine Async.returns_query_bind.mpr fun s => ?_
    exact Async.Returns.forEach fun d => Async.returns_emit _

theorem acceptCase_succeeds_iff {tripId : ℕ} :
    (acceptCase tripId userId role).Succeeds Cmd.exec s ↔ role = .driver ∧
      ∃ driver, (s.drivers.findFirst fun d => decide (d.userId = userId)) = some driver ∧
        TripRepository.isNotified s tripId driver.id = true := by
  unfold acceptCase
  by_cases hrole : role = .driver
  · rw [if_neg (not_not.mpr hrole), TripRepository.findDriverByUserId, Async.bind_eq,
      Async.succeeds_query_bind]
    cases s.drivers.findFirst fun d => decide (d.userId = userId) with
    | none => simp
    | some driver =>
      simp only [Option.map_some]
      rw [TripRepository.hasActiveDispatchAttempt, Async.bind_eq, Async.succeeds_query_bind]
      have hread : (Cmd.findDriver userId).exec s = s := rfl
      rw [hread]
      by_cases hnotified : TripRepository.isNotified s tripId driver.id = true
      · rw [if_pos hnotified, newDate, Async.bind_eq, Async.succeeds_read_bind]
        refine iff_of_true ?_ ⟨hrole, driver, rfl, hnotified⟩
        exact ((returns_handleDriverAccept _ _).bind fun _ =>
          Async.returns_done_ok _).succeeds Cmd.exec _
      · rw [if_neg hnotified]
        refine iff_of_false (Async.not_succeeds_throw _) ?_
        rintro ⟨-, driver', hdriver, h⟩
        obtain rfl := Option.some.inj hdriver
        exact hnotified h
  · rw [if_pos hrole]
    exact iff_of_false (Async.not_succeeds_throw _) fun h => hrole h.1

/-- The checks of the two cases in which the assigned driver acts. -/
theorem assigned_succeeds_iff {α : Type} {e e' : Error} {g : Prog α} (hg : g.Returns) :
    (if role ≠ .driver then Async.throw e
      else (TripRepository.findDriverByUserId userId).bind fun driver =>
        if driver.isNone ∨ trip.driverId ≠ driver then Async.throw e'
        else g : Prog α).Succeeds Cmd.exec s ↔ role = .driver ∧
      ∃ driver, (s.drivers.findFirst fun d => decide (d.userId = userId)) = some driver ∧
        trip.driverId = some driver.id := by
  by_cases hrole : role = .driver
  · rw [if_neg (not_not.mpr hrole), TripRepository.findDriverByUserId, Async.succeeds_query_bind]
    cases s.drivers.findFirst fun d => decide (d.userId = userId) with
    | none => simp
    | some driver =>
      by_cases hassigned : trip.driverId = some driver.id
      · rw [if_neg (by simp [hassigned])]
        exact iff_of_true (hg.succeeds _ _) ⟨hrole, driver, rfl, hassigned⟩
      · have hother : trip.driverId ≠ (some driver).map Driver.id := hassigned
        rw [if_pos (Or.inr hother)]
        refine iff_of_false (Async.not_succeeds_throw _) ?_
        rintro ⟨-, driver', hdriver, h⟩
        obtain rfl := Option.some.inj hdriver
        exact hassigned h
  · rw [if_pos hrole]
    exact iff_of_false (Async.not_succeeds_throw _) fun h => hrole h.1

theorem statusCase_succeeds_iff {dto : UpdateTripStatusDto} :
    (statusCase trip userId role dto).Succeeds Cmd.exec s ↔
      Permits s trip userId role dto.status := by
  have hdate : ∀ data : ℕ → TripData,
      (newDate.bind fun now => .done (.ok (data now)) : Prog TripData).Returns := fun data =>
    Async.returns_read_bind.mpr fun _ => Async.returns_done_ok _
  unfold statusCase
  cases dto.status with
  | accepted => exact acceptCase_succeeds_iff
  | driverArriving => exact assigned_succeeds_iff (hdate _)
  | inProgress => exact assigned_succeeds_iff (hdate _)
  | completed => exact assigned_succeeds_iff (hdate _)
  | cancelledByDriver => exact assigned_succeeds_iff (hdate _)
  | cancelledByClient =>
    simp only [cancelByClientCase]
    by_cases hclient : role ≠ .client ∧ userId ≠ trip.clientId
    · rw [if_pos hclient]
      refine iff_of_false (Async.not_succeeds_throw _) ?_
      rintro (h | h)
      · exact hclient.1 h
      · exact hclient.2 h
    · rw [if_neg hclient]
      have hpermits : role = .client ∨ userId = trip.clientId := by
        rw [not_and_or, not_not, not_not] at hclient
        exact hclient
      refine iff_of_true (Async.Returns.succeeds ?_ _ _) hpermits
      refine Async.returns_read_bind.mpr fun _ => ?_
      exact (returns_withdrawOffers _ _).bind fun _ => Async.returns_done_ok _
  | cancelledAuto =>
    refine iff_of_true (Async.Returns.succeeds ?_ _ _) trivial
    refine Async.returns_read_bind.mpr fun _ => ?_
    exact (returns_withdrawOffers _ _).bind fun _ => Async.returns_done_ok _
  | pending => exact iff_of_true (Async.succeeds_done_ok _) trivial

/-! ### `updateStatus` -/

/-- The run of what follows `getTrip`. -/
theorem run_getTrip_bind {α : Type} {tripId : ℕ} (htrip : s.trips.find? tripId = some trip)
    (g : Trip → Prog α) :
    ((getTrip tripId).bind g).run Cmd.exec s =
      ((g trip).run Cmd.exec s).after [.findTrip tripId, .findTripCoordinates tripId] := by
  unfold getTrip TripRepository.findById
  simp only [Async.bind_eq, Async.bind_assoc, Async.run_query_bind, htrip]
  rfl

theorem run_getTrip_bind_none {α : Type} {tripId : ℕ} (htrip : s.trips.find? tripId = none)
    (g : Trip → Prog α) :
    ((getTrip tripId).bind g).run Cmd.exec s =
      ⟨.error (.notFound "Course introuvable"), s, [.findTrip tripId]⟩ := by
  unfold getTrip TripRepository.findById
  simp only [Async.bind_eq, Async.bind_assoc, Async.run_query_bind, htrip]
  rfl

theorem getTrip_bind_succeeds_iff {α : Type} {tripId : ℕ} {g : Trip → Prog α} :
    ((getTrip tripId).bind g).Succeeds Cmd.exec s ↔
      ∃ trip, s.trips.find? tripId = some trip ∧ (g trip).Succeeds Cmd.exec s := by
  cases htrip : s.trips.find? tripId with
  | none =>
    rw [Async.Succeeds, run_getTrip_bind_none htrip]
    simp
  | some trip =>
    rw [Async.Succeeds, run_getTrip_bind htrip]
    simp [Async.Succeeds]

theorem returns_reportStatus (updated : Trip) (userId : ℕ) (status : TripStatus)
    (cancelReason : Option String) :
    (reportStatus (some updated) userId status cancelReason).Returns := by
  have hevent : (emitStatusEvent updated userId cancelReason).Returns := by
    unfold emitStatusEvent
    split
    · exact Async.returns_emit _
    · exact Async.returns_done_ok ()
  refine hevent.bind fun _ => Async.Returns.bind ?_ fun _ => Async.returns_done_ok _
  unfold broadcastStatusEvent
  split
  · exact Async.returns_done_ok ()
  · refine Async.returns_emit_bind.mpr fun _ => ?_
    refine Async.returns_emit_bind.mpr fun _ => ?_
    refine (Async.Returns.forEach fun d => Async.returns_emit _).bind fun _ => ?_
    exact Async.returns_emit _

/-- The write of an existing row, the second read and the report. -/
theorem write_succeeds {tripId : ℕ} (htrip : s.trips.find? tripId = some trip) (data : TripData)
    (status : TripStatus) (cancelReason : Option String) :
    ((TripRepository.updateStatus tripId data).bind fun updated =>
      reportStatus updated userId status cancelReason).Succeeds Cmd.exec s := by
  have hfind : ((Cmd.updateTrip tripId data).exec s).trips.find? tripId =
      some (data.apply s.now trip) := by
    rw [Store.find?_updateTrip, htrip, Option.map_some, if_pos rfl]
  unfold TripRepository.updateStatus TripRepository.update TripRepository.findById
  simp only [Async.bind_eq, Async.bind_assoc, Async.succeeds_queryE_bind, htrip, Option.map_some,
    orNotFound, Option.elim_some, Async.done_ok_bind, Async.succeeds_query_bind, hfind,
    Async.succeeds_perform_bind]
  exact (returns_reportStatus _ _ _ _).succeeds _ _

/-! ### `updateStatus` -/

/-- `updateStatus` succeeds exactly when the trip exists, the table has the transition and the switch
permits it. -/
theorem updateStatus_succeeds_iff {tripId : ℕ} {dto : UpdateTripStatusDto} :
    (updateStatus tripId userId role dto).Succeeds Cmd.exec s ↔
      ∃ trip, s.trips.find? tripId = some trip ∧ canTransition trip.status dto.status = true ∧
        Permits s trip userId role dto.status := by
  unfold updateStatus
  rw [Async.bind_eq, getTrip_bind_succeeds_iff]
  refine exists_congr fun trip => and_congr_right fun htrip => ?_
  by_cases hcan : canTransition trip.status dto.status = true
  · rw [if_pos hcan, Async.bind_eq, Async.succeeds_bind_iff, ← statusCase_succeeds_iff]
    constructor
    · rintro ⟨data, hdata, -⟩
      exact ⟨hcan, data, hdata⟩
    · rintro ⟨-, data, hdata⟩
      refine ⟨data, hdata, ?_⟩
      -- the switch leaves the trips
      have hsame : ((statusCase trip userId role dto).run Cmd.exec s).store.trips = s.trips :=
        (onlyOffers_statusCase trip userId role dto).run_store
          (I := fun t => t.trips = s.trips) Cmd.exec
          (fun c t hc ht => (Cmd.exec_trips (Cmd.keepsTrips_of_touchesOffers hc)).trans ht) rfl
      exact write_succeeds (hsame ▸ htrip) data dto.status dto.cancelReason
  · rw [if_neg hcan]
    exact iff_of_false (Async.not_succeeds_throw _) fun h => hcan h.1

end Succeeds

end TripsService

namespace DispatchRecoveryService

theorem onlyRedispatches_redispatch (env : DispatchEnv) (trip : Trip) :
    OnlyRedispatches trip.id (redispatch env trip) := by
  refine (onlyRedispatches_releaseLocksForTrip trip.id).bind fun _ => ?_
  refine Async.only_query_bind.mpr ⟨decide_eq_true rfl, fun s => ?_⟩
  split
  · exact onlyRedispatches_emitDispatchFailed _ _
  · exact onlyRedispatches_attemptDispatch _ _ _ _ _

/-- A turn of the recovery searches for its trip, or gives it up. -/
theorem onlyRedispatches_recoverTrip (env : DispatchEnv) (quiet : Bool) (now : ℕ) (trip : Trip) :
    OnlyRedispatches trip.id (recoverTrip env quiet now trip) := by
  unfold recoverTrip
  by_cases hyoung : quiet = true ∧ now < trip.createdAt + redispatchMinAgeMs
  · rw [if_pos hyoung]
    trivial
  · rw [if_neg hyoung]
    refine Async.Only.tryCatch ?_ fun _ => trivial
    by_cases hold : trip.createdAt + redispatchMaxAgeMs < now
    · rw [if_pos hold]
      exact onlyRedispatches_emitDispatchFailed _ _
    · rw [if_neg hold]
      exact onlyRedispatches_redispatch env trip

end DispatchRecoveryService

end Telima
