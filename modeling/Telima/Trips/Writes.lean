import Telima.Trips.Completeness

/-!
# What the calls write of a trip

A command makes of a row what `Cmd.Rewrites` says, and `insertTrip` adds one.  `createTrip` alone
inserts, and every other call of the lifecycle only edits (`Cmd.Edits`): it sets the columns of a
status, of a payment or of a commission.
-/

namespace Telima

open TripsService DispatchService

/-! ### What a command makes of a row -/

/-- What the command makes of the row. -/
inductive Cmd.Rewrites (c : Cmd) (now : ℕ) (trip : Trip) : Trip → Prop where
  | kept : c.Rewrites now trip trip
  | updated (data : TripData)
    (h : c = .updateTrip trip.id data ∨ c = .updateTripIfPending trip.id data) :
    c.Rewrites now trip (data.apply now trip)
  | charged (commissionAmount : ℤ) : c.Rewrites now trip (trip.charge commissionAmount now)

namespace Store

variable {s : Store} {tripId : ℕ} {trip : Trip}

/-- A row stays, as it is or rewritten. -/
theorem exists_rewrites (c : Cmd) (htrip : s.trips.find? tripId = some trip) :
    ∃ trip', (c.exec s).trips.find? tripId = some trip' ∧ c.Rewrites s.now trip trip' := by
  have hid : trip.id = tripId := Table.key_of_find? htrip
  have hmap : ∀ {t : Store} {f : Trip → Trip},
      t.trips.find? tripId = (s.trips.find? tripId).map f → c.Rewrites s.now trip (f trip) →
        ∃ trip', t.trips.find? tripId = some trip' ∧ c.Rewrites s.now trip trip' := by
    intro t f ht hf
    rw [htrip, Option.map_some] at ht
    exact ⟨f trip, ht, hf⟩
  cases c with
  | insertTrip data => exact ⟨trip, find?_insertTrip_of_some htrip, .kept⟩
  | updateTrip id data =>
    apply hmap find?_updateTrip
    split_ifs with h
    · exact .updated data (Or.inl (by rw [hid, h]))
    · exact .kept
  | updateTripIfPending id data =>
    apply hmap find?_updateTripIfPending
    split_ifs with h
    · have hrow : trip.id = id := of_decide_eq_true (Bool.and_eq_true_iff.mp h).1
      exact .updated data (Or.inr (by rw [hrow]))
    · exact .kept
  | chargeCommission id driverId commissionAmount finalPrice =>
    apply hmap find?_chargeCommission
    split_ifs
    · exact .charged commissionAmount
    · exact .kept
  | _ => exact ⟨trip, htrip, .kept⟩

/-- A row comes from a row, or is inserted. -/
theorem rewrites_or_row (c : Cmd) {trip' : Trip}
    (htrip' : (c.exec s).trips.find? tripId = some trip') :
    (∃ trip, s.trips.find? tripId = some trip ∧ c.Rewrites s.now trip trip') ∨
      ∃ data, c = .insertTrip data ∧ s.trips.freshKey = tripId ∧ trip' = data.row tripId s.now := by
  cases htrip : s.trips.find? tripId with
  | some trip =>
    obtain ⟨row, hrow, hrewrites⟩ := exists_rewrites c htrip
    obtain rfl : row = trip' := Option.some.inj (hrow.symm.trans htrip')
    exact Or.inl ⟨trip, rfl, hrewrites⟩
  | none =>
    right
    cases c with
    | insertTrip data =>
      rw [find?_insertTrip, htrip, Option.none_or] at htrip'
      split_ifs at htrip' with hfresh
      exact ⟨data, rfl, hfresh.2, (Option.some.inj htrip').symm⟩
    | updateTrip id data =>
      rw [find?_updateTrip, htrip] at htrip'
      cases htrip'
    | updateTripIfPending id data =>
      rw [find?_updateTripIfPending, htrip] at htrip'
      cases htrip'
    | chargeCommission id driverId commissionAmount finalPrice =>
      rw [find?_chargeCommission, htrip] at htrip'
      cases htrip'
    | _ =>
      have hnone : none = some trip' := htrip.symm.trans htrip'
      cases hnone

end Store

/-! ### The calls that edit -/

/-- The update is not the client's word on his delivery. -/
structure TripData.LeavesDelivery (data : TripData) : Prop where
  confirmed : data.deliveryConfirmedAt = none
  reported : data.deliveryIssueReported = none

/-- The command neither inserts a trip nor writes what the client says of his delivery. -/
def Cmd.Edits : Cmd → Prop
  | .insertTrip _ => False
  | .updateTrip _ data | .updateTripIfPending _ data => data.LeavesDelivery
  | _ => True

theorem Cmd.edits_of_keepsTrips {c : Cmd} (h : c.keepsTrips = true) : c.Edits := by
  cases c <;> trivial

/-- The program neither inserts a trip nor writes what the client says of his delivery. -/
abbrev OnlyEdits {α : Type} (p : Prog α) : Prop := p.Only Cmd.Edits

namespace TripsService

variable {tripId : ℕ}

theorem onlyEdits_of_keepsTrips {α : Type} {p : Prog α} (hp : p.Only fun c => c.keepsTrips = true) :
    OnlyEdits p := hp.mono fun _ hc => Cmd.edits_of_keepsTrips hc

theorem onlyEdits_update {data : TripData} (hdata : data.LeavesDelivery) :
    OnlyEdits (TripRepository.update tripId data) := Async.only_queryE.mpr hdata

theorem onlyEdits_getTrip : OnlyEdits (getTrip tripId) :=
  onlyEdits_of_keepsTrips (Completeness.keepsTrips_getTrip tripId)

/-- The columns the switch returns are those of its status. -/
theorem leavesDelivery_statusCase (trip : Trip) (userId : ℕ) (role : UserRole)
    (dto : UpdateTripStatusDto) : (statusCase trip userId role dto).Yields TripData.LeavesDelivery := by
  have hadvance : ∀ status,
      (advanceCase trip userId role status).Yields TripData.LeavesDelivery := by
    intro status
    unfold advanceCase
    split_ifs
    · trivial
    · refine Async.Yields.bind _ fun driver => ?_
      split_ifs
      · trivial
      · refine Async.Yields.bind _ fun now => ?_
        cases status <;> exact ⟨rfl, rfl⟩
  unfold statusCase
  cases dto.status with
  | accepted =>
    simp only [acceptCase]
    split_ifs
    · trivial
    · refine Async.Yields.bind _ fun driver => ?_
      cases driver with
      | none => trivial
      | some driverId =>
        refine Async.Yields.bind _ fun hasActiveAttempt => ?_
        split_ifs
        · exact Async.Yields.bind _ fun _ => Async.Yields.bind _ fun _ => ⟨rfl, rfl⟩
        · trivial
  | driverArriving => exact hadvance _
  | inProgress => exact hadvance _
  | completed => exact hadvance _
  | cancelledByClient =>
    simp only [cancelByClientCase]
    split_ifs
    · trivial
    · exact Async.Yields.bind _ fun _ => Async.Yields.bind _ fun _ => ⟨rfl, rfl⟩
  | cancelledByDriver =>
    simp only [cancelByDriverCase]
    split_ifs
    · trivial
    · refine Async.Yields.bind _ fun driver => ?_
      split_ifs
      · trivial
      · exact Async.Yields.bind _ fun _ => ⟨rfl, rfl⟩
  | cancelledAuto => exact Async.Yields.bind _ fun _ => Async.Yields.bind _ fun _ => ⟨rfl, rfl⟩
  | pending => exact ⟨rfl, rfl⟩

theorem onlyEdits_updateStatus (userId : ℕ) (role : UserRole) (dto : UpdateTripStatusDto) :
    OnlyEdits (TripsService.updateStatus tripId userId role dto) := by
  refine onlyEdits_getTrip.bind fun trip => ?_
  split_ifs
  · have hcase : OnlyEdits (statusCase trip userId role dto) :=
      onlyEdits_of_keepsTrips ((onlyOffers_statusCase trip userId role dto).mono fun _ hc =>
        Cmd.keepsTrips_of_touchesOffers hc)
    refine hcase.bind_yields (leavesDelivery_statusCase trip userId role dto) fun data hdata => ?_
    refine Async.Only.bind ?_ fun updated =>
      onlyEdits_of_keepsTrips (Completeness.keepsTrips_reportStatus _ _ _ _)
    exact (onlyEdits_update hdata).bind fun _ =>
      onlyEdits_of_keepsTrips (Completeness.keepsTrips_findById tripId)
  · trivial

theorem onlyEdits_completeTrip (userId : ℕ) (role : UserRole) (dto : PaymentReceivedDto) :
    OnlyEdits (TripsService.completeTrip tripId userId role dto) := by
  unfold TripsService.completeTrip
  split_ifs
  · trivial
  · refine onlyEdits_getTrip.bind fun trip => ?_
    refine Async.only_query_bind.mpr ⟨trivial, fun s => ?_⟩
    split_ifs
    · trivial
    · trivial
    · refine Async.only_read_bind.mpr ⟨trivial, fun s => ?_⟩
      refine Async.Only.bind (onlyEdits_update ⟨rfl, rfl⟩) fun _ => ?_
      exact onlyEdits_getTrip.bind fun _ =>
        onlyEdits_of_keepsTrips (Completeness.keepsTrips_reportStatus _ _ _ _)
    · trivial

theorem onlyEdits_confirmPaymentReceived (userId : ℕ) (role : UserRole) (dto : PaymentReceivedDto) :
    OnlyEdits (TripsService.confirmPaymentReceived tripId userId role dto) := by
  unfold TripsService.confirmPaymentReceived
  split_ifs
  · trivial
  · refine onlyEdits_getTrip.bind fun trip => ?_
    refine Async.only_query_bind.mpr ⟨trivial, fun s => ?_⟩
    split_ifs
    · trivial
    · trivial
    · exact Async.only_read_bind.mpr ⟨trivial, fun s => onlyEdits_update ⟨rfl, rfl⟩⟩

theorem onlyEdits_handleDriverAssigned (geo : GeoEnv) (driverId : ℕ) :
    OnlyEdits (handleDriverAssigned geo tripId driverId) := by
  unfold handleDriverAssigned TripRepository.assignDriver
  refine Async.Only.bind (Async.only_read_bind.mpr ⟨trivial, fun s => onlyEdits_update ⟨rfl, rfl⟩⟩)
    fun trip => ?_
  refine onlyEdits_of_keepsTrips (Async.Only.bind ?_ fun _ => Async.only_emit.mpr rfl)
  exact (onlyReports_broadcastAccepted geo trip driverId).mono fun _ hc =>
    Cmd.keepsTrips_of_reports hc

theorem onlyEdits_handleDispatchFailed (reason : String) :
    OnlyEdits (handleDispatchFailed tripId reason) := by
  unfold handleDispatchFailed TripRepository.updateStatusIfPending
  refine Async.Only.bind (Async.only_read_bind.mpr ⟨trivial, fun s => ?_⟩) fun _ => ?_
  · exact Async.only_perform.mpr ⟨rfl, rfl⟩
  · refine onlyEdits_of_keepsTrips ((Completeness.keepsTrips_findById tripId).bind fun trip => ?_)
    split
    · exact Async.only_emit.mpr rfl
    · trivial

theorem onlyEdits_sweepStaleAssigned : OnlyEdits DispatchRecoveryService.sweepStaleAssigned := by
  refine Async.only_read_bind.mpr ⟨trivial, fun s => ?_⟩
  refine Async.Only.bind (Async.Only.tryCatch (Async.only_query.mpr trivial) fun _ => trivial)
    fun stale => Async.Only.forEach fun trip _ => ?_
  refine Async.Only.tryCatch ?_ fun _ => trivial
  refine Async.Only.bind (onlyEdits_update ⟨rfl, rfl⟩) fun updated => ?_
  refine onlyEdits_of_keepsTrips (Async.Only.bind ?_ fun _ => ?_)
  · exact (onlyOffers_releaseLocksForTrip trip.id).mono fun _ hc =>
      Cmd.keepsTrips_of_touchesOffers hc
  · split
    · exact Async.only_emit.mpr rfl
    · trivial

theorem onlyEdits_handleTripCompleted (tripId : ℕ) :
    OnlyEdits (CommissionsService.handleTripCompleted tripId) :=
  CommissionsService.only_handleTripCompleted trivial fun _ _ _ _ => trivial

end TripsService

open TripsService

/-- The call orders a trip. -/
def LifecycleCall.isOrder : LifecycleCall → Bool
  | createTrip _ _ => true
  | _ => false

/-- A call that orders no trip only edits. -/
theorem onlyEdits_program (env : Env) (pricing : PricingEnv) {call : LifecycleCall}
    (hcall : call.isOrder = false) : OnlyEdits (call.program env pricing) := by
  have has : ∀ {α : Type} {p : Prog α}, OnlyEdits p → OnlyEdits (p.as ()) := fun hp =>
    hp.bind fun _ => trivial
  cases call with
  | createTrip clientId dto => cases hcall
  | confirmPaymentReceived tripId userId role dto =>
    exact has (onlyEdits_confirmPaymentReceived userId role dto)
  | trip call =>
    cases call with
    | updateStatus tripId userId role dto => exact has (onlyEdits_updateStatus userId role dto)
    | completeTrip tripId userId role dto => exact has (onlyEdits_completeTrip userId role dto)
    | driverAssigned tripId driverId => exact onlyEdits_handleDriverAssigned env.geo driverId
    | dispatchFailed tripId reason => exact onlyEdits_handleDispatchFailed reason
    | sweep => exact onlyEdits_sweepStaleAssigned
    | wait ms => exact Async.only_perform.mpr trivial

/-- Whatever a call does, it inserts trips or edits. -/
theorem only_program (env : Env) (pricing : PricingEnv) (call : LifecycleCall) :
    (call.program env pricing).Only fun c => c.Edits ∨ ∃ data, c = .insertTrip data := by
  cases hcall : call.isOrder with
  | false => exact (onlyEdits_program env pricing hcall).mono fun _ hc => Or.inl hc
  | true =>
    cases call with
    | createTrip clientId dto =>
      refine Async.Only.bind ?_ fun _ => trivial
      exact only_createTrip pricing clientId dto (Or.inl trivial) (fun data => Or.inr ⟨data, rfl⟩)
        (fun _ => Or.inl trivial) (fun _ => onlyEdits_getTrip.mono fun _ hc => Or.inl hc)
        fun _ => Or.inl trivial
    | _ => cases hcall

theorem onlyEdits_handlers {env : Env} {c : Cmd} {p : Prog Unit}
    (hp : p ∈ (system env ()).handlers c) : OnlyEdits p := by
  have has : ∀ {q : Prog Unit}, OnlyEdits q → OnlyEdits (q.as ()) := fun hq =>
    hq.bind fun _ => trivial
  cases c with
  | emit event =>
    cases event with
    | tripCreated tripId pickup serviceType vehicleTypeId =>
      obtain rfl := List.mem_singleton.mp hp
      refine has (onlyEdits_of_keepsTrips ?_)
      exact (onlyRedispatches_attemptDispatch _ _ _ _ _).searches.mono fun _ hc =>
        Cmd.keepsTrips_of_searches hc
    | tripCompleted tripId driverId clientId finalPrice =>
      obtain rfl := List.mem_singleton.mp hp
      exact has (onlyEdits_handleTripCompleted tripId)
    | driverAssigned tripId driverId =>
      obtain rfl := List.mem_singleton.mp hp
      exact has (onlyEdits_handleDriverAssigned env.geo driverId)
    | dispatchFailed tripId reason =>
      obtain rfl := List.mem_singleton.mp hp
      exact has (onlyEdits_handleDispatchFailed reason)
    | _ => cases hp
  | _ => cases hp

end Telima
