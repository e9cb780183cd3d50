import Telima.System
import Telima.Trips.Transitions

/-!
# The columns of a trip in any interleaving

A status is written on a row that was read several awaits before, and may even fall back; what the
row of a status must hold (`Trip.Complete`) survives because no command clears a column
(`Trip.Grows`).  A call that read a trip in some status therefore finds, whatever has happened since,
a row in which everything that status implied is still set.
-/

namespace Telima

open TripsService DispatchService

/-- The row has the columns its status implies, and a price. -/
structure Trip.Complete (trip : Trip) : Prop where
  accepted : trip.status ∈ [.accepted, .driverArriving, .inProgress, .completed] →
    trip.driverId.isSome = true ∧ trip.acceptedAt.isSome = true
  arrived : trip.status ∈ [.driverArriving, .inProgress, .completed] →
    trip.driverArrivedAt.isSome = true
  started : trip.status ∈ [.inProgress, .completed] → trip.startedAt.isSome = true
  completed : trip.status = .completed →
    trip.completedAt.isSome = true ∧ trip.finalPrice = trip.estimatedPrice
  priced : trip.estimatedPrice.isSome = true

/-- A later row of the same trip: what was set is set, and the estimated price is the same. -/
structure Trip.Grows (trip trip' : Trip) : Prop where
  driverId : trip.driverId.isSome = true → trip'.driverId.isSome = true
  acceptedAt : trip.acceptedAt.isSome = true → trip'.acceptedAt.isSome = true
  driverArrivedAt : trip.driverArrivedAt.isSome = true → trip'.driverArrivedAt.isSome = true
  startedAt : trip.startedAt.isSome = true → trip'.startedAt.isSome = true
  completedAt : trip.completedAt.isSome = true → trip'.completedAt.isSome = true
  estimatedPrice : trip'.estimatedPrice = trip.estimatedPrice

namespace Trip

variable {trip trip' trip'' : Trip}

theorem Grows.refl (trip : Trip) : trip.Grows trip :=
  ⟨fun h => h, fun h => h, fun h => h, fun h => h, fun h => h, rfl⟩

theorem Grows.trans (h : trip.Grows trip') (h' : trip'.Grows trip'') : trip.Grows trip'' where
  driverId := fun hset => h'.driverId (h.driverId hset)
  acceptedAt := fun hset => h'.acceptedAt (h.acceptedAt hset)
  driverArrivedAt := fun hset => h'.driverArrivedAt (h.driverArrivedAt hset)
  startedAt := fun hset => h'.startedAt (h.startedAt hset)
  completedAt := fun hset => h'.completedAt (h.completedAt hset)
  estimatedPrice := h'.estimatedPrice.trans h.estimatedPrice

/-- An update clears no column. -/
theorem grows_apply (data : TripData) (now : ℕ) (trip : Trip) : trip.Grows (data.apply now trip) := by
  have hor : ∀ {α : Type} (a b : Option α), b.isSome = true → (a.or b).isSome = true := by
    intro α a b hb
    cases a with
    | none => exact hb
    | some a => rfl
  exact ⟨hor _ _, hor _ _, hor _ _, hor _ _, hor _ _, rfl⟩

theorem grows_charge (commissionAmount : ℤ) (now : ℕ) (trip : Trip) :
    trip.Grows (trip.charge commissionAmount now) :=
  ⟨fun h => h, fun h => h, fun h => h, fun h => h, fun h => h, rfl⟩

theorem complete_charge {commissionAmount : ℤ} {now : ℕ} (h : trip.Complete) :
    (trip.charge commissionAmount now).Complete :=
  ⟨h.accepted, h.arrived, h.started, h.completed, h.priced⟩

theorem complete_row (data : CreateTripData) (id now : ℕ) : (data.row id now).Complete := by
  constructor <;> simp [CreateTripData.row]

end Trip

namespace Store

variable {s : Store} {tripId : ℕ} {trip : Trip}

/-- No command removes a trip or clears one of its columns. -/
theorem exists_grows_exec (c : Cmd) (htrip : s.trips.find? tripId = some trip) :
    ∃ trip', (c.exec s).trips.find? tripId = some trip' ∧ trip.Grows trip' := by
  have hmap : ∀ {t : Store} {f : Trip → Trip}, t.trips.find? tripId = (s.trips.find? tripId).map f →
      trip.Grows (f trip) → ∃ trip', t.trips.find? tripId = some trip' ∧ trip.Grows trip' := by
    intro t f ht hf
    rw [htrip, Option.map_some] at ht
    exact ⟨f trip, ht, hf⟩
  cases c with
  | insertTrip data => exact ⟨trip, find?_insertTrip_of_some htrip, .refl trip⟩
  | updateTrip id data =>
    apply hmap find?_updateTrip
    split_ifs
    · exact Trip.grows_apply data s.now trip
    · exact .refl trip
  | updateTripIfPending id data =>
    apply hmap find?_updateTripIfPending
    split_ifs
    · exact Trip.grows_apply data s.now trip
    · exact .refl trip
  | chargeCommission id driverId commissionAmount finalPrice =>
    apply hmap find?_chargeCommission
    split_ifs
    · exact Trip.grows_charge commissionAmount s.now trip
    · exact .refl trip
  | _ => exact ⟨trip, htrip, .refl trip⟩

/-- Every trip is complete. -/
def Complete (s : Store) : Prop := ∀ tripId trip, s.trips.find? tripId = some trip → trip.Complete

theorem complete_iff : s.Complete ↔ ∀ trip ∈ s.trips.rows, trip.Complete := by
  constructor
  · intro h trip htrip
    exact h trip.id trip (Table.find?_of_mem htrip)
  · intro h tripId trip htrip
    exact h trip (Table.mem_of_find? htrip)

end Store

/-- A call that writes a trip, or the passing of time. -/
inductive LifecycleCall where
  | createTrip (clientId : ℕ) (dto : CreateTripDto)
  | confirmPaymentReceived (tripId userId : ℕ) (role : UserRole) (dto : PaymentReceivedDto)
  | trip (call : TripCall)

def LifecycleCall.program (env : Env) (pricing : PricingEnv) : LifecycleCall → Prog Unit
  | createTrip clientId dto => (TripsService.createTrip pricing clientId dto).as ()
  | confirmPaymentReceived tripId userId role dto =>
    (TripsService.confirmPaymentReceived tripId userId role dto).as ()
  | trip call => call.program env

namespace Completeness

/-- The update leaves a complete row complete, if the row has grown out of `trip`. -/
def Fits (trip : Trip) (data : TripData) : Prop :=
  ∀ row now, trip.Grows row → row.Complete → (data.apply now row).Complete

/-- What the code promises of the rows it writes. -/
def Guards (w : World Store Cmd) : Cmd → Prop
  | .updateTrip tripId data => ∀ row, w.store.trips.find? tripId = some row →
    (data.apply w.store.now row).Complete
  | .updateTripIfPending _ data => ∀ row : Trip, row.Complete →
    (data.apply w.store.now row).Complete
  | _ => True

theorem guards_of_keepsTrips {w : World Store Cmd} {c : Cmd} (h : c.keepsTrips = true) :
    Guards w c := by
  cases c <;> trivial

/-- A guarded command leaves every trip complete. -/
theorem complete_exec {w : World Store Cmd} {c : Cmd} (hs : w.store.Complete) (hguards : Guards w c) :
    (c.exec w.store).Complete := by
  intro tripId trip' htrip'
  have hmap : ∀ {f : Trip → Trip},
      (c.exec w.store).trips.find? tripId = (w.store.trips.find? tripId).map f →
      (∀ trip, w.store.trips.find? tripId = some trip → (f trip).Complete) → trip'.Complete := by
    intro f ht hf
    rw [ht] at htrip'
    obtain ⟨trip, htrip, rfl⟩ := Option.map_eq_some_iff.mp htrip'
    exact hf trip htrip
  cases c with
  | insertTrip data =>
    rw [Store.find?_insertTrip] at htrip'
    cases htrip : w.store.trips.find? tripId with
    | some trip =>
      rw [htrip, Option.some_or] at htrip'
      obtain rfl := Option.some.inj htrip'
      exact hs tripId trip htrip
    | none =>
      rw [htrip, Option.none_or] at htrip'
      split_ifs at htrip'
      obtain rfl := Option.some.inj htrip'
      exact Trip.complete_row data tripId w.store.now
  | updateTrip id data =>
    refine hmap Store.find?_updateTrip fun trip htrip => ?_
    split_ifs with hid
    · subst hid
      exact hguards trip htrip
    · exact hs tripId trip htrip
  | updateTripIfPending id data =>
    refine hmap Store.find?_updateTripIfPending fun trip htrip => ?_
    split_ifs
    · exact hguards trip (hs tripId trip htrip)
    · exact hs tripId trip htrip
  | chargeCommission id driverId commissionAmount finalPrice =>
    refine hmap Store.find?_chargeCommission fun trip htrip => ?_
    split_ifs
    · exact Trip.complete_charge (hs tripId trip htrip)
    · exact hs tripId trip htrip
  | _ => exact hs tripId trip' htrip'

/-! ### The columns the calls write -/

variable {trip : Trip} {data : TripData}

/-- An update that gives a trip to a driver. -/
theorem fits_of_accepted (hstatus : data.status = some .accepted)
    (hdriver : data.driverId.isSome = true) (haccepted : data.acceptedAt.isSome = true) :
    Fits trip data := by
  intro row now _ hrow
  have happly : (data.apply now row).status = .accepted := by
    simp [TripData.apply, hstatus]
  constructor
  · intro _
    constructor
    · simp [TripData.apply, hdriver]
    · simp [TripData.apply, haccepted]
  · intro h
    simp [happly] at h
  · intro h
    simp [happly] at h
  · intro h
    rw [happly] at h
    cases h
  · exact hrow.priced

/-- A cancellation. -/
theorem fits_of_isCancelled {status : TripStatus} (hstatus : data.status = some status)
    (hcancel : isCancelled status = true) : Fits trip data := by
  intro row now _ hrow
  have happly : (data.apply now row).status = status := by
    simp [TripData.apply, hstatus]
  constructor
  · intro h
    rw [happly] at h
    cases status <;> simp_all [isCancelled]
  · intro h
    rw [happly] at h
    cases status <;> simp_all [isCancelled]
  · intro h
    rw [happly] at h
    cases status <;> simp_all [isCancelled]
  · intro h
    rw [happly] at h
    subst h
    cases hcancel
  · exact hrow.priced

/-- The driver advances a trip it has read in the status before. -/
theorem fits_driverArriving (htrip : trip.Complete) (hstatus : trip.status = .accepted) (t : ℕ) :
    Fits trip { status := some .driverArriving, driverArrivedAt := some t } := by
  intro row now hgrows hrow
  obtain ⟨hdriver, haccepted⟩ := htrip.accepted (by simp [hstatus])
  constructor
  · intro _
    exact ⟨hgrows.driverId hdriver, hgrows.acceptedAt haccepted⟩
  · intro _
    rfl
  · intro h
    simp [TripData.apply] at h
  · intro h
    cases h
  · exact hrow.priced

theorem fits_inProgress (htrip : trip.Complete) (hstatus : trip.status = .driverArriving) (t : ℕ) :
    Fits trip { status := some .inProgress, startedAt := some t } := by
  intro row now hgrows hrow
  obtain ⟨hdriver, haccepted⟩ := htrip.accepted (by simp [hstatus])
  have harrived := htrip.arrived (by simp [hstatus])
  constructor
  · intro _
    exact ⟨hgrows.driverId hdriver, hgrows.acceptedAt haccepted⟩
  · intro _
    exact hgrows.driverArrivedAt harrived
  · intro _
    rfl
  · intro h
    cases h
  · exact hrow.priced

theorem fits_completed (htrip : trip.Complete) (hstatus : trip.status = .inProgress)
    (hcompleted : data.completedAt.isSome = true)
    (hprice : data.finalPrice = some trip.estimatedPrice) : Fits trip data := by
  intro row now hgrows hrow
  obtain ⟨hdriver, haccepted⟩ := htrip.accepted (by simp [hstatus])
  have harrived := htrip.arrived (by simp [hstatus])
  have hstarted := htrip.started (by simp [hstatus])
  have hgrown := hgrows.trans (Trip.grows_apply data now row)
  constructor
  · intro _
    exact ⟨hgrown.driverId hdriver, hgrown.acceptedAt haccepted⟩
  · intro _
    exact hgrown.driverArrivedAt harrived
  · intro _
    exact hgrown.startedAt hstarted
  · intro _
    constructor
    · simp [TripData.apply, hcompleted]
    · -- the price that was read is still the price
      rw [hgrown.estimatedPrice]
      simp [TripData.apply, hprice]
  · exact hrow.priced

/-- An update of other columns. -/
theorem fits_of_payment (hstatus : data.status = none) (hprice : data.finalPrice = none) :
    Fits trip data := by
  intro row now _ hrow
  have happly : (data.apply now row).status = row.status := by
    simp [TripData.apply, hstatus]
  have hgrown := Trip.grows_apply data now row
  constructor
  · intro h
    rw [happly] at h
    exact ⟨hgrown.driverId (hrow.accepted h).1, hgrown.acceptedAt (hrow.accepted h).2⟩
  · intro h
    rw [happly] at h
    exact hgrown.driverArrivedAt (hrow.arrived h)
  · intro h
    rw [happly] at h
    exact hgrown.startedAt (hrow.started h)
  · intro h
    rw [happly] at h
    constructor
    · exact hgrown.completedAt (hrow.completed h).1
    · rw [hgrown.estimatedPrice, ← (hrow.completed h).2]
      simp [TripData.apply, hprice]
  · exact hrow.priced

theorem fits_advanceData (htrip : trip.Complete) {status : TripStatus}
    (hadvance : status = .driverArriving ∨ status = .inProgress ∨ status = .completed)
    (hcan : canTransition trip.status status = true) (t : ℕ) :
    Fits trip (advanceData trip status t) := by
  rcases hadvance with rfl | rfl | rfl
  · have hstatus : trip.status = .accepted := by
      revert hcan
      cases trip.status <;> decide
    exact fits_driverArriving htrip hstatus t
  · have hstatus : trip.status = .driverArriving := by
      revert hcan
      cases trip.status <;> decide
    exact fits_inProgress htrip hstatus t
  · exact fits_completed htrip (canTransition_completed_iff.mp hcan) rfl rfl

/-- What the switch returns fits the trip it was given. -/
theorem yields_statusCase (htrip : trip.Complete) (userId : ℕ) (role : UserRole)
    (dto : UpdateTripStatusDto) (hcan : canTransition trip.status dto.status = true) :
    (statusCase trip userId role dto).Yields (Fits trip) := by
  have hadvance : ∀ {status : TripStatus},
      status = .driverArriving ∨ status = .inProgress ∨ status = .completed →
      canTransition trip.status status = true →
        (advanceCase trip userId role status).Yields (Fits trip) := by
    intro status hstatus hcan
    unfold advanceCase
    split_ifs
    · trivial
    · refine Async.Yields.bind _ fun driver => ?_
      split_ifs
      · trivial
      · exact Async.Yields.bind _ fun now => fits_advanceData htrip hstatus hcan now
  unfold statusCase
  cases hstatus : dto.status with
  | accepted =>
    simp only [acceptCase]
    split_ifs
    · trivial
    · refine Async.Yields.bind _ fun driver => ?_
      cases driver with
      | none => trivial
      | some driverId =>
        refine Async.Yields.bind _ fun hasActiveAttempt => ?_
        split_ifs
        · refine Async.Yields.bind _ fun now => Async.Yields.bind _ fun _ => ?_
          exact fits_of_accepted rfl rfl rfl
        · trivial
  | driverArriving => exact hadvance (Or.inl rfl) (hstatus ▸ hcan)
  | inProgress => exact hadvance (Or.inr (Or.inl rfl)) (hstatus ▸ hcan)
  | completed => exact hadvance (Or.inr (Or.inr rfl)) (hstatus ▸ hcan)
  | cancelledByClient =>
    simp only [cancelByClientCase]
    split_ifs
    · trivial
    · refine Async.Yields.bind _ fun _ => Async.Yields.bind _ fun _ => ?_
      exact fits_of_isCancelled rfl rfl
  | cancelledByDriver =>
    simp only [cancelByDriverCase]
    split_ifs
    · trivial
    · refine Async.Yields.bind _ fun driver => ?_
      split_ifs
      · trivial
      · exact Async.Yields.bind _ fun _ => fits_of_isCancelled rfl rfl
  | cancelledAuto =>
    refine Async.Yields.bind _ fun _ => Async.Yields.bind _ fun _ => ?_
    exact fits_of_isCancelled rfl rfl
  | pending =>
    -- no status leads back to `pending`
    rw [hstatus] at hcan
    revert hcan
    cases trip.status <;> simp [canTransition, transitions]

/-! ### The protocol -/

/-- Every trip is complete, and every write keeps it so. -/
def protocol (env : Env) (fault : Error → Prop) : Protocol (system env ()) where
  cond _ _ _ := True
  fault := fault
  inv w := w.store.Complete
  guar _ := Guards
  inv_step := by
    intro w i c n hinv _ hguards _ _
    rw [World.store_step]
    exact complete_exec hinv hguards

section Threads

variable {env : Env} {fault : Error → Prop} {i tripId : ℕ} {w : World Store Cmd}

theorem frame_true : (protocol env fault).Frame i (fun c => c.keepsTrips = true) fun _ => True where
  stable := Protocol.stable_const i True
  performs hc _ _ _ := ⟨guards_of_keepsTrips hc, fun _ _ _ => trivial⟩

/-- The stored row has grown out of the row that was read. -/
def Grown (tripId : ℕ) (trip : Trip) (w : World Store Cmd) : Prop :=
  ∃ row, w.store.trips.find? tripId = some row ∧ trip.Grows row

theorem grown_step {j n : ℕ} {c : Cmd} (h : Grown tripId trip w) :
    Grown tripId trip (w.step (system env ()) j c n) := by
  obtain ⟨row, hrow, hgrows⟩ := h
  obtain ⟨row', hrow', hgrows'⟩ := Store.exists_grows_exec c hrow
  refine ⟨row', ?_, hgrows.trans hgrows'⟩
  rw [World.store_step]
  exact hrow'

theorem frame_grown (trip : Trip) :
    (protocol env fault).Frame i (fun c => c.keepsTrips = true) (Grown tripId trip) where
  stable := by
    rintro w _ ⟨j, c, n, -, -, -, -, -, -, -, rfl⟩ hw
    exact grown_step hw
  performs hc hw _ _ := ⟨guards_of_keepsTrips hc, fun _ _ _ => grown_step hw⟩

/-- An update that fits, and a rest that writes no trip. -/
theorem wp_update_bind {α : Type} (hdata : Fits trip data) {f : Trip → Prog α}
    (hf : ∀ trip, (f trip).Only fun c => c.keepsTrips = true) (hw : Grown tripId trip w) :
    (protocol env fault).wp i ((TripRepository.update tripId data).bind f) (fun _ _ => True) w := by
  refine Protocol.wp_queryE_bind (frame_grown trip).stable hw (fun w hw hinv _ => ?_)
    fun _ _ _ _ _ => trivial
  obtain ⟨row, hrow, hgrows⟩ := hw
  constructor
  · intro row' hrow'
    obtain rfl := Option.some.inj (hrow.symm.trans hrow')
    exact hdata row w.store.now hgrows (hinv tripId row hrow)
  · intro n _ _
    cases orNotFound ((w.store.trips.find? tripId).map (data.apply w.store.now)) with
    | error e => trivial
    | ok trip => exact frame_true.wp (hf trip) trivial

/-- What follows the read of a trip, when the trip is there. -/
theorem wp_getTrip_bind {α : Type} {f : Trip → Prog α}
    (hf : ∀ trip w, trip.Complete → Grown tripId trip w →
      (protocol env fault).wp i (f trip) (fun _ _ => True) w) :
    (protocol env fault).wp i ((getTrip tripId).bind f) (fun _ _ => True) w := by
  rw [getTrip_bind]
  refine Protocol.wp_query_bind (Protocol.stable_const i True) trivial (fun w _ hinv _ => ?_)
    fun _ _ _ _ _ => trivial
  refine ⟨trivial, fun n _ _ => ?_⟩
  cases htrip : w.store.trips.find? tripId with
  | none => trivial
  | some trip =>
    have hgrown : Grown tripId trip (w.step (system env ()) i (.findTrip tripId) n) :=
      grown_step ⟨trip, htrip, .refl trip⟩
    refine (frame_grown trip).wp_bind (Async.only_perform.mpr rfl) hgrown ?_ fun _ _ _ => trivial
    exact fun _ w hw => hf trip w (hinv tripId trip htrip) hw

theorem keepsTrips_findById (tripId : ℕ) :
    (TripRepository.findById tripId).Only fun c => c.keepsTrips = true :=
  (onlyReports_findById tripId).mono fun _ hc => Cmd.keepsTrips_of_reports hc

theorem keepsTrips_getTrip (tripId : ℕ) : (getTrip tripId).Only fun c => c.keepsTrips = true :=
  (onlyReports_getTrip tripId).mono fun _ hc => Cmd.keepsTrips_of_reports hc

theorem keepsTrips_reportStatus (updated : Option Trip) (userId : ℕ) (status : TripStatus)
    (cancelReason : Option String) :
    (reportStatus updated userId status cancelReason).Only fun c => c.keepsTrips = true := by
  refine (only_reportStatus updated userId status cancelReason).mono fun c hc => ?_
  rcases hc with hc | ⟨trip, -, finalPrice, -, rfl⟩
  · exact Cmd.keepsTrips_of_reports hc
  · rfl

theorem wp_updateStatus (userId : ℕ) (role : UserRole) (dto : UpdateTripStatusDto) :
    (protocol env fault).wp i (TripsService.updateStatus tripId userId role dto)
      (fun _ _ => True) w := by
  refine wp_getTrip_bind fun trip w htrip hw => ?_
  by_cases hcan : canTransition trip.status dto.status = true
  · rw [if_pos hcan]
    refine (frame_grown trip).wp_bind_yields
      ((onlyOffers_statusCase trip userId role dto).mono fun c hc =>
        Cmd.keepsTrips_of_touchesOffers hc)
      (yields_statusCase htrip userId role dto hcan) hw (fun data w hdata hw => ?_)
      fun _ _ _ => trivial
    unfold TripRepository.updateStatus
    rw [Async.bind_eq, Async.bind_eq, Async.bind_assoc]
    refine wp_update_bind hdata (fun _ => ?_) hw
    exact (keepsTrips_findById tripId).bind fun _ => keepsTrips_reportStatus _ _ _ _
  · rw [if_neg hcan]
    trivial

theorem wp_completeTrip (userId : ℕ) (role : UserRole) (dto : PaymentReceivedDto) :
    (protocol env fault).wp i (TripsService.completeTrip tripId userId role dto)
      (fun _ _ => True) w := by
  unfold TripsService.completeTrip
  split_ifs
  · trivial
  refine wp_getTrip_bind fun trip w htrip hw => ?_
  refine (frame_grown trip).wp_bind (Async.only_query.mpr rfl) hw (fun driver w hw => ?_)
    fun _ _ _ => trivial
  split_ifs with hdriver hstatus hcan
  · trivial
  · trivial
  · refine (frame_grown trip).wp_bind (Async.only_read.mpr rfl) hw (fun now w hw => ?_)
      fun _ _ _ => trivial
    refine wp_update_bind ?_ (fun _ => ?_) hw
    · exact fits_completed htrip (not_not.mp hstatus) rfl rfl
    · exact (keepsTrips_getTrip tripId).bind fun _ => keepsTrips_reportStatus _ _ _ _
  · trivial

theorem wp_confirmPaymentReceived (userId : ℕ) (role : UserRole) (dto : PaymentReceivedDto) :
    (protocol env fault).wp i (TripsService.confirmPaymentReceived tripId userId role dto)
      (fun _ _ => True) w := by
  unfold TripsService.confirmPaymentReceived
  split_ifs
  · trivial
  refine wp_getTrip_bind fun trip w htrip hw => ?_
  refine (frame_grown trip).wp_bind (Async.only_query.mpr rfl) hw (fun driver w hw => ?_)
    fun _ _ _ => trivial
  split_ifs
  · trivial
  · trivial
  · refine (frame_grown trip).wp_bind (Async.only_read.mpr rfl) hw (fun now w hw => ?_)
      fun _ _ _ => trivial
    rw [← Async.bind_pure (TripRepository.update tripId _)]
    exact wp_update_bind (fits_of_payment rfl rfl) (fun _ => trivial) hw

/-- The row is inserted with its price; what follows writes no trip. -/
theorem wp_createTrip (pricing : PricingEnv) (clientId : ℕ) (dto : CreateTripDto) :
    (protocol env fault).wp i (TripsService.createTrip pricing clientId dto)
      (fun _ _ => True) w := by
  unfold TripsService.createTrip
  refine Protocol.wp_queryE_bind (Protocol.stable_const i True) trivial (fun w _ _ _ => ?_)
    fun _ _ _ _ _ => trivial
  refine ⟨trivial, fun n _ _ => ?_⟩
  cases pricing.calculatePrice dto.serviceType dto.vehicleTypeId dto.pickup dto.dropoff w.store with
  | error e => trivial
  | ok priceResult =>
    refine Protocol.wp_queryE_bind (Protocol.stable_const i True) trivial (fun w _ _ _ => ?_)
      fun _ _ _ _ _ => trivial
    refine ⟨trivial, fun n _ _ => ?_⟩
    split_ifs
    · rw [Async.done_ok_bind]
      refine frame_true.wp ?_ trivial
      refine Async.Only.bind ?_ fun _ => (keepsTrips_getTrip _).bind fun trip => ?_
      · exact only_createDetails (P := fun c => c.keepsTrips = true) rfl dto.serviceType
      · exact Async.only_emit_bind.mpr ⟨rfl, fun _ => trivial⟩
    · trivial

/-- The handler of `DriverAssigned` writes the driver with the status. -/
theorem wp_handleDriverAssigned (driverId : ℕ) :
    (protocol env fault).wp i (handleDriverAssigned env.geo tripId driverId)
      (fun _ _ => True) w := by
  unfold handleDriverAssigned TripRepository.assignDriver
  rw [Async.bind_eq, Async.bind_eq, Async.bind_assoc]
  refine frame_true.wp_bind (Async.only_read.mpr rfl) trivial (fun now w _ => ?_)
    fun _ _ _ => trivial
  refine Protocol.wp_queryE_bind (Protocol.stable_const i True) trivial (fun w _ hinv _ => ?_)
    fun _ _ _ _ _ => trivial
  constructor
  · intro row hrow
    exact fits_of_accepted rfl rfl rfl row _ (.refl row) (hinv tripId row hrow)
  · intro n _ _
    cases orNotFound ((w.store.trips.find? tripId).map _) with
    | error e => trivial
    | ok trip =>
      refine frame_true.wp (Async.Only.bind ?_ fun _ => Async.only_emit.mpr rfl) trivial
      exact (onlyReports_broadcastAccepted env.geo trip driverId).mono fun c hc =>
        Cmd.keepsTrips_of_reports hc

theorem wp_handleDispatchFailed (reason : String) :
    (protocol env fault).wp i (handleDispatchFailed tripId reason) (fun _ _ => True) w := by
  unfold handleDispatchFailed TripRepository.updateStatusIfPending
  rw [Async.bind_eq, Async.bind_eq, Async.bind_assoc]
  refine frame_true.wp_bind (Async.only_read.mpr rfl) trivial (fun now w _ => ?_)
    fun _ _ _ => trivial
  refine Protocol.wp_query_bind (Protocol.stable_const i True) trivial (fun w _ _ _ => ?_)
    fun _ _ _ _ _ => trivial
  constructor
  · intro row hrow
    exact fits_of_isCancelled rfl rfl row _ (.refl row) hrow
  · intro n _ _
    refine frame_true.wp ?_ trivial
    refine (keepsTrips_findById tripId).bind fun trip => ?_
    split
    · exact Async.only_emit.mpr rfl
    · trivial

/-- One turn of the sweep's loop. -/
theorem wp_cancelStale (trip : Trip) :
    (protocol env fault).wp i (DispatchRecoveryService.cancelStale trip) (fun _ _ => True) w := by
  apply Protocol.wp_tryCatch
  refine Protocol.wp_queryE_bind (Protocol.stable_const i True) trivial (fun w _ hinv _ => ?_)
    fun _ _ _ _ _ => trivial
  constructor
  · intro row hrow
    exact fits_of_isCancelled rfl rfl row _ (.refl row) (hinv trip.id row hrow)
  · intro n _ _
    cases orNotFound ((w.store.trips.find? trip.id).map _) with
    | error e => trivial
    | ok updated =>
      refine Protocol.wp_mono ?_ (frame_true.wp (Async.Only.bind
        ((onlyOffers_releaseLocksForTrip trip.id).mono fun c hc =>
          Cmd.keepsTrips_of_touchesOffers hc) fun _ => ?_) trivial)
      · rintro (e | _) w _
        · trivial
        · trivial
      · split
        · exact Async.only_emit.mpr rfl
        · trivial

theorem wp_sweepStaleAssigned :
    (protocol env fault).wp i DispatchRecoveryService.sweepStaleAssigned (fun _ _ => True) w := by
  have hloop : ∀ (stale : List Trip) (w : World Store Cmd), (protocol env fault).wp i
      (Async.forEach DispatchRecoveryService.cancelStale stale) (fun _ _ => True) w := by
    intro stale
    induction stale with
    | nil => exact fun _ => trivial
    | cons trip stale ih =>
      intro w
      apply Protocol.wp_bind
      refine Protocol.wp_mono ?_ (wp_cancelStale trip)
      rintro (e | _) w _
      · trivial
      · exact ih w
  refine frame_true.wp_bind (Async.only_read.mpr rfl) trivial (fun now w _ => ?_)
    fun _ _ _ => trivial
  refine frame_true.wp_bind ?_ trivial (fun stale w _ => hloop stale w) fun _ _ _ => trivial
  exact Async.Only.tryCatch (Async.only_query.mpr rfl) fun _ => trivial

theorem wp_handleTripCompleted (tripId : ℕ) :
    (protocol env fault).wp i (CommissionsService.handleTripCompleted tripId)
      (fun _ _ => True) w := by
  have honly : (CommissionsService.handleTripCompleted tripId).Only fun c =>
      c.keepsTrips = true ∨ ∃ t d a p, c = .chargeCommission t d a p :=
    CommissionsService.only_handleTripCompleted (Or.inl rfl) fun _ _ _ _ =>
      Or.inr ⟨_, _, _, _, rfl⟩
  have hframe : (protocol env fault).Frame i (fun c => c.keepsTrips = true ∨
      ∃ t d a p, c = .chargeCommission t d a p) fun _ => True := by
    refine ⟨Protocol.stable_const i True, fun {c w} hc _ _ _ => ⟨?_, fun _ _ _ => trivial⟩⟩
    rcases hc with hc | ⟨t, d, a, p, rfl⟩
    · exact guards_of_keepsTrips hc
    · trivial
  exact hframe.wp honly trivial

theorem wp_program (pricing : PricingEnv) (call : LifecycleCall) :
    (protocol env fault).wp i (call.program env pricing) (fun _ _ => True) w := by
  cases call with
  | createTrip clientId dto => exact Protocol.wp_as (wp_createTrip pricing clientId dto)
  | confirmPaymentReceived tripId userId role dto =>
    exact Protocol.wp_as (wp_confirmPaymentReceived userId role dto)
  | trip call =>
    cases call with
    | updateStatus tripId userId role dto => exact Protocol.wp_as (wp_updateStatus userId role dto)
    | completeTrip tripId userId role dto => exact Protocol.wp_as (wp_completeTrip userId role dto)
    | driverAssigned tripId driverId => exact wp_handleDriverAssigned driverId
    | dispatchFailed tripId reason => exact wp_handleDispatchFailed reason
    | sweep => exact wp_sweepStaleAssigned
    | wait ms => exact frame_true.wp (Async.only_perform.mpr rfl) trivial

theorem handlersKeep : (protocol env fault).HandlersKeep fun _ _ _ => True := by
  intro c k h hk j n w _ _ _ _ _
  cases c with
  | emit event =>
    cases event with
    | tripCreated tripId pickup serviceType vehicleTypeId =>
      obtain rfl : _ = h := (List.mem_singleton.mp (List.mem_of_getElem? hk)).symm
      refine Protocol.wp_as (frame_true.wp ?_ trivial)
      exact (onlyRedispatches_attemptDispatch _ _ _ _ _).searches.mono fun c hc =>
        Cmd.keepsTrips_of_searches hc
    | tripCompleted tripId driverId clientId finalPrice =>
      obtain rfl : _ = h := (List.mem_singleton.mp (List.mem_of_getElem? hk)).symm
      exact Protocol.wp_as (wp_handleTripCompleted tripId)
    | driverAssigned tripId driverId =>
      obtain rfl : _ = h := (List.mem_singleton.mp (List.mem_of_getElem? hk)).symm
      exact Protocol.wp_as (wp_handleDriverAssigned driverId)
    | dispatchFailed tripId reason =>
      obtain rfl : _ = h := (List.mem_singleton.mp (List.mem_of_getElem? hk)).symm
      exact Protocol.wp_as (wp_handleDispatchFailed reason)
    | _ => simp [handlers, eventHandlers] at hk
  | _ => simp [handlers] at hk

theorem safe_init (pricing : PricingEnv) {s : Store} (hs : s.Complete)
    (calls : List LifecycleCall) :
    (protocol env fault).Safe (fun _ _ _ => True)
      (Pool.init s (calls.map (·.program env pricing))) := by
  refine Protocol.safe_init hs fun i t ht => ?_
  obtain ⟨call, -, rfl⟩ := List.mem_map.mp (List.mem_of_getElem? ht)
  exact wp_program pricing call

end Threads

end Completeness

/-- The rows of a run only grow. -/
theorem exists_grows_run {env : Env} {cond : ℕ → World Store Cmd → Cmd → Prop} {fault : Error → Prop}
    {p q : Pool Store Cmd Error Unit} (h : Pool.Run (system env ()) cond fault p q)
    {tripId : ℕ} {trip : Trip} (htrip : p.world.store.trips.find? tripId = some trip) :
    ∃ trip', q.world.store.trips.find? tripId = some trip' ∧ trip.Grows trip' := by
  induction h with
  | refl => exact ⟨trip, htrip, .refl trip⟩
  | tail _ hstep ih =>
    obtain ⟨row, hrow, hgrows⟩ := ih
    cases hstep with
    | reject hi hrun he ht => exact ⟨row, hrow, hgrows⟩
    | @act i t c hi hrun hc hcond =>
      obtain ⟨row', hrow', hgrows'⟩ := Store.exists_grows_exec c hrow
      refine ⟨row', ?_, hgrows.trans hgrows'⟩
      rw [Pool.advance, World.store_step]
      exact hrow'

/-- In every run, whatever fails, every stored trip has the columns its status implies, and no later
step clears one. -/
theorem trips_complete (env : Env) (pricing : PricingEnv) (s : Store)
    (hs : ∀ trip ∈ s.trips.rows, trip.Complete) (calls : List LifecycleCall)
    (fault : Error → Prop) {p : Pool Store Cmd Error Unit}
    (hp : Pool.Run (system env ()) (fun _ _ _ => True) fault
      (Pool.init s (calls.map (·.program env pricing))) p) :
    (∀ trip ∈ p.world.store.trips.rows, trip.Complete) ∧
    ∀ q, Pool.Run (system env ()) (fun _ _ _ => True) fault p q →
      ∀ trip ∈ p.world.store.trips.rows, ∃ trip' ∈ q.world.store.trips.rows,
        trip'.id = trip.id ∧ trip.Grows trip' := by
  have hsafe := (Completeness.safe_init pricing (Store.complete_iff.mpr hs) calls).run
    (fun i _ => Protocol.stable_const i True) Completeness.handlersKeep hp
  refine ⟨Store.complete_iff.mp hsafe.inv, fun q hq trip htrip => ?_⟩
  obtain ⟨trip', htrip', hgrows⟩ := exists_grows_run hq (Table.find?_of_mem htrip)
  exact ⟨trip', Table.mem_of_find? htrip', Table.key_of_find? htrip', hgrows⟩

namespace Completeness

/-- Driver 1 (user 10) carries client 20. -/
def startedStore : Store where
  drivers := .single ⟨1, 10, 0, 0⟩
  vehicleTypes := .single ⟨1, 1000⟩
  trips :=
    .single { id := 1, clientId := 20, driverId := some 1, vehicleTypeId := 1, serviceType := .ride
              status := .inProgress, pickupLocation := ⟨0, 0⟩, dropoffLocation := ⟨0, 0⟩
              estimatedPrice := some 200000, acceptedAt := some 0, driverArrivedAt := some 0
              startedAt := some 0, createdAt := 0, updatedAt := 0 }

theorem startedStore_complete : ∀ trip ∈ startedStore.trips.rows, trip.Complete := by
  intro trip htrip
  obtain rfl := List.mem_singleton.mp htrip
  constructor <;> decide

/-- Every trip costs 1500. -/
def flatPricing : PricingEnv where
  calculatePrice _ _ _ _ _ := .ok ⟨1500, 3000, 600⟩

/-- Client 21 orders a trip, and driver 1 completes the other. -/
def orderAndComplete : List LifecycleCall :=
  [.createTrip 21 { serviceType := .ride, vehicleTypeId := 1, pickup := ⟨0, 0⟩, dropoff := ⟨1, 1⟩ },
    .trip (.completeTrip 1 10 .driver ⟨2000⟩)]

end Completeness

open Completeness in
/-- When the first trip is completed and the second has just been inserted, both rows are complete,
and the first keeps its `completedAt`. -/
theorem trips_complete_ordered :
    ∃ p : Pool Store Cmd Error Unit, p.world.store.tripStatus 1 = some .completed ∧
      p.world.store.tripStatus 2 = some .pending ∧
      (∀ trip ∈ p.world.store.trips.rows, trip.Complete) ∧
      ∀ q, Pool.Run (system Env.offline ()) (fun _ _ _ => True) (fun _ => False) p q →
        ∀ trip ∈ p.world.store.trips.rows, ∃ trip' ∈ q.world.store.trips.rows,
          trip'.id = trip.id ∧ trip.Grows trip' := by
  obtain ⟨p, hp, hfirst, hsecond⟩ := Pool.exists_run_of_schedule? (system Env.offline ())
    (fun _ _ _ => True) (fun _ => False)
    (Pool.init startedStore (orderAndComplete.map (·.program Env.offline flatPricing)))
    [1, 1, 1, 1, 1, 0, 0]
    (fun p => p.world.store.tripStatus 1 = some .completed ∧
      p.world.store.tripStatus 2 = some .pending) (by decide +kernel)
  have hcomplete := trips_complete Env.offline flatPricing startedStore startedStore_complete
    orderAndComplete _ hp
  exact ⟨p, hfirst, hsecond, hcomplete.1, hcomplete.2⟩

end Telima
