import Telima.Operations.Rows

/-!
# Telling the drivers that an offer is gone

`updateStatus` withdraws the offers of a cancelled trip before it asks which drivers still hold one,
and the handler of `DispatchFailed` tells only the room of the trip.  So a driver who held an offer
is told of the cancellation only by the report of the status, which goes to the driver of the trip
itself (`offered_drivers_told_iff`).
-/

namespace Telima

open TripsService DispatchService DispatchRecoveryService

/-- The message is about the trip. -/
def WsPayload.concerns (tripId : ℕ) : WsPayload → Bool
  | .tripUpdate id _ _ _ _ _ | .accepted id _ _ _ _ | .cancellation id _
  | .newRequest id _ _ _ _ _ _ _ _ _ | .clientConfirmed id => decide (id = tripId)
  | .paymentConfirmed _ _ _ => false

/-- The command sends the driver the event, about the trip. -/
def Cmd.tells (tripId driverId : ℕ) (event : WsEvent) : Cmd → Bool
  | .broadcast (.driver d) e payload =>
    decide (d = driverId) && decide (e = event) && payload.concerns tripId
  | _ => false

/-- The command sends no driver the event. -/
def Cmd.isSilent (event : WsEvent) : Cmd → Bool
  | .broadcast (.driver _) e _ => decide (e ≠ event)
  | _ => true

/-- The driver was sent the event, about the trip. -/
def Config.Told (k : Config) (tripId driverId : ℕ) (event : WsEvent) : Prop :=
  ∃ c ∈ k.log, c.tells tripId driverId event = true

instance (k : Config) (tripId driverId : ℕ) (event : WsEvent) :
    Decidable (k.Told tripId driverId event) :=
  inferInstanceAs (Decidable (∃ c ∈ k.log, _))

/-- The operation may cancel the trip. -/
inductive Operation.MayCancel (tripId : ℕ) : Operation → Prop
  | updateStatus (userId : ℕ) (role : UserRole) (dto : UpdateTripStatusDto) :
      MayCancel tripId (.updateStatus tripId userId role dto)
  | recovery (quiet : Bool) : MayCancel tripId (.recovery quiet)

/-- The operation is a request, not a pass of the recovery. -/
def Operation.isUpdate : Operation → Bool
  | .updateStatus _ _ _ _ => true
  | _ => false

section Silent

variable {event : WsEvent} {tripId driverId : ℕ} {k k' : Config} {c : Cmd}

theorem Cmd.not_tells_of_isSilent (h : c.isSilent event = true) :
    c.tells tripId driverId event = false := by
  unfold tells
  split
  · have hne : ¬ _ = event := of_decide_eq_true h
    rw [decide_eq_false hne, Bool.and_false, Bool.false_and]
  · rfl

theorem Config.told_perform :
    (k.perform c).Told tripId driverId event ↔
      c.tells tripId driverId event = true ∨ k.Told tripId driverId event := by
  rw [Config.Told, Config.log_perform, List.exists_mem_cons_iff]
  rfl

theorem Cmd.isSilent_of_searches (hevent : event ≠ .tripNewRequest)
    (h : c.searches tripId = true) : c.isSilent event = true := by
  unfold searches at h
  split at h <;> first | rfl | exact decide_eq_true hevent.symm | cases h

theorem Cmd.isSilent_of_withdrawsJob (h : c.withdrawsJob = true) : c.isSilent event = true := by
  unfold withdrawsJob at h
  split at h <;> first | rfl | cases h

theorem Cmd.isSilent_of_reads (h : c.reads = true) : c.isSilent event = true := by
  cases c with
  | broadcast room => cases room <;> first | rfl | cases h
  | _ => rfl

end Silent

/-- The program sends no driver the event. -/
abbrev OnlySilent {α : Type} (event : WsEvent) (p : Prog α) : Prop :=
  p.Only fun c => c.isSilent event = true

section Programs

variable {cond : Config → Cmd → Prop} {event : WsEvent} {tripId : ℕ} {k : Config} {α β : Type}

/-- Nobody was told of a trip since. -/
def Untold (event : WsEvent) (k k' : Config) : Prop :=
  ∀ tripId d, k'.Told tripId d event ↔ k.Told tripId d event

theorem Untold.trans {k' k'' : Config} (h : Untold event k k') (h' : Untold event k' k'') :
    Untold event k k'' :=
  fun tripId d => (h' tripId d).trans (h tripId d)

theorem untold_perform {c : Cmd} (hc : c.isSilent event = true) : Untold event k (k.perform c) := by
  intro tripId d
  rw [Config.told_perform, Cmd.not_tells_of_isSilent hc]
  simp

/-- A silent program tells nobody. -/
theorem OnlySilent.wlp {p : Prog α} (hp : OnlySilent event p) :
    p.wlp server cond (fun _ k' => Untold event k k') k :=
  Async.Only.wlp (A := fun k' => Untold event k k')
    (fun _ _ hc _ hk' => hk'.trans (untold_perform hc)) hp fun _ _ => Iff.rfl

theorem silent_findById (event : WsEvent) (tripId : ℕ) :
    OnlySilent event (TripRepository.findById tripId) := only_findById rfl rfl

theorem silent_getTrip (event : WsEvent) (tripId : ℕ) : OnlySilent event (getTrip tripId) :=
  only_getTrip rfl rfl

theorem silent_releaseLocksForTrip (hevent : event ≠ .tripNewRequest) :
    OnlySilent event (releaseLocksForTrip tripId) :=
  (onlyRedispatches_releaseLocksForTrip tripId).searches.mono fun _ hc =>
    Cmd.isSilent_of_searches hevent hc

theorem silent_handleDriverAccept (driverId : ℕ) :
    OnlySilent event (handleDriverAccept tripId driverId) := by
  have hcancel : ∀ d, OnlySilent event (cancelTimeoutJob tripId d) := fun d =>
    (withdrawsJob_cancelTimeoutJob tripId d).mono fun _ hc => Cmd.isSilent_of_withdrawsJob hc
  refine Async.only_query_bind.mpr ⟨rfl, fun s => ?_⟩
  split
  · split_ifs
    · trivial
    · refine Async.only_perform_bind.mpr ⟨rfl, fun _ => (hcancel driverId).bind fun _ => ?_⟩
      refine Async.only_query_bind.mpr ⟨rfl, fun s' => ?_⟩
      refine Async.Only.bind (Async.Only.forEach fun d _ => ?_) fun _ => ?_
      · refine Async.only_perform_bind.mpr ⟨rfl, fun _ => (hcancel d).bind fun _ => ?_⟩
        exact Async.only_perform.mpr rfl
      · refine Async.only_perform_bind.mpr ⟨rfl, fun _ => ?_⟩
        refine Async.only_perform_bind.mpr ⟨rfl, fun _ => ?_⟩
        exact Async.only_emit.mpr rfl
  · trivial

/-! ### `updateStatus` -/

/-- When the offers are withdrawn, no driver is found who could be told. -/
theorem wlp_withdrawOffers_untold (hevent : event ≠ .tripNewRequest) (trip : Trip) (reason : String) :
    (withdrawOffers trip reason).wlp server cond (fun _ k' => Untold event k k') k := by
  rw [withdrawOffers, Async.bind_eq]
  refine Async.wlp_bind (Async.wlp_mono (Async.wlp_and wlp_releaseLocksForTrip
    (silent_releaseLocksForTrip hevent).wlp) ?_)
  rintro r k₁ ⟨⟨a, rfl, hstays, hwithdrawn⟩, huntold⟩
  rw [Async.done_ok_bind]
  unfold notifyDispatchedDriversOfCancellation
  split
  · exact huntold
  · rw [Async.bind_eq, findNotifiedDrivers, Async.wlp_query_bind]
    intro _
    have hnone : (k₁.store.attempts.findMany fun a =>
        decide (a.tripId = trip.id) && decide (a.status = .driverNotified) &&
          (none : Option ℕ).all fun x => decide (a.driverId ≠ x)).map DispatchAttempt.driverId = [] := by
      rw [List.eq_nil_iff_forall_not_mem]
      intro d hd
      have hnotified : k₁.store.offers.Notified trip.id d := (mem_notifiedDrivers.mp hd).1
      exact not_notified_of_withdrawn DispatchStatus.noConfusion hwithdrawn hnotified
    rw [server_store, hnone]
    exact huntold.trans (untold_perform rfl)

theorem silent_findDriverByUserId (userId : ℕ) :
    OnlySilent event (TripRepository.findDriverByUserId userId) :=
  Async.only_query.mpr rfl

/-- The switch tells nobody. -/
theorem wlp_statusCase_untold (hevent : event ≠ .tripNewRequest) (trip : Trip) (userId : ℕ)
    (role : UserRole) (dto : UpdateTripStatusDto) :
    (statusCase trip userId role dto).wlp server cond (fun _ k' => Untold event k k') k := by
  have hadvance : ∀ status, OnlySilent event (advanceCase trip userId role status) := by
    intro status
    unfold advanceCase
    split_ifs
    · trivial
    · refine (silent_findDriverByUserId userId).bind fun driver => ?_
      split_ifs
      · trivial
      · exact Async.only_read_bind.mpr ⟨rfl, fun _ => trivial⟩
  have hwithdraw : ∀ (reason : String) (data : ℕ → TripData),
      (newDate.bind fun now => (withdrawOffers trip reason).bind fun _ =>
        (pure (data now) : Prog TripData)).wlp server cond (fun _ k' => Untold event k k') k := by
    intro reason data
    refine Async.wlp_read_bind.mpr fun _ => ?_
    refine Async.wlp_bind (Async.wlp_mono (wlp_withdrawOffers_untold hevent trip reason) ?_)
    intro r k' hk'
    have huntold : Untold event k k' := Untold.trans (untold_perform rfl) hk'
    cases r with
    | ok _ => exact huntold
    | error e => exact huntold
  unfold statusCase
  cases dto.status with
  | accepted =>
    refine OnlySilent.wlp ?_
    simp only [acceptCase]
    split_ifs
    · trivial
    · refine (silent_findDriverByUserId userId).bind fun driver => ?_
      cases driver with
      | none => trivial
      | some driverId =>
        refine Async.only_query_bind.mpr ⟨rfl, fun s => ?_⟩
        split_ifs
        · refine Async.only_read_bind.mpr ⟨rfl, fun _ => ?_⟩
          exact (silent_handleDriverAccept driverId).bind fun _ => trivial
        · trivial
  | driverArriving => exact (hadvance _).wlp
  | inProgress => exact (hadvance _).wlp
  | completed => exact (hadvance _).wlp
  | cancelledByClient =>
    simp only [cancelByClientCase]
    split_ifs
    · exact fun _ _ => Iff.rfl
    · exact hwithdraw _ _
  | cancelledByDriver =>
    refine OnlySilent.wlp ?_
    simp only [cancelByDriverCase]
    split_ifs
    · trivial
    · refine (silent_findDriverByUserId userId).bind fun driver => ?_
      split_ifs
      · trivial
      · exact Async.only_read_bind.mpr ⟨rfl, fun _ => trivial⟩
  | cancelledAuto => exact hwithdraw _ _
  | pending => exact fun _ _ => Iff.rfl

/-- The last two messages of a report: to the driver of the trip, if it has one, and to the admins. -/
theorem wlp_tellDriver {k₁ : Config} {driverId : Option ℕ} {payload : WsPayload}
    (hpayload : payload.concerns tripId = true) (hk₁ : Untold event k k₁) :
    ((Async.forEach (fun d => Async.emit (.broadcast (.driver d) event payload))
        driverId.toList).bind fun _ =>
      (Async.emit (.broadcast .admin .adminTripUpdate payload) : Prog Unit)).wlp server cond
      (fun _ k' => ∀ d, k'.Told tripId d event ↔ k.Told tripId d event ∨ driverId = some d) k₁ := by
  have hadmin : ∀ k' : Config, Untold event k'
      (k'.perform (.broadcast .admin .adminTripUpdate payload)) := fun _ => untold_perform rfl
  cases driverId with
  | none =>
    intro _ d
    rw [server_perform, hadmin k₁ tripId d, hk₁ tripId d]
    simp
  | some driver =>
    intro _ _ d
    rw [server_perform, server_perform, hadmin _ tripId d, Config.told_perform, hk₁ tripId d]
    simp [Cmd.tells, hpayload, or_comm]

/-- The report of a status tells the driver of the trip. -/
theorem wlp_reportStatus_told {trip : Trip} {status : TripStatus} (userId : ℕ)
    (cancelReason : Option String)
    (hevent : getWsEventForService trip.serviceType status = some event) :
    (reportStatus (some trip) userId status cancelReason).wlp server cond (fun _ k' =>
      ∀ d, k'.Told trip.id d event ↔ k.Told trip.id d event ∨ trip.driverId = some d) k := by
  have hemit : OnlySilent event (emitStatusEvent trip userId cancelReason) := by
    unfold emitStatusEvent
    split
    · exact Async.only_emit.mpr rfl
    · trivial
  have hreturns : (emitStatusEvent trip userId cancelReason).Returns := by
    unfold emitStatusEvent
    split
    · exact Async.returns_emit _
    · exact Async.returns_done_ok ()
  have hreport : reportStatus (some trip) userId status cancelReason =
      (emitStatusEvent trip userId cancelReason).bind fun _ =>
        (broadcastStatusEvent trip status cancelReason).bind fun _ => pure trip := rfl
  rw [hreport]
  refine Async.wlp_bind (Async.wlp_mono (Async.wlp_and hreturns.wlp hemit.wlp) ?_)
  rintro r k₁ ⟨⟨a, rfl⟩, huntold⟩
  rw [Async.done_ok_bind, broadcastStatusEvent, hevent]
  have hconcerns : (WsPayload.tripUpdate trip.id status (cancelledBy status)
      (trip.estimatedPrice.map Decimal2.toNumber) (trip.finalPrice.map Decimal2.toNumber)
      (reasonOf cancelReason trip)).concerns trip.id = true := decide_eq_true rfl
  refine Async.wlp_bind ?_
  refine Async.wlp_emit_bind.mpr fun _ => Async.wlp_emit_bind.mpr fun _ => ?_
  refine Async.wlp_mono (wlp_tellDriver (k := k) hconcerns
    ((huntold.trans (untold_perform rfl)).trans (untold_perform rfl))) fun r k' hk' => ?_
  cases r with
  | ok _ => exact hk'
  | error e => exact hk'

theorem getWsEventForService_eq_of_isCancelled {service : ServiceType} {status status' : TripStatus}
    (h : isCancelled status = true) (h' : isCancelled status' = true) :
    getWsEventForService service status = getWsEventForService service status' := by
  revert h h'
  cases service <;> cases status <;> cases status' <;> decide

theorem ne_tripNewRequest_of_getWsEventForService {service : ServiceType} {status : TripStatus}
    (h : getWsEventForService service status = some event) : event ≠ .tripNewRequest := by
  rintro rfl
  cases service <;> cases status <;> cases h

/-- A cancellation leaves the driver of the trip. -/
theorem TripsService.Switched.driverId_apply {k' : Config} {trip : Trip} {userId now : ℕ}
    {role : UserRole} {dto : UpdateTripStatusDto} {data : TripData}
    (h : Switched trip userId role dto k data k') (hcancelled : isCancelled dto.status = true) :
    (data.apply now trip).driverId = trip.driverId := by
  cases h with
  | accepted hstatus | unlocked hstatus =>
    rw [hstatus] at hcancelled
    cases hcancelled
  | advanced hstatus =>
    rcases hstatus with hstatus | hstatus | hstatus <;> rw [hstatus] at hcancelled <;>
      cases hcancelled
  | withdrawn => rfl
  | cancelledByDriver => rfl

/-- Only the driver of the trip is told that the status of a pending trip was set. -/
theorem wlp_updateStatus_told {trip : Trip} (userId : ℕ) (role : UserRole) (dto : UpdateTripStatusDto)
    (htrip : k.store.trips.find? tripId = some trip)
    (hevent : getWsEventForService trip.serviceType .cancelledAuto = some event) :
    (updateStatus tripId userId role dto).wlp server cond (fun _ k' => k.Same k' ∨
      (k'.store.tripStatus tripId = some dto.status ∧ canTransition trip.status dto.status = true ∧
        (isCancelled dto.status = true → ∀ d, k'.Told tripId d event ↔
          k.Told tripId d event ∨ trip.driverId = some d))) k := by
  have hnew : event ≠ .tripNewRequest := ne_tripNewRequest_of_getWsEventForService hevent
  have hid : trip.id = tripId := Table.key_of_find? htrip
  rw [updateStatus, Async.bind_eq]
  refine Async.wlp_bind (Async.wlp_mono (Async.wlp_and wlp_getTrip (silent_getTrip event tripId).wlp) ?_)
  rintro r k₁ ⟨⟨hk₁, ⟨trip', rfl, htrip'⟩ | ⟨⟨e, rfl⟩, hnone⟩⟩, huntold₁⟩
  · obtain rfl := Option.some.inj (htrip'.symm.trans htrip)
    rw [Async.done_ok_bind]
    split_ifs with htransition
    · refine Async.wlp_bind (Async.wlp_mono (Async.wlp_and (wlp_statusCase htransition)
        (wlp_statusCase_untold hnew trip' userId role dto)) ?_)
      rintro r k₂ ⟨⟨⟨e, rfl⟩, hk₂⟩ | ⟨data, rfl, hswitched⟩, huntold₂⟩
      · exact Or.inl (hk₁.trans hk₂)
      · obtain ⟨hnow, htrips⟩ := hswitched.now_eq
        have htrip₂ : k₂.store.trips.find? tripId = some trip' := by
          rw [htrips, hk₁.trips]
          exact htrip
        have hstatus : data.status = some dto.status := hswitched.status_eq
        rw [Async.done_ok_bind, TripRepository.updateStatus, Async.bind_eq, Async.bind_eq,
          Async.bind_assoc]
        have hsilent : OnlySilent event (TripRepository.update tripId data) :=
          Async.only_queryE.mpr rfl
        refine Async.wlp_bind (Async.wlp_mono
          (Async.wlp_and (wlp_update_of_some htrip₂) hsilent.wlp) ?_)
        rintro r k₃ ⟨⟨rfl, hwrites⟩, huntold₃⟩
        rw [Async.done_ok_bind]
        refine Async.wlp_bind (Async.wlp_mono (Async.wlp_and wlp_findById (silent_findById event tripId).wlp) ?_)
        rintro r k₄ ⟨⟨rfl, hk₄⟩, huntold₄⟩
        have hfound : k₃.store.trips.find? tripId = some (data.apply k₂.store.now trip') := by
          rw [hwrites.trips, Table.find?_update_self, htrip₂]
          rfl
        rw [Async.done_ok_bind, hfound]
        have hdone : ∀ {k₅ : Config} {events : List DomainEvent}, k₄.Stays k₅ events →
            k₅.store.tripStatus tripId = some dto.status := by
          intro k₅ events hstays
          rw [Store.tripStatus, hstays.trips, hk₄.trips, hfound, Option.map_some,
            hswitched.status_apply]
        by_cases hcancelled : isCancelled dto.status = true
        · have hreported : getWsEventForService (data.apply k₂.store.now trip').serviceType
              dto.status = some event :=
            (getWsEventForService_eq_of_isCancelled hcancelled rfl).trans hevent
          refine Async.wlp_mono (Async.wlp_and (wlp_reportStatus _ userId _ _)
            (wlp_reportStatus_told userId dto.cancelReason hreported)) ?_
          rintro r k₅ ⟨⟨rfl, hstays, -⟩, htold⟩
          refine Or.inr ⟨hdone hstays, htransition, fun _ d => ?_⟩
          have huntold : Untold event k k₄ :=
            ((huntold₁.trans huntold₂).trans huntold₃).trans huntold₄
          rw [← hid]
          exact (htold d).trans (or_congr (huntold _ _) (by rw [hswitched.driverId_apply hcancelled]))
        · refine Async.wlp_mono (wlp_reportStatus _ userId _ _) ?_
          rintro r k₅ ⟨rfl, hstays, -⟩
          exact Or.inr ⟨hdone hstays, htransition, fun h => absurd h hcancelled⟩
    · exact Or.inl hk₁
  · exact Or.inl hk₁

/-! ### The recovery and the handlers -/

theorem silent_of_onlySearches (hevent : event ≠ .tripNewRequest) {p : Prog α}
    (hp : OnlySearches tripId p) : OnlySilent event p :=
  hp.mono fun _ hc => Cmd.isSilent_of_searches hevent hc

/-- A pass of the recovery lists the pending trips, and searches for them or gives them up. -/
theorem only_run (env : DispatchEnv) (quiet : Bool) : (run env quiet).Only fun c =>
    c = .findPendingTrips ∨ c = .date ∨ ∃ t, c.searches t = true := by
  refine Async.Only.bind (Async.Only.tryCatch (Async.only_query.mpr (Or.inl rfl)) fun _ => trivial)
    fun pending => ?_
  split_ifs
  · trivial
  · refine Async.only_read_bind.mpr ⟨Or.inr (Or.inl rfl), fun now => ?_⟩
    exact Async.Only.forEach fun trip _ =>
      (onlyRedispatches_recoverTrip env quiet _ trip).searches.mono fun _ hc =>
        Or.inr (Or.inr ⟨trip.id, hc⟩)

/-- A pass of the recovery tells no driver that a trip is cancelled. -/
theorem silent_run (hevent : event ≠ .tripNewRequest) (env : DispatchEnv) (quiet : Bool) :
    OnlySilent event (run env quiet) := by
  refine (only_run env quiet).mono fun c hc => ?_
  rcases hc with rfl | rfl | ⟨t, hc⟩
  · rfl
  · rfl
  · exact Cmd.isSilent_of_searches hevent hc

theorem silent_handleEvent (hevent : event ≠ .tripNewRequest) (env : Env) (domainEvent : DomainEvent) :
    OnlySilent event (handleEvent env domainEvent) := by
  have hsingle : ∀ {p : Prog Unit}, eventHandlers env domainEvent = [p] → OnlySilent event p →
      OnlySilent event (handleEvent env domainEvent) := by
    intro p hhandlers hp
    rw [handleEvent, hhandlers]
    exact Async.Only.bind (Async.Only.tryCatch hp fun _ => trivial) fun _ => trivial
  cases domainEvent with
  | tripCreated =>
    exact hsingle rfl
      (silent_of_onlySearches hevent (onlyRedispatches_attemptDispatch _ _ _ _ _).searches)
  | tripCompleted tripId =>
    exact hsingle rfl (CommissionsService.only_handleTripCompleted rfl fun _ _ _ _ => rfl)
  | driverAssigned tripId driverId =>
    have hassign : OnlySilent event (TripRepository.assignDriver tripId driverId) :=
      Async.only_read_bind.mpr ⟨rfl, fun _ => Async.only_queryE.mpr rfl⟩
    refine hsingle rfl (hassign.bind fun trip => Async.Only.bind ?_ fun _ => ?_)
    · exact (onlyReads_broadcastAccepted env.geo trip driverId).mono fun _ hc =>
        Cmd.isSilent_of_reads hc
    · exact Async.only_emit.mpr rfl
  | dispatchFailed tripId reason =>
    have hcancel : OnlySilent event
        (TripRepository.updateStatusIfPending tripId .cancelledAuto reason) :=
      Async.only_read_bind.mpr ⟨rfl, fun _ => Async.only_perform.mpr rfl⟩
    refine hsingle rfl (hcancel.bind fun _ => (silent_findById event tripId).bind fun trip => ?_)
    split
    · exact Async.only_emit.mpr rfl
    · trivial
  | _ => trivial

/-- No handler cancels a trip that is not pending: it keeps its status, or it is accepted. -/
theorem wlp_handleEvent_status (env : Env) (domainEvent : DomainEvent) {status : TripStatus}
    (hstatus : k.store.tripStatus tripId = some status) (hpending : status ≠ .pending) :
    (handleEvent env domainEvent).wlp server cond (fun _ k' =>
      k'.store.tripStatus tripId = some status ∨ k'.store.tripStatus tripId = some .accepted) k := by
  have hkept : ∀ {k' : Config}, k'.store.trips = k.store.trips →
      k'.store.tripStatus tripId = some status := by
    intro k' htrips
    rw [Store.tripStatus, htrips]
    exact hstatus
  obtain ⟨trip, htrip, hrow⟩ := Option.map_eq_some_iff.mp hstatus
  cases domainEvent with
  | tripCreated =>
    refine wlp_handleEvent_single rfl (Async.wlp_mono (wlp_attemptDispatch env.dispatch _ _ _) ?_)
    intro r k' h
    obtain ⟨events, hstays, -⟩ := h.stays
    exact Or.inl (hkept hstays.trips)
  | tripCompleted id =>
    refine wlp_handleEvent_single rfl
      (Async.wlp_mono (CommissionsService.wlp_handleTripCompleted id) ?_)
    rintro r k' (⟨hsame, -⟩ | ⟨row, driverId, price, vehicleType, -, -, -, -, hcharges⟩)
    · exact Or.inl (hkept hsame.trips)
    · left
      rw [Store.tripStatus, hcharges.trips, Table.find?_update, htrip]
      split_ifs <;> exact congrArg some hrow
  | driverAssigned id driverId =>
    refine wlp_handleEvent_single rfl (Async.wlp_mono (wlp_handleDriverAssigned env.geo driverId) ?_)
    rintro r k' ⟨events, -, hwrites⟩
    by_cases hid : tripId = id
    · right
      rw [Store.tripStatus, hwrites.trips, ← hid, Table.find?_update_self, htrip]
      rfl
    · left
      rw [Store.tripStatus, hwrites.trips, Table.find?_update_of_ne hid]
      exact hstatus
  | dispatchFailed id reason =>
    refine wlp_handleEvent_single rfl (Async.wlp_mono (wlp_handleDispatchFailed reason) ?_)
    intro r k' hwrites
    left
    have hsel : ¬ (decide (trip.id = id) && decide (trip.status = .pending)) = true := by
      rw [hrow, decide_eq_false hpending, Bool.and_false]
      exact Bool.false_ne_true
    rw [Store.tripStatus, hwrites.trips, Table.find?_updateMany, htrip, Option.map_some,
      if_neg hsel]
    exact congrArg some hrow
  | _ => exact wlp_handleEvent_nil rfl (Or.inl hstatus)

end Programs

/-! ### One operation -/

section Operations

variable {pricing : PricingEnv} {s : Store} {op : Operation} {tripId : ℕ} {trip : Trip} {k' : Config}
variable {event : WsEvent}

/-- A request that cancels a pending trip tells the driver of the trip, and no other. -/
theorem told_of_updateStatus (env : Env) {userId : ℕ} {role : UserRole} {dto : UpdateTripStatusDto}
    (htrip : s.trips.find? tripId = some trip) (hpending : trip.status = .pending)
    (hcomplete : Config.Completes env pricing (.updateStatus tripId userId role dto) ⟨s, [], []⟩ k')
    {status : TripStatus} (hstatus : k'.store.tripStatus tripId = some status)
    (hcancelled : isCancelled status = true)
    (hevent : getWsEventForService trip.serviceType .cancelledAuto = some event) (d : ℕ) :
    k'.Told tripId d event ↔ trip.driverId = some d := by
  have hnew : event ≠ .tripNewRequest := ne_tripNewRequest_of_getWsEventForService hevent
  let I : Config → Prop := fun k =>
    (k.todo = [] ∧ k.store.tripStatus tripId = some .pending) ∨
    ((k.store.tripStatus tripId = some dto.status ∨ k.store.tripStatus tripId = some .accepted) ∧
      dto.status ≠ .pending ∧
      (isCancelled dto.status = true → ∀ d, k.Told tripId d event ↔ trip.driverId = some d))
  have hnone : ∀ d, ¬ Config.Told ⟨s, [], []⟩ tripId d event := by
    rintro d ⟨c, hc, -⟩
    cases hc
  have hI : I k' := by
    refine hcomplete.of_wlp (Async.wlp_as (Async.wlp_mono
      (wlp_updateStatus_told userId role dto htrip hevent) ?_)) fun k domainEvent todo htodo hk => ?_
    · rintro r k₁ (hsame | ⟨hset, htransition, htold⟩)
      · refine Or.inl ⟨hsame.todo, ?_⟩
        rw [Store.tripStatus, hsame.trips]
        exact Option.map_eq_some_iff.mpr ⟨trip, htrip, hpending⟩
      · refine Or.inr ⟨Or.inl hset, ?_, fun hstatus d => ?_⟩
        · exact ne_pending_of_canTransition htransition
        · rw [htold hstatus d]
          exact or_iff_right (hnone d)
    · rcases hk with ⟨hidle, -⟩ | ⟨hset, hne, htold⟩
      · rw [htodo] at hidle
        cases hidle
      · have hkeeps : ∀ {status : TripStatus}, k.store.tripStatus tripId = some status →
            status ≠ .pending → (handleEvent env domainEvent).wlp server (fun _ _ => True)
              (fun _ k' => (k'.store.tripStatus tripId = some status ∨
                k'.store.tripStatus tripId = some .accepted) ∧
                Untold event { k with todo } k') { k with todo } :=
          fun hstatus hne => Async.wlp_and (wlp_handleEvent_status env domainEvent hstatus hne)
            (silent_handleEvent hnew env domainEvent).wlp
        have hsilent : ∀ {k' : Config}, Untold event { k with todo } k' →
            isCancelled dto.status = true → ∀ d, k'.Told tripId d event ↔ trip.driverId = some d :=
          fun huntold hstatus d => (huntold tripId d).trans (htold hstatus d)
        rcases hset with hset | hset
        · exact Async.wlp_mono (hkeeps hset hne) fun _ _ h => Or.inr ⟨h.1, hne, hsilent h.2⟩
        · refine Async.wlp_mono (hkeeps hset TripStatus.noConfusion) fun _ _ h => ?_
          exact Or.inr ⟨Or.inr (or_self_iff.mp h.1), hne, hsilent h.2⟩
  rcases hI with ⟨-, h⟩ | ⟨h | h, -, htold⟩
  · obtain rfl := Option.some.inj (hstatus.symm.trans h)
    cases hcancelled
  · obtain rfl := Option.some.inj (hstatus.symm.trans h)
    exact htold hcancelled d
  · obtain rfl := Option.some.inj (hstatus.symm.trans h)
    cases hcancelled

/-- A pass of the recovery tells no driver that his offer is gone. -/
theorem not_told_of_recovery (env : Env) {quiet : Bool} (hnew : event ≠ .tripNewRequest)
    (hcomplete : Config.Completes env pricing (.recovery quiet) ⟨s, [], []⟩ k') (d : ℕ) :
    ¬ k'.Told tripId d event := by
  have huntold : Untold event ⟨s, [], []⟩ k' :=
    hcomplete.of_wlp (silent_run hnew env.dispatch quiet).wlp fun k domainEvent todo _ hk =>
      Async.wlp_mono (silent_handleEvent hnew env domainEvent).wlp fun _ k' hk' => hk.trans hk'
  rw [huntold tripId d]
  rintro ⟨c, hc, -⟩
  cases hc

end Operations

/-- When an operation cancels a pending trip, every driver who held an offer of it is told exactly if
they are all the driver of the trip itself and the operation is a request. -/
theorem offered_drivers_told_iff (env : Env) (pricing : PricingEnv) {s : Store} {op : Operation}
    {tripId : ℕ} {trip : Trip} {k' : Config} {status : TripStatus} {event : WsEvent}
    (hop : op.MayCancel tripId) (htrip : s.trips.find? tripId = some trip)
    (hpending : trip.status = .pending) (hcomplete : Config.Completes env pricing op ⟨s, [], []⟩ k')
    (hstatus : k'.store.tripStatus tripId = some status)
    (hcancelled : status = .cancelledByClient ∨ status = .cancelledAuto)
    (hevent : getWsEventForService trip.serviceType status = some event) :
    (∀ d, s.offers.Notified tripId d → k'.Told tripId d event) ↔
      ∀ d, s.offers.Notified tripId d → op.isUpdate = true ∧ trip.driverId = some d := by
  have his : isCancelled status = true := by
    rcases hcancelled with rfl | rfl <;> rfl
  have hauto : getWsEventForService trip.serviceType .cancelledAuto = some event :=
    (getWsEventForService_eq_of_isCancelled rfl his).trans hevent
  have htold : ∀ d, k'.Told tripId d event ↔ op.isUpdate = true ∧ trip.driverId = some d := by
    intro d
    cases hop with
    | updateStatus userId role dto =>
      rw [told_of_updateStatus env htrip hpending hcomplete hstatus his hauto d]
      simp [Operation.isUpdate]
    | recovery quiet =>
      have hnew : event ≠ .tripNewRequest := ne_tripNewRequest_of_getWsEventForService hauto
      simp [Operation.isUpdate, not_told_of_recovery env hnew hcomplete d]
  exact forall₂_congr fun d _ => htold d

/-! ### A cancellation in the town -/

/-- Client 21 cancels the trip, which was offered to drivers 1 and 2. -/
def Operation.cancelOrder : Operation :=
  .updateStatus 1 21 .client { status := .cancelledByClient }

/-- Client 21 orders a ride from drivers 1 and 2 and cancels it. -/
theorem exists_cancelOrder_town : ∃ k k' trip, Config.Run Env.town .town (fun _ _ => True)
    (fun _ _ => True) ⟨.town, [], []⟩ k ∧
    Config.Completes Env.town .town .cancelOrder ⟨k.store, [], []⟩ k' ∧
    k.store.trips.find? 1 = some trip ∧ trip.status = .pending ∧ trip.serviceType = .ride ∧
    k.store.offers.Notified 1 1 ∧ k'.store.tripStatus 1 = some .cancelledByClient ∧
    ¬ k'.Told 1 1 .rideCancelled := by
  obtain ⟨k, k', hrun, hcomplete, hstatus, hservice, hnotified, hafter, htold⟩ :=
    Config.exists_completes_of_execute? Env.town .town .town [.order 1 2] .cancelOrder
      (fun k k' => k.store.tripStatus 1 = some .pending ∧
        (k.store.trips.find? 1).map Trip.serviceType = some .ride ∧
        k.store.attemptStatus 1 1 = some .driverNotified ∧
        k'.store.tripStatus 1 = some .cancelledByClient ∧ ¬ k'.Told 1 1 .rideCancelled)
      (by decide +kernel)
  obtain ⟨trip, htrip, hpending⟩ := Option.map_eq_some_iff.mp hstatus
  rw [htrip] at hservice
  exact ⟨k, k', trip, hrun, hcomplete, htrip, hpending, Option.some.inj hservice, hnotified, hafter,
    htold⟩

/-- The cancellation of a trip that was offered to two drivers. -/
theorem offered_drivers_told_iff_town : ∃ k k', Config.Run Env.town .town (fun _ _ => True)
    (fun _ _ => True) ⟨.town, [], []⟩ k ∧
    Config.Completes Env.town .town .cancelOrder ⟨k.store, [], []⟩ k' ∧ ∃ trip,
      k.store.trips.find? 1 = some trip ∧
      ((∀ d, k.store.offers.Notified 1 d → k'.Told 1 d .rideCancelled) ↔
        ∀ d, k.store.offers.Notified 1 d →
          Operation.cancelOrder.isUpdate = true ∧ trip.driverId = some d) := by
  obtain ⟨k, k', trip, hrun, hcomplete, htrip, hpending, hride, -, hafter, -⟩ :=
    exists_cancelOrder_town
  exact ⟨k, k', hrun, hcomplete, trip, htrip, offered_drivers_told_iff Env.town .town
    (.updateStatus 21 .client _) htrip hpending hcomplete hafter (Or.inl rfl) (by rw [hride]; rfl)⟩

/-- Driver 1 held an offer of the trip, and is not told that it is cancelled. -/
theorem not_offered_drivers_told : ¬ ∀ k k' op tripId trip status event d,
    Config.Run Env.town .town (fun _ _ => True) (fun _ _ => True) ⟨.town, [], []⟩ k →
    Operation.MayCancel tripId op → k.store.trips.find? tripId = some trip →
    trip.status = .pending → Config.Completes Env.town .town op ⟨k.store, [], []⟩ k' →
    k'.store.tripStatus tripId = some status →
    (status = .cancelledByClient ∨ status = .cancelledAuto) →
    getWsEventForService trip.serviceType status = some event →
    k.store.offers.Notified tripId d → k'.Told tripId d event := by
  intro hall
  obtain ⟨k, k', trip, hrun, hcomplete, htrip, hpending, hride, hnotified, hafter, htold⟩ :=
    exists_cancelOrder_town
  exact htold (hall k k' _ 1 trip _ _ 1 hrun (.updateStatus 21 .client _) htrip hpending hcomplete
    hafter (Or.inl rfl) (by rw [hride]; rfl) hnotified)

end Telima
