import Telima.Operations.Dispatch
import Telima.Trips.Runs

/-!
# What the trip service does to trips and offers

One specification for each function of `TripsService` and `DispatchRecoveryService`, run to its end.
-/

namespace Telima

open TripsService DispatchService

/-- The driver of a user. -/
def Store.driverOf (s : Store) (userId : ℕ) : Option ℕ :=
  (s.drivers.findFirst fun d => decide (d.userId = userId)).map Driver.id

/-- The trips are now `trips`, and `events` were emitted; everything else stays. -/
structure Config.Writes (k k' : Config) (trips : Table ℕ Trip Trip.id) (events : List DomainEvent) :
    Prop where
  trips : k'.store.trips = trips
  drivers : k'.store.drivers = k.store.drivers
  vehicleTypes : k'.store.vehicleTypes = k.store.vehicleTypes
  now : k'.store.now = k.store.now
  todo : k'.todo = k.todo ++ events
  offers : k'.store.offers = k.store.offers

namespace Config

variable {k k' k'' : Config} {trips : Table ℕ Trip Trip.id} {events events' : List DomainEvent}

theorem Same.writes (h : k.Same k') (h' : k'.Writes k'' trips events) : k.Writes k'' trips events where
  trips := h'.trips
  drivers := h'.drivers.trans h.drivers
  vehicleTypes := h'.vehicleTypes.trans h.vehicleTypes
  now := h'.now.trans h.now
  todo := by rw [h'.todo, h.todo, List.append_nil]
  offers := h'.offers.trans h.offers

/-- Emitting after a write. -/
theorem Writes.stays (h : k.Writes k' trips events) (h' : k'.Stays k'' events')
    (hoffers : k''.store.offers = k'.store.offers) : k.Writes k'' trips (events ++ events') where
  trips := h'.trips.trans h.trips
  drivers := h'.drivers.trans h.drivers
  vehicleTypes := h'.vehicleTypes.trans h.vehicleTypes
  now := h'.now.trans h.now
  todo := by rw [h'.todo, h.todo, List.append_assoc]
  offers := hoffers.trans h.offers

theorem Writes.same (h : k.Writes k' trips events) (h' : k'.Same k'') :
    k.Writes k'' trips events := by
  have hwrites : k.Writes k'' trips (events ++ []) := h.stays h'.toStays h'.offers
  rwa [List.append_nil] at hwrites

end Config

namespace TripsService

variable {cond : Config → Cmd → Prop} {k k' : Config} {tripId userId : ℕ} {role : UserRole}

/-! ### Reading and reporting -/

theorem wlp_newDate_bind {α : Type} {f : ℕ → Prog α} {Q : Except Error α → Config → Prop}
    (h : ∀ k', k.Same k' → (f k.store.now).wlp server cond Q k') :
    (newDate.bind f).wlp server cond Q k :=
  fun _ => h _ (Config.same_perform rfl rfl rfl)

theorem wlp_findById : (TripRepository.findById tripId).wlp server cond
    (fun r k' => r = .ok (k.store.trips.find? tripId) ∧ k.Same k') k := by
  rw [TripRepository.findById, Async.bind_eq, Async.wlp_query_bind]
  intro _
  have hfind : k.Same (k.perform (.findTrip tripId)) := Config.same_perform rfl rfl rfl
  rw [server_store, server_perform]
  cases htrip : k.store.trips.find? tripId with
  | none => exact ⟨rfl, hfind⟩
  | some trip => exact fun _ => ⟨rfl, hfind.trans (Config.same_perform rfl rfl rfl)⟩

theorem wlp_getTrip : (getTrip tripId).wlp server cond (fun r k' => k.Same k' ∧
    ((∃ trip, r = .ok trip ∧ k.store.trips.find? tripId = some trip) ∨
      ((∃ e, r = .error e) ∧ k.store.trips.find? tripId = none))) k := by
  rw [getTrip]
  refine Async.wlp_bind (Async.wlp_mono wlp_findById ?_)
  rintro r k' ⟨rfl, hsame⟩
  rw [Async.done_ok_bind]
  cases htrip : k.store.trips.find? tripId with
  | none => exact ⟨hsame, Or.inr ⟨⟨_, rfl⟩, rfl⟩⟩
  | some trip => exact ⟨hsame, Or.inl ⟨trip, rfl, rfl⟩⟩

theorem wlp_getTrip_bind {α : Type} {f : Trip → Prog α} {Q : Except Error α → Config → Prop}
    (hsome : ∀ trip k', k.store.trips.find? tripId = some trip → k.Same k' →
      (f trip).wlp server cond Q k')
    (hnone : ∀ e k', k.store.trips.find? tripId = none → k.Same k' → Q (.error e) k') :
    ((getTrip tripId).bind f).wlp server cond Q k := by
  refine Async.wlp_bind (Async.wlp_mono wlp_getTrip ?_)
  rintro r k' ⟨hsame, ⟨trip, rfl, htrip⟩ | ⟨⟨e, rfl⟩, hnone'⟩⟩
  · exact hsome trip k' htrip hsame
  · exact hnone e k' hnone' hsame

theorem wlp_findDriverByUserId_bind {α : Type} {f : Option ℕ → Prog α}
    {Q : Except Error α → Config → Prop}
    (h : ∀ k', k.Same k' → (f (k.store.driverOf userId)).wlp server cond Q k') :
    ((TripRepository.findDriverByUserId userId).bind f).wlp server cond Q k :=
  fun _ => h _ (Config.same_perform rfl rfl rfl)

/-- The report of a trip: its event is emitted, and the apps are told. -/
theorem wlp_reportStatus (updated : Trip) (userId : ℕ) (status : TripStatus)
    (cancelReason : Option String) :
    (reportStatus (some updated) userId status cancelReason).wlp server cond (fun r k' =>
      r = .ok updated ∧ k.Stays k' (statusEvent updated userId cancelReason).toList ∧
        k'.store.offers = k.store.offers) k := by
  -- telling the apps changes nothing
  have hbroadcast : ∀ k : Config, (broadcastStatusEvent updated status cancelReason).wlp server cond
      (fun r k' => ∃ a, r = .ok a ∧ k.Same k') k := by
    intro k
    unfold broadcastStatusEvent
    split
    · exact ⟨(), rfl, .refl k⟩
    · have htell : ∀ (room : Room) (event : WsEvent) (payload : WsPayload) (k : Config),
          k.Same (k.perform (.broadcast room event payload)) :=
        fun _ _ _ _ => Config.same_perform rfl rfl rfl
      refine Async.wlp_emit_bind.mpr fun _ => ?_
      refine Async.wlp_emit_bind.mpr fun _ => ?_
      refine Async.wlp_bind_of_ok (R := fun _ k' => k.Same k') ?_ fun _ k₁ hk₁ _ =>
        ⟨(), rfl, hk₁.trans (htell _ _ _ _)⟩
      cases updated.driverId with
      | none => exact ⟨(), rfl, (htell _ _ _ k).trans (htell _ _ _ _)⟩
      | some driverId =>
        exact fun _ => ⟨(), rfl, ((htell _ _ _ k).trans (htell _ _ _ _)).trans (htell _ _ _ _)⟩
  have hreport : reportStatus (some updated) userId status cancelReason =
      (emitStatusEvent updated userId cancelReason).bind fun _ =>
        (broadcastStatusEvent updated status cancelReason).bind fun _ => pure updated := rfl
  rw [hreport]
  refine Async.wlp_bind_of_ok (R := fun _ k' =>
    k.Stays k' (statusEvent updated userId cancelReason).toList ∧
      k'.store.offers = k.store.offers) ?_ fun _ k₁ hk₁ => ?_
  · unfold emitStatusEvent
    cases statusEvent updated userId cancelReason with
    | none => exact ⟨(), rfl, .refl k, rfl⟩
    | some event => exact fun _ => ⟨(), rfl, Config.stays_perform (c := .emit event) rfl, rfl⟩
  · refine Async.wlp_bind_of_ok (hbroadcast k₁) fun _ k₂ hk₂ => ?_
    exact ⟨rfl, hk₁.1.same hk₂, hk₂.offers.trans hk₁.2⟩

/-- A write of a trip; the answer is the updated row. -/
theorem wlp_update {data : TripData} : (TripRepository.update tripId data).wlp server cond
    (fun r k' => r = orNotFound ((k.store.trips.find? tripId).map (data.apply k.store.now)) ∧
      k.Writes k' (k.store.trips.update tripId (data.apply k.store.now)
        (data.id_apply k.store.now)) []) k :=
  fun _ => ⟨rfl, ⟨rfl, rfl, rfl, rfl, rfl, Cmd.offers_exec rfl⟩⟩

/-- A write of a trip that exists. -/
theorem wlp_update_of_some {trip : Trip} {data : TripData}
    (htrip : k.store.trips.find? tripId = some trip) :
    (TripRepository.update tripId data).wlp server cond (fun r k' =>
      r = .ok (data.apply k.store.now trip) ∧
        k.Writes k' (k.store.trips.update tripId (data.apply k.store.now)
          (data.id_apply k.store.now)) []) k := by
  refine Async.wlp_mono wlp_update fun r k' h => ⟨h.1.trans ?_, h.2⟩
  rw [htrip]
  rfl

/-! ### The switch of `updateStatus` -/

/-- The columns of an accept. -/
def acceptData (driverId now : ℕ) : TripData where
  status := some .accepted
  driverId := some driverId
  acceptedAt := some now

/-- The columns of a cancellation. -/
def cancelData (status : TripStatus) (reason : Option String) (now : ℕ) : TripData where
  status := some status
  cancelledAt := some now
  cancelReason := reason

/-- What a case of the switch leaves, and the columns it has written. -/
inductive Switched (trip : Trip) (userId : ℕ) (role : UserRole) (dto : UpdateTripStatusDto)
    (k : Config) : TripData → Config → Prop
  | accepted {driverId : ℕ} {k' : Config} (hstatus : dto.status = .accepted) (hrole : role = .driver)
      (hdriver : k.store.driverOf userId = some driverId)
      (hnotified : k.store.offers.Notified trip.id driverId)
      (hlock : k.store.offers.lock driverId = some trip.id)
      (hstays : k.Stays k' [.driverAssigned trip.id driverId])
      (haccepted : Offers.Accepted trip.id driverId k.store.offers k'.store.offers) :
      Switched trip userId role dto k (acceptData driverId k.store.now) k'
  /-- The driver's lock is not held for the trip. -/
  | unlocked {driverId : ℕ} {k' : Config} (hstatus : dto.status = .accepted) (hrole : role = .driver)
      (hdriver : k.store.driverOf userId = some driverId)
      (hnotified : k.store.offers.Notified trip.id driverId)
      (hlock : k.store.offers.lock driverId ≠ some trip.id) (hsame : k.Same k') :
      Switched trip userId role dto k (acceptData driverId k.store.now) k'
  | advanced {driverId : ℕ} {k' : Config} (hstatus : dto.status = .driverArriving ∨
        dto.status = .inProgress ∨ dto.status = .completed)
      (hassigned : trip.driverId = some driverId) (hsame : k.Same k') :
      Switched trip userId role dto k (advanceData trip dto.status k.store.now) k'
  | withdrawn {reason : Option String} {k' : Config} (hstatus : dto.status = .cancelledByClient ∨
        dto.status = .cancelledAuto) (hstays : k.Stays k' [])
      (hwithdrawn : Offers.Withdrawn trip.id (k.store.offers.Notified trip.id)
        (fun _ => some .timedOut) k.store.offers k'.store.offers) :
      Switched trip userId role dto k (cancelData dto.status reason k.store.now) k'
  | cancelledByDriver {driverId : ℕ} {k' : Config} (hstatus : dto.status = .cancelledByDriver)
      (hassigned : trip.driverId = some driverId) (hsame : k.Same k') :
      Switched trip userId role dto k (cancelData dto.status dto.cancelReason k.store.now) k'

variable {trip : Trip} {dto : UpdateTripStatusDto}

theorem Switched.of_same {data : TripData} {k'' : Config} (h : k.Same k')
    (h' : Switched trip userId role dto k' data k'') : Switched trip userId role dto k data k'' := by
  have hdriverOf : k'.store.driverOf userId = k.store.driverOf userId := by
    rw [Store.driverOf, h.drivers, Store.driverOf]
  cases h' with
  | accepted hstatus hrole hdriver hnotified hlock hstays haccepted =>
    rw [h.now]
    rw [h.offers] at hnotified hlock haccepted
    exact .accepted hstatus hrole (hdriverOf ▸ hdriver) hnotified hlock (h.stays hstays) haccepted
  | unlocked hstatus hrole hdriver hnotified hlock hsame =>
    rw [h.now]
    rw [h.offers] at hnotified hlock
    exact .unlocked hstatus hrole (hdriverOf ▸ hdriver) hnotified hlock (h.trans hsame)
  | advanced hstatus hassigned hsame =>
    rw [h.now]
    exact .advanced hstatus hassigned (h.trans hsame)
  | withdrawn hstatus hstays hwithdrawn =>
    rw [h.now]
    rw [h.offers] at hwithdrawn
    exact .withdrawn hstatus (h.stays hstays) hwithdrawn
  | cancelledByDriver hstatus hassigned hsame =>
    rw [h.now]
    exact .cancelledByDriver hstatus hassigned (h.trans hsame)

/-- The result of a case: refused, or done. -/
abbrev SwitchResult (trip : Trip) (userId : ℕ) (role : UserRole) (dto : UpdateTripStatusDto)
    (k : Config) (r : Except Error TripData) (k' : Config) : Prop :=
  ((∃ e, r = .error e) ∧ k.Same k') ∨ ∃ data, r = .ok data ∧ Switched trip userId role dto k data k'

theorem wlp_acceptCase (hstatus : dto.status = .accepted) :
    (acceptCase trip.id userId role).wlp server cond (SwitchResult trip userId role dto k) k := by
  unfold acceptCase
  split_ifs with hrole
  · exact Or.inl ⟨⟨_, rfl⟩, .refl k⟩
  · rw [ne_eq, not_not] at hrole
    refine wlp_findDriverByUserId_bind fun k₁ hk₁ => ?_
    cases hdriver : k.store.driverOf userId with
    | none => exact Or.inl ⟨⟨_, rfl⟩, hk₁⟩
    | some driverId =>
      dsimp only
      rw [Async.bind_eq, TripRepository.hasActiveDispatchAttempt, Async.wlp_query_bind]
      intro _
      have hasked := hk₁.trans
        (Config.same_perform (c := .findActiveAttempt trip.id driverId) rfl rfl rfl)
      rw [server_store, server_perform]
      split_ifs with hnotified
      · rw [isNotified_iff, hk₁.offers] at hnotified
        refine wlp_newDate_bind fun k₂ hk₂ => ?_
        have hbefore := hasked.trans hk₂
        refine Async.wlp_bind_of_ok wlp_handleDriverAccept fun _ k₃ hk₃ => ?_
        rw [hasked.now]
        rw [hbefore.offers] at hk₃
        rcases hk₃ with ⟨hlock, hstays, haccepted, -⟩ | ⟨hlock, hstays, hoffers⟩
        · exact Or.inr ⟨_, rfl, .accepted hstatus hrole hdriver hnotified hlock
            (hbefore.stays hstays) haccepted⟩
        · exact Or.inr ⟨_, rfl, .unlocked hstatus hrole hdriver hnotified hlock
            ⟨hbefore.stays hstays, hoffers⟩⟩
      · exact Or.inl ⟨⟨_, rfl⟩, hasked⟩

theorem wlp_withdrawOffers (reason : String) : (withdrawOffers trip reason).wlp server cond
    (Quietly k fun o => Offers.Withdrawn trip.id (o.Notified trip.id) (fun _ => some .timedOut) o)
    k := by
  rw [withdrawOffers, Async.bind_eq]
  refine Async.wlp_bind_of_ok wlp_releaseLocksForTrip fun _ k₁ hk₁ => ?_
  have hnotify : (notifyDispatchedDriversOfCancellation trip.id trip.serviceType reason).wlp server
      cond (fun r k' => ∃ a, r = .ok a ∧ k₁.Same k') k₁ := by
    unfold notifyDispatchedDriversOfCancellation
    split
    · exact ⟨(), rfl, .refl k₁⟩
    · rw [Async.bind_eq, findNotifiedDrivers, Async.wlp_query_bind]
      intro _
      refine Async.wlp_mono (Async.wlp_forEach (A := fun _ k' => k₁.Same k') ?_
        (Config.same_perform rfl rfl rfl)) ?_
      · exact fun d ds k' hk' _ => ⟨rfl, hk'.trans (Config.same_perform rfl rfl rfl)⟩
      · exact fun r k' hk' => ⟨(), hk'.1, hk'.2⟩
  refine Async.wlp_mono hnotify ?_
  rintro r k' ⟨a, rfl, hsame⟩
  refine ⟨a, rfl, hk₁.1.same hsame, ?_⟩
  rw [hsame.offers]
  exact hk₁.2

/-- The cases only the assigned driver may take. -/
theorem wlp_assigned {e : Error} {f : ℕ → TripData}
    (hdone : ∀ driverId k', trip.driverId = some driverId → k.Same k' →
      Switched trip userId role dto k (f k.store.now) k') :
    (Async.bind (TripRepository.findDriverByUserId userId) fun driver =>
      if driver.isNone ∨ trip.driverId ≠ driver then Async.throw e
      else newDate.bind fun now => pure (f now)).wlp server cond
        (SwitchResult trip userId role dto k) k := by
  refine wlp_findDriverByUserId_bind fun k₁ hk₁ => ?_
  cases k.store.driverOf userId with
  | none => exact Or.inl ⟨⟨_, rfl⟩, hk₁⟩
  | some driverId =>
    split_ifs with hrefused
    · exact Or.inl ⟨⟨_, rfl⟩, hk₁⟩
    · rw [not_or, not_not] at hrefused
      refine wlp_newDate_bind fun k₂ hk₂ => ?_
      rw [hk₁.now]
      exact Or.inr ⟨_, rfl, hdone driverId _ hrefused.2 (hk₁.trans hk₂)⟩

theorem wlp_statusCase (htransition : canTransition trip.status dto.status = true) :
    (statusCase trip userId role dto).wlp server cond (SwitchResult trip userId role dto k) k := by
  have hadvance : dto.status = .driverArriving ∨ dto.status = .inProgress ∨
      dto.status = .completed → (advanceCase trip userId role dto.status).wlp server cond
        (SwitchResult trip userId role dto k) k := by
    intro hstatus
    unfold advanceCase
    split_ifs
    · exact Or.inl ⟨⟨_, rfl⟩, .refl k⟩
    · exact wlp_assigned (f := advanceData trip dto.status)
        fun driverId k' hassigned hsame => .advanced hstatus hassigned hsame
  unfold statusCase
  cases hstatus : dto.status with
  | accepted => exact wlp_acceptCase hstatus
  | driverArriving =>
    rw [hstatus] at hadvance
    exact hadvance (Or.inl rfl)
  | inProgress =>
    rw [hstatus] at hadvance
    exact hadvance (Or.inr (Or.inl rfl))
  | completed =>
    rw [hstatus] at hadvance
    exact hadvance (Or.inr (Or.inr rfl))
  | cancelledByClient =>
    simp only [cancelByClientCase]
    split_ifs
    · exact Or.inl ⟨⟨_, rfl⟩, .refl k⟩
    · refine wlp_newDate_bind fun k₁ hk₁ => ?_
      refine Async.wlp_bind_of_ok (wlp_withdrawOffers _) fun _ k₂ hk₂ => ?_
      rw [hk₁.offers] at hk₂
      have hdone : Switched trip userId role dto k
          (cancelData dto.status dto.cancelReason k.store.now) k₂ :=
        .withdrawn (Or.inl hstatus) (hk₁.stays hk₂.1) hk₂.2
      rw [hstatus] at hdone
      exact Or.inr ⟨_, rfl, hdone⟩
  | cancelledByDriver =>
    simp only [cancelByDriverCase]
    split_ifs
    · exact Or.inl ⟨⟨_, rfl⟩, .refl k⟩
    · refine wlp_assigned (f := cancelData .cancelledByDriver dto.cancelReason)
        fun driverId k' hassigned hsame => ?_
      have hdone : Switched trip userId role dto k
          (cancelData dto.status dto.cancelReason k.store.now) k' :=
        .cancelledByDriver hstatus hassigned hsame
      rw [hstatus] at hdone
      exact hdone
  | cancelledAuto =>
    refine wlp_newDate_bind fun k₁ hk₁ => ?_
    refine Async.wlp_bind_of_ok (wlp_withdrawOffers _) fun _ k₂ hk₂ => ?_
    rw [hk₁.offers] at hk₂
    have hdone : Switched trip userId role dto k
        (cancelData dto.status (some (dto.cancelReason.getD "auto")) k.store.now) k₂ :=
      .withdrawn (Or.inr hstatus) (hk₁.stays hk₂.1) hk₂.2
    rw [hstatus] at hdone
    exact Or.inr ⟨_, rfl, hdone⟩
  | pending =>
    rw [hstatus] at htransition
    cases hsource : trip.status <;> rw [hsource] at htransition <;>
      exact absurd htransition (by decide)

/-! ### The requests -/

/-- A status was set: a case of the switch, then the write, then the report. -/
def StatusSet (tripId userId : ℕ) (role : UserRole) (dto : UpdateTripStatusDto) (k k' : Config) :
    Prop :=
  ∃ trip data k₁, k.store.trips.find? tripId = some trip ∧
    canTransition trip.status dto.status = true ∧ Switched trip userId role dto k data k₁ ∧
    k₁.Writes k' (k₁.store.trips.update tripId (data.apply k.store.now) (data.id_apply k.store.now))
      (statusEvent (data.apply k.store.now trip) userId dto.cancelReason).toList

theorem Switched.now_eq {data : TripData} (h : Switched trip userId role dto k data k') :
    k'.store.now = k.store.now ∧ k'.store.trips = k.store.trips := by
  cases h with
  | accepted _ _ _ _ _ hstays _ => exact ⟨hstays.now, hstays.trips⟩
  | unlocked _ _ _ _ _ hsame => exact ⟨hsame.now, hsame.trips⟩
  | advanced _ _ hsame => exact ⟨hsame.now, hsame.trips⟩
  | withdrawn _ hstays _ => exact ⟨hstays.now, hstays.trips⟩
  | cancelledByDriver _ _ hsame => exact ⟨hsame.now, hsame.trips⟩

/-- An update that is refused has changed nothing. -/
theorem wlp_updateStatus_refused : (updateStatus tripId userId role dto).wlp server cond
    (fun r k' => ((∃ e, r = .error e) ∧ k.Same k') ∨ StatusSet tripId userId role dto k k') k := by
  rw [updateStatus, Async.bind_eq]
  refine wlp_getTrip_bind (fun trip k₁ htrip hk₁ => ?_) fun e k₁ _ hk₁ => Or.inl ⟨⟨e, rfl⟩, hk₁⟩
  split_ifs with htransition
  · apply Async.wlp_bind
    refine Async.wlp_mono (wlp_statusCase htransition) ?_
    rintro r k₂ (⟨⟨e, rfl⟩, hk₂⟩ | ⟨data, rfl, hswitched⟩)
    · exact Or.inl ⟨⟨e, rfl⟩, hk₁.trans hk₂⟩
    · have hdone : Switched trip userId role dto k data k₂ := hswitched.of_same hk₁
      obtain ⟨hnow, htrips⟩ := hdone.now_eq
      have htrip₂ : k₂.store.trips.find? tripId = some trip := by
        rw [htrips]
        exact htrip
      have hid : trip.id = tripId := Table.key_of_find? htrip
      rw [Async.done_ok_bind, TripRepository.updateStatus, Async.bind_eq, Async.bind_eq,
        Async.bind_assoc]
      refine Async.wlp_bind (Async.wlp_mono (wlp_update_of_some htrip₂) ?_)
      rintro r k₃ ⟨rfl, hwrites⟩
      rw [Async.done_ok_bind]
      refine Async.wlp_bind (Async.wlp_mono wlp_findById ?_)
      rintro r k₄ ⟨rfl, hk₄⟩
      have hfound : k₃.store.trips.find? tripId = some (data.apply k₂.store.now trip) := by
        rw [hwrites.trips, Table.find?_update_self, htrip₂]
        rfl
      rw [Async.done_ok_bind, hfound]
      refine Async.wlp_mono (wlp_reportStatus _ userId _ _) ?_
      rintro r k₅ ⟨rfl, hstays, hoffers⟩
      refine Or.inr ⟨trip, data, k₂, htrip, htransition, hdone, ?_⟩
      rw [hnow] at hwrites hstays
      exact (hwrites.same hk₄).stays hstays hoffers
  · exact Or.inl ⟨⟨_, rfl⟩, hk₁⟩

theorem wlp_updateStatus : (updateStatus tripId userId role dto).wlp server cond
    (fun _ k' => k.Same k' ∨ StatusSet tripId userId role dto k k') k :=
  Async.wlp_mono wlp_updateStatus_refused fun _ _ h => h.imp_left And.right

theorem wlp_handleWsDriverAcceptRequested :
    (handleWsDriverAcceptRequested tripId userId).wlp server cond (fun _ k' =>
      k.Same k' ∨ StatusSet tripId userId .driver { status := .accepted } k k') k := by
  rw [handleWsDriverAcceptRequested]
  apply Async.wlp_tryCatch
  apply Async.wlp_bind
  refine Async.wlp_mono wlp_updateStatus ?_
  rintro r k' h
  cases r with
  | ok trip => exact h
  | error e => exact h

/-- The columns `completeTrip` writes. -/
def completeData (trip : Trip) (amount : ℚ) (now : ℕ) : TripData where
  status := some .completed
  completedAt := some now
  finalPrice := some trip.estimatedPrice
  paymentReceivedAt := some now
  paymentReceivedAmount := some amount

theorem wlp_completeTrip (dto : PaymentReceivedDto) :
    (completeTrip tripId userId role dto).wlp server cond (fun _ k' => k.Same k' ∨
      ∃ trip driverId, k.store.trips.find? tripId = some trip ∧ trip.status = .inProgress ∧
        trip.driverId = some driverId ∧
        k.Writes k' (k.store.trips.update tripId
            ((completeData trip dto.amount k.store.now).apply k.store.now) (TripData.id_apply _ _))
          (statusEvent ((completeData trip dto.amount k.store.now).apply k.store.now trip) userId
            none).toList) k := by
  unfold completeTrip
  split_ifs with hrole
  · exact Or.inl (.refl k)
  · rw [Async.bind_eq]
    refine wlp_getTrip_bind (fun trip k₁ htrip hk₁ => ?_) fun e k₁ _ hk₁ => Or.inl hk₁
    refine wlp_findDriverByUserId_bind fun k₂ hk₂ => ?_
    have hread := hk₁.trans hk₂
    split_ifs with hdriver hstatus htransition
    · exact Or.inl hread
    · exact Or.inl hread
    · refine wlp_newDate_bind fun k₃ hk₃ => ?_
      have hdate := hread.trans hk₃
      have htrip₃ : k₃.store.trips.find? tripId = some trip := by
        rw [hdate.trips]
        exact htrip
      refine Async.wlp_bind (Async.wlp_mono (wlp_update_of_some htrip₃) ?_)
      rintro r k₄ ⟨rfl, hwrites⟩
      rw [Async.done_ok_bind]
      have hfound : k₄.store.trips.find? tripId =
          some ((completeData trip dto.amount k₂.store.now).apply k₃.store.now trip) := by
        rw [hwrites.trips, Table.find?_update_self, htrip₃]
        rfl
      refine wlp_getTrip_bind (fun updated k₅ hupdated hk₅ => ?_) fun e k₅ hnone hk₅ => ?_
      · rw [hfound] at hupdated
        obtain rfl := Option.some.inj hupdated
        refine Async.wlp_mono (wlp_reportStatus _ userId _ _) ?_
        rintro r k₆ ⟨rfl, hstays, hoffers⟩
        rw [not_or, ne_eq, not_not] at hdriver
        obtain ⟨driverId, hdriverId⟩ : ∃ d, k₁.store.driverOf userId = some d := by
          cases hfind : k₁.store.driverOf userId with
          | none => exact absurd (by rw [hfind]; rfl) hdriver.1
          | some d => exact ⟨d, rfl⟩
        refine Or.inr ⟨trip, driverId, htrip, not_not.mp hstatus, hdriver.2.trans hdriverId, ?_⟩
        have hnow : k₂.store.now = k.store.now := hread.now
        rw [hdate.now, hnow] at hstays
        have hwrites' : k₃.Writes k₄ (k₃.store.trips.update tripId
            ((completeData trip dto.amount k₂.store.now).apply k₃.store.now)
              (TripData.id_apply _ _)) [] := hwrites
        simp only [hdate.now, hnow, hdate.trips] at hwrites'
        exact (hdate.writes (hwrites'.same hk₅)).stays hstays hoffers
      · rw [hfound] at hnone
        cases hnone
    · exact Or.inl hread

/-- The row is inserted, unless its vehicle type does not exist. -/
theorem wlp_insertWithGeometry (data : CreateTripData) :
    (TripRepository.insertWithGeometry data).wlp server cond (fun r k' =>
      ((∃ e, r = .error e) ∧ k.Same k') ∨
      (r = .ok k.store.trips.freshKey ∧
        (k.store.vehicleTypes.find? data.vehicleTypeId).isSome = true ∧
        k.Writes k' (k.store.trips.insert (data.row k.store.trips.freshKey k.store.now)) [])) k := by
  intro _
  have hexec : ((Cmd.insertTrip data).exec k.store).trips =
      if (k.store.vehicleTypes.find? data.vehicleTypeId).isSome then
        k.store.trips.insert (data.row k.store.trips.freshKey k.store.now)
      else k.store.trips := rfl
  rw [server_store, server_perform]
  dsimp only
  split_ifs at hexec ⊢ with htype
  · exact Or.inr ⟨rfl, htype, ⟨hexec, rfl, rfl, rfl, rfl, Cmd.offers_exec rfl⟩⟩
  · exact Or.inl ⟨⟨_, rfl⟩, ⟨hexec, rfl, rfl, rfl, rfl⟩, Cmd.offers_exec rfl⟩

theorem wlp_createDetails (serviceType : ServiceType) :
    (createDetails tripId serviceType).wlp server cond (fun r k' => ∃ a, r = .ok a ∧ k.Same k')
      k := by
  have hrow : k.Same (k.perform (.createDetails tripId)) := Config.same_perform rfl rfl rfl
  unfold createDetails
  cases serviceType with
  | assistance => exact ⟨(), rfl, .refl k⟩
  | _ => exact fun _ => ⟨(), rfl, hrow⟩

/-- A trip was created: its row is new, and it will be dispatched. -/
def Created (k k' : Config) : Prop :=
  ∃ (data : CreateTripData) (pickup : Point) (serviceType : ServiceType),
    (k.store.vehicleTypes.find? data.vehicleTypeId).isSome = true ∧
    k.Writes k' (k.store.trips.insert (data.row k.store.trips.freshKey k.store.now))
      [.tripCreated k.store.trips.freshKey pickup serviceType data.vehicleTypeId]

theorem wlp_createTrip (pricing : PricingEnv) (clientId : ℕ) (dto : CreateTripDto) :
    (createTrip pricing clientId dto).wlp server cond
      (fun _ k' => k.Same k' ∨ Created k k') k := by
  rw [createTrip, Async.bind_eq, Async.wlp_queryE_bind]
  intro _
  have hpriced : k.Same (k.perform .external) := Config.same_perform rfl rfl rfl
  rw [server_store, server_perform]
  cases pricing.calculatePrice dto.serviceType dto.vehicleTypeId dto.pickup dto.dropoff k.store with
  | error e => exact Or.inl hpriced
  | ok price =>
    rw [Async.done_ok_bind]
    refine Async.wlp_bind (Async.wlp_mono (wlp_insertWithGeometry _) ?_)
    rintro r k₁ (⟨⟨e, rfl⟩, hk₁⟩ | ⟨rfl, htype, hwrites⟩)
    · exact Or.inl (hpriced.trans hk₁)
    · rw [Async.done_ok_bind]
      refine Async.wlp_bind_of_ok (wlp_createDetails dto.serviceType) fun _ k₂ hk₂ => ?_
      have hinserted := hwrites.same hk₂
      have hfind := hinserted.trips
      refine wlp_getTrip_bind (fun trip k₃ htrip hk₃ => ?_) fun e k₃ hnone _ => ?_
      · rw [hfind, Table.find?_insert, Table.find?_freshKey, Option.none_or,
          CreateTripData.id_row, if_pos rfl] at htrip
        obtain rfl := Option.some.inj htrip
        intro _
        refine Or.inr ⟨_, dto.pickup, dto.serviceType, htype, ?_⟩
        exact hpriced.writes ((hinserted.same hk₃).stays (Config.stays_perform (c := .emit _) rfl) rfl)
      · rw [hfind, Table.find?_insert, Table.find?_freshKey, Option.none_or,
          CreateTripData.id_row, if_pos rfl] at hnone
        cases hnone

/-- A decline was accepted. -/
def Declined (env : DispatchEnv) (cond : Config → Cmd → Prop) (tripId driverId : ℕ)
    (k k' : Config) : Prop :=
  ∃ k₁ r, k.Stays k₁ [] ∧
    Offers.Withdrawn tripId (· = driverId) (fun _ => some .driverDeclined) k.store.offers
      k₁.store.offers ∧ Retried env cond tripId k₁ r k'

theorem Declined.of_same {env : DispatchEnv} {driverId : ℕ} {k'' : Config} (h : k.Same k')
    (h' : Declined env cond tripId driverId k' k'') : Declined env cond tripId driverId k k'' := by
  obtain ⟨k₁, r, hstays, hwithdrawn, hretried⟩ := h'
  rw [h.offers] at hwithdrawn
  exact ⟨k₁, r, h.stays hstays, hwithdrawn, hretried⟩

theorem wlp_declineTrip (env : DispatchEnv) :
    (declineTrip env tripId userId).wlp server cond (fun _ k' => k.Same k' ∨
      ∃ driverId, k.store.driverOf userId = some driverId ∧
        Declined env cond tripId driverId k k') k := by
  rw [declineTrip, Async.bind_eq]
  refine wlp_getTrip_bind (fun trip k₁ htrip hk₁ => ?_) fun e k₁ _ hk₁ => Or.inl hk₁
  refine wlp_findDriverByUserId_bind fun k₂ hk₂ => ?_
  have hdriverOf : k₁.store.driverOf userId = k.store.driverOf userId := by
    rw [Store.driverOf, hk₁.drivers, Store.driverOf]
  rw [hdriverOf]
  cases hdriver : k.store.driverOf userId with
  | none => exact Or.inl (hk₁.trans hk₂)
  | some driverId =>
    dsimp only
    rw [Async.bind_eq, TripRepository.hasActiveDispatchAttempt, Async.wlp_query_bind]
    intro _
    have hasked := (hk₁.trans hk₂).trans
      (Config.same_perform (c := .findActiveAttempt tripId driverId) rfl rfl rfl)
    rw [server_store, server_perform]
    split_ifs
    · refine Async.wlp_mono (wlp_handleDriverDeclineAndRetry env) ?_
      rintro r k' ⟨k₃, hstays, hwithdrawn, hretried⟩
      exact Or.inr ⟨driverId, rfl, Declined.of_same hasked ⟨k₃, r, hstays, hwithdrawn, hretried⟩⟩
    · exact Or.inl hasked

/-! ### The event handlers -/

theorem wlp_broadcastAccepted (geo : GeoEnv) (trip : Trip) (driverId : ℕ) :
    (broadcastAccepted geo trip driverId).wlp server cond (fun _ k' => k.Same k') k := by
  refine Async.Only.wlp (A := fun k' => k.Same k') (fun c k' hc _ hk' => hk'.trans ?_)
    (onlyReads_broadcastAccepted geo trip driverId) (.refl k)
  cases c <;> first | exact Config.same_perform rfl rfl rfl | simp [Cmd.reads] at hc

theorem wlp_handleDriverAssigned (geo : GeoEnv) (driverId : ℕ) :
    (handleDriverAssigned geo tripId driverId).wlp server cond (fun _ k' =>
      ∃ events, (∀ event ∈ events, ∃ clientId, event = .tripAccepted tripId driverId clientId) ∧
        k.Writes k' (k.store.trips.update tripId ((acceptData driverId k.store.now).apply
          k.store.now) (TripData.id_apply _ _)) events) k := by
  rw [handleDriverAssigned, TripRepository.assignDriver, Async.bind_eq, Async.bind_eq,
    Async.bind_assoc]
  refine wlp_newDate_bind fun k₁ hk₁ => ?_
  refine Async.wlp_bind (Async.wlp_mono wlp_update ?_)
  rintro r k₂ ⟨rfl, hwrites⟩
  have hwrites' := hk₁.writes hwrites
  simp only [hk₁.trips, hk₁.now] at hwrites' ⊢
  cases htrip : k.store.trips.find? tripId with
  | none => exact ⟨[], by simp, hwrites'⟩
  | some trip =>
    have hid : trip.id = tripId := Table.key_of_find? htrip
    show Async.wlp server cond (Async.bind (broadcastAccepted geo _ driverId) _) _ _
    refine Async.wlp_bind (Async.wlp_mono (wlp_broadcastAccepted geo _ driverId) ?_)
    intro r k₃ hk₃
    cases r with
    | error e => exact ⟨[], by simp, hwrites'.same hk₃⟩
    | ok _ =>
      intro _
      refine ⟨[.tripAccepted trip.id driverId trip.clientId], ?_,
        (hwrites'.same hk₃).stays (Config.stays_perform (c := .emit _) rfl) rfl⟩
      rw [hid]
      simp

theorem wlp_handleDispatchFailed (reason : String) :
    (handleDispatchFailed tripId reason).wlp server cond (fun _ k' =>
      k.Writes k' (k.store.trips.updateMany
        (fun trip => decide (trip.id = tripId) && decide (trip.status = .pending))
        ((cancelData .cancelledAuto (some reason) k.store.now).apply k.store.now)
        (TripData.id_apply _ _)) []) k := by
  rw [handleDispatchFailed, TripRepository.updateStatusIfPending, Async.bind_eq, Async.bind_eq,
    Async.bind_assoc]
  refine wlp_newDate_bind fun k₁ hk₁ => ?_
  intro _
  have hwrites : k₁.Writes (k₁.perform (.updateTripIfPending tripId
      (cancelData .cancelledAuto (some reason) k.store.now))) (k₁.store.trips.updateMany
        (fun trip => decide (trip.id = tripId) && decide (trip.status = .pending))
        ((cancelData .cancelledAuto (some reason) k.store.now).apply k₁.store.now)
        (TripData.id_apply _ _)) [] :=
    ⟨rfl, rfl, rfl, rfl, rfl, Cmd.offers_exec rfl⟩
  have hwrites' := hk₁.writes hwrites
  simp only [hk₁.trips, hk₁.now] at hwrites'
  show Async.wlp server cond ((TripRepository.findById tripId).bind _) _ _
  refine Async.wlp_bind (Async.wlp_mono wlp_findById ?_)
  rintro r k₂ ⟨rfl, hk₂⟩
  rw [Async.done_ok_bind]
  split
  · exact fun _ => (hwrites'.same hk₂).same (Config.same_perform rfl rfl rfl)
  · exact hwrites'.same hk₂

end TripsService

/-! ### The commission of a completed trip -/

/-- The trip and its driver are charged. -/
structure Config.Charges (k k' : Config) (trip : Trip) (driverId : ℕ) (price : Decimal2)
    (vehicleType : VehicleType) : Prop where
  trips : k'.store.trips = k.store.trips.update trip.id
    (Trip.charge (commissionOf price.toNumber vehicleType.commissionPercentage.toNumber) k.store.now)
    (Trip.id_charge _ _)
  drivers : k'.store.drivers = k.store.drivers.update driverId
    (Driver.charge (commissionOf price.toNumber vehicleType.commissionPercentage.toNumber)
      price.toNumber) (Driver.id_charge _ _)
  vehicleTypes : k'.store.vehicleTypes = k.store.vehicleTypes
  now : k'.store.now = k.store.now
  todo : k'.todo = k.todo
  offers : k'.store.offers = k.store.offers

/-- A trip with a driver and a price is charged. -/
theorem CommissionsService.wlp_handleTripCompleted {cond : Config → Cmd → Prop} {k : Config}
    (tripId : ℕ) : (handleTripCompleted tripId).wlp server cond (fun _ k' =>
      (k.Same k' ∧ ∀ trip driverId, k.store.trips.find? tripId = some trip →
        trip.driverId = some driverId → (k.store.drivers.find? driverId).isSome = true →
        (k.store.vehicleTypes.find? trip.vehicleTypeId).isSome = true → trip.finalPrice = none) ∨
      ∃ trip driverId price vehicleType, k.store.trips.find? tripId = some trip ∧
        trip.driverId = some driverId ∧ trip.finalPrice = some price ∧
        k.store.vehicleTypes.find? trip.vehicleTypeId = some vehicleType ∧
        k.Charges k' trip driverId price vehicleType) k := by
  rw [handleTripCompleted, findTripWithVehicleType, Async.bind_eq, Async.wlp_query_bind]
  intro _
  have hfind : k.Same (k.perform (.findTrip tripId)) := Config.same_perform rfl rfl rfl
  rw [server_store, server_perform]
  cases htrip : k.store.trips.find? tripId with
  | none =>
    refine Or.inl ⟨hfind, fun trip _ h => ?_⟩
    cases h
  | some trip =>
    have hid : trip.id = tripId := Table.key_of_find? htrip
    have hskipped : trip.driverId = none ∨ trip.finalPrice = none ∨
        k.store.vehicleTypes.find? trip.vehicleTypeId = none ∨
        (∃ driverId, trip.driverId = some driverId ∧ k.store.drivers.find? driverId = none) →
        ∀ trip' driverId, some trip = some trip' → trip'.driverId = some driverId →
          (k.store.drivers.find? driverId).isSome = true →
          (k.store.vehicleTypes.find? trip'.vehicleTypeId).isSome = true → trip'.finalPrice = none := by
      rintro hnone _ driverId ⟨⟩ hdriver hsome htype
      rcases hnone with h | h | h | ⟨d, hd, h⟩
      · rw [h] at hdriver
        cases hdriver
      · exact h
      · rw [h] at htype
        cases htype
      · obtain rfl := Option.some.inj (hd.symm.trans hdriver)
        rw [h] at hsome
        cases hsome
    rw [Option.map_some]
    dsimp only
    cases hdriver : trip.driverId with
    | none => exact Or.inl ⟨hfind, hskipped (Or.inl hdriver)⟩
    | some driverId =>
      cases hprice : trip.finalPrice with
      | none => exact Or.inl ⟨hfind, hskipped (Or.inr (Or.inl hprice))⟩
      | some price =>
        cases htype : k.store.vehicleTypes.find? trip.vehicleTypeId with
        | none => exact Or.inl ⟨hfind, hskipped (Or.inr (Or.inr (Or.inl htype)))⟩
        | some vehicleType =>
          intro _
          cases hcharge : Cmd.chargeable k.store trip.id driverId with
          | true =>
            refine Or.inr ⟨trip, driverId, price, vehicleType, rfl, hdriver, hprice, htype, ?_⟩
            have htrips : ∀ c p, ((Cmd.chargeCommission trip.id driverId c p).exec k.store).trips =
                k.store.trips.update trip.id (Trip.charge c k.store.now) (Trip.id_charge _ _) := by
              intro c p
              simp only [Cmd.exec, hcharge, if_true]
            have hdrivers : ∀ c p, ((Cmd.chargeCommission trip.id driverId c p).exec k.store).drivers =
                k.store.drivers.update driverId (Driver.charge c p) (Driver.id_charge _ _) := by
              intro c p
              simp only [Cmd.exec, hcharge, if_true]
            refine ⟨htrips _ _, hdrivers _ _, rfl, rfl, ?_, Cmd.offers_exec rfl⟩
            show (k.todo ++ []) ++ [] = k.todo
            rw [List.append_nil, List.append_nil]
          | false =>
            have hexec : ∀ c p, ((Cmd.chargeCommission trip.id driverId c p).exec k.store) =
                k.store := by
              intro c p
              simp only [Cmd.exec, hcharge]
              rfl
            have hgone : k.store.drivers.find? driverId = none := by
              rw [Cmd.chargeable, hid, htrip, Option.isSome_some, Bool.true_and] at hcharge
              exact Option.not_isSome_iff_eq_none.mp (Bool.eq_false_iff.mp hcharge)
            refine Or.inl ⟨hfind.trans ⟨⟨?_, ?_, rfl, rfl, rfl⟩, Cmd.offers_exec rfl⟩,
              hskipped (Or.inr (Or.inr (Or.inr ⟨driverId, hdriver, hgone⟩)))⟩
            · exact congrArg Store.trips (hexec _ _)
            · exact congrArg Store.drivers (hexec _ _)

/-! ### The sweep and the recovery -/

namespace DispatchRecoveryService

variable {cond : Config → Cmd → Prop} {k : Config}

/-- The columns the sweep writes. -/
def staleData : TripData where
  status := some .cancelledAuto
  cancelReason := some "driver_unresponsive"

/-- A trip was swept: cancelled, and its offers withdrawn. -/
def Swept (tripId : ℕ) (k k' : Config) : Prop :=
  ∃ k₁, k.Writes k₁ (k.store.trips.update tripId (staleData.apply k.store.now)
      (staleData.id_apply _)) [] ∧ k₁.Stays k' [] ∧
    Offers.Withdrawn tripId (k.store.offers.Notified tripId) (fun _ => some .timedOut)
      k.store.offers k'.store.offers

theorem wlp_cancelStale {trip row : Trip} (hrow : k.store.trips.find? trip.id = some row) :
    (cancelStale trip).wlp server cond (fun r k' => r = .ok () ∧ Swept trip.id k k') k := by
  have hswept : ∀ {r : Except Error Unit} {k' : Config}, (∃ a, r = .ok a ∧ Swept trip.id k k') →
      r = .ok () ∧ Swept trip.id k k' := by
    rintro r k' ⟨a, rfl, h⟩
    exact ⟨rfl, h⟩
  rw [cancelStale]
  refine Async.wlp_mono (Async.wlp_tryCatch_of_ok (R := fun _ k' => Swept trip.id k k') ?_)
    fun r k' h => hswept h
  refine Async.wlp_bind (Async.wlp_mono (@wlp_update_of_some _ _ _ _ staleData hrow) ?_)
  rintro r k₁ ⟨rfl, hwrites⟩
  rw [Async.done_ok_bind]
  refine Async.wlp_bind_of_ok wlp_releaseLocksForTrip fun _ k₂ hk₂ => ?_
  rw [hwrites.offers] at hk₂
  split
  · exact fun _ => ⟨(), rfl, k₁, hwrites, hk₂.1.same (Config.same_perform rfl rfl rfl), hk₂.2⟩
  · exact ⟨(), rfl, k₁, hwrites, hk₂.1, hk₂.2⟩

/-- A trip was searched for anew, after its offers were withdrawn. -/
def Redispatched (env : DispatchEnv) (cond : Config → Cmd → Prop) (tripId : ℕ) (k k' : Config) :
    Prop :=
  ∃ k₁ serviceType r, k.Stays k₁ [] ∧
    Offers.Withdrawn tripId (k.store.offers.Notified tripId) (fun _ => some .timedOut)
      k.store.offers k₁.store.offers ∧ Searched env cond tripId serviceType k₁ r k'

theorem wlp_redispatch (env : DispatchEnv) {trip row : Trip}
    (hrow : k.store.trips.find? trip.id = some row) :
    (redispatch env trip).wlp server cond (fun _ k' => Redispatched env cond trip.id k k') k := by
  rw [redispatch, Async.bind_eq]
  refine Async.wlp_bind_of_ok wlp_releaseLocksForTrip fun _ k₁ hk₁ => ?_
  rw [Async.bind_eq, getPickup, Async.wlp_query_bind]
  intro _
  rw [server_store, hk₁.1.trips, hrow, Option.map_some]
  refine Async.wlp_mono (wlp_attemptDispatch env _ _ _) fun r k' h => ?_
  exact ⟨k₁, trip.serviceType, r, hk₁.1, hk₁.2, h.of_same (Config.same_perform rfl rfl rfl)⟩

theorem wlp_recoverTrip (env : DispatchEnv) (quiet : Bool) (now : ℕ) {trip row : Trip}
    (hrow : k.store.trips.find? trip.id = some row) :
    (recoverTrip env quiet now trip).wlp server cond (fun r k' => r = .ok () ∧
      (k.Same k' ∨ GivenUp cond trip.id k k' ∨ Redispatched env cond trip.id k k')) k := by
  unfold recoverTrip
  by_cases hyoung : quiet = true ∧ now < trip.createdAt + redispatchMinAgeMs
  · rw [if_pos hyoung]
    exact ⟨rfl, Or.inl (.refl k)⟩
  · rw [if_neg hyoung]
    apply Async.wlp_tryCatch
    by_cases hold : trip.createdAt + redispatchMaxAgeMs < now
    · rw [if_pos hold]
      refine Async.wlp_mono wlp_emitDispatchFailed ?_
      rintro r k' ⟨rfl, hfailed⟩
      exact ⟨rfl, Or.inr (Or.inl hfailed)⟩
    · rw [if_neg hold]
      refine Async.wlp_mono (wlp_redispatch env hrow) ?_
      intro r k' h
      cases r with
      | ok a => exact ⟨rfl, Or.inr (Or.inr h)⟩
      | error e => exact ⟨rfl, Or.inr (Or.inr h)⟩

end DispatchRecoveryService

end Telima
