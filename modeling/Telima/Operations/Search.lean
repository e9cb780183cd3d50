import Telima.Operations.Rows

/-!
# No orphaned search

A pending trip is offered to some driver, or one of the two events that start or end its search is
still to be handled.  The search of a trip either offers it or gives it up.
-/

namespace Telima

open TripsService DispatchService DispatchRecoveryService

/-- The trip is offered, or its search has not started, or it has failed. -/
def Config.Sought (k : Config) (tripId : ℕ) : Prop :=
  (∃ d, k.store.offers.Notified tripId d) ∨
    (∃ pickup serviceType vehicleTypeId,
      .tripCreated tripId pickup serviceType vehicleTypeId ∈ k.todo) ∨
    ∃ reason, .dispatchFailed tripId reason ∈ k.todo

/-- Every pending trip is sought, and every trip has its vehicle type. -/
structure Config.NoOrphan (k : Config) : Prop where
  sought : ∀ t, k.store.tripStatus t = some .pending → k.Sought t
  typed : ∀ t trip, k.store.trips.find? t = some trip →
    (k.store.vehicleTypes.find? trip.vehicleTypeId).isSome = true

namespace Config

variable {k k' : Config} {tripId : ℕ} {events : List DomainEvent}

theorem Sought.mono {t : ℕ} (h : k.Sought t)
    (hnotified : ∀ d, k.store.offers.Notified t d → k'.store.offers.Notified t d)
    (htodo : ∀ event ∈ k.todo, event.isReport = false → event ∈ k'.todo) : k'.Sought t := by
  rcases h with ⟨d, hd⟩ | ⟨p, s, v, hmem⟩ | ⟨r, hmem⟩
  · exact Or.inl ⟨d, hnotified d hd⟩
  · exact Or.inr (Or.inl ⟨p, s, v, htodo _ hmem rfl⟩)
  · exact Or.inr (Or.inr ⟨r, htodo _ hmem rfl⟩)

/-- The status of every trip but one is as it was. -/
theorem Stays.tripStatus (h : k.Stays k' events) (t : ℕ) :
    k'.store.tripStatus t = k.store.tripStatus t := by
  rw [Store.tripStatus, h.trips, Store.tripStatus]

theorem Stays.typed (h : k.Stays k' events)
    (htyped : ∀ t trip, k.store.trips.find? t = some trip →
      (k.store.vehicleTypes.find? trip.vehicleTypeId).isSome = true) :
    ∀ t trip, k'.store.trips.find? t = some trip →
      (k'.store.vehicleTypes.find? trip.vehicleTypeId).isSome = true := by
  intro t trip htrip
  rw [h.trips] at htrip
  rw [h.vehicleTypes]
  exact htyped t trip htrip

end Config

variable {env : Env} {pricing : PricingEnv} {admits : Config → Operation → Prop}
variable {cond : Config → Cmd → Prop} {k k' : Config} {tripId : ℕ}

/-- A search offers the trip or gives it up, and leaves the other offers alone. -/
theorem DispatchService.Searched.sought {serviceType : ServiceType} {r : Except Error Unit}
    (h : Searched env.dispatch cond tripId serviceType k r k')
    (hothers : ∀ t, t ≠ tripId → k.store.tripStatus t = some .pending → k.Sought t)
    (htyped : ∀ t trip, k.store.trips.find? t = some trip →
      (k.store.vehicleTypes.find? trip.vehicleTypeId).isSome = true) : k'.NoOrphan := by
  obtain ⟨events, hstays, -⟩ := h.stays
  have hgrows : ∀ t d, k.store.offers.Notified t d → k'.store.offers.Notified t d := by
    intro t d hn
    cases h with
    | notified hall =>
      refine NotifiesAll.induction (P := fun k' => k'.store.offers.Notified t d)
        (fun hsame hk => hsame.offers ▸ hk) (fun _ _ _ hoffered _ hk => ?_) hall hn
      exact hoffered.notified.mpr (Or.inr hk)
    | failed hfailed =>
      obtain ⟨_, _, _, _, _, hoffers⟩ := hfailed
      exact hoffers ▸ hn
    | broken _ _ hsame => exact hsame.offers ▸ hn
  have hself : k'.Sought tripId := by
    cases h with
    | notified hall =>
      obtain ⟨k₁, -, k₀, d, seconds, _, _, -, -, -, hoffered, -⟩ :=
        Relation.TransGen.tail'_iff.mp hall
      exact Or.inl ⟨d, hoffered.notified.mpr (Or.inl ⟨rfl, rfl⟩)⟩
    | failed hfailed =>
      obtain ⟨reason, k₀, -, -, hstays, -⟩ := hfailed
      refine Or.inr (Or.inr ⟨reason, ?_⟩)
      rw [hstays.todo]
      exact List.mem_append_right _ (List.mem_singleton_self _)
    | broken htrip htype _ =>
      have hsome := htyped _ _ htrip
      rw [htype] at hsome
      cases hsome
  refine ⟨fun t hpending => ?_, hstays.typed htyped⟩
  by_cases ht : t = tripId
  · rw [ht]
    exact hself
  · rw [hstays.tripStatus] at hpending
    refine (hothers t ht hpending).mono (hgrows t) fun event hmem _ => ?_
    rw [hstays.todo]
    exact List.mem_append_left _ hmem

theorem DispatchService.Retried.sought {r : Except Error Unit}
    (h : Retried env.dispatch cond tripId k r k')
    (hothers : ∀ t, t ≠ tripId → k.store.tripStatus t = some .pending → k.Sought t)
    (htyped : ∀ t trip, k.store.trips.find? t = some trip →
      (k.store.vehicleTypes.find? trip.vehicleTypeId).isSome = true) : k'.NoOrphan := by
  cases h with
  | settled hover hsame =>
    refine ⟨fun t hpending => ?_, hsame.toStays.typed htyped⟩
    rw [hsame.toStays.tripStatus] at hpending
    have hsought : k.Sought t := by
      by_cases ht : t = tripId
      · subst ht
        exact Or.inl (hover hpending)
      · exact hothers t ht hpending
    refine hsought.mono (fun d hd => hsame.offers ▸ hd) fun event hmem _ => ?_
    rw [hsame.todo]
    exact List.mem_append_left _ hmem
  | again _ _ hsearched => exact hsearched.sought hothers htyped

/-- The offers of one trip are withdrawn; every other pending trip is still sought. -/
theorem sought_of_closed {X : ℕ → Prop} {answer : ℕ → Option DispatchStatus}
    {events : List DomainEvent} (hk : k.NoOrphan) (hstays : k.Stays k' events)
    {o : Offers} (ho : o.status = k.store.offers.status)
    (hclosed : Offers.Closed tripId X answer o k'.store.offers) (t : ℕ)
    (ht : t ≠ tripId) (hpending : k'.store.tripStatus t = some .pending) : k'.Sought t := by
  rw [hstays.tripStatus] at hpending
  refine (hk.sought t hpending).mono (fun d hd => ?_) fun event hmem _ => ?_
  · have hn : o.Notified t d := (congrFun (congrFun ho t) d).trans hd
    exact hclosed.keeps_notified hn fun h => absurd h ht
  · rw [hstays.todo]
    exact List.mem_append_left _ hmem

/-- One trip is written, and is not pending afterwards. -/
theorem noOrphan_of_writes {data : TripData} {n : ℕ} {events : List DomainEvent}
    {status : TripStatus} (hk : ∀ t, t ≠ tripId → k.store.tripStatus t = some .pending → k.Sought t)
    (htyped : ∀ t trip, k.store.trips.find? t = some trip →
      (k.store.vehicleTypes.find? trip.vehicleTypeId).isSome = true)
    (hwrites : k.Writes k' (k.store.trips.update tripId (data.apply n) (data.id_apply n)) events)
    (hstatus : data.status = some status) (hne : status ≠ .pending) : k'.NoOrphan := by
  have hfind : ∀ t, k'.store.trips.find? t =
      if t = tripId then (k.store.trips.find? t).map (data.apply n) else k.store.trips.find? t := by
    intro t
    rw [hwrites.trips, Table.find?_update]
  refine ⟨fun t hpending => ?_, fun t trip htrip => ?_⟩
  · by_cases ht : t = tripId
    · -- the written trip has the new status
      rw [Store.tripStatus, hfind, if_pos ht, Option.map_map] at hpending
      obtain ⟨trip, -, htrip⟩ := Option.map_eq_some_iff.mp hpending
      simp only [Function.comp_apply, TripData.apply, hstatus, Option.getD_some] at htrip
      exact absurd htrip hne
    · rw [Store.tripStatus, hfind, if_neg ht] at hpending
      refine (hk t ht hpending).mono (fun d hd => hwrites.offers ▸ hd) fun event hmem _ => ?_
      rw [hwrites.todo]
      exact List.mem_append_left _ hmem
  · rw [hwrites.vehicleTypes]
    rw [hfind] at htrip
    split_ifs at htrip
    · obtain ⟨trip', htrip', rfl⟩ := Option.map_eq_some_iff.mp htrip
      exact htyped t trip' htrip'
    · exact htyped t trip htrip

theorem Config.Same.noOrphan (h : k.Same k') (hk : k.NoOrphan) : k'.NoOrphan := by
  refine ⟨fun t hpending => ?_, h.toStays.typed hk.typed⟩
  rw [h.toStays.tripStatus] at hpending
  refine (hk.sought t hpending).mono (fun d hd => h.offers ▸ hd) fun event hmem _ => ?_
  rw [h.todo]
  exact List.mem_append_left _ hmem

/-- The switch leaves the offers of other trips alone. -/
theorem TripsService.Switched.sought {trip : Trip} {userId : ℕ} {role : UserRole}
    {dto : UpdateTripStatusDto} {data : TripData} (h : Switched trip userId role dto k data k')
    (hk : k.NoOrphan) (t : ℕ) (ht : t ≠ trip.id)
    (hpending : k'.store.tripStatus t = some .pending) : k'.Sought t := by
  have hsame : k.Same k' → k'.Sought t := fun hsame => (hsame.noOrphan hk).sought t hpending
  cases h with
  | accepted _ _ _ _ _ hstays haccepted =>
    exact sought_of_closed hk hstays rfl (Offers.Withdrawn.toClosed haccepted) t ht hpending
  | unlocked _ _ _ _ _ h => exact hsame h
  | advanced _ _ h => exact hsame h
  | withdrawn _ hstays hwithdrawn =>
    exact sought_of_closed hk hstays rfl hwithdrawn.toClosed t ht hpending
  | cancelledByDriver _ _ h => exact hsame h

theorem TripsService.Switched.typed {trip : Trip} {userId : ℕ} {role : UserRole}
    {dto : UpdateTripStatusDto} {data : TripData} (h : Switched trip userId role dto k data k')
    (hk : k.NoOrphan) : ∀ t trip, k'.store.trips.find? t = some trip →
      (k'.store.vehicleTypes.find? trip.vehicleTypeId).isSome = true := by
  cases h with
  | accepted _ _ _ _ _ hstays => exact hstays.typed hk.typed
  | unlocked _ _ _ _ _ hsame => exact hsame.toStays.typed hk.typed
  | advanced _ _ hsame => exact hsame.toStays.typed hk.typed
  | withdrawn _ hstays => exact hstays.typed hk.typed
  | cancelledByDriver _ _ hsame => exact hsame.toStays.typed hk.typed

/-- The next event is taken, and does not concern the trip's search. -/
theorem Config.Sought.pop {t : ℕ} {event : DomainEvent} {todo : List DomainEvent} (h : k.Sought t)
    (htodo : k.todo = event :: todo)
    (hcreated : ∀ pickup serviceType vehicleTypeId,
      event ≠ .tripCreated t pickup serviceType vehicleTypeId)
    (hfailed : ∀ reason, event ≠ .dispatchFailed t reason) : Config.Sought { k with todo } t := by
  unfold Config.Sought at h
  rw [htodo] at h
  rcases h with hn | ⟨p, s, v, hmem⟩ | ⟨r, hmem⟩
  · exact Or.inl hn
  · exact Or.inr (Or.inl ⟨p, s, v, (List.mem_cons.mp hmem).resolve_left (hcreated p s v).symm⟩)
  · exact Or.inr (Or.inr ⟨r, (List.mem_cons.mp hmem).resolve_left (hfailed r).symm⟩)

/-- A report is taken. -/
theorem Config.NoOrphan.pop {event : DomainEvent} {todo : List DomainEvent} (hk : k.NoOrphan)
    (htodo : k.todo = event :: todo) (hreport : event.isReport = true) :
    Config.NoOrphan { k with todo } := by
  refine ⟨fun t hpending => (hk.sought t hpending).pop htodo (fun p s v h => ?_) fun r h => ?_,
    hk.typed⟩
  · rw [h] at hreport
    cases hreport
  · rw [h] at hreport
    cases hreport

theorem Effect.noOrphan (h : Effect env admits cond k k') (hk : k.NoOrphan) : k'.NoOrphan := by
  cases h with
  | same hsame => exact hsame.noOrphan hk
  | waited _ _ =>
    exact ⟨fun t hpending => (hk.sought t hpending).mono (fun _ => id) fun _ hmem _ =>
      List.mem_append_left _ hmem, hk.typed⟩
  | created _ hcreated =>
    obtain ⟨data, pickup, serviceType, htype, hwrites⟩ := hcreated
    have hfind : ∀ t, k'.store.trips.find? t = (k.store.trips.find? t).or
        (if k.store.trips.freshKey = t then some (data.row k.store.trips.freshKey k.store.now)
          else none) := by
      intro t
      rw [hwrites.trips, Table.find?_insert, CreateTripData.id_row]
    refine ⟨fun t hpending => ?_, fun t trip htrip => ?_⟩
    -- the new trip waits for its `TripCreated`; the other pending trips are the old ones
    · by_cases ht : k.store.trips.freshKey = t
      · refine Or.inr (Or.inl ⟨pickup, serviceType, data.vehicleTypeId, ?_⟩)
        rw [hwrites.todo, ht]
        exact List.mem_append_right _ (List.mem_singleton_self _)
      · rw [Store.tripStatus, hfind, if_neg ht, Option.or_none] at hpending
        refine (hk.sought t hpending).mono (fun d hd => hwrites.offers ▸ hd) fun event hmem _ => ?_
        rw [hwrites.todo]
        exact List.mem_append_left _ hmem
    · rw [hwrites.vehicleTypes]
      rw [hfind, Option.or_eq_some_iff] at htrip
      rcases htrip with htrip | ⟨-, htrip⟩
      · exact hk.typed t trip htrip
      · split_ifs at htrip
        obtain rfl := Option.some.inj htrip
        exact htype
  | @statusSet op tripId userId role dto _ _ _ _ hset =>
    obtain ⟨trip, data, k₁, htrip, htransition, hswitched, hwrites⟩ := hset
    obtain rfl : trip.id = tripId := Table.key_of_find? htrip
    -- no transition of the table leads to `pending`
    exact noOrphan_of_writes (hswitched.sought hk) (hswitched.typed hk) hwrites hswitched.status_eq
      (ne_pending_of_canTransition htransition)
  | completed _ _ _ _ _ hwrites =>
    exact noOrphan_of_writes (fun t _ => hk.sought t) hk.typed hwrites rfl TripStatus.noConfusion
  | declined _ _ _ hdeclined =>
    obtain ⟨k₁, r, hstays, hwithdrawn, hretried⟩ := hdeclined
    exact hretried.sought (sought_of_closed hk hstays rfl hwithdrawn.toClosed) (hstays.typed hk.typed)
  | timedOut _ _ _ hstays hclosed hretried =>
    exact hretried.sought (sought_of_closed hk hstays (by rfl) hclosed.toClosed) (hstays.typed hk.typed)
  | givenUp _ _ _ hfailed =>
    have hsearched : Searched env.dispatch cond _ .ride k (.ok ()) k' := .failed hfailed
    exact hsearched.sought (fun t _ => hk.sought t) hk.typed
  | redispatched _ _ _ hsearched =>
    obtain ⟨k₁, serviceType, r, hstays, hwithdrawn, hsearched⟩ := hsearched
    exact hsearched.sought (sought_of_closed hk hstays rfl hwithdrawn.toClosed) (hstays.typed hk.typed)
  | @swept tripId _ _ _ _ _ hswept _ =>
    obtain ⟨k₁, hwrites, hstays, hwithdrawn⟩ := hswept
    have hk₁ : k₁.NoOrphan :=
      noOrphan_of_writes (fun t _ => hk.sought t) hk.typed hwrites rfl TripStatus.noConfusion
    rw [← hwrites.offers] at hwithdrawn
    refine ⟨fun t hpending => ?_, hstays.typed hk₁.typed⟩
    by_cases ht : t = tripId
    · -- the swept trip is cancelled
      rw [hstays.tripStatus, Store.tripStatus, hwrites.trips, ht, Table.find?_update_self,
        Option.map_map] at hpending
      obtain ⟨trip, -, htrip⟩ := Option.map_eq_some_iff.mp hpending
      cases htrip
    · exact sought_of_closed hk₁ hstays rfl hwithdrawn.toClosed t ht hpending
  | rearmed _ _ _ _ hstays hoffers =>
    refine ⟨fun t hpending => ?_, hstays.typed hk.typed⟩
    rw [hstays.tripStatus] at hpending
    refine (hk.sought t hpending).mono (fun d hd => ?_) fun event hmem _ => ?_
    · rw [hoffers, Offers.notified_rearm]
      exact Or.inr hd
    · rw [hstays.todo]
      exact List.mem_append_left _ hmem
  | dispatched htodo hsearched =>
    refine hsearched.sought (fun t ht hpending => ?_) hk.typed
    refine (hk.sought t hpending).pop htodo (fun p s v h => ?_) fun r h => ?_
    · exact ht (DomainEvent.tripCreated.inj h).1.symm
    · cases h
  | @assigned tripId driverId todo events _ htodo _ hwrites =>
    refine noOrphan_of_writes (k := { k with todo }) (fun t _ hpending => ?_) hk.typed hwrites rfl TripStatus.noConfusion
    refine (hk.sought t hpending).pop htodo (fun p s v h => ?_) fun r h => ?_
    · cases h
    · cases h
  | @cancelled tripId reason todo _ htodo hwrites =>
    have hfind : ∀ t, k'.store.trips.find? t = (k.store.trips.find? t).map fun trip =>
        if (decide (trip.id = tripId) && decide (trip.status = .pending)) = true then
          (cancelData .cancelledAuto (some reason) k.store.now).apply k.store.now trip
        else trip := by
      intro t
      rw [hwrites.trips, Table.find?_updateMany]
    refine ⟨fun t hpending => ?_, fun t trip htrip => ?_⟩
    -- a trip that is still pending is not the one whose report is taken
    · rw [Store.tripStatus, hfind, Option.map_map] at hpending
      obtain ⟨trip, htrip, hstatus⟩ := Option.map_eq_some_iff.mp hpending
      rw [Function.comp_apply] at hstatus
      split_ifs at hstatus with hsel
      · cases hstatus
      · have hid : trip.id = t := Table.key_of_find? htrip
        have ht : t ≠ tripId := by
          rintro rfl
          simp [hid, hstatus] at hsel
        have hpending' : k.store.tripStatus t = some .pending := by
          rw [Store.tripStatus, htrip, Option.map_some, hstatus]
        refine ((hk.sought t hpending').pop htodo (fun p s v h => ?_) fun r h => ?_).mono
          (fun d hd => hwrites.offers ▸ hd) fun event hmem _ => ?_
        · cases h
        · exact ht (DomainEvent.dispatchFailed.inj h).1.symm
        · rw [hwrites.todo]
          exact List.mem_append_left _ hmem
    · rw [hwrites.vehicleTypes]
      rw [hfind] at htrip
      obtain ⟨trip', htrip', rfl⟩ := Option.map_eq_some_iff.mp htrip
      split_ifs
      · exact hk.typed t trip' htrip'
      · exact hk.typed t trip' htrip'
  | charged htodo hreport hcharges =>
    -- the charge writes the amounts of a row, and no status
    have hpop := hk.pop htodo hreport
    refine ⟨fun t hpending => ?_, fun t trip htrip => ?_⟩
    · have hpending' : k.store.tripStatus t = some .pending := by
        rw [Store.tripStatus, hcharges.trips, Table.find?_update_eq_map, Option.map_map] at hpending
        obtain ⟨trip, htrip, hstatus⟩ := Option.map_eq_some_iff.mp hpending
        rw [Store.tripStatus, htrip, Option.map_some, ← hstatus]
        simp only [Function.comp_apply]
        split_ifs
        · rfl
        · rfl
      refine (hpop.sought t hpending').mono (fun d hd => hcharges.offers ▸ hd) fun event hmem _ => ?_
      rw [hcharges.todo]
      exact hmem
    · rw [hcharges.vehicleTypes]
      rw [hcharges.trips, Table.find?_update_eq_map] at htrip
      obtain ⟨trip', htrip', rfl⟩ := Option.map_eq_some_iff.mp htrip
      split_ifs
      · exact hk.typed t trip' htrip'
      · exact hk.typed t trip' htrip'
  | handled htodo hreport hsame => exact hsame.noOrphan (hk.pop htodo hreport)

theorem Store.Fresh.noOrphan {s : Store} (hs : s.Fresh) : Config.NoOrphan ⟨s, [], []⟩ := by
  have hfind : ∀ t, s.trips.find? t = none := by
    intro t
    show s.trips.rows.find? _ = none
    rw [hs.trips]
    rfl
  refine ⟨fun t hpending => ?_, fun t trip htrip => ?_⟩
  · rw [Store.tripStatus, hfind] at hpending
    cases hpending
  · rw [hfind] at htrip
    cases htrip

/-- A pending trip whose creation has been handled is offered to some driver, when no failure of its
dispatch is still to be handled. -/
theorem pending_trips_offered (env : Env) (pricing : PricingEnv) {s : Store} (hs : s.Fresh)
    {k : Config}
    (hrun : Config.Run env pricing (fun _ _ => True) (fun _ _ => True) ⟨s, [], []⟩ k) {tripId : ℕ}
    (hpending : k.store.tripStatus tripId = some .pending)
    (hcreated : ∀ pickup serviceType vehicleTypeId,
      .tripCreated tripId pickup serviceType vehicleTypeId ∉ k.todo)
    (hfailed : ∀ reason, .dispatchFailed tripId reason ∉ k.todo) :
    ∃ driverId, k.store.attemptStatus tripId driverId = some .driverNotified := by
  have hk : k.NoOrphan := hrun.of_effects (fun k k' h => h.noOrphan) hs.noOrphan
  rcases hk.sought tripId hpending with hn | ⟨p, st, v, hmem⟩ | ⟨r, hmem⟩
  · exact hn
  · exact absurd hmem (hcreated p st v)
  · exact absurd hmem (hfailed r)

/-- In the town, trip 1 is still offered after one of its two drivers has declined. -/
theorem pending_trips_offered_town : ∃ k, Config.Run Env.town PricingEnv.town (fun _ _ => True)
      (fun _ _ => True) ⟨Store.town, [], []⟩ k ∧ k.store.tripStatus 1 = some .pending ∧
    k.store.attemptStatus 1 1 = some .driverDeclined ∧
    ∃ driverId, k.store.attemptStatus 1 driverId = some .driverNotified := by
  obtain ⟨k, hrun, hidle, hpending, hdeclined⟩ := Config.exists_run_of_execute? Env.town
    PricingEnv.town (fun _ _ => True) (fun _ _ => True) Store.town [.order 1 2, .wsDecline 1 1]
    (fun k => k.store.tripStatus 1 = some .pending ∧
      k.store.attemptStatus 1 1 = some .driverDeclined) (by decide +kernel)
  refine ⟨k, hrun, hpending, hdeclined, pending_trips_offered Env.town PricingEnv.town
    Store.fresh_town hrun hpending (fun p st v => ?_) fun r => ?_⟩
  · rw [hidle]
    exact List.not_mem_nil
  · rw [hidle]
    exact List.not_mem_nil

end Telima
