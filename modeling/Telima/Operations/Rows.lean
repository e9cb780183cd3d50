import Telima.Operations.Effects

/-!
# The rows of the trips

What an effect does to one row (`RowStep`), which attempts it can notify, and which events it emits
(`Emitted`).  No effect makes a trip pending that was not, only a pending trip or one that was just
created is offered, and a trip that is offered stays pending unless its dispatch fails or a driver
accepts it without holding the lock (`Effect.status_of_notified`).
-/

namespace Telima

open TripsService DispatchService DispatchRecoveryService

/-- What an update of a trip never changes: when it was ordered, and for which service. -/
def Trip.order (trip : Trip) : ℕ × ServiceType := (trip.createdAt, trip.serviceType)

/-- What becomes of the row of a trip. -/
inductive RowStep (admits : Config → Operation → Prop) (k k' : Config) (t : ℕ) : Prop
  | absent (h : k.store.trips.find? t = none) (h' : k'.store.trips.find? t = none)
  | inserted {data : CreateTripData} (h : k.store.trips.find? t = none)
      (h' : k'.store.trips.find? t = some (data.row t k.store.now))
      (hoffers : k'.store.offers = k.store.offers)
  | kept {trip trip' : Trip} (h : k.store.trips.find? t = some trip)
      (h' : k'.store.trips.find? t = some trip') (horder : trip'.order = trip.order)
      (hstatus : trip'.status = trip.status) (hdriver : trip'.driverId = trip.driverId)
  | switched {op : Operation} {userId : ℕ} {role : UserRole} {dto : UpdateTripStatusDto}
      {trip : Trip} {data : TripData} {k₁ : Config} (h : k.store.trips.find? t = some trip)
      (h' : k'.store.trips.find? t = some (data.apply k.store.now trip)) (hadmits : admits k op)
      (hop : op.setsStatus = some (t, userId, role, dto))
      (htransition : canTransition trip.status dto.status = true)
      (hswitched : Switched trip userId role dto k data k₁)
      (hoffers : k'.store.offers = k₁.store.offers)
      (hothers : ∀ t', t' ≠ t → k'.store.trips.find? t' = k.store.trips.find? t')
  | completed {trip trip' : Trip} (h : k.store.trips.find? t = some trip)
      (h' : k'.store.trips.find? t = some trip') (horder : trip'.order = trip.order)
      (hbefore : trip.status = .inProgress) (hstatus : trip'.status = .completed)
      (hdriver : trip'.driverId = trip.driverId)
  | swept {trip trip' : Trip} (h : k.store.trips.find? t = some trip)
      (h' : k'.store.trips.find? t = some trip') (horder : trip'.order = trip.order)
      (hbefore : isAssigned trip.status = true) (hstatus : trip'.status = .cancelledAuto)
      (hdriver : trip'.driverId = trip.driverId)
  | assigned {driverId : ℕ} {todo : List DomainEvent} {trip trip' : Trip}
      (htodo : k.todo = .driverAssigned t driverId :: todo)
      (h : k.store.trips.find? t = some trip) (h' : k'.store.trips.find? t = some trip')
      (horder : trip'.order = trip.order) (hstatus : trip'.status = .accepted)
      (hdriver : trip'.driverId = some driverId)
  | cancelled {reason : String} {todo : List DomainEvent} {trip trip' : Trip}
      (htodo : k.todo = .dispatchFailed t reason :: todo)
      (h : k.store.trips.find? t = some trip) (h' : k'.store.trips.find? t = some trip')
      (horder : trip'.order = trip.order) (hbefore : trip.status = .pending)
      (hstatus : trip'.status = .cancelledAuto) (hdriver : trip'.driverId = trip.driverId)

section Rows

variable {env : Env} {admits : Config → Operation → Prop} {cond : Config → Cmd → Prop}
variable {k k' : Config} {tripId : ℕ}

theorem rowStep_of_find {t : ℕ} (hfind : k'.store.trips.find? t = k.store.trips.find? t) :
    RowStep admits k k' t := by
  cases htrip : k.store.trips.find? t with
  | none => exact .absent htrip (hfind.trans htrip)
  | some trip => exact .kept htrip (hfind.trans htrip) rfl rfl rfl

theorem rowStep_of_eq (htrips : k'.store.trips = k.store.trips) (t : ℕ) : RowStep admits k k' t :=
  rowStep_of_find (by rw [htrips])

/-- The row of another trip than the one that is updated. -/
theorem rowStep_of_update {f : Trip → Trip} {hf : ∀ trip, (f trip).id = trip.id}
    {trips : Table ℕ Trip Trip.id} (htrips : k'.store.trips = trips.update tripId f hf)
    (hbefore : trips = k.store.trips) {t : ℕ} (ht : t ≠ tripId) : RowStep admits k k' t :=
  rowStep_of_find (by rw [htrips, Table.find?_update_of_ne ht, hbefore])

theorem ne_pending_of_canTransition {source target : TripStatus}
    (h : canTransition source target = true) : target ≠ .pending := by
  rintro rfl
  cases source <;> exact absurd h (by decide)

theorem TripsService.Switched.status_eq {trip : Trip} {userId : ℕ} {role : UserRole}
    {dto : UpdateTripStatusDto} {data : TripData} (h : Switched trip userId role dto k data k') :
    data.status = some dto.status := by
  cases h with
  | accepted hstatus => rw [hstatus]; rfl
  | unlocked hstatus => rw [hstatus]; rfl
  | advanced hstatus => rcases hstatus with hstatus | hstatus | hstatus <;> rw [hstatus] <;> rfl
  | withdrawn => rfl
  | cancelledByDriver => rfl

/-- The status the switch has set. -/
theorem TripsService.Switched.status_apply {trip : Trip} {userId : ℕ} {role : UserRole}
    {dto : UpdateTripStatusDto} {data : TripData} (h : Switched trip userId role dto k data k')
    (now : ℕ) : (data.apply now trip).status = dto.status := by
  rw [TripData.apply]
  dsimp only
  rw [h.status_eq, Option.getD_some]

theorem DispatchService.Retried.trips_eq {r : Except Error Unit}
    (h : Retried env.dispatch cond tripId k r k') : k'.store.trips = k.store.trips := by
  cases h with
  | settled _ hsame => exact hsame.trips
  | again _ _ hsearched =>
    obtain ⟨events, hstays, -⟩ := hsearched.stays
    exact hstays.trips

theorem Effect.row (h : Effect env admits cond k k') (t : ℕ) : RowStep admits k k' t := by
  cases h with
  | same hsame => exact rowStep_of_eq hsame.trips t
  | waited => exact rowStep_of_find rfl
  | created _ hcreated =>
    obtain ⟨data, pickup, serviceType, -, hwrites⟩ := hcreated
    have hfind : k'.store.trips.find? t = (k.store.trips.find? t).or
        (if k.store.trips.freshKey = t then some (data.row k.store.trips.freshKey k.store.now)
          else none) := by
      rw [hwrites.trips, Table.find?_insert, CreateTripData.id_row]
    by_cases ht : k.store.trips.freshKey = t
    -- the key was free before
    · subst ht
      rw [Table.find?_freshKey, Option.none_or, if_pos rfl] at hfind
      exact .inserted (Table.find?_freshKey _) hfind hwrites.offers
    · rw [if_neg ht, Option.or_none] at hfind
      exact rowStep_of_find hfind
  | @statusSet op tripId userId role dto _ _ hadmits hop hset =>
    obtain ⟨trip, data, k₁, htrip, htransition, hswitched, hwrites⟩ := hset
    by_cases ht : t = tripId
    · subst ht
      refine .switched htrip ?_ hadmits hop htransition hswitched hwrites.offers fun t' ht' => ?_
      · rw [hwrites.trips, Table.find?_update_self, hswitched.now_eq.2, htrip]
        rfl
      · rw [hwrites.trips, Table.find?_update_of_ne ht', hswitched.now_eq.2]
    · exact rowStep_of_update hwrites.trips hswitched.now_eq.2 ht
  | @completed tripId trip amount _ _ _ _ htrip hstatus _ _ hwrites =>
    by_cases ht : t = tripId
    · subst ht
      have hfind : k'.store.trips.find? t =
          some ((completeData trip amount k.store.now).apply k.store.now trip) := by
        rw [hwrites.trips, Table.find?_update_self, htrip]
        rfl
      exact .completed htrip hfind rfl hstatus rfl rfl
    · exact rowStep_of_update hwrites.trips rfl ht
  | declined _ _ _ hdeclined =>
    obtain ⟨k₁, r, hstays, -, hretried⟩ := hdeclined
    exact rowStep_of_eq (hretried.trips_eq.trans hstays.trips) t
  | timedOut _ _ _ hstays _ hretried => exact rowStep_of_eq (hretried.trips_eq.trans hstays.trips) t
  | givenUp _ _ _ hfailed =>
    obtain ⟨reason, k₀, -, -, hstays, -⟩ := hfailed
    exact rowStep_of_eq hstays.trips t
  | redispatched _ _ _ hsearched =>
    obtain ⟨k₁, serviceType, r, hstays, -, hsearched⟩ := hsearched
    obtain ⟨events, hstays', -⟩ := hsearched.stays
    exact rowStep_of_eq (hstays'.trips.trans hstays.trips) t
  | @swept tripId trip _ _ htrip hstatus hswept _ =>
    obtain ⟨k₁, hwrites, hstays, -⟩ := hswept
    have htrips := hstays.trips.trans hwrites.trips
    by_cases ht : t = tripId
    · subst ht
      have hfind : k'.store.trips.find? t = some (staleData.apply k.store.now trip) := by
        rw [htrips, Table.find?_update_self, htrip]
        rfl
      exact .swept htrip hfind rfl hstatus rfl rfl
    · exact rowStep_of_update htrips rfl ht
  | rearmed _ _ _ _ hstays _ => exact rowStep_of_eq hstays.trips t
  | dispatched _ hsearched =>
    obtain ⟨events, hstays, -⟩ := hsearched.stays
    exact rowStep_of_find (congrArg (fun trips => trips.find? t) hstays.trips)
  | @assigned tripId driverId todo _ _ htodo _ hwrites =>
    by_cases ht : t = tripId
    · subst ht
      cases htrip : k.store.trips.find? t with
      | none =>
        refine .absent htrip ?_
        rw [hwrites.trips, Table.find?_update_self, htrip]
        rfl
      | some trip =>
        have hfind : k'.store.trips.find? t =
            some ((acceptData driverId k.store.now).apply k.store.now trip) := by
          rw [hwrites.trips, Table.find?_update_self, htrip]
          rfl
        exact .assigned htodo htrip hfind rfl rfl rfl
    · exact rowStep_of_update hwrites.trips rfl ht
  | @cancelled tripId reason todo _ htodo hwrites =>
    have hfind : k'.store.trips.find? t = (k.store.trips.find? t).map fun trip =>
        if (decide (trip.id = tripId) && decide (trip.status = .pending)) = true then
          (cancelData .cancelledAuto (some reason) k.store.now).apply k.store.now trip
        else trip := by
      rw [hwrites.trips, Table.find?_updateMany]
    cases htrip : k.store.trips.find? t with
    | none =>
      rw [htrip, Option.map_none] at hfind
      exact .absent htrip hfind
    | some trip =>
      have hid : trip.id = t := Table.key_of_find? htrip
      rw [htrip, Option.map_some] at hfind
      -- `updateMany` selects the row only while it is pending
      by_cases hsel : trip.id = tripId ∧ trip.status = .pending
      · obtain ⟨rfl, hpending⟩ := hsel
        rw [if_pos (by simp [hpending])] at hfind
        exact .cancelled (hid ▸ htodo) htrip hfind rfl hpending rfl rfl
      · rw [if_neg (by simpa using hsel)] at hfind
        exact .kept htrip hfind rfl rfl rfl
  | @charged event todo trip driverId price vehicleType _ _ _ hcharges =>
    have hfind : k'.store.trips.find? t = if t = trip.id then (k.store.trips.find? t).map
        (Trip.charge (commissionOf price.toNumber vehicleType.commissionPercentage.toNumber)
          k.store.now) else k.store.trips.find? t := by
      rw [hcharges.trips, Table.find?_update]
    -- the amounts of the charge are no part of what a row step tells
    split_ifs at hfind
    · cases htrip : k.store.trips.find? t with
      | none =>
        rw [htrip, Option.map_none] at hfind
        exact .absent htrip hfind
      | some row =>
        rw [htrip, Option.map_some] at hfind
        exact .kept htrip hfind rfl rfl rfl
    · exact rowStep_of_find hfind
  | handled _ _ hsame => exact rowStep_of_find (congrArg (fun trips => trips.find? t) hsame.trips)

/-- A row that exists is never deleted. -/
theorem RowStep.isSome {t : ℕ} (h : RowStep admits k k' t)
    (hsome : (k.store.trips.find? t).isSome = true) : (k'.store.trips.find? t).isSome = true := by
  cases h with
  | absent h _ =>
    rw [h] at hsome
    cases hsome
  | inserted h _ _ =>
    rw [h] at hsome
    cases hsome
  | kept _ h' _ _ _ | switched _ h' _ _ _ _ _ _ | completed _ h' _ _ _ _ | swept _ h' _ _ _ _
  | assigned _ _ h' _ _ _ | cancelled _ _ h' _ _ _ _ =>
    rw [h']
    rfl

/-- A row that exists keeps its order, and does not become pending again. -/
theorem RowStep.keeps {t : ℕ} {trip : Trip} (h : RowStep admits k k' t)
    (htrip : k.store.trips.find? t = some trip) : ∃ trip', k'.store.trips.find? t = some trip' ∧
      trip'.order = trip.order ∧ (trip'.status = .pending → trip.status = .pending) := by
  cases h with
  | absent h _ | inserted h _ _ =>
    rw [h] at htrip
    cases htrip
  | kept h h' horder hstatus _ =>
    obtain rfl := Option.some.inj (h.symm.trans htrip)
    exact ⟨_, h', horder, fun hpending => hstatus.symm.trans hpending⟩
  | switched h h' _ _ htransition hswitched _ _ =>
    obtain rfl := Option.some.inj (h.symm.trans htrip)
    refine ⟨_, h', rfl, fun hpending => ?_⟩
    rw [hswitched.status_apply] at hpending
    exact absurd hpending (ne_pending_of_canTransition htransition)
  | completed h h' horder _ hstatus _ | swept h h' horder _ hstatus _
  | assigned _ h h' horder hstatus _ | cancelled _ h h' horder _ hstatus _ =>
    obtain rfl := Option.some.inj (h.symm.trans htrip)
    refine ⟨_, h', horder, fun hpending => ?_⟩
    rw [hstatus] at hpending
    cases hpending

/-- A row that is pending was pending before, with the same driver, or was just created. -/
theorem RowStep.of_pending {t : ℕ} {trip' : Trip} (h : RowStep admits k k' t)
    (htrip' : k'.store.trips.find? t = some trip') (hpending : trip'.status = .pending) :
    (∃ trip, k.store.trips.find? t = some trip ∧ trip.status = .pending ∧
      trip'.driverId = trip.driverId) ∨
    (k.store.trips.find? t = none ∧ trip'.driverId = none ∧
      k'.store.offers = k.store.offers) := by
  cases h with
  | absent _ h' =>
    rw [h'] at htrip'
    cases htrip'
  | inserted h h' hoffers =>
    obtain rfl := Option.some.inj (h'.symm.trans htrip')
    exact Or.inr ⟨h, rfl, hoffers⟩
  | kept h h' _ hstatus hdriver =>
    obtain rfl := Option.some.inj (h'.symm.trans htrip')
    exact Or.inl ⟨_, h, hstatus.symm.trans hpending, hdriver⟩
  | switched h h' _ _ htransition hswitched _ _ =>
    obtain rfl := Option.some.inj (h'.symm.trans htrip')
    rw [hswitched.status_apply] at hpending
    exact absurd hpending (ne_pending_of_canTransition htransition)
  | completed _ h' _ _ hstatus _ | swept _ h' _ _ hstatus _ | assigned _ _ h' _ hstatus _
  | cancelled _ _ h' _ _ hstatus _ =>
    obtain rfl := Option.some.inj (h'.symm.trans htrip')
    rw [hstatus] at hpending
    cases hpending

/-- A pending trip was pending before, or was just created. -/
theorem Effect.pending (h : Effect env admits cond k k') {t : ℕ}
    (hpending : k'.store.tripStatus t = some .pending) :
    k.store.tripStatus t = some .pending ∨
      (k.store.trips.find? t = none ∧ k'.store.offers = k.store.offers) := by
  obtain ⟨trip', htrip', hstatus'⟩ := Option.map_eq_some_iff.mp hpending
  rcases (h.row t).of_pending htrip' hstatus' with ⟨trip, htrip, hstatus, -⟩ | ⟨hnone, -, hoffers⟩
  · refine Or.inl ?_
    rw [Store.tripStatus, htrip, Option.map_some, hstatus]
  · exact Or.inr ⟨hnone, hoffers⟩

/-! ### Who is notified -/

theorem DispatchService.Searched.was_notified {serviceType : ServiceType} {r : Except Error Unit}
    (h : Searched env.dispatch cond tripId serviceType k r k') {t d : ℕ}
    (hn : k'.store.offers.Notified t d) : k.store.offers.Notified t d ∨ t = tripId := by
  cases h with
  | notified hall =>
    refine NotifiesAll.induction (P := fun k' => ∀ t d, k'.store.offers.Notified t d →
        k.store.offers.Notified t d ∨ t = tripId) (fun hsame hk t d hn => hk t d (hsame.offers ▸ hn))
      (fun _ _ _ hoffered _ hk t d hn => ?_) hall (fun _ _ => Or.inl) t d hn
    rcases hoffered.notified.mp hn with ⟨rfl, -⟩ | hbefore
    · exact Or.inr rfl
    · exact hk t d hbefore
  | failed hfailed =>
    obtain ⟨_, _, _, _, _, hoffers⟩ := hfailed
    exact Or.inl (hoffers ▸ hn)
  | broken _ _ hsame => exact Or.inl (hsame.offers ▸ hn)

theorem DispatchService.Retried.was_notified {r : Except Error Unit}
    (h : Retried env.dispatch cond tripId k r k') {t d : ℕ} (hn : k'.store.offers.Notified t d) :
    k.store.offers.Notified t d ∨ (t = tripId ∧ k.store.tripStatus t = some .pending) := by
  cases h with
  | settled _ hsame => exact Or.inl (hsame.offers ▸ hn)
  | again hpending _ hsearched =>
    refine (hsearched.was_notified hn).imp_right fun ht => ⟨ht, ?_⟩
    rw [ht]
    exact hpending

theorem TripsService.Switched.was_notified {trip : Trip} {userId : ℕ} {role : UserRole}
    {dto : UpdateTripStatusDto} {data : TripData} (h : Switched trip userId role dto k data k')
    {t d : ℕ} (hn : k'.store.offers.Notified t d) : k.store.offers.Notified t d := by
  cases h with
  | accepted _ _ _ _ _ _ haccepted =>
    exact ((Offers.Withdrawn.toClosed haccepted).notified Offers.answers_accept hn).1
  | unlocked _ _ _ _ _ hsame => exact hsame.offers ▸ hn
  | advanced _ _ hsame => exact hsame.offers ▸ hn
  | withdrawn _ _ hwithdrawn =>
    exact (hwithdrawn.toClosed.notified (Offers.answers_const DispatchStatus.noConfusion) hn).1
  | cancelledByDriver _ _ hsame => exact hsame.offers ▸ hn

/-- Only a pending trip, or one whose creation is handled, is offered. -/
theorem Effect.was_notified (h : Effect env admits cond k k') {t d : ℕ}
    (hn : k'.store.offers.Notified t d) : k.store.offers.Notified t d ∨
      k.store.tripStatus t = some .pending ∨
      ∃ pickup serviceType vehicleTypeId todo,
        k.todo = .tripCreated t pickup serviceType vehicleTypeId :: todo := by
  have htimedOut : Offers.Answers fun _ => some .timedOut :=
    Offers.answers_const DispatchStatus.noConfusion
  cases h with
  | same hsame => exact Or.inl (hsame.offers ▸ hn)
  | waited => exact Or.inl hn
  | created _ hcreated =>
    obtain ⟨_, _, _, _, hwrites⟩ := hcreated
    exact Or.inl (hwrites.offers ▸ hn)
  | statusSet _ _ _ hset =>
    obtain ⟨trip, data, k₁, -, -, hswitched, hwrites⟩ := hset
    exact Or.inl (hswitched.was_notified (hwrites.offers ▸ hn))
  | completed _ _ _ _ _ hwrites => exact Or.inl (hwrites.offers ▸ hn)
  | declined _ _ _ hdeclined =>
    obtain ⟨k₁, r, hstays, hwithdrawn, hretried⟩ := hdeclined
    rcases hretried.was_notified hn with hbefore | ⟨-, hpending⟩
    · exact Or.inl (hwithdrawn.toClosed.notified
        (Offers.answers_const DispatchStatus.noConfusion) hbefore).1
    · rw [Store.tripStatus, hstays.trips] at hpending
      exact Or.inr (Or.inl hpending)
  | timedOut _ _ _ hstays hclosed hretried =>
    rcases hretried.was_notified hn with hbefore | ⟨-, hpending⟩
    · exact Or.inl (hclosed.toClosed.notified htimedOut hbefore).1
    · rw [Store.tripStatus, hstays.trips] at hpending
      exact Or.inr (Or.inl hpending)
  | givenUp _ _ _ hfailed =>
    obtain ⟨_, _, _, _, _, hoffers⟩ := hfailed
    exact Or.inl (hoffers ▸ hn)
  | redispatched hpending _ _ hsearched =>
    obtain ⟨k₁, serviceType, r, -, hwithdrawn, hsearched⟩ := hsearched
    rcases hsearched.was_notified hn with hbefore | rfl
    · exact Or.inl (hwithdrawn.toClosed.notified htimedOut hbefore).1
    · exact Or.inr (Or.inl hpending)
  | swept _ _ _ hswept _ =>
    obtain ⟨k₁, -, -, hwithdrawn⟩ := hswept
    exact Or.inl (hwithdrawn.toClosed.notified htimedOut hn).1
  | rearmed _ hrearmed _ _ _ hoffers =>
    rw [hoffers, Offers.notified_rearm] at hn
    rcases hn with ⟨rfl, rfl⟩ | hbefore
    · exact Or.inr (Or.inl (rearmed?_spec hrearmed).1)
    · exact Or.inl hbefore
  | dispatched htodo hsearched =>
    rcases hsearched.was_notified hn with hbefore | rfl
    · exact Or.inl hbefore
    · exact Or.inr (Or.inr ⟨_, _, _, _, htodo⟩)
  | assigned _ _ hwrites =>
    have hoffers : k'.store.offers = k.store.offers := hwrites.offers
    exact Or.inl (hoffers ▸ hn)
  | cancelled _ hwrites =>
    have hoffers : k'.store.offers = k.store.offers := hwrites.offers
    exact Or.inl (hoffers ▸ hn)
  | charged _ _ hcharges =>
    have hoffers : k'.store.offers = k.store.offers := hcharges.offers
    exact Or.inl (hoffers ▸ hn)
  | handled _ _ hsame =>
    have hoffers : k'.store.offers = k.store.offers := hsame.offers
    exact Or.inl (hoffers ▸ hn)

/-! ### The events that wait -/

/-- What an event says that an effect has just emitted. -/
inductive Emitted (cond : Config → Cmd → Prop) (k k' : Config) : DomainEvent → Prop
  | report {event : DomainEvent} (hreport : event.isReport = true) : Emitted cond k k' event
  | created {t : ℕ} {pickup : Point} {serviceType : ServiceType} {vehicleTypeId : ℕ}
      (hnew : k.store.trips.find? t = none)
      (htodo : k'.todo = [.tripCreated t pickup serviceType vehicleTypeId])
      (hpending : k'.store.tripStatus t = some .pending) :
      Emitted cond k k' (.tripCreated t pickup serviceType vehicleTypeId)
  | failed {t : ℕ} {reason : String} {k₀ : Config} (hoffers : k₀.store.offers = k'.store.offers)
      (hc : cond k₀ (.emit (.dispatchFailed t reason))) :
      Emitted cond k k' (.dispatchFailed t reason)
  | assigned {t d : ℕ} {trip : Trip} (htodo : k'.todo = [.driverAssigned t d])
      (htrip : k'.store.trips.find? t = some trip) (hstatus : trip.status = .accepted)
      (hdriver : trip.driverId = some d) : Emitted cond k k' (.driverAssigned t d)

theorem DispatchService.GivenUp.emitted {k₁ : Config} (h : GivenUp cond tripId k k') :
    ∃ events, k.Stays k' events ∧ ∀ event ∈ events, Emitted cond k₁ k' event := by
  obtain ⟨reason, k₀, hsame, hc, hstays, hoffers⟩ := h
  refine ⟨_, hstays, fun event hmem => ?_⟩
  rw [List.mem_singleton.mp hmem]
  exact .failed (hsame.offers.trans hoffers.symm) hc

theorem DispatchService.Searched.emitted {serviceType : ServiceType} {r : Except Error Unit}
    {k₁ : Config} (h : Searched env.dispatch cond tripId serviceType k r k') :
    ∃ events, k.Stays k' events ∧ ∀ event ∈ events, Emitted cond k₁ k' event := by
  cases h with
  | notified hall =>
    refine NotifiesAll.induction (P := fun k' => ∃ events, k.Stays k' events ∧
        ∀ event ∈ events, event.isReport = true) (fun hsame hk => ?_)
      (fun _ hstays hreports _ _ hk => ?_) hall ⟨[], .refl k, by simp⟩ |>.imp
        fun events h => ⟨h.1, fun event hmem => .report (h.2 event hmem)⟩
    · obtain ⟨events, hk, hreports⟩ := hk
      exact ⟨events, hk.same hsame, hreports⟩
    · obtain ⟨events, hk, hbefore⟩ := hk
      refine ⟨_, hk.trans hstays, fun event hmem => ?_⟩
      exact (List.mem_append.mp hmem).elim (hbefore event) (hreports event)
  | failed hfailed => exact hfailed.emitted
  | broken _ _ hsame => exact ⟨[], hsame.toStays, by simp⟩

theorem DispatchService.Retried.emitted {r : Except Error Unit} {k₁ : Config}
    (h : Retried env.dispatch cond tripId k r k') :
    ∃ events, k.Stays k' events ∧ ∀ event ∈ events, Emitted cond k₁ k' event := by
  cases h with
  | settled _ hsame => exact ⟨[], hsame.toStays, by simp⟩
  | again _ _ hsearched => exact hsearched.emitted

/-- An effect takes at most the next event, and adds the events it emits. -/
theorem Effect.emitted (h : Effect env admits cond k k') : ∃ rest events, rest <:+ k.todo ∧
    k'.todo = rest ++ events ∧ ∀ event ∈ events, Emitted cond k k' event := by
  have hstays : ∀ {k₁ : Config}, k.Stays k₁ [] →
      (∃ events, k₁.Stays k' events ∧ ∀ event ∈ events, Emitted cond k k' event) →
      ∃ rest events, rest <:+ k.todo ∧ k'.todo = rest ++ events ∧
        ∀ event ∈ events, Emitted cond k k' event := by
    rintro k₁ h ⟨events, h', hevents⟩
    refine ⟨k.todo, events, List.suffix_refl _, ?_, hevents⟩
    rw [h'.todo, h.todo, List.append_nil]
  have hreports : ∀ {todo : List DomainEvent} (events : List DomainEvent), todo <:+ k.todo →
      k'.todo = todo ++ events →
      (∀ event ∈ events, event.isReport = true) →
      ∃ rest events, rest <:+ k.todo ∧ k'.todo = rest ++ events ∧
        ∀ event ∈ events, Emitted cond k k' event :=
    fun _ hrest htodo hevents => ⟨_, _, hrest, htodo, fun event hmem => .report (hevents event hmem)⟩
  have htail : ∀ {event : DomainEvent} {todo : List DomainEvent}, k.todo = event :: todo →
      todo <:+ k.todo := fun htodo => htodo ▸ List.suffix_cons _ _
  cases h with
  | same hsame => exact hstays (.refl k) ⟨[], hsame.toStays, by simp⟩
  | waited => exact hreports [] (List.suffix_refl _) rfl (by simp)
  | created hidle hcreated =>
    obtain ⟨data, pickup, serviceType, -, hwrites⟩ := hcreated
    refine ⟨k.todo, _, List.suffix_refl _, hwrites.todo, fun event hmem => ?_⟩
    rw [List.mem_singleton.mp hmem]
    refine .created (Table.find?_freshKey _) (by rw [hwrites.todo, hidle]; rfl) ?_
    rw [Store.tripStatus, hwrites.trips, Table.find?_insert, Table.find?_freshKey, Option.none_or,
      CreateTripData.id_row, if_pos rfl]
    rfl
  | @statusSet _ tripId userId role dto _ hidle _ _ hset =>
    obtain ⟨trip, data, k₁, htrip, -, hswitched, hwrites⟩ := hset
    have hquiet : k.Stays k₁ [] → ∃ rest events, rest <:+ k.todo ∧ k'.todo = rest ++ events ∧
        ∀ event ∈ events, Emitted cond k k' event := by
      intro h
      refine hreports (statusEvent (data.apply k.store.now trip) userId dto.cancelReason).toList
        (List.suffix_refl _) ?_ fun event hmem => isReport_of_statusEvent hmem
      rw [hwrites.todo, h.todo, List.append_nil]
    have hid : trip.id = tripId := Table.key_of_find? htrip
    cases hswitched with
    | @accepted driverId _ hstatus _ _ _ _ hk₁ _ =>
      have htodo : k'.todo = [.driverAssigned tripId driverId] := by
        rw [hwrites.todo, hk₁.todo, hidle, hid]
        rfl
      refine ⟨[], _, List.nil_suffix, htodo, fun event hmem => ?_⟩
      rw [List.mem_singleton.mp hmem]
      have hrow : k'.store.trips.find? tripId =
          some ((acceptData driverId k.store.now).apply k.store.now trip) := by
        rw [hwrites.trips, Table.find?_update_self, hk₁.trips, htrip]
        rfl
      exact .assigned htodo hrow rfl rfl
    | unlocked _ _ _ _ _ hsame => exact hquiet hsame.toStays
    | advanced _ _ hsame => exact hquiet hsame.toStays
    | withdrawn _ h _ => exact hquiet h
    | cancelledByDriver _ _ hsame => exact hquiet hsame.toStays
  | completed _ _ _ _ hevents hwrites => exact hreports _ (List.suffix_refl _) hwrites.todo hevents
  | declined _ _ _ hdeclined =>
    obtain ⟨k₁, r, hk₁, -, hretried⟩ := hdeclined
    exact hstays hk₁ hretried.emitted
  | timedOut _ _ _ hk₁ _ hretried => exact hstays hk₁ hretried.emitted
  | givenUp _ _ _ hfailed => exact hstays (.refl k) hfailed.emitted
  | redispatched _ _ _ hsearched =>
    obtain ⟨k₁, serviceType, r, hk₁, -, hsearched⟩ := hsearched
    exact hstays hk₁ hsearched.emitted
  | swept _ _ _ hswept _ =>
    obtain ⟨k₁, hwrites, hk₁, -⟩ := hswept
    refine hreports [] (List.suffix_refl _) ?_ (by simp)
    rw [hk₁.todo, hwrites.todo, List.append_nil]
  | rearmed _ _ _ _ hk' _ => exact hreports _ (List.suffix_refl _) hk'.todo (by simp)
  | dispatched htodo hsearched =>
    obtain ⟨events, hk', hevents⟩ := hsearched.emitted
    exact ⟨_, events, htail htodo, hk'.todo, hevents⟩
  | assigned htodo hevents hwrites => exact hreports _ (htail htodo) hwrites.todo hevents
  | cancelled htodo hwrites => exact hreports _ (htail htodo) hwrites.todo (by simp)
  | charged htodo _ hcharges =>
    refine hreports [] (htail htodo) ?_ (by simp)
    rw [hcharges.todo, List.append_nil]
  | handled htodo _ hsame => exact hreports _ (htail htodo) hsame.todo (by simp)

/-- A trip that was just created or accepted is handled before anything else happens. -/
theorem Effect.of_singleton (h : Effect env admits cond k k') {event : DomainEvent}
    (htodo : k.todo = [event]) (hreport : event.isReport = false)
    (hsearch : event.isSearch = false) :
    k.Same k' ∨ k'.todo.all (fun e => e.isReport || e.isSearch) = true := by
  have hbusy : k.todo ≠ [] := by simp [htodo]
  have hmem : event ∈ k.todo := by simp [htodo]
  have hall : ∀ {events : List DomainEvent}, (∀ e ∈ events, e.isReport = true) →
      k'.todo = events → k'.todo.all (fun e => e.isReport || e.isSearch) = true := by
    rintro events hevents rfl
    simp_all
  cases h with
  | same hsame => exact Or.inl hsame
  | givenUp _ hsearches _ _ | redispatched _ hsearches _ _ =>
    rw [hsearches _ hmem] at hsearch
    cases hsearch
  | dispatched htodo' hsearched =>
    rw [htodo] at htodo'
    obtain ⟨rfl, rfl⟩ := List.cons.inj htodo'
    obtain ⟨events, hstays, hevents⟩ := hsearched.stays
    refine Or.inr ?_
    rw [hstays.todo, List.nil_append, List.all_eq_true]
    intro e he
    rcases hevents e he with ⟨_, _, _, rfl⟩ | ⟨_, rfl⟩
    · rfl
    · rfl
  | assigned htodo' hevents hwrites =>
    rw [htodo] at htodo'
    obtain ⟨rfl, rfl⟩ := List.cons.inj htodo'
    exact Or.inr (hall hevents hwrites.todo)
  | cancelled htodo' _ =>
    rw [htodo] at htodo'
    obtain ⟨rfl, rfl⟩ := List.cons.inj htodo'
    cases hsearch
  | charged htodo' hreport' _ | handled htodo' hreport' _ =>
    rw [htodo] at htodo'
    rw [← (List.cons.inj htodo').1, hreport] at hreport'
    cases hreport'
  | _ => contradiction

/-- Every offer has its trip, and a trip whose creation is to be handled is pending, with no other
event waiting. -/
structure Config.Grounded (k : Config) : Prop where
  row : ∀ t d, k.store.offers.Notified t d → (k.store.trips.find? t).isSome = true
  created : ∀ t pickup serviceType vehicleTypeId,
    .tripCreated t pickup serviceType vehicleTypeId ∈ k.todo →
      k.todo = [.tripCreated t pickup serviceType vehicleTypeId] ∧
        k.store.tripStatus t = some .pending

theorem Effect.grounded (h : Effect env admits cond k k') (hk : k.Grounded) : k'.Grounded := by
  have hpending : ∀ t, k.store.tripStatus t = some .pending →
      (k.store.trips.find? t).isSome = true := by
    intro t ht
    obtain ⟨trip, htrip, -⟩ := Option.map_eq_some_iff.mp ht
    simp [htrip]
  refine ⟨fun t d hn => (h.row t).isSome ?_, fun t p st v hmem => ?_⟩
  · rcases h.was_notified hn with hbefore | ht | ⟨p, st, v, todo, htodo⟩
    · exact hk.row t d hbefore
    · exact hpending t ht
    · exact hpending t (hk.created t p st v (htodo ▸ List.mem_cons_self)).2
  · obtain ⟨rest, events, hrest, htodo, hevents⟩ := h.emitted
    rw [htodo, List.mem_append] at hmem
    rcases hmem with hmem | hmem
    · -- the event waited before
      obtain ⟨hbefore, ht⟩ := hk.created t p st v (hrest.subset hmem)
      rcases h.of_singleton hbefore rfl rfl with hsame | hother
      · refine ⟨by rw [hsame.todo, hbefore, List.append_nil], ?_⟩
        rw [Store.tripStatus, hsame.trips]
        exact ht
      · have hin : .tripCreated t p st v ∈ k'.todo := htodo ▸ List.mem_append_left _ hmem
        have hfalse := List.all_eq_true.mp hother _ hin
        cases hfalse
    · cases hevents _ hmem with
      | report hreport => cases hreport
      | created _ htodo' hpending' => exact ⟨htodo', hpending'⟩

theorem Store.Fresh.grounded {s : Store} (hs : s.Fresh) : Config.Grounded ⟨s, [], []⟩ := by
  refine ⟨fun t d hn => ?_, fun t p st v hmem => ?_⟩
  · have hnone : s.offers.status t d = none := hs.offers.1 t d
    rw [Offers.Notified, hnone] at hn
    cases hn
  · cases hmem

/-! ### Drivers and accepts -/

/-- A pending trip has no driver, and a trip whose accept is to be handled is accepted, with no
other event waiting. -/
structure Config.Settled (k : Config) : Prop where
  grounded : k.Grounded
  unassigned : ∀ t trip, k.store.trips.find? t = some trip → trip.status = .pending →
    trip.driverId = none
  assigned : ∀ t d, .driverAssigned t d ∈ k.todo → k.todo = [.driverAssigned t d] ∧
    ∃ trip, k.store.trips.find? t = some trip ∧ trip.status = .accepted ∧ trip.driverId = some d

theorem Effect.settled (h : Effect env admits cond k k') (hk : k.Settled) : k'.Settled where
  grounded := h.grounded hk.grounded
  unassigned := by
    intro t trip' htrip' hpending'
    rcases (h.row t).of_pending htrip' hpending' with ⟨trip, htrip, hpending, hdriver⟩ | ⟨-, hnone, -⟩
    · rw [hdriver]
      exact hk.unassigned t trip htrip hpending
    · exact hnone
  assigned := by
    intro t d hmem
    obtain ⟨rest, events, hrest, htodo, hevents⟩ := h.emitted
    have hin := hmem
    rw [htodo, List.mem_append] at hin
    rcases hin with hold | hnew
    · -- the accept was to be handled before
      obtain ⟨hbefore, hrow⟩ := hk.assigned t d (hrest.subset hold)
      rcases h.of_singleton hbefore rfl rfl with hsame | hother
      · rw [hsame.todo, hsame.trips, List.append_nil]
        exact ⟨hbefore, hrow⟩
      · have hfalse := List.all_eq_true.mp hother _ hmem
        cases hfalse
    · cases hevents _ hnew with
      | report hreport => cases hreport
      | assigned htodo htrip hstatus hdriver => exact ⟨htodo, _, htrip, hstatus, hdriver⟩

theorem Store.Fresh.settled {s : Store} (hs : s.Fresh) : Config.Settled ⟨s, [], []⟩ := by
  refine ⟨hs.grounded, fun t trip htrip => ?_, fun t d hmem => ?_⟩
  · have hnone : s.trips.find? t = none := by
      show s.trips.rows.find? _ = none
      rw [hs.trips]
      rfl
    rw [hnone] at htrip
    cases htrip
  · cases hmem

end Rows

/-- The operation lets the driver accept the trip. -/
def Operation.Accepts (op : Operation) (s : Store) (tripId driverId : ℕ) : Prop :=
  ∃ userId dto, op.setsStatus = some (tripId, userId, .driver, dto) ∧ dto.status = .accepted ∧
    s.driverOf userId = some driverId ∧ s.tripStatus tripId = some .pending ∧
    s.attemptStatus tripId driverId = some .driverNotified

section Closing

variable {env : Env} {admits : Config → Operation → Prop} {cond : Config → Cmd → Prop}
variable {k k' : Config} {t d : ℕ}

/-- Withdrawing all offers of a trip leaves none. -/
theorem not_notified_of_withdrawn {o o' : Offers} {a : DispatchStatus} (ha : a ≠ .driverNotified)
    (h : Offers.Withdrawn t (o.Notified t) (fun _ => some a) o o') : ¬ o'.Notified t d := by
  intro hn
  obtain ⟨hbefore, hout⟩ := h.toClosed.notified (Offers.answers_const ha) hn
  exact hout rfl hbefore

/-- A switch that sets a pending trip's status leaves no offer of it, if the accepting driver's lock
is held for the trip. -/
theorem TripsService.Switched.not_notified {trip : Trip} {userId : ℕ} {role : UserRole}
    {dto : UpdateTripStatusDto} {data : TripData} (h : Switched trip userId role dto k data k')
    (hunassigned : trip.driverId = none)
    (hlocked : ∀ driverId, dto.status = .accepted → role = .driver →
      k.store.driverOf userId = some driverId → k.store.offers.Notified trip.id driverId →
        k.store.offers.lock driverId = some trip.id) : ¬ k'.store.offers.Notified trip.id d := by
  cases h with
  | accepted _ _ _ _ _ _ haccepted =>
    intro hn
    obtain ⟨hbefore, hout⟩ := (Offers.Withdrawn.toClosed haccepted).notified
      Offers.answers_accept hn
    exact hout rfl (Or.inr hbefore)
  | unlocked hstatus hrole hdriver hnotified hlock _ =>
    exact absurd (hlocked _ hstatus hrole hdriver hnotified) hlock
  | advanced _ hassigned _ | cancelledByDriver _ hassigned _ =>
    rw [hunassigned] at hassigned
    cases hassigned
  | withdrawn _ _ hwithdrawn =>
    exact not_notified_of_withdrawn DispatchStatus.noConfusion hwithdrawn

/-- A trip that is offered stays pending until the failure of its dispatch is handled, if every
driver who accepts a trip holds the lock for it. -/
theorem Effect.status_of_notified (h : Effect env admits cond k k') (hk : k.Settled)
    (hlocked : ∀ op t d, admits k op → op.Accepts k.store t d → k.store.lockHolder d = some t)
    (hpending : k.store.tripStatus t = some .pending) (hn : k'.store.offers.Notified t d) :
    k'.store.tripStatus t = some .pending ∨
      (k'.store.tripStatus t = some .cancelledAuto ∧
        ∃ reason, .dispatchFailed t reason ∈ k.todo) := by
  obtain ⟨trip, hrow, hrowStatus⟩ := Option.map_eq_some_iff.mp hpending
  cases h.row t with
  | absent h _ | inserted h _ _ =>
    rw [h] at hrow
    cases hrow
  | kept h h' _ hstatus _ =>
    obtain rfl := Option.some.inj (h.symm.trans hrow)
    rw [Store.tripStatus, h', Option.map_some, hstatus, hrowStatus]
    exact Or.inl rfl
  | switched h _ hadmits hop _ hswitched hoffers _ =>
    obtain rfl := Option.some.inj (h.symm.trans hrow)
    have hid : _ = t := Table.key_of_find? h
    rw [hoffers, ← hid] at hn
    refine absurd hn (hswitched.not_notified (hk.unassigned t _ h hrowStatus) ?_)
    rintro driverId haccept rfl hdriver hnotified
    rw [hid] at hnotified ⊢
    exact hlocked _ _ _ hadmits ⟨_, _, hop, haccept, hdriver, hpending, hnotified⟩
  | completed h _ _ hbefore _ _ =>
    obtain rfl := Option.some.inj (h.symm.trans hrow)
    rw [hrowStatus] at hbefore
    cases hbefore
  | swept h _ _ hbefore _ _ =>
    obtain rfl := Option.some.inj (h.symm.trans hrow)
    rw [hrowStatus] at hbefore
    cases hbefore
  | assigned htodo _ _ _ _ _ =>
    obtain ⟨-, trip', htrip, hstatus, -⟩ := hk.assigned t _ (htodo ▸ List.mem_cons_self)
    rw [htrip] at hrow
    obtain rfl := Option.some.inj hrow
    rw [hrowStatus] at hstatus
    cases hstatus
  | cancelled htodo _ h' _ _ hstatus _ =>
    rw [Store.tripStatus, h', Option.map_some, hstatus]
    exact Or.inr ⟨rfl, _, htodo ▸ List.mem_cons_self⟩

/-- While the failure of its dispatch waits, a trip is not offered again. -/
theorem Effect.not_offered_of_failed (h : Effect env admits cond k k') (hk : k.Grounded)
    {reason : String} (hmem : .dispatchFailed t reason ∈ k.todo)
    (hn : k'.store.offers.Notified t d) : k.store.offers.Notified t d := by
  have hbusy : k.todo ≠ [] := List.ne_nil_of_mem hmem
  cases h with
  | same hsame => exact hsame.offers ▸ hn
  | givenUp _ _ _ hfailed =>
    obtain ⟨_, _, _, _, _, hoffers⟩ := hfailed
    exact hoffers ▸ hn
  | redispatched _ _ hfresh hsearched =>
    obtain ⟨k₁, serviceType, r, -, hwithdrawn, hsearched⟩ := hsearched
    rcases hsearched.was_notified hn with hbefore | rfl
    · exact (hwithdrawn.toClosed.notified (Offers.answers_const DispatchStatus.noConfusion)
        hbefore).1
    · exact absurd hmem (hfresh reason)
  | dispatched htodo _ =>
    have hfirst := (hk.created _ _ _ _ (htodo ▸ List.mem_cons_self)).1
    rw [hfirst, List.mem_singleton] at hmem
    cases hmem
  | assigned _ _ hwrites => exact hwrites.offers ▸ hn
  | cancelled _ hwrites => exact hwrites.offers ▸ hn
  | charged _ _ hcharges => exact hcharges.offers ▸ hn
  | handled _ _ hsame => exact hsame.offers ▸ hn
  | _ => contradiction

end Closing

end Telima
