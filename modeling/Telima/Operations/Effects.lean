import Telima.Dispatch.Protocol
import Telima.Operations.Trips

/-!
# The server as a transition system

An `Effect` is what an operation, a trip of a sweep or a recovery pass, or a handler does as a
whole.  Every step of the server is a sequence of effects (`Config.Step.effects`), so that what the
effects keep holds in every state of a run (`Config.Run.of_effects`).
-/

namespace Telima

open TripsService DispatchService DispatchRecoveryService

/-- The event starts no handler that writes a trip or searches a driver, but for the commission of
a completed trip. -/
def DomainEvent.isReport : DomainEvent → Bool
  | tripCreated _ _ _ _ | driverAssigned _ _ | dispatchFailed _ _ => false
  | _ => true

/-- The event is one a search emits. -/
def DomainEvent.isSearch : DomainEvent → Bool
  | driverNotified _ _ _ _ | dispatchFailed _ _ => true
  | _ => false

theorem isReport_of_statusEvent {trip : Trip} {userId : ℕ} {reason : Option String}
    {event : DomainEvent} (h : event ∈ (statusEvent trip userId reason).toList) :
    event.isReport = true := by
  rw [Option.mem_toList] at h
  unfold statusEvent at h
  cases hstatus : trip.status with
  | pending => simp [hstatus] at h
  | accepted => simp [hstatus] at h
  | _ =>
    simp only [hstatus, Option.some_inj] at h
    rw [← h]
    rfl

/-- The request to set the status of a trip the operation makes. -/
def Operation.setsStatus : Operation → Option (ℕ × ℕ × UserRole × UpdateTripStatusDto)
  | updateStatus tripId userId role dto => some (tripId, userId, role, dto)
  | wsAccept tripId userId => some (tripId, userId, .driver, { status := .accepted })
  | _ => none

/-- The offer the operation declines. -/
def Operation.declines (s : Store) : Operation → Option (ℕ × ℕ)
  | wsDecline tripId driverId => some (tripId, driverId)
  | declineTrip tripId userId => (s.driverOf userId).map fun driverId => (tripId, driverId)
  | _ => none

/-- The trip was stale when a sweep began. -/
def FoundStale (admits : Config → Operation → Prop) (trip : Trip) : Prop :=
  ∃ k : Config, admits k .sweep ∧ trip ∈ k.store.trips.rows ∧ isStale k.store.now trip = true

section

variable (env : Env) (admits : Config → Operation → Prop) (cond : Config → Cmd → Prop)

/-- What happens on the server. -/
inductive Effect (k : Config) : Config → Prop
  | same {k' : Config} (hsame : k.Same k') : Effect k k'
  | waited {ms : ℕ} (hidle : k.todo = []) (hadmits : admits k (.wait ms)) :
      Effect k (k.perform (.tick ms))
  | created {k' : Config} (hidle : k.todo = []) (hcreated : Created k k') : Effect k k'
  | statusSet {op : Operation} {tripId userId : ℕ} {role : UserRole} {dto : UpdateTripStatusDto}
      {k' : Config} (hidle : k.todo = []) (hadmits : admits k op)
      (hop : op.setsStatus = some (tripId, userId, role, dto))
      (hset : StatusSet tripId userId role dto k k') : Effect k k'
  | completed {tripId : ℕ} {trip : Trip} {amount : ℚ} {driverId : ℕ} {events : List DomainEvent}
      {k' : Config} (hidle : k.todo = []) (htrip : k.store.trips.find? tripId = some trip)
      (hstatus : trip.status = .inProgress) (hassigned : trip.driverId = some driverId)
      (hevents : ∀ event ∈ events, event.isReport = true)
      (hwrites : k.Writes k' (k.store.trips.update tripId
        ((completeData trip amount k.store.now).apply k.store.now) (TripData.id_apply _ _)) events) :
      Effect k k'
  | declined {op : Operation} {tripId driverId : ℕ} {k' : Config} (hidle : k.todo = [])
      (hadmits : admits k op) (hop : op.declines k.store = some (tripId, driverId))
      (hdeclined : Declined env.dispatch cond tripId driverId k k') : Effect k k'
  | timedOut {job : TimeoutJob} {k₁ k' : Config} {r : Except Error Unit} (hidle : k.todo = [])
      (hadmits : admits k (.timeout job)) (hjob : job ∈ k.store.jobs) (hstays : k.Stays k₁ [])
      (hclosed : Offers.TimedOut job.tripId job.driverId (k.store.offers.removeJob job.id)
        k₁.store.offers) (hretried : Retried env.dispatch cond job.tripId k₁ r k') : Effect k k'
  | givenUp {tripId : ℕ} {k' : Config} (hpending : k.store.tripStatus tripId = some .pending)
      (hsearch : ∀ event ∈ k.todo, event.isSearch = true)
      (hfresh : ∀ reason, .dispatchFailed tripId reason ∉ k.todo)
      (hfailed : GivenUp cond tripId k k') : Effect k k'
  | redispatched {tripId : ℕ} {k' : Config} (hpending : k.store.tripStatus tripId = some .pending)
      (hsearch : ∀ event ∈ k.todo, event.isSearch = true)
      (hfresh : ∀ reason, .dispatchFailed tripId reason ∉ k.todo)
      (hsearched : Redispatched env.dispatch cond tripId k k') : Effect k k'
  | swept {tripId : ℕ} {trip : Trip} {k' : Config} (hidle : k.todo = [])
      (htrip : k.store.trips.find? tripId = some trip) (hstatus : isAssigned trip.status = true)
      (hswept : Swept tripId k k') (hfound : FoundStale admits trip) : Effect k k'
  | rearmed {userId tripId driverId : ℕ} {k₀ k' : Config} (hidle : k.todo = [])
      (hrearmed : rearmed? k.store userId = some (tripId, driverId)) (hsame : k.Same k₀)
      (hc : cond k₀ (.rearmAttempt tripId driverId)) (hstays : k.Stays k' [])
      (hoffers : k'.store.offers = k.store.offers.rearm tripId driverId) : Effect k k'
  -- the handlers
  | dispatched {tripId : ℕ} {pickup : Point} {serviceType : ServiceType} {vehicleTypeId : ℕ}
      {todo : List DomainEvent} {r : Except Error Unit} {k' : Config}
      (htodo : k.todo = .tripCreated tripId pickup serviceType vehicleTypeId :: todo)
      (hsearched : Searched env.dispatch cond tripId serviceType { k with todo } r k') : Effect k k'
  | assigned {tripId driverId : ℕ} {todo events : List DomainEvent} {k' : Config}
      (htodo : k.todo = .driverAssigned tripId driverId :: todo)
      (hevents : ∀ event ∈ events, event.isReport = true)
      (hwrites : Config.Writes { k with todo } k' (k.store.trips.update tripId
        ((acceptData driverId k.store.now).apply k.store.now) (TripData.id_apply _ _)) events) :
      Effect k k'
  | cancelled {tripId : ℕ} {reason : String} {todo : List DomainEvent} {k' : Config}
      (htodo : k.todo = .dispatchFailed tripId reason :: todo)
      (hwrites : Config.Writes { k with todo } k' (k.store.trips.updateMany
        (fun trip => decide (trip.id = tripId) && decide (trip.status = .pending))
        ((cancelData .cancelledAuto (some reason) k.store.now).apply k.store.now)
        (TripData.id_apply _ _)) []) : Effect k k'
  | charged {event : DomainEvent} {todo : List DomainEvent} {trip : Trip} {driverId : ℕ}
      {price : Decimal2} {vehicleType : VehicleType} {k' : Config} (htodo : k.todo = event :: todo)
      (hreport : event.isReport = true)
      (hcharges : Config.Charges { k with todo } k' trip driverId price vehicleType) : Effect k k'
  | handled {event : DomainEvent} {todo : List DomainEvent} {k' : Config}
      (htodo : k.todo = event :: todo) (hreport : event.isReport = true)
      (hsame : Config.Same { k with todo } k') : Effect k k'

end

/-- Any number of effects. -/
abbrev Effects (env : Env) (admits : Config → Operation → Prop) (cond : Config → Cmd → Prop) :
    Config → Config → Prop := Relation.ReflTransGen (Effect env admits cond)

section Steps

variable {env : Env} {pricing : PricingEnv} {admits : Config → Operation → Prop}
variable {cond : Config → Cmd → Prop} {k k' : Config}

theorem effects_same (h : k.Same k') : Effects env admits cond k k' := .single (.same h)

/-- The sweep is a sequence of swept trips. -/
theorem wlp_sweepStaleAssigned (hidle : k.todo = []) (hadmits : admits k .sweep) :
    sweepStaleAssigned.wlp server cond (fun _ k' => Effects env admits cond k k') k := by
  rw [sweepStaleAssigned, Async.bind_eq]
  refine wlp_newDate_bind fun k₁ hk₁ => ?_
  rw [Async.bind_eq, findStale]
  have hread : ∀ k : Config, k.Same (k.perform .findStaleAssignedTrips) :=
    fun k => Config.same_perform rfl rfl rfl
  -- the trips of the list are assigned, and nothing is emitted
  let A : List Trip → Config → Prop := fun rest k' => Effects env admits cond k k' ∧
    k'.todo = [] ∧ (rest.map Trip.id).Nodup ∧
      ∀ trip ∈ rest, k'.store.trips.find? trip.id = some trip ∧ isAssigned trip.status = true ∧
        FoundStale admits trip
  have hstep : ∀ trip rest k', A (trip :: rest) k' → (cancelStale trip).wlp server cond
      (fun r k' => r = .ok () ∧ A rest k') k' := by
    rintro trip rest k' ⟨heffects, htodo, hnodup, hrows⟩
    obtain ⟨hrow, hstatus, hfound⟩ := hrows trip List.mem_cons_self
    obtain ⟨hnotMem, hnodup'⟩ := List.nodup_cons.mp hnodup
    refine Async.wlp_mono (wlp_cancelStale hrow) ?_
    rintro r k'' ⟨rfl, hswept⟩
    refine ⟨rfl, heffects.tail (.swept htodo hrow hstatus hswept hfound), ?_, hnodup',
      fun trip' hmem => ?_⟩
    · obtain ⟨k₂, hwrites, hstays, -⟩ := hswept
      rw [hstays.todo, hwrites.todo, htodo]
      rfl
    · obtain ⟨k₂, hwrites, hstays, -⟩ := hswept
      have hne : trip'.id ≠ trip.id := fun hid => hnotMem (hid ▸ List.mem_map_of_mem hmem)
      rw [hstays.trips, hwrites.trips, Table.find?_update_of_ne hne]
      exact hrows trip' (List.mem_cons_of_mem _ hmem)
  have hquery : (Async.tryCatch (findStale k.store.now) fun _ => pure []).wlp server cond (fun r k' =>
      ∃ stale, r = .ok stale ∧ A stale k') k₁ := by
    intro _
    have hsame : k.Same (k₁.perform .findStaleAssignedTrips) :=
      hk₁.trans (Config.same_perform rfl rfl rfl)
    refine ⟨_, rfl, effects_same hsame, ?_, ?_, fun trip hmem => ?_⟩
    · rw [server_perform, hsame.todo, hidle]
      rfl
    · exact k₁.store.trips.nodup.sublist (List.filter_sublist.map _)
    · obtain ⟨hrow, hstale⟩ := List.mem_filter.mp hmem
      have hfound : FoundStale admits trip := ⟨k, hadmits, hk₁.trips ▸ hrow, hstale⟩
      rw [isStale, Bool.and_eq_true] at hstale
      exact ⟨Table.find?_of_mem hrow, hstale.1, hfound⟩
  refine Async.wlp_bind_of_ok hquery fun stale k₂ hk₂ => ?_
  exact Async.wlp_mono (Async.wlp_forEach hstep hk₂) fun r k' hk' => hk'.2.1

/-- The recovery pass is a sequence of trips that are given up or searched for anew. -/
theorem wlp_run (quiet : Bool) (hidle : k.todo = []) :
    (run env.dispatch quiet).wlp server cond (fun _ k' => Effects env admits cond k k') k := by
  -- each trip of the list is pending, and its failure was not emitted
  let A : List Trip → Config → Prop := fun rest k' => Effects env admits cond k k' ∧
    (∀ event ∈ k'.todo, event.isSearch = true) ∧ (rest.map Trip.id).Nodup ∧
      ∀ trip ∈ rest, k'.store.trips.find? trip.id = some trip ∧
        trip.status = .pending ∧ ∀ reason, .dispatchFailed trip.id reason ∉ k'.todo
  have hstep : ∀ now trip rest k', A (trip :: rest) k' →
      (recoverTrip env.dispatch quiet now trip).wlp server cond
        (fun r k' => r = .ok () ∧ A rest k') k' := by
    rintro now trip rest k' ⟨heffects, hsearch, hnodup, hrows⟩
    obtain ⟨hrow, hstatus, hfresh⟩ := hrows trip List.mem_cons_self
    have hpending : k'.store.tripStatus trip.id = some .pending := by
      rw [Store.tripStatus, hrow, Option.map_some, hstatus]
    obtain ⟨hnotMem, hnodup'⟩ := List.nodup_cons.mp hnodup
    -- only events of this trip are added
    have hrest : ∀ k'' events, Effects env admits cond k k'' → k'.Stays k'' events →
        (∀ event ∈ events, (∃ d serviceType price,
          event = .driverNotified trip.id d serviceType price) ∨
            ∃ reason, event = .dispatchFailed trip.id reason) → A rest k'' := by
      intro k'' events heffects' hstays hevents
      refine ⟨heffects', fun event hmem => ?_, hnodup', fun trip' hmem => ?_⟩
      · rw [hstays.todo, List.mem_append] at hmem
        rcases hmem with hmem | hmem
        · exact hsearch event hmem
        · rcases hevents event hmem with ⟨d, serviceType, price, rfl⟩ | ⟨reason, rfl⟩
          · rfl
          · rfl
      · obtain ⟨hrow', hstatus', hfresh'⟩ := hrows trip' (List.mem_cons_of_mem _ hmem)
        refine ⟨hstays.trips ▸ hrow', hstatus', fun reason hin => ?_⟩
        rw [hstays.todo, List.mem_append] at hin
        rcases hin with hin | hin
        · exact hfresh' reason hin
        · rcases hevents _ hin with ⟨d, serviceType, price, h⟩ | ⟨reason', h⟩
          · cases h
          · have hid : trip'.id = trip.id := (DomainEvent.dispatchFailed.inj h).1
            exact hnotMem (hid ▸ List.mem_map_of_mem hmem)
    refine Async.wlp_mono (wlp_recoverTrip env.dispatch quiet now hrow) ?_
    rintro r k'' ⟨rfl, hsame | hfailed | hsearched⟩
    · exact ⟨rfl, hrest k'' [] (heffects.tail (.same hsame)) hsame.toStays (by simp)⟩
    · have heffects' := heffects.tail (.givenUp hpending hsearch hfresh hfailed)
      obtain ⟨reason, k₀, -, -, hstays, -⟩ := hfailed
      refine ⟨rfl, hrest k'' _ heffects' hstays fun event hmem => Or.inr ⟨reason, ?_⟩⟩
      exact List.mem_singleton.mp hmem
    · have heffects' := heffects.tail (.redispatched hpending hsearch hfresh hsearched)
      obtain ⟨k₁, serviceType, r, hstays, -, hsearched⟩ := hsearched
      obtain ⟨events, hstays', hevents⟩ := hsearched.stays
      exact ⟨rfl, hrest k'' events heffects' (hstays.trans hstays') hevents⟩
  rw [run, Async.bind_eq]
  have hquery : (Async.tryCatch findPending fun _ => pure []).wlp server cond (fun r k' =>
      ∃ pending, r = .ok pending ∧ A pending k') k := by
    intro _
    have hsame : k.Same (k.perform .findPendingTrips) := Config.same_perform rfl rfl rfl
    refine ⟨_, rfl, effects_same hsame, fun event hmem => ?_, ?_, fun trip hmem => ?_⟩
    · rw [server_perform, hsame.todo, hidle] at hmem
      cases hmem
    · rw [((List.perm_insertionSort _ _).map _).nodup_iff]
      exact k.store.trips.nodup.sublist (List.filter_sublist.map _)
    · obtain ⟨hrow, hstatus⟩ := List.mem_filter.mp ((List.mem_insertionSort _).mp hmem)
      refine ⟨Table.find?_of_mem hrow, of_decide_eq_true hstatus, fun reason => ?_⟩
      rw [server_perform, hsame.todo, hidle]
      simp
  refine Async.wlp_bind_of_ok hquery fun pending k₁ hk₁ => ?_
  split_ifs
  · exact hk₁.1
  · refine wlp_newDate_bind fun k₂ hk₂ => ?_
    have hA : A pending k₂ := by
      have htodo : k₂.todo = k₁.todo := by rw [hk₂.todo, List.append_nil]
      refine ⟨hk₁.1.tail (.same hk₂), htodo ▸ hk₁.2.1, hk₁.2.2.1, fun trip hmem => ?_⟩
      obtain ⟨hrow, hstatus, hfresh⟩ := hk₁.2.2.2 trip hmem
      exact ⟨hk₂.trips ▸ hrow, hstatus, htodo ▸ hfresh⟩
    exact Async.wlp_mono (Async.wlp_forEach (hstep _) hA) fun r k' hk' => hk'.2.1

/-- An operation is a sequence of effects. -/
theorem wlp_program (op : Operation) (hidle : k.todo = []) (hready : op.Ready k.store)
    (hadmits : admits k op) :
    (op.program env pricing).wlp server cond (fun _ k' => Effects env admits cond k k') k := by
  cases op with
  | createTrip clientId dto =>
    refine Async.wlp_as (Async.wlp_mono (wlp_createTrip pricing clientId dto) ?_)
    rintro r k' (hsame | hcreated)
    · exact effects_same hsame
    · exact .single (.created hidle hcreated)
  | updateStatus tripId userId role dto =>
    refine Async.wlp_as (Async.wlp_mono wlp_updateStatus ?_)
    rintro r k' (hsame | hset)
    · exact effects_same hsame
    · exact .single (.statusSet hidle hadmits rfl hset)
  | completeTrip tripId userId role dto =>
    refine Async.wlp_as (Async.wlp_mono (wlp_completeTrip dto) ?_)
    rintro r k' (hsame | ⟨trip, driverId, htrip, hstatus, hassigned, hwrites⟩)
    · exact effects_same hsame
    · exact .single (.completed hidle htrip hstatus hassigned
        (fun event hmem => isReport_of_statusEvent hmem) hwrites)
  | wsAccept tripId userId =>
    refine Async.wlp_mono wlp_handleWsDriverAcceptRequested ?_
    rintro r k' (hsame | hset)
    · exact effects_same hsame
    · exact .single (.statusSet hidle hadmits rfl hset)
  | declineTrip tripId userId =>
    refine Async.wlp_mono (wlp_declineTrip env.dispatch) ?_
    rintro r k' (hsame | ⟨driverId, hdriver, hdeclined⟩)
    · exact effects_same hsame
    · have hop : (Operation.declineTrip tripId userId).declines k.store =
          some (tripId, driverId) := by
        rw [Operation.declines, hdriver, Option.map_some]
      exact .single (.declined hidle hadmits hop hdeclined)
  | wsDecline tripId driverId =>
    refine Async.wlp_mono (wlp_handleDriverDeclineAndRetry env.dispatch) ?_
    rintro r k' ⟨k₁, hstays, hwithdrawn, hretried⟩
    exact .single (.declined hidle hadmits rfl ⟨k₁, r, hstays, hwithdrawn, hretried⟩)
  | timeout job =>
    intro _
    refine Async.wlp_mono (wlp_handleDriverTimeout env.dispatch) ?_
    rintro r k' ⟨k₁, hstays, hclosed, hretried⟩
    have hremoved : k.Stays (k.perform (.removeJob job.id)) [] := Config.stays_perform rfl
    exact .single (.timedOut hidle hadmits hready.1 (hremoved.trans hstays) hclosed hretried)
  | recovery quiet => exact wlp_run quiet hidle
  | sweep => exact wlp_sweepStaleAssigned hidle hadmits
  | getPendingRequest userId =>
    refine Async.wlp_as (Async.wlp_mono (wlp_getPendingRequestForDriver userId) ?_)
    rintro r k' (⟨-, hsame⟩ | ⟨tripId, driverId, k₀, hrearmed, hsame, hc, hstays, hoffers⟩)
    · exact effects_same hsame
    · exact .single (.rearmed hidle hrearmed hsame hc hstays hoffers)
  | wait ms => exact fun _ => .single (.waited hidle hadmits)

theorem wlp_handleEvent_nil {event : DomainEvent} {Q : Config → Prop}
    (hhandlers : eventHandlers env event = []) (hk : Q k) :
    (handleEvent env event).wlp server cond (fun _ => Q) k := by
  rw [handleEvent, hhandlers]
  exact hk

theorem wlp_handleEvent_single {event : DomainEvent} {handler : Prog Unit} {Q : Config → Prop}
    (hhandlers : eventHandlers env event = [handler]) (hk : handler.wlp server cond (fun _ => Q) k) :
    (handleEvent env event).wlp server cond (fun _ => Q) k := by
  rw [handleEvent, hhandlers]
  refine Async.wlp_bind (Async.wlp_tryCatch (Async.wlp_mono hk fun r k' hk' => ?_))
  cases r with
  | ok a => exact hk'
  | error e => exact hk'

/-- The handlers of an event are one effect. -/
theorem wlp_handleEvent (event : DomainEvent) (todo : List DomainEvent)
    (htodo : k.todo = event :: todo) : (handleEvent env event).wlp server cond
      (fun _ k' => Effects env admits cond k k') { k with todo } := by
  have hreport : event.isReport = true → Effects env admits cond k { k with todo } :=
    fun hreport => .single (.handled htodo hreport (.refl _))
  cases event with
  | tripCreated tripId pickup serviceType vehicleTypeId =>
    refine wlp_handleEvent_single rfl ?_
    exact Async.wlp_mono (wlp_attemptDispatch env.dispatch _ _ _) fun r k' h =>
      .single (.dispatched htodo h)
  | tripCompleted tripId driverId clientId finalPrice =>
    refine wlp_handleEvent_single rfl ?_
    refine Async.wlp_mono (CommissionsService.wlp_handleTripCompleted tripId) ?_
    rintro r k' (⟨hsame, -⟩ | ⟨trip, driverId, price, vehicleType, -, -, -, -, hcharges⟩)
    · exact .single (.handled htodo rfl hsame)
    · exact .single (.charged htodo rfl hcharges)
  | driverAssigned tripId driverId =>
    refine wlp_handleEvent_single rfl ?_
    refine Async.wlp_mono (wlp_handleDriverAssigned env.geo driverId) ?_
    rintro r k' ⟨events, hevents, hwrites⟩
    refine .single (.assigned htodo (fun event hmem => ?_) hwrites)
    obtain ⟨clientId, rfl⟩ := hevents event hmem
    rfl
  | dispatchFailed tripId reason =>
    refine wlp_handleEvent_single rfl ?_
    exact Async.wlp_mono (wlp_handleDispatchFailed reason) fun r k' h =>
      .single (.cancelled htodo h)
  | _ => exact wlp_handleEvent_nil rfl (hreport rfl)

/-- Every step of the server is a sequence of effects. -/
theorem Config.Step.effects (h : Config.Step env pricing admits cond k k') :
    Effects env admits cond k k' := by
  cases h with
  | operate hidle hready hadmits hobeys =>
    exact Async.wlp_iff.mp (wlp_program _ hidle hready hadmits) hobeys
  | handle htodo hobeys => exact Async.wlp_iff.mp (wlp_handleEvent _ _ htodo) hobeys

/-- What the effects keep holds along a run. -/
theorem Config.Run.of_effects {I : Config → Prop}
    (hI : ∀ k k', Effect env admits cond k k' → I k → I k')
    (h : Config.Run env pricing admits cond k k') (hk : I k) : I k' := by
  have heffects : ∀ {k k' : Config}, Effects env admits cond k k' → I k → I k' := by
    intro k k' h hk
    induction h with
    | refl => exact hk
    | tail _ heffect ih => exact hI _ _ heffect ih
  induction h with
  | refl => exact hk
  | tail _ hstep ih => exact heffects hstep.effects ih

/-! ### The offers of an effect -/

/-- An offer is made along a search. -/
theorem DispatchService.NotifiesAll.induction {tripId runAt : ℕ} {P : Config → Prop}
    (hsame : ∀ {k k' : Config}, k.Same k' → P k → P k')
    (hoffered : ∀ {k k' : Config} {driverId seconds : ℕ} {events : List DomainEvent},
      cond k (.redisSetNx (.dispatchLock driverId) (.trip tripId) seconds) → k.Stays k' events →
      (∀ event ∈ events, event.isReport = true) →
      Offers.Offered tripId driverId runAt k.store.offers k'.store.offers →
      (0 < seconds → k'.store.offers.lock driverId = some tripId) → P k → P k')
    (h : NotifiesAll cond tripId runAt k k') (hk : P k) : P k' := by
  have hlink : ∀ {k k' : Config}, Notifies cond tripId runAt k k' → P k → P k' := by
    rintro k k' ⟨k₀, d, seconds, serviceType, price, hsame₀, hc, hstays, hoffer, hheld⟩ hk
    exact hoffered hc hstays (by simp [DomainEvent.isReport]) hoffer hheld (hsame hsame₀ hk)
  induction h with
  | single h => exact hlink h hk
  | tail _ h ih => exact hlink h ih

theorem DispatchService.Searched.moves {tripId : ℕ} {serviceType : ServiceType} {r : Except Error Unit}
    (h : Searched env.dispatch cond tripId serviceType k r k') :
    Offers.Moves k.store.offers k'.store.offers := by
  cases h with
  | notified hall =>
    refine NotifiesAll.induction (P := fun k' => Offers.Moves k.store.offers k'.store.offers)
      (fun hsame hk => ?_) (fun _ _ _ hoffered _ hk => ?_) hall .refl
    · rwa [hsame.offers]
    · exact hk.tail (.offered hoffered)
  | failed hfailed =>
    obtain ⟨_, _, _, _, _, hoffers⟩ := hfailed
    exact Offers.moves_of_eq hoffers
  | broken _ _ hsame => exact Offers.moves_of_eq hsame.offers

theorem DispatchService.Retried.moves {tripId : ℕ} {r : Except Error Unit}
    (h : Retried env.dispatch cond tripId k r k') : Offers.Moves k.store.offers k'.store.offers := by
  cases h with
  | settled _ hsame => exact Offers.moves_of_eq hsame.offers
  | again _ _ hsearched => exact hsearched.moves

theorem TripsService.Switched.moves {trip : Trip} {userId : ℕ} {role : UserRole} {dto : UpdateTripStatusDto}
    {data : TripData} (h : Switched trip userId role dto k data k') :
    Offers.Moves k.store.offers k'.store.offers := by
  cases h with
  | accepted _ _ _ _ _ _ haccepted => exact .single (.withdrawn Offers.answers_accept haccepted)
  | unlocked _ _ _ _ _ hsame => exact Offers.moves_of_eq hsame.offers
  | advanced _ _ hsame => exact Offers.moves_of_eq hsame.offers
  | withdrawn _ _ hwithdrawn =>
    exact .single (.withdrawn (Offers.answers_const DispatchStatus.noConfusion) hwithdrawn)
  | cancelledByDriver _ _ hsame => exact Offers.moves_of_eq hsame.offers

/-- What is live later is live now. -/
theorem Store.get_of_get_tick {ms : ℕ} {s : Store} {key : RedisKey} {value : RedisValue}
    (h : ((Cmd.tick ms).exec s).get key = some value) : s.get key = some value := by
  obtain ⟨entry, hentry, hvalue⟩ := Option.bind_eq_some_iff.mp h
  refine Option.bind_eq_some_iff.mpr ⟨entry, hentry, ?_⟩
  cases hexpires : entry.expiresAt with
  | none =>
    rw [hexpires] at hvalue
    exact hvalue
  | some t =>
    rw [hexpires] at hvalue
    have hnow : ((Cmd.tick ms).exec s).now = s.now + ms := rfl
    dsimp only at hvalue ⊢
    rw [hnow] at hvalue
    split_ifs at hvalue with hlt
    rw [if_pos (by omega)]
    exact hvalue

/-- The passing of time. -/
theorem elapsed_tick (ms : ℕ) (s : Store) :
    Offers.Elapsed s.offers ((Cmd.tick ms).exec s).offers := by
  refine ⟨rfl, fun d t h => ?_, fun t d j h => ?_, rfl, rfl⟩
  · obtain ⟨value, hvalue, htrip⟩ := Option.bind_eq_some_iff.mp h
    exact Option.bind_eq_some_iff.mpr ⟨value, Store.get_of_get_tick hvalue, htrip⟩
  · obtain ⟨value, hvalue, hjob⟩ := Option.bind_eq_some_iff.mp h
    exact Option.bind_eq_some_iff.mpr ⟨value, Store.get_of_get_tick hvalue, hjob⟩

/-- What an effect does to the offers: moves, the passing of time, or an attempt is opened again. -/
theorem Effect.offers (h : Effect env admits cond k k') :
    Offers.Moves k.store.offers k'.store.offers ∨
      (∃ ms, admits k (.wait ms) ∧ k' = k.perform (.tick ms)) ∨
      ∃ tripId driverId k₀, k.store.tripStatus tripId = some .pending ∧ k.todo = [] ∧ k.Same k₀ ∧
        cond k₀ (.rearmAttempt tripId driverId) ∧ k.Stays k' [] ∧
        k'.store.offers = k.store.offers.rearm tripId driverId := by
  have htimedOut : Offers.Answers fun _ => some .timedOut :=
    Offers.answers_const DispatchStatus.noConfusion
  have hsame : k'.store.offers = k.store.offers → _ := fun h =>
    Or.inl (b := (∃ ms, admits k (.wait ms) ∧ k' = k.perform (.tick ms)) ∨
      ∃ tripId driverId k₀, k.store.tripStatus tripId = some .pending ∧ k.todo = [] ∧ k.Same k₀ ∧
        cond k₀ (.rearmAttempt tripId driverId) ∧ k.Stays k' [] ∧
        k'.store.offers = k.store.offers.rearm tripId driverId) (Offers.moves_of_eq h)
  cases h with
  | same h => exact hsame h.offers
  | @waited ms _ hadmits => exact Or.inr (Or.inl ⟨ms, hadmits, rfl⟩)
  | created _ hcreated =>
    obtain ⟨_, _, _, _, hwrites⟩ := hcreated
    exact hsame hwrites.offers
  | statusSet _ _ _ hset =>
    obtain ⟨trip, data, k₁, -, -, hswitched, hwrites⟩ := hset
    rw [hwrites.offers]
    exact Or.inl hswitched.moves
  | completed _ _ _ _ _ hwrites => exact hsame hwrites.offers
  | declined _ _ _ hdeclined =>
    obtain ⟨k₁, r, -, hwithdrawn, hretried⟩ := hdeclined
    exact Or.inl (hretried.moves.head
      (.withdrawn (Offers.answers_const DispatchStatus.noConfusion) hwithdrawn))
  | timedOut _ _ hjob _ hclosed hretried =>
    exact Or.inl (hretried.moves.head (.expired hjob hclosed))
  | givenUp _ _ _ hfailed =>
    obtain ⟨_, _, _, _, _, hoffers⟩ := hfailed
    exact hsame hoffers
  | redispatched _ _ _ hsearched =>
    obtain ⟨k₁, serviceType, r, -, hwithdrawn, hsearched⟩ := hsearched
    exact Or.inl (hsearched.moves.head (.withdrawn htimedOut hwithdrawn))
  | swept _ _ _ hswept _ =>
    obtain ⟨k₁, -, -, hwithdrawn⟩ := hswept
    exact Or.inl (.single (.withdrawn htimedOut hwithdrawn))
  | rearmed hidle hrearmed h hc hstays hoffers =>
    exact Or.inr (Or.inr ⟨_, _, _, (rearmed?_spec hrearmed).1, hidle, h, hc, hstays, hoffers⟩)
  | dispatched _ hsearched => exact Or.inl hsearched.moves
  | assigned _ _ hwrites => exact hsame hwrites.offers
  | cancelled _ hwrites => exact hsame hwrites.offers
  | charged _ _ hcharges => exact hsame hcharges.offers
  | handled _ _ h => exact hsame h.offers

/-- What holds of the offers whatever happens to them holds along a run. -/
theorem Config.Run.of_offers {P : Offers → Prop} (hmove : ∀ {o o'}, Offers.Move o o' → P o → P o')
    (helapsed : ∀ {o o'}, Offers.Elapsed o o' → P o → P o')
    (hrearm : ∀ {o tripId driverId}, P o → P (o.rearm tripId driverId))
    (h : Config.Run env pricing admits cond k k') (hk : P k.store.offers) : P k'.store.offers := by
  refine h.of_effects (I := fun k => P k.store.offers) (fun k k' heffect hk => ?_) hk
  rcases heffect.offers with hmoves | ⟨ms, -, rfl⟩ | ⟨_, _, _, -, -, -, -, -, hoffers⟩
  · exact hmoves.induction hmove hk
  · exact helapsed (elapsed_tick ms k.store) hk
  · rw [hoffers]
    exact hrearm hk

/-- At the start there are no offers. -/
theorem Store.Fresh.offers {s : Store} (hs : s.Fresh) :
    (∀ t d, s.offers.status t d = none) ∧ (∀ d, s.offers.lock d = none) ∧
      (∀ t d, s.offers.jobKey t d = none) ∧ s.offers.jobs = [] := by
  refine ⟨fun t d => ?_, fun d => ?_, fun t d => ?_, hs.jobs⟩
  · show (s.attempts.rows.find? _).map _ = none
    rw [hs.attempts]
    rfl
  · show ((s.redis _).bind _).bind _ = none
    rw [hs.redis]
    rfl
  · show ((s.redis _).bind _).bind _ = none
    rw [hs.redis]
    rfl

theorem Store.Fresh.wellKeyed {s : Store} (hs : s.Fresh) : s.offers.WellKeyed := by
  obtain ⟨-, -, hkeys, hjobs⟩ := hs.offers
  refine ⟨fun job hjob => ?_, fun t d j hj => ?_, fun t d j hj => ?_⟩
  · rw [hjobs] at hjob
    cases hjob
  · rw [hkeys] at hj
    cases hj
  · rw [hkeys] at hj
    cases hj

theorem Store.Fresh.backed {s : Store} (hs : s.Fresh) : s.offers.Backed := by
  intro d t hlock
  rw [hs.offers.2.1] at hlock
  cases hlock

end Steps

end Telima
