import Telima.Operations.Effects
import Telima.Trips.Routine

/-!
# A recovered request is accepted

`getPendingRequestForDriver` opens the attempt again and takes the driver's lock, so an accept that follows
passes every check.  It withdraws the other offers of the trip, but finds a timeout job only by the name in
Redis, which lives 30 seconds longer than the job is delayed: a job that runs later stays queued
(`pending_request_accepted_iff`).
-/

namespace Telima

open TripsService DispatchService

/-- The trip is accepted by the driver, and every other driver it was offered to in `s` has lost it. -/
structure AcceptedBy (s : Store) (tripId driverId : ℕ) (k : Config) : Prop where
  trip : ∃ trip, k.store.trips.find? tripId = some trip ∧ trip.status = .accepted ∧
    trip.driverId = some driverId
  accepted : k.store.attemptStatus tripId driverId = some .driverAccepted
  declined : ∀ d, d ≠ driverId → s.attemptStatus tripId d = some .driverNotified →
    k.store.attemptStatus tripId d = some .driverDeclined
  released : ∀ d, d ≠ driverId → s.attemptStatus tripId d = some .driverNotified →
    k.store.lockHolder d = none
  cancelled : ∀ d, d ≠ driverId → s.attemptStatus tripId d = some .driverNotified →
    ∀ job ∈ k.store.jobs, ¬ (job.tripId = tripId ∧ job.driverId = d)
  rounds : k.store.get (.dispatchRounds tripId) = none
  /-- Both events were emitted once, and no other. -/
  events : ∃ clientId, k.log.filterMap Cmd.event? =
    [.tripAccepted tripId driverId clientId, .driverAssigned tripId driverId]

namespace Config

variable {env : Env} {pricing : PricingEnv} {op : Operation} {k k' k'' : Config}

/-- The events a program adds to those that wait are the ones in the log. -/
theorem play_events {α : Type} (p : Prog α) (k : Config) : ∃ events,
    (p.play server k).2.todo = k.todo ++ events ∧
    (p.play server k).2.log.filterMap Cmd.event? = events.reverse ++ k.log.filterMap Cmd.event? := by
  have hstep : ∀ (q : Prog α) (c : Cmd) (k : Config), (∃ events,
      (q.play server (k.perform c)).2.todo = (k.perform c).todo ++ events ∧
      (q.play server (k.perform c)).2.log.filterMap Cmd.event? =
        events.reverse ++ (k.perform c).log.filterMap Cmd.event?) →
      ∃ events, (q.play server (k.perform c)).2.todo = k.todo ++ events ∧
        (q.play server (k.perform c)).2.log.filterMap Cmd.event? =
          events.reverse ++ k.log.filterMap Cmd.event? := by
    rintro q c k ⟨events, htodo, hlog⟩
    refine ⟨c.event?.toList ++ events, ?_, ?_⟩
    · rw [htodo, todo_perform, List.append_assoc]
    · rw [hlog, log_perform, List.reverse_append, List.append_assoc]
      cases hevent : c.event? with
      | none => rw [List.filterMap_cons_none hevent]; rfl
      | some event => rw [List.filterMap_cons_some hevent]; rfl
  induction p generalizing k with
  | done r => exact ⟨[], (List.append_nil _).symm, rfl⟩
  | await c next _ ih _ => exact hstep _ c k (ih _ (k.perform c))
  | sync c next ih => exact hstep _ c k (ih _ (k.perform c))

/-- The handlers of an event run in one way only. -/
theorem rightUnique_handles (env : Env) : Relator.RightUnique (Handles env) := by
  rintro k k' k'' ⟨htodo⟩ ⟨htodo'⟩
  rw [htodo] at htodo'
  obtain ⟨rfl, rfl⟩ := List.cons.inj htodo'
  rfl

/-- An operation completes in one way only. -/
theorem Completes.unique (h : Completes env pricing op k k') (h' : Completes env pricing op k k'') :
    k' = k'' := by
  have hends : ∀ {k k' : Config}, k.todo = [] → Relation.ReflTransGen (Handles env) k k' → k' = k := by
    intro k k' hdone hhandled
    rcases Relation.ReflTransGen.cases_head hhandled with rfl | ⟨_, ⟨htodo⟩, -⟩
    · rfl
    · rw [hdone] at htodo
      cases htodo
  rcases Relation.ReflTransGen.total_of_right_unique (rightUnique_handles env) h.handled h'.handled with
    hlater | hlater
  · exact (hends h.done hlater).symm
  · exact hends h'.done hlater

end Config

/-! ### The accept -/

section Accept

variable {cond : Config → Cmd → Prop} {s : Store} {k k' : Config} {trip : Trip}
  {tripId driverId userId : ℕ} {key : RedisKey}

/-- No routine command sets a key. -/
theorem Cmd.get_exec_of_isRoutine {c : Cmd} (hc : c.isRoutine = true) (h : s.get key = none) :
    (c.exec s).get key = none := by
  cases c with
  | redisDel key' =>
    rw [Store.get_redisDel]
    split_ifs
    · rfl
    · exact h
  | tick ms =>
    cases hlater : ((Cmd.tick ms).exec s).get key with
    | none => rfl
    | some value =>
      rw [Store.get_of_get_tick hlater] at h
      cases h
  | redisSet key' value seconds => cases hc
  | redisSetNx key' value seconds => cases hc
  | redisIncr key' => cases hc
  | redisExpire key' seconds => cases hc
  | _ => exact h

theorem wlp_routine {α : Type} {p : Prog α} (hp : Routine p) (h : k.store.get key = none) :
    p.wlp server cond (fun _ k' => k'.store.get key = none) k :=
  Async.Only.wlp (A := fun k' : Config => k'.store.get key = none)
    (fun _ _ hc _ hk' => Cmd.get_exec_of_isRoutine hc hk') hp h

/-- The trip is accepted by the driver: his offer is answered, and the others are withdrawn. -/
structure Taken (k : Config) (trip : Trip) (driverId : ℕ) (k' : Config) : Prop where
  row : ∃ row, k'.store.trips.find? trip.id = some row ∧ row.status = .accepted ∧
    row.driverId = some driverId ∧ row.clientId = trip.clientId
  offers : Offers.Accepted trip.id driverId k.store.offers k'.store.offers
  rounds : k'.store.get (.dispatchRounds trip.id) = none

/-- The case `accepted`, for a driver who holds the offer and the lock. -/
theorem wlp_acceptCase_of_locked (hdriver : k.store.driverOf userId = some driverId)
    (hnotified : k.store.offers.Notified tripId driverId)
    (hlock : k.store.offers.lock driverId = some tripId) :
    (acceptCase tripId userId .driver).wlp server cond (fun r k' =>
      r = .ok (acceptData driverId k.store.now) ∧ k.Stays k' [.driverAssigned tripId driverId] ∧
      Offers.Accepted tripId driverId k.store.offers k'.store.offers ∧
      k'.store.get (.dispatchRounds tripId) = none) k := by
  unfold acceptCase
  rw [if_neg (not_not.mpr rfl)]
  refine wlp_findDriverByUserId_bind fun k₁ hk₁ => ?_
  rw [hdriver]
  dsimp only
  rw [Async.bind_eq, TripRepository.hasActiveDispatchAttempt, Async.wlp_query_bind]
  intro _
  have hasked := hk₁.trans (Config.same_perform (c := .findActiveAttempt tripId driverId) rfl rfl rfl)
  have hactive : TripRepository.isNotified k₁.store tripId driverId = true := by
    rw [isNotified_iff, hk₁.offers]
    exact hnotified
  rw [server_store, server_perform, if_pos hactive]
  refine wlp_newDate_bind fun k₂ hk₂ => ?_
  have hbefore := hasked.trans hk₂
  refine Async.wlp_bind_of_ok wlp_handleDriverAccept fun _ k₃ hk₃ => ?_
  rw [hbefore.offers] at hk₃
  rcases hk₃ with ⟨-, hstays, haccepted, hrounds⟩ | ⟨hother, -⟩
  · refine ⟨?_, hbefore.stays hstays, haccepted, hrounds⟩
    rw [hasked.now]
    rfl
  · exact absurd hlock hother

/-- The request of a driver who holds the offer and the lock succeeds. -/
theorem wlp_acceptTrip (htrip : k.store.trips.find? trip.id = some trip)
    (hpending : trip.status = .pending) (hdriver : k.store.driverOf userId = some driverId)
    (hnotified : k.store.offers.Notified trip.id driverId)
    (hlock : k.store.offers.lock driverId = some trip.id) :
    (acceptTrip trip.id userId).wlp server cond (fun r k' => (∃ updated, r = .ok updated) ∧
      k'.todo = k.todo ++ [.driverAssigned trip.id driverId] ∧ Taken k trip driverId k') k := by
  rw [acceptTrip, TripsService.updateStatus, Async.bind_eq]
  refine wlp_getTrip_bind (fun row k₁ hrow hk₁ => ?_) fun e k₁ hnone _ => ?_
  · obtain rfl : trip = row := Option.some.inj (htrip.symm.trans hrow)
    have htransition : canTransition trip.status .accepted = true := by
      rw [hpending]
      decide
    rw [if_pos htransition]
    rw [← hk₁.offers] at hnotified hlock
    have hdriver₁ : k₁.store.driverOf userId = some driverId := by
      rw [Store.driverOf, hk₁.drivers]
      exact hdriver
    apply Async.wlp_bind
    refine Async.wlp_mono (wlp_acceptCase_of_locked hdriver₁ hnotified hlock) ?_
    rintro r k₂ ⟨rfl, hstays, haccepted, hrounds⟩
    rw [Async.done_ok_bind]
    have htrip₂ : k₂.store.trips.find? trip.id = some trip := by
      rw [hstays.trips, hk₁.trips]
      exact htrip
    -- what follows keeps the counter deleted
    let rest : Prog Trip := do
      let updated ← TripRepository.updateStatus trip.id (acceptData driverId k₁.store.now)
      reportStatus updated userId .accepted none
    have hroutine : Routine rest :=
      Async.Only.bind ((routine_update _ _).bind fun _ => routine_findById _) fun updated =>
        (unpaid_reportStatus updated userId _ _).routine
    have hreported : rest.wlp server cond (fun r k' => (∃ updated, r = .ok updated) ∧
        k₂.Writes k' (k₂.store.trips.update trip.id
          ((acceptData driverId k₁.store.now).apply k₂.store.now) (TripData.id_apply _ _)) []) k₂ := by
      show Async.wlp server cond ((TripRepository.updateStatus _ _).bind _) _ k₂
      rw [TripRepository.updateStatus, Async.bind_eq, Async.bind_assoc]
      refine Async.wlp_bind (Async.wlp_mono (wlp_update_of_some htrip₂) ?_)
      rintro r k₃ ⟨rfl, hwrites⟩
      rw [Async.done_ok_bind]
      refine Async.wlp_bind (Async.wlp_mono wlp_findById ?_)
      rintro r k₄ ⟨rfl, hk₄⟩
      have hfound : k₃.store.trips.find? trip.id =
          some ((acceptData driverId k₁.store.now).apply k₂.store.now trip) := by
        rw [hwrites.trips, Table.find?_update_self, htrip₂]
        rfl
      rw [Async.done_ok_bind, hfound]
      refine Async.wlp_mono (wlp_reportStatus _ userId _ _) ?_
      rintro r k₅ ⟨rfl, hstays, hoffers⟩
      exact ⟨⟨_, rfl⟩, (hwrites.same hk₄).stays hstays hoffers⟩
    refine Async.wlp_mono (Async.wlp_and hreported (wlp_routine hroutine hrounds)) ?_
    rintro r k₃ ⟨⟨hok, hwrites⟩, hrounds⟩
    refine ⟨hok, ?_, ⟨(acceptData driverId k₁.store.now).apply k₂.store.now trip, ?_, rfl, rfl, rfl⟩, ?_,
      hrounds⟩
    · rw [hwrites.todo, hstays.todo, hk₁.todo, List.append_nil, List.append_nil]
    · rw [hwrites.trips, Table.find?_update_self, htrip₂]
      rfl
    · rw [hwrites.offers, ← hk₁.offers]
      exact haccepted
  · rw [htrip] at hnone
    cases hnone

/-- The handler of `DriverAssigned` announces the driver to the client. -/
theorem wlp_handleDriverAssigned_taken (geo : GeoEnv) {k₀ : Config} (h : Taken k₀ trip driverId k) :
    (handleDriverAssigned geo trip.id driverId).wlp server cond (fun _ k' =>
      k'.todo = k.todo ++ [.tripAccepted trip.id driverId trip.clientId] ∧ Taken k₀ trip driverId k') k := by
  obtain ⟨row, hrow, -, -, hclient⟩ := h.row
  have hid : row.id = trip.id := Table.key_of_find? hrow
  have hannounced : (handleDriverAssigned geo trip.id driverId).wlp server cond (fun _ k' =>
      k.Writes k' (k.store.trips.update trip.id ((acceptData driverId k.store.now).apply k.store.now)
        (TripData.id_apply _ _)) [.tripAccepted trip.id driverId trip.clientId]) k := by
    rw [handleDriverAssigned, TripRepository.assignDriver, Async.bind_eq, Async.bind_eq, Async.bind_assoc]
    refine wlp_newDate_bind fun k₁ hk₁ => ?_
    have hrow₁ : k₁.store.trips.find? trip.id = some row := by
      rw [hk₁.trips]
      exact hrow
    refine Async.wlp_bind (Async.wlp_mono (wlp_update_of_some hrow₁) ?_)
    rintro r k₂ ⟨rfl, hwrites⟩
    have hwrites' := hk₁.writes hwrites
    simp only [hk₁.trips, hk₁.now] at hwrites' ⊢
    rw [Async.done_ok_bind, Async.bind_eq]
    refine Async.wlp_bind_of_ok (R := fun _ k' => k₂.Same k') (Async.wlp_mono (Async.wlp_and
      (returns_broadcastAccepted geo _ driverId).wlp (wlp_broadcastAccepted geo _ driverId)) ?_)
      fun _ k₃ hk₃ => ?_
    · rintro r k₃ ⟨⟨a, rfl⟩, hk₃⟩
      exact ⟨a, rfl, hk₃⟩
    intro _
    have hevents : [DomainEvent.tripAccepted trip.id driverId trip.clientId] =
        [] ++ [.tripAccepted row.id driverId row.clientId] := by
      rw [hid, hclient, List.nil_append]
    rw [hevents]
    exact (hwrites'.same hk₃).stays
      (Config.stays_perform (c := .emit (.tripAccepted row.id driverId row.clientId)) rfl) rfl
  refine Async.wlp_mono (Async.wlp_and hannounced
    (wlp_routine (routine_handleDriverAssigned geo trip.id driverId) h.rounds)) ?_
  rintro r k' ⟨hwrites, hrounds⟩
  refine ⟨hwrites.todo, ⟨(acceptData driverId k.store.now).apply k.store.now row, ?_, rfl, rfl, hclient⟩, ?_,
    hrounds⟩
  · rw [hwrites.trips, Table.find?_update_self, hrow]
    rfl
  · rw [hwrites.offers]
    exact h.offers

/-- The handler of `DriverAssigned`, and what it leaves to be handled. -/
theorem exists_handles_driverAssigned (env : Env) {k₀ : Config} (h : Taken k₀ trip driverId k)
    (htodo : k.todo = [.driverAssigned trip.id driverId]) : ∃ k', Config.Handles env k k' ∧
      k'.todo = [.tripAccepted trip.id driverId trip.clientId] ∧ Taken k₀ trip driverId k' ∧
      k'.log.filterMap Cmd.event? =
        .tripAccepted trip.id driverId trip.clientId :: k.log.filterMap Cmd.event? := by
  have hready : Taken k₀ trip driverId { k with todo := [] } := ⟨h.row, h.offers, h.rounds⟩
  have hhandled : (handleEvent env (.driverAssigned trip.id driverId)).wlp server (fun _ _ => True)
      (fun _ k' => k'.todo = [] ++ [.tripAccepted trip.id driverId trip.clientId] ∧
        Taken k₀ trip driverId k') { k with todo := [] } :=
    wlp_handleEvent_single rfl (wlp_handleDriverAssigned_taken env.geo hready)
  obtain ⟨htodo', htaken⟩ := Async.play_of_wlp hhandled
  obtain ⟨events, hadded, hlog⟩ := Config.play_events
    (handleEvent env (.driverAssigned trip.id driverId)) { k with todo := [] }
  obtain rfl := List.append_cancel_left (hadded.symm.trans htodo')
  exact ⟨_, .next htodo, htodo', htaken, hlog⟩

/-- The request completes: the driver is announced, and nothing else waits. -/
theorem exists_completes_taken (env : Env) (pricing : PricingEnv)
    (htrip : s.trips.find? trip.id = some trip) (hpending : trip.status = .pending)
    (hdriver : s.driverOf userId = some driverId) (hnotified : s.offers.Notified trip.id driverId)
    (hlock : s.offers.lock driverId = some trip.id) : ∃ k,
      Config.Completes env pricing (.updateStatus trip.id userId .driver { status := .accepted })
        ⟨s, [], []⟩ k ∧ Taken ⟨s, [], []⟩ trip driverId k ∧
      k.log.filterMap Cmd.event? =
        [.tripAccepted trip.id driverId trip.clientId, .driverAssigned trip.id driverId] := by
  obtain ⟨k₁, hplayed, htodo₁, htaken₁, hlog₁⟩ : ∃ k₁,
      ((Operation.updateStatus trip.id userId .driver { status := .accepted }).program env pricing |>.play
        server ⟨s, [], []⟩).2 = k₁ ∧ k₁.todo = [.driverAssigned trip.id driverId] ∧
      Taken ⟨s, [], []⟩ trip driverId k₁ ∧
      k₁.log.filterMap Cmd.event? = [.driverAssigned trip.id driverId] := by
    obtain ⟨htodo, htaken⟩ := Async.play_of_wlp (Q := fun _ k' =>
      k'.todo = [] ++ [.driverAssigned trip.id driverId] ∧ Taken ⟨s, [], []⟩ trip driverId k')
      (Async.wlp_as (Async.wlp_mono
        (wlp_acceptTrip (k := ⟨s, [], []⟩) htrip hpending hdriver hnotified hlock) fun _ _ h => h.2))
    obtain ⟨events, hadded, hlog⟩ := Config.play_events
      ((Operation.updateStatus trip.id userId .driver { status := .accepted }).program env pricing)
      ⟨s, [], []⟩
    obtain rfl := List.append_cancel_left (hadded.symm.trans htodo)
    exact ⟨_, rfl, htodo, htaken, hlog⟩
  obtain ⟨k₂, hhandles, htodo₂, htaken₂, hlog₂⟩ := exists_handles_driverAssigned env htaken₁ htodo₁
  -- `TripAccepted` has no handler
  refine ⟨{ k₂ with todo := [] }, ⟨?_, rfl⟩, ⟨htaken₂.row, htaken₂.offers, htaken₂.rounds⟩, ?_⟩
  · rw [hplayed]
    exact .head hhandles (.single (.next htodo₂))
  · rw [← hlog₁]
    exact hlog₂

end Accept

/-! ### The request -/

section Request

variable {s s' : Store} {k k' : Config} {tripId driverId userId : ℕ}

theorem driverOf_of_rearmed? (h : rearmed? s userId = some (tripId, driverId)) :
    s.driverOf userId = some driverId := by
  obtain ⟨driver, hdriver, h⟩ := Option.bind_eq_some_iff.mp h
  obtain ⟨⟨attempt, trip, vehicleType⟩, -, h⟩ := Option.bind_eq_some_iff.mp h
  dsimp only at h
  split_ifs at h
  obtain ⟨-, rfl⟩ := Prod.mk.inj (Option.some.inj h)
  rw [Store.driverOf, hdriver, Option.map_some]

/-- What the store says once the attempt is open again. -/
structure Rearmed (s : Store) (tripId driverId userId : ℕ) (s' : Store) : Prop where
  driver : s'.driverOf userId = some driverId
  trip : ∃ trip, s'.trips.find? tripId = some trip ∧ trip.status = .pending
  offers : s'.offers = s.offers.rearm tripId driverId

/-- A request is answered for the trip whose attempt is open again. -/
theorem rearmed_of_request {request : PendingRequest}
    (hrequest : (getPendingRequestForDriver userId).play server ⟨s, [], []⟩ = (.ok (some request), k)) :
    ∃ driverId, s.driverOf userId = some driverId ∧ Rearmed s request.tripId driverId userId k.store := by
  have hspec := Async.play_of_wlp (wlp_getPendingRequestForDriver_request (k := ⟨s, [], []⟩) userId)
  rw [hrequest] at hspec
  rcases hspec with ⟨-, -, hnone⟩ | ⟨tripId, driverId, k₀, hrearmed, -, -, hstays, hoffers, hsame⟩
  · cases hnone
  · obtain rfl : request.tripId = tripId := hsame request rfl
    have hdriver : s.driverOf userId = some driverId := driverOf_of_rearmed? hrearmed
    obtain ⟨trip, htrip, hpending⟩ := Option.map_eq_some_iff.mp (rearmed?_spec hrearmed).1
    refine ⟨driverId, hdriver, ?_, ⟨trip, ?_, hpending⟩, hoffers⟩
    · rw [Store.driverOf, hstays.drivers]
      exact hdriver
    · rw [hstays.trips]
      exact htrip

namespace Rearmed

variable (h : Rearmed s tripId driverId userId s')

include h

theorem notified : s'.offers.Notified tripId driverId := by
  rw [h.offers]
  exact if_pos ⟨rfl, rfl⟩

theorem lock : s'.offers.lock driverId = some tripId := by
  rw [h.offers]
  exact if_pos rfl

/-- The other drivers keep their offers. -/
theorem notified_iff {d : ℕ} (hd : d ≠ driverId) :
    s'.offers.Notified tripId d ↔ s.attemptStatus tripId d = some .driverNotified := by
  have hsame : s'.offers.status tripId d = s.attemptStatus tripId d := by
    rw [h.offers]
    exact if_neg fun heq => hd heq.2
  rw [Offers.Notified, hsame]

theorem jobs : s'.jobs = s.jobs := congrArg Offers.jobs h.offers

theorem jobKey : s'.jobKey = s.jobKey := congrArg Offers.jobKey h.offers

end Rearmed

/-- The other timeout jobs of the trip are cancelled if and only if Redis names them. -/
theorem acceptedBy_iff {trip : Trip} (hkeyed : s.offers.WellKeyed)
    (hrearmed : Rearmed s trip.id driverId userId s') (htaken : Taken ⟨s', [], []⟩ trip driverId k)
    (hevents : k.log.filterMap Cmd.event? =
      [.tripAccepted trip.id driverId trip.clientId, .driverAssigned trip.id driverId]) :
    AcceptedBy s trip.id driverId k ↔ ∀ job ∈ s.jobs, job.tripId = trip.id → job.driverId ≠ driverId →
      s.attemptStatus trip.id job.driverId = some .driverNotified →
        s.jobKey trip.id job.driverId = some job.id := by
  obtain ⟨row, hrow, hstatus, hdriver, -⟩ := htaken.row
  have hjobs : ∀ job, job ∈ k.store.jobs ↔ job ∈ s.jobs ∧ ∀ d, (d = driverId ∨
      s'.offers.Notified trip.id d) → s.jobKey trip.id d ≠ some job.id := by
    intro job
    have hoffers := htaken.offers.jobs job
    rw [← hrearmed.jobs, ← hrearmed.jobKey]
    exact hoffers
  constructor
  · intro haccepted job hjob htrip hother hnotified
    -- the job is gone, so it was named; what is named for a driver is his job
    have hgone : job ∉ k.store.jobs := fun hmem =>
      haccepted.cancelled job.driverId hother hnotified job hmem ⟨htrip, rfl⟩
    have hsome : ∃ d, s.jobKey trip.id d = some job.id := by
      by_contra hnone
      exact hgone ((hjobs job).mpr ⟨hjob, fun d _ hname => hnone ⟨d, hname⟩⟩)
    obtain ⟨d, hname⟩ := hsome
    obtain ⟨-, rfl⟩ := hkeyed.owner trip.id d job.id hname job hjob rfl
    exact hname
  · intro hnamed
    refine ⟨⟨row, hrow, hstatus, hdriver⟩, ?_, fun d hd hn => ?_, fun d hd hn => ?_, ?_, htaken.rounds,
      ⟨trip.clientId, hevents⟩⟩
    · refine (htaken.offers.answered driverId _ (Or.inl rfl) hrearmed.notified rfl).trans ?_
      rw [if_pos rfl]
    · have hnotified := (hrearmed.notified_iff hd).mpr hn
      refine (htaken.offers.answered d _ (Or.inr hnotified) hnotified rfl).trans ?_
      rw [if_neg hd]
    · exact htaken.offers.unlocked d (Or.inr ((hrearmed.notified_iff hd).mpr hn))
    · rintro d hd hn job hmem ⟨htrip, rfl⟩
      obtain ⟨hjob, hunnamed⟩ := (hjobs job).mp hmem
      exact hunnamed job.driverId (Or.inr ((hrearmed.notified_iff hd).mpr hn))
        (hnamed job hjob htrip hd hn)

end Request

/-- A driver who is answered a request can accept it at once: the trip is his, and every other driver it was
offered to has lost it, if and only if Redis still names the timeout jobs of those drivers. -/
theorem pending_request_accepted_iff (env : Env) (pricing : PricingEnv) {s : Store} (hs : s.Fresh)
    {k k₁ : Config} {userId : ℕ} {request : PendingRequest}
    (hrun : Config.Run env pricing (fun _ _ => True) (fun _ _ => True) ⟨s, [], []⟩ k)
    (hrequest : (getPendingRequestForDriver userId).play server ⟨k.store, [], []⟩ =
      (.ok (some request), k₁)) :
    (∃ driverId k₂, k.store.driverOf userId = some driverId ∧
      (∃ trip, ((acceptTrip request.tripId userId).play server ⟨k₁.store, [], []⟩).1 = .ok trip) ∧
      Config.Completes env pricing (.updateStatus request.tripId userId .driver { status := .accepted })
        ⟨k₁.store, [], []⟩ k₂ ∧ AcceptedBy k.store request.tripId driverId k₂) ↔
    ∀ job ∈ k.store.jobs, job.tripId = request.tripId → k.store.driverOf userId ≠ some job.driverId →
      k.store.attemptStatus request.tripId job.driverId = some .driverNotified →
        k.store.jobKey request.tripId job.driverId = some job.id := by
  have hkeyed : k.store.offers.WellKeyed :=
    hrun.of_offers (P := Offers.WellKeyed) Offers.Move.wellKeyed Offers.Elapsed.wellKeyed
      Offers.WellKeyed.rearm hs.wellKeyed
  obtain ⟨driverId, hdriver, hrearmed⟩ := rearmed_of_request hrequest
  obtain ⟨trip, htrip, hpending⟩ := hrearmed.trip
  have hid : trip.id = request.tripId := Table.key_of_find? htrip
  rw [← hid] at htrip hrearmed ⊢
  obtain ⟨k₂, hcompletes, htaken, hevents⟩ := exists_completes_taken env pricing htrip hpending
    hrearmed.driver hrearmed.notified hrearmed.lock
  have hiff := acceptedBy_iff hkeyed hrearmed htaken hevents
  have hsucceeds := (Async.play_of_wlp (wlp_acceptTrip (k := ⟨k₁.store, [], []⟩) htrip hpending
    hrearmed.driver hrearmed.notified hrearmed.lock)).1
  rw [hdriver]
  constructor
  · rintro ⟨d, k', hd, -, hcompletes', haccepted⟩ job hjob htrip' hother
    obtain rfl := Option.some.inj hd
    rw [hcompletes'.unique hcompletes] at haccepted
    exact hiff.mp haccepted job hjob htrip' fun h => hother (by rw [h])
  · intro hnamed
    exact ⟨driverId, k₂, rfl, hsucceeds, hcompletes, hiff.mpr fun job hjob htrip' hother =>
      hnamed job hjob htrip' fun h => hother (Option.some.inj h).symm⟩

/-! ### In the town -/

/-- The trip of the request that the app of a user is answered. -/
def Config.requested? (k : Config) (userId : ℕ) : Option ℕ :=
  match ((getPendingRequestForDriver userId).play server ⟨k.store, [], []⟩).1 with
  | .ok (some request) => some request.tripId
  | _ => none

theorem Config.exists_request {k : Config} {userId tripId : ℕ} (h : k.requested? userId = some tripId) :
    ∃ request : PendingRequest, request.tripId = tripId ∧
      (getPendingRequestForDriver userId).play server ⟨k.store, [], []⟩ = (.ok (some request),
        ((getPendingRequestForDriver userId).play server ⟨k.store, [], []⟩).2) := by
  unfold Config.requested? at h
  split at h
  · next request hrequest => exact ⟨request, Option.some.inj h, by rw [← hrequest]⟩
  · cases h

/-- Drivers 1 and 2 are offered the trip; driver 1 opens his app and accepts. -/
theorem pending_request_accepted_iff_town : ∃ k k₁ k₂ request, Config.Run .town .town
      (fun _ _ => True) (fun _ _ => True) ⟨.town, [], []⟩ k ∧
    (getPendingRequestForDriver 11).play server ⟨k.store, [], []⟩ = (.ok (some request), k₁) ∧
    Config.Completes .town .town (.updateStatus request.tripId 11 .driver { status := .accepted })
      ⟨k₁.store, [], []⟩ k₂ ∧ AcceptedBy k.store request.tripId 1 k₂ := by
  obtain ⟨k, hrun, -, hrequested, hdriver, hnamed⟩ := Config.exists_run_of_execute? .town .town
    (fun _ _ => True) (fun _ _ => True) .town [.order 1 2]
    (fun k => k.requested? 11 = some 1 ∧ k.store.driverOf 11 = some 1 ∧
      ∀ job ∈ k.store.jobs, k.store.jobKey 1 job.driverId = some job.id) (by decide +kernel)
  obtain ⟨request, hid, hrequest⟩ := Config.exists_request hrequested
  obtain ⟨driverId, k₂, hdriver', -, hcompletes, haccepted⟩ :=
    (pending_request_accepted_iff .town .town Store.fresh_town hrun hrequest).mpr fun job hjob _ _ _ => by
      rw [hid]
      exact hnamed job hjob
  obtain rfl := Option.some.inj (hdriver.symm.trans hdriver')
  exact ⟨k, _, k₂, request, hrun, hrequest, hcompletes, haccepted⟩

/-- The timeout job of driver 2 runs late: its name has expired, and the accept of driver 1 leaves it in the
queue. -/
theorem pending_request_leaves_job : ¬ ∀ k k₁ userId request, Config.Run .town .town
      (fun _ _ => True) (fun _ _ => True) ⟨.town, [], []⟩ k →
    (getPendingRequestForDriver userId).play server ⟨k.store, [], []⟩ = (.ok (some request), k₁) →
    ∃ driverId k₂, k.store.driverOf userId = some driverId ∧
      (∃ trip, ((acceptTrip request.tripId userId).play server ⟨k₁.store, [], []⟩).1 = .ok trip) ∧
      Config.Completes .town .town (.updateStatus request.tripId userId .driver { status := .accepted })
        ⟨k₁.store, [], []⟩ k₂ ∧ AcceptedBy k.store request.tripId driverId k₂ := by
  intro hall
  let accept : Operation := .updateStatus 1 11 .driver { status := .accepted }
  obtain ⟨k, hrun, -, hrequested, hdriver, hnotified, hqueued⟩ := Config.exists_run_of_execute? .town
    .town (fun _ _ => True) (fun _ _ => True) .town [.order 1 2, .wait 200000]
    (fun k => k.requested? 11 = some 1 ∧ k.store.driverOf 11 = some 1 ∧
      k.store.attemptStatus 1 2 = some .driverNotified ∧
      (Config.settle? .town (fun _ _ => True) 100 ((accept.program .town .town).play server
        ⟨((getPendingRequestForDriver 11).play server ⟨k.store, [], []⟩).2.store, [], []⟩).2).any
          (fun k' => k'.store.jobs.any fun job => decide (job.tripId = 1 ∧ job.driverId = 2)) = true)
    (by decide +kernel)
  obtain ⟨request, hid, hrequest⟩ := Config.exists_request hrequested
  obtain ⟨driverId, k₂, hdriver', -, hcompletes, haccepted⟩ := hall k _ 11 request hrun hrequest
  obtain rfl := Option.some.inj (hdriver.symm.trans hdriver')
  rw [hid] at hcompletes haccepted
  cases hsettled : Config.settle? .town (fun _ _ => True) 100 ((accept.program .town .town).play server
      ⟨((getPendingRequestForDriver 11).play server ⟨k.store, [], []⟩).2.store, [], []⟩).2 with
  | none =>
    rw [hsettled] at hqueued
    cases hqueued
  | some k' =>
    rw [hsettled, Option.any_some, List.any_eq_true] at hqueued
    obtain ⟨job, hjob, hof⟩ := hqueued
    have hsame : k₂ = k' := hcompletes.unique (Config.completes_of_settle? hsettled)
    rw [← hsame] at hjob
    exact haccepted.cancelled 2 (by decide) hnotified job hjob (of_decide_eq_true hof)

end Telima
