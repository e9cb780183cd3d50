import Telima.Dispatch.OfferState
import Telima.Operations.Server

/-!
# What the dispatch does to the offers

One specification for each function of `DispatchService`, run to its end: what becomes of the offers,
which events are emitted, and that trips, drivers and the time stay as they are.
-/

namespace Telima

open DispatchService

/-- The command writes no trip, no driver and no vehicle type, and takes no time. -/
def Cmd.keepsTables : Cmd → Bool
  | .tick _ => false
  | c => c.keepsTrips && c.keepsDrivers

/-- The tables are the same, and `events` were emitted. -/
structure Config.Stays (k k' : Config) (events : List DomainEvent) : Prop where
  trips : k'.store.trips = k.store.trips
  drivers : k'.store.drivers = k.store.drivers
  vehicleTypes : k'.store.vehicleTypes = k.store.vehicleTypes
  now : k'.store.now = k.store.now
  todo : k'.todo = k.todo ++ events

namespace Config

variable {k k' k'' : Config} {events events' : List DomainEvent} {c : Cmd}

theorem Stays.refl (k : Config) : k.Stays k [] := ⟨rfl, rfl, rfl, rfl, (List.append_nil _).symm⟩

theorem Stays.trans (h : k.Stays k' events) (h' : k'.Stays k'' events') :
    k.Stays k'' (events ++ events') where
  trips := h'.trips.trans h.trips
  drivers := h'.drivers.trans h.drivers
  vehicleTypes := h'.vehicleTypes.trans h.vehicleTypes
  now := h'.now.trans h.now
  todo := by rw [h'.todo, h.todo, List.append_assoc]

theorem stays_perform (hc : c.keepsTables = true) : k.Stays (k.perform c) c.event?.toList := by
  have htables : c.keepsTrips = true ∧ c.keepsDrivers = true := by
    cases c <;> simp_all [Cmd.keepsTables, Cmd.keepsTrips, Cmd.keepsDrivers]
  have hnow : (c.exec k.store).now = k.store.now := by
    cases c <;> first | rfl | simp [Cmd.keepsTables] at hc
  exact ⟨Cmd.exec_trips htables.1, Cmd.exec_drivers htables.2, Cmd.exec_vehicleTypes, hnow, rfl⟩

/-- Nothing that concerns offers and trips has changed. -/
structure Same (k k' : Config) : Prop extends Stays k k' [] where
  offers : k'.store.offers = k.store.offers

theorem Same.refl (k : Config) : k.Same k := ⟨.refl k, rfl⟩

theorem Same.trans (h : k.Same k') (h' : k'.Same k'') : k.Same k'' :=
  ⟨h.toStays.trans h'.toStays, h'.offers.trans h.offers⟩

theorem Same.stays (h : k.Same k') (h' : k'.Stays k'' events) : k.Stays k'' events :=
  h.toStays.trans h'

theorem Stays.same (h : k.Stays k' events) (h' : k'.Same k'') : k.Stays k'' events := by
  have htrans : k.Stays k'' (events ++ []) := h.trans h'.toStays
  rwa [List.append_nil] at htrans

theorem same_perform (hc : c.keepsTables = true) (hoffers : c.keepsOffers = true)
    (hevent : c.event? = none) : k.Same (k.perform c) where
  toStays := by
    have hstays : k.Stays (k.perform c) c.event?.toList := stays_perform hc
    rwa [hevent] at hstays
  offers := Cmd.offers_exec hoffers

end Config

namespace DispatchService

variable {cond : Config → Cmd → Prop} {k k' k'' : Config} {tripId driverId : ℕ}

/-- The program returns; the tables stay, nothing is emitted, and the offers change by `R`. -/
abbrev Quietly {α : Type} (k : Config) (R : Offers → Offers → Prop) (r : Except Error α)
    (k' : Config) : Prop :=
  ∃ a, r = .ok a ∧ k.Stays k' [] ∧ R k.store.offers k'.store.offers

/-! ### Withdrawing an offer -/

theorem wlp_cancelDispatchTimeout (jobId : ℕ) : (cancelDispatchTimeout jobId).wlp server cond
    (Quietly k fun o o' => o' = o.removeJob jobId) k := by
  rw [cancelDispatchTimeout, Async.bind_eq, Async.wlp_query_bind]
  intro _
  have hget : k.Stays (k.perform (.getJob jobId)) [] := Config.stays_perform rfl
  rw [server_store, server_perform]
  cases hjob : k.store.jobs.find? fun job => decide (job.id = jobId) with
  | none =>
    refine ⟨(), rfl, hget, ?_⟩
    -- there is nothing to remove
    have hsame : k.store.jobs.filter (fun job => decide (job.id ≠ jobId)) = k.store.jobs := by
      rw [List.filter_eq_self]
      intro job hmem
      have hne := List.find?_eq_none.mp hjob job hmem
      simpa using hne
    show k.store.offers = { k.store.offers with
      jobs := k.store.jobs.filter fun job => decide (job.id ≠ jobId) }
    rw [hsame]
    rfl
  | some job =>
    have hid : job.id = jobId := by simpa using List.find?_some hjob
    subst hid
    intro _
    exact ⟨(), rfl, hget.trans (Config.stays_perform rfl), rfl⟩

theorem wlp_cancelTimeoutJob : (cancelTimeoutJob tripId driverId).wlp server cond
    (Quietly k fun o o' => o' = o.cancelJob tripId driverId) k := by
  rw [cancelTimeoutJob, Async.bind_eq, Async.wlp_query_bind]
  intro _
  have hget : k.Stays (k.perform (.redisGet (.dispatchTimeoutJob tripId driverId))) [] :=
    Config.stays_perform rfl
  rw [server_store, server_perform]
  have hname : k.store.offers.jobKey tripId driverId =
      (k.store.get (.dispatchTimeoutJob tripId driverId)).bind RedisValue.job? := rfl
  split
  · next jobId hvalue =>
    rw [hvalue] at hname
    refine Async.wlp_bind_of_ok (wlp_cancelDispatchTimeout jobId) fun _ k' hk' => ?_
    intro _
    refine ⟨(), rfl, (hget.trans hk'.1).trans (Config.stays_perform rfl), ?_⟩
    rw [server_perform, Config.store_perform, Cmd.offers_redisDel_jobKey, hk'.2]
    exact (Offers.cancelJob_of_some hname).symm
  · next hvalue =>
    have hnone : k.store.offers.jobKey tripId driverId = none := by
      rw [hname]
      cases hget : k.store.get (.dispatchTimeoutJob tripId driverId) with
      | none => rfl
      | some value =>
        cases value with
        | job jobId => exact absurd hget (hvalue jobId)
        | _ => rfl
    exact ⟨(), rfl, hget, (Offers.cancelJob_of_none hnone).symm⟩

/-- The offer of one driver is withdrawn; its attempt is not answered. -/
theorem wlp_releaseLock : (releaseLock tripId driverId).wlp server cond
    (Quietly k (Offers.Withdrawn tripId (· = driverId) fun _ => none)) k := by
  rw [releaseLock, Async.bind_eq, Async.wlp_perform_bind]
  intro _
  have hdel : k.Stays (k.perform (.redisDel (.dispatchLock driverId))) [] :=
    Config.stays_perform rfl
  refine Async.wlp_mono wlp_cancelTimeoutJob ?_
  rintro r k' ⟨a, rfl, hstays, hoffers⟩
  refine ⟨a, rfl, hdel.trans hstays, ?_⟩
  rw [hoffers, server_perform, Config.store_perform, Cmd.offers_redisDel_lock]
  exact Offers.withdrawn_unlock

/-- The offer of another driver of an accepted trip is withdrawn. -/
theorem wlp_releaseOther : (releaseOther tripId driverId).wlp server cond
    (Quietly k (Offers.Withdrawn tripId (· = driverId) fun _ => some .driverDeclined)) k := by
  have hrelease : (releaseOther tripId driverId) = (releaseLock tripId driverId).bind fun _ =>
      respondAttempts tripId (some driverId) .driverDeclined := rfl
  rw [hrelease]
  refine Async.wlp_bind_of_ok wlp_releaseLock fun _ k' hk' => ?_
  intro _
  refine ⟨(), rfl, hk'.1.trans (Config.stays_perform rfl), ?_⟩
  rw [server_perform, Config.store_perform, Cmd.offers_respondAttempts]
  exact hk'.2.respond fun d _ => by simp

/-- A decline withdraws the driver's offer. -/
theorem wlp_handleDriverDecline : (handleDriverDecline tripId driverId).wlp server cond
    (Quietly k (Offers.Withdrawn tripId (· = driverId) fun _ => some .driverDeclined)) k := by
  intro _ _
  have hrespond : k.Stays (k.perform (.respondAttempts tripId (some driverId) .driverDeclined)) [] :=
    Config.stays_perform rfl
  refine Async.wlp_mono wlp_cancelTimeoutJob ?_
  rintro r k' ⟨a, rfl, hstays, hoffers⟩
  refine ⟨a, rfl, (hrespond.trans (Config.stays_perform rfl)).trans hstays, ?_⟩
  have hafter : k'.store.offers = ((k.store.offers.setLock driverId none).cancelJob tripId
      driverId).respond tripId (some driverId) .driverDeclined := by
    rw [hoffers, server_perform, server_perform, Config.store_perform, Cmd.offers_redisDel_lock,
      Config.store_perform, Cmd.offers_respondAttempts]
    unfold Offers.cancelJob
    dsimp only [Offers.setLock, Offers.respond]
    split <;> rfl
  rw [hafter]
  exact Offers.withdrawn_unlock.respond fun d _ => by simp

/-- A loop that withdraws the offers of some drivers. -/
theorem wlp_forEach_withdraw {release : ℕ → Prog Unit} {answer : ℕ → Option DispatchStatus}
    (hrelease : ∀ (d : ℕ) (k : Config), (release d).wlp server cond
      (Quietly k (Offers.Withdrawn tripId (· = d) answer)) k) (ds : List ℕ) :
    (Async.forEach release ds).wlp server cond
      (Quietly k (Offers.Withdrawn tripId (· ∈ ds) answer)) k := by
  -- the drivers of the list are withdrawn one by one
  have hstep : ∀ d rest k', (∃ before, ds = before ++ d :: rest ∧ k.Stays k' [] ∧
      Offers.Withdrawn tripId (· ∈ before) answer k.store.offers k'.store.offers) →
      (release d).wlp server cond (fun r k' => r = .ok () ∧ ∃ before, ds = before ++ rest ∧
        k.Stays k' [] ∧
          Offers.Withdrawn tripId (· ∈ before) answer k.store.offers k'.store.offers) k' := by
    rintro d rest k' ⟨before, hds, hstays, hwithdrawn⟩
    refine Async.wlp_mono (hrelease d k') ?_
    rintro r k'' ⟨a, rfl, hstays', hwithdrawn'⟩
    refine ⟨rfl, before ++ [d], by simp [hds], hstays.trans hstays', ?_⟩
    exact (hwithdrawn.trans hwithdrawn').congr fun x => by simp
  have hinit : ∃ before, ds = before ++ ds ∧ k.Stays k [] ∧
      Offers.Withdrawn tripId (· ∈ before) answer k.store.offers k.store.offers :=
    ⟨[], rfl, .refl k, (Offers.Withdrawn.refl _).congr fun x => by simp⟩
  refine Async.wlp_mono (Async.wlp_forEach (A := fun rest k' => ∃ before, ds = before ++ rest ∧
    k.Stays k' [] ∧ Offers.Withdrawn tripId (· ∈ before) answer k.store.offers k'.store.offers)
    hstep hinit) ?_
  rintro r k' ⟨rfl, before, hds, hstays, hwithdrawn⟩
  rw [List.append_nil] at hds
  subst hds
  exact ⟨(), rfl, hstays, hwithdrawn⟩

/-- Releasing a trip withdraws all its offers. -/
theorem wlp_releaseLocksForTrip : (releaseLocksForTrip tripId).wlp server cond
    (Quietly k fun o => Offers.Withdrawn tripId (o.Notified tripId)
      (fun _ => some .timedOut) o) k := by
  rw [releaseLocksForTrip, Async.bind_eq, findNotifiedDrivers, Async.wlp_query_bind]
  intro _
  have hfind : k.Stays (k.perform (.findAttempts tripId)) [] := Config.stays_perform rfl
  refine Async.wlp_bind_of_ok (wlp_forEach_withdraw (fun d k => wlp_releaseLock) _)
    fun _ k' hk' => ?_
  intro _
  refine ⟨(), rfl, (hfind.trans hk'.1).trans (Config.stays_perform rfl), ?_⟩
  rw [server_perform, Config.store_perform, Cmd.offers_respondAttempts]
  refine Offers.Withdrawn.respond ?_ fun d hd => by simp [hd]
  refine hk'.2.congr fun d => ?_
  rw [server_store, mem_notifiedDrivers]
  simp

/-- An accept changes something only if the driver's lock is held for the trip. -/
theorem wlp_handleDriverAccept : (handleDriverAccept tripId driverId).wlp server cond
    (fun r k' => ∃ a, r = .ok a ∧
      ((k.store.offers.lock driverId = some tripId ∧
          k.Stays k' [.driverAssigned tripId driverId] ∧
          Offers.Accepted tripId driverId k.store.offers k'.store.offers ∧
          k'.store.get (.dispatchRounds tripId) = none) ∨
        (k.store.offers.lock driverId ≠ some tripId ∧ k.Stays k' [] ∧
          k'.store.offers = k.store.offers))) k := by
  rw [handleDriverAccept, Async.bind_eq, Async.wlp_query_bind]
  intro _
  have hget : k.Stays (k.perform (.redisGet (.dispatchLock driverId))) [] :=
    Config.stays_perform rfl
  rw [server_store, server_perform]
  have hlock : k.store.offers.lock driverId =
      (k.store.get (.dispatchLock driverId)).bind RedisValue.trip? := rfl
  split
  · next lockValue hvalue =>
    rw [hvalue] at hlock
    split_ifs with hne
    · refine ⟨(), rfl, Or.inr ⟨?_, hget, rfl⟩⟩
      rw [hlock]
      exact fun h => hne (Option.some.inj h)
    · rw [ne_eq, not_not] at hne
      subst hne
      rw [Async.bind_eq, respondAttempts, Async.wlp_perform_bind]
      intro _
      refine Async.wlp_bind_of_ok wlp_cancelTimeoutJob fun _ k₂ hk₂ => ?_
      rw [Async.bind_eq, findNotifiedDrivers, Async.wlp_query_bind]
      intro _
      refine Async.wlp_bind_of_ok (wlp_forEach_withdraw (fun d k => wlp_releaseOther) _)
        fun _ k₃ hk₃ => ?_
      intro _ _ _
      refine ⟨(), rfl, Or.inl ⟨hlock, ?_, ?_, ?_⟩⟩
      · have hanswer := (hget.trans (Config.stays_perform (c := .respondAttempts lockValue
          (some driverId) .driverAccepted) rfl)).trans hk₂.1
        have hothers := (hanswer.trans (Config.stays_perform (c := .findAttempts lockValue)
          rfl)).trans hk₃.1
        have hdel := hothers.trans ((Config.stays_perform (c := .redisDel (.dispatchLock driverId))
          rfl).trans (Config.stays_perform (c := .redisDel (.dispatchRounds lockValue)) rfl))
        exact hdel.trans (Config.stays_perform (c := .emit (.driverAssigned lockValue driverId)) rfl)
      · have hother := hk₃.2
        rw [server_perform, Config.store_perform, server_store] at hother
        show Offers.Accepted lockValue driverId k.store.offers
          ((Cmd.redisDel (.dispatchRounds lockValue)).exec
            ((Cmd.redisDel (.dispatchLock driverId)).exec k₃.store)).offers
        rw [Cmd.offers_redisDel_rounds, Cmd.offers_redisDel_lock]
        have hk₂' : k₂.store.offers = (k.store.offers.respond lockValue (some driverId)
            .driverAccepted).cancelJob lockValue driverId := by
          rw [hk₂.2, server_perform, Config.store_perform, Cmd.offers_respondAttempts]
          rfl
        have hother' : Offers.Withdrawn lockValue _ (fun _ => some .driverDeclined)
            ((k.store.offers.respond lockValue (some driverId) .driverAccepted).cancelJob lockValue
              driverId) k₃.store.offers := hk₂' ▸ hother
        refine hother'.accepted fun d => ?_
        rw [mem_notifiedDrivers, hk₂', Offers.Notified, Offers.status_cancelJob, Offers.Notified]
        by_cases hd : d = driverId
        · simp [hd]
        · simp [hd, Offers.respond]
      · exact Store.get_redisDel.trans (if_pos rfl)
  · next hvalue =>
    refine ⟨(), rfl, Or.inr ⟨?_, hget, rfl⟩⟩
    rw [hlock]
    cases hget : k.store.get (.dispatchLock driverId) with
    | none => exact fun h => by cases h
    | some value =>
      cases value with
      | trip lockValue => exact absurd hget (hvalue lockValue)
      | _ => exact fun h => by cases h

/-! ### Searching -/

/-- One more driver is offered the trip: its lock was free, and is taken unless its time is zero. -/
def Notifies (cond : Config → Cmd → Prop) (tripId runAt : ℕ) (k k' : Config) : Prop :=
  ∃ k₀ driverId seconds serviceType price, k.Same k₀ ∧
    cond k₀ (.redisSetNx (.dispatchLock driverId) (.trip tripId) seconds) ∧
    k₀.Stays k' [.driverNotified tripId driverId serviceType price] ∧
    Offers.Offered tripId driverId runAt k₀.store.offers k'.store.offers ∧
    (0 < seconds → k'.store.offers.lock driverId = some tripId)

theorem Notifies.same {runAt : ℕ} (h : Notifies cond tripId runAt k k') (h' : k'.Same k'') :
    Notifies cond tripId runAt k k'' := by
  obtain ⟨k₀, driverId, seconds, serviceType, price, hsame, hc, hstays, hoffered⟩ := h
  refine ⟨k₀, driverId, seconds, serviceType, price, hsame, hc, hstays.same h', ?_⟩
  rw [h'.offers]
  exact hoffered

theorem Notifies.of_same {runAt : ℕ} (h : k.Same k') (h' : Notifies cond tripId runAt k' k'') :
    Notifies cond tripId runAt k k'' := by
  obtain ⟨k₀, driverId, seconds, serviceType, price, hsame, hrest⟩ := h'
  exact ⟨k₀, driverId, seconds, serviceType, price, h.trans hsame, hrest⟩

/-- Some drivers are offered the trip, one after another. -/
abbrev NotifiesAll (cond : Config → Cmd → Prop) (tripId runAt : ℕ) : Config → Config → Prop :=
  Relation.TransGen (Notifies cond tripId runAt)

theorem NotifiesAll.of_same {runAt : ℕ} (h : k.Same k') (h' : NotifiesAll cond tripId runAt k' k'') :
    NotifiesAll cond tripId runAt k k'' := by
  obtain ⟨k₁, hfirst, hrest⟩ := Relation.TransGen.head'_iff.mp h'
  exact Relation.TransGen.head'_iff.mpr ⟨k₁, hfirst.of_same h, hrest⟩

theorem NotifiesAll.same {runAt : ℕ} (h : NotifiesAll cond tripId runAt k k') (h' : k'.Same k'') :
    NotifiesAll cond tripId runAt k k'' := by
  obtain ⟨k₁, hfirst, hlast⟩ := Relation.TransGen.tail'_iff.mp h
  exact Relation.TransGen.tail'_iff.mpr ⟨k₁, hfirst, hlast.same h'⟩

section Search

variable {config : ServiceDispatchConfig} {pickup : Point} {serviceType : ServiceType}
variable {trip : Option (Trip × Option VehicleType)} {dropoff : Option Point}

theorem wlp_notifyCandidate {driver : NearbyDriver} :
    (notifyCandidate config tripId pickup serviceType trip dropoff driver).wlp server cond
      (fun r k' => (r = .ok false ∧ k.Same k') ∨
        (r = .ok true ∧ Notifies cond tripId (k.store.now + config.dispatchTimeoutMs) k k')) k := by
  rw [notifyCandidate, Async.bind_eq, Async.wlp_query_bind]
  intro hc
  rw [server_store, server_perform]
  by_cases hfree : k.store.get (.dispatchLock driver.driverId) = none
  · rw [if_pos (by rw [hfree]; rfl)]
    refine Async.wlp_perform_bind.mpr fun _ => ?_
    refine Async.wlp_emit_bind.mpr fun _ => ?_
    refine Async.wlp_bind_of_ok wlp_cancelTimeoutJob fun _ k₁ hk₁ => ?_
    refine Async.wlp_query_bind.mpr fun _ => ?_
    refine Async.wlp_perform_bind.mpr fun _ => ?_
    refine Async.wlp_emit_bind.mpr fun _ => ?_
    refine Or.inr ⟨rfl, k, driver.driverId, config.lockTtlSeconds, serviceType,
      ((trip.bind fun t => t.1.estimatedPrice).map Decimal2.toNumber).getD 0, .refl k, hc, ?_, ?_⟩
    · -- the lock and the attempt, then the job and its name
      have htaken := (Config.stays_perform (k := k) (c := .redisSetNx
        (.dispatchLock driver.driverId) (.trip tripId) config.lockTtlSeconds) rfl).trans
          (Config.stays_perform (c := .upsertAttempt tripId driver.driverId) rfl)
      have hcancelled := (htaken.trans (Config.stays_perform rfl)).trans hk₁.1
      have hqueued := hcancelled.trans (Config.stays_perform
        (c := .addJob tripId driver.driverId config.dispatchTimeoutMs) rfl)
      exact (hqueued.trans (Config.stays_perform (c := .redisSet _ _ _) rfl)).trans
        (Config.stays_perform (c := .emit _) rfl)
    · have hlock : k.store.offers.lock driver.driverId = none := by
        show (k.store.get (.dispatchLock driver.driverId)).bind RedisValue.trip? = none
        rw [hfree]
        rfl
      have hcancel : k₁.store.offers = ((k.store.offers.setLock driver.driverId
          (if 0 < config.lockTtlSeconds then some tripId else none)).notify tripId
            driver.driverId).cancelJob tripId driver.driverId := by
        rw [hk₁.2, ← Cmd.offers_redisSetNx_lock_free hfree, ← Cmd.offers_upsertAttempt]
        rfl
      have hnow : k₁.store.now = k.store.now := hk₁.1.now
      have hcount : k₁.store.jobCount = k.store.offers.jobCount := by
        show k₁.store.offers.jobCount = _
        rw [hcancel, Offers.jobCount_cancelJob]
        rfl
      have hoffers := @Offers.offered tripId driver.driverId k.store.offers
        (if 0 < config.lockTtlSeconds then some tripId else none)
        (k.store.now + config.dispatchTimeoutMs) hlock (by split_ifs <;> simp)
      rw [← hcancel, ← hnow, ← hcount] at hoffers
      have hseconds : 0 < (config.dispatchTimeoutMs + 999) / 1000 + 30 := by omega
      have hafter : ((Cmd.redisSet (.dispatchTimeoutJob tripId driver.driverId)
          (.job (k₁.store.jobCount + 1)) ((config.dispatchTimeoutMs + 999) / 1000 + 30)).exec
            ((Cmd.addJob tripId driver.driverId config.dispatchTimeoutMs).exec
              k₁.store)).offers = (k₁.store.offers.addJob tripId driver.driverId
                (k₁.store.now + config.dispatchTimeoutMs)).setJobKey tripId driver.driverId
                  (some (k₁.store.jobCount + 1)) := by
        rw [Cmd.offers_redisSet_jobKey hseconds, Cmd.offers_addJob]
      refine ⟨?_, fun hpos => ?_⟩
      · refine Eq.mpr (congrArg (Offers.Offered tripId driver.driverId _ k.store.offers) hafter) ?_
        rw [← hnow]
        exact hoffers
      · refine (congrFun (congrArg Offers.lock hafter) driver.driverId).trans ?_
        show k₁.store.offers.lock driver.driverId = some tripId
        rw [hcancel, Offers.lock_cancelJob, if_pos hpos]
        exact if_pos rfl
  · rw [if_neg (by simpa using hfree)]
    refine Or.inl ⟨rfl, Config.stays_perform rfl, ?_⟩
    rw [Config.store_perform, Cmd.offers_redisSetNx_lock_held hfree]

theorem wlp_notifyCandidates (drivers : List NearbyDriver) :
    (notifyCandidates config tripId pickup serviceType trip dropoff drivers).wlp server cond
      (fun r k' => ∃ n, r = .ok n ∧ ((n = 0 ∧ k.Same k') ∨
        (0 < n ∧ NotifiesAll cond tripId (k.store.now + config.dispatchTimeoutMs) k k'))) k := by
  induction drivers generalizing k with
  | nil => exact ⟨0, rfl, Or.inl ⟨rfl, .refl k⟩⟩
  | cons driver rest ih =>
    apply Async.wlp_bind
    refine Async.wlp_mono wlp_notifyCandidate ?_
    rintro r k₁ (⟨rfl, hsame⟩ | ⟨rfl, hnotifies⟩)
    · rw [Async.done_ok_bind]
      refine Async.wlp_bind_of_ok (ih (k := k₁)) fun n k₂ hk₂ => ⟨n + 0, rfl, ?_⟩
      rw [hsame.now] at hk₂
      refine hk₂.imp (fun h => ⟨h.1, hsame.trans h.2⟩) fun h => ⟨h.1, h.2.of_same hsame⟩
    · rw [Async.done_ok_bind]
      refine Async.wlp_bind_of_ok (ih (k := k₁)) fun n k₂ hk₂ =>
        ⟨n + 1, rfl, Or.inr ⟨by omega, ?_⟩⟩
      have hnow : k₁.store.now = k.store.now := by
        obtain ⟨k₀, _, _, _, _, hsame, _, hstays, _⟩ := hnotifies
        rw [hstays.now, hsame.now]
      rw [hnow] at hk₂
      rcases hk₂ with ⟨_, hsame⟩ | ⟨_, hall⟩
      · exact .single (hnotifies.same hsame)
      · exact hall.head hnotifies

end Search

/-- The failure of the dispatch was emitted. -/
def GivenUp (cond : Config → Cmd → Prop) (tripId : ℕ) (k k' : Config) : Prop :=
  ∃ reason k₀, k.Same k₀ ∧ cond k₀ (.emit (.dispatchFailed tripId reason)) ∧
    k.Stays k' [.dispatchFailed tripId reason] ∧ k'.store.offers = k.store.offers

theorem GivenUp.of_same (h : k.Same k') (h' : GivenUp cond tripId k' k'') :
    GivenUp cond tripId k k'' := by
  obtain ⟨reason, k₀, hsame, hc, hstays, hoffers⟩ := h'
  exact ⟨reason, k₀, h.trans hsame, hc, h.stays hstays, hoffers.trans h.offers⟩

theorem wlp_emitDispatchFailed {reason : String} : (emitDispatchFailed tripId reason).wlp server cond
    (fun r k' => r = .ok () ∧ GivenUp cond tripId k k') k := by
  rw [emitDispatchFailed, Async.bind_eq, Async.wlp_emit_bind]
  intro _
  have hdel : k.Same (k.perform (.redisDel (.dispatchRounds tripId))) :=
    ⟨Config.stays_perform rfl, Cmd.offers_redisDel_rounds⟩
  intro hc
  exact ⟨rfl, reason, _, hdel, hc, hdel.stays (Config.stays_perform (c := .emit _) rfl),
    hdel.offers⟩

/-- What a search for a driver leaves: offers, or the failure of the dispatch. -/
inductive Searched (env : DispatchEnv) (cond : Config → Cmd → Prop) (tripId : ℕ)
    (serviceType : ServiceType) (k : Config) : Except Error Unit → Config → Prop
  | notified {s : Store} {k' : Config} (hall : NotifiesAll cond tripId
      (k.store.now + (env.getDispatchConfig serviceType s).dispatchTimeoutMs) k k') :
      Searched env cond tripId serviceType k (.ok ()) k'
  | failed {k' : Config} (hfailed : GivenUp cond tripId k k') :
      Searched env cond tripId serviceType k (.ok ()) k'
  /-- The trip's vehicle type does not exist. -/
  | broken {trip : Trip} {k' : Config} (htrip : k.store.trips.find? tripId = some trip)
      (htype : k.store.vehicleTypes.find? trip.vehicleTypeId = none) (hsame : k.Same k') :
      Searched env cond tripId serviceType k (.error .typeError) k'

theorem Searched.of_same {env : DispatchEnv} {serviceType : ServiceType} {r : Except Error Unit}
    (h : k.Same k') (h' : Searched env cond tripId serviceType k' r k'') :
    Searched env cond tripId serviceType k r k'' := by
  cases h' with
  | notified hall => exact .notified (h.now ▸ hall.of_same h)
  | failed hfailed => exact .failed (hfailed.of_same h)
  | broken htrip htype hsame =>
    exact .broken (h.trips ▸ htrip) (h.vehicleTypes ▸ htype) (h.trans hsame)

/-- A search leaves the tables alone, and emits what it did. -/
theorem Searched.stays {env : DispatchEnv} {serviceType : ServiceType} {r : Except Error Unit}
    (h : Searched env cond tripId serviceType k r k') : ∃ events, k.Stays k' events ∧
      ∀ event ∈ events, (∃ d serviceType price,
        event = .driverNotified tripId d serviceType price) ∨
        ∃ reason, event = .dispatchFailed tripId reason := by
  cases h with
  | notified hall =>
    generalize k.store.now + _ = runAt at hall
    induction hall with
    | single h =>
      obtain ⟨k₀, d, seconds, serviceType, price, hsame, -, hstays, -⟩ := h
      refine ⟨_, hsame.stays hstays, fun event hmem => Or.inl ⟨d, serviceType, price, ?_⟩⟩
      exact List.mem_singleton.mp hmem
    | tail _ h ih =>
      obtain ⟨events, hstays, hevents⟩ := ih
      obtain ⟨k₀, d, seconds, serviceType, price, hsame, -, hstays', -⟩ := h
      refine ⟨_, (hstays.same hsame).trans hstays', fun event hmem => ?_⟩
      rcases List.mem_append.mp hmem with hmem | hmem
      · exact hevents event hmem
      · exact Or.inl ⟨d, serviceType, price, List.mem_singleton.mp hmem⟩
  | failed hfailed =>
    obtain ⟨reason, k₀, -, -, hstays, -⟩ := hfailed
    exact ⟨_, hstays, fun event hmem => Or.inr ⟨reason, List.mem_singleton.mp hmem⟩⟩
  | broken _ _ hsame => exact ⟨[], hsame.toStays, by simp⟩

theorem wlp_emitDispatchFailed_searched {env : DispatchEnv} {serviceType : ServiceType}
    {reason : String} : (emitDispatchFailed tripId reason).wlp server cond
      (Searched env cond tripId serviceType k) k := by
  refine Async.wlp_mono wlp_emitDispatchFailed ?_
  rintro r k' ⟨rfl, hfailed⟩
  exact .failed hfailed

theorem wlp_findDropoff : (findDropoff tripId).wlp server cond
    (fun r k' => ∃ dropoff, r = .ok dropoff ∧ k.Same k') k :=
  fun _ => ⟨_, rfl, Config.same_perform rfl rfl rfl⟩

theorem wlp_attemptDispatch (env : DispatchEnv) (pickup : Point) (serviceType : ServiceType)
    (vehicleTypeId : Option ℕ) :
    (attemptDispatch env tripId pickup serviceType vehicleTypeId).wlp server cond
      (Searched env cond tripId serviceType k) k := by
  rw [attemptDispatch, Async.bind_eq, Async.wlp_perform_bind]
  intro _
  rw [Async.bind_eq, Async.wlp_perform_bind]
  intro _
  have hcounted : k.Same (server.perform (.redisExpire (.dispatchRounds tripId) 3600)
      (server.perform (.redisIncr (.dispatchRounds tripId)) k)) := by
    refine ⟨(Config.stays_perform (c := .redisIncr _) rfl).trans
      (Config.stays_perform (c := .redisExpire _ _) rfl), ?_⟩
    rw [server_perform, Config.store_perform, Cmd.offers_redisExpire_rounds, server_perform,
      Config.store_perform, Cmd.offers_redisIncr_rounds]
  rw [Async.bind_eq, Async.wlp_query_bind]
  intro _
  rw [Async.bind_eq, Async.wlp_query_bind]
  intro _
  have hasked := (hcounted.trans (Config.same_perform (c := .external) rfl rfl rfl)).trans
    (Config.same_perform (c := .external) rfl rfl rfl)
  refine Async.wlp_mono (Q := Searched env cond tripId serviceType _) ?_
    fun r k' h => h.of_same hasked
  split_ifs
  · exact wlp_emitDispatchFailed_searched
  · rw [findTripForRequest, CommissionsService.findTripWithVehicleType, Async.bind_eq,
      Async.wlp_query_bind]
    intro _
    have hread : ∀ k : Config, k.Same (k.perform (.findTrip tripId)) :=
      fun k => Config.same_perform rfl rfl rfl
    rw [server_store, server_perform]
    split_ifs with hbroken
    · rw [Option.any_map, Option.any_eq_true] at hbroken
      obtain ⟨trip, htrip, htype⟩ := hbroken
      exact .broken htrip (by simpa using htype) (hread _)
    · refine Async.wlp_bind_of_ok wlp_findDropoff fun dropoff k₁ hk₁ => ?_
      refine Async.wlp_mono (Q := Searched env cond tripId serviceType _) ?_
        fun r k' h => h.of_same ((hread _).trans hk₁)
      refine Async.wlp_bind_of_ok (wlp_notifyCandidates _) fun n k₂ hk₂ => ?_
      rcases hk₂ with ⟨rfl, hsame⟩ | ⟨hpos, hall⟩
      · rw [if_pos rfl]
        exact Async.wlp_mono wlp_emitDispatchFailed_searched fun r k' h => h.of_same hsame
      · rw [if_neg (by omega)]
        exact .notified hall

/-- The trip is searched for again if it is pending and no driver is notified. -/
inductive Retried (env : DispatchEnv) (cond : Config → Cmd → Prop) (tripId : ℕ) (k : Config) :
    Except Error Unit → Config → Prop
  | settled {k' : Config}
      (hover : k.store.tripStatus tripId = some .pending →
        ∃ d, k.store.offers.Notified tripId d)
      (hsame : k.Same k') : Retried env cond tripId k (.ok ()) k'
  | again {serviceType : ServiceType} {r : Except Error Unit} {k' : Config}
      (hpending : k.store.tripStatus tripId = some .pending)
      (hnone : ∀ d, ¬ k.store.offers.Notified tripId d)
      (hsearched : Searched env cond tripId serviceType k r k') : Retried env cond tripId k r k'

theorem wlp_checkAndRetryDispatch (env : DispatchEnv) :
    (checkAndRetryDispatch env tripId).wlp server cond (Retried env cond tripId k) k := by
  rw [checkAndRetryDispatch, Async.bind_eq, Async.wlp_query_bind]
  intro _
  have hfind : k.Same (k.perform (.findTrip tripId)) := Config.same_perform rfl rfl rfl
  rw [server_store, server_perform]
  cases htrip : (k.store.trips.find? tripId).filter fun t => t.status = .pending with
  | none =>
    refine .settled (fun hpending => ?_) hfind
    obtain ⟨trip, hsome, hstatus⟩ := Option.map_eq_some_iff.mp hpending
    rw [hsome] at htrip
    simp [hstatus] at htrip
  | some trip =>
    obtain ⟨hsome, hstatus⟩ := Option.filter_eq_some_iff.mp htrip
    have hpending : k.store.tripStatus tripId = some .pending := by
      rw [Store.tripStatus, hsome, Option.map_some, of_decide_eq_true hstatus]
    dsimp only
    rw [Async.bind_eq, findNotifiedDrivers, Async.wlp_query_bind]
    intro _
    have hcount : k.Same ((k.perform (.findTrip tripId)).perform (.findAttempts tripId)) :=
      hfind.trans (Config.same_perform rfl rfl rfl)
    rw [server_store, server_perform]
    split_ifs with hempty
    · have hnone : ∀ d, ¬ k.store.offers.Notified tripId d :=
        findNotifiedDrivers_eq_nil_iff.mp hempty
      rw [Async.bind_eq, Async.wlp_query_bind]
      intro _
      rw [Async.bind_eq, Async.wlp_query_bind]
      intro _
      have hrounds := (hcount.trans
        (Config.same_perform (c := .redisGet (.dispatchRounds tripId)) rfl rfl rfl)).trans
          (Config.same_perform (c := .external) rfl rfl rfl)
      refine Async.wlp_mono (Q := Searched env cond tripId trip.serviceType k) ?_
        fun r k' h => .again hpending hnone h
      refine Async.wlp_mono (Q := Searched env cond tripId trip.serviceType _) ?_
        fun r k' h => h.of_same hrounds
      split_ifs
      · exact wlp_emitDispatchFailed_searched
      · rw [Async.bind_eq, Async.wlp_query_bind]
        intro _
        refine Async.wlp_mono (wlp_attemptDispatch env _ _ _) fun r k' h => h.of_same ?_
        exact Config.same_perform rfl rfl rfl
    · refine .settled (fun _ => ?_) hcount
      by_contra hnone
      exact hempty (findNotifiedDrivers_eq_nil_iff.mpr fun d hd => hnone ⟨d, hd⟩)

/-- A decline withdraws the offer, then searches again. -/
theorem wlp_handleDriverDeclineAndRetry (env : DispatchEnv) :
    (handleDriverDeclineAndRetry env tripId driverId).wlp server cond (fun r k' => ∃ k₁,
      k.Stays k₁ [] ∧
      Offers.Withdrawn tripId (· = driverId) (fun _ => some .driverDeclined) k.store.offers
        k₁.store.offers ∧ Retried env cond tripId k₁ r k') k := by
  rw [handleDriverDeclineAndRetry, Async.bind_eq]
  refine Async.wlp_bind_of_ok wlp_handleDriverDecline fun _ k₁ hk₁ => ?_
  exact Async.wlp_mono (wlp_checkAndRetryDispatch env) fun r k' h => ⟨k₁, hk₁.1, hk₁.2, h⟩

/-- A timeout closes the offer, then searches again. -/
theorem wlp_handleDriverTimeout (env : DispatchEnv) :
    (handleDriverTimeout env tripId driverId).wlp server cond (fun r k' => ∃ k₁,
      k.Stays k₁ [] ∧ Offers.TimedOut tripId driverId k.store.offers k₁.store.offers ∧
      Retried env cond tripId k₁ r k') k := by
  rw [handleDriverTimeout, Async.bind_eq, respondAttempts, Async.wlp_perform_bind]
  intro _
  rw [Async.bind_eq, Async.wlp_perform_bind]
  intro _
  rw [Async.bind_eq, Async.wlp_perform_bind]
  intro _
  refine Async.wlp_mono (wlp_checkAndRetryDispatch env) fun r k' h => ⟨_, ?_, ?_, h⟩
  · exact ((Config.stays_perform (c := .respondAttempts _ _ _) rfl).trans
      (Config.stays_perform (c := .redisDel (.dispatchLock _)) rfl)).trans
        (Config.stays_perform (c := .redisDel (.dispatchTimeoutJob _ _)) rfl)
  · rw [server_perform, Config.store_perform, Cmd.offers_redisDel_jobKey, server_perform,
      Config.store_perform, Cmd.offers_redisDel_lock, server_perform, Config.store_perform,
      Cmd.offers_respondAttempts]
    exact Offers.timedOut _ _ _

/-! ### Opening an attempt again -/

/-- What `findPendingAttempt` answers. -/
def pendingAttempt? (s : Store) (driverId : ℕ) :
    Option (DispatchAttempt × Trip × Option VehicleType) := do
  let attempt ← (s.attempts.findMany (isPendingRequest s driverId)).argmax
    DispatchAttempt.notifiedAt
  let trip ← s.trips.find? attempt.tripId
  pure (attempt, trip, s.vehicleTypes.find? trip.vehicleTypeId)

/-- What `findAnotherAccepted` answers. -/
def anotherAccepted (s : Store) (tripId driverId : ℕ) : Bool :=
  s.attempts.rows.any fun a =>
    decide (a.tripId = tripId) && decide (a.status = .driverAccepted) &&
      decide (a.driverId ≠ driverId)

theorem findPendingAttempt_eq (driverId : ℕ) : findPendingAttempt driverId =
    Async.query (.findPendingAttempt driverId) fun s => pendingAttempt? s driverId := rfl

theorem findAnotherAccepted_eq (tripId driverId : ℕ) : findAnotherAccepted tripId driverId =
    Async.query (.findAcceptedAttempt tripId driverId) fun s =>
      anotherAccepted s tripId driverId := rfl

/-- The trip and the driver whose attempt `getPendingRequestForDriver` opens again. -/
def rearmed? (s : Store) (userId : ℕ) : Option (ℕ × ℕ) := do
  let driver ← s.drivers.findFirst fun d => decide (d.userId = userId)
  let (_, trip, _) ← pendingAttempt? s driver.id
  if anotherAccepted s trip.id driver.id then none else some (trip.id, driver.id)

section Rearm

variable {s : Store} {attempt : DispatchAttempt} {trip : Trip} {vehicleType : Option VehicleType}

theorem pendingAttempt?_spec (h : pendingAttempt? s driverId = some (attempt, trip, vehicleType)) :
    s.attempts.find? (trip.id, driverId) = some attempt ∧
      (attempt.status = .driverNotified ∨ attempt.status = .timedOut) ∧
      s.trips.find? trip.id = some trip ∧ trip.status = .pending := by
  obtain ⟨attempt', hattempt, h⟩ := Option.bind_eq_some_iff.mp h
  obtain ⟨trip', htrip, h⟩ := Option.bind_eq_some_iff.mp h
  obtain ⟨rfl, hpair⟩ := Prod.mk.inj (Option.some.inj h)
  obtain ⟨rfl, -⟩ := Prod.mk.inj hpair
  obtain ⟨hmem, hrequest⟩ := List.mem_filter.mp (List.argmax_mem hattempt)
  simp only [isPendingRequest, Bool.and_eq_true, Bool.or_eq_true, decide_eq_true_eq] at hrequest
  obtain ⟨⟨hid, hstatus⟩, hany⟩ := hrequest
  have hkey : trip'.id = attempt'.tripId := Table.key_of_find? htrip
  have hfind : s.attempts.find? (attempt'.tripId, attempt'.driverId) = some attempt' :=
    Table.find?_of_mem hmem
  rw [htrip, Option.any_some, Bool.and_eq_true, decide_eq_true_eq] at hany
  refine ⟨?_, hstatus, ?_, hany.1⟩
  · rw [hkey, ← hid, hfind]
  · rw [hkey, htrip]

/-- The attempt was made before, and the trip is pending. -/
theorem rearmed?_spec {userId : ℕ} (h : rearmed? s userId = some (tripId, driverId)) :
    s.tripStatus tripId = some .pending ∧ (s.offers.status tripId driverId = some .driverNotified ∨
      s.offers.status tripId driverId = some .timedOut) := by
  obtain ⟨driver, hdriver, h⟩ := Option.bind_eq_some_iff.mp h
  obtain ⟨⟨attempt, trip, vehicleType⟩, hpending, h⟩ := Option.bind_eq_some_iff.mp h
  dsimp only at h
  split_ifs at h
  obtain ⟨rfl, rfl⟩ := Prod.mk.inj (Option.some.inj h)
  obtain ⟨hattempt, hstatus, htrip, hpending⟩ := pendingAttempt?_spec hpending
  have hoffer : s.offers.status trip.id driver.id = some attempt.status := by
    show (s.attempts.find? (trip.id, driver.id)).map DispatchAttempt.status = _
    rw [hattempt, Option.map_some]
  constructor
  · rw [Store.tripStatus, htrip, Option.map_some, hpending]
  · rw [hoffer]
    exact hstatus.imp (congrArg some) (congrArg some)

end Rearm

theorem wlp_rearm (hfound : (k.store.attempts.find? (tripId, driverId)).isSome = true) :
    (rearm tripId driverId).wlp server cond (fun r k' => r = .ok () ∧
      cond k (.rearmAttempt tripId driverId) ∧ k.Stays k' [] ∧
      k'.store.offers = k.store.offers.rearm tripId driverId) k := by
  obtain ⟨attempt, hattempt⟩ := Option.isSome_iff_exists.mp hfound
  rw [rearm]
  apply Async.wlp_tryCatch
  rw [Async.bind_eq, Async.wlp_queryE_bind]
  intro hc
  rw [server_store, hattempt]
  intro _
  refine ⟨rfl, hc, (Config.stays_perform (c := .rearmAttempt _ _) rfl).trans
    (Config.stays_perform (c := .redisSet _ _ _) rfl), ?_⟩
  rw [server_perform, Config.store_perform, Cmd.offers_redisSet_lock (by decide), server_perform,
    Config.store_perform, Cmd.offers_rearmAttempt hfound]
  rfl

theorem wlp_findCoordinates : (findCoordinates tripId).wlp server cond
    (fun r k' => ∃ coords, r = .ok coords ∧ k.Same k') k :=
  fun _ => ⟨_, rfl, Config.same_perform rfl rfl rfl⟩

/-- What is answered is the request of the attempt that was opened again. -/
theorem wlp_getPendingRequestForDriver_request (userId : ℕ) :
    (getPendingRequestForDriver userId).wlp server cond (fun r k' =>
      (rearmed? k.store userId = none ∧ k.Same k' ∧ r = .ok none) ∨
      ∃ tripId driverId k₀, rearmed? k.store userId = some (tripId, driverId) ∧ k.Same k₀ ∧
        cond k₀ (.rearmAttempt tripId driverId) ∧ k.Stays k' [] ∧
        k'.store.offers = k.store.offers.rearm tripId driverId ∧
        ∀ request, r = .ok (some request) → request.tripId = tripId) k := by
  rw [getPendingRequestForDriver, Async.bind_eq, Async.wlp_query_bind]
  intro _
  have hdriver : k.Same (k.perform (.findDriver userId)) := Config.same_perform rfl rfl rfl
  rw [server_store, server_perform]
  cases hfind : k.store.drivers.findFirst fun d => decide (d.userId = userId) with
  | none => exact Or.inl ⟨by rw [rearmed?, hfind]; rfl, hdriver, rfl⟩
  | some driver =>
    rw [Option.map_some]
    dsimp only
    rw [Async.bind_eq, findPendingAttempt_eq, Async.wlp_query_bind]
    intro _
    have hattempt := hdriver.trans
      (Config.same_perform (c := .findPendingAttempt driver.id) rfl rfl rfl)
    have hstore : (k.perform (.findDriver userId)).store = k.store := rfl
    rw [server_store, hstore, server_perform]
    cases hpending : pendingAttempt? k.store driver.id with
    | none => exact Or.inl ⟨by simp [rearmed?, hfind, hpending], hattempt, rfl⟩
    | some found =>
      obtain ⟨attempt, trip, vehicleType⟩ := found
      dsimp only
      rw [Async.bind_eq, findAnotherAccepted_eq, Async.wlp_query_bind]
      intro _
      have hasked := hattempt.trans
        (Config.same_perform (c := .findAcceptedAttempt trip.id driver.id) rfl rfl rfl)
      have hstore : ((k.perform (.findDriver userId)).perform
        (.findPendingAttempt driver.id)).store = k.store := rfl
      rw [server_store, hstore, server_perform]
      split_ifs with hanother
      · exact Or.inl ⟨by simp [rearmed?, hfind, hpending, hanother], hasked, rfl⟩
      · have hrearmed : rearmed? k.store userId = some (trip.id, driver.id) := by
          simp [rearmed?, hfind, hpending, hanother]
        have hfound : (k.store.attempts.find? (trip.id, driver.id)).isSome = true := by
          rw [(pendingAttempt?_spec hpending).1]
          rfl
        apply Async.wlp_bind
        refine Async.wlp_mono (wlp_rearm hfound) ?_
        rintro r k₁ ⟨rfl, hc, hstays, hoffers⟩
        rw [Async.done_ok_bind]
        refine Async.wlp_bind_of_ok wlp_findCoordinates fun coords k₂ hk₂ => ?_
        have hpost : ∀ {r : Except Error (Option PendingRequest)},
            (∀ request, r = .ok (some request) → request.tripId = trip.id) →
            ∃ tripId driverId k₀, rearmed? k.store userId = some (tripId, driverId) ∧
              k.Same k₀ ∧ cond k₀ (.rearmAttempt tripId driverId) ∧ k.Stays k₂ [] ∧
              k₂.store.offers = k.store.offers.rearm tripId driverId ∧
              ∀ request, r = .ok (some request) → request.tripId = tripId :=
          fun hr => ⟨trip.id, driver.id, _, hrearmed, hasked, hc, hasked.stays (hstays.same hk₂),
            hk₂.offers.trans hoffers, hr⟩
        cases vehicleType with
        | none => exact Or.inr (hpost fun _ h => by cases h)
        | some vehicleType =>
          refine Or.inr (hpost fun request h => ?_)
          obtain rfl := Option.some.inj (Except.ok.inj h)
          rfl

theorem wlp_getPendingRequestForDriver (userId : ℕ) :
    (getPendingRequestForDriver userId).wlp server cond (fun _ k' =>
      (rearmed? k.store userId = none ∧ k.Same k') ∨
      ∃ tripId driverId k₀, rearmed? k.store userId = some (tripId, driverId) ∧ k.Same k₀ ∧
        cond k₀ (.rearmAttempt tripId driverId) ∧ k.Stays k' [] ∧
        k'.store.offers = k.store.offers.rearm tripId driverId) k := by
  refine Async.wlp_mono (wlp_getPendingRequestForDriver_request userId) ?_
  rintro r k' (⟨hnone, hsame, -⟩ | ⟨tripId, driverId, k₀, hrearmed, hsame, hc, hstays, hoffers, -⟩)
  · exact Or.inl ⟨hnone, hsame⟩
  · exact Or.inr ⟨tripId, driverId, k₀, hrearmed, hsame, hc, hstays, hoffers⟩

end DispatchService

end Telima
