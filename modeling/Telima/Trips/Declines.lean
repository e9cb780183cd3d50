import Telima.Dispatch.Runs
import Telima.Trips.Rejections

/-!
# The two ways to decline

`POST /trips/:id/decline` asks for an attempt of the driver that is notified before it calls
`handleDriverDeclineAndRetry`; the handler of `trip:decline` calls it right away.  So the two agree when
there is such an attempt, and otherwise only when the call finds nothing to undo and nothing to retry
(`declines_agree_iff`).
-/

namespace Telima

open TripsService DispatchService

/-- `WsDriverDeclineHandler`, for the socket of the driver -/
def handleWsDriverDeclineRequested (env : DispatchEnv) (tripId driverId : ℕ) : Prog Unit :=
  handleDriverDeclineAndRetry env tripId driverId

/-- Two runs leave the same trips, attempts, locks and timeout jobs, and the same was emitted. -/
structure SameEffect (o o' : Outcome Store Cmd Error Unit) : Prop where
  trips : o.store.trips = o'.store.trips
  attempts : o.store.attempts = o'.store.attempts
  locks : ∀ d, o.store.get (.dispatchLock d) = o'.store.get (.dispatchLock d)
  jobNames : ∀ t d, o.store.get (.dispatchTimeoutJob t d) = o'.store.get (.dispatchTimeoutJob t d)
  jobs : o.store.jobs = o'.store.jobs
  messages : messages o = Telima.messages o'

/-- A run leaves what was there, and tells nobody. -/
structure ChangesNothing (s : Store) (o : Outcome Store Cmd Error Unit) : Prop where
  trips : o.store.trips = s.trips
  attempts : o.store.attempts = s.attempts
  redis : ∀ key, o.store.get key = s.get key
  jobs : o.store.jobs = s.jobs
  messages : messages o = []

/-- Two runs that change nothing have the same effect. -/
theorem ChangesNothing.sameEffect {s : Store} {o o' : Outcome Store Cmd Error Unit}
    (h : ChangesNothing s o) (h' : ChangesNothing s o') : SameEffect o o' where
  trips := h.trips.trans h'.trips.symm
  attempts := h.attempts.trans h'.attempts.symm
  locks _ := (h.redis _).trans (h'.redis _).symm
  jobNames _ _ := (h.redis _).trans (h'.redis _).symm
  jobs := h.jobs.trans h'.jobs.symm
  messages := h.messages.trans h'.messages.symm

/-- The two channels have the same effect, and none at all without a notified attempt. -/
def DeclinesAgree (env : Env) (depth tripId driverId userId : ℕ) (s : Store) : Prop :=
  let ws := (system env ()).complete depth
    (handleWsDriverDeclineRequested env.dispatch tripId driverId) s
  let rest := (system env ()).complete depth (declineTrip env.dispatch tripId userId) s
  SameEffect ws rest ∧
    (¬ s.offers.Notified tripId driverId → ChangesNothing s ws ∧ ChangesNothing s rest)

/-- A decline of the driver finds nothing to undo and nothing to retry. -/
structure NothingToDecline (s : Store) (tripId driverId : ℕ) : Prop where
  notNotified : ¬ s.offers.Notified tripId driverId
  unlocked : s.unlocked driverId
  noJob : s.jobKey tripId driverId = none
  noRetry : ¬ s.searchesAgain tripId

namespace Declines

variable {tripId driverId userId : ℕ} {s : Store}

/-! ### The decline -/

/-- The store after `handleDriverDecline`. -/
def declined (s : Store) (tripId driverId : ℕ) : Store :=
  ((handleDriverDecline tripId driverId).run Cmd.exec s).store

theorem withdrawsJob_handleDriverDecline : (handleDriverDecline tripId driverId).Only fun c =>
    c = .respondAttempts tripId (some driverId) .driverDeclined ∨
      c = .redisDel (.dispatchLock driverId) ∨ c.cancelsJob tripId driverId = true := by
  refine Async.only_perform_bind.mpr ⟨Or.inl rfl, fun _ => ?_⟩
  refine Async.only_perform_bind.mpr ⟨Or.inr (Or.inl rfl), fun _ => ?_⟩
  exact (cancelsJob_cancelTimeoutJob tripId driverId).mono fun _ hc => Or.inr (Or.inr hc)

theorem quiet_handleDriverDecline :
    ∀ c ∈ ((handleDriverDecline tripId driverId).run Cmd.exec s).cmds, c.isMessage = false := by
  intro c hc
  rcases withdrawsJob_handleDriverDecline.of_mem_cmds Cmd.exec hc with rfl | rfl | h
  · rfl
  · rfl
  · cases c <;> first | rfl | simp [Cmd.cancelsJob] at h

theorem declined_trips : (declined s tripId driverId).trips = s.trips := by
  refine withdrawsJob_handleDriverDecline.run_store (I := fun t => t.trips = s.trips) Cmd.exec
    (fun c t hc ht => ?_) rfl
  rcases hc with rfl | rfl | h
  · exact ht
  · exact ht
  · exact (Cmd.exec_trips (Cmd.keepsTrips_of_touchesOffers
      (Cmd.touchesOffers_of_withdrawsJob (Cmd.withdrawsJob_of_cancelsJob h)))).trans ht

theorem get_of_cancelsJob {c : Cmd} (hc : c.cancelsJob tripId driverId = true) {key : RedisKey}
    (hkey : key ≠ .dispatchTimeoutJob tripId driverId) : (c.exec s).get key = s.get key := by
  unfold Cmd.cancelsJob at hc
  split at hc
  · rfl
  · rw [of_decide_eq_true hc, Store.get_redisDel, if_neg hkey]
  · rfl
  · rfl
  · cases hc

theorem declined_get {key : RedisKey} (hlock : key ≠ .dispatchLock driverId)
    (hjob : key ≠ .dispatchTimeoutJob tripId driverId) :
    (declined s tripId driverId).get key = s.get key := by
  refine withdrawsJob_handleDriverDecline.run_store (I := fun t => t.get key = s.get key) Cmd.exec
    (fun c t hc ht => ?_) rfl
  rcases hc with rfl | rfl | h
  · exact ht
  · rw [Store.get_redisDel, if_neg hlock]
    exact ht
  · exact (get_of_cancelsJob h hjob).trans ht

/-- The commands before `cancelTimeoutJob`. -/
theorem declined_eq : declined s tripId driverId =
    ((cancelTimeoutJob tripId driverId).run Cmd.exec ((Cmd.redisDel (.dispatchLock driverId)).exec
      ((Cmd.respondAttempts tripId (some driverId) .driverDeclined).exec s))).store := rfl

/-- No job is named after the timeout job was cancelled. -/
theorem jobKey_cancelTimeoutJob :
    ((cancelTimeoutJob tripId driverId).run Cmd.exec s).store.jobKey tripId driverId = none := by
  unfold cancelTimeoutJob
  rw [Async.bind_eq, Async.run_query_bind]
  split
  · next jobId _ =>
    obtain ⟨u, hcancel⟩ := (returns_cancelDispatchTimeout jobId).succeeds Cmd.exec
      ((Cmd.redisGet (.dispatchTimeoutJob tripId driverId)).exec s)
    rw [Async.bind_eq, Async.run_bind_of_ok Cmd.exec hcancel]
    show (Store.get ((Cmd.redisDel (.dispatchTimeoutJob tripId driverId)).exec _) _).bind _ = none
    rw [Store.get_redisDel, if_pos rfl, Option.bind_none]
  · next hnone =>
    show (s.get _).bind _ = none
    cases hget : s.get (.dispatchTimeoutJob tripId driverId) with
    | none => rfl
    | some value =>
      cases value with
      | job jobId => exact absurd hget (hnone jobId)
      | _ => rfl

/-- Nothing is done when no job is named. -/
theorem run_cancelTimeoutJob_of_none (h : s.jobKey tripId driverId = none) :
    ((cancelTimeoutJob tripId driverId).run Cmd.exec s).store = s := by
  unfold cancelTimeoutJob
  rw [Async.bind_eq, Async.run_query_bind]
  split
  · next jobId hget =>
    rw [Store.jobKey, hget] at h
    cases h
  · rfl

theorem declined_jobKey : (declined s tripId driverId).jobKey tripId driverId = none := by
  rw [declined_eq]
  exact jobKey_cancelTimeoutJob

theorem declined_unlocked : (declined s tripId driverId).unlocked driverId := by
  refine (cancelsJob_cancelTimeoutJob tripId driverId).run_store (I := fun t => t.unlocked driverId)
    Cmd.exec (fun c t hc ht => ?_) ?_
  · exact (get_of_cancelsJob hc RedisKey.noConfusion).trans ht
  · rw [Store.unlocked, Store.get_redisDel, if_pos rfl]

theorem declined_attempts : (declined s tripId driverId).attempts =
    ((Cmd.respondAttempts tripId (some driverId) .driverDeclined).exec s).attempts := by
  refine (cancelsJob_cancelTimeoutJob tripId driverId).run_store
    (I := fun t => t.attempts = ((Cmd.respondAttempts tripId (some driverId)
      .driverDeclined).exec s).attempts) Cmd.exec (fun c t hc ht => ?_) rfl
  refine (Cmd.exec_attempts ?_).trans ht
  cases c <;> first | rfl | simp [Cmd.cancelsJob] at hc

/-- Only the driver's own offer is withdrawn. -/
theorem declined_notified {d : ℕ} : (declined s tripId driverId).offers.Notified tripId d ↔
    s.offers.Notified tripId d ∧ d ≠ driverId := by
  have hstatus : (declined s tripId driverId).attemptStatus tripId d =
      (s.offers.respond tripId (some driverId) .driverDeclined).status tripId d := by
    rw [← Cmd.offers_respondAttempts, Store.attemptStatus, declined_attempts]
    rfl
  show (declined s tripId driverId).attemptStatus tripId d = some .driverNotified ↔ _
  rw [hstatus, Offers.respond, Offers.Notified]
  by_cases hd : d = driverId
  · simp only [hd]
    split_ifs with h
    · simp
    · simp only [Option.all_some, decide_true, true_and] at h
      exact iff_of_false h fun hn => h hn.1
  · simp [hd]

theorem declined_searchesAgain (h : ¬ s.offers.Notified tripId driverId) :
    (declined s tripId driverId).searchesAgain tripId ↔ s.searchesAgain tripId := by
  refine and_congr ?_ (forall_congr' fun d => not_congr ?_)
  · rw [Store.tripStatus, declined_trips, Store.tripStatus]
  · rw [declined_notified]
    refine and_iff_left_of_imp ?_
    rintro hd rfl
    exact h hd

/-- What a decline leaves when there was nothing to undo. -/
theorem declined_of_nothing (h : NothingToDecline s tripId driverId) :
    (declined s tripId driverId).attempts = s.attempts ∧
      (∀ key, (declined s tripId driverId).get key = s.get key) ∧
      (declined s tripId driverId).jobs = s.jobs := by
  have hnone : (declined s tripId driverId) = (Cmd.redisDel (.dispatchLock driverId)).exec
      ((Cmd.respondAttempts tripId (some driverId) .driverDeclined).exec s) := by
    rw [declined_eq, run_cancelTimeoutJob_of_none]
    rw [Store.jobKey, Store.get_redisDel, if_neg RedisKey.noConfusion]
    exact h.noJob
  refine ⟨?_, fun key => ?_, ?_⟩
  · rw [declined_attempts]
    refine Table.updateMany_of_not _ (DispatchAttempt.key_respond _ _) fun a ha => ?_
    rw [Bool.eq_false_iff]
    intro hsel
    simp only [Option.all_some, Bool.and_eq_true, decide_eq_true_eq] at hsel
    obtain ⟨⟨rfl, rfl⟩, hstatus⟩ := hsel
    have hfind : s.attempts.find? (a.tripId, a.driverId) = some a := Table.find?_of_mem ha
    refine h.notNotified ?_
    show s.attemptStatus a.tripId a.driverId = some .driverNotified
    rw [Store.attemptStatus, hfind, Option.map_some, hstatus]
  · rw [hnone, Store.get_redisDel]
    split_ifs with hkey
    · rw [hkey]
      exact h.unlocked.symm
    · rfl
  · rw [hnone]
    rfl

/-! ### The two channels -/

variable (env : DispatchEnv)

theorem run_wsDecline : (handleWsDriverDeclineRequested env tripId driverId).run Cmd.exec s =
    ((checkAndRetryDispatch env tripId).run Cmd.exec (declined s tripId driverId)).after
      ((handleDriverDecline tripId driverId).run Cmd.exec s).cmds := by
  have hreturns : (handleDriverDecline tripId driverId).Returns := by
    refine Async.returns_perform_bind.mpr fun _ => ?_
    exact Async.returns_perform_bind.mpr fun _ => returns_cancelTimeoutJob _ _
  obtain ⟨u, hdecline⟩ := hreturns.succeeds Cmd.exec s
  exact Async.run_bind_of_ok Cmd.exec hdecline _

section Rest

variable (hdriver : (s.drivers.findFirst fun d => decide (d.userId = userId)).map Driver.id =
  some driverId)

include hdriver

/-- The request does what the message does. -/
theorem run_declineTrip_of_notified (htrip : (s.trips.find? tripId).isSome = true)
    (hnotified : s.offers.Notified tripId driverId) :
    (declineTrip env tripId userId).run Cmd.exec s =
      ((handleWsDriverDeclineRequested env tripId driverId).run Cmd.exec s).after
        [.findTrip tripId, .findTripCoordinates tripId, .findDriver userId,
          .findActiveAttempt tripId driverId] := by
  obtain ⟨trip, htrip⟩ := Option.isSome_iff_exists.mp htrip
  rw [declineTrip, Async.bind_eq, run_getTrip_bind htrip, TripRepository.findDriverByUserId,
    Async.bind_eq, Async.run_query_bind, hdriver]
  dsimp only
  have hread : (Cmd.findDriver userId).exec s = s := rfl
  rw [hread, TripRepository.hasActiveDispatchAttempt, Async.bind_eq, Async.run_query_bind,
    if_pos (isNotified_iff.mpr hnotified)]
  rfl

/-- The request is refused. -/
theorem run_declineTrip_of_not
    (h : ¬ ((s.trips.find? tripId).isSome = true ∧ s.offers.Notified tripId driverId)) :
    ((declineTrip env tripId userId).run Cmd.exec s).store = s ∧
      ∀ c ∈ ((declineTrip env tripId userId).run Cmd.exec s).cmds, c.isMessage = false := by
  rw [declineTrip, Async.bind_eq]
  cases htrip : s.trips.find? tripId with
  | none =>
    rw [run_getTrip_bind_none htrip]
    exact ⟨rfl, by simp [Cmd.isMessage]⟩
  | some trip =>
    have hnot : ¬ TripRepository.isNotified s tripId driverId = true := fun hn =>
      h ⟨by rw [htrip]; rfl, isNotified_iff.mp hn⟩
    rw [run_getTrip_bind htrip, TripRepository.findDriverByUserId, Async.bind_eq,
      Async.run_query_bind, hdriver]
    have hread : (Cmd.findDriver userId).exec s = s := rfl
    dsimp only
    rw [hread, TripRepository.hasActiveDispatchAttempt, Async.bind_eq, Async.run_query_bind,
      if_neg hnot]
    exact ⟨rfl, by simp [Cmd.isMessage]⟩

end Rest

/-- The message, when there is nothing to retry. -/
theorem run_wsDecline_of_not (h : ¬ (declined s tripId driverId).searchesAgain tripId) :
    ((handleWsDriverDeclineRequested env tripId driverId).run Cmd.exec s).store =
        declined s tripId driverId ∧
      ∀ c ∈ ((handleWsDriverDeclineRequested env tripId driverId).run Cmd.exec s).cmds,
        c.isMessage = false := by
  obtain ⟨hstore, hquiet⟩ := run_checkAndRetryDispatch_of_not h
  rw [run_wsDecline env]
  refine ⟨hstore, fun c hc => ?_⟩
  rcases List.mem_append.mp hc with hc | hc
  · exact quiet_handleDriverDecline c hc
  · exact hquiet c hc

/-- A run that sends nothing is not followed by a handler. -/
theorem complete_of_noMessage (env : Env) (depth : ℕ) {p : Prog Unit}
    (h : ∀ c ∈ (p.run Cmd.exec s).cmds, c.isMessage = false) :
    (system env ()).complete depth p s = p.run Cmd.exec s :=
  System.complete_of_quiet fun c hc => handlers_of_not_isMessage (h c hc)

/-- A message that changes nothing has found nothing to undo and nothing to retry. -/
theorem nothing_of_changesNothing (env : Env) {depth : ℕ}
    (hnotified : ¬ s.offers.Notified tripId driverId)
    (h : ChangesNothing s ((system env ()).complete depth
      (handleWsDriverDeclineRequested env.dispatch tripId driverId) s)) :
    NothingToDecline s tripId driverId := by
  have hrounds : (declined s tripId driverId).roundsSoFar tripId = s.roundsSoFar tripId := by
    rw [Store.roundsSoFar, declined_get RedisKey.noConfusion RedisKey.noConfusion,
      Store.roundsSoFar]
  have hnone : ¬ s.searchesAgain tripId := by
    intro hagain
    have htells : Tells tripId (declined s tripId driverId)
        ((checkAndRetryDispatch env.dispatch tripId).run Cmd.exec (declined s tripId driverId)) :=
      tells_checkAndRetryDispatch ((declined_searchesAgain hnotified).mpr hagain)
    rcases htells with ⟨c, hc, hmessage⟩ | ⟨hquiet, hcount⟩
    · -- somebody was told
      have hmem : c ∈ ((system env ()).complete depth
          (handleWsDriverDeclineRequested env.dispatch tripId driverId) s).cmds := by
        refine List.mem_append_left _ ?_
        rw [system_exec, run_wsDecline]
        exact List.mem_append_right _ hc
      rw [messages_eq_nil_iff.mp h.messages c hmem] at hmessage
      cases hmessage
    · -- the round was counted
      have hwsQuiet : ∀ c ∈ ((handleWsDriverDeclineRequested env.dispatch tripId driverId).run
          Cmd.exec s).cmds, c.isMessage = false := by
        intro c hc
        rw [run_wsDecline] at hc
        rcases List.mem_append.mp hc with hc | hc
        · exact quiet_handleDriverDecline c hc
        · exact hquiet c hc
      have hkept := h.redis (.dispatchRounds tripId)
      rw [complete_of_noMessage env depth hwsQuiet, run_wsDecline, Outcome.store_after, hcount,
        hrounds] at hkept
      have hsofar := Store.roundsSoFar_of_get hkept.symm
      omega
  have hdeclined := (declined_searchesAgain hnotified).not.mpr hnone
  obtain ⟨hws, hwsQuiet⟩ := run_wsDecline_of_not env.dispatch hdeclined
  have hredis := h.redis
  rw [complete_of_noMessage env depth hwsQuiet, hws] at hredis
  refine ⟨hnotified, ?_, ?_, hnone⟩
  · exact (hredis _).symm.trans declined_unlocked
  · rw [Store.jobKey, ← hredis]
    exact declined_jobKey

end Declines

open Declines

/-- The two channels agree exactly when the trip exists and the driver's attempt is notified, or when
the decline finds nothing to undo and nothing to retry. -/
theorem declines_agree_iff (env : Env) (depth tripId driverId userId : ℕ) (s : Store)
    (hdriver : (s.drivers.findFirst fun d => decide (d.userId = userId)).map Driver.id =
      some driverId) :
    DeclinesAgree env depth tripId driverId userId s ↔
      ((s.trips.find? tripId).isSome = true ∧ s.offers.Notified tripId driverId) ∨
        NothingToDecline s tripId driverId := by
  constructor
  · rintro ⟨hsame, hnothing⟩
    by_cases hnotified : s.offers.Notified tripId driverId
    · refine Or.inl ⟨?_, hnotified⟩
      by_contra htrip
      -- the message closes the attempt, and the request is refused
      obtain ⟨hrest, hrestQuiet⟩ := run_declineTrip_of_not env.dispatch hdriver
        (fun h => htrip h.1)
      have hnone : ¬ (declined s tripId driverId).searchesAgain tripId := by
        rintro ⟨hpending, -⟩
        rw [Store.tripStatus, declined_trips, Option.not_isSome_iff_eq_none.mp htrip] at hpending
        cases hpending
      obtain ⟨hws, hwsQuiet⟩ := run_wsDecline_of_not env.dispatch hnone
      have hattempts := hsame.attempts
      rw [complete_of_noMessage env depth hwsQuiet, complete_of_noMessage env depth hrestQuiet, hws,
        hrest] at hattempts
      have hkept : (declined s tripId driverId).offers.Notified tripId driverId := by
        show (declined s tripId driverId).attemptStatus tripId driverId = _
        rw [Store.attemptStatus, hattempts]
        exact hnotified
      exact (declined_notified.mp hkept).2 rfl
    · exact Or.inr (nothing_of_changesNothing env hnotified (hnothing hnotified).1)
  · rintro (⟨htrip, hnotified⟩ | h)
    · have hquiet : ∀ c ∈ [Cmd.findTrip tripId, .findTripCoordinates tripId, .findDriver userId,
          .findActiveAttempt tripId driverId], c.isMessage = false := by
        simp [Cmd.isMessage]
      have hcomplete : (system env ()).complete depth (declineTrip env.dispatch tripId userId) s =
          _ := System.complete_of_run_eq
        (run_declineTrip_of_notified env.dispatch hdriver htrip hnotified) fun c hc =>
          handlers_of_not_isMessage (hquiet c hc)
      refine ⟨?_, fun h => absurd hnotified h⟩
      rw [hcomplete]
      exact ⟨rfl, rfl, fun _ => rfl, fun _ _ => rfl, rfl, (messages_after hquiet _).symm⟩
    · have hnone := (declined_searchesAgain h.notNotified).not.mpr h.noRetry
      obtain ⟨hws, hwsQuiet⟩ := run_wsDecline_of_not env.dispatch hnone
      obtain ⟨hrest, hrestQuiet⟩ := run_declineTrip_of_not env.dispatch hdriver
        (fun hn => h.notNotified hn.2)
      obtain ⟨hattempts, hredis, hjobs⟩ := declined_of_nothing h
      have hwsNothing : ChangesNothing s ((system env ()).complete depth
          (handleWsDriverDeclineRequested env.dispatch tripId driverId) s) := by
        rw [complete_of_noMessage env depth hwsQuiet]
        refine ⟨?_, ?_, ?_, ?_, messages_eq_nil_iff.mpr hwsQuiet⟩
        · rw [hws, declined_trips]
        · rw [hws, hattempts]
        · rw [hws]
          exact hredis
        · rw [hws, hjobs]
      have hrestNothing : ChangesNothing s ((system env ()).complete depth
          (declineTrip env.dispatch tripId userId) s) := by
        rw [complete_of_noMessage env depth hrestQuiet]
        refine ⟨?_, ?_, ?_, ?_, messages_eq_nil_iff.mpr hrestQuiet⟩
        · rw [hrest]
        · rw [hrest]
        · rw [hrest]
          exact fun _ => rfl
        · rw [hrest]
      exact ⟨hwsNothing.sameEffect hrestNothing, fun _ => ⟨hwsNothing, hrestNothing⟩⟩

/-- Driver 1 (user 10) is offered trip 2, and his lock is held for it; trip 1 has been accepted by
somebody else. -/
def Store.offeredElsewhere : Store where
  drivers := .single ⟨1, 10, 0, 0⟩
  trips :=
    ⟨[{ id := 1, clientId := 20, driverId := some 2, vehicleTypeId := 1, serviceType := .ride
        status := .accepted, pickupLocation := ⟨0, 0⟩, dropoffLocation := ⟨0, 0⟩, createdAt := 0
        updatedAt := 0 },
      { id := 2, clientId := 21, vehicleTypeId := 1, serviceType := .ride
        pickupLocation := ⟨0, 0⟩, dropoffLocation := ⟨0, 0⟩, createdAt := 0, updatedAt := 0 }],
      by decide⟩
  attempts := .single { tripId := 2, driverId := 1, status := .driverNotified, notifiedAt := 0 }
  redis
    | .dispatchLock 1 => some ⟨.trip 2, none⟩
    | _ => none

theorem declines_agree_offered : DeclinesAgree .offline 1 2 1 10 .offeredElsewhere :=
  (declines_agree_iff .offline 1 2 1 10 .offeredElsewhere rfl).mpr (Or.inl ⟨rfl, rfl⟩)

/-- The message about trip 1 releases the lock the driver holds for trip 2. -/
theorem declines_disagree : ¬ DeclinesAgree .offline 1 1 1 10 .offeredElsewhere := by
  intro h
  have hlock := h.1.locks 1
  exact nomatch hlock

end Telima
