import Telima.Operations.JobNames

/-!
# What a sweep leaves alone

The periodic sweep goes by the age of a trip, not by the age of its offers: a trip that is offered
for the third time may be searched for again, or given up, while a driver still considers it.  A trip
is left alone, with its attempts, locks and timeout jobs, when it is younger than
`REDISPATCH_MIN_AGE_MS` and no trip that is searched for again has an open offer to a driver whose
lock is held for it (`sweep_spares`).
-/

namespace Telima

open TripsService DispatchService DispatchRecoveryService

/-- What the store holds of the offers of a trip. -/
structure TripOffers where
  status : Option TripStatus
  attempts : ℕ → Option DispatchAttempt
  /-- The locks that are held for the trip, by driver. -/
  locks : ℕ → Option RedisEntry
  jobs : List TimeoutJob

namespace Store

/-- The driver's lock, if it is held for the trip. -/
def lockFor (s : Store) (tripId driverId : ℕ) : Option RedisEntry :=
  if s.lockHolder driverId = some tripId then s.redis (.dispatchLock driverId) else none

def offersOf (s : Store) (tripId : ℕ) : TripOffers where
  status := s.tripStatus tripId
  attempts driverId := s.attempts.find? (tripId, driverId)
  locks := s.lockFor tripId
  jobs := s.jobs.filter fun job => decide (job.tripId = tripId)

/-- A sweep searches for a driver again: the trip is pending, and its age is between
`REDISPATCH_MIN_AGE_MS` and `REDISPATCH_MAX_AGE_MS`. -/
def Resumes (s : Store) (tripId : ℕ) : Prop :=
  ∃ trip, s.trips.find? tripId = some trip ∧ trip.status = .pending ∧
    trip.createdAt + redispatchMinAgeMs ≤ s.now ∧ s.now ≤ trip.createdAt + redispatchMaxAgeMs

/-- A sweep has no reason to touch the trip, and releases no lock that is held for it. -/
structure Spares (s : Store) (tripId : ℕ) : Prop where
  young : ∀ trip, s.trips.find? tripId = some trip → trip.status = .pending →
    s.now < trip.createdAt + redispatchMinAgeMs
  apart : ∀ t d, s.Resumes t → s.attemptStatus t d = some .driverNotified →
    s.lockHolder d ≠ some tripId

/-- When every trip is young, a sweep does nothing. -/
theorem spares_of_young {s : Store} {tripId : ℕ}
    (h : ∀ trip ∈ s.trips.rows, s.now < trip.createdAt + redispatchMinAgeMs) :
    s.Spares tripId where
  young := fun trip htrip _ => h trip (Table.mem_of_find? htrip)
  apart := by
    rintro t d ⟨trip, htrip, -, hold, -⟩ -
    have hyoung : s.now < trip.createdAt + redispatchMinAgeMs := h trip (Table.mem_of_find? htrip)
    omega

/-! ### The effect of single commands -/

section Commands

variable {s s' : Store} {tripId driverId : ℕ}

theorem lockFor_eq_none (h : s.lockHolder driverId ≠ some tripId) :
    s.lockFor tripId driverId = none := if_neg h

theorem lockHolder_eq_some_iff :
    s.lockHolder driverId = some tripId ↔ (s.lockFor tripId driverId).isSome = true := by
  constructor
  · intro h
    rw [lockFor, if_pos h]
    obtain ⟨value, hget, -⟩ := Option.bind_eq_some_iff.mp h
    obtain ⟨entry, hentry, -⟩ := Option.bind_eq_some_iff.mp hget
    rw [hentry]
    rfl
  · intro h
    by_contra hne
    rw [lockFor_eq_none hne] at h
    cases h

theorem setEntry_self (key : RedisKey) : Cmd.setEntry s key (s.redis key) = s := by
  unfold Cmd.setEntry
  have hredis : (fun k => if k = key then s.redis key else s.redis k) = s.redis := by
    funext k
    split_ifs with hk
    · rw [hk]
    · rfl
  rw [hredis]

/-- A change of one key that is no lock of the trip. -/
theorem lockFor_setEntry {key : RedisKey} {entry : Option RedisEntry}
    (h : ∀ d, key = .dispatchLock d → s.lockHolder d ≠ some tripId ∧
      (Cmd.setEntry s key entry).lockHolder d ≠ some tripId) :
    (Cmd.setEntry s key entry).lockFor tripId driverId = s.lockFor tripId driverId := by
  by_cases hkey : key = .dispatchLock driverId
  · obtain ⟨hbefore, hafter⟩ := h driverId hkey
    rw [lockFor_eq_none hbefore, lockFor_eq_none hafter]
  · have hholder : (Cmd.setEntry s key entry).lockHolder driverId = s.lockHolder driverId := by
      rw [lockHolder, Cmd.get_setEntry_of_ne (Ne.symm hkey), lockHolder]
    have hentry : (Cmd.setEntry s key entry).redis (.dispatchLock driverId) =
        s.redis (.dispatchLock driverId) := if_neg (Ne.symm hkey)
    rw [lockFor, hholder, hentry, lockFor]

theorem offersOf_eq (hstatus : s'.tripStatus tripId = s.tripStatus tripId)
    (hattempts : ∀ d, s'.attempts.find? (tripId, d) = s.attempts.find? (tripId, d))
    (hlocks : ∀ d, s'.lockFor tripId d = s.lockFor tripId d)
    (hjobs : s'.jobs.filter (fun job => decide (job.tripId = tripId)) =
      s.jobs.filter fun job => decide (job.tripId = tripId)) :
    s'.offersOf tripId = s.offersOf tripId := by
  have hattempts' : (fun d => s'.attempts.find? (tripId, d)) =
      fun d => s.attempts.find? (tripId, d) := funext hattempts
  have hlocks' : s'.lockFor tripId = s.lockFor tripId := funext hlocks
  rw [offersOf, hstatus, hattempts', hlocks', hjobs, offersOf]

theorem offersOf_setEntry {key : RedisKey} {entry : Option RedisEntry}
    (h : ∀ d, key = .dispatchLock d → s.lockHolder d ≠ some tripId ∧
      (Cmd.setEntry s key entry).lockHolder d ≠ some tripId) :
    (Cmd.setEntry s key entry).offersOf tripId = s.offersOf tripId :=
  offersOf_eq rfl (fun _ => rfl) (fun _ => lockFor_setEntry h) rfl

end Commands

end Store

/-- Whatever the state, the command leaves the offers of the trip alone. -/
def Cmd.sparesTrip (tripId : ℕ) : Cmd → Bool
  | .findTrip _ | .findTripCoordinates _ | .findAttempts _ | .findPendingTrips | .redisGet _
  | .getJob _ | .external | .date | .broadcast _ _ _ | .emit (.driverNotified _ _ _ _) => true
  | .updateTripIfPending id _ | .upsertAttempt id _ | .addJob id _ _
  | .emit (.dispatchFailed id _) | .redisSetNx (.dispatchLock _) (.trip id) _ => decide (id ≠ tripId)
  | .respondAttempts id _ answer => decide (id ≠ tripId ∧ answer ≠ .driverNotified)
  | .redisDel (.dispatchTimeoutJob _ _) | .redisDel (.dispatchRounds _)
  | .redisIncr (.dispatchRounds _) | .redisExpire (.dispatchRounds _) _ => true
  | _ => false

section Commands

variable {s : Store} {c : Cmd} {tripId : ℕ}

theorem Cmd.offersOf_exec (hc : c.sparesTrip tripId = true) :
    (c.exec s).offersOf tripId = s.offersOf tripId := by
  cases c with
  | updateTripIfPending id data =>
    have hid : id ≠ tripId := of_decide_eq_true hc
    refine Store.offersOf_eq ?_ (fun _ => rfl) (fun _ => rfl) rfl
    rw [Store.tripStatus, Cmd.exec, Table.find?_updateMany, Store.tripStatus]
    cases htrip : s.trips.find? tripId with
    | none => rfl
    | some trip =>
      have hkey : trip.id = tripId := Table.key_of_find? htrip
      rw [Option.map_some, if_neg]
      intro h
      rw [Bool.and_eq_true, decide_eq_true_eq] at h
      exact hid (h.1.symm.trans hkey)
  | upsertAttempt id d =>
    have hid : id ≠ tripId := of_decide_eq_true hc
    refine Store.offersOf_eq rfl (fun x => ?_) (fun _ => rfl) rfl
    have hne : (tripId, x) ≠ (id, d) := fun h => hid (Prod.mk.inj h).1.symm
    simp only [Cmd.exec]
    split_ifs
    · rw [Table.find?_update_of_ne hne]
    · rw [Table.find?_insert, if_neg fun h => hne h.symm, Option.or_none]
  | respondAttempts id d answer =>
    have hid : id ≠ tripId := (of_decide_eq_true hc).1
    refine Store.offersOf_eq rfl (fun x => ?_) (fun _ => rfl) rfl
    rw [Cmd.exec, Table.find?_updateMany]
    cases hattempt : s.attempts.find? (tripId, x) with
    | none => rfl
    | some attempt =>
      have hkey : attempt.key = (tripId, x) := Table.key_of_find? hattempt
      rw [Option.map_some, if_neg]
      intro h
      rw [Bool.and_eq_true, Bool.and_eq_true, decide_eq_true_eq] at h
      exact hid (h.1.1.symm.trans (Prod.mk.inj hkey).1)
  | addJob id d delayMs =>
    have hid : id ≠ tripId := of_decide_eq_true hc
    refine Store.offersOf_eq rfl (fun _ => rfl) (fun _ => rfl) ?_
    rw [Cmd.exec, List.filter_append, List.filter_cons_of_neg (by simpa using hid), List.filter_nil,
      List.append_nil]
  | redisSetNx key value seconds =>
    cases key with
    | dispatchLock d =>
      cases value with
      | trip id =>
        have hid : id ≠ tripId := of_decide_eq_true hc
        by_cases hfree : s.get (.dispatchLock d) = none
        · refine Store.offersOf_setEntry fun x hx => ?_
          obtain rfl := RedisKey.dispatchLock.inj hx
          refine ⟨?_, ?_⟩
          · rw [Store.lockHolder, hfree]
            exact fun h => by cases h
          · have hholder : ((Cmd.redisSetNx (.dispatchLock d) (.trip id) seconds).exec
                s).offers.lock d = if 0 < seconds then some id else none := by
              rw [Cmd.offers_redisSetNx_lock_free hfree]
              exact if_pos rfl
            show ((Cmd.redisSetNx (.dispatchLock d) (.trip id) seconds).exec s).lockHolder d ≠ _
            intro h
            have hsame := hholder.symm.trans h
            split_ifs at hsame
            exact hid (Option.some.inj hsame)
        · -- the lock is held: nothing changes
          have hsame : (Cmd.redisSetNx (.dispatchLock d) (.trip id) seconds).exec s =
              Cmd.setEntry s (.dispatchLock d) (s.redis (.dispatchLock d)) := by
            rw [Cmd.exec, if_neg (by simpa using hfree)]
          rw [hsame, Store.setEntry_self]
      | _ => cases hc
    | _ => cases hc
  | redisDel key =>
    cases key with
    | dispatchTimeoutJob t d => exact Store.offersOf_setEntry fun x hx => by cases hx
    | dispatchRounds t => exact Store.offersOf_setEntry fun x hx => by cases hx
    | _ => cases hc
  | redisIncr key =>
    cases key with
    | dispatchRounds t => exact Store.offersOf_setEntry fun x hx => by cases hx
    | _ => cases hc
  | redisExpire key seconds =>
    cases key with
    | dispatchRounds t => exact Store.offersOf_setEntry fun x hx => by cases hx
    | _ => cases hc
  | insertTrip _ => cases hc
  | updateTrip _ _ => cases hc
  | rearmAttempt _ _ => cases hc
  | chargeCommission _ _ _ _ => cases hc
  | redisSet _ _ _ => cases hc
  | removeJob _ => cases hc
  | tick _ => cases hc
  | _ => rfl

theorem Cmd.namesJob_of_sparesTrip (hc : c.sparesTrip tripId = true) : c.namesJob = false := by
  unfold sparesTrip at hc
  split at hc <;> first | rfl | cases hc

theorem Cmd.now_exec_of_sparesTrip (hc : c.sparesTrip tripId = true) :
    (c.exec s).now = s.now := by
  cases c <;> first | rfl | cases hc

end Commands

namespace Sweeps

/-- A step of a sweep that spares the trip: since the store `s`, in which the sweep has started, the
offers of the trip are the same, and the sweep has not notified a driver whose lock was held for
it. -/
structure Kept (s : Store) (tripId : ℕ) (k : Config) : Prop where
  offers : k.store.offersOf tripId = s.offersOf tripId
  now : k.store.now = s.now
  wellKeyed : k.store.offers.WellKeyed
  apart : ∀ t d, s.Resumes t → k.store.attemptStatus t d = some .driverNotified →
    s.lockHolder d ≠ some tripId
  todo : ∀ event ∈ k.todo, (Cmd.emit event).sparesTrip tripId = true

section Kept

variable {s : Store} {k : Config} {c : Cmd} {tripId driverId jobId t d seconds : ℕ}

/-- A lock is held for the trip if it was at the start. -/
theorem Kept.lockHolder_iff (hk : Kept s tripId k) :
    k.store.lockHolder d = some tripId ↔ s.lockHolder d = some tripId := by
  have hlocks : k.store.lockFor tripId = s.lockFor tripId := congrArg TripOffers.locks hk.offers
  rw [Store.lockHolder_eq_some_iff, Store.lockHolder_eq_some_iff, hlocks]

/-- What a step leaves of the invariant when it concerns none of its parts but one. -/
theorem Kept.of_offersOf (hk : Kept s tripId k)
    (hoffers : (c.exec k.store).offersOf tripId = k.store.offersOf tripId)
    (hnow : (c.exec k.store).now = k.store.now)
    (hwellKeyed : (c.exec k.store).offers.WellKeyed)
    (hattempts : ∀ t d, (c.exec k.store).attemptStatus t d = some .driverNotified →
      k.store.attemptStatus t d = some .driverNotified ∨ s.lockHolder d ≠ some tripId)
    (hevent : ∀ event, c.event? = some event → (Cmd.emit event).sparesTrip tripId = true) :
    Kept s tripId (k.perform c) where
  offers := hoffers.trans hk.offers
  now := hnow.trans hk.now
  wellKeyed := hwellKeyed
  apart := by
    intro t d hresumes hn
    rcases hattempts t d hn with hbefore | hfree
    · exact hk.apart t d hresumes hbefore
    · exact hfree
  todo := by
    intro event hevent'
    rw [Config.todo_perform, List.mem_append, Option.mem_toList] at hevent'
    exact hevent'.elim (hk.todo event) (hevent event)

/-- An attempt is notified by `upsertAttempt` only. -/
theorem attemptStatus_of_exec {s : Store} (hc : c.sparesTrip tripId = true)
    (hn : (c.exec s).attemptStatus t d = some .driverNotified) :
    s.attemptStatus t d = some .driverNotified ∨ c = .upsertAttempt t d := by
  by_cases hkeeps : c.keepsAttempts = true
  · rw [Store.attemptStatus, Cmd.exec_attempts hkeeps] at hn
    exact .inl hn
  · cases c with
    | upsertAttempt id x =>
      rw [Cmd.attemptStatus_upsertAttempt] at hn
      split_ifs at hn with htd
      · exact .inr (by rw [htd.1, htd.2])
      · exact .inl hn
    | respondAttempts id x answer =>
      have hstatus : ((Cmd.respondAttempts id x answer).exec s).attemptStatus t d =
          (s.offers.respond id x answer).status t d :=
        congrFun (congrFun (congrArg Offers.status Cmd.offers_respondAttempts) t) d
      rw [hstatus, Offers.respond] at hn
      dsimp only at hn
      split_ifs at hn
      · exact absurd (Option.some.inj hn) (of_decide_eq_true hc).2
      · exact .inl hn
    | rearmAttempt _ _ => cases hc
    | _ => exact absurd rfl hkeeps

theorem Kept.perform (hk : Kept s tripId k) (hc : c.sparesTrip tripId = true)
    (hfree : ∀ t d, c = .upsertAttempt t d → s.lockHolder d ≠ some tripId) :
    Kept s tripId (k.perform c) := by
  refine hk.of_offersOf (Cmd.offersOf_exec hc) (Cmd.now_exec_of_sparesTrip hc)
    (hk.wellKeyed.exec (Cmd.namesJob_of_sparesTrip hc)) (fun t d hn => ?_) fun event hevent => ?_
  · exact (attemptStatus_of_exec hc hn).imp_right (hfree t d)
  · cases c with
    | emit event' =>
      obtain rfl := Option.some.inj hevent
      exact hc
    | _ => cases hevent

/-- A driver's lock is deleted that is not held for the trip. -/
theorem Kept.unlock (hk : Kept s tripId k) (hd : s.lockHolder d ≠ some tripId) :
    Kept s tripId (k.perform (.redisDel (.dispatchLock d))) := by
  have hbefore : k.store.lockHolder d ≠ some tripId := fun h => hd (hk.lockHolder_iff.mp h)
  refine hk.of_offersOf ?_ rfl (hk.wellKeyed.exec rfl) (fun t d hn => .inl hn)
    fun event hevent => by cases hevent
  refine Store.offersOf_setEntry fun x hx => ?_
  obtain rfl := RedisKey.dispatchLock.inj hx
  refine ⟨hbefore, ?_⟩
  rw [Store.lockHolder, Store.get_setEntry, if_pos rfl]
  exact fun h => by cases h

/-- A job of another trip is removed. -/
theorem Kept.removeJob (hk : Kept s tripId k)
    (hjob : ∀ job ∈ k.store.jobs, job.id = jobId → job.tripId ≠ tripId) :
    Kept s tripId (k.perform (.removeJob jobId)) := by
  refine hk.of_offersOf ?_ rfl (hk.wellKeyed.exec rfl) (fun t d hn => .inl hn)
    fun event hevent => by cases hevent
  refine Store.offersOf_eq rfl (fun _ => rfl) (fun _ => rfl) ?_
  rw [Cmd.exec, List.filter_filter]
  refine List.filter_congr fun job hmem => ?_
  by_cases htrip : job.tripId = tripId
  · have hne : job.id ≠ jobId := fun hid => hjob job hmem hid htrip
    simp [htrip, hne]
  · simp [htrip]

/-- A job is named for its trip and driver. -/
theorem Kept.nameJob (hk : Kept s tripId k) (howns : k.store.offers.Owns t d jobId) :
    Kept s tripId
      (k.perform (.redisSet (.dispatchTimeoutJob t d) (.job jobId) seconds)) := by
  refine hk.of_offersOf ?_ rfl (hk.wellKeyed.exec_redisSet howns) (fun t d hn => .inl hn)
    fun event hevent => by cases hevent
  exact Store.offersOf_setEntry fun x hx => by cases hx

end Kept

/-! ### The search -/

section Search

variable {s : Store} {k : Config} {tripId driverId : ℕ} {t d : ℕ}
variable {cond : Config → Cmd → Prop}

theorem maintains_of_only {α : Type} {p : Prog α} (hp : p.Only fun c =>
    c.sparesTrip tripId = true ∧ ∀ t d, c ≠ .upsertAttempt t d) :
    p.Maintains server cond (Kept s tripId) :=
  Async.Only.maintains (fun _ _ hc _ hk => hk.perform hc.1 fun t d h => absurd h (hc.2 t d)) hp

theorem maintains_emit {c : Cmd} (hc : c.sparesTrip tripId = true)
    (hne : ∀ t d, c ≠ .upsertAttempt t d) :
    (Async.emit c : Prog Unit).Maintains server cond (Kept s tripId) :=
  maintains_of_only (Async.only_emit.mpr ⟨hc, hne⟩)

theorem maintains_cancelTimeoutJob (ht : t ≠ tripId) :
    (cancelTimeoutJob t d).Maintains server cond (Kept s tripId) := by
  intro k hk
  rw [cancelTimeoutJob, Async.bind_eq, Async.wlp_query_bind]
  intro _
  have hget : Kept s tripId (k.perform (.redisGet (.dispatchTimeoutJob t d))) :=
    hk.perform rfl fun _ _ h => by cases h
  rw [server_store, server_perform]
  split
  · next jobId hvalue =>
    -- the job that is named is one of the trip `t`
    have hname : k.store.offers.jobKey t d = some jobId := by
      show (k.store.get (.dispatchTimeoutJob t d)).bind RedisValue.job? = _
      rw [hvalue]
      rfl
    have hother : ∀ job ∈ k.store.jobs, job.id = jobId → job.tripId ≠ tripId := by
      intro job hjob hid htrip
      exact ht ((hk.wellKeyed.owner t d jobId hname job hjob hid).1.symm.trans htrip)
    have hdel : ∀ k, Kept s tripId k →
        Kept s tripId (k.perform (.redisDel (.dispatchTimeoutJob t d))) :=
      fun k hk => hk.perform rfl fun _ _ h => by cases h
    rw [cancelDispatchTimeout, Async.bind_eq, Async.bind_eq, Async.bind_assoc, Async.wlp_query_bind]
    intro _
    have hjobs : Kept s tripId ((k.perform (.redisGet (.dispatchTimeoutJob t d))).perform
        (.getJob jobId)) := hget.perform rfl fun _ _ h => by cases h
    rw [server_store, server_perform]
    split
    · next job hfind =>
      have hid : job.id = jobId := by simpa using List.find?_some hfind
      intro _ _
      exact hdel _ (hjobs.removeJob (hid ▸ hother))
    · intro _
      exact hdel _ hjobs
  · exact hget

theorem maintains_releaseLock (ht : t ≠ tripId) (hd : s.lockHolder d ≠ some tripId) :
    (releaseLock t d).Maintains server cond (Kept s tripId) := by
  intro k hk _
  exact maintains_cancelTimeoutJob ht _ (hk.unlock hd)

/-- No driver whose offer of `t` is withdrawn has its lock held for the trip. -/
theorem maintains_releaseLocksForTrip (hresumes : s.Resumes t) (ht : t ≠ tripId) :
    (releaseLocksForTrip t).Maintains server cond (Kept s tripId) := by
  intro k hk
  rw [releaseLocksForTrip, Async.bind_eq, findNotifiedDrivers, Async.wlp_query_bind]
  intro _
  have hfind : Kept s tripId (k.perform (.findAttempts t)) := hk.perform rfl fun _ _ h => by cases h
  refine Async.Maintains.bind (Async.Maintains.forEach fun d hd => ?_) (fun _ => ?_) _ hfind
  · rw [server_store, mem_notifiedDrivers] at hd
    exact maintains_releaseLock ht (hk.apart t d hresumes hd.1)
  · refine maintains_of_only (Async.only_perform.mpr ⟨?_, fun _ _ h => by cases h⟩)
    exact decide_eq_true ⟨ht, DispatchStatus.noConfusion⟩

theorem maintains_notifyCandidate (ht : t ≠ tripId) (config : ServiceDispatchConfig)
    (pickup : Point) (serviceType : ServiceType) (trip : Option (Trip × Option VehicleType))
    (dropoff : Option Point) (driver : NearbyDriver) :
    (notifyCandidate config t pickup serviceType trip dropoff driver).Maintains server cond
      (Kept s tripId) := by
  intro k hk
  rw [notifyCandidate, Async.bind_eq, Async.wlp_query_bind]
  intro _
  have htake : Kept s tripId (k.perform (.redisSetNx (.dispatchLock driver.driverId) (.trip t)
      config.lockTtlSeconds)) := hk.perform (decide_eq_true ht) fun _ _ h => by cases h
  rw [server_store, server_perform]
  split_ifs with hacquired
  · -- the lock was free, so it was not held for the trip
    have hfree : s.lockHolder driver.driverId ≠ some tripId := by
      intro h
      have hheld : k.store.lockHolder driver.driverId = some tripId := hk.lockHolder_iff.mpr h
      rw [Store.lockHolder, Option.isNone_iff_eq_none.mp hacquired] at hheld
      cases hheld
    refine Async.wlp_perform_bind.mpr fun _ => ?_
    have hnotified := htake.perform (c := .upsertAttempt t driver.driverId) (decide_eq_true ht)
      fun _ _ h => (Cmd.upsertAttempt.inj h).2 ▸ hfree
    refine Async.Maintains.bind (maintains_emit rfl (by simp)) (fun _ => ?_) _ hnotified
    refine (maintains_cancelTimeoutJob ht).bind fun _ => ?_
    intro k₁ hk₁ _
    have hqueued := hk₁.perform (c := .addJob t driver.driverId config.dispatchTimeoutMs)
      (decide_eq_true ht) fun _ _ h => by cases h
    refine Async.wlp_perform_bind.mpr fun _ => ?_
    refine Async.Maintains.bind (maintains_emit rfl (by simp)) (fun _ => ?_) _
      (hqueued.nameJob hk₁.wellKeyed.owns_addJob)
    exact Async.maintains_done _
  · exact htake

theorem maintains_notifyCandidates (ht : t ≠ tripId) (config : ServiceDispatchConfig)
    (pickup : Point) (serviceType : ServiceType) (trip : Option (Trip × Option VehicleType))
    (dropoff : Option Point) (drivers : List NearbyDriver) :
    (notifyCandidates config t pickup serviceType trip dropoff drivers).Maintains server cond
      (Kept s tripId) := by
  induction drivers with
  | nil => exact Async.maintains_done _
  | cons driver rest ih =>
    refine (maintains_notifyCandidate ht config pickup serviceType trip dropoff driver).bind
      fun _ => ?_
    exact ih.bind fun _ => Async.maintains_done _

theorem maintains_query {α : Type} {c : Cmd} {f : Store → α} (hc : c.sparesTrip tripId = true)
    (hne : ∀ t d, c ≠ .upsertAttempt t d) :
    (Async.query c f : Prog α).Maintains server cond (Kept s tripId) :=
  maintains_of_only (Async.only_query.mpr ⟨hc, hne⟩)

theorem maintains_emitDispatchFailed (ht : t ≠ tripId) (reason : String) :
    (emitDispatchFailed t reason).Maintains server cond (Kept s tripId) := by
  refine (maintains_emit rfl (by simp)).bind fun _ => ?_
  exact maintains_emit (decide_eq_true ht) (by simp)

theorem maintains_attemptDispatch (ht : t ≠ tripId) (env : DispatchEnv) (pickup : Point)
    (serviceType : ServiceType) (vehicleTypeId : Option ℕ) :
    (attemptDispatch env t pickup serviceType vehicleTypeId).Maintains server cond
      (Kept s tripId) := by
  refine (maintains_query rfl (by simp)).bind fun _ => ?_
  refine (maintains_query rfl (by simp)).bind fun _ => ?_
  refine (maintains_query rfl (by simp)).bind fun config => ?_
  refine (maintains_query rfl (by simp)).bind fun candidates => ?_
  split_ifs
  · exact maintains_emitDispatchFailed ht _
  · refine (maintains_query rfl (by simp)).bind fun trip => ?_
    split_ifs
    · exact Async.maintains_done _
    · have hdropoff : (findDropoff t).Maintains server cond (Kept s tripId) :=
        (maintains_query rfl (by simp)).tryCatch fun _ => Async.maintains_done _
      refine hdropoff.bind fun dropoff => ?_
      refine (maintains_notifyCandidates ht _ _ _ _ _ _).bind fun notified => ?_
      split_ifs
      · exact maintains_emitDispatchFailed ht _
      · exact Async.maintains_done _

/-- The turn of a trip other than the spared one. -/
theorem maintains_recoverTrip (env : DispatchEnv) {trip : Trip}
    (htrip : s.trips.find? trip.id = some trip) (hpending : trip.status = .pending)
    (hspares : s.Spares tripId) :
    (recoverTrip env true s.now trip).Maintains server cond (Kept s tripId) := by
  unfold recoverTrip
  by_cases hyoung : true = true ∧ s.now < trip.createdAt + redispatchMinAgeMs
  · rw [if_pos hyoung]
    exact Async.maintains_done _
  · rw [if_neg hyoung]
    have hage : trip.createdAt + redispatchMinAgeMs ≤ s.now := by
      by_contra hlt
      exact hyoung ⟨rfl, Nat.lt_of_not_le hlt⟩
    have ht : trip.id ≠ tripId := by
      intro hid
      have hlt : s.now < trip.createdAt + redispatchMinAgeMs :=
        hspares.young trip (hid ▸ htrip) hpending
      omega
    refine Async.Maintains.tryCatch ?_ fun _ => Async.maintains_done _
    by_cases hold : trip.createdAt + redispatchMaxAgeMs < s.now
    · rw [if_pos hold]
      exact maintains_emitDispatchFailed ht _
    · rw [if_neg hold]
      have hresumes : s.Resumes trip.id := ⟨trip, htrip, hpending, hage, Nat.le_of_not_lt hold⟩
      refine (maintains_releaseLocksForTrip hresumes ht).bind fun _ => ?_
      refine (maintains_query rfl (by simp)).bind fun pickup => ?_
      split
      · exact maintains_emitDispatchFailed ht _
      · exact maintains_attemptDispatch ht env _ _ _

/-- A sweep that starts in the store `s`. -/
theorem wlp_sweep (env : DispatchEnv) (hspares : s.Spares tripId) {k : Config}
    (hk : Kept s tripId k) (hstore : k.store = s) :
    (DispatchRecoveryService.run env true).wlp server cond (fun _ => Kept s tripId) k := by
  rw [DispatchRecoveryService.run, Async.bind_eq]
  apply Async.wlp_bind
  apply Async.wlp_tryCatch
  intro _
  have hlist : Kept s tripId (k.perform .findPendingTrips) := hk.perform rfl fun _ _ h => by cases h
  rw [server_store, hstore]
  set pending := (s.trips.findMany fun trip => decide (trip.status = .pending)).insertionSort
    fun a b => a.createdAt ≤ b.createdAt with hpending
  show (if pending = [] then pure () else newDate.bind fun now => Async.forEach
    (recoverTrip env true now) pending : Prog Unit).wlp server cond (fun _ => Kept s tripId) _
  split_ifs
  · exact hlist
  · refine Async.wlp_read_bind.mpr fun _ => ?_
    have hnow : (server.store (server.perform .findPendingTrips k)).now = s.now := hlist.now
    rw [hnow]
    refine Async.Maintains.forEach (fun trip hmem => ?_) _ (hlist.perform (c := .date) rfl
      fun _ _ h => by cases h)
    rw [hpending, List.mem_insertionSort] at hmem
    obtain ⟨hrow, hstatus⟩ := List.mem_filter.mp hmem
    exact maintains_recoverTrip env (Table.find?_of_mem hrow) (of_decide_eq_true hstatus) hspares

end Search

/-! ### The handlers -/

theorem maintains_handleDispatchFailed {s : Store} {cond : Config → Cmd → Prop} {t tripId : ℕ}
    (ht : t ≠ tripId) (reason : String) :
    (handleDispatchFailed t reason).Maintains server cond (Kept s tripId) := by
  refine maintains_of_only (Async.Only.bind ?_ fun _ => Async.Only.bind ?_ fun trip => ?_)
  · refine Async.only_read_bind.mpr ⟨?_, fun now => Async.only_perform.mpr ?_⟩
    · exact ⟨rfl, by simp⟩
    · exact ⟨decide_eq_true ht, by simp⟩
  · refine Async.only_query_bind.mpr ⟨?_, fun s => ?_⟩
    · exact ⟨rfl, by simp⟩
    · split
      · trivial
      · refine Async.only_perform_bind.mpr ⟨?_, fun _ => trivial⟩
        exact ⟨rfl, by simp⟩
  · split
    · refine Async.only_emit.mpr ?_
      exact ⟨rfl, by simp⟩
    · trivial

/-- The events of a sweep do not concern the trip. -/
theorem maintains_handleEvent (env : Env) {s : Store} {cond : Config → Cmd → Prop} {tripId : ℕ}
    {event : DomainEvent} (hevent : (Cmd.emit event).sparesTrip tripId = true) :
    (handleEvent env event).Maintains server cond (Kept s tripId) := by
  refine Async.Maintains.forEach fun handler hhandler => ?_
  refine Async.Maintains.tryCatch ?_ fun _ => Async.maintains_done _
  cases event with
  | driverNotified _ _ _ _ => cases hhandler
  | dispatchFailed t reason =>
    obtain rfl := List.mem_singleton.mp hhandler
    exact maintains_handleDispatchFailed (of_decide_eq_true hevent) reason
  | _ => cases hevent

end Sweeps

open Sweeps in
/-- In every interleaved run, a sweep and its handlers leave the offers of a trip as they are when
the trip is younger than `REDISPATCH_MIN_AGE_MS` and no trip that is searched for again has an open
offer to a driver whose lock is held for it. -/
theorem sweep_spares (env : Env) (pricing : PricingEnv) {s : Store} (hs : s.Fresh)
    (ops : List Operation) (fault : Error → Prop) {p : Pool Store Cmd Error Unit}
    (hp : Pool.Run (system env ()) (fun _ _ _ => True) fault
      (Pool.init s (ops.map (·.program env pricing))) p) {tripId : ℕ}
    (hspares : p.world.store.Spares tripId) {k : Config}
    (hk : Relation.ReflTransGen (Config.Handles env)
      (((Operation.recovery true).program env pricing).play server ⟨p.world.store, [], []⟩).2 k) :
    k.store.offersOf tripId = p.world.store.offersOf tripId := by
  have hstart : Kept p.world.store tripId ⟨p.world.store, [], []⟩ :=
    ⟨rfl, rfl, wellKeyed_of_run env pricing hs.wellKeyed ops fault hp, hspares.apart,
      fun event hevent => absurd hevent List.not_mem_nil⟩
  have hkept : Kept p.world.store tripId k := by
    refine Config.Handles.of_wlp hk (wlp_sweep env.dispatch hspares hstart rfl)
      fun k event todo htodo hk => ?_
    have hevent : (Cmd.emit event).sparesTrip tripId = true :=
      hk.todo event (htodo ▸ List.mem_cons_self)
    refine maintains_handleEvent env hevent _ { hk with todo := fun event' hmem => ?_ }
    exact hk.todo event' (htodo ▸ List.mem_cons_of_mem event hmem)
  exact hkept.offers

/-! ### Runs -/

namespace Sweeps

/-- The only driver near is offered the trip, refuses it after 50 seconds, refuses it again after 100
seconds, and considers it for the third time. -/
def refusedTwice : List Operation :=
  [.order 1 1, .wait 50000, .wsDecline 1 1, .wait 50000, .wsDecline 1 1, .wait 25000]

/-- A sweep after the store `s`, with all its handlers. -/
def swept? (s : Store) : Option Config :=
  Config.settle? .town (fun _ _ => True) 100
    (((Operation.recovery true).program .town .town).play server ⟨s, [], []⟩).2

end Sweeps

open Sweeps in
/-- The first offer of the trip is 50 seconds old. -/
theorem sweep_spares_town : ∃ p : Pool Store Cmd Error Unit,
    p.world.store.attemptStatus 1 1 = some .driverNotified ∧
    (((Operation.recovery true).program .town .town).play server
      ⟨p.world.store, [], []⟩).2.store.offersOf 1 = p.world.store.offersOf 1 := by
  obtain ⟨p, hp, hnotified, hyoung⟩ := Pool.exists_run_of_schedule? (system .town ())
    (fun _ _ _ => True) (fun _ => False)
    (Pool.init .town (refusedTwice.map (·.program .town .town)))
    (List.replicate 6 0 ++ List.replicate 13 6 ++ [1])
    (fun p => p.world.store.attemptStatus 1 1 = some .driverNotified ∧
      ∀ trip ∈ p.world.store.trips.rows,
        p.world.store.now < trip.createdAt + redispatchMinAgeMs) (by decide +kernel)
  exact ⟨p, hnotified, sweep_spares .town .town Store.fresh_town refusedTwice _ hp
    (Store.spares_of_young hyoung) .refl⟩

open Sweeps in
/-- The third offer of the trip is 25 seconds old, and the driver has a minute to answer it: a sweep
cancels the trip. -/
theorem sweep_cancels_offered :
    ∃ p, Pool.Run (system .town ()) (fun _ _ _ => True) (fun _ => False)
        (Pool.init .town (refusedTwice.map (·.program .town .town))) p ∧
      (∀ serviceType s,
        (Env.town.dispatch.getDispatchConfig serviceType s).dispatchTimeoutMs = 60000) ∧
      (∃ attempt, p.world.store.attempts.find? (1, 1) = some attempt ∧
        attempt.status = .driverNotified ∧ p.world.store.now < attempt.notifiedAt + 60000) ∧
      ∃ k, Config.Completes .town .town (.recovery true) ⟨p.world.store, [], []⟩ k ∧
        k.store.offersOf 1 ≠ p.world.store.offersOf 1 := by
  obtain ⟨p, hp, hoffer, hpending, hswept⟩ := Pool.exists_run_of_schedule? (system .town ())
    (fun _ _ _ => True) (fun _ => False)
    (Pool.init .town (refusedTwice.map (·.program .town .town)))
    (List.replicate 6 0 ++ List.replicate 13 6 ++ [1] ++ List.replicate 24 2 ++ [3] ++
      List.replicate 24 4 ++ [5])
    (fun p => (∃ attempt ∈ p.world.store.attempts.find? (1, 1),
        attempt.status = .driverNotified ∧ p.world.store.now < attempt.notifiedAt + 60000) ∧
      p.world.store.tripStatus 1 = some .pending ∧
      ∃ k ∈ swept? p.world.store, k.store.tripStatus 1 = some .cancelledAuto) (by decide +kernel)
  obtain ⟨k, hk, hcancelled⟩ := hswept
  refine ⟨p, hp, fun _ _ => rfl, hoffer, k, Config.completes_of_settle? hk, fun hsame => ?_⟩
  have hstatus : k.store.tripStatus 1 = p.world.store.tripStatus 1 :=
    congrArg TripOffers.status hsame
  rw [hcancelled, hpending] at hstatus
  cases hstatus

end Telima
