import Telima.Async.Run
import Telima.Dispatch.Service

/-!
# What accepting and withdrawing offers touches

Accepting, declining and withdrawing the offers of a trip reads and writes the attempts, Redis and
the timeout queue.  None of it reads or writes a trip, a payment or a balance, and none of it
throws.
-/

namespace Telima

/-- The status of the driver's attempt. -/
def Store.attemptStatus (s : Store) (tripId driverId : ℕ) : Option DispatchStatus :=
  (s.attempts.find? (tripId, driverId)).map DispatchAttempt.status

/-- The command reads or answers offers, or is synchronous and starts at most `DriverAssigned`. -/
def Cmd.touchesOffers : Cmd → Bool
  | .findDriver _ | .findActiveAttempt _ _ | .findAttempts _ | .respondAttempts _ _ _
  | .redisGet _ | .redisDel _ | .getJob _ | .removeJob _
  | .date | .emit (.driverAssigned _ _) => true
  | .broadcast _ _ payload => !payload.isRequest
  | _ => false

/-- The trip the command offers to a driver: it sets an attempt to `driver_notified`, or sends
`trip:new_request`. -/
def Cmd.offered? : Cmd → Option ℕ
  | .upsertAttempt tripId _ | .rearmAttempt tripId _ => some tripId
  | .broadcast _ _ (.newRequest tripId ..) => some tripId
  | _ => none

/-- The command withdraws the timeout job of an offer. -/
def Cmd.cancelsJob (tripId driverId : ℕ) : Cmd → Bool
  | .redisGet key | .redisDel key => decide (key = .dispatchTimeoutJob tripId driverId)
  | .getJob _ | .removeJob _ => true
  | _ => false

/-- The command withdraws a timeout job. -/
def Cmd.withdrawsJob : Cmd → Bool
  | .redisGet _ | .redisDel _ | .getJob _ | .removeJob _ => true
  | _ => false

/-- The key is one of the dispatch. -/
def RedisKey.isDispatch : RedisKey → Bool
  | .idempotency _ => false
  | _ => true

/-- The command is one of the search for a driver of the trip: it asks who is near, offers the trip,
withdraws an offer, or gives the search up. -/
def Cmd.searches (tripId : ℕ) : Cmd → Bool
  | .findTrip id | .findTripCoordinates id | .findAttempts id | .upsertAttempt id _
  | .addJob id _ _ => decide (id = tripId)
  | .respondAttempts id _ status => decide (id = tripId) && decide (status ≠ .driverAccepted)
  | .redisDel (.dispatchRounds id) => decide (id = tripId)
  | .redisGet key | .redisDel key => key.isDispatch
  | .redisIncr key | .redisExpire key _ => decide (key = .dispatchRounds tripId)
  | .redisSet (.dispatchTimeoutJob id _) (.job _) _ => decide (id = tripId)
  | .redisSetNx (.dispatchLock _) (.trip id) _ => decide (id = tripId)
  | .getJob _ | .removeJob _ | .external => true
  | .broadcast (.driver _) .tripNewRequest (.newRequest id ..) => decide (id = tripId)
  | .emit (.driverNotified id _ _ _) | .emit (.dispatchFailed id _) => decide (id = tripId)
  | _ => false

/-- The command is one of the search, and no answer of a driver. -/
def Cmd.redispatches (tripId : ℕ) : Cmd → Bool
  | .respondAttempts _ (some _) _ => false
  | c => c.searches tripId

namespace Cmd

variable {c : Cmd}

theorem withdrawsJob_of_cancelsJob {tripId driverId : ℕ} (h : c.cancelsJob tripId driverId = true) :
    c.withdrawsJob = true := by
  cases c <;> first | rfl | simp [cancelsJob] at h

theorem redispatches_of_cancelsJob {tripId driverId : ℕ}
    (h : c.cancelsJob tripId driverId = true) : c.redispatches tripId = true := by
  unfold cancelsJob at h
  split at h
  · obtain rfl := of_decide_eq_true h
    rfl
  · obtain rfl := of_decide_eq_true h
    rfl
  · rfl
  · rfl
  · cases h

theorem searches_of_redispatches {tripId : ℕ} (h : c.redispatches tripId = true) :
    c.searches tripId = true := by
  unfold redispatches at h
  split at h
  · cases h
  · exact h

theorem searches_respondAttempts {tripId : ℕ} {driverId : Option ℕ} {status : DispatchStatus}
    (h : status ≠ .driverAccepted) :
    (respondAttempts tripId driverId status).searches tripId = true :=
  Bool.and_eq_true_iff.mpr ⟨decide_eq_true rfl, decide_eq_true h⟩

theorem redispatches_respondAttempts {tripId : ℕ} {status : DispatchStatus}
    (h : status ≠ .driverAccepted) :
    (respondAttempts tripId none status).redispatches tripId = true :=
  @searches_respondAttempts tripId none status h

theorem keepsTrips_of_searches {tripId : ℕ} (h : c.searches tripId = true) :
    c.keepsTrips = true := by
  cases c <;> first | rfl | simp [searches] at h

theorem touchesOffers_of_withdrawsJob (h : c.withdrawsJob = true) : c.touchesOffers = true := by
  cases c <;> first | rfl | simp [withdrawsJob] at h

theorem keepsTrips_of_touchesOffers (h : c.touchesOffers = true) : c.keepsTrips = true := by
  cases c <;> first | rfl | simp [touchesOffers] at h

theorem keepsPayments_of_touchesOffers (h : c.touchesOffers = true) : c.keepsPayments = true := by
  cases c <;> first | rfl | simp [touchesOffers] at h

end Cmd

namespace DispatchService

/-- The program touches offers only. -/
abbrev OnlyOffers {α : Type} (p : Prog α) : Prop := p.Only fun c => c.touchesOffers = true

theorem cancelsJob_cancelTimeoutJob (tripId driverId : ℕ) :
    (cancelTimeoutJob tripId driverId).Only fun c => c.cancelsJob tripId driverId = true := by
  have hdispatch : ∀ jobId, (cancelDispatchTimeout jobId).Only fun c =>
      c.cancelsJob tripId driverId = true := by
    intro jobId
    refine Async.only_query_bind.mpr ⟨rfl, fun s => ?_⟩
    cases s.jobs.find? fun job => decide (job.id = jobId) with
    | none => trivial
    | some job => exact Async.only_perform.mpr rfl
  have hkey : decide (RedisKey.dispatchTimeoutJob tripId driverId =
      .dispatchTimeoutJob tripId driverId) = true := decide_eq_true rfl
  refine Async.only_query_bind.mpr ⟨hkey, fun s => ?_⟩
  split
  · exact (hdispatch _).bind fun _ => Async.only_perform.mpr hkey
  · trivial

theorem withdrawsJob_cancelTimeoutJob (tripId driverId : ℕ) :
    (cancelTimeoutJob tripId driverId).Only fun c => c.withdrawsJob = true :=
  (cancelsJob_cancelTimeoutJob tripId driverId).mono fun _ hc =>
    Cmd.withdrawsJob_of_cancelsJob hc

theorem onlyOffers_cancelTimeoutJob (tripId driverId : ℕ) :
    OnlyOffers (cancelTimeoutJob tripId driverId) :=
  (withdrawsJob_cancelTimeoutJob tripId driverId).mono fun _ hc =>
    Cmd.touchesOffers_of_withdrawsJob hc

theorem onlyOffers_releaseOther (tripId driverId : ℕ) : OnlyOffers (releaseOther tripId driverId) := by
  refine Async.only_perform_bind.mpr ⟨rfl, fun _ => ?_⟩
  exact (onlyOffers_cancelTimeoutJob _ _).bind fun _ => Async.only_perform.mpr rfl

theorem onlyOffers_handleDriverAccept (tripId driverId : ℕ) :
    OnlyOffers (handleDriverAccept tripId driverId) := by
  refine Async.only_query_bind.mpr ⟨rfl, fun s => ?_⟩
  split
  · split_ifs
    · trivial
    · refine Async.only_perform_bind.mpr ⟨rfl, fun _ => ?_⟩
      refine (onlyOffers_cancelTimeoutJob _ _).bind fun _ => ?_
      refine Async.only_query_bind.mpr ⟨rfl, fun s => ?_⟩
      refine (Async.Only.forEach fun d _ => onlyOffers_releaseOther tripId d).bind fun _ => ?_
      refine Async.only_perform_bind.mpr ⟨rfl, fun _ => ?_⟩
      refine Async.only_perform_bind.mpr ⟨rfl, fun _ => ?_⟩
      exact Async.only_emit.mpr rfl
  · trivial

theorem onlyOffers_releaseLock (tripId driverId : ℕ) : OnlyOffers (releaseLock tripId driverId) :=
  Async.only_perform_bind.mpr ⟨rfl, fun _ => onlyOffers_cancelTimeoutJob tripId driverId⟩

theorem onlyOffers_releaseLocksForTrip (tripId : ℕ) : OnlyOffers (releaseLocksForTrip tripId) := by
  refine Async.only_query_bind.mpr ⟨rfl, fun s => ?_⟩
  refine (Async.Only.forEach fun d _ => onlyOffers_releaseLock tripId d).bind fun _ => ?_
  exact Async.only_perform.mpr rfl

/-! ### The search -/

/-- The program only searches a driver for the trip. -/
abbrev OnlySearches {α : Type} (tripId : ℕ) (p : Prog α) : Prop :=
  p.Only fun c => c.searches tripId = true

/-- The program searches a driver for the trip, and answers for none. -/
abbrev OnlyRedispatches {α : Type} (tripId : ℕ) (p : Prog α) : Prop :=
  p.Only fun c => c.redispatches tripId = true

theorem OnlyRedispatches.searches {α : Type} {tripId : ℕ} {p : Prog α}
    (h : OnlyRedispatches tripId p) : OnlySearches tripId p :=
  h.mono fun _ hc => Cmd.searches_of_redispatches hc

theorem onlyRedispatches_cancelTimeoutJob (tripId driverId : ℕ) :
    OnlyRedispatches tripId (cancelTimeoutJob tripId driverId) :=
  (cancelsJob_cancelTimeoutJob tripId driverId).mono fun _ hc => Cmd.redispatches_of_cancelsJob hc

theorem onlyRedispatches_releaseLock (tripId driverId : ℕ) :
    OnlyRedispatches tripId (releaseLock tripId driverId) :=
  Async.only_perform_bind.mpr ⟨rfl, fun _ => onlyRedispatches_cancelTimeoutJob tripId driverId⟩

theorem onlyRedispatches_releaseLocksForTrip (tripId : ℕ) :
    OnlyRedispatches tripId (releaseLocksForTrip tripId) := by
  refine Async.only_query_bind.mpr ⟨decide_eq_true rfl, fun s => ?_⟩
  refine (Async.Only.forEach fun d _ => onlyRedispatches_releaseLock tripId d).bind fun _ => ?_
  exact Async.only_perform.mpr (Cmd.redispatches_respondAttempts fun h => by cases h)

theorem onlyRedispatches_emitDispatchFailed (tripId : ℕ) (reason : String) :
    OnlyRedispatches tripId (emitDispatchFailed tripId reason) := by
  refine Async.only_emit_bind.mpr ⟨decide_eq_true rfl, fun _ => ?_⟩
  exact Async.only_emit.mpr (decide_eq_true rfl)

theorem onlyRedispatches_notifyCandidate (config : ServiceDispatchConfig) (tripId : ℕ)
    (pickup : Point) (serviceType : ServiceType) (trip : Option (Trip × Option VehicleType))
    (dropoff : Option Point) (driver : NearbyDriver) :
    OnlyRedispatches tripId
      (notifyCandidate config tripId pickup serviceType trip dropoff driver) := by
  refine Async.only_query_bind.mpr ⟨decide_eq_true rfl, fun s => ?_⟩
  split_ifs
  · refine Async.only_perform_bind.mpr ⟨decide_eq_true rfl, fun _ => ?_⟩
    refine Async.only_emit_bind.mpr ⟨decide_eq_true rfl, fun _ => ?_⟩
    refine (onlyRedispatches_cancelTimeoutJob tripId driver.driverId).bind fun _ => ?_
    refine Async.only_query_bind.mpr ⟨decide_eq_true rfl, fun s => ?_⟩
    refine Async.only_perform_bind.mpr ⟨decide_eq_true rfl, fun _ => ?_⟩
    exact Async.only_emit_bind.mpr ⟨decide_eq_true rfl, fun _ => trivial⟩
  · trivial

theorem onlyRedispatches_notifyCandidates (config : ServiceDispatchConfig) (tripId : ℕ)
    (pickup : Point) (serviceType : ServiceType) (trip : Option (Trip × Option VehicleType))
    (dropoff : Option Point) (drivers : List NearbyDriver) :
    OnlyRedispatches tripId
      (notifyCandidates config tripId pickup serviceType trip dropoff drivers) := by
  induction drivers with
  | nil => trivial
  | cons driver drivers ih =>
    refine (onlyRedispatches_notifyCandidate _ _ _ _ _ _ driver).bind fun _ => ?_
    exact ih.bind fun _ => trivial

theorem onlyRedispatches_attemptDispatch (env : DispatchEnv) (tripId : ℕ) (pickup : Point)
    (serviceType : ServiceType) (vehicleTypeId : Option ℕ) :
    OnlyRedispatches tripId (attemptDispatch env tripId pickup serviceType vehicleTypeId) := by
  refine Async.only_perform_bind.mpr ⟨decide_eq_true rfl, fun _ => ?_⟩
  refine Async.only_perform_bind.mpr ⟨decide_eq_true rfl, fun _ => ?_⟩
  refine Async.only_query_bind.mpr ⟨rfl, fun _ => ?_⟩
  refine Async.only_query_bind.mpr ⟨rfl, fun _ => ?_⟩
  split_ifs
  · exact onlyRedispatches_emitDispatchFailed _ _
  · refine Async.only_query_bind.mpr ⟨decide_eq_true rfl, fun _ => ?_⟩
    split_ifs
    · trivial
    · have hdropoff : OnlyRedispatches tripId (findDropoff tripId) :=
        Async.Only.tryCatch (Async.only_query.mpr (decide_eq_true rfl)) fun _ => trivial
      refine hdropoff.bind fun dropoff => ?_
      refine (onlyRedispatches_notifyCandidates _ _ _ _ _ _ _).bind fun notified => ?_
      split_ifs
      · exact onlyRedispatches_emitDispatchFailed _ _
      · trivial

theorem onlySearches_checkAndRetryDispatch (env : DispatchEnv) (tripId : ℕ) :
    OnlySearches tripId (checkAndRetryDispatch env tripId) := by
  refine Async.only_query_bind.mpr ⟨decide_eq_true rfl, fun _ => ?_⟩
  split
  · trivial
  · refine Async.only_query_bind.mpr ⟨decide_eq_true rfl, fun _ => ?_⟩
    split_ifs
    · refine Async.only_query_bind.mpr ⟨rfl, fun _ => ?_⟩
      refine Async.only_query_bind.mpr ⟨rfl, fun _ => ?_⟩
      split_ifs
      · exact (onlyRedispatches_emitDispatchFailed _ _).searches
      · refine Async.only_query_bind.mpr ⟨decide_eq_true rfl, fun _ => ?_⟩
        exact (onlyRedispatches_attemptDispatch _ _ _ _ _).searches
    · trivial

theorem onlySearches_handleDriverDeclineAndRetry (env : DispatchEnv) (tripId driverId : ℕ) :
    OnlySearches tripId (handleDriverDeclineAndRetry env tripId driverId) := by
  refine Async.Only.bind ?_ fun _ => onlySearches_checkAndRetryDispatch env tripId
  refine Async.only_perform_bind.mpr ⟨Cmd.searches_respondAttempts nofun, fun _ => ?_⟩
  refine Async.only_perform_bind.mpr ⟨rfl, fun _ => ?_⟩
  exact (onlyRedispatches_cancelTimeoutJob _ _).searches

theorem onlySearches_handleDriverTimeout (env : DispatchEnv) (tripId driverId : ℕ) :
    OnlySearches tripId (handleDriverTimeout env tripId driverId) := by
  refine Async.only_perform_bind.mpr ⟨Cmd.searches_respondAttempts nofun, fun _ => ?_⟩
  refine Async.only_perform_bind.mpr ⟨rfl, fun _ => ?_⟩
  refine Async.only_perform_bind.mpr ⟨rfl, fun _ => ?_⟩
  exact onlySearches_checkAndRetryDispatch env tripId

theorem returns_cancelDispatchTimeout (jobId : ℕ) : (cancelDispatchTimeout jobId).Returns := by
  refine Async.returns_query_bind.mpr fun s => ?_
  cases s.jobs.find? fun job => decide (job.id = jobId) with
  | none => exact Async.returns_done_ok ()
  | some job => exact Async.returns_perform _

theorem returns_cancelTimeoutJob (tripId driverId : ℕ) :
    (cancelTimeoutJob tripId driverId).Returns := by
  refine Async.returns_query_bind.mpr fun s => ?_
  split
  · exact (returns_cancelDispatchTimeout _).bind fun _ => Async.returns_perform _
  · exact Async.returns_done_ok ()

theorem returns_releaseOther (tripId driverId : ℕ) : (releaseOther tripId driverId).Returns := by
  refine Async.returns_perform_bind.mpr fun _ => ?_
  exact (returns_cancelTimeoutJob _ _).bind fun _ => Async.returns_perform _

theorem returns_handleDriverAccept (tripId driverId : ℕ) :
    (handleDriverAccept tripId driverId).Returns := by
  refine Async.returns_query_bind.mpr fun s => ?_
  split
  · split_ifs
    · exact Async.returns_done_ok ()
    · refine Async.returns_perform_bind.mpr fun _ => ?_
      refine (returns_cancelTimeoutJob _ _).bind fun _ => ?_
      refine Async.returns_query_bind.mpr fun s => ?_
      refine (Async.Returns.forEach fun d => returns_releaseOther tripId d).bind fun _ => ?_
      refine Async.returns_perform_bind.mpr fun _ => ?_
      refine Async.returns_perform_bind.mpr fun _ => ?_
      exact Async.returns_emit _
  · exact Async.returns_done_ok ()

theorem returns_releaseLocksForTrip (tripId : ℕ) : (releaseLocksForTrip tripId).Returns := by
  refine Async.returns_query_bind.mpr fun s => ?_
  refine (Async.Returns.forEach fun d => ?_).bind fun _ => Async.returns_perform _
  exact Async.returns_perform_bind.mpr fun _ => returns_cancelTimeoutJob tripId d

end DispatchService

end Telima
