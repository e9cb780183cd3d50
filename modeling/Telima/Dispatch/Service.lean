import Mathlib.Data.List.MinMax
import Telima.Commissions.Service

/-!
# `DispatchService`

What the candidate search and the configuration of a service return is a parameter
(`DispatchEnv`): any list of candidates and any configuration, which may change between two calls.
-/

namespace Telima

/-- A driver `GeolocationService.findNearbyDrivers` returns. -/
structure NearbyDriver where
  driverId : ℕ
  distanceMeters : ℤ
  vehicleTypeId : ℕ
  deriving DecidableEq, Repr

structure ServiceDispatchConfig where
  dispatchRadiusMeters : ℕ
  maxDispatchAttempts : ℕ
  lockTtlSeconds : ℕ
  dispatchTimeoutMs : ℕ
  deriving DecidableEq, Repr

/-- `DEFAULT_CONFIG` -/
def defaultConfig : ServiceDispatchConfig where
  dispatchRadiusMeters := 5000
  maxDispatchAttempts := 3
  lockTtlSeconds := 75
  dispatchTimeoutMs := 60000

/-- The searches the dispatch rests on. -/
structure DispatchEnv where
  getDispatchConfig : ServiceType → Store → ServiceDispatchConfig
  findNearbyDrivers : (pickup : Point) → (radiusMeters : ℕ) → ServiceType →
    (vehicleTypeId : Option ℕ) → Store → List NearbyDriver

namespace DispatchService

def emitDispatchFailed (tripId : ℕ) (reason : String) : Prog Unit := do
  -- `void this.redis.del(..)`: not awaited
  Async.emit (.redisDel (.dispatchRounds tripId))
  Async.emit (.emit (.dispatchFailed tripId reason))

/-- `queue.cancelDispatchTimeout` -/
def cancelDispatchTimeout (jobId : ℕ) : Prog Unit := do
  let job ← Async.query (.getJob jobId) fun s => s.jobs.find? fun job => decide (job.id = jobId)
  match job with
  | some job => Async.perform (.removeJob job.id)
  | none => pure ()

def cancelTimeoutJob (tripId driverId : ℕ) : Prog Unit := do
  let key := RedisKey.dispatchTimeoutJob tripId driverId
  match ← Async.query (.redisGet key) fun s => s.get key with
  | some (.job jobId) => do
    cancelDispatchTimeout jobId
    Async.perform (.redisDel key)
  | _ => pure ()

/-- The trip's attempts that are `driver_notified`, but for the driver `except`. -/
def findNotifiedDrivers (tripId : ℕ) (except : Option ℕ) : Prog (List ℕ) :=
  Async.query (.findAttempts tripId) fun s =>
    (s.attempts.findMany fun a =>
      decide (a.tripId = tripId) && decide (a.status = .driverNotified) &&
        except.all fun d => decide (a.driverId ≠ d)).map DispatchAttempt.driverId

/-- `updateMany` of the attempts that are `driver_notified`. -/
def respondAttempts (tripId : ℕ) (driverId : Option ℕ) (status : DispatchStatus) : Prog Unit :=
  Async.perform (.respondAttempts tripId driverId status)

/-- What the dispatch reads of a trip: the trip and its vehicle type. -/
def findTripForRequest (tripId : ℕ) : Prog (Option (Trip × Option VehicleType)) :=
  CommissionsService.findTripWithVehicleType tripId

/-- Notify one candidate; the answer is whether it was free. -/
def notifyCandidate (config : ServiceDispatchConfig) (tripId : ℕ) (pickup : Point)
    (serviceType : ServiceType) (trip : Option (Trip × Option VehicleType))
    (dropoff : Option Point) (driver : NearbyDriver) : Prog Bool := do
  let lockKey := RedisKey.dispatchLock driver.driverId
  let acquired ← Async.query (.redisSetNx lockKey (.trip tripId) config.lockTtlSeconds) fun s =>
    (s.get lockKey).isNone
  if acquired then do
    let estimatedPrice := ((trip.bind fun t => t.1.estimatedPrice).map Decimal2.toNumber).getD 0
    let percentage :=
      ((trip.bind Prod.snd).map fun v => v.commissionPercentage.toNumber).getD 0
    let commission := mathRound (estimatedPrice * percentage / 100)
    Async.perform (.upsertAttempt tripId driver.driverId)
    Async.emit (.broadcast (.driver driver.driverId) .tripNewRequest
      (.newRequest tripId serviceType pickup dropoff estimatedPrice commission
        ((trip.bind fun t => t.1.distanceMeters).getD 0) driver.distanceMeters
        ((trip.bind fun t => t.1.durationSeconds).getD 0) driver.vehicleTypeId))
    cancelTimeoutJob tripId driver.driverId
    let timeoutJobId ← Async.query (.addJob tripId driver.driverId config.dispatchTimeoutMs)
      fun s => s.jobCount + 1
    Async.perform (.redisSet (.dispatchTimeoutJob tripId driver.driverId) (.job timeoutJobId)
      ((config.dispatchTimeoutMs + 999) / 1000 + 30))
    Async.emit (.emit (.driverNotified tripId driver.driverId serviceType estimatedPrice))
    pure true
  else pure false

/-- The loop over the candidates; the answer is how many were notified. -/
def notifyCandidates (config : ServiceDispatchConfig) (tripId : ℕ) (pickup : Point)
    (serviceType : ServiceType) (trip : Option (Trip × Option VehicleType))
    (dropoff : Option Point) : List NearbyDriver → Prog ℕ
  | [] => pure 0
  | driver :: rest => do
    let notified ← notifyCandidate config tripId pickup serviceType trip dropoff driver
    let others ← notifyCandidates config tripId pickup serviceType trip dropoff rest
    pure (others + notified.toNat)

/-- The dropoff coordinates, for the driver's map; a failure leaves them out. -/
def findDropoff (tripId : ℕ) : Prog (Option Point) :=
  Async.tryCatch
    (Async.query (.findTripCoordinates tripId) fun s =>
      (s.trips.find? tripId).map Trip.dropoffLocation)
    fun _ => pure none

def attemptDispatch (env : DispatchEnv) (tripId : ℕ) (pickup : Point) (serviceType : ServiceType)
    (vehicleTypeId : Option ℕ) : Prog Unit := do
  let roundsKey := RedisKey.dispatchRounds tripId
  Async.perform (.redisIncr roundsKey)
  Async.perform (.redisExpire roundsKey 3600)
  let config ← Async.query .external (env.getDispatchConfig serviceType)
  let candidates ← Async.query .external
    (env.findNearbyDrivers pickup config.dispatchRadiusMeters serviceType vehicleTypeId)
  if candidates = [] then emitDispatchFailed tripId "no_drivers_available"
  else do
    let trip ← findTripForRequest tripId
    -- `trip.vehicleType.commissionPercentage` of a row without its vehicle type
    if trip.any fun t => t.2.isNone then Async.throw .typeError
    else do
      let dropoff ← findDropoff tripId
      let notified ← notifyCandidates config tripId pickup serviceType trip dropoff
        (candidates.take config.maxDispatchAttempts)
      if notified = 0 then emitDispatchFailed tripId "all_drivers_busy" else pure ()

/-- The handler of `TripCreated`. -/
def handleTripCreated (env : DispatchEnv) (tripId : ℕ) (pickup : Point)
    (serviceType : ServiceType) (vehicleTypeId : ℕ) : Prog Unit :=
  attemptDispatch env tripId pickup serviceType (some vehicleTypeId)

def checkAndRetryDispatch (env : DispatchEnv) (tripId : ℕ) : Prog Unit := do
  let trip ← Async.query (.findTrip tripId) fun s => s.trips.find? tripId
  match trip.filter fun t => t.status = .pending with
  | none => pure ()
  | some trip => do
    let remainingAttempts ← findNotifiedDrivers tripId none
    if remainingAttempts = [] then do
      let rounds ← Async.query (.redisGet (.dispatchRounds tripId)) fun s =>
        s.get (.dispatchRounds tripId)
      let roundsSoFar := match rounds with
        | some (.count n) => n
        | _ => 0
      let config ← Async.query .external (env.getDispatchConfig trip.serviceType)
      if config.maxDispatchAttempts ≤ roundsSoFar then
        emitDispatchFailed tripId "max_attempts_reached"
      else do
        let pickup ← Async.query (.findTripCoordinates tripId) fun s =>
          (s.trips.find? tripId).map Trip.pickupLocation
        attemptDispatch env tripId (pickup.getD ⟨0, 0⟩) trip.serviceType (some trip.vehicleTypeId)
    else pure ()

def handleDriverTimeout (env : DispatchEnv) (tripId driverId : ℕ) : Prog Unit := do
  respondAttempts tripId (some driverId) .timedOut
  Async.perform (.redisDel (.dispatchLock driverId))
  Async.perform (.redisDel (.dispatchTimeoutJob tripId driverId))
  checkAndRetryDispatch env tripId

def handleDriverDecline (tripId driverId : ℕ) : Prog Unit := do
  respondAttempts tripId (some driverId) .driverDeclined
  Async.perform (.redisDel (.dispatchLock driverId))
  cancelTimeoutJob tripId driverId

def handleDriverDeclineAndRetry (env : DispatchEnv) (tripId driverId : ℕ) : Prog Unit := do
  handleDriverDecline tripId driverId
  checkAndRetryDispatch env tripId

/-- Withdraw the offer of another driver of an accepted trip. -/
def releaseOther (tripId driverId : ℕ) : Prog Unit := do
  Async.perform (.redisDel (.dispatchLock driverId))
  cancelTimeoutJob tripId driverId
  respondAttempts tripId (some driverId) .driverDeclined

def handleDriverAccept (tripId driverId : ℕ) : Prog Unit := do
  let lockKey := RedisKey.dispatchLock driverId
  match ← Async.query (.redisGet lockKey) fun s => s.get lockKey with
  | some (.trip lockValue) =>
    if lockValue ≠ tripId then pure ()
    else do
      respondAttempts tripId (some driverId) .driverAccepted
      cancelTimeoutJob tripId driverId
      let otherLocks ← findNotifiedDrivers tripId (some driverId)
      Async.forEach (releaseOther tripId) otherLocks
      Async.perform (.redisDel lockKey)
      Async.perform (.redisDel (.dispatchRounds tripId))
      Async.emit (.emit (.driverAssigned tripId driverId))
  | _ => pure ()

/-- Withdraw the offer of a driver of a trip that is over. -/
def releaseLock (tripId driverId : ℕ) : Prog Unit := do
  Async.perform (.redisDel (.dispatchLock driverId))
  cancelTimeoutJob tripId driverId

def releaseLocksForTrip (tripId : ℕ) : Prog Unit := do
  let attempts ← findNotifiedDrivers tripId none
  Async.forEach (releaseLock tripId) attempts
  respondAttempts tripId none .timedOut

/-- `failTrip` -/
def failTrip (tripId : ℕ) (reason : String) : Prog Unit := emitDispatchFailed tripId reason

/-! ### `getPendingRequestForDriver` -/

/-- The attempt the driver can still answer: notified or timed out, on a pending trip without a
driver. -/
def isPendingRequest (s : Store) (driverId : ℕ) (a : DispatchAttempt) : Bool :=
  decide (a.driverId = driverId) &&
    (decide (a.status = .driverNotified) || decide (a.status = .timedOut)) &&
    (s.trips.find? a.tripId).any fun t => decide (t.status = .pending) && t.driverId.isNone

/-- The latest such attempt, with its trip and the trip's vehicle type. -/
def findPendingAttempt (driverId : ℕ) :
    Prog (Option (DispatchAttempt × Trip × Option VehicleType)) :=
  Async.query (.findPendingAttempt driverId) fun s => do
    let attempt ← (s.attempts.findMany (isPendingRequest s driverId)).argmax
      DispatchAttempt.notifiedAt
    let trip ← s.trips.find? attempt.tripId
    pure (attempt, trip, s.vehicleTypes.find? trip.vehicleTypeId)

/-- Another driver has accepted the trip. -/
def findAnotherAccepted (tripId driverId : ℕ) : Prog Bool :=
  Async.query (.findAcceptedAttempt tripId driverId) fun s =>
    s.attempts.rows.any fun a =>
      decide (a.tripId = tripId) && decide (a.status = .driverAccepted) &&
        decide (a.driverId ≠ driverId)

/-- Open the attempt again, and take the driver's lock for it. -/
def rearm (tripId driverId : ℕ) : Prog Unit :=
  Async.tryCatch
    (do
      Async.queryE (.rearmAttempt tripId driverId) fun s =>
        orNotFound ((s.attempts.find? (tripId, driverId)).map fun _ => ())
      Async.perform (.redisSet (.dispatchLock driverId) (.trip tripId) 75))
    fun _ => pure ()

/-- The pickup and dropoff coordinates; a failure leaves them out. -/
def findCoordinates (tripId : ℕ) : Prog (Option (Point × Point)) :=
  Async.tryCatch
    (Async.query (.findTripCoordinates tripId) fun s =>
      (s.trips.find? tripId).map fun t => (t.pickupLocation, t.dropoffLocation))
    fun _ => pure none

/-- The payload for the driver's app. -/
structure PendingRequest where
  tripId : ℕ
  serviceType : ServiceType
  pickup : Option Point
  dropoff : Option Point
  estimatedPrice : ℚ
  commission : ℤ
  tripDistanceMeters : ℤ
  durationSeconds : ℤ
  deriving DecidableEq

def getPendingRequestForDriver (userId : ℕ) : Prog (Option PendingRequest) := do
  let driver ← Async.query (.findDriver userId) fun s =>
    (s.drivers.findFirst fun d => decide (d.userId = userId)).map Driver.id
  match driver with
  | none => pure none
  | some driverId => do
    match ← findPendingAttempt driverId with
    | none => pure none
    | some (_, trip, vehicleType) => do
      let anotherAccepted ← findAnotherAccepted trip.id driverId
      if anotherAccepted then pure none
      else do
        rearm trip.id driverId
        let coords ← findCoordinates trip.id
        match vehicleType with
        -- `trip.vehicleType.commissionPercentage` of a row without its vehicle type
        | none => Async.throw .typeError
        | some vehicleType =>
          let estimatedPrice := (trip.estimatedPrice.map Decimal2.toNumber).getD 0
          pure (some
            { tripId := trip.id
              serviceType := trip.serviceType
              pickup := coords.map Prod.fst
              dropoff := coords.map Prod.snd
              estimatedPrice
              commission :=
                mathRound (estimatedPrice * vehicleType.commissionPercentage.toNumber / 100)
              tripDistanceMeters := trip.distanceMeters.getD 0
              durationSeconds := trip.durationSeconds.getD 0 })

end DispatchService

end Telima
