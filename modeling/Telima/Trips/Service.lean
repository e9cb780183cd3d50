import Mathlib.Data.List.Sort
import Telima.Dispatch.Service
import Telima.Trips.Lifecycle

/-!
# `TripsService`, `TripRepository` and the sweep of `DispatchRecoveryService`

`updateStatus` chooses its update by a switch over the target status; each case is a definition of
its own (`acceptCase`, `advanceCase`, …) that checks the permission, does what the case does, and
returns the columns to write.
-/

namespace Telima

structure UpdateTripStatusDto where
  status : TripStatus
  cancelReason : Option String := none
  deriving DecidableEq

structure PaymentReceivedDto where
  amount : ℚ
  deriving DecidableEq

structure CreateRatingDto where
  rating : ℕ
  tags : Option (List String) := none
  deriving DecidableEq

/-- What `createTrip` uses of `CreateTripDto`. -/
structure CreateTripDto where
  serviceType : ServiceType
  vehicleTypeId : ℕ
  pickup : Point
  dropoff : Point
  deriving DecidableEq

/-- What `createTrip` uses of the result of `calculatePrice`. -/
structure PriceResult where
  estimatedPrice : ℚ
  distanceMeters : ℤ
  durationSeconds : ℤ
  deriving DecidableEq

/-- `PricingService.calculatePrice`: it reads tariffs and asks for a distance, and answers or
throws. -/
structure PricingEnv where
  calculatePrice : ServiceType → (vehicleTypeId : ℕ) → (pickup dropoff : Point) → Store →
    Except Error PriceResult

/-- The positions `handleDriverAssigned` asks for. -/
structure GeoEnv where
  getDriverLocation : (driverId : ℕ) → Store → Option Point
  calculateDistance : Point → Point → Store → ℚ

namespace TripRepository

def insertWithGeometry (data : CreateTripData) : Prog ℕ :=
  Async.queryE (.insertTrip data) fun s =>
    if (s.vehicleTypes.find? data.vehicleTypeId).isSome then .ok s.trips.freshKey
    else .error .recordNotFound

def findById (tripId : ℕ) : Prog (Option Trip) := do
  let trip ← Async.query (.findTrip tripId) fun s => s.trips.find? tripId
  match trip with
  | none => pure none
  | some trip => do
    Async.perform (.findTripCoordinates tripId)
    pure (some trip)

def findDriverByUserId (userId : ℕ) : Prog (Option ℕ) :=
  Async.query (.findDriver userId) fun s =>
    (s.drivers.findFirst fun d => decide (d.userId = userId)).map Driver.id

/-- The driver holds an attempt on the trip that is `driver_notified`. -/
def isNotified (s : Store) (tripId driverId : ℕ) : Bool :=
  (s.attempts.find? (tripId, driverId)).any fun a => decide (a.status = .driverNotified)

def hasActiveDispatchAttempt (tripId driverId : ℕ) : Prog Bool :=
  Async.query (.findActiveAttempt tripId driverId) fun s => isNotified s tripId driverId

/-- `prisma.trip.update`; the answer is the updated row. -/
def update (tripId : ℕ) (data : TripData) : Prog Trip :=
  Async.queryE (.updateTrip tripId data) fun s =>
    orNotFound ((s.trips.find? tripId).map (data.apply s.now))

def updateStatus (tripId : ℕ) (data : TripData) : Prog (Option Trip) := do
  let _ ← update tripId data
  findById tripId

def updateStatusIfPending (tripId : ℕ) (status : TripStatus) (cancelReason : String) :
    Prog Unit := do
  let now ← newDate
  Async.perform (.updateTripIfPending tripId
    { status := some status, cancelledAt := some now, cancelReason := some cancelReason })

def assignDriver (tripId driverId : ℕ) : Prog Trip := do
  let now ← newDate
  update tripId { driverId := some driverId, status := some .accepted, acceptedAt := some now }

def markPaymentReceived (tripId : ℕ) (amount : ℚ) : Prog Trip := do
  let now ← newDate
  update tripId { paymentReceivedAt := some now, paymentReceivedAmount := some amount }

def findRating (tripId raterId : ℕ) : Prog (Option TripRating) :=
  Async.query (.findRating tripId raterId) fun s => s.ratings.find? (tripId, raterId)

def createRating (data : CreateRatingData) : Prog TripRating :=
  Async.queryE (.createRating data) fun s =>
    if (s.ratings.find? (data.tripId, data.raterId)).isSome then .error .uniqueConstraint
    else .ok (data.row s.now)

def getPickupCoordinates (tripId : ℕ) : Prog (Option Point) :=
  Async.query (.findTripCoordinates tripId) fun s =>
    (s.trips.find? tripId).map Trip.pickupLocation

end TripRepository

namespace TripsService

def getTrip (tripId : ℕ) : Prog Trip := do
  match ← TripRepository.findById tripId with
  | some trip => pure trip
  | none => Async.throw (.notFound "Course introuvable")

/-- The row of the service's details, where it has one. -/
def createDetails (tripId : ℕ) (serviceType : ServiceType) : Prog Unit :=
  match serviceType with
  | .delivery | .food | .ride | .intercity => Async.perform (.createDetails tripId)
  | .assistance => pure ()

def createTrip (pricing : PricingEnv) (clientId : ℕ) (dto : CreateTripDto) : Prog Trip := do
  let priceResult ← Async.queryE .external
    (pricing.calculatePrice dto.serviceType dto.vehicleTypeId dto.pickup dto.dropoff)
  let tripId ← TripRepository.insertWithGeometry
    { clientId
      vehicleTypeId := dto.vehicleTypeId
      serviceType := dto.serviceType
      pickupLocation := dto.pickup
      dropoffLocation := dto.dropoff
      estimatedPrice := priceResult.estimatedPrice
      distanceMeters := priceResult.distanceMeters
      durationSeconds := priceResult.durationSeconds }
  createDetails tripId dto.serviceType
  let trip ← getTrip tripId
  Async.emit (.emit (.tripCreated trip.id dto.pickup dto.serviceType dto.vehicleTypeId))
  pure trip

/-! ### Events -/

/-- `cancelReason ?? trip.cancelReason` -/
def reasonOf (cancelReason : Option String) (trip : Trip) : Option String :=
  cancelReason.or trip.cancelReason

/-- The domain event of the trip's status. -/
def statusEvent (trip : Trip) (userId : ℕ) (cancelReason : Option String) : Option DomainEvent :=
  match trip.status with
  | .driverArriving => some (.tripArrived trip.id trip.driverId trip.clientId)
  | .inProgress => some (.tripStarted trip.id trip.driverId trip.clientId)
  | .completed =>
    some (.tripCompleted trip.id trip.driverId trip.clientId
      ((trip.finalPrice.map Decimal2.toNumber).getD 0))
  | .cancelledByClient | .cancelledByDriver | .cancelledAuto =>
    some (.tripCancelled trip.id userId ((reasonOf cancelReason trip).getD ""))
  | .pending | .accepted => none

def emitStatusEvent (trip : Trip) (userId : ℕ) (cancelReason : Option String) : Prog Unit :=
  match statusEvent trip userId cancelReason with
  | some event => Async.emit (.emit event)
  | none => pure ()

/-- Who cancelled, for the message of the client app. -/
def cancelledBy : TripStatus → Option CancelledBy
  | .cancelledByDriver => some .driver
  | .cancelledByClient => some .client
  | .cancelledAuto => some .system
  | _ => none

def broadcastStatusEvent (trip : Trip) (status : TripStatus) (cancelReason : Option String) :
    Prog Unit :=
  match getWsEventForService trip.serviceType status with
  | none => pure ()
  | some wsEvent => do
    let payload := WsPayload.tripUpdate trip.id status (cancelledBy status)
      (trip.estimatedPrice.map Decimal2.toNumber) (trip.finalPrice.map Decimal2.toNumber)
      (reasonOf cancelReason trip)
    Async.emit (.broadcast (.trip trip.id) wsEvent payload)
    Async.emit (.broadcast (.user trip.clientId) wsEvent payload)
    Async.forEach (fun driverId => Async.emit (.broadcast (.driver driverId) wsEvent payload))
      trip.driverId.toList
    Async.emit (.broadcast .admin .adminTripUpdate payload)

def notifyDispatchedDriversOfCancellation (tripId : ℕ) (serviceType : ServiceType)
    (reason : String) : Prog Unit :=
  match getWsEventForService serviceType .cancelledByClient with
  | none => pure ()
  | some wsEvent => do
    let attempts ← DispatchService.findNotifiedDrivers tripId none
    Async.forEach (fun driverId =>
      Async.emit (.broadcast (.driver driverId) wsEvent (.cancellation tripId reason))) attempts

/-! ### `updateStatus` -/

/-- The case `accepted`. -/
def acceptCase (tripId userId : ℕ) (role : UserRole) : Prog TripData := do
  if role ≠ .driver then
    Async.throw (.forbidden "Seul un chauffeur peut accepter une course")
  else
    match ← TripRepository.findDriverByUserId userId with
    | none => Async.throw (.forbidden "Profil chauffeur introuvable")
    | some driverId =>
      let hasActiveAttempt ← TripRepository.hasActiveDispatchAttempt tripId driverId
      if hasActiveAttempt then do
        let now ← newDate
        DispatchService.handleDriverAccept tripId driverId
        pure { status := some .accepted, driverId := some driverId, acceptedAt := some now }
      else Async.throw (.forbidden "Cette course ne vous est pas assignee (dispatch)")

/-- The columns written by the cases `driver_arriving`, `in_progress` and `completed`. -/
def advanceData (trip : Trip) (status : TripStatus) (now : ℕ) : TripData :=
  match status with
  | .driverArriving => { status := some status, driverArrivedAt := some now }
  | .inProgress => { status := some status, startedAt := some now }
  | _ => { status := some status, completedAt := some now, finalPrice := some trip.estimatedPrice }

/-- The cases `driver_arriving`, `in_progress` and `completed`. -/
def advanceCase (trip : Trip) (userId : ℕ) (role : UserRole) (status : TripStatus) :
    Prog TripData := do
  if role ≠ .driver then
    Async.throw (.forbidden "Seul un chauffeur peut faire avancer une course")
  else
    let assignedDriver ← TripRepository.findDriverByUserId userId
    if assignedDriver.isNone ∨ trip.driverId ≠ assignedDriver then
      Async.throw (.forbidden "Vous n'etes pas le chauffeur assigne a cette course")
    else do
      let now ← newDate
      pure (advanceData trip status now)

/-- Withdraw the trip's offers, and tell the drivers that are still notified. -/
def withdrawOffers (trip : Trip) (reason : String) : Prog Unit := do
  DispatchService.releaseLocksForTrip trip.id
  notifyDispatchedDriversOfCancellation trip.id trip.serviceType reason

/-- The case `cancelled_by_client`. -/
def cancelByClientCase (trip : Trip) (userId : ℕ) (role : UserRole)
    (cancelReason : Option String) : Prog TripData := do
  if role ≠ .client ∧ userId ≠ trip.clientId then
    Async.throw (.forbidden "Seul le client peut annuler")
  else do
    let now ← newDate
    withdrawOffers trip (cancelReason.getD "client")
    pure { status := some .cancelledByClient, cancelledAt := some now, cancelReason }

/-- The case `cancelled_by_driver`. -/
def cancelByDriverCase (trip : Trip) (userId : ℕ) (role : UserRole)
    (cancelReason : Option String) : Prog TripData := do
  if role ≠ .driver then Async.throw (.forbidden "Seul un chauffeur peut annuler")
  else
    let cancellingDriver ← TripRepository.findDriverByUserId userId
    if cancellingDriver.isNone ∨ trip.driverId ≠ cancellingDriver then
      Async.throw (.forbidden "Vous n'etes pas le chauffeur assigne a cette course")
    else do
      let now ← newDate
      pure { status := some .cancelledByDriver, cancelledAt := some now, cancelReason }

/-- The case `cancelled_auto`. -/
def cancelAutoCase (trip : Trip) (cancelReason : Option String) : Prog TripData := do
  let now ← newDate
  withdrawOffers trip (cancelReason.getD "auto")
  pure
    { status := some .cancelledAuto
      cancelledAt := some now
      cancelReason := some (cancelReason.getD "auto") }

/-- The switch over the target status. -/
def statusCase (trip : Trip) (userId : ℕ) (role : UserRole) (dto : UpdateTripStatusDto) :
    Prog TripData :=
  match dto.status with
  | .accepted => acceptCase trip.id userId role
  | .driverArriving | .inProgress | .completed => advanceCase trip userId role dto.status
  | .cancelledByClient => cancelByClientCase trip userId role dto.cancelReason
  | .cancelledByDriver => cancelByDriverCase trip userId role dto.cancelReason
  | .cancelledAuto => cancelAutoCase trip dto.cancelReason
  | .pending => pure { status := some .pending }

/-- What follows the write: the row is read again, and reported.  A row that is gone makes
`emitStatusEvent` throw. -/
def reportStatus (updated : Option Trip) (userId : ℕ) (status : TripStatus)
    (cancelReason : Option String) : Prog Trip :=
  match updated with
  | none => Async.throw .typeError
  | some updated => do
    emitStatusEvent updated userId cancelReason
    broadcastStatusEvent updated status cancelReason
    pure updated

def updateStatus (tripId userId : ℕ) (role : UserRole) (dto : UpdateTripStatusDto) :
    Prog Trip := do
  let trip ← getTrip tripId
  if canTransition trip.status dto.status then do
    let updateData ← statusCase trip userId role dto
    let updated ← TripRepository.updateStatus tripId updateData
    reportStatus updated userId dto.status dto.cancelReason
  else
    Async.throw (.badRequest
      ("Transition invalide: " ++ trip.status.name ++ " → " ++ dto.status.name))

def acceptTrip (tripId userId : ℕ) : Prog Trip :=
  updateStatus tripId userId .driver { status := .accepted }

def declineTrip (env : DispatchEnv) (tripId userId : ℕ) : Prog Unit := do
  let _ ← getTrip tripId
  match ← TripRepository.findDriverByUserId userId with
  | none => Async.throw (.forbidden "Profil chauffeur introuvable")
  | some driverId => do
    let hasActiveAttempt ← TripRepository.hasActiveDispatchAttempt tripId driverId
    if hasActiveAttempt then DispatchService.handleDriverDeclineAndRetry env tripId driverId
    else Async.throw (.forbidden "Cette course ne vous est pas assignee (dispatch)")

def confirmPaymentReceived (tripId userId : ℕ) (role : UserRole) (dto : PaymentReceivedDto) :
    Prog Trip := do
  if role ≠ .driver then
    Async.throw (.forbidden "Seul un chauffeur peut confirmer un paiement")
  else
    let trip ← getTrip tripId
    let driver ← TripRepository.findDriverByUserId userId
    if driver.isNone ∨ trip.driverId ≠ driver then
      Async.throw (.forbidden "Ce n'est pas votre course")
    else if trip.status ≠ .inProgress then
      Async.throw (.badRequest
        ("Paiement impossible depuis le statut actuel: " ++ trip.status.name))
    else TripRepository.markPaymentReceived tripId dto.amount

def completeTrip (tripId userId : ℕ) (role : UserRole) (dto : PaymentReceivedDto) :
    Prog Trip := do
  if role ≠ .driver then
    Async.throw (.forbidden "Seul un chauffeur peut terminer une course")
  else
    let trip ← getTrip tripId
    let driver ← TripRepository.findDriverByUserId userId
    if driver.isNone ∨ trip.driverId ≠ driver then
      Async.throw (.forbidden "Ce n'est pas votre course")
    else if trip.status ≠ .inProgress then
      Async.throw (.badRequest
        ("Terminaison impossible depuis le statut actuel: " ++ trip.status.name))
    else if canTransition trip.status .completed then do
      let now ← newDate
      let _ ← TripRepository.update tripId
        { status := some .completed
          completedAt := some now
          finalPrice := some trip.estimatedPrice
          paymentReceivedAt := some now
          paymentReceivedAmount := some dto.amount }
      let updated ← getTrip tripId
      reportStatus (some updated) userId .completed none
    else
      Async.throw (.badRequest ("Transition invalide: " ++ trip.status.name ++ " → completed"))

/-! ### Ratings and deliveries -/

/-- Whoever rates as a driver is the assigned driver, and anybody else is the client. -/
def checkRater (trip : Trip) (userId : ℕ) (role : UserRole) : Prog Unit := do
  if role = .driver then
    let driver ← TripRepository.findDriverByUserId userId
    if driver.isNone ∨ trip.driverId ≠ driver then
      Async.throw (.forbidden "Ce n'est pas votre course")
    else pure ()
  else if trip.clientId ≠ userId then Async.throw (.forbidden "Ce n'est pas votre course")
  else pure ()

/-- `raterRole` -/
def raterRole (role : UserRole) : SenderRole := if role = .driver then .driver else .client

/-- What `rateTrip` inserts. -/
def ratingData (tripId userId : ℕ) (role : UserRole) (dto : CreateRatingDto) :
    CreateRatingData where
  tripId := tripId
  raterId := userId
  raterRole := raterRole role
  rating := dto.rating
  tags := dto.tags.getD []

/-- The event `rateTrip` emits. -/
def ratedEvent (tripId userId : ℕ) (role : UserRole) (dto : CreateRatingDto) : DomainEvent :=
  .tripRated tripId userId (raterRole role) dto.rating (dto.tags.getD [])

def rateTrip (tripId userId : ℕ) (role : UserRole) (dto : CreateRatingDto) : Prog TripRating := do
  let trip ← getTrip tripId
  checkRater trip userId role
  if trip.status ≠ .completed then
    Async.throw (.badRequest "La course doit être terminée pour être notée")
  else
    let existing ← TripRepository.findRating tripId userId
    if existing.isSome then Async.throw (.conflict "Cette course a déjà été notée")
    else do
      let rating ← TripRepository.createRating (ratingData tripId userId role dto)
      Async.emit (.emit (ratedEvent tripId userId role dto))
      pure rating

def confirmDelivery (tripId userId : ℕ) : Prog Unit := do
  let trip ← getTrip tripId
  if trip.clientId ≠ userId then Async.throw (.forbidden "Ce n'est pas votre course")
  else if trip.serviceType ≠ .delivery then
    Async.throw (.badRequest "Cette action est réservée aux livraisons")
  else if trip.status ≠ .completed then
    Async.throw (.badRequest "La livraison doit être terminée pour être confirmée")
  else if trip.deliveryConfirmedAt.isSome then
    Async.throw (.conflict "Cette livraison a déjà été confirmée")
  else do
    let now ← newDate
    let _ ← TripRepository.update tripId { deliveryConfirmedAt := some now }
    Async.emit (.broadcast (.trip tripId) .deliveryClientConfirmed (.clientConfirmed tripId))
    Async.forEach (fun driverId =>
      Async.emit (.broadcast (.driver driverId) .deliveryClientConfirmed (.clientConfirmed tripId)))
      trip.driverId.toList

def reportDeliveryIssue (tripId userId : ℕ) (reason : String) : Prog Unit := do
  let trip ← getTrip tripId
  if trip.clientId ≠ userId then Async.throw (.forbidden "Ce n'est pas votre course")
  else if trip.serviceType ≠ .delivery then
    Async.throw (.badRequest "Cette action est réservée aux livraisons")
  else do
    let _ ← TripRepository.update tripId { deliveryIssueReported := some reason }
    pure ()

/-! ### Event handlers -/

/-- The handler of `DispatchFailed`. -/
def handleDispatchFailed (tripId : ℕ) (reason : String) : Prog Unit := do
  TripRepository.updateStatusIfPending tripId .cancelledAuto reason
  let trip ← TripRepository.findById tripId
  match getWsEventForService ((trip.map Trip.serviceType).getD .ride) .cancelledAuto with
  | some wsEvent => Async.emit (.broadcast (.trip tripId) wsEvent (.cancellation tripId reason))
  | none => pure ()

/-- The minutes the driver needs to the pickup point. -/
def etaMinutes (distMeters : ℚ) : ℤ := max 1 ⌈distMeters * (14 / 10) / (25000 / 60)⌉

/-- The driver's position and the estimate; what a failure comes before is left out. -/
def estimateArrival (geo : GeoEnv) (tripId driverId : ℕ) : Prog (Option ℤ × Option Point) :=
  Async.tryCatch
    (do
      let driverPos ← Async.query .external (geo.getDriverLocation driverId)
      let pickupCoords ← TripRepository.getPickupCoordinates tripId
      match driverPos, pickupCoords with
      | some driverPos, some pickupCoords => do
        let eta ← Async.tryCatch
          (do
            let distMeters ← Async.query .external (geo.calculateDistance driverPos pickupCoords)
            pure (some (etaMinutes distMeters)))
          fun _ => pure none
        pure (eta, some driverPos)
      | _, _ => pure (none, driverPos))
    fun _ => pure (none, none)

/-- The message of an accepted trip, to its client and to its room. -/
def broadcastAccepted (geo : GeoEnv) (trip : Trip) (driverId : ℕ) : Prog Unit :=
  match getWsEventForService trip.serviceType .accepted with
  | none => pure ()
  | some wsEvent => do
    let (eta, driverLocation) ← estimateArrival geo trip.id driverId
    let payload := WsPayload.accepted trip.id driverId eta driverLocation
      (trip.estimatedPrice.map Decimal2.toNumber)
    Async.emit (.broadcast (.user trip.clientId) wsEvent payload)
    Async.emit (.broadcast (.trip trip.id) wsEvent payload)
    Async.emit (.broadcast .admin .adminTripUpdate payload)

/-- The handler of `DriverAssigned`. -/
def handleDriverAssigned (geo : GeoEnv) (tripId driverId : ℕ) : Prog Unit := do
  let trip ← TripRepository.assignDriver tripId driverId
  broadcastAccepted geo trip driverId
  Async.emit (.emit (.tripAccepted trip.id driverId trip.clientId))

/-- The handler of `WsDriverAcceptRequested`. -/
def handleWsDriverAcceptRequested (tripId userId : ℕ) : Prog Unit :=
  Async.tryCatch
    (do
      let _ ← updateStatus tripId userId .driver { status := .accepted }
      pure ())
    fun _ => pure ()

end TripsService

namespace DispatchRecoveryService

/-- `STALE_ASSIGNED_MS` -/
def staleAssignedMs : ℕ := 45 * 60 * 1000

/-- `updatedAt: { lt: cutoff }` with `cutoff = Date.now() - STALE_ASSIGNED_MS` -/
def isStale (now : ℕ) (trip : Trip) : Bool :=
  isAssigned trip.status && decide (trip.updatedAt + staleAssignedMs < now)

def findStale (now : ℕ) : Prog (List Trip) :=
  Async.query .findStaleAssignedTrips fun s => s.trips.findMany (isStale now)

/-- The body of the loop of `sweepStaleAssigned`. -/
def cancelStale (trip : Trip) : Prog Unit :=
  Async.tryCatch
    (do
      let _ ← TripRepository.update trip.id
        { status := some .cancelledAuto, cancelReason := some "driver_unresponsive" }
      DispatchService.releaseLocksForTrip trip.id
      match getWsEventForService trip.serviceType .cancelledAuto with
      | some wsEvent =>
        Async.emit (.broadcast (.trip trip.id) wsEvent
          (.cancellation trip.id "driver_unresponsive"))
      | none => pure ())
    fun _ => pure ()

def sweepStaleAssigned : Prog Unit := do
  let now ← newDate
  let stale ← Async.tryCatch (findStale now) fun _ => pure []
  Async.forEach cancelStale stale

/-- `REDISPATCH_MAX_AGE_MS` -/
def redispatchMaxAgeMs : ℕ := 2 * 60 * 1000

/-- `REDISPATCH_MIN_AGE_MS` -/
def redispatchMinAgeMs : ℕ := 90000

/-- The pending trips, oldest first. -/
def findPending : Prog (List Trip) :=
  Async.query .findPendingTrips fun s =>
    (s.trips.findMany fun trip => decide (trip.status = .pending)).insertionSort fun a b =>
      a.createdAt ≤ b.createdAt

def getPickup (tripId : ℕ) : Prog (Option Point) :=
  Async.query (.findTripCoordinates tripId) fun s =>
    (s.trips.find? tripId).map Trip.pickupLocation

/-- Release what is left of the trip's search, and search again. -/
def redispatch (env : DispatchEnv) (trip : Trip) : Prog Unit := do
  DispatchService.releaseLocksForTrip trip.id
  match ← getPickup trip.id with
  | none => DispatchService.failTrip trip.id "server_restarted"
  | some pickup =>
    DispatchService.attemptDispatch env trip.id pickup trip.serviceType (some trip.vehicleTypeId)

/-- The body of the loop of `run`. -/
def recoverTrip (env : DispatchEnv) (quiet : Bool) (now : ℕ) (trip : Trip) : Prog Unit :=
  if quiet = true ∧ now < trip.createdAt + redispatchMinAgeMs then pure ()
  else Async.tryCatch
    (if trip.createdAt + redispatchMaxAgeMs < now then
      DispatchService.failTrip trip.id
        (if quiet then "no_drivers_available" else "server_restarted")
    else redispatch env trip)
    fun _ => pure ()

def run (env : DispatchEnv) (quiet : Bool) : Prog Unit := do
  let pending ← Async.tryCatch findPending fun _ => pure []
  if pending = [] then pure ()
  else do
    let now ← newDate
    Async.forEach (recoverTrip env quiet now) pending

end DispatchRecoveryService

end Telima
