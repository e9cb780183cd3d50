import Telima.Async.Basic
import Telima.Events.Events

/-!
# Commands

What a function of the server can do to the `Store` in one step: a query of the database, Redis or
the queue, the emission of an event, a call of a service outside the program.  `Cmd.exec` is the
effect of a command; a `Prog` is a function of the server, which reads its answers from the store
the command was performed in.
-/

namespace Telima

/-- What a function of the server can throw. -/
inductive Error where
  | notFound (message : String)
  | badRequest (message : String)
  | forbidden (message : String)
  | conflict (message : String)
  | serviceUnavailable (message : String)
  /-- A `TypeError` of the language. -/
  | typeError
  /-- Prisma: the record to update does not exist. -/
  | recordNotFound
  /-- Prisma: a unique constraint fails. -/
  | uniqueConstraint
  /-- Prisma: the arguments of a query are malformed. -/
  | validation
  /-- A store or a service does not answer. -/
  | unavailable
  deriving DecidableEq, Repr

/-- The `data` of an update of a trip; `none` leaves a column as it is. -/
structure TripData where
  status : Option TripStatus := none
  driverId : Option ℕ := none
  acceptedAt : Option ℕ := none
  driverArrivedAt : Option ℕ := none
  startedAt : Option ℕ := none
  completedAt : Option ℕ := none
  cancelledAt : Option ℕ := none
  cancelReason : Option String := none
  finalPrice : Option (Option Decimal2) := none
  paymentReceivedAt : Option ℕ := none
  paymentReceivedAmount : Option ℚ := none
  deliveryConfirmedAt : Option ℕ := none
  deliveryIssueReported : Option String := none
  deriving DecidableEq

/-- The updated trip; `updatedAt` is set to the time of the update. -/
def TripData.apply (data : TripData) (now : ℕ) (trip : Trip) : Trip :=
  { trip with
    status := data.status.getD trip.status
    driverId := data.driverId.or trip.driverId
    acceptedAt := data.acceptedAt.or trip.acceptedAt
    driverArrivedAt := data.driverArrivedAt.or trip.driverArrivedAt
    startedAt := data.startedAt.or trip.startedAt
    completedAt := data.completedAt.or trip.completedAt
    cancelledAt := data.cancelledAt.or trip.cancelledAt
    cancelReason := data.cancelReason.or trip.cancelReason
    finalPrice := data.finalPrice.getD trip.finalPrice
    paymentReceivedAt := data.paymentReceivedAt.or trip.paymentReceivedAt
    paymentReceivedAmount :=
      (data.paymentReceivedAmount.map Decimal2.ofNumber).or trip.paymentReceivedAmount
    deliveryConfirmedAt := data.deliveryConfirmedAt.or trip.deliveryConfirmedAt
    deliveryIssueReported := data.deliveryIssueReported.or trip.deliveryIssueReported
    updatedAt := now }

theorem TripData.id_apply (data : TripData) (now : ℕ) (trip : Trip) :
    (data.apply now trip).id = trip.id := rfl

/-- The columns `insertWithGeometry` gives; the row is `pending`. -/
structure CreateTripData where
  clientId : ℕ
  vehicleTypeId : ℕ
  serviceType : ServiceType
  pickupLocation : Point
  dropoffLocation : Point
  estimatedPrice : ℚ
  distanceMeters : ℤ
  durationSeconds : ℤ
  deriving DecidableEq

/-- The inserted row. -/
def CreateTripData.row (data : CreateTripData) (id now : ℕ) : Trip where
  id := id
  clientId := data.clientId
  vehicleTypeId := data.vehicleTypeId
  serviceType := data.serviceType
  pickupLocation := data.pickupLocation
  dropoffLocation := data.dropoffLocation
  estimatedPrice := some (.ofNumber data.estimatedPrice)
  distanceMeters := some data.distanceMeters
  durationSeconds := some data.durationSeconds
  createdAt := now
  updatedAt := now

theorem CreateTripData.id_row (data : CreateTripData) (id now : ℕ) : (data.row id now).id = id := rfl

/-- The `data` of an update of a commission payment: `txnid` and `paidAt` are always given, the
references only at initiation. -/
structure PaymentData where
  status : CommissionPaymentStatus
  references : Option (String × Option String × Option String × Option String) := none
  txnid : Option (Option String) := none
  paidAt : Option ℕ
  deriving DecidableEq

/-- The updated payment. -/
def PaymentData.apply (data : PaymentData) (now : ℕ) (payment : CommissionPayment) :
    CommissionPayment :=
  { payment with
    status := data.status
    transactionRef := data.references.elim payment.transactionRef fun r => some r.1
    orderId := data.references.elim payment.orderId fun r => r.2.1
    notifToken := data.references.elim payment.notifToken fun r => r.2.2.1
    paymentUrl := data.references.elim payment.paymentUrl fun r => r.2.2.2
    txnid := data.txnid.getD payment.txnid
    paidAt := data.paidAt
    updatedAt := now }

theorem PaymentData.id_apply (data : PaymentData) (now : ℕ) (payment : CommissionPayment) :
    (data.apply now payment).id = payment.id := rfl

/-- The references of the update belong to another payment: `transactionRef` and `orderId` are
`@unique`. -/
def PaymentData.conflicts (data : PaymentData) (s : Store) (paymentId : ℕ) : Bool :=
  data.references.any fun r => s.payments.rows.any fun p =>
    decide (p.id ≠ paymentId) &&
      (decide (p.transactionRef = some r.1) || (r.2.1.isSome && decide (p.orderId = r.2.1)))

/-- The attempt of a driver that is notified (again). -/
def DispatchAttempt.notify (now : ℕ) (a : DispatchAttempt) : DispatchAttempt :=
  { a with status := .driverNotified, notifiedAt := now, respondedAt := none }

theorem DispatchAttempt.key_notify (now : ℕ) (a : DispatchAttempt) :
    (a.notify now).key = a.key := rfl

/-- The attempt that is open again; `notifiedAt` stays. -/
def DispatchAttempt.rearm (a : DispatchAttempt) : DispatchAttempt :=
  { a with status := .driverNotified, respondedAt := none }

theorem DispatchAttempt.key_rearm (a : DispatchAttempt) : a.rearm.key = a.key := rfl

/-- The attempt after the response `status`. -/
def DispatchAttempt.respond (status : DispatchStatus) (now : ℕ) (a : DispatchAttempt) :
    DispatchAttempt :=
  { a with status := status, respondedAt := some now }

theorem DispatchAttempt.key_respond (status : DispatchStatus) (now : ℕ) (a : DispatchAttempt) :
    (a.respond status now).key = a.key := rfl

/-- The driver after `commissionDue: { decrement: amount }`. -/
def Driver.decrementDue (amount : ℚ) (d : Driver) : Driver :=
  { d with commissionDue := d.commissionDue.decrement amount }

theorem Driver.id_decrementDue (amount : ℚ) (d : Driver) : (d.decrementDue amount).id = d.id := rfl

/-- The driver after a trip. -/
def Driver.charge (commissionAmount : ℤ) (finalPrice : ℚ) (d : Driver) : Driver :=
  { d with
    commissionDue := d.commissionDue.increment commissionAmount
    balance := d.balance.increment (finalPrice - commissionAmount) }

theorem Driver.id_charge (commissionAmount : ℤ) (finalPrice : ℚ) (d : Driver) :
    (d.charge commissionAmount finalPrice).id = d.id := rfl

/-- The trip with its commission. -/
def Trip.charge (commissionAmount : ℤ) (now : ℕ) (t : Trip) : Trip :=
  { t with commissionAmount := some (.ofNumber commissionAmount), updatedAt := now }

theorem Trip.id_charge (commissionAmount : ℤ) (now : ℕ) (t : Trip) :
    (t.charge commissionAmount now).id = t.id := rfl

/-- The columns `createRating` gives. -/
structure CreateRatingData where
  tripId : ℕ
  raterId : ℕ
  raterRole : SenderRole
  rating : ℕ
  tags : List String
  deriving DecidableEq

/-- The inserted row. -/
def CreateRatingData.row (data : CreateRatingData) (now : ℕ) : TripRating where
  tripId := data.tripId
  raterId := data.raterId
  raterRole := data.raterRole
  rating := data.rating
  tags := data.tags
  createdAt := now

inductive Cmd where
  -- reads of the database
  | findTrip (tripId : ℕ)
  | findTripCoordinates (tripId : ℕ)
  | findStaleAssignedTrips
  | findDriver (userId : ℕ)
  | findActiveAttempt (tripId driverId : ℕ)
  | findAttempts (tripId : ℕ)
  | findPendingTrips
  /-- The attempt `getPendingRequestForDriver` looks for. -/
  | findPendingAttempt (driverId : ℕ)
  /-- An attempt of another driver that is `driver_accepted`. -/
  | findAcceptedAttempt (tripId driverId : ℕ)
  | findPayment
  | findRating (tripId raterId : ℕ)
  | aggregate
  -- writes of the database
  | insertTrip (data : CreateTripData)
  /-- The row of `delivery_details` or `ride_details`. -/
  | createDetails (tripId : ℕ)
  | updateTrip (tripId : ℕ) (data : TripData)
  | updateTripIfPending (tripId : ℕ) (data : TripData)
  | upsertAttempt (tripId driverId : ℕ)
  | rearmAttempt (tripId driverId : ℕ)
  /-- `updateMany` of the attempts of a trip (and a driver) that are `driver_notified`. -/
  | respondAttempts (tripId : ℕ) (driverId : Option ℕ) (status : DispatchStatus)
  | createPayment (driverId : ℕ) (amount : ℚ)
  | updatePayment (paymentId : ℕ) (data : PaymentData)
  | decrementCommissionDue (driverId : ℕ) (amount : ℚ)
  /-- The transaction of `CommissionsService.handleTripCompleted`. -/
  | chargeCommission (tripId driverId : ℕ) (commissionAmount : ℤ) (finalPrice : ℚ)
  | createRating (data : CreateRatingData)
  -- Redis
  | redisGet (key : RedisKey)
  | redisSet (key : RedisKey) (value : RedisValue) (seconds : ℕ)
  | redisSetNx (key : RedisKey) (value : RedisValue) (seconds : ℕ)
  | redisDel (key : RedisKey)
  | redisIncr (key : RedisKey)
  | redisExpire (key : RedisKey) (seconds : ℕ)
  -- the timeout queue
  | addJob (tripId driverId delayMs : ℕ)
  | getJob (jobId : ℕ)
  | removeJob (jobId : ℕ)
  -- synchronous steps
  | emit (event : DomainEvent)
  | broadcast (room : Room) (event : WsEvent) (payload : WsPayload)
  /-- `new Date()` -/
  | date
  /-- `next.handle()` of an interceptor -/
  | handle (key : String)
  -- outside the program
  | external
  /-- Time passes. -/
  | tick (ms : ℕ)

namespace Cmd

/-- Set or clear a Redis key. -/
def setEntry (s : Store) (key : RedisKey) (entry : Option RedisEntry) : Store :=
  { s with redis := fun k => if k = key then entry else s.redis k }

/-- Both records of the commission transaction exist. -/
def chargeable (s : Store) (tripId driverId : ℕ) : Bool :=
  (s.trips.find? tripId).isSome && (s.drivers.find? driverId).isSome

/-- The effect of a command. -/
def exec : Cmd → Store → Store
  | insertTrip data, s =>
    { s with
      -- the foreign key of the vehicle type
      trips := if (s.vehicleTypes.find? data.vehicleTypeId).isSome then
          s.trips.insert (data.row s.trips.freshKey s.now)
        else s.trips }
  | updateTrip tripId data, s =>
    { s with trips := s.trips.update tripId (data.apply s.now) (data.id_apply s.now) }
  | updateTripIfPending tripId data, s =>
    { s with
      trips := s.trips.updateMany
        (fun trip => decide (trip.id = tripId) && decide (trip.status = .pending))
        (data.apply s.now) (data.id_apply s.now) }
  | upsertAttempt tripId driverId, s =>
    { s with
      attempts :=
        if (s.attempts.find? (tripId, driverId)).isSome then
          s.attempts.update (tripId, driverId) (DispatchAttempt.notify s.now)
            (DispatchAttempt.key_notify s.now)
        else
          s.attempts.insert { tripId, driverId, status := .driverNotified, notifiedAt := s.now } }
  | rearmAttempt tripId driverId, s =>
    { s with
      attempts := s.attempts.update (tripId, driverId) DispatchAttempt.rearm
        DispatchAttempt.key_rearm }
  | respondAttempts tripId driverId status, s =>
    { s with
      attempts := s.attempts.updateMany
        (fun a => decide (a.tripId = tripId) && driverId.all (fun d => decide (a.driverId = d)) &&
          decide (a.status = .driverNotified))
        (DispatchAttempt.respond status s.now) (DispatchAttempt.key_respond status s.now) }
  | createPayment driverId amount, s =>
    { s with
      payments := s.payments.insert
        { id := s.payments.freshKey, driverId, amount := .ofNumber amount
          createdAt := s.now, updatedAt := s.now } }
  | updatePayment paymentId data, s =>
    { s with
      payments := if data.conflicts s paymentId then s.payments
        else s.payments.update paymentId (data.apply s.now) (data.id_apply s.now) }
  | decrementCommissionDue driverId amount, s =>
    { s with
      drivers := s.drivers.update driverId (Driver.decrementDue amount)
        (Driver.id_decrementDue amount) }
  | chargeCommission tripId driverId commissionAmount finalPrice, s =>
    { s with
      trips := if chargeable s tripId driverId then
          s.trips.update tripId (Trip.charge commissionAmount s.now)
            (Trip.id_charge commissionAmount s.now)
        else s.trips
      drivers := if chargeable s tripId driverId then
          s.drivers.update driverId (Driver.charge commissionAmount finalPrice)
            (Driver.id_charge commissionAmount finalPrice)
        else s.drivers }
  | createRating data, s =>
    { s with
      ratings := if (s.ratings.find? (data.tripId, data.raterId)).isSome then s.ratings
        else s.ratings.insert (data.row s.now) }
  | redisSet key value seconds, s => setEntry s key (some ⟨value, some (s.now + seconds * 1000)⟩)
  | redisSetNx key value seconds, s =>
    setEntry s key (if (s.get key).isNone then some ⟨value, some (s.now + seconds * 1000)⟩
      else s.redis key)
  | redisDel key, s => setEntry s key none
  | redisIncr key, s =>
    setEntry s key (some <|
      match s.get key with
      | some (.count n) => ⟨.count (n + 1), (s.redis key).bind RedisEntry.expiresAt⟩
      | _ => ⟨.count 1, none⟩)
  | redisExpire key seconds, s =>
    setEntry s key ((s.get key).map fun value => ⟨value, some (s.now + seconds * 1000)⟩)
  | addJob tripId driverId delayMs, s =>
    { s with
      jobs := s.jobs ++ [⟨s.jobCount + 1, tripId, driverId, s.now + delayMs⟩]
      jobCount := s.jobCount + 1 }
  | removeJob jobId, s => { s with jobs := s.jobs.filter fun job => job.id ≠ jobId }
  | external, s => { s with externalCalls := s.externalCalls + 1 }
  | tick ms, s => { s with now := s.now + ms }
  | _, s => s

/-! ### What a command leaves alone -/

/-- The command does not write a trip. -/
def keepsTrips : Cmd → Bool
  | insertTrip _ | updateTrip _ _ | updateTripIfPending _ _ | chargeCommission _ _ _ _ => false
  | _ => true

/-- The command does not write a dispatch attempt. -/
def keepsAttempts : Cmd → Bool
  | upsertAttempt _ _ | rearmAttempt _ _ | respondAttempts _ _ _ => false
  | _ => true

/-- The command does not write a payment. -/
def keepsPayments : Cmd → Bool
  | createPayment _ _ | updatePayment _ _ => false
  | _ => true

/-- The command does not write a driver. -/
def keepsDrivers : Cmd → Bool
  | decrementCommissionDue _ _ | chargeCommission _ _ _ _ => false
  | _ => true

/-- The command emits a domain event or sends a WebSocket message. -/
def isMessage : Cmd → Bool
  | emit _ | broadcast _ _ _ => true
  | _ => false

variable {c : Cmd} {s : Store}

theorem exec_trips (h : c.keepsTrips = true) : (c.exec s).trips = s.trips := by
  cases c <;> first | rfl | simp [keepsTrips] at h

theorem exec_attempts (h : c.keepsAttempts = true) : (c.exec s).attempts = s.attempts := by
  cases c <;> first | rfl | simp [keepsAttempts] at h

theorem exec_payments (h : c.keepsPayments = true) : (c.exec s).payments = s.payments := by
  cases c <;> first | rfl | simp [keepsPayments] at h

theorem exec_drivers (h : c.keepsDrivers = true) : (c.exec s).drivers = s.drivers := by
  cases c <;> first | rfl | simp [keepsDrivers] at h

@[simp] theorem exec_vehicleTypes : (c.exec s).vehicleTypes = s.vehicleTypes := by
  cases c <;> rfl

end Cmd

/-- A function of the server. -/
abbrev Prog (α : Type) : Type := Async Store Cmd Error α

/-- Throw unless the record to update exists. -/
def orNotFound {α : Type} (record : Option α) : Except Error α :=
  record.elim (.error .recordNotFound) .ok

/-- `new Date()` -/
def newDate : Prog ℕ := Async.read .date Store.now

end Telima
