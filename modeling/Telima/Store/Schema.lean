import Telima.Data.Decimal2
import Telima.Data.Json
import Telima.Data.Table

/-!
# The schema

The tables of `schema.prisma` the modelled code reads or writes, the Redis keys, the timeout queue,
and the `Store` that holds them.  Ids are numbers, times are milliseconds.  A column is left out
when no modelled function uses it (names, addresses, photos, vehicles).
-/

namespace Telima

inductive UserRole where
  | client | driver | admin
  deriving DecidableEq, Repr

inductive ServiceType where
  | ride | delivery | food | assistance | intercity
  deriving DecidableEq, Repr

inductive TripStatus where
  | pending | accepted | driverArriving | inProgress | completed
  | cancelledByClient | cancelledByDriver | cancelledAuto
  deriving DecidableEq, Repr

inductive DispatchStatus where
  | searching | driverNotified | driverAccepted | driverDeclined | timedOut | exhausted
  deriving DecidableEq, Repr

inductive CommissionPaymentStatus where
  | pending | succeeded | failed | expired
  deriving DecidableEq, Repr

/-- A geographic point. -/
structure Point where
  lat : ℚ
  lng : ℚ
  deriving DecidableEq, Repr

structure Driver where
  id : ℕ
  userId : ℕ
  balance : Decimal2
  commissionDue : Decimal2
  deriving DecidableEq, Repr

structure VehicleType where
  id : ℕ
  commissionPercentage : Decimal2
  deriving DecidableEq, Repr

structure Trip where
  id : ℕ
  clientId : ℕ
  driverId : Option ℕ := none
  vehicleTypeId : ℕ
  serviceType : ServiceType
  status : TripStatus := .pending
  pickupLocation : Point
  dropoffLocation : Point
  estimatedPrice : Option Decimal2 := none
  finalPrice : Option Decimal2 := none
  distanceMeters : Option ℤ := none
  durationSeconds : Option ℤ := none
  acceptedAt : Option ℕ := none
  driverArrivedAt : Option ℕ := none
  startedAt : Option ℕ := none
  completedAt : Option ℕ := none
  cancelledAt : Option ℕ := none
  cancelReason : Option String := none
  paymentReceivedAt : Option ℕ := none
  paymentReceivedAmount : Option Decimal2 := none
  commissionAmount : Option Decimal2 := none
  deliveryConfirmedAt : Option ℕ := none
  deliveryIssueReported : Option String := none
  createdAt : ℕ
  updatedAt : ℕ
  deriving DecidableEq, Repr

inductive SenderRole where
  | client | driver
  deriving DecidableEq, Repr

structure TripRating where
  tripId : ℕ
  raterId : ℕ
  raterRole : SenderRole
  rating : ℕ
  tags : List String := []
  createdAt : ℕ
  deriving DecidableEq, Repr

/-- `@@unique([tripId, raterId])` -/
def TripRating.key (r : TripRating) : ℕ × ℕ := (r.tripId, r.raterId)

structure DispatchAttempt where
  tripId : ℕ
  driverId : ℕ
  status : DispatchStatus := .searching
  notifiedAt : ℕ
  respondedAt : Option ℕ := none
  deriving DecidableEq, Repr

/-- `@@unique([tripId, driverId])` -/
def DispatchAttempt.key (a : DispatchAttempt) : ℕ × ℕ := (a.tripId, a.driverId)

structure CommissionPayment where
  id : ℕ
  driverId : ℕ
  amount : Decimal2
  status : CommissionPaymentStatus := .pending
  transactionRef : Option String := none
  orderId : Option String := none
  notifToken : Option String := none
  paymentUrl : Option String := none
  txnid : Option String := none
  paidAt : Option ℕ := none
  createdAt : ℕ
  updatedAt : ℕ
  deriving DecidableEq, Repr

/-- The keys of the Redis database. -/
inductive RedisKey where
  /-- `DispatchLockKey(driverId)` -/
  | dispatchLock (driverId : ℕ)
  /-- `DispatchTimeoutJobKey(tripId, driverId)` -/
  | dispatchTimeoutJob (tripId driverId : ℕ)
  /-- `DispatchRoundsKey(tripId)` -/
  | dispatchRounds (tripId : ℕ)
  /-- `KEY_PREFIX + suffix` of the idempotency interceptor -/
  | idempotency (suffix : String)
  deriving DecidableEq, Repr

inductive RedisValue where
  | trip (tripId : ℕ)
  | job (jobId : ℕ)
  | count (n : ℕ)
  | one
  | response (body : Json)

structure RedisEntry where
  value : RedisValue
  expiresAt : Option ℕ := none

/-- A delayed job of the dispatch timeout queue. -/
structure TimeoutJob where
  id : ℕ
  tripId : ℕ
  driverId : ℕ
  runAt : ℕ
  deriving DecidableEq, Repr

/-- Everything the server's functions share. -/
structure Store where
  drivers : Table ℕ Driver Driver.id := .empty
  vehicleTypes : Table ℕ VehicleType VehicleType.id := .empty
  trips : Table ℕ Trip Trip.id := .empty
  attempts : Table (ℕ × ℕ) DispatchAttempt DispatchAttempt.key := .empty
  payments : Table ℕ CommissionPayment CommissionPayment.id := .empty
  ratings : Table (ℕ × ℕ) TripRating TripRating.key := .empty
  redis : RedisKey → Option RedisEntry := fun _ => none
  jobs : List TimeoutJob := []
  /-- The number of jobs ever queued. -/
  jobCount : ℕ := 0
  /-- The number of calls made to services outside the program, so that two calls of one service
  can be answered differently. -/
  externalCalls : ℕ := 0
  now : ℕ := 0

instance : Inhabited Store := ⟨{}⟩

/-- The live value of a Redis key. -/
def Store.get (s : Store) (key : RedisKey) : Option RedisValue :=
  (s.redis key).bind fun entry =>
    match entry.expiresAt with
    | none => some entry.value
    | some t => if s.now < t then some entry.value else none

/-- The trip's status. -/
def Store.tripStatus (s : Store) (tripId : ℕ) : Option TripStatus :=
  (s.trips.find? tripId).map Trip.status

end Telima
