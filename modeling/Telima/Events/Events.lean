import Telima.Store.Schema

/-!
# Domain events and WebSocket events

The events of `domain-events.ts`, and the WebSocket events of `events.constants.ts` with the
mapping from a trip's status to its service's event.  The payloads carry what identifies a trip,
a driver or an amount; what they only show (names, phones, photos, plates, addresses) is left out.
-/

namespace Telima

inductive DomainEvent where
  | tripCreated (tripId : ℕ) (pickup : Point) (serviceType : ServiceType) (vehicleTypeId : ℕ)
  | tripAccepted (tripId driverId clientId : ℕ)
  | tripArrived (tripId : ℕ) (driverId : Option ℕ) (clientId : ℕ)
  | tripStarted (tripId : ℕ) (driverId : Option ℕ) (clientId : ℕ)
  | tripCompleted (tripId : ℕ) (driverId : Option ℕ) (clientId : ℕ) (finalPrice : ℚ)
  | tripCancelled (tripId cancelledBy : ℕ) (reason : String)
  | driverAssigned (tripId driverId : ℕ)
  | dispatchFailed (tripId : ℕ) (reason : String)
  | driverNotified (tripId driverId : ℕ) (serviceType : ServiceType) (estimatedPrice : ℚ)
  | commissionPaid (paymentId driverId : ℕ) (amount : ℚ)
  | paymentSucceeded (transactionRef : String) (amount : ℚ) (driverId : ℕ)
  | tripRated (tripId raterId : ℕ) (raterRole : SenderRole) (rating : ℕ) (tags : List String)
  deriving DecidableEq

inductive WsEvent where
  | rideDriverAccepted | rideDriverArrived | rideStarted | rideCompleted | rideCancelled
  | deliveryPickupEnRoute | deliveryParcelPickedUp | deliveryDelivered | deliveryCancelled
  | deliveryClientConfirmed | tripNewRequest | paymentConfirmed
  /-- `'admin:trip_update'` -/
  | adminTripUpdate
  deriving DecidableEq, Repr

/-- The entries of `SERVICE_EVENT_MAP` for `ride`, `intercity` and `assistance`. -/
def rideEvent : TripStatus → Option WsEvent
  | .pending => none
  | .accepted => some .rideDriverAccepted
  | .driverArriving => some .rideDriverArrived
  | .inProgress => some .rideStarted
  | .completed => some .rideCompleted
  | .cancelledByClient => some .rideCancelled
  | .cancelledByDriver => some .rideCancelled
  | .cancelledAuto => some .rideCancelled

/-- The entries of `SERVICE_EVENT_MAP` for `delivery` and `food`. -/
def deliveryEvent : TripStatus → Option WsEvent
  | .pending => none
  | .accepted => some .deliveryPickupEnRoute
  | .driverArriving => some .deliveryPickupEnRoute
  | .inProgress => some .deliveryParcelPickedUp
  | .completed => some .deliveryDelivered
  | .cancelledByClient => some .deliveryCancelled
  | .cancelledByDriver => some .deliveryCancelled
  | .cancelledAuto => some .deliveryCancelled

def getWsEventForService : ServiceType → TripStatus → Option WsEvent
  | .ride => rideEvent
  | .delivery => deliveryEvent
  | .food => deliveryEvent
  | .intercity => rideEvent
  | .assistance => rideEvent

inductive Room where
  | user (userId : ℕ)
  | driver (driverId : ℕ)
  | trip (tripId : ℕ)
  | admin
  deriving DecidableEq, Repr

inductive CancelledBy where
  | driver | client | system
  deriving DecidableEq, Repr

inductive WsPayload where
  /-- `broadcastStatusEvent` -/
  | tripUpdate (tripId : ℕ) (status : TripStatus) (cancelledBy : Option CancelledBy)
      (estimatedPrice finalPrice : Option ℚ) (reason : Option String)
  /-- `acceptedPayload` of `handleDriverAssigned` -/
  | accepted (tripId driverId : ℕ) (etaMinutes : Option ℤ) (driverLocation : Option Point)
      (estimatedPrice : Option ℚ)
  /-- `{ tripId, reason }` -/
  | cancellation (tripId : ℕ) (reason : String)
  /-- The payload of `trip:new_request` -/
  | newRequest (tripId : ℕ) (serviceType : ServiceType) (pickup : Point) (dropoff : Option Point)
      (estimatedPrice : ℚ) (commission : ℤ) (tripDistanceMeters driverDistanceMeters : ℤ)
      (durationSeconds : ℤ) (vehicleTypeId : ℕ)
  | paymentConfirmed (transactionId : String) (amount : ℚ) (driverId : ℕ)
  /-- `{ tripId }` of `delivery:client_confirmed` -/
  | clientConfirmed (tripId : ℕ)
  deriving DecidableEq

/-- The payload asks a driver to take a trip. -/
def WsPayload.isRequest : WsPayload → Bool
  | newRequest .. => true
  | _ => false

end Telima
