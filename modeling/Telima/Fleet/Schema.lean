import Telima.Async.Basic
import Telima.Auth.Service
import Telima.Data.Decimal2

/-!
# The drivers and their sockets

The tables the gateway and `DriversService` use, the sorted set of presences in Redis, the sockets and
the grace timers of one server, and what the functions can do to them in one step (`Cmd`).  Ids are
numbers, times are milliseconds, coordinates are rationals.
-/

namespace Telima.Fleet

open Auth (JwtPayload User)

inductive DriverStatus where
  | pendingValidation | validated | suspended | rejected
  deriving DecidableEq, Repr

structure GeoPoint where
  lat : ℚ
  lng : ℚ
  deriving DecidableEq, Repr

structure Driver where
  id : ℕ
  userId : ℕ
  status : DriverStatus := .pendingValidation
  rating : ℚ := 5
  commissionDue : Decimal2 := 0
  isOnline : Bool := false
  currentLocation : Option GeoPoint := none
  lastLocationAt : Option ℕ := none
  deriving DecidableEq, Repr

structure Vehicle where
  id : ℕ
  driverId : ℕ
  vehicleTypeId : ℕ
  brand : String
  model : String
  plateNumber : String
  deriving DecidableEq, Repr

structure VehicleType where
  id : ℕ
  serviceType : ServiceType
  isActive : Bool := true
  deriving DecidableEq, Repr

structure Trip where
  id : ℕ
  clientId : ℕ
  driverId : Option ℕ := none
  status : TripStatus := .pending
  createdAt : ℕ
  deriving DecidableEq, Repr

structure ChatMessage where
  id : ℕ
  tripId : ℕ
  senderId : ℕ
  senderRole : UserRole
  content : Option String := none
  audioUrl : Option String := none
  deriving DecidableEq, Repr

/-- A room of the server. -/
inductive Room where
  | user (userId : ℕ)
  | driver (driverId : ℕ)
  | trip (tripId : ℕ)
  | adminDashboard
  deriving DecidableEq, Repr

/-- A socket, and what the handlers have noted on it. -/
structure Socket where
  id : ℕ
  /-- `client.handshake.auth.token` -/
  token : Option String
  user : Option JwtPayload := none
  driverId : Option ℕ := none
  rooms : List Room := []
  connected : Bool := true
  deriving DecidableEq, Repr

structure Store where
  users : Table ℕ User User.id := .empty
  drivers : Table ℕ Driver Driver.id := .empty
  vehicles : Table ℕ Vehicle Vehicle.id := .empty
  vehicleTypes : Table ℕ VehicleType VehicleType.id := .empty
  trips : Table ℕ Trip Trip.id := .empty
  chatMessages : Table ℕ ChatMessage ChatMessage.id := .empty
  /-- `telima:driver:presence` in Redis: the scores of the drivers in the set. -/
  presence : ℕ → Option ℕ := fun _ => none
  /-- `DisconnectionHandler.graceTimers`: when the timer of a driver expires. -/
  graceTimers : ℕ → Option ℕ := fun _ => none
  sockets : Table ℕ Socket Socket.id := .empty
  now : ℕ := 0

/-- What the functions can throw. -/
inductive Error where
  | badRequest (message : String)
  | notFound (message : String)
  | conflict (message : String)
  | forbidden (message : String)
  /-- Prisma: the record does not exist. -/
  | recordNotFound
  /-- Prisma: a constraint fails. -/
  | constraint
  /-- An error of another kind. -/
  | other (message : String)
  deriving DecidableEq, Repr

/-- The `data` of an update of a driver; `none` leaves a column as it is. -/
structure DriverData where
  status : Option DriverStatus := none
  isOnline : Option Bool := none
  deriving DecidableEq

def DriverData.apply (data : DriverData) (driver : Driver) : Driver :=
  { driver with
    status := data.status.getD driver.status
    isOnline := data.isOnline.getD driver.isOnline }

theorem DriverData.id_apply (data : DriverData) (driver : Driver) :
    (data.apply driver).id = driver.id := rfl

def Driver.incrementDue (amount : ℚ) (driver : Driver) : Driver :=
  { driver with commissionDue := driver.commissionDue.increment amount }

theorem Driver.id_incrementDue (amount : ℚ) (driver : Driver) :
    (driver.incrementDue amount).id = driver.id := rfl

def Driver.move (lat lng : ℚ) (now : ℕ) (driver : Driver) : Driver :=
  { driver with currentLocation := some ⟨lat, lng⟩, lastLocationAt := some now }

theorem Driver.id_move (lat lng : ℚ) (now : ℕ) (driver : Driver) :
    (driver.move lat lng now).id = driver.id := rfl

def Trip.assign (driverId : ℕ) (trip : Trip) : Trip := { trip with driverId := some driverId }

theorem Trip.id_assign (driverId : ℕ) (trip : Trip) : (trip.assign driverId).id = trip.id := rfl

namespace Socket

def setUser (user : JwtPayload) (socket : Socket) : Socket := { socket with user := some user }

theorem id_setUser (user : JwtPayload) (socket : Socket) : (socket.setUser user).id = socket.id := rfl

def setDriver (driverId : ℕ) (socket : Socket) : Socket := { socket with driverId := some driverId }

theorem id_setDriver (driverId : ℕ) (socket : Socket) : (socket.setDriver driverId).id = socket.id :=
  rfl

def join (room : Room) (socket : Socket) : Socket :=
  { socket with rooms := if room ∈ socket.rooms then socket.rooms else socket.rooms ++ [room] }

theorem id_join (room : Room) (socket : Socket) : (socket.join room).id = socket.id := rfl

def leaveAllRooms (socket : Socket) : Socket := { socket with rooms := [] }

theorem id_leaveAllRooms (socket : Socket) : socket.leaveAllRooms.id = socket.id := rfl

def close (socket : Socket) : Socket := { socket with connected := false }

theorem id_close (socket : Socket) : socket.close.id = socket.id := rfl

end Socket

/-- The vehicle of `RegisterDriverDto`. -/
structure VehicleInputDto where
  vehicleTypeId : ℕ
  brand : String
  model : String
  plateNumber : String
  deriving DecidableEq

/-- `driver:position` and `UpdatePositionDto` -/
structure PositionDto where
  tripId : Option ℕ := none
  lat : ℚ
  lng : ℚ
  heading : Option ℚ := none
  speed : Option ℚ := none
  deriving DecidableEq

/-- A message of a client. -/
inductive Message where
  | driverJoinRoom (driverId : ℕ)
  | driverOnline (driverId : ℕ)
  | driverOffline (driverId : ℕ)
  | driverRejoinRoom (driverId : ℕ)
  | driverPosition (driverId : ℕ) (dto : PositionDto)
  | driverHeartbeat (driverId : ℕ)
  | tripJoin (tripId : ℕ)
  | messageSend (tripId : ℕ) (content audioUrl : Option String)
  deriving DecidableEq

/-- What is emitted to a room. -/
inductive WsEvent where
  /-- `driver:location_update` -/
  | driverLocationUpdate (driverId : ℕ) (dto : PositionDto)
  | messageReceived (message : ChatMessage)
  /-- An event of the other modules. -/
  | other (name : String)
  deriving DecidableEq

inductive Cmd where
  -- tables
  | findDriverByUser (userId : ℕ)
  | findDriver (driverId : ℕ)
  | findVehicleType (vehicleTypeId : ℕ)
  /-- The transaction of `register`. -/
  | createDriver (userId : ℕ) (vehicle : VehicleInputDto)
  | updateDriver (driverId : ℕ) (data : DriverData)
  /-- A change of `commission_due` by the commissions or the payments. -/
  | incrementDue (driverId : ℕ) (amount : ℚ)
  | updateLocation (driverId : ℕ) (lat lng : ℚ)
  | findTrip (tripId : ℕ)
  | createTrip (clientId : ℕ)
  | assignDriver (tripId driverId : ℕ)
  | createMessage (tripId senderId : ℕ) (senderRole : UserRole) (content audioUrl : Option String)
  -- Redis
  | zadd (driverId score : ℕ)
  | zrem (driverId : ℕ)
  -- grace timers
  /-- `setTimeout`, and the entry of `graceTimers`. -/
  | setTimer (driverId : ℕ)
  /-- `clearTimeout`, and the entry of `graceTimers`. -/
  | clearTimer (driverId : ℕ)
  /-- The timer of the driver fires, if it is due; its callback deletes the entry first. -/
  | expireTimer (driverId : ℕ)
  -- sockets
  | connect (socketId : ℕ) (token : Option String)
  /-- The socket is closed by its client or by the network. -/
  | disconnect (socketId : ℕ)
  /-- `client.disconnect()` -/
  | close (socketId : ℕ)
  | receive (socketId : ℕ) (message : Message)
  | setUser (socketId : ℕ) (user : JwtPayload)
  | setDriver (socketId driverId : ℕ)
  | join (socketId : ℕ) (room : Room)
  | leaveAllRooms (socketId : ℕ)
  /-- `handleConnection` has returned; nothing happens. -/
  | handled (socketId : ℕ)
  | emit (room : Room) (event : WsEvent)
  -- time
  | date
  | tick (ms : ℕ)
  deriving DecidableEq

/-- `GRACE_PERIOD_MS` -/
def gracePeriodMs : ℕ := 60000

/-- The timer of the driver is set and due. -/
def Store.timerDue (s : Store) (driverId : ℕ) : Bool :=
  (s.graceTimers driverId).any fun expiresAt => decide (expiresAt ≤ s.now)

/-- The transaction of `register` fails: the user does not exist, he is a driver, or the plate number
is taken. -/
def Store.refusesDriver (s : Store) (userId : ℕ) (vehicle : VehicleInputDto) : Bool :=
  (s.users.find? userId).isNone ||
    s.drivers.rows.any (fun driver => decide (driver.userId = userId)) ||
    s.vehicles.rows.any fun other => decide (other.plateNumber = vehicle.plateNumber)

namespace Cmd

/-- The effect of a command. -/
def exec : Cmd → Store → Store
  | createDriver userId vehicle, s =>
    if s.refusesDriver userId vehicle then s
    else
      { s with
        drivers := s.drivers.insert { id := s.drivers.freshKey, userId }
        vehicles := s.vehicles.insert
          { id := s.vehicles.freshKey, driverId := s.drivers.freshKey
            vehicleTypeId := vehicle.vehicleTypeId, brand := vehicle.brand, model := vehicle.model
            plateNumber := vehicle.plateNumber }
        users := s.users.update userId (fun user => { user with role := .driver }) fun _ => rfl }
  | updateDriver driverId data, s =>
    { s with drivers := s.drivers.update driverId data.apply data.id_apply }
  | incrementDue driverId amount, s =>
    { s with
      drivers := s.drivers.update driverId (Driver.incrementDue amount)
        (Driver.id_incrementDue amount) }
  | updateLocation driverId lat lng, s =>
    { s with
      drivers := s.drivers.update driverId (Driver.move lat lng s.now) (Driver.id_move lat lng s.now) }
  | createTrip clientId, s =>
    { s with trips := s.trips.insert { id := s.trips.freshKey, clientId, createdAt := s.now } }
  | assignDriver tripId driverId, s =>
    { s with trips := s.trips.update tripId (Trip.assign driverId) (Trip.id_assign driverId) }
  | createMessage tripId senderId senderRole content audioUrl, s =>
    { s with
      chatMessages := s.chatMessages.insert
        { id := s.chatMessages.freshKey, tripId, senderId, senderRole, content, audioUrl } }
  | zadd driverId score, s =>
    { s with presence := Function.update s.presence driverId (some score) }
  | zrem driverId, s => { s with presence := Function.update s.presence driverId none }
  | setTimer driverId, s =>
    { s with graceTimers := Function.update s.graceTimers driverId (some (s.now + gracePeriodMs)) }
  | clearTimer driverId, s => { s with graceTimers := Function.update s.graceTimers driverId none }
  | expireTimer driverId, s =>
    if s.timerDue driverId then
      { s with graceTimers := Function.update s.graceTimers driverId none }
    else s
  | connect socketId token, s => { s with sockets := s.sockets.insert { id := socketId, token } }
  | disconnect socketId, s | close socketId, s =>
    { s with sockets := s.sockets.update socketId Socket.close Socket.id_close }
  | setUser socketId user, s =>
    { s with sockets := s.sockets.update socketId (Socket.setUser user) (Socket.id_setUser user) }
  | setDriver socketId driverId, s =>
    { s with
      sockets := s.sockets.update socketId (Socket.setDriver driverId) (Socket.id_setDriver driverId) }
  | join socketId room, s =>
    { s with sockets := s.sockets.update socketId (Socket.join room) (Socket.id_join room) }
  | leaveAllRooms socketId, s =>
    { s with sockets := s.sockets.update socketId Socket.leaveAllRooms Socket.id_leaveAllRooms }
  | tick ms, s => { s with now := s.now + ms }
  | _, s => s

end Cmd

/-- A function of the server. -/
abbrev Prog (α : Type) : Type := Async Store Cmd Error α

/-- `Date.now()` -/
def newDate : Prog ℕ := Async.read .date Store.now

end Telima.Fleet
