import Telima.Async.Pool
import Telima.Fleet.Schema

/-!
# The gateway and `DriversService`

The functions of `events.gateway.ts` with its services and handlers, of `drivers.service.ts` and
`tracking.service.ts`, and the part of `chat.service.ts` that sends messages.
-/

namespace Telima.Fleet

open Auth (JwtPayload)

/-- What the functions rest on: what a token says if its signature is valid, and when it expires. -/
structure FleetEnv where
  payload : String → Option JwtPayload
  expiresAt : String → ℕ

/-- `jwtService.verify` -/
def FleetEnv.verify (env : FleetEnv) (token : String) (now : ℕ) : Option JwtPayload :=
  if now < env.expiresAt token then env.payload token else none

/-- `prisma.driver.findUnique` and `findFirst` with the user -/
def findDriverByUser (userId : ℕ) : Prog (Option Driver) :=
  Async.query (.findDriverByUser userId) fun s =>
    s.drivers.findFirst fun driver => decide (driver.userId = userId)

/-- `prisma.driver.update` -/
def updateDriver (driverId : ℕ) (data : DriverData) : Prog Driver :=
  Async.queryE (.updateDriver driverId data) fun s =>
    ((s.drivers.find? driverId).map data.apply).elim (.error .recordNotFound) .ok

namespace PresenceService

/-- The error of an update is logged. -/
def setOnline (driverId : ℕ) : Prog Unit := do
  let now ← newDate
  Async.perform (.zadd driverId now)
  Async.tryCatch ((updateDriver driverId { isOnline := some true }).as ()) fun _ => pure ()

def setOffline (driverId : ℕ) : Prog Unit := do
  Async.perform (.zrem driverId)
  Async.tryCatch ((updateDriver driverId { isOnline := some false }).as ()) fun _ => pure ()

def heartbeat (driverId : ℕ) : Prog Unit := do
  let now ← newDate
  Async.perform (.zadd driverId now)

end PresenceService

namespace RoomsService

def joinUserRoom (socketId userId : ℕ) : Prog Unit := Async.emit (.join socketId (.user userId))

def joinDriverRoom (socketId driverId : ℕ) : Prog Unit :=
  Async.emit (.join socketId (.driver driverId))

def joinTripRoom (socketId tripId : ℕ) : Prog Unit := Async.emit (.join socketId (.trip tripId))

def joinAdminRoom (socketId : ℕ) : Prog Unit := Async.emit (.join socketId .adminDashboard)

end RoomsService

namespace BroadcastService

def emitToTrip (tripId : ℕ) (event : WsEvent) : Prog Unit := Async.emit (.emit (.trip tripId) event)

end BroadcastService

namespace DisconnectionHandler

open PresenceService

def cancelGracePeriod (driverId : ℕ) : Prog Unit := Async.emit (.clearTimer driverId)

def scheduleGracePeriod (driverId : ℕ) : Prog Unit := do
  cancelGracePeriod driverId
  Async.emit (.setTimer driverId)

/-- The callback of the timer, if it fires now. -/
def graceExpired (driverId : ℕ) : Prog Unit := do
  let due ← Async.read (.expireTimer driverId) fun s => s.timerDue driverId
  if due then Async.tryCatch (setOffline driverId) fun _ => pure () else pure ()

/-- The socket has been closed; `client.driverId` is what the connection has noted. -/
def handleDisconnect (socketId : ℕ) (driverId : Option ℕ) : Prog Unit := do
  Async.emit (.leaveAllRooms socketId)
  match driverId with
  | some driverId => scheduleGracePeriod driverId
  | none => pure ()

end DisconnectionHandler

namespace ConnectionHandler

open RoomsService PresenceService DisconnectionHandler

variable (env : FleetEnv) (socketId : ℕ)

/-- `client.disconnect()` of a socket without a driver -/
def reject : Prog Unit := do
  Async.emit (.close socketId)
  handleDisconnect socketId none

/-- What a connection of a driver does once his row is found. -/
def welcomeDriver (driver : Driver) : Prog Unit := do
  Async.emit (.setDriver socketId driver.id)
  cancelGracePeriod driver.id
  joinDriverRoom socketId driver.id
  setOnline driver.id

def welcome (user : JwtPayload) : Prog Unit := do
  Async.emit (.setUser socketId user)
  joinUserRoom socketId user.sub
  if user.role = .admin then joinAdminRoom socketId else pure ()
  if user.role = .driver then do
    match ← findDriverByUser user.sub with
    | some driver => welcomeDriver socketId driver
    | none => pure ()
  else pure ()

def handleConnection (token : Option String) : Prog Unit :=
  match token with
  | none => reject socketId
  | some token => do
    let now ← newDate
    match env.verify token now with
    | some user => welcome socketId user
    | none => reject socketId

end ConnectionHandler

namespace ChatService

def assertParticipant (tripId userId : ℕ) : Prog Unit := do
  let trip ← Async.query (.findTrip tripId) fun s => (s.trips.find? tripId).map fun trip =>
    (trip.clientId, (trip.driverId.bind s.drivers.find?).map Driver.userId)
  match trip with
  | none => Async.throw (.badRequest "Course introuvable")
  | some (clientId, driverUserId) =>
    if clientId = userId ∨ driverUserId = some userId then pure ()
    else Async.throw (.forbidden "Vous ne participez pas à cette course")

/-- A missing or empty text. -/
def isBlank (text : Option String) : Bool := text.all fun t => decide (t = "")

def createMessage (tripId senderId : ℕ) (senderRole : UserRole) (content audioUrl : Option String) :
    Prog ChatMessage :=
  if isBlank content ∧ isBlank audioUrl then
    Async.throw (.badRequest "content ou audioUrl requis")
  else do
    assertParticipant tripId senderId
    let message ← Async.query (.createMessage tripId senderId senderRole content audioUrl) fun s =>
      { id := s.chatMessages.freshKey, tripId, senderId, senderRole, content, audioUrl :
        ChatMessage }
    BroadcastService.emitToTrip tripId (.messageReceived message)
    pure message

end ChatService

namespace EventsGateway

open RoomsService PresenceService DisconnectionHandler

variable (socketId : ℕ)

def handleDriverJoinRoom (driverId : ℕ) : Prog Unit := do
  joinDriverRoom socketId driverId
  setOnline driverId

def handleDriverOnline (driverId : ℕ) : Prog Unit := do
  joinDriverRoom socketId driverId
  setOnline driverId

def handleDriverOffline (driverId : ℕ) : Prog Unit := setOffline driverId

def handleDriverRejoinRoom (driverId : ℕ) : Prog Unit := do
  cancelGracePeriod driverId
  joinDriverRoom socketId driverId
  setOnline driverId

/-- The position is stored, and shown to the trip that is named. -/
def sharePosition (driverId : ℕ) (dto : PositionDto) : Prog Unit := do
  heartbeat driverId
  Async.perform (.updateLocation driverId dto.lat dto.lng)
  match dto.tripId with
  | some tripId => BroadcastService.emitToTrip tripId (.driverLocationUpdate driverId dto)
  | none => pure ()

def handleDriverPosition (driverId : ℕ) (dto : PositionDto) : Prog Unit := sharePosition driverId dto

def handleDriverHeartbeat (driverId : ℕ) : Prog Unit := heartbeat driverId

def handleTripJoin (tripId : ℕ) : Prog Unit := joinTripRoom socketId tripId

/-- The error of a message is part of the answer. -/
def handleMessageSend (user : JwtPayload) (tripId : ℕ) (content audioUrl : Option String) :
    Prog Unit :=
  let senderRole := if user.role = .driver then UserRole.driver else .client
  Async.tryCatch ((ChatService.createMessage tripId user.sub senderRole content audioUrl).as ())
    fun _ => pure ()

/-- The handler of a message, after the guard. -/
def handle (user : JwtPayload) : Message → Prog Unit
  | .driverJoinRoom driverId => handleDriverJoinRoom socketId driverId
  | .driverOnline driverId => handleDriverOnline socketId driverId
  | .driverOffline driverId => handleDriverOffline driverId
  | .driverRejoinRoom driverId => handleDriverRejoinRoom socketId driverId
  | .driverPosition driverId dto => handleDriverPosition driverId dto
  | .driverHeartbeat driverId => handleDriverHeartbeat driverId
  | .tripJoin tripId => handleTripJoin socketId tripId
  | .messageSend tripId content audioUrl => handleMessageSend user tripId content audioUrl

/-- The user of the token of a connected socket: what `WsJwtGuard` lets through. -/
def guardUser (env : FleetEnv) (s : Store) : Option JwtPayload :=
  (s.sockets.find? socketId).bind fun socket =>
    if socket.connected then socket.token.bind fun token => env.verify token s.now else none

/-- A message comes in: `WsJwtGuard`, and the handler. -/
def receive (env : FleetEnv) (message : Message) : Prog Unit := do
  match ← Async.read (.receive socketId message) (guardUser socketId env) with
  | none => pure ()
  | some user => do
    Async.emit (.setUser socketId user)
    handle socketId user message

end EventsGateway

namespace TrackingService

def updatePosition (userId : ℕ) (dto : PositionDto) : Prog Unit := do
  match ← findDriverByUser userId with
  | none => Async.throw (.notFound "Profil chauffeur introuvable")
  | some driver => EventsGateway.sharePosition driver.id dto

end TrackingService

namespace DriversService

def register (userId : ℕ) (vehicle : VehicleInputDto) : Prog Unit := do
  match ← findDriverByUser userId with
  | some _ => Async.throw (.conflict "Un profil chauffeur existe deja pour cet utilisateur")
  | none => do
    let found ← Async.query (.findVehicleType vehicle.vehicleTypeId) fun s =>
      (s.vehicleTypes.find? vehicle.vehicleTypeId).isSome
    if found = false then Async.throw (.badRequest "Type de vehicule introuvable")
    else Async.queryE (.createDriver userId vehicle) fun s =>
      if s.refusesDriver userId vehicle then .error .constraint else .ok ()

/-- `MAX_COMMISSION_DUE` -/
def maxCommissionDue : ℚ := 50000

/-- The texts show the amounts. -/
def updateOnlineStatus (userId : ℕ) (isOnline : Bool) : Prog Unit := do
  match ← findDriverByUser userId with
  | none => Async.throw (.notFound "Profil chauffeur introuvable")
  | some driver =>
    if driver.status ≠ .validated then
      Async.throw (.badRequest "Seul un chauffeur valide peut passer en ligne")
    else if isOnline = true ∧ maxCommissionDue < driver.commissionDue.toNumber then
      Async.throw (.badRequest
        ("Commission impayee trop elevee (" ++ toString driver.commissionDue.toNumber ++ " FCFA). " ++
          "Veuillez payer vos commissions (max autorise : " ++ toString maxCommissionDue ++
          " FCFA) pour repasser en ligne."))
    else (updateDriver driver.id { isOnline := some isOnline }).as ()

def findById (driverId : ℕ) : Prog Driver := do
  match ← Async.query (.findDriver driverId) fun s => s.drivers.find? driverId with
  | none => Async.throw (.notFound "Chauffeur introuvable")
  | some driver => pure driver

def validate (driverId : ℕ) : Prog Unit := do
  let _ ← findById driverId
  (updateDriver driverId { status := some .validated }).as ()

def suspend (driverId : ℕ) : Prog Unit := do
  let _ ← findById driverId
  (updateDriver driverId { status := some .suspended, isOnline := some false }).as ()

end DriversService

/-! ### Calls -/

/-- A request, an event of a socket or of a timer, what another module does, or the passing of time. -/
inductive Call where
  | connect (socketId : ℕ) (token : Option String)
  | disconnect (socketId : ℕ)
  | message (socketId : ℕ) (message : Message)
  | graceExpired (driverId : ℕ)
  | updatePosition (userId : ℕ) (dto : PositionDto)
  | register (userId : ℕ) (vehicle : VehicleInputDto)
  | validate (driverId : ℕ)
  | suspend (driverId : ℕ)
  | updateOnlineStatus (userId : ℕ) (isOnline : Bool)
  | incrementDue (driverId : ℕ) (amount : ℚ)
  | createTrip (clientId : ℕ)
  | assignDriver (tripId driverId : ℕ)
  | notify (room : Room) (name : String)
  | wait (ms : ℕ)
  deriving DecidableEq

/-- A new socket is connected, and its connection handled; ids are not used twice. -/
def connectSocket (env : FleetEnv) (socketId : ℕ) (token : Option String) : Prog Unit := do
  let taken ← Async.read (.connect socketId token) fun s => (s.sockets.find? socketId).isSome
  if taken then pure ()
  else do
    ConnectionHandler.handleConnection env socketId token
    Async.emit (.handled socketId)

/-- A connected socket is closed by its client or by the network. -/
def disconnectSocket (socketId : ℕ) : Prog Unit := do
  let closed ← Async.read (.disconnect socketId) fun s =>
    (s.sockets.find? socketId).bind fun socket =>
      if socket.connected then some socket.driverId else none
  match closed with
  | none => pure ()
  | some driverId => DisconnectionHandler.handleDisconnect socketId driverId

def Call.program (env : FleetEnv) : Call → Prog Unit
  | connect socketId token => connectSocket env socketId token
  | disconnect socketId => disconnectSocket socketId
  | message socketId m => EventsGateway.receive socketId env m
  | graceExpired driverId => DisconnectionHandler.graceExpired driverId
  | updatePosition userId dto => TrackingService.updatePosition userId dto
  | register userId vehicle => DriversService.register userId vehicle
  | validate driverId => DriversService.validate driverId
  | suspend driverId => DriversService.suspend driverId
  | updateOnlineStatus userId isOnline => DriversService.updateOnlineStatus userId isOnline
  | incrementDue driverId amount => Async.perform (.incrementDue driverId amount)
  | createTrip clientId => Async.perform (.createTrip clientId)
  | assignDriver tripId driverId => Async.perform (.assignDriver tripId driverId)
  | notify room name => Async.emit (.emit room (.other name))
  | wait ms => Async.perform (.tick ms)

/-- The calls share the server and start no handlers. -/
def system : System Store Cmd Error Unit where
  exec := Cmd.exec
  handlers _ := []

@[simp] theorem system_exec : system.exec = Cmd.exec := rfl

@[simp] theorem system_handlers (c : Cmd) : system.handlers c = [] := rfl

/-- The calls start on the server. -/
def start (env : FleetEnv) (s : Store) (calls : List Call) : Pool Store Cmd Error Unit :=
  Pool.init s (calls.map (Call.program env))

theorem exists_call_of_start {env : FleetEnv} {s : Store} {calls : List Call} {i : ℕ}
    {t : Prog Unit} (h : (start env s calls).threads[i]? = some t) :
    ∃ call, calls[i]? = some call ∧ t = call.program env := by
  have hmap : (calls.map (Call.program env))[i]? = some t := h
  rw [List.getElem?_map] at hmap
  obtain ⟨call, hcall, rfl⟩ := Option.map_eq_some_iff.mp hmap
  exact ⟨call, hcall, rfl⟩

/-! ### A small town -/

namespace Town

/-- Users 10 and 11 are drivers, user 20 is a client, user 30 is another one. -/
def env : FleetEnv where
  payload
    | "d1" => some { sub := 10, phone := "+22370000010", role := .driver }
    | "d2" => some { sub := 11, phone := "+22370000011", role := .driver }
    | "c1" => some { sub := 20, phone := "+22370000020", role := .client }
    | "c2" => some { sub := 30, phone := "+22370000030", role := .client }
    | _ => none
  expiresAt _ := 1000000000

/-- Driver 1 is validated, driver 2 owes too much; trip 1 of client 20 is assigned to driver 1. -/
def store : Store where
  drivers :=
    ⟨[{ id := 1, userId := 10, status := .validated },
      { id := 2, userId := 11, status := .validated, commissionDue := 6000000 }], by decide⟩
  trips :=
    .single { id := 1, clientId := 20, driverId := some 1, status := .accepted, createdAt := 0 }

end Town

end Telima.Fleet
