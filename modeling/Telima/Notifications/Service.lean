import Telima.Async.Run
import Telima.Auth.Service
import Telima.Trips.Service

/-!
# Push notifications

What `NotificationHandler` does when a trip is cancelled and when a chat message is sent, and what emits
the two events: `updateStatus`, and `ChatService` behind its controller and behind the gateway.  The
messages and the device tokens are kept beside the other tables.  What the push provider answers is a
parameter (`PushEnv`).
-/

namespace Telima.Notifications

structure ChatMessage where
  id : ℕ
  tripId : ℕ
  senderId : ℕ
  senderRole : SenderRole
  content : Option String := none
  audioUrl : Option String := none
  deriving DecidableEq, Repr

structure DeviceToken where
  token : String
  userId : ℕ
  deriving DecidableEq, Repr

structure Store where
  core : Telima.Store
  chatMessages : Table ℕ ChatMessage ChatMessage.id := .empty
  /-- `token` is `@unique`. -/
  deviceTokens : Table String DeviceToken DeviceToken.token := .empty

/-- The users a trip concerns. -/
structure Parties where
  clientId : ℕ
  driverUserId : Option ℕ
  deriving DecidableEq

/-- `select: { clientId: true, driver: { select: { userId: true } } }` -/
def Store.parties (s : Store) (tripId : ℕ) : Option Parties :=
  (s.core.trips.find? tripId).map fun trip =>
    { clientId := trip.clientId
      driverUserId := (trip.driverId.bind s.core.drivers.find?).map Driver.userId }

structure ChatMessageSentEvent where
  messageId : ℕ
  tripId : ℕ
  senderId : ℕ
  senderRole : SenderRole
  deriving DecidableEq

inductive Priority where
  | high | normal
  deriving DecidableEq, Repr

/-- The `data` of a notification. -/
structure NotificationData where
  tripId : ℕ
  type : String
  deriving DecidableEq

/-- What `sendToUser` is given. -/
structure Notification where
  title : String
  body : String
  data : NotificationData
  priority : Option Priority := none
  deriving DecidableEq

structure PushNotification where
  token : String
  title : String
  body : String
  data : NotificationData
  priority : Priority
  deriving DecidableEq

inductive Cmd where
  | core (c : Telima.Cmd)
  | findParties (tripId : ℕ)
  | createMessage (tripId senderId : ℕ) (senderRole : SenderRole) (content audioUrl : Option String)
  /-- `message:received` to the room of the trip -/
  | emitToTrip (tripId : ℕ) (message : ChatMessage)
  | emit (event : ChatMessageSentEvent)
  | findDeviceTokens (userId : ℕ)
  | sendMulticast (notifications : List PushNotification)

/-- The effect of a command. -/
def Cmd.exec : Cmd → Store → Store
  | core c, s => { s with core := c.exec s.core }
  | createMessage tripId senderId senderRole content audioUrl, s =>
    { s with
      chatMessages := s.chatMessages.insert
        { id := s.chatMessages.freshKey, tripId, senderId, senderRole, content, audioUrl } }
  | _, s => s

abbrev Prog (α : Type) : Type := Async Store Cmd Error α

/-- `sendMulticast` of the push provider: it answers or throws. -/
structure PushEnv where
  sendMulticast : List PushNotification → Store → Except Error Unit

def findParties (tripId : ℕ) : Prog (Option Parties) :=
  Async.query (.findParties tripId) fun s => s.parties tripId

/-! ### The events, and their handlers -/

inductive Event where
  | tripCancelled (tripId cancelledBy : ℕ) (reason : String)
  | chatMessageSent (event : ChatMessageSentEvent)
  deriving DecidableEq

/-- The event a command emits that a handler below listens to. -/
def Cmd.event? : Cmd → Option Event
  | core (.emit (.tripCancelled tripId cancelledBy reason)) =>
    some (.tripCancelled tripId cancelledBy reason)
  | emit event => some (.chatMessageSent event)
  | _ => none

namespace NotificationHandler

variable (env : PushEnv)

/-- An error is only logged. -/
def sendToUser (userId : ℕ) (notification : Notification) : Prog Unit :=
  Async.tryCatch
    (do
      let tokens ← Async.query (.findDeviceTokens userId) fun s =>
        s.deviceTokens.findMany fun row => decide (row.userId = userId)
      if tokens = [] then pure ()
      else do
        let notifications : List PushNotification := tokens.map fun row =>
          { token := row.token
            title := notification.title
            body := notification.body
            data := notification.data
            priority := notification.priority.getD .normal }
        Async.queryE (.sendMulticast notifications) (env.sendMulticast notifications))
    fun _ => pure ()

/-- `if (targetUserId)` -/
def sendToTarget (targetUserId : Option ℕ) (notification : Notification) : Prog Unit :=
  match targetUserId with
  | some targetUserId => sendToUser env targetUserId notification
  | none => pure ()

def handleTripCancelled (tripId cancelledBy : ℕ) (reason : String) : Prog Unit := do
  match ← findParties tripId with
  | none => pure ()
  | some trip =>
    sendToTarget env
      (if cancelledBy = trip.clientId then trip.driverUserId else some trip.clientId)
      { title := "Course annulée"
        body := "La course a été annulée. Raison: " ++
          (if reason = "" then "non précisée" else reason)
        data := { tripId, type := "trip_cancelled" } }

def handleChatMessageSent (event : ChatMessageSentEvent) : Prog Unit := do
  match ← findParties event.tripId with
  | none => pure ()
  | some trip =>
    sendToTarget env
      (if event.senderRole = .client then trip.driverUserId else some trip.clientId)
      { title := "Nouveau message"
        body := "Vous avez reçu un nouveau message."
        data := { tripId := event.tripId, type := "chat_message" } }

def handle : Event → Prog Unit
  | .tripCancelled tripId cancelledBy reason => handleTripCancelled env tripId cancelledBy reason
  | .chatMessageSent event => handleChatMessageSent env event

end NotificationHandler

/-! ### What emits them -/

/-- `req.user` of a request -/
structure AuthenticatedUser where
  id : ℕ
  phone : String
  role : UserRole
  deriving DecidableEq

namespace ChatService

def assertParticipant (tripId userId : ℕ) : Prog Unit := do
  match ← findParties tripId with
  | none => Async.throw (.badRequest "Course introuvable")
  | some trip =>
    if trip.clientId = userId ∨ trip.driverUserId = some userId then pure ()
    else Async.throw (.forbidden "Vous ne participez pas à cette course")

/-- A missing or empty text. -/
def isBlank (text : Option String) : Bool := text.all fun t => decide (t = "")

def createMessage (tripId senderId : ℕ) (senderRole : SenderRole)
    (content audioUrl : Option String) : Prog ChatMessage :=
  if isBlank content ∧ isBlank audioUrl then
    Async.throw (.badRequest "content ou audioUrl requis")
  else do
    assertParticipant tripId senderId
    let message ← Async.query (.createMessage tripId senderId senderRole content audioUrl) fun s =>
      { id := s.chatMessages.freshKey, tripId, senderId, senderRole, content, audioUrl :
        ChatMessage }
    Async.emit (.emitToTrip tripId message)
    Async.emit (.emit { messageId := message.id, tripId, senderId, senderRole })
    pure message

end ChatService

/-- `user.role === 'driver' ? SenderRole.driver : SenderRole.client` -/
def senderRole (role : UserRole) : SenderRole := if role = .driver then .driver else .client

namespace ChatController

def sendMessage (tripId : ℕ) (user : AuthenticatedUser) (content audioUrl : Option String) :
    Prog ChatMessage :=
  ChatService.createMessage tripId user.id (senderRole user.role) content audioUrl

end ChatController

inductive AckError where
  | text (message : String)
  /-- `err.message` -/
  | messageOf (error : Error)
  deriving DecidableEq

/-- The answer to a message of the socket. -/
structure Ack where
  acknowledged : Bool
  error : Option AckError := none
  deriving DecidableEq

namespace EventsGateway

/-- `client.user` is what the guard has put on the socket: the payload of its token. -/
def handleMessageSend (user : Option Auth.JwtPayload) (tripId : ℕ)
    (content audioUrl : Option String) : Prog Ack :=
  match user with
  | none => pure { acknowledged := false, error := some (.text "Non authentifié") }
  | some user =>
    Async.tryCatch
      (do
        let _ ← ChatService.createMessage tripId user.sub (senderRole user.role) content audioUrl
        pure { acknowledged := true })
      fun error => pure { acknowledged := false, error := some (.messageOf error) }

end EventsGateway

namespace TripsController

def updateStatus (tripId : ℕ) (user : AuthenticatedUser) (dto : UpdateTripStatusDto) : Prog Trip :=
  (TripsService.updateStatus tripId user.id user.role dto).embed Store.core Cmd.core

end TripsController

/-! ### What a participant does -/

/-- The statuses of a cancelled trip. -/
inductive Cancellation where
  | byClient | byDriver | auto
  deriving DecidableEq, Repr

def Cancellation.status : Cancellation → TripStatus
  | byClient => .cancelledByClient
  | byDriver => .cancelledByDriver
  | auto => .cancelledAuto

/-- A chat message over REST, one over the socket, or a cancellation. -/
inductive Act where
  | sendMessage (tripId : ℕ) (user : AuthenticatedUser) (content audioUrl : Option String)
  | handleMessageSend (tripId : ℕ) (user : Auth.JwtPayload) (content audioUrl : Option String)
  | cancel (tripId : ℕ) (user : AuthenticatedUser) (cancellation : Cancellation)
      (cancelReason : Option String)

namespace Act

def tripId : Act → ℕ
  | sendMessage tripId .. | handleMessageSend tripId .. | cancel tripId .. => tripId

/-- Who acts. -/
def userId : Act → ℕ
  | sendMessage _ user .. | cancel _ user .. => user.id
  | handleMessageSend _ user .. => user.sub

/-- The role of his account. -/
def role : Act → UserRole
  | sendMessage _ user .. | cancel _ user .. => user.role
  | handleMessageSend _ user .. => user.role

def isMessage : Act → Bool
  | cancel .. => false
  | _ => true

/-- Whether it was done; an act that is not may also throw. -/
def program : Act → Prog Bool
  | sendMessage tripId user content audioUrl =>
    (ChatController.sendMessage tripId user content audioUrl).as true
  | handleMessageSend tripId user content audioUrl => do
    let ack ← EventsGateway.handleMessageSend (some user) tripId content audioUrl
    pure ack.acknowledged
  | cancel tripId user cancellation cancelReason =>
    (TripsController.updateStatus tripId user
      { status := cancellation.status, cancelReason }).as true

def run (act : Act) (s : Store) : Outcome Store Cmd Error Bool := act.program.run Cmd.exec s

end Act

end Telima.Notifications
