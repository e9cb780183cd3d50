import Telima.Async.Observers
import Telima.Notifications.Privacy

/-!
# All push notifications

`NotificationHandler` listens to the domain events that concern one user, and pushes to his devices, beside
the handlers the rest of the server has for them.  Two of its handlers are those of `Notifications.Service`.

`pushes_unobtrusive`: chat, devices and pushes are observers of the rest of the server.  Whatever they do and
however often they fail, a run of the whole server is a run without them, as far as trips, offers, payments
and commissions are concerned.
-/

namespace Telima.Notifications

/-! ### What is pushed -/

namespace Pushes

/-- A value in the `data` of a push; an id and a service type are texts of their own. -/
inductive Value where
  | id (id : ℕ)
  | service (serviceType : ServiceType)
  | text (text : String)
  deriving DecidableEq

/-- What `sendToUser` is given. -/
structure Notice where
  title : String
  body : String
  data : List (String × Value)
  priority : Option Priority := none
  deriving DecidableEq

structure Push where
  token : String
  title : String
  body : String
  data : List (String × Value)
  priority : Priority
  deriving DecidableEq

def Notice.push (notice : Notice) (token : String) : Push where
  token := token
  title := notice.title
  body := notice.body
  data := notice.data
  priority := notice.priority.getD .normal

end Pushes

def NotificationData.record (data : NotificationData) : List (String × Pushes.Value) :=
  [("tripId", .id data.tripId), ("type", .text data.type)]

def Notification.notice (notification : Notification) : Pushes.Notice where
  title := notification.title
  body := notification.body
  data := notification.data.record
  priority := notification.priority

def PushNotification.push (notification : PushNotification) : Pushes.Push where
  token := notification.token
  title := notification.title
  body := notification.body
  data := notification.data.record
  priority := notification.priority

namespace Pushes

/-! ### Commands and events -/

inductive Cmd where
  | chat (c : Privacy.Cmd)
  /-- `driver.findUnique({ where: { id }, select: { userId: true } })` -/
  | findDriverUser (driverId : ℕ)
  | sendMulticast (pushes : List Push)

def Cmd.exec : Cmd → Store → Store
  | chat c, s => c.exec s
  | _, s => s

/-- The commands of the chat, of the devices and of the two handlers; pushes are sent as those of the
other handlers. -/
def Cmd.ofChat : Privacy.Cmd → Cmd
  | .notification (.sendMulticast notifications) =>
    sendMulticast (notifications.map PushNotification.push)
  | c => chat c

def Cmd.ofNotification (c : Notifications.Cmd) : Cmd := ofChat (.notification c)

/-- The command of the rest of the server, if it is one. -/
def Cmd.core? : Cmd → Option Telima.Cmd
  | chat (.notification (.core c)) => some c
  | _ => none

/-- What a command pushes, if it does. -/
def Cmd.pushes? : Cmd → Option (List Push)
  | sendMulticast pushes => some pushes
  | _ => none

abbrev Prog (α : Type) : Type := Async Store Cmd Error α

inductive Event where
  | domain (event : DomainEvent)
  | chatMessageSent (event : ChatMessageSentEvent)
  deriving DecidableEq

/-- The event a command emits. -/
def Cmd.event? : Cmd → Option Event
  | chat (.notification (.core (.emit event))) => some (.domain event)
  | chat (.notification (.emit event)) => some (.chatMessageSent event)
  | _ => none

structure PushEnv where
  /-- `String(x)` of a number -/
  numberText : ℚ → String
  /-- The address a `DriverNotified` event carries. -/
  pickupAddress : DomainEvent → Option String
  /-- The provider answers or throws. -/
  sendMulticast : List Push → Store → Except Error Unit

/-- The provider of the two handlers of `Notifications.Service`. -/
def PushEnv.forChat (env : PushEnv) : Notifications.PushEnv where
  sendMulticast notifications := env.sendMulticast (notifications.map PushNotification.push)

/-! ### The notices -/

namespace Notice

variable (env : PushEnv)

def newRequest (tripId : ℕ) (serviceType : ServiceType) (pickupAddress : Option String) : Notice where
  title := if serviceType = .delivery then "Nouvelle livraison" else "Nouvelle course"
  body := if ChatService.isBlank pickupAddress then
      "Une demande vous attend. Ouvrez l'application pour repondre."
    else "Prise en charge : " ++ pickupAddress.getD ""
  data := [("tripId", .id tripId), ("type", .text "trip_new_request"),
    ("serviceType", .service serviceType)]
  priority := some .high

def accepted (tripId : ℕ) : Notice where
  title := "Chauffeur en route"
  body := "Votre chauffeur a accepté la course et se dirige vers vous."
  data := [("tripId", .id tripId), ("type", .text "trip_accepted")]
  priority := some .high

def arrived (tripId : ℕ) : Notice where
  title := "Chauffeur arrivé"
  body := "Votre chauffeur est arrivé sur le lieu de prise en charge."
  data := [("tripId", .id tripId), ("type", .text "trip_arrived")]
  priority := some .high

def started (tripId : ℕ) : Notice where
  title := "Course en cours"
  body := "Votre course a démarré. Bon trajet !"
  data := [("tripId", .id tripId), ("type", .text "trip_started")]

def completed (tripId : ℕ) (finalPrice : ℚ) : Notice where
  title := "Course terminée"
  body := "Votre course est terminée. Prix: " ++ env.numberText finalPrice ++
    " FCFA. N'oubliez pas de noter votre chauffeur."
  data := [("tripId", .id tripId), ("type", .text "trip_completed"),
    ("finalPrice", .text (env.numberText finalPrice))]

def cancelled (tripId : ℕ) (reason : String) : Notice where
  title := "Course annulée"
  body := "La course a été annulée. Raison: " ++ if reason = "" then "non précisée" else reason
  data := [("tripId", .id tripId), ("type", .text "trip_cancelled")]

def paymentConfirmed (amount : ℚ) : Notice where
  title := "Paiement confirmé"
  body := "Votre paiement de commission de " ++ env.numberText amount ++ " FCFA a été confirmé."
  data := [("type", .text "payment_confirmed"), ("amount", .text (env.numberText amount))]

def chatMessage (tripId : ℕ) : Notice where
  title := "Nouveau message"
  body := "Vous avez reçu un nouveau message."
  data := [("tripId", .id tripId), ("type", .text "chat_message")]

end Notice

/-! ### The handlers -/

/-- `deviceToken.findMany({ where: { userId } })` -/
def devices (userId : ℕ) (s : Store) : List DeviceToken :=
  s.deviceTokens.findMany fun row => decide (row.userId = userId)

namespace NotificationHandler

variable (env : PushEnv)

/-- An error is only logged. -/
def sendToUser (userId : ℕ) (notice : Notice) : Prog Unit :=
  Async.tryCatch
    (do
      let tokens ← Async.query (.ofNotification (.findDeviceTokens userId)) (devices userId)
      if tokens = [] then pure ()
      else do
        let pushes : List Push := tokens.map fun row => notice.push row.token
        Async.queryE (.sendMulticast pushes) (env.sendMulticast pushes))
    fun _ => pure ()

/-- `sendToUser(driver.userId, …)`, if there is such a driver. -/
def sendToDriver (driverId : ℕ) (notice : Notice) : Prog Unit := do
  let userId ← Async.query (.findDriverUser driverId) fun s =>
    (s.core.drivers.find? driverId).map Driver.userId
  match userId with
  | none => pure ()
  | some userId => sendToUser env userId notice

def handleDriverNotified (tripId driverId : ℕ) (serviceType : ServiceType)
    (pickupAddress : Option String) : Prog Unit :=
  sendToDriver env driverId (.newRequest tripId serviceType pickupAddress)

def handleTripAccepted (tripId clientId : ℕ) : Prog Unit :=
  sendToUser env clientId (.accepted tripId)

def handleTripArrived (tripId clientId : ℕ) : Prog Unit :=
  sendToUser env clientId (.arrived tripId)

def handleTripStarted (tripId clientId : ℕ) : Prog Unit :=
  sendToUser env clientId (.started tripId)

def handleTripCompleted (tripId clientId : ℕ) (finalPrice : ℚ) : Prog Unit :=
  sendToUser env clientId (.completed env tripId finalPrice)

def handleTripCancelled (tripId cancelledBy : ℕ) (reason : String) : Prog Unit :=
  (Notifications.NotificationHandler.handleTripCancelled env.forChat tripId cancelledBy reason).embed
    id Cmd.ofNotification

def handleCommissionPaid (driverId : ℕ) (amount : ℚ) : Prog Unit :=
  sendToDriver env driverId (.paymentConfirmed env amount)

def handleChatMessageSent (event : ChatMessageSentEvent) : Prog Unit :=
  (Notifications.NotificationHandler.handleChatMessageSent env.forChat event).embed id
    Cmd.ofNotification

/-- The handler of an event, if there is one. -/
def handle : Event → Option (Prog Unit)
  | .domain (.driverNotified tripId driverId serviceType estimatedPrice) =>
    some (handleDriverNotified env tripId driverId serviceType
      (env.pickupAddress (.driverNotified tripId driverId serviceType estimatedPrice)))
  | .domain (.tripAccepted tripId _ clientId) => some (handleTripAccepted env tripId clientId)
  | .domain (.tripArrived tripId _ clientId) => some (handleTripArrived env tripId clientId)
  | .domain (.tripStarted tripId _ clientId) => some (handleTripStarted env tripId clientId)
  | .domain (.tripCompleted tripId _ clientId finalPrice) =>
    some (handleTripCompleted env tripId clientId finalPrice)
  | .domain (.tripCancelled tripId cancelledBy reason) =>
    some (handleTripCancelled env tripId cancelledBy reason)
  | .domain (.commissionPaid _ driverId amount) => some (handleCommissionPaid env driverId amount)
  | .domain _ => none
  | .chatMessageSent event => some (handleChatMessageSent env event)

end NotificationHandler

namespace Event

/-- What is said of an event, if anything. -/
def notice? (env : PushEnv) : Event → Option Notice
  | .domain (.driverNotified tripId driverId serviceType estimatedPrice) =>
    some (.newRequest tripId serviceType
      (env.pickupAddress (.driverNotified tripId driverId serviceType estimatedPrice)))
  | .domain (.tripAccepted tripId _ _) => some (.accepted tripId)
  | .domain (.tripArrived tripId _ _) => some (.arrived tripId)
  | .domain (.tripStarted tripId _ _) => some (.started tripId)
  | .domain (.tripCompleted tripId _ _ finalPrice) => some (.completed env tripId finalPrice)
  | .domain (.tripCancelled tripId _ reason) => some (.cancelled tripId reason)
  | .domain (.commissionPaid _ _ amount) => some (.paymentConfirmed env amount)
  | .domain _ => none
  | .chatMessageSent event => some (.chatMessage event.tripId)

/-- Whom an event concerns as things stand: the driver who is asked or has paid, the client of the trip,
or the other party. -/
def addressee? : Event → Store → Option ℕ
  | .domain (.driverNotified _ driverId _ _), s => (s.core.drivers.find? driverId).map Driver.userId
  | .domain (.tripAccepted _ _ clientId), _ => some clientId
  | .domain (.tripArrived _ _ clientId), _ => some clientId
  | .domain (.tripStarted _ _ clientId), _ => some clientId
  | .domain (.tripCompleted _ _ clientId _), _ => some clientId
  | .domain (.tripCancelled tripId cancelledBy _), s => (s.parties tripId).bind fun trip =>
    if cancelledBy = trip.clientId then trip.driverUserId else some trip.clientId
  | .domain (.commissionPaid _ driverId _), s => (s.core.drivers.find? driverId).map Driver.userId
  | .domain _, _ => none
  | .chatMessageSent event, s => (s.parties event.tripId).bind fun trip =>
    if event.senderRole = .client then trip.driverUserId else some trip.clientId

end Event

/-! ### The whole server -/

/-- What a thread ends with: the result of a request to the rest of the server, the messages of a chat, or
nothing. -/
inductive Reply (ρ : Type) where
  | core (r : ρ)
  | messages (rows : List ChatMessage)
  | nothing
  deriving DecidableEq

/-- A request of the chat or about a device. -/
inductive Request where
  | sendMessage (tripId : ℕ) (user : AuthenticatedUser) (content audioUrl : Option String)
  | handleMessageSend (user : Option Auth.JwtPayload) (tripId : ℕ) (content audioUrl : Option String)
  | getMessages (tripId userId : ℕ)
  | register (userId : ℕ) (token : String)
  | unregister (token : String)

variable {ρ : Type}

def Request.program : Request → Prog (Reply ρ)
  | sendMessage tripId user content audioUrl =>
    ((ChatController.sendMessage tripId user content audioUrl).embed id Cmd.ofNotification).as .nothing
  | handleMessageSend user tripId content audioUrl =>
    ((EventsGateway.handleMessageSend user tripId content audioUrl).embed id Cmd.ofNotification).as
      .nothing
  | getMessages tripId userId => do
    let rows ← (Privacy.ChatService.getMessages tripId userId).embed id Cmd.ofChat
    pure (.messages rows)
  | register userId token =>
    ((Privacy.DevicesService.register userId token).embed id Cmd.ofChat).as .nothing
  | unregister token => ((Privacy.DevicesService.unregister token).embed id Cmd.ofChat).as .nothing

/-- A command of the rest of the server. -/
def Cmd.ofCore (c : Telima.Cmd) : Cmd := chat (.notification (.core c))

/-- The program of the rest of the server, as a thread of the whole. -/
def coreThread (p : Telima.Prog ρ) : Prog (Reply ρ) := p.within Store.core Cmd.ofCore Reply.core

/-- The handlers of the rest of the server. -/
def coreHandlers (env : Env) (reply : ρ) (c : Cmd) : List (Prog (Reply ρ)) :=
  match c.core? with
  | some c => (handlers env reply c).map coreThread
  | none => []

/-- The handler that pushes. -/
def notifiers (push : PushEnv) (c : Cmd) : List (Prog (Reply ρ)) :=
  (c.event?.bind (NotificationHandler.handle push)).toList.map fun handler => handler.as .nothing

def system (env : Env) (push : PushEnv) (reply : ρ) : System Store Cmd Error (Reply ρ) where
  exec := Cmd.exec
  handlers c := coreHandlers env reply c ++ notifiers push c

/-- Requests to the rest of the server, and requests of the chat or about devices, come in. -/
def start (s : Store) (programs : List (Telima.Prog ρ)) (requests : List Request) :
    Pool Store Cmd Error (Reply ρ) :=
  Pool.init s (programs.map coreThread ++ requests.map Request.program)

/-! ### Chat, devices and pushes observe the rest -/

section Observers

variable {env : Env} {push : PushEnv} {reply : ρ} {α : Type}

/-- The program performs no command of the rest of the server. -/
abbrev Observes (p : Prog α) : Prop := p.Only fun c => c.core? = none

theorem observes_as {p : Prog α} (hp : Observes p) (r : Reply ρ) : Observes (p.as r) :=
  hp.bind fun _ => trivial

/-- The program of the chat or of its two handlers performs no command of the rest of the server. -/
abbrev Apart (p : Notifications.Prog α) : Prop := p.Only fun c => (Cmd.ofNotification c).core? = none

theorem observes_ofNotification {p : Notifications.Prog α} (hp : Apart p) :
    Observes (p.embed id Cmd.ofNotification) :=
  hp.embed fun _ hc => hc

theorem core?_eq_some {c : Cmd} {d : Telima.Cmd} (h : c.core? = some d) : c = .ofCore d := by
  cases c with
  | chat c =>
    cases c with
    | notification c =>
      cases c with
      | core c => exact congrArg Cmd.ofCore (Option.some.inj h)
      | _ => cases h
    | _ => cases h
  | _ => cases h

/-- What is no command of the rest of the server leaves what the rest keeps. -/
theorem core_exec {c : Cmd} (s : Store) (hc : c.core? = none) : (c.exec s).core = s.core := by
  cases c with
  | chat c =>
    cases c with
    | notification c =>
      cases c with
      | core c => cases hc
      | _ => rfl
    | _ => rfl
  | _ => rfl

theorem handlers_of_core? {c : Cmd} (hc : c.core? = none) :
    (system env push reply).handlers c = notifiers push c := by
  simp only [system, coreHandlers, hc, List.nil_append]

/-! #### The handlers -/

theorem observes_sendToUser (userId : ℕ) (notice : Notice) :
    Observes (NotificationHandler.sendToUser push userId notice) := by
  refine Async.Only.tryCatch (Async.only_query_bind.mpr ⟨rfl, fun s => ?_⟩) fun _ => trivial
  split_ifs
  · trivial
  · exact Async.only_queryE.mpr rfl

theorem observes_sendToDriver (driverId : ℕ) (notice : Notice) :
    Observes (NotificationHandler.sendToDriver push driverId notice) := by
  refine Async.only_query_bind.mpr ⟨rfl, fun s => ?_⟩
  split
  · trivial
  · exact observes_sendToUser _ _

theorem apart_sendToTarget {env : Notifications.PushEnv} (target : Option ℕ)
    (notification : Notification) :
    Apart (Notifications.NotificationHandler.sendToTarget env target notification) := by
  cases target with
  | none => trivial
  | some userId =>
    refine Async.Only.tryCatch (Async.only_query_bind.mpr ⟨rfl, fun s => ?_⟩) fun _ => trivial
    split_ifs
    · trivial
    · exact Async.only_queryE.mpr rfl

theorem observes_handle {event : Event} {handler : Prog Unit}
    (h : NotificationHandler.handle push event = some handler) : Observes handler := by
  cases event with
  | chatMessageSent event =>
    rw [← Option.some.inj h]
    refine observes_ofNotification (Async.only_query_bind.mpr ⟨rfl, fun s => ?_⟩)
    split
    · trivial
    · exact apart_sendToTarget _ _
  | domain event =>
    cases event with
    | driverNotified | commissionPaid =>
      rw [← Option.some.inj h]
      exact observes_sendToDriver _ _
    | tripAccepted | tripArrived | tripStarted | tripCompleted =>
      rw [← Option.some.inj h]
      exact observes_sendToUser _ _
    | tripCancelled =>
      rw [← Option.some.inj h]
      refine observes_ofNotification (Async.only_query_bind.mpr ⟨rfl, fun s => ?_⟩)
      split
      · trivial
      · exact apart_sendToTarget _ _
    | _ => cases h

theorem observes_notifiers {c : Cmd} {p : Prog (Reply ρ)} (hp : p ∈ notifiers push c) :
    Observes p := by
  obtain ⟨handler, hhandler, rfl⟩ := List.mem_map.mp hp
  obtain ⟨event, -, hevent⟩ := Option.bind_eq_some_iff.mp (Option.mem_toList.mp hhandler)
  exact observes_as (observes_handle hevent) _

/-! #### The requests -/

/-- A command that is none of the rest of the server, and pushes nothing. -/
def Cmd.Quiet (c : Cmd) : Prop := c.core? = none ∧ c.pushes? = none

theorem quiet_assertParticipant (tripId userId : ℕ) :
    (ChatService.assertParticipant tripId userId).Only fun c => (Cmd.ofNotification c).Quiet := by
  refine Async.only_query_bind.mpr ⟨⟨rfl, rfl⟩, fun s => ?_⟩
  split
  · trivial
  · split_ifs <;> trivial

theorem quiet_createMessage (tripId senderId : ℕ) (role : SenderRole)
    (content audioUrl : Option String) :
    (ChatService.createMessage tripId senderId role content audioUrl).Only
      fun c => (Cmd.ofNotification c).Quiet := by
  unfold ChatService.createMessage
  split_ifs
  · trivial
  · refine (quiet_assertParticipant tripId senderId).bind fun _ => ?_
    exact Async.only_query_bind.mpr ⟨⟨rfl, rfl⟩, fun s => Async.only_emit_bind.mpr
      ⟨⟨rfl, rfl⟩, fun _ => Async.only_emit_bind.mpr ⟨⟨rfl, rfl⟩, fun _ => trivial⟩⟩⟩

theorem quiet_request (request : Request) : (request.program : Prog (Reply ρ)).Only Cmd.Quiet := by
  have hchat : ∀ {β : Type} {p : Privacy.Prog β}, (p.Only fun c => (Cmd.ofChat c).Quiet) →
      (p.embed id Cmd.ofChat).Only Cmd.Quiet := fun hp => hp.embed fun _ hc => hc
  have hnotification : ∀ {β : Type} {p : Notifications.Prog β},
      (p.Only fun c => (Cmd.ofNotification c).Quiet) →
      (p.embed id Cmd.ofNotification).Only Cmd.Quiet := fun hp => hp.embed fun _ hc => hc
  cases request with
  | sendMessage tripId user content audioUrl =>
    exact (hnotification (quiet_createMessage _ _ _ _ _)).bind fun _ => trivial
  | handleMessageSend user tripId content audioUrl =>
    refine Async.Only.bind (hnotification ?_) fun _ => trivial
    cases user with
    | none => trivial
    | some user =>
      refine Async.Only.tryCatch (Async.Only.bind (quiet_createMessage _ _ _ _ _) fun _ => ?_)
        fun _ => ?_
      · exact trivial
      · exact trivial
  | getMessages tripId userId =>
    refine Async.Only.bind (hchat (Async.Only.bind ?_ fun _ => ?_)) fun _ => trivial
    · exact (quiet_assertParticipant tripId userId).embed fun _ hc => hc
    · exact Async.only_query.mpr ⟨rfl, rfl⟩
  | register userId token =>
    exact Async.Only.bind (hchat (Async.only_query.mpr ⟨rfl, rfl⟩)) fun _ => trivial
  | unregister token =>
    exact Async.Only.bind (hchat (Async.only_perform.mpr ⟨rfl, rfl⟩)) fun _ => trivial

/-- How the whole server observes the rest of it. -/
def observation (env : Env) (push : PushEnv) (reply : ρ) :
    Observation (Telima.system env reply) (system env push reply) where
  part := Store.core
  inj := Cmd.ofCore
  inner? := Cmd.core?
  lift := Reply.core
  observers := notifiers push
  inner?_inj _ := rfl
  eq_inj := core?_eq_some
  exec_inj _ _ := rfl
  exec_of_none := core_exec
  handlers_inj _ := rfl
  handlers_of_none := handlers_of_core?
  observes := observes_notifiers

end Observers

/-- The commands of the rest of the server that were performed, each with what the rest kept then. -/
def coreCommands (w : World Store Cmd) : List (Telima.Cmd × Telima.Store) :=
  w.commands.filterMap fun entry => entry.1.core?.map fun c => (c, entry.2.core)

/-- Whatever comes in for the chat and for devices, whatever the provider answers and whatever fails:
what the rest of the server has done, kept and answered is what it does, keeps and answers in a run
without chat, devices and pushes. -/
theorem pushes_unobtrusive (env : Env) (push : PushEnv) (reply : ρ)
    (cond : Telima.Store → Telima.Cmd → Prop) (fault : Error → Prop) (s : Store)
    (programs : List (Telima.Prog ρ)) (requests : List Request)
    {p : Pool Store Cmd Error (Reply ρ)}
    (hrun : Pool.Run (system env push reply) (fun _ w c => ∀ d ∈ c.core?, cond w.store.core d) fault
      (start s programs requests) p) :
    ∃ q : Pool Telima.Store Telima.Cmd Error ρ,
      Pool.Run (Telima.system env reply) (fun _ w c => cond w.store c) fault
        (Pool.init s.core programs) q ∧
      q.world.store = p.world.store.core ∧ q.world.commands = coreCommands p.world ∧
      ∀ i < programs.length, p.results[i]? = q.results[i]?.map (Option.map (Except.map .core)) := by
  refine (observation env push reply).exists_run (fun o ho => ?_) hrun
  obtain ⟨request, -, rfl⟩ := List.mem_map.mp ho
  exact (quiet_request request).mono fun _ hc => hc.1

namespace Arrival

/-- Driver 1, who is user 10, is on his way to client 20, whose phone is registered. -/
def store : Store where
  core :=
    { drivers := .single ⟨1, 10, 0, 0⟩
      trips := .single { id := 1, clientId := 20, driverId := some 1, vehicleTypeId := 1
                         serviceType := .ride, status := .accepted, pickupLocation := ⟨0, 0⟩
                         dropoffLocation := ⟨1, 1⟩, createdAt := 0, updatedAt := 0 } }
  deviceTokens := .single { token := "phone", userId := 20 }

/-- The provider does not answer. -/
def pushEnv : PushEnv where
  numberText _ := ""
  pickupAddress _ := none
  sendMulticast _ _ := .error .unavailable

/-- The driver arrives. -/
def programs : List (Telima.Prog Bool) :=
  [(TripsService.updateStatus 1 10 .driver { status := .driverArriving }).as true]

end Arrival

open Arrival in
/-- The push about the arrival fails; the driver is answered as he would be without it. -/
theorem pushes_unobtrusive_arrival : ∃ q : Pool Telima.Store Telima.Cmd Error Bool,
    Pool.Run (Telima.system .offline true) (fun _ _ _ => True) (fun _ => False)
      (Pool.init store.core programs) q ∧
    q.results[0]? = some (some (.ok true)) := by
  obtain ⟨p, hrun, hresults⟩ := Pool.exists_run_of_schedule? (system .offline pushEnv true)
    (fun _ _ c => ∀ d ∈ c.core?, True) (fun _ => False) (start store programs [])
    (List.replicate 12 0 ++ [1, 1])
    (fun p => p.results = [some (.ok (.core true)), some (.ok .nothing)]) (by decide +kernel)
  obtain ⟨q, hcore, -, -, hsame⟩ := pushes_unobtrusive .offline pushEnv true (fun _ _ => True)
    (fun _ => False) store programs [] hrun
  refine ⟨q, hcore, ?_⟩
  have hfirst := hsame 0 Nat.one_pos
  rw [hresults] at hfirst
  obtain ⟨r, hr, hlift⟩ := Option.map_eq_some_iff.mp hfirst.symm
  obtain ⟨r, rfl, hlift⟩ := Option.map_eq_some_iff.mp hlift
  rw [hr]
  cases r with
  | error e => cases hlift
  | ok b =>
    cases hlift
    rfl

end Pushes

end Telima.Notifications
