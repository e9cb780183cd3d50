import Telima.Async.Caching
import Telima.Async.Relational
import Telima.Notifications.Service
import Telima.System

/-!
# What is said in a chat stays between the parties of the trip

`ChatService` checks that a user takes part in a trip before it stores or lists messages;
`NotificationHandler` reads the parties of a trip, then the devices of one of them, and pushes.
`DevicesService` moves a device from one user to another at any time, and the trip may get another driver.

`chat_private`: whatever runs in between, every message was written by a user who took part in its trip, is
shown to users who have taken part in it, and a push goes to devices such a user had when it was prepared.
-/

namespace Telima.Notifications.Privacy

/-! ### The functions -/

inductive Cmd where
  | notification (c : Notifications.Cmd)
  /-- `upsert({ where: { token } })` -/
  | upsertDeviceToken (token : String) (userId : ℕ)
  | deleteDeviceTokens (token : String)
  | findMessages (tripId : ℕ)

def Cmd.exec : Cmd → Store → Store
  | notification c, s => c.exec s
  | upsertDeviceToken token userId, s =>
    { s with
      deviceTokens :=
        if (s.deviceTokens.find? token).isSome then
          s.deviceTokens.update token (fun row => { row with userId }) fun _ => rfl
        else s.deviceTokens.insert { token, userId } }
  | deleteDeviceTokens token, s => { s with deviceTokens := s.deviceTokens.delete token }
  | findMessages _, s => s

abbrev Prog (α : Type) : Type := Async Store Cmd Error α

namespace DevicesService

/-- The platform of the device is left out. -/
def register (userId : ℕ) (token : String) : Prog DeviceToken :=
  Async.query (.upsertDeviceToken token userId) fun _ => { token, userId }

def unregister (token : String) : Prog Unit := Async.perform (.deleteDeviceTokens token)

end DevicesService

namespace ChatService

/-- The rows are in the order they were created in. -/
def getMessages (tripId userId : ℕ) : Prog (List ChatMessage) := do
  (Notifications.ChatService.assertParticipant tripId userId).embed id Cmd.notification
  Async.query (.findMessages tripId) fun s =>
    s.chatMessages.findMany fun row => decide (row.tripId = tripId)

end ChatService

/-- A request, or something else the server does. -/
inductive Call where
  | act (act : Act)
  | getMessages (tripId userId : ℕ)
  | register (userId : ℕ) (token : String)
  | unregister (token : String)
  | other (program : Telima.Prog Unit)

def Call.program : Call → Prog (Option (List ChatMessage))
  | act a => (a.program.embed id Cmd.notification).as none
  | getMessages tripId userId => do
    let messages ← ChatService.getMessages tripId userId
    pure (some messages)
  | register userId token => (DevicesService.register userId token).as none
  | unregister token => (DevicesService.unregister token).as none
  | other program =>
    (program.embed Store.core fun c => Cmd.notification (.core c)).as none

/-- The handlers of the events, those that push and all others. -/
def system (env : Env) (push : PushEnv) : System Store Cmd Error (Option (List ChatMessage)) where
  exec := Cmd.exec
  handlers
    | .notification c =>
      (match c with
        | .core c => (handlers env () c).map fun handler =>
          (handler.embed Store.core fun c => Cmd.notification (.core c)).as none
        | _ => []) ++
      c.event?.toList.map fun event =>
        ((NotificationHandler.handle push event).embed id Cmd.notification).as none
    | _ => []

def start (s : Store) (calls : List Call) : Pool Store Cmd Error (Option (List ChatMessage)) :=
  Pool.init s (calls.map Call.program)

/-! ### What was so in the past -/

abbrev ChatWorld := World Store Cmd

/-- The user took part in the trip at moment `m`. -/
def PartyAt (w : ChatWorld) (m tripId userId : ℕ) : Prop :=
  m < w.moment ∧ ∃ parties, (w.storeAt m).parties tripId = some parties ∧
    (parties.clientId = userId ∨ parties.driverUserId = some userId)

/-- The user took part in the trip at a moment before `k`. -/
def WasParty (w : ChatWorld) (k tripId userId : ℕ) : Prop :=
  ∃ m < k, PartyAt w m tripId userId

/-- The device was registered to a user who had taken part in the trip, both before `k`. -/
def Entitled (w : ChatWorld) (k : ℕ) (notification : PushNotification) : Prop :=
  ∃ userId m m', PartyAt w m notification.data.tripId userId ∧ m < m' ∧ m' < k ∧ m' < w.moment ∧
    { token := notification.token, userId } ∈ (w.storeAt m').deviceTokens.rows

/-- What must have been so before a command is performed at moment `k`. -/
def Rightful (k : ℕ) (w : ChatWorld) : Cmd → Prop
  | .notification (.createMessage tripId senderId _ _ _) => WasParty w k tripId senderId
  | .notification (.emitToTrip tripId message) =>
    message.tripId = tripId ∧ WasParty w k tripId message.senderId
  | .notification (.sendMulticast notifications) =>
    ∀ notification ∈ notifications, Entitled w k notification
  | _ => True

section Past

variable {w w' : ChatWorld} {k m tripId userId : ℕ} {c : Cmd}

theorem PartyAt.of_suffix (h : PartyAt w m tripId userId) (hsuffix : w.trace <:+ w'.trace) :
    PartyAt w' m tripId userId := by
  obtain ⟨hlt, hparties⟩ := h
  refine ⟨hlt.trans_le hsuffix.length_le, ?_⟩
  rwa [World.storeAt_of_suffix hsuffix hlt]

theorem WasParty.of_suffix (h : WasParty w k tripId userId) (hsuffix : w.trace <:+ w'.trace) :
    WasParty w' k tripId userId := by
  obtain ⟨m, hm, hparty⟩ := h
  exact ⟨m, hm, hparty.of_suffix hsuffix⟩

theorem WasParty.mono {k' : ℕ} (h : WasParty w k tripId userId) (hk : k ≤ k') :
    WasParty w k' tripId userId := by
  obtain ⟨m, hm, hparty⟩ := h
  exact ⟨m, hm.trans_le hk, hparty⟩

theorem PartyAt.wasParty (h : PartyAt w m tripId userId) : WasParty w w.moment tripId userId :=
  ⟨m, h.1, h⟩

theorem Entitled.of_suffix {notification : PushNotification} (h : Entitled w k notification)
    (hsuffix : w.trace <:+ w'.trace) : Entitled w' k notification := by
  obtain ⟨userId, m, m', hparty, hlt, hk, hm', hdevice⟩ := h
  refine ⟨userId, m, m', hparty.of_suffix hsuffix, hlt, hk, hm'.trans_le hsuffix.length_le, ?_⟩
  rwa [World.storeAt_of_suffix hsuffix hm']

theorem Entitled.mono {k' : ℕ} {notification : PushNotification} (h : Entitled w k notification)
    (hk : k ≤ k') : Entitled w k' notification := by
  obtain ⟨userId, m, m', hparty, hlt, hm', hrest⟩ := h
  exact ⟨userId, m, m', hparty, hlt, hm'.trans_le hk, hrest⟩

theorem Rightful.of_suffix (h : Rightful k w c) (hsuffix : w.trace <:+ w'.trace) :
    Rightful k w' c := by
  cases c with
  | notification c =>
    cases c with
    | createMessage tripId senderId role content audioUrl =>
      have hsender : WasParty w k tripId senderId := h
      exact hsender.of_suffix hsuffix
    | emitToTrip tripId message =>
      obtain ⟨htrip, hsender⟩ : message.tripId = tripId ∧ WasParty w k tripId message.senderId := h
      exact ⟨htrip, hsender.of_suffix hsuffix⟩
    | sendMulticast notifications =>
      have hall : ∀ notification ∈ notifications, Entitled w k notification := h
      exact fun notification hmem => (hall notification hmem).of_suffix hsuffix
    | _ => trivial
  | _ => trivial

end Past

/-- Every command was rightful, and every message is an old one or was written by a party of its trip. -/
structure Private (old : List ChatMessage) (w : ChatWorld) : Prop where
  rightful : ∀ k i c, w.DidAt k i c → Rightful k w c
  messages : ∀ row ∈ w.store.chatMessages.rows,
    row ∈ old ∨ WasParty w w.moment row.tripId row.senderId

/-- What the message was said to be stays true. -/
def Proper (old : List ChatMessage) (row : ChatMessage) (w : ChatWorld) : Prop :=
  row ∈ old ∨ WasParty w w.moment row.tripId row.senderId

theorem historic_proper {old : List ChatMessage} {row : ChatMessage} :
    Protocol.Historic (Proper old row) := by
  rintro w w' hsuffix (hold | hsender)
  · exact Or.inl hold
  · exact Or.inr ((hsender.of_suffix hsuffix).mono hsuffix.length_le)

/-- The messages a command leaves. -/
theorem mem_messages_exec {row : ChatMessage} {c : Cmd} {s : Store}
    (h : row ∈ (c.exec s).chatMessages.rows) : row ∈ s.chatMessages.rows ∨
      ∃ role content audioUrl, c =
        .notification (.createMessage row.tripId row.senderId role content audioUrl) := by
  cases c with
  | notification c =>
    cases c with
    | createMessage tripId senderId role content audioUrl =>
      rcases Table.mem_insert h with hold | rfl
      · exact Or.inl hold
      · exact Or.inr ⟨role, content, audioUrl, rfl⟩
    | _ => exact Or.inl h
  | _ => exact Or.inl h

section Protocol

variable {env : Env} {push : PushEnv} {old : List ChatMessage} {fault : Error → Prop}
  {i j k m n tripId userId : ℕ} {w : ChatWorld} {c : Cmd}

theorem Private.step (h : Private old w) (hc : Rightful w.moment w c) :
    Private old (w.step (system env push) i c n) := by
  have hsuffix : w.trace <:+ (w.step (system env push) i c n).trace := World.trace_step_suffix
  refine ⟨Protocol.grounds_step (R := fun k _ c w => Rightful k w c)
    (fun _ _ _ _ _ hsuffix hd => hd.of_suffix hsuffix) h.rightful hc, fun row hrow => ?_⟩
  · rw [World.store_step] at hrow
    rcases mem_messages_exec hrow with hold | ⟨role, content, audioUrl, rfl⟩
    · exact historic_proper hsuffix (h.messages row hold)
    · have hsender : WasParty w w.moment row.tripId row.senderId := hc
      exact Or.inr ((hsender.of_suffix hsuffix).mono hsuffix.length_le)

/-- Every thread only does what is rightful. -/
def protocol (env : Env) (push : PushEnv) (old : List ChatMessage) (fault : Error → Prop) :
    Protocol (system env push) where
  cond _ _ _ := True
  fault := fault
  inv := Private old
  guar _ w c := Rightful w.moment w c
  inv_step hinv _ hc _ _ := hinv.step hc

/-- The command is rightful whatever has been. -/
def Plain (c : Cmd) : Prop := ∀ k w, Rightful k w c

theorem keeps_of_plain {α : Type} {p : Prog α} (hp : p.Only Plain) :
    (protocol env push old fault).Keeps i p := by
  have hframe : (protocol env push old fault).Frame i Plain fun _ => True :=
    ⟨Protocol.stable_const i True, fun {c w} hc _ _ _ => ⟨hc w.moment w, fun _ _ _ => trivial⟩⟩
  exact hframe.keeps hp

/-- The functions of the rest of the server. -/
theorem keeps_core {α : Type} (p : Telima.Prog α) : (protocol env push old fault).Keeps i
    (p.embed Store.core fun c => Cmd.notification (.core c)) :=
  keeps_of_plain (Async.only_embed (fun _ _ _ => trivial) p)

theorem historic_partyAt : Protocol.Historic fun w => PartyAt w m tripId userId :=
  fun _ _ hsuffix h => h.of_suffix hsuffix

theorem partyAt_step {parties : Parties} (hparties : w.store.parties tripId = some parties)
    (huser : parties.clientId = userId ∨ parties.driverUserId = some userId) :
    PartyAt (w.step (system env push) i c n) w.moment tripId userId := by
  refine ⟨World.moment_lt_step, parties, ?_, huser⟩
  rw [World.didAt_step.2]
  exact hparties

/-! ### The chat -/

/-- A program that goes on after the check. -/
theorem wp_assertParticipant_bind {α : Type} {f : Unit → Prog α}
    {Q : Except Error α → ChatWorld → Prop}
    (hok : ∀ m v, PartyAt v m tripId userId → (protocol env push old fault).wp i (f ()) Q v)
    (herr : ∀ e v, Q (.error e) v) :
    (protocol env push old fault).wp i
      (((ChatService.assertParticipant tripId userId).embed id Cmd.notification).bind f) Q w := by
  unfold ChatService.assertParticipant findParties
  rw [Async.bind_eq, Async.embed_query_bind, Async.bind_assoc]
  refine Protocol.wp_query_bind (Protocol.stable_const i True) trivial
    (fun v _ _ _ => ⟨trivial, fun n _ _ => ?_⟩) fun e v _ _ _ => herr e v
  cases hparties : v.store.parties tripId with
  | none =>
    rw [id, hparties]
    exact herr _ _
  | some parties =>
    rw [id, hparties]
    by_cases huser : parties.clientId = userId ∨ parties.driverUserId = some userId
    · simp only [huser, if_true]
      exact hok _ _ (partyAt_step hparties huser)
    · simp only [huser, if_false]
      exact herr _ _

theorem keeps_createMessage (role : SenderRole) (content audioUrl : Option String) :
    (protocol env push old fault).Keeps i
      ((ChatService.createMessage tripId userId role content audioUrl).embed id Cmd.notification) := by
  intro w
  unfold ChatService.createMessage
  split_ifs with hblank
  · trivial
  rw [Async.bind_eq, Async.embed_bind]
  refine wp_assertParticipant_bind (fun m v hv => ?_) fun _ _ => trivial
  rw [Async.bind_eq, Async.embed_query_bind]
  refine Protocol.wp_query_bind historic_partyAt.stable hv (fun u hu _ _ =>
    ⟨hu.wasParty, fun n _ _ => ?_⟩) fun _ _ _ _ _ => trivial
  rw [Async.bind_eq, Async.embed_emit_bind]
  refine Protocol.wp_read_bind historic_partyAt.stable (hu.of_suffix World.trace_step_suffix)
    fun u' hu' _ _ => ⟨⟨rfl, hu'.wasParty⟩, fun n _ _ => ?_⟩
  rw [Async.bind_eq, Async.embed_emit_bind]
  exact Protocol.wp_read_bind (Protocol.stable_const i True) trivial fun _ _ _ _ =>
    ⟨trivial, fun _ _ _ => trivial⟩

theorem keeps_act (act : Act) :
    (protocol env push old fault).Keeps i (act.program.embed id Cmd.notification) := by
  cases act with
  | sendMessage tripId user content audioUrl =>
    show (protocol env push old fault).Keeps i (Async.embed id Cmd.notification (Async.bind _ _))
    rw [Async.embed_bind]
    exact (keeps_createMessage _ content audioUrl).bind fun _ => Protocol.keeps_done _
  | handleMessageSend tripId user content audioUrl =>
    show (protocol env push old fault).Keeps i (Async.embed id Cmd.notification (Async.bind
      (Async.tryCatch (Async.bind _ _) _) _))
    rw [Async.embed_bind, Async.embed_tryCatch, Async.embed_bind]
    refine Protocol.Keeps.bind (Protocol.Keeps.tryCatch ?_ fun _ => Protocol.keeps_done _) fun _ =>
      Protocol.keeps_done _
    exact (keeps_createMessage _ content audioUrl).bind fun _ => Protocol.keeps_done _
  | cancel tripId user cancellation cancelReason =>
    show (protocol env push old fault).Keeps i (Async.embed id Cmd.notification (Async.bind
      (Async.embed Store.core Notifications.Cmd.core _) _))
    rw [Async.embed_bind]
    refine Protocol.Keeps.bind (keeps_of_plain ?_) fun _ => Protocol.keeps_done _
    have hcore : ∀ c k w, Rightful k w (.notification (.core c)) := fun _ _ _ => trivial
    exact (Async.only_embed (K := fun c => Plain (.notification c)) hcore _).embed fun c hc => hc

theorem wp_getMessages : (protocol env push old fault).wp i
    (Call.getMessages tripId userId).program (fun r w => ∀ rows, r = .ok (some rows) →
      (∃ m, PartyAt w m tripId userId) ∧ ∀ row ∈ rows, row.tripId = tripId ∧ Proper old row w) w := by
  show (protocol env push old fault).wp i ((ChatService.getMessages tripId userId).bind _) _ w
  unfold ChatService.getMessages
  rw [Async.bind_eq, Async.bind_assoc]
  refine wp_assertParticipant_bind (fun m v hv => ?_) fun e v rows hrows => by cases hrows
  refine Protocol.wp_query_bind historic_partyAt.stable hv (fun u hu hinv _ =>
    ⟨trivial, fun n _ _ => ?_⟩) fun e u _ _ _ rows hrows => by cases hrows
  intro rows hrows
  obtain rfl := Option.some.inj (Except.ok.inj hrows)
  refine ⟨⟨m, hu.of_suffix World.trace_step_suffix⟩, fun row hrow => ?_⟩
  obtain ⟨hmem, htrip⟩ := List.mem_filter.mp hrow
  exact ⟨of_decide_eq_true htrip, historic_proper World.trace_step_suffix (hinv.messages row hmem)⟩

/-! ### The pushes -/

/-- All of the notifications may be sent now. -/
def AllEntitled (notifications : List PushNotification) (w : ChatWorld) : Prop :=
  ∀ notification ∈ notifications, Entitled w w.moment notification

theorem historic_allEntitled {notifications : List PushNotification} :
    Protocol.Historic (AllEntitled notifications) := by
  intro w w' hsuffix h notification hmem
  exact ((h notification hmem).of_suffix hsuffix).mono hsuffix.length_le

theorem wp_sendToUser {notification : Notification}
    (hw : PartyAt w m notification.data.tripId userId) :
    (protocol env push old fault).wp i
      ((NotificationHandler.sendToUser push userId notification).embed id Cmd.notification)
      (fun _ _ => True) w := by
  unfold NotificationHandler.sendToUser
  rw [Async.embed_tryCatch, Async.bind_eq, Async.embed_query_bind]
  refine Protocol.wp_tryCatch (Protocol.wp_query_bind historic_partyAt.stable hw (fun v hv _ _ =>
    ⟨trivial, fun n _ _ => ?_⟩) fun _ _ _ _ _ => trivial)
  split_ifs with hnone
  · trivial
  refine Protocol.wp_queryE historic_allEntitled.stable ?_ (fun u hu _ _ =>
    ⟨hu, fun n _ _ => ?_⟩) fun _ _ _ _ _ => trivial
  · -- the devices are the user's at this moment
    intro sent hsent
    obtain ⟨row, hrow, rfl⟩ := List.mem_map.mp hsent
    obtain ⟨hmem, huser⟩ := List.mem_filter.mp hrow
    refine ⟨userId, m, v.moment, hv.of_suffix World.trace_step_suffix, hv.1, World.moment_lt_step,
      World.moment_lt_step, ?_⟩
    rw [World.didAt_step.2, ← of_decide_eq_true huser]
    exact hmem
  · generalize push.sendMulticast _ (id u.store) = answer
    cases answer with
    | error e => trivial
    | ok _ => trivial

theorem wp_sendToTarget {notification : Notification} {target : Option ℕ}
    (hw : ∀ userId, target = some userId → PartyAt w m notification.data.tripId userId) :
    (protocol env push old fault).wp i
      ((NotificationHandler.sendToTarget push target notification).embed id Cmd.notification)
      (fun _ _ => True) w := by
  cases target with
  | none => trivial
  | some userId => exact wp_sendToUser (hw userId rfl)

/-- One of the two parties of the trip. -/
theorem party_of_target {parties : Parties} {p : Prop} [Decidable p]
    (h : (if p then parties.driverUserId else some parties.clientId) = some userId) :
    parties.clientId = userId ∨ parties.driverUserId = some userId := by
  split_ifs at h with hp
  · exact Or.inr h
  · exact Or.inl (Option.some.inj h)

theorem keeps_handle (event : Event) : (protocol env push old fault).Keeps i
    ((NotificationHandler.handle push event).embed id Cmd.notification) := by
  intro w
  cases event with
  | tripCancelled tripId cancelledBy reason =>
    show (protocol env push old fault).wp i (Async.embed id Cmd.notification
      (Async.bind (Async.query _ _) _)) _ w
    rw [Async.embed_query_bind]
    refine Protocol.wp_query_bind (Protocol.stable_const i True) trivial (fun v _ _ _ =>
      ⟨trivial, fun n _ _ => ?_⟩) fun _ _ _ _ _ => trivial
    cases hparties : v.store.parties tripId with
    | none =>
      rw [id, hparties]
      trivial
    | some parties =>
      rw [id, hparties]
      exact wp_sendToTarget fun userId huser => partyAt_step hparties (party_of_target huser)
  | chatMessageSent event =>
    show (protocol env push old fault).wp i (Async.embed id Cmd.notification
      (Async.bind (Async.query _ _) _)) _ w
    rw [Async.embed_query_bind]
    refine Protocol.wp_query_bind (Protocol.stable_const i True) trivial (fun v _ _ _ =>
      ⟨trivial, fun n _ _ => ?_⟩) fun _ _ _ _ _ => trivial
    cases hparties : v.store.parties event.tripId with
    | none =>
      rw [id, hparties]
      trivial
    | some parties =>
      rw [id, hparties]
      exact wp_sendToTarget fun userId huser => partyAt_step hparties (party_of_target huser)

/-! ### The run -/

/-- What holds when thread `i` has ended. -/
def Post (old : List ChatMessage) (calls : List Call) (i : ℕ)
    (r : Except Error (Option (List ChatMessage))) (w : ChatWorld) : Prop :=
  ∀ tripId userId rows, calls[i]? = some (.getMessages tripId userId) → r = .ok (some rows) →
    (∃ m, PartyAt w m tripId userId) ∧ ∀ row ∈ rows, row.tripId = tripId ∧ Proper old row w

theorem historic_post {calls : List Call} {r : Except Error (Option (List ChatMessage))} :
    Protocol.Historic (Post old calls i r) := by
  intro w w' hsuffix h tripId userId rows hcall hr
  obtain ⟨⟨m, hparty⟩, hrows⟩ := h tripId userId rows hcall hr
  refine ⟨⟨m, hparty.of_suffix hsuffix⟩, fun row hrow => ?_⟩
  exact ⟨(hrows row hrow).1, historic_proper hsuffix (hrows row hrow).2⟩

/-- A thread that answers no messages. -/
theorem wp_as_none {α : Type} {calls : List Call} {p : Prog α}
    (hp : (protocol env push old fault).Keeps i p) :
    (protocol env push old fault).wp i (p.as none) (Post old calls i) w := by
  refine Protocol.wp_bind (Protocol.wp_mono ?_ (hp w))
  rintro (e | a) v -
  · intro _ _ _ _ hr
    cases hr
  · intro _ _ _ _ hr
    cases hr

theorem wp_program {calls : List Call} {call : Call} (hcall : calls[i]? = some call) :
    (protocol env push old fault).wp i call.program (Post old calls i) w := by
  cases call with
  | act act => exact wp_as_none (keeps_act act)
  | getMessages tripId userId =>
    refine Protocol.wp_mono ?_ wp_getMessages
    intro r v hv tripId' userId' rows hcall' hr
    obtain ⟨rfl, rfl⟩ := Call.getMessages.inj (Option.some.inj (hcall.symm.trans hcall'))
    exact hv rows hr
  | register userId token => exact wp_as_none (keeps_of_plain (Async.only_query.mpr fun _ _ => trivial))
  | unregister token => exact wp_as_none (keeps_of_plain (Async.only_perform.mpr fun _ _ => trivial))
  | other program => exact wp_as_none (keeps_core program)

theorem handlersKeep {calls : List Call} :
    (protocol env push old fault).HandlersKeep (Post old calls) := by
  intro c k h hk j n w _ _ _ _ _
  cases c with
  | notification c =>
    rcases List.mem_append.mp (List.mem_of_getElem? hk) with hcore | hevent
    · cases c with
      | core c =>
        obtain ⟨handler, -, rfl⟩ := List.mem_map.mp hcore
        exact wp_as_none (keeps_core handler)
      | _ => cases hcore
    · obtain ⟨event, -, rfl⟩ := List.mem_map.mp hevent
      exact wp_as_none (keeps_handle event)
  | _ => simp [system] at hk

end Protocol

namespace Talk

/-- Driver 1, who is user 10, carries client 20. -/
def store : Store where
  core :=
    { drivers := .single ⟨1, 10, 0, 0⟩
      trips := .single { id := 1, clientId := 20, driverId := some 1, vehicleTypeId := 1
                         serviceType := .ride, status := .accepted, pickupLocation := ⟨0, 0⟩
                         dropoffLocation := ⟨1, 1⟩, createdAt := 0, updatedAt := 0 } }

/-- What the client writes. -/
def greeting : ChatMessage := { id := 1, tripId := 1, senderId := 20, senderRole := .client,
                                content := some "Bonjour" }

/-- The driver registers his phone, the client writes, and the driver lists the messages. -/
def calls : List Call :=
  [.register 10 "phone", .act (.sendMessage 1 ⟨20, "70000000", .client⟩ (some "Bonjour") none),
    .getMessages 1 10]

end Talk

end Telima.Notifications.Privacy
