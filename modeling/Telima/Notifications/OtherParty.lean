import Telima.Notifications.Service
import Telima.Trips.Runs

/-!
# Pushes go to the other party

Each act of a participant emits one event, whose handler pushes to one of the two parties.  The handler
of `TripCancelled` compares users, and always finds the other one.  The handler of `ChatMessageSent` goes
by the sender's role, which is that of his account, so a driver who travels as a client is told of his
own messages (`pushes_to_other_party_iff`).
-/

namespace Telima.Notifications

open NotificationHandler

variable {α β : Type}

/-- The events of a run, in order. -/
def events (o : Outcome Store Cmd Error α) : List Event := o.cmds.filterMap Cmd.event?

/-- The devices that are pushed to. -/
def pushedTokens (o : Outcome Store Cmd Error α) : List String := o.cmds.flatMap fun
  | .sendMulticast notifications => notifications.map PushNotification.token
  | _ => []

/-- The handler of the event, which reads the trip in the store `s` and the device tokens in `s'`. -/
def handled (env : PushEnv) (event : Event) (s s' : Store) : Outcome Store Cmd Error Unit :=
  ((handle env event).resume s).run Cmd.exec s'

/-- The device tokens of the user are looked for, and nobody else's; all of his devices are pushed to, and
no other. -/
structure NotifiesOnly (userId : ℕ) (s : Store) (o : Outcome Store Cmd Error Unit) : Prop where
  asked : ∀ other, .findDeviceTokens other ∈ o.cmds ↔ other = userId
  pushed : ∀ row ∈ s.deviceTokens.rows, row.token ∈ pushedTokens o ↔ row.userId = userId
  known : ∀ token ∈ pushedTokens o, ∃ row ∈ s.deviceTokens.rows, row.token = token

/-- The act is done. -/
def Act.Done (act : Act) (s : Store) : Prop := (act.run s).result = .ok true

/-- The act emits one event, and as long as the parties of the trip are the same its handler pushes to the
user only. -/
def Act.PushesTo (env : PushEnv) (act : Act) (s : Store) (userId : ℕ) : Prop :=
  ∃ event, events (act.run s) = [event] ∧ ∀ s' s'' : Store,
    s'.parties act.tripId = s.parties act.tripId → NotifiesOnly userId s'' (handled env event s' s'')

/-- The role of a sender is the one in which he takes part in the trip. -/
def Act.FitsRole (act : Act) (clientId : ℕ) : Prop :=
  act.isMessage = true → (act.role = .driver ↔ act.userId ≠ clientId)

instance Act.decidableDone (act : Act) (s : Store) : Decidable (act.Done s) := by
  unfold Done
  infer_instance

/-! ### The handlers -/

section Handlers

variable (env : PushEnv) {s s' : Store} {clientId driverUserId : ℕ}

/-- Where a handler sends the event. -/
def Event.target (clientId driverUserId : ℕ) : Event → ℕ
  | tripCancelled _ cancelledBy _ => if cancelledBy = clientId then driverUserId else clientId
  | chatMessageSent event => if event.senderRole = .client then driverUserId else clientId

def Event.tripId : Event → ℕ
  | tripCancelled tripId .. => tripId
  | chatMessageSent event => event.tripId

theorem cmds_sendToUser (userId : ℕ) (notification : Notification) (s : Store) :
    ∃ notifications : List PushNotification, notifications.map PushNotification.token =
        (s.deviceTokens.findMany fun row => decide (row.userId = userId)).map DeviceToken.token ∧
      ((sendToUser env userId notification).run Cmd.exec s).cmds =
        .findDeviceTokens userId :: if notifications = [] then [] else [.sendMulticast notifications] := by
  set tokens := s.deviceTokens.findMany fun row => decide (row.userId = userId) with htokens
  refine ⟨tokens.map fun row =>
    { token := row.token
      title := notification.title
      body := notification.body
      data := notification.data
      priority := notification.priority.getD .normal }, by simp [Function.comp_def], ?_⟩
  show .findDeviceTokens userId :: (((if tokens = [] then (pure () : Prog Unit) else
    Async.queryE _ _).tryCatch fun _ => pure ()).run Cmd.exec s).cmds = _
  by_cases hnone : tokens = []
  · rw [if_pos hnone, hnone]
    rfl
  · rw [if_neg hnone, if_neg (by simpa using hnone)]
    show .findDeviceTokens userId :: .sendMulticast _ ::
      (((Async.done (env.sendMulticast _ s)).tryCatch fun _ => pure ()).run Cmd.exec s).cmds = _
    cases env.sendMulticast _ s <;> rfl

theorem notifies_sendToUser (userId : ℕ) (notification : Notification) (s : Store) :
    NotifiesOnly userId s ((sendToUser env userId notification).run Cmd.exec s) := by
  obtain ⟨notifications, htokens, hcmds⟩ := cmds_sendToUser env userId notification s
  have hpushed : pushedTokens ((sendToUser env userId notification).run Cmd.exec s) =
      (s.deviceTokens.findMany fun row => decide (row.userId = userId)).map DeviceToken.token := by
    rw [pushedTokens, hcmds, ← htokens]
    by_cases hnone : notifications = []
    · rw [if_pos hnone, hnone]
      rfl
    · rw [if_neg hnone]
      simp
  refine ⟨fun other => ?_, fun row hrow => ?_, fun token htoken => ?_⟩
  · rw [hcmds]
    split_ifs <;> simp
  · rw [hpushed, List.mem_map]
    constructor
    · rintro ⟨row', hrow', htoken⟩
      obtain ⟨hmem, huser⟩ := List.mem_filter.mp hrow'
      -- a device belongs to one user
      rw [← Table.eq_of_mem_of_key_eq hmem hrow htoken]
      exact of_decide_eq_true huser
    · intro huser
      exact ⟨row, List.mem_filter.mpr ⟨hrow, decide_eq_true huser⟩, rfl⟩
  · rw [hpushed, List.mem_map] at htoken
    obtain ⟨row, hrow, heq⟩ := htoken
    exact ⟨row, List.mem_of_mem_filter hrow, heq⟩

theorem notifies_sendToTarget (p : Prop) [Decidable p] (notification : Notification) :
    NotifiesOnly (if p then driverUserId else clientId) s ((sendToTarget env
      (if p then some driverUserId else some clientId) notification).run Cmd.exec s) := by
  split_ifs
  · exact notifies_sendToUser env driverUserId notification s
  · exact notifies_sendToUser env clientId notification s

theorem notifies_handled {event : Event}
    (hparties : s.parties event.tripId = some ⟨clientId, some driverUserId⟩) :
    NotifiesOnly (event.target clientId driverUserId) s' (handled env event s s') := by
  cases event with
  | tripCancelled tripId cancelledBy reason =>
    have htrip : s.parties tripId = some ⟨clientId, some driverUserId⟩ := hparties
    rw [handled, handle, handleTripCancelled, findParties, Async.bind_eq, Async.resume_query_bind,
      htrip]
    exact notifies_sendToTarget env (cancelledBy = clientId) _
  | chatMessageSent event =>
    have htrip : s.parties event.tripId = some ⟨clientId, some driverUserId⟩ := hparties
    rw [handled, handle, handleChatMessageSent, findParties, Async.bind_eq,
      Async.resume_query_bind, htrip]
    exact notifies_sendToTarget env (event.senderRole = .client) _

end Handlers

/-! ### The events of an act -/

section Events

variable {s : Store} {a : α}

theorem events_bind_of_ok {p : Prog α} (h : (p.run Cmd.exec s).result = .ok a) (f : α → Prog β) :
    events ((p.bind f).run Cmd.exec s) =
      events (p.run Cmd.exec s) ++ events ((f a).run Cmd.exec (p.run Cmd.exec s).store) := by
  rw [Async.run_bind_of_ok Cmd.exec h]
  exact List.filterMap_append

theorem result_of_bind_pure {p : Prog α} {f : α → β} {b : β}
    (h : ((p.bind fun a => pure (f a)).run Cmd.exec s).result = .ok b) :
    ∃ a, (p.run Cmd.exec s).result = .ok a ∧ f a = b ∧
      events ((p.bind fun a => pure (f a)).run Cmd.exec s) = events (p.run Cmd.exec s) := by
  obtain ⟨a, ha, hb⟩ := (Async.run_bind_eq_ok_iff Cmd.exec).mp h
  refine ⟨a, ha, Except.ok.inj hb, ?_⟩
  rw [events_bind_of_ok ha]
  exact List.append_nil _

theorem events_createMessage {tripId senderId : ℕ} {role : SenderRole}
    {content audioUrl : Option String} {message : ChatMessage}
    (h : ((ChatService.createMessage tripId senderId role content audioUrl).run Cmd.exec s).result =
      .ok message) :
    events ((ChatService.createMessage tripId senderId role content audioUrl).run Cmd.exec s) =
      [.chatMessageSent ⟨message.id, tripId, senderId, role⟩] := by
  unfold ChatService.createMessage at h ⊢
  split_ifs at h ⊢
  · cases h
  · obtain ⟨_, hchecked, hrest⟩ := (Async.run_bind_eq_ok_iff Cmd.exec).mp h
    have hasked : events ((ChatService.assertParticipant tripId senderId).run Cmd.exec s) = [] := by
      unfold ChatService.assertParticipant findParties
      rw [Async.bind_eq, Async.run_query_bind]
      cases s.parties tripId with
      | none => rfl
      | some trip =>
        dsimp only
        split_ifs <;> rfl
    rw [Async.bind_eq, events_bind_of_ok hchecked, hasked]
    obtain rfl := Except.ok.inj hrest
    rfl

/-- The program emits nothing for the handlers. -/
abbrev Quiet (p : Telima.Prog α) : Prop := p.Only fun c => (Cmd.core c).event? = none

theorem Quiet.events {p : Telima.Prog α} (hp : Quiet p) (s : Telima.Store) :
    (p.run Telima.Cmd.exec s).cmds.filterMap (fun c => (Cmd.core c).event?) = [] :=
  List.filterMap_eq_nil_iff.mpr fun _ hc => hp.of_mem_cmds Telima.Cmd.exec hc

theorem quiet_statusCase (trip : Trip) (userId : ℕ) (role : UserRole) (dto : UpdateTripStatusDto) :
    Quiet (TripsService.statusCase trip userId role dto) := by
  refine (TripsService.onlyOffers_statusCase trip userId role dto).mono fun c hc => ?_
  unfold Telima.Cmd.touchesOffers at hc
  split at hc <;> first | rfl | cases hc

theorem quiet_broadcastStatusEvent (trip : Trip) (status : TripStatus) (cancelReason : Option String) :
    Quiet (TripsService.broadcastStatusEvent trip status cancelReason) := by
  unfold TripsService.broadcastStatusEvent
  split
  · trivial
  · refine Async.only_emit_bind.mpr ⟨rfl, fun _ => ?_⟩
    refine Async.only_emit_bind.mpr ⟨rfl, fun _ => ?_⟩
    refine Async.Only.bind (Async.Only.forEach fun d _ => ?_) fun _ => ?_
    · exact Async.only_emit.mpr rfl
    · exact Async.only_emit.mpr rfl

/-- The report of a cancelled trip. -/
theorem events_reportStatus {updated : Trip} {cancellation : Cancellation}
    (hstatus : updated.status = cancellation.status) (userId : ℕ) (status : TripStatus)
    (cancelReason : Option String) (s : Telima.Store) :
    ∃ reason, ((TripsService.reportStatus (some updated) userId status cancelReason).run
      Telima.Cmd.exec s).cmds.filterMap (fun c => (Cmd.core c).event?) =
        [.tripCancelled updated.id userId reason] := by
  have hemit : TripsService.emitStatusEvent updated userId cancelReason =
      Async.emit (.emit (.tripCancelled updated.id userId
        ((TripsService.reasonOf cancelReason updated).getD ""))) := by
    unfold TripsService.emitStatusEvent TripsService.statusEvent
    rw [hstatus]
    cases cancellation <;> rfl
  have hbroadcast : Quiet ((TripsService.broadcastStatusEvent updated status cancelReason).bind
      fun _ => pure updated) := (quiet_broadcastStatusEvent updated status cancelReason).bind
    fun _ => trivial
  refine ⟨(TripsService.reasonOf cancelReason updated).getD "", ?_⟩
  unfold TripsService.reportStatus
  dsimp only
  rw [Async.bind_eq, hemit, Async.run_emit_bind, Outcome.cmds_after, List.filterMap_append,
    Async.bind_eq, hbroadcast.events]
  rfl

/-- What `updateStatus` emits for the handlers. -/
theorem events_updateStatus {s : Telima.Store} {tripId userId : ℕ} {role : UserRole}
    {cancellation : Cancellation} {cancelReason : Option String} {updated : Trip}
    (h : ((TripsService.updateStatus tripId userId role
      { status := cancellation.status, cancelReason }).run Telima.Cmd.exec s).result = .ok updated) :
    ∃ reason, ((TripsService.updateStatus tripId userId role
      { status := cancellation.status, cancelReason }).run Telima.Cmd.exec s).cmds.filterMap
        (fun c => (Cmd.core c).event?) = [.tripCancelled tripId userId reason] := by
  unfold TripsService.updateStatus at h ⊢
  rw [Async.bind_eq] at h ⊢
  cases htrip : s.trips.find? tripId with
  | none =>
    rw [TripsService.run_getTrip_bind_none htrip] at h
    cases h
  | some trip =>
    rw [TripsService.run_getTrip_bind htrip] at h ⊢
    by_cases hcan : canTransition trip.status cancellation.status = true
    · dsimp only at h ⊢
      rw [if_pos hcan, Async.bind_eq] at h ⊢
      obtain ⟨data, hdata, -⟩ := (Async.run_bind_eq_ok_iff Telima.Cmd.exec).mp h
      have hstatus : data.status = some cancellation.status :=
        (TripsService.yields_statusCase trip userId role _).of_run Telima.Cmd.exec hdata
      rw [Async.run_bind_of_ok Telima.Cmd.exec hdata]
      set s₁ := ((TripsService.statusCase trip userId role
        { status := cancellation.status, cancelReason }).run Telima.Cmd.exec s).store with hs₁
      -- the switch leaves the trips
      have hsame : s₁.trips = s.trips :=
        (TripsService.onlyOffers_statusCase trip userId role _).run_store
          (I := fun t => t.trips = s.trips) Telima.Cmd.exec
          (fun c t hc ht => (Cmd.exec_trips (Cmd.keepsTrips_of_touchesOffers hc)).trans ht) rfl
      have hfound : s₁.trips.find? tripId = some trip := by rw [hsame, htrip]
      have hread : ((Telima.Cmd.updateTrip tripId data).exec s₁).trips.find? tripId =
          some (data.apply s₁.now trip) := by
        rw [Store.find?_updateTrip, hfound, Option.map_some, if_pos rfl]
      have hid : trip.id = tripId := Table.key_of_find? htrip
      have hcancelled : (data.apply s₁.now trip).status = cancellation.status := by
        show data.status.getD trip.status = _
        rw [hstatus, Option.getD_some]
      unfold TripRepository.updateStatus TripRepository.update TripRepository.findById
      simp only [Async.bind_eq, Async.bind_assoc, Async.run_queryE_bind, hfound, Option.map_some,
        orNotFound, Option.elim_some, Async.done_ok_bind, Async.run_query_bind, hread,
        Async.run_perform_bind]
      obtain ⟨reason, hreason⟩ := events_reportStatus hcancelled userId cancellation.status
        cancelReason ((Telima.Cmd.updateTrip tripId data).exec s₁)
      have hkey : (data.apply s₁.now trip).id = tripId := hid
      rw [hkey] at hreason
      refine ⟨reason, ?_⟩
      simp only [Outcome.cmds_after, List.filterMap_append, (quiet_statusCase trip userId role _).events]
      exact hreason
    · dsimp only at h
      rw [if_neg hcan] at h
      cases h

theorem events_handleMessageSend {tripId : ℕ} {user : Auth.JwtPayload}
    {content audioUrl : Option String} {ack : Ack}
    (h : ((EventsGateway.handleMessageSend (some user) tripId content audioUrl).run Cmd.exec
      s).result = .ok ack) (hack : ack.acknowledged = true) :
    ∃ messageId, events ((EventsGateway.handleMessageSend (some user) tripId content audioUrl).run
      Cmd.exec s) = [.chatMessageSent ⟨messageId, tripId, user.sub, senderRole user.role⟩] := by
  set send : Prog Ack := (ChatService.createMessage tripId user.sub (senderRole user.role) content
    audioUrl).bind fun _ => pure { acknowledged := true } with hsend
  have hrun : (EventsGateway.handleMessageSend (some user) tripId content audioUrl).run Cmd.exec s =
      ⟨(send.run Cmd.exec s).result.tryCatch fun error =>
        .ok { acknowledged := false, error := some (.messageOf error) },
        (send.run Cmd.exec s).store, (send.run Cmd.exec s).cmds⟩ :=
    Async.run_tryCatch_done Cmd.exec send _ s
  rw [hrun] at h ⊢
  cases hresult : (send.run Cmd.exec s).result with
  | error e =>
    -- the error is part of the answer
    rw [hresult] at h
    obtain rfl := Except.ok.inj h
    cases hack
  | ok _ =>
    obtain ⟨message, hmessage, -, hevents⟩ := result_of_bind_pure hresult
    exact ⟨message.id, hevents.trans (events_createMessage hmessage)⟩

theorem events_cancel {tripId : ℕ} {user : AuthenticatedUser} {cancellation : Cancellation}
    {cancelReason : Option String} {updated : Trip}
    (h : ((TripsController.updateStatus tripId user
      { status := cancellation.status, cancelReason }).run Cmd.exec s).result = .ok updated) :
    ∃ reason, events ((TripsController.updateStatus tripId user
      { status := cancellation.status, cancelReason }).run Cmd.exec s) =
        [.tripCancelled tripId user.id reason] := by
  obtain ⟨hresult, -, hcmds⟩ := Async.run_embed Telima.Cmd.exec Cmd.exec Store.core Cmd.core
    (fun _ _ => rfl) (TripsService.updateStatus tripId user.id user.role
      { status := cancellation.status, cancelReason }) s
  obtain ⟨reason, hreason⟩ := events_updateStatus (hresult.symm.trans h)
  refine ⟨reason, ?_⟩
  show List.filterMap Cmd.event? (Async.run Cmd.exec (Async.embed _ _ _) s).cmds = _
  rw [hcmds, List.filterMap_map]
  exact hreason

/-- The event of an act, and where its handler sends it. -/
theorem Act.event_of_done {act : Act} {s : Store} (h : act.Done s) (clientId driverUserId : ℕ) :
    ∃ event, events (act.run s) = [event] ∧ event.tripId = act.tripId ∧
      event.target clientId driverUserId =
        if act.isMessage = true then if act.role = .driver then clientId else driverUserId
        else if act.userId = clientId then driverUserId else clientId := by
  have hmessage : ∀ (messageId tripId senderId : ℕ) (role : UserRole),
      (Event.chatMessageSent ⟨messageId, tripId, senderId, senderRole role⟩).target clientId
        driverUserId = if role = .driver then clientId else driverUserId := by
    intro messageId tripId senderId role
    unfold senderRole
    cases role <;> rfl
  cases act with
  | sendMessage tripId user content audioUrl =>
    obtain ⟨message, hmsg, -, hevents⟩ := result_of_bind_pure h
    exact ⟨_, hevents.trans (events_createMessage hmsg), rfl, hmessage _ _ _ _⟩
  | handleMessageSend tripId user content audioUrl =>
    obtain ⟨ack, hack, hacknowledged, hevents⟩ := result_of_bind_pure h
    obtain ⟨messageId, hmsg⟩ := events_handleMessageSend hack hacknowledged
    exact ⟨_, hevents.trans hmsg, rfl, hmessage _ _ _ _⟩
  | cancel tripId user cancellation cancelReason =>
    obtain ⟨updated, hupdated, -, hevents⟩ := result_of_bind_pure h
    obtain ⟨reason, hreason⟩ := events_cancel hupdated
    exact ⟨_, hevents.trans hreason, rfl, rfl⟩

end Events

/-- Whom a done act is pushed to. -/
theorem Act.Done.pushesTo (env : PushEnv) {act : Act} {s : Store} (h : act.Done s)
    {clientId driverUserId : ℕ} (hparties : s.parties act.tripId = some ⟨clientId, some driverUserId⟩) :
    act.PushesTo env s
      (if act.isMessage = true then if act.role = .driver then clientId else driverUserId
        else if act.userId = clientId then driverUserId else clientId) := by
  obtain ⟨event, hevents, htrip, htarget⟩ := Act.event_of_done h clientId driverUserId
  refine ⟨event, hevents, fun s' s'' hsame => ?_⟩
  rw [← htarget]
  apply notifies_handled env
  rw [htrip, hsame, hparties]

/-- An act is pushed to one user. -/
theorem Act.PushesTo.unique {env : PushEnv} {act : Act} {s : Store} {userId userId' : ℕ}
    (h : act.PushesTo env s userId) (h' : act.PushesTo env s userId') : userId = userId' := by
  obtain ⟨event, hevents, hnotifies⟩ := h
  obtain ⟨event', hevents', hnotifies'⟩ := h'
  rw [hevents] at hevents'
  obtain rfl := List.head_eq_of_cons_eq hevents'
  have hasked : .findDeviceTokens userId ∈ (handled env event s s).cmds :=
    ((hnotifies s s rfl).asked userId).mpr rfl
  exact ((hnotifies' s s rfl).asked userId).mp hasked

/-- When a user has sent a message, over REST or over the socket, or has cancelled the trip, the other
party is pushed to and nobody else (the driver if it was the client, and otherwise the client), if and only
if it is a cancellation or the role of his account is the one in which he takes part in the trip. -/
theorem pushes_to_other_party_iff (env : PushEnv) {act : Act} {s : Store} (hdone : act.Done s)
    {clientId driverUserId : ℕ} (hparties : s.parties act.tripId = some ⟨clientId, some driverUserId⟩)
    (hdiffer : driverUserId ≠ clientId) :
    act.PushesTo env s (if act.userId = clientId then driverUserId else clientId) ↔
      act.FitsRole clientId := by
  have hpushes := hdone.pushesTo env hparties
  by_cases hmessage : act.isMessage = true
  · rw [if_pos hmessage] at hpushes
    -- a message goes to the party that the role is not
    have hother : act.FitsRole clientId ↔ (if act.role = .driver then clientId else driverUserId) =
        if act.userId = clientId then driverUserId else clientId := by
      have hfits : act.FitsRole clientId ↔ (act.role = .driver ↔ act.userId ≠ clientId) :=
        ⟨fun h => h hmessage, fun h _ => h⟩
      rw [hfits]
      by_cases hrole : act.role = .driver <;> by_cases hclient : act.userId = clientId <;>
        simp [hrole, hclient, hdiffer, hdiffer.symm]
    rw [hother]
    constructor
    · exact fun h => hpushes.unique h
    · intro h
      rw [h] at hpushes
      exact hpushes
  · rw [if_neg hmessage] at hpushes
    exact iff_of_true hpushes fun h => absurd h hmessage

/-! ### A small town -/

namespace Outing

/-- The provider answers. -/
def env : PushEnv where
  sendMulticast _ _ := .ok ()

/-- User 20 is driven by user 10; each has a phone. -/
def store : Store where
  core :=
    { drivers := .single { id := 1, userId := 10, balance := 0, commissionDue := 0 }
      trips := .single { id := 1, clientId := 20, driverId := some 1, vehicleTypeId := 1
                         serviceType := .ride, status := .accepted, pickupLocation := ⟨0, 0⟩
                         dropoffLocation := ⟨0, 0⟩, createdAt := 0, updatedAt := 0 } }
  deviceTokens := ⟨[⟨"phone of 10", 10⟩, ⟨"phone of 20", 20⟩], by decide⟩

/-- User 20 sends a message. -/
def hello (role : UserRole) : Act := .sendMessage 1 ⟨20, "+22370000020", role⟩ (some "Bonjour") none

end Outing

open Outing in
/-- The driver is told of the message of a client. -/
theorem pushes_to_other_party_hello : (hello .client).PushesTo env store 10 := by
  have hfits : (hello .client).FitsRole 20 := fun _ => by decide
  have hparties : store.parties (hello .client).tripId = some ⟨20, some 10⟩ := rfl
  have hdone : (hello .client).Done store := rfl
  exact (pushes_to_other_party_iff env hdone hparties (by decide)).mpr hfits

open Outing in
/-- User 20 has the account of a driver, and is told of his own message. -/
theorem pushes_to_sender : (hello .driver).Done store ∧ store.parties 1 = some ⟨20, some 10⟩ ∧
    ∃ event, events ((hello .driver).run store) = [event] ∧
      pushedTokens (handled env event store store) = ["phone of 20"] :=
  ⟨rfl, rfl, _, rfl, rfl⟩

end Telima.Notifications
