import Telima.Fleet.Service

/-!
# What the functions and the commands do

Which functions mark no driver online, tell no socket its user and join no rooms, and that sockets are
never removed.
-/

namespace Telima.Fleet

open PresenceService RoomsService DisconnectionHandler ConnectionHandler EventsGateway DriversService

/-- A socket stays in the table, also when it is closed. -/
theorem find?_exec {s : Store} {c : Cmd} {socketId : ℕ}
    (h : (s.sockets.find? socketId).isSome = true) :
    ((c.exec s).sockets.find? socketId).isSome = true := by
  have hupdate : ∀ x (f : Socket → Socket) hf,
      ((s.sockets.update x f hf).find? socketId).isSome = true := by
    intro x f hf
    by_cases hx : socketId = x
    · rw [hx, Table.find?_update_self, Option.isSome_map, ← hx]
      exact h
    · rw [Table.find?_update_of_ne hx]
      exact h
  cases c with
  | connect x token =>
    show ((s.sockets.insert { id := x, token }).find? socketId).isSome = true
    rw [Table.find?_insert, Option.isSome_or, h, Bool.true_or]
  | disconnect x => exact hupdate x Socket.close Socket.id_close
  | close x => exact hupdate x Socket.close Socket.id_close
  | setUser x user => exact hupdate x (Socket.setUser user) (Socket.id_setUser user)
  | setDriver x driverId => exact hupdate x (Socket.setDriver driverId) (Socket.id_setDriver driverId)
  | join x room => exact hupdate x (Socket.join room) (Socket.id_join room)
  | leaveAllRooms x => exact hupdate x Socket.leaveAllRooms Socket.id_leaveAllRooms
  | createDriver userId vehicle =>
    show ((if s.refusesDriver userId vehicle then s else _ : Store).sockets.find? socketId).isSome = true
    split_ifs
    · exact h
    · exact h
  | expireTimer driverId =>
    show ((if s.timerDue driverId then _ else s : Store).sockets.find? socketId).isSome = true
    split_ifs
    · exact h
    · exact h
  | _ => exact h

/-- The command marks no driver online, tells no socket its user, and joins no room. -/
def Cmd.isPlain : Cmd → Bool
  | .updateDriver _ data => decide (data.isOnline ≠ some true)
  | .setUser _ _ | .join _ _ => false
  | _ => true

section Only

variable {driverId socketId : ℕ}

theorem only_setOffline : (setOffline driverId).Only (Cmd.isPlain · = true) := by
  have hupdate : (updateDriver driverId { isOnline := some false }).Only (Cmd.isPlain · = true) := by
    simp [updateDriver, Cmd.isPlain]
  refine Async.only_perform_bind.mpr ⟨rfl, fun _ => ?_⟩
  exact Async.Only.tryCatch (hupdate.bind fun _ => trivial) fun _ => trivial

theorem only_heartbeat : (heartbeat driverId).Only (Cmd.isPlain · = true) := by
  simp [heartbeat, newDate, Cmd.isPlain]

theorem only_sharePosition (dto : PositionDto) :
    (sharePosition driverId dto).Only (Cmd.isPlain · = true) := by
  refine only_heartbeat.bind fun _ => Async.only_perform_bind.mpr ⟨rfl, fun _ => ?_⟩
  cases dto.tripId with
  | none => trivial
  | some tripId => simp [BroadcastService.emitToTrip, Cmd.isPlain]

theorem only_reject : (reject socketId).Only (Cmd.isPlain · = true) := by
  simp [reject, handleDisconnect, Cmd.isPlain]

theorem only_createMessage (tripId senderId : ℕ) (senderRole : UserRole)
    (content audioUrl : Option String) :
    (ChatService.createMessage tripId senderId senderRole content audioUrl).Only
      (Cmd.isPlain · = true) := by
  have hassert : (ChatService.assertParticipant tripId senderId).Only (Cmd.isPlain · = true) := by
    refine Async.only_query_bind.mpr ⟨rfl, fun s => ?_⟩
    split
    · trivial
    · split_ifs <;> trivial
  unfold ChatService.createMessage
  split_ifs
  · trivial
  · exact hassert.bind fun _ => by simp [BroadcastService.emitToTrip, Cmd.isPlain]

theorem only_findById : (findById driverId).Only (Cmd.isPlain · = true) := by
  refine Async.only_query_bind.mpr ⟨rfl, fun s => ?_⟩
  split <;> trivial

end Only

/-- The message marks no driver online, and joins no room. -/
def Message.isPlain : Message → Bool
  | .driverJoinRoom _ | .driverOnline _ | .driverRejoinRoom _ | .tripJoin _ => false
  | _ => true

theorem only_handle (socketId : ℕ) (user : Auth.JwtPayload) {m : Message} (hm : m.isPlain = true) :
    (handle socketId user m).Only (Cmd.isPlain · = true) := by
  cases m with
  | driverOffline driverId => exact only_setOffline
  | driverPosition driverId dto => exact only_sharePosition dto
  | driverHeartbeat driverId => exact only_heartbeat
  | messageSend tripId content audioUrl =>
    exact Async.Only.tryCatch ((only_createMessage ..).bind fun _ => trivial) fun _ => trivial
  | _ => cases hm

/-- The call is no connection, message or change of the online status. -/
def Call.isPlain : Call → Bool
  | .connect _ _ | .message _ _ | .updateOnlineStatus _ _ => false
  | _ => true

theorem only_program (env : FleetEnv) {call : Call} (hcall : call.isPlain = true) :
    (call.program env).Only (Cmd.isPlain · = true) := by
  cases call with
  | disconnect socketId =>
    refine Async.only_read_bind.mpr ⟨rfl, fun s => ?_⟩
    split
    · trivial
    · rename_i driverId _
      cases driverId <;>
        simp [handleDisconnect, scheduleGracePeriod, cancelGracePeriod, Cmd.isPlain]
  | graceExpired driverId =>
    refine Async.only_read_bind.mpr ⟨rfl, fun s => ?_⟩
    split_ifs
    · exact Async.Only.tryCatch only_setOffline fun _ => trivial
    · trivial
  | updatePosition userId dto =>
    refine Async.only_query_bind.mpr ⟨rfl, fun s => ?_⟩
    split
    · trivial
    · exact only_sharePosition dto
  | register userId vehicle =>
    refine Async.only_query_bind.mpr ⟨rfl, fun s => ?_⟩
    split
    · trivial
    · refine Async.only_query_bind.mpr ⟨rfl, fun s => ?_⟩
      split_ifs
      · trivial
      · exact Async.only_queryE.mpr rfl
  | validate driverId =>
    have hupdate : (updateDriver driverId { status := some .validated }).Only
        (Cmd.isPlain · = true) := by
      simp [updateDriver, Cmd.isPlain]
    exact only_findById.bind fun _ => hupdate.bind fun _ => trivial
  | suspend driverId =>
    have hupdate : (updateDriver driverId { status := some .suspended, isOnline := some false }).Only
        (Cmd.isPlain · = true) := by
      simp [updateDriver, Cmd.isPlain]
    exact only_findById.bind fun _ => hupdate.bind fun _ => trivial
  | incrementDue driverId amount => exact Async.only_perform.mpr rfl
  | createTrip clientId => exact Async.only_perform.mpr rfl
  | assignDriver tripId driverId => exact Async.only_perform.mpr rfl
  | notify room name => exact Async.only_emit.mpr rfl
  | wait ms => exact Async.only_perform.mpr rfl
  | _ => cases hcall

end Telima.Fleet
