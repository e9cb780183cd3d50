import Telima.Async.Run
import Telima.Fleet.Service

/-!
# A driver's socket acts for its driver

The handlers of the gateway take the driver and the trip from the message; the driver of the socket is
not looked at.  `acts_for_own_driver_iff` says for which messages what is kept about the other drivers
stays as it is, and the trips that are shown a position are trips of the driver.
-/

namespace Telima.Fleet

open PresenceService RoomsService DisconnectionHandler EventsGateway

/-- What is kept about a driver: his presence, his grace timer, whether he is online, his position. -/
structure Standing where
  presence : Option ℕ
  graceTimer : Option ℕ
  row : Option (Bool × Option GeoPoint)

def Store.standing (s : Store) (driverId : ℕ) : Standing where
  presence := s.presence driverId
  graceTimer := s.graceTimers driverId
  row := (s.drivers.find? driverId).map fun driver => (driver.isOnline, driver.currentLocation)

/-- The driver a trip is assigned to. -/
def Store.assignedDriver (s : Store) (tripId : ℕ) : Option ℕ :=
  (s.trips.find? tripId).bind Trip.driverId

/-- What is kept about other drivers stays as it is, and a position is only shown to trips of the
driver. -/
structure ActsFor (driverId : ℕ) (s : Store) (o : Outcome Store Cmd Error Unit) : Prop where
  others : ∀ other, other ≠ driverId → o.store.standing other = s.standing other
  trips : ∀ tripId sender dto, Cmd.emit (.trip tripId) (.driverLocationUpdate sender dto) ∈ o.cmds →
    s.assignedDriver tripId = some driverId

/-- The call comes from the driver: on a socket of his, or by a request of his user. -/
def Call.IsBy (driverId : ℕ) (s : Store) : Call → Prop
  | message socketId _ => (s.sockets.find? socketId).bind Socket.driverId = some driverId
  | updatePosition userId _ =>
    (s.drivers.findFirst fun driver => decide (driver.userId = userId)).map Driver.id = some driverId
  | _ => False

/-- The driver has been seen now. -/
def Store.SeenNow (s : Store) (driverId : ℕ) : Prop := s.presence driverId = some s.now

/-- The driver is online, if he exists, or he is not. -/
def Store.IsOnline (s : Store) (driverId : ℕ) (isOnline : Bool) : Prop :=
  ∀ driver, s.drivers.find? driverId = some driver → driver.isOnline = isOnline

/-- The message names the driver, or asks for what is the case for the one it names; the trip it names
is the driver's. -/
def Message.StaysWith (driverId : ℕ) (s : Store) : Message → Prop
  | driverJoinRoom named | driverOnline named =>
    named = driverId ∨ s.SeenNow named ∧ s.IsOnline named true
  | driverOffline named => named = driverId ∨ s.presence named = none ∧ s.IsOnline named false
  | driverRejoinRoom named =>
    named = driverId ∨ s.SeenNow named ∧ s.graceTimers named = none ∧ s.IsOnline named true
  | driverPosition named dto =>
    (named = driverId ∨ s.SeenNow named ∧ ∀ driver, s.drivers.find? named = some driver →
      driver.currentLocation = some ⟨dto.lat, dto.lng⟩) ∧
    ∀ tripId, dto.tripId = some tripId → s.assignedDriver tripId = some driverId
  | driverHeartbeat named => named = driverId ∨ s.SeenNow named
  | tripJoin _ | messageSend .. => True

/-- The guard stops the message or it stays with the driver; a position is shown to a trip of his. -/
def Call.StaysWith (env : FleetEnv) (driverId : ℕ) (s : Store) : Call → Prop
  | .message socketId m => guardUser socketId env s = none ∨ m.StaysWith driverId s
  | updatePosition _ dto =>
    ∀ tripId, dto.tripId = some tripId → s.assignedDriver tripId = some driverId
  | _ => True

/-! ### What the commands do -/

/-- The command does nothing to the drivers but the named one. -/
def Cmd.serves (named : Option ℕ) : Cmd → Bool
  | zadd driverId _ | zrem driverId | setTimer driverId | clearTimer driverId | expireTimer driverId
  | updateDriver driverId _ | incrementDue driverId _ | updateLocation driverId _ _ =>
    decide (named = some driverId)
  | createDriver .. => false
  | _ => true

/-- The command shows no position. -/
def Cmd.isMute : Cmd → Bool
  | emit _ (.driverLocationUpdate ..) => false
  | _ => true

section Commands

variable {s : Store} {named other : ℕ}

theorem standing_update {f : Driver → Driver} (hf : ∀ driver, (f driver).id = driver.id)
    (h : other ≠ named) : ({ s with drivers := s.drivers.update named f hf } : Store).standing other =
      s.standing other := by
  unfold Store.standing
  rw [Table.find?_update_of_ne h]

/-- What is kept about a driver, after a command for another one. -/
theorem Cmd.standing_exec {c : Cmd} {target : Option ℕ} (hc : c.serves target = true)
    (h : target ≠ some other) : (c.exec s).standing other = s.standing other := by
  have hne : ∀ {driverId : ℕ}, decide (target = some driverId) = true → other ≠ driverId := by
    rintro driverId htarget rfl
    exact h (of_decide_eq_true htarget)
  cases c with
  | zadd driverId score =>
    show Standing.mk (Function.update s.presence driverId (some score) other) _ _ = _
    rw [Function.update_of_ne (hne hc)]
    rfl
  | zrem driverId =>
    show Standing.mk (Function.update s.presence driverId none other) _ _ = _
    rw [Function.update_of_ne (hne hc)]
    rfl
  | setTimer driverId =>
    show Standing.mk _ (Function.update s.graceTimers driverId _ other) _ = _
    rw [Function.update_of_ne (hne hc)]
    rfl
  | clearTimer driverId =>
    show Standing.mk _ (Function.update s.graceTimers driverId none other) _ = _
    rw [Function.update_of_ne (hne hc)]
    rfl
  | expireTimer driverId =>
    by_cases hdue : s.timerDue driverId = true
    · rw [Cmd.exec, if_pos hdue]
      show Standing.mk _ (Function.update s.graceTimers driverId none other) _ = _
      rw [Function.update_of_ne (hne hc)]
      rfl
    · rw [Cmd.exec, if_neg hdue]
  | updateDriver driverId data => exact standing_update data.id_apply (hne hc)
  | incrementDue driverId amount => exact standing_update (Driver.id_incrementDue amount) (hne hc)
  | updateLocation driverId lat lng => exact standing_update (Driver.id_move lat lng s.now) (hne hc)
  | createDriver => cases hc
  | _ => rfl

end Commands

/-! ### What the handlers do -/

section Handlers

variable {s : Store} {named driverId : ℕ} {target : Option ℕ} {α : Type}

/-- The commands do nothing to other drivers, and show no position. -/
def Cmd.Minds (target : Option ℕ) (c : Cmd) : Prop := c.serves target = true ∧ c.isMute = true

abbrev OnlyMinds (target : Option ℕ) (p : Prog α) : Prop := p.Only (Cmd.Minds target)

theorem minds_updateDriver (data : DriverData) :
    OnlyMinds (some named) (Async.tryCatch ((updateDriver named data).as ()) fun _ => pure ()) := by
  have hupdate : OnlyMinds (some named) (updateDriver named data) :=
    Async.only_queryE.mpr ⟨decide_eq_true rfl, rfl⟩
  exact Async.Only.tryCatch (hupdate.bind fun _ => trivial) fun _ => trivial

theorem minds_setOnline : OnlyMinds (some named) (setOnline named) := by
  refine Async.only_read_bind.mpr ⟨⟨rfl, rfl⟩, fun _ => ?_⟩
  exact Async.only_perform_bind.mpr ⟨⟨decide_eq_true rfl, rfl⟩, fun _ => minds_updateDriver _⟩

theorem minds_setOffline : OnlyMinds (some named) (setOffline named) :=
  Async.only_perform_bind.mpr ⟨⟨decide_eq_true rfl, rfl⟩, fun _ => minds_updateDriver _⟩

theorem minds_heartbeat : OnlyMinds (some named) (heartbeat named) := by
  refine Async.only_read_bind.mpr ⟨⟨rfl, rfl⟩, fun _ => ?_⟩
  exact Async.only_perform.mpr ⟨decide_eq_true rfl, rfl⟩

theorem minds_createMessage (tripId senderId : ℕ) (senderRole : UserRole)
    (content audioUrl : Option String) :
    OnlyMinds target (ChatService.createMessage tripId senderId senderRole content audioUrl) := by
  unfold ChatService.createMessage
  split_ifs
  · trivial
  · refine Async.Only.bind ?_ fun _ => ?_
    · refine Async.only_query_bind.mpr ⟨⟨rfl, rfl⟩, fun s => ?_⟩
      split
      · trivial
      · split_ifs <;> trivial
    · refine Async.only_query_bind.mpr ⟨⟨rfl, rfl⟩, fun s => ?_⟩
      exact Async.only_emit_bind.mpr ⟨⟨rfl, rfl⟩, fun _ => trivial⟩

theorem run_setOnline (s : Store) : ((setOnline named).run Cmd.exec s).store =
    (Cmd.updateDriver named { isOnline := some true }).exec ((Cmd.zadd named s.now).exec s) := by
  show ((Async.tryCatch ((updateDriver named { isOnline := some true }).as ()) fun _ =>
    Async.done (.ok ())).run Cmd.exec ((Cmd.zadd named s.now).exec s)).store = _
  rw [Async.run_store_tryCatch_done _ _ fun _ => .ok (), Async.as, Async.run_store_bind_done]
  rfl

theorem run_setOffline (s : Store) : ((setOffline named).run Cmd.exec s).store =
    (Cmd.updateDriver named { isOnline := some false }).exec ((Cmd.zrem named).exec s) := by
  show ((Async.tryCatch ((updateDriver named { isOnline := some false }).as ()) fun _ =>
    Async.done (.ok ())).run Cmd.exec ((Cmd.zrem named).exec s)).store = _
  rw [Async.run_store_tryCatch_done _ _ fun _ => .ok (), Async.as, Async.run_store_bind_done]
  rfl

theorem standing_setOnline (s : Store) :
    ((setOnline named).run Cmd.exec s).store.standing named =
      ⟨some s.now, s.graceTimers named,
        (s.drivers.find? named).map fun driver => (true, driver.currentLocation)⟩ := by
  rw [run_setOnline]
  unfold Store.standing
  congr 1
  · exact Function.update_self ..
  · show ((s.drivers.update named _ (DriverData.id_apply _)).find? named).map _ = _
    rw [Table.find?_update_self, Option.map_map]
    rfl

theorem standing_setOffline (s : Store) :
    ((setOffline named).run Cmd.exec s).store.standing named =
      ⟨none, s.graceTimers named,
        (s.drivers.find? named).map fun driver => (false, driver.currentLocation)⟩ := by
  rw [run_setOffline]
  unfold Store.standing
  congr 1
  · exact Function.update_self ..
  · show ((s.drivers.update named _ (DriverData.id_apply _)).find? named).map _ = _
    rw [Table.find?_update_self, Option.map_map]
    rfl

/-- The row of a driver that is set online or offline stays as it is. -/
theorem row_eq_iff {isOnline : Bool} :
    (s.drivers.find? named).map (fun driver => (isOnline, driver.currentLocation)) =
      (s.drivers.find? named).map (fun driver => (driver.isOnline, driver.currentLocation)) ↔
    s.IsOnline named isOnline := by
  unfold Store.IsOnline
  cases s.drivers.find? named with
  | none => simp
  | some driver => simp [eq_comm]

theorem standing_setOnline_eq_iff :
    ((setOnline named).run Cmd.exec s).store.standing named = s.standing named ↔
      s.SeenNow named ∧ s.IsOnline named true := by
  rw [standing_setOnline, Store.standing, Standing.mk.injEq, row_eq_iff, Store.SeenNow, eq_comm]
  simp

theorem standing_setOffline_eq_iff :
    ((setOffline named).run Cmd.exec s).store.standing named = s.standing named ↔
      s.presence named = none ∧ s.IsOnline named false := by
  rw [standing_setOffline, Store.standing, Standing.mk.injEq, row_eq_iff, eq_comm]
  simp

/-- Programs that show no position. -/
theorem actsFor_iff_of_minds {p : Prog Unit} (hp : OnlyMinds target p) :
    ActsFor driverId s (p.run Cmd.exec s) ↔ ∀ named, target = some named → named = driverId ∨
      (p.run Cmd.exec s).store.standing named = s.standing named := by
  have hframe : ∀ other, target ≠ some other →
      (p.run Cmd.exec s).store.standing other = s.standing other := by
    intro other hother
    refine hp.run_store Cmd.exec (I := fun s' => s'.standing other = s.standing other) ?_ rfl
    intro c s' hc hs'
    rw [Cmd.standing_exec hc.1 hother, hs']
  constructor
  · intro h named hnamed
    by_cases hown : named = driverId
    · exact Or.inl hown
    · exact Or.inr (h.others named hown)
  · intro h
    refine ⟨fun other hother => ?_, fun tripId sender dto hemit => ?_⟩
    · by_cases htarget : target = some other
      · exact (h other htarget).resolve_left hother
      · exact hframe other htarget
    · have hmute := (hp.of_mem_cmds Cmd.exec hemit).2
      cases hmute

/-- The commands of `sharePosition`. -/
def positionCmds (named now : ℕ) (dto : PositionDto) : List Cmd :=
  [.date, .zadd named now, .updateLocation named dto.lat dto.lng] ++
    (dto.tripId.map fun tripId => .emit (.trip tripId) (.driverLocationUpdate named dto)).toList

theorem cmds_sharePosition (s : Store) (dto : PositionDto) :
    ((sharePosition named dto).run Cmd.exec s).cmds = positionCmds named s.now dto := by
  unfold positionCmds
  cases htrip : dto.tripId with
  | none =>
    unfold sharePosition
    rw [htrip]
    rfl
  | some tripId =>
    unfold sharePosition
    rw [htrip]
    rfl

theorem run_sharePosition (s : Store) (dto : PositionDto) :
    ((sharePosition named dto).run Cmd.exec s).store =
      (Cmd.updateLocation named dto.lat dto.lng).exec ((Cmd.zadd named s.now).exec s) := by
  cases htrip : dto.tripId with
  | none =>
    unfold sharePosition
    rw [htrip]
    rfl
  | some tripId =>
    unfold sharePosition
    rw [htrip]
    rfl

theorem standing_sharePosition_eq_iff (dto : PositionDto) :
    ((sharePosition named dto).run Cmd.exec s).store.standing named = s.standing named ↔
      s.SeenNow named ∧ ∀ driver, s.drivers.find? named = some driver →
        driver.currentLocation = some ⟨dto.lat, dto.lng⟩ := by
  have hpresence : ((Cmd.updateLocation named dto.lat dto.lng).exec
      ((Cmd.zadd named s.now).exec s)).presence named = some s.now := Function.update_self ..
  have hrow : ((Cmd.updateLocation named dto.lat dto.lng).exec
      ((Cmd.zadd named s.now).exec s)).drivers.find? named =
        (s.drivers.find? named).map (Driver.move dto.lat dto.lng s.now) :=
    Table.find?_update_self _ (Driver.id_move dto.lat dto.lng s.now)
  rw [run_sharePosition, Store.standing, Store.standing, Standing.mk.injEq, hpresence, hrow,
    Store.SeenNow, eq_comm]
  refine and_congr_right fun _ => (and_iff_right rfl).trans ?_
  cases s.drivers.find? named with
  | none => simp
  | some driver => simp [Driver.move, eq_comm]

/-- The position of a driver is shared. -/
theorem actsFor_sharePosition_iff (dto : PositionDto) :
    ActsFor driverId s ((sharePosition named dto).run Cmd.exec s) ↔
      (named = driverId ∨ s.SeenNow named ∧ ∀ driver, s.drivers.find? named = some driver →
        driver.currentLocation = some ⟨dto.lat, dto.lng⟩) ∧
      ∀ tripId, dto.tripId = some tripId → s.assignedDriver tripId = some driverId := by
  have hframe : ∀ other, other ≠ named →
      ((sharePosition named dto).run Cmd.exec s).store.standing other = s.standing other := by
    intro other hother
    rw [run_sharePosition]
    have hne : some named ≠ some other := fun h => hother (Option.some.inj h).symm
    have hmoved : ∀ t : Store, ((Cmd.updateLocation named dto.lat dto.lng).exec t).standing other =
        t.standing other := fun _ => Cmd.standing_exec (decide_eq_true rfl) hne
    have hseen : ((Cmd.zadd named s.now).exec s).standing other = s.standing other :=
      Cmd.standing_exec (decide_eq_true rfl) hne
    rw [hmoved, hseen]
  have hemits : ∀ tripId sender dto', Cmd.emit (.trip tripId) (.driverLocationUpdate sender dto') ∈
      positionCmds named s.now dto ↔ dto.tripId = some tripId ∧ sender = named ∧ dto' = dto := by
    intro tripId sender dto'
    unfold positionCmds
    cases dto.tripId with
    | none => simp
    | some tripId' => simp [eq_comm]
  rw [← standing_sharePosition_eq_iff]
  constructor
  · intro h
    refine ⟨?_, fun tripId htrip => ?_⟩
    · by_cases hown : named = driverId
      · exact Or.inl hown
      · exact Or.inr (h.others named hown)
    · refine h.trips tripId named dto ?_
      rw [cmds_sharePosition]
      exact (hemits tripId named dto).mpr ⟨htrip, rfl, rfl⟩
  · rintro ⟨hnamed, htrips⟩
    refine ⟨fun other hother => ?_, fun tripId sender dto' hemit => ?_⟩
    · by_cases hother' : other = named
      · obtain rfl := hother'
        exact hnamed.resolve_left hother
      · exact hframe other hother'
    · rw [cmds_sharePosition] at hemit
      exact htrips tripId ((hemits tripId sender dto').mp hemit).1

theorem standing_heartbeat_eq_iff :
    ((heartbeat named).run Cmd.exec s).store.standing named = s.standing named ↔
      s.SeenNow named := by
  have hpresence : ((Cmd.zadd named s.now).exec s).presence named = some s.now :=
    Function.update_self ..
  have hrun : ((heartbeat named).run Cmd.exec s).store = (Cmd.zadd named s.now).exec s := rfl
  rw [hrun, Store.standing, Store.standing, Standing.mk.injEq, hpresence, Store.SeenNow, eq_comm]
  exact and_iff_left ⟨rfl, rfl⟩

theorem standing_rejoin_eq_iff (socketId : ℕ) :
    ((handleDriverRejoinRoom socketId named).run Cmd.exec s).store.standing named =
        s.standing named ↔
      s.SeenNow named ∧ s.graceTimers named = none ∧ s.IsOnline named true := by
  have hrun : ((handleDriverRejoinRoom socketId named).run Cmd.exec s).store =
      ((setOnline named).run Cmd.exec ((Cmd.join socketId (.driver named)).exec
        ((Cmd.clearTimer named).exec s))).store := rfl
  have htimer : ((Cmd.join socketId (.driver named)).exec
      ((Cmd.clearTimer named).exec s)).graceTimers named = none := Function.update_self ..
  rw [hrun, standing_setOnline, htimer, Store.standing, Standing.mk.injEq, Store.SeenNow,
    @eq_comm _ none, @eq_comm _ (some _)]
  exact and_congr_right fun _ => and_congr_right fun _ => row_eq_iff

/-- The handler of a message, after the guard. -/
theorem actsFor_handle_iff (socketId : ℕ) (user : Auth.JwtPayload) (m : Message) :
    ActsFor driverId s ((handle socketId user m).run Cmd.exec s) ↔ m.StaysWith driverId s := by
  have hjoin : ∀ (room : Room) {target : Option ℕ} {p : Prog Unit}, OnlyMinds target p →
      OnlyMinds target ((Async.emit (.join socketId room)).bind fun _ => p) :=
    fun room _ _ hp => Async.only_emit_bind.mpr ⟨⟨rfl, rfl⟩, fun _ => hp⟩
  have hnamed : ∀ {named : ℕ} {P : ℕ → Prop}, (∀ named', some named = some named' → P named') ↔
      P named := by
    intro named P
    exact ⟨fun h => h named rfl, fun h named' hn => Option.some.inj hn ▸ h⟩
  cases m with
  | driverJoinRoom named | driverOnline named =>
    refine (actsFor_iff_of_minds (hjoin (.driver named) minds_setOnline)).trans ?_
    rw [hnamed]
    exact or_congr_right (standing_setOnline_eq_iff (s := (Cmd.join socketId (.driver named)).exec s))
  | driverOffline named =>
    refine (actsFor_iff_of_minds minds_setOffline).trans ?_
    rw [hnamed]
    exact or_congr_right standing_setOffline_eq_iff
  | driverRejoinRoom named =>
    have hminds : OnlyMinds (some named) (handleDriverRejoinRoom socketId named) :=
      Async.only_emit_bind.mpr ⟨⟨decide_eq_true rfl, rfl⟩, fun _ => hjoin _ minds_setOnline⟩
    refine (actsFor_iff_of_minds hminds).trans ?_
    rw [hnamed]
    exact or_congr_right (standing_rejoin_eq_iff socketId)
  | driverPosition named dto => exact actsFor_sharePosition_iff dto
  | driverHeartbeat named =>
    refine (actsFor_iff_of_minds minds_heartbeat).trans ?_
    rw [hnamed]
    exact or_congr_right standing_heartbeat_eq_iff
  | tripJoin tripId =>
    have hminds : OnlyMinds none (handleTripJoin socketId tripId) :=
      Async.only_emit.mpr ⟨rfl, rfl⟩
    refine (actsFor_iff_of_minds hminds).trans ⟨fun _ => trivial, fun _ named h => ?_⟩
    cases h
  | messageSend tripId content audioUrl =>
    have hminds : OnlyMinds none (handleMessageSend user tripId content audioUrl) :=
      Async.Only.tryCatch ((minds_createMessage _ _ _ _ _).bind fun _ => trivial) fun _ => trivial
    refine (actsFor_iff_of_minds hminds).trans ⟨fun _ => trivial, fun _ named h => ?_⟩
    cases h

/-- Commands that show nothing, on a server that is the same for the drivers and the trips. -/
theorem actsFor_after_iff {s₁ : Store} {cs : List Cmd} {o : Outcome Store Cmd Error Unit}
    (hstanding : ∀ other, s₁.standing other = s.standing other) (htrips : s₁.trips = s.trips)
    (hcs : ∀ c ∈ cs, c.isMute = true) : ActsFor driverId s (o.after cs) ↔ ActsFor driverId s₁ o := by
  have hassigned : ∀ tripId, s₁.assignedDriver tripId = s.assignedDriver tripId := by
    intro tripId
    rw [Store.assignedDriver, htrips, Store.assignedDriver]
  constructor
  · intro h
    refine ⟨fun other hother => (h.others other hother).trans (hstanding other).symm, ?_⟩
    intro tripId sender dto hemit
    rw [hassigned]
    exact h.trips tripId sender dto (List.mem_append_right cs hemit)
  · intro h
    refine ⟨fun other hother => (h.others other hother).trans (hstanding other), ?_⟩
    intro tripId sender dto hemit
    rw [← hassigned]
    rcases List.mem_append.mp hemit with hemit | hemit
    · have hmute := hcs _ hemit
      cases hmute
    · exact h.trips tripId sender dto hemit

theorem actsFor_receive_iff (env : FleetEnv) (socketId : ℕ) (m : Message) :
    ActsFor driverId s ((receive socketId env m).run Cmd.exec s) ↔
      guardUser socketId env s = none ∨ m.StaysWith driverId s := by
  unfold receive
  rw [Async.bind_eq, Async.run_read_bind]
  cases hguard : guardUser socketId env s with
  | none =>
    refine (iff_of_true ?_ (Or.inl rfl))
    refine ⟨fun _ _ => rfl, fun tripId sender dto hemit => ?_⟩
    have hreceive := List.mem_singleton.mp hemit
    cases hreceive
  | some user =>
    rw [or_iff_right (Option.some_ne_none user)]
    dsimp only
    rw [Async.bind_eq, Async.run_emit_bind]
    have hafter : ∀ o : Outcome Store Cmd Error Unit,
        ActsFor driverId s ((o.after [.setUser socketId user]).after [.receive socketId m]) ↔
          ActsFor driverId ((Cmd.setUser socketId user).exec s) o := fun o =>
      (actsFor_after_iff (fun _ => rfl) rfl (by simp [Cmd.isMute])).trans
        (actsFor_after_iff (fun _ => rfl) rfl (by simp [Cmd.isMute]))
    have hstays : m.StaysWith driverId ((Cmd.setUser socketId user).exec s) ↔
        m.StaysWith driverId s := by
      cases m <;> exact Iff.rfl
    exact (hafter _).trans ((actsFor_handle_iff socketId user m).trans hstays)

theorem actsFor_updatePosition_iff {userId : ℕ} {dto : PositionDto}
    (h : (s.drivers.findFirst fun driver => decide (driver.userId = userId)).map Driver.id =
      some driverId) :
    ActsFor driverId s ((TrackingService.updatePosition userId dto).run Cmd.exec s) ↔
      ∀ tripId, dto.tripId = some tripId → s.assignedDriver tripId = some driverId := by
  obtain ⟨driver, hdriver, rfl⟩ := Option.map_eq_some_iff.mp h
  unfold TrackingService.updatePosition findDriverByUser
  rw [Async.bind_eq, Async.run_query_bind, hdriver]
  refine (actsFor_after_iff (fun _ => rfl) rfl (by simp [Cmd.isMute])).trans ?_
  refine (actsFor_sharePosition_iff (s := (Cmd.findDriverByUser userId).exec s) dto).trans ?_
  exact and_iff_right (Or.inl rfl)

end Handlers

/-- What a driver's call does stays with the driver if and only if the message names him, or asks for
what is the case for the driver it names, and the trip it names is his. -/
theorem acts_for_own_driver_iff (env : FleetEnv) (s : Store) (driverId : ℕ) (call : Call)
    (hcall : call.IsBy driverId s) :
    ActsFor driverId s ((call.program env).run Cmd.exec s) ↔ call.StaysWith env driverId s := by
  cases call with
  | message socketId m => exact actsFor_receive_iff env socketId m
  | updatePosition userId dto => exact actsFor_updatePosition_iff hcall
  | _ => cases hcall

namespace OwnDriver

open Town

/-- The drivers are online; socket 1 is driver 1's. -/
def online : Store :=
  { store with
    drivers :=
      ⟨[{ id := 1, userId := 10, status := .validated, isOnline := true },
        { id := 2, userId := 11, status := .validated, isOnline := true }], by decide⟩
    sockets := .single { id := 1, token := some "d1", driverId := some 1 } }

/-- The position of driver 1 on trip 1. -/
def shared : Call := .message 1 (.driverPosition 1 { tripId := some 1, lat := 12, lng := -8 })

end OwnDriver

open Town OwnDriver in
/-- The position of driver 1, shown to his trip. -/
theorem acts_for_own_driver_iff_position :
    ActsFor 1 online ((shared.program env).run Cmd.exec online) := by
  have hby : shared.IsBy 1 online := rfl
  refine (acts_for_own_driver_iff env online 1 shared hby).mpr (Or.inr ⟨Or.inl rfl, ?_⟩)
  intro tripId htrip
  obtain rfl := Option.some.inj htrip
  rfl

open Town OwnDriver in
/-- On the socket of driver 1, driver 2 is taken offline. -/
theorem other_driver_offline :
    (Call.message 1 (.driverOffline 2)).IsBy 1 online ∧
      ¬ ActsFor 1 online (((Call.message 1 (.driverOffline 2)).program env).run Cmd.exec online) := by
  refine ⟨rfl, fun h => ?_⟩
  have hrow := congrArg Standing.row (h.others 2 (by decide))
  have hoffline : ((((Call.message 1 (.driverOffline 2)).program env).run Cmd.exec
      online).store.standing 2).row = some (false, none) := by
    decide +kernel
  have honline : (online.standing 2).row = some (true, none) := by decide +kernel
  rw [hoffline, honline] at hrow
  cases hrow

end Telima.Fleet
