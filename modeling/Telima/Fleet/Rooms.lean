import Telima.Async.RelyGuarantee
import Telima.Fleet.Footprints

/-!
# Who is in the rooms

`ChatService` refuses messages of users who do not take part in a trip, but `trip:join` and the messages
that join a driver's room take any id.  If clients only ask for rooms that are theirs, and a trip keeps
its driver, then every socket is in rooms of its user only (`rooms_of_their_parties`), and what is
emitted to a trip reaches nobody but admins and users whom `assertParticipant` admits.
-/

namespace Telima.Fleet

open Auth (JwtPayload)
open PresenceService RoomsService DisconnectionHandler ConnectionHandler EventsGateway ChatService

/-- The user of a driver. -/
def Store.userOf (s : Store) (driverId : ℕ) : Option ℕ := (s.drivers.find? driverId).map Driver.userId

/-- The user is the client of the trip, or its driver. -/
def Store.isParty (s : Store) (tripId userId : ℕ) : Bool :=
  (s.trips.find? tripId).any fun trip =>
    decide (trip.clientId = userId) || decide (trip.driverId.bind s.userOf = some userId)

/-- Whose the room is. -/
def Room.allows (s : Store) (user : JwtPayload) : Room → Prop
  | .user userId => userId = user.sub
  | .driver driverId => s.userOf driverId = some user.sub
  | .trip tripId => user.role = .admin ∨ s.isParty tripId user.sub = true
  | .adminDashboard => user.role = .admin

/-- The user the socket's token speaks for. -/
def Socket.account (env : FleetEnv) (socket : Socket) : Option JwtPayload :=
  socket.token.bind env.payload

/-- The socket is in the rooms of its user only, and the user is the one of its token. -/
structure Socket.IsConfined (env : FleetEnv) (s : Store) (socket : Socket) : Prop where
  user : ∀ user, socket.user = some user → socket.account env = some user
  rooms : ∀ room ∈ socket.rooms, ∃ user, socket.user = some user ∧ room.allows s user

/-- The room a message asks for. -/
def Message.room? : Message → Option Room
  | .driverJoinRoom driverId | .driverOnline driverId | .driverRejoinRoom driverId =>
    some (.driver driverId)
  | .tripJoin tripId => some (.trip tripId)
  | _ => none

/-- A message that is let through asks for a room of its user; a trip that has a driver keeps him. -/
def Entitled (env : FleetEnv) (_ : ℕ) (w : World Store Cmd) : Cmd → Prop
  | .receive socketId m => ∀ user, guardUser socketId env w.store = some user →
      ∀ room, m.room? = some room → room.allows w.store user
  | .assignDriver tripId driverId => ∀ trip, w.store.trips.find? tripId = some trip →
      ∀ before, trip.driverId = some before → before = driverId
  | _ => True

namespace Rooms

variable {env : FleetEnv} {fault : Error → Prop} {w : World Store Cmd} {s : Store}
  {i socketId driverId : ℕ} {c : Cmd} {user : JwtPayload} {token : String} {room : Room}

/-! ### What the commands change -/

/-- Drivers do not change their users. -/
theorem userOf_exec {userId : ℕ} (h : s.userOf driverId = some userId) :
    (c.exec s).userOf driverId = some userId := by
  have hupdate : ∀ other (f : Driver → Driver) hf, (∀ driver, (f driver).userId = driver.userId) →
      ((s.drivers.update other f hf).find? driverId).map Driver.userId = some userId := by
    intro other f hf huser
    by_cases hne : driverId = other
    · obtain rfl := hne
      rw [Table.find?_update_self, Option.map_map]
      have hcomp : Driver.userId ∘ f = Driver.userId := funext huser
      rw [hcomp]
      exact h
    · rw [Table.find?_update_of_ne hne]
      exact h
  cases c with
  | updateDriver other data => exact hupdate other data.apply data.id_apply fun _ => rfl
  | incrementDue other amount => exact hupdate other _ (Driver.id_incrementDue amount) fun _ => rfl
  | updateLocation other lat lng => exact hupdate other _ (Driver.id_move lat lng s.now) fun _ => rfl
  | createDriver newUser vehicle =>
    rw [Cmd.exec]
    split_ifs
    · exact h
    · obtain ⟨driver, hdriver, huser⟩ := Option.map_eq_some_iff.mp h
      show ((s.drivers.insert _).find? driverId).map Driver.userId = some userId
      rw [Table.find?_insert, hdriver, Option.some_or, Option.map_some, huser]
  | expireTimer other =>
    rw [Cmd.exec]
    split_ifs <;> exact h
  | _ => exact h

theorem isParty_of_same {s' : Store} {tripId userId : ℕ} (htrips : s'.trips = s.trips)
    (husers : ∀ driverId userId, s.userOf driverId = some userId → s'.userOf driverId = some userId)
    (h : s.isParty tripId userId = true) : s'.isParty tripId userId = true := by
  rw [Store.isParty, htrips]
  obtain ⟨trip, htrip, hparty⟩ := (Option.any_eq_true _ _).mp h
  refine (Option.any_eq_true _ _).mpr ⟨trip, htrip, ?_⟩
  rw [Bool.or_eq_true] at hparty ⊢
  refine hparty.imp_right fun hdriver => ?_
  obtain ⟨driverId, hdriverId, huser⟩ := Option.bind_eq_some_iff.mp (of_decide_eq_true hdriver)
  exact decide_eq_true (Option.bind_eq_some_iff.mpr ⟨driverId, hdriverId, husers _ _ huser⟩)

/-- Trips do not change their clients, nor under the condition their drivers. -/
theorem isParty_exec {tripId userId : ℕ} (hcond : Entitled env i w c)
    (h : w.store.isParty tripId userId = true) :
    (c.exec w.store).isParty tripId userId = true := by
  have hsame : (c.exec w.store).trips = w.store.trips →
      (c.exec w.store).isParty tripId userId = true :=
    fun htrips => isParty_of_same htrips (fun _ _ => userOf_exec) h
  cases c with
  | createTrip clientId =>
    obtain ⟨trip, htrip, hparty⟩ := (Option.any_eq_true _ _).mp h
    refine (Option.any_eq_true _ _).mpr ⟨trip, ?_, hparty⟩
    show (w.store.trips.insert _).find? tripId = some trip
    rw [Table.find?_insert, htrip, Option.some_or]
  | assignDriver other driverId =>
    obtain ⟨trip, htrip, hparty⟩ := (Option.any_eq_true _ _).mp h
    by_cases hne : tripId = other
    · obtain rfl := hne
      refine (Option.any_eq_true _ _).mpr ⟨trip.assign driverId, ?_, ?_⟩
      · show (w.store.trips.update tripId (Trip.assign driverId) (Trip.id_assign driverId)).find? tripId = _
        rw [Table.find?_update_self, htrip, Option.map_some]
      · rw [Bool.or_eq_true] at hparty ⊢
        refine hparty.imp_right fun hdriver => ?_
        obtain ⟨before, hbefore, huser⟩ := Option.bind_eq_some_iff.mp (of_decide_eq_true hdriver)
        obtain rfl := hcond trip htrip before hbefore
        exact decide_eq_true (Option.bind_eq_some_iff.mpr ⟨before, rfl, huser⟩)
    · refine (Option.any_eq_true _ _).mpr ⟨trip, ?_, hparty⟩
      show (w.store.trips.update other (Trip.assign driverId) (Trip.id_assign driverId)).find? tripId = _
      rw [Table.find?_update_of_ne hne]
      exact htrip
  | createDriver newUser vehicle =>
    refine hsame ?_
    rw [Cmd.exec]
    split_ifs <;> rfl
  | expireTimer other =>
    refine hsame ?_
    rw [Cmd.exec]
    split_ifs <;> rfl
  | _ => exact hsame rfl

/-- A room stays with those it belongs to. -/
theorem allows_exec (hcond : Entitled env i w c) (h : room.allows w.store user) :
    room.allows (c.exec w.store) user := by
  cases room with
  | user userId => exact h
  | driver driverId => exact userOf_exec h
  | trip tripId => exact h.imp_right (isParty_exec hcond)
  | adminDashboard => exact h

/-- What a command can change of a socket: its user, if it is told one, and the rooms, if it joins
one. -/
structure Changed (c : Cmd) (socketId : ℕ) (socket socket' : Socket) : Prop where
  token : socket'.token = socket.token
  user : socket'.user = socket.user ∨ ∃ user, c = .setUser socketId user ∧ socket'.user = some user
  rooms : ∀ room ∈ socket'.rooms, room ∈ socket.rooms ∨ c = .join socketId room

theorem Changed.refl (c : Cmd) (socketId : ℕ) (socket : Socket) : Changed c socketId socket socket :=
  ⟨rfl, Or.inl rfl, fun _ h => Or.inl h⟩

/-- A socket after a command was there before it, or has just been connected. -/
theorem socket_before {socket' : Socket} (h : (c.exec s).sockets.find? socketId = some socket') :
    (∃ token, c = .connect socketId token ∧ socket' = { id := socketId, token }) ∨
      ∃ socket, s.sockets.find? socketId = some socket ∧ Changed c socketId socket socket' := by
  have hsame : (c.exec s).sockets = s.sockets → ∃ socket, s.sockets.find? socketId = some socket ∧
      Changed c socketId socket socket' :=
    fun heq => ⟨socket', by rw [← heq]; exact h, Changed.refl c socketId socket'⟩
  have hupdate : ∀ (other : ℕ) (f : Socket → Socket) hf,
      (c.exec s).sockets = s.sockets.update other f hf →
      (other = socketId → ∀ socket, Changed c socketId socket (f socket)) →
      ∃ socket, s.sockets.find? socketId = some socket ∧ Changed c socketId socket socket' := by
    intro other f hf heq hchanged
    rw [heq] at h
    by_cases hne : socketId = other
    · obtain rfl := hne
      rw [Table.find?_update_self] at h
      obtain ⟨socket, hsocket, rfl⟩ := Option.map_eq_some_iff.mp h
      exact ⟨socket, hsocket, hchanged rfl socket⟩
    · rw [Table.find?_update_of_ne hne] at h
      exact ⟨socket', h, Changed.refl c socketId socket'⟩
  cases c with
  | connect other token =>
    have hinsert : (s.sockets.insert { id := other, token }).find? socketId = some socket' := h
    rw [Table.find?_insert] at hinsert
    cases hbefore : s.sockets.find? socketId with
    | some socket =>
      rw [hbefore, Option.some_or] at hinsert
      obtain rfl := Option.some.inj hinsert
      exact Or.inr ⟨socket, rfl, Changed.refl _ _ _⟩
    | none =>
      rw [hbefore, Option.none_or] at hinsert
      split_ifs at hinsert with hid
      obtain rfl := Option.some.inj hinsert
      have hother : other = socketId := hid
      obtain rfl := hother
      exact Or.inl ⟨token, rfl, rfl⟩
  | disconnect other =>
    exact Or.inr (hupdate other Socket.close Socket.id_close rfl fun _ _ =>
      ⟨rfl, Or.inl rfl, fun _ h => Or.inl h⟩)
  | close other =>
    exact Or.inr (hupdate other Socket.close Socket.id_close rfl fun _ _ =>
      ⟨rfl, Or.inl rfl, fun _ h => Or.inl h⟩)
  | setUser other user =>
    refine Or.inr (hupdate other (Socket.setUser user) (Socket.id_setUser user) rfl ?_)
    rintro rfl socket
    exact ⟨rfl, Or.inr ⟨user, rfl, rfl⟩, fun _ h => Or.inl h⟩
  | setDriver other driverId =>
    exact Or.inr (hupdate other (Socket.setDriver driverId) (Socket.id_setDriver driverId) rfl
      fun _ _ => ⟨rfl, Or.inl rfl, fun _ h => Or.inl h⟩)
  | join other room =>
    refine Or.inr (hupdate other (Socket.join room) (Socket.id_join room) rfl ?_)
    rintro rfl socket
    refine ⟨rfl, Or.inl rfl, fun joined hjoined => ?_⟩
    have hrooms : joined ∈ if room ∈ socket.rooms then socket.rooms else socket.rooms ++ [room] :=
      hjoined
    split_ifs at hrooms
    · exact Or.inl hrooms
    · rcases List.mem_append.mp hrooms with hin | hnew
      · exact Or.inl hin
      · rw [List.mem_singleton.mp hnew]
        exact Or.inr rfl
  | leaveAllRooms other =>
    exact Or.inr (hupdate other Socket.leaveAllRooms Socket.id_leaveAllRooms rfl fun _ _ =>
      ⟨rfl, Or.inl rfl, fun _ h => absurd h List.not_mem_nil⟩)
  | createDriver newUser vehicle =>
    refine Or.inr (hsame ?_)
    rw [Cmd.exec]
    split_ifs <;> rfl
  | expireTimer other =>
    refine Or.inr (hsame ?_)
    rw [Cmd.exec]
    split_ifs <;> rfl
  | _ => exact Or.inr (hsame rfl)

theorem socket_after {socket : Socket} (h : s.sockets.find? socketId = some socket) :
    ∃ socket', (c.exec s).sockets.find? socketId = some socket' ∧
      Changed c socketId socket socket' := by
  have hsome : ((c.exec s).sockets.find? socketId).isSome = true :=
    find?_exec (by rw [h]; rfl)
  obtain ⟨socket', hsocket'⟩ := Option.isSome_iff_exists.mp hsome
  refine ⟨socket', hsocket', ?_⟩
  rcases socket_before hsocket' with ⟨token, rfl, -⟩ | ⟨before, hbefore, hchanged⟩
  · -- the id is taken
    have hkept : (s.sockets.insert { id := socketId, token }).find? socketId = some socket' := hsocket'
    rw [Table.find?_insert, h, Option.some_or] at hkept
    obtain rfl := Option.some.inj hkept
    exact Changed.refl _ _ _
  · obtain rfl := Option.some.inj (h.symm.trans hbefore)
    exact hchanged

/-! ### The invariant -/

/-- Every socket is in the rooms of its user only. -/
def Confined (env : FleetEnv) (s : Store) : Prop :=
  ∀ socketId socket, s.sockets.find? socketId = some socket → socket.IsConfined env s

/-- A socket is told the user of its token, and joins rooms of its user. -/
def Guar (env : FleetEnv) (_ : ℕ) (w : World Store Cmd) : Cmd → Prop
  | .setUser socketId user => ∀ socket, w.store.sockets.find? socketId = some socket →
      socket.account env = some user
  | .join socketId room => ∀ socket, w.store.sockets.find? socketId = some socket →
      ∃ user, socket.user = some user ∧ room.allows w.store user
  | _ => True

theorem confined_exec (hw : Confined env w.store) (hcond : Entitled env i w c)
    (hguar : Guar env i w c) : Confined env (c.exec w.store) := by
  intro x socket' hsocket'
  rcases socket_before hsocket' with ⟨token, -, rfl⟩ | ⟨socket, hsocket, hchanged⟩
  · exact ⟨nofun, fun room h => absurd h List.not_mem_nil⟩
  · obtain ⟨hbefore, hrooms⟩ := hw x socket hsocket
    have haccount : socket'.account env = socket.account env := by
      rw [Socket.account, hchanged.token, Socket.account]
    -- a socket is told the user it already has
    have hkeeps : ∀ user, socket.user = some user → socket'.user = some user := by
      intro user huser
      rcases hchanged.user with hsame | ⟨told, rfl, htold⟩
      · exact hsame.trans huser
      · have heq := (hbefore user huser).symm.trans (hguar socket hsocket)
        rw [htold, heq]
    refine ⟨fun user huser => ?_, fun room hroom => ?_⟩
    · rw [haccount]
      rcases hchanged.user with hsame | ⟨told, rfl, htold⟩
      · exact hbefore user (hsame.symm.trans huser)
      · obtain rfl := Option.some.inj (htold.symm.trans huser)
        exact hguar socket hsocket
    · rcases hchanged.rooms room hroom with hin | rfl
      · obtain ⟨user, huser, hallows⟩ := hrooms room hin
        exact ⟨user, hkeeps user huser, allows_exec hcond hallows⟩
      · obtain ⟨user, huser, hallows⟩ := hguar socket hsocket
        exact ⟨user, hkeeps user huser, allows_exec hcond hallows⟩

/-- The rules of the runs. -/
def protocol (env : FleetEnv) (fault : Error → Prop) : Protocol system where
  cond := Entitled env
  fault := fault
  inv w := Confined env w.store ∧ ∀ e ∈ w.trace, Confined env e.before
  guar := Guar env
  inv_step := by
    intro w i c n hinv hcond hguar _ _
    rw [World.step_of_no_handlers (system_handlers c)]
    refine ⟨confined_exec hinv.1 hcond hguar, fun e he => ?_⟩
    rcases List.mem_cons.mp he with rfl | he
    · exact hinv.1
    · exact hinv.2 e he

/-! ### The threads -/

/-- No step under the rules ends what holds of the server. -/
def Persists (env : FleetEnv) (A : Store → Prop) : Prop :=
  ∀ ⦃i w c⦄, Entitled env i w c → Guar env i w c → A w.store → A (c.exec w.store)

/-- The command is under no rule. -/
def isSilent : Cmd → Bool
  | .setUser _ _ | .join _ _ => false
  | _ => true

theorem guar_of_isSilent (hc : isSilent c = true) : Guar env i w c := by
  cases c <;> first | exact trivial | cases hc

section Threads

variable {A : Store → Prop}

theorem Persists.step (hA : Persists env A) {n : ℕ} (hcond : Entitled env i w c)
    (hguar : Guar env i w c) (hw : A w.store) : A (w.step system i c n).store := by
  rw [World.store_step]
  exact hA hcond hguar hw

theorem Persists.stable (hA : Persists env A) :
    (protocol env fault).Stable i fun w => A w.store := by
  rintro w _ ⟨j, c, n, -, -, -, -, -, hcond, hguar, rfl⟩ h
  exact hA.step hcond hguar h

theorem Persists.frame (hA : Persists env A) :
    (protocol env fault).Frame i (isSilent · = true) fun w => A w.store where
  stable := hA.stable
  performs := fun hc hw _ hcond =>
    ⟨guar_of_isSilent (i := i) hc, fun _ _ _ => hA.step hcond (guar_of_isSilent hc) hw⟩

theorem persists_true : Persists env fun _ => True := fun _ _ _ _ _ _ => trivial

/-- The socket has the token. -/
def HasToken (socketId : ℕ) (token : String) (s : Store) : Prop :=
  ∃ socket, s.sockets.find? socketId = some socket ∧ socket.token = some token

theorem persists_hasToken : Persists env (HasToken socketId token) := by
  rintro i w c - - ⟨socket, hsocket, htoken⟩
  obtain ⟨socket', hsocket', hchanged⟩ := socket_after (c := c) hsocket
  exact ⟨socket', hsocket', hchanged.token.trans htoken⟩

/-- The socket has been told its user, to whom the room belongs. -/
def Knows (socketId : ℕ) (token : String) (user : JwtPayload) (room : Room) (s : Store) : Prop :=
  room.allows s user ∧ ∃ socket, s.sockets.find? socketId = some socket ∧
    socket.token = some token ∧ socket.user = some user

theorem persists_knows (hpayload : env.payload token = some user) :
    Persists env (Knows socketId token user room) := by
  rintro i w c hcond hguar ⟨hallows, socket, hsocket, htoken, huser⟩
  obtain ⟨socket', hsocket', hchanged⟩ := socket_after (c := c) hsocket
  refine ⟨allows_exec hcond hallows, socket', hsocket', hchanged.token.trans htoken, ?_⟩
  rcases hchanged.user with hsame | ⟨told, rfl, htold⟩
  · exact hsame.trans huser
  · have haccount : env.payload token = some told := by
      have h := hguar socket hsocket
      rw [Socket.account, htoken] at h
      exact h
    rw [htold, ← haccount, hpayload]

/-- The frame rule for programs whose result does not matter. -/
theorem wp_of_silent {p : Prog Unit} (hp : p.Only (isSilent · = true)) :
    (protocol env fault).wp i p (fun _ _ => True) w :=
  persists_true.frame.wp hp trivial

theorem wp_bind_of_silent {α : Type} {p : Prog α} {f : α → Prog Unit} (hA : Persists env A)
    (hw : A w.store) (hp : p.Only (isSilent · = true))
    (hf : ∀ a w, A w.store → (protocol env fault).wp i (f a) (fun _ _ => True) w) :
    (protocol env fault).wp i (p.bind f) (fun _ _ => True) w :=
  hA.frame.wp_bind hp hw (fun a v hv => hf a v hv) fun _ _ _ => trivial

theorem isSilent_of_isPlain (hc : c.isPlain = true) : isSilent c = true := by
  cases c <;> first | rfl | cases hc

theorem wp_of_plain {p : Prog Unit} (hp : p.Only (Cmd.isPlain · = true)) :
    (protocol env fault).wp i p (fun _ _ => True) w :=
  wp_of_silent (hp.mono fun _ => isSilent_of_isPlain)

/-- Joining a room of the user. -/
theorem wp_join_bind {g : Unit → Prog Unit} (hpayload : env.payload token = some user)
    (hw : Knows socketId token user room w.store)
    (hg : ∀ w, Knows socketId token user room w.store →
      (protocol env fault).wp i (g ()) (fun _ _ => True) w) :
    (protocol env fault).wp i ((Async.emit (.join socketId room)).bind g) (fun _ _ => True) w := by
  have hA : Persists env (Knows socketId token user room) := persists_knows hpayload
  refine Protocol.wp_read_bind (A := fun w => Knows socketId token user room w.store) hA.stable hw
    fun v hv _ hcond => ?_
  have hguar : Guar env i v (.join socketId room) := by
    intro socket hsocket
    obtain ⟨hallows, socket', hsocket', -, huser⟩ := hv
    obtain rfl := Option.some.inj (hsocket.symm.trans hsocket')
    exact ⟨user, huser, hallows⟩
  exact ⟨hguar, fun n _ _ => hg _ (hA.step hcond hguar hv)⟩

theorem only_setOnline : (setOnline driverId).Only (isSilent · = true) := by
  have hupdate : (updateDriver driverId { isOnline := some true }).Only (isSilent · = true) := by
    simp [updateDriver, isSilent]
  refine Async.only_read_bind.mpr ⟨rfl, fun _ => Async.only_perform_bind.mpr ⟨rfl, fun _ => ?_⟩⟩
  exact Async.Only.tryCatch (hupdate.bind fun _ => trivial) fun _ => trivial

theorem wp_joinDriverRoom (hpayload : env.payload token = some user)
    (hw : Knows socketId token user (.driver driverId) w.store) :
    (protocol env fault).wp i ((joinDriverRoom socketId driverId).bind fun _ => setOnline driverId)
      (fun _ _ => True) w :=
  wp_join_bind hpayload hw fun _ _ => wp_of_silent only_setOnline

theorem wp_rejoin (hpayload : env.payload token = some user)
    (hw : Knows socketId token user (.driver driverId) w.store) :
    (protocol env fault).wp i ((cancelGracePeriod driverId).bind fun _ =>
      (joinDriverRoom socketId driverId).bind fun _ => setOnline driverId) (fun _ _ => True) w :=
  wp_bind_of_silent (persists_knows hpayload) hw (by simp [cancelGracePeriod, isSilent])
    fun _ _ hv => wp_joinDriverRoom hpayload hv

theorem wp_findDriver (hpayload : env.payload token = some user)
    (hw : Knows socketId token user (.user user.sub) w.store) :
    (protocol env fault).wp i
      (if user.role = .driver then
        (findDriverByUser user.sub).bind fun driver => match driver with
          | some driver => welcomeDriver socketId driver
          | none => pure ()
      else pure ()) (fun _ _ => True) w := by
  split_ifs
  · have hA : Persists env (Knows socketId token user (.user user.sub)) := persists_knows hpayload
    refine Protocol.wp_query_bind (A := fun w => Knows socketId token user (.user user.sub) w.store)
      hA.stable hw (fun v hv _ _ => ⟨trivial, fun n _ _ => ?_⟩) fun _ _ _ _ _ => trivial
    cases hfound : v.store.drivers.findFirst fun driver => decide (driver.userId = user.sub) with
    | none => trivial
    | some driver =>
      obtain ⟨hrow, huser⟩ := Table.find?_of_findFirst hfound
      have hof : v.store.userOf driver.id = some user.sub := by
        rw [Store.userOf, hrow, Option.map_some, of_decide_eq_true huser]
      have hknows : Knows socketId token user (.driver driver.id)
          (v.step system i (.findDriverByUser user.sub) n).store := ⟨hof, hv.2⟩
      exact wp_bind_of_silent (persists_knows hpayload) hknows (by simp [isSilent])
        fun _ _ hu => wp_rejoin hpayload hu
  · trivial

/-- The socket is told the user of its token. -/
theorem wp_setUser_bind {g : Unit → Prog Unit} (hpayload : env.payload token = some user)
    {B : Store → Prop} (hB : Persists env B) (hw : HasToken socketId token w.store) (hw' : B w.store)
    (hg : ∀ w, Knows socketId token user (.user user.sub) w.store → B w.store →
      (protocol env fault).wp i (g ()) (fun _ _ => True) w) :
    (protocol env fault).wp i ((Async.emit (.setUser socketId user)).bind g) (fun _ _ => True) w := by
  refine Protocol.wp_read_bind (A := fun w => HasToken socketId token w.store ∧ B w.store)
    (persists_hasToken.stable.and hB.stable) ⟨hw, hw'⟩ fun v hv _ hcond => ?_
  obtain ⟨⟨socket, hsocket, htoken⟩, hv'⟩ := hv
  have hguar : Guar env i v (.setUser socketId user) := by
    intro socket' hsocket'
    obtain rfl := Option.some.inj (hsocket.symm.trans hsocket')
    rw [Socket.account, htoken]
    exact hpayload
  refine ⟨hguar, fun n _ _ => hg _ ⟨rfl, socket.setUser user, ?_, htoken, rfl⟩ ?_⟩
  · rw [World.store_step]
    show (v.store.sockets.update socketId (Socket.setUser user) (Socket.id_setUser user)).find?
      socketId = _
    rw [Table.find?_update_self, hsocket, Option.map_some]
  · exact hB.step hcond hguar hv'

theorem wp_welcome (hpayload : env.payload token = some user)
    (hw : HasToken socketId token w.store) :
    (protocol env fault).wp i (welcome socketId user) (fun _ _ => True) w := by
  unfold welcome
  refine wp_setUser_bind hpayload persists_true hw trivial fun _ hv _ => ?_
  refine wp_join_bind hpayload hv fun _ hv => ?_
  by_cases hadmin : user.role = .admin
  · rw [if_pos hadmin]
    have hadmitted : Knows socketId token user .adminDashboard _ := ⟨hadmin, hv.2⟩
    exact wp_join_bind hpayload hadmitted fun _ hu => wp_findDriver hpayload ⟨rfl, hu.2⟩
  · rw [if_neg hadmin]
    exact wp_findDriver hpayload hv

theorem payload_of_verify {now : ℕ} (h : env.verify token now = some user) :
    env.payload token = some user := by
  unfold FleetEnv.verify at h
  split_ifs at h
  exact h

theorem wp_handleConnection {token : Option String}
    (hw : ∀ t, token = some t → HasToken socketId t w.store) :
    (protocol env fault).wp i (handleConnection env socketId token) (fun _ _ => True) w := by
  unfold handleConnection
  cases token with
  | none => exact wp_of_plain only_reject
  | some token =>
    refine wp_bind_of_silent persists_hasToken (hw token rfl) (by simp [newDate, isSilent])
      fun now _ hv => ?_
    cases hverify : env.verify token now with
    | none => exact wp_of_plain only_reject
    | some user => exact wp_welcome (payload_of_verify hverify) hv

theorem wp_connectSocket (token : Option String) :
    (protocol env fault).wp i (connectSocket env socketId token) (fun _ _ => True) w := by
  unfold connectSocket
  refine Protocol.wp_read_bind (A := fun _ => True) (fun _ _ _ _ => trivial) trivial
    fun v _ _ _ => ⟨trivial, fun n _ _ => ?_⟩
  cases hfree : v.store.sockets.find? socketId with
  | some socket => trivial
  | none =>
    have htoken : ∀ t, token = some t →
        HasToken socketId t (v.step system i (.connect socketId token) n).store := by
      rintro t rfl
      refine ⟨{ id := socketId, token := some t }, ?_, rfl⟩
      rw [World.store_step]
      show (v.store.sockets.insert { id := socketId, token := some t }).find? socketId = _
      rw [Table.find?_insert, hfree, Option.none_or, if_pos rfl]
    refine Protocol.wp_bind (Protocol.wp_mono (fun r u _ => ?_) (wp_handleConnection htoken))
    cases r with
    | error e => trivial
    | ok => exact wp_of_silent (by simp [isSilent])

theorem wp_handle {m : Message} (hpayload : env.payload token = some user)
    (hw : ∀ room, m.room? = some room → Knows socketId token user room w.store) :
    (protocol env fault).wp i (handle socketId user m) (fun _ _ => True) w := by
  cases hm : m.isPlain with
  | true => exact wp_of_plain (only_handle socketId user hm)
  | false =>
    cases m with
    | driverJoinRoom driverId => exact wp_joinDriverRoom hpayload (hw _ rfl)
    | driverOnline driverId => exact wp_joinDriverRoom hpayload (hw _ rfl)
    | driverRejoinRoom driverId => exact wp_rejoin hpayload (hw _ rfl)
    | tripJoin tripId =>
      exact wp_join_bind (g := fun _ => pure ()) hpayload (hw _ rfl) fun _ _ => trivial
    | _ => cases hm

theorem wp_receive (m : Message) :
    (protocol env fault).wp i (receive socketId env m) (fun _ _ => True) w := by
  unfold receive
  refine Protocol.wp_read_bind (A := fun _ => True) (fun _ _ _ _ => trivial) trivial
    fun v _ _ hcond => ⟨trivial, fun n _ _ => ?_⟩
  cases hguard : guardUser socketId env v.store with
  | none => trivial
  | some user =>
    obtain ⟨socket, hsocket, hverify⟩ := Option.bind_eq_some_iff.mp hguard
    split_ifs at hverify
    obtain ⟨token, htoken, hverify⟩ := Option.bind_eq_some_iff.mp hverify
    have hpayload := payload_of_verify hverify
    have hhas : HasToken socketId token (v.step system i (.receive socketId m) n).store :=
      ⟨socket, hsocket, htoken⟩
    have hrooms : Persists env fun s => ∀ room, m.room? = some room → room.allows s user :=
      fun _ _ _ hcond _ h room hroom => allows_exec hcond (h room hroom)
    refine wp_setUser_bind hpayload hrooms hhas (hcond user hguard) fun _ hu hallows => ?_
    exact wp_handle hpayload fun room hroom => ⟨hallows room hroom, hu.2⟩

theorem wp_updateOnlineStatus (userId : ℕ) (isOnline : Bool) :
    (protocol env fault).wp i (DriversService.updateOnlineStatus userId isOnline)
      (fun _ _ => True) w := by
  refine wp_of_silent (Async.only_query_bind.mpr ⟨rfl, fun s => ?_⟩)
  split
  · trivial
  · split_ifs
    · trivial
    · trivial
    · exact Async.Only.bind (by simp [updateDriver, isSilent]) fun _ => trivial

theorem wp_call (call : Call) :
    (protocol env fault).wp i (call.program env) (fun _ _ => True) w := by
  cases hcall : call.isPlain with
  | true => exact wp_of_plain (only_program env hcall)
  | false =>
    cases call with
    | connect socketId token => exact wp_connectSocket token
    | message socketId m => exact wp_receive m
    | updateOnlineStatus userId isOnline => exact wp_updateOnlineStatus userId isOnline
    | _ => cases hcall

end Threads

/-- `assertParticipant` admits the client of the trip and its driver. -/
theorem assertParticipant_iff (s : Store) (tripId userId : ℕ) :
    ((assertParticipant tripId userId).run Cmd.exec s).result = .ok () ↔
      s.isParty tripId userId = true := by
  unfold assertParticipant
  rw [Async.bind_eq, Async.run_query_bind, Outcome.result_after, Store.isParty]
  cases htrip : s.trips.find? tripId with
  | none => exact iff_of_false nofun nofun
  | some trip =>
    have hdriver : (trip.driverId.bind s.drivers.find?).map Driver.userId =
        trip.driverId.bind s.userOf := by
      cases trip.driverId <;> rfl
    rw [Option.any_some, Option.map_some, hdriver, Bool.or_eq_true, decide_eq_true_iff,
      decide_eq_true_iff]
    dsimp only
    by_cases hparty : trip.clientId = userId ∨ trip.driverId.bind s.userOf = some userId
    · rw [if_pos hparty]
      exact iff_of_true rfl hparty
    · rw [if_neg hparty]
      exact iff_of_false nofun hparty

end Rooms

open Rooms in
/-- If clients only ask for rooms that are theirs and trips keep their drivers, every socket in a room
belongs to the user of its token, whose room it is, and what is emitted to a trip is seen by admins and
by users whom `assertParticipant` admits, what is emitted to a driver by his user. -/
theorem rooms_of_their_parties (env : FleetEnv) (fault : Error → Prop) {s : Store}
    (hs : s.sockets = .empty) (calls : List Call) {p : Pool Store Cmd Error Unit}
    (hrun : Pool.Run system (Entitled env) fault (start env s calls) p) :
    (∀ socket ∈ p.world.store.sockets.rows, ∀ room ∈ socket.rooms, ∃ user,
      socket.user = some user ∧ socket.account env = some user ∧
        room.allows p.world.store user) ∧
    ∀ e ∈ p.world.trace, ∀ room event, e.kind = .did (.emit room event) →
      ∀ socket ∈ e.before.sockets.rows, room ∈ socket.rooms → ∃ user, socket.user = some user ∧
        (∀ tripId, room = .trip tripId → user.role = .admin ∨
          ((assertParticipant tripId user.sub).run Cmd.exec e.before).result = .ok ()) ∧
        ∀ driverId, room = .driver driverId → e.before.userOf driverId = some user.sub := by
  have hconfined : Confined env s := by
    intro socketId socket hsocket
    rw [hs] at hsocket
    cases hsocket
  have hstart : (protocol env fault).Safe (fun _ _ _ => True) (start env s calls) := by
    refine Protocol.safe_init ⟨hconfined, fun e he => absurd he List.not_mem_nil⟩ fun i t ht => ?_
    obtain ⟨call, -, rfl⟩ := exists_call_of_start (s := s) ht
    exact wp_call call
  have hhandlers : (protocol env fault).HandlersKeep fun _ _ _ => True := by
    intro c k h hk
    rw [system_handlers, List.getElem?_nil] at hk
    cases hk
  obtain ⟨hnow, hbefore⟩ := (hstart.run (fun _ _ _ _ _ _ => trivial) hhandlers hrun).inv
  constructor
  · intro socket hsocket room hroom
    obtain ⟨haccount, hrooms⟩ := hnow socket.id socket (Table.find?_of_mem hsocket)
    obtain ⟨user, huser, hallows⟩ := hrooms room hroom
    exact ⟨user, huser, haccount user huser, hallows⟩
  · intro e he room event _ socket hsocket hroom
    obtain ⟨-, hrooms⟩ := hbefore e he socket.id socket (Table.find?_of_mem hsocket)
    obtain ⟨user, huser, hallows⟩ := hrooms room hroom
    refine ⟨user, huser, ?_, ?_⟩
    · rintro tripId rfl
      exact hallows.imp_right (assertParticipant_iff e.before tripId user.sub).mpr
    · rintro driverId rfl
      exact hallows

/-! ### Runs -/

instance (s : Store) (user : JwtPayload) (room : Room) : Decidable (room.allows s user) := by
  cases room with
  | user userId => exact inferInstanceAs (Decidable (_ = _))
  | driver driverId => exact inferInstanceAs (Decidable (_ = _))
  | trip tripId => exact inferInstanceAs (Decidable (_ ∨ _))
  | adminDashboard => exact inferInstanceAs (Decidable (_ = _))

instance (env : FleetEnv) (i : ℕ) (w : World Store Cmd) (c : Cmd) : Decidable (Entitled env i w c) := by
  induction c using Cmd.casesOn with
  | receive socketId m =>
    exact inferInstanceAs (Decidable (∀ user ∈ guardUser socketId env w.store,
      ∀ room ∈ m.room?, _))
  | assignDriver tripId driverId =>
    exact inferInstanceAs (Decidable (∀ trip ∈ w.store.trips.find? tripId,
      ∀ before ∈ trip.driverId, _))
  | _ => exact inferInstanceAs (Decidable True)

namespace Rooms

/-- Client 20 follows trip 1, and something is emitted to the trip. -/
def follows : List Call :=
  [.connect 1 (some "c1"), .message 1 (.tripJoin 1), .notify (.trip 1) "trip:status_updated"]

/-- User 30, who has no part in trip 1, does the same. -/
def spies : List Call :=
  [.connect 1 (some "c2"), .message 1 (.tripJoin 1), .notify (.trip 1) "trip:status_updated"]

/-- Driver 1 asks for the room of driver 2. -/
def poses : List Call := [.connect 1 (some "d1"), .message 1 (.driverJoinRoom 2)]

/-- One call after the other. -/
def inTurn : List ℕ := List.replicate 5 0 ++ List.replicate 3 1 ++ [2]

end Rooms

open Town Rooms in
/-- The socket of client 20 is in the room of trip 1, which is his. -/
theorem rooms_of_their_parties_follows :
    ∃ q : Pool Store Cmd Error Unit, (∃ socket ∈ q.world.store.sockets.rows, .trip 1 ∈ socket.rooms) ∧
      ∀ socket ∈ q.world.store.sockets.rows, .trip 1 ∈ socket.rooms → ∃ user,
        socket.user = some user ∧ (Room.trip 1).allows q.world.store user := by
  obtain ⟨q, hrun, hjoined⟩ := Pool.exists_run_of_schedule? system (Entitled env) (fun _ => False)
    (start env store follows) inTurn
    (fun q => ∃ socket ∈ q.world.store.sockets.rows, .trip 1 ∈ socket.rooms) (by decide +kernel)
  refine ⟨q, hjoined, fun socket hsocket hroom => ?_⟩
  obtain ⟨user, huser, -, hallows⟩ :=
    (rooms_of_their_parties env _ rfl follows hrun).1 socket hsocket _ hroom
  exact ⟨user, huser, hallows⟩

open Town Rooms in
/-- User 30 sees what is emitted to trip 1, and driver 1 is in the room of driver 2. -/
theorem strangers_in_rooms :
    (∃ q, Pool.Run system (fun _ _ _ => True) (fun _ => False) (start env store spies) q ∧
      ∃ e ∈ q.world.trace, e.kind = .did (.emit (.trip 1) (.other "trip:status_updated")) ∧
        ∃ socket ∈ e.before.sockets.rows, .trip 1 ∈ socket.rooms ∧
          socket.user = some { sub := 30, phone := "+22370000030", role := .client } ∧
          ((assertParticipant 1 30).run Cmd.exec e.before).result =
            .error (.forbidden "Vous ne participez pas à cette course")) ∧
    ∃ q, Pool.Run system (fun _ _ _ => True) (fun _ => False) (start env store poses) q ∧
      ∃ socket ∈ q.world.store.sockets.rows, .driver 2 ∈ socket.rooms ∧
        socket.user = some { sub := 10, phone := "+22370000010", role := .driver } ∧
        q.world.store.userOf 2 = some 11 := by
  constructor
  · exact Pool.exists_run_of_schedule? system (fun _ _ _ => True) (fun _ => False)
      (start env store spies) inTurn _ (by decide +kernel)
  · exact Pool.exists_run_of_schedule? system (fun _ _ _ => True) (fun _ => False)
      (start env store poses) (List.replicate 12 0 ++ List.replicate 3 1) _ (by decide +kernel)

end Telima.Fleet
