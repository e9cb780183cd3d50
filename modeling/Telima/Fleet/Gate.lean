import Telima.Async.RelyGuarantee
import Telima.Fleet.Footprints

/-!
# Who goes online

`updateOnlineStatus` lets only validated drivers go online who do not owe too much.  A connection, and
the messages that join a driver's room, mark him online without looking at either.  If they come in for
drivers who are online or may go online, and nobody loses this between the moment a call has looked and
its update, then every driver who goes online is validated and owes at most the threshold
(`online_gated`).
-/

namespace Telima.Fleet

open PresenceService RoomsService DisconnectionHandler ConnectionHandler EventsGateway DriversService

/-- A driver whom `updateOnlineStatus` lets go online. -/
def Driver.isEligible (driver : Driver) : Bool :=
  decide (driver.status = .validated ∧ driver.commissionDue.toNumber ≤ maxCommissionDue)

/-- The driver is online or may go online; a driver without a row does not go anywhere. -/
def Store.admits (s : Store) (driverId : ℕ) : Bool :=
  (s.drivers.find? driverId).all fun driver => driver.isOnline || driver.isEligible

/-- The driver whom a message marks online. -/
def Message.online? : Message → Option ℕ
  | .driverJoinRoom driverId | .driverOnline driverId | .driverRejoinRoom driverId => some driverId
  | _ => none

/-- The commands after which a call goes on to mark a driver online. -/
def Cmd.isCheck : Cmd → Bool
  | .receive _ _ | .setDriver _ _ | .findDriverByUser _ => true
  | _ => false

/-- The driver was online or could go online, and this ends. -/
def revokes (driverId : ℕ) (e : Event Store Cmd) : Bool :=
  match e.kind with
  | .did c => e.before.admits driverId && !(c.exec e.before).admits driverId
  | .spawned _ => false

/-- A message or a connection comes in for a driver who is online or may go online, and a driver is
marked online whom nothing has kept from it since the call has looked. -/
def Gated (env : FleetEnv) (i : ℕ) (w : World Store Cmd) : Cmd → Prop
  | .receive socketId m => (guardUser socketId env w.store).isSome = true →
      ∀ driverId, m.online? = some driverId → w.store.admits driverId = true
  | .setDriver _ driverId => w.store.admits driverId = true
  | .updateDriver driverId data => data.isOnline = some true →
      ∀ e ∈ w.since i Cmd.isCheck, revokes driverId e = false
  | _ => True

/-- A driver who goes online is validated and owes at most the threshold. -/
def Gate (c : Cmd) (s : Store) : Prop :=
  ∀ driverId driver, s.drivers.find? driverId = some driver → driver.isOnline = false →
    ((c.exec s).drivers.find? driverId).any Driver.isOnline = true →
      driver.status = .validated ∧ driver.commissionDue.toNumber ≤ maxCommissionDue

namespace Gate

/-- The command marks a driver online. -/
def marksOnline : Cmd → Bool
  | .updateDriver _ data => decide (data.isOnline = some true)
  | _ => false

theorem isOnline_apply {data : DriverData} {driver : Driver} (hdata : data.isOnline ≠ some true)
    (hdriver : driver.isOnline = false) : (data.apply driver).isOnline = false := by
  unfold DriverData.apply
  cases hset : data.isOnline with
  | none => exact hdriver
  | some isOnline =>
    cases isOnline with
    | false => rfl
    | true => exact absurd hset hdata

/-- A change of the rows that takes nobody online. -/
theorem isOnline_update {s : Store} {driverId other : ℕ} {driver : Driver} {f : Driver → Driver}
    (hf : ∀ driver, (f driver).id = driver.id) (hdriver : s.drivers.find? driverId = some driver)
    (hkeeps : (f driver).isOnline = false) (hoffline : driver.isOnline = false) :
    ((s.drivers.update other f hf).find? driverId).any Driver.isOnline = false := by
  by_cases hne : driverId = other
  · obtain rfl := hne
    rw [Table.find?_update_self, hdriver, Option.map_some, Option.any_some]
    exact hkeeps
  · rw [Table.find?_update_of_ne hne, hdriver, Option.any_some]
    exact hoffline

/-- The other commands take nobody online. -/
theorem of_not_marksOnline {c : Cmd} {s : Store} (hc : marksOnline c = false) : Gate c s := by
  intro driverId driver hdriver hoffline honline
  have hsame : (c.exec s).drivers = s.drivers →
      ((c.exec s).drivers.find? driverId).any Driver.isOnline = false := fun heq => by
    rw [heq, hdriver, Option.any_some]
    exact hoffline
  suffices h : ((c.exec s).drivers.find? driverId).any Driver.isOnline = false by
    rw [h] at honline
    cases honline
  cases c with
  | updateDriver other data =>
    have hdata : data.isOnline ≠ some true := of_decide_eq_false hc
    exact isOnline_update data.id_apply hdriver (isOnline_apply hdata hoffline) hoffline
  | incrementDue other amount =>
    exact isOnline_update (Driver.id_incrementDue amount) hdriver hoffline hoffline
  | updateLocation other lat lng =>
    exact isOnline_update (Driver.id_move lat lng s.now) hdriver hoffline hoffline
  | createDriver userId vehicle =>
    by_cases hrefused : s.refusesDriver userId vehicle = true
    · exact hsame (by rw [Cmd.exec, if_pos hrefused])
    · have hrows : ((Cmd.createDriver userId vehicle).exec s).drivers =
          s.drivers.insert { id := s.drivers.freshKey, userId } := by
        rw [Cmd.exec, if_neg hrefused]
      rw [hrows, Table.find?_insert, hdriver, Option.some_or, Option.any_some]
      exact hoffline
  | expireTimer other =>
    refine hsame ?_
    rw [Cmd.exec]
    split_ifs <;> rfl
  | _ => exact hsame rfl

/-- A driver who is online or may go online is marked online. -/
theorem of_admits {s : Store} {driverId : ℕ} {data : DriverData} (h : s.admits driverId = true) :
    Gate (.updateDriver driverId data) s := by
  intro other driver hdriver hoffline honline
  by_cases hother : other = driverId
  · obtain rfl := hother
    rw [Store.admits, hdriver, Option.all_some, hoffline, Bool.false_or] at h
    exact of_decide_eq_true h
  · have hsame : ((Cmd.updateDriver driverId data).exec s).drivers.find? other = some driver := by
      rw [← hdriver]
      exact Table.find?_update_of_ne hother _ data.id_apply
    rw [hsame, Option.any_some, hoffline] at honline
    cases honline

/-- The rules of the runs: whoever goes online passes the gate. -/
def protocol (env : FleetEnv) (fault : Error → Prop) : Protocol system where
  cond := Gated env
  fault := fault
  inv w := ∀ e ∈ w.trace, ∀ c, e.kind = .did c → Gate c e.before
  guar _ w c := Gate c w.store
  inv_step := by
    intro w i c n hinv _ hguar _ _ e he d hd
    rw [World.step_of_no_handlers (system_handlers c)] at he
    rcases List.mem_cons.mp he with rfl | he
    · obtain rfl := EventKind.did.inj hd
      exact hguar
    · exact hinv e he d hd

section Threads

variable {env : FleetEnv} {fault : Error → Prop} {i socketId driverId : ℕ} {w : World Store Cmd}

/-- The driver is online or may go online, unless this has ended since the thread has looked. -/
def Cleared (i driverId : ℕ) (w : World Store Cmd) : Prop :=
  w.store.admits driverId = true ∨ ∃ e ∈ w.since i Cmd.isCheck, revokes driverId e = true

theorem Cleared.step {j n : ℕ} {c : Cmd} (h : Cleared i driverId w)
    (hc : j ≠ i ∨ c.isCheck = false) : Cleared i driverId (w.step system j c n) := by
  have hsince : (w.act Cmd.exec j c).since i Cmd.isCheck =
      ⟨j, .did c, w.store⟩ :: w.since i Cmd.isCheck := World.since_act_of_not hc
  rw [World.step_of_no_handlers (system_handlers c)]
  rcases h with hadmits | ⟨e, he, hrevokes⟩
  · cases hafter : (c.exec w.store).admits driverId with
    | true => exact Or.inl hafter
    | false =>
      refine Or.inr ⟨⟨j, .did c, w.store⟩, ?_, ?_⟩
      · rw [system_exec, hsince]
        exact List.mem_cons_self
      · show (w.store.admits driverId && !(c.exec w.store).admits driverId) = true
        rw [hadmits, hafter]
        rfl
  · refine Or.inr ⟨e, ?_, hrevokes⟩
    rw [system_exec, hsince]
    exact List.mem_cons_of_mem _ he

theorem stable_cleared : (protocol env fault).Stable i (Cleared i driverId) := by
  rintro w _ ⟨j, c, n, hj, -, -, -, -, -, -, rfl⟩ h
  exact h.step (Or.inl hj)

/-- Nobody is taken online, and nothing is looked at. -/
def isIdle (c : Cmd) : Bool := !marksOnline c && !c.isCheck

theorem frame_cleared :
    (protocol env fault).Frame i (isIdle · = true) (Cleared i driverId) where
  stable := stable_cleared
  performs := by
    intro c w hc hw _ _
    rw [isIdle, Bool.and_eq_true, Bool.not_eq_true', Bool.not_eq_true'] at hc
    exact ⟨of_not_marksOnline hc.1, fun n _ _ => hw.step (Or.inr hc.2)⟩

theorem frame_true :
    (protocol env fault).Frame i (marksOnline · = false) fun _ => True where
  stable := fun _ _ _ _ => trivial
  performs := fun hc _ _ _ => ⟨of_not_marksOnline hc, fun _ _ _ => trivial⟩

/-- The update of a driver whom the thread has looked at. -/
theorem wp_updateDriver {data : DriverData} (hw : Cleared i driverId w) :
    (protocol env fault).wp i ((updateDriver driverId data).as ()) (fun _ _ => True) w := by
  refine Protocol.wp_as (Protocol.wp_queryE stable_cleared hw (fun v hv _ hcond => ?_)
    fun _ _ _ _ _ => trivial)
  refine ⟨?_, fun _ _ _ => trivial⟩
  by_cases hdata : data.isOnline = some true
  · rcases hv with hadmits | ⟨e, he, hrevokes⟩
    · exact of_admits hadmits
    · rw [hcond hdata e he] at hrevokes
      cases hrevokes
  · exact of_not_marksOnline (decide_eq_false hdata)

theorem wp_setOnline (hw : Cleared i driverId w) :
    (protocol env fault).wp i (setOnline driverId) (fun _ _ => True) w := by
  unfold setOnline
  rw [Async.bind_eq]
  refine frame_cleared.wp_bind (by simp [newDate, isIdle, marksOnline, Cmd.isCheck]) hw
    (fun now v hv => ?_) fun _ _ _ => trivial
  rw [Async.bind_eq]
  refine frame_cleared.wp_bind (by simp [isIdle, marksOnline, Cmd.isCheck]) hv
    (fun _ u hu => ?_) fun _ _ _ => trivial
  refine Protocol.wp_tryCatch (Protocol.wp_mono (fun r v _ => ?_) (wp_updateDriver hu))
  cases r <;> trivial

/-- Joining the room of a driver whom the thread has looked at. -/
theorem wp_joinDriverRoom (hw : Cleared i driverId w) :
    (protocol env fault).wp i ((joinDriverRoom socketId driverId).bind fun _ => setOnline driverId)
      (fun _ _ => True) w :=
  frame_cleared.wp_bind (by simp [joinDriverRoom, isIdle, marksOnline, Cmd.isCheck]) hw
    (fun _ _ hv => wp_setOnline hv) fun _ _ _ => trivial

/-- Stopping his timer before. -/
theorem wp_rejoin (hw : Cleared i driverId w) :
    (protocol env fault).wp i ((cancelGracePeriod driverId).bind fun _ =>
      (joinDriverRoom socketId driverId).bind fun _ => setOnline driverId) (fun _ _ => True) w :=
  frame_cleared.wp_bind (by simp [cancelGracePeriod, isIdle, marksOnline, Cmd.isCheck]) hw
    (fun _ _ hv => wp_joinDriverRoom hv) fun _ _ _ => trivial

theorem wp_welcomeDriver (driver : Driver) :
    (protocol env fault).wp i (welcomeDriver socketId driver) (fun _ _ => True) w := by
  unfold welcomeDriver
  rw [Async.bind_eq]
  refine Protocol.wp_read_bind (A := fun _ => True) (fun _ _ _ _ => trivial) trivial
    fun v _ _ hcond => ⟨of_not_marksOnline rfl, fun n _ _ => ?_⟩
  have hcleared : Cleared i driver.id (v.step system i (.setDriver socketId driver.id) n) := by
    refine Or.inl ?_
    rw [World.store_step]
    exact hcond
  exact wp_rejoin hcleared

/-- The frame rule for programs whose result does not matter. -/
theorem wp_of_only {p : Prog Unit} (hp : p.Only (marksOnline · = false)) :
    (protocol env fault).wp i p (fun _ _ => True) w :=
  frame_true.wp hp trivial

theorem marksOnline_of_isPlain {c : Cmd} (hc : c.isPlain = true) : marksOnline c = false := by
  cases c with
  | updateDriver other data => exact decide_eq_false (of_decide_eq_true hc)
  | _ => rfl

theorem wp_of_plain {p : Prog Unit} (hp : p.Only (Cmd.isPlain · = true)) :
    (protocol env fault).wp i p (fun _ _ => True) w :=
  wp_of_only (hp.mono fun _ => marksOnline_of_isPlain)

theorem wp_bind_of_only {α : Type} {p : Prog α} {f : α → Prog Unit}
    (hp : p.Only (marksOnline · = false))
    (hf : ∀ a w, (protocol env fault).wp i (f a) (fun _ _ => True) w) :
    (protocol env fault).wp i (p.bind f) (fun _ _ => True) w :=
  frame_true.wp_bind hp trivial (fun a v _ => hf a v) fun _ _ _ => trivial

theorem wp_findDriver (user : Auth.JwtPayload) :
    (protocol env fault).wp i
      (if user.role = .driver then
        (findDriverByUser user.sub).bind fun driver => match driver with
          | some driver => welcomeDriver socketId driver
          | none => pure ()
      else pure ()) (fun _ _ => True) w := by
  split_ifs
  · refine wp_bind_of_only (by simp [findDriverByUser, marksOnline]) fun driver _ => ?_
    cases driver with
    | none => trivial
    | some driver => exact wp_welcomeDriver driver
  · trivial

theorem wp_welcome (user : Auth.JwtPayload) :
    (protocol env fault).wp i (welcome socketId user) (fun _ _ => True) w := by
  unfold welcome
  refine wp_bind_of_only (by simp [marksOnline]) fun _ _ => ?_
  refine wp_bind_of_only (by simp [joinUserRoom, marksOnline]) fun _ _ => ?_
  by_cases hadmin : user.role = .admin
  · rw [if_pos hadmin]
    exact wp_bind_of_only (by simp [joinAdminRoom, marksOnline]) fun _ _ => wp_findDriver user
  · rw [if_neg hadmin]
    exact wp_findDriver user

theorem wp_handleConnection (token : Option String) :
    (protocol env fault).wp i (handleConnection env socketId token) (fun _ _ => True) w := by
  unfold handleConnection
  cases token with
  | none => exact wp_of_plain only_reject
  | some token =>
    refine wp_bind_of_only (by simp [newDate, marksOnline]) fun now _ => ?_
    cases env.verify token now with
    | none => exact wp_of_plain only_reject
    | some user => exact wp_welcome user

theorem wp_connectSocket (token : Option String) :
    (protocol env fault).wp i (connectSocket env socketId token) (fun _ _ => True) w := by
  unfold connectSocket
  refine wp_bind_of_only (by simp [marksOnline]) fun taken _ => ?_
  cases taken with
  | true => trivial
  | false =>
    refine Protocol.wp_bind (Protocol.wp_mono (fun r v _ => ?_) (wp_handleConnection token))
    cases r with
    | error e => trivial
    | ok => exact wp_of_only (by simp [marksOnline])

theorem wp_tripJoin (tripId : ℕ) :
    (protocol env fault).wp i (handleTripJoin socketId tripId) (fun _ _ => True) w :=
  wp_of_only (by simp [handleTripJoin, joinTripRoom, marksOnline])

theorem wp_handle (user : Auth.JwtPayload) {m : Message}
    (hw : ∀ driverId, m.online? = some driverId → Cleared i driverId w) :
    (protocol env fault).wp i (handle socketId user m) (fun _ _ => True) w := by
  cases hm : m.isPlain with
  | true => exact wp_of_plain (only_handle socketId user hm)
  | false =>
    cases m with
    | driverJoinRoom driverId => exact wp_joinDriverRoom (hw driverId rfl)
    | driverOnline driverId => exact wp_joinDriverRoom (hw driverId rfl)
    | driverRejoinRoom driverId => exact wp_rejoin (hw driverId rfl)
    | tripJoin tripId => exact wp_tripJoin tripId
    | _ => cases hm

theorem wp_receive (m : Message) :
    (protocol env fault).wp i (receive socketId env m) (fun _ _ => True) w := by
  unfold receive
  refine Protocol.wp_read_bind (A := fun _ => True) (fun _ _ _ _ => trivial) trivial
    fun v _ _ hcond => ⟨of_not_marksOnline rfl, fun n _ _ => ?_⟩
  cases hguard : guardUser socketId env v.store with
  | none => trivial
  | some user =>
    have hcleared : ∀ driverId, m.online? = some driverId →
        Cleared i driverId (v.step system i (.receive socketId m) n) := by
      intro driverId hm
      refine Or.inl ?_
      rw [World.store_step]
      exact hcond (by rw [hguard]; rfl) driverId hm
    have hframe : (protocol env fault).Frame i (isIdle · = true) fun w =>
        ∀ driverId, m.online? = some driverId → Cleared i driverId w :=
      ⟨fun _ _ hother h driverId hm => stable_cleared hother (h driverId hm),
        fun hc hw hinv hcond => by
          rw [isIdle, Bool.and_eq_true, Bool.not_eq_true', Bool.not_eq_true'] at hc
          exact ⟨of_not_marksOnline hc.1,
            fun n _ _ driverId hm => (hw driverId hm).step (Or.inr hc.2)⟩⟩
    exact hframe.wp_bind (by simp [isIdle, marksOnline, Cmd.isCheck]) hcleared
      (fun _ _ hv => wp_handle user hv) fun _ _ _ => trivial

theorem wp_updateOnlineStatus (userId : ℕ) (isOnline : Bool) :
    (protocol env fault).wp i (updateOnlineStatus userId isOnline) (fun _ _ => True) w := by
  unfold updateOnlineStatus
  refine Protocol.wp_query_bind (A := fun _ => True) (fun _ _ _ _ => trivial) trivial
    (fun v _ _ _ => ⟨of_not_marksOnline rfl, fun n _ _ => ?_⟩) fun _ _ _ _ _ => trivial
  cases hfound : v.store.drivers.findFirst fun driver => decide (driver.userId = userId) with
  | none => trivial
  | some driver =>
    dsimp only
    by_cases hstatus : driver.status ≠ .validated
    · rw [if_pos hstatus]
      trivial
    · rw [if_neg hstatus]
      by_cases hdue : isOnline = true ∧ maxCommissionDue < driver.commissionDue.toNumber
      · rw [if_pos hdue]
        trivial
      · rw [if_neg hdue]
        cases isOnline with
        | false =>
          have hupdate : (updateDriver driver.id { isOnline := some false }).Only
              (marksOnline · = false) := by
            simp [updateDriver, marksOnline]
          exact wp_of_only (hupdate.bind fun _ => trivial)
        | true =>
          refine wp_updateDriver (Or.inl ?_)
          have hrow : v.store.drivers.find? driver.id = some driver := (Table.find?_of_findFirst hfound).1
          have heligible : driver.isEligible = true :=
            decide_eq_true ⟨not_not.mp hstatus, not_lt.mp fun h => hdue ⟨rfl, h⟩⟩
          rw [World.store_step]
          show (v.store.drivers.find? driver.id).all _ = true
          rw [hrow, Option.all_some, heligible, Bool.or_true]

theorem wp_call (call : Call) :
    (protocol env fault).wp i (call.program env) (fun _ _ => True) w := by
  cases hcall : call.isPlain with
  | true => exact wp_of_plain (only_program env hcall)
  | false =>
    cases call with
    | connect socketId token => exact wp_connectSocket token
    | message socketId m => exact wp_receive m
    | updateOnlineStatus userId isOnline => exact wp_updateOnlineStatus userId isOnline
    | _ => cases hcall

end Threads

end Gate

open Gate in
/-- If messages and connections come in for drivers who are online or may go online, and this does not
end between a call's look and its update, then every driver who goes online is validated and owes at
most the threshold. -/
theorem online_gated (env : FleetEnv) (fault : Error → Prop) (s : Store) (calls : List Call)
    {p : Pool Store Cmd Error Unit}
    (hrun : Pool.Run system (Gated env) fault (start env s calls) p) :
    ∀ e ∈ p.world.trace, ∀ c, e.kind = .did c → Gate c e.before := by
  have hstart : (protocol env fault).Safe (fun _ _ _ => True) (start env s calls) := by
    refine Protocol.safe_init (fun e he => absurd he List.not_mem_nil) fun i t ht => ?_
    obtain ⟨call, -, rfl⟩ := exists_call_of_start (s := s) ht
    exact wp_call call
  have hhandlers : (protocol env fault).HandlersKeep fun _ _ _ => True := by
    intro c k h hk
    rw [system_handlers, List.getElem?_nil] at hk
    cases hk
  exact (hstart.run (fun _ _ _ _ _ _ => trivial) hhandlers hrun).inv

/-! ### Runs -/

instance (env : FleetEnv) (i : ℕ) (w : World Store Cmd) (c : Cmd) : Decidable (Gated env i w c) := by
  induction c using Cmd.casesOn with
  | receive socketId m =>
    exact inferInstanceAs (Decidable (_ → ∀ driverId ∈ m.online?, _))
  | setDriver socketId driverId => exact inferInstanceAs (Decidable (_ = true))
  | updateDriver driverId data =>
    exact inferInstanceAs (Decidable (_ → ∀ e ∈ w.since i Cmd.isCheck, _))
  | _ => exact inferInstanceAs (Decidable True)

namespace Gate

/-- Driver 1 asks to go online. -/
def asks : List Call := [.updateOnlineStatus 10 true]

/-- Driver 2, who owes too much, connects. -/
def debtor : List Call := [.connect 1 (some "d2")]

end Gate

open Town Gate in
/-- Driver 1 goes online, and may. -/
theorem online_gated_asks :
    ∃ q : Pool Store Cmd Error Unit, (q.world.store.drivers.find? 1).any Driver.isOnline = true ∧
      ∀ e ∈ q.world.trace, ∀ c, e.kind = .did c → Gate c e.before := by
  obtain ⟨q, hrun, honline⟩ := Pool.exists_run_of_schedule? system (Gated env) (fun _ => False)
    (start env store asks) [0, 0]
    (fun q => (q.world.store.drivers.find? 1).any Driver.isOnline = true) (by decide +kernel)
  exact ⟨q, honline, online_gated env _ store asks hrun⟩

open Town Gate in
/-- Driver 2 goes online by connecting. -/
theorem debtor_goes_online :
    ∃ q, Pool.Run system (fun _ _ _ => True) (fun _ => False) (start env store debtor) q ∧
      ¬ ∀ e ∈ q.world.trace, ∀ c, e.kind = .did c → Gate c e.before := by
  obtain ⟨q, hrun, e, he, hkind, hdriver, honline⟩ := Pool.exists_run_of_schedule? system
    (fun _ _ _ => True) (fun _ => False) (start env store debtor) (List.replicate 11 0)
    (fun q => ∃ e ∈ q.world.trace, e.kind = .did (.updateDriver 2 { isOnline := some true }) ∧
      e.before.drivers.find? 2 =
        some { id := 2, userId := 11, status := .validated, commissionDue := 6000000 } ∧
      ((Cmd.exec (.updateDriver 2 { isOnline := some true }) e.before).drivers.find? 2).any
        Driver.isOnline = true) (by decide +kernel)
  refine ⟨q, hrun, fun hgate => ?_⟩
  have hdue := (hgate e he _ hkind 2 _ hdriver rfl honline).2
  exact absurd hdue (by decide +kernel)

end Telima.Fleet
