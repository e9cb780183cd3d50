import Telima.Async.Atomic
import Telima.Fleet.Footprints

/-!
# Presence follows connectivity

A grace timer belongs to a driver, and every disconnection of a socket of his sets it, whatever other
sockets he has; when it expires he is marked offline.  A socket that is closed before the driver is
noted on it sets no timer, and the rest of its connection marks him online all the same.  If a driver's
socket is only closed after its connection has been handled and when he has no other, and no connection
of his is handled while the callback of his timer runs, then the timer never marks a connected driver
offline, and a driver who is online has a socket or a timer (`presence_follows_connectivity`).
-/

namespace Telima.Fleet

open Auth (JwtPayload)
open PresenceService RoomsService DisconnectionHandler ConnectionHandler

/-- A connected socket of the driver. -/
def Store.Reaches (s : Store) (driverId : ℕ) : Prop :=
  ∃ socket ∈ s.sockets.rows, socket.connected = true ∧ socket.driverId = some driverId

/-- The driver of a user. -/
def Store.driverOf (s : Store) (userId : ℕ) : Option ℕ :=
  (s.drivers.findFirst fun driver => decide (driver.userId = userId)).map Driver.id

/-- The socket belongs to the user of a driver. -/
def Socket.IsDrivers (s : Store) (socket : Socket) : Prop :=
  ∃ user driverId, socket.user = some user ∧ user.role = .driver ∧
    s.driverOf user.sub = some driverId

/-- The update of `setOffline`. -/
abbrev Cmd.offline (driverId : ℕ) : Cmd := .updateDriver driverId { isOnline := some false }

/-- The update of `setOnline`. -/
abbrev Cmd.online (driverId : ℕ) : Cmd := .updateDriver driverId { isOnline := some true }

/-- The connection of the socket has been handled. -/
def Handled (w : World Store Cmd) (socketId : ℕ) : Prop :=
  ∃ e ∈ w.trace, e.kind = .did (.handled socketId)

/-- The callback of the driver's timer is running. -/
def Expiring (w : World Store Cmd) (driverId : ℕ) : Prop :=
  ∃ e ∈ w.trace, e.kind = .did (.expireTimer driverId) ∧ e.before.timerDue driverId = true ∧
    ¬ w.Did e.tid (· = .offline driverId)

/-- A driver's socket is closed after its connection has been handled, and when he has no other; no
connection of a driver is handled while the callback of his timer is running. -/
def Unhurried (_ : ℕ) (w : World Store Cmd) : Cmd → Prop
  | .disconnect socketId => ∀ socket, w.store.sockets.find? socketId = some socket →
      socket.connected = true → (socket.IsDrivers w.store → Handled w socketId) ∧
        ∀ driverId, socket.driverId = some driverId → ∀ other ∈ w.store.sockets.rows,
          other.id ≠ socketId → other.connected = true → other.driverId ≠ some driverId
  | .findDriverByUser userId =>
      ∀ driverId, w.store.driverOf userId = some driverId → ¬ Expiring w driverId
  | _ => True

namespace Connectivity

/-- The thread has connected the socket. -/
def Owns (i socketId : ℕ) (w : World Store Cmd) : Prop :=
  ∃ e ∈ w.trace, e.tid = i ∧ (∃ token, e.kind = .did (.connect socketId token)) ∧
    e.before.sockets.find? socketId = none

/-- The presence of a driver follows his sockets. -/
structure Follows (w : World Store Cmd) (driverId : ℕ) : Prop where
  timed : (w.store.graceTimers driverId).isSome = true → ¬ w.store.Reaches driverId
  expiring : Expiring w driverId → ¬ w.store.Reaches driverId
  online : ∀ driver ∈ w.store.drivers.rows, driver.id = driverId → driver.isOnline = true →
    w.store.Reaches driverId ∨ (w.store.graceTimers driverId).isSome = true ∨ Expiring w driverId

/-- The sockets are those that have been connected, each by one thread. -/
structure Connected (w : World Store Cmd) : Prop where
  owner : ∀ i j socketId, Owns i socketId w → Owns j socketId w → i = j
  stored : ∀ i socketId, Owns i socketId w → (w.store.sockets.find? socketId).isSome = true
  handled : ∀ socketId, Handled w socketId → (w.store.sockets.find? socketId).isSome = true

/-- What holds when the processor is free. -/
structure Inv (w : World Store Cmd) : Prop where
  connected : Connected w
  follows : ∀ driverId, Follows w driverId

/-- What a thread does from one await to the next: it only changes sockets it has connected, but for
those it closes. -/
structure Rel (i : ℕ) (w w' : World Store Cmd) : Prop where
  drivers : ∀ userId, w'.store.driverOf userId = w.store.driverOf userId
  sockets : ∀ socketId socket, w.store.sockets.find? socketId = some socket →
    Owns i socketId w' ∨ ∃ socket', w'.store.sockets.find? socketId = some socket' ∧
      socket'.user = socket.user ∧ socket'.driverId = socket.driverId ∧
      (socket'.connected = socket.connected ∨ (socket.IsDrivers w.store → Handled w socketId))
  handled : ∀ socketId, Handled w' socketId → Handled w socketId ∨ Owns i socketId w'
  trace : ∃ es, w'.trace = es ++ w.trace ∧ ∀ e ∈ es, e.tid = i

theorem Owns.mono {i j socketId : ℕ} {w w' : World Store Cmd} (h : Owns j socketId w)
    (hrel : Rel i w w') : Owns j socketId w' := by
  obtain ⟨es, htrace, -⟩ := hrel.trace
  obtain ⟨e, he, hrest⟩ := h
  exact ⟨e, htrace ▸ List.mem_append_right es he, hrest⟩

theorem Rel.refl (i : ℕ) (w : World Store Cmd) : Rel i w w where
  drivers _ := rfl
  sockets _ socket h := Or.inr ⟨socket, h, rfl, rfl, Or.inl rfl⟩
  handled _ h := Or.inl h
  trace := ⟨[], rfl, fun _ h => absurd h List.not_mem_nil⟩

theorem Rel.trans {i : ℕ} {w₀ w w' : World Store Cmd} (h : Rel i w₀ w) (h' : Rel i w w') :
    Rel i w₀ w' where
  drivers userId := (h'.drivers userId).trans (h.drivers userId)
  sockets := by
    intro socketId socket hsocket
    rcases h.sockets socketId socket hsocket with howns | ⟨socket₁, hsocket₁, huser₁, hdriver₁, hclosed₁⟩
    · exact Or.inl (howns.mono h')
    · rcases h'.sockets socketId socket₁ hsocket₁ with
        howns | ⟨socket₂, hsocket₂, huser₂, hdriver₂, hclosed₂⟩
      · exact Or.inl howns
      · by_cases howns : Owns i socketId w
        · exact Or.inl (howns.mono h')
        · refine Or.inr ⟨socket₂, hsocket₂, huser₂.trans huser₁, hdriver₂.trans hdriver₁, ?_⟩
          rcases hclosed₁ with hsame₁ | hmay₁
          · rcases hclosed₂ with hsame₂ | hmay₂
            · exact Or.inl (hsame₂.trans hsame₁)
            · refine Or.inr fun hdrivers => ?_
              obtain ⟨user, driverId, huser, hrole, hdriver⟩ := hdrivers
              have hdrivers₁ : socket₁.IsDrivers w.store :=
                ⟨user, driverId, huser₁.trans huser, hrole, (h.drivers user.sub).trans hdriver⟩
              exact (h.handled socketId (hmay₂ hdrivers₁)).resolve_right howns
          · exact Or.inr hmay₁
  handled := by
    intro socketId hhandled
    rcases h'.handled socketId hhandled with hbefore | howns
    · rcases h.handled socketId hbefore with hfirst | howns
      · exact Or.inl hfirst
      · exact Or.inr (howns.mono h')
    · exact Or.inr howns
  trace := by
    obtain ⟨es, htrace, hes⟩ := h.trace
    obtain ⟨es', htrace', hes'⟩ := h'.trace
    refine ⟨es' ++ es, by rw [htrace', htrace, List.append_assoc], fun e he => ?_⟩
    rcases List.mem_append.mp he with he | he
    · exact hes' e he
    · exact hes e he

/-- What a thread promises when it performs a command: it marks no driver offline who has a socket. -/
def Guar (_ : ℕ) (w : World Store Cmd) : Cmd → Prop
  | .zrem driverId => ¬ w.store.Reaches driverId
  | .updateDriver driverId data => data.isOnline = some false → ¬ w.store.Reaches driverId
  | _ => True

def protocol : AtomicProtocol system where
  cond := Unhurried
  fault _ := False
  inv := Inv
  guar := Guar
  rel := Rel
  rel_refl := Rel.refl
  no_handlers _ := rfl

/-! ### What a command does to the history -/

section History

variable {w : World Store Cmd} {i j socketId driverId : ℕ} {c : Cmd}

abbrev act (w : World Store Cmd) (i : ℕ) (c : Cmd) : World Store Cmd := w.act Cmd.exec i c

theorem mem_trace_act {e : Event Store Cmd} :
    e ∈ (act w i c).trace ↔ e = ⟨i, .did c, w.store⟩ ∨ e ∈ w.trace := List.mem_cons

theorem handled_act : Handled (act w i c) socketId ↔ c = .handled socketId ∨ Handled w socketId := by
  constructor
  · rintro ⟨e, he, hkind⟩
    rcases mem_trace_act.mp he with rfl | he
    · exact Or.inl (EventKind.did.inj hkind)
    · exact Or.inr ⟨e, he, hkind⟩
  · rintro (rfl | ⟨e, he, hkind⟩)
    · exact ⟨_, mem_trace_act.mpr (Or.inl rfl), rfl⟩
    · exact ⟨e, mem_trace_act.mpr (Or.inr he), hkind⟩

theorem owns_act : Owns j socketId (act w i c) ↔
    (i = j ∧ (∃ token, c = .connect socketId token) ∧ w.store.sockets.find? socketId = none) ∨
      Owns j socketId w := by
  constructor
  · rintro ⟨e, he, htid, ⟨token, hkind⟩, hbefore⟩
    rcases mem_trace_act.mp he with rfl | he
    · exact Or.inl ⟨htid, ⟨token, EventKind.did.inj hkind⟩, hbefore⟩
    · exact Or.inr ⟨e, he, htid, ⟨token, hkind⟩, hbefore⟩
  · rintro (⟨rfl, ⟨token, rfl⟩, hbefore⟩ | ⟨e, he, hrest⟩)
    · exact ⟨_, mem_trace_act.mpr (Or.inl rfl), rfl, ⟨token, rfl⟩, hbefore⟩
    · exact ⟨e, mem_trace_act.mpr (Or.inr he), hrest⟩

/-- A running callback, after a command: it was running, or starts. -/
theorem expiring_of_act (h : Expiring (act w i c) driverId) :
    (c = .expireTimer driverId ∧ w.store.timerDue driverId = true) ∨ Expiring w driverId := by
  obtain ⟨e, he, hkind, hdue, hnot⟩ := h
  rcases mem_trace_act.mp he with rfl | he
  · exact Or.inl ⟨EventKind.did.inj hkind, hdue⟩
  · refine Or.inr ⟨e, he, hkind, hdue, fun hdid => hnot ?_⟩
    exact World.did_act.mpr (Or.inr hdid)

/-- A running callback ends with the update. -/
theorem expiring_act (h : Expiring w driverId) (hc : c ≠ .offline driverId) :
    Expiring (act w i c) driverId := by
  obtain ⟨e, he, hkind, hdue, hnot⟩ := h
  refine ⟨e, mem_trace_act.mpr (Or.inr he), hkind, hdue, fun hdid => ?_⟩
  rcases World.did_act.mp hdid with ⟨-, heq⟩ | hdid
  · exact hc heq
  · exact hnot hdid

theorem trace_rel (w : World Store Cmd) (i : ℕ) (c : Cmd) :
    ∃ es, (act w i c).trace = es ++ w.trace ∧ ∀ e ∈ es, e.tid = i := by
  refine ⟨[⟨i, .did c, w.store⟩], rfl, fun e he => ?_⟩
  rw [List.mem_singleton.mp he]

end History

/-! ### What a command does to the server -/

section Server

variable {s : Store} {w : World Store Cmd} {i socketId driverId : ℕ} {c : Cmd}

/-- The drivers that a connected socket has noted are those of the socket that is changed, and of the
others. -/
theorem reaches_update {f : Socket → Socket} {hf : ∀ socket, (f socket).id = socket.id} :
    ({ s with sockets := s.sockets.update socketId f hf } : Store).Reaches driverId ↔
      (∃ socket, s.sockets.find? socketId = some socket ∧ (f socket).connected = true ∧
        (f socket).driverId = some driverId) ∨
      ∃ socket ∈ s.sockets.rows, socket.id ≠ socketId ∧ socket.connected = true ∧
        socket.driverId = some driverId := by
  constructor
  · rintro ⟨socket', hmem, hconnected, hdriver⟩
    obtain ⟨socket, hsocket, rfl⟩ := List.mem_map.mp hmem
    by_cases hid : socket.id = socketId
    · rw [if_pos (decide_eq_true hid)] at hconnected hdriver
      exact Or.inl ⟨socket, Table.find?_eq_some_iff.mpr ⟨hsocket, hid⟩, hconnected, hdriver⟩
    · rw [if_neg (by simpa using hid)] at hconnected hdriver
      exact Or.inr ⟨socket, hsocket, hid, hconnected, hdriver⟩
  · rintro (⟨socket, hsocket, hconnected, hdriver⟩ | ⟨socket, hsocket, hid, hconnected, hdriver⟩)
    · obtain ⟨hmem, hid⟩ := Table.find?_eq_some_iff.mp hsocket
      refine ⟨f socket, List.mem_map.mpr ⟨socket, hmem, ?_⟩, hconnected, hdriver⟩
      rw [if_pos (decide_eq_true hid)]
    · refine ⟨socket, List.mem_map.mpr ⟨socket, hsocket, ?_⟩, hconnected, hdriver⟩
      rw [if_neg (by simpa using hid)]

/-- A change of a socket that leaves what it says about drivers. -/
theorem reaches_update_iff {f : Socket → Socket} {hf : ∀ socket, (f socket).id = socket.id}
    (h : ∀ socket, s.sockets.find? socketId = some socket →
      ((f socket).connected = true ∧ (f socket).driverId = some driverId ↔
        socket.connected = true ∧ socket.driverId = some driverId)) :
    ({ s with sockets := s.sockets.update socketId f hf } : Store).Reaches driverId ↔
      s.Reaches driverId := by
  rw [reaches_update]
  constructor
  · rintro (⟨socket, hsocket, hreaches⟩ | ⟨socket, hsocket, -, hreaches⟩)
    · exact ⟨socket, Table.mem_of_find? hsocket, (h socket hsocket).mp hreaches⟩
    · exact ⟨socket, hsocket, hreaches⟩
  · rintro ⟨socket, hsocket, hreaches⟩
    by_cases hid : socket.id = socketId
    · have hfind := Table.find?_eq_some_iff.mpr ⟨hsocket, hid⟩
      exact Or.inl ⟨socket, hfind, (h socket hfind).mpr hreaches⟩
    · exact Or.inr ⟨socket, hsocket, hid, hreaches⟩

theorem driverOf_update {f : Driver → Driver} {hf : ∀ driver, (f driver).id = driver.id}
    (huser : ∀ driver, (f driver).userId = driver.userId) (userId : ℕ) :
    ({ s with drivers := s.drivers.update driverId f hf } : Store).driverOf userId =
      s.driverOf userId := by
  unfold Store.driverOf
  have hp : ∀ driver, decide ((f driver).userId = userId) = decide (driver.userId = userId) :=
    fun driver => by rw [huser]
  rw [Table.findFirst_update f hf hp, Option.map_map]
  congr 1
  funext driver
  simp only [Function.comp_apply]
  split_ifs
  · exact hf driver
  · rfl

theorem connected_act (hw : Connected w)
    (hhandled : ∀ x, c = .handled x → (w.store.sockets.find? x).isSome = true) :
    Connected (act w i c) := by
  refine ⟨?_, ?_, ?_⟩
  · intro j k x hj hk
    have hnone : ∀ j, Owns j x w → w.store.sockets.find? x ≠ none := fun j hj hfree => by
      have hstored := hw.stored j x hj
      rw [hfree] at hstored
      cases hstored
    rcases owns_act.mp hj with ⟨rfl, -, hfree⟩ | hj
    · rcases owns_act.mp hk with ⟨rfl, -, -⟩ | hk
      · rfl
      · exact absurd hfree (hnone k hk)
    · rcases owns_act.mp hk with ⟨rfl, -, hfree⟩ | hk
      · exact absurd hfree (hnone j hj)
      · exact hw.owner j k x hj hk
  · intro j x hj
    rcases owns_act.mp hj with ⟨-, ⟨token, rfl⟩, hfree⟩ | hj
    · show ((w.store.sockets.insert { id := x, token }).find? x).isSome = true
      have hnew := Table.find?_insert_self (t := w.store.sockets) (r := { id := x, token }) hfree
      rw [hnew]
      rfl
    · exact find?_exec (hw.stored j x hj)
  · intro x hx
    rcases handled_act.mp hx with hc | hx
    · exact find?_exec (hhandled x hc)
    · exact find?_exec (hw.handled x hx)

/-- The command does not concern the presence of the driver. -/
structure Quiet (driverId : ℕ) (c : Cmd) (s : Store) : Prop where
  drivers : ∀ driver ∈ (c.exec s).drivers.rows, driver.id = driverId → driver ∈ s.drivers.rows
  timer : (c.exec s).graceTimers driverId = s.graceTimers driverId
  reaches : (c.exec s).Reaches driverId ↔ s.Reaches driverId
  expire : c = .expireTimer driverId → s.timerDue driverId = false
  offline : c ≠ .offline driverId

theorem follows_act (hw : Follows w driverId) (hc : Quiet driverId c w.store) :
    Follows (act w i c) driverId := by
  have hexpiring : Expiring (act w i c) driverId ↔ Expiring w driverId := by
    refine ⟨fun h => ?_, fun h => expiring_act h hc.offline⟩
    rcases expiring_of_act h with ⟨heq, hdue⟩ | h
    · rw [hc.expire heq] at hdue
      cases hdue
    · exact h
  refine ⟨?_, ?_, ?_⟩
  · rw [World.store_act, hc.timer, hc.reaches]
    exact hw.timed
  · rw [World.store_act, hc.reaches, hexpiring]
    exact hw.expiring
  · intro driver hdriver hid honline
    rw [World.store_act, hc.reaches, hc.timer, hexpiring]
    exact hw.online driver (hc.drivers driver hdriver hid) hid honline

/-- A command that leaves the drivers, the timers and the sockets. -/
theorem quiet_of_same (hdrivers : (c.exec s).drivers = s.drivers)
    (htimers : (c.exec s).graceTimers = s.graceTimers) (hsockets : (c.exec s).sockets = s.sockets)
    (hexpire : c ≠ .expireTimer driverId) (hoffline : c ≠ .offline driverId) :
    Quiet driverId c s where
  drivers driver hdriver _ := hdrivers ▸ hdriver
  timer := by rw [htimers]
  reaches := by rw [Store.Reaches, hsockets, Store.Reaches]
  expire h := absurd h hexpire
  offline := hoffline

/-- A change of a socket that does not concern the driver. -/
theorem quiet_update {f : Socket → Socket} {hf : ∀ socket, (f socket).id = socket.id}
    (hc : c.exec s = { s with sockets := s.sockets.update socketId f hf })
    (h : ∀ socket, s.sockets.find? socketId = some socket →
      ((f socket).connected = true ∧ (f socket).driverId = some driverId ↔
        socket.connected = true ∧ socket.driverId = some driverId))
    (hexpire : c ≠ .expireTimer driverId) (hoffline : c ≠ .offline driverId) :
    Quiet driverId c s where
  drivers driver hdriver _ := by
    rw [hc] at hdriver
    exact hdriver
  timer := by rw [hc]
  reaches := by
    rw [hc]
    exact reaches_update_iff h
  expire h := absurd h hexpire
  offline := hoffline

theorem quiet_connect (token : Option String) : Quiet driverId (.connect socketId token) s where
  drivers _ hdriver _ := hdriver
  timer := rfl
  reaches := by
    constructor
    · rintro ⟨socket, hmem, hconnected, hdriver⟩
      rcases Table.mem_insert hmem with hsocket | rfl
      · exact ⟨socket, hsocket, hconnected, hdriver⟩
      · cases hdriver
    · rintro ⟨socket, hmem, hreaches⟩
      refine ⟨socket, ?_, hreaches⟩
      have hfind : (s.sockets.insert { id := socketId, token }).find? socket.id = some socket := by
        rw [Table.find?_insert, Table.find?_of_mem hmem, Option.some_or]
      exact Table.mem_of_find? hfind
  expire h := by cases h
  offline h := by cases h

/-- A change of a timer concerns only its driver. -/
theorem quiet_timer {other : ℕ} {expiresAt : Option ℕ}
    (hc : c.exec s = { s with graceTimers := Function.update s.graceTimers other expiresAt })
    (hne : driverId ≠ other) (hexpire : c ≠ .expireTimer driverId) (hoffline : c ≠ .offline driverId) :
    Quiet driverId c s where
  drivers driver hdriver _ := by
    rw [hc] at hdriver
    exact hdriver
  timer := by
    rw [hc]
    exact Function.update_of_ne hne _ _
  reaches := by rw [hc]; exact Iff.rfl
  expire h := absurd h hexpire
  offline := hoffline

/-- A change of a driver's row concerns only him. -/
theorem quiet_updateDriver {other : ℕ} {data : DriverData} (hne : driverId ≠ other) :
    Quiet driverId (.updateDriver other data) s where
  drivers driver hdriver hid := by
    have hfind : (s.drivers.update other data.apply data.id_apply).find? driverId = some driver :=
      Table.find?_eq_some_iff.mpr ⟨hdriver, hid⟩
    rw [Table.find?_update_of_ne hne] at hfind
    exact Table.mem_of_find? hfind
  timer := rfl
  reaches := Iff.rfl
  expire h := by cases h
  offline h := hne (Cmd.updateDriver.inj h).1.symm

/-- A driver who has a socket, and no timer. -/
theorem follows_of_reaches (h : w.store.Reaches driverId)
    (htimer : w.store.graceTimers driverId = none) (hexpiring : ¬ Expiring w driverId) :
    Follows w driverId where
  timed hsome := by
    rw [htimer] at hsome
    cases hsome
  expiring hexp := absurd hexp hexpiring
  online _ _ _ _ := Or.inl h

/-- A driver who has a timer, and no socket. -/
theorem follows_of_timer (h : ¬ w.store.Reaches driverId)
    (htimer : (w.store.graceTimers driverId).isSome = true) : Follows w driverId where
  timed _ := h
  expiring _ := h
  online _ _ _ _ := Or.inr (Or.inl htimer)

/-- The sockets after a command: changed by the thread that has connected them, or kept. -/
theorem rel_act (hdrivers : ∀ userId, (c.exec w.store).driverOf userId = w.store.driverOf userId)
    (hsockets : ∀ x socket, w.store.sockets.find? x = some socket → Owns i x w ∨
      ∃ socket', (c.exec w.store).sockets.find? x = some socket' ∧ socket'.user = socket.user ∧
        socket'.driverId = socket.driverId ∧
        (socket'.connected = socket.connected ∨ (socket.IsDrivers w.store → Handled w x)))
    (hhandled : ∀ x, c = .handled x → Owns i x w) : Rel i w (act w i c) where
  drivers := hdrivers
  sockets x socket hsocket :=
    (hsockets x socket hsocket).imp_left fun h => owns_act.mpr (Or.inr h)
  handled x hx := by
    rcases handled_act.mp hx with hc | hx
    · exact Or.inr (owns_act.mpr (Or.inr (hhandled x hc)))
    · exact Or.inl hx
  trace := trace_rel w i c

theorem rel_act_same (hdrivers : (c.exec w.store).drivers = w.store.drivers)
    (hsockets : (c.exec w.store).sockets = w.store.sockets)
    (hhandled : ∀ x, c = .handled x → Owns i x w) : Rel i w (act w i c) := by
  refine rel_act (fun userId => ?_) (fun x socket hsocket => ?_) hhandled
  · rw [Store.driverOf, hdrivers, Store.driverOf]
  · exact Or.inr ⟨socket, by rw [hsockets]; exact hsocket, rfl, rfl, Or.inl rfl⟩

/-- A change of a socket the thread has connected. -/
theorem rel_act_own {f : Socket → Socket} {hf : ∀ socket, (f socket).id = socket.id}
    (hc : c.exec w.store = { w.store with sockets := w.store.sockets.update socketId f hf })
    (howns : Owns i socketId w) (hhandled : ∀ x, c ≠ .handled x) : Rel i w (act w i c) := by
  refine rel_act (fun userId => ?_) (fun x socket hsocket => ?_) fun x h => absurd h (hhandled x)
  · rw [hc]
    rfl
  · by_cases hx : x = socketId
    · obtain rfl := hx
      exact Or.inl howns
    · refine Or.inr ⟨socket, ?_, rfl, rfl, Or.inl rfl⟩
      rw [hc, Table.find?_update_of_ne hx]
      exact hsocket

end Server

/-! ### What a thread relies on -/

section Threads

variable {w w' : World Store Cmd} {i j socketId driverId : ℕ} {c : Cmd} {user : JwtPayload}

theorem mem_trace_of_other (h : protocol.Other i w w') {e : Event Store Cmd} (he : e ∈ w.trace) :
    e ∈ w'.trace := by
  obtain ⟨j, -, -, -, hrel⟩ := h
  obtain ⟨es, htrace, -⟩ := hrel.trace
  rw [htrace]
  exact List.mem_append_right es he

/-- The others add nothing to what the thread has done. -/
theorem mem_trace_of_tid (h : protocol.Other i w w') {e : Event Store Cmd} (he : e ∈ w'.trace)
    (htid : e.tid = i) : e ∈ w.trace := by
  obtain ⟨j, hj, -, -, hrel⟩ := h
  obtain ⟨es, htrace, hes⟩ := hrel.trace
  rw [htrace] at he
  rcases List.mem_append.mp he with he | he
  · exact absurd ((hes e he).symm.trans htid) hj
  · exact he

/-- The thread has done nothing. -/
def Idle (i : ℕ) (w : World Store Cmd) : Prop := ∀ e ∈ w.trace, e.tid ≠ i

theorem stable_idle : protocol.Stable i (Idle i) :=
  fun _ _ hother hidle e he htid => hidle e (mem_trace_of_tid hother he htid) htid

/-- The thread runs the callback of the driver's timer. -/
def Rings (i driverId : ℕ) (w : World Store Cmd) : Prop :=
  ∃ e ∈ w.trace, e.tid = i ∧ e.kind = .did (.expireTimer driverId) ∧
    e.before.timerDue driverId = true ∧ ¬ w.Did i (· = .offline driverId)

theorem did_of_other (h : protocol.Other i w w') {H : Cmd → Prop} : w'.Did i H ↔ w.Did i H := by
  constructor
  · rintro ⟨e, he, htid, hdid⟩
    exact ⟨e, mem_trace_of_tid h he htid, htid, hdid⟩
  · rintro ⟨e, he, htid, hdid⟩
    exact ⟨e, mem_trace_of_other h he, htid, hdid⟩

theorem rings_of_other (h : protocol.Other i w w') : Rings i driverId w' ↔ Rings i driverId w := by
  constructor
  · rintro ⟨e, he, htid, hkind, hdue, hnot⟩
    exact ⟨e, mem_trace_of_tid h he htid, htid, hkind, hdue, mt (did_of_other h).mpr hnot⟩
  · rintro ⟨e, he, htid, hkind, hdue, hnot⟩
    exact ⟨e, mem_trace_of_other h he, htid, hkind, hdue, mt (did_of_other h).mp hnot⟩

theorem stable_rings : protocol.Stable i (Rings i driverId) :=
  fun _ _ hother => (rings_of_other hother).mpr

theorem Rings.expiring (h : Rings i driverId w) : Expiring w driverId := by
  obtain ⟨e, he, rfl, hrest⟩ := h
  exact ⟨e, he, hrest⟩

theorem exists_rings_of_expiring (h : Expiring w driverId) :
    ∃ e ∈ w.trace, Rings e.tid driverId w := by
  obtain ⟨e, he, hrest⟩ := h
  exact ⟨e, he, e, he, rfl, hrest⟩

theorem rings_act (h : Rings i driverId w) (hc : c ≠ .offline driverId) :
    Rings i driverId (act w i c) := by
  obtain ⟨e, he, htid, hkind, hdue, hnot⟩ := h
  refine ⟨e, mem_trace_act.mpr (Or.inr he), htid, hkind, hdue, fun hdid => ?_⟩
  rcases World.did_act.mp hdid with ⟨-, heq⟩ | hdid
  · exact hc heq
  · exact hnot hdid

/-- The thread runs no callback. -/
def Calm (i : ℕ) (w : World Store Cmd) : Prop := ∀ driverId, ¬ Rings i driverId w

theorem stable_calm : protocol.Stable i (Calm i) :=
  fun _ _ hother hcalm driverId h => hcalm driverId ((rings_of_other hother).mp h)

theorem Idle.calm (h : Idle i w) : Calm i w := by
  rintro driverId ⟨e, he, htid, -⟩
  exact h e he htid

/-- The callback of another timer cannot start. -/
theorem rings_of_act (h : Rings i driverId (act w i c))
    (hc : c = .expireTimer driverId → w.store.timerDue driverId = false) : Rings i driverId w := by
  obtain ⟨e, he, htid, hkind, hdue, hnot⟩ := h
  rcases mem_trace_act.mp he with rfl | he
  · rw [hc (EventKind.did.inj hkind)] at hdue
    cases hdue
  · exact ⟨e, he, htid, hkind, hdue, fun hdid => hnot (World.did_act.mpr (Or.inr hdid))⟩

theorem Calm.act (h : Calm i w)
    (hc : ∀ driverId, c = .expireTimer driverId → w.store.timerDue driverId = false) :
    Calm i (act w i c) :=
  fun driverId hrings => h driverId (rings_of_act hrings (hc driverId))

theorem stable_owns : protocol.Stable i (Owns i socketId) := by
  rintro w w' ⟨j, -, -, -, hrel⟩ h
  exact h.mono hrel

/-- Another thread does not own the socket. -/
theorem not_owns_of_other (hj : j ≠ i) (hinv : Inv w') (h : Owns i socketId w') :
    ¬ Owns j socketId w' :=
  fun hother => hj (hinv.connected.owner j i socketId hother h)

theorem isDrivers_iff {s s' : Store} {socket socket' : Socket}
    (hdrivers : ∀ userId, s'.driverOf userId = s.driverOf userId)
    (huser : socket'.user = socket.user) : socket'.IsDrivers s' ↔ socket.IsDrivers s := by
  simp only [Socket.IsDrivers, huser, hdrivers]

/-- The thread is handling the connection of its socket; a driver's socket stays connected. -/
structure Connecting (i socketId : ℕ) (user : JwtPayload) (driverId : Option ℕ)
    (w : World Store Cmd) : Prop where
  owns : Owns i socketId w
  unhandled : ¬ Handled w socketId
  calm : Calm i w
  socket : ∃ socket, w.store.sockets.find? socketId = some socket ∧ socket.user = some user ∧
    socket.driverId = driverId ∧ (socket.IsDrivers w.store → socket.connected = true)

theorem stable_connecting {noted : Option ℕ} :
    protocol.Stable i (Connecting i socketId user noted) := by
  intro w w' hother h
  have howns := stable_owns hother h.owns
  have hcalm := stable_calm hother h.calm
  obtain ⟨j, hj, hinv, hinv', hrel⟩ := hother
  have hnot := not_owns_of_other hj hinv' howns
  refine ⟨howns, fun hhandled => ?_, hcalm, ?_⟩
  · exact h.unhandled ((hrel.handled socketId hhandled).resolve_right hnot)
  · obtain ⟨socket, hsocket, huser, hdriver, hconnected⟩ := h.socket
    obtain ⟨socket', hsocket', huser', hdriver', hclosed⟩ :=
      (hrel.sockets socketId socket hsocket).resolve_left hnot
    refine ⟨socket', hsocket', huser'.trans huser, hdriver'.trans hdriver, fun hdrivers => ?_⟩
    have hdrivers' := (isDrivers_iff hrel.drivers huser').mp hdrivers
    rcases hclosed with hsame | hmay
    · exact hsame.trans (hconnected hdrivers')
    · exact absurd (hmay hdrivers') h.unhandled

end Threads

/-! ### The steps of the handlers -/

section Steps

variable {w w₀ : World Store Cmd} {i socketId driverId : ℕ} {c : Cmd} {user : JwtPayload}
  {noted : Option ℕ} {token : Option String}

/-- The thread has kept its promises since `w₀`, and may give up the processor. -/
def Kept (i : ℕ) (w₀ w : World Store Cmd) : Prop := Inv w ∧ Rel i w₀ w

theorem Kept.act (h : Kept i w₀ w) (hquiet : ∀ driverId, Quiet driverId c w.store)
    (hhandled : ∀ x, c = .handled x → (w.store.sockets.find? x).isSome = true)
    (hrel : Rel i w (act w i c)) : Kept i w₀ (act w i c) := by
  have hfollows : ∀ driverId, Follows (Connectivity.act w i c) driverId :=
    fun driverId => follows_act (h.1.follows driverId) (hquiet driverId)
  exact ⟨⟨connected_act h.1.connected hhandled, hfollows⟩, h.2.trans hrel⟩

/-- The command reads the drivers or the clock, or is about the set in Redis. -/
def IsNeutral : Cmd → Bool
  | .findDriverByUser _ | .zadd _ _ | .zrem _ | .date | .tick _ => true
  | _ => false

theorem quiet_of_neutral (hc : IsNeutral c = true) (s : Store) : Quiet driverId c s := by
  cases c <;> cases hc <;> exact quiet_of_same rfl rfl rfl nofun nofun

theorem rel_of_neutral (hc : IsNeutral c = true) : Rel i w (act w i c) := by
  cases c <;> cases hc <;> exact rel_act_same rfl rfl nofun

theorem Kept.neutral (h : Kept i w₀ w) (hc : IsNeutral c = true) : Kept i w₀ (Connectivity.act w i c) := by
  refine h.act (fun _ => quiet_of_neutral hc _) (fun x heq => ?_) (rel_of_neutral hc)
  rw [heq] at hc
  cases hc

theorem Kept.handled (h : Kept i w₀ w) (howns : Owns i socketId w) :
    Kept i w₀ (Connectivity.act w i (.handled socketId)) := by
  refine h.act (fun _ => quiet_of_same rfl rfl rfl nofun nofun) (fun x heq => ?_)
    (rel_act_same rfl rfl fun x heq => ?_)
  · obtain rfl := Cmd.handled.inj heq
    exact h.1.connected.stored i _ howns
  · obtain rfl := Cmd.handled.inj heq
    exact howns

theorem Kept.connect (h : Kept i w₀ w) : Kept i w₀ (Connectivity.act w i (.connect socketId token)) := by
  refine h.act (fun _ => quiet_connect token) nofun (rel_act (fun _ => rfl) (fun x socket hsocket => ?_) nofun)
  refine Or.inr ⟨socket, ?_, rfl, rfl, Or.inl rfl⟩
  show (w.store.sockets.insert { id := socketId, token }).find? x = some socket
  rw [Table.find?_insert, hsocket, Option.some_or]

/-- A change of the rooms of a socket. -/
theorem rel_rooms {f : Socket → Socket} {hf : ∀ socket, (f socket).id = socket.id}
    (hc : c.exec w.store = { w.store with sockets := w.store.sockets.update socketId f hf })
    (hrooms : ∀ socket, (f socket).user = socket.user ∧ (f socket).driverId = socket.driverId ∧
      (f socket).connected = socket.connected)
    (hhandled : ∀ x, c ≠ .handled x) : Rel i w (act w i c) := by
  refine rel_act (fun userId => ?_) (fun x socket hsocket => Or.inr ?_)
    fun x heq => absurd heq (hhandled x)
  · rw [hc]
    rfl
  · by_cases hx : x = socketId
    · obtain rfl := hx
      obtain ⟨huser, hdriver, hconnected⟩ := hrooms socket
      refine ⟨f socket, ?_, huser, hdriver, Or.inl hconnected⟩
      rw [hc, Table.find?_update_self, hsocket, Option.map_some]
    · refine ⟨socket, ?_, rfl, rfl, Or.inl rfl⟩
      rw [hc, Table.find?_update_of_ne hx]
      exact hsocket

theorem Kept.join (h : Kept i w₀ w) (room : Room) :
    Kept i w₀ (Connectivity.act w i (.join socketId room)) :=
  h.act (fun _ => quiet_update (f := Socket.join room) rfl (fun _ _ => Iff.rfl) nofun nofun) nofun
    (rel_rooms (f := Socket.join room) rfl (fun _ => ⟨rfl, rfl, rfl⟩) nofun)

theorem Kept.leaveAllRooms (h : Kept i w₀ w) :
    Kept i w₀ (Connectivity.act w i (.leaveAllRooms socketId)) :=
  h.act (fun _ => quiet_update (f := Socket.leaveAllRooms) rfl (fun _ _ => Iff.rfl) nofun nofun)
    nofun (rel_rooms (f := Socket.leaveAllRooms) rfl (fun _ => ⟨rfl, rfl, rfl⟩) nofun)

/-- The socket has just been connected by the thread. -/
structure Joined (i socketId : ℕ) (token : Option String) (w : World Store Cmd) : Prop where
  owns : Owns i socketId w
  unhandled : ¬ Handled w socketId
  calm : Calm i w
  socket : w.store.sockets.find? socketId = some { id := socketId, token }

theorem joined_connect (hw : Inv w) (hcalm : Calm i w)
    (hfree : w.store.sockets.find? socketId = none) :
    Joined i socketId token (act w i (.connect socketId token)) where
  owns := owns_act.mpr (Or.inl ⟨rfl, ⟨token, rfl⟩, hfree⟩)
  unhandled h := by
    rcases handled_act.mp h with hc | h
    · cases hc
    · have hstored := hw.connected.handled socketId h
      rw [hfree] at hstored
      cases hstored
  calm := hcalm.act nofun
  socket := by
    show (w.store.sockets.insert { id := socketId, token }).find? socketId = _
    rw [Table.find?_insert, hfree, Option.none_or, if_pos rfl]

theorem Joined.neutral (h : Joined i socketId token w) (hc : IsNeutral c = true) :
    Joined i socketId token (act w i c) where
  owns := owns_act.mpr (Or.inr h.owns)
  unhandled hhandled := by
    rcases handled_act.mp hhandled with rfl | hhandled
    · cases hc
    · exact h.unhandled hhandled
  calm := h.calm.act fun driverId heq => by
    rw [heq] at hc
    cases hc
  socket := by
    have hsockets : (c.exec w.store).sockets = w.store.sockets := by
      cases c <;> cases hc <;> rfl
    rw [World.store_act, hsockets]
    exact h.socket

theorem Kept.setUser (h : Kept i w₀ w) (howns : Owns i socketId w) :
    Kept i w₀ (Connectivity.act w i (.setUser socketId user)) :=
  h.act (fun _ => quiet_update (f := Socket.setUser user) rfl (fun _ _ => Iff.rfl) nofun nofun)
    nofun (rel_act_own (f := Socket.setUser user) rfl howns nofun)

theorem Joined.setUser (h : Joined i socketId token w) :
    Connecting i socketId user none (act w i (.setUser socketId user)) where
  owns := owns_act.mpr (Or.inr h.owns)
  unhandled hhandled := by
    rcases handled_act.mp hhandled with heq | hhandled
    · cases heq
    · exact h.unhandled hhandled
  calm := h.calm.act nofun
  socket := by
    refine ⟨Socket.setUser user { id := socketId, token }, ?_, rfl, rfl, fun _ => rfl⟩
    show (w.store.sockets.update socketId (Socket.setUser user) (Socket.id_setUser user)).find?
      socketId = _
    rw [Table.find?_update_self, h.socket, Option.map_some]

/-- A change of the socket, or another command, while the connection is handled. -/
theorem Connecting.act {noted' : Option ℕ} {f : Socket → Socket}
    (h : Connecting i socketId user noted w)
    (hdrivers : ∀ userId, (c.exec w.store).driverOf userId = w.store.driverOf userId)
    (hc : (c.exec w.store).sockets.find? socketId = (w.store.sockets.find? socketId).map f)
    (hf : ∀ socket, (f socket).user = socket.user ∧ (f socket).connected = socket.connected ∧
      (socket.driverId = noted → (f socket).driverId = noted'))
    (hexpire : ∀ driverId, c ≠ .expireTimer driverId) (hhandled : ∀ x, c ≠ .handled x) :
    Connecting i socketId user noted' (Connectivity.act w i c) where
  owns := owns_act.mpr (Or.inr h.owns)
  unhandled hbefore := by
    rcases handled_act.mp hbefore with heq | hbefore
    · exact hhandled socketId heq
    · exact h.unhandled hbefore
  calm := h.calm.act fun driverId heq => absurd heq (hexpire driverId)
  socket := by
    obtain ⟨socket, hsocket, huser, hdriver, hconnected⟩ := h.socket
    obtain ⟨huser', hconnected', hdriver'⟩ := hf socket
    refine ⟨f socket, ?_, huser'.trans huser, hdriver' hdriver, fun hdrivers' => ?_⟩
    · rw [World.store_act, hc, hsocket, Option.map_some]
    · rw [hconnected']
      exact hconnected ((isDrivers_iff hdrivers huser').mp hdrivers')

theorem Connecting.join (h : Connecting i socketId user noted w) (room : Room) :
    Connecting i socketId user noted (Connectivity.act w i (.join socketId room)) :=
  h.act (f := Socket.join room) (fun _ => rfl) (Table.find?_update_self _ (Socket.id_join room))
    (fun _ => ⟨rfl, rfl, id⟩) nofun nofun

theorem Connecting.setDriver (h : Connecting i socketId user none w) :
    Connecting i socketId user (some driverId)
      (Connectivity.act w i (.setDriver socketId driverId)) :=
  h.act (f := Socket.setDriver driverId) (fun _ => rfl)
    (Table.find?_update_self _ (Socket.id_setDriver driverId))
    (fun _ => ⟨rfl, rfl, fun _ => rfl⟩) nofun nofun

theorem Connecting.clearTimer (h : Connecting i socketId user noted w) :
    Connecting i socketId user noted (Connectivity.act w i (.clearTimer driverId)) :=
  h.act (f := id) (fun _ => rfl) Option.map_id_apply.symm (fun _ => ⟨rfl, rfl, id⟩) nofun nofun

theorem Connecting.neutral (h : Connecting i socketId user noted w) (hc : IsNeutral c = true) :
    Connecting i socketId user noted (Connectivity.act w i c) := by
  refine h.act (f := id) (fun userId => ?_) ?_ (fun _ => ⟨rfl, rfl, id⟩) (fun d heq => ?_)
    fun x heq => ?_
  · cases c <;> cases hc <;> rfl
  · have hsockets : (c.exec w.store).sockets = w.store.sockets := by
      cases c <;> cases hc <;> rfl
    rw [hsockets, Option.map_id_apply]
  · rw [heq] at hc
    cases hc
  · rw [heq] at hc
    cases hc

/-- The connection of the driver is noted on the socket. -/
structure Welcomed (i socketId : ℕ) (user : JwtPayload) (driverId : ℕ) (w : World Store Cmd) :
    Prop where
  connecting : Connecting i socketId user (some driverId) w
  role : user.role = .driver
  driver : w.store.driverOf user.sub = some driverId

theorem stable_welcomed : protocol.Stable i (Welcomed i socketId user driverId) := by
  intro w w' hother h
  refine ⟨stable_connecting hother h.connecting, h.role, ?_⟩
  obtain ⟨j, -, -, -, hrel⟩ := hother
  rw [hrel.drivers]
  exact h.driver

theorem Welcomed.reaches (h : Welcomed i socketId user driverId w) : w.store.Reaches driverId := by
  obtain ⟨socket, hsocket, huser, hnoted, hconnected⟩ := h.connecting.socket
  have hdrivers : socket.IsDrivers w.store := ⟨user, driverId, huser, h.role, h.driver⟩
  exact ⟨socket, Table.mem_of_find? hsocket, hconnected hdrivers, hnoted⟩

/-- The driver is noted and his timer stopped: then he is reached, and has no timer. -/
theorem welcome_driver (hkept : Kept i w₀ w) (hconn : Connecting i socketId user none w)
    (hrole : user.role = .driver) (hdriver : w.store.driverOf user.sub = some driverId)
    (hexpiring : ¬ Expiring w driverId) :
    Kept i w₀ (act (act w i (.setDriver socketId driverId)) i (.clearTimer driverId)) ∧
      Welcomed i socketId user driverId
        (act (act w i (.setDriver socketId driverId)) i (.clearTimer driverId)) := by
  have hwelcomed : Welcomed i socketId user driverId
      (act (act w i (.setDriver socketId driverId)) i (.clearTimer driverId)) :=
    ⟨hconn.setDriver.clearTimer, hrole, hdriver⟩
  have hconnected := connected_act (i := i) (c := .clearTimer driverId)
    (connected_act (i := i) (c := .setDriver socketId driverId) hkept.1.connected nofun) nofun
  refine ⟨⟨⟨hconnected, fun other => ?_⟩, ?_⟩, hwelcomed⟩
  · by_cases hother : other = driverId
    · obtain rfl := hother
      refine follows_of_reaches hwelcomed.reaches (Function.update_self ..) fun h => ?_
      rcases expiring_of_act h with ⟨hc, -⟩ | h
      · cases hc
      · rcases expiring_of_act h with ⟨hc, -⟩ | h
        · cases hc
        · exact hexpiring h
    · have hquiet : Quiet other (.setDriver socketId driverId) w.store := by
        refine quiet_update (f := Socket.setDriver driverId) rfl (fun socket hsocket => ?_) nofun nofun
        obtain ⟨socket', hsocket', -, hnoted, -⟩ := hconn.socket
        obtain rfl := Option.some.inj (hsocket.symm.trans hsocket')
        refine iff_of_false (fun h => ?_) fun h => ?_
        · exact hother (Option.some.inj h.2).symm
        · rw [hnoted] at h
          cases h.2
      have hcleared : Quiet other (.clearTimer driverId)
          (act w i (.setDriver socketId driverId)).store := quiet_timer rfl hother nofun nofun
      exact follows_act (follows_act (hkept.1.follows other) hquiet) hcleared
  · have hnoted : Rel i w (act w i (.setDriver socketId driverId)) :=
      rel_act_own (f := Socket.setDriver driverId) rfl hconn.owns nofun
    exact (hkept.2.trans hnoted).trans (rel_act_same rfl rfl nofun)

/-- A closed socket is one that was handled, or is its thread's. -/
theorem rel_disconnect (hcond : Unhurried i w (.disconnect socketId)) :
    Rel i w (act w i (.disconnect socketId)) := by
  refine rel_act (fun _ => rfl) (fun x socket hsocket => Or.inr ?_) nofun
  by_cases hx : x = socketId
  · obtain rfl := hx
    refine ⟨socket.close, ?_, rfl, rfl, ?_⟩
    · show (w.store.sockets.update x Socket.close Socket.id_close).find? x = _
      rw [Table.find?_update_self, hsocket, Option.map_some]
    · cases hconnected : socket.connected with
      | false => exact Or.inl rfl
      | true => exact Or.inr (hcond socket hsocket hconnected).1
  · refine ⟨socket, ?_, rfl, rfl, Or.inl rfl⟩
    show (w.store.sockets.update socketId Socket.close Socket.id_close).find? x = _
    rw [Table.find?_update_of_ne hx]
    exact hsocket

theorem quiet_disconnect {s : Store} (h : ∀ socket, s.sockets.find? socketId = some socket →
    socket.connected = true → socket.driverId ≠ some driverId) :
    Quiet driverId (.disconnect socketId) s := by
  refine quiet_update (f := Socket.close) rfl (fun socket hsocket => ?_) nofun nofun
  refine iff_of_false (fun hclosed => ?_) fun hreaches => ?_
  · cases hclosed.1
  · exact h socket hsocket hreaches.1 hreaches.2

/-- A socket without a driver, or one that is closed, can be closed. -/
theorem Kept.disconnect (h : Kept i w₀ w) (hcond : Unhurried i w (.disconnect socketId))
    (hnone : ∀ socket, w.store.sockets.find? socketId = some socket → socket.connected = true →
      socket.driverId = none) : Kept i w₀ (Connectivity.act w i (.disconnect socketId)) := by
  refine h.act (fun driverId => quiet_disconnect fun socket hsocket hconnected => ?_) nofun
    (rel_disconnect hcond)
  rw [hnone socket hsocket hconnected]
  exact (Option.some_ne_none driverId).symm

theorem graceTimers_setTimer (s : Store) :
    ((Cmd.setTimer driverId).exec s).graceTimers driverId = some (s.now + gracePeriodMs) :=
  Function.update_self ..

/-- A driver's last socket is closed, and his timer set. -/
theorem kept_of_last {socket : Socket} (h : Kept i w₀ w)
    (hcond : Unhurried i w (.disconnect socketId))
    (hsocket : w.store.sockets.find? socketId = some socket) (hconnected : socket.connected = true)
    (hdriver : socket.driverId = some driverId) :
    Kept i w₀ (act (act (act (act w i (.disconnect socketId)) i (.leaveAllRooms socketId)) i
      (.clearTimer driverId)) i (.setTimer driverId)) := by
  have hclosed : ¬ ((Cmd.disconnect socketId).exec w.store).Reaches driverId := by
    intro hreaches
    rcases reaches_update.mp hreaches with ⟨other, -, hopen, -⟩ | ⟨other, hother, hid, hopen, hnoted⟩
    · cases hopen
    · exact (hcond socket hsocket hconnected).2 driverId hdriver other hother hid hopen hnoted
  have hleft : ∀ (s : Store) other, Quiet other (.leaveAllRooms socketId) s := fun _ _ =>
    quiet_update (f := Socket.leaveAllRooms) rfl (fun _ _ => Iff.rfl) nofun nofun
  refine ⟨⟨?_, fun other => ?_⟩, ?_⟩
  · have hconnected₁ := connected_act (i := i) (c := .disconnect socketId) h.1.connected nofun
    have hconnected₂ := connected_act (i := i) (c := .leaveAllRooms socketId) hconnected₁ nofun
    have hconnected₃ := connected_act (i := i) (c := .clearTimer driverId) hconnected₂ nofun
    exact connected_act hconnected₃ nofun
  · by_cases hother : other = driverId
    · obtain rfl := hother
      refine follows_of_timer (fun hreaches => hclosed ?_) ?_
      · exact (hleft ((Cmd.disconnect socketId).exec w.store) other).reaches.mp hreaches
      · rw [World.store_act, graceTimers_setTimer]
        rfl
    · have hclose : Quiet other (.disconnect socketId) w.store := by
        refine quiet_disconnect fun socket' hsocket' _ hnoted => ?_
        obtain rfl := Option.some.inj (hsocket.symm.trans hsocket')
        exact hother (Option.some.inj (hdriver.symm.trans hnoted)).symm
      have hfollows := follows_act (i := i) (follows_act (i := i) (h.1.follows other) hclose)
        (hleft _ other)
      have hclear : ∀ s, Quiet other (.clearTimer driverId) s := fun _ =>
        quiet_timer rfl hother nofun nofun
      have hset : ∀ s, Quiet other (.setTimer driverId) s := fun _ =>
        quiet_timer rfl hother nofun nofun
      exact follows_act (follows_act hfollows (hclear _)) (hset _)
  · have hrel := h.2.trans (rel_disconnect hcond)
    have hrooms : ∀ v : World Store Cmd, Rel i v (act v i (.leaveAllRooms socketId)) := fun v =>
      rel_rooms (f := Socket.leaveAllRooms) rfl (fun _ => ⟨rfl, rfl, rfl⟩) nofun
    have hcleared : ∀ v : World Store Cmd, Rel i v (act v i (.clearTimer driverId)) := fun v =>
      rel_act_same rfl rfl nofun
    exact ((hrel.trans (hrooms _)).trans (hcleared _)).trans (rel_act_same rfl rfl nofun)

/-- A timer fires: its callback runs, or nothing happens. -/
theorem Kept.expireTimer (h : Kept i w₀ w) (hidle : Idle i w) :
    Kept i w₀ (Connectivity.act w i (.expireTimer driverId)) ∧
      (w.store.timerDue driverId = true →
        Rings i driverId (Connectivity.act w i (.expireTimer driverId))) := by
  have hrings : w.store.timerDue driverId = true →
      Rings i driverId (Connectivity.act w i (.expireTimer driverId)) := by
    intro hdue
    refine ⟨_, mem_trace_act.mpr (Or.inl rfl), rfl, rfl, hdue, fun hdid => ?_⟩
    rcases World.did_act.mp hdid with ⟨-, hc⟩ | ⟨e, he, htid, -⟩
    · cases hc
    · exact hidle e he htid
  have hstore : w.store.timerDue driverId = false →
      (Cmd.expireTimer driverId).exec w.store = w.store := fun hdue => by
    rw [Cmd.exec, if_neg (by rw [hdue]; exact Bool.false_ne_true)]
  have hfired : w.store.timerDue driverId = true → (Cmd.expireTimer driverId).exec w.store =
      { w.store with graceTimers := Function.update w.store.graceTimers driverId none } := fun hdue => by
    rw [Cmd.exec, if_pos hdue]
  have hrel : Rel i w (Connectivity.act w i (.expireTimer driverId)) := by
    cases hdue : w.store.timerDue driverId with
    | false => exact rel_act_same (by rw [hstore hdue]) (by rw [hstore hdue]) nofun
    | true => exact rel_act_same (by rw [hfired hdue]) (by rw [hfired hdue]) nofun
  have hfollows : ∀ other, Follows (Connectivity.act w i (.expireTimer driverId)) other := by
    intro other
    cases hdue : w.store.timerDue driverId with
    | false =>
      refine follows_act (h.1.follows other) ⟨?_, ?_, ?_, fun heq => ?_, nofun⟩
      · rw [hstore hdue]
        exact fun _ hdriver _ => hdriver
      · rw [hstore hdue]
      · rw [hstore hdue]
      · obtain rfl := Cmd.expireTimer.inj heq
        exact hdue
    | true =>
      by_cases hother : other = driverId
      · obtain rfl := hother
        obtain ⟨hsome, -⟩ := (Option.any_eq_true_iff_get _ _).mp hdue
        have hunreached := (h.1.follows other).timed hsome
        have hsockets : (Connectivity.act w i (.expireTimer other)).store.Reaches other ↔
            w.store.Reaches other := by
          rw [World.store_act, hfired hdue]
          exact Iff.rfl
        refine ⟨fun _ => ?_, fun _ => ?_, fun _ _ _ _ => Or.inr (Or.inr (hrings hdue).expiring)⟩
        · rw [hsockets]
          exact hunreached
        · rw [hsockets]
          exact hunreached
      · exact follows_act (h.1.follows other) (quiet_timer (hfired hdue) hother
          (fun heq => hother (Cmd.expireTimer.inj heq).symm) nofun)
  exact ⟨⟨⟨connected_act h.1.connected nofun, hfollows⟩, h.2.trans hrel⟩, hrings⟩

theorem rel_updateDriver {data : DriverData} : Rel i w (act w i (.updateDriver driverId data)) :=
  rel_act (fun userId => driverOf_update (f := data.apply) (fun _ => rfl) userId)
    (fun _ socket hsocket => Or.inr ⟨socket, hsocket, rfl, rfl, Or.inl rfl⟩) nofun

/-- What an update sets of a driver. -/
theorem isOnline_of_update {data : DriverData} {isOnline : Bool} {driver : Driver} {s : Store}
    (hdata : data.isOnline = some isOnline)
    (hdriver : driver ∈ ((Cmd.updateDriver driverId data).exec s).drivers.rows)
    (hid : driver.id = driverId) : driver.isOnline = isOnline := by
  have hfind : (s.drivers.update driverId data.apply data.id_apply).find? driverId = some driver :=
    Table.find?_eq_some_iff.mpr ⟨hdriver, hid⟩
  rw [Table.find?_update_self] at hfind
  obtain ⟨before, -, rfl⟩ := Option.map_eq_some_iff.mp hfind
  rw [DriverData.apply, hdata]
  rfl

/-- The driver who is marked online has a socket. -/
theorem Kept.online (h : Kept i w₀ w) (hreaches : w.store.Reaches driverId) :
    Kept i w₀ (Connectivity.act w i (.online driverId)) := by
  refine ⟨⟨connected_act h.1.connected nofun, fun other => ?_⟩, h.2.trans rel_updateDriver⟩
  by_cases hother : other = driverId
  · obtain rfl := hother
    refine ⟨(h.1.follows other).timed, fun hexpiring => ?_, fun _ _ _ _ => Or.inl hreaches⟩
    rcases expiring_of_act hexpiring with ⟨hc, -⟩ | hexpiring
    · cases hc
    · exact (h.1.follows other).expiring hexpiring
  · exact follows_act (h.1.follows other) (quiet_updateDriver hother)

/-- The driver who is marked offline is not online. -/
theorem Kept.offline (h : Kept i w₀ w) : Kept i w₀ (Connectivity.act w i (.offline driverId)) := by
  refine ⟨⟨connected_act h.1.connected nofun, fun other => ?_⟩, h.2.trans rel_updateDriver⟩
  by_cases hother : other = driverId
  · obtain rfl := hother
    refine ⟨(h.1.follows other).timed, fun hexpiring => ?_, fun driver hdriver hid honline => ?_⟩
    · rcases expiring_of_act hexpiring with ⟨hc, -⟩ | hexpiring
      · cases hc
      · exact (h.1.follows other).expiring hexpiring
    · rw [isOnline_of_update rfl hdriver hid] at honline
      cases honline
  · exact follows_act (h.1.follows other) (quiet_updateDriver hother)

/-- The update ends the callback. -/
theorem calm_offline (h : Rings i driverId w)
    (honly : ∀ other, other ≠ driverId → ¬ Rings i other w) :
    Calm i (act w i (.offline driverId)) := by
  intro other hrings
  by_cases hother : other = driverId
  · obtain rfl := hother
    obtain ⟨-, -, -, -, -, hnot⟩ := hrings
    exact hnot (World.did_act.mpr (Or.inl ⟨rfl, rfl⟩))
  · exact honly other hother (rings_of_act hrings nofun)

end Steps

/-! ### The handlers -/

section Handlers

variable {w w₀ : World Store Cmd} {i socketId driverId : ℕ} {user : JwtPayload}
  {token : Option String}

/-- A connection has been handled, but for the mark. -/
def Served (i socketId : ℕ) (_ : Except Error Unit) (w₀ w : World Store Cmd) : Prop :=
  Kept i w₀ w ∧ Owns i socketId w ∧ Calm i w

/-- The end of a thread. -/
abbrev Ended (i : ℕ) : Except Error Unit → World Store Cmd → World Store Cmd → Prop :=
  protocol.Ends i fun _ => Calm i

/-- The update of a driver at the end of `setOnline` and `setOffline`. -/
theorem wp_updateDriver {A : World Store Cmd → Prop} {data : DriverData}
    {Q : Except Error Unit → World Store Cmd → World Store Cmd → Prop} (hkept : Kept i w₀ w)
    (hA : protocol.Stable i A) (hw : A w)
    (h : ∀ w, A w → Inv w → Guar i w (.updateDriver driverId data) ∧
      Q (.ok ()) w (act w i (.updateDriver driverId data))) :
    protocol.wp i (Async.tryCatch ((updateDriver driverId data).as ()) fun _ => pure ()) Q w₀ w := by
  refine AtomicProtocol.wp_tryCatch ?_
  refine AtomicProtocol.wp_queryE_bind hkept hA hw (fun _ h => h) fun v hv hinv _ => ?_
  obtain ⟨hguar, hq⟩ := h v hv hinv
  refine ⟨hguar, ?_⟩
  cases hfound : (v.store.drivers.find? driverId).map data.apply with
  | none => exact hq
  | some driver => exact hq

theorem wp_setOnline (hkept : Kept i w₀ w) (hw : Welcomed i socketId user driverId w) :
    protocol.wp i (setOnline driverId) (Served i socketId) w₀ w := by
  unfold setOnline newDate
  rw [Async.bind_eq]
  refine AtomicProtocol.wp_read_bind fun _ => ⟨trivial, ?_⟩
  rw [Async.bind_eq]
  have hdate : Welcomed i socketId user driverId (act w i .date) :=
    ⟨hw.connecting.neutral rfl, hw.role, hw.driver⟩
  refine AtomicProtocol.wp_query_bind (hkept.neutral (c := .date) rfl) stable_welcomed hdate
    (fun _ h => h) fun v hv hinv _ => ⟨trivial, ?_⟩
  have hzadd : Welcomed i socketId user driverId (act v i (.zadd driverId w.store.now)) :=
    ⟨hv.connecting.neutral rfl, hv.role, hv.driver⟩
  have hkept' : Kept i v (act v i (.zadd driverId w.store.now)) :=
    Kept.neutral ⟨hinv, Rel.refl i v⟩ rfl
  refine wp_updateDriver hkept' stable_welcomed hzadd fun u hu hinv' => ⟨nofun, ?_⟩
  have honline : Kept i u (act u i (.online driverId)) :=
    Kept.online ⟨hinv', Rel.refl i u⟩ hu.reaches
  exact ⟨honline, owns_act.mpr (Or.inr hu.connecting.owns), hu.connecting.calm.act nofun⟩

theorem wp_welcomeDriver {driver : Driver} (hkept : Kept i w₀ w)
    (hconn : Connecting i socketId user none w) (hrole : user.role = .driver)
    (hdriver : w.store.driverOf user.sub = some driver.id)
    (hexpiring : ¬ Expiring w driver.id) :
    protocol.wp i (welcomeDriver socketId driver) (Served i socketId) w₀ w := by
  obtain ⟨hkept', hwelcomed⟩ := welcome_driver hkept hconn hrole hdriver hexpiring
  unfold welcomeDriver cancelGracePeriod joinDriverRoom
  refine AtomicProtocol.wp_emit_bind fun _ => ⟨trivial, ?_⟩
  refine AtomicProtocol.wp_emit_bind fun _ => ⟨trivial, ?_⟩
  refine AtomicProtocol.wp_emit_bind fun _ => ⟨trivial, ?_⟩
  refine wp_setOnline (hkept'.join (.driver driver.id)) ⟨?_, hrole, hdriver⟩
  exact hwelcomed.connecting.join (.driver driver.id)

/-- What follows when the rooms have been joined. -/
theorem wp_findDriver (hkept : Kept i w₀ w) (hconn : Connecting i socketId user none w) :
    protocol.wp i
      (if user.role = .driver then
        (findDriverByUser user.sub).bind fun driver => match driver with
          | some driver => welcomeDriver socketId driver
          | none => pure ()
      else pure ()) (Served i socketId) w₀ w := by
  by_cases hrole : user.role = .driver
  · rw [if_pos hrole]
    refine AtomicProtocol.wp_query_bind hkept stable_connecting hconn (fun _ h => h)
      fun v hv hinv hcond => ⟨trivial, ?_⟩
    have hfound : Connecting i socketId user none (act v i (.findDriverByUser user.sub)) :=
      hv.neutral rfl
    have hkept' : Kept i v (act v i (.findDriverByUser user.sub)) :=
      Kept.neutral ⟨hinv, Rel.refl i v⟩ rfl
    cases hdriver : v.store.drivers.findFirst fun driver => decide (driver.userId = user.sub) with
    | none => exact ⟨hkept', hfound.owns, hfound.calm⟩
    | some driver =>
      have hof : v.store.driverOf user.sub = some driver.id := by
        rw [Store.driverOf, hdriver, Option.map_some]
      refine wp_welcomeDriver hkept' hfound hrole hof fun hexpiring => ?_
      rcases expiring_of_act hexpiring with ⟨hc, -⟩ | hexpiring
      · cases hc
      · exact hcond driver.id hof hexpiring
  · rw [if_neg hrole]
    exact ⟨hkept, hconn.owns, hconn.calm⟩

theorem wp_welcome (hkept : Kept i w₀ w) (hw : Joined i socketId token w) :
    protocol.wp i (welcome socketId user) (Served i socketId) w₀ w := by
  unfold welcome joinUserRoom joinAdminRoom
  refine AtomicProtocol.wp_emit_bind fun _ => ⟨trivial, ?_⟩
  refine AtomicProtocol.wp_emit_bind fun _ => ⟨trivial, ?_⟩
  have hset : Kept i w₀ (act w i (.setUser socketId user)) := hkept.setUser hw.owns
  have hkept' : Kept i w₀ (act (act w i (.setUser socketId user)) i
    (.join socketId (.user user.sub))) := hset.join (.user user.sub)
  have hconn : Connecting i socketId user none (act (act w i (.setUser socketId user)) i
    (.join socketId (.user user.sub))) := hw.setUser.join (.user user.sub)
  by_cases hadmin : user.role = .admin
  · rw [if_pos hadmin]
    refine AtomicProtocol.wp_emit_bind fun _ => ⟨trivial, ?_⟩
    exact wp_findDriver (hkept'.join .adminDashboard) (hconn.join .adminDashboard)
  · rw [if_neg hadmin]
    exact wp_findDriver hkept' hconn

theorem Kept.close (h : Kept i w₀ w) (hw : Joined i socketId token w) :
    Kept i w₀ (Connectivity.act w i (.close socketId)) := by
  refine h.act (fun driverId => ?_) nofun (rel_act_own (f := Socket.close) rfl hw.owns nofun)
  refine quiet_update (f := Socket.close) rfl (fun socket hsocket => ?_) nofun nofun
  obtain rfl := Option.some.inj (hw.socket.symm.trans hsocket)
  refine iff_of_false (fun hclosed => ?_) fun hreaches => ?_
  · cases hclosed.1
  · cases hreaches.2

theorem wp_reject (hkept : Kept i w₀ w) (hw : Joined i socketId token w) :
    protocol.wp i (reject socketId) (Served i socketId) w₀ w := by
  unfold reject handleDisconnect
  refine AtomicProtocol.wp_emit_bind fun _ => ⟨trivial, ?_⟩
  refine AtomicProtocol.wp_emit_bind fun _ => ⟨trivial, ?_⟩
  have hcalm : Calm i (act w i (.close socketId)) := hw.calm.act nofun
  refine ⟨(hkept.close hw).leaveAllRooms, ?_, hcalm.act nofun⟩
  exact owns_act.mpr (Or.inr (owns_act.mpr (Or.inr hw.owns)))

theorem wp_handleConnection (env : FleetEnv) (hkept : Kept i w₀ w)
    (hw : Joined i socketId token w) :
    protocol.wp i (handleConnection env socketId token) (Served i socketId) w₀ w := by
  unfold handleConnection newDate
  cases token with
  | none => exact wp_reject hkept hw
  | some token =>
    refine AtomicProtocol.wp_read_bind fun _ => ⟨trivial, ?_⟩
    have hkept' := hkept.neutral (c := .date) rfl
    have hw' := hw.neutral (c := .date) rfl
    cases hverify : env.verify token w.store.now with
    | none => exact wp_reject hkept' hw'
    | some user => exact wp_welcome hkept' hw'

theorem wp_connectSocket (env : FleetEnv) (hinv : Inv w) (hcalm : Calm i w) :
    protocol.wp i (connectSocket env socketId token) (Ended i) w w := by
  unfold connectSocket
  rw [Async.bind_eq]
  refine AtomicProtocol.wp_read_bind fun _ => ⟨trivial, ?_⟩
  have hkept : Kept i w (act w i (.connect socketId token)) :=
    Kept.connect ⟨hinv, Rel.refl i w⟩
  cases hfree : w.store.sockets.find? socketId with
  | some socket => exact ⟨hkept, hcalm.act nofun⟩
  | none =>
    have hjoined : Joined i socketId token (act w i (.connect socketId token)) :=
      joined_connect hinv hcalm hfree
    refine AtomicProtocol.wp_bind (AtomicProtocol.wp_mono (fun r v₀ v h => ?_)
      (wp_handleConnection env hkept hjoined))
    obtain ⟨hkept', howns, hcalm'⟩ := h
    cases r with
    | error e => exact ⟨hkept', hcalm'⟩
    | ok => exact fun _ => ⟨trivial, hkept'.handled howns, hcalm'.act nofun⟩

theorem wp_disconnectSocket (hinv : Inv w) (hcalm : Calm i w) :
    protocol.wp i (disconnectSocket socketId) (Ended i) w w := by
  unfold disconnectSocket
  rw [Async.bind_eq]
  refine AtomicProtocol.wp_read_bind fun hcond => ⟨trivial, ?_⟩
  have hkept : Kept i w w := ⟨hinv, Rel.refl i w⟩
  have hcalm' : Calm i (act w i (.disconnect socketId)) := hcalm.act nofun
  have hleft : Calm i (act (act w i (.disconnect socketId)) i (.leaveAllRooms socketId)) :=
    hcalm'.act nofun
  cases hsocket : w.store.sockets.find? socketId with
  | none =>
    refine ⟨hkept.disconnect hcond fun socket h => ?_, hcalm'⟩
    rw [hsocket] at h
    cases h
  | some socket =>
    rw [Option.bind_some]
    cases hconnected : socket.connected with
    | false =>
      refine ⟨hkept.disconnect hcond fun socket' h hopen => ?_, hcalm'⟩
      obtain rfl := Option.some.inj (hsocket.symm.trans h)
      rw [hconnected] at hopen
      cases hopen
    | true =>
      rw [if_pos rfl]
      unfold handleDisconnect scheduleGracePeriod cancelGracePeriod
      refine AtomicProtocol.wp_emit_bind fun _ => ⟨trivial, ?_⟩
      cases hdriver : socket.driverId with
      | none =>
        have hclosed := hkept.disconnect hcond fun socket' h _ => by
          obtain rfl := Option.some.inj (hsocket.symm.trans h)
          exact hdriver
        exact ⟨hclosed.leaveAllRooms, hleft⟩
      | some driverId =>
        refine AtomicProtocol.wp_emit_bind fun _ => ⟨trivial, fun _ => ⟨trivial, ?_⟩⟩
        have hcleared := hleft.act (c := .clearTimer driverId) nofun
        exact ⟨kept_of_last hkept hcond hsocket hconnected hdriver, hcleared.act nofun⟩

/-- The thread runs this callback, and no other. -/
def RingsOnly (i driverId : ℕ) (w : World Store Cmd) : Prop :=
  Rings i driverId w ∧ ∀ other, other ≠ driverId → ¬ Rings i other w

theorem stable_ringsOnly : protocol.Stable i (RingsOnly i driverId) := by
  intro w w' hother h
  refine ⟨stable_rings hother h.1, fun other hne hrings => ?_⟩
  exact h.2 other hne ((rings_of_other hother).mp hrings)

theorem wp_graceExpired (hinv : Inv w) (hidle : Idle i w) :
    protocol.wp i (graceExpired driverId) (Ended i) w w := by
  unfold graceExpired setOffline
  rw [Async.bind_eq]
  refine AtomicProtocol.wp_read_bind fun _ => ⟨trivial, ?_⟩
  obtain ⟨hkept, hrings⟩ : Kept i w (act w i (.expireTimer driverId)) ∧
      (w.store.timerDue driverId = true → Rings i driverId (act w i (.expireTimer driverId))) :=
    Kept.expireTimer ⟨hinv, Rel.refl i w⟩ hidle
  have hothers : ∀ other, other ≠ driverId → ¬ Rings i other (act w i (.expireTimer driverId)) := by
    intro other hne h
    refine hidle.calm other (rings_of_act h fun heq => ?_)
    exact absurd (Cmd.expireTimer.inj heq).symm hne
  cases hdue : w.store.timerDue driverId with
  | false =>
    refine ⟨hkept, fun other h => ?_⟩
    refine hidle.calm other (rings_of_act h fun heq => ?_)
    obtain rfl := Cmd.expireTimer.inj heq
    exact hdue
  | true =>
    rw [if_pos rfl]
    refine AtomicProtocol.wp_tryCatch ?_
    rw [Async.bind_eq]
    refine AtomicProtocol.wp_query_bind hkept stable_ringsOnly ⟨hrings hdue, hothers⟩
      (fun _ h => h) fun v hv hinv' _ => ⟨?_, ?_⟩
    · exact (hinv'.follows driverId).expiring hv.1.expiring
    · have hkept' : Kept i v (act v i (.zrem driverId)) :=
        Kept.neutral ⟨hinv', Rel.refl i v⟩ rfl
      have hrings' : RingsOnly i driverId (act v i (.zrem driverId)) := by
        refine ⟨rings_act hv.1 nofun, fun other hne h => ?_⟩
        exact hv.2 other hne (rings_of_act h nofun)
      refine wp_updateDriver hkept' stable_ringsOnly hrings' fun u hu hinv'' => ⟨fun _ => ?_, ?_⟩
      · exact (hinv''.follows driverId).expiring hu.1.expiring
      · exact ⟨Kept.offline ⟨hinv'', Rel.refl i u⟩, calm_offline hu.1 hu.2⟩

theorem wp_wait {ms : ℕ} (hinv : Inv w) (hcalm : Calm i w) :
    protocol.wp i (Async.perform (.tick ms)) (Ended i) w w := by
  refine ⟨⟨hinv, Rel.refl i w⟩, fun v hv hinv' => ⟨fun _ => ⟨trivial, ?_⟩, fun _ h => absurd h id⟩⟩
  exact ⟨Kept.neutral ⟨hinv', Rel.refl i v⟩ rfl, (stable_calm.interferes hv hcalm).act nofun⟩

end Handlers

end Connectivity

/-- A connection, a disconnection, the expiry of a timer, or the passing of time. -/
def Call.isConnectivity : Call → Bool
  | .connect _ _ | .disconnect _ | .graceExpired _ | .wait _ => true
  | _ => false

/-- The server has just started: no sockets, no timers, and nobody is online. -/
structure Store.Started (s : Store) : Prop where
  sockets : s.sockets = .empty
  timers : ∀ driverId, s.graceTimers driverId = none
  offline : ∀ driver ∈ s.drivers.rows, driver.isOnline = false

/-- The set in Redis, or the row, stops saying that the driver is online. -/
def Cmd.marksOffline (driverId : ℕ) (c : Cmd) : Prop := c = .zrem driverId ∨ c = .offline driverId

namespace Connectivity

open AtomicProtocol

theorem waits_of_call {env : FleetEnv} {call : Call} {w : World Store Cmd} {i : ℕ}
    (hcall : call.isConnectivity = true) (hidle : Idle i w) :
    protocol.Waits i (call.program env) (fun _ => Calm i) w := by
  intro v hv hinv
  have hidle' : Idle i v := stable_idle.interferes hv hidle
  cases call with
  | connect socketId token => exact wp_connectSocket env hinv hidle'.calm
  | disconnect socketId => exact wp_disconnectSocket hinv hidle'.calm
  | graceExpired driverId => exact wp_graceExpired hinv hidle'
  | wait ms => exact wp_wait hinv hidle'.calm
  | _ => cases hcall

theorem inv_start {s : Store} (hs : s.Started) : Inv ⟨s, []⟩ where
  connected :=
    ⟨fun _ _ _ h => absurd h (by simp [Owns]), fun _ _ h => absurd h (by simp [Owns]),
      fun _ h => absurd h (by simp [Handled])⟩
  follows driverId := by
    refine ⟨fun h => ?_, fun h => absurd h (by simp [Expiring]), fun driver hdriver _ honline => ?_⟩
    · rw [hs.timers] at h
      cases h
    · rw [hs.offline driver hdriver] at honline
      cases honline

theorem safe_start {env : FleetEnv} {s : Store} (hs : s.Started) {calls : List Call}
    (hcalls : ∀ call ∈ calls, call.isConnectivity = true) :
    protocol.Safe (fun i _ => Calm i) (start env s calls) := by
  refine safe_init (inv_start hs) fun i t ht => ?_
  obtain ⟨call, hcall, rfl⟩ := exists_call_of_start (s := s) ht
  exact waits_of_call (hcalls call (List.mem_of_getElem? hcall)) fun e he => absurd he List.not_mem_nil

end Connectivity

open Connectivity AtomicProtocol in
/-- If drivers' sockets are closed only when their connections have been handled, and one at a time,
and drivers' connections are not handled while the callbacks of their timers run, a driver who is
marked offline has no connected socket, and when the handlers have finished, a driver who is online has
one, or a timer. -/
theorem presence_follows_connectivity (env : FleetEnv) {s : Store} (hs : s.Started)
    {calls : List Call} (hcalls : ∀ call ∈ calls, call.isConnectivity = true)
    {p : Pool Store Cmd Error Unit}
    (hrun : Pool.Run system Unhurried (fun _ => False) (start env s calls) p) :
    (∀ i t c driverId, p.threads[i]? = some t → p.MayRun i → t.command? = some c →
      c.marksOffline driverId → ¬ p.world.store.Reaches driverId) ∧
    (p.Finished → ∀ driver ∈ p.world.store.drivers.rows, driver.isOnline = true →
      p.world.store.Reaches driver.id ∨ (p.world.store.graceTimers driver.id).isSome = true) := by
  have hsafe : protocol.Safe (fun i _ => Calm i) p :=
    (safe_start hs hcalls).run (fun _ _ => stable_calm) hrun
  constructor
  · intro i t c driverId hi hmay hc hmarks
    rcases hmarks with rfl | rfl
    · exact hsafe.guar hi hmay hc trivial
    · exact hsafe.guar hi hmay hc trivial rfl
  · intro hfin driver hdriver honline
    obtain ⟨hinv, hcalm⟩ := hsafe.finished hfin
    rcases (hinv.follows driver.id).online driver hdriver rfl honline with h | h | hexpiring
    · exact Or.inl h
    · exact Or.inr h
    · -- the thread whose callback runs has ended
      obtain ⟨e, he, hrings⟩ := exists_rings_of_expiring hexpiring
      have hlt : e.tid < p.threads.length := hrun.fresh e he
      obtain ⟨r, -, hdone⟩ := hcalm e.tid p.threads[e.tid] (List.getElem?_eq_getElem hlt)
      exact absurd hrings (hdone driver.id)

/-! ### Runs -/

instance (s : Store) (driverId : ℕ) : Decidable (s.Reaches driverId) :=
  inferInstanceAs (Decidable (∃ _ ∈ _, _))

instance (w : World Store Cmd) (socketId : ℕ) : Decidable (Handled w socketId) :=
  inferInstanceAs (Decidable (∃ _ ∈ _, _))

instance (w : World Store Cmd) (driverId : ℕ) : Decidable (Expiring w driverId) :=
  inferInstanceAs (Decidable (∃ _ ∈ _, _))

instance (s : Store) (socket : Socket) : Decidable (socket.IsDrivers s) :=
  decidable_of_iff (socket.user.any fun user =>
    decide (user.role = .driver) && (s.driverOf user.sub).isSome)
    (by simp [Socket.IsDrivers, Option.any_eq_true, Option.isSome_iff_exists])

instance (i : ℕ) (w : World Store Cmd) (c : Cmd) : Decidable (Unhurried i w c) := by
  cases c with
  | disconnect socketId =>
    exact inferInstanceAs (Decidable (∀ socket ∈ w.store.sockets.find? socketId, _ → _))
  | findDriverByUser userId =>
    exact inferInstanceAs (Decidable (∀ driverId ∈ w.store.driverOf userId, _))
  | _ => exact inferInstanceAs (Decidable True)

namespace Connectivity

/-- Driver 1 connects, loses the connection, and his timer expires. -/
def lost : List Call := [.connect 1 (some "d1"), .disconnect 1, .wait 60000, .graceExpired 1]

/-- One call after the other, until the set in Redis is to be changed. -/
def oneByOne : List ℕ := List.replicate 12 0 ++ List.replicate 4 1 ++ [2, 3]

/-- Driver 1 has two phones, and closes the first one. -/
def twoPhones : List Call :=
  [.connect 1 (some "d1"), .connect 2 (some "d1"), .disconnect 1, .wait 60000, .graceExpired 1]

def closeFirst : List ℕ :=
  List.replicate 12 0 ++ List.replicate 12 1 ++ List.replicate 4 2 ++ [3, 4]

def closedEarly : List Call := [.connect 1 (some "d1"), .disconnect 1]

/-- The socket is closed while driver 1 is looked up. -/
def early : List ℕ := List.replicate 4 0 ++ List.replicate 2 1 ++ List.replicate 8 0

end Connectivity

open Town Connectivity in
/-- When driver 1 is taken out of the set, he has no socket. -/
theorem presence_follows_connectivity_lost :
    ∃ q : Pool Store Cmd Error Unit, (q.threads[3]?.bind Async.command?) = some (.zrem 1) ∧
      ¬ q.world.store.Reaches 1 := by
  obtain ⟨q, hrun, hcommand, hmay⟩ := Pool.exists_run_of_schedule? system Unhurried
    (fun _ => False) (start env store lost) oneByOne
    (fun q => (q.threads[3]?.bind Async.command?) = some (.zrem 1) ∧ q.MayRun 3) (by decide +kernel)
  have hstarted : store.Started := ⟨rfl, fun _ => rfl, by decide⟩
  obtain ⟨t, ht, hc⟩ := Option.bind_eq_some_iff.mp hcommand
  have hfollows := presence_follows_connectivity env hstarted (by decide) hrun
  exact ⟨q, hcommand, hfollows.1 3 t _ 1 ht hmay hc (Or.inl rfl)⟩

open Town Connectivity in
/-- With two phones, driver 1 is about to be marked offline while the second one is connected, and its
connection has been handled; and when his only socket is closed while he is looked up, he ends up
online without a socket or a timer. -/
theorem presence_without_connectivity :
    (∃ q, Pool.Run system (fun _ _ _ => True) (fun _ => False) (start env store twoPhones) q ∧
      (q.threads[4]?.bind Async.command?) = some (.zrem 1) ∧ q.MayRun 4 ∧
      q.world.store.Reaches 1 ∧ Handled q.world 2) ∧
    ∃ q, Pool.Run system (fun _ _ _ => True) (fun _ => False) (start env store closedEarly) q ∧
      q.Finished ∧ (q.world.store.drivers.find? 1).any Driver.isOnline = true ∧
      ¬ q.world.store.Reaches 1 ∧ q.world.store.graceTimers 1 = none := by
  constructor
  · exact Pool.exists_run_of_schedule? system (fun _ _ _ => True) (fun _ => False)
      (start env store twoPhones) closeFirst
      (fun q => (q.threads[4]?.bind Async.command?) = some (.zrem 1) ∧ q.MayRun 4 ∧
        q.world.store.Reaches 1 ∧ Handled q.world 2) (by decide +kernel)
  · exact Pool.exists_run_of_schedule? system (fun _ _ _ => True) (fun _ => False)
      (start env store closedEarly) early
      (fun q => q.Finished ∧ (q.world.store.drivers.find? 1).any Driver.isOnline = true ∧
        ¬ q.world.store.Reaches 1 ∧ q.world.store.graceTimers 1 = none) (by decide +kernel)

end Telima.Fleet
