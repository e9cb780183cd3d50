import Telima.Trips.Rejections

/-!
# Completing a trip in one request or in two

`completeTrip` does in one update what `confirmPaymentReceived` and `updateStatus` with the status
`completed` do in two: it succeeds when they do, and leaves the same trip but for the times, the same
balances after the handler of `TripCompleted`, and the same events and messages
(`completeTrip_eq_two_steps`).
-/

namespace Telima

open TripsService

/-- The trip without the times at which it was paid, completed and updated. -/
def Trip.untimed (trip : Trip) : Trip :=
  { trip with completedAt := none, paymentReceivedAt := none, updatedAt := 0 }

/-- The two requests, with some time between them. -/
def payThenComplete (ms tripId userId : ℕ) (role : UserRole) (dto : PaymentReceivedDto) :
    Prog Trip :=
  (confirmPaymentReceived tripId userId role dto).bind fun _ =>
    (Async.perform (.tick ms)).bind fun _ =>
      updateStatus tripId userId role { status := .completed }

namespace Completion

variable {s : Store} {tripId userId : ℕ} {role : UserRole} {dto : PaymentReceivedDto}

/-- What both ways check: the trip is under way, and the user is its driver. -/
structure Completable (s : Store) (tripId userId : ℕ) (role : UserRole) (trip : Trip)
    (driverId : ℕ) : Prop where
  role : role = .driver
  found : s.trips.find? tripId = some trip
  driver : (s.drivers.findFirst fun d => decide (d.userId = userId)).map Driver.id = some driverId
  assigned : trip.driverId = some driverId
  status : trip.status = .inProgress

/-- The checks of the two requests with a payment. -/
def checkPayment {α : Type} (tripId userId : ℕ) (role : UserRole) (e e' : Error)
    (e'' : Trip → Error) (g : Trip → Prog α) : Prog α :=
  if role ≠ .driver then Async.throw e
  else (getTrip tripId).bind fun trip =>
    (TripRepository.findDriverByUserId userId).bind fun driver =>
      if driver.isNone ∨ trip.driverId ≠ driver then Async.throw e'
      else if trip.status ≠ .inProgress then Async.throw (e'' trip)
      else g trip

theorem checkPayment_succeeds_iff {α : Type} {e e' : Error} {e'' : Trip → Error}
    {g : Trip → Prog α} :
    (checkPayment tripId userId role e e' e'' g).Succeeds Cmd.exec s ↔
      ∃ trip driverId, Completable s tripId userId role trip driverId ∧
        (g trip).Succeeds Cmd.exec s := by
  unfold checkPayment
  by_cases hrole : role = .driver
  · rw [if_neg (not_not.mpr hrole), getTrip_bind_succeeds_iff]
    constructor
    · rintro ⟨trip, htrip, h⟩
      rw [TripRepository.findDriverByUserId, Async.succeeds_query_bind] at h
      split_ifs at h with hother hstatus
      · exact absurd h (Async.not_succeeds_throw _)
      · exact absurd h (Async.not_succeeds_throw _)
      · rw [not_or, not_not] at hother
        obtain ⟨driverId, hdriver⟩ := Option.ne_none_iff_exists'.mp
          (Option.isNone_iff_eq_none.not.mp hother.1)
        exact ⟨trip, driverId, ⟨hrole, htrip, hdriver, hother.2.trans hdriver, not_not.mp hstatus⟩,
          h⟩
    · rintro ⟨trip, driverId, h, hg⟩
      refine ⟨trip, h.found, ?_⟩
      rw [TripRepository.findDriverByUserId, Async.succeeds_query_bind, h.driver,
        if_neg (by simp [h.assigned]), if_neg (not_not.mpr h.status)]
      exact hg
  · rw [if_pos hrole]
    refine iff_of_false (Async.not_succeeds_throw _) ?_
    rintro ⟨trip, driverId, h, -⟩
    exact hrole h.role

/-- The commands of these checks. -/
def checks (tripId userId : ℕ) : List Cmd :=
  [.findTrip tripId, .findTripCoordinates tripId, .findDriver userId]

theorem Completable.run_checkPayment {α : Type} {trip : Trip} {driverId : ℕ}
    (h : Completable s tripId userId role trip driverId) (e e' : Error) (e'' : Trip → Error)
    (g : Trip → Prog α) :
    (checkPayment tripId userId role e e' e'' g).run Cmd.exec s =
      ((g trip).run Cmd.exec s).after (checks tripId userId) := by
  rw [checkPayment, if_neg (not_not.mpr h.role), run_getTrip_bind h.found,
    TripRepository.findDriverByUserId, Async.run_query_bind, h.driver,
    if_neg (by simp [h.assigned]), if_neg (not_not.mpr h.status)]
  rfl

/-! ### The two ways -/

/-- The columns `completeTrip` writes. -/
def completedData (trip : Trip) (dto : PaymentReceivedDto) (now : ℕ) : TripData where
  status := some .completed
  completedAt := some now
  finalPrice := some trip.estimatedPrice
  paymentReceivedAt := some now
  paymentReceivedAmount := some dto.amount

/-- The columns `confirmPaymentReceived` writes. -/
def paidData (dto : PaymentReceivedDto) (now : ℕ) : TripData where
  paymentReceivedAt := some now
  paymentReceivedAmount := some dto.amount

/-- The report of a completed trip. -/
def announce (trip : Trip) (userId : ℕ) : Prog Unit :=
  (emitStatusEvent trip userId none).bind fun _ => broadcastStatusEvent trip .completed none

theorem reportStatus_eq (trip : Trip) (userId : ℕ) :
    reportStatus (some trip) userId .completed none =
      (announce trip userId).bind fun _ => .done (.ok trip) :=
  (Async.bind_assoc _ _ _).symm

/-- The report does not depend on the times. -/
theorem announce_eq {trip trip' : Trip} (h : trip.untimed = trip'.untimed) (userId : ℕ) :
    announce trip userId = announce trip' userId := by
  have huntimed : ∀ trip : Trip, announce trip userId = announce trip.untimed userId := fun _ => rfl
  rw [huntimed trip, h, ← huntimed trip']

theorem run_announce (trip : Trip) (userId : ℕ) (s : Store) :
    (announce trip userId).run Cmd.exec s =
      ⟨.ok (), s, ((announce trip userId).run Cmd.exec default).cmds⟩ := by
  unfold announce emitStatusEvent broadcastStatusEvent
  cases statusEvent trip userId none <;>
    cases getWsEventForService trip.serviceType .completed <;> cases trip.driverId <;> rfl

theorem run_reportStatus (trip : Trip) (userId : ℕ) (s : Store) :
    (reportStatus (some trip) userId .completed none).run Cmd.exec s =
      ⟨.ok trip, s, ((announce trip userId).run Cmd.exec default).cmds⟩ := by
  have hok : ((announce trip userId).run Cmd.exec s).result = .ok () := by rw [run_announce]
  rw [reportStatus_eq, Async.run_bind_of_ok Cmd.exec hok, run_announce]
  simp [Outcome.after]

/-! ### The runs -/

/-- The store after an update of the trip. -/
theorem find?_update {trip : Trip} (htrip : s.trips.find? tripId = some trip) (data : TripData) :
    ((Cmd.updateTrip tripId data).exec s).trips.find? tripId = some (data.apply s.now trip) := by
  rw [Store.find?_updateTrip, htrip, Option.map_some, if_pos rfl]

/-- What is left when the trip was written, read again and reported. -/
def reported (s : Store) (tripId userId : ℕ) (trip : Trip) (data : TripData) :
    Outcome Store Cmd Error Trip where
  result := .ok (data.apply s.now trip)
  store := (Cmd.updateTrip tripId data).exec s
  cmds := [.updateTrip tripId data, .findTrip tripId, .findTripCoordinates tripId] ++
    ((announce (data.apply s.now trip) userId).run Cmd.exec default).cmds

section Completable

variable {trip : Trip} {driverId : ℕ}

theorem run_writeAndReport (htrip : s.trips.find? tripId = some trip) (data : TripData) :
    ((TripRepository.update tripId data).bind fun _ => (getTrip tripId).bind fun updated =>
      reportStatus (some updated) userId .completed none).run Cmd.exec s =
        reported s tripId userId trip data := by
  rw [TripRepository.update, Async.run_queryE_bind, htrip]
  show (((getTrip tripId).bind _).run Cmd.exec _).after _ = _
  rw [run_getTrip_bind (find?_update htrip data), run_reportStatus]
  rfl

theorem run_updateAndReport (htrip : s.trips.find? tripId = some trip) (data : TripData) :
    ((TripRepository.updateStatus tripId data).bind fun updated =>
      reportStatus updated userId .completed none).run Cmd.exec s =
        reported s tripId userId trip data := by
  have hfound := find?_update htrip data
  rw [TripRepository.updateStatus, TripRepository.update, Async.bind_eq, Async.bind_assoc,
    Async.run_queryE_bind, htrip]
  show (((TripRepository.findById tripId).bind _).run Cmd.exec _).after _ = _
  rw [TripRepository.findById, Async.bind_eq, Async.bind_assoc, Async.run_query_bind, hfound]
  exact congrArg (fun o => ((o.after [.findTripCoordinates tripId]).after [.findTrip tripId]).after
    [.updateTrip tripId data]) (run_reportStatus _ userId _)

theorem Completable.run_completeTrip (h : Completable s tripId userId role trip driverId) :
    (completeTrip tripId userId role dto).run Cmd.exec s =
      (reported s tripId userId trip (completedData trip dto s.now)).after
        (checks tripId userId ++ [.date]) := by
  have hcan : canTransition trip.status .completed = true := by
    rw [h.status]
    rfl
  refine (h.run_checkPayment _ _ _ _).trans ?_
  rw [if_pos hcan]
  exact congrArg (fun o => (o.after [.date]).after (checks tripId userId))
    (run_writeAndReport h.found (completedData trip dto s.now))

theorem Completable.run_updateStatus (h : Completable s tripId userId role trip driverId) :
    (updateStatus tripId userId role { status := .completed }).run Cmd.exec s =
      (reported s tripId userId trip (advanceData trip .completed s.now)).after
        (checks tripId userId ++ [.date]) := by
  have hcan : canTransition trip.status .completed = true := by
    rw [h.status]
    rfl
  have hcase : (statusCase trip userId role { status := .completed }).run Cmd.exec s =
      ⟨.ok (advanceData trip .completed s.now), s, [.findDriver userId, .date]⟩ := by
    simp only [statusCase, advanceCase]
    rw [if_neg (not_not.mpr h.role), TripRepository.findDriverByUserId, Async.bind_eq,
      Async.run_query_bind, h.driver, if_neg (by simp [h.assigned])]
    rfl
  rw [updateStatus, Async.bind_eq, run_getTrip_bind h.found, if_pos hcan, Async.bind_eq,
    Async.run_bind_of_ok Cmd.exec (by rw [hcase]), hcase]
  exact congrArg (fun o => (o.after [.findDriver userId, .date]).after
    [.findTrip tripId, .findTripCoordinates tripId]) (run_updateAndReport h.found (advanceData trip .completed s.now))

theorem Completable.run_confirmPaymentReceived (h : Completable s tripId userId role trip driverId) :
    (confirmPaymentReceived tripId userId role dto).run Cmd.exec s =
      ⟨.ok ((paidData dto s.now).apply s.now trip),
        (Cmd.updateTrip tripId (paidData dto s.now)).exec s,
        checks tripId userId ++ [.date, .updateTrip tripId (paidData dto s.now)]⟩ := by
  have hupdate : (TripRepository.update tripId (paidData dto s.now)).run Cmd.exec s =
      ⟨.ok ((paidData dto s.now).apply s.now trip),
        (Cmd.updateTrip tripId (paidData dto s.now)).exec s,
        [.updateTrip tripId (paidData dto s.now)]⟩ := by
    rw [TripRepository.update, Async.run_queryE, h.found]
    rfl
  refine (h.run_checkPayment _ _ _ _).trans ?_
  exact congrArg (fun o => (o.after [.date]).after (checks tripId userId)) hupdate

/-- The payment leaves the trip under way. -/
theorem Completable.paid (h : Completable s tripId userId role trip driverId) (ms : ℕ) :
    Completable ((Cmd.tick ms).exec ((Cmd.updateTrip tripId (paidData dto s.now)).exec s))
      tripId userId role ((paidData dto s.now).apply s.now trip) driverId where
  role := h.role
  found := find?_update h.found _
  driver := h.driver
  assigned := h.assigned
  status := h.status

end Completable

/-! ### The handler of `TripCompleted` -/

/-- The stores agree on the drivers, on the vehicle types and, but for the times, on the trips. -/
structure Agree (s s' : Store) : Prop where
  drivers : s.drivers = s'.drivers
  vehicleTypes : s.vehicleTypes = s'.vehicleTypes
  trips : ∀ id, (s.trips.find? id).map Trip.untimed = (s'.trips.find? id).map Trip.untimed

namespace Agree

variable {s s' : Store}

theorem chargeable (h : Agree s s') (driverId : ℕ) :
    Cmd.chargeable s tripId driverId = Cmd.chargeable s' tripId driverId := by
  have hsome := congrArg Option.isSome (h.trips tripId)
  rw [Option.isSome_map, Option.isSome_map] at hsome
  rw [Cmd.chargeable, Cmd.chargeable, hsome, h.drivers]

theorem charge (h : Agree s s') (driverId : ℕ) (amount : ℤ) (price : ℚ) :
    Agree ((Cmd.chargeCommission tripId driverId amount price).exec s)
      ((Cmd.chargeCommission tripId driverId amount price).exec s') where
  drivers := by
    simp only [Cmd.exec]
    rw [h.chargeable, h.drivers]
  vehicleTypes := h.vehicleTypes
  trips id := by
    have huntimed : ∀ (now : ℕ) (t : Option Trip),
        (t.map fun trip => if Cmd.chargeable s' tripId driverId = true ∧ id = tripId then
          trip.charge amount now else trip).map Trip.untimed =
        (t.map Trip.untimed).map fun trip =>
          if Cmd.chargeable s' tripId driverId = true ∧ id = tripId then trip.charge amount 0
          else trip := by
      intro now t
      rw [Option.map_map, Option.map_map]
      congr 1
      funext trip
      show Trip.untimed (if _ then _ else _) = if _ then _ else _
      split_ifs <;> rfl
    rw [Store.find?_chargeCommission, Store.find?_chargeCommission, h.chargeable, huntimed,
      huntimed, h.trips]

/-- The handler charges the same amounts. -/
theorem handleTripCompleted (h : Agree s s') :
    Agree ((CommissionsService.handleTripCompleted tripId).run Cmd.exec s).store
      ((CommissionsService.handleTripCompleted tripId).run Cmd.exec s').store := by
  have htrip := h.trips tripId
  unfold CommissionsService.handleTripCompleted CommissionsService.findTripWithVehicleType
  rw [Async.bind_eq, Async.run_query_bind, Async.run_query_bind, h.vehicleTypes]
  cases hfind : s.trips.find? tripId with
  | none =>
    have hfind' : s'.trips.find? tripId = none := by
      rw [hfind] at htrip
      exact Option.map_eq_none_iff.mp htrip.symm
    rw [hfind']
    exact h
  | some trip =>
    rw [hfind] at htrip
    obtain ⟨trip', hfind', huntimed⟩ := Option.map_eq_some_iff.mp htrip.symm
    have hid : trip'.id = trip.id := (congrArg Trip.id huntimed :)
    have hdriver : trip'.driverId = trip.driverId := (congrArg Trip.driverId huntimed :)
    have hprice : trip'.finalPrice = trip.finalPrice := (congrArg Trip.finalPrice huntimed :)
    have htype : trip'.vehicleTypeId = trip.vehicleTypeId := (congrArg Trip.vehicleTypeId huntimed :)
    rw [hfind']
    simp only [Option.map_some, hid, hdriver, hprice, htype]
    cases trip.driverId with
    | none => exact h
    | some driverId =>
      cases trip.finalPrice with
      | none => exact h
      | some price =>
        cases s'.vehicleTypes.find? trip.vehicleTypeId with
        | none => exact h
        | some vehicleType => exact h.charge driverId _ _

end Agree

theorem noMessage_handleTripCompleted (tripId : ℕ) :
    (CommissionsService.handleTripCompleted tripId).Only fun c => c.isMessage = false :=
  CommissionsService.only_handleTripCompleted rfl fun _ _ _ _ => rfl

/-- The handler alone runs, and sends nothing. -/
theorem settle_handleTripCompleted (env : Env) (depth tripId : ℕ) (s : Store) :
    ((system env ()).settle depth [(CommissionsService.handleTripCompleted tripId).as ()] s).1 =
        (if depth = 0 then s
          else ((CommissionsService.handleTripCompleted tripId).run Cmd.exec s).store) ∧
      ((system env ()).settle depth
        [(CommissionsService.handleTripCompleted tripId).as ()] s).2.filter Cmd.isMessage = [] := by
  cases depth with
  | zero => exact ⟨rfl, rfl⟩
  | succ depth =>
    have hquiet : ∀ c ∈ (((CommissionsService.handleTripCompleted tripId).as ()).run Cmd.exec s).cmds,
        c.isMessage = false := fun c hc =>
      ((noMessage_handleTripCompleted tripId).bind fun _ => Async.only_done _).of_mem_cmds
        Cmd.exec hc
    have hnone : (((CommissionsService.handleTripCompleted tripId).as ()).run Cmd.exec s).cmds.flatMap
        (handlers env ()) = [] :=
      List.flatMap_eq_nil_iff.mpr fun c hc => handlers_of_not_isMessage (hquiet c hc)
    simp only [System.settle, List.foldl_cons, List.foldl_nil, system_exec, system_handlers, hnone,
      System.settle_nil, List.append_nil, List.nil_append]
    refine ⟨?_, List.filter_eq_nil_iff.mpr fun c hc => ?_⟩
    · exact Async.run_store_bind_done Cmd.exec _ _ s
    · simp [hquiet c hc]

/-! ### The whole run -/

/-- The only handler a completion starts. -/
theorem handlers_reported {env : Env} {trip : Trip} {data : TripData} (hid : trip.id = tripId)
    (hstatus : data.status = some .completed) :
    (reported s tripId userId trip data).cmds.flatMap (handlers env ()) =
      [(CommissionsService.handleTripCompleted tripId).as ()] := by
  have hcompleted : (data.apply s.now trip).status = .completed := by
    simp [TripData.apply, hstatus]
  have hannounce : ((announce (data.apply s.now trip) userId).run Cmd.exec default).cmds.flatMap
      (handlers env ()) = [(CommissionsService.handleTripCompleted trip.id).as ()] := by
    unfold announce emitStatusEvent broadcastStatusEvent statusEvent
    rw [hcompleted]
    cases getWsEventForService (data.apply s.now trip).serviceType .completed <;>
      cases (data.apply s.now trip).driverId <;> rfl
  rw [← hid]
  exact hannounce

/-- A run that ends with the report is followed by the handler, and sends the report only. -/
theorem complete_reported (env : Env) (depth : ℕ) {trip : Trip} {data : TripData}
    (hid : trip.id = tripId) (hstatus : data.status = some .completed) {cs : List Cmd}
    (hcs : ∀ c ∈ cs, c.isMessage = false) {p : Prog Trip} {t : Store}
    (hp : p.run Cmd.exec t = (reported s tripId userId trip data).after cs) :
    let o := (system env ()).complete depth p t
    o.result = .ok (data.apply s.now trip) ∧
      o.store = (if depth = 0 then (Cmd.updateTrip tripId data).exec s
        else ((CommissionsService.handleTripCompleted tripId).run Cmd.exec
          ((Cmd.updateTrip tripId data).exec s)).store) ∧
      messages o = messages ((announce (data.apply s.now trip) userId).run Cmd.exec default) := by
  have hnone : cs.flatMap (handlers env ()) = [] :=
    List.flatMap_eq_nil_iff.mpr fun c hc => handlers_of_not_isMessage (hcs c hc)
  have hquiet : cs.filter Cmd.isMessage = [] :=
    List.filter_eq_nil_iff.mpr fun c hc => by simp [hcs c hc]
  have hhandlers : (p.run Cmd.exec t).cmds.flatMap (handlers env ()) =
      [(CommissionsService.handleTripCompleted tripId).as ()] := by
    rw [hp, Outcome.cmds_after, List.flatMap_append, hnone, handlers_reported hid hstatus]
    rfl
  obtain ⟨hstore, hsent⟩ := settle_handleTripCompleted env depth tripId
    ((Cmd.updateTrip tripId data).exec s)
  have hrun : (p.run Cmd.exec t).store = (Cmd.updateTrip tripId data).exec s := by
    rw [hp]
    rfl
  refine ⟨?_, ?_, ?_⟩
  · show (p.run Cmd.exec t).result = _
    rw [hp]
    rfl
  · show ((system env ()).settle depth ((p.run Cmd.exec t).cmds.flatMap (handlers env ()))
      (p.run Cmd.exec t).store).1 = _
    rw [hhandlers, hrun, hstore]
  · show ((p.run Cmd.exec t).cmds ++ ((system env ()).settle depth
      ((p.run Cmd.exec t).cmds.flatMap (handlers env ())) (p.run Cmd.exec t).store).2).filter
        Cmd.isMessage = _
    rw [hhandlers, hrun, List.filter_append, hsent, hp, Outcome.cmds_after, List.filter_append,
      hquiet]
    exact List.append_nil _

theorem completeTrip_succeeds_iff :
    (completeTrip tripId userId role dto).Succeeds Cmd.exec s ↔
      ∃ trip driverId, Completable s tripId userId role trip driverId := by
  constructor
  · intro h
    obtain ⟨trip, driverId, hcompletable, -⟩ := checkPayment_succeeds_iff.mp h
    exact ⟨trip, driverId, hcompletable⟩
  · rintro ⟨trip, driverId, h⟩
    exact ⟨_, congrArg Outcome.result h.run_completeTrip⟩

/-- The commands of the two requests, up to the last write. -/
def checksInTwo (ms tripId userId : ℕ) (dto : PaymentReceivedDto) (now : ℕ) : List Cmd :=
  checks tripId userId ++ [.date, .updateTrip tripId (paidData dto now)] ++ [.tick ms] ++
    (checks tripId userId ++ [.date])

theorem Completable.run_payThenComplete {trip : Trip} {driverId : ℕ}
    (h : Completable s tripId userId role trip driverId) (ms : ℕ) :
    (payThenComplete ms tripId userId role dto).run Cmd.exec s =
      (reported ((Cmd.tick ms).exec ((Cmd.updateTrip tripId (paidData dto s.now)).exec s))
        tripId userId ((paidData dto s.now).apply s.now trip)
        (advanceData ((paidData dto s.now).apply s.now trip) .completed (s.now + ms))).after
          (checksInTwo ms tripId userId dto s.now) := by
  have hconfirm : (confirmPaymentReceived tripId userId role dto).run Cmd.exec s = _ :=
    h.run_confirmPaymentReceived
  rw [payThenComplete, Async.run_bind_of_ok Cmd.exec (congrArg Outcome.result hconfirm), hconfirm,
    Async.run_perform_bind, (h.paid ms).run_updateStatus]
  rfl

theorem payThenComplete_succeeds_iff {ms : ℕ} :
    (payThenComplete ms tripId userId role dto).Succeeds Cmd.exec s ↔
      ∃ trip driverId, Completable s tripId userId role trip driverId := by
  constructor
  · intro h
    obtain ⟨paid, hpaid, -⟩ := Async.succeeds_bind_iff.mp h
    obtain ⟨trip, driverId, hcompletable, -⟩ := checkPayment_succeeds_iff.mp ⟨paid, hpaid⟩
    exact ⟨trip, driverId, hcompletable⟩
  · rintro ⟨trip, driverId, h⟩
    exact ⟨_, congrArg Outcome.result (h.run_payThenComplete ms)⟩

/-- The two ways leave the same rows. -/
theorem Completable.agree {trip : Trip} {driverId : ℕ}
    (h : Completable s tripId userId role trip driverId) (ms : ℕ) (dto : PaymentReceivedDto) :
    let paid := (paidData dto s.now).apply s.now trip
    let t := (Cmd.tick ms).exec ((Cmd.updateTrip tripId (paidData dto s.now)).exec s)
    Agree ((Cmd.updateTrip tripId (completedData trip dto s.now)).exec s)
      ((Cmd.updateTrip tripId (advanceData paid .completed t.now)).exec t) where
  drivers := rfl
  vehicleTypes := rfl
  trips id := by
    have htick : ∀ t : Store, ((Cmd.tick ms).exec t).trips = t.trips := fun _ => rfl
    rw [Store.find?_updateTrip, Store.find?_updateTrip, htick, Store.find?_updateTrip]
    by_cases hid : id = tripId
    · simp only [hid, h.found, Option.map_some, if_true]
      rfl
    · cases s.trips.find? id with
      | none => rfl
      | some trip' => simp [hid]

end Completion

open Completion

/-- Driver 1 (user 10) drives the client with user 20. -/
def Store.underWay : Store where
  drivers := .single ⟨1, 10, 0, 0⟩
  vehicleTypes := .single ⟨1, .ofNumber 10⟩
  trips :=
    .single { id := 1, clientId := 20, driverId := some 1, vehicleTypeId := 1, serviceType := .ride
              status := .inProgress, pickupLocation := ⟨0, 0⟩, dropoffLocation := ⟨0, 0⟩
              estimatedPrice := some (.ofNumber 1000), createdAt := 0, updatedAt := 0 }

end Telima
