import Telima.Async.Counting
import Telima.System
import Telima.Trips.Runs

/-!
# The commission of a completed trip in any interleaving

A completion is written over the row its call read as `in_progress`, and every write is followed by
one `TripCompleted`, every `TripCompleted` by one handler, and every handler by one charge.  So in
any run to the end the driver is charged as often as the completion was written
(`charges_eq_completions`), always the same amount; it is charged once if and only if every write
found the trip not yet completed, or there is nothing to charge.
-/

namespace Telima

open TripsService

/-- A request that completes the trip. -/
inductive CompletionCall where
  | completeTrip (userId : ℕ) (role : UserRole) (dto : PaymentReceivedDto)
  | updateStatus (userId : ℕ) (role : UserRole) (cancelReason : Option String)

def CompletionCall.program (tripId : ℕ) : CompletionCall → Prog Unit
  | completeTrip userId role dto => (TripsService.completeTrip tripId userId role dto).as ()
  | updateStatus userId role cancelReason =>
    (TripsService.updateStatus tripId userId role { status := .completed, cancelReason }).as ()

/-- A trip that is not completed, with its driver and its vehicle type. -/
structure OpenTrip (s : Store) (tripId : ℕ) where
  trip : Trip
  driver : Driver
  vehicleType : VehicleType
  find_trip : s.trips.find? tripId = some trip
  driverId : trip.driverId = some driver.id
  find_driver : s.drivers.find? driver.id = some driver
  find_vehicleType : s.vehicleTypes.find? trip.vehicleTypeId = some vehicleType
  status : trip.status ≠ .completed

namespace OpenTrip

variable {s : Store} {tripId : ℕ} (o : OpenTrip s tripId)

/-- The commission on a final price, at the rate of the vehicle type. -/
def commissionAt (finalPrice : Decimal2) : ℤ :=
  commissionOf finalPrice.toNumber o.vehicleType.commissionPercentage.toNumber

/-- The price the trip will be completed with; a missing price counts as zero. -/
def price : Decimal2 := o.trip.estimatedPrice.getD 0

/-- The driver was charged once for the completed trip. -/
def ChargedOnce (t : Store) : Prop :=
  ∃ trip driver, t.trips.find? tripId = some trip ∧ t.drivers.find? o.driver.id = some driver ∧
    driver.commissionDue.toNumber =
      o.driver.commissionDue.toNumber + o.commissionAt (trip.finalPrice.getD 0) ∧
    driver.balance.toNumber = o.driver.balance.toNumber +
      ((trip.finalPrice.getD 0).toNumber - o.commissionAt (trip.finalPrice.getD 0))

end OpenTrip

namespace Charging

/-! ### What is counted -/

/-- The trip is written `completed`. -/
def completes (tripId : ℕ) : EventKind Cmd → Store → Bool
  | .did (.updateTrip id data), _ => decide (id = tripId) && decide (data.status = some .completed)
  | _, _ => false

/-- `TripCompleted` is emitted. -/
def announces (tripId : ℕ) : EventKind Cmd → Store → Bool
  | .did (.emit (.tripCompleted id _ _ _)), _ => decide (id = tripId)
  | _, _ => false

/-- A handler of `TripCompleted` is started. -/
def starts (tripId : ℕ) : EventKind Cmd → Store → Bool
  | .spawned (.emit (.tripCompleted id _ _ _)), _ => decide (id = tripId)
  | _, _ => false

/-- The commission is charged. -/
def charges (tripId : ℕ) : EventKind Cmd → Store → Bool
  | .did (.chargeCommission id _ _ _), _ => decide (id = tripId)
  | _, _ => false

end Charging

/-- Every completion was written over a trip that was not completed. -/
def World.CompletedOnce (w : World Store Cmd) (tripId : ℕ) : Prop :=
  ∀ e ∈ w.trace, Charging.completes tripId e.kind e.before = true →
    e.before.tripStatus tripId ≠ some .completed

namespace Charging

variable {env : Env} {s : Store} {tripId : ℕ} {o : OpenTrip s tripId}

/-! ### The invariant -/

/-- The row of the trip, before its completion was written and after. -/
structure Row (o : OpenTrip s tripId) (completed : Prop) (trip : Trip) : Prop where
  id : trip.id = tripId
  driverId : trip.driverId = some o.driver.id
  vehicleTypeId : trip.vehicleTypeId = o.trip.vehicleTypeId
  estimatedPrice : trip.estimatedPrice = o.trip.estimatedPrice
  before : ¬ completed → trip.status ≠ .completed
  after : completed → trip.status = .completed ∧ trip.finalPrice = o.trip.estimatedPrice

/-- The driver after `n` charges. -/
structure Charged (o : OpenTrip s tripId) (n : ℕ) (driver : Driver) : Prop where
  commissionDue : driver.commissionDue.toNumber =
    o.driver.commissionDue.toNumber + n * o.commissionAt o.price
  balance : driver.balance.toNumber =
    o.driver.balance.toNumber + n * (o.price.toNumber - o.commissionAt o.price)

/-- The rows are what the counts of the history say. -/
structure Inv (o : OpenTrip s tripId) (w : World Store Cmd) : Prop where
  row : ∃ trip, w.store.trips.find? tripId = some trip ∧ Row o (0 < w.total (completes tripId)) trip
  driver : ∃ driver, w.store.drivers.find? o.driver.id = some driver ∧
    Charged o (w.total (charges tripId)) driver
  vehicleTypes : w.store.vehicleTypes = s.vehicleTypes
  started : w.total (starts tripId) = w.total (announces tripId)
  once : w.CompletedOnce tripId ↔ w.total (completes tripId) ≤ 1

/-- The command writes no trip and no driver, and starts no handler. -/
def Neutral (c : Cmd) : Prop := c.reports = true ∨ c = .date ∨ ∃ userId, c = .findDriver userId

/-- The columns of a completion. -/
structure Completes (o : OpenTrip s tripId) (data : TripData) : Prop where
  status : data.status = some .completed
  finalPrice : data.finalPrice = some o.trip.estimatedPrice
  driverId : data.driverId = none

/-- What is done to the trip and its driver. -/
inductive Guards (o : OpenTrip s tripId) (w : World Store Cmd) : Cmd → Prop
  | neutral {c : Cmd} (hc : Neutral c) : Guards o w c
  | complete {data : TripData} (hdata : Completes o data) : Guards o w (.updateTrip tripId data)
  | announce {driverId : Option ℕ} {clientId : ℕ} {finalPrice : ℚ}
      (hcompleted : 0 < w.total (completes tripId)) :
      Guards o w (.emit (.tripCompleted tripId driverId clientId finalPrice))
  | charge : Guards o w (.chargeCommission tripId o.driver.id (o.commissionAt o.price)
      o.price.toNumber)

theorem completedOnce_step {w : World Store Cmd} {i n : ℕ} {c : Cmd} :
    (w.step (system env ()) i c n).CompletedOnce tripId ↔
      (completes tripId (.did c) w.store = true → w.store.tripStatus tripId ≠ some .completed) ∧
        w.CompletedOnce tripId := by
  constructor
  · intro h
    exact ⟨h _ World.did_mem_trace_step, fun e he => h e (World.trace_step_suffix.subset he)⟩
  · rintro ⟨hnew, hold⟩ e he hkind
    rcases World.mem_trace_step he with ⟨d, hspawned⟩ | rfl | he
    · rw [hspawned] at hkind
      cases hkind
    · exact hnew hkind
    · exact hold e he hkind

/-- What a command that is not counted leaves. -/
theorem Inv.step_of_keeps {w : World Store Cmd} {i n : ℕ} {c : Cmd} (h : Inv o w)
    (htrips : (c.exec w.store).trips = w.store.trips)
    (hdrivers : (c.exec w.store).drivers = w.store.drivers)
    (hcompletes : completes tripId (.did c) w.store = false)
    (hcharges : charges tripId (.did c) w.store = false)
    (hstarts : (handlers env () c).length * (starts tripId (.spawned c) (c.exec w.store)).toNat =
      (announces tripId (.did c) w.store).toNat) : Inv o (w.step (system env ()) i c n) := by
  have hcompleted : (w.step (system env ()) i c n).total (completes tripId) =
      w.total (completes tripId) := by
    rw [World.total_step, hcompletes]
    rfl
  have hcharged : (w.step (system env ()) i c n).total (charges tripId) =
      w.total (charges tripId) := by
    rw [World.total_step, hcharges]
    rfl
  refine ⟨?_, ?_, ?_, ?_, ?_⟩
  · rw [hcompleted, World.store_step, system_exec, htrips]
    exact h.row
  · rw [hcharged, World.store_step, system_exec, hdrivers]
    exact h.driver
  · rw [World.store_step, system_exec, Cmd.exec_vehicleTypes]
    exact h.vehicleTypes
  · rw [World.total_step, World.total_step, h.started, system_handlers, system_exec, hstarts]
    have hstarted : starts tripId (.did c) w.store = false := rfl
    have hannounced : announces tripId (.spawned c) (c.exec w.store) = false := rfl
    rw [hstarted, hannounced]
    simp
  · rw [completedOnce_step, hcompleted, ← h.once, hcompletes]
    simp

theorem Inv.neutral {w : World Store Cmd} {i n : ℕ} {c : Cmd} (h : Inv o w) (hc : Neutral c) :
    Inv o (w.step (system env ()) i c n) := by
  rcases hc with hc | rfl | ⟨userId, rfl⟩
  · unfold Cmd.reports at hc
    split at hc
    · exact h.step_of_keeps rfl rfl rfl rfl rfl
    · exact h.step_of_keeps rfl rfl rfl rfl rfl
    · exact h.step_of_keeps rfl rfl rfl rfl rfl
    · exact h.step_of_keeps rfl rfl rfl rfl rfl
    · exact h.step_of_keeps rfl rfl rfl rfl rfl
    · exact h.step_of_keeps rfl rfl rfl rfl rfl
    · exact h.step_of_keeps rfl rfl rfl rfl rfl
    · simp at hc
  · exact h.step_of_keeps rfl rfl rfl rfl rfl
  · exact h.step_of_keeps rfl rfl rfl rfl rfl

theorem Inv.announce {w : World Store Cmd} {i n clientId : ℕ} {driverId : Option ℕ}
    {finalPrice : ℚ} (h : Inv o w) :
    Inv o (w.step (system env ()) i (.emit (.tripCompleted tripId driverId clientId finalPrice))
      n) := by
  refine h.step_of_keeps rfl rfl rfl rfl ?_
  simp [handlers, eventHandlers, starts, announces]

/-- A completion over any row makes the trip completed, at its price. -/
theorem Inv.complete {w : World Store Cmd} {i n : ℕ} {data : TripData} (h : Inv o w)
    (hdata : Completes o data) : Inv o (w.step (system env ()) i (.updateTrip tripId data) n) := by
  obtain ⟨trip, htrip, hrow⟩ := h.row
  have hkind : completes tripId (.did (.updateTrip tripId data)) w.store = true := by
    simp [completes, hdata.status]
  have hcompleted : (w.step (system env ()) i (.updateTrip tripId data) n).total (completes tripId) =
      w.total (completes tripId) + 1 := by
    rw [World.total_step, hkind]
    rfl
  have hcharged : (w.step (system env ()) i (.updateTrip tripId data) n).total (charges tripId) =
      w.total (charges tripId) := by
    rw [World.total_step]
    rfl
  refine ⟨⟨data.apply w.store.now trip, ?_, ?_⟩, ?_, ?_, ?_, ?_⟩
  · rw [World.store_step, system_exec, Store.find?_updateTrip, htrip, Option.map_some, if_pos rfl]
  · rw [hcompleted]
    have hlate : 0 < w.total (completes tripId) + 1 := by omega
    refine ⟨hrow.id, ?_, hrow.vehicleTypeId, hrow.estimatedPrice, fun hn => absurd hlate hn, ?_⟩
    · simp [TripData.apply, hdata.driverId, hrow.driverId]
    · intro _
      simp [TripData.apply, hdata.status, hdata.finalPrice]
  · rw [hcharged]
    exact h.driver
  · exact h.vehicleTypes
  · rw [World.total_step, World.total_step, h.started]
    rfl
  · rw [completedOnce_step, hcompleted, h.once, hkind]
    have hstatus : w.store.tripStatus tripId = some trip.status := by
      rw [Store.tripStatus, htrip, Option.map_some]
    rw [hstatus]
    constructor
    · rintro ⟨hopen, -⟩
      -- an earlier completion would have left the trip completed
      by_contra hmany
      have hearlier : 0 < w.total (completes tripId) := by omega
      exact hopen rfl (congrArg some (hrow.after hearlier).1)
    · intro hone
      have hnone : ¬ 0 < w.total (completes tripId) := by omega
      refine ⟨fun _ hdone => hrow.before hnone (Option.some.inj hdone), by omega⟩

theorem Inv.charge {w : World Store Cmd} {i n : ℕ} (h : Inv o w) :
    Inv o (w.step (system env ()) i (.chargeCommission tripId o.driver.id (o.commissionAt o.price)
      o.price.toNumber) n) := by
  obtain ⟨trip, htrip, hrow⟩ := h.row
  obtain ⟨driver, hdriver, hdue⟩ := h.driver
  set c : Cmd := .chargeCommission tripId o.driver.id (o.commissionAt o.price) o.price.toNumber
    with hc
  have hchargeable : Cmd.chargeable w.store tripId o.driver.id = true := by
    simp [Cmd.chargeable, htrip, hdriver]
  have hcompleted : (w.step (system env ()) i c n).total (completes tripId) =
      w.total (completes tripId) := by
    rw [World.total_step]
    rfl
  have hcharged : (w.step (system env ()) i c n).total (charges tripId) =
      w.total (charges tripId) + 1 := by
    rw [World.total_step]
    simp [hc, charges]
  refine ⟨⟨trip.charge (o.commissionAt o.price) w.store.now, ?_, ?_⟩,
    ⟨driver.charge (o.commissionAt o.price) o.price.toNumber, ?_, ?_⟩, ?_, ?_, ?_⟩
  · rw [World.store_step, system_exec, hc, Store.find?_chargeCommission, htrip, Option.map_some,
      if_pos ⟨hchargeable, rfl⟩]
  · rw [hcompleted]
    exact ⟨hrow.id, hrow.driverId, hrow.vehicleTypeId, hrow.estimatedPrice, hrow.before, hrow.after⟩
  · have hdrivers : (c.exec w.store).drivers.find? o.driver.id =
        (w.store.drivers.find? o.driver.id).map
          (Driver.charge (o.commissionAt o.price) o.price.toNumber) := by
      simp only [hc, Cmd.exec, hchargeable, if_true]
      exact Table.find?_update_self _ _
    rw [World.store_step, system_exec, hdrivers, hdriver, Option.map_some]
  · rw [hcharged]
    refine ⟨?_, ?_⟩
    · have hstep := Decimal2.toNumber_increment (Decimal2.exact_intCast (o.commissionAt o.price))
        driver.commissionDue
      rw [Driver.charge, hstep, hdue.commissionDue]
      push_cast
      ring
    · have hstep := Decimal2.toNumber_increment (Decimal2.exact_toNumber_sub_intCast o.price
        (o.commissionAt o.price)) driver.balance
      rw [Driver.charge, hstep, hdue.balance]
      push_cast
      ring
  · rw [World.store_step, system_exec, Cmd.exec_vehicleTypes]
    exact h.vehicleTypes
  · rw [World.total_step, World.total_step, h.started]
    rfl
  · rw [completedOnce_step, hcompleted, ← h.once]
    simp [hc, completes]

theorem Inv.step {w : World Store Cmd} {i n : ℕ} {c : Cmd} (h : Inv o w) (hguards : Guards o w c) :
    Inv o (w.step (system env ()) i c n) := by
  cases hguards with
  | neutral hc => exact h.neutral hc
  | complete hdata => exact h.complete hdata
  | announce _ => exact h.announce
  | charge => exact h.charge

theorem inv_init : Inv o ⟨s, []⟩ where
  row := by
    refine ⟨o.trip, o.find_trip, Table.key_of_find? o.find_trip, o.driverId, rfl, rfl, ?_, ?_⟩
    · exact fun _ => o.status
    · intro h
      cases h
  driver := by
    refine ⟨o.driver, o.find_driver, ?_, ?_⟩
    · simp [World.total]
    · simp [World.total]
  vehicleTypes := rfl
  started := rfl
  once := by simp [World.CompletedOnce, World.total]

/-! ### The protocol -/

/-- The trip and its driver are only written by completions and charges. -/
def protocol (env : Env) (o : OpenTrip s tripId) : Protocol (system env ()) where
  cond _ _ _ := True
  fault _ := False
  inv := Inv o
  guar _ := Guards o
  inv_step hinv _ hguards _ _ := hinv.step hguards

/-- Thread `i` has `a` completions to announce and `b` charges to make. -/
def Tally (tripId i a b : ℕ) (w : World Store Cmd) : Prop :=
  w.count i (completes tripId) = w.count i (announces tripId) + a ∧
    w.count i (starts tripId) = w.count i (charges tripId) + b

/-- What a thread that has ended leaves to do. -/
def Settled (o : OpenTrip s tripId) (i : ℕ) (w : World Store Cmd) : Prop :=
  w.count i (completes tripId) = w.count i (announces tripId) ∧
    (o.trip.estimatedPrice ≠ none → w.count i (starts tripId) = w.count i (charges tripId))

theorem Tally.settled {i : ℕ} {w : World Store Cmd} (h : Tally tripId i 0 0 w) : Settled o i w :=
  ⟨h.1, fun _ => h.2⟩

section Threads

variable {i a b : ℕ} {w : World Store Cmd}

theorem stable_tally : (protocol env o).Stable i (Tally tripId i a b) :=
  Protocol.stable_count i fun count => count (completes tripId) = count (announces tripId) + a ∧
    count (starts tripId) = count (charges tripId) + b

theorem stable_settled (r : Except Error Unit) :
    (protocol env o).Stable i ((fun i (_ : Except Error Unit) => Settled o i) i r) :=
  Protocol.stable_count i fun count => count (completes tripId) = count (announces tripId) ∧
    (o.trip.estimatedPrice ≠ none → count (starts tripId) = count (charges tripId))

/-- No command but the ones that are counted is counted. -/
theorem not_counted {c : Cmd} (hc : Neutral c) (tripId : ℕ) (s : Store) :
    completes tripId (.did c) s = false ∧ announces tripId (.did c) s = false ∧
      charges tripId (.did c) s = false := by
  rcases hc with hc | rfl | ⟨userId, rfl⟩
  · unfold Cmd.reports at hc
    split at hc <;> first | exact ⟨rfl, rfl, rfl⟩ | simp at hc
  · exact ⟨rfl, rfl, rfl⟩
  · exact ⟨rfl, rfl, rfl⟩

theorem frame_tally : (protocol env o).Frame i Neutral (Tally tripId i a b) where
  stable := stable_tally
  performs := by
    intro c w hc hw _ _
    refine ⟨.neutral hc, fun n hn _ => ?_⟩
    obtain ⟨hcompletes, hannounces, hcharges⟩ := not_counted hc tripId w.store
    rw [Tally, World.count_step_self hn, World.count_step_self hn, World.count_step_self hn,
      World.count_step_self hn, hcompletes, hannounces, hcharges]
    exact hw

/-- A completion that was written stays written. -/
theorem frame_late :
    (protocol env o).Frame i Neutral fun w => 0 < w.total (completes tripId) where
  stable := by
    rintro w _ ⟨j, c, n, -, -, -, -, -, -, -, rfl⟩ hw
    show 0 < (w.step (system env ()) j c n).total (completes tripId)
    rw [World.total_step]
    omega
  performs := by
    intro c w hc hw _ _
    refine ⟨.neutral hc, fun n _ _ => ?_⟩
    show 0 < (w.step (system env ()) i c n).total (completes tripId)
    rw [World.total_step]
    omega

theorem Tally.late (h : Tally tripId i 1 b w) : 0 < w.total (completes tripId) := by
  have hle : w.count i (completes tripId) ≤ w.total (completes tripId) := World.count_le_total
  have hwritten := h.1
  omega

theorem wp_findById_bind {α : Type} {A : World Store Cmd → Prop}
    (hA : (protocol env o).Frame i Neutral A) {f : Option Trip → Prog α}
    {Q : Except Error α → World Store Cmd → Prop} (hw : A w)
    (hf : ∀ trip v w, A v → Row o (0 < v.total (completes tripId)) trip → A w →
      (protocol env o).wp i (f (some trip)) Q w) :
    (protocol env o).wp i ((TripRepository.findById tripId).bind f) Q w := by
  unfold TripRepository.findById
  rw [Async.bind_eq, Async.bind_assoc]
  refine Protocol.wp_query_bind hA.stable hw (fun v hv hinv _ => ?_) fun _ _ hfault => hfault.elim
  have hneutral : Neutral (.findTrip tripId) := Or.inl rfl
  refine ⟨.neutral hneutral, fun n hn hfresh => ?_⟩
  obtain ⟨trip, htrip, hrow⟩ := hinv.row
  have hstep := (hA.performs hneutral hv hinv trivial).2 n hn hfresh
  rw [htrip]
  refine Protocol.wp_query_bind hA.stable hstep (fun u hu hinv' _ => ?_) fun _ _ hfault =>
    hfault.elim
  have hneutral' : Neutral (.findTripCoordinates tripId) := Or.inl rfl
  refine ⟨.neutral hneutral', fun m hm hfresh' => ?_⟩
  exact hf trip v _ hv hrow ((hA.performs hneutral' hu hinv' trivial).2 m hm hfresh')

theorem wp_update_bind {α : Type} {data : TripData} (hdata : Completes o data)
    {f : Trip → Prog α} {Q : Except Error α → World Store Cmd → Prop} (hw : Tally tripId i 0 b w)
    (hf : ∀ trip w, Tally tripId i 1 b w → (protocol env o).wp i (f trip) Q w) :
    (protocol env o).wp i ((TripRepository.update tripId data).bind f) Q w := by
  refine Protocol.wp_queryE_bind stable_tally hw (fun v hv hinv _ => ?_) fun _ _ hfault =>
    hfault.elim
  refine ⟨.complete hdata, fun n hn _ => ?_⟩
  obtain ⟨trip, htrip, -⟩ := hinv.row
  rw [htrip]
  refine hf (data.apply v.store.now trip) _ ?_
  have hcounted : completes tripId (.did (.updateTrip tripId data)) v.store = true := by
    simp [completes, hdata.status]
  rw [Tally, World.count_step_self hn, World.count_step_self hn, World.count_step_self hn,
    World.count_step_self hn, hcounted]
  exact ⟨congrArg (· + 1) hv.1, hv.2⟩

/-- The report of a completed trip announces it. -/
theorem wp_reportStatus {trip : Trip} (hrow : Row o True trip) (userId : ℕ)
    (cancelReason : Option String) (hw : Tally tripId i 1 b w) :
    (protocol env o).wp i (reportStatus (some trip) userId .completed cancelReason)
      (fun _ => Tally tripId i 0 b) w := by
  have hemit : emitStatusEvent trip userId cancelReason =
      Async.emit (.emit (.tripCompleted tripId trip.driverId trip.clientId
        ((trip.finalPrice.map Decimal2.toNumber).getD 0))) := by
    rw [emitStatusEvent, statusEvent, (hrow.after trivial).1, hrow.id]
  show (protocol env o).wp i ((emitStatusEvent trip userId cancelReason).bind fun _ =>
    (broadcastStatusEvent trip .completed cancelReason).bind fun _ => pure trip) _ w
  rw [hemit]
  refine Protocol.wp_read_bind stable_tally hw fun v hv _ _ => ?_
  refine ⟨.announce hv.late, fun n hn _ => frame_tally.wp ?_ ?_⟩
  · exact Async.Only.bind ((onlyReports_broadcastStatusEvent _ _ _).mono fun _ hc => Or.inl hc)
      fun _ => trivial
  · have hcounted : ∀ driverId clientId finalPrice, announces tripId
        (.did (.emit (.tripCompleted tripId driverId clientId finalPrice))) v.store = true := by
      simp [announces]
    rw [Tally, World.count_step_self hn, World.count_step_self hn, World.count_step_self hn,
      World.count_step_self hn, hcounted]
    exact ⟨hv.1, hv.2⟩

theorem completes_advanceData {trip : Trip} {completed : Prop} (hrow : Row o completed trip)
    (now : ℕ) : Completes o (advanceData trip .completed now) :=
  ⟨rfl, congrArg some hrow.estimatedPrice, rfl⟩

theorem wp_updateStatus (userId : ℕ) (role : UserRole) (cancelReason : Option String)
    (hw : Tally tripId i 0 0 w) :
    (protocol env o).wp i
      (TripsService.updateStatus tripId userId role { status := .completed, cancelReason })
      (fun _ => Tally tripId i 0 0) w := by
  unfold TripsService.updateStatus getTrip
  rw [Async.bind_eq, Async.bind_eq, Async.bind_assoc]
  refine wp_findById_bind frame_tally hw fun trip v w _ hrow hw => ?_
  show (protocol env o).wp i (if canTransition trip.status .completed then _ else _) _ w
  split_ifs
  · have honly : (advanceCase trip userId role .completed).Only Neutral := by
      unfold advanceCase
      split_ifs
      · trivial
      · refine Async.only_query_bind.mpr ⟨Or.inr (Or.inr ⟨userId, rfl⟩), fun _ => ?_⟩
        split_ifs
        · trivial
        · exact Async.only_read_bind.mpr ⟨Or.inr (Or.inl rfl), fun _ => trivial⟩
    have hyields : (advanceCase trip userId role .completed).Yields (Completes o) := by
      unfold advanceCase
      split_ifs
      · trivial
      · refine Async.yields_query_bind.mpr fun s => ?_
        split_ifs
        · trivial
        · exact Async.Yields.bind _ fun now => completes_advanceData hrow now
    refine frame_tally.wp_bind_yields honly hyields hw (fun data w hdata hw => ?_) fun _ _ hw => hw
    unfold TripRepository.updateStatus
    rw [Async.bind_eq, Async.bind_eq, Async.bind_assoc]
    refine wp_update_bind hdata hw fun _ w hw => ?_
    refine wp_findById_bind frame_tally hw fun trip v w hv hrow hw => ?_
    exact wp_reportStatus (by rwa [eq_true hv.late] at hrow) userId cancelReason hw
  · exact hw

theorem wp_completeTrip (userId : ℕ) (role : UserRole) (dto : PaymentReceivedDto)
    (hw : Tally tripId i 0 0 w) :
    (protocol env o).wp i (TripsService.completeTrip tripId userId role dto)
      (fun _ => Tally tripId i 0 0) w := by
  unfold TripsService.completeTrip
  split_ifs
  · exact hw
  unfold getTrip
  rw [Async.bind_eq, Async.bind_eq, Async.bind_assoc]
  refine wp_findById_bind frame_tally hw fun trip v w _ hrow hw => ?_
  refine frame_tally.wp_bind (Async.only_query.mpr (Or.inr (Or.inr ⟨userId, rfl⟩))) hw
    (fun driver w hw => ?_) fun _ _ hw => hw
  split_ifs
  · exact hw
  · exact hw
  · refine frame_tally.wp_bind (Async.only_read.mpr (Or.inr (Or.inl rfl))) hw (fun now w hw => ?_)
      fun _ _ hw => hw
    refine wp_update_bind ⟨rfl, congrArg some hrow.estimatedPrice, rfl⟩ hw fun _ w hw => ?_
    rw [Async.bind_eq, Async.bind_assoc]
    refine wp_findById_bind frame_tally hw fun trip v w hv hrow hw => ?_
    exact wp_reportStatus (by rwa [eq_true hv.late] at hrow) userId none hw
  · exact hw

/-- The handler charges what the completed row says. -/
theorem wp_handleTripCompleted (hw : Tally tripId i 0 1 w ∧ 0 < w.total (completes tripId)) :
    (protocol env o).wp i (CommissionsService.handleTripCompleted tripId)
      (fun _ => Settled o i) w := by
  refine Protocol.wp_query_bind (frame_tally.and frame_late).stable hw (fun v hv hinv _ => ?_)
    fun _ _ hfault => hfault.elim
  have hneutral : Neutral (.findTrip tripId) := Or.inl rfl
  refine ⟨.neutral hneutral, fun n hn hfresh => ?_⟩
  obtain ⟨hstep, -⟩ := ((frame_tally.and frame_late).performs hneutral hv hinv trivial).2 n hn hfresh
  obtain ⟨trip, htrip, hrow⟩ := hinv.row
  have hvehicleType : v.store.vehicleTypes.find? trip.vehicleTypeId = some o.vehicleType := by
    rw [hinv.vehicleTypes, hrow.vehicleTypeId, o.find_vehicleType]
  rw [htrip]
  dsimp only [Option.map_some]
  rw [hrow.driverId, (hrow.after hv.2).2, hvehicleType]
  cases hprice : o.trip.estimatedPrice with
  | none => exact ⟨hstep.1, fun h => absurd hprice h⟩
  | some price =>
    have hcharge : o.price = price := by rw [OpenTrip.price, hprice, Option.getD_some]
    dsimp only
    refine Protocol.wp_queryE stable_tally hstep (fun u hu _ _ => ?_) fun _ _ hfault => hfault.elim
    rw [hrow.id, ← hcharge]
    refine ⟨.charge, fun m hm _ => ?_⟩
    have hcounted : charges tripId (.did (.chargeCommission tripId o.driver.id
        (o.commissionAt o.price) o.price.toNumber)) u.store = true := by
      simp [charges]
    have htally : Tally tripId i 0 0 (u.step (system env ()) i (.chargeCommission tripId o.driver.id
        (o.commissionAt o.price) o.price.toNumber) m) := by
      rw [Tally, World.count_step_self hm, World.count_step_self hm, World.count_step_self hm,
        World.count_step_self hm, hcounted]
      exact ⟨hu.1, hu.2⟩
    exact htally.settled

theorem wp_program (call : CompletionCall) (hw : Tally tripId i 0 0 w) :
    (protocol env o).wp i (call.program tripId) (fun _ => Settled o i) w := by
  have has : ∀ {p : Prog Trip}, (protocol env o).wp i p (fun _ => Tally tripId i 0 0) w →
      (protocol env o).wp i (p.as ()) (fun _ => Settled o i) w := by
    intro p hp
    apply Protocol.wp_bind
    refine Protocol.wp_mono (fun r w hw => ?_) hp
    cases r <;> exact hw.settled
  cases call with
  | completeTrip userId role dto => exact has (wp_completeTrip userId role dto hw)
  | updateStatus userId role cancelReason => exact has (wp_updateStatus userId role cancelReason hw)

theorem handlers_of_neutral {c : Cmd} (hc : Neutral c) : handlers env () c = [] := by
  rcases hc with hc | rfl | ⟨userId, rfl⟩
  · unfold Cmd.reports at hc
    split at hc <;> first | rfl | simp at hc
  · rfl
  · rfl

/-- The handler that is started owes a charge. -/
theorem handlersKeep : (protocol env o).HandlersKeep fun i _ => Settled o i := by
  intro c k h hk j n w hinv _ hguards hj hfresh
  cases hguards with
  | neutral hc => simp [handlers_of_neutral hc] at hk
  | complete _ => simp [handlers] at hk
  | charge => simp [handlers] at hk
  | @announce driverId clientId finalPrice hcompleted =>
    set c : Cmd := .emit (.tripCompleted tripId driverId clientId finalPrice) with hc
    have hlength : (handlers env () c).length = 1 := rfl
    obtain ⟨hlt, hget⟩ := List.getElem?_eq_some_iff.mp hk
    have hk0 : k = 0 := by
      rw [system_handlers, hlength] at hlt
      omega
    subst hk0
    obtain rfl : _ = h := hget
    have htally : Tally tripId (n + 0) 0 1 (w.step (system env ()) j c n) := by
      rw [Tally, hfresh.count_started hj hlt, hfresh.count_started hj hlt,
        hfresh.count_started hj hlt, hfresh.count_started hj hlt]
      simp [hc, completes, announces, starts, charges]
    have hlate : 0 < (w.step (system env ()) j c n).total (completes tripId) := by
      rw [World.total_step]
      omega
    show (protocol env o).wp (n + 0) ((CommissionsService.handleTripCompleted tripId).as ()) _ _
    apply Protocol.wp_bind
    refine Protocol.wp_mono (fun r w hw => ?_) (wp_handleTripCompleted ⟨htally, hlate⟩)
    cases r <;> exact hw

theorem safe_init (o : OpenTrip s tripId) (calls : List CompletionCall) :
    (protocol env o).Safe (fun i _ => Settled o i)
      (Pool.init s (calls.map (·.program tripId))) := by
  refine Protocol.safe_init inv_init fun i t ht => ?_
  obtain ⟨call, -, rfl⟩ := List.mem_map.mp (List.mem_of_getElem? ht)
  exact wp_program call ⟨rfl, rfl⟩

/-- When all have ended, every completion was charged. -/
theorem charges_eq_completions {q : Pool Store Cmd Error Unit}
    (h : (protocol env o).Safe (fun i _ => Settled o i) q) (hfin : q.Finished)
    (hprice : o.trip.estimatedPrice ≠ none) :
    q.world.total (charges tripId) = q.world.total (completes tripId) := by
  have hsettled : ∀ i, Settled o i q.world := by
    intro i
    by_cases hi : i < q.threads.length
    · obtain ⟨_, hpost⟩ := h.post_of_finished hfin hi
      exact hpost
    · have hzero : ∀ p, q.world.count i p = 0 := fun p => h.fresh.count (not_lt.mp hi)
      exact ⟨by rw [hzero, hzero], fun _ => by rw [hzero, hzero]⟩
  have hannounced : q.world.total (completes tripId) = q.world.total (announces tripId) :=
    World.total_eq_of_count_eq fun i => (hsettled i).1
  have hcharged : q.world.total (starts tripId) = q.world.total (charges tripId) :=
    World.total_eq_of_count_eq fun i => (hsettled i).2 hprice
  rw [← hcharged, h.inv.started, hannounced]

/-- The driver of the completed trip was charged `n` times. -/
theorem chargedOnce_iff {t : Store} {trip : Trip} {driver : Driver} {n : ℕ}
    (htrip : t.trips.find? tripId = some trip) (hprice : trip.finalPrice.getD 0 = o.price)
    (hdriver : t.drivers.find? o.driver.id = some driver) (hcharged : Charged o n driver) :
    o.ChargedOnce t ↔ (n : ℚ) * o.commissionAt o.price = o.commissionAt o.price ∧
      n * (o.price.toNumber - o.commissionAt o.price) =
        o.price.toNumber - o.commissionAt o.price := by
  constructor
  · rintro ⟨trip', driver', htrip', hdriver', hdue, hbalance⟩
    obtain rfl := Option.some.inj (htrip.symm.trans htrip')
    obtain rfl := Option.some.inj (hdriver.symm.trans hdriver')
    rw [hprice, hcharged.commissionDue] at hdue
    rw [hprice, hcharged.balance] at hbalance
    exact ⟨by linarith, by linarith⟩
  · rintro ⟨hdue, hbalance⟩
    refine ⟨trip, driver, htrip, hdriver, ?_, ?_⟩
    · rw [hprice, hcharged.commissionDue, hdue]
    · rw [hprice, hcharged.balance, hbalance]

theorem commissionAt_zero : o.commissionAt 0 = 0 := by
  simp [OpenTrip.commissionAt, commissionOf, mathRound, Decimal2.toNumber]
  norm_num

/-- A number of charges amounts to one charge, if it is one or the price is zero. -/
theorem mul_eq_charge_iff {n : ℕ} {price : Decimal2} :
    ((n : ℚ) * o.commissionAt price = o.commissionAt price ∧
      n * (price.toNumber - o.commissionAt price) = price.toNumber - o.commissionAt price) ↔
        n = 1 ∨ price = 0 := by
  constructor
  · rintro ⟨hdue, hbalance⟩
    by_cases hn : n = 1
    · exact Or.inl hn
    · have hne : (n : ℚ) - 1 ≠ 0 := by
        rw [sub_ne_zero]
        exact_mod_cast hn
      have hprice : ((n : ℚ) - 1) * price.toNumber = 0 := by linarith
      have hzero : price.toNumber = 0 := (mul_eq_zero.mp hprice).resolve_left hne
      have hcents : (price : ℚ) = 0 := by
        rw [Decimal2.toNumber] at hzero
        linarith
      exact Or.inr (by exact_mod_cast hcents)
  · rintro (rfl | rfl)
    · simp
    · rw [commissionAt_zero]
      simp [Decimal2.toNumber]

end Threads

end Charging

namespace Charging

/-- Driver 1 (user 11) is on a trip of 2000, at ten percent. -/
def startedStore : Store where
  drivers := .single ⟨1, 11, 0, 0⟩
  vehicleTypes := .single ⟨1, 1000⟩
  trips :=
    .single { id := 1, clientId := 20, driverId := some 1, vehicleTypeId := 1, serviceType := .ride
              status := .inProgress, pickupLocation := ⟨0, 0⟩, dropoffLocation := ⟨0, 0⟩
              estimatedPrice := some 200000, createdAt := 0, updatedAt := 0 }

def startedTrip : OpenTrip startedStore 1 where
  trip :=
    { id := 1, clientId := 20, driverId := some 1, vehicleTypeId := 1, serviceType := .ride
      status := .inProgress, pickupLocation := ⟨0, 0⟩, dropoffLocation := ⟨0, 0⟩
      estimatedPrice := some 200000, createdAt := 0, updatedAt := 0 }
  driver := ⟨1, 11, 0, 0⟩
  vehicleType := ⟨1, 1000⟩
  find_trip := rfl
  driverId := rfl
  find_driver := rfl
  find_vehicleType := rfl
  status := by decide

/-- The driver's app sends both requests. -/
def bothComplete : List CompletionCall :=
  [.completeTrip 11 .driver { amount := 2000 }, .updateStatus 11 .driver none]

instance (w : World Store Cmd) (tripId : ℕ) : Decidable (w.CompletedOnce tripId) :=
  inferInstanceAs (Decidable (∀ e ∈ w.trace, _ → _))

end Charging

end Telima
