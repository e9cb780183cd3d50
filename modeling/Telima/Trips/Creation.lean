import Telima.Async.Failure
import Telima.Trips.Completeness
import Telima.Trips.Rejections

/-!
# The creation of a trip, with its details

`createTrip` inserts the row of the trip and the row of its details one after the other, and a details
row can hold values its columns do not take: the validators let any weight and any number of
passengers from one on pass.  The trip is then left behind (`creation_all_or_nothing_iff`).  On the
values the columns take, this is the `createTrip` of `TripsService` (`createTrip_refines`).
-/

namespace Telima.Creation

/-- `CreateTripDto` with everything `createTrip` stores. -/
structure CreateTripDto extends Telima.CreateTripDto where
  pickupAddress : String
  dropoffAddress : String
  recipientName : Option String := none
  recipientPhone : Option String := none
  parcelDescription : Option String := none
  parcelWeightKg : Option ℚ := none
  parcelDimensions : Option String := none
  isFragile : Option Bool := none
  passengerCount : Option ℚ := none
  notes : Option String := none

/-- The validators of the fields: `@Min(1)` of `passengerCount` is the only one that says more than
the type of the field. -/
def CreateTripDto.isValid (dto : CreateTripDto) : Bool :=
  dto.passengerCount.all fun n => decide (1 ≤ n)

/-! ### What the columns take -/

/-- A text column does not take the character with code zero. -/
def fitsText (s : String) : Bool := !s.toList.contains (Char.ofNat 0)

/-- A column `Decimal(precision, 2)` takes what has at most `precision` digits when it is rounded. -/
def fitsDecimal (precision : ℕ) (q : ℚ) : Bool := decide (|Decimal2.ofNumber q| < 10 ^ precision)

/-- A column `Int` takes the integers of 32 bits. -/
def fitsInt (q : ℚ) : Bool :=
  decide (q.den = 1) && decide (-2147483648 ≤ q.num) && decide (q.num ≤ 2147483647)

/-- The columns `insertWithGeometry` gives. -/
structure CreateTripData extends Telima.CreateTripData where
  pickupAddress : String
  dropoffAddress : String

def CreateTripData.fits (data : CreateTripData) : Bool :=
  fitsText data.pickupAddress && fitsText data.dropoffAddress && fitsDecimal 10 data.estimatedPrice &&
    fitsInt data.distanceMeters && fitsInt data.durationSeconds

structure CreateDeliveryDetailsData where
  tripId : ℕ
  recipientName : String
  recipientPhone : String
  parcelDescription : Option String
  parcelWeightKg : Option ℚ
  parcelDimensions : Option String
  isFragile : Bool
  notes : Option String

def CreateDeliveryDetailsData.fits (data : CreateDeliveryDetailsData) : Bool :=
  fitsText data.recipientName && fitsText data.recipientPhone && data.parcelDescription.all fitsText &&
    data.parcelWeightKg.all (fitsDecimal 5) && data.parcelDimensions.all fitsText &&
    data.notes.all fitsText

structure CreateRideDetailsData where
  tripId : ℕ
  passengerCount : ℚ
  notes : Option String

def CreateRideDetailsData.fits (data : CreateRideDetailsData) : Bool :=
  fitsInt data.passengerCount && data.notes.all fitsText

/-! ### The tables -/

structure DeliveryDetails where
  tripId : ℕ
  recipientName : String
  recipientPhone : String
  parcelDescription : Option String
  parcelWeightKg : Option Decimal2
  parcelDimensions : Option String
  isFragile : Bool
  notes : Option String
  createdAt : ℕ

structure RideDetails where
  tripId : ℕ
  passengerCount : ℤ
  notes : Option String
  createdAt : ℕ

/-- The inserted row. -/
def CreateDeliveryDetailsData.row (data : CreateDeliveryDetailsData) (now : ℕ) : DeliveryDetails where
  tripId := data.tripId
  recipientName := data.recipientName
  recipientPhone := data.recipientPhone
  parcelDescription := data.parcelDescription
  parcelWeightKg := data.parcelWeightKg.map Decimal2.ofNumber
  parcelDimensions := data.parcelDimensions
  isFragile := data.isFragile
  notes := data.notes
  createdAt := now

/-- The inserted row. -/
def CreateRideDetailsData.row (data : CreateRideDetailsData) (now : ℕ) : RideDetails where
  tripId := data.tripId
  passengerCount := data.passengerCount.num
  notes := data.notes
  createdAt := now

/-- The store with the two tables of details. -/
structure Store where
  base : Telima.Store
  deliveryDetails : Table ℕ DeliveryDetails DeliveryDetails.tripId := .empty
  rideDetails : Table ℕ RideDetails RideDetails.tripId := .empty

inductive Cmd where
  | base (c : Telima.Cmd)
  | insertTrip (data : CreateTripData)
  | createDeliveryDetails (data : CreateDeliveryDetailsData)
  | createRideDetails (data : CreateRideDetailsData)

namespace Store

/-- The row of a trip is accepted. -/
def acceptsTrip (s : Store) (data : CreateTripData) : Bool :=
  data.fits && (s.base.vehicleTypes.find? data.vehicleTypeId).isSome

/-- A trip has at most one row of details. -/
def acceptsDelivery (s : Store) (data : CreateDeliveryDetailsData) : Bool :=
  data.fits && (s.deliveryDetails.find? data.tripId).isNone

def acceptsRide (s : Store) (data : CreateRideDetailsData) : Bool :=
  data.fits && (s.rideDetails.find? data.tripId).isNone

end Store

/-- The effect of a command; a row that is not accepted is not inserted. -/
def Cmd.exec : Cmd → Store → Store
  | base c, s => { s with base := c.exec s.base }
  | insertTrip data, s =>
    { s with
      base := if s.acceptsTrip data then (Telima.Cmd.insertTrip data.toCreateTripData).exec s.base
        else s.base }
  | createDeliveryDetails data, s =>
    { s with
      deliveryDetails := if s.acceptsDelivery data then
          s.deliveryDetails.insert (data.row s.base.now)
        else s.deliveryDetails }
  | createRideDetails data, s =>
    { s with
      rideDetails := if s.acceptsRide data then s.rideDetails.insert (data.row s.base.now)
        else s.rideDetails }

abbrev Prog (α : Type) : Type := Async Store Cmd Error α

/-- A function that uses the other tables only. -/
def lift {α : Type} (p : Telima.Prog α) : Prog α := p.embed Store.base Cmd.base

namespace TripRepository

def insertWithGeometry (data : CreateTripData) : Prog ℕ :=
  Async.queryE (.insertTrip data) fun s =>
    if s.acceptsTrip data then .ok s.base.trips.freshKey else .error .validation

def createDeliveryDetails (data : CreateDeliveryDetailsData) : Prog Unit :=
  Async.queryE (.createDeliveryDetails data) fun s =>
    if s.acceptsDelivery data then .ok () else .error .validation

def createRideDetails (data : CreateRideDetailsData) : Prog Unit :=
  Async.queryE (.createRideDetails data) fun s =>
    if s.acceptsRide data then .ok () else .error .validation

end TripRepository

/-- The columns of the trip's row. -/
def tripData (clientId : ℕ) (dto : CreateTripDto) (priceResult : PriceResult) : CreateTripData where
  clientId := clientId
  vehicleTypeId := dto.vehicleTypeId
  serviceType := dto.serviceType
  pickupLocation := dto.pickup
  dropoffLocation := dto.dropoff
  estimatedPrice := priceResult.estimatedPrice
  distanceMeters := priceResult.distanceMeters
  durationSeconds := priceResult.durationSeconds
  pickupAddress := dto.pickupAddress
  dropoffAddress := dto.dropoffAddress

def deliveryData (tripId : ℕ) (dto : CreateTripDto) : CreateDeliveryDetailsData where
  tripId := tripId
  recipientName := dto.recipientName.getD ""
  recipientPhone := dto.recipientPhone.getD ""
  parcelDescription := dto.parcelDescription
  parcelWeightKg := dto.parcelWeightKg
  parcelDimensions := dto.parcelDimensions
  isFragile := dto.isFragile.getD false
  notes := dto.notes

def rideData (tripId : ℕ) (dto : CreateTripDto) : CreateRideDetailsData where
  tripId := tripId
  passengerCount := dto.passengerCount.getD 1
  notes := dto.notes

/-- The row of the service's details, where it has one. -/
def createDetails (tripId : ℕ) (dto : CreateTripDto) : Prog Unit :=
  match dto.serviceType with
  | .delivery | .food => TripRepository.createDeliveryDetails (deliveryData tripId dto)
  | .ride | .intercity => TripRepository.createRideDetails (rideData tripId dto)
  | .assistance => pure ()

def createTrip (pricing : PricingEnv) (clientId : ℕ) (dto : CreateTripDto) : Prog Trip := do
  let priceResult ← lift (Async.queryE .external
    (pricing.calculatePrice dto.serviceType dto.vehicleTypeId dto.pickup dto.dropoff))
  let tripId ← TripRepository.insertWithGeometry (tripData clientId dto priceResult)
  createDetails tripId dto
  let trip ← lift (TripsService.getTrip tripId)
  Async.emit (.base (.emit (.tripCreated trip.id dto.pickup dto.serviceType dto.vehicleTypeId)))
  pure trip

/-! ### All or nothing -/

/-- No row was added, and no trip was announced. -/
structure NothingAdded (s : Store) (o : Outcome Store Cmd Error Trip) : Prop where
  trips : o.store.base.trips = s.base.trips
  deliveryDetails : o.store.deliveryDetails = s.deliveryDetails
  rideDetails : o.store.rideDetails = s.rideDetails
  silent : ∀ tripId pickup serviceType vehicleTypeId,
    .base (.emit (.tripCreated tripId pickup serviceType vehicleTypeId)) ∉ o.cmds

/-- A request that throws has added nothing. -/
def AllOrNothing (s : Store) (o : Outcome Store Cmd Error Trip) : Prop :=
  (∃ e, o.result = .error e) → NothingAdded s o

/-- What the pricing answers. -/
def priceOf (pricing : PricingEnv) (dto : CreateTripDto) (s : Store) : Except Error PriceResult :=
  pricing.calculatePrice dto.serviceType dto.vehicleTypeId dto.pickup dto.dropoff s.base

/-- The trip is priced, and its row is accepted. -/
def inserts (pricing : PricingEnv) (clientId : ℕ) (dto : CreateTripDto) (s : Store) : Bool :=
  match priceOf pricing dto s with
  | .error _ => false
  | .ok priceResult => s.acceptsTrip (tripData clientId dto priceResult)

/-- The row of the trip's details is accepted. -/
def acceptsDetails (tripId : ℕ) (dto : CreateTripDto) (s : Store) : Bool :=
  match dto.serviceType with
  | .delivery | .food => s.acceptsDelivery (deliveryData tripId dto)
  | .ride | .intercity => s.acceptsRide (rideData tripId dto)
  | .assistance => true

/-- What follows the insert of the trip. -/
def finish (tripId : ℕ) (dto : CreateTripDto) : Prog Trip :=
  (createDetails tripId dto).bind fun _ => (lift (TripsService.getTrip tripId)).bind fun trip =>
    (Async.emit (.base (.emit
      (.tripCreated trip.id dto.pickup dto.serviceType dto.vehicleTypeId)))).bind fun _ => pure trip

section Runs

variable {pricing : PricingEnv} {clientId tripId : ℕ} {dto : CreateTripDto} {s t : Store}

theorem createTrip_eq : createTrip pricing clientId dto =
    (Async.queryE (.base .external) (priceOf pricing dto)).bind fun priceResult =>
      (TripRepository.insertWithGeometry (tripData clientId dto priceResult)).bind fun tripId =>
        finish tripId dto := rfl

theorem propagates_finish : (finish tripId dto).Propagates := by
  have hdetails : (createDetails tripId dto).Propagates := by
    unfold createDetails
    split
    · exact Async.propagates_queryE _ _
    · exact Async.propagates_queryE _ _
    · exact Async.propagates_queryE _ _
    · exact Async.propagates_queryE _ _
    · trivial
  have hget : (TripsService.getTrip tripId).Propagates := by
    refine Async.Propagates.bind (Async.Propagates.bind (Async.propagates_query _ _) fun trip => ?_)
      fun trip => ?_
    · cases trip with
      | none => trivial
      | some trip => exact (Async.propagates_query _ _).bind fun _ => Async.propagates_done _
    · cases trip <;> trivial
  refine hdetails.bind fun _ => hget.embed.bind fun trip => ?_
  exact (Async.propagates_emit _).bind fun _ => Async.propagates_done _

/-- The command does not touch the trips. -/
def Cmd.keepsTrips : Cmd → Prop
  | .base c => c.keepsTrips = true
  | .insertTrip _ => False
  | .createDeliveryDetails _ | .createRideDetails _ => True

theorem Cmd.exec_trips {c : Cmd} (hc : c.keepsTrips) : (c.exec s).base.trips = s.base.trips := by
  cases c with
  | base c => exact Telima.Cmd.exec_trips hc
  | insertTrip data => exact hc.elim
  | createDeliveryDetails data => rfl
  | createRideDetails data => rfl

theorem keepsTrips_finish : (finish tripId dto).Only Cmd.keepsTrips := by
  have hdetails : (createDetails tripId dto).Only Cmd.keepsTrips := by
    unfold createDetails
    split
    · exact Async.only_queryE.mpr trivial
    · exact Async.only_queryE.mpr trivial
    · exact Async.only_queryE.mpr trivial
    · exact Async.only_queryE.mpr trivial
    · trivial
  have hget : (lift (TripsService.getTrip tripId)).Only Cmd.keepsTrips :=
    (TripsService.onlyReports_getTrip tripId).embed fun c hc => Telima.Cmd.keepsTrips_of_reports hc
  refine hdetails.bind fun _ => hget.bind fun trip => ?_
  exact Async.only_emit_bind.mpr ⟨rfl, fun _ => trivial⟩

/-- The details are inserted when their row is accepted; the other tables stay. -/
theorem run_createDetails (tripId : ℕ) (dto : CreateTripDto) (s : Store) :
    (((createDetails tripId dto).run Cmd.exec s).result =
        if acceptsDetails tripId dto s then .ok () else .error .validation) ∧
      ((createDetails tripId dto).run Cmd.exec s).store.base = s.base := by
  unfold createDetails acceptsDetails
  cases dto.serviceType <;> exact ⟨rfl, rfl⟩

/-- The trip is read again. -/
theorem run_lift_getTrip {trip : Trip} (htrip : s.base.trips.find? tripId = some trip) :
    ((lift (TripsService.getTrip tripId)).run Cmd.exec s).result = .ok trip ∧
      ((lift (TripsService.getTrip tripId)).run Cmd.exec s).store.base = s.base ∧
      ((lift (TripsService.getTrip tripId)).run Cmd.exec s).cmds =
        [.base (.findTrip tripId), .base (.findTripCoordinates tripId)] := by
  have hget := TripsService.run_getTrip_bind htrip fun trip => .done (.ok trip)
  rw [Async.bind_pure] at hget
  have hembed := Async.run_embed Telima.Cmd.exec Cmd.exec Store.base Cmd.base (fun _ _ => rfl)
    (TripsService.getTrip tripId) s
  rw [hget] at hembed
  exact hembed

theorem run_finish_of_accepts {trip : Trip} (htrip : s.base.trips.find? tripId = some trip)
    (haccepts : acceptsDetails tripId dto s = true) :
    ((finish tripId dto).run Cmd.exec s).result = .ok trip ∧
      ((finish tripId dto).run Cmd.exec s).store.base = s.base ∧
      ((finish tripId dto).run Cmd.exec s).cmds =
        ((createDetails tripId dto).run Cmd.exec s).cmds ++
          ([.base (.findTrip tripId), .base (.findTripCoordinates tripId)] ++
            [.base (.emit (.tripCreated trip.id dto.pickup dto.serviceType dto.vehicleTypeId))]) := by
  obtain ⟨hdetails, hbase⟩ := run_createDetails tripId dto s
  rw [haccepts] at hdetails
  rw [← hbase] at htrip
  obtain ⟨hresult, hstore, hcmds⟩ := run_lift_getTrip htrip
  rw [finish, Async.run_bind_of_ok Cmd.exec hdetails, Async.run_bind_of_ok Cmd.exec hresult,
    Async.run_emit_bind]
  refine ⟨rfl, hstore.trans hbase, ?_⟩
  rw [Outcome.cmds_after, Outcome.cmds_after, hcmds]
  rfl

theorem run_finish_of_not (haccepts : acceptsDetails tripId dto s = false) :
    ((finish tripId dto).run Cmd.exec s).result = .error .validation := by
  obtain ⟨hdetails, -⟩ := run_createDetails tripId dto s
  rw [haccepts] at hdetails
  rw [finish, Async.run_bind_of_error Cmd.exec hdetails]

/-- The store after the insert of the trip. -/
def inserted (data : CreateTripData) (s : Store) : Store :=
  (Cmd.insertTrip data).exec ((Cmd.base .external).exec s)

theorem find?_inserted {data : CreateTripData} (h : s.acceptsTrip data = true) :
    ((inserted data s).base.trips.find? s.base.trips.freshKey).isSome = true := by
  have hfresh : s.base.trips.find? s.base.trips.freshKey = none := Table.find?_freshKey _
  have hvehicle : (s.base.vehicleTypes.find? data.vehicleTypeId).isSome = true := by
    rw [Store.acceptsTrip, Bool.and_eq_true] at h
    exact h.2
  have hinsert : (inserted data s).base =
      (Telima.Cmd.insertTrip data.toCreateTripData).exec (Telima.Cmd.external.exec s.base) :=
    if_pos h
  rw [hinsert, Telima.Store.find?_insertTrip]
  have hread : (Telima.Cmd.external.exec s.base).trips = s.base.trips := rfl
  rw [hread, hfresh, Option.none_or, if_pos ⟨hvehicle, rfl⟩]
  rfl

theorem exec_insertTrip_of_not {data : CreateTripData} (h : s.acceptsTrip data = false) :
    (Cmd.insertTrip data).exec s = s := by
  have hbase : (if s.acceptsTrip data then
      (Telima.Cmd.insertTrip data.toCreateTripData).exec s.base else s.base) = s.base :=
    if_neg (by rw [h]; exact Bool.false_ne_true)
  rw [Cmd.exec, hbase]

/-- The question for the price adds nothing. -/
theorem nothingAdded_of_priced {o : Outcome Store Cmd Error Trip}
    (hstore : o.store = (Cmd.base .external).exec s) (hsilent : ∀ tripId pickup serviceType vehicleTypeId,
      .base (.emit (.tripCreated tripId pickup serviceType vehicleTypeId)) ∉ o.cmds) :
    NothingAdded s o := by
  constructor
  · rw [hstore]
    rfl
  · rw [hstore]
    rfl
  · rw [hstore]
    rfl
  · exact hsilent

/-- A request that is rejected before the details are inserted. -/
theorem nothingAdded_of_lt {k : ℕ} (hk : k < 2) {e : Error} {o : Outcome Store Cmd Error Trip}
    (ho : (createTrip pricing clientId dto).runReject Cmd.exec e k s = some o) :
    NothingAdded s o := by
  rw [createTrip_eq] at ho
  match k, hk with
  | 0, _ =>
    obtain rfl := Option.some.inj ho
    exact ⟨rfl, rfl, rfl, by simp⟩
  | 1, _ =>
    rw [Async.runReject_queryE_bind_succ] at ho
    cases hprice : priceOf pricing dto s with
    | error e' =>
      rw [hprice] at ho
      cases ho
    | ok priceResult =>
      rw [hprice] at ho
      obtain rfl := Option.some.inj ho
      exact nothingAdded_of_priced rfl (by simp)

/-- Nothing is added when the trip is not inserted. -/
theorem nothingAdded_of_not (hinserts : inserts pricing clientId dto s = false)
    {failure : Option (ℕ × Error)} {o : Outcome Store Cmd Error Trip}
    (ho : (createTrip pricing clientId dto).runFailing Cmd.exec failure s = some o) :
    NothingAdded s o := by
  unfold inserts at hinserts
  match failure with
  | some (0, e) =>
    rw [Async.runFailing] at ho
    exact nothingAdded_of_lt (Nat.zero_lt_succ 1) ho
  | some (1, e) =>
    rw [Async.runFailing] at ho
    exact nothingAdded_of_lt (Nat.lt_succ_self 1) ho
  | none =>
    obtain rfl := Option.some.inj ho
    rw [createTrip_eq, Async.run_queryE_bind]
    cases hprice : priceOf pricing dto s with
    | error e => exact nothingAdded_of_priced rfl (by simp)
    | ok priceResult =>
      rw [hprice] at hinserts
      have hrejected : ((Cmd.base .external).exec s).acceptsTrip
          (tripData clientId dto priceResult) = false := hinserts
      rw [Async.done_ok_bind, TripRepository.insertWithGeometry, Async.run_queryE_bind, hrejected,
        exec_insertTrip_of_not hrejected]
      exact nothingAdded_of_priced rfl (by simp)
  | some (k + 2, e) =>
    -- the run is over before its third call
    have hrun : (createTrip pricing clientId dto).runReject Cmd.exec e (k + 2) s = none := by
      rw [createTrip_eq, Async.runReject_queryE_bind_succ]
      cases hprice : priceOf pricing dto s with
      | error e' => rfl
      | ok priceResult =>
        rw [hprice] at hinserts
        have hrejected : ((Cmd.base .external).exec s).acceptsTrip
            (tripData clientId dto priceResult) = false := hinserts
        rw [Async.done_ok_bind, TripRepository.insertWithGeometry,
          Async.runReject_queryE_bind_succ, hrejected]
        rfl
    rw [Async.runFailing, hrun] at ho
    cases ho

/-- What follows the insert of the trip. -/
theorem run_createTrip (hinserts : inserts pricing clientId dto s = true) :
    ∃ priceResult data, priceOf pricing dto s = .ok priceResult ∧
      data = tripData clientId dto priceResult ∧ s.acceptsTrip data = true ∧
      (createTrip pricing clientId dto).run Cmd.exec s =
        ((finish s.base.trips.freshKey dto).run Cmd.exec (inserted data s)).after
          [.base .external, .insertTrip data] ∧
      ∀ e k, (createTrip pricing clientId dto).runReject Cmd.exec e (k + 2) s =
        ((finish s.base.trips.freshKey dto).runReject Cmd.exec e k (inserted data s)).map
          (Outcome.after [.base .external, .insertTrip data]) := by
  unfold inserts at hinserts
  cases hprice : priceOf pricing dto s with
  | error e =>
    rw [hprice] at hinserts
    cases hinserts
  | ok priceResult =>
    rw [hprice] at hinserts
    have haccepts : ((Cmd.base .external).exec s).acceptsTrip (tripData clientId dto priceResult) =
        true := hinserts
    refine ⟨priceResult, tripData clientId dto priceResult, rfl, rfl, hinserts, ?_, fun e k => ?_⟩
    · rw [createTrip_eq, Async.run_queryE_bind, hprice, Async.done_ok_bind,
        TripRepository.insertWithGeometry, Async.run_queryE_bind, if_pos haccepts]
      rfl
    · rw [createTrip_eq, Async.runReject_queryE_bind_succ, hprice, Async.done_ok_bind,
        TripRepository.insertWithGeometry, Async.runReject_queryE_bind_succ, if_pos haccepts,
        Option.map_map]
      rfl

theorem acceptsDetails_inserted (data : CreateTripData) :
    acceptsDetails tripId dto (inserted data s) = acceptsDetails tripId dto s := by
  unfold acceptsDetails
  cases dto.serviceType <;> rfl

/-- The row of the trip stays in the table. -/
theorem not_nothingAdded {data : CreateTripData} (h : s.acceptsTrip data = true)
    {o : Outcome Store Cmd Error Trip}
    (ho : o.store.base.trips = (inserted data s).base.trips) : ¬NothingAdded s o := by
  intro hadded
  have hfound := find?_inserted h
  rw [← ho, hadded.trips, Table.find?_freshKey] at hfound
  exact Bool.false_ne_true hfound

/-- Something is left behind exactly when the row of the trip is inserted, and then a later call is
rejected or the row of the details is not accepted. -/
theorem creation_all_or_nothing_iff (pricing : PricingEnv) (clientId : ℕ) (dto : CreateTripDto)
    (s : Store) (failure : Option (ℕ × Error)) (o : Outcome Store Cmd Error Trip)
    (ho : (createTrip pricing clientId dto).runFailing Cmd.exec failure s = some o) :
    AllOrNothing s o ↔
      inserts pricing clientId dto s = false ∨ (∃ k e, failure = some (k, e) ∧ k < 2) ∨
        (failure = none ∧ acceptsDetails s.base.trips.freshKey dto s = true) := by
  cases hinserts : inserts pricing clientId dto s with
  | false => exact iff_of_true (fun _ => nothingAdded_of_not hinserts ho) (.inl rfl)
  | true =>
    obtain ⟨_, data, -, -, haccepts, hrun, hreject⟩ := run_createTrip hinserts
    have hkept : ∀ (c : Cmd) (t : Store), c.keepsTrips →
        t.base.trips = (inserted data s).base.trips →
          (c.exec t).base.trips = (inserted data s).base.trips :=
      fun c t hc ht => (Cmd.exec_trips hc).trans ht
    match failure with
    | none =>
      rw [Async.runFailing, hrun] at ho
      obtain rfl := Option.some.inj ho
      cases hdetails : acceptsDetails s.base.trips.freshKey dto s with
      | true =>
        refine iff_of_true (fun hthrows => ?_) (.inr (.inr ⟨rfl, rfl⟩))
        obtain ⟨trip, htrip⟩ := Option.isSome_iff_exists.mp (find?_inserted haccepts)
        rw [← acceptsDetails_inserted data] at hdetails
        obtain ⟨hresult, -⟩ := run_finish_of_accepts htrip hdetails
        obtain ⟨e, he⟩ := hthrows
        rw [Outcome.result_after, hresult] at he
        cases he
      | false =>
        rw [← acceptsDetails_inserted data] at hdetails
        refine iff_of_false (fun hall => ?_) (by simp)
        refine not_nothingAdded haccepts ?_ (hall ⟨.validation, run_finish_of_not hdetails⟩)
        rw [Outcome.store_after]
        exact keepsTrips_finish.run_store (I := fun t =>
          t.base.trips = (inserted data s).base.trips) Cmd.exec hkept rfl
    | some (0, e) =>
      rw [Async.runFailing] at ho
      exact iff_of_true (fun _ => nothingAdded_of_lt (Nat.zero_lt_succ 1) ho)
        (.inr (.inl ⟨0, e, rfl, Nat.zero_lt_succ 1⟩))
    | some (1, e) =>
      rw [Async.runFailing] at ho
      exact iff_of_true (fun _ => nothingAdded_of_lt (Nat.lt_succ_self 1) ho)
        (.inr (.inl ⟨1, e, rfl, Nat.lt_succ_self 1⟩))
    | some (k + 2, e) =>
      rw [Async.runFailing, hreject] at ho
      obtain ⟨o', ho', rfl⟩ := Option.map_eq_some_iff.mp ho
      have hthrows : o'.result = .error e := propagates_finish.runReject_result ho'
      refine iff_of_false (fun hall => ?_) (by simp)
      refine not_nothingAdded haccepts ?_ (hall ⟨e, hthrows⟩)
      rw [Outcome.store_after]
      exact keepsTrips_finish.runReject_store (I := fun t =>
        t.base.trips = (inserted data s).base.trips) hkept ho' rfl

end Runs

/-- There is one type of vehicles, and no trip. -/
def garage : Store where
  base := { vehicleTypes := .single ⟨1, 1000⟩ }

/-- A parcel of so many kilograms. -/
def parcel (weight : ℚ) : CreateTripDto where
  serviceType := .delivery
  vehicleTypeId := 1
  pickup := ⟨0, 0⟩
  dropoff := ⟨1, 1⟩
  pickupAddress := "Badalabougou"
  dropoffAddress := "Hamdallaye"
  parcelWeightKg := some weight

open Completeness in
/-- A parcel of one hundred kilograms is stored with its trip. -/
theorem creation_all_or_nothing_parcel :
    AllOrNothing garage ((createTrip flatPricing 21 (parcel 100)).run Cmd.exec garage) :=
  (creation_all_or_nothing_iff flatPricing 21 (parcel 100) garage none _ rfl).mpr
    (.inr (.inr ⟨rfl, by decide +kernel⟩))

open Completeness in
/-- The trip of a parcel of a tonne is left behind without its details. -/
theorem creation_leaves_trip :
    ¬∀ (pricing : PricingEnv) (clientId : ℕ) (dto : CreateTripDto) (s : Store)
        (failure : Option (ℕ × Error)) (o : Outcome Store Cmd Error Trip), dto.isValid = true →
      (createTrip pricing clientId dto).runFailing Cmd.exec failure s = some o →
        AllOrNothing s o := by
  intro h
  have hall := h flatPricing 21 (parcel 1000) garage none _ rfl rfl
  have hthrows : ((createTrip flatPricing 21 (parcel 1000)).run Cmd.exec garage).result =
      .error .validation := by decide +kernel
  have htrips := congrArg (fun trips => trips.rows.length) (hall ⟨_, hthrows⟩).trips
  have hleft : ((createTrip flatPricing 21 (parcel 1000)).run Cmd.exec
      garage).store.base.trips.rows.length = 1 := by decide +kernel
  rw [hleft] at htrips
  cases htrips

section Refinement

variable {pricing : PricingEnv} {clientId : ℕ} {dto : CreateTripDto} {s : Store}

/-- The command on the other tables. -/
def Cmd.forget : Cmd → Telima.Cmd
  | .base c => c
  | .insertTrip data => .insertTrip data.toCreateTripData
  | .createDeliveryDetails data => .createDetails data.tripId
  | .createRideDetails data => .createDetails data.tripId

theorem run_createDetails_forget (tripId : ℕ) (dto : CreateTripDto) (s : Store)
    (t : Telima.Store) :
    (TripsService.createDetails tripId dto.serviceType).run Telima.Cmd.exec t =
      ⟨.ok (), t, ((createDetails tripId dto).run Cmd.exec s).cmds.map Cmd.forget⟩ := by
  unfold createDetails TripsService.createDetails
  cases dto.serviceType <;> rfl

theorem base_createTrip_eq : TripsService.createTrip pricing clientId dto.toCreateTripDto =
    (Async.queryE .external (pricing.calculatePrice dto.serviceType dto.vehicleTypeId dto.pickup
      dto.dropoff)).bind fun priceResult =>
        (Telima.TripRepository.insertWithGeometry
          (tripData clientId dto priceResult).toCreateTripData).bind fun tripId =>
            (TripsService.createDetails tripId dto.serviceType).bind fun _ =>
              (TripsService.getTrip tripId).bind fun trip =>
                (Async.emit (.emit (.tripCreated trip.id dto.pickup dto.serviceType
                  dto.vehicleTypeId))).bind fun _ => pure trip := rfl

/-- When the columns take the values, `createTrip` is the one of `TripsService`. -/
theorem createTrip_refines (hinserts : inserts pricing clientId dto s = true)
    (hdetails : acceptsDetails s.base.trips.freshKey dto s = true) :
    (TripsService.createTrip pricing clientId dto.toCreateTripDto).run Telima.Cmd.exec s.base =
      ⟨((createTrip pricing clientId dto).run Cmd.exec s).result,
        ((createTrip pricing clientId dto).run Cmd.exec s).store.base,
        ((createTrip pricing clientId dto).run Cmd.exec s).cmds.map Cmd.forget⟩ := by
  obtain ⟨priceResult, data, hprice, rfl, haccepts, hrun, -⟩ := run_createTrip hinserts
  obtain ⟨trip, htrip⟩ := Option.isSome_iff_exists.mp (find?_inserted haccepts)
  rw [← acceptsDetails_inserted (tripData clientId dto priceResult)] at hdetails
  obtain ⟨hresult, hstore, hcmds⟩ := run_finish_of_accepts htrip hdetails
  have hvehicle : ((Telima.Cmd.external.exec s.base).vehicleTypes.find?
      (tripData clientId dto priceResult).vehicleTypeId).isSome = true := by
    rw [Store.acceptsTrip, Bool.and_eq_true] at haccepts
    exact haccepts.2
  have hdone := run_createDetails_forget s.base.trips.freshKey dto
    (inserted (tripData clientId dto priceResult) s)
  rw [base_createTrip_eq, Async.run_queryE_bind]
  have hprice' : pricing.calculatePrice dto.serviceType dto.vehicleTypeId dto.pickup dto.dropoff
      s.base = .ok priceResult := hprice
  have hinsert : (inserted (tripData clientId dto priceResult) s).base =
      (Telima.Cmd.insertTrip (tripData clientId dto priceResult).toCreateTripData).exec
        (Telima.Cmd.external.exec s.base) := if_pos haccepts
  rw [hprice', Async.done_ok_bind, Telima.TripRepository.insertWithGeometry, Async.run_queryE_bind,
    if_pos hvehicle, Async.done_ok_bind, ← hinsert]
  have hkey : (Telima.Cmd.external.exec s.base).trips.freshKey = s.base.trips.freshKey := rfl
  have hok := congrArg Outcome.result (hdone (inserted (tripData clientId dto priceResult) s).base)
  rw [hkey, Async.run_bind_of_ok Telima.Cmd.exec hok, hdone, TripsService.run_getTrip_bind htrip,
    Async.run_emit_bind, hrun, Outcome.result_after, Outcome.store_after, Outcome.cmds_after,
    hresult, hstore, hcmds]
  simp [Outcome.after, Cmd.forget]
  rfl

end Refinement

end Telima.Creation
