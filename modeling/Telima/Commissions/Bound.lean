import Telima.Async.Run
import Telima.Commissions.Service

/-!
# The commission and the price it is taken from

An administrator may enter any percentage that is not negative; the column holds up to 999.99.  The
commission is rounded to a whole number, so it is at most the price if the exact commission is less than
a half above the whole part of the price (`commission_within_price_iff`).
-/

namespace Telima

/-! ### The percentages that are admitted -/

/-- `CreateVehicleTypeDto`, as far as it bounds a number. -/
structure CreateVehicleTypeDto where
  capacity : ℤ
  baseFare : ℚ
  pricePerKm : ℚ
  pricePerMin : ℚ
  commissionPercentage : ℚ
  deriving DecidableEq, Repr

/-- `@Min(1) capacity`, `@Min(0)` of the prices and the percentage. -/
def CreateVehicleTypeDto.isValid (dto : CreateVehicleTypeDto) : Bool :=
  decide (1 ≤ dto.capacity) && decide (0 ≤ dto.baseFare) && decide (0 ≤ dto.pricePerKm) &&
    decide (0 ≤ dto.pricePerMin) && decide (0 ≤ dto.commissionPercentage)

/-- The number fits a column `Decimal(precision, 2)`. -/
def fitsDecimal (precision : ℕ) (q : ℚ) : Bool := decide (|Decimal2.ofNumber q| < 10 ^ precision)

/-- `VehicleTypesService.create`, as far as the commissions read the row. -/
def VehicleTypesService.create (dto : CreateVehicleTypeDto) (id : ℕ) : Except Error VehicleType :=
  if fitsDecimal 10 dto.baseFare && fitsDecimal 10 dto.pricePerKm && fitsDecimal 10 dto.pricePerMin &&
      fitsDecimal 5 dto.commissionPercentage then
    .ok { id, commissionPercentage := .ofNumber dto.commissionPercentage }
  else .error .validation

/-- The row can come out of an admitted request. -/
def VehicleType.Admitted (vehicleType : VehicleType) : Prop :=
  ∃ dto : CreateVehicleTypeDto, dto.isValid = true ∧
    VehicleTypesService.create dto vehicleType.id = .ok vehicleType

theorem VehicleType.Admitted.commissionPercentage_nonneg {vehicleType : VehicleType}
    (h : vehicleType.Admitted) : 0 ≤ vehicleType.commissionPercentage := by
  obtain ⟨dto, hvalid, hcreate⟩ := h
  have hpercentage : 0 ≤ dto.commissionPercentage := by
    simp only [CreateVehicleTypeDto.isValid, Bool.and_eq_true, decide_eq_true_eq] at hvalid
    exact hvalid.2
  unfold VehicleTypesService.create at hcreate
  split_ifs at hcreate
  have hrow := Except.ok.inj hcreate
  rw [← hrow]
  exact Decimal2.ofNumber_nonneg hpercentage

/-! ### The rounded commission -/

section Rounding

variable {price percentage : ℚ}

theorem commissionOf_nonneg (hprice : 0 ≤ price) (hpercentage : 0 ≤ percentage) :
    0 ≤ commissionOf price percentage :=
  mathRound_nonneg (mul_nonneg hprice (div_nonneg hpercentage (by norm_num)))

/-- A rounded commission is a whole number, so it is compared with the whole part of the price. -/
theorem commissionOf_le_iff :
    (commissionOf price percentage : ℚ) ≤ price ↔
      price * percentage < 100 * (⌊price⌋ : ℚ) + 50 := by
  rw [commissionOf, mathRound, ← Int.le_floor, ← Int.lt_add_one_iff, Int.floor_lt]
  push_cast
  constructor
  · intro h
    linarith
  · intro h
    linarith

end Rounding

/-! ### The handler -/

/-- A completed trip, with the rows the handler reads and writes. -/
structure CompletedTrip (s : Store) (tripId : ℕ) where
  trip : Trip
  driver : Driver
  vehicleType : VehicleType
  finalPrice : Decimal2
  find_trip : s.trips.find? tripId = some trip
  completed : trip.status = .completed
  driverId : trip.driverId = some driver.id
  find_driver : s.drivers.find? driver.id = some driver
  find_vehicleType : s.vehicleTypes.find? trip.vehicleTypeId = some vehicleType
  price : trip.finalPrice = some finalPrice
  nonneg : 0 ≤ finalPrice
  admitted : vehicleType.Admitted

namespace CompletedTrip

variable {s : Store} {tripId : ℕ} (c : CompletedTrip s tripId)

/-- The commission of the trip. -/
def commission : ℤ := commissionOf c.finalPrice.toNumber c.vehicleType.commissionPercentage.toNumber

/-- The commission of the trip is between zero and its price; the driver's balance did not fall, and
his debt grew by the price at most. -/
def WithinPrice (t : Store) : Prop :=
  ∃ trip driver commission, t.trips.find? tripId = some trip ∧
    t.drivers.find? c.driver.id = some driver ∧ trip.commissionAmount = some commission ∧
    0 ≤ commission ∧ commission ≤ c.finalPrice ∧ c.driver.balance ≤ driver.balance ∧
    driver.commissionDue - c.driver.commissionDue ≤ c.finalPrice

theorem commission_nonneg : 0 ≤ c.commission :=
  commissionOf_nonneg (Decimal2.toNumber_nonneg c.nonneg)
    (Decimal2.toNumber_nonneg c.admitted.commissionPercentage_nonneg)

/-- What the handler leaves of the trip and its driver. -/
theorem run_handleTripCompleted :
    let t := ((CommissionsService.handleTripCompleted tripId).run Cmd.exec s).store
    t.trips.find? tripId = some (c.trip.charge c.commission s.now) ∧
      t.drivers.find? c.driver.id =
        some (c.driver.charge c.commission c.finalPrice.toNumber) := by
  have hid : c.trip.id = tripId := Table.key_of_find? c.find_trip
  have hchargeable : Cmd.chargeable s tripId c.driver.id = true := by
    simp [Cmd.chargeable, c.find_trip, c.find_driver]
  have hrun : ((CommissionsService.handleTripCompleted tripId).run Cmd.exec s).store =
      (Cmd.chargeCommission tripId c.driver.id c.commission c.finalPrice.toNumber).exec s := by
    unfold CommissionsService.handleTripCompleted CommissionsService.findTripWithVehicleType
    rw [Async.bind_eq, Async.run_query_bind, c.find_trip, Option.map_some, c.find_vehicleType]
    dsimp only
    rw [c.driverId, c.price, hid]
    rfl
  have htrips : (Cmd.exec (.chargeCommission tripId c.driver.id c.commission
      c.finalPrice.toNumber) s).trips = s.trips.update tripId (Trip.charge c.commission s.now)
        (Trip.id_charge c.commission s.now) := if_pos hchargeable
  have hdrivers : (Cmd.exec (.chargeCommission tripId c.driver.id c.commission
      c.finalPrice.toNumber) s).drivers = s.drivers.update c.driver.id
        (Driver.charge c.commission c.finalPrice.toNumber)
        (Driver.id_charge c.commission c.finalPrice.toNumber) := if_pos hchargeable
  dsimp only
  rw [hrun, htrips, hdrivers, Table.find?_update_self, Table.find?_update_self, c.find_trip,
    c.find_driver]
  exact ⟨rfl, rfl⟩

/-- In the columns, a whole commission is at most the price if the number is. -/
theorem ofInt_commission_le_iff :
    Decimal2.ofInt c.commission ≤ c.finalPrice ↔ (c.commission : ℚ) ≤ c.finalPrice.toNumber := by
  rw [← Decimal2.toNumber_ofInt, Decimal2.toNumber, Decimal2.toNumber,
    div_le_div_iff_of_pos_right (by norm_num : (0 : ℚ) < 100), Int.cast_le]

/-- The rest of the bound follows from the commission. -/
theorem withinPrice_iff :
    c.WithinPrice ((CommissionsService.handleTripCompleted tripId).run Cmd.exec s).store ↔
      (c.commission : ℚ) ≤ c.finalPrice.toNumber := by
  obtain ⟨htrip, hdriver⟩ := c.run_handleTripCompleted
  constructor
  · rintro ⟨trip, driver, commission, htrip', -, hcommission, -, hle, -⟩
    obtain rfl := Option.some.inj (htrip.symm.trans htrip')
    obtain rfl := Option.some.inj hcommission
    rw [Decimal2.ofNumber_intCast] at hle
    exact c.ofInt_commission_le_iff.mp hle
  · intro hle
    have hnonneg := c.commission_nonneg
    have hcents : Decimal2.ofInt c.commission ≤ c.finalPrice := c.ofInt_commission_le_iff.mpr hle
    have hcommission : (0 : ℤ) ≤ Decimal2.ofInt c.commission := by
      unfold Decimal2.ofInt
      omega
    refine ⟨_, _, Decimal2.ofInt c.commission, htrip, hdriver, ?_, hcommission, hcents, ?_, ?_⟩
    · show some (Decimal2.ofNumber c.commission) = _
      rw [Decimal2.ofNumber_intCast]
    · show c.driver.balance ≤ c.driver.balance.increment _
      have hexact := Decimal2.exact_toNumber_sub_intCast c.finalPrice c.commission
      have hrest : (0 : ℤ) ≤ Decimal2.ofNumber (c.finalPrice.toNumber - c.commission) :=
        Decimal2.ofNumber_nonneg (by linarith)
      rw [Decimal2.increment_of_exact hexact]
      exact Int.le_add_of_nonneg_right hrest
    · show c.driver.commissionDue.increment _ - c.driver.commissionDue ≤ _
      rw [Decimal2.increment_of_exact (Decimal2.exact_intCast _), Decimal2.ofNumber_intCast,
        add_sub_cancel_left]
      exact hcents

end CompletedTrip

namespace Town

/-- A request for a vehicle type with a percentage. -/
def vehicleTypeDto (commissionPercentage : ℚ) : CreateVehicleTypeDto where
  capacity := 1
  baseFare := 200
  pricePerKm := 150
  pricePerMin := 25
  commissionPercentage := commissionPercentage

/-- Trip 1 of driver 1 has come to 2000, at the percentage. -/
def completedStore (percentage : Decimal2) : Store where
  drivers := .single ⟨1, 11, 0, 0⟩
  vehicleTypes := .single ⟨1, percentage⟩
  trips :=
    .single { id := 1, clientId := 20, driverId := some 1, vehicleTypeId := 1, serviceType := .ride
              status := .completed, pickupLocation := ⟨0, 0⟩, dropoffLocation := ⟨0, 0⟩
              finalPrice := some 200000, createdAt := 0, updatedAt := 0 }

def completedTrip (percentage : Decimal2) (h : (⟨1, percentage⟩ : VehicleType).Admitted) :
    CompletedTrip (completedStore percentage) 1 where
  trip :=
    { id := 1, clientId := 20, driverId := some 1, vehicleTypeId := 1, serviceType := .ride
      status := .completed, pickupLocation := ⟨0, 0⟩, dropoffLocation := ⟨0, 0⟩
      finalPrice := some 200000, createdAt := 0, updatedAt := 0 }
  driver := ⟨1, 11, 0, 0⟩
  vehicleType := ⟨1, percentage⟩
  finalPrice := 200000
  find_trip := rfl
  completed := rfl
  driverId := rfl
  find_driver := rfl
  find_vehicleType := rfl
  price := rfl
  nonneg := by decide
  admitted := h

theorem admitted_fifteen : (⟨1, 1500⟩ : VehicleType).Admitted :=
  ⟨vehicleTypeDto 15, by decide +kernel, by decide +kernel⟩

theorem admitted_hundredFifty : (⟨1, 15000⟩ : VehicleType).Admitted :=
  ⟨vehicleTypeDto 150, by decide +kernel, by decide +kernel⟩

end Town

end Telima
