import Mathlib.Data.Real.Basic
import Mathlib.Tactic.Linarith
import Mathlib.Tactic.Positivity
import Telima.Data.OrderBy
import Telima.Data.Rounding
import Telima.Fleet.Schema

/-!
# The search for candidates

`findNearbyDrivers` hands a radius in metres to `ST_DWithin`, and orders by `ST_Distance`, of columns of
the type `geometry(Point, 4326)`: both functions work in the plane, in degrees, and the distance is cast
to an integer before the rows are ordered.  `nearby_honours_radius_iff` says for which positions the
search honours the radius and returns the nearest drivers first all the same; a degree being at least
110 km, a driver a degree away is found within any radius from one metre on.
-/

namespace Telima.Fleet

/-! ### PostGIS -/

/-- The square of `ST_Distance` of two points with the SRID 4326. -/
def sqDegrees (a b : GeoPoint) : ℚ := (a.lng - b.lng) ^ 2 + (a.lat - b.lat) ^ 2

/-- `ST_DWithin(a, b, radius)` -/
def stDWithin (a b : GeoPoint) (radius : ℚ) : Bool :=
  decide (0 ≤ radius ∧ sqDegrees a b ≤ radius ^ 2)

/-- `ST_Distance(a, b)::int` -/
def stDistanceInt (a b : GeoPoint) : ℕ := roundSqrt (sqDegrees a b)

theorem sqDegrees_nonneg (a b : GeoPoint) : 0 ≤ sqDegrees a b := by
  unfold sqDegrees
  positivity

/-- `ST_DWithin` compares the distance with the radius. -/
theorem stDWithin_iff (a b : GeoPoint) (radius : ℚ) :
    stDWithin a b radius = true ↔ Real.sqrt (sqDegrees a b) ≤ radius := by
  have hcast : ∀ q r : ℚ, (q : ℝ) ≤ (r : ℝ) ^ 2 ↔ q ≤ r ^ 2 := fun q r => by
    rw [← Rat.cast_pow, Rat.cast_le]
  rw [stDWithin, decide_eq_true_iff, Real.sqrt_le_iff, hcast, Rat.cast_nonneg]

/-- The integer is the distance up to a half. -/
theorem abs_stDistanceInt_sub_le (a b : GeoPoint) :
    |(stDistanceInt a b : ℝ) - Real.sqrt (sqDegrees a b)| ≤ 1 / 2 :=
  abs_roundSqrt_sub_sqrt_le (sqDegrees_nonneg a b)

/-! ### The query -/

/-- A driver the search returns. -/
structure NearbyDriver where
  driverId : ℕ
  distanceMeters : ℕ
  lat : ℚ
  lng : ℚ
  rating : ℚ
  vehicleTypeId : ℕ
  vehicleBrand : String
  vehicleModel : String
  plateNumber : String
  deriving DecidableEq

def NearbyDriver.location (row : NearbyDriver) : GeoPoint := ⟨row.lat, row.lng⟩

/-- A row of `drivers` joined with `vehicles`, with the driver's position. -/
structure Candidate where
  driver : Driver
  vehicle : Vehicle
  location : GeoPoint
  deriving DecidableEq

/-- `NOT EXISTS` says that this is false: the driver has a trip under way that is not older than 25
minutes. -/
def Store.isEngaged (s : Store) (driverId : ℕ) : Bool :=
  s.trips.rows.any fun trip =>
    decide (trip.driverId = some driverId) &&
      decide (trip.status ∈ [TripStatus.accepted, .driverArriving, .inProgress]) &&
      decide (s.now < trip.createdAt + 25 * 60 * 1000)

section Search

variable (s : Store) (serviceType : Option ServiceType) (vehicleTypeId : Option ℕ)

/-- `INNER JOIN vehicles v ON v.driver_id = d.id` -/
def joinVehicles : List (Driver × Vehicle) :=
  s.drivers.rows.flatMap fun driver =>
    (s.vehicles.rows.filter fun vehicle => decide (vehicle.driverId = driver.id)).map (driver, ·)

/-- The conditions of `WHERE`, but for the position. -/
def isAvailable (driver : Driver) (vehicle : Vehicle) : Bool :=
  decide (driver.status = .validated) && driver.isOnline && !s.isEngaged driver.id &&
    (serviceType.all fun serviceType =>
      (s.vehicleTypes.find? vehicle.vehicleTypeId).any fun vehicleType =>
        decide (vehicleType.serviceType = serviceType) && vehicleType.isActive) &&
    vehicleTypeId.all fun vehicleTypeId => decide (vehicle.vehicleTypeId = vehicleTypeId)

/-- The drivers who could be returned, wherever they are. -/
def candidates : List Candidate :=
  (joinVehicles s).filterMap fun (driver, vehicle) =>
    if isAvailable s serviceType vehicleTypeId driver vehicle then
      driver.currentLocation.map fun location => ⟨driver, vehicle, location⟩
    else none

/-- The columns of a candidate's row. -/
def Candidate.row (point : GeoPoint) (candidate : Candidate) : NearbyDriver where
  driverId := candidate.driver.id
  distanceMeters := stDistanceInt candidate.location point
  lat := candidate.location.lat
  lng := candidate.location.lng
  rating := candidate.driver.rating
  vehicleTypeId := candidate.vehicle.vehicleTypeId
  vehicleBrand := candidate.vehicle.brand
  vehicleModel := candidate.vehicle.model
  plateNumber := candidate.vehicle.plateNumber

/-- The rows of the query, before they are ordered. -/
def nearbyRows (point : GeoPoint) (radiusMeters : ℚ) : List NearbyDriver :=
  ((candidates s serviceType vehicleTypeId).filter fun candidate =>
    stDWithin candidate.location point radiusMeters).map (Candidate.row point)

/-- The search can return this. -/
def findNearbyDrivers (point : GeoPoint) (radiusMeters : ℚ) (result : List NearbyDriver) : Prop :=
  OrderedBy NearbyDriver.distanceMeters (nearbyRows s serviceType vehicleTypeId point radiusMeters)
    result

end Search

/-! ### The radius and the order -/

/-- The drivers are within the radius, and the nearest ones come first, up to a metre; `metres` is the
distance on the ground. -/
structure HonoursRadius (metres : GeoPoint → GeoPoint → ℝ) (point : GeoPoint) (radiusMeters : ℚ)
    (result : List NearbyDriver) : Prop where
  within : ∀ row ∈ result, metres row.location point ≤ radiusMeters
  nearestFirst : result.Pairwise fun a b =>
    metres a.location point ≤ metres b.location point + 1

section

variable {metres : GeoPoint → GeoPoint → ℝ} {s : Store} {serviceType : Option ServiceType}
  {vehicleTypeId : Option ℕ} {point : GeoPoint} {radiusMeters : ℚ}

theorem mem_nearbyRows_iff {row : NearbyDriver} :
    row ∈ nearbyRows s serviceType vehicleTypeId point radiusMeters ↔
      ∃ candidate ∈ candidates s serviceType vehicleTypeId,
        stDWithin candidate.location point radiusMeters = true ∧ candidate.row point = row := by
  simp [nearbyRows, and_assoc]

/-- The search returns every candidate that many degrees around. -/
theorem mem_of_findNearbyDrivers {result : List NearbyDriver}
    (h : findNearbyDrivers s serviceType vehicleTypeId point radiusMeters result)
    {candidate : Candidate} (hcandidate : candidate ∈ candidates s serviceType vehicleTypeId)
    (hwithin : stDWithin candidate.location point radiusMeters = true) :
    candidate.row point ∈ result :=
  h.mem_iff.mpr (mem_nearbyRows_iff.mpr ⟨candidate, hcandidate, hwithin, rfl⟩)

theorem within_iff :
    (∀ result, findNearbyDrivers s serviceType vehicleTypeId point radiusMeters result →
      ∀ row ∈ result, metres row.location point ≤ radiusMeters) ↔
      ∀ candidate ∈ candidates s serviceType vehicleTypeId,
        stDWithin candidate.location point radiusMeters = true →
          metres candidate.location point ≤ radiusMeters := by
  constructor
  · intro h candidate hcandidate hwithin
    obtain ⟨result, hresult⟩ := OrderedBy.exists_orderedBy NearbyDriver.distanceMeters
      (nearbyRows s serviceType vehicleTypeId point radiusMeters)
    exact h result hresult _ (mem_of_findNearbyDrivers hresult hcandidate hwithin)
  · intro h result hresult row hrow
    obtain ⟨candidate, hcandidate, hwithin, rfl⟩ := mem_nearbyRows_iff.mp (hresult.mem_iff.mp hrow)
    exact h candidate hcandidate hwithin

theorem nearestFirst_iff :
    (∀ result, findNearbyDrivers s serviceType vehicleTypeId point radiusMeters result →
      result.Pairwise fun a b => metres a.location point ≤ metres b.location point + 1) ↔
      ∀ candidate ∈ candidates s serviceType vehicleTypeId,
        ∀ other ∈ candidates s serviceType vehicleTypeId,
          stDWithin candidate.location point radiusMeters = true →
          stDWithin other.location point radiusMeters = true →
          stDistanceInt candidate.location point ≤ stDistanceInt other.location point →
            metres candidate.location point ≤ metres other.location point + 1 := by
  have hrefl : ∀ a : NearbyDriver, metres a.location point ≤ metres a.location point + 1 :=
    fun _ => by linarith
  refine (OrderedBy.pairwise_iff hrefl).trans ⟨fun h => ?_, fun h => ?_⟩
  · intro candidate hcandidate other hother hwithin hwithin' hle
    exact h _ (mem_nearbyRows_iff.mpr ⟨candidate, hcandidate, hwithin, rfl⟩)
      _ (mem_nearbyRows_iff.mpr ⟨other, hother, hwithin', rfl⟩) hle
  · intro a ha b hb hle
    obtain ⟨candidate, hcandidate, hwithin, rfl⟩ := mem_nearbyRows_iff.mp ha
    obtain ⟨other, hother, hwithin', rfl⟩ := mem_nearbyRows_iff.mp hb
    exact h candidate hcandidate other hother hwithin hwithin' hle

end

/-- The search honours the radius and the order if and only if no candidate is so many degrees around
but further away than so many metres, and of two candidates so many degrees around the one whose
degrees, as an integer, are not larger is nearer, up to a metre. -/
theorem nearby_honours_radius_iff (metres : GeoPoint → GeoPoint → ℝ) (s : Store)
    (serviceType : Option ServiceType) (vehicleTypeId : Option ℕ) (point : GeoPoint)
    (radiusMeters : ℚ) :
    (∀ result, findNearbyDrivers s serviceType vehicleTypeId point radiusMeters result →
      HonoursRadius metres point radiusMeters result) ↔
      (∀ candidate ∈ candidates s serviceType vehicleTypeId,
        stDWithin candidate.location point radiusMeters = true →
          metres candidate.location point ≤ radiusMeters) ∧
      ∀ candidate ∈ candidates s serviceType vehicleTypeId,
        ∀ other ∈ candidates s serviceType vehicleTypeId,
          stDWithin candidate.location point radiusMeters = true →
          stDWithin other.location point radiusMeters = true →
          stDistanceInt candidate.location point ≤ stDistanceInt other.location point →
            metres candidate.location point ≤ metres other.location point + 1 := by
  rw [← within_iff, ← nearestFirst_iff]
  constructor
  · exact fun h => ⟨fun result hresult => (h result hresult).within,
      fun result hresult => (h result hresult).nearestFirst⟩
  · exact fun h result hresult => ⟨h.1 result hresult, h.2 result hresult⟩

/-! ### Degrees of latitude -/

/-- A degree of latitude is at least 110 km. -/
def LatitudeDegrees (metres : GeoPoint → GeoPoint → ℝ) : Prop :=
  ∀ a b : GeoPoint, a.lng = b.lng → 110000 * |(a.lat : ℝ) - b.lat| ≤ metres a b

section

variable {metres : GeoPoint → GeoPoint → ℝ} {s : Store} {serviceType : Option ServiceType}
  {vehicleTypeId : Option ℕ} {point : GeoPoint} {radiusMeters : ℚ}

/-- A candidate on the meridian, more metres but not more degrees away than the radius. -/
theorem not_honours_of_meridian (hmetres : LatitudeDegrees metres) {candidate : Candidate}
    (hcandidate : candidate ∈ candidates s serviceType vehicleTypeId)
    (hlng : candidate.location.lng = point.lng)
    (hdegrees : |candidate.location.lat - point.lat| ≤ radiusMeters)
    (hfar : radiusMeters < 110000 * |candidate.location.lat - point.lat|) :
    ¬ ∀ result, findNearbyDrivers s serviceType vehicleTypeId point radiusMeters result →
      HonoursRadius metres point radiusMeters result := by
  intro h
  have hwithin : stDWithin candidate.location point radiusMeters = true := by
    refine decide_eq_true ⟨(abs_nonneg _).trans hdegrees, ?_⟩
    rw [sqDegrees, hlng, sub_self, zero_pow two_ne_zero, zero_add, ← sq_abs]
    exact pow_le_pow_left₀ (abs_nonneg _) hdegrees 2
  have hnear := ((nearby_honours_radius_iff metres s serviceType vehicleTypeId point radiusMeters).mp
    h).1 candidate hcandidate hwithin
  have hground := hmetres candidate.location point hlng
  have hfar' : (radiusMeters : ℝ) < 110000 * |(candidate.location.lat : ℝ) - point.lat| := by
    exact_mod_cast hfar
  linarith

/-- Candidates up to half a degree away come in any order, and must be equally far. -/
theorem equally_far_of_honours
    (h : ∀ result, findNearbyDrivers s serviceType vehicleTypeId point radiusMeters result →
      HonoursRadius metres point radiusMeters result)
    {candidate other : Candidate} (hcandidate : candidate ∈ candidates s serviceType vehicleTypeId)
    (hother : other ∈ candidates s serviceType vehicleTypeId) (hradius : 1 / 2 ≤ radiusMeters)
    (hnear : sqDegrees candidate.location point ≤ 1 / 4)
    (hnear' : sqDegrees other.location point ≤ 1 / 4) :
    metres candidate.location point ≤ metres other.location point + 1 := by
  have hsq : (1 / 4 : ℚ) ≤ radiusMeters ^ 2 := by nlinarith
  have hwithin : ∀ location, sqDegrees location point ≤ 1 / 4 →
      stDWithin location point radiusMeters = true := fun location hle =>
    decide_eq_true ⟨by linarith, hle.trans hsq⟩
  have hkeys : stDistanceInt candidate.location point ≤ stDistanceInt other.location point := by
    rw [stDistanceInt, stDistanceInt, roundSqrt_of_le hnear]
    exact Nat.zero_le _
  exact ((nearby_honours_radius_iff metres s serviceType vehicleTypeId point radiusMeters).mp h).2
    candidate hcandidate other hother (hwithin _ hnear) (hwithin _ hnear') hkeys

end

namespace Nearby

/-- A place in Bamako. -/
def pickup : GeoPoint := ⟨1265 / 100, -8⟩

def driverAt (id : ℕ) (lat : ℚ) : Driver :=
  { id, userId := 9 + id, status := .validated, isOnline := true, currentLocation := some ⟨lat, -8⟩ }

def vehicleOf (driverId : ℕ) : Vehicle :=
  { id := driverId, driverId, vehicleTypeId := 1, brand := "Toyota", model := "Yaris"
    plateNumber := toString driverId }

/-- Driver 1 is a degree north of the place. -/
def north : Store where
  drivers := .single (driverAt 1 (1365 / 100))
  vehicles := .single (vehicleOf 1)

/-- Driver 1 is about 4 km north of the place, driver 2 about 100 m. -/
def nearer : Store where
  drivers := ⟨[driverAt 1 (12686 / 1000), driverAt 2 (12651 / 1000)], by decide⟩
  vehicles := ⟨[vehicleOf 1, vehicleOf 2], by decide⟩

/-- The distance of points on a meridian, at the latitude of Bamako. -/
noncomputable def meridian (a b : GeoPoint) : ℝ := 110640 * |(a.lat : ℝ) - b.lat|

theorem latitudeDegrees_meridian : LatitudeDegrees meridian := by
  intro a b _
  unfold meridian
  have habs := abs_nonneg ((a.lat : ℝ) - b.lat)
  linarith

end Nearby

open Nearby in
/-- Driver 1, a degree north, is found within 5 km, however long a degree is; and of two drivers nearby
the further one may come first. -/
theorem radius_in_degrees :
    (¬ ∃ metres, LatitudeDegrees metres ∧
      ∀ result, findNearbyDrivers north none none pickup 5000 result →
        HonoursRadius metres pickup 5000 result) ∧
    LatitudeDegrees meridian ∧
    ¬ ∀ result, findNearbyDrivers nearer none none pickup 5000 result →
      HonoursRadius meridian pickup 5000 result := by
  refine ⟨?_, latitudeDegrees_meridian, fun h => ?_⟩
  · rintro ⟨metres, hmetres, h⟩
    have hcandidate : ⟨driverAt 1 (1365 / 100), vehicleOf 1, ⟨1365 / 100, -8⟩⟩ ∈
        candidates north none none := by decide +kernel
    refine not_honours_of_meridian hmetres hcandidate ?_ ?_ ?_ h
    · rfl
    · decide +kernel
    · decide +kernel
  · have hfirst : ⟨driverAt 1 (12686 / 1000), vehicleOf 1, ⟨12686 / 1000, -8⟩⟩ ∈
        candidates nearer none none := by decide +kernel
    have hsecond : ⟨driverAt 2 (12651 / 1000), vehicleOf 2, ⟨12651 / 1000, -8⟩⟩ ∈
        candidates nearer none none := by decide +kernel
    have hfar := equally_far_of_honours h hfirst hsecond (by norm_num) (by decide +kernel)
      (by decide +kernel)
    revert hfar
    norm_num [meridian, pickup, abs_of_pos]

end Telima.Fleet
