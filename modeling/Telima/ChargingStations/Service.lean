import Mathlib.Analysis.SpecialFunctions.Trigonometric.Basic
import Telima.Data.OrderBy

/-!
# `ChargingStationsService`

The search of stations near a point takes those in a box around it.  A degree of latitude is 111 km, and
one of longitude shrinks with the cosine of the latitude.  The numbers are those of any ordered field,
and the cosine is a parameter; the results are about the reals.
-/

namespace Telima.ChargingStations

/-- What `findAll` reads of a row of `swap_stations`. -/
structure Station (K : Type) where
  id : ℕ
  lat : K
  lng : K
  isActive : Bool := true
  createdAt : ℕ
  deriving DecidableEq

section Service

variable {K : Type} [Field K] [LinearOrder K] (cosDegrees : K → K)

/-- `latDelta` -/
def latDelta (radiusKm : K) : K := radiusKm / 111

/-- `lngDelta` -/
def lngDelta (lat radiusKm : K) : K := radiusKm / (111 * cosDegrees lat)

/-- The station is in the box. -/
def inBox (lat lng radiusKm : K) (station : Station K) : Bool :=
  decide (lat - latDelta radiusKm ≤ station.lat) && decide (station.lat ≤ lat + latDelta radiusKm) &&
    (decide (lng - lngDelta cosDegrees lat radiusKm ≤ station.lng) &&
      decide (station.lng ≤ lng + lngDelta cosDegrees lat radiusKm))

/-- The `where` of the query. -/
def isFound (lat lng radiusKm : Option K) (includeInactive : Bool) (station : Station K) : Bool :=
  (includeInactive || station.isActive) &&
    match lat, lng, radiusKm with
    | some lat, some lng, some radiusKm => inBox cosDegrees lat lng radiusKm station
    | _, _, _ => true

/-- The stations, oldest first. -/
def findAll (stations : List (Station K)) (lat lng radiusKm : Option K)
    (includeInactive : Bool := false) : List (Station K) :=
  (stations.filter (isFound cosDegrees lat lng radiusKm includeInactive)).mergeSort fun a b =>
    decide (a.createdAt ≤ b.createdAt)

end Service

/-! ### What is found -/

section Found

variable {K : Type} [Field K] [LinearOrder K] {cosDegrees : K → K} {stations : List (Station K)}
variable {lat lng radiusKm : K}

/-- The query returns the stations it looks for, oldest first. -/
theorem orderedBy_findAll (lat lng radiusKm : Option K) (includeInactive : Bool) :
    OrderedBy Station.createdAt
      (stations.filter (isFound cosDegrees lat lng radiusKm includeInactive))
      (findAll cosDegrees stations lat lng radiusKm includeInactive) :=
  OrderedBy.mergeSort_of_perm (List.Perm.refl _)

theorem mem_findAll {station : Station K} :
    station ∈ findAll cosDegrees stations (some lat) (some lng) (some radiusKm) ↔
      station ∈ stations ∧ station.isActive = true ∧
        inBox cosDegrees lat lng radiusKm station = true := by
  rw [(orderedBy_findAll _ _ _ _).mem_iff, List.mem_filter]
  simp [isFound]

variable [IsStrictOrderedRing K]

/-- A box is a condition on two differences. -/
theorem inBox_iff {station : Station K} : inBox cosDegrees lat lng radiusKm station = true ↔
    |station.lat - lat| ≤ latDelta radiusKm ∧ |station.lng - lng| ≤ lngDelta cosDegrees lat radiusKm := by
  have hinterval : ∀ x a d : K, |x - a| ≤ d ↔ a - d ≤ x ∧ x ≤ a + d := by
    intro x a d
    rw [abs_sub_le_iff]
    constructor
    · rintro ⟨h, h'⟩
      exact ⟨by linarith, by linarith⟩
    · rintro ⟨h, h'⟩
      exact ⟨by linarith, by linarith⟩
  simp only [inBox, Bool.and_eq_true, decide_eq_true_eq, hinterval]

/-- The station on the other side of the meridian. -/
def Station.reflect (lng : K) (station : Station K) : Station K :=
  { station with lng := lng - (station.lng - lng) }

theorem inBox_reflect (station : Station K) :
    inBox cosDegrees lat lng radiusKm (station.reflect lng) =
      inBox cosDegrees lat lng radiusKm station := by
  have hdistance : |(station.reflect lng).lng - lng| = |station.lng - lng| := by
    have hsub : (station.reflect lng).lng - lng = lng - station.lng := by
      show lng - (station.lng - lng) - lng = lng - station.lng
      ring
    rw [hsub, abs_sub_comm]
  rw [Bool.eq_iff_iff, inBox_iff, inBox_iff, hdistance]
  rfl

/-- The stations on the other side are found on the other side. -/
theorem findAll_reflect :
    findAll cosDegrees (stations.map (Station.reflect lng)) (some lat) (some lng) (some radiusKm) =
      (findAll cosDegrees stations (some lat) (some lng) (some radiusKm)).map
        (Station.reflect lng) := by
  have hfound : ∀ station : Station K,
      isFound cosDegrees (some lat) (some lng) (some radiusKm) false (station.reflect lng) =
        isFound cosDegrees (some lat) (some lng) (some radiusKm) false station := by
    intro station
    show (_ && inBox _ _ _ _ _) = _
    rw [inBox_reflect]
    rfl
  have hfilter : (stations.map (Station.reflect lng)).filter
      (isFound cosDegrees (some lat) (some lng) (some radiusKm) false) =
        (stations.filter (isFound cosDegrees (some lat) (some lng) (some radiusKm) false)).map
          (Station.reflect lng) := by
    rw [List.filter_map]
    congr 1
    exact List.filter_congr fun station _ => hfound station
  unfold findAll
  rw [hfilter]
  exact (List.map_mergeSort (f := Station.reflect lng) fun a _ b _ => rfl).symm

end Found

/-! ### The reals -/

/-- `Math.cos((lat * Math.PI) / 180)` -/
noncomputable def cosDegrees (lat : ℝ) : ℝ := Real.cos (lat * Real.pi / (180 : ℕ))

theorem cosDegrees_eq (lat : ℝ) : cosDegrees lat = Real.cos (lat * Real.pi / 180) := by
  rw [cosDegrees, Nat.cast_ofNat]

theorem cosDegrees_pos {lat : ℝ} (h : |lat| < 90) : 0 < cosDegrees lat := by
  have hpi := Real.pi_pos
  rw [cosDegrees_eq]
  obtain ⟨hlow, hhigh⟩ := abs_lt.mp h
  refine Real.cos_pos_of_mem_Ioo ⟨?_, ?_⟩
  · nlinarith
  · nlinarith

/-- A difference of longitudes, as a distance to the east. -/
theorem le_lngDelta_iff {lat radiusKm d : ℝ} (h : |lat| < 90) :
    d ≤ lngDelta cosDegrees lat radiusKm ↔ 111 * cosDegrees lat * d ≤ radiusKm := by
  have hcos := cosDegrees_pos h
  have hpos : 0 < 111 * cosDegrees lat := by linarith
  rw [lngDelta, le_div_iff₀ hpos, mul_comm]

end Telima.ChargingStations
