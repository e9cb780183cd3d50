import Telima.Data.Decimal2
import Telima.Data.GreatCircle
import Telima.Data.Walk
import Telima.Store.Schema

/-!
# The distance providers

What both providers share: the haversine distance in metres, the duration at thirty kilometres an hour,
and the loop of `getRouteDistance`, which adds up the legs of a route.  `MockDistanceProvider` has nothing
else; `GoogleDistanceProvider` is modelled in `Distance/Google.lean`.  The texts of a result are left out.

`route_le_of_sublist`: a route that leaves stops out is not estimated longer, up to half a metre for each
leg, which is what rounding the legs one by one can add or take away.
-/

namespace Telima.Distance

structure DistanceMatrixResult where
  origin : Point
  destination : Point
  distanceMeters : ℤ
  durationSeconds : ℤ
  deriving DecidableEq, Repr

structure RouteDistance where
  totalDistanceMeters : ℤ := 0
  totalDurationSeconds : ℤ := 0
  legs : List DistanceMatrixResult := []
  deriving DecidableEq, Repr

/-- The totals after one more leg. -/
def RouteDistance.push (route : RouteDistance) (leg : DistanceMatrixResult) : RouteDistance where
  totalDistanceMeters := route.totalDistanceMeters + leg.distanceMeters
  totalDurationSeconds := route.totalDurationSeconds + leg.durationSeconds
  legs := route.legs ++ [leg]

/-- The loop of `getRouteDistance`, from the waypoint it has come to. -/
def routeLoop {m : Type → Type} [Monad m]
    (getDistanceMatrix : Point → Point → m DistanceMatrixResult) :
    List Point → RouteDistance → m RouteDistance
  | origin :: destination :: rest, route => do
    let leg ← getDistanceMatrix origin destination
    routeLoop getDistanceMatrix (destination :: rest) (route.push leg)
  | _, route => pure route

/-! ### The haversine distance -/

/-- The coordinates of a point, in radians. -/
noncomputable def coords (p : Point) : GreatCircle.Coords :=
  ⟨p.lat * Real.pi / (180 : ℕ), p.lng * Real.pi / (180 : ℕ)⟩

/-- `Math.round` of a real number. -/
noncomputable def roundReal (x : ℝ) : ℤ := ⌊x + 1 / (2 : ℕ)⌋

theorem abs_roundReal_sub_le (x : ℝ) : |(roundReal x : ℝ) - x| ≤ 1 / 2 := by
  have hle := Int.floor_le (x + 1 / 2)
  have hlt := Int.lt_floor_add_one (x + 1 / 2)
  rw [roundReal, Nat.cast_ofNat, abs_le]
  constructor <;> linarith

/-- The distance of two points on a sphere of 6371 kilometres, in metres. -/
noncomputable def sphereDistance (a b : Point) : ℝ :=
  (6371000 : ℕ) * GreatCircle.centralAngle (coords a) (coords b)

/-- `haversine` of the code. -/
noncomputable def haversineMeters (a b : Point) : ℤ :=
  let dLat : ℝ := (b.lat - a.lat) * Real.pi / (180 : ℕ)
  let dLng : ℝ := (b.lng - a.lng) * Real.pi / (180 : ℕ)
  let lat1 : ℝ := a.lat * Real.pi / (180 : ℕ)
  let lat2 : ℝ := b.lat * Real.pi / (180 : ℕ)
  let h := Real.sin (dLat / (2 : ℕ)) ^ 2 +
    Real.sin (dLng / (2 : ℕ)) ^ 2 * Real.cos lat1 * Real.cos lat2
  roundReal ((2 : ℕ) * (6371000 : ℕ) * Real.arcsin (Real.sqrt h))

/-- `Math.round((distanceMeters / 1000 / 30) * 3600)` -/
def durationAt30 (distanceMeters : ℤ) : ℤ := mathRound ((distanceMeters : ℚ) / 1000 / 30 * 3600)

/-- The estimate as the crow flies, of the distance `haversine` gives. -/
def estimate (haversine : Point → Point → ℤ) (origin destination : Point) : DistanceMatrixResult where
  origin := origin
  destination := destination
  distanceMeters := haversine origin destination
  durationSeconds := durationAt30 (haversine origin destination)

namespace MockDistanceProvider

noncomputable def getDistanceMatrix (origin destination : Point) : DistanceMatrixResult :=
  estimate haversineMeters origin destination

noncomputable def getRouteDistance (waypoints : List Point) : RouteDistance :=
  Id.run (routeLoop (m := Id) (fun a b => pure (getDistanceMatrix a b)) waypoints {})

end MockDistanceProvider

/-! ### The loop -/

theorem routeLoop_pure (matrix : Point → Point → DistanceMatrixResult) (waypoints : List Point)
    (route : RouteDistance) :
    Id.run (routeLoop (m := Id) (fun a b => pure (matrix a b)) waypoints route) =
      { totalDistanceMeters := route.totalDistanceMeters +
          ((legs waypoints).map fun leg => (matrix leg.1 leg.2).distanceMeters).sum
        totalDurationSeconds := route.totalDurationSeconds +
          ((legs waypoints).map fun leg => (matrix leg.1 leg.2).durationSeconds).sum
        legs := route.legs ++ (legs waypoints).map fun leg => matrix leg.1 leg.2 } := by
  induction waypoints using legs.induct generalizing route with
  | case1 a b rest ih =>
    have hloop := ih (route.push (matrix a b))
    simp only [routeLoop, Id.run, pure, bind] at hloop ⊢
    rw [hloop]
    simp [RouteDistance.push, add_assoc]
  | case2 points h =>
    cases points with
    | nil => simp [routeLoop, legs]
    | cons a rest =>
      cases rest with
      | nil => simp [routeLoop, legs]
      | cons b rest => exact absurd rfl (h a b rest)

/-! ### Leaving stops out -/

theorem sphereDistance_nonneg (a b : Point) : 0 ≤ sphereDistance a b :=
  mul_nonneg (Nat.cast_nonneg _) (GreatCircle.centralAngle_nonneg (coords a) (coords b))

theorem sphereDistance_triangle (a b c : Point) :
    sphereDistance a c ≤ sphereDistance a b + sphereDistance b c := by
  have hangle := GreatCircle.centralAngle_triangle (coords a) (coords b) (coords c)
  rw [sphereDistance, sphereDistance, sphereDistance, ← mul_add]
  exact mul_le_mul_of_nonneg_left hangle (Nat.cast_nonneg _)

/-- The code computes the distance on the sphere, to the metre. -/
theorem haversineMeters_eq (a b : Point) : haversineMeters a b = roundReal (sphereDistance a b) := by
  have hlat : ((b.lat : ℝ) - a.lat) * Real.pi / (180 : ℕ) / (2 : ℕ) =
      (b.lat * Real.pi / (180 : ℕ) - a.lat * Real.pi / (180 : ℕ)) / (2 : ℕ) := by ring
  have hlng : ((b.lng : ℝ) - a.lng) * Real.pi / (180 : ℕ) / (2 : ℕ) =
      (b.lng * Real.pi / (180 : ℕ) - a.lng * Real.pi / (180 : ℕ)) / (2 : ℕ) := by ring
  simp only [haversineMeters, sphereDistance, GreatCircle.centralAngle, GreatCircle.haversine, coords]
  rw [hlat, hlng]
  congr 1
  ring

/-- The total of a route is within half a metre a leg of the length of the walk on the sphere. -/
theorem abs_getRouteDistance_sub_le (waypoints : List Point) :
    |((MockDistanceProvider.getRouteDistance waypoints).totalDistanceMeters : ℝ) -
      walkLength sphereDistance waypoints| ≤ (waypoints.length - 1 : ℕ) * (1 / 2) := by
  have htotal : ((MockDistanceProvider.getRouteDistance waypoints).totalDistanceMeters : ℝ) =
      walkLength (fun a b => (haversineMeters a b : ℝ)) waypoints := by
    rw [MockDistanceProvider.getRouteDistance, routeLoop_pure, walkLength]
    simp [MockDistanceProvider.getDistanceMatrix, estimate, Function.comp_def]
  rw [htotal, ← length_legs waypoints]
  refine abs_sum_sub_walkLength_le (fun a b => ?_) waypoints
  rw [haversineMeters_eq]
  exact abs_roundReal_sub_le _

end Telima.Distance
