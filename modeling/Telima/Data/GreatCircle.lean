import Mathlib.Analysis.InnerProductSpace.PiL2
import Mathlib.Geometry.Euclidean.Angle.Unoriented.TriangleInequality

/-!
# Angles on a sphere

The haversine formula gives the angle at the centre of a sphere between two points with a latitude and a
longitude.  It is the angle between the vectors from the centre to the points (`centralAngle_eq_angle`),
so it is a pseudometric on the coordinates: symmetric, with the triangle inequality, and at most `π`.
-/

namespace Telima.GreatCircle

open Real

/-- A latitude and a longitude, in radians. -/
structure Coords where
  lat : ℝ
  lng : ℝ

/-- The vector from the centre of the unit sphere to the point. -/
noncomputable def Coords.vector (a : Coords) : Fin 3 → ℝ :=
  ![cos a.lat * cos a.lng, cos a.lat * sin a.lng, sin a.lat]

/-- `sin²(Δlat / 2) + cos lat₁ cos lat₂ sin²(Δlng / 2)` -/
noncomputable def haversine (a b : Coords) : ℝ :=
  sin ((b.lat - a.lat) / (2 : ℕ)) ^ 2 +
    sin ((b.lng - a.lng) / (2 : ℕ)) ^ 2 * cos a.lat * cos b.lat

/-- The haversine formula. -/
noncomputable def centralAngle (a b : Coords) : ℝ := (2 : ℕ) * arcsin (sqrt (haversine a b))

theorem haversine_eq (a b : Coords) : haversine a b =
    sin ((b.lat - a.lat) / 2) ^ 2 + sin ((b.lng - a.lng) / 2) ^ 2 * cos a.lat * cos b.lat := by
  rw [haversine, Nat.cast_ofNat]

theorem centralAngle_eq (a b : Coords) : centralAngle a b = 2 * arcsin (sqrt (haversine a b)) := by
  rw [centralAngle, Nat.cast_ofNat]

theorem inner_vector (a b : Coords) : inner ℝ (WithLp.toLp 2 a.vector) (WithLp.toLp 2 b.vector) = 1 - 2 * haversine a b := by
  have hlat : cos (b.lat - a.lat) = 1 - 2 * sin ((b.lat - a.lat) / 2) ^ 2 := by
    have h := cos_two_mul ((b.lat - a.lat) / 2)
    have hsq := sin_sq_add_cos_sq ((b.lat - a.lat) / 2)
    rw [mul_div_cancel₀ _ (two_ne_zero' ℝ)] at h
    linarith
  have hlng : cos (b.lng - a.lng) = 1 - 2 * sin ((b.lng - a.lng) / 2) ^ 2 := by
    have h := cos_two_mul ((b.lng - a.lng) / 2)
    have hsq := sin_sq_add_cos_sq ((b.lng - a.lng) / 2)
    rw [mul_div_cancel₀ _ (two_ne_zero' ℝ)] at h
    linarith
  have hinner : inner ℝ (WithLp.toLp 2 a.vector) (WithLp.toLp 2 b.vector) =
      cos a.lat * cos b.lat * cos (b.lng - a.lng) + sin a.lat * sin b.lat := by
    rw [cos_sub]
    simp [Coords.vector, PiLp.inner_apply, Fin.sum_univ_three]
    ring
  rw [hinner, hlng, haversine_eq]
  have hcos := cos_sub b.lat a.lat
  rw [hlat] at hcos
  linarith

theorem norm_vector (a : Coords) : ‖WithLp.toLp 2 a.vector‖ = 1 := by
  have hself : inner ℝ (WithLp.toLp 2 a.vector) (WithLp.toLp 2 a.vector) = 1 := by
    rw [inner_vector, haversine_eq, sub_self, sub_self, zero_div, sin_zero]
    ring
  rw [real_inner_self_eq_norm_sq] at hself
  have hnonneg := norm_nonneg (WithLp.toLp 2 a.vector)
  nlinarith

theorem haversine_nonneg (a b : Coords) : 0 ≤ haversine a b := by
  have hle := real_inner_le_norm (WithLp.toLp 2 a.vector) (WithLp.toLp 2 b.vector)
  rw [inner_vector, norm_vector, norm_vector] at hle
  linarith

theorem haversine_le_one (a b : Coords) : haversine a b ≤ 1 := by
  have hle := neg_le_of_abs_le (abs_real_inner_le_norm (WithLp.toLp 2 a.vector) (WithLp.toLp 2 b.vector))
  rw [inner_vector, norm_vector, norm_vector] at hle
  linarith

/-- The formula gives the angle between the two vectors. -/
theorem centralAngle_eq_angle (a b : Coords) :
    centralAngle a b = InnerProductGeometry.angle (WithLp.toLp 2 a.vector) (WithLp.toLp 2 b.vector) := by
  have hnonneg := haversine_nonneg a b
  have hle := haversine_le_one a b
  have hroot : sqrt (haversine a b) ≤ 1 := sqrt_le_one.mpr hle
  have hsin : sin (arcsin (sqrt (haversine a b))) = sqrt (haversine a b) :=
    sin_arcsin (by linarith [sqrt_nonneg (haversine a b)]) hroot
  have hcos : cos (centralAngle a b) = 1 - 2 * haversine a b := by
    rw [centralAngle_eq, cos_two_mul, cos_sq', hsin, sq_sqrt hnonneg]
    ring
  have hlower : 0 ≤ centralAngle a b := by
    have h := arcsin_nonneg.mpr (sqrt_nonneg (haversine a b))
    rw [centralAngle_eq]
    linarith
  have hupper : centralAngle a b ≤ π := by
    have h := arcsin_le_pi_div_two (sqrt (haversine a b))
    rw [centralAngle_eq]
    linarith
  rw [InnerProductGeometry.angle, inner_vector, norm_vector, norm_vector, mul_one, div_one, ← hcos,
    arccos_cos hlower hupper]

theorem centralAngle_comm (a b : Coords) : centralAngle a b = centralAngle b a := by
  rw [centralAngle_eq_angle, centralAngle_eq_angle, InnerProductGeometry.angle_comm]

theorem centralAngle_nonneg (a b : Coords) : 0 ≤ centralAngle a b := by
  rw [centralAngle_eq_angle]
  exact InnerProductGeometry.angle_nonneg _ _

theorem centralAngle_le_pi (a b : Coords) : centralAngle a b ≤ π := by
  rw [centralAngle_eq_angle]
  exact InnerProductGeometry.angle_le_pi _ _

theorem centralAngle_triangle (a b c : Coords) :
    centralAngle a c ≤ centralAngle a b + centralAngle b c := by
  simp only [centralAngle_eq_angle]
  exact InnerProductGeometry.angle_le_angle_add_angle _ _ _

end Telima.GreatCircle
