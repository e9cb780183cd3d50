import Mathlib.Analysis.SpecialFunctions.Sqrt

/-!
# Rounding a square root

`roundSqrt q` is the square root of a rational number rounded to an integer, ties to even, as a cast of
a double to an integer does; it is computed without the square root.
-/

namespace Telima

/-- The square root, rounded to the nearest integer, ties to even. -/
def roundSqrt (q : ℚ) : ℕ :=
  let n := Nat.sqrt ⌊q⌋₊
  let half : ℚ := n + 1 / 2
  if q < half ^ 2 then n
  else if half ^ 2 < q then n + 1
  else if Even n then n
  else n + 1

theorem sq_sqrt_floor_le {q : ℚ} (hq : 0 ≤ q) : ((Nat.sqrt ⌊q⌋₊ : ℕ) : ℚ) ^ 2 ≤ q := by
  have hle : Nat.sqrt ⌊q⌋₊ ^ 2 ≤ ⌊q⌋₊ := Nat.sqrt_le' _
  calc ((Nat.sqrt ⌊q⌋₊ : ℕ) : ℚ) ^ 2 = ((Nat.sqrt ⌊q⌋₊ ^ 2 : ℕ) : ℚ) := by push_cast; rfl
    _ ≤ (⌊q⌋₊ : ℚ) := by exact_mod_cast hle
    _ ≤ q := Nat.floor_le hq

theorem lt_sq_sqrt_floor_succ (q : ℚ) : q < ((Nat.sqrt ⌊q⌋₊ : ℕ) + 1 : ℚ) ^ 2 := by
  have hlt : ⌊q⌋₊ < (Nat.sqrt ⌊q⌋₊ + 1) ^ 2 := Nat.lt_succ_sqrt' _
  calc q < (⌊q⌋₊ : ℚ) + 1 := Nat.lt_floor_add_one q
    _ ≤ (((Nat.sqrt ⌊q⌋₊ + 1) ^ 2 : ℕ) : ℚ) := by exact_mod_cast hlt
    _ = ((Nat.sqrt ⌊q⌋₊ : ℕ) + 1 : ℚ) ^ 2 := by push_cast; rfl

/-- The rounded square root is at most a half away. -/
theorem abs_roundSqrt_sub_sqrt_le {q : ℚ} (hq : 0 ≤ q) :
    |(roundSqrt q : ℝ) - Real.sqrt q| ≤ 1 / 2 := by
  have hlower : ((Nat.sqrt ⌊q⌋₊ : ℕ) : ℝ) ≤ Real.sqrt q := by
    refine Real.le_sqrt_of_sq_le ?_
    exact_mod_cast sq_sqrt_floor_le hq
  have hupper : Real.sqrt q ≤ ((Nat.sqrt ⌊q⌋₊ : ℕ) : ℝ) + 1 := by
    refine Real.sqrt_le_iff.mpr ⟨by positivity, ?_⟩
    exact_mod_cast (lt_sq_sqrt_floor_succ q).le
  have hbelow : q ≤ ((Nat.sqrt ⌊q⌋₊ : ℕ) + 1 / 2 : ℚ) ^ 2 →
      Real.sqrt q ≤ ((Nat.sqrt ⌊q⌋₊ : ℕ) : ℝ) + 1 / 2 := by
    intro h
    refine Real.sqrt_le_iff.mpr ⟨by positivity, ?_⟩
    have hreal : (q : ℝ) ≤ (((Nat.sqrt ⌊q⌋₊ : ℕ) + 1 / 2 : ℚ) ^ 2 : ℚ) := Rat.cast_le.mpr h
    push_cast at hreal
    exact hreal
  have habove : ((Nat.sqrt ⌊q⌋₊ : ℕ) + 1 / 2 : ℚ) ^ 2 ≤ q →
      ((Nat.sqrt ⌊q⌋₊ : ℕ) : ℝ) + 1 / 2 ≤ Real.sqrt q := by
    intro h
    refine Real.le_sqrt_of_sq_le ?_
    have hreal : ((((Nat.sqrt ⌊q⌋₊ : ℕ) + 1 / 2 : ℚ) ^ 2 : ℚ) : ℝ) ≤ q := Rat.cast_le.mpr h
    push_cast at hreal
    exact hreal
  unfold roundSqrt
  dsimp only
  rw [abs_le]
  split_ifs with hlt hgt heven
  · have h := hbelow hlt.le
    constructor <;> linarith
  · have h := habove hgt.le
    push_cast
    constructor <;> linarith
  · have h := hbelow (not_lt.mp hgt)
    constructor <;> linarith
  · have h := habove (not_lt.mp hlt)
    push_cast
    constructor <;> linarith

/-- Up to a half, it is rounded to zero. -/
theorem roundSqrt_of_le {q : ℚ} (h : q ≤ 1 / 4) : roundSqrt q = 0 := by
  have hfloor : Nat.sqrt ⌊q⌋₊ = 0 := by
    rw [Nat.floor_eq_zero.mpr (by linarith), Nat.sqrt_zero]
  have hhalf : ((0 : ℕ) + 1 / 2 : ℚ) ^ 2 = 1 / 4 := by norm_num
  unfold roundSqrt
  rw [hfloor]
  dsimp only
  rw [hhalf, if_neg (not_lt.mpr h), if_pos (by decide : Even 0), ite_self]

end Telima
