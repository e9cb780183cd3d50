import Mathlib.Algebra.Order.AbsoluteValue.Basic
import Mathlib.Algebra.Order.Field.Basic
import Mathlib.Data.Rat.Floor
import Mathlib.Tactic.FieldSimp
import Mathlib.Tactic.Linarith
import Mathlib.Tactic.Ring

/-!
# Numbers with a fixed count of decimals

`toFixed d x` is what `x.toFixed(d)` gives for a value below `10 ^ 21`: the nearest number with `d` decimals,
where a tie goes away from zero.  Values with the same text are at most a unit of the last decimal apart
(`abs_sub_le_of_toFixed_eq`).
-/

namespace Telima

/-- `n / 10 ^ d`, with `d` digits after the point. -/
def fixedDigits (d n : ℕ) : List Char :=
  let digits := (Nat.toDigits 10 n).leftpad (d + 1) '0'
  digits.take (digits.length - d) ++ '.' :: digits.drop (digits.length - d)

/-- `x.toFixed(d)` -/
def toFixed (d : ℕ) (x : ℚ) : List Char :=
  if x < 0 then '-' :: fixedDigits d ⌊-x * 10 ^ d + 1 / 2⌋.toNat
  else fixedDigits d ⌊x * 10 ^ d + 1 / 2⌋.toNat

example : toFixed 4 (-126 / 10) = "-12.6000".toList ∧ toFixed 4 (12345 / 100000) = "0.1235".toList ∧
    toFixed 4 (-1 / 100000) = "-0.0000".toList := by decide +kernel

theorem length_padded (d n : ℕ) : d + 1 ≤ ((Nat.toDigits 10 n).leftpad (d + 1) '0').length := by
  rw [List.length_leftpad]
  exact le_max_left _ _

/-- Zeros in front do not change what digits stand for. -/
theorem ofDigitChars_leftpad (d n : ℕ) :
    Nat.ofDigitChars 10 ((Nat.toDigits 10 n).leftpad d '0') 0 = n := by
  rw [List.leftpad, Nat.ofDigitChars_append, Nat.ofDigitChars_replicate_zero, Nat.mul_zero,
    Nat.ofDigitChars_ten_toDigits]

theorem length_fixedDigits (d n : ℕ) :
    (fixedDigits d n).length = ((Nat.toDigits 10 n).leftpad (d + 1) '0').length + 1 := by
  have hpadded := length_padded d n
  rw [fixedDigits, List.length_append, List.length_cons, List.length_take, List.length_drop]
  omega

/-- The digits tell the number. -/
theorem fixedDigits_injective (d : ℕ) : Function.Injective (fixedDigits d) := by
  intro n n' h
  have hlength : ((Nat.toDigits 10 n).leftpad (d + 1) '0').length =
      ((Nat.toDigits 10 n').leftpad (d + 1) '0').length := by
    have := congrArg List.length h
    rwa [length_fixedDigits, length_fixedDigits, Nat.add_right_cancel_iff] at this
  -- the point is at the same place in both
  have hsplit := List.append_inj h (by rw [List.length_take, List.length_take, hlength])
  have hpadded : (Nat.toDigits 10 n).leftpad (d + 1) '0' = (Nat.toDigits 10 n').leftpad (d + 1) '0' := by
    rw [← List.take_append_drop (((Nat.toDigits 10 n).leftpad (d + 1) '0').length - d)
      ((Nat.toDigits 10 n).leftpad (d + 1) '0'), hsplit.1, (List.cons.inj hsplit.2).2,
      List.take_append_drop]
  rw [← ofDigitChars_leftpad (d + 1) n, hpadded, ofDigitChars_leftpad]

/-- The characters of a number. -/
theorem mem_fixedDigits {d n : ℕ} {c : Char} (h : c ∈ fixedDigits d n) : c = '.' ∨ c.isDigit = true := by
  have hdigit : ∀ c ∈ (Nat.toDigits 10 n).leftpad (d + 1) '0', c.isDigit = true := by
    intro c hc
    rw [List.leftpad, List.mem_append] at hc
    rcases hc with hc | hc
    · rw [List.eq_of_mem_replicate hc]
      rfl
    · exact Nat.isDigit_of_mem_toDigits (by omega) (by omega) hc
  rw [fixedDigits, List.mem_append, List.mem_cons] at h
  rcases h with h | rfl | h
  · exact Or.inr (hdigit c (List.mem_of_mem_take h))
  · exact Or.inl rfl
  · exact Or.inr (hdigit c (List.mem_of_mem_drop h))

theorem mem_toFixed {d : ℕ} {x : ℚ} {c : Char} (h : c ∈ toFixed d x) :
    c = '-' ∨ c = '.' ∨ c.isDigit = true := by
  rw [toFixed] at h
  split_ifs at h
  · rcases List.mem_cons.mp h with rfl | h
    · exact Or.inl rfl
    · exact Or.inr (mem_fixedDigits h)
  · exact Or.inr (mem_fixedDigits h)

/-- A number that is not negative is written without a sign. -/
theorem fixedDigits_ne_neg_cons (d n : ℕ) (text : List Char) : fixedDigits d n ≠ '-' :: text := by
  intro h
  have hsign : '-' ∈ fixedDigits d n := by rw [h]; exact List.mem_cons_self
  rcases mem_fixedDigits hsign with hpoint | hdigit
  · exact absurd hpoint (by decide)
  · exact absurd hdigit (by decide)

/-- The rounding of two values. -/
theorem abs_sub_le_of_round_eq {d : ℕ} {x y : ℚ} (hx : 0 ≤ x) (hy : 0 ≤ y)
    (h : ⌊x * 10 ^ d + 1 / 2⌋.toNat = ⌊y * 10 ^ d + 1 / 2⌋.toNat) : |x - y| ≤ 1 / 10 ^ d := by
  have hpow : (0 : ℚ) < 10 ^ d := by positivity
  have hnonneg : ∀ z : ℚ, 0 ≤ z → 0 ≤ ⌊z * 10 ^ d + 1 / 2⌋ := by
    intro z hz
    exact Int.floor_nonneg.mpr (by positivity)
  have hround : ⌊x * 10 ^ d + 1 / 2⌋ = ⌊y * 10 ^ d + 1 / 2⌋ := by
    have hx' := hnonneg x hx
    have hy' := hnonneg y hy
    omega
  have habs : |x * 10 ^ d + 1 / 2 - (y * 10 ^ d + 1 / 2)| < 1 := Int.abs_sub_lt_one_of_floor_eq_floor hround
  have hsub : x * 10 ^ d + 1 / 2 - (y * 10 ^ d + 1 / 2) = (x - y) * 10 ^ d := by ring
  rw [hsub, abs_mul, abs_of_pos hpow] at habs
  rw [le_div_iff₀ hpow]
  exact habs.le

/-- Values with the same text are at most a unit of the last decimal apart. -/
theorem abs_sub_le_of_toFixed_eq {d : ℕ} {x y : ℚ} (h : toFixed d x = toFixed d y) :
    |x - y| ≤ 1 / 10 ^ d := by
  rw [toFixed, toFixed] at h
  by_cases hx : x < 0
  · by_cases hy : y < 0
    · rw [if_pos hx, if_pos hy] at h
      have hround := fixedDigits_injective d (List.cons.inj h).2
      have habs := abs_sub_le_of_round_eq (neg_nonneg.mpr hx.le) (neg_nonneg.mpr hy.le) hround
      have hsub : -x - -y = -(x - y) := by ring
      rwa [hsub, abs_neg] at habs
    · rw [if_pos hx, if_neg hy] at h
      exact absurd h.symm (fixedDigits_ne_neg_cons d _ _)
  · by_cases hy : y < 0
    · rw [if_neg hx, if_pos hy] at h
      exact absurd h (fixedDigits_ne_neg_cons d _ _)
    · rw [if_neg hx, if_neg hy] at h
      exact abs_sub_le_of_round_eq (not_lt.mp hx) (not_lt.mp hy) (fixedDigits_injective d h)

/-- Where a separator comes that is not in what stands before it. -/
theorem append_cons_inj_of_not_mem {α : Type} [BEq α] [LawfulBEq α] {a : α} {l l' r r' : List α}
    (hl : a ∉ l) (hl' : a ∉ l') (h : l ++ a :: r = l' ++ a :: r') : l = l' ∧ r = r' := by
  have hsplit := congrArg (List.takeWhile (· != a)) h
  have htake : ∀ {l r : List α}, a ∉ l → (l ++ a :: r).takeWhile (· != a) = l := by
    intro l r hl
    have hall : ∀ b ∈ l, (b != a) = true := by
      intro b hb
      exact bne_iff_ne.mpr fun hba => hl (hba ▸ hb)
    rw [List.takeWhile_append_of_pos hall, List.takeWhile_cons_of_neg (by simp), List.append_nil]
  rw [htake hl, htake hl'] at hsplit
  subst hsplit
  exact ⟨rfl, (List.cons.inj (List.append_cancel_left h)).2⟩

end Telima
