import Mathlib.Data.Rat.Floor
import Mathlib.Tactic.Linarith
import Mathlib.Tactic.Positivity

/-!
# Amounts

A `Decimal(_, 2)` column holds a multiple of one hundredth.  The code computes with JavaScript
numbers; they are modelled by exact rationals.  `Number` reads a column and `ofNumber` is what the
database stores for a number: it rounds to two decimals, halves away from zero.
-/

namespace Telima

/-- The value of a `Decimal(_, 2)` column, in hundredths. -/
abbrev Decimal2 : Type := ℤ

namespace Decimal2

/-- `Number(column)`. -/
def toNumber (d : Decimal2) : ℚ := (d : ℚ) / 100

/-- The column value the database stores for a number. -/
def ofNumber (q : ℚ) : Decimal2 := if 0 ≤ q then ⌊q * 100 + 1 / 2⌋ else -⌊-q * 100 + 1 / 2⌋

/-- `{ increment: q }`. -/
def increment (d : Decimal2) (q : ℚ) : Decimal2 := ofNumber (d.toNumber + q)

/-- `{ decrement: q }`. -/
def decrement (d : Decimal2) (q : ℚ) : Decimal2 := ofNumber (d.toNumber - q)

/-- The number `q` has at most two decimals. -/
def Exact (q : ℚ) : Prop := toNumber (ofNumber q) = q

@[simp] theorem ofNumber_toNumber (d : Decimal2) : ofNumber d.toNumber = d := by
  have h : (d : ℚ) / 100 * 100 = d := by ring
  have hneg : -((d : ℚ) / 100) * 100 = ((-d : ℤ) : ℚ) := by push_cast; ring
  unfold ofNumber toNumber
  rw [h, hneg]
  have hfloor : ∀ n : ℤ, ⌊(n : ℚ) + 1 / 2⌋ = n := fun n => by
    rw [Int.floor_intCast_add]
    norm_num
  split_ifs
  · exact hfloor d
  · rw [hfloor]; ring

theorem exact_toNumber (d : Decimal2) : Exact d.toNumber := by
  rw [Exact, ofNumber_toNumber]

/-- A stored amount changes by exactly a stored amount. -/
@[simp] theorem decrement_toNumber (d e : Decimal2) : d.decrement e.toNumber = d - e := by
  have h : d.toNumber - e.toNumber = (d - e : Decimal2).toNumber := by
    simp only [toNumber]; push_cast; ring
  rw [decrement, h, ofNumber_toNumber]

@[simp] theorem increment_toNumber (d e : Decimal2) : d.increment e.toNumber = d + e := by
  have h : d.toNumber + e.toNumber = (d + e : Decimal2).toNumber := by
    simp only [toNumber]; push_cast; ring
  rw [increment, h, ofNumber_toNumber]

/-- A stored amount changes by a number of at most two decimals exactly. -/
theorem decrement_of_exact {q : ℚ} (h : Exact q) (d : Decimal2) :
    d.decrement q = d - ofNumber q := by
  rw [← decrement_toNumber, h]

theorem increment_of_exact {q : ℚ} (h : Exact q) (d : Decimal2) :
    d.increment q = d + ofNumber q := by
  rw [← increment_toNumber, h]

theorem toNumber_add (d e : Decimal2) : (d + e : Decimal2).toNumber = d.toNumber + e.toNumber := by
  simp only [toNumber]
  push_cast
  ring

theorem toNumber_sub (d e : Decimal2) : (d - e : Decimal2).toNumber = d.toNumber - e.toNumber := by
  simp only [toNumber]
  push_cast
  ring

theorem toNumber_increment {q : ℚ} (h : Exact q) (d : Decimal2) :
    (d.increment q).toNumber = d.toNumber + q := by
  rw [increment_of_exact h, toNumber_add, h]

theorem ofNumber_nonneg {q : ℚ} (h : 0 ≤ q) : 0 ≤ ofNumber q := by
  rw [ofNumber, if_pos h]
  exact Int.floor_nonneg.mpr (by linarith)

theorem toNumber_nonneg {d : Decimal2} (h : 0 ≤ d) : 0 ≤ d.toNumber :=
  div_nonneg (by exact_mod_cast h) (by norm_num)

/-- Rounding moves a number by at most half a hundredth. -/
theorem ofNumber_le (q : ℚ) : (ofNumber q : ℚ) ≤ q * 100 + 1 / 2 := by
  unfold ofNumber
  split_ifs with h
  · exact Int.floor_le _
  · have hlt := Int.lt_floor_add_one (-q * 100 + 1 / 2)
    push_cast
    linarith

/-- A decrement by at least one hundredth is seen. -/
theorem decrement_lt {q : ℚ} (h : 1 / 100 ≤ q) (d : Decimal2) : d.decrement q < d := by
  have hle := ofNumber_le (d.toNumber - q)
  have hnum : (d.toNumber - q) * 100 = (d : ℚ) - q * 100 := by unfold toNumber; ring
  rw [hnum] at hle
  have hlt : (d.decrement q : ℚ) < d := by unfold decrement; linarith
  exact_mod_cast hlt

end Decimal2

/-- `Math.round`. -/
def mathRound (x : ℚ) : ℤ := ⌊x + 1 / 2⌋

theorem mathRound_mono {x y : ℚ} (h : x ≤ y) : mathRound x ≤ mathRound y :=
  Int.floor_le_floor (by linarith)

@[simp] theorem mathRound_intCast (n : ℤ) : mathRound (n : ℚ) = n := by
  rw [mathRound, Int.floor_intCast_add]
  norm_num

theorem abs_mathRound_sub_le (x : ℚ) : |(mathRound x : ℚ) - x| ≤ 1 / 2 := by
  have hle := Int.floor_le (x + 1 / 2)
  have hlt := Int.lt_floor_add_one (x + 1 / 2)
  rw [mathRound, abs_le]
  constructor
  · linarith
  · linarith

theorem mathRound_nonneg {x : ℚ} (h : 0 ≤ x) : 0 ≤ mathRound x :=
  Int.floor_nonneg.mpr (by linarith)

/-- The column value of a whole number. -/
def Decimal2.ofInt (n : ℤ) : Decimal2 := n * 100

theorem Decimal2.toNumber_ofInt (n : ℤ) : (Decimal2.ofInt n).toNumber = n := by
  simp only [Decimal2.ofInt, Decimal2.toNumber]
  push_cast
  ring

theorem Decimal2.ofNumber_intCast (n : ℤ) : Decimal2.ofNumber n = Decimal2.ofInt n := by
  rw [← Decimal2.toNumber_ofInt, Decimal2.ofNumber_toNumber]

theorem Decimal2.exact_intCast (n : ℤ) : Decimal2.Exact n := by
  rw [← Decimal2.toNumber_ofInt]
  exact Decimal2.exact_toNumber _

/-- A stored price less a whole amount has two decimals. -/
theorem Decimal2.exact_toNumber_sub_intCast (d : Decimal2) (n : ℤ) :
    Decimal2.Exact (d.toNumber - n) := by
  rw [← Decimal2.toNumber_ofInt n, ← Decimal2.toNumber_sub]
  exact Decimal2.exact_toNumber _

end Telima
