import Mathlib.Algebra.Order.BigOperators.Group.List
import Mathlib.Data.Real.Basic
import Mathlib.Tactic.Linarith

/-!
# Walks

The length of a walk is the sum of the distances between the points it visits one after the other.  With
the triangle inequality, a walk that leaves points out is not longer (`walkLength_le_of_sublist`).  The
legs of a walk may be measured one by one, and rounded (`abs_sum_sub_walkLength_le`).
-/

namespace Telima

variable {α : Type}

/-- The consecutive pairs of a list. -/
def legs : List α → List (α × α)
  | a :: b :: rest => (a, b) :: legs (b :: rest)
  | _ => []

@[simp] theorem legs_cons_cons (a b : α) (rest : List α) :
    legs (a :: b :: rest) = (a, b) :: legs (b :: rest) := rfl

@[simp] theorem length_legs (points : List α) : (legs points).length = points.length - 1 := by
  induction points using legs.induct with
  | case1 a b rest ih => simp [ih]
  | case2 points h =>
    cases points with
    | nil => rfl
    | cons a rest =>
      cases rest with
      | nil => rfl
      | cons b rest => exact absurd rfl (h a b rest)

/-- The length of a walk through the points, in order. -/
def walkLength (d : α → α → ℝ) (points : List α) : ℝ :=
  ((legs points).map fun leg => d leg.1 leg.2).sum

section Length

variable {d : α → α → ℝ}

@[simp] theorem walkLength_cons_cons (a b : α) (rest : List α) :
    walkLength d (a :: b :: rest) = d a b + walkLength d (b :: rest) := by
  simp [walkLength]

@[simp] theorem walkLength_singleton (a : α) : walkLength d [a] = 0 := rfl

theorem walkLength_nonneg (hd : ∀ a b, 0 ≤ d a b) (points : List α) : 0 ≤ walkLength d points := by
  refine List.sum_nonneg fun x hx => ?_
  obtain ⟨leg, -, rfl⟩ := List.mem_map.mp hx
  exact hd _ _

theorem walkLength_le_cons (hd : ∀ a b, 0 ≤ d a b) (a : α) (points : List α) :
    walkLength d points ≤ walkLength d (a :: points) := by
  cases points with
  | nil => exact le_rfl
  | cons b rest =>
    rw [walkLength_cons_cons]
    linarith [hd a b]

/-- Two walks that start at the same point. -/
theorem walkLength_cons_le_of_sublist (hd : ∀ a b, 0 ≤ d a b)
    (htriangle : ∀ a b c, d a c ≤ d a b + d b c) {points points' : List α}
    (h : points'.Sublist points) (a : α) :
    walkLength d (a :: points') ≤ walkLength d (a :: points) := by
  induction h generalizing a with
  | slnil => exact le_rfl
  | @cons points' points b _ ih =>
    -- the second walk also visits `b`, before anything else
    cases points' with
    | nil =>
      rw [walkLength_singleton]
      exact walkLength_nonneg hd _
    | cons c rest =>
      have hrest := ih b
      rw [walkLength_cons_cons] at hrest ⊢
      rw [walkLength_cons_cons]
      linarith [htriangle a b c]
  | cons_cons b _ ih =>
    rw [walkLength_cons_cons, walkLength_cons_cons]
    linarith [ih b]

/-- A walk that leaves points out is not longer. -/
theorem walkLength_le_of_sublist (hd : ∀ a b, 0 ≤ d a b)
    (htriangle : ∀ a b c, d a c ≤ d a b + d b c) {points points' : List α}
    (h : points'.Sublist points) : walkLength d points' ≤ walkLength d points := by
  induction h with
  | slnil => exact le_rfl
  | cons a _ ih => exact ih.trans (walkLength_le_cons hd a _)
  | cons_cons a h _ => exact walkLength_cons_le_of_sublist hd htriangle h a

/-- The legs measured with an error each. -/
theorem abs_sum_sub_walkLength_le {measured : α → α → ℝ} {e : ℝ}
    (h : ∀ a b, |measured a b - d a b| ≤ e) (points : List α) :
    |walkLength measured points - walkLength d points| ≤ (legs points).length * e := by
  rw [walkLength, walkLength]
  induction legs points with
  | nil => simp
  | cons leg rest ih =>
    have hleg := abs_le.mp (h leg.1 leg.2)
    have hrest := abs_le.mp ih
    simp only [List.map_cons, List.sum_cons, List.length_cons, Nat.cast_succ]
    rw [abs_le]
    constructor <;> linarith

end Length

end Telima
