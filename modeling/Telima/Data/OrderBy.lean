import Mathlib.Data.List.Basic
import Mathlib.Order.Lattice

/-!
# Rows in an order

`ORDER BY key` sorts the rows by their keys, and says nothing about rows with the same key.  What holds
of every order a query may return is what holds of any two rows whose keys allow it
(`OrderedBy.pairwise_iff`).
-/

namespace Telima

variable {α κ : Type} [LinearOrder κ]

/-- The rows, in an order in which `ORDER BY key` may return them. -/
structure OrderedBy (key : α → κ) (rows result : List α) : Prop where
  perm : result.Perm rows
  sorted : result.Pairwise fun a b => key a ≤ key b

namespace OrderedBy

variable {key : α → κ} {rows result : List α}

theorem mem_iff (h : OrderedBy key rows result) {a : α} : a ∈ result ↔ a ∈ rows := h.perm.mem_iff

theorem decide_trans (a b c : α) (hab : decide (key a ≤ key b) = true)
    (hbc : decide (key b ≤ key c) = true) : decide (key a ≤ key c) = true :=
  decide_eq_true ((of_decide_eq_true hab).trans (of_decide_eq_true hbc))

theorem decide_total (a b : α) : (decide (key a ≤ key b) || decide (key b ≤ key a)) = true := by
  rw [Bool.or_eq_true, decide_eq_true_iff, decide_eq_true_iff]
  exact le_total (key a) (key b)

/-- A stable sort is such an order, and so is one of the rows in another order. -/
theorem mergeSort_of_perm {rows' : List α} (h : rows'.Perm rows) :
    OrderedBy key rows (rows'.mergeSort fun a b => decide (key a ≤ key b)) where
  perm := (List.mergeSort_perm rows' _).trans h
  sorted := by
    have hsorted : (rows'.mergeSort fun a b => decide (key a ≤ key b)).Pairwise
        fun a b => decide (key a ≤ key b) = true :=
      List.pairwise_mergeSort decide_trans decide_total rows'
    exact hsorted.imp of_decide_eq_true

theorem exists_orderedBy (key : α → κ) (rows : List α) : ∃ result, OrderedBy key rows result :=
  ⟨_, mergeSort_of_perm (List.Perm.refl rows)⟩

/-- A row may come before any other whose key is not smaller. -/
theorem exists_before {a b : α} (ha : a ∈ rows) (hb : b ∈ rows) (hne : a ≠ b)
    (hle : key a ≤ key b) : ∃ result, OrderedBy key rows result ∧ [a, b].Sublist result := by
  classical
  have hperm : (a :: rows.erase a).Perm rows := (List.perm_cons_erase ha).symm
  refine ⟨_, mergeSort_of_perm hperm, ?_⟩
  have hafter : [a, b].Sublist (a :: rows.erase a) := by
    refine List.Sublist.cons_cons a (List.singleton_sublist.mpr ?_)
    exact (List.mem_erase_of_ne (Ne.symm hne)).mpr hb
  exact List.pair_sublist_mergeSort decide_trans decide_total (decide_eq_true hle) hafter

/-- What holds of any two rows in every order the query may return. -/
theorem pairwise_iff {R : α → α → Prop} (hrefl : ∀ a, R a a) :
    (∀ result, OrderedBy key rows result → result.Pairwise R) ↔
      ∀ a ∈ rows, ∀ b ∈ rows, key a ≤ key b → R a b := by
  constructor
  · intro h a ha b hb hle
    by_cases hne : a = b
    · obtain rfl := hne
      exact hrefl a
    · obtain ⟨result, hresult, hsub⟩ := exists_before ha hb hne hle
      have hpair := (h result hresult).sublist hsub
      exact List.rel_of_pairwise_cons hpair List.mem_cons_self
  · intro h result hresult
    refine hresult.sorted.imp_of_mem fun ha hb hle => ?_
    exact h _ (hresult.mem_iff.mp ha) _ (hresult.mem_iff.mp hb) hle

end OrderedBy

end Telima
