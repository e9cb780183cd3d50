import Telima.Data.OrderBy

/-!
# Stable sorts

A stable sort puts the elements in the order of their keys, and elements with the same key stay in the
order they came in.  There is one such list (`StableSort.unique`); a merge sort gives it, also when it
is run again after every element that is added (`StableSort.insertAll`).
-/

namespace Telima

variable {α κ : Type} [LinearOrder κ]

/-- The elements of the list, by key; those with the same key in the order of the list. -/
structure StableSort (key : α → κ) (l result : List α) : Prop where
  sorted : result.Pairwise fun a b => key a ≤ key b
  classes : ∀ k, (result.filter fun a => decide (key a = k)) = l.filter fun a => decide (key a = k)

namespace StableSort

variable {key : α → κ} {l l' result result' : List α}

theorem mem_iff (h : StableSort key l result) {a : α} : a ∈ result ↔ a ∈ l := by
  have hclass := h.classes (key a)
  have hmem : ∀ xs : List α, a ∈ xs ↔ a ∈ xs.filter fun b => decide (key b = key a) := by
    intro xs
    simp
  rw [hmem result, hmem l, hclass]

theorem nil : StableSort key [] ([] : List α) := ⟨List.Pairwise.nil, fun _ => rfl⟩

/-- A merge sort is stable. -/
theorem mergeSort (l : List α) :
    StableSort key l (l.mergeSort fun a b => decide (key a ≤ key b)) where
  sorted := (OrderedBy.mergeSort_of_perm (List.Perm.refl l)).sorted
  classes k := by
    have hclass : (l.filter fun a => decide (key a = k)).Pairwise
        fun a b => decide (key a ≤ key b) = true := by
      rw [List.pairwise_filter]
      refine List.pairwise_of_forall fun a b ha hb => ?_
      have hkey : key a = key b := by
        rw [of_decide_eq_true ha, of_decide_eq_true hb]
      exact decide_eq_true hkey.le
    have hsub : (l.filter fun a => decide (key a = k)).Sublist
        (l.mergeSort fun a b => decide (key a ≤ key b)) :=
      List.sublist_mergeSort OrderedBy.decide_trans OrderedBy.decide_total hclass List.filter_sublist
    have hsub' := hsub.filter fun a => decide (key a = k)
    simp only [List.filter_filter, Bool.and_self] at hsub'
    have hperm := (List.mergeSort_perm l fun a b => decide (key a ≤ key b)).filter
      fun a => decide (key a = k)
    exact (hsub'.eq_of_length hperm.length_eq.symm).symm

/-- The sort of what a sort gave, with more elements, is the sort of all. -/
theorem append (h : StableSort key l result) (h' : StableSort key (result ++ l') result') :
    StableSort key (l ++ l') result' where
  sorted := h'.sorted
  classes k := by rw [h'.classes k, List.filter_append, h.classes k, List.filter_append]

/-- The list is sorted again after every element that is added. -/
theorem insertAll (h : StableSort key l result) (added : List α) :
    StableSort key (l ++ added) (added.foldl (fun result a =>
      (result ++ [a]).mergeSort fun a b => decide (key a ≤ key b)) result) := by
  induction added generalizing l result with
  | nil =>
    rw [List.append_nil]
    exact h
  | cons a added ih =>
    have hstep := ih (h.append (mergeSort (result ++ [a])))
    rwa [List.append_assoc] at hstep

/-- Two sorted lists with the same elements of each key are the same. -/
theorem unique (h : StableSort key l result) (h' : StableSort key l result') : result = result' := by
  have hmem : ∀ a, a ∈ result ↔ a ∈ result' := fun a => h.mem_iff.trans h'.mem_iff.symm
  have hclasses : ∀ k, (result.filter fun a => decide (key a = k)) =
      result'.filter fun a => decide (key a = k) := fun k => (h.classes k).trans (h'.classes k).symm
  have hsorted := h.sorted
  have hsorted' := h'.sorted
  clear h h'
  induction result generalizing result' with
  | nil =>
    cases result' with
    | nil => rfl
    | cons b rest' => exact absurd ((hmem b).mpr List.mem_cons_self) List.not_mem_nil
  | cons a rest ih =>
    cases result' with
    | nil => exact absurd ((hmem a).mp List.mem_cons_self) List.not_mem_nil
    | cons b rest' =>
      obtain ⟨hfirst, hrest⟩ := List.pairwise_cons.mp hsorted
      obtain ⟨hfirst', hrest'⟩ := List.pairwise_cons.mp hsorted'
      -- both lists begin with an element of the smallest key
      have hab : key a ≤ key b := by
        rcases List.mem_cons.mp ((hmem b).mpr List.mem_cons_self) with rfl | hb
        · exact le_rfl
        · exact hfirst b hb
      have hba : key b ≤ key a := by
        rcases List.mem_cons.mp ((hmem a).mp List.mem_cons_self) with rfl | ha
        · exact le_rfl
        · exact hfirst' a ha
      have hkey : key b = key a := le_antisymm hba hab
      have hclass := hclasses (key a)
      rw [List.filter_cons_of_pos (by simp), List.filter_cons_of_pos (by simp [hkey])] at hclass
      obtain ⟨rfl, -⟩ := List.cons.inj hclass
      have hclasses' : ∀ k, (rest.filter fun a => decide (key a = k)) =
          rest'.filter fun a => decide (key a = k) := by
        intro k
        have hk := hclasses k
        simp only [List.filter_cons] at hk
        split_ifs at hk with ha
        · exact (List.cons.inj hk).2
        · exact hk
      have hmem' : ∀ x, x ∈ rest ↔ x ∈ rest' := by
        intro x
        have hx : x ∈ (rest.filter fun a => decide (key a = key x)) ↔
            x ∈ rest'.filter fun a => decide (key a = key x) := by rw [hclasses' (key x)]
        simpa using hx
      rw [ih hmem' hclasses' hrest hrest']

end StableSort

/-- Elements with different keys may come in any order. -/
theorem filter_key_eq_of_perm {key : α → κ} {l l' : List α}
    (hdistinct : l.Pairwise fun a b => key a ≠ key b) (hperm : l.Perm l') (k : κ) :
    (l.filter fun a => decide (key a = k)) = l'.filter fun a => decide (key a = k) := by
  have hfilter := hperm.filter fun a => decide (key a = k)
  have hpairwise : (l.filter fun a => decide (key a = k)).Pairwise fun a b => key a ≠ key b :=
    hdistinct.filter _
  cases hl : l.filter fun a => decide (key a = k) with
  | nil =>
    rw [hl] at hfilter
    exact (List.nil_perm.mp hfilter).symm
  | cons a rest =>
    have hkeys : ∀ x ∈ a :: rest, key x = k := by
      intro x hx
      rw [← hl] at hx
      simpa using (List.mem_filter.mp hx).2
    rw [hl] at hfilter hpairwise
    -- two elements would have the key `k`
    have hrest : rest = [] := by
      rw [List.eq_nil_iff_forall_not_mem]
      intro b hb
      have hne := (List.pairwise_cons.mp hpairwise).1 b hb
      have ha := hkeys a List.mem_cons_self
      exact hne (ha.trans (hkeys b (List.mem_cons_of_mem a hb)).symm)
    rw [hrest] at hfilter ⊢
    exact List.singleton_perm.mp hfilter

end Telima
