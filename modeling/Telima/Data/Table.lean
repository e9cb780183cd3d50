import Mathlib.Algebra.BigOperators.Group.List.Basic
import Mathlib.Data.List.Nodup
import Mathlib.Tactic.Abel
import Mathlib.Tactic.SplitIfs

/-!
# Keyed tables

A `Table κ α key` is a list of rows, in the order a query without `orderBy` returns them, no two of
which have the same key.  Rows are added, changed and deleted; a change keeps the row's key.
-/

namespace Telima

/-- Rows with distinct keys. -/
@[ext]
structure Table (κ α : Type) (key : α → κ) where
  rows : List α
  nodup : (rows.map key).Nodup
  deriving DecidableEq

namespace Table

variable {κ α : Type} {key : α → κ}

/-- The table with no rows. -/
def empty : Table κ α key := ⟨[], List.nodup_nil⟩

/-- The table with one row. -/
def single (r : α) : Table κ α key := ⟨[r], List.nodup_singleton _⟩

/-- The first row satisfying `p`. -/
def findFirst (t : Table κ α key) (p : α → Bool) : Option α := t.rows.find? p

/-- The rows satisfying `p`. -/
def findMany (t : Table κ α key) (p : α → Bool) : List α := t.rows.filter p

/-- The row with key `k`. -/
def find? [DecidableEq κ] (t : Table κ α key) (k : κ) : Option α :=
  t.findFirst fun r => decide (key r = k)

/-- Change the rows satisfying `p` by `f`. -/
def updateMany (t : Table κ α key) (p : α → Bool) (f : α → α) (hf : ∀ r, key (f r) = key r) :
    Table κ α key where
  rows := t.rows.map fun r => if p r then f r else r
  nodup := by
    have h : (t.rows.map fun r => if p r then f r else r).map key = t.rows.map key := by
      rw [List.map_map]
      refine List.map_congr_left fun r _ => ?_
      simp only [Function.comp_apply]
      split_ifs
      · exact hf r
      · rfl
    rw [h]
    exact t.nodup

/-- Change the row with key `k` by `f`. -/
def update [DecidableEq κ] (t : Table κ α key) (k : κ) (f : α → α) (hf : ∀ r, key (f r) = key r) :
    Table κ α key :=
  t.updateMany (fun r => decide (key r = k)) f hf

/-- Change every row by `f`. -/
def mapRows (t : Table κ α key) (f : α → α) (hf : ∀ r, key (f r) = key r) : Table κ α key :=
  t.updateMany (fun _ => true) f hf

/-- Add the row `r`, unless its key is taken. -/
def insert [DecidableEq κ] (t : Table κ α key) (r : α) : Table κ α key :=
  if h : key r ∈ t.rows.map key then t
  else
    { rows := t.rows ++ [r]
      nodup := by
        rw [List.map_append]
        refine List.nodup_append.mpr ⟨t.nodup, List.nodup_singleton _, ?_⟩
        rintro a ha b hb rfl
        obtain rfl : a = key r := by simpa using hb
        exact h ha }

/-- Remove the row with key `k`. -/
def delete [DecidableEq κ] (t : Table κ α key) (k : κ) : Table κ α key where
  rows := t.rows.filter fun r => decide (key r ≠ k)
  nodup := t.nodup.sublist (List.filter_sublist.map key)

/-- A key no row has. -/
def freshKey {key : α → ℕ} (t : Table ℕ α key) : ℕ := (t.rows.map key).foldr max 0 + 1

@[simp] theorem rows_single {r : α} : (single r : Table κ α key).rows = [r] := rfl

/-! ### Changing every row -/

section MapRows

variable {t : Table κ α key} {f : α → α} {hf : ∀ r, key (f r) = key r}

@[simp] theorem rows_mapRows : (t.mapRows f hf).rows = t.rows.map f := by
  simp [mapRows, updateMany]

theorem map_key_mapRows : (t.mapRows f hf).rows.map key = t.rows.map key := by
  simp [Function.comp_def, hf]

theorem freshKey_mapRows {key : α → ℕ} {t : Table ℕ α key} {hf : ∀ r, key (f r) = key r} :
    (t.mapRows f hf).freshKey = t.freshKey := by
  rw [freshKey, map_key_mapRows, freshKey]

theorem mapRows_update [DecidableEq κ] {k : κ} {g g' : α → α} (hg : ∀ r, key (g r) = key r)
    (hg' : ∀ r, key (g' r) = key r) (hcomm : ∀ r, f (g r) = g' (f r)) :
    (t.update k g hg).mapRows f hf = (t.mapRows f hf).update k g' hg' := by
  ext1
  simp only [rows_mapRows, update, updateMany, List.map_map]
  refine List.map_congr_left fun r _ => ?_
  simp only [Function.comp_apply, hf]
  split_ifs
  · exact hcomm r
  · rfl

theorem mapRows_insert [DecidableEq κ] {r : α} :
    (t.insert r).mapRows f hf = (t.mapRows f hf).insert (f r) := by
  ext1
  simp only [insert, map_key_mapRows, hf]
  split_ifs
  · rfl
  · simp

end MapRows

/-- A change of no row. -/
theorem updateMany_of_not {t : Table κ α key} {p : α → Bool} (f : α → α)
    (hf : ∀ r, key (f r) = key r) (h : ∀ r ∈ t.rows, p r = false) : t.updateMany p f hf = t := by
  ext1
  have hid : t.rows.map (fun r => if p r = true then f r else r) = t.rows.map id :=
    List.map_congr_left fun r hr => by simp [h r hr]
  exact hid.trans (List.map_id _)

/-- A change of other columns. -/
theorem map_updateMany {β : Type} {t : Table κ α key} {p : α → Bool} {f : α → α}
    (hf : ∀ r, key (f r) = key r) {g : α → β} (hg : ∀ r, g (f r) = g r) :
    (t.updateMany p f hf).rows.map g = t.rows.map g := by
  rw [updateMany, List.map_map]
  refine List.map_congr_left fun r _ => ?_
  rw [Function.comp_apply]
  split_ifs
  · exact hg r
  · rfl

/-! ### Looking rows up -/

section Find

variable [DecidableEq κ] {t : Table κ α key} {k k' : κ} {r r' : α}

theorem key_of_find? (h : t.find? k = some r) : key r = k := by
  simpa using List.find?_some h

theorem mem_of_find? (h : t.find? k = some r) : r ∈ t.rows := List.mem_of_find?_eq_some h

omit [DecidableEq κ] in
theorem eq_of_mem_of_key_eq (hr : r ∈ t.rows) (hr' : r' ∈ t.rows) (h : key r = key r') : r = r' :=
  List.inj_on_of_nodup_map t.nodup hr hr' h

theorem find?_of_mem (h : r ∈ t.rows) : t.find? (key r) = some r := by
  obtain ⟨r', hr'⟩ : ∃ r', t.find? (key r) = some r' := by
    refine Option.isSome_iff_exists.mp (List.find?_isSome.mpr ⟨r, h, by simp⟩)
  rw [hr', eq_of_mem_of_key_eq (mem_of_find? hr') h (key_of_find? hr')]

theorem find?_eq_some_iff : t.find? k = some r ↔ r ∈ t.rows ∧ key r = k := by
  refine ⟨fun h => ⟨mem_of_find? h, key_of_find? h⟩, ?_⟩
  rintro ⟨hr, rfl⟩
  exact find?_of_mem hr

theorem find?_of_findFirst {p : α → Bool} (h : t.findFirst p = some r) :
    t.find? (key r) = some r ∧ p r = true :=
  ⟨find?_of_mem (List.mem_of_find?_eq_some h), List.find?_some h⟩

theorem find?_updateMany (p : α → Bool) (f : α → α) (hf : ∀ r, key (f r) = key r) :
    (t.updateMany p f hf).find? k = (t.find? k).map fun r => if p r then f r else r := by
  have hkey : ∀ r : α, key (if p r then f r else r) = key r := fun r => by
    split_ifs
    · exact hf r
    · rfl
  simp only [find?, findFirst, updateMany, List.find?_map, Function.comp_def, hkey]

theorem find?_mapRows {f : α → α} {hf : ∀ r, key (f r) = key r} :
    (t.mapRows f hf).find? k = (t.find? k).map f := by
  rw [mapRows, find?_updateMany]
  rfl

theorem find?_update (f : α → α) (hf : ∀ r, key (f r) = key r) :
    (t.update k' f hf).find? k = if k = k' then (t.find? k).map f else t.find? k := by
  rw [update, find?_updateMany]
  cases h : t.find? k with
  | none => simp
  | some r =>
    obtain rfl := key_of_find? h
    split_ifs with hk <;> simp [hk]

theorem find?_update_eq_map (f : α → α) (hf : ∀ r, key (f r) = key r) :
    (t.update k' f hf).find? k = (t.find? k).map fun r => if k = k' then f r else r := by
  rw [find?_update]
  split_ifs
  · rfl
  · exact Option.map_id'.symm

@[simp] theorem find?_update_self (f : α → α) (hf : ∀ r, key (f r) = key r) :
    (t.update k f hf).find? k = (t.find? k).map f := by
  rw [find?_update, if_pos rfl]

theorem find?_update_of_ne (h : k ≠ k') (f : α → α) (hf : ∀ r, key (f r) = key r) :
    (t.update k' f hf).find? k = t.find? k := by
  rw [find?_update, if_neg h]

omit [DecidableEq κ] in
/-- A change of the rows satisfying `q` that `p` does not see. -/
theorem findFirst_updateMany {p q : α → Bool} (f : α → α) (hf : ∀ r, key (f r) = key r)
    (hp : ∀ r, p (f r) = p r) :
    (t.updateMany q f hf).findFirst p = (t.findFirst p).map fun r => if q r then f r else r := by
  have hp' : ∀ r : α, p (if q r then f r else r) = p r := fun r => by
    split_ifs
    · exact hp r
    · rfl
  simp only [findFirst, updateMany, List.find?_map, Function.comp_def, hp']

/-- A change of the row with key `k` that `p` does not see. -/
theorem findFirst_update {p : α → Bool} (f : α → α) (hf : ∀ r, key (f r) = key r)
    (hp : ∀ r, p (f r) = p r) :
    (t.update k f hf).findFirst p =
      (t.findFirst p).map fun r => if decide (key r = k) then f r else r :=
  findFirst_updateMany f hf hp

/-- A new row comes last. -/
theorem findFirst_insert_of_some {p : α → Bool} (h : t.findFirst p = some r) :
    (t.insert r').findFirst p = some r := by
  unfold insert
  split_ifs
  · exact h
  · have hfind : t.rows.find? p = some r := h
    rw [findFirst, List.find?_append, hfind, Option.some_or]

theorem find?_insert :
    (t.insert r).find? k = (t.find? k).or (if key r = k then some r else none) := by
  unfold insert
  split_ifs with h hk hk
  · obtain ⟨r', hr', hkey⟩ := List.mem_map.mp h
    rw [← hk, ← hkey, find?_of_mem hr']
    rfl
  · rw [Option.or_none]
  · simp [find?, findFirst, List.find?_append, hk]
  · simp [find?, findFirst, List.find?_append, hk]

theorem find?_insert_self (h : t.find? (key r) = none) : (t.insert r).find? (key r) = some r := by
  rw [find?_insert, h, Option.none_or, if_pos rfl]

theorem mem_insert (h : r ∈ (t.insert r').rows) : r ∈ t.rows ∨ r = r' := by
  unfold insert at h
  split_ifs at h
  · exact Or.inl h
  · simpa using h

theorem find?_eq_none_iff : t.find? k = none ↔ ∀ r ∈ t.rows, key r ≠ k := by
  simp [find?, findFirst]

/-- There is at most one row with a key. -/
theorem findMany_key : (t.findMany fun r => decide (key r = k)) = (t.find? k).toList := by
  cases h : t.find? k with
  | none =>
    refine List.filter_eq_nil_iff.mpr fun r hr => ?_
    have hne := find?_eq_none_iff.mp h r hr
    simp [hne]
  | some r =>
    obtain ⟨hr, hkey⟩ := find?_eq_some_iff.mp h
    set found := t.findMany fun r => decide (key r = k) with hfound
    have hall : ∀ r' ∈ found, r' = r := by
      intro r' hr'
      obtain ⟨hmem, hkey'⟩ := List.mem_filter.mp hr'
      exact eq_of_mem_of_key_eq hmem hr ((of_decide_eq_true hkey').trans hkey.symm)
    have hmem : r ∈ found := List.mem_filter.mpr ⟨hr, decide_eq_true hkey⟩
    have hreplicate : found = List.replicate found.length r := List.eq_replicate_of_mem hall
    have hnodup : found.Nodup := (List.Nodup.of_map key t.nodup).filter _
    have hle : found.length ≤ 1 := by
      rw [hreplicate] at hnodup
      exact List.nodup_replicate.mp hnodup
    have hlength : found.length = 1 := Nat.le_antisymm hle (List.length_pos_of_mem hmem)
    rw [hreplicate, hlength]
    rfl

/-! ### Rows that a change does not concern -/

theorem findMany_insert_of_not {p : α → Bool} (h : p r = false) :
    (t.insert r).findMany p = t.findMany p := by
  unfold insert
  split_ifs
  · rfl
  · rw [findMany, List.filter_append, List.filter_cons_of_neg (by simp [h]), List.filter_nil,
      List.append_nil, findMany]

/-- The changed row satisfies `p` neither before nor afterwards. -/
theorem findMany_update_of_not {p : α → Bool} (f : α → α) (hf : ∀ r, key (f r) = key r)
    (h : ∀ r, t.find? k = some r → p r = false ∧ p (f r) = false) :
    (t.update k f hf).findMany p = t.findMany p := by
  have hrow : ∀ r ∈ t.rows, p (if decide (key r = k) then f r else r) = p r ∧
      (p r = true → (if decide (key r = k) then f r else r) = r) := by
    intro r hr
    by_cases hk : key r = k
    · obtain ⟨hbefore, hafter⟩ := h r (find?_eq_some_iff.mpr ⟨hr, hk⟩)
      simp [hk, hbefore, hafter]
    · simp [hk]
  rw [findMany, update, updateMany, List.filter_map, findMany]
  have hfilter : t.rows.filter (p ∘ fun r => if decide (key r = k) then f r else r) =
      t.rows.filter p := List.filter_congr fun r hr => (hrow r hr).1
  rw [hfilter]
  refine (List.map_congr_left fun r hr => ?_).trans (List.map_id _)
  exact (hrow r (List.mem_filter.mp hr).1).2 (List.mem_filter.mp hr).2

/-- A change that `p` does not see. -/
theorem findMany_update {p : α → Bool} (f : α → α) (hf : ∀ r, key (f r) = key r)
    (hp : ∀ r, p (f r) = p r) :
    (t.update k f hf).findMany p =
      (t.findMany p).map fun r => if decide (key r = k) then f r else r := by
  rw [findMany, update, updateMany, List.filter_map, findMany]
  congr 1
  refine List.filter_congr fun r _ => ?_
  simp only [Function.comp_apply]
  split_ifs
  · exact hp r
  · rfl

theorem find?_delete : (t.delete k').find? k = if k = k' then none else t.find? k := by
  rw [find?, findFirst, delete, List.find?_filter]
  split_ifs with h
  · refine List.find?_eq_none.mpr fun r _ => ?_
    simp [h]
  · rw [find?, findFirst]
    congr 1
    funext r
    by_cases hr : key r = k
    · simp [hr, h]
    · simp [hr]

/-- A new row is the last one. -/
theorem rows_insert (h : t.find? (key r) = none) : (t.insert r).rows = t.rows ++ [r] := by
  have hnot : key r ∉ t.rows.map key := by
    rw [List.mem_map]
    rintro ⟨r', hr', hkey⟩
    exact find?_eq_none_iff.mp h r' hr' hkey
  rw [insert, dif_neg hnot]

/-- A row that is added and changed. -/
theorem update_insert (h : t.find? (key r) = none) {f : α → α} (hf : ∀ r, key (f r) = key r) :
    (t.insert r).update (key r) f hf = t.insert (f r) := by
  have hne := find?_eq_none_iff.mp h
  have hsame : t.rows.map (fun r' => if decide (key r' = key r) then f r' else r') = t.rows := by
    refine (List.map_congr_left fun r' hr' => ?_).trans (List.map_id _)
    rw [if_neg (by simpa using hne r' hr')]
    rfl
  have hfresh : t.find? (key (f r)) = none := by rwa [hf]
  ext1
  rw [rows_insert hfresh]
  show (t.insert r).rows.map (fun r' => if decide (key r' = key r) then f r' else r') = _
  rw [rows_insert h, List.map_append, hsame]
  simp

/-- A row that is added and deleted leaves the table. -/
theorem delete_insert (h : t.find? (key r) = none) : (t.insert r).delete (key r) = t := by
  have hne := find?_eq_none_iff.mp h
  ext1
  show ((t.insert r).rows.filter fun r' => decide (key r' ≠ key r)) = t.rows
  rw [rows_insert h, List.filter_append,
    List.filter_eq_self.mpr fun r' hr' => by simp [hne r' hr']]
  simp

end Find

theorem key_lt_freshKey {key : α → ℕ} {t : Table ℕ α key} {r : α} (hr : r ∈ t.rows) :
    key r < t.freshKey := by
  have h : ∀ xs : List ℕ, ∀ x ∈ xs, x ≤ xs.foldr max 0 := by
    intro xs
    induction xs with
    | nil => simp
    | cons y ys ih =>
      intro x hx
      rcases List.mem_cons.mp hx with rfl | hx
      · exact Nat.le_max_left _ _
      · exact (ih x hx).trans (Nat.le_max_right _ _)
  exact Nat.lt_succ_of_le (h _ _ (List.mem_map_of_mem hr))

@[simp] theorem find?_freshKey {key : α → ℕ} (t : Table ℕ α key) : t.find? t.freshKey = none :=
  find?_eq_none_iff.mpr fun _ hr => (key_lt_freshKey hr).ne

/-! ### Sums over the rows -/

section Sum

variable [DecidableEq κ] {t : Table κ α key} {k : κ} {r : α}

/-- The sum of `g` over the rows. -/
def sum (t : Table κ α key) (g : α → ℤ) : ℤ := (t.rows.map g).sum

omit [DecidableEq κ] in
theorem sum_updateMany (p : α → Bool) (f : α → α) (hf : ∀ r, key (f r) = key r) (g : α → ℤ) :
    (t.updateMany p f hf).sum g = t.sum fun r => if p r then g (f r) else g r := by
  simp only [sum, updateMany, List.map_map]
  congr 1
  refine List.map_congr_left fun r _ => ?_
  simp only [Function.comp_apply]
  split_ifs <;> rfl

/-- A sum changes by what it changes at the updated row. -/
theorem sum_update (h : t.find? k = some r) (f : α → α) (hf : ∀ r, key (f r) = key r) (g : α → ℤ) :
    (t.update k f hf).sum g = t.sum g + (g (f r) - g r) := by
  have hmem := mem_of_find? h
  have hkey := key_of_find? h
  obtain ⟨xs, ys, hsplit⟩ := List.append_of_mem hmem
  have hnodup := t.nodup
  simp only [hsplit, List.map_append, List.map_cons] at hnodup
  have hne : ∀ x ∈ xs ++ ys, key x ≠ k := by
    intro x hx hxk
    have hnot := (List.nodup_middle.mp hnodup)
    rw [← List.map_append, List.nodup_cons] at hnot
    exact hnot.1 (List.mem_map.mpr ⟨x, hx, hxk.trans hkey.symm⟩)
  have hsame : ∀ l : List α, (∀ x ∈ l, key x ≠ k) →
      (l.map fun x => if decide (key x = k) then g (f x) else g x) = l.map g := fun l hl =>
    List.map_congr_left fun x hx => by simp [hl x hx]
  have hxs := hsame xs fun x hx => hne x (List.mem_append_left _ hx)
  have hys := hsame ys fun x hx => hne x (List.mem_append_right _ hx)
  rw [update, sum_updateMany]
  simp only [sum, hsplit, List.map_append, List.map_cons, hxs, hys, List.sum_append, List.sum_cons]
  simp only [hkey, decide_true, if_true]
  abel

theorem sum_insert (h : t.find? (key r) = none) (g : α → ℤ) :
    (t.insert r).sum g = t.sum g + g r := by
  simp [sum, rows_insert h]

omit [DecidableEq κ] in
theorem sum_congr {g g' : α → ℤ} (h : ∀ r ∈ t.rows, g r = g' r) : t.sum g = t.sum g' := by
  rw [sum, List.map_congr_left h, sum]

/-- The sum over the one row of a key. -/
theorem sum_key (h : t.find? k = some r) (g : α → ℤ) :
    (t.sum fun x => if key x = k then g x else 0) = g r := by
  have hmem := mem_of_find? h
  have hkey := key_of_find? h
  obtain ⟨xs, ys, hsplit⟩ := List.append_of_mem hmem
  have hnodup := t.nodup
  simp only [hsplit, List.map_append, List.map_cons] at hnodup
  have hnot := (List.nodup_middle.mp hnodup)
  rw [← List.map_append, List.nodup_cons] at hnot
  have hzero : ∀ l : List α, (∀ x ∈ l, x ∈ xs ++ ys) →
      (l.map fun x => if key x = k then g x else 0).sum = 0 := by
    intro l hl
    refine List.sum_eq_zero fun y hy => ?_
    obtain ⟨x, hx, rfl⟩ := List.mem_map.mp hy
    rw [if_neg]
    intro hxk
    exact hnot.1 (List.mem_map.mpr ⟨x, hl x hx, hxk.trans hkey.symm⟩)
  have hxs := hzero xs fun x hx => List.mem_append_left _ hx
  have hys := hzero ys fun x hx => List.mem_append_right _ hx
  simp only [sum, hsplit, List.map_append, List.map_cons, List.sum_append, List.sum_cons, hxs, hys,
    hkey, if_true, zero_add, add_zero]

/-- The sum over the one row that has the key of `r`. -/
theorem sum_map_key {M : Type} [AddCommMonoid M] (h : r ∈ t.rows) (a : M) :
    (t.rows.map fun x => if key x = key r then a else 0).sum = a := by
  classical
  have hother : ∀ x, x ≠ r → x ∈ t.rows → (if key x = key r then a else 0) = 0 := by
    intro x hx hmem
    rw [if_neg]
    intro hkey
    exact hx (eq_of_mem_of_key_eq hmem h hkey)
  have hcount : t.rows.count r = 1 := List.count_eq_one_of_mem (List.Nodup.of_map key t.nodup) h
  rw [List.sum_map_eq_nsmul_single r _ hother, hcount, if_pos rfl, one_nsmul]

/-- What is summed row by row of `t` is summed once, if all of it belongs to a row. -/
theorem sum_fibers {β M : Type} [AddCommMonoid M] {xs : List β} {g : β → Option κ}
    (hg : ∀ x ∈ xs, ∃ r ∈ t.rows, g x = some (key r)) (f : β → M) :
    (t.rows.map fun r => ((xs.filter fun x => decide (g x = some (key r))).map f).sum).sum =
      (xs.map f).sum := by
  induction xs with
  | nil => simp
  | cons x xs ih =>
    obtain ⟨r, hr, hx⟩ := hg x List.mem_cons_self
    have hsplit : ∀ row : α,
        (((x :: xs).filter fun y => decide (g y = some (key row))).map f).sum =
          (if key row = key r then f x else 0) +
            ((xs.filter fun y => decide (g y = some (key row))).map f).sum := by
      intro row
      by_cases hrow : key row = key r
      · rw [List.filter_cons_of_pos (by simp [hx, hrow]), if_pos hrow, List.map_cons, List.sum_cons]
      · rw [List.filter_cons_of_neg (by simpa [hx] using Ne.symm hrow), if_neg hrow, zero_add]
    rw [List.map_congr_left fun row _ => hsplit row, List.sum_map_add, sum_map_key hr,
      ih fun y hy => hg y (List.mem_cons_of_mem x hy), List.map_cons, List.sum_cons]

end Sum

end Table

end Telima
