import Mathlib.Data.List.Sort
import Telima.Trips.Listing

/-!
# Reading the pages while the server runs

A client asks `listMyTrips` for page after page, until one is not full.  Meanwhile any other functions of
the server run: they may create trips of his, which come first on the next page that is read, and change
the others, which keep their place.
-/

namespace Telima.Listing

/-- Ask for page after page, at most `n` of them, until one is not full. -/
def browse (env : TripOrder) (countFirst : ℕ → Bool) (userId : ℕ) (role : UserRole) (limit : ℕ) :
    (n page : ℕ) → (seen : List Trip) → Prog (Option (List Trip))
  | 0, _, _ => pure none
  | n + 1, page, seen => do
    let listed ← TripsService.listMyTrips env (countFirst page) userId role page limit none
    if listed.data.length < limit then pure (some (seen ++ listed.data))
    else browse env countFirst userId role limit n (page + 1) (seen ++ listed.data)

/-- The functions of the server, among which a client reads his trips. -/
def system (env : Env) : System Store Cmd Error (Option (List Trip)) where
  exec := Cmd.exec
  handlers
    | .core c => (handlers env () c).map fun handler => (handler.embed id Cmd.core).as none
    | _ => []

/-- Thread 0 reads the pages; the others do anything else. -/
def start (env : TripOrder) (countFirst : ℕ → Bool) (userId : ℕ) (role : UserRole) (limit n : ℕ)
    (s : Store) (others : List (Telima.Prog Unit)) : Pool Store Cmd Error (Option (List Trip)) :=
  Pool.init s (browse env countFirst userId role limit n 1 [] ::
    others.map fun program => (program.embed id Cmd.core).as none)

/-- The user's trips were created at different times. -/
def Dated (userId : ℕ) (s : Store) : Prop :=
  ∀ trip ∈ s.trips.rows, ∀ trip' ∈ s.trips.rows, trip.clientId = userId → trip'.clientId = userId →
    trip.createdAt = trip'.createdAt → trip.id = trip'.id

/-- The user's trips are created at different times. -/
def Spaced (userId : ℕ) (_ : ℕ) (w : World Store Cmd) (c : Cmd) : Prop :=
  ∀ data, c = .core (.insertTrip data) → data.clientId = userId →
    ∀ trip ∈ w.store.trips.rows, trip.clientId = userId → trip.createdAt < w.store.now

namespace Browsing

/-! ### The user's trips, the newest first -/

/-- When a trip of the user was created, and its id. -/
def stamp? (userId : ℕ) (trip : Trip) : Option (ℕ × ℕ) :=
  if trip.clientId = userId then some (trip.createdAt, trip.id) else none

def stamps (userId : ℕ) (s : Store) : List (ℕ × ℕ) := s.trips.rows.filterMap (stamp? userId)

/-- The first trip was created later. -/
def Newer (a b : ℕ × ℕ) : Prop := b.1 < a.1

def newestFirst (userId : ℕ) (s : Store) : List (ℕ × ℕ) :=
  (stamps userId s).mergeSort fun a b => decide (b.1 ≤ a.1)

section Stamps

variable {userId : ℕ} {s : Store} {trip : Trip} {a : ℕ × ℕ}

theorem mem_stamps : a ∈ stamps userId s ↔
    ∃ trip ∈ s.trips.rows, trip.clientId = userId ∧ (trip.createdAt, trip.id) = a := by
  rw [stamps, List.mem_filterMap]
  refine exists_congr fun trip => and_congr_right fun _ => ?_
  rw [stamp?]
  split_ifs with h
  · simp [h]
  · simp [h]

theorem mem_newestFirst : a ∈ newestFirst userId s ↔ a ∈ stamps userId s := by
  rw [newestFirst, List.mem_mergeSort]

theorem nodup_stamps (userId : ℕ) (s : Store) : (stamps userId s).Nodup := by
  have hids : ((stamps userId s).map Prod.snd).Nodup := by
    refine s.trips.nodup.sublist ?_
    rw [stamps]
    induction s.trips.rows with
    | nil => exact List.Sublist.refl _
    | cons trip rest ih =>
      by_cases h : trip.clientId = userId
      · simpa [stamp?, h] using ih
      · simpa [stamp?, h] using ih.cons trip.id
  exact hids.of_map

theorem eq_of_fst_eq (hs : Dated userId s) {b : ℕ × ℕ} (ha : a ∈ stamps userId s)
    (hb : b ∈ stamps userId s) (h : a.1 = b.1) : a = b := by
  obtain ⟨trip, htrip, hclient, rfl⟩ := mem_stamps.mp ha
  obtain ⟨trip', htrip', hclient', rfl⟩ := mem_stamps.mp hb
  exact Prod.ext h (hs trip htrip trip' htrip' hclient hclient' h)

/-- Rows in decreasing order of their times, which are different. -/
theorem pairwise_newer (hs : Dated userId s) {l : List (ℕ × ℕ)} (hperm : l.Perm (stamps userId s))
    (hsorted : l.Pairwise fun a b => b.1 ≤ a.1) : l.Pairwise Newer := by
  have hnodup : l.Nodup := hperm.nodup_iff.mpr (nodup_stamps userId s)
  refine (hsorted.and hnodup).imp_of_mem fun {a b} ha hb hab => ?_
  refine lt_of_le_of_ne hab.1 fun heq => hab.2 ?_
  exact (eq_of_fst_eq hs (hperm.mem_iff.mp hb) (hperm.mem_iff.mp ha) heq).symm

theorem sorted_newestFirst (userId : ℕ) (s : Store) :
    (newestFirst userId s).Pairwise fun a b => b.1 ≤ a.1 := by
  have hsorted : (newestFirst userId s).Pairwise fun a b => decide (b.1 ≤ a.1) = true := by
    refine List.pairwise_mergeSort (fun a b c hab hbc => ?_) (fun a b => ?_) _
    · exact decide_eq_true ((of_decide_eq_true hbc).trans (of_decide_eq_true hab))
    · rw [Bool.or_eq_true, decide_eq_true_iff, decide_eq_true_iff]
      exact le_total b.1 a.1
  exact hsorted.imp of_decide_eq_true

theorem pairwise_newestFirst (hs : Dated userId s) : (newestFirst userId s).Pairwise Newer :=
  pairwise_newer hs (List.mergeSort_perm _ _) (sorted_newestFirst userId s)

theorem nodup_newestFirst (userId : ℕ) (s : Store) : (newestFirst userId s).Nodup :=
  (List.mergeSort_perm _ _).nodup_iff.mpr (nodup_stamps userId s)

/-- Whatever order the query uses, it is the same. -/
theorem map_order (hs : Dated userId s) {result : List Trip}
    (h : OrderedBy newest (s.trips.findMany { clientId := some userId : TripWhere }.accepts) result) :
    (result.map fun trip => (trip.createdAt, trip.id)) = newestFirst userId s := by
  have hstamps : ((s.trips.findMany { clientId := some userId : TripWhere }.accepts).map
      fun trip => (trip.createdAt, trip.id)) = stamps userId s := by
    rw [Table.findMany, stamps]
    induction s.trips.rows with
    | nil => rfl
    | cons trip rest ih =>
      by_cases hclient : trip.clientId = userId
      · simpa [TripWhere.accepts, stamp?, hclient] using ih
      · simpa [TripWhere.accepts, stamp?, hclient] using ih
  have hperm : (result.map fun trip => (trip.createdAt, trip.id)).Perm (stamps userId s) := by
    rw [← hstamps]
    exact h.perm.map _
  have hsorted : (result.map fun trip => (trip.createdAt, trip.id)).Pairwise
      fun a b => b.1 ≤ a.1 := by
    rw [List.pairwise_map]
    exact h.sorted.imp fun hab => OrderDual.toDual_le_toDual.mp hab
  refine List.Perm.eq_of_pairwise (fun a b ha hb hab hba => ?_) hsorted
    (sorted_newestFirst userId s) (hperm.trans (List.mergeSort_perm _ _).symm)
  exact eq_of_fst_eq hs (hperm.mem_iff.mp ha) (mem_newestFirst.mp hb) (le_antisymm hba hab)

/-! ### One command -/

theorem stamps_updateMany {t : Table ℕ Trip Trip.id} {p : Trip → Bool} {f : Trip → Trip}
    (hf : ∀ r, (f r).id = r.id) (h : ∀ r, stamp? userId (f r) = stamp? userId r) :
    (t.updateMany p f hf).rows.filterMap (stamp? userId) = t.rows.filterMap (stamp? userId) := by
  rw [Table.updateMany, List.filterMap_map]
  congr 1
  funext r
  show stamp? userId (if p r then f r else r) = stamp? userId r
  split_ifs
  · exact h r
  · rfl

variable (userId) in
/-- A command adds a trip of the user, or leaves when his trips were created. -/
theorem stamps_exec (c : Cmd) (s : Store) :
    stamps userId (c.exec s) = stamps userId s ∨
      ∃ data, c = .core (.insertTrip data) ∧ data.clientId = userId ∧
        stamps userId (c.exec s) = stamps userId s ++ [(s.now, s.trips.freshKey)] := by
  cases c with
  | core c =>
    cases c with
    | insertTrip data =>
      by_cases hvehicle : (s.vehicleTypes.find? data.vehicleTypeId).isSome = true
      · have hrows : ((Cmd.core (.insertTrip data)).exec s).trips.rows =
            s.trips.rows ++ [data.row s.trips.freshKey s.now] := by
          show (if (s.vehicleTypes.find? data.vehicleTypeId).isSome = true then _ else _ :
            Table ℕ Trip Trip.id).rows = _
          rw [if_pos hvehicle]
          exact Table.rows_insert (Table.find?_freshKey s.trips)
        by_cases hclient : data.clientId = userId
        · refine Or.inr ⟨data, rfl, hclient, ?_⟩
          rw [stamps, hrows, List.filterMap_append, ← stamps]
          simp [stamp?, CreateTripData.row, hclient]
        · refine Or.inl ?_
          rw [stamps, hrows, List.filterMap_append, ← stamps]
          simp [stamp?, CreateTripData.row, hclient]
      · refine Or.inl ?_
        show (if (s.vehicleTypes.find? data.vehicleTypeId).isSome = true then _ else _ :
          Table ℕ Trip Trip.id).rows.filterMap _ = _
        rw [if_neg hvehicle]
        rfl
    | updateTrip id data =>
      exact Or.inl (stamps_updateMany (data.id_apply s.now) fun _ => rfl)
    | updateTripIfPending id data =>
      exact Or.inl (stamps_updateMany (data.id_apply s.now) fun _ => rfl)
    | chargeCommission id driverId amount price =>
      refine Or.inl ?_
      show (if Telima.Cmd.chargeable s id driverId = true then _ else _ :
        Table ℕ Trip Trip.id).rows.filterMap _ = _
      split_ifs with hcharge
      · exact stamps_updateMany (Trip.id_charge amount s.now) fun _ => rfl
      · rfl
    | _ => exact Or.inl rfl
  | _ => exact Or.inl rfl

end Stamps

section Step

variable {userId i j m n k skip limit : ℕ} {w : World Store Cmd} {c first : Cmd} {seen : List Trip}
  {env : Env}

theorem dated_iff {s : Store} : Dated userId s ↔
    ∀ a ∈ stamps userId s, ∀ b ∈ stamps userId s, a.1 = b.1 → a = b := by
  constructor
  · intro hs a ha b hb
    exact eq_of_fst_eq hs ha hb
  · intro h trip htrip trip' htrip' hclient hclient' htime
    have hmem := mem_stamps.mpr ⟨trip, htrip, hclient, rfl⟩
    have hmem' := mem_stamps.mpr ⟨trip', htrip', hclient', rfl⟩
    exact congrArg Prod.snd (h _ hmem _ hmem' htime)

/-- A trip that is created is newer than the others. -/
theorem lt_now_of_spaced (hspaced : Spaced userId i w c) {data : CreateTripData}
    (hc : c = .core (.insertTrip data)) (hclient : data.clientId = userId) {a : ℕ × ℕ}
    (ha : a ∈ stamps userId w.store) : a.1 < w.store.now := by
  obtain ⟨trip, htrip, hclient', rfl⟩ := mem_stamps.mp ha
  exact hspaced data hc hclient trip htrip hclient'

theorem dated_exec (hs : Dated userId w.store) (hspaced : Spaced userId i w c) :
    Dated userId (c.exec w.store) := by
  rw [dated_iff] at hs ⊢
  rcases stamps_exec userId c w.store with hsame | ⟨data, hc, hclient, hadded⟩
  · rwa [hsame]
  · rw [hadded]
    intro a ha b hb htime
    rcases List.mem_append.mp ha with ha | ha <;> rcases List.mem_append.mp hb with hb | hb
    · exact hs a ha b hb htime
    · obtain rfl := List.mem_singleton.mp hb
      exact absurd htime (lt_now_of_spaced hspaced hc hclient ha).ne
    · obtain rfl := List.mem_singleton.mp ha
      exact absurd htime.symm (lt_now_of_spaced hspaced hc hclient hb).ne
    · rw [List.mem_singleton.mp ha, List.mem_singleton.mp hb]

/-- The user's other trips keep their place behind those that are added. -/
theorem newestFirst_exec (hs : Dated userId w.store) (hspaced : Spaced userId i w c) :
    newestFirst userId w.store <:+ newestFirst userId (c.exec w.store) := by
  rcases stamps_exec userId c w.store with hsame | ⟨data, hc, hclient, hadded⟩
  · rw [newestFirst, newestFirst, hsame]
  · refine Pages.suffix_of_sorted (fun a => lt_irrefl a.1) (fun a b hab => hab.le.not_gt)
      (pairwise_newestFirst hs) (pairwise_newestFirst (dated_exec hs hspaced)) ?_ ?_
    · intro a ha
      rw [mem_newestFirst] at ha ⊢
      rw [hadded]
      exact List.mem_append_left _ ha
    · intro a ha hnot b hb
      rw [mem_newestFirst] at ha hnot hb
      rw [hadded] at ha
      rcases List.mem_append.mp ha with ha | ha
      · exact absurd ha hnot
      · obtain rfl := List.mem_singleton.mp ha
        exact lt_now_of_spaced hspaced hc hclient hb

end Step

/-! ### The pages that have been read -/

/-- Every trip the user had at moment `m` has been shown. -/
def ShownAll (userId m : ℕ) (seen : List Trip) (w : World Store Cmd) : Prop :=
  ∀ a ∈ newestFirst userId (w.storeAt m), ∃ trip ∈ seen, trip.id = a.2

/-- The pages read since moment `m` have shown every trip of that moment that now stands among the
first `k`. -/
structure Shown (userId m k : ℕ) (seen : List Trip) (w : World Store Cmd) : Prop where
  le : m ≤ w.moment
  kept : newestFirst userId (w.storeAt m) <:+ newestFirst userId w.store
  shown : ∀ a ∈ newestFirst userId (w.storeAt m), a ∈ (newestFirst userId w.store).take k →
    ∃ trip ∈ seen, trip.id = a.2

/-- What the browsing functions promise each other. -/
def protocol (env : Env) (userId : ℕ) (fault : Error → Prop) : Protocol (system env) where
  cond := Spaced userId
  fault := fault
  inv w := Dated userId w.store
  guar _ _ _ := True
  inv_step := by
    intro w i c n hinv hcond _ _ _
    rw [World.store_step]
    exact dated_exec hinv hcond

section Shown

variable {userId i j m n k skip limit : ℕ} {w : World Store Cmd} {c : Cmd} {seen : List Trip}
  {env : Env} {fault : Error → Prop}

theorem Shown.step (h : Shown userId m k seen w) (hs : Dated userId w.store)
    (hspaced : Spaced userId j w c) : Shown userId m k seen (w.step (system env) j c n) := by
  have hpast : (w.step (system env) j c n).storeAt m = w.storeAt m := by
    rcases h.le.lt_or_eq with hlt | rfl
    · exact World.storeAt_of_suffix World.trace_step_suffix hlt
    · rw [World.didAt_step.2, World.storeAt_moment]
  have hadded : newestFirst userId w.store <:+
      newestFirst userId (w.step (system env) j c n).store := by
    rw [World.store_step]
    exact newestFirst_exec hs hspaced
  refine ⟨h.le.trans World.moment_lt_step.le, ?_, fun a ha htake => ?_⟩
  · rw [hpast]
    exact h.kept.trans hadded
  · rw [hpast] at ha
    have hnow : a ∈ newestFirst userId w.store := h.kept.subset ha
    exact h.shown a ha (Pages.mem_take_of_suffix hadded (nodup_newestFirst _ _) hnow htake)

/-- Before the first page. -/
theorem shown_nothing : Shown userId w.moment 0 [] w :=
  ⟨le_rfl, by rw [World.storeAt_moment], fun a _ htake => by simp at htake⟩

theorem stable_shown : (protocol env userId fault).Stable i (Shown userId m k seen) := by
  rintro w _ ⟨j, c, n, -, -, -, -, hinv, hcond, -, rfl⟩ h
  exact h.step hinv hcond

/-- The first page was read at moment `m`, and every trip of that moment has been shown. -/
def ReadAll (userId limit i m : ℕ) (seen : List Trip) (w : World Store Cmd) : Prop :=
  w.DidAt m i (.findManyTrips { clientId := some userId } 0 limit) ∧ ShownAll userId m seen w

theorem historic_readAll : Protocol.Historic (ReadAll userId limit i m seen) := by
  rintro w w' hsuffix ⟨hread, hw⟩
  refine ⟨hread.of_suffix hsuffix, ?_⟩
  rwa [ShownAll, World.storeAt_of_suffix hsuffix hread.lt]

/-- The next page shows what stands on it. -/
theorem Shown.page (h : Shown userId m skip seen w) (hs : Dated userId w.store) {order : List Trip}
    (horder : OrderedBy newest
      (w.store.trips.findMany { clientId := some userId : TripWhere }.accepts) order) :
    Shown userId m (skip + limit) (seen ++ Telima.page skip limit order) w := by
  refine ⟨h.le, h.kept, fun a ha htake => ?_⟩
  rw [← Pages.take_append_page] at htake
  rcases List.mem_append.mp htake with hbefore | hpage
  · obtain ⟨trip, htrip, hid⟩ := h.shown a ha hbefore
    exact ⟨trip, List.mem_append_left _ htrip, hid⟩
  · rw [← map_order hs horder, Pages.page_map] at hpage
    obtain ⟨trip, htrip, rfl⟩ := List.mem_map.mp hpage
    exact ⟨trip, List.mem_append_right _ htrip, rfl⟩

/-- A page that is not full is the last one. -/
theorem Shown.all (h : Shown userId m (skip + limit) seen w) (hs : Dated userId w.store)
    {order : List Trip} (horder : OrderedBy newest
      (w.store.trips.findMany { clientId := some userId : TripWhere }.accepts) order)
    (hlast : (Telima.page skip limit order).length < limit) : ShownAll userId m seen w := by
  intro a ha
  have hlength : (newestFirst userId w.store).length ≤ skip + limit := by
    rw [← map_order hs horder, List.length_map]
    rw [Pages.length_page] at hlast
    omega
  refine h.shown a ha ?_
  rw [List.take_of_length_le hlength]
  exact h.kept.subset ha

/-! ### The calls -/

/-- Before page `k + 1`: what has been shown since the first page. -/
def Before (userId limit i k : ℕ) (seen : List Trip) (w : World Store Cmd) : Prop :=
  (k = 0 ∧ seen = []) ∨ ∃ m, w.DidAt m i (.findManyTrips { clientId := some userId } 0 limit) ∧
    Shown userId m (k * limit) seen w

/-- After page `k + 1`, which answered `data`. -/
def After (userId limit i k : ℕ) (seen data : List Trip) (w : World Store Cmd) : Prop :=
  ∃ m, w.DidAt m i (.findManyTrips { clientId := some userId } 0 limit) ∧
    Shown userId m ((k + 1) * limit) (seen ++ data) w ∧
    (data.length < limit → ReadAll userId limit i m (seen ++ data) w)

theorem Before.step (h : Before userId limit i k seen w) (hs : Dated userId w.store)
    (hspaced : Spaced userId j w c) : Before userId limit i k seen (w.step (system env) j c n) := by
  rcases h with hfirst | ⟨m, hread, hshown⟩
  · exact Or.inl hfirst
  · exact Or.inr ⟨m, hread.of_suffix World.trace_step_suffix, hshown.step hs hspaced⟩

theorem stable_before : (protocol env userId fault).Stable i (Before userId limit i k seen) := by
  rintro w _ ⟨j, c, n, -, -, -, -, hinv, hcond, -, rfl⟩ h
  exact h.step hinv hcond

theorem After.step {data : List Trip} (h : After userId limit i k seen data w)
    (hs : Dated userId w.store) (hspaced : Spaced userId j w c) :
    After userId limit i k seen data (w.step (system env) j c n) := by
  obtain ⟨m, hread, hshown, hall⟩ := h
  exact ⟨m, hread.of_suffix World.trace_step_suffix, hshown.step hs hspaced,
    fun hlast => historic_readAll World.trace_step_suffix (hall hlast)⟩

theorem stable_after {data : List Trip} :
    (protocol env userId fault).Stable i (After userId limit i k seen data) := by
  rintro w _ ⟨j, c, n, -, -, -, -, hinv, hcond, -, rfl⟩ h
  exact h.step hinv hcond

/-- A query of a page, which reads no row that is not the user's. -/
theorem after_of_before (orders : TripOrder) (h : Before userId limit i k seen w)
    (hs : Dated userId w.store) (hspaced : Spaced userId i w c)
    (hc : c = .findManyTrips { clientId := some userId } (k * limit) limit) :
    After userId limit i k seen (Telima.page (k * limit) limit (orders.order w.store (k * limit) limit
      (w.store.trips.findMany { clientId := some userId : TripWhere }.accepts)))
      (w.step (system env) i c n) := by
  have horder := orders.orderedBy w.store (k * limit) limit
    (w.store.trips.findMany { clientId := some userId : TripWhere }.accepts)
  obtain ⟨hdid, -⟩ := World.didAt_step (S := system env) (w := w) (i := i) (c := c) (n := n)
  have hbefore : ∃ m, (w.step (system env) i c n).DidAt m i
      (.findManyTrips { clientId := some userId } 0 limit) ∧ Shown userId m (k * limit) seen w := by
    rcases h with ⟨rfl, rfl⟩ | ⟨m, hread, hshown⟩
    · rw [Nat.zero_mul] at hc ⊢
      exact ⟨w.moment, by rwa [← hc], shown_nothing⟩
    · exact ⟨m, hread.of_suffix World.trace_step_suffix, hshown⟩
  obtain ⟨m, hread, hshown⟩ := hbefore
  have hpage : Shown userId m (k * limit + limit) _ w := hshown.page hs horder
  rw [After, Nat.succ_mul]
  refine ⟨m, hread, hpage.step hs hspaced, fun hlast => ⟨hread, ?_⟩⟩
  have hpast : (w.step (system env) i c n).storeAt m = w.storeAt m := by
    rcases hshown.le.lt_or_eq with hlt | rfl
    · exact World.storeAt_of_suffix World.trace_step_suffix hlt
    · rw [World.didAt_step.2, World.storeAt_moment]
  have hall := hpage.all hs horder hlast
  rwa [ShownAll, hpast]

/-- One call of `listMyTrips`. -/
theorem wp_listMyTrips (orders : TripOrder) (countFirst : Bool) {role : UserRole}
    (hrole : role ≠ .driver) (hw : Before userId limit i k seen w) :
    (protocol env userId fault).wp i
      (TripsService.listMyTrips orders countFirst userId role (k + 1) limit none)
      (fun r w => ∀ listed, r = .ok listed → After userId limit i k seen listed.data w) w := by
  unfold TripsService.listMyTrips TripRepository.findManyByClient TripRepository.findMany
  rw [if_neg hrole, Nat.add_sub_cancel]
  cases countFirst with
  | true =>
    rw [if_pos rfl, Async.bind_eq, Async.bind_eq, Async.bind_assoc]
    refine Protocol.wp_query_bind stable_before hw (fun v hv hinv hcond => ⟨trivial, fun n _ _ => ?_⟩)
      fun e v _ _ _ listed hlisted => by cases hlisted
    rw [Async.bind_eq, Async.bind_assoc]
    refine Protocol.wp_query_bind stable_before (hv.step hinv hcond) (fun u hu hinv hcond =>
      ⟨trivial, fun n _ _ => ?_⟩) fun e u _ _ _ listed hlisted => by cases hlisted
    intro listed hlisted
    obtain rfl := Except.ok.inj hlisted
    exact after_of_before orders hu hinv hcond rfl
  | false =>
    rw [if_neg Bool.false_ne_true, Async.bind_eq, Async.bind_eq, Async.bind_assoc]
    refine Protocol.wp_query_bind stable_before hw (fun v hv hinv hcond => ⟨trivial, fun n _ _ => ?_⟩)
      fun e v _ _ _ listed hlisted => by cases hlisted
    have hafter : After userId limit i k seen _ (v.step (system env) i _ n) :=
      after_of_before orders hv hinv hcond rfl
    rw [Async.bind_eq, Async.bind_assoc]
    refine Protocol.wp_query_bind stable_after hafter (fun u hu hinv hcond =>
      ⟨trivial, fun n _ _ => ?_⟩) fun e u _ _ _ listed hlisted => by cases hlisted
    intro listed hlisted
    obtain rfl := Except.ok.inj hlisted
    exact hu.step hinv hcond

/-- What holds when thread `i` has ended. -/
def Post (userId limit i : ℕ) (r : Except Error (Option (List Trip))) (w : World Store Cmd) : Prop :=
  i = 0 → ∀ seen, r = .ok (some seen) → ∃ m, ReadAll userId limit i m seen w

theorem stable_post {r : Except Error (Option (List Trip))} :
    (protocol env userId fault).Stable i (Post userId limit i r) := by
  rintro w _ ⟨j, c, n, -, -, -, -, -, -, -, rfl⟩ h hi seen hseen
  obtain ⟨m, hread⟩ := h hi seen hseen
  exact ⟨m, historic_readAll World.trace_step_suffix hread⟩

theorem wp_browse (orders : TripOrder) (countFirst : ℕ → Bool) {role : UserRole}
    (hrole : role ≠ .driver) (pages : ℕ) (hw : Before userId limit i k seen w) :
    (protocol env userId fault).wp i
      (browse orders countFirst userId role limit pages (k + 1) seen) (Post userId limit i) w := by
  induction pages generalizing k seen w with
  | zero =>
    intro _ seen hseen
    cases hseen
  | succ pages ih =>
    refine Protocol.wp_bind (Protocol.wp_mono ?_ (wp_listMyTrips orders (countFirst (k + 1)) hrole hw))
    rintro (e | listed) v hlisted
    · intro _ seen hseen
      cases hseen
    obtain ⟨m, hread, hshown, hall⟩ := hlisted listed rfl
    rw [Async.done_ok_bind]
    split_ifs with hlast
    · intro _ seen hseen
      obtain rfl := Option.some.inj (Except.ok.inj hseen)
      exact ⟨m, hall hlast⟩
    · exact ih (Or.inr ⟨m, hread, hshown⟩)

/-- Any other function. -/
theorem wp_other {p : Telima.Prog Unit} (hi : 0 < i) :
    (protocol env userId fault).wp i ((p.embed id Cmd.core).as none) (Post userId limit i) w := by
  have hframe : (protocol env userId fault).Frame i (fun _ => True) fun _ => True :=
    ⟨Protocol.stable_const i True, fun _ _ _ _ => ⟨trivial, fun _ _ _ => trivial⟩⟩
  have honly : ((p.embed id Cmd.core).as none : Prog (Option (List Trip))).Only fun _ => True :=
    Async.only_true _
  refine Protocol.wp_mono (fun r v _ h0 => ?_) (hframe.wp honly trivial)
  omega

theorem handlersKeep : (protocol env userId fault).HandlersKeep (Post userId limit) := by
  intro c k h hk j n w _ _ _ hj _
  cases c with
  | core c =>
    obtain ⟨p, -, rfl⟩ := List.mem_map.mp (List.mem_of_getElem? hk)
    exact wp_other (by omega)
  | _ => simp [system] at hk

end Shown

end Browsing

open Browsing in
/-- Whatever the server does meanwhile: when a client has read page after page, until one was not full, he
has been shown every trip he had when the first was read. -/
theorem browsing_complete (env : Env) (orders : TripOrder) (countFirst : ℕ → Bool) (s : Store)
    (userId : ℕ) {role : UserRole} (hrole : role ≠ .driver) (limit n : ℕ)
    (others : List (Telima.Prog Unit)) (fault : Error → Prop) (hs : Dated userId s)
    {p : Pool Store Cmd Error (Option (List Trip))}
    (hrun : Pool.Run (system env) (Spaced userId) fault
      (start orders countFirst userId role limit n s others) p)
    {seen : List Trip} (hi : p.results[0]? = some (some (.ok (some seen)))) :
    ∃ m, p.world.DidAt m 0 (.findManyTrips { clientId := some userId } 0 limit) ∧
      ∀ trip ∈ (p.world.storeAt m).trips.rows, trip.clientId = userId →
        ∃ row ∈ seen, row.id = trip.id := by
  have hstart : (protocol env userId fault).Safe (Post userId limit)
      (start orders countFirst userId role limit n s others) := by
    refine Protocol.safe_init hs fun i t ht => ?_
    cases i with
    | zero =>
      obtain rfl := Option.some.inj ht
      exact wp_browse (k := 0) orders countFirst hrole n (Or.inl ⟨rfl, rfl⟩)
    | succ i =>
      obtain ⟨other, -, rfl⟩ := List.mem_map.mp (List.mem_of_getElem? ht)
      exact wp_other (Nat.succ_pos i)
  have hsafe := hstart.run (fun i r => stable_post) handlersKeep hrun
  obtain ⟨m, hread, hall⟩ := hsafe.threads (Pool.thread_of_results hi) rfl seen rfl
  refine ⟨m, hread, fun trip htrip hclient => ?_⟩
  exact hall _ (mem_newestFirst.mpr (mem_stamps.mpr ⟨trip, htrip, hclient, rfl⟩))

/-- The trip a command adds. -/
def Cmd.inserted? : Cmd → Option CreateTripData
  | .core (.insertTrip data) => some data
  | _ => none

theorem Cmd.inserted?_eq_some {c : Cmd} {data : CreateTripData} :
    c.inserted? = some data ↔ c = .core (.insertTrip data) := by
  constructor
  · intro h
    cases c with
    | core c =>
      cases c with
      | insertTrip data' => rw [Option.some.inj h]
      | _ => cases h
    | _ => cases h
  · rintro rfl
    rfl

theorem spaced_iff {userId i : ℕ} {w : World Store Cmd} {c : Cmd} :
    Spaced userId i w c ↔ ∀ data ∈ c.inserted?, data.clientId = userId →
      ∀ trip ∈ w.store.trips.rows, trip.clientId = userId → trip.createdAt < w.store.now :=
  forall_congr' fun _ => imp_congr_left Cmd.inserted?_eq_some.symm

instance decidableSpaced (userId i : ℕ) (w : World Store Cmd) (c : Cmd) :
    Decidable (Spaced userId i w c) :=
  decidable_of_iff _ spaced_iff.symm

namespace Desk

/-- Trips of the same time stay in the order of their rows. -/
def byInsertion : TripOrder where
  order _ _ _ rows := rows.insertionSort fun a b => newest a ≤ newest b
  orderedBy _ _ _ _ := ⟨List.perm_insertionSort _ _, List.pairwise_insertionSort _ _⟩

/-- Three trips of client 20. -/
def spacedStore : Store where
  vehicleTypes := .single ⟨1, 1000⟩
  trips := ((Table.single (trip 1 100)).insert (trip 2 200)).insert (trip 3 300)
  now := 400

/-- He orders another one. -/
def order : Telima.Prog Unit :=
  (Telima.TripsService.createTrip { calculatePrice := fun _ _ _ _ _ => .ok ⟨1500, 3000, 600⟩ } 20
    { serviceType := .ride, vehicleTypeId := 1, pickup := ⟨0, 0⟩, dropoff := ⟨1, 1⟩ }).as ()

end Desk

open Desk in
/-- A fourth trip comes in after the first page of two: the second trip is shown twice, and none is
missed. -/
theorem browsing_complete_desk : ∃ (p : Pool Store Cmd Error (Option (List Trip))) (seen : List Trip),
    seen.map Trip.id = [3, 2, 2, 1] ∧
    ∃ m, p.world.DidAt m 0 (.findManyTrips { clientId := some 20 } 0 2) ∧
      ∀ trip ∈ (p.world.storeAt m).trips.rows, trip.clientId = 20 → ∃ row ∈ seen, row.id = trip.id := by
  obtain ⟨p, hrun, hresult⟩ := Pool.exists_run_of_schedule? (system .offline) (Spaced 20)
    (fun _ => False)
    (start byInsertion (fun _ => false) 20 .client 2 3 spacedStore [order])
    [0, 0, 1, 1, 0, 0, 0, 0]
    (fun p => ((p.results[0]?.bind id).bind fun r => r.toOption.bind id).map (List.map Trip.id) =
      some [3, 2, 2, 1]) (by decide +kernel)
  obtain ⟨seen, hseen, hids⟩ := Option.map_eq_some_iff.mp hresult
  obtain ⟨r, hr, hok⟩ := Option.bind_eq_some_iff.mp hseen
  obtain ⟨t, ht, rfl⟩ := Option.bind_eq_some_iff.mp hr
  cases r with
  | error e => cases hok
  | ok listed =>
    obtain rfl : listed = some seen := hok
    exact ⟨p, seen, hids, browsing_complete .offline byInsertion _ spacedStore 20 (by decide) 2 3 [order]
      _ (by unfold Dated; decide +kernel) hrun ht⟩

end Telima.Listing
