import Telima.Operations.Rows

/-!
# One trip at a time

A driver is under way with one trip at a time, as long as no driver accepts a trip while
`findNearbyDrivers` would leave the driver out: `one_trip_per_driver`.  Neither `updateStatus` nor
`getPendingRequestForDriver` asks for that (`two_trips`).
-/

namespace Telima

open TripsService DispatchService

/-- The driver is under way with the trip, which is at most 25 minutes old. -/
def Store.Engages (s : Store) (tripId driverId : ℕ) : Prop :=
  ∃ trip, s.trips.find? tripId = some trip ∧ trip.driverId = some driverId ∧
    (trip.status = .accepted ∨ trip.status = .driverArriving ∨ trip.status = .inProgress) ∧
    s.now < trip.createdAt + 25 * 60 * 1000

instance (s : Store) (tripId driverId : ℕ) : Decidable (s.Engages tripId driverId) :=
  inferInstanceAs (Decidable (∃ trip ∈ s.trips.find? tripId, trip.driverId = some driverId ∧
    (trip.status = .accepted ∨ trip.status = .driverArriving ∨ trip.status = .inProgress) ∧
    s.now < trip.createdAt + 25 * 60 * 1000))

/-- `findNearbyDrivers` leaves out the drivers who are under way with a trip. -/
theorem isEngaged_iff {s : Store} {driverId : ℕ} :
    s.isEngaged driverId = true ↔ ∃ tripId, s.Engages tripId driverId := by
  rw [Store.isEngaged, List.any_eq_true]
  constructor
  · rintro ⟨trip, hmem, htrip⟩
    simp only [Bool.and_eq_true, decide_eq_true_eq, List.contains_iff_mem, List.mem_cons,
      List.not_mem_nil, or_false] at htrip
    obtain ⟨⟨hdriver, hstatus⟩, hrecent⟩ := htrip
    exact ⟨trip.id, trip, Table.find?_of_mem hmem, hdriver, hstatus, hrecent⟩
  · rintro ⟨tripId, trip, hfind, hdriver, hstatus, hrecent⟩
    refine ⟨trip, Table.mem_of_find? hfind, ?_⟩
    simp only [Bool.and_eq_true, decide_eq_true_eq, List.contains_iff_mem, List.mem_cons,
      List.not_mem_nil, or_false]
    exact ⟨⟨hdriver, hstatus⟩, hrecent⟩

/-- No driver who is under way with a trip accepts another. -/
def AcceptsFree (k : Config) (op : Operation) : Prop :=
  ∀ t d, op.Accepts k.store t d → k.store.isEngaged d = false

section Engagement

variable {env : Env} {admits : Config → Operation → Prop} {cond : Config → Cmd → Prop}
variable {k k' : Config} {t d : ℕ}

/-- No effect turns back the time. -/
theorem Effect.now_le (h : Effect env admits cond k k') : k.store.now ≤ k'.store.now := by
  have hretried : ∀ {tripId : ℕ} {k₁ : Config} {r : Except Error Unit}, k.Stays k₁ [] →
      Retried env.dispatch cond tripId k₁ r k' → k.store.now ≤ k'.store.now := by
    intro tripId k₁ r hstays hretried
    cases hretried with
    | settled _ hsame => exact (hsame.now.trans hstays.now).ge
    | again _ _ hsearched =>
      obtain ⟨events, hstays', -⟩ := hsearched.stays
      exact (hstays'.now.trans hstays.now).ge
  cases h with
  | same hsame => exact hsame.now.ge
  | waited => exact Nat.le_add_right _ _
  | created _ hcreated =>
    obtain ⟨_, _, _, _, hwrites⟩ := hcreated
    exact hwrites.now.ge
  | statusSet _ _ _ hset =>
    obtain ⟨_, _, _, _, _, hswitched, hwrites⟩ := hset
    exact (hwrites.now.trans hswitched.now_eq.1).ge
  | completed _ _ _ _ _ hwrites => exact hwrites.now.ge
  | declined _ _ _ hdeclined =>
    obtain ⟨k₁, r, hstays, -, hretry⟩ := hdeclined
    exact hretried hstays hretry
  | timedOut _ _ _ hstays _ hretry => exact hretried hstays hretry
  | givenUp _ _ _ hfailed =>
    obtain ⟨_, _, _, _, hstays, _⟩ := hfailed
    exact hstays.now.ge
  | redispatched _ _ _ hsearched =>
    obtain ⟨k₁, serviceType, r, hstays, -, hsearched⟩ := hsearched
    obtain ⟨events, hstays', -⟩ := hsearched.stays
    exact (hstays'.now.trans hstays.now).ge
  | swept _ _ _ hswept _ =>
    obtain ⟨k₁, hwrites, hstays, -⟩ := hswept
    exact (hstays.now.trans hwrites.now).ge
  | rearmed _ _ _ _ hstays _ => exact hstays.now.ge
  | dispatched _ hsearched =>
    obtain ⟨events, hstays, -⟩ := hsearched.stays
    exact hstays.now.ge
  | assigned _ _ hwrites => exact hwrites.now.ge
  | cancelled _ hwrites => exact hwrites.now.ge
  | charged _ _ hcharges => exact hcharges.now.ge
  | handled _ _ hsame => exact hsame.now.ge

/-- A driver who is under way with a trip was so before, or has just accepted it. -/
theorem Effect.engages (h : Effect env admits cond k k') (hk : k.Settled)
    (hengages : k'.store.Engages t d) : k.store.Engages t d ∨
      ((∃ op, admits k op ∧ op.Accepts k.store t d) ∧
        ∀ t', t' ≠ t → k'.store.trips.find? t' = k.store.trips.find? t') := by
  obtain ⟨trip', htrip', hdriver', hstatus', hrecent'⟩ := hengages
  have hnow : k.store.now ≤ k'.store.now := h.now_le
  cases h.row t with
  | absent _ h' =>
    rw [h'] at htrip'
    cases htrip'
  | inserted _ h' _ =>
    obtain rfl := Option.some.inj (h'.symm.trans htrip')
    cases hdriver'
  | kept h h' horder hstatus hdriver =>
    obtain rfl := Option.some.inj (h'.symm.trans htrip')
    have hcreatedAt := congrArg Prod.fst horder
    dsimp only [Trip.order] at hcreatedAt
    rw [hdriver] at hdriver'
    rw [hstatus] at hstatus'
    exact Or.inl ⟨_, h, hdriver', hstatus', by omega⟩
  | @switched op userId role dto trip data k₁ h h' hadmits hop htransition hswitched _ hothers =>
    obtain rfl := Option.some.inj (h'.symm.trans htrip')
    have hid : trip.id = t := Table.key_of_find? h
    have hsaved : trip.driverId = some d → (trip.status = .accepted ∨
        trip.status = .driverArriving ∨ trip.status = .inProgress) → k.store.Engages t d :=
      fun hdriver hstatus => ⟨trip, h, hdriver, hstatus, lt_of_le_of_lt hnow hrecent'⟩
    -- an accept of the trip by the driver
    have haccepts : ∀ driverId, dto.status = .accepted → role = .driver →
        k.store.driverOf userId = some driverId → k.store.offers.Notified trip.id driverId →
        driverId = d → ∃ op, admits k op ∧ op.Accepts k.store t d := by
      rintro _ haccept rfl hdriver hnotified rfl
      rw [haccept, canTransition_accepted_iff] at htransition
      refine ⟨op, hadmits, userId, dto, hop, haccept, hdriver, ?_, hid ▸ hnotified⟩
      rw [Store.tripStatus, h, Option.map_some, htransition]
    rw [hswitched.status_apply] at hstatus'
    cases hswitched with
    | accepted hstatus hrole hdriver hnotified _ _ _ =>
      exact Or.inr ⟨haccepts _ hstatus hrole hdriver hnotified (Option.some.inj hdriver'), hothers⟩
    | unlocked hstatus hrole hdriver hnotified _ _ =>
      exact Or.inr ⟨haccepts _ hstatus hrole hdriver hnotified (Option.some.inj hdriver'), hothers⟩
    | advanced hstatus _ _ =>
      -- the trip was under way before
      rcases hstatus with hstatus | hstatus | hstatus
      · rw [hstatus] at htransition hdriver'
        refine Or.inl (hsaved hdriver' (Or.inl ?_))
        cases hbefore : trip.status <;> simp_all [canTransition, transitions]
      · rw [hstatus] at htransition hdriver'
        refine Or.inl (hsaved hdriver' (Or.inr (Or.inl ?_)))
        cases hbefore : trip.status <;> simp_all [canTransition, transitions]
      · simp [hstatus] at hstatus'
    | withdrawn hstatus _ _ => rcases hstatus with hstatus | hstatus <;> simp [hstatus] at hstatus'
    | cancelledByDriver hstatus _ _ => simp [hstatus] at hstatus'
  | completed _ h' _ _ hstatus _ =>
    obtain rfl := Option.some.inj (h'.symm.trans htrip')
    simp [hstatus] at hstatus'
  | swept _ h' _ _ hstatus _ =>
    obtain rfl := Option.some.inj (h'.symm.trans htrip')
    simp [hstatus] at hstatus'
  | assigned htodo h h' horder _ hdriver =>
    obtain rfl := Option.some.inj (h'.symm.trans htrip')
    have hcreatedAt := congrArg Prod.fst horder
    dsimp only [Trip.order] at hcreatedAt
    rw [hdriver] at hdriver'
    obtain rfl := Option.some.inj hdriver'
    -- the accept has written the row before
    obtain ⟨-, trip, htrip, haccepted, hassigned⟩ := hk.assigned t _ (htodo ▸ List.mem_cons_self)
    obtain rfl := Option.some.inj (htrip.symm.trans h)
    exact Or.inl ⟨_, h, hassigned, Or.inl haccepted, by omega⟩
  | cancelled _ _ h' _ _ hstatus _ =>
    obtain rfl := Option.some.inj (h'.symm.trans htrip')
    simp [hstatus] at hstatus'

/-- Every driver is under way with at most one trip. -/
structure Config.Single (k : Config) : Prop where
  settled : k.Settled
  single : ∀ t t' d, k.store.Engages t d → k.store.Engages t' d → t = t'

theorem Effect.single (h : Effect env AcceptsFree cond k k') (hk : k.Single) : k'.Single where
  settled := h.settled hk.settled
  single := by
    -- who accepts a trip was under way with none
    have haccepted : ∀ {t t' d : ℕ}, k'.store.Engages t' d →
        (∃ op, AcceptsFree k op ∧ op.Accepts k.store t d) →
        (∀ t', t' ≠ t → k'.store.trips.find? t' = k.store.trips.find? t') → t = t' := by
      rintro t t' d ⟨trip, htrip, hdriver, hstatus, hrecent⟩ ⟨op, hfree, haccepts⟩ hothers
      by_contra hne
      rw [hothers t' (Ne.symm hne)] at htrip
      have hengaged : k.store.isEngaged d = true :=
        isEngaged_iff.mpr ⟨t', trip, htrip, hdriver, hstatus, lt_of_le_of_lt h.now_le hrecent⟩
      rw [hfree t d haccepts] at hengaged
      cases hengaged
    intro t t' d ht ht'
    rcases h.engages hk.settled ht with hbefore | ⟨haccepts, hothers⟩
    · rcases h.engages hk.settled ht' with hbefore' | ⟨haccepts, hothers⟩
      · exact hk.single t t' d hbefore hbefore'
      · exact (haccepted ht haccepts hothers).symm
    · exact haccepted ht' haccepts hothers

end Engagement

/-- A driver is under way with at most one trip that is at most 25 minutes old, provided that no
driver accepts a trip while `findNearbyDrivers` would leave the driver out. -/
theorem one_trip_per_driver (env : Env) (pricing : PricingEnv) {s : Store} (hs : s.Fresh)
    {k : Config} (hrun : Config.Run env pricing AcceptsFree (fun _ _ => True) ⟨s, [], []⟩ k)
    {driverId t t' : ℕ} (ht : k.store.Engages t driverId) (ht' : k.store.Engages t' driverId) :
    t = t' := by
  have hstart : Config.Single ⟨s, [], []⟩ := by
    refine ⟨hs.settled, fun t t' d ⟨trip, htrip, _⟩ => ?_⟩
    have hnone : s.trips.find? t = none := by
      show s.trips.rows.find? _ = none
      rw [hs.trips]
      rfl
    rw [hnone] at htrip
    cases htrip
  have hk : k.Single := hrun.of_effects (fun k k' h => h.single) hstart
  exact hk.single t t' driverId ht ht'

/-- In the town, driver 1 has accepted trip 1 and is under way with no other trip. -/
theorem one_trip_per_driver_town : ∃ k, Config.Run Env.town PricingEnv.town AcceptsFree
      (fun _ _ => True) ⟨Store.town, [], []⟩ k ∧ k.store.Engages 1 1 ∧
    ∀ t, k.store.Engages t 1 → 1 = t := by
  -- who sets a status is under way with no trip
  obtain ⟨k, hrun, -, hengages⟩ := Config.exists_run_of_execute? Env.town PricingEnv.town
    (fun k op => (op.setsStatus.all fun r =>
      (k.store.driverOf r.2.1).all fun d => !k.store.isEngaged d) = true)
    (fun _ _ => True) Store.town [.order 1 2, .order 2 2, .wsAccept 1 11]
    (fun k => k.store.Engages 1 1) (by decide +kernel)
  have hrun' : Config.Run Env.town PricingEnv.town AcceptsFree (fun _ _ => True)
      ⟨Store.town, [], []⟩ k := by
    refine hrun.mono (fun k op hop => ?_) fun _ _ _ => trivial
    rintro t d ⟨userId, dto, hsets, -, hdriver, -, -⟩
    rw [hsets, Option.all_some, hdriver, Option.all_some] at hop
    simpa using hop
  exact ⟨k, hrun', hengages, fun t ht => one_trip_per_driver Env.town PricingEnv.town
    Store.fresh_town hrun' hengages ht⟩

/-- Driver 1's offer of trip 1 times out and driver 1 accepts trip 2.  Then the driver's app asks
for its pending request, which opens the attempt on trip 1 again, and driver 1 accepts trip 1. -/
theorem two_trips : ∃ k, Config.Run Env.town PricingEnv.town (fun _ _ => True) (fun _ _ => True)
      ⟨Store.town, [], []⟩ k ∧ k.store.Engages 1 1 ∧ k.store.Engages 2 1 := by
  obtain ⟨k, hrun, -, hk⟩ := Config.exists_run_of_execute? Env.town PricingEnv.town
    (fun _ _ => True) (fun _ _ => True) Store.town [.order 1 2, .wait 60000,
      .timeout ⟨1, 1, 1, 60000⟩, .order 1 1, .wsAccept 2 11, .getPendingRequest 11, .wsAccept 1 11]
    (fun k => k.store.Engages 1 1 ∧ k.store.Engages 2 1) (by decide +kernel)
  exact ⟨k, hrun, hk⟩

end Telima
