import Telima.Operations.Search

/-!
# The time of a cancellation

A cancellation writes the status and `cancelledAt` together, except in the sweep: it cancels the stale trips
with a status and a reason only.  As long as no sweep finds a stale trip, `cancelledAt` is set on the
cancelled trips and on no other, and the first sweep that finds one breaks this (`cancelled_at_iff`).
-/

namespace Telima

open TripsService DispatchService DispatchRecoveryService

/-- The trip has a time of cancellation if and only if it is cancelled. -/
def Trip.Recorded (trip : Trip) : Prop :=
  trip.cancelledAt.isSome = true ↔ isCancelled trip.status = true

/-- The records of all trips agree with their statuses. -/
def Store.Recorded (s : Store) : Prop := ∀ t trip, s.trips.find? t = some trip → trip.Recorded

/-- No trip is stale. -/
def Store.NoneStale (s : Store) : Prop := ∀ trip ∈ s.trips.rows, isStale s.now trip = false

/-- A sweep finds no stale trip. -/
def SweepsNothing (k : Config) (op : Operation) : Prop := op = .sweep → k.store.NoneStale

section Effects

variable {env : Env} {admits : Config → Operation → Prop} {cond : Config → Cmd → Prop}
variable {k k' : Config} {now : ℕ}

theorem Store.Recorded.of_eq {s s' : Store} (h : s.Recorded) (htrips : s'.trips = s.trips) :
    s'.Recorded := by
  intro t trip htrip
  rw [htrips] at htrip
  exact h t trip htrip

/-- A write of the row of one trip. -/
theorem Store.Recorded.update {s s' : Store} {tripId : ℕ} {f : Trip → Trip}
    {hf : ∀ trip, (f trip).id = trip.id} (h : s.Recorded)
    (htrips : s'.trips = s.trips.update tripId f hf)
    (hrow : ∀ trip, s.trips.find? tripId = some trip → trip.Recorded → (f trip).Recorded) :
    s'.Recorded := by
  intro t trip htrip
  rw [htrips, Table.find?_update] at htrip
  split_ifs at htrip with ht
  · obtain ⟨row, hfind, rfl⟩ := Option.map_eq_some_iff.mp htrip
    rw [ht] at hfind
    exact hrow row hfind (h tripId row hfind)
  · exact h t trip htrip

/-- A trip that is not cancelled gets a status that is not a cancellation. -/
theorem Trip.Recorded.advance {trip : Trip} {data : TripData} {status : TripStatus} (h : trip.Recorded)
    (hstatus : data.status = some status) (hcancelledAt : data.cancelledAt = none)
    (hbefore : isCancelled trip.status = false) (hafter : isCancelled status = false) :
    (data.apply now trip).Recorded := by
  have hnone : trip.cancelledAt.isSome = false := by
    rw [Bool.eq_false_iff]
    intro hsome
    rw [h.mp hsome] at hbefore
    cases hbefore
  unfold Trip.Recorded
  simp only [TripData.apply, hstatus, hcancelledAt, Option.none_or, Option.getD_some, hnone, hafter]

/-- A trip is cancelled. -/
theorem Trip.recorded_cancel {trip : Trip} {status : TripStatus} {reason : Option String}
    (hstatus : isCancelled status = true) : ((cancelData status reason now).apply now trip).Recorded :=
  iff_of_true rfl hstatus

theorem not_isCancelled_of_canTransition {source target : TripStatus}
    (h : canTransition source target = true) : isCancelled source = false := by
  cases source <;> first | rfl | (cases target <;> cases h)

/-- What the switch writes. -/
theorem TripsService.Switched.recorded {trip : Trip} {userId : ℕ} {role : UserRole}
    {dto : UpdateTripStatusDto} {data : TripData} (h : Switched trip userId role dto k data k')
    (htransition : canTransition trip.status dto.status = true) (hk : trip.Recorded) :
    (data.apply k.store.now trip).Recorded := by
  have hbefore := not_isCancelled_of_canTransition htransition
  cases h with
  | accepted | unlocked => exact hk.advance rfl rfl hbefore rfl
  | advanced hstatus =>
    rcases hstatus with hstatus | hstatus | hstatus
    · rw [hstatus]
      exact hk.advance rfl rfl hbefore rfl
    · rw [hstatus]
      exact hk.advance rfl rfl hbefore rfl
    · rw [hstatus]
      exact hk.advance rfl rfl hbefore rfl
  | withdrawn hstatus =>
    apply Trip.recorded_cancel
    rcases hstatus with hstatus | hstatus
    · rw [hstatus]
      rfl
    · rw [hstatus]
      rfl
  | cancelledByDriver hstatus =>
    apply Trip.recorded_cancel
    rw [hstatus]
    rfl

theorem Effect.recorded (h : Effect env SweepsNothing cond k k') (hsettled : k.Settled)
    (hk : k.store.Recorded) : k'.store.Recorded := by
  cases h with
  | same hsame => exact hk.of_eq hsame.trips
  | waited => exact hk.of_eq rfl
  | created _ hcreated =>
    obtain ⟨data, pickup, serviceType, -, hwrites⟩ := hcreated
    intro t trip htrip
    rw [hwrites.trips, Table.find?_insert, Option.or_eq_some_iff] at htrip
    rcases htrip with hold | ⟨-, hnew⟩
    · exact hk t trip hold
    · split_ifs at hnew
      obtain rfl := Option.some.inj hnew
      exact iff_of_false Bool.false_ne_true Bool.false_ne_true
  | statusSet _ _ _ hset =>
    obtain ⟨trip, data, k₁, htrip, htransition, hswitched, hwrites⟩ := hset
    have htrips := hswitched.now_eq.2
    refine (hk.of_eq htrips).update hwrites.trips fun row hrow hrecorded => ?_
    rw [htrips, htrip] at hrow
    obtain rfl := Option.some.inj hrow
    exact hswitched.recorded htransition hrecorded
  | completed _ htrip hstatus _ _ hwrites =>
    refine hk.update hwrites.trips fun row hrow hrecorded => ?_
    rw [htrip] at hrow
    obtain rfl := Option.some.inj hrow
    exact hrecorded.advance rfl rfl (by rw [hstatus]; rfl) rfl
  | declined _ _ _ hdeclined =>
    obtain ⟨k₁, r, hstays, -, hretried⟩ := hdeclined
    exact hk.of_eq (hretried.trips_eq.trans hstays.trips)
  | timedOut _ _ _ hstays _ hretried => exact hk.of_eq (hretried.trips_eq.trans hstays.trips)
  | givenUp _ _ _ hfailed =>
    obtain ⟨reason, k₀, -, -, hstays, -⟩ := hfailed
    exact hk.of_eq hstays.trips
  | redispatched _ _ _ hsearched =>
    obtain ⟨k₁, serviceType, r, hstays, -, hsearched⟩ := hsearched
    obtain ⟨events, hstays', -⟩ := hsearched.stays
    exact hk.of_eq (hstays'.trips.trans hstays.trips)
  | swept _ _ _ _ hfound =>
    -- no sweep has found a stale trip
    obtain ⟨k₀, hadmits, hmem, hstale⟩ := hfound
    rw [hadmits rfl _ hmem] at hstale
    cases hstale
  | rearmed _ _ _ _ hstays _ => exact hk.of_eq hstays.trips
  | dispatched _ hsearched =>
    obtain ⟨events, hstays, -⟩ := hsearched.stays
    exact hk.of_eq hstays.trips
  | @assigned tripId driverId todo _ _ htodo _ hwrites =>
    obtain ⟨-, trip, htrip, hstatus, -⟩ :=
      hsettled.assigned tripId driverId (htodo ▸ List.mem_cons_self)
    refine hk.update hwrites.trips fun row hrow hrecorded => ?_
    obtain rfl := Option.some.inj (htrip.symm.trans hrow)
    exact hrecorded.advance rfl rfl (by rw [hstatus]; rfl) rfl
  | @cancelled tripId reason todo _ _ hwrites =>
    intro t trip htrip
    rw [hwrites.trips, Table.find?_updateMany] at htrip
    obtain ⟨row, hrow, rfl⟩ := Option.map_eq_some_iff.mp htrip
    split_ifs
    · exact Trip.recorded_cancel rfl
    · exact hk t row hrow
  | charged _ _ hcharges => exact hk.update hcharges.trips fun row _ hrecorded => hrecorded
  | handled _ _ hsame => exact hk.of_eq hsame.trips

end Effects

/-! ### A sweep that finds a stale trip -/

section Sweep

variable {cond : Config → Cmd → Prop} {k : Config}

/-- The trip was swept: cancelled, with the time of cancellation it had. -/
def SweptRow (trip : Trip) (k : Config) : Prop :=
  ∃ row, k.store.trips.find? trip.id = some row ∧ row.status = .cancelledAuto ∧
    row.cancelledAt = trip.cancelledAt

/-- The sweep cancels every stale trip, and leaves its `cancelledAt` as it was. -/
theorem wlp_sweepStaleAssigned_swept {trip : Trip} (hmem : trip ∈ k.store.trips.rows)
    (hstale : isStale k.store.now trip = true) :
    sweepStaleAssigned.wlp server cond (fun _ k' => SweptRow trip k') k := by
  rw [sweepStaleAssigned, Async.bind_eq]
  refine wlp_newDate_bind fun k₁ hk₁ => ?_
  rw [Async.bind_eq, findStale]
  -- the trip is still in the list, or was swept
  let A : List Trip → Config → Prop := fun rest k' => (rest.map Trip.id).Nodup ∧
    (∀ other ∈ rest, ∃ row, k'.store.trips.find? other.id = some row) ∧
      ((trip ∈ rest ∧ k'.store.trips.find? trip.id = some trip) ∨
        (trip.id ∉ rest.map Trip.id ∧ SweptRow trip k'))
  have hstep : ∀ other rest k', A (other :: rest) k' → (cancelStale other).wlp server cond
      (fun r k' => r = .ok () ∧ A rest k') k' := by
    rintro other rest k' ⟨hnodup, hrows, htrip⟩
    obtain ⟨hnotMem, hnodup'⟩ := List.nodup_cons.mp hnodup
    obtain ⟨row, hrow⟩ := hrows other List.mem_cons_self
    refine Async.wlp_mono (wlp_cancelStale hrow) ?_
    rintro r k'' ⟨rfl, k₂, hwrites, hstays, -⟩
    have hfind : ∀ t, k''.store.trips.find? t = if t = other.id then
        (k'.store.trips.find? t).map (staleData.apply k'.store.now) else k'.store.trips.find? t := by
      intro t
      rw [hstays.trips, hwrites.trips, Table.find?_update]
    refine ⟨rfl, hnodup', fun next hnext => ?_, ?_⟩
    · obtain ⟨row, hrow⟩ := hrows next (List.mem_cons_of_mem _ hnext)
      have hne : next.id ≠ other.id := fun hid => hnotMem (hid ▸ List.mem_map_of_mem hnext)
      exact ⟨row, by rw [hfind, if_neg hne, hrow]⟩
    · rcases htrip with ⟨hin, htrip⟩ | ⟨hnot, row, hrow', hstatus, hcancelledAt⟩
      · rcases List.mem_cons.mp hin with rfl | hin
        · refine Or.inr ⟨hnotMem, staleData.apply k'.store.now trip, ?_, rfl, rfl⟩
          rw [hfind, if_pos rfl, htrip]
          rfl
        · have hne : trip.id ≠ other.id := fun hid => hnotMem (hid ▸ List.mem_map_of_mem hin)
          exact Or.inl ⟨hin, by rw [hfind, if_neg hne, htrip]⟩
      · rw [List.map_cons, List.mem_cons, not_or] at hnot
        exact Or.inr ⟨hnot.2, row, by rw [hfind, if_neg hnot.1, hrow'], hstatus, hcancelledAt⟩
  have hquery : (Async.tryCatch (findStale k.store.now) fun _ => pure []).wlp server cond (fun r k' =>
      ∃ stale, r = .ok stale ∧ A stale k') k₁ := by
    intro _
    have hsame : k.Same (k₁.perform .findStaleAssignedTrips) :=
      hk₁.trans (Config.same_perform rfl rfl rfl)
    refine ⟨_, rfl, k₁.store.trips.nodup.sublist (List.filter_sublist.map _), fun other hother => ?_,
      Or.inl ⟨?_, ?_⟩⟩
    · have hrow := (List.mem_filter.mp hother).1
      exact ⟨other, Table.find?_of_mem hrow⟩
    · exact List.mem_filter.mpr ⟨hk₁.trips ▸ hmem, hstale⟩
    · rw [server_perform, hsame.trips]
      exact Table.find?_of_mem hmem
  refine Async.wlp_bind_of_ok hquery fun stale k₂ hk₂ => ?_
  refine Async.wlp_mono (Async.wlp_forEach hstep hk₂) fun r k' hk' => ?_
  rcases hk'.2.2.2 with ⟨hin, -⟩ | ⟨-, hswept⟩
  · cases hin
  · exact hswept

/-- The sweep does nothing when it finds no stale trip. -/
theorem wlp_sweepStaleAssigned_same (hnone : k.store.NoneStale) :
    sweepStaleAssigned.wlp server cond (fun _ k' => k.Same k') k := by
  rw [sweepStaleAssigned, Async.bind_eq]
  refine wlp_newDate_bind fun k₁ hk₁ => ?_
  rw [Async.bind_eq, findStale]
  have hquery : (Async.tryCatch (findStale k.store.now) fun _ => pure []).wlp server cond (fun r k' =>
      r = .ok [] ∧ k.Same k') k₁ := by
    intro _
    have hempty : k.store.trips.rows.filter (isStale k.store.now) = [] := by
      rw [List.filter_eq_nil_iff]
      intro trip hmem
      rw [hnone trip hmem]
      exact Bool.false_ne_true
    refine ⟨?_, hk₁.trans (Config.same_perform rfl rfl rfl)⟩
    show Except.ok (k₁.store.trips.rows.filter (isStale k.store.now)) = .ok []
    rw [hk₁.trips, hempty]
  refine Async.wlp_bind (Async.wlp_mono hquery ?_)
  rintro r k' ⟨rfl, hsame⟩
  exact hsame

end Sweep

theorem isCancelled_of_isAssigned {status : TripStatus} (h : isAssigned status = true) :
    isCancelled status = false := by
  cases status <;> first | rfl | cases h

theorem Store.Fresh.recorded {s : Store} (hs : s.Fresh) : s.Recorded := by
  intro t trip htrip
  have hmem := Table.mem_of_find? htrip
  rw [hs.trips] at hmem
  cases hmem

/-- A swept trip has no time of cancellation. -/
theorem not_recorded_of_swept {s : Store} {k : Config} {trip : Trip} (hs : s.Recorded)
    (hmem : trip ∈ s.trips.rows) (hstale : isStale s.now trip = true) (hswept : SweptRow trip k) :
    ¬ k.store.Recorded := by
  intro hrecorded
  obtain ⟨row, hrow, hstatus, hcancelledAt⟩ := hswept
  have hsome : row.cancelledAt.isSome = true := by
    apply (hrecorded _ row hrow).mpr
    rw [hstatus]
    rfl
  rw [isStale, Bool.and_eq_true] at hstale
  have hcancelled : isCancelled trip.status = true := by
    apply (hs _ trip (Table.find?_of_mem hmem)).mp
    rw [← hcancelledAt]
    exact hsome
  rw [isCancelled_of_isAssigned hstale.1] at hcancelled
  cases hcancelled

/-- In a run in which no sweep finds a stale trip, `cancelledAt` is set on the cancelled trips and on no
other; and a sweep leaves it so if and only if it finds no stale trip. -/
theorem cancelled_at_iff (env : Env) (pricing : PricingEnv) {s : Store} (hs : s.Fresh) {k : Config}
    (hrun : Config.Run env pricing SweepsNothing (fun _ _ => True) ⟨s, [], []⟩ k) :
    k.store.Recorded ∧
      (((Operation.sweep.program env pricing).play server k).2.store.Recorded ↔
        k.store.NoneStale) := by
  have hstart : Config.Settled ⟨s, [], []⟩ ∧ s.Recorded := ⟨hs.settled, hs.recorded⟩
  have hk : k.Settled ∧ k.store.Recorded := hrun.of_effects
    (I := fun k => k.Settled ∧ k.store.Recorded)
    (fun k k' heffect hk => ⟨heffect.settled hk.1, heffect.recorded hk.1 hk.2⟩) hstart
  refine ⟨hk.2, fun hrecorded trip hmem => ?_, fun hnone => ?_⟩
  · by_contra hstale
    rw [Bool.not_eq_false] at hstale
    have hswept := Async.play_of_wlp (wlp_sweepStaleAssigned_swept hmem hstale)
    exact not_recorded_of_swept hk.2 hmem hstale hswept hrecorded
  · have hsame := Async.play_of_wlp (wlp_sweepStaleAssigned_same hnone)
    exact hk.2.of_eq hsame.trips

/-! ### In the town -/

instance (s : Store) : Decidable s.NoneStale :=
  inferInstanceAs (Decidable (∀ trip ∈ s.trips.rows, isStale s.now trip = false))

instance (k : Config) (op : Operation) : Decidable (SweepsNothing k op) :=
  match op with
  | .sweep => decidable_of_iff k.store.NoneStale ⟨fun h _ => h, fun h => h rfl⟩
  | .createTrip .. | .updateStatus .. | .completeTrip .. | .wsAccept .. | .declineTrip ..
  | .wsDecline .. | .timeout .. | .recovery .. | .getPendingRequest .. | .wait .. => .isTrue nofun

/-- Trip 1 is accepted, client 21 cancels trip 2, and a sweep finds nothing. -/
theorem cancelled_at_iff_town : ∃ k, Config.Run Env.town .town SweepsNothing (fun _ _ => True)
      ⟨.town, [], []⟩ k ∧
    k.store.tripStatus 1 = some .accepted ∧ k.store.tripStatus 2 = some .cancelledByClient ∧
    k.store.Recorded := by
  obtain ⟨k, hrun, -, haccepted, hcancelled⟩ := Config.exists_run_of_execute? Env.town .town
    SweepsNothing (fun _ _ => True) Store.town
    [.order 1 2, .wsAccept 1 11, .order 1 2,
      .updateStatus 2 21 .client { status := .cancelledByClient }, .sweep]
    (fun k => k.store.tripStatus 1 = some .accepted ∧
      k.store.tripStatus 2 = some .cancelledByClient) (by decide +kernel)
  exact ⟨k, hrun, haccepted, hcancelled, (cancelled_at_iff Env.town .town Store.fresh_town hrun).1⟩

/-- Driver 1 accepts trip 1 and is not heard of again: the sweep cancels the trip, at no time. -/
theorem swept_not_recorded : ¬ ∀ k, Config.Run Env.town .town (fun _ _ => True) (fun _ _ => True)
    ⟨.town, [], []⟩ k → k.store.Recorded := by
  obtain ⟨k, hrun, -, hrow⟩ := Config.exists_run_of_execute? Env.town .town
    (fun _ _ => True) (fun _ _ => True) Store.town [.order 1 2, .wsAccept 1 11, .wait 2700001, .sweep]
    (fun k => ∃ row ∈ k.store.trips.find? 1, row.status = .cancelledAuto ∧ row.cancelledAt = none)
    (by decide +kernel)
  intro hall
  obtain ⟨row, hfind, hstatus, hnone⟩ := hrow
  have hrecorded := hall k hrun 1 row hfind
  rw [Trip.Recorded, hnone, hstatus] at hrecorded
  exact absurd (hrecorded.mpr rfl) Bool.false_ne_true

end Telima
