import Telima.Async.Caching
import Telima.Async.Refinement
import Telima.Trips.Writes

/-!
# From an order to a price

`createTrip` asks for a price and inserts the trip with it, and anything may come between the two.
Whatever does, a row is the order of one call, no call inserts two, and what was ordered is not
changed: the client pays what `calculatePrice` answered his own request.
-/

namespace Telima

open TripsService DispatchService

/-- What is settled when a trip is inserted. -/
structure Terms where
  clientId : ℕ
  vehicleTypeId : ℕ
  serviceType : ServiceType
  pickupLocation : Point
  dropoffLocation : Point
  estimatedPrice : Option Decimal2
  distanceMeters : Option ℤ
  durationSeconds : Option ℤ
  deriving DecidableEq

/-- The terms of a row. -/
def Trip.terms (trip : Trip) : Terms where
  clientId := trip.clientId
  vehicleTypeId := trip.vehicleTypeId
  serviceType := trip.serviceType
  pickupLocation := trip.pickupLocation
  dropoffLocation := trip.dropoffLocation
  estimatedPrice := trip.estimatedPrice
  distanceMeters := trip.distanceMeters
  durationSeconds := trip.durationSeconds

/-- The terms of a client whose request was priced. -/
def CreateTripDto.terms (dto : CreateTripDto) (clientId : ℕ) (priceResult : PriceResult) :
    Terms where
  clientId := clientId
  vehicleTypeId := dto.vehicleTypeId
  serviceType := dto.serviceType
  pickupLocation := dto.pickup
  dropoffLocation := dto.dropoff
  estimatedPrice := some (.ofNumber priceResult.estimatedPrice)
  distanceMeters := some priceResult.distanceMeters
  durationSeconds := some priceResult.durationSeconds

/-- The terms of a trip do not change. -/
theorem Trip.terms_of_rewrites {c : Cmd} {now : ℕ} {trip trip' : Trip}
    (h : c.Rewrites now trip trip') : trip'.terms = trip.terms := by
  cases h <;> rfl

/-- What `calculatePrice` answers a request. -/
def PricingEnv.priceOf (pricing : PricingEnv) (dto : CreateTripDto) (s : Store) :
    Except Error PriceResult :=
  pricing.calculatePrice dto.serviceType dto.vehicleTypeId dto.pickup dto.dropoff s

/-- Call `i` has ordered on these terms, and was given the price. -/
def Placed (pricing : PricingEnv) (calls : List LifecycleCall) (w : World Store Cmd) (i : ℕ)
    (terms : Terms) : Prop :=
  ∃ clientId dto priceResult k, calls[i]? = some (.createTrip clientId dto) ∧
    w.DidAt k i .external ∧ pricing.priceOf dto (w.storeAt k) = .ok priceResult ∧
    terms = dto.terms clientId priceResult

namespace Orders

variable {s : Store} {pricing : PricingEnv} {calls : List LifecycleCall} {env : Env}
  {fault : Error → Prop}

/-- Call `i` has inserted no trip before the moment `k`. -/
def NoneBefore (i k : ℕ) (w : World Store Cmd) : Prop :=
  ∀ m < k, ∀ data, ¬ w.DidAt m i (.insertTrip data)

/-- What is inserted was ordered, and is the first. -/
def Grounds (pricing : PricingEnv) (calls : List LifecycleCall) (k i : ℕ) (c : Cmd)
    (w : World Store Cmd) : Prop :=
  ∀ data, c = .insertTrip data → k ≤ w.moment ∧ NoneBefore i k w ∧
    ∀ id now, Placed pricing calls w i (data.row id now).terms

theorem grounds_of_edits {k i : ℕ} {c : Cmd} {w : World Store Cmd} (h : c.Edits) :
    Grounds pricing calls k i c w := by
  rintro data rfl
  exact h.elim

/-! ### The past -/

theorem historic_placed (i : ℕ) (terms : Terms) :
    Protocol.Historic fun w => Placed pricing calls w i terms := by
  rintro w w' hsuffix ⟨clientId, dto, priceResult, k, hcall, hasked, hprice, hterms⟩
  refine ⟨clientId, dto, priceResult, k, hcall, hasked.of_suffix hsuffix, ?_, hterms⟩
  rw [World.storeAt_of_suffix hsuffix hasked.lt]
  exact hprice

theorem historic_grounds (k i : ℕ) (c : Cmd) :
    Protocol.Historic fun w => Grounds pricing calls k i c w := by
  intro w w' hsuffix hw data hc
  obtain ⟨hk, hnone, hplaced⟩ := hw data hc
  refine ⟨hk.trans hsuffix.length_le, ?_, fun id now => historic_placed i _ hsuffix (hplaced id now)⟩
  rintro m hm data' ⟨before, hbefore⟩
  rw [World.getElem?_history_of_suffix hsuffix (hm.trans_le hk)] at hbefore
  exact hnone m hm data' ⟨before, hbefore⟩

/-- The rows of `s` are still there, every other row was inserted, and every insertion has its
grounds. -/
structure Kept (s : Store) (pricing : PricingEnv) (calls : List LifecycleCall)
    (w : World Store Cmd) : Prop where
  old : ∀ tripId row, s.trips.find? tripId = some row →
    ∃ trip, w.store.trips.find? tripId = some trip ∧ trip.terms = row.terms
  new : ∀ tripId trip, w.store.trips.find? tripId = some trip → s.trips.find? tripId = none →
    ∃ k i data now, w.DidAt k i (.insertTrip data) ∧ (w.storeAt k).trips.freshKey = tripId ∧
      trip.terms = (data.row tripId now).terms
  grounds : ∀ k i c, w.DidAt k i c → Grounds pricing calls k i c w

theorem kept_init : Kept s pricing calls ⟨s, []⟩ where
  old _ row hrow := ⟨row, hrow, rfl⟩
  new _ trip htrip hnone := by
    rw [htrip] at hnone
    cases hnone
  grounds k _ _ hd := absurd hd.lt (Nat.not_lt_zero k)

theorem Kept.step {w : World Store Cmd} {c : Cmd} {i n : ℕ} (h : Kept s pricing calls w)
    (hgrounds : Grounds pricing calls w.moment i c w) :
    Kept s pricing calls (w.step (system env ()) i c n) where
  old := by
    intro tripId row hrow
    obtain ⟨trip, htrip, hterms⟩ := h.old tripId row hrow
    obtain ⟨trip', htrip', hrewrites⟩ := Store.exists_rewrites c htrip
    refine ⟨trip', ?_, (Trip.terms_of_rewrites hrewrites).trans hterms⟩
    rw [World.store_step]
    exact htrip'
  new := by
    intro tripId trip' htrip' hnone
    rw [World.store_step] at htrip'
    rcases Store.rewrites_or_row c htrip' with ⟨trip, htrip, hrewrites⟩ | ⟨data, rfl, hfresh, rfl⟩
    · obtain ⟨k, j, data, now, hd, hfresh, hterms⟩ := h.new tripId trip htrip hnone
      refine ⟨k, j, data, now, hd.of_suffix World.trace_step_suffix, ?_, ?_⟩
      · rw [World.storeAt_of_suffix World.trace_step_suffix hd.lt]
        exact hfresh
      · rw [Trip.terms_of_rewrites hrewrites, hterms]
    · refine ⟨w.moment, i, data, w.store.now, World.didAt_step.1, ?_, rfl⟩
      rw [World.didAt_step.2]
      exact hfresh
  grounds := Protocol.grounds_step historic_grounds h.grounds hgrounds

/-- A call inserts once. -/
theorem Kept.insertTrip_unique {w : World Store Cmd} {k k' i : ℕ} {data data' : CreateTripData}
    (h : Kept s pricing calls w) (hd : w.DidAt k i (.insertTrip data))
    (hd' : w.DidAt k' i (.insertTrip data')) : k = k' := by
  obtain ⟨-, hnone, -⟩ := h.grounds k i _ hd data rfl
  obtain ⟨-, hnone', -⟩ := h.grounds k' i _ hd' data' rfl
  rcases Nat.lt_trichotomy k k' with hlt | heq | hgt
  · exact absurd hd (hnone' k hlt data)
  · exact heq
  · exact absurd hd' (hnone k' hgt data')

/-! ### The protocol -/

/-- Over the columns of a trip, its terms. -/
def layer (s : Store) (pricing : PricingEnv) (calls : List LifecycleCall) (env : Env)
    (fault : Error → Prop) : (Completeness.protocol env fault).Layer where
  cond _ _ _ := True
  inv := Kept s pricing calls
  guar i w c := Grounds pricing calls w.moment i c w
  cond_of_cond _ := trivial
  inv_step _ hkept _ _ hgrounds := hkept.step hgrounds

/-- Every trip is complete, and is what one call has ordered. -/
def protocol (s : Store) (pricing : PricingEnv) (calls : List LifecycleCall) (env : Env)
    (fault : Error → Prop) : Protocol (system env ()) :=
  (Completeness.protocol env fault).add (layer s pricing calls env fault)

theorem refines : (protocol s pricing calls env fault).Refines (Completeness.protocol env fault) :=
  Protocol.refines_add (layer s pricing calls env fault)

section Threads

variable {i : ℕ} {w : World Store Cmd}

theorem frame_true : (protocol s pricing calls env fault).Frame i (fun c => c.keepsTrips = true)
    fun _ => True where
  stable := Protocol.stable_const i True
  performs := by
    intro c w hc _ _ _
    refine ⟨⟨Completeness.guards_of_keepsTrips hc, ?_⟩, fun _ _ _ => trivial⟩
    exact grounds_of_edits (Cmd.edits_of_keepsTrips hc)

/-- Call `i` has inserted no trip. -/
def Unplaced (i : ℕ) (w : World Store Cmd) : Prop := NoneBefore i w.moment w

theorem Unplaced.not_didAt (h : Unplaced i w) {k : ℕ} {data : CreateTripData} :
    ¬ w.DidAt k i (.insertTrip data) := fun hd => h k hd.lt data hd

theorem Unplaced.step {j n : ℕ} {c : Cmd} (h : Unplaced i w)
    (hc : j ≠ i ∨ c.Edits) : Unplaced i (w.step (system env ()) j c n) := by
  intro m _ data hd
  rcases hd.of_step with hd | ⟨-, hj, rfl⟩
  · exact h.not_didAt hd
  · rcases hc with hj' | hc
    · exact hj' hj
    · exact hc

theorem stable_unplaced : (protocol s pricing calls env fault).Stable i (Unplaced i) := by
  rintro w _ ⟨j, c, n, hj, -, -, -, -, -, -, rfl⟩ hw
  exact hw.step (Or.inl hj)

theorem wp_createTrip {clientId : ℕ} {dto : CreateTripDto}
    (hcall : calls[i]? = some (.createTrip clientId dto)) (hw : Unplaced i w) :
    (protocol s pricing calls env fault).wp i (TripsService.createTrip pricing clientId dto)
      (fun _ _ => True) w := by
  unfold TripsService.createTrip
  refine Protocol.wp_queryE_bind stable_unplaced hw (fun w hw _ _ => ?_) fun _ _ _ _ _ => trivial
  refine ⟨⟨trivial, grounds_of_edits trivial⟩, fun n _ _ => ?_⟩
  cases hprice : pricing.calculatePrice dto.serviceType dto.vehicleTypeId dto.pickup dto.dropoff
    w.store with
  | error e => trivial
  | ok priceResult =>
    -- the price stays the answer that was given, whatever others do
    have hplaced : Placed pricing calls (w.step (system env ()) i .external n) i
        (dto.terms clientId priceResult) := by
      refine ⟨clientId, dto, priceResult, w.moment, hcall, World.didAt_step.1, ?_, rfl⟩
      rw [World.didAt_step.2]
      exact hprice
    have hstable : (protocol s pricing calls env fault).Stable i fun w =>
        Unplaced i w ∧ Placed pricing calls w i (dto.terms clientId priceResult) :=
      stable_unplaced.and (historic_placed i _).stable
    refine Protocol.wp_queryE_bind hstable ⟨hw.step (Or.inr trivial), hplaced⟩
      (fun w hw _ _ => ?_) fun _ _ _ _ _ => trivial
    constructor
    · refine ⟨trivial, ?_⟩
      rintro data ⟨⟩
      exact ⟨le_rfl, hw.1, fun _ _ => hw.2⟩
    · intro n _ _
      split_ifs
      · rw [Async.done_ok_bind]
        refine frame_true.wp ?_ trivial
        refine Async.Only.bind ?_ fun _ =>
          (Completeness.keepsTrips_getTrip _).bind fun trip => ?_
        · exact only_createDetails (P := fun c => c.keepsTrips = true) rfl dto.serviceType
        · exact Async.only_emit_bind.mpr ⟨rfl, fun _ => trivial⟩
      · trivial

theorem wp_program {call : LifecycleCall} (hcall : calls[i]? = some call) (hw : Unplaced i w) :
    (protocol s pricing calls env fault).wp i (call.program env pricing) (fun _ _ => True) w := by
  cases horder : call.isOrder with
  | true =>
    cases call with
    | createTrip clientId dto => exact Protocol.wp_as (wp_createTrip hcall hw)
    | _ => cases horder
  | false =>
    refine refines.wp (onlyEdits_program env pricing horder) ?_ (Completeness.wp_program pricing call)
    exact fun hc _ _ hguar => ⟨hguar, grounds_of_edits hc⟩

theorem handlersKeep : (protocol s pricing calls env fault).HandlersKeep fun _ _ _ => True :=
  refines.handlersKeep Completeness.handlersKeep (fun _ _ => onlyEdits_handlers)
    fun hc _ _ hguar => ⟨hguar, grounds_of_edits hc⟩

theorem safe_init (hs : s.Complete) : (protocol s pricing calls env fault).Safe (fun _ _ _ => True)
    (Pool.init s (calls.map (·.program env pricing))) := by
  refine Protocol.safe_init ⟨hs, kept_init⟩ fun i t ht => ?_
  rw [List.getElem?_map] at ht
  obtain ⟨call, hcall, rfl⟩ := Option.map_eq_some_iff.mp ht
  exact wp_program hcall fun m hm => absurd hm (Nat.not_lt_zero m)

end Threads

end Orders

/-- In every run, whatever fails, every new trip is what one call has ordered, no call has ordered two,
nothing ordered changes, and a completed trip costs what its client was told. -/
theorem orders_priced (env : Env) (pricing : PricingEnv) (s : Store)
    (hs : ∀ trip ∈ s.trips.rows, trip.Complete) (calls : List LifecycleCall)
    (fault : Error → Prop) {p : Pool Store Cmd Error Unit}
    (hp : Pool.Run (system env ()) (fun _ _ _ => True) fault
      (Pool.init s (calls.map (·.program env pricing))) p) :
    (∀ row ∈ s.trips.rows, ∃ trip ∈ p.world.store.trips.rows,
      trip.id = row.id ∧ trip.terms = row.terms) ∧
    (∃ caller : ℕ → ℕ,
      (∀ trip ∈ p.world.store.trips.rows, s.trips.find? trip.id = none →
        Placed pricing calls p.world (caller trip.id) trip.terms) ∧
      ∀ trip ∈ p.world.store.trips.rows, ∀ trip' ∈ p.world.store.trips.rows,
        s.trips.find? trip.id = none → s.trips.find? trip'.id = none →
          caller trip.id = caller trip'.id → trip = trip') ∧
    ∀ trip ∈ p.world.store.trips.rows, trip.status = .completed →
      trip.finalPrice = trip.terms.estimatedPrice := by
  have hsafe := (Orders.safe_init (Store.complete_iff.mpr hs)).run
    (fun i _ => Protocol.stable_const i True) Orders.handlersKeep hp
  have hkept : Orders.Kept s pricing calls p.world := hsafe.inv.2
  have hnew : ∀ tripId, ∃ i, ∀ trip, p.world.store.trips.find? tripId = some trip →
      s.trips.find? tripId = none → ∃ k data now, p.world.DidAt k i (.insertTrip data) ∧
        (p.world.storeAt k).trips.freshKey = tripId ∧ trip.terms = (data.row tripId now).terms := by
    intro tripId
    cases htrip : p.world.store.trips.find? tripId with
    | none => exact ⟨0, fun trip h => by cases h⟩
    | some trip =>
      cases hold : s.trips.find? tripId with
      | some row => exact ⟨0, fun _ _ h => by cases h⟩
      | none =>
        obtain ⟨k, i, data, now, hd⟩ := hkept.new tripId trip htrip hold
        refine ⟨i, fun trip' htrip' _ => ?_⟩
        obtain rfl := Option.some.inj htrip'
        exact ⟨k, data, now, hd⟩
  choose caller hcaller using hnew
  refine ⟨fun row hrow => ?_, ⟨caller, fun trip htrip hnone => ?_, ?_⟩, fun trip htrip hstatus => ?_⟩
  · obtain ⟨trip, htrip, hterms⟩ := hkept.old row.id row (Table.find?_of_mem hrow)
    exact ⟨trip, Table.mem_of_find? htrip, Table.key_of_find? htrip, hterms⟩
  · obtain ⟨k, data, now, hd, -, hterms⟩ :=
      hcaller trip.id trip (Table.find?_of_mem htrip) hnone
    rw [hterms]
    exact (hkept.grounds k _ _ hd data rfl).2.2 trip.id now
  · intro trip htrip trip' htrip' hnone hnone' heq
    obtain ⟨k, data, now, hd, hfresh, -⟩ :=
      hcaller trip.id trip (Table.find?_of_mem htrip) hnone
    obtain ⟨k', data', now', hd', hfresh', -⟩ :=
      hcaller trip'.id trip' (Table.find?_of_mem htrip') hnone'
    rw [← heq] at hd'
    have hid : trip.id = trip'.id := by
      rw [← hfresh, ← hfresh', hkept.insertTrip_unique hd hd']
    exact Table.eq_of_mem_of_key_eq htrip htrip' hid
  · exact ((hsafe.inv.1 trip.id trip (Table.find?_of_mem htrip)).completed hstatus).2

namespace Orders

/-- Every price is higher than the one before. -/
def risingPricing : PricingEnv where
  calculatePrice _ _ _ _ s := .ok ⟨1500 + 100 * s.externalCalls, 3000, 600⟩

/-- Two clients order the same trip, and driver 1 completes his. -/
def rush : List LifecycleCall :=
  [.createTrip 21 { serviceType := .ride, vehicleTypeId := 1, pickup := ⟨0, 0⟩, dropoff := ⟨1, 1⟩ },
    .createTrip 22 { serviceType := .ride, vehicleTypeId := 1, pickup := ⟨0, 0⟩, dropoff := ⟨1, 1⟩ },
    .trip (.completeTrip 1 10 .driver ⟨2000⟩)]

end Orders

open Orders in
/-- Client 22 has asked first, client 21 is inserted first: each pays what he was told. -/
theorem orders_priced_rush : ∃ p : Pool Store Cmd Error Unit,
    (p.world.store.trips.rows.map fun trip => (trip.id, trip.clientId, trip.estimatedPrice)) =
      [(1, 20, some 200000), (2, 21, some 160000), (3, 22, some 150000)] ∧
    (∃ caller : ℕ → ℕ, ∀ trip ∈ p.world.store.trips.rows,
      Completeness.startedStore.trips.find? trip.id = none →
        Placed risingPricing rush p.world (caller trip.id) trip.terms) ∧
    ∀ trip ∈ p.world.store.trips.rows, trip.status = .completed →
      trip.finalPrice = trip.terms.estimatedPrice := by
  obtain ⟨p, hp, hrows⟩ := Pool.exists_run_of_schedule? (system Env.offline ())
    (fun _ _ _ => True) (fun _ => False)
    (Pool.init Completeness.startedStore (rush.map (·.program Env.offline risingPricing)))
    [1, 0, 0, 2, 2, 1, 2, 2, 2]
    (fun p => (p.world.store.trips.rows.map fun trip =>
      (trip.id, trip.clientId, trip.estimatedPrice)) =
        [(1, 20, some 200000), (2, 21, some 160000), (3, 22, some 150000)]) (by decide +kernel)
  obtain ⟨-, ⟨caller, hcaller, -⟩, hprice⟩ := orders_priced Env.offline risingPricing
    Completeness.startedStore Completeness.startedStore_complete rush _ hp
  exact ⟨p, hrows, ⟨caller, hcaller⟩, hprice⟩

end Telima
