import Telima.Async.Refinement
import Telima.Trips.Writes

/-!
# The client's word on a delivery

`confirmDelivery` and `reportDeliveryIssue` read the trip, check it, and write it an await later, when
other calls may have written it too, and even its status may have fallen back.  What they have
checked survives (`Trip.Continues`): the client and the service of a row never change, and no column
is cleared.  So whatever is interleaved, a confirmation is that of the trip's own client, for a
delivery that a driver has completed.
-/

namespace Telima

open TripsService DispatchService

/-- A later row of the same trip. -/
structure Trip.Continues (trip trip' : Trip) : Prop extends trip.Grows trip' where
  id : trip'.id = trip.id
  clientId : trip'.clientId = trip.clientId
  serviceType : trip'.serviceType = trip.serviceType

namespace Trip

variable {trip trip' trip'' : Trip}

theorem Continues.refl (trip : Trip) : trip.Continues trip := ⟨.refl trip, rfl, rfl, rfl⟩

theorem Continues.trans (h : trip.Continues trip') (h' : trip'.Continues trip'') :
    trip.Continues trip'' where
  toGrows := h.toGrows.trans h'.toGrows
  id := h'.id.trans h.id
  clientId := h'.clientId.trans h.clientId
  serviceType := h'.serviceType.trans h.serviceType

/-- Whatever rewrites a row continues it. -/
theorem continues_of_rewrites {c : Cmd} {now : ℕ} (h : c.Rewrites now trip trip') :
    trip.Continues trip' := by
  cases h with
  | kept => exact .refl trip
  | updated data => exact ⟨grows_apply data now trip, rfl, rfl, rfl⟩
  | charged commissionAmount => exact ⟨grows_charge commissionAmount now trip, rfl, rfl, rfl⟩

end Trip

/-! ### Calls -/

/-- A call that writes a trip. -/
inductive DeliveryCall where
  | lifecycle (call : LifecycleCall)
  | confirmDelivery (tripId userId : ℕ)
  | reportDeliveryIssue (tripId userId : ℕ) (reason : String)

def DeliveryCall.program (env : Env) (pricing : PricingEnv) : DeliveryCall → Prog Unit
  | lifecycle call => call.program env pricing
  | confirmDelivery tripId userId => TripsService.confirmDelivery tripId userId
  | reportDeliveryIssue tripId userId reason =>
    TripsService.reportDeliveryIssue tripId userId reason

/-- The client has asked to confirm the trip: a delivery that a driver has completed. -/
structure Trip.ConfirmedBy (calls : List DeliveryCall) (trip : Trip) : Prop where
  delivery : trip.serviceType = .delivery
  driven : trip.driverId.isSome = true
  completed : trip.completedAt.isSome = true
  called : .confirmDelivery trip.id trip.clientId ∈ calls

/-- The client has reported the issue of the trip, a delivery. -/
structure Trip.ReportedBy (calls : List DeliveryCall) (reason : String) (trip : Trip) : Prop where
  delivery : trip.serviceType = .delivery
  called : .reportDeliveryIssue trip.id trip.clientId reason ∈ calls

/-- What the row says of the delivery was already in `s`, or the client has said it. -/
structure Trip.Traced (s : Store) (calls : List DeliveryCall) (trip : Trip) : Prop where
  confirmed : ∀ t, trip.deliveryConfirmedAt = some t →
    (∃ row, s.trips.find? trip.id = some row ∧ row.deliveryConfirmedAt = some t) ∨
      trip.ConfirmedBy calls
  reported : ∀ reason, trip.deliveryIssueReported = some reason →
    (∃ row, s.trips.find? trip.id = some row ∧ row.deliveryIssueReported = some reason) ∨
      trip.ReportedBy calls reason

/-- What the client says, he says of the row that is updated. -/
structure TripData.Speaks (calls : List DeliveryCall) (data : TripData) (trip : Trip) : Prop where
  confirmed : data.deliveryConfirmedAt.isSome = true → trip.ConfirmedBy calls
  reported : ∀ reason, data.deliveryIssueReported = some reason → trip.ReportedBy calls reason

namespace Trip

variable {s : Store} {calls : List DeliveryCall} {trip trip' : Trip}

theorem ConfirmedBy.continues (h : trip.ConfirmedBy calls) (hcontinues : trip.Continues trip') :
    trip'.ConfirmedBy calls where
  delivery := hcontinues.serviceType.trans h.delivery
  driven := hcontinues.driverId h.driven
  completed := hcontinues.completedAt h.completed
  called := by
    rw [hcontinues.id, hcontinues.clientId]
    exact h.called

theorem ReportedBy.continues {reason : String} (h : trip.ReportedBy calls reason)
    (hcontinues : trip.Continues trip') : trip'.ReportedBy calls reason where
  delivery := hcontinues.serviceType.trans h.delivery
  called := by
    rw [hcontinues.id, hcontinues.clientId]
    exact h.called

theorem traced_row (data : CreateTripData) (id now : ℕ) : (data.row id now).Traced s calls where
  confirmed t ht := by cases ht
  reported reason hreason := by cases hreason

/-- A row that says nothing new of the delivery. -/
theorem Traced.continues (h : trip.Traced s calls) (hcontinues : trip.Continues trip')
    (hconfirmed : trip'.deliveryConfirmedAt = trip.deliveryConfirmedAt)
    (hreported : trip'.deliveryIssueReported = trip.deliveryIssueReported) :
    trip'.Traced s calls where
  confirmed t ht := by
    rw [hcontinues.id]
    exact (h.confirmed t (hconfirmed ▸ ht)).imp_right fun hby => hby.continues hcontinues
  reported reason hreason := by
    rw [hcontinues.id]
    exact (h.reported reason (hreported ▸ hreason)).imp_right fun hby => hby.continues hcontinues

theorem Traced.apply {data : TripData} (h : trip.Traced s calls) (hdata : data.Speaks calls trip)
    (now : ℕ) : (data.apply now trip).Traced s calls := by
  have hcontinues : trip.Continues (data.apply now trip) :=
    ⟨grows_apply data now trip, rfl, rfl, rfl⟩
  constructor
  · intro t ht
    cases hsaid : data.deliveryConfirmedAt with
    | some t' =>
      exact Or.inr ((hdata.confirmed (by rw [hsaid]; rfl)).continues hcontinues)
    | none =>
      simp only [TripData.apply, hsaid, Option.none_or] at ht
      exact (h.confirmed t ht).imp_right fun hby => hby.continues hcontinues
  · intro reason hreason
    cases hsaid : data.deliveryIssueReported with
    | some reason' =>
      simp only [TripData.apply, hsaid, Option.some_or] at hreason
      rw [hreason] at hsaid
      exact Or.inr ((hdata.reported reason hsaid).continues hcontinues)
    | none =>
      simp only [TripData.apply, hsaid, Option.none_or] at hreason
      exact (h.reported reason hreason).imp_right fun hby => hby.continues hcontinues

end Trip

theorem TripData.LeavesDelivery.speaks {calls : List DeliveryCall} {data : TripData}
    (h : data.LeavesDelivery) (trip : Trip) : data.Speaks calls trip where
  confirmed hset := by simp [h.confirmed] at hset
  reported reason hreason := by simp [h.reported] at hreason

namespace Deliveries

/-! ### The protocol -/

/-- What is written of a delivery, its client has said. -/
def Guards (calls : List DeliveryCall) (w : World Store Cmd) : Cmd → Prop
  | .updateTrip tripId data => ∀ row, w.store.trips.find? tripId = some row → data.Speaks calls row
  | .updateTripIfPending _ data => data.LeavesDelivery
  | _ => True

variable {s : Store} {calls : List DeliveryCall} {env : Env} {fault : Error → Prop}

theorem guards_of_edits {w : World Store Cmd} {c : Cmd} (h : c.Edits) : Guards calls w c := by
  cases c with
  | updateTrip tripId data => exact fun row _ => TripData.LeavesDelivery.speaks h row
  | updateTripIfPending tripId data => exact h
  | _ => trivial

/-- Everything the rows say of deliveries is traced. -/
def Traced (s : Store) (calls : List DeliveryCall) (w : World Store Cmd) : Prop :=
  ∀ tripId trip, w.store.trips.find? tripId = some trip → trip.Traced s calls

theorem traced_init : Traced s calls ⟨s, []⟩ := by
  intro tripId trip htrip
  have hrow : s.trips.find? trip.id = some trip := Table.find?_of_mem (Table.mem_of_find? htrip)
  constructor
  · intro t ht
    exact Or.inl ⟨trip, hrow, ht⟩
  · intro reason hreason
    exact Or.inl ⟨trip, hrow, hreason⟩

theorem traced_step {w : World Store Cmd} {c : Cmd} {i n : ℕ} (h : Traced s calls w)
    (hguards : Guards calls w c) : Traced s calls (w.step (system env ()) i c n) := by
  intro tripId trip' htrip'
  rw [World.store_step] at htrip'
  rcases Store.rewrites_or_row c htrip' with ⟨trip, htrip, hrewrites⟩ | ⟨data, -, -, rfl⟩
  · have htraced := h tripId trip htrip
    have hid : trip.id = tripId := Table.key_of_find? htrip
    cases hrewrites with
    | kept => exact htraced
    | charged commissionAmount =>
      have hcharged : c.Rewrites w.store.now trip _ := .charged commissionAmount
      exact htraced.continues (Trip.continues_of_rewrites hcharged) rfl rfl
    | updated data hc =>
      refine htraced.apply ?_ w.store.now
      rcases hc with rfl | rfl
      · exact hguards trip (hid ▸ htrip)
      · exact TripData.LeavesDelivery.speaks hguards trip
  · exact Trip.traced_row data tripId w.store.now

/-- Over the columns of a trip, the client's word. -/
def layer (s : Store) (calls : List DeliveryCall) (env : Env) (fault : Error → Prop) :
    (Completeness.protocol env fault).Layer where
  cond _ _ _ := True
  inv := Traced s calls
  guar _ := Guards calls
  cond_of_cond _ := trivial
  inv_step _ htraced _ _ hguards := traced_step htraced hguards

/-- Every trip is complete, and what it says of its delivery is the client's word. -/
def protocol (s : Store) (calls : List DeliveryCall) (env : Env) (fault : Error → Prop) :
    Protocol (system env ()) :=
  (Completeness.protocol env fault).add (layer s calls env fault)

theorem refines : (protocol s calls env fault).Refines (Completeness.protocol env fault) :=
  Protocol.refines_add (layer s calls env fault)

section Threads

variable {i tripId userId : ℕ} {w : World Store Cmd}

/-- The stored row continues the row that was read. -/
def Continued (tripId : ℕ) (trip : Trip) (w : World Store Cmd) : Prop :=
  ∃ row, w.store.trips.find? tripId = some row ∧ trip.Continues row

theorem continued_step {j n : ℕ} {c : Cmd} {trip : Trip} (h : Continued tripId trip w) :
    Continued tripId trip (w.step (system env ()) j c n) := by
  obtain ⟨row, hrow, hcontinues⟩ := h
  obtain ⟨row', hrow', hrewrites⟩ := Store.exists_rewrites c hrow
  refine ⟨row', ?_, hcontinues.trans (Trip.continues_of_rewrites hrewrites)⟩
  rw [World.store_step]
  exact hrow'

theorem frame_continued (trip : Trip) : (protocol s calls env fault).Frame i
    (fun c => c.keepsTrips = true) (Continued tripId trip) where
  stable := by
    rintro w _ ⟨j, c, n, -, -, -, -, -, -, -, rfl⟩ hw
    exact continued_step hw
  performs := by
    intro c w hc hw _ _
    refine ⟨⟨Completeness.guards_of_keepsTrips hc, ?_⟩, fun _ _ _ => continued_step hw⟩
    exact guards_of_edits (Cmd.edits_of_keepsTrips hc)

/-- What follows the read of a trip, when the trip is there. -/
theorem wp_getTrip_bind {α : Type} {f : Trip → Prog α}
    (hf : ∀ trip w, trip.id = tripId → trip.Complete → Continued tripId trip w →
      (protocol s calls env fault).wp i (f trip) (fun _ _ => True) w) :
    (protocol s calls env fault).wp i ((getTrip tripId).bind f) (fun _ _ => True) w := by
  rw [getTrip_bind]
  refine Protocol.wp_query_bind (Protocol.stable_const i True) trivial (fun w _ hinv _ => ?_)
    fun _ _ _ _ _ => trivial
  refine ⟨⟨trivial, trivial⟩, fun n _ _ => ?_⟩
  cases htrip : w.store.trips.find? tripId with
  | none => trivial
  | some trip =>
    have hcontinued : Continued tripId trip (w.step (system env ()) i (.findTrip tripId) n) :=
      continued_step ⟨trip, htrip, .refl trip⟩
    refine (frame_continued trip).wp_bind (Async.only_perform.mpr rfl) hcontinued ?_
      fun _ _ _ => trivial
    exact fun _ w hw => hf trip w (Table.key_of_find? htrip) (hinv.1 tripId trip htrip) hw

/-- An update of the client's word, and a rest that writes no trip. -/
theorem wp_update_bind {α : Type} {trip : Trip} {data : TripData} {f : Trip → Prog α}
    (hfits : Completeness.Fits trip data)
    (hdata : ∀ row, trip.Continues row → data.Speaks calls row)
    (hf : ∀ trip, (f trip).Only fun c => c.keepsTrips = true) (hw : Continued tripId trip w) :
    (protocol s calls env fault).wp i ((TripRepository.update tripId data).bind f)
      (fun _ _ => True) w := by
  refine Protocol.wp_queryE_bind (frame_continued trip).stable hw (fun w hw hinv _ => ?_)
    fun _ _ _ _ _ => trivial
  have hcontinued := hw
  obtain ⟨row, hrow, hcontinues⟩ := hw
  constructor
  · constructor
    · intro row' hrow'
      obtain rfl := Option.some.inj (hrow.symm.trans hrow')
      exact hfits row w.store.now hcontinues.toGrows (hinv.1 tripId row hrow)
    · intro row' hrow'
      obtain rfl := Option.some.inj (hrow.symm.trans hrow')
      exact hdata row hcontinues
  · intro n _ _
    cases orNotFound ((w.store.trips.find? tripId).map (data.apply w.store.now)) with
    | error e => trivial
    | ok updated =>
      have hframe : (protocol s calls env fault).Frame i (fun c => c.keepsTrips = true)
          (Continued tripId trip) := frame_continued trip
      exact Protocol.wp_mono (fun _ _ _ => trivial)
        (hframe.wp (hf updated) (continued_step hcontinued))

theorem wp_confirmDelivery (hcall : .confirmDelivery tripId userId ∈ calls) :
    (protocol s calls env fault).wp i (TripsService.confirmDelivery tripId userId)
      (fun _ _ => True) w := by
  refine wp_getTrip_bind fun trip w hid htrip hw => ?_
  split_ifs with hclient hdelivery hstatus hconfirmed
  · trivial
  · trivial
  · trivial
  · trivial
  · refine (frame_continued trip).wp_bind (Async.only_read.mpr rfl) hw (fun now w hw => ?_)
      fun _ _ _ => trivial
    have hby : trip.ConfirmedBy calls := by
      -- the row that was read says who confirms what; the row that is written continues it
      constructor
      · exact not_not.mp hdelivery
      · exact (htrip.accepted (by simp [not_not.mp hstatus])).1
      · exact (htrip.completed (not_not.mp hstatus)).1
      · rw [hid, not_not.mp hclient]
        exact hcall
    refine wp_update_bind (Completeness.fits_of_payment rfl rfl) (fun row hrow => ?_)
      (fun _ => ?_) hw
    · constructor
      · intro _
        exact hby.continues hrow
      · intro reason hreason
        cases hreason
    · refine Async.only_emit_bind.mpr ⟨rfl, fun _ => ?_⟩
      exact Async.Only.forEach fun driverId _ => Async.only_emit.mpr rfl

theorem wp_reportDeliveryIssue {reason : String}
    (hcall : .reportDeliveryIssue tripId userId reason ∈ calls) :
    (protocol s calls env fault).wp i (TripsService.reportDeliveryIssue tripId userId reason)
      (fun _ _ => True) w := by
  refine wp_getTrip_bind fun trip w hid htrip hw => ?_
  split_ifs with hclient hdelivery
  · trivial
  · trivial
  · have hby : trip.ReportedBy calls reason := by
      constructor
      · exact not_not.mp hdelivery
      · rw [hid, not_not.mp hclient]
        exact hcall
    refine wp_update_bind (Completeness.fits_of_payment rfl rfl) (fun row hrow => ?_)
      (fun _ => trivial) hw
    constructor
    · intro hset
      cases hset
    · intro reason' hreason
      obtain rfl := Option.some.inj hreason
      exact hby.continues hrow

theorem wp_program (pricing : PricingEnv) {call : DeliveryCall} (hcall : call ∈ calls) :
    (protocol s calls env fault).wp i (call.program env pricing) (fun _ _ => True) w := by
  cases call with
  | lifecycle call =>
    refine refines.wp (only_program env pricing call) (fun hc _ _ hguar => ⟨hguar, ?_⟩)
      (Completeness.wp_program pricing call)
    rcases hc with hc | ⟨data, rfl⟩
    · exact guards_of_edits hc
    · trivial
  | confirmDelivery tripId userId => exact wp_confirmDelivery hcall
  | reportDeliveryIssue tripId userId reason => exact wp_reportDeliveryIssue hcall

theorem handlersKeep : (protocol s calls env fault).HandlersKeep fun _ _ _ => True :=
  refines.handlersKeep Completeness.handlersKeep (fun _ _ => onlyEdits_handlers)
    fun hc _ _ hguar => ⟨hguar, guards_of_edits hc⟩

end Threads

/-- A later row still says of the delivery what it has said. -/
theorem exists_said_run {cond : ℕ → World Store Cmd → Cmd → Prop}
    {p q : Pool Store Cmd Error Unit} (h : Pool.Run (system env ()) cond fault p q) {tripId : ℕ}
    {trip : Trip} (htrip : p.world.store.trips.find? tripId = some trip) :
    ∃ trip', q.world.store.trips.find? tripId = some trip' ∧ trip.Continues trip' ∧
      (trip.deliveryConfirmedAt.isSome = true → trip'.deliveryConfirmedAt.isSome = true) ∧
      (trip.deliveryIssueReported.isSome = true → trip'.deliveryIssueReported.isSome = true) := by
  have hrewrites : ∀ {c : Cmd} {now : ℕ} {row row' : Trip}, c.Rewrites now row row' →
      (row.deliveryConfirmedAt.isSome = true → row'.deliveryConfirmedAt.isSome = true) ∧
      (row.deliveryIssueReported.isSome = true → row'.deliveryIssueReported.isSome = true) := by
    intro c now row row' hrow
    cases hrow with
    | kept => exact ⟨fun h => h, fun h => h⟩
    | charged commissionAmount => exact ⟨fun h => h, fun h => h⟩
    | updated data =>
      constructor
      · intro hset
        cases hdata : data.deliveryConfirmedAt <;> simp [TripData.apply, hdata, hset]
      · intro hset
        cases hdata : data.deliveryIssueReported <;> simp [TripData.apply, hdata, hset]
  induction h with
  | refl => exact ⟨trip, htrip, .refl trip, fun h => h, fun h => h⟩
  | tail _ hstep ih =>
    obtain ⟨row, hrow, hcontinues, hconfirmed, hreported⟩ := ih
    cases hstep with
    | reject hi hrun he ht => exact ⟨row, hrow, hcontinues, hconfirmed, hreported⟩
    | @act i t c hi hrun hc hcond =>
      obtain ⟨row', hrow', hrow''⟩ := Store.exists_rewrites c hrow
      refine ⟨row', ?_, hcontinues.trans (Trip.continues_of_rewrites hrow''),
        fun h => (hrewrites hrow'').1 (hconfirmed h), fun h => (hrewrites hrow'').2 (hreported h)⟩
      rw [Pool.advance, World.store_step]
      exact hrow'

end Deliveries

/-- In every run, whatever fails, a delivery is confirmed only by its own client, once a driver has
completed it, and an issue is one he has reported; what was said is not taken back. -/
theorem deliveries_confirmed (env : Env) (pricing : PricingEnv) (s : Store)
    (hs : ∀ trip ∈ s.trips.rows, trip.Complete) (calls : List DeliveryCall)
    (fault : Error → Prop) {p : Pool Store Cmd Error Unit}
    (hp : Pool.Run (system env ()) (fun _ _ _ => True) fault
      (Pool.init s (calls.map (·.program env pricing))) p) :
    (∀ trip ∈ p.world.store.trips.rows, trip.Traced s calls) ∧
    ∀ q, Pool.Run (system env ()) (fun _ _ _ => True) fault p q →
      ∀ trip ∈ p.world.store.trips.rows, ∃ trip' ∈ q.world.store.trips.rows,
        trip.Continues trip' ∧
        (trip.deliveryConfirmedAt.isSome = true → trip'.deliveryConfirmedAt.isSome = true) ∧
        (trip.deliveryIssueReported.isSome = true → trip'.deliveryIssueReported.isSome = true) := by
  have hinit : (Deliveries.protocol s calls env fault).Safe (fun _ _ _ => True)
      (Pool.init s (calls.map (·.program env pricing))) := by
    refine Protocol.safe_init ⟨Store.complete_iff.mpr hs, Deliveries.traced_init⟩ fun i t ht => ?_
    obtain ⟨call, hcall, rfl⟩ := List.mem_map.mp (List.mem_of_getElem? ht)
    exact Deliveries.wp_program pricing hcall
  have hsafe := hinit.run (fun i _ => Protocol.stable_const i True) Deliveries.handlersKeep hp
  constructor
  · intro trip htrip
    exact hsafe.inv.2 trip.id trip (Table.find?_of_mem htrip)
  · intro q hq trip htrip
    obtain ⟨trip', htrip', hsaid⟩ := Deliveries.exists_said_run hq (Table.find?_of_mem htrip)
    exact ⟨trip', Table.mem_of_find? htrip', hsaid⟩

namespace Deliveries

/-- Driver 1 (user 10) carries a parcel of client 20. -/
def carriedStore : Store where
  drivers := .single ⟨1, 10, 0, 0⟩
  vehicleTypes := .single ⟨1, 1000⟩
  trips :=
    .single { id := 1, clientId := 20, driverId := some 1, vehicleTypeId := 1
              serviceType := .delivery, status := .inProgress, pickupLocation := ⟨0, 0⟩
              dropoffLocation := ⟨0, 0⟩, estimatedPrice := some 200000, acceptedAt := some 0
              driverArrivedAt := some 0, startedAt := some 0, createdAt := 0, updatedAt := 0 }

theorem carriedStore_complete : ∀ trip ∈ carriedStore.trips.rows, trip.Complete := by
  intro trip htrip
  obtain rfl := List.mem_singleton.mp htrip
  constructor <;> decide

/-- The driver completes the delivery; client 20 confirms it, and a stranger would like to. -/
def completeAndConfirm : List DeliveryCall :=
  [.lifecycle (.trip (.completeTrip 1 10 .driver ⟨2000⟩)), .confirmDelivery 1 20,
    .confirmDelivery 1 21, .reportDeliveryIssue 1 20 "Colis abîmé"]

/-- What trip 1 says of its delivery. -/
def said (s : Store) : Option (Option ℕ × Option String) :=
  (s.trips.find? 1).map fun trip => (trip.deliveryConfirmedAt, trip.deliveryIssueReported)

end Deliveries

open Deliveries in
/-- When the delivery is completed, confirmed and complained of, its row says so, and goes on to. -/
theorem deliveries_confirmed_carried :
    ∃ p : Pool Store Cmd Error Unit, said p.world.store = some (some 0, some "Colis abîmé") ∧
      (∀ trip ∈ p.world.store.trips.rows, trip.Traced carriedStore completeAndConfirm) ∧
      ∀ q, Pool.Run (system Env.offline ()) (fun _ _ _ => True) (fun _ => False) p q →
        ∀ trip ∈ p.world.store.trips.rows, ∃ trip' ∈ q.world.store.trips.rows,
          trip.Continues trip' ∧
          (trip.deliveryConfirmedAt.isSome = true → trip'.deliveryConfirmedAt.isSome = true) ∧
          (trip.deliveryIssueReported.isSome = true →
            trip'.deliveryIssueReported.isSome = true) := by
  obtain ⟨p, hp, hsaid⟩ := Pool.exists_run_of_schedule? (system Env.offline ())
    (fun _ _ _ => True) (fun _ => False)
    (Pool.init carriedStore
      (completeAndConfirm.map (·.program Env.offline Completeness.flatPricing)))
    [3, 0, 0, 0, 0, 0, 1, 3, 2, 1, 1, 3, 2, 1]
    (fun p => said p.world.store = some (some 0, some "Colis abîmé")) (by decide +kernel)
  have hconfirmed := deliveries_confirmed Env.offline Completeness.flatPricing carriedStore
    carriedStore_complete completeAndConfirm _ hp
  exact ⟨p, hsaid, hconfirmed.1, hconfirmed.2⟩

end Telima
