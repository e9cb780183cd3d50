import Telima.Async.Counting
import Telima.Trips.Completeness
import Telima.Trips.Routine

/-!
# Ratings in any interleaving

`rateTrip` looks for a rating of the same rater, and inserts one some steps later.  Of several calls
that have found none, the unique constraint lets one insert its row, and only that one emits
`TripRated`; a row is inserted by a call that has found the trip completed, and the rater to be its
client or its driver (`ratings_unique_and_legitimate`).
-/

namespace Telima

open TripsService

/-- A rating, or a call that writes a trip. -/
inductive RatingCall where
  | rateTrip (tripId userId : ℕ) (role : UserRole) (dto : CreateRatingDto)
  | lifecycle (call : LifecycleCall)

def RatingCall.program (env : Env) (pricing : PricingEnv) : RatingCall → Prog Unit
  | rateTrip tripId userId role dto => (TripsService.rateTrip tripId userId role dto).as ()
  | lifecycle call => call.program env pricing

namespace Store

/-- The ratings of the trip by the rater. -/
def ratingsOf (s : Store) (tripId raterId : ℕ) : List TripRating :=
  s.ratings.findMany fun r => decide (r.key = (tripId, raterId))

/-- The trip is completed, and the rater is the user of its driver, or its client. -/
def AdmitsRating (s : Store) (tripId raterId : ℕ) (raterRole : SenderRole) : Prop :=
  ∃ trip, s.trips.find? tripId = some trip ∧ trip.status = .completed ∧
    match raterRole with
    | .driver => ∃ driver ∈ s.drivers.rows, driver.userId = raterId ∧
        trip.driverId = some driver.id
    | .client => trip.clientId = raterId

/-- Every driver with his user. -/
def driverUsers (s : Store) : List (ℕ × ℕ) := s.drivers.rows.map fun d => (d.id, d.userId)

end Store

/-- `TripRated` of the trip by the rater. -/
def DomainEvent.rates (tripId raterId : ℕ) : DomainEvent → Bool
  | .tripRated trip rater _ _ _ => decide (trip = tripId) && decide (rater = raterId)
  | _ => false

/-- The command inserts a rating, or announces one. -/
def Cmd.isRating : Cmd → Bool
  | .createRating _ | .emit (.tripRated _ _ _ _ _) => true
  | _ => false

namespace Ratings

/-- Thread `i` is a call that rates the trip with `data`, and it has found that it may. -/
def Checked (calls : List RatingCall) (trace : List (Event Store Cmd)) (i : ℕ)
    (data : CreateRatingData) : Prop :=
  ∃ role dto, calls[i]? = some (.rateTrip data.tripId data.raterId role dto) ∧
    data = ratingData data.tripId data.raterId role dto ∧
    ∃ e ∈ trace, e.tid = i ∧ e.kind = .did (.findTrip data.tripId) ∧
      e.before.AdmitsRating data.tripId data.raterId data.raterRole

/-- The row was inserted by a thread that had checked the trip. -/
def Legitimate (calls : List RatingCall) (trace : List (Event Store Cmd)) (row : TripRating) : Prop :=
  ∃ newer e older data, trace = newer ++ e :: older ∧ e.kind = .did (.createRating data) ∧
    row = data.row e.before.now ∧ Checked calls older e.tid data

theorem Legitimate.suffix {calls : List RatingCall} {trace trace' : List (Event Store Cmd)}
    {row : TripRating} (h : Legitimate calls trace row) (hsuffix : trace <:+ trace') :
    Legitimate calls trace' row := by
  obtain ⟨newer, e, older, data, rfl, hrow⟩ := h
  obtain ⟨newest, rfl⟩ := hsuffix
  exact ⟨newest ++ newer, e, older, data, (List.append_assoc _ _ _).symm, hrow⟩

theorem Checked.suffix {calls : List RatingCall} {trace trace' : List (Event Store Cmd)} {i : ℕ}
    {data : CreateRatingData} (h : Checked calls trace i data) (hsuffix : trace <:+ trace') :
    Checked calls trace' i data := by
  obtain ⟨role, dto, hcall, hdata, e, he, hread⟩ := h
  exact ⟨role, dto, hcall, hdata, e, hsuffix.subset he, hread⟩

/-- A rating of the trip by the rater is inserted. -/
def inserts (tripId raterId : ℕ) : EventKind Cmd → Store → Bool
  | .did (.createRating data), s => decide ((data.tripId, data.raterId) = (tripId, raterId)) &&
      (s.ratings.find? (data.tripId, data.raterId)).isNone
  | _, _ => false

/-- A rating of the trip by the rater is announced. -/
def announces (tripId raterId : ℕ) : EventKind Cmd → Store → Bool
  | kind, _ => kind.event?.any (DomainEvent.rates tripId raterId)

/-! ### The ratings and the drivers of a step -/

section Exec

variable {c : Cmd} {s : Store} {tripId raterId : ℕ}

/-- No command makes a driver another user's. -/
theorem driverUsers_exec (c : Cmd) (s : Store) : (c.exec s).driverUsers = s.driverUsers := by
  by_cases hc : c.keepsDrivers = true
  · rw [Store.driverUsers, Cmd.exec_drivers hc, Store.driverUsers]
  · cases c with
    | decrementCommissionDue driverId amount =>
      exact Table.map_updateMany (Driver.id_decrementDue amount) fun _ => rfl
    | chargeCommission tripId driverId commissionAmount finalPrice =>
      rw [Store.driverUsers, Cmd.exec]
      split_ifs
      · exact Table.map_updateMany (Driver.id_charge commissionAmount finalPrice) fun _ => rfl
      · rfl
    | _ => exact absurd rfl hc

theorem length_ratingsOf (s : Store) (tripId raterId : ℕ) :
    (s.ratingsOf tripId raterId).length = (s.ratings.find? (tripId, raterId)).isSome.toNat := by
  rw [Store.ratingsOf, Table.findMany_key]
  cases s.ratings.find? (tripId, raterId) <;> rfl

/-- The insert adds a row where there was none. -/
theorem length_ratingsOf_exec (c : Cmd) (s : Store) (tripId raterId : ℕ) :
    ((c.exec s).ratingsOf tripId raterId).length =
      (s.ratingsOf tripId raterId).length + (inserts tripId raterId (.did c) s).toNat := by
  rw [length_ratingsOf, length_ratingsOf]
  cases c with
  | createRating data =>
    have hratings : ((Cmd.createRating data).exec s).ratings =
        if (s.ratings.find? (data.tripId, data.raterId)).isSome then s.ratings
        else s.ratings.insert (data.row s.now) := rfl
    have hkey : (data.row s.now).key = (data.tripId, data.raterId) := rfl
    rw [hratings, inserts]
    by_cases hpair : (data.tripId, data.raterId) = (tripId, raterId)
    · rw [hpair]
      cases hfound : s.ratings.find? (tripId, raterId) with
      | some row => simp [hfound]
      | none => simp [Table.find?_insert, hfound, hkey, hpair]
    · split_ifs
      · simp [hpair]
      · simp [Table.find?_insert, hkey, hpair]
  | _ => rfl

theorem mem_ratings_exec {row : TripRating} (h : row ∈ (c.exec s).ratings.rows) :
    row ∈ s.ratings.rows ∨ ∃ data, c = .createRating data ∧ row = data.row s.now := by
  cases c with
  | createRating data =>
    have hratings : ((Cmd.createRating data).exec s).ratings =
        if (s.ratings.find? (data.tripId, data.raterId)).isSome then s.ratings
        else s.ratings.insert (data.row s.now) := rfl
    rw [hratings] at h
    split_ifs at h
    · exact .inl h
    · exact (Table.mem_insert h).imp_right fun hrow => ⟨data, rfl, hrow⟩
  | _ => exact .inl h

/-- Another command is not counted. -/
theorem not_counted (hc : c.isRating = false) (tripId raterId : ℕ) (s : Store) :
    inserts tripId raterId (.did c) s = false ∧ announces tripId raterId (.did c) s = false := by
  cases c with
  | createRating data => cases hc
  | emit event =>
    cases event with
    | tripRated _ _ _ _ _ => cases hc
    | _ => exact ⟨rfl, rfl⟩
  | _ => exact ⟨rfl, rfl⟩

end Exec

/-! ### The protocol -/

/-- What the ratings of a run say about it. -/
structure Inv (s : Store) (calls : List RatingCall) (w : World Store Cmd) : Prop where
  users : w.store.driverUsers = s.driverUsers
  rows : ∀ row ∈ w.store.ratings.rows, row ∈ s.ratings.rows ∨ Legitimate calls w.trace row
  counted : ∀ tripId raterId, (w.store.ratingsOf tripId raterId).length =
    (s.ratingsOf tripId raterId).length + w.total (inserts tripId raterId)

section Threads

variable {env : Env} {fault : Error → Prop} {s : Store} {calls : List RatingCall} {i : ℕ}
  {w : World Store Cmd}

theorem Inv.step {n : ℕ} {c : Cmd} (h : Inv s calls w)
    (hguar : ∀ data, c = .createRating data → Checked calls w.trace i data) :
    Inv s calls (w.step (system env ()) i c n) := by
  refine ⟨?_, fun row hrow => ?_, fun tripId raterId => ?_⟩
  · rw [World.store_step, system_exec, driverUsers_exec, h.users]
  · rw [World.store_step] at hrow
    rcases mem_ratings_exec hrow with hrow | ⟨data, rfl, rfl⟩
    · exact (h.rows row hrow).imp_right fun hlegitimate =>
        hlegitimate.suffix World.trace_step_suffix
    · exact .inr ⟨[], ⟨i, .did (.createRating data), w.store⟩, w.trace, data, rfl, rfl, rfl,
        hguar data rfl⟩
  · rw [World.store_step, system_exec, length_ratingsOf_exec, h.counted, World.total_step]
    have hspawned : inserts tripId raterId (.spawned c) (c.exec w.store) = false := rfl
    rw [system_exec, hspawned, Bool.toNat_false, Nat.mul_zero, Nat.add_zero, Nat.add_assoc]

/-- Only a call that has checked the trip inserts a rating. -/
def protocol (env : Env) (fault : Error → Prop) (s : Store) (calls : List RatingCall) :
    Protocol (system env ()) where
  cond _ _ _ := True
  fault := fault
  inv := Inv s calls
  guar i w c := ∀ data, c = .createRating data → Checked calls w.trace i data
  inv_step hinv _ hguar _ _ := hinv.step hguar

/-- Thread `i` has announced what it has inserted. -/
def Settled (i : ℕ) (w : World Store Cmd) : Prop :=
  ∀ tripId raterId, w.count i (inserts tripId raterId) = w.count i (announces tripId raterId)

/-- Thread `i` has read the trip. -/
def Found (s : Store) (i tripId : ℕ) (trip : Trip) (w : World Store Cmd) : Prop :=
  ∃ e ∈ w.trace, e.tid = i ∧ e.kind = .did (.findTrip tripId) ∧
    e.before.trips.find? tripId = some trip ∧ e.before.driverUsers = s.driverUsers

theorem stable_settled : (protocol env fault s calls).Stable i (Settled i) :=
  Protocol.stable_count i fun count => ∀ tripId raterId,
    count (inserts tripId raterId) = count (announces tripId raterId)

theorem frame_settled :
    (protocol env fault s calls).Frame i (fun c => c.isRating = false) (Settled i) where
  stable := stable_settled
  performs := by
    intro c w hc hw _ _
    refine ⟨?_, fun n hn _ tripId raterId => ?_⟩
    · rintro data rfl
      cases hc
    · obtain ⟨hinserts, hannounces⟩ := not_counted hc tripId raterId w.store
      rw [World.count_step_self hn, World.count_step_self hn, hinserts, hannounces, hw tripId raterId]

theorem Found.step {tripId j n : ℕ} {trip : Trip} {c : Cmd} (h : Found s i tripId trip w) :
    Found s i tripId trip (w.step (system env ()) j c n) := by
  obtain ⟨e, he, hread⟩ := h
  exact ⟨e, World.trace_step_suffix.subset he, hread⟩

theorem frame_found (tripId : ℕ) (trip : Trip) :
    (protocol env fault s calls).Frame i (fun c => c.isRating = false)
      fun w => Settled i w ∧ Found s i tripId trip w := by
  refine frame_settled.and ⟨?_, ?_⟩
  · rintro w _ ⟨j, c, n, -, -, -, -, -, -, -, rfl⟩ h
    exact h.step
  · intro c w hc hw _ _
    refine ⟨?_, fun n _ _ => hw.step⟩
    rintro data rfl
    cases hc

/-- What follows the read of a trip. -/
theorem wp_getTrip_bind {α : Type} {tripId : ℕ} {f : Trip → Prog α} (hw : Settled i w)
    (hf : ∀ trip w, Settled i w ∧ Found s i tripId trip w →
      (protocol env fault s calls).wp i (f trip) (fun _ => Settled i) w) :
    (protocol env fault s calls).wp i ((getTrip tripId).bind f) (fun _ => Settled i) w := by
  rw [getTrip_bind]
  refine Protocol.wp_query_bind stable_settled hw (fun v hv hinv _ => ?_) fun _ _ _ hv _ => hv
  have hread : (Cmd.findTrip tripId).isRating = false := rfl
  obtain ⟨hguar, hstep⟩ := frame_settled.performs hread hv hinv trivial
  refine ⟨hguar, fun n hn hfresh => ?_⟩
  cases htrip : v.store.trips.find? tripId with
  | none => exact hstep n hn hfresh
  | some trip =>
    have hfound : Found s i tripId trip (v.step (system env ()) i (.findTrip tripId) n) :=
      ⟨_, World.did_mem_trace_step, rfl, rfl, htrip, hinv.users⟩
    refine (frame_found tripId trip).wp_bind (Async.only_perform.mpr rfl)
      ⟨hstep n hn hfresh, hfound⟩ ?_ fun _ _ hw => hw.1
    exact fun _ w hw => hf trip w hw

/-- The rater is the user of the trip's driver, or the client. -/
def IsRater (s : Store) (trip : Trip) (raterId : ℕ) : SenderRole → Prop
  | .driver => ∃ driverId, trip.driverId = some driverId ∧ (driverId, raterId) ∈ s.driverUsers
  | .client => trip.clientId = raterId

/-- The user whose driver is found. -/
theorem mem_driverUsers_of_find {t : Store} {userId driverId : ℕ}
    (h : (t.drivers.findFirst fun d => decide (d.userId = userId)).map Driver.id =
      some driverId) : (driverId, userId) ∈ t.driverUsers := by
  obtain ⟨driver, hfind, rfl⟩ := Option.map_eq_some_iff.mp h
  have huser : driver.userId = userId := by simpa using List.find?_some hfind
  exact List.mem_map.mpr ⟨driver, List.mem_of_find?_eq_some hfind, by rw [huser]⟩

theorem wp_checkRater_bind {α : Type} {tripId userId : ℕ} {role : UserRole} {trip : Trip}
    {f : Unit → Prog α} (hw : Settled i w ∧ Found s i tripId trip w)
    (hf : ∀ w, IsRater s trip userId (raterRole role) → Settled i w ∧ Found s i tripId trip w →
      (protocol env fault s calls).wp i (f ()) (fun _ => Settled i) w) :
    (protocol env fault s calls).wp i ((checkRater trip userId role).bind f)
      (fun _ => Settled i) w := by
  unfold checkRater
  by_cases hrole : role = .driver
  · rw [if_pos hrole, Async.bind_eq, Async.bind_assoc]
    refine Protocol.wp_query_bind (frame_found tripId trip).stable hw (fun v hv hinv _ => ?_)
      fun _ _ _ hv _ => hv.1
    have hread : (Cmd.findDriver userId).isRating = false := rfl
    obtain ⟨hguar, hstep⟩ := (frame_found tripId trip).performs hread hv hinv trivial
    refine ⟨hguar, fun n hn hfresh => ?_⟩
    split_ifs with hother
    · exact (hstep n hn hfresh).1
    · obtain ⟨hfound, hdriver⟩ := not_or.mp hother
      rw [Option.isNone_iff_eq_none, ← ne_eq, Option.ne_none_iff_exists'] at hfound
      obtain ⟨driverId, hdriverId⟩ := hfound
      refine hf _ ?_ (hstep n hn hfresh)
      rw [raterRole, if_pos hrole]
      refine ⟨driverId, (not_not.mp hdriver).trans hdriverId, ?_⟩
      rw [← hinv.users]
      exact mem_driverUsers_of_find hdriverId
  · rw [if_neg hrole]
    split_ifs with hclient
    · exact hw.1
    · refine hf _ ?_ hw
      rw [raterRole, if_neg hrole]
      exact not_not.mp hclient

/-- The store in which the trip was read admits the rating. -/
theorem Found.admits {tripId raterId : ℕ} {role : SenderRole} {trip : Trip}
    (h : Found s i tripId trip w) (hrater : IsRater s trip raterId role)
    (hstatus : trip.status = .completed) :
    ∃ e ∈ w.trace, e.tid = i ∧ e.kind = .did (.findTrip tripId) ∧
      e.before.AdmitsRating tripId raterId role := by
  obtain ⟨e, he, htid, hkind, htrip, husers⟩ := h
  refine ⟨e, he, htid, hkind, trip, htrip, hstatus, ?_⟩
  cases role with
  | client => exact hrater
  | driver =>
    obtain ⟨driverId, hdriverId, hmem⟩ := hrater
    rw [← husers] at hmem
    obtain ⟨driver, hdriver, hpair⟩ := List.mem_map.mp hmem
    rw [Prod.mk.injEq] at hpair
    refine ⟨driver, hdriver, hpair.2, ?_⟩
    rw [hdriverId, hpair.1]

/-- The insert is announced. -/
theorem wp_createRating_bind {data : CreateRatingData} {tripId userId : ℕ} {role : UserRole}
    {dto : CreateRatingDto} (hdata : data = ratingData tripId userId role dto) {n : ℕ} (hn : i < n)
    (hw : Settled i w) :
    (protocol env fault s calls).wp i
      ((Async.done (if (w.store.ratings.find? (data.tripId, data.raterId)).isSome then
          .error .uniqueConstraint else .ok (data.row w.store.now))).bind fun rating =>
        (Async.emit (.emit (ratedEvent tripId userId role dto))).bind fun _ => pure rating)
      (fun _ => Settled i) (w.step (system env ()) i (.createRating data) n) := by
  subst hdata
  have hkey : ((ratingData tripId userId role dto).tripId,
      (ratingData tripId userId role dto).raterId) = (tripId, userId) := rfl
  have hannounced : ∀ trip rater, announces trip rater
      (.did (.createRating (ratingData tripId userId role dto))) w.store = false :=
    fun _ _ => rfl
  rw [hkey]
  cases hfound : w.store.ratings.find? (tripId, userId) with
  | some row =>
    intro trip rater
    have hinserts : inserts trip rater
        (.did (.createRating (ratingData tripId userId role dto))) w.store = false := by
      rw [inserts, hkey, hfound, Option.isNone_some, Bool.and_false]
    rw [World.count_step_self hn, World.count_step_self hn, hinserts, hannounced, hw trip rater]
  | none =>
    -- one insert has not been announced yet
    have hstable : (protocol env fault s calls).Stable i fun w => ∀ trip rater,
        w.count i (inserts trip rater) = w.count i (announces trip rater) +
          (decide ((tripId, userId) = (trip, rater))).toNat :=
      Protocol.stable_count i fun count => ∀ trip rater, count (inserts trip rater) =
        count (announces trip rater) + (decide ((tripId, userId) = (trip, rater))).toNat
    refine Protocol.wp_read_bind hstable (fun trip rater => ?_) fun v hv _ _ => ?_
    · have hinserts : inserts trip rater
          (.did (.createRating (ratingData tripId userId role dto))) w.store =
            decide ((tripId, userId) = (trip, rater)) := by
        rw [inserts, hkey, hfound, Option.isNone_none, Bool.and_true]
      rw [World.count_step_self hn, World.count_step_self hn, hinserts, hannounced, hw trip rater]
      rfl
    · refine ⟨fun data hdata => ?_, fun m hm _ trip rater => ?_⟩
      · cases hdata
      · have hrated : announces trip rater
            (.did (.emit (ratedEvent tripId userId role dto))) v.store =
              decide ((tripId, userId) = (trip, rater)) := by
          simp [announces, EventKind.event?, Cmd.event?, ratedEvent, DomainEvent.rates]
        have hinserts : inserts trip rater
            (.did (.emit (ratedEvent tripId userId role dto))) v.store = false := rfl
        rw [World.count_step_self hm, World.count_step_self hm, hinserts, hrated, hv trip rater]
        rfl

theorem wp_rateTrip {tripId userId : ℕ} {role : UserRole} {dto : CreateRatingDto}
    (hcall : calls[i]? = some (.rateTrip tripId userId role dto)) (hw : Settled i w) :
    (protocol env fault s calls).wp i (TripsService.rateTrip tripId userId role dto)
      (fun _ => Settled i) w := by
  refine wp_getTrip_bind hw fun trip w hw => ?_
  refine wp_checkRater_bind hw fun w hrater hw => ?_
  by_cases hstatus : trip.status = .completed
  · rw [if_neg (not_not.mpr hstatus)]
    refine (frame_found tripId trip).wp_bind (Async.only_query.mpr rfl) hw
      (fun existing w hw => ?_) fun _ _ hw => hw.1
    split_ifs
    · exact hw.1
    refine Protocol.wp_queryE_bind (frame_found tripId trip).stable hw (fun v hv _ _ => ?_)
      fun _ _ _ hv _ => hv.1
    refine ⟨?_, fun n hn _ => ?_⟩
    · intro data hdata
      obtain rfl := Cmd.createRating.inj hdata
      exact ⟨role, dto, hcall, rfl, hv.2.admits hrater hstatus⟩
    · exact wp_createRating_bind rfl hn hv.1
  · rw [if_pos hstatus]
    exact hw.1

/-! ### The other calls -/

/-- The program does not rate. -/
abbrev Unrated {α : Type} (p : Prog α) : Prop := p.Only fun c => c.isRating = false

theorem not_isRating_of_isRoutine {c : Cmd} (h : c.isRoutine = true) : c.isRating = false := by
  cases c with
  | emit event => cases event <;> first | rfl | cases h
  | createRating data => cases h
  | _ => rfl

theorem not_isRating_of_searches {tripId : ℕ} {c : Cmd} (h : c.searches tripId = true) :
    c.isRating = false := by
  cases c with
  | emit event => cases event <;> first | rfl | cases h
  | createRating data => cases h
  | _ => rfl

theorem unrated_of_routine {α : Type} {p : Prog α} (hp : Routine p) : Unrated p :=
  hp.mono fun _ hc => not_isRating_of_isRoutine hc

theorem unrated_createTrip (pricing : PricingEnv) (clientId : ℕ) (dto : CreateTripDto) :
    Unrated (TripsService.createTrip pricing clientId dto) :=
  only_createTrip pricing clientId dto rfl (fun _ => rfl) (fun _ => rfl)
    (fun tripId => unrated_of_routine (routine_getTrip tripId)) fun _ => rfl

theorem unrated_program (env : Env) (pricing : PricingEnv) (call : LifecycleCall) :
    Unrated (call.program env pricing) := by
  cases call with
  | createTrip clientId dto => exact (unrated_createTrip pricing clientId dto).bind fun _ => trivial
  | confirmPaymentReceived tripId userId role dto =>
    exact (unrated_of_routine (routine_confirmPaymentReceived tripId userId role dto)).bind
      fun _ => trivial
  | trip call =>
    cases call with
    | updateStatus tripId userId role dto =>
      exact (unrated_of_routine (routine_updateStatus tripId userId role dto)).bind fun _ => trivial
    | completeTrip tripId userId role dto =>
      exact (unrated_of_routine (routine_completeTrip tripId userId role dto)).bind fun _ => trivial
    | driverAssigned tripId driverId =>
      exact unrated_of_routine (routine_handleDriverAssigned env.geo tripId driverId)
    | dispatchFailed tripId reason =>
      exact unrated_of_routine (routine_handleDispatchFailed tripId reason)
    | sweep => exact unrated_of_routine routine_sweepStaleAssigned
    | wait ms => exact Async.only_perform.mpr rfl

theorem unrated_eventHandlers (env : Env) (event : DomainEvent) :
    ∀ h ∈ eventHandlers env event, Unrated h := by
  intro h hh
  cases event with
  | tripCreated tripId pickup serviceType vehicleTypeId =>
    obtain rfl := List.mem_singleton.mp hh
    exact (DispatchService.onlyRedispatches_attemptDispatch _ _ _ _ _).searches.mono fun _ hc =>
      not_isRating_of_searches hc
  | tripCompleted tripId driverId clientId finalPrice =>
    obtain rfl := List.mem_singleton.mp hh
    exact unrated_of_routine (routine_handleTripCompleted tripId)
  | driverAssigned tripId driverId =>
    obtain rfl := List.mem_singleton.mp hh
    exact unrated_of_routine (routine_handleDriverAssigned env.geo tripId driverId)
  | dispatchFailed tripId reason =>
    obtain rfl := List.mem_singleton.mp hh
    exact unrated_of_routine (routine_handleDispatchFailed tripId reason)
  | _ => cases hh

theorem handlersKeep :
    (protocol env fault s calls).HandlersKeep fun i _ => Settled i := by
  intro c k h hk j n w _ _ _ hj hfresh
  have hsettled : Settled (n + k) (w.step (system env ()) j c n) := by
    intro tripId raterId
    obtain ⟨hlt, -⟩ := List.getElem?_eq_some_iff.mp hk
    rw [hfresh.count_started hj hlt, hfresh.count_started hj hlt]
    rfl
  cases c with
  | emit event =>
    obtain ⟨handler, hhandler, rfl⟩ := List.mem_map.mp (List.mem_of_getElem? hk)
    have hunrated : Unrated (handler.as ()) :=
      (unrated_eventHandlers env event handler hhandler).bind fun _ => trivial
    exact frame_settled.wp hunrated hsettled
  | _ => simp [handlers] at hk

theorem wp_program {pricing : PricingEnv} {call : RatingCall} (hcall : calls[i]? = some call)
    (hw : Settled i w) :
    (protocol env fault s calls).wp i (call.program env pricing) (fun _ => Settled i) w := by
  cases call with
  | rateTrip tripId userId role dto =>
    apply Protocol.wp_bind
    refine Protocol.wp_mono (fun r w hw => ?_) (wp_rateTrip hcall hw)
    cases r <;> exact hw
  | lifecycle call => exact frame_settled.wp (unrated_program env pricing call) hw

theorem inv_init : Inv s calls ⟨s, []⟩ :=
  ⟨rfl, fun _ hrow => .inl hrow, fun _ _ => rfl⟩

theorem safe_init (pricing : PricingEnv) :
    (protocol env fault s calls).Safe (fun i _ => Settled i)
      (Pool.init s (calls.map (·.program env pricing))) := by
  refine Protocol.safe_init inv_init fun i t ht => ?_
  rw [List.getElem?_map] at ht
  obtain ⟨call, hcall, rfl⟩ := Option.map_eq_some_iff.mp ht
  exact wp_program hcall fun _ _ => rfl

theorem count_emitted (w : World Store Cmd) (tripId raterId : ℕ) :
    w.emitted.countP (DomainEvent.rates tripId raterId) = w.total (announces tripId raterId) := by
  rw [World.emitted, List.countP_filterMap, World.total]
  refine List.countP_congr fun e _ => ?_
  rw [announces]
  cases e.kind.event? <;> simp

end Threads

end Ratings

open Ratings in
/-- Nobody has rated a trip twice.  When all calls have ended, as many ratings were announced as
inserted.  Whoever has rated was the trip's client or the user of its driver, as the rating says, when
his call looked at the trip, and the trip was completed then. -/
theorem ratings_unique_and_legitimate (env : Env) (pricing : PricingEnv) (s : Store)
    (calls : List RatingCall) (fault : Error → Prop) {p : Pool Store Cmd Error Unit}
    (hp : Pool.Run (system env ()) (fun _ _ _ => True) fault
      (Pool.init s (calls.map (·.program env pricing))) p) :
    (∀ tripId raterId, (p.world.store.ratingsOf tripId raterId).length ≤ 1) ∧
    (p.Finished → ∀ tripId raterId, (p.world.store.ratingsOf tripId raterId).length =
      (s.ratingsOf tripId raterId).length +
        p.world.emitted.countP (DomainEvent.rates tripId raterId)) ∧
    ∀ row ∈ p.world.store.ratings.rows, row ∈ s.ratings.rows ∨
      Legitimate calls p.world.trace row := by
  have hsafe : (protocol env fault s calls).Safe (fun i _ => Settled i) p :=
    (safe_init pricing).run (fun _ _ => stable_settled) handlersKeep hp
  refine ⟨fun tripId raterId => ?_, fun hfin tripId raterId => ?_, hsafe.inv.rows⟩
  · rw [length_ratingsOf]
    exact Bool.toNat_le _
  · have hsettled : ∀ i, p.world.count i (inserts tripId raterId) =
        p.world.count i (announces tripId raterId) := by
      intro i
      by_cases hi : i < p.threads.length
      · obtain ⟨_, hpost⟩ := hsafe.post_of_finished hfin hi
        exact hpost tripId raterId
      · have hzero : ∀ q, p.world.count i q = 0 := fun q => hsafe.fresh.count (not_lt.mp hi)
        rw [hzero, hzero]
    rw [hsafe.inv.counted, count_emitted, World.total_eq_of_count_eq hsettled]

namespace Ratings

/-- Driver 1 (user 10) has carried client 20. -/
def arrivedStore : Store where
  drivers := .single ⟨1, 10, 0, 0⟩
  vehicleTypes := .single ⟨1, 1000⟩
  trips :=
    .single { id := 1, clientId := 20, driverId := some 1, vehicleTypeId := 1, serviceType := .ride
              status := .completed, pickupLocation := ⟨0, 0⟩, dropoffLocation := ⟨0, 0⟩
              createdAt := 0, updatedAt := 0 }

/-- The driver taps twice, and the client rates the trip too. -/
def threeRatings : List RatingCall :=
  [.rateTrip 1 10 .driver ⟨5, none⟩, .rateTrip 1 10 .driver ⟨4, none⟩,
    .rateTrip 1 20 .client ⟨3, none⟩]

end Ratings

open Ratings in
/-- Both calls of the driver have looked for a rating before one of them inserts it. -/
theorem ratings_unique_and_legitimate_race :
    ∃ p : Pool Store Cmd Error Unit, p.Finished ∧
      (p.world.store.ratingsOf 1 10).length = 1 ∧
      p.world.emitted.countP (DomainEvent.rates 1 10) = 1 ∧
      ∀ row ∈ p.world.store.ratings.rows, Legitimate threeRatings p.world.trace row := by
  obtain ⟨p, hp, hfin, hlength⟩ := Pool.exists_run_of_schedule? (system Env.offline ())
    (fun _ _ _ => True) (fun _ => False)
    (Pool.init arrivedStore (threeRatings.map (·.program Env.offline Completeness.flatPricing)))
    [0, 1, 0, 1, 0, 1, 0, 1, 0, 0, 1, 2, 2, 2, 2, 2]
    (fun p => p.Finished ∧ (p.world.store.ratingsOf 1 10).length = 1) (by decide +kernel)
  obtain ⟨-, hcount, hrows⟩ := ratings_unique_and_legitimate Env.offline Completeness.flatPricing
    arrivedStore threeRatings _ hp
  have hevents := hcount hfin 1 10
  have hnone : (arrivedStore.ratingsOf 1 10).length = 0 := rfl
  rw [hlength, hnone, Nat.zero_add] at hevents
  refine ⟨p, hfin, hlength, hevents.symm, fun row hrow => ?_⟩
  exact (hrows row hrow).resolve_left List.not_mem_nil

end Telima
