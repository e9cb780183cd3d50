import Telima.System
import Telima.Trips.Runs

/-!
# The status of a trip in any interleaving

Every writer of a status checks the row it read, several awaits before it writes: `updateStatus` and
`completeTrip` by the table, the sweep by its query, `DispatchFailed` in the update itself, and
`DriverAssigned` not at all.  `Guards` is what this gives of the status a call last read
(`statusRead`).  `Undisturbed` says which stored statuses a write may find instead, so that what the
guards promise of the status read is what the lifecycle asks of the stored one.
-/

namespace Telima

open TripsService DispatchService

/-- An edge of the table, or one of the two edges of the sweep. -/
def mayMove (source target : TripStatus) : Bool :=
  canTransition source target || (isAssigned source && decide (target = .cancelledAuto))

theorem mayMove_of_canTransition {source target : TripStatus}
    (h : canTransition source target = true) : mayMove source target = true := by
  rw [mayMove, h, Bool.true_or]

theorem mayMove_cancelledAuto_of_isAssigned {source : TripStatus} (h : isAssigned source = true) :
    mayMove source .cancelledAuto = true := by
  simp [mayMove, h]

theorem mayMove_of_isTerminal {source target : TripStatus} (h : isTerminal source = true) :
    mayMove source target = false := by
  revert h
  cases source <;> cases target <;> decide

theorem mayMove_of_isCancelled {source target : TripStatus} (htarget : isCancelled target = true)
    (hsource : canTransition source .cancelledByClient = true) : mayMove source target = true := by
  revert htarget hsource
  cases source <;> cases target <;> decide

/-- Two statuses a trip may be moved from to the same status, if they differ, are before the start
and the move is a cancellation. -/
theorem isCancelled_of_mayMove {source source' target : TripStatus}
    (h : mayMove source target = true) (h' : mayMove source' target = true)
    (hne : source ≠ source') :
    isCancelled target = true ∧ canTransition source .cancelledByClient = true := by
  revert h h' hne
  cases source <;> cases source' <;> cases target <;> decide

theorem mayMove_accepted_iff {source : TripStatus} :
    mayMove source .accepted = true ↔ source = .pending := by
  cases source <;> decide

theorem mayMove_inProgress {target : TripStatus} (h : mayMove .inProgress target = true) :
    target = .completed := by
  revert h
  cases target <;> decide

/-- A call that writes the status of trips, or the passing of time. -/
inductive TripCall where
  | updateStatus (tripId userId : ℕ) (role : UserRole) (dto : UpdateTripStatusDto)
  | completeTrip (tripId userId : ℕ) (role : UserRole) (dto : PaymentReceivedDto)
  | driverAssigned (tripId driverId : ℕ)
  | dispatchFailed (tripId : ℕ) (reason : String)
  | sweep
  | wait (ms : ℕ)

def TripCall.program (env : Env) : TripCall → Prog Unit
  | updateStatus tripId userId role dto => (TripsService.updateStatus tripId userId role dto).as ()
  | completeTrip tripId userId role dto => (TripsService.completeTrip tripId userId role dto).as ()
  | driverAssigned tripId driverId => handleDriverAssigned env.geo tripId driverId
  | dispatchFailed tripId reason => handleDispatchFailed tripId reason
  | sweep => DispatchRecoveryService.sweepStaleAssigned
  | wait ms => Async.perform (.tick ms)

/-! ### What a call has read -/

/-- The command reads the trip's status. -/
def Cmd.readsTrip (tripId : ℕ) : Cmd → Bool
  | .findTrip id => decide (id = tripId)
  | .findStaleAssignedTrips => true
  | _ => false

/-- The status of the trip, as thread `i` last read it. -/
def World.statusRead (w : World Store Cmd) (i tripId : ℕ) : Option TripStatus :=
  (w.lastRead i (Cmd.readsTrip tripId)).bind fun s => s.tripStatus tripId

/-- A status is written over the status the call read, or over itself, or it cancels a trip that has
not started, or the call has read no status (`DriverAssigned`) and the trip is pending. -/
def Undisturbed (i : ℕ) (w : World Store Cmd) : Cmd → Prop
  | .updateTrip tripId data => ∀ current ∈ w.store.tripStatus tripId, ∀ target ∈ data.status,
    w.statusRead i tripId = some current ∨ current = target ∨
      (isCancelled target = true ∧ canTransition current .cancelledByClient = true) ∨
      (w.statusRead i tripId = none ∧ current = .pending)
  | _ => True

instance (i : ℕ) (w : World Store Cmd) (c : Cmd) : Decidable (Undisturbed i w c) := by
  induction c using Cmd.casesOn <;> unfold Undisturbed <;> infer_instance

namespace Transitions

/-- A write of `target` by a call that has read `status`: the guards of the code were passed, and only
the handler of `DriverAssigned` has read nothing. -/
def Guarded (status : Option TripStatus) (data : TripData) : Prop :=
  ∀ target ∈ data.status, match status with
    | some current => mayMove current target = true
    | none => target = .accepted

/-- What the guards of the code give when a command is performed. -/
def Guards (i : ℕ) (w : World Store Cmd) : Cmd → Prop
  | .updateTrip tripId data => Guarded (w.statusRead i tripId) data
  | .updateTripIfPending _ data => data.status = some .cancelledAuto
  | .emit (.tripCreated _ _ _ _) => False
  | _ => True

/-- The command writes no status. -/
def leavesStatus : Cmd → Bool
  | .updateTrip _ _ | .updateTripIfPending _ _ | .emit (.tripCreated _ _ _ _) => false
  | _ => true

/-- The command writes no status and reads none. -/
def Neutral (c : Cmd) : Prop := leavesStatus c = true ∧ ∀ tripId, c.readsTrip tripId = false

theorem guards_of_leavesStatus {i : ℕ} {w : World Store Cmd} {c : Cmd}
    (h : leavesStatus c = true) : Guards i w c := by
  unfold leavesStatus at h
  unfold Guards
  split at h <;> simp_all

theorem neutral_of_touchesOffers {c : Cmd} (h : c.touchesOffers = true) : Neutral c := by
  unfold Cmd.touchesOffers at h
  split at h <;> simp_all [Neutral, leavesStatus, Cmd.readsTrip]

theorem leavesStatus_of_reports {c : Cmd} (h : c.reports = true) : leavesStatus c = true := by
  unfold Cmd.reports at h
  split at h <;> simp_all [leavesStatus]

theorem leavesStatus_findById (tripId : ℕ) :
    (TripRepository.findById tripId).Only fun c => leavesStatus c = true :=
  (onlyReports_findById tripId).mono fun _ hc => leavesStatus_of_reports hc

theorem leavesStatus_reportStatus (updated : Option Trip) (userId : ℕ) (status : TripStatus)
    (cancelReason : Option String) :
    (reportStatus updated userId status cancelReason).Only fun c => leavesStatus c = true := by
  refine (only_reportStatus updated userId status cancelReason).mono fun c hc => ?_
  rcases hc with hc | ⟨trip, -, finalPrice, -, rfl⟩
  · exact leavesStatus_of_reports hc
  · rfl

/-- A conditional update of one trip moves it along an edge when the update of the row does. -/
theorem mayMove_of_update {s t : Store} {tripId : ℕ} {f : Trip → Trip}
    (ht : t.trips.find? tripId = (s.trips.find? tripId).map f) {a b : TripStatus}
    (hf : ∀ trip, s.trips.find? tripId = some trip →
      (f trip).status = trip.status ∨ mayMove trip.status (f trip).status = true)
    (ha : s.tripStatus tripId = some a) (hb : t.tripStatus tripId = some b) :
    a = b ∨ mayMove a b = true := by
  obtain ⟨trip, htrip, rfl⟩ := Option.map_eq_some_iff.mp ha
  rw [Store.tripStatus, ht, htrip, Option.map_some, Option.map_some, Option.some_inj] at hb
  rw [← hb]
  rcases hf trip htrip with h | h
  · exact Or.inl h.symm
  · exact Or.inr h

/-- The condition is exact: a guarded write meets it if and only if it moves the trip along an edge, or
not at all. -/
theorem undisturbed_updateTrip_iff {i tripId : ℕ} {w : World Store Cmd} {data : TripData}
    (hguards : Guarded (w.statusRead i tripId) data) :
    Undisturbed i w (.updateTrip tripId data) ↔
      ∀ current ∈ w.store.tripStatus tripId, ∀ target ∈ data.status,
        current = target ∨ mayMove current target = true := by
  refine forall₂_congr fun current _ => forall₂_congr fun target htarget => ?_
  have hguard := hguards target htarget
  constructor
  · rintro (hread | hsame | ⟨hcancel, hbefore⟩ | ⟨hread, rfl⟩)
    · rw [hread] at hguard
      exact Or.inr hguard
    · exact Or.inl hsame
    · exact Or.inr (mayMove_of_isCancelled hcancel hbefore)
    · rw [hread] at hguard
      exact Or.inr (hguard ▸ rfl)
  · rintro (hsame | hmove)
    · exact Or.inr (Or.inl hsame)
    · cases hread : w.statusRead i tripId with
      | none =>
        rw [hread] at hguard
        exact Or.inr (Or.inr (Or.inr ⟨rfl, mayMove_accepted_iff.mp (hguard ▸ hmove)⟩))
      | some status =>
        rw [hread] at hguard
        by_cases hne : current = status
        · exact Or.inl (by rw [hne])
        · exact Or.inr (Or.inr (Or.inl (isCancelled_of_mayMove hmove hguard hne)))

/-- One command moves a trip along an edge, or not at all. -/
theorem mayMove_of_step {i : ℕ} {w : World Store Cmd} {c : Cmd} (hcond : Undisturbed i w c)
    (hguards : Guards i w c) {tripId : ℕ} {a b : TripStatus}
    (ha : w.store.tripStatus tripId = some a) (hb : (c.exec w.store).tripStatus tripId = some b) :
    a = b ∨ mayMove a b = true := by
  have hkeep : (c.exec w.store).trips = w.store.trips → a = b ∨ mayMove a b = true := by
    intro h
    rw [Store.tripStatus, h, ← Store.tripStatus, ha] at hb
    exact Or.inl (Option.some.inj hb)
  cases c with
  | insertTrip data =>
    obtain ⟨trip, htrip, rfl⟩ := Option.map_eq_some_iff.mp ha
    rw [Store.tripStatus, Store.find?_insertTrip_of_some htrip, Option.map_some] at hb
    exact Or.inl (Option.some.inj hb)
  | updateTrip id data =>
    refine mayMove_of_update Store.find?_updateTrip (fun trip htrip => ?_) ha hb
    by_cases hid : tripId = id
    · rw [if_pos hid]
      subst hid
      cases hstatus : data.status with
      | none => exact Or.inl (by simp [TripData.apply, hstatus])
      | some target =>
        have hcurrent : w.store.tripStatus tripId = some trip.status := by
          rw [Store.tripStatus, htrip, Option.map_some]
        have htarget : (data.apply w.store.now trip).status = target := by
          simp [TripData.apply, hstatus]
        rw [htarget]
        rcases (undisturbed_updateTrip_iff hguards).mp hcond _ hcurrent _ hstatus with h | h
        · exact Or.inl h.symm
        · exact Or.inr h
    · rw [if_neg hid]
      exact Or.inl rfl
  | updateTripIfPending id data =>
    refine mayMove_of_update Store.find?_updateTripIfPending (fun trip htrip => ?_) ha hb
    split_ifs with hpending
    · rw [Bool.and_eq_true, decide_eq_true_eq, decide_eq_true_eq] at hpending
      have hstatus : data.status = some .cancelledAuto := hguards
      have htarget : (data.apply w.store.now trip).status = .cancelledAuto := by
        simp [TripData.apply, hstatus]
      rw [htarget, hpending.2]
      exact Or.inr rfl
    · exact Or.inl rfl
  | chargeCommission id driverId commissionAmount finalPrice =>
    refine mayMove_of_update Store.find?_chargeCommission (fun trip htrip => Or.inl ?_) ha hb
    split_ifs
    · rfl
    · rfl
  | _ => exact hkeep rfl

/-! ### The protocol -/

/-- Every call's guards hold, in the runs without disturbance. -/
def protocol (env : Env) (fault : Error → Prop) : Protocol (system env ()) where
  cond := Undisturbed
  fault := fault
  inv _ := True
  guar := Guards
  inv_step _ _ _ _ _ := trivial

section Threads

variable {env : Env} {fault : Error → Prop} {i tripId : ℕ} {w : World Store Cmd}

theorem frame_true : (protocol env fault).Frame i (fun c => leavesStatus c = true) fun _ => True where
  stable := Protocol.stable_const i True
  performs hc _ _ _ := ⟨guards_of_leavesStatus hc, fun _ _ _ => trivial⟩

theorem frame_statusRead (status : Option TripStatus) :
    (protocol env fault).Frame i Neutral fun w => w.statusRead i tripId = status where
  stable := by
    rintro w _ ⟨j, c, n, hj, -, -, -, -, -, -, rfl⟩ hw
    simp only [World.statusRead, World.lastRead_step_of_not (Or.inl hj)]
    exact hw
  performs := by
    intro c w hc hw _ _
    refine ⟨guards_of_leavesStatus hc.1, fun n _ _ => ?_⟩
    simp only [World.statusRead, World.lastRead_step_of_not (Or.inr (hc.2 tripId))]
    exact hw

/-- A guarded write, and a rest that writes no status. -/
theorem wp_update_bind {α : Type} {data : TripData} {status : Option TripStatus}
    (hguard : Guarded status data) {f : Trip → Prog α}
    (hf : ∀ trip, (f trip).Only fun c => leavesStatus c = true) (hw : w.statusRead i tripId = status) :
    (protocol env fault).wp i ((TripRepository.update tripId data).bind f) (fun _ _ => True) w := by
  refine Protocol.wp_queryE_bind (frame_statusRead status).stable hw (fun w hw _ _ => ?_)
    fun _ _ _ _ _ => trivial
  subst hw
  refine ⟨hguard, fun n _ _ => ?_⟩
  cases orNotFound ((w.store.trips.find? tripId).map (data.apply w.store.now)) with
  | error e => trivial
  | ok trip => exact frame_true.wp (hf trip) trivial

/-- What follows the read of a trip, when the trip is there. -/
theorem wp_getTrip_bind {α : Type} {f : Trip → Prog α}
    (hf : ∀ trip w, w.statusRead i tripId = some trip.status →
      (protocol env fault).wp i (f trip) (fun _ _ => True) w) :
    (protocol env fault).wp i ((getTrip tripId).bind f) (fun _ _ => True) w := by
  rw [getTrip_bind]
  refine Protocol.wp_query_bind (Protocol.stable_const i True) trivial (fun w _ _ _ => ?_)
    fun _ _ _ _ _ => trivial
  refine ⟨trivial, fun n _ _ => ?_⟩
  have hread : (w.step (system env ()) i (.findTrip tripId) n).statusRead i tripId =
      w.store.tripStatus tripId := by
    rw [World.statusRead, World.lastRead_step_self (by simp [Cmd.readsTrip]), Option.bind_some]
  cases htrip : w.store.trips.find? tripId with
  | none => trivial
  | some trip =>
    have hstatus : w.store.tripStatus tripId = some trip.status := by
      rw [Store.tripStatus, htrip, Option.map_some]
    refine (frame_statusRead (some trip.status)).wp_bind ?_ (hread.trans hstatus) ?_ ?_
    · exact Async.only_perform.mpr ⟨rfl, fun _ => rfl⟩
    · exact fun _ w hw => hf trip w hw
    · exact fun _ _ _ => trivial

theorem wp_updateStatus (userId : ℕ) (role : UserRole) (dto : UpdateTripStatusDto) :
    (protocol env fault).wp i (TripsService.updateStatus tripId userId role dto)
      (fun _ _ => True) w := by
  refine wp_getTrip_bind fun trip w hw => ?_
  by_cases hcan : canTransition trip.status dto.status = true
  · rw [if_pos hcan]
    refine (frame_statusRead _).wp_bind_yields
      ((onlyOffers_statusCase trip userId role dto).mono fun c hc => neutral_of_touchesOffers hc)
      (yields_statusCase trip userId role dto) hw (fun data w hdata hw => ?_) fun _ _ _ => trivial
    unfold TripRepository.updateStatus
    rw [Async.bind_eq, Async.bind_eq, Async.bind_assoc]
    refine wp_update_bind ?_ (fun _ => ?_) hw
    · intro target htarget
      obtain rfl := Option.some.inj (hdata.symm.trans htarget)
      exact mayMove_of_canTransition hcan
    · exact (leavesStatus_findById tripId).bind fun _ => leavesStatus_reportStatus _ _ _ _
  · rw [if_neg hcan]
    trivial

theorem wp_completeTrip (userId : ℕ) (role : UserRole) (dto : PaymentReceivedDto) :
    (protocol env fault).wp i (TripsService.completeTrip tripId userId role dto)
      (fun _ _ => True) w := by
  unfold TripsService.completeTrip
  split_ifs
  · trivial
  refine wp_getTrip_bind fun trip w hw => ?_
  refine (frame_statusRead _).wp_bind (Async.only_query.mpr ⟨rfl, fun _ => rfl⟩) hw
    (fun driver w hw => ?_) fun _ _ _ => trivial
  split_ifs with hdriver hstatus hcan
  · trivial
  · trivial
  · refine (frame_statusRead _).wp_bind (Async.only_read.mpr ⟨rfl, fun _ => rfl⟩) hw
      (fun now w hw => ?_) fun _ _ _ => trivial
    refine wp_update_bind ?_ (fun _ => ?_) hw
    · intro target htarget
      obtain rfl := Option.some.inj htarget
      exact mayMove_of_canTransition hcan
    · refine Async.Only.bind ((leavesStatus_findById tripId).bind fun trip => ?_) fun _ =>
        leavesStatus_reportStatus _ _ _ _
      cases trip <;> trivial
  · trivial

/-- The handler of `DriverAssigned` has read nothing. -/
theorem wp_handleDriverAssigned (driverId : ℕ) (hw : w.statusRead i tripId = none) :
    (protocol env fault).wp i (handleDriverAssigned env.geo tripId driverId)
      (fun _ _ => True) w := by
  unfold handleDriverAssigned TripRepository.assignDriver
  rw [Async.bind_eq, Async.bind_eq, Async.bind_assoc]
  refine (frame_statusRead none).wp_bind (Async.only_read.mpr ⟨rfl, fun _ => rfl⟩) hw
    (fun now w hw => ?_) fun _ _ _ => trivial
  refine wp_update_bind (fun target htarget => (Option.some.inj htarget).symm) (fun trip => ?_) hw
  refine Async.Only.bind ((onlyReports_broadcastAccepted env.geo trip driverId).mono fun c hc =>
    leavesStatus_of_reports hc) fun _ => ?_
  exact Async.only_emit.mpr rfl

theorem wp_handleDispatchFailed (reason : String) :
    (protocol env fault).wp i (handleDispatchFailed tripId reason) (fun _ _ => True) w := by
  unfold handleDispatchFailed TripRepository.updateStatusIfPending
  rw [Async.bind_eq, Async.bind_eq, Async.bind_assoc]
  refine frame_true.wp_bind (Async.only_read.mpr rfl) trivial (fun now w _ => ?_)
    fun _ _ _ => trivial
  -- the update itself asks for `pending`
  refine Protocol.wp_query_bind (Protocol.stable_const i True) trivial (fun w _ _ _ => ?_)
    fun _ _ _ _ _ => trivial
  refine ⟨rfl, fun n _ _ => frame_true.wp ?_ trivial⟩
  refine (leavesStatus_findById tripId).bind fun trip => ?_
  split
  · exact Async.only_emit.mpr rfl
  · trivial

/-- What the sweep has read, of every trip. -/
theorem frame_reads (reads : ℕ → Option TripStatus) :
    (protocol env fault).Frame i Neutral fun w => ∀ tripId, w.statusRead i tripId = reads tripId where
  stable _ _ h hw tripId := (frame_statusRead _).stable h (hw tripId)
  performs hc hw hinv hcond :=
    ⟨guards_of_leavesStatus hc.1, fun n hn hfresh tripId =>
      ((frame_statusRead _).performs hc (hw tripId) hinv hcond).2 n hn hfresh⟩

/-- One turn of the sweep's loop, over a trip that was read in an assigned status. -/
theorem wp_cancelStale {reads : ℕ → Option TripStatus} {trip : Trip}
    (htrip : reads trip.id = some trip.status) (hassigned : isAssigned trip.status = true)
    (hw : ∀ tripId, w.statusRead i tripId = reads tripId) :
    (protocol env fault).wp i (DispatchRecoveryService.cancelStale trip)
      (fun _ w => ∀ tripId, w.statusRead i tripId = reads tripId) w := by
  apply Protocol.wp_tryCatch
  refine Protocol.wp_queryE_bind (frame_reads reads).stable hw (fun w hw _ _ => ?_)
    fun _ _ _ hw _ => hw
  refine ⟨fun target htarget => ?_, fun n _ _ => ?_⟩
  · obtain rfl := Option.some.inj htarget
    rw [hw, htrip]
    exact mayMove_cancelledAuto_of_isAssigned hassigned
  · have hread : ∀ tripId, (w.step (system env ()) i (.updateTrip trip.id
        { status := some .cancelledAuto, cancelReason := some "driver_unresponsive" }) n).statusRead
          i tripId = reads tripId := by
      intro tripId
      rw [World.statusRead, World.lastRead_step_of_not (Or.inr rfl)]
      exact hw tripId
    cases orNotFound ((w.store.trips.find? trip.id).map _) with
    | error e => exact hread
    | ok updated =>
      refine Protocol.wp_mono ?_ ((frame_reads reads).wp (Async.Only.bind
        ((onlyOffers_releaseLocksForTrip trip.id).mono fun c hc =>
          neutral_of_touchesOffers hc) fun _ => ?_) hread)
      · rintro (e | _) w hw
        · exact hw
        · exact hw
      · split
        · exact Async.only_emit.mpr ⟨rfl, fun _ => rfl⟩
        · trivial

theorem wp_cancelStales {reads : ℕ → Option TripStatus} {stale : List Trip}
    (hstale : ∀ trip ∈ stale, reads trip.id = some trip.status ∧ isAssigned trip.status = true)
    (hw : ∀ tripId, w.statusRead i tripId = reads tripId) :
    (protocol env fault).wp i (Async.forEach DispatchRecoveryService.cancelStale stale)
      (fun _ w => ∀ tripId, w.statusRead i tripId = reads tripId) w := by
  induction stale generalizing w with
  | nil => exact hw
  | cons trip stale ih =>
    obtain ⟨htrip, hassigned⟩ := hstale trip List.mem_cons_self
    apply Protocol.wp_bind
    refine Protocol.wp_mono ?_ (wp_cancelStale htrip hassigned hw)
    rintro (e | _) w hw
    · exact hw
    · exact ih (fun trip htrip => hstale trip (List.mem_cons_of_mem _ htrip)) hw

theorem wp_sweepStaleAssigned :
    (protocol env fault).wp i DispatchRecoveryService.sweepStaleAssigned (fun _ _ => True) w := by
  refine Protocol.wp_read_bind (Protocol.stable_const i True) trivial fun w _ _ _ => ?_
  refine ⟨trivial, fun n _ _ => ?_⟩
  apply Protocol.wp_bind
  apply Protocol.wp_tryCatch
  refine Protocol.wp_query (Protocol.stable_const i True) trivial (fun v _ _ _ => ?_) ?_
  rotate_left
  · intro e v _ _ _
    trivial
  refine ⟨trivial, fun m _ _ => ?_⟩
  have hread : ∀ tripId, (v.step (system env ()) i .findStaleAssignedTrips m).statusRead i tripId =
      v.store.tripStatus tripId := by
    intro tripId
    rw [World.statusRead, World.lastRead_step_self rfl, Option.bind_some]
  show (protocol env fault).wp i (Async.forEach DispatchRecoveryService.cancelStale
    (v.store.trips.findMany (DispatchRecoveryService.isStale w.store.now))) (fun _ _ => True) _
  refine Protocol.wp_mono (fun _ _ _ => trivial) (wp_cancelStales (fun trip htrip => ?_) hread)
  -- the query selects assigned trips
  obtain ⟨hmem, hselected⟩ := List.mem_filter.mp htrip
  rw [DispatchRecoveryService.isStale, Bool.and_eq_true] at hselected
  refine ⟨?_, hselected.1⟩
  rw [Store.tripStatus, Table.find?_eq_some_iff.mpr ⟨hmem, rfl⟩, Option.map_some]

theorem wp_handleTripCompleted (tripId : ℕ) :
    (protocol env fault).wp i (CommissionsService.handleTripCompleted tripId)
      (fun _ _ => True) w :=
  frame_true.wp (CommissionsService.only_handleTripCompleted rfl fun _ _ _ _ => rfl) trivial

/-- Every call keeps the protocol from the start. -/
theorem wp_program (call : TripCall) (hw : ∀ tripId, w.statusRead i tripId = none) :
    (protocol env fault).wp i (call.program env) (fun _ _ => True) w := by
  cases call with
  | updateStatus tripId userId role dto => exact Protocol.wp_as (wp_updateStatus userId role dto)
  | completeTrip tripId userId role dto => exact Protocol.wp_as (wp_completeTrip userId role dto)
  | driverAssigned tripId driverId => exact wp_handleDriverAssigned driverId (hw tripId)
  | dispatchFailed tripId reason => exact wp_handleDispatchFailed reason
  | sweep => exact wp_sweepStaleAssigned
  | wait ms => exact frame_true.wp (Async.only_perform.mpr rfl) trivial

/-- A handler is the handler of one of three events. -/
theorem handlersKeep : (protocol env fault).HandlersKeep fun _ _ _ => True := by
  intro c k h hk j n w _ _ hguards hj hfresh
  have hread : ∀ tripId, (w.step (system env ()) j c n).statusRead (n + k) tripId = none := by
    intro tripId
    rw [World.statusRead, Protocol.lastRead_started hj hfresh, Option.bind_none]
  cases c with
  | emit event =>
    cases event with
    | tripCreated => exact hguards.elim
    | tripCompleted tripId driverId clientId finalPrice =>
      obtain rfl : _ = h := by simpa using List.mem_singleton.mp (List.mem_of_getElem? hk) |>.symm
      exact Protocol.wp_as (wp_handleTripCompleted tripId)
    | driverAssigned tripId driverId =>
      obtain rfl : _ = h := (List.mem_singleton.mp (List.mem_of_getElem? hk)).symm
      exact Protocol.wp_as (wp_handleDriverAssigned driverId (hread tripId))
    | dispatchFailed tripId reason =>
      obtain rfl : _ = h := (List.mem_singleton.mp (List.mem_of_getElem? hk)).symm
      exact Protocol.wp_as (wp_handleDispatchFailed reason)
    | _ => simp [handlers, eventHandlers] at hk
  | _ => simp [handlers] at hk

/-- The calls start, in any store, with nothing read. -/
theorem safe_init (s : Store) (calls : List TripCall) :
    (protocol env fault).Safe (fun _ _ _ => True)
      (Pool.init s (calls.map (·.program env))) := by
  refine Protocol.safe_init trivial fun i t ht => ?_
  obtain ⟨call, -, rfl⟩ := List.mem_map.mp (List.mem_of_getElem? ht)
  exact wp_program call fun _ => rfl

/-- A trip that is there stays there. -/
theorem exists_tripStatus_exec {s : Store} {a : TripStatus} (c : Cmd)
    (ha : s.tripStatus tripId = some a) : ∃ b, (c.exec s).tripStatus tripId = some b := by
  obtain ⟨trip, htrip, -⟩ := Option.map_eq_some_iff.mp ha
  have hkeep : ∀ {t : Store} {f : Trip → Trip},
      t.trips.find? tripId = (s.trips.find? tripId).map f →
        ∃ b, t.tripStatus tripId = some b := by
    intro t f ht
    exact ⟨_, by rw [Store.tripStatus, ht, htrip, Option.map_some, Option.map_some]⟩
  cases c with
  | insertTrip data =>
    refine ⟨trip.status, ?_⟩
    rw [Store.tripStatus, Store.find?_insertTrip_of_some htrip, Option.map_some]
  | updateTrip id data => exact hkeep Store.find?_updateTrip
  | updateTripIfPending id data => exact hkeep Store.find?_updateTripIfPending
  | chargeCommission id driverId commissionAmount finalPrice =>
    exact hkeep Store.find?_chargeCommission
  | _ => exact ⟨a, ha⟩

/-- One step of a pool moves a trip along an edge, or not at all. -/
theorem step_moves {p q : Pool Store Cmd Error Unit}
    (hsafe : (protocol env fault).Safe (fun _ _ _ => True) p)
    (hstep : Pool.Step (system env ()) Undisturbed fault p q) {a : TripStatus}
    (ha : p.world.store.tripStatus tripId = some a) :
    ∃ b, q.world.store.tripStatus tripId = some b ∧ (a = b ∨ mayMove a b = true) := by
  cases hstep with
  | reject hi hrun he ht => exact ⟨a, ha, Or.inl rfl⟩
  | @act i t c hi hrun hc hcond =>
    have hguards : Guards i p.world c := (hsafe.performs hi hc hcond).1
    obtain ⟨b, hb⟩ := exists_tripStatus_exec c ha
    refine ⟨b, ?_, mayMove_of_step hcond hguards ha hb⟩
    rw [Pool.advance, World.store_step]
    exact hb

/-- A run leaves a trip that is over as it is, and does not cancel one that has started. -/
theorem run_keeps {p q : Pool Store Cmd Error Unit}
    (hsafe : (protocol env fault).Safe (fun _ _ _ => True) p)
    (hrun : Pool.Run (system env ()) Undisturbed fault p q) {a : TripStatus}
    (ha : p.world.store.tripStatus tripId = some a) :
    ∃ b, q.world.store.tripStatus tripId = some b ∧ (isTerminal a = true → b = a) ∧
      (a = .inProgress → isCancelled b = false) := by
  induction hrun using Relation.ReflTransGen.head_induction_on generalizing a with
  | refl => exact ⟨a, ha, fun _ => rfl, fun h => h ▸ rfl⟩
  | head hstep hrest ih =>
    have hsafe' := hsafe.step (fun i _ => Protocol.stable_const i True) handlersKeep hstep
    obtain ⟨a', ha', hmove⟩ := step_moves hsafe hstep ha
    obtain ⟨b, hb, hover, hstarted⟩ := ih hsafe' ha'
    refine ⟨b, hb, fun h => ?_, fun h => ?_⟩
    · rcases hmove with rfl | hmove
      · exact hover h
      · rw [mayMove_of_isTerminal h] at hmove
        cases hmove
    · subst h
      rcases hmove with rfl | hmove
      · exact hstarted rfl
      · -- the only edge from `in_progress` leads to `completed`, which is over
        obtain rfl := mayMove_inProgress hmove
        rw [hover rfl]
        rfl

end Threads

end Transitions

/-- In every run without disturbance a step moves a trip's status along an edge of the table or of the
sweep, or not at all; so a trip that is over stays as it is, and one that has started is not
cancelled. -/
theorem tripStatus_moves_along_edges (env : Env) (s : Store) (calls : List TripCall)
    (fault : Error → Prop) {p q : Pool Store Cmd Error Unit}
    (hp : Pool.Run (system env ()) Undisturbed fault (Pool.init s (calls.map (·.program env))) p) :
    (Pool.Step (system env ()) Undisturbed fault p q → ∀ tripId a b,
      p.world.store.tripStatus tripId = some a → q.world.store.tripStatus tripId = some b →
        a = b ∨ mayMove a b = true) ∧
    (Pool.Run (system env ()) Undisturbed fault p q → ∀ tripId a,
      p.world.store.tripStatus tripId = some a → ∃ b, q.world.store.tripStatus tripId = some b ∧
        (isTerminal a = true → b = a) ∧ (a = .inProgress → isCancelled b = false)) := by
  have hsafe := (Transitions.safe_init s calls).run (fun i _ => Protocol.stable_const i True)
    Transitions.handlersKeep hp
  refine ⟨fun hstep tripId a b ha hb => ?_, fun hrun tripId a ha => ?_⟩
  · obtain ⟨b', hb', hmove⟩ := Transitions.step_moves hsafe hstep ha
    obtain rfl := Option.some.inj (hb'.symm.trans hb)
    exact hmove
  · exact Transitions.run_keeps hsafe hrun ha

namespace Transitions

/-- Driver 1 (user 10) has arrived for client 20. -/
def arrivedStore : Store where
  drivers := .single ⟨1, 10, 0, 0⟩
  trips :=
    .single { id := 1, clientId := 20, driverId := some 1, vehicleTypeId := 1, serviceType := .ride
              status := .driverArriving, pickupLocation := ⟨0, 0⟩, dropoffLocation := ⟨0, 0⟩
              estimatedPrice := some 2000, createdAt := 0, updatedAt := 0 }

/-- The client cancels, and the driver starts the trip. -/
def cancelAndStart : List TripCall :=
  [.updateStatus 1 20 .client { status := .cancelledByClient },
    .updateStatus 1 10 .driver { status := .inProgress }]

end Transitions

open Transitions in
/-- Once the driver has started the trip, no schedule of the rest cancels it. -/
theorem tripStatus_moves_along_edges_started :
    ∃ p : Pool Store Cmd Error Unit, p.world.store.tripStatus 1 = some .inProgress ∧
      ∀ q, Pool.Run (system Env.offline ()) Undisturbed (fun _ => False) p q →
        ∃ b, q.world.store.tripStatus 1 = some b ∧ isCancelled b = false := by
  obtain ⟨p, hp, hstatus⟩ := Pool.exists_run_of_schedule? (system Env.offline ()) Undisturbed
    (fun _ => False) (Pool.init arrivedStore (cancelAndStart.map (·.program Env.offline)))
    [0, 1, 1, 1, 1, 1] (fun p => p.world.store.tripStatus 1 = some .inProgress)
    (by decide +kernel)
  refine ⟨p, hstatus, fun q hq => ?_⟩
  obtain ⟨b, hb, -, hstarted⟩ :=
    (tripStatus_moves_along_edges Env.offline arrivedStore cancelAndStart _ hp).2 hq 1 _ hstatus
  exact ⟨b, hb, hstarted rfl⟩

open Transitions in
/-- The client cancels on the row read before the driver started the trip. -/
theorem started_trip_cancelled :
    ∃ p q : Pool Store Cmd Error Unit,
      Pool.Run (system Env.offline ()) (fun _ _ _ => True) (fun _ => False)
        (Pool.init arrivedStore (cancelAndStart.map (·.program Env.offline))) p ∧
      p.world.store.tripStatus 1 = some .inProgress ∧
      Pool.Step (system Env.offline ()) (fun _ _ _ => True) (fun _ => False) p q ∧
      q.world.store.tripStatus 1 = some .cancelledByClient ∧
      mayMove .inProgress .cancelledByClient = false := by
  obtain ⟨p, hp, hstatus, hstep⟩ := Pool.exists_run_of_schedule? (system Env.offline ())
    (fun _ _ _ => True) (fun _ => False)
    (Pool.init arrivedStore (cancelAndStart.map (·.program Env.offline)))
    [0, 0, 0, 0, 0, 0, 1, 1, 1, 1, 1]
    (fun p => p.world.store.tripStatus 1 = some .inProgress ∧
      ((p.stepAt? (system Env.offline ()) (fun _ _ _ => True) 0).map fun q =>
        q.world.store.tripStatus 1) = some (some .cancelledByClient)) (by decide +kernel)
  obtain ⟨q, hq, hcancelled⟩ := Option.map_eq_some_iff.mp hstep
  exact ⟨p, q, hp, hstatus, Pool.step_of_stepAt? hq, hcancelled, rfl⟩

end Telima
