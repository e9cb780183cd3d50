import Telima.Operations.Dispatch
import Telima.Trips.Routine

/-!
# Only open trips are offered

A retry and a pass of the recovery find a trip pending and offer it many steps later, and the first
search of a trip starts some steps after its creation; an accept or a cancellation in between is not
noticed.  When nothing closes a trip between the moment a call starts on it and its offers, every trip
is pending when it is offered (`offers_pending`).
-/

namespace Telima

open TripsService DispatchService DispatchRecoveryService

/-- The trip was pending, and this ends. -/
def closes (tripId : ℕ) (e : Event Store Cmd) : Bool :=
  match e.kind with
  | .did c => decide (e.before.tripStatus tripId = some .pending) &&
      decide ((c.exec e.before).tripStatus tripId ≠ some .pending)
  | .spawned _ => false

/-- A call takes a driver's answer, or asks for the pending trips or the request of a driver. -/
def Cmd.startsOffers : Cmd → Bool
  | .respondAttempts _ (some _) _ | .findPendingTrips | .findPendingAttempt _ => true
  | _ => false

/-- The trip was closed since thread `i` has started on it. -/
def World.ClosedSince (w : World Store Cmd) (i tripId : ℕ) : Prop :=
  ∃ e ∈ w.since i Cmd.startsOffers, closes tripId e = true

/-- A trip that is offered was not closed since the thread has started on it. -/
def Unclosed (i : ℕ) (w : World Store Cmd) (c : Cmd) : Prop :=
  ∀ tripId, c.offered? = some tripId → ¬ w.ClosedSince i tripId

namespace OpenOffers

/-- The trip is pending, or was closed since thread `i` has started on it. -/
def Open (i tripId : ℕ) (w : World Store Cmd) : Prop :=
  w.store.tripStatus tripId = some .pending ∨ w.ClosedSince i tripId

/-- The trip is pending, or was closed. -/
def Opened (tripId : ℕ) (w : World Store Cmd) : Prop :=
  w.store.tripStatus tripId = some .pending ∨ ∃ e ∈ w.trace, closes tripId e = true

/-- The command emits `TripCreated`. -/
def isCreation : Cmd → Bool
  | .emit (.tripCreated _ _ _ _) => true
  | _ => false

/-- The command neither offers a trip nor announces a new one. -/
def isPlain (c : Cmd) : Bool := c.offered?.isNone && !isCreation c

section Threads

variable {env : Env} {fault : Error → Prop} {i tripId : ℕ} {ids : List ℕ} {w : World Store Cmd}

/-- A command after which the trip is no longer pending closes it. -/
theorem pending_or_closes {c : Cmd} {s : Store} (j : ℕ) (h : s.tripStatus tripId = some .pending) :
    (c.exec s).tripStatus tripId = some .pending ∨ closes tripId ⟨j, .did c, s⟩ = true := by
  by_cases hafter : (c.exec s).tripStatus tripId = some .pending
  · exact .inl hafter
  · exact .inr (Bool.and_eq_true_iff.mpr ⟨decide_eq_true h, decide_eq_true hafter⟩)

theorem Open.step {j n : ℕ} {c : Cmd} (h : Open i tripId w)
    (hc : j ≠ i ∨ c.startsOffers = false) :
    Open i tripId (w.step (system env ()) j c n) := by
  have hsince : ⟨j, .did c, w.store⟩ :: w.since i Cmd.startsOffers <:+
      (w.step (system env ()) j c n).since i Cmd.startsOffers := World.since_step_suffix hc
  rcases h with hpending | ⟨e, he, hcloses⟩
  · rcases pending_or_closes j hpending (c := c) with hafter | hcloses
    · refine .inl ?_
      rw [World.store_step]
      exact hafter
    · exact .inr ⟨_, hsince.subset List.mem_cons_self, hcloses⟩
  · exact .inr ⟨e, hsince.subset (List.mem_cons_of_mem _ he), hcloses⟩

theorem Opened.step {j n : ℕ} {c : Cmd} (h : Opened tripId w) :
    Opened tripId (w.step (system env ()) j c n) := by
  rcases h with hpending | ⟨e, he, hcloses⟩
  · rcases pending_or_closes j hpending (c := c) with hafter | hcloses
    · refine .inl ?_
      rw [World.store_step]
      exact hafter
    · exact .inr ⟨_, World.did_mem_trace_step, hcloses⟩
  · exact .inr ⟨e, World.trace_step_suffix.subset he, hcloses⟩

/-- An offered trip is pending, and a trip that is announced was so when it was created. -/
structure Guards (w : World Store Cmd) (c : Cmd) : Prop where
  offers : ∀ tripId, c.offered? = some tripId → w.store.tripStatus tripId = some .pending
  creates : ∀ tripId pickup serviceType vehicleTypeId,
    c = .emit (.tripCreated tripId pickup serviceType vehicleTypeId) → Opened tripId w

theorem guards_of_isPlain {c : Cmd} (h : isPlain c = true) : Guards w c := by
  rw [isPlain, Bool.and_eq_true, Option.isNone_iff_eq_none] at h
  refine ⟨fun tripId hoffers => ?_, ?_⟩
  · rw [h.1] at hoffers
    cases hoffers
  · rintro tripId pickup serviceType vehicleTypeId rfl
    cases h.2

/-- Every trip that is offered is pending. -/
def protocol (env : Env) (fault : Error → Prop) : Protocol (system env ()) where
  cond := Unclosed
  fault := fault
  inv w := ∀ e ∈ w.trace, ∀ c tripId, e.kind = .did c → c.offered? = some tripId →
    e.before.tripStatus tripId = some .pending
  guar _ := Guards
  inv_step := by
    intro w i c n hinv _ hguar _ _ e he d tripId hkind hoffers
    rcases World.mem_trace_step he with ⟨d', hspawned⟩ | rfl | he
    · rw [hspawned] at hkind
      cases hkind
    · obtain rfl := EventKind.did.inj hkind
      exact hguar.offers tripId hoffers
    · exact hinv e he d tripId hkind hoffers

theorem frame_true : (protocol env fault).Frame i (isPlain · = true) fun _ => True where
  stable := Protocol.stable_const i True
  performs hc _ _ _ := ⟨guards_of_isPlain hc, fun _ _ _ => trivial⟩

/-- The command offers one of these trips at most, announces no new one, and does not start on
another. -/
structure OffersAmong (ids : List ℕ) (c : Cmd) : Prop where
  offers : ∀ tripId, c.offered? = some tripId → tripId ∈ ids
  announces : isCreation c = false
  starts : c.startsOffers = false

theorem frame_open (ids : List ℕ) : (protocol env fault).Frame i (OffersAmong ids)
    fun w => ∀ tripId ∈ ids, Open i tripId w where
  stable := by
    rintro w _ ⟨j, c, n, hj, -, -, -, -, -, -, rfl⟩ h tripId hid
    exact (h tripId hid).step (.inl hj)
  performs := by
    intro c w hc hw _ hcond
    refine ⟨⟨fun tripId hoffers => ?_, ?_⟩, fun n _ _ tripId hid => (hw tripId hid).step (.inr hc.starts)⟩
    · exact (hw tripId (hc.offers tripId hoffers)).resolve_right (hcond tripId hoffers)
    · rintro tripId pickup serviceType vehicleTypeId rfl
      cases hc.announces

theorem wp_of_plain {α : Type} {p : Prog α} (hp : p.Only (isPlain · = true)) :
    (protocol env fault).wp i p (fun _ _ => True) w :=
  frame_true.wp hp trivial

/-- A program that offers trips the thread has found open. -/
theorem wp_of_offers {α : Type} {p : Prog α} (hp : p.Only (OffersAmong ids))
    (hw : ∀ tripId ∈ ids, Open i tripId w) :
    (protocol env fault).wp i p (fun _ _ => True) w :=
  Protocol.wp_mono (fun _ _ _ => trivial) ((frame_open ids).wp hp hw)

/-! ### The commands of a search -/

theorem offersAmong_of_isPlain {c : Cmd} (h : isPlain c = true) (hstarts : c.startsOffers = false) :
    OffersAmong ids c := by
  rw [isPlain, Bool.and_eq_true, Option.isNone_iff_eq_none, Bool.not_eq_true'] at h
  refine ⟨fun tripId hoffers => ?_, h.2, hstarts⟩
  rw [h.1] at hoffers
  cases hoffers

theorem offersAmong_self {c : Cmd} (hoffers : c.offered? = some tripId) (hid : tripId ∈ ids)
    (hannounces : isCreation c = false) (hstarts : c.startsOffers = false) :
    OffersAmong ids c := by
  refine ⟨fun other hother => ?_, hannounces, hstarts⟩
  obtain rfl := Option.some.inj (hoffers.symm.trans hother)
  exact hid

/-- A search offers its trip, and starts on no other. -/
theorem offersAmong_of_redispatches {c : Cmd} (h : c.redispatches tripId = true)
    (hid : tripId ∈ ids) : OffersAmong ids c := by
  cases c with
  | upsertAttempt t d =>
    obtain rfl : t = tripId := of_decide_eq_true h
    exact offersAmong_self rfl hid rfl rfl
  | respondAttempts t d status =>
    cases d with
    | none => exact offersAmong_of_isPlain rfl rfl
    | some d => cases h
  | broadcast room event payload =>
    cases payload with
    | newRequest t =>
      have ht : t = tripId := by
        cases room <;> cases event <;> first | exact of_decide_eq_true h | cases h
      subst ht
      exact offersAmong_self rfl hid rfl rfl
    | _ => exact offersAmong_of_isPlain rfl rfl
  | emit event => cases event <;> first | exact offersAmong_of_isPlain rfl rfl | cases h
  | _ => first | exact offersAmong_of_isPlain rfl rfl | cases h

theorem offers_of_redispatches {α : Type} {p : Prog α} (hp : OnlyRedispatches tripId p)
    (hid : tripId ∈ ids) : p.Only (OffersAmong ids) :=
  hp.mono fun _ hc => offersAmong_of_redispatches hc hid

/-! ### The calls -/

theorem isPlain_of_isRoutine {c : Cmd} (h : c.isRoutine = true) : isPlain c = true := by
  cases c with
  | emit event => cases event <;> first | rfl | cases h
  | broadcast room event payload => cases payload <;> first | rfl | cases h
  | upsertAttempt _ _ => cases h
  | rearmAttempt _ _ => cases h
  | _ => rfl

theorem isPlain_of_withdrawsJob {c : Cmd} (h : c.withdrawsJob = true) : isPlain c = true := by
  cases c <;> first | rfl | cases h

theorem plain_of_routine {α : Type} {p : Prog α} (hp : Routine p) : p.Only (isPlain · = true) :=
  hp.mono fun _ hc => isPlain_of_isRoutine hc

/-- A program that offers nothing before the rest. -/
theorem wp_bind_of_plain {α β : Type} {p : Prog α} {f : α → Prog β}
    (hp : p.Only (isPlain · = true))
    (hf : ∀ a w, (protocol env fault).wp i (f a) (fun _ _ => True) w) :
    (protocol env fault).wp i (p.bind f) (fun _ _ => True) w :=
  frame_true.wp_bind hp trivial (fun a w _ => hf a w) fun _ _ _ => trivial

/-- A retry offers the trip it has found pending. -/
theorem wp_checkAndRetryDispatch (env' : DispatchEnv) (tripId : ℕ) :
    (protocol env fault).wp i (checkAndRetryDispatch env' tripId) (fun _ _ => True) w := by
  refine Protocol.wp_query_bind frame_true.stable trivial (fun v _ _ _ => ?_)
    fun _ _ _ _ _ => trivial
  refine ⟨guards_of_isPlain rfl, fun n _ _ => ?_⟩
  cases hfilter : (v.store.trips.find? tripId).filter fun t => t.status = .pending with
  | none => trivial
  | some trip =>
    obtain ⟨htrip, hpending⟩ := Option.filter_eq_some_iff.mp hfilter
    have hopen : ∀ id ∈ [tripId],
        Open i id (v.step (system env ()) i (.findTrip tripId) n) := by
      intro id hid
      obtain rfl := List.mem_singleton.mp hid
      refine .inl ?_
      rw [World.store_step]
      show v.store.tripStatus id = some .pending
      rw [Store.tripStatus, htrip, Option.map_some, of_decide_eq_true hpending]
    refine wp_of_offers (Async.only_query_bind.mpr ⟨offersAmong_of_isPlain rfl rfl, fun _ => ?_⟩) hopen
    split_ifs
    · refine Async.only_query_bind.mpr ⟨offersAmong_of_isPlain rfl rfl, fun _ => ?_⟩
      refine Async.only_query_bind.mpr ⟨offersAmong_of_isPlain rfl rfl, fun _ => ?_⟩
      split_ifs
      · exact offers_of_redispatches (onlyRedispatches_emitDispatchFailed _ _) List.mem_cons_self
      · refine Async.only_query_bind.mpr ⟨offersAmong_of_isPlain rfl rfl, fun _ => ?_⟩
        exact offers_of_redispatches (onlyRedispatches_attemptDispatch env' _ _ _ _) List.mem_cons_self
    · trivial

theorem wp_handleDriverDeclineAndRetry (env' : DispatchEnv) (tripId driverId : ℕ) :
    (protocol env fault).wp i (handleDriverDeclineAndRetry env' tripId driverId)
      (fun _ _ => True) w := by
  have hdecline : (handleDriverDecline tripId driverId).Only (isPlain · = true) := by
    refine Async.only_perform_bind.mpr ⟨rfl, fun _ => Async.only_perform_bind.mpr ⟨rfl, fun _ => ?_⟩⟩
    exact (withdrawsJob_cancelTimeoutJob tripId driverId).mono fun _ hc =>
      isPlain_of_withdrawsJob hc
  exact wp_bind_of_plain hdecline fun _ _ => wp_checkAndRetryDispatch env' tripId

theorem wp_declineTrip (env' : DispatchEnv) (tripId userId : ℕ) :
    (protocol env fault).wp i (TripsService.declineTrip env' tripId userId) (fun _ _ => True) w := by
  refine wp_bind_of_plain (plain_of_routine (routine_getTrip tripId)) fun _ _ => ?_
  refine wp_bind_of_plain (Async.only_query.mpr rfl) fun driver _ => ?_
  cases driver with
  | none => trivial
  | some driverId =>
    refine wp_bind_of_plain (Async.only_query.mpr rfl) fun active _ => ?_
    split_ifs
    · exact wp_handleDriverDeclineAndRetry env' tripId driverId
    · trivial

theorem wp_timeout (env' : DispatchEnv) (job : TimeoutJob) :
    (protocol env fault).wp i ((Async.perform (.removeJob job.id)).bind fun _ =>
      handleDriverTimeout env' job.tripId job.driverId) (fun _ _ => True) w := by
  refine wp_bind_of_plain (Async.only_perform.mpr rfl) fun _ _ => ?_
  refine wp_bind_of_plain (Async.only_perform.mpr rfl) fun _ _ => ?_
  refine wp_bind_of_plain (Async.only_perform.mpr rfl) fun _ _ => ?_
  exact wp_bind_of_plain (Async.only_perform.mpr rfl) fun _ _ =>
    wp_checkAndRetryDispatch env' job.tripId

theorem wp_run (env' : DispatchEnv) (quiet : Bool) :
    (protocol env fault).wp i (DispatchRecoveryService.run env' quiet) (fun _ _ => True) w := by
  apply Protocol.wp_bind
  apply Protocol.wp_tryCatch
  refine Protocol.wp_query frame_true.stable trivial (fun v _ _ _ => ?_) fun _ _ _ _ _ => trivial
  refine ⟨guards_of_isPlain rfl, fun n _ _ => ?_⟩
  set pending := (v.store.trips.findMany fun trip => decide (trip.status = .pending)).insertionSort
    fun a b => a.createdAt ≤ b.createdAt with hlist
  have hopen : ∀ id ∈ pending.map Trip.id,
      Open i id (v.step (system env ()) i .findPendingTrips n) := by
    intro id hid
    obtain ⟨trip, htrip, rfl⟩ := List.mem_map.mp hid
    rw [hlist, List.mem_insertionSort] at htrip
    obtain ⟨hmem, hpending⟩ := List.mem_filter.mp htrip
    refine .inl ?_
    rw [World.store_step]
    show v.store.tripStatus trip.id = some .pending
    rw [Store.tripStatus, Table.find?_of_mem hmem, Option.map_some, of_decide_eq_true hpending]
  show (protocol env fault).wp i (if pending = [] then pure () else newDate.bind fun now =>
    Async.forEach (recoverTrip env' quiet now) pending) (fun _ _ => True) _
  split_ifs
  · trivial
  · refine wp_of_offers (Async.only_read_bind.mpr ⟨offersAmong_of_isPlain rfl rfl, fun now => ?_⟩)
      hopen
    exact Async.Only.forEach fun trip htrip =>
      offers_of_redispatches (onlyRedispatches_recoverTrip env' quiet _ _) (List.mem_map_of_mem htrip)

/-- The request that is found belongs to a pending trip. -/
theorem wp_getPendingRequestForDriver (userId : ℕ) :
    (protocol env fault).wp i (getPendingRequestForDriver userId) (fun _ _ => True) w := by
  refine wp_bind_of_plain (Async.only_query.mpr rfl) fun driver w => ?_
  cases driver with
  | none => trivial
  | some driverId =>
    refine Protocol.wp_query_bind frame_true.stable trivial (fun v _ _ _ => ?_)
      fun _ _ _ _ _ => trivial
    refine ⟨guards_of_isPlain rfl, fun n _ _ => ?_⟩
    split
    · trivial
    next attempt trip vehicleType hfound =>
      have hopen : ∀ id ∈ [trip.id],
          Open i id (v.step (system env ()) i (.findPendingAttempt driverId) n) := by
        intro id hid
        obtain rfl := List.mem_singleton.mp hid
        refine .inl ?_
        rw [World.store_step]
        show v.store.tripStatus trip.id = some .pending
        have hfound' : pendingAttempt? v.store driverId = some (attempt, trip, vehicleType) := hfound
        obtain ⟨-, -, htrip, hpending⟩ := pendingAttempt?_spec hfound'
        rw [Store.tripStatus, htrip, Option.map_some, hpending]
      have hrearm : (rearm trip.id driverId).Only (OffersAmong [trip.id]) := by
        refine Async.Only.tryCatch ?_ fun _ => trivial
        refine Async.Only.bind (Async.only_queryE.mpr ?_) fun _ => ?_
        · exact offersAmong_self rfl List.mem_cons_self rfl rfl
        · exact Async.only_perform.mpr (offersAmong_of_isPlain rfl rfl)
      refine wp_of_offers (Async.only_query_bind.mpr ⟨offersAmong_of_isPlain rfl rfl, fun _ => ?_⟩)
        hopen
      split_ifs
      · trivial
      · refine hrearm.bind fun _ => Async.Only.bind ?_ fun coords => ?_
        · exact Async.Only.tryCatch (Async.only_query.mpr (offersAmong_of_isPlain rfl rfl))
            fun _ => trivial
        · split <;> trivial

/-- A trip that was created stays open until something closes it. -/
theorem frame_opened (tripId : ℕ) :
    (protocol env fault).Frame i (isPlain · = true) (Opened tripId) where
  stable := by
    rintro w _ ⟨j, c, n, -, -, -, -, -, -, -, rfl⟩ h
    exact h.step
  performs hc hw _ _ := ⟨guards_of_isPlain hc, fun _ _ _ => hw.step⟩

/-- A trip is pending when it is inserted. -/
theorem opened_insertTrip {data : CreateTripData} {n : ℕ}
    (hvehicle : (w.store.vehicleTypes.find? data.vehicleTypeId).isSome = true) :
    Opened w.store.trips.freshKey (w.step (system env ()) i (.insertTrip data) n) := by
  refine .inl ?_
  rw [World.store_step, system_exec, Store.tripStatus, Store.find?_insertTrip,
    Table.find?_freshKey, Option.none_or, if_pos ⟨hvehicle, rfl⟩]
  rfl

theorem wp_createTrip (pricing : PricingEnv) (clientId : ℕ) (dto : CreateTripDto) :
    (protocol env fault).wp i (TripsService.createTrip pricing clientId dto)
      (fun _ _ => True) w := by
  refine wp_bind_of_plain (Async.only_queryE.mpr rfl) fun priceResult w => ?_
  refine Protocol.wp_queryE_bind frame_true.stable trivial (fun v _ _ _ => ?_)
    fun _ _ _ _ _ => trivial
  refine ⟨guards_of_isPlain rfl, fun n _ _ => ?_⟩
  split_ifs with hvehicle
  · have hdetails : (createDetails v.store.trips.freshKey dto.serviceType).Only
        (isPlain · = true) := only_createDetails (P := (isPlain · = true)) rfl dto.serviceType
    refine (frame_opened _).wp_bind hdetails (opened_insertTrip hvehicle) (fun _ w hw => ?_) fun _ _ _ => trivial
    refine (frame_opened _).wp_bind_yields (plain_of_routine (routine_getTrip _))
      (yields_getTrip _) hw (fun trip w htrip hw => ?_) fun _ _ _ => trivial
    refine Protocol.wp_read_bind (frame_opened _).stable hw fun u hu _ _ => ?_
    refine ⟨⟨(fun _ h => by cases h), ?_⟩, fun _ _ _ => trivial⟩
    intro tripId pickup serviceType vehicleTypeId heq
    cases heq
    rw [htrip]
    exact hu
  · trivial

theorem wp_program (pricing : PricingEnv) (op : Operation) :
    (protocol env fault).wp i (op.program env pricing) (fun _ _ => True) w := by
  cases op with
  | createTrip clientId dto => exact Protocol.wp_as (wp_createTrip pricing clientId dto)
  | updateStatus tripId userId role dto =>
    exact Protocol.wp_as (wp_of_plain (plain_of_routine (routine_updateStatus tripId userId role dto)))
  | completeTrip tripId userId role dto =>
    exact Protocol.wp_as (wp_of_plain (plain_of_routine (routine_completeTrip tripId userId role dto)))
  | wsAccept tripId userId =>
    refine wp_of_plain (Async.Only.tryCatch ?_ fun _ => trivial)
    exact (plain_of_routine (routine_updateStatus tripId userId _ _)).bind fun _ => trivial
  | declineTrip tripId userId => exact wp_declineTrip env.dispatch tripId userId
  | wsDecline tripId driverId => exact wp_handleDriverDeclineAndRetry env.dispatch tripId driverId
  | timeout job => exact wp_timeout env.dispatch job
  | recovery quiet => exact wp_run env.dispatch quiet
  | sweep => exact wp_of_plain (plain_of_routine routine_sweepStaleAssigned)
  | getPendingRequest userId => exact Protocol.wp_as (wp_getPendingRequestForDriver userId)
  | wait ms => exact wp_of_plain (Async.only_perform.mpr rfl)

theorem handlersKeep : (protocol env fault).HandlersKeep fun _ _ _ => True := by
  intro c k h hk j n w _ _ hguar hj hfresh
  cases c with
  | emit event =>
    cases event with
    | tripCreated tripId pickup serviceType vehicleTypeId =>
      obtain rfl : _ = h := (List.mem_singleton.mp (List.mem_of_getElem? hk)).symm
      have hopened : Opened tripId (w.step (system env ()) j
          (.emit (.tripCreated tripId pickup serviceType vehicleTypeId)) n) :=
        (hguar.creates _ _ _ _ rfl).step
      have hoffers : (handleTripCreated env.dispatch tripId pickup serviceType vehicleTypeId).Only
          (OffersAmong [tripId]) :=
        offers_of_redispatches (onlyRedispatches_attemptDispatch env.dispatch _ _ _ _) List.mem_cons_self
      refine Protocol.wp_as (wp_of_offers hoffers fun id hid => ?_)
      obtain rfl := List.mem_singleton.mp hid
      -- the handler has not started on anything
      refine hopened.imp_right fun hclosed => ?_
      rw [World.ClosedSince, World.since_of_lastRead_none (Protocol.lastRead_started hj hfresh _)]
      exact hclosed
    | tripCompleted tripId driverId clientId finalPrice =>
      obtain rfl : _ = h := (List.mem_singleton.mp (List.mem_of_getElem? hk)).symm
      exact Protocol.wp_as (wp_of_plain (plain_of_routine (routine_handleTripCompleted tripId)))
    | driverAssigned tripId driverId =>
      obtain rfl : _ = h := (List.mem_singleton.mp (List.mem_of_getElem? hk)).symm
      exact Protocol.wp_as (wp_of_plain (plain_of_routine
        (routine_handleDriverAssigned env.geo tripId driverId)))
    | dispatchFailed tripId reason =>
      obtain rfl : _ = h := (List.mem_singleton.mp (List.mem_of_getElem? hk)).symm
      exact Protocol.wp_as (wp_of_plain (plain_of_routine
        (routine_handleDispatchFailed tripId reason)))
    | _ => simp [handlers, eventHandlers] at hk
  | _ => simp [handlers] at hk

end Threads

end OpenOffers

open OpenOffers in
/-- When no trip is closed between the moment a call starts on it and its offers, every trip is
pending when a driver's attempt is notified, or `trip:new_request` sent. -/
theorem offers_pending (env : Env) (pricing : PricingEnv) (s : Store) (ops : List Operation)
    (fault : Error → Prop) {p : Pool Store Cmd Error Unit}
    (hp : Pool.Run (system env ()) Unclosed fault
      (Pool.init s (ops.map (·.program env pricing))) p) :
    ∀ e ∈ p.world.trace, ∀ c tripId, e.kind = .did c → c.offered? = some tripId →
      e.before.tripStatus tripId = some .pending := by
  have hstart : (protocol env fault).Safe (fun _ _ _ => True)
      (Pool.init s (ops.map (·.program env pricing))) := by
    refine Protocol.safe_init (fun e he => absurd he List.not_mem_nil) fun i t ht => ?_
    obtain ⟨op, -, rfl⟩ := List.mem_map.mp (List.mem_of_getElem? ht)
    exact wp_program pricing op
  exact (hstart.run (fun i _ => Protocol.stable_const i True) handlersKeep hp).inv

/-! ### Runs -/

instance (w : World Store Cmd) (i tripId : ℕ) : Decidable (w.ClosedSince i tripId) :=
  inferInstanceAs (Decidable (∃ e ∈ _, _))

instance (i : ℕ) (w : World Store Cmd) (c : Cmd) : Decidable (Unclosed i w c) :=
  decidable_of_iff (∀ tripId ∈ c.offered?, ¬ w.ClosedSince i tripId) Iff.rfl

namespace OpenOffers

/-- The trip an entry of the history offers. -/
def offered? : EventKind Cmd → Option ℕ
  | .did c => c.offered?
  | .spawned _ => none

theorem exists_of_offered? {kind : EventKind Cmd} {tripId : ℕ} (h : offered? kind = some tripId) :
    ∃ c, kind = .did c ∧ c.offered? = some tripId := by
  cases kind with
  | did c => exact ⟨c, rfl, h⟩
  | spawned c => cases h

/-- A client orders a trip, and driver 1 (user 11) accepts it. -/
def orderAndAccept : List Operation :=
  [.order 1 2, .updateStatus 1 11 .driver { status := .accepted }]

end OpenOffers

open OpenOffers in
/-- The first search offers the trip to driver 1. -/
theorem offers_pending_order :
    ∃ p : Pool Store Cmd Error Unit, ∃ e ∈ p.world.trace, ∃ c, e.kind = .did c ∧
      c.offered? = some 1 ∧ e.before.tripStatus 1 = some .pending := by
  obtain ⟨p, hp, e, he, hkind⟩ := Pool.exists_run_of_schedule? (system .town ()) Unclosed
    (fun _ => False) (Pool.init .town (orderAndAccept.map (·.program .town .town)))
    (List.replicate 6 0 ++ List.replicate 9 2)
    (fun p => ∃ e ∈ p.world.trace, offered? e.kind = some 1) (by decide +kernel)
  obtain ⟨c, hdid, hoffers⟩ := exists_of_offered? hkind
  exact ⟨p, e, he, c, hdid, hoffers,
    offers_pending .town .town .town orderAndAccept _ hp e he c 1 hdid hoffers⟩

open OpenOffers in
/-- Driver 1 accepts the trip before the search notifies driver 2. -/
theorem offers_accepted :
    ∃ p, Pool.Run (system .town ()) (fun _ _ _ => True) (fun _ => False)
      (Pool.init .town (orderAndAccept.map (·.program .town .town))) p ∧
      ¬ ∀ e ∈ p.world.trace, ∀ c tripId, e.kind = .did c → c.offered? = some tripId →
        e.before.tripStatus tripId = some .pending := by
  obtain ⟨p, hp, e, he, hkind, hstatus⟩ := Pool.exists_run_of_schedule? (system .town ())
    (fun _ _ _ => True) (fun _ => False)
    (Pool.init .town (orderAndAccept.map (·.program .town .town)))
    (List.replicate 6 0 ++ List.replicate 13 2 ++ List.replicate 16 1 ++ List.replicate 2 2)
    (fun p => ∃ e ∈ p.world.trace, offered? e.kind = some 1 ∧
      e.before.tripStatus 1 ≠ some .pending) (by decide +kernel)
  obtain ⟨c, hdid, hoffers⟩ := exists_of_offered? hkind
  exact ⟨p, hp, fun h => hstatus (h e he c 1 hdid hoffers)⟩

end Telima
