import Telima.Dispatch.OfferState
import Telima.Operations.Server
import Telima.Trips.Rejections

/-!
# Giving up a search

A decline or a timeout counts the drivers who still consider the trip, and when it finds none it
searches again or gives up.  Another decline may have counted none at the same time, and notify a
driver in between; the search that finds him locked then gives up on him.  When no other call notifies
a driver between a call's count and its giving up, nobody considers the trip when its search is given
up (`givenUp_unconsidered`).
-/

namespace Telima

open TripsService DispatchService

/-- An answer of a driver, the end of his time to answer, or the passing of time. -/
inductive AnswerCall where
  | declineTrip (tripId userId : ℕ)
  | wsDecline (tripId driverId : ℕ)
  | timeout (job : TimeoutJob)
  | wait (ms : ℕ)

def AnswerCall.operation : AnswerCall → Operation
  | declineTrip tripId userId => .declineTrip tripId userId
  | wsDecline tripId driverId => .wsDecline tripId driverId
  | timeout job => .timeout job
  | wait ms => .wait ms

def AnswerCall.program (env : Env) (pricing : PricingEnv) (call : AnswerCall) : Prog Unit :=
  call.operation.program env pricing

/-- The command lets a driver consider the trip. -/
def Cmd.notifies (tripId : ℕ) : Cmd → Bool
  | .upsertAttempt id _ | .rearmAttempt id _ => decide (id = tripId)
  | _ => false

/-- The command counts the drivers who consider the trip. -/
def Cmd.countsAttempts (tripId : ℕ) : Cmd → Bool
  | .findAttempts id => decide (id = tripId)
  | _ => false

/-- Since thread `i` has counted, another thread has notified a driver. -/
def World.Overtaken (w : World Store Cmd) (i tripId : ℕ) : Prop :=
  ∃ e ∈ w.since i (Cmd.countsAttempts tripId), e.tid ≠ i ∧ e.kind.performs (Cmd.notifies tripId) = true

/-- A thread that gives up a search has not been overtaken. -/
def Alone (i : ℕ) (w : World Store Cmd) : Cmd → Prop
  | .emit (.dispatchFailed tripId _) => ¬ w.Overtaken i tripId
  | _ => True

/-- Nobody considers the trip. -/
def Store.Unconsidered (s : Store) (tripId : ℕ) : Prop := ∀ driverId, ¬ s.offers.Notified tripId driverId

namespace GivingUp

/-- The command emits no event but `DriverNotified`. -/
def isStep : Cmd → Bool
  | .emit (.driverNotified _ _ _ _) => true
  | .emit _ => false
  | _ => true

theorem unconsidered_exec {c : Cmd} {s : Store} {tripId : ℕ} (hc : c.notifies tripId = false)
    (h : s.Unconsidered tripId) : (c.exec s).Unconsidered tripId := by
  intro driverId hnotified
  refine h driverId ?_
  have hstatus : (c.exec s).attemptStatus tripId driverId = some .driverNotified := hnotified
  show s.attemptStatus tripId driverId = some .driverNotified
  cases c with
  | upsertAttempt t d =>
    have hne : tripId ≠ t := fun heq => of_decide_eq_false hc heq.symm
    rw [Cmd.attemptStatus_upsertAttempt, if_neg fun hsame => hne hsame.1] at hstatus
    exact hstatus
  | rearmAttempt t d =>
    have hne : (tripId, driverId) ≠ (t, d) := fun heq =>
      of_decide_eq_false hc (Prod.mk.inj heq).1.symm
    rw [Store.attemptStatus, Cmd.exec, Table.find?_update_of_ne hne] at hstatus
    exact hstatus
  | respondAttempts t d answer =>
    have hoffers : ((Cmd.respondAttempts t d answer).exec s).attemptStatus tripId driverId =
        (s.offers.respond t d answer).status tripId driverId := by
      rw [← Cmd.offers_respondAttempts]
      rfl
    rw [hoffers, Offers.respond] at hstatus
    dsimp only at hstatus
    split_ifs at hstatus with hsel
    · exact hsel.2.2
    · exact hstatus
  | _ => exact hstatus

/-- Nobody considers the trip, or thread `i` has been overtaken. -/
def Clear (i tripId : ℕ) (w : World Store Cmd) : Prop :=
  w.store.Unconsidered tripId ∨ w.Overtaken i tripId

section Threads

variable {env : Env} {fault : Error → Prop} {i tripId : ℕ} {w : World Store Cmd}

theorem Clear.step {j n : ℕ} {c : Cmd} (h : Clear i tripId w)
    (hc : j ≠ i ∨ (c.notifies tripId = false ∧ c.countsAttempts tripId = false)) :
    Clear i tripId (w.step (system env ()) j c n) := by
  have hsince : ⟨j, .did c, w.store⟩ :: w.since i (Cmd.countsAttempts tripId) <:+
      (w.step (system env ()) j c n).since i (Cmd.countsAttempts tripId) :=
    World.since_step_suffix (hc.imp_right And.right)
  rcases h with hnobody | ⟨e, he, hother⟩
  · cases hnotifies : c.notifies tripId with
    | false =>
      refine .inl ?_
      rw [World.store_step]
      exact unconsidered_exec hnotifies hnobody
    | true =>
      have hne : j ≠ i := hc.resolve_right fun hquiet => by
        rw [hquiet.1] at hnotifies
        cases hnotifies
      exact .inr ⟨_, hsince.subset List.mem_cons_self, hne, hnotifies⟩
  · exact .inr ⟨e, hsince.subset (List.mem_cons_of_mem _ he), hother⟩

/-- What a thread promises when it emits an event. -/
def Guards (w : World Store Cmd) (c : Cmd) : Prop :=
  isStep c = true ∨ ∃ tripId reason, c = .emit (.dispatchFailed tripId reason) ∧
    w.store.Unconsidered tripId

/-- Nobody considers a trip whose search is given up. -/
def protocol (env : Env) (fault : Error → Prop) : Protocol (system env ()) where
  cond := Alone
  fault := fault
  inv w := ∀ e ∈ w.trace, ∀ tripId reason, e.kind = .did (.emit (.dispatchFailed tripId reason)) →
    e.before.Unconsidered tripId
  guar _ := Guards
  inv_step := by
    intro w i c n hinv _ hguar _ _ e he tripId reason hkind
    rcases World.mem_trace_step he with ⟨d, hspawned⟩ | rfl | he
    · rw [hspawned] at hkind
      cases hkind
    · obtain rfl := EventKind.did.inj hkind
      rcases hguar with hstep | ⟨_, _, heq, hnobody⟩
      · cases hstep
      · cases heq
        exact hnobody
    · exact hinv e he tripId reason hkind

theorem frame_true : (protocol env fault).Frame i (isStep · = true) fun _ => True where
  stable := Protocol.stable_const i True
  performs hc _ _ _ := ⟨.inl hc, fun _ _ _ => trivial⟩

/-- No driver is notified, and none is counted. -/
def isIdle (tripId : ℕ) (c : Cmd) : Bool :=
  isStep c && !c.notifies tripId && !c.countsAttempts tripId

theorem frame_clear : (protocol env fault).Frame i (isIdle tripId · = true) (Clear i tripId) where
  stable := by
    rintro w _ ⟨j, c, n, hj, -, -, -, -, -, -, rfl⟩ h
    exact h.step (.inl hj)
  performs := by
    intro c w hc hw _ _
    simp only [isIdle, Bool.and_eq_true, Bool.not_eq_true'] at hc
    exact ⟨.inl hc.1.1, fun n _ _ => hw.step (.inr ⟨hc.1.2, hc.2⟩)⟩

theorem wp_of_steps {α : Type} {p : Prog α} (hp : p.Only (isStep · = true)) :
    (protocol env fault).wp i p (fun _ _ => True) w :=
  frame_true.wp hp trivial

/-- Giving up when nobody considers the trip. -/
theorem wp_emitDispatchFailed (reason : String) (hw : Clear i tripId w) :
    (protocol env fault).wp i (emitDispatchFailed tripId reason) (fun _ _ => True) w := by
  unfold emitDispatchFailed
  refine frame_clear.wp_bind (Async.only_emit.mpr rfl) hw (fun _ w hw => ?_) fun _ _ _ => trivial
  intro v hv hinv hcond
  have hclear : Clear i tripId v := frame_clear.stable.interferes hv hw
  exact ⟨.inr ⟨tripId, reason, rfl, hclear.resolve_right hcond⟩, fun _ _ _ => trivial⟩

/-! ### The search -/

theorem isStep_of_withdrawsJob {c : Cmd} (h : c.withdrawsJob = true) : isStep c = true := by
  cases c <;> first | rfl | cases h

theorem steps_notifyCandidate (config : ServiceDispatchConfig) (tripId : ℕ)
    (pickup : Point) (serviceType : ServiceType) (trip : Option (Trip × Option VehicleType)) (dropoff : Option Point)
    (driver : NearbyDriver) :
    (notifyCandidate config tripId pickup serviceType trip dropoff driver).Only
      (isStep · = true) := by
  refine Async.only_query_bind.mpr ⟨rfl, fun s => ?_⟩
  split_ifs
  · refine Async.only_perform_bind.mpr ⟨rfl, fun _ => ?_⟩
    refine Async.only_emit_bind.mpr ⟨rfl, fun _ => ?_⟩
    refine ((withdrawsJob_cancelTimeoutJob tripId driver.driverId).mono fun _ hc =>
      isStep_of_withdrawsJob hc).bind fun _ => ?_
    refine Async.only_query_bind.mpr ⟨rfl, fun s => ?_⟩
    refine Async.only_perform_bind.mpr ⟨rfl, fun _ => ?_⟩
    exact Async.only_emit_bind.mpr ⟨rfl, fun _ => trivial⟩
  · trivial

theorem steps_notifyCandidates (config : ServiceDispatchConfig) (tripId : ℕ)
    (pickup : Point) (serviceType : ServiceType) (trip : Option (Trip × Option VehicleType)) (dropoff : Option Point)
    (drivers : List NearbyDriver) :
    (notifyCandidates config tripId pickup serviceType trip dropoff drivers).Only
      (isStep · = true) := by
  induction drivers with
  | nil => trivial
  | cons driver rest ih =>
    exact (steps_notifyCandidate config tripId pickup serviceType trip dropoff driver).bind fun _ =>
      ih.bind fun _ => trivial

/-- A candidate who is not free has not been notified. -/
theorem wp_notifyCandidate (config : ServiceDispatchConfig) (pickup : Point)
    (serviceType : ServiceType) (trip : Option (Trip × Option VehicleType)) (dropoff : Option Point)
    (driver : NearbyDriver) (hw : Clear i tripId w) :
    (protocol env fault).wp i
      (notifyCandidate config tripId pickup serviceType trip dropoff driver)
      (fun r w => r = .ok false → Clear i tripId w) w := by
  have hsteps := (Async.only_query_bind.mp
    (steps_notifyCandidate config tripId pickup serviceType trip dropoff driver)).2
  refine Protocol.wp_query_bind frame_clear.stable hw (fun v hv hinv hcond => ?_)
    fun _ _ _ _ _ h => nomatch h
  have hidle : isIdle tripId (.redisSetNx (.dispatchLock driver.driverId) (.trip tripId)
      config.lockTtlSeconds) = true := rfl
  obtain ⟨hguar, hstep⟩ := frame_clear.performs hidle hv hinv hcond
  refine ⟨hguar, fun n hn hfresh => ?_⟩
  have hrest := hsteps v.store
  split_ifs at hrest ⊢
  · refine Protocol.wp_mono (fun r w hw hr => ?_)
      (frame_true.wp_yields (Φ := (· = true)) hrest ?_ trivial)
    · have hfalse : false = true := hw.2 false hr
      cases hfalse
    · refine Async.Yields.bind _ fun _ => Async.Yields.bind _ fun _ => ?_
      refine Async.Yields.bind _ fun _ => Async.Yields.bind _ fun _ => ?_
      exact Async.Yields.bind _ fun _ => Async.Yields.bind _ fun _ => rfl
  · exact fun _ => hstep n hn hfresh

/-- When no candidate was notified, nobody considers the trip. -/
theorem wp_notifyCandidates (config : ServiceDispatchConfig) (pickup : Point)
    (serviceType : ServiceType) (trip : Option (Trip × Option VehicleType)) (dropoff : Option Point)
    (drivers : List NearbyDriver) (hw : Clear i tripId w) :
    (protocol env fault).wp i
      (notifyCandidates config tripId pickup serviceType trip dropoff drivers)
      (fun r w => r = .ok 0 → Clear i tripId w) w := by
  induction drivers generalizing w with
  | nil => exact fun _ => hw
  | cons driver rest ih =>
    apply Protocol.wp_bind
    refine Protocol.wp_mono (fun r w hw => ?_)
      (wp_notifyCandidate config pickup serviceType trip dropoff driver hw)
    match r with
    | .error e => exact fun h => nomatch h
    | .ok true =>
      -- one driver was notified
      have hsteps : ((notifyCandidates config tripId pickup serviceType trip dropoff rest).bind
          fun others => (pure (others + 1) : Prog ℕ)).Only (isStep · = true) :=
        (steps_notifyCandidates config tripId pickup serviceType trip dropoff rest).bind fun _ =>
          trivial
      have hyields : ((notifyCandidates config tripId pickup serviceType trip dropoff rest).bind
          fun others => (pure (others + 1) : Prog ℕ)).Yields (· ≠ 0) :=
        Async.Yields.bind _ fun others => Nat.succ_ne_zero others
      refine Protocol.wp_mono (fun r w hw hr => ?_) (frame_true.wp_yields hsteps hyields trivial)
      exact absurd rfl (hw.2 0 hr)
    | .ok false =>
      show (protocol env fault).wp i
        ((notifyCandidates config tripId pickup serviceType trip dropoff rest).bind
          fun others => (pure (others + 0) : Prog ℕ)) _ w
      apply Protocol.wp_bind
      refine Protocol.wp_mono (fun r w hw => ?_) (ih (hw rfl))
      match r with
      | .error e => exact fun h => nomatch h
      | .ok others =>
        intro hnone
        have hothers : others + 0 = 0 := Except.ok.inj hnone
        exact hw (congrArg Except.ok hothers)

theorem wp_attemptDispatch (env' : DispatchEnv) (pickup : Point) (serviceType : ServiceType)
    (vehicleTypeId : Option ℕ) (hw : Clear i tripId w) :
    (protocol env fault).wp i (attemptDispatch env' tripId pickup serviceType vehicleTypeId)
      (fun _ _ => True) w := by
  refine frame_clear.wp_bind (Async.only_perform.mpr rfl) hw (fun _ w hw => ?_) fun _ _ _ => trivial
  refine frame_clear.wp_bind (Async.only_perform.mpr rfl) hw (fun _ w hw => ?_) fun _ _ _ => trivial
  refine frame_clear.wp_bind (Async.only_query.mpr rfl) hw (fun config w hw => ?_)
    fun _ _ _ => trivial
  refine frame_clear.wp_bind (Async.only_query.mpr rfl) hw (fun candidates w hw => ?_)
    fun _ _ _ => trivial
  split_ifs
  · exact wp_emitDispatchFailed _ hw
  refine frame_clear.wp_bind (Async.only_query.mpr rfl) hw (fun trip w hw => ?_)
    fun _ _ _ => trivial
  split_ifs
  · trivial
  have hdropoff : (findDropoff tripId).Only (isIdle tripId · = true) :=
    Async.Only.tryCatch (Async.only_query.mpr rfl) fun _ => trivial
  refine frame_clear.wp_bind hdropoff hw (fun dropoff w hw => ?_) fun _ _ _ => trivial
  apply Protocol.wp_bind
  refine Protocol.wp_mono (fun r w hw => ?_)
    (wp_notifyCandidates config pickup serviceType trip dropoff _ hw)
  match r with
  | .error e => trivial
  | .ok notified =>
    show (protocol env fault).wp i (if notified = 0 then emitDispatchFailed tripId "all_drivers_busy"
      else pure ()) (fun _ _ => True) w
    split_ifs with hnone
    · exact wp_emitDispatchFailed _ (hw (congrArg Except.ok hnone))
    · trivial

/-- The count is the look after which the search goes on. -/
theorem wp_checkAndRetryDispatch (env' : DispatchEnv) (tripId : ℕ) :
    (protocol env fault).wp i (checkAndRetryDispatch env' tripId) (fun _ _ => True) w := by
  refine frame_true.wp_bind (Async.only_query.mpr rfl) trivial (fun trip w _ => ?_)
    fun _ _ _ => trivial
  split
  · trivial
  next trip _ =>
    refine Protocol.wp_query_bind frame_true.stable trivial (fun v _ _ _ => ?_)
      fun _ _ _ _ _ => trivial
    refine ⟨.inl rfl, fun n _ _ => ?_⟩
    split_ifs with hnobody
    · have hclear : Clear i tripId (v.step (system env ()) i (.findAttempts tripId) n) := by
        refine .inl ?_
        rw [World.store_step]
        exact findNotifiedDrivers_eq_nil_iff.mp hnobody
      refine frame_clear.wp_bind (Async.only_query.mpr rfl) hclear (fun rounds w hw => ?_)
        fun _ _ _ => trivial
      refine frame_clear.wp_bind (Async.only_query.mpr rfl) hw (fun config w hw => ?_)
        fun _ _ _ => trivial
      split_ifs
      · exact wp_emitDispatchFailed _ hw
      · refine frame_clear.wp_bind (Async.only_query.mpr rfl) hw (fun pickup w hw => ?_)
          fun _ _ _ => trivial
        exact wp_attemptDispatch env' _ _ _ hw
    · trivial

/-! ### The calls -/

theorem isStep_of_isQuery {c : Cmd} (h : c.isQuery = true) : isStep c = true := by
  cases c <;> first | rfl | cases h

theorem wp_handleDriverDeclineAndRetry (env' : DispatchEnv) (tripId driverId : ℕ) :
    (protocol env fault).wp i (handleDriverDeclineAndRetry env' tripId driverId)
      (fun _ _ => True) w := by
  have hdecline : (handleDriverDecline tripId driverId).Only (isStep · = true) := by
    refine Async.only_perform_bind.mpr ⟨rfl, fun _ => Async.only_perform_bind.mpr ⟨rfl, fun _ => ?_⟩⟩
    exact (withdrawsJob_cancelTimeoutJob tripId driverId).mono fun _ hc => isStep_of_withdrawsJob hc
  exact frame_true.wp_bind hdecline trivial (fun _ _ _ => wp_checkAndRetryDispatch env' tripId)
    fun _ _ _ => trivial

theorem wp_declineTrip (env' : DispatchEnv) (tripId userId : ℕ) :
    (protocol env fault).wp i (TripsService.declineTrip env' tripId userId) (fun _ _ => True) w := by
  refine frame_true.wp_bind ((isQuery_getTrip tripId).mono fun _ hc => isStep_of_isQuery hc) trivial
    (fun _ w _ => ?_) fun _ _ _ => trivial
  refine frame_true.wp_bind (Async.only_query.mpr rfl) trivial (fun driver w _ => ?_)
    fun _ _ _ => trivial
  cases driver with
  | none => trivial
  | some driverId =>
    refine frame_true.wp_bind (Async.only_query.mpr rfl) trivial (fun active w _ => ?_)
      fun _ _ _ => trivial
    split_ifs
    · exact wp_handleDriverDeclineAndRetry env' tripId driverId
    · trivial

theorem wp_timeout (env' : DispatchEnv) (job : TimeoutJob) :
    (protocol env fault).wp i ((Async.perform (.removeJob job.id)).bind fun _ =>
      handleDriverTimeout env' job.tripId job.driverId) (fun _ _ => True) w := by
  refine frame_true.wp_bind (Async.only_perform.mpr rfl) trivial (fun _ w _ => ?_)
    fun _ _ _ => trivial
  refine frame_true.wp_bind (Async.only_perform.mpr rfl) trivial (fun _ w _ => ?_)
    fun _ _ _ => trivial
  refine frame_true.wp_bind (Async.only_perform.mpr rfl) trivial (fun _ w _ => ?_)
    fun _ _ _ => trivial
  exact frame_true.wp_bind (Async.only_perform.mpr rfl) trivial
    (fun _ _ _ => wp_checkAndRetryDispatch env' job.tripId) fun _ _ _ => trivial

theorem wp_program (pricing : PricingEnv) (call : AnswerCall) :
    (protocol env fault).wp i (call.program env pricing) (fun _ _ => True) w := by
  cases call with
  | declineTrip tripId userId => exact wp_declineTrip env.dispatch tripId userId
  | wsDecline tripId driverId => exact wp_handleDriverDeclineAndRetry env.dispatch tripId driverId
  | timeout job => exact wp_timeout env.dispatch job
  | wait ms => exact wp_of_steps (Async.only_perform.mpr rfl)

theorem handlersKeep : (protocol env fault).HandlersKeep fun _ _ _ => True := by
  intro c k h hk j n w _ _ hguar _ _
  rcases hguar with hstep | ⟨tripId, reason, rfl, -⟩
  · cases c with
    | emit event =>
      cases event with
      | driverNotified _ _ _ _ => simp [handlers, eventHandlers] at hk
      | _ => cases hstep
    | _ => simp [handlers] at hk
  · obtain rfl : _ = h := (List.mem_singleton.mp (List.mem_of_getElem? hk)).symm
    refine Protocol.wp_as (wp_of_steps ?_)
    refine Async.Only.bind ?_ fun _ => ?_
    · exact Async.only_read_bind.mpr ⟨rfl, fun _ => Async.only_perform.mpr rfl⟩
    · refine ((isQuery_findById tripId).mono fun _ hc => isStep_of_isQuery hc).bind fun trip => ?_
      split
      · exact Async.only_emit.mpr rfl
      · trivial

end Threads

end GivingUp

open GivingUp in
/-- When no call notifies a driver between another's count and its giving up, no driver considers a
trip whose search is given up. -/
theorem givenUp_unconsidered (env : Env) (pricing : PricingEnv) (s : Store)
    (calls : List AnswerCall) (fault : Error → Prop) {p : Pool Store Cmd Error Unit}
    (hp : Pool.Run (system env ()) Alone fault
      (Pool.init s (calls.map (·.program env pricing))) p) :
    ∀ e ∈ p.world.trace, ∀ tripId reason, e.kind = .did (.emit (.dispatchFailed tripId reason)) →
      e.before.Unconsidered tripId := by
  have hstart : (protocol env fault).Safe (fun _ _ _ => True)
      (Pool.init s (calls.map (·.program env pricing))) := by
    refine Protocol.safe_init (fun e he => absurd he List.not_mem_nil) fun i t ht => ?_
    obtain ⟨call, -, rfl⟩ := List.mem_map.mp (List.mem_of_getElem? ht)
    exact wp_program pricing call
  exact (hstart.run (fun i _ => Protocol.stable_const i True) handlersKeep hp).inv

/-! ### Runs -/

instance (w : World Store Cmd) (i tripId : ℕ) : Decidable (w.Overtaken i tripId) :=
  inferInstanceAs (Decidable (∃ e ∈ _, _))

instance (i : ℕ) (w : World Store Cmd) (c : Cmd) : Decidable (Alone i w c) := by
  unfold Alone
  split <;> infer_instance

namespace GivingUp

/-- Drivers 1 and 2 of the town consider trip 1. -/
def considered : Store :=
  ((Config.execute? .town .town (fun _ _ => True) (fun _ _ => True) [.order 1 2]
    ⟨.town, [], []⟩).map Config.store).getD .town

/-- Both refuse it. -/
def refusals : List AnswerCall := [.wsDecline 1 1, .wsDecline 1 2]

end GivingUp

open GivingUp in
/-- Nobody else is near: the second refusal ends the search. -/
theorem givenUp_unconsidered_refusals :
    ∃ p : Pool Store Cmd Error Unit, ∃ e ∈ p.world.trace,
      e.kind = .did (.emit (.dispatchFailed 1 "no_drivers_available")) ∧
        e.before.Unconsidered 1 := by
  obtain ⟨p, hp, e, he, hkind⟩ := Pool.exists_run_of_schedule? (system .offline ()) Alone
    (fun _ => False) (Pool.init considered (refusals.map (·.program .offline .town)))
    (List.replicate 8 0 ++ List.replicate 17 1)
    (fun p => ∃ e ∈ p.world.trace,
      e.kind.event? = some (.dispatchFailed 1 "no_drivers_available")) (by decide +kernel)
  rw [EventKind.event?_eq_some_iff] at hkind
  exact ⟨p, e, he, hkind, givenUp_unconsidered .offline .town considered refusals _ hp e he 1 _ hkind⟩

open GivingUp in
/-- The two refusals search at the same time.  One of them notifies both drivers again, and the other
gives up. -/
theorem givenUp_considered :
    ∃ p, Pool.Run (system .town ()) (fun _ _ _ => True) (fun _ => False)
      (Pool.init considered (refusals.map (·.program .town .town))) p ∧
      ¬ ∀ e ∈ p.world.trace, ∀ tripId reason,
        e.kind = .did (.emit (.dispatchFailed tripId reason)) → e.before.Unconsidered tripId := by
  obtain ⟨p, hp, e, he, hkind, hstatus⟩ := Pool.exists_run_of_schedule? (system .town ())
    (fun _ _ _ => True) (fun _ => False)
    (Pool.init considered (refusals.map (·.program .town .town)))
    (List.replicate 7 0 ++ List.replicate 7 1 ++ [0, 1] ++ List.replicate 23 0 ++
      List.replicate 13 1)
    (fun p => ∃ e ∈ p.world.trace, e.kind.event? = some (.dispatchFailed 1 "all_drivers_busy") ∧
      e.before.attemptStatus 1 1 = some .driverNotified) (by decide +kernel)
  rw [EventKind.event?_eq_some_iff] at hkind
  exact ⟨p, hp, fun h => h e he 1 _ hkind 1 hstatus⟩

end Telima
