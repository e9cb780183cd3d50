import Telima.Async.Sequential
import Telima.System

/-!
# The server, one operation after another

An `Operation` is a request, a message of a driver's app, a timeout job of the queue, a pass of the
recovery service or the passing of time.  In a `Config` the events that were emitted wait in `todo`;
a `Step` runs an operation to its end when no event waits, or the handlers of the next event.
`Run` restricts the operations by `admits`, on the configuration they start in, and the single
commands by `cond`.
-/

namespace Telima

open TripsService DispatchService

/-- A store, the events to be handled, and the commands that were performed, newest first. -/
structure Config where
  store : Store
  todo : List DomainEvent := []
  log : List Cmd := []

def Config.perform (c : Cmd) (k : Config) : Config :=
  ⟨c.exec k.store, k.todo ++ c.event?.toList, c :: k.log⟩

/-- The machine the programs of the server run on. -/
def server : Machine Store Cmd Config where
  store := Config.store
  perform := Config.perform

@[simp] theorem server_store (k : Config) : server.store k = k.store := rfl

@[simp] theorem server_perform (c : Cmd) (k : Config) : server.perform c k = k.perform c := rfl

@[simp] theorem Config.store_perform (c : Cmd) (k : Config) :
    (k.perform c).store = c.exec k.store := rfl

@[simp] theorem Config.todo_perform (c : Cmd) (k : Config) :
    (k.perform c).todo = k.todo ++ c.event?.toList := rfl

@[simp] theorem Config.log_perform (c : Cmd) (k : Config) : (k.perform c).log = c :: k.log := rfl

/-- `acceptTrip` is `updateStatus` with the target `accepted`. -/
inductive Operation where
  | createTrip (clientId : ℕ) (dto : CreateTripDto)
  | updateStatus (tripId userId : ℕ) (role : UserRole) (dto : UpdateTripStatusDto)
  | completeTrip (tripId userId : ℕ) (role : UserRole) (dto : PaymentReceivedDto)
  | wsAccept (tripId userId : ℕ)
  | declineTrip (tripId userId : ℕ)
  | wsDecline (tripId driverId : ℕ)
  | timeout (job : TimeoutJob)
  | recovery (quiet : Bool)
  | sweep
  | getPendingRequest (userId : ℕ)
  | wait (ms : ℕ)

namespace Operation

variable (env : Env) (pricing : PricingEnv)

def program : Operation → Prog Unit
  | createTrip clientId dto => (TripsService.createTrip pricing clientId dto).as ()
  | updateStatus tripId userId role dto => (TripsService.updateStatus tripId userId role dto).as ()
  | completeTrip tripId userId role dto => (TripsService.completeTrip tripId userId role dto).as ()
  | wsAccept tripId userId => handleWsDriverAcceptRequested tripId userId
  | declineTrip tripId userId => TripsService.declineTrip env.dispatch tripId userId
  | wsDecline tripId driverId => handleDriverDeclineAndRetry env.dispatch tripId driverId
  | timeout job => do
    -- the worker takes the job out of the queue
    Async.perform (.removeJob job.id)
    handleDriverTimeout env.dispatch job.tripId job.driverId
  | recovery quiet => DispatchRecoveryService.run env.dispatch quiet
  | sweep => DispatchRecoveryService.sweepStaleAssigned
  | getPendingRequest userId => (getPendingRequestForDriver userId).as ()
  | wait ms => Async.perform (.tick ms)

/-- The operation can start: a timeout job is queued and due. -/
def Ready (s : Store) : Operation → Prop
  | timeout job => job ∈ s.jobs ∧ job.runAt ≤ s.now
  | _ => True

/-- Time passes. -/
def isWait : Operation → Bool
  | wait _ => true
  | _ => false

instance (s : Store) (op : Operation) : Decidable (op.Ready s) := by
  cases op <;> unfold Ready <;> infer_instance

end Operation

/-- The handlers of an event, one after another. -/
def handleEvent (env : Env) (event : DomainEvent) : Prog Unit :=
  Async.forEach (fun handler => Async.tryCatch handler fun _ => pure ()) (eventHandlers env event)

namespace Config

variable (env : Env) (pricing : PricingEnv) (admits : Config → Operation → Prop)
  (cond : Config → Cmd → Prop)

/-- An operation runs to its end, or the handlers of an event do. -/
inductive Step : Config → Config → Prop
  | operate {k : Config} {op : Operation} (hidle : k.todo = []) (hready : op.Ready k.store)
      (hadmits : admits k op) (hobeys : (op.program env pricing).Obeys server cond k) :
      Step k ((op.program env pricing).play server k).2
  | handle {k : Config} {event : DomainEvent} {todo : List DomainEvent}
      (htodo : k.todo = event :: todo)
      (hobeys : (handleEvent env event).Obeys server cond { k with todo }) :
      Step k ((handleEvent env event).play server { k with todo }).2

/-- Any number of steps. -/
def Run : Config → Config → Prop := Relation.ReflTransGen (Step env pricing admits cond)

variable {env pricing admits cond}

/-- An invariant of the operations and the handlers holds along a run. -/
theorem Run.invariant {I : Config → Prop}
    (hop : ∀ k op, k.todo = [] → op.Ready k.store → admits k op → I k →
      (op.program env pricing).wlp server cond (fun _ => I) k)
    (hhandle : ∀ k event todo, k.todo = event :: todo → I k →
      (handleEvent env event).wlp server cond (fun _ => I) { k with todo })
    {k k' : Config} (h : Run env pricing admits cond k k') (hk : I k) : I k' := by
  induction h with
  | refl => exact hk
  | tail _ hstep ih =>
    cases hstep with
    | @operate op hidle hready hadmits hobeys =>
      exact Async.wlp_iff.mp (hop _ op hidle hready hadmits ih) hobeys
    | @handle event todo htodo hobeys =>
      exact Async.wlp_iff.mp (hhandle _ event todo htodo ih) hobeys

/-- The invariant of a restricted run may use another that is already known. -/
theorem Run.mono {admits' : Config → Operation → Prop} {cond' : Config → Cmd → Prop}
    {k k' : Config} (h : Run env pricing admits cond k k')
    (hadmits : ∀ k op, admits k op → admits' k op)
    (hcond : ∀ k c, cond k c → cond' k c) : Run env pricing admits' cond' k k' := by
  have hobeys : ∀ {p : Prog Unit} {k : Config}, p.Obeys server cond k → p.Obeys server cond' k := by
    intro p
    induction p with
    | done r => exact fun _ => trivial
    | await c next _ ih _ => exact fun h => ⟨hcond _ c h.1, ih _ h.2⟩
    | sync c next ih => exact fun h => ⟨hcond _ c h.1, ih _ h.2⟩
  induction h with
  | refl => exact .refl
  | tail _ hstep ih =>
    refine ih.tail ?_
    cases hstep with
    | operate hidle hready hop hrun => exact .operate hidle hready (hadmits _ _ hop) (hobeys hrun)
    | handle htodo hrun => exact .handle htodo (hobeys hrun)

theorem mem_log_play {p : Prog Unit} {k : Config} {c : Cmd} (hc : c ∈ k.log) :
    c ∈ (p.play server k).2.log := by
  induction p generalizing k with
  | done r => exact hc
  | await c' next _ ih _ => exact ih _ (List.mem_cons_of_mem c' hc)
  | sync c' next ih => exact ih _ (List.mem_cons_of_mem c' hc)

/-- The commands of a program are in the log it leaves. -/
theorem obeys_of_log {P : Cmd → Prop} {p : Prog Unit} {k : Config} (h : p.Obeys server cond k)
    (hP : ∀ c ∈ (p.play server k).2.log, P c) :
    p.Obeys server (fun k c => cond k c ∧ P c) k := by
  have hfirst : ∀ (q : Prog Unit) (k : Config) (c : Cmd),
      c ∈ (q.play server (server.perform c k)).2.log :=
    fun q k c => mem_log_play (k := k.perform c) List.mem_cons_self
  induction p generalizing k with
  | done r => trivial
  | await c next _ ih _ => exact ⟨⟨h.1, hP c (hfirst _ k c)⟩, ih _ h.2 hP⟩
  | sync c next ih => exact ⟨⟨h.1, hP c (hfirst _ k c)⟩, ih _ h.2 hP⟩

/-- What holds of all commands of a run may be assumed of each of them. -/
theorem Run.of_log {P : Cmd → Prop} {k k' : Config} (h : Run env pricing admits cond k k')
    (hP : ∀ c ∈ k'.log, P c) : Run env pricing admits (fun k c => cond k c ∧ P c) k k' := by
  induction h with
  | refl => exact .refl
  | @tail k₁ _ _ hstep ih =>
    cases hstep with
    | operate hidle hready hop hrun =>
      exact (ih fun c hc => hP c (mem_log_play hc)).tail
        (.operate hidle hready hop (obeys_of_log hrun hP))
    | @handle event todo htodo hrun =>
      exact (ih fun c hc => hP c (mem_log_play (k := { k₁ with todo }) hc)).tail
        (.handle htodo (obeys_of_log hrun hP))

/-! ### One operation -/

/-- The handlers of the next event run to their end. -/
inductive Handles (env : Env) (k : Config) : Config → Prop
  | next {event : DomainEvent} {todo : List DomainEvent} (htodo : k.todo = event :: todo) :
      Handles env k ((handleEvent env event).play server { k with todo }).2

/-- The operation runs to its end, and then the handlers of every event, those of the handlers
included. -/
structure Completes (env : Env) (pricing : PricingEnv) (op : Operation) (k k' : Config) : Prop where
  handled : Relation.ReflTransGen (Handles env) ((op.program env pricing).play server k).2 k'
  done : k'.todo = []

/-- What an operation leaves and the handlers keep, after any of the handlers. -/
theorem Handles.of_wlp {I : Config → Prop} {op : Operation} {k k' : Config}
    (h : Relation.ReflTransGen (Handles env) ((op.program env pricing).play server k).2 k')
    (hop : (op.program env pricing).wlp server (fun _ _ => True) (fun _ => I) k)
    (hhandle : ∀ k event todo, k.todo = event :: todo → I k →
      (handleEvent env event).wlp server (fun _ _ => True) (fun _ => I) { k with todo }) : I k' := by
  induction h with
  | refl => exact Async.play_of_wlp hop
  | tail _ hstep ih =>
    cases hstep with
    | next htodo => exact Async.play_of_wlp (hhandle _ _ _ htodo ih)

/-- What an operation leaves and the handlers keep. -/
theorem Completes.of_wlp {I : Config → Prop} {op : Operation} {k k' : Config}
    (h : Completes env pricing op k k')
    (hop : (op.program env pricing).wlp server (fun _ _ => True) (fun _ => I) k)
    (hhandle : ∀ k event todo, k.todo = event :: todo → I k →
      (handleEvent env event).wlp server (fun _ _ => True) (fun _ => I) { k with todo }) : I k' :=
  Handles.of_wlp h.handled hop hhandle

/-! ### Runs on concrete inputs -/

section Execute

variable (env pricing) (admits cond)
variable [∀ k op, Decidable (admits k op)] [∀ k c, Decidable (cond k c)]

/-- Handle the waiting events, at most `fuel` of them. -/
def settle? : ℕ → Config → Option Config
  | 0, k => if k.todo = [] then some k else none
  | fuel + 1, k =>
    match k.todo with
    | [] => some k
    | event :: todo =>
      if (handleEvent env event).Obeys server cond { k with todo } then
        settle? fuel ((handleEvent env event).play server { k with todo }).2
      else none

/-- Perform the operations in turn, each with the handlers of its events. -/
def execute? : List Operation → Config → Option Config
  | [], k => some k
  | op :: ops, k =>
    if k.todo = [] ∧ op.Ready k.store ∧ admits k op ∧
        (op.program env pricing).Obeys server cond k then
      (settle? env cond 100 ((op.program env pricing).play server k).2).bind (execute? ops)
    else none

variable {env pricing admits cond}

omit [∀ k op, Decidable (admits k op)] in
theorem run_of_settle? {fuel : ℕ} {k k' : Config} (h : settle? env cond fuel k = some k') :
    Run env pricing admits cond k k' ∧ k'.todo = [] := by
  induction fuel generalizing k with
  | zero =>
    unfold settle? at h
    split_ifs at h with htodo
    obtain rfl := Option.some.inj h
    exact ⟨.refl, htodo⟩
  | succ fuel ih =>
    unfold settle? at h
    cases htodo : k.todo with
    | nil =>
      rw [htodo] at h
      obtain rfl := Option.some.inj h
      exact ⟨.refl, htodo⟩
    | cons event todo =>
      rw [htodo] at h
      dsimp only at h
      split_ifs at h with hobeys
      obtain ⟨hrun, hidle⟩ := ih h
      exact ⟨.head (.handle htodo hobeys) hrun, hidle⟩

theorem completes_of_settle? {fuel : ℕ} {op : Operation} {k k' : Config}
    (h : settle? env (fun _ _ => True) fuel ((op.program env pricing).play server k).2 = some k') :
    Completes env pricing op k k' := by
  have hreach : ∀ {fuel : ℕ} {k k' : Config}, settle? env (fun _ _ => True) fuel k = some k' →
      Relation.ReflTransGen (Handles env) k k' := by
    intro fuel
    induction fuel with
    | zero =>
      intro k k' h
      unfold settle? at h
      split_ifs at h
      obtain rfl := Option.some.inj h
      exact .refl
    | succ fuel ih =>
      intro k k' h
      unfold settle? at h
      cases htodo : k.todo with
      | nil =>
        rw [htodo] at h
        obtain rfl := Option.some.inj h
        exact .refl
      | cons event todo =>
        rw [htodo] at h
        dsimp only at h
        split_ifs at h
        exact .head (.next htodo) (ih h)
  have hrun : Run env pricing (fun _ _ => True) (fun _ _ => True) _ k' ∧ k'.todo = [] :=
    run_of_settle? h
  exact ⟨hreach h, hrun.2⟩

/-- Operations that go through are a run. -/
theorem run_of_execute? {ops : List Operation} {k k' : Config} (hidle : k.todo = [])
    (h : execute? env pricing admits cond ops k = some k') :
    Run env pricing admits cond k k' ∧ k'.todo = [] := by
  induction ops generalizing k with
  | nil =>
    obtain rfl := Option.some.inj h
    exact ⟨.refl, hidle⟩
  | cons op ops ih =>
    unfold execute? at h
    split_ifs at h with hop
    obtain ⟨k₁, hsettle, h⟩ := Option.bind_eq_some_iff.mp h
    obtain ⟨hrun, hidle₁⟩ := run_of_settle? hsettle
    obtain ⟨hrun', hidle'⟩ := ih hidle₁ h
    exact ⟨.head (.operate hop.1 hop.2.1 hop.2.2.1 hop.2.2.2) (hrun.trans hrun'), hidle'⟩

variable (env pricing admits cond) in
theorem exists_run_of_execute? (s : Store) (ops : List Operation) (Φ : Config → Prop)
    [DecidablePred Φ]
    (h : ((execute? env pricing admits cond ops ⟨s, [], []⟩).any fun k => decide (Φ k)) = true) :
    ∃ k, Run env pricing admits cond ⟨s, [], []⟩ k ∧ k.todo = [] ∧ Φ k := by
  cases hk : execute? env pricing admits cond ops ⟨s, [], []⟩ with
  | none => simp [hk] at h
  | some k =>
    rw [hk, Option.any_some] at h
    have hrun : Run env pricing admits cond ⟨s, [], []⟩ k ∧ k.todo = [] := run_of_execute? rfl hk
    exact ⟨k, hrun.1, hrun.2, of_decide_eq_true h⟩

variable (env pricing) in
/-- Some operations in turn, and one more from the store they leave. -/
theorem exists_completes_of_execute? (s : Store) (ops : List Operation) (op : Operation)
    (Φ : Config → Config → Prop) [∀ k k', Decidable (Φ k k')]
    (h : ((execute? env pricing (fun _ _ => True) (fun _ _ => True) ops ⟨s, [], []⟩).any fun k =>
      (settle? env (fun _ _ => True) 100
        ((op.program env pricing).play server ⟨k.store, [], []⟩).2).any fun k' =>
          decide (Φ k k')) = true) :
    ∃ k k', Run env pricing (fun _ _ => True) (fun _ _ => True) ⟨s, [], []⟩ k ∧
      Completes env pricing op ⟨k.store, [], []⟩ k' ∧ Φ k k' := by
  cases hk : execute? env pricing (fun _ _ => True) (fun _ _ => True) ops ⟨s, [], []⟩ with
  | none => simp [hk] at h
  | some k =>
    rw [hk, Option.any_some] at h
    cases hk' : settle? env (fun _ _ => True) 100
        ((op.program env pricing).play server ⟨k.store, [], []⟩).2 with
    | none => simp [hk'] at h
    | some k' =>
      rw [hk', Option.any_some] at h
      exact ⟨k, k', (run_of_execute? rfl hk).1, completes_of_settle? hk', of_decide_eq_true h⟩

end Execute

end Config

/-- Nothing has happened yet: no trip, no offer, an empty Redis and an empty queue. -/
structure Store.Fresh (s : Store) : Prop where
  trips : s.trips.rows = []
  attempts : s.attempts.rows = []
  redis : ∀ key, s.redis key = none
  jobs : s.jobs = []

/-! ### A small town -/

/-- The driver has a trip under way that is at most 25 minutes old: `findNearbyDrivers` leaves such
a driver out. -/
def Store.isEngaged (s : Store) (driverId : ℕ) : Bool :=
  s.trips.rows.any fun t => decide (t.driverId = some driverId) &&
    [TripStatus.accepted, .driverArriving, .inProgress].contains t.status &&
      decide (s.now < t.createdAt + 25 * 60 * 1000)

/-- The drivers live in one street, by their number, and a pickup point is a part of the street. -/
def Env.town : Env :=
  { Env.offline with
    dispatch :=
      { getDispatchConfig := fun _ _ => defaultConfig
        findNearbyDrivers := fun pickup _ _ _ s =>
          (s.drivers.rows.filter fun d => decide (pickup.lat ≤ d.id) && decide (d.id ≤ pickup.lng) &&
            !s.isEngaged d.id).map fun d => ⟨d.id, 100, 1⟩ } }

/-- Every trip costs 1500. -/
def PricingEnv.town : PricingEnv where
  calculatePrice _ _ _ _ _ := .ok ⟨1500, 3000, 600⟩

/-- Drivers 1 and 2 (users 11 and 12), and no trip yet. -/
def Store.town : Store where
  drivers := ⟨[⟨1, 11, 0, 0⟩, ⟨2, 12, 0, 0⟩], by decide⟩
  vehicleTypes := .single ⟨1, 1000⟩

theorem Store.fresh_town : Store.town.Fresh := ⟨rfl, rfl, fun _ => rfl, rfl⟩

/-- Client 21 orders a trip from the drivers `first` to `last`. -/
def Operation.order (first last : ℚ) : Operation :=
  .createTrip 21 { serviceType := .ride, vehicleTypeId := 1, pickup := ⟨first, last⟩,
                   dropoff := ⟨9, 9⟩ }

end Telima
