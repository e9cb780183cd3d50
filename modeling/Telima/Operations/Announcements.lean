import Telima.Operations.Cancellations

/-!
# One domain event for each change of status

Every write of a trip's status is followed by the domain event of the new status, and there is no
other such event (`changes_announced`), in the runs in which no trip is cancelled by the handler of
`DispatchFailed` or by the sweep, and whoever accepts a trip holds the lock for it.  The handler and
the sweep write `cancelled_auto` without an event, and an accept without the lock emits no
`DriverAssigned`, whose handler would announce it.
-/

namespace Telima

open TripsService DispatchService DispatchRecoveryService

/-- What the events of `TripAccepted`, `TripArrived`, `TripStarted`, `TripCompleted` and
`TripCancelled` announce. -/
inductive TripNews where
  | accepted | arrived | started | completed | cancelled
  deriving DecidableEq, Repr

/-- The event a trip that gets the status is announced by. -/
def TripStatus.news : TripStatus → Option TripNews
  | .pending => none
  | .accepted => some .accepted
  | .driverArriving => some .arrived
  | .inProgress => some .started
  | .completed => some .completed
  | .cancelledByClient | .cancelledByDriver | .cancelledAuto => some .cancelled

/-- What the event announces of the trip. -/
def DomainEvent.news (tripId : ℕ) : DomainEvent → Option TripNews
  | tripAccepted id _ _ => if id = tripId then some .accepted else none
  | tripArrived id _ _ => if id = tripId then some .arrived else none
  | tripStarted id _ _ => if id = tripId then some .started else none
  | tripCompleted id _ _ _ => if id = tripId then some .completed else none
  | tripCancelled id _ _ => if id = tripId then some .cancelled else none
  | _ => none

/-- The statuses the commands have changed the trip to, newest first.  Its creation is no change. -/
def Store.changes (s : Store) (tripId : ℕ) : List Cmd → List TripStatus
  | [] => []
  | c :: log =>
    let before := (log.foldr Cmd.exec s).tripStatus tripId
    let after := (c.exec (log.foldr Cmd.exec s)).tripStatus tripId
    (if before.isSome ∧ after ≠ before then after.toList else []) ++ changes s tripId log

/-- What the commands have announced of the trip, newest first. -/
def announced (tripId : ℕ) (log : List Cmd) : List TripNews :=
  log.filterMap fun c => c.event?.bind (DomainEvent.news tripId)

/-- The accepts of the trip that wait for the handler of `DriverAssigned` to announce them. -/
def owed (tripId : ℕ) (todo : List DomainEvent) : List TripNews :=
  todo.filterMap fun
    | .driverAssigned id _ => if id = tripId then some .accepted else none
    | _ => none

/-- The stale trips are swept. -/
def Operation.isSweep : Operation → Bool
  | .sweep => true
  | _ => false

/-- A driver who accepts a trip holds the lock for it, and the sweep finds no stale trip. -/
def Announces (k : Config) (op : Operation) : Prop :=
  (∀ t d, op.Accepts k.store t d → k.store.lockHolder d = some t) ∧
    (op.isSweep = true → ∀ trip ∈ k.store.trips.rows, isStale k.store.now trip = false)

/-- The handler of `DispatchFailed` finds the trip no longer pending. -/
def FailsClosed (k : Config) : Cmd → Prop
  | .updateTripIfPending tripId _ => k.store.tripStatus tripId ≠ some .pending
  | _ => True

/-! ### Commands that announce nothing -/

section Commands

variable {tripId T : ℕ} {s : Store} {c : Cmd} {status : TripStatus}

/-- The command leaves the status of the trip and announces nothing of it. -/
def Cmd.isMute (T : ℕ) : Cmd → Bool
  | .updateTrip id _ | .updateTripIfPending id _ => decide (id ≠ T)
  | .emit event => (event.news T).isNone
  | _ => true

/-- The command does not let a driver be assigned to the trip. -/
def Cmd.assignsNot (T : ℕ) : Cmd → Bool
  | .emit (.driverAssigned id _) => decide (id ≠ T)
  | _ => true

/-- The command leaves the status of the trip, and starts no handler that announces something. -/
def Cmd.isQuiet (T : ℕ) (c : Cmd) : Bool := c.isMute T && c.assignsNot T

theorem Cmd.news_of_isMute (h : c.isMute T = true) : c.event?.bind (DomainEvent.news T) = none := by
  cases c with
  | emit event => exact Option.isNone_iff_eq_none.mp h
  | _ => rfl

theorem Cmd.tripStatus_exec_of_isMute (h : c.isMute T = true) (hs : s.tripStatus T = some status) :
    (c.exec s).tripStatus T = some status := by
  obtain ⟨trip, htrip, hstatus⟩ := Option.map_eq_some_iff.mp hs
  cases c with
  | insertTrip data =>
    rw [Store.tripStatus, Store.find?_insertTrip_of_some htrip]
    exact congrArg some hstatus
  | updateTrip id data =>
    have hid : T ≠ id := fun hT => of_decide_eq_true h hT.symm
    rw [Store.tripStatus, Store.find?_updateTrip, htrip, Option.map_some, if_neg hid]
    exact congrArg some hstatus
  | updateTripIfPending id data =>
    have hid : ¬ (decide (trip.id = id) && decide (trip.status = .pending)) = true := by
      rw [Table.key_of_find? htrip, decide_eq_false fun hT => of_decide_eq_true h hT.symm,
        Bool.false_and]
      exact Bool.false_ne_true
    rw [Store.tripStatus, Store.find?_updateTripIfPending, htrip, Option.map_some, if_neg hid]
    exact congrArg some hstatus
  | chargeCommission id driverId commissionAmount finalPrice =>
    rw [Store.tripStatus, Store.find?_chargeCommission, htrip, Option.map_some]
    split_ifs
    · exact congrArg some hstatus
    · exact congrArg some hstatus
  | _ => exact hs

theorem Cmd.owed_of_assignsNot (h : c.assignsNot T = true) : owed T c.event?.toList = [] := by
  cases c with
  | emit event =>
    cases event with
    | driverAssigned id d =>
      have hid : ¬ id = T := of_decide_eq_true h
      simp [owed, Cmd.event?, hid]
    | _ => rfl
  | _ => rfl

theorem Cmd.isQuiet_of_searches (h : c.searches tripId = true) : c.isQuiet T = true := by
  unfold searches at h
  split at h <;> first | rfl | cases h

theorem Cmd.isQuiet_of_reads (h : c.reads = true) : c.isQuiet T = true := by
  unfold reads at h
  split at h <;> first | rfl | cases h

theorem Cmd.isMute_of_touchesOffers (h : c.touchesOffers = true) : c.isMute T = true := by
  unfold touchesOffers at h
  split at h <;> first | rfl | cases h

end Commands

/-! ### The account of a program -/

section Accounts

variable {T : ℕ} {s : Store} {k k' k'' : Config} {c : Cmd}

/-- The store is what the commands have made of `s`. -/
def Config.Replays (k : Config) (s : Store) : Prop := k.store = k.log.foldr Cmd.exec s

/-- Since `k` the trip got the statuses, and the news of it were announced. -/
structure Accounts (s : Store) (T : ℕ) (k : Config) (statuses : List TripStatus)
    (news : List TripNews) (k' : Config) : Prop where
  replays : k'.Replays s
  changes : s.changes T k'.log = statuses ++ s.changes T k.log
  announced : announced T k'.log = news ++ announced T k.log

theorem accounts_refl (hk : k.Replays s) : Accounts s T k [] [] k := ⟨hk, rfl, rfl⟩

theorem Accounts.trans {statuses statuses' : List TripStatus} {news news' : List TripNews}
    (h : Accounts s T k statuses news k') (h' : Accounts s T k' statuses' news' k'') :
    Accounts s T k (statuses' ++ statuses) (news' ++ news) k'' where
  replays := h'.replays
  changes := by rw [h'.changes, h.changes, List.append_assoc]
  announced := by rw [h'.announced, h.announced, List.append_assoc]

theorem announced_cons (log : List Cmd) : announced T (c :: log) =
    (c.event?.bind (DomainEvent.news T)).toList ++ announced T log := by
  rw [announced, List.filterMap_cons]
  cases c.event?.bind (DomainEvent.news T) <;> rfl

/-- A command that sets the status of a trip to another one. -/
theorem accounts_perform_of_changed {status status' : TripStatus} (hk : k.Replays s)
    (hbefore : k.store.tripStatus T = some status)
    (hafter : (c.exec k.store).tripStatus T = some status') (hne : status' ≠ status)
    (hnews : c.event?.bind (DomainEvent.news T) = none) :
    Accounts s T k [status'] [] (k.perform c) where
  replays := congrArg (Cmd.exec c) hk
  changes := by
    rw [hk] at hbefore hafter
    have hchanged : some status' ≠ some status := fun h => hne (Option.some.inj h)
    rw [Config.log_perform, Store.changes, hbefore, hafter]
    simp [hne]
  announced := by
    rw [Config.log_perform, announced_cons, hnews]
    rfl

/-- A command that does not change the status of the trip. -/
theorem accounts_perform_of_kept {status : TripStatus} (hk : k.Replays s)
    (hbefore : k.store.tripStatus T = some status)
    (hafter : (c.exec k.store).tripStatus T = some status) :
    Accounts s T k [] (c.event?.bind (DomainEvent.news T)).toList (k.perform c) where
  replays := congrArg (Cmd.exec c) hk
  changes := by
    rw [hk] at hbefore hafter
    rw [Config.log_perform, Store.changes, hbefore, hafter]
    simp
  announced := announced_cons k.log

/-- A trip that is not there yet. -/
theorem accounts_perform_of_none (hk : k.Replays s) (hbefore : k.store.tripStatus T = none) :
    Accounts s T k [] (c.event?.bind (DomainEvent.news T)).toList (k.perform c) where
  replays := congrArg (Cmd.exec c) hk
  changes := by
    rw [hk] at hbefore
    rw [Config.log_perform, Store.changes, hbefore]
    rfl
  announced := announced_cons k.log

theorem accounts_perform_of_isMute (hk : k.Replays s) (hc : c.isMute T = true) :
    Accounts s T k [] [] (k.perform c) := by
  have hnews : (c.event?.bind (DomainEvent.news T)).toList = [] := by
    rw [Cmd.news_of_isMute hc]
    rfl
  rw [← hnews]
  cases hbefore : k.store.tripStatus T with
  | none => exact accounts_perform_of_none hk hbefore
  | some status =>
    exact accounts_perform_of_kept hk hbefore (Cmd.tripStatus_exec_of_isMute hc hbefore)

/-- Nothing was told of the trip, and it kept its status. -/
structure Hushed (s : Store) (T : ℕ) (k k' : Config) : Prop extends Accounts s T k [] [] k' where
  status : ∀ status, k.store.tripStatus T = some status → k'.store.tripStatus T = some status
  owed : owed T k'.todo = owed T k.todo

theorem hushed_refl (hk : k.Replays s) : Hushed s T k k :=
  ⟨accounts_refl hk, fun _ h => h, rfl⟩

theorem Hushed.trans (h : Hushed s T k k') (h' : Hushed s T k' k'') : Hushed s T k k'' where
  toAccounts := h.toAccounts.trans h'.toAccounts
  status status hstatus := h'.status status (h.status status hstatus)
  owed := h'.owed.trans h.owed

theorem owed_append (todo todo' : List DomainEvent) :
    owed T (todo ++ todo') = owed T todo ++ owed T todo' := List.filterMap_append

theorem hushed_perform (hk : k.Replays s) (hc : c.isQuiet T = true) :
    Hushed s T k (k.perform c) := by
  obtain ⟨hmute, hassigns⟩ := Bool.and_eq_true_iff.mp hc
  refine ⟨accounts_perform_of_isMute hk hmute, fun status hstatus => ?_, ?_⟩
  · exact Cmd.tripStatus_exec_of_isMute hmute hstatus
  · rw [Config.todo_perform, owed_append, Cmd.owed_of_assignsNot hassigns, List.append_nil]

/-- What changed was announced, but for the accepts that are owed. -/
structure Balanced (s : Store) (T : ℕ) (k : Config) : Prop where
  replays : k.Replays s
  balance : (s.changes T k.log).map TripStatus.news =
    (owed T k.todo ++ announced T k.log).map some
  accepted : owed T k.todo ≠ [] → k.store.tripStatus T = some .accepted ∧
    owed T k.todo = [.accepted]

theorem Hushed.balanced (h : Hushed s T k k') (hk : Balanced s T k) : Balanced s T k' where
  replays := h.replays
  balance := by
    rw [h.changes, h.announced, h.owed]
    exact hk.balance
  accepted howed := by
    rw [h.owed] at howed ⊢
    exact ⟨h.status _ (hk.accepted howed).1, (hk.accepted howed).2⟩

end Accounts

/-- The program leaves the status of the trip, and starts no handler that announces something. -/
abbrev OnlyQuiet {α : Type} (T : ℕ) (p : Prog α) : Prop := p.Only fun c => c.isQuiet T = true

section Quiet

variable {cond : Config → Cmd → Prop} {T : ℕ} {s : Store} {k : Config} {α : Type}

theorem OnlyQuiet.wlp {p : Prog α} (hp : OnlyQuiet T p) (hk : k.Replays s) :
    p.wlp server cond (fun _ k' => Hushed s T k k') k :=
  Async.Only.wlp (A := fun k' => Hushed s T k k')
    (fun _ _ hc _ hk' => hk'.trans (hushed_perform hk'.replays hc)) hp (hushed_refl hk)

/-- A program that only touches offers may assign a driver, and tells nothing else. -/
theorem wlp_accounts_of_onlyOffers {p : Prog α} (hp : OnlyOffers p) (hk : k.Replays s) :
    p.wlp server cond (fun _ k' => Accounts s T k [] [] k') k := by
  have hstep : ∀ c k', Cmd.touchesOffers c = true → cond k' c → Accounts s T k [] [] k' →
      Accounts s T k [] [] (k'.perform c) := by
    intro c k' hc _ hk'
    exact hk'.trans (accounts_perform_of_isMute hk'.replays (Cmd.isMute_of_touchesOffers hc))
  exact Async.Only.wlp (A := fun k' => Accounts s T k [] [] k') hstep hp (accounts_refl hk)

/-! ### Programs that announce nothing -/

theorem quiet_of_onlySearches {tripId : ℕ} {p : Prog α} (hp : OnlySearches tripId p) :
    OnlyQuiet T p :=
  hp.mono fun _ hc => Cmd.isQuiet_of_searches hc

theorem quiet_findById (tripId : ℕ) : OnlyQuiet T (TripRepository.findById tripId) :=
  only_findById rfl rfl

theorem quiet_getTrip (tripId : ℕ) : OnlyQuiet T (getTrip tripId) := only_getTrip rfl rfl

theorem quiet_createTrip (pricing : PricingEnv) (clientId : ℕ) (dto : CreateTripDto) :
    OnlyQuiet T (createTrip pricing clientId dto) :=
  only_createTrip pricing clientId dto rfl (fun _ => rfl) (fun _ => rfl) quiet_getTrip fun _ => rfl

theorem quiet_declineTrip (env : DispatchEnv) (tripId userId : ℕ) :
    OnlyQuiet T (declineTrip env tripId userId) := by
  refine (quiet_getTrip tripId).bind fun trip => ?_
  refine Async.only_query_bind.mpr ⟨rfl, fun s => ?_⟩
  cases (s.drivers.findFirst fun d => decide (d.userId = userId)).map Driver.id with
  | none => trivial
  | some driverId =>
    refine Async.only_query_bind.mpr ⟨rfl, fun s => ?_⟩
    split_ifs
    · exact quiet_of_onlySearches (onlySearches_handleDriverDeclineAndRetry env tripId driverId)
    · trivial

theorem quiet_getPendingRequestForDriver (userId : ℕ) :
    OnlyQuiet T (getPendingRequestForDriver userId) := by
  refine Async.only_query_bind.mpr ⟨rfl, fun s => ?_⟩
  cases (s.drivers.findFirst fun d => decide (d.userId = userId)).map Driver.id with
  | none => trivial
  | some driverId =>
    refine Async.only_query_bind.mpr ⟨rfl, fun s => ?_⟩
    split
    · trivial
    · refine Async.only_query_bind.mpr ⟨rfl, fun s => ?_⟩
      split_ifs
      · trivial
      · have hrearm : ∀ tripId, OnlyQuiet T (rearm tripId driverId) := by
          intro tripId
          refine Async.Only.tryCatch ?_ fun _ => trivial
          exact Async.Only.bind (Async.only_queryE.mpr rfl) fun _ => Async.only_perform.mpr rfl
        refine (hrearm _).bind fun _ => Async.Only.bind ?_ fun coords => ?_
        · exact Async.Only.tryCatch (Async.only_query.mpr rfl) fun _ => trivial
        · split <;> trivial

theorem quiet_run (env : DispatchEnv) (quiet : Bool) : OnlyQuiet T (run env quiet) := by
  refine (only_run env quiet).mono fun c hc => ?_
  rcases hc with rfl | rfl | ⟨t, hc⟩
  · rfl
  · rfl
  · exact Cmd.isQuiet_of_searches hc

theorem quiet_handleTripCompleted (tripId : ℕ) :
    OnlyQuiet T (CommissionsService.handleTripCompleted tripId) :=
  CommissionsService.only_handleTripCompleted rfl fun _ _ _ _ => rfl

/-! ### The writes of a status -/

variable {tripId : ℕ}

/-- An update of a trip changes the status of this trip. -/
theorem wlp_update_accounts {trip : Trip} {data : TripData} {status : TripStatus}
    (hk : k.Replays s) (htrip : k.store.trips.find? tripId = some trip)
    (hstatus : data.status = some status) (hne : status ≠ trip.status) :
    (TripRepository.update tripId data).wlp server cond
      (fun _ k' => Accounts s T k (if tripId = T then [status] else []) [] k') k := by
  refine Async.wlp_queryE.mpr fun _ => ?_
  rw [server_perform]
  by_cases hid : tripId = T
  · rw [if_pos hid, ← hid]
    have hafter : ((Cmd.updateTrip tripId data).exec k.store).tripStatus tripId = some status := by
      rw [Store.tripStatus, Store.find?_updateTrip, htrip, Option.map_some, Option.map_some,
        if_pos rfl]
      show some (data.status.getD trip.status) = some status
      rw [hstatus]
      rfl
    exact accounts_perform_of_changed hk (by rw [Store.tripStatus, htrip]; rfl) hafter hne rfl
  · rw [if_neg hid]
    exact accounts_perform_of_isMute hk (decide_eq_true hid)

/-- The news of the status event of a trip. -/
theorem news_statusEvent {trip : Trip} (userId : ℕ) (reason : Option String)
    (hne : trip.status ≠ .accepted) : (statusEvent trip userId reason).bind (DomainEvent.news T) =
      if trip.id = T then trip.status.news else none := by
  unfold statusEvent
  cases hstatus : trip.status with
  | pending => simp [TripStatus.news]
  | accepted => exact absurd hstatus hne
  | _ => rfl

/-- The report of a status announces it, but for an accept. -/
theorem wlp_reportStatus_accounts {trip : Trip} (userId : ℕ) (status : TripStatus)
    (reason : Option String) (hk : k.Replays s) :
    (reportStatus (some trip) userId status reason).wlp server cond (fun _ k' =>
      Accounts s T k [] ((statusEvent trip userId reason).bind (DomainEvent.news T)).toList k') k := by
  have hquiet : OnlyQuiet T (broadcastStatusEvent trip status reason) := by
    unfold broadcastStatusEvent
    split
    · trivial
    · refine Async.only_emit_bind.mpr ⟨rfl, fun _ => Async.only_emit_bind.mpr ⟨rfl, fun _ => ?_⟩⟩
      refine Async.Only.bind (Async.Only.forEach fun d _ => ?_) fun _ => ?_
      · exact Async.only_emit.mpr rfl
      · exact Async.only_emit.mpr rfl
  have hrest : ∀ {k₁ : Config} {news : List TripNews}, Accounts s T k [] news k₁ →
      ((broadcastStatusEvent trip status reason).bind fun _ => (pure trip : Prog Trip)).wlp server
        cond (fun _ k' => Accounts s T k [] news k') k₁ := by
    intro k₁ news hk₁
    have hrest : OnlyQuiet T ((broadcastStatusEvent trip status reason).bind fun _ =>
        (pure trip : Prog Trip)) := hquiet.bind fun _ => trivial
    exact Async.wlp_mono (hrest.wlp hk₁.replays) fun _ k' h => hk₁.trans h.toAccounts
  have hreport : reportStatus (some trip) userId status reason =
      (emitStatusEvent trip userId reason).bind fun _ =>
        (broadcastStatusEvent trip status reason).bind fun _ => pure trip := rfl
  rw [hreport, emitStatusEvent]
  cases hevent : statusEvent trip userId reason with
  | none => exact hrest (accounts_refl hk)
  | some event =>
    refine Async.wlp_emit_bind.mpr fun _ => hrest ?_
    cases hbefore : k.store.tripStatus T with
    | none => exact accounts_perform_of_none (c := .emit event) hk hbefore
    | some row => exact accounts_perform_of_kept (c := .emit event) hk hbefore hbefore

/-- The trip got the statuses, the last of them was told unless it is an accept, and it is what is
stored. -/
structure Reported (s : Store) (T tripId : ℕ) (status : TripStatus) (statuses : List TripStatus)
    (k k' : Config) : Prop extends
    Accounts s T k statuses
      (if tripId = T ∧ status ≠ .accepted then status.news.toList else []) k' where
  stored : k'.store.tripStatus tripId = some status
  reports : ∃ events, k'.todo = k.todo ++ events ∧ ∀ event ∈ events, event.isReport = true

theorem Accounts.reported {k' k'' : Config} {status : TripStatus} {statuses : List TripStatus}
    (h : Accounts s T k statuses [] k') (htodo : k'.todo = k.todo)
    (h' : Reported s T tripId status [] k' k'') : Reported s T tripId status statuses k k'' where
  toAccounts := by
    have htotal := h.trans h'.toAccounts
    rwa [List.append_nil, List.nil_append] at htotal
  stored := h'.stored
  reports := htodo ▸ h'.reports

/-- The report of the row that is stored. -/
theorem wlp_reportStatus_reported {trip : Trip} {status : TripStatus} (userId : ℕ)
    (reason : Option String) (hk : k.Replays s) (htrip : k.store.trips.find? tripId = some trip)
    (hstatus : trip.status = status) :
    (reportStatus (some trip) userId status reason).wlp server cond
      (fun _ k' => Reported s T tripId status [] k k') k := by
  have hid : trip.id = tripId := Table.key_of_find? htrip
  have hnews : ((statusEvent trip userId reason).bind (DomainEvent.news T)).toList =
      if tripId = T ∧ status ≠ .accepted then status.news.toList else [] := by
    by_cases haccepted : status = .accepted
    · have hnone : statusEvent trip userId reason = none := by
        unfold statusEvent
        rw [hstatus, haccepted]
      rw [if_neg fun h => h.2 haccepted, hnone]
      rfl
    · rw [news_statusEvent userId reason (by rwa [hstatus]), hid, hstatus]
      by_cases hT : tripId = T
      · rw [if_pos hT, if_pos ⟨hT, haccepted⟩]
      · rw [if_neg hT, if_neg fun h => hT h.1]
        rfl
  refine Async.wlp_mono (Async.wlp_and (wlp_reportStatus _ userId status reason)
    (wlp_reportStatus_accounts (T := T) userId status reason hk)) ?_
  rintro r k' ⟨⟨rfl, hstays, -⟩, hreported⟩
  rw [hnews] at hreported
  refine ⟨hreported, ?_, (statusEvent trip userId reason).toList, hstays.todo, ?_⟩
  · rw [Store.tripStatus, hstays.trips, htrip, Option.map_some, hstatus]
  · exact fun event hmem => isReport_of_statusEvent hmem

/-- The row is read again and reported. -/
theorem wlp_findById_reported {trip : Trip} {status : TripStatus} (userId : ℕ)
    (reason : Option String) (hk : k.Replays s) (htrip : k.store.trips.find? tripId = some trip)
    (hstatus : trip.status = status) :
    ((TripRepository.findById tripId).bind fun updated =>
      reportStatus updated userId status reason).wlp server cond
        (fun _ k' => Reported s T tripId status [] k k') k := by
  refine Async.wlp_bind (Async.wlp_mono
    (Async.wlp_and wlp_findById ((quiet_findById (T := T) tripId).wlp hk)) ?_)
  rintro r k₁ ⟨⟨rfl, hsame⟩, hhushed⟩
  have htrip₁ : k₁.store.trips.find? tripId = some trip := by
    rw [hsame.trips]
    exact htrip
  rw [Async.done_ok_bind, htrip]
  have htodo : k₁.todo = k.todo := by rw [hsame.todo, List.append_nil]
  refine Async.wlp_mono
    (wlp_reportStatus_reported (T := T) userId reason hhushed.replays htrip₁ hstatus) ?_
  exact fun r k' h => hhushed.toAccounts.reported htodo h

theorem wlp_getTrip_reported {trip : Trip} {status : TripStatus} (userId : ℕ)
    (reason : Option String) (hk : k.Replays s) (htrip : k.store.trips.find? tripId = some trip)
    (hstatus : trip.status = status) :
    ((getTrip tripId).bind fun updated =>
      reportStatus (some updated) userId status reason).wlp server cond
        (fun _ k' => Reported s T tripId status [] k k') k := by
  refine Async.wlp_bind (Async.wlp_mono
    (Async.wlp_and wlp_getTrip ((quiet_getTrip (T := T) tripId).wlp hk)) ?_)
  rintro r k₁ ⟨⟨hsame, ⟨trip', rfl, htrip'⟩ | ⟨-, hnone⟩⟩, hhushed⟩
  · obtain rfl := Option.some.inj (htrip'.symm.trans htrip)
    have htrip₁ : k₁.store.trips.find? tripId = some trip' := by
      rw [hsame.trips]
      exact htrip
    rw [Async.done_ok_bind]
    have htodo : k₁.todo = k.todo := by rw [hsame.todo, List.append_nil]
    refine Async.wlp_mono
      (wlp_reportStatus_reported (T := T) userId reason hhushed.replays htrip₁ hstatus) ?_
    exact fun r k' h => hhushed.toAccounts.reported htodo h
  · rw [htrip] at hnone
    cases hnone

/-- The write of a status, followed by its report. -/
theorem wlp_update_reported {α : Type} {trip : Trip} {data : TripData} {status : TripStatus}
    {rest : Prog α} (hk : k.Replays s) (htrip : k.store.trips.find? tripId = some trip)
    (hstatus : data.status = some status) (hne : status ≠ trip.status)
    (hrest : ∀ k row, k.Replays s → k.store.trips.find? tripId = some row → row.status = status →
      rest.wlp server cond (fun _ k' => Reported s T tripId status [] k k') k) :
    ((TripRepository.update tripId data).bind fun _ => rest).wlp server cond
      (fun _ k' => Reported s T tripId status (if tripId = T then [status] else []) k k') k := by
  refine Async.wlp_bind (Async.wlp_mono (Async.wlp_and (wlp_update_of_some htrip)
    (wlp_update_accounts (T := T) hk htrip hstatus hne)) ?_)
  rintro r k₁ ⟨⟨rfl, hwrites⟩, hk₁⟩
  rw [Async.done_ok_bind]
  have hfound : k₁.store.trips.find? tripId = some (data.apply k.store.now trip) := by
    rw [hwrites.trips, Table.find?_update_self, htrip]
    rfl
  have hafter : (data.apply k.store.now trip).status = status := by
    show data.status.getD trip.status = status
    rw [hstatus]
    rfl
  have htodo : k₁.todo = k.todo := by rw [hwrites.todo, List.append_nil]
  exact Async.wlp_mono (hrest k₁ _ hk₁.replays hfound hafter) fun r k' h => hk₁.reported htodo h

end Quiet

/-! ### Operations and handlers -/

theorem canTransition_irrefl (status : TripStatus) : canTransition status status = false := by
  cases status <;> decide

theorem TripStatus.news_toList {status : TripStatus} (h : status ≠ .pending) :
    status.news.toList.map some = [status.news] := by
  cases status <;> first | rfl | exact absurd rfl h

theorem owed_of_isReport {T : ℕ} {events : List DomainEvent}
    (h : ∀ event ∈ events, event.isReport = true) : owed T events = [] := by
  rw [owed, List.filterMap_eq_nil_iff]
  intro event hmem
  cases event with
  | driverAssigned => cases h _ hmem
  | _ => rfl

section Steps

variable {env : Env} {cond : Config → Cmd → Prop} {T tripId : ℕ} {s : Store} {k k' : Config}

/-- The status that was written was announced, or the accept is owed. -/
theorem Balanced.write {status : TripStatus} (hk : Balanced s T k) (hidle : k.todo = [])
    (hpending : status ≠ .pending) (hafter : k'.store.tripStatus tripId = some status)
    (haccounts : Accounts s T k (if tripId = T then [status] else [])
      (if tripId = T ∧ status ≠ .accepted then status.news.toList else []) k')
    (howed : owed T k'.todo = if tripId = T ∧ status = .accepted then [.accepted] else []) :
    Balanced s T k' := by
  have hbefore : (s.changes T k.log).map TripStatus.news = (announced T k.log).map some := by
    rw [hk.balance, hidle]
    rfl
  refine ⟨haccounts.replays, ?_, fun hne => ?_⟩
  · rw [haccounts.changes, haccounts.announced, howed, List.map_append, hbefore]
    by_cases hid : tripId = T
    · rw [if_pos hid]
      by_cases haccepted : status = .accepted
      · rw [if_pos ⟨hid, haccepted⟩, if_neg fun h => h.2 haccepted, haccepted]
        rfl
      · rw [if_neg fun h => haccepted h.2, if_pos ⟨hid, haccepted⟩, List.nil_append,
          List.map_append, TripStatus.news_toList hpending]
        rfl
    · rw [if_neg hid, if_neg fun h => hid h.1, if_neg fun h => hid h.1]
      rfl
  · rw [howed] at hne ⊢
    split_ifs at hne ⊢ with h
    · rw [← h.1, hafter, h.2]
      exact ⟨rfl, rfl⟩
    · exact absurd rfl hne

/-- A request to set a status, from a driver who holds the lock if he accepts. -/
theorem wlp_updateStatus_balanced {userId : ℕ} {role : UserRole} {dto : UpdateTripStatusDto}
    {op : Operation} (hop : op.setsStatus = some (tripId, userId, role, dto))
    (hlocked : ∀ t d, op.Accepts k.store t d → k.store.lockHolder d = some t)
    (hidle : k.todo = []) (hk : Balanced s T k) :
    (updateStatus tripId userId role dto).wlp server cond (fun _ k' => Balanced s T k') k := by
  rw [updateStatus, Async.bind_eq]
  refine Async.wlp_bind (Async.wlp_mono
    (Async.wlp_and wlp_getTrip ((quiet_getTrip (T := T) tripId).wlp hk.replays)) ?_)
  rintro r k₁ ⟨⟨hk₁, ⟨trip, rfl, htrip⟩ | ⟨⟨e, rfl⟩, -⟩⟩, hhushed⟩
  · rw [Async.done_ok_bind]
    split_ifs with htransition
    · have hidle₁ : k₁.todo = [] := by rw [hk₁.todo, hidle]; rfl
      refine Async.wlp_bind (Async.wlp_mono (Async.wlp_and (wlp_statusCase htransition)
        (wlp_accounts_of_onlyOffers (T := T) (onlyOffers_statusCase trip userId role dto)
          hhushed.replays)) ?_)
      rintro r k₂ ⟨⟨⟨e, rfl⟩, hk₂⟩ | ⟨data, rfl, hswitched⟩, haccounts⟩
      · refine Hushed.balanced ⟨hhushed.toAccounts.trans haccounts, fun status hstatus => ?_, ?_⟩ hk
        · rw [Store.tripStatus, hk₂.trips]
          exact hhushed.status status hstatus
        · rw [hk₂.todo, List.append_nil]
          exact hhushed.owed
      · obtain ⟨-, htrips⟩ := hswitched.now_eq
        have htrip₂ : k₂.store.trips.find? tripId = some trip := by
          rw [htrips, hk₁.trips]
          exact htrip
        have hid : trip.id = tripId := Table.key_of_find? htrip
        have hne : dto.status ≠ trip.status := by
          intro h
          rw [h, canTransition_irrefl] at htransition
          cases htransition
        -- the accept of the driver waits for its handler
        have howed : owed T k₂.todo =
            if tripId = T ∧ dto.status = .accepted then [.accepted] else [] := by
          have hquiet : dto.status ≠ .accepted → k₁.Stays k₂ [] → owed T k₂.todo =
              if tripId = T ∧ dto.status = .accepted then [.accepted] else [] := by
            intro haccepted hstays
            rw [hstays.todo, hidle₁, if_neg fun h => haccepted h.2]
            rfl
          cases hswitched with
          | accepted hstatus _ _ _ _ hstays _ =>
            rw [hstays.todo, hidle₁, hid]
            by_cases hT : tripId = T
            · rw [if_pos ⟨hT, hstatus⟩]
              simp [owed, hT]
            · rw [if_neg fun h => hT h.1]
              simp [owed, hT]
          | @unlocked driverId _ hstatus hrole hdriver hnotified hlock _ =>
            refine absurd (hlocked tripId driverId ⟨userId, dto, hrole ▸ hop, hstatus, ?_, ?_, ?_⟩) ?_
            · rw [← hdriver, Store.driverOf, Store.driverOf, hk₁.drivers]
            · rw [hstatus, canTransition_accepted_iff] at htransition
              rw [Store.tripStatus, htrip, Option.map_some, htransition]
            · rw [hk₁.offers, hid] at hnotified
              exact hnotified
            · rw [hk₁.offers, hid] at hlock
              exact hlock
          | advanced hstatus _ hsame =>
            refine hquiet ?_ hsame.toStays
            rcases hstatus with hstatus | hstatus | hstatus <;> rw [hstatus] <;> decide
          | withdrawn hstatus hstays _ =>
            refine hquiet ?_ hstays
            rcases hstatus with hstatus | hstatus <;> rw [hstatus] <;> decide
          | cancelledByDriver hstatus _ hsame =>
            refine hquiet ?_ hsame.toStays
            rw [hstatus]
            decide
        rw [Async.done_ok_bind]
        rw [TripRepository.updateStatus, Async.bind_eq, Async.bind_eq, Async.bind_assoc]
        refine Async.wlp_mono (wlp_update_reported (T := T) haccounts.replays htrip₂
          hswitched.status_eq hne fun k row hk hrow hstatus =>
            wlp_findById_reported userId dto.cancelReason hk hrow hstatus) ?_
        intro r k₃ hwritten
        have htotal := (hhushed.toAccounts.trans haccounts).trans hwritten.toAccounts
        rw [List.append_nil, List.append_nil, List.append_nil, List.append_nil] at htotal
        obtain ⟨events, htodo, hreports⟩ := hwritten.reports
        refine hk.write hidle (ne_pending_of_canTransition htransition) hwritten.stored htotal ?_
        rw [htodo, owed_append, owed_of_isReport hreports, List.append_nil, howed]
    · exact hhushed.balanced hk
  · exact hhushed.balanced hk

theorem wlp_completeTrip_balanced {userId : ℕ} {role : UserRole} (dto : PaymentReceivedDto)
    (hidle : k.todo = []) (hk : Balanced s T k) :
    (completeTrip tripId userId role dto).wlp server cond (fun _ k' => Balanced s T k') k := by
  unfold completeTrip
  split_ifs with hrole
  · exact hk
  · rw [Async.bind_eq]
    refine Async.wlp_bind (Async.wlp_mono
      (Async.wlp_and wlp_getTrip ((quiet_getTrip (T := T) tripId).wlp hk.replays)) ?_)
    rintro r k₁ ⟨⟨hk₁, ⟨trip, rfl, htrip⟩ | ⟨⟨e, rfl⟩, -⟩⟩, hhushed⟩
    · rw [Async.done_ok_bind]
      rw [Async.bind_eq, TripRepository.findDriverByUserId, Async.wlp_query_bind]
      intro _
      have hread : Hushed s T k ((k₁.perform (.findDriver userId)).perform .date) :=
        (hhushed.trans (hushed_perform hhushed.replays rfl)).trans
          (hushed_perform (hhushed.trans (hushed_perform hhushed.replays rfl)).replays rfl)
      rw [server_store, server_perform]
      split_ifs with hdriver hstatus htransition
      · exact (hhushed.trans (hushed_perform hhushed.replays rfl)).balanced hk
      · exact (hhushed.trans (hushed_perform hhushed.replays rfl)).balanced hk
      · rw [Async.bind_eq, newDate]
        refine Async.wlp_read_bind.mpr fun _ => ?_
        rw [server_perform]
        have htrip₁ : ((k₁.perform (.findDriver userId)).perform .date).store.trips.find? tripId =
            some trip := by
          show k₁.store.trips.find? tripId = some trip
          rw [hk₁.trips]
          exact htrip
        have hne : TripStatus.completed ≠ trip.status := by
          rw [not_not.mp hstatus]
          decide
        refine Async.wlp_mono (wlp_update_reported (T := T) hread.replays htrip₁ rfl hne
          fun k row hk hrow hstatus => wlp_getTrip_reported userId none hk hrow hstatus) ?_
        intro r k₂ hwritten
        have htotal := hread.toAccounts.trans hwritten.toAccounts
        rw [List.append_nil, List.append_nil] at htotal
        obtain ⟨events, htodo, hreports⟩ := hwritten.reports
        refine hk.write hidle TripStatus.noConfusion hwritten.stored htotal ?_
        rw [htodo, owed_append, owed_of_isReport hreports, List.append_nil, hread.owed, hidle,
          if_neg fun h => TripStatus.noConfusion h.2]
        rfl
      · exact (hhushed.trans (hushed_perform hhushed.replays rfl)).balanced hk
    · exact hhushed.balanced hk

/-- The accept that was owed is announced. -/
theorem balanced_announce {driverId clientId : ℕ} (h : Accounts s T k [] [] k')
    (haccepted : k'.store.tripStatus T = some .accepted) (howed : owed T k'.todo = [])
    (hbalance : (s.changes T k.log).map TripStatus.news =
      (TripNews.accepted :: announced T k.log).map some) :
    Balanced s T (k'.perform (.emit (.tripAccepted T driverId clientId))) := by
  have hemit := accounts_perform_of_kept (c := .emit (.tripAccepted T driverId clientId))
    h.replays haccepted haccepted
  have hnews : ((Cmd.emit (.tripAccepted T driverId clientId)).event?.bind
      (DomainEvent.news T)).toList = [.accepted] := by
    simp [Cmd.event?, DomainEvent.news]
  rw [hnews] at hemit
  have htotal := h.trans hemit
  have howed' : owed T (k'.perform (.emit (.tripAccepted T driverId clientId))).todo = [] := by
    rw [Config.todo_perform, owed_append, howed]
    rfl
  refine ⟨htotal.replays, ?_, fun hne => absurd howed' hne⟩
  rw [htotal.changes, htotal.announced, howed']
  exact hbalance

theorem yields_update (data : TripData) :
    (TripRepository.update tripId data).Yields fun trip => trip.id = tripId := by
  refine ⟨fun s => ?_, fun _ => trivial⟩
  show Async.Yields _ (Async.done (orNotFound ((s.trips.find? tripId).map _)))
  cases htrip : s.trips.find? tripId with
  | none => trivial
  | some trip => exact (data.id_apply s.now trip).trans (Table.key_of_find? htrip)

/-- The handler of `DriverAssigned` announces the accept. -/
theorem wlp_handleDriverAssigned_balanced (geo : GeoEnv) (driverId : ℕ) {todo : List DomainEvent}
    (htodo : k.todo = .driverAssigned tripId driverId :: todo) (hk : Balanced s T k) :
    (handleDriverAssigned geo tripId driverId).wlp server cond (fun _ k' => Balanced s T k')
      { k with todo } := by
  have hbroadcast : ∀ trip, OnlyQuiet T (broadcastAccepted geo trip driverId) := fun trip =>
    (onlyReads_broadcastAccepted geo trip driverId).mono fun _ hc => Cmd.isQuiet_of_reads hc
  by_cases hid : tripId = T
  · subst hid
    have howed : owed tripId k.todo = .accepted :: owed tripId todo := by
      rw [htodo]
      simp [owed]
    obtain ⟨haccepted, hone⟩ := hk.accepted (by rw [howed]; exact List.cons_ne_nil _ _)
    have hrest : owed tripId todo = [] := (List.cons.inj (howed.symm.trans hone)).2
    obtain ⟨trip, htrip, hstatus⟩ := Option.map_eq_some_iff.mp haccepted
    have hreplays : Config.Replays { k with todo } s := hk.replays
    rw [handleDriverAssigned, TripRepository.assignDriver, Async.bind_eq, Async.bind_eq,
      Async.bind_assoc, newDate]
    refine Async.wlp_read_bind.mpr fun _ => Async.wlp_queryE_bind.mpr fun _ => ?_
    rw [server_store, server_store, server_perform, server_perform]
    have hdate : Hushed s tripId { k with todo } (Config.perform .date { k with todo }) :=
      hushed_perform hreplays rfl
    -- the trip is accepted already
    have hafter : ((Cmd.updateTrip tripId (acceptData driverId k.store.now)).exec
        k.store).tripStatus tripId = some .accepted := by
      rw [Store.tripStatus, Store.find?_updateTrip, htrip]
      simp [TripData.apply, acceptData]
    have hwritten : Accounts s tripId { k with todo } [] [] (Config.perform
        (.updateTrip tripId (acceptData driverId k.store.now))
          (Config.perform .date { k with todo })) :=
      hdate.toAccounts.trans (accounts_perform_of_kept
        (c := .updateTrip tripId (acceptData driverId k.store.now)) hdate.replays haccepted hafter)
    have hfound : (Config.perform .date { k with todo }).store.trips.find? tripId = some trip := htrip
    rw [hfound]
    show Async.wlp server cond (Async.bind (broadcastAccepted geo _ driverId) _) _ _
    refine Async.wlp_bind (Async.wlp_mono
      (Async.wlp_and (returns_broadcastAccepted geo _ driverId).wlp
        ((hbroadcast _).wlp hwritten.replays)) ?_)
    rintro r k₁ ⟨⟨a, rfl⟩, hhushed⟩
    refine Async.wlp_emit.mpr fun _ => ?_
    rw [server_perform, TripData.id_apply, Table.key_of_find? htrip]
    have haccepted₁ : k₁.store.tripStatus tripId = some .accepted :=
      hhushed.status _ hafter
    have howed₁ : owed tripId k₁.todo = [] := by
      rw [hhushed.owed, Config.todo_perform, Config.todo_perform, owed_append, owed_append, hrest]
      rfl
    refine balanced_announce (hwritten.trans hhushed.toAccounts) haccepted₁ howed₁ ?_
    have hbalance := hk.balance
    rw [hone] at hbalance
    exact hbalance
  · -- another trip
    have hassign : OnlyQuiet T (TripRepository.assignDriver tripId driverId) :=
      Async.only_read_bind.mpr ⟨rfl, fun _ => Async.only_queryE.mpr (by
        simp [Cmd.isQuiet, Cmd.isMute, Cmd.assignsNot, hid])⟩
    have hyields : (TripRepository.assignDriver tripId driverId).Yields fun trip =>
        trip.id = tripId := Async.Yields.bind _ fun now => yields_update _
    have hquiet : OnlyQuiet T (handleDriverAssigned geo tripId driverId) := by
      refine hassign.bind_yields hyields fun trip htrip => ?_
      refine (hbroadcast trip).bind fun _ => Async.only_emit.mpr ?_
      simp [Cmd.isQuiet, Cmd.isMute, Cmd.assignsNot, DomainEvent.news, htrip, hid]
    have howed : owed T todo = owed T k.todo := by
      rw [htodo]
      simp [owed, hid]
    have hstart : Balanced s T { k with todo } :=
      ⟨hk.replays, by rw [howed]; exact hk.balance, by rw [howed]; exact hk.accepted⟩
    exact Async.wlp_mono (hquiet.wlp hstart.replays) fun _ _ h => h.balanced hstart

/-- The write of the handler of `DispatchFailed` on a trip that is no longer pending. -/
theorem hushed_perform_of_closed {data : TripData} (hk : k.Replays s)
    (hclosed : k.store.tripStatus tripId ≠ some .pending) :
    Hushed s T k (k.perform (.updateTripIfPending tripId data)) := by
  have hkept : ∀ status, k.store.tripStatus T = some status →
      ((Cmd.updateTripIfPending tripId data).exec k.store).tripStatus T = some status := by
    intro status hstatus
    obtain ⟨trip, htrip, hrow⟩ := Option.map_eq_some_iff.mp hstatus
    rw [Store.tripStatus, Store.find?_updateTripIfPending, htrip, Option.map_some, if_neg]
    · exact congrArg some hrow
    · intro hsel
      obtain ⟨hid, hpending⟩ := Bool.and_eq_true_iff.mp hsel
      rw [← of_decide_eq_true hid, Table.key_of_find? htrip, hstatus, ← hrow,
        of_decide_eq_true hpending] at hclosed
      exact hclosed rfl
  refine ⟨?_, hkept, ?_⟩
  · cases hbefore : k.store.tripStatus T with
    | none =>
      exact accounts_perform_of_none (c := .updateTripIfPending tripId data) hk hbefore
    | some status =>
      exact accounts_perform_of_kept (c := .updateTripIfPending tripId data) hk hbefore
        (hkept status hbefore)
  · rw [Config.todo_perform, owed_append]
    exact List.append_nil _

/-- The handler of `DispatchFailed` changes nothing when the trip is no longer pending. -/
theorem wlp_handleDispatchFailed_balanced (reason : String) (hk : Balanced s T k)
    (hcond : ∀ k c, cond k c → FailsClosed k c) :
    (handleDispatchFailed tripId reason).wlp server cond (fun _ k' => Balanced s T k') k := by
  let P : Cmd → Prop := fun c => c.isQuiet T = true ∨ ∃ id data, c = .updateTripIfPending id data
  have hfailed : (handleDispatchFailed tripId reason).Only P := by
    have hcancel : (TripRepository.updateStatusIfPending tripId .cancelledAuto reason).Only P :=
      Async.only_read_bind.mpr ⟨Or.inl rfl, fun _ => Async.only_perform.mpr (Or.inr ⟨_, _, rfl⟩)⟩
    refine hcancel.bind fun _ => Async.Only.bind ?_ fun trip => ?_
    · exact (quiet_findById tripId).mono fun _ hc => Or.inl hc
    · split
      · exact Async.only_emit.mpr (Or.inl rfl)
      · trivial
  have hstep : ∀ c k', P c → cond k' c → Balanced s T k' → Balanced s T (k'.perform c) := by
    rintro c k' (hc | ⟨id, data, rfl⟩) hobeys hk'
    · exact (hushed_perform hk'.replays hc).balanced hk'
    · have hclosed : k'.store.tripStatus id ≠ some .pending := hcond _ _ hobeys
      exact (hushed_perform_of_closed hk'.replays hclosed).balanced hk'
  exact Async.Only.wlp (A := fun k' => Balanced s T k') hstep hfailed hk

/-- The sweep announces nothing when it finds no stale trip. -/
theorem wlp_sweepStaleAssigned_balanced
    (hfresh : ∀ trip ∈ k.store.trips.rows, isStale k.store.now trip = false) (hk : Balanced s T k) :
    sweepStaleAssigned.wlp server cond (fun _ k' => Balanced s T k') k := by
  have hnone : k.store.trips.findMany (isStale k.store.now) = [] := by
    rw [Table.findMany, List.filter_eq_nil_iff]
    intro trip hmem
    rw [hfresh trip hmem]
    exact Bool.false_ne_true
  have hdate : Hushed s T k (k.perform .date) := hushed_perform hk.replays rfl
  refine Async.wlp_read_bind.mpr fun _ => ?_
  rw [server_store, server_perform]
  refine Async.wlp_bind ?_
  intro _
  show (Async.forEach cancelStale (k.store.trips.findMany (isStale k.store.now))).wlp _ _ _ _
  rw [hnone]
  exact (hdate.trans (hushed_perform hdate.replays rfl)).balanced hk

/-- Every operation announces what it changes. -/
theorem wlp_program_balanced (pricing : PricingEnv) (op : Operation) (hidle : k.todo = [])
    (hadmits : Announces k op) (hk : Balanced s T k) :
    (op.program env pricing).wlp server cond (fun _ k' => Balanced s T k') k := by
  have hquiet : ∀ {p : Prog Unit}, OnlyQuiet T p →
      p.wlp server cond (fun _ k' => Balanced s T k') k :=
    fun hp => Async.wlp_mono (hp.wlp hk.replays) fun _ _ h => h.balanced hk
  have has : ∀ {α : Type} {p : Prog α}, OnlyQuiet T p → OnlyQuiet T (p.as ()) :=
    fun hp => hp.bind fun _ => trivial
  cases op with
  | createTrip clientId dto => exact hquiet (has (quiet_createTrip pricing clientId dto))
  | updateStatus tripId userId role dto =>
    exact Async.wlp_as (wlp_updateStatus_balanced rfl hadmits.1 hidle hk)
  | completeTrip tripId userId role dto =>
    exact Async.wlp_as (wlp_completeTrip_balanced dto hidle hk)
  | wsAccept tripId userId =>
    have hop : Operation.setsStatus (.wsAccept tripId userId) = some _ := rfl
    refine Async.wlp_tryCatch (Async.wlp_bind (Async.wlp_mono
      (wlp_updateStatus_balanced hop hadmits.1 hidle hk) ?_))
    intro r k' hk'
    cases r with
    | ok trip => exact hk'
    | error e => exact hk'
  | declineTrip tripId userId => exact hquiet (quiet_declineTrip env.dispatch tripId userId)
  | wsDecline tripId driverId =>
    exact hquiet (quiet_of_onlySearches (onlySearches_handleDriverDeclineAndRetry _ _ _))
  | timeout job =>
    refine hquiet (Async.only_perform_bind.mpr ⟨rfl, fun _ => ?_⟩)
    exact quiet_of_onlySearches (onlySearches_handleDriverTimeout _ _ _)
  | recovery quiet => exact hquiet (quiet_run env.dispatch quiet)
  | sweep => exact wlp_sweepStaleAssigned_balanced (hadmits.2 rfl) hk
  | getPendingRequest userId => exact hquiet (has (quiet_getPendingRequestForDriver userId))
  | wait ms => exact hquiet (Async.only_perform.mpr rfl)

/-- Every handler announces what it changes, and the accepts that were owed. -/
theorem wlp_handleEvent_balanced (event : DomainEvent) {todo : List DomainEvent}
    (htodo : k.todo = event :: todo) (hcond : ∀ k c, cond k c → FailsClosed k c)
    (hk : Balanced s T k) :
    (handleEvent env event).wlp server cond (fun _ k' => Balanced s T k') { k with todo } := by
  have hstart : owed T [event] = [] → Balanced s T { k with todo } := by
    intro hnone
    have howed : owed T todo = owed T k.todo := by
      rw [htodo, ← List.singleton_append, owed_append, hnone, List.nil_append]
    exact ⟨hk.replays, by rw [howed]; exact hk.balance, by rw [howed]; exact hk.accepted⟩
  have hquiet : ∀ {p : Prog Unit}, owed T [event] = [] → OnlyQuiet T p →
      p.wlp server cond (fun _ k' => Balanced s T k') { k with todo } :=
    fun hnone hp => Async.wlp_mono (hp.wlp (hstart hnone).replays) fun _ _ h =>
      h.balanced (hstart hnone)
  cases event with
  | tripCreated =>
    refine wlp_handleEvent_single rfl (hquiet rfl ?_)
    exact quiet_of_onlySearches (onlyRedispatches_attemptDispatch _ _ _ _ _).searches
  | tripCompleted tripId => exact wlp_handleEvent_single rfl (hquiet rfl (quiet_handleTripCompleted tripId))
  | driverAssigned tripId driverId =>
    exact wlp_handleEvent_single rfl (wlp_handleDriverAssigned_balanced env.geo driverId htodo hk)
  | dispatchFailed tripId reason =>
    exact wlp_handleEvent_single rfl
      (wlp_handleDispatchFailed_balanced reason (hstart rfl) hcond)
  | _ => exact wlp_handleEvent_nil rfl (hstart rfl)

end Steps

/-- In every run in which a driver who accepts a trip holds the lock for it, the sweep finds no stale
trip and the handler of `DispatchFailed` no pending one, every change of a trip's status was
announced once when no event waits, and nothing else was. -/
theorem changes_announced (env : Env) (pricing : PricingEnv) {s : Store} {k : Config}
    (hrun : Config.Run env pricing Announces FailsClosed ⟨s, [], []⟩ k) (hidle : k.todo = [])
    (tripId : ℕ) :
    (s.changes tripId k.log).map TripStatus.news = (announced tripId k.log).map some := by
  have hstart : Balanced s tripId ⟨s, [], []⟩ := ⟨rfl, rfl, fun h => absurd rfl h⟩
  have hk : Balanced s tripId k := hrun.invariant
    (fun k op hidle _ hadmits hk => wlp_program_balanced pricing op hidle hadmits hk)
    (fun k event todo htodo hk => wlp_handleEvent_balanced event htodo (fun _ _ h => h) hk) hstart
  have hbalance := hk.balance
  rw [hidle] at hbalance
  exact hbalance

/-! ### In the town -/

instance (k : Config) (c : Cmd) : Decidable (FailsClosed k c) := by
  induction c using Cmd.casesOn <;> unfold FailsClosed <;> infer_instance

/-- Driver 1 accepts trip 1 and drives it to its end. -/
theorem changes_announced_town : ∃ k, Config.Run Env.town .town Announces FailsClosed
      ⟨.town, [], []⟩ k ∧
    Store.town.changes 1 k.log = [.completed, .inProgress, .driverArriving, .accepted] ∧
    (Store.town.changes 1 k.log).map TripStatus.news = (announced 1 k.log).map some := by
  -- who sets a status holds the lock, and there is no sweep
  obtain ⟨k, hrun, hidle, hchanges⟩ := Config.exists_run_of_execute? Env.town .town
    (fun k op => op.isSweep = false ∧ (op.setsStatus.all fun r => decide (r.2.2.2.status ≠ .accepted) ||
      (k.store.driverOf r.2.1).all fun d => decide (k.store.lockHolder d = some r.1)) = true)
    FailsClosed Store.town
    [.order 1 2, .wsAccept 1 11, .updateStatus 1 11 .driver { status := .driverArriving },
      .updateStatus 1 11 .driver { status := .inProgress }, .completeTrip 1 11 .driver ⟨1500⟩]
    (fun k => Store.town.changes 1 k.log =
      [.completed, .inProgress, .driverArriving, .accepted]) (by decide +kernel)
  have hrun' : Config.Run Env.town .town Announces FailsClosed ⟨.town, [], []⟩ k := by
    refine hrun.mono (fun k op hop => ⟨?_, ?_⟩) fun k c hc => hc
    · rintro t d ⟨userId, dto, hsets, haccepted, hdriver, -, -⟩
      have hall := hop.2
      rw [hsets, Option.all_some, haccepted, hdriver, Option.all_some] at hall
      exact of_decide_eq_true hall
    · intro hsweep
      rw [hop.1] at hsweep
      cases hsweep
  exact ⟨k, hrun', hchanges, changes_announced Env.town .town hrun' hidle 1⟩

/-- Nobody drives at the place client 21 orders a trip to: it is cancelled, and no event tells. -/
theorem not_changes_announced : ¬ ∀ k, Config.Run Env.town .town (fun _ _ => True)
    (fun _ _ => True) ⟨.town, [], []⟩ k → k.todo = [] → ∀ tripId,
      (Store.town.changes tripId k.log).map TripStatus.news =
        (announced tripId k.log).map some := by
  obtain ⟨k, hrun, hidle, hchanges, hnone⟩ := Config.exists_run_of_execute? Env.town .town
    (fun _ _ => True) (fun _ _ => True) Store.town [.order 5 6]
    (fun k => Store.town.changes 1 k.log = [.cancelledAuto] ∧ announced 1 k.log = [])
    (by decide +kernel)
  intro hall
  have hbalance := hall k hrun hidle 1
  rw [hchanges, hnone] at hbalance
  cases hbalance

end Telima
