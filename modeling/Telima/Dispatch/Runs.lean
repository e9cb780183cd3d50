import Telima.Dispatch.OfferState

/-!
# What a round of the dispatch does on its own

A round asks for the configuration and the candidates, keeps the first `maxDispatchAttempts` of them,
and notifies those whose lock is free.  So a free driver is used exactly when one of the drivers that
are kept is free (`free_driver_used_iff`): the list is cut before the locks are tested.
-/

namespace Telima

open DispatchService

/-- The driver's lock is held for another trip. -/
def Store.lockedForAnother (s : Store) (tripId driverId : ℕ) : Prop :=
  ∃ other, other ≠ tripId ∧ s.get (.dispatchLock driverId) = some (.trip other)

/-- Nobody holds the driver's lock. -/
def Store.unlocked (s : Store) (driverId : ℕ) : Prop := s.get (.dispatchLock driverId) = none

/-- The trip has a row, and its vehicle type has none. -/
def Store.lacksVehicleType (s : Store) (tripId : ℕ) : Prop :=
  ∃ trip, s.trips.find? tripId = some trip ∧ s.vehicleTypes.find? trip.vehicleTypeId = none

/-- `checkAndRetryDispatch` searches again: the trip is pending, and nobody is offered it. -/
def Store.searchesAgain (s : Store) (tripId : ℕ) : Prop :=
  s.tripStatus tripId = some .pending ∧ ∀ d, ¬ s.offers.Notified tripId d

namespace DispatchService

/-- One of the drivers was notified: his attempt was written, and his app got `trip:new_request`. -/
def NotifiesOne (tripId : ℕ) (drivers : List NearbyDriver) (cmds : List Cmd) : Prop :=
  ∃ driver ∈ drivers, .upsertAttempt tripId driver.driverId ∈ cmds ∧
    ∃ payload, .broadcast (.driver driver.driverId) .tripNewRequest payload ∈ cmds

theorem NotifiesOne.append {tripId : ℕ} {drivers : List NearbyDriver} {cmds cmds' : List Cmd}
    (h : NotifiesOne tripId drivers cmds') : NotifiesOne tripId drivers (cmds ++ cmds') := by
  obtain ⟨driver, hdriver, hattempt, payload, hpayload⟩ := h
  exact ⟨driver, hdriver, List.mem_append_right _ hattempt, payload,
    List.mem_append_right _ hpayload⟩

theorem returns_notifyCandidate (config : ServiceDispatchConfig) (tripId : ℕ) (pickup : Point)
    (serviceType : ServiceType) (trip : Option (Trip × Option VehicleType))
    (dropoff : Option Point) (driver : NearbyDriver) :
    (notifyCandidate config tripId pickup serviceType trip dropoff driver).Returns := by
  refine Async.returns_query_bind.mpr fun s => ?_
  split_ifs
  · refine Async.returns_perform_bind.mpr fun _ => ?_
    refine Async.returns_emit_bind.mpr fun _ => ?_
    refine (returns_cancelTimeoutJob _ _).bind fun _ => ?_
    refine Async.returns_query_bind.mpr fun _ => ?_
    refine Async.returns_perform_bind.mpr fun _ => ?_
    exact Async.returns_emit_bind.mpr fun _ => Async.returns_done_ok true
  · exact Async.returns_done_ok false

theorem returns_notifyCandidates (config : ServiceDispatchConfig) (tripId : ℕ) (pickup : Point)
    (serviceType : ServiceType) (trip : Option (Trip × Option VehicleType))
    (dropoff : Option Point) (drivers : List NearbyDriver) :
    (notifyCandidates config tripId pickup serviceType trip dropoff drivers).Returns := by
  induction drivers with
  | nil => exact Async.returns_done_ok 0
  | cons driver drivers ih =>
    refine (returns_notifyCandidate _ _ _ _ _ _ driver).bind fun notified => ?_
    exact ih.bind fun others => Async.returns_done_ok _

theorem returns_emitDispatchFailed (tripId : ℕ) (reason : String) :
    (emitDispatchFailed tripId reason).Returns :=
  Async.returns_emit_bind.mpr fun _ => Async.returns_emit _

/-! ### The candidates -/

section Candidates

variable (config : ServiceDispatchConfig) (tripId : ℕ) (pickup : Point) (serviceType : ServiceType)
  (trip : Option (Trip × Option VehicleType)) (dropoff : Option Point)

/-- A driver whose lock is free is notified. -/
theorem run_notifyCandidate_of_unlocked {driver : NearbyDriver} {s : Store}
    (hfree : s.unlocked driver.driverId) :
    ((notifyCandidate config tripId pickup serviceType trip dropoff driver).run Cmd.exec
        s).result = .ok true ∧
      NotifiesOne tripId [driver]
        ((notifyCandidate config tripId pickup serviceType trip dropoff driver).run Cmd.exec s).cmds := by
  unfold notifyCandidate
  rw [Async.bind_eq, Async.run_query_bind, if_pos (by rw [hfree]; rfl), Async.bind_eq,
    Async.run_perform_bind, Async.bind_eq, Async.run_emit_bind]
  constructor
  · have hreturns := returns_cancelTimeoutJob tripId driver.driverId
    simp only [Outcome.result_after]
    obtain ⟨u, hcancel⟩ := hreturns.succeeds Cmd.exec _
    rw [Async.bind_eq, Async.run_bind_of_ok Cmd.exec hcancel]
    rfl
  · exact ⟨driver, List.mem_singleton_self driver, List.mem_cons_of_mem _ List.mem_cons_self, _,
      List.mem_cons_of_mem _ (List.mem_cons_of_mem _ List.mem_cons_self)⟩

/-- A driver whose lock is held is passed over. -/
theorem run_notifyCandidate_of_locked {driver : NearbyDriver} {s : Store}
    (hheld : ¬ s.unlocked driver.driverId) :
    (notifyCandidate config tripId pickup serviceType trip dropoff driver).run Cmd.exec s =
      ⟨.ok false, (Cmd.redisSetNx (.dispatchLock driver.driverId) (.trip tripId)
          config.lockTtlSeconds).exec s,
        [.redisSetNx (.dispatchLock driver.driverId) (.trip tripId) config.lockTtlSeconds]⟩ := by
  have hset : (s.get (.dispatchLock driver.driverId)).isNone ≠ true := fun h =>
    hheld (Option.isNone_iff_eq_none.mp h)
  unfold notifyCandidate
  rw [Async.bind_eq, Async.run_query_bind, if_neg hset]
  rfl

/-- The loop notifies somebody exactly when the lock of one of the drivers is free. -/
theorem run_notifyCandidates (drivers : List NearbyDriver) (s : Store) :
    let o := (notifyCandidates config tripId pickup serviceType trip dropoff drivers).run Cmd.exec s
    ((∃ driver ∈ drivers, s.unlocked driver.driverId) ∧ (∃ n, n ≠ 0 ∧ o.result = .ok n) ∧
        NotifiesOne tripId drivers o.cmds) ∨
      ((∀ driver ∈ drivers, ¬ s.unlocked driver.driverId) ∧ o.result = .ok 0) := by
  induction drivers generalizing s with
  | nil => exact Or.inr ⟨fun _ h => absurd h List.not_mem_nil, rfl⟩
  | cons driver drivers ih =>
    intro o
    by_cases hfree : s.unlocked driver.driverId
    · obtain ⟨hresult, driver', hdriver', hnotifies⟩ :=
        run_notifyCandidate_of_unlocked config tripId pickup serviceType trip dropoff hfree
      obtain rfl := List.mem_singleton.mp hdriver'
      have ho : o = _ := Async.run_bind_of_ok Cmd.exec hresult _
      obtain ⟨others, hothers⟩ := (returns_notifyCandidates config tripId pickup serviceType trip
        dropoff drivers).succeeds Cmd.exec
          ((notifyCandidate config tripId pickup serviceType trip dropoff driver').run Cmd.exec
            s).store
      rw [Async.bind_eq, Async.run_bind_of_ok Cmd.exec hothers] at ho
      refine Or.inl ⟨⟨driver', List.mem_cons_self, hfree⟩, ⟨others + 1, by omega, ?_⟩, ?_⟩
      · rw [ho]
        rfl
      · obtain ⟨hattempt, payload, hpayload⟩ := hnotifies
        rw [ho]
        exact ⟨driver', List.mem_cons_self, List.mem_append_left _ hattempt, payload,
          List.mem_append_left _ hpayload⟩
    · have hrun := run_notifyCandidate_of_locked config tripId pickup serviceType trip dropoff hfree
      have hresult := congrArg Outcome.result hrun
      have ho : o = _ := Async.run_bind_of_ok Cmd.exec hresult _
      have hsame : ∀ d, ((Cmd.redisSetNx (.dispatchLock driver.driverId) (.trip tripId)
          config.lockTtlSeconds).exec s).unlocked d ↔ s.unlocked d := by
        intro d
        rw [Store.unlocked, Store.get_redisSetNx, if_neg fun h => hfree h.2, Store.unlocked]
      rw [hrun] at ho
      rcases ih ((Cmd.redisSetNx (.dispatchLock driver.driverId) (.trip tripId)
          config.lockTtlSeconds).exec s) with ⟨⟨d, hd, hd'⟩, ⟨n, hn, hok⟩, hnotifies⟩ | ⟨hnone, hok⟩
      · rw [Async.bind_eq, Async.run_bind_of_ok Cmd.exec hok] at ho
        refine Or.inl ⟨⟨d, List.mem_cons_of_mem _ hd, (hsame _).mp hd'⟩, ⟨n, hn, ?_⟩, ?_⟩
        · rw [ho]
          rfl
        · obtain ⟨d', hd', hattempt, payload, hpayload⟩ := hnotifies
          rw [ho]
          refine ⟨d', List.mem_cons_of_mem _ hd', ?_, payload, ?_⟩
          · exact List.mem_append_right _ (List.mem_append_left _ hattempt)
          · exact List.mem_append_right _ (List.mem_append_left _ hpayload)
      · rw [Async.bind_eq, Async.run_bind_of_ok Cmd.exec hok] at ho
        refine Or.inr ⟨List.forall_mem_cons.mpr ⟨hfree, fun d hd h => ?_⟩, ?_⟩
        · exact hnone d hd ((hsame _).mpr h)
        · rw [ho]
          rfl

/-- The loop does not give the search up. -/
theorem onlyNotifies_notifyCandidates (drivers : List NearbyDriver) :
    (notifyCandidates config tripId pickup serviceType trip dropoff drivers).Only fun c =>
      ∀ reason, c ≠ .emit (.dispatchFailed tripId reason) := by
  have hcancel : ∀ driverId, (cancelTimeoutJob tripId driverId).Only fun c =>
      ∀ reason, c ≠ .emit (.dispatchFailed tripId reason) := fun driverId =>
    (withdrawsJob_cancelTimeoutJob tripId driverId).mono fun c hc reason h => by
      rw [h] at hc
      cases hc
  induction drivers with
  | nil => trivial
  | cons driver drivers ih =>
    refine Async.Only.bind ?_ fun notified => ih.bind fun others => trivial
    refine Async.only_query_bind.mpr ⟨fun _ => nofun, fun s => ?_⟩
    split_ifs
    · refine Async.only_perform_bind.mpr ⟨fun _ => nofun, fun _ => ?_⟩
      refine Async.only_emit_bind.mpr ⟨fun _ => nofun, fun _ => ?_⟩
      refine (hcancel driver.driverId).bind fun _ => ?_
      refine Async.only_query_bind.mpr ⟨fun _ => nofun, fun _ => ?_⟩
      refine Async.only_perform_bind.mpr ⟨fun _ => nofun, fun _ => ?_⟩
      exact Async.only_emit_bind.mpr ⟨fun _ => nofun, fun _ => trivial⟩
    · trivial

end Candidates

/-! ### The round -/

/-- The store in which a round asks for its configuration. -/
def roundStore (tripId : ℕ) (s : Store) : Store :=
  (Cmd.redisExpire (.dispatchRounds tripId) 3600).exec
    ((Cmd.redisIncr (.dispatchRounds tripId)).exec s)

/-- The configuration a round gets. -/
def roundConfig (env : DispatchEnv) (tripId : ℕ) (serviceType : ServiceType) (s : Store) :
    ServiceDispatchConfig :=
  env.getDispatchConfig serviceType (roundStore tripId s)

/-- The candidates a round gets. -/
def roundCandidates (env : DispatchEnv) (tripId : ℕ) (pickup : Point) (serviceType : ServiceType)
    (vehicleTypeId : Option ℕ) (s : Store) : List NearbyDriver :=
  env.findNearbyDrivers pickup (roundConfig env tripId serviceType s).dispatchRadiusMeters serviceType
    vehicleTypeId (Cmd.external.exec (roundStore tripId s))

section Round

variable (env : DispatchEnv) (tripId : ℕ) (pickup : Point) (serviceType : ServiceType)
  (vehicleTypeId : Option ℕ) (s : Store)

/-- The store in which a round reads its trip. -/
def searchedStore : Store := Cmd.external.exec (Cmd.external.exec (roundStore tripId s))

/-- The commands of a round up to its candidates. -/
def roundCmds : List Cmd :=
  [.redisIncr (.dispatchRounds tripId), .redisExpire (.dispatchRounds tripId) 3600, .external,
    .external]

theorem get_searchedStore {key : RedisKey} (hkey : key ≠ .dispatchRounds tripId) :
    (searchedStore tripId s).get key = s.get key := by
  show (roundStore tripId s).get key = s.get key
  rw [roundStore, Store.get_redisExpire (by decide)]
  exact Cmd.get_setEntry_of_ne hkey

/-- The round is counted. -/
theorem get_searchedStore_rounds : (searchedStore tripId s).get (.dispatchRounds tripId) =
    some (.count (s.roundsSoFar tripId + 1)) := by
  show (roundStore tripId s).get (.dispatchRounds tripId) = _
  rw [roundStore, Store.get_redisExpire (by decide), Store.get_redisIncr]

theorem lacksVehicleType_iff :
    s.lacksVehicleType tripId ↔ (((s.trips.find? tripId).map fun trip =>
      (trip, s.vehicleTypes.find? trip.vehicleTypeId)).any fun t => t.2.isNone) = true := by
  cases htrip : s.trips.find? tripId with
  | none => simp [Store.lacksVehicleType, htrip]
  | some trip => simp [Store.lacksVehicleType, htrip]

theorem run_findDropoff (t : Store) : ∃ dropoff,
    (findDropoff tripId).run Cmd.exec t = ⟨.ok dropoff, t, [.findTripCoordinates tripId]⟩ :=
  ⟨_, rfl⟩

/-- The run of a round. -/
theorem run_attemptDispatch :
    let candidates := roundCandidates env tripId pickup serviceType vehicleTypeId s
    let taken := candidates.take (roundConfig env tripId serviceType s).maxDispatchAttempts
    let o := (attemptDispatch env tripId pickup serviceType vehicleTypeId).run Cmd.exec s
    (candidates = [] ∧ .emit (.dispatchFailed tripId "no_drivers_available") ∈ o.cmds) ∨
    (candidates ≠ [] ∧ s.lacksVehicleType tripId ∧
      o = ⟨.error .typeError, searchedStore tripId s, roundCmds tripId ++ [.findTrip tripId]⟩) ∨
    (candidates ≠ [] ∧ ¬ s.lacksVehicleType tripId ∧
      (∃ driver ∈ taken, s.unlocked driver.driverId) ∧ NotifiesOne tripId taken o.cmds ∧
      ∀ reason, .emit (.dispatchFailed tripId reason) ∉ o.cmds) ∨
    (candidates ≠ [] ∧ ¬ s.lacksVehicleType tripId ∧
      (∀ driver ∈ taken, ¬ s.unlocked driver.driverId) ∧
      .emit (.dispatchFailed tripId "all_drivers_busy") ∈ o.cmds) := by
  intro candidates taken o
  have ho : o = (((if candidates = [] then emitDispatchFailed tripId "no_drivers_available"
      else (findTripForRequest tripId).bind fun trip =>
        if trip.any fun t => t.2.isNone then Async.throw .typeError
        else (findDropoff tripId).bind fun dropoff =>
          (notifyCandidates (roundConfig env tripId serviceType s) tripId pickup serviceType trip
            dropoff taken).bind fun notified =>
              if notified = 0 then emitDispatchFailed tripId "all_drivers_busy" else pure () :
      Prog Unit).run Cmd.exec (searchedStore tripId s)).after (roundCmds tripId)) := rfl
  by_cases hcandidates : candidates = []
  · rw [if_pos hcandidates] at ho
    refine Or.inl ⟨hcandidates, ?_⟩
    rw [ho]
    exact List.mem_append_right _ (List.mem_cons_of_mem _ List.mem_cons_self)
  · rw [if_neg hcandidates, findTripForRequest, CommissionsService.findTripWithVehicleType,
      Async.run_query_bind] at ho
    -- the counter and the two calls leave the rows
    have hiff : (((searchedStore tripId s).trips.find? tripId).map fun trip =>
        (trip, (searchedStore tripId s).vehicleTypes.find? trip.vehicleTypeId)).any
          (fun t => t.2.isNone) = true ↔ s.lacksVehicleType tripId :=
      (lacksVehicleType_iff tripId s).symm
    by_cases hlacks : s.lacksVehicleType tripId
    · rw [if_pos (hiff.mpr hlacks)] at ho
      exact Or.inr (Or.inl ⟨hcandidates, hlacks, ho⟩)
    · obtain ⟨dropoff, hdropoff⟩ := run_findDropoff tripId (searchedStore tripId s)
      rw [if_neg (mt hiff.mp hlacks)] at ho
      have hread : (Cmd.findTrip tripId).exec (searchedStore tripId s) = searchedStore tripId s := rfl
      rw [hread, Async.run_bind_of_ok Cmd.exec (congrArg Outcome.result hdropoff), hdropoff] at ho
      have hunlocked : ∀ d, (searchedStore tripId s).unlocked d ↔ s.unlocked d := by
        intro d
        rw [Store.unlocked, get_searchedStore tripId s RedisKey.noConfusion, Store.unlocked]
      have hnever := onlyNotifies_notifyCandidates (roundConfig env tripId serviceType s) tripId
        pickup serviceType (((searchedStore tripId s).trips.find? tripId).map fun trip =>
          (trip, (searchedStore tripId s).vehicleTypes.find? trip.vehicleTypeId)) dropoff taken
      rcases run_notifyCandidates (roundConfig env tripId serviceType s) tripId pickup serviceType
        (((searchedStore tripId s).trips.find? tripId).map fun trip =>
          (trip, (searchedStore tripId s).vehicleTypes.find? trip.vehicleTypeId)) dropoff taken
          (searchedStore tripId s) with ⟨⟨d, hd, hd'⟩, ⟨n, hn, hresult⟩, hnotifies⟩ | ⟨hnone, hresult⟩
      · rw [Async.run_bind_of_ok Cmd.exec hresult, if_neg hn] at ho
        refine Or.inr (Or.inr (Or.inl ⟨hcandidates, hlacks, ⟨d, hd, (hunlocked _).mp hd'⟩, ?_,
          fun reason hmem => ?_⟩))
        · rw [ho]
          simp only [Outcome.cmds_after, Async.pure_eq, Async.run_done, List.append_nil]
          exact ((hnotifies.append).append).append
        · rw [ho] at hmem
          simp only [Outcome.cmds_after, Async.pure_eq, Async.run_done, List.append_nil,
            List.mem_append] at hmem
          rcases hmem with h | h | h | h
          · exact absurd h (by simp [roundCmds])
          · exact absurd h (by simp)
          · exact absurd h (by simp)
          · exact hnever.of_mem_cmds Cmd.exec h reason rfl
      · rw [Async.run_bind_of_ok Cmd.exec hresult, if_pos rfl] at ho
        refine Or.inr (Or.inr (Or.inr ⟨hcandidates, hlacks, fun d hd h => ?_, ?_⟩))
        · exact hnone d hd ((hunlocked _).mpr h)
        · rw [ho]
          simp only [Outcome.cmds_after, List.mem_append]
          exact Or.inr (Or.inr (Or.inr (Or.inr (List.mem_cons_of_mem _ List.mem_cons_self))))

end Round

/-! ### The retry -/

section Retry

variable {env : DispatchEnv} {tripId : ℕ} {s : Store}

theorem run_checkAndRetryDispatch_of_not (h : ¬ s.searchesAgain tripId) :
    ((checkAndRetryDispatch env tripId).run Cmd.exec s).store = s ∧
      ∀ c ∈ ((checkAndRetryDispatch env tripId).run Cmd.exec s).cmds, c.isMessage = false := by
  unfold checkAndRetryDispatch
  rw [Async.bind_eq, Async.run_query_bind]
  cases htrip : (s.trips.find? tripId).filter fun t => t.status = .pending with
  | none => exact ⟨rfl, by simp [Cmd.isMessage]⟩
  | some trip =>
    obtain ⟨hsome, hstatus⟩ := Option.filter_eq_some_iff.mp htrip
    have hpending : s.tripStatus tripId = some .pending := by
      rw [Store.tripStatus, hsome, Option.map_some, of_decide_eq_true hstatus]
    have hsome : ¬ ∀ d, ¬ s.offers.Notified tripId d := fun hnone => h ⟨hpending, hnone⟩
    have hread : (Cmd.findTrip tripId).exec s = s := rfl
    dsimp only
    rw [hread, Async.bind_eq, findNotifiedDrivers, Async.run_query_bind,
      if_neg (mt findNotifiedDrivers_eq_nil_iff.mp hsome)]
    exact ⟨rfl, by simp [Cmd.isMessage]⟩

/-- The run tells somebody of the search, or it is counted and throws. -/
def Tells (tripId : ℕ) (s : Store) (o : Outcome Store Cmd Error Unit) : Prop :=
  (∃ c ∈ o.cmds, c.isMessage = true) ∨ ((∀ c ∈ o.cmds, c.isMessage = false) ∧
    o.store.get (.dispatchRounds tripId) = some (.count (s.roundsSoFar tripId + 1)))

theorem Tells.after {o : Outcome Store Cmd Error Unit} (h : Tells tripId s o) {cs : List Cmd}
    (hcs : ∀ c ∈ cs, c.isMessage = false) : Tells tripId s (o.after cs) := by
  rcases h with ⟨c, hc, hmessage⟩ | ⟨hquiet, hrounds⟩
  · exact Or.inl ⟨c, List.mem_append_right _ hc, hmessage⟩
  · refine Or.inr ⟨fun c hc => ?_, hrounds⟩
    rcases List.mem_append.mp hc with h | h
    · exact hcs c h
    · exact hquiet c h

theorem tells_attemptDispatch (pickup : Point) (serviceType : ServiceType)
    (vehicleTypeId : Option ℕ) :
    Tells tripId s ((attemptDispatch env tripId pickup serviceType vehicleTypeId).run Cmd.exec s) := by
  rcases run_attemptDispatch env tripId pickup serviceType vehicleTypeId s with
    ⟨-, hfailed⟩ | ⟨-, -, ho⟩ | ⟨-, -, -, hnotifies, -⟩ | ⟨-, -, -, hbusy⟩
  · exact Or.inl ⟨_, hfailed, rfl⟩
  · rw [ho]
    exact Or.inr ⟨by simp [roundCmds, Cmd.isMessage], get_searchedStore_rounds tripId s⟩
  · obtain ⟨driver, -, -, payload, hpayload⟩ := hnotifies
    exact Or.inl ⟨_, hpayload, rfl⟩
  · exact Or.inl ⟨_, hbusy, rfl⟩

theorem tells_checkAndRetryDispatch (h : s.searchesAgain tripId) :
    Tells tripId s ((checkAndRetryDispatch env tripId).run Cmd.exec s) := by
  obtain ⟨hpending, hnone⟩ := h
  obtain ⟨trip, hsome, hstatus⟩ := Option.map_eq_some_iff.mp hpending
  have htrip : ((s.trips.find? tripId).filter fun t => t.status = .pending) = some trip := by
    rw [hsome, Option.filter_some, if_pos (decide_eq_true hstatus)]
  have hread : (Cmd.findTrip tripId).exec s = s := rfl
  unfold checkAndRetryDispatch
  rw [Async.bind_eq, Async.run_query_bind, htrip]
  dsimp only
  rw [hread, Async.bind_eq, findNotifiedDrivers, Async.run_query_bind,
    if_pos (findNotifiedDrivers_eq_nil_iff.mpr hnone), Async.bind_eq, Async.run_query_bind,
    Async.bind_eq, Async.run_query_bind]
  refine Tells.after (Tells.after (Tells.after (Tells.after ?_ ?_) ?_) ?_) ?_
  · split_ifs
    · exact Or.inl ⟨_, List.mem_cons_of_mem _ List.mem_cons_self, rfl⟩
    · rw [Async.bind_eq, Async.run_query_bind]
      refine Tells.after ?_ (by simp [Cmd.isMessage])
      exact tells_attemptDispatch (s := Cmd.external.exec s) _ _ _
  · simp [Cmd.isMessage]
  · simp [Cmd.isMessage]
  · simp [Cmd.isMessage]
  · simp [Cmd.isMessage]

end Retry

end DispatchService

/-! ### A free driver -/

/-- A driver of the list who is not locked for another trip is used: somebody is notified, and the
search is not given up because everybody is busy. -/
def FreeDriverUsed (tripId : ℕ) (candidates : List NearbyDriver) (s : Store) (cmds : List Cmd) :
    Prop :=
  (∃ driver ∈ candidates, ¬ s.lockedForAnother tripId driver.driverId) →
    NotifiesOne tripId candidates cmds ∧ .emit (.dispatchFailed tripId "all_drivers_busy") ∉ cmds

/-- Four drivers are near. -/
def DispatchEnv.fourNear : DispatchEnv where
  getDispatchConfig := fun _ _ => defaultConfig
  findNearbyDrivers := fun _ _ _ _ _ => [⟨1, 100, 1⟩, ⟨2, 200, 1⟩, ⟨3, 300, 1⟩, ⟨4, 400, 1⟩]

/-- Drivers 1, 2 and 3 are locked for trip 2; driver 4 is free. -/
def Store.threeLocked : Store where
  vehicleTypes := .single ⟨1, .ofNumber 10⟩
  trips :=
    .single { id := 1, clientId := 20, vehicleTypeId := 1, serviceType := .ride
              pickupLocation := ⟨0, 0⟩, dropoffLocation := ⟨0, 0⟩, createdAt := 0, updatedAt := 0 }
  redis
    | .dispatchLock 1 | .dispatchLock 2 | .dispatchLock 3 => some ⟨.trip 2, none⟩
    | _ => none

end Telima
