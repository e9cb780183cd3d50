import Telima.Operations.Search
import Telima.Operations.Timeouts
import Telima.Trips.Runs

/-!
# The rounds of one search

How often a trip was searched for and how often its dispatch failed is read off the log of a
configuration.  Most programs leave both alone, and with them the counter in Redis, the trip's
timeout jobs and its offers (`Config.Idle`); a search of the trip counts one round, and then offers
the trip or gives it up (`Attempted`).
-/

namespace Telima

open TripsService DispatchService DispatchRecoveryService

/-! ### Counting commands -/

/-- `attemptDispatch` is called for the trip: this is its first command, and no other function
performs it. -/
def Cmd.startsRound (tripId : ℕ) : Cmd → Bool
  | .redisIncr key => decide (key = .dispatchRounds tripId)
  | _ => false

/-- `DispatchFailed` of the trip is emitted. -/
def Cmd.failsTrip (tripId : ℕ) : Cmd → Bool
  | .emit (.dispatchFailed id _) => decide (id = tripId)
  | _ => false

/-- The command has nothing to do with the trip's search, unless it withdraws an offer. -/
def Cmd.isNeutral (tripId : ℕ) : Cmd → Bool
  | .redisIncr key | .redisExpire key _ | .redisDel key | .redisSet key _ _ | .redisSetNx key _ _ =>
    decide (key ≠ .dispatchRounds tripId)
  | .upsertAttempt id _ | .rearmAttempt id _ | .addJob id _ _ => decide (id ≠ tripId)
  | .broadcast _ _ (.newRequest id ..) => decide (id ≠ tripId)
  | .emit (.dispatchFailed id _) => decide (id ≠ tripId)
  | .tick _ => false
  | _ => true

theorem Cmd.offered?_ne_of_isNeutral {tripId : ℕ} {c : Cmd} (hc : c.isNeutral tripId = true) :
    c.offered? ≠ some tripId := by
  intro h
  cases c with
  | upsertAttempt id d =>
    obtain rfl := Option.some.inj h
    exact absurd rfl (of_decide_eq_true hc)
  | rearmAttempt id d =>
    obtain rfl := Option.some.inj h
    exact absurd rfl (of_decide_eq_true hc)
  | broadcast room event payload =>
    cases payload with
    | newRequest id =>
      obtain rfl := Option.some.inj h
      exact absurd rfl (of_decide_eq_true hc)
    | _ => nomatch h
  | _ => nomatch h

/-- The command neither starts nor ends a round of the trip, and a job it queues runs within an
hour. -/
def Cmd.keepsRound (tripId : ℕ) : Cmd → Bool
  | .redisIncr key | .redisExpire key _ | .redisDel key | .redisSet key _ _ | .redisSetNx key _ _ =>
    decide (key ≠ .dispatchRounds tripId)
  | .addJob _ _ delayMs => decide (delayMs < 3600000)
  | .emit (.dispatchFailed id _) => decide (id ≠ tripId)
  | .tick _ => false
  | _ => true

namespace Config

/-- How often `attemptDispatch` was called for the trip. -/
def rounds (k : Config) (tripId : ℕ) : ℕ := k.log.countP (Cmd.startsRound tripId)

/-- How often `DispatchFailed` of the trip was emitted. -/
def failures (k : Config) (tripId : ℕ) : ℕ := k.log.countP (Cmd.failsTrip tripId)

/-- No offer of the trip was made after its dispatch had failed; the log has the newest command
first. -/
def NoLateOffer (k : Config) (tripId : ℕ) : Prop :=
  k.log.Pairwise fun later earlier =>
    later.offered? = some tripId → earlier.failsTrip tripId = false

variable {k k' k'' : Config} {tripId t d : ℕ} {c : Cmd}

theorem noLateOffer_of_failures (h : k.failures tripId = 0) : k.NoLateOffer tripId := by
  rw [failures, List.countP_eq_zero] at h
  refine List.pairwise_of_forall_mem_list fun later _ earlier hmem _ => ?_
  have hfails : ¬ earlier.failsTrip tripId = true := h earlier hmem
  rwa [Bool.not_eq_true] at hfails

theorem NoLateOffer.perform (h : k.NoLateOffer tripId) (hc : c.offered? ≠ some tripId) :
    (k.perform c).NoLateOffer tripId :=
  List.pairwise_cons.mpr ⟨fun _ _ hoffers => absurd hoffers hc, h⟩

/-- So many rounds were started and so many failures emitted, no time has passed, and the timeout
jobs that were queued run within an hour. -/
structure Tallied (k : Config) (tripId rounds failures : ℕ) (k' : Config) : Prop where
  rounds : k'.rounds tripId = k.rounds tripId + rounds
  failures : k'.failures tripId = k.failures tripId + failures
  now : k'.store.now = k.store.now
  todo : k.todo <+: k'.todo
  jobs : ∀ job ∈ k'.store.jobs, job.tripId = tripId → job ∈ k.store.jobs ∨
    (k.store.now ≤ job.runAt ∧ job.runAt < k.store.now + 3600000)

theorem Tallied.trans {r f r' f' : ℕ} (h : k.Tallied tripId r f k')
    (h' : k'.Tallied tripId r' f' k'') : k.Tallied tripId (r + r') (f + f') k'' where
  rounds := by rw [h'.rounds, h.rounds, Nat.add_assoc]
  failures := by rw [h'.failures, h.failures, Nat.add_assoc]
  now := h'.now.trans h.now
  todo := h.todo.trans h'.todo
  jobs := by
    intro job hjob htrip
    rcases h'.jobs job hjob htrip with hbefore | hnew
    · exact h.jobs job hbefore htrip
    · rw [h.now] at hnew
      exact Or.inr hnew

theorem tallied_perform (htick : ∀ ms, c ≠ .tick ms)
    (hjob : ∀ d ms, c = .addJob tripId d ms → ms < 3600000) :
    k.Tallied tripId (c.startsRound tripId).toNat (c.failsTrip tripId).toNat (k.perform c) where
  rounds := by
    show (c :: k.log).countP _ = _
    rw [List.countP_cons, rounds]
    cases c.startsRound tripId <;> rfl
  failures := by
    show (c :: k.log).countP _ = _
    rw [List.countP_cons, failures]
    cases c.failsTrip tripId <;> rfl
  now := by
    cases c with
    | tick ms => exact absurd rfl (htick ms)
    | _ => rfl
  todo := List.prefix_append _ _
  jobs := by
    intro job hmem htrip
    cases c with
    | addJob id driverId ms =>
      rcases List.mem_append.mp hmem with hold | hnew
      · exact Or.inl hold
      · rw [List.mem_singleton] at hnew
        subst hnew
        have hms : ms < 3600000 := hjob driverId ms (by rw [← htrip])
        refine Or.inr ⟨?_, ?_⟩
        · show k.store.now ≤ k.store.now + ms
          omega
        · show k.store.now + ms < k.store.now + 3600000
          omega
    | removeJob jobId => exact Or.inl (List.mem_of_mem_filter hmem)
    | _ => exact Or.inl hmem

/-- A round of the trip goes on: its counter stays. -/
structure Goes (k : Config) (tripId : ℕ) (k' : Config) : Prop extends Tallied k tripId 0 0 k' where
  counter : k'.store.redis (.dispatchRounds tripId) = k.store.redis (.dispatchRounds tripId)

theorem Goes.refl (k : Config) (tripId : ℕ) : k.Goes tripId k :=
  ⟨⟨rfl, rfl, rfl, List.prefix_refl _, fun _ hjob _ => Or.inl hjob⟩, rfl⟩

theorem Goes.trans (h : k.Goes tripId k') (h' : k'.Goes tripId k'') : k.Goes tripId k'' :=
  ⟨h.toTallied.trans h'.toTallied, h'.counter.trans h.counter⟩

theorem redis_exec_of_keepsRound (hc : c.keepsRound tripId = true ∨ c.isNeutral tripId = true) :
    (k.perform c).store.redis (.dispatchRounds tripId) = k.store.redis (.dispatchRounds tripId) := by
  have hset : ∀ {key : RedisKey} {entry : Option RedisEntry}, key ≠ .dispatchRounds tripId →
      (Cmd.setEntry k.store key entry).redis (.dispatchRounds tripId) =
        k.store.redis (.dispatchRounds tripId) := by
    intro key entry hkey
    exact if_neg hkey.symm
  cases c with
  | redisIncr key | redisExpire key _ | redisDel key | redisSet key _ _ | redisSetNx key _ _ =>
    have hkey : key ≠ .dispatchRounds tripId := by simpa [Cmd.keepsRound, Cmd.isNeutral] using hc
    exact hset hkey
  | _ => rfl

theorem goes_perform (hc : c.keepsRound tripId = true) : k.Goes tripId (k.perform c) where
  toTallied := by
    have hstarts : c.startsRound tripId = false := by
      cases c <;> first | rfl | simpa [Cmd.startsRound, Cmd.keepsRound] using hc
    have hfails : c.failsTrip tripId = false := by
      cases c with
      | emit event => cases event <;> first | rfl | simpa [Cmd.failsTrip, Cmd.keepsRound] using hc
      | _ => rfl
    have htallied := @tallied_perform k tripId c (by rintro ms rfl; cases hc)
      (by rintro d ms rfl; exact of_decide_eq_true hc)
    rwa [hstarts, hfails] at htallied
  counter := redis_exec_of_keepsRound (Or.inl hc)

theorem status_exec_of_neutral (hc : c.isNeutral tripId = true)
    (hn : (k.perform c).store.offers.Notified tripId d) : k.store.offers.Notified tripId d := by
  rw [store_perform] at hn
  cases c with
  | upsertAttempt id driverId =>
    rw [Cmd.offers_upsertAttempt] at hn
    have hid : id ≠ tripId := of_decide_eq_true hc
    have hsame : (k.store.offers.notify id driverId).status tripId d =
        k.store.offers.status tripId d := if_neg fun h => hid h.1.symm
    exact hsame.symm.trans hn
  | rearmAttempt id driverId =>
    have hid : id ≠ tripId := of_decide_eq_true hc
    have hne : (tripId, d) ≠ (id, driverId) := fun h => hid (congrArg Prod.fst h).symm
    have hsame : ((Cmd.rearmAttempt id driverId).exec k.store).attempts.find? (tripId, d) =
        k.store.attempts.find? (tripId, d) := 
        Table.find?_update_of_ne hne _ DispatchAttempt.key_rearm
    show (k.store.attempts.find? (tripId, d)).map DispatchAttempt.status = _
    rw [← hsame]
    exact hn
  | respondAttempts id driver answer =>
    rw [Cmd.offers_respondAttempts, Offers.Notified] at hn
    simp only [Offers.respond] at hn
    split_ifs at hn with hnotified
    · exact hnotified.2.2
    · exact hn
  | _ => exact hn

/-- The trip was not searched for: neither was a round started nor did its dispatch fail, and no
offer was made. -/
structure Unsought (k : Config) (tripId : ℕ) (k' : Config) : Prop
    extends Tallied k tripId 0 0 k' where
  old : ∀ job ∈ k'.store.jobs, job.tripId = tripId → job ∈ k.store.jobs
  notified : ∀ d, k'.store.offers.Notified tripId d → k.store.offers.Notified tripId d
  orderly : k.NoLateOffer tripId → k'.NoLateOffer tripId

/-- Nothing about the trip's search has changed, but that offers may have been withdrawn. -/
structure Idle (k : Config) (tripId : ℕ) (k' : Config) : Prop extends Unsought k tripId k' where
  counter : k'.store.redis (.dispatchRounds tripId) = k.store.redis (.dispatchRounds tripId)

theorem Unsought.trans (h : k.Unsought tripId k') (h' : k'.Unsought tripId k'') :
    k.Unsought tripId k'' where
  toTallied := h.toTallied.trans h'.toTallied
  old := fun job hjob htrip => h.old job (h'.old job hjob htrip) htrip
  notified := fun d hd => h.notified d (h'.notified d hd)
  orderly := fun hk => h'.orderly (h.orderly hk)

theorem Idle.refl (k : Config) (tripId : ℕ) : k.Idle tripId k where
  toTallied := (Goes.refl k tripId).toTallied
  old := fun _ hjob _ => hjob
  notified := fun _ hd => hd
  orderly := id
  counter := rfl

theorem Idle.trans (h : k.Idle tripId k') (h' : k'.Idle tripId k'') : k.Idle tripId k'' :=
  ⟨h.toUnsought.trans h'.toUnsought, h'.counter.trans h.counter⟩

/-- The trip's counter has stayed, or its accept is to be handled. -/
structure Kept (k : Config) (tripId : ℕ) (k' : Config) : Prop extends Unsought k tripId k' where
  counter : k'.store.redis (.dispatchRounds tripId) = k.store.redis (.dispatchRounds tripId) ∨
    ∃ d, .driverAssigned tripId d ∈ k'.todo

theorem Idle.kept (h : k.Idle tripId k') : k.Kept tripId k' := ⟨h.toUnsought, Or.inl h.counter⟩

theorem Kept.trans (h : k.Kept tripId k') (h' : k'.Kept tripId k'') : k.Kept tripId k'' where
  toUnsought := h.toUnsought.trans h'.toUnsought
  counter := by
    rcases h'.counter with hsame | hassigned
    · rcases h.counter with hsame' | ⟨d, hmem⟩
      · exact Or.inl (hsame.trans hsame')
      · exact Or.inr ⟨d, h'.todo.subset hmem⟩
    · exact Or.inr hassigned

theorem old_perform (hc : c.isNeutral tripId = true) :
    ∀ job ∈ (k.perform c).store.jobs, job.tripId = tripId → job ∈ k.store.jobs := by
  intro job hmem htrip
  cases c with
  | addJob id driverId ms =>
    rcases List.mem_append.mp hmem with hold | hnew
    · exact hold
    · rw [List.mem_singleton] at hnew
      subst hnew
      exact absurd htrip (of_decide_eq_true hc)
  | removeJob jobId => exact List.mem_of_mem_filter hmem
  | _ => exact hmem

theorem idle_perform (hc : c.isNeutral tripId = true) : k.Idle tripId (k.perform c) where
  toTallied := by
    have hstarts : c.startsRound tripId = false := by
      cases c <;> first | rfl | simpa [Cmd.startsRound, Cmd.isNeutral] using hc
    have hfails : c.failsTrip tripId = false := by
      cases c with
      | emit event => cases event <;> first | rfl | simpa [Cmd.failsTrip, Cmd.isNeutral] using hc
      | _ => rfl
    have htallied := @tallied_perform k tripId c (by rintro ms rfl; cases hc)
      (by rintro d ms rfl; exact absurd rfl (of_decide_eq_true hc))
    rwa [hstarts, hfails] at htallied
  old := old_perform hc
  notified := fun d => status_exec_of_neutral hc
  orderly := fun hk => hk.perform (Cmd.offered?_ne_of_isNeutral hc)
  counter := redis_exec_of_keepsRound (Or.inr hc)

/-- Deleting a key of Redis, be it the trip's counter. -/
theorem unsought_redisDel (key : RedisKey) : k.Unsought tripId (k.perform (.redisDel key)) where
  toTallied := @tallied_perform k tripId (.redisDel key) (fun _ h => nomatch h) fun _ _ h => nomatch h
  old := fun _ hjob _ => hjob
  notified := fun _ hd => hd
  orderly := fun hk => hk.perform fun h => nomatch h

end Config

namespace Cmd

variable {c : Cmd} {tripId driverId T : ℕ}

theorem isNeutral_of_searches (h : c.searches tripId = true) (hne : tripId ≠ T) :
    c.isNeutral T = true := by
  unfold searches at h
  split at h <;> simp_all [isNeutral]

theorem isNeutral_of_cancelsJob (h : c.cancelsJob tripId driverId = true) :
    c.isNeutral T = true := by
  unfold cancelsJob at h
  split at h <;> simp_all [isNeutral]

theorem keepsRound_of_cancelsJob (h : c.cancelsJob tripId driverId = true) :
    c.keepsRound T = true := by
  unfold cancelsJob at h
  split at h <;> simp_all [keepsRound]

theorem isNeutral_of_reports (h : c.reports = true) : c.isNeutral T = true := by
  cases c with
  | broadcast room event payload => cases payload <;> first | rfl | cases h
  | emit event => cases event <;> first | rfl | cases h
  | _ => first | rfl | cases h

end Cmd

/-! ### Programs that do not search for the trip -/

section Neutral

variable {cond : Config → Cmd → Prop} {k : Config} {α : Type}

/-- The program has nothing to do with the search of the trip `T`. -/
abbrev OnlyNeutral (T : ℕ) (p : Prog α) : Prop := p.Only fun c => c.isNeutral T = true

theorem OnlyNeutral.wlp {T : ℕ} {p : Prog α} (hp : OnlyNeutral T p) :
    p.wlp server cond (fun _ k' => k.Idle T k') k :=
  Async.Only.wlp (A := fun k' => k.Idle T k') (fun _ _ hc _ hk => hk.trans (Config.idle_perform hc))
    hp (.refl k T)

/-- A program that has nothing to do with the search, followed by another. -/
theorem OnlyNeutral.wlp_bind {T : ℕ} {β : Type} {p : Prog α} {f : α → Prog β} {Q : Config → Prop}
    (hp : OnlyNeutral T p) (hQ : ∀ k', k.Idle T k' → Q k')
    (hf : ∀ a k', k.Idle T k' → (f a).wlp server cond (fun _ => Q) k') :
    (p.bind f).wlp server cond (fun _ => Q) k := by
  refine Async.wlp_bind (Async.wlp_mono hp.wlp fun r k' hk' => ?_)
  cases r with
  | ok a => exact hf a k' hk'
  | error e => exact hQ k' hk'

variable (T tripId driverId : ℕ)

theorem neutral_cancelTimeoutJob : OnlyNeutral T (cancelTimeoutJob tripId driverId) :=
  (cancelsJob_cancelTimeoutJob tripId driverId).mono fun _ hc => Cmd.isNeutral_of_cancelsJob hc

theorem neutral_releaseLock : OnlyNeutral T (releaseLock tripId driverId) :=
  Async.only_perform_bind.mpr ⟨rfl, fun _ => neutral_cancelTimeoutJob T tripId driverId⟩

theorem neutral_releaseOther : OnlyNeutral T (releaseOther tripId driverId) := by
  refine Async.only_perform_bind.mpr ⟨rfl, fun _ => ?_⟩
  exact (neutral_cancelTimeoutJob T tripId driverId).bind fun _ => Async.only_perform.mpr rfl

theorem neutral_handleDriverDecline : OnlyNeutral T (handleDriverDecline tripId driverId) := by
  refine Async.only_perform_bind.mpr ⟨rfl, fun _ => ?_⟩
  refine Async.only_perform_bind.mpr ⟨rfl, fun _ => ?_⟩
  exact neutral_cancelTimeoutJob T tripId driverId

theorem neutral_releaseLocksForTrip : OnlyNeutral T (releaseLocksForTrip tripId) := by
  refine Async.only_query_bind.mpr ⟨rfl, fun _ => ?_⟩
  refine (Async.Only.forEach fun d _ => neutral_releaseLock T tripId d).bind fun _ => ?_
  exact Async.only_perform.mpr rfl

theorem neutral_withdrawOffers (trip : Trip) (reason : String) :
    OnlyNeutral T (withdrawOffers trip reason) := by
  refine (neutral_releaseLocksForTrip T trip.id).bind fun _ => ?_
  unfold notifyDispatchedDriversOfCancellation
  split
  · trivial
  · refine Async.only_query_bind.mpr ⟨rfl, fun _ => ?_⟩
    exact Async.Only.forEach fun d _ => Async.only_emit.mpr rfl

theorem neutral_getTrip : OnlyNeutral T (getTrip tripId) :=
  (onlyReports_getTrip tripId).mono fun _ hc => Cmd.isNeutral_of_reports hc

theorem neutral_reportStatus (updated : Option Trip) (userId : ℕ) (status : TripStatus)
    (cancelReason : Option String) :
    OnlyNeutral T (reportStatus updated userId status cancelReason) := by
  refine (only_reportStatus updated userId status cancelReason).mono fun c hc => ?_
  rcases hc with hreports | ⟨trip, -, finalPrice, -, rfl⟩
  · exact Cmd.isNeutral_of_reports hreports
  · rfl

theorem neutral_update (data : TripData) : OnlyNeutral T (TripRepository.updateStatus tripId data) := by
  refine Async.only_queryE_bind.mpr ⟨rfl, fun s => ?_⟩
  cases (s.trips.find? tripId).map (data.apply s.now) with
  | none => trivial
  | some trip =>
    exact (onlyReports_findById tripId).mono fun _ hc => Cmd.isNeutral_of_reports hc

/-- But for the accept, setting a status has nothing to do with a search. -/
theorem neutral_statusCase (trip : Trip) (userId : ℕ) (role : UserRole) (dto : UpdateTripStatusDto)
    (hstatus : dto.status ≠ .accepted) : OnlyNeutral T (statusCase trip userId role dto) := by
  have hadvance : ∀ status, OnlyNeutral T (advanceCase trip userId role status) := by
    intro status
    unfold advanceCase
    split_ifs
    · trivial
    · refine Async.only_query_bind.mpr ⟨rfl, fun _ => ?_⟩
      split_ifs
      · trivial
      · exact Async.only_read_bind.mpr ⟨rfl, fun _ => trivial⟩
  unfold statusCase
  cases hdto : dto.status with
  | accepted => exact absurd hdto hstatus
  | driverArriving => exact hadvance _
  | inProgress => exact hadvance _
  | completed => exact hadvance _
  | cancelledByClient =>
    simp only [cancelByClientCase]
    split_ifs
    · trivial
    · refine Async.only_read_bind.mpr ⟨rfl, fun _ => ?_⟩
      exact (neutral_withdrawOffers T trip _).bind fun _ => trivial
  | cancelledByDriver =>
    simp only [cancelByDriverCase]
    split_ifs
    · trivial
    · refine Async.only_query_bind.mpr ⟨rfl, fun _ => ?_⟩
      split_ifs
      · trivial
      · exact Async.only_read_bind.mpr ⟨rfl, fun _ => trivial⟩
  | cancelledAuto =>
    refine Async.only_read_bind.mpr ⟨rfl, fun _ => ?_⟩
    exact (neutral_withdrawOffers T trip _).bind fun _ => trivial
  | pending => trivial

theorem neutral_createTrip (pricing : PricingEnv) (clientId : ℕ) (dto : CreateTripDto) :
    OnlyNeutral T (createTrip pricing clientId dto) :=
  only_createTrip pricing clientId dto rfl (fun _ => rfl) (fun _ => rfl) (neutral_getTrip T)
    fun _ => rfl

theorem neutral_completeTrip (userId : ℕ) (role : UserRole) (dto : PaymentReceivedDto) :
    OnlyNeutral T (completeTrip tripId userId role dto) := by
  unfold completeTrip
  split_ifs
  · trivial
  · refine (neutral_getTrip T tripId).bind fun trip => ?_
    refine Async.only_query_bind.mpr ⟨rfl, fun _ => ?_⟩
    split_ifs
    · trivial
    · trivial
    · refine Async.only_read_bind.mpr ⟨rfl, fun _ => ?_⟩
      refine Async.Only.bind (Async.only_queryE.mpr rfl) fun _ => ?_
      refine (neutral_getTrip T tripId).bind fun updated => ?_
      exact neutral_reportStatus T (some updated) userId .completed none
    · trivial

theorem neutral_sweepStaleAssigned : OnlyNeutral T sweepStaleAssigned := by
  have hstale : ∀ trip, OnlyNeutral T (cancelStale trip) := by
    intro trip
    refine Async.Only.tryCatch ?_ fun _ => trivial
    refine Async.Only.bind (Async.only_queryE.mpr rfl) fun _ => ?_
    refine (neutral_releaseLocksForTrip T trip.id).bind fun _ => ?_
    split
    · exact Async.only_emit.mpr rfl
    · trivial
  refine Async.only_read_bind.mpr ⟨rfl, fun now => ?_⟩
  refine Async.Only.bind ?_ fun stale => Async.Only.forEach fun trip _ => hstale trip
  exact Async.Only.tryCatch (Async.only_query.mpr rfl) fun _ => trivial

theorem neutral_handleDriverAssigned (geo : GeoEnv) :
    OnlyNeutral T (handleDriverAssigned geo tripId driverId) := by
  have hassign : OnlyNeutral T (TripRepository.assignDriver tripId driverId) :=
    Async.only_read_bind.mpr ⟨rfl, fun _ => Async.only_queryE.mpr rfl⟩
  refine hassign.bind fun trip => Async.Only.bind ?_ fun _ => Async.only_emit.mpr rfl
  exact (onlyReports_broadcastAccepted geo trip driverId).mono fun _ hc =>
    Cmd.isNeutral_of_reports hc

theorem neutral_handleDispatchFailed (reason : String) :
    OnlyNeutral T (handleDispatchFailed tripId reason) := by
  have hcancel : OnlyNeutral T (TripRepository.updateStatusIfPending tripId .cancelledAuto reason) :=
    Async.only_read_bind.mpr ⟨rfl, fun _ => Async.only_perform.mpr rfl⟩
  refine hcancel.bind fun _ => Async.Only.bind ?_ fun trip => ?_
  · exact (onlyReports_findById tripId).mono fun _ hc => Cmd.isNeutral_of_reports hc
  · split
    · exact Async.only_emit.mpr rfl
    · trivial

theorem neutral_handleTripCompleted :
    OnlyNeutral T (CommissionsService.handleTripCompleted tripId) :=
  CommissionsService.only_handleTripCompleted rfl fun _ _ _ _ => rfl

/-! ### Accepts -/

variable {T}

theorem wlp_handleDriverAccept_kept :
    (handleDriverAccept tripId driverId).wlp server cond (fun _ k' => k.Kept T k') k := by
  rw [handleDriverAccept, Async.bind_eq, Async.wlp_query_bind]
  intro _
  have hget : k.Idle T (k.perform (.redisGet (.dispatchLock driverId))) := Config.idle_perform rfl
  rw [server_store, server_perform]
  split
  · split_ifs
    · exact hget.kept
    · rw [respondAttempts, Async.bind_eq, Async.wlp_perform_bind]
      intro _
      have hresponded := hget.trans
        (Config.idle_perform (c := .respondAttempts tripId (some driverId) .driverAccepted) rfl)
      refine (neutral_cancelTimeoutJob T tripId driverId).wlp_bind
        (fun k' hk' => (hresponded.trans hk').kept) fun _ k₁ hk₁ => ?_
      rw [findNotifiedDrivers, Async.bind_eq, Async.wlp_query_bind]
      intro _
      have hfound := (hresponded.trans hk₁).trans
        (Config.idle_perform (c := .findAttempts tripId) rfl)
      refine OnlyNeutral.wlp_bind (Async.Only.forEach fun d _ => neutral_releaseOther T tripId d)
        (fun k' hk' => (hfound.trans hk').kept) fun _ k₂ hk₂ => ?_
      intro _ _ _
      -- the driver's lock, the counter of the accepted trip, and the event
      have hunlocked := (hfound.trans hk₂).trans
        (Config.idle_perform (c := .redisDel (.dispatchLock driverId)) rfl)
      by_cases htrip : tripId = T
      · subst htrip
        have hdeleted := hunlocked.toUnsought.trans
          (Config.unsought_redisDel (.dispatchRounds tripId))
        have hemitted := hdeleted.trans (Config.idle_perform
          (c := .emit (.driverAssigned tripId driverId)) rfl).toUnsought
        refine ⟨hemitted, Or.inr ⟨driverId, ?_⟩⟩
        exact List.mem_append_right _ (List.mem_singleton_self _)
      · have hkey : RedisKey.dispatchRounds tripId ≠ .dispatchRounds T :=
          fun h => htrip (RedisKey.dispatchRounds.inj h)
        have hdeleted := hunlocked.trans (Config.idle_perform
          (c := .redisDel (.dispatchRounds tripId)) (decide_eq_true hkey))
        exact (hdeleted.trans (Config.idle_perform
          (c := .emit (.driverAssigned tripId driverId)) rfl)).kept
  · exact hget.kept

/-- A program that keeps the counter, or leads to an accept, followed by another. -/
theorem wlp_bind_kept {β : Type} {p : Prog α} {f : α → Prog β}
    (hp : p.wlp server cond (fun _ k' => k.Kept T k') k)
    (hf : ∀ a (k' : Config), (f a).wlp server cond (fun _ k'' => k'.Kept T k'') k') :
    (p.bind f).wlp server cond (fun _ k' => k.Kept T k') k := by
  refine Async.wlp_bind (Async.wlp_mono hp fun r k' hk' => ?_)
  cases r with
  | ok a => exact Async.wlp_mono (hf a k') fun _ k'' hk'' => hk'.trans hk''
  | error e => exact hk'

theorem OnlyNeutral.wlp_kept {p : Prog α} (hp : OnlyNeutral T p) :
    p.wlp server cond (fun _ k' => k.Kept T k') k :=
  Async.wlp_mono hp.wlp fun _ _ hk' => hk'.kept

theorem wlp_acceptCase_kept (userId : ℕ) (role : UserRole) :
    (acceptCase tripId userId role).wlp server cond (fun _ k' => k.Kept T k') k := by
  have hkept : ∀ k : Config, k.Kept T k := fun k => (Config.Idle.refl k T).kept
  unfold acceptCase
  split_ifs
  · exact hkept k
  · refine wlp_bind_kept (OnlyNeutral.wlp_kept (Async.only_query.mpr rfl)) fun driver k => ?_
    cases driver with
    | none => exact hkept k
    | some driverId =>
      refine wlp_bind_kept (OnlyNeutral.wlp_kept (Async.only_query.mpr rfl)) fun active k => ?_
      split_ifs
      · refine wlp_bind_kept (OnlyNeutral.wlp_kept (Async.only_read.mpr rfl)) fun now k => ?_
        exact wlp_bind_kept (wlp_handleDriverAccept_kept tripId driverId) fun _ k => hkept k
      · exact hkept k

theorem wlp_updateStatus_kept (userId : ℕ) (role : UserRole) (dto : UpdateTripStatusDto) :
    (updateStatus tripId userId role dto).wlp server cond (fun _ k' => k.Kept T k') k := by
  refine wlp_bind_kept (neutral_getTrip T tripId).wlp_kept fun trip k => ?_
  split_ifs
  · refine wlp_bind_kept ?_ fun data k => wlp_bind_kept (neutral_update T tripId data).wlp_kept
      fun updated k => (neutral_reportStatus T updated userId dto.status dto.cancelReason).wlp_kept
    by_cases hstatus : dto.status = .accepted
    · rw [statusCase, hstatus]
      exact wlp_acceptCase_kept trip.id userId role
    · exact (neutral_statusCase T trip userId role dto hstatus).wlp_kept
  · exact (Config.Idle.refl k T).kept

end Neutral

/-! ### A round -/

section Round

variable {cond : Config → Cmd → Prop} {k k' k'' : Config} {T : ℕ} {α : Type}

/-- What a search of the trip leaves: one round more, and offers or the failure of its dispatch. -/
inductive Attempted (T : ℕ) (k k' : Config) : Prop
  | searched (htallied : k.Tallied T 1 0 k')
      (hcounter : k'.store.redis (.dispatchRounds T) =
        some ⟨.count (k.store.roundsSoFar T + 1), some (k.store.now + 3600000)⟩)
  | failed (htallied : k.Tallied T 1 1 k') (hmem : ∃ reason, .dispatchFailed T reason ∈ k'.todo)
      (horderly : k.failures T = 0 → k'.NoLateOffer T)

/-- The failure of the dispatch was emitted. -/
structure GaveUp (T : ℕ) (k k' : Config) : Prop where
  tallied : k.Tallied T 0 1 k'
  mem : ∃ reason, .dispatchFailed T reason ∈ k'.todo
  orderly : k.NoLateOffer T → k'.NoLateOffer T

theorem wlp_emitDispatchFailed_gaveUp (reason : String) :
    (emitDispatchFailed T reason).wlp server cond (fun _ => GaveUp T k) k := by
  intro _ _
  have hdel : k.Unsought T (k.perform (.redisDel (.dispatchRounds T))) :=
    Config.unsought_redisDel _
  refine ⟨?_, ⟨reason, List.mem_append_right _ (List.mem_singleton_self _)⟩, fun hk => ?_⟩
  · have hemit := @Config.tallied_perform (k.perform (.redisDel (.dispatchRounds T))) T
      (.emit (.dispatchFailed T reason)) (fun _ h => nomatch h) fun _ _ h => nomatch h
    have hfails : (Cmd.emit (.dispatchFailed T reason)).failsTrip T = true := decide_eq_true rfl
    rw [hfails] at hemit
    exact hdel.toTallied.trans hemit
  · exact (hdel.orderly hk).perform fun h => nomatch h

/-- A round is started, and counted for an hour. -/
theorem roundStarted (k : Config) :
    k.Tallied T 1 0 ((k.perform (.redisIncr (.dispatchRounds T))).perform
      (.redisExpire (.dispatchRounds T) 3600)) ∧
    ((k.perform (.redisIncr (.dispatchRounds T))).perform
      (.redisExpire (.dispatchRounds T) 3600)).store.redis (.dispatchRounds T) =
        some ⟨.count (k.store.roundsSoFar T + 1), some (k.store.now + 3600000)⟩ := by
  have hstarts : (Cmd.redisIncr (.dispatchRounds T)).startsRound T = true := decide_eq_true rfl
  have hincr := @Config.tallied_perform k T (.redisIncr (.dispatchRounds T)) (fun _ h => nomatch h)
    fun _ _ h => nomatch h
  have hexpire := @Config.tallied_perform (k.perform (.redisIncr (.dispatchRounds T))) T
    (.redisExpire (.dispatchRounds T) 3600) (fun _ h => nomatch h) fun _ _ h => nomatch h
  rw [hstarts] at hincr
  refine ⟨hincr.trans hexpire, ?_⟩
  rw [Config.store_perform, Config.store_perform]
  show (if RedisKey.dispatchRounds T = .dispatchRounds T then _ else _) = _
  rw [if_pos rfl, Store.get_redisIncr, Option.map_some]
  rfl

/-- The program neither starts nor ends a round of the trip. -/
abbrev OnlyRound (T : ℕ) (p : Prog α) : Prop := p.Only fun c => c.keepsRound T = true

theorem OnlyRound.wlp {p : Prog α} (hp : OnlyRound T p) :
    p.wlp server cond (fun _ k' => k.Goes T k') k :=
  Async.Only.wlp (A := fun k' => k.Goes T k') (fun _ _ hc _ hk => hk.trans (Config.goes_perform hc))
    hp (.refl k T)

theorem round_notifyCandidates (config : ServiceDispatchConfig)
    (hshort : config.dispatchTimeoutMs < 3600000) (pickup : Point) (serviceType : ServiceType)
    (trip : Option (Trip × Option VehicleType)) (dropoff : Option Point)
    (drivers : List NearbyDriver) :
    OnlyRound T (notifyCandidates config T pickup serviceType trip dropoff drivers) := by
  have hcandidate : ∀ driver,
      OnlyRound T (notifyCandidate config T pickup serviceType trip dropoff driver) := by
    intro driver
    refine Async.only_query_bind.mpr ⟨rfl, fun _ => ?_⟩
    split_ifs
    · refine Async.only_perform_bind.mpr ⟨rfl, fun _ => ?_⟩
      refine Async.only_emit_bind.mpr ⟨rfl, fun _ => ?_⟩
      have hcancel : OnlyRound T (cancelTimeoutJob T driver.driverId) :=
        (cancelsJob_cancelTimeoutJob T driver.driverId).mono fun _ hc =>
          Cmd.keepsRound_of_cancelsJob hc
      refine hcancel.bind fun _ => ?_
      refine Async.only_query_bind.mpr ⟨decide_eq_true hshort, fun _ => ?_⟩
      refine Async.only_perform_bind.mpr ⟨rfl, fun _ => ?_⟩
      exact Async.only_emit_bind.mpr ⟨rfl, fun _ => trivial⟩
    · trivial
  induction drivers with
  | nil => trivial
  | cons driver drivers ih => exact (hcandidate driver).bind fun _ => ih.bind fun _ => trivial

/-- A search of the trip is one round. -/
theorem wlp_attemptDispatch_attempted (env : DispatchEnv)
    (hshort : ∀ serviceType s, (env.getDispatchConfig serviceType s).dispatchTimeoutMs < 3600000)
    (pickup : Point) (serviceType : ServiceType) (vehicleTypeId : Option ℕ) :
    (attemptDispatch env T pickup serviceType vehicleTypeId).wlp server cond
      (fun _ => Attempted T k) k := by
  rw [attemptDispatch, Async.bind_eq, Async.wlp_perform_bind]
  intro _
  rw [Async.bind_eq, Async.wlp_perform_bind]
  intro _
  obtain ⟨htallied, hcounter⟩ := roundStarted (T := T) k
  rw [server_perform, server_perform]
  generalize (k.perform (.redisIncr (.dispatchRounds T))).perform
    (.redisExpire (.dispatchRounds T) 3600) = k₁ at htallied hcounter
  -- what follows keeps the counter, or ends in the failure of the dispatch
  have hsearched : ∀ k', k₁.Goes T k' → Attempted T k k' := by
    intro k' hk'
    exact .searched (htallied.trans hk'.toTallied) (hk'.counter.trans hcounter)
  have hfailed : ∀ reason k', k₁.Goes T k' →
      (emitDispatchFailed T reason).wlp server cond (fun _ => Attempted T k) k' := by
    intro reason k' hk'
    refine Async.wlp_mono (wlp_emitDispatchFailed_gaveUp reason) fun r k'' hk'' => ?_
    refine .failed ((htallied.trans hk'.toTallied).trans hk''.tallied) hk''.mem fun hnone => ?_
    refine hk''.orderly (Config.noLateOffer_of_failures ?_)
    rw [hk'.failures, htallied.failures, hnone]
  have hbind : ∀ {β : Type} {p : Prog β} {f : β → Prog Unit} {k' : Config}, OnlyRound T p →
      k₁.Goes T k' → (∀ a k'', k₁.Goes T k'' → (f a).wlp server cond (fun _ => Attempted T k) k'') →
      (p.bind f).wlp server cond (fun _ => Attempted T k) k' := by
    intro β p f k' hp hk' hf
    refine Async.wlp_bind (Async.wlp_mono hp.wlp fun r k'' hk'' => ?_)
    cases r with
    | ok a => exact hf a k'' (hk'.trans hk'')
    | error e => exact hsearched k'' (hk'.trans hk'')
  rw [Async.bind_eq, Async.wlp_query_bind]
  intro _
  rw [Async.bind_eq, Async.wlp_query_bind]
  intro _
  have hasked : k₁.Goes T ((k₁.perform .external).perform .external) :=
    (Config.goes_perform rfl).trans (Config.goes_perform rfl)
  rw [server_perform, server_perform, server_store]
  split_ifs
  · exact hfailed _ _ hasked
  · refine hbind (Async.only_query.mpr rfl) hasked fun trip k₂ hk₂ => ?_
    split_ifs
    · exact hsearched k₂ hk₂
    · refine hbind (Async.Only.tryCatch (Async.only_query.mpr rfl) fun _ => trivial) hk₂
        fun dropoff k₃ hk₃ => ?_
      refine hbind (round_notifyCandidates _ (hshort serviceType k₁.store) _ _ _ _ _) hk₃
        fun notified k₄ hk₄ => ?_
      split_ifs
      · exact hfailed _ k₄ hk₄
      · exact hsearched k₄ hk₄

end Round

/-! ### Operations and handlers -/

section Turns

variable {cond : Config → Cmd → Prop} {k k' k'' : Config} {T : ℕ}
variable {env : Env} {config : ServiceType → ServiceDispatchConfig}

theorem Config.Idle.roundsSoFar (h : k.Idle T k') :
    k'.store.roundsSoFar T = k.store.roundsSoFar T := by
  have hget : k'.store.get (.dispatchRounds T) = k.store.get (.dispatchRounds T) := by
    rw [Store.get_eq, Store.get_eq, h.counter, h.now]
  rw [Store.roundsSoFar, hget, Store.roundsSoFar]

theorem GaveUp.of_idle (h : k.Idle T k') (h' : GaveUp T k' k'') : GaveUp T k k'' where
  tallied := by
    have htallied : k.Tallied T (0 + 0) (0 + 1) k'' := h.toTallied.trans h'.tallied
    exact htallied
  mem := h'.mem
  orderly := fun hk => h'.orderly (h.orderly hk)

theorem Attempted.of_idle (h : k.Idle T k') (h' : Attempted T k' k'') : Attempted T k k'' := by
  cases h' with
  | searched htallied hcounter =>
    rw [h.roundsSoFar, h.now] at hcounter
    exact .searched (h.toTallied.trans htallied) hcounter
  | failed htallied hmem horderly =>
    refine .failed (h.toTallied.trans htallied) hmem fun hnone => horderly ?_
    rw [h.failures, hnone]

/-- What an operation does about the search of the trip `T`. -/
inductive Turn (config : ServiceType → ServiceDispatchConfig)
    (admits : Config → Operation → Prop) (T : ℕ) (k : Config) : Config → Prop
  | kept {k' : Config} (h : k.Kept T k') : Turn config admits T k k'
  | gaveUp {trip : Trip} {k' : Config} (htrip : k.store.trips.find? T = some trip)
      (hpending : trip.status = .pending) (h : GaveUp T k k') : Turn config admits T k k'
  | attempted {trip : Trip} {k' : Config} (htrip : k.store.trips.find? T = some trip)
      (hpending : trip.status = .pending)
      (hless : k.store.roundsSoFar T < (config trip.serviceType).maxDispatchAttempts)
      (h : Attempted T k k') : Turn config admits T k k'
  | waited {ms : ℕ} (hadmits : admits k (.wait ms)) : Turn config admits T k (k.perform (.tick ms))

variable {admits : Config → Operation → Prop}

theorem Turn.of_idle (h : k.Idle T k') (htrips : k'.store.trips = k.store.trips)
    (h' : Turn config (fun _ _ => False) T k' k'') : Turn config admits T k k'' := by
  cases h' with
  | kept h' => exact .kept (h.kept.trans h')
  | gaveUp htrip hpending h' => exact .gaveUp (htrips ▸ htrip) hpending (h'.of_idle h)
  | attempted htrip hpending hless h' =>
    rw [h.roundsSoFar] at hless
    exact .attempted (htrips ▸ htrip) hpending hless (h'.of_idle h)
  | waited hadmits => exact hadmits.elim

/-- A program that neither searches for the trip nor writes a trip, followed by another. -/
theorem wlp_bind_turn {α : Type} {p : Prog α} {f : α → Prog Unit} (hp : OnlyNeutral T p)
    (htrips : p.Only fun c => c.keepsTrips = true)
    (hf : ∀ a (k' : Config), (f a).wlp server cond
      (fun _ => Turn config (fun _ _ => False) T k') k') :
    (p.bind f).wlp server cond (fun _ => Turn config admits T k) k := by
  have hrows : p.wlp server cond (fun _ k' => k'.store.trips = k.store.trips) k := by
    refine Async.Only.wlp (A := fun k' : Config => k'.store.trips = k.store.trips)
      (fun c (k' : Config) hc _ hk' => ?_) htrips rfl
    exact (Cmd.exec_trips hc).trans hk'
  refine Async.wlp_bind (Async.wlp_mono (Async.wlp_and hp.wlp hrows) ?_)
  rintro r k' ⟨hidle, hrows'⟩
  cases r with
  | ok a => exact Async.wlp_mono (hf a k') fun _ k'' h => h.of_idle hidle hrows'
  | error e => exact .kept hidle.kept

theorem neutral_of_onlySearches {t : ℕ} {p : Prog Unit} (hp : OnlySearches t p) (hne : t ≠ T) :
    OnlyNeutral T p := Async.Only.mono hp fun _ hc => Cmd.isNeutral_of_searches hc hne

section

variable (hconfig : ∀ serviceType s, env.dispatch.getDispatchConfig serviceType s = config serviceType)
  (hshort : ∀ serviceType, (config serviceType).dispatchTimeoutMs < 3600000)

include hconfig hshort

theorem wlp_attemptDispatch_config (pickup : Point) (serviceType : ServiceType)
    (vehicleTypeId : Option ℕ) :
    (attemptDispatch env.dispatch T pickup serviceType vehicleTypeId).wlp server cond
      (fun _ => Attempted T k) k := by
  refine wlp_attemptDispatch_attempted env.dispatch (fun serviceType s => ?_) _ _ _
  rw [hconfig]
  exact hshort serviceType

theorem wlp_checkAndRetryDispatch_turn : (checkAndRetryDispatch env.dispatch T).wlp server cond
    (fun _ => Turn config admits T k) k := by
  rw [checkAndRetryDispatch, Async.bind_eq, Async.wlp_query_bind]
  intro _
  have hfind : k.Idle T (k.perform (.findTrip T)) := Config.idle_perform rfl
  rw [server_store, server_perform]
  cases htrip : (k.store.trips.find? T).filter fun t => t.status = .pending with
  | none => exact .kept hfind.kept
  | some trip =>
    obtain ⟨hsome, hstatus⟩ := Option.filter_eq_some_iff.mp htrip
    have hpending : trip.status = .pending := of_decide_eq_true hstatus
    dsimp only
    rw [Async.bind_eq, findNotifiedDrivers, Async.wlp_query_bind]
    intro _
    have hcount := hfind.trans (Config.idle_perform (c := .findAttempts T) rfl)
    rw [server_store, server_perform]
    split_ifs
    · rw [Async.bind_eq, Async.wlp_query_bind]
      intro _
      rw [Async.bind_eq, Async.wlp_query_bind]
      intro _
      have hread := (hcount.trans
        (Config.idle_perform (c := .redisGet (.dispatchRounds T)) rfl)).trans
          (Config.idle_perform (c := .external) rfl)
      rw [hconfig]
      split_ifs with hmax
      · exact Async.wlp_mono (wlp_emitDispatchFailed_gaveUp _) fun _ _ h =>
          .gaveUp hsome hpending (h.of_idle hread)
      · rw [Async.bind_eq, Async.wlp_query_bind]
        intro _
        have hpickup := hread.trans (Config.idle_perform (c := .findTripCoordinates T) rfl)
        have hless : k.store.roundsSoFar T < (config trip.serviceType).maxDispatchAttempts :=
          Nat.lt_of_not_le hmax
        exact Async.wlp_mono (wlp_attemptDispatch_config hconfig hshort _ _ _) fun _ _ h =>
          .attempted hsome hpending hless (h.of_idle hpickup)
    · exact .kept hcount.kept

theorem wlp_handleDriverDeclineAndRetry_turn (t driverId : ℕ) :
    (handleDriverDeclineAndRetry env.dispatch t driverId).wlp server cond
      (fun _ => Turn config admits T k) k := by
  by_cases ht : t = T
  · subst ht
    refine wlp_bind_turn (neutral_handleDriverDecline t t driverId) ?_ fun _ k' =>
      wlp_checkAndRetryDispatch_turn hconfig hshort
    refine Async.only_perform_bind.mpr ⟨rfl, fun _ => ?_⟩
    refine Async.only_perform_bind.mpr ⟨rfl, fun _ => ?_⟩
    exact (onlyRedispatches_cancelTimeoutJob t driverId).searches.mono fun _ hc => Cmd.keepsTrips_of_searches hc
  · have hneutral : OnlyNeutral T (handleDriverDeclineAndRetry env.dispatch t driverId) :=
      neutral_of_onlySearches (onlySearches_handleDriverDeclineAndRetry env.dispatch t driverId) ht
    exact Async.wlp_mono hneutral.wlp fun _ _ h => .kept h.kept

theorem wlp_handleDriverTimeout_turn (t driverId : ℕ) :
    (handleDriverTimeout env.dispatch t driverId).wlp server cond
      (fun _ => Turn config admits T k) k := by
  by_cases ht : t = T
  · subst ht
    have hperform : ∀ {c : Cmd} {f : Unit → Prog Unit} {admits : Config → Operation → Prop}
        {k : Config}, c.isNeutral t = true → c.keepsTrips = true →
        (∀ k', (f ()).wlp server cond (fun _ => Turn config (fun _ _ => False) t k') k') →
        ((Async.perform c).bind f).wlp server cond (fun _ => Turn config admits t k) k := by
      intro c f admits k hneutral htrips hf
      exact wlp_bind_turn (Async.only_perform.mpr hneutral) (Async.only_perform.mpr htrips)
        fun _ k' => hf k'
    refine hperform rfl rfl fun _ => hperform rfl rfl fun _ => hperform rfl rfl fun _ => ?_
    exact wlp_checkAndRetryDispatch_turn hconfig hshort
  · have hneutral : OnlyNeutral T (handleDriverTimeout env.dispatch t driverId) :=
      neutral_of_onlySearches (onlySearches_handleDriverTimeout env.dispatch t driverId) ht
    exact Async.wlp_mono hneutral.wlp fun _ _ h => .kept h.kept

theorem wlp_declineTrip_turn (t userId : ℕ) :
    (declineTrip env.dispatch t userId).wlp server cond (fun _ => Turn config admits T k) k := by
  have hget : (getTrip t).Only fun c => c.keepsTrips = true :=
    (onlyReports_getTrip t).mono fun _ hc => Cmd.keepsTrips_of_reports hc
  refine wlp_bind_turn (neutral_getTrip T t) hget fun _ k => ?_
  refine wlp_bind_turn (Async.only_query.mpr rfl) (Async.only_query.mpr rfl) fun driver k => ?_
  cases driver with
  | none => exact .kept (Config.Idle.refl k T).kept
  | some driverId =>
    refine wlp_bind_turn (Async.only_query.mpr rfl) (Async.only_query.mpr rfl) fun active k => ?_
    split_ifs
    · exact wlp_handleDriverDeclineAndRetry_turn hconfig hshort t driverId
    · exact .kept (Config.Idle.refl k T).kept

end

/-- The operation is a pass of the recovery. -/
def Operation.isRecovery : Operation → Bool
  | .recovery _ => true
  | _ => false

/-- Asking for a pending request has nothing to do with a search, if no attempt is opened again. -/
theorem wlp_getPendingRequestForDriver_idle (hrearm : ∀ k c, cond k c → c.isRearm = false)
    (userId : ℕ) : (getPendingRequestForDriver userId).wlp server cond
      (fun _ k' => k.Idle T k') k := by
  have honly : (getPendingRequestForDriver userId).Only fun c =>
      c.isNeutral T = true ∨ c.isRearm = true := by
    refine Async.only_query_bind.mpr ⟨Or.inl rfl, fun s => ?_⟩
    split
    · trivial
    · refine Async.only_query_bind.mpr ⟨Or.inl rfl, fun s => ?_⟩
      split
      · trivial
      · refine Async.only_query_bind.mpr ⟨Or.inl rfl, fun s => ?_⟩
        split_ifs
        · trivial
        · have hrearmed : ∀ t d, (rearm t d).Only fun c =>
              c.isNeutral T = true ∨ c.isRearm = true := by
            intro t d
            refine Async.Only.tryCatch ?_ fun _ => trivial
            exact Async.Only.bind (Async.only_queryE.mpr (Or.inr rfl)) fun _ =>
              Async.only_perform.mpr (Or.inl rfl)
          refine (hrearmed _ _).bind fun _ => Async.Only.bind ?_ fun coords => ?_
          · exact Async.Only.tryCatch (Async.only_query.mpr (Or.inl rfl)) fun _ => trivial
          · split
            · trivial
            · trivial
  refine Async.Only.wlp (A := fun k' => k.Idle T k') (fun c k' hc hcond hk' => ?_) honly (.refl k T)
  have hno : c.isRearm = false := hrearm k' c hcond
  rcases hc with hneutral | hrearm'
  · exact hk'.trans (Config.idle_perform hneutral)
  · rw [hno] at hrearm'
    cases hrearm'

/-- What an operation does about the search of one trip. -/
theorem wlp_program_turn (pricing : PricingEnv)
    (hconfig : ∀ serviceType s, env.dispatch.getDispatchConfig serviceType s = config serviceType)
    (hshort : ∀ serviceType, (config serviceType).dispatchTimeoutMs < 3600000)
    (hrearm : ∀ k c, cond k c → c.isRearm = false) (op : Operation)
    (hadmits : admits k op) (hrecovery : op.isRecovery = false) :
    (op.program env pricing).wlp server cond (fun _ => Turn config admits T k) k := by
  have hneutral : ∀ {α : Type} {p : Prog α}, OnlyNeutral T p →
      p.wlp server cond (fun _ => Turn config admits T k) k :=
    fun hp => Async.wlp_mono hp.wlp fun _ _ h => .kept h.kept
  cases op with
  | createTrip clientId dto => exact Async.wlp_as (hneutral (neutral_createTrip T pricing clientId dto))
  | updateStatus t userId role dto =>
    exact Async.wlp_as (Async.wlp_mono (wlp_updateStatus_kept t userId role dto) fun _ _ => .kept)
  | completeTrip t userId role dto =>
    exact Async.wlp_as (hneutral (neutral_completeTrip T t userId role dto))
  | wsAccept t userId =>
    have haccept : ((updateStatus t userId .driver { status := .accepted }).bind
        fun _ => (pure () : Prog Unit)).wlp server cond (fun _ k' => k.Kept T k') k :=
      wlp_bind_kept (wlp_updateStatus_kept t userId .driver _) fun _ k => (Config.Idle.refl k T).kept
    refine Async.wlp_tryCatch (Async.wlp_mono haccept fun r k' h => ?_)
    cases r with
    | ok a => exact .kept h
    | error e => exact .kept h
  | declineTrip t userId => exact wlp_declineTrip_turn hconfig hshort t userId
  | wsDecline t driverId => exact wlp_handleDriverDeclineAndRetry_turn hconfig hshort t driverId
  | timeout job =>
    refine wlp_bind_turn (Async.only_perform.mpr rfl) (Async.only_perform.mpr rfl)
      fun _ k' => ?_
    exact wlp_handleDriverTimeout_turn hconfig hshort job.tripId job.driverId
  | sweep => exact hneutral (neutral_sweepStaleAssigned T)
  | wait ms => exact fun _ => .waited hadmits
  | recovery quiet => cases hrecovery
  | getPendingRequest userId =>
    exact Async.wlp_as (Async.wlp_mono (wlp_getPendingRequestForDriver_idle hrearm userId)
      fun _ _ h => .kept h.kept)

/-- What the handlers of an event do about the search of the trip `T`. -/
inductive Handled (T : ℕ) (event : DomainEvent) (k k' : Config) : Prop
  | searched {pickup : Point} {serviceType : ServiceType} {vehicleTypeId : ℕ}
      (hevent : event = .tripCreated T pickup serviceType vehicleTypeId) (h : Attempted T k k')
      (hsearch : ∀ e ∈ k'.todo, e ∈ k.todo ∨ e.isSearch = true)
  | cancelled {reason : String} (hevent : event = .dispatchFailed T reason)
      (hclosed : k'.store.tripStatus T ≠ some .pending) (h : k.Idle T k')
  | kept (hcreated : ∀ pickup serviceType vehicleTypeId,
        event ≠ .tripCreated T pickup serviceType vehicleTypeId)
      (hfailed : ∀ reason, event ≠ .dispatchFailed T reason) (h : k.Idle T k')

/-- The trip whose dispatch has failed is cancelled, unless it is not pending any more. -/
theorem wlp_handleDispatchFailed_closed (reason : String) :
    (handleDispatchFailed T reason).wlp server cond
      (fun _ k' => k'.store.tripStatus T ≠ some .pending) k := by
  refine Async.wlp_mono (wlp_handleDispatchFailed reason) fun r k' hwrites hpending => ?_
  rw [Store.tripStatus, hwrites.trips, Table.find?_updateMany, Option.map_map] at hpending
  obtain ⟨trip, htrip, hstatus⟩ := Option.map_eq_some_iff.mp hpending
  have hid : trip.id = T := Table.key_of_find? htrip
  rw [Function.comp_apply] at hstatus
  split_ifs at hstatus with hsel
  · cases hstatus
  · simp [hid, hstatus] at hsel

theorem wlp_handleEvent_handled
    (hconfig : ∀ serviceType s, env.dispatch.getDispatchConfig serviceType s = config serviceType)
    (hshort : ∀ serviceType, (config serviceType).dispatchTimeoutMs < 3600000)
    (event : DomainEvent) :
    (handleEvent env event).wlp server cond (fun _ => Handled T event k) k := by
  have hneutral : ∀ {p : Prog Unit}, eventHandlers env event = [p] → OnlyNeutral T p →
      (∀ pickup serviceType vehicleTypeId,
        event ≠ .tripCreated T pickup serviceType vehicleTypeId) →
      (∀ reason, event ≠ .dispatchFailed T reason) →
      (handleEvent env event).wlp server cond (fun _ => Handled T event k) k := by
    intro p hhandlers hp hcreated hfailed
    exact wlp_handleEvent_single hhandlers
      (Async.wlp_mono hp.wlp fun _ _ h => .kept hcreated hfailed h)
  cases event with
  | tripCreated t pickup serviceType vehicleTypeId =>
    by_cases ht : t = T
    · subst ht
      have hsearch : (attemptDispatch env.dispatch t pickup serviceType
          (some vehicleTypeId)).wlp server cond
            (fun _ k' => ∀ e ∈ k'.todo, e ∈ k.todo ∨ e.isSearch = true) k := by
        refine Async.wlp_mono (wlp_attemptDispatch env.dispatch _ _ _) fun r k' h e he => ?_
        obtain ⟨events, hstays, hevents⟩ := h.stays
        rw [hstays.todo, List.mem_append] at he
        refine he.imp_right fun hnew => ?_
        rcases hevents e hnew with ⟨_, _, _, rfl⟩ | ⟨_, rfl⟩
        · rfl
        · rfl
      refine wlp_handleEvent_single rfl ?_
      exact Async.wlp_mono (Async.wlp_and (wlp_attemptDispatch_config hconfig hshort _ _ _)
        hsearch) fun _ _ h => .searched rfl h.1 h.2
    · refine hneutral rfl (neutral_of_onlySearches (onlyRedispatches_attemptDispatch _ _ _ _ _).searches ht)
        (fun _ _ _ h => ht (DomainEvent.tripCreated.inj h).1) fun _ h => nomatch h
  | tripCompleted t driverId clientId finalPrice =>
    exact hneutral rfl (neutral_handleTripCompleted T t) (fun _ _ _ h => nomatch h)
      fun _ h => nomatch h
  | driverAssigned t driverId =>
    exact hneutral rfl (neutral_handleDriverAssigned T t driverId env.geo)
      (fun _ _ _ h => nomatch h) fun _ h => nomatch h
  | dispatchFailed t reason =>
    by_cases ht : t = T
    · subst ht
      refine wlp_handleEvent_single rfl ?_
      refine Async.wlp_mono (Async.wlp_and (neutral_handleDispatchFailed t t reason).wlp
        (wlp_handleDispatchFailed_closed reason)) fun _ _ h => .cancelled rfl h.2 h.1
    · exact hneutral rfl (neutral_handleDispatchFailed T t reason) (fun _ _ _ h => nomatch h)
        fun _ h => ht (DomainEvent.dispatchFailed.inj h).1
  | _ => exact wlp_handleEvent_nil rfl (.kept (fun _ _ _ h => nomatch h) (fun _ h => nomatch h)
      (.refl k T))

end Turns

end Telima
