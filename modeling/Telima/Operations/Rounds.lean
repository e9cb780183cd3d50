import Telima.Operations.Tally

/-!
# Dispatch terminates

With a configuration that does not change and timeouts of less than an hour, a trip is searched for
at most `max 1 maxDispatchAttempts` times: the counter in Redis outlives every timeout job, and so
counts the rounds.  When no timeout job of an unanswered trip is left, its dispatch has failed, once,
and no offer was made afterwards: `dispatch_terminates`.
-/

namespace Telima

open TripsService DispatchService

namespace Offers

variable {o o' : Offers} {t : ℕ}

/-- No two jobs have the same id, and the offers of the trip have timeout jobs. -/
structure Queued (o : Offers) (t : ℕ) : Prop where
  distinct : ∀ job ∈ o.jobs, ∀ job' ∈ o.jobs, job.id = job'.id → job = job'
  job : ∀ d, o.Notified t d → ∃ job ∈ o.jobs, job.tripId = t ∧ job.driverId = d

theorem Move.queued (h : Move o o') (hk : o.WellKeyed) (hq : o.Queued t) : o'.Queued t := by
  cases h with
  | @withdrawn tripId X _ _ _ hanswer h =>
    have hold : ∀ job ∈ o'.jobs, job ∈ o.jobs := fun job hjob => ((h.jobs job).mp hjob).1
    refine ⟨fun job hjob job' hjob' => hq.distinct job (hold job hjob) job' (hold job' hjob'),
      fun d hn => ?_⟩
    obtain ⟨hbefore, hkept⟩ := h.toClosed.notified hanswer hn
    obtain ⟨job, hjob, htrip, hdriver⟩ := hq.job d hbefore
    refine ⟨job, (h.jobs job).mpr ⟨hjob, fun x hx => hk.ne_name hjob ?_⟩, htrip, hdriver⟩
    rintro ⟨rfl, rfl⟩
    exact hkept htrip.symm (hdriver ▸ hx)
  | @expired expired _ _ hexpired h =>
    have hold : ∀ job ∈ o'.jobs, job ∈ o.jobs := by
      intro job hjob
      rw [h.jobs] at hjob
      exact List.mem_of_mem_filter hjob
    refine ⟨fun job hjob job' hjob' => hq.distinct job (hold job hjob) job' (hold job' hjob'),
      fun d hn => ?_⟩
    obtain ⟨hbefore, hkept⟩ := h.toClosed.notified (answers_const DispatchStatus.noConfusion) hn
    obtain ⟨job, hjob, htrip, hdriver⟩ := hq.job d hbefore
    have hne : job.id ≠ expired.id := by
      intro hid
      obtain rfl := hq.distinct job hjob expired hexpired hid
      exact hkept htrip.symm hdriver.symm
    refine ⟨job, ?_, htrip, hdriver⟩
    rw [h.jobs]
    exact List.mem_filter.mpr ⟨hjob, decide_eq_true hne⟩
  | @offered tripId driverId runAt _ _ h =>
    -- the new job has an id that was not in use
    have hfresh : ∀ job ∈ o.jobs, job.id ≠ o.jobCount + 1 := by
      intro job hjob hid
      have hle := hk.job_le job hjob
      omega
    refine ⟨fun job hjob job' hjob' hid => ?_, fun d hn => ?_⟩
    · rcases (h.jobs job).mp hjob with ⟨hold, -⟩ | rfl
      · rcases (h.jobs job').mp hjob' with ⟨hold', -⟩ | rfl
        · exact hq.distinct job hold job' hold' hid
        · exact absurd hid (hfresh job hold)
      · rcases (h.jobs job').mp hjob' with ⟨hold', -⟩ | rfl
        · exact absurd hid.symm (hfresh job' hold')
        · rfl
    · by_cases hnew : t = tripId ∧ d = driverId
      · obtain ⟨rfl, rfl⟩ := hnew
        exact ⟨_, (h.jobs _).mpr (Or.inr rfl), rfl, rfl⟩
      · have hbefore : o.Notified t d := (h.notified.mp hn).resolve_left hnew
        obtain ⟨job, hjob, htrip, hdriver⟩ := hq.job d hbefore
        refine ⟨job, (h.jobs job).mpr (Or.inl ⟨hjob, hk.ne_name hjob ?_⟩), htrip, hdriver⟩
        rintro ⟨rfl, rfl⟩
        exact hnew ⟨htrip.symm, hdriver.symm⟩

end Offers

/-- No attempt is opened again. -/
def NeverRearms (_ : Config) (c : Cmd) : Prop := c.isRearm = false

/-- What the dispatch keeps whatever happens, and a timeout job for every offer of the trip. -/
structure Config.Watched (k : Config) (T : ℕ) : Prop where
  settled : k.Settled
  noOrphan : k.NoOrphan
  wellKeyed : k.store.offers.WellKeyed
  queued : k.store.offers.Queued T

/-- The trip keeps its order, is not pending again, and is not created again. -/
structure Config.Continues (k : Config) (T : ℕ) (k' : Config) : Prop where
  row : ∀ trip, k.store.trips.find? T = some trip → ∃ trip', k'.store.trips.find? T = some trip' ∧
    trip'.order = trip.order ∧ (trip'.status = .pending → trip.status = .pending)
  created : (k.store.trips.find? T).isSome = true →
    (∀ pickup serviceType vehicleTypeId,
      .tripCreated T pickup serviceType vehicleTypeId ∉ k.todo) →
    ∀ pickup serviceType vehicleTypeId, .tripCreated T pickup serviceType vehicleTypeId ∉ k'.todo

section Effects

variable {env : Env} {admits : Config → Operation → Prop} {cond : Config → Cmd → Prop}
variable {k k' k'' : Config} {T : ℕ}

theorem Effect.watched (h : Effect env admits cond k k')
    (hrearm : ∀ k c, cond k c → c.isRearm = false) (hk : k.Watched T) : k'.Watched T := by
  have hoffers : k'.store.offers.WellKeyed ∧ k'.store.offers.Queued T := by
    rcases h.offers with hmoves | ⟨ms, -, rfl⟩ | ⟨t, d, k₀, -, -, -, hc, -, -⟩
    · exact hmoves.induction (P := fun o => o.WellKeyed ∧ o.Queued T)
        (fun hmove ho => ⟨hmove.wellKeyed ho.1, hmove.queued ho.1 ho.2⟩) ⟨hk.wellKeyed, hk.queued⟩
    · exact ⟨(elapsed_tick ms k.store).wellKeyed hk.wellKeyed, ⟨hk.queued.distinct, hk.queued.job⟩⟩
    · have hfalse := hrearm k₀ _ hc
      cases hfalse
  exact ⟨h.settled hk.settled, h.noOrphan hk.noOrphan, hoffers.1, hoffers.2⟩

theorem Config.Continues.refl (k : Config) (T : ℕ) : k.Continues T k :=
  ⟨fun trip htrip => ⟨trip, htrip, rfl, id⟩, fun _ hnone => hnone⟩

theorem Config.Continues.trans (h : k.Continues T k') (h' : k'.Continues T k'') :
    k.Continues T k'' := by
  refine ⟨fun trip htrip => ?_, fun hsome hnone => ?_⟩
  · obtain ⟨trip', htrip', horder, hpending⟩ := h.row trip htrip
    obtain ⟨trip'', htrip'', horder', hpending'⟩ := h'.row trip' htrip'
    exact ⟨trip'', htrip'', horder'.trans horder, fun h => hpending (hpending' h)⟩
  · refine h'.created ?_ (h.created hsome hnone)
    obtain ⟨trip, htrip⟩ := Option.isSome_iff_exists.mp hsome
    obtain ⟨trip', htrip', -, -⟩ := h.row trip htrip
    rw [htrip']
    rfl

theorem Effect.continues (h : Effect env admits cond k k') : k.Continues T k' := by
  refine ⟨fun trip htrip => (h.row T).keeps htrip, fun hsome hnone p st v hmem => ?_⟩
  obtain ⟨rest, events, hrest, htodo, hevents⟩ := h.emitted
  rw [htodo, List.mem_append] at hmem
  rcases hmem with hold | hnew
  · exact hnone p st v (hrest.subset hold)
  · cases hevents _ hnew with
    | report hreport => cases hreport
    | created hnew _ _ =>
      rw [hnew] at hsome
      cases hsome

theorem Effects.watched (h : Effects env admits cond k k')
    (hrearm : ∀ k c, cond k c → c.isRearm = false) (hk : k.Watched T) :
    k'.Watched T ∧ k.Continues T k' := by
  induction h with
  | refl => exact ⟨hk, .refl k T⟩
  | tail _ heffect ih => exact ⟨heffect.watched hrearm ih.1, ih.2.trans heffect.continues⟩

end Effects

/-! ### The counter counts -/

/-- What the counter in Redis and the log say about the search of the trip. -/
structure Config.Counted (config : ServiceType → ServiceDispatchConfig) (k : Config) (T : ℕ) :
    Prop where
  bounded : ∀ trip, k.store.trips.find? T = some trip →
    k.rounds T ≤ max 1 (config trip.serviceType).maxDispatchAttempts
  unstarted : (k.store.trips.find? T = none ∨ ∃ pickup serviceType vehicleTypeId,
      .tripCreated T pickup serviceType vehicleTypeId ∈ k.todo) →
    k.rounds T = 0 ∧ k.failures T = 0 ∧ k.store.redis (.dispatchRounds T) = none
  /-- While the trip is searched for, its counter outlives its timeout jobs. -/
  searching : k.store.tripStatus T = some .pending →
    (∀ pickup serviceType vehicleTypeId,
      .tripCreated T pickup serviceType vehicleTypeId ∉ k.todo) →
    (∀ reason, .dispatchFailed T reason ∉ k.todo) →
    k.failures T = 0 ∧ ∃ e, k.store.redis (.dispatchRounds T) = some ⟨.count (k.rounds T), some e⟩ ∧
      ∀ job ∈ k.store.jobs, job.tripId = T → job.runAt < e
  failures_le : k.failures T ≤ 1
  punctual : ∀ job ∈ k.store.jobs, job.tripId = T →
    k.store.now ≤ job.runAt ∧ job.runAt < k.store.now + 3600000
  orderly : k.NoLateOffer T

section Counting

variable {config : ServiceType → ServiceDispatchConfig} {k k₀ k' : Config} {T : ℕ}

namespace Config

theorem Watched.accepted_of_mem (h : k.Watched T) {d : ℕ} (hmem : .driverAssigned T d ∈ k.todo) :
    k.store.tripStatus T = some .accepted ∧ k.todo = [.driverAssigned T d] := by
  obtain ⟨htodo, trip, htrip, hstatus, -⟩ := h.settled.assigned T d hmem
  refine ⟨?_, htodo⟩
  rw [Store.tripStatus, htrip, Option.map_some, hstatus]

/-- A trip that is searched for has a timeout job. -/
theorem Watched.exists_job (h : k.Watched T) (hpending : k.store.tripStatus T = some .pending)
    (hcreated : ∀ pickup serviceType vehicleTypeId,
      .tripCreated T pickup serviceType vehicleTypeId ∉ k.todo)
    (hfailed : ∀ reason, .dispatchFailed T reason ∉ k.todo) :
    ∃ job ∈ k.store.jobs, job.tripId = T := by
  rcases h.noOrphan.sought T hpending with ⟨d, hn⟩ | ⟨p, st, v, hmem⟩ | ⟨reason, hmem⟩
  · obtain ⟨job, hjob, htrip, -⟩ := h.queued.job d hn
    exact ⟨job, hjob, htrip⟩
  · exact absurd hmem (hcreated p st v)
  · exact absurd hmem (hfailed reason)

/-- Between operations, the counter of a pending trip is live. -/
theorem Counted.roundsSoFar (hk : k.Counted config T) (hwatched : k.Watched T)
    (hidle : k.todo = []) (hpending : k.store.tripStatus T = some .pending) :
    k.failures T = 0 ∧ k.store.roundsSoFar T = k.rounds T := by
  have hcreated : ∀ p st v, .tripCreated T p st v ∉ k.todo := by simp [hidle]
  have hfailed : ∀ reason, .dispatchFailed T reason ∉ k.todo := by simp [hidle]
  obtain ⟨hnone, e, hcounter, houtlives⟩ := hk.searching hpending hcreated hfailed
  obtain ⟨job, hjob, htrip⟩ := hwatched.exists_job hpending hcreated hfailed
  have hbefore := houtlives job hjob htrip
  have hafter := (hk.punctual job hjob htrip).1
  refine ⟨hnone, Store.roundsSoFar_of_get ?_⟩
  rw [Store.get_eq, hcounter, Option.bind_some]
  show (if k.store.now < e then some _ else none) = _
  rw [if_pos (by omega)]

/-- A program that does not search for the trip, on `k` without the event that is handled. -/
theorem Kept.counted (h : k₀.Kept T k') (hstore : k₀.store = k.store) (hlog : k₀.log = k.log)
    (hk : k.Counted config T) (hwatched : k.Watched T) (hwatched' : k'.Watched T)
    (hcontinues : k.Continues T k')
    (hcreated : ∀ pickup serviceType vehicleTypeId,
      .tripCreated T pickup serviceType vehicleTypeId ∉ k.todo)
    (hfailed : k'.store.tripStatus T = some .pending → ∀ reason,
      .dispatchFailed T reason ∈ k.todo → .dispatchFailed T reason ∈ k₀.todo) :
    k'.Counted config T := by
  have hrounds : k'.rounds T = k.rounds T := by
    rw [h.rounds, Nat.add_zero, rounds, hlog, rounds]
  have hfailures : k'.failures T = k.failures T := by
    rw [h.failures, Nat.add_zero, failures, hlog, failures]
  have hnow : k'.store.now = k.store.now := by rw [h.now, hstore]
  have hold : ∀ job ∈ k'.store.jobs, job.tripId = T → job ∈ k.store.jobs := by
    intro job hjob htrip
    rw [← hstore]
    exact h.old job hjob htrip
  -- a trip whose accept is to be handled exists, and is not pending
  have hcounter : k'.store.tripStatus T = some .pending ∨
      (k'.store.trips.find? T = none ∨ ∃ pickup serviceType vehicleTypeId,
        .tripCreated T pickup serviceType vehicleTypeId ∈ k'.todo) →
      k'.store.redis (.dispatchRounds T) = k.store.redis (.dispatchRounds T) := by
    intro hopen
    rcases h.counter with hsame | ⟨d, hmem⟩
    · rw [hsame, hstore]
    · obtain ⟨haccepted, htodo⟩ := hwatched'.accepted_of_mem hmem
      rcases hopen with hpending | hnone | ⟨p, st, v, hmem'⟩
      · rw [haccepted] at hpending
        cases hpending
      · rw [Store.tripStatus, hnone] at haccepted
        cases haccepted
      · rw [htodo, List.mem_singleton] at hmem'
        cases hmem'
  refine ⟨fun trip' htrip' => ?_, fun hopen => ?_, fun hpending hcreated' hfailed' => ?_, ?_,
    fun job hjob htrip => ?_, ?_⟩
  · rw [hrounds]
    cases htrip : k.store.trips.find? T with
    | none =>
      rw [(hk.unstarted (Or.inl htrip)).1]
      exact Nat.zero_le _
    | some trip =>
      obtain ⟨trip'', hrow, horder, -⟩ := hcontinues.row trip htrip
      obtain rfl := Option.some.inj (hrow.symm.trans htrip')
      have hservice : trip''.serviceType = trip.serviceType := congrArg Prod.snd horder
      rw [hservice]
      exact hk.bounded trip htrip
  · -- the trip did not exist before
    have habsent : k.store.trips.find? T = none := by
      by_contra hsome
      have hsome' : (k.store.trips.find? T).isSome = true := Option.isSome_iff_ne_none.mpr hsome
      rcases hopen with hnone | ⟨p, st, v, hmem⟩
      · obtain ⟨trip, htrip⟩ := Option.isSome_iff_exists.mp hsome'
        obtain ⟨trip', htrip', -⟩ := hcontinues.row trip htrip
        rw [hnone] at htrip'
        cases htrip'
      · exact hcontinues.created hsome' hcreated p st v hmem
    rw [hrounds, hfailures, hcounter (Or.inr hopen)]
    exact hk.unstarted (Or.inl habsent)
  · -- the trip was pending before
    have hbefore : k.store.tripStatus T = some .pending := by
      cases htrip : k.store.trips.find? T with
      | none =>
        rcases hwatched'.noOrphan.sought T hpending with ⟨d, hn⟩ | ⟨p, st, v, hmem⟩ | ⟨r, hmem⟩
        · have hn' : k.store.offers.Notified T d := hstore ▸ h.notified d hn
          have hsome := hwatched.settled.grounded.row T d hn'
          rw [htrip] at hsome
          cases hsome
        · exact absurd hmem (hcreated' p st v)
        · exact absurd hmem (hfailed' r)
      | some trip =>
        obtain ⟨trip', hrow, -, hsame⟩ := hcontinues.row trip htrip
        rw [Store.tripStatus, hrow, Option.map_some, Option.some_inj] at hpending
        rw [Store.tripStatus, htrip, Option.map_some, hsame hpending]
    have hfailed₀ : ∀ reason, .dispatchFailed T reason ∉ k.todo := by
      intro reason hmem
      exact hfailed' reason (h.todo.subset (hfailed hpending reason hmem))
    obtain ⟨hnone, e, hredis, houtlives⟩ := hk.searching hbefore hcreated hfailed₀
    refine ⟨hfailures.trans hnone, e, ?_, fun job hjob htrip => houtlives job (hold job hjob htrip) htrip⟩
    rw [hcounter (Or.inl hpending), hredis, hrounds]
  · rw [hfailures]
    exact hk.failures_le
  · rw [hnow]
    exact hk.punctual job (hold job hjob htrip) htrip
  · refine h.orderly ?_
    rw [NoLateOffer, hlog]
    exact hk.orderly

/-- The jobs of the trip after a round. -/
theorem Tallied.punctual {r f : ℕ} (h : k₀.Tallied T r f k') (hstore : k₀.store = k.store)
    (hk : ∀ job ∈ k.store.jobs, job.tripId = T →
      k.store.now ≤ job.runAt ∧ job.runAt < k.store.now + 3600000) :
    ∀ job ∈ k'.store.jobs, job.tripId = T →
      k'.store.now ≤ job.runAt ∧ job.runAt < k'.store.now + 3600000 := by
  intro job hjob htrip
  have hnow : k'.store.now = k.store.now := by rw [h.now, hstore]
  rw [hnow]
  rcases h.jobs job hjob htrip with hold | hnew
  · rw [hstore] at hold
    exact hk job hold htrip
  · rw [hstore] at hnew
    exact hnew

end Config

/-- One more round, and the trip is offered or its dispatch has failed. -/
theorem Attempted.counted (h : Attempted T k₀ k') (hstore : k₀.store = k.store)
    (hlog : k₀.log = k.log) (hk : k.Counted config T)
    (hnone : k.failures T = 0) (hsofar : k.store.roundsSoFar T = k.rounds T)
    (hbound : ∀ trip, k'.store.trips.find? T = some trip →
      k.rounds T + 1 ≤ max 1 (config trip.serviceType).maxDispatchAttempts)
    (hrow : (k'.store.trips.find? T).isSome = true)
    (hcreated : ∀ pickup serviceType vehicleTypeId,
      .tripCreated T pickup serviceType vehicleTypeId ∉ k'.todo) : k'.Counted config T := by
  have hunstarted : (k'.store.trips.find? T = none ∨ ∃ pickup serviceType vehicleTypeId,
      .tripCreated T pickup serviceType vehicleTypeId ∈ k'.todo) →
      k'.rounds T = 0 ∧ k'.failures T = 0 ∧ k'.store.redis (.dispatchRounds T) = none := by
    rintro (habsent | ⟨p, st, v, hmem⟩)
    · rw [habsent] at hrow
      cases hrow
    · exact absurd hmem (hcreated p st v)
  have hrounds₀ : k₀.rounds T = k.rounds T := by rw [Config.rounds, hlog, Config.rounds]
  have hfailures₀ : k₀.failures T = 0 := by
    rw [Config.failures, hlog]
    exact hnone
  cases h with
  | searched htallied hcounter =>
    have hrounds : k'.rounds T = k.rounds T + 1 := by rw [htallied.rounds, hrounds₀]
    have hfailures : k'.failures T = 0 := by rw [htallied.failures, hfailures₀]
    refine ⟨fun trip htrip => hrounds ▸ hbound trip htrip, hunstarted, fun _ _ _ => ?_, by omega,
      htallied.punctual hstore hk.punctual, Config.noLateOffer_of_failures hfailures⟩
    refine ⟨hfailures, k.store.now + 3600000, ?_, fun job hjob htrip => ?_⟩
    · rw [hcounter, hstore, hsofar, hrounds]
    · rcases htallied.jobs job hjob htrip with hold | hnew
      · rw [hstore] at hold
        exact (hk.punctual job hold htrip).2
      · rw [hstore] at hnew
        exact hnew.2
  | failed htallied hmem horderly =>
    have hrounds : k'.rounds T = k.rounds T + 1 := by rw [htallied.rounds, hrounds₀]
    have hfailures : k'.failures T = 1 := by rw [htallied.failures, hfailures₀]
    refine ⟨fun trip htrip => hrounds ▸ hbound trip htrip, hunstarted, fun _ _ hfailed => ?_,
      by omega, htallied.punctual hstore hk.punctual, horderly hfailures₀⟩
    obtain ⟨reason, hmem⟩ := hmem
    exact absurd hmem (hfailed reason)

/-- While time passes, no timeout job of the trip becomes overdue, and the recovery does not run. -/
def OnTime (T : ℕ) (k : Config) : Operation → Prop
  | .recovery _ => False
  | .wait ms => ∀ job ∈ k.store.jobs, job.tripId = T → k.store.now + ms ≤ job.runAt
  | _ => True

instance (T : ℕ) (k : Config) (op : Operation) : Decidable (OnTime T k op) := by
  induction op using Operation.casesOn <;> unfold OnTime <;> infer_instance

/-- An operation keeps the count. -/
theorem Turn.counted (h : Turn config (OnTime T) T k k') (hidle : k.todo = [])
    (hk : k.Counted config T) (hwatched : k.Watched T) (hwatched' : k'.Watched T)
    (hcontinues : k.Continues T k') : k'.Counted config T := by
  have hcreated : ∀ p st v, .tripCreated T p st v ∉ k.todo := by simp [hidle]
  have hpendingOf : ∀ {trip : Trip}, k.store.trips.find? T = some trip → trip.status = .pending →
      k.store.tripStatus T = some .pending := by
    intro trip htrip hpending
    rw [Store.tripStatus, htrip, Option.map_some, hpending]
  cases h with
  | kept h =>
    exact h.counted rfl rfl hk hwatched hwatched' hcontinues hcreated fun _ _ hmem => hmem
  | @gaveUp trip _ htrip hpending h =>
    obtain ⟨hnone, -⟩ := hk.roundsSoFar hwatched hidle (hpendingOf htrip hpending)
    obtain ⟨trip', htrip', horder, -⟩ := hcontinues.row trip htrip
    have hrounds : k'.rounds T = k.rounds T := by rw [h.tallied.rounds, Nat.add_zero]
    have hfailures : k'.failures T = 1 := by rw [h.tallied.failures, hnone]
    refine ⟨fun trip'' htrip'' => ?_, ?_, fun _ _ hfailed => ?_, by omega,
      h.tallied.punctual rfl hk.punctual, h.orderly hk.orderly⟩
    · obtain rfl := Option.some.inj (htrip'.symm.trans htrip'')
      have hservice : trip'.serviceType = trip.serviceType := congrArg Prod.snd horder
      rw [hrounds, hservice]
      exact hk.bounded trip htrip
    · rintro (habsent | ⟨p, st, v, hmem⟩)
      · rw [htrip'] at habsent
        cases habsent
      · exact absurd hmem (hcontinues.created (by rw [htrip]; rfl) hcreated p st v)
    · obtain ⟨reason, hmem⟩ := h.mem
      exact absurd hmem (hfailed reason)
  | @attempted trip _ htrip hpending hless h =>
    obtain ⟨hnone, hsofar⟩ := hk.roundsSoFar hwatched hidle (hpendingOf htrip hpending)
    obtain ⟨trip', htrip', horder, -⟩ := hcontinues.row trip htrip
    refine h.counted rfl rfl hk hnone hsofar (fun trip'' htrip'' => ?_) (by rw [htrip']; rfl)
      (hcontinues.created (by rw [htrip]; rfl) hcreated)
    obtain rfl := Option.some.inj (htrip'.symm.trans htrip'')
    have hservice : trip'.serviceType = trip.serviceType := congrArg Prod.snd horder
    rw [hservice]
    omega
  | @waited ms hadmits =>
    have htodo : (k.perform (.tick ms)).todo = k.todo := List.append_nil _
    refine ⟨hk.bounded, ?_, ?_, hk.failures_le, fun job hjob htrip => ?_, hk.orderly.perform fun h => by cases h⟩
    · rw [htodo]
      exact hk.unstarted
    · rw [htodo]
      exact hk.searching
    · have hdue : k.store.now + ms ≤ job.runAt := hadmits job hjob htrip
      have hlate := (hk.punctual job hjob htrip).2
      show k.store.now + ms ≤ job.runAt ∧ job.runAt < k.store.now + ms + 3600000
      omega

/-- The handlers of an event keep the count. -/
theorem Handled.counted {event : DomainEvent} {todo : List DomainEvent}
    (htodo : k.todo = event :: todo) (h : Handled T event { k with todo } k')
    (hk : k.Counted config T) (hwatched : k.Watched T) (hwatched' : k'.Watched T)
    (hcontinues : k.Continues T k') : k'.Counted config T := by
  -- the creation of a trip is handled before anything else
  have hcreated : (∀ p st v, event ≠ .tripCreated T p st v) →
      ∀ p st v, .tripCreated T p st v ∉ k.todo := by
    intro hne p st v hmem
    have hsingle := (hwatched.settled.grounded.created T p st v hmem).1
    rw [htodo] at hsingle
    exact hne p st v (List.cons.inj hsingle).1
  cases h with
  | @searched pickup serviceType vehicleTypeId hevent h hsearch =>
    subst hevent
    have hmem : .tripCreated T pickup serviceType vehicleTypeId ∈ k.todo :=
      htodo ▸ List.mem_cons_self
    obtain ⟨hsingle, hpending⟩ := hwatched.settled.grounded.created T _ _ _ hmem
    obtain ⟨hrounds, hnone, hredis⟩ := hk.unstarted (Or.inr ⟨_, _, _, hmem⟩)
    obtain ⟨trip, htrip, -⟩ := Option.map_eq_some_iff.mp hpending
    obtain ⟨trip', htrip', -⟩ := hcontinues.row trip htrip
    have hsofar : k.store.roundsSoFar T = k.rounds T := by
      rw [hrounds, Store.roundsSoFar, Store.get_eq, hredis]
      rfl
    refine h.counted (k := k) rfl rfl hk hnone hsofar (fun _ _ => ?_) (by rw [htrip']; rfl) ?_
    · rw [hrounds]
      exact le_max_left _ _
    · intro p st v hmem'
      rw [htodo] at hsingle
      have hrest : todo = [] := (List.cons.inj hsingle).2
      rcases hsearch _ hmem' with hold | hnew
      · rw [hrest] at hold
        cases hold
      · cases hnew
  | @cancelled reason hevent hclosed h =>
    refine h.kept.counted (k := k) rfl rfl hk hwatched hwatched' hcontinues (hcreated ?_)
      fun hpending => absurd hpending hclosed
    rintro p st v rfl
    cases hevent
  | kept hother hfailed h =>
    refine h.kept.counted (k := k) rfl rfl hk hwatched hwatched' hcontinues (hcreated hother)
      fun _ reason hmem => ?_
    rw [htodo] at hmem
    exact (List.mem_cons.mp hmem).resolve_left (hfailed reason).symm

end Counting

section Runs

variable {env : Env} {pricing : PricingEnv} {config : ServiceType → ServiceDispatchConfig}
variable {cond : Config → Cmd → Prop} {k : Config} {T : ℕ} {s : Store}

theorem Store.Fresh.watched (hs : s.Fresh) (T : ℕ) : Config.Watched ⟨s, [], []⟩ T := by
  refine ⟨hs.settled, hs.noOrphan, hs.wellKeyed, fun job hjob => ?_, fun d hn => ?_⟩
  · have hnone : s.offers.jobs = [] := hs.jobs
    rw [hnone] at hjob
    cases hjob
  · rw [Offers.Notified, hs.offers.1 T d] at hn
    cases hn

theorem Store.Fresh.counted (hs : s.Fresh) (T : ℕ) : Config.Counted config ⟨s, [], []⟩ T := by
  have hnone : s.trips.find? T = none := by
    show s.trips.rows.find? _ = none
    rw [hs.trips]
    rfl
  refine ⟨fun trip htrip => Nat.zero_le _, fun _ => ⟨rfl, rfl, hs.redis _⟩, fun hpending => ?_,
    Nat.zero_le _, fun job hjob => ?_, List.Pairwise.nil⟩
  · rw [Store.tripStatus, hnone] at hpending
    cases hpending
  · have hjobs : s.jobs = [] := hs.jobs
    rw [hjobs] at hjob
    cases hjob

/-- The counter counts along every run without recovery in which the timeout jobs are on time. -/
theorem Config.Run.counted
    (hconfig : ∀ serviceType s, env.dispatch.getDispatchConfig serviceType s = config serviceType)
    (hshort : ∀ serviceType, (config serviceType).dispatchTimeoutMs < 3600000)
    (hrearm : ∀ k c, cond k c → c.isRearm = false) (hs : s.Fresh)
    (hrun : Config.Run env pricing (OnTime T) cond ⟨s, [], []⟩ k) :
    k.Watched T ∧ k.Counted config T := by
  refine hrun.invariant (I := fun k => k.Watched T ∧ k.Counted config T)
    (fun k op hidle hready hadmits hk => ?_) (fun k event todo htodo hk => ?_)
    ⟨hs.watched T, hs.counted T⟩
  · have hrecovery : op.isRecovery = false := by
      cases op with
      | recovery quiet => exact hadmits.elim
      | _ => rfl
    refine Async.wlp_mono (Async.wlp_and (wlp_program op hidle hready hadmits)
      (wlp_program_turn (T := T) pricing hconfig hshort hrearm op hadmits hrecovery)) ?_
    rintro r k' ⟨heffects, hturn⟩
    obtain ⟨hwatched', hcontinues⟩ := heffects.watched hrearm hk.1
    exact ⟨hwatched', hturn.counted hidle hk.2 hk.1 hwatched' hcontinues⟩
  · refine Async.wlp_mono (Async.wlp_and (@wlp_handleEvent env (OnTime T) cond k event todo htodo)
      (wlp_handleEvent_handled (T := T) hconfig hshort event)) ?_
    rintro r k' ⟨heffects, hhandled⟩
    obtain ⟨hwatched', hcontinues⟩ := heffects.watched hrearm hk.1
    exact ⟨hwatched', hhandled.counted htodo hk.2 hk.1 hwatched' hcontinues⟩

/-! ### The dispatch of an unanswered trip fails -/

/-- The operation lets a driver accept the trip, or asks to cancel it. -/
def Operation.Closes (op : Operation) (s : Store) (tripId : ℕ) : Prop :=
  (∃ driverId, op.Accepts s tripId driverId) ∨
    ∃ userId role dto, op.setsStatus = some (tripId, userId, role, dto) ∧
      (dto.status = .cancelledByClient ∨ dto.status = .cancelledAuto)

/-- The timeout jobs of the trip are on time, no driver accepts it, and no user cancels it. -/
def Unanswered (T : ℕ) (k : Config) (op : Operation) : Prop :=
  OnTime T k op ∧ ¬ op.Closes k.store T

/-- The trip is pending if it exists, and no failure of its dispatch waits. -/
structure Config.Open (k : Config) (T : ℕ) : Prop where
  settled : k.Settled
  pending : ∀ trip, k.store.trips.find? T = some trip → trip.status = .pending
  failed : ∀ reason, .dispatchFailed T reason ∉ k.todo

theorem Effect.open {k' : Config} (h : Effect env (Unanswered T) cond k k')
    (hfails : ∀ k c, cond k c → c.failsTrip T = false) (hk : k.Open T) : k'.Open T := by
  refine ⟨h.settled hk.settled, fun trip' htrip' => ?_, fun reason hmem => ?_⟩
  · cases h.row T with
    | absent _ h' =>
      rw [h'] at htrip'
      cases htrip'
    | inserted _ h' _ =>
      obtain rfl := Option.some.inj (h'.symm.trans htrip')
      rfl
    | kept h h' _ hstatus _ =>
      obtain rfl := Option.some.inj (h'.symm.trans htrip')
      exact hstatus.trans (hk.pending _ h)
    | @switched op userId role dto trip data k₁ h h' hadmits hop htransition hswitched _ _ =>
      have hpending : trip.status = .pending := hk.pending trip h
      have hunassigned : trip.driverId = none := hk.settled.unassigned T trip h hpending
      have hid : trip.id = T := Table.key_of_find? h
      have hstatus : k.store.tripStatus T = some .pending := by
        rw [Store.tripStatus, h, Option.map_some, hpending]
      -- who accepts the trip, or cancels it, closes it
      refine absurd ?_ hadmits.2
      cases hswitched with
      | accepted haccept hrole hdriver hnotified _ _ _ =>
        subst hrole
        exact Or.inl ⟨_, userId, dto, hop, haccept, hdriver, hstatus, hid ▸ hnotified⟩
      | unlocked haccept hrole hdriver hnotified _ _ =>
        subst hrole
        exact Or.inl ⟨_, userId, dto, hop, haccept, hdriver, hstatus, hid ▸ hnotified⟩
      | advanced _ hassigned _ | cancelledByDriver _ hassigned _ =>
        rw [hunassigned] at hassigned
        cases hassigned
      | withdrawn hcancel _ _ => exact Or.inr ⟨userId, role, dto, hop, hcancel⟩
    | completed h _ _ hbefore _ _ =>
      rw [hk.pending _ h] at hbefore
      cases hbefore
    | swept h _ _ hbefore _ _ =>
      rw [hk.pending _ h] at hbefore
      cases hbefore
    | assigned htodo h _ _ _ _ =>
      obtain ⟨-, trip, htrip, haccepted, -⟩ := hk.settled.assigned T _ (htodo ▸ List.mem_cons_self)
      rw [hk.pending trip htrip] at haccepted
      cases haccepted
    | cancelled htodo _ _ _ _ _ _ => exact absurd (htodo ▸ List.mem_cons_self) (hk.failed _)
  · obtain ⟨rest, events, hrest, htodo, hevents⟩ := h.emitted
    rw [htodo, List.mem_append] at hmem
    rcases hmem with hold | hnew
    · exact hk.failed reason (hrest.subset hold)
    · cases hevents _ hnew with
      | report hreport => cases hreport
      | failed _ hc =>
        have hfalse := hfails _ _ hc
        simp [Cmd.failsTrip] at hfalse

/-- With a constant configuration whose timeout is less than an hour, and timeout jobs that are on
time: a trip is searched for at most `max 1 maxDispatchAttempts` times, no offer is made after its
dispatch has failed, and when it is neither accepted nor cancelled by a user its dispatch has failed
exactly once as soon as it has no timeout job left. -/
theorem dispatch_terminates (env : Env) (pricing : PricingEnv)
    {config : ServiceType → ServiceDispatchConfig}
    (hconfig : ∀ serviceType s, env.dispatch.getDispatchConfig serviceType s = config serviceType)
    (hshort : ∀ serviceType, (config serviceType).dispatchTimeoutMs < 3600000)
    {s : Store} (hs : s.Fresh) {tripId : ℕ} {k : Config}
    (hrun : Config.Run env pricing (OnTime tripId) NeverRearms ⟨s, [], []⟩ k) :
    (∀ trip, k.store.trips.find? tripId = some trip →
      k.rounds tripId ≤ max 1 (config trip.serviceType).maxDispatchAttempts) ∧
    k.NoLateOffer tripId ∧
    (Config.Run env pricing (Unanswered tripId) NeverRearms ⟨s, [], []⟩ k →
      (k.store.trips.find? tripId).isSome = true →
      (∀ pickup serviceType vehicleTypeId,
        .tripCreated tripId pickup serviceType vehicleTypeId ∉ k.todo) →
      (∀ job ∈ k.store.jobs, job.tripId ≠ tripId) → k.failures tripId = 1) := by
  obtain ⟨hwatched, hcounted⟩ := hrun.counted hconfig hshort (fun _ _ => id) hs
  refine ⟨hcounted.bounded, hcounted.orderly, fun hunanswered hrow hcreated hjobs => ?_⟩
  have hle := hcounted.failures_le
  by_contra hne
  have hzero : k.failures tripId = 0 := by omega
  rw [Config.failures, List.countP_eq_zero] at hzero
  -- then no command of the run was the failure of the dispatch
  have hrun' := hunanswered.of_log (P := fun c => c.failsTrip tripId = false) fun c hc => by
    simpa using hzero c hc
  have hstart : Config.Open ⟨s, [], []⟩ tripId := by
    refine ⟨hs.settled, fun trip htrip => ?_, fun _ hmem => by cases hmem⟩
    have hnone : s.trips.find? tripId = none := by
      show s.trips.rows.find? _ = none
      rw [hs.trips]
      rfl
    rw [hnone] at htrip
    cases htrip
  have hopen : k.Open tripId := by
    refine hrun'.of_effects (I := fun k => k.Open tripId) (fun k k' h hk => ?_) hstart
    exact h.open (fun _ _ hc => hc.2) hk
  obtain ⟨trip, htrip⟩ := Option.isSome_iff_exists.mp hrow
  have hpending : k.store.tripStatus tripId = some .pending := by
    rw [Store.tripStatus, htrip, Option.map_some, hopen.pending trip htrip]
  obtain ⟨job, hjob, hid⟩ := hwatched.exists_job hpending hcreated hopen.failed
  exact hjobs job hjob hid

end Runs

/-- In the town, trip 1 is offered to driver 1 in three rounds, each of which times out. -/
theorem dispatch_terminates_town : ∃ k, Config.Run Env.town PricingEnv.town (Unanswered 1)
      NeverRearms ⟨Store.town, [], []⟩ k ∧ k.rounds 1 = 3 ∧ k.failures 1 = 1 ∧
      k.NoLateOffer 1 := by
  obtain ⟨k, hrun, hidle, hrounds, hrow, hjobs⟩ := Config.exists_run_of_execute? Env.town
    PricingEnv.town (fun k op => OnTime 1 k op ∧ op.setsStatus.isNone = true)
    (fun _ c => c.isRearm = false) Store.town
    [.order 1 1, .wait 60000, .timeout ⟨1, 1, 1, 60000⟩, .wait 60000, .timeout ⟨2, 1, 1, 120000⟩,
      .wait 60000, .timeout ⟨3, 1, 1, 180000⟩]
    (fun k => k.rounds 1 = 3 ∧ (k.store.trips.find? 1).isSome = true ∧
      ∀ job ∈ k.store.jobs, job.tripId ≠ 1) (by decide +kernel)
  have hunanswered : Config.Run Env.town PricingEnv.town (Unanswered 1) NeverRearms
      ⟨Store.town, [], []⟩ k := by
    refine hrun.mono (fun k op hop => ⟨hop.1, ?_⟩) fun _ _ hc => hc
    have hnone : op.setsStatus = none := Option.isNone_iff_eq_none.mp hop.2
    rintro (⟨d, userId, dto, hsets, -⟩ | ⟨userId, role, dto, hsets, -⟩)
    · rw [hnone] at hsets
      cases hsets
    · rw [hnone] at hsets
      cases hsets
  have hontime : Config.Run Env.town PricingEnv.town (OnTime 1) NeverRearms
      ⟨Store.town, [], []⟩ k := hunanswered.mono (fun _ _ hop => hop.1) fun _ _ hc => hc
  obtain ⟨-, horderly, hfailed⟩ := @dispatch_terminates Env.town PricingEnv.town
    (fun _ => defaultConfig) (fun _ _ => rfl) (fun _ => by decide) _ Store.fresh_town _ _ hontime
  exact ⟨k, hunanswered, hrounds, hfailed hunanswered hrow (by simp [hidle]) hjobs, horderly⟩

end Telima
