import Telima.Operations.OfferWalk
import Telima.Operations.Timeouts

/-!
# Timeout jobs

The timeout job of an offer is found by its name in Redis only, and the name expires half a minute after
the job is due.  As long as no job waits for longer than that, every queued job has its name, so that the
queue holds at most one job for a trip and a driver (`one_timeout_each`), however often the search
selects the same driver again.
-/

namespace Telima

open TripsService DispatchService DispatchRecoveryService

/-! ### Names -/

namespace Offers

variable {o o' : Offers}

/-- Every queued job is the one that is named for its trip and its driver. -/
def Named (o : Offers) : Prop := ∀ job ∈ o.jobs, o.jobKey job.tripId job.driverId = some job.id

theorem Move.named (h : Move o o') (hn : o.Named) : o'.Named := by
  intro job hjob
  cases h with
  | @withdrawn tripId X _ _ _ _ h =>
    obtain ⟨hold, hkept⟩ := (h.jobs job).mp hjob
    have hname : o.jobKey job.tripId job.driverId = some job.id := hn job hold
    -- a job whose name was deleted was removed
    rw [h.jobKey _ _ fun htrip hX => hkept _ hX (htrip ▸ hname), hname]
  | @expired expired _ _ _ h =>
    rw [h.jobs] at hjob
    obtain ⟨hold, hne⟩ := List.mem_filter.mp hjob
    have hname : o.jobKey job.tripId job.driverId = some job.id := hn job hold
    have hother : job.tripId = expired.tripId → ¬ job.driverId = expired.driverId := by
      intro htrip hdriver
      have hexpired : o.jobKey expired.tripId expired.driverId = some expired.id := hn expired ‹_›
      rw [← htrip, ← hdriver, hname] at hexpired
      exact of_decide_eq_true hne (Option.some.inj hexpired)
    rw [h.jobKey _ _ hother]
    exact hname
  | @offered tripId driverId runAt _ _ h =>
    rw [h.jobKey]
    rcases (h.jobs job).mp hjob with ⟨hold, hkept⟩ | rfl
    · have hname : o.jobKey job.tripId job.driverId = some job.id := hn job hold
      rw [if_neg, hname]
      rintro ⟨htrip, hdriver⟩
      exact hkept (htrip ▸ hdriver ▸ hname)
    · exact if_pos ⟨rfl, rfl⟩

theorem Named.rearm (hn : o.Named) (tripId driverId : ℕ) : (o.rearm tripId driverId).Named := hn

end Offers

/-! ### Ids, and the time names live -/

namespace Store

/-- The jobs have different ids, all of them given out. -/
structure DistinctJobs (s : Store) : Prop where
  le : ∀ job ∈ s.jobs, job.id ≤ s.jobCount
  nodup : (s.jobs.map TimeoutJob.id).Nodup

/-- A name is the id of a job, and lives for thirty seconds after the job is due. -/
def LongNames (s : Store) : Prop :=
  ∀ t d entry, s.redis (.dispatchTimeoutJob t d) = some entry →
    ∃ jobId expiresAt, entry = ⟨.job jobId, some expiresAt⟩ ∧ jobId ≤ s.jobCount ∧
      ∀ job ∈ s.jobs, job.id = jobId → job.runAt + 30000 ≤ expiresAt

structure Tracked (s : Store) : Prop where
  distinct : s.DistinctJobs
  long : s.LongNames

/-- No job waits for thirty seconds after it is due. -/
def OnTime (s : Store) (ms : ℕ) : Prop := ∀ job ∈ s.jobs, s.now + ms < job.runAt + 30000

instance decidableOnTime (s : Store) (ms : ℕ) : Decidable (s.OnTime ms) :=
  inferInstanceAs (Decidable (∀ job ∈ s.jobs, _))

variable {s : Store} {c : Cmd}

theorem DistinctJobs.exec (h : s.DistinctJobs) (c : Cmd) : (c.exec s).DistinctJobs := by
  cases c with
  | addJob tripId driverId delayMs =>
    refine ⟨fun job hjob => ?_, ?_⟩
    · rcases List.mem_append.mp hjob with hold | hnew
      · exact Nat.le_succ_of_le (h.le job hold)
      · obtain rfl := List.mem_singleton.mp hnew
        exact le_rfl
    · show ((s.jobs ++ [_]).map TimeoutJob.id).Nodup
      rw [List.map_append, List.nodup_append]
      refine ⟨h.nodup, List.nodup_singleton _, ?_⟩
      intro id hid other hother heq
      obtain ⟨job, hjob, rfl⟩ := List.mem_map.mp hid
      have hle : job.id ≤ s.jobCount := h.le job hjob
      have hnew : other = s.jobCount + 1 := List.mem_singleton.mp hother
      omega
  | removeJob jobId =>
    exact ⟨fun job hjob => h.le job (List.mem_of_mem_filter hjob),
      h.nodup.sublist (List.filter_sublist.map _)⟩
  | _ => exact ⟨h.le, h.nodup⟩

/-- Jobs that are removed, and jobs with a new id, leave the names long. -/
theorem LongNames.of_jobs {s' : Store} (h : s.LongNames) (hcount : s.jobCount ≤ s'.jobCount)
    (hjobs : ∀ job ∈ s'.jobs, job ∈ s.jobs ∨ s.jobCount < job.id)
    (hredis : ∀ t d entry, s'.redis (.dispatchTimeoutJob t d) = some entry →
      s.redis (.dispatchTimeoutJob t d) = some entry) : s'.LongNames := by
  intro t d entry hentry
  obtain ⟨jobId, expiresAt, rfl, hle, hlong⟩ := h t d entry (hredis t d entry hentry)
  refine ⟨jobId, expiresAt, rfl, hle.trans hcount, fun job hjob hid => ?_⟩
  rcases hjobs job hjob with hold | hnew
  · exact hlong job hold hid
  · omega

theorem LongNames.setEntry (h : s.LongNames) {key : RedisKey} {entry : Option RedisEntry}
    (hkey : (∀ t d, key ≠ .dispatchTimeoutJob t d) ∨ entry = none) :
    (Cmd.setEntry s key entry).LongNames := by
  refine h.of_jobs le_rfl (fun job hjob => .inl hjob) fun t d entry' hentry => ?_
  have hset : (if RedisKey.dispatchTimeoutJob t d = key then entry
      else s.redis (.dispatchTimeoutJob t d)) = some entry' := hentry
  split_ifs at hset with heq
  · rcases hkey with hother | rfl
    · exact absurd heq.symm (hother t d)
    · cases hset
  · exact hset

theorem LongNames.exec (h : s.LongNames) (hc : c.namesJob = false) : (c.exec s).LongNames := by
  cases c with
  | addJob tripId driverId delayMs =>
    refine h.of_jobs (Nat.le_succ _) (fun job hjob => ?_) fun _ _ _ hentry => hentry
    rcases List.mem_append.mp hjob with hold | hnew
    · exact .inl hold
    · obtain rfl := List.mem_singleton.mp hnew
      exact .inr (Nat.lt_succ_self _)
  | removeJob jobId =>
    exact h.of_jobs le_rfl (fun job hjob => .inl (List.mem_of_mem_filter hjob))
      fun _ _ _ hentry => hentry
  | redisDel key => exact h.setEntry (.inr rfl)
  | redisSet key value seconds =>
    refine h.setEntry (.inl fun t d heq => ?_)
    subst heq
    cases hc
  | redisSetNx key value seconds =>
    refine h.setEntry (.inl fun t d heq => ?_)
    subst heq
    cases hc
  | redisIncr key =>
    refine h.setEntry (.inl fun t d heq => ?_)
    subst heq
    cases hc
  | redisExpire key seconds =>
    refine h.setEntry (.inl fun t d heq => ?_)
    subst heq
    cases hc
  | _ => exact h

theorem Tracked.exec (h : s.Tracked) (hc : c.namesJob = false) : (c.exec s).Tracked :=
  ⟨h.distinct.exec c, h.long.exec hc⟩

/-- A name that is set for a job lives long enough. -/
theorem Tracked.exec_redisSet (h : s.Tracked) {tripId driverId jobId seconds : ℕ}
    (hle : jobId ≤ s.jobCount)
    (hlong : ∀ job ∈ s.jobs, job.id = jobId → job.runAt + 30000 ≤ s.now + seconds * 1000) :
    ((Cmd.redisSet (.dispatchTimeoutJob tripId driverId) (.job jobId) seconds).exec s).Tracked := by
  refine ⟨h.distinct.exec _, fun t d entry hentry => ?_⟩
  have hset : (if RedisKey.dispatchTimeoutJob t d = .dispatchTimeoutJob tripId driverId then
      some ⟨.job jobId, some (s.now + seconds * 1000)⟩
      else s.redis (.dispatchTimeoutJob t d)) = some entry := hentry
  split_ifs at hset with heq
  · obtain rfl := Option.some.inj hset
    exact ⟨jobId, _, rfl, hle, hlong⟩
  · exact h.long t d entry hset

/-- The name of a job that is queued does not expire while no job is late. -/
theorem Tracked.outlives (h : s.Tracked) {job : TimeoutJob} (hjob : job ∈ s.jobs)
    (hname : s.jobKey job.tripId job.driverId = some job.id) {ms : ℕ} (hontime : s.OnTime ms) :
    s.Outlives (.dispatchTimeoutJob job.tripId job.driverId) ms := by
  intro entry t hentry hexpires
  obtain ⟨jobId, expiresAt, rfl, -, hlong⟩ := h.long _ _ entry hentry
  obtain rfl : expiresAt = t := Option.some.inj hexpires
  have hid : job.id = jobId := by
    obtain ⟨value, hvalue, hjobId⟩ := Option.bind_eq_some_iff.mp hname
    rw [get_eq, hentry, Option.bind_some] at hvalue
    unfold live at hvalue
    dsimp only at hvalue
    split_ifs at hvalue
    obtain rfl := Option.some.inj hvalue
    exact (Option.some.inj hjobId).symm
  have hruns := hlong job hjob hid
  have hlate := hontime job hjob
  omega

end Store

/-! ### Programs -/

namespace TimeoutJobs

variable {env : Env} {pricing : PricingEnv} {cond : Config → Cmd → Prop}

/-- The program keeps the jobs tracked. -/
abbrev Tracks {α : Type} (cond : Config → Cmd → Prop) (p : Prog α) : Prop :=
  p.Maintains server cond fun k => k.store.Tracked

theorem tracks_of_none {α : Type} {p : Prog α} (hp : NamesNone p) : Tracks cond p :=
  hp.maintains fun _ _ hc _ hk => hk.exec hc

/-- The name is set for the job that was queued just before, and for longer than the job's delay. -/
theorem tracks_notifyCandidate (config : ServiceDispatchConfig) (tripId : ℕ) (pickup : Point)
    (serviceType : ServiceType) (trip : Option (Trip × Option VehicleType))
    (dropoff : Option Point) (driver : NearbyDriver) : Tracks cond
      (notifyCandidate config tripId pickup serviceType trip dropoff driver) := by
  refine (tracks_of_none (Async.only_query.mpr rfl)).bind fun acquired => ?_
  split_ifs
  · refine (tracks_of_none (Async.only_perform.mpr rfl)).bind fun _ => ?_
    refine (tracks_of_none (Async.only_emit.mpr rfl)).bind fun _ => ?_
    refine (tracks_of_none (namesNone_cancelTimeoutJob tripId driver.driverId)).bind fun _ => ?_
    intro k hk _ _ _
    have hadded : ((Cmd.addJob tripId driver.driverId config.dispatchTimeoutMs).exec
        k.store).Tracked := hk.exec rfl
    refine hadded.exec_redisSet le_rfl fun job hjob hid => ?_
    rcases List.mem_append.mp hjob with hold | hnew
    · have hle : job.id ≤ k.store.jobCount := hk.distinct.le job hold
      have hnew : job.id = k.store.jobCount + 1 := hid
      omega
    · obtain rfl := List.mem_singleton.mp hnew
      show k.store.now + config.dispatchTimeoutMs + 30000 ≤
        k.store.now + ((config.dispatchTimeoutMs + 999) / 1000 + 30) * 1000
      omega
  · exact Async.maintains_done _

theorem walk : OfferWalk fun _ p => Tracks cond p where
  done := Async.maintains_done
  bind := Async.Maintains.bind
  tryCatch := Async.Maintains.tryCatch
  namesNone := tracks_of_none
  notifyCandidate := tracks_notifyCandidate

end TimeoutJobs

/-! ### Calls -/

/-- A call of the dispatch, for any trip and driver, or the passing of time. -/
inductive QueueCall where
  | attemptDispatch (tripId : ℕ) (pickup : Point) (serviceType : ServiceType)
      (vehicleTypeId : Option ℕ)
  | accept (tripId driverId : ℕ)
  | decline (tripId driverId : ℕ)
  | declineAndRetry (tripId driverId : ℕ)
  | timeout (job : TimeoutJob)
  | releaseLocksForTrip (tripId : ℕ)
  | recovery (quiet : Bool)
  | wait (ms : ℕ)

namespace QueueCall

variable (env : Env)

def program : QueueCall → Prog Unit
  | attemptDispatch tripId pickup serviceType vehicleTypeId =>
    DispatchService.attemptDispatch env.dispatch tripId pickup serviceType vehicleTypeId
  | accept tripId driverId => handleDriverAccept tripId driverId
  | decline tripId driverId => handleDriverDecline tripId driverId
  | declineAndRetry tripId driverId => handleDriverDeclineAndRetry env.dispatch tripId driverId
  | timeout job => do
    Async.perform (.removeJob job.id)
    handleDriverTimeout env.dispatch job.tripId job.driverId
  | releaseLocksForTrip tripId => DispatchService.releaseLocksForTrip tripId
  | recovery quiet => DispatchRecoveryService.run env.dispatch quiet
  | wait ms => Async.perform (.tick ms)

/-- A timeout job that runs is queued and due; time passes as long as no job is late. -/
def Ready (s : Store) : QueueCall → Prop
  | timeout job => job ∈ s.jobs ∧ job.runAt ≤ s.now
  | wait ms => s.OnTime ms
  | _ => True

/-- The call runs to its end, and nothing fails. -/
def result (call : QueueCall) (s : Store) : Store :=
  ((call.program env).play server ⟨s, [], []⟩).2.store

end QueueCall

/-- Time passes as long as no job is late. -/
def Config.OnTime (k : Config) : Operation → Prop
  | .wait ms => k.store.OnTime ms
  | _ => True

instance Config.decidableOnTime (k : Config) (op : Operation) : Decidable (k.OnTime op) := by
  induction op using Operation.casesOn <;> unfold Config.OnTime <;> infer_instance

/-- A call of the dispatch runs, or the server works for a while on requests and their events. -/
inductive QueueStep (env : Env) (pricing : PricingEnv) (s : Store) : Store → Prop
  | call {call : QueueCall} (hready : call.Ready s) :
      QueueStep env pricing s (call.result env s)
  | serve {k : Config}
      (hrun : Config.Run env pricing Config.OnTime (fun _ _ => True) ⟨s, [], []⟩ k) :
      QueueStep env pricing s k.store

/-- The queue holds at most one timeout job for a trip and a driver, and what is named for them is the
id of that job or of no queued one. -/
structure Store.OneTimeoutEach (s : Store) : Prop where
  one : ∀ t d, (s.jobs.filter fun job =>
    decide (job.tripId = t) && decide (job.driverId = d)).length ≤ 1
  named : ∀ t d value, s.get (.dispatchTimeoutJob t d) = some value → ∃ jobId, value = .job jobId ∧
    ((∃ job ∈ s.jobs, job.tripId = t ∧ job.driverId = d ∧ job.id = jobId) ∨
      ∀ job ∈ s.jobs, job.id ≠ jobId)

namespace TimeoutJobs

variable {env : Env} {pricing : PricingEnv} {s s' : Store}

/-- What holds of the jobs and their names at every moment. -/
structure Kept (s : Store) : Prop where
  tracked : s.Tracked
  wellKeyed : s.offers.WellKeyed
  named : s.offers.Named

theorem length_le_one_of_pairwise {α : Type} {l : List α} (h : l.Pairwise fun _ _ => False) :
    l.length ≤ 1 := by
  match l, h with
  | [], _ => exact Nat.zero_le 1
  | [_], _ => exact le_rfl
  | a :: b :: l, h =>
    have hhead := (List.pairwise_cons.mp h).1
    exact (hhead b List.mem_cons_self).elim

theorem Kept.oneTimeoutEach (h : Kept s) : s.OneTimeoutEach where
  one t d := by
    -- two jobs of the trip and the driver have the same name, hence the same id
    have hpairwise : (s.jobs.filter fun job =>
        decide (job.tripId = t) && decide (job.driverId = d)).Pairwise fun _ _ => False := by
      refine (List.pairwise_map.mp h.tracked.distinct.nodup).filter _ |>.imp_of_mem ?_
      intro job job' hjob hjob' hne
      obtain ⟨hmem, hof⟩ := List.mem_filter.mp hjob
      obtain ⟨hmem', hof'⟩ := List.mem_filter.mp hjob'
      rw [Bool.and_eq_true, decide_eq_true_eq, decide_eq_true_eq] at hof hof'
      have hname := h.named job hmem
      have hname' := h.named job' hmem'
      rw [hof.1, hof.2] at hname
      rw [hof'.1, hof'.2, hname] at hname'
      exact hne (Option.some.inj hname')
    exact length_le_one_of_pairwise hpairwise
  named t d value hvalue := by
    obtain ⟨entry, hentry, hlive⟩ := Option.bind_eq_some_iff.mp hvalue
    obtain ⟨jobId, expiresAt, rfl, -, -⟩ := h.tracked.long t d entry hentry
    dsimp only at hlive
    split_ifs at hlive
    obtain rfl := Option.some.inj hlive
    have hname : s.offers.jobKey t d = some jobId := by
      show (s.get (.dispatchTimeoutJob t d)).bind RedisValue.job? = some jobId
      rw [hvalue]
      rfl
    refine ⟨jobId, rfl, ?_⟩
    by_cases hqueued : ∃ job ∈ s.jobs, job.id = jobId
    · obtain ⟨job, hjob, hid⟩ := hqueued
      obtain ⟨htrip, hdriver⟩ := h.wellKeyed.owner t d jobId hname job hjob hid
      exact .inl ⟨job, hjob, htrip, hdriver, hid⟩
    · exact .inr fun job hjob hid => hqueued ⟨job, hjob, hid⟩

/-- Names of jobs that are not late do not expire. -/
theorem Kept.tick (h : Kept s) {ms : ℕ} (hontime : s.OnTime ms) : Kept ((Cmd.tick ms).exec s) where
  tracked := h.tracked.exec rfl
  wellKeyed := (elapsed_tick ms s).wellKeyed h.wellKeyed
  named job hjob := by
    have hname : s.jobKey job.tripId job.driverId = some job.id := h.named job hjob
    show (((Cmd.tick ms).exec s).get _).bind RedisValue.job? = some job.id
    rw [(h.tracked.outlives hjob hname hontime).get_tick]
    exact hname

/-- What the moves of the protocol keep of the offers. -/
def NamedWell (o : Offers) : Prop := o.WellKeyed ∧ o.Named

theorem namedWell_of_moves {o o' : Offers} (hmoves : Offers.Moves o o') (h : NamedWell o) :
    NamedWell o' :=
  hmoves.induction (fun hmove ho => ⟨hmove.wellKeyed ho.1, hmove.named ho.2⟩) h

theorem NamedWell.rearm {o : Offers} (h : NamedWell o) (tripId driverId : ℕ) :
    NamedWell (o.rearm tripId driverId) := ⟨h.1.rearm, h.2.rearm tripId driverId⟩

/-- An effect keeps the names, if no name expires while time passes. -/
theorem namedWell_of_effect {admits : Config → Operation → Prop} {cond : Config → Cmd → Prop}
    {k k' : Config} (h : Effect env admits cond k k')
    (hwait : ∀ ms, admits k (.wait ms) → k.store.Tracked ∧ k.store.OnTime ms)
    (hk : NamedWell k.store.offers) : NamedWell k'.store.offers := by
  rcases h.offers with hmoves | ⟨ms, hadmits, rfl⟩ | ⟨_, _, _, -, -, -, -, -, hoffers⟩
  · exact namedWell_of_moves hmoves hk
  · obtain ⟨htracked, hontime⟩ := hwait ms hadmits
    have hkept := Kept.tick ⟨htracked, hk.1, hk.2⟩ hontime
    exact ⟨hkept.wellKeyed, hkept.named⟩
  · rw [hoffers]
    exact hk.rearm _ _

/-! ### One call -/

theorem tracked_result (call : QueueCall) (hs : s.Tracked) : (call.result env s).Tracked := by
  have hprogram : Tracks (fun _ _ => True) (call.program env) := by
    cases call with
    | attemptDispatch tripId pickup serviceType vehicleTypeId =>
      exact walk.attemptDispatch env.dispatch tripId pickup serviceType vehicleTypeId
    | accept tripId driverId => exact walk.handleDriverAccept tripId driverId
    | decline tripId driverId => exact walk.handleDriverDecline tripId driverId
    | declineAndRetry tripId driverId =>
      exact walk.handleDriverDeclineAndRetry env.dispatch tripId driverId
    | timeout job =>
      exact walk.bind (walk.perform rfl) fun _ =>
        walk.handleDriverTimeout env.dispatch job.tripId job.driverId
    | releaseLocksForTrip tripId => exact walk.releaseLocksForTrip tripId
    | recovery quiet => exact walk.run env.dispatch quiet
    | wait ms => exact walk.perform rfl
  exact Async.play_of_wlp (hprogram ⟨s, [], []⟩ hs)

theorem namedWell_program {call : QueueCall} (hready : call.Ready s) (hs : Kept s) :
    (call.program env).wlp server (fun _ _ => True) (fun _ k => NamedWell k.store.offers)
      ⟨s, [], []⟩ := by
  have hoffers : NamedWell s.offers := ⟨hs.wellKeyed, hs.named⟩
  have hanswered : ∀ {tripId : ℕ} {X : ℕ → Prop} {status : DispatchStatus} {o : Offers},
      Offers.Withdrawn tripId X (fun _ => some status) s.offers o → status ≠ .driverNotified →
        NamedWell o := fun h hstatus =>
    namedWell_of_moves (.single (.withdrawn (Offers.answers_const hstatus) h)) hoffers
  cases call with
  | attemptDispatch tripId pickup serviceType vehicleTypeId =>
    refine Async.wlp_mono
      (wlp_attemptDispatch env.dispatch pickup serviceType vehicleTypeId) fun r k h => ?_
    exact namedWell_of_moves h.moves hoffers
  | accept tripId driverId =>
    refine Async.wlp_mono wlp_handleDriverAccept fun r k h => ?_
    obtain ⟨a, -, ⟨-, -, haccepted, -⟩ | ⟨-, -, hsame⟩⟩ := h
    · exact namedWell_of_moves (.single (.withdrawn Offers.answers_accept haccepted)) hoffers
    · rw [hsame]
      exact hoffers
  | decline tripId driverId =>
    refine Async.wlp_mono wlp_handleDriverDecline fun r k h => ?_
    obtain ⟨a, -, -, hwithdrawn⟩ := h
    exact hanswered hwithdrawn nofun
  | declineAndRetry tripId driverId =>
    refine Async.wlp_mono (wlp_handleDriverDeclineAndRetry env.dispatch) fun r k h => ?_
    obtain ⟨k₁, -, hwithdrawn, hretried⟩ := h
    exact namedWell_of_moves hretried.moves (hanswered hwithdrawn nofun)
  | timeout job =>
    intro _
    refine Async.wlp_mono (wlp_handleDriverTimeout env.dispatch) fun r k h => ?_
    obtain ⟨k₁, -, hclosed, hretried⟩ := h
    exact namedWell_of_moves hretried.moves
      (namedWell_of_moves (.single (.expired hready.1 hclosed)) hoffers)
  | releaseLocksForTrip tripId =>
    refine Async.wlp_mono wlp_releaseLocksForTrip fun r k h => ?_
    obtain ⟨a, -, -, hwithdrawn⟩ := h
    exact hanswered hwithdrawn nofun
  | recovery quiet =>
    have hrun : (DispatchRecoveryService.run env.dispatch quiet).wlp server (fun _ _ => True)
        (fun _ k => Effects env (fun _ _ => False) (fun _ _ => True) ⟨s, [], []⟩ k) ⟨s, [], []⟩ :=
      wlp_run quiet rfl
    refine Async.wlp_mono hrun fun r k h => ?_
    induction h with
    | refl => exact hoffers
    | tail _ heffect ih => exact namedWell_of_effect heffect (fun _ hwait => hwait.elim) ih
  | wait ms =>
    have hkept : Kept ((Cmd.tick ms).exec s) := hs.tick hready
    exact fun _ => ⟨hkept.wellKeyed, hkept.named⟩

theorem Kept.result (hs : Kept s) {call : QueueCall} (hready : call.Ready s) :
    Kept (call.result env s) := by
  obtain ⟨hwellKeyed, hnamed⟩ : NamedWell (call.result env s).offers :=
    Async.play_of_wlp (namedWell_program hready hs)
  exact ⟨tracked_result call hs.tracked, hwellKeyed, hnamed⟩

/-! ### Runs -/

/-- Along a run, the operations may be restricted by what holds of the run anyway. -/
theorem run_and {admits : Config → Operation → Prop} {cond : Config → Cmd → Prop} {J : Config → Prop}
    {k k' : Config} (h : Config.Run env pricing admits cond k k')
    (hJ : ∀ {k'}, Config.Run env pricing admits cond k k' → J k') :
    Config.Run env pricing (fun k op => admits k op ∧ J k) cond k k' := by
  induction h with
  | refl => exact .refl
  | tail hrun hstep ih =>
    refine ih.tail ?_
    cases hstep with
    | operate hidle hready hadmits hobeys =>
      exact .operate hidle hready ⟨hadmits, hJ hrun⟩ hobeys
    | handle htodo hobeys => exact .handle htodo hobeys

theorem tracked_run {k : Config}
    (h : Config.Run env pricing Config.OnTime (fun _ _ => True) ⟨s, [], []⟩ k) (hs : s.Tracked) :
    k.store.Tracked :=
  h.invariant (I := fun k => k.store.Tracked) (fun k op _ _ _ hk => walk.program env pricing op k hk)
    (fun k event todo _ hk => walk.handleEvent env event { k with todo } hk) hs

theorem Kept.run (hs : Kept s) {k : Config}
    (h : Config.Run env pricing Config.OnTime (fun _ _ => True) ⟨s, [], []⟩ k) : Kept k.store := by
  have htracked : Config.Run env pricing (fun k op => k.OnTime op ∧ k.store.Tracked) (fun _ _ => True)
      ⟨s, [], []⟩ k := run_and h fun hrun => tracked_run hrun hs.tracked
  have hoffers : NamedWell k.store.offers := by
    refine htracked.of_effects (I := fun k => NamedWell k.store.offers) (fun k k' heffect hk => ?_)
      ⟨hs.wellKeyed, hs.named⟩
    exact namedWell_of_effect heffect (fun ms hwait => ⟨hwait.2, hwait.1⟩) hk
  exact ⟨tracked_run h hs.tracked, hoffers.1, hoffers.2⟩

theorem Kept.step (hs : Kept s) (h : QueueStep env pricing s s') : Kept s' := by
  cases h with
  | call hready => exact hs.result hready
  | serve hrun => exact hs.run hrun

/-- At the start no job is queued, and none is named. -/
theorem kept_of_empty (hjobs : s.jobs = []) (hnames : ∀ t d, s.redis (.dispatchTimeoutJob t d) = none) :
    Kept s := by
  have hjob : ∀ job, job ∉ s.jobs := by
    intro job
    rw [hjobs]
    exact List.not_mem_nil
  have hname : ∀ t d, s.offers.jobKey t d = none := by
    intro t d
    show ((s.redis _).bind _).bind _ = none
    rw [hnames]
    rfl
  refine ⟨⟨⟨fun job h => absurd h (hjob job), ?_⟩, fun t d entry hentry => ?_⟩, ?_,
    fun job h => absurd h (hjob job)⟩
  · rw [hjobs]
    exact List.nodup_nil
  · rw [hnames] at hentry
    cases hentry
  · refine ⟨fun job h => absurd h (hjob job), fun t d j hj => ?_, fun t d j hj => ?_⟩
    · rw [hname] at hj
      cases hj
    · rw [hname] at hj
      cases hj

end TimeoutJobs

open TimeoutJobs in
/-- In every run, as long as no timeout job is late, the queue holds at most one for a trip and a
driver. -/
theorem one_timeout_each (env : Env) (pricing : PricingEnv) {s s' : Store} (hjobs : s.jobs = [])
    (hnames : ∀ t d, s.redis (.dispatchTimeoutJob t d) = none)
    (hrun : Relation.ReflTransGen (QueueStep env pricing) s s') : s'.OneTimeoutEach := by
  have hkept : Kept s' := by
    induction hrun with
    | refl => exact kept_of_empty hjobs hnames
    | tail _ hstep ih => exact ih.step hstep
  exact hkept.oneTimeoutEach

/-- In the town, both drivers decline trip 1, and are selected again; then driver 1's offer times out. -/
theorem one_timeout_each_town : ∃ s', Relation.ReflTransGen (QueueStep Env.town PricingEnv.town)
    Store.town s' ∧ s'.jobCount = 4 ∧ s'.jobs.map TimeoutJob.id = [4] ∧ s'.OneTimeoutEach := by
  obtain ⟨k, hrun, -, hcount, hids⟩ := Config.exists_run_of_execute? Env.town PricingEnv.town
    (fun k op => k.OnTime op) (fun _ _ => True) Store.town
    [.order 1 2, .wsDecline 1 1, .wsDecline 1 2, .wait 60000, .timeout ⟨3, 1, 1, 60000⟩]
    (fun k => k.store.jobCount = 4 ∧ k.store.jobs.map TimeoutJob.id = [4]) (by decide +kernel)
  have hsteps : Relation.ReflTransGen (QueueStep Env.town PricingEnv.town) Store.town k.store :=
    .single (.serve hrun)
  exact ⟨k.store, hsteps, hcount, hids,
    one_timeout_each Env.town PricingEnv.town rfl (fun _ _ => rfl) hsteps⟩

end Telima
