import Telima.Dispatch.Offers

/-!
# The state of the offers

Three stores say who is offered a trip: the attempts in the database, the locks and job names in
Redis, and the timeout queue.  `Offers` puts them side by side, and the relations below say what
happens to an offer: it is made (`Offered`), withdrawn (`Withdrawn`), times out (`TimedOut`), is
opened again (`Rearmed`), or its keys expire (`Elapsed`).
-/

namespace Telima

/-- The trip a Redis value names. -/
def RedisValue.trip? : RedisValue → Option ℕ
  | .trip tripId => some tripId
  | _ => none

/-- The job a Redis value names. -/
def RedisValue.job? : RedisValue → Option ℕ
  | .job jobId => some jobId
  | _ => none

/-- The trip the driver's lock is held for. -/
def Store.lockHolder (s : Store) (driverId : ℕ) : Option ℕ :=
  (s.get (.dispatchLock driverId)).bind RedisValue.trip?

/-- The job `DispatchTimeoutJobKey` names. -/
def Store.jobKey (s : Store) (tripId driverId : ℕ) : Option ℕ :=
  (s.get (.dispatchTimeoutJob tripId driverId)).bind RedisValue.job?

/-- What the dispatch keeps of its offers. -/
@[ext]
structure Offers where
  /-- The status of the attempt of a trip and a driver. -/
  status : ℕ → ℕ → Option DispatchStatus
  /-- The trip a driver's lock is held for. -/
  lock : ℕ → Option ℕ
  /-- The job named for a trip and a driver. -/
  jobKey : ℕ → ℕ → Option ℕ
  jobs : List TimeoutJob
  jobCount : ℕ

def Store.offers (s : Store) : Offers := ⟨s.attemptStatus, s.lockHolder, s.jobKey, s.jobs, s.jobCount⟩

namespace Offers

/-- The driver is offered the trip. -/
def Notified (o : Offers) (tripId driverId : ℕ) : Prop :=
  o.status tripId driverId = some .driverNotified

/-! ### The effect of single commands -/

/-- The attempt is notified. -/
def notify (o : Offers) (tripId driverId : ℕ) : Offers :=
  { o with
    status := fun t d => if t = tripId ∧ d = driverId then some .driverNotified else o.status t d }

/-- The notified attempts of the trip (and the driver) get the answer. -/
def respond (o : Offers) (tripId : ℕ) (driverId : Option ℕ) (answer : DispatchStatus) : Offers :=
  { o with
    status := fun t d =>
      if t = tripId ∧ driverId.all (fun x => decide (d = x)) = true ∧
          o.status t d = some .driverNotified then some answer
      else o.status t d }

/-- The lock of the driver is set or deleted. -/
def setLock (o : Offers) (driverId : ℕ) (holder : Option ℕ) : Offers :=
  { o with lock := fun d => if d = driverId then holder else o.lock d }

/-- The job name of a trip and a driver is set or deleted. -/
def setJobKey (o : Offers) (tripId driverId : ℕ) (name : Option ℕ) : Offers :=
  { o with jobKey := fun t d => if t = tripId ∧ d = driverId then name else o.jobKey t d }

def addJob (o : Offers) (tripId driverId runAt : ℕ) : Offers :=
  { o with
    jobs := o.jobs ++ [⟨o.jobCount + 1, tripId, driverId, runAt⟩]
    jobCount := o.jobCount + 1 }

def removeJob (o : Offers) (jobId : ℕ) : Offers :=
  { o with jobs := o.jobs.filter fun job => job.id ≠ jobId }

/-- The job named for a trip and a driver is removed, and its name deleted. -/
def cancelJob (o : Offers) (tripId driverId : ℕ) : Offers :=
  match o.jobKey tripId driverId with
  | some jobId => (o.removeJob jobId).setJobKey tripId driverId none
  | none => o

end Offers

/-! ### Redis -/

namespace Store

variable {s : Store} {key key' : RedisKey} {entry : Option RedisEntry}

/-- The live value of an entry. -/
def live (now : ℕ) (entry : RedisEntry) : Option RedisValue :=
  match entry.expiresAt with
  | none => some entry.value
  | some t => if now < t then some entry.value else none

theorem get_eq (s : Store) (key : RedisKey) : s.get key = (s.redis key).bind (live s.now) := rfl

theorem get_setEntry : (Cmd.setEntry s key entry).get key' =
    if key' = key then entry.bind (live s.now) else s.get key' := by
  rw [get_eq, Cmd.setEntry]
  dsimp only
  split_ifs
  · rfl
  · rfl

/-- A value that was just set is live, unless its time is zero. -/
theorem live_set (now seconds : ℕ) (value : RedisValue) :
    live now ⟨value, some (now + seconds * 1000)⟩ = if 0 < seconds then some value else none := by
  have hlt : now < now + seconds * 1000 ↔ 0 < seconds := by omega
  simp only [live, hlt]

theorem get_redisSet {value : RedisValue} {seconds : ℕ} :
    ((Cmd.redisSet key value seconds).exec s).get key' =
      if key' = key then (if 0 < seconds then some value else none) else s.get key' := by
  rw [Cmd.exec, get_setEntry, Option.bind_some, live_set]

theorem get_redisDel : ((Cmd.redisDel key).exec s).get key' =
    if key' = key then none else s.get key' := by
  rw [Cmd.exec, get_setEntry, Option.bind_none]

theorem get_redisSetNx {value : RedisValue} {seconds : ℕ} :
    ((Cmd.redisSetNx key value seconds).exec s).get key' =
      if key' = key ∧ s.get key = none then (if 0 < seconds then some value else none)
      else s.get key' := by
  rw [Cmd.exec, get_setEntry]
  by_cases hkey : key' = key
  · subst hkey
    by_cases hfree : s.get key' = none
    · simp [hfree, live_set]
    · have hset : (s.get key').isNone = false := by
        rw [Option.isNone_eq_false_iff]
        exact Option.isSome_iff_ne_none.mpr hfree
      simp [hfree, hset, ← get_eq]
  · simp [hkey]

/-- What `checkAndRetryDispatch` reads as the number of rounds so far. -/
def roundsSoFar (s : Store) (tripId : ℕ) : ℕ :=
  match s.get (.dispatchRounds tripId) with
  | some (.count n) => n
  | _ => 0

theorem roundsSoFar_of_get {tripId n : ℕ} (h : s.get (.dispatchRounds tripId) = some (.count n)) :
    s.roundsSoFar tripId = n := by
  rw [roundsSoFar, h]

/-- The counter after `incr`. -/
theorem get_redisIncr (s : Store) (tripId : ℕ) :
    ((Cmd.redisIncr (.dispatchRounds tripId)).exec s).get (.dispatchRounds tripId) =
      some (.count (s.roundsSoFar tripId + 1)) := by
  show (Cmd.setEntry s (.dispatchRounds tripId) (some _)).get (.dispatchRounds tripId) = _
  rw [get_setEntry, if_pos rfl, Option.bind_some]
  split
  · next n hget =>
    rw [roundsSoFar_of_get hget]
    -- a counter that is live keeps its time to live
    obtain ⟨entry, hentry, hlive⟩ := Option.bind_eq_some_iff.mp hget
    rw [hentry, Option.bind_some]
    unfold live
    cases hexpires : entry.expiresAt with
    | none => rfl
    | some t =>
      rw [hexpires] at hlive
      dsimp only at hlive ⊢
      split_ifs at hlive with hlt
      rw [if_pos hlt]
  · next hget =>
    have hnone : s.roundsSoFar tripId = 0 := by
      unfold roundsSoFar
      split
      · next n hget' => exact absurd hget' (hget n)
      · rfl
    rw [hnone]
    rfl

/-- The time to live of a counter is renewed. -/
theorem get_redisExpire {seconds : ℕ} (hseconds : 0 < seconds) :
    ((Cmd.redisExpire key seconds).exec s).get key' = s.get key' := by
  show (Cmd.setEntry s key _).get key' = _
  rw [get_setEntry]
  split_ifs with hkey
  · rw [hkey]
    cases s.get key with
    | none => rfl
    | some value => rw [Option.map_some, Option.bind_some, live_set, if_pos hseconds]
  · rfl

end Store

namespace Cmd

variable {c : Cmd} {s : Store} {tripId driverId : ℕ}

/-- The command writes no attempt, no Redis key and no job, and takes no time. -/
def keepsOffers : Cmd → Bool
  | upsertAttempt _ _ | rearmAttempt _ _ | respondAttempts _ _ _ => false
  | redisSet _ _ _ | redisSetNx _ _ _ | redisDel _ | redisIncr _ | redisExpire _ _ => false
  | addJob _ _ _ | removeJob _ | tick _ => false
  | _ => true

theorem offers_exec (h : c.keepsOffers = true) : (c.exec s).offers = s.offers := by
  cases c <;> first | rfl | simp [keepsOffers] at h

/-- A command that changes one Redis key which is neither a lock nor a job name. -/
theorem offers_of_get {s' : Store} (hattempts : s'.attempts = s.attempts) (hjobs : s'.jobs = s.jobs)
    (hcount : s'.jobCount = s.jobCount)
    (hlock : ∀ d, s'.get (.dispatchLock d) = s.get (.dispatchLock d))
    (hkey : ∀ t d, s'.get (.dispatchTimeoutJob t d) = s.get (.dispatchTimeoutJob t d)) :
    s'.offers = s.offers := by
  have hstatus : s'.attemptStatus = s.attemptStatus := by
    funext t d
    rw [Store.attemptStatus, hattempts, Store.attemptStatus]
  have hholder : s'.lockHolder = s.lockHolder := by
    funext d
    rw [Store.lockHolder, hlock, Store.lockHolder]
  have hname : s'.jobKey = s.jobKey := by
    funext t d
    rw [Store.jobKey, hkey, Store.jobKey]
  rw [Store.offers, hstatus, hholder, hname, hjobs, hcount, Store.offers]

theorem get_setEntry_of_ne {key key' : RedisKey} {entry : Option RedisEntry} (h : key' ≠ key) :
    (setEntry s key entry).get key' = s.get key' := by
  rw [Store.get_setEntry, if_neg h]

theorem offers_setEntry_rounds {entry : Option RedisEntry} :
    (setEntry s (.dispatchRounds tripId) entry).offers = s.offers := by
  refine offers_of_get rfl rfl rfl (fun d => ?_) fun t d => ?_
  · exact get_setEntry_of_ne RedisKey.noConfusion
  · exact get_setEntry_of_ne RedisKey.noConfusion

theorem offers_redisIncr_rounds : ((redisIncr (.dispatchRounds tripId)).exec s).offers = s.offers :=
  offers_setEntry_rounds

theorem offers_redisExpire_rounds {seconds : ℕ} :
    ((redisExpire (.dispatchRounds tripId) seconds).exec s).offers = s.offers :=
  offers_setEntry_rounds

theorem offers_redisDel_rounds : ((redisDel (.dispatchRounds tripId)).exec s).offers = s.offers :=
  offers_setEntry_rounds

/-- Setting or deleting a lock. -/
theorem offers_of_setLock {s' : Store} {holder : Option ℕ} (hattempts : s'.attempts = s.attempts)
    (hjobs : s'.jobs = s.jobs) (hcount : s'.jobCount = s.jobCount)
    (hother : ∀ key, key ≠ .dispatchLock driverId → s'.get key = s.get key)
    (hlock : (s'.get (.dispatchLock driverId)).bind RedisValue.trip? = holder) :
    s'.offers = s.offers.setLock driverId holder := by
  have hstatus : s'.attemptStatus = s.attemptStatus := by
    funext t d
    rw [Store.attemptStatus, hattempts, Store.attemptStatus]
  have hholder : s'.lockHolder = fun d => if d = driverId then holder else s.lockHolder d := by
    funext d
    by_cases hd : d = driverId
    · subst hd
      rw [if_pos rfl, Store.lockHolder, hlock]
    · rw [if_neg hd, Store.lockHolder, Store.lockHolder, hother]
      simpa using hd
  have hname : s'.jobKey = s.jobKey := by
    funext t d
    rw [Store.jobKey, Store.jobKey, hother _ RedisKey.noConfusion]
  rw [Store.offers, hstatus, hholder, hname, hjobs, hcount]
  rfl

theorem offers_redisDel_lock :
    ((redisDel (.dispatchLock driverId)).exec s).offers = s.offers.setLock driverId none := by
  refine offers_of_setLock rfl rfl rfl (fun key hkey => ?_) ?_
  · rw [Store.get_redisDel, if_neg hkey]
  · rw [Store.get_redisDel, if_pos rfl, Option.bind_none]

theorem offers_redisSet_lock {seconds : ℕ} (hseconds : 0 < seconds) :
    ((redisSet (.dispatchLock driverId) (.trip tripId) seconds).exec s).offers =
      s.offers.setLock driverId (some tripId) := by
  refine offers_of_setLock rfl rfl rfl (fun key hkey => ?_) ?_
  · rw [Store.get_redisSet, if_neg hkey]
  · rw [Store.get_redisSet, if_pos rfl, if_pos hseconds]
    rfl

/-- A lock that is free is taken, unless the lock's time is zero. -/
theorem offers_redisSetNx_lock_free {seconds : ℕ} (hfree : s.get (.dispatchLock driverId) = none) :
    ((redisSetNx (.dispatchLock driverId) (.trip tripId) seconds).exec s).offers =
      s.offers.setLock driverId (if 0 < seconds then some tripId else none) := by
  refine offers_of_setLock rfl rfl rfl (fun key hkey => ?_) ?_
  · rw [Store.get_redisSetNx, if_neg fun h => hkey h.1]
  · rw [Store.get_redisSetNx, if_pos ⟨rfl, hfree⟩]
    split_ifs
    · rfl
    · rfl

theorem offers_redisSetNx_lock_held {seconds : ℕ} (hheld : s.get (.dispatchLock driverId) ≠ none) :
    ((redisSetNx (.dispatchLock driverId) (.trip tripId) seconds).exec s).offers = s.offers := by
  refine offers_of_get rfl rfl rfl (fun d => ?_) fun t d => ?_
  · rw [Store.get_redisSetNx, if_neg]
    rintro ⟨hd, hnone⟩
    exact hheld hnone
  · rw [Store.get_redisSetNx, if_neg fun h => RedisKey.noConfusion h.1]

/-- Setting or deleting a job name. -/
theorem offers_of_setJobKey {s' : Store} {name : Option ℕ} (hattempts : s'.attempts = s.attempts)
    (hjobs : s'.jobs = s.jobs) (hcount : s'.jobCount = s.jobCount)
    (hother : ∀ key, key ≠ .dispatchTimeoutJob tripId driverId → s'.get key = s.get key)
    (hkey : (s'.get (.dispatchTimeoutJob tripId driverId)).bind RedisValue.job? = name) :
    s'.offers = s.offers.setJobKey tripId driverId name := by
  have hstatus : s'.attemptStatus = s.attemptStatus := by
    funext t d
    rw [Store.attemptStatus, hattempts, Store.attemptStatus]
  have hholder : s'.lockHolder = s.lockHolder := by
    funext d
    rw [Store.lockHolder, Store.lockHolder, hother _ RedisKey.noConfusion]
  have hname : s'.jobKey =
      fun t d => if t = tripId ∧ d = driverId then name else s.jobKey t d := by
    funext t d
    by_cases htd : t = tripId ∧ d = driverId
    · obtain ⟨rfl, rfl⟩ := htd
      rw [if_pos ⟨rfl, rfl⟩, Store.jobKey, hkey]
    · rw [if_neg htd, Store.jobKey, Store.jobKey, hother]
      simpa using htd
  rw [Store.offers, hstatus, hholder, hname, hjobs, hcount]
  rfl

theorem offers_redisDel_jobKey : ((redisDel (.dispatchTimeoutJob tripId driverId)).exec s).offers =
    s.offers.setJobKey tripId driverId none := by
  refine offers_of_setJobKey rfl rfl rfl (fun key hkey => ?_) ?_
  · rw [Store.get_redisDel, if_neg hkey]
  · rw [Store.get_redisDel, if_pos rfl, Option.bind_none]

theorem offers_redisSet_jobKey {jobId seconds : ℕ} (hseconds : 0 < seconds) :
    ((redisSet (.dispatchTimeoutJob tripId driverId) (.job jobId) seconds).exec s).offers =
      s.offers.setJobKey tripId driverId (some jobId) := by
  refine offers_of_setJobKey rfl rfl rfl (fun key hkey => ?_) ?_
  · rw [Store.get_redisSet, if_neg hkey]
  · rw [Store.get_redisSet, if_pos rfl, if_pos hseconds]
    rfl

theorem offers_addJob {delayMs : ℕ} : ((addJob tripId driverId delayMs).exec s).offers =
    s.offers.addJob tripId driverId (s.now + delayMs) := rfl

/-! ### Attempts -/

theorem attemptStatus_upsertAttempt {t d : ℕ} :
    ((upsertAttempt tripId driverId).exec s).attemptStatus t d =
      if t = tripId ∧ d = driverId then some .driverNotified else s.attemptStatus t d := by
  have hkey : (t, d) = (tripId, driverId) ↔ t = tripId ∧ d = driverId := Prod.mk.injEq .. ▸ Iff.rfl
  rw [Store.attemptStatus, Store.attemptStatus]
  simp only [exec]
  by_cases hfound : (s.attempts.find? (tripId, driverId)).isSome = true
  · rw [if_pos hfound, Table.find?_update]
    by_cases htd : t = tripId ∧ d = driverId
    · obtain ⟨a, ha⟩ := Option.isSome_iff_exists.mp hfound
      rw [if_pos htd, if_pos (hkey.mpr htd), hkey.mpr htd, ha]
      rfl
    · rw [if_neg htd, if_neg fun h => htd (hkey.mp h)]
  · rw [if_neg hfound, Table.find?_insert]
    have hnew : DispatchAttempt.key ⟨tripId, driverId, .driverNotified, s.now, none⟩ =
        (tripId, driverId) := rfl
    rw [hnew]
    by_cases htd : t = tripId ∧ d = driverId
    · rw [Option.not_isSome_iff_eq_none] at hfound
      rw [if_pos htd, hkey.mpr htd, hfound, Option.none_or, if_pos rfl]
      rfl
    · rw [if_neg htd, if_neg fun h => htd (hkey.mp h.symm), Option.or_none]

theorem offers_upsertAttempt :
    ((upsertAttempt tripId driverId).exec s).offers = s.offers.notify tripId driverId := by
  have hstatus : ((upsertAttempt tripId driverId).exec s).attemptStatus = fun t d =>
      if t = tripId ∧ d = driverId then some .driverNotified else s.attemptStatus t d := by
    funext t d
    exact attemptStatus_upsertAttempt
  rw [Store.offers, hstatus]
  rfl

/-- Opening an attempt again. -/
theorem offers_rearmAttempt (h : (s.attempts.find? (tripId, driverId)).isSome = true) :
    ((rearmAttempt tripId driverId).exec s).offers = s.offers.notify tripId driverId := by
  have hstatus : ((rearmAttempt tripId driverId).exec s).attemptStatus = fun t d =>
      if t = tripId ∧ d = driverId then some .driverNotified else s.attemptStatus t d := by
    funext t d
    rw [Store.attemptStatus, Store.attemptStatus]
    simp only [exec]
    by_cases htd : t = tripId ∧ d = driverId
    · obtain ⟨rfl, rfl⟩ := htd
      obtain ⟨a, ha⟩ := Option.isSome_iff_exists.mp h
      rw [if_pos ⟨rfl, rfl⟩, Table.find?_update_self, ha]
      rfl
    · have hne : (t, d) ≠ (tripId, driverId) := by simpa using htd
      rw [if_neg htd, Table.find?_update_of_ne hne]
  rw [Store.offers, hstatus]
  rfl

theorem offers_respondAttempts {driver : Option ℕ} {answer : DispatchStatus} :
    ((respondAttempts tripId driver answer).exec s).offers =
      s.offers.respond tripId driver answer := by
  have hstatus : ((respondAttempts tripId driver answer).exec s).attemptStatus = fun t d =>
      if t = tripId ∧ driver.all (fun x => decide (d = x)) = true ∧
          s.attemptStatus t d = some .driverNotified then some answer
      else s.attemptStatus t d := by
    funext t d
    rw [Store.attemptStatus, Store.attemptStatus]
    simp only [exec, Table.find?_updateMany]
    cases ha : s.attempts.find? (t, d) with
    | none => simp
    | some a =>
      have hkey : a.key = (t, d) := Table.key_of_find? ha
      rw [DispatchAttempt.key, Prod.mk.injEq] at hkey
      obtain ⟨rfl, rfl⟩ := hkey
      simp only [Option.map_some, Option.some_inj, Bool.and_eq_true, decide_eq_true_eq]
      by_cases hsel : (a.tripId = tripId ∧ driver.all (fun x => decide (a.driverId = x)) = true) ∧
          a.status = .driverNotified
      · rw [if_pos hsel, if_pos ⟨hsel.1.1, hsel.1.2, hsel.2⟩]
        rfl
      · rw [if_neg hsel, if_neg fun h => hsel ⟨⟨h.1, h.2.1⟩, h.2.2⟩]
  rw [Store.offers, hstatus]
  rfl

end Cmd

/-! ### What happens to an offer -/

namespace Offers

variable {tripId driverId : ℕ} {X Y : ℕ → Prop} {answer : ℕ → Option DispatchStatus}
variable {o o' o'' : Offers}

/-- The trip's offers to the drivers in `X` are closed: each notified attempt gets its answer, if
there is one, and the driver's lock and job name are deleted. -/
structure Closed (tripId : ℕ) (X : ℕ → Prop) (answer : ℕ → Option DispatchStatus) (o o' : Offers) :
    Prop where
  answered : ∀ d a, X d → o.Notified tripId d → answer d = some a → o'.status tripId d = some a
  status : ∀ t d, (t = tripId → X d → o.Notified t d → answer d = none) →
    o'.status t d = o.status t d
  unlocked : ∀ d, X d → o'.lock d = none
  lock : ∀ d, ¬ X d → o'.lock d = o.lock d
  unnamed : ∀ d, X d → o'.jobKey tripId d = none
  jobKey : ∀ t d, (t = tripId → ¬ X d) → o'.jobKey t d = o.jobKey t d
  jobCount : o'.jobCount = o.jobCount

/-- The offers are closed, and the timeout jobs named for them are removed. -/
structure Withdrawn (tripId : ℕ) (X : ℕ → Prop) (answer : ℕ → Option DispatchStatus)
    (o o' : Offers) : Prop extends Closed tripId X answer o o' where
  jobs : ∀ job, job ∈ o'.jobs ↔ job ∈ o.jobs ∧ ∀ d, X d → o.jobKey tripId d ≠ some job.id

/-- The offer is closed by its timeout job, which is no longer queued. -/
structure TimedOut (tripId driverId : ℕ) (o o' : Offers) : Prop
    extends Closed tripId (· = driverId) (fun _ => some .timedOut) o o' where
  jobs : o'.jobs = o.jobs

/-- The trip is offered to a driver whose lock was free; an earlier timeout job of the two is
replaced. -/
structure Offered (tripId driverId runAt : ℕ) (o o' : Offers) : Prop where
  free : o.lock driverId = none
  status : ∀ t d, o'.status t d =
    if t = tripId ∧ d = driverId then some .driverNotified else o.status t d
  locked : o'.lock driverId = some tripId ∨ o'.lock driverId = none
  lock : ∀ d, d ≠ driverId → o'.lock d = o.lock d
  jobKey : ∀ t d, o'.jobKey t d =
    if t = tripId ∧ d = driverId then some (o.jobCount + 1) else o.jobKey t d
  jobs : ∀ job, job ∈ o'.jobs ↔
    (job ∈ o.jobs ∧ o.jobKey tripId driverId ≠ some job.id) ∨
      job = ⟨o.jobCount + 1, tripId, driverId, runAt⟩
  jobCount : o'.jobCount = o.jobCount + 1

/-- The offer is opened again: the attempt is notified and the driver's lock is taken. -/
def rearm (o : Offers) (tripId driverId : ℕ) : Offers :=
  (o.notify tripId driverId).setLock driverId (some tripId)

/-- Time has passed: locks and job names may have expired. -/
structure Elapsed (o o' : Offers) : Prop where
  status : o'.status = o.status
  lock : ∀ d t, o'.lock d = some t → o.lock d = some t
  jobKey : ∀ t d j, o'.jobKey t d = some j → o.jobKey t d = some j
  jobs : o'.jobs = o.jobs
  jobCount : o'.jobCount = o.jobCount

theorem Withdrawn.refl (o : Offers) : Withdrawn tripId (fun _ => False) answer o o where
  answered := fun _ _ h => h.elim
  status := fun _ _ _ => rfl
  unlocked := fun _ h => h.elim
  lock := fun _ _ => rfl
  unnamed := fun _ h => h.elim
  jobKey := fun _ _ _ => rfl
  jobCount := rfl
  jobs := by simp

/-- Withdrawing from some drivers, then from others. -/
theorem Withdrawn.trans (h : Withdrawn tripId X answer o o') (h' : Withdrawn tripId Y answer o' o'') :
    Withdrawn tripId (fun d => X d ∨ Y d) answer o o'' where
  answered := by
    intro d a hd hnotified ha
    by_cases hX : X d
    · have hstatus : o'.status tripId d = some a := h.answered d a hX hnotified ha
      by_cases hagain : Y d ∧ o'.Notified tripId d
      · exact h'.answered d a hagain.1 hagain.2 ha
      · rw [h'.status tripId d fun _ hY hn => absurd ⟨hY, hn⟩ hagain, hstatus]
    · have hY : Y d := hd.resolve_left hX
      have hsame : o'.status tripId d = o.status tripId d := h.status tripId d fun _ hX' => absurd hX' hX
      have hnotified' : o'.Notified tripId d := hsame.trans hnotified
      exact h'.answered d a hY hnotified' ha
  status := by
    intro t d hd
    have hsame : o'.status t d = o.status t d :=
      h.status t d fun ht hX hn => hd ht (Or.inl hX) hn
    rw [h'.status t d, hsame]
    intro ht hY hn
    have hn' : o.Notified t d := hsame.symm.trans hn
    exact hd ht (Or.inr hY) hn'
  unlocked := by
    intro d hd
    by_cases hY : Y d
    · exact h'.unlocked d hY
    · rw [h'.lock d hY, h.unlocked d (hd.resolve_right hY)]
  lock := by
    intro d hd
    rw [h'.lock d fun hY => hd (Or.inr hY), h.lock d fun hX => hd (Or.inl hX)]
  unnamed := by
    intro d hd
    by_cases hY : Y d
    · exact h'.unnamed d hY
    · rw [h'.jobKey tripId d fun _ => hY, h.unnamed d (hd.resolve_right hY)]
  jobKey := by
    intro t d hd
    rw [h'.jobKey t d fun ht hY => hd ht (Or.inr hY), h.jobKey t d fun ht hX => hd ht (Or.inl hX)]
  jobCount := h'.jobCount.trans h.jobCount
  jobs := by
    intro job
    rw [h'.jobs, h.jobs, and_assoc]
    refine and_congr_right fun _ => ?_
    constructor
    · rintro ⟨hX, hY⟩ d hd
      by_cases hXd : X d
      · exact hX d hXd
      · rw [← h.jobKey tripId d fun _ => hXd]
        exact hY d (hd.resolve_left hXd)
    · intro hall
      refine ⟨fun d hX => hall d (Or.inl hX), fun d hY => ?_⟩
      by_cases hXd : X d
      · rw [h.unnamed d hXd]
        exact fun h => nomatch h
      · rw [h.jobKey tripId d fun _ => hXd]
        exact hall d (Or.inr hY)

theorem Withdrawn.congr (h : Withdrawn tripId X answer o o') (hXY : ∀ d, X d ↔ Y d) :
    Withdrawn tripId Y answer o o' := by
  have hsame : X = Y := funext fun d => propext (hXY d)
  rwa [hsame] at h

theorem cancelJob_of_some {jobId : ℕ} (h : o.jobKey tripId driverId = some jobId) :
    o.cancelJob tripId driverId = (o.removeJob jobId).setJobKey tripId driverId none := by
  unfold cancelJob
  rw [h]

theorem cancelJob_of_none (h : o.jobKey tripId driverId = none) :
    o.cancelJob tripId driverId = o := by
  unfold cancelJob
  rw [h]

@[simp] theorem status_cancelJob : (o.cancelJob tripId driverId).status = o.status := by
  unfold cancelJob
  split <;> rfl

@[simp] theorem lock_cancelJob : (o.cancelJob tripId driverId).lock = o.lock := by
  unfold cancelJob
  split <;> rfl

@[simp] theorem jobCount_cancelJob : (o.cancelJob tripId driverId).jobCount = o.jobCount := by
  unfold cancelJob
  split <;> rfl

theorem jobKey_cancelJob {t d : ℕ} : (o.cancelJob tripId driverId).jobKey t d =
    if t = tripId ∧ d = driverId then none else o.jobKey t d := by
  unfold cancelJob
  split
  · rfl
  · next hnone =>
    by_cases htd : t = tripId ∧ d = driverId
    · rw [if_pos htd, htd.1, htd.2, hnone]
    · rw [if_neg htd]

theorem mem_jobs_cancelJob {job : TimeoutJob} : job ∈ (o.cancelJob tripId driverId).jobs ↔
    job ∈ o.jobs ∧ o.jobKey tripId driverId ≠ some job.id := by
  unfold cancelJob
  split
  · next jobId hname =>
    rw [hname]
    simp only [setJobKey, removeJob, List.mem_filter, decide_eq_true_eq, Ne, Option.some_inj]
    rw [eq_comm]
  · next hnone =>
    rw [hnone]
    simp

/-- The lock of a driver is deleted and its job is cancelled. -/
theorem withdrawn_unlock : Withdrawn tripId (· = driverId) (fun _ => none) o
    ((o.setLock driverId none).cancelJob tripId driverId) where
  answered := fun _ _ _ _ h => nomatch h
  status := fun _ _ _ => by rw [status_cancelJob]; rfl
  unlocked := by
    rintro d rfl
    rw [lock_cancelJob, setLock]
    exact if_pos rfl
  lock := by
    intro d hd
    rw [lock_cancelJob, setLock]
    exact if_neg hd
  unnamed := by
    rintro d rfl
    rw [jobKey_cancelJob, if_pos ⟨rfl, rfl⟩]
  jobKey := by
    intro t d hd
    rw [jobKey_cancelJob, if_neg fun h => hd h.1 h.2]
    rfl
  jobCount := by rw [jobCount_cancelJob]; rfl
  jobs := by
    intro job
    rw [mem_jobs_cancelJob]
    simp [setLock]

/-- Answering the attempts of drivers whose offers are withdrawn without an answer. -/
theorem Withdrawn.respond {driver : Option ℕ} {a : DispatchStatus}
    (h : Withdrawn tripId X (fun _ => none) o o')
    (hX : ∀ d, o.Notified tripId d → (driver.all (fun x => decide (d = x)) = true ↔ X d)) :
    Withdrawn tripId X (fun _ => some a) o (o'.respond tripId driver a) where
  answered := by
    intro d b hd hn hb
    obtain rfl := Option.some.inj hb
    have hsame : o'.status tripId d = some .driverNotified :=
      (h.status tripId d fun _ _ _ => rfl).trans hn
    exact if_pos ⟨rfl, (hX d hn).mpr hd, hsame⟩
  status := by
    intro t d hd
    have hsame : o'.status t d = o.status t d := h.status t d fun _ _ _ => rfl
    rw [Offers.respond]
    dsimp only
    rw [if_neg, hsame]
    rintro ⟨rfl, hdriver, hn⟩
    have hn' : o.Notified t d := hsame.symm.trans hn
    exact absurd (hd rfl ((hX d hn').mp hdriver) hn') (by simp)
  unlocked := h.unlocked
  lock := h.lock
  unnamed := h.unnamed
  jobKey := h.jobKey
  jobCount := h.jobCount
  jobs := h.jobs

/-- The driver accepts with its own lock: its attempt is accepted, and every other offer of the trip
is withdrawn. -/
def Accepted (tripId driverId : ℕ) (o o' : Offers) : Prop :=
  Withdrawn tripId (fun d => d = driverId ∨ o.Notified tripId d)
    (fun d => some (if d = driverId then .driverAccepted else .driverDeclined)) o o'

/-- The driver's attempt is accepted first and its lock deleted last. -/
theorem Withdrawn.accepted (h : Withdrawn tripId Y (fun _ => some .driverDeclined)
      ((o.respond tripId (some driverId) .driverAccepted).cancelJob tripId driverId) o')
    (hY : ∀ d, Y d ↔ o.Notified tripId d ∧ d ≠ driverId) :
    Accepted tripId driverId o (o'.setLock driverId none) where
  answered := by
    intro d a hd hn ha
    obtain rfl := Option.some.inj ha
    show o'.status tripId d = _
    -- the driver has answered before the others are withdrawn
    by_cases hdriver : d = driverId
    · subst hdriver
      rw [h.status tripId d fun _ hYd => absurd rfl ((hY d).mp hYd).2, status_cancelJob, if_pos rfl]
      exact if_pos ⟨rfl, by simp, hn⟩
    · rw [if_neg hdriver]
      refine h.answered d _ ((hY d).mpr ⟨hn, hdriver⟩) ?_ rfl
      show ((o.respond tripId (some driverId) .driverAccepted).cancelJob tripId driverId).status
        tripId d = _
      rw [status_cancelJob, Offers.respond]
      dsimp only
      rw [if_neg (by simp [hdriver])]
      exact hn
  status := by
    intro t d hd
    have hout : ¬ (t = tripId ∧ o.Notified t d) := by
      rintro ⟨rfl, hn⟩
      exact absurd (hd rfl (Or.inr hn) hn) (by simp)
    show o'.status t d = _
    have hnotY : t = tripId → ¬ Y d := fun ht hYd => hout ⟨ht, ht ▸ ((hY d).mp hYd).1⟩
    rw [h.status t d fun ht hYd => absurd hYd (hnotY ht), status_cancelJob, Offers.respond]
    dsimp only
    rw [if_neg]
    rintro ⟨ht, -, hn⟩
    exact hout ⟨ht, hn⟩
  unlocked := by
    intro d hd
    by_cases hdriver : d = driverId
    · exact if_pos hdriver
    · refine (if_neg hdriver).trans (h.unlocked d ((hY d).mpr ⟨?_, hdriver⟩))
      exact hd.resolve_left hdriver
  lock := by
    intro d hd
    have hdriver : d ≠ driverId := fun h => hd (Or.inl h)
    refine (if_neg hdriver).trans ?_
    rw [h.lock d fun hYd => hd (Or.inr ((hY d).mp hYd).1), lock_cancelJob]
    rfl
  unnamed := by
    intro d hd
    show o'.jobKey tripId d = none
    -- the name of his own job is deleted with it
    by_cases hYd : Y d
    · exact h.unnamed d hYd
    · have hdriver : d = driverId := by
        by_contra hne
        exact hYd ((hY d).mpr ⟨hd.resolve_left hne, hne⟩)
      rw [h.jobKey tripId d fun _ => hYd, jobKey_cancelJob, if_pos ⟨rfl, hdriver⟩]
  jobKey := by
    intro t d hd
    show o'.jobKey t d = _
    rw [h.jobKey t d fun ht hYd => hd ht (Or.inr ((hY d).mp hYd).1), jobKey_cancelJob,
      if_neg fun htd => hd htd.1 (Or.inl htd.2)]
    rfl
  jobCount := by
    show o'.jobCount = _
    rw [h.jobCount, jobCount_cancelJob]
    rfl
  jobs := by
    intro job
    show job ∈ o'.jobs ↔ _
    -- a job stays if neither he nor one of the others has its name
    rw [h.jobs, mem_jobs_cancelJob, and_assoc]
    refine and_congr_right fun _ => ?_
    constructor
    · rintro ⟨hown, hothers⟩ d hd
      by_cases hdriver : d = driverId
      · rw [hdriver]
        exact hown
      · have hother := hothers d ((hY d).mpr ⟨hd.resolve_left hdriver, hdriver⟩)
        rw [jobKey_cancelJob, if_neg fun h => hdriver h.2] at hother
        exact hother
    · intro hall
      refine ⟨hall driverId (Or.inl rfl), fun d hYd => ?_⟩
      rw [jobKey_cancelJob]
      split_ifs
      · exact fun h => nomatch h
      · exact hall d (Or.inr ((hY d).mp hYd).1)

/-- The commands that offer the trip to a driver whose lock was free. -/
theorem offered {holder : Option ℕ} {runAt : ℕ} (hfree : o.lock driverId = none)
    (hholder : holder = some tripId ∨ holder = none) :
    Offered tripId driverId runAt o
      (((((o.setLock driverId holder).notify tripId driverId).cancelJob tripId driverId).addJob
        tripId driverId runAt).setJobKey tripId driverId (some (o.jobCount + 1))) where
  free := hfree
  status := by
    intro t d
    simp only [setJobKey, addJob, status_cancelJob, notify, setLock]
  locked := by
    simp only [setJobKey, addJob, lock_cancelJob, notify, setLock]
    exact hholder.imp (fun h => by rw [if_pos trivial, h]) fun h => by rw [if_pos trivial, h]
  lock := by
    intro d hd
    simp only [setJobKey, addJob, lock_cancelJob, notify, setLock]
    exact if_neg hd
  jobKey := by
    intro t d
    simp only [setJobKey, addJob, jobKey_cancelJob]
    split_ifs with htd
    · rfl
    · rfl
  jobs := by
    intro job
    simp only [setJobKey, addJob, List.mem_append, List.mem_singleton, mem_jobs_cancelJob,
      jobCount_cancelJob]
    rfl
  jobCount := by
    simp only [setJobKey, addJob, jobCount_cancelJob]
    rfl

/-- The commands with which the worker and `handleDriverTimeout` close an offer. -/
theorem timedOut (o : Offers) (tripId driverId : ℕ) : TimedOut tripId driverId o
    (((o.respond tripId (some driverId) .timedOut).setLock driverId none).setJobKey tripId driverId
      none) where
  answered := by
    rintro d a rfl hn ha
    obtain rfl := Option.some.inj ha
    exact if_pos ⟨rfl, by simp, hn⟩
  status := by
    intro t d hd
    refine if_neg ?_
    rintro ⟨rfl, hdriver, hn⟩
    have hd' : d = driverId := by simpa using hdriver
    exact absurd (hd rfl hd' hn) (by simp)
  unlocked := by
    rintro d rfl
    exact if_pos rfl
  lock := fun d hd => if_neg hd
  unnamed := by
    rintro d rfl
    exact if_pos ⟨rfl, rfl⟩
  jobKey := fun t d hd => if_neg fun h => hd h.1 h.2
  jobCount := rfl
  jobs := rfl

end Offers

namespace DispatchService

/-- The drivers `findNotifiedDrivers` finds. -/
theorem mem_notifiedDrivers {s : Store} {tripId : ℕ} {except : Option ℕ} {d : ℕ} :
    d ∈ (s.attempts.findMany fun a =>
      decide (a.tripId = tripId) && decide (a.status = .driverNotified) &&
        except.all fun x => decide (a.driverId ≠ x)).map DispatchAttempt.driverId ↔
      s.offers.Notified tripId d ∧ except.all (fun x => decide (d ≠ x)) = true := by
  rw [List.mem_map]
  constructor
  · rintro ⟨a, ha, rfl⟩
    obtain ⟨hmem, hsel⟩ := List.mem_filter.mp ha
    simp only [Bool.and_eq_true, decide_eq_true_eq] at hsel
    obtain ⟨⟨rfl, hstatus⟩, hexcept⟩ := hsel
    refine ⟨?_, hexcept⟩
    show s.attemptStatus a.tripId a.driverId = some .driverNotified
    have hfind : s.attempts.find? (a.tripId, a.driverId) = some a := Table.find?_of_mem hmem
    rw [Store.attemptStatus, hfind, Option.map_some, hstatus]
  · rintro ⟨hnotified, hexcept⟩
    obtain ⟨a, ha, hstatus⟩ := Option.map_eq_some_iff.mp hnotified
    have hkey : a.key = (tripId, d) := Table.key_of_find? ha
    rw [DispatchAttempt.key, Prod.mk.injEq] at hkey
    obtain ⟨rfl, rfl⟩ := hkey
    refine ⟨a, List.mem_filter.mpr ⟨Table.mem_of_find? ha, ?_⟩, rfl⟩
    rw [hstatus]
    simpa using hexcept

theorem findNotifiedDrivers_eq_nil_iff {s : Store} {tripId : ℕ} :
    ((s.attempts.findMany fun a =>
      decide (a.tripId = tripId) && decide (a.status = .driverNotified) &&
        (none : Option ℕ).all fun x => decide (a.driverId ≠ x)).map DispatchAttempt.driverId) = [] ↔
      ∀ d, ¬ s.offers.Notified tripId d := by
  rw [List.eq_nil_iff_forall_not_mem]
  refine forall_congr' fun d => not_congr ?_
  rw [mem_notifiedDrivers]
  simp

end DispatchService

end Telima
