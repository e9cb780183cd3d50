import Telima.Operations.Effects
import Telima.Operations.OfferWalk

/-!
# Job names in interleaved runs

`Offers.WellKeyed` says that what is named for a trip and a driver is their job.  It holds in every
interleaved run: only `notifyCandidate` names a job, one that it has just queued itself
(`wellKeyed_of_run`).
-/

namespace Telima

open TripsService DispatchService DispatchRecoveryService

/-- The id is in use, and a job that has it is the trip's and the driver's. -/
structure Offers.Owns (o : Offers) (tripId driverId jobId : ℕ) : Prop where
  le : jobId ≤ o.jobCount
  owner : ∀ job ∈ o.jobs, job.id = jobId → job.tripId = tripId ∧ job.driverId = driverId

section Commands

variable {s : Store} {c : Cmd} {tripId driverId jobId seconds : ℕ}

/-- The jobs after a command were there before, or the command has queued one. -/
theorem Cmd.mem_jobs_exec {job : TimeoutJob} (h : job ∈ (c.exec s).jobs) :
    job ∈ s.jobs ∨ ∃ delayMs, c = .addJob job.tripId job.driverId delayMs ∧
      job.id = s.jobCount + 1 := by
  cases c with
  | addJob t d delayMs =>
    rcases List.mem_append.mp h with h | h
    · exact .inl h
    · obtain rfl := List.mem_singleton.mp h
      exact .inr ⟨delayMs, rfl, rfl⟩
  | removeJob id => exact .inl (List.mem_of_mem_filter h)
  | _ => exact .inl h

theorem Cmd.jobCount_le_exec : s.jobCount ≤ (c.exec s).jobCount := by
  cases c with
  | addJob t d delayMs => exact Nat.le_succ _
  | _ => exact le_rfl

/-- A command that names no job leaves the names that are there, or deletes some. -/
theorem Cmd.jobKey_exec (hc : c.namesJob = false)
    (h : (c.exec s).jobKey tripId driverId = some jobId) :
    s.jobKey tripId driverId = some jobId := by
  have hother : ∀ (key : RedisKey) (entry : Option RedisEntry),
      key ≠ .dispatchTimeoutJob tripId driverId →
      (setEntry s key entry).jobKey tripId driverId = s.jobKey tripId driverId := by
    intro key entry hkey
    rw [Store.jobKey, get_setEntry_of_ne (Ne.symm hkey), Store.jobKey]
  cases c with
  | redisSet key value seconds =>
    cases key with
    | dispatchTimeoutJob t d => cases hc
    | _ => exact (hother _ _ RedisKey.noConfusion).symm.trans h
  | redisSetNx key value seconds =>
    cases key with
    | dispatchTimeoutJob t d => cases hc
    | _ => exact (hother _ _ RedisKey.noConfusion).symm.trans h
  | redisDel key =>
    by_cases hkey : key = .dispatchTimeoutJob tripId driverId
    · subst hkey
      rw [Store.jobKey, Store.get_redisDel, if_pos rfl] at h
      cases h
    · exact (hother key none hkey).symm.trans h
  | redisIncr key =>
    cases key with
    | dispatchTimeoutJob t d => cases hc
    | _ => exact (hother _ _ RedisKey.noConfusion).symm.trans h
  | redisExpire key seconds =>
    cases key with
    | dispatchTimeoutJob t d => cases hc
    | _ => exact (hother _ _ RedisKey.noConfusion).symm.trans h
  | tick ms => exact (elapsed_tick ms s).jobKey tripId driverId jobId h
  | _ => exact h

/-- An id stays its owner's: the ids of later jobs are greater. -/
theorem Offers.Owns.exec (h : s.offers.Owns tripId driverId jobId) :
    (c.exec s).offers.Owns tripId driverId jobId := by
  refine ⟨h.le.trans Cmd.jobCount_le_exec, fun job hjob hid => ?_⟩
  rcases Cmd.mem_jobs_exec hjob with hold | ⟨delayMs, -, hnew⟩
  · exact h.owner job hold hid
  · have hle : jobId ≤ s.jobCount := h.le
    omega

/-- A job that was just queued has a new id. -/
theorem Offers.WellKeyed.owns_addJob (h : s.offers.WellKeyed) {delayMs : ℕ} :
    ((Cmd.addJob tripId driverId delayMs).exec s).offers.Owns tripId driverId (s.jobCount + 1) := by
  refine ⟨le_rfl, fun job hjob hid => ?_⟩
  rcases List.mem_append.mp hjob with hold | hnew
  · have hle : job.id ≤ s.jobCount := h.job_le job hold
    omega
  · obtain rfl := List.mem_singleton.mp hnew
    exact ⟨rfl, rfl⟩

theorem Offers.WellKeyed.exec (h : s.offers.WellKeyed) (hc : c.namesJob = false) :
    (c.exec s).offers.WellKeyed := by
  refine ⟨fun job hjob => ?_, fun t d j hj => ?_, fun t d j hj job hjob hid => ?_⟩
  · rcases Cmd.mem_jobs_exec hjob with hold | ⟨delayMs, rfl, hnew⟩
    · exact (h.job_le job hold).trans Cmd.jobCount_le_exec
    · exact hnew.le
  · exact (h.name_le t d j (Cmd.jobKey_exec hc hj)).trans Cmd.jobCount_le_exec
  · have hname : s.offers.jobKey t d = some j := Cmd.jobKey_exec hc hj
    have howns : s.offers.Owns t d j := ⟨h.name_le t d j hname, h.owner t d j hname⟩
    exact howns.exec.owner job hjob hid

/-- Naming the owner's job. -/
theorem Offers.WellKeyed.exec_redisSet (h : s.offers.WellKeyed)
    (howns : s.offers.Owns tripId driverId jobId) :
    ((Cmd.redisSet (.dispatchTimeoutJob tripId driverId) (.job jobId) seconds).exec
      s).offers.WellKeyed := by
  have hname : ∀ t d j, ((Cmd.redisSet (.dispatchTimeoutJob tripId driverId) (.job jobId)
      seconds).exec s).jobKey t d = some j → s.offers.Owns t d j := by
    intro t d j hj
    rw [Store.jobKey, Store.get_redisSet] at hj
    split_ifs at hj with hkey
    · obtain ⟨rfl, rfl⟩ := RedisKey.dispatchTimeoutJob.inj hkey
      obtain rfl := Option.some.inj hj
      exact howns
    · cases hj
    · exact ⟨h.name_le t d j hj, h.owner t d j hj⟩
  exact ⟨h.job_le, fun t d j hj => (hname t d j hj).le, fun t d j hj => (hname t d j hj).owner⟩

end Commands

namespace JobNames

section Threads

variable {env : Env} {fault : Error → Prop} {i : ℕ} {w : World Store Cmd}

/-- What is named is a job of the trip and the driver. -/
def Guards (w : World Store Cmd) (c : Cmd) : Prop :=
  c.namesJob = false ∨ ∃ tripId driverId jobId seconds,
    c = .redisSet (.dispatchTimeoutJob tripId driverId) (.job jobId) seconds ∧
      w.store.offers.Owns tripId driverId jobId

/-- Every name is one of the right job. -/
def protocol (env : Env) (fault : Error → Prop) : Protocol (system env ()) where
  cond := fun _ _ _ => True
  fault := fault
  inv w := w.store.offers.WellKeyed
  guar _ := Guards
  inv_step := by
    intro w i c n hinv _ hguar _ _
    rw [World.store_step]
    rcases hguar with hc | ⟨tripId, driverId, jobId, seconds, rfl, howns⟩
    · exact hinv.exec hc
    · exact hinv.exec_redisSet howns

theorem frame_true : (protocol env fault).Frame i (fun c => c.namesJob = false) fun _ => True where
  stable := Protocol.stable_const i True
  performs hc _ _ _ := ⟨.inl hc, fun _ _ _ => trivial⟩

theorem frame_owns (tripId driverId jobId : ℕ) :
    (protocol env fault).Frame i (fun c => c.namesJob = false)
      fun w => w.store.offers.Owns tripId driverId jobId where
  stable := by
    rintro w _ ⟨j, c, n, -, -, -, -, -, -, -, rfl⟩ h
    show (w.step (system env ()) j c n).store.offers.Owns tripId driverId jobId
    rw [World.store_step]
    exact h.exec
  performs := by
    intro c w hc hw _ _
    refine ⟨.inl hc, fun n _ _ => ?_⟩
    show (w.step (system env ()) i c n).store.offers.Owns tripId driverId jobId
    rw [World.store_step]
    exact hw.exec

theorem keeps_of_none {α : Type} {p : Prog α} (hp : NamesNone p) : (protocol env fault).Keeps i p :=
  frame_true.keeps hp

theorem keeps_query {α : Type} {c : Cmd} {f : Store → α} (hc : c.namesJob = false) :
    (protocol env fault).Keeps i (Async.query c f) := keeps_of_none (Async.only_query.mpr hc)

theorem keeps_perform {c : Cmd} (hc : c.namesJob = false) :
    (protocol env fault).Keeps i (Async.perform c) := keeps_of_none (Async.only_perform.mpr hc)

theorem keeps_emit {c : Cmd} (hc : c.namesJob = false) :
    (protocol env fault).Keeps i (Async.emit c) := keeps_of_none (Async.only_emit.mpr hc)

/-- The job that is named was queued just before. -/
theorem keeps_nameJob {β : Type} (config : ServiceDispatchConfig) (tripId driverId : ℕ)
    {f : ℕ → Unit → Prog β} (hf : ∀ jobId a, (protocol env fault).Keeps i (f jobId a)) :
    (protocol env fault).Keeps i
      ((Async.query (.addJob tripId driverId config.dispatchTimeoutMs) fun s =>
        s.jobCount + 1).bind fun jobId => (Async.perform (.redisSet
          (.dispatchTimeoutJob tripId driverId) (.job jobId)
            ((config.dispatchTimeoutMs + 999) / 1000 + 30))).bind (f jobId)) := by
  intro w
  refine Protocol.wp_query_bind frame_true.stable trivial (fun v _ hinv _ => ?_)
    fun _ _ _ _ _ => trivial
  refine ⟨.inl rfl, fun n _ _ => ?_⟩
  have howns : (v.step (system env ()) i
      (.addJob tripId driverId config.dispatchTimeoutMs) n).store.offers.Owns tripId driverId
        (v.store.jobCount + 1) := by
    rw [World.store_step]
    exact Offers.WellKeyed.owns_addJob hinv
  refine Protocol.wp_query_bind (frame_owns _ _ _).stable howns (fun u hu _ _ => ?_)
    fun _ _ _ _ _ => trivial
  exact ⟨.inr ⟨_, _, _, _, rfl, hu⟩, fun m _ _ => hf _ _ _⟩

theorem keeps_notifyCandidate (config : ServiceDispatchConfig) (tripId : ℕ) (pickup : Point)
    (serviceType : ServiceType) (trip : Option (Trip × Option VehicleType))
    (dropoff : Option Point) (driver : NearbyDriver) : (protocol env fault).Keeps i
      (notifyCandidate config tripId pickup serviceType trip dropoff driver) := by
  refine (keeps_query rfl).bind fun acquired => ?_
  split_ifs
  · refine (keeps_perform rfl).bind fun _ => ?_
    refine (keeps_emit rfl).bind fun _ => ?_
    refine (keeps_of_none (namesNone_cancelTimeoutJob tripId driver.driverId)).bind fun _ => ?_
    refine keeps_nameJob config tripId driver.driverId fun jobId _ => ?_
    exact (keeps_emit rfl).bind fun _ => Protocol.keeps_done _
  · exact Protocol.keeps_done _

theorem walk : OfferWalk fun _ p => (protocol env fault).Keeps i p where
  done := Protocol.keeps_done
  bind := Protocol.Keeps.bind
  tryCatch := Protocol.Keeps.tryCatch
  namesNone := keeps_of_none
  notifyCandidate := keeps_notifyCandidate

theorem handlersKeep : (protocol env fault).HandlersKeep fun _ _ _ => True := by
  intro c k h hk j n w _ _ _ _ _
  cases c with
  | emit event =>
    obtain ⟨handler, hmem, rfl⟩ := List.mem_map.mp (List.mem_of_getElem? hk)
    exact (walk.handler env event hmem).as _
  | _ => simp [handlers] at hk

end Threads

end JobNames

open JobNames in
/-- In every interleaved run, what is named for a trip and a driver is their job. -/
theorem wellKeyed_of_run (env : Env) (pricing : PricingEnv) {s : Store}
    (hs : s.offers.WellKeyed) (ops : List Operation) (fault : Error → Prop)
    {p : Pool Store Cmd Error Unit} (hp : Pool.Run (system env ()) (fun _ _ _ => True) fault
      (Pool.init s (ops.map (·.program env pricing))) p) : p.world.store.offers.WellKeyed := by
  have hstart : (protocol env fault).Safe (fun _ _ _ => True)
      (Pool.init s (ops.map (·.program env pricing))) := by
    refine Protocol.safe_init hs fun i t ht => ?_
    obtain ⟨op, -, rfl⟩ := List.mem_map.mp (List.mem_of_getElem? ht)
    exact walk.program env pricing op _
  exact (hstart.run (fun i _ => Protocol.stable_const i True) handlersKeep hp).inv

end Telima
