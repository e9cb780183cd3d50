import Telima.Operations.Rows

/-!
# Every offer expires

The offer of a pending trip has a timeout job, and the job's id is the value of
`DispatchTimeoutJobKey`: `offers_expire`.  Two things are left out.  A driver's attempt that has
timed out must not be opened again, since `getPendingRequestForDriver` queues no job
(`rearm_queues_no_job`), and the key must live as long as its job waits.
-/

namespace Telima

open DispatchService

namespace Offers

variable {tripId driverId t d : ℕ} {o o' : Offers}

/-- The timeout job of an offer is queued, and named. -/
def Timed (o : Offers) (tripId driverId : ℕ) : Prop :=
  ∃ job ∈ o.jobs, job.tripId = tripId ∧ job.driverId = driverId ∧
    o.jobKey tripId driverId = some job.id

/-- The offers of the trip have their timeout jobs. -/
def Covered (o : Offers) (tripId : ℕ) : Prop := ∀ d, o.Notified tripId d → o.Timed tripId d

/-- The job of another offer does not have the name. -/
theorem WellKeyed.ne_name (hk : o.WellKeyed) {job : TimeoutJob} (hjob : job ∈ o.jobs)
    (hne : ¬ (job.tripId = t ∧ job.driverId = d)) : o.jobKey t d ≠ some job.id :=
  fun hname => hne (hk.owner t d job.id hname job hjob rfl)

theorem Move.covered (h : Move o o') (hk : o.WellKeyed) (hcovered : o.Covered t) : o'.Covered t := by
  intro d hn
  cases h with
  | @withdrawn tripId X _ _ _ hanswer h =>
    obtain ⟨hbefore, hkept⟩ := h.toClosed.notified hanswer hn
    obtain ⟨job, hjob, htrip, hdriver, hname⟩ := hcovered d hbefore
    refine ⟨job, (h.jobs job).mpr ⟨hjob, fun x hx => hk.ne_name hjob ?_⟩, htrip, hdriver, ?_⟩
    · rintro ⟨rfl, rfl⟩
      exact hkept htrip.symm (hdriver ▸ hx)
    · rw [h.jobKey t d hkept, hname]
  | @expired expired _ _ _ h =>
    obtain ⟨hbefore, hkept⟩ := h.toClosed.notified (answers_const DispatchStatus.noConfusion) hn
    obtain ⟨job, hjob, htrip, hdriver, hname⟩ := hcovered d hbefore
    have hne : job.id ≠ expired.id := by
      intro hid
      obtain ⟨htrip', hdriver'⟩ := hk.owner t d job.id hname expired ‹_› hid.symm
      exact hkept htrip'.symm hdriver'.symm
    refine ⟨job, ?_, htrip, hdriver, ?_⟩
    · rw [h.jobs]
      exact List.mem_filter.mpr ⟨hjob, decide_eq_true hne⟩
    · rw [h.jobKey t d hkept]
      exact hname
  | @offered tripId driverId runAt _ _ h =>
    by_cases hnew : t = tripId ∧ d = driverId
    · obtain ⟨rfl, rfl⟩ := hnew
      refine ⟨_, (h.jobs _).mpr (Or.inr rfl), rfl, rfl, ?_⟩
      rw [h.jobKey, if_pos ⟨rfl, rfl⟩]
    · have hbefore : o.Notified t d := (h.notified.mp hn).resolve_left hnew
      obtain ⟨job, hjob, htrip, hdriver, hname⟩ := hcovered d hbefore
      refine ⟨job, (h.jobs job).mpr (Or.inl ⟨hjob, hk.ne_name hjob ?_⟩), htrip, hdriver, ?_⟩
      · rintro ⟨rfl, rfl⟩
        exact hnew ⟨htrip.symm, hdriver.symm⟩
      · rw [h.jobKey, if_neg hnew, hname]

theorem Moves.covered (h : Moves o o') (hk : o.WellKeyed) (hcovered : o.Covered t) :
    o'.Covered t := by
  have hboth : o'.WellKeyed ∧ o'.Covered t := h.induction (P := fun o => o.WellKeyed ∧ o.Covered t)
    (fun hmove ho => ⟨hmove.wellKeyed ho.1, hmove.covered ho.1 ho.2⟩) ⟨hk, hcovered⟩
  exact hboth.2

/-- Opening an attempt that is open already opens no other. -/
theorem Covered.rearm (hcovered : o.Covered t) (hn : o.Notified tripId driverId) :
    (o.rearm tripId driverId).Covered t := by
  intro d hd
  have hbefore : o.Notified t d := by
    rcases notified_rearm.mp hd with ⟨rfl, rfl⟩ | hd
    · exact hn
    · exact hd
  exact hcovered d hbefore

end Offers

/-- The key does not expire in the next `ms` milliseconds. -/
def Store.Outlives (s : Store) (key : RedisKey) (ms : ℕ) : Prop :=
  ∀ entry t, s.redis key = some entry → entry.expiresAt = some t → s.now + ms < t

theorem Store.Outlives.get_tick {s : Store} {key : RedisKey} {ms : ℕ} (h : s.Outlives key ms) :
    ((Cmd.tick ms).exec s).get key = s.get key := by
  rw [get_eq, get_eq]
  show (s.redis key).bind (live (s.now + ms)) = _
  cases hentry : s.redis key with
  | none => rfl
  | some entry =>
    rw [Option.bind_some, Option.bind_some]
    unfold live
    cases hexpires : entry.expiresAt with
    | none => rfl
    | some t =>
      have hlt : s.now + ms < t := h entry t hentry hexpires
      dsimp only
      rw [if_pos hlt, if_pos (by omega)]

/-- While time passes, no job name of a pending trip's offer expires. -/
def KeepsNames (k : Config) : Operation → Prop
  | .wait ms => ∀ t d, k.store.tripStatus t = some .pending →
      k.store.attemptStatus t d = some .driverNotified →
      k.store.Outlives (.dispatchTimeoutJob t d) ms
  | _ => True

/-- The command opens an attempt again. -/
def Cmd.isRearm : Cmd → Bool
  | .rearmAttempt _ _ => true
  | _ => false

/-- Only an attempt that has not timed out is opened again. -/
def ReopensNotified (k : Config) : Cmd → Prop
  | .rearmAttempt t d => k.store.attemptStatus t d = some .driverNotified
  | _ => True

/-- The offers of pending trips have their timeout jobs. -/
structure Config.Timely (k : Config) : Prop where
  grounded : k.Grounded
  wellKeyed : k.store.offers.WellKeyed
  covered : ∀ t, k.store.tripStatus t = some .pending → k.store.offers.Covered t

theorem Effect.timely {env : Env} {k k' : Config} (h : Effect env KeepsNames ReopensNotified k k')
    (hk : k.Timely) : k'.Timely := by
  have hwellKeyed : k'.store.offers.WellKeyed := by
    rcases h.offers with hmoves | ⟨ms, -, rfl⟩ | ⟨_, _, _, -, -, -, -, -, hoffers⟩
    · exact hmoves.induction Offers.Move.wellKeyed hk.wellKeyed
    · exact (elapsed_tick ms k.store).wellKeyed hk.wellKeyed
    · rw [hoffers]
      exact hk.wellKeyed.rearm
  refine ⟨h.grounded hk.grounded, hwellKeyed, fun t hpending => ?_⟩
  rcases h.pending hpending with hbefore | ⟨hnone, hoffers⟩
  · have hcovered : k.store.offers.Covered t := hk.covered t hbefore
    rcases h.offers with hmoves | ⟨ms, hadmits, rfl⟩ | ⟨T, D, k₀, -, -, hsame, hc, -, hoffers⟩
    · exact hmoves.covered hk.wellKeyed hcovered
    · intro d hn
      obtain ⟨job, hjob, htrip, hdriver, hname⟩ := hcovered d hn
      refine ⟨job, hjob, htrip, hdriver, ?_⟩
      show (((Cmd.tick ms).exec k.store).get (.dispatchTimeoutJob t d)).bind RedisValue.job? = _
      rw [(hadmits t d hbefore hn).get_tick]
      exact hname
    · have hn : k₀.store.offers.Notified T D := hc
      rw [hsame.offers] at hn
      rw [hoffers]
      exact hcovered.rearm hn
  · -- a trip that was just created has no offers
    intro d hn
    rw [hoffers] at hn
    have hsome := hk.grounded.row t d hn
    rw [hnone] at hsome
    cases hsome

/-- An offer of a pending trip has a timeout job, whose id is the value of `DispatchTimeoutJobKey`,
provided that only attempts that have not timed out are opened again and that no job name expires
while its offer is open. -/
theorem offers_expire (env : Env) (pricing : PricingEnv) {s : Store} (hs : s.Fresh) {k : Config}
    (hrun : Config.Run env pricing KeepsNames ReopensNotified ⟨s, [], []⟩ k) {tripId driverId : ℕ}
    (hpending : k.store.tripStatus tripId = some .pending)
    (hnotified : k.store.attemptStatus tripId driverId = some .driverNotified) :
    ∃ job ∈ k.store.jobs, job.tripId = tripId ∧ job.driverId = driverId ∧
      k.store.jobKey tripId driverId = some job.id := by
  have hstart : Config.Timely ⟨s, [], []⟩ := by
    refine ⟨hs.grounded, hs.wellKeyed, fun t _ d hn => ?_⟩
    have hsome := hs.grounded.row t d hn
    have hnone : s.trips.find? t = none := by
      show s.trips.rows.find? _ = none
      rw [hs.trips]
      rfl
    rw [hnone] at hsome
    cases hsome
  have hk : k.Timely := hrun.of_effects (fun k k' h => h.timely) hstart
  exact hk.covered tripId hpending driverId hnotified

/-- In the town, the offer of trip 1 to driver 2 has its timeout job after driver 1 has declined. -/
theorem offers_expire_town : ∃ k, Config.Run Env.town PricingEnv.town KeepsNames ReopensNotified
      ⟨Store.town, [], []⟩ k ∧ k.store.attemptStatus 1 1 = some .driverDeclined ∧
    ∃ job ∈ k.store.jobs, job.tripId = 1 ∧ job.driverId = 2 ∧
      k.store.jobKey 1 2 = some job.id := by
  -- no time passes, and no attempt is opened again
  obtain ⟨k, hrun, -, hdeclined, hpending, hnotified⟩ := Config.exists_run_of_execute? Env.town
    PricingEnv.town (fun _ op => op.isWait = false) (fun _ c => c.isRearm = false) Store.town
    [.order 1 2, .wsDecline 1 1] (fun k => k.store.attemptStatus 1 1 = some .driverDeclined ∧
      k.store.tripStatus 1 = some .pending ∧
        k.store.attemptStatus 1 2 = some .driverNotified) (by decide +kernel)
  have hrun' : Config.Run Env.town PricingEnv.town KeepsNames ReopensNotified
      ⟨Store.town, [], []⟩ k := by
    refine hrun.mono (fun k op hop => ?_) fun k c hc => ?_
    · cases op <;> trivial
    · cases c <;> trivial
  exact ⟨k, hrun', hdeclined, offers_expire Env.town PricingEnv.town Store.fresh_town hrun' hpending
    hnotified⟩

/-- Driver 1's offer of trip 1 times out, and the driver's app asks for its pending request: the
attempt is open again, without a timeout job. -/
theorem rearm_queues_no_job : ∃ k, Config.Run Env.town PricingEnv.town (fun _ _ => True)
      (fun _ _ => True) ⟨Store.town, [], []⟩ k ∧ k.store.tripStatus 1 = some .pending ∧
    k.store.attemptStatus 1 1 = some .driverNotified ∧
    ¬ ∃ job ∈ k.store.jobs, job.tripId = 1 ∧ job.driverId = 1 ∧
      k.store.jobKey 1 1 = some job.id := by
  obtain ⟨k, hrun, -, hk⟩ := Config.exists_run_of_execute? Env.town PricingEnv.town
    (fun _ _ => True) (fun _ _ => True) Store.town
    [.order 1 2, .wait 60000, .timeout ⟨1, 1, 1, 60000⟩, .getPendingRequest 11]
    (fun k => k.store.tripStatus 1 = some .pending ∧
      k.store.attemptStatus 1 1 = some .driverNotified ∧
      ¬ ∃ job ∈ k.store.jobs, job.tripId = 1 ∧ job.driverId = 1 ∧
        k.store.jobKey 1 1 = some job.id) (by decide +kernel)
  exact ⟨k, hrun, hk⟩

end Telima
