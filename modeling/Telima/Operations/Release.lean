import Telima.Operations.Timeouts

/-!
# Clean release

When a trip is no longer pending, none of its attempts is notified, no lock is held for it and no
timeout job of it is queued: `closed_trips_released`.  An accept cleans up only if the driver's lock
is held for the trip (`accept_without_lock`), and the failure of a dispatch cleans up nothing.
-/

namespace Telima

namespace Offers

variable {tripId driverId : ℕ} {o o' : Offers}

/-- Every queued job is named, and its offer is open. -/
structure Tidy (o : Offers) : Prop where
  named : ∀ job ∈ o.jobs, o.jobKey job.tripId job.driverId = some job.id
  notified : ∀ job ∈ o.jobs, o.Notified job.tripId job.driverId

theorem Move.tidy (h : Move o o') (ho : o.Tidy) : o'.Tidy := by
  cases h with
  | @withdrawn tripId X _ _ _ _ h =>
    -- a job that is left is not the job of a withdrawn offer
    have hleft : ∀ job ∈ o'.jobs, job ∈ o.jobs ∧ (job.tripId = tripId → ¬ X job.driverId) := by
      intro job hjob
      obtain ⟨hold, hkept⟩ := (h.jobs job).mp hjob
      refine ⟨hold, fun htrip hX => hkept _ hX ?_⟩
      rw [← htrip]
      exact ho.named job hold
    refine ⟨fun job hjob => ?_, fun job hjob => ?_⟩
    · obtain ⟨hold, hX⟩ := hleft job hjob
      rw [h.jobKey _ _ hX]
      exact ho.named job hold
    · obtain ⟨hold, hX⟩ := hleft job hjob
      exact h.toClosed.keeps_notified (ho.notified job hold) hX
  | @expired expired _ _ hexpired h =>
    have hleft : ∀ job ∈ o'.jobs, job ∈ o.jobs ∧
        (job.tripId = expired.tripId → ¬ job.driverId = expired.driverId) := by
      intro job hjob
      rw [h.jobs] at hjob
      obtain ⟨hold, hne⟩ := List.mem_filter.mp hjob
      refine ⟨hold, fun htrip hdriver => of_decide_eq_true hne ?_⟩
      -- two jobs of one offer have the same name
      have hname : o.jobKey job.tripId job.driverId = some job.id := ho.named job hold
      rw [htrip, hdriver, ho.named expired hexpired] at hname
      exact (Option.some.inj hname).symm
    refine ⟨fun job hjob => ?_, fun job hjob => ?_⟩
    · obtain ⟨hold, hne⟩ := hleft job hjob
      rw [h.jobKey _ _ hne]
      exact ho.named job hold
    · obtain ⟨hold, hne⟩ := hleft job hjob
      have hbefore : (o.removeJob expired.id).Notified job.tripId job.driverId :=
        ho.notified job hold
      exact h.toClosed.keeps_notified hbefore hne
  | @offered tripId driverId runAt _ _ h =>
    refine ⟨fun job hjob => ?_, fun job hjob => ?_⟩
    · rw [h.jobKey]
      rcases (h.jobs job).mp hjob with ⟨hold, hne⟩ | rfl
      · have hname : o.jobKey job.tripId job.driverId = some job.id := ho.named job hold
        rw [if_neg, hname]
        rintro ⟨htrip, hdriver⟩
        rw [htrip, hdriver] at hname
        exact hne hname
      · rw [if_pos ⟨rfl, rfl⟩]
    · rw [h.notified]
      rcases (h.jobs job).mp hjob with ⟨hold, -⟩ | rfl
      · exact Or.inr (ho.notified job hold)
      · exact Or.inl ⟨rfl, rfl⟩

theorem Tidy.rearm (ho : o.Tidy) : (o.rearm tripId driverId).Tidy :=
  ⟨ho.named, fun job hjob => notified_rearm.mpr (Or.inr (ho.notified job hjob))⟩

end Offers

/-- A driver who accepts a trip holds the lock for it, and while time passes no job outlives its
name. -/
def AcceptsLocked (k : Config) (op : Operation) : Prop :=
  (∀ t d, op.Accepts k.store t d → k.store.lockHolder d = some t) ∧
    ∀ ms, op = .wait ms → ∀ job ∈ k.store.jobs,
      k.store.Outlives (.dispatchTimeoutJob job.tripId job.driverId) ms

/-- The command reports that the dispatch of a trip has failed. -/
def Cmd.failsDispatch : Cmd → Bool
  | .emit (.dispatchFailed _ _) => true
  | _ => false

/-- The dispatch of a trip fails only when no driver is offered the trip. -/
def FailsUnoffered (k : Config) : Cmd → Prop
  | .emit (.dispatchFailed t _) => ∀ d, k.store.attemptStatus t d ≠ some .driverNotified
  | _ => True

/-- Only pending trips are offered, locked and queued. -/
structure Config.Clean (k : Config) : Prop where
  settled : k.Settled
  backed : k.store.offers.Backed
  tidy : k.store.offers.Tidy
  notified : ∀ t d, k.store.offers.Notified t d → k.store.tripStatus t = some .pending
  failed : ∀ t reason d, .dispatchFailed t reason ∈ k.todo → ¬ k.store.offers.Notified t d

section Clean

variable {env : Env} {admits : Config → Operation → Prop} {cond : Config → Cmd → Prop}
variable {k k' : Config}

theorem Effect.backed (h : Effect env admits cond k k') (hk : k.store.offers.Backed) :
    k'.store.offers.Backed := by
  rcases h.offers with hmoves | ⟨ms, -, rfl⟩ | ⟨_, _, _, -, -, -, -, -, hoffers⟩
  · exact hmoves.induction Offers.Move.backed hk
  · exact (elapsed_tick ms k.store).backed hk
  · rw [hoffers]
    exact hk.rearm

theorem Effect.tidy (h : Effect env AcceptsLocked cond k k') (hk : k.store.offers.Tidy) :
    k'.store.offers.Tidy := by
  rcases h.offers with hmoves | ⟨ms, hadmits, rfl⟩ | ⟨_, _, _, -, -, -, -, -, hoffers⟩
  · exact hmoves.induction Offers.Move.tidy hk
  · refine ⟨fun job hjob => ?_, hk.notified⟩
    show (((Cmd.tick ms).exec k.store).get (.dispatchTimeoutJob job.tripId job.driverId)).bind
      RedisValue.job? = _
    rw [(hadmits.2 ms rfl job hjob).get_tick]
    exact hk.named job hjob
  · rw [hoffers]
    exact hk.rearm

theorem Effect.clean (h : Effect env AcceptsLocked FailsUnoffered k k') (hk : k.Clean) :
    k'.Clean where
  settled := h.settled hk.settled
  backed := h.backed hk.backed
  tidy := h.tidy hk.tidy
  notified := by
    intro t d hn
    have hpending : k.store.tripStatus t = some .pending := by
      rcases h.was_notified hn with hbefore | hpending | ⟨p, st, v, todo, htodo⟩
      · exact hk.notified t d hbefore
      · exact hpending
      · exact (hk.settled.grounded.created t p st v (htodo ▸ List.mem_cons_self)).2
    have hlocked : ∀ op t d, AcceptsLocked k op → op.Accepts k.store t d →
        k.store.lockHolder d = some t := fun op t d hadmits => hadmits.1 t d
    rcases h.status_of_notified hk.settled hlocked hpending hn with hstill | ⟨-, reason, hfailed⟩
    · exact hstill
    · -- a dispatch that has failed has left no offer
      have hbefore := h.not_offered_of_failed hk.settled.grounded hfailed hn
      exact absurd hbefore (hk.failed t reason d hfailed)
  failed := by
    intro t reason d hmem hn
    obtain ⟨rest, events, hrest, htodo, hevents⟩ := h.emitted
    rw [htodo, List.mem_append] at hmem
    rcases hmem with hmem | hmem
    · have hbefore := hrest.subset hmem
      exact hk.failed t reason d hbefore (h.not_offered_of_failed hk.settled.grounded hbefore hn)
    · cases hevents _ hmem with
      | report hreport => cases hreport
      | failed hoffers hc =>
        rw [← hoffers] at hn
        exact hc d hn

end Clean

theorem Store.Fresh.clean {s : Store} (hs : s.Fresh) : Config.Clean ⟨s, [], []⟩ where
  settled := hs.settled
  backed := hs.backed
  tidy := by
    have hjobs : s.offers.jobs = [] := hs.offers.2.2.2
    refine ⟨fun job hjob => ?_, fun job hjob => ?_⟩
    · rw [hjobs] at hjob
      cases hjob
    · rw [hjobs] at hjob
      cases hjob
  notified := by
    intro t d hn
    have hnone : s.offers.status t d = none := hs.offers.1 t d
    rw [Offers.Notified, hnone] at hn
    cases hn
  failed := fun _ _ _ hmem => by cases hmem

/-- A trip that is not pending has no notified attempt, no driver's lock and no timeout job,
provided that every driver who accepts a trip holds the lock for it, that no dispatch fails while
its trip is offered, and that no job outlives its name. -/
theorem closed_trips_released (env : Env) (pricing : PricingEnv) {s : Store} (hs : s.Fresh)
    {k : Config}
    (hrun : Config.Run env pricing AcceptsLocked FailsUnoffered ⟨s, [], []⟩ k) {tripId : ℕ}
    (hclosed : k.store.tripStatus tripId ≠ some .pending) :
    (∀ driverId, k.store.attemptStatus tripId driverId ≠ some .driverNotified) ∧
      (∀ driverId, k.store.lockHolder driverId ≠ some tripId) ∧
        ∀ job ∈ k.store.jobs, job.tripId ≠ tripId := by
  have hk : k.Clean := hrun.of_effects (fun k k' h => h.clean) hs.clean
  have hnone : ∀ driverId, ¬ k.store.offers.Notified tripId driverId :=
    fun driverId hn => hclosed (hk.notified tripId driverId hn)
  refine ⟨hnone, fun driverId hlock => hnone driverId (hk.backed driverId tripId hlock), ?_⟩
  rintro job hjob rfl
  exact hnone job.driverId (hk.tidy.notified job hjob)

/-- In the town, driver 1 accepts trip 1, which was offered to driver 2 as well. -/
theorem closed_trips_released_town : ∃ k, Config.Run Env.town PricingEnv.town AcceptsLocked
      FailsUnoffered ⟨Store.town, [], []⟩ k ∧ k.store.tripStatus 1 = some .accepted ∧
    (∀ driverId, k.store.attemptStatus 1 driverId ≠ some .driverNotified) ∧
      (∀ driverId, k.store.lockHolder driverId ≠ some 1) ∧ ∀ job ∈ k.store.jobs, job.tripId ≠ 1 := by
  -- no time passes, and who sets a status holds the lock
  obtain ⟨k, hrun, -, haccepted⟩ := Config.exists_run_of_execute? Env.town PricingEnv.town
    (fun k op => op.isWait = false ∧ (op.setsStatus.all fun r =>
      (k.store.driverOf r.2.1).all fun d => decide (k.store.lockHolder d = some r.1)) = true)
    (fun _ c => c.failsDispatch = false) Store.town [.order 1 2, .wsAccept 1 11]
    (fun k => k.store.tripStatus 1 = some .accepted) (by decide +kernel)
  have hrun' : Config.Run Env.town PricingEnv.town AcceptsLocked FailsUnoffered
      ⟨Store.town, [], []⟩ k := by
    refine hrun.mono (fun k op hop => ⟨?_, ?_⟩) fun k c hc => ?_
    · rintro t d ⟨userId, dto, hsets, -, hdriver, -, -⟩
      have hall := hop.2
      rw [hsets, Option.all_some, hdriver, Option.all_some] at hall
      exact of_decide_eq_true hall
    · rintro ms rfl
      cases hop.1
    · cases c with
      | emit event => cases event <;> trivial
      | _ => trivial
  have hclosed : k.store.tripStatus 1 ≠ some .pending := by
    rw [haccepted]
    decide
  exact ⟨k, hrun', haccepted, closed_trips_released Env.town PricingEnv.town Store.fresh_town hrun'
    hclosed⟩

/-- Driver 1 declines trip 1, is offered trip 2, declines trip 1 once more and thereby loses the
lock for trip 2, then accepts trip 2: its attempt stays notified, and its timeout job queued. -/
theorem accept_without_lock : ∃ k, Config.Run Env.town PricingEnv.town (fun _ _ => True)
      (fun _ _ => True) ⟨Store.town, [], []⟩ k ∧ k.store.tripStatus 2 = some .accepted ∧
    k.store.attemptStatus 2 1 = some .driverNotified ∧ ∃ job ∈ k.store.jobs, job.tripId = 2 := by
  obtain ⟨k, hrun, -, hk⟩ := Config.exists_run_of_execute? Env.town PricingEnv.town
    (fun _ _ => True) (fun _ _ => True) Store.town
    [.order 1 2, .wsDecline 1 1, .order 1 1, .wsDecline 1 1, .wsAccept 2 11]
    (fun k => k.store.tripStatus 2 = some .accepted ∧
      k.store.attemptStatus 2 1 = some .driverNotified ∧ ∃ job ∈ k.store.jobs, job.tripId = 2)
    (by decide +kernel)
  exact ⟨k, hrun, hk⟩

end Telima
