import Telima.Operations.Release

/-!
# One offer at a time

A driver is offered one pending trip at a time as long as every offer keeps its driver's lock:
`one_offer_per_driver`.  An offer loses its lock when the lock expires, when the offer of another
trip is declined or times out, or when another attempt of the driver is opened again; then the next
search offers the driver a second trip (`two_offers`).
-/

namespace Telima

open TripsService DispatchService DispatchRecoveryService

namespace Offers

variable {tripId driverId : ℕ} {X : ℕ → Prop} {answer : ℕ → Option DispatchStatus}
variable {P P' : ℕ → Prop} {o o' : Offers}

/-- The offers of the trips in `P` hold their drivers' locks. -/
def Held (P : ℕ → Prop) (o : Offers) : Prop := ∀ t d, P t → o.Notified t d → o.lock d = some t

theorem Held.mono (h : o.Held P) (hP : ∀ t, P' t → P t) : o.Held P' :=
  fun t d ht hn => h t d (hP t ht) hn

/-- Closing offers keeps the locks of other trips' offers, if it deletes none of them. -/
theorem Held.closed (h : o.Held P) (hanswer : Answers answer)
    (hclosed : Closed tripId X answer o o')
    (hX : ∀ t d, P t → X d → o.lock d = some t → t = tripId) : o'.Held P := by
  intro t d ht hn
  obtain ⟨hbefore, hkept⟩ := hclosed.notified hanswer hn
  have hlock : o.lock d = some t := h t d ht hbefore
  have hnotX : ¬ X d := fun hXd => hkept (hX t d ht hXd hlock) hXd
  rw [hclosed.lock d hnotX, hlock]

/-- Withdrawing the offers of one trip keeps the locks of the others, if the trip itself is in `P` or
has no offers. -/
theorem Held.withdrawn (h : o.Held P) (hanswer : Answers answer)
    (hwithdrawn : Withdrawn tripId (o.Notified tripId) answer o o')
    (hself : ∀ d, o.Notified tripId d → P tripId) : o'.Held P := by
  refine h.closed hanswer hwithdrawn.toClosed fun t d _ hn hlock => ?_
  have hown : o.lock d = some tripId := h tripId d (hself d hn) hn
  rw [hown] at hlock
  exact (Option.some.inj hlock).symm

theorem Held.offered {runAt : ℕ} (h : o.Held P) (hoffered : Offered tripId driverId runAt o o')
    (htaken : o'.lock driverId = some tripId) : o'.Held P := by
  intro t d ht hn
  rcases hoffered.notified.mp hn with ⟨rfl, rfl⟩ | hbefore
  · exact htaken
  · have hlock : o.lock d = some t := h t d ht hbefore
    have hd : d ≠ driverId := by
      rintro rfl
      rw [hoffered.free] at hlock
      cases hlock
    rw [hoffered.lock d hd, hlock]

theorem Held.rearm (h : o.Held P) (hown : ∀ t, P t → o.lock driverId = some t → t = tripId) :
    (o.rearm tripId driverId).Held P := by
  intro t d ht hn
  by_cases hd : d = driverId
  · subst hd
    have htaken : (o.rearm tripId d).lock d = some tripId := if_pos rfl
    rcases notified_rearm.mp hn with ⟨rfl, -⟩ | hbefore
    · exact htaken
    · rw [htaken, hown t ht (h t d ht hbefore)]
  · have hsame : (o.rearm tripId driverId).lock d = o.lock d := if_neg hd
    rcases notified_rearm.mp hn with ⟨-, hd'⟩ | hbefore
    · exact absurd hd' hd
    · rw [hsame, h t d ht hbefore]

end Offers

/-- The driver's lock is not held for a pending trip other than the given one. -/
def Store.OwnsLock (s : Store) (tripId driverId : ℕ) : Prop :=
  ∀ t, s.tripStatus t = some .pending → s.lockHolder driverId = some t → t = tripId

/-- No decline and no timeout deletes a lock that is held for another pending trip, and while time
passes no lock of a pending trip's offer expires. -/
structure KeepsLocks (k : Config) (op : Operation) : Prop where
  declines : ∀ t d, op.declines k.store = some (t, d) → k.store.OwnsLock t d
  timeout : ∀ job, op = .timeout job → k.store.OwnsLock job.tripId job.driverId
  wait : ∀ ms, op = .wait ms → ∀ t d, k.store.tripStatus t = some .pending →
    k.store.attemptStatus t d = some .driverNotified → k.store.Outlives (.dispatchLock d) ms

/-- A lock is taken for some time, and no attempt is opened again over the lock of another pending
trip. -/
def TakesLocks (k : Config) : Cmd → Prop
  | .redisSetNx (.dispatchLock _) _ seconds => 0 < seconds
  | .rearmAttempt t d => k.store.OwnsLock t d
  | _ => True

/-- The trip is pending. -/
def Config.IsPending (k : Config) (t : ℕ) : Prop := k.store.tripStatus t = some .pending

/-- The offers of pending trips hold their drivers' locks, and the only other trips that are offered
are those whose dispatch has failed. -/
structure Config.Exclusive (k : Config) : Prop where
  settled : k.Settled
  offered : ∀ t d, k.store.offers.Notified t d →
    k.store.tripStatus t = some .pending ∨ k.store.tripStatus t = some .cancelledAuto
  held : k.store.offers.Held k.IsPending

section Exclusive

variable {env : Env} {admits : Config → Operation → Prop} {cond : Config → Cmd → Prop}
variable {k k' : Config} {tripId : ℕ}

/-- A trip that is cancelled automatically stays so. -/
theorem Effect.cancelledAuto (h : Effect env admits cond k k') (hk : k.Settled) {t : ℕ}
    (hcancelled : k.store.tripStatus t = some .cancelledAuto) :
    k'.store.tripStatus t = some .cancelledAuto := by
  obtain ⟨trip, htrip, hstatus⟩ := Option.map_eq_some_iff.mp hcancelled
  cases h.row t with
  | absent h _ | inserted h _ _ =>
    rw [h] at htrip
    cases htrip
  | kept h h' _ hsame _ =>
    obtain rfl := Option.some.inj (h.symm.trans htrip)
    rw [Store.tripStatus, h', Option.map_some, hsame, hstatus]
  | switched h _ _ _ htransition _ _ _ =>
    obtain rfl := Option.some.inj (h.symm.trans htrip)
    rw [hstatus, not_canTransition_of_isTerminal rfl] at htransition
    cases htransition
  | completed h _ _ hbefore _ _ =>
    obtain rfl := Option.some.inj (h.symm.trans htrip)
    rw [hstatus] at hbefore
    cases hbefore
  | swept _ h' _ _ hafter _ =>
    rw [Store.tripStatus, h', Option.map_some, hafter]
  | assigned htodo _ _ _ _ _ =>
    obtain ⟨-, trip', htrip', haccepted, -⟩ := hk.assigned t _ (htodo ▸ List.mem_cons_self)
    obtain rfl := Option.some.inj (htrip'.symm.trans htrip)
    rw [hstatus] at haccepted
    cases haccepted
  | cancelled _ _ h' _ _ hafter _ =>
    rw [Store.tripStatus, h', Option.map_some, hafter]

/-- A search takes a lock for each offer it makes. -/
theorem DispatchService.Searched.held {serviceType : ServiceType} {r : Except Error Unit}
    {P : ℕ → Prop} (h : Searched env.dispatch TakesLocks tripId serviceType k r k')
    (hk : k.store.offers.Held P) : k'.store.offers.Held P := by
  cases h with
  | notified hall =>
    refine NotifiesAll.induction (P := fun k' => k'.store.offers.Held P)
      (fun hsame hk => ?_) (fun hc _ _ hoffered htaken hk => ?_) hall hk
    · rwa [hsame.offers]
    · exact hk.offered hoffered (htaken hc)
  | failed hfailed =>
    obtain ⟨_, _, _, _, _, hoffers⟩ := hfailed
    rwa [hoffers]
  | broken _ _ hsame => rwa [hsame.offers]

theorem DispatchService.Retried.held {r : Except Error Unit} {P : ℕ → Prop}
    (h : Retried env.dispatch TakesLocks tripId k r k') (hk : k.store.offers.Held P) :
    k'.store.offers.Held P := by
  cases h with
  | settled _ hsame => rwa [hsame.offers]
  | again _ _ hsearched => exact hsearched.held hk

/-- A switch keeps the locks of the offers that are left. -/
theorem TripsService.Switched.held {trip : Trip} {userId : ℕ} {role : UserRole}
    {dto : UpdateTripStatusDto} {data : TripData} (h : Switched trip userId role dto k data k')
    (hk : k.Exclusive) (htrip : k.store.trips.find? trip.id = some trip)
    (htransition : canTransition trip.status dto.status = true) :
    k'.store.offers.Held k.IsPending := by
  -- a trip whose status can still be set is offered only while it is pending
  have hself : ∀ d, k.store.offers.Notified trip.id d → k.IsPending trip.id := by
    intro d hn
    rcases hk.offered trip.id d hn with hpending | hcancelled
    · exact hpending
    · rw [Store.tripStatus, htrip, Option.map_some, Option.some_inj] at hcancelled
      rw [hcancelled, not_canTransition_of_isTerminal rfl] at htransition
      cases htransition
  have hsame : k.Same k' → k'.store.offers.Held k.IsPending := by
    intro hsame
    rw [hsame.offers]
    exact hk.held
  cases h with
  | accepted _ _ _ _ hlock _ haccepted =>
    refine hk.held.closed Offers.answers_accept (Offers.Withdrawn.toClosed haccepted) ?_
    rintro t d - (rfl | hn) hheld
    · rw [hlock] at hheld
      exact (Option.some.inj hheld).symm
    · have hown : k.store.offers.lock d = some trip.id := hk.held trip.id d (hself d hn) hn
      rw [hown] at hheld
      exact (Option.some.inj hheld).symm
  | unlocked _ _ _ _ _ h => exact hsame h
  | advanced _ _ h => exact hsame h
  | withdrawn _ _ hwithdrawn =>
    exact hk.held.withdrawn (Offers.answers_const DispatchStatus.noConfusion) hwithdrawn hself
  | cancelledByDriver _ _ h => exact hsame h

/-- An effect keeps the locks of the offers of the trips that were pending. -/
theorem Effect.held (h : Effect env KeepsLocks TakesLocks k k') (hk : k.Exclusive) :
    k'.store.offers.Held k.IsPending := by
  have hsame : k'.store.offers = k.store.offers → k'.store.offers.Held k.IsPending := by
    intro hoffers
    rw [hoffers]
    exact hk.held
  have htimedOut : Offers.Answers fun _ => some .timedOut :=
    Offers.answers_const DispatchStatus.noConfusion
  cases h with
  | same h => exact hsame h.offers
  | waited _ hadmits =>
    intro t d hpending hn
    show (Store.get _ (.dispatchLock d)).bind RedisValue.trip? = _
    have houtlives := hadmits.wait _ rfl t d hpending hn
    refine (congrArg (fun value => value.bind RedisValue.trip?) houtlives.get_tick).trans ?_
    exact hk.held t d hpending hn
  | created _ hcreated =>
    obtain ⟨_, _, _, _, hwrites⟩ := hcreated
    exact hsame hwrites.offers
  | @statusSet _ tripId _ _ _ _ _ _ _ hset =>
    obtain ⟨trip, data, k₁, htrip, htransition, hswitched, hwrites⟩ := hset
    obtain rfl : trip.id = tripId := Table.key_of_find? htrip
    rw [hwrites.offers]
    exact hswitched.held hk htrip htransition
  | completed _ _ _ _ _ hwrites => exact hsame hwrites.offers
  | @declined op tripId driverId _ _ hadmits hop hdeclined =>
    obtain ⟨k₁, r, -, hwithdrawn, hretried⟩ := hdeclined
    refine hretried.held (hk.held.closed (Offers.answers_const DispatchStatus.noConfusion)
      hwithdrawn.toClosed ?_)
    rintro t d hpending rfl hlock
    exact hadmits.declines tripId d hop t hpending hlock
  | @timedOut job k₁ _ _ _ hadmits _ _ hclosed hretried =>
    refine hretried.held ?_
    have hbefore : (k.store.offers.removeJob job.id).Held k.IsPending := hk.held
    refine hbefore.closed htimedOut hclosed.toClosed ?_
    rintro t d hpending rfl hlock
    exact hadmits.timeout job rfl t hpending hlock
  | givenUp _ _ _ hfailed =>
    obtain ⟨_, _, _, _, _, hoffers⟩ := hfailed
    exact hsame hoffers
  | redispatched hpending _ _ hsearched =>
    obtain ⟨k₁, serviceType, r, -, hwithdrawn, hsearched⟩ := hsearched
    exact hsearched.held (hk.held.withdrawn htimedOut hwithdrawn fun _ _ => hpending)
  | @swept tripId trip _ _ htrip hassigned hswept _ =>
    obtain ⟨k₁, -, -, hwithdrawn⟩ := hswept
    refine hk.held.withdrawn htimedOut hwithdrawn fun d hn => ?_
    -- an assigned trip has no offers
    rcases hk.offered tripId d hn with hstatus | hstatus
    · exact hstatus
    · rw [Store.tripStatus, htrip, Option.map_some, Option.some_inj] at hstatus
      rw [hstatus] at hassigned
      cases hassigned
  | rearmed _ _ hsame' hc _ hoffers =>
    rw [hoffers]
    refine hk.held.rearm fun t hpending hlock => hc t ?_ ?_
    · rw [Store.tripStatus, hsame'.trips]
      exact hpending
    · exact (congrFun (congrArg Offers.lock hsame'.offers) _).trans hlock
  | dispatched _ hsearched => exact hsearched.held hk.held
  | assigned _ _ hwrites => exact hsame hwrites.offers
  | cancelled _ hwrites => exact hsame hwrites.offers
  | charged _ _ hcharges => exact hsame hcharges.offers
  | handled _ _ h => exact hsame h.offers

theorem Effect.exclusive (h : Effect env KeepsLocks TakesLocks k k') (hk : k.Exclusive) :
    k'.Exclusive where
  settled := h.settled hk.settled
  offered := by
    intro t d hn
    have hlocked : ∀ op t d, KeepsLocks k op → op.Accepts k.store t d →
        k.store.lockHolder d = some t := by
      rintro op t d - ⟨_, _, _, _, _, hpending, hnotified⟩
      exact hk.held t d hpending hnotified
    have hcases : k.store.tripStatus t = some .pending ∨
        k.store.tripStatus t = some .cancelledAuto := by
      rcases h.was_notified hn with hbefore | hpending | ⟨p, st, v, todo, htodo⟩
      · exact hk.offered t d hbefore
      · exact Or.inl hpending
      · exact Or.inl (hk.settled.grounded.created t p st v (htodo ▸ List.mem_cons_self)).2
    rcases hcases with hpending | hcancelled
    · exact (h.status_of_notified hk.settled hlocked hpending hn).imp_right And.left
    · exact Or.inr (h.cancelledAuto hk.settled hcancelled)
  held := by
    intro t d hpending hn
    rcases h.pending hpending with hbefore | ⟨hnone, hoffers⟩
    · exact h.held hk t d hbefore hn
    · -- a trip that was just created has no offers
      rw [hoffers] at hn
      have hsome := hk.settled.grounded.row t d hn
      rw [hnone] at hsome
      cases hsome

end Exclusive

theorem Store.Fresh.exclusive {s : Store} (hs : s.Fresh) : Config.Exclusive ⟨s, [], []⟩ := by
  have hnone : ∀ t d, ¬ s.offers.Notified t d := by
    intro t d hn
    have hstatus : s.offers.status t d = none := hs.offers.1 t d
    rw [Offers.Notified, hstatus] at hn
    cases hn
  exact ⟨hs.settled, fun t d hn => absurd hn (hnone t d), fun t d _ hn => absurd hn (hnone t d)⟩

/-- A driver is offered one pending trip at a time, provided that no offer of a pending trip loses
its driver's lock. -/
theorem one_offer_per_driver (env : Env) (pricing : PricingEnv) {s : Store} (hs : s.Fresh)
    {k : Config} (hrun : Config.Run env pricing KeepsLocks TakesLocks ⟨s, [], []⟩ k)
    {driverId t t' : ℕ}
    (hpending : k.store.tripStatus t = some .pending)
    (hnotified : k.store.attemptStatus t driverId = some .driverNotified)
    (hpending' : k.store.tripStatus t' = some .pending)
    (hnotified' : k.store.attemptStatus t' driverId = some .driverNotified) : t = t' := by
  have hk : k.Exclusive := hrun.of_effects (fun k k' h => h.exclusive) hs.exclusive
  have hlock : k.store.offers.lock driverId = some t := hk.held t driverId hpending hnotified
  rw [hk.held t' driverId hpending' hnotified'] at hlock
  exact (Option.some.inj hlock).symm

/-- The time a lock is taken for. -/
def Cmd.lockSeconds? : Cmd → Option ℕ
  | .redisSetNx _ _ seconds => some seconds
  | _ => none

/-- In the town, trips 1 and 2 are offered to one driver each. -/
theorem one_offer_per_driver_town : ∃ k, Config.Run Env.town PricingEnv.town KeepsLocks TakesLocks
      ⟨Store.town, [], []⟩ k ∧ k.store.attemptStatus 1 1 = some .driverNotified ∧
    k.store.attemptStatus 2 2 = some .driverNotified ∧
    ∀ t, k.store.tripStatus t = some .pending →
      k.store.attemptStatus t 1 = some .driverNotified → 1 = t := by
  -- trips are ordered, and nothing else happens
  obtain ⟨k, hrun, -, hpending, hnotified, hother⟩ := Config.exists_run_of_execute? Env.town
    PricingEnv.town (fun k op => (op matches .createTrip ..) = true)
    (fun _ c => c.isRearm = false ∧ (c.lockSeconds?.all fun seconds => decide (0 < seconds)) = true)
    Store.town [.order 1 1, .order 2 2] (fun k => k.store.tripStatus 1 = some .pending ∧
      k.store.attemptStatus 1 1 = some .driverNotified ∧
        k.store.attemptStatus 2 2 = some .driverNotified) (by decide +kernel)
  have hrun' : Config.Run Env.town PricingEnv.town KeepsLocks TakesLocks ⟨Store.town, [], []⟩ k := by
    refine hrun.mono (fun k op hop => ?_) fun k c hc => ?_
    · cases op with
      | createTrip clientId dto =>
        refine ⟨fun _ _ h => ?_, fun _ h => ?_, fun _ h => ?_⟩ <;> cases h
      | _ => cases hop
    · cases c with
      | redisSetNx key value seconds =>
        cases key with
        | dispatchLock driverId =>
          have hseconds : 0 < seconds := of_decide_eq_true hc.2
          exact hseconds
        | _ => trivial
      | rearmAttempt tripId driverId => cases hc.1
      | _ => trivial
  exact ⟨k, hrun', hnotified, hother, fun t hpending' hnotified' => one_offer_per_driver Env.town
    PricingEnv.town Store.fresh_town hrun' hpending hnotified hpending' hnotified'⟩

/-- Driver 1 declines trip 1, is offered trip 2, declines trip 1 once more and thereby loses the
lock for trip 2: the next search offers trip 3 as well. -/
theorem two_offers : ∃ k, Config.Run Env.town PricingEnv.town (fun _ _ => True) (fun _ _ => True)
      ⟨Store.town, [], []⟩ k ∧ k.store.tripStatus 2 = some .pending ∧
    k.store.attemptStatus 2 1 = some .driverNotified ∧ k.store.tripStatus 3 = some .pending ∧
    k.store.attemptStatus 3 1 = some .driverNotified := by
  obtain ⟨k, hrun, -, hk⟩ := Config.exists_run_of_execute? Env.town PricingEnv.town
    (fun _ _ => True) (fun _ _ => True) Store.town
    [.order 1 2, .wsDecline 1 1, .order 1 1, .wsDecline 1 1, .order 1 1]
    (fun k => k.store.tripStatus 2 = some .pending ∧
      k.store.attemptStatus 2 1 = some .driverNotified ∧ k.store.tripStatus 3 = some .pending ∧
        k.store.attemptStatus 3 1 = some .driverNotified) (by decide +kernel)
  exact ⟨k, hrun, hk⟩

end Telima
