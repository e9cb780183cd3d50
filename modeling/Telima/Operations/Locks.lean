import Telima.Operations.Effects

/-!
# The drivers' locks

A lock is always backed by a notified attempt (`locks_backed`).  It is not always released by the
trip that holds it: `keepsOtherLocks_iff` says which locks a function of the dispatch deletes or
overwrites without a look at their value.
-/

namespace Telima

open DispatchService

/-- A driver's lock is held for a trip only while the driver is offered the trip. -/
theorem locks_backed (env : Env) (pricing : PricingEnv) {s : Store} (hs : s.Fresh) {k : Config}
    (hrun : Config.Run env pricing (fun _ _ => True) (fun _ _ => True) ⟨s, [], []⟩ k)
    {driverId tripId : ℕ} (hlock : k.store.lockHolder driverId = some tripId) :
    k.store.attemptStatus tripId driverId = some .driverNotified := by
  have hbacked : k.store.offers.Backed := hrun.of_offers Offers.Move.backed
    Offers.Elapsed.backed Offers.Backed.rearm hs.backed
  exact hbacked driverId tripId hlock

/-- The two trips of the town, and the locks of its drivers. -/
theorem locks_backed_town : ∃ k, Config.Run Env.town PricingEnv.town (fun _ _ => True)
      (fun _ _ => True) ⟨Store.town, [], []⟩ k ∧ k.store.lockHolder 1 = some 2 ∧
    k.store.attemptStatus 2 1 = some .driverNotified := by
  obtain ⟨k, hrun, -, hlock⟩ := Config.exists_run_of_execute? Env.town PricingEnv.town
    (fun _ _ => True) (fun _ _ => True) Store.town [.order 1 2, .wsDecline 1 1, .order 1 1]
    (fun k => k.store.lockHolder 1 = some 2) (by decide +kernel)
  exact ⟨k, hrun, hlock, locks_backed Env.town PricingEnv.town Store.fresh_town hrun hlock⟩

/-! ### Whose locks a function releases -/

/-- The functions of the dispatch that take or release locks. -/
inductive DispatchCall where
  | attemptDispatch (tripId : ℕ) (pickup : Point) (serviceType : ServiceType)
      (vehicleTypeId : Option ℕ)
  | handleDriverTimeout (tripId driverId : ℕ)
  | handleDriverDeclineAndRetry (tripId driverId : ℕ)
  | handleDriverAccept (tripId driverId : ℕ)
  | releaseLocksForTrip (tripId : ℕ)
  | getPendingRequestForDriver (userId : ℕ)

namespace DispatchCall

def program (env : DispatchEnv) : DispatchCall → Prog Unit
  | attemptDispatch tripId pickup serviceType vehicleTypeId =>
    DispatchService.attemptDispatch env tripId pickup serviceType vehicleTypeId
  | handleDriverTimeout tripId driverId =>
    DispatchService.handleDriverTimeout env tripId driverId
  | handleDriverDeclineAndRetry tripId driverId =>
    DispatchService.handleDriverDeclineAndRetry env tripId driverId
  | handleDriverAccept tripId driverId => DispatchService.handleDriverAccept tripId driverId
  | releaseLocksForTrip tripId => DispatchService.releaseLocksForTrip tripId
  | getPendingRequestForDriver userId =>
    (DispatchService.getPendingRequestForDriver userId).as ()

/-- The trip the function is performed for; `getPendingRequestForDriver` looks it up. -/
def tripId? (s : Store) : DispatchCall → Option ℕ
  | attemptDispatch tripId _ _ _ | handleDriverTimeout tripId _
  | handleDriverDeclineAndRetry tripId _ | handleDriverAccept tripId _
  | releaseLocksForTrip tripId => some tripId
  | getPendingRequestForDriver userId => (rearmed? s userId).map Prod.fst

/-- The drivers whose locks the function deletes or overwrites whatever their value is. -/
def releases (s : Store) : DispatchCall → ℕ → Prop
  | attemptDispatch _ _ _ _ => fun _ => False
  | handleDriverTimeout _ driverId | handleDriverDeclineAndRetry _ driverId => fun d => d = driverId
  | handleDriverAccept tripId driverId => fun d => s.lockHolder driverId = some tripId ∧
      (d = driverId ∨ s.attemptStatus tripId d = some .driverNotified)
  | releaseLocksForTrip tripId => fun d => s.attemptStatus tripId d = some .driverNotified
  | getPendingRequestForDriver userId => fun d => (rearmed? s userId).map Prod.snd = some d

end DispatchCall

/-- Every lock that is held for another trip stays as it is. -/
def KeepsOtherLocks (tripId : ℕ) (s s' : Store) : Prop :=
  ∀ d t, t ≠ tripId → s.lockHolder d = some t → s'.lockHolder d = some t

section Takes

variable {env : DispatchEnv} {cond : Config → Cmd → Prop} {k k' : Config} {tripId : ℕ}

theorem DispatchService.Searched.takesFree {serviceType : ServiceType} {r : Except Error Unit}
    (h : Searched env cond tripId serviceType k r k') :
    Offers.TakesFree tripId k.store.offers k'.store.offers := by
  cases h with
  | notified hall =>
    refine NotifiesAll.induction
      (P := fun k' => Offers.TakesFree tripId k.store.offers k'.store.offers)
      (fun hsame hk => hsame.offers ▸ hk) (fun _ _ _ hoffered _ hk => hk.offered hoffered) hall
      (.of_eq rfl)
  | failed hfailed =>
    obtain ⟨_, _, _, _, _, hoffers⟩ := hfailed
    exact .of_eq hoffers
  | broken _ _ hsame => exact .of_eq hsame.offers

theorem DispatchService.Retried.takesFree {r : Except Error Unit}
    (h : Retried env cond tripId k r k') :
    Offers.TakesFree tripId k.store.offers k'.store.offers := by
  cases h with
  | settled _ hsame => exact .of_eq hsame.offers
  | again _ _ hsearched => exact hsearched.takesFree

end Takes

/-- A function of the dispatch leaves the locks of other trips alone exactly when none of the locks
it deletes or overwrites is held for another trip. -/
theorem keepsOtherLocks_iff (env : DispatchEnv) (call : DispatchCall) (k : Config) {tripId : ℕ}
    (htrip : call.tripId? k.store = some tripId) :
    KeepsOtherLocks tripId k.store ((call.program env).play server k).2.store ↔
      ∀ d, call.releases k.store d → ∀ t, k.store.lockHolder d = some t → t = tripId := by
  cases call with
  | attemptDispatch tripId' pickup serviceType vehicleTypeId =>
    obtain rfl := Option.some.inj htrip
    have hsearched := Async.play_of_wlp (@wlp_attemptDispatch _ k tripId' env pickup serviceType
      vehicleTypeId)
    exact Offers.keeps_locks_iff (o := k.store.offers) (fun d hd => hd.elim) (fun _ _ => rfl)
      hsearched.takesFree
  | handleDriverTimeout tripId' driverId =>
    obtain rfl := Option.some.inj htrip
    obtain ⟨k₁, -, hclosed, hretried⟩ := Async.play_of_wlp (@wlp_handleDriverTimeout _ k
      tripId' driverId env)
    exact Offers.keeps_locks_iff hclosed.unlocked hclosed.lock hretried.takesFree
  | handleDriverDeclineAndRetry tripId' driverId =>
    obtain rfl := Option.some.inj htrip
    obtain ⟨k₁, -, hwithdrawn, hretried⟩ := Async.play_of_wlp (@wlp_handleDriverDeclineAndRetry
      _ k tripId' driverId env)
    exact Offers.keeps_locks_iff hwithdrawn.unlocked hwithdrawn.lock hretried.takesFree
  | handleDriverAccept tripId' driverId =>
    obtain rfl := Option.some.inj htrip
    obtain ⟨a, -, ⟨hlock, -, haccepted, -⟩ | ⟨hlock, -, hoffers⟩⟩ := Async.play_of_wlp
      (@wlp_handleDriverAccept _ k tripId' driverId)
    · have hreleases : ∀ d, (d = driverId ∨ k.store.offers.Notified tripId' d) ↔
          (DispatchCall.handleDriverAccept tripId' driverId).releases k.store d :=
        fun d => ⟨fun hd => ⟨hlock, hd⟩, fun hd => hd.2⟩
      exact Offers.keeps_locks_iff (fun d hd => haccepted.unlocked d ((hreleases d).mpr hd))
        (fun d hd => haccepted.lock d fun h => hd ((hreleases d).mp h)) (.of_eq rfl)
    · -- the lock is not held for the trip, and nothing happens
      exact Offers.keeps_locks_iff (o := k.store.offers) (fun d hd => absurd hd.1 hlock)
        (fun _ _ => rfl) (.of_eq hoffers)
  | releaseLocksForTrip tripId' =>
    obtain rfl := Option.some.inj htrip
    obtain ⟨a, -, -, hwithdrawn⟩ := Async.play_of_wlp (@wlp_releaseLocksForTrip _ k
      tripId')
    exact Offers.keeps_locks_iff hwithdrawn.unlocked hwithdrawn.lock (.of_eq rfl)
  | getPendingRequestForDriver userId =>
    have hpost := Async.play_of_wlp (Async.wlp_as (b := ())
      (@wlp_getPendingRequestForDriver _ k userId))
    obtain ⟨⟨tripId', driverId⟩, hrearmed, hfst⟩ := Option.map_eq_some_iff.mp htrip
    obtain rfl : tripId' = tripId := hfst
    obtain ⟨hnone, -⟩ | ⟨t, d, k₀, hrearmed', -, -, -, hoffers⟩ := hpost
    · rw [hrearmed] at hnone
      cases hnone
    · rw [hrearmed] at hrearmed'
      obtain ⟨rfl, rfl⟩ := Prod.mk.inj (Option.some.inj hrearmed')
      have hreleases : ∀ x, x = driverId ↔
          (DispatchCall.getPendingRequestForDriver userId).releases k.store x := by
        intro x
        show x = driverId ↔ (rearmed? k.store userId).map Prod.snd = some x
        rw [hrearmed, Option.map_some, Option.some_inj, eq_comm]
      have htakes : Offers.TakesFree tripId' (k.store.offers.setLock driverId none)
          (((getPendingRequestForDriver userId).as ()).play server k).2.store.offers := by
        rw [hoffers]
        exact Offers.takesFree_rearm
      exact Offers.keeps_locks_iff (fun x hx => if_pos ((hreleases x).mpr hx))
        (fun x hx => if_neg fun h => hx ((hreleases x).mp h)) htakes

/-- Before any trip, declining trip 1 for driver 1 releases no lock of another trip. -/
theorem keepsOtherLocks_town :
    (DispatchCall.handleDriverDeclineAndRetry 1 1).tripId? Store.town = some 1 ∧
      KeepsOtherLocks 1 Store.town (((DispatchCall.handleDriverDeclineAndRetry 1 1).program
        Env.town.dispatch).play server ⟨Store.town, [], []⟩).2.store := by
  refine ⟨rfl, (keepsOtherLocks_iff Env.town.dispatch (.handleDriverDeclineAndRetry 1 1)
    ⟨Store.town, [], []⟩ rfl).mpr fun d _ t hlock => ?_⟩
  cases hlock

/-- Driver 1 declines trip 1 and is offered trip 2.  Its second decline of trip 1 deletes the lock
it holds for trip 2. -/
theorem decline_releases_other_lock : ∃ k, Config.Run Env.town PricingEnv.town (fun _ _ => True)
      (fun _ _ => True) ⟨Store.town, [], []⟩ k ∧
    ¬ KeepsOtherLocks 1 k.store (((DispatchCall.handleDriverDeclineAndRetry 1 1).program
      Env.town.dispatch).play server k).2.store := by
  obtain ⟨k, hrun, -, hheld, hlost⟩ := Config.exists_run_of_execute? Env.town PricingEnv.town
    (fun _ _ => True) (fun _ _ => True) Store.town [.order 1 2, .wsDecline 1 1, .order 1 1]
    (fun k => k.store.lockHolder 1 = some 2 ∧
      (((DispatchCall.handleDriverDeclineAndRetry 1 1).program Env.town.dispatch).play server
        k).2.store.lockHolder 1 = none) (by decide +kernel)
  refine ⟨k, hrun, fun hkeeps => ?_⟩
  have hstill := hkeeps 1 2 (by decide) hheld
  rw [hlost] at hstill
  cases hstill

end Telima
