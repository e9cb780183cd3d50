import Telima.Async.Failure
import Telima.Trips.Rejections

/-!
# An acceptance in which one call fails

`updateStatus` with the status `accepted` reads five times, and then answers the driver's offer or, when
his lock is not held for the trip, writes the trip.  A failure of one of these six calls leaves
everything as it was; after the sixth nothing is undone (`acceptance_undone_iff`).
-/

namespace Telima

open TripsService DispatchService

/-- The request has thrown, and left the trip, its attempts, the locks and the rounds counter as they
were; nobody was told that the trip has a driver. -/
structure AcceptanceUndone (s : Store) (tripId : ℕ) (o : Outcome Store Cmd Error Trip) : Prop where
  throws : ∃ e, o.result = .error e
  trip : o.store.trips.find? tripId = s.trips.find? tripId
  attempts : ∀ d, o.store.attempts.find? (tripId, d) = s.attempts.find? (tripId, d)
  locks : ∀ d, o.store.get (.dispatchLock d) = s.get (.dispatchLock d)
  rounds : o.store.get (.dispatchRounds tripId) = s.get (.dispatchRounds tripId)
  silent : ∀ d, .emit (.driverAssigned tripId d) ∉ o.cmds

namespace Acceptance

variable {s : Store} {tripId userId : ℕ} {cancelReason : Option String}

/-- In the store `s`, the program comes to another one after `n` reads. -/
abbrev ComesTo {α : Type} (s : Store) (n : ℕ) (p q : Prog α) : Prop :=
  Async.ComesTo Cmd.exec (fun c => c.isQuery = true) s n p q

theorem comesTo_getTrip {trip : Trip} (htrip : s.trips.find? tripId = some trip) :
    ComesTo s 2 (getTrip tripId) (.done (.ok trip)) := by
  refine .await rfl rfl (fun _ => rfl) ?_
  simp only [htrip]
  exact .await rfl rfl (fun _ => rfl) (.refl _)

/-- The checks of the case `accepted`. -/
theorem comesTo_acceptCase {driver : Driver}
    (hdriver : (s.drivers.findFirst fun d => decide (d.userId = userId)) = some driver)
    (hnotified : TripRepository.isNotified s tripId driver.id = true) :
    ComesTo s 2 (acceptCase tripId userId .driver)
      ((handleDriverAccept tripId driver.id).bind fun _ => .done (.ok
        { status := some .accepted, driverId := some driver.id, acceptedAt := some s.now })) := by
  unfold acceptCase
  rw [if_neg (not_not.mpr rfl)]
  refine .query_bind rfl rfl ?_
  rw [hdriver]
  refine .query_bind rfl rfl ?_
  rw [if_pos hnotified]
  exact .read_bind rfl rfl (.refl _)

/-- The answer of the offer, and what follows it. -/
theorem comesTo_handleDriverAccept {driverId : ℕ}
    (hlock : s.get (.dispatchLock driverId) = some (.trip tripId)) :
    ∃ rest : Prog Unit, OnlyOffers rest ∧ ComesTo s 1 (handleDriverAccept tripId driverId)
      ((respondAttempts tripId (some driverId) .driverAccepted).bind fun _ => rest) := by
  have honly := (Async.only_query_bind.mp (onlyOffers_handleDriverAccept tripId driverId)).2 s
  simp only [hlock, ne_eq, not_true_eq_false, if_false] at honly
  refine ⟨_, (Async.only_perform_bind.mp honly).2 s, ?_⟩
  refine .query_bind rfl rfl ?_
  simp only [hlock, ne_eq, not_true_eq_false, if_false]
  exact .refl _

/-- Without the lock the offer is not answered. -/
theorem comesTo_handleDriverAccept_of_ne {driverId : ℕ}
    (hlock : s.get (.dispatchLock driverId) ≠ some (.trip tripId)) :
    ComesTo s 1 (handleDriverAccept tripId driverId) (.done (.ok ())) := by
  unfold handleDriverAccept
  refine .query_bind rfl rfl ?_
  split
  · next other hget =>
    have hother : other ≠ tripId := by
      rintro rfl
      exact hlock hget
    rw [if_pos hother]
    exact .refl _
  · exact .refl _

/-- The command keeps the attempts, but for those that wait for an answer. -/
def KeepsAnswers (c : Cmd) : Prop :=
  c.keepsAttempts = true ∨ ∃ id driver answer, c = .respondAttempts id driver answer

theorem KeepsAnswers.exec {c : Cmd} (hc : KeepsAnswers c) {d : ℕ}
    (h : s.attemptStatus tripId d = some .driverAccepted) :
    (c.exec s).attemptStatus tripId d = some .driverAccepted := by
  rcases hc with hc | ⟨id, driver, answer, rfl⟩
  · rw [Store.attemptStatus, Cmd.exec_attempts hc]
    exact h
  · have hoffers : ((Cmd.respondAttempts id driver answer).exec s).attemptStatus tripId d =
        (s.offers.respond id driver answer).status tripId d := by
      rw [← Cmd.offers_respondAttempts]
      rfl
    rw [hoffers, Offers.respond]
    refine (if_neg ?_).trans h
    rintro ⟨-, -, hnotified⟩
    exact absurd (h.symm.trans hnotified) (by simp)

theorem keepsAnswers_of_touchesOffers {c : Cmd} (hc : c.touchesOffers = true) : KeepsAnswers c := by
  cases c <;> first
    | exact Or.inl rfl
    | exact Or.inr ⟨_, _, _, rfl⟩
    | simp [Cmd.touchesOffers] at hc

theorem updateStatus_bind {α : Type} (data : TripData) (g : Option Trip → Prog α) :
    (TripRepository.updateStatus tripId data).bind g =
      (TripRepository.update tripId data).bind fun _ => (TripRepository.findById tripId).bind g :=
  Async.bind_assoc _ _ _

/-- What follows the write of the trip. -/
theorem onlyReports_findAndReport :
    ((TripRepository.findById tripId).bind fun updated =>
      reportStatus updated userId .accepted cancelReason).Only fun c =>
        c.keepsTrips = true ∧ KeepsAnswers c := by
  have hreports : ∀ c : Cmd, c.reports = true → c.keepsTrips = true ∧ KeepsAnswers c := by
    intro c hc
    refine ⟨Cmd.keepsTrips_of_reports hc, Or.inl ?_⟩
    cases c <;> first | rfl | simp [Cmd.reports] at hc
  refine ((onlyReports_findById tripId).mono hreports).bind fun updated => ?_
  refine (only_reportStatus updated userId .accepted cancelReason).mono fun c hc => ?_
  rcases hc with hc | ⟨trip, -, finalPrice, -, rfl⟩
  · exact hreports c hc
  · exact ⟨rfl, Or.inl rfl⟩

/-- The sixth call: the answer of the offer, or the write of the trip. -/
inductive SixthCall (s : Store) (tripId driverId : ℕ) : Prog Trip → Prop
  | answer {next : Store → Prog Trip} {reject : Error → Prog Trip}
      (hreject : ∀ e, reject e = Async.throw e) (hnext : ∀ t, (next t).Only KeepsAnswers) :
      SixthCall s tripId driverId
        (.await (.respondAttempts tripId (some driverId) .driverAccepted) next reject)
  | write {data : TripData} {next : Store → Prog Trip} {reject : Error → Prog Trip}
      (hdata : data.status = some .accepted) (hreject : ∀ e, reject e = Async.throw e)
      (hnext : ∀ t, (next t).Only fun c => c.keepsTrips = true) :
      SixthCall s tripId driverId (.await (.updateTrip tripId data) next reject)

theorem comesTo_updateStatus (cancelReason : Option String) {trip : Trip} {driver : Driver}
    (htrip : s.trips.find? tripId = some trip)
    (hcan : canTransition trip.status .accepted = true)
    (hdriver : (s.drivers.findFirst fun d => decide (d.userId = userId)) = some driver)
    (hnotified : TripRepository.isNotified s tripId driver.id = true) :
    ∃ q, ComesTo s 5 (updateStatus tripId userId .driver { status := .accepted, cancelReason }) q ∧
      SixthCall s tripId driver.id q := by
  obtain rfl : trip.id = tripId := Table.key_of_find? htrip
  have hread : ComesTo s 2
      (updateStatus trip.id userId .driver { status := .accepted, cancelReason }) _ :=
    (comesTo_getTrip htrip).bind_ok
  rw [if_pos hcan] at hread
  have hcase : ComesTo s 2 (statusCase trip userId .driver { status := .accepted, cancelReason })
      _ := comesTo_acceptCase hdriver hnotified
  by_cases hlock : s.get (.dispatchLock driver.id) = some (.trip trip.id)
  · obtain ⟨rest, hrest, haccept⟩ := comesTo_handleDriverAccept hlock
    have h : ComesTo s (2 + (2 + 1)) _ _ := hread.trans ((hcase.trans haccept.bind).bind)
    refine ⟨_, h, .answer (fun _ => rfl) fun t => ?_⟩
    have hanswers : rest.Only KeepsAnswers := hrest.mono fun _ hc => keepsAnswers_of_touchesOffers hc
    refine (hanswers.bind fun _ => Async.only_done _).bind fun data => ?_
    rw [Async.bind_eq, updateStatus_bind]
    refine Async.only_queryE_bind.mpr ⟨Or.inl rfl, fun t => ?_⟩
    exact (Async.only_done _).bind fun _ => onlyReports_findAndReport.mono fun _ hc => hc.2
  · have h : ComesTo s (2 + (2 + 1)) _ _ :=
      hread.trans ((hcase.trans (comesTo_handleDriverAccept_of_ne hlock).bind).bind)
    rw [Async.done_ok_bind, Async.done_ok_bind, Async.bind_eq, updateStatus_bind] at h
    refine ⟨_, h, .write rfl (fun _ => rfl) fun t => ?_⟩
    exact (Async.only_done _).bind fun _ => onlyReports_findAndReport.mono fun _ hc => hc.1

/-- A failure of the sixth call. -/
theorem runReject_sixthCall_zero {driverId : ℕ} {q : Prog Trip} (h : SixthCall s tripId driverId q)
    (e : Error) : q.runReject Cmd.exec e 0 s = some ⟨.error e, s, []⟩ := by
  cases h with
  | answer hreject hnext =>
    rw [Async.runReject, hreject]
    rfl
  | write hdata hreject hnext =>
    rw [Async.runReject, hreject]
    rfl

/-- A later failure does not undo the sixth call. -/
theorem not_undone_of_sixthCall {driverId : ℕ} {q : Prog Trip} (h : SixthCall s tripId driverId q)
    (hpending : s.tripStatus tripId = some .pending)
    (hnotified : s.offers.Notified tripId driverId) {e : Error} {k : ℕ}
    {o : Outcome Store Cmd Error Trip} (ho : q.runReject Cmd.exec e (k + 1) s = some o) :
    ¬ AcceptanceUndone s tripId o := by
  intro hundone
  cases h with
  | @answer next reject hreject hnext =>
    obtain ⟨o', ho', rfl⟩ := Option.map_eq_some_iff.mp ho
    have haccepted : ((Cmd.respondAttempts tripId (some driverId) .driverAccepted).exec
        s).attemptStatus tripId driverId = some .driverAccepted := by
      have hstatus : ((Cmd.respondAttempts tripId (some driverId) .driverAccepted).exec
          s).attemptStatus tripId driverId =
          (s.offers.respond tripId (some driverId) .driverAccepted).status tripId driverId := by
        rw [← Cmd.offers_respondAttempts]
        rfl
      rw [hstatus]
      exact if_pos ⟨rfl, by simp, hnotified⟩
    have hkept : o'.store.attemptStatus tripId driverId = some .driverAccepted :=
      (hnext s).runReject_store (I := fun t => t.attemptStatus tripId driverId =
        some .driverAccepted) (fun c t hc ht => hc.exec ht) ho' haccepted
    have hsame : o'.store.attemptStatus tripId driverId = s.attemptStatus tripId driverId := by
      rw [Store.attemptStatus, Store.attemptStatus]
      exact congrArg _ (hundone.attempts driverId)
    rw [hsame] at hkept
    exact absurd (hnotified.symm.trans hkept) (by simp)
  | @write data next reject hdata hreject hnext =>
    obtain ⟨o', ho', rfl⟩ := Option.map_eq_some_iff.mp ho
    obtain ⟨trip, htrip, hstatus⟩ := Option.map_eq_some_iff.mp hpending
    have haccepted : ((Cmd.updateTrip tripId data).exec s).tripStatus tripId = some .accepted := by
      rw [Store.tripStatus, Store.find?_updateTrip, htrip, Option.map_some, Option.map_some,
        if_pos rfl, TripData.apply, hdata]
      rfl
    have hkept : o'.store.tripStatus tripId = some .accepted := by
      refine (hnext s).runReject_store (I := fun t => t.tripStatus tripId = some .accepted)
        (fun c t hc ht => ?_) ho' haccepted
      rw [Store.tripStatus, Cmd.exec_trips hc]
      exact ht
    have hsame : o'.store.tripStatus tripId = s.tripStatus tripId := by
      rw [Store.tripStatus, Store.tripStatus]
      exact congrArg _ hundone.trip
    rw [hsame, hpending] at hkept
    cases hkept

end Acceptance

open Acceptance

/-- An acceptance in which one call fails leaves everything as it was exactly when the call is one of
the first six: the five reads, and the answer of the offer or the write of the trip. -/
theorem acceptance_undone_iff (tripId userId : ℕ) (role : UserRole) (cancelReason : Option String)
    (s : Store) (hmay : (updateStatus tripId userId role
      { status := .accepted, cancelReason }).Succeeds Cmd.exec s)
    (k : ℕ) (e : Error) (o : Outcome Store Cmd Error Trip)
    (hfails : (updateStatus tripId userId role { status := .accepted, cancelReason }).runReject
      Cmd.exec e k s = some o) :
    AcceptanceUndone s tripId o ↔ k < 6 := by
  obtain ⟨trip, htrip, hcan, rfl, driver, hdriver, hnotified⟩ := updateStatus_succeeds_iff.mp hmay
  have hid : trip.id = tripId := Table.key_of_find? htrip
  rw [hid] at hnotified
  have hpending : s.tripStatus tripId = some .pending := by
    rw [Store.tripStatus, htrip, Option.map_some, canTransition_accepted_iff.mp hcan]
  obtain ⟨q, hreads, hsixth⟩ := comesTo_updateStatus cancelReason htrip hcan hdriver hnotified
  have hquiet : ∀ cs : List Cmd, (∀ c ∈ cs, c.isQuery = true) →
      ∀ d, .emit (.driverAssigned tripId d) ∉ cs := fun cs hcs d hmem =>
    absurd (hcs _ hmem) Bool.false_ne_true
  rcases lt_or_ge k 5 with hk | hk
  · obtain ⟨cs, hcs, hrun⟩ := hreads.runReject_of_lt (e := e) hk
    obtain rfl := Option.some.inj (hrun.symm.trans hfails)
    exact iff_of_true ⟨⟨e, rfl⟩, rfl, fun _ => rfl, fun _ => rfl, rfl, hquiet cs hcs⟩ (by omega)
  · obtain ⟨k, rfl⟩ := Nat.exists_eq_add_of_le hk
    obtain ⟨cs, hcs, hrun⟩ := hreads.runReject_add (e := e) k
    rw [hrun] at hfails
    cases k with
    | zero =>
      rw [runReject_sixthCall_zero hsixth] at hfails
      obtain rfl := Option.some.inj hfails
      refine iff_of_true ⟨⟨e, rfl⟩, rfl, fun _ => rfl, fun _ => rfl, rfl, ?_⟩ (by omega)
      rw [Outcome.cmds_after, List.append_nil]
      exact hquiet cs hcs
    | succ k =>
      obtain ⟨o', ho', rfl⟩ := Option.map_eq_some_iff.mp hfails
      refine iff_of_false (fun h => ?_) (by omega)
      have hlater : ¬ AcceptanceUndone s tripId o' :=
        not_undone_of_sixthCall hsixth hpending (isNotified_iff.mp hnotified) ho'
      exact hlater ⟨h.throws, h.trip, h.attempts, h.locks, h.rounds, fun d hd =>
        h.silent d (List.mem_append_right _ hd)⟩

/-- Driver 1 (user 10) is offered trip 1. -/
def Store.offered : Store where
  drivers := .single ⟨1, 10, 0, 0⟩
  trips :=
    .single { id := 1, clientId := 20, vehicleTypeId := 1, serviceType := .ride
              pickupLocation := ⟨0, 0⟩, dropoffLocation := ⟨0, 0⟩, createdAt := 0, updatedAt := 0 }
  attempts := .single { tripId := 1, driverId := 1, status := .driverNotified, notifiedAt := 0 }
  redis
    | .dispatchLock 1 => some ⟨.trip 1, none⟩
    | .dispatchRounds 1 => some ⟨.count 1, none⟩
    | _ => none

theorem acceptance_undone_sixthCall : ∃ o, (updateStatus 1 10 .driver { status := .accepted }).runReject
    Cmd.exec .unavailable 5 .offered = some o ∧ AcceptanceUndone .offered 1 o :=
  ⟨_, rfl, (acceptance_undone_iff 1 10 .driver none .offered
    (updateStatus_succeeds_iff.mpr ⟨_, rfl, rfl, rfl, _, rfl, rfl⟩) 5 .unavailable _ rfl).mpr
      (by decide)⟩

/-- The write of the trip fails: the driver was announced, and his offer is answered. -/
theorem acceptance_not_undone : ∃ o, (updateStatus 1 10 .driver { status := .accepted }).runReject
    Cmd.exec .unavailable 10 .offered = some o ∧ ¬ AcceptanceUndone .offered 1 o := by
  refine ⟨_, rfl, fun h => ?_⟩
  exact h.silent 1 (List.mem_of_getElem? (i := 11) rfl)

end Telima
