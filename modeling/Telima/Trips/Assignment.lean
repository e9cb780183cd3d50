import Telima.System
import Telima.Trips.Runs

/-!
# The driver of a trip in any interleaving

Every notified driver holds a lock of its own, so the locks do not exclude two drivers of one trip;
once an accept has passed its attempt check, nothing stops it before it has written its driver into
the trip.  The checks that were passed (`checkedDrivers`) therefore decide: every command that gives
the trip to a driver (`Cmd.Assigns`) comes from an accept, or a handler it started, whose driver has
passed the check, and in a run in which only one driver passes it (`OneDriver`) the trip has one
driver.
-/

namespace Telima

open TripsService DispatchService

/-! ### Commands that give a trip to a driver -/

/-- The command gives the trip to the driver, or tells that it has it. -/
def Cmd.Assigns (tripId driverId : ℕ) : Cmd → Prop
  | .updateTrip id data => id = tripId ∧ data.driverId = some driverId
  | .updateTripIfPending id data => id = tripId ∧ data.driverId = some driverId
  | .respondAttempts id driver status =>
    id = tripId ∧ status = .driverAccepted ∧ ∀ d ∈ driver, d = driverId
  | .emit (.driverAssigned id driver) => id = tripId ∧ driver = driverId
  | .emit (.tripAccepted id driver _) => id = tripId ∧ driver = driverId
  | _ => False

/-- The command may give some trip to some driver. -/
def Cmd.commits : Cmd → Bool
  | .updateTrip _ data | .updateTripIfPending _ data => data.driverId.isSome
  | .respondAttempts _ _ status => decide (status = .driverAccepted)
  | .emit (.driverAssigned _ _) | .emit (.tripAccepted _ _ _) => true
  | _ => false

/-- The driver of the trip. -/
def Store.assignedDriver (s : Store) (tripId : ℕ) : Option ℕ :=
  (s.trips.find? tripId).bind Trip.driverId

/-- No driver has the trip. -/
structure Store.Unassigned (s : Store) (tripId : ℕ) : Prop where
  driver : s.assignedDriver tripId = none
  attempts : ∀ driverId, s.attemptStatus tripId driverId ≠ some .driverAccepted

namespace Cmd

variable {c : Cmd} {s : Store} {tripId driverId : ℕ}

theorem not_assigns_of_not_commits (h : c.commits = false) : ¬ c.Assigns tripId driverId := by
  intro hassigns
  cases c with
  | updateTrip id data => simp [commits, hassigns.2] at h
  | updateTripIfPending id data => simp [commits, hassigns.2] at h
  | respondAttempts id driver status => simp [commits, hassigns.2.1] at h
  | emit event => cases event <;> first | exact hassigns | simp [commits] at h
  | _ => exact hassigns

theorem not_commits_of_withdrawsJob (h : c.withdrawsJob = true) : c.commits = false := by
  cases c <;> first | rfl | simp [withdrawsJob] at h

theorem not_commits_of_reports (h : c.reports = true) : c.commits = false := by
  unfold reports at h
  split at h <;> first | rfl | simp at h

theorem not_commits_of_searches (h : c.searches tripId = true) : c.commits = false := by
  cases c with
  | emit event => cases event <;> first | rfl | simp [searches] at h
  | respondAttempts id driver status => simp_all [searches, commits]
  | _ => first | rfl | simp [searches] at h

/-- The driver of a trip that is updated. -/
theorem assignedDriver_of_map {t : Store} {f : Trip → Trip}
    (ht : t.trips.find? tripId = (s.trips.find? tripId).map f)
    (h : t.assignedDriver tripId = some driverId) :
    s.assignedDriver tripId = some driverId ∨ ∃ trip, s.trips.find? tripId = some trip ∧
      (f trip).driverId = some driverId ∧ (f trip).driverId ≠ trip.driverId := by
  rw [Store.assignedDriver, ht] at h
  rw [Store.assignedDriver]
  cases htrip : s.trips.find? tripId with
  | none =>
    rw [htrip] at h
    cases h
  | some trip =>
    rw [htrip, Option.map_some, Option.bind_some] at h
    by_cases hsame : (f trip).driverId = trip.driverId
    · rw [hsame] at h
      exact Or.inl h
    · exact Or.inr ⟨trip, rfl, h, hsame⟩

/-- The trip's driver after a command was its driver before, or the command gave it the trip. -/
theorem assigns_of_assignedDriver (h : (c.exec s).assignedDriver tripId = some driverId) :
    s.assignedDriver tripId = some driverId ∨ c.Assigns tripId driverId := by
  have hdata : ∀ (data : TripData) (trip : Trip) (now : ℕ),
      (data.apply now trip).driverId = some driverId →
      (data.apply now trip).driverId ≠ trip.driverId → data.driverId = some driverId := by
    intro data trip now hdriver hne
    simp only [TripData.apply] at hdriver hne
    cases hd : data.driverId with
    | none => simp [hd] at hne
    | some d =>
      rw [hd] at hdriver
      exact hdriver
  cases c with
  | insertTrip data =>
    left
    rw [Store.assignedDriver, Store.find?_insertTrip] at h
    rw [Store.assignedDriver]
    cases htrip : s.trips.find? tripId with
    | some trip => rwa [htrip, Option.some_or] at h
    | none =>
      -- the new row has no driver
      rw [htrip, Option.none_or] at h
      split_ifs at h
      · cases h
      · cases h
  | updateTrip id data =>
    rcases assignedDriver_of_map Store.find?_updateTrip h with h | ⟨trip, htrip, hdriver, hne⟩
    · exact Or.inl h
    · by_cases hid : tripId = id
      · rw [if_pos hid] at hdriver hne
        exact Or.inr ⟨hid.symm, hdata data trip _ hdriver hne⟩
      · rw [if_neg hid] at hne
        exact absurd rfl hne
  | updateTripIfPending id data =>
    rcases assignedDriver_of_map Store.find?_updateTripIfPending h with
      h | ⟨trip, htrip, hdriver, hne⟩
    · exact Or.inl h
    · split_ifs at hdriver hne with hpending
      · rw [Bool.and_eq_true, decide_eq_true_eq] at hpending
        have hid : tripId = id := (Table.key_of_find? htrip).symm.trans hpending.1
        exact Or.inr ⟨hid.symm, hdata data trip _ hdriver hne⟩
      · exact absurd rfl hne
  | chargeCommission id driver commissionAmount finalPrice =>
    rcases assignedDriver_of_map Store.find?_chargeCommission h with h | ⟨trip, htrip, -, hne⟩
    · exact Or.inl h
    · split_ifs at hne
      · exact absurd rfl hne
      · exact absurd rfl hne
  | _ => exact Or.inl h

/-- No command takes a trip from its driver without giving it to another. -/
theorem isSome_assignedDriver (h : (s.assignedDriver tripId).isSome = true) :
    ((c.exec s).assignedDriver tripId).isSome = true := by
  have hmap : ∀ {t : Store} {f : Trip → Trip},
      t.trips.find? tripId = (s.trips.find? tripId).map f →
      (∀ trip, trip.driverId.isSome = true → (f trip).driverId.isSome = true) →
        (t.assignedDriver tripId).isSome = true := by
    intro t f ht hf
    rw [Store.assignedDriver] at h ⊢
    rw [ht]
    cases htrip : s.trips.find? tripId with
    | none => simp [htrip] at h
    | some trip =>
      rw [htrip, Option.bind_some] at h
      exact hf trip h
  have hdata : ∀ (data : TripData) (now : ℕ) (trip : Trip), trip.driverId.isSome = true →
      (data.apply now trip).driverId.isSome = true := by
    intro data now trip htrip
    simp [TripData.apply, htrip]
  cases c with
  | insertTrip data =>
    rw [Store.assignedDriver] at h ⊢
    cases htrip : s.trips.find? tripId with
    | none => simp [htrip] at h
    | some trip =>
      rw [htrip] at h
      rwa [Store.find?_insertTrip_of_some htrip]
  | updateTrip id data =>
    refine hmap Store.find?_updateTrip fun trip htrip => ?_
    split_ifs
    · exact hdata data _ trip htrip
    · exact htrip
  | updateTripIfPending id data =>
    refine hmap Store.find?_updateTripIfPending fun trip htrip => ?_
    split_ifs
    · exact hdata data _ trip htrip
    · exact htrip
  | chargeCommission id driver commissionAmount finalPrice =>
    refine hmap Store.find?_chargeCommission fun trip htrip => ?_
    split_ifs
    · exact htrip
    · exact htrip
  | _ => exact h

/-- An attempt that is accepted was so before the command, or the command accepted it. -/
theorem assigns_of_attemptStatus
    (h : (c.exec s).attemptStatus tripId driverId = some .driverAccepted) :
    s.attemptStatus tripId driverId = some .driverAccepted ∨ c.Assigns tripId driverId := by
  cases c with
  | upsertAttempt id driver =>
    left
    rw [Store.attemptStatus] at h ⊢
    simp only [exec] at h
    split_ifs at h with hfound
    · rw [Table.find?_update_eq_map] at h
      cases ha : s.attempts.find? (tripId, driverId) with
      | none => simp [ha] at h
      | some a =>
        by_cases hkey : (tripId, driverId) = (id, driver)
        · simp [hkey, DispatchAttempt.notify] at h
        · simpa [ha, hkey] using h
    · rw [Table.find?_insert] at h
      cases ha : s.attempts.find? (tripId, driverId) with
      | none =>
        rw [ha, Option.none_or] at h
        split_ifs at h
        · cases h
        · cases h
      | some a =>
        rw [ha, Option.some_or] at h
        exact h
  | rearmAttempt id driver =>
    left
    rw [Store.attemptStatus] at h ⊢
    simp only [exec, Table.find?_update_eq_map] at h
    cases ha : s.attempts.find? (tripId, driverId) with
    | none => simp [ha] at h
    | some a =>
      by_cases hkey : (tripId, driverId) = (id, driver)
      · simp [hkey, DispatchAttempt.rearm] at h
      · simpa [ha, hkey] using h
  | respondAttempts id driver status =>
    rw [Store.attemptStatus] at h ⊢
    simp only [exec, Table.find?_updateMany] at h
    cases ha : s.attempts.find? (tripId, driverId) with
    | none => simp [ha] at h
    | some a =>
      have hkey : a.key = (tripId, driverId) := Table.key_of_find? ha
      rw [DispatchAttempt.key, Prod.mk.injEq] at hkey
      obtain ⟨htrip, hdriver⟩ := hkey
      rw [ha, Option.map_some, Option.map_some, Option.some_inj] at h
      split_ifs at h with hselected
      · right
        simp only [Bool.and_eq_true, decide_eq_true_eq] at hselected
        refine ⟨hselected.1.1.symm.trans htrip, h, fun d hd => ?_⟩
        have hd' := hselected.1.2
        rw [hd, Option.all_some, decide_eq_true_eq] at hd'
        rw [← hd', hdriver]
      · left
        rw [Option.map_some, h]
  | _ => exact Or.inl h

end Cmd
/-! ### Drivers that passed the check -/

/-- An accept, a decline or a timeout of an offer, or the passing of time. -/
inductive OfferCall where
  | acceptTrip (tripId userId : ℕ)
  | wsAccept (tripId userId : ℕ)
  | declineTrip (tripId userId : ℕ)
  | wsDecline (tripId driverId : ℕ)
  | timeout (tripId driverId : ℕ)
  | wait (ms : ℕ)

namespace OfferCall

def program (env : Env) : OfferCall → Prog Unit
  | acceptTrip tripId userId => (TripsService.acceptTrip tripId userId).as ()
  | wsAccept tripId userId => handleWsDriverAcceptRequested tripId userId
  | declineTrip tripId userId => TripsService.declineTrip env.dispatch tripId userId
  | wsDecline tripId driverId => handleDriverDeclineAndRetry env.dispatch tripId driverId
  | timeout tripId driverId => handleDriverTimeout env.dispatch tripId driverId
  | wait ms => Async.perform (.tick ms)

/-- The call is an accept. -/
def isAccept : OfferCall → Bool
  | acceptTrip _ _ | wsAccept _ _ => true
  | _ => false

end OfferCall

/-- The driver whose accept passes its attempt check, if that is what the entry records. -/
def checkedDriver (calls : List OfferCall) (tripId : ℕ) (e : Event Store Cmd) : Option ℕ :=
  match e.kind with
  | .did (.findActiveAttempt id driverId) =>
    if id = tripId ∧ (calls[e.tid]?).any OfferCall.isAccept = true ∧
        TripRepository.isNotified e.before id driverId = true then some driverId
    else none
  | _ => none

/-- The drivers whose accept has passed its attempt check. -/
def World.checkedDrivers (w : World Store Cmd) (calls : List OfferCall) (tripId : ℕ) : List ℕ :=
  w.trace.filterMap (checkedDriver calls tripId)

/-- The command does not let a second driver pass the check. -/
def OneDriver (calls : List OfferCall) (tripId i : ℕ) (w : World Store Cmd) (c : Cmd) : Prop :=
  ∀ driverId ∈ checkedDriver calls tripId ⟨i, .did c, w.store⟩,
    ∀ driverId' ∈ w.checkedDrivers calls tripId, driverId' = driverId

instance (calls : List OfferCall) (tripId i : ℕ) (w : World Store Cmd) (c : Cmd) :
    Decidable (OneDriver calls tripId i w c) := by
  unfold OneDriver
  infer_instance

namespace Assignment

variable {env : Env} {calls : List OfferCall} {tripId : ℕ}

theorem checkedDrivers_step {w : World Store Cmd} {i n : ℕ} {c : Cmd} :
    (w.step (system env ()) i c n).checkedDrivers calls tripId =
      (checkedDriver calls tripId ⟨i, .did c, w.store⟩).toList ++ w.checkedDrivers calls tripId := by
  have hspawn : ∀ (v : World Store Cmd) (k : ℕ),
      (v.spawnMany n c k).checkedDrivers calls tripId = v.checkedDrivers calls tripId := by
    intro v k
    induction k with
    | zero => rfl
    | succ k ih =>
      rw [← ih]
      rfl
  rw [World.step, hspawn, World.checkedDrivers, World.trace_act, List.filterMap_cons]
  cases checkedDriver calls tripId ⟨i, .did c, w.store⟩ with
  | none => rfl
  | some d => rfl

theorem checkedDrivers_step_of_mem {w : World Store Cmd} {i n d : ℕ} {c : Cmd}
    (h : d ∈ w.checkedDrivers calls tripId) :
    d ∈ (w.step (system env ()) i c n).checkedDrivers calls tripId := by
  rw [checkedDrivers_step]
  exact List.mem_append_right _ h

/-- One driver has passed the check, and nobody else has the trip. -/
structure Inv (calls : List OfferCall) (tripId : ℕ) (w : World Store Cmd) : Prop where
  unique : ∀ d ∈ w.checkedDrivers calls tripId, ∀ d' ∈ w.checkedDrivers calls tripId, d = d'
  driver : ∀ d, w.store.assignedDriver tripId = some d → d ∈ w.checkedDrivers calls tripId
  attempt : ∀ d, w.store.attemptStatus tripId d = some .driverAccepted →
    d ∈ w.checkedDrivers calls tripId
  done : ∀ e ∈ w.trace, ∀ c d, e.kind = .did c → c.Assigns tripId d →
    d ∈ w.checkedDrivers calls tripId

/-- A driver that is given the trip has passed the check. -/
def Guards (calls : List OfferCall) (tripId : ℕ) (w : World Store Cmd) (c : Cmd) : Prop :=
  ∀ d, c.Assigns tripId d → d ∈ w.checkedDrivers calls tripId

theorem Inv.step {w : World Store Cmd} {i n : ℕ} {c : Cmd} (h : Inv calls tripId w)
    (hcond : OneDriver calls tripId i w c) (hguards : Guards calls tripId w c) :
    Inv calls tripId (w.step (system env ()) i c n) where
  unique := by
    intro d hd d' hd'
    rw [checkedDrivers_step, List.mem_append, Option.mem_toList] at hd hd'
    rcases hd with hd | hd
    · rcases hd' with hd' | hd'
      · exact Option.some.inj (hd.symm.trans hd')
      · exact (hcond d hd d' hd').symm
    · rcases hd' with hd' | hd'
      · exact hcond d' hd' d hd
      · exact h.unique d hd d' hd'
  driver := by
    intro d hd
    rw [World.store_step] at hd
    apply checkedDrivers_step_of_mem
    rcases Cmd.assigns_of_assignedDriver hd with hd | hd
    · exact h.driver d hd
    · exact hguards d hd
  attempt := by
    intro d hd
    rw [World.store_step] at hd
    apply checkedDrivers_step_of_mem
    rcases Cmd.assigns_of_attemptStatus hd with hd | hd
    · exact h.attempt d hd
    · exact hguards d hd
  done := by
    intro e he c' d hkind hassigns
    apply checkedDrivers_step_of_mem
    rcases World.mem_trace_step he with ⟨c'', hspawned⟩ | rfl | he
    · rw [hkind] at hspawned
      cases hspawned
    · obtain rfl : c = c' := by simpa using hkind
      exact hguards d hassigns
    · exact h.done e he c' d hkind hassigns

theorem inv_init {s : Store} (hs : s.Unassigned tripId) : Inv calls tripId ⟨s, []⟩ where
  unique := by
    intro d hd
    cases hd
  driver := by
    intro d hd
    rw [hs.driver] at hd
    cases hd
  attempt := by
    intro d hd
    exact absurd hd (hs.attempts d)
  done := by
    intro e he
    cases he

/-! ### The protocol -/

/-- Only one driver passes the check, and only it is given the trip. -/
def protocol (env : Env) (calls : List OfferCall) (tripId : ℕ) (fault : Error → Prop) :
    Protocol (system env ()) where
  cond := OneDriver calls tripId
  fault := fault
  inv := Inv calls tripId
  guar _ := Guards calls tripId
  inv_step hinv hcond hguards _ _ := hinv.step hcond hguards

/-! ### What commits nothing -/

/-- The program gives no trip to a driver. -/
abbrev CommitsNothing {α : Type} (p : Prog α) : Prop := p.Only fun c => c.commits = false

theorem commitsNothing_getTrip (tripId : ℕ) : CommitsNothing (getTrip tripId) :=
  (onlyReports_getTrip tripId).mono fun _ hc => Cmd.not_commits_of_reports hc

theorem commitsNothing_findById (tripId : ℕ) : CommitsNothing (TripRepository.findById tripId) :=
  (onlyReports_findById tripId).mono fun _ hc => Cmd.not_commits_of_reports hc

theorem commitsNothing_cancelTimeoutJob (tripId driverId : ℕ) :
    CommitsNothing (cancelTimeoutJob tripId driverId) :=
  (withdrawsJob_cancelTimeoutJob tripId driverId).mono fun _ hc =>
    Cmd.not_commits_of_withdrawsJob hc

/-- A search gives no trip to a driver. -/
theorem commitsNothing_of_onlySearches {α : Type} {p : Prog α} (h : OnlySearches tripId p) :
    CommitsNothing p :=
  Async.Only.mono h fun _ hc => Cmd.not_commits_of_searches hc

theorem commitsNothing_declineTrip (env : DispatchEnv) (tripId userId : ℕ) :
    CommitsNothing (TripsService.declineTrip env tripId userId) := by
  refine (commitsNothing_getTrip tripId).bind fun _ => ?_
  refine Async.only_query_bind.mpr ⟨rfl, fun _ => ?_⟩
  split
  · trivial
  · refine Async.only_query_bind.mpr ⟨rfl, fun _ => ?_⟩
    split_ifs
    · exact commitsNothing_of_onlySearches (onlySearches_handleDriverDeclineAndRetry _ _ _)
    · trivial

theorem commitsNothing_handleDispatchFailed (tripId : ℕ) (reason : String) :
    CommitsNothing (handleDispatchFailed tripId reason) := by
  have hupdate : CommitsNothing
      (TripRepository.updateStatusIfPending tripId .cancelledAuto reason) :=
    Async.only_read_bind.mpr ⟨rfl, fun _ => Async.only_perform.mpr rfl⟩
  refine hupdate.bind fun _ => (commitsNothing_findById tripId).bind fun trip => ?_
  split
  · exact Async.only_emit.mpr rfl
  · trivial

theorem commitsNothing_handleTripCompleted (tripId : ℕ) :
    CommitsNothing (CommissionsService.handleTripCompleted tripId) :=
  CommissionsService.only_handleTripCompleted rfl fun _ _ _ _ => rfl

/-! ### What commits one driver -/

/-- The program gives no trip to a driver but `tripId` to `driverId`. -/
abbrev CommitsOnly {α : Type} (tripId driverId : ℕ) (p : Prog α) : Prop :=
  p.Only fun c => ∀ t d, c.Assigns t d → t = tripId ∧ d = driverId

theorem CommitsNothing.only {α : Type} {p : Prog α} (h : CommitsNothing p) (tripId driverId : ℕ) :
    CommitsOnly tripId driverId p := by
  refine Async.Only.mono h fun c hc t d hassigns => ?_
  exact absurd hassigns (Cmd.not_assigns_of_not_commits hc)

theorem commitsOnly_handleDriverAccept (tripId driverId : ℕ) :
    CommitsOnly tripId driverId (handleDriverAccept tripId driverId) := by
  have hnone : ∀ {c : Cmd}, c.commits = false →
      ∀ t d, c.Assigns t d → t = tripId ∧ d = driverId := by
    intro c hc t d hassigns
    exact absurd hassigns (Cmd.not_assigns_of_not_commits hc)
  refine Async.only_query_bind.mpr ⟨hnone rfl, fun s => ?_⟩
  split
  · split_ifs
    · trivial
    · refine Async.only_perform_bind.mpr ⟨?_, fun _ => ?_⟩
      · rintro t d ⟨rfl, -, hd⟩
        exact ⟨rfl, (hd driverId rfl).symm⟩
      refine ((commitsNothing_cancelTimeoutJob _ _).only _ _).bind fun _ => ?_
      refine Async.only_query_bind.mpr ⟨hnone rfl, fun s => ?_⟩
      refine (Async.Only.forEach fun other _ => ?_).bind fun _ => ?_
      · refine Async.only_perform_bind.mpr ⟨hnone rfl, fun _ => ?_⟩
        refine ((commitsNothing_cancelTimeoutJob _ _).only _ _).bind fun _ => ?_
        exact Async.only_perform.mpr (hnone rfl)
      · refine Async.only_perform_bind.mpr ⟨hnone rfl, fun _ => ?_⟩
        refine Async.only_perform_bind.mpr ⟨hnone rfl, fun _ => ?_⟩
        refine Async.only_emit.mpr ?_
        rintro t d ⟨rfl, rfl⟩
        exact ⟨rfl, rfl⟩
  · trivial

theorem commitsOnly_update {α : Type} {tripId driverId : ℕ} {data : TripData}
    (hdata : data.driverId = some driverId) {f : Trip → Prog α}
    (hf : ∀ trip, trip.id = tripId → CommitsOnly tripId driverId (f trip)) :
    CommitsOnly tripId driverId ((TripRepository.update tripId data).bind f) := by
  refine Async.only_queryE_bind.mpr ⟨?_, fun s => ?_⟩
  · rintro t d ⟨rfl, hd⟩
    exact ⟨rfl, Option.some.inj (hd.symm.trans hdata)⟩
  · cases htrip : s.trips.find? tripId with
    | none => trivial
    | some trip =>
      have hid : trip.id = tripId := Table.key_of_find? htrip
      exact hf (data.apply s.now trip) hid

theorem commitsOnly_reportStatus (tripId driverId : ℕ) (updated : Option Trip) (userId : ℕ)
    (status : TripStatus) (cancelReason : Option String) :
    CommitsOnly tripId driverId (reportStatus updated userId status cancelReason) := by
  refine CommitsNothing.only ?_ tripId driverId
  refine (only_reportStatus updated userId status cancelReason).mono fun c hc => ?_
  rcases hc with hc | ⟨trip, -, finalPrice, -, rfl⟩
  · exact Cmd.not_commits_of_reports hc
  · rfl

/-- The handler of `DriverAssigned` writes and announces its driver. -/
theorem commitsOnly_handleDriverAssigned (geo : GeoEnv) (tripId driverId : ℕ) :
    CommitsOnly tripId driverId (handleDriverAssigned geo tripId driverId) := by
  have hnone : ∀ {c : Cmd}, c.commits = false →
      ∀ t d, c.Assigns t d → t = tripId ∧ d = driverId := by
    intro c hc t d hassigns
    exact absurd hassigns (Cmd.not_assigns_of_not_commits hc)
  unfold handleDriverAssigned TripRepository.assignDriver
  rw [Async.bind_eq, Async.bind_eq, Async.bind_assoc]
  refine Async.only_read_bind.mpr ⟨hnone rfl, fun s => ?_⟩
  refine commitsOnly_update rfl fun trip htrip => ?_
  refine Async.Only.bind ((onlyReports_broadcastAccepted geo trip driverId).mono fun c hc =>
    hnone (Cmd.not_commits_of_reports hc)) fun _ => ?_
  refine Async.only_emit.mpr ?_
  rintro t d ⟨rfl, rfl⟩
  exact ⟨htrip, rfl⟩

/-- What an accept does after it has passed the check. -/
theorem commitsOnly_accept (tripId driverId userId : ℕ) :
    CommitsOnly tripId driverId
      ((newDate.bind fun now => (handleDriverAccept tripId driverId).bind fun _ =>
        pure { status := some .accepted, driverId := some driverId, acceptedAt := some now }).bind
          fun data => (TripRepository.updateStatus tripId data).bind fun updated =>
            reportStatus updated userId .accepted none) := by
  have hdate : ∀ t d, Cmd.Assigns t d .date → t = tripId ∧ d = driverId := fun _ _ h => h.elim
  rw [Async.bind_assoc]
  refine Async.only_read_bind.mpr ⟨hdate, fun s => ?_⟩
  rw [Async.bind_assoc]
  refine (commitsOnly_handleDriverAccept tripId driverId).bind fun _ => ?_
  show CommitsOnly tripId driverId ((TripRepository.updateStatus tripId _).bind _)
  unfold TripRepository.updateStatus
  rw [Async.bind_eq, Async.bind_assoc]
  refine commitsOnly_update rfl fun trip _ => ?_
  refine ((commitsNothing_findById tripId).only _ _).bind fun updated => ?_
  exact commitsOnly_reportStatus _ _ _ _ _ _

/-! ### The calls -/

section Threads

variable {fault : Error → Prop} {i : ℕ} {w : World Store Cmd}

theorem frame_true :
    (protocol env calls tripId fault).Frame i (fun c => c.commits = false) fun _ => True where
  stable := Protocol.stable_const i True
  performs := by
    intro c w hc _ _ _
    refine ⟨fun d hassigns => ?_, fun _ _ _ => trivial⟩
    exact absurd hassigns (Cmd.not_assigns_of_not_commits hc)

/-- A driver that has passed the check may be given the trip. -/
theorem frame_checked (t d : ℕ) :
    (protocol env calls tripId fault).Frame i (fun c => ∀ t' d', c.Assigns t' d' → t' = t ∧ d' = d)
      fun w => t = tripId → d ∈ w.checkedDrivers calls tripId where
  stable := by
    rintro w _ ⟨j, c, n, -, -, -, -, -, -, -, rfl⟩ hw ht
    exact checkedDrivers_step_of_mem (hw ht)
  performs := by
    intro c w hc hw _ _
    refine ⟨fun d' hassigns => ?_, fun n _ _ ht => checkedDrivers_step_of_mem (hw ht)⟩
    obtain ⟨rfl, rfl⟩ := hc tripId d' hassigns
    exact hw rfl

theorem wp_accept {t : ℕ} (userId : ℕ) (hi : (calls[i]?).any OfferCall.isAccept = true) :
    (protocol env calls tripId fault).wp i
      (TripsService.updateStatus t userId .driver { status := .accepted }) (fun _ _ => True) w := by
  refine frame_true.wp_bind_yields (commitsNothing_getTrip t) (yields_getTrip t) trivial
    (fun trip w htrip _ => ?_) fun _ _ _ => trivial
  subst htrip
  split_ifs with hcan
  · show (protocol env calls tripId fault).wp i ((acceptCase trip.id userId .driver).bind _) _ w
    unfold acceptCase
    rw [if_neg (fun h => h rfl), Async.bind_eq, Async.bind_assoc]
    refine frame_true.wp_bind (Async.only_query.mpr rfl) trivial (fun driver w _ => ?_)
      fun _ _ _ => trivial
    cases driver with
    | none => trivial
    | some driverId =>
      dsimp only
      rw [Async.bind_eq, Async.bind_assoc]
      refine Protocol.wp_query_bind (Protocol.stable_const i True) trivial (fun w _ _ _ => ?_)
        fun _ _ _ _ _ => trivial
      refine ⟨fun d hassigns => hassigns.elim, fun n _ _ => ?_⟩
      split_ifs with hnotified
      · -- the check is passed
        refine Protocol.wp_mono (fun _ _ _ => trivial)
          ((frame_checked trip.id driverId).wp (commitsOnly_accept _ _ userId) fun ht => ?_)
        rw [checkedDrivers_step, List.mem_append, Option.mem_toList]
        refine Or.inl (if_pos ⟨ht, hi, hnotified⟩)
      · trivial
  · trivial

theorem wp_program {call : OfferCall} (hi : calls[i]? = some call) :
    (protocol env calls tripId fault).wp i (call.program env) (fun _ _ => True) w := by
  cases call with
  | acceptTrip t userId =>
    exact Protocol.wp_as (wp_accept userId (by rw [hi]; rfl))
  | wsAccept t userId =>
    apply Protocol.wp_tryCatch
    apply Protocol.wp_bind
    refine Protocol.wp_mono ?_ (wp_accept userId (by rw [hi]; rfl))
    intro r w _
    cases r <;> trivial
  | declineTrip t userId => exact frame_true.wp (commitsNothing_declineTrip _ _ _) trivial
  | wsDecline t driverId =>
    exact frame_true.wp (commitsNothing_of_onlySearches
      (onlySearches_handleDriverDeclineAndRetry _ _ _)) trivial
  | timeout t driverId =>
    exact frame_true.wp (commitsNothing_of_onlySearches
      (onlySearches_handleDriverTimeout _ _ _)) trivial
  | wait ms => exact frame_true.wp (Async.only_perform.mpr rfl) trivial

theorem handlersKeep : (protocol env calls tripId fault).HandlersKeep fun _ _ _ => True := by
  intro c k h hk j n w _ _ hguards _ _
  cases c with
  | emit event =>
    cases event with
    | tripCreated t pickup serviceType vehicleTypeId =>
      obtain rfl : _ = h := (List.mem_singleton.mp (List.mem_of_getElem? hk)).symm
      exact Protocol.wp_as (frame_true.wp (commitsNothing_of_onlySearches
        (onlyRedispatches_attemptDispatch _ _ _ _ _).searches) trivial)
    | tripCompleted t driverId clientId finalPrice =>
      obtain rfl : _ = h := (List.mem_singleton.mp (List.mem_of_getElem? hk)).symm
      exact Protocol.wp_as (frame_true.wp (commitsNothing_handleTripCompleted _) trivial)
    | driverAssigned t driverId =>
      obtain rfl : _ = h := (List.mem_singleton.mp (List.mem_of_getElem? hk)).symm
      have hchecked : t = tripId → driverId ∈ (w.step (system env ()) j
          (.emit (.driverAssigned t driverId)) n).checkedDrivers calls tripId := by
        intro ht
        exact checkedDrivers_step_of_mem (hguards driverId ⟨ht, rfl⟩)
      refine Protocol.wp_as (Protocol.wp_mono (fun _ _ _ => trivial)
        ((frame_checked t driverId).wp (commitsOnly_handleDriverAssigned _ _ _) hchecked))
    | dispatchFailed t reason =>
      obtain rfl : _ = h := (List.mem_singleton.mp (List.mem_of_getElem? hk)).symm
      exact Protocol.wp_as (frame_true.wp (commitsNothing_handleDispatchFailed _ _) trivial)
    | _ => simp [handlers, eventHandlers] at hk
  | _ => simp [handlers] at hk

theorem safe_init {s : Store} (hs : s.Unassigned tripId) :
    (protocol env calls tripId fault).Safe (fun _ _ _ => True)
      (Pool.init s (calls.map (·.program env))) := by
  refine Protocol.safe_init (inv_init hs) fun i t ht => ?_
  rw [List.getElem?_map, Option.map_eq_some_iff] at ht
  obtain ⟨call, hcall, rfl⟩ := ht
  exact wp_program hcall

end Threads

end Assignment

/-- Whatever the accepts, declines and timeouts, their schedule and the failures among them: if one
driver passes the attempt check, the trip has one driver for good, one accepted attempt, and is
announced for one driver. -/
theorem trip_assigned_to_single_driver (env : Env) (s : Store) (tripId : ℕ)
    (hs : s.Unassigned tripId) (calls : List OfferCall) (fault : Error → Prop)
    {p q : Pool Store Cmd Error Unit}
    (hp : Pool.Run (system env ()) (OneDriver calls tripId) fault
      (Pool.init s (calls.map (·.program env))) p)
    (hq : Pool.Run (system env ()) (OneDriver calls tripId) fault p q) :
    (∀ d, p.world.store.assignedDriver tripId = some d →
      q.world.store.assignedDriver tripId = some d) ∧
    (∀ d d', p.world.store.attemptStatus tripId d = some .driverAccepted →
      q.world.store.attemptStatus tripId d' = some .driverAccepted → d = d') ∧
    (∀ d d' clientId clientId', .tripAccepted tripId d clientId ∈ q.world.emitted →
      .tripAccepted tripId d' clientId' ∈ q.world.emitted → d = d') := by
  have hstable : ∀ i (r : Except Error Unit),
      (Assignment.protocol env calls tripId fault).Stable i (fun _ => True) :=
    fun i _ => Protocol.stable_const i True
  have hsafe := (Assignment.safe_init hs).run hstable Assignment.handlersKeep hp
  have hfinal := hsafe.run hstable Assignment.handlersKeep hq
  -- what has passed the check in `p` has passed it in `q`
  have hmono : ∀ d ∈ p.world.checkedDrivers calls tripId, d ∈ q.world.checkedDrivers calls tripId :=
    fun d hd => (hq.trace_suffix.filterMap _).subset hd
  refine ⟨fun d hd => ?_, fun d d' hd hd' => ?_, ?_⟩
  · have hsome : (q.world.store.assignedDriver tripId).isSome = true := by
      refine hsafe.run_rel (R := fun s t => (s.assignedDriver tripId).isSome = true →
        (t.assignedDriver tripId).isSome = true) hstable Assignment.handlersKeep (fun _ h => h)
        (fun _ _ _ h h' hs => h' (h hs)) (fun i w c _ _ _ h => Cmd.isSome_assignedDriver h) hq ?_
      rw [hd]
      rfl
    obtain ⟨d', hd'⟩ := Option.isSome_iff_exists.mp hsome
    rw [hd', hfinal.inv.unique d (hmono d (hsafe.inv.driver d hd)) d' (hfinal.inv.driver d' hd')]
  · exact hfinal.inv.unique d (hmono d (hsafe.inv.attempt d hd)) d' (hfinal.inv.attempt d' hd')
  · intro d d' clientId clientId' h h'
    obtain ⟨e, he, hkind⟩ := World.mem_emitted.mp h
    obtain ⟨e', he', hkind'⟩ := World.mem_emitted.mp h'
    exact hfinal.inv.unique d (hfinal.inv.done e he _ d hkind ⟨rfl, rfl⟩) d'
      (hfinal.inv.done e' he' _ d' hkind' ⟨rfl, rfl⟩)

namespace Assignment

/-- A pending trip of client 20, offered to drivers 1 (user 11) and 2 (user 12). -/
def offeredStore : Store where
  drivers := .insert (.single ⟨1, 11, 0, 0⟩) ⟨2, 12, 0, 0⟩
  trips :=
    .single { id := 1, clientId := 20, vehicleTypeId := 1, serviceType := .ride
              pickupLocation := ⟨0, 0⟩, dropoffLocation := ⟨0, 0⟩, createdAt := 0, updatedAt := 0 }
  attempts := ⟨[⟨1, 1, .driverNotified, 0, none⟩, ⟨1, 2, .driverNotified, 0, none⟩], by decide⟩
  redis key := if key = .dispatchLock 1 ∨ key = .dispatchLock 2 then some ⟨.trip 1, some 75000⟩
    else none

theorem offeredStore_unassigned : offeredStore.Unassigned 1 where
  driver := rfl
  attempts := by
    intro d hd
    obtain ⟨a, ha, hstatus⟩ := Option.map_eq_some_iff.mp hd
    have hmem := Table.mem_of_find? ha
    simp only [offeredStore, List.mem_cons, List.not_mem_nil, or_false] at hmem
    rcases hmem with rfl | rfl
    · cases hstatus
    · cases hstatus

/-- Both drivers accept. -/
def bothAccept : List OfferCall := [.acceptTrip 1 11, .wsAccept 1 12]

end Assignment

open Assignment in
/-- Driver 1 accepts before driver 2 passes the check, and keeps the trip. -/
theorem trip_assigned_to_single_driver_first :
    ∃ p : Pool Store Cmd Error Unit, p.world.store.assignedDriver 1 = some 1 ∧
      ∀ q, Pool.Run (system Env.offline ()) (OneDriver bothAccept 1) (fun _ => False) p q →
        q.world.store.assignedDriver 1 = some 1 := by
  obtain ⟨p, hp, hdriver⟩ := Pool.exists_run_of_schedule? (system Env.offline ())
    (OneDriver bothAccept 1) (fun _ => False)
    (Pool.init offeredStore (bothAccept.map (·.program Env.offline)))
    ([1, 1, 1] ++ List.replicate 16 0) (fun p => p.world.store.assignedDriver 1 = some 1)
    (by decide +kernel)
  refine ⟨p, hdriver, fun q hq => ?_⟩
  exact (trip_assigned_to_single_driver Env.offline offeredStore 1 offeredStore_unassigned
    bothAccept _ hp hq).1 1 hdriver

open Assignment in
/-- Both drivers pass the check before either accepts: the trip goes from driver 1 to driver 2. -/
theorem trip_assigned_to_two_drivers :
    ∃ p q : Pool Store Cmd Error Unit,
      Pool.Run (system Env.offline ()) (fun _ _ _ => True) (fun _ => False)
        (Pool.init offeredStore (bothAccept.map (·.program Env.offline))) p ∧
      Pool.Run (system Env.offline ()) (fun _ _ _ => True) (fun _ => False) p q ∧
      p.world.store.assignedDriver 1 = some 1 ∧ q.world.store.assignedDriver 1 = some 2 ∧
      q.world.store.attemptStatus 1 1 = some .driverAccepted ∧
      q.world.store.attemptStatus 1 2 = some .driverAccepted ∧
      .tripAccepted 1 1 20 ∈ q.world.emitted ∧ .tripAccepted 1 2 20 ∈ q.world.emitted := by
  obtain ⟨p, hp, hfirst, hrest⟩ := Pool.exists_run_of_schedule? (system Env.offline ())
    (fun _ _ _ => True) (fun _ => False)
    (Pool.init offeredStore (bothAccept.map (·.program Env.offline)))
    (List.replicate 7 0 ++ List.replicate 7 1 ++ List.replicate 12 0 ++ List.replicate 8 2)
    (fun p => p.world.store.assignedDriver 1 = some 1 ∧
      ((p.schedule? (system Env.offline ()) (fun _ _ _ => True)
        (List.replicate 12 1 ++ List.replicate 8 3)).any fun q =>
          decide (q.world.store.assignedDriver 1 = some 2 ∧
            q.world.store.attemptStatus 1 1 = some .driverAccepted ∧
            q.world.store.attemptStatus 1 2 = some .driverAccepted ∧
            .tripAccepted 1 1 20 ∈ q.world.emitted ∧
            .tripAccepted 1 2 20 ∈ q.world.emitted)) = true) (by decide +kernel)
  obtain ⟨q, hq, hlast⟩ := Pool.exists_run_of_schedule? _ _ (fun _ => False) p _ _ hrest
  exact ⟨p, q, hp, hq, hfirst, hlast⟩

end Telima
