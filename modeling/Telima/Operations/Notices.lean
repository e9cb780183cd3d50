import Telima.Operations.Server
import Telima.Trips.Runs

/-!
# The notice of an automatic cancellation

The handler of `DispatchFailed` cancels the trip if it is still pending, and tells the trip's room of the
cancellation in any case: the count of `updateStatusIfPending` is thrown away.  A client who has cancelled
the trip, or whose trip a driver has accepted, is told that it was cancelled automatically.  When no other
call has changed the status of the trip before the handler writes it, the handler tells of a cancellation
it has made (`cancellations_told`).
-/

namespace Telima

open TripsService

/-- The entry records a change of the trip's status; the creation of a trip is none. -/
def changesStatus (tripId : ℕ) (e : Event Store Cmd) : Bool :=
  match e.kind with
  | .did c => (e.before.tripStatus tripId).isSome &&
      decide ((c.exec e.before).tripStatus tripId ≠ e.before.tripStatus tripId)
  | .spawned _ => false

/-- The entry records that the trip, which was pending, is cancelled automatically. -/
def cancelsAuto (tripId : ℕ) (e : Event Store Cmd) : Bool :=
  match e.kind with
  | .did c => decide (e.before.tripStatus tripId = some .pending) &&
      decide ((c.exec e.before).tripStatus tripId = some .cancelledAuto)
  | .spawned _ => false

/-- The trip whose room is told that it was cancelled. -/
def EventKind.notice? : EventKind Cmd → Option ℕ
  | .did (.broadcast (.trip tripId) _ (.cancellation _ _)) => some tripId
  | _ => none

/-- The entry records the start of a handler of `DispatchFailed`. -/
def EventKind.startsHandler : EventKind Cmd → Bool
  | .spawned (.emit (.dispatchFailed _ _)) => true
  | _ => false

/-- Thread `i` is a handler of `DispatchFailed`. -/
def World.HandlesFailure (w : World Store Cmd) (i : ℕ) : Prop :=
  ∃ e ∈ w.trace, e.tid = i ∧ e.kind.startsHandler = true

/-- A handler of `DispatchFailed` that has told a trip's room of a cancellation had cancelled the trip
before. -/
def CancellationsTold (w : World Store Cmd) : Prop :=
  ∀ e older, e :: older <:+ w.trace → ∀ tripId, e.kind.notice? = some tripId →
    w.HandlesFailure e.tid → ∃ e' ∈ older, e'.tid = e.tid ∧ cancelsAuto tripId e' = true

/-- The trip was pending at the beginning or was created since, and nobody has changed its status. -/
structure Untouched (s : Store) (w : World Store Cmd) (tripId : ℕ) : Prop where
  start : s.tripStatus tripId = none ∨ s.tripStatus tripId = some .pending
  exists_now : (w.store.tripStatus tripId).isSome = true
  unchanged : ∀ e ∈ w.trace, changesStatus tripId e = false

/-- No accept, no cancellation and no other failure of the dispatch has changed the status of a trip that
a handler of `DispatchFailed` is about to cancel. -/
def Unforestalled (s : Store) (_ : ℕ) (w : World Store Cmd) : Cmd → Prop
  | .updateTripIfPending tripId _ => Untouched s w tripId
  | _ => True

namespace Notices

variable {env : Env} {fault : Error → Prop} {s : Store} {i j n tripId : ℕ} {w : World Store Cmd}
  {c : Cmd}

/-! ### Trips nobody has touched -/

/-- A trip that is created is pending. -/
theorem tripStatus_exec_of_none {s : Store} {status : TripStatus} (hs : s.tripStatus tripId = none)
    (h : (c.exec s).tripStatus tripId = some status) : status = .pending := by
  have hnone : s.trips.find? tripId = none := Option.map_eq_none_iff.mp hs
  cases c with
  | insertTrip data =>
    rw [Store.tripStatus, Store.find?_insertTrip, hnone, Option.none_or] at h
    split_ifs at h
    · exact (Option.some.inj h).symm
    · cases h
  | updateTrip id data =>
    rw [Store.tripStatus, Store.find?_updateTrip, hnone] at h
    cases h
  | updateTripIfPending id data =>
    rw [Store.tripStatus, Store.find?_updateTripIfPending, hnone] at h
    cases h
  | chargeCommission id driverId commissionAmount finalPrice =>
    rw [Store.tripStatus, Store.find?_chargeCommission, hnone] at h
    cases h
  | _ =>
    have hkept : s.tripStatus tripId = some status := h
    rw [hs] at hkept
    cases hkept

/-- A trip nobody has touched is pending. -/
def UntouchedPending (s : Store) (w : World Store Cmd) : Prop :=
  ∀ tripId, Untouched s w tripId → w.store.tripStatus tripId = some .pending

theorem UntouchedPending.step (h : UntouchedPending s w) :
    UntouchedPending s (w.step (system env ()) i c n) := by
  intro tripId huntouched
  have hnow := huntouched.exists_now
  have hlast : changesStatus tripId ⟨i, .did c, w.store⟩ = false :=
    huntouched.unchanged _ World.did_mem_trace_step
  rw [World.store_step, system_exec] at hnow ⊢
  obtain ⟨status, hstatus⟩ := Option.isSome_iff_exists.mp hnow
  cases hbefore : w.store.tripStatus tripId with
  | none =>
    rw [hstatus, tripStatus_exec_of_none hbefore hstatus]
  | some current =>
    have hbefore' : Untouched s w tripId := by
      refine ⟨huntouched.start, ?_, fun e he => ?_⟩
      · rw [hbefore]
        rfl
      · exact huntouched.unchanged e (World.trace_step_suffix.subset he)
    have hpending := h tripId hbefore'
    have hlast' : ((w.store.tripStatus tripId).isSome &&
        decide ((c.exec w.store).tripStatus tripId ≠ w.store.tripStatus tripId)) = false := hlast
    have hsame : (c.exec w.store).tripStatus tripId = w.store.tripStatus tripId := by
      simpa [hbefore] using hlast'
    rw [hsame, hpending]

/-! ### The notices -/

/-- Thread `i` has cancelled the trip. -/
def Cancelled (i tripId : ℕ) (w : World Store Cmd) : Prop :=
  ∃ e ∈ w.trace, e.tid = i ∧ cancelsAuto tripId e = true

theorem Cancelled.step (h : Cancelled i tripId w) :
    Cancelled i tripId (w.step (system env ()) j c n) := by
  obtain ⟨e, he, hrest⟩ := h
  exact ⟨e, World.trace_step_suffix.subset he, hrest⟩

/-- A handler of `DispatchFailed` that tells of a cancellation has made it. -/
def Guards (i : ℕ) (w : World Store Cmd) (c : Cmd) : Prop :=
  ∀ tripId, (EventKind.did c).notice? = some tripId → w.HandlesFailure i → Cancelled i tripId w

theorem handlesFailure_iff : w.HandlesFailure i ↔
    ∃ tripId reason, w.Started i (.emit (.dispatchFailed tripId reason)) := by
  constructor
  · rintro ⟨e, he, htid, hkind⟩
    unfold EventKind.startsHandler at hkind
    split at hkind
    · rename_i tripId reason heq
      exact ⟨tripId, reason, e, he, htid, heq⟩
    · cases hkind
  · rintro ⟨tripId, reason, e, he, htid, hkind⟩
    refine ⟨e, he, htid, ?_⟩
    rw [hkind]
    rfl

theorem handlesFailure_step (hi : i < n) :
    (w.step (system env ()) j c n).HandlesFailure i ↔ w.HandlesFailure i := by
  simp only [handlesFailure_iff, World.started_step_of_lt hi]

/-- Entries that only start threads tell nothing. -/
theorem suffix_spawnMany {e : Event Store Cmd} {older : List (Event Store Cmd)} {k : ℕ}
    (hkind : e.kind.notice? = some tripId) (h : e :: older <:+ (w.spawnMany n c k).trace) :
    e :: older <:+ w.trace := by
  induction k with
  | zero => exact h
  | succ k ih =>
    rcases List.suffix_cons_iff.mp h with heq | hsuffix
    · obtain ⟨rfl, -⟩ := List.cons.inj heq
      cases hkind
    · exact ih hsuffix

theorem told_step (h : CancellationsTold w) (hguard : Guards i w c) (hi : i < n) (hfresh : w.Fresh n) :
    CancellationsTold (w.step (system env ()) i c n) := by
  intro e older hsuffix tripId hkind hhandles
  have hact := suffix_spawnMany hkind hsuffix
  rcases List.suffix_cons_iff.mp hact with heq | hold
  · obtain ⟨rfl, rfl⟩ := List.cons.inj heq
    exact hguard tripId hkind ((handlesFailure_step hi).mp hhandles)
  · have hlt : e.tid < n := hfresh e (hold.subset List.mem_cons_self)
    exact h e older hold tripId hkind ((handlesFailure_step hlt).mp hhandles)

/-- The rules of the runs. -/
def protocol (env : Env) (fault : Error → Prop) (s : Store) : Protocol (system env ()) where
  cond := Unforestalled s
  fault := fault
  inv w := UntouchedPending s w ∧ CancellationsTold w
  guar := Guards
  inv_step hinv _ hguar hi hfresh := ⟨hinv.1.step, told_step hinv.2 hguar hi hfresh⟩

/-! ### The threads -/

/-- A thread that handles no failure may tell what it likes. -/
theorem frame_other : (protocol env fault s).Frame i (fun _ => True)
    fun w => ¬ w.HandlesFailure i where
  stable := by
    rintro w _ ⟨j, c, n, -, hi, -, -, -, -, -, rfl⟩ h
    rwa [handlesFailure_step hi]
  performs := by
    intro c w _ hw _ _
    refine ⟨?_, fun n hi _ => ?_⟩
    · exact fun tripId _ hhandles => absurd hhandles hw
    · show ¬ (w.step (system env ()) i c n).HandlesFailure i
      rwa [handlesFailure_step hi]

/-- The command tells of no cancellation, but of that of the trip. -/
def TellsOf (tripId : ℕ) (c : Cmd) : Prop :=
  ∀ id, (EventKind.did c).notice? = some id → id = tripId

theorem frame_cancelled : (protocol env fault s).Frame i (TellsOf tripId) (Cancelled i tripId) where
  stable := by
    rintro w _ ⟨j, c, n, -, -, -, -, -, -, -, rfl⟩ h
    exact h.step
  performs := by
    intro c w hc hw _ _
    refine ⟨?_, fun n _ _ => hw.step⟩
    intro id hnotice _
    rw [hc id hnotice]
    exact hw

theorem frame_true : (protocol env fault s).Frame i (fun c => (EventKind.did c).notice? = none) fun _ => True where
  stable := Protocol.stable_const i True
  performs := by
    intro c w hc _ _ _
    refine ⟨fun tripId hnotice => ?_, fun _ _ _ => trivial⟩
    rw [hc] at hnotice
    cases hnotice

/-- The trip is pending when the handler cancels it. -/
theorem cancelled_of_untouched {data : TripData} (hinv : UntouchedPending s w)
    (huntouched : Untouched s w tripId) (hdata : data.status = some .cancelledAuto) :
    Cancelled i tripId (w.step (system env ()) i (.updateTripIfPending tripId data) n) := by
  have hpending := hinv tripId huntouched
  obtain ⟨trip, htrip, hstatus⟩ := Option.map_eq_some_iff.mp hpending
  refine ⟨_, World.did_mem_trace_step, rfl, ?_⟩
  have hrow : (decide (trip.id = tripId) && decide (trip.status = .pending)) = true := by
    rw [Table.key_of_find? htrip, hstatus]
    simp
  have hafter : ((Cmd.updateTripIfPending tripId data).exec w.store).tripStatus tripId =
      some .cancelledAuto := by
    rw [Store.tripStatus, Store.find?_updateTripIfPending, htrip, Option.map_some, if_pos hrow]
    show some (data.status.getD trip.status) = _
    rw [hdata]
    rfl
  show (decide (w.store.tripStatus tripId = some .pending) && decide
    (((Cmd.updateTripIfPending tripId data).exec w.store).tripStatus tripId = some .cancelledAuto)) = true
  rw [hpending, hafter]
  rfl

theorem wp_handleDispatchFailed (reason : String) : (protocol env fault s).wp i
    (handleDispatchFailed tripId reason) (fun _ _ => True) w := by
  have hreads : (TripRepository.findById tripId).Only (TellsOf tripId) :=
    only_findById (fun _ h => by cases h) fun _ h => by cases h
  rw [handleDispatchFailed, Async.bind_eq, TripRepository.updateStatusIfPending, Async.bind_eq,
    Async.bind_assoc]
  refine Protocol.wp_read_bind frame_true.stable trivial fun v _ _ _ =>
    ⟨(fun _ h => by cases h), fun n _ _ => ?_⟩
  refine Protocol.wp_query_bind frame_true.stable trivial (fun v _ hinv huntouched => ?_)
    fun _ _ _ _ _ => trivial
  refine ⟨(fun _ h => by cases h), fun n _ _ => ?_⟩
  refine Protocol.wp_mono (fun _ _ _ => trivial)
    (frame_cancelled.wp (hreads.bind fun trip => ?_)
      (cancelled_of_untouched hinv.1 huntouched ?_))
  · split
    · exact Async.only_emit.mpr fun id h => (Option.some.inj h).symm
    · trivial
  · rfl

theorem wp_other {p : Prog Unit} (h : ¬ w.HandlesFailure i) :
    (protocol env fault s).wp i p (fun _ _ => True) w :=
  Protocol.wp_mono (fun _ _ _ => trivial) (frame_other.wp p.only_true h)

theorem handlersKeep : (protocol env fault s).HandlersKeep fun _ _ _ => True := by
  intro c k h hk j n w _ _ _ hj hfresh
  cases c with
  | emit event =>
    obtain ⟨handler, hmem, rfl⟩ := List.mem_map.mp (List.mem_of_getElem? hk)
    by_cases hfailed : ∃ tripId reason, event = .dispatchFailed tripId reason
    · obtain ⟨tripId, reason, rfl⟩ := hfailed
      obtain rfl := List.mem_singleton.mp hmem
      exact Protocol.wp_as (wp_handleDispatchFailed reason)
    · -- a thread that starts now is started by this event alone
      refine Protocol.wp_as (wp_other ?_)
      intro hhandles
      obtain ⟨tripId, reason, hstarted⟩ := handlesFailure_iff.mp hhandles
      rcases World.started_step.mp hstarted with ⟨-, -, heq⟩ | ⟨e, he, htid, -⟩
      · exact hfailed ⟨tripId, reason, Cmd.emit.inj heq⟩
      · have hlt := hfresh e he
        omega
  | _ => simp [handlers] at hk

end Notices

open Notices in
/-- In every interleaving in which no call has changed the status of a trip before a handler of
`DispatchFailed` writes it, a handler that tells of an automatic cancellation is the one that has made
it. -/
theorem cancellations_told (env : Env) (pricing : PricingEnv) (s : Store) (ops : List Operation)
    (fault : Error → Prop) {p : Pool Store Cmd Error Unit}
    (hp : Pool.Run (system env ()) (Unforestalled s) fault
      (Pool.init s (ops.map (·.program env pricing))) p) : CancellationsTold p.world := by
  have hinv : UntouchedPending s ⟨s, []⟩ ∧ CancellationsTold ⟨s, []⟩ := by
    refine ⟨fun tripId h => ?_, fun e older hsuffix => ?_⟩
    · rcases h.start with hnone | hpending
      · have hnow : (s.tripStatus tripId).isSome = true := h.exists_now
        rw [hnone] at hnow
        cases hnow
      · exact hpending
    · have hnil := List.suffix_nil.mp hsuffix
      cases hnil
  have hstart : (protocol env fault s).Safe (fun _ _ _ => True)
      (Pool.init s (ops.map (·.program env pricing))) := by
    refine Protocol.safe_init hinv fun i t _ => wp_other ?_
    rintro ⟨e, he, -⟩
    cases he
  exact (hstart.run (fun i _ => Protocol.stable_const i True) handlersKeep hp).inv.2

/-! ### In the town -/

instance (s : Store) (w : World Store Cmd) (tripId : ℕ) : Decidable (Untouched s w tripId) :=
  decidable_of_iff ((s.tripStatus tripId = none ∨ s.tripStatus tripId = some .pending) ∧
      (w.store.tripStatus tripId).isSome = true ∧ ∀ e ∈ w.trace, changesStatus tripId e = false)
    ⟨fun h => ⟨h.1, h.2.1, h.2.2⟩, fun h => ⟨h.start, h.exists_now, h.unchanged⟩⟩

instance (s : Store) (i : ℕ) (w : World Store Cmd) (c : Cmd) : Decidable (Unforestalled s i w c) := by
  induction c using Cmd.casesOn with
  | updateTripIfPending tripId _ => exact inferInstanceAs (Decidable (Untouched s w tripId))
  | _ => exact inferInstanceAs (Decidable True)

/-- Nobody drives at the place client 21 orders a trip to: the trip is cancelled, and the client is
told. -/
theorem cancellations_told_town : ∃ p : Pool Store Cmd Error Unit,
    (∃ e ∈ p.world.trace, e.kind.notice? = some 1) ∧ CancellationsTold p.world := by
  obtain ⟨p, hp, hnotice⟩ := Pool.exists_run_of_schedule? (system .town ()) (Unforestalled .town)
    (fun _ => False) (Pool.init .town ([Operation.order 5 6].map (·.program .town .town)))
    (List.replicate 6 0 ++ List.replicate 6 1 ++ List.replicate 5 2)
    (fun p => ∃ e ∈ p.world.trace, e.kind.notice? = some 1) (by decide +kernel)
  exact ⟨p, hnotice, cancellations_told .town .town .town [.order 5 6] _ hp⟩

/-- The client cancels the trip before the handler writes it, and is told nevertheless. -/
theorem cancellations_told_after_client : ∃ p, Pool.Run (system .town ()) (fun _ _ _ => True)
      (fun _ => False) (Pool.init .town (([.order 5 6,
        .updateStatus 1 21 .client { status := .cancelledByClient }] : List Operation).map
          (·.program .town .town))) p ∧ ¬ CancellationsTold p.world := by
  obtain ⟨p, hp, hlast⟩ := Pool.exists_run_of_schedule? (system .town ()) (fun _ _ _ => True)
    (fun _ => False) (Pool.init .town (([.order 5 6,
      .updateStatus 1 21 .client { status := .cancelledByClient }] : List Operation).map
        (·.program .town .town)))
    (List.replicate 6 0 ++ List.replicate 6 2 ++ List.replicate 13 1 ++ List.replicate 5 3)
    (fun p => ∃ e ∈ p.world.trace.head?, e.kind.notice? = some 1 ∧
      (∃ e' ∈ p.world.trace, e'.tid = e.tid ∧ e'.kind.startsHandler = true) ∧
      ∀ e' ∈ p.world.trace.tail, e'.tid = e.tid → cancelsAuto 1 e' = false) (by decide +kernel)
  refine ⟨p, hp, fun htold => ?_⟩
  obtain ⟨e, hhead, hnotice, hhandles, hnever⟩ := hlast
  have hsuffix : e :: p.world.trace.tail <:+ p.world.trace := by
    rw [List.cons_head?_tail hhead]
  obtain ⟨e', he', htid, hcancels⟩ := htold e _ hsuffix 1 hnotice hhandles
  rw [hnever e' he' htid] at hcancels
  cases hcancels

end Telima
