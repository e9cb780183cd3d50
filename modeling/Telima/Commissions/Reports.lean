import Telima.Async.Refinement
import Telima.Commissions.Service
import Telima.Trips.Writes

/-!
# The drivers' finances and the admin's

A driver is shown what his trips of the week and of the month have brought, and the admin what all
trips have.  The two services sum the trips each on its own.  The sums agree, because a completed
trip has a driver (`Trip.Complete`), that driver exists (the foreign key of `driverId`), and no two
drivers are of one user.
-/

namespace Telima

/-- The server's local time. -/
structure Calendar where
  /-- The Sunday on or before a moment, at midnight. -/
  startOfWeek : ℕ → ℤ
  /-- The first of the month, at midnight. -/
  startOfMonth : ℕ → ℤ

/-- The sums and the number of some trips. -/
structure TripAggregate where
  finalPrice : Decimal2
  commissionAmount : Decimal2
  count : ℕ
  deriving DecidableEq

/-- `prisma.trip.aggregate`; a column that is null counts nothing. -/
def Store.aggregateTrips (s : Store) (p : Trip → Bool) : TripAggregate where
  finalPrice := ((s.trips.findMany p).map fun trip => trip.finalPrice.getD 0).sum
  commissionAmount := ((s.trips.findMany p).map fun trip => trip.commissionAmount.getD 0).sum
  count := (s.trips.findMany p).length

/-- `status: 'completed'` -/
def Trip.isCompleted (trip : Trip) : Bool := decide (trip.status = .completed)

/-- `completedAt: { gte: start }` -/
def Trip.completedSince (start : ℤ) (trip : Trip) : Bool :=
  trip.isCompleted && trip.completedAt.any fun t => decide (start ≤ t)

namespace CommissionsService

/-- What the trips of a period have brought. -/
structure Period where
  tripsCount : ℕ
  earnings : ℚ
  commission : ℚ
  deriving DecidableEq

def Period.of (trips : TripAggregate) : Period where
  tripsCount := trips.count
  earnings := trips.finalPrice.toNumber
  commission := trips.commissionAmount.toNumber

structure DriverFinances where
  balance : ℚ
  commissionDue : ℚ
  week : Period
  month : Period
  deriving DecidableEq

/-- The driver's trips since `start`. -/
def isOwn (driverId : ℕ) (start : ℤ) (trip : Trip) : Bool :=
  trip.completedSince start && decide (trip.driverId = some driverId)

/-- `getDriverFinances` -/
def getDriverFinances (calendar : Calendar) (userId : ℕ) : Prog (Option DriverFinances) := do
  let driver ← Async.query (.findDriver userId) fun s =>
    s.drivers.findFirst fun d => decide (d.userId = userId)
  match driver with
  | none => pure none
  | some driver => do
    let now ← newDate
    let weekAgg ← Async.query .aggregate fun s =>
      s.aggregateTrips (isOwn driver.id (calendar.startOfWeek now))
    let monthAgg ← Async.query .aggregate fun s =>
      s.aggregateTrips (isOwn driver.id (calendar.startOfMonth now))
    pure (some
      { balance := driver.balance.toNumber
        commissionDue := driver.commissionDue.toNumber
        week := .of weekAgg
        month := .of monthAgg })

end CommissionsService

namespace AdminStatsController

structure Revenue where
  total : ℚ
  thisMonth : ℚ
  commissionTotal : ℚ
  commissionThisMonth : ℚ
  deriving DecidableEq

structure Commissions where
  collected : ℚ
  outstanding : ℚ
  deriving DecidableEq

structure Payments where
  count : ℕ
  succeeded : ℕ
  pending : ℕ
  failed : ℕ
  expired : ℕ
  succeededAmount : ℚ
  pendingAmount : ℚ
  deriving DecidableEq

/-- The whole answer of `getFinances`. -/
structure FinanceReport where
  revenue : Revenue
  commissions : Commissions
  payments : Payments
  deriving DecidableEq

/-- The payments of a status. -/
def paymentsOf (status : CommissionPaymentStatus) (s : Store) : List CommissionPayment :=
  s.payments.findMany fun payment => decide (payment.status = status)

/-- `_sum: { amount: true }` -/
def sumAmount (status : CommissionPaymentStatus) (s : Store) : Decimal2 :=
  ((paymentsOf status s).map CommissionPayment.amount).sum

/-- The queries of `getFinances`, and its answer. -/
def report (calendar : Calendar) : Prog FinanceReport := do
  let now ← newDate
  let revenue ← Async.query .aggregate fun s => s.aggregateTrips Trip.isCompleted
  let monthRevenue ← Async.query .aggregate fun s =>
    s.aggregateTrips (Trip.completedSince (calendar.startOfMonth now))
  let commissionPaid ← Async.query .aggregate (sumAmount .succeeded)
  let commissionPending ← Async.query .aggregate sumCommissionDue
  let paymentsCount ← Async.query .aggregate fun s => s.payments.rows.length
  let paymentsSucceeded ← Async.query .aggregate fun s => (paymentsOf .succeeded s).length
  let paymentsPending ← Async.query .aggregate fun s => (paymentsOf .pending s).length
  let paymentsFailed ← Async.query .aggregate fun s => (paymentsOf .failed s).length
  let paymentsExpired ← Async.query .aggregate fun s => (paymentsOf .expired s).length
  let paymentsSucceededAmount ← Async.query .aggregate (sumAmount .succeeded)
  let paymentsPendingAmount ← Async.query .aggregate (sumAmount .pending)
  pure
    { revenue :=
        { total := revenue.finalPrice.toNumber
          thisMonth := monthRevenue.finalPrice.toNumber
          commissionTotal := revenue.commissionAmount.toNumber
          commissionThisMonth := monthRevenue.commissionAmount.toNumber }
      commissions :=
        { collected := commissionPaid.toNumber
          outstanding := commissionPending.toNumber }
      payments :=
        { count := paymentsCount
          succeeded := paymentsSucceeded
          pending := paymentsPending
          failed := paymentsFailed
          expired := paymentsExpired
          succeededAmount := paymentsSucceededAmount.toNumber
          pendingAmount := paymentsPendingAmount.toNumber } }

end AdminStatsController

/-! ### The answers -/

namespace CommissionsService

variable {calendar : Calendar} {s : Store} {driver : Driver}

/-- What `getDriverFinances` answers the driver. -/
def financesOf (calendar : Calendar) (s : Store) (driver : Driver) : DriverFinances where
  balance := driver.balance.toNumber
  commissionDue := driver.commissionDue.toNumber
  week := .of (s.aggregateTrips (isOwn driver.id (calendar.startOfWeek s.now)))
  month := .of (s.aggregateTrips (isOwn driver.id (calendar.startOfMonth s.now)))

theorem result_getDriverFinances
    (hdriver : (s.drivers.findFirst fun d => decide (d.userId = driver.userId)) = some driver) :
    ((getDriverFinances calendar driver.userId).run Cmd.exec s).result =
      .ok (some (financesOf calendar s driver)) := by
  unfold getDriverFinances
  rw [Async.bind_eq, Async.run_query_bind, hdriver]
  rfl

end CommissionsService

namespace AdminStatsController

variable {calendar : Calendar} {s : Store}

/-- What `getFinances` answers the admin. -/
def reportOf (calendar : Calendar) (s : Store) : FinanceReport where
  revenue :=
    { total := (s.aggregateTrips Trip.isCompleted).finalPrice.toNumber
      thisMonth :=
        (s.aggregateTrips (Trip.completedSince (calendar.startOfMonth s.now))).finalPrice.toNumber
      commissionTotal := (s.aggregateTrips Trip.isCompleted).commissionAmount.toNumber
      commissionThisMonth :=
        (s.aggregateTrips
          (Trip.completedSince (calendar.startOfMonth s.now))).commissionAmount.toNumber }
  commissions :=
    { collected := (sumAmount .succeeded s).toNumber
      outstanding := (sumCommissionDue s).toNumber }
  payments :=
    { count := s.payments.rows.length
      succeeded := (paymentsOf .succeeded s).length
      pending := (paymentsOf .pending s).length
      failed := (paymentsOf .failed s).length
      expired := (paymentsOf .expired s).length
      succeededAmount := (sumAmount .succeeded s).toNumber
      pendingAmount := (sumAmount .pending s).toNumber }

theorem result_report : ((report calendar).run Cmd.exec s).result = .ok (reportOf calendar s) := rfl

/-- A sum over the rows that satisfy `p`. -/
theorem sum_findMany {κ α : Type} {key : α → κ} (t : Table κ α key) (p : α → Bool) (f : α → ℤ) :
    ((t.findMany p).map f).sum = t.sum fun x => if p x then f x else 0 := by
  unfold Table.findMany Table.sum
  induction t.rows with
  | nil => rfl
  | cons x xs ih =>
    by_cases hx : p x = true
    · rw [List.filter_cons_of_pos hx, List.map_cons, List.map_cons, List.sum_cons, List.sum_cons,
        ih, if_pos hx]
    · rw [List.filter_cons_of_neg hx, List.map_cons, List.sum_cons, ih, if_neg hx, zero_add]

/-- The parts about commissions are those of `getFinances`. -/
theorem result_getFinances : (getFinances.run Cmd.exec s).result =
    .ok { commissionTotal := (reportOf calendar s).revenue.commissionTotal
          collected := (reportOf calendar s).commissions.collected
          outstanding := (reportOf calendar s).commissions.outstanding } := by
  have hrevenue : (s.aggregateTrips Trip.isCompleted).commissionAmount = sumCommissionAmount s := by
    simp [Store.aggregateTrips, sumCommissionAmount, sum_findMany, Trip.isCompleted]
  have hpaid : sumAmount .succeeded s = sumSucceededAmount s := by
    simp [sumAmount, paymentsOf, sumSucceededAmount, sum_findMany]
  unfold reportOf
  rw [hrevenue, hpaid]
  rfl

/-- Every payment is counted under its status. -/
theorem length_payments : s.payments.rows.length = (paymentsOf .succeeded s).length +
    (paymentsOf .pending s).length + (paymentsOf .failed s).length +
    (paymentsOf .expired s).length := by
  unfold paymentsOf Table.findMany
  induction s.payments.rows with
  | nil => rfl
  | cons payment payments ih =>
    cases hstatus : payment.status <;> simp [hstatus, ih] <;> omega

end AdminStatsController

namespace Reports

open CommissionsService AdminStatsController

/-! ### The sums -/

theorem toNumber_sum (amounts : List Decimal2) :
    Decimal2.toNumber amounts.sum = (amounts.map Decimal2.toNumber).sum := by
  induction amounts with
  | nil => simp [Decimal2.toNumber]
  | cons amount amounts ih =>
    rw [List.sum_cons, Decimal2.toNumber_add, ih, List.map_cons, List.sum_cons]

/-- No driver is missing, and no two are of one user. -/
structure Sound (s : Store) : Prop where
  driver : ∀ trip ∈ s.trips.rows, trip.isCompleted = true →
    ∃ driver ∈ s.drivers.rows, trip.driverId = some driver.id
  user : ∀ driver ∈ s.drivers.rows, ∀ driver' ∈ s.drivers.rows, driver.userId = driver'.userId →
    driver = driver'

section Sums

variable {calendar : Calendar} {s : Store}

/-- Of the trips since `start`, those of a driver. -/
theorem findMany_isOwn (start : ℤ) (driverId : ℕ) : s.trips.findMany (isOwn driverId start) =
    (s.trips.findMany (Trip.completedSince start)).filter fun trip =>
      decide (trip.driverId = some driverId) := by
  unfold Table.findMany
  rw [List.filter_filter]
  refine List.filter_congr fun trip _ => ?_
  rw [isOwn, Bool.and_comm]

/-- The drivers' trips since `start` are all trips since `start`. -/
theorem Sound.sum_drivers (h : Sound s) (start : ℤ) (f : Trip → Decimal2) :
    (s.drivers.rows.map fun driver =>
      ((s.trips.findMany (isOwn driver.id start)).map f).sum).sum =
    ((s.trips.findMany (Trip.completedSince start)).map f).sum := by
  have hdriver : ∀ trip ∈ s.trips.findMany (Trip.completedSince start),
      ∃ driver ∈ s.drivers.rows, trip.driverId = some driver.id := by
    intro trip htrip
    obtain ⟨hmem, hsince⟩ := List.mem_filter.mp htrip
    exact h.driver trip hmem (Bool.and_eq_true_iff.mp hsince).1
  rw [← Table.sum_fibers hdriver f]
  simp only [findMany_isOwn]

end Sums

/-! ### The protocol -/

/-- The users of the drivers. -/
def users (s : Store) : List (ℕ × ℕ) := s.drivers.rows.map fun driver => (driver.id, driver.userId)

/-- No command adds or removes a driver, or changes his user. -/
theorem users_exec (c : Cmd) (s : Store) : users (c.exec s) = users s := by
  have hupdate : ∀ (driverId : ℕ) (f : Driver → Driver) (hf : ∀ driver, (f driver).id = driver.id),
      (∀ driver, (f driver).userId = driver.userId) →
        (s.drivers.update driverId f hf).rows.map (fun driver => (driver.id, driver.userId)) =
          users s := by
    intro driverId f hf huser
    unfold users Table.update Table.updateMany
    rw [List.map_map]
    refine List.map_congr_left fun driver _ => ?_
    rw [Function.comp_apply]
    split_ifs
    · rw [hf, huser]
    · rfl
  cases c with
  | decrementCommissionDue driverId amount =>
    exact hupdate driverId _ (Driver.id_decrementDue amount) fun _ => rfl
  | chargeCommission tripId driverId commissionAmount finalPrice =>
    simp only [Cmd.exec, users]
    split_ifs
    · exact hupdate driverId _ (Driver.id_charge commissionAmount finalPrice) fun _ => rfl
    · rfl
  | _ => rfl

/-- The database knows the driver of every trip: the foreign key of `driverId`. -/
def Referenced (_ : ℕ) (w : World Store Cmd) (c : Cmd) : Prop :=
  ∀ trip ∈ (c.exec w.store).trips.rows, ∀ driverId ∈ trip.driverId,
    ∃ driver ∈ w.store.drivers.rows, driver.id = driverId

instance (i : ℕ) (w : World Store Cmd) (c : Cmd) : Decidable (Referenced i w c) := by
  unfold Referenced
  infer_instance

/-- The drivers are those of `s`, and every driver of a trip is one of them. -/
structure Known (s : Store) (w : World Store Cmd) : Prop where
  users : users w.store = users s
  driver : ∀ tripId trip, w.store.trips.find? tripId = some trip → ∀ driverId,
    trip.driverId = some driverId → ∃ driver ∈ s.drivers.rows, driver.id = driverId

variable {s : Store} {env : Env} {fault : Error → Prop}

/-- A driver of either store is one of the other. -/
theorem exists_driver {t t' : Store} (h : users t = users t') {driver : Driver}
    (hdriver : driver ∈ t.drivers.rows) :
    ∃ driver' ∈ t'.drivers.rows, driver'.id = driver.id ∧ driver'.userId = driver.userId := by
  have hmem : (driver.id, driver.userId) ∈ users t' := by
    rw [← h]
    exact List.mem_map_of_mem hdriver
  obtain ⟨driver', hdriver', heq⟩ := List.mem_map.mp hmem
  exact ⟨driver', hdriver', congrArg Prod.fst heq, congrArg Prod.snd heq⟩

theorem Known.step {w : World Store Cmd} {c : Cmd} {i n : ℕ} (h : Known s w)
    (hreferenced : Referenced i w c) : Known s (w.step (system env ()) i c n) where
  users := by
    rw [World.store_step, system_exec, users_exec]
    exact h.users
  driver := by
    intro tripId trip htrip driverId hdriver
    rw [World.store_step] at htrip
    obtain ⟨driver, hmem, hid⟩ := hreferenced trip (Table.mem_of_find? htrip) driverId hdriver
    obtain ⟨driver', hmem', hid', -⟩ := exists_driver h.users hmem
    exact ⟨driver', hmem', hid'.trans hid⟩

/-- Over the columns of a trip, the driver it refers to. -/
def layer (s : Store) (env : Env) (fault : Error → Prop) :
    (Completeness.protocol env fault).Layer where
  cond := Referenced
  inv := Known s
  guar _ _ _ := True
  cond_of_cond _ := trivial
  inv_step _ hknown hreferenced _ _ := hknown.step hreferenced

/-- Every trip is complete, and refers to a driver. -/
def protocol (s : Store) (env : Env) (fault : Error → Prop) : Protocol (system env ()) :=
  (Completeness.protocol env fault).add (layer s env fault)

theorem refines : (protocol s env fault).Refines (Completeness.protocol env fault) :=
  Protocol.refines_add (layer s env fault)

theorem safe_init (pricing : PricingEnv) (hs : s.Complete) (hknown : Known s ⟨s, []⟩)
    (calls : List LifecycleCall) : (protocol s env fault).Safe (fun _ _ _ => True)
      (Pool.init s (calls.map (·.program env pricing))) := by
  refine Protocol.safe_init ⟨hs, hknown⟩ fun i t ht => ?_
  obtain ⟨call, -, rfl⟩ := List.mem_map.mp (List.mem_of_getElem? ht)
  exact refines.wp (Async.only_true _) (fun _ _ _ hguar => ⟨hguar, trivial⟩)
    (Completeness.wp_program pricing call)

theorem handlersKeep : (protocol s env fault).HandlersKeep fun _ _ _ => True :=
  refines.handlersKeep Completeness.handlersKeep (fun _ p _ => Async.only_true p)
    fun _ _ _ hguar => ⟨hguar, trivial⟩

theorem Known.sound {w : World Store Cmd} (h : Known s w) (hcomplete : w.store.Complete)
    (huser : ∀ driver ∈ s.drivers.rows, ∀ driver' ∈ s.drivers.rows,
      driver.userId = driver'.userId → driver = driver') : Sound w.store where
  driver := by
    intro trip htrip hcompleted
    have hrow : w.store.trips.find? trip.id = some trip := Table.find?_of_mem htrip
    have hstatus : trip.status = .completed := of_decide_eq_true hcompleted
    obtain ⟨driverId, hdriver⟩ := Option.isSome_iff_exists.mp
      ((hcomplete trip.id trip hrow).accepted (by simp [hstatus])).1
    obtain ⟨driver, hmem, rfl⟩ := h.driver trip.id trip hrow driverId hdriver
    obtain ⟨driver', hmem', hid, -⟩ := exists_driver h.users.symm hmem
    exact ⟨driver', hmem', by rw [hid, hdriver]⟩
  user := by
    intro driver hdriver driver' hdriver' hsame
    obtain ⟨row, hrow, hid, huserId⟩ := exists_driver h.users hdriver
    obtain ⟨row', hrow', hid', huserId'⟩ := exists_driver h.users hdriver'
    have heq : row = row' := huser row hrow row' hrow' (by rw [huserId, huserId', hsame])
    exact Table.eq_of_mem_of_key_eq hdriver hdriver' (by rw [← hid, ← hid', heq])

end Reports

open CommissionsService AdminStatsController Reports in
/-- In every run, whatever fails, what the drivers are shown of the month adds up to what the admin
is shown, and what they owe to what is outstanding. -/
theorem reports_agree (env : Env) (pricing : PricingEnv) (calendar : Calendar) (s : Store)
    (hs : ∀ trip ∈ s.trips.rows, trip.Complete)
    (hdriver : ∀ trip ∈ s.trips.rows, ∀ driverId, trip.driverId = some driverId →
      ∃ driver ∈ s.drivers.rows, driver.id = driverId)
    (huser : ∀ driver ∈ s.drivers.rows, ∀ driver' ∈ s.drivers.rows,
      driver.userId = driver'.userId → driver = driver')
    (calls : List LifecycleCall) (fault : Error → Prop) {p : Pool Store Cmd Error Unit}
    (hp : Pool.Run (system env ()) Referenced fault
      (Pool.init s (calls.map (·.program env pricing))) p) :
    ∃ admin, ((report calendar).run Cmd.exec p.world.store).result = .ok admin ∧
      ∃ own : Driver → DriverFinances,
        (∀ driver ∈ p.world.store.drivers.rows,
          ((getDriverFinances calendar driver.userId).run Cmd.exec p.world.store).result =
            .ok (some (own driver))) ∧
        admin.revenue.thisMonth =
          (p.world.store.drivers.rows.map fun driver => (own driver).month.earnings).sum ∧
        admin.revenue.commissionThisMonth =
          (p.world.store.drivers.rows.map fun driver => (own driver).month.commission).sum ∧
        admin.commissions.outstanding =
          (p.world.store.drivers.rows.map fun driver => (own driver).commissionDue).sum ∧
        admin.payments.count = admin.payments.succeeded + admin.payments.pending +
          admin.payments.failed + admin.payments.expired := by
  have hknown : Known s ⟨s, []⟩ := by
    refine ⟨rfl, fun tripId trip htrip => hdriver trip (Table.mem_of_find? htrip)⟩
  have hsafe := (safe_init pricing (Store.complete_iff.mpr hs) hknown calls).run
    (fun i _ => Protocol.stable_const i True) handlersKeep hp
  have hsound : Sound p.world.store := hsafe.inv.2.sound hsafe.inv.1 huser
  refine ⟨reportOf calendar p.world.store, result_report, financesOf calendar p.world.store, ?_, ?_,
    ?_, ?_, length_payments⟩
  · intro driver hmem
    apply result_getDriverFinances
    cases hfound : p.world.store.drivers.findFirst fun d => decide (d.userId = driver.userId) with
    | none =>
      have hnone := List.find?_eq_none.mp hfound driver hmem
      simp at hnone
    | some driver' =>
      have hsame : driver'.userId = driver.userId := by simpa using List.find?_some hfound
      rw [hsound.user driver' (List.mem_of_find?_eq_some hfound) driver hmem hsame]
  · simp only [reportOf, Store.aggregateTrips, financesOf, Period.of, ← hsound.sum_drivers,
      toNumber_sum, List.map_map, Function.comp_def]
  · simp only [reportOf, Store.aggregateTrips, financesOf, Period.of, ← hsound.sum_drivers,
      toNumber_sum, List.map_map, Function.comp_def]
  · simp only [reportOf, sumCommissionDue, Table.sum, financesOf, toNumber_sum, List.map_map,
      Function.comp_def]

namespace Reports

open Completeness

/-- Sunday is 1970-01-04 and the first is 1970-01-01. -/
def january : Calendar where
  startOfWeek _ := 259200000
  startOfMonth _ := 0

/-- Driver 1 carries client 20. -/
def carried : Trip :=
  { id := 1, clientId := 20, driverId := some 1, vehicleTypeId := 1, serviceType := .ride
    status := .inProgress, pickupLocation := ⟨0, 0⟩, dropoffLocation := ⟨0, 0⟩
    estimatedPrice := some 300000, acceptedAt := some 0, driverArrivedAt := some 0
    startedAt := some 0, createdAt := 0, updatedAt := 0 }

/-- A driver has carried client 20. -/
def delivered (id driverId : ℕ) (price : Decimal2) (t : ℕ) : Trip :=
  { carried with
    id, driverId := some driverId, status := .completed, estimatedPrice := some price
    finalPrice := some price, commissionAmount := some (price / 10), completedAt := some t }

/-- On 1970-01-06, driver 1 (user 10) has carried the client on the second, and driver 2 on the
fifth. -/
def busyStore : Store where
  drivers := (Table.single ⟨1, 10, 180000, 20000⟩).insert ⟨2, 11, 90000, 10000⟩
  vehicleTypes := .single ⟨1, 1000⟩
  trips :=
    ((Table.single carried).insert (delivered 2 1 200000 90000000)).insert
      (delivered 3 2 100000 400000000)
  now := 432000000

theorem busyStore_complete : ∀ trip ∈ busyStore.trips.rows, trip.Complete := by
  have hrows : busyStore.trips.rows =
      [carried, delivered 2 1 200000 90000000, delivered 3 2 100000 400000000] := by decide +kernel
  have hcarried : carried.Complete := by constructor <;> decide
  have hdelivered : ∀ id driverId price t, (delivered id driverId price t).Complete := by
    intro id driverId price t
    constructor <;> simp [delivered, carried]
  intro trip htrip
  rw [hrows] at htrip
  rcases List.mem_cons.mp htrip with rfl | htrip
  · exact hcarried
  · rcases List.mem_pair.mp htrip with rfl | rfl
    · exact hdelivered _ _ _ _
    · exact hdelivered _ _ _ _

end Reports

open CommissionsService AdminStatsController Completeness Reports in
/-- When driver 1 has completed the trip and is charged, the admin's month is both drivers'. -/
theorem reports_agree_busy : ∃ p : Pool Store Cmd Error Unit,
    ((report january).run Cmd.exec p.world.store).result.map FinanceReport.revenue =
      .ok ⟨6000, 6000, 600, 600⟩ ∧
    ∃ own : Driver → DriverFinances,
      (∀ driver ∈ p.world.store.drivers.rows,
        ((getDriverFinances january driver.userId).run Cmd.exec p.world.store).result =
          .ok (some (own driver))) ∧
      6000 = (p.world.store.drivers.rows.map fun driver => (own driver).month.earnings).sum ∧
      600 = (p.world.store.drivers.rows.map fun driver => (own driver).month.commission).sum := by
  obtain ⟨p, hp, hrevenue⟩ := Pool.exists_run_of_schedule? (system Env.offline ()) Referenced
    (fun _ => False)
    (Pool.init busyStore ([LifecycleCall.trip (.completeTrip 1 10 .driver ⟨3000⟩)].map
      (·.program Env.offline flatPricing)))
    [0, 0, 0, 0, 0, 0, 0, 0, 0, 0, 0, 0, 1, 1]
    (fun p => (reportOf january p.world.store).revenue = ⟨6000, 6000, 600, 600⟩) (by decide +kernel)
  obtain ⟨admin, hadmin, own, hown, hearnings, hcommission, -⟩ := reports_agree Env.offline
    flatPricing january busyStore busyStore_complete (by decide +kernel) (by decide +kernel)
    [.trip (.completeTrip 1 10 .driver ⟨3000⟩)] _ hp
  obtain rfl : reportOf january p.world.store = admin :=
    Except.ok.inj (result_report.symm.trans hadmin)
  rw [hrevenue] at hearnings hcommission
  refine ⟨p, ?_, own, hown, hearnings, hcommission⟩
  rw [hadmin, Except.map, hrevenue]

end Telima
