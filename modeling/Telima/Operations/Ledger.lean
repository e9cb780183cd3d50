import Telima.Operations.Effects
import Telima.Operations.Bookings
import Telima.Trips.Routine

/-!
# The ledger of the commissions

The balances of the drivers are kept by three services: the handler of `TripCompleted` charges the driver,
a payment that is confirmed at once and a webhook or a poll credit him.  The report `getFinances` sums the
rows.  When every call, with the handlers of its events, runs to its end before the next one, what a driver
owes is what his completed trips were charged less what he has paid, and the sums of the report agree
(`ledger_of_run`).

A completed trip is charged by a handler that may still be waiting.  In between the trip has no commission
and counts nothing, so the identity holds after every step (`Ledger.Kept`).
-/

namespace Telima

open TripsService

namespace Store

/-- What the completed trips of a driver were charged. -/
def commissionsOf (s : Store) (driverId : ℕ) : Decimal2 := s.trips.sum fun trip =>
  if trip.status = .completed ∧ trip.driverId = some driverId then trip.commissionAmount.getD 0 else 0

/-- What a driver has earned with his completed trips. -/
def earningsOf (s : Store) (driverId : ℕ) : Decimal2 := s.trips.sum fun trip =>
  if trip.status = .completed ∧ trip.driverId = some driverId then
    trip.finalPrice.getD 0 - trip.commissionAmount.getD 0
  else 0

/-- What a driver has paid. -/
def paymentsOf (s : Store) (driverId : ℕ) : Decimal2 := s.payments.sum fun payment =>
  if payment.status = .succeeded ∧ payment.driverId = driverId then payment.amount else 0

/-- Every driver starts at zero: no trip is completed, and no payment has succeeded.  The foreign keys
hold. -/
structure Unbilled (s : Store) : Prop where
  drivers : ∀ driver ∈ s.drivers.rows, driver.commissionDue = 0 ∧ driver.balance = 0
  trips : ∀ trip ∈ s.trips.rows, trip.status ≠ .completed ∧ trip.commissionAmount = none
  payments : ∀ payment ∈ s.payments.rows, payment.status ≠ .succeeded
  tripDrivers : ∀ trip ∈ s.trips.rows, ∀ driverId, trip.driverId = some driverId →
    (s.drivers.find? driverId).isSome = true
  vehicleTypes : ∀ trip ∈ s.trips.rows, (s.vehicleTypes.find? trip.vehicleTypeId).isSome = true
  paymentDrivers : ∀ payment ∈ s.payments.rows, (s.drivers.find? payment.driverId).isSome = true

end Store

/-- A call that may change what a driver owes; an amount has at most two decimals. -/
inductive BillingCall where
  | payCommission (userId : ℕ) (amount : ℚ) (hexact : Decimal2.Exact amount) (phoneNumber : String)
  | handleWebhook (payload : Record) (signature : Option String)
  | checkPaymentStatus (paymentId userId : ℕ)
  | completeTrip (tripId userId : ℕ) (role : UserRole) (dto : PaymentReceivedDto)
  | updateStatus (tripId userId : ℕ) (role : UserRole) (dto : UpdateTripStatusDto)

def BillingCall.program (env : Env) : BillingCall → Prog Unit
  | payCommission userId amount _ phoneNumber =>
    (PaymentsService.payCommission env.payment userId amount phoneNumber).as ()
  | handleWebhook payload signature =>
    (PaymentsService.handleWebhook env.payment env.prisma payload signature).as ()
  | checkPaymentStatus paymentId userId =>
    (PaymentsService.checkPaymentStatus env.payment paymentId userId).as ()
  | completeTrip tripId userId role dto => (TripsService.completeTrip tripId userId role dto).as ()
  | updateStatus tripId userId role dto => (TripsService.updateStatus tripId userId role dto).as ()

namespace Billing

/-- A call runs to its end when no event waits, or the handlers of the next event do. -/
inductive Step (env : Env) : Config → Config → Prop
  | call {k : Config} (call : BillingCall) (hidle : k.todo = []) :
      Step env k ((call.program env).play server k).2
  | handle {k : Config} {event : DomainEvent} {todo : List DomainEvent} (htodo : k.todo = event :: todo) :
      Step env k ((handleEvent env event).play server { k with todo }).2

/-- Any number of steps. -/
def Run (env : Env) : Config → Config → Prop := Relation.ReflTransGen (Step env)

/-- The handlers of the next event, if one waits. -/
def handleNext (env : Env) (k : Config) : Config :=
  match k.todo with
  | [] => k
  | event :: todo => ((handleEvent env event).play server { k with todo }).2

theorem run_handleNext (env : Env) (k : Config) : Run env k (handleNext env k) := by
  rw [handleNext]
  split
  · exact .refl
  · exact .single (.handle ‹_›)

end Billing

namespace Ledger

variable {k k' k'' : Config} {s s' : Store} {P : ℕ → Bool}

/-! ### The sums over some of the drivers -/

/-- What a trip was charged, if its driver is one of `P`. -/
def commission (P : ℕ → Bool) (trip : Trip) : ℤ :=
  if trip.status = .completed ∧ trip.driverId.any P then trip.commissionAmount.getD 0 else 0

/-- What a trip that was charged has earned its driver, if he is one of `P`. -/
def earning (P : ℕ → Bool) (trip : Trip) : ℤ :=
  if trip.status = .completed ∧ trip.driverId.any P then
    trip.commissionAmount.elim 0 fun charged => trip.finalPrice.getD 0 - charged
  else 0

/-- The balances are what the rows say. -/
structure Agrees (s : Store) : Prop where
  due : ∀ P, due s P = s.trips.sum (commission P) - s.payments.sum (credit P)
  balance : ∀ P, balance s P = s.trips.sum (earning P)

/-! ### What holds after every step -/

/-- The trip that waits for its charge. -/
def charging? : DomainEvent → Option ℕ
  | .tripCompleted tripId _ _ _ => some tripId
  | _ => none

/-- The event has no handler that writes a trip or searches a driver. -/
def isSilent : DomainEvent → Bool
  | .tripCreated _ _ _ _ | .dispatchFailed _ _ | .driverAssigned _ _ | .tripCompleted _ _ _ _ => false
  | _ => true

/-- The trip exists and is not completed, and the driver exists. -/
structure Assignable (s : Store) (tripId driverId : ℕ) : Prop where
  trip : ∃ trip, s.trips.find? tripId = some trip ∧ trip.status ≠ .completed
  driver : (s.drivers.find? driverId).isSome = true

/-- An event that may wait. -/
inductive Expected (s : Store) : DomainEvent → Prop
  | silent {event : DomainEvent} (h : isSilent event = true) : Expected s event
  | assigned {tripId driverId : ℕ} (h : Assignable s tripId driverId) :
      Expected s (.driverAssigned tripId driverId)
  | completed {tripId : ℕ} {driverId : Option ℕ} {clientId : ℕ} {finalPrice : ℚ} {trip : Trip}
      (hrow : s.trips.find? tripId = some trip) (hstatus : trip.status = .completed)
      (huncharged : trip.commissionAmount = none) :
      Expected s (.tripCompleted tripId driverId clientId finalPrice)

/-- A trip is charged after its completion, by the handler that waits for it. -/
structure Row (k : Config) (trip : Trip) : Prop where
  uncharged : trip.status ≠ .completed → trip.commissionAmount = none
  driver : ∀ driverId, trip.driverId = some driverId → (k.store.drivers.find? driverId).isSome = true
  vehicleType : (k.store.vehicleTypes.find? trip.vehicleTypeId).isSome = true
  assigned : trip.status = .completed → trip.driverId.isSome = true
  waits : trip.status = .completed → trip.commissionAmount = none →
    trip.finalPrice = none ∨ trip.id ∈ k.todo.filterMap charging?

structure Kept (k : Config) : Prop where
  agrees : Agrees k.store
  owned : k.store.PaymentsHaveDrivers
  rows : ∀ tripId trip, k.store.trips.find? tripId = some trip → Row k trip
  once : (k.todo.filterMap charging?).Nodup
  expected : ∀ event ∈ k.todo, Expected k.store event

theorem Expected.congr {event : DomainEvent} (h : Expected s event) (htrips : s'.trips = s.trips)
    (hdrivers : ∀ d, (s'.drivers.find? d).isSome = (s.drivers.find? d).isSome) : Expected s' event := by
  cases h with
  | silent h => exact .silent h
  | assigned h => exact .assigned ⟨htrips ▸ h.trip, (hdrivers _).trans h.driver⟩
  | completed hrow hstatus huncharged => exact .completed (htrips ▸ hrow) hstatus huncharged

/-- The trips stay, and events are added that no trip waits for. -/
theorem Kept.extend {events : List DomainEvent} (hk : Kept k) (hagrees : Agrees k'.store)
    (howned : k'.store.PaymentsHaveDrivers) (htrips : k'.store.trips = k.store.trips)
    (hvehicleTypes : k'.store.vehicleTypes = k.store.vehicleTypes)
    (hdrivers : ∀ d, (k'.store.drivers.find? d).isSome = (k.store.drivers.find? d).isSome)
    (htodo : k'.todo = k.todo ++ events) (hnone : events.filterMap charging? = [])
    (hevents : ∀ event ∈ events, Expected k'.store event) : Kept k' := by
  have hsame : k'.todo.filterMap charging? = k.todo.filterMap charging? := by
    rw [htodo, List.filterMap_append, hnone, List.append_nil]
  refine ⟨hagrees, howned, fun tripId trip hrow => ?_, by rw [hsame]; exact hk.once, fun event hmem => ?_⟩
  · rw [htrips] at hrow
    obtain ⟨huncharged, hdriver, hvehicleType, hassigned, hwaits⟩ := hk.rows tripId trip hrow
    refine ⟨huncharged, fun driverId h => (hdrivers _).trans (hdriver driverId h), ?_, hassigned, ?_⟩
    · rwa [hvehicleTypes]
    · rwa [hsame]
  · rw [htodo, List.mem_append] at hmem
    rcases hmem with hmem | hmem
    · exact (hk.expected event hmem).congr htrips hdrivers
    · exact hevents event hmem

theorem charging?_of_isSilent {event : DomainEvent} (h : isSilent event = true) :
    charging? event = none := by
  cases event <;> first | rfl | cases h

theorem filterMap_charging?_of_isSilent {events : List DomainEvent}
    (h : ∀ event ∈ events, isSilent event = true) : events.filterMap charging? = [] := by
  rw [List.filterMap_eq_nil_iff]
  exact fun event hmem => charging?_of_isSilent (h event hmem)

theorem Kept.booked (hk : Kept k) (h : Booked k k') : Kept k' := by
  obtain ⟨events, htodo, hevents⟩ := h.todo
  have hsilent : ∀ event ∈ events, isSilent event = true := by
    intro event hmem
    have hpayment := hevents event hmem
    cases event <;> first | rfl | cases hpayment
  refine hk.extend ⟨fun P => ?_, fun P => ?_⟩ h.owned h.trips h.vehicleTypes h.drivers htodo
    (filterMap_charging?_of_isSilent hsilent) fun event hmem => .silent (hsilent event hmem)
  · have hdue := h.due P
    have hbefore := hk.agrees.due P
    rw [h.trips]
    linarith
  · rw [h.balance, h.trips]
    exact hk.agrees.balance P

/-- A trip that is not completed, or not charged, counts nothing. -/
theorem commission_of_uncharged {trip : Trip} (h : trip.commissionAmount = none) (P : ℕ → Bool) :
    commission P trip = 0 := by
  rw [commission, h]
  exact ite_self 0

theorem earning_of_uncharged {trip : Trip} (h : trip.commissionAmount = none) (P : ℕ → Bool) :
    earning P trip = 0 := by
  rw [earning, h]
  exact ite_self 0

/-- What the write of a trip announces: its driver, its completion, or what starts no handler. -/
inductive Announced (s : Store) (tripId : ℕ) (trip : Trip) : List DomainEvent → Prop
  | ongoing {events : List DomainEvent} (hstatus : trip.status ≠ .completed)
      (hevents : ∀ event ∈ events, isSilent event = true ∨ ∃ driverId,
        event = .driverAssigned tripId driverId ∧ (s.drivers.find? driverId).isSome = true) :
      Announced s tripId trip events
  | completed {driverId : Option ℕ} {clientId : ℕ} {finalPrice : ℚ} (hstatus : trip.status = .completed) :
      Announced s tripId trip [.tripCompleted tripId driverId clientId finalPrice]

/-- A trip is written, and events are added. -/
structure Written (k k' : Config) (tripId : ℕ) (data : TripData) (events : List DomainEvent) : Prop where
  trips : k'.store.trips =
    k.store.trips.update tripId (data.apply k.store.now) (data.id_apply k.store.now)
  drivers : k'.store.drivers = k.store.drivers
  vehicleTypes : k'.store.vehicleTypes = k.store.vehicleTypes
  payments : k'.store.payments = k.store.payments
  todo : k'.todo = k.todo ++ events

/-- A trip that is not completed is written. -/
theorem Kept.write {tripId : ℕ} {trip : Trip} {data : TripData} {events : List DomainEvent}
    (hk : Kept k) (hrow : k.store.trips.find? tripId = some trip) (hopen : trip.status ≠ .completed)
    (hdriver : ∀ d, (data.apply k.store.now trip).driverId = some d →
      (k.store.drivers.find? d).isSome = true)
    (hcompleted : (data.apply k.store.now trip).status = .completed →
      (data.apply k.store.now trip).driverId.isSome = true ∧ k.todo = [])
    (hannounced : Announced k.store tripId (data.apply k.store.now trip) events)
    (hwrites : Written k k' tripId data events) : Kept k' := by
  have hid : trip.id = tripId := Table.key_of_find? hrow
  have huncharged : trip.commissionAmount = none := (hk.rows tripId trip hrow).uncharged hopen
  have huncharged' : (data.apply k.store.now trip).commissionAmount = none := huncharged
  have hfind : ∀ t, k'.store.trips.find? t = if t = tripId then some (data.apply k.store.now trip)
      else k.store.trips.find? t := by
    intro t
    rw [hwrites.trips, Table.find?_update]
    split_ifs with ht
    · rw [ht, hrow]
      rfl
    · rfl
  have hkept : ∀ {t : ℕ} {row : Trip}, k.store.trips.find? t = some row →
      (row.status = .completed ∨ t ≠ tripId) → k'.store.trips.find? t = some row := by
    intro t row hold hne
    rw [hfind, if_neg]
    · exact hold
    · rintro rfl
      rcases hne with hstatus | hne
      · obtain rfl := Option.some.inj (hrow.symm.trans hold)
        exact hopen hstatus
      · exact hne rfl
  -- only a completion asks for a charge
  have hnone : (data.apply k.store.now trip).status ≠ .completed → events.filterMap charging? = [] := by
    intro hstatus
    cases hannounced with
    | ongoing _ hevents =>
      refine List.filterMap_eq_nil_iff.mpr fun event hmem => ?_
      obtain hsilent | ⟨driverId, rfl, -⟩ := hevents event hmem
      · exact charging?_of_isSilent hsilent
      · rfl
    | completed hcompletes => exact absurd hcompletes hstatus
  -- the sums see the commission of a row, and there is none before or after
  refine ⟨⟨fun P => ?_, fun P => ?_⟩, ?_, fun t row hfound => ?_, ?_, fun event hmem => ?_⟩
  · rw [due, hwrites.drivers, hwrites.trips, hwrites.payments, Table.sum_update hrow,
      commission_of_uncharged huncharged, commission_of_uncharged huncharged', sub_zero, add_zero]
    exact hk.agrees.due P
  · rw [balance, hwrites.drivers, hwrites.trips, Table.sum_update hrow, earning_of_uncharged huncharged,
      earning_of_uncharged huncharged', sub_zero, add_zero]
    exact hk.agrees.balance P
  · intro id driverId amount hshape
    rw [Store.paymentShape, hwrites.payments] at hshape
    rw [hwrites.drivers]
    exact hk.owned id driverId amount hshape
  · rw [hfind] at hfound
    split_ifs at hfound with ht
    · obtain rfl := Option.some.inj hfound
      refine ⟨fun _ => huncharged', fun d h => ?_, ?_, fun h => (hcompleted h).1, fun h _ => Or.inr ?_⟩
      · rw [hwrites.drivers]
        exact hdriver d h
      · rw [hwrites.vehicleTypes]
        exact (hk.rows tripId trip hrow).vehicleType
      · rw [hwrites.todo, List.filterMap_append, List.mem_append]
        cases hannounced with
        | ongoing hstatus _ => exact absurd h hstatus
        | completed _ =>
          right
          show trip.id ∈ [tripId]
          rw [hid]
          exact List.mem_singleton_self _
    · obtain ⟨h₁, h₂, h₃, h₄, h₅⟩ := hk.rows t row hfound
      refine ⟨h₁, fun d h => ?_, ?_, h₄, fun h h' => (h₅ h h').imp_right fun hmem => ?_⟩
      · rw [hwrites.drivers]
        exact h₂ d h
      · rwa [hwrites.vehicleTypes]
      · rw [hwrites.todo, List.filterMap_append, List.mem_append]
        exact Or.inl hmem
  -- a completion is announced when no event waits
  · rw [hwrites.todo, List.filterMap_append]
    by_cases hstatus : (data.apply k.store.now trip).status = .completed
    · rw [(hcompleted hstatus).2, List.filterMap_nil, List.nil_append]
      cases hannounced with
      | ongoing hne _ => exact absurd hstatus hne
      | completed _ => exact List.nodup_singleton _
    · rw [hnone hstatus, List.append_nil]
      exact hk.once
  · rw [hwrites.todo, List.mem_append] at hmem
    rcases hmem with hmem | hmem
    · cases hk.expected event hmem with
      | silent h => exact .silent h
      | @assigned t d h =>
        refine .assigned ⟨?_, by rw [hwrites.drivers]; exact h.driver⟩
        obtain ⟨row, hold, hstatus⟩ := h.trip
        by_cases ht : t = tripId
        · refine ⟨_, (hfind t).trans (if_pos ht), fun hcompletes => ?_⟩
          rw [(hcompleted hcompletes).2] at hmem
          cases hmem
        · exact ⟨row, hkept hold (Or.inr ht), hstatus⟩
      | completed hold hstatus hnone => exact .completed (hkept hold (Or.inl hstatus)) hstatus hnone
    · cases hannounced with
      | ongoing hstatus hevents =>
        obtain hsilent | ⟨driverId, rfl, hsome⟩ := hevents event hmem
        · exact .silent hsilent
        · rw [← hwrites.drivers] at hsome
          exact .assigned ⟨⟨_, (hfind tripId).trans (if_pos rfl), hstatus⟩, hsome⟩
      | completed hstatus =>
        obtain rfl := List.mem_singleton.mp hmem
        exact .completed ((hfind tripId).trans (if_pos rfl)) hstatus huncharged'

/-! ### The handlers -/

/-- Events are added, and the tables stay. -/
theorem Kept.stays {events : List DomainEvent} (hk : Kept k) (h : k.Stays k' events)
    (hpayments : k'.store.payments = k.store.payments)
    (hsilent : ∀ event ∈ events, isSilent event = true) : Kept k' := by
  refine hk.extend ⟨fun P => ?_, fun P => ?_⟩ ?_ h.trips h.vehicleTypes (fun d => by rw [h.drivers]) h.todo
    (filterMap_charging?_of_isSilent hsilent) fun event hmem => .silent (hsilent event hmem)
  · rw [due, h.drivers, h.trips, hpayments]
    exact hk.agrees.due P
  · rw [balance, h.drivers, h.trips]
    exact hk.agrees.balance P
  · intro id driverId amount hshape
    rw [Store.paymentShape, hpayments] at hshape
    rw [h.drivers]
    exact hk.owned id driverId amount hshape

section Handlers

variable {cond : Config → Cmd → Prop} {event : DomainEvent} {todo : List DomainEvent} {trip : Trip}

/-- No payment is written. -/
theorem wlp_unpaid {α : Type} {p : Prog α} (hp : Unpaid p) :
    p.wlp server cond (fun _ k' => k'.store.payments = k.store.payments) k := by
  refine Async.Only.wlp (A := fun k' : Config => k'.store.payments = k.store.payments) ?_ hp rfl
  exact fun c k' hc _ hk' => (Cmd.exec_payments hc.2).trans hk'

theorem once_of_cons (hk : Kept k) (htodo : k.todo = event :: todo) :
    (todo.filterMap charging?).Nodup := by
  have honce := hk.once
  rw [htodo] at honce
  exact honce.sublist ((List.sublist_cons_self event todo).filterMap charging?)

/-- An event is handled.  A trip that waited for it needs no charge. -/
theorem Kept.handled (hk : Kept k) (htodo : k.todo = event :: todo)
    (hfree : ∀ tripId trip, charging? event = some tripId → k.store.trips.find? tripId = some trip →
      trip.finalPrice = none) : Kept { k with todo } := by
  refine ⟨hk.agrees, hk.owned, fun tripId trip hrow => ?_, once_of_cons hk htodo, fun e hmem => ?_⟩
  · obtain ⟨huncharged, hdriver, hvehicleType, hassigned, hwaits⟩ := hk.rows tripId trip hrow
    refine ⟨huncharged, hdriver, hvehicleType, hassigned, fun hstatus hnone => ?_⟩
    rcases hwaits hstatus hnone with hprice | hmem
    · exact Or.inl hprice
    · rw [htodo] at hmem
      obtain ⟨e, he, hcharging⟩ := List.mem_filterMap.mp hmem
      have hid : trip.id = tripId := Table.key_of_find? hrow
      rcases List.mem_cons.mp he with rfl | he
      · rw [hid] at hcharging
        exact Or.inl (hfree tripId trip hcharging hrow)
      · exact Or.inr (List.mem_filterMap.mpr ⟨e, he, hcharging⟩)
  · apply hk.expected e
    rw [htodo]
    exact List.mem_cons_of_mem event hmem

/-- The price of a trip less its commission has two decimals. -/
theorem ofNumber_toNumber_sub (price : Decimal2) (n : ℤ) :
    Decimal2.ofNumber (price.toNumber - n) = price - Decimal2.ofNumber n := by
  have hint : Decimal2.ofNumber (n : ℚ) = Decimal2.ofInt n := by
    rw [← Decimal2.toNumber_ofInt, Decimal2.ofNumber_toNumber]
  rw [hint, ← Decimal2.toNumber_ofInt n, ← Decimal2.toNumber_sub, Decimal2.ofNumber_toNumber]

/-- A completed trip is charged, once, by the handler that waits for it. -/
theorem Kept.charged {tripId driverId clientId : ℕ} {assigned : Option ℕ} {finalPrice : ℚ}
    {price : Decimal2} {vehicleType : VehicleType} (hk : Kept k)
    (htodo : k.todo = .tripCompleted tripId assigned clientId finalPrice :: todo)
    (hrow : k.store.trips.find? tripId = some trip) (hdriver : trip.driverId = some driverId)
    (hprice : trip.finalPrice = some price)
    (hcharges : Config.Charges { k with todo } k' trip driverId price vehicleType)
    (hpayments : k'.store.payments = k.store.payments) : Kept k' := by
  obtain rfl : trip.id = tripId := Table.key_of_find? hrow
  -- the trip is completed, and was not charged before
  obtain ⟨hstatus, huncharged⟩ : trip.status = .completed ∧ trip.commissionAmount = none := by
    have hmem : DomainEvent.tripCompleted trip.id assigned clientId finalPrice ∈ k.todo := by
      rw [htodo]
      exact List.mem_cons_self
    cases hk.expected _ hmem with
    | silent h => cases h
    | completed hrow' hstatus huncharged =>
      obtain rfl := Option.some.inj (hrow.symm.trans hrow')
      exact ⟨hstatus, huncharged⟩
  have hcons : k.todo.filterMap charging? = trip.id :: todo.filterMap charging? := by
    rw [htodo]
    rfl
  have hnot : trip.id ∉ todo.filterMap charging? := by
    have honce := hk.once
    rw [hcons, List.nodup_cons] at honce
    exact honce.1
  obtain ⟨driver, hfound⟩ :=
    Option.isSome_iff_exists.mp ((hk.rows trip.id trip hrow).driver driverId hdriver)
  have hdriverId : driver.id = driverId := Table.key_of_find? hfound
  let charge := commissionOf price.toNumber vehicleType.commissionPercentage.toNumber
  have htrips : k'.store.trips = k.store.trips.update trip.id (Trip.charge charge k.store.now)
      (Trip.id_charge charge k.store.now) := hcharges.trips
  have hcharged : k'.store.drivers = k.store.drivers.update driverId
      (Driver.charge charge price.toNumber) (Driver.id_charge charge price.toNumber) := hcharges.drivers
  have hdrivers : ∀ d, (k'.store.drivers.find? d).isSome = (k.store.drivers.find? d).isSome := by
    intro d
    rw [hcharged, Table.find?_update]
    split_ifs
    · exact Option.isSome_map
    · rfl
  have hfind : ∀ t, k'.store.trips.find? t =
      if t = trip.id then some (trip.charge charge k.store.now) else k.store.trips.find? t := by
    intro t
    rw [htrips, Table.find?_update]
    split_ifs with ht
    · rw [ht, hrow]
      rfl
    · rfl
  have htripSum : ∀ g : Trip → ℤ, k'.store.trips.sum g =
      k.store.trips.sum g + (g (trip.charge charge k.store.now) - g trip) := by
    intro g
    rw [htrips]
    exact Table.sum_update hrow _ _ g
  have hdriverSum : ∀ g : Driver → ℤ, k'.store.drivers.sum g =
      k.store.drivers.sum g + (g (driver.charge charge price.toNumber) - g driver) := by
    intro g
    rw [hcharged]
    exact Table.sum_update hfound _ _ g
  have hany : ∀ P : ℕ → Bool, trip.driverId.any P = P driverId := fun P => by rw [hdriver]; rfl
  refine ⟨⟨fun P => ?_, fun P => ?_⟩, ?_, fun t row hrow' => ?_, ?_, fun e hmem => ?_⟩
  · have hbefore := hk.agrees.due P
    have hcommission : commission P (trip.charge charge k.store.now) =
        if P driverId then Decimal2.ofNumber charge else 0 := by
      show (if trip.status = .completed ∧ trip.driverId.any P = true then _ else _) = _
      rw [hany]
      simp only [hstatus, true_and]
      rfl
    have hdue : (driver.charge charge price.toNumber).commissionDue =
        driver.commissionDue + Decimal2.ofNumber charge :=
      Decimal2.increment_of_exact (Decimal2.exact_intCast charge) _
    rw [due] at hbefore
    rw [due, hpayments, htripSum, hdriverSum, commission_of_uncharged huncharged, hcommission,
      Driver.id_charge, hdriverId, hdue]
    split_ifs <;> linarith
  · have hbefore := hk.agrees.balance P
    have hearning : earning P (trip.charge charge k.store.now) =
        if P driverId then price - Decimal2.ofNumber charge else 0 := by
      show (if trip.status = .completed ∧ trip.driverId.any P = true then
        trip.finalPrice.getD 0 - Decimal2.ofNumber charge else _) = _
      rw [hany, hprice]
      simp only [hstatus, true_and]
      rfl
    have hbalance : (driver.charge charge price.toNumber).balance =
        driver.balance + (price - Decimal2.ofNumber charge) := by
      rw [← ofNumber_toNumber_sub]
      exact Decimal2.increment_of_exact (Decimal2.exact_toNumber_sub_intCast price charge) _
    rw [balance] at hbefore
    rw [balance, htripSum, hdriverSum, earning_of_uncharged huncharged, hearning, Driver.id_charge,
      hdriverId, hbalance]
    split_ifs <;> linarith
  · intro id d amount hshape
    rw [Store.paymentShape, hpayments] at hshape
    rw [hdrivers]
    exact hk.owned id d amount hshape
  · rw [hfind] at hrow'
    split_ifs at hrow' with ht
    · obtain rfl := Option.some.inj hrow'
      have hbefore := hk.rows trip.id trip hrow
      refine ⟨fun hne => absurd hstatus hne, fun d h => (hdrivers d).trans (hbefore.driver d h), ?_,
        hbefore.assigned, fun _ hnone => ?_⟩
      · rw [hcharges.vehicleTypes]
        exact hbefore.vehicleType
      · cases hnone
    · obtain ⟨h₁, h₂, h₃, h₄, h₅⟩ := hk.rows t row hrow'
      have hrowId : row.id = t := Table.key_of_find? hrow'
      refine ⟨h₁, fun d h => (hdrivers d).trans (h₂ d h), ?_, h₄, fun h h' => ?_⟩
      · rw [hcharges.vehicleTypes]
        exact h₃
      · refine (h₅ h h').imp_right fun hwaits => ?_
        rw [hcons, List.mem_cons, hrowId] at hwaits
        rw [hcharges.todo, hrowId]
        exact hwaits.resolve_left ht
  · rw [hcharges.todo]
    exact once_of_cons hk htodo
  · rw [hcharges.todo] at hmem
    have hexpected : Expected k.store e := by
      apply hk.expected e
      rw [htodo]
      exact List.mem_cons_of_mem _ hmem
    cases hexpected with
    | silent h => exact .silent h
    | @assigned t d h =>
      obtain ⟨row, hold, hopen⟩ := h.trip
      refine .assigned ⟨⟨row, ?_, hopen⟩, (hdrivers d).trans h.driver⟩
      rw [hfind, if_neg, hold]
      rintro rfl
      obtain rfl := Option.some.inj (hrow.symm.trans hold)
      exact hopen hstatus
    | @completed t _ _ _ _ hold hstatus' hnone =>
      refine .completed ?_ hstatus' hnone
      rw [hfind, if_neg, hold]
      rintro rfl
      exact hnot (List.mem_filterMap.mpr ⟨_, hmem, rfl⟩)

/-- A driver is assigned: the handler writes the trip once more. -/
theorem wlp_handleDriverAssigned_kept (geo : GeoEnv) {tripId driverId : ℕ} (hk : Kept k)
    (hassignable : Assignable k.store tripId driverId) :
    (handleDriverAssigned geo tripId driverId).wlp server cond (fun _ k' => Kept k') k := by
  refine Async.wlp_mono (Async.wlp_and (wlp_handleDriverAssigned geo driverId)
    (wlp_unpaid (unpaid_handleDriverAssigned geo tripId driverId))) ?_
  rintro r k' ⟨⟨events, hevents, hwrites⟩, hpayments⟩
  obtain ⟨trip, hrow, hopen⟩ := hassignable.trip
  have hongoing : ((acceptData driverId k.store.now).apply k.store.now trip).status ≠ .completed := by
    show TripStatus.accepted ≠ .completed
    decide
  refine hk.write hrow hopen ?_ (fun h => absurd h hongoing) (.ongoing hongoing fun event hmem => ?_)
    ⟨hwrites.trips, hwrites.drivers, hwrites.vehicleTypes, hpayments, hwrites.todo⟩
  · rintro d ⟨⟩
    exact hassignable.driver
  · obtain ⟨clientId, rfl⟩ := hevents event hmem
    exact Or.inl rfl

/-- The handlers of an event that waits. -/
theorem wlp_handleEvent_kept (env : Env) (hk : Kept k) (htodo : k.todo = event :: todo) :
    (handleEvent env event).wlp server cond (fun _ k' => Kept k') { k with todo } := by
  have hmem : event ∈ k.todo := by
    rw [htodo]
    exact List.mem_cons_self
  cases event with
  | tripCompleted tripId assigned clientId finalPrice =>
    refine wlp_handleEvent_single rfl ?_
    refine Async.wlp_mono (Async.wlp_and (CommissionsService.wlp_handleTripCompleted tripId)
      (wlp_unpaid (unpaid_handleTripCompleted tripId))) ?_
    rintro r k' ⟨⟨hsame, hskipped⟩ | ⟨trip, driverId, price, vehicleType, hrow, hdriver, hprice, -,
      hcharges⟩, hpayments⟩
    · -- the trip has no price
      refine (hk.handled htodo fun id trip hid hrow => ?_).stays hsame.toStays hpayments (by simp)
      obtain rfl : tripId = id := Option.some.inj hid
      obtain ⟨driverId, hdriver⟩ : ∃ driverId, trip.driverId = some driverId := by
        cases hk.expected _ hmem with
        | silent h => cases h
        | completed hrow' hstatus huncharged =>
          obtain rfl := Option.some.inj (hrow.symm.trans hrow')
          exact Option.isSome_iff_exists.mp ((hk.rows _ _ hrow).assigned hstatus)
      exact hskipped trip driverId hrow hdriver ((hk.rows _ _ hrow).driver driverId hdriver)
        (hk.rows _ _ hrow).vehicleType
    · exact hk.charged htodo hrow hdriver hprice hcharges hpayments
  | driverAssigned tripId driverId =>
    refine wlp_handleEvent_single rfl ?_
    refine wlp_handleDriverAssigned_kept env.geo (hk.handled htodo fun _ _ h => ?_) ?_
    · cases h
    · cases hk.expected _ hmem with
      | silent h => cases h
      | assigned hassignable => exact hassignable
  | tripCreated tripId pickup serviceType vehicleTypeId =>
    cases hk.expected _ hmem with
    | silent h => cases h
  | dispatchFailed tripId reason =>
    cases hk.expected _ hmem with
    | silent h => cases h
  | _ => exact wlp_handleEvent_nil rfl (hk.handled htodo fun _ _ h => nomatch h)

end Handlers

/-! ### The calls -/

section Calls

variable {cond : Config → Cmd → Prop} {trip : Trip} {tripId userId : ℕ} {role : UserRole}
  {data : TripData}

/-- The report of a trip. -/
theorem announced_statusEvent (hid : trip.id = tripId) (reason : Option String) (userId : ℕ) :
    Announced s tripId trip (statusEvent trip userId reason).toList := by
  subst hid
  unfold statusEvent
  cases hstatus : trip.status with
  | completed => exact .completed hstatus
  | _ => exact .ongoing (by rw [hstatus]; simp) (by simp [isSilent])

/-- What the switch of `updateStatus` announces, and the driver it leaves to the trip. -/
theorem switched_spec {dto : UpdateTripStatusDto} (now : ℕ)
    (h : Switched trip userId role dto k data k') : ∃ events, k.Stays k' events ∧
      (data.apply now trip).status = dto.status ∧
      (((data.apply now trip).driverId = trip.driverId ∧ events = [] ∧
        (dto.status = .completed → trip.driverId.isSome = true)) ∨
      ∃ driverId, k.store.driverOf userId = some driverId ∧ dto.status = .accepted ∧
        (data.apply now trip).driverId = some driverId ∧
        ∀ event ∈ events, event = .driverAssigned trip.id driverId) := by
  cases h with
  | accepted hstatus hrole hdriver hnotified hlock hstays haccepted =>
    exact ⟨_, hstays, hstatus.symm, Or.inr ⟨_, hdriver, hstatus, rfl, by simp⟩⟩
  | unlocked hstatus hrole hdriver hnotified hlock hsame =>
    exact ⟨[], hsame.toStays, hstatus.symm, Or.inr ⟨_, hdriver, hstatus, rfl, by simp⟩⟩
  | advanced hstatus hassigned hsame =>
    refine ⟨[], hsame.toStays, ?_, Or.inl ⟨?_, rfl, fun _ => by rw [hassigned]; rfl⟩⟩
    · rcases hstatus with h | h | h <;> rw [h] <;> rfl
    · rcases hstatus with h | h | h <;> rw [h] <;> rfl
  | withdrawn hstatus hstays hwithdrawn =>
    refine ⟨[], hstays, rfl, Or.inl ⟨rfl, rfl, fun hcompleted => ?_⟩⟩
    rcases hstatus with h | h <;> rw [h] at hcompleted <;> cases hcompleted
  | cancelledByDriver hstatus hassigned hsame =>
    exact ⟨[], hsame.toStays, rfl, Or.inl ⟨rfl, rfl, fun _ => by rw [hassigned]; rfl⟩⟩

theorem wlp_updateStatus_kept (dto : UpdateTripStatusDto) (hk : Kept k) (hidle : k.todo = []) :
    (TripsService.updateStatus tripId userId role dto).wlp server cond (fun _ k' => Kept k') k := by
  refine Async.wlp_mono (Async.wlp_and wlp_updateStatus
    (wlp_unpaid (unpaid_updateStatus tripId userId role dto))) ?_
  rintro r k' ⟨hsame | ⟨trip, data, k₁, hrow, htransition, hswitched, hwrites⟩, hpayments⟩
  · exact hk.stays hsame.toStays hpayments (by simp)
  obtain rfl : trip.id = tripId := Table.key_of_find? hrow
  have hopen : trip.status ≠ .completed := by
    intro hcompleted
    rw [hcompleted] at htransition
    cases hstatus : dto.status <;> rw [hstatus] at htransition <;> exact absurd htransition (by decide)
  obtain ⟨events, hstays, hstatus, hdriver⟩ := switched_spec k.store.now hswitched
  have hreport : Announced k.store trip.id (data.apply k.store.now trip)
      (statusEvent (data.apply k.store.now trip) userId dto.cancelReason).toList :=
    announced_statusEvent (data.id_apply k.store.now trip) dto.cancelReason userId
  have hwritten : Written k k' trip.id data (events ++
      (statusEvent (data.apply k.store.now trip) userId dto.cancelReason).toList) := by
    refine ⟨?_, hwrites.drivers.trans hstays.drivers, hwrites.vehicleTypes.trans hstays.vehicleTypes,
      hpayments, ?_⟩
    · rw [hwrites.trips, hstays.trips]
    · rw [hwrites.todo, hstays.todo, List.append_assoc]
  rcases hdriver with ⟨hdriver, rfl, hassigned⟩ | ⟨driverId, huser, haccepted, hdriver, hevents⟩
  · refine hk.write hrow hopen (fun d h => ?_) (fun h => ⟨?_, hidle⟩) hreport hwritten
    · rw [hdriver] at h
      exact (hk.rows trip.id trip hrow).driver d h
    · rw [hdriver]
      exact hassigned (hstatus.symm.trans h)
  · -- an accept: the event of the assignment comes first
    have hsome : (k.store.drivers.find? driverId).isSome = true := by
      obtain ⟨driver, hfirst, rfl⟩ := Option.map_eq_some_iff.mp huser
      rw [(Table.find?_of_findFirst hfirst).1]
      rfl
    have hongoing : (data.apply k.store.now trip).status ≠ .completed := by
      rw [hstatus, haccepted]
      decide
    refine hk.write hrow hopen (fun d h => ?_) (fun h => absurd h hongoing)
      (.ongoing hongoing fun event hmem => ?_) hwritten
    · rw [hdriver] at h
      obtain rfl := Option.some.inj h
      exact hsome
    · rcases List.mem_append.mp hmem with hmem | hmem
      · exact Or.inr ⟨driverId, hevents event hmem, hsome⟩
      · rw [statusEvent, hstatus, haccepted] at hmem
        simp at hmem

theorem wlp_completeTrip_kept (dto : PaymentReceivedDto) (hk : Kept k) (hidle : k.todo = []) :
    (TripsService.completeTrip tripId userId role dto).wlp server cond (fun _ k' => Kept k') k := by
  refine Async.wlp_mono (Async.wlp_and (wlp_completeTrip dto)
    (wlp_unpaid (unpaid_completeTrip tripId userId role dto))) ?_
  rintro r k' ⟨hsame | ⟨trip, driverId, hrow, hstatus, hdriver, hwrites⟩, hpayments⟩
  · exact hk.stays hsame.toStays hpayments (by simp)
  obtain rfl : trip.id = tripId := Table.key_of_find? hrow
  have hopen : trip.status ≠ .completed := by
    rw [hstatus]
    decide
  have hassigned : ∀ d, ((completeData trip dto.amount k.store.now).apply k.store.now trip).driverId =
      some d → (k.store.drivers.find? d).isSome = true := (hk.rows trip.id trip hrow).driver
  refine hk.write hrow hopen hassigned (fun _ => ⟨?_, hidle⟩) (announced_statusEvent (TripData.id_apply _ _ trip) none userId)
    ⟨hwrites.trips, hwrites.drivers, hwrites.vehicleTypes, hpayments, hwrites.todo⟩
  show trip.driverId.isSome = true
  rw [hdriver]
  rfl

/-- A payment call. -/
theorem wlp_booked {α : Type} {p : Prog α} (hk : Kept k)
    (hp : p.wlp server cond (fun _ k' => Booked k k') k) :
    p.wlp server cond (fun _ k' => Kept k') k :=
  Async.wlp_mono hp fun _ _ h => hk.booked h

theorem wlp_call_kept (env : Env) (call : BillingCall) (hk : Kept k) (hidle : k.todo = []) :
    (call.program env).wlp server cond (fun _ k' => Kept k') k := by
  cases call with
  | payCommission userId amount hexact phoneNumber =>
    exact Async.wlp_as (wlp_booked hk (wlp_payCommission _ userId phoneNumber hk.owned hexact))
  | handleWebhook payload signature =>
    exact Async.wlp_as (wlp_booked hk (wlp_handleWebhook _ _ payload signature hk.owned))
  | checkPaymentStatus paymentId userId =>
    exact Async.wlp_as (wlp_booked hk (wlp_checkPaymentStatus _ paymentId userId hk.owned))
  | completeTrip tripId userId role dto => exact Async.wlp_as (wlp_completeTrip_kept dto hk hidle)
  | updateStatus tripId userId role dto => exact Async.wlp_as (wlp_updateStatus_kept dto hk hidle)

end Calls

/-! ### Whole runs -/

theorem kept_of_unbilled (hs : s.Unbilled) : Kept ⟨s, [], []⟩ := by
  have huncharged : ∀ trip ∈ s.trips.rows, trip.commissionAmount = none := fun trip hmem =>
    (hs.trips trip hmem).2
  have hzero : ∀ (P : ℕ → Bool), s.payments.sum (credit P) = 0 := by
    intro P
    refine List.sum_eq_zero fun x hx => ?_
    obtain ⟨payment, hmem, rfl⟩ := List.mem_map.mp hx
    exact if_neg fun h => hs.payments payment hmem h.1
  refine ⟨⟨fun P => ?_, fun P => ?_⟩, ?_, fun tripId trip hrow => ?_, List.nodup_nil, fun _ h => nomatch h⟩
  · have hcommissions : s.trips.sum (commission P) = 0 := by
      refine List.sum_eq_zero fun x hx => ?_
      obtain ⟨trip, hmem, rfl⟩ := List.mem_map.mp hx
      exact commission_of_uncharged (huncharged trip hmem) P
    have hdue : due s P = 0 := by
      refine List.sum_eq_zero fun x hx => ?_
      obtain ⟨driver, hmem, rfl⟩ := List.mem_map.mp hx
      rw [(hs.drivers driver hmem).1]
      exact ite_self 0
    show due s P = s.trips.sum (commission P) - s.payments.sum (credit P)
    rw [hdue, hcommissions, hzero, sub_zero]
  · have hearnings : s.trips.sum (earning P) = 0 := by
      refine List.sum_eq_zero fun x hx => ?_
      obtain ⟨trip, hmem, rfl⟩ := List.mem_map.mp hx
      exact earning_of_uncharged (huncharged trip hmem) P
    have hbalance : balance s P = 0 := by
      refine List.sum_eq_zero fun x hx => ?_
      obtain ⟨driver, hmem, rfl⟩ := List.mem_map.mp hx
      rw [(hs.drivers driver hmem).2]
      exact ite_self 0
    show balance s P = s.trips.sum (earning P)
    rw [hbalance, hearnings]
  · intro id driverId amount hshape
    obtain ⟨payment, hrow, hpayment⟩ := Option.map_eq_some_iff.mp hshape
    obtain ⟨rfl, -⟩ := Prod.mk.inj hpayment
    exact hs.paymentDrivers payment (Table.mem_of_find? hrow)
  · have hmem : trip ∈ s.trips.rows := Table.mem_of_find? hrow
    have hopen := (hs.trips trip hmem).1
    exact ⟨fun _ => huncharged trip hmem, hs.tripDrivers trip hmem, hs.vehicleTypes trip hmem,
      fun h => absurd h hopen, fun h => absurd h hopen⟩

theorem Kept.step {env : Env} (hk : Kept k) (h : Billing.Step env k k') : Kept k' := by
  cases h with
  | call call hidle => exact Async.play_of_wlp (wlp_call_kept env call hk hidle)
  | handle htodo => exact Async.play_of_wlp (wlp_handleEvent_kept env hk htodo)

theorem Kept.run {env : Env} (hk : Kept k) (h : Billing.Run env k k') : Kept k' := by
  induction h with
  | refl => exact hk
  | tail _ hstep ih => exact ih.step hstep

/-! ### One driver, and all of them -/

/-- What one driver owes. -/
theorem Kept.commissionDue {driver : Driver} (hk : Kept k) (hmem : driver ∈ k.store.drivers.rows) :
    driver.commissionDue = k.store.commissionsOf driver.id - k.store.paymentsOf driver.id := by
  have hagrees := hk.agrees.due fun d => decide (d = driver.id)
  have hrow : k.store.drivers.find? driver.id = some driver := Table.find?_of_mem hmem
  have hdue : due k.store (fun d => decide (d = driver.id)) = driver.commissionDue := by
    have hkey := Table.sum_key hrow Driver.commissionDue
    rw [due]
    simpa only [decide_eq_true_eq] using hkey
  rw [← hdue, hagrees, Store.commissionsOf, Store.paymentsOf]
  congr 1
  · refine Table.sum_congr fun trip _ => ?_
    rw [commission]
    cases trip.driverId with
    | none => simp
    | some d => simp
  · refine Table.sum_congr fun payment _ => ?_
    rw [credit]
    simp only [decide_eq_true_eq]

/-- The balance of one driver, when every completed trip is charged. -/
theorem Kept.balance_eq {driver : Driver} (hk : Kept k) (hidle : k.todo = [])
    (hmem : driver ∈ k.store.drivers.rows) : driver.balance = k.store.earningsOf driver.id := by
  have hagrees := hk.agrees.balance fun d => decide (d = driver.id)
  have hrow : k.store.drivers.find? driver.id = some driver := Table.find?_of_mem hmem
  have hbalance : balance k.store (fun d => decide (d = driver.id)) = driver.balance := by
    have hkey := Table.sum_key hrow Driver.balance
    rw [balance]
    simpa only [decide_eq_true_eq] using hkey
  rw [← hbalance, hagrees, Store.earningsOf]
  refine Table.sum_congr fun trip hmem => ?_
  have hassigned : (trip.driverId.any fun d => decide (d = driver.id)) = true ↔
      trip.driverId = some driver.id := by
    cases trip.driverId with
    | none => simp
    | some d => simp
  simp only [earning, hassigned]
  by_cases hcounts : trip.status = .completed ∧ trip.driverId = some driver.id
  · rw [if_pos hcounts, if_pos hcounts]
    cases hcommission : trip.commissionAmount with
    | some charged => rfl
    | none =>
      -- nothing waits any more, so the trip has no price
      have hwaits := (hk.rows trip.id trip (Table.find?_of_mem hmem)).waits hcounts.1 hcommission
      rw [hidle] at hwaits
      rw [hwaits.resolve_right (List.not_mem_nil)]
      rfl
  · rw [if_neg hcounts, if_neg hcounts]

open AdminStatsController in
/-- The sums over every driver. -/
theorem Kept.sums (hk : Kept k) : sumCommissionAmount k.store =
    sumSucceededAmount k.store + sumCommissionDue k.store := by
  have hagrees := hk.agrees.due fun _ => true
  have hdue : due k.store (fun _ => true) = sumCommissionDue k.store := rfl
  have hpaid : k.store.payments.sum (credit fun _ => true) = sumSucceededAmount k.store := by
    refine Table.sum_congr fun payment _ => ?_
    rw [credit]
    simp only [and_true]
  have htotal : k.store.trips.sum (commission fun _ => true) = sumCommissionAmount k.store := by
    refine Table.sum_congr fun trip hmem => ?_
    rw [commission]
    by_cases hstatus : trip.status = .completed
    · -- a completed trip has a driver
      have hassigned := (hk.rows trip.id trip (Table.find?_of_mem hmem)).assigned hstatus
      have hany : (trip.driverId.any fun _ => true) = true := by
        cases hdriver : trip.driverId with
        | none =>
          rw [hdriver] at hassigned
          cases hassigned
        | some d => rfl
      rw [if_pos ⟨hstatus, hany⟩, if_pos hstatus]
    · rw [if_neg fun h => hstatus h.1, if_neg hstatus]
  rw [hdue, hpaid, htotal] at hagrees
  linarith

end Ledger

/-- Driver 1 is on the way with client 21. -/
def Store.townOnTheWay : Store :=
  { Store.town with
    trips := .single { id := 1, clientId := 21, driverId := some 1, vehicleTypeId := 1
                       serviceType := .ride, status := .inProgress, pickupLocation := ⟨1, 1⟩
                       dropoffLocation := ⟨9, 9⟩, estimatedPrice := some 150000
                       createdAt := 0, updatedAt := 0 } }

theorem Store.unbilled_townOnTheWay : Store.townOnTheWay.Unbilled := by
  refine ⟨by decide, by decide, (fun payment h => nomatch h), ?_, by decide,
    (fun payment h => nomatch h)⟩
  intro trip hmem driverId hdriver
  obtain rfl := List.mem_singleton.mp hmem
  obtain rfl := Option.some.inj hdriver
  decide

end Telima
