import Telima.Operations.Trips
import Telima.Payments.Credit

/-!
# What a payment call does to the balances

A payment is created open.  An update that confirms it is followed by the credit of its amount, in the same
call: over any drivers, what they owe and what they have paid add up to the same after the call
(`Ledger.Booked`).
-/

namespace Telima

open TripsService PaymentsService

namespace Ledger

variable {k k' k'' : Config} {s : Store} {P : ℕ → Bool}

/-! ### The sums over some of the drivers -/

/-- What the drivers of `P` owe. -/
def due (s : Store) (P : ℕ → Bool) : ℤ :=
  s.drivers.sum fun driver => if P driver.id then driver.commissionDue else 0

/-- The balances of the drivers of `P`. -/
def balance (s : Store) (P : ℕ → Bool) : ℤ :=
  s.drivers.sum fun driver => if P driver.id then driver.balance else 0

/-- What the drivers of `P` have paid with a payment. -/
def credit (P : ℕ → Bool) (payment : CommissionPayment) : ℤ :=
  if payment.status = .succeeded ∧ P payment.driverId then payment.amount else 0

/-! ### What a payment call does -/

/-- The event is one of a payment. -/
def isPaymentEvent : DomainEvent → Bool
  | .commissionPaid _ _ _ | .paymentSucceeded _ _ _ => true
  | _ => false

/-- Payments were made and credited. -/
structure Booked (k k' : Config) : Prop where
  trips : k'.store.trips = k.store.trips
  vehicleTypes : k'.store.vehicleTypes = k.store.vehicleTypes
  todo : ∃ events, k'.todo = k.todo ++ events ∧ ∀ event ∈ events, isPaymentEvent event = true
  drivers : ∀ d, (k'.store.drivers.find? d).isSome = (k.store.drivers.find? d).isSome
  payments : ∀ id driverId amount, k'.store.paymentShape id = some (driverId, amount) →
    (k.store.drivers.find? driverId).isSome = true
  due : ∀ P, due k'.store P + k'.store.payments.sum (credit P) =
    due k.store P + k.store.payments.sum (credit P)
  balance : ∀ P, balance k'.store P = balance k.store P

theorem Booked.owned (h : Booked k k') : k'.store.PaymentsHaveDrivers := by
  intro id driverId amount hshape
  rw [h.drivers]
  exact h.payments id driverId amount hshape

theorem Booked.trans (h : Booked k k') (h' : Booked k' k'') : Booked k k'' where
  trips := h'.trips.trans h.trips
  vehicleTypes := h'.vehicleTypes.trans h.vehicleTypes
  todo := by
    obtain ⟨events, htodo, hevents⟩ := h.todo
    obtain ⟨events', htodo', hevents'⟩ := h'.todo
    refine ⟨events ++ events', by rw [htodo', htodo, List.append_assoc], fun event hmem => ?_⟩
    rcases List.mem_append.mp hmem with hmem | hmem
    · exact hevents event hmem
    · exact hevents' event hmem
  drivers d := (h'.drivers d).trans (h.drivers d)
  payments id driverId amount hshape := by
    rw [← h.drivers]
    exact h'.payments id driverId amount hshape
  due P := (h'.due P).trans (h.due P)
  balance P := (h'.balance P).trans (h.balance P)

/-- A command that leaves the tables alone. -/
theorem booked_perform {c : Cmd} (howned : k.store.PaymentsHaveDrivers) (hc : c.keepsTables = true)
    (hpayments : c.keepsPayments = true) (hevent : c.event?.all isPaymentEvent = true) :
    Booked k (k.perform c) := by
  have hstays : k.Stays (k.perform c) c.event?.toList := Config.stays_perform hc
  have hsame : (k.perform c).store.payments = k.store.payments := Cmd.exec_payments hpayments
  refine ⟨hstays.trips, hstays.vehicleTypes, ⟨_, hstays.todo, ?_⟩, fun d => ?_, ?_, fun P => ?_,
    fun P => ?_⟩
  · intro event hmem
    rw [Option.mem_toList] at hmem
    rw [hmem] at hevent
    exact hevent
  · rw [hstays.drivers]
  · intro id driverId amount hshape
    rw [Store.paymentShape, hsame] at hshape
    exact howned id driverId amount hshape
  · rw [due, due, hstays.drivers, hsame]
  · rw [balance, balance, hstays.drivers]

/-- A new payment is open. -/
theorem booked_createPayment {driverId : ℕ} {amount : ℚ} (howned : k.store.PaymentsHaveDrivers)
    (hdriver : (k.store.drivers.find? driverId).isSome = true) :
    Booked k (k.perform (.createPayment driverId amount)) := by
  refine ⟨rfl, rfl, ⟨[], rfl, by simp⟩, fun d => rfl, ?_, fun P => ?_, fun P => rfl⟩
  · intro id d a hshape
    obtain ⟨payment, hrow, hpayment⟩ := Option.map_eq_some_iff.mp hshape
    have hinsert : (k.store.payments.insert _).find? id = some payment := hrow
    rw [Table.find?_insert, Option.or_eq_some_iff] at hinsert
    rcases hinsert with hold | ⟨-, hnew⟩
    · exact howned id d a (by rw [Store.paymentShape, hold, Option.map_some, hpayment])
    · split_ifs at hnew
      obtain rfl := Option.some.inj hnew
      obtain ⟨rfl, -⟩ := Prod.mk.inj hpayment
      exact hdriver
  · have hfresh : k.store.payments.find? k.store.payments.freshKey = none := Table.find?_freshKey _
    show due k.store P + (k.store.payments.insert _).sum (credit P) = _
    rw [Table.sum_insert hfresh]
    simp [credit]

section Update

variable {payment : CommissionPayment} {data : PaymentData}

/-- The payments after an update that goes through. -/
theorem payments_updatePayment (hconflicts : data.conflicts k.store payment.id = false) :
    (k.perform (.updatePayment payment.id data)).store.payments =
      k.store.payments.update payment.id (data.apply k.store.now) (data.id_apply k.store.now) := by
  show (if data.conflicts k.store payment.id = true then _ else _) = _
  rw [hconflicts]
  rfl

/-- An update that is refused, or leaves the payment open. -/
theorem booked_updatePayment (howned : k.store.PaymentsHaveDrivers)
    (hrow : k.store.payments.find? payment.id = some payment) (hopen : payment.status ≠ .succeeded)
    (hdata : data.conflicts k.store payment.id = true ∨ data.status ≠ .succeeded) :
    Booked k (k.perform (.updatePayment payment.id data)) := by
  refine ⟨rfl, rfl, ⟨[], rfl, by simp⟩, fun d => rfl, ?_, fun P => ?_, fun P => rfl⟩
  · intro id d a hshape
    rw [Config.store_perform, Store.paymentShape_updatePayment] at hshape
    exact howned id d a hshape
  · show due k.store P + _ = _
    congr 1
    cases hconflicts : data.conflicts k.store payment.id with
    | true =>
      show (if data.conflicts k.store payment.id = true then _ else _ : Table _ _ _).sum _ = _
      rw [hconflicts]
      rfl
    | false =>
      have hstatus : data.status ≠ .succeeded := by
        rcases hdata with h | h
        · rw [hconflicts] at h
          cases h
        · exact h
      have hafter : (data.apply k.store.now payment).status ≠ .succeeded := hstatus
      rw [payments_updatePayment hconflicts, Table.sum_update hrow]
      simp [credit, hopen, hafter]

/-- A payment is confirmed, and its amount taken off what the driver owes. -/
theorem booked_confirm {amount : ℚ} (howned : k.store.PaymentsHaveDrivers)
    (hrow : k.store.payments.find? payment.id = some payment) (hopen : payment.status ≠ .succeeded)
    (hconflicts : data.conflicts k.store payment.id = false) (hstatus : data.status = .succeeded)
    (hexact : Decimal2.Exact amount) (hamount : Decimal2.ofNumber amount = payment.amount) :
    Booked k ((k.perform (.updatePayment payment.id data)).perform
      (.decrementCommissionDue payment.driverId amount)) := by
  have hsome : (k.store.drivers.find? payment.driverId).isSome = true :=
    howned payment.id payment.driverId payment.amount (by rw [Store.paymentShape, hrow]; rfl)
  obtain ⟨driver, hdriver⟩ := Option.isSome_iff_exists.mp hsome
  have hid : driver.id = payment.driverId := Table.key_of_find? hdriver
  refine ⟨rfl, rfl, ⟨[], ?_, by simp⟩, fun d => ?_, ?_, fun P => ?_, fun P => ?_⟩
  · show (k.todo ++ []) ++ [] = k.todo ++ []
    rw [List.append_nil]
  · show ((k.store.drivers.update payment.driverId (Driver.decrementDue amount)
      (Driver.id_decrementDue amount)).find? d).isSome = _
    rw [Table.find?_update]
    split_ifs
    · rw [Option.isSome_map]
    · rfl
  · intro id d a hshape
    have hkept : ((Cmd.updatePayment payment.id data).exec k.store).paymentShape id = some (d, a) := hshape
    rw [Store.paymentShape_updatePayment] at hkept
    exact howned id d a hkept
  · have hpayments : ((k.perform (.updatePayment payment.id data)).perform
        (.decrementCommissionDue payment.driverId amount)).store.payments = _ :=
      payments_updatePayment hconflicts
    have hdue : due ((k.perform (.updatePayment payment.id data)).perform
        (.decrementCommissionDue payment.driverId amount)).store P = due k.store P +
          ((if P driver.id then driver.commissionDue.decrement amount else 0) -
            if P driver.id then driver.commissionDue else 0) :=
      Table.sum_update hdriver (Driver.decrementDue amount) (Driver.id_decrementDue amount) _
    have hafter : (data.apply k.store.now payment).status = .succeeded := hstatus
    rw [hpayments, hdue, Table.sum_update hrow, Decimal2.decrement_of_exact hexact, hamount, hid]
    simp only [credit, hopen, hafter, false_and, true_and, if_false]
    show _ + (_ + ((if P payment.driverId = true then payment.amount else 0) - 0)) = _
    split_ifs <;> ring
  · show (k.store.drivers.update payment.driverId (Driver.decrementDue amount)
      (Driver.id_decrementDue amount)).sum _ = _
    rw [Table.sum_update hdriver]
    exact add_eq_left.mpr (sub_eq_zero.mpr rfl)

end Update

section Payments

variable {cond : Config → Cmd → Prop} {payment : CommissionPayment} {data : PaymentData} {amount : ℚ}

theorem Booked.refl (howned : k.store.PaymentsHaveDrivers) : Booked k k :=
  ⟨rfl, rfl, ⟨[], (List.append_nil _).symm, by simp⟩, fun _ => rfl, howned, fun _ => rfl, fun _ => rfl⟩

/-- The credit that follows the update of a payment. -/
theorem wlp_applyPaymentSuccess (paymentId : ℕ) (ref : String) (howned : k.store.PaymentsHaveDrivers)
    (hrow : k.store.payments.find? payment.id = some payment) (hopen : payment.status ≠ .succeeded)
    (hconflicts : data.conflicts k.store payment.id = false) (hstatus : data.status = .succeeded)
    (hexact : Decimal2.Exact amount) (hamount : Decimal2.ofNumber amount = payment.amount) :
    (applyPaymentSuccess paymentId payment.driverId amount ref).wlp server cond
      (fun r k' => (∃ a, r = .ok a) ∧ Booked k k') (k.perform (.updatePayment payment.id data)) := by
  have hconfirm := booked_confirm howned hrow hopen hconflicts hstatus hexact hamount
  have hsome : (k.store.drivers.find? payment.driverId).isSome = true :=
    howned payment.id payment.driverId payment.amount (by rw [Store.paymentShape, hrow]; rfl)
  obtain ⟨driver, hdriver⟩ := Option.isSome_iff_exists.mp hsome
  rw [applyPaymentSuccess, Async.bind_eq, CommissionsService.markCommissionPaid, Async.wlp_queryE_bind]
  intro _
  have hfound : (server.store (k.perform (.updatePayment payment.id data))).drivers.find?
      payment.driverId = some driver := hdriver
  rw [hfound]
  -- the message and the two events
  intro _ _ _
  have hmessage := hconfirm.trans (booked_perform (c := .broadcast (.driver payment.driverId)
    .paymentConfirmed (.paymentConfirmed ref amount payment.driverId)) hconfirm.owned rfl rfl rfl)
  have hpaid := hmessage.trans (booked_perform (c := .emit (.commissionPaid paymentId payment.driverId
    amount)) hmessage.owned rfl rfl rfl)
  have hdone := hpaid.trans (booked_perform (c := .emit (.paymentSucceeded ref amount payment.driverId))
    hpaid.owned rfl rfl rfl)
  exact ⟨⟨(), rfl⟩, hdone⟩

/-- The update of an open payment, and the credit if it succeeds. -/
theorem wlp_update_then {α : Type} {c : Prop} [Decidable c] (hc : c ↔ data.status = .succeeded)
    (f : CommissionPayment → ℕ) (ref : String) (x y : CommissionPayment → Except Error α)
    (howned : k.store.PaymentsHaveDrivers) (hrow : k.store.payments.find? payment.id = some payment)
    (hopen : payment.status ≠ .succeeded) (hexact : Decimal2.Exact amount)
    (hamount : Decimal2.ofNumber amount = payment.amount) :
    ((updatePayment payment.id data).bind fun row =>
      if c then (applyPaymentSuccess (f row) payment.driverId amount ref).bind fun _ => .done (x row)
      else .done (y row)).wlp server cond (fun _ k' => Booked k k') k := by
  rw [updatePayment, Async.wlp_queryE_bind]
  intro _
  rw [server_store, server_perform]
  cases hconflicts : data.conflicts k.store payment.id with
  | true => exact booked_updatePayment howned hrow hopen (Or.inl hconflicts)
  | false =>
    rw [hrow]
    by_cases hsucceeded : c
    · show Async.wlp server cond (if c then _ else _) _ _
      rw [if_pos hsucceeded]
      refine Async.wlp_bind (Async.wlp_mono (wlp_applyPaymentSuccess _ ref howned hrow hopen hconflicts
        (hc.mp hsucceeded) hexact hamount) ?_)
      rintro r k' ⟨⟨a, rfl⟩, hbooked⟩
      exact hbooked
    · show Async.wlp server cond (if c then _ else _) _ _
      rw [if_neg hsucceeded]
      exact booked_updatePayment howned hrow hopen (Or.inr fun h => hsucceeded (hc.mpr h))

theorem wlp_confirmPayment (prisma : PrismaClient) (verification : WebhookVerification)
    (howned : k.store.PaymentsHaveDrivers) (hrow : k.store.payments.find? payment.id = some payment) :
    (confirmPayment prisma verification payment).wlp server cond (fun _ k' => Booked k k') k := by
  unfold confirmPayment
  split_ifs with hsettled
  · exact .refl howned
  · cases webhookTxnid prisma verification.txnid with
    | none => exact Booked.refl howned
    | some txnid =>
      dsimp only
      rw [Async.bind_eq, newDate, Async.wlp_read_bind]
      intro _
      have hdate : Booked k (k.perform .date) := booked_perform howned rfl rfl rfl
      refine Async.wlp_mono ?_ fun _ _ h => hdate.trans h
      exact wlp_update_then Iff.rfl (fun _ => payment.id) _ _ _ hdate.owned hrow hsettled
        (Decimal2.exact_toNumber _) (Decimal2.ofNumber_toNumber _)

/-- A payment was looked up: nothing has changed, and what was found is a row. -/
def LookedUp (k : Config) (r : Except Error (Option CommissionPayment)) (k' : Config) : Prop :=
  Booked k k' ∧ k'.store.payments = k.store.payments ∧
    ∀ payment, r = .ok (some payment) → k.store.payments.find? payment.id = some payment

theorem wlp_findPayment (p : CommissionPayment → Bool) (howned : k.store.PaymentsHaveDrivers) :
    (findPayment p).wlp server cond (LookedUp k) k := by
  intro _
  refine ⟨booked_perform howned rfl rfl rfl, rfl, fun payment h => ?_⟩
  exact (Table.find?_of_findFirst (Except.ok.inj h)).1

theorem wlp_findByNotifToken (prisma : PrismaClient) (notifToken : Option Json)
    (howned : k.store.PaymentsHaveDrivers) :
    (findByNotifToken prisma notifToken).wlp server cond (LookedUp k) k := by
  have hnothing : ∀ r : Except Error (Option CommissionPayment), (∀ payment, r ≠ .ok (some payment)) →
      LookedUp k r k := fun r hr => ⟨.refl howned, rfl, fun payment h => absurd h (hr payment)⟩
  unfold findByNotifToken
  cases notifToken.filter Json.truthy with
  | none => exact hnothing _ (by simp)
  | some token =>
    dsimp only
    cases prisma.stringFilter token with
    | none => exact hnothing _ (by simp)
    | some accepts => exact wlp_findPayment _ howned

/-- The two other lookups keep what was found before. -/
theorem wlp_findOther {found : Option CommissionPayment}
    {lookup : Option CommissionPayment → Prog (Option CommissionPayment)}
    (hsome : ∀ payment, lookup (some payment) = pure (some payment))
    (hnone : lookup none = pure none ∨ ∃ p, lookup none = findPayment p)
    (howned : k.store.PaymentsHaveDrivers)
    (hfound : ∀ payment, found = some payment → k.store.payments.find? payment.id = some payment) :
    (lookup found).wlp server cond (LookedUp k) k := by
  cases found with
  | some payment =>
    rw [hsome]
    exact ⟨.refl howned, rfl, fun payment' h => hfound payment' (Except.ok.inj h)⟩
  | none =>
    rcases hnone with h | ⟨p, h⟩
    · rw [h]
      exact ⟨.refl howned, rfl, by simp⟩
    · rw [h]
      exact wlp_findPayment p howned

/-- What comes after a lookup starts with a row. -/
theorem wlp_lookup_bind {α : Type} {p : Prog (Option CommissionPayment)}
    {f : Option CommissionPayment → Prog α} (hp : p.wlp server cond (LookedUp k) k)
    (hf : ∀ found k', k'.store.PaymentsHaveDrivers →
      (∀ payment, found = some payment → k'.store.payments.find? payment.id = some payment) →
      (f found).wlp server cond (fun _ k'' => Booked k' k'') k') :
    (p.bind f).wlp server cond (fun _ k' => Booked k k') k := by
  refine Async.wlp_bind (Async.wlp_mono hp ?_)
  rintro (e | found) k' ⟨hbooked, hpayments, hfound⟩
  · exact hbooked
  · refine Async.wlp_mono (hf found k' hbooked.owned fun payment h => ?_) fun _ _ h => hbooked.trans h
    rw [hpayments]
    exact hfound payment (by rw [h])

theorem wlp_handleWebhook (provider : PaymentProvider) (prisma : PrismaClient) (payload : Record)
    (signature : Option String) (howned : k.store.PaymentsHaveDrivers) :
    (handleWebhook provider prisma payload signature).wlp server cond (fun _ k' => Booked k k') k := by
  unfold handleWebhook
  cases provider.verifyWebhook payload signature with
  | error e => exact Booked.refl howned
  | ok verification =>
    dsimp only
    split_ifs
    · rw [Async.bind_eq]
      refine wlp_lookup_bind (wlp_findByNotifToken prisma _ howned) fun found k₁ howned₁ hfound₁ => ?_
      rw [Async.bind_eq]
      refine wlp_lookup_bind (wlp_findOther (fun _ => rfl) ?_ howned₁ hfound₁)
        fun found k₂ howned₂ hfound₂ => ?_
      · unfold findByTransactionRef
        cases truthyString verification.transactionRef with
        | none => exact Or.inl rfl
        | some ref => exact Or.inr ⟨_, rfl⟩
      rw [Async.bind_eq]
      refine wlp_lookup_bind (wlp_findOther (fun _ => rfl) ?_ howned₂ hfound₂)
        fun found k₃ howned₃ hfound₃ => ?_
      · unfold findByOrderId
        cases truthyString verification.orderId with
        | none => exact Or.inl rfl
        | some order => exact Or.inr ⟨_, rfl⟩
      cases found with
      | none =>
        dsimp only
        cases notFoundWarning verification.notifToken with
        | error e => exact Booked.refl howned₃
        | ok _ => exact Booked.refl howned₃
      | some payment => exact wlp_confirmPayment prisma verification howned₃ (hfound₃ payment rfl)
    · exact Booked.refl howned

theorem wlp_pollProvider (provider : PaymentProvider) (userId : ℕ) (howned : k.store.PaymentsHaveDrivers)
    (hrow : k.store.payments.find? payment.id = some payment) (hopen : payment.status ≠ .succeeded) :
    (pollProvider provider payment userId).wlp server cond (fun _ k' => Booked k k') k := by
  unfold pollProvider
  split
  · rename_i check transactionRef orderId _ _ _
    rw [Async.bind_eq, Async.wlp_queryE_bind]
    intro _
    have hasked : Booked k (k.perform .external) := booked_perform howned rfl rfl rfl
    refine Async.wlp_mono ?_ fun _ _ h => hasked.trans h
    cases check transactionRef orderId payment.amount.toNumber (server.store k) with
    | error e => exact Booked.refl hasked.owned
    | ok result =>
      rw [Async.done_ok_bind]
      by_cases hpending : result.status = .pending
      · rw [if_pos hpending]
        exact Booked.refl hasked.owned
      · rw [if_neg hpending, Async.bind_eq, newDate, Async.wlp_read_bind]
        intro _
        have hdate : Booked (k.perform .external) ((k.perform .external).perform .date) :=
          booked_perform hasked.owned rfl rfl rfl
        refine Async.wlp_mono ?_ fun _ _ h => hdate.trans h
        exact wlp_update_then Iff.rfl (fun _ => payment.id) _ _ _ hdate.owned hrow hopen
          (Decimal2.exact_toNumber _) (Decimal2.ofNumber_toNumber _)
  · exact Booked.refl howned

theorem wlp_checkPaymentStatus (provider : PaymentProvider) (paymentId userId : ℕ)
    (howned : k.store.PaymentsHaveDrivers) :
    (checkPaymentStatus provider paymentId userId).wlp server cond (fun _ k' => Booked k k') k := by
  unfold checkPaymentStatus findPaymentWithOwner
  rw [Async.bind_eq, Async.wlp_query_bind]
  intro _
  have hread : Booked k (k.perform .findPayment) := booked_perform howned rfl rfl rfl
  refine Async.wlp_mono ?_ fun _ _ h => hread.trans h
  rw [server_store, server_perform]
  cases hrow : k.store.payments.find? paymentId with
  | none => exact Booked.refl hread.owned
  | some payment =>
    dsimp only [Option.map_some]
    split_ifs with howner hstatus
    · exact Booked.refl hread.owned
    · exact Booked.refl hread.owned
    · obtain rfl : payment.id = paymentId := Table.key_of_find? hrow
      have hopen : payment.status ≠ .succeeded := by
        rw [not_not.mp hstatus]
        decide
      rw [Async.bind_eq]
      refine Async.wlp_bind (Async.wlp_tryCatch (Async.wlp_mono
        (wlp_pollProvider provider userId hread.owned hrow hopen) ?_))
      rintro (e | polled) k' hbooked
      · exact hbooked
      · exact hbooked

theorem wlp_payCommission (provider : PaymentProvider) (userId : ℕ) (phoneNumber : String)
    (howned : k.store.PaymentsHaveDrivers) (hexact : Decimal2.Exact amount) :
    (payCommission provider userId amount phoneNumber).wlp server cond (fun _ k' => Booked k k') k := by
  rw [payCommission, Async.bind_eq, findDriver, Async.wlp_query_bind]
  intro _
  have hread : Booked k (k.perform (.findDriver userId)) := booked_perform howned rfl rfl rfl
  refine Async.wlp_mono ?_ fun _ _ h => hread.trans h
  rw [server_store, server_perform]
  cases hdriver : k.store.drivers.findFirst fun d => decide (d.userId = userId) with
  | none => exact Booked.refl hread.owned
  | some driver =>
    have hsome : (k.store.drivers.find? driver.id).isSome = true := by
      rw [(Table.find?_of_findFirst hdriver).1]
      rfl
    dsimp only
    rw [Async.bind_eq, createPayment, Async.wlp_query_bind]
    intro _
    have hcreated : Booked (k.perform (.findDriver userId))
        ((k.perform (.findDriver userId)).perform (.createPayment driver.id amount)) :=
      booked_createPayment hread.owned hsome
    refine Async.wlp_mono ?_ fun _ _ h => hcreated.trans h
    -- the row that was created is open
    let payment : CommissionPayment :=
      { id := k.store.payments.freshKey, driverId := driver.id, amount := .ofNumber amount
        createdAt := k.store.now, updatedAt := k.store.now }
    have hrow : (k.store.payments.insert payment).find? payment.id = some payment :=
      Table.find?_insert_self (Table.find?_freshKey _)
    have hopen : payment.status ≠ .succeeded := by
      show CommissionPaymentStatus.pending ≠ .succeeded
      decide
    rw [Async.bind_eq, Async.wlp_queryE_bind]
    intro _
    have hasked := booked_perform (c := .external) hcreated.owned rfl rfl rfl
    refine Async.wlp_mono ?_ fun _ _ h => hasked.trans h
    rw [server_store]
    cases provider.initiate _ _ with
    | error e => exact Booked.refl hasked.owned
    | ok result =>
      have hstatus : result.status = .succeeded ↔ initialStatus result.status = .succeeded := by
        cases result.status <;> simp [initialStatus]
      rw [Async.done_ok_bind, Async.bind_eq, newDate, Async.wlp_read_bind]
      intro _
      have hdate := booked_perform (c := .date) hasked.owned rfl rfl rfl
      refine Async.wlp_mono ?_ fun _ _ h => hdate.trans h
      exact wlp_update_then hstatus CommissionPayment.id _ _ _ hdate.owned hrow hopen hexact rfl

end Payments

end Ledger

end Telima
