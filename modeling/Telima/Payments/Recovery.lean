import Telima.Payments.Credit

/-!
# A confirmation that fails midway

A webhook or a status poll confirms a payment in two writes, the status and then the balance.
`Progress` says where a failed call can leave the two.  Before the status is stored a retry starts
over; once it is stored every later call takes the payment as settled, so a failure of the decrement
is never made up for.  `payCommission` has the same two writes, but before the first of them nothing
refers to the payment at the provider, and after it the decrement is again lost.
-/

namespace Telima

open PaymentsService

/-! ### Reconciliation -/

section Reconcile

variable (prisma : PrismaClient) (v : WebhookVerification) (s : Store)

/-- The payment found by `notif_token`. -/
def matchNotifToken : Option CommissionPayment :=
  (v.notifToken.filter Json.truthy).bind fun token =>
    (prisma.stringFilter token).bind fun accepts =>
      s.payments.findFirst fun p => accepts p.notifToken

/-- The payment found by `transactionRef`. -/
def matchTransactionRef : Option CommissionPayment :=
  (truthyString v.transactionRef).bind fun ref =>
    s.payments.findFirst fun p => decide (p.transactionRef = some ref)

/-- The payment found by `orderId`. -/
def matchOrderId : Option CommissionPayment :=
  (truthyString v.orderId).bind fun order =>
    s.payments.findFirst fun p => decide (p.orderId = some order)

/-- The payment a webhook concerns. -/
def reconcile : Option CommissionPayment :=
  ((matchNotifToken prisma v s).or (matchTransactionRef v s)).or (matchOrderId v s)

/-- Prisma accepts the webhook's token as a filter. -/
def Filterable : Prop :=
  ∀ token, v.notifToken.filter Json.truthy = some token → (prisma.stringFilter token).isSome

end Reconcile

section Lookups

variable {α : Type} {prisma : PrismaClient} {v : WebhookVerification} {s : Store}
  {Φ : Option Cmd → Store → Prop}

theorem interrupts_findPayment_bind {p : CommissionPayment → Bool}
    {g : Option CommissionPayment → Prog α} (hfind : Φ (some .findPayment) s)
    (hg : (g (s.payments.findFirst p)).Interrupts Cmd.exec Φ s) :
    ((findPayment p).bind g).Interrupts Cmd.exec Φ s :=
  ⟨hfind, fun _ => hfind, hg⟩

theorem interrupts_findByNotifToken_bind (hv : Filterable prisma v)
    {g : Option CommissionPayment → Prog α} (hfind : Φ (some .findPayment) s)
    (hg : (g (matchNotifToken prisma v s)).Interrupts Cmd.exec Φ s) :
    ((findByNotifToken prisma v.notifToken).bind g).Interrupts Cmd.exec Φ s := by
  unfold findByNotifToken
  unfold matchNotifToken at hg
  cases htoken : v.notifToken.filter Json.truthy with
  | none => rwa [htoken] at hg
  | some token =>
    obtain ⟨accepts, haccepts⟩ := Option.isSome_iff_exists.mp (hv token htoken)
    rw [htoken, Option.bind_some, haccepts, Option.bind_some] at hg
    simp only [haccepts]
    exact interrupts_findPayment_bind hfind hg

theorem interrupts_findByTransactionRef_bind {found : Option CommissionPayment}
    {g : Option CommissionPayment → Prog α} (hfind : Φ (some .findPayment) s)
    (hg : (g (found.or (matchTransactionRef v s))).Interrupts Cmd.exec Φ s) :
    ((findByTransactionRef v.transactionRef found).bind g).Interrupts Cmd.exec Φ s := by
  unfold findByTransactionRef
  unfold matchTransactionRef at hg
  cases found with
  | some payment => exact hg
  | none =>
    cases href : truthyString v.transactionRef with
    | none =>
      rw [href, Option.bind_none, Option.none_or] at hg
      exact hg
    | some ref =>
      rw [href, Option.bind_some, Option.none_or] at hg
      exact interrupts_findPayment_bind hfind hg

theorem interrupts_findByOrderId_bind {found : Option CommissionPayment}
    {g : Option CommissionPayment → Prog α} (hfind : Φ (some .findPayment) s)
    (hg : (g (found.or (matchOrderId v s))).Interrupts Cmd.exec Φ s) :
    ((findByOrderId v.orderId found).bind g).Interrupts Cmd.exec Φ s := by
  unfold findByOrderId
  unfold matchOrderId at hg
  cases found with
  | some payment => exact hg
  | none =>
    cases horder : truthyString v.orderId with
    | none =>
      rw [horder, Option.bind_none, Option.none_or] at hg
      exact hg
    | some order =>
      rw [horder, Option.bind_some, Option.none_or] at hg
      exact interrupts_findPayment_bind hfind hg

/-- A verified webhook that reconciles with a payment goes on as `confirmPayment`. -/
theorem interrupts_handleWebhook {provider : PaymentProvider} {payload : Record}
    {signature : Option String} {payment : CommissionPayment}
    (hverify : provider.verifyWebhook payload signature = .ok v) (hvalid : v.valid = true)
    (hfilter : Filterable prisma v) (hmatch : reconcile prisma v s = some payment)
    (hfind : Φ (some .findPayment) s)
    (hconfirm : (confirmPayment prisma v payment).Interrupts Cmd.exec Φ s) :
    (handleWebhook provider prisma payload signature).Interrupts Cmd.exec Φ s := by
  unfold handleWebhook
  simp only [hverify, hvalid, if_true, Async.bind_eq]
  apply interrupts_findByNotifToken_bind hfilter hfind
  apply interrupts_findByTransactionRef_bind hfind
  apply interrupts_findByOrderId_bind hfind
  rw [← reconcile, hmatch]
  exact hconfirm

end Lookups

/-! ### Where a confirmation can be left -/

/-- The payments and the balances are the same. -/
def SameTables (s t : Store) : Prop := t.payments = s.payments ∧ t.drivers = s.drivers

/-- The payment, and nothing else, has become `succeeded`. -/
def StatusStored (s : Store) (payment : CommissionPayment) (t : Store) : Prop :=
  ∃ (data : PaymentData) (now : ℕ), data.references = none ∧ data.status = .succeeded ∧
    t.payments = s.payments.update payment.id (data.apply now) (data.id_apply now)

/-- The status is stored, the balance is not. -/
def HalfConfirmed (s : Store) (payment : CommissionPayment) (t : Store) : Prop :=
  StatusStored s payment t ∧ t.drivers = s.drivers

/-- Both are stored. -/
def FullyConfirmed (s : Store) (payment : CommissionPayment) (t : Store) : Prop :=
  StatusStored s payment t ∧
    t.drivers = s.drivers.update payment.driverId
      (Driver.decrementDue payment.amount.toNumber)
      (Driver.id_decrementDue payment.amount.toNumber)

/-- What a call that confirms `payment` leaves when the command `c` fails. -/
def Progress (s : Store) (payment : CommissionPayment) (c : Option Cmd) (t : Store) : Prop :=
  match c with
  | none => FullyConfirmed s payment t
  | some (.decrementCommissionDue _ _) => HalfConfirmed s payment t
  | some _ => SameTables s t

section Progress

variable {s t : Store} {payment : CommissionPayment}

/-- The two writes of a confirmation. -/
theorem interrupts_update_then_apply {α : Type} (data : PaymentData)
    (href : data.references = none) (hstatus : data.status = .succeeded)
    (hrow : s.payments.find? payment.id = some payment)
    (hdriver : (s.drivers.find? payment.driverId).isSome) (ref : String) (a : α)
    (hsame : SameTables s t) :
    ((updatePayment payment.id data).bind fun _ =>
        if data.status = .succeeded then
          (applyPaymentSuccess payment.id payment.driverId payment.amount.toNumber ref).bind
            fun _ => .done (.ok a)
        else .done (.ok a)).Interrupts Cmd.exec (Progress s payment) t := by
  have hconf : data.conflicts t payment.id = false := by simp [PaymentData.conflicts, href]
  obtain ⟨hpay, hdrv⟩ := hsame
  obtain ⟨driver, hdriver⟩ := Option.isSome_iff_exists.mp hdriver
  have hstored : StatusStored s payment ((Cmd.updatePayment payment.id data).exec t) := by
    refine ⟨data, t.now, href, hstatus, ?_⟩
    simp only [Cmd.exec, hconf, hpay, Bool.false_eq_true, if_false]
  have hdriver' : ((Cmd.updatePayment payment.id data).exec t).drivers.find? payment.driverId =
      some driver := by
    rw [Cmd.exec_drivers rfl, hdrv, hdriver]
  rw [updatePayment, Async.interrupts_queryE_bind]
  refine ⟨⟨hpay, hdrv⟩, fun _ => ⟨hpay, hdrv⟩, ?_⟩
  simp only [hconf, hpay, hrow, hstatus, Bool.false_eq_true, if_false, if_true, Option.map_some,
    orNotFound, Option.elim_some, Async.done_ok_bind]
  rw [Async.interrupts_bind_done, applyPaymentSuccess, CommissionsService.markCommissionPaid,
    Async.bind_eq, Async.interrupts_queryE_bind]
  refine ⟨⟨hstored, hdrv⟩, fun _ => ⟨hstored, hdrv⟩, ?_⟩
  simp only [hdriver', Option.map_some, orNotFound, Option.elim_some, Async.done_ok_bind,
    Async.bind_eq, Async.interrupts_emit_bind, Async.interrupts_emit]
  refine ⟨hstored, ?_⟩
  simp only [Cmd.exec, hdrv]

theorem interrupts_confirmPayment {prisma : PrismaClient} {v : WebhookVerification}
    (hrow : s.payments.find? payment.id = some payment)
    (hdriver : (s.drivers.find? payment.driverId).isSome)
    (hopen : payment.status ≠ .succeeded) (hsuccess : v.status = some .succeeded)
    (htxnid : (webhookTxnid prisma v.txnid).isSome) (hsame : SameTables s t) :
    (confirmPayment prisma v payment).Interrupts Cmd.exec (Progress s payment) t := by
  obtain ⟨txnid, htxnid⟩ := Option.isSome_iff_exists.mp htxnid
  unfold confirmPayment
  rw [if_neg hopen, hsuccess]
  simp only [htxnid]
  exact interrupts_update_then_apply (webhookData t .succeeded txnid) rfl rfl hrow hdriver
    (webhookRef payment v) _ hsame

end Progress

/-! ### The calls -/

/-- The provider reports success for the payment whenever it is asked. -/
def ReportsSuccess (provider : PaymentProvider) (payment : CommissionPayment) : Prop :=
  ∀ check transactionRef orderId, provider.checkTransactionStatus = some check →
    truthyString payment.transactionRef = some transactionRef →
    truthyString payment.orderId = some orderId →
    ∀ t, ∃ txnid, check transactionRef orderId payment.amount.toNumber t =
      .ok { status := .succeeded, txnid }

/-- The call confirms `payment`, as far as the provider is concerned: a webhook that reports success
and reconciles with the payment, or a poll of it by its driver while the provider reports success. -/
def ConfirmationCall.Concerns (env : Env) (s : Store) (payment : CommissionPayment) :
    ConfirmationCall → Prop
  | .webhook payload signature => ∃ v, env.payment.verifyWebhook payload signature = .ok v ∧
      v.valid = true ∧ v.status = some .succeeded ∧ (webhookTxnid env.prisma v.txnid).isSome ∧
      Filterable env.prisma v ∧ reconcile env.prisma v s = some payment
  | .poll paymentId userId => paymentId = payment.id ∧
      (s.drivers.find? payment.driverId).map Driver.userId = some userId ∧
      ReportsSuccess env.payment payment

/-- A poll asks the provider. -/
def Pollable (provider : PaymentProvider) (payment : CommissionPayment) : Prop :=
  payment.status = .pending ∧ provider.checkTransactionStatus.isSome ∧
    (truthyString payment.transactionRef).isSome ∧ (truthyString payment.orderId).isSome

/-- The call can confirm the payment: a poll has to ask the provider. -/
def ConfirmationCall.CanConfirm (env : Env) (payment : CommissionPayment) :
    ConfirmationCall → Prop
  | .webhook _ _ => True
  | .poll _ _ => Pollable env.payment payment

section Calls

variable {env : Env} {s t : Store} {payment : CommissionPayment} {call : ConfirmationCall}

theorem reconcile_congr {prisma : PrismaClient} (v : WebhookVerification)
    (h : t.payments = s.payments) : reconcile prisma v t = reconcile prisma v s := by
  simp only [reconcile, matchNotifToken, matchTransactionRef, matchOrderId, h]

/-- The status of a payment is not looked at to find it. -/
theorem reconcile_statusStored {prisma : PrismaClient} {v : WebhookVerification}
    (h : StatusStored s payment t) (hmatch : reconcile prisma v s = some payment) :
    ∃ payment', reconcile prisma v t = some payment' ∧ payment'.status = .succeeded := by
  obtain ⟨data, now, href, hstatus, hpay⟩ := h
  have hlookup : ∀ (p : CommissionPayment → Bool), (∀ r, p (data.apply now r) = p r) →
      t.payments.findFirst p = (s.payments.findFirst p).map fun r =>
        if decide (r.id = payment.id) then data.apply now r else r := fun p hp => by
    rw [hpay, Table.findFirst_update _ _ hp]
  have htoken : matchNotifToken prisma v t = (matchNotifToken prisma v s).map fun r =>
      if decide (r.id = payment.id) then data.apply now r else r := by
    unfold matchNotifToken
    cases v.notifToken.filter Json.truthy with
    | none => rfl
    | some token =>
      simp only [Option.bind_some]
      cases prisma.stringFilter token with
      | none => rfl
      | some accepts =>
        exact hlookup _ fun r => by simp [PaymentData.apply, href]
  have hreference : matchTransactionRef v t = (matchTransactionRef v s).map fun r =>
      if decide (r.id = payment.id) then data.apply now r else r := by
    unfold matchTransactionRef
    cases truthyString v.transactionRef with
    | none => rfl
    | some ref => exact hlookup _ fun r => by simp [PaymentData.apply, href]
  have horder : matchOrderId v t = (matchOrderId v s).map fun r =>
      if decide (r.id = payment.id) then data.apply now r else r := by
    unfold matchOrderId
    cases truthyString v.orderId with
    | none => rfl
    | some order => exact hlookup _ fun r => by simp [PaymentData.apply, href]
  refine ⟨data.apply now payment, ?_, hstatus⟩
  rw [reconcile, htoken, hreference, horder, ← Option.map_or, ← Option.map_or, ← reconcile, hmatch,
    Option.map_some, if_pos (by simp)]

/-- The end of `checkPaymentStatus` writes nothing. -/
theorem interrupts_polled {Φ : Option Cmd → Store → Prop} {p : Prog (Option PaymentStatusResponse)}
    (stored : PaymentStatusResponse) (h : p.Interrupts Cmd.exec Φ t) :
    ((Async.tryCatch p fun _ => pure none).bind fun polled =>
      pure (polled.getD stored)).Interrupts Cmd.exec Φ t :=
  (Async.interrupts_bind_done _ (fun polled : Option PaymentStatusResponse =>
    .ok (polled.getD stored)) t).mpr
    ((Async.interrupts_tryCatch_done p (fun _ => .ok none) t).mpr h)

/-- A call that can confirm the payment, wherever it fails. -/
theorem interrupts_program (hrow : s.payments.find? payment.id = some payment)
    (hdriver : (s.drivers.find? payment.driverId).isSome) (hopen : payment.status ≠ .succeeded)
    (hcall : call.Concerns env s payment) (hcan : call.CanConfirm env payment)
    (hsame : SameTables s t) :
    (call.program env).Interrupts Cmd.exec (Progress s payment) t := by
  cases call with
  | webhook payload signature =>
    obtain ⟨v, hverify, hvalid, hsuccess, htxnid, hfilter, hmatch⟩ := hcall
    refine (Async.interrupts_bind_done _ _ _).mpr ?_
    exact interrupts_handleWebhook hverify hvalid hfilter
      ((reconcile_congr v hsame.1).trans hmatch) hsame
      (interrupts_confirmPayment hrow hdriver hopen hsuccess htxnid hsame)
  | poll paymentId userId =>
    obtain ⟨rfl, howner, hreports⟩ := hcall
    obtain ⟨hpending, hcheck, href, horder⟩ := hcan
    obtain ⟨check, hcheck⟩ := Option.isSome_iff_exists.mp hcheck
    obtain ⟨transactionRef, href⟩ := Option.isSome_iff_exists.mp href
    obtain ⟨orderId, horder⟩ := Option.isSome_iff_exists.mp horder
    obtain ⟨txnid, hanswer⟩ := hreports check transactionRef orderId hcheck href horder t
    refine (Async.interrupts_bind_done _ _ _).mpr ?_
    unfold checkPaymentStatus findPaymentWithOwner
    rw [Async.bind_eq, Async.interrupts_query_bind]
    refine ⟨hsame, fun _ => hsame, ?_⟩
    simp only [hsame.1, hrow, hsame.2, Option.map_some, howner, ne_eq, not_true_eq_false, if_false,
      hpending, Cmd.exec, Async.bind_eq]
    apply interrupts_polled
    unfold pollProvider
    simp only [hcheck, href, horder, Async.bind_eq]
    rw [Async.interrupts_queryE_bind]
    refine ⟨hsame, fun _ => hsame, ?_⟩
    simp only [hanswer, Async.done_ok_bind, reduceCtorEq, if_false]
    exact interrupts_update_then_apply
      { status := .succeeded, txnid := some (txnid.or payment.txnid), paidAt := some _ } rfl rfl
      hrow hdriver transactionRef _ hsame

/-- A webhook that can only find `succeeded` payments changes nothing. -/
theorem interrupts_webhook_of_settled {payload : Record} {signature : Option String}
    (h : ∀ v, env.payment.verifyWebhook payload signature = .ok v → v.valid = true →
      Filterable env.prisma v ∧
        ∀ p, reconcile env.prisma v t = some p → p.status = .succeeded) :
    ((ConfirmationCall.webhook payload signature).program env).Interrupts Cmd.exec
      (fun _ => SameTables t) t := by
  refine (Async.interrupts_bind_done _ _ _).mpr ?_
  have hrefl : SameTables t t := ⟨rfl, rfl⟩
  unfold handleWebhook
  cases hverify : env.payment.verifyWebhook payload signature with
  | error e => exact hrefl
  | ok v =>
    cases hvalid : v.valid with
    | false =>
      simp only [hvalid, Bool.false_eq_true, if_false]
      exact hrefl
    | true =>
      obtain ⟨hfilter, hsettled⟩ := h v hverify hvalid
      simp only [hvalid, if_true, Async.bind_eq]
      apply interrupts_findByNotifToken_bind hfilter hrefl
      apply interrupts_findByTransactionRef_bind hrefl
      apply interrupts_findByOrderId_bind hrefl
      rw [← reconcile]
      cases hmatch : reconcile env.prisma v t with
      | none =>
        dsimp only
        split <;> exact hrefl
      | some p =>
        simp only
        unfold confirmPayment
        rw [if_pos (hsettled p hmatch)]
        exact hrefl

theorem ConfirmationCall.Concerns.interrupts_of_settled {payload : Record}
    {signature : Option String}
    (hcall : (ConfirmationCall.webhook payload signature).Concerns env s payment)
    (hsame : SameTables s t) (hsettled : payment.status = .succeeded) :
    ((ConfirmationCall.webhook payload signature).program env).Interrupts Cmd.exec
      (fun _ => SameTables t) t := by
  obtain ⟨v, hverify, -, -, -, hfilter, hmatch⟩ := hcall
  refine interrupts_webhook_of_settled fun v' hverify' _ => ?_
  obtain rfl := Except.ok.inj (hverify.symm.trans hverify')
  refine ⟨hfilter, fun p hp => ?_⟩
  obtain rfl := Option.some.inj (((reconcile_congr v hsame.1).trans hmatch).symm.trans hp)
  exact hsettled

/-- A poll of a payment that is not `pending` changes nothing. -/
theorem interrupts_poll_of_not_pending (env : Env) (userId : ℕ) {paymentId : ℕ}
    {p : CommissionPayment} (hrow : t.payments.find? paymentId = some p)
    (hp : p.status = .pending → ¬ Pollable env.payment p) :
    ((ConfirmationCall.poll paymentId userId).program env).Interrupts Cmd.exec
      (fun _ => SameTables t) t := by
  refine (Async.interrupts_bind_done _ _ _).mpr ?_
  have hrefl : SameTables t t := ⟨rfl, rfl⟩
  unfold checkPaymentStatus findPaymentWithOwner
  rw [Async.bind_eq, Async.interrupts_query_bind]
  refine ⟨hrefl, fun _ => hrefl, ?_⟩
  simp only [hrow, Option.map_some, Async.bind_eq]
  split_ifs with howner hpending
  · exact hrefl
  · exact hrefl
  · apply interrupts_polled
    unfold pollProvider
    split
    · rename_i check transactionRef orderId hcheck href horder
      have hpend := not_not.mp hpending
      refine absurd ⟨hpend, ?_, ?_, ?_⟩ (hp hpend)
      · rw [hcheck]; rfl
      · rw [href]; rfl
      · rw [horder]; rfl
    · exact hrefl

/-- A call that concerns a payment changes nothing once the payment is `succeeded`. -/
theorem run_program_of_statusStored (hcall : call.Concerns env s payment)
    (hrow : s.payments.find? payment.id = some payment) (ht : StatusStored s payment t) :
    SameTables t ((call.program env).run Cmd.exec t).store := by
  cases call with
  | webhook payload signature =>
    obtain ⟨v, hverify, hvalid, hsuccess, htxnid, hfilter, hmatch⟩ := hcall
    refine (interrupts_webhook_of_settled fun v' hverify' _ => ?_).run
    obtain rfl := Except.ok.inj (hverify.symm.trans hverify')
    obtain ⟨payment', hmatch', hstatus⟩ := reconcile_statusStored ht hmatch
    refine ⟨hfilter, fun p hp => ?_⟩
    obtain rfl := Option.some.inj (hmatch'.symm.trans hp)
    exact hstatus
  | poll paymentId userId =>
    obtain ⟨rfl, -, -⟩ := hcall
    obtain ⟨data, now, href, hstatus, hpay⟩ := ht
    have hrow' : t.payments.find? payment.id = some (data.apply now payment) := by
      rw [hpay, Table.find?_update_self, hrow, Option.map_some]
    refine (interrupts_poll_of_not_pending env userId hrow' fun hpending => ?_).run
    have hsucceeded : (data.apply now payment).status = .succeeded := hstatus
    exact absurd (hpending.symm.trans hsucceeded) (by decide)

/-- A poll that cannot ask the provider changes nothing. -/
theorem run_program_of_not_canConfirm (hcall : call.Concerns env s payment)
    (hrow : s.payments.find? payment.id = some payment) (hcan : ¬ call.CanConfirm env payment)
    (hsame : SameTables s t) :
    SameTables s ((call.program env).run Cmd.exec t).store := by
  cases call with
  | webhook payload signature => exact absurd trivial hcan
  | poll paymentId userId =>
    obtain ⟨rfl, -, -⟩ := hcall
    have h := (interrupts_poll_of_not_pending env userId
      ((congrArg (·.find? payment.id) hsame.1).trans hrow) fun _ => hcan).run
    exact ⟨h.1.trans hsame.1, h.2.trans hsame.2⟩

end Calls

/-! ### Retries -/

/-- The status of the payment and the balance of its driver. -/
def outcome (payment : CommissionPayment) (t : Store) :
    Option CommissionPaymentStatus × Option Decimal2 :=
  (t.paymentStatus payment.id, t.commissionDue payment.driverId)

/-- What the failure of a call and then a retry leave. -/
def retried {α β : Type} (call : Prog α) (fault : Async.Fault Error) (retry : Prog β) (s : Store) :
    Store :=
  (retry.run Cmd.exec (call.interrupt Cmd.exec fault s)).store

/-- What failed can be made up for: not the decrement, and before it only by a call that can confirm
the payment. -/
def Recoverable (env : Env) (payment : CommissionPayment) (retry : ConfirmationCall) :
    Option Cmd → Prop
  | none => True
  | some (.decrementCommissionDue _ _) => False
  | some _ => retry.CanConfirm env payment

section Outcome

variable {s t : Store} {payment : CommissionPayment}

theorem outcome_congr (h : SameTables s t) : outcome payment t = outcome payment s := by
  simp only [outcome, Store.paymentStatus, Store.commissionDue, h.1, h.2]

theorem paymentStatus_of_statusStored (hrow : s.payments.find? payment.id = some payment)
    (h : StatusStored s payment t) : t.paymentStatus payment.id = some .succeeded := by
  obtain ⟨data, now, -, hstatus, hpay⟩ := h
  rw [Store.paymentStatus, hpay, Table.find?_update_self, hrow, Option.map_some, Option.map_some]
  exact congrArg some hstatus

theorem commissionDue_of_decrement {driverId : ℕ} {amount : ℚ}
    (h : t.drivers = s.drivers.update driverId (Driver.decrementDue amount)
      (Driver.id_decrementDue amount)) :
    t.commissionDue driverId = (s.commissionDue driverId).map fun due => due.decrement amount := by
  rw [Store.commissionDue, h, Table.find?_update_self]
  simp [Store.commissionDue, Option.map_map, Function.comp_def, Driver.decrementDue]

theorem outcome_fullyConfirmed (hrow : s.payments.find? payment.id = some payment)
    (h : FullyConfirmed s payment t) :
    outcome payment t =
      (some .succeeded, (s.commissionDue payment.driverId).map fun due => due - payment.amount) := by
  rw [outcome, paymentStatus_of_statusStored hrow h.1, commissionDue_of_decrement h.2]
  simp only [Decimal2.decrement_toNumber]

theorem outcome_halfConfirmed (hrow : s.payments.find? payment.id = some payment)
    (h : HalfConfirmed s payment t) :
    outcome payment t = (some .succeeded, s.commissionDue payment.driverId) := by
  rw [outcome, paymentStatus_of_statusStored hrow h.1, Store.commissionDue, h.2,
    Store.commissionDue]

end Outcome

/-- A failed call for an open payment that is retried ends as an uninterrupted one exactly when the
failure is recoverable. -/
theorem outcome_retried_of_open (env : Env) {s : Store} {payment : CommissionPayment}
    {call retry : ConfirmationCall} (hrow : s.payments.find? payment.id = some payment)
    (hdriver : (s.drivers.find? payment.driverId).isSome) (hopen : payment.status ≠ .succeeded)
    (hamount : payment.amount ≠ 0) (hcall : call.Concerns env s payment)
    (hcan : call.CanConfirm env payment) (hretry : retry.Concerns env s payment)
    (fault : Async.Fault Error) :
    outcome payment (retried (call.program env) fault (retry.program env) s) =
        outcome payment ((call.program env).run Cmd.exec s).store ↔
      Recoverable env payment retry ((call.program env).failing Cmd.exec fault s) := by
  have hrefl : SameTables s s := ⟨rfl, rfl⟩
  have hprogress := interrupts_program hrow hdriver hopen hcall hcan hrefl
  have hfull := outcome_fullyConfirmed hrow hprogress.run
  obtain ⟨driver, hdriver'⟩ := Option.isSome_iff_exists.mp hdriver
  have hdue : s.commissionDue payment.driverId = some driver.commissionDue := by
    rw [Store.commissionDue, hdriver', Option.map_some]
  have hfault := hprogress.fault fault
  rw [hfull, retried]
  generalize (call.program env).interrupt Cmd.exec fault s = t at hfault ⊢
  cases hfailing : (call.program env).failing Cmd.exec fault s with
  | none =>
    rw [hfailing] at hfault
    rw [outcome_congr (run_program_of_statusStored hretry hrow hfault.1),
      outcome_fullyConfirmed hrow hfault]
    exact iff_of_true rfl trivial
  | some c =>
    rw [hfailing] at hfault
    by_cases hc : ∃ d a, c = .decrementCommissionDue d a
    · obtain ⟨d, a, rfl⟩ := hc
      rw [outcome_congr (run_program_of_statusStored hretry hrow hfault.1),
        outcome_halfConfirmed hrow hfault, hdue, Option.map_some]
      refine iff_of_false (fun h => hamount ?_) id
      have hsub := Option.some.inj (Prod.ext_iff.mp h).2
      exact sub_eq_self.mp hsub.symm
    · have hsame : SameTables s t := by
        cases c <;> first | exact hfault | exact absurd ⟨_, _, rfl⟩ hc
      have hrecover : Recoverable env payment retry (some c) ↔ retry.CanConfirm env payment := by
        cases c <;> first | exact Iff.rfl | exact absurd ⟨_, _, rfl⟩ hc
      rw [hrecover]
      by_cases hcan' : retry.CanConfirm env payment
      · have hrun := (interrupts_program hrow hdriver hopen hretry hcan' hsame).run
        rw [outcome_fullyConfirmed hrow hrun]
        exact iff_of_true rfl hcan'
      · rw [outcome_congr (run_program_of_not_canConfirm hretry hrow hcan' hsame)]
        refine iff_of_false (fun h => hopen ?_) hcan'
        have h := (Prod.ext_iff.mp h).1
        rw [outcome, Store.paymentStatus, hrow, Option.map_some] at h
        exact Option.some.inj h

/-- A call for a settled payment changes nothing, wherever it fails. -/
theorem outcome_retried_of_settled (env : Env) {s : Store} {payment : CommissionPayment}
    {call retry : ConfirmationCall} (hrow : s.payments.find? payment.id = some payment)
    (hsettled : payment.status = .succeeded) (hcall : call.Concerns env s payment)
    (hcan : call.CanConfirm env payment) (hretry : retry.Concerns env s payment)
    (fault : Async.Fault Error) :
    outcome payment (retried (call.program env) fault (retry.program env) s) =
      outcome payment ((call.program env).run Cmd.exec s).store := by
  have hprogress : (call.program env).Interrupts Cmd.exec (fun _ => SameTables s) s := by
    cases call with
    | webhook payload signature => exact hcall.interrupts_of_settled ⟨rfl, rfl⟩ hsettled
    | poll paymentId userId => exact absurd (hcan.1.symm.trans hsettled) (by decide)
  have hfault := hprogress.fault fault
  rw [outcome_congr hprogress.run, retried]
  generalize (call.program env).interrupt Cmd.exec fault s = t at hfault ⊢
  rw [← outcome_congr hfault]
  refine outcome_congr ?_
  cases retry with
  | webhook payload signature => exact (hretry.interrupts_of_settled hfault hsettled).run
  | poll paymentId userId =>
    obtain ⟨rfl, -, -⟩ := hretry
    refine (interrupts_poll_of_not_pending env userId
      ((congrArg (·.find? payment.id) hfault.1).trans hrow) fun h => ?_).run
    exact absurd (h.symm.trans hsettled) (by decide)

/-! ### `payCommission` -/

/-- The row `payCommission` creates. -/
def createdPayment (s : Store) (driverId : ℕ) (amount : ℚ) : CommissionPayment :=
  { id := s.payments.freshKey, driverId, amount := .ofNumber amount
    createdAt := s.now, updatedAt := s.now }

/-- What `payCommission` leaves when the command `c` fails, once the provider has confirmed. -/
def PayProgress (s : Store) (driverId : ℕ) (amount : ℚ) (c : Option Cmd) (t : Store) : Prop :=
  match c with
  | none => t.paymentStatus s.payments.freshKey = some .succeeded ∧
      t.drivers = s.drivers.update driverId (Driver.decrementDue amount)
        (Driver.id_decrementDue amount)
  | some (.decrementCommissionDue _ _) =>
    t.paymentStatus s.payments.freshKey = some .succeeded ∧ t.drivers = s.drivers
  | some (.updatePayment _ _) =>
    t.payments.find? s.payments.freshKey = some (createdPayment s driverId amount)
  | some _ => True

/-- The command follows the provider's answer. -/
def FollowsConfirmation : Option Cmd → Bool
  | some (.updatePayment _ _) | some (.decrementCommissionDue _ _) => true
  | _ => false

theorem followsConfirmation_cases {c : Option Cmd} (h : FollowsConfirmation c = true) :
    (∃ id data, c = some (.updatePayment id data)) ∨
      ∃ driverId amount, c = some (.decrementCommissionDue driverId amount) := by
  unfold FollowsConfirmation at h
  split at h
  · exact Or.inl ⟨_, _, rfl⟩
  · exact Or.inr ⟨_, _, rfl⟩
  · exact absurd h Bool.noConfusion

/-- The call retries the payment: a poll of it, or a webhook with string tokens that reconciles with
no other payment. -/
def ConfirmationCall.Retries (env : Env) (t : Store) (paymentId : ℕ) : ConfirmationCall → Prop
  | .poll paymentId' _ => paymentId' = paymentId
  | .webhook payload signature => ∀ v, env.payment.verifyWebhook payload signature = .ok v →
      v.valid = true →
        (∀ token, v.notifToken = some token → ∃ tk, token = .str tk) ∧
        ∀ p, reconcile env.prisma v t = some p → p.id = paymentId

/-- The synchronous success path of `payCommission`: the caller has a profile, the provider confirms
at once, and its references are new. -/
structure ConfirmsAtOnce (env : Env) (s : Store) (userId : ℕ) (amount : ℚ) (phoneNumber : String)
    (driver : Driver) : Prop where
  profile : (s.drivers.findFirst fun d => decide (d.userId = userId)) = some driver
  confirmed : ∃ result, env.payment.initiate
      { amount, phoneNumber, internalRef := s.payments.freshKey }
      ((Cmd.createPayment driver.id amount).exec s) = .ok result ∧ result.status = .succeeded ∧
    ∀ p ∈ s.payments.rows, p.transactionRef ≠ some result.transactionRef ∧
      (result.orderId.isSome → p.orderId ≠ result.orderId)

section Pay

variable {env : Env} {s t : Store} {userId : ℕ} {amount : ℚ} {phoneNumber : String}
  {driver : Driver}

theorem find?_createPayment (driverId : ℕ) :
    ((Cmd.createPayment driverId amount).exec s).payments.find? s.payments.freshKey =
      some (createdPayment s driverId amount) := by
  simp only [Cmd.exec, Table.find?_insert, Table.find?_freshKey]
  rfl

theorem conflicts_createPayment {driverId : ℕ} {data : PaymentData}
    {result : PaymentInitiationResult}
    (href : data.references =
      some (result.transactionRef, result.orderId, result.notifToken, result.paymentUrl))
    (hnew : ∀ p ∈ s.payments.rows, p.transactionRef ≠ some result.transactionRef ∧
      (result.orderId.isSome → p.orderId ≠ result.orderId)) :
    data.conflicts ((Cmd.createPayment driverId amount).exec s) s.payments.freshKey = false := by
  simp only [PaymentData.conflicts, href, Option.any_some, List.any_eq_false]
  intro p hp hconf
  simp only [Bool.and_eq_true, Bool.or_eq_true, decide_eq_true_eq] at hconf
  obtain ⟨hid, href | ⟨hsome, horder⟩⟩ := hconf
  all_goals
    have hold : p ∈ s.payments.rows := by
      rcases Table.mem_insert hp with h | rfl
      · exact h
      · exact absurd rfl hid
  · exact (hnew p hold).1 href
  · exact (hnew p hold).2 hsome horder

/-- The two writes of `payCommission`, once the provider has confirmed. -/
theorem interrupts_pay_then_apply {α : Type} {data : PaymentData} {ref : String}
    {g : CommissionPayment → α} (hstatus : data.status = .succeeded)
    (hconf : data.conflicts t s.payments.freshKey = false)
    (hrow : t.payments.find? s.payments.freshKey = some (createdPayment s driver.id amount))
    (hdrv : t.drivers = s.drivers) (hdriver : s.drivers.find? driver.id = some driver) :
    ((updatePayment s.payments.freshKey data).bind fun updated =>
        (applyPaymentSuccess updated.id driver.id amount ref).bind
          fun _ => .done (.ok (g updated))).Interrupts Cmd.exec (PayProgress s driver.id amount) t := by
  have hstored : ((Cmd.updatePayment s.payments.freshKey data).exec t).paymentStatus
      s.payments.freshKey = some .succeeded := by
    simp only [Store.paymentStatus, Cmd.exec, hconf, Bool.false_eq_true, if_false,
      Table.find?_update_self, hrow, Option.map_some]
    exact congrArg some hstatus
  have hdrv' : ((Cmd.updatePayment s.payments.freshKey data).exec t).drivers = s.drivers := by
    rw [Cmd.exec_drivers rfl, hdrv]
  rw [updatePayment, Async.interrupts_queryE_bind]
  refine ⟨hrow, fun _ => hrow, ?_⟩
  simp only [hconf, hrow, Bool.false_eq_true, if_false, Option.map_some, orNotFound,
    Option.elim_some, Async.done_ok_bind]
  rw [Async.interrupts_bind_done, applyPaymentSuccess, CommissionsService.markCommissionPaid,
    Async.bind_eq, Async.interrupts_queryE_bind]
  refine ⟨⟨hstored, hdrv'⟩, fun _ => ⟨hstored, hdrv'⟩, ?_⟩
  simp only [hdrv', hdriver, Option.map_some, orNotFound, Option.elim_some, Async.done_ok_bind,
    Async.bind_eq, Async.interrupts_emit_bind, Async.interrupts_emit]
  refine ⟨hstored, ?_⟩
  simp only [Cmd.exec, hdrv]

theorem interrupts_payCommission (h : ConfirmsAtOnce env s userId amount phoneNumber driver) :
    (payCommission env.payment userId amount phoneNumber).Interrupts Cmd.exec
      (PayProgress s driver.id amount) s := by
  obtain ⟨hprofile, result, hanswer, hstatus, hnew⟩ := h
  have hdriver : s.drivers.find? driver.id = some driver := (Table.find?_of_findFirst hprofile).1
  unfold payCommission findDriver createPayment
  rw [Async.bind_eq, Async.interrupts_query_bind]
  refine ⟨trivial, fun _ => trivial, ?_⟩
  simp only [hprofile, Async.bind_eq, Async.interrupts_query_bind, Async.interrupts_queryE_bind]
  refine ⟨trivial, fun _ => trivial, trivial, fun _ => trivial, ?_⟩
  rw [show (Cmd.findDriver userId).exec s = s from rfl, hanswer]
  simp only [Async.done_ok_bind, newDate, Async.interrupts_read_bind, hstatus, if_true,
    initialStatus]
  refine interrupts_pay_then_apply rfl ?_ (find?_createPayment driver.id) rfl hdriver
  exact conflicts_createPayment rfl hnew

/-- A webhook with string tokens finds a row by one of the row's own references. -/
theorem reconcile_references {prisma : PrismaClient} {v : WebhookVerification}
    {p : CommissionPayment} (hstr : ∀ token, v.notifToken = some token → ∃ tk, token = .str tk)
    (h : reconcile prisma v t = some p) :
    t.payments.find? p.id = some p ∧
      (p.notifToken.isSome ∨ p.transactionRef.isSome ∨ p.orderId.isSome) := by
  rw [reconcile, Option.or_eq_some_iff, Option.or_eq_some_iff] at h
  rcases h with (htoken | ⟨-, href⟩) | ⟨-, horder⟩
  · obtain ⟨token, hv, h⟩ := Option.bind_eq_some_iff.mp htoken
    obtain ⟨tk, rfl⟩ := hstr token (Option.filter_eq_some_iff.mp hv).1
    rw [prisma.stringFilter_str, Option.bind_some] at h
    obtain ⟨hrow, hp⟩ := Table.find?_of_findFirst h
    exact ⟨hrow, Or.inl (by simp_all)⟩
  · obtain ⟨ref, -, h⟩ := Option.bind_eq_some_iff.mp href
    obtain ⟨hrow, hp⟩ := Table.find?_of_findFirst h
    exact ⟨hrow, Or.inr (Or.inl (by simp_all))⟩
  · obtain ⟨order, -, h⟩ := Option.bind_eq_some_iff.mp horder
    obtain ⟨hrow, hp⟩ := Table.find?_of_findFirst h
    exact ⟨hrow, Or.inr (Or.inr (by simp_all))⟩

/-- The retry finds no row, or only the row with the id, which is settled. -/
theorem ConfirmationCall.Retries.run_sameTables {retry : ConfirmationCall} {id : ℕ}
    {row : CommissionPayment} (hretry : retry.Retries env t id)
    (hrow : t.payments.find? id = some row)
    (hsettled : row.status = .succeeded ∨
      row.notifToken = none ∧ row.transactionRef = none ∧ row.orderId = none) :
    SameTables t ((retry.program env).run Cmd.exec t).store := by
  cases retry with
  | poll paymentId userId =>
    obtain rfl : paymentId = id := hretry
    refine (interrupts_poll_of_not_pending env userId hrow fun hpending hpoll => ?_).run
    obtain ⟨-, -, href, -⟩ := hpoll
    rcases hsettled with hs | ⟨-, hnone, -⟩
    · exact absurd (hpending.symm.trans hs) (by decide)
    · rw [hnone] at href
      exact absurd href (by decide)
  | webhook payload signature =>
    refine (interrupts_webhook_of_settled fun v hverify hvalid => ?_).run
    obtain ⟨hstr, hid⟩ := hretry v hverify hvalid
    refine ⟨fun token htoken => ?_, fun p hp => ?_⟩
    · obtain ⟨tk, rfl⟩ := hstr token (Option.filter_eq_some_iff.mp htoken).1
      rw [env.prisma.stringFilter_str]
      rfl
    · obtain ⟨hfind, href⟩ := reconcile_references hstr hp
      obtain rfl := Option.some.inj ((hid p hp ▸ hfind).symm.trans hrow)
      rcases hsettled with hs | ⟨h₁, h₂, h₃⟩
      · exact hs
      · simp [h₁, h₂, h₃] at href

/-- A failure after the provider's answer leaves the pair different from the uninterrupted one,
whatever the retry. -/
theorem outcome_retried_payCommission_ne (env : Env) {s : Store} {userId : ℕ} {amount : ℚ}
    {phoneNumber : String} {driver : Driver}
    (h : ConfirmsAtOnce env s userId amount phoneNumber driver) (hamount : 1 ≤ amount)
    {fault : Async.Fault Error} {retry : ConfirmationCall}
    (hfault : FollowsConfirmation
      ((payCommission env.payment userId amount phoneNumber).failing Cmd.exec fault s) = true)
    (hretry : retry.Retries env
      ((payCommission env.payment userId amount phoneNumber).interrupt Cmd.exec fault s)
      s.payments.freshKey) :
    outcome (createdPayment s driver.id amount)
        (retried (payCommission env.payment userId amount phoneNumber) fault
          (retry.program env) s) ≠
      outcome (createdPayment s driver.id amount)
        ((payCommission env.payment userId amount phoneNumber).run Cmd.exec s).store := by
  have hprogress := interrupts_payCommission h
  have hdriver : s.drivers.find? driver.id = some driver :=
    (Table.find?_of_findFirst h.profile).1
  have hdue : s.commissionDue driver.id = some driver.commissionDue := by
    rw [Store.commissionDue, hdriver, Option.map_some]
  have hrun := hprogress.run
  have hleft := hprogress.fault fault
  rw [retried]
  generalize (payCommission env.payment userId amount phoneNumber).interrupt Cmd.exec fault s = t
    at hleft hretry ⊢
  intro heq
  obtain ⟨hstatus, hdecrement⟩ := Prod.ext_iff.mp heq
  dsimp only [outcome, createdPayment] at hstatus hdecrement
  rw [hrun.1] at hstatus
  rw [commissionDue_of_decrement hrun.2, hdue, Option.map_some] at hdecrement
  rcases followsConfirmation_cases hfault with ⟨id, data, hc⟩ | ⟨d, a, hc⟩
  · -- nothing refers to the row: it stays `pending`
    rw [hc] at hleft
    have hsame := hretry.run_sameTables hleft (Or.inr ⟨rfl, rfl, rfl⟩)
    rw [Store.paymentStatus, hsame.1, hleft, Option.map_some] at hstatus
    exact absurd (Option.some.inj hstatus) CommissionPaymentStatus.noConfusion
  · -- the row is settled: the balance stays
    rw [hc] at hleft
    obtain ⟨row, hrow, hsettled⟩ := Option.map_eq_some_iff.mp hleft.1
    have hsame := hretry.run_sameTables hrow (Or.inl hsettled)
    rw [Store.commissionDue, hsame.2, hleft.2, ← Store.commissionDue, hdue] at hdecrement
    exact absurd (Option.some.inj hdecrement)
      (Decimal2.decrement_lt ((by norm_num : (1 / 100 : ℚ) ≤ 1).trans hamount) _).ne'

end Pay

/-- A webhook or a poll that fails midway is made up for exactly when the payment was settled before
or the failure is recoverable; a confirmed `payCommission` that fails midway never is. -/
theorem confirmation_recovers_iff (env : Env) :
    (∀ (s : Store) (payment : CommissionPayment) (call retry : ConfirmationCall)
        (fault : Async.Fault Error),
      s.payments.find? payment.id = some payment → (s.drivers.find? payment.driverId).isSome →
      payment.amount ≠ 0 → call.Concerns env s payment → call.CanConfirm env payment →
      retry.Concerns env s payment →
        (outcome payment (retried (call.program env) fault (retry.program env) s) =
            outcome payment ((call.program env).run Cmd.exec s).store ↔
          payment.status = .succeeded ∨
            Recoverable env payment retry ((call.program env).failing Cmd.exec fault s))) ∧
    ∀ (s : Store) (userId : ℕ) (amount : ℚ) (phoneNumber : String) (driver : Driver)
        (fault : Async.Fault Error) (retry : ConfirmationCall),
      ConfirmsAtOnce env s userId amount phoneNumber driver → 1 ≤ amount →
      FollowsConfirmation
        ((payCommission env.payment userId amount phoneNumber).failing Cmd.exec fault s) = true →
      retry.Retries env
        ((payCommission env.payment userId amount phoneNumber).interrupt Cmd.exec fault s)
        s.payments.freshKey →
        outcome (createdPayment s driver.id amount)
            (retried (payCommission env.payment userId amount phoneNumber) fault
              (retry.program env) s) ≠
          outcome (createdPayment s driver.id amount)
            ((payCommission env.payment userId amount phoneNumber).run Cmd.exec s).store := by
  constructor
  · intro s payment call retry fault hrow hdriver hamount hcall hcan hretry
    by_cases hsettled : payment.status = .succeeded
    · exact iff_of_true
        (outcome_retried_of_settled env hrow hsettled hcall hcan hretry fault) (Or.inl hsettled)
    · rw [outcome_retried_of_open env hrow hdriver hsettled hamount hcall hcan hretry fault]
      exact (or_iff_right hsettled).symm
  · intro s userId amount phoneNumber driver fault retry h hamount hfault hretry
    exact outcome_retried_payCommission_ne env h hamount hfault hretry

open Credit

namespace Recovery

/-- The sample payment. -/
def pendingPayment : CommissionPayment :=
  { id := 1, driverId := 1, amount := 5000, notifToken := some "secret"
    createdAt := 0, updatedAt := 0 }

theorem successWebhook_concerns :
    successWebhook.Concerns Env.offline pendingStore pendingPayment := by
  refine ⟨_, rfl, rfl, rfl, rfl, ?_, by decide +kernel⟩
  intro token htoken
  obtain rfl : Json.str "secret" = token :=
    Option.some.inj (Option.filter_eq_some_iff.mp htoken).1
  rfl

end Recovery

open Recovery in
/-- A webhook that dies before it stores the status is delivered again; a `payCommission` that dies
before the decrement is polled. -/
theorem confirmation_recovers_sample :
    outcome pendingPayment (retried (successWebhook.program Env.offline) (.crash 1)
        (successWebhook.program Env.offline) pendingStore) =
      outcome pendingPayment
        ((successWebhook.program Env.offline).run Cmd.exec pendingStore).store ∧
    outcome (createdPayment pendingStore 1 100)
        (retried (payCommission Env.mock.payment 10 100 "0700000000") (.crash 4)
          ((ConfirmationCall.poll 2 10).program Env.mock) pendingStore) ≠
      outcome (createdPayment pendingStore 1 100)
        ((payCommission Env.mock.payment 10 100 "0700000000").run Cmd.exec pendingStore).store := by
  constructor
  · refine ((confirmation_recovers_iff Env.offline).1 pendingStore pendingPayment successWebhook
      successWebhook (.crash 1) (by decide) (by decide) (by decide) successWebhook_concerns trivial
      successWebhook_concerns).mpr (Or.inr ?_)
    exact trivial
  · refine (confirmation_recovers_iff Env.mock).2 pendingStore 10 100 "0700000000"
      { id := 1, userId := 10, balance := 0, commissionDue := 10000 } (.crash 4) (.poll 2 10)
      ⟨by decide, _, rfl, rfl, by decide⟩ (by norm_num) (by decide +kernel)
      (show (2 : ℕ) = pendingStore.payments.freshKey by decide)

open Recovery in
/-- A webhook that dies between the two writes: delivered again, it leaves the balance as it was. -/
theorem confirmation_lost :
    outcome pendingPayment (retried (successWebhook.program Env.offline) (.crash 2)
        (successWebhook.program Env.offline) pendingStore) = (some .succeeded, some 10000) ∧
    outcome pendingPayment
        ((successWebhook.program Env.offline).run Cmd.exec pendingStore).store =
      (some .succeeded, some 5000) ∧
    outcome pendingPayment (retried (successWebhook.program Env.offline) (.crash 2)
        (successWebhook.program Env.offline) pendingStore) ≠
      outcome pendingPayment
        ((successWebhook.program Env.offline).run Cmd.exec pendingStore).store := by
  decide +kernel

end Telima
