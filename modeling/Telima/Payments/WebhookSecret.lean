import Telima.Payments.Runs
import Telima.System

/-!
# A webhook and the secret of the payment it changes

`verifyWebhook` passes on whatever value the body has under `notif_token`, and `handleWebhook` uses
it as a filter.  A string filters for equality, so a webhook that changes a payment presents the
payment's token; a filter object can match a payment whose token the sender does not know.
-/

namespace Telima

open PaymentsService

/-- The body's `notif_token` is a string, and the token stored on the payment. -/
def PresentsToken (s : Store) (payload : Record) (paymentId : ℕ) : Prop :=
  ∃ t, payload.get? "notif_token" = some (.str t) ∧
    (s.payments.find? paymentId).bind CommissionPayment.notifToken = some t

/-- Whatever changes from `s` to `t`, the webhook presents the token of a payment it concerns. -/
def ChangesPresentToken (payload : Record) (s t : Store) : Prop :=
  (∀ id, t.paymentStatus id ≠ s.paymentStatus id → PresentsToken s payload id) ∧
  ∀ driverId, t.commissionDue driverId ≠ s.commissionDue driverId →
    ∃ payment ∈ s.payments.rows, payment.driverId = driverId ∧ PresentsToken s payload payment.id

/-- The webhook is accepted with the status `status`, its `notif_token` matches `payment` first, and
the payment is not yet `succeeded`. -/
structure ReachesPayment (prisma : PrismaClient) (s : Store) (payload : Record)
    (signature : Option String) (payment : CommissionPayment) (status : CommissionPaymentStatus) :
    Prop where
  verified : ∃ v, OrangeMoneyProvider.verifyWebhook payload signature = .ok v ∧ v.valid = true ∧
    webhookStatus v.status = status ∧ (webhookTxnid prisma v.txnid).isSome
  matched : ∃ token accepts, payload.get? "notif_token" = some token ∧
    prisma.stringFilter token = some accepts ∧
    s.payments.findFirst (fun p => accepts p.notifToken) = some payment
  unsettled : payment.status ≠ .succeeded

/-- A verified webhook has the body's token, and no other reference. -/
theorem verifyWebhook_valid {payload : Record} {signature : Option String}
    {v : WebhookVerification} (h : OrangeMoneyProvider.verifyWebhook payload signature = .ok v)
    (hv : v.valid = true) :
    ∃ token, payload.get? "notif_token" = some token ∧ token.truthy = true ∧
      v.notifToken = some token ∧ v.transactionRef = none ∧ v.orderId = none := by
  unfold OrangeMoneyProvider.verifyWebhook at h
  dsimp only at h
  split at h
  · obtain rfl := Except.ok.inj h
    simp at hv
  · rename_i htruthy
    simp only [Bool.or_eq_true, Bool.not_eq_true', not_or, Bool.not_eq_false] at htruthy
    cases hstatus : OrangeMoneyProvider.mapOrangeStatus (payload.get? "status") with
    | error e => simp [hstatus, bind, Except.bind] at h
    | ok mapped =>
      simp only [hstatus, bind, Except.bind] at h
      split_ifs at h
      · obtain rfl := Except.ok.inj h
        simp at hv
      · obtain rfl := Except.ok.inj h
        cases htoken : payload.get? "notif_token" with
        | none => simp [htoken] at htruthy
        | some token =>
          exact ⟨token, rfl, by simpa [htoken] using htruthy.2, rfl, rfl, rfl⟩

section Run

variable {api : OrangeApi} {prisma : PrismaClient} {s : Store} {payload : Record}
  {signature : Option String} {payment : CommissionPayment} {status : CommissionPaymentStatus}

/-- A webhook reaches one payment, with one status. -/
theorem ReachesPayment.unique {payment' : CommissionPayment} {status' : CommissionPaymentStatus}
    (h : ReachesPayment prisma s payload signature payment status)
    (h' : ReachesPayment prisma s payload signature payment' status') :
    payment = payment' ∧ status = status' := by
  obtain ⟨⟨v, hverify, -, rfl, -⟩, ⟨token, accepts, htoken, hfilter, hmatch⟩, -⟩ := h
  obtain ⟨⟨v', hverify', -, rfl, -⟩, ⟨token', accepts', htoken', hfilter', hmatch'⟩, -⟩ := h'
  obtain rfl := Except.ok.inj (hverify.symm.trans hverify')
  obtain rfl := Option.some.inj (htoken.symm.trans htoken')
  obtain rfl := Option.some.inj (hfilter.symm.trans hfilter')
  exact ⟨Option.some.inj (hmatch.symm.trans hmatch'), rfl⟩

/-- The run of a verified webhook is the run of `confirmPayment` on the first match. -/
theorem run_handleWebhook {v : WebhookVerification} {token : Json}
    (hv : OrangeMoneyProvider.verifyWebhook payload signature = .ok v) (hvalid : v.valid = true)
    (htoken : payload.get? "notif_token" = some token) :
    ((handleWebhook (OrangeMoneyProvider.provider api) prisma payload signature).run
        Cmd.exec s).store =
      (prisma.stringFilter token).elim s fun accepts =>
        (s.payments.findFirst fun p => accepts p.notifToken).elim s fun payment =>
          ((confirmPayment prisma v payment).run Cmd.exec s).store := by
  obtain ⟨token', htoken', htruthy, hnotif, href, horder⟩ := verifyWebhook_valid hv hvalid
  obtain rfl : token' = token := Option.some.inj (htoken'.symm.trans htoken)
  have hverify : (OrangeMoneyProvider.provider api).verifyWebhook payload signature = .ok v := hv
  unfold handleWebhook findByNotifToken
  simp only [hverify, hvalid, if_true, hnotif, Option.filter_some, htruthy]
  cases hfilter : prisma.stringFilter token' with
  | none => rfl
  | some accepts =>
    simp only [Option.elim_some, findPayment, Async.bind_eq, Async.run_query_bind,
      Outcome.store_after, Cmd.exec, href, horder]
    cases s.payments.findFirst fun p => accepts p.notifToken with
    | none =>
      simp only [findByTransactionRef, findByOrderId, truthyString, Option.filter_none,
        Async.pure_eq, Async.done_ok_bind, Option.elim_none]
      cases token' <;> rfl
    | some payment => rfl

/-- A webhook that reaches no payment changes nothing. -/
theorem run_handleWebhook_of_not_reaches
    (h : ∀ payment status, ¬ ReachesPayment prisma s payload signature payment status) :
    ((handleWebhook (OrangeMoneyProvider.provider api) prisma payload signature).run
      Cmd.exec s).store = s := by
  cases hverify : OrangeMoneyProvider.verifyWebhook payload signature with
  | error e =>
    have hp : (OrangeMoneyProvider.provider api).verifyWebhook payload signature = .error e :=
      hverify
    unfold handleWebhook
    rw [hp]
    rfl
  | ok v =>
    cases hvalid : v.valid with
    | false =>
      have hp : (OrangeMoneyProvider.provider api).verifyWebhook payload signature = .ok v :=
        hverify
      unfold handleWebhook
      simp only [hp, hvalid, Bool.false_eq_true, if_false]
      rfl
    | true =>
      obtain ⟨token, htoken, -⟩ := verifyWebhook_valid hverify hvalid
      rw [run_handleWebhook hverify hvalid htoken]
      cases hfilter : prisma.stringFilter token with
      | none => rfl
      | some accepts =>
        cases hmatch : s.payments.findFirst fun p => accepts p.notifToken with
        | none => simp [hmatch]
        | some payment =>
          have hrow := (Table.find?_of_findFirst hmatch).1
          simp only [Option.elim_some, hmatch, run_confirmPayment hrow]
          split_ifs with hs
          · rfl
          · cases htxnid : webhookTxnid prisma v.txnid with
            | none => rfl
            | some txnid =>
              exact absurd ⟨⟨v, hverify, hvalid, rfl, by simp [htxnid]⟩,
                ⟨token, accepts, htoken, hfilter, hmatch⟩, hs⟩ (h payment _)

/-- A webhook that reaches a payment writes its status, and credits it on success. -/
theorem run_handleWebhook_of_reaches (api : OrangeApi)
    (h : ReachesPayment prisma s payload signature payment status) :
    ∃ txnid, ((handleWebhook (OrangeMoneyProvider.provider api) prisma payload signature).run
      Cmd.exec s).store = confirmEffect payment (webhookData s status txnid) s := by
  obtain ⟨⟨v, hverify, hvalid, rfl, htxnid⟩, ⟨token, accepts, htoken, hfilter, hmatch⟩, hs⟩ := h
  obtain ⟨txnid, htxnid⟩ := Option.isSome_iff_exists.mp htxnid
  refine ⟨txnid, ?_⟩
  rw [run_handleWebhook hverify hvalid htoken, hfilter, Option.elim_some, hmatch,
    Option.elim_some, run_confirmPayment (Table.find?_of_findFirst hmatch).1, if_neg hs, htxnid,
    Option.elim_some]

end Run

/-! ### What a confirmation changes -/

section Effect

variable {s : Store} {payment : CommissionPayment}

theorem paymentStatus_confirmEffect (data : PaymentData) (href : data.references = none)
    (hrow : s.payments.find? payment.id = some payment) (id : ℕ) :
    (confirmEffect payment data s).paymentStatus id =
      if id = payment.id then some data.status else s.paymentStatus id := by
  have h : ((Cmd.updatePayment payment.id data).exec s).paymentStatus id = _ :=
    Store.paymentStatus_updatePayment href id
  have hrow' : s.paymentStatus payment.id = some payment.status := by
    rw [Store.paymentStatus, hrow, Option.map_some]
  have hdrv : ∀ t : Store, ((Cmd.decrementCommissionDue payment.driverId
      payment.amount.toNumber).exec t).paymentStatus id = t.paymentStatus id := fun t => rfl
  unfold confirmEffect
  dsimp only
  split_ifs with hs hid hid
  · rw [hdrv, h, if_pos hid, hid, hrow', Option.map_some]
  · rw [hdrv, h, if_neg hid]
  · rw [h, if_pos hid, hid, hrow', Option.map_some]
  · rw [h, if_neg hid]

theorem commissionDue_confirmEffect (data : PaymentData) (driverId : ℕ) :
    (confirmEffect payment data s).commissionDue driverId =
      if data.status = .succeeded ∧ driverId = payment.driverId then
        (s.commissionDue driverId).map fun due => due - payment.amount
      else s.commissionDue driverId := by
  have hdrv : ∀ d, ((Cmd.updatePayment payment.id data).exec s).commissionDue d =
      s.commissionDue d := fun d => rfl
  unfold confirmEffect
  dsimp only
  by_cases hs : data.status = .succeeded
  · simp only [hs, if_true, true_and, Store.commissionDue_decrement, hdrv,
      Decimal2.decrement_toNumber]
  · simp only [hs, if_false, false_and, hdrv]

end Effect

/-- A webhook that reaches a payment changes that payment's status and its driver's balance, and
nothing else. -/
theorem changesPresentToken_of_reaches {prisma : PrismaClient} {s t : Store} {payload : Record}
    {signature : Option String} {payment : CommissionPayment} {status : CommissionPaymentStatus}
    {txnid : Option String}
    (hreach : ReachesPayment prisma s payload signature payment status)
    (ht : t = confirmEffect payment (webhookData s status txnid) s) :
    ChangesPresentToken payload s t ↔
      payment.status = status ∨ ∃ t, payload.get? "notif_token" = some (.str t) := by
  obtain ⟨token, accepts, htoken, hfilter, hmatch⟩ := hreach.matched
  obtain ⟨hrow, haccepts⟩ := Table.find?_of_findFirst hmatch
  have hstored : s.paymentStatus payment.id = some payment.status := by
    rw [Store.paymentStatus, hrow, Option.map_some]
  have hstatus : ∀ id, t.paymentStatus id =
      if id = payment.id then some status else s.paymentStatus id := fun id =>
    ht ▸ paymentStatus_confirmEffect (webhookData s status txnid) rfl hrow id
  have hdue : ∀ d, t.commissionDue d =
      if status = .succeeded ∧ d = payment.driverId then
        (s.commissionDue d).map fun due => due - payment.amount
      else s.commissionDue d := fun d =>
    ht ▸ commissionDue_confirmEffect (webhookData s status txnid) d
  constructor
  · rintro ⟨hchanges, -⟩
    refine or_iff_not_imp_left.mpr fun hne => ?_
    have hchanged : t.paymentStatus payment.id ≠ s.paymentStatus payment.id := by
      rw [hstatus, if_pos rfl, hstored]
      exact fun h => hne (Option.some.inj h).symm
    obtain ⟨t, ht, -⟩ := hchanges payment.id hchanged
    exact ⟨t, ht⟩
  · rintro (hsame | ⟨tk, htk⟩)
    · -- the status stays, and is not `succeeded`
      have hns : ¬ status = .succeeded := fun h => hreach.unsettled (hsame.trans h)
      refine ⟨fun id hid => absurd ?_ hid, fun d hd => absurd ?_ hd⟩
      · rw [hstatus]
        split_ifs with h
        · rw [h, hstored, hsame]
        · rfl
      · rw [hdue, if_neg fun h => hns h.1]
    · -- the filter of a string is equality
      have hpresents : PresentsToken s payload payment.id := by
        obtain rfl := Option.some.inj (htoken.symm.trans htk)
        rw [prisma.stringFilter_str] at hfilter
        obtain rfl := Option.some.inj hfilter
        refine ⟨tk, htk, ?_⟩
        rw [hrow, Option.bind_some]
        simpa using haccepts
      refine ⟨fun id hid => ?_, fun d hd => ?_⟩
      · rw [hstatus] at hid
        split_ifs at hid with h
        · exact h ▸ hpresents
        · exact absurd rfl hid
      · rw [hdue] at hd
        split_ifs at hd with h
        · exact ⟨payment, Table.mem_of_find? hrow, h.2.symm, hpresents⟩
        · exact absurd rfl hd

/-- A webhook changes only what concerns a payment whose token it presents, unless its `notif_token`
is no string and it reaches a payment whose status it changes. -/
theorem webhook_presents_token_iff (api : OrangeApi) (prisma : PrismaClient) (s : Store)
    (payload : Record) (signature : Option String) :
    ChangesPresentToken payload s
        ((handleWebhook (OrangeMoneyProvider.provider api) prisma payload signature).run
          Cmd.exec s).store ↔
      (∀ payment status, ReachesPayment prisma s payload signature payment status →
        payment.status = status) ∨ ∃ t, payload.get? "notif_token" = some (.str t) := by
  by_cases hreach : ∃ payment status, ReachesPayment prisma s payload signature payment status
  · obtain ⟨payment, status, hreach⟩ := hreach
    obtain ⟨txnid, hrun⟩ := run_handleWebhook_of_reaches api hreach
    rw [changesPresentToken_of_reaches hreach hrun]
    refine or_congr_left ⟨fun h payment' status' hreach' => ?_, fun h => h _ _ hreach⟩
    obtain ⟨rfl, rfl⟩ := hreach.unique hreach'
    exact h
  · simp only [not_exists] at hreach
    rw [run_handleWebhook_of_not_reaches hreach]
    exact ⟨fun _ => Or.inl fun payment status h => absurd h (hreach payment status),
      fun _ => ⟨fun _ h => absurd rfl h, fun _ h => absurd rfl h⟩⟩

namespace WebhookSecret

/-- A body whose `notif_token` is a filter every stored token passes. -/
def forgedPayload : Record := [("status", .str "SUCCESS"), ("notif_token", .obj [("not", .null)])]

end WebhookSecret

open WebhookSecret in
/-- A webhook without the secret credits the payment. -/
theorem webhook_without_token_credits :
    ¬ ChangesPresentToken forgedPayload pendingStore
      ((handleWebhook Env.offline.payment Env.offline.prisma forgedPayload none).run
        Cmd.exec pendingStore).store := by
  rintro ⟨hchanges, -⟩
  obtain ⟨t, ht, -⟩ := hchanges 1 (by decide +kernel)
  simp [forgedPayload, Record.get?] at ht

end Telima
