import Telima.Payments.Credit
import Telima.Payments.WebhookSecret
import Mathlib.Logic.Relation

/-!
# What is charged and what is credited

Orange Money takes whole amounts: it is asked for `Math.floor` of the amount when a payment is initiated,
and for `Math.floor` of the stored amount when its status is polled.  The driver is credited the stored
amount, which has two decimals.  `PayCommissionDto` admits every number from 100 on, so the two differ by
up to a franc; they agree if and only if the amount is less than half a hundredth above a whole number
(`charged_as_credited_iff`).
-/

namespace Telima

/-- The body of the request, as the validation lets it through. -/
structure PayCommissionDto where
  amount : ℚ
  phoneNumber : String
  min_amount : 100 ≤ amount
  min_length : 8 ≤ phoneNumber.length

/-- The environment, with Orange Money as the payment provider. -/
def Env.withOrange (env : Env) (api : OrangeApi) : Env :=
  { env with payment := OrangeMoneyProvider.provider api }

def PayCommissionDto.program (dto : PayCommissionDto) (env : Env) (userId : ℕ) :
    Prog PayCommissionResponse :=
  PaymentsService.payCommission env.payment userId dto.amount dto.phoneNumber

/-- Some commands lead from `s` to `t`. -/
def Store.Later : Store → Store → Prop := Relation.ReflTransGen fun s t => ∃ c : Cmd, t = c.exec s

/-- The two answer every request for the amount `n` alike. -/
structure OrangeApi.AgreeOn (n : ℤ) (api api' : OrangeApi) : Prop where
  webPayment : ∀ orderId s, api.webPayment orderId n s = api'.webPayment orderId n s
  transactionStatus : ∀ orderId payToken s,
    api.transactionStatus orderId n payToken s = api'.transactionStatus orderId n payToken s

/-- Orange Money is asked for the amount `n`, and for no other. -/
def AsksFor {α : Type} (n : ℤ) (f : OrangeApi → α) : Prop :=
  ∀ api api', api.AgreeOn n api' → f api = f api'

/-- The payment was initiated by the request, at some time before `t`. -/
def Initiated (env : Env) (dto : PayCommissionDto) (paymentId : ℕ) (t : Store) : Prop :=
  ∃ api s userId response, ((dto.program (env.withOrange api) userId).run Cmd.exec s).result = .ok response ∧
    response.paymentId = paymentId ∧
    ((dto.program (env.withOrange api) userId).run Cmd.exec s).store.Later t

/-- What the request and every poll of the payment ask Orange Money for is the amount `n`, and `n` is what
the driver is credited by the call that confirms the payment. -/
structure ChargedAsCredited (env : Env) (dto : PayCommissionDto) (n : ℤ) : Prop where
  initiated : ∀ userId, AsksFor n fun api => dto.program (env.withOrange api) userId
  -- Orange Money never confirms at once
  unconfirmed : ∀ api s userId response,
    ((dto.program (env.withOrange api) userId).run Cmd.exec s).result = .ok response →
      response.status = .pending
  polled : ∀ t paymentId, Initiated env dto paymentId t → ∀ userId, AsksFor n fun api =>
    (PaymentsService.checkPaymentStatus (env.withOrange api).payment paymentId userId).run Cmd.exec t
  credited : ∀ t paymentId, Initiated env dto paymentId t →
    t.paymentStatus paymentId ≠ some .succeeded → ∀ api (call : ConfirmationCall) t',
      ((call.program (env.withOrange api)).run Cmd.exec t).store = t' →
      t'.paymentStatus paymentId = some .succeeded →
        ∃ payment, t.payments.find? paymentId = some payment ∧
          t'.commissionDue payment.driverId =
            (t.commissionDue payment.driverId).map fun due => due - Decimal2.ofInt n

namespace Amounts

open PaymentsService

variable {env : Env} {dto : PayCommissionDto} {s t : Store} {n : ℤ} {id : ℕ}

/-! ### Rounding -/

/-- An amount is stored as its whole part if and only if it is less than half a hundredth above it. -/
theorem ofNumber_eq_ofInt_floor_iff {q : ℚ} (hq : 0 ≤ q) :
    Decimal2.ofNumber q = Decimal2.ofInt ⌊q⌋ ↔ Int.fract q < 1 / 200 := by
  have hfract : Int.fract q = q - ⌊q⌋ := rfl
  have hle := Int.floor_le q
  rw [Decimal2.ofNumber, if_pos hq, Decimal2.ofInt, Int.floor_eq_iff, hfract]
  push_cast
  constructor
  · rintro ⟨-, hlt⟩
    linarith
  · intro hlt
    constructor <;> linarith

theorem floor_toNumber_ofInt (n : ℤ) : ⌊(Decimal2.ofInt n).toNumber⌋ = n := by
  rw [Decimal2.toNumber_ofInt, Int.floor_intCast]

/-! ### The amount of a payment -/

/-- A payment keeps its driver and its amount. -/
theorem paymentShape_exec {c : Cmd} {x : ℕ × Decimal2} (h : s.paymentShape id = some x) :
    (c.exec s).paymentShape id = some x := by
  cases c with
  | createPayment driverId amount =>
    have hrow : (s.payments.find? id).isSome := by
      rw [← Option.isSome_map, ← Store.paymentShape, h]
      rfl
    obtain ⟨payment, hpayment⟩ := Option.isSome_iff_exists.mp hrow
    rw [Store.paymentShape] at h ⊢
    show ((s.payments.insert _).find? id).map _ = some x
    rw [Table.find?_insert, hpayment, Option.some_or, ← hpayment, h]
  | updatePayment paymentId data => rw [Store.paymentShape_updatePayment, h]
  | _ => exact h

theorem later_paymentShape {x : ℕ × Decimal2} (hlater : s.Later t) (h : s.paymentShape id = some x) :
    t.paymentShape id = some x := by
  induction hlater with
  | refl => exact h
  | tail _ hstep ih =>
    obtain ⟨c, rfl⟩ := hstep
    exact paymentShape_exec ih

/-- The store after a run comes later. -/
theorem later_run {α : Type} (p : Prog α) (s : Store) : s.Later (p.run Cmd.exec s).store := by
  induction p generalizing s with
  | done r => exact .refl
  | await c next reject ih _ => exact .head ⟨c, rfl⟩ (ih s (c.exec s))
  | sync c next ih => exact .head ⟨c, rfl⟩ (ih s (c.exec s))

/-! ### The initiation -/

theorem initiate_congr {api api' : OrangeApi} {input : PaymentInitiation}
    (h : api.AgreeOn ⌊input.amount⌋ api') :
    OrangeMoneyProvider.initiate api input = OrangeMoneyProvider.initiate api' input := by
  funext s
  unfold OrangeMoneyProvider.initiate
  simp only [h.webPayment]

theorem asksFor_payCommission (userId : ℕ) :
    AsksFor ⌊dto.amount⌋ fun api => dto.program (env.withOrange api) userId := by
  intro api api' hagree
  have hinitiate : ∀ paymentId, (env.withOrange api).payment.initiate
      { amount := dto.amount, phoneNumber := dto.phoneNumber, internalRef := paymentId } =
      (env.withOrange api').payment.initiate
      { amount := dto.amount, phoneNumber := dto.phoneNumber, internalRef := paymentId } := by
    intro paymentId
    exact initiate_congr hagree
  show payCommission _ _ _ _ = payCommission _ _ _ _
  unfold payCommission
  simp only [hinitiate]

/-- An answer of Orange Money leaves the payment open. -/
theorem status_of_initiate {api : OrangeApi} {input : PaymentInitiation} {result : PaymentInitiationResult}
    (h : OrangeMoneyProvider.initiate api input s = .ok result) : result.status = .pending := by
  unfold OrangeMoneyProvider.initiate at h
  dsimp only at h
  cases hraw : api.webPayment ("TL" ++ String.ofList ((toString input.internalRef).toList.take 28))
      ⌊input.amount⌋ s with
  | error e =>
    rw [hraw] at h
    cases h
  | ok raw =>
    rw [hraw] at h
    simp only [bind, Except.bind] at h
    split at h
    · split_ifs at h
      rw [← Except.ok.inj h]
    · cases h

/-- The row of a new payment. -/
theorem paymentShape_createPayment (driverId : ℕ) (amount : ℚ) :
    ((Cmd.createPayment driverId amount).exec s).paymentShape s.payments.freshKey =
      some (driverId, .ofNumber amount) := by
  show ((s.payments.insert _).find? s.payments.freshKey).map _ = _
  rw [Table.find?_insert, Table.find?_freshKey, Option.none_or, if_pos rfl]
  rfl

/-- A request that goes through leaves an open payment of the amount, rounded to hundredths. -/
theorem initiated_of_run {api : OrangeApi} {userId : ℕ} {response : PayCommissionResponse}
    (h : ((dto.program (env.withOrange api) userId).run Cmd.exec s).result = .ok response) :
    response.status = .pending ∧ ∃ driverId,
      ((dto.program (env.withOrange api) userId).run Cmd.exec s).store.paymentShape response.paymentId =
        some (driverId, .ofNumber dto.amount) := by
  unfold PayCommissionDto.program payCommission at h ⊢
  simp only [findDriver, Async.bind_eq, Async.run_query_bind, Outcome.result_after,
    Outcome.store_after] at h ⊢
  cases hdriver : s.drivers.findFirst fun d => decide (d.userId = userId) with
  | none =>
    rw [hdriver] at h
    cases h
  | some driver =>
    simp only [hdriver, createPayment, Async.run_query_bind, Outcome.result_after,
      Outcome.store_after] at h ⊢
    have hanswer : response.status = .pending ∧
        response.paymentId = ((Cmd.findDriver userId).exec s).payments.freshKey := by
      generalize ((Cmd.findDriver userId).exec s).payments.freshKey = paymentId at h ⊢
      generalize (Cmd.createPayment driver.id dto.amount).exec ((Cmd.findDriver userId).exec s) = s₁ at h
      rw [Async.run_queryE_bind] at h
      cases hresult : (env.withOrange api).payment.initiate
          { amount := dto.amount, phoneNumber := dto.phoneNumber, internalRef := paymentId } s₁ with
      | error e =>
        rw [hresult] at h
        cases h
      | ok result =>
        have hopen : result.status = .pending := status_of_initiate hresult
        simp only [hresult, hopen, initialStatus, newDate, updatePayment, Async.done_ok_bind,
          Async.run_read_bind, Async.run_queryE_bind, Outcome.result_after, reduceCtorEq, if_false] at h
        split_ifs at h with hconflicts
        · cases h
        · have hpayments : (Cmd.date.exec (Cmd.external.exec s₁)).payments = s₁.payments := rfl
          rw [hpayments] at h
          cases hrow : s₁.payments.find? paymentId with
          | none =>
            rw [hrow] at h
            cases h
          | some row =>
            rw [hrow] at h
            have hresponse := Except.ok.inj h
            rw [← hresponse]
            have hid : row.id = paymentId := Table.key_of_find? hrow
            exact ⟨rfl, hid⟩
    refine ⟨hanswer.1, driver.id, ?_⟩
    rw [hanswer.2]
    exact later_paymentShape (later_run _ _) (paymentShape_createPayment driver.id dto.amount)

/-! ### The polls -/

theorem checkTransactionStatus_congr {api api' : OrangeApi} {transactionRef orderId : String} {amount : ℚ}
    (h : api.AgreeOn ⌊amount⌋ api') :
    OrangeMoneyProvider.checkTransactionStatus api transactionRef orderId amount =
      OrangeMoneyProvider.checkTransactionStatus api' transactionRef orderId amount := by
  funext s
  unfold OrangeMoneyProvider.checkTransactionStatus
  rw [h.transactionStatus]

theorem pollProvider_congr {api api' : OrangeApi} {payment : CommissionPayment} {userId : ℕ}
    (h : api.AgreeOn ⌊payment.amount.toNumber⌋ api') :
    pollProvider (OrangeMoneyProvider.provider api) payment userId =
      pollProvider (OrangeMoneyProvider.provider api') payment userId := by
  unfold pollProvider OrangeMoneyProvider.provider
  cases truthyString payment.transactionRef with
  | none => rfl
  | some transactionRef =>
    cases truthyString payment.orderId with
    | none => rfl
    | some orderId => simp only [checkTransactionStatus_congr h]

/-- A poll asks for the whole part of the stored amount. -/
theorem asksFor_checkPaymentStatus (env : Env) {driverId : ℕ} {amount : Decimal2}
    (h : t.paymentShape id = some (driverId, amount)) (userId : ℕ) :
    AsksFor ⌊amount.toNumber⌋ fun api =>
      (checkPaymentStatus (env.withOrange api).payment id userId).run Cmd.exec t := by
  intro api api' hagree
  obtain ⟨payment, hrow, hshape⟩ := Option.map_eq_some_iff.mp h
  obtain ⟨rfl, rfl⟩ := Prod.mk.inj hshape
  have hpoll : pollProvider (env.withOrange api).payment payment userId =
      pollProvider (env.withOrange api').payment payment userId := pollProvider_congr hagree
  unfold checkPaymentStatus findPaymentWithOwner
  simp only [Async.bind_eq, Async.run_query_bind, hrow, Option.map_some, hpoll]

/-! ### The confirmations -/

/-- A call that leaves the payments alone, or confirms one of them and credits it on success. -/
inductive Confirms (t t' : Store) : Prop
  | none (h : t'.payments = t.payments)
  | payment {payment : CommissionPayment} (data : PaymentData) {u : Store}
      (href : data.references = none) (hrow : t.payments.find? payment.id = some payment)
      (hpayments : u.payments = t.payments) (hdrivers : u.drivers = t.drivers)
      (h : t' = confirmEffect payment data u)

theorem confirms_webhook (api : OrangeApi) (payload : Record) (signature : Option String) :
    Confirms t ((handleWebhook (OrangeMoneyProvider.provider api) env.prisma payload signature).run
      Cmd.exec t).store := by
  by_cases h : ∃ payment status, ReachesPayment env.prisma t payload signature payment status
  · obtain ⟨payment, status, hreaches⟩ := h
    obtain ⟨txnid, hrun⟩ := run_handleWebhook_of_reaches api hreaches
    obtain ⟨token, accepts, -, -, hmatch⟩ := hreaches.matched
    exact .payment _ rfl (Table.find?_of_findFirst hmatch).1 rfl rfl hrun
  · refine .none ?_
    rw [run_handleWebhook_of_not_reaches]
    exact fun payment status hreaches => h ⟨payment, status, hreaches⟩

theorem confirms_pollProvider (api : OrangeApi) {payment : CommissionPayment} (userId : ℕ)
    (hrow : t.payments.find? payment.id = some payment) :
    Confirms t ((pollProvider (OrangeMoneyProvider.provider api) payment userId).run Cmd.exec t).store := by
  unfold pollProvider OrangeMoneyProvider.provider
  cases truthyString payment.transactionRef with
  | none => exact .none rfl
  | some transactionRef =>
    cases truthyString payment.orderId with
    | none => exact .none rfl
    | some orderId =>
      simp only [Async.bind_eq, Async.run_queryE_bind, Outcome.store_after]
      cases OrangeMoneyProvider.checkTransactionStatus api transactionRef orderId
          payment.amount.toNumber t with
      | error e => exact .none rfl
      | ok result =>
        rw [Async.done_ok_bind]
        by_cases hpending : result.status = .pending
        · rw [if_pos hpending]
          exact .none rfl
        · rw [if_neg hpending]
          simp only [newDate, Async.run_read_bind, Outcome.store_after]
          have hrow' : (Cmd.date.exec (Cmd.external.exec t)).payments.find? payment.id = some payment := hrow
          let data : PaymentData :=
            { status := result.status, txnid := some (result.txnid.or payment.txnid)
              paidAt := if result.status = .succeeded then some (Cmd.external.exec t).now else none }
          refine Confirms.payment data (u := Cmd.date.exec (Cmd.external.exec t)) rfl hrow rfl rfl ?_
          exact run_update_then_apply data rfl hrow' transactionRef _

theorem confirms_checkPaymentStatus (api : OrangeApi) (paymentId userId : ℕ) :
    Confirms t ((checkPaymentStatus (OrangeMoneyProvider.provider api) paymentId userId).run
      Cmd.exec t).store := by
  unfold checkPaymentStatus findPaymentWithOwner
  simp only [Async.bind_eq, Async.run_query_bind, Outcome.store_after]
  cases hrow : t.payments.find? paymentId with
  | none => exact .none rfl
  | some payment =>
    simp only [Option.map_some]
    split_ifs
    · exact .none rfl
    · exact .none rfl
    · obtain rfl : payment.id = paymentId := Table.key_of_find? hrow
      have hpoll := confirms_pollProvider (t := t) api userId hrow
      let stored : PaymentStatusResponse := { status := payment.status, payment, userId }
      show Confirms t ((Async.bind (Async.tryCatch _ fun _ => .done (.ok none)) fun polled =>
        .done (.ok (polled.getD stored))).run Cmd.exec ((Cmd.findPayment).exec t)).store
      rw [Async.run_store_bind_done _ _ fun polled : Option _ => .ok (polled.getD stored),
        Async.run_store_tryCatch_done _ _ fun _ => .ok none]
      exact hpoll

theorem confirms_program (api : OrangeApi) (call : ConfirmationCall) :
    Confirms t ((call.program (env.withOrange api)).run Cmd.exec t).store := by
  cases call with
  | webhook payload signature =>
    show Confirms t (((handleWebhook _ _ _ _).bind fun _ => .done (.ok ())).run Cmd.exec t).store
    rw [Async.run_store_bind_done _ _ fun _ => .ok ()]
    exact confirms_webhook api payload signature
  | poll paymentId userId =>
    show Confirms t (((checkPaymentStatus _ _ _).bind fun _ => .done (.ok ())).run Cmd.exec t).store
    rw [Async.run_store_bind_done _ _ fun _ => .ok ()]
    exact confirms_checkPaymentStatus api paymentId userId

/-- The call that confirms a payment takes its amount off what the driver owes. -/
theorem Confirms.credited {t' : Store} (h : Confirms t t')
    (hbefore : t.paymentStatus id ≠ some .succeeded) (hafter : t'.paymentStatus id = some .succeeded) :
    ∃ payment, t.payments.find? id = some payment ∧ t'.commissionDue payment.driverId =
      (t.commissionDue payment.driverId).map fun due => due - payment.amount := by
  cases h with
  | none h =>
    rw [Store.paymentStatus, h] at hafter
    exact absurd hafter hbefore
  | @payment payment data u href hrow hpayments hdrivers h =>
    have hrow' : u.payments.find? payment.id = some payment := hpayments ▸ hrow
    have hstatus := paymentStatus_confirmEffect data href hrow' id
    have hdue := @commissionDue_confirmEffect u payment data payment.driverId
    rw [← h] at hstatus hdue
    rw [hstatus] at hafter
    split_ifs at hafter with hid
    · refine ⟨payment, hid ▸ hrow, ?_⟩
      rw [hdue, if_pos ⟨Option.some.inj hafter, rfl⟩, Store.commissionDue, hdrivers]
      rfl
    · rw [Store.paymentStatus, hpayments] at hafter
      exact absurd hafter hbefore

/-! ### Both directions -/

theorem Initiated.paymentShape (h : Initiated env dto id t) :
    ∃ driverId, t.paymentShape id = some (driverId, .ofNumber dto.amount) := by
  obtain ⟨api, s, userId, response, hresult, rfl, hlater⟩ := h
  obtain ⟨-, driverId, hshape⟩ := initiated_of_run hresult
  exact ⟨driverId, later_paymentShape hlater hshape⟩

theorem chargedAsCredited_of_fract (h : Int.fract dto.amount < 1 / 200) :
    ChargedAsCredited env dto ⌊dto.amount⌋ where
  initiated := asksFor_payCommission
  unconfirmed api s userId response hresult := (initiated_of_run hresult).1
  polled t id hinitiated userId := by
    obtain ⟨driverId, hshape⟩ := Initiated.paymentShape hinitiated
    have hamount : (0 : ℚ) ≤ dto.amount := by linarith [dto.min_amount]
    rw [(ofNumber_eq_ofInt_floor_iff hamount).mpr h] at hshape
    have hasks := asksFor_checkPaymentStatus env hshape userId
    rwa [floor_toNumber_ofInt] at hasks
  credited t id hinitiated hbefore api call t' hrun hafter := by
    obtain ⟨driverId, hshape⟩ := Initiated.paymentShape hinitiated
    have hamount : (0 : ℚ) ≤ dto.amount := by linarith [dto.min_amount]
    rw [(ofNumber_eq_ofInt_floor_iff hamount).mpr h] at hshape
    obtain ⟨payment, hrow, hdue⟩ := (hrun ▸ confirms_program api call : Confirms t t').credited hbefore hafter
    have hstored : payment.amount = Decimal2.ofInt ⌊dto.amount⌋ := by
      rw [Store.paymentShape, hrow] at hshape
      exact (Prod.mk.inj (Option.some.inj hshape)).2
    exact ⟨payment, hrow, hstored ▸ hdue⟩

/-- Orange Money accepts the payments the predicate admits. -/
def accepting (p : ℤ → Bool) : OrangeApi where
  webPayment _ amount _ :=
    if p amount then .ok ⟨some "pay", some "https://pay", some "secret"⟩ else .error .unavailable
  transactionStatus _ _ _ _ := .error .unavailable

/-- One driver, who owes nothing, and no payments. -/
def debtless : Store where
  drivers := .single { id := 1, userId := 10, balance := 0, commissionDue := 0 }

/-- Orange Money tells that the payment went through. -/
def success : ConfirmationCall :=
  .webhook [("status", .str "SUCCESS"), ("notif_token", .str "secret")] none

/-- The store after the request of the driver. -/
def requested (env : Env) (dto : PayCommissionDto) : Store :=
  ((dto.program (env.withOrange (accepting fun _ => true)) 10).run Cmd.exec debtless).store

theorem initiate_accepting (p : ℤ → Bool) (phoneNumber : String) (internalRef : ℕ) (amount : ℚ) :
    OrangeMoneyProvider.initiate (accepting p) { amount, phoneNumber, internalRef } s =
      if p ⌊amount⌋ then
        .ok { transactionRef := "pay", status := .pending, paymentUrl := some "https://pay"
              notifToken := some "secret"
              orderId := some ("TL" ++ String.ofList ((toString internalRef).toList.take 28)) }
      else .error .unavailable := by
  cases h : p ⌊amount⌋ with
  | false => simp [OrangeMoneyProvider.initiate, accepting, h, bind, Except.bind]
  | true => simp [OrangeMoneyProvider.initiate, accepting, h, bind, Except.bind, pure, Except.pure]

theorem run_accepting (env : Env) (dto : PayCommissionDto) (p : ℤ → Bool) : ((dto.program (env.withOrange (accepting p)) 10).run
    Cmd.exec debtless).result.isOk = p ⌊dto.amount⌋ := by
  have hinitiate : ∀ s, (env.withOrange (accepting p)).payment.initiate
      { amount := dto.amount, phoneNumber := dto.phoneNumber, internalRef := 1 } s = _ :=
    fun s => initiate_accepting p dto.phoneNumber 1 dto.amount
  unfold PayCommissionDto.program payCommission
  simp only [findDriver, createPayment, Async.bind_eq, Async.run_query_bind, Outcome.result_after]
  show ((Async.bind (Async.queryE .external ((env.withOrange (accepting p)).payment.initiate
      { amount := dto.amount, phoneNumber := dto.phoneNumber, internalRef := 1 })) _).run Cmd.exec _).result.isOk = _
  rw [Async.run_queryE_bind, hinitiate]
  cases p ⌊dto.amount⌋ with
  | false => rfl
  | true => rfl

/-- The payment the request has made. -/
def payment (dto : PayCommissionDto) : CommissionPayment :=
  { id := 1, driverId := 1, amount := .ofNumber dto.amount, transactionRef := some "pay"
    orderId := some ("TL" ++ String.ofList ((toString 1).toList.take 28)), notifToken := some "secret"
    paymentUrl := some "https://pay", createdAt := 0, updatedAt := 0 }

theorem requested_eq : (requested env dto).payments.rows = [payment dto] ∧
    (requested env dto).drivers = debtless.drivers := by
  have hinitiate : ∀ s, (env.withOrange (accepting fun _ => true)).payment.initiate
      { amount := dto.amount, phoneNumber := dto.phoneNumber, internalRef := 1 } s = _ :=
    fun s => initiate_accepting (fun _ => true) dto.phoneNumber 1 dto.amount
  unfold requested PayCommissionDto.program payCommission
  simp only [findDriver, createPayment, Async.bind_eq, Async.run_query_bind, Outcome.store_after]
  show ((Async.bind (Async.queryE .external ((env.withOrange (accepting fun _ => true)).payment.initiate
      { amount := dto.amount, phoneNumber := dto.phoneNumber, internalRef := 1 })) _).run
        Cmd.exec _).store.payments.rows = _ ∧ _
  rw [Async.run_queryE_bind, hinitiate]
  exact ⟨rfl, rfl⟩

theorem initiated_requested : Initiated env dto 1 (requested env dto) := by
  have hok := run_accepting env dto fun _ => true
  cases hresult : ((dto.program (env.withOrange (accepting fun _ => true)) 10).run
      Cmd.exec debtless).result with
  | error e =>
    rw [hresult] at hok
    cases hok
  | ok response =>
    obtain ⟨-, driverId, hshape⟩ := initiated_of_run hresult
    have hrow : ((requested env dto).payments.find? response.paymentId).isSome := by
      rw [← Option.isSome_map, ← Store.paymentShape, requested, hshape]
      rfl
    -- there is one payment only
    obtain ⟨row, hrow⟩ := Option.isSome_iff_exists.mp hrow
    obtain ⟨hmem, hkey⟩ := Table.find?_eq_some_iff.mp hrow
    rw [requested_eq.1, List.mem_singleton] at hmem
    have hid : response.paymentId = 1 := by
      rw [← hkey, hmem]
      rfl
    exact ⟨_, debtless, 10, response, hresult, hid, .refl⟩

theorem reachesPayment_success (env : Env) (dto : PayCommissionDto) : ReachesPayment env.prisma (requested env dto)
    [("status", .str "SUCCESS"), ("notif_token", .str "secret")] none (payment dto) .succeeded where
  verified := by
    refine ⟨_, rfl, rfl, rfl, ?_⟩
    show (env.prisma.stringData .null).isSome = true
    rw [env.prisma.stringData_null]
    rfl
  matched := by
    refine ⟨.str "secret", _, rfl, env.prisma.stringFilter_str "secret", ?_⟩
    show (requested env dto).payments.rows.find? _ = _
    rw [requested_eq.1]
    rfl
  unsettled := by
    show CommissionPaymentStatus.pending ≠ .succeeded
    decide

/-- When the amounts agree, the amount asked for is the whole part, and it is the amount stored. -/
theorem fract_lt_of_charged (h : ChargedAsCredited env dto n) : Int.fract dto.amount < 1 / 200 := by
  have hamount : (0 : ℚ) ≤ dto.amount := by linarith [dto.min_amount]
  -- a provider that knows the amount `n` only goes on as one that accepts everything
  have hn : ⌊dto.amount⌋ = n := by
    have hagree : (accepting fun _ => true).AgreeOn n (accepting fun m => decide (m = n)) := by
      refine ⟨fun orderId s => ?_, fun orderId payToken s => rfl⟩
      simp [accepting]
    have hall := run_accepting env dto fun _ => true
    have hone := run_accepting env dto fun m => decide (m = n)
    have hsame : dto.program (env.withOrange (accepting fun _ => true)) 10 =
        dto.program (env.withOrange (accepting fun m => decide (m = n))) 10 := h.initiated 10 _ _ hagree
    rw [← hsame, hall] at hone
    exact of_decide_eq_true hone.symm
  have hrow : (requested env dto).payments.find? 1 = some (payment dto) := by
    have hmem : payment dto ∈ (requested env dto).payments.rows := by
      rw [requested_eq.1]
      exact List.mem_singleton_self _
    exact Table.find?_of_mem hmem
  obtain ⟨txnid, hrun⟩ := run_handleWebhook_of_reaches (accepting fun _ => true)
    (reachesPayment_success env dto)
  have hrun' : ((success.program (env.withOrange (accepting fun _ => true))).run Cmd.exec
      (requested env dto)).store = _ := (Async.run_store_bind_done _ _ (fun _ => .ok ()) _).trans hrun
  have hbefore : (requested env dto).paymentStatus 1 = some .pending := by
    rw [Store.paymentStatus, hrow]
    rfl
  have hafter := @paymentStatus_confirmEffect (requested env dto) (payment dto)
    (webhookData (requested env dto) .succeeded txnid) rfl hrow 1
  have hdue := @commissionDue_confirmEffect (requested env dto) (payment dto)
    (webhookData (requested env dto) .succeeded txnid) 1
  obtain ⟨row, hfind, hcredited⟩ := h.credited _ 1 initiated_requested (by rw [hbefore]; decide) _ success _
    hrun' (hafter.trans (if_pos rfl))
  obtain rfl := Option.some.inj (hrow.symm.trans hfind)
  have howed : (requested env dto).commissionDue 1 = some 0 := by
    rw [Store.commissionDue, requested_eq.2]
    rfl
  have hequal : (0 : ℤ) - Decimal2.ofNumber dto.amount = 0 - Decimal2.ofInt n := by
    have hboth := (hdue.trans (if_pos ⟨rfl, rfl⟩)).symm.trans hcredited
    rw [howed] at hboth
    exact Option.some.inj hboth
  rw [← ofNumber_eq_ofInt_floor_iff hamount, hn]
  exact sub_right_inj.mp hequal

end Amounts

open Amounts in
/-- What Orange Money is asked for is what the driver is credited if and only if the amount is less than
half a hundredth above a whole number. -/
theorem charged_as_credited_iff (env : Env) (dto : PayCommissionDto) :
    (∃ n, ChargedAsCredited env dto n) ↔ Int.fract dto.amount < 1 / 200 := by
  constructor
  · rintro ⟨n, h⟩
    exact fract_lt_of_charged h
  · intro h
    exact ⟨_, chargedAsCredited_of_fract h⟩

/-- Of 150.99 francs, 150 are charged. -/
theorem not_charged_as_credited : ¬ ∀ dto, ∃ n, ChargedAsCredited .offline dto n := by
  intro hall
  obtain ⟨n, h⟩ := hall ⟨15099 / 100, "+22370000000", by norm_num, by decide⟩
  have hfract : Int.fract (15099 / 100 : ℚ) < 1 / 200 := Amounts.fract_lt_of_charged h
  have hfloor : ⌊(15099 / 100 : ℚ)⌋ = 150 := by
    rw [Int.floor_eq_iff]
    norm_num
  rw [Int.fract, hfloor] at hfract
  norm_num at hfract

end Telima
