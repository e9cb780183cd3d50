import Telima.Async.Run
import Telima.Payments.Service

/-!
# What a payment call does on its own

The run of each function of `PaymentsService` that nothing interferes with, as the effect of its
writes on the store.
-/

namespace Telima

namespace Store

def paymentStatus (s : Store) (paymentId : ℕ) : Option CommissionPaymentStatus :=
  (s.payments.find? paymentId).map CommissionPayment.status

def commissionDue (s : Store) (driverId : ℕ) : Option Decimal2 :=
  (s.drivers.find? driverId).map Driver.commissionDue

variable {s : Store} {id : ℕ} {data : PaymentData}

theorem find?_updatePayment (href : data.references = none) (id' : ℕ) :
    ((Cmd.updatePayment id data).exec s).payments.find? id' =
      if id' = id then (s.payments.find? id').map (data.apply s.now)
      else s.payments.find? id' := by
  have hconf : data.conflicts s id = false := by simp [PaymentData.conflicts, href]
  simp only [Cmd.exec, hconf, Table.find?_update, Bool.false_eq_true, if_false]

theorem paymentStatus_updatePayment (href : data.references = none) (id' : ℕ) :
    ((Cmd.updatePayment id data).exec s).paymentStatus id' =
      if id' = id then (s.paymentStatus id').map fun _ => data.status else s.paymentStatus id' := by
  rw [paymentStatus, find?_updatePayment href]
  split_ifs
  · simp [paymentStatus, Option.map_map, Function.comp_def, PaymentData.apply]
  · rfl

theorem commissionDue_decrement {d : ℕ} {a : ℚ} (d' : ℕ) :
    ((Cmd.decrementCommissionDue d a).exec s).commissionDue d' =
      if d' = d then (s.commissionDue d').map fun due => due.decrement a
      else s.commissionDue d' := by
  simp only [commissionDue, Cmd.exec, Table.find?_update]
  split_ifs with h
  · simp [Option.map_map, Function.comp_def, Driver.decrementDue]
  · rfl

end Store

namespace PaymentsService

variable {s : Store}

theorem run_applyPaymentSuccess (id driverId : ℕ) (amount : ℚ) (ref : String) :
    ((applyPaymentSuccess id driverId amount ref).run Cmd.exec s).store =
      (Cmd.decrementCommissionDue driverId amount).exec s := by
  unfold applyPaymentSuccess CommissionsService.markCommissionPaid
  simp only [Async.bind_eq, Async.run_queryE_bind, Outcome.store_after]
  cases s.drivers.find? driverId <;> rfl

theorem run_updatePayment_bind {α : Type} {id : ℕ} {payment : CommissionPayment}
    {data : PaymentData} (href : data.references = none)
    (hrow : s.payments.find? id = some payment) (g : CommissionPayment → Prog α) :
    ((updatePayment id data).bind g).run Cmd.exec s =
      ((g (data.apply s.now payment)).run Cmd.exec ((Cmd.updatePayment id data).exec s)).after
        [.updatePayment id data] := by
  have hconf : data.conflicts s id = false := by simp [PaymentData.conflicts, href]
  rw [updatePayment, Async.run_queryE_bind]
  simp only [hconf, hrow, Bool.false_eq_true, if_false, Option.map_some, orNotFound,
    Option.elim_some, Async.done_ok_bind]

/-- The status update of a call, and its decrement if it stores `succeeded`. -/
def confirmEffect (payment : CommissionPayment) (data : PaymentData) (s : Store) : Store :=
  let s' := (Cmd.updatePayment payment.id data).exec s
  if data.status = .succeeded then
    (Cmd.decrementCommissionDue payment.driverId payment.amount.toNumber).exec s'
  else s'

/-- The run of a status update and, if it stores `succeeded`, the decrement after it. -/
theorem run_update_then_apply {α : Type} {payment : CommissionPayment} (data : PaymentData)
    (href : data.references = none) (hrow : s.payments.find? payment.id = some payment)
    (ref : String) (a : α) :
    (((updatePayment payment.id data).bind fun _ =>
        if data.status = .succeeded then
          (applyPaymentSuccess payment.id payment.driverId payment.amount.toNumber ref).bind
            fun _ => .done (.ok a)
        else .done (.ok a)).run Cmd.exec s).store = confirmEffect payment data s := by
  rw [run_updatePayment_bind href hrow, Outcome.store_after, confirmEffect]
  split_ifs
  · rw [Async.run_store_bind_done, run_applyPaymentSuccess]
  · rfl

/-- What `confirmPayment` writes. -/
def webhookData (s : Store) (status : CommissionPaymentStatus) (txnid : Option String) :
    PaymentData :=
  { status, txnid := some txnid, paidAt := if status = .succeeded then some s.now else none }

theorem run_confirmPayment {prisma : PrismaClient} {verification : WebhookVerification}
    {payment : CommissionPayment} (hrow : s.payments.find? payment.id = some payment) :
    ((confirmPayment prisma verification payment).run Cmd.exec s).store =
      if payment.status = .succeeded then s
      else (webhookTxnid prisma verification.txnid).elim s fun txnid =>
        confirmEffect payment (webhookData s (webhookStatus verification.status) txnid) s := by
  unfold confirmPayment
  split_ifs with hs
  · rfl
  · cases htxnid : webhookTxnid prisma verification.txnid with
    | none => rfl
    | some txnid =>
      exact run_update_then_apply (webhookData s (webhookStatus verification.status) txnid) rfl
        hrow (webhookRef payment verification) _

/-- A driver who owes 100, with a pending payment of 50. -/
def pendingStore : Store where
  drivers := .single { id := 1, userId := 10, balance := 0, commissionDue := 10000 }
  payments :=
    .single { id := 1, driverId := 1, amount := 5000, notifToken := some "secret"
              createdAt := 0, updatedAt := 0 }

end PaymentsService

end Telima
