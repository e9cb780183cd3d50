import Telima.Commissions.Service
import Telima.Payments.Provider

/-!
# `PaymentsService`
-/

namespace Telima

/-- The response of `payCommission`. -/
structure PayCommissionResponse where
  paymentId : ℕ
  transactionRef : String
  orderId : Option String
  status : CommissionPaymentStatus
  amount : ℚ
  paymentUrl : Option String
  deriving DecidableEq

/-- The response of `handleWebhook`; `received` is always true. -/
structure WebhookResponse where
  processed : Bool
  reason : Option String := none
  status : Option CommissionPaymentStatus := none
  deriving DecidableEq

/-- The response of `checkPaymentStatus`: the status, and the row with its driver's `userId`. -/
structure PaymentStatusResponse where
  status : CommissionPaymentStatus
  payment : CommissionPayment
  userId : ℕ
  deriving DecidableEq

/-- A string that counts as true. -/
def truthyString (s : Option String) : Option String := s.filter (· ≠ "")

namespace PaymentsService

/-- `commissionPayment.update`; the answer is the updated row. -/
def updatePayment (paymentId : ℕ) (data : PaymentData) : Prog CommissionPayment :=
  Async.queryE (.updatePayment paymentId data) fun s =>
    if data.conflicts s paymentId then .error .uniqueConstraint
    else orNotFound ((s.payments.find? paymentId).map (data.apply s.now))

/-- `commissionPayment.create`; the answer is the created row. -/
def createPayment (driverId : ℕ) (amount : ℚ) : Prog CommissionPayment :=
  Async.query (.createPayment driverId amount) fun s =>
    { id := s.payments.freshKey, driverId, amount := .ofNumber amount
      createdAt := s.now, updatedAt := s.now }

/-- `driver.findUnique({ where: { userId } })` -/
def findDriver (userId : ℕ) : Prog (Option Driver) :=
  Async.query (.findDriver userId) fun s =>
    s.drivers.findFirst fun d => decide (d.userId = userId)

/-- The first payment a query on one column finds. -/
def findPayment (p : CommissionPayment → Bool) : Prog (Option CommissionPayment) :=
  Async.query .findPayment fun s => s.payments.findFirst p

/-- `commissionPayment.findUnique` with the driver's `userId`. -/
def findPaymentWithOwner (paymentId : ℕ) : Prog (Option (CommissionPayment × Option ℕ)) :=
  Async.query .findPayment fun s =>
    (s.payments.find? paymentId).map fun p =>
      (p, (s.drivers.find? p.driverId).map Driver.userId)

def applyPaymentSuccess (paymentId driverId : ℕ) (amount : ℚ) (transactionRef : String) :
    Prog Unit := do
  CommissionsService.markCommissionPaid driverId amount
  Async.emit (.broadcast (.driver driverId) .paymentConfirmed
    (.paymentConfirmed transactionRef amount driverId))
  Async.emit (.emit (.commissionPaid paymentId driverId amount))
  Async.emit (.emit (.paymentSucceeded transactionRef amount driverId))

def initialStatus : InitiationStatus → CommissionPaymentStatus
  | .succeeded => .succeeded
  | .failed => .failed
  | .pending => .pending

def payCommission (provider : PaymentProvider) (userId : ℕ) (amount : ℚ) (phoneNumber : String) :
    Prog PayCommissionResponse := do
  match ← findDriver userId with
  | none => Async.throw (.notFound "Profil chauffeur introuvable")
  | some driver =>
    let payment ← createPayment driver.id amount
    let result ← Async.queryE .external
      (provider.initiate { amount, phoneNumber, internalRef := payment.id })
    let now ← newDate
    let updated ← updatePayment payment.id
      { status := initialStatus result.status
        references := some (result.transactionRef, result.orderId, result.notifToken,
          result.paymentUrl)
        paidAt := if result.status = .succeeded then some now else none }
    let response : PayCommissionResponse :=
      { paymentId := updated.id
        transactionRef := result.transactionRef
        orderId := result.orderId
        status := updated.status
        amount := updated.amount.toNumber
        paymentUrl := result.paymentUrl }
    if result.status = .succeeded then do
      applyPaymentSuccess updated.id driver.id amount result.transactionRef
      pure response
    else pure response

/-- The lookup by `notif_token`, when the webhook has one. -/
def findByNotifToken (prisma : PrismaClient) (notifToken : Option Json) :
    Prog (Option CommissionPayment) :=
  match notifToken.filter Json.truthy with
  | none => pure none
  | some token =>
    match prisma.stringFilter token with
    | none => Async.throw .validation
    | some accepts => findPayment fun p => accepts p.notifToken

/-- The lookup by `transactionRef`, when nothing was found before. -/
def findByTransactionRef (transactionRef : Option String) :
    Option CommissionPayment → Prog (Option CommissionPayment)
  | some payment => pure (some payment)
  | none =>
    match truthyString transactionRef with
    | none => pure none
    | some ref => findPayment fun p => decide (p.transactionRef = some ref)

/-- The lookup by `orderId`, when nothing was found before. -/
def findByOrderId (orderId : Option String) :
    Option CommissionPayment → Prog (Option CommissionPayment)
  | some payment => pure (some payment)
  | none =>
    match truthyString orderId with
    | none => pure none
    | some order => findPayment fun p => decide (p.orderId = some order)

/-- `verification.notifToken?.substring(0, 8)` of the warning throws unless the token is a string. -/
def notFoundWarning : Option Json → Except Error Unit
  | none | some .null | some (.str _) => .ok ()
  | some _ => .error .typeError

def webhookStatus : Option CommissionPaymentStatus → CommissionPaymentStatus
  | some .succeeded => .succeeded
  | some .expired => .expired
  | _ => .failed

/-- The reference reported for a confirmed webhook; a token that is no string is only shown. -/
def webhookRef (payment : CommissionPayment) (verification : WebhookVerification) : String :=
  ((payment.transactionRef.or verification.transactionRef).or
    (verification.notifToken.bind fun token =>
      match token with
      | .str t => some t
      | _ => none)).getD ""

/-- `txnid: verification.txnid ?? null` -/
def webhookTxnid (prisma : PrismaClient) (txnid : Option Json) : Option (Option String) :=
  prisma.stringData (txnid.getD .null)

/-- The rest of `handleWebhook` once the payment is found. -/
def confirmPayment (prisma : PrismaClient) (verification : WebhookVerification)
    (payment : CommissionPayment) : Prog WebhookResponse :=
  if payment.status = .succeeded then
    pure { processed := false, reason := some "already_processed" }
  else
    let newStatus := webhookStatus verification.status
    match webhookTxnid prisma verification.txnid with
    | none => Async.throw .validation
    | some txnid => do
      let now ← newDate
      let _ ← updatePayment payment.id
        { status := newStatus, txnid := some txnid
          paidAt := if newStatus = .succeeded then some now else none }
      if newStatus = .succeeded then do
        applyPaymentSuccess payment.id payment.driverId payment.amount.toNumber
          (webhookRef payment verification)
        pure { processed := true, status := some newStatus }
      else pure { processed := true, status := some newStatus }

def handleWebhook (provider : PaymentProvider) (prisma : PrismaClient) (payload : Record)
    (signature : Option String) : Prog WebhookResponse :=
  match provider.verifyWebhook payload signature with
  | .error e => Async.throw e
  | .ok verification =>
    if verification.valid then do
      let payment ← findByNotifToken prisma verification.notifToken
      let payment ← findByTransactionRef verification.transactionRef payment
      let payment ← findByOrderId verification.orderId payment
      match payment with
      | none =>
        match notFoundWarning verification.notifToken with
        | .error e => Async.throw e
        | .ok () => pure { processed := false }
      | some payment => confirmPayment prisma verification payment
    else pure { processed := false }

/-- The `try` block of `checkPaymentStatus`; the answer is the response it returns, if it does. -/
def pollProvider (provider : PaymentProvider) (payment : CommissionPayment) (userId : ℕ) :
    Prog (Option PaymentStatusResponse) :=
  match provider.checkTransactionStatus, truthyString payment.transactionRef,
    truthyString payment.orderId with
  | some check, some transactionRef, some orderId => do
    let result ← Async.queryE .external (check transactionRef orderId payment.amount.toNumber)
    if result.status = .pending then pure none
    else do
      let now ← newDate
      let _ ← updatePayment payment.id
        { status := result.status
          txnid := some (result.txnid.or payment.txnid)
          paidAt := if result.status = .succeeded then some now else none }
      let response : PaymentStatusResponse :=
        { status := result.status, payment := { payment with status := result.status }, userId }
      if result.status = .succeeded then do
        applyPaymentSuccess payment.id payment.driverId payment.amount.toNumber transactionRef
        pure (some response)
      else pure (some response)
  | _, _, _ => pure none

def checkPaymentStatus (provider : PaymentProvider) (paymentId userId : ℕ) :
    Prog PaymentStatusResponse := do
  match ← findPaymentWithOwner paymentId with
  | none => Async.throw (.notFound "Paiement introuvable")
  | some (payment, owner) =>
    if owner ≠ some userId then Async.throw (.notFound "Paiement introuvable")
    else
      let stored : PaymentStatusResponse := { status := payment.status, payment, userId }
      if payment.status ≠ .pending then pure stored
      else do
        let polled ← Async.tryCatch (pollProvider provider payment userId) fun _ => pure none
        pure (polled.getD stored)

end PaymentsService

end Telima
