import Telima.Store.Commands

/-!
# Payment providers

The `PaymentProvider` interface, the mock and the Orange Money provider.  What the Orange Money API
answers is a parameter (`OrangeApi`), and so is what Prisma makes of a value that is not the string
its type promises (`PrismaClient`).
-/

namespace Telima

structure PaymentInitiation where
  amount : ℚ
  phoneNumber : String
  internalRef : ℕ

inductive InitiationStatus where
  | pending | succeeded | failed
  deriving DecidableEq, Repr

structure PaymentInitiationResult where
  transactionRef : String
  status : InitiationStatus
  paymentUrl : Option String := none
  notifToken : Option String := none
  orderId : Option String := none
  deriving DecidableEq

/-- The extracted webhook.  `notifToken` and `txnid` are whatever the body holds. -/
structure WebhookVerification where
  valid : Bool
  transactionRef : Option String := none
  orderId : Option String := none
  notifToken : Option Json := none
  txnid : Option Json := none
  status : Option CommissionPaymentStatus := none

structure TransactionStatus where
  status : CommissionPaymentStatus
  txnid : Option String := none
  deriving DecidableEq

/-- The interface; what an external service answers may depend on when it is called. -/
structure PaymentProvider where
  initiate : PaymentInitiation → Store → Except Error PaymentInitiationResult
  verifyWebhook : Record → Option String → Except Error WebhookVerification
  checkTransactionStatus : Option (String → String → ℚ → Store → Except Error TransactionStatus)

/-- What Prisma does with a JSON value in the place of a string. -/
structure PrismaClient where
  /-- The filter a value of a `where` field stands for; `none` if Prisma refuses the value. -/
  stringFilter : Json → Option (Option String → Bool)
  /-- The column value a value of a `data` field stands for; `none` if Prisma refuses it. -/
  stringData : Json → Option (Option String)
  stringFilter_str : ∀ t, stringFilter (.str t) = some fun column => column == some t
  stringData_null : stringData .null = some none
  stringData_str : ∀ t, stringData (.str t) = some (some t)

/-- Prisma's filter objects, as far as `equals`, `not` and `startsWith` with a string or `null`. -/
def prismaFilter : Json → Option (Option String → Bool)
  | .str t => some fun column => column == some t
  | .obj [("equals", .str t)] => some fun column => column == some t
  | .obj [("not", .null)] => some fun column => column.isSome
  | .obj [("not", .str t)] => some fun column => column.any (· != t)
  | .obj [("startsWith", .str t)] => some fun column => column.any fun c => t.toList.isPrefixOf c.toList
  | _ => none

/-- A client that knows these filters. -/
def PrismaClient.basic : PrismaClient where
  stringFilter := prismaFilter
  stringData
    | .null => some none
    | .str t => some (some t)
    | .obj [("set", .str t)] => some (some t)
    | _ => none
  stringFilter_str _ := rfl
  stringData_null := rfl
  stringData_str _ := rfl

namespace MockPaymentProvider

/-- The mock confirms every payment at once; its references are numbered. -/
def initiate (_ : PaymentInitiation) (s : Store) : Except Error PaymentInitiationResult :=
  .ok
    { transactionRef := "MOCK-" ++ toString s.now ++ "-" ++ toString (s.externalCalls + 1)
      status := .succeeded }

def checkTransactionStatus (_ _ : String) (_ : ℚ) (_ : Store) : Except Error TransactionStatus :=
  .ok { status := .succeeded }

def verifyWebhook (_ : Record) (_ : Option String) : Except Error WebhookVerification :=
  .ok { valid := false }

def provider : PaymentProvider where
  initiate := initiate
  verifyWebhook := verifyWebhook
  checkTransactionStatus := some checkTransactionStatus

end MockPaymentProvider

/-- The answer of `POST /webpayment`. -/
structure WebPayment where
  payToken : Option String
  paymentUrl : Option String
  notifToken : Option String

/-- The Orange Money API: a refused or failed request is an error. -/
structure OrangeApi where
  webPayment : (orderId : String) → (amount : ℤ) → Store → Except Error WebPayment
  transactionStatus : (orderId : String) → (amount : ℤ) → (payToken : String) → Store →
    Except Error (Option Json × Option String)

namespace OrangeMoneyProvider

/-- `orangeStatus?.toUpperCase()` and the switch on it. -/
def mapOrangeStatus : Option Json → Except Error CommissionPaymentStatus
  | none | some .null => .ok .pending
  | some (.str s) =>
    if upperCaseIs s "SUCCESS" then .ok .succeeded
    else if upperCaseIs s "FAILED" then .ok .failed
    else if upperCaseIs s "EXPIRED" then .ok .expired
    else .ok .pending
  | some _ => .error .typeError

def initiate (api : OrangeApi) (input : PaymentInitiation) (s : Store) :
    Except Error PaymentInitiationResult := do
  let orderId := "TL" ++ String.ofList ((toString input.internalRef).toList.take 28)
  let raw ← api.webPayment orderId ⌊input.amount⌋ s
  match raw.payToken, raw.paymentUrl with
  | some payToken, some paymentUrl =>
    if payToken = "" ∨ paymentUrl = "" then
      throw (.badRequest "Reponse Orange incomplete (pay_token/payment_url manquants)")
    else
      pure
        { transactionRef := payToken
          status := .pending
          paymentUrl := some paymentUrl
          notifToken := raw.notifToken
          orderId := some orderId }
  | _, _ => throw (.badRequest "Reponse Orange incomplete (pay_token/payment_url manquants)")

def verifyWebhook (payload : Record) (_signature : Option String) :
    Except Error WebhookVerification := do
  let status := payload.get? "status"
  let notifToken := payload.get? "notif_token"
  let txnid := payload.get? "txnid"
  if !status.any Json.truthy || !notifToken.any Json.truthy then
    pure { valid := false }
  else
    let mappedStatus ← mapOrangeStatus status
    if mappedStatus = .pending then
      pure { valid := false }
    else
      pure { valid := true, notifToken, txnid, status := some mappedStatus }

def checkTransactionStatus (api : OrangeApi) (transactionRef orderId : String) (amount : ℚ)
    (s : Store) : Except Error TransactionStatus := do
  let (orangeStatus, txnid) ← api.transactionStatus orderId ⌊amount⌋ transactionRef s
  let mapped ← mapOrangeStatus orangeStatus
  pure { status := mapped, txnid }

def provider (api : OrangeApi) : PaymentProvider where
  initiate := initiate api
  verifyWebhook := verifyWebhook
  checkTransactionStatus := some (checkTransactionStatus api)

end OrangeMoneyProvider

end Telima
