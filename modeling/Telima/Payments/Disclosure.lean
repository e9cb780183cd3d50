import Telima.Async.Relational
import Telima.Payments.Runs
import Telima.System

/-!
# What a driver learns of the webhook secrets

Two servers whose stored and issued `notifToken`s differ, and nothing else, run the same requests
under the same schedule.  Erasing the tokens commutes with every command (`eraseTokens_exec`), so
the two runs stay in step and their answers are equal up to the tokens in them.  `payCommission`
answers without the token; `checkPaymentStatus` answers with the whole row, and so with the token
the poll read (`PaymentReply.Answers`).
-/

namespace Telima

open PaymentsService

/-! ### Erasing the tokens -/

def CommissionPayment.eraseToken (p : CommissionPayment) : CommissionPayment :=
  { p with notifToken := none }

theorem CommissionPayment.id_eraseToken (p : CommissionPayment) : p.eraseToken.id = p.id := rfl

theorem CommissionPayment.eq_setToken {p p' : CommissionPayment}
    (h : p.eraseToken = p'.eraseToken) : p' = { p with notifToken := p'.notifToken } := by
  cases p
  cases p'
  simp_all [CommissionPayment.eraseToken]

def PaymentData.eraseToken (data : PaymentData) : PaymentData :=
  { data with references := data.references.map fun r => (r.1, r.2.1, none, r.2.2.2) }

def PaymentInitiationResult.eraseToken (r : PaymentInitiationResult) : PaymentInitiationResult :=
  { r with notifToken := none }

theorem PaymentData.eraseToken_apply (data : PaymentData) (now : ℕ) (p : CommissionPayment) :
    (data.apply now p).eraseToken = data.eraseToken.apply now p.eraseToken := by
  cases h : data.references <;>
    simp [PaymentData.apply, PaymentData.eraseToken, CommissionPayment.eraseToken, h]

theorem PaymentInitiationResult.eq_setToken {r r' : PaymentInitiationResult}
    (h : r.eraseToken = r'.eraseToken) : r' = { r with notifToken := r'.notifToken } := by
  cases r
  cases r'
  simp_all [PaymentInitiationResult.eraseToken]

def Cmd.eraseToken : Cmd → Cmd
  | .updatePayment paymentId data => .updatePayment paymentId data.eraseToken
  | c => c

namespace Store

def eraseTokens (s : Store) : Store :=
  { s with payments := s.payments.mapRows CommissionPayment.eraseToken CommissionPayment.id_eraseToken }

/-- The stores differ only in the tokens. -/
def EqUpToTokens (s s' : Store) : Prop := s.eraseTokens = s'.eraseTokens

theorem conflicts_eraseTokens (data : PaymentData) (s : Store) (paymentId : ℕ) :
    data.eraseToken.conflicts s.eraseTokens paymentId = data.conflicts s paymentId := by
  cases h : data.references with
  | none => simp [PaymentData.conflicts, PaymentData.eraseToken, h]
  | some r =>
    simp only [PaymentData.conflicts, PaymentData.eraseToken, h, eraseTokens, Option.map_some,
      Option.any_some, Table.rows_mapRows, List.any_map]
    rfl

/-- What a command does does not depend on the tokens. -/
theorem eraseTokens_exec (c : Cmd) (s : Store) :
    (c.exec s).eraseTokens = c.eraseToken.exec s.eraseTokens := by
  cases c with
  | createPayment driverId amount =>
    simp only [Cmd.exec, Cmd.eraseToken, eraseTokens, Table.mapRows_insert, Table.freshKey_mapRows]
    rfl
  | updatePayment paymentId data =>
    simp only [Cmd.exec, Cmd.eraseToken, conflicts_eraseTokens]
    split_ifs
    · rfl
    · simp only [eraseTokens]
      rw [Table.mapRows_update _ (data.eraseToken.id_apply s.now) (data.eraseToken_apply s.now)]
  | _ => rfl

namespace EqUpToTokens

variable {s s' : Store}

theorem drivers (h : s.EqUpToTokens s') : s.drivers = s'.drivers := by
  have herase : s.eraseTokens = s'.eraseTokens := h
  exact congrArg (fun t => t.drivers) herase

theorem now (h : s.EqUpToTokens s') : s.now = s'.now := by
  have herase : s.eraseTokens = s'.eraseTokens := h
  exact congrArg (fun t => t.now) herase

theorem externalCalls (h : s.EqUpToTokens s') : s.externalCalls = s'.externalCalls := by
  have herase : s.eraseTokens = s'.eraseTokens := h
  exact congrArg (fun t => t.externalCalls) herase

theorem freshKey (h : s.EqUpToTokens s') : s.payments.freshKey = s'.payments.freshKey := by
  have hpay : s.eraseTokens.payments = s'.eraseTokens.payments := congrArg Store.payments h
  have hkey := congrArg Table.freshKey hpay
  simp only [eraseTokens, Table.freshKey_mapRows] at hkey
  exact hkey

theorem findPayment (h : s.EqUpToTokens s') (id : ℕ) :
    (s.payments.find? id).map CommissionPayment.eraseToken =
      (s'.payments.find? id).map CommissionPayment.eraseToken := by
  have hpay : s.eraseTokens.payments = s'.eraseTokens.payments := congrArg Store.payments h
  have hfind := congrArg (fun t => t.find? id) hpay
  simp only [eraseTokens, Table.find?_mapRows] at hfind
  exact hfind

theorem conflicts (h : s.EqUpToTokens s') {data data' : PaymentData}
    (hdata : data.eraseToken = data'.eraseToken) (id : ℕ) :
    data.conflicts s id = data'.conflicts s' id := by
  rw [← conflicts_eraseTokens data s, ← conflicts_eraseTokens data' s', hdata, h]

end EqUpToTokens

end Store

/-! ### Requests -/

/-- What happens in a run: a request of a driver, or time passes. -/
inductive PaymentRequest where
  | pay (userId : ℕ) (amount : ℚ) (phoneNumber : String)
  | poll (paymentId userId : ℕ)
  | wait (ms : ℕ)

/-- What a request is answered. -/
inductive PaymentReply where
  | paid (response : PayCommissionResponse)
  | polled (response : PaymentStatusResponse)
  | waited
  deriving DecidableEq

def PaymentRequest.program (env : Env) : PaymentRequest → Prog PaymentReply
  | pay userId amount phoneNumber =>
    (payCommission env.payment userId amount phoneNumber).bind fun r => .done (.ok (.paid r))
  | poll paymentId userId =>
    (checkPaymentStatus env.payment paymentId userId).bind fun r => .done (.ok (.polled r))
  | wait ms => (Async.perform (.tick ms)).bind fun _ => .done (.ok .waited)

def PaymentStatusResponse.eraseToken (r : PaymentStatusResponse) : PaymentStatusResponse :=
  { r with payment := r.payment.eraseToken }

def PaymentReply.eraseToken : PaymentReply → PaymentReply
  | polled r => polled r.eraseToken
  | r => r

/-- The providers answer alike, up to the tokens they issue. -/
structure PaymentProvider.AgreeUpToTokens (P P' : PaymentProvider) : Prop where
  initiate : ∀ input s s', s.EqUpToTokens s' →
    (P.initiate input s).map PaymentInitiationResult.eraseToken =
      (P'.initiate input s').map PaymentInitiationResult.eraseToken
  check : Option.Rel (fun f f' => ∀ transactionRef orderId amount s s', s.EqUpToTokens s' →
      f transactionRef orderId amount s = f' transactionRef orderId amount s')
    P.checkTransactionStatus P'.checkTransactionStatus

theorem PaymentProvider.AgreeUpToTokens.check_cases {P P' : PaymentProvider}
    (h : P.AgreeUpToTokens P') :
    P.checkTransactionStatus = none ∧ P'.checkTransactionStatus = none ∨
      ∃ check check', P.checkTransactionStatus = some check ∧
        P'.checkTransactionStatus = some check' ∧
        ∀ transactionRef orderId amount s s', s.EqUpToTokens s' →
          check transactionRef orderId amount s = check' transactionRef orderId amount s' := by
  have hcheck := h.check
  cases hP : P.checkTransactionStatus with
  | none =>
    cases hP' : P'.checkTransactionStatus with
    | none => exact Or.inl ⟨rfl, rfl⟩
    | some check' => simp [hP, hP'] at hcheck
  | some check =>
    cases hP' : P'.checkTransactionStatus with
    | none => simp [hP, hP'] at hcheck
    | some check' =>
      rw [hP, hP', Option.rel_some_some] at hcheck
      exact Or.inr ⟨check, check', rfl, rfl, hcheck⟩

theorem MockPaymentProvider.agreeUpToTokens :
    MockPaymentProvider.provider.AgreeUpToTokens MockPaymentProvider.provider where
  initiate input s s' hs := by
    have hcalls : s.externalCalls = s'.externalCalls := hs.externalCalls
    simp only [provider, MockPaymentProvider.initiate, hs.now, hcalls]
  check := .some fun _ _ _ _ _ _ => rfl

/-- The two services answer alike, up to the tokens. -/
structure OrangeApi.AgreeUpToTokens (api api' : OrangeApi) : Prop where
  webPayment : ∀ orderId amount s s', s.EqUpToTokens s' →
    (api.webPayment orderId amount s).map (fun r => { r with notifToken := none }) =
      (api'.webPayment orderId amount s').map fun r => { r with notifToken := none }
  transactionStatus : ∀ orderId amount payToken s s', s.EqUpToTokens s' →
    api.transactionStatus orderId amount payToken s =
      api'.transactionStatus orderId amount payToken s'

/-- The Orange Money provider passes the tokens of the service on and does not look at them. -/
theorem OrangeMoneyProvider.agreeUpToTokens {api api' : OrangeApi} (h : api.AgreeUpToTokens api') :
    (OrangeMoneyProvider.provider api).AgreeUpToTokens (OrangeMoneyProvider.provider api') where
  initiate input s s' hs := by
    have hraw := h.webPayment ("TL" ++ String.ofList ((toString input.internalRef).toList.take 28))
      ⌊input.amount⌋ s s' hs
    simp only [provider, OrangeMoneyProvider.initiate]
    generalize api.webPayment _ _ _ = raw at hraw ⊢
    generalize api'.webPayment _ _ _ = raw' at hraw ⊢
    cases raw with
    | error e =>
      cases raw' with
      | error e' => rw [show e = e' from Except.error.inj hraw]
      | ok r' => cases hraw
    | ok r =>
      cases raw' with
      | error e' => cases hraw
      | ok r' =>
        obtain ⟨payToken, paymentUrl, notifToken⟩ := r
        obtain ⟨payToken', paymentUrl', notifToken'⟩ := r'
        simp only [Except.map, Except.ok.injEq, WebPayment.mk.injEq] at hraw
        obtain ⟨rfl, rfl, -⟩ := hraw
        cases payToken with
        | none => rfl
        | some payToken =>
          cases paymentUrl with
          | none => rfl
          | some paymentUrl =>
            simp only [bind, Except.bind]
            split_ifs
            · rfl
            · rfl
  check := .some fun transactionRef orderId amount s s' hs => by
    simp only [checkTransactionStatus, h.transactionStatus orderId _ transactionRef s s' hs]

theorem offline_agreeUpToTokens : Env.offline.payment.AgreeUpToTokens Env.offline.payment :=
  OrangeMoneyProvider.agreeUpToTokens ⟨fun _ _ _ _ _ => rfl, fun _ _ _ _ _ _ => rfl⟩

/-- The command starts no handlers. -/
def Cmd.Quiet (c : Cmd) : Prop := ∀ (env : Env) (reply : PaymentReply), handlers env reply c = []

/-- The commands differ only in the tokens, and start no handlers. -/
def Cmd.EqUpToToken (c c' : Cmd) : Prop := c.eraseToken = c'.eraseToken ∧ c.Quiet ∧ c'.Quiet

/-- The results are equal up to the tokens, which `erase` erases. -/
def EqResult {α : Type} (erase : α → α) (r r' : Except Error α) : Prop := r.map erase = r'.map erase

/-! ### The two runs of a request -/

section Related

variable {P P' : PaymentProvider}

/-- Programs that run in step. -/
abbrev InStep {α : Type} (erase : α → α) (p p' : Prog α) : Prop :=
  p.Related Store.EqUpToTokens Cmd.EqUpToToken (EqResult erase) p'

/-- Equal up to the tokens: the same error, or values that are. -/
theorem EqResult.cases {α : Type} {erase : α → α} {r r' : Except Error α} (h : EqResult erase r r') :
    (∃ e, r = .error e ∧ r' = .error e) ∨ ∃ a a', r = .ok a ∧ r' = .ok a' ∧ erase a = erase a' := by
  cases r with
  | error e =>
    cases r' with
    | error e' => exact Or.inl ⟨e, rfl, congrArg _ (Except.error.inj h).symm⟩
    | ok a' => cases h
  | ok a =>
    cases r' with
    | error e' => cases h
    | ok a' => exact Or.inr ⟨a, a', rfl, rfl, Except.ok.inj h⟩

theorem eq_of_eqResult_id {α : Type} {r r' : Except Error α} (h : EqResult id r r') : r = r' := by
  simpa only [EqResult, Except.map_id, id] using h

theorem inStep_updatePayment {data data' : PaymentData} (hdata : data.eraseToken = data'.eraseToken)
    (paymentId : ℕ) :
    InStep CommissionPayment.eraseToken (updatePayment paymentId data)
      (updatePayment paymentId data') := by
  refine .await ⟨?_, fun _ _ => rfl, fun _ _ => rfl⟩ (fun s s' hs => .done ?_) fun e => .done rfl
  · exact congrArg (Cmd.updatePayment paymentId) hdata
  · have hrow := hs.findPayment paymentId
    simp only [hs.conflicts hdata paymentId, hs.now]
    split_ifs
    · rfl
    · cases h : s.payments.find? paymentId with
      | none =>
        rw [h, Option.map_none] at hrow
        rw [Option.map_eq_none_iff.mp hrow.symm]
        rfl
      | some row =>
        rw [h, Option.map_some] at hrow
        obtain ⟨row', h', herase⟩ := Option.map_eq_some_iff.mp hrow.symm
        rw [h']
        have happly : (data.apply s'.now row).eraseToken = (data'.apply s'.now row').eraseToken := by
          rw [PaymentData.eraseToken_apply, PaymentData.eraseToken_apply, hdata, herase]
        exact congrArg Except.ok happly

theorem inStep_applyPaymentSuccess (paymentId driverId : ℕ) (amount : ℚ) (transactionRef : String) :
    InStep id (applyPaymentSuccess paymentId driverId amount transactionRef)
      (applyPaymentSuccess paymentId driverId amount transactionRef) := by
  have hquiet : ∀ c : Cmd, c.Quiet → c.EqUpToToken c := fun c hc => ⟨rfl, hc, hc⟩
  refine .await (hquiet _ fun _ _ => rfl) (fun s s' hs => ?_) fun e => .done rfl
  dsimp only
  rw [hs.drivers]
  cases s'.drivers.find? driverId with
  | none => exact .done rfl
  | some driver =>
    refine .sync (hquiet _ fun _ _ => rfl) fun _ _ _ => ?_
    refine .sync (hquiet _ fun _ _ => rfl) fun _ _ _ => ?_
    refine .sync (hquiet _ fun _ _ => rfl) fun _ _ _ => ?_
    refine .done ?_
    rfl

theorem inStep_payCommission (hP : P.AgreeUpToTokens P') (userId : ℕ) (amount : ℚ)
    (phoneNumber : String) :
    InStep id (payCommission P userId amount phoneNumber)
      (payCommission P' userId amount phoneNumber) := by
  have hquiet : ∀ c : Cmd, c.Quiet → c.EqUpToToken c := fun c hc => ⟨rfl, hc, hc⟩
  refine .await (hquiet _ fun _ _ => rfl) (fun s s' hs => ?_) fun e => .done rfl
  dsimp only [Async.done_ok_bind]
  rw [hs.drivers]
  cases s'.drivers.findFirst fun d => decide (d.userId = userId) with
  | none => exact .done rfl
  | some driver =>
    refine .await (hquiet _ fun _ _ => rfl) (fun s s' hs => ?_) fun e => .done rfl
    dsimp only [Async.done_ok_bind]
    rw [hs.freshKey]
    refine .await (hquiet _ fun _ _ => rfl) (fun t t' ht => ?_) fun e => .done rfl
    dsimp only
    rcases EqResult.cases (hP.initiate _ t t' ht) with
      ⟨e, herr, herr'⟩ | ⟨result, result', hok, hok', hresult⟩
    · rw [herr, herr']
      exact .done rfl
    rw [hok, hok', PaymentInitiationResult.eq_setToken hresult]
    refine .sync (hquiet _ fun _ _ => rfl) fun u u' hu => ?_
    dsimp only [Async.done_ok_bind]
    rw [hu.now]
    refine Async.Related.bind (inStep_updatePayment ?_ _) fun r r' hr => ?_
    · rfl
    -- the two rows differ in the token only, and the answer does not have it
    rcases hr.cases with ⟨e, rfl, rfl⟩ | ⟨row, row', rfl, rfl, hrow⟩
    · exact .done rfl
    rw [CommissionPayment.eq_setToken hrow]
    dsimp only [Async.done_ok_bind]
    split_ifs
    · refine (inStep_applyPaymentSuccess _ _ _ _).bind fun r r' hr => ?_
      rcases hr.cases with ⟨e, rfl, rfl⟩ | ⟨_, _, rfl, rfl, -⟩
      · exact .done rfl
      · exact .done rfl
    · exact .done rfl

theorem inStep_pollProvider (hP : P.AgreeUpToTokens P') (payment : CommissionPayment)
    (token : Option String) (userId : ℕ) :
    InStep (Option.map PaymentStatusResponse.eraseToken) (pollProvider P payment userId)
      (pollProvider P' { payment with notifToken := token } userId) := by
  have hquiet : ∀ c : Cmd, c.Quiet → c.EqUpToToken c := fun c hc => ⟨rfl, hc, hc⟩
  unfold pollProvider
  dsimp only
  rcases hP.check_cases with ⟨hnone, hnone'⟩ | ⟨check, check', hcheck, hcheck', hagree⟩
  · rw [hnone, hnone']
    exact .done rfl
  rw [hcheck, hcheck']
  cases truthyString payment.transactionRef with
  | none => exact .done rfl
  | some transactionRef =>
    cases truthyString payment.orderId with
    | none => exact .done rfl
    | some orderId =>
      refine .await (hquiet _ fun _ _ => rfl) (fun s s' hs => ?_) fun e => .done rfl
      dsimp only
      rw [hagree transactionRef orderId _ s s' hs]
      cases check' transactionRef orderId payment.amount.toNumber s' with
      | error e => exact .done rfl
      | ok result =>
        dsimp only [Async.done_ok_bind]
        split_ifs
        · exact .done rfl
        · -- the provider reports success
          refine .sync (hquiet _ fun _ _ => rfl) fun u u' hu => ?_
          dsimp only [Async.done_ok_bind]
          rw [hu.now]
          refine Async.Related.bind (inStep_updatePayment rfl _) fun r r' hr => ?_
          rcases hr.cases with ⟨e, rfl, rfl⟩ | ⟨row, row', rfl, rfl, hrow⟩
          · exact .done rfl
          refine (inStep_applyPaymentSuccess _ _ _ _).bind fun r r' hr => ?_
          rcases hr.cases with ⟨e, rfl, rfl⟩ | ⟨_, _, rfl, rfl, -⟩
          · exact .done rfl
          · exact .done rfl
        · -- it reports failure or expiry
          refine .sync (hquiet _ fun _ _ => rfl) fun _ _ _ => ?_
          dsimp only [Async.done_ok_bind]
          refine Async.Related.bind (inStep_updatePayment rfl _) fun r r' hr => ?_
          rcases hr.cases with ⟨e, rfl, rfl⟩ | ⟨row, row', rfl, rfl, hrow⟩
          · exact .done rfl
          · exact .done rfl

theorem inStep_checkPaymentStatus (hP : P.AgreeUpToTokens P') (paymentId userId : ℕ) :
    InStep PaymentStatusResponse.eraseToken (checkPaymentStatus P paymentId userId)
      (checkPaymentStatus P' paymentId userId) := by
  refine .await ⟨rfl, fun _ _ => rfl, fun _ _ => rfl⟩ (fun s s' hs => ?_) fun e => .done rfl
  have hfind := hs.findPayment paymentId
  dsimp only [Async.done_ok_bind]
  rw [hs.drivers]
  cases h : s.payments.find? paymentId with
  | none =>
    rw [h, Option.map_none] at hfind
    rw [Option.map_eq_none_iff.mp hfind.symm]
    exact .done rfl
  | some payment =>
    rw [h, Option.map_some] at hfind
    obtain ⟨payment', h', herase⟩ := Option.map_eq_some_iff.mp hfind.symm
    rw [h', CommissionPayment.eq_setToken herase.symm, Option.map_some, Option.map_some]
    dsimp only
    -- both runs take the same return path
    split_ifs
    · exact .done rfl
    · exact .done rfl
    · have hpolled : InStep (Option.map PaymentStatusResponse.eraseToken)
          (Async.tryCatch (pollProvider P payment userId) fun _ => pure none)
          (Async.tryCatch
            (pollProvider P' { payment with notifToken := payment'.notifToken } userId)
            fun _ => pure none) := by
        refine (inStep_pollProvider hP payment payment'.notifToken userId).tryCatch
          fun r r' hr => ?_
        rcases hr.cases with ⟨e, rfl, rfl⟩ | ⟨a, a', rfl, rfl, ha⟩
        · exact .done rfl
        · exact .done hr
      refine hpolled.bind fun r r' hr => ?_
      rcases hr.cases with ⟨e, rfl, rfl⟩ | ⟨a, a', rfl, rfl, ha⟩
      · exact .done rfl
      refine .done (congrArg Except.ok ?_)
      cases a with
      | none =>
        rw [Option.map_none] at ha
        rw [Option.map_eq_none_iff.mp ha.symm]
        rfl
      | some a =>
        rw [Option.map_some] at ha
        obtain ⟨b, rfl, hb⟩ := Option.map_eq_some_iff.mp ha.symm
        exact hb.symm

/-- A request runs in step with itself at the other server. -/
theorem inStep_program {env env' : Env} (hP : env.payment.AgreeUpToTokens env'.payment)
    (request : PaymentRequest) :
    InStep PaymentReply.eraseToken (request.program env) (request.program env') := by
  cases request with
  | pay userId amount phoneNumber =>
    refine (inStep_payCommission hP userId amount phoneNumber).bind fun r r' hr => ?_
    obtain rfl := eq_of_eqResult_id hr
    cases r <;> exact .done rfl
  | poll paymentId userId =>
    refine (inStep_checkPaymentStatus hP paymentId userId).bind fun r r' hr => ?_
    rcases hr.cases with ⟨e, rfl, rfl⟩ | ⟨a, a', rfl, rfl, ha⟩
    · exact .done rfl
    · exact .done (congrArg (fun a => Except.ok (PaymentReply.polled a)) ha)
  | wait ms =>
    refine .await ⟨rfl, fun _ _ => rfl, fun _ _ => rfl⟩ (fun s s' _ => .done rfl) fun e => .done rfl

end Related

/-! ### The token a poll reads -/

/-- The command looks a payment up. -/
def Cmd.findsPayment : Cmd → Bool
  | .findPayment => true
  | _ => false

/-- The token of the payment, if it is a payment of the user. -/
def Store.ownToken (s : Store) (paymentId userId : ℕ) : Option String :=
  (s.payments.find? paymentId).bind fun p =>
    if (s.drivers.find? p.driverId).map Driver.userId = some userId then p.notifToken else none

/-- The token of the user's payment, in the store in which thread `i` last looked a payment up. -/
def World.tokenRead (w : World Store Cmd) (i paymentId userId : ℕ) : Option String :=
  (w.lastRead i Cmd.findsPayment).bind fun s => s.ownToken paymentId userId

section TokenRead

variable {S : System Store Cmd Error PaymentReply} {w : World Store Cmd}
  {i j n paymentId userId : ℕ} {c : Cmd}

theorem tokenRead_step_findPayment :
    (w.step S i .findPayment n).tokenRead i paymentId userId =
      w.store.ownToken paymentId userId := by
  rw [World.tokenRead, World.lastRead_step_self rfl, Option.bind_some]

theorem tokenRead_step_of_not (h : j ≠ i ∨ c.findsPayment = false) :
    (w.step S j c n).tokenRead i paymentId userId = w.tokenRead i paymentId userId := by
  rw [World.tokenRead, World.lastRead_step_of_not h, World.tokenRead]

end TokenRead

/-- The result `r` of thread `i` answers the request; a poll's answer has the token the poll read, and
a poll without an answer read none. -/
inductive Answers (w : World Store Cmd) (i : ℕ) : PaymentRequest → Except Error PaymentReply → Prop
  | paid {userId amount phoneNumber response} :
      Answers w i (.pay userId amount phoneNumber) (.ok (.paid response))
  | notPaid {userId amount phoneNumber e} : Answers w i (.pay userId amount phoneNumber) (.error e)
  | polled {paymentId userId} {response : PaymentStatusResponse}
      (h : response.payment.notifToken = w.tokenRead i paymentId userId) :
      Answers w i (.poll paymentId userId) (.ok (.polled response))
  | notPolled {paymentId userId e} (h : w.tokenRead i paymentId userId = none) :
      Answers w i (.poll paymentId userId) (.error e)
  | waited {ms} : Answers w i (.wait ms) (.ok .waited)
  | notWaited {ms e} : Answers w i (.wait ms) (.error e)

theorem PaymentStatusResponse.eq_of_eraseToken_eq {r r' : PaymentStatusResponse}
    (h : r.eraseToken = r'.eraseToken) (htoken : r.payment.notifToken = r'.payment.notifToken) :
    r = r' := by
  obtain ⟨status, payment, userId⟩ := r
  obtain ⟨status', payment', userId'⟩ := r'
  simp only [PaymentStatusResponse.eraseToken, PaymentStatusResponse.mk.injEq] at h htoken ⊢
  obtain ⟨hstatus, hpayment, huser⟩ := h
  refine ⟨hstatus, ?_, huser⟩
  rw [CommissionPayment.eq_setToken hpayment, ← htoken]

/-- Two answers to one request that are equal up to the token are equal if the tokens are. -/
theorem Answers.eq_iff {w w' : World Store Cmd} {i : ℕ} {request : PaymentRequest}
    {r r' : Except Error PaymentReply} (h : EqResult PaymentReply.eraseToken r r')
    (hr : Answers w i request r) (hr' : Answers w' i request r') :
    r = r' ↔ ∀ paymentId userId, request = .poll paymentId userId →
      w.tokenRead i paymentId userId = w'.tokenRead i paymentId userId := by
  cases hr with
  | paid => cases hr' <;> simp_all [EqResult, Except.map, PaymentReply.eraseToken]
  | notPaid => cases hr' <;> simp_all [EqResult, Except.map]
  | polled hread =>
    cases hr' with
    | polled hread' =>
      constructor
      · intro heq paymentId userId h
        obtain ⟨rfl, rfl⟩ := PaymentRequest.poll.inj h
        obtain rfl := PaymentReply.polled.inj (Except.ok.inj heq)
        exact hread.symm.trans hread'
      · intro htoken
        have hnotif := hread.trans ((htoken _ _ rfl).trans hread'.symm)
        rw [PaymentStatusResponse.eq_of_eraseToken_eq (PaymentReply.polled.inj (Except.ok.inj h))
          hnotif]
    | notPolled hread' => cases h
  | notPolled hread =>
    cases hr' with
    | polled hread' => cases h
    | notPolled hread' =>
      refine iff_of_true (congrArg _ (Except.error.inj h)) fun paymentId userId h => ?_
      obtain ⟨rfl, rfl⟩ := PaymentRequest.poll.inj h
      exact hread.trans hread'.symm
  | waited => cases hr' <;> simp_all [EqResult, Except.map]
  | notWaited => cases hr' <;> simp_all [EqResult, Except.map]

namespace Disclosure

variable (env : Env) (requests : List PaymentRequest)

/-- The threads start no handlers. -/
def protocol : Protocol (system env PaymentReply.waited) where
  cond _ _ _ := True
  fault _ := True
  inv _ := True
  guar _ _ c := c.Quiet
  inv_step _ _ _ _ _ := trivial

/-- Thread `i` answers its request. -/
def post (i : ℕ) (r : Except Error PaymentReply) (w : World Store Cmd) : Prop :=
  ∃ request, requests[i]? = some request ∧ Answers w i request r

/-- The command starts no handlers and looks no payment up. -/
def Neutral (c : Cmd) : Prop := c.Quiet ∧ c.findsPayment = false

section Threads

variable {i paymentId userId : ℕ} {w : World Store Cmd}

theorem frame_tokenRead (i paymentId userId : ℕ) (token : Option String) :
    (protocol env).Frame i Neutral fun w => w.tokenRead i paymentId userId = token where
  stable := by
    rintro w _ ⟨j, c, n, hj, -, -, -, -, -, -, rfl⟩ hw
    rw [tokenRead_step_of_not (Or.inl hj)]
    exact hw
  performs := by
    intro c w hc hw _ _
    refine ⟨hc.1, fun n _ _ => ?_⟩
    exact (tokenRead_step_of_not (Or.inr hc.2)).trans hw

theorem stable_post (i : ℕ) (r : Except Error PaymentReply) :
    (protocol env).Stable i (post requests i r) := by
  rintro w _ ⟨j, c, n, hj, -, -, -, -, -, -, rfl⟩ ⟨request, hi, hanswers⟩
  refine ⟨request, hi, ?_⟩
  cases hanswers with
  | paid => exact .paid
  | notPaid => exact .notPaid
  | polled h => exact .polled (h.trans (tokenRead_step_of_not (Or.inl hj)).symm)
  | notPolled h => exact .notPolled ((tokenRead_step_of_not (Or.inl hj)).trans h)
  | waited => exact .waited
  | notWaited => exact .notWaited

theorem neutral_emit {event : DomainEvent} (h : ∀ env, eventHandlers env event = []) :
    Neutral (.emit event) := by
  refine ⟨fun env reply => ?_, rfl⟩
  rw [handlers, h, List.map_nil]

theorem only_applyPaymentSuccess (paymentId driverId : ℕ) (amount : ℚ) (transactionRef : String) :
    (applyPaymentSuccess paymentId driverId amount transactionRef).Only Neutral := by
  refine Async.only_queryE_bind.mpr ⟨⟨fun _ _ => rfl, rfl⟩, fun s => ?_⟩
  cases s.drivers.find? driverId with
  | none => trivial
  | some driver =>
    refine Async.only_emit_bind.mpr ⟨⟨fun _ _ => rfl, rfl⟩, fun _ => ?_⟩
    refine Async.only_emit_bind.mpr ⟨neutral_emit fun _ => rfl, fun _ => ?_⟩
    exact Async.only_emit.mpr (neutral_emit fun _ => rfl)

variable {requests}

theorem only_pollProvider (payment : CommissionPayment) (userId : ℕ) :
    (pollProvider env.payment payment userId).Only Neutral := by
  unfold pollProvider
  split
  · refine Async.Only.bind (Async.only_queryE.mpr ⟨fun _ _ => rfl, rfl⟩) fun result => ?_
    split_ifs
    · trivial
    all_goals
      refine Async.only_read_bind.mpr ⟨⟨fun _ _ => rfl, rfl⟩, fun s => ?_⟩
      refine Async.Only.bind (Async.only_queryE.mpr ⟨fun _ _ => rfl, rfl⟩) fun row => ?_
    · exact (only_applyPaymentSuccess _ _ _ _).bind fun _ => trivial
    · trivial
  · trivial

/-- The answer of the `try` block is the row as it was read, with another status. -/
theorem yields_pollProvider (payment : CommissionPayment) (userId : ℕ) :
    (pollProvider env.payment payment userId).Yields fun polled =>
      ∀ response, polled = some response → response.payment.notifToken = payment.notifToken := by
  have hrow : ∀ (status : CommissionPaymentStatus) (response : PaymentStatusResponse),
      some { status, payment := { payment with status }, userId } = some response →
        response.payment.notifToken = payment.notifToken := by
    intro status response h
    obtain rfl := Option.some.inj h
    rfl
  unfold pollProvider
  split
  · refine Async.Yields.bind _ fun result => ?_
    split_ifs
    · exact fun _ h => nomatch h
    all_goals
      refine Async.Yields.bind _ fun now => Async.Yields.bind _ fun row => ?_
    · exact Async.Yields.bind _ fun _ => hrow _
    · exact hrow _
  · exact fun _ h => nomatch h

theorem wp_checkPaymentStatus (hw : w.tokenRead i paymentId userId = none) :
    (protocol env).wp i (checkPaymentStatus env.payment paymentId userId)
      (fun r w => Answers w i (.poll paymentId userId) (r.map .polled)) w := by
  refine Protocol.wp_query_bind (frame_tokenRead env i paymentId userId none).stable hw
    (fun w hw _ _ => ?_) fun e w _ hw _ => .notPolled hw
  refine ⟨fun _ _ => rfl, fun n _ _ => ?_⟩
  have hread : (w.step (system env PaymentReply.waited) i .findPayment n).tokenRead i paymentId
      userId = w.store.ownToken paymentId userId := tokenRead_step_findPayment
  unfold Store.ownToken at hread
  cases hrow : w.store.payments.find? paymentId with
  | none =>
    rw [hrow, Option.bind_none] at hread
    exact .notPolled hread
  | some payment =>
    rw [hrow, Option.bind_some] at hread
    dsimp only [Option.map_some]
    split_ifs with howner hstatus
    · rw [if_neg howner] at hread
      exact .notPolled hread
    · rw [if_pos (not_not.mp howner)] at hread
      exact .polled hread.symm
    · -- the answer of the provider, or the row as it was read
      rw [if_pos (not_not.mp howner)] at hread
      apply Protocol.wp_bind
      apply Protocol.wp_tryCatch
      refine Protocol.wp_mono ?_ ((frame_tokenRead env i paymentId userId _).wp_yields
        (only_pollProvider env payment userId) (yields_pollProvider env payment userId) hread)
      rintro (e | polled) w ⟨hw, hpolled⟩
      · exact .polled hw.symm
      · cases polled with
        | none => exact .polled hw.symm
        | some response => exact .polled ((hpolled _ rfl response rfl).trans hw.symm)

theorem only_payCommission (userId : ℕ) (amount : ℚ) (phoneNumber : String) :
    (payCommission env.payment userId amount phoneNumber).Only Cmd.Quiet := by
  refine Async.only_query_bind.mpr ⟨fun _ _ => rfl, fun s => ?_⟩
  cases s.drivers.findFirst fun d => decide (d.userId = userId) with
  | none => trivial
  | some driver =>
    refine Async.only_query_bind.mpr ⟨fun _ _ => rfl, fun s => ?_⟩
    refine Async.Only.bind (Async.only_queryE.mpr fun _ _ => rfl) fun result => ?_
    refine Async.only_read_bind.mpr ⟨fun _ _ => rfl, fun s => ?_⟩
    refine Async.Only.bind (Async.only_queryE.mpr fun _ _ => rfl) fun updated => ?_
    split_ifs
    · exact ((only_applyPaymentSuccess _ _ _ _).mono fun _ hc => hc.1).bind fun _ => trivial
    · trivial

/-- A request's thread answers it. -/
theorem wp_request {request : PaymentRequest} (hi : requests[i]? = some request)
    (hw : ∀ paymentId userId, w.tokenRead i paymentId userId = none) :
    (protocol env).wp i (request.program env) (post requests i) w := by
  have hframe : (protocol env).Frame i Cmd.Quiet fun _ => True :=
    ⟨Protocol.stable_const i True, fun hc _ _ _ => ⟨hc, fun _ _ _ => trivial⟩⟩
  cases request with
  | pay userId amount phoneNumber =>
    exact hframe.wp_bind (only_payCommission env userId amount phoneNumber) trivial
      (fun response w _ => ⟨_, hi, .paid⟩) fun e w _ => ⟨_, hi, .notPaid⟩
  | poll paymentId userId =>
    apply Protocol.wp_bind
    refine Protocol.wp_mono ?_ (wp_checkPaymentStatus env (hw paymentId userId))
    rintro (e | response) w hanswers
    · exact ⟨_, hi, hanswers⟩
    · exact ⟨_, hi, hanswers⟩
  | wait ms =>
    exact hframe.wp_bind (Async.only_perform.mpr fun _ _ => rfl) trivial
      (fun _ w _ => ⟨_, hi, .waited⟩) fun e w _ => ⟨_, hi, .notWaited⟩

end Threads

/-- In every run, what a thread returns or throws answers its request. -/
theorem answers_of_run {s : Store} {q : Pool Store Cmd Error PaymentReply} {i : ℕ}
    {r : Except Error PaymentReply}
    (hq : Pool.Run (system env .waited) (fun _ _ _ => True) (fun _ => True)
      (Pool.init s (requests.map (·.program env))) q)
    (hr : q.results[i]? = some (some r)) :
    ∃ request, requests[i]? = some request ∧ Answers q.world i request r := by
  have hinit : (protocol env).Safe (post requests) (Pool.init s (requests.map (·.program env))) :=
    Protocol.safe_init trivial fun i t ht => by
      rw [List.getElem?_map] at ht
      obtain ⟨request, hi, rfl⟩ := Option.map_eq_some_iff.mp ht
      exact wp_request env hi fun _ _ => rfl
  have hhandlers : (protocol env).HandlersKeep (post requests) := by
    intro c k h hk j n w _ _ hguar _ _
    have hnone : (system env PaymentReply.waited).handlers c = [] := hguar env .waited
    rw [hnone] at hk
    exact absurd hk (by simp)
  have hsafe := hinit.run (stable_post env requests) hhandlers hq
  rw [Pool.results, List.getElem?_map] at hr
  obtain ⟨t, ht, hresult⟩ := Option.map_eq_some_iff.mp hr
  have hpost := hsafe.threads ht
  cases t with
  | done r => obtain rfl := Option.some.inj hresult; exact hpost
  | await c next reject => exact nomatch hresult
  | sync c next => exact nomatch hresult

end Disclosure

/-! ### Two runs -/

open Disclosure in
/-- Two runs of the same requests under the same schedule, at servers that differ only in the
tokens, answer alike exactly when every finished poll of a payment of the caller read the same token
in both. -/
theorem replies_eq_iff_tokenRead_eq {env env' : Env}
    (hP : env.payment.AgreeUpToTokens env'.payment) {s s' : Store} (hs : s.EqUpToTokens s')
    (requests : List PaymentRequest) (ms : List (Move Error))
    {q : Pool Store Cmd Error PaymentReply}
    (hq : (Pool.init s (requests.map (·.program env))).moves? (system env .waited) ms = some q) :
    ∃ q', (Pool.init s' (requests.map (·.program env'))).moves? (system env' .waited) ms = some q' ∧
      (q.results = q'.results ↔
        ∀ i paymentId userId, requests[i]? = some (.poll paymentId userId) →
          (∃ r, q.results[i]? = some (some r)) →
          q.world.tokenRead i paymentId userId = q'.world.tokenRead i paymentId userId) := by
  have hrel : (Pool.init s (requests.map (·.program env))).Related Store.EqUpToTokens
      Cmd.EqUpToToken (EqResult PaymentReply.eraseToken)
      (Pool.init s' (requests.map (·.program env'))) :=
    ⟨hs, List.forall₂_map_left_iff.mpr (List.forall₂_map_right_iff.mpr
      (List.forall₂_same.mpr fun request _ => inStep_program hP request)), rfl⟩
  have hmoves : ∃ q', (Pool.init s' (requests.map (·.program env'))).moves? (system env' .waited)
      ms = some q' ∧ q.Related Store.EqUpToTokens Cmd.EqUpToToken
        (EqResult PaymentReply.eraseToken) q' := by
    refine hrel.moves? (fun c c' t t' hc ht => ?_) (fun c c' hc => ?_) hq
    · rw [Store.EqUpToTokens, system_exec, Store.eraseTokens_exec, hc.1, ht]
      exact (Store.eraseTokens_exec c' t').symm
    · rw [system_handlers, system_handlers, hc.2.1, hc.2.2]
      exact .nil
  obtain ⟨q', hq', hrel'⟩ := hmoves
  have hrun := Pool.run_of_moves? hq
  have hrun' := Pool.run_of_moves? hq'
  have hanswers : ∀ {i r r'}, q.results[i]? = some (some r) → q'.results[i]? = some (some r') →
      EqResult PaymentReply.eraseToken r r' →
      ∃ request, requests[i]? = some request ∧ (r = r' ↔ ∀ paymentId userId,
        request = .poll paymentId userId →
          q.world.tokenRead i paymentId userId = q'.world.tokenRead i paymentId userId) := by
    intro i r r' hr hr' heq
    obtain ⟨request, hrequest, ha⟩ := answers_of_run env requests hrun hr
    obtain ⟨request', hrequest', ha'⟩ := answers_of_run env' requests hrun' hr'
    obtain rfl := Option.some.inj (hrequest.symm.trans hrequest')
    exact ⟨request, hrequest, ha.eq_iff heq ha'⟩
  refine ⟨q', hq', fun heq i paymentId userId hi ⟨r, hr⟩ => ?_, fun htokens => ?_⟩
  · obtain ⟨request, hrequest, hiff⟩ := hanswers hr (heq ▸ hr) rfl
    obtain rfl := Option.some.inj (hi.symm.trans hrequest)
    exact hiff.mp rfl paymentId userId rfl
  · refine Pool.eq_of_results hrel'.results fun i r r' hr hr' heq => ?_
    obtain ⟨request, hrequest, hiff⟩ := hanswers hr hr' heq
    exact hiff.mpr fun paymentId userId h => htokens i paymentId userId (h ▸ hrequest) ⟨r, hr⟩

namespace Disclosure

/-- Two payments of one driver; the second one's token is `token`. -/
def twoPayments (token : String) : Store :=
  { pendingStore with
    payments :=
      ⟨[{ id := 1, driverId := 1, amount := 5000, notifToken := some "secret"
          createdAt := 0, updatedAt := 0 },
        { id := 2, driverId := 1, amount := 5000, notifToken := some token
          createdAt := 0, updatedAt := 0 }], by simp⟩ }

theorem twoPayments_eqUpToTokens : (twoPayments "a").EqUpToTokens (twoPayments "b") := rfl

end Disclosure

open Disclosure in
/-- A poll of the payment with the common token is answered alike. -/
theorem replies_eq_of_poll_first :
    ∃ q q', (Pool.init (twoPayments "a") [(PaymentRequest.poll 1 10).program Env.offline]).moves?
        (system Env.offline .waited) [.act 0] = some q ∧
      (Pool.init (twoPayments "b") [(PaymentRequest.poll 1 10).program Env.offline]).moves?
        (system Env.offline .waited) [.act 0] = some q' ∧ q.results = q'.results := by
  have hsome : ((Pool.init (twoPayments "a")
      [(PaymentRequest.poll 1 10).program Env.offline]).moves?
        (system Env.offline .waited) [.act 0]).isSome := by decide +kernel
  obtain ⟨q, hq⟩ := Option.isSome_iff_exists.mp hsome
  obtain ⟨q', hq', hiff⟩ := replies_eq_iff_tokenRead_eq offline_agreeUpToTokens
    twoPayments_eqUpToTokens [.poll 1 10] [.act 0] hq
  refine ⟨q, q', hq, hq', hiff.mpr fun i paymentId userId hi _ => ?_⟩
  have hread : (((Pool.init (twoPayments "a")
      [(PaymentRequest.poll 1 10).program Env.offline]).moves?
        (system Env.offline .waited) [.act 0]).map fun q => q.world.tokenRead 0 1 10) =
          some (some "secret") := by decide +kernel
  have hread' : (((Pool.init (twoPayments "b")
      [(PaymentRequest.poll 1 10).program Env.offline]).moves?
        (system Env.offline .waited) [.act 0]).map fun q => q.world.tokenRead 0 1 10) =
          some (some "secret") := by decide +kernel
  match i, hi with
  | 0, rfl =>
    rw [hq, Option.map_some, Option.some_inj] at hread
    rw [show (Pool.init (twoPayments "b") [(PaymentRequest.poll 1 10).program Env.offline]).moves?
      (system Env.offline .waited) [.act 0] = some q' from hq', Option.map_some,
      Option.some_inj] at hread'
    exact hread.trans hread'.symm

open Disclosure in
/-- A poll of the other payment tells its token. -/
theorem poll_discloses_token :
    ∃ q q', (Pool.init (twoPayments "a") [(PaymentRequest.poll 2 10).program Env.offline]).moves?
        (system Env.offline .waited) [.act 0] = some q ∧
      (Pool.init (twoPayments "b") [(PaymentRequest.poll 2 10).program Env.offline]).moves?
        (system Env.offline .waited) [.act 0] = some q' ∧ q.results ≠ q'.results := by
  refine ⟨_, _, rfl, rfl, ?_⟩
  decide +kernel

end Telima
