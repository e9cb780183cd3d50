import Telima.Payments.Runs
import Telima.System
import Mathlib.Algebra.BigOperators.Group.Finset.Basic
import Mathlib.Tactic.Ring

/-!
# A commission payment is credited once

Any number of webhooks and status polls run concurrently.  A call that stores `succeeded` decrements
the driver's `commissionDue` later, in a step of its own.  The invariant `Credit.Inv` says which
thread confirmed which payment: no payment is confirmed by two threads, no thread confirms two
payments, and the balances differ from the initial ones by the amounts of the payments whose
confirming thread has also done its decrement.

The runs are restricted to those in which no status update executes on a payment that is already
`succeeded`; the code checks this on the row it read before.
-/

namespace Telima

/-- A request that can confirm a payment. -/
inductive ConfirmationCall where
  | webhook (payload : Record) (signature : Option String)
  | poll (paymentId userId : ℕ)

def ConfirmationCall.program (env : Env) : ConfirmationCall → Prog Unit
  | webhook payload signature =>
    (PaymentsService.handleWebhook env.payment env.prisma payload signature).as ()
  | poll paymentId userId => (PaymentsService.checkPaymentStatus env.payment paymentId userId).as ()

namespace Store

/-- The driver and the amount of a payment. -/
def paymentShape (s : Store) (paymentId : ℕ) : Option (ℕ × Decimal2) :=
  (s.payments.find? paymentId).map fun p => (p.driverId, p.amount)

/-- What crediting a payment takes off a driver's `commissionDue`. -/
def paymentShare (s : Store) (driverId paymentId : ℕ) : ℤ :=
  (s.payments.find? paymentId).elim 0 fun p => if p.driverId = driverId then p.amount else 0

/-- The foreign key of the payments. -/
def PaymentsHaveDrivers (s : Store) : Prop :=
  ∀ id driverId amount, s.paymentShape id = some (driverId, amount) →
    (s.drivers.find? driverId).isSome

end Store

/-- No status update executes on a payment that is already `succeeded`. -/
def UpdatesOpenPayment (_ : ℕ) (w : World Store Cmd) : Cmd → Prop
  | .updatePayment id _ => w.store.paymentStatus id ≠ some .succeeded
  | _ => True

instance (i : ℕ) (w : World Store Cmd) (c : Cmd) : Decidable (UpdatesOpenPayment i w c) := by
  cases c <;> unfold UpdatesOpenPayment <;> infer_instance

/-- The balances of `t` are those of `s` less the amounts of a set of payments, all of them
`succeeded` in `t` and not in `s`; once the calls are `settled`, of all such payments. -/
def CreditedOnce (s t : Store) (settled : Prop) : Prop :=
  ∃ credited : Finset ℕ,
    (∀ driverId, t.commissionDue driverId =
      (s.commissionDue driverId).map fun due =>
        due - ∑ id ∈ credited, s.paymentShare driverId id) ∧
    (∀ id ∈ credited, t.paymentStatus id = some .succeeded ∧
      s.paymentStatus id ≠ some .succeeded) ∧
    (settled → ∀ id, t.paymentStatus id = some .succeeded →
      s.paymentStatus id ≠ some .succeeded → id ∈ credited)

namespace Credit

/-- The command stores `succeeded` for the payment. -/
def Confirms (id : ℕ) (c : Cmd) : Prop := ∃ data, c = .updatePayment id data ∧ data.status = .succeeded

/-- The command decrements a driver's `commissionDue`. -/
def IsCredit (c : Cmd) : Prop := ∃ d a, c = .decrementCommissionDue d a

/-- The command is neither, and starts no handler. -/
def Neutral (env : Env) (c : Cmd) : Prop :=
  c.keepsPayments = true ∧ c.keepsDrivers = true ∧ handlers env () c = []

theorem Neutral.not_confirms {env : Env} {c : Cmd} (h : Neutral env c) (id : ℕ) :
    ¬ Confirms id c := by
  rintro ⟨data, rfl, -⟩
  simp [Neutral, Cmd.keepsPayments] at h

theorem Neutral.not_isCredit {env : Env} {c : Cmd} (h : Neutral env c) : ¬ IsCredit c := by
  rintro ⟨d, a, rfl⟩
  simp [Neutral, Cmd.keepsDrivers] at h

/-- Thread `i` has confirmed the payment. -/
def Confirmed (w : World Store Cmd) (i id : ℕ) : Prop := w.Did i (Confirms id)

/-- Thread `i` has done its decrement. -/
def Credited (w : World Store Cmd) (i : ℕ) : Prop := w.Did i IsCredit

variable (s : Store)

structure Inv (w : World Store Cmd) : Prop where
  shape : ∀ id, w.store.paymentShape id = s.paymentShape id
  confirmed : ∀ {i id}, Confirmed w i id →
    w.store.paymentStatus id = some .succeeded ∧ s.paymentStatus id ≠ some .succeeded
  confirmer : ∀ {id}, w.store.paymentStatus id = some .succeeded →
    s.paymentStatus id ≠ some .succeeded → ∃ i, Confirmed w i id
  kept : ∀ {id}, s.paymentStatus id = some .succeeded →
    w.store.paymentStatus id = some .succeeded
  unique : ∀ {i j id}, Confirmed w i id → Confirmed w j id → i = j
  single : ∀ {i id id'}, Confirmed w i id → Confirmed w i id' → id = id'
  creditor : ∀ {i}, Credited w i → ∃ id, Confirmed w i id
  ledger : ∃ credited : Finset ℕ,
    (∀ id, id ∈ credited ↔ ∃ i, Confirmed w i id ∧ Credited w i) ∧
    ∀ d, w.store.commissionDue d =
      (s.commissionDue d).map fun due => due - ∑ id ∈ credited, s.paymentShare d id

/-- What a thread does to the payments and the balances. -/
inductive Guar (env : Env) (i : ℕ) (w : World Store Cmd) : Cmd → Prop
  | neutral {c : Cmd} (h : Neutral env c) : Guar env i w c
  | update {id : ℕ} {data : PaymentData} (href : data.references = none)
      (hrow : w.store.paymentStatus id ≠ none)
      (hfirst : data.status = .succeeded → ∀ id', ¬ Confirmed w i id') :
      Guar env i w (.updatePayment id data)
  | credit {id driverId : ℕ} {amount : Decimal2} (hconf : Confirmed w i id)
      (hshape : s.paymentShape id = some (driverId, amount)) (hfirst : ¬ Credited w i) :
      Guar env i w (.decrementCommissionDue driverId amount.toNumber)

end Credit

namespace Store

theorem paymentShape_updatePayment {s : Store} {id : ℕ} {data : PaymentData} (id' : ℕ) :
    ((Cmd.updatePayment id data).exec s).paymentShape id' = s.paymentShape id' := by
  simp only [paymentShape, Cmd.exec]
  split_ifs
  · rfl
  · rw [Table.find?_update]
    split_ifs
    · simp [Option.map_map, Function.comp_def, PaymentData.apply]
    · rfl

end Store

namespace Credit

variable {env : Env} {s : Store} {w : World Store Cmd} {i n : ℕ}

theorem confirmed_step_of_not {j : ℕ} {c : Cmd} (h : ∀ id, ¬ Confirms id c) {id : ℕ} :
    Confirmed (w.step (system env ()) j c n) i id ↔ Confirmed w i id :=
  World.did_step_of_not (h id)

theorem credited_step_of_not {j : ℕ} {c : Cmd} (h : ¬ IsCredit c) :
    Credited (w.step (system env ()) j c n) i ↔ Credited w i :=
  World.did_step_of_not h

theorem Inv.neutral {c : Cmd} (hw : Inv s w) (hc : Neutral env c) :
    Inv s (w.step (system env ()) i c n) := by
  have hpay : (c.exec w.store).payments = w.store.payments := Cmd.exec_payments hc.1
  have hdrv : (c.exec w.store).drivers = w.store.drivers := Cmd.exec_drivers hc.2.1
  have hstatus : ∀ id, (c.exec w.store).paymentStatus id = w.store.paymentStatus id := fun id => by
    rw [Store.paymentStatus, hpay, Store.paymentStatus]
  have hconf : ∀ {j id}, Confirmed (w.step (system env ()) i c n) j id ↔ Confirmed w j id :=
    confirmed_step_of_not hc.not_confirms
  have hcred : ∀ {j}, Credited (w.step (system env ()) i c n) j ↔ Credited w j :=
    credited_step_of_not hc.not_isCredit
  obtain ⟨credited, hmem, hdue⟩ := hw.ledger
  refine ⟨fun id => ?_, fun h => ?_, fun h hs => ?_, fun h => ?_, fun h h' => ?_, fun h h' => ?_,
    fun h => ?_, credited, fun id => ?_, fun d => ?_⟩
  · rw [World.store_step, system_exec, Store.paymentShape, hpay]
    exact hw.shape id
  · rw [World.store_step, system_exec, hstatus]
    exact hw.confirmed (hconf.mp h)
  · rw [World.store_step, system_exec, hstatus] at h
    obtain ⟨j, hj⟩ := hw.confirmer h hs
    exact ⟨j, hconf.mpr hj⟩
  · rw [World.store_step, system_exec, hstatus]
    exact hw.kept h
  · exact hw.unique (hconf.mp h) (hconf.mp h')
  · exact hw.single (hconf.mp h) (hconf.mp h')
  · obtain ⟨id, hid⟩ := hw.creditor (hcred.mp h)
    exact ⟨id, hconf.mpr hid⟩
  · simp only [hmem, hconf, hcred]
  · rw [World.store_step, system_exec, Store.commissionDue, hdrv]
    exact hdue d

/-- A status update of a payment that is not `succeeded`. -/
theorem Inv.update {id : ℕ} {data : PaymentData} (hw : Inv s w)
    (hopen : w.store.paymentStatus id ≠ some .succeeded) (href : data.references = none)
    (hrow : w.store.paymentStatus id ≠ none)
    (hfirst : data.status = .succeeded → ∀ id', ¬ Confirmed w i id') :
    Inv s (w.step (system env ()) i (.updatePayment id data) n) := by
  have hnot : ∀ j, ¬ Confirmed w j id := fun j hj => hopen (hw.confirmed hj).1
  have hstart : s.paymentStatus id ≠ some .succeeded := fun h => hopen (hw.kept h)
  have hconf : ∀ {j id'}, Confirmed (w.step (system env ()) i (.updatePayment id data) n) j id' ↔
      (i = j ∧ id = id' ∧ data.status = .succeeded) ∨ Confirmed w j id' := by
    intro j id'
    rw [Confirmed, World.did_step]
    simp only [Confirms, Cmd.updatePayment.injEq, Confirmed]
    constructor
    · rintro (⟨rfl, data', ⟨rfl, rfl⟩, hs⟩ | h)
      · exact Or.inl ⟨rfl, rfl, hs⟩
      · exact Or.inr h
    · rintro (⟨rfl, rfl, hs⟩ | h)
      · exact Or.inl ⟨rfl, data, ⟨rfl, rfl⟩, hs⟩
      · exact Or.inr h
  have hcred : ∀ {j}, Credited (w.step (system env ()) i (.updatePayment id data) n) j ↔
      Credited w j := credited_step_of_not (by rintro ⟨d, a, h⟩; cases h)
  have hstatus : ∀ id', ((Cmd.updatePayment id data).exec w.store).paymentStatus id' =
      if id' = id then some data.status else w.store.paymentStatus id' := fun id' => by
    rw [Store.paymentStatus_updatePayment href]
    split_ifs with h
    · subst h
      obtain ⟨st, hst⟩ := Option.ne_none_iff_exists'.mp hrow
      rw [hst, Option.map_some]
    · rfl
  obtain ⟨credited, hmem, hdue⟩ := hw.ledger
  refine ⟨fun id' => ?_, fun {j id'} h => ?_, fun {id'} h hs => ?_, fun {id'} h => ?_,
    fun {j k id'} h h' => ?_, fun {j id' id''} h h' => ?_, fun {j} h => ?_, credited,
    fun id' => ?_, fun d => ?_⟩
  · rw [World.store_step, system_exec, Store.paymentShape_updatePayment]
    exact hw.shape id'
  · rw [World.store_step, system_exec, hstatus]
    rcases hconf.mp h with ⟨-, rfl, hs⟩ | hj
    · rw [if_pos rfl, hs]
      exact ⟨rfl, hstart⟩
    · rw [if_neg fun hid : id' = id => hnot j (hid ▸ hj)]
      exact hw.confirmed hj
  · rw [World.store_step, system_exec, hstatus] at h
    split_ifs at h with hid
    · exact ⟨i, hconf.mpr (Or.inl ⟨rfl, hid.symm, by simpa using h⟩)⟩
    · obtain ⟨j, hj⟩ := hw.confirmer h hs
      exact ⟨j, hconf.mpr (Or.inr hj)⟩
  · rw [World.store_step, system_exec, hstatus, if_neg]
    · exact hw.kept h
    · rintro rfl
      exact hstart h
  · rcases hconf.mp h with ⟨rfl, rfl, hs⟩ | hj <;> rcases hconf.mp h' with ⟨rfl, hid, hs'⟩ | hk
    · rfl
    · exact absurd hk (hnot k)
    · exact absurd (hid ▸ hj) (hnot j)
    · exact hw.unique hj hk
  · rcases hconf.mp h with ⟨rfl, rfl, hs⟩ | hj <;> rcases hconf.mp h' with ⟨hi, hid, hs'⟩ | hk
    · exact hid
    · exact absurd hk (hfirst hs id'')
    · exact absurd (hi ▸ hj) (hfirst hs' id')
    · exact hw.single hj hk
  · obtain ⟨id', hid'⟩ := hw.creditor (hcred.mp h)
    exact ⟨id', hconf.mpr (Or.inr hid')⟩
  · rw [hmem]
    constructor
    · rintro ⟨j, hj, hc⟩
      exact ⟨j, hconf.mpr (Or.inr hj), hcred.mpr hc⟩
    · rintro ⟨j, hj, hc⟩
      rcases hconf.mp hj with ⟨rfl, rfl, hs⟩ | hj
      · obtain ⟨id'', hid''⟩ := hw.creditor (hcred.mp hc)
        exact absurd hid'' (hfirst hs id'')
      · exact ⟨j, hj, hcred.mp hc⟩
  · rw [World.store_step, system_exec]
    exact hdue d

/-- The decrement of a thread that confirmed a payment and has not done its decrement. -/
theorem Inv.credit {id driverId : ℕ} {amount : Decimal2} (hw : Inv s w)
    (hid : Confirmed w i id) (hshape : s.paymentShape id = some (driverId, amount))
    (hfirst : ¬ Credited w i) :
    Inv s (w.step (system env ()) i (.decrementCommissionDue driverId amount.toNumber) n) := by
  set c := Cmd.decrementCommissionDue driverId amount.toNumber with hc
  have hconf : ∀ {j id'}, Confirmed (w.step (system env ()) i c n) j id' ↔ Confirmed w j id' :=
    confirmed_step_of_not (by rintro id' ⟨data, h, -⟩; simp [hc] at h)
  have hcred : ∀ {j}, Credited (w.step (system env ()) i c n) j ↔ i = j ∨ Credited w j := by
    intro j
    have hcredit : IsCredit c := ⟨_, _, rfl⟩
    rw [Credited, World.did_step]
    simp [hcredit, Credited]
  have hpay : (c.exec w.store).payments = w.store.payments := Cmd.exec_payments rfl
  have hstatus : ∀ id', (c.exec w.store).paymentStatus id' = w.store.paymentStatus id' :=
    fun id' => by rw [Store.paymentStatus, hpay, Store.paymentStatus]
  obtain ⟨credited, hmem, hdue⟩ := hw.ledger
  have hnew : id ∉ credited := fun h => by
    obtain ⟨j, hj, hcj⟩ := (hmem id).mp h
    exact hfirst (hw.unique hid hj ▸ hcj)
  refine ⟨fun id' => ?_, fun h => ?_, fun h hs => ?_, fun h => ?_, fun h h' => ?_, fun h h' => ?_,
    fun {j} h => ?_, insert id credited, fun id' => ?_, fun d => ?_⟩
  · rw [World.store_step, system_exec, Store.paymentShape, hpay]
    exact hw.shape id'
  · rw [World.store_step, system_exec, hstatus]
    exact hw.confirmed (hconf.mp h)
  · rw [World.store_step, system_exec, hstatus] at h
    obtain ⟨j, hj⟩ := hw.confirmer h hs
    exact ⟨j, hconf.mpr hj⟩
  · rw [World.store_step, system_exec, hstatus]
    exact hw.kept h
  · exact hw.unique (hconf.mp h) (hconf.mp h')
  · exact hw.single (hconf.mp h) (hconf.mp h')
  · rcases hcred.mp h with rfl | h
    · exact ⟨id, hconf.mpr hid⟩
    · obtain ⟨id', hid'⟩ := hw.creditor h
      exact ⟨id', hconf.mpr hid'⟩
  · rw [Finset.mem_insert, hmem]
    simp only [hconf, hcred]
    constructor
    · rintro (rfl | ⟨j, hj, hcj⟩)
      · exact ⟨i, hid, Or.inl rfl⟩
      · exact ⟨j, hj, Or.inr hcj⟩
    · rintro ⟨j, hj, rfl | hcj⟩
      · exact Or.inl (hw.single hj hid)
      · exact Or.inr ⟨j, hj, hcj⟩
  · have hshare : s.paymentShare d id = if driverId = d then amount else 0 := by
      simp only [Store.paymentShape, Option.map_eq_some_iff, Prod.mk.injEq] at hshape
      obtain ⟨p, hp, rfl, rfl⟩ := hshape
      simp [Store.paymentShare, hp]
    rw [World.store_step, system_exec, hc, Store.commissionDue_decrement, hdue,
      Finset.sum_insert hnew, hshare]
    split_ifs with hd hd' hd'
    · simp only [Option.map_map, Function.comp_def, Decimal2.decrement_toNumber]
      congr 1
      funext due
      ring
    · exact absurd hd.symm hd'
    · exact absurd hd'.symm hd
    · rw [zero_add]

/-- The protocol of the confirming calls. -/
def protocol (env : Env) (s : Store) (fault : Error → Prop) : Protocol (system env ()) where
  cond := UpdatesOpenPayment
  fault := fault
  inv := Inv s
  guar := Guar s env
  inv_step := by
    intro w i c n hw hcond hguar _ _
    cases hguar with
    | neutral h => exact hw.neutral h
    | update href hrow hfirst => exact hw.update hcond href hrow hfirst
    | credit hconf hshape hfirst => exact hw.credit hconf hshape hfirst

theorem inv_init (s : Store) : Inv s ⟨s, []⟩ where
  shape _ := rfl
  confirmed h := by simp [Confirmed, World.Did] at h
  confirmer h hs := absurd h hs
  kept h := h
  unique h := by simp [Confirmed, World.Did] at h
  single h := by simp [Confirmed, World.Did] at h
  creditor h := by simp [Credited, World.Did] at h
  ledger := ⟨∅, by simp [Confirmed, World.Did], by simp⟩

/-! ### The calls keep the protocol -/

/-- Thread `i` has confirmed nothing. -/
def Idle (i : ℕ) (w : World Store Cmd) : Prop := ∀ id, ¬ Confirmed w i id

/-- Unless something failed, thread `i` has credited what it confirmed. -/
def Settled (fault : Error → Prop) (i : ℕ) (w : World Store Cmd) : Prop :=
  (∀ e, ¬ fault e) → ∀ id, Confirmed w i id → Credited w i

/-- The payment is a row of the table, with the driver and the amount it has. -/
def Known (s : Store) (payment : CommissionPayment) : Prop :=
  s.paymentShape payment.id = some (payment.driverId, payment.amount)

variable {fault : Error → Prop}

theorem Idle.settled (h : Idle i w) : Settled fault i w := fun _ id hid => absurd hid (h id)

theorem settled_of_credited (h : Credited w i ∨ ∃ e, fault e) : Settled fault i w := by
  rintro hfault id -
  rcases h with h | ⟨e, he⟩
  · exact h
  · exact absurd he (hfault e)

theorem stable_idle : (protocol env s fault).Stable i (Idle i) :=
  fun _ _ hother h id => Protocol.stable_not_did i (Confirms id) hother (h id)

theorem stable_settled : (protocol env s fault).Stable i (Settled fault i) := by
  rintro w _ ⟨j, c, n, hj, -, -, -, -, -, -, rfl⟩ h hfault id hid
  have hcred := h hfault id ((World.did_step_of_ne hj).mp hid)
  exact (World.did_step_of_ne hj).mpr hcred

/-- Thread `i` has confirmed the payment and not done its decrement. -/
def Owes (i id : ℕ) (w : World Store Cmd) : Prop := Confirmed w i id ∧ ¬ Credited w i

theorem stable_owes (id : ℕ) : (protocol env s fault).Stable i (Owes i id) :=
  (Protocol.stable_did i _).and (Protocol.stable_not_did i _)

theorem performs_neutral {A : World Store Cmd → Prop} {c : Cmd} (hc : Neutral env c)
    (hA : ∀ n, A (w.step (system env ()) i c n)) :
    (protocol env s fault).Performs i c w A :=
  fun _ => ⟨.neutral hc, fun n _ _ => hA n⟩

theorem frame_idle : (protocol env s fault).Frame i (Neutral env) (Idle i) where
  stable := stable_idle
  performs hc hw _ := performs_neutral hc fun _ id =>
    (confirmed_step_of_not hc.not_confirms).not.mpr (hw id)

theorem frame_credited : (protocol env s fault).Frame i (Neutral env) fun w => Credited w i where
  stable := Protocol.stable_did i _
  performs hc hw _ := performs_neutral hc fun _ =>
    (credited_step_of_not hc.not_isCredit).mpr hw

/-- A row that is found is known. -/
theorem Inv.known (hw : Inv s w) {p : CommissionPayment → Bool} {payment : CommissionPayment}
    (h : w.store.payments.findFirst p = some payment) : Known s payment := by
  rw [Known, ← hw.shape, Store.paymentShape, (Table.find?_of_findFirst h).1, Option.map_some]

theorem wp_findPayment (p : CommissionPayment → Bool) (hw : Idle i w) :
    (protocol env s fault).wp i (PaymentsService.findPayment p)
      (fun r w => Idle i w ∧ ∀ payment, r = .ok (some payment) → Known s payment) w := by
  refine Protocol.wp_query stable_idle hw (fun w hw hinv => ?_) (fun e w _ hw _ => ?_)
  · refine performs_neutral ⟨rfl, rfl, rfl⟩ fun n => ⟨?_, fun payment hpayment => ?_⟩
    · exact fun id => (confirmed_step_of_not (by rintro id ⟨_, h, -⟩; cases h)).not.mpr (hw id)
    · exact Inv.known hinv (Except.ok.inj hpayment)
  · exact ⟨hw, fun _ h => by cases h⟩

/-- What a status update leaves: the thread owes the decrement if it stored `succeeded`. -/
theorem wp_updatePayment {id : ℕ} {data : PaymentData} (href : data.references = none)
    (hknown : s.paymentShape id ≠ none) (hw : Idle i w) :
    (protocol env s fault).wp i (PaymentsService.updatePayment id data)
      (fun r w => match r with
        | .ok _ => if data.status = .succeeded then Owes i id w else Idle i w
        | .error _ => Idle i w) w := by
  refine Protocol.wp_queryE stable_idle hw (fun w hw hinv _ => ⟨?_, fun n _ _ => ?_⟩)
    (fun e w _ hw _ => hw)
  · refine .update href (fun hnone => hknown ?_) fun _ id' => hw id'
    rw [← hinv.shape, Store.paymentShape, Option.map_eq_none_iff]
    exact Option.map_eq_none_iff.mp hnone
  · have hrow : ∃ payment, w.store.payments.find? id = some payment := by
      rw [← Option.ne_none_iff_exists']
      intro hnone
      apply hknown
      rw [← hinv.shape, Store.paymentShape, hnone, Option.map_none]
    obtain ⟨payment, hpayment⟩ := hrow
    have hconf : data.conflicts w.store id = false := by simp [PaymentData.conflicts, href]
    have hcredit : ¬ IsCredit (.updatePayment id data) := by rintro ⟨d, a, h⟩; cases h
    have hdid : ∀ id', Confirmed (w.step (system env ()) i (.updatePayment id data) n) i id' ↔
        Confirms id' (.updatePayment id data) := fun id' => by
      simp only [Confirmed, World.did_step, true_and, or_iff_left_iff_imp]
      exact fun h => absurd h (hw id')
    simp only [hconf, hpayment, Option.map_some, orNotFound, Option.elim_some, Bool.false_eq_true,
      if_false]
    split_ifs with hs
    · refine ⟨(hdid id).mpr ⟨data, rfl, hs⟩, ?_⟩
      rw [credited_step_of_not hcredit]
      exact fun hc => (hinv.creditor hc).elim hw
    · intro id'
      rw [hdid]
      rintro ⟨data', h, hs'⟩
      cases h
      exact hs hs'

theorem wp_applyPaymentSuccess {id driverId : ℕ} {amount : Decimal2}
    (hdrivers : s.PaymentsHaveDrivers)
    (hshape : s.paymentShape id = some (driverId, amount)) (ref : String) (hw : Owes i id w) :
    (protocol env s fault).wp i
      (PaymentsService.applyPaymentSuccess id driverId amount.toNumber ref)
      (fun _ w => Credited w i ∨ ∃ e, fault e) w := by
  refine Protocol.wp_queryE_bind (stable_owes id) hw (fun w hw hinv _ => ⟨?_, fun n _ _ => ?_⟩)
    (fun e w he _ _ => Or.inr ⟨e, he⟩)
  · exact .credit hw.1 hshape hw.2
  · have hdrv : ∃ d, w.store.drivers.find? driverId = some d := by
      obtain ⟨credited, -, hdue⟩ := hinv.ledger
      obtain ⟨d, hd⟩ := Option.isSome_iff_exists.mp (hdrivers id driverId amount hshape)
      have h := hdue driverId
      rw [Store.commissionDue, Store.commissionDue, hd] at h
      obtain ⟨d', hd', -⟩ := Option.map_eq_some_iff.mp h
      exact ⟨d', hd'⟩
    obtain ⟨d, hd⟩ := hdrv
    have hcredited : Credited (w.step (system env ()) i
        (.decrementCommissionDue driverId amount.toNumber) n) i :=
      World.did_step.mpr (Or.inl ⟨rfl, _, _, rfl⟩)
    simp only [hd, Option.map_some, orNotFound, Option.elim_some, Async.done_ok_bind]
    refine Protocol.wp_mono (fun _ _ h => Or.inl h) (frame_credited.wp ?_ hcredited)
    simp only [Async.bind_eq, Async.only_emit_bind, Async.only_emit]
    simp [Neutral, Cmd.keepsPayments, Cmd.keepsDrivers, handlers, eventHandlers]

theorem newDate_only : newDate.Only (Neutral env) := Async.only_read.mpr ⟨rfl, rfl, rfl⟩

/-- A status update and, if it stored `succeeded`, the decrement after it. -/
theorem wp_update_then_apply {α : Type} {payment : CommissionPayment} (data : PaymentData)
    (hdrivers : s.PaymentsHaveDrivers) (href : data.references = none) (hknown : Known s payment)
    (ref : String) (a : α) (hw : Idle i w) :
    (protocol env s fault).wp i
      ((PaymentsService.updatePayment payment.id data).bind fun _ =>
        if data.status = .succeeded then
          (PaymentsService.applyPaymentSuccess payment.id payment.driverId
            payment.amount.toNumber ref).bind fun _ => .done (.ok a)
        else .done (.ok a))
      (fun _ => Settled fault i) w := by
  have hshape : s.paymentShape payment.id ≠ none := by rw [hknown]; exact Option.some_ne_none _
  refine Protocol.wp_bind (Protocol.wp_mono ?_ (wp_updatePayment href hshape hw))
  rintro (e | updated) w hw
  · exact hw.settled
  · simp only [Async.done_ok_bind]
    split_ifs at hw ⊢ with hs
    · refine Protocol.wp_bind (Protocol.wp_mono ?_ (wp_applyPaymentSuccess hdrivers hknown ref hw))
      rintro (e | u) w hw
      · exact settled_of_credited hw
      · exact settled_of_credited hw
    · exact Idle.settled hw

theorem wp_confirmPayment {prisma : PrismaClient} {verification : WebhookVerification}
    {payment : CommissionPayment} (hdrivers : s.PaymentsHaveDrivers) (hknown : Known s payment)
    (hw : Idle i w) :
    (protocol env s fault).wp i
      (PaymentsService.confirmPayment prisma verification payment) (fun _ => Settled fault i) w := by
  unfold PaymentsService.confirmPayment
  split_ifs
  · exact hw.settled
  · dsimp only
    split
    · exact hw.settled
    · refine frame_idle.wp_bind newDate_only hw (fun now w hw => ?_) fun _ w hw => hw.settled
      exact wp_update_then_apply { status := _, txnid := _, paidAt := _ } hdrivers rfl
        hknown _ _ hw

/-- What a lookup of a payment leaves. -/
def Looked (s : Store) (i : ℕ) (r : Except Error (Option CommissionPayment))
    (w : World Store Cmd) : Prop :=
  Idle i w ∧ ∀ payment, r = .ok (some payment) → Known s payment

theorem wp_findByNotifToken (prisma : PrismaClient) (token : Option Json) (hw : Idle i w) :
    (protocol env s fault).wp i (PaymentsService.findByNotifToken prisma token)
      (Looked s i) w := by
  unfold PaymentsService.findByNotifToken
  split
  · exact ⟨hw, fun _ h => by simp at h⟩
  · split
    · exact ⟨hw, fun _ h => by simp at h⟩
    · exact wp_findPayment _ hw

theorem wp_findByTransactionRef (ref : Option String) {found : Option CommissionPayment}
    (hw : Looked s i (.ok found) w) :
    (protocol env s fault).wp i (PaymentsService.findByTransactionRef ref found)
      (Looked s i) w := by
  unfold PaymentsService.findByTransactionRef
  split
  · exact hw
  · split
    · exact hw
    · exact wp_findPayment _ hw.1

theorem wp_findByOrderId (order : Option String) {found : Option CommissionPayment}
    (hw : Looked s i (.ok found) w) :
    (protocol env s fault).wp i (PaymentsService.findByOrderId order found) (Looked s i) w := by
  unfold PaymentsService.findByOrderId
  split
  · exact hw
  · split
    · exact hw
    · exact wp_findPayment _ hw.1

theorem wp_handleWebhook (hdrivers : s.PaymentsHaveDrivers) (provider : PaymentProvider)
    (prisma : PrismaClient) (payload : Record) (signature : Option String) (hw : Idle i w) :
    (protocol env s fault).wp i (PaymentsService.handleWebhook provider prisma payload signature)
      (fun _ => Settled fault i) w := by
  unfold PaymentsService.handleWebhook
  split
  · exact hw.settled
  · split_ifs
    · rename_i verification _ _
      refine Protocol.wp_bind (Protocol.wp_mono ?_ (wp_findByNotifToken _ _ hw))
      rintro (e | found) w hw
      · exact hw.1.settled
      rw [Async.done_ok_bind]
      refine Protocol.wp_bind (Protocol.wp_mono ?_ (wp_findByTransactionRef _ hw))
      rintro (e | found) w hw
      · exact hw.1.settled
      rw [Async.done_ok_bind]
      refine Protocol.wp_bind (Protocol.wp_mono ?_ (wp_findByOrderId _ hw))
      rintro (e | _ | payment) w hw
      · exact hw.1.settled
      · rw [Async.done_ok_bind]
        dsimp only
        split
        · exact hw.1.settled
        · exact hw.1.settled
      · exact wp_confirmPayment hdrivers (hw.2 payment rfl) hw.1
    · exact hw.settled

theorem wp_pollProvider (hdrivers : s.PaymentsHaveDrivers) (provider : PaymentProvider)
    {payment : CommissionPayment} (hknown : Known s payment) (userId : ℕ) (hw : Idle i w) :
    (protocol env s fault).wp i (PaymentsService.pollProvider provider payment userId)
      (fun _ => Settled fault i) w := by
  unfold PaymentsService.pollProvider
  split
  · refine frame_idle.wp_bind (Async.only_queryE.mpr ⟨rfl, rfl, rfl⟩) hw (fun result w hw => ?_)
      fun _ w hw => hw.settled
    dsimp only
    split
    · exact hw.settled
    · refine frame_idle.wp_bind newDate_only hw (fun now w hw => ?_) fun _ w hw => hw.settled
      exact wp_update_then_apply { status := _, txnid := _, paidAt := _ } hdrivers rfl
        hknown _ _ hw
  · exact hw.settled

theorem wp_checkPaymentStatus (hdrivers : s.PaymentsHaveDrivers) (provider : PaymentProvider)
    (paymentId userId : ℕ) (hw : Idle i w) :
    (protocol env s fault).wp i (PaymentsService.checkPaymentStatus provider paymentId userId)
      (fun _ => Settled fault i) w := by
  unfold PaymentsService.checkPaymentStatus PaymentsService.findPaymentWithOwner
  refine Protocol.wp_query_bind stable_idle hw (fun w hw hinv => ?_) fun e w _ hw _ => hw.settled
  refine performs_neutral ⟨rfl, rfl, rfl⟩ fun n => ?_
  have hidle : Idle i (w.step (system env ()) i .findPayment n) := fun id =>
    (confirmed_step_of_not (by rintro id ⟨_, h, -⟩; cases h)).not.mpr (hw id)
  cases hrow : w.store.payments.find? paymentId with
  | none => exact hidle.settled
  | some payment =>
    have hknown : Known s payment := by
      rw [Known, ← hinv.shape, Store.paymentShape, Table.key_of_find? hrow, hrow, Option.map_some]
    simp only [Option.map_some]
    split_ifs
    · exact hidle.settled
    · exact hidle.settled
    · refine Protocol.wp_bind (Protocol.wp_tryCatch (Protocol.wp_mono ?_
        (wp_pollProvider hdrivers provider hknown userId hidle)))
      rintro (e | polled) w hw
      · exact hw
      · exact hw

/-- A call and nothing more. -/
theorem wp_program (hdrivers : s.PaymentsHaveDrivers) (call : ConfirmationCall) (hw : Idle i w) :
    (protocol env s fault).wp i (call.program env) (fun _ => Settled fault i) w := by
  cases call with
  | webhook payload signature =>
    refine Protocol.wp_bind (Protocol.wp_mono ?_
      (wp_handleWebhook hdrivers env.payment env.prisma payload signature hw))
    rintro (e | r) w hw <;> exact hw
  | poll paymentId userId =>
    refine Protocol.wp_bind (Protocol.wp_mono ?_
      (wp_checkPaymentStatus hdrivers env.payment paymentId userId hw))
    rintro (e | r) w hw <;> exact hw

/-- The calls start no handlers. -/
theorem handlersKeep (post : ℕ → Except Error Unit → World Store Cmd → Prop) :
    (protocol env s fault).HandlersKeep post := by
  intro c k h hh j n w _ _ hguar _ _
  cases hguar with
  | neutral hc => rw [system_handlers, hc.2.2] at hh; simp at hh
  | update href hrow hfirst => simp [handlers] at hh
  | credit hconf hshape hfirst => simp [handlers] at hh

theorem safe_init (env : Env) (fault : Error → Prop) (hdrivers : s.PaymentsHaveDrivers)
    (calls : List ConfirmationCall) :
    (protocol env s fault).Safe (fun i _ => Settled fault i)
      (Pool.init s (calls.map (·.program env))) := by
  refine Protocol.safe_init (inv_init s) fun i t ht => ?_
  obtain ⟨call, -, rfl⟩ := List.mem_map.mp (List.mem_of_getElem? ht)
  exact wp_program hdrivers call fun id h => by simp [Confirmed, World.Did] at h

end Credit

open Credit in
/-- Whatever the calls, their schedule and the failures among them, every payment is credited at
most once, and exactly once if it ends `succeeded` and nothing failed; and a payment that is
`succeeded` stays so. -/
theorem commissionPayment_credited_once (env : Env) (s : Store)
    (hdrivers : s.PaymentsHaveDrivers) (calls : List ConfirmationCall) (fault : Error → Prop)
    {p q : Pool Store Cmd Error Unit}
    (hp : Pool.Run (system env ()) UpdatesOpenPayment fault
      (Pool.init s (calls.map (·.program env))) p)
    (hq : Pool.Run (system env ()) UpdatesOpenPayment fault p q) :
    CreditedOnce s q.world.store ((∀ e, ¬ fault e) ∧ q.Finished) ∧
    ∀ id, p.world.store.paymentStatus id = some .succeeded →
      q.world.store.paymentStatus id = some .succeeded := by
  have hstable : ∀ i (r : Except Error Unit),
      (protocol env s fault).Stable i (Settled fault i) := fun i _ => stable_settled
  have hsafe := (safe_init env fault hdrivers calls).run hstable
    (handlersKeep _) hp
  have hfinal := hsafe.run hstable (handlersKeep _) hq
  refine ⟨?_, ?_⟩
  · obtain ⟨credited, hmem, hdue⟩ := hfinal.inv.ledger
    refine ⟨credited, hdue, fun id hid => ?_, fun ⟨hfault, hfin⟩ id hnow hbefore => ?_⟩
    · obtain ⟨i, hi, -⟩ := (hmem id).mp hid
      exact hfinal.inv.confirmed hi
    · obtain ⟨i, hi⟩ := hfinal.inv.confirmer hnow hbefore
      have hlt : i < q.threads.length := by
        obtain ⟨e, he, rfl, -⟩ := hi
        exact hfinal.fresh e he
      obtain ⟨_, hsettled⟩ := hfinal.post_of_finished hfin hlt
      exact (hmem id).mpr ⟨i, hi, hsettled hfault id hi⟩
  · -- one step never overwrites `succeeded`
    refine hsafe.run_rel (R := fun s t => ∀ id, s.paymentStatus id = some .succeeded →
      t.paymentStatus id = some .succeeded) hstable (handlersKeep _) (fun _ _ h => h)
      (fun _ _ _ h h' id hid => h' id (h id hid)) (fun i w c _ hcond hguar id hid => ?_) hq
    cases hguar with
    | neutral hc => rwa [system_exec, Store.paymentStatus, Cmd.exec_payments hc.1]
    | @update id' data href hrow hfirst =>
      have hne : id ≠ id' := fun h => hcond (h ▸ hid)
      rwa [system_exec, Store.paymentStatus_updatePayment href, if_neg hne]
    | credit hconf hshape hfirst => exact hid

namespace Credit

/-- The notification of a successful payment. -/
def successWebhook : ConfirmationCall :=
  .webhook [("status", .str "SUCCESS"), ("notif_token", .str "secret"), ("txnid", .str "MP1")] none

open PaymentsService in
theorem pendingStore_paymentsHaveDrivers : pendingStore.PaymentsHaveDrivers := by
  intro id driverId amount h
  simp only [Store.paymentShape, Option.map_eq_some_iff] at h
  obtain ⟨p, hp, h⟩ := h
  have hmem := Table.mem_of_find? hp
  simp only [pendingStore, Table.rows_single, List.mem_singleton] at hmem
  obtain rfl := hmem
  simp only [Prod.mk.injEq] at h
  obtain ⟨rfl, -⟩ := h
  decide

end Credit

open Credit PaymentsService in
/-- The second webhook of a sequential replay changes nothing. -/
theorem commissionPayment_credited_once_replay :
    ∃ q : Pool Store Cmd Error Unit, q.Finished ∧
      CreditedOnce pendingStore q.world.store ((∀ e, ¬ (fun _ : Error => False) e) ∧ q.Finished) ∧
      q.world.store.commissionDue 1 = some 5000 := by
  obtain ⟨q, hq, hfin, hdue⟩ := Pool.exists_run_of_schedule? (system Env.offline ())
    UpdatesOpenPayment (fun _ => False)
    (Pool.init pendingStore ([successWebhook, successWebhook].map (·.program Env.offline)))
    [0, 0, 0, 0, 0, 0, 0, 1]
    (fun q => q.Finished ∧ q.world.store.commissionDue 1 = some 5000) (by decide +kernel)
  exact ⟨q, hfin, (commissionPayment_credited_once Env.offline pendingStore
    pendingStore_paymentsHaveDrivers _ _ .refl hq).1, hdue⟩

open Credit PaymentsService in
/-- Two webhooks that both read the pending payment are both credited. -/
theorem commissionPayment_credited_twice :
    ∃ q : Pool Store Cmd Error Unit,
      Pool.Run (system Env.offline ()) (fun _ _ _ => True) (fun _ => False)
        (Pool.init pendingStore ([successWebhook, successWebhook].map (·.program Env.offline))) q ∧
      q.Finished ∧ q.world.store.commissionDue 1 = some 0 ∧
      ¬ CreditedOnce pendingStore q.world.store q.Finished := by
  obtain ⟨q, hq, hfin, hdue, hids⟩ := Pool.exists_run_of_schedule? (system Env.offline ())
    (fun _ _ _ => True) (fun _ => False)
    (Pool.init pendingStore ([successWebhook, successWebhook].map (·.program Env.offline)))
    [0, 0, 1, 1, 0, 0, 0, 0, 0, 1, 1, 1, 1, 1]
    (fun q => q.Finished ∧ q.world.store.commissionDue 1 = some 0 ∧
      q.world.store.payments.rows.map CommissionPayment.id = [1]) (by decide +kernel)
  refine ⟨q, hq, hfin, hdue, ?_⟩
  rintro ⟨credited, hbalance, hstatus, -⟩
  have hsub : credited ⊆ {1} := fun id hid => by
    obtain ⟨payment, hpayment, -⟩ := Option.map_eq_some_iff.mp (hstatus id hid).1
    have hmem := List.mem_map_of_mem (f := CommissionPayment.id) (Table.mem_of_find? hpayment)
    rw [hids, Table.key_of_find? hpayment] at hmem
    simpa using hmem
  have hshare : pendingStore.paymentShare 1 1 = 5000 := by decide
  have hstart : pendingStore.commissionDue 1 = some 10000 := by decide
  have hone := hbalance 1
  rw [hdue, hstart, Option.map_some, Option.some_inj] at hone
  rcases Finset.subset_singleton_iff.mp hsub with rfl | rfl
  · simp at hone
  · rw [Finset.sum_singleton, hshare] at hone
    exact absurd hone (by decide)

end Telima
