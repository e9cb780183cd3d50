import Telima.Auth.Threads

/-!
# Two codes that are sent

`requestOtp` looks the last record of the phone up, and creates a new one some awaits later.  So two
requests that look before either of them creates both send a code.  And a code that was sent is deleted
when its message id cannot be stored.  If no record of the phone was created since a request has looked,
and no code that was sent is deleted, then the records of two codes that were sent to a phone are
`OTP_RESEND_COOLDOWN_SECONDS` apart (`codes_sent_apart`).
-/

namespace Telima.Auth

open AuthService

/-- The command looks the last record of a phone up. -/
def Cmd.readsLast : Cmd → Bool
  | .findLastOtp _ => true
  | _ => false

/-- The command creates a record of the phone. -/
def Cmd.createsFor (phone : String) : Cmd → Bool
  | .createOtp receiver .. => decide (receiver = phone)
  | _ => false

/-- A code is drawn. -/
def Cmd.draws : Cmd → Bool
  | .random => true
  | _ => false

/-- The command deletes a record. -/
def Cmd.deletes : Cmd → Bool
  | .deleteOtp _ => true
  | _ => false

/-- The provider has sent the code of the call. -/
def Delivered (env : AuthEnv) (w : World Store Cmd) (e : Event Store Cmd) : Bool :=
  match e.kind with
  | .did (.sendSms phone) => (w.lastRead e.tid Cmd.draws).any fun s =>
      (env.sendOtp phone (newCode env s) e.before).isOk
  | _ => false

/-- A code was sent to the phone by the call. -/
def SentBy (env : AuthEnv) (w : World Store Cmd) (phone : String) (i : ℕ) : Prop :=
  ∃ e ∈ w.trace, e.tid = i ∧ e.kind = .did (.sendSms phone) ∧ Delivered env w e = true

/-- The call has created the record of the phone at the time. -/
def CreatedBy (w : World Store Cmd) (phone : String) (i time id : ℕ) : Prop :=
  ∃ e ∈ w.trace, e.tid = i ∧ e.kind.performs (Cmd.createsFor phone) = true ∧
    e.before.now = time ∧ e.before.newOtpId = id

/-- A record is created when no other record of the phone was created since the call has looked, and no
record is deleted whose code was sent. -/
def NoneSince (env : AuthEnv) (i : ℕ) (w : World Store Cmd) : Cmd → Prop
  | .createOtp phone .. =>
    ∀ e ∈ w.since i Cmd.readsLast, e.kind.performs (Cmd.createsFor phone) = false
  | .deleteOtp _ => ∀ e ∈ w.trace, e.tid = i → Delivered env w e = false
  | _ => True

instance (env : AuthEnv) (i : ℕ) (w : World Store Cmd) (c : Cmd) : Decidable (NoneSince env i w c) := by
  unfold NoneSince
  split <;> infer_instance

namespace Cooldown

section Steps

variable {env : AuthEnv} {w : World Store Cmd} {phone : String} {i j n t id : ℕ} {c : Cmd}

theorem createdBy_step : CreatedBy (w.step system j c n) phone i t id ↔ CreatedBy w phone i t id ∨
    (j = i ∧ c.createsFor phone = true ∧ w.store.now = t ∧ w.store.newOtpId = id) := by
  unfold CreatedBy
  rw [trace_step]
  simp only [List.mem_cons, exists_eq_or_imp]
  exact or_comm

theorem exists_createOtp (h : c.createsFor phone = true) :
    ∃ codeHash expiresAt userId, c = .createOtp phone codeHash expiresAt userId := by
  cases c with
  | createOtp receiver codeHash expiresAt userId =>
    obtain rfl : receiver = phone := of_decide_eq_true h
    exact ⟨codeHash, expiresAt, userId, rfl⟩
  | _ => cases h

/-- The new record. -/
theorem find?_createOtp {codeHash : String} {expiresAt : ℕ} {userId : Option ℕ} {s : Store} :
    ((Cmd.createOtp phone codeHash expiresAt userId).exec s).otpCodes.find? s.newOtpId =
      some { id := s.newOtpId, phone, codeHash, userId, expiresAt, createdAt := s.now } :=
  Table.find?_insert_self (find?_newOtpId s)

/-- A code is drawn before it is sent. -/
def DrawsFirst (i : ℕ) (w : World Store Cmd) (c : Cmd) : Prop :=
  c.draws = true → ∀ phone, ¬ w.Did i (· = .sendSms phone)

theorem delivered_step {e : Event Store Cmd} (hdraws : DrawsFirst j w c) (he : e ∈ w.trace) :
    Delivered env (w.step system j c n) e = Delivered env w e := by
  unfold Delivered
  split
  · next phone hkind =>
    rw [World.lastRead_step_of_not]
    by_cases hj : j = e.tid
    · refine Or.inr (Bool.eq_false_iff.mpr fun hc => hdraws hc phone ?_)
      exact ⟨e, he, hj.symm, _, hkind, rfl⟩
    · exact Or.inl hj
  · rfl

end Steps

/-! ### The protocol -/

/-- A record stays until the call that has created it deletes it, and two records of a phone are apart
unless one of the two was deleted. -/
structure Apart (env : AuthEnv) (w : World Store Cmd) : Prop where
  kept : ∀ {phone i t id}, CreatedBy w phone i t id → w.Did i (Cmd.deletes · = true) ∨
    ∃ otp, w.store.otpCodes.find? id = some otp ∧ otp.phone = phone ∧ otp.createdAt = t
  used : ∀ {phone i t id}, CreatedBy w phone i t id → id ≤ w.store.lastOtpId
  owner : ∀ {phone phone' i j t t' id}, CreatedBy w phone i t id → CreatedBy w phone' j t' id → i = j
  spaced : ∀ {phone i j t t' id id'}, CreatedBy w phone i t id → CreatedBy w phone j t' id' → i ≠ j →
    t + env.config.otpResendCooldownSeconds * 1000 ≤ t' ∨
      t' + env.config.otpResendCooldownSeconds * 1000 ≤ t ∨ w.Did i (Cmd.deletes · = true) ∨
        w.Did j (Cmd.deletes · = true)
  sent : ∀ {phone i}, w.Did i (· = .sendSms phone) → ∃ t id, CreatedBy w phone i t id
  unsent : ∀ {i}, w.Did i (Cmd.deletes · = true) →
    ∀ e ∈ w.trace, e.tid = i → Delivered env w e = false

/-- What a call promises when it performs a command. -/
def Guards (env : AuthEnv) (i : ℕ) (w : World Store Cmd) : Cmd → Prop
  | .random => ∀ phone, ¬ w.Did i (· = .sendSms phone)
  | .createOtp phone .. => ∀ j t id, CreatedBy w phone j t id → w.Did j (Cmd.deletes · = true) ∨
    t + env.config.otpResendCooldownSeconds * 1000 ≤ w.store.now
  | .sendSms phone => (∃ t id, CreatedBy w phone i t id) ∧ ¬ w.Did i (Cmd.deletes · = true)
  | .deleteOtp id => ∃ phone t, CreatedBy w phone i t id
  | _ => True

section Invariant

variable {env : AuthEnv} {w : World Store Cmd} {phone : String} {i n t id : ℕ} {c : Cmd}

theorem Guards.drawsFirst (h : Guards env i w c) : DrawsFirst i w c := by
  intro hc
  cases c <;> first | exact h | cases hc

/-- A record after a command. -/
theorem Apart.kept_step {k : ℕ} (hw : Apart env w) (hguar : Guards env i w c)
    (h : CreatedBy w phone k t id) : (w.step system i c n).Did k (Cmd.deletes · = true) ∨
      ∃ otp, (c.exec w.store).otpCodes.find? id = some otp ∧ otp.phone = phone ∧ otp.createdAt = t := by
  rcases hw.kept h with hdid | ⟨otp, hotp, hphone, hcreated⟩
  · exact Or.inl (World.did_step.mpr (Or.inr hdid))
  · cases c.rowStep w.store id with
    | kept _ hrow => exact Or.inr ⟨otp, hrow.trans hotp, hphone, hcreated⟩
    | @attempted attempts lockedUntil _ hrow =>
      exact Or.inr ⟨otp.attempt attempts lockedUntil, by rw [hrow, hotp]; rfl, hphone, hcreated⟩
    | consumed _ hrow =>
      exact Or.inr ⟨otp.consume w.store.now, by rw [hrow, hotp]; rfl, hphone, hcreated⟩
    | @sent messageId _ hrow =>
      exact Or.inr ⟨otp.sent messageId, by rw [hrow, hotp]; rfl, hphone, hcreated⟩
    | deleted hc _ =>
      subst hc
      obtain ⟨phone', t', hown⟩ := hguar
      exact Or.inl (World.did_step.mpr (Or.inl ⟨hw.owner hown h, rfl⟩))
    | created _ hid _ =>
      have hlt := w.store.lastOtpId_lt_newOtpId
      have hle := hw.used h
      omega

theorem Apart.step (hw : Apart env w) (hcond : NoneSince env i w c) (hguar : Guards env i w c) :
    Apart env (w.step system i c n) where
  kept := by
    intro phone k t id h
    rw [World.store_step]
    rcases createdBy_step.mp h with h | ⟨rfl, hc, rfl, rfl⟩
    · exact hw.kept_step hguar h
    · obtain ⟨codeHash, expiresAt, userId, rfl⟩ := exists_createOtp hc
      exact Or.inr ⟨_, find?_createOtp, rfl, rfl⟩
  used := by
    intro phone k t id h
    rw [World.store_step]
    rcases createdBy_step.mp h with h | ⟨rfl, hc, rfl, rfl⟩
    · exact (hw.used h).trans (c.lastOtpId_le_exec w.store)
    · obtain ⟨codeHash, expiresAt, userId, rfl⟩ := exists_createOtp hc
      exact le_rfl
  owner := by
    intro phone phone' k l t t' id h h'
    have hlt := w.store.lastOtpId_lt_newOtpId
    rcases createdBy_step.mp h with hold | ⟨rfl, -, -, hid⟩ <;>
      rcases createdBy_step.mp h' with hold' | ⟨rfl, -, -, hid'⟩
    · exact hw.owner hold hold'
    · have hle := hw.used hold
      omega
    · have hle := hw.used hold'
      omega
    · rfl
  spaced := by
    intro phone k l t t' id id' h h' hne
    have hdid : ∀ m, w.Did m (Cmd.deletes · = true) →
        (w.step system i c n).Did m (Cmd.deletes · = true) := fun m h => World.did_step.mpr (Or.inr h)
    rcases createdBy_step.mp h with hold | ⟨rfl, hc, rfl, -⟩ <;>
      rcases createdBy_step.mp h' with hold' | ⟨rfl, hc', rfl, -⟩
    · rcases hw.spaced hold hold' hne with hle | hle | hdel | hdel
      · exact Or.inl hle
      · exact Or.inr (Or.inl hle)
      · exact Or.inr (Or.inr (Or.inl (hdid k hdel)))
      · exact Or.inr (Or.inr (Or.inr (hdid l hdel)))
    · obtain ⟨codeHash, expiresAt, userId, rfl⟩ := exists_createOtp hc'
      rcases hguar k t id hold with hdel | hle
      · exact Or.inr (Or.inr (Or.inl (hdid k hdel)))
      · exact Or.inl hle
    · obtain ⟨codeHash, expiresAt, userId, rfl⟩ := exists_createOtp hc
      rcases hguar l t' id' hold' with hdel | hle
      · exact Or.inr (Or.inr (Or.inr (hdid l hdel)))
      · exact Or.inr (Or.inl hle)
    · exact absurd rfl hne
  sent := by
    intro phone k h
    rcases World.did_step.mp h with ⟨rfl, rfl⟩ | h
    · obtain ⟨⟨t, id, hcreated⟩, -⟩ := hguar
      exact ⟨t, id, createdBy_step.mpr (Or.inl hcreated)⟩
    · obtain ⟨t, id, hcreated⟩ := hw.sent h
      exact ⟨t, id, createdBy_step.mpr (Or.inl hcreated)⟩
  unsent := by
    intro k h e he htid
    rw [trace_step] at he
    rcases List.mem_cons.mp he with rfl | hold
    · -- a call that has deleted its record sends nothing
      cases c with
      | sendSms phone =>
        rcases World.did_step.mp h with ⟨-, hc⟩ | hdid
        · cases hc
        · subst htid
          exact absurd hdid hguar.2
      | _ => rfl
    · rw [delivered_step hguar.drawsFirst hold]
      rcases World.did_step.mp h with ⟨rfl, hc⟩ | hdid
      · cases c with
        | deleteOtp id => exact hcond e hold htid
        | _ => cases hc
      · exact hw.unsent hdid e hold htid

theorem apart_init (s : Store) : Apart env ⟨s, []⟩ := by
  have hnone : ∀ {phone i t id}, ¬ CreatedBy (⟨s, []⟩ : World Store Cmd) phone i t id := by
    rintro phone i t id ⟨e, he, -⟩
    exact absurd he List.not_mem_nil
  have hnot : ∀ {i} {H : Cmd → Prop}, ¬ (⟨s, []⟩ : World Store Cmd).Did i H := by
    rintro i H ⟨e, he, -⟩
    exact absurd he List.not_mem_nil
  exact ⟨fun h => absurd h hnone, fun h => absurd h hnone, fun h => absurd h hnone,
    fun h => absurd h hnone, fun h => absurd h hnot, fun h => absurd h hnot⟩

end Invariant

def protocol (env : AuthEnv) (fault : Error → Prop) : Protocol system where
  cond := NoneSince env
  fault := fault
  inv := Apart env
  guar := Guards env
  inv_step hw hc hguar _ _ := hw.step hc hguar

section Threads

variable {env : AuthEnv} {fault : Error → Prop} {w : World Store Cmd} {phone : String} {i j n : ℕ}
  {c : Cmd} {last : Option OtpCode}

/-- The call has sent nothing and deleted nothing. -/
def Silent (i : ℕ) (w : World Store Cmd) : Prop :=
  ¬ w.Did i fun c => c.deletes = true ∨ ∃ phone, c = .sendSms phone

/-- Every record of the phone is old, was deleted by its call, or was created since the call has
looked. -/
def Covers (phone : String) (old : ℕ → Prop) (i : ℕ) (w : World Store Cmd) : Prop :=
  ∀ j t id, CreatedBy w phone j t id → w.Did j (Cmd.deletes · = true) ∨
    (∃ e ∈ w.since i Cmd.readsLast, e.kind.performs (Cmd.createsFor phone) = true) ∨ old t

theorem Covers.mono {old old' : ℕ → Prop} (h : Covers phone old i w) (hold : ∀ t, old t → old' t) :
    Covers phone old' i w :=
  fun j t id hcreated => (h j t id hcreated).imp_right (Or.imp_right (hold t))

theorem Covers.step {old : ℕ → Prop} (h : Covers phone old i w) (hc : j ≠ i ∨ c.readsLast = false) :
    Covers phone old i (w.step system j c n) := by
  intro k t id hcreated
  rw [since_step hc]
  rcases createdBy_step.mp hcreated with hbefore | ⟨rfl, hnew, -⟩
  · rcases h k t id hbefore with hdid | ⟨e, he, hkind⟩ | hold
    · exact Or.inl (World.did_step.mpr (Or.inr hdid))
    · exact Or.inr (Or.inl ⟨e, List.mem_cons_of_mem _ he, hkind⟩)
    · exact Or.inr (Or.inr hold)
  · exact Or.inr (Or.inl ⟨_, List.mem_cons_self, hnew⟩)

theorem Silent.step (h : Silent i w)
    (hc : j ≠ i ∨ c.deletes = false ∧ ∀ phone, c ≠ .sendSms phone) :
    Silent i (w.step system j c n) := by
  unfold Silent
  rw [World.did_step]
  rintro (⟨rfl, hdel | ⟨phone, hsend⟩⟩ | hdid)
  · rcases hc with hc | ⟨hc, -⟩
    · exact hc rfl
    · rw [hdel] at hc
      cases hc
  · rcases hc with hc | ⟨-, hc⟩
    · exact hc rfl
    · exact hc phone hsend
  · exact h hdid

/-- What a request knows before it creates its record. -/
def Looked (phone : String) (old : ℕ → Prop) (i : ℕ) (w : World Store Cmd) : Prop :=
  Silent i w ∧ Covers phone old i w

theorem stable_looked {old : ℕ → Prop} :
    (protocol env fault).Stable i (Looked phone old i) := by
  rintro w _ ⟨j, c, n, hj, -, -, -, -, -, -, rfl⟩ ⟨hsilent, hcovers⟩
  exact ⟨hsilent.step (Or.inl hj), hcovers.step (Or.inl hj)⟩

theorem Looked.step {old : ℕ → Prop} (h : Looked phone old i w) (hread : c.readsLast = false)
    (hdel : c.deletes = false) (hsend : ∀ phone, c ≠ .sendSms phone) :
    Looked phone old i (w.step system i c n) :=
  ⟨h.1.step (Or.inr ⟨hdel, hsend⟩), h.2.step (Or.inr hread)⟩

/-- The cooldown of every record of the phone is over, but of those that were created since. -/
def Passed (env : AuthEnv) (phone : String) (i : ℕ) (w : World Store Cmd) : Prop :=
  ∃ now ≤ w.store.now,
    Looked phone (fun t => t + env.config.otpResendCooldownSeconds * 1000 ≤ now) i w

/-- What the look-up finds. -/
theorem looked_of_apart (hw : Apart env w) (hsilent : Silent i w) :
    Looked phone (fun t => ∃ otp ∈ lastOtp (w.store.otpCodes.findMany fun otp =>
      decide (otp.phone = phone)), t ≤ otp.createdAt) i (w.step system i (.findLastOtp phone) n) := by
  refine ⟨hsilent.step (Or.inr ⟨rfl, fun _ => nofun⟩), fun j t id hcreated => ?_⟩
  rcases createdBy_step.mp hcreated with hbefore | ⟨-, hc, -⟩
  · rcases hw.kept hbefore with hdid | ⟨otp, hotp, hphone, hcreatedAt⟩
    · exact Or.inl (World.did_step.mpr (Or.inr hdid))
    · have hmem : otp ∈ w.store.otpCodes.findMany fun otp => decide (otp.phone = phone) :=
        List.mem_filter.mpr ⟨Table.mem_of_find? hotp, decide_eq_true hphone⟩
      obtain ⟨last, hlast, hle⟩ := exists_lastOtp hmem
      exact Or.inr (Or.inr ⟨last, hlast, by omega⟩)
  · cases hc

/-- The call has created its record, and not deleted it. -/
def Ready (phone : String) (i id : ℕ) (w : World Store Cmd) : Prop :=
  (∃ t, CreatedBy w phone i t id) ∧ ¬ w.Did i (Cmd.deletes · = true)

theorem Ready.step {id : ℕ} (h : Ready phone i id w) (hc : j ≠ i ∨ c.deletes = false) :
    Ready phone i id (w.step system j c n) := by
  obtain ⟨⟨t, hcreated⟩, hdid⟩ := h
  refine ⟨⟨t, createdBy_step.mpr (Or.inl hcreated)⟩, ?_⟩
  rw [World.did_step]
  rintro (⟨rfl, hdel⟩ | hold)
  · rcases hc with hc | hc
    · exact hc rfl
    · rw [hc] at hdel
      cases hdel
  · exact hdid hold

theorem stable_ready {id : ℕ} : (protocol env fault).Stable i (Ready phone i id) := by
  rintro w _ ⟨j, c, n, hj, -, -, -, -, -, -, rfl⟩ h
  exact h.step (Or.inl hj)

theorem wp_requestOtp (rawPhone : String) (app : JulakaiApp) (hw : Silent i w) :
    (protocol env fault).wp i (requestOtp env rawPhone app) (fun _ _ => True) w := by
  set phone := normalizePhone rawPhone with hphone
  have hsilent : (protocol env fault).Stable i (Silent i) := Protocol.stable_not_did i _
  have hpassed : (protocol env fault).Stable i (Passed env phone i) := by
    rintro w w' hother ⟨now, hnow, hlooked⟩
    refine ⟨now, ?_, stable_looked hother hlooked⟩
    obtain ⟨j, c, n, -, -, -, -, -, -, -, rfl⟩ := hother
    rw [World.store_step]
    exact hnow.trans (c.now_le_exec w.store)
  refine Auth.wp_requestOtp (Silent i)
    (fun last => Looked phone (fun t => ∃ otp ∈ last, t ≤ otp.createdAt) i) (Passed env phone i)
    (Ready phone i) hsilent (fun _ => stable_looked) hpassed (fun _ => stable_ready)
    ?_ ?_ ?_ ?_ ?_ ?_ ?_ hw
  · exact fun w path hw _ _ => ⟨trivial, fun n _ _ => hw.step (Or.inr ⟨rfl, fun _ => nofun⟩)⟩
  · exact fun w hw hinv _ => ⟨trivial, fun n _ _ => looked_of_apart hinv hw⟩
  · intro last w h _ _
    refine ⟨trivial, fun n _ _ hover => ⟨w.store.now, ?_, ?_⟩⟩
    · rw [World.store_step]
      exact le_rfl
    · have hdate := h.step (n := n) (c := .date) rfl rfl fun _ => nofun
      refine ⟨hdate.1, hdate.2.mono ?_⟩
      rintro t ⟨otp, hotp, hle⟩
      have hcool := hover otp hotp
      omega
  · intro c w hc ⟨now, hnow, hlooked⟩ _ _
    have hread : c.readsLast = false := by cases c <;> first | rfl | cases hc
    have hdel : c.deletes = false := by cases c <;> first | rfl | cases hc
    have hsend : ∀ phone, c ≠ .sendSms phone := by
      rintro phone rfl
      cases hc
    refine ⟨?_, fun n _ _ => ⟨now, ?_, hlooked.step hread hdel hsend⟩⟩
    · cases c with
      | random =>
        rintro phone ⟨e, he, htid, d, hkind, hd⟩
        exact hlooked.1 ⟨e, he, htid, d, hkind, Or.inr ⟨phone, hd⟩⟩
      | bcryptHash | date | findUserByPhone => trivial
      | _ => cases hc
    · rw [World.store_step]
      exact hnow.trans (c.now_le_exec w.store)
  · intro codeHash expiresAt userId w ⟨now, hnow, hdone, hcovers⟩ _ hcond
    refine ⟨fun j t id hcreated => ?_, fun n _ _ => ⟨⟨w.store.now, ?_⟩, ?_⟩⟩
    · rcases hcovers j t id hcreated with hdid | ⟨e, he, hkind⟩ | hold
      · exact Or.inl hdid
      · rw [hcond e he] at hkind
        cases hkind
      · exact Or.inr (hold.trans hnow)
    · exact createdBy_step.mpr (Or.inr ⟨rfl, decide_eq_true rfl, rfl, rfl⟩)
    · rw [World.did_step_of_not (by exact Bool.false_ne_true)]
      rintro ⟨e, he, htid, d, hkind, hd⟩
      exact hdone ⟨e, he, htid, d, hkind, Or.inl hd⟩
  · intro c id w hc h _ _
    have hdel : c.deletes = false := by cases c <;> first | rfl | cases hc
    refine ⟨?_, fun n _ _ => h.step (Or.inr hdel)⟩
    cases c with
    | sendSms receiver =>
      obtain rfl : receiver = phone := of_decide_eq_true hc
      obtain ⟨⟨t, hcreated⟩, hdid⟩ := h
      exact ⟨⟨t, id, hcreated⟩, hdid⟩
    | otpSent => trivial
    | _ => cases hc
  · rintro id w ⟨⟨t, hcreated⟩, -⟩ _ _
    exact ⟨⟨phone, t, hcreated⟩, fun _ _ _ => trivial⟩

theorem wp_program (call : Call) (hw : Silent i w) :
    (protocol env fault).wp i (call.program env) (fun _ _ => True) w := by
  by_cases hrequest : ∃ rawPhone app, call = .requestOtp rawPhone app
  · obtain ⟨rawPhone, app, rfl⟩ := hrequest
    exact Protocol.wp_as (wp_requestOtp rawPhone app hw)
  · have hframe : (protocol env fault).Frame i (fun c => c.verifies = true) fun _ => True := by
      refine ⟨Protocol.stable_const i True, fun {c _} hc _ _ _ => ⟨?_, fun _ _ _ => trivial⟩⟩
      cases c <;> trivial
    refine hframe.wp (verifies_program env fun rawPhone app hcall => ?_) trivial
    exact hrequest ⟨rawPhone, app, hcall⟩

end Threads

end Cooldown

/-- In every run in which a request creates its record when no other record of the phone was created since
it has looked, and in which no record is deleted whose code was sent, two codes that were sent to a phone
belong to records that were created at least `OTP_RESEND_COOLDOWN_SECONDS` apart. -/
theorem codes_sent_apart (env : AuthEnv) (fault : Error → Prop) (s : Store) (calls : List Call)
    {q : Pool Store Cmd Error (Option TokenPair)}
    (hrun : Pool.Run system (NoneSince env) fault (start env s calls) q) {phone : String} {i j : ℕ}
    (hi : SentBy env q.world phone i) (hj : SentBy env q.world phone j) (hne : i ≠ j) :
    ∃ t id t' id', CreatedBy q.world phone i t id ∧ CreatedBy q.world phone j t' id' ∧
      (t + env.config.otpResendCooldownSeconds * 1000 ≤ t' ∨
        t' + env.config.otpResendCooldownSeconds * 1000 ≤ t) := by
  have hsafe := safe_of_run (P := Cooldown.protocol env fault)
    (fun i _ => Protocol.stable_const i True) (Cooldown.apart_init s)
    (fun i call _ => Cooldown.wp_program call fun hdid => ?_) hrun
  · have hinv : Cooldown.Apart env q.world := hsafe.inv
    have hkept : ∀ {k}, SentBy env q.world phone k →
        (∃ t id, CreatedBy q.world phone k t id) ∧ ¬ q.world.Did k (Cmd.deletes · = true) := by
      rintro k ⟨e, he, htid, hkind, hdelivered⟩
      refine ⟨hinv.sent ⟨e, he, htid, _, hkind, rfl⟩, fun hdid => ?_⟩
      rw [hinv.unsent hdid e he htid] at hdelivered
      cases hdelivered
    obtain ⟨⟨t, id, hcreated⟩, hstays⟩ := hkept hi
    obtain ⟨⟨t', id', hcreated'⟩, hstays'⟩ := hkept hj
    refine ⟨t, id, t', id', hcreated, hcreated', ?_⟩
    rcases hinv.spaced hcreated hcreated' hne with hle | hle | hdid | hdid
    · exact Or.inl hle
    · exact Or.inr hle
    · exact absurd hdid hstays
    · exact absurd hdid hstays'
  · obtain ⟨e, he, -⟩ := hdid
    exact absurd he List.not_mem_nil

/-! ### Runs -/

instance (env : AuthEnv) (w : World Store Cmd) (phone : String) (i : ℕ) :
    Decidable (SentBy env w phone i) :=
  inferInstanceAs (Decidable (∃ e ∈ w.trace, _))

instance (w : World Store Cmd) (phone : String) (i time id : ℕ) :
    Decidable (CreatedBy w phone i time id) :=
  inferInstanceAs (Decidable (∃ e ∈ w.trace, _))

namespace Cooldown

open Town

def phone : String := "+22370000001"

/-- Two requests for one phone, and a minute in between. -/
def twice : List Call := [.requestOtp "70000001" .client, .requestOtp phone .driver, .wait 60000]

/-- The second request comes after the minute. -/
def minuteLater : List ℕ := [0, 0, 0, 0, 0, 0, 0, 0, 2, 1, 1, 1, 1, 1, 1, 1, 1]

/-- Both requests look before either of them creates a record. -/
def together : List ℕ := [0, 0, 0, 1, 1, 1, 0, 0, 0, 0, 0, 1, 1, 1, 1, 1]

end Cooldown

open Town Cooldown in
theorem codes_sent_apart_minute_later :
    ∃ q : Pool Store Cmd Error (Option TokenPair),
      SentBy env q.world phone 0 ∧ SentBy env q.world phone 1 ∧ ∃ t id t' id',
        CreatedBy q.world phone 0 t id ∧ CreatedBy q.world phone 1 t' id' ∧
          (t + 60000 ≤ t' ∨ t' + 60000 ≤ t) := by
  obtain ⟨q, hrun, hfirst, hsecond⟩ := Pool.exists_run_of_schedule? system (NoneSince env)
    (fun _ => False) (start env {} twice) minuteLater
    (fun q => SentBy env q.world phone 0 ∧ SentBy env q.world phone 1) (by decide +kernel)
  exact ⟨q, hfirst, hsecond,
    codes_sent_apart env _ {} twice hrun hfirst hsecond (by decide)⟩

open Town Cooldown in
/-- Two codes are sent at the same time. -/
theorem codes_sent_together :
    ∃ q, Pool.Run system (fun _ _ _ => True) (fun _ => False) (start env {} twice) q ∧
      SentBy env q.world phone 0 ∧ SentBy env q.world phone 1 ∧
        CreatedBy q.world phone 0 0 1 ∧ CreatedBy q.world phone 1 0 2 :=
  Pool.exists_run_of_schedule? system (fun _ _ _ => True) (fun _ => False) (start env {} twice)
    together (fun q => SentBy env q.world phone 0 ∧ SentBy env q.world phone 1 ∧
      CreatedBy q.world phone 0 0 1 ∧ CreatedBy q.world phone 1 0 2) (by decide +kernel)

end Telima.Auth
