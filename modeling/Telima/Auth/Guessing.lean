import Telima.Auth.Threads

/-!
# How many codes can be compared with a record

`verifyOtp` reads the attempts of a record, compares a code, and writes one attempt more than it has
read.  So calls that read the record before any of them writes compare as many codes as there are calls.
If a call compares a code only when the outcome of every earlier comparison with the record has been
written, and was written before this call has read the record, then within the minutes of a lock at most
`OTP_MAX_ATTEMPTS` codes are compared with it (`guesses_le`).
-/

namespace Telima.Auth

open AuthService

/-- The record a look-up answers. -/
def Cmd.findsOtp? : Cmd → Store → Option OtpCode
  | .findPendingOtp phone, s => s.pendingOtp? phone
  | _, _ => none

/-- The command writes the outcome of a comparison to the record. -/
def Cmd.settles (id : ℕ) : Cmd → Bool
  | .attemptOtp otpId _ _ | .consumeOtp otpId => decide (otpId = id)
  | _ => false

/-- The record a call has looked up. -/
def record? (w : World Store Cmd) (i : ℕ) : Option OtpCode := w.lastAnswer i Cmd.findsOtp?

/-- A code was compared with the record. -/
def Guessed (w : World Store Cmd) (id : ℕ) (e : Event Store Cmd) : Bool :=
  e.kind.performs Cmd.comparesCode && decide ((record? w e.tid).map OtpCode.id = some id)

/-- How many codes were compared with the record. -/
def guesses (w : World Store Cmd) (id : ℕ) : ℕ := w.trace.countP (Guessed w id)

/-- The outcome of every other comparison with the record was written before the call that compares
has read it. -/
def Settled (i : ℕ) (w : World Store Cmd) : Cmd → Prop
  | .compareCode .. => ∀ otp ∈ record? w i,
    (∀ e ∈ w.trace, Guessed w otp.id e = true → w.Did e.tid (Cmd.settles otp.id · = true)) ∧
      ∀ e ∈ w.since i Cmd.readsOtp, e.kind.performs (Cmd.settles otp.id) = false
  | _ => True

instance (i : ℕ) (w : World Store Cmd) (c : Cmd) : Decidable (Settled i w c) := by
  unfold Settled
  split <;> infer_instance

namespace Guessing

section Steps

variable {w : World Store Cmd} {id i j n : ℕ} {c : Cmd} {otp : OtpCode}

/-- The call has compared a code with the record, and the outcome is not written. -/
structure Pending (w : World Store Cmd) (id i : ℕ) : Prop where
  compared : w.Did i (Cmd.comparesCode · = true)
  record : (record? w i).map OtpCode.id = some id
  unsettled : ¬ w.Did i (Cmd.settles id · = true)

/-- A call looks a code up before it compares one. -/
def ReadsFirst (i : ℕ) (w : World Store Cmd) (c : Cmd) : Prop :=
  c.readsOtp = true → ¬ w.Did i (Cmd.comparesCode · = true)

theorem readsFirst_of_not (h : c.readsOtp = false) : ReadsFirst i w c := fun hc => by
  rw [h] at hc
  cases hc

theorem Cmd.findsOtp?_of_not_readsOtp {s : Store} (h : c.readsOtp = false) : c.findsOtp? s = none := by
  cases c <;> first | rfl | cases h

theorem record?_step (h : j ≠ i ∨ c.readsOtp = false) : record? (w.step system j c n) i = record? w i :=
  World.lastAnswer_step_of_not (h.imp_right Cmd.findsOtp?_of_not_readsOtp)

/-- A call that has compared keeps the record it has read. -/
theorem record?_step_of_did (hreads : ReadsFirst j w c) (h : w.Did i (Cmd.comparesCode · = true)) :
    record? (w.step system j c n) i = record? w i := by
  refine record?_step ?_
  by_cases hj : j = i
  · subst hj
    exact Or.inr (Bool.eq_false_iff.mpr fun hc => hreads hc h)
  · exact Or.inl hj

/-- A command adds its own comparison, and no other. -/
theorem guesses_step (hreads : ReadsFirst j w c) : guesses (w.step system j c n) id = guesses w id +
    (c.comparesCode && decide ((record? w j).map OtpCode.id = some id)).toNat := by
  have hold : w.trace.countP (Guessed (w.step system j c n) id) = w.trace.countP (Guessed w id) := by
    refine List.countP_congr fun e he => ?_
    unfold Guessed
    cases hkind : e.kind.performs Cmd.comparesCode with
    | false => rfl
    | true =>
      rw [record?_step_of_did hreads (World.did_iff_performs.mpr ⟨e, he, rfl, hkind⟩)]
  have hnew : Guessed (w.step system j c n) id ⟨j, .did c, w.store⟩ =
      (c.comparesCode && decide ((record? w j).map OtpCode.id = some id)) := by
    unfold Guessed
    show (c.comparesCode && _) = _
    cases hc : c.comparesCode with
    | false => rfl
    | true =>
      have hread : c.readsOtp = false := by cases c <;> first | rfl | cases hc
      rw [record?_step (Or.inr hread)]
  unfold guesses
  rw [trace_step, List.countP_cons, hold, hnew]
  cases c.comparesCode && decide ((record? w j).map OtpCode.id = some id) <;> rfl

theorem guesses_step_of_not (hreads : ReadsFirst j w c)
    (h : ¬ (c.comparesCode = true ∧ (record? w j).map OtpCode.id = some id)) :
    guesses (w.step system j c n) id = guesses w id := by
  have hfalse : (c.comparesCode && decide ((record? w j).map OtpCode.id = some id)) = false := by
    rw [Bool.eq_false_iff, ne_eq, Bool.and_eq_true, decide_eq_true_iff]
    exact h
  rw [guesses_step hreads, hfalse]
  rfl

/-- A comparison stays open until its outcome is written. -/
theorem Pending.step (h : Pending w id i) (hreads : ReadsFirst j w c)
    (hc : j ≠ i ∨ c.settles id = false) : Pending (w.step system j c n) id i where
  compared := World.did_step.mpr (Or.inr h.compared)
  record := by
    rw [record?_step_of_did hreads h.compared]
    exact h.record
  unsettled := by
    rw [World.did_step]
    rintro (⟨rfl, hsettles⟩ | hdid)
    · rcases hc with hc | hc
      · exact hc rfl
      · rw [hc] at hsettles
        cases hsettles
    · exact h.unsettled hdid

/-- A comparison is open because it was, or is the one that is made now. -/
theorem Pending.of_step (h : Pending (w.step system j c n) id i) (hreads : ReadsFirst j w c) :
    Pending w id i ∨ (j = i ∧ c.comparesCode = true ∧ (record? w i).map OtpCode.id = some id) := by
  have hunsettled : ¬ w.Did i (Cmd.settles id · = true) := fun hdid =>
    h.unsettled (World.did_step.mpr (Or.inr hdid))
  rcases World.did_step.mp h.compared with ⟨rfl, hc⟩ | hdid
  · have hread : c.readsOtp = false := by cases c <;> first | rfl | cases hc
    refine Or.inr ⟨rfl, hc, ?_⟩
    rw [← record?_step (n := n) (Or.inr hread)]
    exact h.record
  · refine Or.inl ⟨hdid, ?_, hunsettled⟩
    rw [← record?_step_of_did (n := n) hreads hdid]
    exact h.record

/-- When a call may compare, nothing is open. -/
theorem not_pending_of_settled {code codeHash : String} (h : Settled i w (.compareCode code codeHash))
    (hrecord : record? w i = some otp) (k : ℕ) : ¬ Pending w otp.id k := by
  intro hk
  obtain ⟨e, he, rfl, hkind⟩ := World.did_iff_performs.mp hk.compared
  refine hk.unsettled ((h otp hrecord).1 e he ?_)
  rw [Guessed, hkind, hk.record]
  exact decide_eq_true rfl

end Steps

/-! ### The protocol -/

/-- The lock lasts until the time. -/
def Closed (time : ℕ) (lockedUntil : Option ℕ) : Prop := ∃ t, lockedUntil = some t ∧ time ≤ t

variable {env : AuthEnv} {id time : ℕ}

/-- One more comparison is within the limit. -/
def Within (env : AuthEnv) (count attempts : ℕ) : Prop :=
  count = 0 ∨ count ≤ attempts ∧ attempts < env.config.otpMaxAttempts

/-- The comparisons are within the limit, and as long as none is open, the attempts of a record that can
be compared with count them. -/
structure Bounded (env : AuthEnv) (id time : ℕ) (w : World Store Cmd) : Prop where
  le : guesses w id ≤ env.config.otpMaxAttempts
  unique : ∀ i j, Pending w id i → Pending w id j → i = j
  row : (∀ i, ¬ Pending w id i) → ∀ otp, w.store.otpCodes.find? id = some otp →
    otp.consumedAt = none → ¬ Closed time otp.lockedUntil → Within env (guesses w id) otp.attempts
  used : guesses w id ≠ 0 → w.store.Used id
  late : time ≤ w.store.now + env.config.otpLockMinutes * 60 * 1000

/-- What a call promises when it performs a command. -/
def Guards (env : AuthEnv) (id time i : ℕ) (w : World Store Cmd) : Cmd → Prop
  | .findPendingOtp _ => ¬ w.Did i (Cmd.comparesCode · = true)
  | .compareCode .. => (record? w i).map OtpCode.id = some id →
    guesses w id < env.config.otpMaxAttempts ∧ w.store.Used id ∧ ¬ w.Did i (Cmd.settles id · = true)
  | .attemptOtp otpId attempts lockedUntil => otpId = id → Pending w id i ∧
    (Closed time lockedUntil ∨ guesses w id ≤ attempts ∧ attempts < env.config.otpMaxAttempts)
  | .consumeOtp otpId => otpId = id → Pending w id i
  | .deleteOtp otpId => otpId ≤ w.store.lastOtpId
  | _ => True

section Invariant

variable {w : World Store Cmd} {i j n : ℕ} {c : Cmd} {otp : OtpCode}

theorem Guards.readsFirst (h : Guards env id time i w c) : ReadsFirst i w c := by
  intro hc
  cases c <;> first | exact h | cases hc

theorem Guards.deletesUsed (h : Guards env id time i w c) : c.deletesUsed w.store := by
  cases c <;> first | exact h | trivial

/-- Only a call that has compared a code writes its outcome. -/
theorem Guards.pending (h : Guards env id time i w c) (hc : c.settles id = true) : Pending w id i := by
  cases c with
  | attemptOtp otpId attempts lockedUntil => exact (h (of_decide_eq_true hc)).1
  | consumeOtp otpId => exact h (of_decide_eq_true hc)
  | _ => cases hc

/-- A call that compares a code with the record has an open comparison. -/
theorem Guards.pending_step (h : Guards env id time i w c) (hc : c.comparesCode = true)
    (hrecord : (record? w i).map OtpCode.id = some id) : Pending (w.step system i c n) id i := by
  cases c with
  | compareCode code codeHash =>
    obtain ⟨-, -, hunsettled⟩ := h hrecord
    refine ⟨World.did_step.mpr (Or.inl ⟨rfl, rfl⟩), ?_, ?_⟩
    · rw [record?_step (Or.inr rfl)]
      exact hrecord
    · rw [World.did_step_of_not (by exact Bool.false_ne_true)]
      exact hunsettled
  | _ => cases hc

theorem settles_of_otpId? (h : c.otpId? ≠ some id) : c.settles id = false := by
  cases c with
  | attemptOtp otpId attempts lockedUntil => exact decide_eq_false fun hid => h (congrArg some hid)
  | consumeOtp otpId => exact decide_eq_false fun hid => h (congrArg some hid)
  | _ => rfl

theorem Bounded.step (hw : Bounded env id time w) (hsettled : Settled i w c)
    (hguar : Guards env id time i w c) : Bounded env id time (w.step system i c n) := by
  have hreads : ReadsFirst i w c := hguar.readsFirst
  by_cases hguess : c.comparesCode = true ∧ (record? w i).map OtpCode.id = some id
  · -- one more comparison, and the only one that is open
    obtain ⟨hc, hrecord⟩ := hguess
    have hpending : Pending (w.step system i c n) id i := hguar.pending_step hc hrecord
    have hcount : guesses (w.step system i c n) id = guesses w id + 1 := by
      rw [guesses_step hreads, hc, hrecord, decide_eq_true rfl]
      rfl
    obtain ⟨code, codeHash, rfl⟩ : ∃ code codeHash, c = .compareCode code codeHash := by
      cases c <;> first | exact ⟨_, _, rfl⟩ | cases hc
    obtain ⟨hlt, hused, -⟩ := hguar hrecord
    obtain ⟨otp, hotp, rfl⟩ := Option.map_eq_some_iff.mp hrecord
    have honly : ∀ k, Pending (w.step system i (.compareCode code codeHash) n) otp.id k → k = i := by
      intro k hk
      rcases hk.of_step hreads with hold | ⟨hki, -⟩
      · exact absurd hold (not_pending_of_settled hsettled hotp k)
      · exact hki.symm
    refine ⟨by omega, fun k l hk hl => (honly k hk).trans (honly l hl).symm, ?_, ?_, ?_⟩
    · exact fun hnone => absurd hpending (hnone i)
    · rw [World.store_step]
      exact fun _ => hused
    · rw [World.store_step]
      exact hw.late
  · have hcount : guesses (w.step system i c n) id = guesses w id := guesses_step_of_not hreads hguess
    have hold : ∀ k, Pending (w.step system i c n) id k → Pending w id k := by
      intro k hk
      rcases hk.of_step hreads with hold | ⟨rfl, hnew⟩
      · exact hold
      · exact absurd hnew hguess
    refine ⟨hcount ▸ hw.le, fun k l hk hl => hw.unique k l (hold k hk) (hold l hl), ?_, ?_, ?_⟩
    · intro hnone otp hotp hconsumed hopen
      rw [hcount]
      rw [World.store_step] at hotp
      -- a command that writes no outcome leaves the open comparisons
      have hsame : c.settles id = false → ∀ k, ¬ Pending w id k :=
        fun hc k hk => hnone k (hk.step hreads (Or.inr hc))
      cases c.rowStep w.store id with
      | kept hc hkept => exact hw.row (hsame (settles_of_otpId? hc)) otp (hkept.symm.trans hotp) hconsumed hopen
      | sent hc hsent =>
        subst hc
        obtain ⟨row, hrow, rfl⟩ := Option.map_eq_some_iff.mp (hsent.symm.trans hotp)
        exact hw.row (hsame rfl) row hrow hconsumed hopen
      | attempted hc hattempted =>
        subst hc
        obtain ⟨row, -, rfl⟩ := Option.map_eq_some_iff.mp (hattempted.symm.trans hotp)
        obtain ⟨-, hclosed | hwithin⟩ := hguar rfl
        · exact absurd hclosed hopen
        · exact Or.inr hwithin
      | consumed hc hconsume =>
        obtain ⟨row, -, rfl⟩ := Option.map_eq_some_iff.mp (hconsume.symm.trans hotp)
        cases hconsumed
      | deleted hc hdeleted => cases hdeleted.symm.trans hotp
      | created hc hid hcreated =>
        refine Or.inl ?_
        by_contra hne
        exact (hw.used hne).ne_newOtpId hid.symm
    · rw [hcount, World.store_step]
      exact fun hne => (hw.used hne).exec hguar.deletesUsed
    · rw [World.store_step]
      have hnow : w.store.now ≤ (c.exec w.store).now := c.now_le_exec w.store
      have hlate := hw.late
      show time ≤ (c.exec w.store).now + _
      omega

theorem bounded_init {s : Store}
    (htime : time ≤ s.now + env.config.otpLockMinutes * 60 * 1000) : Bounded env id time ⟨s, []⟩ where
  le := Nat.zero_le _
  unique := by
    rintro i j ⟨⟨e, he, -⟩, -, -⟩
    exact absurd he List.not_mem_nil
  row _ _ _ _ _ := Or.inl rfl
  used h := absurd rfl h
  late := htime

end Invariant

/-- The calls of one period, which ends at the time. -/
def protocol (env : AuthEnv) (id time : ℕ) (fault : Error → Prop) : Protocol system where
  cond i w c := Settled i w c ∧ w.store.now < time
  fault := fault
  inv := Bounded env id time
  guar := Guards env id time
  inv_step hw hc hguar _ _ := hw.step hc.1 hguar

section Threads

variable {fault : Error → Prop} {w : World Store Cmd} {i j n : ℕ} {c : Cmd} {otp : OtpCode}

/-- The command compares a code, or writes the outcome. -/
def Cmd.answers (c : Cmd) : Prop := c.comparesCode = true ∨ ∃ id, c.settles id = true

/-- The call has read the record, and has not compared a code: the next comparison is within the limit,
unless something has happened to the record. -/
structure Read (env : AuthEnv) (id time : ℕ) (otp : OtpCode) (i : ℕ) (w : World Store Cmd) : Prop where
  unanswered : ¬ w.Did i Cmd.answers
  record : record? w i = some otp
  used : otp.id = id → w.store.Used id
  within : otp.id = id → ¬ Closed time otp.lockedUntil →
    (∃ e ∈ w.since i Cmd.readsOtp, e.kind.performs (Cmd.settles id) = true) ∨
      (∃ k, Pending w id k) ∨ Within env (guesses w id) otp.attempts

theorem Read.step (h : Read env id time otp i w) (hguar : Guards env id time j w c)
    (hc : j ≠ i ∨ c.readsOtp = false ∧ ¬ Cmd.answers c) :
    Read env id time otp i (w.step system j c n) where
  unanswered := by
    rw [World.did_step]
    rintro (⟨rfl, hanswers⟩ | hdid)
    · rcases hc with hc | ⟨-, hc⟩
      · exact hc rfl
      · exact hc hanswers
    · exact h.unanswered hdid
  record := by
    rw [record?_step (hc.imp_right And.left)]
    exact h.record
  used hid := by
    rw [World.store_step]
    exact (h.used hid).exec hguar.deletesUsed
  within := by
    intro hid hopen
    rw [since_step (hc.imp_right And.left)]
    cases hsettles : c.settles id with
    | true => exact Or.inl ⟨_, List.mem_cons_self, hsettles⟩
    | false =>
      rcases h.within hid hopen with ⟨e, he, hkind⟩ | ⟨k, hk⟩ | hwithin
      · exact Or.inl ⟨e, List.mem_cons_of_mem _ he, hkind⟩
      · exact Or.inr (Or.inl ⟨k, hk.step hguar.readsFirst (Or.inr hsettles)⟩)
      · by_cases hguess : c.comparesCode = true ∧ (record? w j).map OtpCode.id = some id
        · exact Or.inr (Or.inl ⟨j, hguar.pending_step hguess.1 hguess.2⟩)
        · rw [guesses_step_of_not hguar.readsFirst hguess]
          exact Or.inr (Or.inr hwithin)

theorem stable_read : (protocol env id time fault).Stable i (Read env id time otp i) := by
  rintro w _ ⟨j, c, n, hj, -, -, -, -, -, hguar, rfl⟩ h
  exact h.step hguar (Or.inl hj)

/-- The call has compared a code with the record. -/
def Judged (env : AuthEnv) (id : ℕ) (otp : OtpCode) (i : ℕ) (w : World Store Cmd) : Prop :=
  otp.id = id → Pending w id i ∧
    (guesses w id = 1 ∨ guesses w id ≤ otp.attempts + 1 ∧ otp.attempts < env.config.otpMaxAttempts)

theorem stable_judged : (protocol env id time fault).Stable i (Judged env id otp i) := by
  rintro w _ ⟨j, c, n, hj, -, -, -, -, ⟨hsettled, -⟩, hguar, rfl⟩ h hid
  obtain ⟨hpending, hcount⟩ := h hid
  refine ⟨hpending.step hguar.readsFirst (Or.inl hj), ?_⟩
  -- nobody else compares while this comparison is open
  have hguess : ¬ (c.comparesCode = true ∧ (record? w j).map OtpCode.id = some id) := by
    rintro ⟨hc, hrecord⟩
    obtain ⟨otp', hotp', rfl⟩ := Option.map_eq_some_iff.mp hrecord
    obtain ⟨code, codeHash, rfl⟩ : ∃ code codeHash, c = .compareCode code codeHash := by
      cases c <;> first | exact ⟨_, _, rfl⟩ | cases hc
    exact not_pending_of_settled hsettled hotp' i hpending
  rwa [guesses_step_of_not hguar.readsFirst hguess]

theorem guards_date : Guards env id time i w .date := trivial

theorem Judged.date (h : Judged env id otp i w) : Judged env id otp i (w.step system i .date n) := by
  intro hid
  obtain ⟨hpending, hcount⟩ := h hid
  have hreads : ReadsFirst i w .date := readsFirst_of_not rfl
  have hguess : ¬ (Cmd.comparesCode .date = true ∧ (record? w i).map OtpCode.id = some id) :=
    fun hc => Bool.false_ne_true hc.1
  refine ⟨hpending.step hreads (Or.inr rfl), ?_⟩
  rwa [guesses_step_of_not hreads hguess]

/-- The comparison of a code that was read and is not locked. -/
theorem Read.compare (hmax : 1 ≤ env.config.otpMaxAttempts) (h : Read env id time otp i w)
    (hopen : ¬ Closed time otp.lockedUntil) {code codeHash : String}
    (hsettled : Settled i w (.compareCode code codeHash)) :
    Guards env id time i w (.compareCode code codeHash) ∧
      Judged env id otp i (w.step system i (.compareCode code codeHash) n) := by
  have hwithin : otp.id = id → Within env (guesses w id) otp.attempts := by
    rintro rfl
    rcases h.within rfl hopen with ⟨e, he, hkind⟩ | ⟨k, hk⟩ | hwithin
    · rw [(hsettled otp h.record).2 e he] at hkind
      cases hkind
    · exact absurd hk (not_pending_of_settled hsettled h.record k)
    · exact hwithin
  have hguar : Guards env id time i w (.compareCode code codeHash) := by
    intro hrecord
    rw [h.record] at hrecord
    have hid : otp.id = id := Option.some.inj hrecord
    refine ⟨?_, h.used hid, fun hdid => ?_⟩
    · rcases hwithin hid with hzero | hle
      · omega
      · omega
    · obtain ⟨e, he, htid, d, hkind, hd⟩ := hdid
      exact h.unanswered ⟨e, he, htid, d, hkind, Or.inr ⟨id, hd⟩⟩
  refine ⟨hguar, fun hid => ?_⟩
  have hrecord : (record? w i).map OtpCode.id = some id := by
    rw [h.record]
    exact congrArg some hid
  refine ⟨hguar.pending_step rfl hrecord, ?_⟩
  have hcount : guesses (w.step system i (.compareCode code codeHash) n) id = guesses w id + 1 := by
    rw [guesses_step (readsFirst_of_not rfl), hrecord, decide_eq_true rfl]
    rfl
  rcases hwithin hid with hzero | hle
  · exact Or.inl (by omega)
  · exact Or.inr (by omega)

/-- What a call knows of the record it reads. -/
theorem read_of_pendingOtp? {phone : String} (hw : ¬ w.Did i Cmd.answers) (hinv : Bounded env id time w)
    (hotp : w.store.pendingOtp? phone = some otp) :
    Read env id time otp i (w.step system i (.findPendingOtp phone) n) := by
  obtain ⟨hrow, -, hconsumed⟩ := mem_of_pendingOtp? hotp
  have hreads : ReadsFirst i w (.findPendingOtp phone) := by
    rintro - ⟨e, he, htid, d, hkind, hd⟩
    exact hw ⟨e, he, htid, d, hkind, Or.inl hd⟩
  have hcount : guesses (w.step system i (.findPendingOtp phone) n) id = guesses w id :=
    guesses_step_of_not hreads fun hc => Bool.false_ne_true hc.1
  refine ⟨?_, World.lastAnswer_step_self hotp, fun _ => ?_, fun hid hopen => Or.inr ?_⟩
  · rw [World.did_step_of_not]
    · exact hw
    · rintro (hc | ⟨_, hc⟩) <;> cases hc
  · rw [World.store_step]
    refine Store.Used.exec (Or.inl ?_) trivial
    subst id
    rw [hrow]
    rfl
  · by_cases hpending : ∃ k, Pending w id k
    · obtain ⟨k, hk⟩ := hpending
      exact Or.inl ⟨k, hk.step hreads (Or.inr rfl)⟩
    · rw [hcount]
      subst id
      exact Or.inr (hinv.row (not_exists.mp hpending) otp hrow hconsumed hopen)

theorem frame_account : (protocol env id time fault).Frame i (fun c => c.isAccount = true) fun _ => True where
  stable := Protocol.stable_const i True
  performs {c _} hc _ _ _ := by
    refine ⟨?_, fun _ _ _ => trivial⟩
    cases c <;> trivial

theorem wp_verifyOtp (hlegacy : ∀ app, useJulakai env app = false)
    (hmax : 1 ≤ env.config.otpMaxAttempts) (rawPhone code : String) (app : JulakaiApp)
    (hw : ¬ w.Did i Cmd.answers) :
    (protocol env id time fault).wp i (verifyOtp env rawPhone code app) (fun _ _ => True) w := by
  have hread : ∀ otp, (protocol env id time fault).Stable i (Read env id time otp i) :=
    fun _ => stable_read
  have hjudged : ∀ otp, (protocol env id time fault).Stable i (Judged env id otp i) :=
    fun _ => stable_judged
  refine Auth.wp_verifyOtp (fun w => ¬ w.Did i Cmd.answers) (Read env id time · i)
    (fun otp w => Read env id time otp i w ∧ ¬ Closed time otp.lockedUntil) (Judged env id · i)
    (fun otp now w => Judged env id otp i w ∧ time ≤ now + env.config.otpLockMinutes * 60 * 1000)
    (Judged env id · i) (hlegacy app) (fun _ _ => trivial) (Protocol.stable_not_did i _) hread
    (fun otp => (hread otp).and (Protocol.stable_const i _)) hjudged
    (fun otp now => (hjudged otp).and (Protocol.stable_const i _)) hjudged ?_ ?_ ?_ ?_ ?_ ?_ ?_ hw
  · intro w hw hinv _
    refine ⟨fun hdid => ?_, fun n _ _ otp hotp => read_of_pendingOtp? hw hinv hotp⟩
    obtain ⟨e, he, htid, d, hkind, hd⟩ := hdid
    exact hw ⟨e, he, htid, d, hkind, Or.inl hd⟩
  · intro otp w h _ hcond
    refine ⟨trivial, fun n _ _ hopen => ⟨h.step guards_date (Or.inr ⟨rfl, ?_⟩), ?_⟩⟩
    · rintro (hc | ⟨_, hc⟩) <;> cases hc
    · rintro ⟨lockedUntil, hlocked, hle⟩
      rw [hlocked, Option.any_some, decide_eq_false_iff_not] at hopen
      exact hopen (hcond.2.trans_le hle)
  · intro otp w ⟨h, hopen⟩ _ hcond
    exact ⟨(h.compare (n := 0) hmax hopen hcond.1).1, fun n _ _ => (h.compare hmax hopen hcond.1).2⟩
  · exact fun otp w _ h hinv _ => ⟨trivial, fun n _ _ => ⟨h.date, hinv.late⟩⟩
  · intro otp now w ⟨h, hlate⟩ _ _
    refine ⟨fun hid => ⟨(h hid).1, ?_⟩, fun _ _ _ => trivial⟩
    have hcount := (h hid).2
    split_ifs with hlock
    · exact Or.inl ⟨_, rfl, hlate⟩
    · exact Or.inr (by omega)
  · exact fun otp w _ h _ _ => ⟨trivial, fun n _ _ => h.date⟩
  · intro otp w h _ _
    refine ⟨fun hid => (h hid).1, fun n _ _ => ?_⟩
    exact frame_account.keeps (account_completeLogin env (normalizePhone rawPhone)) _

theorem wp_program (hlegacy : ∀ app, useJulakai env app = false)
    (hmax : 1 ≤ env.config.otpMaxAttempts) (call : Call) (hw : ¬ w.Did i Cmd.answers) :
    (protocol env id time fault).wp i (call.program env) (fun _ _ => True) w := by
  by_cases hverify : ∃ rawPhone code app, call = .verifyOtp rawPhone code app
  · obtain ⟨rawPhone, code, app, rfl⟩ := hverify
    apply Protocol.wp_bind
    refine Protocol.wp_mono ?_ (wp_verifyOtp hlegacy hmax rawPhone code app hw)
    rintro (e | login) w - <;> trivial
  · refine keeps_program (fun w c hc => ?_) (fun w c hc => ?_) (fun w id hid => hid)
      (fun rawPhone code app hcall => hverify ⟨rawPhone, code, app, hcall⟩) w
    · cases c <;> trivial
    · cases c <;> trivial

end Threads

/-- The steps of a run that ends before the time are before the time. -/
theorem run_before {cond : ℕ → World Store Cmd → Cmd → Prop} {fault : Error → Prop}
    {p q : Pool Store Cmd Error (Option TokenPair)} (hrun : Pool.Run system cond fault p q)
    (hnow : q.world.store.now < time) :
    Pool.Run system (fun i w c => cond i w c ∧ w.store.now < time) fault p q := by
  induction hrun with
  | refl => exact .refl
  | tail _ hstep ih =>
    cases hstep with
    | reject hi hmay he ht => exact .tail (ih hnow) (.reject hi hmay he ht)
    | @act i t c hi hmay hc hcond =>
      have hle := c.now_le_exec
      have hbefore := lt_of_le_of_lt (hle _) (by rwa [Pool.advance, World.store_step] at hnow)
      exact .tail (ih hbefore) (.act hi hmay hc ⟨hcond, hbefore⟩)

end Guessing

/-- With the codes of the program itself, within the minutes of a lock at most `OTP_MAX_ATTEMPTS` codes
are compared with a record, in every run in which the outcome of every other comparison with the record
was written before the call that compares has read it. -/
theorem guesses_le (env : AuthEnv) (hlegacy : ∀ app, useJulakai env app = false)
    (hmax : 1 ≤ env.config.otpMaxAttempts) (fault : Error → Prop) (s : Store) (calls : List Call)
    {q : Pool Store Cmd Error (Option TokenPair)}
    (hrun : Pool.Run system Settled fault (start env s calls) q)
    (hnow : q.world.store.now < s.now + env.config.otpLockMinutes * 60 * 1000) (id : ℕ) :
    guesses q.world id ≤ env.config.otpMaxAttempts := by
  have hsafe := safe_of_run
    (P := Guessing.protocol env id (s.now + env.config.otpLockMinutes * 60 * 1000) fault)
    (fun i _ => Protocol.stable_const i True) (Guessing.bounded_init le_rfl)
    (fun i call _ => Guessing.wp_program hlegacy hmax call fun hdid => ?_)
    (Guessing.run_before hrun hnow)
  · exact hsafe.inv.le
  · obtain ⟨e, he, -⟩ := hdid
    exact absurd he List.not_mem_nil

/-! ### Runs -/

namespace Guessing

/-- Four wrong codes. -/
def guessing : List Call :=
  ["0000", "1111", "2222", "3333"].map fun code => .verifyOtp "70000001" code .client

/-- One call after another; the record is locked when the last one reads it. -/
def oneByOne : List ℕ := [0, 0, 0, 0, 0, 1, 1, 1, 1, 1, 2, 2, 2, 2, 2, 3, 3]

/-- Every call reads the record before any of them writes it. -/
def together : List ℕ := [0, 0, 1, 1, 2, 2, 3, 3, 0, 0, 0, 1, 1, 1, 2, 2, 2, 3, 3, 3]

end Guessing

open Town Guessing in
theorem guesses_le_one_by_one :
    ∃ q : Pool Store Cmd Error (Option TokenPair), guesses q.world 1 = 3 ∧ guesses q.world 1 ≤ env.config.otpMaxAttempts := by
  obtain ⟨q, hrun, hcount, hnow⟩ := Pool.exists_run_of_schedule? system Settled (fun _ => False)
    (start env coded guessing) oneByOne
    (fun q => guesses q.world 1 = 3 ∧ q.world.store.now < 30 * 60 * 1000) (by decide +kernel)
  refine ⟨q, hcount, ?_⟩
  exact guesses_le env (fun _ => rfl) (by decide) _ coded guessing hrun
    (by show q.world.store.now < 0 + 30 * 60 * 1000; omega) 1

open Town Guessing in
/-- Four codes are compared with the record. -/
theorem guesses_four :
    ∃ q, Pool.Run system (fun _ _ _ => True) (fun _ => False) (start env coded guessing) q ∧
      q.world.store.now < coded.now + env.config.otpLockMinutes * 60 * 1000 ∧
      env.config.otpMaxAttempts < guesses q.world 1 :=
  Pool.exists_run_of_schedule? system (fun _ _ _ => True) (fun _ => False)
    (start env coded guessing) together
    (fun q => q.world.store.now < coded.now + env.config.otpLockMinutes * 60 * 1000 ∧
      env.config.otpMaxAttempts < guesses q.world 1) (by decide +kernel)

end Telima.Auth
