import Telima.Auth.Runs

/-!
# One-time codes

What a command does to a row of `otp_codes` (`Cmd.rowStep`), and which rows there are and were.
-/

namespace Telima.Auth

open AuthService

/-- The codes of a phone that are not consumed. -/
def Store.pendingOtps (s : Store) (phone : String) : List OtpCode :=
  s.otpCodes.findMany fun otp => decide (otp.phone = phone) && otp.consumedAt.isNone

/-- The code `verifyOtp` looks at. -/
def Store.pendingOtp? (s : Store) (phone : String) : Option OtpCode := lastOtp (s.pendingOtps phone)

/-- The code a request generates. -/
def newCode (env : AuthEnv) (s : Store) : String :=
  toString (env.randomInt (10 ^ (env.config.otpLength - 1)) (10 ^ env.config.otpLength - 1 + 1) s)

/-- The command looks a code up that is not consumed. -/
def Cmd.readsOtp : Cmd → Bool
  | .findPendingOtp _ => true
  | _ => false

/-- The code is compared with the hash of a code. -/
def Cmd.comparesCode : Cmd → Bool
  | .compareCode .. => true
  | _ => false

/-- The last of some codes was created last. -/
theorem exists_lastOtp {otps : List OtpCode} {otp : OtpCode} (h : otp ∈ otps) :
    ∃ last, lastOtp otps = some last ∧ otp.createdAt ≤ last.createdAt := by
  have hpairwise : (otps.insertionSort fun a b => b.createdAt ≤ a.createdAt).Pairwise
      fun a b => b.createdAt ≤ a.createdAt := by
    have : Std.Total fun a b : OtpCode => b.createdAt ≤ a.createdAt :=
      ⟨fun a b => Nat.le_total b.createdAt a.createdAt⟩
    have : IsTrans OtpCode fun a b => b.createdAt ≤ a.createdAt := ⟨fun _ _ _ h h' => h'.trans h⟩
    exact List.pairwise_insertionSort _ otps
  have hmem : otp ∈ otps.insertionSort fun a b => b.createdAt ≤ a.createdAt :=
    (List.mem_insertionSort _).mpr h
  unfold lastOtp
  cases hsort : otps.insertionSort fun a b => b.createdAt ≤ a.createdAt with
  | nil =>
    rw [hsort] at hmem
    cases hmem
  | cons last rest =>
    rw [hsort] at hmem hpairwise
    refine ⟨last, rfl, ?_⟩
    rcases List.mem_cons.mp hmem with rfl | hrest
    · exact le_rfl
    · exact (List.pairwise_cons.mp hpairwise).1 otp hrest

section Commands

variable {s : Store} {c : Cmd} {phone : String} {id : ℕ} {row : OtpCode}

theorem Cmd.otpCodes_exec (h : c.leavesOtps = true) : (c.exec s).otpCodes = s.otpCodes := by
  cases c <;> first | rfl | cases h

theorem Cmd.now_le_exec (c : Cmd) (s : Store) : s.now ≤ (c.exec s).now := by
  cases c with
  | tick ms => exact Nat.le_add_right s.now ms
  | _ => exact Nat.le_refl s.now

theorem mem_of_pendingOtp? (h : s.pendingOtp? phone = some row) :
    s.otpCodes.find? row.id = some row ∧ row.phone = phone ∧ row.consumedAt = none := by
  have hmem : row ∈ s.pendingOtps phone := by
    refine (List.perm_insertionSort (fun a b : OtpCode => b.createdAt ≤ a.createdAt) _).mem_iff.mp ?_
    exact List.mem_of_mem_head? h
  obtain ⟨hrow, hp⟩ := List.mem_filter.mp hmem
  rw [Bool.and_eq_true, Option.isNone_iff_eq_none] at hp
  exact ⟨Table.find?_of_mem hrow, of_decide_eq_true hp.1, hp.2⟩

/-! ### Ids -/

theorem find?_newOtpId (s : Store) : s.otpCodes.find? s.newOtpId = none := by
  refine Table.find?_eq_none_iff.mpr fun r hr => ?_
  have hlt : r.id < s.otpCodes.freshKey := Table.key_lt_freshKey hr
  have hle : s.otpCodes.freshKey ≤ s.newOtpId := Nat.le_max_left _ _
  omega

theorem Store.lastOtpId_lt_newOtpId (s : Store) : s.lastOtpId < s.newOtpId := Nat.le_max_right _ _

/-- A row has the id, or had it. -/
def Store.Used (s : Store) (id : ℕ) : Prop :=
  (s.otpCodes.find? id).isSome = true ∨ id ≤ s.lastOtpId

/-- A row that is deleted was created by `requestOtp`. -/
def Cmd.deletesUsed (s : Store) : Cmd → Prop
  | .deleteOtp otpId => otpId ≤ s.lastOtpId
  | _ => True

theorem Store.Used.ne_newOtpId (h : s.Used id) : id ≠ s.newOtpId := by
  rintro rfl
  rcases h with h | h
  · rw [find?_newOtpId] at h
    cases h
  · exact absurd s.lastOtpId_lt_newOtpId (by omega)

theorem Cmd.lastOtpId_le_exec (c : Cmd) (s : Store) : s.lastOtpId ≤ (c.exec s).lastOtpId := by
  cases c with
  | createOtp => exact s.lastOtpId_lt_newOtpId.le
  | _ => exact Nat.le_refl s.lastOtpId

/-! ### One row -/

/-- The row a command writes. -/
def Cmd.otpId? : Cmd → Option ℕ
  | .attemptOtp otpId _ _ | .consumeOtp otpId | .otpSent otpId _ | .deleteOtp otpId => some otpId
  | _ => none

/-- The row with the id after a command. -/
inductive RowStep (c : Cmd) (s : Store) (id : ℕ) : Prop
  | kept (hc : c.otpId? ≠ some id) (h : (c.exec s).otpCodes.find? id = s.otpCodes.find? id)
  | attempted {attempts : ℕ} {lockedUntil : Option ℕ} (hc : c = .attemptOtp id attempts lockedUntil)
      (h : (c.exec s).otpCodes.find? id =
        (s.otpCodes.find? id).map (OtpCode.attempt attempts lockedUntil))
  | consumed (hc : c = .consumeOtp id)
      (h : (c.exec s).otpCodes.find? id = (s.otpCodes.find? id).map (OtpCode.consume s.now))
  | sent {messageId : String} (hc : c = .otpSent id messageId)
      (h : (c.exec s).otpCodes.find? id = (s.otpCodes.find? id).map (OtpCode.sent messageId))
  | deleted (hc : c = .deleteOtp id) (h : (c.exec s).otpCodes.find? id = none)
  | created {phone codeHash : String} {expiresAt : ℕ} {userId : Option ℕ}
      (hc : c = .createOtp phone codeHash expiresAt userId) (hid : s.newOtpId = id)
      (h : (c.exec s).otpCodes.find? id =
        some { id, phone, codeHash, userId, expiresAt, createdAt := s.now })

theorem Cmd.rowStep (c : Cmd) (s : Store) (id : ℕ) : RowStep c s id := by
  cases c with
  | attemptOtp otpId attempts lockedUntil =>
    by_cases hid : otpId = id
    · subst hid
      exact .attempted rfl (Table.find?_update_self _ (OtpCode.id_attempt attempts lockedUntil))
    · refine .kept (fun h => hid (Option.some.inj h)) ?_
      exact Table.find?_update_of_ne (Ne.symm hid) _ (OtpCode.id_attempt attempts lockedUntil)
  | consumeOtp otpId =>
    by_cases hid : otpId = id
    · subst hid
      exact .consumed rfl (Table.find?_update_self _ (OtpCode.id_consume s.now))
    · refine .kept (fun h => hid (Option.some.inj h)) ?_
      exact Table.find?_update_of_ne (Ne.symm hid) _ (OtpCode.id_consume s.now)
  | otpSent otpId messageId =>
    by_cases hid : otpId = id
    · subst hid
      exact .sent rfl (Table.find?_update_self _ (OtpCode.id_sent messageId))
    · refine .kept (fun h => hid (Option.some.inj h)) ?_
      exact Table.find?_update_of_ne (Ne.symm hid) _ (OtpCode.id_sent messageId)
  | deleteOtp otpId =>
    have hexec : ((Cmd.deleteOtp otpId).exec s).otpCodes.find? id =
      if id = otpId then none else s.otpCodes.find? id := Table.find?_delete
    by_cases hid : otpId = id
    · subst hid
      exact .deleted rfl (hexec.trans (if_pos rfl))
    · exact .kept (fun h => hid (Option.some.inj h)) (hexec.trans (if_neg (Ne.symm hid)))
  | createOtp phone codeHash expiresAt userId =>
    by_cases hid : s.newOtpId = id
    · subst hid
      exact .created rfl rfl (Table.find?_insert_self (find?_newOtpId s))
    · refine .kept (fun h => by cases h) ?_
      show (s.otpCodes.insert _).find? id = _
      rw [Table.find?_insert, if_neg hid, Option.or_none]
  | _ => exact .kept (fun h => by cases h) rfl

theorem Store.Used.exec (h : s.Used id) (hc : c.deletesUsed s) : (c.exec s).Used id := by
  rcases h with h | h
  · cases c.rowStep s id with
    | kept _ hrow => exact Or.inl (by rw [hrow, h])
    | attempted _ hrow | consumed _ hrow | sent _ hrow =>
      exact Or.inl (by rw [hrow, Option.isSome_map, h])
    | deleted hdelete _ =>
      subst hdelete
      exact Or.inr hc
    | created _ hid _ =>
      rw [← hid, find?_newOtpId] at h
      cases h
  · exact Or.inr (h.trans (c.lastOtpId_le_exec s))

/-- A code that is not consumed was not consumed before, or is new. -/
theorem Cmd.unconsumed_exec (h : (c.exec s).otpCodes.find? id = some row)
    (hrow : row.consumedAt = none) :
    id = s.newOtpId ∨
      c ≠ .consumeOtp id ∧ ∃ row', s.otpCodes.find? id = some row' ∧ row'.consumedAt = none := by
  have hmap : ∀ f : OtpCode → OtpCode, (∀ otp, (f otp).consumedAt = otp.consumedAt) →
      (s.otpCodes.find? id).map f = some row →
        ∃ row', s.otpCodes.find? id = some row' ∧ row'.consumedAt = none := by
    intro f hf hsome
    obtain ⟨row', hrow', rfl⟩ := Option.map_eq_some_iff.mp hsome
    rw [hf] at hrow
    exact ⟨row', hrow', hrow⟩
  cases c.rowStep s id with
  | kept hc hkept =>
    rw [hkept] at h
    refine Or.inr ⟨?_, row, h, hrow⟩
    rintro rfl
    exact hc rfl
  | @attempted attempts lockedUntil hc hattempt =>
    rw [hattempt] at h
    exact Or.inr ⟨by simp [hc], hmap (OtpCode.attempt attempts lockedUntil) (fun _ => rfl) h⟩
  | @sent messageId hc hsent =>
    rw [hsent] at h
    exact Or.inr ⟨by simp [hc], hmap (OtpCode.sent messageId) (fun _ => rfl) h⟩
  | consumed hc hconsumed =>
    rw [hconsumed] at h
    obtain ⟨row', -, rfl⟩ := Option.map_eq_some_iff.mp h
    cases hrow
  | deleted hc hdeleted =>
    rw [hdeleted] at h
    cases h
  | created hc hid hcreated => exact Or.inl hid.symm

end Commands

/-- The code of user 1 is 1000. -/
def Town.coded : Store where
  users := .single { id := 1, phone := "+22370000001" }
  otpCodes :=
    .single { id := 1, phone := "+22370000001", codeHash := "1000", expiresAt := 1000
              createdAt := 0 }

end Telima.Auth
