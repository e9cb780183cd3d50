import Telima.Auth.Admin
import Telima.Auth.Footprints
import Telima.Auth.Phones
import Telima.Async.RelyGuarantee

/-!
# One account for each number

A login creates a user with the normal form of his phone, and looks users up by it; `phone` is unique as
a text.  An administrator writes phones as they are given.  As long as they are given with `+223` and
eight digits, all phones are in normal form, so that no two users have the same number and every user is
found by his (`one_account_per_number`).
-/

namespace Telima.Auth.Admin

open AuthService

/-- All phones are in normal form, and no two of them have the same. -/
structure OneAccount (users : Table ℕ User User.id) : Prop where
  normal : ∀ user ∈ users.rows, normalizePhone user.phone = user.phone
  unique : ∀ user ∈ users.rows, ∀ user' ∈ users.rows,
    normalizePhone user.phone = normalizePhone user'.phone → user = user'

instance decidableOneAccount (users : Table ℕ User User.id) : Decidable (OneAccount users) :=
  decidable_of_iff ((∀ user ∈ users.rows, normalizePhone user.phone = user.phone) ∧
      ∀ user ∈ users.rows, ∀ user' ∈ users.rows,
        normalizePhone user.phone = normalizePhone user'.phone → user = user')
    ⟨fun h => ⟨h.1, h.2⟩, fun h => ⟨h.normal, h.unique⟩⟩

/-- A login with the phone goes on with the user. -/
def FoundAs (env : AuthEnv) (s : Auth.Store) (rawPhone : String) (user : User) : Prop :=
  (completeLogin env (normalizePhone rawPhone)).resume s =
    loginUser env user (isBlank user.firstName || isBlank user.lastName)

/-- An administrator has created the user. -/
def Created (w : World Store Cmd) (user : User) : Prop :=
  ∃ e ∈ w.trace, ∃ data : NewUser, e.kind = .did (.createUser data) ∧ data.answer e.before = .ok user

/-- The user is there, with the phone or one that a call has given him since. -/
def Reachable (calls : List Call) (users : Table ℕ User User.id) (userId : ℕ) (phone : String) :
    Prop :=
  ∃ user, users.find? userId = some user ∧ (user.phone = phone ∨
    ∃ dto : UpdateUserDto, .auth (.updateUser userId dto) ∈ calls ∧ dto.phone = some user.phone)

/-- The phone that is given, if one is, is `+223` and eight digits. -/
def Call.givesE164 (call : Call) : Bool := call.givenPhone?.all isE164

/-! ### What a command does to the users -/

/-- Phones are written in normal form, and a user is given those of the calls. -/
def Cmd.Given (calls : List Call) : Cmd → Prop
  | auth (.createUser phone) => normalizePhone phone = phone
  | auth (.updateUser userId data) => ∀ phone, data.phone = some phone →
    normalizePhone phone = phone ∧
      ∃ dto : UpdateUserDto, .auth (.updateUser userId dto) ∈ calls ∧ dto.phone = some phone
  | createUser data => normalizePhone data.phone = data.phone
  | _ => True

/-- A user is added, or is changed. -/
inductive UsersStep (calls : List Call) (users : Table ℕ User User.id) :
    Table ℕ User User.id → Prop
  | same : UsersStep calls users users
  | added (user : User) (hid : user.id = users.freshKey)
      (hnormal : normalizePhone user.phone = user.phone)
      (hfree : ∀ user' ∈ users.rows, user'.phone ≠ user.phone) :
      UsersStep calls users (users.insert user)
  | changed (userId : ℕ) (data : UserData)
      (hfree : ∀ phone, data.phone = some phone → ∀ user ∈ users.rows, user.id ≠ userId →
        user.phone ≠ phone)
      (hgiven : (Cmd.auth (.updateUser userId data)).Given calls) :
      UsersStep calls users (users.update userId data.apply data.id_apply)

section Steps

variable {calls : List Call} {users users' : Table ℕ User User.id} {c : Cmd} {s : Store}

theorem free_of_not_any {phone : String}
    (h : ¬ (users.rows.any fun user => decide (user.phone = phone)) = true) :
    ∀ user ∈ users.rows, user.phone ≠ phone := by
  intro user huser hphone
  exact h (List.any_eq_true.mpr ⟨user, huser, decide_eq_true hphone⟩)

theorem free_of_not_conflicts {s : Auth.Store} {userId : ℕ} {data : UserData}
    (h : ¬ data.conflicts s userId = true) : ∀ phone, data.phone = some phone →
      ∀ user ∈ s.users.rows, user.id ≠ userId → user.phone ≠ phone := by
  intro phone hphone user huser hid heq
  refine h ?_
  rw [UserData.conflicts, hphone, Option.any_some, List.any_eq_true]
  exact ⟨user, huser, by simp [hid, heq]⟩

theorem answer_cases (data : NewUser) (s : Store) : data.answer s = .error .uniqueConstraint ∨
    data.answer s = .ok (data.row s.auth.users.freshKey) ∧
      ∀ user ∈ s.auth.users.rows, user.phone ≠ data.phone := by
  unfold NewUser.answer
  split_ifs with htaken
  · exact Or.inl rfl
  · exact Or.inr ⟨rfl, free_of_not_any htaken⟩

theorem Cmd.usersStep (hc : c.Given calls) :
    UsersStep calls s.auth.users (c.exec s).auth.users := by
  cases c with
  | auth c =>
    cases c with
    | createUser phone =>
      show UsersStep calls s.auth.users (if _ then _ else _)
      split_ifs with htaken
      · exact .same
      · exact .added { id := s.auth.users.freshKey, phone } rfl hc (free_of_not_any htaken)
    | updateUser userId data =>
      show UsersStep calls s.auth.users (if _ then _ else _)
      split_ifs with hconflicts
      · exact .same
      · exact .changed userId data (free_of_not_conflicts hconflicts) hc
    | _ => exact .same
  | createUser data =>
    show UsersStep calls s.auth.users (addUser s.auth.users (data.answer s))
    rcases answer_cases data s with htaken | ⟨hnew, hfree⟩
    · rw [htaken]
      exact .same
    · rw [hnew]
      exact .added (data.row s.auth.users.freshKey) rfl hc hfree
  | createDriver userId => exact .same

/-- The rows after an update. -/
theorem mem_update {userId : ℕ} {data : UserData} {user : User}
    (h : user ∈ (users.update userId data.apply data.id_apply).rows) :
    ∃ old ∈ users.rows, (old.id = userId ∧ user = data.apply old) ∨ (old.id ≠ userId ∧ user = old) := by
  obtain ⟨old, hold, rfl⟩ := List.mem_map.mp h
  refine ⟨old, hold, ?_⟩
  by_cases hid : old.id = userId
  · exact Or.inl ⟨hid, by simp [hid]⟩
  · exact Or.inr ⟨hid, by simp [hid]⟩

theorem phone_apply (data : UserData) (user : User) :
    (data.apply user).phone = user.phone ∨ data.phone = some (data.apply user).phone := by
  show data.phone.getD user.phone = _ ∨ data.phone = some (data.phone.getD user.phone)
  cases data.phone with
  | none => exact Or.inl rfl
  | some phone => exact Or.inr rfl

/-- Phones in normal form that are different have different normal forms. -/
theorem OneAccount.of_phones (hnormal : ∀ user ∈ users.rows, normalizePhone user.phone = user.phone)
    (hunique : ∀ user ∈ users.rows, ∀ user' ∈ users.rows, user.phone = user'.phone → user = user') :
    OneAccount users := by
  refine ⟨hnormal, fun user huser user' huser' hsame => ?_⟩
  rw [hnormal user huser, hnormal user' huser'] at hsame
  exact hunique user huser user' huser' hsame

theorem OneAccount.eq_of_phone (h : OneAccount users) {user user' : User} (huser : user ∈ users.rows)
    (huser' : user' ∈ users.rows) (hphone : user.phone = user'.phone) : user = user' :=
  h.unique user huser user' huser' (by rw [hphone])

theorem OneAccount.insert (h : OneAccount users) {user : User}
    (hnormal : normalizePhone user.phone = user.phone)
    (hfree : ∀ user' ∈ users.rows, user'.phone ≠ user.phone) : OneAccount (users.insert user) := by
  apply OneAccount.of_phones
  · intro row hrow
    rcases Table.mem_insert hrow with hold | rfl
    · exact h.normal row hold
    · exact hnormal
  · intro row hrow row' hrow' hphone
    rcases Table.mem_insert hrow with hold | rfl
    · rcases Table.mem_insert hrow' with hold' | rfl
      · exact h.eq_of_phone hold hold' hphone
      · exact absurd hphone (hfree row hold)
    · rcases Table.mem_insert hrow' with hold' | rfl
      · exact absurd hphone.symm (hfree row' hold')
      · rfl

theorem OneAccount.update (h : OneAccount users) {userId : ℕ} {data : UserData}
    (hfree : ∀ phone, data.phone = some phone → ∀ user ∈ users.rows, user.id ≠ userId →
      user.phone ≠ phone)
    (hnormal : ∀ phone, data.phone = some phone → normalizePhone phone = phone) :
    OneAccount (users.update userId data.apply data.id_apply) := by
  -- the changed row has its phone or the given one, which no other row has
  have hother : ∀ old ∈ users.rows, ∀ old' ∈ users.rows, old.id = userId → old'.id ≠ userId →
      (data.apply old).phone ≠ old'.phone := by
    intro old hold old' hold' hid hid' hphone
    rcases phone_apply data old with hsame | hgiven
    · rw [hsame] at hphone
      exact hid' (h.eq_of_phone hold hold' hphone ▸ hid)
    · exact hfree _ hgiven old' hold' hid' hphone.symm
  apply OneAccount.of_phones
  · intro user huser
    obtain ⟨old, hold, ⟨-, rfl⟩ | ⟨-, rfl⟩⟩ := mem_update huser
    · rcases phone_apply data old with hsame | hgiven
      · rw [hsame]
        exact h.normal old hold
      · exact hnormal _ hgiven
    · exact h.normal user hold
  · intro user huser user' huser' hphone
    obtain ⟨old, hold, ⟨hid, rfl⟩ | ⟨hid, rfl⟩⟩ := mem_update huser
    · obtain ⟨old', hold', ⟨hid', rfl⟩ | ⟨hid', rfl⟩⟩ := mem_update huser'
      · rw [Table.eq_of_mem_of_key_eq hold hold' (hid.trans hid'.symm)]
      · exact absurd hphone (hother old hold user' hold' hid hid')
    · obtain ⟨old', hold', ⟨hid', rfl⟩ | ⟨-, rfl⟩⟩ := mem_update huser'
      · exact absurd hphone.symm (hother old' hold' user hold hid' hid)
      · exact h.eq_of_phone hold hold' hphone

theorem OneAccount.step (h : OneAccount users) (hstep : UsersStep calls users users') :
    OneAccount users' := by
  cases hstep with
  | same => exact h
  | added user hid hnormal hfree => exact h.insert hnormal hfree
  | changed userId data hfree hgiven =>
    exact h.update hfree fun phone hphone => (hgiven phone hphone).1

theorem Reachable.step {userId : ℕ} {phone : String} (h : Reachable calls users userId phone)
    (hstep : UsersStep calls users users') : Reachable calls users' userId phone := by
  obtain ⟨user, hfind, hphone⟩ := h
  cases hstep with
  | same => exact ⟨user, hfind, hphone⟩
  | added new hid hnormal hfree =>
    refine ⟨user, ?_, hphone⟩
    rw [Table.find?_insert, hfind, Option.some_or]
  | changed changedId data hfree hgiven =>
    by_cases hid : userId = changedId
    · subst hid
      refine ⟨data.apply user, by rw [Table.find?_update_self, hfind]; rfl, ?_⟩
      rcases phone_apply data user with hsame | hnew
      · rw [hsame]
        exact hphone
      · exact Or.inr (hgiven _ hnew).2
    · exact ⟨user, by rw [Table.find?_update_of_ne hid, hfind], hphone⟩

/-- A user is found by every way of writing his phone. -/
theorem OneAccount.foundAs (h : OneAccount s.auth.users) (env : AuthEnv) {user : User}
    (huser : user ∈ s.auth.users.rows) {rawPhone : String}
    (hsame : normalizePhone rawPhone = normalizePhone user.phone) :
    FoundAs env s.auth rawPhone user := by
  have hfind : s.auth.users.findFirst (fun u => decide (u.phone = normalizePhone rawPhone)) =
      some user := by
    cases hfound : s.auth.users.findFirst fun u => decide (u.phone = normalizePhone rawPhone) with
    | none =>
      have hnot := List.find?_eq_none.mp hfound user huser
      rw [hsame, h.normal user huser] at hnot
      exact absurd (decide_eq_true rfl) hnot
    | some found =>
      have hphone : found.phone = normalizePhone rawPhone :=
        of_decide_eq_true (Table.find?_of_findFirst hfound).2
      have hmem : found ∈ s.auth.users.rows := List.mem_of_find?_eq_some hfound
      rw [hsame, h.normal user huser] at hphone
      rw [h.eq_of_phone hmem huser hphone]
  rw [FoundAs, completeLogin, findUserByPhone, Async.bind_eq, Async.resume_query_bind, hfind]

end Steps

/-! ### What the calls write -/

section Programs

variable {calls : List Call} (env : AuthEnv)

theorem given_completeLogin (rawPhone : String) : (completeLogin env (normalizePhone rawPhone)).Only
    fun c => (Cmd.auth c).Given calls := by
  refine only_completeLogin env _ (fun c hc => ?_) trivial (normalizePhone_idem rawPhone)
  cases c <;> trivial

/-- The calls that an administrator's phones have no part in write the normal form. -/
theorem given_auth {call : Auth.Call} (h : ∀ userId dto, call ≠ .updateUser userId dto) :
    (call.program env).Only fun c => (Cmd.auth c).Given calls := by
  have hissues : ∀ c : Auth.Cmd, c.issues = true → (Cmd.auth c).Given calls := by
    intro c hc
    cases c <;> trivial
  cases call with
  | requestOtp rawPhone app =>
    refine ((requests_requestOtp env rawPhone app).mono fun c hc => ?_).bind fun _ => trivial
    rcases hc with hc | ⟨id, rfl⟩
    · cases c <;> trivial
    · trivial
  | verifyOtp rawPhone code app =>
    refine Async.Only.bind (only_verifyOtp env rawPhone code app (fun c hc => ?_) ?_) fun _ => trivial
    · cases c <;> trivial
    · exact given_completeLogin env rawPhone
  | adminLogin email password =>
    refine Async.Only.bind ?_ fun _ => trivial
    exact only_adminLogin env email password (fun c hc => hissues c (Cmd.issues_of_first hc)) trivial
      fun _ => trivial
  | refresh token =>
    refine Async.Only.bind ?_ fun _ => trivial
    exact only_refresh env token hissues trivial trivial (fun _ => trivial) fun _ => trivial
  | logout userId token =>
    refine Async.Only.bind ?_ fun _ => trivial
    exact Async.only_read_bind.mpr ⟨trivial, fun _ => Async.only_perform.mpr trivial⟩
  | updateUser userId dto => exact absurd rfl (h userId dto)
  | wait ms => exact Async.Only.bind (Async.only_perform.mpr trivial) fun _ => trivial

theorem given_updateUser {userId : ℕ} {dto : UpdateUserDto}
    (hcall : .auth (.updateUser userId dto) ∈ calls) (hgives : dto.phone.all isE164 = true) :
    (Auth.AdminUsersTripsController.updateUser env userId dto).Only
      fun c => (Cmd.auth c).Given calls := by
  refine only_updateUser env userId dto (fun _ => trivial) fun data hdata phone hphone => ?_
  rw [hdata] at hphone
  rw [hphone, Option.all_some] at hgives
  exact ⟨normalizePhone_of_isE164 hgives, dto, hcall, hphone⟩

theorem given_createUser {dto : CreateUserDto} (hgives : isE164 dto.phone = true) :
    (AdminUsersTripsController.createUser env dto).Only (Cmd.Given calls) := by
  have hhash : (Auth.AdminUsersTripsController.hashPassword env dto.password).Only
      fun c => (Cmd.auth c).Given calls := by
    unfold Auth.AdminUsersTripsController.hashPassword
    split
    · split_ifs
      · trivial
      · exact Async.only_query.mpr trivial
    · trivial
  refine Async.Only.bind (hhash.embed fun _ hc => hc) fun passwordHash => ?_
  refine Async.Only.bind (Async.only_queryE.mpr (normalizePhone_of_isE164 hgives)) fun user => ?_
  split_ifs
  · exact Async.Only.bind (Async.only_queryE.mpr trivial) fun _ => trivial
  · trivial

theorem given_program {call : Call} (hcall : call ∈ calls) (hgives : call.givesE164 = true) :
    (call.program env).Only (Cmd.Given calls) := by
  cases call with
  | createUser dto => exact (given_createUser env hgives).bind fun _ => trivial
  | auth call =>
    have hauth : (call.program env).Only fun c => (Cmd.auth c).Given calls := by
      by_cases hupdate : ∃ userId dto, call = .updateUser userId dto
      · obtain ⟨userId, dto, rfl⟩ := hupdate
        exact (given_updateUser env hcall hgives).bind fun _ => trivial
      · exact given_auth env fun userId dto heq => hupdate ⟨userId, dto, heq⟩
    exact (hauth.embed fun _ hc => hc).bind fun _ => trivial

end Programs

/-! ### Runs -/

/-- What holds of the users at every moment. -/
structure Kept (calls : List Call) (w : World Store Cmd) : Prop where
  oneAccount : OneAccount w.store.auth.users
  reachable : ∀ user, Created w user → Reachable calls w.store.auth.users user.id user.phone

theorem Kept.step {calls : List Call} {w : World Store Cmd} {i n : ℕ} {c : Cmd} (h : Kept calls w)
    (hc : c.Given calls) : Kept calls (w.step system i c n) := by
  have hstep : UsersStep calls w.store.auth.users (w.step system i c n).store.auth.users := by
    rw [World.store_step]
    exact Cmd.usersStep hc
  refine ⟨h.oneAccount.step hstep, ?_⟩
  rintro user ⟨e, he, data, hkind, hanswer⟩
  rw [World.step_of_no_handlers rfl] at he
  rcases List.mem_cons.mp he with rfl | he
  · -- the user who is created in this step
    obtain rfl := EventKind.did.inj hkind
    have hanswer : data.answer w.store = .ok user := hanswer
    have husers : (w.step system i (.createUser data) n).store.auth.users =
        w.store.auth.users.insert user := by
      rw [World.store_step]
      show addUser w.store.auth.users (data.answer w.store) = _
      rw [hanswer]
      rfl
    have hid : user.id = w.store.auth.users.freshKey := by
      rcases answer_cases data w.store with htaken | ⟨hnew, -⟩
      · rw [htaken] at hanswer
        cases hanswer
      · rw [hnew] at hanswer
        obtain rfl := Except.ok.inj hanswer
        rfl
    refine ⟨user, ?_, Or.inl rfl⟩
    rw [husers, Table.find?_insert_self]
    rw [hid, Table.find?_freshKey]
  · exact (h.reachable user ⟨e, he, data, hkind, hanswer⟩).step hstep

/-- Each call writes what it was given. -/
def protocol (calls : List Call) (fault : Error → Prop) : Protocol system where
  cond _ _ _ := True
  fault := fault
  inv := Kept calls
  guar _ _ c := c.Given calls
  inv_step hw _ hc _ _ := hw.step hc

theorem frame_given {calls : List Call} {fault : Error → Prop} {i : ℕ} :
    (protocol calls fault).Frame i (Cmd.Given calls) fun _ => True where
  stable := Protocol.stable_const i True
  performs hc _ _ _ := ⟨hc, fun _ _ _ => trivial⟩

/-- If every phone an administrator gives is `+223` and eight digits, then at every moment of a run all
phones are in normal form and no two users have the same, each user is found by whoever writes his phone
in any way, and a user whom an administrator has created is there, with his phone or one that he was given
since. -/
theorem one_account_per_number (env : AuthEnv) (fault : Error → Prop) {s : Store}
    (hs : OneAccount s.auth.users) {calls : List Call}
    (hcalls : ∀ call ∈ calls, call.givesE164 = true) {q : Pool Store Cmd Error (Option User)}
    (hrun : Pool.Run system (fun _ _ _ => True) fault (start env s calls) q) :
    OneAccount q.world.store.auth.users ∧
    (∀ user ∈ q.world.store.auth.users.rows, ∀ rawPhone : String,
      normalizePhone rawPhone = normalizePhone user.phone →
        FoundAs env q.world.store.auth rawPhone user) ∧
    ∀ user, Created q.world user →
      Reachable calls q.world.store.auth.users user.id user.phone := by
  have hstart : (protocol calls fault).Safe (fun _ _ _ => True) (start env s calls) := by
    refine Protocol.safe_init ⟨hs, ?_⟩ fun i t ht => ?_
    · rintro user ⟨e, he, -⟩
      exact absurd he List.not_mem_nil
    · obtain ⟨call, hcall, rfl⟩ := List.mem_map.mp (List.mem_of_getElem? ht)
      exact frame_given.keeps (given_program env hcall (hcalls call hcall)) _
  have hkept : Kept calls q.world :=
    (hstart.run (fun i _ => Protocol.stable_const i True) (fun _ _ _ hh => by simp at hh) hrun).inv
  exact ⟨hkept.oneAccount, fun user huser rawPhone => hkept.oneAccount.foundAs env huser,
    hkept.reachable⟩

namespace Desk

/-- User 1 of the small town. -/
def store : Store where
  auth := Auth.Town.store

/-- An administrator creates a user with the phone, who then logs in with it. -/
def newcomer (phone : String) : List Call :=
  [.createUser { firstName := "Awa", lastName := "Diallo", phone, role := .client },
    .auth (.requestOtp phone .client), .auth (.verifyOtp phone "1000" .client)]

end Desk

open Desk in
/-- A user who is created with `+223` and eight digits is the one who logs in. -/
theorem one_account_per_number_newcomer : ∃ q, Pool.Run system (fun _ _ _ => True) (fun _ => False)
    (start Auth.Town.env store (newcomer "+22370000002")) q ∧
      OneAccount q.world.store.auth.users ∧ q.world.store.auth.users.rows.length = 2 ∧ q.Finished := by
  obtain ⟨q, hrun, hlength, hfinished⟩ := Pool.exists_run_of_schedule? system (fun _ _ _ => True)
    (fun _ => False) (start Auth.Town.env store (newcomer "+22370000002"))
    (List.replicate 1 0 ++ List.replicate 8 1 ++ List.replicate 10 2)
    (fun q => q.world.store.auth.users.rows.length = 2 ∧ q.Finished) (by decide +kernel)
  have hkept := one_account_per_number Auth.Town.env _ (by decide +kernel) (by decide +kernel) hrun
  exact ⟨q, hrun, hkept.1, hlength, hfinished⟩

open Desk in
/-- A user who is created with the eight digits alone gets a second account when he logs in. -/
theorem second_account : OneAccount store.auth.users ∧ isValidMaliPhone "70000002" = true ∧
    ∃ q, Pool.Run system (fun _ _ _ => True) (fun _ => False)
      (start Auth.Town.env store (newcomer "70000002")) q ∧
        q.world.store.auth.users.rows.map User.phone =
          ["+22370000001", "70000002", "+22370000002"] ∧
        normalizePhone "70000002" = "+22370000002" ∧ ¬ OneAccount q.world.store.auth.users :=
  ⟨by decide +kernel, by decide +kernel, Pool.exists_run_of_schedule? system (fun _ _ _ => True)
    (fun _ => False) (start Auth.Town.env store (newcomer "70000002"))
    (List.replicate 1 0 ++ List.replicate 8 1 ++ List.replicate 11 2)
    (fun q => q.world.store.auth.users.rows.map User.phone =
        ["+22370000001", "70000002", "+22370000002"] ∧
      normalizePhone "70000002" = "+22370000002" ∧ ¬ OneAccount q.world.store.auth.users)
    (by decide +kernel)⟩

end Telima.Auth.Admin
