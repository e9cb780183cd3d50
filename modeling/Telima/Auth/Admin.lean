import Telima.Auth.Service

/-!
# Accounts that an administrator creates

`createUser` of the admin controller, among the calls of `AuthService`.  It writes the phone as it was
given; the logins write its normal form.
-/

namespace Telima.Auth.Admin

open AuthService

/-- `CreateUserDto` -/
structure CreateUserDto where
  firstName : String
  lastName : String
  phone : String
  email : Option String := none
  role : UserRole
  isActive : Option Bool := none
  password : Option String := none
  deriving DecidableEq

/-- The `data` of a new user. -/
structure NewUser where
  firstName : String
  lastName : String
  phone : String
  email : Option String
  role : UserRole
  isActive : Bool
  passwordHash : Option String
  deriving DecidableEq

/-- The accounts, and the users who have a row in `drivers`. -/
structure Store where
  auth : Auth.Store
  drivers : Table ℕ ℕ id := .empty

inductive Cmd where
  | auth (c : Auth.Cmd)
  /-- `prisma.user.create`; the new row is the answer. -/
  | createUser (data : NewUser)
  | createDriver (userId : ℕ)
  deriving DecidableEq

abbrev Prog (α : Type) : Type := Async Store Cmd Error α

def NewUser.row (data : NewUser) (id : ℕ) : User where
  id := id
  phone := data.phone
  role := data.role
  firstName := some data.firstName
  lastName := some data.lastName
  email := data.email
  passwordHash := data.passwordHash
  isActive := data.isActive

/-- The answer to a new user: `phone` is `@unique`. -/
def NewUser.answer (data : NewUser) (s : Store) : Except Error User :=
  if s.auth.users.rows.any fun user => decide (user.phone = data.phone) then .error .uniqueConstraint
  else .ok (data.row s.auth.users.freshKey)

/-- The table with the answered row. -/
def addUser (users : Table ℕ User User.id) : Except Error User → Table ℕ User User.id
  | .ok user => users.insert user
  | .error _ => users

/-- The effect of a command. -/
def Cmd.exec : Cmd → Store → Store
  | auth c, s => { s with auth := c.exec s.auth }
  | createUser data, s =>
    { s with auth := { s.auth with users := addUser s.auth.users (data.answer s) } }
  | createDriver userId, s => { s with drivers := s.drivers.insert userId }

/-- A function of the other services. -/
def ofAuth {α : Type} (p : Auth.Prog α) : Prog α := p.embed Store.auth Cmd.auth

namespace AdminUsersTripsController

variable (env : AuthEnv)

def createUser (dto : CreateUserDto) : Prog User := do
  let passwordHash ← ofAuth (Auth.AdminUsersTripsController.hashPassword env dto.password)
  let data : NewUser :=
    { firstName := dto.firstName
      lastName := dto.lastName
      phone := dto.phone
      email := dto.email.filter fun email => decide (email ≠ "")
      role := dto.role
      isActive := dto.isActive.getD true
      passwordHash }
  let user ← Async.queryE (.createUser data) data.answer
  if dto.role = .driver then
    Async.queryE (.createDriver user.id) fun s =>
      if user.id ∈ s.drivers.rows then .error .uniqueConstraint else .ok ()
  pure user

end AdminUsersTripsController

/-! ### Calls -/

inductive Call where
  | auth (call : Auth.Call)
  | createUser (dto : CreateUserDto)
  deriving DecidableEq

/-- The phone an administrator gives, if the call is one of his. -/
def Call.givenPhone? : Call → Option String
  | createUser dto => some dto.phone
  | auth (.updateUser _ dto) => dto.phone
  | auth _ => none

/-- The user a call of an administrator returns. -/
def Call.program (env : AuthEnv) : Call → Prog (Option User)
  | auth call => (ofAuth (call.program env)).as none
  | createUser dto => do
    let user ← AdminUsersTripsController.createUser env dto
    pure (some user)

/-- The calls start no handlers. -/
def system : System Store Cmd Error (Option User) where
  exec := Cmd.exec
  handlers _ := []

@[simp] theorem system_exec : system.exec = Cmd.exec := rfl

@[simp] theorem system_handlers (c : Cmd) : system.handlers c = [] := rfl

def start (env : AuthEnv) (s : Store) (calls : List Call) : Pool Store Cmd Error (Option User) :=
  Pool.init s (calls.map (Call.program env))

end Telima.Auth.Admin
