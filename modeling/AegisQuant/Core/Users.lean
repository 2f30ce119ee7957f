import AegisQuant.Core.Identifiers

/-! The users of the service: what they may do and whether they may log in. -/
namespace AegisQuant

inductive UserRole where
  | owner
  | operator
  | viewer
  deriving DecidableEq, Repr

def UserRole.fromStr (value : String) : Except CoreError UserRole :=
  match toAsciiUppercase (trim value) with
  | "OWNER" => .ok .owner
  | "OPERATOR" => .ok .operator
  | "VIEWER" => .ok .viewer
  | other => .error (.unsupportedUserRole other)

inductive UserStatus where
  | active
  | disabled
  deriving DecidableEq, Repr

def UserStatus.fromStr (value : String) : Except CoreError UserStatus :=
  match toAsciiUppercase (trim value) with
  | "ACTIVE" => .ok .active
  | "DISABLED" => .ok .disabled
  | other => .error (.unsupportedUserStatus other)

/-- A row of `users`; its role and status are stored as text. -/
structure UserRecord where
  id : Uuid
  email : String
  passwordHash : String
  role : String
  status : String
  createdAt : DateTime
  updatedAt : DateTime
  lastLoginAt : Option DateTime
  deriving DecidableEq

structure User where
  id : Uuid
  email : String
  role : UserRole
  status : UserStatus
  createdAt : DateTime
  updatedAt : DateTime
  lastLoginAt : Option DateTime
  deriving DecidableEq

def userFromRecord (record : UserRecord) : Except CoreError User := do
  let role ← UserRole.fromStr record.role
  let status ← UserStatus.fromStr record.status
  return {
    id := record.id
    email := record.email
    role := role
    status := status
    createdAt := record.createdAt
    updatedAt := record.updatedAt
    lastLoginAt := record.lastLoginAt }

theorem userFromRecord_ok {record : UserRecord} {user : User}
    (hUser : userFromRecord record = .ok user) :
    user.id = record.id ∧ UserStatus.fromStr record.status = .ok user.status := by
  unfold userFromRecord at hUser
  cases hRole : UserRole.fromStr record.role with
  | error err =>
    rw [hRole] at hUser
    cases hUser
  | ok role =>
    rw [hRole] at hUser
    cases hStatus : UserStatus.fromStr record.status with
    | error err =>
      rw [hStatus] at hUser
      cases hUser
    | ok status =>
      rw [hStatus] at hUser
      cases hUser
      exact ⟨rfl, rfl⟩

end AegisQuant
