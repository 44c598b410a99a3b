import BackendCore.Python.DateTime
import BackendCore.Python.Json
import BackendCore.Python.Uuid
import BackendCore.Shared.Errors
import BackendCore.Lib.Table

/-!
# Tenants, members, roles and invitations

The rows of the tenant tables with the columns the service reads, and the lookups
of roles.  The roles do not change in the runs considered.
-/

set_option autoImplicit false

namespace BackendCore.Tenants

open BackendCore.Python

structure Membership where
  id : Uuid
  tenantId : Uuid
  userId : Uuid
  roleId : Uuid
  deriving DecidableEq

/-- A system role has no tenant. -/
structure Role where
  id : Uuid
  tenantId : Option Uuid
  code : String
  deriving DecidableEq

def roleOwner : String := "owner"

/-- `_system_role`. -/
def systemRole (isPrintable : Char → Bool) (roles : List Role) (code : String) : Except Exc Role :=
  match roles.filter fun role => role.tenantId.isNone && role.code = code with
  | [] => .error (.notFoundError
      ("system role " ++ Json.reprStr isPrintable code ++ " is not provisioned"))
  | [role] => .ok role
  | _ => .error (.unexpected "MultipleResultsFound")

/-- `_tenant_or_system_role`, the first role in the order the database has. -/
def tenantOrSystemRole (isPrintable : Char → Bool) (roles : List Role) (tenantId : Uuid)
    (code : String) : Except Exc Role :=
  match (roles.filter fun role => role.code = code &&
      (role.tenantId = some tenantId || role.tenantId.isNone)).head? with
  | none => .error (.notFoundError ("role " ++ Json.reprStr isPrintable code ++ " not found"))
  | some role => .ok role

theorem tenantOrSystemRole_mem {isPrintable : Char → Bool} {roles : List Role} {tenantId : Uuid}
    {code : String} {role : Role}
    (found : tenantOrSystemRole isPrintable roles tenantId code = .ok role) : role ∈ roles := by
  unfold tenantOrSystemRole at found
  split at found
  · cases found
  · rename_i first head
    cases found
    exact List.mem_of_mem_filter (List.mem_of_mem_head? head)

/-! ## Invitations -/

inductive InvitationStatus where
  | pending
  | accepted
  | revoked
  | expired
  deriving DecidableEq

structure Invitation where
  id : Uuid
  tenantId : Uuid
  email : String
  roleId : Uuid
  tokenHash : String
  status : InvitationStatus
  invitedByUserId : Option Uuid
  acceptedByUserId : Option Uuid
  acceptedAt : Option DateTime
  expiresAt : DateTime
  deriving DecidableEq

/-- `email.strip().lower()`. -/
def normalizeEmail (lower : String → String) (email : String) : String := lower (strip email)

/-- The invitations and the memberships, as one table. -/
inductive TenantRow where
  | invitation (row : Invitation)
  | member (row : Membership)
  deriving DecidableEq

inductive TenantKey where
  | invitation (id : Uuid)
  | member (id : Uuid)
  deriving DecidableEq

def TenantRow.key : TenantRow → TenantKey
  | .invitation row => .invitation row.id
  | .member row => .member row.id

def TenantRow.invitation? : TenantRow → Option Invitation
  | .invitation row => some row
  | .member _ => none

/-- A change of the columns of an invitation. -/
def TenantRow.onInvitation (change : Invitation → Invitation) : TenantRow → TenantRow
  | .invitation row => .invitation (change row)
  | .member row => .member row

theorem TenantRow.onInvitation_key {change : Invitation → Invitation}
    (keeps : ∀ row, (change row).id = row.id) (row : TenantRow) :
    (row.onInvitation change).key = row.key := by
  cases row with
  | invitation row => exact congrArg TenantKey.invitation (keeps row)
  | member row => rfl

abbrev TenantTable := Table TenantRow.key

inductive TenantIndexValue where
  | token (hash : String)
  | pendingEmail (tenantId : Uuid) (email : String)
  | membership (tenantId userId : Uuid)
  deriving DecidableEq

/-- `uq_invitations_token_hash`. -/
def tokenIndex : TenantRow → Option TenantIndexValue
  | .invitation row => some (.token row.tokenHash)
  | .member _ => none

/-- `uq_invitations_pending_email`; `sqlLower` is `lower` of the database. -/
def pendingEmailIndex (sqlLower : String → String) : TenantRow → Option TenantIndexValue
  | .invitation row =>
    if row.status = .pending then some (.pendingEmail row.tenantId (sqlLower row.email)) else none
  | .member _ => none

/-- `uq_memberships_tenant_id_user_id`. -/
def membershipIndex : TenantRow → Option TenantIndexValue
  | .invitation _ => none
  | .member row => some (.membership row.tenantId row.userId)

def tenantIndexes (sqlLower : String → String) : List (TenantRow → Option TenantIndexValue) :=
  [tokenIndex, pendingEmailIndex sqlLower, membershipIndex]

end BackendCore.Tenants
