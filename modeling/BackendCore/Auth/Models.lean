import BackendCore.Python.DateTime
import BackendCore.Python.Uuid
import BackendCore.Shared.Errors
import BackendCore.Lib.Table

/-!
# Auth tables

The rows of the global auth tables with the columns the service reads.  Tokens
and recovery codes are stored as hashes; the hash stands for the token here.
-/

set_option autoImplicit false

namespace BackendCore.Auth

open BackendCore.Python

inductive UserStatus where
  | active
  | blocked
  deriving DecidableEq

structure User where
  id : Uuid
  email : String
  passwordHash : String
  status : UserStatus
  deriving DecidableEq

structure RefreshToken where
  id : Uuid
  userId : Uuid
  familyId : Uuid
  tokenHash : String
  expiresAt : DateTime
  rotatedAt : Option DateTime
  revokedAt : Option DateTime
  revokedReason : Option String
  deriving DecidableEq

namespace RefreshToken

/-- Neither rotated nor revoked. -/
def isLive (token : RefreshToken) : Bool := token.rotatedAt.isNone && token.revokedAt.isNone

/-- `UPDATE … SET rotated_at`. -/
def rotate (now : DateTime) (token : RefreshToken) : RefreshToken :=
  { token with rotatedAt := some now }

/-- `UPDATE … SET revoked_at, revoked_reason`. -/
def revoke (now : DateTime) (reason : String) (token : RefreshToken) : RefreshToken :=
  { token with revokedAt := some now, revokedReason := some reason }

theorem isLive_rotate (now : DateTime) (token : RefreshToken) : (token.rotate now).isLive = false :=
  rfl

end RefreshToken

structure UserTotp where
  userId : Uuid
  secretEncrypted : String
  confirmedAt : Option DateTime
  deriving DecidableEq

structure UserRecoveryCode where
  id : Uuid
  userId : Uuid
  codeHash : String
  usedAt : Option DateTime
  deriving DecidableEq

end BackendCore.Auth
