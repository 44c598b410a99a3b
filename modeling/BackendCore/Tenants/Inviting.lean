import BackendCore.Python.TimeDelta
import BackendCore.Lib.Alone
import BackendCore.Tenants.Invitations

/-!
# Inviting a member again

An invitation can be accepted while it is pending and before its deadline.  No
request stores that the deadline has passed, and the unique index looks at the
stored status, so an invitation that nobody can accept any more stands in the way
of a new one for the same address.
-/

set_option autoImplicit false

namespace BackendCore.Tenants

open BackendCore.Python BackendCore.ReadCommitted

/-! ## `invite_member` -/

def invitationTtlDays : Nat := 7

/-- A request to invite: what the permission guard says, whether the tenant is found, the
mailer with the outcome of its call, and what is drawn for the new row. -/
structure InviteCall where
  permitted : Except Exc Unit
  mailer : Option (Except Exc Unit)
  tenantFound : Bool
  tenantId : Uuid
  actorId : Uuid
  email : String
  role : String
  invitationId : Uuid
  tokenHash : String
  now : DateTime

structure InvitationDTO where
  id : Uuid
  tenantId : Uuid
  email : String
  roleCode : String
  status : InvitationStatus
  expiresAt : DateTime
  deriving DecidableEq

def newInvitation (lower : String → String) (call : InviteCall) (roleId : Uuid)
    (expiresAt : DateTime) : Invitation where
  id := call.invitationId
  tenantId := call.tenantId
  email := normalizeEmail lower call.email
  roleId := roleId
  tokenHash := call.tokenHash
  status := .pending
  invitedByUserId := some call.actorId
  acceptedByUserId := none
  acceptedAt := none
  expiresAt := expiresAt

def invitationDto (call : InviteCall) (row : Invitation) : InvitationDTO :=
  ⟨row.id, row.tenantId, row.email, call.role, row.status, row.expiresAt⟩

abbrev InviteProg := Prog TenantRow.key Exc InvitationDTO

/-- The insertion under its savepoint, and the email. -/
def addInvitation (call : InviteCall) (sent : Except Exc Unit) (row : Invitation) : InviteProg :=
  .insert (.invitation row) fun
    | .done =>
      match sent with
      | .error raised => .raise raised
      | .ok () => .ret (invitationDto call row)
    | _ => .raise (.conflictError "a pending invitation for this email already exists")

def inviteMember (isPrintable : Char → Bool) (lower : String → String) (roles : List Role)
    (call : InviteCall) : InviteProg :=
  match call.permitted, call.mailer with
  | .error raised, _ => .raise raised
  | .ok (), none =>
    .raise (.invariantViolationError "invitations require an invitation mailer")
  | .ok (), some sent =>
    if call.tenantFound = false then .raise (.notFoundError "tenant not found")
    else
      match tenantOrSystemRole isPrintable roles call.tenantId call.role with
      | .error raised => .raise raised
      | .ok role =>
        match call.now.addDays invitationTtlDays with
        | none => .raise (.unexpected "OverflowError")
        | some expiresAt =>
          addInvitation call sent (newInvitation lower call role.id expiresAt)

/-! ## Histories -/

inductive TenantCall where
  | invite (call : InviteCall)
  | settle (call : InvitationCall)

abbrev TenantAnswer := InvitationDTO ⊕ InvitationAnswer

def TenantCall.prog (isPrintable : Char → Bool) (lower : String → String) (roles : List Role)
    (accountEmail : Uuid → String) : TenantCall → Prog TenantRow.key Exc TenantAnswer
  | .invite call => (inviteMember isPrintable lower roles call).bind fun dto => .ret (.inl dto)
  | .settle call => (call.prog lower accountEmail).bind fun answer => .ret (.inr answer)

abbrev TenantWorld (Tid : Type) := World Tid TenantRow.key Exc TenantAnswer

def tenantStart {Tid : Type} (isPrintable : Char → Bool) (lower : String → String)
    (roles : List Role) (accountEmail : Uuid → String) (table : TenantTable)
    (calls : Tid → TenantCall) : TenantWorld Tid :=
  World.start table fun tid => (calls tid).prog isPrintable lower roles accountEmail

/-! ## Invitations that can be accepted -/

/-- `accept_invitation` turns the invitation down neither for its status nor for its age. -/
def CanAccept (now : DateTime) (row : Invitation) : Prop :=
  row.status = .pending ∧ ¬row.expiresAt ≤ now

instance (now : DateTime) (row : Invitation) : Decidable (CanAccept now row) :=
  inferInstanceAs (Decidable (row.status = .pending ∧ ¬row.expiresAt ≤ now))

def IsFor (lower : String → String) (tenantId : Uuid) (email : String) (row : Invitation) : Prop :=
  row.tenantId = tenantId ∧ row.email = normalizeEmail lower email

/-- No invitation of the tenant whose address the index takes for this one is stored as
pending. -/
def NonePending (lower sqlLower : String → String) (tenantId : Uuid) (email : String)
    (table : TenantTable) : Prop :=
  ∀ row, .invitation row ∈ table.rows → row.tenantId = tenantId →
    sqlLower row.email = sqlLower (normalizeEmail lower email) → row.status ≠ .pending

/-- The request is permitted, the tenant, the role, the mailer and a deadline exist, and the
draws are new. -/
structure InviteCall.Admissible (isPrintable : Char → Bool) (roles : List Role)
    (table : TenantTable) (call : InviteCall) (role : Role) (expiresAt : DateTime) : Prop where
  permitted : call.permitted = .ok ()
  mailer : call.mailer = some (.ok ())
  tenant : call.tenantFound = true
  role : tenantOrSystemRole isPrintable roles call.tenantId call.role = .ok role
  deadline : call.now.addDays invitationTtlDays = some expiresAt
  newId : table.get (.invitation call.invitationId) = none
  newToken : ∀ row, .invitation row ∈ table.rows → row.tokenHash ≠ call.tokenHash

section Tables

variable {isPrintable : Char → Bool} {lower sqlLower : String → String} {roles : List Role}
variable {table : TenantTable} {call : InviteCall} {role : Role} {expiresAt : DateTime}

theorem inviteMember_eq (admissible : call.Admissible isPrintable roles table role expiresAt) :
    inviteMember isPrintable lower roles call =
      addInvitation call (.ok ()) (newInvitation lower call role.id expiresAt) := by
  unfold inviteMember
  rw [admissible.permitted, admissible.mailer, admissible.tenant, admissible.role,
    admissible.deadline]
  rfl

theorem newInvitation_fits (admissible : call.Admissible isPrintable roles table role expiresAt) :
    fits (tenantIndexes sqlLower) table (.invitation (newInvitation lower call role.id expiresAt)) =
        true ↔ NonePending lower sqlLower call.tenantId call.email table := by
  constructor
  · intro free row member tenant address pending
    have indexed : pendingEmailIndex sqlLower ∈ tenantIndexes sqlLower := by simp [tenantIndexes]
    have filed : pendingEmailIndex sqlLower (.invitation row) =
        some (.pendingEmail call.tenantId (sqlLower (normalizeEmail lower call.email))) := by
      rw [pendingEmailIndex, if_pos pending, tenant, address]
    refine free_of_fits free indexed (.invitation row) member ?_ _ rfl filed
    intro same
    have found := Table.get_of_mem _ _ member
    rw [same] at found
    exact nomatch admissible.newId.symm.trans found
  · intro none
    refine fits_of_free ?_
    intro index indexed other member differs value filed otherFiled
    simp only [tenantIndexes, List.mem_cons, List.not_mem_nil, or_false] at indexed
    rcases indexed with rfl | rfl | rfl
    · cases other with
      | member membership => cases otherFiled
      | invitation row =>
        have sameHash := TenantIndexValue.token.inj
          (Option.some.inj (otherFiled.trans filed.symm))
        exact admissible.newToken row member sameHash
    · cases other with
      | member membership => cases otherFiled
      | invitation row =>
        by_cases pending : row.status = .pending
        · rw [pendingEmailIndex, if_pos pending] at otherFiled
          have same := TenantIndexValue.pendingEmail.inj
            (Option.some.inj (otherFiled.trans filed.symm))
          exact none row member same.1 same.2 pending
        · rw [pendingEmailIndex, if_neg pending] at otherFiled
          cases otherFiled
    · cases filed

theorem newInvitation_canAccept
    (admissible : call.Admissible isPrintable roles table role expiresAt) :
    CanAccept call.now (newInvitation lower call role.id expiresAt) := by
  refine ⟨rfl, ?_⟩
  have later := DateTime.addDays_toMicros invitationTtlDays admissible.deadline
  change ¬expiresAt.toMicros ≤ call.now.toMicros
  rw [later]
  unfold invitationTtlDays microsPerDay
  omega

/-- `invite_member` succeeds on the table, with a new invitation that can be accepted. -/
def Invites (isPrintable : Char → Bool) (lower sqlLower : String → String) (roles : List Role)
    (table : TenantTable) (call : InviteCall) : Prop :=
  ∃ dto final row, (inviteMember isPrintable lower roles call).alone (tenantIndexes sqlLower)
      table = .ok (dto, final) ∧
    table.get (.invitation dto.id) = none ∧
    final.get (.invitation dto.id) = some (.invitation row) ∧
    IsFor lower call.tenantId call.email row ∧ CanAccept call.now row

theorem invites_iff (admissible : call.Admissible isPrintable roles table role expiresAt) :
    Invites isPrintable lower sqlLower roles table call ↔
      NonePending lower sqlLower call.tenantId call.email table := by
  rw [← newInvitation_fits admissible, Invites, inviteMember_eq admissible, addInvitation,
    alone_insert]
  have unused : table.get (TenantRow.key
      (.invitation (newInvitation lower call role.id expiresAt))) = none := admissible.newId
  rw [unused]
  constructor
  · rintro ⟨dto, final, row, ran, _⟩
    by_contra refused
    rw [Bool.eq_false_of_not_eq_true refused] at ran
    cases ran
  · intro free
    rw [free]
    refine ⟨_, _, _, rfl, unused, ?_, ⟨rfl, rfl⟩, newInvitation_canAccept admissible⟩
    exact (Table.get_store _ _ _).trans (if_pos rfl)

theorem acceptable_eq (unique : ∀ index ∈ tenantIndexes sqlLower, table.Unique index)
    {tenantId : Uuid} {email : String} {now : DateTime} {left right : Invitation}
    (leftStored : .invitation left ∈ table.rows) (rightStored : .invitation right ∈ table.rows)
    (leftFor : IsFor lower tenantId email left) (rightFor : IsFor lower tenantId email right)
    (leftOpen : CanAccept now left) (rightOpen : CanAccept now right) : left = right := by
  have filed : ∀ row, IsFor lower tenantId email row → CanAccept now row →
      pendingEmailIndex sqlLower (.invitation row) =
        some (.pendingEmail tenantId (sqlLower (normalizeEmail lower email))) := by
    rintro row ⟨tenant, address⟩ ⟨pending, _⟩
    rw [pendingEmailIndex, if_pos pending, tenant, address]
  have same := (unique (pendingEmailIndex sqlLower) (by simp [tenantIndexes])).eq leftStored
    rightStored (filed left leftFor leftOpen) (filed right rightFor rightOpen)
  exact TenantRow.invitation.inj same

end Tables

/-! ## Every reachable state -/

/-- In every state any requests reach: where no invitation for an address can be accepted, a
new one succeeds exactly if none is stored as pending; and at any time one at most can be
accepted. -/
theorem invite_succeeds_unless_pending {Tid : Type} [DecidableEq Tid] (isPrintable : Char → Bool)
    (lower sqlLower : String → String) (roles : List Role) (accountEmail : Uuid → String)
    (calls : Tid → TenantCall) (table : TenantTable)
    (unique : ∀ index ∈ tenantIndexes sqlLower, table.Unique index) (world : TenantWorld Tid)
    (run : World.Reaches (tenantIndexes sqlLower) True
      (tenantStart isPrintable lower roles accountEmail table calls) world) :
    (∀ call role expiresAt, call.Admissible isPrintable roles world.table role expiresAt →
      (∀ row, .invitation row ∈ world.table.rows → IsFor lower call.tenantId call.email row →
        ¬CanAccept call.now row) →
      (Invites isPrintable lower sqlLower roles world.table call ↔
        NonePending lower sqlLower call.tenantId call.email world.table)) ∧
    ∀ tenantId email now left right, .invitation left ∈ world.table.rows →
      .invitation right ∈ world.table.rows → IsFor lower tenantId email left →
      IsFor lower tenantId email right → CanAccept now left → CanAccept now right →
      left = right := by
  have sound := (sound_start table _ unique).reaches run
  refine ⟨fun call role expiresAt admissible _ => invites_iff admissible, ?_⟩
  intro tenantId email now left right leftStored rightStored leftFor rightFor leftOpen rightOpen
  exact acceptable_eq sound.committed leftStored rightStored leftFor rightFor leftOpen rightOpen

namespace Sample

local instance twoInvites : NeZero 2 := ⟨two_ne_zero⟩

def march (day : Nat) (valid : 1 ≤ day ∧ day ≤ 31) : DateTime :=
  ⟨2026, 3, day, 0, by
    refine ⟨by decide, by decide, by decide, by decide, valid.1, ?_, by decide⟩
    exact valid.2⟩

/-- An administrator of tenant 5 invites Ann. -/
def inviteAnn (invitationId : Uuid) (tokenHash : String) (now : DateTime) : InviteCall where
  permitted := .ok ()
  mailer := some (.ok ())
  tenantFound := true
  tenantId := 5
  actorId := 8
  email := "Ann@example.com"
  role := "admin"
  invitationId := invitationId
  tokenHash := tokenHash
  now := now

def firstInvite : InviteCall := inviteAnn 41 "first" (march 1 (by decide))

def secondInvite : InviteCall := inviteAnn 42 "second" (march 20 (by decide))

def invitedRoles : List Role := [⟨2, none, "admin"⟩]

/-- The first invitation is made, and may be revoked. -/
def invitedOnce : Fin 2 → TenantCall :=
  ![.invite firstInvite, .settle (.revoke (.ok ()) 5 41)]

def noInvitations : TenantWorld (Fin 2) :=
  tenantStart (fun _ => true) lower invitedRoles (fun _ => "") ⟨[], by decide⟩ invitedOnce

def firstInvitation : Invitation := newInvitation lower firstInvite 2 (march 8 (by decide))

/-- The first invitation is stored, and nothing else happens for weeks. -/
def invitedInMarch : TenantWorld (Fin 2) := noInvitations.follow (tenantIndexes lower) [0, 0]

theorem expired_invitation_blocks_new_one :
    World.Reaches (tenantIndexes lower) True noInvitations invitedInMarch ∧
      (∀ row, .invitation row ∈ invitedInMarch.table.rows → ¬CanAccept secondInvite.now row) ∧
      (inviteMember (fun _ => true) lower invitedRoles secondInvite).alone (tenantIndexes lower)
        invitedInMarch.table =
        .error (.conflictError "a pending invitation for this email already exists") := by
  have rows : invitedInMarch.table.rows = [.invitation firstInvitation] := by decide +kernel
  refine ⟨follow_reaches _ _, ?_, ?_⟩
  · intro row member
    rw [rows] at member
    cases List.mem_singleton.mp member
    decide
  · have stored : invitedInMarch.table = ⟨[.invitation firstInvitation], by decide⟩ :=
      Table.ext rows
    rw [stored]
    rfl

/-- The first invitation was revoked. -/
def revokedInMarch : TenantWorld (Fin 2) :=
  noInvitations.follow (tenantIndexes lower) [0, 0, 1, 1, 1]

theorem invited_again_after_revocation :
    World.Reaches (tenantIndexes lower) True noInvitations revokedInMarch ∧
      revokedInMarch.table.rows = [.invitation (revokedRow firstInvitation)] ∧
      Invites (fun _ => true) lower lower invitedRoles revokedInMarch.table secondInvite := by
  have rows : revokedInMarch.table.rows = [.invitation (revokedRow firstInvitation)] := by
    decide +kernel
  have stored : ∀ row, .invitation row ∈ revokedInMarch.table.rows →
      row = revokedRow firstInvitation := by
    intro row member
    rw [rows] at member
    exact TenantRow.invitation.inj (List.mem_singleton.mp member)
  have admissible : secondInvite.Admissible (fun _ => true) invitedRoles revokedInMarch.table
      ⟨2, none, "admin"⟩ (march 27 (by decide)) := by
    refine ⟨rfl, rfl, rfl, rfl, by decide, by decide +kernel, ?_⟩
    intro row member
    rw [stored row member]
    decide
  refine ⟨follow_reaches _ _, rows, ?_⟩
  refine ((invite_succeeds_unless_pending (fun _ => true) lower lower invitedRoles (fun _ => "")
    invitedOnce ⟨[], by decide⟩ (by decide) revokedInMarch (follow_reaches _ _)).1 secondInvite _ _
    admissible ?_).mpr ?_
  · intro row member _ acceptable
    rw [stored row member] at acceptable
    cases acceptable.1
  · intro row member _ _ pending
    rw [stored row member] at pending
    cases pending

end Sample

end BackendCore.Tenants
