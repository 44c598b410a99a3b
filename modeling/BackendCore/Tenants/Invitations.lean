import Mathlib
import BackendCore.Lib.Outline
import BackendCore.Tenants.Models

/-!
# Accepting and revoking an invitation

`accept_invitation` locks the invitation and adds the membership in the
transaction that stores the status.  `revoke_invitation` reads the invitation
without a lock and stores the status afterwards.  The status of an invitation
changes once, and the membership goes with the acceptance, where no other
transaction settles the invitation between the read and the write of a revocation.
-/

set_option autoImplicit false

namespace BackendCore.Tenants

open BackendCore.Python BackendCore.ReadCommitted

/-! ## Statements -/

/-- What a committed request did to its invitation. -/
inductive InvitationAnswer where
  | accepted (invitationId : Uuid) (membership : Membership)
  | revoked (invitationId : Uuid)
  deriving DecidableEq

def InvitationAnswer.invitationId : InvitationAnswer → Uuid
  | .accepted invitationId _ => invitationId
  | .revoked invitationId => invitationId

def InvitationAnswer.status : InvitationAnswer → InvitationStatus
  | .accepted _ _ => .accepted
  | .revoked _ => .revoked

theorem InvitationAnswer.status_ne_pending (answer : InvitationAnswer) :
    answer.status ≠ .pending := by
  cases answer with
  | accepted invitationId membership => exact fun same => nomatch same
  | revoked invitationId => exact fun same => nomatch same

abbrev InvitationProg := Prog TenantRow.key Exc InvitationAnswer

def tokenClause (tokenHash : String) : TenantRow → Bool
  | .invitation row => row.tokenHash = tokenHash
  | .member _ => false

def membershipClause (tenantId userId : Uuid) : TenantRow → Bool
  | .invitation _ => false
  | .member row => row.tenantId = tenantId && row.userId = userId

def invitationClause (tenantId invitationId : Uuid) : TenantRow → Bool
  | .invitation row => row.tenantId = tenantId && row.id = invitationId
  | .member _ => false

/-- A request to accept, with the id drawn for the membership and the two readings of the
clock. -/
structure AcceptCall where
  actorId : Uuid
  tokenHash : String
  membershipId : Uuid
  now : DateTime
  acceptedAt : DateTime

def newMembership (call : AcceptCall) (invitation : Invitation) : Membership where
  id := call.membershipId
  tenantId := invitation.tenantId
  userId := call.actorId
  roleId := invitation.roleId

def acceptedBy (call : AcceptCall) (row : Invitation) : Invitation :=
  { row with
    status := .accepted
    acceptedByUserId := some call.actorId
    acceptedAt := some call.acceptedAt }

def invitationWritten (answer : InvitationAnswer) : Reply → InvitationProg
  | .done => .ret answer
  | .missing => .raise (.unexpected "StaleDataError")
  | .conflict => .raise .integrityError

/-- The flush of `accept_invitation` after its new membership. -/
def memberAdded (call : AcceptCall) (invitation : Invitation) : Reply → InvitationProg
  | .done =>
    .write (.invitation invitation.id) (TenantRow.onInvitation (acceptedBy call))
      (TenantRow.onInvitation_key fun _ => rfl)
      (invitationWritten (.accepted invitation.id (newMembership call invitation)))
  | _ => .raise .integrityError

def addMember (call : AcceptCall) (invitation : Invitation) : List TenantRow → InvitationProg
  | [] => .insert (.member (newMembership call invitation)) (memberAdded call invitation)
  | _ :: _ => .raise (.conflictError "already a member of this tenant")

/-- `accept_invitation` with the invitation it has locked. -/
def acceptRow (lower : String → String) (acceptingEmail : String) (call : AcceptCall)
    (invitation : Invitation) : InvitationProg :=
  if invitation.status ≠ .pending then
    .raise (.notFoundError "invitation not found or not pending")
  else if invitation.expiresAt ≤ call.now then
    .raise (.invariantViolationError "invitation expired")
  else if invitation.email ≠ normalizeEmail lower acceptingEmail then
    .raise (.permissionDeniedError "invitation was issued to another email")
  else
    .select (membershipClause invitation.tenantId call.actorId) (addMember call invitation)

def acceptInvitation (lower : String → String) (acceptingEmail : String) (call : AcceptCall) :
    InvitationProg :=
  .lock (tokenClause call.tokenHash) fun rows =>
    match rows.filterMap TenantRow.invitation? with
    | [] => .raise (.notFoundError "invitation not found or not pending")
    | [invitation] => acceptRow lower acceptingEmail call invitation
    | _ => .raise (.unexpected "MultipleResultsFound")

def revokedRow (row : Invitation) : Invitation := { row with status := .revoked }

/-- The flush of `revoke_invitation`. -/
def revokeRow (invitationId : Uuid) : InvitationProg :=
  .write (.invitation invitationId) (TenantRow.onInvitation revokedRow)
    (TenantRow.onInvitation_key fun _ => rfl) (invitationWritten (.revoked invitationId))

def revokeInvitation (tenantId invitationId : Uuid) : InvitationProg :=
  .select (invitationClause tenantId invitationId) fun rows =>
    match rows.filterMap TenantRow.invitation? with
    | [] => .raise (.notFoundError ("Invitation " ++ Uuid.toStr invitationId ++ " not found"))
    | [invitation] =>
      if invitation.status ≠ .pending then
        .raise (.invariantViolationError "only pending invitations can be revoked")
      else revokeRow invitation.id
    | _ => .raise (.unexpected "MultipleResultsFound")

/-- A request; `permitted` is what the permission guard says. -/
inductive InvitationCall where
  | accept (call : AcceptCall)
  | revoke (permitted : Except Exc Unit) (tenantId invitationId : Uuid)

/-- The route of `accept_invitation` passes the email of the caller's own account. -/
def InvitationCall.prog (lower : String → String) (accountEmail : Uuid → String) :
    InvitationCall → InvitationProg
  | .accept call => acceptInvitation lower (accountEmail call.actorId) call
  | .revoke permitted tenantId invitationId =>
    match permitted with
    | .error raised => .raise raised
    | .ok () => revokeInvitation tenantId invitationId

/-! ## What a run keeps -/

abbrev InvitationBase := Base TenantRow.key InvitationAnswer

abbrev InvitationPhase := Phase TenantRow.key Exc InvitationAnswer

/-- The commits that settled an invitation. -/
def answersFor (id : Uuid) (log : List InvitationAnswer) : List InvitationAnswer :=
  log.filter fun answer => answer.invitationId = id

theorem answersFor_append (id : Uuid) (log : List InvitationAnswer) (answer : InvitationAnswer) :
    answersFor id (log ++ [answer]) =
      if answer.invitationId = id then answersFor id log ++ [answer] else answersFor id log := by
  rw [answersFor, List.filter_append]
  split
  · rename_i about
    rw [List.filter_cons_of_pos (by simpa using about)]
    rfl
  · rename_i other
    rw [List.filter_cons_of_neg (by simpa using other)]
    exact List.append_nil _

/-- No commit has settled the invitation, and it is as it was; or it was pending, and one
commit has settled it. -/
inductive Settlement (first : TenantTable) (base : InvitationBase) (id : Uuid) : Prop where
  | untouched (nothing : answersFor id base.log = [])
      (same : base.table.get (.invitation id) = first.get (.invitation id))
  | settled (answer : InvitationAnswer) (before after : Invitation)
      (once : answersFor id base.log = [answer])
      (was : first.get (.invitation id) = some (.invitation before))
      (pending : before.status = .pending)
      (now : base.table.get (.invitation id) = some (.invitation after))
      (status : after.status = answer.status)

/-- The invitation was open to the account of the new member, who has its role. -/
structure Admitted (lower : String → String) (accountEmail : Uuid → String) (first : TenantTable)
    (id : Uuid) (row : Membership) : Prop where
  isNew : first.get (.member row.id) = none
  invited : ∃ invitation, first.get (.invitation id) = some (.invitation invitation) ∧
    row.tenantId = invitation.tenantId ∧ row.roleId = invitation.roleId ∧
    normalizeEmail lower (accountEmail row.userId) = invitation.email

/-- Every membership that is new was made by one acceptance, and every acceptance made one. -/
structure InvitationsAt (lower : String → String) (accountEmail : Uuid → String)
    (first : TenantTable) (base : InvitationBase) : Prop where
  settlement : ∀ id, Settlement first base id
  standing : ∀ id row, first.get (.member id) = some row →
    base.table.get (.member id) = some row
  created : ∀ row, base.table.get (.member row.id) = some (.member row) →
    first.get (.member row.id) = some (.member row) ∨ ∃ id, .accepted id row ∈ base.log
  joined : ∀ id row, .accepted id row ∈ base.log →
    base.table.get (.member row.id) = some (.member row) ∧
      Admitted lower accountEmail first id row

def Pending (id : Uuid) (table : TenantTable) : Prop :=
  ∃ row, table.get (.invitation id) = some (.invitation row) ∧ row.status = .pending

/-- The session has read the invitation as pending and has not written it. -/
def Revoking (id : Uuid) (phase : InvitationPhase) : Prop := phase = .running (revokeRow id)

def invitationContract (lower : String → String) (accountEmail : Uuid → String)
    (first : TenantTable) : Contract TenantRow.key Exc InvitationAnswer where
  invariant := InvitationsAt lower accountEmail first
  assumes := fun phase now later => ∀ id, Revoking id phase → Pending id now → Pending id later
  assumes_refl := fun _ _ _ _ pending => pending
  assumes_trans := fun _ _ _ _ earlier later id revoking pending =>
    later id revoking (earlier id revoking pending)

section Commits

variable {lower : String → String} {accountEmail : Uuid → String} {first final : TenantTable}
variable {base : InvitationBase} {answer : InvitationAnswer} {row after : Invitation}

theorem Settlement.of_pending {id : Uuid} (settlement : Settlement first base id)
    (stored : base.table.get (.invitation id) = some (.invitation row))
    (pending : row.status = .pending) :
    answersFor id base.log = [] ∧ first.get (.invitation id) = some (.invitation row) := by
  cases settlement with
  | untouched nothing same => exact ⟨nothing, same.symm.trans stored⟩
  | settled answer before after once was wasPending now status =>
    rw [stored] at now
    cases now
    exact (answer.status_ne_pending (status.symm.trans pending)).elim

theorem settlement_commit (settlements : ∀ id, Settlement first base id)
    (stored : base.table.get (.invitation answer.invitationId) = some (.invitation row))
    (pending : row.status = .pending) (settles : after.status = answer.status)
    (written : final.get (.invitation answer.invitationId) = some (.invitation after))
    (others : ∀ id, id ≠ answer.invitationId →
      final.get (.invitation id) = base.table.get (.invitation id)) (id : Uuid) :
    Settlement first ⟨final, base.log ++ [answer]⟩ id := by
  by_cases here : answer.invitationId = id
  · subst here
    obtain ⟨nothing, was⟩ := (settlements _).of_pending stored pending
    refine .settled answer row after ?_ was pending written settles
    rw [answersFor_append, if_pos rfl, nothing]
    rfl
  · have log : answersFor id (base.log ++ [answer]) = answersFor id base.log := by
      rw [answersFor_append, if_neg here]
    have kept := others id (Ne.symm here)
    cases settlements id with
    | untouched nothing same => exact .untouched (log.trans nothing) (kept.trans same)
    | settled other before last once was wasPending now status =>
      exact .settled other before last (log.trans once) was wasPending (kept.trans now) status

theorem InvitationsAt.revoke {id : Uuid} (holds : InvitationsAt lower accountEmail first base)
    (stored : base.table.get (.invitation id) = some (.invitation row))
    (pending : row.status = .pending)
    (seen : ∀ k, final.get k =
      if k = .invitation id then some (.invitation (revokedRow row)) else base.table.get k) :
    InvitationsAt lower accountEmail first ⟨final, base.log ++ [.revoked id]⟩ := by
  have members : ∀ member, final.get (.member member) = base.table.get (.member member) :=
    fun member => (seen _).trans (if_neg fun same => nomatch same)
  have noAcceptance : ∀ other member, .accepted other member ∈ base.log ++ [.revoked id] →
      .accepted other member ∈ base.log := by
    intro other member among
    rcases List.mem_append.mp among with earlier | new
    · exact earlier
    · cases List.mem_singleton.mp new
  refine ⟨?_, ?_, ?_, ?_⟩
  · refine settlement_commit holds.settlement stored pending rfl ((seen _).trans (if_pos rfl)) ?_
    intro other differs
    exact (seen _).trans (if_neg fun same => differs (TenantKey.invitation.inj same))
  · intro member old was
    exact (members _).trans (holds.standing member old was)
  · intro member found
    refine (holds.created member ((members _).symm.trans found)).imp_right ?_
    rintro ⟨other, among⟩
    exact ⟨other, List.mem_append_left _ among⟩
  · intro other member among
    obtain ⟨found, admitted⟩ := holds.joined other member (noAcceptance other member among)
    exact ⟨(members _).trans found, admitted⟩

theorem InvitationsAt.accept {call : AcceptCall}
    (holds : InvitationsAt lower accountEmail first base)
    (stored : base.table.get (.invitation row.id) = some (.invitation row))
    (pending : row.status = .pending)
    (invited : row.email = normalizeEmail lower (accountEmail call.actorId))
    (unused : base.table.get (.member call.membershipId) = none)
    (seen : ∀ k, final.get k =
      if k = .invitation row.id then some (.invitation (acceptedBy call row))
      else if k = .member call.membershipId then some (.member (newMembership call row))
      else base.table.get k) :
    InvitationsAt lower accountEmail first
      ⟨final, base.log ++ [.accepted row.id (newMembership call row)]⟩ := by
  have added : final.get (.member call.membershipId) =
      some (.member (newMembership call row)) := by
    rw [seen, if_neg (fun same => nomatch same), if_pos rfl]
  have members : ∀ member, member ≠ call.membershipId →
      final.get (.member member) = base.table.get (.member member) := by
    intro member differs
    rw [seen, if_neg (fun same => nomatch same),
      if_neg fun same => differs (TenantKey.member.inj same)]
  have taken : ∀ member old, base.table.get (.member member) = some old →
      member ≠ call.membershipId := by
    intro member old found same
    rw [same, unused] at found
    cases found
  refine ⟨?_, ?_, ?_, ?_⟩
  · refine settlement_commit holds.settlement stored pending rfl ((seen _).trans (if_pos rfl)) ?_
    intro other differs
    have elsewhere : TenantKey.invitation other ≠ .invitation row.id :=
      fun same => differs (TenantKey.invitation.inj same)
    rw [seen, if_neg elsewhere, if_neg fun same => nomatch same]
  · intro member old was
    have found := holds.standing member old was
    exact (members member (taken member old found)).trans found
  · intro member found
    by_cases here : member.id = call.membershipId
    · rw [here, added] at found
      cases found
      exact Or.inr ⟨row.id, List.mem_append_right _ List.mem_cons_self⟩
    · refine (holds.created member ((members _ here).symm.trans found)).imp_right ?_
      rintro ⟨other, among⟩
      exact ⟨other, List.mem_append_left _ among⟩
  · intro other member among
    rcases List.mem_append.mp among with earlier | new
    · obtain ⟨found, admitted⟩ := holds.joined other member earlier
      exact ⟨(members _ (taken _ _ found)).trans found, admitted⟩
    · cases List.mem_singleton.mp new
      refine ⟨added, ?_, row, (holds.settlement row.id).of_pending stored pending |>.2, rfl, rfl,
        invited.symm⟩
      cases was : first.get (.member call.membershipId) with
      | none => exact was
      | some old => exact (taken _ old (holds.standing _ old was) rfl).elim

end Commits

/-! ## Outlines -/

section Outlines

variable {lower : String → String} {accountEmail : Uuid → String} {first : TenantTable}
variable {sqlLower : String → String} {locks : List TenantKey} {base last : InvitationBase}
variable {changes : List (Change TenantKey TenantRow)} {phase : InvitationPhase}

/-- The session holds the lock of the invitation, which is still as it was read. -/
structure Holds (row : Invitation) (locks : List TenantKey) (base : InvitationBase) : Prop where
  locked : TenantKey.invitation row.id ∈ locks
  stored : base.table.get (.invitation row.id) = some (.invitation row)

theorem Holds.later {row : Invitation} (holds : Holds row locks base)
    (rely : (invitationContract lower accountEmail first).Rely (tenantIndexes sqlLower) phase
      changes locks base last) : Holds row locks last :=
  ⟨holds.locked, (rely.kept _ holds.locked).trans holds.stored⟩

theorem memberAdded_outline {call : AcceptCall} {row : Invitation} {reply : Reply}
    (holds : Holds row locks base) (pending : row.status = .pending)
    (invited : row.email = normalizeEmail lower (accountEmail call.actorId))
    (unused : base.table.get (.member call.membershipId) = none)
    (locked : TenantKey.member call.membershipId ∈ locks) :
    (memberAdded call row reply).Outline (invitationContract lower accountEmail first)
      (tenantIndexes sqlLower) [.store (.member (newMembership call row))] locks base := by
  cases reply with
  | missing => trivial
  | conflict => trivial
  | done =>
    intro last rely
    have holdsThen := holds.later rely
    have seen : ∀ (table : TenantTable) k,
        (overlay [.store (.member (newMembership call row))] table).get k =
          if k = .member call.membershipId then some (.member (newMembership call row))
          else table.get k := fun table k => get_apply (.store _) table k
    have found : (overlay [.store (.member (newMembership call row))] last.table).get
        (.invitation row.id) = some (.invitation row) := by
      rw [seen, if_neg (fun same => nomatch same)]
      exact holdsThen.stored
    rw [found]
    dsimp only
    split
    · intro final after
      have holdsLast : Holds row _ final :=
        Holds.later ⟨List.mem_cons_of_mem _ holdsThen.locked, holdsThen.stored⟩ after
      refine ⟨?_, trivial, fun _ _ => trivial, trivial⟩
      refine InvitationsAt.accept after.invariant holdsLast.stored pending invited ?_ ?_
      · rw [after.kept _ (List.mem_cons_of_mem _ locked), rely.kept _ locked]
        exact unused
      · intro k
        rw [overlay_append, get_apply, seen]
        rfl
    · trivial

theorem acceptRow_outline {call : AcceptCall} {row : Invitation} (holds : Holds row locks base) :
    (acceptRow lower (accountEmail call.actorId) call row).Outline
      (invitationContract lower accountEmail first) (tenantIndexes sqlLower) [] locks base := by
  by_cases pending : row.status = .pending
  swap
  · rw [acceptRow, if_pos pending]
    trivial
  by_cases expired : row.expiresAt ≤ call.now
  · rw [acceptRow, if_neg (not_not.mpr pending), if_pos expired]
    trivial
  by_cases invited : row.email = normalizeEmail lower (accountEmail call.actorId)
  swap
  · rw [acceptRow, if_neg (not_not.mpr pending), if_neg expired, if_pos invited]
    trivial
  rw [acceptRow, if_neg (not_not.mpr pending), if_neg expired, if_neg (not_not.mpr invited)]
  intro last rely
  have holdsThen := holds.later rely
  unfold addMember
  split
  · intro final after
    have holdsLast := holdsThen.later after
    split
    · rename_i free
      rw [Bool.and_eq_true, Option.isNone_iff_eq_none] at free
      exact memberAdded_outline ⟨List.mem_cons_of_mem _ holdsLast.locked, holdsLast.stored⟩ pending
        invited free.1 List.mem_cons_self
    · trivial
  · trivial

theorem acceptInvitation_outline (call : AcceptCall) :
    (acceptInvitation lower (accountEmail call.actorId) call).Outline
      (invitationContract lower accountEmail first) (tenantIndexes sqlLower) [] [] base := by
  refine Prog.outline_lock (fun _ _ => True) (fun _ => False) (fun _ _ => trivial)
    (fun _ _ _ _ _ _ _ => trivial) (fun _ _ _ _ => trivial) (fun _ _ _ none => none.elim) ?_
  intro got locks base _ held _ _
  split
  · trivial
  · rename_i invitation found
    have member : invitation ∈ got.filterMap TenantRow.invitation? := by
      rw [found]
      exact List.mem_singleton_self _
    obtain ⟨row, among, isInvitation⟩ := List.mem_filterMap.mp member
    cases row with
    | member membership => cases isInvitation
    | invitation row =>
      cases isInvitation
      obtain ⟨_, locked, stored⟩ := held _ among
      exact acceptRow_outline ⟨locked, stored⟩
  · trivial

theorem revokeRow_outline {id : Uuid} (pending : Pending id base.table) :
    (revokeRow id).Outline (invitationContract lower accountEmail first) (tenantIndexes sqlLower)
      [] locks base := by
  intro last rely
  obtain ⟨row, stored, stillPending⟩ := rely.assumes id rfl pending
  have found : (overlay [] last.table).get (.invitation id) = some (.invitation row) := stored
  have sameKey : TenantRow.key (.invitation row) = .invitation id := Table.key_of_get stored
  have placed : row.id = id := TenantKey.invitation.inj sameKey
  rw [found]
  dsimp only
  split
  · intro final after
    refine ⟨?_, trivial, fun _ _ => trivial, trivial⟩
    refine InvitationsAt.revoke after.invariant ?_ stillPending ?_
    · rw [after.kept _ (by rw [← placed]; exact List.mem_cons_self)]
      exact stored
    · intro k
      rw [overlay_append, get_apply, ← placed]
      rfl
  · trivial

theorem revokeInvitation_outline (tenantId invitationId : Uuid) :
    (revokeInvitation tenantId invitationId).Outline (invitationContract lower accountEmail first)
      (tenantIndexes sqlLower) [] [] base := by
  intro last rely
  dsimp only
  split
  · trivial
  · rename_i invitation found
    have member : invitation ∈ ((overlay [] last.table).select
        (invitationClause tenantId invitationId)).filterMap TenantRow.invitation? := by
      rw [found]
      exact List.mem_singleton_self _
    obtain ⟨row, among, isInvitation⟩ := List.mem_filterMap.mp member
    cases row with
    | member membership => cases isInvitation
    | invitation row =>
      cases isInvitation
      split
      · trivial
      · rename_i pending
        have stored := Table.get_of_mem _ _ ((Table.mem_select _ _ _).mp among).1
        exact revokeRow_outline ⟨invitation, stored, not_not.mp pending⟩
  · trivial

theorem InvitationCall.outline (call : InvitationCall) :
    (call.prog lower accountEmail).Outline (invitationContract lower accountEmail first)
      (tenantIndexes sqlLower) [] [] base := by
  cases call with
  | accept call => exact acceptInvitation_outline call
  | revoke permitted tenantId invitationId =>
    cases permitted with
    | error raised => trivial
    | ok passed => exact revokeInvitation_outline tenantId invitationId

end Outlines

/-! ## Runs -/

section Runs

variable {Tid : Type} [DecidableEq Tid]

abbrev InvitationWorld (Tid : Type) := World Tid TenantRow.key Exc InvitationAnswer

def invitationStart (lower : String → String) (accountEmail : Uuid → String)
    (table : TenantTable) (calls : Tid → InvitationCall) : InvitationWorld Tid :=
  World.start table fun tid => (calls tid).prog lower accountEmail

/-- The condition on a commit: it does not settle an invitation that another transaction has
read as pending in order to revoke it. -/
def RevokesUndisturbed (world : InvitationWorld Tid) (tid : Tid) (_ : InvitationWorld Tid) : Prop :=
  ∀ answer other id, other ≠ tid → (world.session tid).phase = .running (.ret answer) →
    Revoking id (world.session other).phase → Pending id world.table →
    Pending id (world.view tid)

/-- In every such run an invitation is settled once at most, and the memberships made are those
of the acceptances. -/
theorem invitation_settled_once (lower sqlLower : String → String) (accountEmail : Uuid → String)
    (calls : Tid → InvitationCall) (table : TenantTable)
    (unique : ∀ index ∈ tenantIndexes sqlLower, table.Unique index)
    (last : InvitationWorld Tid × List InvitationAnswer)
    (run : World.LogRun (tenantIndexes sqlLower) True RevokesUndisturbed
      (invitationStart lower accountEmail table calls, []) last) :
    InvitationsAt lower accountEmail table ⟨last.1.table, last.2⟩ := by
  have begins : InvitationsAt lower accountEmail table ⟨table, []⟩ := by
    refine ⟨fun id => .untouched rfl rfl, fun _ _ was => was, fun _ found => Or.inl found, ?_⟩
    intro id row among
    cases among
  have start : Upholds (invitationContract lower accountEmail table) (tenantIndexes sqlLower)
      (invitationStart lower accountEmail table calls, []) :=
    upholds_start table _ unique begins fun tid => (calls tid).outline
  obtain ⟨ends, _⟩ := start.run run (by
    intro world tid next step undisturbed other differs id revoking pending
    cases step with
    | commit answer done => exact undisturbed answer other id differs done revoking pending
    | statement statement ready => exact pending
    | fail error raised => exact pending
    | abort allowed open_ => exact pending)
  exact ends.invariant

end Runs

namespace Sample

local instance twoCallers : NeZero 2 := ⟨two_ne_zero⟩

theorem today_valid : 1 ≤ 2026 ∧ 2026 ≤ 9999 ∧ 1 ≤ 3 ∧ 3 ≤ 12 ∧ 1 ≤ 1 ∧
    1 ≤ daysInMonth 2026 3 ∧ 0 < microsPerDay := by decide

def today : DateTime := ⟨2026, 3, 1, 0, today_valid⟩

def nextWeek : DateTime := ⟨2026, 3, 8, 0, by decide⟩

def openInvitation : Invitation where
  id := 21
  tenantId := 5
  email := "ann@example.com"
  roleId := 2
  tokenHash := "hash"
  status := .pending
  invitedByUserId := some 8
  acceptedByUserId := none
  acceptedAt := none
  expiresAt := nextWeek

def oneInvitation : TenantTable := ⟨[.invitation openInvitation], by decide⟩

def annAccepts : AcceptCall := ⟨9, "hash", 31, today, today⟩

/-- One transaction revokes the invitation and the other one accepts it. -/
def revokeAndAccept : Fin 2 → InvitationCall := ![.revoke (.ok ()) 5 21, .accept annAccepts]

def invitations : InvitationWorld (Fin 2) :=
  invitationStart lower (fun _ => "ann@example.com") oneInvitation revokeAndAccept

def annMember : Membership := ⟨31, 5, 9, 2⟩

/-- The revocation has read the invitation, and the acceptance has committed. -/
def acceptedFirst : InvitationWorld (Fin 2) :=
  invitations.follow (tenantIndexes lower) [0, 1, 1, 1, 1, 1, 1, 1]

def revokedThen : InvitationWorld (Fin 2) := acceptedFirst.follow (tenantIndexes lower) [0, 0]

theorem revocation_overwrites_acceptance :
    World.Reaches (tenantIndexes lower) True invitations acceptedFirst ∧
      World.Reaches (tenantIndexes lower) True acceptedFirst revokedThen ∧
      acceptedFirst.table.rows =
        [.invitation (acceptedBy annAccepts openInvitation), .member annMember] ∧
      revokedThen.table.rows =
        [.invitation (revokedRow (acceptedBy annAccepts openInvitation)), .member annMember] :=
  ⟨follow_reaches _ _, follow_reaches _ _, by decide +kernel, by decide +kernel⟩

def pendingIn (id : Uuid) (table : TenantTable) : Bool :=
  match table.get (.invitation id) with
  | some (.invitation row) => row.status = .pending
  | _ => false

theorem pendingIn_iff (id : Uuid) (table : TenantTable) :
    pendingIn id table = true ↔ Pending id table := by
  unfold pendingIn Pending
  split
  · rename_i row found
    simp [found]
  · rename_i other
    constructor
    · intro impossible
      cases impossible
    · rintro ⟨row, found, _⟩
      exact absurd found (other row)

/-- What a session is about to write stays pending. -/
def staysPending (now later : TenantTable) : InvitationPhase → Bool
  | .running (.write (.invitation id) _ _ _) => !pendingIn id now || pendingIn id later
  | _ => true

def sparesRevocations (world : InvitationWorld (Fin 2)) (tid : Fin 2) : Bool :=
  decide (∀ other, other ≠ tid →
    staysPending world.table (world.view tid) (world.session other).phase = true)

theorem undisturbed_of_spares (world : InvitationWorld (Fin 2)) (tid : Fin 2)
    (next : InvitationWorld (Fin 2)) (checked : sparesRevocations world tid = true) :
    RevokesUndisturbed world tid next := by
  intro answer other id differs done revoking pending
  have spared := of_decide_eq_true checked other differs
  rw [revoking, revokeRow, staysPending, (pendingIn_iff _ _).mpr pending] at spared
  exact (pendingIn_iff _ _).mp spared

def secondInvitation : Invitation :=
  { openInvitation with
    id := 22
    email := "bob@example.com"
    tokenHash := "other" }

def twoInvitations : TenantTable :=
  ⟨[.invitation openInvitation, .invitation secondInvitation], by decide⟩

/-- One transaction revokes the second invitation and the other one accepts the first. -/
def bothSettled : Fin 2 → InvitationCall := ![.revoke (.ok ()) 5 22, .accept annAccepts]

def settling : InvitationWorld (Fin 2) :=
  invitationStart lower (fun _ => "ann@example.com") twoInvitations bothSettled

/-- The acceptance commits between the read and the write of the revocation. -/
def settlingSteps : List (Fin 2) := [0, 1, 1, 1, 1, 1, 1, 1, 0, 0]

def settled : InvitationWorld (Fin 2) := settling.follow (tenantIndexes lower) settlingSteps

theorem both_invitations_are_settled :
    ∃ log, World.LogRun (tenantIndexes lower) True RevokesUndisturbed (settling, [])
        (settled, log) ∧
      settled.table.rows = [.invitation (acceptedBy annAccepts openInvitation),
        .invitation (revokedRow secondInvitation), .member annMember] ∧
      InvitationsAt lower (fun _ => "ann@example.com") twoInvitations ⟨settled.table, log⟩ := by
  have along : World.Along (tenantIndexes lower) RevokesUndisturbed settling settlingSteps :=
    World.along_of_checks undisturbed_of_spares _ _ (by decide +kernel)
  have logged : ∃ log, World.LogRun (tenantIndexes lower) True RevokesUndisturbed (settling, [])
      (settled, log) := along.logged []
  have rows : settled.table.rows = [.invitation (acceptedBy annAccepts openInvitation),
      .invitation (revokedRow secondInvitation), .member annMember] := by
    decide +kernel
  obtain ⟨log, run⟩ := logged
  refine ⟨log, run, rows, ?_⟩
  exact invitation_settled_once lower lower (fun _ => "ann@example.com") bothSettled
    twoInvitations (by decide) (settled, log) run

end Sample

end BackendCore.Tenants
