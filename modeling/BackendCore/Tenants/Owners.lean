import Mathlib
import BackendCore.Lib.Outline
import BackendCore.Tenants.Models

/-!
# The last owner

`change_member_role` and `remove_member` on the memberships of any tenants.  The
guard of the last owner counts the owners and then writes one row; nothing is
locked in between.  A tenant keeps an owner where, while such a transaction is
under way, the commits of others take the owner role from nobody and do not give
it to the member the transaction works on.
-/

set_option autoImplicit false

namespace BackendCore.Tenants

open BackendCore.Python BackendCore.ReadCommitted

/-! ## Statements -/

/-- What a transaction has done to a membership, as it had read it. -/
inductive MemberAnswer where
  | changed (target : Membership) (roleId : Uuid)
  | removed (target : Membership)
  deriving DecidableEq

abbrev MemberProg := Prog Membership.id Exc MemberAnswer

/-- `uq_memberships_tenant_id_user_id`. -/
def memberIndexes : List (Membership → Option (Uuid × Uuid)) :=
  [fun row => some (row.tenantId, row.userId)]

def memberClause (tenantId userId : Uuid) (row : Membership) : Bool :=
  row.tenantId = tenantId && row.userId = userId

def ownerClause (tenantId ownerId : Uuid) (row : Membership) : Bool :=
  row.tenantId = tenantId && row.roleId = ownerId

def Membership.withRole (roleId : Uuid) (row : Membership) : Membership :=
  { row with roleId := roleId }

/-- `_member_or_raise`. -/
def memberOrRaise (tenantId userId : Uuid) (next : Membership → MemberProg) : MemberProg :=
  .select (memberClause tenantId userId) fun
    | [] => .raise (.notFoundError "membership not found")
    | [row] => next row
    | _ => .raise (.unexpected "MultipleResultsFound")

/-- What a request does once the guard has passed. -/
inductive Ending where
  | setRole (roleId : Uuid)
  | remove
  deriving DecidableEq

def roleWritten (target : Membership) (roleId : Uuid) : Reply → MemberProg
  | .done => .ret (.changed target roleId)
  | .missing => .raise (.unexpected "StaleDataError")
  | .conflict => .raise .integrityError

/-- The flush: a role that is already there is not written, and the deletion of a row that
is gone is no error. -/
def finish (target : Membership) : Ending → MemberProg
  | .setRole roleId =>
    if target.roleId = roleId then .ret (.changed target roleId)
    else .write target.id (Membership.withRole roleId) (fun _ => rfl) (roleWritten target roleId)
  | .remove => .erase target.id (.ret (.removed target))

/-- The end of the guard. -/
def ownersCounted (target : Membership) (ending : Ending) (owners : List Membership) : MemberProg :=
  if owners.length ≤ 1 then
    .raise (.invariantViolationError "cannot remove or demote the last owner")
  else finish target ending

def countOwners (ownerId : Uuid) (target : Membership) (ending : Ending) : MemberProg :=
  .select (ownerClause target.tenantId ownerId) (ownersCounted target ending)

/-- The guard with the row it has read; a row the session has in hand keeps what was read
first. -/
def guardRow (ownerId : Uuid) (target : Membership) (ending : Ending) (row : Membership) :
    MemberProg :=
  if (if row.id = target.id then target else row).roleId ≠ ownerId then finish target ending
  else countOwners ownerId target ending

/-- `_guard_last_owner`. -/
def guardLastOwner (ownerId : Uuid) (target : Membership) (ending : Ending) : MemberProg :=
  memberOrRaise target.tenantId target.userId (guardRow ownerId target ending)

/-- A request of a member of a tenant; `permitted` is what the permission guard says. -/
inductive MemberCall where
  | changeMemberRole (permitted : Except Exc Unit) (tenantId userId : Uuid) (role : String)
  | removeMember (permitted : Except Exc Unit) (tenantId userId : Uuid)

section Programs

variable (isPrintable : Char → Bool) (roles : List Role)

def guarded (target : Membership) (ending : Ending) : MemberProg :=
  match systemRole isPrintable roles roleOwner with
  | .error raised => .raise raised
  | .ok owner => guardLastOwner owner.id target ending

/-- `change_member_role` with the membership it has read. -/
def changeRow (tenantId : Uuid) (role : String) (target : Membership) : MemberProg :=
  match tenantOrSystemRole isPrintable roles tenantId role with
  | .error raised => .raise raised
  | .ok newRole =>
    if newRole.code ≠ roleOwner then guarded isPrintable roles target (.setRole newRole.id)
    else finish target (.setRole newRole.id)

def MemberCall.prog : MemberCall → MemberProg
  | .changeMemberRole permitted tenantId userId role =>
    match permitted with
    | .error raised => .raise raised
    | .ok () => memberOrRaise tenantId userId (changeRow isPrintable roles tenantId role)
  | .removeMember permitted tenantId userId =>
    match permitted with
    | .error raised => .raise raised
    | .ok () => memberOrRaise tenantId userId fun target =>
      guarded isPrintable roles target .remove

end Programs

/-! ## Owners -/

abbrev MemberTable := Table Membership.id

abbrev MemberBase := Base Membership.id MemberAnswer

abbrev MemberPhase := Phase Membership.id Exc MemberAnswer

/-- The membership is one of an owner of the tenant. -/
def OwnerAt (ownerId tenantId : Uuid) (table : MemberTable) (id : Uuid) : Prop :=
  ∃ row, table.get id = some row ∧ row.tenantId = tenantId ∧ row.roleId = ownerId

def HasOwner (ownerId tenantId : Uuid) (table : MemberTable) : Prop :=
  ∃ id, OwnerAt ownerId tenantId table id

/-- No membership is new, and none changes its tenant or its user. -/
def SameMembers (now later : MemberTable) : Prop :=
  ∀ id row, later.get id = some row → ∃ old, now.get id = some old ∧
    old.tenantId = row.tenantId ∧ old.userId = row.userId

/-- The session has read the membership it works on, and has not ended. -/
inductive Working (ownerId : Uuid) (target : Membership) : MemberPhase → Prop where
  | guarding (ending : Ending) :
      Working ownerId target (.running (guardLastOwner ownerId target ending))
  | counting (ending : Ending) :
      Working ownerId target (.running (countOwners ownerId target ending))
  | finishing (ending : Ending) : Working ownerId target (.running (finish target ending))
  | changed (roleId : Uuid) : Working ownerId target (.running (.ret (.changed target roleId)))
  | removed : Working ownerId target (.running (.ret (.removed target)))

theorem Working.isOpen {ownerId : Uuid} {target : Membership} {phase : MemberPhase}
    (working : Working ownerId target phase) : phase.isOpen = true := by
  cases working <;> rfl

/-- The owners of a tenant stay owners, and the member is not made one. -/
structure Steady (ownerId : Uuid) (target : Membership) (now later : MemberTable) : Prop where
  stay : ∀ id, OwnerAt ownerId target.tenantId now id → OwnerAt ownerId target.tenantId later id
  spared : OwnerAt ownerId target.tenantId later target.id →
    OwnerAt ownerId target.tenantId now target.id

def memberContract (ownerId : Uuid) (first : MemberTable) :
    Contract Membership.id Exc MemberAnswer where
  invariant := fun base => ∀ tenantId, HasOwner ownerId tenantId first →
    HasOwner ownerId tenantId base.table
  guarantee := SameMembers
  assumes := fun phase now later => ∀ target, Working ownerId target phase →
    Steady ownerId target now later
  guarantee_refl := fun _ _ row found => ⟨row, found, rfl, rfl⟩
  guarantee_trans := by
    intro first second third earlier later id row found
    obtain ⟨middle, middleFound, tenant, user⟩ := later id row found
    obtain ⟨old, oldFound, oldTenant, oldUser⟩ := earlier id middle middleFound
    exact ⟨old, oldFound, oldTenant.trans tenant, oldUser.trans user⟩
  assumes_refl := fun _ _ _ _ => ⟨fun _ owner => owner, fun owner => owner⟩
  assumes_trans := by
    intro phase first second third earlier later target working
    obtain ⟨firstStay, firstSpared⟩ := earlier target working
    obtain ⟨thenStay, thenSpared⟩ := later target working
    exact ⟨fun id owner => thenStay id (firstStay id owner),
      fun owner => firstSpared (thenSpared owner)⟩

/-! ## What a transaction knows of its member -/

variable {ownerId : Uuid} {first : MemberTable} {target : Membership} {ending : Ending}
variable {changes : List (Change Uuid Membership)} {locks : List Uuid} {base last : MemberBase}
variable {phase : MemberPhase}

/-- The row is one of the tenant, if it is still there. -/
def SameTenant (target : Membership) (table : MemberTable) : Prop :=
  ∀ row, table.get target.id = some row → row.tenantId = target.tenantId ∧
    row.userId = target.userId

theorem SameTenant.later (same : SameTenant target base.table)
    (rely : (memberContract ownerId first).Rely memberIndexes phase changes locks base last) :
    SameTenant target last.table := by
  intro row found
  obtain ⟨old, oldFound, tenant, user⟩ := rely.guarantee target.id row found
  obtain ⟨oldTenant, oldUser⟩ := same old oldFound
  exact ⟨tenant.symm.trans oldTenant, user.symm.trans oldUser⟩

/-- What the member was read as still says whether it is an owner. -/
def Known (ownerId : Uuid) (target : Membership) (table : MemberTable) : Prop :=
  target.roleId ≠ ownerId → ¬OwnerAt ownerId target.tenantId table target.id

theorem Known.later (known : Known ownerId target base.table)
    (working : Working ownerId target phase)
    (rely : (memberContract ownerId first).Rely memberIndexes phase changes locks base last) :
    Known ownerId target last.table :=
  fun other owner => known other ((rely.assumes target working).spared owner)

/-- The end of the request leaves the tenant an owner. -/
def Safe (ownerId : Uuid) (target : Membership) (ending : Ending) (table : MemberTable) : Prop :=
  ending = .setRole ownerId ∨ ¬OwnerAt ownerId target.tenantId table target.id ∨
    ∃ other, other ≠ target.id ∧ OwnerAt ownerId target.tenantId table other

theorem Safe.later (safe : Safe ownerId target ending base.table)
    (working : Working ownerId target phase)
    (rely : (memberContract ownerId first).Rely memberIndexes phase changes locks base last) :
    Safe ownerId target ending last.table := by
  have steady := rely.assumes target working
  rcases safe with promotes | noOwner | ⟨other, differs, owner⟩
  · exact Or.inl promotes
  · exact Or.inr (Or.inl fun owner => noOwner (steady.spared owner))
  · exact Or.inr (Or.inr ⟨other, differs, steady.stay other owner⟩)

/-! ## Commits -/

theorem Safe.commits {answer : MemberAnswer} (new : Option Membership)
    (safe : Safe ownerId target ending base.table) (same : SameTenant target base.table)
    (invariant : (memberContract ownerId first).invariant base)
    (seen : ∀ id, (overlay changes base.table).get id =
      if id = target.id then new else base.table.get id)
    (rewritten : ∀ row, new = some row → ∃ old, base.table.get target.id = some old ∧
      old.tenantId = row.tenantId ∧ old.userId = row.userId)
    (promoted : ending = .setRole ownerId → base.table.get target.id ≠ none →
      ∃ row, new = some row ∧ row.roleId = ownerId) :
    (memberContract ownerId first).Commits answer changes locks base := by
  have others : ∀ tenantId id, id ≠ target.id → OwnerAt ownerId tenantId base.table id →
      OwnerAt ownerId tenantId (overlay changes base.table) id := by
    rintro tenantId id differs ⟨row, found, owner⟩
    refine ⟨row, ?_, owner⟩
    rw [seen, if_neg differs]
    exact found
  refine ⟨?_, ?_, fun _ _ => trivial, trivial⟩
  · intro tenantId had
    obtain ⟨id, owner⟩ := invariant tenantId had
    by_cases here : id = target.id
    swap
    · exact ⟨id, others tenantId id here owner⟩
    subst here
    obtain ⟨row, found, tenant, role⟩ := owner
    have sameTenant : tenantId = target.tenantId := tenant.symm.trans (same row found).1
    subst sameTenant
    rcases safe with promotes | noOwner | ⟨other, differs, ownerToo⟩
    · obtain ⟨now, stored, nowRole⟩ :=
        promoted promotes (by rw [found]; exact Option.some_ne_none _)
      obtain ⟨old, oldFound, oldTenant, _⟩ := rewritten now stored
      refine ⟨target.id, now, ?_, ?_, nowRole⟩
      · rw [seen, if_pos rfl]
        exact stored
      · rw [← oldTenant]
        exact (same old oldFound).1
    · exact (noOwner ⟨row, found, tenant, role⟩).elim
    · exact ⟨other, others _ other differs ownerToo⟩
  · intro id row found
    rw [seen] at found
    split at found
    · rename_i here
      rw [here]
      exact rewritten row found
    · exact ⟨row, found, rfl, rfl⟩

theorem unchanged_commits {answer : MemberAnswer}
    (invariant : (memberContract ownerId first).invariant base) :
    (memberContract ownerId first).Commits answer [] locks base :=
  ⟨invariant, (memberContract ownerId first).guarantee_refl _, fun _ _ => trivial, trivial⟩

theorem finish_outline (safe : Safe ownerId target ending base.table)
    (same : SameTenant target base.table) :
    (finish target ending).Outline (memberContract ownerId first) memberIndexes [] locks base := by
  cases ending with
  | setRole roleId =>
    by_cases unchanged : target.roleId = roleId
    · have finishes : finish target (.setRole roleId) = .ret (.changed target roleId) :=
        if_pos unchanged
      rw [finishes]
      exact fun last rely => unchanged_commits rely.invariant
    have finishes : finish target (.setRole roleId) = .write target.id
        (Membership.withRole roleId) (fun _ => rfl) (roleWritten target roleId) :=
      if_neg unchanged
    have working : Working ownerId target (.running (finish target (.setRole roleId))) :=
      .finishing _
    rw [finishes] at working ⊢
    intro last rely
    have safeThen := safe.later working rely
    have sameThen := same.later rely
    split
    · trivial
    · rename_i row found
      split
      · have placed : row.id = target.id := Table.key_of_get found
        intro final after
        have kept : final.table.get target.id = some row := by
          rw [after.kept target.id (by rw [← placed]; exact List.mem_cons_self)]
          exact found
        refine Safe.commits (some (row.withRole roleId))
          (safeThen.later (.changed roleId) after) (sameThen.later after) after.invariant ?_ ?_ ?_
        · intro id
          rw [overlay_append, get_apply]
          change (if id = row.id then _ else _) = _
          rw [placed]
          rfl
        · intro new stored
          cases stored
          exact ⟨row, kept, rfl, rfl⟩
        · intro promotes _
          cases promotes
          exact ⟨_, rfl, rfl⟩
      · trivial
  | remove =>
    intro last rely
    have safeThen := safe.later (.finishing .remove) rely
    have sameThen := same.later rely
    split
    · intro final after
      refine Safe.commits none (safeThen.later .removed after) (sameThen.later after)
        after.invariant ?_ ?_ ?_
      · intro id
        rw [overlay_append, get_apply]
        rfl
      · intro new stored
        cases stored
      · intro promotes
        cases promotes
    · exact fun final after => unchanged_commits after.invariant

/-! ## Outlines -/

theorem countOwners_outline (same : SameTenant target base.table) :
    (countOwners ownerId target ending).Outline (memberContract ownerId first) memberIndexes []
      locks base := by
  intro last rely
  unfold ownersCounted
  split
  · trivial
  · rename_i several
    refine finish_outline (Or.inr (Or.inr ?_)) (same.later rely)
    have distinct : ((last.table.select (ownerClause target.tenantId ownerId)).map
        Membership.id).Nodup := last.table.nodup.sublist (List.filter_sublist.map _)
    -- of two owners with different ids, one is not the member
    obtain ⟨row, member, differs⟩ : ∃ row ∈ last.table.select (ownerClause target.tenantId ownerId),
        row.id ≠ target.id := by
      by_contra none
      push Not at none
      refine several ?_
      change (last.table.select (ownerClause target.tenantId ownerId)).length ≤ 1
      have only : (last.table.select (ownerClause target.tenantId ownerId)).map Membership.id ⊆
          [target.id] := by
        intro id inside
        obtain ⟨row, member, rfl⟩ := List.mem_map.mp inside
        exact List.mem_singleton.mpr (none row member)
      rw [← List.length_map Membership.id]
      exact (distinct.subperm only).length_le
    obtain ⟨stored, chosen⟩ := (Table.mem_select _ _ _).mp member
    rw [ownerClause, Bool.and_eq_true, decide_eq_true_eq, decide_eq_true_eq] at chosen
    exact ⟨row.id, differs, row, Table.get_of_mem _ _ stored, chosen.1, chosen.2⟩

theorem memberOrRaise_outline {tenantId userId : Uuid} {next : Membership → MemberProg}
    (rest : ∀ last row, (memberContract ownerId first).Rely memberIndexes
      (.running (memberOrRaise tenantId userId next)) [] locks base last →
      last.table.get row.id = some row → row.tenantId = tenantId → row.userId = userId →
      last.table.select (memberClause tenantId userId) = [row] →
      (next row).Outline (memberContract ownerId first) memberIndexes [] locks last) :
    (memberOrRaise tenantId userId next).Outline (memberContract ownerId first) memberIndexes []
      locks base := by
  intro last rely
  change Prog.Outline _ _ (match last.table.select (memberClause tenantId userId) with
    | [] => .raise (.notFoundError "membership not found")
    | [row] => next row
    | _ => .raise (.unexpected "MultipleResultsFound")) _ _ _
  split
  · trivial
  · rename_i row found
    have member : row ∈ last.table.select (memberClause tenantId userId) := by
      rw [found]
      exact List.mem_singleton_self _
    obtain ⟨stored, chosen⟩ := (Table.mem_select _ _ _).mp member
    rw [memberClause, Bool.and_eq_true, decide_eq_true_eq, decide_eq_true_eq] at chosen
    exact rest last row rely (Table.get_of_mem _ _ stored) chosen.1 chosen.2 found
  · trivial

theorem guardLastOwner_outline (stored : base.table.get target.id = some target) :
    (guardLastOwner ownerId target ending).Outline (memberContract ownerId first) memberIndexes []
      locks base := by
  have same : SameTenant target base.table := by
    intro row found
    rw [stored] at found
    cases found
    exact ⟨rfl, rfl⟩
  have known : Known ownerId target base.table := by
    rintro other ⟨row, found, _, role⟩
    rw [stored] at found
    cases found
    exact other role
  refine memberOrRaise_outline fun last row rely _ _ _ only => ?_
  have sameThen := same.later rely
  by_cases notOwner : (if row.id = target.id then target else row).roleId ≠ ownerId
  · rw [guardRow, if_pos notOwner]
    refine finish_outline (Or.inr (Or.inl ?_)) sameThen
    by_cases here : row.id = target.id
    · rw [if_pos here] at notOwner
      exact known.later (.guarding ending) rely notOwner
    · -- the member is gone, another row has taken its place
      rintro ⟨gone, found, _⟩
      obtain ⟨tenant, user⟩ := sameThen gone found
      have member : gone ∈ last.table.select (memberClause target.tenantId target.userId) := by
        refine (Table.mem_select _ _ _).mpr ⟨Table.mem_of_get found, ?_⟩
        rw [memberClause, tenant, user]
        simp
      rw [only, List.mem_singleton] at member
      rw [← member] at here
      exact here (Table.key_of_get found)
  · rw [guardRow, if_neg notOwner]
    exact countOwners_outline sameThen

section Calls

variable {isPrintable : Char → Bool} {roles : List Role} {owner : Role}

theorem guarded_outline (provisioned : systemRole isPrintable roles roleOwner = .ok owner)
    (stored : base.table.get target.id = some target) :
    (guarded isPrintable roles target ending).Outline (memberContract owner.id first) memberIndexes
      [] locks base := by
  unfold guarded
  rw [provisioned]
  exact guardLastOwner_outline stored

theorem MemberCall.outline (provisioned : systemRole isPrintable roles roleOwner = .ok owner)
    (resolves : ∀ role ∈ roles, role.code = roleOwner → role.id = owner.id) (call : MemberCall) :
    (call.prog isPrintable roles).Outline (memberContract owner.id first) memberIndexes [] []
      base := by
  cases call with
  | changeMemberRole permitted tenantId userId role =>
    cases permitted with
    | error raised => trivial
    | ok passed =>
      refine memberOrRaise_outline fun last row _ stored _ _ _ => ?_
      unfold changeRow
      split
      · trivial
      · rename_i newRole found
        split
        · exact guarded_outline provisioned stored
        · rename_i isOwner
          have same := resolves newRole (tenantOrSystemRole_mem found) (not_not.mp isOwner)
          refine finish_outline (Or.inl (by rw [same])) ?_
          intro other again
          rw [stored] at again
          cases again
          exact ⟨rfl, rfl⟩
  | removeMember permitted tenantId userId =>
    cases permitted with
    | error raised => trivial
    | ok passed =>
      exact memberOrRaise_outline fun last row _ stored _ _ _ =>
        guarded_outline provisioned stored

end Calls

/-! ## Runs -/

section Runs

variable {Tid : Type} [DecidableEq Tid]

abbrev MemberWorld (Tid : Type) := World Tid Membership.id Exc MemberAnswer

def memberStart (isPrintable : Char → Bool) (roles : List Role) (table : MemberTable)
    (calls : Tid → MemberCall) : MemberWorld Tid :=
  World.start table fun tid => (calls tid).prog isPrintable roles

/-- The condition on a commit: while another transaction works on a member, the commit takes
the owner role from no member of that tenant and does not give it to that member. -/
def OwnersSteady (ownerId : Uuid) (world : MemberWorld Tid) (tid : Tid) (_ : MemberWorld Tid) :
    Prop :=
  ∀ answer other target, other ≠ tid → (world.session tid).phase = .running (.ret answer) →
    Working ownerId target (world.session other).phase →
    Steady ownerId target world.table (world.view tid)

/-- In every such run a tenant that has an owner keeps one. -/
theorem tenant_keeps_an_owner (isPrintable : Char → Bool) (roles : List Role) (owner : Role)
    (provisioned : systemRole isPrintable roles roleOwner = .ok owner)
    (resolves : ∀ role ∈ roles, role.code = roleOwner → role.id = owner.id)
    (calls : Tid → MemberCall) (table : MemberTable)
    (unique : ∀ index ∈ memberIndexes, table.Unique index)
    (last : MemberWorld Tid × List MemberAnswer)
    (run : World.LogRun memberIndexes True (OwnersSteady owner.id)
      (memberStart isPrintable roles table calls, []) last)
    (tenantId : Uuid) (has : HasOwner owner.id tenantId table) :
    HasOwner owner.id tenantId last.1.table := by
  have start : Upholds (memberContract owner.id table) memberIndexes
      (memberStart isPrintable roles table calls, []) :=
    upholds_start table _ unique (fun _ had => had)
      fun tid => (calls tid).outline provisioned resolves
  obtain ⟨ends, _⟩ := start.run run (by
    intro world tid next step steady other differs target working
    cases step with
    | commit answer done => exact steady answer other target differs done working
    | statement statement ready =>
      exact (memberContract owner.id table).assumes_refl _ _ target working
    | fail error raised => exact (memberContract owner.id table).assumes_refl _ _ target working
    | abort allowed open_ => exact (memberContract owner.id table).assumes_refl _ _ target working)
  exact ends.invariant tenantId has

end Runs

namespace Sample

local instance twoRemovals : NeZero 2 := ⟨two_ne_zero⟩

def ownerRole : Role := ⟨1, none, "owner"⟩

def adminRole : Role := ⟨2, none, "admin"⟩

def systemRoles : List Role := [ownerRole, adminRole]

/-- A tenant with two owners. -/
def twoOwners : MemberTable := ⟨[⟨11, 5, 8, 1⟩, ⟨12, 5, 9, 1⟩], by decide⟩

/-- Each owner removes the other one. -/
def bothRemoved : Fin 2 → MemberCall := ![.removeMember (.ok ()) 5 8, .removeMember (.ok ()) 5 9]

def removals : MemberWorld (Fin 2) := memberStart (fun _ => true) systemRoles twoOwners bothRemoved

/-- Both count two owners before one of them deletes its row. -/
def ownerless : MemberWorld (Fin 2) :=
  removals.follow memberIndexes [0, 0, 0, 1, 1, 1, 0, 0, 1, 1]

theorem concurrent_removals_leave_no_owner :
    World.Reaches memberIndexes True removals ownerless ∧ HasOwner 1 5 removals.table ∧
      ¬HasOwner 1 5 ownerless.table := by
  refine ⟨follow_reaches _ _, ⟨11, ⟨11, 5, 8, 1⟩, by decide, rfl, rfl⟩, ?_⟩
  rintro ⟨id, row, found, _⟩
  have empty : ownerless.table.rows = [] := by decide +kernel
  have member := Table.mem_of_get found
  rw [empty] at member
  cases member

def ownerRows (table : MemberTable) : List Membership :=
  table.rows.filter fun row => row.roleId = 1

theorem ownerAt_iff (tenantId id : Uuid) (table : MemberTable) :
    OwnerAt 1 tenantId table id ↔
      ∃ row ∈ ownerRows table, row.id = id ∧ row.tenantId = tenantId := by
  simp only [OwnerAt, ownerRows, Table.get_eq_some_iff, List.mem_filter, decide_eq_true_eq]
  constructor
  · rintro ⟨row, ⟨member, same⟩, tenant, owner⟩
    exact ⟨row, ⟨member, owner⟩, same, tenant⟩
  · rintro ⟨row, ⟨member, owner⟩, same, tenant⟩
    exact ⟨row, ⟨member, same⟩, tenant, owner⟩

/-- The step is no commit, or it leaves the owners as they are, or all others have ended. -/
def undisturbed (world : MemberWorld (Fin 2)) (tid : Fin 2) : Bool :=
  match (world.session tid).phase with
  | .running (.ret _) =>
    decide (ownerRows world.table = ownerRows (world.view tid)) ||
      decide (∀ other, other ≠ tid → (world.session other).phase.isOpen = false)
  | _ => true

theorem steady_of_undisturbed (world : MemberWorld (Fin 2)) (tid : Fin 2)
    (next : MemberWorld (Fin 2)) (checked : undisturbed world tid = true) :
    OwnersSteady 1 world tid next := by
  intro answer other target differs done working
  rw [undisturbed, done, Bool.or_eq_true, decide_eq_true_eq, decide_eq_true_eq] at checked
  rcases checked with same | ended
  · refine ⟨fun id => ?_, ?_⟩
    · rw [ownerAt_iff, ownerAt_iff, same]
      exact fun owner => owner
    · rw [ownerAt_iff, ownerAt_iff, same]
      exact fun owner => owner
  · have closed := ended other differs
    rw [working.isOpen] at closed
    cases closed

/-- Two owners and another member. -/
def threeMembers : MemberTable := ⟨[⟨11, 5, 8, 1⟩, ⟨12, 5, 9, 1⟩, ⟨13, 5, 10, 2⟩], by decide⟩

def twoRemoved : Fin 2 → MemberCall := ![.removeMember (.ok ()) 5 8, .removeMember (.ok ()) 5 10]

def removal : MemberWorld (Fin 2) :=
  memberStart (fun _ => true) systemRoles threeMembers twoRemoved

/-- The member is removed after the owners have been counted for the removal of an owner. -/
def removalSteps : List (Fin 2) := [0, 0, 0, 1, 1, 1, 1, 0, 0]

theorem removed_owner_leaves_another :
    ∃ last, World.LogRun memberIndexes True (OwnersSteady 1) (removal, []) last ∧
      last.1.table.rows = [⟨12, 5, 9, 1⟩] ∧ HasOwner 1 5 last.1.table := by
  have along : World.Along memberIndexes (OwnersSteady 1) removal removalSteps :=
    World.along_of_checks steady_of_undisturbed _ _ (by decide +kernel)
  have logged : ∃ log, World.LogRun memberIndexes True (OwnersSteady 1) (removal, [])
      (removal.follow memberIndexes removalSteps, log) := along.logged []
  have rows : (removal.follow memberIndexes removalSteps).table.rows = [⟨12, 5, 9, 1⟩] := by
    decide +kernel
  obtain ⟨log, run⟩ := logged
  refine ⟨_, run, rows, ?_⟩
  exact tenant_keeps_an_owner (fun _ => true) systemRoles ownerRole rfl (by decide) twoRemoved
    threeMembers (by decide) _ run 5 ⟨11, ⟨11, 5, 8, 1⟩, by decide, rfl, rfl⟩

end Sample

end BackendCore.Tenants
