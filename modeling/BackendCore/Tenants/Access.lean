import BackendCore.Shared.Events
import BackendCore.Tenants.Models

/-!
# What a system role may do

`sync_system_roles` of `core/tenants/sync.py`, `get_permission_codes` of
`core/tenants/service.py` and `PermissionGuard.require` of `core/auth/guard.py`.  Whatever the
tables held before a start, after it a member with a system role may do what the code declares.
-/

set_option autoImplicit false

namespace BackendCore.Tenants

open BackendCore.Python

/-! ## The guard -/

/-- `role_permissions` as pairs; the last two fields are the status columns. -/
structure AccessDb where
  roles : List Role
  grants : Finset (Uuid × String)
  members : List Membership
  isActive : Membership → Bool
  tenantActive : Uuid → Bool

def getPermissionCodes (db : AccessDb) (tenantId userId : Uuid) : Finset String :=
  (db.grants.filter fun grant => ∃ member ∈ db.members, member.roleId = grant.1 ∧
    member.tenantId = tenantId ∧ member.userId = userId ∧ db.isActive member = true ∧
      db.tenantActive tenantId = true).image Prod.snd

def missingPermission (permission : String) : Exc :=
  .permissionDeniedError ("missing permission: " ++ permission)

/-- `require` of a guard with an `AccessService`, or without one. -/
def guardRequire (db : AccessDb) (tenantId : Uuid) (wired : Bool) (actor : Events.Actor)
    (permission : String) : Except Exc Unit :=
  match actor.kind with
  | .user =>
    match actor.id.filter fun _ => wired with
    | none => .error (missingPermission permission)
    | some text =>
      match Uuid.ofStr? text with
      | none => .error .valueError
      | some userId =>
        if permission ∈ getPermissionCodes db tenantId userId then .ok ()
        else .error (missingPermission permission)
  | _ => .ok ()

/-! ## The sync at startup -/

def isSystem (code : String) (role : Role) : Bool := role.tenantId.isNone && role.code = code

/-- The unique index on tenant and code takes `NULL` as a value. -/
def upsertRole (newId : Uuid) (code : String) (roles : List Role) : Except Exc (List Role) :=
  if roles.any (isSystem code) then .ok roles
  else if newId ∈ roles.map Role.id then .error .integrityError
  else .ok (roles ++ [⟨newId, none, code⟩])

def reconcile (roleId : Uuid) (declared : Finset String) (grants : Finset (Uuid × String)) :
    Finset (Uuid × String) :=
  let current := (grants.filter fun grant => grant.1 = roleId).image Prod.snd
  (grants ∪ (declared \ current).image (roleId, ·)) \ (current \ declared).image (roleId, ·)

/-- One turn of the loop. -/
def syncRole (registered : String → Bool) (newId : String → Uuid) (db : AccessDb)
    (role : String × Finset String) : Except Exc AccessDb :=
  if ∃ permission ∈ role.2, registered permission = false then .error (.unexpected "RuntimeError")
  else upsertRole (newId role.1) role.1 db.roles >>= fun roles =>
    match roles.filter (isSystem role.1) with
    | [row] => .ok { db with roles := roles, grants := reconcile row.id role.2 db.grants }
    | _ => .error (.unexpected "MultipleResultsFound")

/-- The transaction up to its commit; what it raises ends the start and rolls it back. -/
def syncSystemRoles (registered : String → Bool) (newId : String → Uuid)
    (declared : List (String × Finset String)) (db : AccessDb) : Except Exc AccessDb :=
  declared.foldlM (syncRole registered newId) db

theorem mem_reconcile (roleId : Uuid) (declared : Finset String) (grants : Finset (Uuid × String))
    (id : Uuid) (permission : String) :
    (id, permission) ∈ reconcile roleId declared grants ↔
      if id = roleId then permission ∈ declared else (id, permission) ∈ grants := by
  have current : ∀ code, (code ∈ (grants.filter fun grant => grant.1 = roleId).image Prod.snd) ↔
      (roleId, code) ∈ grants := by
    intro code
    simp only [Finset.mem_image, Finset.mem_filter, Prod.exists]
    constructor
    · rintro ⟨other, _, ⟨stored, rfl⟩, rfl⟩
      exact stored
    · intro stored
      exact ⟨roleId, code, ⟨stored, rfl⟩, rfl⟩
  have paired : ∀ codes : Finset String, (id, permission) ∈ codes.image (roleId, ·) ↔
      permission ∈ codes ∧ id = roleId := by
    intro codes
    simp only [Finset.mem_image, Prod.mk.injEq]
    constructor
    · rintro ⟨code, member, rfl, rfl⟩
      exact ⟨member, rfl⟩
    · rintro ⟨member, rfl⟩
      exact ⟨permission, member, rfl, rfl⟩
  unfold reconcile
  simp only [Finset.mem_sdiff, Finset.mem_union, paired, current]
  by_cases here : id = roleId
  · subst here
    simp only [if_true, and_true]
    tauto
  · simp [here]

/-- The role is there once, with these permissions. -/
def Declares (db : AccessDb) (role : String × Finset String) : Prop :=
  ∃ row, db.roles.filter (isSystem role.1) = [row] ∧
    ∀ permission, (row.id, permission) ∈ db.grants ↔ permission ∈ role.2

variable {registered : String → Bool} {newId : String → Uuid} {db final : AccessDb}

theorem upsertRole_ok {id : Uuid} {code : String} {roles upserted : List Role}
    (run : upsertRole id code roles = .ok upserted) (distinct : (roles.map Role.id).Nodup) :
    (upserted.map Role.id).Nodup ∧ ∀ other, other ≠ code →
      upserted.filter (isSystem other) = roles.filter (isSystem other) := by
  unfold upsertRole at run
  split at run
  · cases run
    exact ⟨distinct, fun _ _ => rfl⟩
  · split at run
    · cases run
    · rename_i fresh
      cases run
      refine ⟨?_, ?_⟩
      · rw [List.map_append]
        exact distinct.append (List.nodup_singleton _) (by simpa using fresh)
      · intro other apart
        simp [isSystem, Ne.symm apart]

/-- One turn leaves its role as declared, and the roles of other codes as they were. -/
theorem syncRole_ok {role : String × Finset String}
    (run : syncRole registered newId db role = .ok final)
    (distinct : (db.roles.map Role.id).Nodup) :
    (final.roles.map Role.id).Nodup ∧ Declares final role ∧
      ∀ other, other.1 ≠ role.1 → Declares db other → Declares final other := by
  unfold syncRole at run
  split at run
  · cases run
  obtain ⟨roles, upserted, rest⟩ := (bind_ok_iff _ _ _).mp run
  obtain ⟨nodup, others⟩ := upsertRole_ok upserted distinct
  split at rest
  · rename_i row only
    cases rest
    refine ⟨nodup, ⟨row, only, ?_⟩, ?_⟩
    · intro permission
      rw [mem_reconcile, if_pos rfl]
    · rintro other apart ⟨kept, single, holds⟩
      have same : roles.filter (isSystem other.1) = [kept] := (others other.1 apart).trans single
      refine ⟨kept, same, ?_⟩
      intro permission
      -- two system roles with different codes have different ids
      have differs : kept.id ≠ row.id := by
        intro equal
        have left := List.mem_filter.mp (same ▸ List.mem_singleton_self kept)
        have right := List.mem_filter.mp (only ▸ List.mem_singleton_self row)
        have rows := List.inj_on_of_nodup_map nodup left.1 right.1 equal
        have codes := left.2
        rw [rows] at codes
        simp only [isSystem, Bool.and_eq_true, decide_eq_true_eq] at codes right
        exact apart (codes.2.symm.trans right.2.2)
      rw [mem_reconcile, if_neg differs, holds]
  · cases rest

theorem syncSystemRoles_ok {declared : List (String × Finset String)}
    (run : syncSystemRoles registered newId declared db = .ok final)
    (distinct : (db.roles.map Role.id).Nodup) (codes : (declared.map Prod.fst).Nodup) :
    (∀ role ∈ declared, Declares final role) ∧
      ∀ other, other.1 ∉ declared.map Prod.fst → Declares db other → Declares final other := by
  induction declared generalizing db with
  | nil =>
    cases run
    exact ⟨fun _ member => absurd member List.not_mem_nil, fun _ _ stands => stands⟩
  | cons first rest hypothesis =>
    rw [syncSystemRoles, List.foldlM_cons] at run
    obtain ⟨next, turn, later⟩ := (bind_ok_iff _ _ _).mp run
    rw [List.map_cons, List.nodup_cons] at codes
    obtain ⟨nodup, declares, keeps⟩ := syncRole_ok turn distinct
    obtain ⟨others, kept⟩ := hypothesis later nodup codes.2
    refine ⟨List.forall_mem_cons.mpr ⟨kept first codes.1 declares, others⟩, ?_⟩
    intro other apart stands
    rw [List.map_cons, List.mem_cons, not_or] at apart
    exact kept other apart.2 (keeps other apart.1 stands)

/-- After a start, the guard lets an active member with a system role do exactly what the code
declares for the role. -/
theorem members_may_do_what_is_declared {declared : List (String × Finset String)}
    (run : syncSystemRoles registered newId declared db = .ok final)
    (distinct : (db.roles.map Role.id).Nodup) (codes : (declared.map Prod.fst).Nodup)
    {role : String × Finset String} (entry : role ∈ declared) {row : Role}
    (system : row ∈ final.roles ∧ isSystem role.1 row = true) {member : Membership}
    (stored : member ∈ final.members ∧ member.roleId = row.id)
    (active : final.isActive member = true ∧ final.tenantActive member.tenantId = true)
    (only : ∀ other ∈ final.members, other.tenantId = member.tenantId →
      other.userId = member.userId → other = member) (permission : String) :
    guardRequire final member.tenantId true ⟨.user, some (Uuid.toStr member.userId)⟩ permission =
      if permission ∈ role.2 then .ok () else .error (missingPermission permission) := by
  obtain ⟨found, single, holds⟩ := (syncSystemRoles_ok run distinct codes).1 role entry
  have same : row = found := by
    have listed := List.mem_filter.mpr system
    rw [single] at listed
    exact List.mem_singleton.mp listed
  have codesOf : permission ∈ getPermissionCodes final member.tenantId member.userId ↔
      permission ∈ role.2 := by
    rw [← holds permission, ← same, ← stored.2]
    simp only [getPermissionCodes, Finset.mem_image, Finset.mem_filter, Prod.exists]
    constructor
    · rintro ⟨id, _, ⟨granted, other, there, rfl, tenant, user, _⟩, rfl⟩
      rw [only other there tenant user] at granted
      exact granted
    · intro granted
      exact ⟨member.roleId, permission, ⟨granted, member, stored.1, rfl, rfl, rfl, active⟩, rfl⟩
  unfold guardRequire
  simp only [Option.filter_some, if_true, Uuid.ofStr?_toStr, codesOf]

namespace Sample

def ownerGrants : String × Finset String := (roleOwner, {"tenants.tenant:update"})

/-- Before the first start there is a member to come, and no role. -/
def unsynced : AccessDb := ⟨[], ∅, [⟨11, 5, 8, 1⟩], fun _ => true, fun _ => true⟩

def synced : AccessDb :=
  { unsynced with roles := [⟨1, none, roleOwner⟩], grants := reconcile 1 ownerGrants.2 ∅ }

theorem owner_may_update :
    guardRequire synced 5 true ⟨.user, some (Uuid.toStr 8)⟩ "tenants.tenant:update" = .ok () := by
  have run : syncSystemRoles (fun _ => true) (fun _ => 1) [ownerGrants] unsynced = .ok synced :=
    rfl
  have system : (⟨1, none, roleOwner⟩ : Role) ∈ synced.roles ∧
      isSystem roleOwner ⟨1, none, roleOwner⟩ = true := ⟨List.mem_singleton_self _, by decide⟩
  have stored : (⟨11, 5, 8, 1⟩ : Membership) ∈ synced.members ∧ (1 : Uuid) = 1 :=
    ⟨List.mem_singleton_self _, rfl⟩
  have may := members_may_do_what_is_declared run List.nodup_nil (List.nodup_singleton _)
    (List.mem_singleton_self ownerGrants) system stored ⟨rfl, rfl⟩
    (fun other there _ _ => List.mem_singleton.mp there) "tenants.tenant:update"
  exact may.trans (if_pos (Finset.mem_singleton_self _))

end Sample

end BackendCore.Tenants
