import BackendCore.Lib.Advisory
import BackendCore.Saas.Entitlements

/-!
# Plan limits

`modules/saas/entitlements/service.py`: `get_limit` and `require_within_limit`, called by
transactions that create objects of one tenant.  The limit is read first, then the
advisory lock of the tenant and the limit is taken, and the objects are counted under
it.  The transactions may read, lock and delete whatever they like besides; the hash
of the lock's text is a parameter.
-/

set_option autoImplicit false

namespace BackendCore.Saas

open BackendCore.Python BackendCore.ReadCommitted

/-! ## Rows -/

inductive EntitlementKind where
  | flag
  | limit
  deriving DecidableEq

/-- A row of the tariff grid with its check constraints. -/
structure PlanEntitlement where
  planCode : String
  entitlementKey : String
  kind : EntitlementKind
  boolValue : Option Bool
  intValue : Option Int
  valueMatchesKind : kind = .flag ∧ boolValue ≠ none ∧ intValue = none ∨
    kind = .limit ∧ boolValue = none
  limitNonNegative : ∀ value, intValue = some value → 0 ≤ value
  deriving DecidableEq

/-- The rows the transactions see; `advisory` stands for an advisory lock. -/
inductive LimitRow (Object : Type) where
  | tenantEntitlement (tenantId : Uuid) (row : TenantEntitlement)
  | planEntitlement (row : PlanEntitlement)
  | advisory (lock : Int)
  | object (tenantId objectId : Uuid) (content : Object)
  deriving DecidableEq

inductive LimitKey where
  | tenantEntitlement (tenantId : Uuid)
  | planEntitlement (planCode entitlementKey : String)
  | advisory (lock : Int)
  | object (objectId : Uuid)
  deriving DecidableEq

variable {Object A J : Type}

def LimitRow.key : LimitRow Object → LimitKey
  | .tenantEntitlement tenantId _ => .tenantEntitlement tenantId
  | .planEntitlement row => .planEntitlement row.planCode row.entitlementKey
  | .advisory lock => .advisory lock
  | .object _ objectId _ => .object objectId

def LimitKey.isObject : LimitKey → Bool
  | .object _ => true
  | _ => false

/-- `ConflictError(f"plan limit '{limit_key}' reached ({current}/{limit})")`, or an error of
the caller's own. -/
inductive LimitFailure where
  | limitReached (limitKey : String) (current : Nat) (limit : Int)
  | own (error : Exc)
  deriving DecidableEq

def LimitFailure.exc : LimitFailure → Exc
  | .limitReached limitKey current limit => .conflictError ("plan limit '" ++ limitKey ++
      "' reached (" ++ toString current ++ "/" ++ toString limit ++ ")")
  | .own error => error

abbrev LimitTable (Object : Type) := Table (LimitRow.key : LimitRow Object → LimitKey)

abbrev LimitProg (Object A : Type) :=
  Prog (LimitRow.key : LimitRow Object → LimitKey) LimitFailure A

/-! ## Statements -/

def isCurrentRow (tenantId : Uuid) : LimitRow Object → Bool
  | .tenantEntitlement owner _ => owner = tenantId
  | _ => false

def isGrant (planCode key : String) (kind : EntitlementKind) : LimitRow Object → Bool
  | .planEntitlement row => row.planCode = planCode && row.entitlementKey = key && row.kind = kind
  | _ => false

def isObjectOf (tenantId : Uuid) : LimitRow Object → Bool
  | .object owner _ _ => owner = tenantId
  | _ => false

/-- `_current_row`. -/
def currentRow (rows : List (LimitRow Object)) : Option TenantEntitlement :=
  match rows with
  | .tenantEntitlement _ row :: _ => some row
  | _ => none

def LimitRow.intValue : LimitRow Object → Option Int
  | .planEntitlement row => row.intValue
  | _ => none

def getLimit (tenantId : Uuid) (limitKey : String) (now : DateTime)
    (next : Option Int → LimitProg Object A) : LimitProg Object A :=
  .select (isCurrentRow tenantId) fun rows =>
    match effectivePlanCode now ⟨currentRow rows, []⟩ with
    | none => next none
    | some planCode =>
      .select (isGrant planCode limitKey .limit) fun grants =>
        match grants with
        | [] => next none
        | [grant] => next grant.intValue
        | _ => .raise (.own (.unexpected "MultipleResultsFound"))

def limitLock (hash : String → Int) (tenantId : Uuid) (limitKey : String) : Int :=
  hash ("saas.limit:" ++ Uuid.toStr tenantId ++ ":" ++ limitKey)

def requireWithinLimit (hash : String → Int) (tenantId : Uuid) (limitKey : String)
    (now : DateTime) (next : LimitProg Object A) : LimitProg Object A :=
  getLimit tenantId limitKey now fun
    | none => next
    | some limit =>
      .advisory (.advisory (limitLock hash tenantId limitKey))
        (.select (isObjectOf tenantId) fun rows =>
          if limit ≤ rows.length then .raise (.limitReached limitKey rows.length limit)
          else next)

/-! ## Transactions -/

/-- Transactions that create objects of the tenant only after a check of their own, one for
each object, at times of a kind.  They read, lock and delete as they like. -/
inductive Orderly (hash : String → Int) (tenantId : Uuid) (limitKey : String)
    (times : DateTime → Prop) : Bool → LimitProg Object A → Prop where
  | ret (checked : Bool) (answer : A) : Orderly hash tenantId limitKey times checked (.ret answer)
  | raise (checked : Bool) (error : Exc) :
      Orderly hash tenantId limitKey times checked (.raise (.own error))
  | select (checked : Bool) (clause : LimitRow Object → Bool)
      (next : List (LimitRow Object) → LimitProg Object A)
      (rest : ∀ rows, Orderly hash tenantId limitKey times checked (next rows)) :
      Orderly hash tenantId limitKey times checked (.select clause next)
  | lock (checked : Bool) (clause : LimitRow Object → Bool)
      (next : List (LimitRow Object) → LimitProg Object A)
      (rest : ∀ rows, Orderly hash tenantId limitKey times checked (next rows)) :
      Orderly hash tenantId limitKey times checked (.lock clause next)
  | delete (checked : Bool) (objectId : Uuid) (next : LimitProg Object A)
      (rest : Orderly hash tenantId limitKey times checked next) :
      Orderly hash tenantId limitKey times checked (.erase (.object objectId) next)
  | require (checked : Bool) (now : DateTime) (next : LimitProg Object A) (covered : times now)
      (rest : Orderly hash tenantId limitKey times true next) :
      Orderly hash tenantId limitKey times checked
        (requireWithinLimit hash tenantId limitKey now next)
  | create (objectId : Uuid) (content : Object) (next : Reply → LimitProg Object A)
      (rest : ∀ reply, Orderly hash tenantId limitKey times false (next reply)) :
      Orderly hash tenantId limitKey times true
        (.insert (.object tenantId objectId content) next)

/-- What `get_limit` answers on the rows of a table. -/
def limitAt (table : LimitTable Object) (tenantId : Uuid) (limitKey : String) (now : DateTime) :
    Option Int :=
  match effectivePlanCode now ⟨currentRow (table.select (isCurrentRow tenantId)), []⟩ with
  | none => none
  | some planCode =>
    match table.select (isGrant planCode limitKey .limit) with
    | [grant] => grant.intValue
    | _ => none

def objectCount (tenantId : Uuid) (table : LimitTable Object) : Nat :=
  (table.select (isObjectOf tenantId)).length

/-! ## Rows that stand still -/

theorem select_currentRow_congr {left right : LimitTable Object} {tenantId : Uuid}
    (same : left.get (.tenantEntitlement tenantId) = right.get (.tenantEntitlement tenantId)) :
    left.select (isCurrentRow tenantId) = right.select (isCurrentRow tenantId) := by
  have fixed : ∀ row : LimitRow Object, isCurrentRow tenantId row = true →
      row.key = .tenantEntitlement tenantId := by
    intro row chosen
    cases row with
    | tenantEntitlement owner entitlement =>
      exact congrArg LimitKey.tenantEntitlement (of_decide_eq_true chosen)
    | planEntitlement grant => nomatch chosen
    | advisory lock => nomatch chosen
    | object owner objectId content => nomatch chosen
  rw [left.select_of_key _ _ fixed, right.select_of_key _ _ fixed, same]

theorem select_grant_congr {left right : LimitTable Object} {planCode key : String}
    {kind : EntitlementKind}
    (same : left.get (.planEntitlement planCode key) = right.get (.planEntitlement planCode key)) :
    left.select (isGrant planCode key kind) = right.select (isGrant planCode key kind) := by
  have fixed : ∀ row : LimitRow Object, isGrant planCode key kind row = true →
      row.key = .planEntitlement planCode key := by
    intro row chosen
    cases row with
    | planEntitlement grant =>
      rw [isGrant, Bool.and_eq_true, Bool.and_eq_true] at chosen
      rw [LimitRow.key, of_decide_eq_true chosen.1.1, of_decide_eq_true chosen.1.2]
    | tenantEntitlement owner entitlement => nomatch chosen
    | advisory lock => nomatch chosen
    | object owner objectId content => nomatch chosen
  rw [left.select_of_key _ _ fixed, right.select_of_key _ _ fixed, same]

/-- The tables agree on everything but objects. -/
def SameGrants (left right : LimitTable Object) : Prop :=
  ∀ k : LimitKey, k.isObject = false → left.get k = right.get k

/-! ## The contract -/

section Limits

variable (hash : String → Int) (tenantId : Uuid) (limitKey : String) (limit : Int)
variable (table : LimitTable Object)

/-- Only a holder of the lock adds objects, and their number stays within the limit or the
number at the start. -/
def limitContract : Contract (LimitRow.key : LimitRow Object → LimitKey) LimitFailure A where
  invariant := fun base => SameGrants base.table table ∧
    (objectCount tenantId base.table : Int) ≤ max limit (objectCount tenantId table)
  guards := fun k now later => k = .advisory (limitLock hash tenantId limitKey) →
    Within (isObjectOf tenantId) later now
  raises := fun error => ∀ current reached, error = .limitReached limitKey current reached →
    reached = limit ∧ limit ≤ current
  guards_refl := fun _ table _ => .refl _ table
  guards_trans := fun _ _ _ _ first second here => (second here).trans (first here)

/-- What a session keeps: it has only taken objects away, or it holds the lock and sees
no more than it may; after a check it sees less than the limit. -/
structure Frame (checked : Bool) (changes : List (Change LimitKey (LimitRow Object)))
    (locks : List LimitKey) (base : Base (LimitRow.key : LimitRow Object → LimitKey) A) :
    Prop where
  objects : ∀ k ∈ changes.map (Change.on LimitRow.key), k.isObject = true
  locked : ∀ k ∈ changes.map (Change.on LimitRow.key), k ∈ locks
  grants : SameGrants base.table table
  bounded : Within (isObjectOf tenantId) (overlay changes base.table) base.table ∨
    .advisory (limitLock hash tenantId limitKey) ∈ locks ∧
      (objectCount tenantId (overlay changes base.table) : Int) ≤
        max limit (objectCount tenantId table)
  below : checked = true → .advisory (limitLock hash tenantId limitKey) ∈ locks ∧
    (objectCount tenantId (overlay changes base.table) : Int) < limit

variable {hash tenantId limitKey limit table}
variable {indexes : List (LimitRow Object → Option J)} {checked : Bool}
variable {changes : List (Change LimitKey (LimitRow Object))} {locks : List LimitKey}
variable {base last : Base (LimitRow.key : LimitRow Object → LimitKey) A}
variable {phase : Phase (LimitRow.key : LimitRow Object → LimitKey) LimitFailure A}

theorem Frame.view_grants (frame : Frame hash tenantId limitKey limit table checked changes locks
    base) : SameGrants (overlay changes base.table) table := by
  intro k other
  have untouched : k ∉ changes.map (Change.on LimitRow.key) := by
    intro touched
    rw [frame.objects k touched] at other
    nomatch other
  rw [get_overlay_of_untouched changes _ untouched]
  exact frame.grants k other

theorem Frame.withLock (frame : Frame hash tenantId limitKey limit table checked changes locks base)
    (k : LimitKey) :
    Frame hash tenantId limitKey limit table checked changes (k :: locks) base where
  objects := frame.objects
  locked := fun other touched => List.mem_cons_of_mem _ (frame.locked other touched)
  grants := frame.grants
  bounded := frame.bounded.imp_right fun held => ⟨List.mem_cons_of_mem _ held.1, held.2⟩
  below := fun passed => ⟨List.mem_cons_of_mem _ (frame.below passed).1, (frame.below passed).2⟩

theorem Frame.unchecked
    (frame : Frame hash tenantId limitKey limit table checked changes locks base) :
    Frame hash tenantId limitKey limit table false changes locks base where
  objects := frame.objects
  locked := frame.locked
  grants := frame.grants
  bounded := frame.bounded
  below := fun impossible => nomatch impossible

theorem Frame.later (frame : Frame hash tenantId limitKey limit table checked changes locks base)
    (rely : (limitContract hash tenantId limitKey limit table).Rely indexes phase changes locks
      base last) : Frame hash tenantId limitKey limit table checked changes locks last := by
  have kept : ∀ k ∈ changes.map (Change.on LimitRow.key),
      last.table.get k = base.table.get k := fun k touched => rely.kept k (frame.locked k touched)
  have shrinks : .advisory (limitLock hash tenantId limitKey) ∈ locks →
      objectCount tenantId (overlay changes last.table) ≤
        objectCount tenantId (overlay changes base.table) := fun held =>
    ((rely.guards _ held rfl).overlay kept).length_le
  refine ⟨frame.objects, frame.locked, rely.invariant.1, ?_, ?_⟩
  · rcases frame.bounded with within | ⟨held, bound⟩
    · exact .inl (within.later kept)
    · have fewer := shrinks held
      exact .inr ⟨held, by omega⟩
  · intro passed
    obtain ⟨held, bound⟩ := frame.below passed
    have fewer := shrinks held
    exact ⟨held, by omega⟩

theorem Frame.delete (frame : Frame hash tenantId limitKey limit table checked changes locks base)
    (objectId : Uuid) :
    Frame hash tenantId limitKey limit table checked (changes ++ [.erase (.object objectId)])
      (.object objectId :: locks) base := by
  have fewer : Within (isObjectOf tenantId)
      (overlay (changes ++ [.erase (.object objectId)]) base.table)
      (overlay changes base.table) := by
    rw [overlay_append]
    exact .erase _ _ _
  have count := fewer.length_le
  refine ⟨?_, ?_, frame.grants, ?_, ?_⟩
  · intro k touched
    rcases mem_on_snoc.mp touched with old | rfl
    · exact frame.objects k old
    · rfl
  · intro k touched
    rcases mem_on_snoc.mp touched with old | rfl
    · exact List.mem_cons_of_mem _ (frame.locked k old)
    · exact List.mem_cons_self
  · refine frame.bounded.imp fewer.trans ?_
    rintro ⟨held, bound⟩
    refine ⟨List.mem_cons_of_mem _ held, ?_⟩
    rw [objectCount] at bound ⊢
    omega
  · intro passed
    obtain ⟨held, bound⟩ := frame.below passed
    refine ⟨List.mem_cons_of_mem _ held, ?_⟩
    rw [objectCount] at bound ⊢
    omega

theorem Frame.create (frame : Frame hash tenantId limitKey limit table true changes locks base)
    (objectId : Uuid) (content : Object) :
    Frame hash tenantId limitKey limit table false
      (changes ++ [.store (.object tenantId objectId content)]) (.object objectId :: locks)
      base := by
  obtain ⟨held, bound⟩ := frame.below rfl
  have more := length_select_store (isObjectOf tenantId) (overlay changes base.table)
    (.object tenantId objectId content)
  refine ⟨?_, ?_, frame.grants, .inr ⟨List.mem_cons_of_mem _ held, ?_⟩, fun impossible =>
    nomatch impossible⟩
  · intro k touched
    rcases mem_on_snoc.mp touched with old | rfl
    · exact frame.objects k old
    · rfl
  · intro k touched
    rcases mem_on_snoc.mp touched with old | rfl
    · exact List.mem_cons_of_mem _ (frame.locked k old)
    · exact List.mem_cons_self
  · rw [overlay_append]
    rw [objectCount] at bound
    change (((overlay changes base.table).store _).select _).length ≤ _ at more
    have small : (objectCount tenantId ((overlay changes base.table).store
        (.object tenantId objectId content)) : Int) ≤ limit := by
      rw [objectCount]
      omega
    exact small.trans (le_max_left _ _)

theorem Frame.commits (frame : Frame hash tenantId limitKey limit table checked changes locks base)
    (bound : (objectCount tenantId base.table : Int) ≤ max limit (objectCount tenantId table))
    (answer : A) :
    (limitContract hash tenantId limitKey limit table).Commits answer changes locks base := by
  refine ⟨⟨frame.view_grants, ?_⟩, trivial, ?_, trivial⟩
  · rcases frame.bounded with within | ⟨_, small⟩
    · have fewer : objectCount tenantId (overlay changes base.table) ≤
          objectCount tenantId base.table := within.length_le
      exact (Int.ofNat_le.mpr fewer).trans bound
    · exact small
  · rintro k free rfl
    rcases frame.bounded with within | ⟨held, _⟩
    · exact within
    · exact absurd held free

/-! ## The check -/

variable [DecidableEq J]

theorem getLimit_outline {now : DateTime} {next : Option Int → LimitProg Object A}
    (frame : Frame hash tenantId limitKey limit table checked changes locks base)
    (covered : limitAt table tenantId limitKey now = some limit)
    (rest : ∀ base, Frame hash tenantId limitKey limit table checked changes locks base →
      (next (some limit)).Outline (limitContract hash tenantId limitKey limit table) indexes
        changes locks base) :
    (getLimit tenantId limitKey now next).Outline
      (limitContract hash tenantId limitKey limit table) indexes changes locks base := by
  intro first rely
  have then_ := frame.later rely
  rw [select_currentRow_congr (then_.view_grants (.tenantEntitlement tenantId) rfl)]
  rw [limitAt] at covered
  cases plan : effectivePlanCode now
      ⟨currentRow (table.select (isCurrentRow tenantId)), []⟩ with
  | none =>
    rw [plan] at covered
    cases covered
  | some planCode =>
    rw [plan] at covered
    simp only [plan]
    intro second more
    have after := then_.later more
    rw [select_grant_congr (after.view_grants (.planEntitlement planCode limitKey) rfl)]
    simp only at covered
    split at covered
    · rename_i grant found
      rw [found]
      simp only [covered]
      exact rest second after
    · cases covered

theorem requireWithinLimit_outline {now : DateTime} {next : LimitProg Object A}
    (frame : Frame hash tenantId limitKey limit table checked changes locks base)
    (covered : limitAt table tenantId limitKey now = some limit)
    (latched : table.get (.advisory (limitLock hash tenantId limitKey)) =
      some (.advisory (limitLock hash tenantId limitKey)))
    (rest : ∀ locks base, Frame hash tenantId limitKey limit table true changes locks base →
      next.Outline (limitContract hash tenantId limitKey limit table) indexes changes locks
        base) :
    (requireWithinLimit hash tenantId limitKey now next).Outline
      (limitContract hash tenantId limitKey limit table) indexes changes locks base := by
  refine getLimit_outline frame covered ?_
  intro base frame
  refine Prog.outline_advisory (.advisory (limitLock hash tenantId limitKey))
    (fun locks base => Frame hash tenantId limitKey limit table checked changes locks base)
    rfl frame ?_ ?_ ?_ ?_
  · exact fun phase locks now last keeps rely => keeps.later rely
  · exact fun k locks now keeps => keeps.withLock k
  · intro locks now keeps
    rw [keeps.view_grants _ rfl]
    exact latched
  · intro locks now held keeps last rely
    have there := keeps.later rely
    beta_reduce
    by_cases full : limit ≤ ((overlay changes last.table).select (isObjectOf tenantId)).length
    · rw [if_pos full]
      intro current reached same
      cases same
      exact ⟨rfl, full⟩
    · rw [if_neg full]
      refine rest locks last ⟨there.objects, there.locked, there.grants, there.bounded, ?_⟩
      intro _
      exact ⟨held, Int.not_le.mp full⟩

theorem Orderly.outline {prog : LimitProg Object A} {times : DateTime → Prop}
    (orderly : Orderly hash tenantId limitKey times checked prog)
    (covered : ∀ now, times now → limitAt table tenantId limitKey now = some limit)
    (latched : table.get (.advisory (limitLock hash tenantId limitKey)) =
      some (.advisory (limitLock hash tenantId limitKey)))
    (frame : Frame hash tenantId limitKey limit table checked changes locks base) :
    prog.Outline (limitContract hash tenantId limitKey limit table) indexes changes locks
      base := by
  induction orderly generalizing changes locks base with
  | ret checked answer =>
    intro last rely
    exact (frame.later rely).commits rely.invariant.2 answer
  | raise checked error => exact fun current reached same => nomatch same
  | select checked clause next _ ih =>
    intro last rely
    exact ih _ (frame.later rely)
  | lock checked clause next _ ih =>
    refine Prog.outline_anyLock
      (fun locks base => Frame hash tenantId limitKey limit table checked changes locks base)
      frame ?_ ?_ ?_
    · exact fun phase locks now last keeps rely => keeps.later rely
    · exact fun k locks now keeps => keeps.withLock k
    · exact fun got locks now keeps => ih got keeps
  | delete checked objectId next _ ih =>
    intro last rely
    have there := frame.later rely
    split
    · exact ih (there.delete objectId)
    · exact ih there
  | require checked now next listed _ ih =>
    exact requireWithinLimit_outline frame (covered now listed) latched
      fun locks base keeps => ih keeps
  | create objectId content next _ ih =>
    intro last rely
    have there := frame.later rely
    split
    · exact ih .done (there.create objectId content)
    · exact ih .conflict there.unchecked

end Limits

/-! ## Refusals -/

def IsRefusal (limitKey : String) (error : LimitFailure) : Prop :=
  ∃ current reached, error = .limitReached limitKey current reached

/-- The number in the message is the number of rows found. -/
def Reports (limitKey : String) (error : LimitFailure) (rows : List (LimitRow Object)) : Prop :=
  ∀ current reached, error = .limitReached limitKey current reached → rows.length = current

section Refusing

variable {hash : String → Int} {tenantId : Uuid} {limitKey : String} {times : DateTime → Prop}
variable {checked : Bool} {prog : LimitProg Object A}

theorem Orderly.calm (orderly : Orderly hash tenantId limitKey times checked prog) :
    prog.Calm (IsRefusal limitKey) := by
  intro error raises
  cases orderly with
  | raise checked own =>
    cases raises
    rintro ⟨current, reached, same⟩
    nomatch same
  | ret checked answer => nomatch raises
  | select checked clause next rest => nomatch raises
  | lock checked clause next rest => nomatch raises
  | delete checked objectId next rest => nomatch raises
  | require checked now next covered rest => nomatch raises
  | create objectId content next rest => nomatch raises

theorem requireWithinLimit_raisesOn {now : DateTime}
    (raises : prog.RaisesOn (IsRefusal limitKey) (Reports limitKey) (isObjectOf tenantId))
    (calm : prog.Calm (IsRefusal limitKey)) :
    (requireWithinLimit hash tenantId limitKey now prog).RaisesOn (IsRefusal limitKey)
      (Reports limitKey) (isObjectOf tenantId) := by
  have counting : ∀ limit : Int, (Prog.advisory (.advisory (limitLock hash tenantId limitKey))
      (.select (isObjectOf tenantId) fun rows =>
        if limit ≤ rows.length then .raise (.limitReached limitKey rows.length limit)
        else prog)).RaisesOn (IsRefusal limitKey) (Reports limitKey) (isObjectOf tenantId) := by
    intro limit rows
    refine ⟨?_, fun error raise => nomatch raise⟩
    intro found
    beta_reduce
    split
    · refine ⟨trivial, ?_⟩
      intro error raise refusal
      cases raise
      refine ⟨rfl, ?_⟩
      intro current reached same
      cases same
      rfl
    · exact ⟨raises, fun error raise refusal => absurd refusal (calm error raise)⟩
  intro rows
  beta_reduce
  split
  · exact ⟨raises, fun error raise refusal => absurd refusal (calm error raise)⟩
  · refine ⟨?_, fun error raise => nomatch raise⟩
    intro grants
    beta_reduce
    split
    · exact ⟨raises, fun error raise refusal => absurd refusal (calm error raise)⟩
    · rename_i grant
      cases grant.intValue with
      | none => exact ⟨raises, fun error raise refusal => absurd refusal (calm error raise)⟩
      | some limit => exact ⟨counting limit, fun error raise => nomatch raise⟩
    · refine ⟨trivial, ?_⟩
      intro error raise refusal
      cases raise
      obtain ⟨current, reached, same⟩ := refusal
      nomatch same

theorem Orderly.raisesOn (orderly : Orderly hash tenantId limitKey times checked prog) :
    prog.RaisesOn (IsRefusal limitKey) (Reports limitKey) (isObjectOf tenantId) := by
  induction orderly with
  | ret checked answer => trivial
  | raise checked error => trivial
  | select checked clause next rest ih =>
    intro rows
    exact ⟨ih rows, fun error raise refusal => absurd refusal ((rest rows).calm error raise)⟩
  | lock checked clause next rest ih => exact fun rows => ⟨ih rows, (rest rows).calm⟩
  | delete checked objectId next rest ih => exact ⟨ih, rest.calm⟩
  | require checked now next covered rest ih => exact requireWithinLimit_raisesOn ih rest.calm
  | create objectId content next rest ih => exact fun reply => ⟨ih reply, (rest reply).calm⟩

end Refusing

/-! ## Whole runs -/

/-- Whatever the interleaving, the tenant never has more committed objects than its limit
or than at the start, and a refused creation found at least as many as the limit. -/
theorem limit_holds_in_every_run {Tid : Type} [DecidableEq Tid] [DecidableEq J]
    (hash : String → Int) (tenantId : Uuid) (limitKey : String) (limit : Int)
    (indexes : List (LimitRow Object → Option J)) (table : LimitTable Object)
    (program : Tid → LimitProg Object A) (unique : ∀ index ∈ indexes, table.Unique index)
    (latched : table.get (.advisory (limitLock hash tenantId limitKey)) =
      some (.advisory (limitLock hash tenantId limitKey)))
    (orderly : ∀ tid, Orderly hash tenantId limitKey
      (fun now => limitAt table tenantId limitKey now = some limit) false (program tid))
    {world : World Tid LimitRow.key LimitFailure A}
    (run : World.Reaches indexes True (World.start table program) world) :
    (objectCount tenantId world.table : Int) ≤ max limit (objectCount tenantId table) ∧
      ∀ tid current reached,
        (world.session tid).phase = .failed (.limitReached limitKey current reached) →
          reached = limit ∧ limit ≤ current ∧
            ∃ checked, World.Reaches indexes True (World.start table program) checked ∧
              World.Reaches indexes True checked world ∧
              (∃ next, (checked.session tid).phase =
                .running (.select (isObjectOf tenantId) next)) ∧
              objectCount tenantId (checked.view tid) = current := by
  have frame : Frame hash tenantId limitKey limit table false [] []
      (⟨table, []⟩ : Base LimitRow.key A) :=
    ⟨List.forall_mem_nil _, List.forall_mem_nil _, fun _ _ => rfl, .inl (.refl _ _),
      fun impossible => nomatch impossible⟩
  have start : Upholds (limitContract hash tenantId limitKey limit table) indexes
      (World.start table program, []) :=
    upholds_start table program unique ⟨fun _ _ => rfl, le_max_right _ _⟩
      fun tid => (orderly tid).outline (fun _ covered => covered) latched frame
  obtain ⟨log, logged⟩ := run.logged []
  obtain ⟨upholds, _, _⟩ := start.run logged fun _ _ _ _ _ _ _ => trivial
  refine ⟨upholds.invariant.2, ?_⟩
  intro tid current reached failed
  have outline := upholds.outline tid
  rw [Session.Outline, failed] at outline
  obtain ⟨same, full⟩ := outline current reached rfl
  obtain ⟨_, origin⟩ := raised_on
    (fun tid => ⟨(orderly tid).raisesOn, (orderly tid).calm⟩) run tid
  rw [failed] at origin
  obtain ⟨checked, early, late, counting, counted⟩ := origin _ rfl ⟨current, reached, rfl⟩
  exact ⟨same, full, checked, early, late, counting, counted current reached rfl⟩

namespace Sample

/-- A tenant on a plan with one gadget. -/
def gadgets : LimitTable Unit where
  rows := [.tenantEntitlement 7 ⟨"pro", none, false⟩,
    .planEntitlement ⟨"pro", "test.gadget", .limit, none, some 1, .inr ⟨rfl, rfl⟩,
      fun value same => by cases same; decide⟩,
    .advisory 0]
  nodup := by decide

def noon : DateTime := ⟨2026, 7, 8, 43200000000, by decide⟩

/-- Two requests that create a gadget at once. -/
def createGadget (second : Bool) : LimitProg Unit Unit :=
  requireWithinLimit (fun _ => 0) 7 "test.gadget" noon
    (.insert (.object 7 (if second then 2 else 1) ()) fun
      | .done => .ret ()
      | _ => .raise (.own .integrityError))

def noLimitIndexes : List (LimitRow Unit → Option Unit) := []

def schedule : List Bool :=
  [false, true, false, true, false, true, false, true, false, false, true, false, false, false,
    true, true, true, true]

def raced : World Bool (LimitRow.key : LimitRow Unit → LimitKey) LimitFailure Unit :=
  (World.start gadgets createGadget).follow noLimitIndexes schedule

theorem gadgets_stay_within_limit :
    (raced.session true).phase.raised = some (.limitReached "test.gadget" 1 1) ∧
      objectCount 7 raced.table = 1 ∧
      (objectCount 7 raced.table : Int) ≤ max 1 (objectCount 7 gadgets) := by
  refine ⟨by decide +kernel, by decide +kernel, ?_⟩
  refine (limit_holds_in_every_run (fun _ => 0) 7 "test.gadget" 1 noLimitIndexes gadgets
    createGadget (List.forall_mem_nil _) (by decide +kernel) ?_
    (follow_reaches schedule _)).1
  intro second
  refine .require _ _ _ (by decide +kernel) (.create _ _ _ ?_)
  intro reply
  cases reply with
  | done => exact .ret _ _
  | conflict => exact .raise _ _
  | missing => exact .raise _ _

end Sample

end BackendCore.Saas
