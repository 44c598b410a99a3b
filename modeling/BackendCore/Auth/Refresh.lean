import BackendCore.Lib.Outline
import BackendCore.Auth.Models

/-!
# Refresh tokens at the same time

The statements of `refresh`, `logout` and the revocations.  A token is rotated by
an `UPDATE` that checks it is still live, and its child is inserted in the same
transaction; so a family has one live token at most, and a token is exchanged
once.  A presented token that is no longer live revokes its family with an
`UPDATE` of the rows it sees; a child that is committed meanwhile is not among
them, and the loser of a rotation revokes nothing.
-/

set_option autoImplicit false

namespace BackendCore.Auth

open BackendCore.Python BackendCore.ReadCommitted

/-! ## Statements -/

/-- `uq_refresh_tokens_token_hash`. -/
def tokenIndexes : List (RefreshToken → Option String) := [fun token => some token.tokenHash]

/-- What a transaction has done.  `reused` and `blocked` commit the revocation of the
family and then raise; `lost` is the loser of the rotation, whose transaction has
changed nothing. -/
inductive TokenAnswer where
  | exchanged (familyId parent child : Uuid)
  | reused (familyId : Uuid)
  | lost (familyId : Uuid)
  | blocked (familyId : Uuid)
  | loggedOut
  | revoked
  deriving DecidableEq

/-- The error the caller gets after the transaction has ended. -/
def TokenAnswer.raises : TokenAnswer → Option Exc
  | .reused _ => some (.authenticationError "refresh token reuse detected")
  | .lost _ => some (.authenticationError "refresh token already rotated")
  | .blocked _ => some (.authenticationError "invalid refresh token")
  | _ => none

abbrev TokenProg := Prog RefreshToken.id Exc TokenAnswer

/-- One call of `refresh`: the presented token, whether its account exists and is
active when it is read, the clock, and what is drawn for the child. -/
structure RefreshCall where
  tokenHash : String
  accountActive : Uuid → Bool
  now : DateTime
  newId : Uuid
  newHash : String
  newExpiry : DateTime

def childOf (call : RefreshCall) (parent : RefreshToken) : RefreshToken where
  id := call.newId
  userId := parent.userId
  familyId := parent.familyId
  tokenHash := call.newHash
  expiresAt := call.newExpiry
  rotatedAt := none
  revokedAt := none
  revokedReason := none

def hashClause (tokenHash : String) (token : RefreshToken) : Bool := token.tokenHash = tokenHash

def familyClause (familyId : Uuid) (token : RefreshToken) : Bool :=
  token.familyId = familyId && token.revokedAt.isNone

def rotationClause (id : Uuid) (token : RefreshToken) : Bool := token.id = id && token.isLive

/-- An `UPDATE` that revokes the rows of a clause. -/
def revokeWhere (clause : RefreshToken → Bool) (now : DateTime) (reason : String)
    (answer : TokenAnswer) : TokenProg :=
  .update clause (RefreshToken.revoke now reason) (fun _ => rfl) fun
    | none => .raise .integrityError
    | some _ => .ret answer

def revokeFamily (familyId : Uuid) (now : DateTime) (reason : String) (answer : TokenAnswer) :
    TokenProg :=
  revokeWhere (familyClause familyId) now reason answer

def childInserted (call : RefreshCall) (parent : RefreshToken) : Reply → TokenProg
  | .done => .ret (.exchanged parent.familyId parent.id call.newId)
  | .conflict => .raise .integrityError
  | .missing => .raise (.unexpected "StaleDataError")

/-- `refresh` after its compare-and-set. -/
def rotated (call : RefreshCall) (parent : RefreshToken) : Option Nat → TokenProg
  | none => .raise .integrityError
  | some 0 => .ret (.lost parent.familyId)
  | some (_ + 1) => .insert (childOf call parent) (childInserted call parent)

def rotation (call : RefreshCall) (parent : RefreshToken) : TokenProg :=
  .update (rotationClause parent.id) (RefreshToken.rotate call.now) (fun _ => rfl)
    (rotated call parent)

/-- `refresh` with the row it has read. -/
def refreshRow (call : RefreshCall) (row : RefreshToken) : TokenProg :=
  if row.rotatedAt.isSome || row.revokedAt.isSome then
    revokeFamily row.familyId call.now "reuse_detected" (.reused row.familyId)
  else if row.expiresAt ≤ call.now then
    .raise (.authenticationError "refresh token expired")
  else if !call.accountActive row.userId then
    revokeFamily row.familyId call.now "user_blocked" (.blocked row.familyId)
  else rotation call row

def refresh (call : RefreshCall) : TokenProg :=
  .select (hashClause call.tokenHash) fun rows =>
    match rows.head? with
    | none => .raise (.authenticationError "invalid refresh token")
    | some row => refreshRow call row

def logout (tokenHash : String) (now : DateTime) : TokenProg :=
  revokeWhere (fun token => token.tokenHash = tokenHash && token.revokedAt.isNone) now "logout"
    .loggedOut

def revokeAllUserTokens (userId : Uuid) (now : DateTime) (reason : String) : TokenProg :=
  revokeWhere (fun token => token.userId = userId && token.revokedAt.isNone) now reason .revoked

inductive TokenCall where
  | refresh (call : RefreshCall)
  | logout (tokenHash : String) (now : DateTime)
  | revokeAll (userId : Uuid) (now : DateTime) (reason : String)

def TokenCall.prog : TokenCall → TokenProg
  | .refresh call => Auth.refresh call
  | .logout tokenHash now => Auth.logout tokenHash now
  | .revokeAll userId now reason => revokeAllUserTokens userId now reason

/-! ## What the transactions keep -/

abbrev TokenTable := Table RefreshToken.id

abbrev TokenBase := Base RefreshToken.id TokenAnswer

abbrev TokenPhase := Phase RefreshToken.id Exc TokenAnswer

/-- A live token of the family. -/
structure Live (table : TokenTable) (familyId : Uuid) (token : RefreshToken) : Prop where
  has : table.get token.id = some token
  family : token.familyId = familyId
  live : token.isLive = true

/-- No token of the family is live. -/
def Dead (table : TokenTable) (familyId : Uuid) : Prop := ∀ token, ¬Live table familyId token

def TokenAnswer.exchanges (parent : Uuid) : TokenAnswer → Bool
  | .exchanged _ other _ => other = parent
  | _ => false

/-- How often a token has been exchanged. -/
def exchanges (log : List TokenAnswer) (parent : Uuid) : Nat :=
  log.countP (TokenAnswer.exchanges parent)

/-- The answer to a token of the family that was no longer live. -/
def TokenAnswer.Reuse (familyId : Uuid) (answer : TokenAnswer) : Prop :=
  answer = .reused familyId ∨ answer = .lost familyId

/-- A refresh accepted a token of the family. -/
def TokenAnswer.Accepts (familyId : Uuid) (answer : TokenAnswer) : Prop :=
  ∃ parent child, answer = .exchanged familyId parent child

/-- No token of a family is accepted after a reuse in it was answered. -/
def Settled (log : List TokenAnswer) : Prop :=
  log.Pairwise fun earlier later => ∀ familyId, earlier.Reuse familyId → ¬later.Accepts familyId

/-- `orderly` says whether the run promises what the detection of reuse takes. -/
structure TokensAt (orderly : Prop) (base : TokenBase) : Prop where
  single : ∀ familyId left right, Live base.table familyId left →
    Live base.table familyId right → left = right
  once : ∀ parent, exchanges base.log parent ≤ 1
  spent : ∀ parent, 0 < exchanges base.log parent →
    ∃ token, base.table.get parent = some token ∧ token.rotatedAt.isSome = true
  dead : orderly → ∀ familyId, (∃ answer ∈ base.log, answer.Reuse familyId) →
    Dead base.table familyId
  settled : orderly → Settled base.log

/-- The rows stay, rotated and revoked ones as such. -/
def Persists (now later : TokenTable) : Prop :=
  ∀ id token, now.get id = some token → ∃ kept, later.get id = some kept ∧
    kept.familyId = token.familyId ∧ (kept.rotatedAt = none → token.rotatedAt = none) ∧
    (kept.revokedAt = none → token.revokedAt = none)

/-- The live tokens of a family were live before, or the live one has been rotated. -/
def Descends (familyId : Uuid) (now later : TokenTable) : Prop :=
  (∀ token, Live later familyId token → ∃ before, Live now familyId before ∧
    before.id = token.id) ∨
  ∃ parent kept, Live now familyId parent ∧ later.get parent.id = some kept ∧
    kept.rotatedAt.isSome = true

structure TokensLater (now later : TokenTable) : Prop where
  persists : Persists now later
  descends : ∀ familyId, Descends familyId now later

/-- The session is between its read of the token as live and the end of its
compare-and-set. -/
def Rotating (phase : TokenPhase) (id : Uuid) : Prop :=
  ∃ call parent, parent.id = id ∧ (phase = .running (rotation call parent) ∨
    ∃ todo count, phase = .updating (rotationClause parent.id) (RefreshToken.rotate call.now)
      (fun _ => rfl) todo count (rotated call parent))

/-- The session has seen the rows of the family it revokes for a reuse, and has not
committed yet. -/
def Revoking (phase : TokenPhase) (familyId : Uuid) : Prop :=
  (∃ change keeps todo count next,
    phase = .updating (familyClause familyId) change keeps todo count next) ∨
  phase = .running (.ret (.reused familyId))

/-- What the detection of reuse needs of the commits of others. -/
structure Quiet (phase : TokenPhase) (now later : TokenTable) : Prop where
  unrotated : ∀ id token, Rotating phase id → now.get id = some token → token.rotatedAt = none →
    ∃ kept, later.get id = some kept ∧ kept.rotatedAt = none
  childless : ∀ familyId token, Revoking phase familyId → Live later familyId token →
    ∃ before, Live now familyId before ∧ before.id = token.id

theorem Persists.rotated {now later : TokenTable} (persists : Persists now later) {id : Uuid}
    {token : RefreshToken} (found : now.get id = some token)
    (rotated : token.rotatedAt.isSome = true) :
    ∃ kept, later.get id = some kept ∧ kept.rotatedAt.isSome = true := by
  obtain ⟨kept, stays, _, unrotated, _⟩ := persists id token found
  refine ⟨kept, stays, ?_⟩
  rw [Option.isSome_iff_ne_none]
  intro missing
  rw [unrotated missing] at rotated
  cases rotated

theorem Descends.trans {familyId : Uuid} {first second third : TokenTable}
    (earlier : Descends familyId first second) (later : Descends familyId second third)
    (persists : Persists second third) : Descends familyId first third := by
  rcases earlier with older | ⟨parent, kept, live, found, rotated⟩
  · rcases later with old | ⟨parent, kept, live, found, rotated⟩
    · left
      intro token live
      obtain ⟨middle, middleLive, same⟩ := old token live
      obtain ⟨before, beforeLive, sameBefore⟩ := older middle middleLive
      exact ⟨before, beforeLive, sameBefore.trans same⟩
    · obtain ⟨before, beforeLive, same⟩ := older parent live
      refine Or.inr ⟨before, kept, beforeLive, ?_, rotated⟩
      rw [same]
      exact found
  · obtain ⟨last, stays, still⟩ := persists.rotated found rotated
    exact Or.inr ⟨parent, last, live, stays, still⟩

theorem Persists.trans {first second third : TokenTable} (earlier : Persists first second)
    (later : Persists second third) : Persists first third := by
  intro id token found
  obtain ⟨middle, stays, family, unrotated, unrevoked⟩ := earlier id token found
  obtain ⟨last, remains, sameFamily, lastUnrotated, lastUnrevoked⟩ := later id middle stays
  exact ⟨last, remains, sameFamily.trans family, fun none => unrotated (lastUnrotated none),
    fun none => unrevoked (lastUnrevoked none)⟩

/-- With `orderly`, the runs promise what it takes to detect reuse, and it is detected. -/
def tokenContract (orderly : Prop) : Contract RefreshToken.id Exc TokenAnswer where
  invariant := TokensAt orderly
  guarantee := TokensLater
  assumes := fun phase now later => orderly → Quiet phase now later
  guarantee_refl := fun _ =>
    ⟨fun _ token found => ⟨token, found, rfl, id, id⟩,
      fun _ => Or.inl fun token live => ⟨token, live, rfl⟩⟩
  guarantee_trans := fun _ _ _ earlier later =>
    ⟨earlier.persists.trans later.persists,
      fun familyId => (earlier.descends familyId).trans (later.descends familyId) later.persists⟩
  assumes_refl := fun _ _ _ =>
    ⟨fun _ token _ found fresh => ⟨token, found, fresh⟩, fun _ token _ live => ⟨token, live, rfl⟩⟩
  assumes_trans := by
    intro phase first second third earlier later orderly
    refine ⟨?_, ?_⟩
    · intro id token rotating found fresh
      obtain ⟨middle, stays, still⟩ := (earlier orderly).unrotated id token rotating found fresh
      exact (later orderly).unrotated id middle rotating stays still
    · intro familyId token revoking live
      obtain ⟨middle, middleLive, same⟩ := (later orderly).childless familyId token revoking live
      obtain ⟨before, beforeLive, sameBefore⟩ :=
        (earlier orderly).childless familyId middle revoking middleLive
      exact ⟨before, beforeLive, sameBefore.trans same⟩

theorem Dead.later {now later : TokenTable} {familyId : Uuid} (dead : Dead now familyId)
    (descends : Descends familyId now later) : Dead later familyId := by
  intro token live
  rcases descends with older | ⟨parent, _, parentLive, _⟩
  · obtain ⟨before, beforeLive, _⟩ := older token live
    exact dead before beforeLive
  · exact dead parent parentLive

/-! ## Revocations -/

/-- Every row the session has written is a revoked version of the committed one. -/
def Revokes (changes : List (Change Uuid RefreshToken)) (locks : List Uuid)
    (table : TokenTable) : Prop :=
  ∀ id ∈ changes.map (Change.on RefreshToken.id), id ∈ locks ∧ ∃ old new,
    table.get id = some old ∧ (overlay changes table).get id = some new ∧
      new.familyId = old.familyId ∧ new.rotatedAt = old.rotatedAt ∧ new.revokedAt.isSome = true

section Revocations

variable {orderly : Prop} {changes : List (Change Uuid RefreshToken)} {locks : List Uuid}
variable {base last : TokenBase} {phase : TokenPhase}

theorem revokes_nil (locks : List Uuid) (table : TokenTable) : Revokes [] locks table := by
  intro id touched
  cases touched

theorem Revokes.later (revokes : Revokes changes locks base.table)
    (rely : (tokenContract orderly).Rely tokenIndexes phase changes locks base last) :
    Revokes changes locks last.table := by
  intro id touched
  obtain ⟨held, old, new, found, seen, rest⟩ := revokes id touched
  refine ⟨held, old, new, (rely.kept id held).trans found, ?_, rest⟩
  exact (get_overlay_of_touched changes last.table base.table touched).trans seen

theorem Revokes.lock (revokes : Revokes changes locks base.table) (k : Uuid) :
    Revokes changes (k :: locks) base.table := by
  intro id touched
  obtain ⟨held, rest⟩ := revokes id touched
  exact ⟨List.mem_cons_of_mem _ held, rest⟩

theorem Revokes.of_view (revokes : Revokes changes locks base.table) {id : Uuid}
    {new : RefreshToken} (seen : (overlay changes base.table).get id = some new) :
    ∃ old, base.table.get id = some old ∧ new.familyId = old.familyId ∧
      new.rotatedAt = old.rotatedAt ∧ (new.revokedAt = none → new = old) := by
  by_cases touched : id ∈ changes.map (Change.on RefreshToken.id)
  · obtain ⟨_, old, other, found, stored, family, rotated, revoked⟩ := revokes id touched
    rw [seen] at stored
    cases stored
    refine ⟨old, found, family, rotated, ?_⟩
    intro missing
    rw [missing] at revoked
    cases revoked
  · rw [get_overlay_of_untouched changes base.table touched] at seen
    exact ⟨new, seen, rfl, rfl, fun _ => rfl⟩

theorem Revokes.persists (revokes : Revokes changes locks base.table) :
    Persists base.table (overlay changes base.table) := by
  intro id token found
  by_cases touched : id ∈ changes.map (Change.on RefreshToken.id)
  · obtain ⟨_, old, new, stored, seen, family, rotated, revoked⟩ := revokes id touched
    rw [found] at stored
    cases stored
    refine ⟨new, seen, family, fun missing => rotated.symm.trans missing, ?_⟩
    intro missing
    rw [missing] at revoked
    cases revoked
  · refine ⟨token, ?_, rfl, fun none => none, fun none => none⟩
    rw [get_overlay_of_untouched changes base.table touched]
    exact found

theorem Revokes.live (revokes : Revokes changes locks base.table) {familyId : Uuid}
    {token : RefreshToken} (live : Live (overlay changes base.table) familyId token) :
    Live base.table familyId token := by
  obtain ⟨old, found, family, rotated, same⟩ := revokes.of_view live.has
  have unrevoked : token.revokedAt = none := by
    have alive := live.live
    rw [RefreshToken.isLive, Bool.and_eq_true, Option.isNone_iff_eq_none,
      Option.isNone_iff_eq_none] at alive
    exact alive.2
  have equal := same unrevoked
  subst equal
  exact ⟨found, live.family, live.live⟩

theorem Revokes.change (revokes : Revokes changes locks base.table) {k : Uuid}
    {row : RefreshToken} (seen : (overlay changes base.table).get k = some row)
    (now : DateTime) (reason : String) :
    Revokes (changes ++ [.store (row.revoke now reason)]) (k :: locks) base.table := by
  have rowKey : row.id = k := Table.key_of_get seen
  have placed : (row.revoke now reason).id = k := rowKey
  have stored : ∀ id, (overlay (changes ++ [.store (row.revoke now reason)]) base.table).get id =
      if id = k then some (row.revoke now reason) else (overlay changes base.table).get id := by
    intro id
    rw [overlay_append, get_apply]
    change (if id = (row.revoke now reason).id then _ else _) = _
    rw [placed]
  intro id touched
  rw [stored]
  by_cases here : id = k
  · rw [if_pos here, here]
    obtain ⟨old, found, family, rotated, _⟩ := revokes.of_view seen
    exact ⟨List.mem_cons_self, old, row.revoke now reason, found, rfl, family, rotated, rfl⟩
  · rw [if_neg here]
    have earlier := (mem_on_snoc.mp touched).resolve_right fun recent => here (recent.trans placed)
    obtain ⟨held, rest⟩ := revokes id earlier
    exact ⟨List.mem_cons_of_mem _ held, rest⟩

theorem exchanges_append (log : List TokenAnswer) (answer : TokenAnswer) (parent : Uuid) :
    exchanges (log ++ [answer]) parent =
      exchanges log parent + if answer.exchanges parent then 1 else 0 := by
  rw [exchanges, List.countP_append, List.countP_singleton]
  rfl

theorem settled_append {log : List TokenAnswer} {answer : TokenAnswer} (settled : Settled log)
    (fits : ∀ earlier ∈ log, ∀ familyId, earlier.Reuse familyId → ¬answer.Accepts familyId) :
    Settled (log ++ [answer]) := by
  refine List.pairwise_append.mpr ⟨settled, List.pairwise_singleton _ _, ?_⟩
  intro earlier member last single
  rw [List.mem_singleton] at single
  subst single
  exact fits earlier member

theorem Revokes.commits (revokes : Revokes changes locks base.table)
    (tokens : TokensAt orderly base) {answer : TokenAnswer}
    (accepts : ∀ parent, answer.exchanges parent = false)
    (dead : orderly → ∀ familyId, answer.Reuse familyId →
      Dead (overlay changes base.table) familyId) :
    (tokenContract orderly).Commits answer changes locks base := by
  have counted : ∀ parent, exchanges (base.log ++ [answer]) parent = exchanges base.log parent := by
    intro parent
    rw [exchanges_append, accepts]
    rfl
  refine ⟨⟨?_, ?_, ?_, ?_, ?_⟩, ⟨revokes.persists, ?_⟩, fun _ _ => trivial, trivial⟩
  · intro familyId left right leftLive rightLive
    exact tokens.single familyId left right (revokes.live leftLive) (revokes.live rightLive)
  · intro parent
    rw [counted]
    exact tokens.once parent
  · intro parent positive
    rw [counted] at positive
    obtain ⟨token, found, rotated⟩ := tokens.spent parent positive
    exact revokes.persists.rotated found rotated
  · rintro promised familyId ⟨other, member, reuse⟩
    rcases List.mem_append.mp member with earlier | new
    · intro token live
      exact tokens.dead promised familyId ⟨other, earlier, reuse⟩ token (revokes.live live)
    · rw [List.mem_singleton] at new
      subst new
      exact dead promised familyId reuse
  · intro promised
    refine settled_append (tokens.settled promised) ?_
    rintro earlier _ familyId _ ⟨parent, child, rfl⟩
    have none := accepts parent
    rw [TokenAnswer.exchanges, decide_eq_false_iff_not] at none
    exact none rfl
  · intro familyId
    exact Or.inl fun token live => ⟨token, revokes.live live, rfl⟩

end Revocations

/-! ## Exchanges -/

section Exchanges

variable {orderly : Prop} {familyId : Uuid} {token child : RefreshToken} {now : DateTime}
variable {locks : List Uuid} {base last : TokenBase} {phase : TokenPhase}

theorem get_exchange (table : TokenTable) (token child : RefreshToken) (now : DateTime)
    (id : Uuid) :
    (overlay [.store (token.rotate now), .store child] table).get id =
      if id = child.id then some child
      else if id = token.id then some (token.rotate now) else table.get id := by
  have second : (overlay [.store (token.rotate now), .store child] table).get id =
      if id = child.id then some child else (table.store (token.rotate now)).get id :=
    Table.get_store _ child id
  rw [second, Table.get_store]
  rfl

theorem live_exchange (live : Live base.table familyId token)
    (family : child.familyId = familyId)
    (tokens : TokensAt orderly base) {other : Uuid} {found : RefreshToken}
    (after : Live (overlay [.store (token.rotate now), .store child] base.table) other found) :
    found = child ∧ other = familyId ∨ Live base.table other found ∧ other ≠ familyId := by
  have seen := after.has
  rw [get_exchange] at seen
  by_cases isChild : found.id = child.id
  · rw [if_pos isChild] at seen
    cases seen
    exact Or.inl ⟨rfl, after.family.symm.trans family⟩
  · rw [if_neg isChild] at seen
    by_cases isParent : found.id = token.id
    · rw [if_pos isParent] at seen
      cases seen
      exact absurd after.live (by rw [RefreshToken.isLive_rotate]; exact Bool.false_ne_true)
    · rw [if_neg isParent] at seen
      have before : Live base.table other found := ⟨seen, after.family, after.live⟩
      refine Or.inr ⟨before, ?_⟩
      rintro rfl
      exact isParent (congrArg RefreshToken.id (tokens.single other found token before live))

theorem exchanges_of_live (live : Live base.table familyId token) (tokens : TokensAt orderly base) :
    exchanges base.log token.id = 0 := by
  refine Nat.eq_zero_of_not_pos ?_
  intro positive
  obtain ⟨other, found, rotated⟩ := tokens.spent token.id positive
  rw [live.has] at found
  cases found
  have alive := live.live
  rw [RefreshToken.isLive, Bool.and_eq_true, Option.isNone_iff_eq_none] at alive
  rw [alive.1] at rotated
  cases rotated

theorem exchange_persists (live : Live base.table familyId token)
    (fresh : base.table.get child.id = none) :
    Persists base.table (overlay [.store (token.rotate now), .store child] base.table) := by
  intro id stored found
  have notChild : id ≠ child.id := by
    rintro rfl
    rw [fresh] at found
    cases found
  rw [get_exchange, if_neg notChild]
  by_cases isParent : id = token.id
  · rw [if_pos isParent]
    rw [isParent, live.has] at found
    cases found
    refine ⟨token.rotate now, rfl, rfl, ?_, fun none => none⟩
    intro missing
    cases missing
  · rw [if_neg isParent]
    exact ⟨stored, found, rfl, fun none => none, fun none => none⟩

theorem exchange_commits (live : Live base.table familyId token)
    (fresh : base.table.get child.id = none) (family : child.familyId = familyId)
    (tokens : TokensAt orderly base) :
    (tokenContract orderly).Commits (.exchanged familyId token.id child.id)
      [.store (token.rotate now), .store child] locks base := by
  have unspent := exchanges_of_live live tokens
  have differs : token.id ≠ child.id := by
    intro same
    rw [← same, live.has] at fresh
    cases fresh
  have parentAfter : (overlay [.store (token.rotate now), .store child] base.table).get token.id =
      some (token.rotate now) := by
    rw [get_exchange, if_neg differs, if_pos rfl]
  have persists : Persists base.table
      (overlay [.store (token.rotate now), .store child] base.table) :=
    exchange_persists live fresh
  have alive : orderly → ∀ earlier ∈ base.log, ¬earlier.Reuse familyId := by
    intro promised earlier member reuse
    exact tokens.dead promised familyId ⟨earlier, member, reuse⟩ token live
  refine ⟨⟨?_, ?_, ?_, ?_, ?_⟩, ⟨persists, ?_⟩, fun _ _ => trivial, trivial⟩
  · intro other left right leftLive rightLive
    rcases live_exchange live family tokens leftLive with
      ⟨rfl, here⟩ | ⟨leftBefore, elsewhere⟩
    · rcases live_exchange live family tokens rightLive with
        ⟨rfl, _⟩ | ⟨_, elsewhere⟩
      · rfl
      · exact absurd here elsewhere
    · rcases live_exchange live family tokens rightLive with
        ⟨_, here⟩ | ⟨rightBefore, _⟩
      · exact absurd here elsewhere
      · exact tokens.single other left right leftBefore rightBefore
  · intro parent
    rw [exchanges_append]
    by_cases here : token.id = parent
    · rw [← here, unspent]
      split
      · exact Nat.le_refl 1
      · exact Nat.zero_le 1
    · have other : TokenAnswer.exchanges parent (.exchanged familyId token.id child.id) = false :=
        decide_eq_false here
      rw [other]
      exact tokens.once parent
  · intro parent positive
    rw [exchanges_append] at positive
    by_cases here : token.id = parent
    · rw [← here]
      exact ⟨token.rotate now, parentAfter, rfl⟩
    · have other : TokenAnswer.exchanges parent (.exchanged familyId token.id child.id) = false :=
        decide_eq_false here
      rw [other] at positive
      obtain ⟨stored, found, rotated⟩ := tokens.spent parent positive
      exact persists.rotated found rotated
  · rintro promised other ⟨answer, member, reuse⟩ found after
    rcases List.mem_append.mp member with earlier | new
    · rcases live_exchange live family tokens after with ⟨_, rfl⟩ | ⟨before, _⟩
      · exact alive promised answer earlier reuse
      · exact tokens.dead promised other ⟨answer, earlier, reuse⟩ found before
    · rw [List.mem_singleton] at new
      subst new
      rcases reuse with same | same
      · cases same
      · cases same
  · intro promised
    refine settled_append (tokens.settled promised) ?_
    rintro earlier member other reuse ⟨_, _, same⟩
    cases same
    exact alive promised earlier member reuse
  · intro other
    by_cases here : other = familyId
    · rw [here]
      exact Or.inr ⟨token, token.rotate now, live, parentAfter, rfl⟩
    · left
      intro found after
      rcases live_exchange live family tokens after with ⟨_, same⟩ | ⟨before, _⟩
      · exact absurd same here
      · exact ⟨found, before, rfl⟩

end Exchanges

/-! ## Outlines -/

section Outlines

variable {orderly : Prop} {locks : List Uuid} {base last : TokenBase} {phase : TokenPhase}

/-- A revocation; one that answers a reuse is of the whole family, and reaches every
token of it that is live when it commits. -/
theorem revokeWhere_outline {clause : RefreshToken → Bool} {now : DateTime} {reason : String}
    {answer : TokenAnswer} (accepts : ∀ parent, answer.exchanges parent = false)
    (family : ∀ familyId, answer.Reuse familyId →
      answer = .reused familyId ∧ clause = familyClause familyId) :
    (revokeWhere clause now reason answer).Outline (tokenContract orderly) tokenIndexes [] locks
      base := by
  intro first rely
  refine updateOutline_intro
    (fun todo _ changes locks base => Revokes changes locks base.table ∧
      (orderly → ∀ familyId, answer.Reuse familyId → ∀ token, Live base.table familyId token →
        token.id ∈ todo ∨ token.id ∈ changes.map (Change.on RefreshToken.id)))
    ?_ ?_ ?_ ?_ (fun _ _ _ _ _ _ _ _ _ _ => trivial) ?_ _ _ _ _ _ ?_
  · rintro todo count changes locks base last ⟨revokes, covers⟩ rely
    refine ⟨revokes.later rely, ?_⟩
    intro promised familyId reuse token live
    obtain ⟨_, rfl⟩ := family familyId reuse
    obtain ⟨before, beforeLive, same⟩ :=
      (rely.assumes promised).childless familyId token (Or.inl ⟨_, _, _, _, _, rfl⟩) live
    rw [← same]
    exact covers promised familyId reuse before beforeLive
  · rintro k todo count changes locks base ⟨revokes, covers⟩ missing
    refine ⟨revokes, ?_⟩
    intro promised familyId reuse token live
    refine (covers promised familyId reuse token live).imp_left ?_
    intro waiting
    refine (List.mem_cons.mp waiting).resolve_left ?_
    rintro rfl
    obtain ⟨kept, stays, _⟩ := revokes.persists token.id token live.has
    rw [missing] at stays
    cases stays
  · rintro k todo count changes locks base row ⟨revokes, covers⟩ found passed
    refine ⟨revokes.lock k, ?_⟩
    intro promised familyId reuse token live
    rcases covers promised familyId reuse token live with waiting | written
    · rcases List.mem_cons.mp waiting with rfl | rest
      · by_cases touched : token.id ∈ changes.map (Change.on RefreshToken.id)
        · exact Or.inr touched
        · exfalso
          rw [get_overlay_of_untouched changes base.table touched, live.has] at found
          cases found
          obtain ⟨_, rfl⟩ := family familyId reuse
          have alive := live.live
          rw [RefreshToken.isLive, Bool.and_eq_true] at alive
          rw [familyClause, live.family, alive.2] at passed
          simp at passed
      · exact Or.inl rest
    · exact Or.inr written
  · rintro k todo count changes locks base row ⟨revokes, covers⟩ found chosen
    refine ⟨revokes.change found now reason, ?_⟩
    intro promised familyId reuse token live
    rw [List.map_append, List.mem_append]
    rcases covers promised familyId reuse token live with waiting | written
    · rcases List.mem_cons.mp waiting with rfl | rest
      · right
        right
        have placed : row.id = token.id := Table.key_of_get found
        rw [List.map_singleton, List.mem_singleton]
        exact placed.symm
      · exact Or.inl rest
    · exact Or.inr (Or.inl written)
  · rintro count changes locks base ⟨revokes, covers⟩ last rely
    have after := revokes.later rely
    refine after.commits rely.invariant accepts ?_
    intro promised familyId reuse token live
    obtain ⟨rfl, _⟩ := family familyId reuse
    obtain ⟨before, beforeLive, same⟩ :=
      (rely.assumes promised).childless familyId token (Or.inr rfl) (after.live live)
    rcases covers promised familyId reuse before beforeLive with waiting | written
    · cases waiting
    · rw [same] at written
      obtain ⟨_, _, new, _, seen, _, _, revoked⟩ := after token.id written
      rw [live.has] at seen
      cases seen
      have alive := live.live
      rw [RefreshToken.isLive, Bool.and_eq_true, Option.isNone_iff_eq_none,
        Option.isNone_iff_eq_none] at alive
      rw [alive.2] at revoked
      cases revoked
  · refine ⟨revokes_nil _ _, ?_⟩
    intro promised familyId reuse token live
    obtain ⟨_, rfl⟩ := family familyId reuse
    refine Or.inl (List.mem_map_of_mem ((Table.mem_select _ _ _).mpr ⟨?_, ?_⟩))
    · exact Table.mem_of_get live.has
    · have alive := live.live
      rw [RefreshToken.isLive, Bool.and_eq_true] at alive
      rw [familyClause, live.family, alive.2]
      simp

/-- The token is still the live one of its family, or its family has none. -/
def Standing (table : TokenTable) (familyId id : Uuid) : Prop :=
  (∃ token, Live table familyId token ∧ token.id = id) ∨ Dead table familyId

theorem Standing.later {familyId id : Uuid} {changes : List (Change Uuid RefreshToken)}
    (standing : Standing base.table familyId id) (tokens : TokensAt orderly base)
    (rely : (tokenContract orderly).Rely tokenIndexes phase changes locks base last)
    (promised : orderly) (rotating : Rotating phase id) : Standing last.table familyId id := by
  have descends := rely.guarantee.descends familyId
  rcases standing with ⟨token, live, rfl⟩ | dead
  swap
  · exact Or.inr (dead.later descends)
  rcases descends with older | ⟨parent, kept, parentLive, found, rotated⟩
  · by_cases dead : Dead last.table familyId
    · exact Or.inr dead
    · unfold Dead at dead
      push Not at dead
      obtain ⟨other, otherLive⟩ := dead
      obtain ⟨before, beforeLive, same⟩ := older other otherLive
      refine Or.inl ⟨other, otherLive, ?_⟩
      rw [← same, tokens.single familyId before token beforeLive live]
  · exfalso
    rw [tokens.single familyId parent token parentLive live] at found
    have alive := live.live
    rw [RefreshToken.isLive, Bool.and_eq_true, Option.isNone_iff_eq_none] at alive
    obtain ⟨other, stays, fresh⟩ :=
      (rely.assumes promised).unrotated token.id token rotating live.has alive.1
    rw [found] at stays
    cases stays
    rw [fresh] at rotated
    cases rotated

/-- Where the compare-and-set of a refresh stands. -/
structure Comparing (orderly : Prop) (call : RefreshCall) (parent : RefreshToken)
    (todo : List Uuid) (count : Nat) (changes : List (Change Uuid RefreshToken))
    (locks : List Uuid) (base : TokenBase) : Prop where
  tokens : TokensAt orderly base
  known : ∃ row, base.table.get parent.id = some row ∧ row.familyId = parent.familyId
  state :
    (changes = [] ∧ count = 0 ∧ (orderly → Standing base.table parent.familyId parent.id ∧
      (parent.id ∈ todo ∨ Dead base.table parent.familyId))) ∨
    ∃ row before, count = before + 1 ∧ changes = [.store (row.rotate call.now)] ∧
      parent.id ∈ locks ∧ Live base.table parent.familyId row ∧ row.id = parent.id

section Comparison

variable {call : RefreshCall} {parent : RefreshToken} {todo : List Uuid} {count : Nat}
variable {changes : List (Change Uuid RefreshToken)} {k : Uuid} {row : RefreshToken}

theorem known_later {id familyId : Uuid} (persists : Persists base.table last.table)
    (known : ∃ row, base.table.get id = some row ∧ row.familyId = familyId) :
    ∃ row, last.table.get id = some row ∧ row.familyId = familyId := by
  obtain ⟨row, found, family⟩ := known
  obtain ⟨kept, stays, same, _⟩ := persists id row found
  exact ⟨kept, stays, same.trans family⟩

theorem Comparing.later (comparing : Comparing orderly call parent todo count changes locks base)
    (rely : (tokenContract orderly).Rely tokenIndexes phase changes locks base last)
    (rotating : Rotating phase parent.id) :
    Comparing orderly call parent todo count changes locks last := by
  refine ⟨rely.invariant, known_later rely.guarantee.persists comparing.known, ?_⟩
  rcases comparing.state with ⟨none, zero, standing⟩ | ⟨row, before, one, written, held, live, same⟩
  · refine Or.inl ⟨none, zero, ?_⟩
    intro promised
    obtain ⟨stands, rest⟩ := standing promised
    refine ⟨stands.later comparing.tokens rely promised rotating, ?_⟩
    exact rest.imp_right fun dead => dead.later (rely.guarantee.descends _)
  · refine Or.inr ⟨row, before, one, written, held, ⟨?_, live.family, live.live⟩, same⟩
    rw [same, rely.kept _ held, ← same]
    exact live.has

theorem Comparing.lock (comparing : Comparing orderly call parent todo count changes locks base) :
    Comparing orderly call parent todo count changes (k :: locks) base := by
  refine ⟨comparing.tokens, comparing.known, comparing.state.imp_right ?_⟩
  rintro ⟨row, before, one, written, held, live, same⟩
  exact ⟨row, before, one, written, List.mem_cons_of_mem _ held, live, same⟩

theorem Comparing.pass
    (comparing : Comparing orderly call parent (k :: todo) count changes locks base)
    (passed : ∀ token, Live base.table parent.familyId token → token.id = parent.id →
      changes = [] → k ≠ parent.id) :
    Comparing orderly call parent todo count changes locks base := by
  refine ⟨comparing.tokens, comparing.known, comparing.state.imp_left ?_⟩
  rintro ⟨none, zero, standing⟩
  refine ⟨none, zero, ?_⟩
  intro promised
  obtain ⟨stands, rest⟩ := standing promised
  refine ⟨stands, ?_⟩
  rcases rest with waiting | dead
  · rcases stands with ⟨token, live, same⟩ | dead
    · exact Or.inl ((List.mem_cons.mp waiting).resolve_left
        fun here => passed token live same none here.symm)
    · exact Or.inr dead
  · exact Or.inr dead

theorem Comparing.change
    (comparing : Comparing orderly call parent (k :: todo) count changes locks base)
    (found : (overlay changes base.table).get k = some row)
    (chosen : rotationClause parent.id row = true) :
    Comparing orderly call parent todo (count + 1) (changes ++ [.store (row.rotate call.now)])
      (k :: locks) base := by
  rw [rotationClause, Bool.and_eq_true, decide_eq_true_eq] at chosen
  have here : parent.id = k := chosen.1.symm.trans (Table.key_of_get found)
  refine ⟨comparing.tokens, comparing.known, Or.inr ?_⟩
  rcases comparing.state with ⟨rfl, rfl, _⟩ | ⟨other, _, _, rfl, _, _, same⟩
  · obtain ⟨stored, known, family⟩ := comparing.known
    change base.table.get k = some row at found
    rw [here, found] at known
    cases known
    refine ⟨row, 0, rfl, rfl, ?_, ⟨?_, family, chosen.2⟩, chosen.1⟩
    · rw [here]
      exact List.mem_cons_self
    · rw [chosen.1, here]
      exact found
  · exfalso
    have rotated : (overlay [.store (other.rotate call.now)] base.table).get k =
        if k = other.id then some (other.rotate call.now) else base.table.get k :=
      Table.get_store _ _ _
    rw [rotated, if_pos (here.symm.trans same.symm)] at found
    cases found
    exact absurd chosen.2 (by rw [RefreshToken.isLive_rotate]; exact Bool.false_ne_true)

theorem rotated_outline (comparing : Comparing orderly call parent [] count changes locks base) :
    (rotated call parent (some count)).Outline (tokenContract orderly) tokenIndexes changes locks
      base := by
  rcases comparing.state with
    ⟨rfl, rfl, standing⟩ | ⟨row, before, rfl, rfl, held, live, same⟩
  · intro last rely
    refine (revokes_nil locks last.table).commits rely.invariant (fun _ => rfl) ?_
    rintro promised familyId (reuse | reuse)
    · cases reuse
    · cases reuse
      obtain ⟨_, rest⟩ := standing promised
      refine Dead.later ?_ (rely.guarantee.descends _)
      exact rest.resolve_left fun waiting => nomatch waiting
  · intro middle rely
    have kept : middle.table.get row.id = some row := by
      rw [same, rely.kept _ held, ← same]
      exact live.has
    split
    swap
    · trivial
    rename_i passes
    rw [Bool.and_eq_true, Option.isNone_iff_eq_none] at passes
    have seen : (overlay [.store (row.rotate call.now)] middle.table).get call.newId =
        if call.newId = row.id then some (row.rotate call.now)
        else middle.table.get call.newId := Table.get_store _ _ _
    have fresh : middle.table.get call.newId = none := by
      have absent : (overlay [.store (row.rotate call.now)] middle.table).get call.newId = none :=
        passes.1
      rw [seen] at absent
      split at absent
      · cases absent
      · exact absent
    intro final after
    have parentKept : final.table.get row.id = some row := by
      rw [after.kept row.id (List.mem_cons_of_mem _ (by rw [same]; exact held))]
      exact kept
    have childFresh : final.table.get (childOf call parent).id = none :=
      (after.kept _ List.mem_cons_self).trans fresh
    rw [← same]
    exact exchange_commits ⟨parentKept, live.family, live.live⟩ childFresh rfl after.invariant

theorem rotation_outline (tokens : TokensAt orderly base) (stored : base.table.get parent.id =
    some parent) (live : parent.isLive = true) :
    (rotation call parent).Outline (tokenContract orderly) tokenIndexes [] locks base := by
  intro first rely
  have standing : orderly → Standing first.table parent.familyId parent.id := fun promised =>
    Standing.later (Or.inl ⟨parent, ⟨stored, rfl, live⟩, rfl⟩) tokens rely promised
      ⟨call, parent, rfl, Or.inl rfl⟩
  refine updateOutline_intro (Comparing orderly call parent) ?_ ?_ ?_ ?_
    (fun _ _ _ _ _ _ _ _ _ _ => trivial) (fun _ _ _ _ comparing => rotated_outline comparing)
    _ _ _ _ _ ?_
  · intro todo count changes locks base last comparing rely
    exact comparing.later rely ⟨call, parent, rfl, Or.inr ⟨todo, count, rfl⟩⟩
  · intro k todo count changes locks base comparing missing
    refine comparing.pass ?_
    rintro token live same rfl rfl
    change base.table.get parent.id = none at missing
    rw [← same, live.has] at missing
    cases missing
  · intro k todo count changes locks base row comparing found passed
    refine Comparing.lock (comparing.pass ?_)
    rintro token live same rfl rfl
    change base.table.get parent.id = some row at found
    rw [← same, live.has] at found
    cases found
    rw [rotationClause, same, live.live] at passed
    simp at passed
  · exact fun _ _ _ _ _ _ _ comparing found chosen => comparing.change found chosen
  · refine ⟨rely.invariant, known_later rely.guarantee.persists ⟨parent, stored, rfl⟩,
      Or.inl ⟨rfl, rfl, ?_⟩⟩
    intro promised
    refine ⟨standing promised, ?_⟩
    refine (standing promised).imp_left ?_
    rintro ⟨token, tokenLive, same⟩
    rw [← same]
    refine List.mem_map_of_mem ((Table.mem_select _ _ _).mpr ⟨Table.mem_of_get tokenLive.has, ?_⟩)
    rw [rotationClause, same, tokenLive.live]
    simp

theorem refreshRow_outline (tokens : TokensAt orderly base)
    (stored : base.table.get row.id = some row) :
    (refreshRow call row).Outline (tokenContract orderly) tokenIndexes [] locks base := by
  unfold refreshRow
  split
  · refine revokeWhere_outline ?_ ?_
    · exact fun _ => rfl
    rintro familyId (reuse | reuse)
    · cases reuse
      exact ⟨rfl, rfl⟩
    · cases reuse
  rename_i unspent
  split
  · trivial
  split
  · refine revokeWhere_outline ?_ ?_
    · exact fun _ => rfl
    rintro familyId (reuse | reuse)
    · cases reuse
    · cases reuse
  · refine rotation_outline tokens stored ?_
    simpa [RefreshToken.isLive] using unspent

theorem refresh_outline (call : RefreshCall) :
    (refresh call).Outline (tokenContract orderly) tokenIndexes [] locks base := by
  intro first rely
  dsimp only
  split
  · trivial
  · rename_i row found
    refine refreshRow_outline rely.invariant ?_
    exact Table.get_of_mem _ _ ((Table.mem_select _ _ _).mp (List.mem_of_mem_head? found)).1

end Comparison

theorem TokenCall.outline (call : TokenCall) :
    call.prog.Outline (tokenContract orderly) tokenIndexes [] [] base := by
  have unrelated : ∀ answer : TokenAnswer, answer = .loggedOut ∨ answer = .revoked →
      ∀ familyId, ¬answer.Reuse familyId := by
    rintro answer (rfl | rfl) familyId (reuse | reuse)
    · cases reuse
    · cases reuse
    · cases reuse
    · cases reuse
  cases call with
  | refresh call => exact refresh_outline call
  | logout tokenHash now =>
    exact revokeWhere_outline (fun _ => rfl)
      fun familyId reuse => absurd reuse (unrelated _ (Or.inl rfl) familyId)
  | revokeAll userId now reason =>
    exact revokeWhere_outline (fun _ => rfl)
      fun familyId reuse => absurd reuse (unrelated _ (Or.inr rfl) familyId)

end Outlines

/-! ## Runs -/

section Runs

variable {Tid : Type} [DecidableEq Tid]

abbrev TokenWorld (Tid : Type) := World Tid RefreshToken.id Exc TokenAnswer

def tokenStart (table : TokenTable) (calls : Tid → TokenCall) : TokenWorld Tid :=
  World.start table fun tid => (calls tid).prog

/-- No family of the table has two live tokens. -/
def Single (table : TokenTable) : Prop :=
  ∀ familyId left right, Live table familyId left → Live table familyId right → left = right

omit [DecidableEq Tid] in
theorem upholds_tokenStart {orderly : Prop} {table : TokenTable} (calls : Tid → TokenCall)
    (unique : ∀ index ∈ tokenIndexes, table.Unique index) (single : Single table) :
    Upholds (tokenContract orderly) tokenIndexes (tokenStart table calls, []) := by
  refine upholds_start table _ unique ⟨single, fun _ => Nat.zero_le 1, ?_, ?_, ?_⟩
    fun tid => (calls tid).outline
  · intro parent positive
    cases positive
  · rintro _ familyId ⟨answer, member, _⟩
    cases member
  · exact fun _ => List.Pairwise.nil

/-- In every run of refreshes, logouts and revocations, a family has one live token at
most, and a token is exchanged by one transaction at most. -/
theorem family_has_one_live_token (calls : Tid → TokenCall) (table : TokenTable)
    (unique : ∀ index ∈ tokenIndexes, table.Unique index) (single : Single table)
    (last : TokenWorld Tid × List TokenAnswer)
    (run : World.LogRun tokenIndexes True (fun _ _ _ => True) (tokenStart table calls, []) last) :
    Single last.1.table ∧
      ∀ left right leftFamily rightFamily parent leftChild rightChild,
        (last.1.session left).phase = .committed (.exchanged leftFamily parent leftChild) →
        (last.1.session right).phase = .committed (.exchanged rightFamily parent rightChild) →
          left = right := by
  have start : Upholds (tokenContract False) tokenIndexes (tokenStart table calls, []) :=
    upholds_tokenStart calls unique single
  obtain ⟨ends, _⟩ := start.run run fun _ _ _ _ _ _ _ promised => promised.elim
  refine ⟨ends.invariant.single, ?_⟩
  intro left right leftFamily rightFamily parent leftChild rightChild leftDone rightDone
  exact run.answered_once (fun _ => rfl) (TokenAnswer.exchanges parent)
    (ends.invariant.once parent) leftDone rightDone (decide_eq_true rfl) (decide_eq_true rfl)

/-- The transaction does not commit the rotation of a token while another refresh is
between its read of that token and the end of its compare-and-set, nor a new token of a
family while another transaction revokes the family for a reuse. -/
def Orderly (world : TokenWorld Tid) (tid : Tid) (_ : TokenWorld Tid) : Prop :=
  ∀ answer other, other ≠ tid → (world.session tid).phase = .running (.ret answer) →
    Quiet (world.session other).phase world.table (world.view tid)

/-- In every such run, once a token of a family that was no longer live has been answered,
the family has no live token, and none of its tokens is accepted any more. -/
theorem reuse_ends_the_family (calls : Tid → TokenCall) (table : TokenTable)
    (unique : ∀ index ∈ tokenIndexes, table.Unique index) (single : Single table)
    (last : TokenWorld Tid × List TokenAnswer)
    (run : World.LogRun tokenIndexes True Orderly (tokenStart table calls, []) last) :
    Settled last.2 ∧ ∀ familyId, (∃ answer ∈ last.2, answer.Reuse familyId) →
      Dead last.1.table familyId := by
  have start : Upholds (tokenContract True) tokenIndexes (tokenStart table calls, []) :=
    upholds_tokenStart calls unique single
  obtain ⟨ends, _⟩ := start.run run (by
    intro world tid next step orderly other differs _
    cases step with
    | commit answer done => exact orderly answer other differs done
    | statement statement ready => exact (tokenContract True).assumes_refl _ _ trivial
    | fail error raised => exact (tokenContract True).assumes_refl _ _ trivial
    | abort allowed working => exact (tokenContract True).assumes_refl _ _ trivial)
  exact ⟨ends.invariant.settled trivial, ends.invariant.dead trivial⟩

end Runs

namespace Sample

def morning : DateTime := ⟨2026, 3, 1, 0, by decide⟩

def evening : DateTime := ⟨2026, 3, 1, 64800000000, by decide⟩

/-- The token of a login. -/
def root : RefreshToken := ⟨1, 9, 5, "root", evening, none, none, none⟩

def rootTable : TokenTable := Table.empty.insert root rfl

theorem rootTable_single : Single rootTable := by
  intro familyId left right leftLive rightLive
  have only : ∀ token, Live rootTable familyId token → token = root := by
    intro token live
    have member := Table.mem_of_get live.has
    simpa [rootTable, Table.insert, Table.empty] using member
  rw [only left leftLive, only right rightLive]

theorem rootTable_unique : ∀ index ∈ tokenIndexes, rootTable.Unique index := by
  decide

def present (tokenHash : String) (newId : Uuid) (newHash : String) : RefreshCall :=
  ⟨tokenHash, fun _ => true, morning, newId, newHash, evening⟩

/-- Two presentations of the token, and one of the child of the first. -/
def presentations : Fin 3 → TokenCall :=
  ![.refresh (present "root" 2 "child"), .refresh (present "root" 3 "other"),
    .refresh (present "child" 4 "grandchild")]

/-- Both read the token as live; the first rotates it, and the second loses. -/
def rootRaced : TokenWorld (Fin 3) :=
  (tokenStart rootTable presentations).follow tokenIndexes
    ([0, 1] ++ List.replicate 5 0 ++ List.replicate 3 1)

theorem second_presentation_loses :
    ∃ last, World.LogRun tokenIndexes True (fun _ _ _ => True)
        (tokenStart rootTable presentations, []) last ∧
      (last.1.session 0).phase = .committed (.exchanged 5 1 2) ∧
      (last.1.session 1).phase = .committed (.lost 5) ∧ Single last.1.table := by
  have reaches : World.Reaches tokenIndexes True (tokenStart rootTable presentations) rootRaced :=
    follow_reaches _ _
  obtain ⟨log, run⟩ := reaches.logged []
  exact ⟨_, run, rfl, rfl,
    (family_has_one_live_token presentations rootTable rootTable_unique rootTable_single _ run).1⟩

/-- Then the child is presented. -/
def childAccepted : TokenWorld (Fin 3) := rootRaced.follow tokenIndexes (List.replicate 6 2)

/-- The child is accepted after the loser of the rotation was answered. -/
theorem loser_leaves_family_alive :
    World.Reaches tokenIndexes True (tokenStart rootTable presentations) rootRaced ∧
      World.Reaches tokenIndexes True rootRaced childAccepted ∧
      (rootRaced.session 1).phase = .committed (.lost 5) ∧
      (rootRaced.session 2).phase.answers = [] ∧
      (childAccepted.session 2).phase = .committed (.exchanged 5 2 4) :=
  ⟨follow_reaches _ _, follow_reaches _ _, rfl, rfl, rfl⟩

/-- The session has a statement to send, and it is not its first read. -/
def underway : TokenPhase → Bool
  | .running (.update _ _ _ _) => true
  | .running (.ret _) => true
  | .updating _ _ _ _ _ _ => true
  | _ => false

/-- The step does not commit, or no other session is underway. -/
def alone (world : TokenWorld (Fin 3)) (tid : Fin 3) : Bool :=
  (world.session tid).phase.isStatement ||
    decide (∀ other, other ≠ tid → underway (world.session other).phase = false)

theorem orderly_of_alone (world : TokenWorld (Fin 3)) (tid : Fin 3) (next : TokenWorld (Fin 3))
    (checked : alone world tid = true) : Orderly world tid next := by
  intro answer other differs done
  have idle : underway (world.session other).phase = false := by
    rw [alone, done, Bool.or_eq_true, decide_eq_true_eq] at checked
    exact checked.resolve_left Bool.false_ne_true other differs
  refine ⟨?_, ?_⟩
  · rintro id token ⟨call, parent, _, same | ⟨todo, count, same⟩⟩
    · rw [same] at idle
      cases idle
    · rw [same] at idle
      cases idle
  · rintro familyId token (⟨_, _, _, _, _, same⟩ | same)
    · rw [same] at idle
      cases idle
    · rw [same] at idle
      cases idle

/-- The token is exchanged, presented again, and then its child is presented. -/
def oneAfterTheOther : List (Fin 3) :=
  List.replicate 6 0 ++ List.replicate 6 1 ++ List.replicate 6 2

theorem reuse_is_detected :
    ∃ last, World.LogRun tokenIndexes True Orderly (tokenStart rootTable presentations, []) last ∧
      (last.1.session 0).phase = .committed (.exchanged 5 1 2) ∧
      (last.1.session 1).phase = .committed (.reused 5) ∧
      (last.1.session 2).phase = .committed (.reused 5) ∧ Settled last.2 := by
  have along : World.Along tokenIndexes Orderly (tokenStart rootTable presentations)
      oneAfterTheOther := World.along_of_checks orderly_of_alone _ _ (by decide +kernel)
  have logged : ∃ log, World.LogRun tokenIndexes True Orderly
      (tokenStart rootTable presentations, [])
      ((tokenStart rootTable presentations).follow tokenIndexes oneAfterTheOther, log) :=
    along.logged []
  obtain ⟨log, run⟩ := logged
  exact ⟨_, run, rfl, rfl, rfl,
    (reuse_ends_the_family presentations rootTable rootTable_unique rootTable_single _ run).1⟩

end Sample

end BackendCore.Auth
