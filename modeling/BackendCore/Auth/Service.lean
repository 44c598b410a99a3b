import BackendCore.Lib.Alone
import BackendCore.Lib.Redis
import BackendCore.Lib.Requests
import BackendCore.Auth.Refresh

/-!
# The requests of `AuthService`

Every request is a chain of atomic actions: a Redis command or transaction, a
read of committed rows, a look at the clock, and at the end the commit of what
the request has written.  A request that raises before it commits leaves the
tables as they were, and the Redis keys as it has changed them.

Tokens and their hashes are not told apart: a request is given the hash of what
it presents and of what it draws.  The statements of `refresh`, `logout` and the
revocations are those of the token programs, run in one action here.
-/

set_option autoImplicit false

namespace BackendCore.Auth

open BackendCore.Python BackendCore.Requests

/-! ## Keys -/

inductive Scope where
  | registerIp
  | loginIp
  | twoFactor
  | pwreset
  deriving DecidableEq

def Scope.text : Scope → String
  | .registerIp => "register_ip"
  | .loginIp => "login_ip"
  | .twoFactor => "2fa"
  | .pwreset => "pwreset"

/-- The keys that hold counters. -/
inductive CounterKey where
  | rate (scope : Scope) (key : String)
  | fail (account : String)
  deriving DecidableEq

/-- The keys that hold texts. -/
inductive ValueKey where
  | lock (account : String)
  | totpUsed (userId : Uuid) (code : String)
  | challenge (tokenHash : String)
  | reset (tokenHash : String)
  deriving DecidableEq

def CounterKey.text : CounterKey → String
  | .rate scope key => "rl:" ++ scope.text ++ ":" ++ key
  | .fail account => "auth:fail:" ++ account

def ValueKey.space : ValueKey → String
  | .lock _ => "auth:lock:"
  | .totpUsed _ _ => "auth:totp_used:"
  | .challenge _ => "auth:2fa:"
  | .reset _ => "auth:pwreset:"

def ValueKey.name : ValueKey → String
  | .lock account => account
  | .totpUsed userId code => userId.toStr ++ ":" ++ code
  | .challenge tokenHash => tokenHash
  | .reset tokenHash => tokenHash

def ValueKey.text (key : ValueKey) : String := key.space ++ key.name

theorem CounterKey.text_injective : Function.Injective CounterKey.text := by
  intro left right same
  have chars := congrArg String.toList same
  cases left with
  | rate scope key =>
    cases right with
    | rate other otherKey =>
      cases scope <;> cases other <;> simp [CounterKey.text, Scope.text] at chars ⊢
      all_goals exact String.toList_inj.mp chars
    | fail account => simp [CounterKey.text] at chars
  | fail account =>
    cases right with
    | rate other otherKey => simp [CounterKey.text] at chars
    | fail otherAccount =>
      simp only [CounterKey.text, String.toList_append, List.append_cancel_left_eq] at chars
      rw [String.toList_inj.mp chars]

/-- The sixth character of a key. -/
def ValueKey.letter : ValueKey → Char
  | .lock _ => 'l'
  | .totpUsed _ _ => 't'
  | .challenge _ => '2'
  | .reset _ => 'p'

theorem sixth_append (literal rest : String) {letter : Char}
    (inside : 5 < literal.toList.length ∧ literal.toList[5]? = some letter) :
    (literal ++ rest).toList[5]? = some letter := by
  rw [String.toList_append, List.getElem?_append_left inside.1, inside.2]

theorem ValueKey.sixth (key : ValueKey) : key.text.toList[5]? = some key.letter := by
  cases key with
  | lock account =>
    have inside : 5 < "auth:lock:".toList.length ∧ "auth:lock:".toList[5]? = some 'l' := by decide
    exact sixth_append _ _ inside
  | totpUsed userId code =>
    have inside : 5 < "auth:totp_used:".toList.length ∧
        "auth:totp_used:".toList[5]? = some 't' := by decide
    exact sixth_append _ _ inside
  | challenge tokenHash =>
    have inside : 5 < "auth:2fa:".toList.length ∧ "auth:2fa:".toList[5]? = some '2' := by decide
    exact sixth_append _ _ inside
  | reset tokenHash =>
    have inside : 5 < "auth:pwreset:".toList.length ∧
        "auth:pwreset:".toList[5]? = some 'p' := by decide
    exact sixth_append _ _ inside

theorem ValueKey.text_injective : Function.Injective ValueKey.text := by
  intro left right same
  have letters : left.letter = right.letter := by
    have sixths := left.sixth
    rw [same, right.sixth] at sixths
    exact (Option.some.inj sixths).symm
  have names : left.space = right.space → left.name = right.name := by
    intro spaces
    rw [ValueKey.text, ValueKey.text, spaces] at same
    have chars := congrArg String.toList same
    rw [String.toList_append, String.toList_append, List.append_cancel_left_eq] at chars
    exact String.toList_inj.mp chars
  cases left with
  | lock account =>
    cases right with
    | lock other => exact congrArg ValueKey.lock (names rfl)
    | _ => simp [ValueKey.letter] at letters
  | totpUsed userId code =>
    cases right with
    | totpUsed otherId otherCode =>
      -- the identifiers have one length, so the codes start at the same place
      have chars := congrArg String.toList (names rfl)
      simp only [ValueKey.name, String.toList_append, List.append_assoc] at chars
      have widths : userId.toStr.toList.length = otherId.toStr.toList.length := by
        rw [Uuid.toStr_length, Uuid.toStr_length]
      obtain ⟨ids, codes⟩ := List.append_inj chars widths
      rw [List.append_cancel_left_eq] at codes
      rw [Uuid.toStr_injective userId otherId (String.toList_inj.mp ids),
        String.toList_inj.mp codes]
    | _ => simp [ValueKey.letter] at letters
  | challenge tokenHash =>
    cases right with
    | challenge other => exact congrArg ValueKey.challenge (names rfl)
    | _ => simp [ValueKey.letter] at letters
  | reset tokenHash =>
    cases right with
    | reset other => exact congrArg ValueKey.reset (names rfl)
    | _ => simp [ValueKey.letter] at letters

theorem CounterKey.text_ne (counter : CounterKey) (value : ValueKey) :
    counter.text ≠ value.text := by
  intro same
  cases counter with
  | rate scope key =>
    have chars := congrArg String.toList same
    cases value <;> simp [CounterKey.text, ValueKey.text, ValueKey.space] at chars
  | fail account =>
    have sixths := value.sixth
    have mine : ("auth:fail:" ++ account).toList[5]? = some 'f' :=
      sixth_append _ _ (by decide)
    rw [← same, CounterKey.text, mine] at sixths
    cases value <;> simp [ValueKey.letter] at sixths

/-- Whatever an address, an account name or a code may hold, no key is taken for another one. -/
theorem redis_keys_never_collide :
    (∀ left right : CounterKey, left.text = right.text → left = right) ∧
      (∀ left right : ValueKey, left.text = right.text → left = right) ∧
      ∀ (counter : CounterKey) (value : ValueKey), counter.text ≠ value.text :=
  ⟨fun _ _ same => CounterKey.text_injective same, fun _ _ same => ValueKey.text_injective same,
    CounterKey.text_ne⟩

/-! ## State -/

/-- The tables of the module. -/
structure Accounts where
  users : Table User.id
  tokens : TokenTable
  totps : Table UserTotp.userId
  codes : Table UserRecoveryCode.id

/-- What all requests share: the clock, Redis and the committed tables. -/
structure AuthState where
  now : DateTime
  counters : Redis CounterKey Nat
  values : Redis ValueKey String
  db : Accounts

/-- The clock of Redis, in milliseconds. -/
def AuthState.millis (state : AuthState) : Int := state.now.toMicros / 1000

/-- Time passes; the keys that expire with it are those whose time is over. -/
def Passes (state later : AuthState) : Prop :=
  state.now ≤ later.now ∧ later = { state with now := later.now }

structure AuthSettings where
  loginMaxFailures : Nat
  loginLockoutSeconds : Nat
  twoFactorChallengeTtlSeconds : Nat
  passwordResetTtlSeconds : Nat
  registerIpLimitPerHour : Nat

/-- The functions of other libraries. -/
structure AuthRuntime where
  /-- `email.strip().lower()`. -/
  normalizeEmail : String → String
  /-- `lower` of the database. -/
  sqlLower : String → String
  /-- Whether argon2 accepts the password for the hash. -/
  argonVerify : String → String → Bool
  dummyHash : String
  decrypt : String → Except Exc String
  /-- The one-time code of a secret for a time step. -/
  codeAt : String → Int → String
  /-- `unicodedata.normalize("NFKC", text)`. -/
  nfkc : String → String
  hashRecoveryCode : String → String

/-- The three requests that check a second factor. -/
inductive EntryPoint where
  | completeTwoFactor
  | confirmTotp
  | disableTotp
  deriving DecidableEq

/-- What an action leaves in the log. -/
inductive AuthEvent where
  /-- `is_locked`. -/
  | tested (account : String) (locked : Bool)
  /-- `verify_password` of a login. -/
  | verified (account : String) (millis : Int)
  | counted (account : String) (failures : Nat) (millis : Int)
  | locked (account : String) (last : Int)
  /-- A hit of the limiter of second factors, with the end of its window. -/
  | limited (userId : Uuid) (last : Int) (count : Nat)
  /-- A second factor is compared with the codes around the clock. -/
  | checked (entry : EntryPoint) (userId : Uuid) (secret code : String) (millis : Int)
  /-- A one-time code is accepted; the time is that of its check. -/
  | accepted (entry : EntryPoint) (userId : Uuid) (secret code : String) (millis : Int)
  | resetIssued (userId : Uuid) (tokenHash : String)
  | resetConsumed (userId : Uuid) (tokenHash : String)
  | passwordReset (userId : Uuid) (tokenHash : String)
  | passwordChanged (userId : Uuid)
  deriving DecidableEq

inductive AuthAnswer where
  | registered (userId : Uuid)
  | challenged (tokenHash : String)
  | tokens (tokenHash : String)
  | totpSetup (secretEncrypted : String)
  | recoveryCodes (codes : List String)
  | ok
  deriving DecidableEq

abbrev AuthProc := Proc AuthState AuthEvent (Except Exc AuthAnswer)

def raising (raised : Exc) : AuthProc := .done (.error raised)

def answering (answer : AuthAnswer) : AuthProc := .done (.ok answer)

/-- The end of a request: its outcome and the tables it commits.  The event is left
by the requests that succeed. -/
def transaction (event : Option AuthEvent)
    (body : AuthState → Except Exc AuthAnswer × Accounts) : AuthProc :=
  .act (fun state => if (body state).1.isOk then event else none)
    (fun state => { state with db := (body state).2 })
    fun state => .done (body state).1

/-- A failed transaction leaves the tables as they are. -/
def orRollback (db : Accounts) :
    Except Exc (AuthAnswer × Accounts) → Except Exc AuthAnswer × Accounts
  | .ok (answer, written) => (.ok answer, written)
  | .error raised => (.error raised, db)

/-! ## `rate_limit.py` -/

/-- `_incr_with_ttl`. -/
def AuthState.incrWithTtl (state : AuthState) (key : CounterKey) (seconds : Nat) : AuthState :=
  { state with
    counters := (state.counters.incr state.millis key).expireNx state.millis key seconds }

def AuthState.counter (state : AuthState) (key : CounterKey) : Redis.Entry Nat :=
  (state.counters.find state.millis key).getD ⟨0, none⟩

/-- `RateLimiter.hit`. -/
def hit (scope : Scope) (key : String) (limit windowSeconds : Nat)
    (emits : Redis.Entry Nat → Option AuthEvent) (next : Bool → AuthProc) : AuthProc :=
  .act (fun state => emits
      ((state.incrWithTtl (.rate scope key) windowSeconds).counter (.rate scope key)))
    (fun state => state.incrWithTtl (.rate scope key) windowSeconds)
    fun state => next (decide
      (((state.incrWithTtl (.rate scope key) windowSeconds).counter (.rate scope key)).value ≤
        limit))

/-- `LoginThrottle.is_locked`. -/
def isLocked (account : String) (next : Bool → AuthProc) : AuthProc :=
  .act (fun state => some (.tested account (state.values.holds state.millis (.lock account)))) id
    fun state => next (state.values.holds state.millis (.lock account))

/-- The length of a lock, in seconds. -/
def lockDuration (settings : AuthSettings) (failures : Nat) : Nat :=
  min settings.loginLockoutSeconds (60 * 2 ^ (failures - settings.loginMaxFailures))

/-- `SET auth:lock:… EX`. -/
def setLock (settings : AuthSettings) (account : String) (failures : Nat) (next : AuthProc) :
    AuthProc :=
  .act (fun state => some (.locked account
      (Redis.expiry state.millis (lockDuration settings failures))))
    (fun state => { state with
      values := state.values.setEx state.millis (.lock account) "1"
        (lockDuration settings failures) })
    fun _ => next

/-- `LoginThrottle.record_failure`. -/
def recordFailure (settings : AuthSettings) (account : String) (next : AuthProc) : AuthProc :=
  .act (fun state => some (.counted account
      ((state.incrWithTtl (.fail account) settings.loginLockoutSeconds).counter
        (.fail account)).value state.millis))
    (fun state => state.incrWithTtl (.fail account) settings.loginLockoutSeconds)
    fun state =>
      let failures := ((state.incrWithTtl (.fail account) settings.loginLockoutSeconds).counter
        (.fail account)).value
      if settings.loginMaxFailures ≤ failures then setLock settings account failures next
      else next

/-- `LoginThrottle.clear`. -/
def clearThrottle (account : String) (next : AuthProc) : AuthProc :=
  .silent (fun state => { state with
      counters := state.counters.del (.fail account)
      values := state.values.del (.lock account) })
    fun _ => next

/-- `TotpReplayGuard.check_and_mark`. -/
def checkAndMark (entry : EntryPoint) (userId : Uuid) (secret code : String) (checked : Int)
    (next : Bool → AuthProc) : AuthProc :=
  .act (fun state =>
      if state.values.holds state.millis (.totpUsed userId code) then none
      else some (.accepted entry userId secret code checked))
    (fun state => { state with
      values := state.values.setNxEx state.millis (.totpUsed userId code) "1" 90 })
    fun state => next (!state.values.holds state.millis (.totpUsed userId code))

/-- `EphemeralTokenStore.put`. -/
def putToken (key : ValueKey) (value : String) (ttlSeconds : Nat) (emits : Option AuthEvent)
    (next : AuthProc) : AuthProc :=
  .act (fun _ => emits)
    (fun state => { state with
      values := state.values.setEx state.millis key value ttlSeconds })
    fun _ => next

/-- `EphemeralTokenStore.consume`. -/
def consume (key : ValueKey) (emits : Option String → Option AuthEvent)
    (next : Option String → AuthProc) : AuthProc :=
  .act (fun state => emits (state.values.get state.millis key))
    (fun state => { state with values := state.values.del key })
    fun state => next (state.values.get state.millis key)

/-! ## `security` -/

/-- `verify_password`. -/
def verifyPassword (runtime : AuthRuntime) (passwordHash : Option String) (password : String) :
    Bool :=
  match passwordHash with
  | none => false
  | some stored =>
    runtime.argonVerify (if stored = "" then runtime.dummyHash else stored) password

/-- The time step of a moment. -/
def totpStep (millis : Int) : Int := millis / 30000

/-- `verify_totp` with its window of one step. -/
def verifyTotp (runtime : AuthRuntime) (secret code : String) (millis : Int) : Bool :=
  [-1, 0, 1].any fun (offset : Int) =>
    runtime.nfkc code = runtime.codeAt secret (totpStep millis + offset)

def recoveryCodeCount : Nat := 10

/-- `generate_recovery_codes`, with the identifiers of the rows. -/
structure RecoveryDraw where
  codes : List (Uuid × String)
  count : codes.length = recoveryCodeCount

/-! ## Tables -/

/-- `get_by_email`. -/
def getByEmail (runtime : AuthRuntime) (users : Table User.id) (email : String) : Option User :=
  (users.select fun user =>
    runtime.sqlLower user.email = runtime.normalizeEmail email).head?

/-- `uq_users_email_lower`. -/
def userIndexes (runtime : AuthRuntime) : List (User → Option String) :=
  [fun user => some (runtime.sqlLower user.email)]

def addUser (runtime : AuthRuntime) (db : Accounts) (user : User) :
    Except Exc (AuthAnswer × Accounts) :=
  if (db.users.get user.id).isNone && ReadCommitted.fits (userIndexes runtime) db.users user then
    .ok (.registered user.id, { db with users := db.users.store user })
  else .error .integrityError

/-- What is drawn for a new session. -/
structure TokenDraw where
  id : Uuid
  familyId : Uuid
  tokenHash : String
  expiresAt : DateTime

def TokenDraw.row (draw : TokenDraw) (userId : Uuid) : RefreshToken where
  id := draw.id
  userId := userId
  familyId := draw.familyId
  tokenHash := draw.tokenHash
  expiresAt := draw.expiresAt
  rotatedAt := none
  revokedAt := none
  revokedReason := none

/-- The row refers to its user. -/
def addToken (db : Accounts) (row : RefreshToken) : Except Exc (AuthAnswer × Accounts) :=
  if (db.users.get row.userId).isSome && (db.tokens.get row.id).isNone &&
      ReadCommitted.fits tokenIndexes db.tokens row then
    .ok (.tokens row.tokenHash, { db with tokens := db.tokens.store row })
  else .error .integrityError

/-- `UPDATE users SET password_hash`. -/
def newPassword (userId : Uuid) (passwordHash : String) (user : User) : User :=
  if user.id = userId then { user with passwordHash := passwordHash } else user

theorem newPassword_id (userId : Uuid) (passwordHash : String) (user : User) :
    (newPassword userId passwordHash user).id = user.id := by
  unfold newPassword
  split
  · rfl
  · rfl

/-- A new password, and every session of the user revoked. -/
def setPassword (db : Accounts) (userId : Uuid) (passwordHash : String) (now : DateTime) :
    Except Exc (AuthAnswer × Accounts) :=
  match (revokeAllUserTokens userId now "password_change").alone tokenIndexes db.tokens with
  | .error raised => .error raised
  | .ok (_, tokens) => .ok (.ok, { db with
      users := db.users.mapRows (newPassword userId passwordHash)
        (newPassword_id userId passwordHash)
      tokens := tokens })

/-- The unspent codes of a user with the hash. -/
def recoveryClause (userId : Uuid) (codeHash : String) (row : UserRecoveryCode) : Bool :=
  row.userId = userId && row.codeHash = codeHash && row.usedAt.isNone

def spentRow (ids : List Uuid) (now : DateTime) (row : UserRecoveryCode) : UserRecoveryCode :=
  if row.id ∈ ids then { row with usedAt := some now } else row

theorem spentRow_id (ids : List Uuid) (now : DateTime) (row : UserRecoveryCode) :
    (spentRow ids now row).id = row.id := by
  unfold spentRow
  split
  · rfl
  · rfl

/-- What the compare-and-set writes to the rows it has found. -/
def spend (ids : List Uuid) (now : DateTime) (db : Accounts) : Accounts :=
  { db with codes := db.codes.mapRows (spentRow ids now) (spentRow_id ids now) }

def insertCodes : List UserRecoveryCode → Table UserRecoveryCode.id →
    Option (Table UserRecoveryCode.id)
  | [], codes => some codes
  | row :: rest, codes =>
    if (codes.get row.id).isNone then insertCodes rest (codes.store row) else none

def RecoveryDraw.rows (draw : RecoveryDraw) (runtime : AuthRuntime) (userId : Uuid) :
    List UserRecoveryCode :=
  draw.codes.map fun (id, code) => ⟨id, userId, runtime.hashRecoveryCode code, none⟩

/-- The second factor is on, and its recovery codes are stored. -/
def addRecoveryCodes (runtime : AuthRuntime) (db : Accounts) (userId : Uuid)
    (draw : RecoveryDraw) (now : DateTime) : Except Exc (AuthAnswer × Accounts) :=
  match db.totps.get userId with
  | none => .error (.unexpected "StaleDataError")
  | some row =>
    match insertCodes (draw.rows runtime userId) db.codes with
    | none => .error .integrityError
    | some codes => .ok (.recoveryCodes (draw.codes.map Prod.snd), { db with
        totps := db.totps.put { row with confirmedAt := some now }
        codes := codes })

/-- The row of the second factor and all recovery codes of the user are deleted. -/
def dropTotp (db : Accounts) (userId : Uuid) : Accounts :=
  { db with
    totps := db.totps.erase userId
    codes := db.codes.deleteWhere fun row => row.userId = userId }

def storeSecret (db : Accounts) (userId : Uuid) (existing : Option UserTotp)
    (secretEncrypted : String) : Except Exc (AuthAnswer × Accounts) :=
  match existing, db.totps.get userId with
  | some _, none => .error (.unexpected "StaleDataError")
  | some _, some row => .ok (.totpSetup secretEncrypted, { db with
      totps := db.totps.put { row with secretEncrypted := secretEncrypted } })
  | none, some _ => .error .integrityError
  | none, none =>
    if (db.users.get userId).isSome then
      .ok (.totpSetup secretEncrypted, { db with
        totps := db.totps.store ⟨userId, secretEncrypted, none⟩ })
    else .error .integrityError

/-! ## Requests -/

namespace AuthService

variable (runtime : AuthRuntime) (settings : AuthSettings)

/-- `ip or "unknown"`. -/
def ipKey (ip : Option String) : String :=
  match ip with
  | none => "unknown"
  | some text => if text = "" then "unknown" else text

structure RegisterCall where
  email : String
  ip : Option String
  userId : Uuid
  passwordHash : String

def register (call : RegisterCall) : AuthProc :=
  hit .registerIp (ipKey call.ip) settings.registerIpLimitPerHour 3600 (fun _ => none)
    fun allowed =>
      if !allowed then raising (.rateLimitedError "too many registrations")
      else .read (fun state =>
          getByEmail runtime state.db.users (runtime.normalizeEmail call.email)) fun
        | some _ => raising (.conflictError "email already registered")
        | none => transaction none fun state => orRollback state.db
            (addUser runtime state.db
              ⟨call.userId, runtime.normalizeEmail call.email, call.passwordHash, .active⟩)

/-- `_issue_tokens`, with what the request has written before. -/
def issueTokens (userId : Uuid) (draw : TokenDraw) (written : Accounts → Accounts) : AuthProc :=
  transaction none fun state =>
    orRollback state.db (addToken (written state.db) (draw.row userId))

structure LoginCall where
  email : String
  password : String
  ip : Option String
  challengeHash : String
  draw : TokenDraw

/-- `authenticate` once the password is right. -/
def loggedIn (call : LoginCall) (userId : Uuid) : AuthProc :=
  .read (fun state => state.db.totps.get userId) fun row =>
    if (row.bind UserTotp.confirmedAt).isSome then
      putToken (.challenge call.challengeHash) userId.toStr settings.twoFactorChallengeTtlSeconds
        none (answering (.challenged call.challengeHash))
    else issueTokens userId call.draw id

/-- The account a login counts for. -/
def accountKey (call : LoginCall) (user : Option User) : String :=
  match user with
  | some user => user.id.toStr
  | none => "email:" ++ runtime.normalizeEmail call.email

/-- `authenticate` with the user it has found, past the lock. -/
def verifyLogin (call : LoginCall) (user : Option User) : AuthProc :=
  .act (fun state => some (.verified (accountKey runtime call user) state.millis)) id fun _ =>
    match user with
    | some found =>
      if verifyPassword runtime (some found.passwordHash) call.password &&
          found.status = .active then
        clearThrottle (accountKey runtime call user) (loggedIn settings call found.id)
      else recordFailure settings (accountKey runtime call user)
        (raising (.authenticationError "invalid credentials"))
    | none => recordFailure settings (accountKey runtime call user)
        (raising (.authenticationError "invalid credentials"))

def authenticate (call : LoginCall) : AuthProc :=
  hit .loginIp (ipKey call.ip) 30 60 (fun _ => none) fun allowed =>
    if !allowed then raising (.rateLimitedError "too many attempts")
    else .read (fun state =>
        getByEmail runtime state.db.users (runtime.normalizeEmail call.email)) fun user =>
      isLocked (accountKey runtime call user) fun locked =>
        if locked then raising (.rateLimitedError "account temporarily locked")
        else verifyLogin runtime settings call user

/-- The comparison of a code with the codes around the clock. -/
def checkCode (entry : EntryPoint) (userId : Uuid) (secret code : String)
    (next : Int → Bool → AuthProc) : AuthProc :=
  .act (fun state => some (.checked entry userId secret code state.millis)) id fun state =>
    next state.millis (verifyTotp runtime secret code state.millis)

/-- `_verify_totp_or_recovery`; what a spent recovery code writes is committed by the
request that goes on. -/
def verifyTotpOrRecovery (entry : EntryPoint) (userId : Uuid) (code : String) (refused : AuthProc)
    (verified : (Accounts → Accounts) → AuthProc) : AuthProc :=
  .read (fun state => state.db.totps.get userId) fun
    | none => refused
    | some row =>
      match runtime.decrypt row.secretEncrypted with
      | .error raised => raising raised
      | .ok secret => checkCode runtime entry userId secret code fun checked matched =>
        if matched then
          checkAndMark entry userId secret code checked fun fresh =>
            if fresh then verified id else refused
        else .read (fun state => ((state.db.codes.select
            (recoveryClause userId (runtime.hashRecoveryCode code))).map UserRecoveryCode.id,
            state.now)) fun (ids, now) =>
          if ids.length = 1 then verified (spend ids now) else refused

structure TwoFactorCall where
  challengeHash : String
  code : String
  draw : TokenDraw

/-- `complete_two_factor` for the user of its challenge. -/
def twoFactorOf (call : TwoFactorCall) (userId : Uuid) : AuthProc :=
  hit .twoFactor userId.toStr 5 300
    (fun entry => entry.expiresAt.map fun last => .limited userId last entry.value) fun allowed =>
      if !allowed then raising (.rateLimitedError "too many 2FA attempts")
      else .read (fun state => state.db.users.get userId) fun user =>
        if user.map User.status = some .active then
          verifyTotpOrRecovery runtime .completeTwoFactor userId call.code
            (raising (.authenticationError "invalid 2FA code")) fun written =>
              issueTokens userId call.draw written
        else raising (.authenticationError "invalid or expired challenge")

def completeTwoFactor (call : TwoFactorCall) : AuthProc :=
  consume (.challenge call.challengeHash) (fun _ => none) fun
    | none => raising (.authenticationError "invalid or expired challenge")
    | some raw =>
      match Uuid.ofStr? raw with
      | none => raising .valueError
      | some userId => twoFactorOf runtime call userId

structure ExchangeCall where
  tokenHash : String
  newId : Uuid
  newHash : String
  newExpiry : DateTime

/-- The call of the token program at the moment of the request. -/
def ExchangeCall.asOf (call : ExchangeCall) (state : AuthState) : RefreshCall where
  tokenHash := call.tokenHash
  accountActive := fun userId => (state.db.users.get userId).map User.status = some .active
  now := state.now
  newId := call.newId
  newHash := call.newHash
  newExpiry := call.newExpiry

/-- `refresh`; what revokes a family is committed although the request raises. -/
def refreshed (call : ExchangeCall) (state : AuthState) : Except Exc AuthAnswer × Accounts :=
  match (Auth.refresh (call.asOf state)).alone tokenIndexes state.db.tokens with
  | .error raised => (.error raised, state.db)
  | .ok (answer, tokens) =>
    (match answer.raises with
      | some raised => .error raised
      | none => .ok (.tokens call.newHash),
    { state.db with tokens := tokens })

def refresh (call : ExchangeCall) : AuthProc := transaction none (refreshed call)

def loggedOut (tokenHash : String) (state : AuthState) : Except Exc (AuthAnswer × Accounts) :=
  match (Auth.logout tokenHash state.now).alone tokenIndexes state.db.tokens with
  | .error raised => .error raised
  | .ok (_, tokens) => .ok (.ok, { state.db with tokens := tokens })

def logout (tokenHash : String) : AuthProc :=
  transaction none fun state => orRollback state.db (loggedOut tokenHash state)

def userNotFound (userId : Uuid) : Exc :=
  .notFoundError ("User " ++ userId.toStr ++ " not found")

/-- `_actor_user_id`. -/
def withActor (actor : Option Uuid) (next : Uuid → AuthProc) : AuthProc :=
  match actor with
  | none => raising (.invariantViolationError "operation requires a user actor")
  | some userId => next userId

structure ChangePasswordCall where
  actor : Option Uuid
  currentPassword : String
  newHash : String

def changePassword (call : ChangePasswordCall) : AuthProc :=
  withActor call.actor fun userId =>
    .read (fun state => state.db.users.get userId) fun
      | none => raising (userNotFound userId)
      | some user =>
        if verifyPassword runtime (some user.passwordHash) call.currentPassword then
          transaction (some (.passwordChanged userId)) fun state =>
            orRollback state.db (setPassword state.db userId call.newHash state.now)
        else raising (.authenticationError "current password is incorrect")

structure ResetRequestCall where
  email : String
  tokenHash : String

def requestPasswordReset (call : ResetRequestCall) : AuthProc :=
  .read (fun state => getByEmail runtime state.db.users (runtime.normalizeEmail call.email)) fun
    | none => answering .ok
    | some user =>
      hit .pwreset user.id.toStr 3 900 (fun _ => none) fun allowed =>
        if !allowed then answering .ok
        else putToken (.reset call.tokenHash) user.id.toStr settings.passwordResetTtlSeconds
          (some (.resetIssued user.id call.tokenHash)) (answering .ok)

structure ResetCall where
  tokenHash : String
  newHash : String

/-- `reset_password` for the user of its token. -/
def resetOf (call : ResetCall) (userId : Uuid) : AuthProc :=
  .read (fun state => state.db.users.get userId) fun
    | none => raising (userNotFound userId)
    | some _ => transaction (some (.passwordReset userId call.tokenHash)) fun state =>
      orRollback state.db (setPassword state.db userId call.newHash state.now)

def resetPassword (call : ResetCall) : AuthProc :=
  consume (.reset call.tokenHash)
    (fun raw => (raw.bind Uuid.ofStr?).map fun userId => .resetConsumed userId call.tokenHash) fun
    | none => raising (.authenticationError "invalid or expired reset token")
    | some raw =>
      match Uuid.ofStr? raw with
      | none => raising .valueError
      | some userId => resetOf call userId

structure EnableCall where
  actor : Option Uuid
  secretEncrypted : String

def enableTotp (call : EnableCall) : AuthProc :=
  withActor call.actor fun userId =>
    .read (fun state => state.db.users.get userId) fun
      | none => raising (userNotFound userId)
      | some _ => .read (fun state => state.db.totps.get userId) fun existing =>
        if (existing.bind UserTotp.confirmedAt).isSome then
          raising (.conflictError "2FA already enabled")
        else transaction none fun state => orRollback state.db
          (storeSecret state.db userId existing call.secretEncrypted)

structure ConfirmCall where
  actor : Option Uuid
  code : String
  draw : RecoveryDraw

def confirmTotp (call : ConfirmCall) : AuthProc :=
  withActor call.actor fun userId =>
    .read (fun state => state.db.totps.get userId) fun
      | none => raising (.invariantViolationError "start 2FA enrollment first")
      | some row =>
        match runtime.decrypt row.secretEncrypted with
        | .error raised => raising raised
        | .ok secret => checkCode runtime .confirmTotp userId secret call.code
            fun checked matched =>
              if matched then
                transaction (some (.accepted .confirmTotp userId secret call.code checked))
                  fun state => orRollback state.db
                    (addRecoveryCodes runtime state.db userId call.draw state.now)
              else raising (.authenticationError "invalid 2FA code")

structure DisableCall where
  actor : Option Uuid
  code : String

def disableTotp (call : DisableCall) : AuthProc :=
  withActor call.actor fun userId =>
    verifyTotpOrRecovery runtime .disableTotp userId call.code
      (raising (.authenticationError "invalid 2FA code")) fun written =>
        transaction none fun state => (.ok .ok, dropTotp (written state.db) userId)

end AuthService

open AuthService

/-- A request of one of the endpoints. -/
inductive AuthCall where
  | register (call : RegisterCall)
  | authenticate (call : LoginCall)
  | completeTwoFactor (call : TwoFactorCall)
  | refresh (call : ExchangeCall)
  | logout (tokenHash : String)
  | changePassword (call : ChangePasswordCall)
  | requestPasswordReset (call : ResetRequestCall)
  | resetPassword (call : ResetCall)
  | enableTotp (call : EnableCall)
  | confirmTotp (call : ConfirmCall)
  | disableTotp (call : DisableCall)

def AuthCall.proc (runtime : AuthRuntime) (settings : AuthSettings) : AuthCall → AuthProc
  | .register call => AuthService.register runtime settings call
  | .authenticate call => AuthService.authenticate runtime settings call
  | .completeTwoFactor call => AuthService.completeTwoFactor runtime call
  | .refresh call => AuthService.refresh call
  | .logout tokenHash => AuthService.logout tokenHash
  | .changePassword call => AuthService.changePassword runtime call
  | .requestPasswordReset call => AuthService.requestPasswordReset runtime settings call
  | .resetPassword call => AuthService.resetPassword call
  | .enableTotp call => AuthService.enableTotp call
  | .confirmTotp call => AuthService.confirmTotp runtime call
  | .disableTotp call => AuthService.disableTotp runtime call

/-! ## Rules for the parts of a request -/

section Rules

variable {Tid : Type} [DecidableEq Tid]
variable {contract : Contract Tid AuthState AuthEvent (Except Exc AuthAnswer)} {tid : Tid}
variable {mine : List AuthEvent}

theorem keeps_hit {scope : Scope} {key : String} {limit seconds : Nat} {next : Bool → AuthProc}
    (kept : ∀ state log, contract.invariant state log →
      contract.invariant (state.incrWithTtl (.rate scope key) seconds) log)
    (rest : ∀ allowed, contract.Keeps tid (next allowed) mine) :
    contract.Keeps tid (hit scope key limit seconds (fun _ => none) next) mine :=
  Contract.keeps_silent (fun state log invariant _ => kept state log invariant)
    fun _ _ _ _ => rest _

theorem keeps_transaction {event : AuthEvent}
    {body : AuthState → Except Exc AuthAnswer × Accounts}
    (ends : ∀ answer after, contract.ends tid answer after)
    (failed : ∀ state log db, contract.invariant state log →
      contract.invariant { state with db := db } log)
    (done : ∀ state log, contract.invariant state log → own tid log = mine →
      contract.assumes tid state log (some event) →
      contract.invariant { state with db := (body state).2 } (log ++ [(tid, event)])) :
    contract.Keeps tid (transaction (some event) body) mine := by
  intro state log invariant left assumed
  refine ⟨?_, ends _ _⟩
  by_cases succeeds : (body state).1.isOk = true
  · simp only [succeeds, if_true] at assumed ⊢
    exact done state log invariant left assumed
  · simp only [succeeds, Bool.false_eq_true, if_false, entries_none, List.append_nil]
    exact failed state log _ invariant

theorem keeps_transaction_none {body : AuthState → Except Exc AuthAnswer × Accounts}
    (ends : ∀ answer, contract.ends tid answer mine)
    (kept : ∀ state log db, contract.invariant state log →
      contract.invariant { state with db := db } log) :
    contract.Keeps tid (transaction none body) mine := by
  intro state log invariant left assumed
  simp only [ite_self, entries_none, List.append_nil, Option.toList_none]
  exact ⟨kept state log _ invariant, ends _⟩

theorem keeps_checkCode {runtime : AuthRuntime} {entry : EntryPoint} {userId : Uuid}
    {secret code : String} {next : Int → Bool → AuthProc}
    (check : ∀ state log, contract.invariant state log → own tid log = mine →
      contract.assumes tid state log (some (.checked entry userId secret code state.millis)) →
      contract.invariant state
        (log ++ [(tid, .checked entry userId secret code state.millis)]))
    (rest : ∀ millis, contract.Keeps tid (next millis (verifyTotp runtime secret code millis))
      (mine ++ [.checked entry userId secret code millis])) :
    contract.Keeps tid (AuthService.checkCode runtime entry userId secret code next) mine :=
  fun state log invariant left assumed => ⟨check state log invariant left assumed, rest _⟩

/-- `_verify_totp_or_recovery`: the check, and the mark of a code that matches. -/
theorem keeps_verify {runtime : AuthRuntime} {entry : EntryPoint} {userId : Uuid} {code : String}
    {refused : AuthProc} {verified : (Accounts → Accounts) → AuthProc}
    (raised : ∀ raised, contract.ends tid (.error raised) mine)
    (no : ∀ after, contract.Keeps tid refused (mine ++ after))
    (yes : ∀ written after, contract.Keeps tid (verified written) (mine ++ after))
    (check : ∀ secret state log, contract.invariant state log → own tid log = mine →
      contract.assumes tid state log (some (.checked entry userId secret code state.millis)) →
      contract.invariant state
        (log ++ [(tid, .checked entry userId secret code state.millis)]))
    (mark : ∀ secret checked state log, contract.invariant state log →
      own tid log = mine ++ [.checked entry userId secret code checked] →
      verifyTotp runtime secret code checked = true →
      state.values.holds state.millis (.totpUsed userId code) = false →
      contract.assumes tid state log (some (.accepted entry userId secret code checked)) →
      contract.invariant
        { state with values := state.values.setEx state.millis (.totpUsed userId code) "1" 90 }
        (log ++ [(tid, .accepted entry userId secret code checked)])) :
    contract.Keeps tid
      (AuthService.verifyTotpOrRecovery runtime entry userId code refused verified) mine := by
  unfold AuthService.verifyTotpOrRecovery
  refine Contract.keeps_read fun _ _ _ _ => ?_
  split
  · have done := no []
    rw [List.append_nil] at done
    exact done
  · split
    · exact raised _
    · rename_i secret decrypted
      refine keeps_checkCode (check secret) fun checked => ?_
      by_cases matched : verifyTotp runtime secret code checked = true
      · rw [if_pos matched]
        intro state log invariant left assumed
        dsimp only at assumed ⊢
        by_cases held : state.values.holds state.millis (.totpUsed userId code) = true
        · simp only [held, if_true, Redis.setNxEx, entries_none, List.append_nil,
            Option.toList_none, Bool.not_true, Bool.false_eq_true, if_false]
          exact ⟨invariant, no _⟩
        · rw [Bool.not_eq_true] at held
          simp only [held, Bool.false_eq_true, if_false, Redis.setNxEx, Option.toList_some,
            Bool.not_false, if_true, entries_some] at assumed ⊢
          refine ⟨mark secret checked state log invariant left matched held assumed, ?_⟩
          rw [List.append_assoc]
          exact yes _ _
      · rw [if_neg matched]
        refine Contract.keeps_read fun _ _ _ _ => ?_
        split
        split
        · exact yes _ _
        · exact no _

end Rules

namespace Sample

def plainSettings : AuthSettings := ⟨5, 900, 300, 3600, 20⟩

/-- A runtime whose passwords are stored as they are. -/
def plainRuntime : AuthRuntime where
  normalizeEmail := id
  sqlLower := id
  argonVerify := fun stored password => stored = password
  dummyHash := "dummy"
  decrypt := .ok
  codeAt := fun _ _ => "123456"
  nfkc := id
  hashRecoveryCode := id

def anna : User := ⟨9, "anna@example.org", "secret", .active⟩

/-- An account, and nothing else. -/
def oneAccount : AuthState where
  now := morning
  counters := Redis.empty
  values := Redis.empty
  db :=
    { users := ⟨[anna], by decide⟩
      tokens := Table.empty
      totps := Table.empty
      codes := Table.empty }

end Sample

end BackendCore.Auth
