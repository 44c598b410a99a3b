import BackendCore.Auth.Service

/-!
# Reset tokens

Requests for a password reset, resets and changes of the password at the same
time.  A token is taken out of Redis by one `GET` and `DEL`, so it sets the
password once.  Nothing removes the other tokens of the user when a password is
set; they are refused only where there are none left, neither in Redis nor in a
request that has taken its token and has not committed yet.
-/

set_option autoImplicit false

namespace BackendCore.Auth

open BackendCore.Python BackendCore.Requests

variable {Tid : Type}

/-- The requests that issue reset tokens or set a password. -/
inductive PasswordCall where
  | request (call : AuthService.ResetRequestCall)
  | reset (call : AuthService.ResetCall)
  | change (call : AuthService.ChangePasswordCall)

def PasswordCall.call : PasswordCall → AuthCall
  | .request call => .requestPasswordReset call
  | .reset call => .resetPassword call
  | .change call => .changePassword call

/-- The token a request draws. -/
def PasswordCall.draws : PasswordCall → Option String
  | .request call => some call.tokenHash
  | _ => none

/-! ## What is asked of the log -/

/-- The password of the user has been set. -/
def Completes (userId : Uuid) : AuthEvent → Prop
  | .passwordChanged changed => changed = userId
  | .passwordReset reset _ => reset = userId
  | _ => False

/-- The token has been taken, or has set a password. -/
def Accepts (tokenHash : String) : AuthEvent → Prop
  | .resetConsumed _ taken => taken = tokenHash
  | .passwordReset _ taken => taken = tokenHash
  | _ => False

/-- The token was issued for the user before a password of the user was set. -/
def Covered (log : List (Tid × AuthEvent)) (userId : Uuid) (tokenHash : String) : Prop :=
  ∃ before entry after, log = before ++ entry :: after ∧ Completes userId entry.2 ∧
    ∃ tid, (tid, AuthEvent.resetIssued userId tokenHash) ∈ before

/-- No token is accepted after a password of its user was set. -/
def Invalidated (log : List (Tid × AuthEvent)) : Prop :=
  ∀ before entry after, log = before ++ entry :: after →
    ∀ userId tokenHash, Covered before userId tokenHash → ¬Accepts tokenHash entry.2

/-- A token sets a password once. -/
def SingleUse (log : List (Tid × AuthEvent)) : Prop :=
  log.Pairwise fun earlier later => ∀ userId other tokenHash,
    earlier.2 = .passwordReset userId tokenHash → later.2 ≠ .passwordReset other tokenHash

theorem covered_append {log : List (Tid × AuthEvent)} {last : Tid × AuthEvent} {userId : Uuid}
    {tokenHash : String} (covered : Covered (log ++ [last]) userId tokenHash) :
    Covered log userId tokenHash ∨ (Completes userId last.2 ∧
      ∃ tid, (tid, AuthEvent.resetIssued userId tokenHash) ∈ log) := by
  obtain ⟨before, entry, after, split, completes, issued⟩ := covered
  rcases split_append_one split with ⟨rfl, rfl⟩ | ⟨rest, same⟩
  · exact Or.inr ⟨completes, issued⟩
  · exact Or.inl ⟨before, entry, rest, same, completes, issued⟩

theorem Covered.issued {log : List (Tid × AuthEvent)} {userId : Uuid} {tokenHash : String}
    (covered : Covered log userId tokenHash) :
    ∃ tid, (tid, AuthEvent.resetIssued userId tokenHash) ∈ log := by
  obtain ⟨before, entry, after, rfl, _, tid, member⟩ := covered
  exact ⟨tid, List.mem_append_left _ member⟩

theorem Invalidated.append {log : List (Tid × AuthEvent)} {last : Tid × AuthEvent}
    (invalidated : Invalidated log)
    (fresh : ∀ userId tokenHash, Covered log userId tokenHash → ¬Accepts tokenHash last.2) :
    Invalidated (log ++ [last]) := by
  intro before entry after split
  rcases split_append_one split with ⟨rfl, rfl⟩ | ⟨rest, same⟩
  · exact fresh
  · exact invalidated before entry rest same

/-! ## Invariants -/

/-- Redis and the log agree about the tokens. -/
structure ResetsAt (calls : Tid → PasswordCall) (values : Redis ValueKey String)
    (log : List (Tid × AuthEvent)) : Prop where
  stored : ∀ tokenHash entry, values.entry (.reset tokenHash) = some entry →
    ∃ tid userId, (tid, AuthEvent.resetIssued userId tokenHash) ∈ log ∧
      entry.value = userId.toStr
  drawn : ∀ tid userId tokenHash, (tid, AuthEvent.resetIssued userId tokenHash) ∈ log →
    (calls tid).draws = some tokenHash
  owner : ∀ tid other userId otherId tokenHash,
    (tid, AuthEvent.resetIssued userId tokenHash) ∈ log →
    (other, AuthEvent.resetIssued otherId tokenHash) ∈ log → userId = otherId
  gone : ∀ tid userId tokenHash, (tid, AuthEvent.resetConsumed userId tokenHash) ∈ log →
    values.entry (.reset tokenHash) = none ∧
      ∃ other, (other, AuthEvent.resetIssued userId tokenHash) ∈ log
  single : ∀ tid other userId otherId tokenHash,
    (tid, AuthEvent.resetConsumed userId tokenHash) ∈ log →
    (other, AuthEvent.resetConsumed otherId tokenHash) ∈ log → tid = other
  taken : ∀ tid userId tokenHash, (tid, AuthEvent.passwordReset userId tokenHash) ∈ log →
    (tid, AuthEvent.resetConsumed userId tokenHash) ∈ log
  once : SingleUse log

/-- The tokens issued before a password was set are gone, and whoever has taken one has
set the password with it. -/
structure OthersGone (values : Redis ValueKey String) (now : Int)
    (log : List (Tid × AuthEvent)) : Prop where
  covered : ∀ userId tokenHash, Covered log userId tokenHash →
    values.find now (.reset tokenHash) = none ∧
      ∀ tid other, (tid, AuthEvent.resetConsumed other tokenHash) ∈ log →
        (tid, AuthEvent.passwordReset other tokenHash) ∈ log
  rejected : Invalidated log

/-- What the invalidation takes when a password of a user is set. -/
def Cleared (tid : Tid) (state : AuthState) (log : List (Tid × AuthEvent))
    (event : Option AuthEvent) : Prop :=
  ∀ completed userId, event = some completed → Completes userId completed →
    (∀ tokenHash, (state.values.get state.millis (.reset tokenHash)).bind Uuid.ofStr? ≠
      some userId) ∧
    ∀ other tokenHash, other ≠ tid → (other, AuthEvent.resetConsumed userId tokenHash) ∈ log →
      (other, AuthEvent.passwordReset userId tokenHash) ∈ log

variable {calls : Tid → PasswordCall} {values : Redis ValueKey String} {now : Int}
variable {log : List (Tid × AuthEvent)} {tid : Tid} {userId : Uuid} {tokenHash : String}

theorem SingleUse.append_other {event : AuthEvent} (once : SingleUse log)
    (other : ∀ userId tokenHash, event ≠ .passwordReset userId tokenHash) :
    SingleUse (log ++ [(tid, event)]) := by
  refine List.pairwise_append.mpr ⟨once, List.pairwise_singleton _ _, ?_⟩
  intro earlier _ later member userId otherId tokenHash _ same
  rw [List.mem_singleton.mp member] at same
  exact other _ _ same

theorem ResetsAt.issue (holds : ResetsAt calls values log)
    (draws : (calls tid).draws = some tokenHash)
    (unused : ∀ other, ∀ user, (other, AuthEvent.resetIssued user tokenHash) ∉ log)
    (seconds : Nat) :
    ResetsAt calls (values.setEx now (.reset tokenHash) userId.toStr seconds)
      (log ++ [(tid, .resetIssued userId tokenHash)]) where
  stored := by
    intro other entry found
    by_cases same : other = tokenHash
    · subst same
      rw [Redis.setEx, Redis.entry_put_self] at found
      have shape := Option.some.inj found
      refine ⟨tid, userId, List.mem_append_right _ (List.mem_singleton_self _), ?_⟩
      rw [← shape]
    · rw [Redis.setEx, Redis.entry_put_of_ne _ _ (by simpa using same)] at found
      obtain ⟨issuer, owner, member, value⟩ := holds.stored other entry found
      exact ⟨issuer, owner, List.mem_append_left _ member, value⟩
  drawn := by
    intro other owner token member
    rcases List.mem_append.mp member with old | new
    · exact holds.drawn other owner token old
    · cases List.mem_singleton.mp new
      exact draws
  owner := by
    intro first second user otherUser token left right
    rcases List.mem_append.mp left with oldLeft | newLeft
    · rcases List.mem_append.mp right with oldRight | newRight
      · exact holds.owner first second user otherUser token oldLeft oldRight
      · cases List.mem_singleton.mp newRight
        exact absurd oldLeft (unused first user)
    · cases List.mem_singleton.mp newLeft
      rcases List.mem_append.mp right with oldRight | newRight
      · exact absurd oldRight (unused second otherUser)
      · cases List.mem_singleton.mp newRight
        rfl
  gone := by
    intro other owner token member
    rcases List.mem_append.mp member with old | new
    · obtain ⟨absent, issuer, issued⟩ := holds.gone other owner token old
      refine ⟨?_, issuer, List.mem_append_left _ issued⟩
      have differs : token ≠ tokenHash := by
        rintro rfl
        exact unused issuer owner issued
      rw [Redis.setEx, Redis.entry_put_of_ne _ _ (by simpa using differs)]
      exact absent
    · cases List.mem_singleton.mp new
  single := by
    intro first second owner otherOwner token left right
    refine holds.single first second owner otherOwner token ?_ ?_
    · simpa using left
    · simpa using right
  taken := by
    intro other owner token member
    have old : (other, AuthEvent.passwordReset owner token) ∈ log := by simpa using member
    exact List.mem_append_left _ (holds.taken other owner token old)
  once := holds.once.append_other (by intro _ _ same; cases same)

theorem ResetsAt.delete (holds : ResetsAt calls values log) (tokenHash : String) :
    ResetsAt calls (values.del (.reset tokenHash)) log := by
  have shrinks : ∀ other, values.entry (.reset other) = none →
      (values.del (.reset tokenHash)).entry (.reset other) = none := by
    intro other absent
    by_cases same : other = tokenHash
    · rw [same]
      exact Redis.entry_del_self ..
    · rw [Redis.entry_del_of_ne _ (by simpa using same)]
      exact absent
  refine { holds with stored := ?_, gone := ?_ }
  · intro other entry found
    by_cases same : other = tokenHash
    · rw [same, Redis.entry_del_self] at found
      cases found
    · rw [Redis.entry_del_of_ne _ (by simpa using same)] at found
      exact holds.stored other entry found
  · intro tid userId other member
    obtain ⟨absent, issued⟩ := holds.gone tid userId other member
    exact ⟨shrinks other absent, issued⟩

theorem ResetsAt.consume (holds : ResetsAt calls values log)
    (found : (values.get now (.reset tokenHash)).bind Uuid.ofStr? = some userId) :
    ResetsAt calls (values.del (.reset tokenHash))
      (log ++ [(tid, .resetConsumed userId tokenHash)]) := by
  obtain ⟨raw, held, parsed⟩ := Option.bind_eq_some_iff.mp found
  obtain ⟨entry, alive, value⟩ := Option.map_eq_some_iff.mp held
  have stored := ((Redis.find_eq_some_iff values now _ entry).mp alive).1
  obtain ⟨issuer, owner, issued, text⟩ := holds.stored tokenHash entry stored
  have same : owner = userId := by
    rw [← value, text, Uuid.ofStr?_toStr] at parsed
    exact Option.some.inj parsed
  subst same
  have fresh : ∀ other user, (other, AuthEvent.resetConsumed user tokenHash) ∉ log := by
    intro other user member
    rw [(holds.gone other user tokenHash member).1] at stored
    cases stored
  have deleted := holds.delete tokenHash
  refine ⟨?_, ?_, ?_, ?_, ?_, ?_, holds.once.append_other (by intro _ _ same; cases same)⟩
  · intro other entry found
    obtain ⟨tid, user, member, value⟩ := deleted.stored other entry found
    exact ⟨tid, user, List.mem_append_left _ member, value⟩
  · intro other user token member
    exact holds.drawn other user token (by simpa using member)
  · intro first second user otherUser token left right
    exact holds.owner first second user otherUser token (by simpa using left) (by simpa using right)
  · intro other user token member
    rcases List.mem_append.mp member with old | new
    · obtain ⟨absent, issuer, issued⟩ := deleted.gone other user token old
      exact ⟨absent, issuer, List.mem_append_left _ issued⟩
    · cases List.mem_singleton.mp new
      exact ⟨Redis.entry_del_self .., issuer, List.mem_append_left _ issued⟩
  · intro first second user otherUser token left right
    rcases List.mem_append.mp left with oldLeft | newLeft
    · rcases List.mem_append.mp right with oldRight | newRight
      · exact holds.single first second user otherUser token oldLeft oldRight
      · cases List.mem_singleton.mp newRight
        exact absurd oldLeft (fresh first user)
    · cases List.mem_singleton.mp newLeft
      rcases List.mem_append.mp right with oldRight | newRight
      · exact absurd oldRight (fresh second otherUser)
      · cases List.mem_singleton.mp newRight
        rfl
  · intro other user token member
    have old : (other, AuthEvent.passwordReset user token) ∈ log := by simpa using member
    exact List.mem_append_left _ (holds.taken other user token old)

theorem ResetsAt.complete (holds : ResetsAt calls values log) {event : AuthEvent}
    (completes : Completes userId event)
    (own : ∀ user token, event = .passwordReset user token →
      (tid, AuthEvent.resetConsumed user token) ∈ log ∧
        ∀ other, (tid, AuthEvent.passwordReset other token) ∉ log) :
    ResetsAt calls values (log ++ [(tid, event)]) := by
  have notIssued : ∀ user token, event ≠ .resetIssued user token := by
    rintro user token rfl
    cases completes
  have notConsumed : ∀ user token, event ≠ .resetConsumed user token := by
    rintro user token rfl
    cases completes
  have old : ∀ {other : Tid} {e : AuthEvent}, (other, e) ∈ log ++ [(tid, event)] → e ≠ event →
      (other, e) ∈ log := by
    intro other e member differs
    rcases List.mem_append.mp member with inside | new
    · exact inside
    · cases List.mem_singleton.mp new
      exact absurd rfl differs
  refine ⟨?_, ?_, ?_, ?_, ?_, ?_, ?_⟩
  · intro token entry found
    obtain ⟨issuer, user, member, value⟩ := holds.stored token entry found
    exact ⟨issuer, user, List.mem_append_left _ member, value⟩
  · intro other user token member
    exact holds.drawn other user token (old member (notIssued user token).symm)
  · intro first second user otherUser token left right
    exact holds.owner first second user otherUser token (old left (notIssued user token).symm)
      (old right (notIssued otherUser token).symm)
  · intro other user token member
    obtain ⟨absent, issuer, issued⟩ :=
      holds.gone other user token (old member (notConsumed user token).symm)
    exact ⟨absent, issuer, List.mem_append_left _ issued⟩
  · intro first second user otherUser token left right
    exact holds.single first second user otherUser token (old left (notConsumed user token).symm)
      (old right (notConsumed otherUser token).symm)
  · intro other user token member
    rcases List.mem_append.mp member with inside | new
    · exact List.mem_append_left _ (holds.taken other user token inside)
    · have pair := List.mem_singleton.mp new
      rw [Prod.mk.injEq] at pair
      obtain ⟨rfl, rfl⟩ := pair
      exact List.mem_append_left _ (own user token rfl).1
  · refine List.pairwise_append.mpr ⟨holds.once, List.pairwise_singleton _ _, ?_⟩
    rintro ⟨other, earlier⟩ member later new user otherUser token rfl same
    rw [List.mem_singleton.mp new] at same
    -- whoever has set a password with the token has taken it, as this request has
    obtain ⟨took, unset⟩ := own otherUser token same
    have tookToo := holds.taken other user token member
    have sameTid := holds.single other tid user otherUser token tookToo took
    subst sameTid
    exact unset user member

theorem OthersGone.later {later : Int} (passes : now ≤ later)
    (gone : OthersGone values now log) : OthersGone values later log := by
  refine ⟨?_, gone.rejected⟩
  intro userId tokenHash covered
  obtain ⟨absent, set⟩ := gone.covered userId tokenHash covered
  refine ⟨?_, set⟩
  cases found : values.find later (.reset tokenHash) with
  | none => rfl
  | some entry =>
    rw [Redis.find_earlier passes found] at absent
    cases absent

theorem OthersGone.issue (gone : OthersGone values now log)
    (unused : ∀ other user, (other, AuthEvent.resetIssued user tokenHash) ∉ log)
    (seconds : Nat) :
    OthersGone (values.setEx now (.reset tokenHash) userId.toStr seconds) now
      (log ++ [(tid, .resetIssued userId tokenHash)]) := by
  have old : ∀ {user token}, Covered (log ++ [(tid, .resetIssued userId tokenHash)]) user token →
      Covered log user token := by
    intro user token covered
    rcases covered_append covered with old | ⟨completes, _⟩
    · exact old
    · cases completes
  refine ⟨?_, gone.rejected.append fun user token _ accepts => accepts⟩
  intro user token covered
  obtain ⟨absent, set⟩ := gone.covered user token (old covered)
  obtain ⟨issuer, issued⟩ := (old covered).issued
  have differs : token ≠ tokenHash := by
    rintro rfl
    exact unused issuer user issued
  refine ⟨?_, ?_⟩
  · rw [Redis.find_setEx_of_ne _ _ _ _ _ (by simpa using differs)]
    exact absent
  · intro other otherUser member
    have inside : (other, AuthEvent.resetConsumed otherUser token) ∈ log := by simpa using member
    exact List.mem_append_left _ (set other otherUser inside)

theorem OthersGone.delete (gone : OthersGone values now log) (tokenHash : String) :
    OthersGone (values.del (.reset tokenHash)) now log := by
  refine ⟨?_, gone.rejected⟩
  intro user token covered
  obtain ⟨absent, set⟩ := gone.covered user token covered
  refine ⟨?_, set⟩
  by_cases same : token = tokenHash
  · rw [same]
    exact Redis.find_del_self ..
  · rw [Redis.find_del_of_ne _ _ (by simpa using same)]
    exact absent

theorem OthersGone.consume (gone : OthersGone values now log)
    (found : (values.get now (.reset tokenHash)).bind Uuid.ofStr? = some userId) :
    OthersGone (values.del (.reset tokenHash)) now
      (log ++ [(tid, .resetConsumed userId tokenHash)]) := by
  obtain ⟨raw, held, _⟩ := Option.bind_eq_some_iff.mp found
  obtain ⟨entry, alive, _⟩ := Option.map_eq_some_iff.mp held
  have differs : ∀ {user token}, Covered log user token → token ≠ tokenHash := by
    rintro user token covered rfl
    rw [(gone.covered user token covered).1] at alive
    cases alive
  have deleted := gone.delete tokenHash
  refine ⟨?_, gone.rejected.append fun user token covered accepts => ?_⟩
  · intro user token covered
    rcases covered_append covered with old | ⟨completes, _⟩
    · obtain ⟨absent, set⟩ := deleted.covered user token old
      refine ⟨absent, ?_⟩
      intro other otherUser member
      have inside : (other, AuthEvent.resetConsumed otherUser token) ∈ log := by
        simpa [differs old] using member
      exact List.mem_append_left _ (set other otherUser inside)
    · cases completes
  · exact differs covered accepts.symm

theorem OthersGone.complete {event : AuthEvent} {state : AuthState}
    (holds : ResetsAt calls state.values log) (gone : OthersGone state.values state.millis log)
    (completes : Completes userId event) (cleared : Cleared tid state log (some event))
    (mine : ∀ user token, (tid, AuthEvent.resetConsumed user token) ∈ log →
      event = .passwordReset user token)
    (fresh : ∀ user token, event = .passwordReset user token →
      (tid, AuthEvent.resetConsumed user token) ∈ log ∧
        ∀ other, (tid, AuthEvent.passwordReset other token) ∉ log) :
    OthersGone state.values state.millis (log ++ [(tid, event)]) := by
  have notConsumed : ∀ user token, event ≠ .resetConsumed user token := by
    rintro user token rfl
    cases completes
  obtain ⟨none, others⟩ := cleared event userId rfl completes
  refine ⟨?_, gone.rejected.append fun user token covered accepts => ?_⟩
  · intro user token covered
    have old : ∀ other otherUser,
        (other, AuthEvent.resetConsumed otherUser token) ∈ log ++ [(tid, event)] →
        (other, AuthEvent.resetConsumed otherUser token) ∈ log := by
      intro other otherUser member
      rcases List.mem_append.mp member with inside | new
      · exact inside
      · exact absurd (congrArg Prod.snd (List.mem_singleton.mp new)).symm
          (notConsumed otherUser token)
    rcases covered_append covered with before | ⟨new, issuer, issued⟩
    · obtain ⟨absent, set⟩ := gone.covered user token before
      exact ⟨absent, fun other otherUser member =>
        List.mem_append_left _ (set other otherUser (old other otherUser member))⟩
    · -- the token was issued before this event
      have sameUser : user = userId := by
        cases event <;> simp only [Completes] at new completes
        · rw [← new, completes]
        · rw [← new, completes]
      subst sameUser
      refine ⟨?_, ?_⟩
      · cases found : state.values.find state.millis (.reset token) with
        | none => rfl
        | some entry =>
          obtain ⟨other, owner, member, value⟩ :=
            holds.stored token entry ((Redis.find_eq_some_iff _ _ _ _).mp found).1
          have same := holds.owner other issuer owner user token member issued
          refine absurd ?_ (none token)
          rw [Redis.get, found, Option.map_some, value, Option.bind_some, Uuid.ofStr?_toStr, same]
      · intro other otherUser member
        have inside := old other otherUser member
        by_cases self : other = tid
        · subst self
          exact List.mem_append_right _ (by
            rw [List.mem_singleton, mine otherUser token inside])
        · obtain ⟨_, giver, given⟩ := holds.gone other otherUser token inside
          have same := holds.owner giver issuer otherUser user token given issued
          subst same
          exact List.mem_append_left _ (others other token self inside)
  · cases event with
    | passwordReset owner taken =>
      have same : taken = token := accepts
      subst same
      obtain ⟨took, unset⟩ := fresh owner taken rfl
      exact unset owner ((gone.covered user taken covered).2 tid owner took)
    | passwordChanged owner => exact accepts
    | _ => cases completes

/-! ## The requests -/

/-- With `cleared`, the runs promise that no other token is left when a password is set. -/
def resetContract [DecidableEq Tid] (calls : Tid → PasswordCall) (cleared : Prop) :
    Contract Tid AuthState AuthEvent (Except Exc AuthAnswer) where
  invariant := fun state log => ResetsAt calls state.values log ∧
    (cleared → OthersGone state.values state.millis log)
  assumes := fun tid state log event => cleared → Cleared tid state log event
  ends := fun _ _ _ => True

section Requests

variable [DecidableEq Tid] {cleared : Prop} {runtime : AuthRuntime} {settings : AuthSettings}

theorem request_keeps (distinct : ∀ first second token, (calls first).draws = some token →
      (calls second).draws = some token → first = second)
    {call : AuthService.ResetRequestCall} (this : calls tid = .request call) :
    (resetContract calls cleared).Keeps tid
      (AuthService.requestPasswordReset runtime settings call) [] := by
  have draws : (calls tid).draws = some call.tokenHash := by
    rw [this]
    rfl
  unfold AuthService.requestPasswordReset
  refine Contract.keeps_read fun _ _ _ _ => ?_
  split
  · exact trivial
  · refine keeps_hit (fun _ _ invariant => invariant) fun allowed => ?_
    split
    · exact trivial
    · intro state log invariant mine _
      have unused : ∀ other user,
          (other, AuthEvent.resetIssued user call.tokenHash) ∉ log := by
        intro other user member
        have same := distinct other tid call.tokenHash
          (invariant.1.drawn other user call.tokenHash member) draws
        rw [same, ← mem_own, mine] at member
        cases member
      exact ⟨⟨invariant.1.issue draws unused _, fun promised =>
        (invariant.2 promised).issue unused _⟩, trivial⟩

theorem resetOf_keeps (call : AuthService.ResetCall) (userId : Uuid) :
    (resetContract calls cleared).Keeps tid (AuthService.resetOf call userId)
      [.resetConsumed userId call.tokenHash] := by
  unfold AuthService.resetOf
  refine Contract.keeps_read fun _ _ _ _ => ?_
  split
  · exact trivial
  · refine keeps_transaction (fun _ _ => trivial) (fun _ _ _ invariant => invariant) ?_
    intro state log invariant mine assumed
    have took : (tid, AuthEvent.resetConsumed userId call.tokenHash) ∈ log := by
      rw [← mem_own, mine]
      exact List.mem_singleton_self _
    have unset : ∀ other, (tid, AuthEvent.passwordReset other call.tokenHash) ∉ log := by
      intro other member
      rw [← mem_own, mine] at member
      simp at member
    have own : ∀ user token, AuthEvent.passwordReset userId call.tokenHash =
        .passwordReset user token → (tid, AuthEvent.resetConsumed user token) ∈ log ∧
          ∀ other, (tid, AuthEvent.passwordReset other token) ∉ log := by
      intro user token same
      cases same
      exact ⟨took, unset⟩
    refine ⟨invariant.1.complete rfl own, fun promised => ?_⟩
    refine OthersGone.complete invariant.1 (invariant.2 promised) rfl (assumed promised) ?_ own
    intro user token member
    rw [← mem_own, mine, List.mem_singleton] at member
    cases member
    rfl

theorem resetPassword_keeps (call : AuthService.ResetCall) :
    (resetContract calls cleared).Keeps tid (AuthService.resetPassword call) [] := by
  intro state log invariant mine assumed
  cases found : (state.values.get state.millis (.reset call.tokenHash)).bind Uuid.ofStr? with
  | none =>
    refine ⟨?_, ?_⟩
    · simp only [found, Option.map_none, entries_none, List.append_nil]
      exact ⟨invariant.1.delete _, fun promised => (invariant.2 promised).delete _⟩
    · dsimp only
      split
      · exact trivial
      · rename_i raw held
        rw [held, Option.bind_some] at found
        rw [found]
        exact trivial
  | some userId =>
    refine ⟨?_, ?_⟩
    · simp only [found, Option.map_some, entries_some]
      exact ⟨invariant.1.consume found, fun promised => (invariant.2 promised).consume found⟩
    · obtain ⟨raw, held, parsed⟩ := Option.bind_eq_some_iff.mp found
      simp only [held, parsed, Option.bind_some, Option.map_some, Option.toList_some,
        List.nil_append]
      exact resetOf_keeps call userId

theorem changePassword_keeps (call : AuthService.ChangePasswordCall) :
    (resetContract calls cleared).Keeps tid (AuthService.changePassword runtime call) [] := by
  unfold AuthService.changePassword
  cases call.actor with
  | none => exact trivial
  | some userId =>
    dsimp only [AuthService.withActor]
    refine Contract.keeps_read fun _ _ _ _ => ?_
    split
    · exact trivial
    · split
      · refine keeps_transaction (fun _ _ => trivial) (fun _ _ _ invariant => invariant) ?_
        intro state log invariant mine assumed
        have own : ∀ user token, AuthEvent.passwordChanged userId =
            .passwordReset user token → (tid, AuthEvent.resetConsumed user token) ∈ log ∧
              ∀ other, (tid, AuthEvent.passwordReset other token) ∉ log := by
          intro user token same
          cases same
        refine ⟨invariant.1.complete rfl own, fun promised => ?_⟩
        refine OthersGone.complete invariant.1 (invariant.2 promised) rfl (assumed promised) ?_ own
        intro user token member
        rw [← mem_own, mine] at member
        cases member
      · exact trivial

end Requests

/-- The requests from a state without reset tokens. -/
def passwordStart (runtime : AuthRuntime) (settings : AuthSettings) (state : AuthState)
    (calls : Tid → PasswordCall) : World Tid AuthState AuthEvent (Except Exc AuthAnswer) :=
  World.start state fun tid => (calls tid).call.proc runtime settings

/-- When a request sets a password, Redis holds no other token of the user, and whoever
else has taken one has set the password with it. -/
def SetsLast [DecidableEq Tid] (world : World Tid AuthState AuthEvent (Except Exc AuthAnswer))
    (tid : Tid) : Prop :=
  Cleared tid world.shared world.log (world.event tid)

theorem resets_of_run [DecidableEq Tid] {runtime : AuthRuntime} {settings : AuthSettings}
    {state : AuthState} (cleared : Prop)
    {allows : World Tid AuthState AuthEvent (Except Exc AuthAnswer) → Tid → Prop}
    (promised : ∀ world tid, allows world tid → cleared → SetsLast world tid)
    (empty : ∀ tokenHash, state.values.entry (.reset tokenHash) = none)
    (distinct : ∀ first second token, (calls first).draws = some token →
      (calls second).draws = some token → first = second)
    {world : World Tid AuthState AuthEvent (Except Exc AuthAnswer)}
    (run : Run Passes allows (passwordStart runtime settings state calls) world) :
    ResetsAt calls world.shared.values world.log ∧
      (cleared → OthersGone world.shared.values world.shared.millis world.log) := by
  refine (run.keeps (resetContract calls cleared) ?_ ?_ ?_ ?_).1
  · refine ⟨⟨?_, ?_, ?_, ?_, ?_, ?_, List.Pairwise.nil⟩, fun _ => ⟨?_, ?_⟩⟩
    · intro tokenHash entry found
      cases found.symm.trans (empty tokenHash)
    · intro tid userId tokenHash member
      cases member
    · intro tid other userId otherId tokenHash member
      cases member
    · intro tid userId tokenHash member
      cases member
    · intro tid other userId otherId tokenHash member
      cases member
    · intro tid userId tokenHash member
      cases member
    · rintro userId tokenHash ⟨before, entry, after, split, _⟩
      cases before <;> cases split
    · intro before entry after split
      cases before <;> cases split
  · intro tid
    change (resetContract calls cleared).Keeps tid ((calls tid).call.proc runtime settings) []
    cases this : calls tid with
    | request call => exact request_keeps distinct this
    | reset call => exact resetPassword_keeps call
    | change call => exact changePassword_keeps call
  · intro now later log passes invariant
    obtain ⟨time, same⟩ := passes
    have millis : now.millis ≤ later.millis := Int.ediv_le_ediv (by decide) time
    rw [same]
    exact ⟨invariant.1, fun promise => OthersGone.later millis (invariant.2 promise)⟩
  · intro world tid allowed _ _ promise
    exact promised world tid allowed promise

/-- In every run each token sets a password once; and where every request that sets a
password is the last one with a token of its user, no token issued before is accepted
afterwards. -/
theorem reset_tokens_single_use_and_invalidated [DecidableEq Tid] (runtime : AuthRuntime)
    (settings : AuthSettings) (state : AuthState) (calls : Tid → PasswordCall)
    (empty : ∀ tokenHash, state.values.entry (.reset tokenHash) = none)
    (distinct : ∀ first second token, (calls first).draws = some token →
      (calls second).draws = some token → first = second) :
    (∀ world, Run Passes (fun _ _ => True) (passwordStart runtime settings state calls) world →
        SingleUse world.log) ∧
      ∀ world, Run Passes SetsLast (passwordStart runtime settings state calls) world →
        SingleUse world.log ∧ Invalidated world.log := by
  constructor
  · intro world run
    have holds := resets_of_run False (fun _ _ _ never => never.elim) empty distinct run
    exact holds.1.once
  · intro world run
    have holds := resets_of_run True (fun _ _ allowed _ => allowed) empty distinct run
    exact ⟨holds.1.once, (holds.2 trivial).rejected⟩

namespace Sample

/-- Two tokens requested, and both presented. -/
def resetCalls : Fin 4 → PasswordCall :=
  ![.request ⟨"anna@example.org", "first"⟩, .request ⟨"anna@example.org", "second"⟩,
    .reset ⟨"first", "new"⟩, .reset ⟨"second", "newer"⟩]

abbrev ResetWorld := World (Fin 4) AuthState AuthEvent (Except Exc AuthAnswer)

def resetStart : ResetWorld := passwordStart plainRuntime plainSettings oneAccount resetCalls

/-- Each request runs to its end before the next one starts. -/
def inTurn (order : List (Fin 4)) : List (Move (Fin 4) AuthState) :=
  order.flatMap fun tid => List.replicate 3 (.act tid)

def bothUsed : ResetWorld := resetStart.follow (inTurn [0, 1, 2, 3])

theorem bothUsed_log : bothUsed.log =
    [(0, .resetIssued 9 "first"), (1, .resetIssued 9 "second"), (2, .resetConsumed 9 "first"),
      (2, .passwordReset 9 "first"), (3, .resetConsumed 9 "second"),
      (3, .passwordReset 9 "second")] := by
  decide +kernel

theorem sound_acts {allows : ResetWorld → Fin 4 → Prop} (all : ∀ world tid, allows world tid)
    (order : List (Fin 4)) (world : ResetWorld) : Sound Passes allows world (inTurn order) := by
  induction order generalizing world with
  | nil => exact trivial
  | cons tid rest hypothesis => exact ⟨all _ _, all _ _, all _ _, hypothesis _⟩

/-- The second token still sets the password after the first one has. -/
theorem second_token_survives :
    Run Passes (fun _ _ => True) resetStart bothUsed ∧
      (3, AuthEvent.passwordReset 9 "second") ∈ bothUsed.log ∧ ¬Invalidated bothUsed.log := by
  refine ⟨Run.start.follow _ (sound_acts (fun _ _ => trivial) _ _), ?_, ?_⟩
  · rw [bothUsed_log]
    decide
  · intro invalidated
    rw [bothUsed_log] at invalidated
    refine invalidated [(0, .resetIssued 9 "first"), (1, .resetIssued 9 "second"),
      (2, .resetConsumed 9 "first"), (2, .passwordReset 9 "first")] (3, .resetConsumed 9 "second")
      [(3, .passwordReset 9 "second")] rfl 9 "second" ?_ rfl
    exact ⟨[(0, .resetIssued 9 "first"), (1, .resetIssued 9 "second"),
      (2, .resetConsumed 9 "first")], (2, .passwordReset 9 "first"), [], rfl, rfl, 1, by decide⟩

theorem setsLast_of_event {world : ResetWorld} {tid : Fin 4} (event : Option AuthEvent)
    (left : world.event tid = event)
    (quiet : ∀ userId completed, event = some completed → ¬Completes userId completed) :
    SetsLast world tid := by
  intro completed userId emitted completes
  rw [left] at emitted
  exact (quiet userId completed emitted completes).elim

/-- The first request, and its token presented. -/
def firstUsed : ResetWorld := resetStart.follow (inTurn [0, 2])

def beforeReset : ResetWorld := resetStart.follow ((inTurn [0, 2]).take 5)

theorem beforeReset_setsLast : SetsLast beforeReset 2 := by
  have emitted : beforeReset.event 2 = some (.passwordReset 9 "first") := by decide +kernel
  have log : beforeReset.log = [(0, .resetIssued 9 "first"), (2, .resetConsumed 9 "first")] := by
    decide +kernel
  have values : ∀ tokenHash, beforeReset.shared.values.entry (.reset tokenHash) = none := by
    intro tokenHash
    change ((Redis.empty.setEx _ (ValueKey.reset "first") _ _).del (ValueKey.reset "first")).entry
      (ValueKey.reset tokenHash) = none
    by_cases same : tokenHash = "first"
    · rw [same]
      exact Redis.entry_del_self ..
    · rw [Redis.entry_del_of_ne _ (by simpa using same), Redis.setEx,
        Redis.entry_put_of_ne _ _ (by simpa using same)]
      rfl
  intro completed userId event completes
  rw [emitted] at event
  cases event
  refine ⟨?_, ?_⟩
  · intro tokenHash held
    rw [Redis.get, Redis.find, values] at held
    cases held
  · intro other tokenHash differs member
    rw [log] at member
    simp only [List.mem_cons, Prod.mk.injEq, List.not_mem_nil, or_false, reduceCtorEq, and_false,
      false_or] at member
    exact absurd member.1 differs

theorem firstUsed_run : Run Passes SetsLast resetStart firstUsed := by
  have quiet : ∀ (world : ResetWorld) tid, world.event tid = none → SetsLast world tid := by
    intro world tid none
    refine setsLast_of_event _ none ?_
    intro userId completed some
    cases some
  refine Run.start.follow _ ⟨?_, ?_, ?_, ?_, ?_, beforeReset_setsLast, trivial⟩
  · exact quiet _ _ (by decide +kernel)
  · exact quiet _ _ (by decide +kernel)
  · refine setsLast_of_event (some (.resetIssued 9 "first")) (by decide +kernel) ?_
    intro userId completed some
    cases some
    exact id
  · refine setsLast_of_event (some (.resetConsumed 9 "first")) (by decide +kernel) ?_
    intro userId completed some
    cases some
    exact id
  · exact quiet _ _ (by decide +kernel)

theorem resetCalls_distinct : ∀ first second token, (resetCalls first).draws = some token →
    (resetCalls second).draws = some token → first = second := by
  intro first second token left right
  have same := left.trans right.symm
  revert same left
  fin_cases first <;> fin_cases second <;> simp [resetCalls, PasswordCall.draws]

/-- A token that is used while there is no other one. -/
theorem lone_token_used :
    Run Passes SetsLast resetStart firstUsed ∧
      (2, AuthEvent.passwordReset 9 "first") ∈ firstUsed.log ∧
      SingleUse firstUsed.log ∧ Invalidated firstUsed.log :=
  ⟨firstUsed_run, by decide +kernel,
    (reset_tokens_single_use_and_invalidated plainRuntime plainSettings oneAccount resetCalls
      (fun _ => rfl) resetCalls_distinct).2 firstUsed firstUsed_run⟩

end Sample

end BackendCore.Auth
