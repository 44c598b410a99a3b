import BackendCore.Auth.Service

/-!
# Checks of the second factor

How often a second factor is checked for a user while a window of the limiter
lives.  Only `complete_two_factor` asks the limiter, once for each call; the
numbers it gets in one window are distinct, and a check follows a number of five
at most.  A check that is made without asking, or after the window of its number
has ended, is not covered by this.
-/

set_option autoImplicit false

namespace BackendCore.Auth

open BackendCore.Python BackendCore.Requests

variable {Tid : Type}

/-- The requests that check a second factor. -/
inductive FactorCall where
  | complete (call : AuthService.TwoFactorCall)
  | confirm (call : AuthService.ConfirmCall)
  | disable (call : AuthService.DisableCall)

def FactorCall.call : FactorCall → AuthCall
  | .complete call => .completeTwoFactor call
  | .confirm call => .confirmTotp call
  | .disable call => .disableTotp call

/-- A check for the user, not before the time. -/
def checkSince (userId : Uuid) (first : Int) : AuthEvent → Bool
  | .checked _ checked _ _ millis => checked = userId && decide (first ≤ millis)
  | _ => false

/-- The key of the limiter of second factors. -/
def factorKey (userId : Uuid) : CounterKey := .rate .twoFactor userId.toStr

theorem factorKey_injective {left right : Uuid} (same : factorKey left = factorKey right) :
    left = right := by
  unfold factorKey at same
  injection same with _ texts
  exact Uuid.toStr_injective left right texts

/-- In the window that lives now, the user has been checked five times at most. -/
def AtMostFive (state : AuthState) (log : List (Tid × AuthEvent)) (userId : Uuid) : Prop :=
  ∀ entry last, state.counters.find state.millis (factorKey userId) = some entry →
    entry.expiresAt = some last →
    (log.filter fun logged => checkSince userId (last - 300000) logged.2).length ≤ 5

/-! ## Windows -/

/-- The window is the one that lives, and the number has been given in it. -/
def LiveNumber (counters : Redis CounterKey Nat) (now : Int) (userId : Uuid) (last : Int)
    (count : Nat) : Prop :=
  ∃ entry, counters.find now (factorKey userId) = some entry ∧ entry.expiresAt = some last ∧
    count ≤ entry.value

/-- The window has ended, before the one that lives was opened. -/
def EndedWindow (counters : Redis CounterKey Nat) (now : Int) (userId : Uuid) (last : Int) : Prop :=
  last < now ∧ ∀ entry current, counters.find now (factorKey userId) = some entry →
    entry.expiresAt = some current → last < current - 300000

structure ChecksAt (counters : Redis CounterKey Nat) (now : Int)
    (log : List (Tid × AuthEvent)) : Prop where
  /-- A window has an end, and was opened in the past. -/
  windows : ∀ userId entry, counters.find now (factorKey userId) = some entry →
    ∃ last, entry.expiresAt = some last ∧ last - 300000 ≤ now
  numbers : ∀ tid userId last count, (tid, AuthEvent.limited userId last count) ∈ log →
    1 ≤ count ∧ last - 300000 ≤ now ∧
      (LiveNumber counters now userId last count ∨ EndedWindow counters now userId last)
  distinct : ∀ tid other userId last count, (tid, AuthEvent.limited userId last count) ∈ log →
    (other, AuthEvent.limited userId last count) ∈ log → tid = other
  checked : ∀ tid entry userId secret code millis,
    (tid, AuthEvent.checked entry userId secret code millis) ∈ log →
    ∃ last count, (tid, AuthEvent.limited userId last count) ∈ log ∧ count ≤ 5 ∧
      last - 300000 ≤ millis ∧ millis ≤ last
  once : ∀ userId first,
    (log.filter fun logged => checkSince userId first logged.2).Pairwise fun left right =>
      left.1 ≠ right.1

variable {counters : Redis CounterKey Nat} {now : Int} {log : List (Tid × AuthEvent)}
variable {tid : Tid} {userId : Uuid}

theorem ChecksAt.atMostFive [DecidableEq Tid] {state : AuthState}
    (holds : ChecksAt state.counters state.millis log) (userId : Uuid) :
    AtMostFive state log userId := by
  intro entry last found expires
  have number : ∀ tid ∈ (log.filter fun logged =>
      checkSince userId (last - 300000) logged.2).map Prod.fst,
      ∃ count, (tid, AuthEvent.limited userId last count) ∈ log ∧ 1 ≤ count ∧ count ≤ 5 := by
    intro tid member
    obtain ⟨⟨owner, event⟩, inside, rfl⟩ := List.mem_map.mp member
    obtain ⟨logged, since⟩ := List.mem_filter.mp inside
    cases event with
    | checked entryPoint checkedUser secret code millis =>
      simp only [checkSince, Bool.and_eq_true, decide_eq_true_eq] at since
      obtain ⟨rfl, late⟩ := since
      obtain ⟨window, count, limited, small, _, early⟩ :=
        holds.checked owner entryPoint checkedUser secret code millis logged
      obtain ⟨positive, _, live | ended⟩ := holds.numbers owner checkedUser window count limited
      · obtain ⟨same, sameFound, sameExpires, _⟩ := live
        rw [found] at sameFound
        cases sameFound
        rw [expires] at sameExpires
        cases sameExpires
        exact ⟨count, limited, positive, small⟩
      · have before := ended.2 entry last found expires
        omega
    | _ => cases since
  have apart : ((log.filter fun logged =>
      checkSince userId (last - 300000) logged.2).map Prod.fst).Nodup :=
    List.pairwise_map.mpr (holds.once userId (last - 300000))
  classical
  have counted : (((log.filter fun logged =>
      checkSince userId (last - 300000) logged.2).map Prod.fst).toFinset).card ≤
      (Finset.Icc 1 5).card := by
    refine Finset.card_le_card_of_injOn
      (fun tid => if given : ∃ count, (tid, AuthEvent.limited userId last count) ∈ log ∧
        1 ≤ count ∧ count ≤ 5 then given.choose else 0) ?_ ?_
    · intro tid member
      have given := number tid (List.mem_toFinset.mp member)
      simp only [dif_pos given, Finset.coe_Icc, Set.mem_Icc]
      exact given.choose_spec.2
    · intro left leftMember right rightMember same
      have leftGiven := number left (List.mem_toFinset.mp leftMember)
      have rightGiven := number right (List.mem_toFinset.mp rightMember)
      simp only [dif_pos leftGiven, dif_pos rightGiven] at same
      have leftNumber := leftGiven.choose_spec.1
      rw [same] at leftNumber
      exact holds.distinct left right userId last _ leftNumber rightGiven.choose_spec.1
  rw [List.toFinset_card_of_nodup apart, List.length_map] at counted
  exact counted

/-! ## Steps -/

theorem ChecksAt.later {later : Int} (passes : now ≤ later) (holds : ChecksAt counters now log) :
    ChecksAt counters later log where
  windows := by
    intro userId entry found
    obtain ⟨last, expires, opened⟩ := holds.windows userId entry (Redis.find_earlier passes found)
    exact ⟨last, expires, by omega⟩
  numbers := by
    intro tid userId last count member
    obtain ⟨positive, opened, live | ended⟩ := holds.numbers tid userId last count member
    · obtain ⟨entry, found, expires, given⟩ := live
      refine ⟨positive, by omega, ?_⟩
      by_cases inside : later ≤ last
      · exact Or.inl ⟨entry, Redis.find_later found expires inside, expires, given⟩
      · refine Or.inr ⟨by omega, ?_⟩
        intro other current otherFound otherExpires
        have same := (Redis.find_earlier passes otherFound).symm.trans found
        cases same
        rw [expires] at otherExpires
        cases otherExpires
        have lives := ((Redis.find_eq_some_iff counters later _ entry).mp otherFound).2
        rw [Redis.Entry.lives, expires, decide_eq_true_eq] at lives
        omega
    · refine ⟨positive, by omega, Or.inr ⟨by have := ended.1; omega, ?_⟩⟩
      intro entry current found expires
      exact ended.2 entry current (Redis.find_earlier passes found) expires
  distinct := holds.distinct
  checked := holds.checked
  once := holds.once

theorem counted_window (windows : ∀ entry, counters.find now (factorKey userId) = some entry →
      ∃ last, entry.expiresAt = some last ∧ last - 300000 ≤ now) :
    ∃ last count, ((counters.incr now (factorKey userId)).expireNx now (factorKey userId) 300).find
        now (factorKey userId) = some ⟨count, some last⟩ ∧
      1 ≤ count ∧ now ≤ last ∧ last - 300000 ≤ now ∧
      (∀ entry, counters.find now (factorKey userId) = some entry →
        entry.expiresAt = some last ∧ entry.value < count) ∧
      (counters.find now (factorKey userId) = none → last - 300000 = now) := by
  rw [Redis.find_count_self]
  cases found : counters.find now (factorKey userId) with
  | none =>
    refine ⟨Redis.expiry now 300, 1, rfl, le_rfl, ?_, ?_, ?_, ?_⟩
    · unfold Redis.expiry
      omega
    · unfold Redis.expiry
      omega
    · intro entry impossible
      cases impossible
    · intro _
      unfold Redis.expiry
      omega
  | some entry =>
    obtain ⟨last, expires, opened⟩ := windows entry found
    have lives := ((Redis.find_eq_some_iff counters now _ entry).mp found).2
    rw [Redis.Entry.lives, expires, decide_eq_true_eq] at lives
    refine ⟨last, entry.value + 1, ?_, by omega, lives, opened, ?_, ?_⟩
    · dsimp only
      rw [expires]
      rfl
    · intro other same
      cases same
      exact ⟨expires, Nat.lt_succ_self _⟩
    · intro impossible
      cases impossible

theorem ChecksAt.note {event : AuthEvent} (holds : ChecksAt counters now log)
    (number : ∀ userId last count, event ≠ .limited userId last count)
    (check : ∀ entry userId secret code millis, event ≠ .checked entry userId secret code millis) :
    ChecksAt counters now (log ++ [(tid, event)]) := by
  have limited : ∀ owner userId last count,
      (owner, AuthEvent.limited userId last count) ∈ log ++ [(tid, event)] →
      (owner, AuthEvent.limited userId last count) ∈ log := by
    intro owner userId last count member
    rcases List.mem_append.mp member with inside | final
    · exact inside
    · cases List.mem_singleton.mp final
      exact (number userId last count rfl).elim
  refine ⟨holds.windows, ?_, ?_, ?_, ?_⟩
  · intro owner userId last count member
    exact holds.numbers owner userId last count (limited _ _ _ _ member)
  · intro owner other userId last count member otherMember
    exact holds.distinct owner other userId last count (limited _ _ _ _ member)
      (limited _ _ _ _ otherMember)
  · intro owner entry userId secret code millis member
    rcases List.mem_append.mp member with inside | final
    · obtain ⟨last, count, given, rest⟩ :=
        holds.checked owner entry userId secret code millis inside
      exact ⟨last, count, List.mem_append_left _ given, rest⟩
    · cases List.mem_singleton.mp final
      exact (check entry userId secret code millis rfl).elim
  · intro userId first
    have quiet : checkSince userId first event = false := by
      cases event with
      | checked entry checked secret code millis => exact (check _ _ _ _ _ rfl).elim
      | _ => rfl
    rw [List.filter_append, List.filter_cons_of_neg (by rw [quiet]; exact Bool.false_ne_true),
      List.filter_nil, List.append_nil]
    exact holds.once userId first

theorem ChecksAt.limit (holds : ChecksAt counters now log) (tid : Tid) (userId : Uuid) :
    ∃ last count, ((counters.incr now (factorKey userId)).expireNx now (factorKey userId) 300).find
        now (factorKey userId) = some ⟨count, some last⟩ ∧
      ChecksAt ((counters.incr now (factorKey userId)).expireNx now (factorKey userId) 300) now
        (log ++ [(tid, .limited userId last count)]) := by
  obtain ⟨last, count, found, positive, inside, opened, before, first⟩ :=
    counted_window (holds.windows userId)
  have others : ∀ other, other ≠ userId → ∀ moment,
      ((counters.incr now (factorKey userId)).expireNx now (factorKey userId) 300).find moment
        (factorKey other) = counters.find moment (factorKey other) := by
    intro other differs moment
    refine Redis.find_count_of_ne counters now moment 300 ?_
    intro same
    exact differs (factorKey_injective same)
  -- a number given before is not the new one, and stays live or ended
  have earlier : ∀ owner given lastGiven countGiven,
      (owner, AuthEvent.limited given lastGiven countGiven) ∈ log →
      (LiveNumber ((counters.incr now (factorKey userId)).expireNx now (factorKey userId) 300) now
          given lastGiven countGiven ∨
        EndedWindow ((counters.incr now (factorKey userId)).expireNx now (factorKey userId) 300)
          now given lastGiven) ∧
        ¬(given = userId ∧ lastGiven = last ∧ countGiven = count) := by
    intro owner given lastGiven countGiven member
    obtain ⟨_, _, state⟩ := holds.numbers owner given lastGiven countGiven member
    by_cases same : given = userId
    · subst same
      rcases state with ⟨entry, foundBefore, expires, bounded⟩ | ended
      · obtain ⟨sameLast, smaller⟩ := before entry foundBefore
        rw [expires] at sameLast
        cases sameLast
        refine ⟨Or.inl ⟨_, found, rfl, by dsimp only; omega⟩, ?_⟩
        rintro ⟨_, _, rfl⟩
        omega
      · have beforeOpening : lastGiven < last - 300000 := by
          cases foundBefore : counters.find now (factorKey given) with
          | none =>
            rw [first foundBefore]
            exact ended.1
          | some entry => exact ended.2 entry last foundBefore (before entry foundBefore).1
        refine ⟨Or.inr ⟨ended.1, ?_⟩, ?_⟩
        · intro entry current foundNow expires
          rw [found] at foundNow
          cases foundNow
          cases expires
          exact beforeOpening
        · rintro ⟨_, rfl, _⟩
          omega
    · refine ⟨?_, fun all => same all.1⟩
      unfold LiveNumber EndedWindow at state ⊢
      rw [others given same]
      exact state
  refine ⟨last, count, found, ?_, ?_, ?_, ?_, ?_⟩
  · intro other entry foundNow
    by_cases same : other = userId
    · subst same
      rw [found] at foundNow
      cases foundNow
      exact ⟨last, rfl, opened⟩
    · rw [others other same] at foundNow
      exact holds.windows other entry foundNow
  · intro owner given lastGiven countGiven member
    rcases List.mem_append.mp member with old | final
    · obtain ⟨positiveGiven, openedGiven, _⟩ := holds.numbers owner given lastGiven countGiven old
      exact ⟨positiveGiven, openedGiven, (earlier owner given lastGiven countGiven old).1⟩
    · cases List.mem_singleton.mp final
      exact ⟨positive, opened, Or.inl ⟨_, found, rfl, le_rfl⟩⟩
  · intro owner other given lastGiven countGiven member otherMember
    rcases List.mem_append.mp member with old | final
    · rcases List.mem_append.mp otherMember with otherOld | otherFinal
      · exact holds.distinct owner other given lastGiven countGiven old otherOld
      · cases List.mem_singleton.mp otherFinal
        exact ((earlier owner _ _ _ old).2 ⟨rfl, rfl, rfl⟩).elim
    · cases List.mem_singleton.mp final
      rcases List.mem_append.mp otherMember with otherOld | otherFinal
      · exact ((earlier other _ _ _ otherOld).2 ⟨rfl, rfl, rfl⟩).elim
      · cases List.mem_singleton.mp otherFinal
        rfl
  · intro owner entry checked secret code millis member
    rcases List.mem_append.mp member with old | final
    · obtain ⟨window, number, given, rest⟩ :=
        holds.checked owner entry checked secret code millis old
      exact ⟨window, number, List.mem_append_left _ given, rest⟩
    · cases List.mem_singleton.mp final
  · intro given since
    rw [List.filter_append, List.filter_cons_of_neg (by exact Bool.false_ne_true),
      List.filter_nil, List.append_nil]
    exact holds.once given since

theorem ChecksAt.check [DecidableEq Tid] {entry : EntryPoint} {secret code : String} {last : Int}
    {count : Nat} (holds : ChecksAt counters now log)
    (given : (tid, AuthEvent.limited userId last count) ∈ log) (small : count ≤ 5)
    (inside : now ≤ last)
    (first : ∀ entry userId secret code millis,
      (tid, AuthEvent.checked entry userId secret code millis) ∉ log) :
    ChecksAt counters now (log ++ [(tid, .checked entry userId secret code now)]) := by
  refine ⟨holds.windows, ?_, ?_, ?_, ?_⟩
  · intro owner other otherLast otherCount member
    rcases List.mem_append.mp member with logged | final
    · exact holds.numbers owner other otherLast otherCount logged
    · cases List.mem_singleton.mp final
  · intro owner other user otherLast otherCount member otherMember
    rcases List.mem_append.mp member with logged | final
    · rcases List.mem_append.mp otherMember with otherLogged | otherFinal
      · exact holds.distinct owner other user otherLast otherCount logged otherLogged
      · cases List.mem_singleton.mp otherFinal
    · cases List.mem_singleton.mp final
  · intro owner point user otherSecret otherCode millis member
    rcases List.mem_append.mp member with logged | final
    · obtain ⟨window, number, numbered, rest⟩ :=
        holds.checked owner point user otherSecret otherCode millis logged
      exact ⟨window, number, List.mem_append_left _ numbered, rest⟩
    · cases List.mem_singleton.mp final
      have opened := (holds.numbers tid userId last count given).2.1
      exact ⟨last, count, List.mem_append_left _ given, small, opened, inside⟩
  · intro user since
    rw [List.filter_append]
    refine List.pairwise_append.mpr ⟨holds.once user since, ?_, ?_⟩
    · exact List.Pairwise.sublist List.filter_sublist (List.pairwise_singleton _ _)
    · rintro ⟨owner, event⟩ member final finalMember same
      have finalIs := List.mem_singleton.mp (List.mem_of_mem_filter finalMember)
      rw [finalIs] at same
      obtain ⟨logged, since⟩ := List.mem_filter.mp member
      cases event with
      | checked point checked otherSecret otherCode millis =>
        cases same
        exact first point checked otherSecret otherCode millis logged
      | _ => cases since

/-! ## Requests -/

/-- A check is made by a call the limiter has counted, before its window has ended. -/
def CountedInTime (tid : Tid) (log : List (Tid × AuthEvent)) (event : Option AuthEvent) : Prop :=
  ∀ entry userId secret code millis, event = some (.checked entry userId secret code millis) →
    ∃ last count, (tid, AuthEvent.limited userId last count) ∈ log ∧ millis ≤ last

def factorContract [DecidableEq Tid] :
    Contract Tid AuthState AuthEvent (Except Exc AuthAnswer) where
  invariant state log := ChecksAt state.counters state.millis log
  assumes tid _ log event := CountedInTime tid log event
  ends _ _ _ := True

variable [DecidableEq Tid] {runtime : AuthRuntime} {mine : List AuthEvent}

theorem verifyTotpOrRecovery_checks (entry : EntryPoint) (userId : Uuid) (code : String)
    {refused : AuthProc} {verified : (Accounts → Accounts) → AuthProc}
    (numbers : ∀ userId last count, AuthEvent.limited userId last count ∈ mine → count ≤ 5)
    (first : ∀ entry userId secret code millis,
      AuthEvent.checked entry userId secret code millis ∉ mine)
    (no : ∀ after, factorContract.Keeps tid refused (mine ++ after))
    (yes : ∀ written after, factorContract.Keeps tid (verified written) (mine ++ after)) :
    factorContract.Keeps tid
      (AuthService.verifyTotpOrRecovery runtime entry userId code refused verified) mine := by
  refine keeps_verify (fun _ => trivial) no yes ?_ ?_
  · intro secret state log holds left counted
    obtain ⟨last, count, given, inside⟩ := counted entry userId secret code _ rfl
    refine ChecksAt.check holds given ?_ inside ?_
    · have own := (mem_own tid log _).mpr given
      rw [left] at own
      exact numbers userId last count own
    · intro point user otherSecret otherCode millis member
      have own := (mem_own tid log _).mpr member
      rw [left] at own
      exact first point user otherSecret otherCode millis own
  · intro secret checked state log holds _ _ _ _
    exact ChecksAt.note holds (fun _ _ _ => by simp) (fun _ _ _ _ _ => by simp)

theorem twoFactorOf_checks (call : AuthService.TwoFactorCall) (userId : Uuid) :
    factorContract.Keeps tid (AuthService.twoFactorOf runtime call userId) [] := by
  intro state log holds _ _
  obtain ⟨last, count, found, kept⟩ := ChecksAt.limit holds tid userId
  have counter : (state.incrWithTtl (.rate .twoFactor userId.toStr) 300).counter
      (.rate .twoFactor userId.toStr) = ⟨count, some last⟩ := by
    unfold AuthState.counter
    exact congrArg (fun entry => entry.getD ⟨0, none⟩) found
  dsimp only
  rw [counter]
  refine ⟨kept, ?_⟩
  by_cases allowed : count ≤ 5
  · rw [if_neg (by simpa using allowed)]
    refine Contract.keeps_read fun _ _ _ _ => ?_
    split
    · refine verifyTotpOrRecovery_checks .completeTwoFactor userId call.code ?_ ?_ ?_ ?_
      · intro user window number member
        cases List.mem_singleton.mp member
        exact allowed
      · intro point user secret code millis member
        cases List.mem_singleton.mp member
      · intro _
        exact trivial
      · intro written after
        exact keeps_transaction_none (fun _ => trivial) fun _ _ _ holds => holds
    · exact trivial
  · rw [if_pos (by simpa using allowed)]
    exact trivial

theorem completeTwoFactor_checks (call : AuthService.TwoFactorCall) :
    factorContract.Keeps tid (AuthService.completeTwoFactor runtime call) [] := by
  refine Contract.keeps_silent (fun _ _ holds _ => holds) fun _ _ _ _ => ?_
  dsimp only
  split
  · exact trivial
  · split
    · exact trivial
    · exact twoFactorOf_checks call _

theorem disableTotp_checks (call : AuthService.DisableCall) :
    factorContract.Keeps tid (AuthService.disableTotp runtime call) [] := by
  unfold AuthService.disableTotp AuthService.withActor
  split
  · exact trivial
  · refine verifyTotpOrRecovery_checks .disableTotp _ call.code ?_ ?_ ?_ ?_
    · intro user window number member
      cases member
    · intro point user secret code millis member
      cases member
    · intro _
      exact trivial
    · intro written after
      exact keeps_transaction_none (fun _ => trivial) fun _ _ _ holds => holds

theorem confirmTotp_checks (call : AuthService.ConfirmCall) :
    factorContract.Keeps tid (AuthService.confirmTotp runtime call) [] := by
  unfold AuthService.confirmTotp AuthService.withActor
  split
  · exact trivial
  · refine Contract.keeps_read fun _ _ _ _ => ?_
    split
    · exact trivial
    · split
      · exact trivial
      · refine keeps_checkCode ?_ fun checked => ?_
        · intro state log holds left counted
          -- `confirm_totp` does not ask the limiter, so its check is none of the allowed ones
          obtain ⟨last, count, given, _⟩ := counted _ _ _ _ _ rfl
          have own := (mem_own tid log _).mpr given
          rw [left] at own
          cases own
        · split
          · refine keeps_transaction (fun _ _ => trivial) (fun _ _ _ holds => holds) ?_
            intro state log holds _ _
            exact ChecksAt.note holds (fun _ _ _ => by simp) (fun _ _ _ _ _ => by simp)
          · exact trivial

/-! ## Runs -/

def factorStart (runtime : AuthRuntime) (settings : AuthSettings) (state : AuthState)
    (calls : Tid → FactorCall) : World Tid AuthState AuthEvent (Except Exc AuthAnswer) :=
  World.start state fun tid => (calls tid).call.proc runtime settings

/-- The condition on an action: if it checks a second factor, the limiter has counted its
call for the user, and the window of that count has not ended. -/
def ChecksCounted (world : World Tid AuthState AuthEvent (Except Exc AuthAnswer)) (tid : Tid) :
    Prop :=
  CountedInTime tid world.log (world.event tid)

/-- Where every check is one of a call the limiter has counted in a window that still
lives, each user is checked five times at most in the life of a window. -/
theorem second_factor_checks_bounded (runtime : AuthRuntime) (settings : AuthSettings)
    (state : AuthState) (calls : Tid → FactorCall)
    (empty : ∀ userId, state.counters.entry (factorKey userId) = none)
    (world : World Tid AuthState AuthEvent (Except Exc AuthAnswer))
    (run : Run Passes ChecksCounted (factorStart runtime settings state calls) world)
    (userId : Uuid) : AtMostFive world.shared world.log userId := by
  refine ChecksAt.atMostFive (run.keeps factorContract ?_ ?_ ?_ ?_).1 userId
  · refine ⟨?_, ?_, ?_, ?_, ?_⟩
    · intro user entry found
      have held := ((Redis.find_eq_some_iff _ _ _ _).mp found).1
      cases (empty user).symm.trans held
    · intro tid user last count member
      cases member
    · intro tid other user last count member
      cases member
    · intro tid entry user secret code millis member
      cases member
    · intro user first
      exact List.Pairwise.nil
  · intro tid
    change factorContract.Keeps tid ((calls tid).call.proc runtime settings) []
    cases calls tid with
    | complete call => exact completeTwoFactor_checks call
    | confirm call => exact confirmTotp_checks call
    | disable call => exact disableTotp_checks call
  · intro before later log passes holds
    obtain ⟨time, same⟩ := passes
    have millis : before.millis ≤ later.millis := Int.ediv_le_ediv (by decide) time
    rw [same]
    exact ChecksAt.later millis holds
  · intro world tid allowed _ _
    exact allowed

namespace Sample

local instance twoChecks : NeZero 2 := ⟨two_ne_zero⟩

/-- An account with a second factor, and a challenge to be answered. -/
def challengedAccount : AuthState :=
  { oneAccount with
    values := Redis.empty.put (.challenge "challenge")
      ⟨(9 : Uuid).toStr, some (Redis.expiry oneAccount.millis 300)⟩
    db := { oneAccount.db with totps := ⟨[⟨9, "seed", some morning⟩], by decide⟩ } }

def answer : AuthService.TwoFactorCall := ⟨"challenge", "123456", ⟨1, 2, "token", evening⟩⟩

/-- An answer to the challenge, and six attempts to turn the second factor off. -/
def factorCalls (tid : Fin 7) : FactorCall :=
  if tid = 0 then .complete answer else .disable ⟨some 9, "000000"⟩

abbrev FactorWorld := World (Fin 7) AuthState AuthEvent (Except Exc AuthAnswer)

def factorsAsked : FactorWorld :=
  factorStart plainRuntime plainSettings challengedAccount factorCalls

def guesses : List (Move (Fin 7) AuthState) :=
  [.act 0, .act 0, .act 1, .act 1, .act 2, .act 2, .act 3, .act 3, .act 4, .act 4, .act 5, .act 5,
    .act 6, .act 6]

def guessed : FactorWorld := factorsAsked.follow guesses

theorem guessed_run : Run Passes (fun _ _ => True) factorsAsked guessed := by
  refine Run.start.follow _ ?_
  simp only [guesses, Sound, and_self]

/-- Six checks in one window, none of them counted by the limiter. -/
theorem disable_checks_uncounted :
    Run Passes (fun _ _ => True) factorsAsked guessed ∧
      (∀ userId, factorsAsked.shared.counters.entry (factorKey userId) = none) ∧
      ¬AtMostFive guessed.shared guessed.log 9 := by
  refine ⟨guessed_run, fun _ => rfl, ?_⟩
  intro bounded
  have found : guessed.shared.counters.find guessed.shared.millis (factorKey 9) =
      some ⟨1, some (Redis.expiry oneAccount.millis 300)⟩ := by
    decide +kernel
  have few := bounded _ _ found rfl
  have many : (guessed.log.filter fun logged =>
      checkSince 9 (Redis.expiry oneAccount.millis 300 - 300000) logged.2).length = 6 := by
    decide +kernel
  omega

def limitedInTime (userId : Uuid) (millis : Int) : AuthEvent → Bool
  | .limited user last _ => user = userId && millis ≤ last
  | _ => false

/-- The check of `ChecksCounted`. -/
def isCounted (world : World (Fin 2) AuthState AuthEvent (Except Exc AuthAnswer)) (tid : Fin 2) :
    Bool :=
  match world.event tid with
  | some (.checked _ userId _ _ millis) =>
    world.log.any fun logged => logged.1 = tid && limitedInTime userId millis logged.2
  | _ => true

theorem checksCounted_of {world : World (Fin 2) AuthState AuthEvent (Except Exc AuthAnswer)}
    {tid : Fin 2} (counted : isCounted world tid = true) : ChecksCounted world tid := by
  intro entry userId secret code millis emitted
  rw [isCounted, emitted, List.any_eq_true] at counted
  obtain ⟨⟨other, limited⟩, member, fits⟩ := counted
  rw [Bool.and_eq_true, decide_eq_true_eq] at fits
  obtain ⟨rfl, fits⟩ := fits
  cases limited with
  | limited user last count =>
    rw [limitedInTime, Bool.and_eq_true, decide_eq_true_eq, decide_eq_true_eq] at fits
    obtain ⟨rfl, inTime⟩ := fits
    exact ⟨last, count, member, inTime⟩
  | _ => cases fits

/-- Two challenges of the account, and the answers to both. -/
def challengedTwice : AuthState :=
  { challengedAccount with
    values := challengedAccount.values.put (.challenge "again")
      ⟨(9 : Uuid).toStr, some (Redis.expiry oneAccount.millis 300)⟩ }

def answers : Fin 2 → FactorCall :=
  ![.complete answer, .complete ⟨"again", "654321", ⟨3, 4, "other", evening⟩⟩]

/-- Both answers, up to the checks of their codes. -/
def answered : World (Fin 2) AuthState AuthEvent (Except Exc AuthAnswer) :=
  (factorStart plainRuntime plainSettings challengedTwice answers).follow
    [.act 0, .act 1, .act 0, .act 1, .act 0, .act 1, .act 0, .act 1, .act 0, .act 1]

theorem answered_run :
    Run Passes ChecksCounted (factorStart plainRuntime plainSettings challengedTwice answers)
      answered := by
  refine Run.start.follow _ ⟨?_, ?_, ?_, ?_, ?_, ?_, ?_, ?_, ?_, ?_, trivial⟩
  all_goals
    apply checksCounted_of
    decide +kernel

/-- Two checks, in the window in which they were counted. -/
theorem answers_checked_in_window :
    Run Passes ChecksCounted (factorStart plainRuntime plainSettings challengedTwice answers)
        answered ∧
      (answered.log.filter fun logged => checkSince 9 0 logged.2).length = 2 ∧
      AtMostFive answered.shared answered.log 9 :=
  ⟨answered_run, by decide +kernel,
    second_factor_checks_bounded plainRuntime plainSettings challengedTwice answers
      (fun _ => rfl) answered answered_run 9⟩

end Sample

end BackendCore.Auth
