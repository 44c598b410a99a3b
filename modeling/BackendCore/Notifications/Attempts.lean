import BackendCore.Notifications.Finality

/-!
# The attempts of an outbox row

A claim counts an attempt; the limit is looked at where the channel fails, and
only there.  The attempts stay within the limit, and a row that has used them up is
dead or sent, where the last permitted attempt of a row goes through and is over
when the row is claimed again, and a row is finalised by the pass that has claimed
it last.
-/

set_option autoImplicit false

namespace BackendCore.Notifications

open BackendCore.Python BackendCore.Requests

variable {Tid : Type}

/-- How often an event claims a row. -/
def NotifyEvent.claims (id : Uuid) (event : NotifyEvent) : Nat :=
  event.rows.countP fun row => row.id = id

/-- How often a row has been claimed. -/
def claims (id : Uuid) (log : List (Tid × NotifyEvent)) : Nat :=
  (log.map fun entry => entry.2.claims id).sum

theorem claims_append (id : Uuid) (log : List (Tid × NotifyEvent)) (tid : Tid)
    (event : NotifyEvent) :
    claims id (log ++ [(tid, event)]) = claims id log + event.claims id := by
  simp [claims]

theorem claims_claimed (id : Uuid) (pass : Pass) (state : NotifyState) :
    (NotifyEvent.claimed (claimedRows pass state)).claims id =
      if id ∈ (claimedRows pass state).map ClaimedRow.id then 1 else 0 := by
  have counted : (NotifyEvent.claimed (claimedRows pass state)).claims id =
      ((claimedRows pass state).map ClaimedRow.id).count id := by
    rw [List.count, List.countP_map]
    refine List.countP_congr ?_
    intro row _
    simp
  rw [counted]
  split
  · rename_i member
    exact List.count_eq_one_of_mem (claimedRows_nodup pass state) member
  · rename_i absent
    exact List.count_eq_zero_of_not_mem absent

/-- The event leaves the outbox as it is. -/
def NotifyEvent.isRead : NotifyEvent → Bool
  | .claimed _ => false
  | .wrote _ _ => false
  | _ => true

theorem NotifyEvent.claims_eq_zero {event : NotifyEvent} (reads : event.isRead = true)
    (id : Uuid) : event.claims id = 0 := by
  cases event with
  | claimed rows => cases reads
  | _ => rfl

/-- What the log and the limit say of a row. -/
structure BoundedRow (settings : DispatchSettings) (log : List (Tid × NotifyEvent))
    (row : NotificationOutbox) : Prop where
  within : row.attempts ≤ settings.maxAttempts
  retried : row.status = .pending ∨ row.status = .failed → row.attempts < settings.maxAttempts
  counted : claims row.id log = row.attempts
  taken : 0 < row.attempts → ∃ tid claimed, ClaimedIn log tid claimed ∧ claimed.id = row.id ∧
    claimed.attempts = row.attempts

/-- A last permitted attempt goes through, and a row that its last claim has written is not
being sent. -/
structure AttemptsAt (settings : DispatchSettings) (passes : Tid → Pass) (state : NotifyState)
    (log : List (Tid × NotifyEvent)) : Prop where
  finality : FinalityAt state log
  bounded : ∀ id row, state.outbox.get id = some row → BoundedRow settings log row
  absent : ∀ id, state.outbox.get id = none → claims id log = 0
  handled : ∀ tid claimed, ClaimedIn log tid claimed → claimed.attempts = settings.maxAttempts →
    ((passes tid).handling claimed.id).finalizes settings claimed = true
  written : ∀ tid claimed status row, (tid, .wrote claimed status) ∈ log →
    state.outbox.get claimed.id = some row → row.attempts = claimed.attempts →
    row.status ≠ .sending

/-- The condition on a step.  What a pass claims for the last permitted attempt is handled
without an exception outside the channel; when a row is claimed, a pass that has made its last
permitted attempt has ended; and a row that is finalised has not been claimed by another pass
meanwhile. -/
def FinishedInTime [DecidableEq Tid] (settings : DispatchSettings) (passes : Tid → Pass)
    (world : NotifyWorld Tid) (tid : Tid) : Prop :=
  StepCondition.Holds
    { claims := fun rows => ∀ claimed ∈ rows,
        (claimed.attempts = settings.maxAttempts →
          ((passes tid).handling claimed.id).finalizes settings claimed = true) ∧
        ∀ entry ∈ world.log, ∀ earlier ∈ entry.2.rows, earlier.id = claimed.id →
          earlier.attempts = settings.maxAttempts → world.ended entry.1 = true
      writes := world.shared.Owns }
    (world.event tid)

instance [DecidableEq Tid] (settings : DispatchSettings) (passes : Tid → Pass)
    (world : NotifyWorld Tid) (tid : Tid) : Decidable (FinishedInTime settings passes world tid) :=
  inferInstanceAs (Decidable (StepCondition.Holds _ _))

/-- What the log says when a pass claims rows: the condition, with what a pass that has ended
has done. -/
def ClaimsInTime (settings : DispatchSettings) (pass : Pass) (log : List (Tid × NotifyEvent))
    (rows : List ClaimedRow) : Prop :=
  ∀ claimed ∈ rows,
    (claimed.attempts = settings.maxAttempts →
      (pass.handling claimed.id).finalizes settings claimed = true) ∧
    ∀ other earlier, ClaimedIn log other earlier → earlier.id = claimed.id →
      earlier.attempts = settings.maxAttempts → ∃ status, (other, .wrote earlier status) ∈ log

def attemptsContract (settings : DispatchSettings) (passes : Tid → Pass) :
    Contract Tid NotifyState NotifyEvent (Except Exc Nat) where
  invariant := AttemptsAt settings passes
  assumes := fun tid state log => StepCondition.Holds
    { claims := ClaimsInTime settings (passes tid) log
      writes := state.Owns }
  ends := fun tid _ mine => ∀ row, ClaimedBy row mine →
    ((passes tid).handling row.id).finalizes settings row = true →
      ∃ status, .wrote row status ∈ mine

section Steps

variable {settings : DispatchSettings} {passes : Tid → Pass} {state : NotifyState}
variable {log : List (Tid × NotifyEvent)} {tid : Tid}

theorem BoundedRow.of_queued {row : NotificationOutbox} (positive : 0 < settings.maxAttempts)
    (queued : row.Queued) (unclaimed : claims row.id log = 0) : BoundedRow settings log row := by
  have fresh := queued.attempts
  refine ⟨by omega, fun _ => by omega, by omega, ?_⟩
  intro some
  omega

theorem Aims.ne_sending {row : ClaimedRow} {status : OutboxStatus}
    (aims : Aims settings row status) : status ≠ .sending := by
  rcases aims with rfl | rfl | ⟨rfl, _⟩
  · decide
  · decide
  · decide

/-- An update after which the row is due again leaves it an attempt. -/
theorem Aims.few {row : ClaimedRow} {status : OutboxStatus} (aims : Aims settings row status)
    (again : status = .pending ∨ status = .failed) : row.attempts < settings.maxAttempts := by
  rcases aims with rfl | rfl | ⟨_, few⟩
  · simp at again
  · simp at again
  · exact few

theorem BoundedRow.grow {row : NotificationOutbox} {event : NotifyEvent}
    (bounded : BoundedRow settings log row) (unclaimed : event.claims row.id = 0) :
    BoundedRow settings (log ++ [(tid, event)]) row := by
  refine ⟨bounded.within, bounded.retried, ?_, ?_⟩
  · rw [claims_append, unclaimed, bounded.counted]
    rfl
  · intro some
    obtain ⟨other, claimed, isClaimed, same⟩ := bounded.taken some
    exact ⟨other, claimed, isClaimed.grow _, same⟩

theorem AttemptsAt.note {event : NotifyEvent} {later : NotifyState}
    (holds : AttemptsAt settings passes state log)
    (finality : FinalityAt later (log ++ [(tid, event)]))
    (reads : event.isRead = true) (same : later.outbox = state.outbox) :
    AttemptsAt settings passes later (log ++ [(tid, event)]) := by
  refine ⟨finality, ?_, ?_, ?_, ?_⟩
  · intro id row found
    rw [same] at found
    exact (holds.bounded id row found).grow (NotifyEvent.claims_eq_zero reads _)
  · intro id missing
    rw [same] at missing
    rw [claims_append, NotifyEvent.claims_eq_zero reads, holds.absent id missing]
  · intro other claimed isClaimed
    refine holds.handled other claimed (isClaimed.earlier ?_)
    rintro rows rfl
    cases reads
  · intro other claimed status row member found
    rw [same] at found
    refine holds.written other claimed status row (mem_of_append_one member ?_) found
    intro isLast
    cases isLast
    cases reads

/-- A row that is due has an attempt left: its last permitted attempt would have been written. -/
theorem claimed_has_attempt {pass : Pass} (holds : AttemptsAt settings passes state log)
    (positive : 0 < settings.maxAttempts) (inTime : ClaimsInTime settings pass log
      (claimedRows pass state))
    {row : NotificationOutbox} (found : state.outbox.get row.id = some row)
    (chosen : row.id ∈ (claimedRows pass state).map ClaimedRow.id) :
    row.attempts < settings.maxAttempts := by
  obtain ⟨claimed, member, same⟩ := List.mem_map.mp chosen
  obtain ⟨due, stored, isDue, _⟩ := mem_claimedRows member
  rw [same, found] at stored
  cases stored
  have bounded := holds.bounded row.id row found
  simp only [NotificationOutbox.isDue, Bool.and_eq_true, Bool.or_eq_true,
    decide_eq_true_eq] at isDue
  rcases isDue.1 with (pending | failed) | sending
  · exact bounded.retried (Or.inl pending)
  · exact bounded.retried (Or.inr failed)
  · refine lt_of_le_of_ne bounded.within ?_
    intro used
    obtain ⟨other, earlier, isClaimed, placed, attempts⟩ := bounded.taken (used ▸ positive)
    obtain ⟨status, wrote⟩ := (inTime claimed member).2 other earlier isClaimed
      (placed.trans same.symm) (attempts.trans used)
    exact holds.written other earlier status row wrote (placed ▸ found) attempts.symm sending

theorem AttemptsAt.claim_bounded (holds : AttemptsAt settings passes state log)
    (positive : 0 < settings.maxAttempts)
    (inTime : ClaimsInTime settings (passes tid) log (claimedRows (passes tid) state))
    {id : Uuid} {row : NotificationOutbox}
    (found : (claimTable settings (passes tid) state).get id = some row) :
    BoundedRow settings (log ++ [(tid, .claimed (claimedRows (passes tid) state))]) row := by
  by_cases chosen : id ∈ (claimedRows (passes tid) state).map ClaimedRow.id
  · obtain ⟨claimed, member, rfl⟩ := List.mem_map.mp chosen
    obtain ⟨due, stored, _, rfl⟩ := mem_claimedRows member
    rw [claimTable_get_claimed stored chosen] at found
    cases found
    refine ⟨claimed_has_attempt holds positive inTime stored chosen, ?_, ?_, ?_⟩
    · rintro (impossible | impossible)
      · cases impossible
      · cases impossible
    · change claims due.id _ = due.attempts + 1
      have isChosen : due.id ∈ (claimedRows (passes tid) state).map ClaimedRow.id := chosen
      rw [claims_append, claims_claimed, if_pos isChosen, (holds.bounded _ due stored).counted]
    · intro _
      exact ⟨tid, toClaimed due, ⟨_, List.mem_append_right _ List.mem_cons_self, member⟩, rfl, rfl⟩
  · rw [claimTable_get_other chosen] at found
    have placed : row.id = id := Table.key_of_get found
    refine (holds.bounded id row found).grow ?_
    rw [claims_claimed, placed, if_neg chosen]

theorem AttemptsAt.claim (holds : AttemptsAt settings passes state log)
    (positive : 0 < settings.maxAttempts)
    (inTime : ClaimsInTime settings (passes tid) log (claimedRows (passes tid) state)) :
    AttemptsAt settings passes { state with outbox := claimTable settings (passes tid) state }
      (log ++ [(tid, .claimed (claimedRows (passes tid) state))]) := by
  refine ⟨⟨holds.finality.fence.claim, holds.finality.final.claim⟩, ?_, ?_, ?_, ?_⟩
  · intro id row found
    exact holds.claim_bounded positive inTime found
  · intro id missing
    change (claimTable settings (passes tid) state).get id = none at missing
    rw [claimTable, Table.get_mapRows, Option.map_eq_none_iff] at missing
    have unclaimed : id ∉ (claimedRows (passes tid) state).map ClaimedRow.id := by
      intro chosen
      obtain ⟨claimed, member, rfl⟩ := List.mem_map.mp chosen
      obtain ⟨due, stored, _⟩ := mem_claimedRows member
      rw [missing] at stored
      cases stored
    rw [claims_append, claims_claimed, if_neg unclaimed, holds.absent id missing]
  · intro other claimed isClaimed last
    rcases isClaimed.of_claim with earlier | ⟨rfl, member⟩
    · exact holds.handled other claimed earlier last
    · exact (inTime claimed member).1 last
  · intro other claimed status row member found attempts
    have wrote : (other, .wrote claimed status) ∈ log := by
      refine mem_of_append_one member ?_
      intro isLast
      cases isLast
    obtain ⟨old, stored, bound⟩ :=
      holds.finality.fence.standing other claimed (holds.finality.final.owned _ _ _ wrote)
    change (claimTable settings (passes tid) state).get claimed.id = some row at found
    by_cases chosen : claimed.id ∈ (claimedRows (passes tid) state).map ClaimedRow.id
    · -- the claim has raised the attempts
      rw [claimTable_get_claimed stored chosen] at found
      cases found
      change old.attempts + 1 = claimed.attempts at attempts
      omega
    · rw [claimTable_get_other chosen] at found
      exact holds.written other claimed status row wrote found attempts

/-- A pass that still owns the row has loaded it while it was being sent. -/
theorem AttemptsAt.flushed_status {row : ClaimedRow}
    {loaded target current : NotificationOutbox} (holds : AttemptsAt settings passes state log)
    (isLoaded : (tid, .loaded row (some loaded)) ∈ log) (aims : Aims settings row target.status)
    (stored : state.outbox.get row.id = some current) (owns : current.attempts = row.attempts) :
    (flushRow loaded target current).status = target.status ∧ target.status ≠ .sending := by
  obtain ⟨old, now, isOld, inside, low, high, status⟩ :=
    holds.finality.fence.loaded tid row (some loaded) isLoaded
  cases isOld
  rw [stored] at inside
  cases inside
  have isSending := status (by omega)
  refine ⟨if_neg ?_, aims.ne_sending⟩
  rw [isSending]
  exact aims.ne_sending

theorem AttemptsAt.write {row : ClaimedRow} {loaded target current : NotificationOutbox}
    (holds : AttemptsAt settings passes state log)
    (finality : FinalityAt { state with outbox := flushTable row.id loaded target state.outbox }
      (log ++ [(tid, .wrote row (flushRow loaded target current).status)]))
    (isLoaded : (tid, .loaded row (some loaded)) ∈ log) (aims : Aims settings row target.status)
    (stored : state.outbox.get row.id = some current) (owns : current.attempts = row.attempts) :
    AttemptsAt settings passes
      { state with outbox := flushTable row.id loaded target state.outbox }
      (log ++ [(tid, .wrote row (flushRow loaded target current).status)]) := by
  obtain ⟨written, aimed⟩ := holds.flushed_status isLoaded aims stored owns
  refine ⟨finality, ?_, ?_, ?_, ?_⟩
  · intro id found inside
    change (flushTable row.id loaded target state.outbox).get id = some found at inside
    rw [flushTable_get stored] at inside
    split at inside
    · cases inside
      have bounded : BoundedRow settings
          (log ++ [(tid, .wrote row (flushRow loaded target current).status)]) current :=
        (holds.bounded row.id current stored).grow rfl
      refine ⟨bounded.within, ?_, bounded.counted, bounded.taken⟩
      intro again
      rw [written] at again
      change current.attempts < settings.maxAttempts
      rw [owns]
      exact aims.few again
    · exact (holds.bounded id found inside).grow rfl
  · intro id missing
    change (flushTable row.id loaded target state.outbox).get id = none at missing
    rw [flushTable, Table.get_mapRows, Option.map_eq_none_iff] at missing
    rw [claims_append, holds.absent id missing]
    rfl
  · intro other claimed isClaimed
    exact holds.handled other claimed (isClaimed.earlier fun _ impossible => by cases impossible)
  · intro other claimed status found member inside attempts
    change (flushTable row.id loaded target state.outbox).get claimed.id = some found at inside
    rw [flushTable_get stored] at inside
    split at inside
    · cases inside
      rw [written]
      exact aimed
    · rename_i elsewhere
      refine holds.written other claimed status found (mem_of_append_one member ?_) inside attempts
      intro isLast
      cases isLast
      exact elsewhere rfl

theorem AttemptsAt.later {later : NotifyState} (holds : AttemptsAt settings passes state log)
    (positive : 0 < settings.maxAttempts) (drifts : state.Passes later) :
    AttemptsAt settings passes later log := by
  refine ⟨holds.finality.later drifts, ?_, ?_, holds.handled, ?_⟩
  · intro id row found
    rcases drifts.queued id row found with old | queued
    · exact holds.bounded id row old
    have placed : row.id = id := Table.key_of_get found
    cases before : state.outbox.get id with
    | some old =>
      have same := drifts.kept id old before
      rw [found] at same
      cases same
      exact holds.bounded id row before
    | none => exact .of_queued positive queued (placed ▸ holds.absent id before)
  · intro id missing
    cases before : state.outbox.get id with
    | none => exact holds.absent id before
    | some old =>
      rw [drifts.kept id old before] at missing
      cases missing
  · intro tid claimed status row wrote found
    obtain ⟨old, stored, _⟩ :=
      holds.finality.fence.standing tid claimed (holds.finality.final.owned _ _ _ wrote)
    have same := drifts.kept _ _ stored
    rw [found] at same
    cases same
    exact holds.written tid claimed status row wrote stored

theorem attempts_start (positive : 0 < settings.maxAttempts)
    (queued : ∀ id row, state.outbox.get id = some row → row.Queued) :
    AttemptsAt settings passes state [] := by
  refine ⟨finality_start state queued, ?_, fun _ _ => rfl, ?_, fun _ _ _ _ member => by
    cases member⟩
  · intro id row found
    exact .of_queued positive (queued id row found) rfl
  · rintro tid claimed ⟨rows, member, _⟩
    cases member

end Steps

variable [DecidableEq Tid]

theorem attempts_rules (settings : DispatchSettings) (positive : 0 < settings.maxAttempts)
    (passes : Tid → Pass) : DispatchRules settings passes (attemptsContract settings passes) where
  ends := by
    intro tid answer mine settled row claimed through
    refine settled row claimed ?_ through
    intro other standing state log holds isClaimed gone
    obtain ⟨found, stored, _⟩ :=
      holds.finality.fence.standing other standing (claimedBy_own.mp isClaimed)
    rw [gone] at stored
    cases stored
  claim := fun _ _ _ holds _ _ inTime => holds.claim positive inTime
  reserve := fun _ _ _ _ _ holds _ _ _ =>
    holds.note (holds.finality.reserve rfl) rfl rfl
  expire := fun _ _ _ _ _ holds _ => ⟨holds.finality.recount _, holds.bounded, holds.absent,
    holds.handled, holds.written⟩
  send := by
    intro tid script row key mine next unfinished _ _ rest
    have neutral : ∀ status state log, AttemptsAt settings passes state log →
        AttemptsAt settings passes state (log ++ [(tid, .submitted row key status)]) :=
      fun _ _ _ holds => holds.note holds.finality.submit rfl rfl
    exact eskizSend_keeps neutral unfinished rest
  load := fun tid row state log holds unfinished _ =>
    holds.note ((finality_rules settings passes).load tid row state log holds.finality unfinished
      trivial) rfl rfl
  write := fun tid row loaded target current state log holds isLoaded aims stored owns =>
    holds.write ((finality_rules settings passes).write tid row loaded target current state log
      holds.finality isLoaded aims stored owns) ((mem_own _ _ _).mp isLoaded.loaded) aims stored
      (owns current stored)
  publish := fun tid row error state log holds buried _ =>
    holds.note (holds.finality.publish buried) rfl rfl

section Ends

variable {settings : DispatchSettings} {passes : Tid → Pass} {world : NotifyWorld Tid} {tid : Tid}

/-- A pass that has ended has written what it claimed for the last permitted attempt. -/
theorem AttemptsAt.wrote_of_ended (holds : AttemptsAt settings passes world.shared world.log)
    (done : ∀ answer, world.session tid = .done answer →
      (attemptsContract settings passes).ends tid answer (own tid world.log))
    (ended : world.ended tid = true) {claimed : ClaimedRow}
    (isClaimed : ClaimedIn world.log tid claimed)
    (last : claimed.attempts = settings.maxAttempts) :
    ∃ status, (tid, .wrote claimed status) ∈ world.log := by
  obtain ⟨answer, isDone⟩ := World.done_of_ended ended
  obtain ⟨status, wrote⟩ := done answer isDone claimed (claimedBy_own.mpr isClaimed)
    (holds.handled tid claimed isClaimed last)
  exact ⟨status, (mem_own _ _ _).mp wrote⟩

theorem FinishedInTime.assumes (inTime : FinishedInTime settings passes world tid)
    (holds : AttemptsAt settings passes world.shared world.log)
    (done : ∀ other answer, world.session other = .done answer →
      (attemptsContract settings passes).ends other answer (own other world.log)) :
    (attemptsContract settings passes).assumes tid world.shared world.log (world.event tid) := by
  unfold FinishedInTime at inTime
  cases left : world.event tid with
  | none => trivial
  | some event =>
    rw [left] at inTime
    cases event with
    | claimed rows =>
      intro claimed member
      refine ⟨(inTime claimed member).1, ?_⟩
      rintro other earlier ⟨before, isLogged, inside⟩ same last
      have ended := (inTime claimed member).2 _ isLogged earlier inside same last
      exact holds.wrote_of_ended (done other) ended ⟨before, isLogged, inside⟩ last
    | wrote claimed status => exact inTime
    | _ => trivial

end Ends

/-- In every such run a row is claimed as often as its attempts say and no more often than the
limit; a row that has used them up is dead or sent as soon as the pass that has made the last
attempt has ended. -/
theorem attempts_within_limit (settings : DispatchSettings) (positive : 0 < settings.maxAttempts)
    (passes : Tid → Pass) (state : NotifyState)
    (queued : ∀ id row, state.outbox.get id = some row → row.Queued) (world : NotifyWorld Tid)
    (run : Run NotifyState.Passes (FinishedInTime settings passes)
      (dispatchStart settings passes state) world)
    (id : Uuid) (row : NotificationOutbox) (stored : world.shared.outbox.get id = some row) :
    row.attempts ≤ settings.maxAttempts ∧ claims id world.log = row.attempts ∧
      (claims id world.log = settings.maxAttempts → ∃ tid claimed,
        ClaimedIn world.log tid claimed ∧ claimed.id = id ∧
        claimed.attempts = settings.maxAttempts ∧
        (world.ended tid = true → row.status = .dead ∨ row.status = .sent)) := by
  obtain ⟨holds, sessions⟩ := run.keeps (attemptsContract settings passes)
    (attempts_start positive queued) (attempts_rules settings positive passes).dispatch
    (fun _ _ _ drifts holds => holds.later positive drifts)
    (fun _ _ inTime holds done => inTime.assumes holds done)
  have bounded := holds.bounded id row stored
  have placed : row.id = id := Table.key_of_get stored
  subst placed
  refine ⟨bounded.within, bounded.counted, ?_⟩
  intro used
  have full : row.attempts = settings.maxAttempts := bounded.counted.symm.trans used
  obtain ⟨tid, claimed, isClaimed, same, attempts⟩ := bounded.taken (full ▸ positive)
  refine ⟨tid, claimed, isClaimed, same, attempts.trans full, ?_⟩
  intro ended
  have done : ∀ answer, world.session tid = .done answer →
      (attemptsContract settings passes).ends tid answer (own tid world.log) := by
    intro answer isDone
    have finished := sessions tid
    rw [isDone] at finished
    exact finished
  obtain ⟨status, wrote⟩ := holds.wrote_of_ended done ended isClaimed (attempts.trans full)
  have notSending := holds.written tid claimed status row wrote (same ▸ stored) attempts.symm
  cases status : row.status with
  | pending => exact absurd full (bounded.retried (Or.inl status)).ne
  | failed => exact absurd full (bounded.retried (Or.inr status)).ne
  | sending => exact absurd status notSending
  | sent => exact Or.inr rfl
  | dead => exact Or.inl rfl

namespace Sample

local instance twoLeases : NeZero 2 := ⟨two_ne_zero⟩

/-- The configuration of the tenant cannot be decrypted. -/
def undecryptable : Handling := { delivers (.sent none) with resolve := .raised }

def brokenPasses : NotifyWorld (Fin 6) :=
  dispatchStart settings (fun _ => ⟨[], 50, fun _ => undecryptable⟩) oneQueued

/-- A pass, after which the lease runs out. -/
def passAndWait (world : NotifyWorld (Fin 6)) (tid : Fin 6) : NotifyWorld (Fin 6) :=
  (world.act tid).wait { (world.act tid).shared with now := (world.act tid).shared.now + 301000 }

def sixPasses : NotifyWorld (Fin 6) := [0, 1, 2, 3, 4, 5].foldl passAndWait brokenPasses

theorem passAndWait_run {world : NotifyWorld (Fin 6)} (tids : List (Fin 6))
    (run : Run NotifyState.Passes (fun _ _ => True) brokenPasses world) :
    Run NotifyState.Passes (fun _ _ => True) brokenPasses (tids.foldl passAndWait world) := by
  induction tids generalizing world with
  | nil => exact run
  | cons tid rest hypothesis =>
    refine hypothesis ((run.act tid trivial).wait _ ⟨?_, rfl, fun _ _ found => found,
      fun _ _ found => Or.inl found⟩)
    change (world.act tid).shared.now ≤ (world.act tid).shared.now + 301000
    omega

theorem undecryptable_row_claimed_again :
    Run NotifyState.Passes (fun _ _ => True) brokenPasses sixPasses ∧
      ∃ row, sixPasses.shared.outbox.get 7 = some row ∧ row.attempts = 6 ∧
        row.status = .sending ∧ settings.maxAttempts = 5 := by
  refine ⟨passAndWait_run _ .start, ?_⟩
  have six : (sixPasses.shared.outbox.get 7).map (fun row => (row.attempts, row.status)) =
      some (6, .sending) := by decide +kernel
  obtain ⟨row, stored, same⟩ := Option.map_eq_some_iff.mp six
  cases row
  cases same
  exact ⟨_, stored, rfl, rfl, rfl⟩

/-- Two attempts are permitted: the configuration cannot be decrypted in the first, and in the
second the mail server is down. -/
def twoAttempts : DispatchSettings := ⟨2, 300, 200⟩

def failingPasses : Fin 2 → Pass :=
  ![⟨[], 50, fun _ => undecryptable⟩, ⟨[], 50, fun _ => delivers (.failed "down")⟩]

def failing : NotifyWorld (Fin 2) := dispatchStart twoAttempts failingPasses oneQueued

/-- The first pass is over, and the lease of the row. -/
def leaseLost : NotifyWorld (Fin 2) :=
  (failing.act 0).wait { (failing.act 0).shared with now := 302000 }

def buriedRow : NotificationOutbox :=
  deadRow "exhausted: down" (leaseRow twoAttempts 302000 (leaseRow twoAttempts 1000 queuedRow))

theorem failing_row_is_dead :
    ∃ world : NotifyWorld (Fin 2),
      Run NotifyState.Passes (FinishedInTime twoAttempts failingPasses) failing world ∧
      world.shared.outbox.get 7 = some buriedRow ∧ buriedRow.attempts ≤ 2 ∧
      claims 7 world.log = 2 ∧ (buriedRow.status = .dead ∨ buriedRow.status = .sent) := by
  have drifts : (failing.act 0).shared.Passes leaseLost.shared := by
    refine ⟨?_, rfl, fun _ _ found => found, fun _ _ found => Or.inl found⟩
    change (1000 : Int) ≤ 302000
    decide
  have first : Run NotifyState.Passes (FinishedInTime twoAttempts failingPasses) failing
      leaseLost := (Run.start.act 0 (by decide +kernel)).wait _ drifts
  have run : Run NotifyState.Passes (FinishedInTime twoAttempts failingPasses) failing
      (leaseLost.follow [.act 1, .act 1, .act 1, .act 1]) :=
    first.follow _ ⟨by decide +kernel, by decide +kernel, by decide +kernel, by decide +kernel,
      trivial⟩
  have stored : (leaseLost.follow [.act 1, .act 1, .act 1, .act 1]).shared.outbox.get 7 =
      some buriedRow := by decide +kernel
  have all : ∀ tid, (leaseLost.follow [.act 1, .act 1, .act 1, .act 1]).ended tid = true := by
    decide +kernel
  obtain ⟨within, counted, used⟩ := attempts_within_limit twoAttempts (by decide) failingPasses
    oneQueued (by
      intro id row found
      cases List.mem_singleton.mp (Table.mem_of_get found)
      exact ⟨rfl, rfl⟩) _ run 7 buriedRow stored
  obtain ⟨tid, _, _, _, _, final⟩ := used counted
  exact ⟨_, run, stored, within, counted, final (all tid)⟩

end Sample

end BackendCore.Notifications
