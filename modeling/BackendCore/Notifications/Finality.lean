import BackendCore.Notifications.DispatchRules

/-!
# Final states of an outbox row

An update is keyed by the id of the row and does not look at who has claimed it.
The attempts of a row work like a fence: every claim raises them, so a pass that
finds the value of its own claim is the last one to have claimed the row.  Where a
row is finalised only by that pass, sent and dead are final.
-/

set_option autoImplicit false

namespace BackendCore.Notifications

open BackendCore.Python BackendCore.Requests

variable {Tid : Type}

/-! ## What the log says of a row -/

def ClaimedIn (log : List (Tid × NotifyEvent)) (tid : Tid) (row : ClaimedRow) : Prop :=
  ∃ rows, (tid, .claimed rows) ∈ log ∧ row ∈ rows

/-- The event is a commit that changes the row. -/
def NotifyEvent.touches (id : Uuid) : NotifyEvent → Bool
  | .claimed rows => rows.any fun row => row.id = id
  | .wrote row _ => row.id = id
  | _ => false

def NotifyEvent.publishes (id : Uuid) : NotifyEvent → Bool
  | .published row _ => row.id = id
  | _ => false

/-- How often the failure of a row has been published. -/
def publications (id : Uuid) (log : List (Tid × NotifyEvent)) : Nat :=
  log.countP fun entry => entry.2.publishes id

/-- No other pass has claimed the row since. -/
def NotifyState.Owns (state : NotifyState) (claimed : ClaimedRow) : Prop :=
  ∀ row ∈ state.outbox.get claimed.id, row.attempts = claimed.attempts

instance (state : NotifyState) (claimed : ClaimedRow) : Decidable (state.Owns claimed) :=
  inferInstanceAs (Decidable (∀ row ∈ state.outbox.get claimed.id, _))

/-- The condition on a step: a row that is finalised has not been claimed by another pass since
the pass has claimed it. -/
def OwnsRow (state : NotifyState) : Option NotifyEvent → Prop :=
  StepCondition.Holds { writes := state.Owns }

instance (state : NotifyState) (event : Option NotifyEvent) : Decidable (OwnsRow state event) :=
  inferInstanceAs (Decidable (StepCondition.Holds _ event))

/-- The rows, fenced by their attempts.  A claim that is the last one and has written nothing
has its row in sending; what a pass has loaded is no newer than the row. -/
structure FencedAt (state : NotifyState) (log : List (Tid × NotifyEvent)) : Prop where
  standing : ∀ tid claimed, ClaimedIn log tid claimed →
    ∃ row, state.outbox.get claimed.id = some row ∧ claimed.attempts ≤ row.attempts
  fenced : ∀ left right claimed other, ClaimedIn log left claimed → ClaimedIn log right other →
    claimed.id = other.id → claimed.attempts = other.attempts → left = right ∧ claimed = other
  sending : ∀ tid claimed row, ClaimedIn log tid claimed →
    (∀ status, (tid, .wrote claimed status) ∉ log) → state.outbox.get claimed.id = some row →
    row.attempts = claimed.attempts → row.status = .sending
  loaded : ∀ tid claimed found, (tid, .loaded claimed found) ∈ log → ∃ old row,
    found = some old ∧ state.outbox.get claimed.id = some row ∧
    claimed.attempts ≤ old.attempts ∧ old.attempts ≤ row.attempts ∧
    (old.attempts = claimed.attempts → old.status = .sending)

/-- The commits of final states, and the publications. -/
structure FinalAt (state : NotifyState) (log : List (Tid × NotifyEvent)) : Prop where
  owned : ∀ tid claimed status, (tid, .wrote claimed status) ∈ log → ClaimedIn log tid claimed
  current : ∀ tid claimed old status, (tid, .loaded claimed (some old)) ∈ log →
    (tid, .wrote claimed status) ∈ log → old.attempts = claimed.attempts
  recorded : ∀ id row, state.outbox.get id = some row → row.status.isFinal = true →
    ∃ tid claimed, (tid, .wrote claimed row.status) ∈ log ∧ claimed.id = id
  stands : ∀ tid claimed status, (tid, .wrote claimed status) ∈ log → status.isFinal = true →
    ∃ row, state.outbox.get claimed.id = some row ∧ row.status = status ∧
      row.attempts = claimed.attempts
  final : ∀ before after tid claimed status, log = before ++ (tid, .wrote claimed status) :: after →
    status.isFinal = true → ∀ entry ∈ after, entry.2.touches claimed.id = false
  buried : ∀ tid claimed error, (tid, .published claimed error) ∈ log →
    (tid, .wrote claimed .dead) ∈ log
  once : ∀ id, publications id log ≤ 1

structure FinalityAt (state : NotifyState) (log : List (Tid × NotifyEvent)) : Prop where
  fence : FencedAt state log
  final : FinalAt state log

def finalityContract (Tid : Type) : Contract Tid NotifyState NotifyEvent (Except Exc Nat) where
  invariant := FinalityAt
  assumes := fun _ state _ event => OwnsRow state event
  ends := fun _ _ _ => True

/-! ## Growth of the log -/

section Log

variable {log : List (Tid × NotifyEvent)} {tid : Tid} {event : NotifyEvent} {row : ClaimedRow}

theorem claimedBy_own [DecidableEq Tid] : ClaimedBy row (own tid log) ↔ ClaimedIn log tid row := by
  constructor
  · rintro ⟨rows, member, inside⟩
    exact ⟨rows, (mem_own _ _ _).mp member, inside⟩
  · rintro ⟨rows, member, inside⟩
    exact ⟨rows, (mem_own _ _ _).mpr member, inside⟩

theorem ClaimedIn.grow (claimed : ClaimedIn log tid row) (last : Tid × NotifyEvent) :
    ClaimedIn (log ++ [last]) tid row := by
  obtain ⟨rows, member, inside⟩ := claimed
  exact ⟨rows, List.mem_append_left _ member, inside⟩

theorem ClaimedIn.earlier {by_ : Tid} (claimed : ClaimedIn (log ++ [(by_, event)]) tid row)
    (other : ∀ rows, event ≠ .claimed rows) : ClaimedIn log tid row := by
  obtain ⟨rows, member, inside⟩ := claimed
  refine ⟨rows, mem_of_append_one member ?_, inside⟩
  intro same
  cases same
  exact other rows rfl

/-- What has been claimed once a pass has claimed rows. -/
theorem ClaimedIn.of_claim {by_ : Tid} {rows : List ClaimedRow}
    (claimed : ClaimedIn (log ++ [(by_, .claimed rows)]) tid row) :
    ClaimedIn log tid row ∨ tid = by_ ∧ row ∈ rows := by
  obtain ⟨others, member, inside⟩ := claimed
  rcases List.mem_append.mp member with earlier | last
  · exact Or.inl ⟨others, earlier, inside⟩
  · cases List.mem_singleton.mp last
    exact Or.inr ⟨rfl, inside⟩

theorem publications_append (id : Uuid) (log : List (Tid × NotifyEvent)) (tid : Tid)
    (event : NotifyEvent) : publications id (log ++ [(tid, event)]) =
      publications id log + if event.publishes id then 1 else 0 := by
  rw [publications, List.countP_append, publications, List.countP_singleton]

end Log

/-! ## Steps -/

section Steps

variable {settings : DispatchSettings} {state : NotifyState} {log : List (Tid × NotifyEvent)}
variable {tid : Tid} {event : NotifyEvent} {row : ClaimedRow}

/-- A commit of a final state keeps its place when the log grows by an event that leaves its
row alone. -/
theorem final_append (final : FinalAt state log) (event : NotifyEvent)
    (spares : ∀ other claimed status, (other, .wrote claimed status) ∈ log →
      status.isFinal = true → event.touches claimed.id = false)
    (before after : List (Tid × NotifyEvent)) (other : Tid) (claimed : ClaimedRow)
    (status : OutboxStatus)
    (split : log ++ [(tid, event)] = before ++ (other, .wrote claimed status) :: after)
    (isFinal : status.isFinal = true) (entry : Tid × NotifyEvent) (member : entry ∈ after) :
    entry.2.touches claimed.id = false := by
  rcases split_append_one split with ⟨rfl, _⟩ | ⟨rest, rfl⟩
  · have none : after = [] := by
      have lengths := congrArg List.length split
      simp at lengths
      exact lengths
    rw [none] at member
    cases member
  · have tail : after = rest ++ [(tid, event)] := by
      rw [List.append_assoc] at split
      exact (List.cons.inj (List.append_cancel_left split)).2.symm
    rw [tail] at member
    rcases List.mem_append.mp member with earlier | last
    · exact final.final before rest other claimed status rfl isFinal entry earlier
    · rw [List.mem_singleton.mp last]
      exact spares other claimed status (List.mem_append_right _ List.mem_cons_self) isFinal

theorem FencedAt.grow {later : NotifyState} (holds : FencedAt state log)
    (unclaimed : ∀ rows, event ≠ .claimed rows)
    (unloaded : ∀ claimed found, event ≠ .loaded claimed found)
    (same : later.outbox = state.outbox) : FencedAt later (log ++ [(tid, event)]) := by
  refine ⟨?_, ?_, ?_, ?_⟩
  · intro other claimed isClaimed
    rw [same]
    exact holds.standing other claimed (isClaimed.earlier unclaimed)
  · intro left right claimed other leftClaimed rightClaimed
    exact holds.fenced left right claimed other (leftClaimed.earlier unclaimed)
      (rightClaimed.earlier unclaimed)
  · intro other claimed found isClaimed unwritten stored
    rw [same] at stored
    exact holds.sending other claimed found (isClaimed.earlier unclaimed)
      (fun status member => unwritten status (List.mem_append_left _ member)) stored
  · intro other claimed found member
    rw [same]
    refine holds.loaded other claimed found (mem_of_append_one member ?_)
    rintro isLast
    cases isLast
    exact unloaded claimed found rfl

theorem FinalAt.grow {later : NotifyState} (holds : FinalAt state log)
    (unwritten : ∀ claimed status, event ≠ .wrote claimed status)
    (loads : ∀ claimed found, event = .loaded claimed found →
      ∀ status, (tid, .wrote claimed status) ∉ log)
    (publishes : ∀ claimed error, event = .published claimed error →
      (tid, .wrote claimed .dead) ∈ log ∧ publications claimed.id log = 0)
    (spares : ∀ id row, state.outbox.get id = some row → row.status.isFinal = true →
      event.touches id = false)
    (same : ∀ id row, row.status.isFinal = true →
      (later.outbox.get id = some row ↔ state.outbox.get id = some row)) :
    FinalAt later (log ++ [(tid, event)]) := by
  have wrote : ∀ other claimed status, (other, .wrote claimed status) ∈ log ++ [(tid, event)] →
      (other, .wrote claimed status) ∈ log := by
    intro other claimed status member
    refine mem_of_append_one member ?_
    intro isLast
    cases isLast
    exact unwritten claimed status rfl
  refine ⟨?_, ?_, ?_, ?_, ?_, ?_, ?_⟩
  · intro other claimed status member
    exact (holds.owned other claimed status (wrote _ _ _ member)).grow _
  · intro other claimed old status loaded member
    have earlier := wrote _ _ _ member
    refine holds.current other claimed old status (mem_of_append_one loaded ?_) earlier
    intro isLast
    cases isLast
    exact loads claimed (some old) rfl status earlier
  · intro id found stored isFinal
    obtain ⟨other, claimed, member, placed⟩ :=
      holds.recorded id found ((same id found isFinal).mp stored) isFinal
    exact ⟨other, claimed, List.mem_append_left _ member, placed⟩
  · intro other claimed status member isFinal
    obtain ⟨found, stored, rfl, attempts⟩ :=
      holds.stands other claimed status (wrote _ _ _ member) isFinal
    exact ⟨found, (same claimed.id found isFinal).mpr stored, rfl, attempts⟩
  · refine final_append holds event ?_
    intro other claimed status member isFinal
    obtain ⟨found, stored, rfl, _⟩ := holds.stands other claimed status member isFinal
    exact spares claimed.id found stored isFinal
  · intro other claimed error member
    rcases List.mem_append.mp member with earlier | last
    · exact List.mem_append_left _ (holds.buried other claimed error earlier)
    · cases List.mem_singleton.mp last
      exact List.mem_append_left _ (publishes claimed error rfl).1
  · intro id
    rw [publications_append]
    cases event with
    | published claimed error =>
      split
      · rename_i about
        have same : claimed.id = id := of_decide_eq_true about
        rw [← same, (publishes claimed error rfl).2]
      · exact holds.once id
    | _ => exact holds.once id

theorem FinalityAt.reserve {later : NotifyState} {key : SmsKey} {count : Nat}
    (holds : FinalityAt state log) (same : later.outbox = state.outbox) :
    FinalityAt later (log ++ [(tid, .reserved row key count)]) :=
  ⟨holds.fence.grow (fun _ impossible => nomatch impossible)
      (fun _ _ impossible => nomatch impossible) same,
    holds.final.grow (fun _ _ impossible => nomatch impossible)
      (fun _ _ impossible => nomatch impossible) (fun _ _ impossible => nomatch impossible)
      (fun _ _ _ _ => rfl) fun _ _ _ => by rw [same]⟩

theorem FinalityAt.recount (holds : FinalityAt state log) (counters : Redis SmsKey Nat) :
    FinalityAt { state with counters := counters } log := by
  obtain ⟨fence, final⟩ := holds
  exact ⟨⟨fence.standing, fence.fenced, fence.sending, fence.loaded⟩, ⟨final.owned, final.current,
    final.recorded, final.stands, final.final, final.buried, final.once⟩⟩

theorem FinalityAt.submit {key : Option SmsKey} {status : Option Nat}
    (holds : FinalityAt state log) :
    FinalityAt state (log ++ [(tid, .submitted row key status)]) :=
  ⟨holds.fence.grow (fun _ impossible => nomatch impossible)
      (fun _ _ impossible => nomatch impossible) rfl,
    holds.final.grow (fun _ _ impossible => nomatch impossible)
      (fun _ _ impossible => nomatch impossible) (fun _ _ impossible => nomatch impossible)
      (fun _ _ _ _ => rfl) fun _ _ _ => Iff.rfl⟩

/-! ### Claims -/

theorem not_claimed_of_final {pass : Pass} {id : Uuid} {found : NotificationOutbox}
    (stored : state.outbox.get id = some found) (isFinal : found.status.isFinal = true) :
    id ∉ (claimedRows pass state).map ClaimedRow.id := by
  intro chosen
  obtain ⟨claimed, member, rfl⟩ := List.mem_map.mp chosen
  obtain ⟨due, isStored, isDue, _⟩ := mem_claimedRows member
  rw [stored] at isStored
  cases isStored
  simp only [NotificationOutbox.isDue, Bool.and_eq_true, Bool.or_eq_true,
    decide_eq_true_eq] at isDue
  rcases isDue.1 with (status | status) | status
  · rw [status] at isFinal
    cases isFinal
  · rw [status] at isFinal
    cases isFinal
  · rw [status] at isFinal
    cases isFinal

theorem claimTable_get_claimed {pass : Pass} {id : Uuid} {found : NotificationOutbox}
    (stored : state.outbox.get id = some found)
    (chosen : id ∈ (claimedRows pass state).map ClaimedRow.id) :
    (claimTable settings pass state).get id = some (leaseRow settings state.now found) := by
  have placed : found.id = id := Table.key_of_get stored
  rw [claimTable, Table.get_mapRows, stored, Option.map_some, placed, if_pos chosen]

theorem claimTable_get_other {pass : Pass} {id : Uuid}
    (other : id ∉ (claimedRows pass state).map ClaimedRow.id) :
    (claimTable settings pass state).get id = state.outbox.get id := by
  rw [claimTable, Table.get_mapRows]
  cases stored : state.outbox.get id with
  | none => rfl
  | some found =>
    have placed : found.id = id := Table.key_of_get stored
    rw [Option.map_some, placed, if_neg other]

theorem claimTable_keeps (settings : DispatchSettings) (pass : Pass) {id : Uuid}
    {found : NotificationOutbox}
    (stored : state.outbox.get id = some found) :
    ∃ new, (claimTable settings pass state).get id = some new ∧ found.attempts ≤ new.attempts := by
  by_cases chosen : id ∈ (claimedRows pass state).map ClaimedRow.id
  · exact ⟨_, claimTable_get_claimed stored chosen, Nat.le_succ _⟩
  · exact ⟨found, (claimTable_get_other chosen).trans stored, Nat.le_refl _⟩

theorem FencedAt.claim {pass : Pass} (holds : FencedAt state log) :
    FencedAt { state with outbox := claimTable settings pass state }
      (log ++ [(tid, .claimed (claimedRows pass state))]) := by
  -- a new claim is above every earlier claim of its row
  have above : ∀ other old new, ClaimedIn log other old → new ∈ claimedRows pass state →
      old.id = new.id → old.attempts < new.attempts := by
    intro other old new isClaimed member same
    obtain ⟨found, stored, bound⟩ := holds.standing other old isClaimed
    obtain ⟨due, isStored, _, rfl⟩ := mem_claimedRows member
    rw [← same, stored] at isStored
    cases isStored
    exact Nat.lt_succ_of_le bound
  refine ⟨?_, ?_, ?_, ?_⟩
  · intro other claimed isClaimed
    rcases isClaimed.of_claim with earlier | ⟨_, member⟩
    · obtain ⟨found, stored, bound⟩ := holds.standing other claimed earlier
      obtain ⟨new, isNew, grows⟩ := claimTable_keeps settings pass stored
      exact ⟨new, isNew, bound.trans grows⟩
    · obtain ⟨due, stored, _, rfl⟩ := mem_claimedRows member
      exact ⟨_, claimTable_get_claimed stored (List.mem_map_of_mem member), Nat.le_refl _⟩
  · intro left right claimed other leftClaimed rightClaimed sameId sameAttempts
    rcases leftClaimed.of_claim with leftEarlier | ⟨rfl, leftMember⟩
    · rcases rightClaimed.of_claim with rightEarlier | ⟨rfl, rightMember⟩
      · exact holds.fenced left right claimed other leftEarlier rightEarlier sameId sameAttempts
      · have less := above left claimed other leftEarlier rightMember sameId
        omega
    · rcases rightClaimed.of_claim with rightEarlier | ⟨rfl, rightMember⟩
      · have less := above right other claimed rightEarlier leftMember sameId.symm
        omega
      · refine ⟨rfl, ?_⟩
        obtain ⟨due, stored, _, rfl⟩ := mem_claimedRows leftMember
        obtain ⟨twin, twinStored, _, rfl⟩ := mem_claimedRows rightMember
        rw [← sameId, stored] at twinStored
        cases twinStored
        rfl
  · intro other claimed found isClaimed unwritten stored attempts
    change (claimTable settings pass state).get claimed.id = some found at stored
    by_cases chosen : claimed.id ∈ (claimedRows pass state).map ClaimedRow.id
    · obtain ⟨new, member, same⟩ := List.mem_map.mp chosen
      obtain ⟨due, dueStored, _, _⟩ := mem_claimedRows member
      rw [same] at dueStored
      rw [claimTable_get_claimed dueStored chosen] at stored
      cases stored
      rfl
    · rw [claimTable_get_other chosen] at stored
      rcases isClaimed.of_claim with earlier | ⟨_, member⟩
      · exact holds.sending other claimed found earlier
          (fun status inside => unwritten status (List.mem_append_left _ inside)) stored attempts
      · exact (chosen (List.mem_map_of_mem member)).elim
  · intro other claimed found member
    have earlier : (other, .loaded claimed found) ∈ log := by
      refine mem_of_append_one member ?_
      intro isLast
      cases isLast
    obtain ⟨old, current, isOld, stored, low, high, status⟩ :=
      holds.loaded other claimed found earlier
    obtain ⟨new, isNew, grows⟩ := claimTable_keeps settings pass stored
    exact ⟨old, new, isOld, isNew, low, high.trans grows, status⟩

theorem FinalAt.claim {pass : Pass} (holds : FinalAt state log) :
    FinalAt { state with outbox := claimTable settings pass state }
      (log ++ [(tid, .claimed (claimedRows pass state))]) := by
  refine holds.grow (fun _ _ impossible => nomatch impossible)
    (fun _ _ impossible => nomatch impossible) (fun _ _ impossible => nomatch impossible) ?_ ?_
  · intro id found stored isFinal
    have other : id ∉ (claimedRows pass state).map ClaimedRow.id :=
      not_claimed_of_final stored isFinal
    refine List.any_eq_false.mpr ?_
    intro claimed member same
    exact other (List.mem_map.mpr ⟨claimed, member, of_decide_eq_true same⟩)
  · intro id found isFinal
    change (claimTable settings pass state).get id = some found ↔ _
    by_cases chosen : id ∈ (claimedRows pass state).map ClaimedRow.id
    · constructor
      · intro stored
        obtain ⟨claimed, member, rfl⟩ := List.mem_map.mp chosen
        obtain ⟨due, dueStored, _⟩ := mem_claimedRows member
        rw [claimTable_get_claimed dueStored chosen] at stored
        cases stored
        cases isFinal
      · intro stored
        exact (not_claimed_of_final stored isFinal chosen).elim
    · rw [claimTable_get_other chosen]

/-! ### Updates -/

theorem FencedAt.load (holds : FencedAt state log) (claimed : ClaimedIn log tid row)
    (unwritten : ∀ status, (tid, .wrote row status) ∉ log) :
    FencedAt state (log ++ [(tid, .loaded row (state.outbox.get row.id))]) := by
  have unclaimed : ∀ rows, NotifyEvent.loaded row (state.outbox.get row.id) ≠ .claimed rows :=
    fun _ impossible => nomatch impossible
  refine ⟨?_, ?_, ?_, ?_⟩
  · intro other claimed isClaimed
    exact holds.standing other claimed (isClaimed.earlier unclaimed)
  · intro left right claimed other leftClaimed rightClaimed
    exact holds.fenced left right claimed other (leftClaimed.earlier unclaimed)
      (rightClaimed.earlier unclaimed)
  · intro other claimed found isClaimed unwritten
    exact holds.sending other claimed found (isClaimed.earlier unclaimed)
      fun status member => unwritten status (List.mem_append_left _ member)
  · intro other loaded found member
    rcases List.mem_append.mp member with earlier | last
    · exact holds.loaded other loaded found earlier
    · cases List.mem_singleton.mp last
      obtain ⟨current, stored, bound⟩ := holds.standing tid row claimed
      exact ⟨current, current, stored, stored, bound, Nat.le_refl _,
        holds.sending tid row current claimed unwritten stored⟩

theorem FinalAt.load (holds : FinalAt state log) (found : Option NotificationOutbox)
    (unwritten : ∀ status, (tid, .wrote row status) ∉ log) :
    FinalAt state (log ++ [(tid, .loaded row found)]) := by
  refine holds.grow (fun _ _ impossible => nomatch impossible) ?_
    (fun _ _ impossible => nomatch impossible) (fun _ _ _ _ => rfl) fun _ _ _ => Iff.rfl
  intro claimed _ same
  cases same
  exact unwritten

theorem flushTable_get {id : Uuid} {loaded target current : NotificationOutbox}
    (stored : state.outbox.get row.id = some current) :
    (flushTable row.id loaded target state.outbox).get id =
      if id = row.id then some (flushRow loaded target current) else state.outbox.get id := by
  rw [flushTable, Table.get_mapRows]
  split
  · rename_i here
    have placed : current.id = row.id := Table.key_of_get stored
    rw [here, stored, Option.map_some, if_pos placed]
  · rename_i elsewhere
    cases found : state.outbox.get id with
    | none => rfl
    | some other =>
      have placed : other.id = id := Table.key_of_get found
      rw [Option.map_some, if_neg]
      rw [placed]
      exact elsewhere

section Write

variable {loaded target current : NotificationOutbox}

theorem FencedAt.write (holds : FencedAt state log) (claimed : ClaimedIn log tid row)
    (stored : state.outbox.get row.id = some current) (owns : current.attempts = row.attempts) :
    FencedAt { state with outbox := flushTable row.id loaded target state.outbox }
      (log ++ [(tid, .wrote row (flushRow loaded target current).status)]) := by
  have unclaimed : ∀ rows, NotifyEvent.wrote row (flushRow loaded target current).status ≠
      .claimed rows := fun _ impossible => nomatch impossible
  have kept : ∀ id found, state.outbox.get id = some found →
      ∃ new, (flushTable row.id loaded target state.outbox).get id = some new ∧
        new.attempts = found.attempts := by
    intro id found inside
    rw [flushTable_get stored]
    split
    · rename_i here
      rw [here, stored] at inside
      cases inside
      exact ⟨_, rfl, rfl⟩
    · exact ⟨found, inside, rfl⟩
  refine ⟨?_, ?_, ?_, ?_⟩
  · intro other earlier isClaimed
    obtain ⟨found, inside, bound⟩ := holds.standing other earlier (isClaimed.earlier unclaimed)
    obtain ⟨new, isNew, same⟩ := kept _ found inside
    exact ⟨new, isNew, same.symm ▸ bound⟩
  · intro left right first second leftClaimed rightClaimed
    exact holds.fenced left right first second (leftClaimed.earlier unclaimed)
      (rightClaimed.earlier unclaimed)
  · intro other earlier found isClaimed unwritten inside attempts
    have before := isClaimed.earlier unclaimed
    change (flushTable row.id loaded target state.outbox).get earlier.id = some found at inside
    rw [flushTable_get stored] at inside
    split at inside
    · -- the claim that writes is the only one with these attempts
      rename_i here
      cases inside
      have same : current.attempts = earlier.attempts := attempts
      obtain ⟨rfl, rfl⟩ := holds.fenced other tid earlier row before claimed here
        (same.symm.trans owns)
      exact (unwritten _ (List.mem_append_right _ List.mem_cons_self)).elim
    · exact holds.sending other earlier found before
        (fun status member => unwritten status (List.mem_append_left _ member)) inside attempts
  · intro other earlier found member
    have before : (other, .loaded earlier found) ∈ log := by
      refine mem_of_append_one member ?_
      intro isLast
      cases isLast
    obtain ⟨old, now, isOld, inside, low, high, status⟩ := holds.loaded other earlier found before
    obtain ⟨new, isNew, same⟩ := kept _ now inside
    exact ⟨old, new, isOld, isNew, low, same.symm ▸ high, status⟩

theorem FinalAt.write (holds : FinalAt state log) (fence : FencedAt state log)
    (claimed : ClaimedIn log tid row) (unwritten : ∀ status, (tid, .wrote row status) ∉ log)
    (stored : state.outbox.get row.id = some current) (owns : current.attempts = row.attempts) :
    FinalAt { state with outbox := flushTable row.id loaded target state.outbox }
      (log ++ [(tid, .wrote row (flushRow loaded target current).status)]) := by
  have isSending := fence.sending tid row current claimed unwritten stored owns
  -- no final state of the row has been committed
  have elsewhere : ∀ other earlier status, (other, .wrote earlier status) ∈ log →
      status.isFinal = true → earlier.id ≠ row.id := by
    intro other earlier status member isFinal same
    obtain ⟨found, inside, rfl, _⟩ := holds.stands other earlier status member isFinal
    rw [same, stored] at inside
    cases inside
    rw [isSending] at isFinal
    cases isFinal
  refine ⟨?_, ?_, ?_, ?_, ?_, ?_, ?_⟩
  · intro other earlier status member
    rcases List.mem_append.mp member with before | last
    · exact (holds.owned other earlier status before).grow _
    · cases List.mem_singleton.mp last
      exact claimed.grow _
  · intro other earlier old status loadedBefore member
    have load : (other, .loaded earlier (some old)) ∈ log := by
      refine mem_of_append_one loadedBefore ?_
      intro isLast
      cases isLast
    rcases List.mem_append.mp member with before | last
    · exact holds.current other earlier old status load before
    · cases List.mem_singleton.mp last
      obtain ⟨same, now, isOld, inside, low, high, _⟩ := fence.loaded tid row (some old) load
      cases isOld
      rw [stored] at inside
      cases inside
      omega
  · intro id found inside isFinal
    change (flushTable row.id loaded target state.outbox).get id = some found at inside
    rw [flushTable_get stored] at inside
    split at inside
    · rename_i here
      cases inside
      exact ⟨tid, row, List.mem_append_right _ List.mem_cons_self, here.symm⟩
    · obtain ⟨other, earlier, member, placed⟩ := holds.recorded id found inside isFinal
      exact ⟨other, earlier, List.mem_append_left _ member, placed⟩
  · intro other earlier status member isFinal
    change ∃ found, (flushTable row.id loaded target state.outbox).get earlier.id = some found ∧ _
    rw [flushTable_get stored]
    rcases List.mem_append.mp member with before | last
    · rw [if_neg (elsewhere other earlier status before isFinal)]
      exact holds.stands other earlier status before isFinal
    · cases List.mem_singleton.mp last
      exact ⟨_, if_pos rfl, rfl, owns⟩
  · refine final_append holds _ ?_
    intro other earlier status member isFinal
    refine decide_eq_false ?_
    exact fun same => elsewhere other earlier status member isFinal same.symm
  · intro other earlier error member
    refine List.mem_append_left _ (holds.buried other earlier error (mem_of_append_one member ?_))
    intro isLast
    cases isLast
  · intro id
    rw [publications_append]
    exact holds.once id

end Write

/-! ### Publications -/

theorem FinalityAt.dead_of_buried [DecidableEq Tid] (holds : FinalityAt state log)
    (buried : Buried row (own tid log)) : (tid, .wrote row .dead) ∈ log := by
  rcases buried.updated with missing | ⟨old, status, loaded, wrote, isDead⟩
  · obtain ⟨old, _, impossible, _⟩ :=
      holds.fence.loaded tid row none ((mem_own _ _ _).mp missing)
    cases impossible
  · rw [mem_own] at loaded wrote
    obtain ⟨same, _, isOld, _, _, _, whileSending⟩ := holds.fence.loaded tid row (some old) loaded
    cases isOld
    have isSending := whileSending (holds.final.current tid row old status loaded wrote)
    rcases isDead with rfl | already
    · exact wrote
    · rw [isSending] at already
      cases already

theorem FinalityAt.publish [DecidableEq Tid] {error : String} (holds : FinalityAt state log)
    (buried : Buried row (own tid log)) :
    FinalityAt state (log ++ [(tid, .published row error)]) := by
  have wrote := holds.dead_of_buried buried
  obtain ⟨current, stored, _, attempts⟩ := holds.final.stands tid row .dead wrote rfl
  -- another publication would be one of the same claim
  have first : publications row.id log = 0 := by
    refine List.countP_eq_zero.mpr ?_
    rintro ⟨other, event⟩ member publishes
    cases event with
    | published claimed text =>
      have same : claimed.id = row.id := of_decide_eq_true publishes
      have dead := holds.final.buried other claimed text member
      obtain ⟨found, inside, _, twin⟩ := holds.final.stands other claimed .dead dead rfl
      rw [same, stored] at inside
      cases inside
      obtain ⟨rfl, rfl⟩ := holds.fence.fenced other tid claimed row
        (holds.final.owned other claimed .dead dead) (holds.final.owned tid row .dead wrote) same
        (twin.symm.trans attempts)
      exact buried.unpublished text ((mem_own _ _ _).mpr member)
    | _ => cases publishes
  refine ⟨holds.fence.grow (fun _ impossible => nomatch impossible)
    (fun _ _ impossible => nomatch impossible) rfl, ?_⟩
  refine holds.final.grow (fun _ _ impossible => nomatch impossible)
    (fun _ _ impossible => nomatch impossible) ?_ (fun _ _ _ _ => rfl) fun _ _ _ => Iff.rfl
  intro claimed text same
  cases same
  exact ⟨wrote, first⟩

theorem FinalityAt.later {later : NotifyState} (holds : FinalityAt state log)
    (passes : state.Passes later) : FinalityAt later log := by
  obtain ⟨fence, final⟩ := holds
  have old : ∀ id found row, state.outbox.get id = some found → later.outbox.get id = some row →
      state.outbox.get id = some row := by
    intro id found row inside stored
    rw [passes.kept id found inside] at stored
    cases stored
    exact inside
  refine ⟨⟨?_, fence.fenced, ?_, ?_⟩, ⟨final.owned, final.current, ?_, ?_, final.final,
    final.buried, final.once⟩⟩
  · intro other claimed isClaimed
    obtain ⟨found, stored, bound⟩ := fence.standing other claimed isClaimed
    exact ⟨found, passes.kept _ _ stored, bound⟩
  · intro other claimed row isClaimed unwritten stored
    obtain ⟨found, inside, _⟩ := fence.standing other claimed isClaimed
    exact fence.sending other claimed row isClaimed unwritten (old _ _ _ inside stored)
  · intro other claimed found member
    obtain ⟨loaded, row, isLoaded, stored, rest⟩ := fence.loaded other claimed found member
    exact ⟨loaded, row, isLoaded, passes.kept _ _ stored, rest⟩
  · intro id row stored isFinal
    rcases passes.queued id row stored with before | queued
    · exact final.recorded id row before isFinal
    · rw [queued.status] at isFinal
      cases isFinal
  · intro other claimed status member isFinal
    obtain ⟨row, stored, rest⟩ := final.stands other claimed status member isFinal
    exact ⟨row, passes.kept _ _ stored, rest⟩

end Steps

variable [DecidableEq Tid]

theorem finality_rules (settings : DispatchSettings) (passes : Tid → Pass) :
    DispatchRules settings passes (finalityContract Tid) where
  ends := fun _ _ _ _ => trivial
  claim := fun _ _ _ holds _ _ _ => ⟨holds.fence.claim, holds.final.claim⟩
  reserve := fun _ _ _ _ _ holds _ _ _ => FinalityAt.reserve holds rfl
  expire := fun _ _ _ _ _ holds _ => holds.recount _
  send := by
    intro tid script row key mine next unfinished _ _ rest
    have neutral : ∀ status state log, (finalityContract Tid).invariant state log →
        (finalityContract Tid).invariant state (log ++ [(tid, .submitted row key status)]) :=
      fun _ _ _ holds => FinalityAt.submit holds
    exact eskizSend_keeps neutral unfinished rest
  load := by
    intro tid row state log holds unfinished _
    have claimed := claimedBy_own.mp unfinished.claimed
    have unwritten : ∀ status, (tid, .wrote row status) ∉ log := by
      intro status member
      cases unfinished.unfinished _ ((mem_own _ _ _).mpr member) rfl
    exact ⟨holds.fence.load claimed unwritten, holds.final.load _ unwritten⟩
  write := by
    intro tid row loaded target current state log holds isLoaded _ stored owns
    have claimed := claimedBy_own.mp isLoaded.claimed
    have unwritten : ∀ status, (tid, .wrote row status) ∉ log :=
      fun status member => isLoaded.unwritten status ((mem_own _ _ _).mpr member)
    exact ⟨holds.fence.write claimed stored (owns current stored),
      holds.final.write holds.fence claimed unwritten stored (owns current stored)⟩
  publish := fun _ _ _ _ _ holds buried _ => holds.publish buried

omit [DecidableEq Tid] in
theorem finality_start (state : NotifyState)
    (queued : ∀ id row, state.outbox.get id = some row → row.Queued) :
    FinalityAt state ([] : List (Tid × NotifyEvent)) := by
  have unclaimed : ∀ tid claimed, ¬ClaimedIn ([] : List (Tid × NotifyEvent)) tid claimed := by
    rintro tid claimed ⟨rows, member, _⟩
    cases member
  refine ⟨⟨?_, ?_, ?_, ?_⟩, ⟨?_, ?_, ?_, ?_, ?_, ?_, fun _ => Nat.zero_le _⟩⟩
  · exact fun tid claimed isClaimed => (unclaimed tid claimed isClaimed).elim
  · exact fun left _ claimed _ isClaimed => (unclaimed left claimed isClaimed).elim
  · exact fun tid claimed _ isClaimed => (unclaimed tid claimed isClaimed).elim
  · exact fun _ _ _ member => nomatch member
  · exact fun _ _ _ member => nomatch member
  · exact fun _ _ _ _ member => nomatch member
  · intro id row stored isFinal
    rw [(queued id row stored).status] at isFinal
    cases isFinal
  · exact fun _ _ _ member => nomatch member
  · intro before after tid claimed status split
    cases before with
    | nil => cases split
    | cons first rest => cases split
  · exact fun _ _ _ member => nomatch member

/-- In every such run a row that has committed sent or dead is committed no more and keeps its
status, its failure is published once at most, and never that of a row that was sent. -/
theorem final_states_are_final (settings : DispatchSettings) (passes : Tid → Pass)
    (state : NotifyState) (queued : ∀ id row, state.outbox.get id = some row → row.Queued)
    (world : NotifyWorld Tid)
    (run : Run NotifyState.Passes (fun world tid => OwnsRow world.shared (world.event tid))
      (dispatchStart settings passes state) world) :
    (∀ before after tid claimed status,
      world.log = before ++ (tid, .wrote claimed status) :: after → status.isFinal = true →
        (∀ entry ∈ after, entry.2.touches claimed.id = false) ∧
        ∃ row, world.shared.outbox.get claimed.id = some row ∧ row.status = status) ∧
    (∀ id row, world.shared.outbox.get id = some row → row.status.isFinal = true →
      ∃ tid claimed, (tid, .wrote claimed row.status) ∈ world.log ∧ claimed.id = id) ∧
    ∀ id, publications id world.log ≤ 1 ∧
      ((∃ tid claimed, (tid, .wrote claimed .sent) ∈ world.log ∧ claimed.id = id) →
        publications id world.log = 0) := by
  obtain ⟨holds, _⟩ := run.keeps (finalityContract Tid) (finality_start state queued)
    (finality_rules settings passes).dispatch
    (fun _ _ _ passed holds => holds.later passed)
    (fun _ _ owns _ _ => owns)
  refine ⟨?_, holds.final.recorded, fun id => ⟨holds.final.once id, ?_⟩⟩
  · intro before after tid claimed status split isFinal
    refine ⟨holds.final.final before after tid claimed status split isFinal, ?_⟩
    have member : (tid, .wrote claimed status) ∈ world.log := by
      rw [split]
      exact List.mem_append_right _ List.mem_cons_self
    obtain ⟨row, stored, same, _⟩ := holds.final.stands tid claimed status member isFinal
    exact ⟨row, stored, same⟩
  · rintro ⟨tid, claimed, sent, rfl⟩
    obtain ⟨row, stored, isSent, _⟩ := holds.final.stands tid claimed .sent sent rfl
    refine List.countP_eq_zero.mpr ?_
    rintro ⟨other, event⟩ member publishes
    cases event with
    | published buried error =>
      have same : buried.id = claimed.id := of_decide_eq_true publishes
      have dead := holds.final.buried other buried error member
      obtain ⟨found, inside, isDead, _⟩ := holds.final.stands other buried .dead dead rfl
      rw [same, stored] at inside
      cases inside
      rw [isSent] at isDead
      cases isDead
    | _ => cases publishes

namespace Sample

/-- The first pass is slow and fails in the end; the second one sends. -/
def slowAndFast : Fin 2 → Pass :=
  ![⟨[], 50, fun _ => delivers (.failed "timed out")⟩, ⟨[], 50, fun _ => delivers (.sent none)⟩]

def twoPasses : NotifyWorld (Fin 2) := dispatchStart settings slowAndFast oneQueued

/-- The lease of the first pass has run out. -/
def leaseOver : NotifyWorld (Fin 2) :=
  (twoPasses.act 0).wait { (twoPasses.act 0).shared with now := 302000 }

def sentBySecond : NotifyWorld (Fin 2) := leaseOver.follow [.act 1, .act 1, .act 1]

def failedByFirst : NotifyWorld (Fin 2) := sentBySecond.follow [.act 0, .act 0, .act 0]

theorem sent_row_turns_failed :
    Run NotifyState.Passes (fun _ _ => True) twoPasses sentBySecond ∧
      Run NotifyState.Passes (fun _ _ => True) sentBySecond failedByFirst ∧
      (sentBySecond.shared.outbox.get 7).map NotificationOutbox.status = some .sent ∧
      (failedByFirst.shared.outbox.get 7).map NotificationOutbox.status = some .failed := by
  have passes : (twoPasses.act 0).shared.Passes
      { (twoPasses.act 0).shared with now := 302000 } := by
    refine ⟨?_, rfl, fun _ _ found => found, fun _ _ found => Or.inl found⟩
    change (1000 : Int) ≤ 302000
    decide
  have over_ : Run NotifyState.Passes (fun _ _ => True) twoPasses leaseOver :=
    (Run.start.act 0 trivial).wait _ passes
  exact ⟨over_.follow _ ⟨trivial, trivial, trivial, trivial⟩,
    Run.start.follow _ ⟨trivial, trivial, trivial, trivial⟩, by decide +kernel, by decide +kernel⟩

/-- The first pass fails at once, and the row is due again before its lease would be over. -/
def dueAgain : NotifyWorld (Fin 2) :=
  (twoPasses.follow [.act 0, .act 0, .act 0, .act 0]).wait
    { (twoPasses.follow [.act 0, .act 0, .act 0, .act 0]).shared with now := 61000 }

theorem sent_row_stays_sent :
    ∃ world : NotifyWorld (Fin 2),
      Run NotifyState.Passes (fun world tid => OwnsRow world.shared (world.event tid)) twoPasses
        world ∧
      (∃ claimed, (0, .wrote claimed .failed) ∈ world.log ∧ claimed.id = 7) ∧
      (∃ tid claimed, (tid, .wrote claimed .sent) ∈ world.log ∧ claimed.id = 7) ∧
      publications 7 world.log = 0 := by
  have passes : (twoPasses.follow [.act 0, .act 0, .act 0, .act 0]).shared.Passes
      dueAgain.shared := by
    refine ⟨?_, rfl, fun _ _ found => found, fun _ _ found => Or.inl found⟩
    change (1000 : Int) ≤ 61000
    decide
  have failed : Run NotifyState.Passes (fun world tid => OwnsRow world.shared (world.event tid))
      twoPasses (twoPasses.follow [.act 0, .act 0, .act 0, .act 0]) :=
    Run.start.follow _ ⟨by decide +kernel, by decide +kernel, by decide +kernel,
      by decide +kernel, trivial⟩
  have run : Run NotifyState.Passes (fun world tid => OwnsRow world.shared (world.event tid))
      twoPasses (dueAgain.follow [.act 1, .act 1, .act 1]) :=
    (failed.wait _ passes).follow _
      ⟨by decide +kernel, by decide +kernel, by decide +kernel, trivial⟩
  have first : ((0 : Fin 2), NotifyEvent.wrote (toClaimed queuedRow) .failed) ∈
      (dueAgain.follow [.act 1, .act 1, .act 1]).log := by decide +kernel
  have second : ((1 : Fin 2), NotifyEvent.wrote { toClaimed queuedRow with attempts := 2 } .sent) ∈
      (dueAgain.follow [.act 1, .act 1, .act 1]).log := by decide +kernel
  have sent : ∃ tid claimed, (tid, NotifyEvent.wrote claimed .sent) ∈
      (dueAgain.follow [.act 1, .act 1, .act 1]).log ∧ claimed.id = 7 := ⟨_, _, second, rfl⟩
  refine ⟨_, run, ⟨_, first, rfl⟩, sent, ?_⟩
  refine ((final_states_are_final settings slowAndFast oneQueued ?_ _ run).2.2 7).2 sent
  intro id row found
  cases List.mem_singleton.mp (Table.mem_of_get found)
  exact ⟨rfl, rfl⟩

end Sample

end BackendCore.Notifications
