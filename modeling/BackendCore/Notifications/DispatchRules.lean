import BackendCore.Notifications.Dispatcher

/-!
# What a dispatch pass does, step by step

A contract of runs of dispatch passes is kept when each kind of step keeps it: a
claim, a reservation, the call to a channel, the two halves of an update and a
publication.  The walk through the handling of the rows is made once here; a step
is given what the pass has done to the row before.
-/

set_option autoImplicit false

namespace BackendCore.Notifications

open BackendCore.Python BackendCore.Requests

/-! ## What a pass has left of a row -/

/-- The row an event is about; a claim is about many. -/
def NotifyEvent.row? : NotifyEvent → Option ClaimedRow
  | .claimed _ => none
  | .loaded row _ => some row
  | .wrote row _ => some row
  | .published row _ => some row
  | .reserved row _ _ => some row
  | .submitted row _ _ => some row

/-- The event belongs to an update or follows it. -/
def NotifyEvent.isFinalizing : NotifyEvent → Bool
  | .loaded _ _ => true
  | .wrote _ _ => true
  | .published _ _ => true
  | _ => false

/-- The rows an event claims. -/
def NotifyEvent.rows : NotifyEvent → List ClaimedRow
  | .claimed rows => rows
  | _ => []

def ClaimedBy (row : ClaimedRow) (mine : List NotifyEvent) : Prop :=
  ∃ rows, .claimed rows ∈ mine ∧ row ∈ rows

def Untouched (row : ClaimedRow) (mine : List NotifyEvent) : Prop :=
  ∀ event ∈ mine, event.row? ≠ some row

/-- The pass has claimed the row and has not begun to finalise it. -/
structure Unfinished (row : ClaimedRow) (mine : List NotifyEvent) : Prop where
  claimed : ClaimedBy row mine
  unfinished : ∀ event ∈ mine, event.row? = some row → event.isFinalizing = false

/-- The rows the pass has still to handle. -/
structure Waiting (todo : List ClaimedRow) (mine : List NotifyEvent) : Prop where
  claimed : ∀ row ∈ todo, ClaimedBy row mine
  untouched : ∀ row ∈ todo, Untouched row mine
  distinct : todo.Nodup

/-- More events, all about one row. -/
def Extends (row : ClaimedRow) (mine more : List NotifyEvent) : Prop :=
  ∃ added, more = mine ++ added ∧ ∀ event ∈ added, event.row? = some row

variable {row : ClaimedRow} {mine more : List NotifyEvent}

theorem Extends.refl (row : ClaimedRow) (mine : List NotifyEvent) : Extends row mine mine :=
  ⟨[], (List.append_nil _).symm, fun _ member => nomatch member⟩

theorem Extends.add {event : NotifyEvent} (extends_ : Extends row mine more)
    (about : event.row? = some row) : Extends row mine (more ++ [event]) := by
  obtain ⟨added, rfl, all⟩ := extends_
  refine ⟨added ++ [event], List.append_assoc .., ?_⟩
  intro other member
  rcases List.mem_append.mp member with earlier | last
  · exact all other earlier
  · rw [List.mem_singleton.mp last]
    exact about

theorem Extends.trans {last : List NotifyEvent} (first : Extends row mine more)
    (second : Extends row more last) : Extends row mine last := by
  obtain ⟨added, rfl, all⟩ := first
  obtain ⟨further, rfl, allFurther⟩ := second
  refine ⟨added ++ further, List.append_assoc .., ?_⟩
  intro event member
  exact (List.mem_append.mp member).elim (all event) (allFurther event)

theorem Extends.subset (extends_ : Extends row mine more) : mine ⊆ more := by
  obtain ⟨added, rfl, _⟩ := extends_
  exact List.subset_append_left mine added

theorem ClaimedBy.mono (claimed : ClaimedBy row mine) (grows : mine ⊆ more) :
    ClaimedBy row more := by
  obtain ⟨rows, member, inside⟩ := claimed
  exact ⟨rows, grows member, inside⟩

theorem Unfinished.add {event : NotifyEvent} (unfinished : Unfinished row mine)
    (attempt : event.isFinalizing = false) : Unfinished row (mine ++ [event]) := by
  refine ⟨unfinished.claimed.mono (List.subset_append_left _ _), ?_⟩
  intro other member about
  rcases List.mem_append.mp member with earlier | last
  · exact unfinished.unfinished other earlier about
  · rw [List.mem_singleton.mp last]
    exact attempt

theorem Waiting.head {rest : List ClaimedRow} (waiting : Waiting (row :: rest) mine) :
    Unfinished row mine :=
  ⟨waiting.claimed row List.mem_cons_self, fun event member about =>
    (waiting.untouched row List.mem_cons_self event member about).elim⟩

theorem Waiting.rest {rest : List ClaimedRow} (waiting : Waiting (row :: rest) mine)
    (extends_ : Extends row mine more) : Waiting rest more := by
  have distinct := List.nodup_cons.mp waiting.distinct
  refine ⟨?_, ?_, distinct.2⟩
  · intro other member
    exact (waiting.claimed other (List.mem_cons_of_mem _ member)).mono extends_.subset
  · intro other member event inside about
    obtain ⟨added, rfl, all⟩ := extends_
    rcases List.mem_append.mp inside with earlier | new
    · exact waiting.untouched other (List.mem_cons_of_mem _ member) event earlier about
    · have same : some row = some other := (all event new).symm.trans about
      cases same
      exact distinct.1 member

theorem Extends.claimedBy {other : ClaimedRow} (extends_ : Extends row mine more)
    (claimed : ClaimedBy other more) : ClaimedBy other mine := by
  obtain ⟨added, rfl, all⟩ := extends_
  obtain ⟨rows, member, inside⟩ := claimed
  rcases List.mem_append.mp member with earlier | new
  · exact ⟨rows, earlier, inside⟩
  · cases all _ new

/-! ## Conditions on a run -/

/-- A condition on the steps of passes, by the event a step leaves. -/
structure StepCondition where
  claims : List ClaimedRow → Prop := fun _ => True
  writes : ClaimedRow → Prop := fun _ => True
  reserves : SmsKey → Prop := fun _ => True
  submits : Option Nat → Prop := fun _ => True

def StepCondition.Holds (condition : StepCondition) : Option NotifyEvent → Prop
  | some (.claimed rows) => condition.claims rows
  | some (.wrote row _) => condition.writes row
  | some (.reserved _ key _) => condition.reserves key
  | some (.submitted _ _ status) => condition.submits status
  | _ => True

instance (condition : StepCondition) [∀ rows, Decidable (condition.claims rows)]
    [∀ row, Decidable (condition.writes row)] [∀ key, Decidable (condition.reserves key)]
    [∀ status, Decidable (condition.submits status)] :
    (event : Option NotifyEvent) → Decidable (condition.Holds event)
  | some (.claimed rows) => inferInstanceAs (Decidable (condition.claims rows))
  | some (.wrote row _) => inferInstanceAs (Decidable (condition.writes row))
  | some (.reserved _ key _) => inferInstanceAs (Decidable (condition.reserves key))
  | some (.submitted _ _ status) => inferInstanceAs (Decidable (condition.submits status))
  | some (.loaded _ _) => inferInstanceAs (Decidable True)
  | some (.published _ _) => inferInstanceAs (Decidable True)
  | none => inferInstanceAs (Decidable True)

/-- Nothing raises while the row is handled but the call to the channel. -/
def Handling.finalizes (settings : DispatchSettings) (handling : Handling) (row : ClaimedRow) :
    Bool :=
  handling.update ≠ .refused &&
    match handling.render, handling.resolve with
    | .notFound _, _ => true
    | .rendered, .channel configured =>
      !(row.channel = smsChannel && configured && settings.smsDailyCap ≠ 0) ||
        (handling.incr = .ok && handling.expire = .ok)
    | _, _ => false

/-! ## Rules -/

/-- The status an update of a row aims at. -/
def Aims (settings : DispatchSettings) (row : ClaimedRow) (status : OutboxStatus) : Prop :=
  status = .sent ∨ status = .dead ∨ status = .failed ∧ row.attempts < settings.maxAttempts

/-- The pass has loaded the row, and has not written it. -/
structure Loaded (row : ClaimedRow) (loaded : NotificationOutbox) (mine : List NotifyEvent) :
    Prop where
  claimed : ClaimedBy row mine
  loaded : .loaded row (some loaded) ∈ mine
  unwritten : ∀ status, .wrote row status ∉ mine
  unpublished : ∀ error, .published row error ∉ mine

/-- The pass has gone through `_update_row` in order to mark the row dead: it has found no
row, or it has written one. -/
structure Buried (row : ClaimedRow) (mine : List NotifyEvent) : Prop where
  claimed : ClaimedBy row mine
  updated : .loaded row none ∈ mine ∨ ∃ loaded status, .loaded row (some loaded) ∈ mine ∧
    .wrote row status ∈ mine ∧ (status = .dead ∨ loaded.status = .dead)
  unpublished : ∀ error, .published row error ∉ mine

variable {Tid : Type} [DecidableEq Tid]

/-- The rows that passes have claimed stay in the table. -/
def Standing (contract : Contract Tid NotifyState NotifyEvent (Except Exc Nat)) : Prop :=
  ∀ tid row state log, contract.invariant state log → ClaimedBy row (own tid log) →
    state.outbox.get row.id ≠ none

/-- A handling that goes through has written its row, where rows stay in the table. -/
def Settled (settings : DispatchSettings)
    (contract : Contract Tid NotifyState NotifyEvent (Except Exc Nat)) (handling : Handling)
    (row : ClaimedRow) (mine : List NotifyEvent) : Prop :=
  Standing contract → handling.finalizes settings row = true → ∃ status, .wrote row status ∈ mine

/-- The contract is kept by the steps of the passes. -/
structure DispatchRules (settings : DispatchSettings) (passes : Tid → Pass)
    (contract : Contract Tid NotifyState NotifyEvent (Except Exc Nat)) : Prop where
  ends : ∀ tid answer mine, (∀ row, ClaimedBy row mine →
    Settled settings contract ((passes tid).handling row.id) row mine) →
    contract.ends tid answer mine
  claim : ∀ tid state log, contract.invariant state log → own tid log = [] →
    claimOverflows (passes tid) state = false →
    contract.assumes tid state log (some (.claimed (claimedRows (passes tid) state))) →
    contract.invariant { state with outbox := claimTable settings (passes tid) state }
      (log ++ [(tid, .claimed (claimedRows (passes tid) state))])
  reserve : ∀ tid row key state log, contract.invariant state log →
    Unfinished row (own tid log) → Untouched row (own tid log) →
    contract.assumes tid state log (some (.reserved row key (countAfter key state))) →
    contract.invariant { state with counters := state.counters.incr state.now key }
      (log ++ [(tid, .reserved row key (countAfter key state))])
  expire : ∀ tid row key state log, contract.invariant state log →
    .reserved row key 1 ∈ own tid log →
    contract.invariant { state with counters := state.counters.expire state.now key ttlSeconds } log
  send : ∀ tid script row key mine next, Unfinished row mine →
    (∀ event ∈ mine, event.row? = some row → ∃ reserved count, key = some reserved ∧
      event = .reserved row reserved count ∧ count ≤ settings.smsDailyCap) →
    (∀ reserved, key = some reserved → ∃ count, .reserved row reserved count ∈ mine) →
    (∀ outcome more, Extends row mine more → Unfinished row more →
      contract.Keeps tid (next outcome) more) →
    contract.Keeps tid (eskizSend (.submitted row key) script next) mine
  load : ∀ tid row state log, contract.invariant state log → Unfinished row (own tid log) →
    contract.assumes tid state log (some (.loaded row (state.outbox.get row.id))) →
    contract.invariant state (log ++ [(tid, .loaded row (state.outbox.get row.id))])
  write : ∀ tid row loaded target current state log, contract.invariant state log →
    Loaded row loaded (own tid log) → Aims settings row target.status →
    state.outbox.get row.id = some current →
    contract.assumes tid state log (some (.wrote row (flushRow loaded target current).status)) →
    contract.invariant { state with outbox := flushTable row.id loaded target state.outbox }
      (log ++ [(tid, .wrote row (flushRow loaded target current).status)])
  publish : ∀ tid row error state log, contract.invariant state log →
    Buried row (own tid log) →
    contract.assumes tid state log (some (.published row error)) →
    contract.invariant state (log ++ [(tid, .published row error)])

/-! ## The walk -/

theorem flushTable_of_none {id : Uuid} {loaded target : NotificationOutbox} {table : OutboxTable}
    (absent : table.get id = none) : flushTable id loaded target table = table := by
  refine Table.ext ?_
  change table.rows.map _ = table.rows
  refine (List.map_congr_left ?_).trans (List.map_id _)
  intro row member
  refine if_neg ?_
  rintro rfl
  have found := Table.get_of_mem table row member
  rw [absent] at found
  cases found

section Walk

variable {settings : DispatchSettings} {passes : Tid → Pass}
variable {contract : Contract Tid NotifyState NotifyEvent (Except Exc Nat)} {tid : Tid}
variable {handling : Handling} {next raised : NotifyProc}

omit [DecidableEq Tid] in
theorem Unfinished.load (unfinished : Unfinished row mine) (loaded : NotificationOutbox) :
    Loaded row loaded (mine ++ [.loaded row (some loaded)]) where
  claimed := unfinished.claimed.mono (List.subset_append_left _ _)
  loaded := List.mem_append_right _ List.mem_cons_self
  unwritten := by
    intro status member
    rcases List.mem_append.mp member with earlier | last
    · cases unfinished.unfinished _ earlier rfl
    · cases List.mem_singleton.mp last
  unpublished := by
    intro error member
    rcases List.mem_append.mp member with earlier | last
    · cases unfinished.unfinished _ earlier rfl
    · cases List.mem_singleton.mp last

theorem Settled.mono (settled : Settled settings contract handling row mine)
    (grows : mine ⊆ more) : Settled settings contract handling row more := by
  intro standing through
  obtain ⟨status, member⟩ := settled standing through
  exact ⟨status, grows member⟩

theorem Settled.of_wrote {status : OutboxStatus} (wrote : .wrote row status ∈ mine) :
    Settled settings contract handling row mine :=
  fun _ _ => ⟨status, wrote⟩

/-- An exit of a handling that does not go through. -/
theorem Settled.of_raised (raised : handling.finalizes settings row ≠ true) :
    Settled settings contract handling row mine :=
  fun _ through => absurd through raised

theorem DispatchRules.update (rules : DispatchRules settings passes contract)
    {apply : Int → NotificationOutbox → NotificationOutbox}
    (unfinished : Unfinished row mine)
    (aims : ∀ now loaded, Aims settings row (apply now loaded).status)
    (missing : ¬Standing contract → contract.Keeps tid next (mine ++ [.loaded row none]))
    (goes : ∀ now loaded current, contract.Keeps tid next
      (mine ++ [.loaded row (some loaded)] ++
        [.wrote row (flushRow loaded (apply now loaded) current).status]))
    (fails : ∀ more, Extends row mine more → Settled settings contract handling row more →
      contract.Keeps tid raised more) :
    contract.Keeps tid (updateRow row handling.update apply next raised) mine := by
  unfold updateRow
  split
  · rename_i refused
    refine fails mine (Extends.refl row mine) (Settled.of_raised ?_)
    simp [Handling.finalizes, refused]
  intro state log invariant left assumes
  refine ⟨rules.load tid row state log invariant (by rw [left]; exact unfinished) assumes, ?_⟩
  dsimp only [Option.toList_some]
  cases found : state.outbox.get row.id with
  | none =>
    refine missing ?_
    intro standing
    exact standing tid row state log invariant (by rw [left]; exact unfinished.claimed) found
  | some loaded =>
    intro later laterLog laterInvariant laterLeft laterAssumes
    have extended : Extends row mine (mine ++ [.loaded row (some loaded)]) :=
      (Extends.refl row mine).add rfl
    have loadedNow : Loaded row loaded (own tid laterLog) := by
      rw [laterLeft]
      exact unfinished.load loaded
    cases stored : later.outbox.get row.id with
    | none =>
      have same : flushTable row.id loaded (apply state.now loaded) later.outbox =
          later.outbox := flushTable_of_none stored
      rw [wroteEvent, stored] at laterAssumes ⊢
      simp only [same, Option.map_none, entries_none, List.append_nil, Option.toList_none]
      refine ⟨laterInvariant, ?_⟩
      rw [if_neg (by simp [stored])]
      refine fails _ extended ?_
      intro standing _
      exact absurd stored (standing tid row later laterLog laterInvariant loadedNow.claimed)
    | some current =>
      rw [wroteEvent, stored] at laterAssumes ⊢
      refine ⟨rules.write tid row loaded _ current later laterLog laterInvariant loadedNow
        (aims state.now loaded) stored laterAssumes, ?_⟩
      dsimp only [Option.map_some, Option.toList_some]
      split
      · exact goes state.now loaded current
      · exact fails _ (extended.add rfl)
          (Settled.of_wrote (List.mem_append_right _ List.mem_cons_self))

section Rows

variable (rest : ∀ more, Extends row mine more → Settled settings contract handling row more →
  contract.Keeps tid next more)

include rest

theorem DispatchRules.updateThen (rules : DispatchRules settings passes contract)
    {apply : Int → NotificationOutbox → NotificationOutbox} (unfinished : Unfinished row mine)
    (aims : ∀ now loaded, Aims settings row (apply now loaded).status) :
    contract.Keeps tid (updateRow row handling.update apply next next) mine := by
  refine rules.update unfinished aims ?_ ?_ rest
  · intro gone
    exact rest _ ((Extends.refl row mine).add rfl) fun standing _ => absurd standing gone
  · intro now loaded current
    exact rest _ (((Extends.refl row mine).add rfl).add rfl)
      (Settled.of_wrote (List.mem_append_right _ List.mem_cons_self))

theorem DispatchRules.reschedule (rules : DispatchRules settings passes contract)
    (unfinished : Unfinished row mine) (few : row.attempts < settings.maxAttempts)
    (error : String) : contract.Keeps tid (reschedule handling row next error) mine := by
  refine Contract.keeps_read fun state log _ _ => ?_
  exact rules.updateThen rest unfinished fun _ _ => Or.inr (Or.inr ⟨rfl, few⟩)

theorem DispatchRules.publishFailed (rules : DispatchRules settings passes contract)
    (buried : Buried row mine) (settled : Settled settings contract handling row mine)
    (error : String) : contract.Keeps tid (publishFailed handling row next error) mine := by
  unfold Notifications.publishFailed
  split
  · exact rest mine (Extends.refl row mine) settled
  · intro state log invariant left assumes
    refine ⟨rules.publish tid row _ state log invariant (by rw [left]; exact buried) assumes, ?_⟩
    have extended : Extends row mine (mine ++ [.published row (cut 200 error)]) :=
      (Extends.refl row mine).add rfl
    exact rest _ extended (settled.mono extended.subset)

theorem DispatchRules.markDead (rules : DispatchRules settings passes contract)
    (unfinished : Unfinished row mine) (error : String) :
    contract.Keeps tid (markDead handling row next error) mine := by
  have silent : ∀ text, .published row text ∉ mine := by
    intro text member
    cases unfinished.unfinished _ member rfl
  refine rules.update unfinished (fun _ _ => Or.inr (Or.inl rfl)) ?_ ?_ rest
  · intro gone
    have extended : Extends row mine (mine ++ [.loaded row none]) :=
      (Extends.refl row mine).add rfl
    refine rules.publishFailed (fun more further => rest more (extended.trans further)) ?_
      (fun standing _ => absurd standing gone) error
    refine ⟨unfinished.claimed.mono extended.subset,
      Or.inl (List.mem_append_right _ List.mem_cons_self), ?_⟩
    intro text member
    rcases List.mem_append.mp member with earlier | last
    · exact silent text earlier
    · cases List.mem_singleton.mp last
  · intro now loaded current
    have extended : Extends row mine (mine ++ [.loaded row (some loaded)] ++
        [.wrote row (flushRow loaded (deadRow error loaded) current).status]) :=
      ((Extends.refl row mine).add rfl).add rfl
    refine rules.publishFailed (fun more further => rest more (extended.trans further)) ?_
      (Settled.of_wrote (List.mem_append_right _ List.mem_cons_self)) error
    refine ⟨unfinished.claimed.mono extended.subset, Or.inr ⟨loaded, _, ?_,
      List.mem_append_right _ List.mem_cons_self, ?_⟩, ?_⟩
    · exact List.mem_append_left _ (List.mem_append_right _ List.mem_cons_self)
    · by_cases already : loaded.status = .dead
      · exact Or.inr already
      · exact Or.inl (if_neg fun same => already same.symm)
    · intro text member
      rcases List.mem_append.mp member with earlier | last
      · exact (unfinished.load loaded).unpublished text earlier
      · cases List.mem_singleton.mp last

theorem DispatchRules.afterSend (rules : DispatchRules settings passes contract)
    (unfinished : Unfinished row mine) (outcome : SendOutcome) :
    contract.Keeps tid (afterSend settings handling row next outcome) mine := by
  cases outcome with
  | sent messageId => exact rules.updateThen rest unfinished fun _ _ => Or.inl rfl
  | permanent text => exact rules.markDead rest unfinished _
  | failed text =>
    change contract.Keeps tid (if settings.maxAttempts ≤ row.attempts then _ else _) mine
    split
    · exact rules.markDead rest unfinished _
    · rename_i few
      exact rules.reschedule rest unfinished (Nat.lt_of_not_le few) text

theorem DispatchRules.sendRow (rules : DispatchRules settings passes contract)
    (unfinished : Unfinished row mine) (configured : Bool) (key : Option SmsKey)
    (only : ∀ event ∈ mine, event.row? = some row → ∃ reserved count, key = some reserved ∧
      event = .reserved row reserved count ∧ count ≤ settings.smsDailyCap)
    (paid : ∀ reserved, key = some reserved → ∃ count, .reserved row reserved count ∈ mine) :
    contract.Keeps tid (sendRow settings handling row next configured key) mine := by
  unfold Notifications.sendRow
  split
  · split
    · refine rules.send tid handling.eskiz row key mine _ unfinished only paid ?_
      intro outcome more extended still
      exact rules.afterSend (fun last further => rest last (extended.trans further)) still outcome
    · exact rules.afterSend rest unfinished _
  · exact rules.afterSend rest unfinished _

theorem DispatchRules.tryConsume (rules : DispatchRules settings passes contract)
    (unfinished : Unfinished row mine) (untouched : Untouched row mine)
    (answers : handling.finalizes settings row = true →
      handling.incr = .ok ∧ handling.expire = .ok) :
    contract.Keeps tid (tryConsume settings handling row next) mine := by
  have reserved : ∀ key count, contract.Keeps tid
      (afterReserve settings handling row next key count) (mine ++ [.reserved row key count]) := by
    intro key count
    have extended : Extends row mine (mine ++ [.reserved row key count]) :=
      (Extends.refl row mine).add rfl
    have restThen := fun more (further : Extends row (mine ++ [.reserved row key count]) more) =>
      rest more (extended.trans further)
    unfold afterReserve
    split
    · rename_i granted
      refine rules.sendRow restThen (unfinished.add rfl) true (some key) ?_ ?_
      · intro event member about
        rcases List.mem_append.mp member with earlier | last
        · exact (untouched event earlier about).elim
        · exact ⟨key, count, rfl, List.mem_singleton.mp last, granted⟩
      · intro other same
        cases same
        exact ⟨count, List.mem_append_right _ List.mem_cons_self⟩
    · exact rules.markDead restThen (unfinished.add rfl) _
  -- an exit before the reservation is in use is one of a handling that does not go through
  have exits : ∀ more, Extends row mine more → handling.incr ≠ .ok ∨ handling.expire ≠ .ok →
      contract.Keeps tid next more := by
    intro more extended raised
    refine rest more extended (Settled.of_raised fun through => ?_)
    exact raised.elim (fun wrong => wrong (answers through).1)
      fun wrong => wrong (answers through).2
  refine Contract.keeps_read fun state log _ _ => ?_
  dsimp only
  split
  · rename_i refused
    exact exits mine (Extends.refl row mine) (Or.inl (by rw [refused]; decide))
  intro later laterLog invariant left assumes
  have fresh : Untouched row (own tid laterLog) := by rw [left]; exact untouched
  have still : Unfinished row (own tid laterLog) := by rw [left]; exact unfinished
  refine ⟨rules.reserve tid row _ later laterLog invariant still fresh assumes, ?_⟩
  dsimp only [Option.toList_some]
  generalize SmsKey.mk row.tenantId (state.now / dayMillis) = key
  have extended : Extends row mine (mine ++ [.reserved row key (countAfter key later)]) :=
    (Extends.refl row mine).add rfl
  split
  · rename_i lost
    exact exits _ extended (Or.inl (by rw [lost]; decide))
  · split
    · rename_i first
      split
      · rename_i refused
        exact exits _ extended (Or.inr (by rw [refused]; decide))
      · refine Contract.keeps_silent ?_ ?_
        · intro last lastLog lastInvariant lastLeft
          refine rules.expire tid row key last lastLog lastInvariant ?_
          rw [lastLeft, first]
          exact List.mem_append_right _ List.mem_cons_self
        · intro last lastLog _ _
          split
          · rename_i lost
            exact exits _ extended (Or.inr (by rw [lost]; decide))
          · rw [first]
            exact reserved key 1
    · exact reserved key _

theorem DispatchRules.processRow (rules : DispatchRules settings passes contract)
    (unfinished : Unfinished row mine) (untouched : Untouched row mine) :
    contract.Keeps tid (processRow settings handling row next) mine := by
  unfold Notifications.processRow
  cases render : handling.render with
  | notFound text => exact rules.markDead rest unfinished _
  | raised =>
    refine rest mine (Extends.refl row mine) (Settled.of_raised ?_)
    simp [Handling.finalizes, render]
  | rendered =>
    cases resolve : handling.resolve with
    | raised =>
      refine rest mine (Extends.refl row mine) (Settled.of_raised ?_)
      simp [Handling.finalizes, render, resolve]
    | channel configured =>
      dsimp only
      split
      · rename_i capped
        refine rules.tryConsume rest unfinished untouched ?_
        intro through
        simp only [Handling.finalizes, render, resolve] at through
        simpa [capped.1, capped.2.1, capped.2.2] using (Bool.and_eq_true_iff.mp through).2
      · refine rules.sendRow rest unfinished _ none ?_ ?_
        · intro event member about
          exact (untouched event member about).elim
        · intro reserved impossible
          cases impossible

end Rows

theorem DispatchRules.processRows (rules : DispatchRules settings passes contract) (total : Nat)
    (todo : List ClaimedRow) (waiting : Waiting todo mine)
    (settled : ∀ row, ClaimedBy row mine → row ∈ todo ∨
      Settled settings contract ((passes tid).handling row.id) row mine) :
    contract.Keeps tid (processRows settings (passes tid) total todo) mine := by
  induction todo generalizing mine with
  | nil =>
    refine rules.ends _ _ _ ?_
    intro row claimed
    exact (settled row claimed).resolve_left List.not_mem_nil
  | cons row rest hypothesis =>
    refine rules.processRow ?_ waiting.head (waiting.untouched row List.mem_cons_self)
    intro more extended now
    refine hypothesis (waiting.rest extended) ?_
    intro other claimed
    rcases settled other (extended.claimedBy claimed) with member | earlier
    · rcases List.mem_cons.mp member with rfl | member
      · exact Or.inr now
      · exact Or.inl member
    · exact Or.inr (earlier.mono extended.subset)

/-! ## Claims -/

omit [DecidableEq Tid] in
theorem mem_claimedRows {pass : Pass} {state : NotifyState}
    (member : row ∈ claimedRows pass state) :
    ∃ due, state.outbox.get row.id = some due ∧ due.isDue state.now = true ∧
      row = toClaimed due := by
  obtain ⟨due, inside, rfl⟩ := List.mem_map.mp member
  have sorted := (List.mem_insertionSort _).mp (List.mem_of_mem_take inside)
  obtain ⟨stored, isDue⟩ := (Table.mem_select _ _ _).mp (List.mem_of_mem_filter sorted)
  exact ⟨due, Table.get_of_mem _ _ stored, isDue, rfl⟩

omit [DecidableEq Tid] in
theorem claimedRows_nodup (pass : Pass) (state : NotifyState) :
    ((claimedRows pass state).map ClaimedRow.id).Nodup := by
  have ids : (claimedRows pass state).map ClaimedRow.id =
      (dueRows pass state).map NotificationOutbox.id := by
    rw [claimedRows, List.map_map]
    rfl
  rw [ids]
  have sorted : ((((state.outbox.select (NotificationOutbox.isDue state.now)).filter fun row =>
      row.id ∉ pass.locked).insertionSort fun left right =>
        left.nextRetryAt ≤ right.nextRetryAt).map NotificationOutbox.id).Nodup := by
    refine ((List.perm_insertionSort _ _).map _).nodup_iff.mpr ?_
    exact state.outbox.nodup.sublist ((List.filter_sublist.trans List.filter_sublist).map _)
  exact sorted.sublist ((List.take_sublist _ _).map _)

theorem DispatchRules.dispatch (rules : DispatchRules settings passes contract) (tid : Tid) :
    contract.Keeps tid (dispatchDueNotifications settings (passes tid)) [] := by
  intro state log invariant left assumes
  cases overflows : claimOverflows (passes tid) state with
  | true =>
    simp only [Notifications.claim, claimEvent, overflows, if_true, entries_none, List.append_nil]
    refine ⟨invariant, rules.ends _ _ _ ?_⟩
    rintro row ⟨rows, member, _⟩
    cases member
  | false =>
    simp only [Notifications.claim, claimEvent, overflows] at assumes ⊢
    refine ⟨rules.claim tid state log invariant left overflows assumes, ?_⟩
    refine rules.processRows _ _ ⟨?_, ?_, (claimedRows_nodup _ state).of_map⟩ ?_
    · intro row member
      exact ⟨_, List.mem_append_right _ List.mem_cons_self, member⟩
    rotate_left
    · rintro row ⟨rows, member, inside⟩
      cases List.mem_singleton.mp member
      exact Or.inl inside
    · intro row member event inside
      rcases List.mem_append.mp inside with earlier | last
      · cases earlier
      · rw [List.mem_singleton.mp last]
        intro impossible
        cases impossible

/-! ## Calls that a contract takes no notice of -/

section Neutral

variable {key : Option SmsKey}
variable (neutral : ∀ status state log, contract.invariant state log →
  contract.invariant state (log ++ [(tid, .submitted row key status)]))

include neutral

theorem postSms_keeps {token : Option String} {login : HttpAnswer LoginBody}
    {answer : HttpAnswer (Except String SendBody)}
    {next : Except OpResult (Nat × Except String SendBody) → NotifyProc}
    (unfinished : Unfinished row mine)
    (rest : ∀ result more, Extends row mine more → Unfinished row more →
      contract.Keeps tid (next result) more) :
    contract.Keeps tid (postSms (.submitted row key) token login answer next) mine := by
  unfold postSms
  split
  · exact rest _ mine (Extends.refl row mine) unfinished
  · intro state log invariant _ _
    refine ⟨neutral _ state log invariant, ?_⟩
    have extended : Extends row mine (mine ++ [.submitted row key answer.status?]) :=
      (Extends.refl row mine).add rfl
    dsimp only [Option.toList_some]
    split
    · exact rest _ _ extended (unfinished.add rfl)
    · exact rest _ _ extended (unfinished.add rfl)
    · exact rest _ _ extended (unfinished.add rfl)

theorem eskizOp_keeps {attempt : EskizAttempt} {next : OpResult → NotifyProc}
    (unfinished : Unfinished row mine)
    (rest : ∀ result more, Extends row mine more → Unfinished row more →
      contract.Keeps tid (next result) more) :
    contract.Keeps tid (eskizOp (.submitted row key) attempt next) mine := by
  refine postSms_keeps neutral unfinished ?_
  intro result more extended still
  split
  · exact rest _ more extended still
  · split
    · refine postSms_keeps neutral still ?_
      intro again last further stillThen
      split
      · exact rest _ last (extended.trans further) stillThen
      · exact rest _ last (extended.trans further) stillThen
    · exact rest _ more extended still

theorem callResilient_keeps {next : SendOutcome → NotifyProc} (attempts : List EskizAttempt)
    (last : String) (unfinished : Unfinished row mine)
    (rest : ∀ outcome more, Extends row mine more → Unfinished row more →
      contract.Keeps tid (next outcome) more) :
    contract.Keeps tid (callResilient (.submitted row key) next attempts last) mine := by
  induction attempts generalizing mine last with
  | nil => exact rest _ mine (Extends.refl row mine) unfinished
  | cons attempt others hypothesis =>
    unfold callResilient
    split
    · refine eskizOp_keeps neutral unfinished ?_
      intro result more extended still
      have restThen := fun outcome final (further : Extends row more final) =>
        rest outcome final (extended.trans further)
      split
      · exact rest _ more extended still
      · exact hypothesis _ still restThen
      · exact hypothesis _ still restThen
      · exact rest _ more extended still
      · exact rest _ more extended still
    · exact rest _ mine (Extends.refl row mine) unfinished

theorem eskizSend_keeps {script : EskizScript} {next : SendOutcome → NotifyProc}
    (unfinished : Unfinished row mine)
    (rest : ∀ outcome more, Extends row mine more → Unfinished row more →
      contract.Keeps tid (next outcome) more) :
    contract.Keeps tid (eskizSend (.submitted row key) script next) mine := by
  unfold eskizSend
  split
  · exact rest _ mine (Extends.refl row mine) unfinished
  · exact callResilient_keeps neutral _ _ unfinished rest

end Neutral

end Walk

/-! ## Runs -/

abbrev NotifyWorld (Tid : Type) := World Tid NotifyState NotifyEvent (Except Exc Nat)

def dispatchStart (settings : DispatchSettings) (passes : Tid → Pass) (state : NotifyState) :
    NotifyWorld Tid :=
  World.start state fun tid => dispatchDueNotifications settings (passes tid)

namespace Sample

def settings : DispatchSettings := ⟨5, 300, 200⟩

def queuedRow : NotificationOutbox where
  id := 7
  notificationId := 70
  dedupKey := none
  tenantId := some 1
  channel := "email"
  recipient := "ann@example.com"
  templateKey := "auth.verify"
  locale := "ru"
  status := .pending
  attempts := 0
  nextRetryAt := 0
  lastError := none
  providerMessageId := none
  sentAt := none

def oneQueued : NotifyState := ⟨⟨[queuedRow], by decide⟩, Redis.empty, 1000⟩

def unanswered : EskizAttempt := ⟨true, none, .timedOut, .timedOut, .timedOut, .timedOut⟩

/-- Everything works but the delivery, which ends as given. -/
def delivers (outcome : SendOutcome) : Handling where
  render := .rendered
  resolve := .channel true
  incr := .ok
  expire := .ok
  eskiz := ⟨.ok (), unanswered, unanswered⟩
  other := outcome
  update := .ok
  publish := .ok

end Sample

end BackendCore.Notifications
