import BackendCore.Notifications.DispatchRules

/-!
# The daily cap of messages

A reservation is taken once for a row, and the channel may submit the message more
than once on it: after a 401, and in the second attempt of `call_resilient`.  As
many requests as the cap allows are made where the provider answers every request
that is made for good, and where the counter of a day is raised before it expires.
-/

set_option autoImplicit false

namespace BackendCore.Notifications

open BackendCore.Python BackendCore.Requests

variable {Tid : Type}

/-! ## What the log says of a day -/

/-- A reservation on a key. -/
def NotifyEvent.reserves (key : SmsKey) : NotifyEvent → Bool
  | .reserved _ other _ => other = key
  | _ => false

def reservations (key : SmsKey) (log : List (Tid × NotifyEvent)) : Nat :=
  log.countP fun entry => entry.2.reserves key

/-- The row of a reservation within the cap. -/
def NotifyEvent.granted? (cap : Nat) (key : SmsKey) : NotifyEvent → Option ClaimedRow
  | .reserved row other count => if other = key ∧ count ≤ cap then some row else none
  | _ => none

/-- The row of a request to submit on a reservation. -/
def NotifyEvent.submitted? (key : SmsKey) : NotifyEvent → Option ClaimedRow
  | .submitted row (some other) _ => if other = key then some row else none
  | _ => none

def rowsOf (select : NotifyEvent → Option ClaimedRow) (log : List (Tid × NotifyEvent)) :
    List (Tid × ClaimedRow) :=
  log.filterMap fun entry => (select entry.2).map fun row => (entry.1, row)

def grants (cap : Nat) (key : SmsKey) (log : List (Tid × NotifyEvent)) : List (Tid × ClaimedRow) :=
  rowsOf (NotifyEvent.granted? cap key) log

/-- The requests to the provider made on reservations of the key. -/
def submits (key : SmsKey) (log : List (Tid × NotifyEvent)) : List (Tid × ClaimedRow) :=
  rowsOf (NotifyEvent.submitted? key) log

theorem rowsOf_append (select : NotifyEvent → Option ClaimedRow) (log : List (Tid × NotifyEvent))
    (tid : Tid) (event : NotifyEvent) : rowsOf select (log ++ [(tid, event)]) =
      rowsOf select log ++ (select event).toList.map fun row => (tid, row) := by
  rw [rowsOf, List.filterMap_append, rowsOf]
  congr 1
  cases chosen : select event with
  | none => simp [chosen]
  | some row => simp [chosen]

theorem rowsOf_append_none {select : NotifyEvent → Option ClaimedRow} {event : NotifyEvent}
    (log : List (Tid × NotifyEvent)) (tid : Tid) (none : select event = .none) :
    rowsOf select (log ++ [(tid, event)]) = rowsOf select log := by
  rw [rowsOf_append, none]
  exact List.append_nil _

theorem mem_rowsOf {select : NotifyEvent → Option ClaimedRow} {log : List (Tid × NotifyEvent)}
    {tid : Tid} {row : ClaimedRow} :
    (tid, row) ∈ rowsOf select log ↔ ∃ event, (tid, event) ∈ log ∧ select event = some row := by
  rw [rowsOf, List.mem_filterMap]
  constructor
  · rintro ⟨⟨other, event⟩, member, chosen⟩
    obtain ⟨found, isFound, same⟩ := Option.map_eq_some_iff.mp chosen
    cases same
    exact ⟨event, member, isFound⟩
  · rintro ⟨event, member, chosen⟩
    exact ⟨(tid, event), member, Option.map_eq_some_iff.mpr ⟨row, chosen, rfl⟩⟩

theorem reservations_append (key : SmsKey) (log : List (Tid × NotifyEvent)) (tid : Tid)
    (event : NotifyEvent) : reservations key (log ++ [(tid, event)]) =
      reservations key log + if event.reserves key then 1 else 0 := by
  rw [reservations, List.countP_append, reservations, List.countP_singleton]

/-! ## The condition -/

def dayStart (key : SmsKey) : Int := key.day * dayMillis

def ttlMillis : Int := 1000 * ttlSeconds

/-- The provider has answered a request, with none of the statuses 401, 429 and 5xx. -/
def answeredForGood : Option Nat → Bool
  | some status => status ≠ 401 && !isUnavailable status
  | none => false

/-- The condition on a step: a counter is raised on its day, or less than an hour after it, and
a request that is made is answered for good. -/
def AnsweredInTime (state : NotifyState) : Option NotifyEvent → Prop :=
  StepCondition.Holds
    { reserves := fun key => dayStart key ≤ state.now ∧ state.now ≤ dayStart key + ttlMillis
      submits := fun status => answeredForGood status = true }

instance (state : NotifyState) (event : Option NotifyEvent) :
    Decidable (AnsweredInTime state event) :=
  inferInstanceAs (Decidable (StepCondition.Holds _ _))

/-! ## What a run keeps -/

/-- The counter of the key holds the number of its reservations, and lives for the time in
which it may be raised. -/
structure CappedAt (settings : DispatchSettings) (key : SmsKey) (state : NotifyState)
    (log : List (Tid × NotifyEvent)) : Prop where
  begun : ∀ tid row count, (tid, .reserved row key count) ∈ log → dayStart key ≤ state.now
  unused : reservations key log = 0 → state.counters.entry key = none
  counter : reservations key log ≠ 0 → ∃ entry, state.counters.entry key = some entry ∧
    entry.value = reservations key log ∧
    ∀ last, entry.expiresAt = some last → dayStart key + ttlMillis ≤ last
  granted : (grants settings.smsDailyCap key log).length =
    min (reservations key log) settings.smsDailyCap
  paid : submits key log ⊆ grants settings.smsDailyCap key log
  single : (submits key log).Nodup

def smsContract (Tid : Type) (settings : DispatchSettings) (key : SmsKey) :
    Contract Tid NotifyState NotifyEvent (Except Exc Nat) where
  invariant := CappedAt settings key
  assumes := fun _ state _ event => AnsweredInTime state event
  ends := fun _ _ _ => True

section Steps

variable {settings : DispatchSettings} {key : SmsKey} {state : NotifyState}
variable {log : List (Tid × NotifyEvent)} {tid : Tid} {event : NotifyEvent} {row : ClaimedRow}

/-- The event neither raises the counter of the key nor is a request on it. -/
structure Silent (cap : Nat) (key : SmsKey) (event : NotifyEvent) : Prop where
  reserves : event.reserves key = false
  granted : event.granted? cap key = none
  submitted : event.submitted? key = none

theorem CappedAt.note {later : NotifyState} (holds : CappedAt settings key state log)
    (silent : Silent settings.smsDailyCap key event)
    (counters : later.counters.entry key = state.counters.entry key)
    (now : later.now = state.now) :
    CappedAt settings key later (log ++ [(tid, event)]) := by
  have counts : reservations key (log ++ [(tid, event)]) = reservations key log := by
    rw [reservations_append, silent.reserves]
    rfl
  have grant : grants settings.smsDailyCap key (log ++ [(tid, event)]) =
      grants settings.smsDailyCap key log := rowsOf_append_none log tid silent.granted
  have submit : submits key (log ++ [(tid, event)]) = submits key log :=
    rowsOf_append_none log tid silent.submitted
  refine ⟨?_, ?_, ?_, ?_, ?_, ?_⟩
  · intro other row count member
    rw [now]
    refine holds.begun other row count (mem_of_append_one member ?_)
    intro isLast
    cases isLast
    have reserves := silent.reserves
    rw [NotifyEvent.reserves, decide_eq_false_iff_not] at reserves
    exact reserves rfl
  · rw [counts, counters]
    exact holds.unused
  · rw [counts, counters]
    exact holds.counter
  · rw [grant, counts]
    exact holds.granted
  · rw [grant, submit]
    exact holds.paid
  · rw [submit]
    exact holds.single

theorem CappedAt.count (holds : CappedAt settings key state log)
    (inTime : state.now ≤ dayStart key + ttlMillis) :
    countAfter key state = reservations key log + 1 ∧
      ∃ expires, (state.counters.incr state.now key).entry key =
          some ⟨reservations key log + 1, expires⟩ ∧
        ∀ last, expires = some last → dayStart key + ttlMillis ≤ last := by
  by_cases none : reservations key log = 0
  · have missing : state.counters.find state.now key = .none := by
      rw [Redis.find, holds.unused none]
      rfl
    refine ⟨?_, .none, ?_, ?_⟩
    · rw [countAfter, Redis.get, missing, none]
      rfl
    · rw [none]
      exact Redis.entry_incr_of_none missing
    · intro last impossible
      cases impossible
  · obtain ⟨entry, stored, value, lives⟩ := holds.counter none
    have found : state.counters.find state.now key = some entry := by
      rw [Redis.find_eq_some_iff]
      refine ⟨stored, ?_⟩
      unfold Redis.Entry.lives
      cases expires : entry.expiresAt with
      | none => rfl
      | some last => exact decide_eq_true (inTime.trans (lives last expires))
    refine ⟨?_, entry.expiresAt, ?_, lives⟩
    · rw [countAfter, Redis.get, found, ← value]
      rfl
    · rw [Redis.entry_incr_of_some found, value]

theorem CappedAt.reserveSelf (holds : CappedAt settings key state log)
    (inTime : dayStart key ≤ state.now ∧ state.now ≤ dayStart key + ttlMillis) :
    CappedAt settings key { state with counters := state.counters.incr state.now key }
      (log ++ [(tid, .reserved row key (countAfter key state))]) := by
  obtain ⟨count, expires, entry, lives⟩ := holds.count inTime.2
  have counts : reservations key (log ++ [(tid, .reserved row key (countAfter key state))]) =
      reservations key log + 1 := by
    have self : (NotifyEvent.reserved row key (countAfter key state)).reserves key = true :=
      decide_eq_true rfl
    rw [reservations_append, self]
    rfl
  have submit : submits key (log ++ [(tid, .reserved row key (countAfter key state))]) =
      submits key log := rowsOf_append_none log tid rfl
  refine ⟨fun _ _ _ _ => inTime.1, ?_, ?_, ?_, ?_, ?_⟩
  · intro none
    rw [counts] at none
    cases none
  · intro _
    exact ⟨_, entry, counts.symm, lives⟩
  · rw [counts, grants, rowsOf_append, List.length_append]
    have before := holds.granted
    rw [grants] at before
    rw [before, count]
    by_cases within : reservations key log + 1 ≤ settings.smsDailyCap
    · rw [NotifyEvent.granted?, if_pos ⟨rfl, within⟩]
      simp only [Option.toList_some, List.map_cons, List.map_nil, List.length_singleton]
      omega
    · rw [NotifyEvent.granted?, if_neg fun both => within both.2]
      simp only [Option.toList_none, List.map_nil, List.length_nil]
      omega
  · rw [submit, grants, rowsOf_append]
    exact List.Subset.trans holds.paid (List.subset_append_left _ _)
  · rw [submit]
    exact holds.single

theorem CappedAt.reserve {other : SmsKey} (holds : CappedAt settings key state log)
    (inTime : dayStart other ≤ state.now ∧ state.now ≤ dayStart other + ttlMillis) :
    CappedAt settings key { state with counters := state.counters.incr state.now other }
      (log ++ [(tid, .reserved row other (countAfter other state))]) := by
  by_cases here : other = key
  · subst here
    exact holds.reserveSelf inTime
  · exact holds.note ⟨decide_eq_false here, if_neg fun both => here both.1, rfl⟩
      (Redis.entry_incr_of_ne _ _ fun same => here same.symm) rfl

theorem CappedAt.expire {other : SmsKey} (holds : CappedAt settings key state log)
    (begun : other = key → dayStart key ≤ state.now) :
    CappedAt settings key
      { state with counters := state.counters.expire state.now other ttlSeconds } log := by
  have changes : (state.counters.expire state.now other ttlSeconds).entry key =
      state.counters.entry key ∨ other = key ∧ ∃ entry, state.counters.entry key = some entry ∧
        (state.counters.expire state.now other ttlSeconds).entry key =
          some ⟨entry.value, some (Redis.expiry state.now ttlSeconds)⟩ := by
    by_cases here : other = key
    · subst here
      exact (Redis.entry_expire_self _ _ _ _).imp_right fun found => ⟨rfl, found⟩
    · exact Or.inl (Redis.entry_expire_of_ne _ _ _ fun same => here same.symm)
  refine ⟨holds.begun, ?_, ?_, holds.granted, holds.paid, holds.single⟩
  · intro none
    have missing := holds.unused none
    rcases changes with same | ⟨_, entry, stored, _⟩
    · exact same.trans missing
    · rw [missing] at stored
      cases stored
  · intro some
    obtain ⟨entry, stored, value, lives⟩ := holds.counter some
    rcases changes with same | ⟨here, twin, twinStored, changed⟩
    · exact ⟨entry, same.trans stored, value, lives⟩
    · rw [stored] at twinStored
      cases twinStored
      refine ⟨_, changed, value, ?_⟩
      intro last expires
      cases expires
      have started := begun here
      unfold Redis.expiry ttlMillis
      omega

theorem CappedAt.submit (holds : CappedAt settings key state log) {onKey : Option SmsKey}
    (status : Option Nat) (paid : onKey = some key →
      (tid, row) ∈ grants settings.smsDailyCap key log ∧ (tid, row) ∉ submits key log) :
    CappedAt settings key state (log ++ [(tid, .submitted row onKey status)]) := by
  have counts : reservations key (log ++ [(tid, .submitted row onKey status)]) =
      reservations key log := reservations_append key log tid _
  have grant : grants settings.smsDailyCap key (log ++ [(tid, .submitted row onKey status)]) =
      grants settings.smsDailyCap key log := rowsOf_append_none log tid rfl
  have submit : submits key (log ++ [(tid, .submitted row onKey status)]) = submits key log ∨
      onKey = some key ∧ submits key (log ++ [(tid, .submitted row onKey status)]) =
        submits key log ++ [(tid, row)] := by
    cases onKey with
    | none => exact Or.inl (rowsOf_append_none log tid rfl)
    | some reserved =>
      by_cases here : reserved = key
      · refine Or.inr ⟨by rw [here], ?_⟩
        rw [submits, rowsOf_append, NotifyEvent.submitted?, if_pos here]
        rfl
      · refine Or.inl (rowsOf_append_none log tid ?_)
        rw [NotifyEvent.submitted?, if_neg here]
  refine ⟨?_, ?_, ?_, ?_, ?_, ?_⟩
  · intro other first number member
    refine holds.begun other first number (mem_of_append_one member ?_)
    intro isLast
    cases isLast
  · rw [counts]
    exact holds.unused
  · rw [counts]
    exact holds.counter
  · rw [grant, counts]
    exact holds.granted
  · rw [grant]
    rcases submit with same | ⟨isKey, added⟩
    · rw [same]
      exact holds.paid
    · rw [added]
      refine List.append_subset.mpr ⟨holds.paid, ?_⟩
      intro pair member
      rw [List.mem_singleton.mp member]
      exact (paid isKey).1
  · rcases submit with same | ⟨isKey, added⟩
    · rw [same]
      exact holds.single
    · rw [added, ← List.concat_eq_append]
      exact List.Nodup.concat (paid isKey).2 holds.single

theorem CappedAt.later {later : NotifyState} (holds : CappedAt settings key state log)
    (passes : state.Passes later) : CappedAt settings key later log := by
  refine ⟨?_, ?_, ?_, holds.granted, holds.paid, holds.single⟩
  · intro other first number member
    exact (holds.begun other first number member).trans passes.now
  · rw [passes.counters]
    exact holds.unused
  · rw [passes.counters]
    exact holds.counter

end Steps

/-! ## The call to the provider -/

theorem parseSend_of_answered {status : Nat} (available : isUnavailable status = false)
    (body : Except String SendBody) :
    (∃ messageId, parseSend status body = .ok messageId) ∨
      (∃ text, parseSend status body = .permanent text) ∨
      ∃ text, parseSend status body = .unexpected text := by
  unfold parseSend
  rw [available]
  simp only [Bool.false_eq_true, if_false]
  split
  · exact Or.inr (Or.inl ⟨_, rfl⟩)
  · split
    · exact Or.inr (Or.inr ⟨_, rfl⟩)
    · split
      · exact Or.inr (Or.inl ⟨_, rfl⟩)
      · exact Or.inl ⟨_, rfl⟩

section Calls

variable [DecidableEq Tid] {settings : DispatchSettings} {tid : Tid} {row : ClaimedRow}
variable {key : SmsKey} {onKey : Option SmsKey} {mine : List NotifyEvent}
variable {next : SendOutcome → NotifyProc}

/-- The pass has reserved for the row, and has made no request on it. -/
structure Prepaid (settings : DispatchSettings) (row : ClaimedRow) (onKey : Option SmsKey)
    (mine : List NotifyEvent) : Prop where
  only : ∀ event ∈ mine, event.row? = some row → ∃ reserved count, onKey = some reserved ∧
    event = .reserved row reserved count ∧ count ≤ settings.smsDailyCap
  paid : ∀ reserved, onKey = some reserved → ∃ count, .reserved row reserved count ∈ mine

theorem Prepaid.granted {log : List (Tid × NotifyEvent)}
    (prepaid : Prepaid settings row onKey (own tid log)) (isKey : onKey = some key) :
    (tid, row) ∈ grants settings.smsDailyCap key log ∧ (tid, row) ∉ submits key log := by
  obtain ⟨count, member⟩ := prepaid.paid key isKey
  constructor
  · obtain ⟨_, number, _, same, within⟩ := prepaid.only _ member rfl
    cases same
    refine mem_rowsOf.mpr ⟨_, (mem_own _ _ _).mp member, ?_⟩
    rw [NotifyEvent.granted?, if_pos ⟨rfl, within⟩]
  · intro submitted
    obtain ⟨event, inside, chosen⟩ := mem_rowsOf.mp submitted
    cases event with
    | submitted other reserved status =>
      have same : other = row := by
        cases reserved with
        | none => cases chosen
        | some reserved =>
          rw [NotifyEvent.submitted?] at chosen
          split at chosen
          · exact Option.some.inj chosen
          · cases chosen
      subst same
      obtain ⟨_, _, _, impossible, _⟩ := prepaid.only _ ((mem_own _ _ _).mpr inside) rfl
      cases impossible
    | _ => cases chosen

theorem callResilient_capped (prepaid : Prepaid settings row onKey mine)
    (unfinished : Unfinished row mine)
    (rest : ∀ outcome more, Extends row mine more → Unfinished row more →
      (smsContract Tid settings key).Keeps tid (next outcome) more)
    (attempts : List EskizAttempt) (last : String) :
    (smsContract Tid settings key).Keeps tid
      (callResilient (.submitted row onKey) next attempts last) mine := by
  induction attempts generalizing last with
  | nil => exact rest _ mine (Extends.refl row mine) unfinished
  | cons attempt others again =>
    unfold callResilient
    split
    swap
    · exact rest _ mine (Extends.refl row mine) unfinished
    unfold eskizOp postSms
    split
    · -- there is no token, and no request is made
      dsimp only
      split
      · exact rest _ mine (Extends.refl row mine) unfinished
      · exact again _
      · exact again _
      · exact rest _ mine (Extends.refl row mine) unfinished
      · exact rest _ mine (Extends.refl row mine) unfinished
    · intro state log holds left assumed
      have prepaidNow : Prepaid settings row onKey (own tid log) := by rw [left]; exact prepaid
      refine ⟨holds.submit _ prepaidNow.granted, ?_⟩
      have answered : answeredForGood attempt.first.status? = true := assumed
      cases isFirst : attempt.first with
      | timedOut =>
        rw [isFirst] at answered
        cases answered
      | transportError text =>
        rw [isFirst] at answered
        cases answered
      | response status body =>
        rw [isFirst, HttpAnswer.status?, answeredForGood, Bool.and_eq_true, decide_eq_true_eq,
          Bool.not_eq_true'] at answered
        obtain ⟨notExpired, available⟩ := answered
        have extended :
            Extends row mine (mine ++ [.submitted row onKey attempt.first.status?]) :=
          (Extends.refl row mine).add rfl
        rw [isFirst] at extended
        dsimp only [Option.toList_some]
        rw [if_neg notExpired]
        rcases parseSend_of_answered available body with ⟨messageId, parsed⟩ | ⟨text, parsed⟩ |
          ⟨text, parsed⟩
        · rw [parsed]
          exact rest _ _ extended (unfinished.add rfl)
        · rw [parsed]
          exact rest _ _ extended (unfinished.add rfl)
        · rw [parsed]
          exact rest _ _ extended (unfinished.add rfl)

end Calls

/-! ## Runs -/

variable [DecidableEq Tid]

theorem sms_rules (settings : DispatchSettings) (passes : Tid → Pass) (key : SmsKey) :
    DispatchRules settings passes (smsContract Tid settings key) where
  ends := fun _ _ _ _ => trivial
  claim := fun _ _ _ holds _ _ _ =>
    CappedAt.note holds ⟨rfl, rfl, rfl⟩ rfl rfl
  reserve := fun _ _ _ _ _ holds _ _ inTime => holds.reserve inTime
  expire := by
    intro tid row other state log holds member
    refine CappedAt.expire holds ?_
    rintro rfl
    exact holds.begun tid row 1 ((mem_own _ _ _).mp member)
  send := by
    intro tid script row onKey mine next unfinished only paid rest
    unfold eskizSend
    split
    · exact rest _ mine (Extends.refl row mine) unfinished
    · exact callResilient_capped ⟨only, paid⟩ unfinished rest _ _
  load := fun _ _ _ _ holds _ _ =>
    CappedAt.note holds ⟨rfl, rfl, rfl⟩ rfl rfl
  write := fun _ _ _ _ _ _ _ holds _ _ _ _ =>
    CappedAt.note holds ⟨rfl, rfl, rfl⟩ rfl rfl
  publish := fun _ _ _ _ _ holds _ _ =>
    CappedAt.note holds ⟨rfl, rfl, rfl⟩ rfl rfl

/-- In every such run the requests made on the reservations of a day are within the cap. -/
theorem sms_requests_within_cap (settings : DispatchSettings) (passes : Tid → Pass)
    (state : NotifyState) (key : SmsKey) (unused : state.counters.entry key = none)
    (world : NotifyWorld Tid)
    (run : Run NotifyState.Passes (fun world tid => AnsweredInTime world.shared (world.event tid))
      (dispatchStart settings passes state) world) :
    (submits key world.log).length ≤ settings.smsDailyCap := by
  have start : CappedAt settings key state ([] : List (Tid × NotifyEvent)) :=
    ⟨(fun _ _ _ member => by cases member), fun _ => unused, fun some => (some rfl).elim,
      (Nat.zero_min _).symm, fun _ member => member, List.nodup_nil⟩
  obtain ⟨holds, _⟩ := run.keeps (smsContract Tid settings key) start
    (sms_rules settings passes key).dispatch
    (fun _ _ _ passed holds => CappedAt.later holds passed)
    (fun _ _ inTime _ _ => inTime)
  have fewer := (holds.single.subperm holds.paid).length_le
  rw [holds.granted] at fewer
  exact fewer.trans (Nat.min_le_right _ _)

namespace Sample

local instance twoWorkers : NeZero 2 := ⟨two_ne_zero⟩

/-- One message a day. -/
def oneADay : DispatchSettings := ⟨5, 300, 1⟩

def smsRow : NotificationOutbox :=
  { queuedRow with
    channel := smsChannel
    recipient := "998901234567" }

def smsQueued : NotifyState := ⟨⟨[smsRow], by decide⟩, Redis.empty, 1000⟩

def accepted : HttpAnswer (Except String SendBody) := .response 200 (.ok ⟨false, "", "1"⟩)

/-- The first request gets no answer in time, the second one is accepted. -/
def answeredLate : Handling :=
  { delivers (.sent none) with
    eskiz := ⟨.ok (), ⟨true, some "token", .timedOut, .timedOut, .timedOut, .timedOut⟩,
      ⟨true, some "token", .timedOut, accepted, .timedOut, .timedOut⟩⟩ }

def latePass : NotifyWorld (Fin 1) :=
  dispatchStart oneADay (fun _ => ⟨[], 50, fun _ => answeredLate⟩) smsQueued

def submittedTwice : NotifyWorld (Fin 1) :=
  latePass.follow [.act 0, .act 0, .act 0, .act 0, .act 0, .act 0]

theorem timed_out_request_is_repeated :
    Run NotifyState.Passes (fun _ _ => True) latePass submittedTwice ∧
      (submits ⟨some 1, 0⟩ submittedTwice.log).length = 2 ∧ oneADay.smsDailyCap = 1 :=
  ⟨Run.start.follow _ ⟨trivial, trivial, trivial, trivial, trivial, trivial, trivial⟩,
    by decide +kernel, rfl⟩

/-- The first request is accepted, and a second one would not be answered. -/
def answeredAtOnce : Handling :=
  { delivers (.sent none) with
    eskiz := ⟨.ok (), ⟨true, some "token", .timedOut, accepted, .timedOut, .timedOut⟩,
      ⟨true, some "token", .timedOut, .timedOut, .timedOut, .timedOut⟩⟩ }

/-- Two messages are queued, and two passes share the work. -/
def twoQueued : NotifyState := ⟨⟨[smsRow, { smsRow with id := 8 }], by decide⟩, Redis.empty, 1000⟩

def promptPasses : Fin 2 → Pass := fun _ => ⟨[], 1, fun _ => answeredAtOnce⟩

def prompt : NotifyWorld (Fin 2) := dispatchStart oneADay promptPasses twoQueued

/-- Both passes claim and reserve; the second one is over the cap. -/
def promptMoves : List (Move (Fin 2) NotifyState) :=
  [.act 0, .act 1, .act 0, .act 1, .act 0, .act 0, .act 0, .act 0, .act 1, .act 1]

theorem answered_requests_are_within_cap :
    ∃ world : NotifyWorld (Fin 2),
      Run NotifyState.Passes (fun world tid => AnsweredInTime world.shared (world.event tid))
        prompt world ∧
      reservations ⟨some 1, 0⟩ world.log = 2 ∧
      submits ⟨some 1, 0⟩ world.log = [(0, toClaimed smsRow)] ∧
      (submits ⟨some 1, 0⟩ world.log).length ≤ 1 := by
  have run : Run NotifyState.Passes
      (fun world tid => AnsweredInTime world.shared (world.event tid)) prompt
      (prompt.follow promptMoves) :=
    Run.start.follow _ ⟨by decide +kernel, by decide +kernel, by decide +kernel,
      by decide +kernel, by decide +kernel, by decide +kernel, by decide +kernel,
      by decide +kernel, by decide +kernel, by decide +kernel, trivial⟩
  exact ⟨_, run, by decide +kernel, by decide +kernel,
    sms_requests_within_cap oneADay promptPasses twoQueued ⟨some 1, 0⟩ rfl _ run⟩

end Sample

end BackendCore.Notifications
