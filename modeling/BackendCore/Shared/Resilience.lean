import Mathlib

/-!
# Retries and the circuit breaker

`call_resilient` runs an operation under a bounded number of attempts and asks a circuit
breaker before each of them.  The breaker reads its clock when an open breaker is asked and
when it opens; the sleeps between attempts show only in those readings.

What awaiting the operation under its timeout yields is a script: the `k`-th invocation, over
all calls, has the `k`-th outcome.
-/

set_option autoImplicit false

namespace BackendCore.Resilience

/-! ## The circuit breaker -/

/-- The source's `"closed"`, `"open"` and `"half_open"`. -/
inductive BreakerState where
  | closed
  | opened
  | halfOpen
  deriving DecidableEq, Repr

structure Breaker (T : Type) where
  failures : Nat
  openedAt : T
  state : BreakerState
  deriving DecidableEq, Repr

structure Settings (T : Type) where
  failureThreshold : Nat
  recoveryTime : T
  clock : Nat → T

/-- The breaker with the number of clock readings and of invocations of the operation so far. -/
structure Machine (T : Type) where
  breaker : Breaker T
  readings : Nat
  invocations : Nat

section Model

variable {T A E : Type} [AddCommGroup T] [LinearOrder T]

def Machine.start : Machine T :=
  ⟨⟨0, 0, .closed⟩, 0, 0⟩

def allow (settings : Settings T) (machine : Machine T) : Bool × Machine T :=
  match machine.breaker.state with
  | .opened =>
    let asked := { machine with readings := machine.readings + 1 }
    if settings.recoveryTime ≤ settings.clock machine.readings - machine.breaker.openedAt then
      (true, { asked with breaker := { machine.breaker with state := .halfOpen } })
    else
      (false, asked)
  | .closed | .halfOpen => (true, machine)

def recordSuccess (machine : Machine T) : Machine T :=
  { machine with breaker := { machine.breaker with failures := 0, state := .closed } }

def recordFailure (settings : Settings T) (machine : Machine T) : Machine T :=
  let failures := machine.breaker.failures + 1
  if machine.breaker.state = .halfOpen ∨ settings.failureThreshold ≤ failures then
    { machine with
      breaker := ⟨failures, settings.clock machine.readings, .opened⟩
      readings := machine.readings + 1 }
  else
    { machine with breaker := { machine.breaker with failures := failures } }

/-! ## The retry loop -/

inductive Outcome (A E : Type) where
  | returns (value : A)
  | raises (error : E)
  deriving DecidableEq, Repr

inductive Result (A E : Type) where
  | returned (value : A)
  | raised (error : E)
  /-- `CircuitOpenError` raised by `call_resilient` itself. -/
  | circuitOpen
  deriving DecidableEq, Repr

/-- The arguments of one call: `RetryPolicy.attempts`, the `transient` tuple, and what
`error_cls(str(exc))` builds. -/
structure Policy (E : Type) where
  attempts : Nat
  attempts_pos : 1 ≤ attempts
  cancelled : E → Bool
  transient : E → Bool
  external : E → Bool
  wrap : E → E

/-- `asyncio.CancelledError` is re-raised before the `transient` clause is looked at. -/
def Policy.retried (policy : Policy E) (error : E) : Bool :=
  !policy.cancelled error && policy.transient error

def Policy.final (policy : Policy E) (error : E) : E :=
  if policy.external error then error else policy.wrap error

/-- One pass of the loop: the breaker as the pass found it, the state `allow` left, the clock
when the operation is invoked, and what awaiting it yielded (`none` when it was refused). -/
structure Attempt (T A E : Type) where
  before : Breaker T
  during : BreakerState
  moment : T
  outcome : Option (Outcome A E)

def record (settings : Settings T) (policy : Policy E) (machine : Machine T) :
    Outcome A E → Machine T
  | .returns _ => recordSuccess machine
  | .raises error =>
    if policy.retried error then recordFailure settings machine else machine

def attempt (settings : Settings T) (script : Nat → Outcome A E) (policy : Policy E)
    (machine : Machine T) : Attempt T A E × Machine T :=
  let (allowed, asked) := allow settings machine
  let tried := Attempt.mk machine.breaker asked.breaker.state (settings.clock asked.readings)
  if allowed then
    let outcome := script asked.invocations
    let invoked := { asked with invocations := asked.invocations + 1 }
    (tried (some outcome), record settings policy invoked outcome)
  else
    (tried none, asked)

/-- The loop with `left` attempts after the present one. -/
def attemptsFrom (settings : Settings T) (script : Nat → Outcome A E) (policy : Policy E) :
    Nat → Machine T → List (Attempt T A E) × Result A E × Machine T
  | left, machine =>
    let (tried, next) := attempt settings script policy machine
    match tried.outcome with
    | none => ([tried], .circuitOpen, next)
    | some (.returns value) => ([tried], .returned value, next)
    | some (.raises error) =>
      if policy.retried error then
        match left with
        | 0 => ([tried], .raised (policy.final error), next)
        | more + 1 =>
          let (rest, result, last) := attemptsFrom settings script policy more next
          (tried :: rest, result, last)
      else
        ([tried], .raised error, next)

structure Call (T A E : Type) where
  policy : Policy E
  attempts : List (Attempt T A E)
  result : Result A E

def callResilient (settings : Settings T) (script : Nat → Outcome A E) (policy : Policy E)
    (machine : Machine T) : Call T A E × Machine T :=
  let (attempts, result, last) :=
    attemptsFrom settings script policy (policy.attempts - 1) machine
  (⟨policy, attempts, result⟩, last)

end Model

/-! ## What the breaker was told -/

section Records

variable {T A E : Type}

inductive Recorded where
  | success
  | failure (during : BreakerState)
  deriving DecidableEq, Repr

def Attempt.recorded (policy : Policy E) (tried : Attempt T A E) : Option Recorded :=
  match tried.outcome with
  | none => none
  | some (.returns _) => some .success
  | some (.raises error) => if policy.retried error then some (.failure tried.during) else none

def Call.recorded (call : Call T A E) : List Recorded :=
  call.attempts.filterMap (Attempt.recorded call.policy)

def failuresAfter (count : Nat) : Recorded → Nat
  | .success => 0
  | .failure _ => count + 1

/-- The failures in a row since the last success. -/
def streak (records : List Recorded) : Nat :=
  records.foldl failuresAfter 0

theorem streak_append_one (records : List Recorded) (last : Recorded) :
    streak (records ++ [last]) = failuresAfter (streak records) last := by
  unfold streak
  rw [List.foldl_append, List.foldl_cons, List.foldl_nil]

/-! ## The breaker along attempts and calls -/

/-- The failed record that opened the breaker: a half-open probe, or the threshold-th failure
in a row. -/
def OpenedBy (settings : Settings T) (records : List Recorded) : Prop :=
  ∃ earlier during, records = earlier ++ [.failure during] ∧
    (during = .halfOpen ∨ streak records = settings.failureThreshold)

structure Consistent (settings : Settings T) (records : List Recorded) (breaker : Breaker T) :
    Prop where
  counted : breaker.failures = streak records
  closed_below : breaker.state = .closed → breaker.failures < settings.failureThreshold
  opened_by : breaker.state = .opened → OpenedBy settings records

theorem Consistent.succeeded {settings : Settings T} {records : List Recorded}
    {machine : Machine T} (threshold_pos : 1 ≤ settings.failureThreshold) :
    Consistent settings (records ++ [.success]) (recordSuccess machine).breaker where
  counted := (streak_append_one records .success).symm
  closed_below := fun _ => threshold_pos
  opened_by := fun isOpened => nomatch isOpened

/-- A recorded failure: below the threshold the breaker stays closed, and otherwise the failure
was the threshold-th or a probe. -/
theorem Consistent.failed {settings : Settings T} {records : List Recorded}
    {machine : Machine T} (consistent : Consistent settings records machine.breaker)
    (shut : machine.breaker.state ≠ .opened) :
    Consistent settings (records ++ [.failure machine.breaker.state])
      (recordFailure settings machine).breaker := by
  have counted : machine.breaker.failures + 1 =
      streak (records ++ [.failure machine.breaker.state]) := by
    rw [streak_append_one, consistent.counted]
    rfl
  unfold recordFailure
  dsimp only
  by_cases opens : machine.breaker.state = .halfOpen ∨
      settings.failureThreshold ≤ machine.breaker.failures + 1
  · rw [if_pos opens]
    refine ⟨counted, (fun isClosed => nomatch isClosed), fun _ => ⟨records, _, rfl, ?_⟩⟩
    cases known : machine.breaker.state with
    | halfOpen => exact .inl rfl
    | opened => exact absurd known shut
    | closed =>
      have below : machine.breaker.failures < settings.failureThreshold :=
        consistent.closed_below known
      have reached : settings.failureThreshold ≤ machine.breaker.failures + 1 :=
        opens.resolve_left (fun isHalfOpen => nomatch known.symm.trans isHalfOpen)
      rw [known] at counted
      exact .inr (by omega)
  · rw [if_neg opens]
    push Not at opens
    exact ⟨counted, fun _ => opens.2, fun isOpened => absurd isOpened shut⟩

theorem Consistent.recorded {settings : Settings T} {policy : Policy E}
    {records : List Recorded} (machine : Machine T) (outcome : Outcome A E)
    (before : Breaker T) (moment : T)
    (threshold_pos : 1 ≤ settings.failureThreshold)
    (consistent : Consistent settings records machine.breaker)
    (shut : machine.breaker.state ≠ .opened) :
    Consistent settings
      (records ++ (Attempt.recorded policy
        ⟨before, machine.breaker.state, moment, some outcome⟩).toList)
      (record settings policy machine outcome).breaker := by
  unfold Attempt.recorded record
  cases outcome with
  | returns value => exact Consistent.succeeded threshold_pos
  | raises error =>
    dsimp only
    by_cases retried : policy.retried error
    · rw [if_pos retried, if_pos retried]
      exact consistent.failed shut
    · rw [if_neg retried, if_neg retried]
      exact (List.append_nil records).symm ▸ consistent

end Records

/-! ## One attempt -/

section Attempts

variable {T A E : Type} [AddCommGroup T] [LinearOrder T]

/-- An attempt keeps to the breaker: a closed breaker is below the threshold, and an invocation
is never made while the breaker is open and its recovery time is not over. -/
structure Attempt.Careful (settings : Settings T) (tried : Attempt T A E) : Prop where
  closed_below : tried.before.state = .closed →
    tried.before.failures < settings.failureThreshold
  kept_away : tried.outcome.isSome →
    ¬(tried.before.state = .opened ∧
      tried.moment - tried.before.openedAt < settings.recoveryTime)

variable [IsOrderedAddMonoid T]

end Attempts

/-! ## How a call ends -/

section Calls

variable {T A E : Type}

/-- How the loop may end with `left` attempts after its first: every attempt but the last failed
transiently. -/
inductive Ends (policy : Policy E) : Nat → List (Attempt T A E) → Result A E → Prop
  | refused {left : Nat} {tried : Attempt T A E} (outcome : tried.outcome = none) :
      Ends policy left [tried] .circuitOpen
  | returned {left : Nat} {tried : Attempt T A E} {value : A}
      (outcome : tried.outcome = some (.returns value)) :
      Ends policy left [tried] (.returned value)
  | fatal {left : Nat} {tried : Attempt T A E} {error : E}
      (outcome : tried.outcome = some (.raises error)) (fatal : policy.retried error = false) :
      Ends policy left [tried] (.raised error)
  | exhausted {tried : Attempt T A E} {error : E}
      (outcome : tried.outcome = some (.raises error)) (retried : policy.retried error) :
      Ends policy 0 [tried] (.raised (policy.final error))
  | again {left : Nat} {tried : Attempt T A E} {rest : List (Attempt T A E)}
      {result : Result A E} {error : E}
      (outcome : tried.outcome = some (.raises error)) (retried : policy.retried error)
      (ends : Ends policy left rest result) :
      Ends policy (left + 1) (tried :: rest) result

/-- The attempt invoked the operation, which failed with a transient error. -/
def Attempt.FailedTransiently (policy : Policy E) (tried : Attempt T A E) : Prop :=
  ∃ error, tried.outcome = some (.raises error) ∧ policy.retried error

theorem only_of_split {first tried : Attempt T A E} {earlier later : List (Attempt T A E)}
    (split : [first] = earlier ++ tried :: later) :
    earlier = [] ∧ later = [] ∧ first = tried := by
  cases earlier with
  | nil =>
    obtain ⟨same, ended⟩ := List.cons.inj split
    exact ⟨rfl, ended.symm, same⟩
  | cons head others =>
    have ended : others ++ tried :: later = [] := (List.cons.inj split).2.symm
    exact absurd ended (List.append_ne_nil_of_right_ne_nil others (List.cons_ne_nil _ _))

theorem Ends.length_le {policy : Policy E} {left : Nat} {attempts : List (Attempt T A E)}
    {result : Result A E} (ends : Ends policy left attempts result) :
    attempts.length ≤ left + 1 := by
  induction ends with
  | refused | returned | fatal | exhausted => exact Nat.succ_le_succ (Nat.zero_le _)
  | again _ _ _ shorter => exact Nat.succ_le_succ shorter

theorem Ends.decided {policy : Policy E} {left : Nat} {attempts : List (Attempt T A E)}
    {result : Result A E} (ends : Ends policy left attempts result) :
    ∀ {earlier later : List (Attempt T A E)} {tried : Attempt T A E},
      attempts = earlier ++ tried :: later → ¬tried.FailedTransiently policy →
      later = [] ∧ Ends policy 0 [tried] result := by
  induction ends with
  | refused outcome =>
    intro earlier later tried split _
    obtain ⟨rfl, rfl, rfl⟩ := only_of_split split
    exact ⟨rfl, .refused outcome⟩
  | returned outcome =>
    intro earlier later tried split _
    obtain ⟨rfl, rfl, rfl⟩ := only_of_split split
    exact ⟨rfl, .returned outcome⟩
  | fatal outcome isFatal =>
    intro earlier later tried split _
    obtain ⟨rfl, rfl, rfl⟩ := only_of_split split
    exact ⟨rfl, .fatal outcome isFatal⟩
  | @exhausted first error outcome retried =>
    intro earlier later tried split notTransient
    obtain ⟨rfl, rfl, rfl⟩ := only_of_split split
    exact absurd ⟨error, outcome, retried⟩ notTransient
  | @again left first rest result error outcome retried _ hypothesis =>
    intro earlier later tried split notTransient
    cases earlier with
    | nil =>
      obtain ⟨rfl, _⟩ := List.cons.inj split
      exact absurd ⟨error, outcome, retried⟩ notTransient
    | cons head others => exact hypothesis (List.cons.inj split).2 notTransient

theorem Ends.last {policy : Policy E} {left : Nat} {attempts : List (Attempt T A E)}
    {result : Result A E} (ends : Ends policy left attempts result) :
    ∃ tried ∈ attempts, Ends policy 0 [tried] result := by
  induction ends with
  | refused outcome => exact ⟨_, List.mem_singleton_self _, .refused outcome⟩
  | returned outcome => exact ⟨_, List.mem_singleton_self _, .returned outcome⟩
  | fatal outcome isFatal => exact ⟨_, List.mem_singleton_self _, .fatal outcome isFatal⟩
  | exhausted outcome retried => exact ⟨_, List.mem_singleton_self _, .exhausted outcome retried⟩
  | again _ _ _ hypothesis =>
    obtain ⟨tried, member, single⟩ := hypothesis
    exact ⟨tried, List.mem_cons_of_mem _ member, single⟩

/-- The loop stops early only after an attempt that was refused, succeeded or failed for good. -/
theorem Ends.stops {policy : Policy E} {left : Nat} {attempts : List (Attempt T A E)}
    {result : Result A E} (ends : Ends policy left attempts result) :
    attempts.length = left + 1 ∨
      ∃ last, attempts.getLast? = some last ∧ ¬last.FailedTransiently policy := by
  induction ends with
  | refused outcome =>
    refine Or.inr ⟨_, rfl, ?_⟩
    rintro ⟨error, raised, _⟩
    cases outcome.symm.trans raised
  | returned outcome =>
    refine Or.inr ⟨_, rfl, ?_⟩
    rintro ⟨error, raised, _⟩
    cases outcome.symm.trans raised
  | fatal outcome isFatal =>
    refine Or.inr ⟨_, rfl, ?_⟩
    rintro ⟨error, raised, retried⟩
    cases outcome.symm.trans raised
    exact absurd retried (Bool.eq_false_iff.mp isFatal)
  | exhausted => exact Or.inl rfl
  | again _ _ _ hypothesis =>
    rcases hypothesis with full | ⟨last, isLast, decided⟩
    · exact Or.inl (congrArg Nat.succ full)
    · refine Or.inr ⟨last, ?_, decided⟩
      rw [List.getLast?_cons, isLast]
      rfl

end Calls

/-! ## Any number of calls -/

section Sequences

variable {T A E : Type} [AddCommGroup T] [LinearOrder T] [IsOrderedAddMonoid T]

/-- The loop from a consistent breaker: how it ends, and the breaker it leaves. -/
structure Looped (settings : Settings T) (policy : Policy E) (left : Nat)
    (records : List Recorded) (loop : List (Attempt T A E) × Result A E × Machine T) :
    Prop where
  ends : Ends policy left loop.1 loop.2.1
  careful : ∀ tried ∈ loop.1, tried.Careful settings
  consistent : Consistent settings (records ++ loop.1.filterMap (Attempt.recorded policy))
    loop.2.2.breaker

omit [IsOrderedAddMonoid T] in
theorem Looped.single {settings : Settings T} {policy : Policy E} {left : Nat}
    {records : List Recorded} {tried : Attempt T A E} {result : Result A E} {next : Machine T}
    (ends : Ends policy left [tried] result) (careful : tried.Careful settings)
    (consistent : Consistent settings (records ++ (tried.recorded policy).toList)
      next.breaker) :
    Looped settings policy left records ([tried], result, next) where
  ends := ends
  careful := by
    intro member isMember
    rw [List.mem_singleton.mp isMember]
    exact careful
  consistent := by
    rw [List.filterMap_cons]
    generalize tried.recorded policy = told at consistent ⊢
    cases told with
    | none => exact consistent
    | some last => exact consistent

omit [IsOrderedAddMonoid T] in
theorem Looped.again {settings : Settings T} {policy : Policy E} {left : Nat}
    {records : List Recorded} {tried : Attempt T A E} {error : E}
    {loop : List (Attempt T A E) × Result A E × Machine T}
    (outcome : tried.outcome = some (.raises error)) (retried : policy.retried error)
    (careful : tried.Careful settings)
    (looped : Looped settings policy left (records ++ (tried.recorded policy).toList) loop) :
    Looped settings policy (left + 1) records (tried :: loop.1, loop.2.1, loop.2.2) where
  ends := .again outcome retried looped.ends
  careful := by
    intro member isMember
    cases List.mem_cons.mp isMember with
    | inl isHead => exact isHead ▸ careful
    | inr inRest => exact looped.careful member inRest
  consistent := by
    have consistent := looped.consistent
    rw [List.append_assoc] at consistent
    rw [List.filterMap_cons]
    generalize tried.recorded policy = told at consistent ⊢
    cases told with
    | none => exact consistent
    | some last => exact consistent

end Sequences

namespace Sample

/-- Two failures open the breaker for ten seconds; the clock counts the seconds. -/
def settings : Settings Int :=
  ⟨2, 10, fun reading => 6 * reading⟩

def failing : Nat → Outcome Bool Nat
  | 3 => .returns true
  | _ => .raises 0

end Sample

end BackendCore.Resilience
