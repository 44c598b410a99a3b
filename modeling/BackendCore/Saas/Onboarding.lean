import BackendCore.Lib.Advisory
import BackendCore.Shared.Errors

/-!
# Onboarding

`modules/saas/onboarding/service.py`: `complete_step` records a step of a tenant's
checklist under the advisory lock of the tenant, and queues
`saas.onboarding.completed` when the last step is in.  Queued events are published
after the commit, so the answer of a transaction carries whether it emitted.  Rows
are keyed by the columns of their unique index; the hash of the lock's text and the
`isprintable` behind `repr` are parameters.
-/

set_option autoImplicit false

namespace BackendCore.Saas

open BackendCore.Python BackendCore.ReadCommitted

/-! ## Rows and answers -/

/-- The rows the transactions see; `advisory` stands for an advisory lock. -/
inductive OnboardingRow where
  | progress (tenantId : Uuid) (stepKey : String) (completedAt : DateTime)
  | advisory (lock : Int)
  deriving DecidableEq

inductive OnboardingKey where
  | progress (tenantId : Uuid) (stepKey : String)
  | advisory (lock : Int)
  deriving DecidableEq

def OnboardingRow.key : OnboardingRow → OnboardingKey
  | .progress tenantId stepKey _ => .progress tenantId stepKey
  | .advisory lock => .advisory lock

def OnboardingRow.completedAt : OnboardingRow → Option DateTime
  | .progress _ _ time => some time
  | .advisory _ => none

abbrev Checklist := Table OnboardingRow.key

structure OnboardingStepDTO where
  key : String
  completed : Bool
  completedAt : Option DateTime
  deriving DecidableEq

structure OnboardingProgressDTO where
  steps : List OnboardingStepDTO
  completedCount : Nat
  total : Nat
  isComplete : Bool
  deriving DecidableEq

structure StepCall where
  stepKey : String
  now : DateTime
  deriving DecidableEq

/-- What a call did: the step, its clock, whether it emitted, and the checklist it returned. -/
structure Completion where
  call : StepCall
  emitted : Bool
  progress : OnboardingProgressDTO
  deriving DecidableEq

abbrev OnboardingProg := Prog OnboardingRow.key Exc Completion

/-! ## The service -/

def isProgressOf (tenantId : Uuid) : OnboardingRow → Bool
  | .progress owner _ _ => owner = tenantId
  | .advisory _ => false

/-- The dict of `_completed`, in the order of the rows. -/
def completedSteps (rows : List OnboardingRow) : List (String × DateTime) :=
  rows.filterMap fun
    | .progress _ stepKey completedAt => some (stepKey, completedAt)
    | .advisory _ => none

def onboardingLock (hash : String → Int) (tenantId : Uuid) : Int :=
  hash ("saas.onboarding:" ++ Uuid.toStr tenantId)

section Service

variable (isPrintable : Char → Bool) (hash : String → Int) (steps : List String)
variable (tenantId : Uuid)

def toDto (completed : List (String × DateTime)) : OnboardingProgressDTO :=
  let items := steps.map fun step =>
    (⟨step, (completed.lookup step).isSome, completed.lookup step⟩ : OnboardingStepDTO)
  let done := items.countP OnboardingStepDTO.completed
  ⟨items, done, steps.length, !steps.isEmpty && done == steps.length⟩

def completeStep (call : StepCall) : OnboardingProg :=
  if call.stepKey ∉ steps then
    .raise (.invariantViolationError
      ("unknown onboarding step: " ++ Json.reprStr isPrintable call.stepKey))
  else
    .advisory (.advisory (onboardingLock hash tenantId))
      (.select (isProgressOf tenantId) fun rows =>
        if ((completedSteps rows).lookup call.stepKey).isSome then
          .ret ⟨call, false, toDto steps (completedSteps rows)⟩
        else
          let completed := completedSteps rows ++ [(call.stepKey, call.now)]
          .insert (.progress tenantId call.stepKey call.now) fun
            | .done => .ret ⟨call,
                !steps.isEmpty && steps.all fun step => (completed.lookup step).isSome,
                toDto steps completed⟩
            | _ => .raise .integrityError)

/-- The checklist read; the permission guard passes or raises. -/
def progress (permitted : Except Exc Unit) (table : Checklist) :
    Except Exc OnboardingProgressDTO :=
  permitted.map fun _ => toDto steps (completedSteps (table.select (isProgressOf tenantId)))

end Service

/-! ## Completions in the order of their commits -/

/-- The time of the first committed completion of a step. -/
def firstCompleted (log : List Completion) (step : String) : Option DateTime :=
  (log.find? fun entry => entry.call.stepKey = step).map fun entry => entry.call.now

def finished (steps : List String) (log : List Completion) : Bool :=
  steps.all fun step => (firstCompleted log step).isSome

theorem firstCompleted_concat (log : List Completion) (entry : Completion) (step : String) :
    firstCompleted (log ++ [entry]) step =
      (firstCompleted log step).or
        (if entry.call.stepKey = step then some entry.call.now else none) := by
  rw [firstCompleted, firstCompleted, List.find?_append]
  cases log.find? fun entry => entry.call.stepKey = step with
  | some found => rfl
  | none =>
    by_cases here : entry.call.stepKey = step
    · simp [here]
    · simp [here]

theorem finished_concat {steps : List String} {log : List Completion}
    (done : finished steps log = true) (entry : Completion) :
    finished steps (log ++ [entry]) = true := by
  rw [finished, List.all_eq_true] at done ⊢
  intro step member
  rw [firstCompleted_concat, Option.isSome_or, done step member, Bool.true_or]

theorem finished_nil {steps : List String} (nonempty : steps ≠ []) :
    finished steps [] = false := by
  cases steps with
  | nil => exact absurd rfl nonempty
  | cons step rest => rfl

/-- The dict and the log agree on every step. -/
def Agree (completed : List (String × DateTime)) (log : List Completion) : Prop :=
  ∀ step, completed.lookup step = firstCompleted log step

section Lists

variable {steps : List String} {completed : List (String × DateTime)} {log : List Completion}

theorem isComplete_toDto (agree : Agree completed log) (nonempty : steps ≠ []) :
    (toDto steps completed).isComplete = finished steps log := by
  have filled : steps.isEmpty = false := by
    rw [Bool.eq_false_iff, ne_eq, List.isEmpty_iff]
    exact nonempty
  have counted : (steps.map fun step => (⟨step, (completed.lookup step).isSome,
      completed.lookup step⟩ : OnboardingStepDTO)).countP OnboardingStepDTO.completed =
      steps.countP fun step => (firstCompleted log step).isSome := by
    rw [List.countP_map]
    congr 1
    funext step
    exact congrArg Option.isSome (agree step)
  simp only [toDto]
  rw [counted, filled, Bool.not_false, Bool.true_and, Bool.eq_iff_iff, beq_iff_eq,
    List.countP_eq_length, finished, List.all_eq_true]

theorem all_lookup (agree : Agree completed log) (nonempty : steps ≠ []) :
    (!steps.isEmpty && steps.all fun step => (completed.lookup step).isSome) =
      finished steps log := by
  have filled : steps.isEmpty = false := by
    rw [Bool.eq_false_iff, ne_eq, List.isEmpty_iff]
    exact nonempty
  have same : (fun step => (completed.lookup step).isSome) =
      fun step => (firstCompleted log step).isSome := by
    funext step
    rw [agree step]
  rw [filled, same, Bool.not_false, Bool.true_and, finished]

theorem Agree.repeated (agree : Agree completed log) {entry : Completion}
    (known : (completed.lookup entry.call.stepKey).isSome = true) :
    Agree completed (log ++ [entry]) := by
  intro step
  rw [firstCompleted_concat, ← agree step]
  by_cases here : entry.call.stepKey = step
  · rw [← here]
    obtain ⟨time, found⟩ := Option.isSome_iff_exists.mp known
    rw [found]
    rfl
  · rw [if_neg here, Option.or_none]

theorem Agree.added (agree : Agree completed log) (entry : Completion) :
    Agree (completed ++ [(entry.call.stepKey, entry.call.now)]) (log ++ [entry]) := by
  intro step
  rw [firstCompleted_concat, ← agree step, List.lookup_append]
  by_cases here : entry.call.stepKey = step
  · rw [← here, if_pos rfl, List.lookup_cons_self]
  · have other : (step == entry.call.stepKey) = false := beq_eq_false_iff_ne.mpr (Ne.symm here)
    rw [if_neg here, List.lookup_cons, other]
    rfl

end Lists

/-- Every answer is right for the completions committed before it. -/
def Honest (steps : List String) (log : List Completion) : Prop :=
  ∀ before entry, before ++ [entry] <+: log →
    entry.emitted = (finished steps (before ++ [entry]) && !finished steps before) ∧
      entry.progress.isComplete = finished steps (before ++ [entry])

theorem Honest.concat {steps : List String} {log : List Completion} (honest : Honest steps log)
    {entry : Completion}
    (emitted : entry.emitted = (finished steps (log ++ [entry]) && !finished steps log))
    (reported : entry.progress.isComplete = finished steps (log ++ [entry])) :
    Honest steps (log ++ [entry]) := by
  intro before other starts
  rcases List.prefix_concat_iff.mp starts with whole | earlier
  · obtain ⟨rfl, last⟩ := List.append_inj' whole rfl
    cases last
    exact ⟨emitted, reported⟩
  · exact honest before other earlier

theorem Honest.count {steps : List String} (nonempty : steps ≠ []) {log : List Completion}
    (honest : Honest steps log) :
    log.countP Completion.emitted = if finished steps log then 1 else 0 := by
  induction log using List.reverseRecOn with
  | nil => rw [finished_nil nonempty]; rfl
  | append_singleton log entry ih =>
    have before := ih fun first other starts =>
      honest first other (starts.trans (List.prefix_append _ _))
    have now := (honest log entry (List.prefix_refl _)).1
    rw [List.countP_append, before, List.countP_singleton, now]
    cases done : finished steps log with
    | true => rw [finished_concat done entry]; rfl
    | false =>
      cases finished steps (log ++ [entry]) with
      | true => rfl
      | false => rfl

/-! ## The contract -/

theorem lookup_completedSteps (rows : List OnboardingRow) (tenantId : Uuid) (step : String) :
    (completedSteps (rows.filter (isProgressOf tenantId))).lookup step =
      (rows.find? fun row => row.key = .progress tenantId step).bind
        OnboardingRow.completedAt := by
  induction rows with
  | nil => rfl
  | cons row rows ih =>
    cases row with
    | advisory lock =>
      rw [List.filter_cons_of_neg Bool.false_ne_true, ih, List.find?_cons_of_neg]
      exact fun same => nomatch of_decide_eq_true same
    | progress owner stepKey time =>
      by_cases own : owner = tenantId
      · subst own
        have chosen : isProgressOf owner (.progress owner stepKey time) = true :=
          decide_eq_true rfl
        rw [List.filter_cons_of_pos chosen]
        by_cases here : stepKey = step
        · subst here
          rw [List.find?_cons_of_pos]
          · exact List.lookup_cons_self
          · exact decide_eq_true rfl
        · have other : (step == stepKey) = false := beq_eq_false_iff_ne.mpr (Ne.symm here)
          rw [List.find?_cons_of_neg, ← ih]
          · simp only [completedSteps, List.filterMap_cons, List.lookup_cons, other]
          · intro same
            cases of_decide_eq_true same
            exact here rfl
      · rw [List.filter_cons_of_neg, ih, List.find?_cons_of_neg]
        · intro same
          cases of_decide_eq_true same
          exact own rfl
        · intro chosen
          exact own (of_decide_eq_true chosen)

section Runs

variable (isPrintable : Char → Bool) (hash : String → Int) (steps : List String)
variable (tenantId : Uuid)

/-- The stored steps are those of the log, with the time of their first completion. -/
structure Recorded (base : Base OnboardingRow.key Completion) : Prop where
  stored : ∀ step, base.table.get (.progress tenantId step) =
    (firstCompleted base.log step).map (OnboardingRow.progress tenantId step)
  honest : Honest steps base.log
  latched : base.table.get (.advisory (onboardingLock hash tenantId)) =
    some (.advisory (onboardingLock hash tenantId))

/-- Only a holder of the tenant's lock changes its steps. -/
def onboardingContract : Contract OnboardingRow.key Exc Completion where
  invariant := Recorded hash steps tenantId
  guards := fun k now later => k = .advisory (onboardingLock hash tenantId) →
    ∀ step, later.get (.progress tenantId step) = now.get (.progress tenantId step)
  guards_refl := fun _ _ _ _ => rfl
  guards_trans := fun _ _ _ _ first second here step => (second here step).trans (first here step)

def noStepIndexes : List (OnboardingRow → Option Unit) := []

variable {hash steps tenantId}
variable {base last : Base OnboardingRow.key Completion}
variable {changes : List (Change OnboardingKey OnboardingRow)} {locks : List OnboardingKey}
variable {phase : Phase OnboardingRow.key Exc Completion}

theorem Recorded.agree (recorded : Recorded hash steps tenantId base) :
    Agree (completedSteps (base.table.select (isProgressOf tenantId))) base.log := by
  intro step
  have found := lookup_completedSteps base.table.rows tenantId step
  change _ = (base.table.get (.progress tenantId step)).bind OnboardingRow.completedAt at found
  rw [recorded.stored step] at found
  refine found.trans ?_
  cases firstCompleted base.log step with
  | none => rfl
  | some time => rfl

theorem Agree.later {completed : List (String × DateTime)} (agree : Agree completed base.log)
    (recorded : Recorded hash steps tenantId base)
    (rely : (onboardingContract hash steps tenantId).Rely noStepIndexes phase changes locks base
      last) (held : .advisory (onboardingLock hash tenantId) ∈ locks) :
    Agree completed last.log := by
  intro step
  have same := rely.guards _ held rfl step
  rw [rely.invariant.stored step, recorded.stored step] at same
  rw [agree step]
  cases now : firstCompleted base.log step with
  | none =>
    rw [now] at same
    exact (Option.map_eq_none_iff.mp same).symm
  | some time =>
    rw [now] at same
    obtain ⟨other, found, equal⟩ := Option.map_eq_some_iff.mp same
    cases equal
    exact found.symm

theorem commits_repeated {completed : List (String × DateTime)} {call : StepCall}
    (recorded : Recorded hash steps tenantId base) (agree : Agree completed base.log)
    (nonempty : steps ≠ []) (known : (completed.lookup call.stepKey).isSome = true) :
    (onboardingContract hash steps tenantId).Commits ⟨call, false, toDto steps completed⟩ []
      locks base := by
  have after : Agree completed (base.log ++ [⟨call, false, toDto steps completed⟩]) :=
    agree.repeated known
  have same : ∀ step, firstCompleted (base.log ++ [⟨call, false, toDto steps completed⟩]) step =
      firstCompleted base.log step := fun step => (after step).symm.trans (agree step)
  have unchanged : finished steps (base.log ++ [⟨call, false, toDto steps completed⟩]) =
      finished steps base.log := by
    simp only [finished, same]
  refine ⟨⟨?_, ?_, recorded.latched⟩, trivial, fun _ _ _ _ => rfl, trivial⟩
  · intro step
    rw [same step]
    exact recorded.stored step
  · refine recorded.honest.concat ?_ (isComplete_toDto after nonempty)
    rw [unchanged, Bool.and_not_self]

theorem commits_added {completed : List (String × DateTime)} {call : StepCall}
    (recorded : Recorded hash steps tenantId base) (agree : Agree completed base.log)
    (nonempty : steps ≠ []) (member : call.stepKey ∈ steps)
    (unknown : ¬(completed.lookup call.stepKey).isSome = true)
    (held : .advisory (onboardingLock hash tenantId) ∈ locks) :
    (onboardingContract hash steps tenantId).Commits
      ⟨call, !steps.isEmpty && steps.all fun step =>
          ((completed ++ [(call.stepKey, call.now)]).lookup step).isSome,
        toDto steps (completed ++ [(call.stepKey, call.now)])⟩
      [.store (.progress tenantId call.stepKey call.now)] locks base := by
  generalize answered : (⟨call, !steps.isEmpty && steps.all fun step =>
      ((completed ++ [(call.stepKey, call.now)]).lookup step).isSome,
    toDto steps (completed ++ [(call.stepKey, call.now)])⟩ : Completion) = answer
  have called : answer.call = call := by rw [← answered]
  have emitted : answer.emitted = (!steps.isEmpty && steps.all fun step =>
      ((completed ++ [(call.stepKey, call.now)]).lookup step).isSome) := by rw [← answered]
  have reported : answer.progress = toDto steps (completed ++ [(call.stepKey, call.now)]) := by
    rw [← answered]
  have fresh : firstCompleted base.log call.stepKey = none := by
    rw [← agree]
    exact Option.not_isSome_iff_eq_none.mp unknown
  have after : Agree (completed ++ [(call.stepKey, call.now)]) (base.log ++ [answer]) := by
    have added := agree.added answer
    rw [called] at added
    exact added
  have waiting : finished steps base.log = false := by
    rw [finished, List.all_eq_false]
    exact ⟨call.stepKey, member, by rw [fresh]; exact Bool.false_ne_true⟩
  refine ⟨⟨?_, ?_, ?_⟩, trivial, ?_, trivial⟩
  · intro step
    change ((base.table.store (.progress tenantId call.stepKey call.now)).get _) = _
    rw [Table.get_store, firstCompleted_concat, called, OnboardingRow.key]
    by_cases here : step = call.stepKey
    · subst here
      rw [fresh, if_pos rfl, if_pos rfl]
      rfl
    · rw [if_neg (fun same => here (OnboardingKey.progress.inj same).2), if_neg (Ne.symm here),
        Option.or_none]
      exact recorded.stored step
  · refine recorded.honest.concat ?_ ?_
    · rw [waiting, emitted, Bool.not_false, Bool.and_true]
      exact all_lookup after nonempty
    · rw [reported]
      exact isComplete_toDto after nonempty
  · change ((base.table.store (.progress tenantId call.stepKey call.now)).get _) = _
    rw [Table.get_store, if_neg fun same => nomatch same]
    exact recorded.latched
  · rintro k free rfl
    exact absurd held free

theorem completeStep_outline (call : StepCall) (recorded : Recorded hash steps tenantId base) :
    (completeStep isPrintable hash steps tenantId call).Outline
      (onboardingContract hash steps tenantId) noStepIndexes [] [] base := by
  unfold completeStep
  by_cases member : call.stepKey ∈ steps
  · have nonempty : steps ≠ [] := List.ne_nil_of_mem member
    rw [if_neg (not_not.mpr member)]
    refine Prog.outline_advisory (.advisory (onboardingLock hash tenantId))
      (fun _ base => Recorded hash steps tenantId base) rfl recorded ?_ ?_ ?_ ?_
    · exact fun phase locks now last _ rely => rely.invariant
    · exact fun k locks now keeps => keeps
    · exact fun locks now keeps => keeps.latched
    · intro locks now held keeps first rely
      have agree := rely.invariant.agree
      change Prog.Outline _ _ (if ((completedSteps
        (first.table.select (isProgressOf tenantId))).lookup call.stepKey).isSome then _ else _)
        _ _ _
      by_cases known : ((completedSteps
          (first.table.select (isProgressOf tenantId))).lookup call.stepKey).isSome = true
      · rw [if_pos known]
        intro final after
        exact commits_repeated after.invariant (agree.later rely.invariant after held) nonempty
          known
      · rw [if_neg known]
        intro second then_
        split
        · intro final after
          have there := agree.later rely.invariant then_ held
          have lasts := there.later then_.invariant after (List.mem_cons_of_mem _ held)
          exact commits_added after.invariant lasts nonempty member known
            (List.mem_cons_of_mem _ held)
        · trivial
  · rw [if_pos member]
    trivial

end Runs

/-! ## Whole runs -/

/-- In every run: the steps are stored with the time of their first committed completion,
the event is emitted by the one transaction that finishes the checklist, and the
checklist is reported complete from that transaction on. -/
theorem onboarding_completes_once {Tid : Type} [DecidableEq Tid] (isPrintable : Char → Bool)
    (hash : String → Int) (steps : List String) (nonempty : steps ≠ []) (tenantId : Uuid)
    (table : Checklist)
    (latched : table.get (.advisory (onboardingLock hash tenantId)) =
      some (.advisory (onboardingLock hash tenantId)))
    (fresh : ∀ step, table.get (.progress tenantId step) = none) (call : Tid → StepCall)
    {world : World Tid OnboardingRow.key Exc Completion} {log : List Completion}
    (run : World.LogRun noStepIndexes True (fun _ _ _ => True)
      (World.start table fun tid => completeStep isPrintable hash steps tenantId (call tid), [])
      (world, log)) :
    (∀ step, world.table.get (.progress tenantId step) =
        (firstCompleted log step).map (OnboardingRow.progress tenantId step)) ∧
      log.countP Completion.emitted = (if finished steps log then 1 else 0) ∧
      (∀ before entry, before ++ [entry] <+: log →
        (entry.emitted = true ↔
          finished steps (before ++ [entry]) = true ∧ finished steps before = false) ∧
        (entry.progress.isComplete = true ↔ finished steps (before ++ [entry]) = true)) ∧
      (progress steps tenantId (.ok ()) world.table).map OnboardingProgressDTO.isComplete =
        .ok (finished steps log) := by
  have begins : Recorded hash steps tenantId ⟨table, []⟩ := by
    refine ⟨fresh, ?_, latched⟩
    intro before entry starts
    exact absurd (List.prefix_nil.mp starts) (List.append_ne_nil_of_right_ne_nil _ (by simp))
  have start : Upholds (onboardingContract hash steps tenantId) noStepIndexes
      (World.start table fun tid => completeStep isPrintable hash steps tenantId (call tid), []) :=
    upholds_start table _ (List.forall_mem_nil _) begins
      fun tid => completeStep_outline isPrintable (call tid) begins
  obtain ⟨upholds, _, _⟩ := start.run run fun _ _ _ _ _ _ _ => trivial
  have recorded : Recorded hash steps tenantId ⟨world.table, log⟩ := upholds.invariant
  refine ⟨recorded.stored, recorded.honest.count nonempty, ?_, ?_⟩
  · intro before entry starts
    obtain ⟨emitted, reported⟩ := recorded.honest before entry starts
    rw [emitted, reported, Bool.and_eq_true, Bool.not_eq_true']
    exact ⟨Iff.rfl, Iff.rfl⟩
  · exact congrArg Except.ok (isComplete_toDto recorded.agree nonempty)

namespace Sample

def emptyChecklist : Checklist := ⟨[.advisory 0], by decide⟩

def morning : DateTime := ⟨2026, 7, 8, 28800000000, by decide⟩

/-- Two requests that finish the last two steps at once. -/
def lastSteps (second : Bool) : StepCall := ⟨if second then "invite" else "profile", morning⟩

def finishing : World Bool OnboardingRow.key Exc Completion :=
  World.start emptyChecklist fun second =>
    completeStep (fun _ => true) (fun _ => 0) ["profile", "invite"] 7 (lastSteps second)

/-- The second request reaches the lock while the first one holds it. -/
def finishingOrder : List Bool :=
  [false, false, false, true, true, false, false, false, false, true, true, true, true, true]

theorem last_steps_complete_once : ∃ log,
    World.LogRun noStepIndexes True (fun _ _ _ => True) (finishing, [])
        (finishing.follow noStepIndexes finishingOrder, log) ∧
      log.countP Completion.emitted = 1 := by
  have reaches : World.Reaches noStepIndexes True finishing
      (finishing.follow noStepIndexes finishingOrder) := follow_reaches finishingOrder finishing
  obtain ⟨log, run⟩ := reaches.logged []
  refine ⟨log, run, ?_⟩
  obtain ⟨stored, counted, _, _⟩ := onboarding_completes_once (fun _ => true) (fun _ => 0)
    ["profile", "invite"] (by decide) 7 emptyChecklist (by decide +kernel)
    (fun step => by
      rw [Table.get_eq_none_iff]
      intro row member same
      rw [List.mem_singleton.mp member] at same
      nomatch same) lastSteps run
  have done : ∀ step ∈ ["profile", "invite"], (firstCompleted log step).isSome = true := by
    intro step member
    have kept : ((finishing.follow noStepIndexes finishingOrder).table.get
        (.progress 7 step)).isSome = true := by
      revert step
      decide +kernel
    rw [stored step, Option.isSome_map] at kept
    exact kept
  have all : finished ["profile", "invite"] log = true := List.all_eq_true.mpr done
  rw [counted, all]
  rfl

end Sample

end BackendCore.Saas
