import BackendCore.Billing.SubscriptionEvents

/-!
# Entitlements

The plan in force for a tenant, as the entitlement feature keeps it.  It never
reads billing's tables: its handlers map the subscription events onto one row a
tenant, and `effective_plan_code` reads that row.
-/

set_option autoImplicit false

namespace BackendCore.Saas

open BackendCore.Python BackendCore.Billing

/-! ## The row and its service -/

structure TenantEntitlement where
  planCode : String
  currentPeriodEnd : Option DateTime
  canceled : Bool
  deriving DecidableEq

/-- The row of one tenant, and the plan codes of the `saas.entitlement.changed` events
emitted so far. -/
structure Entitlements where
  row : Option TenantEntitlement
  changed : List String
  deriving DecidableEq

def Entitlements.empty : Entitlements := ⟨none, []⟩

def effectivePlanCode (now : DateTime) (state : Entitlements) : Option String :=
  match state.row with
  | none => none
  | some row =>
    if row.canceled && row.currentPeriodEnd.all fun finish => finish ≤ now then none
    else some row.planCode

def setActivePlan (planCode : String) (currentPeriodEnd : Option DateTime)
    (state : Entitlements) : Entitlements where
  row := some ⟨planCode, currentPeriodEnd, false⟩
  changed := state.changed ++ [planCode]

def markCanceled (state : Entitlements) : Entitlements :=
  match state.row with
  | none => state
  | some row => ⟨some { row with canceled := true }, state.changed ++ [row.planCode]⟩

/-- The end of a row whose plan ended at `endedAt`. -/
def endedBy (endedAt : DateTime) : Option DateTime → DateTime
  | none => endedAt
  | some finish => if endedAt < finish then endedAt else finish

def endPlan (planCode : String) (endedAt : DateTime) (state : Entitlements) : Entitlements :=
  match state.row with
  | none => state
  | some row =>
    if row.planCode ≠ planCode then state
    else
      ⟨some ⟨row.planCode, some (endedBy endedAt row.currentPeriodEnd), true⟩,
        state.changed ++ [planCode]⟩

/-! ## The subscribers -/

/-- An event as it is delivered. -/
structure Envelope where
  payload : Payload
  occurredAt : DateTime

/-- The handler of an event; an event of another name has none. -/
def handle (state : Entitlements) (event : Envelope) : Entitlements :=
  match event.payload with
  | .subscriptionActivated _ planCode currentPeriodEnd =>
    if planCode = "" then state else setActivePlan planCode (some currentPeriodEnd) state
  | .subscriptionCanceled _ _ => markCanceled state
  | .subscriptionEnded _ planCode _ =>
    if planCode = "" then state else endPlan planCode event.occurredAt state
  | _ => state

/-- Events handled one after the other, from before the first one. -/
def handleAll (delivered : List Envelope) : Entitlements := delivered.foldl handle .empty

theorem handleAll_concat (delivered : List Envelope) (event : Envelope) :
    handleAll (delivered ++ [event]) = handle (handleAll delivered) event := by
  rw [handleAll, List.foldl_append]
  rfl

/-! ## What the handlers do to the plan in force -/

theorem handle_coded {state : Entitlements}
    (coded : ∀ row, state.row = some row → row.planCode ≠ "") (event : Envelope) :
    ∀ row, (handle state event).row = some row → row.planCode ≠ "" := by
  intro row stored
  unfold handle at stored
  split at stored
  · split at stored
    · exact coded row stored
    · rename_i named
      cases stored
      exact named
  · unfold markCanceled at stored
    split at stored
    · exact coded row stored
    · rename_i old there
      cases stored
      exact coded old there
  · split at stored
    · exact coded row stored
    · unfold endPlan at stored
      split at stored
      · exact coded row stored
      · split at stored
        · exact coded row stored
        · rename_i old there _
          cases stored
          exact coded old there
  · exact coded row stored

/-- An activation of a plan without a code is ignored, so that no row is without one. -/
theorem handleAll_coded (delivered : List Envelope) :
    ∀ row, (handleAll delivered).row = some row → row.planCode ≠ "" := by
  induction delivered using List.reverseRecOn with
  | nil =>
    intro row stored
    cases stored
  | append_singleton rest event hypothesis =>
    rw [handleAll_concat]
    exact handle_coded hypothesis event

theorem effective_of_uncanceled {state : Entitlements} {row : TenantEntitlement}
    (now : DateTime) (stored : state.row = some row) (running : row.canceled = false) :
    effectivePlanCode now state = some row.planCode := by
  simp [effectivePlanCode, stored, running]

theorem effective_of_canceled {state : Entitlements} {planCode : String} {finish : DateTime}
    (now : DateTime) (stored : state.row = some ⟨planCode, some finish, true⟩) :
    effectivePlanCode now state = if now < finish then some planCode else none := by
  have order : finish ≤ now ↔ ¬now < finish := Int.not_lt.symm
  by_cases early : now < finish
  · simp [effectivePlanCode, stored, order, early]
  · simp [effectivePlanCode, stored, order, early]

theorem row_of_effective {now : DateTime} {state : Entitlements} {planCode : String}
    (inForce : effectivePlanCode now state = some planCode) :
    ∃ row, state.row = some row ∧ row.planCode = planCode := by
  unfold effectivePlanCode at inForce
  cases stored : state.row with
  | none =>
    rw [stored] at inForce
    cases inForce
  | some row =>
    rw [stored] at inForce
    dsimp only at inForce
    split at inForce
    · cases inForce
    · exact ⟨row, rfl, Option.some.inj inForce⟩

theorem endedBy_le (endedAt : DateTime) (finish : Option DateTime) :
    endedBy endedAt finish ≤ endedAt := by
  cases finish with
  | none => exact le_refl endedAt
  | some finish =>
    change (if endedAt < finish then endedAt else finish) ≤ endedAt
    split
    · exact le_refl endedAt
    · rename_i late
      exact Int.not_lt.mp late

theorem effective_endPlan {now endedAt : DateTime} (past : endedAt ≤ now) (state : Entitlements)
    (ended planCode : String) :
    effectivePlanCode now (endPlan ended endedAt state) = some planCode ↔
      effectivePlanCode now state = some planCode ∧ ended ≠ planCode := by
  cases stored : state.row with
  | none => simp [endPlan, effectivePlanCode, stored]
  | some row =>
    by_cases other : row.planCode = ended
    · have lapses : effectivePlanCode now (endPlan ended endedAt state) = none := by
        have late : endedBy endedAt row.currentPeriodEnd ≤ now :=
          le_trans (endedBy_le endedAt row.currentPeriodEnd) past
        simp [endPlan, effectivePlanCode, stored, other, late]
      rw [lapses]
      constructor
      · intro impossible
        cases impossible
      · rintro ⟨inForce, differs⟩
        obtain ⟨same, there, code⟩ := row_of_effective inForce
        rw [stored] at there
        cases there
        exact absurd (other.symm.trans code) differs
    · have untouched : endPlan ended endedAt state = state := by
        simp [endPlan, stored, other]
      rw [untouched]
      constructor
      · intro inForce
        refine ⟨inForce, ?_⟩
        rintro rfl
        obtain ⟨same, there, code⟩ := row_of_effective inForce
        rw [stored] at there
        cases there
        exact other code
      · exact fun both => both.1

end BackendCore.Saas
