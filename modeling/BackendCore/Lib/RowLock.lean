import Mathlib

/-!
# Transactions on one locked row

Any number of transactions on one row of a table.  A transaction asks for the
row lock, reads the row once the lock is granted, does its work on the row it
read, and then commits or rolls back as a whole; it may also give up while it
waits.  What the work of a job may make of the row it read is a relation `Body`.
The committed row goes through a serial chain of bodies, whatever the
interleaving.
-/

set_option autoImplicit false

namespace BackendCore.RowLock

variable {Tid Job Row Out : Type}

/-- Where a transaction stands. -/
inductive Phase (Job Row Out : Type) where
  | idle
  | waiting (job : Job)
  | holding (job : Job) (seen : Row)
  | worked (job : Job) (seen written : Row) (out : Out)
  | ended

def Phase.holds : Phase Job Row Out → Prop
  | .holding _ _ => True
  | .worked _ _ _ _ => True
  | _ => False

/-- A committed transaction: the row it wrote and what it published. -/
structure Entry (Job Row Out : Type) where
  job : Job
  row : Row
  out : Out

structure State (Tid Job Row Out : Type) where
  row : Row
  log : List (Entry Job Row Out)
  phase : Tid → Phase Job Row Out

section Machine

variable [DecidableEq Tid] (Body : Job → Row → Row → Out → Prop)

def State.enter (state : State Tid Job Row Out) (tid : Tid) (phase : Phase Job Row Out) :
    State Tid Job Row Out :=
  { state with phase := Function.update state.phase tid phase }

inductive Step : State Tid Job Row Out → State Tid Job Row Out → Prop where
  | request (state : State Tid Job Row Out) (tid : Tid) (job : Job)
      (idle : state.phase tid = .idle) : Step state (state.enter tid (.waiting job))
  | grant (state : State Tid Job Row Out) (tid : Tid) (job : Job)
      (waiting : state.phase tid = .waiting job)
      (free : ∀ other, ¬ (state.phase other).holds) :
      Step state (state.enter tid (.holding job state.row))
  | work (state : State Tid Job Row Out) (tid : Tid) (job : Job) (seen written : Row) (out : Out)
      (holding : state.phase tid = .holding job seen) (body : Body job seen written out) :
      Step state (state.enter tid (.worked job seen written out))
  | commit (state : State Tid Job Row Out) (tid : Tid) (job : Job) (seen written : Row) (out : Out)
      (worked : state.phase tid = .worked job seen written out) :
      Step state
        { row := written
          log := state.log ++ [⟨job, written, out⟩]
          phase := Function.update state.phase tid .ended }
  | rollback (state : State Tid Job Row Out) (tid : Tid) : Step state (state.enter tid .ended)

def start (row : Row) : State Tid Job Row Out := ⟨row, [], fun _ => .idle⟩

inductive Reaches (row : Row) : State Tid Job Row Out → Prop where
  | start : Reaches row (start row)
  | step (state next : State Tid Job Row Out) (reached : Reaches row state)
      (step : Step Body state next) : Reaches row next

/-- A row after a list of committed transactions, each of which read what the
one before it wrote. -/
inductive Serial (row : Row) : List (Entry Job Row Out) → Row → Prop where
  | nil : Serial row [] row
  | snoc (log : List (Entry Job Row Out)) (before : Row) (job : Job) (after : Row) (out : Out)
      (earlier : Serial row log before) (body : Body job before after out) :
      Serial row (log ++ [⟨job, after, out⟩]) after

/-- The holder of the lock has read the committed row, and there is one at most. -/
structure Invariant (row : Row) (state : State Tid Job Row Out) : Prop where
  serial : Serial Body row state.log state.row
  holding : ∀ tid job seen, state.phase tid = .holding job seen → seen = state.row
  worked : ∀ tid job seen written out, state.phase tid = .worked job seen written out →
    seen = state.row ∧ Body job seen written out
  exclusive : ∀ left right, (state.phase left).holds → (state.phase right).holds → left = right

variable {Body}

private theorem enter_keeps {row : Row} {state : State Tid Job Row Out}
    (invariant : Invariant Body row state) (tid : Tid) (phase : Phase Job Row Out)
    (holding : ∀ job seen, phase = .holding job seen → seen = state.row)
    (worked : ∀ job seen written out, phase = .worked job seen written out →
      seen = state.row ∧ Body job seen written out)
    (exclusive : phase.holds → ∀ other, (state.phase other).holds → other = tid) :
    Invariant Body row (state.enter tid phase) where
  serial := invariant.serial
  holding := by
    intro other job seen there
    by_cases same : other = tid
    · subst same
      exact holding job seen (by simpa [State.enter] using there)
    · exact invariant.holding other job seen (by simpa [State.enter, same] using there)
  worked := by
    intro other job seen written out there
    by_cases same : other = tid
    · subst same
      exact worked job seen written out (by simpa [State.enter] using there)
    · exact invariant.worked other job seen written out (by simpa [State.enter, same] using there)
  exclusive := by
    intro left right leftHolds rightHolds
    by_cases leftSame : left = tid
    · subst leftSame
      by_cases rightSame : right = left
      · exact rightSame.symm
      · have now : phase.holds := by simpa [State.enter] using leftHolds
        exact (exclusive now right (by simpa [State.enter, rightSame] using rightHolds)).symm
    · have leftHeld : (state.phase left).holds := by simpa [State.enter, leftSame] using leftHolds
      by_cases rightSame : right = tid
      · subst rightSame
        have now : phase.holds := by simpa [State.enter] using rightHolds
        exact exclusive now left leftHeld
      · exact invariant.exclusive left right leftHeld
          (by simpa [State.enter, rightSame] using rightHolds)

theorem Step.keeps_invariant {row : Row} {state next : State Tid Job Row Out}
    (step : Step Body state next) (invariant : Invariant Body row state) :
    Invariant Body row next := by
  cases step with
  | request tid job idle =>
    refine enter_keeps invariant tid _ ?_ ?_ ?_
    · intro _ _ equal
      cases equal
    · intro _ _ _ _ equal
      cases equal
    · intro held
      cases held
  | grant tid job waiting free =>
    refine enter_keeps invariant tid _ ?_ ?_ ?_
    · intro _ _ equal
      cases equal
      rfl
    · intro _ _ _ _ equal
      cases equal
    · intro _ other held
      exact absurd held (free other)
  | work tid job seen written out holding body =>
    have current := invariant.holding tid job seen holding
    refine enter_keeps invariant tid _ ?_ ?_ ?_
    · intro _ _ equal
      cases equal
    · intro _ _ _ _ equal
      cases equal
      exact ⟨current, body⟩
    · intro _ other held
      exact invariant.exclusive other tid held (by rw [holding]; trivial)
  | commit tid job seen written out worked =>
    obtain ⟨current, body⟩ := invariant.worked tid job seen written out worked
    rw [current] at body
    have alone : ∀ other, other ≠ tid → ¬ (state.phase other).holds := by
      intro other differs held
      exact differs (invariant.exclusive other tid held (by rw [worked]; trivial))
    have quiet : ∀ other, ¬ (Function.update state.phase tid .ended other).holds := by
      intro other held
      by_cases same : other = tid
      · subst same
        simp [Phase.holds] at held
      · exact alone other same (by simpa [same] using held)
    refine ⟨.snoc _ _ _ _ _ invariant.serial body, ?_, ?_, ?_⟩
    · intro other otherJob otherSeen there
      have held := quiet other
      rw [show Function.update state.phase tid .ended other = _ from there] at held
      exact absurd trivial held
    · intro other otherJob otherSeen otherWritten otherOut there
      have held := quiet other
      rw [show Function.update state.phase tid .ended other = _ from there] at held
      exact absurd trivial held
    · intro left _ leftHolds
      exact absurd leftHolds (quiet left)
  | rollback tid =>
    refine enter_keeps invariant tid _ ?_ ?_ ?_
    · intro _ _ equal
      cases equal
    · intro _ _ _ _ equal
      cases equal
    · intro held
      cases held

theorem Reaches.invariant {row : Row} {state : State Tid Job Row Out}
    (reached : Reaches Body row state) : Invariant Body row state := by
  induction reached with
  | start =>
    refine ⟨.nil, ?_, ?_, ?_⟩
    · intro _ _ _ equal
      cases equal
    · intro _ _ _ _ _ equal
      cases equal
    · intro _ _ held
      cases held
  | step state next _ step hypothesis => exact step.keeps_invariant hypothesis

theorem Reaches.serial {row : Row} {state : State Tid Job Row Out}
    (reached : Reaches Body row state) : Serial Body row state.log state.row :=
  reached.invariant.serial

end Machine

end BackendCore.RowLock
