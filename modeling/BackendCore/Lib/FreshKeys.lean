import BackendCore.Lib.Outline

/-!
# Keys that one transaction draws

A transaction draws the keys of its new rows itself.  When a key is drawn by one
transaction only and is not in the table at the start, no row stands under it
before that transaction has ended, whatever the others do.
-/

set_option autoImplicit false

namespace BackendCore.ReadCommitted

variable {Tid K R J E A : Type} {key : R → K}

/-- Some course of the program inserts a row under the key. -/
def Prog.MayInsert (k : K) : Prog key E A → Prop
  | .ret _ => False
  | .raise _ => False
  | .select _ next => ∃ rows, (next rows).MayInsert k
  | .lock _ next => ∃ rows, (next rows).MayInsert k
  | .write _ _ _ next => ∃ reply, (next reply).MayInsert k
  | .insert row next => key row = k ∨ ∃ reply, (next reply).MayInsert k
  | .erase _ next => next.MayInsert k
  | .update _ _ _ next => ∃ count, (next count).MayInsert k

def Phase.MayInsert (k : K) : Phase key E A → Prop
  | .running prog => prog.MayInsert k
  | .locking _ _ _ next => ∃ rows, (next rows).MayInsert k
  | .updating _ _ _ _ _ next => ∃ count, (next count).MayInsert k
  | _ => False

theorem Phase.MayInsert.isOpen {k : K} {phase : Phase key E A} (may : phase.MayInsert k) :
    phase.isOpen = true := by
  cases phase with
  | running prog => rfl
  | locking clause todo got next => rfl
  | updating clause change keeps todo count next => rfl
  | committed answer => cases may
  | failed error => cases may
  | aborted => cases may

theorem Phase.Follows.mayInsert {k : K} {after before : Phase key E A}
    (follows : Phase.Follows after before) (may : after.MayInsert k) : before.MayInsert k := by
  cases follows with
  | select clause next rows => exact ⟨rows, may⟩
  | lock clause next todo => exact may
  | grab clause next j todo got more => exact may
  | locked clause next got => exact ⟨got, may⟩
  | write j change keeps next reply => exact ⟨reply, may⟩
  | insert row next reply => exact Or.inr ⟨reply, may⟩
  | erase j next => exact may
  | update clause change keeps next todo => exact may
  | change clause change keeps next j todo count more => exact may
  | updated clause change keeps next todo count answer => exact ⟨answer, may⟩
  | commit answer => cases may
  | fail error => cases may
  | abort phase working => cases may

variable [DecidableEq K] [DecidableEq J] {indexes : List (R → Option J)} {aborts : Prop}

theorem Session.key_of_files {session : Session key E A} {view : Table key} {row : R}
    (filed : session.files view = some row) :
    (view.get (key row)).isSome = true ∨ session.phase.MayInsert (key row) := by
  obtain ⟨phase, changes, locks⟩ := session
  have rewritten : ∀ (k : K) (change : R → R) (old : R), view.get k = some old →
      (∀ row, key (change row) = key row) → change old = row →
        (view.get (key row)).isSome = true := by
    rintro k change old found keeps rfl
    rw [keeps, Table.key_of_get found, found]
    rfl
  cases phase with
  | running prog =>
    cases prog with
    | write k change keeps next =>
      obtain ⟨old, found, same⟩ := Option.map_eq_some_iff.mp filed
      exact Or.inl (rewritten k change old found keeps same)
    | insert new next =>
      cases filed
      exact Or.inr (Or.inl rfl)
    | _ => cases filed
  | updating clause change keeps todo count next =>
    cases todo with
    | nil => cases filed
    | cons k rest =>
      obtain ⟨old, found, same⟩ := Option.map_eq_some_iff.mp filed
      exact Or.inl (rewritten k change old (Option.filter_eq_some_iff.mp found).1 keeps same)
  | _ => cases filed

/-- Every key a session writes is in the table already, or is one of its own; and a
key that is new in the table belongs to a session that has ended. -/
structure Owned (owns : Tid → K → Prop) (first : Table key) (world : World Tid key E A) : Prop where
  pending : ∀ tid k, (world.session tid).phase.MayInsert k → owns tid k
  touched : ∀ tid, ∀ k ∈ (world.session tid).touched,
    (world.table.get k).isSome = true ∨ owns tid k
  created : ∀ k, (world.table.get k).isSome = true →
    (first.get k).isSome = true ∨ ∃ tid, owns tid k ∧ (world.session tid).phase.isOpen = false

theorem owned_start {owns : Tid → K → Prop} (table : Table key) {program : Tid → Prog key E A}
    (pending : ∀ tid k, (program tid).MayInsert k → owns tid k) :
    Owned owns table (World.start table program) := by
  refine ⟨pending, ?_, fun _ stored => Or.inl stored⟩
  intro tid k touched
  cases touched

variable {owns : Tid → K → Prop} {first : Table key} {world next : World Tid key E A}

theorem Owned.of_view (owned : Owned owns first world) {tid : Tid} {k : K}
    (seen : ((world.view tid).get k).isSome = true) :
    (world.table.get k).isSome = true ∨ owns tid k := by
  by_cases touched : k ∈ (world.session tid).touched
  · exact owned.touched tid k touched
  · rw [World.view, get_overlay_of_untouched _ _ touched] at seen
    exact Or.inl seen

theorem Owned.advance (owned : Owned owns first world) (tid : Tid) {k : K}
    (touched : k ∈ ((world.session tid).advance indexes (world.view tid)).touched) :
    (world.table.get k).isSome = true ∨ owns tid k := by
  have effect : Effect indexes (world.view tid) (world.session tid)
      ((world.session tid).advance indexes (world.view tid)) := advance_effect _ _ _
  generalize (world.session tid).advance indexes (world.view tid) = after at effect touched
  have recent : ∀ change : Change K R,
      k ∈ ((world.session tid).withChange change).touched → ((world.view tid).get
        (change.on key)).isSome = true ∨ owns tid (change.on key) →
      (world.table.get k).isSome = true ∨ owns tid k := by
    intro change member place
    rw [Session.touched, Session.withChange, List.map_append, List.mem_append] at member
    rcases member with earlier | now
    · exact owned.touched tid k earlier
    · rw [List.map_singleton, List.mem_singleton] at now
      rw [now]
      exact place.elim owned.of_view Or.inr
  cases effect with
  | moves phase => exact owned.touched tid k touched
  | locks j phase wanted found => exact owned.touched tid k touched
  | stores row phase filed free place =>
    refine recent (.store row) touched ?_
    exact (Session.key_of_files filed).imp_right (owned.pending tid (key row))
  | erases j phase wanted found => exact recent (.erase j) touched (Or.inl found)

variable [DecidableEq Tid]

theorem Owned.step {tid : Tid} (owned : Owned owns first world) (sound : Sound indexes world)
    (step : World.Step indexes aborts world tid next) : Owned owns first next := by
  have pending : ∀ other k, (next.session other).phase.MayInsert k → owns other k := by
    intro other k may
    by_cases here : other = tid
    · subst here
      exact owned.pending other k (step.follows.mayInsert may)
    · rw [step.session_of_ne here] at may
      exact owned.pending other k may
  have idle : ∀ other, other ≠ tid → ∀ k ∈ (next.session other).touched,
      (next.table.get k).isSome = true ∨ owns other k := by
    intro other differs k touched
    rw [step.session_of_ne differs] at touched
    rw [step.get_of_locked sound differs (sound.locked other k touched)]
    exact owned.touched other k touched
  have ended : ∀ other, (world.session other).phase.isOpen = false →
      (next.session other).phase.isOpen = false := by
    intro other closed
    have differs : other ≠ tid := by
      rintro rfl
      rw [step.isOpen] at closed
      cases closed
    rw [step.session_of_ne differs]
    exact closed
  have older : ∀ k, (world.table.get k).isSome = true → (first.get k).isSome = true ∨
      ∃ other, owns other k ∧ (next.session other).phase.isOpen = false := by
    intro k stored
    refine (owned.created k stored).imp_right ?_
    rintro ⟨other, own, closed⟩
    exact ⟨other, own, ended other closed⟩
  refine ⟨pending, ?_, ?_⟩
  · intro other k touched
    by_cases here : other = tid
    swap
    · exact idle other here k touched
    subst here
    cases step with
    | statement statement ready =>
      rw [enter_session_self] at touched
      exact owned.advance other touched
    | commit answer done =>
      rw [publish_session_self] at touched
      cases touched
    | fail error raised =>
      rw [enter_session_self] at touched
      cases touched
    | abort allowed working =>
      rw [enter_session_self] at touched
      cases touched
  · intro k stored
    cases step with
    | statement statement ready => exact older k stored
    | fail error raised => exact older k stored
    | abort allowed working => exact older k stored
    | commit answer done =>
      rcases owned.of_view stored with before | own
      · exact older k before
      · refine Or.inr ⟨tid, own, ?_⟩
        rw [publish_session_self]
        rfl

omit [DecidableEq J] [DecidableEq Tid] in
theorem Owned.absent (owned : Owned owns first world) {tid : Tid} {k : K}
    (alone : ∀ other, owns other k → other = tid) (new : first.get k = none)
    (working : (world.session tid).phase.isOpen = true) : world.table.get k = none := by
  cases stored : world.table.get k with
  | none => rfl
  | some row =>
    exfalso
    rcases owned.created k (by rw [stored]; rfl) with before | ⟨other, own, closed⟩
    · rw [new] at before
      cases before
    · rw [alone other own, working] at closed
      cases closed

theorem World.LogRun.strengthen {condition : World Tid key E A → Tid → World Tid key E A → Prop}
    {holds : World Tid key E A → Prop} {now last : World Tid key E A × List A}
    (run : World.LogRun indexes aborts condition now last) (begins : holds now.1)
    (keeps : ∀ world tid next, World.Step indexes aborts world tid next → holds world →
      holds next) :
    World.LogRun indexes aborts
        (fun world tid next => condition world tid next ∧ holds next) now last ∧
      holds last.1 := by
  induction run with
  | refl => exact ⟨.refl, begins⟩
  | tail _ step hypothesis =>
    obtain ⟨tid, step, condition, logs⟩ := step
    have after := keeps _ _ _ step hypothesis.2
    exact ⟨hypothesis.1.tail ⟨tid, step, ⟨condition, after⟩, logs⟩, after⟩

end BackendCore.ReadCommitted
