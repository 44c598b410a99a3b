import Mathlib
import BackendCore.Lib.Outline

/-!
# Advisory locks, and what transactions refuse

A transaction-scoped advisory lock is a lock on a row that is always there and that
nobody writes: it is waited for like a row lock and held to the end of the transaction.
What only its holders change is the `guards` of the contract at its key.  Two more
rules for such check-then-write transactions: tables that only lose rows of a clause,
and errors that are raised only by what a `SELECT` has found.
-/

set_option autoImplicit false

namespace BackendCore.ReadCommitted

variable {Tid K R J E A : Type} {key : R → K} [DecidableEq K]

/-- `SELECT pg_advisory_xact_lock(…)`, with the lock of the row under the key. -/
def Prog.advisory (k : K) (next : Prog key E A) : Prog key E A :=
  .lock (fun row => key row = k) fun _ => next

section Rules

variable [DecidableEq J] {contract : Contract key E A} {indexes : List (R → Option J)}
variable {changes : List (Change K R)} {locks : List K} {base : Base key A}

theorem Prog.outline_advisory {k : K} {next : Prog key E A} (latch : R)
    (frame : List K → Base key A → Prop) (named : key latch = k)
    (begins : frame locks base)
    (later : ∀ phase locks now last, frame locks now →
      contract.Rely indexes phase changes locks now last → frame locks last)
    (locked : ∀ k locks now, frame locks now → frame (k :: locks) now)
    (present : ∀ locks now, frame locks now → (overlay changes now.table).get k = some latch)
    (rest : ∀ locks now, k ∈ locks → frame locks now →
      next.Outline contract indexes changes locks now) :
    (Prog.advisory k next).Outline contract indexes changes locks base := by
  refine Prog.outline_lock frame (· = latch) ?_ ?_ locked ?_ ?_
  · exact fun last rely => later _ _ _ _ begins rely
  · exact fun todo got locks now last keeps rely => later _ _ _ _ keeps rely
  · rintro row locks now rfl keeps
    refine ⟨decide_eq_true named, ?_⟩
    rw [named]
    exact present locks now keeps
  · intro got locks now keeps held taken unique
    refine rest locks now ?_ keeps
    rw [← named]
    exact (held latch (taken latch rfl)).2.1

/-- The rule of a locking `SELECT` of which nothing is known. -/
theorem Prog.outline_anyLock {clause : R → Bool} {next : List R → Prog key E A}
    (frame : List K → Base key A → Prop) (begins : frame locks base)
    (later : ∀ phase locks now last, frame locks now →
      contract.Rely indexes phase changes locks now last → frame locks last)
    (locked : ∀ k locks now, frame locks now → frame (k :: locks) now)
    (rest : ∀ got locks now, frame locks now →
      (next got).Outline contract indexes changes locks now) :
    (Prog.lock clause next).Outline contract indexes changes locks base := by
  refine Prog.outline_lock frame (fun _ => False) ?_ ?_ locked ?_ ?_
  · exact fun last rely => later _ _ _ _ begins rely
  · exact fun todo got locks now last keeps rely => later _ _ _ _ keeps rely
  · exact fun row locks now impossible => impossible.elim
  · exact fun got locks now keeps _ _ _ => rest got locks now keeps

end Rules

/-! ## Tables that lose rows -/

/-- Every row of the clause has its key under a row of the clause in the larger table. -/
def Within (clause : R → Bool) (small large : Table key) : Prop :=
  ∀ k row, small.get k = some row → clause row = true →
    ∃ old, large.get k = some old ∧ clause old = true

section Losing

variable {clause : R → Bool} {first second third : Table key}

theorem Within.refl (clause : R → Bool) (table : Table key) : Within clause table table :=
  fun _ row found chosen => ⟨row, found, chosen⟩

theorem Within.trans (lower : Within clause first second) (upper : Within clause second third) :
    Within clause first third := by
  intro k row found chosen
  obtain ⟨old, there, kept⟩ := lower k row found chosen
  exact upper k old there kept

theorem Within.length_le (within : Within clause first second) :
    (first.select clause).length ≤ (second.select clause).length := by
  have distinct : ((first.select clause).map key).Nodup :=
    first.nodup.sublist (List.filter_sublist.map key)
  have inside : (first.select clause).map key ⊆ (second.select clause).map key := by
    intro k member
    obtain ⟨row, selected, rfl⟩ := List.mem_map.mp member
    obtain ⟨mem, chosen⟩ := (Table.mem_select _ _ _).mp selected
    obtain ⟨old, found, kept⟩ := within _ row (first.get_of_mem row mem) chosen
    rw [← Table.key_of_get found]
    exact List.mem_map_of_mem ((Table.mem_select _ _ _).mpr ⟨Table.mem_of_get found, kept⟩)
  have bound := (List.subperm_of_subset distinct inside).length_le
  rw [List.length_map, List.length_map] at bound
  exact bound

/-- What a session sees loses rows when the committed table does, if what it touched
stands still. -/
theorem Within.overlay {changes : List (Change K R)} (within : Within clause second first)
    (kept : ∀ k ∈ changes.map (Change.on key), second.get k = first.get k) :
    Within clause (overlay changes second) (overlay changes first) := by
  intro k row found chosen
  by_cases touched : k ∈ changes.map (Change.on key)
  · rw [get_overlay_congr changes (kept k touched)] at found
    exact ⟨row, found, chosen⟩
  · rw [get_overlay_of_untouched changes _ touched] at found ⊢
    exact within k row found chosen

theorem Within.later {changes : List (Change K R)}
    (within : Within clause (ReadCommitted.overlay changes first) first)
    (kept : ∀ k ∈ changes.map (Change.on key), second.get k = first.get k) :
    Within clause (ReadCommitted.overlay changes second) second := by
  intro k row found chosen
  by_cases touched : k ∈ changes.map (Change.on key)
  · rw [get_overlay_congr changes (kept k touched)] at found
    rw [kept k touched]
    exact within k row found chosen
  · rw [get_overlay_of_untouched changes _ touched] at found
    exact ⟨row, found, chosen⟩

theorem Within.erase (clause : R → Bool) (table : Table key) (k : K) :
    Within clause (table.erase k) table := by
  intro other row found chosen
  rw [Table.get_erase] at found
  split at found
  · cases found
  · exact ⟨row, found, chosen⟩

end Losing

theorem length_select_store (clause : R → Bool) (table : Table key) (row : R) :
    ((table.store row).select clause).length ≤ (table.select clause).length + 1 := by
  have distinct : (((table.store row).select clause).map key).Nodup :=
    (table.store row).nodup.sublist (List.filter_sublist.map key)
  have inside : ((table.store row).select clause).map key ⊆
      key row :: (table.select clause).map key := by
    intro k member
    obtain ⟨other, selected, rfl⟩ := List.mem_map.mp member
    obtain ⟨mem, chosen⟩ := (Table.mem_select _ _ _).mp selected
    have found := (table.store row).get_of_mem other mem
    rw [Table.get_store] at found
    split at found
    · rename_i same
      rw [same]
      exact List.mem_cons_self
    · exact List.mem_cons_of_mem _ (List.mem_map_of_mem
        ((Table.mem_select _ _ _).mpr ⟨Table.mem_of_get found, chosen⟩))
  have bound := (List.subperm_of_subset distinct inside).length_le
  rw [List.length_cons, List.length_map, List.length_map] at bound
  exact bound

/-! ## Where an error comes from -/

section Refusals

variable (kind : E → Prop) (finds : E → List R → Prop) (clause : R → Bool)

omit [DecidableEq K] in
/-- The program does not begin by raising an error of the kind. -/
def Prog.Calm (prog : Prog key E A) : Prop := ∀ error, prog = .raise error → ¬kind error

omit [DecidableEq K] in
/-- Errors of the kind are raised by nothing but the rows of a `SELECT` with the clause. -/
def Prog.RaisesOn : Prog key E A → Prop
  | .ret _ => True
  | .raise _ => True
  | .select other next => ∀ rows, (next rows).RaisesOn ∧
      ∀ error, next rows = .raise error → kind error → other = clause ∧ finds error rows
  | .lock _ next => ∀ rows, (next rows).RaisesOn ∧ (next rows).Calm kind
  | .write _ _ _ next => ∀ reply, (next reply).RaisesOn ∧ (next reply).Calm kind
  | .insert _ next => ∀ reply, (next reply).RaisesOn ∧ (next reply).Calm kind
  | .erase _ next => next.RaisesOn ∧ next.Calm kind
  | .update _ _ _ next => ∀ count, (next count).RaisesOn ∧ (next count).Calm kind

omit [DecidableEq K] in
def Phase.RaisesOn : Phase key E A → Prop
  | .running prog => prog.RaisesOn kind finds clause
  | .locking _ _ _ next => ∀ rows, (next rows).RaisesOn kind finds clause ∧ (next rows).Calm kind
  | .updating _ _ _ _ _ next =>
    ∀ count, (next count).RaisesOn kind finds clause ∧ (next count).Calm kind
  | _ => True

omit [DecidableEq K] in
def Phase.raised : Phase key E A → Option E
  | .running (.raise error) => some error
  | .failed error => some error
  | _ => none

variable {kind finds clause}

omit [DecidableEq K] in
theorem Prog.Calm.raised {prog : Prog key E A} (calm : prog.Calm kind) {error : E}
    (raised : (Phase.running prog).raised = some error) : ¬kind error := by
  cases prog with
  | raise other =>
    rw [← Option.some.inj raised]
    exact calm other rfl
  | ret answer => nomatch raised
  | select clause next => nomatch raised
  | lock clause next => nomatch raised
  | write k change keeps next => nomatch raised
  | insert row next => nomatch raised
  | erase k next => nomatch raised
  | update clause change keeps next => nomatch raised

omit [DecidableEq K] in
/-- The phases after one whose next step is no `SELECT`. -/
theorem Phase.Follows.raisesOn {before after : Phase key E A} (follows : after.Follows before)
    (raises : before.RaisesOn kind finds clause)
    (other : ∀ clause next, before ≠ .running (.select clause next)) :
    after.RaisesOn kind finds clause ∧
      ∀ error, after.raised = some error → kind error → before.raised = some error := by
  cases follows with
  | select clause next rows => exact absurd rfl (other clause next)
  | lock clause next todo => exact ⟨raises, fun error raised => nomatch raised⟩
  | grab clause next k todo got more => exact ⟨raises, fun error raised => nomatch raised⟩
  | locked clause next got =>
    exact ⟨(raises got).1, fun error raised chosen =>
      absurd chosen ((raises got).2.raised raised)⟩
  | write k change keeps next reply =>
    exact ⟨(raises reply).1, fun error raised chosen =>
      absurd chosen ((raises reply).2.raised raised)⟩
  | insert row next reply =>
    exact ⟨(raises reply).1, fun error raised chosen =>
      absurd chosen ((raises reply).2.raised raised)⟩
  | erase k next =>
    exact ⟨raises.1, fun error raised chosen => absurd chosen (raises.2.raised raised)⟩
  | update clause change keeps next todo => exact ⟨raises, fun error raised => nomatch raised⟩
  | change clause change keeps next k todo count more =>
    exact ⟨raises, fun error raised => nomatch raised⟩
  | updated clause change keeps next todo count answer =>
    exact ⟨(raises answer).1, fun error raised chosen =>
      absurd chosen ((raises answer).2.raised raised)⟩
  | commit answer => exact ⟨trivial, fun error raised => nomatch raised⟩
  | fail error => exact ⟨trivial, fun other raised _ => raised⟩
  | abort phase working => exact ⟨trivial, fun error raised => nomatch raised⟩

variable [DecidableEq Tid] [DecidableEq J] {indexes : List (R → Option J)} {aborts : Prop}

/-- Before the failure there was the `SELECT` that found its reason. -/
theorem raised_on {table : Table key} {program : Tid → Prog key E A}
    (each : ∀ tid, (program tid).RaisesOn kind finds clause ∧ (program tid).Calm kind)
    {world : World Tid key E A}
    (run : World.Reaches indexes aborts (World.start table program) world) (tid : Tid) :
    (world.session tid).phase.RaisesOn kind finds clause ∧
      ∀ error, (world.session tid).phase.raised = some error → kind error →
        ∃ checked, World.Reaches indexes aborts (World.start table program) checked ∧
          World.Reaches indexes aborts checked world ∧
          (∃ next, (checked.session tid).phase = .running (.select clause next)) ∧
          finds error ((checked.view tid).select clause) := by
  induction run with
  | refl =>
    refine ⟨(each tid).1, ?_⟩
    intro error raised chosen
    exact absurd chosen ((each tid).2.raised raised)
  | @tail middle last before step ih =>
    obtain ⟨actor, step⟩ := step
    have onward : ∀ checked, World.Reaches indexes aborts checked middle →
        World.Reaches indexes aborts checked last := fun checked run => run.tail ⟨actor, step⟩
    by_cases same : tid = actor
    · subst same
      by_cases selects : ∃ other next, (middle.session tid).phase = .running (.select other next)
      · obtain ⟨other, next, phase⟩ := selects
        have raises := ih.1
        rw [phase] at raises
        obtain ⟨goes, found⟩ := raises ((middle.view tid).select other)
        have after : (last.session tid).phase =
            .running (next ((middle.view tid).select other)) ∨
              (last.session tid).phase = .aborted := by
          cases step with
          | statement statement ready =>
            left
            rw [enter_session_self, Session.advance, phase]
            rfl
          | commit answer done => rw [phase] at done; cases done
          | fail error raised => rw [phase] at raised; cases raised
          | abort allowed working =>
            right
            rw [enter_session_self]
        rcases after with runs | aborted
        · rw [runs]
          refine ⟨goes, ?_⟩
          intro error raised chosen
          have raise : next ((middle.view tid).select other) = .raise error := by
            revert raised
            cases next ((middle.view tid).select other) with
            | raise failure => exact fun raised => congrArg Prog.raise (Option.some.inj raised)
            | _ =>
              intro raised
              cases raised
          obtain ⟨rfl, reason⟩ := found error raise chosen
          exact ⟨middle, before, onward middle .refl, ⟨next, phase⟩, reason⟩
        · rw [aborted]
          refine ⟨trivial, ?_⟩
          intro error raised
          cases raised
      · push Not at selects
        obtain ⟨raises, back⟩ := step.follows.raisesOn ih.1 selects
        refine ⟨raises, ?_⟩
        intro error raised chosen
        obtain ⟨checked, early, late, rest⟩ := ih.2 error (back error raised chosen) chosen
        exact ⟨checked, early, onward checked late, rest⟩
    · rw [step.session_of_ne same]
      refine ⟨ih.1, ?_⟩
      intro error raised chosen
      obtain ⟨checked, early, late, rest⟩ := ih.2 error raised chosen
      exact ⟨checked, early, onward checked late, rest⟩

end Refusals

end BackendCore.ReadCommitted
