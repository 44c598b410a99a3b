import BackendCore.Lib.ReadCommitted

/-!
# Proof outlines of concurrent transactions

A contract says what a group of transactions keeps: an invariant of the
committed table and of the answers given so far, how one commit may change the
table, what is changed only by the holder of a lock, and what a commit with a
given answer does.  The outline of a
program follows its statements.  At each of them the other transactions may have
committed in between, as far as the contract lets them, and a commit has to keep
the contract.  When every program has an outline, every run keeps the contract.
-/

set_option autoImplicit false

namespace BackendCore.ReadCommitted

variable {Tid K R J E A : Type} {key : R → K}

/-- The committed table, and the answers in the order of the commits. -/
structure Base {K R : Type} (key : R → K) (A : Type) where
  table : Table key
  log : List A

/-- `guards k` is what only a holder of the lock of `k` changes.  `assumes` is
what a session in a phase is promised about the commits of others by the runs
considered, and not by their programs.  A field left out asks nothing. -/
structure Contract {K R : Type} (key : R → K) (E A : Type) where
  invariant : Base key A → Prop
  guarantee : Table key → Table key → Prop := fun _ _ => True
  guards : K → Table key → Table key → Prop := fun _ _ _ => True
  assumes : Phase key E A → Table key → Table key → Prop := fun _ _ _ => True
  effect : A → Table key → Table key → Prop := fun _ _ _ => True
  raises : E → Prop := fun _ => True
  guarantee_refl : ∀ table, guarantee table table := by exact fun _ => trivial
  guarantee_trans : ∀ first second third, guarantee first second → guarantee second third →
    guarantee first third := by exact fun _ _ _ _ _ => trivial
  guards_refl : ∀ k table, guards k table table := by exact fun _ _ => trivial
  guards_trans : ∀ k first second third, guards k first second → guards k second third →
    guards k first third := by exact fun _ _ _ _ _ _ => trivial
  assumes_refl : ∀ phase table, assumes phase table table := by exact fun _ _ => trivial
  assumes_trans : ∀ phase first second third, assumes phase first second →
    assumes phase second third → assumes phase first third := by exact fun _ _ _ _ _ _ => trivial

variable [DecidableEq K]

namespace Contract

variable (contract : Contract key E A) (indexes : List (R → Option J))

/-- What a session sees the other transactions do between two of its steps. -/
structure Rely (phase : Phase key E A) (changes : List (Change K R)) (locks : List K)
    (now later : Base key A) : Prop where
  invariant : contract.invariant later
  guarantee : contract.guarantee now.table later.table
  assumes : contract.assumes phase now.table later.table
  kept : ∀ k ∈ locks, later.table.get k = now.table.get k
  guards : ∀ k ∈ locks, contract.guards k now.table later.table
  unique : ∀ index ∈ indexes, (overlay changes later.table).Unique index
  grows : now.log <+: later.log

/-- What a commit has to keep. -/
structure Commits (answer : A) (changes : List (Change K R)) (locks : List K)
    (base : Base key A) : Prop where
  invariant : contract.invariant ⟨overlay changes base.table, base.log ++ [answer]⟩
  guarantee : contract.guarantee base.table (overlay changes base.table)
  guards : ∀ k, k ∉ locks → contract.guards k base.table (overlay changes base.table)
  effect : contract.effect answer base.table (overlay changes base.table)

variable {contract indexes}

theorem Rely.trans {phase : Phase key E A} {changes : List (Change K R)} {locks : List K}
    {first second third : Base key A}
    (earlier : contract.Rely indexes phase changes locks first second)
    (later : contract.Rely indexes phase changes locks second third) :
    contract.Rely indexes phase changes locks first third where
  invariant := later.invariant
  guarantee := contract.guarantee_trans _ _ _ earlier.guarantee later.guarantee
  assumes := contract.assumes_trans _ _ _ _ earlier.assumes later.assumes
  kept := fun k held => (later.kept k held).trans (earlier.kept k held)
  guards := fun k held =>
    contract.guards_trans _ _ _ _ (earlier.guards k held) (later.guards k held)
  unique := later.unique
  grows := earlier.grows.trans later.grows

theorem Rely.refl (phase : Phase key E A) {changes : List (Change K R)} (locks : List K)
    {base : Base key A} (invariant : contract.invariant base)
    (unique : ∀ index ∈ indexes, (overlay changes base.table).Unique index) :
    contract.Rely indexes phase changes locks base base where
  invariant := invariant
  guarantee := contract.guarantee_refl _
  assumes := contract.assumes_refl _ _
  kept := fun _ _ => rfl
  guards := fun k _ => contract.guards_refl k _
  unique := unique
  grows := List.prefix_refl _

end Contract

/-! ## Outlines -/

section Outlines

variable [DecidableEq J] (contract : Contract key E A) (indexes : List (R → Option J))

/-- The rows of a locking `SELECT` one after the other. -/
def lockOutline (clause : R → Bool) (next : List R → Prog key E A) (changes : List (Change K R))
    (post : List R → List K → Base key A → Prop) :
    List K → List R → List K → Base key A → Prop
  | [], got, locks, base => ∀ later,
      contract.Rely indexes (.locking clause [] got next) changes locks base later →
      post got locks later
  | k :: todo, got, locks, base => ∀ later,
      contract.Rely indexes (.locking clause (k :: todo) got next) changes locks base later →
      match (overlay changes later.table).get k with
      | none => lockOutline clause next changes post todo got locks later
      | some row =>
        lockOutline clause next changes post todo (if clause row then got ++ [row] else got)
          (k :: locks) later

/-- The rows of an `UPDATE` one after the other. -/
def updateOutline (clause : R → Bool) (change : R → R) (keeps : ∀ row, key (change row) = key row)
    (next : Option Nat → Prog key E A)
    (post : Option Nat → List (Change K R) → List K → Base key A → Prop) :
    List K → Nat → List (Change K R) → List K → Base key A → Prop
  | [], count, changes, locks, base => ∀ later,
      contract.Rely indexes (.updating clause change keeps [] count next) changes locks base
        later →
      post (some count) changes locks later
  | k :: todo, count, changes, locks, base => ∀ later,
      contract.Rely indexes (.updating clause change keeps (k :: todo) count next) changes locks
        base later →
      match (overlay changes later.table).get k with
      | none => updateOutline clause change keeps next post todo count changes locks later
      | some row =>
        if clause row then
          if fits indexes (overlay changes later.table) (change row) then
            updateOutline clause change keeps next post todo (count + 1)
              (changes ++ [.store (change row)]) (key (change row) :: locks) later
          else post none changes locks later
        else updateOutline clause change keeps next post todo count changes (k :: locks) later

def Prog.Outline : Prog key E A → List (Change K R) → List K → Base key A → Prop
  | .ret answer, changes, locks, base => ∀ later,
      contract.Rely indexes (.running (.ret answer)) changes locks base later →
      contract.Commits answer changes locks later
  | .raise error, _, _, _ => contract.raises error
  | .select clause next, changes, locks, base => ∀ later,
      contract.Rely indexes (.running (.select clause next)) changes locks base later →
      (next ((overlay changes later.table).select clause)).Outline changes locks later
  | .lock clause next, changes, locks, base => ∀ later,
      contract.Rely indexes (.running (.lock clause next)) changes locks base later →
      lockOutline contract indexes clause next changes
        (fun got locks base => (next got).Outline changes locks base)
        (((overlay changes later.table).select clause).map key) [] locks later
  | .write k change keeps next, changes, locks, base => ∀ later,
      contract.Rely indexes (.running (.write k change keeps next)) changes locks base later →
      match (overlay changes later.table).get k with
      | none => (next .missing).Outline changes locks later
      | some row =>
        if fits indexes (overlay changes later.table) (change row) then
          (next .done).Outline (changes ++ [.store (change row)]) (key (change row) :: locks)
            later
        else (next .conflict).Outline changes locks later
  | .insert row next, changes, locks, base => ∀ later,
      contract.Rely indexes (.running (.insert row next)) changes locks base later →
      if ((overlay changes later.table).get (key row)).isNone &&
          fits indexes (overlay changes later.table) row then
        (next .done).Outline (changes ++ [.store row]) (key row :: locks) later
      else (next .conflict).Outline changes locks later
  | .erase k next, changes, locks, base => ∀ later,
      contract.Rely indexes (.running (.erase k next)) changes locks base later →
      if ((overlay changes later.table).get k).isSome then
        next.Outline (changes ++ [.erase k]) (k :: locks) later
      else next.Outline changes locks later
  | .update clause change keeps next, changes, locks, base => ∀ later,
      contract.Rely indexes (.running (.update clause change keeps next)) changes locks base
        later →
      updateOutline contract indexes clause change keeps next
        (fun count changes locks base => (next count).Outline changes locks base)
        (((overlay changes later.table).select clause).map key) 0 changes locks later

def Session.Outline (session : Session key E A) (base : Base key A) : Prop :=
  match session.phase with
  | .running prog => prog.Outline contract indexes session.changes session.locks base
  | .locking clause todo got next =>
    lockOutline contract indexes clause next session.changes
      (fun got locks base => (next got).Outline contract indexes session.changes locks base)
      todo got session.locks base
  | .updating clause change keeps todo count next =>
    updateOutline contract indexes clause change keeps next
      (fun count changes locks base => (next count).Outline contract indexes changes locks base)
      todo count session.changes session.locks base
  | .committed answer => answer ∈ base.log
  | .failed error => contract.raises error
  | .aborted => True

variable {contract indexes}

theorem Session.Outline.later {session : Session key E A} {base later : Base key A}
    (outline : session.Outline contract indexes base)
    (rely : contract.Rely indexes session.phase session.changes session.locks base later) :
    session.Outline contract indexes later := by
  obtain ⟨phase, changes, locks⟩ := session
  cases phase with
  | running prog =>
    cases prog with
    | raise error => exact outline
    | ret answer => exact fun last after => outline last (rely.trans after)
    | select clause next => exact fun last after => outline last (rely.trans after)
    | lock clause next => exact fun last after => outline last (rely.trans after)
    | write k change keeps next => exact fun last after => outline last (rely.trans after)
    | insert row next => exact fun last after => outline last (rely.trans after)
    | erase k next => exact fun last after => outline last (rely.trans after)
    | update clause change keeps next => exact fun last after => outline last (rely.trans after)
  | locking clause todo got next =>
    cases todo with
    | nil => exact fun last after => outline last (rely.trans after)
    | cons k rest => exact fun last after => outline last (rely.trans after)
  | updating clause change keeps todo count next =>
    cases todo with
    | nil => exact fun last after => outline last (rely.trans after)
    | cons k rest => exact fun last after => outline last (rely.trans after)
  | committed answer => exact rely.grows.subset outline
  | failed error => exact outline
  | aborted => trivial

theorem Session.Outline.advance {session : Session key E A} {base : Base key A}
    (outline : session.Outline contract indexes base)
    (statement : session.phase.isStatement = true)
    (rely : contract.Rely indexes session.phase session.changes session.locks base base) :
    (session.advance indexes (overlay session.changes base.table)).Outline contract indexes
      base := by
  obtain ⟨phase, changes, locks⟩ := session
  cases phase with
  | running prog =>
    cases prog with
    | ret answer => cases statement
    | raise error => cases statement
    | select clause next => exact outline base rely
    | lock clause next => exact outline base rely
    | write k change keeps next =>
      have goes := outline base rely
      simp only [Session.advance]
      cases found : (overlay changes base.table).get k with
      | none =>
        simp only [found] at goes
        exact goes
      | some row =>
        simp only [found] at goes ⊢
        by_cases free : fits indexes (overlay changes base.table) (change row) = true
        · rw [if_pos free] at goes ⊢
          exact goes
        · rw [if_neg free] at goes ⊢
          exact goes
    | insert row next =>
      have goes := outline base rely
      simp only [Session.advance]
      by_cases free : (((overlay changes base.table).get (key row)).isNone &&
          fits indexes (overlay changes base.table) row) = true
      · rw [if_pos free] at goes ⊢
        exact goes
      · rw [if_neg free] at goes ⊢
        exact goes
    | erase k next =>
      have goes := outline base rely
      simp only [Session.advance]
      by_cases found : ((overlay changes base.table).get k).isSome = true
      · rw [if_pos found] at goes ⊢
        exact goes
      · rw [if_neg found] at goes ⊢
        exact goes
    | update clause change keeps next => exact outline base rely
  | locking clause todo got next =>
    cases todo with
    | nil => exact outline base rely
    | cons k rest =>
      have goes := outline base rely
      simp only [Session.advance]
      cases found : (overlay changes base.table).get k with
      | none =>
        simp only [found] at goes
        exact goes
      | some row =>
        simp only [found] at goes
        exact goes
  | updating clause change keeps todo count next =>
    cases todo with
    | nil => exact outline base rely
    | cons k rest =>
      have goes := outline base rely
      simp only [Session.advance]
      cases found : (overlay changes base.table).get k with
      | none =>
        simp only [found] at goes
        exact goes
      | some row =>
        simp only [found] at goes ⊢
        by_cases chosen : clause row = true
        · rw [if_pos chosen] at goes ⊢
          by_cases free : fits indexes (overlay changes base.table) (change row) = true
          · rw [if_pos free] at goes ⊢
            exact goes
          · rw [if_neg free] at goes ⊢
            exact goes
        · rw [if_neg chosen] at goes ⊢
          exact goes
  | committed answer => cases statement
  | failed error => cases statement
  | aborted => cases statement

/-! ## Locking rows -/

section LockRule

variable {clause : R → Bool} {next : List R → Prog key E A} {changes : List (Change K R)}

omit [DecidableEq J] in
/-- The rule of the rows a locking `SELECT` takes one after the other. -/
theorem lockOutline_intro {post : List R → List K → Base key A → Prop}
    (keep : List K → List R → List K → Base key A → Prop)
    (later : ∀ todo got locks base last, keep todo got locks base →
      contract.Rely indexes (.locking clause todo got next) changes locks base last →
        keep todo got locks last)
    (gone : ∀ k todo got locks base, keep (k :: todo) got locks base →
      (overlay changes base.table).get k = none → keep todo got locks base)
    (taken : ∀ k todo got locks base row, keep (k :: todo) got locks base →
      (overlay changes base.table).get k = some row →
        keep todo (if clause row then got ++ [row] else got) (k :: locks) base)
    (ends : ∀ got locks base, keep [] got locks base →
      (∀ index ∈ indexes, (overlay changes base.table).Unique index) → post got locks base)
    (todo : List K) (got : List R) (locks : List K) (base : Base key A)
    (holds : keep todo got locks base) :
    lockOutline contract indexes clause next changes post todo got locks base := by
  induction todo generalizing got locks base with
  | nil =>
    exact fun last rely => ends _ _ _ (later _ _ _ _ _ holds rely) rely.unique
  | cons k rest hypothesis =>
    intro last rely
    have after := later _ _ _ _ _ holds rely
    cases found : (overlay changes last.table).get k with
    | none => exact hypothesis got locks last (gone _ _ _ _ _ after found)
    | some row => exact hypothesis _ _ last (taken _ _ _ _ _ row after found)

/-- The rows a locking `SELECT` has taken: they satisfy its clause, are locked, and
are still what the session sees. -/
def HeldRows (clause : R → Bool) (changes : List (Change K R)) (got : List R) (locks : List K)
    (base : Base key A) : Prop :=
  ∀ row ∈ got, clause row = true ∧ key row ∈ locks ∧
    (overlay changes base.table).get (key row) = some row

omit [DecidableEq J] in
theorem HeldRows.later {got : List R} {locks : List K} {base last : Base key A}
    {phase : Phase key E A} (held : HeldRows clause changes got locks base)
    (rely : contract.Rely indexes phase changes locks base last) :
    HeldRows clause changes got locks last := by
  intro row member
  obtain ⟨chosen, locked, stands⟩ := held row member
  refine ⟨chosen, locked, ?_⟩
  rw [get_overlay_congr changes (rely.kept _ locked)]
  exact stands

theorem HeldRows.take {got : List R} {locks : List K} {base : Base key A} {k : K} {row : R}
    (held : HeldRows clause changes got locks base)
    (found : (overlay changes base.table).get k = some row) :
    HeldRows clause changes (if clause row then got ++ [row] else got) (k :: locks) base := by
  have older : HeldRows clause changes got (k :: locks) base := by
    intro old member
    obtain ⟨chosen, locked, stands⟩ := held old member
    exact ⟨chosen, List.mem_cons_of_mem _ locked, stands⟩
  split
  · rename_i chosen
    intro other member
    rcases List.mem_append.mp member with earlier | new
    · exact older other earlier
    · rw [List.mem_singleton] at new
      subst new
      have same : key other = k := Table.key_of_get found
      rw [same]
      exact ⟨chosen, List.mem_cons_self, found⟩
  · exact older

/-- The rule of a locking `SELECT`: what the session keeps meanwhile, the rows it has
taken at the end, and the rows that stand still and so are among them. -/
theorem Prog.outline_lock {locks : List K} {base : Base key A}
    (frame : List K → Base key A → Prop) (targets : R → Prop)
    (scans : ∀ last, contract.Rely indexes (.running (.lock clause next)) changes locks base last →
      frame locks last)
    (later : ∀ todo got locks base last, frame locks base →
      contract.Rely indexes (.locking clause todo got next) changes locks base last →
        frame locks last)
    (locked : ∀ k locks base, frame locks base → frame (k :: locks) base)
    (stands : ∀ row locks base, targets row → frame locks base →
      clause row = true ∧ (overlay changes base.table).get (key row) = some row)
    (ends : ∀ got locks base, frame locks base → HeldRows clause changes got locks base →
      (∀ row, targets row → row ∈ got) →
        (∀ index ∈ indexes, (overlay changes base.table).Unique index) →
          (next got).Outline contract indexes changes locks base) :
    (Prog.lock clause next).Outline contract indexes changes locks base := by
  intro last rely
  have begins := scans last rely
  refine lockOutline_intro
    (fun todo got locks base => frame locks base ∧ HeldRows clause changes got locks base ∧
      ∀ row, targets row → key row ∈ todo ∨ row ∈ got) ?_ ?_ ?_ ?_ _ _ _ _ ?_
  · rintro todo got locks base last ⟨keeps, held, found⟩ rely
    exact ⟨later _ _ _ _ _ keeps rely, held.later rely, found⟩
  · rintro k todo got locks base ⟨keeps, held, found⟩ missing
    refine ⟨keeps, held, ?_⟩
    intro row target
    refine (found row target).imp_left ?_
    intro waiting
    refine (List.mem_cons.mp waiting).resolve_left ?_
    rintro rfl
    rw [(stands row locks base target keeps).2] at missing
    cases missing
  · rintro k todo got locks base row ⟨keeps, held, found⟩ taken
    refine ⟨locked k _ _ keeps, held.take taken, ?_⟩
    intro target wanted
    obtain ⟨chosen, standing⟩ := stands target locks base wanted keeps
    rcases found target wanted with waiting | earlier
    · rcases List.mem_cons.mp waiting with rfl | rest
      · rw [standing] at taken
        cases taken
        rw [if_pos chosen]
        exact Or.inr (List.mem_append_right _ List.mem_cons_self)
      · exact Or.inl rest
    · right
      split
      · exact List.mem_append_left _ earlier
      · exact earlier
  · rintro got locks base ⟨keeps, held, found⟩ unique
    refine ends got locks base keeps held ?_ unique
    intro row target
    exact (found row target).resolve_left fun waiting => nomatch waiting
  · have nothing : HeldRows clause changes [] locks last := by
      intro row member
      cases member
    refine ⟨begins, nothing, ?_⟩
    intro row target
    obtain ⟨chosen, standing⟩ := stands row locks last target begins
    refine Or.inl (List.mem_map_of_mem ?_)
    exact (Table.mem_select _ _ _).mpr ⟨Table.mem_of_get standing, chosen⟩

end LockRule

/-! ## Updating rows -/

/-- The rule of the rows an `UPDATE` takes one after the other. -/
theorem updateOutline_intro {clause : R → Bool} {change : R → R}
    {same : ∀ row, key (change row) = key row} {next : Option Nat → Prog key E A}
    {post : Option Nat → List (Change K R) → List K → Base key A → Prop}
    (keep : List K → Nat → List (Change K R) → List K → Base key A → Prop)
    (later : ∀ todo count changes locks base last, keep todo count changes locks base →
      contract.Rely indexes (.updating clause change same todo count next) changes locks base
        last → keep todo count changes locks last)
    (gone : ∀ k todo count changes locks base, keep (k :: todo) count changes locks base →
      (overlay changes base.table).get k = none → keep todo count changes locks base)
    (skipped : ∀ k todo count changes locks base row, keep (k :: todo) count changes locks base →
      (overlay changes base.table).get k = some row → clause row = false →
        keep todo count changes (k :: locks) base)
    (changed : ∀ k todo count changes locks base row, keep (k :: todo) count changes locks base →
      (overlay changes base.table).get k = some row → clause row = true →
        keep todo (count + 1) (changes ++ [.store (change row)]) (k :: locks) base)
    (refused : ∀ k todo count changes locks base row, keep (k :: todo) count changes locks base →
      (overlay changes base.table).get k = some row → clause row = true →
        post none changes locks base)
    (ends : ∀ count changes locks base, keep [] count changes locks base →
      post (some count) changes locks base)
    (todo : List K) (count : Nat) (changes : List (Change K R)) (locks : List K)
    (base : Base key A) (holds : keep todo count changes locks base) :
    updateOutline contract indexes clause change same next post todo count changes locks
      base := by
  induction todo generalizing count changes locks base with
  | nil => exact fun last rely => ends _ _ _ _ (later _ _ _ _ _ _ holds rely)
  | cons k rest hypothesis =>
    intro last rely
    have after := later _ _ _ _ _ _ holds rely
    cases found : (overlay changes last.table).get k with
    | none => exact hypothesis count changes locks last (gone _ _ _ _ _ _ after found)
    | some row =>
      simp only
      by_cases chosen : clause row = true
      · rw [if_pos chosen]
        split
        · rw [same, Table.key_of_get found]
          exact hypothesis _ _ _ last (changed _ _ _ _ _ _ row after found chosen)
        · exact refused _ _ _ _ _ _ row after found chosen
      · rw [if_neg chosen]
        exact hypothesis count changes _ last
          (skipped _ _ _ _ _ _ row after found (Bool.eq_false_of_not_eq_true chosen))

/-! ## Programs that keep to their keys -/

omit [DecidableEq K] [DecidableEq J] in
/-- The program writes under allowed keys only, and ends with one of the answers. -/
def Prog.Confined (allowed : K → Prop) (answers : A → Prop) : Prog key E A → Prop
  | .ret answer => answers answer
  | .raise _ => True
  | .select _ next => ∀ rows, (next rows).Confined allowed answers
  | .lock _ next => ∀ rows, (next rows).Confined allowed answers
  | .write k _ _ next => allowed k ∧ ∀ reply, (next reply).Confined allowed answers
  | .insert row next => allowed (key row) ∧ ∀ reply, (next reply).Confined allowed answers
  | .erase k next => allowed k ∧ next.Confined allowed answers
  | .update clause _ _ next => (∀ row, clause row = true → allowed (key row)) ∧
      ∀ count, (next count).Confined allowed answers

omit [DecidableEq K] [DecidableEq J] in
theorem Prog.Confined.bind {B : Type} {allowed : K → Prop} {answers : A → Prop}
    {final : B → Prop} {prog : Prog key E A} {rest : A → Prog key E B}
    (confined : prog.Confined allowed answers)
    (ends : ∀ answer, answers answer → (rest answer).Confined allowed final) :
    (prog.bind rest).Confined allowed final := by
  induction prog with
  | ret answer => exact ends answer confined
  | raise error => trivial
  | select clause next hypothesis => exact fun rows => hypothesis rows (confined rows)
  | lock clause next hypothesis => exact fun rows => hypothesis rows (confined rows)
  | write k change keeps next hypothesis =>
    exact ⟨confined.1, fun reply => hypothesis reply (confined.2 reply)⟩
  | insert row next hypothesis =>
    exact ⟨confined.1, fun reply => hypothesis reply (confined.2 reply)⟩
  | erase k next hypothesis => exact ⟨confined.1, hypothesis confined.2⟩
  | update clause change keeps next hypothesis =>
    exact ⟨confined.1, fun count => hypothesis count (confined.2 count)⟩

/-- What the commits of others and writes under allowed keys do not disturb. -/
structure Keeps (contract : Contract key E A) (indexes : List (R → Option J)) (allowed : K → Prop)
    (keep : List (Change K R) → List K → Base key A → Prop) : Prop where
  later : ∀ phase changes locks base last, keep changes locks base →
    contract.Rely indexes phase changes locks base last → keep changes locks last
  locked : ∀ k changes locks base, keep changes locks base → keep changes (k :: locks) base
  changed : ∀ change changes locks base, allowed (change.on key) → keep changes locks base →
    keep (changes ++ [change]) (change.on key :: locks) base

section Confinement

variable {allowed : K → Prop} {keep : List (Change K R) → List K → Base key A → Prop}

theorem Prog.Confined.outline {answers : A → Prop} {prog : Prog key E A}
    (confined : prog.Confined allowed answers) (keeps : Keeps contract indexes allowed keep)
    (raises : ∀ error, contract.raises error)
    (commits : ∀ answer changes locks base, answers answer → contract.invariant base →
      keep changes locks base → contract.Commits answer changes locks base)
    (changes : List (Change K R)) (locks : List K) (base : Base key A)
    (holds : keep changes locks base) : prog.Outline contract indexes changes locks base := by
  induction prog generalizing changes locks base with
  | ret answer =>
    intro later rely
    exact commits answer changes locks later confined rely.invariant
      (keeps.later _ _ _ _ _ holds rely)
  | raise error => exact raises error
  | select clause next hypothesis =>
    intro later rely
    exact hypothesis _ (confined _) changes locks later (keeps.later _ _ _ _ _ holds rely)
  | lock clause next hypothesis =>
    intro later rely
    exact lockOutline_intro (fun _ _ locks base => keep changes locks base)
      (fun _ _ _ _ _ after rely => keeps.later _ _ _ _ _ after rely)
      (fun _ _ _ _ _ after _ => after) (fun k _ _ _ _ _ after _ => keeps.locked k _ _ _ after)
      (fun got _ _ after _ => hypothesis got (confined got) changes _ _ after)
      _ _ _ _ (keeps.later _ _ _ _ _ holds rely)
  | write k change same next hypothesis =>
    intro later rely
    have after := keeps.later _ _ _ _ _ holds rely
    cases found : (overlay changes later.table).get k with
    | none => exact hypothesis _ (confined.2 _) changes locks later after
    | some row =>
      simp only
      have own : allowed ((Change.store (change row) : Change K R).on key) := by
        change allowed (key (change row))
        rw [same, Table.key_of_get found]
        exact confined.1
      split
      · exact hypothesis _ (confined.2 _) _ _ later (keeps.changed _ _ _ _ own after)
      · exact hypothesis _ (confined.2 _) changes locks later after
  | insert row next hypothesis =>
    intro later rely
    have after := keeps.later _ _ _ _ _ holds rely
    split
    · exact hypothesis _ (confined.2 _) _ _ later
        (keeps.changed (.store row) _ _ _ confined.1 after)
    · exact hypothesis _ (confined.2 _) changes locks later after
  | erase k next hypothesis =>
    intro later rely
    have after := keeps.later _ _ _ _ _ holds rely
    split
    · exact hypothesis confined.2 _ _ later (keeps.changed (.erase k) _ _ _ confined.1 after)
    · exact hypothesis confined.2 changes locks later after
  | update clause change same next hypothesis =>
    intro later rely
    refine updateOutline_intro (fun _ _ changes locks base => keep changes locks base)
      (fun _ _ _ _ _ _ after rely => keeps.later _ _ _ _ _ after rely)
      (fun _ _ _ _ _ _ after _ => after)
      (fun k _ _ _ _ _ _ after _ _ => keeps.locked k _ _ _ after) ?_
      (fun _ _ _ _ _ _ _ after _ _ => hypothesis none (confined.2 none) _ _ _ after)
      (fun count _ _ _ after => hypothesis (some count) (confined.2 _) _ _ _ after)
      _ _ _ _ _ (keeps.later _ _ _ _ _ holds rely)
    intro k _ _ changes locks base row after found chosen
    have own : allowed ((Change.store (change row) : Change K R).on key) := by
      change allowed (key (change row))
      rw [same]
      exact confined.1 row chosen
    have placed : (Change.store (change row) : Change K R).on key = k :=
      (same row).trans (Table.key_of_get found)
    have extended := keeps.changed _ _ _ _ own after
    rw [placed] at extended
    exact extended

end Confinement

end Outlines

/-! ## Runs with their answers -/

def Phase.answers : Phase key E A → List A
  | .committed answer => [answer]
  | _ => []

section Runs

variable [DecidableEq Tid] [DecidableEq J] (indexes : List (R → Option J)) (aborts : Prop)

/-- A step beside the log of the answers, if the condition lets it happen. -/
def World.Logs (condition : World Tid key E A → Tid → World Tid key E A → Prop)
    (now next : World Tid key E A × List A) : Prop :=
  ∃ tid, World.Step indexes aborts now.1 tid next.1 ∧ condition now.1 tid next.1 ∧
    next.2 = now.2 ++ (next.1.session tid).phase.answers

def World.LogRun (condition : World Tid key E A → Tid → World Tid key E A → Prop) :
    World Tid key E A × List A → World Tid key E A × List A → Prop :=
  Relation.ReflTransGen (World.Logs indexes aborts condition)

variable {indexes aborts}

omit [DecidableEq Tid] in
theorem advance_answers (view : Table key) (session : Session key E A)
    (statement : session.phase.isStatement = true) :
    (session.advance indexes view).phase.answers = [] := by
  have follows : Phase.Follows (session.advance indexes view).phase session.phase :=
    advance_follows view session statement
  generalize (session.advance indexes view).phase = after at follows
  generalize session.phase = before at follows statement
  cases follows with
  | commit answer => cases statement
  | _ => rfl

theorem World.Reaches.logged {world next : World Tid key E A}
    (run : World.Reaches indexes aborts world next) (log : List A) :
    ∃ more, World.LogRun indexes aborts (fun _ _ _ => True) (world, log) (next, more) := by
  induction run with
  | refl => exact ⟨log, .refl⟩
  | @tail middle last _ step hypothesis =>
    obtain ⟨more, run⟩ := hypothesis
    obtain ⟨tid, step⟩ := step
    exact ⟨more ++ (last.session tid).phase.answers, run.tail ⟨tid, step, trivial, rfl⟩⟩

/-- The contract holds and every session is on its outline. -/
structure Upholds (contract : Contract key E A) (indexes : List (R → Option J))
    (now : World Tid key E A × List A) : Prop where
  sound : Sound indexes now.1
  invariant : contract.invariant ⟨now.1.table, now.2⟩
  outline : ∀ tid, (now.1.session tid).Outline contract indexes ⟨now.1.table, now.2⟩

omit [DecidableEq Tid] in
theorem upholds_start {contract : Contract key E A} (table : Table key)
    (program : Tid → Prog key E A) (unique : ∀ index ∈ indexes, table.Unique index)
    (invariant : contract.invariant ⟨table, []⟩)
    (outline : ∀ tid, (program tid).Outline contract indexes [] [] ⟨table, []⟩) :
    Upholds contract indexes (World.start table program, []) :=
  ⟨sound_start table program unique, invariant, outline⟩

variable {contract : Contract key E A} {now next : World Tid key E A × List A} {tid : Tid}

theorem Upholds.step (upholds : Upholds contract indexes now)
    (step : World.Step indexes aborts now.1 tid next.1)
    (logs : next.2 = now.2 ++ (next.1.session tid).phase.answers)
    (assumed : ∀ other, other ≠ tid →
      contract.assumes (now.1.session other).phase now.1.table next.1.table) :
    Upholds contract indexes next ∧ contract.guarantee now.1.table next.1.table ∧
      ((next.1.session tid).phase.answers = [] ∧ next.1.table = now.1.table ∨
        ∃ answer, (next.1.session tid).phase = .committed answer ∧
          contract.effect answer now.1.table next.1.table) := by
  obtain ⟨world, log⟩ := now
  obtain ⟨after, more⟩ := next
  simp only at step logs assumed
  have sound : Sound indexes after := upholds.sound.step step
  -- a step that commits nothing leaves the base alone
  have still : after.table = world.table → (after.session tid).phase.answers = [] →
      (after.session tid).Outline contract indexes ⟨world.table, log⟩ →
      Upholds contract indexes (after, more) ∧ contract.guarantee world.table after.table ∧
        ((after.session tid).phase.answers = [] ∧ after.table = world.table ∨
          ∃ answer, (after.session tid).phase = .committed answer ∧
            contract.effect answer world.table after.table) := by
    intro same silent own
    rw [silent, List.append_nil] at logs
    subst logs
    refine ⟨⟨sound, ?_, ?_⟩, ?_, Or.inl ⟨silent, same⟩⟩
    · rw [same]
      exact upholds.invariant
    · intro other
      rw [same]
      by_cases here : other = tid
      · rw [here]
        exact own
      · rw [step.session_of_ne here]
        exact upholds.outline other
    · rw [same]
      exact contract.guarantee_refl _
  cases step with
  | statement statement ready =>
    refine still rfl ?_ ?_
    · rw [enter_session_self]
      exact advance_answers _ _ statement
    · rw [enter_session_self]
      exact (upholds.outline tid).advance statement
        (.refl _ _ upholds.invariant (upholds.sound.unique tid))
  | fail error raised =>
    refine still rfl ?_ ?_
    · rw [enter_session_self]
      rfl
    · rw [enter_session_self]
      have outline := upholds.outline tid
      rw [Session.Outline, raised] at outline
      exact outline
  | abort allowed working =>
    refine still rfl ?_ ?_
    · rw [enter_session_self]
      rfl
    · rw [enter_session_self]
      trivial
  | commit answer done =>
    rw [publish_session_self] at logs
    have outline := upholds.outline tid
    rw [Session.Outline, done] at outline
    have commits : contract.Commits answer (world.session tid).changes (world.session tid).locks
        ⟨world.table, log⟩ :=
      outline _ (.refl _ _ upholds.invariant (upholds.sound.unique tid))
    subst logs
    refine ⟨⟨sound, commits.invariant, ?_⟩, commits.guarantee, Or.inr ⟨answer, ?_,
      commits.effect⟩⟩
    swap
    · rw [publish_session_self]
    intro other
    by_cases here : other = tid
    · rw [here, publish_session_self]
      exact List.mem_append_right _ List.mem_cons_self
    · rw [publish_session_of_ne world answer here]
      refine (upholds.outline other).later ?_
      have free : ∀ k ∈ (world.session other).locks, k ∉ (world.session tid).locks := by
        intro k held own
        exact here (upholds.sound.exclusive other tid k held own)
      refine ⟨commits.invariant, commits.guarantee, assumed other here, ?_, ?_, ?_, ?_⟩
      · intro k held
        exact get_overlay_of_untouched _ _ fun touched =>
          free k held (upholds.sound.locked tid k touched)
      · intro k held
        exact commits.guards k (free k held)
      · intro index indexed
        have unique := sound.unique other index indexed
        rw [World.view, publish_session_of_ne world answer here] at unique
        exact unique
      · exact List.prefix_append _ _

/-- The contract holds along every run in which the sessions may assume what
their outlines do. -/
theorem Upholds.run {condition : World Tid key E A → Tid → World Tid key E A → Prop}
    (upholds : Upholds contract indexes now)
    (run : World.LogRun indexes aborts condition now next)
    (assumed : ∀ world tid next, World.Step indexes aborts world tid next →
      condition world tid next → ∀ other, other ≠ tid →
        contract.assumes (world.session other).phase world.table next.table) :
    Upholds contract indexes next ∧ contract.guarantee now.1.table next.1.table ∧
      now.2 <+: next.2 := by
  induction run with
  | refl => exact ⟨upholds, contract.guarantee_refl _, List.prefix_refl _⟩
  | tail _ step hypothesis =>
    obtain ⟨before, guarantee, grows⟩ := hypothesis
    obtain ⟨tid, step, condition, logs⟩ := step
    obtain ⟨after, further, _⟩ := before.step step logs (assumed _ _ _ step condition)
    refine ⟨after, contract.guarantee_trans _ _ _ guarantee further, grows.trans ?_⟩
    rw [logs]
    exact List.prefix_append _ _

/-! ## The sessions behind the log -/

theorem World.LogRun.order {condition : World Tid key E A → Tid → World Tid key E A → Prop}
    (run : World.LogRun indexes aborts condition now next)
    (begins : ∀ tid, (now.1.session tid).phase.answers = []) :
    ∃ order : List Tid,
      next.2 = now.2 ++ order.flatMap (fun tid => (next.1.session tid).phase.answers) ∧
        (∀ tid ∈ order, (next.1.session tid).phase.isOpen = false) ∧
        ∀ tid, (next.1.session tid).phase.answers ≠ [] → tid ∈ order := by
  induction run with
  | refl =>
    refine ⟨[], (List.append_nil _).symm, ?_, fun tid answered => absurd (begins tid) answered⟩
    intro tid member
    cases member
  | @tail middle last _ step hypothesis =>
    obtain ⟨order, logged, closed, listed⟩ := hypothesis
    obtain ⟨tid, step, _, logs⟩ := step
    have others : ∀ other ∈ order, last.1.session other = middle.1.session other := by
      intro other member
      refine step.session_of_ne ?_
      rintro rfl
      have ended := closed other member
      rw [step.isOpen] at ended
      cases ended
    have same : order.flatMap (fun other => (last.1.session other).phase.answers) =
        order.flatMap (fun other => (middle.1.session other).phase.answers) := by
      refine List.flatMap_congr ?_
      intro other member
      rw [others other member]
    by_cases silent : (last.1.session tid).phase.answers = []
    · refine ⟨order, ?_, ?_, ?_⟩
      · rw [logs, silent, List.append_nil, same]
        exact logged
      · intro other member
        rw [others other member]
        exact closed other member
      · intro other answered
        have differs : other ≠ tid := by
          rintro rfl
          exact answered silent
        rw [step.session_of_ne differs] at answered
        exact listed other answered
    · refine ⟨order ++ [tid], ?_, ?_, ?_⟩
      · rw [logs, logged, List.flatMap_append, List.flatMap_singleton, same, List.append_assoc]
      · intro other member
        rcases List.mem_append.mp member with earlier | new
        · rw [others other earlier]
          exact closed other earlier
        · rw [List.mem_singleton] at new
          subst new
          revert silent
          cases (last.1.session other).phase with
          | committed answer => exact fun _ => rfl
          | _ => exact fun silent => absurd rfl silent
      · intro other answered
        by_cases here : other = tid
        · rw [here]
          exact List.mem_append_right _ List.mem_cons_self
        · rw [step.session_of_ne here] at answered
          exact List.mem_append_left _ (listed other answered)

theorem World.LogRun.answered_once
    {condition : World Tid key E A → Tid → World Tid key E A → Prop}
    (run : World.LogRun indexes aborts condition now next)
    (begins : ∀ tid, (now.1.session tid).phase.answers = []) (kind : A → Bool)
    (once : next.2.countP kind ≤ 1) {left right : Tid} {first second : A}
    (leftDone : (next.1.session left).phase = .committed first)
    (rightDone : (next.1.session right).phase = .committed second)
    (leftKind : kind first = true) (rightKind : kind second = true) : left = right := by
  obtain ⟨order, logged, _, listed⟩ := run.order begins
  have counted : ∀ order : List Tid,
      (order.filter fun tid => (next.1.session tid).phase.answers.any kind).length ≤
        (order.flatMap fun tid => (next.1.session tid).phase.answers).countP kind := by
    intro order
    induction order with
    | nil => exact Nat.le_refl 0
    | cons tid rest hypothesis =>
      rw [List.flatMap_cons, List.countP_append, List.filter_cons]
      split
      · rename_i answered
        have positive : 0 < (next.1.session tid).phase.answers.countP kind :=
          List.countP_pos_iff.mpr (List.any_eq_true.mp answered)
        rw [List.length_cons]
        omega
      · omega
  have few : (order.filter fun tid => (next.1.session tid).phase.answers.any kind).length ≤ 1 := by
    refine (counted order).trans ?_
    rw [logged, List.countP_append] at once
    omega
  have found : ∀ tid answer, (next.1.session tid).phase = .committed answer →
      kind answer = true → tid ∈ order.filter fun tid =>
        (next.1.session tid).phase.answers.any kind := by
    intro tid answer done right
    refine List.mem_filter.mpr ⟨listed tid ?_, ?_⟩
    · rw [done]
      exact List.cons_ne_nil _ _
    · rw [done]
      simpa [Phase.answers] using right
  generalize (order.filter fun tid => (next.1.session tid).phase.answers.any kind) = chosen
    at few found
  match chosen, few with
  | [], _ => exact nomatch found left first leftDone leftKind
  | [single], _ =>
    have leftSame := found left first leftDone leftKind
    have rightSame := found right second rightDone rightKind
    rw [List.mem_singleton] at leftSame rightSame
    rw [leftSame, rightSame]

/-! ## Schedules that meet a condition -/

section Schedules

variable [Fintype Tid]

variable (indexes) in
/-- The steps of the schedule meet the condition. -/
def World.Along (condition : World Tid key E A → Tid → World Tid key E A → Prop) :
    World Tid key E A → List Tid → Prop
  | _, [] => True
  | world, tid :: rest =>
    condition world tid (world.tick indexes tid) ∧
      World.Along condition (world.tick indexes tid) rest

variable (indexes) in
/-- A check at every step of the schedule. -/
def World.checks (check : World Tid key E A → Tid → Bool) :
    World Tid key E A → List Tid → Bool
  | _, [] => true
  | world, tid :: rest =>
    check world tid && World.checks check (world.tick indexes tid) rest

theorem World.along_of_ticks {condition : World Tid key E A → Tid → World Tid key E A → Prop}
    {check : World Tid key E A → Tid → Bool}
    (sound : ∀ world tid, check world tid = true →
      condition world tid (world.tick indexes tid))
    (schedule : List Tid) (world : World Tid key E A)
    (checked : World.checks indexes check world schedule = true) :
    World.Along indexes condition world schedule := by
  induction schedule generalizing world with
  | nil => trivial
  | cons tid rest hypothesis =>
    rw [World.checks, Bool.and_eq_true] at checked
    exact ⟨sound _ _ checked.1, hypothesis _ checked.2⟩

theorem World.along_of_checks {condition : World Tid key E A → Tid → World Tid key E A → Prop}
    {check : World Tid key E A → Tid → Bool}
    (sound : ∀ world tid next, check world tid = true → condition world tid next)
    (schedule : List Tid) (world : World Tid key E A)
    (checked : World.checks indexes check world schedule = true) :
    World.Along indexes condition world schedule :=
  World.along_of_ticks (fun world tid passed => sound world tid _ passed) schedule world checked

theorem World.Along.logged {condition : World Tid key E A → Tid → World Tid key E A → Prop}
    {schedule : List Tid} {world : World Tid key E A}
    (along : World.Along indexes condition world schedule) (log : List A) :
    ∃ more, World.LogRun indexes aborts condition (world, log)
      (world.follow indexes schedule, more) := by
  induction schedule generalizing world log with
  | nil => exact ⟨log, .refl⟩
  | cons tid rest hypothesis =>
    have moved : _ ∨ World.Step indexes aborts world tid (world.tick indexes tid) :=
      tick_cases world tid
    rcases moved with same | step
    · have later := along.2
      rw [same] at later
      obtain ⟨more, run⟩ := hypothesis later log
      refine ⟨more, ?_⟩
      change World.LogRun indexes aborts condition (world, log)
        ((world.tick indexes tid).follow indexes rest, more)
      rw [same]
      exact run
    · obtain ⟨more, run⟩ := hypothesis along.2
        (log ++ ((world.tick indexes tid).session tid).phase.answers)
      exact ⟨more, .head ⟨tid, step, along.1, rfl⟩ run⟩

end Schedules

end Runs

end BackendCore.ReadCommitted
