import BackendCore.Lib.UniqueIndex

/-!
# Concurrent transactions at READ COMMITTED

Any number of transactions over one keyed table with partial unique indexes.  A
transaction is a program of statements, and the statements of different
transactions interleave.  A plain statement sees the rows committed before it
and the writes of its own transaction.  A locking `SELECT` first takes the keys
of the rows it sees and then locks them one after the other, waiting for other
transactions; a row it waited for is read again, and is left out when it no
longer satisfies the clause.  An `UPDATE` or `DELETE` of one row waits for the
lock of its row.  An `UPDATE` with a clause takes the keys of the rows it sees,
waits for each of them, locks it, reads it again and changes it if it still
satisfies the clause.  A write into a unique index waits for a transaction that
has an uncommitted row in the way, and is refused when a committed one is.
Locks are held to the end of the transaction.
-/

set_option autoImplicit false

namespace BackendCore.ReadCommitted

variable {Tid K R J E A B : Type} {key : R → K}

/-! ## Programs -/

/-- What a write answers: a refused write leaves nothing behind. -/
inductive Reply where
  | done
  | conflict
  | missing
  deriving DecidableEq

/-- The statements of one transaction.  `write` changes the latest version of
the row under a key, and the change keeps the key.  `update` answers with the
number of rows it changed, or with nothing when a unique index refuses one. -/
inductive Prog {K R : Type} (key : R → K) (E A : Type) where
  | ret (answer : A)
  | raise (error : E)
  | select (clause : R → Bool) (next : List R → Prog key E A)
  | lock (clause : R → Bool) (next : List R → Prog key E A)
  | write (k : K) (change : R → R) (keeps : ∀ row, key (change row) = key row)
      (next : Reply → Prog key E A)
  | insert (row : R) (next : Reply → Prog key E A)
  | erase (k : K) (next : Prog key E A)
  | update (clause : R → Bool) (change : R → R) (keeps : ∀ row, key (change row) = key row)
      (next : Option Nat → Prog key E A)

namespace Prog

def bind : Prog key E A → (A → Prog key E B) → Prog key E B
  | ret answer, rest => rest answer
  | raise error, _ => raise error
  | select clause next, rest => select clause fun rows => (next rows).bind rest
  | lock clause next, rest => lock clause fun rows => (next rows).bind rest
  | write k change keeps next, rest => write k change keeps fun reply => (next reply).bind rest
  | insert row next, rest => insert row fun reply => (next reply).bind rest
  | erase k next, rest => erase k (next.bind rest)
  | update clause change keeps next, rest =>
    update clause change keeps fun count => (next count).bind rest

end Prog

/-! ## Uncommitted changes -/

inductive Change (K R : Type) where
  | store (row : R)
  | erase (k : K)

def Change.on (key : R → K) : Change K R → K
  | store row => key row
  | erase k => k

theorem mem_on_snoc {changes : List (Change K R)} {change : Change K R} {k : K} :
    k ∈ (changes ++ [change]).map (Change.on key) ↔
      k ∈ changes.map (Change.on key) ∨ k = change.on key := by
  simp

variable [DecidableEq K]

def Change.apply (change : Change K R) (table : Table key) : Table key :=
  match change with
  | store row => table.store row
  | erase k => table.erase k

/-- The table as a transaction with these changes sees it. -/
def overlay (changes : List (Change K R)) (table : Table key) : Table key :=
  changes.foldl (fun current change => change.apply current) table

theorem get_apply (change : Change K R) (table : Table key) (k : K) :
    (change.apply table).get k =
      if k = change.on key then
        match change with
        | .store row => some row
        | .erase _ => none
      else table.get k := by
  cases change with
  | store row => exact table.get_store row k
  | erase j => exact table.get_erase j k

theorem overlay_append (changes : List (Change K R)) (change : Change K R) (table : Table key) :
    overlay (changes ++ [change]) table = change.apply (overlay changes table) := by
  simp [overlay, List.foldl_append]

theorem get_overlay_congr (changes : List (Change K R)) {left right : Table key} {k : K}
    (same : left.get k = right.get k) :
    (overlay changes left).get k = (overlay changes right).get k := by
  induction changes generalizing left right with
  | nil => exact same
  | cons change rest hypothesis =>
    have applied : (change.apply left).get k = (change.apply right).get k := by
      rw [get_apply, get_apply, same]
    exact hypothesis applied

theorem get_overlay_of_untouched (changes : List (Change K R)) (table : Table key) {k : K}
    (untouched : k ∉ changes.map (Change.on key)) :
    (overlay changes table).get k = table.get k := by
  induction changes generalizing table with
  | nil => rfl
  | cons change rest hypothesis =>
    rw [List.map_cons, List.mem_cons, not_or] at untouched
    refine (hypothesis (change.apply table) untouched.2).trans ?_
    rw [get_apply, if_neg untouched.1]

theorem get_overlay_of_touched (changes : List (Change K R)) (left right : Table key) {k : K}
    (touched : k ∈ changes.map (Change.on key)) :
    (overlay changes left).get k = (overlay changes right).get k := by
  induction changes generalizing left right with
  | nil => cases touched
  | cons change rest hypothesis =>
    by_cases later : k ∈ rest.map (Change.on key)
    · exact hypothesis (change.apply left) (change.apply right) later
    · rw [List.map_cons, List.mem_cons] at touched
      have here : k = change.on key := touched.resolve_right later
      have applied : (change.apply left).get k = (change.apply right).get k := by
        rw [get_apply, get_apply, if_pos here, if_pos here]
      exact get_overlay_congr rest applied

/-! ## Sessions -/

inductive Phase {K R : Type} (key : R → K) (E A : Type) where
  | running (prog : Prog key E A)
  | locking (clause : R → Bool) (todo : List K) (got : List R) (next : List R → Prog key E A)
  | updating (clause : R → Bool) (change : R → R) (keeps : ∀ row, key (change row) = key row)
      (todo : List K) (count : Nat) (next : Option Nat → Prog key E A)
  | committed (answer : A)
  | failed (error : E)
  | aborted

structure Session {K R : Type} (key : R → K) (E A : Type) where
  phase : Phase key E A
  changes : List (Change K R)
  locks : List K

/-- Whether the next step of the session is a statement, or a part of one. -/
def Phase.isStatement : Phase key E A → Bool
  | .running (.ret _) => false
  | .running (.raise _) => false
  | .running _ => true
  | .locking _ _ _ _ => true
  | .updating _ _ _ _ _ _ => true
  | _ => false

def Phase.isOpen : Phase key E A → Bool
  | .running _ => true
  | .locking _ _ _ _ => true
  | .updating _ _ _ _ _ _ => true
  | _ => false

section Statements

variable [DecidableEq J] (indexes : List (R → Option J))

/-- Whether no other row of the table is filed where the row would be. -/
def fits (table : Table key) (row : R) : Bool :=
  table.rows.all fun other => decide (key other = key row) ||
    indexes.all fun index => (index row).isNone || decide (index other ≠ index row)

def collides (key : R → K) (indexes : List (R → Option J)) (left right : R) : Bool :=
  decide (key left = key right) ||
    indexes.any fun index => (index left).isSome && decide (index left = index right)

theorem free_of_fits {indexes : List (R → Option J)} {table : Table key} {row : R}
    (free : fits indexes table row = true) {index : R → Option J} (indexed : index ∈ indexes) :
    table.Free index row := by
  intro other member differs value filed otherFiled
  have passes := List.all_eq_true.mp free other member
  rw [Bool.or_eq_true, decide_eq_true_eq] at passes
  have apart := List.all_eq_true.mp (passes.resolve_left differs) index indexed
  rw [filed, otherFiled] at apart
  simp at apart

theorem fits_of_free {indexes : List (R → Option J)} {table : Table key} {row : R}
    (free : ∀ index ∈ indexes, table.Free index row) : fits indexes table row = true := by
  refine List.all_eq_true.mpr ?_
  intro other member
  by_cases same : key other = key row
  · simp [same]
  · simp only [same, decide_false, Bool.false_or]
    refine List.all_eq_true.mpr ?_
    intro index indexed
    cases filed : index row with
    | none => rfl
    | some value =>
      have apart := free index indexed other member same value filed
      simp [apart]

namespace Session

def goto (session : Session key E A) (phase : Phase key E A) : Session key E A :=
  { session with phase := phase }

def withLock (session : Session key E A) (k : K) : Session key E A :=
  { session with locks := k :: session.locks }

def withChange (session : Session key E A) (change : Change K R) : Session key E A :=
  { session with
    changes := session.changes ++ [change], locks := change.on key :: session.locks }

def touched (session : Session key E A) : List K := session.changes.map (Change.on key)

/-- The next step of a statement on the table the session sees. -/
def advance (view : Table key) (session : Session key E A) : Session key E A :=
  match session.phase with
  | .running (.select clause next) => session.goto (.running (next (view.select clause)))
  | .running (.lock clause next) =>
    session.goto (.locking clause ((view.select clause).map key) [] next)
  | .running (.write k change _ next) =>
    match view.get k with
    | none => session.goto (.running (next .missing))
    | some row =>
      if fits indexes view (change row) then
        (session.withChange (.store (change row))).goto (.running (next .done))
      else session.goto (.running (next .conflict))
  | .running (.insert row next) =>
    if (view.get (key row)).isNone && fits indexes view row then
      (session.withChange (.store row)).goto (.running (next .done))
    else session.goto (.running (next .conflict))
  | .running (.erase k next) =>
    if (view.get k).isSome then (session.withChange (.erase k)).goto (.running next)
    else session.goto (.running next)
  | .locking _ [] got next => session.goto (.running (next got))
  | .locking clause (k :: todo) got next =>
    match view.get k with
    | none => session.goto (.locking clause todo got next)
    | some row =>
      (session.withLock k).goto
        (.locking clause todo (if clause row then got ++ [row] else got) next)
  | .running (.update clause change keeps next) =>
    session.goto (.updating clause change keeps ((view.select clause).map key) 0 next)
  | .updating _ _ _ [] count next => session.goto (.running (next (some count)))
  | .updating clause change keeps (k :: todo) count next =>
    match view.get k with
    | none => session.goto (.updating clause change keeps todo count next)
    | some row =>
      if clause row then
        if fits indexes view (change row) then
          (session.withChange (.store (change row))).goto
            (.updating clause change keeps todo (count + 1) next)
        else session.goto (.running (next none))
      else (session.withLock k).goto (.updating clause change keeps todo count next)
  | _ => session

/-- The row lock the next step needs. -/
def wants (session : Session key E A) : Option K :=
  match session.phase with
  | .running (.write k _ _ _) => some k
  | .running (.erase k _) => some k
  | .locking _ (k :: _) _ _ => some k
  | .updating _ _ _ (k :: _) _ _ => some k
  | _ => none

/-- The row the next step files in the indexes. -/
def files (view : Table key) (session : Session key E A) : Option R :=
  match session.phase with
  | .running (.write k change _ _) => (view.get k).map change
  | .running (.insert row _) => some row
  | .updating clause change _ (k :: _) _ _ => ((view.get k).filter clause).map change
  | _ => none

/-- The row versions another transaction has to wait for: those the session
wrote, and the committed ones it changed. -/
def versions (table : Table key) (session : Session key E A) : List R :=
  (session.changes.filterMap fun change =>
    match change with
    | .store row => some row
    | .erase _ => none) ++ session.touched.filterMap table.get

/-- Whether the next step of the asking session waits for the other one. -/
def obstructs (table view : Table key) (other asking : Session key E A) : Bool :=
  (asking.wants.any fun k => other.locks.contains k) ||
    (asking.files view).any fun row => (other.versions table).any (collides key indexes row)

end Session

end Statements

/-! ## The machine -/

structure World (Tid : Type) {K R : Type} (key : R → K) (E A : Type) where
  table : Table key
  session : Tid → Session key E A

namespace World

def view (world : World Tid key E A) (tid : Tid) : Table key :=
  overlay (world.session tid).changes world.table

/-- All transactions about to issue their first statement. -/
def start (table : Table key) (program : Tid → Prog key E A) : World Tid key E A where
  table := table
  session := fun tid => ⟨.running (program tid), [], []⟩

variable [DecidableEq Tid]

def enter (world : World Tid key E A) (tid : Tid) (session : Session key E A) :
    World Tid key E A :=
  { world with session := Function.update world.session tid session }

/-- The world after a commit. -/
def publish (world : World Tid key E A) (tid : Tid) (answer : A) : World Tid key E A where
  table := world.view tid
  session := Function.update world.session tid ⟨.committed answer, [], []⟩

variable [DecidableEq J] (indexes : List (R → Option J))

/-- Whether the next statement of the session need not wait. -/
def Ready (world : World Tid key E A) (tid : Tid) : Prop :=
  ∀ other, other ≠ tid →
    (world.session other).obstructs indexes world.table (world.view tid) (world.session tid) = false

/-- One step of one transaction; `aborts` says whether one may be lost without a
statement of its own (a crash, a deadlock). -/
inductive Step (aborts : Prop) : World Tid key E A → Tid → World Tid key E A → Prop where
  | statement (world : World Tid key E A) (tid : Tid)
      (next : (world.session tid).phase.isStatement = true) (ready : world.Ready indexes tid) :
      Step aborts world tid
        (world.enter tid ((world.session tid).advance indexes (world.view tid)))
  | commit (world : World Tid key E A) (tid : Tid) (answer : A)
      (done : (world.session tid).phase = .running (.ret answer)) :
      Step aborts world tid (world.publish tid answer)
  | fail (world : World Tid key E A) (tid : Tid) (error : E)
      (raised : (world.session tid).phase = .running (.raise error)) :
      Step aborts world tid (world.enter tid ⟨.failed error, [], []⟩)
  | abort (world : World Tid key E A) (tid : Tid) (allowed : aborts)
      (working : (world.session tid).phase.isOpen = true) :
      Step aborts world tid (world.enter tid ⟨.aborted, [], []⟩)

end World

/-! ## What a statement does to its session -/

section Effects

variable [DecidableEq J] (indexes : List (R → Option J))

inductive Effect (view : Table key) (session : Session key E A) : Session key E A → Prop where
  | moves (phase : Phase key E A) : Effect view session (session.goto phase)
  | locks (k : K) (phase : Phase key E A) (wanted : session.wants = some k)
      (found : (view.get k).isSome = true) :
      Effect view session ((session.withLock k).goto phase)
  | stores (row : R) (phase : Phase key E A) (filed : session.files view = some row)
      (free : fits indexes view row = true)
      (place : session.wants = some (key row) ∨ view.get (key row) = none) :
      Effect view session ((session.withChange (.store row)).goto phase)
  | erases (k : K) (phase : Phase key E A) (wanted : session.wants = some k)
      (found : (view.get k).isSome = true) :
      Effect view session ((session.withChange (.erase k)).goto phase)

theorem advance_effect (view : Table key) (session : Session key E A) :
    Effect indexes view session (session.advance indexes view) := by
  have stays : Effect indexes view session session := .moves session.phase
  obtain ⟨phase, changes, locks⟩ := session
  cases phase with
  | running prog =>
    cases prog with
    | ret answer => exact stays
    | raise error => exact stays
    | select clause next => exact .moves _
    | lock clause next => exact .moves _
    | write k change keeps next =>
      simp only [Session.advance]
      cases found : view.get k with
      | none => exact .moves _
      | some row =>
        simp only
        split
        · rename_i free
          have same : key (change row) = k := (keeps row).trans (Table.key_of_get found)
          refine .stores (change row) _ ?_ free (Or.inl ?_)
          · simp [Session.files, found]
          · rw [same]
            rfl
        · exact .moves _
    | insert row next =>
      simp only [Session.advance]
      split
      · rename_i passes
        rw [Bool.and_eq_true, Option.isNone_iff_eq_none] at passes
        exact .stores row _ rfl passes.2 (Or.inr passes.1)
      · exact .moves _
    | erase k next =>
      simp only [Session.advance]
      split
      · rename_i found
        exact .erases k _ rfl found
      · exact .moves _
    | update clause change keeps next => exact .moves _
  | locking clause todo got next =>
    cases todo with
    | nil => exact .moves _
    | cons k rest =>
      simp only [Session.advance]
      cases found : view.get k with
      | none => exact .moves _
      | some row => exact .locks k _ rfl (by rw [found]; rfl)
  | updating clause change keeps todo count next =>
    cases todo with
    | nil => exact .moves _
    | cons k rest =>
      simp only [Session.advance]
      cases found : view.get k with
      | none => exact .moves _
      | some row =>
        simp only
        split
        · rename_i chosen
          split
          · rename_i free
            have same : key (change row) = k := (keeps row).trans (Table.key_of_get found)
            refine .stores (change row) _ ?_ free (Or.inl ?_)
            · simp [Session.files, found, chosen]
            · rw [same]
              rfl
          · exact .moves _
        · exact .locks k _ rfl (by rw [found]; rfl)
  | committed answer => exact stays
  | failed error => exact stays
  | aborted => exact stays

end Effects

/-! ## Locks exclude, indexes stay unique -/

section Safety

variable [DecidableEq Tid] [DecidableEq J] {indexes : List (R → Option J)} {aborts : Prop}

/-- Rows that no index files under one value. -/
def Apart (indexes : List (R → Option J)) (left right : R) : Prop :=
  ∀ index ∈ indexes, ∀ value, index left = some value → index right ≠ some value

omit [DecidableEq K] [DecidableEq J] in
theorem Apart.symm {left right : R} (apart : Apart indexes left right) :
    Apart indexes right left := by
  intro index indexed value rightFiled leftFiled
  exact apart index indexed value leftFiled rightFiled

/-- A session's uncommitted version of a row. -/
def World.Dirty (world : World Tid key E A) (tid : Tid) (row : R) : Prop :=
  ∃ k ∈ (world.session tid).touched, (world.view tid).get k = some row

/-- The session wrote a row under the key. -/
def Session.Wrote (session : Session key E A) (k : K) : Prop :=
  ∃ row, Change.store row ∈ session.changes ∧ key row = k

/-- What every state of every run satisfies. -/
structure Sound (indexes : List (R → Option J)) (world : World Tid key E A) : Prop where
  exclusive : ∀ left right k, k ∈ (world.session left).locks →
    k ∈ (world.session right).locks → left = right
  locked : ∀ tid, ∀ k ∈ (world.session tid).touched, k ∈ (world.session tid).locks
  stored : ∀ tid, ∀ k ∈ (world.session tid).locks,
    (world.session tid).Wrote k ∨ (world.table.get k).isSome = true
  committed : ∀ index ∈ indexes, world.table.Unique index
  unique : ∀ tid, ∀ index ∈ indexes, (world.view tid).Unique index
  apart : ∀ left right, left ≠ right → ∀ row other, world.Dirty left row →
    world.Dirty right other → Apart indexes row other

omit [DecidableEq Tid] in
theorem mem_changes_of_get (changes : List (Change K R)) (table : Table key) {k : K} {row : R}
    (touched : k ∈ changes.map (Change.on key)) (found : (overlay changes table).get k = some row) :
    Change.store row ∈ changes := by
  induction changes using List.reverseRecOn with
  | nil => cases touched
  | append_singleton rest change hypothesis =>
    rw [overlay_append, get_apply] at found
    by_cases here : k = change.on key
    · rw [if_pos here] at found
      cases change with
      | store written =>
        cases found
        simp
      | erase j => cases found
    · rw [if_neg here] at found
      have earlier := (mem_on_snoc.mp touched).resolve_right here
      exact List.mem_append_left _ (hypothesis earlier found)

omit [DecidableEq K] in
@[simp] theorem enter_session_self (world : World Tid key E A) (tid : Tid)
    (session : Session key E A) : (world.enter tid session).session tid = session := by
  simp [World.enter]

omit [DecidableEq K] in
theorem enter_session_of_ne (world : World Tid key E A) {tid other : Tid}
    (session : Session key E A) (differs : other ≠ tid) :
    (world.enter tid session).session other = world.session other := by
  simp [World.enter, differs]

theorem enter_view_self (world : World Tid key E A) (tid : Tid) (session : Session key E A) :
    (world.enter tid session).view tid = overlay session.changes world.table := by
  rw [World.view, enter_session_self]
  rfl

theorem enter_view_of_ne (world : World Tid key E A) {tid other : Tid}
    (session : Session key E A) (differs : other ≠ tid) :
    (world.enter tid session).view other = world.view other := by
  rw [World.view, enter_session_of_ne world session differs]
  rfl

@[simp] theorem publish_session_self (world : World Tid key E A) (tid : Tid) (answer : A) :
    (world.publish tid answer).session tid = ⟨.committed answer, [], []⟩ := by
  simp [World.publish]

theorem publish_session_of_ne (world : World Tid key E A) {tid other : Tid} (answer : A)
    (differs : other ≠ tid) :
    (world.publish tid answer).session other = world.session other := by
  simp [World.publish, differs]

omit [DecidableEq J] in
theorem Sound.enter {world : World Tid key E A} (sound : Sound indexes world) (tid : Tid)
    (session : Session key E A)
    (exclusive : ∀ other, other ≠ tid → ∀ k ∈ session.locks, k ∉ (world.session other).locks)
    (locked : ∀ k ∈ session.touched, k ∈ session.locks)
    (stored : ∀ k ∈ session.locks, session.Wrote k ∨ (world.table.get k).isSome = true)
    (unique : ∀ index ∈ indexes, (overlay session.changes world.table).Unique index)
    (apart : ∀ k ∈ session.touched, ∀ row, (overlay session.changes world.table).get k = some row →
      ∀ other, other ≠ tid → ∀ dirty, world.Dirty other dirty → Apart indexes row dirty) :
    Sound indexes (world.enter tid session) := by
  have own : ∀ row, (world.enter tid session).Dirty tid row →
      ∃ k ∈ session.touched, (overlay session.changes world.table).get k = some row := by
    intro row dirty
    unfold World.Dirty at dirty
    rwa [enter_session_self, enter_view_self] at dirty
  have others : ∀ other, other ≠ tid → ∀ row, (world.enter tid session).Dirty other row →
      world.Dirty other row := by
    intro other differs row dirty
    unfold World.Dirty at dirty
    rwa [enter_session_of_ne world session differs, enter_view_of_ne world session differs]
      at dirty
  refine ⟨?_, ?_, ?_, sound.committed, ?_, ?_⟩
  · intro left right k leftHolds rightHolds
    by_cases leftSame : left = tid
    · by_cases rightSame : right = tid
      · rw [leftSame, rightSame]
      · rw [leftSame, enter_session_self] at leftHolds
        rw [enter_session_of_ne world session rightSame] at rightHolds
        exact absurd rightHolds (exclusive right rightSame k leftHolds)
    · rw [enter_session_of_ne world session leftSame] at leftHolds
      by_cases rightSame : right = tid
      · rw [rightSame, enter_session_self] at rightHolds
        exact absurd leftHolds (exclusive left leftSame k rightHolds)
      · rw [enter_session_of_ne world session rightSame] at rightHolds
        exact sound.exclusive left right k leftHolds rightHolds
  · intro other k touched
    by_cases same : other = tid
    · rw [same, enter_session_self] at touched ⊢
      exact locked k touched
    · rw [enter_session_of_ne world session same] at touched ⊢
      exact sound.locked other k touched
  · intro other k held
    by_cases same : other = tid
    · rw [same, enter_session_self] at held ⊢
      exact stored k held
    · rw [enter_session_of_ne world session same] at held ⊢
      exact sound.stored other k held
  · intro other index indexed
    by_cases same : other = tid
    · rw [same, enter_view_self]
      exact unique index indexed
    · rw [enter_view_of_ne world session same]
      exact sound.unique other index indexed
  · intro left right differs row dirty leftDirty rightDirty
    by_cases leftSame : left = tid
    · have rightOther : right ≠ tid := fun same => differs (leftSame.trans same.symm)
      rw [leftSame] at leftDirty
      obtain ⟨k, touched, found⟩ := own row leftDirty
      exact apart k touched row found right rightOther dirty
        (others right rightOther dirty rightDirty)
    · by_cases rightSame : right = tid
      · rw [rightSame] at rightDirty
        obtain ⟨k, touched, found⟩ := own dirty rightDirty
        exact (apart k touched dirty found left leftSame row
          (others left leftSame row leftDirty)).symm
      · exact sound.apart left right differs row dirty (others left leftSame row leftDirty)
          (others right rightSame dirty rightDirty)

omit [DecidableEq J] in
theorem Sound.leave {world : World Tid key E A} (sound : Sound indexes world) (tid : Tid)
    (phase : Phase key E A) : Sound indexes (world.enter tid ⟨phase, [], []⟩) := by
  refine sound.enter tid _ ?_ ?_ ?_ sound.committed ?_
  · intro _ _ k held
    cases held
  · intro k touched
    cases touched
  · intro k held
    cases held
  · intro k touched
    cases touched

omit [DecidableEq Tid] in
private theorem not_locked_of_ready {world : World Tid key E A} {tid other : Tid} {k : K}
    (ready : world.Ready indexes tid) (differs : other ≠ tid)
    (wanted : (world.session tid).wants = some k) : k ∉ (world.session other).locks := by
  have free := ready other differs
  rw [Session.obstructs, Bool.or_eq_false_iff, wanted] at free
  simpa using free.1

omit [DecidableEq Tid] in
private theorem not_version_of_ready {world : World Tid key E A} {tid other : Tid} {row version : R}
    (ready : world.Ready indexes tid) (differs : other ≠ tid)
    (filed : (world.session tid).files (world.view tid) = some row)
    (member : version ∈ (world.session other).versions world.table) :
    key row ≠ key version ∧ Apart indexes row version := by
  have free := ready other differs
  rw [Session.obstructs, Bool.or_eq_false_iff, filed] at free
  have clear := List.any_eq_false.mp free.2 version member
  rw [collides, Bool.or_eq_true, not_or, decide_eq_true_eq] at clear
  refine ⟨clear.1, ?_⟩
  intro index indexed value rowFiled versionFiled
  refine clear.2 (List.any_eq_true.mpr ⟨index, indexed, ?_⟩)
  rw [rowFiled, versionFiled]
  simp

omit [DecidableEq Tid] [DecidableEq J] in
private theorem version_of_dirty {world : World Tid key E A} {tid : Tid} {row : R}
    (dirty : world.Dirty tid row) : row ∈ (world.session tid).versions world.table := by
  obtain ⟨k, touched, found⟩ := dirty
  refine List.mem_append_left _ (List.mem_filterMap.mpr ⟨.store row, ?_, rfl⟩)
  exact mem_changes_of_get _ _ touched found

omit [DecidableEq Tid] in
private theorem stored_of_seen {world : World Tid key E A} {tid : Tid} {k : K}
    (found : ((world.view tid).get k).isSome = true) :
    (world.session tid).Wrote k ∨ (world.table.get k).isSome = true := by
  obtain ⟨row, seen⟩ := Option.isSome_iff_exists.mp found
  by_cases touched : k ∈ (world.session tid).touched
  · exact Or.inl ⟨row, mem_changes_of_get _ _ touched seen, Table.key_of_get seen⟩
  · rw [World.view, get_overlay_of_untouched _ _ touched] at found
    exact Or.inr found

omit [DecidableEq J] in
private theorem Sound.change {world : World Tid key E A} (sound : Sound indexes world) (tid : Tid)
    (change : Change K R) (phase : Phase key E A)
    (free : ∀ other, other ≠ tid → change.on key ∉ (world.session other).locks)
    (stored : ((world.session tid).withChange change).Wrote (change.on key) ∨
      (world.table.get (change.on key)).isSome = true)
    (unique : ∀ index ∈ indexes, (change.apply (world.view tid)).Unique index)
    (apart : ∀ row, change = .store row → ∀ other, other ≠ tid → ∀ dirty,
      world.Dirty other dirty → Apart indexes row dirty) :
    Sound indexes (world.enter tid (((world.session tid).withChange change).goto phase)) := by
  have changed : overlay ((world.session tid).changes ++ [change]) world.table =
      change.apply (world.view tid) := overlay_append _ _ _
  refine sound.enter tid _ ?_ ?_ ?_ ?_ ?_
  · intro other differs k held otherHeld
    rcases List.mem_cons.mp held with rfl | earlier
    · exact free other differs otherHeld
    · exact differs (sound.exclusive other tid k otherHeld earlier)
  · intro k touched
    rcases mem_on_snoc.mp touched with earlier | rfl
    · exact List.mem_cons_of_mem _ (sound.locked tid k earlier)
    · exact List.mem_cons_self
  · intro k held
    rcases List.mem_cons.mp held with rfl | earlier
    · exact stored
    · rcases sound.stored tid k earlier with ⟨row, member, same⟩ | committed
      · exact Or.inl ⟨row, List.mem_append_left _ member, same⟩
      · exact Or.inr committed
  · intro index indexed
    have applied := unique index indexed
    rwa [← changed] at applied
  · intro k touched row found other differs dirty otherDirty
    have seen : (change.apply (world.view tid)).get k = some row := by
      rw [← changed]
      exact found
    rw [get_apply] at seen
    by_cases here : k = change.on key
    · rw [if_pos here] at seen
      cases change with
      | store written =>
        cases seen
        exact apart row rfl other differs dirty otherDirty
      | erase j => cases seen
    · rw [if_neg here] at seen
      have earlier := (mem_on_snoc.mp touched).resolve_right here
      exact sound.apart tid other differs.symm row dirty ⟨k, earlier, seen⟩ otherDirty

theorem Sound.statement {world : World Tid key E A} (sound : Sound indexes world) {tid : Tid}
    (ready : world.Ready indexes tid) {session : Session key E A}
    (effect : Effect indexes (world.view tid) (world.session tid) session) :
    Sound indexes (world.enter tid session) := by
  have alone : ∀ other, other ≠ tid → ∀ k ∈ (world.session tid).locks,
      k ∉ (world.session other).locks := by
    intro other differs k held otherHeld
    exact differs (sound.exclusive other tid k otherHeld held)
  have before : ∀ k ∈ (world.session tid).touched, ∀ row, (world.view tid).get k = some row →
      ∀ other, other ≠ tid → ∀ dirty, world.Dirty other dirty → Apart indexes row dirty := by
    intro k touched row found other differs dirty otherDirty
    exact sound.apart tid other differs.symm row dirty ⟨k, touched, found⟩ otherDirty
  cases effect with
  | moves phase =>
    exact sound.enter tid _ alone (sound.locked tid) (sound.stored tid) (sound.unique tid) before
  | locks k phase wanted found =>
    refine sound.enter tid _ ?_ ?_ ?_ (sound.unique tid) before
    · intro other differs j held
      rcases List.mem_cons.mp held with rfl | earlier
      · exact not_locked_of_ready ready differs wanted
      · exact alone other differs j earlier
    · intro j touched
      exact List.mem_cons_of_mem k (sound.locked tid j touched)
    · intro j held
      rcases List.mem_cons.mp held with rfl | earlier
      · exact stored_of_seen found
      · exact sound.stored tid j earlier
  | stores row phase filed free place =>
    refine sound.change tid (.store row) phase ?_ ?_ ?_ ?_
    · intro other differs held
      rcases place with wanted | absent
      · exact not_locked_of_ready ready differs wanted held
      · -- The key is new to this session, so another one can only hold it as its own insert.
        rcases sound.stored other _ held with ⟨version, member, same⟩ | committed
        · have written : version ∈ (world.session other).versions world.table :=
            List.mem_append_left _ (List.mem_filterMap.mpr ⟨.store version, member, rfl⟩)
          exact (not_version_of_ready ready differs filed written).1 same.symm
        · by_cases touched : key row ∈ (world.session tid).touched
          · exact differs (sound.exclusive other tid _ held (sound.locked tid _ touched))
          · rw [World.view, get_overlay_of_untouched _ _ touched] at absent
            change (world.table.get (key row)).isSome = true at committed
            rw [absent] at committed
            cases committed
    · exact Or.inl ⟨row, List.mem_append_right _ List.mem_cons_self, rfl⟩
    · intro index indexed
      exact (sound.unique tid index indexed).store (free_of_fits free indexed)
    · intro written same other differs dirty otherDirty
      cases same
      exact (not_version_of_ready ready differs filed (version_of_dirty otherDirty)).2
  | erases k phase wanted found =>
    refine sound.change tid (.erase k) phase ?_ ?_ ?_ ?_
    · intro other differs
      exact not_locked_of_ready ready differs wanted
    · rcases stored_of_seen found with ⟨row, member, same⟩ | committed
      · exact Or.inl ⟨row, List.mem_append_left _ member, same⟩
      · exact Or.inr committed
    · intro index indexed
      exact (sound.unique tid index indexed).erase k
    · intro row same
      cases same

omit [DecidableEq J] in
theorem Sound.publish {world : World Tid key E A} (sound : Sound indexes world) (tid : Tid)
    (answer : A) : Sound indexes (world.publish tid answer) := by
  have own := publish_session_self world tid answer
  have rest : ∀ other, other ≠ tid →
      (world.publish tid answer).session other = world.session other :=
    fun _ => publish_session_of_ne world answer
  have seen : ∀ other, other ≠ tid → (world.publish tid answer).view other =
      overlay (world.session other).changes (world.view tid) := by
    intro other differs
    rw [World.view, rest other differs]
    rfl
  have dirty : ∀ other row, (world.publish tid answer).Dirty other row →
      other ≠ tid ∧ world.Dirty other row := by
    rintro other row ⟨k, touched, found⟩
    by_cases same : other = tid
    · rw [same, own] at touched
      cases touched
    · rw [rest other same] at touched
      rw [seen other same, get_overlay_of_touched _ _ world.table touched] at found
      exact ⟨same, k, touched, found⟩
  refine ⟨?_, ?_, ?_, sound.unique tid, ?_, ?_⟩
  · intro left right k leftHolds rightHolds
    by_cases leftSame : left = tid
    · rw [leftSame, own] at leftHolds
      cases leftHolds
    · by_cases rightSame : right = tid
      · rw [rightSame, own] at rightHolds
        cases rightHolds
      · rw [rest left leftSame] at leftHolds
        rw [rest right rightSame] at rightHolds
        exact sound.exclusive left right k leftHolds rightHolds
  · intro other k touched
    by_cases same : other = tid
    · rw [same, own] at touched
      cases touched
    · rw [rest other same] at touched ⊢
      exact sound.locked other k touched
  · intro other k held
    by_cases same : other = tid
    · rw [same, own] at held
      cases held
    · rw [rest other same] at held ⊢
      have untouched : k ∉ (world.session tid).touched := by
        intro touched
        exact same (sound.exclusive other tid k held (sound.locked tid k touched))
      have kept : (world.view tid).get k = world.table.get k :=
        get_overlay_of_untouched _ _ untouched
      change _ ∨ ((world.view tid).get k).isSome = true
      rw [kept]
      exact sound.stored other k held
  · intro other index indexed
    by_cases same : other = tid
    · rw [World.view, same, own]
      exact sound.unique tid index indexed
    · rw [seen other same, Table.unique_iff_get]
      have mine := (Table.unique_iff_get _).mp (sound.unique other index indexed)
      have published := (Table.unique_iff_get _).mp (sound.unique tid index indexed)
      -- A row of this session against one that was just published or stands since earlier.
      have mixed : ∀ k j row published value, k ∈ (world.session other).touched →
          (world.view other).get k = some row → j ∉ (world.session other).touched →
          (world.view tid).get j = some published → index row = some value →
          index published = some value → k = j := by
        intro k j row stands value touched found untouched there rowFiled standsFiled
        by_cases changed : j ∈ (world.session tid).touched
        · exact absurd standsFiled (sound.apart other tid same row stands ⟨k, touched, found⟩
            ⟨j, changed, there⟩ index indexed value rowFiled)
        · rw [World.view, get_overlay_of_untouched _ _ changed] at there
          refine mine k j row stands value found ?_ rowFiled standsFiled
          rw [World.view, get_overlay_of_untouched _ _ untouched]
          exact there
      intro left right first second value leftFound rightFound leftFiled rightFiled
      by_cases leftTouched : left ∈ (world.session other).touched
      · rw [get_overlay_of_touched _ _ world.table leftTouched] at leftFound
        by_cases rightTouched : right ∈ (world.session other).touched
        · rw [get_overlay_of_touched _ _ world.table rightTouched] at rightFound
          exact mine left right first second value leftFound rightFound leftFiled rightFiled
        · rw [get_overlay_of_untouched _ _ rightTouched] at rightFound
          exact mixed left right first second value leftTouched leftFound rightTouched rightFound
            leftFiled rightFiled
      · rw [get_overlay_of_untouched _ _ leftTouched] at leftFound
        by_cases rightTouched : right ∈ (world.session other).touched
        · rw [get_overlay_of_touched _ _ world.table rightTouched] at rightFound
          exact (mixed right left second first value rightTouched rightFound leftTouched leftFound
            rightFiled leftFiled).symm
        · rw [get_overlay_of_untouched _ _ rightTouched] at rightFound
          exact published left right first second value leftFound rightFound leftFiled rightFiled
  · intro left right differs row other leftDirty rightDirty
    exact sound.apart left right differs row other (dirty left row leftDirty).2
      (dirty right other rightDirty).2

theorem Sound.step {world next : World Tid key E A} {tid : Tid} (sound : Sound indexes world)
    (step : World.Step indexes aborts world tid next) : Sound indexes next := by
  cases step with
  | statement statement ready => exact sound.statement ready (advance_effect indexes _ _)
  | commit answer done => exact sound.publish tid answer
  | fail error raised => exact sound.leave tid _
  | abort allowed working => exact sound.leave tid _

omit [DecidableEq Tid] [DecidableEq J] in
theorem sound_start (table : Table key) (program : Tid → Prog key E A)
    (unique : ∀ index ∈ indexes, table.Unique index) :
    Sound indexes (World.start table program) := by
  refine ⟨?_, ?_, ?_, unique, fun _ => unique, ?_⟩
  · intro _ _ _ held
    cases held
  · intro _ _ touched
    cases touched
  · intro _ _ held
    cases held
  · rintro _ _ _ _ _ ⟨k, touched, _⟩
    cases touched

variable (indexes aborts) in
/-- The states of the runs from a given one. -/
def World.Reaches : World Tid key E A → World Tid key E A → Prop :=
  Relation.ReflTransGen fun world next => ∃ tid, World.Step indexes aborts world tid next

theorem Sound.reaches {world next : World Tid key E A} (sound : Sound indexes world)
    (run : World.Reaches indexes aborts world next) : Sound indexes next := by
  induction run with
  | refl => exact sound
  | tail _ step hypothesis =>
    obtain ⟨tid, step⟩ := step
    exact hypothesis.step step

/-! ## Frames -/

theorem World.Step.session_of_ne {world next : World Tid key E A} {tid other : Tid}
    (step : World.Step indexes aborts world tid next) (differs : other ≠ tid) :
    next.session other = world.session other := by
  cases step with
  | statement statement ready => exact enter_session_of_ne world _ differs
  | commit answer done => exact publish_session_of_ne world answer differs
  | fail error raised => exact enter_session_of_ne world _ differs
  | abort allowed working => exact enter_session_of_ne world _ differs

theorem World.Step.get_of_untouched {world next : World Tid key E A} {tid : Tid}
    (step : World.Step indexes aborts world tid next) {k : K}
    (untouched : k ∉ (world.session tid).touched) : next.table.get k = world.table.get k := by
  cases step with
  | statement statement ready => rfl
  | commit answer done => exact get_overlay_of_untouched _ _ untouched
  | fail error raised => rfl
  | abort allowed working => rfl

theorem World.Step.get_of_locked {world next : World Tid key E A} {tid other : Tid}
    (step : World.Step indexes aborts world tid next) (sound : Sound indexes world)
    (differs : other ≠ tid) {k : K} (held : k ∈ (world.session other).locks) :
    next.table.get k = world.table.get k := by
  refine step.get_of_untouched ?_
  intro touched
  exact differs (sound.exclusive other tid k held (sound.locked tid k touched))

/-! ## Every run ends -/

/-- The phases a session can come to next. -/
inductive Phase.Follows : Phase key E A → Phase key E A → Prop where
  | select (clause : R → Bool) (next : List R → Prog key E A) (rows : List R) :
      Follows (.running (next rows)) (.running (.select clause next))
  | lock (clause : R → Bool) (next : List R → Prog key E A) (todo : List K) :
      Follows (.locking clause todo [] next) (.running (.lock clause next))
  | grab (clause : R → Bool) (next : List R → Prog key E A) (k : K) (todo : List K)
      (got more : List R) :
      Follows (.locking clause todo more next) (.locking clause (k :: todo) got next)
  | locked (clause : R → Bool) (next : List R → Prog key E A) (got : List R) :
      Follows (.running (next got)) (.locking clause [] got next)
  | write (k : K) (change : R → R) (keeps : ∀ row, key (change row) = key row)
      (next : Reply → Prog key E A) (reply : Reply) :
      Follows (.running (next reply)) (.running (.write k change keeps next))
  | insert (row : R) (next : Reply → Prog key E A) (reply : Reply) :
      Follows (.running (next reply)) (.running (.insert row next))
  | erase (k : K) (next : Prog key E A) : Follows (.running next) (.running (.erase k next))
  | update (clause : R → Bool) (change : R → R) (keeps : ∀ row, key (change row) = key row)
      (next : Option Nat → Prog key E A) (todo : List K) :
      Follows (.updating clause change keeps todo 0 next)
        (.running (.update clause change keeps next))
  | change (clause : R → Bool) (change : R → R) (keeps : ∀ row, key (change row) = key row)
      (next : Option Nat → Prog key E A) (k : K) (todo : List K) (count more : Nat) :
      Follows (.updating clause change keeps todo more next)
        (.updating clause change keeps (k :: todo) count next)
  | updated (clause : R → Bool) (change : R → R) (keeps : ∀ row, key (change row) = key row)
      (next : Option Nat → Prog key E A) (todo : List K) (count : Nat) (answer : Option Nat) :
      Follows (.running (next answer)) (.updating clause change keeps todo count next)
  | commit (answer : A) : Follows (.committed answer) (.running (.ret answer))
  | fail (error : E) : Follows (.failed error) (.running (.raise error))
  | abort (phase : Phase key E A) (working : phase.isOpen = true) : Follows .aborted phase

theorem advance_follows (view : Table key) (session : Session key E A)
    (statement : session.phase.isStatement = true) :
    Phase.Follows (session.advance indexes view).phase session.phase := by
  obtain ⟨phase, changes, locks⟩ := session
  cases phase with
  | running prog =>
    cases prog with
    | ret answer => cases statement
    | raise error => cases statement
    | select clause next => exact .select _ _ _
    | lock clause next => exact .lock _ _ _
    | write k change keeps next =>
      simp only [Session.advance]
      split
      · exact .write _ _ _ _ _
      · split
        · exact .write _ _ _ _ _
        · exact .write _ _ _ _ _
    | insert row next =>
      simp only [Session.advance]
      split
      · exact .insert _ _ _
      · exact .insert _ _ _
    | erase k next =>
      simp only [Session.advance]
      split
      · exact .erase _ _
      · exact .erase _ _
    | update clause change keeps next => exact .update _ _ _ _ _
  | locking clause todo got next =>
    cases todo with
    | nil => exact .locked _ _ _
    | cons k rest =>
      simp only [Session.advance]
      split
      · exact .grab _ _ _ _ _ _
      · exact .grab _ _ _ _ _ _
  | updating clause change keeps todo count next =>
    cases todo with
    | nil => exact .updated _ _ _ _ _ _ _
    | cons k rest =>
      simp only [Session.advance]
      split
      · exact .change _ _ _ _ _ _ _ _
      · split
        · split
          · exact .change _ _ _ _ _ _ _ _
          · exact .updated _ _ _ _ _ _ _
        · exact .change _ _ _ _ _ _ _ _
  | committed answer => cases statement
  | failed error => cases statement
  | aborted => cases statement

theorem World.Step.follows {world next : World Tid key E A} {tid : Tid}
    (step : World.Step indexes aborts world tid next) :
    Phase.Follows (next.session tid).phase (world.session tid).phase := by
  cases step with
  | statement statement ready =>
    rw [enter_session_self]
    exact advance_follows _ _ statement
  | commit answer done =>
    rw [publish_session_self, done]
    exact .commit answer
  | fail error raised =>
    rw [enter_session_self, raised]
    exact .fail error
  | abort allowed working =>
    rw [enter_session_self]
    exact .abort _ working

theorem World.Step.isOpen {world next : World Tid key E A} {tid : Tid}
    (step : World.Step indexes aborts world tid next) :
    (world.session tid).phase.isOpen = true := by
  cases step with
  | statement statement ready =>
    revert statement
    cases (world.session tid).phase with
    | running prog => exact fun _ => rfl
    | locking clause todo got next => exact fun _ => rfl
    | updating clause change keeps todo count next => exact fun _ => rfl
    | committed answer => exact fun statement => nomatch statement
    | failed error => exact fun statement => nomatch statement
    | aborted => exact fun statement => nomatch statement
  | commit answer done =>
    rw [done]
    rfl
  | fail error raised =>
    rw [raised]
    rfl
  | abort allowed working => exact working

/-! ## Schedules -/

section Schedules

variable [Fintype Tid]

instance (world : World Tid key E A) (tid : Tid) : Decidable (world.Ready indexes tid) :=
  inferInstanceAs (Decidable (∀ other, other ≠ tid → (world.session other).obstructs indexes
    world.table (world.view tid) (world.session tid) = false))

variable (indexes) in
/-- The next step of a transaction, or no step when it has to wait. -/
def World.tick (world : World Tid key E A) (tid : Tid) : World Tid key E A :=
  match (world.session tid).phase with
  | .running (.ret answer) => world.publish tid answer
  | .running (.raise error) => world.enter tid ⟨.failed error, [], []⟩
  | phase =>
    if phase.isStatement = true ∧ world.Ready indexes tid then
      world.enter tid ((world.session tid).advance indexes (world.view tid))
    else world

variable (indexes) in
def World.follow (schedule : List Tid) (world : World Tid key E A) : World Tid key E A :=
  schedule.foldl (World.tick indexes) world

theorem tick_cases (world : World Tid key E A) (tid : Tid) :
    world.tick indexes tid = world ∨
      World.Step indexes aborts world tid (world.tick indexes tid) := by
  unfold World.tick
  split
  · rename_i answer done
    exact Or.inr (.commit world tid answer done)
  · rename_i error raised
    exact Or.inr (.fail world tid error raised)
  · split
    · rename_i able
      exact Or.inr (.statement world tid able.1 able.2)
    · exact Or.inl rfl

theorem follow_induction (property : World Tid key E A → Prop) (schedule : List Tid)
    (world : World Tid key E A)
    (along : ∀ taken rest, schedule = taken ++ rest → property (world.follow indexes taken)) :
    Relation.ReflTransGen (fun world next =>
      (∃ tid, World.Step indexes aborts world tid next) ∧ property next) world
      (world.follow indexes schedule) := by
  induction schedule using List.reverseRecOn with
  | nil => exact .refl
  | append_singleton taken tid hypothesis =>
    have earlier := hypothesis (by
      intro first rest split
      exact along first (rest ++ [tid]) (by rw [split, List.append_assoc]))
    have last : world.follow indexes (taken ++ [tid]) =
        (world.follow indexes taken).tick indexes tid := by
      simp [World.follow]
    have there := along (taken ++ [tid]) [] (by simp)
    rw [last] at there ⊢
    have moved : _ ∨ World.Step indexes aborts _ tid _ :=
      tick_cases (world.follow indexes taken) tid
    rcases moved with same | step
    · rw [same]
      exact earlier
    · exact earlier.tail ⟨⟨tid, step⟩, there⟩

theorem follow_reaches (schedule : List Tid) (world : World Tid key E A) :
    World.Reaches indexes aborts world (world.follow indexes schedule) := by
  have along : Relation.ReflTransGen (fun world next =>
      (∃ tid, World.Step indexes aborts world tid next) ∧ True) world
      (world.follow indexes schedule) :=
    follow_induction (fun _ => True) schedule world fun _ _ _ => trivial
  exact Relation.ReflTransGen.mono (fun _ _ step => step.1) _ _ along

end Schedules

end Safety

end BackendCore.ReadCommitted
