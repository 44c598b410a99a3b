import Mathlib.Logic.Function.Basic
import Mathlib.Data.List.Basic

/-!
# Requests of atomic actions

A request is a chain of atomic actions on a state that all requests share; what
an action has seen decides how the request goes on.  The actions of different
requests interleave freely, and between two of them the state may drift by
itself (the clock).  An action can leave an event in a log, beside the identity
of its request.

The rule at the end proves an invariant of the state and the log request by
request: a request is described by the events it has left so far, and those do
not change while others act.
-/

set_option autoImplicit false

namespace BackendCore.Requests

variable {Tid S L A X : Type}

inductive Proc (S L A : Type) where
  | done (answer : A)
  | act (emits : S → Option L) (change : S → S) (next : S → Proc S L A)

namespace Proc

/-- An action that leaves no event. -/
def silent (change : S → S) (next : S → Proc S L A) : Proc S L A :=
  .act (fun _ => none) change next

/-- A look at the shared state. -/
def read (look : S → X) (next : X → Proc S L A) : Proc S L A :=
  silent id fun state => next (look state)

/-- The answer and the state when nobody else acts. -/
def alone : Proc S L A → S → A × S
  | .done answer, state => (answer, state)
  | .act _ change next, state => (next state).alone (change state)

end Proc

/-! ## The log -/

section Log

variable [DecidableEq Tid]

/-- The events of one request. -/
def own (tid : Tid) (log : List (Tid × L)) : List L :=
  (log.filter fun entry => entry.1 = tid).map Prod.snd

def entries (tid : Tid) (event : Option L) : List (Tid × L) := event.toList.map fun e => (tid, e)

omit [DecidableEq Tid] in
@[simp] theorem entries_none (tid : Tid) : entries tid (none : Option L) = [] := rfl

omit [DecidableEq Tid] in
@[simp] theorem entries_some (tid : Tid) (event : L) :
    entries tid (some event) = [(tid, event)] := rfl

theorem mem_own (tid : Tid) (log : List (Tid × L)) (event : L) :
    event ∈ own tid log ↔ (tid, event) ∈ log := by
  simp [own]

theorem own_append_self (tid : Tid) (log : List (Tid × L)) (event : Option L) :
    own tid (log ++ entries tid event) = own tid log ++ event.toList := by
  cases event with
  | none => simp
  | some event => simp [own]

theorem own_append_other {tid other : Tid} (differs : other ≠ tid) (log : List (Tid × L))
    (event : Option L) : own other (log ++ entries tid event) = own other log := by
  cases event with
  | none => simp
  | some event => simp [own, differs.symm]

omit [DecidableEq Tid] in
theorem mem_of_append_one {log : List X} {last entry : X} (member : entry ∈ log ++ [last])
    (differs : entry ≠ last) : entry ∈ log := by
  rcases List.mem_append.mp member with inside | final
  · exact inside
  · exact absurd (List.mem_singleton.mp final) differs

omit [DecidableEq Tid] in
theorem split_append_one {log before after : List X} {last entry : X}
    (split : log ++ [last] = before ++ entry :: after) :
    (before = log ∧ entry = last) ∨ ∃ rest, log = before ++ entry :: rest := by
  rcases List.eq_nil_or_concat after with rfl | ⟨rest, final, rfl⟩
  · obtain ⟨same, tail⟩ := List.append_inj' split rfl
    exact Or.inl ⟨same.symm, (List.singleton_inj.mp tail).symm⟩
  · rw [List.concat_eq_append, ← List.cons_append, ← List.append_assoc] at split
    exact Or.inr ⟨rest, (List.append_inj' split rfl).1⟩

end Log

/-! ## The machine -/

structure World (Tid S L A : Type) where
  shared : S
  log : List (Tid × L)
  session : Tid → Proc S L A

/-- The requests before any of them has acted. -/
def World.start (state : S) (requests : Tid → Proc S L A) : World Tid S L A := ⟨state, [], requests⟩

section Machine

variable [DecidableEq Tid]

/-- The next action of one request; a finished request does nothing. -/
def World.act (world : World Tid S L A) (tid : Tid) : World Tid S L A :=
  match world.session tid with
  | .done _ => world
  | .act emits change next =>
    { shared := change world.shared
      log := world.log ++ entries tid (emits world.shared)
      session := Function.update world.session tid (next world.shared) }

/-- The event the next action of a request leaves. -/
def World.event (world : World Tid S L A) (tid : Tid) : Option L :=
  match world.session tid with
  | .done _ => none
  | .act emits _ _ => emits world.shared

omit [DecidableEq Tid] in
/-- The request is finished. -/
def World.ended (world : World Tid S L A) (tid : Tid) : Bool :=
  match world.session tid with
  | .done _ => true
  | .act _ _ _ => false

omit [DecidableEq Tid] in
theorem World.done_of_ended {world : World Tid S L A} {tid : Tid}
    (ended : world.ended tid = true) : ∃ answer, world.session tid = .done answer := by
  unfold World.ended at ended
  cases session : world.session tid with
  | done answer => exact ⟨answer, rfl⟩
  | act emits change next =>
    rw [session] at ended
    cases ended

def World.wait (world : World Tid S L A) (later : S) : World Tid S L A :=
  { world with shared := later }

theorem World.act_of_act {world : World Tid S L A} {tid : Tid} {emits : S → Option L}
    {change : S → S} {next : S → Proc S L A} (holds : world.session tid = .act emits change next) :
    world.act tid =
      { shared := change world.shared
        log := world.log ++ entries tid (emits world.shared)
        session := Function.update world.session tid (next world.shared) } := by
  rw [World.act, holds]

theorem World.act_of_done {world : World Tid S L A} {tid : Tid} {answer : A}
    (holds : world.session tid = .done answer) : world.act tid = world := by
  rw [World.act, holds]

/-- The worlds of the runs in which every action meets a condition. -/
inductive Run (drift : S → S → Prop) (allows : World Tid S L A → Tid → Prop)
    (start : World Tid S L A) : World Tid S L A → Prop where
  | start : Run drift allows start start
  | act {world : World Tid S L A} (run : Run drift allows start world) (tid : Tid)
      (allowed : allows world tid) : Run drift allows start (world.act tid)
  | wait {world : World Tid S L A} (run : Run drift allows start world) (later : S)
      (drifts : drift world.shared later) : Run drift allows start (world.wait later)

/-! ## Schedules -/

inductive Move (Tid S : Type) where
  | act (tid : Tid)
  | wait (later : S)

def World.move (world : World Tid S L A) : Move Tid S → World Tid S L A
  | .act tid => world.act tid
  | .wait later => world.wait later

def World.follow : World Tid S L A → List (Move Tid S) → World Tid S L A
  | world, [] => world
  | world, move :: rest => (world.move move).follow rest

/-- Every move of the schedule is one of the run. -/
def Sound (drift : S → S → Prop) (allows : World Tid S L A → Tid → Prop) :
    World Tid S L A → List (Move Tid S) → Prop
  | _, [] => True
  | world, .act tid :: rest => allows world tid ∧ Sound drift allows (world.act tid) rest
  | world, .wait later :: rest =>
    drift world.shared later ∧ Sound drift allows (world.wait later) rest

theorem Run.follow {drift : S → S → Prop} {allows : World Tid S L A → Tid → Prop}
    {start world : World Tid S L A} (run : Run drift allows start world)
    (schedule : List (Move Tid S)) (sound : Sound drift allows world schedule) :
    Run drift allows start (world.follow schedule) := by
  induction schedule generalizing world with
  | nil => exact run
  | cons move rest hypothesis =>
    cases move with
    | act tid => exact hypothesis (run.act tid sound.1) sound.2
    | wait later => exact hypothesis (run.wait later sound.1) sound.2

/-! ## Invariants request by request -/

/-- What is kept of state and log, what a run promises of each action, and what a
request has left in the log when it is done. -/
structure Contract (Tid S L A : Type) where
  invariant : S → List (Tid × L) → Prop
  assumes : Tid → S → List (Tid × L) → Option L → Prop
  ends : Tid → A → List L → Prop

variable (contract : Contract Tid S L A)

/-- The rest of a request keeps the contract, from the events it has left. -/
def Contract.Keeps (tid : Tid) : Proc S L A → List L → Prop
  | .done answer, mine => contract.ends tid answer mine
  | .act emits change next, mine => ∀ state log, contract.invariant state log →
      own tid log = mine → contract.assumes tid state log (emits state) →
      contract.invariant (change state) (log ++ entries tid (emits state)) ∧
        Contract.Keeps tid (next state) (mine ++ (emits state).toList)

variable {contract}

theorem Contract.keeps_silent {tid : Tid} {change : S → S} {next : S → Proc S L A}
    {mine : List L} (kept : ∀ state log, contract.invariant state log → own tid log = mine →
      contract.invariant (change state) log)
    (rest : ∀ state log, contract.invariant state log → own tid log = mine →
      contract.Keeps tid (next state) mine) :
    contract.Keeps tid (Proc.silent change next) mine := by
  intro state log invariant left _
  simp only [entries_none, List.append_nil, Option.toList_none]
  exact ⟨kept state log invariant left, rest state log invariant left⟩

theorem Contract.keeps_read {tid : Tid} {look : S → X} {next : X → Proc S L A} {mine : List L}
    (rest : ∀ state log, contract.invariant state log → own tid log = mine →
      contract.Keeps tid (next (look state)) mine) :
    contract.Keeps tid (Proc.read look next) mine :=
  Contract.keeps_silent (fun _ _ invariant _ => invariant) rest

theorem Run.keeps {drift : S → S → Prop} {allows : World Tid S L A → Tid → Prop}
    {start world : World Tid S L A} (run : Run drift allows start world)
    (contract : Contract Tid S L A)
    (first : contract.invariant start.shared start.log)
    (requests : ∀ tid, contract.Keeps tid (start.session tid) (own tid start.log))
    (drifts : ∀ state later log, drift state later → contract.invariant state log →
      contract.invariant later log)
    (promised : ∀ (world : World Tid S L A) tid, allows world tid →
      contract.invariant world.shared world.log →
      (∀ other answer, world.session other = .done answer →
        contract.ends other answer (own other world.log)) →
      contract.assumes tid world.shared world.log (world.event tid)) :
    contract.invariant world.shared world.log ∧
      ∀ tid, contract.Keeps tid (world.session tid) (own tid world.log) := by
  induction run with
  | start => exact ⟨first, requests⟩
  | wait reached later moved hypothesis =>
    exact ⟨drifts _ _ _ moved hypothesis.1, hypothesis.2⟩
  | @act world reached tid allowed hypothesis =>
    obtain ⟨invariant, keeps⟩ := hypothesis
    have ended : ∀ other answer, world.session other = .done answer →
        contract.ends other answer (own other world.log) := by
      intro other answer finished
      have kept := keeps other
      rw [finished] at kept
      exact kept
    have assumed := promised world tid allowed invariant ended
    have kept := keeps tid
    cases holds : world.session tid with
    | done answer =>
      rw [World.act_of_done holds]
      exact ⟨invariant, keeps⟩
    | act emits change next =>
      have emitted : world.event tid = emits world.shared := by
        rw [World.event, holds]
      rw [holds] at kept
      rw [emitted] at assumed
      obtain ⟨after, rest⟩ := kept world.shared world.log invariant rfl assumed
      rw [World.act_of_act holds]
      refine ⟨after, ?_⟩
      intro other
      dsimp only
      by_cases same : other = tid
      · subst same
        rw [Function.update_self, own_append_self]
        exact rest
      · rw [Function.update_of_ne same, own_append_other same]
        exact keeps other

end Machine

end BackendCore.Requests
