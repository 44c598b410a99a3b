import Mathlib.Logic.Function.Basic
import Mathlib.Data.Option.Basic

/-!
# A store of keys that expire

The Redis commands used for limits, marks and one-time tokens.  A key has a value
and perhaps a time, in milliseconds, after which it is gone; every command is
given the time at which the server runs it.
-/

set_option autoImplicit false

namespace BackendCore

variable {K V : Type}

namespace Redis

structure Entry (V : Type) where
  value : V
  expiresAt : Option Int
  deriving DecidableEq

/-- A key lives up to its time of expiry. -/
def Entry.lives (entry : Entry V) (now : Int) : Bool :=
  match entry.expiresAt with
  | none => true
  | some last => now ≤ last

end Redis

open Redis

structure Redis (K V : Type) where
  entry : K → Option (Entry V)

namespace Redis

def empty : Redis K V := ⟨fun _ => none⟩

/-- The entry a command finds. -/
def find (redis : Redis K V) (now : Int) (k : K) : Option (Entry V) :=
  (redis.entry k).filter fun entry => entry.lives now

/-- `GET`. -/
def get (redis : Redis K V) (now : Int) (k : K) : Option V := (redis.find now k).map Entry.value

/-- `EXISTS`. -/
def holds (redis : Redis K V) (now : Int) (k : K) : Bool := (redis.find now k).isSome

/-- The time of expiry of a key that gets `seconds` now. -/
def expiry (now : Int) (seconds : Nat) : Int := now + 1000 * seconds

section Commands

variable [DecidableEq K]

def put (redis : Redis K V) (k : K) (entry : Entry V) : Redis K V :=
  ⟨Function.update redis.entry k (some entry)⟩

/-- `SET … EX`. -/
def setEx (redis : Redis K V) (now : Int) (k : K) (value : V) (seconds : Nat) : Redis K V :=
  redis.put k ⟨value, some (expiry now seconds)⟩

/-- `SET … EX … NX`, which sets the key unless it is there. -/
def setNxEx (redis : Redis K V) (now : Int) (k : K) (value : V) (seconds : Nat) : Redis K V :=
  if redis.holds now k then redis else redis.setEx now k value seconds

/-- `DEL`. -/
def del (redis : Redis K V) (k : K) : Redis K V := ⟨Function.update redis.entry k none⟩

/-- `INCR`. -/
def incr (redis : Redis K Nat) (now : Int) (k : K) : Redis K Nat :=
  match redis.find now k with
  | none => redis.put k ⟨1, none⟩
  | some entry => redis.put k ⟨entry.value + 1, entry.expiresAt⟩

/-- `EXPIRE`. -/
def expire (redis : Redis K V) (now : Int) (k : K) (seconds : Nat) : Redis K V :=
  match redis.find now k with
  | none => redis
  | some entry => redis.put k ⟨entry.value, some (expiry now seconds)⟩

/-- `EXPIRE … NX`, which gives a time of expiry to a key that has none. -/
def expireNx (redis : Redis K V) (now : Int) (k : K) (seconds : Nat) : Redis K V :=
  match redis.find now k with
  | none => redis
  | some entry => redis.put k ⟨entry.value, some (entry.expiresAt.getD (expiry now seconds))⟩

end Commands

/-! ## What a command finds -/

theorem find_eq_some_iff (redis : Redis K V) (now : Int) (k : K) (entry : Entry V) :
    redis.find now k = some entry ↔ redis.entry k = some entry ∧ entry.lives now = true := by
  rw [find, Option.filter_eq_some_iff]

theorem find_earlier {redis : Redis K V} {now later : Int} {k : K} {entry : Entry V}
    (passes : now ≤ later) (found : redis.find later k = some entry) :
    redis.find now k = some entry := by
  rw [find_eq_some_iff] at found ⊢
  refine ⟨found.1, ?_⟩
  have lives := found.2
  unfold Entry.lives at lives ⊢
  cases expires : entry.expiresAt with
  | none => rfl
  | some last =>
    rw [expires] at lives
    simp only [decide_eq_true_eq] at lives ⊢
    omega

theorem find_later {redis : Redis K V} {now later last : Int} {k : K} {entry : Entry V}
    (found : redis.find now k = some entry) (expires : entry.expiresAt = some last)
    (inside : later ≤ last) : redis.find later k = some entry := by
  rw [find_eq_some_iff] at found ⊢
  refine ⟨found.1, ?_⟩
  rw [Entry.lives, expires]
  simp only [decide_eq_true_eq]
  exact inside

variable [DecidableEq K]

@[simp] theorem entry_put_self (redis : Redis K V) (k : K) (entry : Entry V) :
    (redis.put k entry).entry k = some entry :=
  Function.update_self ..

theorem entry_put_of_ne (redis : Redis K V) {k other : K} (entry : Entry V)
    (differs : other ≠ k) : (redis.put k entry).entry other = redis.entry other :=
  Function.update_of_ne differs ..

@[simp] theorem entry_del_self (redis : Redis K V) (k : K) : (redis.del k).entry k = none :=
  Function.update_self ..

theorem entry_del_of_ne (redis : Redis K V) {k other : K} (differs : other ≠ k) :
    (redis.del k).entry other = redis.entry other :=
  Function.update_of_ne differs ..

theorem find_put_self (redis : Redis K V) (now : Int) (k : K) (entry : Entry V) :
    (redis.put k entry).find now k = if entry.lives now then some entry else none := by
  rw [find, entry_put_self, Option.filter_some]

theorem find_put_of_ne (redis : Redis K V) (now : Int) {k other : K} (entry : Entry V)
    (differs : other ≠ k) : (redis.put k entry).find now other = redis.find now other := by
  rw [find, find, entry_put_of_ne redis entry differs]

theorem find_del_self (redis : Redis K V) (now : Int) (k : K) :
    (redis.del k).find now k = none := by
  rw [find, entry_del_self]
  rfl

theorem find_del_of_ne (redis : Redis K V) (now : Int) {k other : K} (differs : other ≠ k) :
    (redis.del k).find now other = redis.find now other := by
  rw [find, find, entry_del_of_ne redis differs]

theorem lives_expiry (now : Int) (seconds : Nat) (value : V) :
    (⟨value, some (expiry now seconds)⟩ : Entry V).lives now = true := by
  have passes : now ≤ expiry now seconds := by
    unfold expiry
    omega
  exact decide_eq_true passes

theorem find_setEx_self (redis : Redis K V) (now : Int) (k : K) (value : V) (seconds : Nat) :
    (redis.setEx now k value seconds).find now k = some ⟨value, some (expiry now seconds)⟩ := by
  rw [setEx, find_put_self, if_pos (lives_expiry now seconds value)]

theorem find_setEx_of_ne (redis : Redis K V) (now moment : Int) {k other : K} (value : V)
    (seconds : Nat) (differs : other ≠ k) :
    (redis.setEx now k value seconds).find moment other = redis.find moment other :=
  find_put_of_ne redis moment _ differs

/-- The counter after `INCR` and `EXPIRE NX` in one transaction. -/
theorem find_count_self (redis : Redis K Nat) (now : Int) (k : K) (seconds : Nat) :
    ((redis.incr now k).expireNx now k seconds).find now k =
      some (match redis.find now k with
        | none => ⟨1, some (expiry now seconds)⟩
        | some entry => ⟨entry.value + 1, some (entry.expiresAt.getD (expiry now seconds))⟩) := by
  cases found : redis.find now k with
  | none =>
    have counted : (redis.incr now k).find now k = some ⟨1, none⟩ := by
      rw [incr, found]
      exact find_put_self redis now k _
    rw [expireNx, counted]
    exact find_setEx_self _ now k 1 seconds
  | some entry =>
    have lives := ((find_eq_some_iff redis now k entry).mp found).2
    have counted : (redis.incr now k).find now k = some ⟨entry.value + 1, entry.expiresAt⟩ := by
      rw [incr, found]
      exact (find_put_self redis now k _).trans (if_pos lives)
    rw [expireNx, counted]
    refine (find_put_self _ now k _).trans (if_pos ?_)
    cases expires : entry.expiresAt with
    | none => exact lives_expiry now seconds _
    | some last =>
      rw [Entry.lives, expires] at lives
      exact lives

theorem entry_incr_of_ne (redis : Redis K Nat) (now : Int) {k other : K} (differs : other ≠ k) :
    (redis.incr now k).entry other = redis.entry other := by
  rw [incr]
  cases redis.find now k with
  | none => exact entry_put_of_ne redis _ differs
  | some entry => exact entry_put_of_ne redis _ differs

theorem entry_incr_of_none {redis : Redis K Nat} {now : Int} {k : K}
    (missing : redis.find now k = none) : (redis.incr now k).entry k = some ⟨1, none⟩ := by
  rw [incr, missing]
  exact entry_put_self redis k _

theorem entry_incr_of_some {redis : Redis K Nat} {now : Int} {k : K} {entry : Entry Nat}
    (found : redis.find now k = some entry) :
    (redis.incr now k).entry k = some ⟨entry.value + 1, entry.expiresAt⟩ := by
  rw [incr, found]
  exact entry_put_self redis k _

theorem entry_expire_of_ne (redis : Redis K V) (now : Int) {k other : K} (seconds : Nat)
    (differs : other ≠ k) : (redis.expire now k seconds).entry other = redis.entry other := by
  rw [expire]
  cases redis.find now k with
  | none => rfl
  | some entry => exact entry_put_of_ne redis _ differs

/-- `EXPIRE` changes the time of a key that is there, and nothing else. -/
theorem entry_expire_self (redis : Redis K V) (now : Int) (k : K) (seconds : Nat) :
    (redis.expire now k seconds).entry k = redis.entry k ∨
      ∃ entry, redis.entry k = some entry ∧
        (redis.expire now k seconds).entry k =
          some ⟨entry.value, some (expiry now seconds)⟩ := by
  rw [expire]
  cases found : redis.find now k with
  | none => exact Or.inl rfl
  | some entry =>
    exact Or.inr ⟨entry, ((find_eq_some_iff _ _ _ _).mp found).1, entry_put_self redis k _⟩

theorem entry_count_of_ne (redis : Redis K Nat) (now : Int) {k other : K} (seconds : Nat)
    (differs : other ≠ k) :
    ((redis.incr now k).expireNx now k seconds).entry other = redis.entry other := by
  have counted := entry_incr_of_ne redis now differs
  rw [expireNx]
  cases (redis.incr now k).find now k with
  | none => exact counted
  | some entry =>
    dsimp only
    rw [entry_put_of_ne _ _ differs]
    exact counted

theorem find_count_of_ne (redis : Redis K Nat) (now moment : Int) {k other : K} (seconds : Nat)
    (differs : other ≠ k) :
    ((redis.incr now k).expireNx now k seconds).find moment other = redis.find moment other := by
  rw [find, find, entry_count_of_ne redis now seconds differs]

end Redis

end BackendCore
