import Mathlib.Algebra.Order.Group.Int
import Mathlib.Algebra.Order.Group.Unbundled.Basic
import BackendCore.Lib.Redis

/-!
# The fixed-window limiter

`_incr_with_ttl` and `RateLimiter.hit` of `core/auth/rate_limit.py` on one key, over
any ordered group of times.  `INCR` and `EXPIRE NX` run as one transaction and a key
is gone exactly one window after `EXPIRE` has set it.  The server's clock, in whose
milliseconds a key still lives at the time of its expiry, is the case of a window
that is one millisecond longer.
-/

set_option autoImplicit false

namespace BackendCore.Auth.Limiter

variable {T : Type} [LinearOrder T]

/-- The key's value and the time at which it is gone. -/
structure Counter (T : Type) where
  value : Nat
  expiresAt : Option T
  deriving DecidableEq

def Counter.lives (counter : Counter T) (now : T) : Bool :=
  match counter.expiresAt with
  | none => true
  | some gone => now < gone

variable [AddCommGroup T]

/-- `_incr_with_ttl`: the key after `INCR` and `EXPIRE NX`. -/
def incrWithTtl (window now : T) (key : Option (Counter T)) : Counter T :=
  match key.filter fun counter => counter.lives now with
  | none => ⟨1, some (now + window)⟩
  | some counter => ⟨counter.value + 1, some (counter.expiresAt.getD (now + window))⟩

/-- One hit: when, whether it was allowed, and the counter that counted it. -/
structure Hit (T : Type) where
  time : T
  allowed : Bool
  counter : Counter T
  deriving DecidableEq

/-- `RateLimiter.hit`. -/
def hit (limit : Nat) (window now : T) (key : Option (Counter T)) : Hit T :=
  let counter := incrWithTtl window now key
  ⟨now, counter.value ≤ limit, counter⟩

def hits (limit : Nat) (window : T) : Option (Counter T) → List T → List (Hit T)
  | _, [] => []
  | key, now :: rest =>
    let first := hit limit window now key
    first :: hits limit window (some first.counter) rest

/-! ## One hit -/

section OneHit

variable {limit : Nat} {window now : T} {key : Option (Counter T)}

/-- A counter goes on, or a new one begins. -/
inductive Counted (window now : T) : Option (Counter T) → Counter T → Prop where
  | goes (value : Nat) (gone : T) (lives : now < gone) :
      Counted window now (some ⟨value, some gone⟩) ⟨value + 1, some gone⟩
  | timed (value : Nat) :
      Counted window now (some ⟨value, none⟩) ⟨value + 1, some (now + window)⟩
  | renewed (value : Nat) (gone : T) (dead : gone ≤ now) :
      Counted window now (some ⟨value, some gone⟩) ⟨1, some (now + window)⟩
  | begins : Counted window now none ⟨1, some (now + window)⟩

theorem incrWithTtl_counted (window now : T) (key : Option (Counter T)) :
    Counted window now key (incrWithTtl window now key) := by
  unfold incrWithTtl
  cases key with
  | none => exact .begins
  | some counter =>
    obtain ⟨value, expiresAt⟩ := counter
    cases expiresAt with
    | none => exact .timed value
    | some gone =>
      by_cases lives : now < gone
      · have kept : (some (⟨value, some gone⟩ : Counter T)).filter
            (fun counter => counter.lives now) = some ⟨value, some gone⟩ := by
          rw [Option.filter_some, Counter.lives, if_pos (decide_eq_true lives)]
        rw [kept]
        exact .goes value gone lives
      · have dropped : (some (⟨value, some gone⟩ : Counter T)).filter
            (fun counter => counter.lives now) = none := by
          rw [Option.filter_some, Counter.lives,
            if_neg (fun alive => lives (of_decide_eq_true alive))]
        rw [dropped]
        exact .renewed value gone (not_lt.mp lives)

variable [IsOrderedAddMonoid T]

theorem Counted.ends {counter : Counter T} (counted : Counted window now key counter)
    (positive : 0 < window) :
    ∃ gone, counter.expiresAt = some gone ∧ now < gone := by
  cases counted with
  | goes value gone lives => exact ⟨gone, rfl, lives⟩
  | timed value => exact ⟨now + window, rfl, lt_add_of_pos_right now positive⟩
  | renewed value gone dead => exact ⟨now + window, rfl, lt_add_of_pos_right now positive⟩
  | begins => exact ⟨now + window, rfl, lt_add_of_pos_right now positive⟩

end OneHit

/-! ## The life of one counter -/

section Life

variable {limit : Nat} {window : T}

/-- The hits allowed by the counter that ends at the given time. -/
def allowedUntil (gone : T) (entry : Hit T) : Bool :=
  entry.allowed && entry.counter.expiresAt = some gone

/-- How many hits a counter that ends at the given time can still allow. -/
def room (limit : Nat) (key : Option (Counter T)) (gone : T) : Nat :=
  match key.bind Counter.expiresAt with
  | none => limit
  | some current =>
    if gone < current then 0
    else if gone = current then limit - (key.elim 0 Counter.value) else limit

omit [AddCommGroup T] in
theorem room_le (key : Option (Counter T)) (gone : T) : room limit key gone ≤ limit := by
  unfold room
  split
  · exact Nat.le_refl _
  · split
    · exact Nat.zero_le _
    · split
      · exact Nat.sub_le _ _
      · exact Nat.le_refl _

omit [AddCommGroup T] in
theorem room_some (value : Nat) (current gone : T) :
    room limit (some ⟨value, some current⟩) gone =
      if gone < current then 0 else if gone = current then limit - value else limit := rfl

omit [AddCommGroup T] in
theorem allowed_add_room {value : Nat} (counted : 1 ≤ value) (now current gone : T) :
    (if allowedUntil gone ⟨now, value ≤ limit, ⟨value, some current⟩⟩ = true then 1 else 0) +
      room limit (some ⟨value, some current⟩) gone ≤
        if gone < current then 0 else if gone = current then limit - (value - 1) else limit := by
  rw [room_some]
  unfold allowedUntil
  rcases lt_trichotomy gone current with before | rfl | after
  · simp [before, before.ne']
  · by_cases allowed : value ≤ limit
    · simp only [allowed, decide_true, Bool.and_self, if_true, lt_self_iff_false, if_false]
      omega
    · simp only [allowed, decide_false, Bool.false_and, Bool.false_eq_true, if_false,
        lt_self_iff_false, if_true]
      omega
  · simp [after.ne', after.ne, not_lt_of_gt after]

variable [IsOrderedAddMonoid T]

theorem room_step (limit : Nat) (positive : 0 < window) {now : T} {key : Option (Counter T)}
    {counter : Counter T} (counted : Counted window now key counter) (gone : T) :
    (if allowedUntil gone ⟨now, counter.value ≤ limit, counter⟩ = true then 1 else 0) +
      room limit (some counter) gone ≤ room limit key gone := by
  cases counted with
  | goes value current lives =>
    refine (allowed_add_room (Nat.le_add_left 1 value) now current gone).trans ?_
    rw [room_some, Nat.add_sub_cancel]
  | timed value =>
    refine (allowed_add_room (Nat.le_add_left 1 value) now _ gone).trans ?_
    change _ ≤ limit
    split
    · exact Nat.zero_le _
    · split
      · exact Nat.sub_le _ _
      · exact Nat.le_refl _
  | renewed value current dead =>
    have next : current < now + window := lt_of_le_of_lt dead (lt_add_of_pos_right now positive)
    refine (allowed_add_room (Nat.le_refl 1) now _ gone).trans ?_
    rw [room_some]
    by_cases early : gone < now + window
    · rw [if_pos early]
      exact Nat.zero_le _
    · have later : current < gone := lt_of_lt_of_le next (not_lt.mp early)
      rw [if_neg early, if_neg (not_lt_of_gt later), if_neg later.ne']
      split
      · exact Nat.sub_le _ _
      · exact Nat.le_refl _
  | begins =>
    refine (allowed_add_room (Nat.le_refl 1) now _ gone).trans ?_
    change _ ≤ limit
    split
    · exact Nat.zero_le _
    · split
      · exact Nat.sub_le _ _
      · exact Nat.le_refl _

theorem countP_allowedUntil (positive : 0 < window) (times : List T) (key : Option (Counter T))
    (gone : T) :
    (hits limit window key times).countP (allowedUntil gone) ≤ room limit key gone := by
  induction times generalizing key with
  | nil => exact Nat.zero_le _
  | cons now rest hypothesis =>
    have step := room_step limit positive (incrWithTtl_counted window now key) gone
    have later := hypothesis (some (incrWithTtl window now key))
    refine List.countP_cons.trans_le ?_
    refine (Nat.add_le_add_right later _).trans ?_
    rw [Nat.add_comm]
    exact step

end Life

/-! ## Any span of one window -/

section Spans

variable {limit : Nat} {window : T}

theorem hits_cons (limit : Nat) (window now : T) (rest : List T) (key : Option (Counter T)) :
    hits limit window key (now :: rest) =
      hit limit window now key ::
        hits limit window (some (incrWithTtl window now key)) rest := rfl

theorem time_mem {times : List T} {key : Option (Counter T)} {entry : Hit T}
    (member : entry ∈ hits limit window key times) : entry.time ∈ times := by
  induction times generalizing key with
  | nil => nomatch member
  | cons now rest hypothesis =>
    rw [hits_cons] at member
    rcases List.mem_cons.mp member with rfl | later
    · exact List.mem_cons_self
    · exact List.mem_cons_of_mem _ (hypothesis later)

theorem expiresAt_of_le {value : Nat} {gone last : T} (times : List T)
    (sorted : times.Pairwise (· ≤ ·)) (outlives : last < gone) {entry : Hit T}
    (member : entry ∈ hits limit window (some ⟨value, some gone⟩) times)
    (within : entry.time ≤ last) : entry.counter.expiresAt = some gone := by
  induction times generalizing value with
  | nil => nomatch member
  | cons now rest hypothesis =>
    rw [List.pairwise_cons] at sorted
    rw [hits_cons] at member
    have counted := incrWithTtl_counted window now (some ⟨value, some gone⟩)
    have early : now ≤ last := by
      rcases List.mem_cons.mp member with rfl | later
      · exact within
      · exact (sorted.1 _ (time_mem later)).trans within
    have goes : incrWithTtl window now (some ⟨value, some gone⟩) = ⟨value + 1, some gone⟩ := by
      generalize incrWithTtl window now (some ⟨value, some gone⟩) = counter at counted
      cases counted with
      | goes value gone lives => rfl
      | renewed value gone dead =>
        exact absurd (lt_of_le_of_lt early outlives) (not_lt.mpr dead)
    rcases List.mem_cons.mp member with rfl | later
    · rw [hit, goes]
    · rw [goes] at later
      exact hypothesis sorted.2 later

variable [IsOrderedAddMonoid T]

theorem expiresAt_of_current (limit value : Nat) {gone first last : T}
    (short : last ≤ first + window) (times : List T) (sorted : times.Pairwise (· ≤ ·))
    (current : first < gone) :
    ∃ next, ∀ entry ∈ hits limit window (some ⟨value, some gone⟩) times, entry.time ≤ last →
      entry.counter.expiresAt = some gone ∨ entry.counter.expiresAt = some next := by
  induction times generalizing value with
  | nil => exact ⟨gone, fun _ member => nomatch member⟩
  | cons now rest hypothesis =>
    rw [List.pairwise_cons] at sorted
    rw [hits_cons]
    have counted := incrWithTtl_counted window now (some ⟨value, some gone⟩)
    rw [hit]
    generalize incrWithTtl window now (some ⟨value, some gone⟩) = counter at counted
    cases counted with
    | goes value gone lives =>
      obtain ⟨next, others⟩ := hypothesis (value + 1) sorted.2
      refine ⟨next, ?_⟩
      intro entry member within
      rcases List.mem_cons.mp member with rfl | later
      · exact Or.inl rfl
      · exact others entry later within
    | renewed value gone dead =>
      have outlives : last < now + window := by
        refine lt_of_le_of_lt short ?_
        exact add_lt_add_left (lt_of_lt_of_le current dead) window
      refine ⟨now + window, ?_⟩
      intro entry member within
      right
      rcases List.mem_cons.mp member with rfl | later
      · rfl
      · exact expiresAt_of_le rest sorted.2 outlives later within

theorem expiresAt_of_span (limit : Nat) (positive : 0 < window) {first last : T}
    (short : last ≤ first + window) (times : List T) (sorted : times.Pairwise (· ≤ ·))
    (key : Option (Counter T)) :
    ∃ one two, ∀ entry ∈ hits limit window key times, first ≤ entry.time → entry.time ≤ last →
      entry.counter.expiresAt = some one ∨ entry.counter.expiresAt = some two := by
  induction times generalizing key with
  | nil => exact ⟨first, first, fun _ member => nomatch member⟩
  | cons now rest hypothesis =>
    rw [List.pairwise_cons] at sorted
    rw [hits_cons]
    by_cases before : now < first
    · obtain ⟨one, two, others⟩ := hypothesis sorted.2 (some (incrWithTtl window now key))
      refine ⟨one, two, ?_⟩
      intro entry member after within
      rcases List.mem_cons.mp member with rfl | later
      · exact absurd before (not_lt.mpr after)
      · exact others entry later after within
    · have counted := incrWithTtl_counted window now key
      obtain ⟨gone, expires, ahead⟩ := counted.ends positive
      rw [hit]
      generalize incrWithTtl window now key = counter at expires
      obtain ⟨value, expiresAt⟩ := counter
      cases expires
      have current : first < gone := lt_of_le_of_lt (not_lt.mp before) ahead
      obtain ⟨next, others⟩ := expiresAt_of_current limit value short rest sorted.2 current
      refine ⟨gone, next, ?_⟩
      intro entry member after within
      rcases List.mem_cons.mp member with rfl | later
      · exact Or.inl rfl
      · exact others entry later within

omit [LinearOrder T] [AddCommGroup T] [IsOrderedAddMonoid T] in
theorem countP_le_add {A : Type} (wide left right : A → Bool) (list : List A)
    (covers : ∀ item ∈ list, wide item = true → left item = true ∨ right item = true) :
    list.countP wide ≤ list.countP left + list.countP right := by
  induction list with
  | nil => exact Nat.zero_le _
  | cons item rest hypothesis =>
    have later := hypothesis fun other member => covers other (List.mem_cons_of_mem _ member)
    have here := covers item List.mem_cons_self
    rw [List.countP_cons, List.countP_cons, List.countP_cons]
    by_cases chosen : wide item = true
    · rw [if_pos chosen]
      rcases here chosen with one | two
      · rw [if_pos one]
        omega
      · rw [if_pos two]
        omega
    · rw [if_neg chosen]
      omega

end Spans

/-! ## Recovery -/

section Recovery

variable {limit : Nat} {window : T}

theorem hit_of_adjacent {times : List T} {key : Option (Counter T)} {before after : List (Hit T)}
    {previous entry : Hit T}
    (run : hits limit window key times = before ++ previous :: entry :: after) :
    entry = hit limit window entry.time (some previous.counter) := by
  induction times generalizing key before with
  | nil => cases before <;> nomatch run
  | cons now rest hypothesis =>
    rw [hits_cons] at run
    cases before with
    | cons first before => exact hypothesis (List.cons.inj run).2
    | nil =>
      obtain ⟨here, later⟩ := List.cons.inj run
      cases rest with
      | nil => nomatch later
      | cons next rest =>
        rw [hits_cons] at later
        obtain ⟨second, _⟩ := List.cons.inj later
        rw [← second, ← here]
        rfl

theorem expiresAt_of_mem {times : List T} {key : Option (Counter T)} {entry : Hit T}
    (member : entry ∈ hits limit window key times) :
    ∃ gone, entry.counter.expiresAt = some gone := by
  induction times generalizing key with
  | nil => nomatch member
  | cons now rest hypothesis =>
    rw [hits_cons] at member
    rcases List.mem_cons.mp member with rfl | later
    · rw [hit]
      have counted := incrWithTtl_counted window now key
      generalize incrWithTtl window now key = counter at counted
      cases counted <;> exact ⟨_, rfl⟩
    · exact hypothesis later

theorem hit_of_dead (atLeastOne : 1 ≤ limit) {now gone : T} {value : Nat} (dead : gone ≤ now) :
    (hit limit window now (some ⟨value, some gone⟩)).allowed = true := by
  have counted := incrWithTtl_counted window now (some ⟨value, some gone⟩)
  rw [hit]
  generalize incrWithTtl window now (some ⟨value, some gone⟩) = counter at counted
  cases counted with
  | goes value gone lives => exact absurd lives (not_lt.mpr dead)
  | renewed value gone dead => exact decide_eq_true atLeastOne

variable [IsOrderedAddMonoid T]

theorem expiresAt_le (times : List T) (sorted : times.Pairwise (· ≤ ·)) {key : Option (Counter T)}
    (bounded : ∀ gone, key.bind Counter.expiresAt = some gone → ∀ now ∈ times, gone ≤ now + window)
    {entry : Hit T} (member : entry ∈ hits limit window key times) {gone : T}
    (expires : entry.counter.expiresAt = some gone) : gone ≤ entry.time + window := by
  induction times generalizing key with
  | nil => nomatch member
  | cons now rest hypothesis =>
    rw [List.pairwise_cons] at sorted
    rw [hits_cons] at member
    have here : ∀ gone, (incrWithTtl window now key).expiresAt = some gone →
        gone ≤ now + window := by
      have counted := incrWithTtl_counted window now key
      generalize incrWithTtl window now key = counter at counted
      intro end_ set
      cases counted with
      | goes value gone lives =>
        cases set
        exact bounded _ rfl now List.mem_cons_self
      | timed value => cases set; exact le_refl _
      | renewed value gone dead => cases set; exact le_refl _
      | begins => cases set; exact le_refl _
    rcases List.mem_cons.mp member with rfl | later
    · exact here gone expires
    · refine hypothesis sorted.2 ?_ later
      intro end_ set next inRest
      exact (here end_ set).trans (add_le_add_left (sorted.1 next inRest) window)

end Recovery

/-! ## The limiter -/

/-- A key that is absent, or was left behind without expiry. -/
def leftBehind (start : Option Nat) : Option (Counter T) := start.map fun value => ⟨value, none⟩

/-- At most the limit is allowed in the life of a counter and twice the limit in a span of
one window, and a hit made a window after a hit of the current counter is allowed. -/
theorem limiter_windows [IsOrderedAddMonoid T] (limit : Nat) (atLeastOne : 1 ≤ limit)
    (window : T) (positive : 0 < window) (start : Option Nat) (times : List T)
    (sorted : times.Pairwise (· ≤ ·)) :
    (∀ gone, (hits limit window (leftBehind start) times).countP (allowedUntil gone) ≤ limit) ∧
    (∀ first last, last - first ≤ window →
      (hits limit window (leftBehind start) times).countP (fun entry =>
        entry.allowed && (first ≤ entry.time && entry.time ≤ last)) ≤ 2 * limit) ∧
    ∀ before previous entry after,
      hits limit window (leftBehind start) times = before ++ previous :: entry :: after →
      ∀ first ∈ before ++ [previous], first.counter.expiresAt = previous.counter.expiresAt →
        first.time + window ≤ entry.time → entry.allowed = true := by
  have life : ∀ gone, (hits limit window (leftBehind start) times).countP (allowedUntil gone) ≤
      limit := fun gone => (countP_allowedUntil positive times _ gone).trans (room_le _ gone)
  refine ⟨life, ?_, ?_⟩
  · intro first last short
    obtain ⟨one, two, covered⟩ := expiresAt_of_span limit positive
      (sub_le_iff_le_add'.mp short) times sorted (leftBehind start)
    have counted := countP_le_add
      (fun entry => entry.allowed && (first ≤ entry.time && entry.time ≤ last))
      (allowedUntil one) (allowedUntil two) (hits limit window (leftBehind start) times) ?_
    · have oneLife := life one
      have twoLife := life two
      omega
    · intro entry member chosen
      simp only [Bool.and_eq_true, decide_eq_true_eq] at chosen
      obtain ⟨allowed, after, within⟩ := chosen
      unfold allowedUntil
      rw [allowed, Bool.true_and, Bool.true_and, decide_eq_true_eq, decide_eq_true_eq]
      exact covered entry member after within
  · intro before previous entry after run first member same late
    have adjacent := hit_of_adjacent run
    have unset : ∀ gone : T, (leftBehind start).bind Counter.expiresAt = some gone →
        ∀ now ∈ times, gone ≤ now + window := by
      intro gone set
      cases start with
      | none => nomatch set
      | some value => nomatch set
    have inRun : first ∈ hits limit window (leftBehind start) times := by
      rw [run]
      rcases List.mem_append.mp member with early | here
      · exact List.mem_append_left _ early
      · rw [List.mem_singleton.mp here]
        exact List.mem_append_right _ List.mem_cons_self
    have previousInRun : previous ∈ hits limit window (leftBehind start) times := by
      rw [run]
      exact List.mem_append_right _ List.mem_cons_self
    obtain ⟨gone, expires⟩ := expiresAt_of_mem previousInRun
    have lapsed : gone ≤ entry.time :=
      (expiresAt_le times sorted unset inRun (same.trans expires)).trans late
    rw [adjacent]
    generalize previous.counter = counter at expires
    obtain ⟨value, expiresAt⟩ := counter
    cases expires
    exact hit_of_dead atLeastOne lapsed

namespace Sample

/-- A counter left at five by an older version, then four quick hits and one a window later. -/
def burst : List Int := [0, 1, 2, 3, 60]

theorem burst_recovers :
    (hits 2 60 (leftBehind (some 5)) burst).map Hit.allowed = [false, false, false, false, true] ∧
      (hits 2 60 (leftBehind (some 5)) burst).countP
        (fun entry => entry.allowed && (3 ≤ entry.time && entry.time ≤ 60)) ≤ 4 :=
  ⟨by decide, (limiter_windows 2 (by decide) (60 : Int) (by decide) (some 5) burst
    (by decide)).2.1 3 60 (by decide)⟩

end Sample

/-! ## The server's milliseconds -/

/-- A key of the server lives through the millisecond of its expiry. -/
def ofEntry (entry : Redis.Entry Nat) : Counter Int :=
  ⟨entry.value, entry.expiresAt.map fun last => last + 1⟩

theorem lives_ofEntry (entry : Redis.Entry Nat) (now : Int) :
    (ofEntry entry).lives now = entry.lives now := by
  obtain ⟨value, expiresAt⟩ := entry
  cases expiresAt with
  | none => rfl
  | some last =>
    change decide (now < last + 1) = decide (now ≤ last)
    rw [decide_eq_decide]
    exact Int.lt_add_one_iff

/-- The transaction of the server is `incrWithTtl` with a window one millisecond longer. -/
theorem incrWithTtl_redis {K : Type} [DecidableEq K] (redis : Redis K Nat) (now : Int) (k : K)
    (seconds : Nat) :
    (((redis.incr now k).expireNx now k seconds).entry k).map ofEntry =
      some (incrWithTtl (1000 * (seconds : Int) + 1) now ((redis.entry k).map ofEntry)) := by
  have counted := redis.find_count_self now k seconds
  rw [((Redis.find_eq_some_iff _ _ _ _).mp counted).1, Option.map_some, Option.some_inj]
  have alive : ((redis.entry k).map ofEntry).filter (fun counter => counter.lives now) =
      (redis.find now k).map ofEntry := by
    rw [Redis.find]
    cases redis.entry k with
    | none => rfl
    | some entry =>
      rw [Option.map_some, Option.filter_some, Option.filter_some, lives_ofEntry]
      split <;> rfl
  have longer : Redis.expiry now seconds + 1 = now + (1000 * (seconds : Int) + 1) := by
    rw [Redis.expiry, add_assoc]
  rw [incrWithTtl, alive, ← longer]
  cases redis.find now k with
  | none => rfl
  | some entry =>
    obtain ⟨value, expiresAt⟩ := entry
    cases expiresAt with
    | none => rfl
    | some last => rfl

end BackendCore.Auth.Limiter
