import BackendCore.Lib.Outline
import BackendCore.Shared.Errors

/-!
# Usage metering

`modules/saas/metering/service.py`: `record` adds to the counter of a tenant, a
metric and a day by an `INSERT … ON CONFLICT DO UPDATE`; `usage` and `summary` add
the counters of a window of days.  Any number of transactions record at the same
time, each a list of calls, and may be rolled back.  Counters are keyed by the
columns of their unique index, and a date is its proleptic Gregorian ordinal.
-/

set_option autoImplicit false

namespace BackendCore.Saas

open BackendCore.Python BackendCore.ReadCommitted

/-! ## Aware datetimes -/

/-- A timezone-aware `datetime`: the fields of its wall clock and `utcoffset()`. -/
structure AwareDateTime where
  wall : DateTime
  offset : Int
  bounded : -(microsPerDay : Int) < offset ∧ offset < microsPerDay
  deriving DecidableEq

namespace AwareDateTime

/-- `datetime.now(UTC)`. -/
def utc (now : DateTime) : AwareDateTime := ⟨now, 0, by decide⟩

/-- `.date()`, the date of the wall clock. -/
def date (moment : AwareDateTime) : Int := moment.wall.toordinal

/-- The day in UTC of the instant. -/
def utcDay (moment : AwareDateTime) : Int :=
  (moment.wall.toMicros - moment.offset) / microsPerDay + 719163

end AwareDateTime

/-! ## Statements -/

structure CounterKey where
  tenantId : Uuid
  metricKey : String
  bucket : Int
  deriving DecidableEq

structure UsageCounter where
  key : CounterKey
  value : Int
  deriving DecidableEq

abbrev Counters := Table UsageCounter.key

structure RecordCall where
  tenantId : Uuid
  metricKey : String
  delta : Int
  time : Option AwareDateTime
  now : DateTime
  deriving DecidableEq

/-- `at or datetime.now(UTC)`. -/
def RecordCall.moment (call : RecordCall) : AwareDateTime :=
  call.time.getD (.utc call.now)

def RecordCall.key (call : RecordCall) : CounterKey :=
  ⟨call.tenantId, call.metricKey, call.moment.date⟩

abbrev MeteringProg := Prog UsageCounter.key Exc (List RecordCall)

def maxMetricKeyLen : Nat := 128

def UsageCounter.add (delta : Int) (row : UsageCounter) : UsageCounter :=
  { row with value := row.value + delta }

/-- `INSERT … ON CONFLICT DO UPDATE`: a taken key is that of a committed row or of one of
the transaction itself, and no row is ever deleted here. -/
def upsert (key : CounterKey) (delta : Int) (next : MeteringProg) : MeteringProg :=
  .insert ⟨key, delta⟩ fun
    | .done => next
    | _ => .write key (UsageCounter.add delta) (fun _ => rfl) fun
        | .done => next
        | _ => .raise (.unexpected "CardinalityViolation")

def record (call : RecordCall) (next : MeteringProg) : MeteringProg :=
  if call.metricKey = "" ∨ maxMetricKeyLen < call.metricKey.length then
    .raise (.invariantViolationError "metric_key must be 1..128 chars")
  else if call.delta < 1 then
    .raise (.invariantViolationError "delta must be a positive integer")
  else upsert call.key call.delta next

/-- One transaction; it answers with its calls. -/
def recordAll (calls : List RecordCall) : MeteringProg :=
  calls.foldr record (.ret calls)

/-! ## Queries -/

def inWindow (sinceDay untilDay : Option Int) (day : Int) : Bool :=
  (sinceDay.all fun first => first ≤ day) && untilDay.all fun last => day ≤ last

def usageClause (tenantId : Uuid) (sinceDay untilDay : Option Int) (row : UsageCounter) : Bool :=
  row.key.tenantId = tenantId && inWindow sinceDay untilDay row.key.bucket

def usage (counters : Counters) (tenantId : Uuid) (metricKey : String)
    (sinceDay untilDay : Option Int) : Int :=
  ((counters.select fun row => usageClause tenantId sinceDay untilDay row &&
    row.key.metricKey = metricKey).map UsageCounter.value).sum

/-- `GROUP BY metric_key`; the permission guard passes or raises. -/
def summary (permitted : Except Exc Unit) (counters : Counters) (tenantId : Uuid)
    (sinceDay untilDay : Option Int) : Except Exc (List (String × Int)) :=
  match permitted with
  | .error raised => .error raised
  | .ok () =>
    let rows := counters.select (usageClause tenantId sinceDay untilDay)
    .ok ((rows.map fun row => row.key.metricKey).dedup.map fun metricKey =>
      (metricKey, ((rows.filter fun row => row.key.metricKey = metricKey).map
        UsageCounter.value).sum))

/-! ## Counters and calls -/

def valueAt (counters : Counters) (key : CounterKey) : Int :=
  (counters.get key).elim 0 UsageCounter.value

def totalAt (calls : List RecordCall) (key : CounterKey) : Int :=
  ((calls.filter fun call => call.key = key).map RecordCall.delta).sum

theorem totalAt_append (first second : List RecordCall) (key : CounterKey) :
    totalAt (first ++ second) key = totalAt first key + totalAt second key := by
  simp [totalAt]

theorem totalAt_singleton (call : RecordCall) (key : CounterKey) :
    totalAt [call] key = if key = call.key then call.delta else 0 := by
  by_cases here : key = call.key
  · simp [totalAt, here]
  · simp [totalAt, here, Ne.symm here]

def Positive (counters : Counters) : Prop :=
  ∀ key row, counters.get key = some row → 0 < row.value

/-- The counters hold the committed calls and nothing else. -/
structure Holds (base : Base UsageCounter.key (List RecordCall)) : Prop where
  values : ∀ key, valueAt base.table key = totalAt base.log.flatten key
  positive : Positive base.table
  recorded : ∀ call ∈ base.log.flatten, 0 < call.delta

def meteringContract : Contract UsageCounter.key Exc (List RecordCall) where
  invariant := Holds

def noIndexes : List (UsageCounter → Option Unit) := []

/-- What a session sees is what is committed and its own calls so far. -/
structure Counts (done : List RecordCall) (changes : List (Change CounterKey UsageCounter))
    (locks : List CounterKey) (base : Base UsageCounter.key (List RecordCall)) : Prop where
  locked : ∀ key ∈ changes.map (Change.on UsageCounter.key), key ∈ locks
  values : ∀ key, valueAt (overlay changes base.table) key =
    valueAt base.table key + totalAt done key
  positive : Positive (overlay changes base.table)
  recorded : ∀ call ∈ done, 0 < call.delta

variable {done : List RecordCall} {changes : List (Change CounterKey UsageCounter)}
variable {locks : List CounterKey} {base last : Base UsageCounter.key (List RecordCall)}
variable {phase : Phase UsageCounter.key Exc (List RecordCall)}

theorem Counts.later (counts : Counts done changes locks base)
    (rely : meteringContract.Rely noIndexes phase changes locks base last) :
    Counts done changes locks last := by
  have kept : ∀ key ∈ changes.map (Change.on UsageCounter.key),
      last.table.get key = base.table.get key ∧
        (overlay changes last.table).get key = (overlay changes base.table).get key := by
    intro key touched
    have same := rely.kept key (counts.locked key touched)
    exact ⟨same, get_overlay_congr changes same⟩
  refine ⟨counts.locked, ?_, ?_, counts.recorded⟩
  · intro key
    have before := counts.values key
    by_cases touched : key ∈ changes.map (Change.on UsageCounter.key)
    · obtain ⟨table, view⟩ := kept key touched
      rw [valueAt, valueAt, table, view]
      exact before
    · rw [valueAt, get_overlay_of_untouched changes _ touched] at before ⊢
      change valueAt base.table key = _ at before
      change valueAt last.table key = _
      omega
  · intro key row found
    by_cases touched : key ∈ changes.map (Change.on UsageCounter.key)
    · rw [(kept key touched).2] at found
      exact counts.positive key row found
    · rw [get_overlay_of_untouched changes _ touched] at found
      exact rely.invariant.positive key row found

theorem Counts.store (counts : Counts done changes locks base) {call : RecordCall}
    {row : UsageCounter} (placed : row.key = call.key) (recorded : 0 < call.delta)
    (value : row.value = valueAt (overlay changes base.table) call.key + call.delta)
    (positive : 0 < row.value) :
    Counts (done ++ [call]) (changes ++ [.store row]) (row.key :: locks) base := by
  have seen : ∀ key, (overlay (changes ++ [.store row]) base.table).get key =
      if key = call.key then some row else (overlay changes base.table).get key := by
    intro key
    rw [overlay_append, get_apply]
    change (if key = row.key then _ else _) = _
    rw [placed]
  refine ⟨?_, ?_, ?_, ?_⟩
  · intro key touched
    rcases mem_on_snoc.mp touched with old | rfl
    · exact List.mem_cons_of_mem _ (counts.locked key old)
    · exact List.mem_cons_self
  · intro key
    have before := counts.values key
    rw [totalAt_append, totalAt_singleton, valueAt, seen]
    by_cases here : key = call.key
    · rw [if_pos here, if_pos here]
      rw [← here] at value
      change row.value = _
      omega
    · rw [if_neg here, if_neg here]
      change valueAt (overlay changes base.table) key = _
      omega
  · intro key other found
    rw [seen] at found
    split at found
    · rw [← Option.some.inj found]
      exact positive
    · exact counts.positive key other found
  · intro other mem
    rcases List.mem_append.mp mem with old | new
    · exact counts.recorded other old
    · rw [List.mem_singleton.mp new]
      exact recorded

theorem Counts.commits (counts : Counts done changes locks base) (holds : Holds base) :
    meteringContract.Commits done changes locks base := by
  refine ⟨⟨?_, counts.positive, ?_⟩, trivial, fun _ _ => trivial, trivial⟩
  · intro key
    rw [List.flatten_append, List.flatten_singleton, totalAt_append, counts.values key,
      holds.values key]
  · intro call mem
    rw [List.flatten_append, List.flatten_singleton] at mem
    rcases List.mem_append.mp mem with old | new
    · exact holds.recorded call old
    · exact counts.recorded call new

theorem record_outline (call : RecordCall) (next : MeteringProg)
    (counts : Counts done changes locks base)
    (rest : ∀ changes locks base, Counts (done ++ [call]) changes locks base →
      next.Outline meteringContract noIndexes changes locks base) :
    (record call next).Outline meteringContract noIndexes changes locks base := by
  unfold record
  split
  · trivial
  split
  · trivial
  rename_i positive
  have recorded : 0 < call.delta := by omega
  intro last rely
  have there := counts.later rely
  split
  · rename_i free
    rw [Bool.and_eq_true, Option.isNone_iff_eq_none] at free
    have none : valueAt (overlay changes last.table) call.key = 0 := by
      rw [valueAt]
      exact congrArg (fun found => Option.elim found 0 UsageCounter.value) free.1
    refine rest _ _ _ (there.store rfl recorded ?_ recorded)
    rw [none]
    exact (Int.zero_add _).symm
  · intro final after
    have then_ := there.later after
    split
    · trivial
    · rename_i row found
      split
      · have placed : row.key = call.key := Table.key_of_get found
        refine rest _ _ _ (then_.store placed recorded ?_ ?_)
        · rw [valueAt, found]
          rfl
        · have old := then_.positive _ row found
          change 0 < row.value + call.delta
          omega
      · trivial

theorem recordAll_outline (calls : List RecordCall) (holds : Holds base) :
    (recordAll calls).Outline meteringContract noIndexes [] [] base := by
  have each : ∀ todo done, done ++ todo = calls → ∀ changes locks base,
      Counts done changes locks base →
      (todo.foldr record (.ret calls)).Outline meteringContract noIndexes changes locks
        base := by
    intro todo
    induction todo with
    | nil =>
      intro done all changes locks base counts last rely
      rw [List.append_nil] at all
      subst all
      exact (counts.later rely).commits rely.invariant
    | cons call todo ih =>
      intro done all changes locks base counts
      refine record_outline call _ counts fun changes locks base counts => ?_
      exact ih (done ++ [call]) (by rw [← all, List.append_assoc]; rfl) changes locks base counts
  refine each calls [] rfl [] [] base ⟨List.forall_mem_nil _, ?_, holds.positive, ?_⟩
  · intro key
    exact (Int.add_zero _).symm
  · exact List.forall_mem_nil _

/-! ## Sums over a window -/

theorem totalAt_cons (call : RecordCall) (calls : List RecordCall) (key : CounterKey) :
    totalAt (call :: calls) key = (if key = call.key then call.delta else 0) +
      totalAt calls key := by
  rw [← List.singleton_append, totalAt_append, totalAt_singleton]

theorem totalAt_nonneg {calls : List RecordCall} (recorded : ∀ call ∈ calls, 0 < call.delta)
    (key : CounterKey) : 0 ≤ totalAt calls key := by
  apply List.sum_nonneg
  intro delta mem
  obtain ⟨call, member, rfl⟩ := List.mem_map.mp mem
  exact Int.le_of_lt (recorded call (List.mem_of_mem_filter member))

theorem totalAt_pos {calls : List RecordCall} (recorded : ∀ call ∈ calls, 0 < call.delta)
    {call : RecordCall} (mem : call ∈ calls) : 0 < totalAt calls call.key := by
  obtain ⟨before, after, rfl⟩ := List.append_of_mem mem
  have early := totalAt_nonneg (fun other member => recorded other
    (List.mem_append_left _ member)) call.key
  have late := totalAt_nonneg (fun other member => recorded other
    (List.mem_append_right _ (List.mem_cons_of_mem _ member))) call.key
  have own := recorded call mem
  rw [totalAt_append, totalAt_cons, if_pos rfl]
  omega

theorem sum_map_ite_key {keys : List CounterKey} (distinct : keys.Nodup) (key : CounterKey)
    (delta : Int) : (keys.map fun other => if other = key then delta else 0).sum =
      if key ∈ keys then delta else 0 := by
  rw [← List.sum_toFinset _ distinct, Finset.sum_ite_eq']
  simp only [List.mem_toFinset]

theorem sum_totalAt (clause : CounterKey → Bool) {keys : List CounterKey} (distinct : keys.Nodup)
    {calls : List RecordCall} (listed : ∀ call ∈ calls, call.key ∈ keys) :
    ((keys.filter clause).map (totalAt calls)).sum =
      ((calls.filter fun call => clause call.key).map RecordCall.delta).sum := by
  induction calls with
  | nil =>
    have zero : totalAt [] = fun _ => 0 := rfl
    rw [zero]
    simp
  | cons call calls ih =>
    have rest := ih fun other mem => listed other (List.mem_cons_of_mem _ mem)
    have each : totalAt (call :: calls) = fun key =>
        (if key = call.key then call.delta else 0) + totalAt calls key :=
      funext (totalAt_cons call calls)
    rw [each, List.sum_map_add, sum_map_ite_key (distinct.filter _), rest]
    have inside : call.key ∈ keys.filter clause ↔ clause call.key = true := by
      rw [List.mem_filter]
      exact and_iff_right (listed call List.mem_cons_self)
    rw [List.filter_cons]
    by_cases chosen : clause call.key = true
    · rw [if_pos (inside.mpr chosen), if_pos chosen, List.map_cons, List.sum_cons]
    · rw [if_neg (fun mem => chosen (inside.mp mem)), if_neg chosen, Int.zero_add]

theorem Holds.sum_select (holds : Holds base) (clause : CounterKey → Bool) :
    ((base.table.select fun row => clause row.key).map UsageCounter.value).sum =
      ((base.log.flatten.filter fun call => clause call.key).map RecordCall.delta).sum := by
  have listed : ∀ call ∈ base.log.flatten, call.key ∈ base.table.rows.map UsageCounter.key := by
    intro call mem
    have some := totalAt_pos holds.recorded mem
    rw [← holds.values, valueAt] at some
    cases found : base.table.get call.key with
    | none =>
      rw [found] at some
      exact absurd some (Int.lt_irrefl 0)
    | some row => exact List.mem_map.mpr ⟨row, Table.mem_of_get found, Table.key_of_get found⟩
  have values : ∀ row ∈ base.table.rows, row.value = totalAt base.log.flatten row.key := by
    intro row mem
    rw [← holds.values, valueAt, base.table.get_of_mem row mem]
    rfl
  rw [← sum_totalAt clause base.table.nodup listed, List.filter_map, List.map_map]
  congr 1
  apply List.map_congr_left
  intro row mem
  exact values row (List.mem_of_mem_filter mem)

/-! ## Usage and summary -/

/-- The deltas of the calls of a tenant and a metric on the UTC days of a window. -/
def recordedUsage (calls : List RecordCall) (tenantId : Uuid) (metricKey : String)
    (sinceDay untilDay : Option Int) : Int :=
  ((calls.filter fun call => call.tenantId = tenantId && call.metricKey = metricKey &&
    inWindow sinceDay untilDay call.moment.utcDay).map RecordCall.delta).sum

theorem Holds.usage_eq (holds : Holds base)
    (utc : ∀ call ∈ base.log.flatten, call.moment.utcDay = call.moment.date) (tenantId : Uuid)
    (metricKey : String) (sinceDay untilDay : Option Int) :
    usage base.table tenantId metricKey sinceDay untilDay =
      recordedUsage base.log.flatten tenantId metricKey sinceDay untilDay := by
  refine (holds.sum_select fun key => (key.tenantId = tenantId &&
    inWindow sinceDay untilDay key.bucket) && key.metricKey = metricKey).trans ?_
  unfold recordedUsage
  congr 2
  apply List.filter_congr
  intro call mem
  rw [utc call mem]
  exact Bool.and_right_comm _ _ _

theorem mem_summary_iff {counters : Counters} (positive : Positive counters) (tenantId : Uuid)
    (sinceDay untilDay : Option Int) :
    ∃ totals, summary (.ok ()) counters tenantId sinceDay untilDay = .ok totals ∧
      (totals.map Prod.fst).Nodup ∧ ∀ metricKey total, (metricKey, total) ∈ totals ↔
        total ≠ 0 ∧ total = usage counters tenantId metricKey sinceDay untilDay := by
  refine ⟨_, rfl, ?_, ?_⟩
  · rw [List.map_map]
    exact (List.map_id _).symm ▸ List.nodup_dedup _
  · intro metricKey total
    have rows : ∀ name, (counters.select (usageClause tenantId sinceDay untilDay)).filter
        (fun row => row.key.metricKey = name) = counters.select fun row =>
          usageClause tenantId sinceDay untilDay row && row.key.metricKey = name := by
      intro name
      rw [Table.select, Table.select, List.filter_filter]
      apply List.filter_congr
      intro row _
      exact Bool.and_comm _ _
    have nonzero : usage counters tenantId metricKey sinceDay untilDay ≠ 0 ↔
        ∃ row ∈ counters.select (usageClause tenantId sinceDay untilDay),
          row.key.metricKey = metricKey := by
      rw [usage, ← rows]
      constructor
      · intro some
        by_contra none
        push Not at none
        rw [List.filter_eq_nil_iff.mpr (by simpa using none)] at some
        exact some rfl
      · rintro ⟨row, mem, named⟩
        have chosen : row.value ∈ ((counters.select (usageClause tenantId sinceDay untilDay)).filter
            fun row => row.key.metricKey = metricKey).map UsageCounter.value :=
          List.mem_map_of_mem (List.mem_filter.mpr ⟨mem, by simpa using named⟩)
        refine ne_of_gt (List.sum_pos _ ?_ (List.ne_nil_of_mem chosen))
        intro value member
        obtain ⟨other, inside, rfl⟩ := List.mem_map.mp member
        have stored := (Table.mem_select _ _ _).mp (List.mem_of_mem_filter inside)
        exact positive other.key other (counters.get_of_mem other stored.1)
    rw [List.mem_map]
    constructor
    · rintro ⟨name, listed, equal⟩
      obtain ⟨rfl, rfl⟩ := Prod.mk.inj equal
      rw [List.mem_dedup, List.mem_map] at listed
      rw [rows]
      exact ⟨nonzero.mpr listed, rfl⟩
    · rintro ⟨some, rfl⟩
      refine ⟨metricKey, ?_, ?_⟩
      · rw [List.mem_dedup, List.mem_map]
        exact nonzero.mp some
      · rw [rows]
        rfl

/-- Where every committed call names a moment whose local date is its UTC day, usage and
summary report the committed calls by UTC day. -/
theorem usage_reports_committed_calls {Tid : Type} [DecidableEq Tid]
    (calls : Tid → List RecordCall)
    (world : World Tid UsageCounter.key Exc (List RecordCall)) (log : List (List RecordCall))
    (run : World.LogRun noIndexes True (fun _ _ _ => True)
      (World.start Table.empty fun tid => recordAll (calls tid), []) (world, log))
    (utc : ∀ call ∈ log.flatten, call.moment.utcDay = call.moment.date) (tenantId : Uuid)
    (sinceDay untilDay : Option Int) :
    (∀ metricKey, usage world.table tenantId metricKey sinceDay untilDay =
      recordedUsage log.flatten tenantId metricKey sinceDay untilDay) ∧
    ∃ totals, summary (.ok ()) world.table tenantId sinceDay untilDay = .ok totals ∧
      (totals.map Prod.fst).Nodup ∧ ∀ metricKey total, (metricKey, total) ∈ totals ↔
        total ≠ 0 ∧
          total = recordedUsage log.flatten tenantId metricKey sinceDay untilDay := by
  have empty : Holds ⟨Table.empty, []⟩ :=
    ⟨fun _ => rfl, fun _ _ found => (nomatch found), List.forall_mem_nil _⟩
  have begins : Upholds meteringContract noIndexes
      (World.start Table.empty fun tid => recordAll (calls tid), []) :=
    upholds_start Table.empty _ (List.forall_mem_nil _) empty fun tid =>
      recordAll_outline (calls tid) empty
  have holds : Holds ⟨world.table, log⟩ :=
    (begins.run run fun _ _ _ _ _ _ _ => trivial).1.invariant
  have equal := fun metricKey => holds.usage_eq utc tenantId metricKey sinceDay untilDay
  refine ⟨equal, ?_⟩
  obtain ⟨totals, answered, distinct, exact⟩ :=
    mem_summary_iff holds.positive tenantId sinceDay untilDay
  refine ⟨totals, answered, distinct, ?_⟩
  intro metricKey total
  rw [exact, ← equal metricKey]

namespace Sample

def tashkent (wall : DateTime) : AwareDateTime := ⟨wall, 18000000000, by decide⟩

/-- Two o'clock at night of January 2nd in Tashkent, nine in the evening of the 1st in UTC. -/
def night : DateTime := ⟨2026, 1, 2, 7200000000, by decide⟩

def nightCall : RecordCall := ⟨1, "api.calls", 3, some (tashkent night), night⟩

abbrev MeteringWorld := World Unit UsageCounter.key Exc (List RecordCall)

def begun (call : RecordCall) : MeteringWorld := World.start Table.empty fun _ => recordAll [call]

def written (call : RecordCall) : MeteringWorld :=
  (begun call).enter () (((begun call).session ()).advance noIndexes ((begun call).view ()))

def ended (call : RecordCall) : MeteringWorld := (written call).publish () [call]

theorem ended_run (call : RecordCall)
    (accepted : record call (.ret [call]) = upsert call.key call.delta (.ret [call])) :
    World.LogRun noIndexes True (fun _ _ _ => True) (begun call, []) (ended call, [[call]]) := by
  have program : ((begun call).session ()).phase =
      .running (upsert call.key call.delta (.ret [call])) :=
    congrArg Phase.running accepted
  have filed : ((written call).session ()).phase = .running (.ret [call]) := by
    rw [written, enter_session_self, Session.advance, program]
    rfl
  have first : World.Step noIndexes True (begun call) () (written call) := by
    refine .statement _ _ ?_ fun other differs => absurd rfl differs
    rw [program]
    rfl
  have second : World.Step noIndexes True (written call) () (ended call) := .commit _ _ _ filed
  have silent : ((written call).session ()).phase.answers = [] := by
    rw [filed]
    rfl
  have writes : World.Logs noIndexes True (fun _ _ _ => True) (begun call, [])
      (written call, []) := by
    refine ⟨(), first, trivial, ?_⟩
    rw [silent]
    rfl
  have commits : World.Logs noIndexes True (fun _ _ _ => True) (written call, [])
      (ended call, [[call]]) := by
    refine ⟨(), second, trivial, ?_⟩
    rw [ended, publish_session_self]
    rfl
  exact .tail (.single writes) commits

theorem night_call_on_wrong_day :
    World.LogRun noIndexes True (fun _ _ _ => True) (begun nightCall, [])
      (ended nightCall, [[nightCall]]) ∧
    usage (ended nightCall).table 1 "api.calls" (some 739617) (some 739617) = 0 ∧
    recordedUsage [nightCall] 1 "api.calls" (some 739617) (some 739617) = 3 ∧
    usage (ended nightCall).table 1 "api.calls" (some 739618) none = 3 ∧
    recordedUsage [nightCall] 1 "api.calls" (some 739618) none = 0 := by
  refine ⟨ended_run nightCall rfl, ?_, ?_, ?_, ?_⟩
  · decide +kernel
  · decide +kernel
  · decide +kernel
  · decide +kernel

def utcCall (delta : Int) (now : DateTime) : RecordCall := ⟨1, "api.calls", delta, none, now⟩

/-- Two transactions: one records calls on two days, the other one on the first of them. -/
def recorders : Bool → List RecordCall
  | false => [utcCall 3 night, utcCall 4 ⟨2026, 1, 3, 0, by decide⟩]
  | true => [utcCall 5 night]

def recording : World Bool UsageCounter.key Exc (List RecordCall) :=
  World.start Table.empty fun tid => recordAll (recorders tid)

/-- The second transaction waits for the first one. -/
def recorded : World Bool UsageCounter.key Exc (List RecordCall) :=
  recording.follow noIndexes [false, true, false, false, true, true, true]

theorem utc_calls_reported :
    ∃ log, World.LogRun noIndexes True (fun _ _ _ => True) (recording, []) (recorded, log) ∧
      usage recorded.table 1 "api.calls" (some 739618) (some 739618) = 8 ∧
      recordedUsage log.flatten 1 "api.calls" (some 739618) (some 739618) = 8 := by
  have reaches : World.Reaches noIndexes True recording recorded := follow_reaches _ _
  obtain ⟨log, run⟩ := reaches.logged []
  obtain ⟨order, logged, _⟩ := run.order fun _ => rfl
  have answered : ∀ tid, (recorded.session tid).phase.answers = [recorders tid] := by
    decide +kernel
  have days : ∀ tid, ∀ call ∈ recorders tid, call.moment.utcDay = call.moment.date := by
    decide
  have total : usage recorded.table 1 "api.calls" (some 739618) (some 739618) = 8 := by
    decide +kernel
  refine ⟨log, run, total, ?_⟩
  rw [← total]
  refine ((usage_reports_committed_calls recorders recorded log run ?_ 1 (some 739618)
    (some 739618)).1 "api.calls").symm
  intro call member
  obtain ⟨calls, inside, isCall⟩ := List.mem_flatten.mp member
  simp only [List.nil_append] at logged
  rw [logged, List.mem_flatMap] at inside
  obtain ⟨tid, _, committed⟩ := inside
  rw [answered tid, List.mem_singleton] at committed
  exact days tid call (committed ▸ isCall)

end Sample

end BackendCore.Saas
