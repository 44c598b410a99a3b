import BackendCore.Billing.Periods

/-!
# The calendar of billing periods

Where `period_end` lands: in the next month or in the same month of the next year,
on the day of the start or on the last day of a shorter month.  What is clamped once
stays clamped, so that after many periods the day is still at least the 28th or the
day of the start.  A datetime is a wall clock beside its `tzinfo`; two datetimes of
one `tzinfo` are compared by their wall clocks.
-/

set_option autoImplicit false

namespace BackendCore.Billing

open BackendCore.Python

/-- A datetime with its `tzinfo`, which is `None` for a naive one. -/
structure Zoned (Z : Type) where
  wall : DateTime
  zone : Z
  deriving DecidableEq

section Zones

variable {Z : Type}

/-- `period_end`; `replace` keeps the `tzinfo`. -/
def zonedPeriodEnd (start : Zoned Z) (period : Period) : Option (Zoned Z) :=
  (periodEnd start.wall period).map fun wall => ⟨wall, start.zone⟩

def afterPeriods (period : Period) (count : Nat) (start : Zoned Z) : Option (Zoned Z) :=
  (periodsLater period count start.wall).map fun wall => ⟨wall, start.zone⟩

end Zones

/-! ## Months -/

theorem daysInMonth_bounds (year month : Nat) :
    28 ≤ daysInMonth year month ∧ daysInMonth year month ≤ 31 := by
  unfold daysInMonth
  split
  · split
    · decide
    · decide
  · split
    · decide
    · decide

/-- The months a period counts. -/
def Period.months : Period → Nat
  | .month => 1
  | .year => 12

/-- The day before the first of the month. -/
def ordinalBefore (year month : Nat) : Nat :=
  DateTime.daysBeforeYear year + DateTime.daysBeforeMonth year month

theorem toordinal_eq (moment : DateTime) :
    moment.toordinal = ordinalBefore moment.year moment.month + moment.day := rfl

theorem ordinalBefore_next_month {year month : Nat} (first : 1 ≤ month) :
    ordinalBefore year (month + 1) = ordinalBefore year month + daysInMonth year month := by
  rw [ordinalBefore, ordinalBefore, DateTime.daysBeforeMonth_succ year month first]
  omega

theorem ordinalBefore_january {year : Nat} (first : 1 ≤ year) :
    ordinalBefore (year + 1) 1 = ordinalBefore year 12 + daysInMonth year 12 := by
  have whole : DateTime.daysBeforeMonth year 12 + daysInMonth year 12 =
      DateTime.daysInYear year := by
    rw [← DateTime.daysBeforeMonth_succ year 12 (by decide)]
    exact DateTime.daysBeforeMonth_thirteen year
  have nothing : DateTime.daysBeforeMonth (year + 1) 1 = 0 := rfl
  rw [ordinalBefore, ordinalBefore, DateTime.daysBeforeYear_succ year first, nothing]
  omega

theorem daysBeforeMonth_eq (year : Nat) {month : Nat} (first : 1 ≤ month) (last : month ≤ 12) :
    DateTime.daysBeforeMonth year month =
      DateTime.daysBeforeMonth 1 month + if isLeap year = true ∧ 2 < month then 1 else 0 := by
  have plain : isLeap 1 = false := by decide
  interval_cases month <;>
    by_cases leap : isLeap year = true <;>
      simp [DateTime.daysBeforeMonth, daysInMonth, leap, plain, List.range_succ]

theorem daysInMonth_succ_year (year month : Nat) :
    daysInMonth (year + 1) month = daysInMonth year month ∨ month = 2 := by
  by_cases february : month = 2
  · exact Or.inr february
  · left
    rw [daysInMonth, daysInMonth, if_neg february, if_neg february]

/-! ## One period -/

section OnePeriod

variable {start finish : DateTime} {period : Period}

/-- The month after, or the month a year later, with the day clamped to its length. -/
structure Ends (start : DateTime) (period : Period) (finish : DateTime) : Prop where
  months : monthIndex finish = monthIndex start + period.months
  day : finish.day = min start.day (daysInMonth finish.year finish.month)
  micros : finish.micros = start.micros

theorem periodEnd_ends (ends : periodEnd start period = some finish) :
    Ends start period finish := by
  have lastMonth := start.valid.2.2.2.1
  cases period with
  | year =>
    obtain ⟨year, month, day, micros⟩ := DateTime.replaceDate_some ends
    refine ⟨?_, by rw [year, month]; exact day, micros⟩
    rw [monthIndex, monthIndex, year, month, Period.months]
    omega
  | month =>
    simp only [periodEnd] at ends
    split at ends
    · obtain ⟨year, month, day, micros⟩ := DateTime.replaceDate_some ends
      refine ⟨?_, by rw [year, month]; exact day, micros⟩
      rw [monthIndex, monthIndex, year, month, Period.months]
      omega
    · obtain ⟨year, month, day, micros⟩ := DateTime.replaceDate_some ends
      refine ⟨?_, by rw [year, month]; exact day, micros⟩
      rw [monthIndex, monthIndex, year, month, Period.months]
      omega

theorem periodEnd_isSome (start : DateTime) (period : Period) :
    (periodEnd start period).isSome = true ↔ monthIndex start + period.months ≤ 120000 := by
  obtain ⟨firstYear, lastYear, firstMonth, lastMonth, _⟩ := start.valid
  constructor
  · intro there
    obtain ⟨finish, ends⟩ := Option.isSome_iff_exists.mp there
    rw [← (periodEnd_ends ends).months]
    exact monthIndex_le finish
  · intro room
    rw [monthIndex] at room
    cases period with
    | year =>
      rw [Period.months] at room
      obtain ⟨finish, ends⟩ := replaceDate_clamped start (start.year + 1) start.month (by omega)
        (by omega) firstMonth lastMonth
      exact Option.isSome_iff_exists.mpr ⟨finish, ends⟩
    | month =>
      rw [Period.months] at room
      by_cases december : start.month + 1 > 12
      · obtain ⟨finish, ends⟩ := replaceDate_clamped start (start.year + 1) 1 (by omega) (by omega)
          (by omega) (by omega)
        refine Option.isSome_iff_exists.mpr ⟨finish, ?_⟩
        simpa only [periodEnd, if_pos december] using ends
      · obtain ⟨finish, ends⟩ := replaceDate_clamped start start.year (start.month + 1) firstYear
          lastYear (by omega) (by omega)
        refine Option.isSome_iff_exists.mpr ⟨finish, ?_⟩
        simpa only [periodEnd, if_neg december] using ends

theorem year_month_of_monthIndex {left right : DateTime}
    (same : monthIndex left = monthIndex right) :
    left.year = right.year ∧ left.month = right.month := by
  have leftFirst := left.valid.2.2.1
  have leftLast := left.valid.2.2.2.1
  have rightFirst := right.valid.2.2.1
  have rightLast := right.valid.2.2.2.1
  unfold monthIndex at same
  omega

theorem Ends.month_length (ends : Ends start .month finish) :
    ordinalBefore finish.year finish.month =
      ordinalBefore start.year start.month + daysInMonth start.year start.month := by
  obtain ⟨firstYear, _, firstMonth, lastMonth, _⟩ := start.valid
  have finishFirst := finish.valid.2.2.1
  have finishLast := finish.valid.2.2.2.1
  have months := ends.months
  rw [monthIndex, monthIndex, Period.months] at months
  by_cases december : start.month = 12
  · have year : finish.year = start.year + 1 := by omega
    have month : finish.month = 1 := by omega
    rw [year, month, december, ordinalBefore_january firstYear]
  · have year : finish.year = start.year := by omega
    have month : finish.month = start.month + 1 := by omega
    rw [year, month, ordinalBefore_next_month firstMonth]

theorem Ends.month_days (ends : Ends start .month finish) :
    28 ≤ finish.toordinal - start.toordinal ∧ finish.toordinal - start.toordinal ≤ 31 := by
  have before := ends.month_length
  have day := ends.day
  have inMonth := start.valid.2.2.2.2.2.1
  have here := daysInMonth_bounds start.year start.month
  have there := daysInMonth_bounds finish.year finish.month
  rw [toordinal_eq, toordinal_eq, before, day]
  omega

theorem Ends.year_month (ends : Ends start .year finish) :
    finish.year = start.year + 1 ∧ finish.month = start.month := by
  have firstMonth := start.valid.2.2.1
  have lastMonth := start.valid.2.2.2.1
  have finishFirst := finish.valid.2.2.1
  have finishLast := finish.valid.2.2.2.1
  have months := ends.months
  rw [monthIndex, monthIndex, Period.months] at months
  omega

theorem Ends.year_days (ends : Ends start .year finish) :
    365 ≤ finish.toordinal - start.toordinal ∧ finish.toordinal - start.toordinal ≤ 366 := by
  obtain ⟨firstYear, _, firstMonth, lastMonth, _, inMonth, _⟩ := start.valid
  obtain ⟨year, month⟩ := ends.year_month
  have day := ends.day
  rw [year, month] at day
  have nextYear := DateTime.daysBeforeYear_succ start.year firstYear
  have here := daysBeforeMonth_eq start.year firstMonth lastMonth
  have there := daysBeforeMonth_eq (start.year + 1) firstMonth lastMonth
  rw [DateTime.toordinal, DateTime.toordinal, year, month, nextYear, here, there, day]
  unfold DateTime.daysInYear
  rcases daysInMonth_succ_year start.year start.month with same | february
  · rw [same]
    by_cases late : 2 < start.month
    · by_cases leap : isLeap start.year = true
      · by_cases next : isLeap (start.year + 1) = true
        · simp only [late, leap, next, and_self, if_true]
          omega
        · simp only [late, leap, next, and_self, if_true, false_and, if_false, Bool.false_eq_true]
          omega
      · by_cases next : isLeap (start.year + 1) = true
        · simp only [late, leap, next, and_self, if_true, false_and, if_false, Bool.false_eq_true]
          omega
        · simp only [leap, next, false_and, if_false, Bool.false_eq_true]
          omega
    · simp only [late, and_false, if_false]
      split <;> omega
  · have early : ¬2 < start.month := by omega
    rw [february, daysInMonth, if_pos rfl] at inMonth
    rw [february, daysInMonth, if_pos rfl]
    simp only [lt_irrefl, and_false, if_false]
    split at inMonth
    · rename_i leap
      simp only [leap, if_true]
      split <;> omega
    · rename_i leap
      simp only [leap, if_false, Bool.false_eq_true]
      split <;> omega

theorem toordinal_lt_of_monthIndex_lt {left right : DateTime}
    (earlier : monthIndex left < monthIndex right) : left.toordinal < right.toordinal := by
  have leftLast := left.valid.2.2.2.1
  have rightFirst := right.valid.2.2.1
  have rightLast := right.valid.2.2.2.1
  unfold monthIndex at earlier
  by_cases sameYear : left.year = right.year
  · exact DateTime.toordinal_lt_of_month_lt sameYear (by omega)
  · exact DateTime.toordinal_lt_of_year_lt (by omega)

theorem Ends.mono {other otherEnd : DateTime} (ends : Ends start period finish)
    (otherEnds : Ends other period otherEnd) (earlier : other.toordinal ≤ start.toordinal) :
    otherEnd.toordinal ≤ finish.toordinal := by
  have months := ends.months
  have otherMonths := otherEnds.months
  rcases Nat.lt_trichotomy (monthIndex other) (monthIndex start) with before | same | after
  · exact Nat.le_of_lt (toordinal_lt_of_monthIndex_lt (by omega))
  · obtain ⟨year, month⟩ := year_month_of_monthIndex same
    obtain ⟨endYear, endMonth⟩ := year_month_of_monthIndex
      (show monthIndex otherEnd = monthIndex finish by omega)
    have day : other.day ≤ start.day := by
      rw [toordinal_eq, toordinal_eq, year, month] at earlier
      omega
    rw [toordinal_eq, toordinal_eq, endYear, endMonth, otherEnds.day, ends.day, endYear, endMonth]
    omega
  · exact absurd (toordinal_lt_of_monthIndex_lt after) (Nat.not_lt.mpr earlier)

theorem Ends.day_bounds (ends : Ends start period finish) :
    min 28 start.day ≤ finish.day ∧ finish.day ≤ start.day := by
  have length := daysInMonth_bounds finish.year finish.month
  rw [ends.day]
  omega

theorem Ends.days (ends : Ends start period finish) (later : start < finish) :
    finish.toMicros - start.toMicros =
      ((finish.toordinal - start.toordinal : Nat) : Int) * microsPerDay := by
  have micros := ends.micros
  have before : start.toMicros < finish.toMicros := later
  unfold DateTime.toMicros microsPerDay at *
  omega

end OnePeriod

/-! ## Consecutive periods -/

section ManyPeriods

variable {Z : Type} {period : Period}

/-- Where consecutive periods land: so many months on, the day not above that of the
start and not below it or the 28th. -/
structure Lands (start : DateTime) (period : Period) (count : Nat) (finish : DateTime) :
    Prop where
  months : monthIndex finish = monthIndex start + count * period.months
  low : min 28 start.day ≤ finish.day
  high : finish.day ≤ start.day

theorem Lands.step {start middle finish : DateTime} {count : Nat}
    (ends : Ends start period middle) (lands : Lands middle period count finish) :
    Lands start period (count + 1) finish := by
  obtain ⟨low, high⟩ := ends.day_bounds
  refine ⟨?_, ?_, Nat.le_trans lands.high high⟩
  · rw [lands.months, ends.months, Nat.succ_mul]
    omega
  · have further := lands.low
    omega

theorem periodsLater_lands (count : Nat) {start finish : DateTime}
    (after : periodsLater period count start = some finish) :
    Lands start period count finish ∧ finish.micros = start.micros := by
  induction count generalizing start with
  | zero =>
    cases after
    exact ⟨⟨by omega, by omega, Nat.le_refl _⟩, rfl⟩
  | succ count hypothesis =>
    obtain ⟨middle, ends, rest⟩ := Option.bind_eq_some_iff.mp after
    have one := periodEnd_ends ends
    obtain ⟨lands, micros⟩ := hypothesis rest
    exact ⟨Lands.step one lands, micros.trans one.micros⟩

theorem periodsLater_isSome (count : Nat) (start : DateTime) :
    (periodsLater period count start).isSome = true ↔
      monthIndex start + count * period.months ≤ 120000 := by
  induction count generalizing start with
  | zero =>
    have bound := monthIndex_le start
    exact ⟨fun _ => by omega, fun _ => rfl⟩
  | succ count hypothesis =>
    rw [periodsLater]
    have here := periodEnd_isSome start period
    cases ends : periodEnd start period with
    | none =>
      rw [ends] at here
      refine ⟨fun there => (nomatch there), fun room => ?_⟩
      rw [Nat.succ_mul] at room
      exact absurd (here.mpr (by omega)) Bool.false_ne_true
    | some middle =>
      have months := (periodEnd_ends ends).months
      change (periodsLater period count middle).isSome = true ↔ _
      rw [hypothesis, months, Nat.succ_mul]
      omega

end ManyPeriods

/-- The days a period may take. -/
def Period.Takes : Period → Nat → Prop
  | .month, days => 28 ≤ days ∧ days ≤ 31
  | .year, days => 365 ≤ days ∧ days ≤ 366

/-- `period_end` for every start before the year 9999. -/
theorem period_end_calendar {Z : Type} (start : Zoned Z) (period : Period)
    (room : start.wall.year < 9999) :
    ∃ finish, zonedPeriodEnd start period = some finish ∧ start.wall < finish.wall ∧
      finish.wall.micros = start.wall.micros ∧ finish.zone = start.zone ∧
      monthIndex finish.wall = monthIndex start.wall + period.months ∧
      finish.wall.day = min start.wall.day (daysInMonth finish.wall.year finish.wall.month) ∧
      (∃ days : Nat, period.Takes days ∧
        finish.wall.toMicros - start.wall.toMicros = days * microsPerDay) ∧
      (∀ other otherEnd : Zoned Z, zonedPeriodEnd other period = some otherEnd →
        other.wall.toordinal ≤ start.wall.toordinal →
          otherEnd.wall.toordinal ≤ finish.wall.toordinal) ∧
      ∀ count, ((afterPeriods period count start).isSome = true ↔
          monthIndex start.wall + count * period.months ≤ 120000) ∧
        ∀ last, afterPeriods period count start = some last →
          Lands start.wall period count last.wall ∧ last.zone = start.zone ∧
            last.wall.micros = start.wall.micros := by
  obtain ⟨finish, there, _⟩ := periodEnd_of_year_le start.wall period (by omega)
  have ends := periodEnd_ends there
  have later := lt_periodEnd there
  refine ⟨⟨finish, start.zone⟩, by rw [zonedPeriodEnd, there]; rfl, later, ends.micros, rfl,
    ends.months, ends.day, ?_, ?_, ?_⟩
  · refine ⟨finish.toordinal - start.wall.toordinal, ?_, ends.days later⟩
    cases period with
    | month => exact ends.month_days
    | year => exact ends.year_days
  · intro other otherEnd otherEnds earlier
    obtain ⟨wall, found, rfl⟩ := Option.map_eq_some_iff.mp otherEnds
    exact ends.mono (periodEnd_ends found) earlier
  · intro count
    refine ⟨?_, ?_⟩
    · rw [afterPeriods, Option.isSome_map]
      exact periodsLater_isSome count start.wall
    · intro last after
      obtain ⟨wall, found, rfl⟩ := Option.map_eq_some_iff.mp after
      obtain ⟨lands, micros⟩ := periodsLater_lands count found
      exact ⟨lands, rfl, micros⟩

namespace Sample

def lastOfJanuary : Zoned (Option String) := ⟨⟨2026, 1, 31, 43200000000, by decide⟩, some "UTC"⟩

theorem january_period_ends_in_february :
    zonedPeriodEnd lastOfJanuary .month =
        some ⟨⟨2026, 2, 28, 43200000000, by decide⟩, some "UTC"⟩ ∧
      ∃ last, afterPeriods .month 14 lastOfJanuary = some last ∧
        28 ≤ last.wall.day ∧ last.wall.day ≤ 31 := by
  refine ⟨by decide, ?_⟩
  obtain ⟨_, _, _, _, _, _, _, _, _, many⟩ :=
    period_end_calendar lastOfJanuary .month (by decide)
  obtain ⟨last, after⟩ := Option.isSome_iff_exists.mp ((many 14).1.mpr (by decide))
  obtain ⟨lands, _, _⟩ := (many 14).2 last after
  exact ⟨last, after, lands.low, lands.high⟩

end Sample

end BackendCore.Billing
