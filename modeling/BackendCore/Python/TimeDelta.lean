import BackendCore.Python.DateTime

/-!
# Adding days

`moment + timedelta(days=n)` on an aware UTC time: the time of day stays and the
date moves on day by day through the calendar.
-/

set_option autoImplicit false

namespace BackendCore.Python.DateTime

/-- The same time on the next day; `none` is `OverflowError`. -/
def nextDay (moment : DateTime) : Option DateTime :=
  if moment.day < daysInMonth moment.year moment.month then
    moment.replaceDate moment.year moment.month (moment.day + 1)
  else if moment.month < 12 then moment.replaceDate moment.year (moment.month + 1) 1
  else moment.replaceDate (moment.year + 1) 1 1

def addDays : Nat → DateTime → Option DateTime
  | 0, moment => some moment
  | days + 1, moment => moment.nextDay.bind (addDays days)

theorem nextDay_spec {moment next : DateTime} (found : moment.nextDay = some next) :
    next.toordinal = moment.toordinal + 1 ∧ next.micros = moment.micros := by
  obtain ⟨firstYear, _, firstMonth, lastMonth, _, inMonth, _⟩ := moment.valid
  have monthEnd := daysBeforeMonth_succ moment.year moment.month firstMonth
  unfold nextDay at found
  split at found
  · obtain ⟨year, month, day, micros⟩ := replaceDate_some found
    refine ⟨?_, micros⟩
    rw [toordinal, year, month, day, toordinal]
    omega
  · split at found
    · obtain ⟨year, month, day, micros⟩ := replaceDate_some found
      refine ⟨?_, micros⟩
      rw [toordinal, year, month, day, toordinal, monthEnd]
      omega
    · obtain ⟨year, month, day, micros⟩ := replaceDate_some found
      refine ⟨?_, micros⟩
      -- the last day of December
      have december : moment.month = 12 := by omega
      have yearEnd := daysBeforeYear_succ moment.year firstYear
      have whole : daysBeforeMonth moment.year (12 + 1) = daysInYear moment.year :=
        daysBeforeMonth_thirteen moment.year
      have january : daysBeforeMonth (moment.year + 1) 1 = 0 := rfl
      rename_i lastDay _
      rw [december] at monthEnd inMonth lastDay
      rw [toordinal, year, month, day, toordinal, yearEnd, january, december]
      omega

theorem addDays_toMicros (days : Nat) {moment later : DateTime}
    (found : moment.addDays days = some later) :
    later.toMicros = moment.toMicros + days * microsPerDay := by
  induction days generalizing moment with
  | zero =>
    cases found
    simp
  | succ days hypothesis =>
    obtain ⟨next, isNext, rest⟩ := Option.bind_eq_some_iff.mp found
    obtain ⟨ordinal, micros⟩ := nextDay_spec isNext
    have after := hypothesis rest
    have oneDay : next.toMicros = moment.toMicros + microsPerDay := by
      rw [toMicros, ordinal, micros, toMicros]
      push_cast
      ring
    rw [after, oneDay]
    push_cast
    ring

end BackendCore.Python.DateTime
