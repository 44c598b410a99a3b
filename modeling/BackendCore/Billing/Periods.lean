import BackendCore.Billing.Models

/-!
# Billing periods

`core/billing/periods.py` and the roll-forward loop of `close_ended_period`.
Every step of the loop moves the end at least one calendar month ahead and years
stop at 9999, which bounds the number of steps.
-/

set_option autoImplicit false

namespace BackendCore.Billing

open BackendCore.Python

/-- `period_end`; `none` is the `ValueError` of a year beyond 9999. -/
def periodEnd (start : DateTime) (period : Period) : Option DateTime :=
  match period with
  | .year =>
    let year := start.year + 1
    start.replaceDate year start.month (min start.day (daysInMonth year start.month))
  | .month =>
    if start.month + 1 > 12 then
      start.replaceDate (start.year + 1) 1 (min start.day (daysInMonth (start.year + 1) 1))
    else
      start.replaceDate start.year (start.month + 1)
        (min start.day (daysInMonth start.year (start.month + 1)))

/-- The end of the last of `count` periods that follow one another from `start` on. -/
def periodsLater (period : Period) : Nat → DateTime → Option DateTime
  | 0, start => some start
  | count + 1, start => (periodEnd start period).bind (periodsLater period count)

/-- Calendar months counted from year zero. -/
def monthIndex (moment : DateTime) : Nat := moment.year * 12 + moment.month

theorem monthIndex_lt_periodEnd {start finish : DateTime} {period : Period}
    (ends : periodEnd start period = some finish) : monthIndex start < monthIndex finish := by
  cases period with
  | year =>
    obtain ⟨year, month, -, -⟩ := DateTime.replaceDate_some ends
    unfold monthIndex
    omega
  | month =>
    simp only [periodEnd] at ends
    split at ends
    · obtain ⟨year, month, -, -⟩ := DateTime.replaceDate_some ends
      have bound := start.valid.2.2.2.1
      unfold monthIndex
      omega
    · obtain ⟨year, month, -, -⟩ := DateTime.replaceDate_some ends
      unfold monthIndex
      omega

theorem lt_periodEnd {start finish : DateTime} {period : Period}
    (ends : periodEnd start period = some finish) : start < finish := by
  have later := monthIndex_lt_periodEnd ends
  have lastMonth := start.valid.2.2.2.1
  have firstMonth := finish.valid.2.2.1
  have otherMonth := finish.valid.2.2.2.1
  unfold monthIndex at later
  apply DateTime.lt_of_toordinal_lt
  by_cases sameYear : start.year = finish.year
  · exact DateTime.toordinal_lt_of_month_lt sameYear (by omega)
  · exact DateTime.toordinal_lt_of_year_lt (by omega)

theorem monthIndex_le (moment : DateTime) : monthIndex moment ≤ 120000 := by
  have year := moment.valid.2.1
  have month := moment.valid.2.2.2.1
  unfold monthIndex
  omega

/-- The loop `while current_period_end <= now` over start and end of the current
period; `none` is the `ValueError` of `period_end`. -/
def rollForward (now : DateTime) (period : Period) (start finish : DateTime) :
    Option (DateTime × DateTime) :=
  if finish ≤ now then
    match _ends : periodEnd finish period with
    | none => none
    | some next => rollForward now period finish next
  else some (start, finish)
termination_by 120000 - monthIndex finish
decreasing_by
  have later := monthIndex_lt_periodEnd _ends
  have bound := monthIndex_le next
  omega

/-! ## Where a period ends -/

theorem replaceDate_clamped (moment : DateTime) (year month : Nat) (first : 1 ≤ year)
    (last : year ≤ 9999) (firstMonth : 1 ≤ month) (lastMonth : month ≤ 12) :
    ∃ changed, moment.replaceDate year month (min moment.day (daysInMonth year month)) =
      some changed := by
  have days : 1 ≤ daysInMonth year month := by
    unfold daysInMonth
    split
    · split
      · decide
      · decide
    · split
      · decide
      · decide
  have day := moment.valid.2.2.2.2.1
  unfold DateTime.replaceDate
  rw [dif_pos ⟨first, last, firstMonth, lastMonth, by omega, by omega⟩]
  exact ⟨_, rfl⟩

theorem periodEnd_of_year_le (start : DateTime) (period : Period) (room : start.year ≤ 9998) :
    ∃ finish, periodEnd start period = some finish ∧ finish.year ≤ start.year + 1 := by
  obtain ⟨firstYear, _, firstMonth, lastMonth, _⟩ := start.valid
  cases period with
  | year =>
    obtain ⟨finish, ends⟩ := replaceDate_clamped start (start.year + 1) start.month (by omega)
      (by omega) firstMonth lastMonth
    exact ⟨finish, ends, by rw [(DateTime.replaceDate_some ends).1]⟩
  | month =>
    by_cases december : start.month + 1 > 12
    · obtain ⟨finish, ends⟩ := replaceDate_clamped start (start.year + 1) 1 (by omega) (by omega)
        (by omega) (by omega)
      refine ⟨finish, ?_, by rw [(DateTime.replaceDate_some ends).1]⟩
      simpa only [periodEnd, if_pos december] using ends
    · obtain ⟨finish, ends⟩ := replaceDate_clamped start start.year (start.month + 1) firstYear
        (by omega) (by omega) (by omega)
      refine ⟨finish, ?_, by rw [(DateTime.replaceDate_some ends).1]; omega⟩
      simpa only [periodEnd, if_neg december] using ends

end BackendCore.Billing
