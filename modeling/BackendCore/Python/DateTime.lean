import BackendCore.Python.Text

/-!
# UTC datetimes

`datetime.datetime` with time zone UTC, microsecond resolution and years 1 to
9999.  A value is a calendar date and a microsecond of the day; the field
`valid` excludes every other combination.  Values are ordered as instants, by
the proleptic Gregorian ordinal of the date and then by the time of day.
-/

set_option autoImplicit false

namespace BackendCore.Python

def isLeap (year : Nat) : Bool := year % 4 = 0 && (year % 100 ≠ 0 || year % 400 = 0)

/-- `calendar.monthrange(year, month)[1]`. -/
def daysInMonth (year month : Nat) : Nat :=
  if month = 2 then (if isLeap year then 29 else 28)
  else if month = 4 ∨ month = 6 ∨ month = 9 ∨ month = 11 then 30
  else 31

def microsPerDay : Nat := 86400000000

structure DateTime where
  year : Nat
  month : Nat
  day : Nat
  micros : Nat
  valid : 1 ≤ year ∧ year ≤ 9999 ∧ 1 ≤ month ∧ month ≤ 12 ∧ 1 ≤ day ∧
    day ≤ daysInMonth year month ∧ micros < microsPerDay
  deriving DecidableEq

namespace DateTime

def daysBeforeYear (year : Nat) : Nat :=
  (year - 1) * 365 + (year - 1) / 4 - (year - 1) / 100 + (year - 1) / 400

def daysBeforeMonth (year month : Nat) : Nat :=
  ((List.range (month - 1)).map fun index => daysInMonth year (index + 1)).sum

/-- `date.toordinal()`. -/
def toordinal (moment : DateTime) : Nat :=
  daysBeforeYear moment.year + daysBeforeMonth moment.year moment.month + moment.day

/-- Microseconds since 1970-01-01, the ordinal 719163. -/
def toMicros (moment : DateTime) : Int :=
  ((moment.toordinal : Int) - 719163) * microsPerDay + moment.micros

instance : LE DateTime := ⟨fun left right => left.toMicros ≤ right.toMicros⟩

instance : LT DateTime := ⟨fun left right => left.toMicros < right.toMicros⟩

instance (left right : DateTime) : Decidable (left ≤ right) :=
  inferInstanceAs (Decidable (left.toMicros ≤ right.toMicros))

instance (left right : DateTime) : Decidable (left < right) :=
  inferInstanceAs (Decidable (left.toMicros < right.toMicros))

instance : Preorder DateTime where
  le_refl moment := Int.le_refl moment.toMicros
  le_trans _ _ _ first second := Int.le_trans first second
  lt_iff_le_not_ge _ _ := Int.lt_iff_le_and_not_ge

/-- `moment.replace(year=, month=, day=)`; `none` is `ValueError`. -/
def replaceDate (moment : DateTime) (year month day : Nat) : Option DateTime :=
  if fits : 1 ≤ year ∧ year ≤ 9999 ∧ 1 ≤ month ∧ month ≤ 12 ∧ 1 ≤ day ∧
      day ≤ daysInMonth year month then
    some ⟨year, month, day, moment.micros, by
      obtain ⟨a, b, c, d, e, f⟩ := fits
      exact ⟨a, b, c, d, e, f, moment.valid.2.2.2.2.2.2⟩⟩
  else none

theorem replaceDate_some {moment changed : DateTime} {year month day : Nat}
    (replaced : moment.replaceDate year month day = some changed) :
    changed.year = year ∧ changed.month = month ∧ changed.day = day ∧
      changed.micros = moment.micros := by
  unfold replaceDate at replaced
  split at replaced
  · cases replaced
    exact ⟨rfl, rfl, rfl, rfl⟩
  · cases replaced

/-! ## The calendar order -/

def daysInYear (year : Nat) : Nat := if isLeap year then 366 else 365

theorem daysBeforeYear_succ (year : Nat) (positive : 1 ≤ year) :
    daysBeforeYear (year + 1) = daysBeforeYear year + daysInYear year := by
  obtain ⟨before, rfl⟩ := Nat.exists_eq_add_of_le' positive
  have fours : (before + 1) / 4 = before / 4 + if (before + 1) % 4 = 0 then 1 else 0 := by
    split <;> omega
  have hundreds : (before + 1) / 100 = before / 100 + if (before + 1) % 100 = 0 then 1 else 0 := by
    split <;> omega
  have cycles : (before + 1) / 400 = before / 400 + if (before + 1) % 400 = 0 then 1 else 0 := by
    split <;> omega
  have fewer : before / 100 ≤ before / 4 := by omega
  unfold daysBeforeYear daysInYear isLeap
  simp only [Nat.add_sub_cancel, fours, hundreds, cycles]
  by_cases leap : (before + 1) % 4 = 0
  · by_cases century : (before + 1) % 100 = 0
    · by_cases cycle : (before + 1) % 400 = 0
      · simp [leap, century, cycle]
        omega
      · simp [leap, century, cycle]
        omega
    · have noCycle : (before + 1) % 400 ≠ 0 := by omega
      simp [leap, century, noCycle]
      omega
  · have noCentury : (before + 1) % 100 ≠ 0 := by omega
    have noCycle : (before + 1) % 400 ≠ 0 := by omega
    simp [leap, noCentury, noCycle]
    omega

theorem daysBeforeYear_mono {left right : Nat} (positive : 1 ≤ left) (le : left ≤ right) :
    daysBeforeYear left ≤ daysBeforeYear right := by
  induction right, le using Nat.le_induction with
  | base => exact Nat.le_refl _
  | succ year later hypothesis =>
    rw [daysBeforeYear_succ year (Nat.le_trans positive later)]
    omega

theorem daysBeforeMonth_succ (year month : Nat) (positive : 1 ≤ month) :
    daysBeforeMonth year (month + 1) = daysBeforeMonth year month + daysInMonth year month := by
  obtain ⟨index, rfl⟩ := Nat.exists_eq_add_of_le' positive
  simp [daysBeforeMonth, List.range_succ]

theorem daysBeforeMonth_mono (year : Nat) {left right : Nat} (positive : 1 ≤ left)
    (le : left ≤ right) :
    daysBeforeMonth year left ≤ daysBeforeMonth year right := by
  induction right, le using Nat.le_induction with
  | base => exact Nat.le_refl _
  | succ month later hypothesis =>
    rw [daysBeforeMonth_succ year month (Nat.le_trans positive later)]
    omega

theorem daysBeforeMonth_thirteen (year : Nat) : daysBeforeMonth year 13 = daysInYear year := by
  unfold daysBeforeMonth daysInYear
  by_cases leap : isLeap year = true
  · simp [daysInMonth, leap, List.range_succ]
  · simp [daysInMonth, leap, List.range_succ]

theorem dayOfYear_le (moment : DateTime) :
    daysBeforeMonth moment.year moment.month + moment.day ≤ daysInYear moment.year := by
  obtain ⟨_, _, first, last, _, day, _⟩ := moment.valid
  have next := daysBeforeMonth_succ moment.year moment.month first
  have inYear : moment.month + 1 ≤ 13 := Nat.succ_le_succ last
  have bound := daysBeforeMonth_mono moment.year (Nat.le_add_left 1 moment.month) inYear
  rw [daysBeforeMonth_thirteen] at bound
  omega

theorem toordinal_lt_of_year_lt {left right : DateTime} (earlier : left.year < right.year) :
    left.toordinal < right.toordinal := by
  have inYear := dayOfYear_le left
  have next := daysBeforeYear_succ left.year left.valid.1
  have later : left.year + 1 ≤ right.year := earlier
  have bound := daysBeforeYear_mono (Nat.le_add_left 1 left.year) later
  have day := right.valid.2.2.2.2.1
  unfold toordinal
  omega

theorem toordinal_lt_of_month_lt {left right : DateTime} (sameYear : left.year = right.year)
    (earlier : left.month < right.month) : left.toordinal < right.toordinal := by
  obtain ⟨_, _, first, _, _, inMonth, _⟩ := left.valid
  have next := daysBeforeMonth_succ left.year left.month first
  have later : left.month + 1 ≤ right.month := earlier
  have bound := daysBeforeMonth_mono left.year (Nat.le_add_left 1 left.month) later
  have day := right.valid.2.2.2.2.1
  unfold toordinal
  rw [← sameYear]
  omega

theorem lt_of_toordinal_lt {left right : DateTime} (earlier : left.toordinal < right.toordinal) :
    left < right := by
  have leftMicros := left.valid.2.2.2.2.2.2
  have rightMicros := right.valid.2.2.2.2.2.2
  change left.toMicros < right.toMicros
  unfold toMicros microsPerDay at *
  omega

theorem year_le_of_le {left right : DateTime} (le : left ≤ right) : left.year ≤ right.year := by
  by_contra later
  have before : right.toMicros < left.toMicros :=
    lt_of_toordinal_lt (toordinal_lt_of_year_lt (Nat.lt_of_not_le later))
  have notBefore : left.toMicros ≤ right.toMicros := le
  omega

end DateTime

/-! ## Double precision

`datetime.timestamp()` and `time.time()` are doubles.  The rounding of one
arithmetic operation to the nearest double, ties to even, is enough here: the
values in question are far from the overflow and underflow thresholds. -/

def roundHalfEven (value : ℚ) : Int :=
  let below := ⌊value⌋
  let rest := value - below
  if rest < 1 / 2 then below
  else if 1 / 2 < rest then below + 1
  else if below % 2 = 0 then below else below + 1

def toDouble (value : ℚ) : ℚ :=
  if value = 0 then 0
  else
    let exponent := Int.log 2 |value| - 52
    roundHalfEven (value / 2 ^ exponent) * 2 ^ exponent

/-- The conversion of an `int` operand overflows from this magnitude on. -/
def doubleOverflow : ℚ := 2 ^ 1024 - 2 ^ 970

/-- `int(value)` of a double: truncation towards zero. -/
def truncate (value : ℚ) : Int := if 0 ≤ value then ⌊value⌋ else ⌈value⌉

/-- `moment.timestamp()`. -/
def DateTime.timestamp (moment : DateTime) : ℚ := toDouble ((moment.toMicros : ℚ) / 1000000)

end BackendCore.Python
