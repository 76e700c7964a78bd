import Mathlib
import PgMetrics.Time.Calendar

namespace PgMetrics.Calendar

variable {y y' : Int} {m m' : Nat}

theorem daysInMonth_bounds (y : Int) (m : Nat) : 28 ≤ daysInMonth y m ∧ daysInMonth y m ≤ 31 := by
  unfold daysInMonth
  split
  · split <;> omega
  all_goals omega

theorem daysBeforeMonth_succ (pos : 1 ≤ m) : daysBeforeMonth y (m + 1) = daysBeforeMonth y m + daysInMonth y m := by
  obtain ⟨m, rfl⟩ := Nat.exists_eq_add_of_le' pos
  rfl

theorem daysBeforeMonth_mono (y : Int) : Monotone (daysBeforeMonth y) := by
  refine monotone_nat_of_le_succ fun m => ?_
  cases m with
  | zero => exact le_rfl
  | succ m => exact Nat.le_add_right ..

/-- The months of a year are as long as the year. -/
theorem daysBeforeYear_add_one (y : Int) : daysBeforeYear (y + 1) = daysBeforeYear y + daysBeforeMonth y 13 := by
  rw [daysBeforeYear_succ]
  simp only [daysBeforeMonth, daysInMonth]
  split <;> rfl

theorem daysBeforeYear_mono : Monotone daysBeforeYear := by
  intro y y' le
  simp only [daysBeforeYear]
  omega

namespace Date

variable {d d' : Date} {n : Int}

theorem isValid_iff :
    d.isValid = true ↔ 1 ≤ d.month ∧ d.month ≤ 12 ∧ 1 ≤ d.day ∧ d.day ≤ daysInMonth d.year d.month := by
  simp [isValid, and_assoc]

/-- The order of the calendar: by the year, then by the month, then by the day. -/
def Before (d d' : Date) : Prop :=
  d.year < d'.year ∨ d.year = d'.year ∧ (d.month < d'.month ∨ d.month = d'.month ∧ d.day < d'.day)

theorem before_or_eq_or_before (d d' : Date) : d.Before d' ∨ d = d' ∨ d'.Before d := by
  obtain ⟨y, m, k⟩ := d
  obtain ⟨y', m', k'⟩ := d'
  simp only [Before, mk.injEq]
  omega

/-- A later day has a greater number. -/
theorem dayNumber_lt (valid : d.isValid = true) (valid' : d'.isValid = true) (before : d.Before d') :
    d.dayNumber < d'.dayNumber := by
  obtain ⟨first, last, -, within⟩ := isValid_iff.1 valid
  obtain ⟨-, -, first', -⟩ := isValid_iff.1 valid'
  have month : daysBeforeMonth d.year d.month + d.day ≤ daysBeforeMonth d.year (d.month + 1) := by
    rw [daysBeforeMonth_succ first]
    omega
  -- What comes before the year, before the month and before the day adds up, and none of it reaches the next one.
  unfold dayNumber
  obtain earlier | ⟨sameYear, earlier | ⟨sameMonth, earlier⟩⟩ := before
  · have year := daysBeforeMonth_mono d.year (by omega : d.month + 1 ≤ 13)
    have years := daysBeforeYear_mono (by omega : d.year + 1 ≤ d'.year)
    rw [daysBeforeYear_add_one] at years
    omega
  · have months := daysBeforeMonth_mono d.year (by omega : d.month + 1 ≤ d'.month)
    rw [← sameYear]
    omega
  · rw [← sameYear, ← sameMonth]
    omega

theorem eq_of_dayNumber_eq (valid : d.isValid = true) (valid' : d'.isValid = true) (same : d.dayNumber = d'.dayNumber) :
    d = d' := by
  obtain before | equal | behind := before_or_eq_or_before d d'
  · exact absurd same (dayNumber_lt valid valid' before).ne
  · exact equal
  · exact absurd same (dayNumber_lt valid' valid behind).ne'

/-- The day after a day. -/
def next (d : Date) : Date :=
  if d.day < daysInMonth d.year d.month then { d with day := d.day + 1 }
  else if d.month < 12 then ⟨d.year, d.month + 1, 1⟩
  else ⟨d.year + 1, 1, 1⟩

theorem isValid_next (valid : d.isValid = true) : d.next.isValid = true := by
  obtain ⟨first, last, pos, within⟩ := isValid_iff.1 valid
  rw [isValid_iff, next]
  split
  case isTrue inMonth => exact ⟨first, last, Nat.le_add_left .., inMonth⟩
  split
  case isTrue inYear =>
    have days := daysInMonth_bounds d.year (d.month + 1)
    exact ⟨Nat.le_add_left .., inYear, le_rfl, by dsimp only; omega⟩
  case isFalse =>
    have days := daysInMonth_bounds (d.year + 1) 1
    exact ⟨le_rfl, Nat.le_add_left 1 11, le_rfl, by dsimp only; omega⟩

theorem dayNumber_next (valid : d.isValid = true) : d.next.dayNumber = d.dayNumber + 1 := by
  obtain ⟨first, last, pos, within⟩ := isValid_iff.1 valid
  have month := @daysBeforeMonth_succ d.year d.month first
  rw [next]
  split
  case isTrue =>
    simp only [dayNumber]
    omega
  case isFalse ends =>
    split
    case isTrue =>
      simp only [dayNumber]
      omega
    case isFalse yearEnds =>
      have december : d.month = 12 := by omega
      have january : daysBeforeMonth (d.year + 1) 1 = 0 := rfl
      simp only [december, Nat.reduceAdd] at month ends within
      simp only [dayNumber, december, daysBeforeYear_add_one, january]
      omega

/-- So many days pass from the start of 1970 to a date, or so many from the date to the start of 1970. -/
def Elapsed (d : Date) (days : Int) : Prop :=
  ∃ n : Nat, days = n ∧ next^[n] ⟨1970, 1, 1⟩ = d ∨ days = -n ∧ next^[n] d = ⟨1970, 1, 1⟩

theorem iterate_next (valid : d.isValid = true) (n : Nat) :
    (next^[n] d).isValid = true ∧ (next^[n] d).dayNumber = d.dayNumber + n := by
  induction n with
  | zero => exact ⟨valid, (Int.add_zero _).symm⟩
  | succ n ih =>
    rw [Function.iterate_succ_apply']
    refine ⟨isValid_next ih.1, ?_⟩
    rw [dayNumber_next ih.1, ih.2]
    push_cast
    ring

theorem iterate_next_eq (valid : d.isValid = true) (valid' : d'.isValid = true) {n : Nat}
    (apart : d.dayNumber + n = d'.dayNumber) : next^[n] d = d' := by
  obtain ⟨isValid, number⟩ := iterate_next valid n
  exact eq_of_dayNumber_eq isValid valid' (number.trans apart)

/-- The number of a date is how many days pass from the start of 1970 to the date. -/
theorem elapsed_iff (valid : d.isValid = true) : d.Elapsed n ↔ n = d.dayNumber := by
  have start : (mk 1970 1 1).isValid = true := by decide
  have zero : (mk 1970 1 1).dayNumber = 0 := by decide
  constructor
  · rintro ⟨n, ⟨rfl, rfl⟩ | ⟨rfl, back⟩⟩
    · rw [(iterate_next start n).2, zero, zero_add]
    · have number := (iterate_next valid n).2
      rw [back, zero] at number
      omega
  · rintro rfl
    obtain ⟨n, after | before⟩ := Int.eq_nat_or_neg d.dayNumber
    · exact ⟨n, .inl ⟨after, iterate_next_eq start valid (by omega)⟩⟩
    · exact ⟨n, .inr ⟨before, iterate_next_eq valid start (by omega)⟩⟩

end Date

end PgMetrics.Calendar
