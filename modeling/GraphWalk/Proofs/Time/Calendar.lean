import GraphWalk.Time
import Mathlib.Tactic

/-!
# The calendar

A day falls on a day of a month of a year that starts in March, so that the leap day is
the last of its year (`FallsOn`, `exists_fallsOn`). This is where dates are from: a date
gives back its day (`daysOf_dateOf`), it is one of the calendar (`dateOf_valid`), and dates
come in the order of the days (`dateOf_lt`).
-/

namespace GraphWalk.Instant

/-- The leap days from the year zero up to a year. -/
def leapDays (y : Int) : Int := y / 4 - y / 100 + y / 400

/-- The day on which March of a year starts. -/
def marchStart (y : Int) : Int := 365 * y + leapDays y - 719468

/-- The days from the start of March to that of a month; March is month zero. -/
def monthStart (m : Int) : Int := (153 * m + 2) / 5

/-- A day `z` lies `d` days into a month `m`, counted from March, of a year `y` that starts
in March. -/
structure FallsOn (z y m d : Int) : Prop where
  eq : z = marchStart y + monthStart m + d
  month : 0 ≤ m ∧ m < 12
  day : 0 ≤ d ∧ d < monthStart (m + 1) - monthStart m
  year : z < marchStart (y + 1)

/-- The date of such a day, with the year from January on. -/
def marchDate (y m d : Int) : Date :=
  ⟨if m < 10 then y else y + 1, (if m < 10 then m + 3 else m - 9).toNat, (d + 1).toNat⟩

theorem leapDays_succ (y : Int) :
    leapDays (y + 1) = leapDays y + if isLeap (y + 1) then 1 else 0 := by
  unfold leapDays isLeap
  simp only [Bool.and_eq_true, Bool.or_eq_true, decide_eq_true_eq, bne_iff_ne]
  split_ifs <;> omega

theorem marchStart_mono {y y' : Int} (h : y ≤ y') : marchStart y ≤ marchStart y' := by
  unfold marchStart leapDays
  omega

/-- An era of 400 years has 97 leap days. -/
theorem marchStart_add_era (y e : Int) :
    marchStart (y + e * 400) = marchStart y + e * 146097 := by
  have h4 : (y + e * 400) / 4 = y / 4 + e * 100 := by omega
  have h100 : (y + e * 400) / 100 = y / 100 + e * 4 := by omega
  have h400 : (y + e * 400) / 400 = y / 400 + e := by omega
  unfold marchStart leapDays
  omega

/-- The 400th leap day comes with the next era. -/
theorem leapDays_era {y : Int} (h : 0 ≤ y ∧ y < 400) : leapDays y = y / 4 - y / 100 := by
  unfold leapDays
  omega

/-- The century of a day of an era of 400 years; the last day of the era would start a
fifth. -/
theorem century_of_doe {doe yoe : Int} (hdoe : 0 ≤ doe ∧ doe < 146097)
    (hyoe : yoe = (doe - doe / 1460 + doe / 36524 - doe / 146096) / 365) :
    yoe / 100 = doe / 36524 - doe / 146096 := by
  have hc : doe / 36524 = 0 ∨ doe / 36524 = 1 ∨ doe / 36524 = 2 ∨ doe / 36524 = 3 ∨
      doe / 36524 = 4 := by omega
  rcases hc with hc | hc | hc | hc | hc <;> omega

/-- **The year of a day of an era** starts by that day and ends after it. -/
theorem year_of_doe {doe yoe : Int} (hdoe : 0 ≤ doe ∧ doe < 146097)
    (hyoe : yoe = (doe - doe / 1460 + doe / 36524 - doe / 146096) / 365) :
    (0 ≤ yoe ∧ yoe < 400) ∧ 365 * yoe + leapDays yoe ≤ doe ∧
      doe < 365 * (yoe + 1) + leapDays (yoe + 1) := by
  have hcentury := century_of_doe hdoe hyoe
  have hrange : 0 ≤ yoe ∧ yoe < 400 := by omega
  have hleaps := leapDays_era hrange
  have hbounds : 365 * yoe ≤ doe - doe / 1460 + yoe / 100 ∧
      doe - doe / 1460 + yoe / 100 < 365 * yoe + 365 := by omega
  -- the days count 1460 for four years, which come short by the last day of the fourth
  have hfour : yoe / 4 = doe / 1460 ∨ yoe = 4 * (doe / 1460) - 1 := by
    clear hyoe hcentury hleaps
    omega
  clear hyoe
  rw [leapDays_succ, hleaps]
  rcases hfour with hfour | hfour
  · refine ⟨hrange, by omega, ?_⟩
    split_ifs <;> omega
  · refine ⟨hrange, by omega, ?_⟩
    split_ifs with hleap
    · omega
    · simp only [isLeap, Bool.and_eq_true, Bool.or_eq_true, decide_eq_true_eq, bne_iff_ne] at hleap
      omega

/-- The day of the year, and the month, of a day that lies `doy` days after March. -/
theorem month_of_doy {doy m : Int} (hdoy : 0 ≤ doy ∧ doy < 366) (hm : m = (5 * doy + 2) / 153) :
    (0 ≤ m ∧ m < 12) ∧ monthStart m ≤ doy ∧ doy < monthStart (m + 1) := by
  unfold monthStart
  omega

/-- **Each day falls on a day of a month**, and that is its date. -/
theorem exists_fallsOn (z : Int) : ∃ y m d, FallsOn z y m d ∧ dateOf z = marchDate y m d := by
  let doe := (z + 719468) - (z + 719468) / 146097 * 146097
  let yoe := (doe - doe / 1460 + doe / 36524 - doe / 146096) / 365
  let doy := doe - (365 * yoe + yoe / 4 - yoe / 100)
  let m := (5 * doy + 2) / 153
  let y := yoe + (z + 719468) / 146097 * 400
  have hdoe : 0 ≤ doe ∧ doe < 146097 := by omega
  obtain ⟨hrange, hstart, hend⟩ := year_of_doe hdoe (show yoe = _ from rfl)
  have hstart' : marchStart y ≤ z ∧ z < marchStart (y + 1) := by
    have hnext : y + 1 = (yoe + 1) + (z + 719468) / 146097 * 400 := by omega
    rw [hnext, marchStart_add_era, marchStart_add_era]
    unfold marchStart
    omega
  have hleaps := leapDays_era hrange
  have hdoy : 0 ≤ doy ∧ doy < 366 := by
    rw [leapDays_succ] at hend
    split_ifs at hend <;> omega
  obtain ⟨hm, hmonth, hmonth'⟩ := month_of_doy hdoy (show m = _ from rfl)
  have hday : marchStart y + doy = z := by
    rw [marchStart_add_era, marchStart, hleaps]
    omega
  refine ⟨y, m, doy - monthStart m, ⟨by omega, hm, by omega, hstart'.2⟩, ?_⟩
  · have hdate : dateOf z = ⟨yoe + (z + 719468) / 146097 * 400 +
        (if (if m < 10 then m + 3 else m - 9) ≤ 2 then 1 else 0),
        (if m < 10 then m + 3 else m - 9).toNat, (doy - (153 * m + 2) / 5 + 1).toNat⟩ := rfl
    rw [hdate, marchDate, monthStart]
    congr 1
    split_ifs <;> omega

variable {z z' y y' m m' d d' : Int}

theorem daysOf_of_march (date : Date) {y m : Int}
    (hy : y = if date.month ≤ 2 then date.year - 1 else date.year)
    (hm : m = if date.month > 2 then (date.month : Int) - 3 else date.month + 9) :
    daysOf date = marchStart y + monthStart m + date.day - 1 := by
  have hera : y = (y - y / 400 * 400) + y / 400 * 400 := by omega
  have hstart : marchStart y = marchStart (y - y / 400 * 400) + y / 400 * 146097 := by
    rw [← marchStart_add_era, ← hera]
  rw [hstart, marchStart, leapDays_era (by omega), monthStart, daysOf, ← hy, ← hm]
  omega

theorem FallsOn.daysOf_marchDate (h : FallsOn z y m d) : daysOf (marchDate y m d) = z := by
  obtain ⟨hz, hm, hd, -⟩ := h
  have hmarch := daysOf_of_march (marchDate y m d) (y := y) (m := m)
    (by simp only [marchDate]; split_ifs <;> omega) (by simp only [marchDate]; split_ifs <;> omega)
  rw [hmarch, hz]
  simp only [marchDate]
  omega

theorem FallsOn.valid (h : FallsOn z y m d) :
    (1 ≤ (marchDate y m d).month ∧ (marchDate y m d).month ≤ 12) ∧ 1 ≤ (marchDate y m d).day ∧
      (marchDate y m d).day ≤ daysIn (marchDate y m d).year (marchDate y m d).month := by
  obtain ⟨hz, hm, hd, hyear⟩ := h
  have hdays : (d + 1).toNat ≤ daysIn (marchDate y m d).year (marchDate y m d).month := by
    by_cases hfeb : m = 11
    -- the last month ends with the year
    · subst hfeb
      have hleap := leapDays_succ y
      have hlast : d < 28 + if isLeap (y + 1) then 1 else 0 := by
        unfold marchStart monthStart at *
        omega
      cases hyear' : isLeap (y + 1) <;> simp [marchDate, daysIn, hyear'] at hlast ⊢ <;> omega
    · unfold monthStart at hd
      have hm' : 0 ≤ m ∧ m ≤ 10 := by omega
      obtain ⟨h0, h10⟩ := hm'
      interval_cases m <;> simp [marchDate, daysIn] <;> omega
  refine ⟨?_, by simp only [marchDate]; omega, hdays⟩
  simp only [marchDate]
  split_ifs <;> omega

/-- Days come in the order of the years that start in March. -/
theorem FallsOn.lt (h : FallsOn z y m d) (h' : FallsOn z' y' m' d') (hlt : z < z') :
    y < y' ∨ y = y' ∧ (m < m' ∨ m = m' ∧ d < d') := by
  have hyear : y ≤ y' := by
    by_contra hlt'
    have := marchStart_mono (show y' + 1 ≤ y by omega)
    have := h.eq
    have := h'.year
    have := h.month
    have := h.day
    unfold monthStart at *
    omega
  rcases Int.lt_or_eq_of_le hyear with hyear | rfl
  · exact .inl hyear
  · refine .inr ⟨rfl, ?_⟩
    obtain ⟨hz, -, hd, -⟩ := h
    obtain ⟨hz', -, hd', -⟩ := h'
    unfold monthStart at *
    omega

/-- **A date gives back its day.** -/
theorem daysOf_dateOf (z : Int) : daysOf (dateOf z) = z := by
  obtain ⟨y, m, d, h, hdate⟩ := exists_fallsOn z
  rw [hdate, h.daysOf_marchDate]

/-- A date has one of twelve months and one of the days of that month. -/
theorem dateOf_valid (z : Int) : (1 ≤ (dateOf z).month ∧ (dateOf z).month ≤ 12) ∧
    1 ≤ (dateOf z).day ∧ (dateOf z).day ≤ daysIn (dateOf z).year (dateOf z).month := by
  obtain ⟨y, m, d, h, hdate⟩ := exists_fallsOn z
  rw [hdate]
  exact h.valid

/-- **Dates come in the order of the days.** -/
theorem dateOf_lt (hlt : z < z') : (dateOf z).year < (dateOf z').year ∨
    (dateOf z).year = (dateOf z').year ∧ ((dateOf z).month < (dateOf z').month ∨
      (dateOf z).month = (dateOf z').month ∧ (dateOf z).day < (dateOf z').day) := by
  obtain ⟨y, m, d, h, hdate⟩ := exists_fallsOn z
  obtain ⟨y', m', d', h', hdate'⟩ := exists_fallsOn z'
  have horder := h.lt h' hlt
  obtain ⟨-, hm, hd, -⟩ := h
  obtain ⟨-, hm', hd', -⟩ := h'
  rw [hdate, hdate']
  simp only [marchDate]
  split_ifs <;> omega

/-- Years do not fall from one day to the next. -/
theorem year_mono (h : z ≤ z') : (dateOf z).year ≤ (dateOf z').year := by
  rcases Int.lt_or_eq_of_le h with hlt | rfl
  · rcases dateOf_lt hlt with hyear | ⟨hyear, -⟩
    · exact hyear.le
    · exact hyear.le
  · exact le_rfl

end GraphWalk.Instant
