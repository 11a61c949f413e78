import Countersign.Calendar.Instant

/-!
# Dates and instants as counts

The count of the days since the start of 1970 names a date and is named by it
(`Date.ofDayNumber?_eq_some_iff`), over all supported years, leap days and the days before 1970
among them. So the count of the seconds with its nanoseconds names an instant and is named by it,
where a leap second is in place (`Instant.ofUnix?_eq_some_iff`).
-/

namespace Countersign.Calendar

/-! ## 1. Days -/

namespace Date

theorem ofCivil?_eq_some_iff {year : Int} {month day : Nat} {d : Date} :
    ofCivil? year month day = some d ↔ d.year = year ∧ d.month = month ∧ d.day = day := by
  unfold ofCivil?
  constructor
  · intro h
    split at h
    · cases h
      exact ⟨rfl, rfl, rfl⟩
    · cases h
  · intro h
    obtain ⟨rfl, rfl, rfl⟩ := h
    exact dif_pos d.isDay

/-- A day of a cycle of 400 years that begin in March: the year in the cycle and the day in the
    year, and the 366th day only where the February after it has a leap day. -/
structure IsCycleDay (year day : Int) : Prop where
  year_nonneg : 0 ≤ year
  year_lt : year < 400
  day_nonneg : 0 ≤ day
  day_le : day ≤ 365
  leap : day = 365 → (year + 1) % 4 = 0 ∧ ((year + 1) % 100 ≠ 0 ∨ (year + 1) % 400 = 0)

/-- The days of a cycle that lie before a day of it. -/
def cycleDays (year day : Int) : Int := year * 365 + year / 4 - year / 100 + day

/-- The days of a cycle are counted without a gap. -/
theorem exists_cycleDay {n : Int} (h : 0 ≤ n ∧ n < 146097) :
    ∃ year day, IsCycleDay year day ∧ n = cycleDays year day := by
  unfold cycleDays
  obtain ⟨c, m, hc, hm, hn⟩ : ∃ c m : Int, (0 ≤ c ∧ c < 4) ∧
      (0 ≤ m ∧ m ≤ 36524 ∧ (m = 36524 → c = 3)) ∧ n = 36524 * c + m :=
    ⟨n / 36524 - n / 146096, n - 36524 * (n / 36524 - n / 146096), by omega, by omega, by omega⟩
  obtain ⟨q, k, hq, hk, hmq⟩ : ∃ q k : Int, (0 ≤ q ∧ q < 25) ∧ (0 ≤ k ∧ k ≤ 1460) ∧
      m = 1461 * q + k := ⟨m / 1461, m % 1461, by omega, by omega, by omega⟩
  obtain ⟨r, d, hr, hd, hkr⟩ : ∃ r d : Int, (0 ≤ r ∧ r < 4) ∧
      (0 ≤ d ∧ d ≤ 365 ∧ (d = 365 → r = 3)) ∧ k = 365 * r + d :=
    ⟨k / 365 - k / 1460, k - 365 * (k / 365 - k / 1460), by omega, by omega, by omega⟩
  have hspans : (100 * c + 4 * q + r) / 4 = 25 * c + q := by omega
  have hcenturies : (100 * c + 4 * q + r) / 100 = c := by omega
  exact ⟨100 * c + 4 * q + r, d, ⟨by omega, by omega, by omega, by omega, by omega⟩, by omega⟩

theorem cycleDays_bounds {year day : Int} (h : IsCycleDay year day) :
    0 ≤ cycleDays year day ∧ cycleDays year day < 146097 := by
  obtain ⟨hy, hlt, hd, hle, hleap⟩ := h
  unfold cycleDays
  omega

/-- The year of a cycle is found again from the day of the cycle. -/
theorem yearOfCycle_eq {year day n : Int} (h : IsCycleDay year day) (hn : n = cycleDays year day) :
    (n - n / 1460 + n / 36524 - n / 146096) / 365 = year := by
  obtain ⟨hy, hlt, hd, hle, hleap⟩ := h
  unfold cycleDays at hn
  -- the year by centuries, by spans of four years and by the years of a span
  obtain ⟨c, q, r, hyear, hc, hq, hr⟩ : ∃ c q r : Int, year = 100 * c + 4 * q + r ∧
      (0 ≤ c ∧ c < 4) ∧ (0 ≤ q ∧ q < 25) ∧ 0 ≤ r ∧ r < 4 :=
    ⟨year / 100, year % 100 / 4, year % 4, by omega, by omega, by omega, by omega⟩
  have hlast : day = 365 → r = 3 ∧ (q < 24 ∨ c = 3) := by
    intro h
    have := hleap h
    omega
  have hday : n = 36524 * c + 1461 * q + 365 * r + day := by omega
  have hcentury : n / 36524 - n / 146096 = c := by
    by_cases hlong : 1461 * q + 365 * r + day = 36524
    · have : n = 146096 := by omega
      omega
    · have h1 : n / 36524 = c := by omega
      have h2 : n / 146096 = 0 := by omega
      omega
  have hspan : n / 1460 = 25 * c + q + (24 * c + q + 365 * r + day) / 1460 := by omega
  omega

/-- The year of a date when years begin in March, and its month counted from March. -/
def IsMarchDate (d : Date) (year month : Int) : Prop :=
  2 < d.month ∧ year = d.year ∧ month = d.month - 3 ∨
    d.month ≤ 2 ∧ year = d.year - 1 ∧ month = d.month + 9

/-- The date of a year that begins in March, of a month counted from March and of a day. -/
def ofMarch? (year month day : Int) : Option Date :=
  if month < 10 then ofCivil? year (month + 3).toNat day.toNat
  else ofCivil? (year + 1) (month - 9).toNat day.toNat

theorem ofMarch?_eq_some_iff {year month day : Int} {d : Date} (hm : 0 ≤ month ∧ month < 12) :
    ofMarch? year month day = some d ↔ IsMarchDate d year month ∧ day = d.day := by
  obtain ⟨-, ⟨hm1, hm12⟩, hd1, -⟩ := d.isDay
  unfold ofMarch? IsMarchDate
  split <;> rw [ofCivil?_eq_some_iff] <;> omega

theorem ofDayNumber?_eq {cycle year day n : Int} (h : IsCycleDay year day)
    (hn : n + epochOffset = cycle * 146097 + cycleDays year day) :
    ofDayNumber? n = ofMarch? (year + cycle * 400) ((5 * day + 2) / 153)
      (day - (153 * ((5 * day + 2) / 153) + 2) / 5 + 1) := by
  have hb := cycleDays_bounds h
  have hcycle : (n + epochOffset) / 146097 = cycle := by omega
  have hrest : (n + epochOffset) % 146097 = cycleDays year day := by omega
  have hyear := yearOfCycle_eq h rfl
  have hday : cycleDays year day - (365 * year + year / 4 - year / 100) = day := by
    unfold cycleDays
    omega
  unfold ofDayNumber? ofMarch?
  simp only [hcycle, hrest, hyear, hday]

theorem dayNumber_eq {d : Date} {year month : Int} (h : IsMarchDate d year month) :
    d.dayNumber + epochOffset = year / 400 * 146097 +
      cycleDays (year % 400) ((153 * month + 2) / 5 + d.day - 1) := by
  unfold dayNumber cycleDays
  rcases h with ⟨hm, rfl, rfl⟩ | ⟨hm, rfl, rfl⟩
  · simp only [if_neg (Nat.not_le.2 hm)]
    omega
  · simp only [if_pos hm]
    omega

/-- A month counted from March is found again from the day of the year. -/
theorem monthOfYear_eq {month day : Int} (hd : 1 ≤ day ∧ day ≤ 31)
    (hshort : month % 5 = 1 ∨ month % 5 = 3 → day ≤ 30) :
    (5 * ((153 * month + 2) / 5 + day - 1) + 2) / 153 = month := by
  omega

theorem isLeapYear_iff {year : Int} :
    isLeapYear year = true ↔ year % 4 = 0 ∧ (year % 100 ≠ 0 ∨ year % 400 = 0) := by
  simp [isLeapYear]

/-- How far the days of a month go, by its number. -/
theorem day_bounds (d : Date) : d.day ≤ 31 ∧
    (d.month = 4 ∨ d.month = 6 ∨ d.month = 9 ∨ d.month = 11 → d.day ≤ 30) ∧
    (d.month = 2 → d.day ≤ 29 ∧ (d.day = 29 → isLeapYear d.year = true)) := by
  obtain ⟨-, -, -, hdays⟩ := d.isDay
  unfold daysInMonth at hdays
  split at hdays
  · split at hdays
    · rename_i hleap
      exact ⟨by omega, by omega, fun _ => ⟨hdays, fun _ => hleap⟩⟩
    · exact ⟨by omega, by omega, fun _ => ⟨by omega, by omega⟩⟩
  · split at hdays
    · exact ⟨by omega, by omega, by omega⟩
    · exact ⟨by omega, by omega, by omega⟩

/-- The count of a date names it. -/
theorem ofDayNumber?_dayNumber (d : Date) : ofDayNumber? d.dayNumber = some d := by
  obtain ⟨-, ⟨hm1, hm12⟩, hd1, -⟩ := d.isDay
  obtain ⟨h31, h30, h29⟩ := d.day_bounds
  obtain ⟨year, month, hmarch⟩ : ∃ year month, IsMarchDate d year month := by
    by_cases hm : 2 < d.month
    · exact ⟨_, _, Or.inl ⟨hm, rfl, rfl⟩⟩
    · exact ⟨_, _, Or.inr ⟨by omega, rfl, rfl⟩⟩
  have hnumber := dayNumber_eq hmarch
  have hparts := hmarch
  unfold IsMarchDate at hparts
  have hmonth : (5 * ((153 * month + 2) / 5 + (d.day : Int) - 1) + 2) / 153 = month :=
    monthOfYear_eq (by omega) (by omega)
  have hcycle : IsCycleDay (year % 400) ((153 * month + 2) / 5 + d.day - 1) := by
    refine ⟨by omega, by omega, by omega, by omega, fun hlast => ?_⟩
    have hfebruary : d.month = 2 ∧ d.day = 29 := by omega
    have hleap := isLeapYear_iff.1 ((h29 hfebruary.1).2 hfebruary.2)
    omega
  have hyear : year % 400 + year / 400 * 400 = year := by omega
  rw [ofDayNumber?_eq hcycle hnumber, hmonth, hyear]
  exact (ofMarch?_eq_some_iff (by omega)).2 ⟨hmarch, by omega⟩

/-- The date of a count has this count. -/
theorem dayNumber_of_ofDayNumber? {n : Int} {d : Date} (h : ofDayNumber? n = some d) :
    d.dayNumber = n := by
  obtain ⟨year, day, hcycle, hn⟩ := exists_cycleDay (n := (n + epochOffset) % 146097) (by omega)
  have hsum : n + epochOffset = (n + epochOffset) / 146097 * 146097 + cycleDays year day := by omega
  have hday := hcycle.day_nonneg
  have hle := hcycle.day_le
  rw [ofDayNumber?_eq hcycle hsum] at h
  obtain ⟨hmarch, hd⟩ := (ofMarch?_eq_some_iff (by omega)).1 h
  have hnumber := dayNumber_eq hmarch
  have hcount : (153 * ((5 * day + 2) / 153) + 2) / 5 + (d.day : Int) - 1 = day := by omega
  have hyear : (year + (n + epochOffset) / 146097 * 400) % 400 = year := by
    have := hcycle.year_nonneg
    have := hcycle.year_lt
    omega
  have hcycles : (year + (n + epochOffset) / 146097 * 400) / 400 = (n + epochOffset) / 146097 := by
    omega
  rw [hcount, hyear, hcycles] at hnumber
  omega

/-- **A date is named by its count**, and a count by its date. -/
theorem ofDayNumber?_eq_some_iff {n : Int} {d : Date} :
    ofDayNumber? n = some d ↔ d.dayNumber = n :=
  ⟨dayNumber_of_ofDayNumber?, fun h => h ▸ ofDayNumber?_dayNumber d⟩

end Date

/-! ## 2. Seconds -/

namespace Instant

theorem eq_of_parts_eq : ∀ {t u : Instant}, t.date = u.date → t.second = u.second →
    t.nanos = u.nanos → t = u
  | ⟨_, _, _, _, _⟩, ⟨_, _, _, _, _⟩, rfl, rfl, rfl => rfl

/-- **An instant is named by its count of seconds and its nanoseconds**, and these by the instant,
    if it has no leap second out of place. -/
theorem ofUnix?_eq_some_iff {seconds : Int} {nanos : Nat} {t : Instant} :
    ofUnix? seconds nanos = some t ↔
      t.unixSeconds = seconds ∧ t.nanos = nanos ∧ LeapInPlace t.second t.nanos := by
  have hinDay := t.inDay
  have hday : t.unixSeconds = seconds ↔
      t.date.dayNumber = seconds / 86400 ∧ t.second = (seconds % 86400).toNat := by
    unfold unixSeconds
    omega
  rw [hday, ← Date.ofDayNumber?_eq_some_iff]
  unfold ofUnix?
  cases hd : Date.ofDayNumber? (seconds / 86400) with
  | none => exact ⟨nofun, fun h => nomatch h.1.1⟩
  | some date =>
    constructor
    · intro h
      simp only at h
      split at h
      · rename_i hplace
        cases h
        exact ⟨⟨rfl, rfl⟩, rfl, hplace.2⟩
      · cases h
    · intro h
      obtain ⟨⟨hdate, hsecond⟩, rfl, hplace⟩ := h
      rw [hsecond] at hplace
      refine (dif_pos ⟨t.nanos_lt, hplace⟩).trans (congrArg some ?_)
      exact eq_of_parts_eq (Option.some.inj hdate) hsecond.symm rfl

end Instant

end Countersign.Calendar
