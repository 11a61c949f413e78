import Countersign.Proofs.Calendar.Reading

/-!
# The basic form of timestamps

A timestamp in basic form, `yyyyMMddTHHmmssZ`, has four digits of year and two of every other
number, and it names an existing day and a time of it (`IsBasicForm`).

* `readChars?_of_isNumerals`, `writtenPieces_eq` -- such a text is read, and written again for the
  instant that was read;
* `readChars?_instantChars_of_signed` -- an instant whose year needs a sign is written, but what is
  written is not read;
* `isBasicForm_iff` -- so the basic form is what is read and written back the same;
* `parse?_format` -- an instant of the years 0 to 9999 that is written is read again as what is
  shown of it.
-/

namespace Countersign.Calendar.Timestamp

/-! ## 1. Numerals as pieces -/

/-- Every piece has the digits that the basic form gives it. -/
structure Pieces.IsNumerals (p : Pieces) : Prop where
  year : IsNumeral 4 p.year
  month : IsNumeral 2 p.month
  day : IsNumeral 2 p.day
  hour : IsNumeral 2 p.hour
  minute : IsNumeral 2 p.minute
  second : IsNumeral 2 p.second

/-- The numbers whose digits the pieces are. -/
def Pieces.numbers (p : Pieces) : Numbers :=
  ⟨valueOf p.year, valueOf p.month, valueOf p.day, valueOf p.hour, valueOf p.minute,
    valueOf p.second⟩

theorem IsNumeral.isNumber {width : Nat} {digits : List Char} (hw : 0 < width)
    (h : IsNumeral width digits) (rest : List Char) :
    IsNumber width digits rest (valueOf digits) := by
  have hlength := h.length_eq
  refine ⟨h.isDigit, ?_, by omega, by omega, rfl⟩
  intro hnil
  rw [hnil, List.length_nil] at hlength
  omega

theorem indented_of {p : List Char → Prop} {cs : List Char} (h : p cs) : Indented p cs :=
  ⟨[], cs, rfl, nofun, h⟩

theorem Pieces.IsNumerals.spell {p : Pieces} (h : p.IsNumerals) : p.Spell p.numbers where
  year := indented_of (.plain (h.year.isNumber (by decide) _))
  month := indented_of (h.month.isNumber (by decide) _)
  day := indented_of (h.day.isNumber (by decide) _)
  hour := indented_of (h.hour.isNumber (by decide) _)
  minute := indented_of (h.minute.isNumber (by decide) _)
  second := indented_of (h.second.isNumber (by decide) _)

/-- Numerals are read as their values. -/
theorem readChars?_of_isNumerals {p : Pieces} {t : Instant} (h : p.IsNumerals)
    (ht : p.numbers.instant? = some t) : readChars? p.chars = some t :=
  readChars?_eq_some_iff.2 ⟨p, p.numbers, rfl, h.spell, ht⟩

/-! ## 2. Written instants -/

/-- The pieces that are written for an instant. -/
def writtenPieces (t : Instant) : Pieces :=
  ⟨year t.date.year, padded 2 t.date.month, padded 2 t.date.day, padded 2 t.hour,
    padded 2 t.minute, padded 2 t.shownSecond⟩

theorem instantChars_eq (t : Instant) : instantChars t = (writtenPieces t).chars := by
  simp [instantChars, dateChars, writtenPieces, Pieces.chars]

theorem year_eq_padded {y : Int} (h : 0 ≤ y ∧ y ≤ 9999) : year y = padded 4 y.toNat := if_pos h

theorem month_lt (d : Date) : d.month < 100 := by
  obtain ⟨-, ⟨-, hm⟩, -⟩ := d.isDay
  omega

theorem day_lt (d : Date) : d.day < 100 := by
  have := d.day_bounds
  omega

theorem isNumerals_writtenPieces {t : Instant} (h : 0 ≤ t.date.year ∧ t.date.year ≤ 9999) :
    (writtenPieces t).IsNumerals := by
  have hh := t.hour_lt
  have hm := t.minute_lt
  have hs := t.shownSecond_le
  have hyear : IsNumeral 4 (year t.date.year) := by
    rw [year_eq_padded h]
    exact isNumeral_padded (by decide) (by omega)
  exact ⟨hyear, isNumeral_padded (by decide) (month_lt _), isNumeral_padded (by decide) (day_lt _),
    isNumeral_padded (by decide) (by omega), isNumeral_padded (by decide) (by omega),
    isNumeral_padded (by decide) (by omega)⟩

theorem numbers_writtenPieces {t : Instant} (h : 0 ≤ t.date.year ∧ t.date.year ≤ 9999) :
    (writtenPieces t).numbers = numbersOf t := by
  have hyear : (valueOf (year t.date.year) : Int) = t.date.year := by
    rw [year_eq_padded h, valueOf_padded]
    omega
  unfold Pieces.numbers numbersOf writtenPieces
  simp only [hyear, valueOf_padded]

/-- Numerals are what is written for the instant that shows their values. -/
theorem writtenPieces_eq {p : Pieces} {t : Instant} (h : p.IsNumerals)
    (ht : p.numbers.instant? = some t) : writtenPieces t = p := by
  obtain ⟨-, hnumbers⟩ := Numbers.instant?_eq_some_iff.1 ht
  obtain ⟨hy, hmo, hd, hh, hmi, hs⟩ := Numbers.mk.inj hnumbers
  have hlt := valueOf_lt h.year.isDigit
  rw [h.year.length_eq] at hlt
  have hyear : year t.date.year = p.year := by
    rw [year_eq_padded (by omega), hy, Int.toNat_natCast, padded_valueOf (by decide) h.year]
  unfold writtenPieces
  rw [hyear, hmo, hd, hh, hmi, hs, padded_valueOf (by decide) h.month,
    padded_valueOf (by decide) h.day, padded_valueOf (by decide) h.hour,
    padded_valueOf (by decide) h.minute, padded_valueOf (by decide) h.second]

/-! ## 3. Years that need a sign -/

/-- Where the year takes all digits up to the letter before the time, no month is left. -/
theorem readChars?_of_readYear? {y : Int} {cs rest : List Char}
    (h : readYear? cs = some (y, 'T' :: rest)) : readChars? cs = none := by
  unfold readChars?
  rw [h]
  rfl

/-- A signed year is written without an end, so that it takes the digits of the month and the day
    when it is read. -/
theorem readChars?_instantChars_of_signed {t : Instant}
    (h : ¬ (0 ≤ t.date.year ∧ t.date.year ≤ 9999)) : readChars? (instantChars t) = none := by
  let digits := padded 4 t.date.year.natAbs ++ (padded 2 t.date.month ++ padded 2 t.date.day)
  let time := padded 2 t.hour ++ (padded 2 t.minute ++ (padded 2 t.shownSecond ++ ['Z']))
  have hdigit : ∀ c ∈ digits, c.isDigit = true := by
    intro c hc
    rcases List.mem_append.1 hc with hc | hc
    · exact isDigit_of_mem_padded hc
    · rcases List.mem_append.1 hc with hc | hc
      · exact isDigit_of_mem_padded hc
      · exact isDigit_of_mem_padded hc
  have hday : padded 2 t.date.day ≠ [] :=
    ((isNumeral_padded (by decide) (day_lt _)).isNumber (by decide) []).ne_nil
  have hne : digits ≠ [] :=
    List.append_ne_nil_of_right_ne_nil _ (List.append_ne_nil_of_right_ne_nil _ hday)
  have hend : NoDigitFirst ('T' :: time) := by
    intro c hc
    cases hc
    decide
  have hnumber : IsNumber digits.length digits ('T' :: time) (valueOf digits) :=
    ⟨hdigit, hne, Nat.le_refl _, fun h => absurd h (Nat.lt_irrefl _), rfl⟩
  -- only the sign is not the same before 0 and after 9999
  by_cases hneg : t.date.year < 0
  · have hchars : instantChars t = ('-' :: digits) ++ 'T' :: time := by
      simp [instantChars, dateChars, year, h, hneg, digits, time]
    rw [hchars]
    exact readChars?_of_readYear?
      (readYear?_eq_some_iff.2 ⟨_, rfl, indented_of (.minus hend hnumber)⟩)
  · have hchars : instantChars t = ('+' :: digits) ++ 'T' :: time := by
      simp [instantChars, dateChars, year, h, hneg, digits, time]
    rw [hchars]
    exact readChars?_of_readYear?
      (readYear?_eq_some_iff.2 ⟨_, rfl, indented_of (.plus hend hnumber)⟩)

/-! ## 4. The basic form -/

/-- The text is in basic form: four digits of year and two of each other number, with `T` before the
    time and `Z` behind it, of an existing day and a time of it. -/
def IsBasicForm (s : String) : Prop :=
  ∃ p : Pieces, s.toList = p.chars ∧ p.IsNumerals ∧ p.numbers.Legal

theorem IsBasicForm.length_eq {s : String} (h : IsBasicForm s) : s.toList.length = 16 := by
  obtain ⟨p, hs, hp, -⟩ := h
  rw [hs]
  unfold Pieces.chars
  simp only [List.length_append, List.length_cons, List.length_nil, hp.year.length_eq,
    hp.month.length_eq, hp.day.length_eq, hp.hour.length_eq, hp.minute.length_eq,
    hp.second.length_eq]

/-- **The texts in basic form are those that are read and written back the same.** -/
theorem isBasicForm_iff {s : String} :
    IsBasicForm s ↔ ∃ t, parse? s = some t ∧ format t = s := by
  constructor
  · intro h
    obtain ⟨p, hs, hp, hlegal⟩ := h
    obtain ⟨t, ht⟩ := hlegal.exists_instant?
    refine ⟨t, ?_, ?_⟩
    · unfold parse?
      rw [hs]
      exact readChars?_of_isNumerals hp ht
    · unfold format
      rw [instantChars_eq, writtenPieces_eq hp ht, ← hs, String.ofList_toList]
  · intro h
    obtain ⟨t, ht, rfl⟩ := h
    unfold parse? at ht
    rw [toList_format] at ht
    have hyear : 0 ≤ t.date.year ∧ t.date.year ≤ 9999 := by
      by_contra hsigned
      rw [readChars?_instantChars_of_signed hsigned] at ht
      cases ht
    have hlegal := legal_numbersOf t
    rw [← numbers_writtenPieces hyear] at hlegal
    refine ⟨writtenPieces t, ?_, isNumerals_writtenPieces hyear, hlegal⟩
    rw [toList_format, instantChars_eq]

/-! ## 5. Writing and reading again -/

/-- The count of the seconds, with a whole leap second or none, names an instant without its part of
    a second. -/
theorem ofUnix?_whole {t : Instant} (h : LeapInPlace t.second t.nanos) :
    Instant.ofUnix? t.unixSeconds (if t.nanos < nanosPerSecond then 0 else nanosPerSecond) =
      some t.whole := by
  refine Instant.ofUnix?_eq_some_iff.2 ⟨rfl, ?_, Instant.leapInPlace_whole h⟩
  rcases t.shownSecond_cases with ⟨hlt, -, hnanos⟩ | ⟨hle, -, hnanos⟩
  · rw [if_pos hlt, hnanos]
  · rw [if_neg (Nat.not_lt.2 hle), hnanos]

/-- The count of the next second names what is shown of a leap second out of place. -/
theorem ofUnix?_next {t : Instant} (h : ¬ LeapInPlace t.second t.nanos) :
    Instant.ofUnix? (t.unixSeconds + 1) 0 = some t.shown := by
  obtain ⟨hdate, hsecond, hnanos⟩ := Instant.shown_parts_of_not h
  refine Instant.ofUnix?_eq_some_iff.2 ⟨?_, hnanos, ?_⟩
  · unfold Instant.unixSeconds
    rw [hdate, hsecond]
    omega
  · rw [hnanos]
    exact Or.inl nanosPerSecond_pos

/-- What is written of an instant of the years 0 to 9999 is read as what is shown of it. -/
theorem parse?_format_eq_shown {t : Instant} (h : 0 ≤ t.date.year ∧ t.date.year ≤ 9999) :
    parse? (format t) = some t.shown := by
  have hinstant : (writtenPieces t).numbers.instant? = some t.shown := by
    rw [numbers_writtenPieces h]
    exact instant?_numbersOf t
  unfold parse?
  rw [toList_format, instantChars_eq]
  exact readChars?_of_isNumerals (isNumerals_writtenPieces h) hinstant

/-- **An instant of the years 0 to 9999 that is written is read again**, and without its part of a
    second just where it is in no leap second out of place: then it has the same count of seconds,
    and a leap second is read as one. A leap second out of place is read as the second behind it. -/
theorem parse?_format {t : Instant} (h : 0 ≤ t.date.year ∧ t.date.year ≤ 9999) :
    ∃ read, parse? (format t) = some read ∧
      (read = t.whole ↔ LeapInPlace t.second t.nanos) ∧
      (LeapInPlace t.second t.nanos → Instant.ofUnix? t.unixSeconds
        (if t.nanos < nanosPerSecond then 0 else nanosPerSecond) = some read) ∧
      (¬ LeapInPlace t.second t.nanos → Instant.ofUnix? (t.unixSeconds + 1) 0 = some read) := by
  refine ⟨t.shown, parse?_format_eq_shown h, Instant.shown_eq_whole_iff, fun hplace => ?_,
    ofUnix?_next⟩
  rw [Instant.shown_of_leapInPlace hplace]
  exact ofUnix?_whole hplace

/-- The middle of a leap second long before 1970. -/
theorem parse?_format_leap : ∃ t : Instant, t.unixSeconds = -2208988801 ∧ t.nanos = 1500000000 ∧
    parse? "18991231T235960Z" = some t.whole ∧
      Instant.ofUnix? (-2208988801) nanosPerSecond = some t.whole := by
  let t : Instant := ⟨⟨1899, 12, 31, by decide⟩, 86399, 1500000000, by decide, by decide⟩
  have hformat : format t = "18991231T235960Z" := by decide
  have hcount : t.unixSeconds = -2208988801 := by decide
  have hleap : ¬ t.nanos < nanosPerSecond := by decide
  have hplace : LeapInPlace t.second t.nanos := by decide
  obtain ⟨read, hparse, hwhole, hunix, -⟩ := parse?_format (t := t) (by decide)
  obtain rfl := hwhole.2 hplace
  have hcounted := hunix hplace
  rw [hformat] at hparse
  rw [hcount, if_neg hleap] at hcounted
  exact ⟨t, hcount, rfl, hparse, hcounted⟩

/-- Not every instant is read again whole: a leap second behind the fourth second of a minute is
    written, and read, as the fifth. -/
theorem parse?_format_misplaced : ¬ ∀ t : Instant, 0 ≤ t.date.year ∧ t.date.year ≤ 9999 →
    parse? (format t) = some t.whole := by
  intro h
  let t : Instant := ⟨⟨2015, 7, 8, by decide⟩, 86164, 1333333333, by decide, by decide⟩
  have hformat : format t = "20150708T235605Z" := by decide
  have hread : parse? "20150708T235605Z" =
      some ⟨⟨2015, 7, 8, by decide⟩, 86165, 0, by decide, by decide⟩ := by decide
  have hwhole := h t (by decide)
  rw [hformat, hread] at hwhole
  exact absurd hwhole (by decide)

end Countersign.Calendar.Timestamp
