import Countersign.Proofs.Calendar.DayNumber
import Countersign.Proofs.Calendar.Numeral
import Countersign.Proofs.Text.Trim

/-!
# How timestamps are read

Reading is taken apart into what each reader accepts, and put together to what a timestamp is read
from: the texts of six numbers (`Pieces`) that spell them (`Pieces.Spell`).

* `atMost?_eq_some_iff`, `digits?_eq_some_iff` -- a number is read from the digits at the start, as
  many as there are up to the bound;
* `readPair?_eq_some_iff`, `readYear?_eq_some_iff` -- blanks may stand before a number, and a sign
  before a year;
* `Instant.ofShown?_eq_some_iff`, `Numbers.instant?_eq_some_iff` -- the six numbers name the instant
  that shows them and has no part of a second and no leap second out of place;
* `Instant.shown`, `instant?_numbersOf` -- what is shown of any instant, and that the numbers which
  it shows name that;
* `readChars?_eq_some_iff`, `parse?_eq_some_iff` -- the pieces of a timestamp.
-/

namespace Countersign.Calendar.Timestamp

open Countersign.Text

/-! ## 1. Numbers -/

/-- No digit stands at the start. -/
def NoDigitFirst (rest : List Char) : Prop := ∀ c, rest.head? = some c → c.isDigit = false

/-- The digits of a number before `rest`: at most `most` of them, and as many as there are. -/
structure IsNumber (most : Nat) (digits rest : List Char) (n : Nat) : Prop where
  isDigit : ∀ c ∈ digits, c.isDigit = true
  ne_nil : digits ≠ []
  length_le : digits.length ≤ most
  longest : digits.length < most → NoDigitFirst rest
  value : valueOf digits = n

/-- Digits as far as the bound, and whether there are more. -/
theorem takeWhile_take_append {most : Nat} {digits rest : List Char}
    (hd : ∀ c ∈ digits, c.isDigit = true) (hl : digits.length ≤ most) :
    ((digits ++ rest).take most).takeWhile Char.isDigit =
      digits ++ (rest.take (most - digits.length)).takeWhile Char.isDigit := by
  rw [List.take_append, List.take_of_length_le hl, List.takeWhile_append_of_pos hd]

theorem takeWhile_take_eq_nil_iff {k : Nat} {rest : List Char} :
    (rest.take k).takeWhile Char.isDigit = [] ↔ (0 < k → NoDigitFirst rest) := by
  unfold NoDigitFirst
  cases k with
  | zero => simp
  | succ k =>
    cases rest with
    | nil => simp
    | cons c cs => simp [List.takeWhile_cons]

theorem atMost?_eq (most : Nat) (cs : List Char) :
    let digits := (cs.take most).takeWhile Char.isDigit
    atMost? most cs =
      if digits = [] then none else some (valueOf digits, cs.drop digits.length) := by
  unfold atMost?
  cases (cs.take most).takeWhile Char.isDigit with
  | nil => rfl
  | cons d ds => rfl

/-- **What a number is read from**: the digits at the start, as far as the bound. -/
theorem atMost?_eq_some_iff {most n : Nat} {cs rest : List Char} :
    atMost? most cs = some (n, rest) ↔
      ∃ digits, cs = digits ++ rest ∧ IsNumber most digits rest n := by
  rw [atMost?_eq]
  constructor
  · intro h
    generalize hds : (cs.take most).takeWhile Char.isDigit = digits at h
    split at h
    · cases h
    · rename_i hne
      obtain ⟨hvalue, hrest⟩ := Prod.mk.inj (Option.some.inj h)
      have hbegin : digits <+: cs.take most := hds ▸ List.takeWhile_prefix _
      have hd : ∀ c ∈ digits, c.isDigit = true :=
        hds ▸ List.all_eq_true.1 List.all_takeWhile
      have hlen : digits.length ≤ most := by
        have hle := hbegin.length_le
        rw [List.length_take] at hle
        omega
      have hcs : cs = digits ++ rest := by
        rw [← hrest]
        exact (List.prefix_iff_eq_append.1 (hbegin.trans (List.take_prefix _ _))).symm
      -- no digit is left where more could have been taken
      have hmore : (rest.take (most - digits.length)).takeWhile Char.isDigit = [] := by
        rw [hcs, takeWhile_take_append hd hlen] at hds
        exact List.append_right_eq_self.1 hds
      exact ⟨digits, hcs, hd, hne, hlen, fun hlt => takeWhile_take_eq_nil_iff.1 hmore (by omega),
        hvalue⟩
  · intro h
    obtain ⟨digits, rfl, hd, hne, hlen, hlongest, rfl⟩ := h
    have hmore : (rest.take (most - digits.length)).takeWhile Char.isDigit = [] :=
      takeWhile_take_eq_nil_iff.2 fun hpos => hlongest (by omega)
    rw [takeWhile_take_append hd hlen, hmore, List.append_nil, if_neg hne, List.drop_left]

theorem digits?_eq (cs : List Char) : digits? cs = atMost? cs.length cs := by
  have hdrop : cs.drop (cs.takeWhile Char.isDigit).length = cs.dropWhile Char.isDigit := by
    have hcs := @List.takeWhile_append_dropWhile _ Char.isDigit cs
    generalize cs.takeWhile Char.isDigit = ds at hcs ⊢
    generalize cs.dropWhile Char.isDigit = es at hcs ⊢
    rw [← hcs, List.drop_left]
  rw [atMost?_eq, List.take_length]
  simp only [hdrop]
  unfold digits?
  cases cs.takeWhile Char.isDigit with
  | nil => rfl
  | cons d ds => rfl

/-- A number without a bound takes all digits there are. -/
theorem digits?_eq_some_iff {n : Nat} {cs rest : List Char} :
    digits? cs = some (n, rest) ↔
      ∃ digits, cs = digits ++ rest ∧ NoDigitFirst rest ∧ IsNumber digits.length digits rest n := by
  rw [digits?_eq, atMost?_eq_some_iff]
  constructor
  · intro h
    obtain ⟨digits, rfl, hd, hne, hlen, hlongest, hvalue⟩ := h
    refine ⟨digits, rfl, ?_, hd, hne, Nat.le_refl _, fun h => absurd h (Nat.lt_irrefl _), hvalue⟩
    cases rest with
    | nil => exact fun c hc => nomatch hc
    | cons c cs => exact hlongest (by simp)
  · intro h
    obtain ⟨digits, rfl, hfirst, hd, hne, -, -, hvalue⟩ := h
    exact ⟨digits, rfl, hd, hne, by simp, fun _ => hfirst, hvalue⟩

/-! ## 2. Blanks before a number -/

/-- Blanks, and behind them characters of which `p` holds. -/
def Indented (p : List Char → Prop) (field : List Char) : Prop :=
  ∃ blanks cs, field = blanks ++ cs ∧ (∀ c ∈ blanks, isBlank c = true) ∧ p cs

theorem not_isBlank_of_isDigit {c : Char} (h : c.isDigit = true) : isBlank c = false := by
  have hb := digit_bounds h
  exact isBlank_eq_false_of_bounds (by omega) (by omega)

/-- What is read from an indented field that is not itself blank. -/
theorem exists_trimStart_iff {p : List Char → Prop} {cs rest : List Char}
    (hp : ∀ ds, p ds → ds ≠ [] ∧ ∀ c, ds.head? = some c → isBlank c = false) :
    (∃ ds, trimStart cs = ds ++ rest ∧ p ds) ↔ ∃ field, cs = field ++ rest ∧ Indented p field := by
  constructor
  · intro h
    obtain ⟨ds, hds, hpd⟩ := h
    obtain ⟨⟨blanks, hcs, hb⟩, -⟩ := trimStart_eq_iff.1 hds
    exact ⟨blanks ++ ds, by rw [hcs, List.append_assoc], blanks, ds, rfl, hb, hpd⟩
  · intro h
    obtain ⟨field, rfl, blanks, ds, rfl, hb, hpd⟩ := h
    obtain ⟨hne, hfirst⟩ := hp ds hpd
    obtain ⟨d, ds', rfl⟩ := List.exists_cons_of_ne_nil hne
    exact ⟨_, trimStart_eq_iff.2 ⟨⟨blanks, List.append_assoc _ _ _, hb⟩, hfirst⟩, hpd⟩

theorem IsNumber.first {most n : Nat} {digits rest : List Char} (h : IsNumber most digits rest n) :
    digits ≠ [] ∧ ∀ c, digits.head? = some c → isBlank c = false :=
  ⟨h.ne_nil, fun c hc => not_isBlank_of_isDigit (h.isDigit c (List.mem_of_head? hc))⟩

theorem readPair?_eq_some_iff {n : Nat} {cs rest : List Char} :
    readPair? cs = some (n, rest) ↔
      ∃ field, cs = field ++ rest ∧ Indented (IsNumber 2 · rest n) field := by
  unfold readPair?
  rw [atMost?_eq_some_iff]
  exact exists_trimStart_iff fun ds h => h.first

/-- The characters of a year before `rest`: four digits at most, or a sign and digits without
    bound. -/
inductive IsYear (rest : List Char) : List Char → Int → Prop
  | plain {digits : List Char} {n : Nat} (h : IsNumber 4 digits rest n) : IsYear rest digits n
  | plus {digits : List Char} {n : Nat} (hr : NoDigitFirst rest)
      (h : IsNumber digits.length digits rest n) : IsYear rest ('+' :: digits) n
  | minus {digits : List Char} {n : Nat} (hr : NoDigitFirst rest)
      (h : IsNumber digits.length digits rest n) : IsYear rest ('-' :: digits) (-n)

theorem IsYear.first {rest ys : List Char} {y : Int} (h : IsYear rest ys y) :
    ys ≠ [] ∧ ∀ c, ys.head? = some c → isBlank c = false := by
  cases h with
  | plain h => exact h.first
  | plus hr h => exact ⟨List.cons_ne_nil _ _, fun c hc => by cases hc; decide⟩
  | minus hr h => exact ⟨List.cons_ne_nil _ _, fun c hc => by cases hc; decide⟩

theorem readYear?_eq_some_iff {y : Int} {cs rest : List Char} :
    readYear? cs = some (y, rest) ↔
      ∃ field, cs = field ++ rest ∧ Indented (IsYear rest · y) field := by
  rw [← exists_trimStart_iff fun ds h => h.first]
  unfold readYear?
  constructor
  · intro h
    split at h
    · rename_i tail htail
      obtain ⟨⟨n, rest'⟩, hn, hr⟩ := Option.map_eq_some_iff.1 h
      cases hr
      obtain ⟨digits, rfl, hfirst, hnum⟩ := digits?_eq_some_iff.1 hn
      exact ⟨_, htail, .minus hfirst hnum⟩
    · rename_i tail htail
      obtain ⟨⟨n, rest'⟩, hn, hr⟩ := Option.map_eq_some_iff.1 h
      cases hr
      obtain ⟨digits, rfl, hfirst, hnum⟩ := digits?_eq_some_iff.1 hn
      exact ⟨_, htail, .plus hfirst hnum⟩
    · obtain ⟨⟨n, rest'⟩, hn, hr⟩ := Option.map_eq_some_iff.1 h
      cases hr
      obtain ⟨digits, hd, hnum⟩ := atMost?_eq_some_iff.1 hn
      exact ⟨digits, hd, .plain hnum⟩
  · intro h
    obtain ⟨ds, hds, hyear⟩ := h
    rw [hds]
    cases hyear with
    | plain hnum =>
      -- the first digit is neither of the signs
      obtain ⟨d, ds', rfl⟩ := List.exists_cons_of_ne_nil hnum.ne_nil
      have hd := digit_bounds (hnum.isDigit d List.mem_cons_self)
      have hread := atMost?_eq_some_iff.2 ⟨_, rfl, hnum⟩
      split
      · rename_i heq
        cases heq
        exact absurd hd (by decide)
      · rename_i heq
        cases heq
        exact absurd hd (by decide)
      · rw [hread]
        rfl
    | @plus digits n hfirst hnum =>
      have hread := digits?_eq_some_iff.2 ⟨digits, rfl, hfirst, hnum⟩
      show (digits? (digits ++ rest)).map _ = _
      rw [hread]
      rfl
    | @minus digits n hfirst hnum =>
      have hread := digits?_eq_some_iff.2 ⟨digits, rfl, hfirst, hnum⟩
      show (digits? (digits ++ rest)).map _ = _
      rw [hread]
      rfl

end Countersign.Calendar.Timestamp

/-! ## 3. The time of the day -/

namespace Countersign.Calendar.Instant

theorem second_eq (t : Instant) : t.second = 3600 * t.hour + 60 * t.minute + t.second % 60 := by
  unfold hour minute
  omega

theorem hour_lt (t : Instant) : t.hour < 24 := by
  have := t.inDay
  unfold hour
  omega

theorem minute_lt (t : Instant) : t.minute < 60 := Nat.mod_lt _ (by decide)

/-- The nanoseconds have not come to a leap second, or they are those of one. -/
theorem shownSecond_cases (t : Instant) :
    t.nanos < nanosPerSecond ∧ t.shownSecond = t.second % 60 ∧ t.whole.nanos = 0 ∨
      nanosPerSecond ≤ t.nanos ∧ t.shownSecond = t.second % 60 + 1 ∧
        t.whole.nanos = nanosPerSecond := by
  by_cases hn : t.nanos < nanosPerSecond
  · have hdiv : t.nanos / nanosPerSecond = 0 := Nat.div_eq_of_lt hn
    refine Or.inl ⟨hn, ?_, ?_⟩
    · unfold shownSecond
      rw [hdiv, Nat.add_zero]
    · show t.nanos / nanosPerSecond * nanosPerSecond = 0
      rw [hdiv, Nat.zero_mul]
  · have hlt := t.nanos_lt
    have hdiv : t.nanos / nanosPerSecond = 1 :=
      Nat.div_eq_of_lt_le (by omega) (by omega)
    refine Or.inr ⟨Nat.not_lt.1 hn, ?_, ?_⟩
    · unfold shownSecond
      rw [hdiv]
    · show t.nanos / nanosPerSecond * nanosPerSecond = nanosPerSecond
      rw [hdiv, Nat.one_mul]

theorem shownSecond_le (t : Instant) : t.shownSecond ≤ 60 := by
  have hcases := t.shownSecond_cases
  omega

/-- An instant is named by the date and the time that it shows, if it has no part of a second and no
    leap second out of place. -/
theorem ofShown?_self {t : Instant} (hwhole : t.whole = t)
    (hplace : LeapInPlace t.second t.nanos) :
    ofShown? t.date t.hour t.minute t.shownSecond = some t := by
  have hsecond := t.second_eq
  have hhour := t.hour_lt
  have hminute := t.minute_lt
  unfold ofShown?
  rcases t.shownSecond_cases with ⟨-, hshown, hnanos⟩ | ⟨hleap, hshown, hnanos⟩
  · rw [hwhole] at hnanos
    have hlt : t.hour < 24 ∧ t.minute < 60 ∧ t.shownSecond < 60 := by omega
    have hcount : 3600 * t.hour + 60 * t.minute + t.shownSecond = t.second := by omega
    rw [dif_pos hlt, Option.some.injEq]
    exact eq_of_parts_eq rfl hcount hnanos.symm
  · rw [hwhole] at hnanos
    have h59 := hplace.resolve_left (Nat.not_lt.2 hleap)
    have hle : ¬ (t.hour < 24 ∧ t.minute < 60 ∧ t.shownSecond < 60) := by omega
    have hsixty : t.hour < 24 ∧ t.minute < 60 ∧ t.shownSecond = 60 := by omega
    have hcount : 3600 * t.hour + 60 * t.minute + 59 = t.second := by omega
    rw [dif_neg hle, dif_pos hsixty, Option.some.injEq]
    exact eq_of_parts_eq rfl hcount hnanos.symm

/-- **The instant of a date and a time that is shown** is the one that shows it and has no part of
    a second and no leap second out of place. -/
theorem ofShown?_eq_some_iff {date : Date} {hour minute second : Nat} {t : Instant} :
    ofShown? date hour minute second = some t ↔
      (t.whole = t ∧ LeapInPlace t.second t.nanos) ∧ t.date = date ∧ t.hour = hour ∧
        t.minute = minute ∧ t.shownSecond = second := by
  constructor
  · intro h
    unfold ofShown? at h
    split at h
    · rename_i hlt
      cases h
      have hwhole : 0 / nanosPerSecond * nanosPerSecond = 0 := by decide
      have hhour : (3600 * hour + 60 * minute + second) / 3600 = hour := by omega
      have hminute : (3600 * hour + 60 * minute + second) / 60 % 60 = minute := by omega
      have hsecond : (3600 * hour + 60 * minute + second) % 60 + 0 / nanosPerSecond = second := by
        rw [Nat.zero_div]
        omega
      exact ⟨⟨eq_of_parts_eq rfl rfl hwhole, .inl nanosPerSecond_pos⟩, rfl, hhour, hminute, hsecond⟩
    · split at h
      · rename_i hlt
        cases h
        have hwhole : nanosPerSecond / nanosPerSecond * nanosPerSecond = nanosPerSecond := by decide
        have hhour : (3600 * hour + 60 * minute + 59) / 3600 = hour := by omega
        have hminute : (3600 * hour + 60 * minute + 59) / 60 % 60 = minute := by omega
        have hsecond : (3600 * hour + 60 * minute + 59) % 60 + nanosPerSecond / nanosPerSecond =
            second := by
          rw [Nat.div_self (by decide)]
          omega
        have h59 : (3600 * hour + 60 * minute + 59) % 60 = 59 := by omega
        exact ⟨⟨eq_of_parts_eq rfl rfl hwhole, .inr h59⟩, rfl, hhour, hminute, hsecond⟩
      · cases h
  · intro h
    obtain ⟨⟨hwhole, hplace⟩, rfl, rfl, rfl, rfl⟩ := h
    exact ofShown?_self hwhole hplace

/-- There is such an instant for every hour and minute, and 60 seconds or fewer. -/
theorem exists_ofShown? {date : Date} {hour minute second : Nat} (hh : hour < 24)
    (hm : minute < 60) (hs : second ≤ 60) : ∃ t, ofShown? date hour minute second = some t := by
  unfold ofShown?
  split
  · exact ⟨_, rfl⟩
  · split
    · exact ⟨_, rfl⟩
    · omega

theorem whole_whole (t : Instant) : t.whole.whole = t.whole := by
  refine eq_of_parts_eq rfl rfl ?_
  show t.nanos / nanosPerSecond * nanosPerSecond / nanosPerSecond * nanosPerSecond = _
  rw [Nat.mul_div_cancel _ (by decide)]
  rfl

theorem shownSecond_whole (t : Instant) : t.whole.shownSecond = t.shownSecond := by
  show t.second % 60 + t.nanos / nanosPerSecond * nanosPerSecond / nanosPerSecond = _
  rw [Nat.mul_div_cancel _ (by decide)]
  rfl

theorem leapInPlace_whole {t : Instant} (h : LeapInPlace t.second t.nanos) :
    LeapInPlace t.whole.second t.whole.nanos := by
  rcases t.shownSecond_cases with ⟨-, -, hnanos⟩ | ⟨hleap, -, -⟩
  · rw [hnanos]
    exact Or.inl nanosPerSecond_pos
  · exact Or.inr (h.resolve_left (Nat.not_lt.2 hleap))

/-- What is shown of an instant: nothing of its part of a second, and a leap second that is out of
    place as the second behind it. -/
def shown (t : Instant) : Instant :=
  if h : LeapInPlace t.second t.nanos then t.whole
  else
    { date := t.date
      second := t.second + 1
      nanos := 0
      inDay := by
        have := t.inDay
        unfold LeapInPlace at h
        omega
      nanos_lt := zero_lt_two_seconds }

theorem shown_of_leapInPlace {t : Instant} (h : LeapInPlace t.second t.nanos) :
    t.shown = t.whole := dif_pos h

theorem shown_parts_of_not {t : Instant} (h : ¬ LeapInPlace t.second t.nanos) :
    t.shown.date = t.date ∧ t.shown.second = t.second + 1 ∧ t.shown.nanos = 0 := by
  unfold shown
  rw [dif_neg h]
  exact ⟨rfl, rfl, rfl⟩

/-- An instant is shown whole just if it is in no leap second out of place. -/
theorem shown_eq_whole_iff {t : Instant} : t.shown = t.whole ↔ LeapInPlace t.second t.nanos := by
  refine ⟨fun h => ?_, shown_of_leapInPlace⟩
  by_contra hplace
  obtain ⟨-, hsecond, -⟩ := shown_parts_of_not hplace
  have hkept : t.whole.second = t.second := rfl
  rw [h] at hsecond
  omega

/-- The date and the time that an instant shows are those of what is shown of it. -/
theorem ofShown?_shown (t : Instant) :
    ofShown? t.date t.hour t.minute t.shownSecond = some t.shown := by
  refine ofShown?_eq_some_iff.2 ?_
  by_cases hplace : LeapInPlace t.second t.nanos
  · rw [shown_of_leapInPlace hplace]
    exact ⟨⟨t.whole_whole, leapInPlace_whole hplace⟩, rfl, rfl, rfl, t.shownSecond_whole⟩
  · obtain ⟨hdate, hsecond, hnanos⟩ := shown_parts_of_not hplace
    unfold LeapInPlace at hplace
    have hpos := nanosPerSecond_pos
    -- the second behind the leap second is one of the same minute
    have hhour : t.shown.hour = t.hour := by
      unfold hour
      omega
    have hminute : t.shown.minute = t.minute := by
      unfold minute
      omega
    have hshown : t.shown.shownSecond = t.shownSecond := by
      have hcases := t.shownSecond_cases
      have hcases' := t.shown.shownSecond_cases
      omega
    have hwhole : t.shown.whole.nanos = t.shown.nanos := by
      have hcases := t.shown.shownSecond_cases
      omega
    have hplain : LeapInPlace t.shown.second t.shown.nanos := by
      rw [hnanos]
      exact Or.inl hpos
    exact ⟨⟨eq_of_parts_eq rfl rfl hwhole, hplain⟩, hdate, hhour, hminute, hshown⟩

end Countersign.Calendar.Instant

namespace Countersign.Calendar.Timestamp

/-- The six numbers that a timestamp shows. -/
structure Numbers where
  year : Int
  month : Nat
  day : Nat
  hour : Nat
  minute : Nat
  second : Nat

/-- The instant that shows the numbers, where there is one. -/
def Numbers.instant? (n : Numbers) : Option Instant :=
  (Date.ofCivil? n.year n.month n.day).bind fun date =>
    Instant.ofShown? date n.hour n.minute n.second

/-- The numbers that an instant shows. -/
def numbersOf (t : Instant) : Numbers :=
  ⟨t.date.year, t.date.month, t.date.day, t.hour, t.minute, t.shownSecond⟩

theorem Numbers.instant?_eq_some_iff {n : Numbers} {t : Instant} :
    n.instant? = some t ↔ (t.whole = t ∧ LeapInPlace t.second t.nanos) ∧ numbersOf t = n := by
  unfold Numbers.instant?
  rw [Option.bind_eq_some_iff]
  constructor
  · intro h
    obtain ⟨date, hdate, htime⟩ := h
    obtain ⟨hy, hmo, hd⟩ := Date.ofCivil?_eq_some_iff.1 hdate
    obtain ⟨hplain, rfl, hho, hmi, hse⟩ := Instant.ofShown?_eq_some_iff.1 htime
    refine ⟨hplain, ?_⟩
    unfold numbersOf
    rw [hy, hmo, hd, hho, hmi, hse]
  · intro h
    obtain ⟨hplain, rfl⟩ := h
    exact ⟨t.date, Date.ofCivil?_self t.date,
      Instant.ofShown?_eq_some_iff.2 ⟨hplain, rfl, rfl, rfl, rfl⟩⟩

/-- The numbers that an instant shows name what is shown of it. -/
theorem instant?_numbersOf (t : Instant) : (numbersOf t).instant? = some t.shown :=
  Option.bind_eq_some_iff.2 ⟨t.date, Date.ofCivil?_self t.date, t.ofShown?_shown⟩

/-- The numbers name an existing day and a time of it, with 60 for a leap second. -/
structure Numbers.Legal (n : Numbers) : Prop where
  isDay : IsDay n.year n.month n.day
  hour_lt : n.hour < 24
  minute_lt : n.minute < 60
  second_le : n.second ≤ 60

theorem legal_numbersOf (t : Instant) : (numbersOf t).Legal :=
  ⟨t.date.isDay, t.hour_lt, t.minute_lt, t.shownSecond_le⟩

/-- Legal numbers are shown by an instant. -/
theorem Numbers.Legal.exists_instant? {n : Numbers} (h : n.Legal) : ∃ t, n.instant? = some t := by
  obtain ⟨t, ht⟩ := @Instant.exists_ofShown? ⟨_, _, _, h.isDay⟩ n.hour n.minute n.second
    h.hour_lt h.minute_lt h.second_le
  exact ⟨t, Option.bind_eq_some_iff.2 ⟨_, dif_pos h.isDay, ht⟩⟩

/-! ## 4. The whole text -/

/-- The texts of the six numbers, with the blanks before them. -/
structure Pieces where
  year : List Char
  month : List Char
  day : List Char
  hour : List Char
  minute : List Char
  second : List Char

/-- The pieces with the letter between date and time and the one behind them. -/
def Pieces.chars (p : Pieces) : List Char :=
  p.year ++ (p.month ++ (p.day ++ 'T' :: (p.hour ++ (p.minute ++ (p.second ++ ['Z'])))))

theorem readChar?_eq_some_iff {c : Char} {cs rest : List Char} :
    readChar? c cs = some rest ↔ cs = c :: rest := by
  cases cs with
  | nil => exact ⟨nofun, nofun⟩
  | cons d ds =>
    unfold readChar?
    split
    · rename_i hd
      simp [hd]
    · rename_i hd
      simp [hd]

/-- What stands behind a number is seen by its first character. -/
theorem noDigitFirst_append {next rest : List Char} (hne : next ≠ []) :
    NoDigitFirst (next ++ rest) ↔ NoDigitFirst next := by
  obtain ⟨c, cs, rfl⟩ := List.exists_cons_of_ne_nil hne
  exact Iff.rfl

theorem isNumber_append {most n : Nat} {digits next rest : List Char} (hne : next ≠ []) :
    IsNumber most digits (next ++ rest) n ↔ IsNumber most digits next n := by
  have hfirst := @noDigitFirst_append next rest hne
  constructor
  · intro h
    exact ⟨h.isDigit, h.ne_nil, h.length_le, fun hlt => hfirst.1 (h.longest hlt), h.value⟩
  · intro h
    exact ⟨h.isDigit, h.ne_nil, h.length_le, fun hlt => hfirst.2 (h.longest hlt), h.value⟩

theorem isYear_append {y : Int} {ys next rest : List Char} (hne : next ≠ []) :
    IsYear (next ++ rest) ys y ↔ IsYear next ys y := by
  have hfirst := @noDigitFirst_append next rest hne
  constructor
  · intro h
    cases h with
    | plain h => exact .plain ((isNumber_append hne).1 h)
    | plus hr h => exact .plus (hfirst.1 hr) ((isNumber_append hne).1 h)
    | minus hr h => exact .minus (hfirst.1 hr) ((isNumber_append hne).1 h)
  · intro h
    cases h with
    | plain h => exact .plain ((isNumber_append hne).2 h)
    | plus hr h => exact .plus (hfirst.2 hr) ((isNumber_append hne).2 h)
    | minus hr h => exact .minus (hfirst.2 hr) ((isNumber_append hne).2 h)

theorem Indented.imp {p q : List Char → Prop} {field : List Char} (hpq : ∀ cs, p cs → q cs)
    (h : Indented p field) : Indented q field := by
  obtain ⟨blanks, cs, rfl, hb, hcs⟩ := h
  exact ⟨blanks, cs, rfl, hb, hpq cs hcs⟩

theorem Indented.ne_nil {p : List Char → Prop} {field : List Char} (hp : ∀ cs, p cs → cs ≠ [])
    (h : Indented p field) : field ≠ [] := by
  obtain ⟨blanks, cs, rfl, -, hcs⟩ := h
  exact List.append_ne_nil_of_right_ne_nil _ (hp cs hcs)

/-- The pieces spell the numbers: blanks may stand before every number, and a number of one digit,
    like a year of fewer than four, ends where no digit follows. -/
structure Pieces.Spell (p : Pieces) (n : Numbers) : Prop where
  year : Indented (IsYear p.month · n.year) p.year
  month : Indented (IsNumber 2 · p.day n.month) p.month
  day : Indented (IsNumber 2 · ['T'] n.day) p.day
  hour : Indented (IsNumber 2 · p.minute n.hour) p.hour
  minute : Indented (IsNumber 2 · p.second n.minute) p.minute
  second : Indented (IsNumber 2 · ['Z'] n.second) p.second

theorem Indented.number_ne_nil {most n : Nat} {field rest : List Char}
    (h : Indented (IsNumber most · rest n) field) : field ≠ [] :=
  h.ne_nil fun _ h => h.ne_nil

/-- What is read from a piece does not depend on what stands behind the next piece. -/
theorem readPair?_append {n : Nat} {field next rest : List Char}
    (h : Indented (IsNumber 2 · next n) field) (hne : next ≠ []) :
    readPair? (field ++ (next ++ rest)) = some (n, next ++ rest) :=
  readPair?_eq_some_iff.2 ⟨field, rfl, h.imp fun _ => (isNumber_append hne).2⟩

theorem readYear?_append {y : Int} {field next rest : List Char}
    (h : Indented (IsYear next · y) field) (hne : next ≠ []) :
    readYear? (field ++ (next ++ rest)) = some (y, next ++ rest) :=
  readYear?_eq_some_iff.2 ⟨field, rfl, h.imp fun _ => (isYear_append hne).2⟩

/-- What a timestamp is read from, whatever instant its numbers show. -/
theorem readChars?_eq_some_iff {cs : List Char} {t : Instant} : readChars? cs = some t ↔
    ∃ (p : Pieces) (n : Numbers), cs = p.chars ∧ p.Spell n ∧ n.instant? = some t := by
  unfold readChars?
  constructor
  · intro h
    obtain ⟨⟨y, _⟩, hy, h₁⟩ := Option.bind_eq_some_iff.1 h
    obtain ⟨⟨mo, _⟩, hmo, h₂⟩ := Option.bind_eq_some_iff.1 h₁
    obtain ⟨⟨d, _⟩, hd, h₃⟩ := Option.bind_eq_some_iff.1 h₂
    obtain ⟨_, hT, h₄⟩ := Option.bind_eq_some_iff.1 h₃
    obtain ⟨⟨ho, _⟩, hho, h₅⟩ := Option.bind_eq_some_iff.1 h₄
    obtain ⟨⟨mi, _⟩, hmi, h₆⟩ := Option.bind_eq_some_iff.1 h₅
    obtain ⟨⟨se, _⟩, hse, h₇⟩ := Option.bind_eq_some_iff.1 h₆
    obtain ⟨last, hZ, hend⟩ := Option.bind_eq_some_iff.1 h₇
    obtain ⟨hlast, hinstant⟩ := Option.ite_none_right_eq_some.1 hend
    obtain rfl := List.isEmpty_iff.1 hlast
    obtain ⟨year, rfl, hyear⟩ := readYear?_eq_some_iff.1 hy
    obtain ⟨month, rfl, hmonth⟩ := readPair?_eq_some_iff.1 hmo
    obtain ⟨day, rfl, hday⟩ := readPair?_eq_some_iff.1 hd
    obtain rfl := readChar?_eq_some_iff.1 hT
    obtain ⟨hour, rfl, hhour⟩ := readPair?_eq_some_iff.1 hho
    obtain ⟨minute, rfl, hminute⟩ := readPair?_eq_some_iff.1 hmi
    obtain ⟨second, rfl, hsecond⟩ := readPair?_eq_some_iff.1 hse
    obtain rfl := readChar?_eq_some_iff.1 hZ
    -- where a piece ends is seen by the next one, which is not empty
    refine ⟨⟨year, month, day, hour, minute, second⟩, ⟨y, mo, d, ho, mi, se⟩, rfl, ?_, hinstant⟩
    exact ⟨hyear.imp fun _ => (isYear_append hmonth.number_ne_nil).1,
      hmonth.imp fun _ => (isNumber_append hday.number_ne_nil).1,
      hday.imp fun _ => (isNumber_append (List.cons_ne_nil 'T' [])).1,
      hhour.imp fun _ => (isNumber_append hminute.number_ne_nil).1,
      hminute.imp fun _ => (isNumber_append hsecond.number_ne_nil).1, hsecond⟩
  · intro h
    obtain ⟨p, n, rfl, hp, hn⟩ := h
    have hday : ∀ rest, readPair? (p.day ++ 'T' :: rest) = some (n.day, 'T' :: rest) :=
      fun rest => @readPair?_append _ _ ['T'] rest hp.day (List.cons_ne_nil _ _)
    refine Option.bind_eq_some_iff.2 ⟨_, readYear?_append hp.year hp.month.number_ne_nil, ?_⟩
    refine Option.bind_eq_some_iff.2 ⟨_, readPair?_append hp.month hp.day.number_ne_nil, ?_⟩
    refine Option.bind_eq_some_iff.2 ⟨_, hday _, ?_⟩
    refine Option.bind_eq_some_iff.2 ⟨_, readChar?_eq_some_iff.2 rfl, ?_⟩
    refine Option.bind_eq_some_iff.2 ⟨_, readPair?_append hp.hour hp.minute.number_ne_nil, ?_⟩
    refine Option.bind_eq_some_iff.2 ⟨_, readPair?_append hp.minute hp.second.number_ne_nil, ?_⟩
    refine Option.bind_eq_some_iff.2 ⟨_, readPair?_eq_some_iff.2 ⟨_, rfl, hp.second⟩, ?_⟩
    exact Option.bind_eq_some_iff.2 ⟨_, readChar?_eq_some_iff.2 rfl, hn⟩

/-- **A timestamp spells the numbers of an instant** that has no part of a second and no leap second
    out of place. -/
theorem parse?_eq_some_iff {s : String} {t : Instant} : parse? s = some t ↔
    (t.whole = t ∧ LeapInPlace t.second t.nanos) ∧
      ∃ p : Pieces, s.toList = p.chars ∧ p.Spell (numbersOf t) := by
  unfold parse?
  rw [readChars?_eq_some_iff]
  constructor
  · intro h
    obtain ⟨p, n, hs, hp, hn⟩ := h
    obtain ⟨hplain, rfl⟩ := Numbers.instant?_eq_some_iff.1 hn
    exact ⟨hplain, p, hs, hp⟩
  · intro h
    obtain ⟨hplain, p, hs, hp⟩ := h
    exact ⟨p, numbersOf t, hs, hp, Numbers.instant?_eq_some_iff.2 ⟨hplain, rfl⟩⟩

end Countersign.Calendar.Timestamp
