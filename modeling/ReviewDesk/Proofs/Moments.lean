import Mathlib.Tactic.IntervalCases
import ReviewDesk.Proofs.Numerals
import ReviewDesk.Time.Reading

/-!
# Moments in text

A moment is stored as a date, a time to the microsecond and an offset, all in digits of fixed width,
and the text is read as the moment. The date of a day is found by taking the leap days off; the days
of an era are the coordinates in which that can be undone.
-/
namespace ReviewDesk.Moment

/-! ## Days and dates -/

/-- A day of an era: the century, the group of four years and the year it falls in, and the days
since that year began in March. Only a leap year has a day 365. -/
structure DayOfEra where
  century : Int
  group : Int
  year : Int
  day : Int
  century_bounds : 0 ≤ century ∧ century ≤ 3
  group_bounds : 0 ≤ group ∧ group ≤ 24
  year_bounds : 0 ≤ year ∧ year ≤ 3
  day_pos : 0 ≤ day
  day_le : day ≤ 364 ∨ day = 365 ∧ year = 3 ∧ (group < 24 ∨ century = 3)

namespace DayOfEra

/-- The days since the era began. -/
def number (e : DayOfEra) : Int := 36524 * e.century + 1461 * e.group + 365 * e.year + e.day

/-- The years since the era began. -/
def years (e : DayOfEra) : Int := 100 * e.century + 4 * e.group + e.year

theorem exists_number {n : Int} (hpos : 0 ≤ n) (hlt : n < 146097) :
    ∃ e : DayOfEra, e.number = n := by
  obtain ⟨c, m, hc, hm, hlast, hn⟩ : ∃ c m : Int, (0 ≤ c ∧ c ≤ 3) ∧ 0 ≤ m ∧
      (m ≤ 36523 ∨ m = 36524 ∧ c = 3) ∧ n = 36524 * c + m := by
    by_cases h : n = 146096
    · exact ⟨3, 36524, by omega⟩
    · exact ⟨n / 36524, n % 36524, by omega⟩
  obtain ⟨g, k, hg, hk, hlast', hm'⟩ : ∃ g k : Int, (0 ≤ g ∧ g ≤ 24) ∧ 0 ≤ k ∧
      (k ≤ 1459 ∨ k = 1460 ∧ (g < 24 ∨ c = 3)) ∧ m = 1461 * g + k :=
    ⟨m / 1461, m % 1461, by omega⟩
  obtain ⟨y, d, hy, hd, hlast'', hk'⟩ : ∃ y d : Int, (0 ≤ y ∧ y ≤ 3) ∧ 0 ≤ d ∧
      (d ≤ 364 ∨ d = 365 ∧ y = 3 ∧ k = 1460) ∧ k = 365 * y + d := by
    by_cases h : k = 1460
    · exact ⟨3, 365, by omega⟩
    · exact ⟨k / 365, k % 365, by omega⟩
  refine ⟨⟨c, g, y, d, hc, hg, hy, hd, by omega⟩, ?_⟩
  simp only [number]
  omega

variable (e : DayOfEra)

theorem years_bounds : 0 ≤ e.years ∧ e.years ≤ 399 := by
  obtain ⟨c, g, y, d, hc, hg, hy, hd, hlast⟩ := e
  simp only [years]
  omega

/-- The days before a year of the era. -/
theorem number_eq : e.number = e.years * 365 + e.years / 4 - e.years / 100 + e.day := by
  obtain ⟨c, g, y, d, hc, hg, hy, hd, hlast⟩ := e
  have hfour : (100 * c + 4 * g + y) / 4 = 25 * c + g := by omega
  have hhundred : (100 * c + 4 * g + y) / 100 = c := by omega
  simp only [number, years, hfour, hhundred]
  omega

/-- The year is found by taking the leap days off first. -/
theorem years_eq :
    (e.number - e.number / 1460 + e.number / 36524 - e.number / 146096) / 365 = e.years := by
  obtain ⟨c, g, y, d, hc, hg, hy, hd, hlast⟩ := e
  simp only [number, years]
  generalize hn : 36524 * c + 1461 * g + 365 * y + d = n
  have hcentury : n / 36524 = c ∧ n / 146096 = 0 ∨ n = 146096 := by omega
  have hgroup : n / 1460 = 25 * c + g ∨ n / 1460 = 25 * c + g + 1 := by omega
  rcases hcentury with ⟨hc', hzero⟩ | hlast
  · rcases hgroup with hg' | hg'
    · rw [hc', hzero, hg']
      omega
    · rw [hc', hzero, hg']
      omega
  · omega

/-- The months since March. -/
def months : Int := (5 * e.day + 2) / 153

theorem months_bounds : 0 ≤ e.months ∧ e.months ≤ 11 := by
  have hpos := e.day_pos
  have hle := e.day_le
  simp only [months]
  omega

end DayOfEra

/-- A day of a month that there is. -/
structure IsDate (year month day : Int) : Prop where
  month_pos : 1 ≤ month
  month_le : month ≤ 12
  day_pos : 1 ≤ day
  day_le : day ≤ daysInMonth year month

/-- The month of a number of months since March. -/
def monthAfter (months : Int) : Int := if months < 10 then months + 3 else months - 9

theorem dateOfDays_eq (days : Int) : ∃ (era : Int) (e : DayOfEra),
    days = era * 146097 + e.number - 719468 ∧
    dateOfDays days =
      (if monthAfter e.months ≤ 2 then e.years + era * 400 + 1 else e.years + era * 400,
        monthAfter e.months, e.day - (153 * e.months + 2) / 5 + 1) := by
  obtain ⟨e, he⟩ := DayOfEra.exists_number (n := (days + 719468) % 146097) (by omega) (by omega)
  refine ⟨(days + 719468) / 146097, e, by omega, ?_⟩
  have hday : e.number - (365 * e.years + e.years / 4 - e.years / 100) = e.day := by
    rw [e.number_eq]
    omega
  simp only [dateOfDays, ← he, e.years_eq, hday]
  rfl

/-- A year of the era that has a day 365 ends in a leap year. -/
theorem DayOfEra.isLeap_of_day (e : DayOfEra) (era : Int) (h : e.day = 365) :
    isLeap (e.years + era * 400 + 1) = true := by
  obtain ⟨c, g, y, d, hc, hg, hy, hd, hlast⟩ := e
  simp only at h
  have hleap : (100 * c + 4 * g + y + era * 400 + 1) % 4 = 0 ∧
      ((100 * c + 4 * g + y + era * 400 + 1) % 100 ≠ 0 ∨
        (100 * c + 4 * g + y + era * 400 + 1) % 400 = 0) := by
    omega
  simpa [isLeap, DayOfEra.years] using hleap

/-- From March to January the lengths of the months follow one rule. -/
theorem daysInMonth_monthAfter (year : Int) {m : Int} (hpos : 0 ≤ m) (hle : m ≤ 10) :
    daysInMonth year (monthAfter m) = (153 * (m + 1) + 2) / 5 - (153 * m + 2) / 5 := by
  interval_cases m <;> rfl

theorem isDate_dateOfDays (days : Int) :
    IsDate (dateOfDays days).1 (dateOfDays days).2.1 (dateOfDays days).2.2 := by
  obtain ⟨era, e, -, hdate⟩ := dateOfDays_eq days
  obtain ⟨hmonths, hmonths'⟩ := e.months_bounds
  have hday : e.months = (5 * e.day + 2) / 153 := rfl
  rw [hdate]
  refine ⟨?_, ?_, ?_, ?_⟩
  · dsimp only [monthAfter]
    split <;> omega
  · dsimp only [monthAfter]
    split <;> omega
  · dsimp only
    omega
  · dsimp only
    by_cases hfebruary : e.months = 11
    · have hleap := e.isLeap_of_day era
      have hlast := e.day_le
      have htwo : monthAfter 11 = 2 := rfl
      rw [hfebruary, htwo, if_pos (by decide), daysInMonth]
      simp only [BEq.rfl, ↓reduceIte]
      split
      · omega
      · next hno =>
        have hne : e.day ≠ 365 := fun h => hno (hleap h)
        omega
    · rw [daysInMonth_monthAfter _ hmonths (by omega)]
      omega

theorem daysOfDate_dateOfDays (days : Int) :
    daysOfDate (dateOfDays days).1 (dateOfDays days).2.1 (dateOfDays days).2.2 = days := by
  obtain ⟨era, e, hdays, hdate⟩ := dateOfDays_eq days
  obtain ⟨hyears, hyears'⟩ := e.years_bounds
  obtain ⟨hmonths, hmonths'⟩ := e.months_bounds
  have hyear : (if monthAfter e.months ≤ 2 then
      (if monthAfter e.months ≤ 2 then e.years + era * 400 + 1 else e.years + era * 400) - 1
      else if monthAfter e.months ≤ 2 then e.years + era * 400 + 1 else e.years + era * 400) =
      e.years + era * 400 := by
    split <;> omega
  have hera : (e.years + era * 400) / 400 = era := by omega
  have hmod : (e.years + era * 400) % 400 = e.years := by omega
  have hshifted : (monthAfter e.months + 9) % 12 = e.months := by
    unfold monthAfter
    split <;> omega
  rw [hdate]
  simp only [daysOfDate, hyear, hera, hmod, hshifted]
  rw [hdays, e.number_eq]
  omega

theorem year_dateOfDays {days : Int} (hfirst : -719162 ≤ days) (hlast : days < 2932897) :
    1 ≤ (dateOfDays days).1 ∧ (dateOfDays days).1 ≤ 9999 := by
  obtain ⟨era, e, hdays, hdate⟩ := dateOfDays_eq days
  have hyears := e.years_bounds
  have hnumber := e.number_eq
  have hday : 0 ≤ e.day ∧ e.day ≤ 365 := ⟨e.day_pos, by have := e.day_le; omega⟩
  have hmonths : e.months = (5 * e.day + 2) / 153 := rfl
  have hlow : 0 ≤ era := by omega
  have hhigh : era ≤ 24 := by omega
  rw [hdate]
  dsimp only [monthAfter]
  split
  · split <;> omega
  · split <;> omega

theorem firstWall_eq : firstWall = -719162 * day := by decide

theorem lastWall_eq : lastWall = 2932897 * day - 1 := by decide

theorem days_bounds {m : Moment} (h : m.inRange = true) :
    -719162 ≤ m.wall / day ∧ m.wall / day < 2932897 := by
  have hday : day = 86400000000 := rfl
  have hbounds : firstWall ≤ m.wall ∧ m.wall ≤ lastWall :=
    (Bool.and_eq_true_iff.mp h).imp of_decide_eq_true of_decide_eq_true
  rw [firstWall_eq, lastWall_eq, hday] at hbounds
  rw [hday]
  omega

/-! ## Digits -/

/-- The characters are that many digits of a number. -/
structure Spells (width : Nat) (n : Int) (cs : List Char) : Prop where
  length : cs.length = width
  isDigit : ∀ c ∈ cs, c.isDigit = true
  value : digits? cs = some n

theorem toList_padded (width : Nat) (n : Int) :
    (padded width n).toList = List.replicate (width - (Nat.toDigits 10 n.natAbs).length) '0' ++
      Nat.toDigits 10 n.natAbs := by
  have hrepr : (toString n.natAbs).toList = Nat.toDigits 10 n.natAbs := Nat.toList_repr
  rw [padded, String.toList_append, String.toList_ofList, hrepr, ← String.length_toList, hrepr]

theorem isDigit_padded {width : Nat} {n : Int} :
    ∀ c ∈ (padded width n).toList, c.isDigit = true := by
  have hdigit : ∀ d < 10, d.digitChar.isDigit = true := by decide
  intro c hc
  rw [toList_padded] at hc
  obtain hc | hc := List.mem_append.mp hc
  · rw [List.eq_of_mem_replicate hc]
    rfl
  · obtain ⟨d, hd, rfl⟩ := mem_toDigits (by decide) hc
    exact hdigit d hd

/-- A number that is not too long is spelled with the digits that are asked for. -/
theorem spells_padded {width : Nat} {n : Int} (hwidth : 0 < width) (hpos : 0 ≤ n)
    (hlt : n < ((10 ^ width : Nat) : Int)) : Spells width n (padded width n).toList := by
  have hnat : n.natAbs < 10 ^ width := by omega
  have hle := (Nat.length_toDigits_le_iff (b := 10) (by decide) hwidth).mpr hnat
  have hlength : (padded width n).toList.length = width := by
    rw [toList_padded, List.length_append, List.length_replicate]
    omega
  refine ⟨hlength, isDigit_padded, ?_⟩
  have hne : (padded width n).toList.isEmpty = false := by
    rw [List.isEmpty_eq_false_iff, ← List.length_pos_iff, hlength]
    exact hwidth
  have hvalue : ∀ d < 10, ((d.digitChar.toNat - 48 : Nat)) = d := by decide
  have hzeros (k : Nat) :
      (List.replicate k '0').foldl (fun n c => 10 * n + (c.toNat - 48)) 0 = 0 := by
    induction k with
    | zero => rfl
    | succ k ih => exact ih
  have hcast (cs : List Char) (k : Nat) :
      cs.foldl (fun n c => 10 * n + ((c.toNat - 48 : Nat) : Int)) (k : Int) =
      (cs.foldl (fun n c => 10 * n + (c.toNat - 48)) k : Nat) := by
    induction cs generalizing k with
    | nil => rfl
    | cons c cs ih => 
      rw [List.foldl_cons, List.foldl_cons, ← ih]
      push_cast
      rfl
  have hfold := hcast (padded width n).toList 0
  rw [Nat.cast_zero] at hfold
  rw [digits?, hne, List.all_eq_true.mpr isDigit_padded, hfold, toList_padded, List.foldl_append,
    hzeros, foldl_toDigits (by decide) hvalue]
  simp only [Bool.not_false, Bool.and_self, ↓reduceIte, Option.some.injEq]
  omega

section Reading

variable {cs rest : List Char} {n : Int}

theorem Spells.take {width : Nat} (h : Spells width n cs) : (cs ++ rest).take width = cs := by
  rw [← h.length, List.take_left]

theorem Spells.drop {width : Nat} (h : Spells width n cs) : (cs ++ rest).drop width = rest := by
  rw [← h.length, List.drop_left]

theorem twoDigits_spells (h : Spells 2 n cs) {most : Int} (hmost : n ≤ most) :
    twoDigits most (cs ++ rest) = some (n, rest) := by
  have hlong : ¬(cs ++ rest).length < 2 := by
    rw [List.length_append, h.length]
    omega
  simp only [twoDigits, h.take, h.drop, h.value, hlong, Int.not_lt.mpr hmost, decide_false,
    Bool.or_self, Bool.false_eq_true, ↓reduceIte, Option.bind_eq_bind, Option.bind_some]

theorem twoDigits_spells_end (h : Spells 2 n cs) {most : Int} (hmost : n ≤ most) :
    twoDigits most cs = some (n, []) := by
  have hread : twoDigits most (cs ++ []) = some (n, []) := twoDigits_spells h hmost
  rwa [List.append_nil] at hread

theorem readDate_spells {ys ms ds : List Char} {year month day : Int} (hy : Spells 4 year ys)
    (hm : Spells 2 month ms) (hd : Spells 2 day ds) (hdate : IsDate year month day) :
    readDate (ys ++ '-' :: (ms ++ '-' :: (ds ++ rest))) =
      .ok (daysOfDate year month day, rest) := by
  obtain ⟨hylength, -, hyear⟩ := hy
  obtain ⟨hmlength, -, hmonth⟩ := hm
  obtain ⟨hdlength, -, hday⟩ := hd
  match ys, hylength, ms, hmlength, ds, hdlength with
  | [_, _, _, _], _, [_, _], _, [_, _], _ =>
    simp [readDate, hyear, hmonth, hday, Int.not_lt.mpr hdate.month_pos,
      Int.not_lt.mpr hdate.month_le, Int.not_lt.mpr hdate.day_pos, Int.not_lt.mpr hdate.day_le]
    rfl

/-- A text that does not go on with a digit. -/
def EndsDigits (cs : List Char) : Prop := cs.head?.all (!·.isDigit) = true

theorem readFraction_spells (h : Spells 6 n cs) (hrest : EndsDigits rest) :
    readFraction (cs ++ rest) = some (n, rest) := by
  have htake : (cs ++ rest).takeWhile Char.isDigit = cs := by
    rw [List.takeWhile_append_of_pos h.isDigit]
    cases rest with
    | nil => simp
    | cons c rest => 
      rw [List.takeWhile_cons_of_neg, List.append_nil]
      simpa [EndsDigits] using hrest
  have hsix : cs.take 6 = cs := List.take_of_length_le (Nat.le_of_eq h.length)
  simp [readFraction, htake, hsix, h.value, h.length, h.drop]

theorem readClock_spells {hs ms ss fs : List Char} {hour minute sec fraction : Int}
    (hhour : Spells 2 hour hs) (hminute : Spells 2 minute ms) (hsec : Spells 2 sec ss)
    (hfraction : Spells 6 fraction fs) (hh : hour ≤ 23) (hm : minute ≤ 59) (hs' : sec ≤ 59)
    (hrest : EndsDigits rest) :
    readClock (hs ++ ':' :: (ms ++ ':' :: (ss ++ '.' :: (fs ++ rest)))) =
      some ((hour * 3600 + minute * 60) * second + sec * second + fraction, rest) := by
  simp [readClock, twoDigits_spells hhour hh, twoDigits_spells hminute hm,
    twoDigits_spells hsec hs', readFraction_spells hfraction hrest]

theorem readOffset_spells {sign : Char} (hsign : sign = '+' ∨ sign = '-') {hs ms ss : List Char}
    {hour minute sec : Int} (hhour : Spells 2 hour hs) (hminute : Spells 2 minute ms)
    (hsec : ss = [] ∧ sec = 0 ∨ ∃ ds, ss = ':' :: ds ∧ Spells 2 sec ds)
    (hh : hour ≤ 23) (hm : minute ≤ 59) (hs' : sec ≤ 59) :
    readOffset? (sign :: (hs ++ ':' :: (ms ++ ss))) =
      some (some (if sign = '+' then hour * 3600 + minute * 60 + sec
        else -(hour * 3600 + minute * 60 + sec))) := by
  have hmarks : (sign == '+' || sign == '-') = true := by
    rcases hsign with rfl | rfl <;> rfl
  obtain ⟨rfl, rfl⟩ | ⟨ds, rfl, hds⟩ := hsec
  · simp [readOffset?, hmarks, twoDigits_spells hhour hh, twoDigits_spells_end hminute hm]
  · simp [readOffset?, hmarks, twoDigits_spells hhour hh, twoDigits_spells hminute hm,
      twoDigits_spells_end hds hs']

end Reading

theorem toList_offsetText (offset : Int) : (offsetText offset).toList =
    (if offset < 0 then '-' else '+') :: ((padded 2 (offset.natAbs / 3600)).toList ++
      ':' :: ((padded 2 (offset.natAbs / 60 % 60)).toList ++
        if (offset.natAbs : Int) % 60 = 0 then [] else
          ':' :: (padded 2 (offset.natAbs % 60)).toList)) := by
  have htext (s : String) : toString s = s := rfl
  rw [offsetText]
  generalize (offset.natAbs : Int) = n
  by_cases hsign : offset < 0 <;> by_cases hsec : n % 60 = 0 <;> simp [hsign, hsec, htext]

/-- The text of an offset is read as the offset. -/
theorem readOffset_offsetText {offset : Int} (h : offset.natAbs < 86400) :
    readOffset? (offsetText offset).toList = some (some offset) := by
  have hhour : Spells 2 ((offset.natAbs : Int) / 3600) (padded 2 (offset.natAbs / 3600)).toList :=
    spells_padded (by decide) (by omega) (by omega)
  have hminute : Spells 2 ((offset.natAbs : Int) / 60 % 60)
      (padded 2 (offset.natAbs / 60 % 60)).toList :=
    spells_padded (by decide) (by omega) (by omega)
  have hsec : Spells 2 ((offset.natAbs : Int) % 60) (padded 2 (offset.natAbs % 60)).toList :=
    spells_padded (by decide) (by omega) (by omega)
  have hend : (if (offset.natAbs : Int) % 60 = 0 then [] else
        ':' :: (padded 2 (offset.natAbs % 60)).toList) = [] ∧ (offset.natAbs : Int) % 60 = 0 ∨
      ∃ ds, (if (offset.natAbs : Int) % 60 = 0 then [] else
        ':' :: (padded 2 (offset.natAbs % 60)).toList) = ':' :: ds ∧
          Spells 2 ((offset.natAbs : Int) % 60) ds := by
    split
    · next hzero => exact .inl ⟨rfl, hzero⟩
    · exact .inr ⟨_, rfl, hsec⟩
  have hsign :
      (if offset < 0 then '-' else '+') = '+' ∨ (if offset < 0 then '-' else '+') = '-' := by
    split <;> simp
  rw [toList_offsetText,
    readOffset_spells hsign hhour hminute hend (by omega) (by omega) (by omega)]
  by_cases hneg : offset < 0
  · simp only [hneg, ↓reduceIte, Option.some.injEq, Char.reduceEq]
    omega
  · simp only [hneg, ↓reduceIte, Option.some.injEq]
    omega

/-- The year has four digits, and the clock is less than a day from UTC. -/
def Storable (m : Moment) : Prop :=
  m.inRange = true ∧ ∀ offset, m.zone = some offset → offset.natAbs < 86400

theorem readOffset_zoneText {m : Moment} (h : m.Storable) :
    readOffset? m.zoneText.toList = some m.zone := by
  unfold zoneText
  cases hzone : m.zone with
  | none => rfl
  | some offset => exact readOffset_offsetText (h.2 offset hzone)

theorem endsDigits_zoneText (m : Moment) : EndsDigits m.zoneText.toList := by
  unfold zoneText EndsDigits
  cases m.zone with
  | none => rfl
  | some offset =>
    simp only [Option.elim_some, toList_offsetText, List.head?_cons]
    split <;> rfl

theorem toList_storedText (m : Moment) : m.storedText.toList =
    (padded 4 (dateOfDays (m.wall / day)).1).toList ++ '-' ::
      ((padded 2 (dateOfDays (m.wall / day)).2.1).toList ++ '-' ::
        ((padded 2 (dateOfDays (m.wall / day)).2.2).toList ++ 'T' ::
          ((padded 2 (m.wall % day / second / 3600)).toList ++ ':' ::
            ((padded 2 (m.wall % day / second / 60 % 60)).toList ++ ':' ::
              ((padded 2 (m.wall % day / second % 60)).toList ++ '.' ::
                ((padded 6 m.fraction).toList ++ m.zoneText.toList)))))) := by
  have htext (s : String) : toString s = s := rfl
  simp [storedText, dateText, clockText, htext]

theorem daysInMonth_le (year month : Int) : daysInMonth year month ≤ 31 := by
  unfold daysInMonth
  split
  · split <;> decide
  · split <;> decide

/-- The date of a day is read as the day. -/
theorem readDate_date {days : Int} (hfirst : -719162 ≤ days) (hlast : days < 2932897)
    (rest : List Char) :
    readDate ((padded 4 (dateOfDays days).1).toList ++ '-' ::
      ((padded 2 (dateOfDays days).2.1).toList ++ '-' ::
        ((padded 2 (dateOfDays days).2.2).toList ++ rest))) = .ok (days, rest) := by
  obtain ⟨hyear, hyear'⟩ := year_dateOfDays hfirst hlast
  have hdate := isDate_dateOfDays days
  have ⟨hmonth, hmonth', hday, hday'⟩ := hdate
  have hlength := daysInMonth_le (dateOfDays days).1 (dateOfDays days).2.1
  rw [readDate_spells (spells_padded (by decide) (by omega) (by omega))
    (spells_padded (by decide) (by omega) (by omega))
    (spells_padded (by decide) (by omega) (by omega)) hdate, daysOfDate_dateOfDays]

/-- The time of day is read as its microseconds. -/
theorem readClock_clock {wall : Int} {rest : List Char} (hrest : EndsDigits rest) :
    readClock ((padded 2 (wall % day / second / 3600)).toList ++ ':' ::
      ((padded 2 (wall % day / second / 60 % 60)).toList ++ ':' ::
        ((padded 2 (wall % day / second % 60)).toList ++ '.' ::
          ((padded 6 (wall % second)).toList ++ rest)))) = some (wall % day, rest) := by
  have hday : day = 86400000000 := rfl
  have hsecond : second = 1000000 := rfl
  have hclock : (wall % day / second / 3600 * 3600 + wall % day / second / 60 % 60 * 60) * second +
      wall % day / second % 60 * second + wall % second = wall % day := by
    rw [hday, hsecond]
    omega
  have hhour : 0 ≤ wall % day / second / 3600 ∧ wall % day / second / 3600 ≤ 23 := by
    rw [hday, hsecond]
    omega
  have hmicro : 0 ≤ wall % second ∧ wall % second < 1000000 := by
    rw [hsecond]
    omega
  rw [readClock_spells (spells_padded (by decide) hhour.1 (by omega))
    (spells_padded (by decide) (by omega) (by omega))
    (spells_padded (by decide) (by omega) (by omega))
    (spells_padded (by decide) hmicro.1 (by omega)) hhour.2 (by omega) (by omega) hrest, hclock]

/-- The text of a moment is read as the moment. -/
theorem readStored_storedText {m : Moment} (h : m.Storable) :
    readStored? m.storedText = some m := by
  have hrange := days_bounds h.1
  have hwall : m.wall / day * day + m.wall % day = m.wall := Int.ediv_mul_add_emod m.wall day
  rw [readStored?, toList_storedText, readDate_date hrange.1 hrange.2]
  simp only [Except.toOption, Option.bind_eq_bind, Option.bind_some, fraction,
    readClock_clock (endsDigits_zoneText m), readOffset_zoneText h, hwall]

end ReviewDesk.Moment
