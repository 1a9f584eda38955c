import Mathlib
import ReviewDesk.Proofs.Moments

/-!
# Texts that order like time

The store compares moments by their texts. A text begins with the year and goes on to smaller and
smaller units, each in digits of fixed width, so of two moments of UTC the later one has the greater
text. The calendar comes in once: the first days of the months follow each other at the lengths of
the months.
-/
namespace ReviewDesk.Moment

/-- A moment that a clock of UTC can show. -/
structure IsUtc (m : Moment) : Prop where
  zone : m.zone = some 0
  range : m.inRange = true

instance (m : Moment) : Decidable m.IsUtc :=
  decidable_of_iff (m.zone = some 0 ∧ m.inRange = true) ⟨fun h => ⟨h.1, h.2⟩, fun h => ⟨h.1, h.2⟩⟩

/-! ## The order of dates -/

/-- The first day of a month, where months are counted through all years. -/
def monthStart (k : Int) : Int := daysOfDate (k / 12) (k % 12 + 1) 1

theorem daysInMonth_pos (year month : Int) : 0 < daysInMonth year month := by
  unfold daysInMonth
  split
  · split <;> decide
  · split <;> decide

/-- The days before the March of a year, from the March of year 0. -/
def marchStart (year : Int) : Int :=
  year / 400 * 146097 + (year % 400 * 365 + year % 400 / 4 - year % 400 / 100)

/-- From a March to the next there are 337 days and a February, which belongs to the next year. -/
theorem marchStart_succ (year : Int) :
    marchStart (year + 1) = marchStart year + 337 + daysInMonth (year + 1) 2 := by
  have hleap : isLeap (year + 1) = true ↔
      (year + 1) % 4 = 0 ∧ ((year + 1) % 100 ≠ 0 ∨ (year + 1) % 400 = 0) := by
    simp [isLeap]
  simp only [daysInMonth, marchStart, BEq.rfl, ↓reduceIte]
  split
  · next h =>
    have h := hleap.mp h
    omega
  · next h =>
    have h := mt hleap.mpr h
    omega

/-- The months of a year are counted from March, so that the leap day is at the end. -/
theorem monthStart_eq (k : Int) :
    monthStart k = marchStart ((k - 2) / 12) + (153 * ((k - 2) % 12) + 2) / 5 - 719468 := by
  have hyear : (if k % 12 + 1 ≤ 2 then k / 12 - 1 else k / 12) = (k - 2) / 12 := by
    split <;> omega
  have hmonth : (k % 12 + 1 + 9) % 12 = (k - 2) % 12 := by omega
  simp only [monthStart, daysOfDate, hyear, hmonth, marchStart]
  omega

/-- A month later is as many days later as the month has. -/
theorem monthStart_succ (k : Int) :
    monthStart (k + 1) = monthStart k + daysInMonth (k / 12) (k % 12 + 1) := by
  rw [monthStart_eq, monthStart_eq]
  by_cases hfebruary : (k - 2) % 12 = 11
  · have hnext : (k + 1 - 2) / 12 = (k - 2) / 12 + 1 := by omega
    have hmarch : (k + 1 - 2) % 12 = 0 := by omega
    have hyear : k / 12 = (k - 2) / 12 + 1 := by omega
    have hmonth : k % 12 + 1 = 2 := by omega
    rw [hnext, hmarch, hfebruary, hyear, hmonth, marchStart_succ]
    omega
  · have hnext : (k + 1 - 2) / 12 = (k - 2) / 12 := by omega
    have hmonths : (k + 1 - 2) % 12 = (k - 2) % 12 + 1 := by omega
    have hmonth : k % 12 + 1 = monthAfter ((k - 2) % 12) := by
      unfold monthAfter
      split <;> omega
    rw [hnext, hmonths, hmonth, daysInMonth_monthAfter _ (by omega) (by omega)]
    omega

theorem strictMono_monthStart : StrictMono monthStart := by
  refine strictMono_int_of_lt_succ fun k => ?_
  rw [monthStart_succ]
  exact Int.lt_add_of_pos_right _ (daysInMonth_pos _ _)

/-- A day is as far from the first of its month as its number says. -/
theorem daysOfDate_eq {year month day : Int} (h : IsDate year month day) :
    daysOfDate year month day = monthStart (12 * year + (month - 1)) + (day - 1) := by
  obtain ⟨hpos, hle, -, -⟩ := h
  have hyear : (12 * year + (month - 1)) / 12 = year := by omega
  have hmonth : (12 * year + (month - 1)) % 12 + 1 = month := by omega
  rw [monthStart, hyear, hmonth]
  simp only [daysOfDate]
  omega

/-- Years count first, then months, then days. -/
def DateBefore (a b : Int × Int × Int) : Prop :=
  a.1 < b.1 ∨ a.1 = b.1 ∧ (a.2.1 < b.2.1 ∨ a.2.1 = b.2.1 ∧ a.2.2 < b.2.2)

theorem dateBefore_of_lt {a b : Int × Int × Int} (ha : IsDate a.1 a.2.1 a.2.2)
    (hb : IsDate b.1 b.2.1 b.2.2)
    (h : daysOfDate a.1 a.2.1 a.2.2 < daysOfDate b.1 b.2.1 b.2.2) : DateBefore a b := by
  obtain ⟨y, m, d⟩ := a
  obtain ⟨y', m', d'⟩ := b
  rw [daysOfDate_eq ha, daysOfDate_eq hb] at h
  obtain ⟨hm, hm', hd, -⟩ := ha
  obtain ⟨hn, hn', -, he⟩ := hb
  unfold DateBefore
  dsimp only at *
  rcases lt_trichotomy (12 * y + (m - 1)) (12 * y' + (m' - 1)) with hearlier | hsame | hlater
  · omega
  · rw [hsame] at h
    omega
  · -- All days of the second month come before the first month begins.
    have hstart := strictMono_monthStart.monotone (Int.add_one_le_of_lt hlater)
    have hyear : (12 * y' + (m' - 1)) / 12 = y' := by omega
    have hmonth : (12 * y' + (m' - 1)) % 12 + 1 = m' := by omega
    rw [monthStart_succ, hyear, hmonth] at hstart
    omega

/-- A later day has a later date. -/
theorem dateBefore_dateOfDays {a b : Int} (h : a < b) :
    DateBefore (dateOfDays a) (dateOfDays b) := by
  refine dateBefore_of_lt (isDate_dateOfDays a) (isDate_dateOfDays b) ?_
  rwa [daysOfDate_dateOfDays, daysOfDate_dateOfDays]

/-! ## The order of digits -/

/-- What comes after lists of the same length does not matter if they differ. -/
theorem append_lt_append {xs ys : List Char} (hlength : xs.length = ys.length) (h : xs < ys)
    (rest rest' : List Char) : xs ++ rest < ys ++ rest' := by
  induction h with
  | nil => cases hlength
  | rel hlt => exact List.Lex.rel hlt
  | cons _ ih => exact List.Lex.cons (ih (Nat.succ.inj hlength))

/-- The number that digits spell after those that spell `n`. -/
def valueFrom (n : Int) (cs : List Char) : Int :=
  cs.foldl (fun n c => 10 * n + ((c.toNat - 48 : Nat) : Int)) n

theorem valueFrom_cons (n : Int) (c : Char) (cs : List Char) :
    valueFrom n (c :: cs) = valueFrom (10 * n + ((c.toNat - 48 : Nat) : Int)) cs := rfl

theorem digit_bounds {c : Char} (h : c.isDigit = true) : 48 ≤ c.toNat ∧ c.toNat ≤ 57 := by
  simpa [Char.isDigit, UInt32.le_iff_toNat_le] using h

theorem valueFrom_lt {xs ys : List Char} (hlength : xs.length = ys.length)
    (hxs : ∀ c ∈ xs, c.isDigit = true) {m n : Int} (h : m < n) :
    valueFrom m xs < valueFrom n ys := by
  induction xs generalizing ys m n with
  | nil =>
    cases ys with
    | nil => exact h
    | cons y ys => cases hlength
  | cons x xs ih =>
    cases ys with
    | nil => cases hlength
    | cons y ys =>
      obtain ⟨hx, hrest⟩ := List.forall_mem_cons.mp hxs
      have hbounds := digit_bounds hx
      rw [valueFrom_cons, valueFrom_cons]
      exact ih (Nat.succ.inj hlength) hrest (by omega)

/-- Digits that are greater as a text are greater as a number. -/
theorem valueFrom_lt_of_lt {xs ys : List Char} (h : xs < ys) (hlength : xs.length = ys.length)
    (hxs : ∀ c ∈ xs, c.isDigit = true) (hys : ∀ c ∈ ys, c.isDigit = true) (n : Int) :
    valueFrom n xs < valueFrom n ys := by
  induction h generalizing n with
  | nil => cases hlength
  | @rel x xs y ys hlt =>
    obtain ⟨hx, hxs⟩ := List.forall_mem_cons.mp hxs
    obtain ⟨hy, -⟩ := List.forall_mem_cons.mp hys
    have hdigits : x.toNat < y.toNat := hlt
    have hboundsX := digit_bounds hx
    have hboundsY := digit_bounds hy
    rw [valueFrom_cons, valueFrom_cons]
    exact valueFrom_lt (Nat.succ.inj hlength) hxs (by omega)
  | cons _ ih =>
    exact ih (Nat.succ.inj hlength) (List.forall_mem_cons.mp hxs).2
      (List.forall_mem_cons.mp hys).2 _

theorem Spells.valueFrom_eq {width : Nat} {n : Int} {cs : List Char} (h : Spells width n cs) :
    valueFrom 0 cs = n := by
  have hvalue := h.value
  rw [digits?] at hvalue
  split_ifs at hvalue
  exact Option.some.inj hvalue

/-- Of two numbers in digits of the same width the greater one has the greater text. -/
theorem Spells.lt {width : Nat} {m n : Int} {xs ys : List Char} (hxs : Spells width m xs)
    (hys : Spells width n ys) (h : m < n) : xs < ys := by
  have hlength := hxs.length.trans hys.length.symm
  rcases lt_trichotomy xs ys with hlt | rfl | hgt
  · exact hlt
  · exact absurd (hxs.valueFrom_eq.symm.trans hys.valueFrom_eq) (Int.ne_of_lt h)
  · have hvalue := valueFrom_lt_of_lt hgt hlength.symm hys.isDigit hxs.isDigit 0
    rw [hxs.valueFrom_eq, hys.valueFrom_eq] at hvalue
    omega

/-- A number in front decides, and if it is the same, the rest does. -/
theorem padded_append_lt {width : Nat} (hwidth : 0 < width) {m n : Int} (hm : 0 ≤ m)
    (hn : n < ((10 ^ width : Nat) : Int)) {rest rest' : List Char}
    (h : m < n ∨ m = n ∧ rest < rest') :
    (padded width m).toList ++ rest < (padded width n).toList ++ rest' := by
  rcases h with hlt | ⟨rfl, hrest⟩
  · have hxs := spells_padded hwidth hm (hlt.trans hn)
    have hys := spells_padded hwidth (hm.trans hlt.le) hn
    exact append_lt_append (hxs.length.trans hys.length.symm) (hxs.lt hys hlt) _ _
  · exact List.Lex.append_left _ hrest _

/-! ## The order of texts -/

/-- A date in front decides, and if it is the same, the rest does. -/
theorem date_append_lt {a b : Int} (ha : -719162 ≤ a) (hb : b < 2932897) {rest rest' : List Char}
    (h : a < b ∨ a = b ∧ rest < rest') :
    (padded 4 (dateOfDays a).1).toList ++ '-' ::
      ((padded 2 (dateOfDays a).2.1).toList ++ '-' ::
        ((padded 2 (dateOfDays a).2.2).toList ++ rest)) <
    (padded 4 (dateOfDays b).1).toList ++ '-' ::
      ((padded 2 (dateOfDays b).2.1).toList ++ '-' ::
        ((padded 2 (dateOfDays b).2.2).toList ++ rest')) := by
  have hlater : (dateOfDays a).1 < (dateOfDays b).1 ∨ (dateOfDays a).1 = (dateOfDays b).1 ∧
      ((dateOfDays a).2.1 < (dateOfDays b).2.1 ∨ (dateOfDays a).2.1 = (dateOfDays b).2.1 ∧
        ((dateOfDays a).2.2 < (dateOfDays b).2.2 ∨ (dateOfDays a).2.2 = (dateOfDays b).2.2 ∧
          rest < rest')) := by
    rcases h with h | ⟨rfl, hrest⟩
    · exact (dateBefore_dateOfDays h).imp_right (And.imp_right (Or.imp_right (And.imp_right .inl)))
    · exact .inr ⟨rfl, .inr ⟨rfl, .inr ⟨rfl, hrest⟩⟩⟩
  have hle : a ≤ b := h.elim le_of_lt fun hsame => hsame.1.le
  obtain ⟨hyear, -⟩ := year_dateOfDays ha (hle.trans_lt hb)
  obtain ⟨-, hyear'⟩ := year_dateOfDays (ha.trans hle) hb
  obtain ⟨hmonth, -, hday, -⟩ := isDate_dateOfDays a
  obtain ⟨-, hmonth', -, hday'⟩ := isDate_dateOfDays b
  have hlength := daysInMonth_le (dateOfDays b).1 (dateOfDays b).2.1
  refine padded_append_lt (by decide) (by omega) (by omega) (hlater.imp_right ?_)
  refine And.imp_right fun hlater => .cons ?_
  refine padded_append_lt (by decide) (by omega) (by omega) (hlater.imp_right ?_)
  refine And.imp_right fun hlater => .cons ?_
  exact padded_append_lt (by decide) (by omega) (by omega) hlater

/-- A later time of day has a greater text. -/
theorem clock_append_lt {u v : Int} (h : u % day < v % day) (rest : List Char) :
    (padded 2 (u % day / second / 3600)).toList ++ ':' ::
      ((padded 2 (u % day / second / 60 % 60)).toList ++ ':' ::
        ((padded 2 (u % day / second % 60)).toList ++ '.' ::
          ((padded 6 (u % second)).toList ++ rest))) <
    (padded 2 (v % day / second / 3600)).toList ++ ':' ::
      ((padded 2 (v % day / second / 60 % 60)).toList ++ ':' ::
        ((padded 2 (v % day / second % 60)).toList ++ '.' ::
          ((padded 6 (v % second)).toList ++ rest))) := by
  have hdaily : day = 86400000000 := rfl
  have hsecond : second = 1000000 := rfl
  rw [hdaily] at h
  rw [hdaily, hsecond]
  have hlater : u % 86400000000 / 1000000 / 3600 < v % 86400000000 / 1000000 / 3600 ∨
      u % 86400000000 / 1000000 / 3600 = v % 86400000000 / 1000000 / 3600 ∧
      (u % 86400000000 / 1000000 / 60 % 60 < v % 86400000000 / 1000000 / 60 % 60 ∨
        u % 86400000000 / 1000000 / 60 % 60 = v % 86400000000 / 1000000 / 60 % 60 ∧
        (u % 86400000000 / 1000000 % 60 < v % 86400000000 / 1000000 % 60 ∨
          u % 86400000000 / 1000000 % 60 = v % 86400000000 / 1000000 % 60 ∧
            u % 1000000 < v % 1000000)) := by
    omega
  refine padded_append_lt (by decide) (by omega) (by omega) (hlater.imp_right ?_)
  refine And.imp_right fun hlater => .cons ?_
  refine padded_append_lt (by decide) (by omega) (by omega) (hlater.imp_right ?_)
  refine And.imp_right fun hlater => .cons ?_
  refine padded_append_lt (by decide) (by omega) (by omega) (hlater.imp_right ?_)
  refine And.imp_right fun hlater => .cons ?_
  exact padded_append_lt (by decide) (by omega) (by omega) (.inl hlater)

/-- A later moment has a greater text. -/
theorem storedText_lt {a b : Moment} (ha : a.IsUtc) (hb : b.IsUtc) (h : a.wall < b.wall) :
    a.storedText < b.storedText := by
  have hzone : a.zoneText = b.zoneText := by rw [zoneText, zoneText, ha.zone, hb.zone]
  rw [String.lt_iff_toList_lt, toList_storedText, toList_storedText, hzone]
  refine date_append_lt (days_bounds ha.range).1 (days_bounds hb.range).2 ?_
  rcases lt_or_eq_of_le (Int.ediv_le_ediv (by decide : 0 < day) h.le) with hearlier | hsame
  · exact .inl hearlier
  · refine .inr ⟨hsame, .cons (clock_append_lt ?_ _)⟩
    have hwallA := Int.ediv_mul_add_emod a.wall day
    have hwallB := Int.ediv_mul_add_emod b.wall day
    rw [hsame] at hwallA
    omega

theorem IsUtc.instant {m : Moment} (h : m.IsUtc) : m.instant = m.wall := by
  simp [Moment.instant, h.zone]

theorem IsUtc.eq_iff {m n : Moment} (hm : m.IsUtc) (hn : n.IsUtc) :
    m = n ↔ m.instant = n.instant := by
  refine ⟨congrArg _, fun h => ?_⟩
  rw [hm.instant, hn.instant] at h
  obtain ⟨wall, zone⟩ := m
  obtain ⟨wall', zone'⟩ := n
  rw [mk.injEq]
  exact ⟨h, hm.zone.trans hn.zone.symm⟩

/-- Texts of moments of UTC compare as the moments do. -/
theorem storedText_lt_iff {a b : Moment} (ha : a.IsUtc) (hb : b.IsUtc) :
    a.storedText < b.storedText ↔ a.instant < b.instant := by
  constructor
  · intro h
    rcases lt_trichotomy a.instant b.instant with hlt | hsame | hgt
    · exact hlt
    · rw [(ha.eq_iff hb).mpr hsame] at h
      exact absurd h (lt_irrefl _)
    · rw [ha.instant, hb.instant] at hgt
      exact absurd h (lt_asymm (storedText_lt hb ha hgt))
  · intro h
    rw [ha.instant, hb.instant] at h
    exact storedText_lt ha hb h

end ReviewDesk.Moment
