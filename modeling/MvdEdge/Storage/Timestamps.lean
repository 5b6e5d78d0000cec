import MvdEdge.Base
import MvdEdge.Lib.FixedWidth

/-! The texts of `utc_timestamp`: the proleptic Gregorian calendar of `datetime` and
the fixed-width fields of `isoformat(timespec="milliseconds")`. Years, months and
days are counted from zero here and written from one. -/

set_option autoImplicit false

namespace MvdEdge

open Lib

/-- `_days_before_year`, of the year after `elapsed` whole ones. -/
def daysBeforeYear (elapsed : Nat) : Nat :=
  elapsed * 365 + elapsed / 4 - elapsed / 100 + elapsed / 400

def isLeap (year : Nat) : Bool := year % 4 = 0 && (year % 100 ≠ 0 || year % 400 = 0)

/-- `_days_before_month` -/
def daysBeforeMonth (leap : Bool) (elapsed : Nat) : Nat :=
  [0, 31, 59, 90, 120, 151, 181, 212, 243, 273, 304, 334, 365].getD elapsed 366 +
    if 1 < elapsed ∧ leap = true then 1 else 0

def yearOf (days : Nat) : Nat := period daysBeforeYear (· / 365) days

def monthOf (leap : Bool) (dayOfYear : Nat) : Nat :=
  period (daysBeforeMonth leap) (fun _ => 11) dayOfYear

def monthAndDay (leap : Bool) (dayOfYear : Nat) : Str :=
  padded 2 (monthOf leap dayOfYear + 1) ++
    ('-' :: padded 2 (dayOfYear - daysBeforeMonth leap (monthOf leap dayOfYear) + 1))

/-- `date.isoformat`, by the days since the first of the year 1. -/
def isoDate (days : Nat) : Str :=
  padded 4 (yearOf days + 1) ++
    ('-' :: monthAndDay (isLeap (yearOf days + 1)) (days - daysBeforeYear (yearOf days)))

/-- `time.isoformat("milliseconds")`, by the milliseconds since midnight. -/
def isoTime (millis : Nat) : Str :=
  padded 2 (millis / 3600000) ++ (':' :: (padded 2 (millis % 3600000 / 60000) ++
    (':' :: (padded 2 (millis % 3600000 % 60000 / 1000) ++
      ('.' :: padded 3 (millis % 3600000 % 60000 % 1000))))))

/-- `date(1970, 1, 1).toordinal() - 1` -/
def epochDays : Nat := 719162

def utcTimestamp (now : Timestamp) : Str :=
  isoDate (now / 86400000 + epochDays) ++ ('T' :: (isoTime (now % 86400000) ++ "+00:00".toList))

/-- The start of the year 10000, the first that `datetime` cannot have. -/
def endOfTime : Timestamp := (daysBeforeYear 9999 - epochDays) * 86400000

example : [0, 951868799999, 1709208000000, 4107542400001].map utcTimestamp =
    ["1970-01-01T00:00:00.000+00:00".toList, "2000-02-29T23:59:59.999+00:00".toList,
      "2024-02-29T12:00:00.000+00:00".toList, "2100-03-01T00:00:00.001+00:00".toList] := by
  decide +kernel

/-! ## The text order is the order in time -/

theorem daysBeforeYear_succ (elapsed : Nat) :
    daysBeforeYear (elapsed + 1) =
      daysBeforeYear elapsed + daysBeforeMonth (isLeap (elapsed + 1)) 12 := by
  have year : daysBeforeMonth (isLeap (elapsed + 1)) 12 =
      365 + if isLeap (elapsed + 1) = true then 1 else 0 := by
    simp [daysBeforeMonth]
  have leap : isLeap (elapsed + 1) = true ↔
      4 ∣ elapsed + 1 ∧ (¬100 ∣ elapsed + 1 ∨ 400 ∣ elapsed + 1) := by
    simp [isLeap, Nat.dvd_iff_mod_eq_zero]
  have century : 100 ∣ elapsed + 1 → 4 ∣ elapsed + 1 := Nat.dvd_trans (by decide)
  have era : 400 ∣ elapsed + 1 → 100 ∣ elapsed + 1 := Nat.dvd_trans (by decide)
  have fewer : elapsed / 100 ≤ elapsed / 4 := Nat.div_le_div_left (by decide) (by decide)
  rw [year, if_congr leap rfl rfl]
  simp only [daysBeforeYear, Nat.succ_div]
  generalize elapsed / 4 = fourths, elapsed / 100 = centuries, elapsed / 400 = eras at fewer ⊢
  by_cases fourth : 4 ∣ elapsed + 1
  · by_cases hundredth : 100 ∣ elapsed + 1
    · by_cases last : 400 ∣ elapsed + 1 <;>
        simp only [fourth, hundredth, last, not_true_eq_false, or_self, or_true,
          and_true, and_false, ↓reduceIte] <;> omega
    · have last : ¬400 ∣ elapsed + 1 := fun last => hundredth (era last)
      simp only [fourth, hundredth, last, not_false_eq_true, true_or, and_self, ↓reduceIte]
      omega
  · have hundredth : ¬100 ∣ elapsed + 1 := fun hundredth => fourth (century hundredth)
    have last : ¬400 ∣ elapsed + 1 := fun last => hundredth (era last)
    simp only [fourth, hundredth, last, false_and, ↓reduceIte]
    omega

theorem le_daysBeforeYear (elapsed : Nat) : elapsed * 365 ≤ daysBeforeYear elapsed := by
  unfold daysBeforeYear
  omega

theorem daysBeforeYear_mono : Monotone daysBeforeYear := by
  apply monotone_nat_of_le_succ
  intro elapsed
  rw [daysBeforeYear_succ]
  exact Nat.le_add_right _ _

theorem dayOfYear_lt (days : Nat) : days - daysBeforeYear (yearOf days) <
    daysBeforeMonth (isLeap (yearOf days + 1)) 12 := by
  have begun : daysBeforeYear (yearOf days) ≤ days := start_period_le rfl days
  have ended : days < daysBeforeYear (yearOf days + 1) := by
    apply lt_start_succ_period
    have room := le_daysBeforeYear (days / 365 + 1)
    omega
  rw [daysBeforeYear_succ] at ended
  omega

theorem dayOfMonth_lt {leap : Bool} {dayOfYear : Nat}
    (within : dayOfYear < daysBeforeMonth leap 12) :
    dayOfYear - daysBeforeMonth leap (monthOf leap dayOfYear) < 31 := by
  have months : ∀ leap, ∀ month ≤ 11,
      daysBeforeMonth leap (month + 1) ≤ daysBeforeMonth leap month + 31 := by
    decide
  have atMost : monthOf leap dayOfYear ≤ 11 := period_le dayOfYear
  have ended : dayOfYear < daysBeforeMonth leap (monthOf leap dayOfYear + 1) :=
    lt_start_succ_period within
  have length := months leap _ atMost
  omega

theorem padded_from_one {width bound : Nat} (fits : bound + 1 ≤ 10 ^ width) :
    FixedWidth bound width fun number => padded width (number + 1) :=
  ((FixedWidth.padded width).mono fits).shift

theorem monthAndDay_fixedWidth (leap : Bool) :
    FixedWidth (daysBeforeMonth leap 12) 5 (monthAndDay leap) := by
  have months : FixedWidth 12 2 fun month => padded 2 (month + 1) := padded_from_one (by decide)
  have days : FixedWidth 31 2 fun day => padded 2 (day + 1) := padded_from_one (by decide)
  refine months.join (fun _ _ => days.prefixed ['-']) (leads_period ?_ monotone_const) ?_
  · cases leap <;> rfl
  · intro dayOfYear within
    exact ⟨Nat.lt_succ_of_le (period_le dayOfYear), dayOfMonth_lt within⟩

theorem isoDate_fixedWidth : FixedWidth (daysBeforeYear 9999) 10 isoDate := by
  have years : FixedWidth 9999 4 fun year => padded 4 (year + 1) := padded_from_one (by decide)
  refine years.join (fun year _ => (monthAndDay_fixedWidth (isLeap (year + 1))).prefixed ['-'])
    (leads_period rfl fun _ _ le => Nat.div_le_div_right le) ?_
  intro days within
  refine ⟨?_, dayOfYear_lt days⟩
  by_contra late
  have begun : daysBeforeYear (yearOf days) ≤ days := start_period_le rfl days
  have reached := daysBeforeYear_mono (Nat.le_of_not_lt late)
  exact absurd (reached.trans begun) (Nat.not_le_of_lt within)

theorem isoTime_fixedWidth : FixedWidth 86400000 12 isoTime := by
  have two : FixedWidth 60 2 (padded 2) := (FixedWidth.padded 2).mono (by decide)
  have seconds : FixedWidth 60000 6 fun millis =>
      padded 2 (millis / 1000) ++ (['.'] ++ padded 3 (millis % 1000)) :=
    two.join (fun _ _ => (FixedWidth.padded 3).prefixed ['.']) (leads_div_mod 1000) (by omega)
  have minutes : FixedWidth 3600000 9 fun millis => padded 2 (millis / 60000) ++
      ([':'] ++ (padded 2 (millis % 60000 / 1000) ++
        (['.'] ++ padded 3 (millis % 60000 % 1000)))) :=
    two.join (fun _ _ => seconds.prefixed [':']) (leads_div_mod 60000) (by omega)
  have hours : FixedWidth 24 2 (padded 2) := (FixedWidth.padded 2).mono (by decide)
  exact hours.join (fun _ _ => minutes.prefixed [':']) (leads_div_mod 3600000) (by omega)

theorem utcTimestamp_fixedWidth : FixedWidth endOfTime 29 utcTimestamp := by
  have dates : FixedWidth (daysBeforeYear 9999 - epochDays) 10
      fun day => isoDate (day + epochDays) :=
    (isoDate_fixedWidth.mono (by decide)).shift
  have times := (isoTime_fixedWidth.suffixed "+00:00".toList).prefixed ['T']
  refine dates.join (fun _ _ => times) (leads_div_mod 86400000) ?_
  intro now dated
  exact ⟨Nat.div_lt_of_lt_mul (by rwa [Nat.mul_comm]), Nat.mod_lt _ (by decide)⟩

/-- `order by created_at` puts the rows in the order of time. -/
theorem utcTimestamp_lt_iff {first second : Timestamp} (firstDated : first < endOfTime)
    (secondDated : second < endOfTime) :
    utcTimestamp first < utcTimestamp second ↔ first < second :=
  utcTimestamp_fixedWidth.less first firstDated second secondDated

end MvdEdge
