import Mathlib.Data.Fintype.Basic
import SafeAgents.Schemas.Calendar

namespace SafeAgents.Calendar

def daysBeforeYear (yearOfEra : Int) : Int := 365 * yearOfEra + yearOfEra / 4 - yearOfEra / 100

def scaledDay (dayOfEra : Int) : Int := dayOfEra - dayOfEra / 1460 + dayOfEra / 36524 - dayOfEra / 146096

def eraOf (days : Int) : Int := (days + 719468) / 146097

def dayOfEra (days : Int) : Int := days + 719468 - eraOf days * 146097

def yearOfEra (days : Int) : Int := scaledDay (dayOfEra days) / 365

def dayOfYear (days : Int) : Int := dayOfEra days - daysBeforeYear (yearOfEra days)

def shiftedMonth (days : Int) : Int := (5 * dayOfYear days + 2) / 153

def marchYear (days : Int) : Int := yearOfEra days + eraOf days * 400

theorem civilOfDays_month (days : Int) :
    (civilOfDays days).month = if shiftedMonth days < 10 then shiftedMonth days + 3 else shiftedMonth days - 9 := rfl

theorem civilOfDays_year (days : Int) :
    (civilOfDays days).year = marchYear days + if (civilOfDays days).month ≤ 2 then 1 else 0 := rfl

theorem civilOfDays_day (days : Int) :
    (civilOfDays days).day = dayOfYear days - (153 * shiftedMonth days + 2) / 5 + 1 := rfl

theorem scaledDay_mono {a b : Int} (h : a ≤ b) : scaledDay a ≤ scaledDay b := by
  obtain ⟨n,rfl⟩ := Int.le.dest h
  clear h
  induction n with
  | zero => simp
  | succ n ih =>
    have hstep : scaledDay (a + n) ≤ scaledDay (a + n + 1) := by
      simp only [scaledDay]
      omega
    push_cast
    have hassoc : a + ((n : Int) + 1) = a + n + 1 := by omega
    rw [hassoc]
    exact Int.le_trans ih hstep

theorem scaledDay_year_bounds :
    ∀ y : Fin 399, 365 * ((y : Int) + 1) ≤ scaledDay (daysBeforeYear (y + 1)) ∧
      scaledDay (daysBeforeYear (y + 1) - 1) < 365 * ((y : Int) + 1) := by
  decide +kernel

theorem dayOfEra_bounds (days : Int) : 0 ≤ dayOfEra days ∧ dayOfEra days ≤ 146096 := by
  simp only [dayOfEra,eraOf]
  omega

theorem yearOfEra_bounds (days : Int) : 0 ≤ yearOfEra days ∧ yearOfEra days ≤ 399 := by
  have hb := dayOfEra_bounds days
  simp only [yearOfEra,scaledDay]
  omega

theorem scaledDay_year {y : Int} (hlow : 1 ≤ y) (hhigh : y ≤ 399) :
    365 * y ≤ scaledDay (daysBeforeYear y) ∧ scaledDay (daysBeforeYear y - 1) < 365 * y := by
  have hfin := scaledDay_year_bounds ⟨(y - 1).toNat,by omega⟩
  have hcast : (((⟨(y - 1).toNat,by omega⟩ : Fin 399) : Nat) : Int) + 1 = y := by
    simp only
    omega
  rwa [hcast] at hfin

theorem daysBeforeYear_le_dayOfEra (days : Int) : daysBeforeYear (yearOfEra days) ≤ dayOfEra days := by
  have hy := yearOfEra_bounds days
  have hd := dayOfEra_bounds days
  by_cases hzero : yearOfEra days = 0
  · simp only [hzero,daysBeforeYear]
    omega
  · have hscaled := (scaledDay_year (show 1 ≤ yearOfEra days by omega) hy.2).2
    by_contra hlt
    have hmono : scaledDay (dayOfEra days) ≤ scaledDay (daysBeforeYear (yearOfEra days) - 1) := scaledDay_mono (by omega)
    have hdiv : 365 * (scaledDay (dayOfEra days) / 365) ≤ scaledDay (dayOfEra days) := by omega
    have hyear : yearOfEra days = scaledDay (dayOfEra days) / 365 := rfl
    omega

theorem dayOfEra_lt_nextYear (days : Int) (h : yearOfEra days < 399) :
    dayOfEra days < daysBeforeYear (yearOfEra days + 1) := by
  have hy := yearOfEra_bounds days
  have hscaled := (scaledDay_year (show 1 ≤ yearOfEra days + 1 by omega) (by omega)).1
  by_contra hge
  have hmono : scaledDay (daysBeforeYear (yearOfEra days + 1)) ≤ scaledDay (dayOfEra days) := scaledDay_mono (by omega)
  have hyear : yearOfEra days = scaledDay (dayOfEra days) / 365 := rfl
  omega

theorem dayOfYear_bounds (days : Int) : 0 ≤ dayOfYear days ∧ dayOfYear days ≤ 365 := by
  have hy := yearOfEra_bounds days
  have hd := dayOfEra_bounds days
  have hlow := daysBeforeYear_le_dayOfEra days
  constructor
  · rw [dayOfYear]
    omega
  · by_cases h : yearOfEra days < 399
    · have hhigh := dayOfEra_lt_nextYear days h
      simp only [dayOfYear,daysBeforeYear] at hhigh ⊢
      omega
    · have hlast : yearOfEra days = 399 := by omega
      simp only [dayOfYear,daysBeforeYear,hlast]
      omega

theorem shiftedMonth_bounds (days : Int) : 0 ≤ shiftedMonth days ∧ shiftedMonth days ≤ 11 := by
  have hb := dayOfYear_bounds days
  simp only [shiftedMonth]
  omega

theorem month_bounds (days : Int) : 1 ≤ (civilOfDays days).month ∧ (civilOfDays days).month ≤ 12 := by
  have hm := shiftedMonth_bounds days
  rw [civilOfDays_month]
  split <;> omega

theorem day_bounds (days : Int) : 1 ≤ (civilOfDays days).day ∧ (civilOfDays days).day ≤ 31 := by
  have hd := dayOfYear_bounds days
  rw [civilOfDays_day,shiftedMonth]
  omega

-- Months counted from the first of year zero: March-based years make the leap day the last of its year.
def CivilDate.monthIndex (c : CivilDate) : Int := 12 * c.year + c.month

theorem monthIndex_civilOfDays (days : Int) :
    (civilOfDays days).monthIndex = 12 * marchYear days + shiftedMonth days + 3 := by
  have hm := shiftedMonth_bounds days
  rw [CivilDate.monthIndex,civilOfDays_year,civilOfDays_month]
  split <;> split <;> omega

theorem marchYear_mono {a b : Int} (h : a ≤ b) : marchYear a ≤ marchYear b := by
  have hya := yearOfEra_bounds a
  have hyb := yearOfEra_bounds b
  have hera : eraOf a ≤ eraOf b := by
    simp only [eraOf]
    omega
  rcases Int.lt_or_eq_of_le hera with hlt | heq
  · simp only [marchYear]
    omega
  · have hday : dayOfEra a ≤ dayOfEra b := by
      simp only [dayOfEra,heq]
      omega
    have hscaled := scaledDay_mono hday
    have hyear : yearOfEra a ≤ yearOfEra b := by
      simp only [yearOfEra]
      omega
    simp only [marchYear,heq]
    omega

theorem same_year {a b : Int} (h : marchYear a = marchYear b) : eraOf a = eraOf b ∧ yearOfEra a = yearOfEra b := by
  have hya := yearOfEra_bounds a
  have hyb := yearOfEra_bounds b
  simp only [marchYear] at h
  omega

def CivilDate.Before (c d : CivilDate) : Prop := c.monthIndex < d.monthIndex ∨ c.monthIndex = d.monthIndex ∧ c.day < d.day

theorem civilOfDays_before {a b : Int} (h : a < b) : (civilOfDays a).Before (civilOfDays b) := by
  have hma := shiftedMonth_bounds a
  have hmb := shiftedMonth_bounds b
  have hyear := marchYear_mono (Int.le_of_lt h)
  rw [CivilDate.Before,monthIndex_civilOfDays,monthIndex_civilOfDays]
  rcases Int.lt_or_eq_of_le hyear with hlt | heq
  · left
    omega
  · obtain ⟨hera,hye⟩ := same_year heq
    have hday : dayOfYear a < dayOfYear b := by
      simp only [dayOfYear,dayOfEra,hera,hye]
      omega
    have hmonth : shiftedMonth a ≤ shiftedMonth b := by
      simp only [shiftedMonth]
      omega
    rcases Int.lt_or_eq_of_le hmonth with hlt | hsame
    · left
      omega
    · right
      rw [civilOfDays_day,civilOfDays_day,hsame]
      omega

theorem civilOfDays_year_mono {a b : Int} (h : a ≤ b) : (civilOfDays a).year ≤ (civilOfDays b).year := by
  rcases Int.lt_or_eq_of_le h with hlt | rfl
  · have hma := month_bounds a
    have hmb := month_bounds b
    have hbefore := civilOfDays_before hlt
    simp only [CivilDate.Before,CivilDate.monthIndex] at hbefore
    omega
  · exact Int.le_refl _

def daysOfCivil (c : CivilDate) : Int :=
  let march := c.year - if c.month ≤ 2 then 1 else 0
  let era := march / 400
  let yearOfEra := march - era * 400
  let shiftedMonth := if c.month ≤ 2 then c.month + 9 else c.month - 3
  era * 146097 + daysBeforeYear yearOfEra + (153 * shiftedMonth + 2) / 5 + c.day - 1 - 719468

theorem daysOfCivil_civilOfDays (days : Int) : daysOfCivil (civilOfDays days) = days := by
  have hy := yearOfEra_bounds days
  have hm := shiftedMonth_bounds days
  have hmarch : (civilOfDays days).year - (if (civilOfDays days).month ≤ 2 then 1 else 0) = marchYear days := by
    rw [civilOfDays_year]
    omega
  have hera : marchYear days / 400 = eraOf days := by
    rw [marchYear]
    omega
  have hyear : marchYear days - eraOf days * 400 = yearOfEra days := by
    rw [marchYear]
    omega
  have hmonth : (if (civilOfDays days).month ≤ 2 then (civilOfDays days).month + 9 else (civilOfDays days).month - 3) =
      shiftedMonth days := by
    rw [civilOfDays_month]
    split <;> split <;> omega
  simp only [daysOfCivil,hmarch,hera,hyear,hmonth,civilOfDays_day]
  simp only [dayOfYear,dayOfEra]
  omega

def isLeapYear (year : Int) : Bool := decide (year % 4 = 0 ∧ (year % 100 ≠ 0 ∨ year % 400 = 0))

def daysInMonth (year month : Int) : Int :=
  if month = 2 then (if isLeapYear year then 29 else 28)
  else if month = 4 ∨ month = 6 ∨ month = 9 ∨ month = 11 then 30 else 31

theorem dayOfYear_of_common (days : Int) (h : isLeapYear (marchYear days + 1) = false) : dayOfYear days ≤ 364 := by
  have hy := yearOfEra_bounds days
  have hd := dayOfEra_bounds days
  have hcommon := of_decide_eq_false h
  rw [marchYear] at hcommon
  by_cases hlast : yearOfEra days < 399
  · have hhigh := dayOfEra_lt_nextYear days hlast
    simp only [dayOfYear,daysBeforeYear] at hhigh ⊢
    by_cases hfour : (yearOfEra days + 1) % 4 = 0
    · have hcentury : (yearOfEra days + 1) % 100 = 0 := by omega
      omega
    · have hsame : (yearOfEra days + 1) / 4 = yearOfEra days / 4 := by omega
      have hplain : (yearOfEra days + 1) / 100 = yearOfEra days / 100 := by omega
      omega
  · omega

theorem day_le_daysInMonth (days : Int) :
    (civilOfDays days).day ≤ daysInMonth (civilOfDays days).year (civilOfDays days).month := by
  have hm := shiftedMonth_bounds days
  have hd := dayOfYear_bounds days
  have hdef : shiftedMonth days = (5 * dayOfYear days + 2) / 153 := rfl
  rw [daysInMonth,civilOfDays_day]
  by_cases hfeb : (civilOfDays days).month = 2
  · have heleven : shiftedMonth days = 11 := by
      rw [civilOfDays_month] at hfeb
      split at hfeb <;> omega
    have hyear : (civilOfDays days).year = marchYear days + 1 := by
      rw [civilOfDays_year,hfeb]
      rfl
    rw [if_pos hfeb,hyear]
    cases hleap : isLeapYear (marchYear days + 1) with
    | false =>
      have hcommon := dayOfYear_of_common days hleap
      simp only [Bool.false_eq_true,if_false]
      omega
    | true =>
      simp only [if_true]
      omega
  · rw [if_neg hfeb]
    rw [civilOfDays_month] at hfeb ⊢
    split
    · split at * <;> omega
    · omega

end SafeAgents.Calendar
