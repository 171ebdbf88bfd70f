import Beale.Library.IsoDate
import Mathlib.Order.Monotone.Basic

/-!
# Months

Months are counted through the years, twelve to each. A day lies between the first day of
its month and that of the next one, and these days grow with the month.
-/

namespace Beale.Library

def CivilDate.monthIndex (date : CivilDate) : Int := 12 * date.year + date.month - 1

def monthStart (month : Int) : Int := daysFromCivil ⟨month / 12, month % 12 + 1, 1⟩

/-- A day that is counted from the start of a month, also past its end. -/
theorem daysFromCivil_monthStart (month day : Int) :
    daysFromCivil ⟨month / 12, month % 12 + 1, day⟩ = monthStart month + day - 1 := by
  simp only [monthStart, daysFromCivil]
  omega

theorem monthStart_lt_succ (month : Int) : monthStart month < monthStart (month + 1) := by
  simp only [monthStart, daysFromCivil, daysBeforeYear]
  have hmonth : month = 12 * (month / 12) + month % 12 := by omega
  have hrange : 0 ≤ month % 12 ∧ month % 12 < 12 := by omega
  generalize month / 12 = year at *
  generalize month % 12 = index at *
  subst hmonth
  by_cases hlast : index = 11
  · subst hlast
    have hyear : (12 * year + 11 + 1) / 12 = year + 1 := by omega
    have hindex : (12 * year + 11 + 1) % 12 = 0 := by omega
    simp only [hyear, hindex]
    omega
  · have hyear : (12 * year + index + 1) / 12 = year := by omega
    have hindex : (12 * year + index + 1) % 12 = index + 1 := by omega
    simp only [hyear, hindex]
    split <;> split <;> omega

theorem monthStart_lt_iff {month other : Int} : monthStart month < monthStart other ↔ month < other :=
  (strictMono_int_of_lt_succ monthStart_lt_succ).lt_iff_lt

/-- A day lies before the year that follows its own. -/
theorem lt_nextYear (z : Int) : z < daysBeforeYear (marchYear z + 1) := by
  obtain ⟨c, q, y, day, hc, hq, hy, -, hleap, hz, hyear⟩ := marchYear_parts z
  rw [daysBeforeYear, hyear]
  generalize z / 146097 = cycle at *
  -- whether the next year begins other four years, another century, another cycle
  have h4 : (400 * cycle + 100 * c + 4 * q + y + 1) / 4 =
      100 * cycle + 25 * c + q + if y = 3 then 1 else 0 := by
    split <;> omega
  have h100 : (400 * cycle + 100 * c + 4 * q + y + 1) / 100 =
      4 * cycle + c + if y = 3 ∧ q = 24 then 1 else 0 := by
    split <;> omega
  have h400 : (400 * cycle + 100 * c + 4 * q + y + 1) / 400 =
      cycle + if y = 3 ∧ q = 24 ∧ c = 3 then 1 else 0 := by
    split <;> omega
  rw [h4, h100, h400]
  split <;> split <;> split <;> omega

theorem monthStart_march (year : Int) {marchMonth : Int} (h : 0 ≤ marchMonth ∧ marchMonth ≤ 11) :
    monthStart (12 * year + marchMonth + 2) =
      daysBeforeYear year + (153 * marchMonth + 2) / 5 - epochDays := by
  simp only [monthStart, daysFromCivil]
  by_cases hlate : marchMonth < 10
  · have hyear : (12 * year + marchMonth + 2) / 12 = year := by omega
    have hindex : (12 * year + marchMonth + 2) % 12 = marchMonth + 2 := by omega
    rw [hyear, hindex, if_neg (by omega), if_neg (by omega), show marchMonth + 2 + 1 - 3 = marchMonth by omega]
    omega
  · have hyear : (12 * year + marchMonth + 2) / 12 = year + 1 := by omega
    have hindex : (12 * year + marchMonth + 2) % 12 = marchMonth - 10 := by omega
    rw [hyear, hindex, if_pos (by omega), if_pos (by omega),
      show marchMonth - 10 + 1 + 9 = marchMonth by omega, show year + 1 - 1 = year by omega]
    omega

theorem civilFromDays_month (days : Int) :
    let date := civilFromDays days
    days = monthStart date.monthIndex + date.day - 1 ∧
      days < monthStart (date.monthIndex + 1) ∧ 1 ≤ date.day := by
  obtain ⟨hlow, hhigh, -, -⟩ := marchYear_spec (days + epochDays)
  have hnext := lt_nextYear (days + epochDays)
  simp only [civilFromDays]
  generalize marchYear (days + epochDays) = year at *
  generalize hday : days + epochDays - daysBeforeYear year = dayOfYear at *
  have hm : 0 ≤ (5 * dayOfYear + 2) / 153 ∧ (5 * dayOfYear + 2) / 153 ≤ 11 := by omega
  have hindex : (civilOfMarch year dayOfYear).monthIndex =
      12 * year + (5 * dayOfYear + 2) / 153 + 2 := by
    simp only [civilOfMarch, CivilDate.monthIndex]
    split <;> omega
  have hday' : (civilOfMarch year dayOfYear).day =
      dayOfYear - (153 * ((5 * dayOfYear + 2) / 153) + 2) / 5 + 1 := rfl
  rw [hindex, hday', monthStart_march year hm]
  refine ⟨by omega, ?_, by omega⟩
  by_cases hlast : (5 * dayOfYear + 2) / 153 = 11
  · rw [hlast, show 12 * year + 11 + 2 + 1 = 12 * (year + 1) + 0 + 2 by omega,
      monthStart_march (year + 1) (by omega)]
    omega
  · rw [show 12 * year + (5 * dayOfYear + 2) / 153 + 2 + 1 =
        12 * year + ((5 * dayOfYear + 2) / 153 + 1) + 2 by omega, monthStart_march year (by omega)]
    omega

theorem monthIndex_eq {days month : Int} (hlow : monthStart month ≤ days)
    (hhigh : days < monthStart (month + 1)) : (civilFromDays days).monthIndex = month := by
  obtain ⟨hdays, hnext, hday⟩ := civilFromDays_month days
  have hle := monthStart_lt_iff.mp
    (show monthStart month < monthStart ((civilFromDays days).monthIndex + 1) by omega)
  have hge := monthStart_lt_iff.mp
    (show monthStart (civilFromDays days).monthIndex < monthStart (month + 1) by omega)
  omega

end Beale.Library
