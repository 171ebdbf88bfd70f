import Beale.Library.Months

/-!
# When an automation runs again

`nextAutomationRunAt` of `hostService.ts`. A month is added with `setUTCMonth`, which
counts a day that the month does not have into the following month.
-/

namespace Beale.AppServer

open Beale.Library

inductive AutomationIntervalUnit where
  | minutely
  | hourly
  | daily
  | weekly
  | monthly
  deriving DecidableEq

/-- An `AutomationInterval`, as `automationInterval` bounds it. -/
structure AutomationInterval where
  type : AutomationIntervalUnit
  interval : Int
  bounded : 1 ≤ interval ∧ interval ≤ 99

/-- `unitMs`, for what is not monthly. -/
def AutomationIntervalUnit.unitMs : AutomationIntervalUnit → Int
  | .minutely => 60000
  | .hourly => 3600000
  | .daily => 86400000
  | _ => 604800000

/-- The time value, where it is one: otherwise the date is invalid. -/
def timeClip (t : Int) : Option Instant :=
  if h : -maxTimeValue ≤ t ∧ t ≤ maxTimeValue then some ⟨t, h⟩ else none

/-- The date of a time value, in UTC. -/
def dateOf (t : Int) : CivilDate := civilFromDays (t / msPerDay)

/-- `date.setUTCMonth(month)`, with the month counted through the years. -/
def setUTCMonth (t month : Int) : Int :=
  daysFromCivil ⟨month / 12, month % 12 + 1, (dateOf t).day⟩ * msPerDay + t % msPerDay

def nextAutomationRunAt (schedule : AutomationInterval) (started : Instant) : Option Instant :=
  if schedule.type = .monthly then
    timeClip (setUTCMonth started.1 ((dateOf started.1).monthIndex + schedule.interval))
  else timeClip (started.1 + schedule.interval * schedule.type.unitMs)

/-- The next run comes after the start, a monthly one in the month that is due, and none that
starts later has its next run earlier. -/
structure ScheduleSound (schedule : AutomationInterval) (started : Instant) : Prop where
  next : ∃ next, nextAutomationRunAt schedule started = some next ∧ started.1 < next.1 ∧
    (schedule.type = .monthly →
      (dateOf next.1).monthIndex = (dateOf started.1).monthIndex + schedule.interval)
  monotone : ∀ later : Instant, started.1 ≤ later.1 → ∀ next next',
    nextAutomationRunAt schedule started = some next →
    nextAutomationRunAt schedule later = some next' → next.1 ≤ next'.1

/-- The month that is due has the day of the start, and dates do not end before it. -/
def ScheduleSafe (schedule : AutomationInterval) (started : Instant) : Prop :=
  if schedule.type = .monthly then
    let month := (dateOf started.1).monthIndex + schedule.interval
    (dateOf started.1).day ≤ monthStart (month + 1) - monthStart month ∧
      (monthStart month + (dateOf started.1).day - 1) * msPerDay + started.1 % msPerDay ≤ maxTimeValue
  else started.1 + schedule.interval * schedule.type.unitMs ≤ maxTimeValue

variable {schedule : AutomationInterval} {started next : Instant} {t month : Int}

theorem timeClip_eq_some : timeClip t = some next ↔ next.1 = t := by
  unfold timeClip
  split
  next h => exact ⟨fun heq => by cases heq; rfl, fun heq => congrArg some (Subtype.ext heq.symm)⟩
  next h => exact ⟨nofun, fun heq => absurd (heq ▸ next.2) h⟩

theorem setUTCMonth_eq (t month : Int) :
    setUTCMonth t month = (monthStart month + (dateOf t).day - 1) * msPerDay + t % msPerDay := by
  rw [setUTCMonth, daysFromCivil_monthStart]

theorem setUTCMonth_days (t month : Int) :
    setUTCMonth t month / msPerDay = monthStart month + (dateOf t).day - 1 := by
  rw [setUTCMonth_eq, msPerDay]
  omega

theorem AutomationIntervalUnit.unitMs_pos (type : AutomationIntervalUnit) : 0 < type.unitMs := by
  cases type <;> decide

theorem next_of_monthly (h : schedule.type = .monthly) :
    nextAutomationRunAt schedule started = some next ↔
      next.1 = setUTCMonth started.1 ((dateOf started.1).monthIndex + schedule.interval) := by
  rw [nextAutomationRunAt, if_pos h, timeClip_eq_some]

theorem next_of_not_monthly (h : schedule.type ≠ .monthly) :
    nextAutomationRunAt schedule started = some next ↔
      next.1 = started.1 + schedule.interval * schedule.type.unitMs := by
  rw [nextAutomationRunAt, if_neg h, timeClip_eq_some]

/-- A month later is later. -/
theorem lt_setUTCMonth (t : Int) {interval : Int} (h : 1 ≤ interval) :
    t < setUTCMonth t ((dateOf t).monthIndex + interval) := by
  obtain ⟨hdays, -, -⟩ := civilFromDays_month (t / msPerDay)
  have hlater := monthStart_lt_iff.mpr (show (dateOf t).monthIndex <
    (dateOf t).monthIndex + interval by omega)
  rw [setUTCMonth_eq]
  simp only [dateOf, msPerDay] at *
  omega

theorem setUTCMonth_mono {t' interval : Int} (hle : t ≤ t')
    (hday : (dateOf t).day ≤ monthStart ((dateOf t).monthIndex + interval + 1) -
      monthStart ((dateOf t).monthIndex + interval)) :
    setUTCMonth t ((dateOf t).monthIndex + interval) ≤
      setUTCMonth t' ((dateOf t').monthIndex + interval) := by
  obtain ⟨hdays, hnext, hfirst⟩ := civilFromDays_month (t / msPerDay)
  obtain ⟨hdays', hnext', hfirst'⟩ := civilFromDays_month (t' / msPerDay)
  rw [setUTCMonth_eq, setUTCMonth_eq]
  simp only [dateOf, msPerDay] at *
  rcases lt_trichotomy (civilFromDays (t / 86400000)).monthIndex
    (civilFromDays (t' / 86400000)).monthIndex with hlt | heq | hgt
  · have hstart : monthStart ((civilFromDays (t / 86400000)).monthIndex + interval + 1) ≤
        monthStart ((civilFromDays (t' / 86400000)).monthIndex + interval) :=
      Int.not_lt.mp (mt monthStart_lt_iff.mp (by omega))
    omega
  · rw [heq] at hdays ⊢
    omega
  · -- the later start cannot lie in an earlier month
    have hstart : monthStart ((civilFromDays (t' / 86400000)).monthIndex + 1) ≤
        monthStart (civilFromDays (t / 86400000)).monthIndex :=
      Int.not_lt.mp (mt monthStart_lt_iff.mp (by omega))
    omega

theorem scheduleSound_of_safe (h : ScheduleSafe schedule started) :
    ScheduleSound schedule started := by
  have hinterval := schedule.bounded
  have hstarted := started.2
  by_cases hmonthly : schedule.type = .monthly
  · rw [ScheduleSafe, if_pos hmonthly] at h
    obtain ⟨hday, hlast⟩ := h
    have hlater := lt_setUTCMonth started.1 hinterval.1
    rw [← setUTCMonth_eq] at hlast
    constructor
    · refine ⟨⟨_, by omega, hlast⟩, (next_of_monthly hmonthly).mpr rfl, hlater, fun _ => ?_⟩
      obtain ⟨-, -, hfirst⟩ := civilFromDays_month (started.1 / msPerDay)
      refine monthIndex_eq ?_ ?_ <;> rw [setUTCMonth_days] <;> simp only [dateOf] at * <;> omega
    · intro later hle next next' hnext hnext'
      rw [(next_of_monthly hmonthly).mp hnext, (next_of_monthly hmonthly).mp hnext']
      exact setUTCMonth_mono hle hday
  · rw [ScheduleSafe, if_neg hmonthly] at h
    have hlater := Int.mul_pos (show 0 < schedule.interval by omega) schedule.type.unitMs_pos
    constructor
    · exact ⟨⟨_, by omega, h⟩, (next_of_not_monthly hmonthly).mpr rfl,
        Int.lt_add_of_pos_right _ hlater, fun heq => absurd heq hmonthly⟩
    · intro later hle next next' hnext hnext'
      rw [(next_of_not_monthly hmonthly).mp hnext, (next_of_not_monthly hmonthly).mp hnext']
      exact Int.add_le_add_right hle _

theorem ScheduleSound.safe (h : ScheduleSound schedule started) :
    ScheduleSafe schedule started := by
  obtain ⟨next, hnext, -, hmonth⟩ := h.next
  by_cases hmonthly : schedule.type = .monthly
  · rw [next_of_monthly hmonthly] at hnext
    obtain ⟨-, hend, -⟩ := civilFromDays_month (next.1 / msPerDay)
    have hindex := hmonth hmonthly
    rw [dateOf] at hindex
    rw [hindex, hnext, setUTCMonth_days] at hend
    have hlast := next.2.2
    rw [hnext, setUTCMonth_eq] at hlast
    rw [ScheduleSafe, if_pos hmonthly]
    exact ⟨by omega, hlast⟩
  · rw [next_of_not_monthly hmonthly] at hnext
    rw [ScheduleSafe, if_neg hmonthly, ← hnext]
    exact next.2.2

/-- An automation is scheduled as it should be just where the month that is due has the day. -/
theorem scheduleSound_iff (schedule : AutomationInterval) (started : Instant) :
    ScheduleSound schedule started ↔ ScheduleSafe schedule started :=
  ⟨ScheduleSound.safe, scheduleSound_of_safe⟩

/-- A month after the 31st of January 2026 is the 3rd of March. -/
theorem january_end_is_not_sound :
    ¬ ScheduleSound ⟨.monthly, 1, by decide⟩ ⟨1769817600000, by decide⟩ := by
  intro h
  obtain ⟨next, hnext, -, hmonth⟩ := h.next
  rw [nextAutomationRunAt, if_pos rfl, timeClip_eq_some] at hnext
  have hindex := hmonth rfl
  rw [hnext] at hindex
  revert hindex
  decide

end Beale.AppServer
