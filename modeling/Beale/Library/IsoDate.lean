import Beale.Library.JsString

/-!
# Time values and their ISO 8601 text

A time value is a number of milliseconds since 1970-01-01T00:00:00Z. This module
has the proleptic Gregorian calendar, the text `Date.prototype.toISOString`
writes, and the reading of that text back.
-/

namespace Beale.Library

/-! ## The calendar -/

structure CivilDate where
  year : Int
  month : Int
  day : Int
deriving DecidableEq, Repr

/-- Days from 0000-03-01 to 1970-01-01. -/
def epochDays : Int := 719468

def daysBeforeYear (year : Int) : Int := 365 * year + year / 4 - year / 100 + year / 400

/-- The year of a day number counted from 0000-03-01, found by 400-year cycles of
146097 days, centuries of 36524, four years of 1461 and years of 365. The last
century of a cycle, and the last of four years, is a day longer. -/
def marchYear (z : Int) : Int :=
  let dayOfCycle := z % 146097
  let century := min (dayOfCycle / 36524) 3
  let dayOfCentury := dayOfCycle - 36524 * century
  let yearOfQuad := min (dayOfCentury % 1461 / 365) 3
  400 * (z / 146097) + 100 * century + 4 * (dayOfCentury / 1461) + yearOfQuad

def civilOfMarch (year dayOfYear : Int) : CivilDate :=
  let marchMonth := (5 * dayOfYear + 2) / 153
  { year := if marchMonth < 10 then year else year + 1
    month := if marchMonth < 10 then marchMonth + 3 else marchMonth - 9
    day := dayOfYear - (153 * marchMonth + 2) / 5 + 1 }

/-- The date of a day number counted from 1970-01-01. -/
def civilFromDays (days : Int) : CivilDate :=
  let year := marchYear (days + epochDays)
  civilOfMarch year (days + epochDays - daysBeforeYear year)

def daysFromCivil (date : CivilDate) : Int :=
  let year := if date.month ≤ 2 then date.year - 1 else date.year
  let marchMonth := if date.month ≤ 2 then date.month + 9 else date.month - 3
  daysBeforeYear year + (153 * marchMonth + 2) / 5 + date.day - 1 - epochDays

theorem marchYear_parts (z : Int) :
    ∃ c q y day : Int, (0 ≤ c ∧ c ≤ 3) ∧ (0 ≤ q ∧ q ≤ 24) ∧ (0 ≤ y ∧ y ≤ 3) ∧
      0 ≤ day ∧ (day ≤ 364 ∨ day = 365 ∧ y = 3 ∧ (q = 24 → c = 3)) ∧
      z = 146097 * (z / 146097) + 36524 * c + 1461 * q + 365 * y + day ∧
      marchYear z = 400 * (z / 146097) + 100 * c + 4 * q + y := by
  simp only [marchYear]
  have hdoe : 0 ≤ z % 146097 ∧ z % 146097 ≤ 146096 := by omega
  have hz : z = 146097 * (z / 146097) + z % 146097 := by omega
  generalize z % 146097 = doe at *
  have hc : 0 ≤ min (doe / 36524) 3 ∧ min (doe / 36524) 3 ≤ 3 ∧
      0 ≤ doe - 36524 * min (doe / 36524) 3 ∧
      (doe - 36524 * min (doe / 36524) 3 ≤ 36523 ∨
        min (doe / 36524) 3 = 3 ∧ doe - 36524 * min (doe / 36524) 3 ≤ 36524) := by
    omega
  generalize min (doe / 36524) 3 = c at *
  generalize hdoc : doe - 36524 * c = doc at *
  refine ⟨c, doc / 1461, min (doc % 1461 / 365) 3, doc % 1461 - 365 * min (doc % 1461 / 365) 3,
    ⟨hc.1, hc.2.1⟩, by omega, by omega, by omega, by omega, by omega, rfl⟩

theorem marchYear_spec (z : Int) :
    0 ≤ z - daysBeforeYear (marchYear z) ∧ z - daysBeforeYear (marchYear z) ≤ 365 ∧
      400 * (z / 146097) ≤ marchYear z ∧ marchYear z ≤ 400 * (z / 146097) + 399 := by
  obtain ⟨c, q, y, day, hc, hq, hy, hday, hleap, hz, hyear⟩ := marchYear_parts z
  rw [daysBeforeYear, hyear]
  generalize z / 146097 = cycle at *
  -- the leap days before the year: one in four, not in a hundred, but in four hundred
  have h4 : (400 * cycle + 100 * c + 4 * q + y) / 4 = 100 * cycle + 25 * c + q := by omega
  have h100 : (400 * cycle + 100 * c + 4 * q + y) / 100 = 4 * cycle + c := by omega
  have h400 : (400 * cycle + 100 * c + 4 * q + y) / 400 = cycle := by omega
  rw [h4, h100, h400]
  refine ⟨?_, ?_, ?_, ?_⟩ <;> omega

theorem daysFromCivil_civilOfMarch {year dayOfYear : Int} (h : 0 ≤ dayOfYear ∧ dayOfYear ≤ 365) :
    daysFromCivil (civilOfMarch year dayOfYear) = daysBeforeYear year + dayOfYear - epochDays := by
  have hm : 0 ≤ (5 * dayOfYear + 2) / 153 ∧ (5 * dayOfYear + 2) / 153 ≤ 11 := by omega
  by_cases hlt : (5 * dayOfYear + 2) / 153 < 10
  · have hmonth : ¬(5 * dayOfYear + 2) / 153 + 3 ≤ 2 := by omega
    simp only [civilOfMarch, daysFromCivil, if_pos hlt, if_neg hmonth, Int.add_sub_cancel]
    omega
  · have hmonth : (5 * dayOfYear + 2) / 153 - 9 ≤ 2 := by omega
    simp only [civilOfMarch, daysFromCivil, if_neg hlt, if_pos hmonth, Int.add_sub_cancel,
      Int.sub_add_cancel]
    omega

theorem daysFromCivil_civilFromDays (days : Int) : daysFromCivil (civilFromDays days) = days := by
  obtain ⟨hlo, hhi, -, -⟩ := marchYear_spec (days + epochDays)
  rw [civilFromDays, daysFromCivil_civilOfMarch ⟨hlo, hhi⟩]
  omega

theorem civilOfMarch_range (year : Int) {dayOfYear : Int} (h : 0 ≤ dayOfYear ∧ dayOfYear ≤ 365) :
    (1 ≤ (civilOfMarch year dayOfYear).month ∧ (civilOfMarch year dayOfYear).month ≤ 12) ∧
      (1 ≤ (civilOfMarch year dayOfYear).day ∧ (civilOfMarch year dayOfYear).day ≤ 31) ∧
      year ≤ (civilOfMarch year dayOfYear).year ∧
      (civilOfMarch year dayOfYear).year ≤ year + 1 := by
  have hm : 0 ≤ (5 * dayOfYear + 2) / 153 ∧ (5 * dayOfYear + 2) / 153 ≤ 11 := by omega
  have hd : 0 ≤ dayOfYear - (153 * ((5 * dayOfYear + 2) / 153) + 2) / 5 ∧
      dayOfYear - (153 * ((5 * dayOfYear + 2) / 153) + 2) / 5 ≤ 30 := by omega
  by_cases hlt : (5 * dayOfYear + 2) / 153 < 10
  · simp only [civilOfMarch, if_pos hlt]
    omega
  · simp only [civilOfMarch, if_neg hlt]
    omega

/-! ## Decimal text -/

/-- The digit unit of a number below ten. -/
def digit (n : Nat) : UInt16 := UInt16.ofNat (48 + n % 10)

def digitValue (u : UInt16) : Nat := u.toNat - 48

/-- The last `width` decimal digits of `n`. -/
def decimal : Nat → Nat → JsString
  | 0, _ => []
  | width + 1, n => decimal width (n / 10) ++ [digit n]

/-- The number a list of digits writes. -/
def decimalValue (s : JsString) : Nat := s.foldl (fun acc u => 10 * acc + digitValue u) 0

theorem digitValue_digit (n : Nat) : digitValue (digit n) = n % 10 := by
  simp only [digitValue, digit, UInt16.toNat_ofNat']
  omega

@[simp] theorem decimal_length (width n : Nat) : (decimal width n).length = width := by
  induction width generalizing n with
  | zero => rfl
  | succ width ih => simp [decimal, ih]

theorem decimalValue_decimal (width n : Nat) (h : n < 10 ^ width) :
    decimalValue (decimal width n) = n := by
  induction width generalizing n with
  | zero =>
    have : n = 0 := by simpa using h
    simp [decimal, decimalValue, this]
  | succ width ih =>
    have hdiv : n / 10 < 10 ^ width := by
      rw [Nat.pow_succ] at h
      exact Nat.div_lt_of_lt_mul (by omega)
    have hstart := ih (n / 10) hdiv
    rw [decimalValue] at hstart
    rw [decimalValue, decimal, List.foldl_append, hstart]
    simp only [List.foldl_cons, List.foldl_nil, digitValue_digit]
    omega

/-! ## Time values -/

def msPerDay : Int := 86400000

/-- The largest magnitude of a time value (ECMAScript `TimeClip`). -/
def maxTimeValue : Int := 8640000000000000

abbrev Instant := { t : Int // -maxTimeValue ≤ t ∧ t ≤ maxTimeValue }

/-- The text of a year: four digits, or a sign and six. -/
def yearText (year : Int) : JsString :=
  if 0 ≤ year ∧ year ≤ 9999 then decimal 4 year.toNat
  else (if year < 0 then 45 else 43) :: decimal 6 year.natAbs

/-- The text after the year: `-MM-DDTHH:mm:ss.sssZ`. -/
def fieldsText (month day hour minute second milli : Nat) : JsString :=
  js "-" ++ decimal 2 month ++ js "-" ++ decimal 2 day ++ js "T" ++ decimal 2 hour ++ js ":"
    ++ decimal 2 minute ++ js ":" ++ decimal 2 second ++ js "." ++ decimal 3 milli ++ js "Z"

/-- `new Date(t).toISOString()`. -/
def toISOString (t : Int) : JsString :=
  let date := civilFromDays (t / msPerDay)
  let ms := (t % msPerDay).toNat
  yearText date.year ++ fieldsText date.month.toNat date.day.toNat (ms / 3600000)
    (ms / 60000 % 60) (ms / 1000 % 60) (ms % 1000)

/-- The time value whose year, and whose twenty further units `-MM-DDTHH:mm:ss.sssZ`,
are given. -/
def timeFromFields (year : Int) (rest : JsString) : Int :=
  let field := fun start width => decimalValue ((rest.drop start).take width)
  let days := daysFromCivil ⟨year, field 1 2, field 4 2⟩
  msPerDay * days + 3600000 * field 7 2 + 60000 * field 10 2 + 1000 * field 13 2 + field 16 3

/-- The time value a text in the format of `toISOString` stands for. -/
def readIso (s : JsString) : Int :=
  if s.length = 24 then timeFromFields (decimalValue (s.take 4)) (s.drop 4)
  else if s.head? = some 45 then
    timeFromFields (-decimalValue ((s.drop 1).take 6)) (s.drop 7)
  else timeFromFields (decimalValue ((s.drop 1).take 6)) (s.drop 7)

/-- `Date.parse(s)` where `new Date(s).toISOString() === s`, and nothing elsewhere. -/
def dateParse (s : JsString) : Option Instant :=
  if h : -maxTimeValue ≤ readIso s ∧ readIso s ≤ maxTimeValue then
    if toISOString (readIso s) = s then some ⟨readIso s, h⟩ else none
  else none

theorem fieldsText_length (M D h m s u : Nat) : (fieldsText M D h m s u).length = 20 := by
  have dash : (js "-").length = 1 := by decide
  have time : (js "T").length = 1 := by decide
  have colon : (js ":").length = 1 := by decide
  have dot : (js ".").length = 1 := by decide
  have zulu : (js "Z").length = 1 := by decide
  simp [fieldsText, dash, time, colon, dot, zulu]

/-- The twenty units after the year are read back. -/
theorem timeFromFields_fieldsText (year : Int) {M D h m s u : Nat} (hM : M < 100) (hD : D < 100)
    (hh : h < 100) (hm : m < 100) (hs : s < 100) (hu : u < 1000) :
    timeFromFields year (fieldsText M D h m s u)
      = msPerDay * daysFromCivil ⟨year, M, D⟩ + 3600000 * h + 60000 * m + 1000 * s + u := by
  have two : ∀ n, ∃ a b, decimal 2 n = [a, b] := fun n => ⟨_, _, rfl⟩
  have three : ∀ n, ∃ a b c, decimal 3 n = [a, b, c] := fun n => ⟨_, _, _, rfl⟩
  have hM' := decimalValue_decimal 2 M hM
  have hD' := decimalValue_decimal 2 D hD
  have hh' := decimalValue_decimal 2 h hh
  have hm' := decimalValue_decimal 2 m hm
  have hs' := decimalValue_decimal 2 s hs
  have hu' := decimalValue_decimal 3 u hu
  obtain ⟨M₁, M₂, eM⟩ := two M
  obtain ⟨D₁, D₂, eD⟩ := two D
  obtain ⟨h₁, h₂, eh⟩ := two h
  obtain ⟨m₁, m₂, em⟩ := two m
  obtain ⟨s₁, s₂, es⟩ := two s
  obtain ⟨u₁, u₂, u₃, eu⟩ := three u
  rw [fieldsText, eM, eD, eh, em, es, eu]
  rw [eM] at hM'
  rw [eD] at hD'
  rw [eh] at hh'
  rw [em] at hm'
  rw [es] at hs'
  rw [eu] at hu'
  rw [show js "-" = [45] from by decide, show js "T" = [84] from by decide,
    show js ":" = [58] from by decide, show js "." = [46] from by decide]
  simp [timeFromFields, hM', hD', hh', hm', hs', hu']

theorem readIso_yearText {year : Int} (hyear : -1000000 < year ∧ year < 1000000)
    {fields : JsString} (hfields : fields.length = 20) :
    readIso (yearText year ++ fields) = timeFromFields year fields := by
  by_cases hfour : 0 ≤ year ∧ year ≤ 9999
  · have hread : readIso (yearText year ++ fields)
        = timeFromFields (decimalValue (decimal 4 year.toNat)) fields := by
      simp [readIso, yearText, hfour, hfields]
    rw [hread, decimalValue_decimal 4 year.toNat (by omega), Int.toNat_of_nonneg hfour.1]
  · have hval := decimalValue_decimal 6 year.natAbs (by omega)
    by_cases hneg : year < 0
    · have hread : readIso (yearText year ++ fields)
          = timeFromFields (-(decimalValue (decimal 6 year.natAbs) : Int)) fields := by
        simp [readIso, yearText, hfour, hneg, hfields]
      rw [hread, hval, show -(year.natAbs : Int) = year by omega]
    · have hread : readIso (yearText year ++ fields)
          = timeFromFields (decimalValue (decimal 6 year.natAbs)) fields := by
        simp [readIso, yearText, hfour, hneg, hfields]
      rw [hread, hval, show (year.natAbs : Int) = year by omega]

/-- The date of a time value has a year of at most six digits and two-digit months
and days. -/
theorem civilFromDays_range (t : Instant) :
    let date := civilFromDays (t.1 / msPerDay)
    (-1000000 < date.year ∧ date.year < 1000000) ∧ (1 ≤ date.month ∧ date.month ≤ 12) ∧
      1 ≤ date.day ∧ date.day ≤ 31 := by
  obtain ⟨hlo, hhi, hfrom, hto⟩ := marchYear_spec (t.1 / msPerDay + epochDays)
  have hcycle : -680 ≤ (t.1 / msPerDay + epochDays) / 146097 ∧
      (t.1 / msPerDay + epochDays) / 146097 ≤ 689 := by
    have ht := t.2
    simp only [maxTimeValue, msPerDay, epochDays] at *
    omega
  obtain ⟨hmonth, hday, hle, hge⟩ := civilOfMarch_range
    (marchYear (t.1 / msPerDay + epochDays)) ⟨hlo, hhi⟩
  refine ⟨?_, hmonth, hday⟩
  simp only [civilFromDays]
  omega

theorem readIso_toISOString (t : Instant) : readIso (toISOString t.1) = t.1 := by
  obtain ⟨hyear, hmonth, hday⟩ := civilFromDays_range t
  have hdays := daysFromCivil_civilFromDays (t.1 / msPerDay)
  have hms : 0 ≤ t.1 % msPerDay ∧ t.1 % msPerDay < msPerDay := by
    simp only [msPerDay]; omega
  simp only [toISOString]
  rw [readIso_yearText hyear (fieldsText_length ..)]
  generalize civilFromDays (t.1 / msPerDay) = date at *
  have hhour : (t.1 % msPerDay).toNat / 3600000 < 100 := by
    simp only [msPerDay] at *; omega
  have hdate : (⟨date.year, (date.month.toNat : Int), (date.day.toNat : Int)⟩ : CivilDate)
      = date := by
    rw [Int.toNat_of_nonneg (by omega), Int.toNat_of_nonneg (by omega)]
  rw [timeFromFields_fieldsText date.year (by omega) (by omega) hhour (by omega) (by omega)
    (by omega), hdate, hdays]
  simp only [msPerDay] at *
  omega

/-- A time value is read back from its text. -/
theorem dateParse_toISOString (t : Instant) : dateParse (toISOString t.1) = some t := by
  have hread := readIso_toISOString t
  rw [dateParse, dif_pos (by rw [hread]; exact t.2)]
  simp [hread]

/-! ## A date is a text -/

theorem decimal_no_whitespace {width n : Nat} {u : UInt16} (h : u ∈ decimal width n) :
    isWhitespace u = false := by
  have hdigits : ∀ d : Fin 10, isWhitespace (UInt16.ofNat (48 + d)) = false := by decide
  induction width generalizing n with
  | zero => cases h
  | succ width ih =>
    rcases List.mem_append.mp h with h | h
    · exact ih h
    · rw [List.mem_singleton.mp h, digit]
      exact hdigits ⟨n % 10, Nat.mod_lt n (by decide)⟩

theorem mark_no_whitespace {mark : JsString} (hmark : mark.all (!isWhitespace ·) = true) {v : UInt16} (hv : v ∈ mark) :
    isWhitespace v = false := by
  simpa using List.all_eq_true.mp hmark v hv

theorem fieldsText_no_whitespace {M D h m s u : Nat} {v : UInt16} (hv : v ∈ fieldsText M D h m s u) :
    isWhitespace v = false := by
  simp only [fieldsText, List.mem_append] at hv
  rcases hv with (((((((((((hv | hv) | hv) | hv) | hv) | hv) | hv) | hv) | hv) | hv) | hv) | hv) | hv <;>
    first | exact decimal_no_whitespace hv | exact mark_no_whitespace (by decide) hv

/-- The text of a date starts and ends with no white space. -/
theorem textOf?_toISOString (t : Int) : ∃ text : Text, text.1 = toISOString t ∧ textOf? (toISOString t) = some text := by
  have hunits : ∀ u ∈ toISOString t, isWhitespace u = false := by
    intro u hu
    rw [toISOString] at hu
    rcases List.mem_append.mp hu with hu | hu
    · rw [yearText] at hu
      split at hu
      · exact decimal_no_whitespace hu
      · rcases List.mem_cons.mp hu with rfl | hu
        · split <;> decide
        · exact decimal_no_whitespace hu
    · exact fieldsText_no_whitespace hu
  have htrim := trim_of_no_whitespace hunits
  have hne : toISOString t ≠ [] := by
    intro hnil
    have hlen := congrArg List.length hnil
    rw [toISOString, List.length_append, fieldsText_length] at hlen
    simp at hlen
  exact ⟨⟨toISOString t, htrim, hne⟩, rfl, textOf?_text ⟨toISOString t, htrim, hne⟩⟩

end Beale.Library
