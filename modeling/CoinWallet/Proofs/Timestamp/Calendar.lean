import CoinWallet.Timestamp.Calendar

set_option autoImplicit false

namespace CoinWallet.CivilDate

-- a day of an era of four hundred years by its century, its four years, the year among these and
-- its day: the last year of the four has a leap day, other than at the end of a century that does
-- not end the era
structure InEra (day century four year rest : Int) : Prop where
  total : day = 36524 * century + 1461 * four + 365 * year + rest
  centuries : 0 ≤ century ∧ century ≤ 3
  fours : 0 ≤ four ∧ four ≤ 24
  years : 0 ≤ year ∧ year ≤ 3
  days : 0 ≤ rest ∧ rest ≤ 365
  leap : rest = 365 → year = 3 ∧ (four = 24 → century = 3)

theorem exists_inEra {day : Int} (least : 0 ≤ day) (most : day < 146097) :
    ∃ century four year rest, InEra day century four year rest := by
  refine ⟨min (day / 36524) 3, (day - 36524 * min (day / 36524) 3) / 1461,
    min ((day - 36524 * min (day / 36524) 3) % 1461 / 365) 3,
    (day - 36524 * min (day / 36524) 3) % 1461 -
      365 * min ((day - 36524 * min (day / 36524) 3) % 1461 / 365) 3, ?_⟩
  constructor <;> omega

theorem InEra.yearOfEra {day century four year rest : Int}
    (placed : InEra day century four year rest) :
    (day - day / 1460 + day / 36524 - day / 146096) / 365 = 100 * century + 4 * four + year := by
  obtain ⟨total, _, fours, years, days, leap⟩ := placed
  have century_cases : century = 0 ∨ century = 1 ∨ century = 2 ∨ century = 3 := by omega
  -- the last day of the era is the one at which both quotients are one too many
  have centuries : day / 36524 - day / 146096 = century := by
    rcases century_cases with rfl | rfl | rfl | rfl <;> omega
  have fours : day / 1460 = 25 * century + four ∧ rest < 365 ∨
      day / 1460 = 25 * century + four + 1 ∧ 0 < rest := by omega
  omega

theorem InEra.dayOfYear {day century four year rest : Int}
    (placed : InEra day century four year rest) :
    day - (365 * (100 * century + 4 * four + year) + (100 * century + 4 * four + year) / 4 -
      (100 * century + 4 * four + year) / 100) = rest := by
  obtain ⟨total, _, _, _, _, _⟩ := placed
  omega

-- a date by its year, counted from March, and the day of that year
def ofMarch (year day : Int) : CivilDate :=
  let monthFromMarch := (5 * day + 2) / 153
  let month := if monthFromMarch < 10 then monthFromMarch + 3 else monthFromMarch - 9
  { year := if month ≤ 2 then year + 1 else year, month := month.toNat
    day := (day - (153 * monthFromMarch + 2) / 5 + 1).toNat }

theorem ofDays_eq (days : Int) :
    ∃ century four year rest, InEra ((days + 719468) % 146097) century four year rest ∧
      ofDays days =
        ofMarch (100 * century + 4 * four + year + (days + 719468) / 146097 * 400) rest := by
  obtain ⟨century, four, year, rest, placed⟩ :=
    exists_inEra (Int.emod_nonneg (days + 719468) (by decide : (146097 : Int) ≠ 0))
      (Int.emod_lt_of_pos (days + 719468) (by decide : (0 : Int) < 146097))
  refine ⟨century, four, year, rest, placed, ?_⟩
  simp only [ofDays, ofMarch, placed.yearOfEra, placed.dayOfYear]

theorem month_ofMarch (year : Int) {day : Int} (least : 0 ≤ day) (most : day ≤ 365) :
    1 ≤ (ofMarch year day).month ∧ (ofMarch year day).month ≤ 12 ∧
      ((ofMarch year day).month ≤ 2 ↔ 306 ≤ day) := by
  simp only [ofMarch]
  split <;> omega

theorem year_ofMarch (year : Int) {day : Int} (least : 0 ≤ day) (most : day ≤ 365) :
    (ofMarch year day).year = if 306 ≤ day then year + 1 else year := by
  simp only [ofMarch]
  split <;> split <;> split <;> omega

theorem toDays_ofMarch (year : Int) {day : Int} (least : 0 ≤ day) (most : day ≤ 365) :
    (ofMarch year day).toDays =
      year / 400 * 146097 + (year % 400 * 365 + year % 400 / 4 - year % 400 / 100 + day) - 719468 := by
  simp only [toDays, ofMarch]
  split <;> split <;> split <;> omega

theorem InEra.yearOfEra_bounds {day century four year rest : Int}
    (placed : InEra day century four year rest) :
    0 ≤ 100 * century + 4 * four + year ∧ 100 * century + 4 * four + year < 400 := by
  obtain ⟨_, centuries, fours, years, _, _⟩ := placed
  omega

theorem toDays_ofDays (days : Int) : (ofDays days).toDays = days := by
  obtain ⟨century, four, year, rest, placed, same⟩ := ofDays_eq days
  have dayOfYear := placed.dayOfYear
  have inEra := placed.yearOfEra_bounds
  rw [same, toDays_ofMarch _ placed.days.1 placed.days.2,
    Int.add_mul_ediv_right _ _ (by decide), Int.add_mul_emod_self_right,
    Int.ediv_eq_zero_of_lt inEra.1 inEra.2, Int.emod_eq_of_lt inEra.1 inEra.2]
  omega

theorem isLeap_iff (year : Int) :
    isLeap year = true ↔ year % 4 = 0 ∧ (year % 100 ≠ 0 ∨ year % 400 = 0) := by
  simp [isLeap]

theorem day_ofMarch {year day : Int} (least : 0 ≤ day) (most : day ≤ 365)
    (leap : day = 365 → isLeap (year + 1) = true) :
    1 ≤ (ofMarch year day).day ∧
      (ofMarch year day).day ≤ monthLength (ofMarch year day).year (ofMarch year day).month := by
  have months : ∃ month : Int, (0 ≤ month ∧ month ≤ 11) ∧ (5 * day + 2) / 153 = month :=
    ⟨_, by omega, rfl⟩
  obtain ⟨month, range, same⟩ := months
  simp only [ofMarch, same]
  by_cases february : month = 11
  next =>
    subst february
    by_cases last : day = 365
    next => simp [monthLength, leap last, last]
    next =>
      simp [monthLength]
      split <;> omega
  next =>
    have each : month = 0 ∨ month = 1 ∨ month = 2 ∨ month = 3 ∨ month = 4 ∨ month = 5 ∨
      month = 6 ∨ month = 7 ∨ month = 8 ∨ month = 9 ∨ month = 10 := by omega
    rcases each with rfl | rfl | rfl | rfl | rfl | rfl | rfl | rfl | rfl | rfl | rfl <;>
      simp [monthLength] <;> omega

theorem ofDays_inMonth (days : Int) :
    (1 ≤ (ofDays days).month ∧ (ofDays days).month ≤ 12) ∧
      1 ≤ (ofDays days).day ∧
        (ofDays days).day ≤ monthLength (ofDays days).year (ofDays days).month := by
  obtain ⟨century, four, year, rest, placed, same⟩ := ofDays_eq days
  obtain ⟨least, most⟩ := placed.days
  have month := month_ofMarch (100 * century + 4 * four + year + (days + 719468) / 146097 * 400)
    least most
  have leap : rest = 365 →
      isLeap (100 * century + 4 * four + year + (days + 719468) / 146097 * 400 + 1) = true := by
    intro last
    obtain ⟨_, centuries, fours, _, _, leap⟩ := placed
    obtain ⟨lastYear, unlessEra⟩ := leap last
    rw [isLeap_iff]
    omega
  rw [same]
  exact ⟨⟨month.1, month.2.1⟩, day_ofMarch least most leap⟩

-- the days of the years 1 to 9999
theorem year_ofDays_iff (days : Int) :
    (1 ≤ (ofDays days).year ∧ (ofDays days).year ≤ 9999) ↔ -719162 ≤ days ∧ days ≤ 2932896 := by
  obtain ⟨century, four, year, rest, placed, same⟩ := ofDays_eq days
  have inEra := placed.yearOfEra_bounds
  obtain ⟨total, _, _, _, bounds, leap⟩ := placed
  rw [same, year_ofMarch _ bounds.1 bounds.2]
  constructor
  next =>
    intro range
    have eras : 0 ≤ (days + 719468) / 146097 ∧ (days + 719468) / 146097 ≤ 24 := by
      split at range <;> omega
    split at range <;> omega
  next =>
    intro range
    split <;> omega

end CoinWallet.CivilDate
