import AhsApp.Android.Comparison
import Mathlib.Algebra.Order.Floor.Ring
import Mathlib.Data.Prod.Lex
import Mathlib.Data.Rat.Floor
import Mathlib.Tactic.Linarith
import Mathlib.Tactic.NormNum

/-! The age of an article or a notification in words. One function chooses the unit, from
32 bits of the number of days and of hours; another converts to it and rounds. -/

namespace AhsApp.Android

/-- The units of `java.util.concurrent` that are used. -/
inductive TimeUnit where
  | minutes
  | hours
  | days
  deriving DecidableEq

/-- Milliseconds in the unit, truncated towards zero. -/
def TimeUnit.convert (unit : TimeUnit) (time : Int) : Int :=
  match unit with
  | minutes => time.tdiv 60000
  | hours => time.tdiv 3600000
  | days => time.tdiv 86400000

/-- `Math.abs` of an `int`. -/
def intAbs (value : Int) : Int := int value.natAbs

def getLogicalTimeUnit (timeDifference : Int) : TimeUnit :=
  let timeInUnits := intAbs (int (TimeUnit.days.convert timeDifference))
  if timeInUnits < 1 then
    let timeInUnits := intAbs (int (TimeUnit.hours.convert timeDifference))
    if timeInUnits < 1 then .minutes else .hours
  else .days

/-- The plurals of the string resources, from the shortest unit to the longest. -/
inductive TimePlurals where
  | timeMinutes
  | timeHours
  | timeDays
  | timeWeeks
  | timeMonths
  | timeYears
  deriving DecidableEq

namespace TimePlurals

def rank : TimePlurals → Nat
  | timeMinutes => 0
  | timeHours => 1
  | timeDays => 2
  | timeWeeks => 3
  | timeMonths => 4
  | timeYears => 5

def one : TimePlurals → String
  | timeMinutes => "minute"
  | timeHours => "hour"
  | timeDays => "day"
  | timeWeeks => "week"
  | timeMonths => "month"
  | timeYears => "year"

def other (plurals : TimePlurals) : String := plurals.one ++ "s"

end TimePlurals

/-- The unit, the number and the direction that a text shows. -/
structure TimeText where
  plurals : TimePlurals
  timeVal : Int
  after : String
  deriving DecidableEq

/-- The quantity that selects the plural has 32 bits. -/
def TimeText.text (shown : TimeText) : String :=
  toString shown.timeVal ++ " " ++
    (if int shown.timeVal = 1 then shown.plurals.one else shown.plurals.other) ++ " " ++ shown.after

/-- `Math.round`. -/
def mathRound (value : ℚ) : Int := ⌊value + 1 / 2⌋

/-- The text for a time that was converted to the unit. -/
def timeText (unit : TimeUnit) (timeVal : Int) : TimeText :=
  let after := if timeVal < 0 then "from now" else "ago"
  let timeVal := if timeVal < 0 then -timeVal else timeVal
  match unit with
  | .minutes => ⟨.timeMinutes, timeVal, after⟩
  | .hours => ⟨.timeHours, timeVal, after⟩
  | .days =>
    if timeVal < 7 then ⟨.timeDays, timeVal, after⟩
    else if timeVal < 30 then ⟨.timeWeeks, mathRound (timeVal / 7), after⟩
    else if timeVal < 365 then ⟨.timeMonths, mathRound (timeVal / 30), after⟩
    else ⟨.timeYears, mathRound (timeVal / 365.24), after⟩

def setTimeTextToView (time : Int) : TimeText :=
  let unit := getLogicalTimeUnit time
  timeText unit (unit.convert time)

/-- What is shown, in the order of the units and then of the numbers. -/
def TimeText.age (shown : TimeText) : ℕ ×ₗ Int := toLex (shown.plurals.rank, shown.timeVal)

def shownAge (time : Int) : ℕ ×ₗ Int := (setTimeTextToView time).age

/-- Two differences are shown in their order, with a positive number from a minute on. -/
def AgesMonotone (d1 d2 : Int) : Prop :=
  shownAge d1 ≤ shownAge d2 ∧ (60000 ≤ d1 → 1 ≤ (setTimeTextToView d1).timeVal) ∧
    (60000 ≤ d2 → 1 ≤ (setTimeTextToView d2).timeVal)

/-- Of the number of whole days 31 bits are zero. -/
def DaysVanish (time : Int) : Prop := time / 86400000 % 2 ^ 31 = 0

def HoursVanish (time : Int) : Prop := time / 3600000 % 2 ^ 31 = 0

/-- If the days of the later difference vanish in 32 bits, so do those of the earlier one;
and the same then of the hours. -/
def VanishAlike (d1 d2 : Int) : Prop :=
  (DaysVanish d2 → DaysVanish d1) ∧ (DaysVanish d2 → HoursVanish d2 → HoursVanish d1)

private theorem intAbs_lt_one_iff {value : Int} : intAbs (int value) < 1 ↔ value % 2 ^ 31 = 0 := by
  obtain ⟨range, turns, narrowed⟩ := int_cases value
  obtain ⟨range', turns', narrowed'⟩ := int_cases ((int value).natAbs : Int)
  rw [intAbs]
  omega

private theorem getLogicalTimeUnit_cases {time : Int} (nonneg : 0 ≤ time) :
    (¬ DaysVanish time ∧ getLogicalTimeUnit time = .days) ∨
      (DaysVanish time ∧ ¬ HoursVanish time ∧ getLogicalTimeUnit time = .hours) ∨
      (DaysVanish time ∧ HoursVanish time ∧ getLogicalTimeUnit time = .minutes) := by
  simp only [getLogicalTimeUnit, TimeUnit.convert, Int.tdiv_eq_ediv_of_nonneg nonneg,
    intAbs_lt_one_iff]
  rw [DaysVanish, HoursVanish]
  split
  · split
    · exact .inr (.inr ⟨‹_›, ‹_›, rfl⟩)
    · exact .inr (.inl ⟨‹_›, ‹_›, rfl⟩)
  · exact .inl ⟨‹_›, rfl⟩

/-- What is shown for a number of days. -/
def shownDays (days : Int) : ℕ ×ₗ Int :=
  if days < 7 then toLex (2, days)
  else if days < 30 then toLex (3, mathRound (days / 7))
  else if days < 365 then toLex (4, mathRound (days / 30))
  else toLex (5, mathRound (days / 365.24))

private theorem timeText_days {days : Int} (nonneg : 0 ≤ days) :
    (timeText .days days).age = shownDays days := by
  simp only [TimeText.age, timeText, if_neg nonneg.not_gt, shownDays]
  split_ifs <;> rfl

private theorem shownAge_of_days {time : Int} (nonneg : 0 ≤ time)
    (unit : getLogicalTimeUnit time = .days) : shownAge time = shownDays (time / 86400000) := by
  have converted : TimeUnit.days.convert time = time / 86400000 :=
    Int.tdiv_eq_ediv_of_nonneg nonneg
  rw [← timeText_days (Int.ediv_nonneg nonneg (by decide)), ← converted, ← unit]
  rfl

private theorem shownAge_of_hours {time : Int} (nonneg : 0 ≤ time)
    (unit : getLogicalTimeUnit time = .hours) : shownAge time = toLex (1, time / 3600000) := by
  have converted : TimeUnit.hours.convert time = time / 3600000 :=
    Int.tdiv_eq_ediv_of_nonneg nonneg
  have hours : ¬ time / 3600000 < 0 := (Int.ediv_nonneg nonneg (by decide)).not_gt
  have shown : timeText .hours (time / 3600000) = ⟨.timeHours, time / 3600000, "ago"⟩ := by
    generalize time / 3600000 = timeVal at hours ⊢
    simp only [timeText, if_neg hours]
  rw [shownAge, setTimeTextToView, unit, converted, shown, TimeText.age, TimePlurals.rank]

private theorem shownAge_of_minutes {time : Int} (nonneg : 0 ≤ time)
    (unit : getLogicalTimeUnit time = .minutes) : shownAge time = toLex (0, time / 60000) := by
  have converted : TimeUnit.minutes.convert time = time / 60000 :=
    Int.tdiv_eq_ediv_of_nonneg nonneg
  have minutes : ¬ time / 60000 < 0 := (Int.ediv_nonneg nonneg (by decide)).not_gt
  have shown : timeText .minutes (time / 60000) = ⟨.timeMinutes, time / 60000, "ago"⟩ := by
    generalize time / 60000 = timeVal at minutes ⊢
    simp only [timeText, if_neg minutes]
  rw [shownAge, setTimeTextToView, unit, converted, shown, TimeText.age, TimePlurals.rank]

private theorem mathRound_mono {value other : ℚ} (upTo : value ≤ other) :
    mathRound value ≤ mathRound other := Int.floor_le_floor (by linarith)

private theorem le_of_rank_lt {shown shown' : ℕ ×ₗ Int}
    (longer : (ofLex shown).1 < (ofLex shown').1) :
    shown ≤ shown' := Prod.Lex.le_iff.mpr (.inl longer)

private theorem not_le_of_rank_lt {shown shown' : ℕ ×ₗ Int}
    (shorter : (ofLex shown').1 < (ofLex shown).1) : ¬ shown ≤ shown' :=
  not_le.mpr (Prod.Lex.lt_iff.mpr (.inl shorter))

private theorem toLex_le_of_le {rank : ℕ} {timeVal timeVal' : Int} (upTo : timeVal ≤ timeVal') :
    toLex (rank, timeVal) ≤ toLex (rank, timeVal') := Prod.Lex.toLex_le_toLex.mpr (.inr ⟨rfl, upTo⟩)

private theorem mathRound_div_mono {d1 d2 : Int} (upTo : d1 ≤ d2) {divisor : ℚ}
    (positive : 0 ≤ divisor) :
    mathRound (d1 / divisor) ≤ mathRound (d2 / divisor) :=
  mathRound_mono (div_le_div_of_nonneg_right (Int.cast_le.mpr upTo) positive)

/-- More days never look newer: they stay in a unit and its number does not decrease, or
pass to a longer unit. -/
theorem shownDays_mono {d1 d2 : Int} (upTo : d1 ≤ d2) : shownDays d1 ≤ shownDays d2 := by
  unfold shownDays
  split_ifs
  all_goals first
    | omega
    | exact toLex_le_of_le upTo
    | exact le_of_rank_lt (of_decide_eq_true rfl)
    | refine toLex_le_of_le (mathRound_div_mono upTo ?_)
      norm_num

private theorem shownDays_pos {days : Int} (positive : 1 ≤ days) :
    1 ≤ (ofLex (shownDays days)).2 := by
  unfold shownDays
  split_ifs with week month year
  · exact positive
  · have : (7 : ℚ) ≤ days := by exact_mod_cast not_lt.mp week
    exact Int.le_floor.mpr (by push_cast; linarith)
  · have : (30 : ℚ) ≤ days := by exact_mod_cast not_lt.mp month
    exact Int.le_floor.mpr (by push_cast; linarith)
  · have : (365 : ℚ) ≤ days := by exact_mod_cast not_lt.mp year
    refine Int.le_floor.mpr ?_
    norm_num
    linarith

private theorem two_le_rank_shownDays (days : Int) : 2 ≤ (ofLex (shownDays days)).1 := by
  unfold shownDays
  split_ifs <;> simp

theorem TimeText.ofLex_age (shown : TimeText) : (ofLex shown.age).2 = shown.timeVal := rfl

/-- An age of at least a minute is shown with a positive number. -/
theorem timeVal_pos {time : Int} (minute : 60000 ≤ time) :
    1 ≤ (setTimeTextToView time).timeVal := by
  rw [← TimeText.ofLex_age, ← shownAge]
  have nonneg : 0 ≤ time := by omega
  rcases getLogicalTimeUnit_cases nonneg with ⟨days, unit⟩ | ⟨_, hours, unit⟩ | ⟨_, _, unit⟩
  · rw [shownAge_of_days nonneg unit]
    rw [DaysVanish] at days
    exact shownDays_pos (by omega)
  · rw [shownAge_of_hours nonneg unit]
    rw [HoursVanish] at hours
    change 1 ≤ time / 3600000
    omega
  · rw [shownAge_of_minutes nonneg unit]
    change 1 ≤ time / 60000
    omega

/-- The units that are chosen, from the shortest one. -/
def TimeUnit.rank : TimeUnit → Nat
  | minutes => 0
  | hours => 1
  | days => 2

theorem TimeUnit.rank_inj {unit unit' : TimeUnit} (same : unit.rank = unit'.rank) :
    unit = unit' := by
  cases unit <;> cases unit' <;> first | rfl | cases same

private theorem rank_shownAge {time : Int} (nonneg : 0 ≤ time) :
    min (ofLex (shownAge time)).1 2 = (getLogicalTimeUnit time).rank := by
  rcases getLogicalTimeUnit_cases nonneg with ⟨_, unit⟩ | ⟨_, _, unit⟩ | ⟨_, _, unit⟩
  · rw [shownAge_of_days nonneg unit, unit]
    exact min_eq_right (two_le_rank_shownDays _)
  · rw [shownAge_of_hours nonneg unit, unit]
    rfl
  · rw [shownAge_of_minutes nonneg unit, unit]
    rfl

private theorem vanishAlike_iff {d1 d2 : Int} (nonneg : 0 ≤ d1) (nonneg' : 0 ≤ d2) :
    VanishAlike d1 d2 ↔ (getLogicalTimeUnit d1).rank ≤ (getLogicalTimeUnit d2).rank := by
  have units := getLogicalTimeUnit_cases nonneg
  have units' := getLogicalTimeUnit_cases nonneg'
  rw [VanishAlike]
  generalize DaysVanish d1 = days, HoursVanish d1 = hours, getLogicalTimeUnit d1 = unit at units ⊢
  generalize DaysVanish d2 = days', HoursVanish d2 = hours', getLogicalTimeUnit d2 = unit'
    at units' ⊢
  rcases units with ⟨long, rfl⟩ | ⟨noDays, long, rfl⟩ | ⟨noDays, noHours, rfl⟩ <;>
  rcases units' with ⟨long', rfl⟩ | ⟨noDays', long', rfl⟩ | ⟨noDays', noHours', rfl⟩ <;>
  simp [TimeUnit.rank, *]

private theorem shownAge_mono_of_unit {d1 d2 : Int} (nonneg : 0 ≤ d1) (upTo : d1 ≤ d2)
    (same : getLogicalTimeUnit d1 = getLogicalTimeUnit d2) : shownAge d1 ≤ shownAge d2 := by
  have nonneg' : 0 ≤ d2 := nonneg.trans upTo
  rcases getLogicalTimeUnit_cases nonneg with ⟨_, unit⟩ | ⟨_, _, unit⟩ | ⟨_, _, unit⟩
  · rw [shownAge_of_days nonneg unit, shownAge_of_days nonneg' (same.symm.trans unit)]
    exact shownDays_mono (Int.ediv_le_ediv (by decide) upTo)
  · rw [shownAge_of_hours nonneg unit, shownAge_of_hours nonneg' (same.symm.trans unit)]
    exact toLex_le_of_le (Int.ediv_le_ediv (by decide) upTo)
  · rw [shownAge_of_minutes nonneg unit, shownAge_of_minutes nonneg' (same.symm.trans unit)]
    exact toLex_le_of_le (Int.ediv_le_ediv (by decide) upTo)

private theorem shownAge_mono_iff {d1 d2 : Int} (nonneg : 0 ≤ d1) (upTo : d1 ≤ d2) :
    shownAge d1 ≤ shownAge d2 ↔ VanishAlike d1 d2 := by
  have nonneg' : 0 ≤ d2 := nonneg.trans upTo
  have rank := rank_shownAge nonneg
  have rank' := rank_shownAge nonneg'
  rw [vanishAlike_iff nonneg nonneg']
  rcases lt_trichotomy (getLogicalTimeUnit d1).rank (getLogicalTimeUnit d2).rank with
    shorter | same | longer
  · exact iff_of_true (le_of_rank_lt (by omega)) shorter.le
  · exact iff_of_true (shownAge_mono_of_unit nonneg upTo (TimeUnit.rank_inj same)) same.le
  · exact iff_of_false (not_le_of_rank_lt (by omega)) longer.not_ge

/-- An older article never looks newer exactly if the numbers that decide on its unit vanish
in 32 bits only where those of the newer one do. -/
theorem ages_monotone_iff {d1 d2 : Int} (nonneg : 0 ≤ d1) (upTo : d1 ≤ d2) :
    AgesMonotone d1 d2 ↔ VanishAlike d1 d2 := by
  rw [← shownAge_mono_iff nonneg upTo]
  exact ⟨And.left, fun ordered => ⟨ordered, timeVal_pos, timeVal_pos⟩⟩

/-- Nothing but zero vanishes before `2 ^ 31` days. -/
theorem vanishAlike_of_lt {d1 d2 : Int} (nonneg : 0 ≤ d1) (upTo : d1 ≤ d2)
    (short : d2 < 2 ^ 31 * 86400000) : VanishAlike d1 d2 := by
  simp only [VanishAlike, DaysVanish, HoursVanish]
  omega

theorem two_hours_ten_days_monotone : AgesMonotone 7200000 864000000 :=
  (ages_monotone_iff (by decide) (by decide)).mpr
    (vanishAlike_of_lt (by decide) (by decide) (by norm_num))

/-- A day, and the first number of days whose 32 bits are those of no day. -/
theorem vanishing_days_look_newer :
    setTimeTextToView 86400000 = ⟨.timeDays, 1, "ago"⟩ ∧
    setTimeTextToView 185542587187200000 = ⟨.timeMinutes, 3092376453120, "ago"⟩ ∧
    ¬ AgesMonotone 86400000 185542587187200000 :=
  ⟨by decide, by decide, fun monotone => absurd monotone.1 (by decide)⟩

end AhsApp.Android
