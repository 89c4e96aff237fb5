import AhsApp.Android.Article
import Mathlib.Algebra.Group.Int.Defs
import Mathlib.Algebra.Group.Nat.Defs
import Mathlib.Data.List.Lex

/-! The orders in which the Android application lists its articles and notifications. -/

namespace AhsApp.Android

/-- A `long`: the value modulo two to the sixty-fourth, with a sign. -/
def long (value : Int) : Int := value.bmod (2 ^ 64)

/-- `(int)`: the value modulo two to the thirty-second, with a sign. -/
def int (value : Int) : Int := value.bmod (2 ^ 32)

/-- The milliseconds since a time in seconds; `now` is what the clock shows. -/
def timeFromNow (now time : Int) : Int := long (now - long (time * 1000))

/-- `Math.abs`. -/
def longAbs (value : Int) : Int := long value.natAbs

/-- The UTF-16 code units of a character. -/
def codeUnits (char : Char) : List Nat :=
  if char.toNat < 0x10000 then [char.toNat]
  else [0xD800 + (char.toNat - 0x10000) / 0x400, 0xDC00 + (char.toNat - 0x10000) % 0x400]

def compareUnits : List Nat → List Nat → Int
  | [], others => -(others.length : Int)
  | units, [] => units.length
  | unit :: rest, other :: others =>
    if unit = other then compareUnits rest others else (unit : Int) - other

/-- `String.compareTo`. -/
def compareTo (text other : String) : Int :=
  compareUnits (text.toList.flatMap codeUnits) (other.toList.flatMap codeUnits)

/-- Future events before past ones, then what is closest to the present, then by title. -/
def BulletinArticle.compare (now : Int) (o1 o2 : BulletinArticle) : Int :=
  let diff1 := timeFromNow now o1.time
  let diff2 := timeFromNow now o2.time
  if diff1 > 0 ∧ diff2 < 0 then 1
  else if diff1 < 0 ∧ diff2 > 0 then -1
  else if longAbs diff1 > longAbs diff2 then 1
  else if longAbs diff1 < longAbs diff2 then -1
  else compareTo o1.title o2.title

/-- The latest first, then by title; comparing with a missing title throws. -/
def NotifData.compare (o1 o2 : NotifData) : Option Int :=
  let timeDiff := long (o1.time - o2.time)
  if timeDiff < 0 then some 1
  else if timeDiff > 0 then some (-1)
  else do
    let title ← o1.title
    let other ← o2.title
    some (compareTo title other)

theorem NotifData.compare_isSome {o1 o2 : NotifData} (first : o1.title.isSome)
    (second : o2.title.isSome) : (compare o1 o2).isSome := by
  obtain ⟨title, titled⟩ := Option.isSome_iff_exists.mp first
  obtain ⟨other, titled'⟩ := Option.isSome_iff_exists.mp second
  rw [compare, titled, titled']
  split_ifs <;> rfl

theorem long_cases (value : Int) :
    (-2 ^ 63 ≤ long value ∧ long value < 2 ^ 63) ∧ ∃ turns, long value = value + turns * 2 ^ 64 := by
  rw [long, Int.bmod_def]
  split
  · exact ⟨by omega, -(value / 2 ^ 64), by omega⟩
  · exact ⟨by omega, -(value / 2 ^ 64) - 1, by omega⟩

theorem int_cases (value : Int) :
    (-2 ^ 31 ≤ int value ∧ int value < 2 ^ 31) ∧ ∃ turns, int value = value + turns * 2 ^ 32 := by
  rw [int, Int.bmod_def]
  split
  · exact ⟨by omega, -(value / 2 ^ 32), by omega⟩
  · exact ⟨by omega, -(value / 2 ^ 32) - 1, by omega⟩

theorem long_eq_self {value : Int} (lower : -2 ^ 63 ≤ value) (upper : value < 2 ^ 63) :
    long value = value := by
  obtain ⟨_, turns, same⟩ := long_cases value
  omega

theorem longAbs_eq_natAbs {value : Int} (lower : -2 ^ 63 < value) (upper : value < 2 ^ 63) :
    longAbs value = value.natAbs := long_eq_self (by omega) (by omega)

def utf16 (text : String) : List Nat := text.toList.flatMap codeUnits

private theorem compareUnits_sign (units others : List Nat) :
    (compareUnits units others < 0 ↔ units < others) ∧
      (0 < compareUnits units others ↔ others < units) := by
  induction units generalizing others with
  | nil => cases others <;> simp [compareUnits]; omega
  | cons unit rest ih =>
    cases others with
    | nil => simp [compareUnits]; omega
    | cons other others =>
      rw [compareUnits, List.cons_lt_cons_iff, List.cons_lt_cons_iff]
      by_cases same : unit = other
      · subst other
        simpa using ih others
      · rw [if_neg same]
        omega

theorem compareTo_sign (text other : String) :
    (compareTo text other < 0 ↔ utf16 text < utf16 other) ∧
      (0 < compareTo text other ↔ utf16 other < utf16 text) :=
  compareUnits_sign (utf16 text) (utf16 other)

end AhsApp.Android
