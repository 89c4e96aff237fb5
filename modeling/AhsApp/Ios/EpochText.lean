import AhsApp.Firebase.DataSnapshot
import Mathlib.Data.List.Infix

/-! The age of an article or a notification in words. A loop looks for the first unit that
is too long and names the one before it. -/

namespace AhsApp.Ios

open AhsApp.Firebase

/-- A result of 64-bit arithmetic; overflow traps. -/
def checked (value : Int) : Option Int :=
  if DataSnapshot.int64Min ≤ value ∧ value ≤ DataSnapshot.int64Max then some value else none

def timePattern : List (Nat × String) :=
  [(1, "second"), (60, "minute"), (3600, "hour"), (86400, "day"), (604800, "week"),
    (2592000, "month"), (31536000, "year"), (315360000, "decade"), (3153600000, "century")]

/-- A number of units. -/
def counted (count : Nat) (unit : String) : String :=
  toString count ++ " " ++ unit ++ if count > 1 then "s" else ""

/-- The loop over the indices that remain; `r` starts as `"NULL"`. -/
def unitLoop (diff : Nat) : List Nat → Option String
  | [] => some "NULL"
  | i :: rest => do
    let pattern ← timePattern[i]?
    if diff / pattern.1 = 0 then
      let previous ← timePattern[i - 1]?
      some (counted (diff / previous.1) previous.2)
    else unitLoop diff rest

def epochToString (currTime epoch : Int) : Option String :=
  if epoch = -1 then some "NULL"
  else do
    let difference ← checked (currTime - epoch)
    let diff ← checked difference.natAbs
    let r ← unitLoop diff.toNat (List.range' 1 8)
    some (if difference < 0 then "in " ++ r else r ++ " ago")

/-- The largest unit that does not exceed the difference; of no difference, the second. -/
structure NamesUnit (diff : Nat) (unit : Nat × String) : Prop where
  listed : unit ∈ timePattern
  fits : unit.1 ≤ max diff 1
  largest : ∀ other ∈ timePattern, other.1 ≤ max diff 1 → other.1 ≤ unit.1

/-- The text tells how many of the right units ago or ahead the time is. -/
def NamesAge (currTime epoch : Int) : Prop :=
  ∃ text unit, epochToString currTime epoch = some text ∧
    NamesUnit (currTime - epoch).natAbs unit ∧
    text = (if currTime - epoch < 0 then
      "in " ++ counted ((currTime - epoch).natAbs / unit.1) unit.2
      else counted ((currTime - epoch).natAbs / unit.1) unit.2 ++ " ago") ∧
    (1 ≤ (currTime - epoch).natAbs / unit.1 ∨ (currTime - epoch).natAbs = 0) ∧
    ¬ "NULL".toList <:+: text.toList

private theorem timePattern_mono : ∀ i j : Fin 9, i ≤ j →
    (timePattern.get i).1 ≤ (timePattern.get j).1 := by decide

private theorem timePattern_pos : ∀ unit ∈ timePattern, 1 ≤ unit.1 := by decide

private theorem namesUnit_of_first {diff i : Nat} {pattern previous : Nat × String}
    (here : timePattern[i + 1]? = some pattern) (before : timePattern[i]? = some previous)
    (reached : previous.1 ≤ max diff 1) (tooLong : diff < pattern.1) :
    NamesUnit diff previous := by
  obtain ⟨bound, rfl⟩ := List.getElem?_eq_some_iff.mp here
  obtain ⟨bound', rfl⟩ := List.getElem?_eq_some_iff.mp before
  refine ⟨List.getElem_mem bound', reached, fun other member upTo => ?_⟩
  obtain ⟨j, inside, rfl⟩ := List.mem_iff_getElem.mp member
  rcases Nat.lt_or_ge i j with after | upToHere
  · have longer : timePattern[i + 1].1 ≤ timePattern[j].1 :=
      timePattern_mono ⟨i + 1, bound⟩ ⟨j, inside⟩ after
    have minute : 60 ≤ timePattern[i + 1].1 :=
      timePattern_mono ⟨1, by decide⟩ ⟨i + 1, bound⟩ (Nat.le_add_left 1 i)
    omega
  · exact timePattern_mono ⟨j, inside⟩ ⟨i, bound'⟩ upToHere

/-- From any index the loop names the right unit, unless a century has passed. -/
theorem unitLoop_spec {diff i count : Nat} (length : i + 1 + count = 9)
    (reached : ∃ previous, timePattern[i]? = some previous ∧ previous.1 ≤ max diff 1) :
    (∃ unit, NamesUnit diff unit ∧ diff < 3153600000 ∧
        unitLoop diff (List.range' (i + 1) count) = some (counted (diff / unit.1) unit.2)) ∨
      (3153600000 ≤ diff ∧ unitLoop diff (List.range' (i + 1) count) = some "NULL") := by
  induction count generalizing i with
  | zero =>
    obtain rfl : i = 8 := by omega
    obtain ⟨previous, here, upTo⟩ := reached
    obtain rfl : (3153600000, "century") = previous := Option.some.inj here
    exact .inr ⟨by omega, rfl⟩
  | succ count ih =>
    obtain ⟨previous, before, upTo⟩ := reached
    have bound : i + 1 < timePattern.length := by
      change i + 1 < 9
      omega
    have here : timePattern[i + 1]? = some timePattern[i + 1] := List.getElem?_eq_getElem bound
    have positive : 1 ≤ timePattern[i + 1].1 :=
      timePattern_pos _ (List.getElem_mem bound)
    simp only [List.range'_succ, unitLoop, here, Option.bind_eq_bind, Option.bind_some,
      Nat.add_sub_cancel, before]
    by_cases tooLong : diff < timePattern[i + 1].1
    · rw [if_pos (Nat.div_eq_of_lt tooLong)]
      have century : timePattern[i + 1].1 ≤ 3153600000 :=
        timePattern_mono ⟨i + 1, bound⟩ ⟨8, by decide⟩ (by change i + 1 ≤ 8; omega)
      exact .inl ⟨previous, namesUnit_of_first here before upTo tooLong, by omega, rfl⟩
    · rw [if_neg fun zero => tooLong ((Nat.div_eq_zero_iff_lt positive).mp zero)]
      exact ih (by omega) ⟨_, here, by omega⟩

private theorem not_mem_counted (count : Nat) {unit : Nat × String} (listed : unit ∈ timePattern) :
    'N' ∉ (counted count unit.2).toList := by
  have name : 'N' ∉ unit.2.toList := by
    revert unit
    decide
  have digits : 'N' ∉ (toString count).toList := by
    intro member
    have digit : 'N'.isDigit := Nat.isDigit_of_mem_toDigits (by decide) (by decide)
      (Nat.toList_repr ▸ member)
    exact absurd digit (by decide)
  simp only [counted, String.toList_append, List.mem_append, not_or]
  refine ⟨⟨⟨digits, by decide⟩, name⟩, ?_⟩
  split <;> decide

private theorem checked_of_small {value : Int} (small : value.natAbs < 3153600000) :
    checked value = some value :=
  if_pos (by rw [DataSnapshot.int64Min, DataSnapshot.int64Max]; omega)

private theorem epochToString_eq {currTime epoch : Int} {r : String} (valid : epoch ≠ -1)
    (fits : checked (currTime - epoch) = some (currTime - epoch))
    (fits' : checked (currTime - epoch).natAbs = some ((currTime - epoch).natAbs : Int))
    (looped : unitLoop (currTime - epoch).natAbs (List.range' 1 8) = some r) :
    epochToString currTime epoch =
      some (if currTime - epoch < 0 then "in " ++ r else r ++ " ago") := by
  simp only [epochToString, if_neg valid, fits, fits', Option.bind_eq_bind, Option.bind_some,
    Int.toNat_natCast, looped]

private theorem epochToString_cases {currTime epoch : Int} {text : String} (valid : epoch ≠ -1)
    (returned : epochToString currTime epoch = some text) : ∃ r,
      unitLoop (currTime - epoch).natAbs (List.range' 1 8) = some r ∧
      text = if currTime - epoch < 0 then "in " ++ r else r ++ " ago" := by
  rw [epochToString, if_neg valid] at returned
  obtain ⟨difference, fits, returned⟩ := Option.bind_eq_some_iff.mp returned
  obtain ⟨diff, fits', returned⟩ := Option.bind_eq_some_iff.mp returned
  obtain ⟨r, looped, result⟩ := Option.bind_eq_some_iff.mp returned
  obtain rfl := Option.some.inj (Option.ite_none_right_eq_some.mp fits).2
  obtain rfl := Option.some.inj (Option.ite_none_right_eq_some.mp fits').2
  exact ⟨r, looped, (Option.some.inj result).symm⟩

private theorem not_null_of_not_mem {text : String} (absent : 'N' ∉ text.toList) :
    ¬ "NULL".toList <:+: text.toList :=
  fun contained => absent (contained.subset (by decide))

/-- The text names the right age exactly if less than a century lies between the times. -/
theorem epoch_names_age_iff {epoch : Int} (valid : epoch ≠ -1) (currTime : Int) :
    NamesAge currTime epoch ↔ (currTime - epoch).natAbs < 3153600000 := by
  have looped := @unitLoop_spec (currTime - epoch).natAbs 0 8 rfl ⟨_, rfl, le_max_right _ _⟩
  constructor
  · rintro ⟨text, unit, returned, _, _, _, clean⟩
    rcases looped with ⟨_, _, small, _⟩ | ⟨_, none⟩
    · exact small
    · obtain ⟨r, left, rfl⟩ := epochToString_cases valid returned
      obtain rfl := Option.some.inj (none.symm.trans left)
      refine absurd ?_ clean
      split
      · exact ⟨"in ".toList, [], by decide⟩
      · exact ⟨[], " ago".toList, by decide⟩
  · intro small
    rcases looped with ⟨unit, named, _, left⟩ | ⟨long, _⟩
    · have returned := epochToString_eq valid (checked_of_small small)
        (checked_of_small (by omega)) left
      refine ⟨_, unit, returned, named, rfl, ?_, not_null_of_not_mem ?_⟩
      · by_cases none : (currTime - epoch).natAbs = 0
        · exact .inr none
        · have fits := named.fits
          have positive := timePattern_pos unit named.listed
          exact .inl (Nat.div_pos (by omega) positive)
      · have absent := not_mem_counted ((currTime - epoch).natAbs / unit.1) named.listed
        split <;> simp only [String.toList_append, List.mem_append, not_or]
        · exact ⟨by decide, absent⟩
        · exact ⟨absent, by decide⟩
    · omega

/-- An article from the day before. -/
theorem yesterday_named : NamesAge 1600086400 1600000000 :=
  (epoch_names_age_iff (by decide) 1600086400).mpr (by decide)

/-- A time in milliseconds, which is more than a century ahead, and one so early that the
subtraction traps. -/
theorem century_not_named :
    epochToString 1600000000 1600000000000 = some "in NULL" ∧
    epochToString 1600000000 DataSnapshot.int64Min = none ∧
    ¬ NamesAge 1600000000 1600000000000 := by
  refine ⟨by decide, by decide, ?_⟩
  rintro ⟨text, unit, returned, _, _, _, clean⟩
  obtain rfl := Option.some.inj (returned.symm.trans (by decide : _ = some "in NULL"))
  exact clean ⟨"in ".toList, [], by decide⟩

end AhsApp.Ios
