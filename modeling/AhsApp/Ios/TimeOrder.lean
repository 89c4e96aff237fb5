import AhsApp.Ios.Decode
import AhsApp.Library.StableSort
import Mathlib.Data.Prod.Lex

/-! The key behind every time ordering of the iOS application. -/

namespace AhsApp.Ios

open AhsApp.Firebase AhsApp.Library

/-- The future comes first, the nearest first; then the rest, the most recent first. -/
def timeRank (currTime : Int) (time : Option Int) : Bool ×ₗ Int :=
  let time := time.getD DataSnapshot.int64Max
  toLex (decide (time ≤ currTime), if currTime < time then time else -time)

theorem timeOrder_iff {currTime : Int} {a b : Option Int} :
    timeOrder currTime a b = true ↔ timeRank currTime a < timeRank currTime b := by
  simp only [timeOrder, timeRank, Prod.Lex.toLex_lt_toLex, Bool.lt_iff, decide_eq_true_eq,
    decide_eq_false_iff_not, decide_eq_decide]
  generalize a.getD DataSnapshot.int64Max = first
  generalize b.getD DataSnapshot.int64Max = second
  split
  · rw [decide_eq_true_eq]
    split <;> split <;> omega
  · rw [decide_eq_true_eq]
    split <;> split <;> omega

theorem timeRank_inj {currTime : Int} {a b : Option Int} :
    timeRank currTime a = timeRank currTime b ↔
      a.getD DataSnapshot.int64Max = b.getD DataSnapshot.int64Max := by
  constructor
  · intro same
    obtain ⟨past, time⟩ := Prod.mk.inj (congrArg ofLex same)
    rw [decide_eq_decide] at past
    revert time
    split <;> split <;> omega
  · intro same
    rw [timeRank, timeRank, same]

/-- Sorting by a time sorts by its rank. -/
theorem sortsBy_timeRank {Item : Type} (currTime : Int) (time : Item → Option Int) :
    SortsBy (fun a b : Item => timeOrder currTime (time b) (time a) = false)
      fun item => timeRank currTime (time item) := by
  intro first second
  rw [← not_lt, ← timeOrder_iff, Bool.not_eq_true]

/-- Unless both times are still to come, the later one comes first. -/
theorem timeOrder_of_passed {currTime first second : Int} (passed : second ≤ currTime) :
    timeOrder currTime (some second) (some first) = false ↔ second ≤ first := by
  have past : ¬ (second > currTime ∧ first > currTime) := by omega
  simp only [timeOrder, Option.getD_some, if_neg past, decide_eq_false_iff_not]
  omega

end AhsApp.Ios
