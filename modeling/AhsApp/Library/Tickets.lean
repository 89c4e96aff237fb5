import Mathlib.Algebra.Group.Int.Defs
import Mathlib.Algebra.Group.Nat.Defs

/-! A counter of fixed width that hands out its value and moves on. After the greatest
value it goes on with the least. -/

namespace AhsApp.Library

/-- What is handed out after `count` others by a counter that starts at `first`. -/
def ticket (modulus : Nat) (first : Int) (count : Nat) : Int := (first + count).bmod modulus

variable {modulus : Nat} {first : Int} {count earlier later : Nat}

theorem ticket_succ :
    (ticket modulus first count + 1).bmod modulus = ticket modulus first (count + 1) := by
  rw [ticket, ticket, Int.bmod_add_bmod]
  congr 1
  omega

/-- Two are the same when a whole number of turns lies between them. -/
theorem ticket_eq_iff :
    ticket modulus first earlier = ticket modulus first later ↔
      (modulus : Int) ∣ (later : Int) - earlier := by
  rw [ticket, ticket, eq_comm, Int.bmod_eq_bmod_iff_bmod_sub_eq_zero, ← Int.dvd_iff_bmod_eq_zero]
  have shift : first + (later : Int) - (first + earlier) = later - earlier := by omega
  rw [shift]

/-- Within one turn they are distinct. -/
theorem ticket_ne (before : earlier < later) (within : later < earlier + modulus) :
    ticket modulus first earlier ≠ ticket modulus first later := by
  intro same
  have whole := Int.le_of_dvd (by omega) (ticket_eq_iff.mp same)
  omega

end AhsApp.Library
