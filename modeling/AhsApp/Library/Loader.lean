import Mathlib.Algebra.Order.BigOperators.Group.Multiset
import Mathlib.Algebra.BigOperators.Group.Multiset.Basic
import Mathlib.Data.Multiset.OrderedMonoid

/-! Caches that a load empties at once and refills fetch by fetch, while the
fetches of earlier loads may still be on their way. -/

namespace AhsApp.Library

universe u v

/-- A bag that every completed fetch adds to. -/
structure Refill (Key : Type u) (Item : Type v) where
  bag : Multiset Item
  inFlight : Multiset Key

namespace Refill

variable {Key : Type u} {Item : Type v}

/-- A new load discards what has arrived and leaves older fetches in flight. -/
def start (keys : Multiset Key) (state : Refill Key Item) : Refill Key Item :=
  ⟨0, state.inFlight + keys⟩

def complete [DecidableEq Key] (content : Key → Multiset Item) (key : Key)
    (state : Refill Key Item) : Refill Key Item :=
  ⟨state.bag + content key, state.inFlight.erase key⟩

/-- What the bag holds once everything in flight has arrived. -/
def due (content : Key → Multiset Item) (state : Refill Key Item) : Multiset Item :=
  state.bag + (state.inFlight.map content).sum

/-- A load that keeps what has arrived. -/
def extend (keys : Multiset Key) (state : Refill Key Item) : Refill Key Item :=
  ⟨state.bag, state.inFlight + keys⟩

theorem due_extend (content : Key → Multiset Item) (keys : Multiset Key)
    (state : Refill Key Item) :
    (state.extend keys).due content = state.due content + (keys.map content).sum := by
  simp [due, extend, add_assoc]

private theorem due_start (content : Key → Multiset Item) (keys : Multiset Key)
    (state : Refill Key Item) :
    (state.start keys).due content =
      (state.inFlight.map content).sum + (keys.map content).sum := by
  simp [due, start]

theorem due_start_eq_iff {content : Key → Multiset Item} {keys : Multiset Key}
    {state : Refill Key Item} :
    (state.start keys).due content = (keys.map content).sum ↔
      ∀ key ∈ state.inFlight, content key = 0 := by
  rw [due_start, add_eq_right, Multiset.sum_eq_zero_iff]
  simp

theorem due_start_uniform_eq_iff {items : Multiset Item} {keys : Multiset Key}
    {state : Refill Key Item} :
    (state.start keys).due (fun _ => items) = items ↔
      items = 0 ∨ state.inFlight.card + keys.card = 1 := by
  rw [due_start, Multiset.map_const', Multiset.map_const', Multiset.sum_replicate,
    Multiset.sum_replicate, ← add_nsmul]
  constructor
  · intro same
    have cards := congrArg Multiset.card same
    rw [Multiset.card_nsmul] at cards
    rcases Nat.eq_zero_or_pos items.card with empty | positive
    · exact .inl (Multiset.card_eq_zero.mp empty)
    · exact .inr (Nat.eq_of_mul_eq_mul_right positive (by simpa using cards))
  · rintro (rfl | one)
    · simp
    · rw [one, one_nsmul]

/-- Completions only move content from the flight into the bag. -/
theorem due_complete [DecidableEq Key] (content : Key → Multiset Item)
    {key : Key} {state : Refill Key Item} (pending : key ∈ state.inFlight) :
    (state.complete content key).due content = state.due content := by
  have split : (state.inFlight.map content).sum =
      content key + ((state.inFlight.erase key).map content).sum := by
    rw [← Multiset.sum_cons, ← Multiset.map_cons, Multiset.cons_erase pending]
  simp [due, complete, split, add_assoc]

theorem bag_of_idle {content : Key → Multiset Item} {state : Refill Key Item}
    (idle : state.inFlight = 0) : state.bag = state.due content := by
  simp [due, idle]

end Refill

/-- Slots that every completed fetch overwrites as a whole: each one holds its
content, or is blank with a fetch for it still on its way. -/
def Refilling {Slot : Type u} {Value : Type v} (content : Slot → Value) (blank : Value)
    (pending : Slot → Prop) (slots : Slot → Value) : Prop :=
  ∀ slot, slots slot = content slot ∨ (slots slot = blank ∧ pending slot)

namespace Refilling

variable {Slot : Type u} {Value : Type v} {content : Slot → Value} {blank : Value}
variable {pending : Slot → Prop} {slots : Slot → Value}

theorem reset (all : ∀ slot, pending slot) :
    Refilling content blank pending (fun _ => blank) :=
  fun slot => .inr ⟨rfl, all slot⟩

theorem store [DecidableEq Slot] (valid : Refilling content blank pending slots)
    (stored : Slot) {pending' : Slot → Prop}
    (others : ∀ slot, slot ≠ stored → pending slot → pending' slot) :
    Refilling content blank pending' (Function.update slots stored (content stored)) := by
  intro slot
  by_cases same : slot = stored
  · subst slot
    exact .inl (Function.update_self ..)
  · rw [Function.update_of_ne same]
    rcases valid slot with arrived | ⟨empty, waiting⟩
    · exact .inl arrived
    · exact .inr ⟨empty, others slot same waiting⟩

theorem weaken (valid : Refilling content blank pending slots) {pending' : Slot → Prop}
    (kept : ∀ slot, pending slot → pending' slot) : Refilling content blank pending' slots :=
  fun slot => (valid slot).imp_right fun ⟨empty, waiting⟩ => ⟨empty, kept slot waiting⟩

theorem complete_of_idle (valid : Refilling content blank pending slots)
    (idle : ∀ slot, ¬ pending slot) : slots = content := by
  funext slot
  rcases valid slot with arrived | ⟨_, waiting⟩
  · exact arrived
  · exact absurd waiting (idle slot)

end Refilling

/-- Slots of which each holds something that arrived for it, or is blank with a fetch for it
still on its way. -/
def Arriving {Slot : Type u} {Value : Type v} (arrived : Slot → Value → Prop) (blank : Value)
    (pending : Slot → Prop) (slots : Slot → Value) : Prop :=
  ∀ slot, arrived slot (slots slot) ∨ (slots slot = blank ∧ pending slot)

namespace Arriving

variable {Slot : Type u} {Value : Type v} {arrived arrived' : Slot → Value → Prop} {blank : Value}
variable {pending pending' : Slot → Prop} {slots : Slot → Value}

theorem reset (all : ∀ slot, pending slot) : Arriving arrived blank pending (fun _ => blank) :=
  fun slot => .inr ⟨rfl, all slot⟩

/-- An arrival needs to be waited for no longer. -/
theorem store [DecidableEq Slot] (valid : Arriving arrived blank pending slots) {stored : Slot}
    {value : Value} (served : arrived stored value)
    (others : ∀ slot, slot ≠ stored → pending slot → pending' slot) :
    Arriving arrived blank pending' (Function.update slots stored value) := by
  intro slot
  by_cases same : slot = stored
  · subst slot
    rw [Function.update_self]
    exact .inl served
  · rw [Function.update_of_ne same]
    exact (valid slot).imp_right fun ⟨empty, waiting⟩ => ⟨empty, others slot same waiting⟩

theorem mono (valid : Arriving arrived blank pending slots)
    (known : ∀ slot value, arrived slot value → arrived' slot value)
    (kept : ∀ slot, pending slot → pending' slot) : Arriving arrived' blank pending' slots :=
  fun slot => (valid slot).imp (known slot _) fun ⟨empty, waiting⟩ => ⟨empty, kept slot waiting⟩

end Arriving

end AhsApp.Library
