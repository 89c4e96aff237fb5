import Mathlib.Data.List.Nodup

/-! A record filled by scanning keyed children, where a child sets the field of its
own key. When no key occurs twice, the scan reads what a lookup by key finds. -/

namespace AhsApp.Library

universe u v w x

variable {State : Type u} {Child : Type v} {Key : Type w} {Field : Type x}
variable {key : Child → Key} {step : State → Child → Option State} {field : State → Field}
variable {own : Key} {read : Child → Field}

/-- Only a child of the field's own key sets it. -/
def SetsField (step : State → Child → Option State) (key : Child → Key) (field : State → Field)
    (own : Key) (read : Child → Field) : Prop :=
  ∀ {state child next}, step state child = some next →
    (key child = own → field next = read child) ∧ (key child ≠ own → field next = field state)

private theorem foldlM_cons_eq_some {state last : State} {child : Child} {rest : List Child} :
    (child :: rest).foldlM step state = some last ↔
      ∃ next, step state child = some next ∧ rest.foldlM step next = some last := by
  simp [Option.bind_eq_some_iff]

theorem foldlM_returns {children : List Child}
    (returns : ∀ state, ∀ child ∈ children, ∃ next, step state child = some next)
    (state : State) : ∃ last, children.foldlM step state = some last := by
  induction children generalizing state with
  | nil => exact ⟨state, rfl⟩
  | cons child rest ih =>
    obtain ⟨next, taken⟩ := returns state child List.mem_cons_self
    obtain ⟨last, folded⟩ := ih (fun state other member =>
      returns state other (List.mem_cons_of_mem child member)) next
    exact ⟨last, foldlM_cons_eq_some.mpr ⟨next, taken, folded⟩⟩

theorem foldlM_keeps {children : List Child}
    (keeps : ∀ {state next}, ∀ child ∈ children, step state child = some next →
      field next = field state)
    {state last : State} (folded : children.foldlM step state = some last) :
    field last = field state := by
  induction children generalizing state with
  | nil =>
    obtain rfl : state = last := Option.some.inj folded
    rfl
  | cons child rest ih =>
    obtain ⟨next, taken, folded⟩ := foldlM_cons_eq_some.mp folded
    rw [ih (fun other member => keeps other (List.mem_cons_of_mem child member)) folded]
    exact keeps child List.mem_cons_self taken

/-- The field after the scan is what the child under its key reads as. -/
theorem SetsField.scanned [BEq Key] [LawfulBEq Key] (sets : SetsField step key field own read)
    {children : List Child} (distinct : (children.map key).Nodup) {state last : State}
    (folded : children.foldlM step state = some last) :
    field last = ((children.find? fun child => key child == own).map read).getD
      (field state) := by
  induction children generalizing state with
  | nil =>
    obtain rfl : state = last := Option.some.inj folded
    rfl
  | cons child rest ih =>
    obtain ⟨next, taken, folded⟩ := foldlM_cons_eq_some.mp folded
    rw [List.map_cons, List.nodup_cons] at distinct
    obtain ⟨fresh, distinct⟩ := distinct
    by_cases found : key child = own
    · have absent : ∀ other ∈ rest, key other ≠ own := by
        intro other member same
        exact fresh (List.mem_map.mpr ⟨other, member, same.trans found.symm⟩)
      have here : (key child == own) = true := beq_iff_eq.mpr found
      rw [foldlM_keeps (fun other member taken => (sets taken).2 (absent other member)) folded,
        (sets taken).1 found, List.find?_cons, here]
      rfl
    · have elsewhere : (key child == own) = false := beq_eq_false_iff_ne.mpr found
      rw [ih distinct folded, (sets taken).2 found, List.find?_cons, elsewhere]

theorem scanned_foldl [BEq Key] [LawfulBEq Key] [DecidableEq Key] {step : State → Child → State}
    (sets : ∀ state child, field (step state child) =
      if key child = own then read child else field state)
    {children : List Child} (distinct : (children.map key).Nodup) (state : State) :
    field (children.foldl step state) =
      ((children.find? fun child => key child == own).map read).getD (field state) := by
  have folded : children.foldlM (fun state child => some (step state child)) state =
      some (children.foldl step state) := List.foldlM_pure
  refine SetsField.scanned ?_ distinct folded
  intro state child next taken
  rw [← Option.some.inj taken, sets]
  exact ⟨fun same => if_pos same, fun other => if_neg other⟩

end AhsApp.Library
