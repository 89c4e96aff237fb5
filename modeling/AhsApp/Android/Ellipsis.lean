import AhsApp.Android.Comparison
import Mathlib.Data.Int.Order.Basic
import Mathlib.Tactic.Common

/-! Texts that do not fit are cut and end in dots. The two lists of bulletin articles and
`AdaptingTextView` each do it in a listener that runs once the text is laid out. -/

namespace AhsApp.Android

/-- Where the lines of a text end. There is at least one line, and the last one ends with
the text. -/
structure Layout (text : List Nat) where
  lineEnds : List Nat
  ordered : lineEnds.Pairwise (· ≤ ·)
  complete : lineEnds.getLast? = some text.length

namespace Layout

variable {text : List Nat}

def getLineCount (layout : Layout text) : Nat := layout.lineEnds.length

/-- A line that is not there throws. -/
def getLineEnd (layout : Layout text) (line : Int) : Option Nat :=
  if 0 ≤ line then layout.lineEnds[line.toNat]? else none

end Layout

/-- A view and the layout of what it shows; texts are UTF-16 code units. -/
structure TextView where
  text : List Nat
  layout : Layout text
  maxLines : Int

/-- `String.substring` from the start. -/
def substring (text : List Nat) (endIndex : Int) : Option (List Nat) :=
  if 0 ≤ endIndex ∧ endIndex ≤ text.length then some (text.take endIndex.toNat) else none

def ellipsis : List Nat := utf16 "..."

/-- The text that the listener of a bulletin article leaves in its view. -/
def bodyTextListener (bodyText : TextView) : Option (List Nat) :=
  if bodyText.layout.getLineCount ≥ bodyText.maxLines then do
    let lineIndex ← bodyText.layout.getLineEnd (bodyText.maxLines - 1)
    let textCut ← substring bodyText.text (lineIndex - 3)
    some (textCut ++ ellipsis)
  else some bodyText.text

def BulletinRecyclerAdapter.onGlobalLayout (bodyText : TextView) : Option (List Nat) :=
  bodyTextListener bodyText

def SavedRecyclerAdapter.onGlobalLayout (bodyText : TextView) : Option (List Nat) :=
  bodyTextListener bodyText

def AdaptingTextView.onGlobalLayout (fittingLines : Int) (view : TextView) : Option (List Nat) :=
  if view.layout.getLineCount > fittingLines then do
    let lineEndIndex ← view.layout.getLineEnd (fittingLines - 1)
    if (lineEndIndex : Int) - 3 ≥ 0 then do
      let textCut ← substring view.text (lineEndIndex - 3)
      some (textCut ++ ellipsis)
    else some view.text
  else some view.text

namespace TextView

/-- Where the last line that fits ends. -/
def fitEnd (view : TextView) : Nat := (view.layout.getLineEnd (view.maxLines - 1)).getD 0

/-- A text that fits is kept; of another one as much is kept as fits with the dots. -/
def ellipsized (view : TextView) : List Nat :=
  if view.layout.getLineCount ≤ view.maxLines then view.text
  else if 3 ≤ view.fitEnd then view.text.take (view.fitEnd - 3) ++ ellipsis else view.text

/-- All three listeners leave that text. -/
def SafelyEllipsized (view : TextView) : Prop :=
  BulletinRecyclerAdapter.onGlobalLayout view = some view.ellipsized ∧
    SavedRecyclerAdapter.onGlobalLayout view = some view.ellipsized ∧
    AdaptingTextView.onGlobalLayout view.maxLines view = some view.ellipsized

/-- The text has lines to spare, or fills its lines and ends in dots, or is cut where there
is room for the dots. -/
def RoomForDots (view : TextView) : Prop :=
  view.layout.getLineCount < view.maxLines ∨
    (view.layout.getLineCount = view.maxLines ∧ ellipsis <:+ view.text) ∨
    (view.maxLines < view.layout.getLineCount ∧ 3 ≤ view.fitEnd)

end TextView

namespace Layout

variable {text : List Nat}

private theorem lineEnd_le (layout : Layout text) {line : Int} {lineEnd : Nat}
    (ends : layout.getLineEnd line = some lineEnd) : lineEnd ≤ text.length := by
  have member := List.mem_of_getElem? (Option.ite_none_right_eq_some.mp ends).2
  obtain ⟨before, split⟩ := List.getLast?_eq_some_iff.mp layout.complete
  have ordered := layout.ordered
  rw [split] at member ordered
  rcases List.mem_append.mp member with earlier | last
  · exact (List.pairwise_append.mp ordered).2.2 _ earlier _ (List.mem_singleton.mpr rfl)
  · exact (List.mem_singleton.mp last).le

private theorem getLineEnd_of_le (layout : Layout text) {maxLines : Int} (positive : 1 ≤ maxLines)
    (lines : maxLines ≤ layout.getLineCount) :
    ∃ lineEnd, layout.getLineEnd (maxLines - 1) = some lineEnd := by
  have inside : (maxLines - 1).toNat < layout.lineEnds.length := by
    rw [getLineCount] at lines
    omega
  exact ⟨_, (if_pos (by omega)).trans (List.getElem?_eq_getElem inside)⟩

private theorem getLineEnd_last (layout : Layout text) :
    layout.getLineEnd (layout.getLineCount - 1) = some text.length := by
  have nonempty : layout.lineEnds ≠ [] := by
    intro empty
    have complete := layout.complete
    rw [empty] at complete
    cases complete
  have positive := List.length_pos_iff.mpr nonempty
  rw [getLineEnd, getLineCount, if_pos (by omega), ← layout.complete, List.getLast?_eq_getElem?]
  congr 1
  omega

end Layout

private theorem substring_of_le {text : List Nat} {lineEnd : Nat} (room : 3 ≤ lineEnd)
    (upTo : lineEnd ≤ text.length) :
    substring text (lineEnd - 3) = some (text.take (lineEnd - 3)) := by
  rw [substring, if_pos (by omega)]
  congr 2
  omega

private theorem substring_of_lt {text : List Nat} {lineEnd : Nat} (short : lineEnd < 3) :
    substring text (lineEnd - 3) = none := if_neg (by omega)

private theorem bodyTextListener_of_le {view : TextView} {lineEnd : Nat}
    (lines : view.maxLines ≤ view.layout.getLineCount)
    (ends : view.layout.getLineEnd (view.maxLines - 1) = some lineEnd) :
    bodyTextListener view =
      if 3 ≤ lineEnd then some (view.text.take (lineEnd - 3) ++ ellipsis) else none := by
  rw [bodyTextListener, if_pos lines, ends]
  split
  · rw [Option.bind_eq_bind, Option.bind_some, substring_of_le ‹_› (view.layout.lineEnd_le ends)]
    rfl
  · rw [Option.bind_eq_bind, Option.bind_some, substring_of_lt (not_le.mp ‹_›)]
    rfl

private theorem ellipsized_of_fits {view : TextView}
    (fits : view.layout.getLineCount ≤ view.maxLines) : view.ellipsized = view.text := if_pos fits

private theorem ellipsized_of_lt {view : TextView} {lineEnd : Nat}
    (overflows : view.maxLines < view.layout.getLineCount)
    (ends : view.layout.getLineEnd (view.maxLines - 1) = some lineEnd) :
    view.ellipsized =
      if 3 ≤ lineEnd then view.text.take (lineEnd - 3) ++ ellipsis else view.text := by
  rw [TextView.ellipsized, if_neg (not_le.mpr overflows), TextView.fitEnd, ends, Option.getD_some]

private theorem adapting_ellipsizes {view : TextView} (positive : 1 ≤ view.maxLines) :
    AdaptingTextView.onGlobalLayout view.maxLines view = some view.ellipsized := by
  rw [AdaptingTextView.onGlobalLayout]
  split
  · rename_i overflows
    obtain ⟨lineEnd, ends⟩ := view.layout.getLineEnd_of_le positive overflows.le
    rw [ends, Option.bind_eq_bind, Option.bind_some, ellipsized_of_lt overflows ends]
    by_cases room : 3 ≤ lineEnd
    · rw [if_pos (by omega), if_pos room, substring_of_le room (view.layout.lineEnd_le ends)]
      rfl
    · rw [if_neg (by omega), if_neg room]
  · rw [ellipsized_of_fits (not_lt.mp ‹_›)]

private theorem ellipsis_same_iff {text : List Nat} :
    (if 3 ≤ text.length then some (text.take (text.length - 3) ++ ellipsis) else none) = some text ↔
      ellipsis <:+ text := by
  have dots : ellipsis.length = 3 := rfl
  constructor
  · intro same
    have kept := Option.some.inj (Option.ite_none_right_eq_some.mp same).2
    exact ⟨_, kept⟩
  · intro suffix
    have room := suffix.length_le
    rw [if_pos (dots ▸ room), ← dots, List.suffix_iff_eq_append.mp suffix]

private theorem listener_keeps_iff {view : TextView} (positive : 1 ≤ view.maxLines) :
    bodyTextListener view = some view.ellipsized ↔ view.RoomForDots := by
  rw [TextView.RoomForDots]
  rcases lt_trichotomy (view.layout.getLineCount : Int) view.maxLines with spare | full | overflows
  · rw [bodyTextListener, if_neg (not_le.mpr spare), ellipsized_of_fits spare.le]
    exact iff_of_true rfl (.inl spare)
  · have ends := view.layout.getLineEnd_last
    rw [full] at ends
    rw [bodyTextListener_of_le full.ge ends, ellipsized_of_fits full.le, ellipsis_same_iff]
    simp [full]
  · obtain ⟨lineEnd, ends⟩ := view.layout.getLineEnd_of_le positive overflows.le
    have fitEnd : view.fitEnd = lineEnd := by rw [TextView.fitEnd, ends, Option.getD_some]
    rw [bodyTextListener_of_le overflows.le ends, ellipsized_of_lt overflows ends, fitEnd]
    split <;> simp [overflows.ne', overflows.not_gt, *]

/-- Both lists ellipsize as promised exactly if there is room for the dots. -/
theorem ellipsized_iff {view : TextView} (positive : 1 ≤ view.maxLines) :
    view.SafelyEllipsized ↔ view.RoomForDots := by
  have listener := listener_keeps_iff positive
  constructor
  · rintro ⟨kept, _, _⟩
    exact listener.mp kept
  · intro room
    have kept := listener.mpr room
    exact ⟨kept, kept, adapting_ellipsizes positive⟩

/-- Two lines, of which one fits. -/
def overflowing : TextView where
  text := utf16 "Hello there"
  layout := { lineEnds := [6, 11], ordered := by decide, complete := by decide }
  maxLines := 1

theorem overflowing_ellipsized : overflowing.SafelyEllipsized :=
  (ellipsized_iff (by decide)).mpr (by unfold TextView.RoomForDots; decide)

def fullLine (text : String) : TextView where
  text := utf16 text
  layout := { lineEnds := [(utf16 text).length], ordered := by simp, complete := rfl }
  maxLines := 1

/-- A text that fits exactly loses three letters, and one of two letters throws. -/
theorem full_line_cut :
    BulletinRecyclerAdapter.onGlobalLayout (fullLine "Hello") = some (utf16 "He...") ∧
    SavedRecyclerAdapter.onGlobalLayout (fullLine "Hi") = none ∧
    ¬ (fullLine "Hello").SafelyEllipsized := by
  refine ⟨by decide, by decide, fun safe => absurd safe.1 (by decide)⟩

end AhsApp.Android
