import AhsApp.Firebase.DataSnapshot
import AhsApp.Library.KeyedFold

/-! Where the two applications read a snapshot alike: one scans the children and sets a field for
each key, the other looks the keys up; and each converts values in its own way. -/

namespace AhsApp.Firebase.DataSnapshot

variable {snapshot : DataSnapshot}

/-- What Android reads as a text, or as `null`, iOS casts alike. -/
theorem asString_of_getString {text : Option String} (read : snapshot.getString = some text) :
    snapshot.asString = text := by
  unfold getString at read
  unfold asString
  split at read
  · rename_i stored
    rw [stored]
    exact Option.some.inj read
  · rename_i stored
    rw [stored]
    exact Option.some.inj read
  · cases read

private theorem castLong_cases {value : Int} (cast : snapshot.castLong = some value) :
    snapshot.value = some (.number value) ∧ int64Min ≤ value ∧ value ≤ int64Max := by
  unfold castLong at cast
  split at cast
  · rename_i number stored
    obtain ⟨⟨whole, lower, upper⟩, same⟩ := Option.ite_none_right_eq_some.mp cast
    obtain rfl := Option.some.inj same
    exact ⟨by rw [stored, Rat.coe_int_num_of_den_eq_one whole], lower, upper⟩
  · cases cast

private theorem truncate_intCast (value : Int) : truncate value = value := by
  rw [truncate, Rat.ceil_intCast, Rat.floor_intCast, ite_self]

/-- A whole number in range is read alike by every conversion. -/
theorem reads_of_castLong {value : Int} (cast : snapshot.castLong = some value) :
    snapshot.asInt64 = some value ∧ snapshot.getLong = some (some value) := by
  obtain ⟨stored, lower, upper⟩ := castLong_cases cast
  constructor
  · simp [asInt64, stored, lower, upper]
  · have inside : int64Min ≤ (value : Rat).floor ∧ (value : Rat).ceil ≤ int64Max + 1 := by
      rw [Rat.floor_intCast, Rat.ceil_intCast]
      omega
    simp only [getLong, stored, truncate_intCast, if_pos inside, if_pos upper]

/-- A field that a scan of the children sets for one key is the child under that key. -/
theorem scanned_children {State Field : Type} {scan : State → DataSnapshot → State}
    {field : State → Field} {own : String} {read : DataSnapshot → Field}
    (sets : ∀ state child, field (scan state child) =
      if child.key = own then read child else field state)
    (valid : snapshot.DistinctKeys) {state : State} (null : read (leaf own .null) = field state) :
    field (snapshot.children.foldl scan state) = read (snapshot.child own) :=
  (Library.scanned_foldl sets valid.children_nodup state).trans (read_child read null snapshot)

end AhsApp.Firebase.DataSnapshot
