import Mathlib.Algebra.Group.Int.Defs
import Mathlib.Data.List.Nodup
import Mathlib.Data.Rat.Defs

/-! Realtime Database snapshots as both applications read them: a tree whose
leaves hold JSON scalars and whose inner nodes hold keyed children. -/

namespace AhsApp.Firebase

inductive Value where
  | null
  | bool (flag : Bool)
  | number (value : Rat)
  | string (text : String)
  deriving DecidableEq

inductive DataSnapshot where
  | leaf (key : String) (value : Value)
  | node (key : String) (children : List DataSnapshot)

namespace DataSnapshot

def key : DataSnapshot → String
  | leaf key _ => key
  | node key _ => key

def children : DataSnapshot → List DataSnapshot
  | leaf _ _ => []
  | node _ children => children

/-- The scalar at a leaf. The value of an inner node is a dictionary, which no
scalar cast accepts. -/
def value : DataSnapshot → Option Value
  | leaf _ value => some value
  | node _ _ => none

/-- The child under a key; an absent path reads as a null leaf. -/
def child (snapshot : DataSnapshot) (key : String) : DataSnapshot :=
  (snapshot.children.find? fun child => child.key == key).getD (leaf key .null)

def int64Min : Int := -2 ^ 63
def int64Max : Int := 2 ^ 63 - 1

/-- `value as? String`. -/
def asString (snapshot : DataSnapshot) : Option String :=
  match snapshot.value with
  | some (.string text) => some text
  | _ => none

/-- `value as? Int64`, and `value as? Int` on a 64-bit device: a JSON number is
bridged when it is a representable integer, a JSON Boolean as 0 or 1. -/
def asInt64 (snapshot : DataSnapshot) : Option Int :=
  match snapshot.value with
  | some (.number value) =>
    if value.den = 1 ∧ int64Min ≤ value.num ∧ value.num ≤ int64Max then some value.num else none
  | some (.bool flag) => some (if flag then 1 else 0)
  | _ => none

/-- `getValue(String.class)`. A conversion of the Android application that throws gives
`none`; a `null` is `some none` where the conversion lets it pass. -/
def getString (snapshot : DataSnapshot) : Option (Option String) :=
  match snapshot.value with
  | some (.string text) => some (some text)
  | some .null => some none
  | _ => none

/-- A number without its fraction. -/
def truncate (value : Rat) : Int := if value.num < 0 then value.ceil else value.floor

/-- `getValue(long.class)`, which saturates at the upper end. -/
def getLong (snapshot : DataSnapshot) : Option (Option Int) :=
  match snapshot.value with
  | some (.number value) =>
    if int64Min ≤ value.floor ∧ value.ceil ≤ int64Max + 1 then
      some (some (if truncate value ≤ int64Max then truncate value else int64Max))
    else none
  | some .null => some none
  | _ => none

/-- `getValue(int.class)`. -/
def getInt (snapshot : DataSnapshot) : Option (Option Int) :=
  match snapshot.value with
  | some (.number value) =>
    if -2 ^ 31 ≤ value.floor ∧ value.ceil ≤ 2 ^ 31 - 1 then some (some (truncate value)) else none
  | some .null => some none
  | _ => none

/-- `(long) getValue()`: only an integer in range is a `Long`. -/
def castLong (snapshot : DataSnapshot) : Option Int :=
  match snapshot.value with
  | some (.number value) =>
    if value.den = 1 ∧ int64Min ≤ value.num ∧ value.num ≤ int64Max then some value.num else none
  | _ => none

/-- `(boolean) getValue()`. -/
def castBoolean (snapshot : DataSnapshot) : Option Bool :=
  match snapshot.value with
  | some (.bool flag) => some flag
  | _ => none

/-- Every child is a string. -/
def StringChildren (snapshot : DataSnapshot) : Prop :=
  ∀ child ∈ snapshot.children, ∃ text, child.value = some (.string text)

/-- The strings among the children. -/
def strings (snapshot : DataSnapshot) : List String := snapshot.children.filterMap asString

/-- The database keeps one child under a key: no two children of a node share one, at any
level. -/
inductive DistinctKeys : DataSnapshot → Prop
  | leaf (key : String) (value : Value) : DistinctKeys (.leaf key value)
  | node {key : String} {children : List DataSnapshot}
      (distinct : (children.map DataSnapshot.key).Nodup)
      (below : ∀ child ∈ children, DistinctKeys child) : DistinctKeys (.node key children)

namespace DistinctKeys

variable {snapshot : DataSnapshot}

theorem children_nodup (valid : snapshot.DistinctKeys) :
    (snapshot.children.map DataSnapshot.key).Nodup := by
  cases valid with
  | leaf key value => exact List.nodup_nil
  | node distinct below => exact distinct

theorem of_mem (valid : snapshot.DistinctKeys) {child : DataSnapshot}
    (member : child ∈ snapshot.children) : child.DistinctKeys := by
  cases valid with
  | leaf key value => cases member
  | node distinct below => exact below child member

theorem child (valid : snapshot.DistinctKeys) (key : String) :
    (snapshot.child key).DistinctKeys := by
  unfold DataSnapshot.child
  cases found : snapshot.children.find? fun child => child.key == key with
  | none => exact .leaf key .null
  | some child => exact valid.of_mem (List.mem_of_find?_eq_some found)

end DistinctKeys

/-- Under distinct keys a child is what its key finds. -/
theorem child_of_mem {snapshot content : DataSnapshot} (valid : snapshot.DistinctKeys)
    (member : content ∈ snapshot.children) : snapshot.child content.key = content := by
  unfold child
  cases found : snapshot.children.find? fun other => other.key == content.key with
  | none => simpa using List.find?_eq_none.mp found content member
  | some other =>
    have same : other.key = content.key := by simpa using List.find?_some found
    exact List.inj_on_of_nodup_map valid.children_nodup (List.mem_of_find?_eq_some found) member
      same

theorem read_child {Field : Type} (read : DataSnapshot → Field) {absent : Field} {key : String}
    (null : read (leaf key .null) = absent) (snapshot : DataSnapshot) :
    ((snapshot.children.find? fun child => child.key == key).map read).getD absent =
      read (snapshot.child key) := by
  unfold child
  cases snapshot.children.find? fun child => child.key == key with
  | none => exact null.symm
  | some child => rfl

theorem find_child {snapshot : DataSnapshot} {key : String}
    (present : (snapshot.child key).value ≠ some .null) :
    (snapshot.children.find? fun child => child.key == key) = some (snapshot.child key) := by
  unfold child at present ⊢
  cases found : snapshot.children.find? fun child => child.key == key with
  | none => exact absurd rfl (found ▸ present)
  | some child => rfl

end DataSnapshot

end AhsApp.Firebase
