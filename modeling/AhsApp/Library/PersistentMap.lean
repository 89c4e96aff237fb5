import Mathlib.Data.Finmap

/-! A dictionary in memory with an encoded copy of it in storage. Every change is
written through. Loading decodes the copy; where there is none, or it does not decode,
the memory stays as it is. -/

namespace AhsApp.Library

universe u v w

abbrev Dictionary (Key : Type u) (Item : Type v) := Finmap fun _ : Key => Item

/-- An encoder and a decoder, either of which may throw. -/
structure Codec (Value : Type u) (Data : Type v) where
  encode : Value → Option Data
  decode : Data → Option Value

/-- Every value can be encoded, and decodes to itself. -/
def Codec.RoundTrips {Value : Type u} {Data : Type v} (codec : Codec Value Data) : Prop :=
  ∀ value, ∃ data, codec.encode value = some data ∧ codec.decode data = some value

structure PersistentMap (Key : Type u) (Item : Type v) (Data : Type w) where
  memory : Dictionary Key Item
  stored : Option Data

namespace PersistentMap

variable {Key : Type u} {Item : Type v} {Data : Type w}
variable (codec : Codec (Dictionary Key Item) Data)

/-- A new process: the copy survives, the memory does not. -/
def launch (stored : Option Data) : PersistentMap Key Item Data := ⟨∅, stored⟩

/-- A failure to encode keeps the older copy. -/
def save (state : PersistentMap Key Item Data) : PersistentMap Key Item Data :=
  match codec.encode state.memory with
  | some data => { state with stored := some data }
  | none => state

def load (state : PersistentMap Key Item Data) : PersistentMap Key Item Data :=
  match state.stored.bind codec.decode with
  | some memory => { state with memory }
  | none => state

/-- The copy decodes to the memory; no copy stands for the empty dictionary. -/
def Synced (state : PersistentMap Key Item Data) : Prop :=
  match state.stored with
  | some data => codec.decode data = some state.memory
  | none => state.memory = ∅

variable {codec} {state : PersistentMap Key Item Data}

@[simp] theorem save_memory : (state.save codec).memory = state.memory := by
  unfold save
  split <;> rfl

theorem Synced.save (roundTrips : codec.RoundTrips) : (state.save codec).Synced codec := by
  obtain ⟨data, encoded, decoded⟩ := roundTrips state.memory
  simp only [PersistentMap.save, encoded]
  exact decoded

/-- Loading finds what is in memory already. -/
theorem Synced.load (synced : state.Synced codec) : state.load codec = state := by
  obtain ⟨memory, stored⟩ := state
  cases stored with
  | none => rfl
  | some data =>
    have decoded : codec.decode data = some memory := synced
    simp [PersistentMap.load, decoded]

theorem Synced.restart (synced : state.Synced codec) :
    (PersistentMap.launch state.stored).load codec = state := by
  obtain ⟨memory, stored⟩ := state
  cases stored with
  | none =>
    obtain rfl : memory = ∅ := synced
    rfl
  | some data =>
    have decoded : codec.decode data = some memory := synced
    simp [PersistentMap.load, PersistentMap.launch, decoded]

end PersistentMap

namespace Dictionary

variable {Key : Type u} {Item : Type v} {Data : Type w}

def mapValues (f : Item → Data) (dictionary : Dictionary Key Item) : Dictionary Key Data where
  entries := dictionary.entries.map fun entry => ⟨entry.1, f entry.2⟩
  nodupKeys := by
    rw [← Multiset.nodup_keys, Multiset.keys, Multiset.map_map]
    exact Multiset.nodup_keys.mpr dictionary.nodupKeys

private theorem mapValues_mapValues {f : Item → Data} {g : Data → Item}
    (inverse : ∀ item, g (f item) = item)
    (dictionary : Dictionary Key Item) : mapValues g (mapValues f dictionary) = dictionary := by
  apply Finmap.ext
  simp [mapValues, inverse]

/-- Encoding value by value. Decoding throws when one value does not decode. -/
def codec [Inhabited Item] (encode : Item → Data) (decode : Data → Option Item) :
    Codec (Dictionary Key Item) (Dictionary Key Data) where
  encode dictionary := some (mapValues encode dictionary)
  decode data :=
    if ∀ entry ∈ data.entries, (decode entry.2).isSome = true then
      some (mapValues (fun value => (decode value).getD default) data)
    else none

theorem codec_roundTrips [Inhabited Item] {encode : Item → Data} {decode : Data → Option Item}
    (inverse : ∀ item, decode (encode item) = some item) :
    (codec encode decode : Codec (Dictionary Key Item) (Dictionary Key Data)).RoundTrips := by
  intro dictionary
  refine ⟨mapValues encode dictionary, rfl, ?_⟩
  have decodes : ∀ entry ∈ (mapValues encode dictionary).entries,
      (decode entry.2).isSome = true := by
    intro entry member
    obtain ⟨source, _, rfl⟩ := Multiset.mem_map.mp member
    simp [inverse]
  simp only [codec]
  rw [if_pos decodes, mapValues_mapValues (by simp [inverse])]

end Dictionary

end AhsApp.Library
