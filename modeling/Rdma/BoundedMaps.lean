import Mathlib.Data.Finmap

/-!
Maps with room for so many keys. A map that is full takes no write, also not one
of a key that it has (`store_none`); otherwise a write sets the value of its key
and nothing else (`find_stored`), and counts where the key is new
(`size_stored`).
-/
namespace Rdma.BoundedMaps
universe u v

/-- A map that has at most `capacity` keys. -/
structure BoundedMap (Key : Type u) (Value : Type v) (capacity : Nat) where
  values : Finmap fun _ : Key => Value
  bounded : values.keys.card ≤ capacity

variable {Key : Type u} {Value : Type v} {capacity : Nat}

def BoundedMap.empty (Key : Type u) (Value : Type v) (capacity : Nat) : BoundedMap Key Value capacity :=
  ⟨∅, by simp [Finmap.keys_empty]⟩

def BoundedMap.size (map : BoundedMap Key Value capacity) : Nat := map.values.keys.card

section
variable [DecidableEq Key]

def BoundedMap.find (map : BoundedMap Key Value capacity) (key : Key) : Option Value := map.values.lookup key

theorem keys_insert (values : Finmap fun _ : Key => Value) (key : Key) (value : Value) :
    (values.insert key value).keys = insert key values.keys := by
  ext other
  rw [Finmap.mem_keys, Finmap.mem_insert, Finset.mem_insert, Finmap.mem_keys]

theorem room_insert {map : BoundedMap Key Value capacity} (room : map.size < capacity) (key : Key) (value : Value) :
    (map.values.insert key value).keys.card ≤ capacity := by
  rw [keys_insert]
  exact (Finset.card_insert_le ..).trans room

/-- The map with the value under the key, unless it is full. -/
def BoundedMap.store (map : BoundedMap Key Value capacity) (key : Key) (value : Value) :
    Option (BoundedMap Key Value capacity) :=
  if room : map.size < capacity then some ⟨map.values.insert key value, room_insert room key value⟩ else none

variable {map stored : BoundedMap Key Value capacity} {key : Key} {value : Value}

theorem store_none : map.store key value = none ↔ map.size = capacity := by
  have most : map.size ≤ capacity := map.bounded
  rw [BoundedMap.store]
  split
  · rename_i room
    exact iff_of_false (by simp) (Nat.ne_of_lt room)
  · rename_i full
    exact iff_of_true rfl (Nat.le_antisymm most (Nat.not_lt.mp full))

theorem store_values (stores : map.store key value = some stored) : stored.values = map.values.insert key value := by
  rw [BoundedMap.store] at stores
  split at stores
  · obtain rfl := Option.some.inj stores
    rfl
  · cases stores

theorem find_stored (stores : map.store key value = some stored) (other : Key) :
    stored.find other = if other = key then some value else map.find other := by
  rw [BoundedMap.find, store_values stores]
  split
  · rename_i same
    subst same
    exact Finmap.lookup_insert _
  · rename_i apart
    exact Finmap.lookup_insert_of_ne _ apart

theorem size_stored (stores : map.store key value = some stored) :
    stored.size = map.size + if (map.find key).isNone then 1 else 0 := by
  rw [BoundedMap.size, BoundedMap.size, store_values stores, keys_insert]
  cases found : map.find key with
  | none =>
    have new : key ∉ map.values.keys := by rwa [Finmap.mem_keys, ← Finmap.lookup_eq_none]
    rw [Finset.card_insert_of_notMem new]
    rfl
  | some old =>
    have known : key ∈ map.values.keys := Finmap.mem_keys.mpr (Finmap.mem_of_lookup_eq_some found)
    rw [Finset.insert_eq_of_mem known]
    rfl

@[simp] theorem find_empty (key : Key) : (BoundedMap.empty Key Value capacity).find key = none := Finmap.lookup_empty key

end

@[simp] theorem size_empty : (BoundedMap.empty Key Value capacity).size = 0 := by
  rw [BoundedMap.size, BoundedMap.empty, Finmap.keys_empty, Finset.card_empty]

end Rdma.BoundedMaps
