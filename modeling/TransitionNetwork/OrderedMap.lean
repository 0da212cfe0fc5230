/-!
# Maps in the order of first insertion

A new key goes to the end; a key that is there keeps its place and takes the new value.
-/

set_option autoImplicit false

namespace TransitionNetwork

structure OrderedMap (α β : Type) where
  entries : List (α × β) := []
  deriving DecidableEq

namespace OrderedMap

variable {α β : Type} [DecidableEq α]

def keys (map : OrderedMap α β) : List α :=
  map.entries.map Prod.fst

def get? (map : OrderedMap α β) (key : α) : Option β :=
  map.entries.lookup key

def insertEntry (key : α) (value : β) : List (α × β) → List (α × β)
  | [] => [(key, value)]
  | (first, old) :: rest =>
    if first = key then (first, value) :: rest else (first, old) :: insertEntry key value rest

def insert (map : OrderedMap α β) (key : α) (value : β) : OrderedMap α β where
  entries := insertEntry key value map.entries

theorem lookup_insertEntry (key other : α) (value : β) (entries : List (α × β)) :
    (insertEntry key value entries).lookup other =
      if other = key then some value else entries.lookup other := by
  induction entries with
  | nil => grind [insertEntry]
  | cons entry rest ih =>
      obtain ⟨first, old⟩ := entry
      rw [insertEntry]
      by_cases found : first = key
      · grind
      · grind

theorem get?_insert (map : OrderedMap α β) (key other : α) (value : β) :
    (map.insert key value).get? other = if other = key then some value else map.get? other :=
  lookup_insertEntry key other value map.entries

/-- Putting a value where it is already changes nothing, not even the order. -/
theorem insert_of_get? {map : OrderedMap α β} {key : α} {value : β}
    (present : map.get? key = some value) : map.insert key value = map := by
  obtain ⟨entries⟩ := map
  rw [insert, mk.injEq]
  change entries.lookup key = some value at present
  induction entries with
  | nil => cases present
  | cons entry rest ih =>
      obtain ⟨first, old⟩ := entry
      rw [List.lookup_cons] at present
      rw [insertEntry]
      by_cases found : first = key
      · grind
      · grind

end OrderedMap

end TransitionNetwork
