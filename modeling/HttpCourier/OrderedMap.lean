/-!
# Maps that keep the order of insertion

An `OrderedMap` is a list of keys with values. `set` writes a value at the place of its key, or at
the end for a new key, so a key keeps the place of its first insertion.
-/

namespace HttpCourier

/-- A finite map; the keys stand in the order of their first insertion. -/
abbrev OrderedMap (α β : Type) := List (α × β)

namespace OrderedMap

variable {α β : Type} [DecidableEq α]

/-- The value of a key. -/
def get? : OrderedMap α β → α → Option β
  | [], _ => none
  | (k, v) :: rest, key => if k = key then some v else get? rest key

/-- Writes the value of a key, in place when the key is known. -/
def set : OrderedMap α β → α → β → OrderedMap α β
  | [], key, value => [(key, value)]
  | (k, v) :: rest, key, value =>
    if k = key then (k, value) :: rest else (k, v) :: set rest key value

/-- Writes several values, one after the other. -/
def setAll (m : OrderedMap α β) (updates : List (α × β)) : OrderedMap α β :=
  updates.foldl (fun acc kv => acc.set kv.1 kv.2) m

/-- The map of a list of pairs: of equal keys the first gives the place and the last the value. -/
def ofPairs (pairs : List (α × β)) : OrderedMap α β := setAll [] pairs

/-- Drops a key. -/
def erase (m : OrderedMap α β) (key : α) : OrderedMap α β := m.filter fun kv => decide (kv.1 ≠ key)

/-- The keys, in order. -/
def keys (m : OrderedMap α β) : List α := m.map Prod.fst

/-- Whether a key is in the map. -/
def has (m : OrderedMap α β) (key : α) : Bool := (m.get? key).isSome

/-- Adds to the count of a key, which starts at zero. -/
def count (m : OrderedMap α Nat) (key : α) : OrderedMap α Nat :=
  m.set key ((m.get? key).getD 0 + 1)

@[simp] theorem get?_nil (key : α) : get? ([] : OrderedMap α β) key = none := rfl

@[simp] theorem get?_set_self (m : OrderedMap α β) (key : α) (value : β) :
    (m.set key value).get? key = some value := by
  induction m with
  | nil => simp [set, get?]
  | cons kv rest ih =>
    obtain ⟨k, v⟩ := kv
    by_cases h : k = key <;> simp [set, get?, h, ih]

/-- A value that is written leaves those of the other keys. -/
theorem get?_set_of_ne (m : OrderedMap α β) {key other : α} (value : β) (h : other ≠ key) :
    (m.set key value).get? other = m.get? other := by
  induction m with
  | nil => simp [set, get?, Ne.symm h]
  | cons kv rest ih =>
    obtain ⟨k, v⟩ := kv
    by_cases hk : k = key
    · subst hk; simp [set, get?, Ne.symm h]
    · by_cases ho : k = other
      · subst ho; simp [set, get?, h]
      · simp [set, get?, hk, ho, ih]

/-- Writing a known key keeps the keys; a new key comes last. -/
theorem keys_set (m : OrderedMap α β) (key : α) (value : β) :
    (m.set key value).keys = if key ∈ m.keys then m.keys else m.keys ++ [key] := by
  induction m with
  | nil => simp [set, keys]
  | cons kv rest ih =>
    obtain ⟨k, v⟩ := kv
    by_cases hk : k = key
    · subst hk; simp [set, keys]
    · have hk' : ¬ key = k := fun h => hk h.symm
      simp only [set, hk, if_false, keys, List.map_cons, List.mem_cons, hk', false_or] at ih ⊢
      rw [ih]
      by_cases hm : key ∈ List.map Prod.fst rest <;> simp [hm]

@[simp] theorem get?_erase_self (m : OrderedMap α β) (key : α) : (m.erase key).get? key = none := by
  induction m with
  | nil => rfl
  | cons kv rest ih =>
    obtain ⟨k, v⟩ := kv
    by_cases hk : k = key
    · simpa [erase, hk] using ih
    · simpa [erase, hk, get?] using ih

/-- A key that is erased leaves the values of the others. -/
theorem get?_erase_of_ne (m : OrderedMap α β) {key other : α} (h : other ≠ key) :
    (m.erase key).get? other = m.get? other := by
  induction m with
  | nil => rfl
  | cons kv rest ih =>
    obtain ⟨k, v⟩ := kv
    by_cases hk : k = key
    · subst hk
      simpa [erase, get?, Ne.symm h] using ih
    · by_cases ho : k = other
      · subst ho; simp [erase, hk, get?]
      · simpa [erase, hk, get?, ho] using ih

end OrderedMap

end HttpCourier
