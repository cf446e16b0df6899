import HttpCourier.Proofs.Grouping
import Mathlib.Data.List.Nodup

/-!
# Attributes

What a map holds after several values were written to it (`OrderedMap.get?_setAll`), and that the
attributes made from header fields have different keys (`Headers.nodup_toAttributes`).
-/

namespace HttpCourier

namespace OrderedMap

variable {α β : Type} [DecidableEq α] {m : OrderedMap α β} {key other : α} {value : β}

/-- A key is there after a change when it was written or was there before. -/
theorem has_set : (m.set key value).has other = true ↔ other = key ∨ m.has other = true := by
  by_cases h : other = key
  · simp [has, h]
  · simp [has, get?_set_of_ne m value h, h]

/-- Every key but the erased one is there as before. -/
theorem has_erase : (m.erase key).has other = true ↔ other ≠ key ∧ m.has other = true := by
  by_cases h : other = key
  · simp [has, h]
  · simp [has, get?_erase_of_ne m h, h]

/-- A value is looked up in the first of two maps, and then in the second. -/
theorem get?_append (m m' : OrderedMap α β) (key : α) :
    get? (m ++ m') key = (m.get? key).or (m'.get? key) := by
  induction m with
  | nil => rfl
  | cons kv rest ih =>
    simp only [List.cons_append, get?]
    split
    · rfl
    · exact ih

/-- A key without a value is none of the keys. -/
theorem get?_eq_none_iff : m.get? key = none ↔ key ∉ m.keys := by
  induction m with
  | nil => simp [keys]
  | cons kv rest ih =>
    simp only [get?, keys, List.map_cons, List.mem_cons] at ih ⊢
    by_cases h : kv.1 = key
    · simp [h]
    · simp [h, Ne.symm h, ih]

/-- When the keys are different, every entry gives the value of its key. -/
theorem get?_of_mem (h : m.keys.Nodup) {entry : α × β} (he : entry ∈ m) :
    m.get? entry.1 = some entry.2 := by
  induction m with
  | nil => cases he
  | cons first rest ih =>
    obtain ⟨hn, hr⟩ := List.nodup_cons.1 h
    rcases List.mem_cons.1 he with rfl | he
    · simp [get?]
    · have hne : first.1 ≠ entry.1 := fun heq => hn (heq ▸ List.mem_map_of_mem he)
      rw [get?, if_neg hne]
      exact ih hr he

/-- When the keys are different, the place of a key in the list does not matter. -/
theorem get?_reverse (h : m.keys.Nodup) (key : α) : get? m.reverse key = m.get? key := by
  induction m with
  | nil => rfl
  | cons kv rest ih =>
    obtain ⟨hn, hr⟩ := List.nodup_cons.1 h
    rw [List.reverse_cons, get?_append, ih hr]
    by_cases hk : kv.1 = key
    · subst hk
      rw [get?_eq_none_iff.2 hn]
      simp [get?]
    · simp [get?, hk]

/-- Of the values written to a key the last one counts; an unwritten key keeps its value. -/
theorem get?_setAll (m : OrderedMap α β) (updates : List (α × β)) (key : α) :
    (m.setAll updates).get? key = (get? updates.reverse key).or (m.get? key) := by
  induction updates generalizing m with
  | nil => rfl
  | cons kv rest ih =>
    have hset : (m.set kv.1 kv.2).get? key = (get? [kv] key).or (m.get? key) := by
      by_cases hk : key = kv.1
      · subst hk
        simp [get?]
      · simp [get?, get?_set_of_ne m kv.2 hk, Ne.symm hk]
    have hall : m.setAll (kv :: rest) = (m.set kv.1 kv.2).setAll rest := rfl
    rw [hall, ih, hset, List.reverse_cons, get?_append, Option.or_assoc]

/-- Values for different keys are all written. -/
theorem get?_setAll_of_nodup (m : OrderedMap α β) {updates : OrderedMap α β}
    (h : updates.keys.Nodup) (key : α) :
    (m.setAll updates).get? key = (updates.get? key).or (m.get? key) := by
  rw [get?_setAll, get?_reverse h]

/-- To write a key makes no key occur twice. -/
theorem nodup_set (h : m.keys.Nodup) (key : α) (value : β) : (m.set key value).keys.Nodup := by
  rw [keys_set]
  split
  case isTrue => exact h
  case isFalse hn =>
    refine List.nodup_append.2 ⟨h, List.nodup_singleton _, ?_⟩
    rintro a ha b hb rfl
    rw [List.mem_singleton] at hb
    exact hn (hb ▸ ha)

end OrderedMap

namespace Headers

open Text

/-- The attributes made from header fields have keys that differ in more than letter case. -/
theorem nodup_lower_keys (headers : Headers) : (headers.toAttributes.keys.map lower).Nodup := by
  rw [keys_toAttributes, List.Nodup, List.pairwise_map]
  refine (Grouping.pairwise_eraseDupsBy sameName _).imp fun h heq => ?_
  simp [sameName, heq] at h

/-- The attributes made from header fields have different keys. -/
theorem nodup_toAttributes (headers : Headers) : headers.toAttributes.keys.Nodup :=
  List.Nodup.of_map lower headers.nodup_lower_keys

end Headers

end HttpCourier
