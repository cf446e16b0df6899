import HttpCourier.Cache.Storage
import HttpCourier.Proofs.Attributes

/-!
# What a bounded storage holds

`Storage.storeAll` is a run of calls of `Storage.store`, and `Storage.lastStored?` the time of the
last call that stored a key. After any run the storage is `Tidy`: it is within its capacity, the
index and the disk agree, and the keys stand in the order in which they were last stored. A further
call changes nothing, or drops the shortest run of the oldest other keys that makes room
(`Storage.Stores`).
-/

namespace HttpCourier

namespace OrderedMap

variable {α β : Type} [DecidableEq α] {m : OrderedMap α β} {key : α}

/-- To erase a key takes it out of the keys, and leaves the others in their order. -/
theorem keys_erase (m : OrderedMap α β) (key : α) :
    (m.erase key).keys = m.keys.filter fun k => decide (k ≠ key) := by
  rw [keys, keys, erase, List.filter_map]
  rfl

/-- A key that was erased is gone. -/
theorem notMem_keys_erase (m : OrderedMap α β) (key : α) : key ∉ (m.erase key).keys := by
  simp [keys_erase]

/-- To erase a key makes no other occur twice. -/
theorem nodup_erase (h : m.keys.Nodup) (key : α) : (m.erase key).keys.Nodup := by
  rw [keys_erase]
  exact h.filter _

/-- What is left after several keys were dropped. -/
theorem get?_eraseAll (m : OrderedMap α β) (dropped : List α) (key : α) :
    (dropped.foldl erase m).get? key = if key ∈ dropped then none else m.get? key := by
  induction dropped generalizing m with
  | nil => simp
  | cons first dropped ih =>
    rw [List.foldl_cons, ih]
    by_cases hk : key = first
    · subst hk
      simp
    · simp [get?_erase_of_ne m hk, hk]

/-- To erase several keys makes no other occur twice. -/
theorem nodup_eraseAll (h : m.keys.Nodup) (dropped : List α) :
    (dropped.foldl erase m).keys.Nodup := by
  induction dropped generalizing m with
  | nil => exact h
  | cons first dropped ih => exact ih (nodup_erase h first)

/-- With different keys, the entries after the first ones are those whose keys are not among
them. -/
theorem get?_drop (h : m.keys.Nodup) (n : Nat) (key : α) :
    get? (m.drop n) key = if key ∈ keys (m.take n) then none else m.get? key := by
  have hsplit : m.take n ++ m.drop n = m := List.take_append_drop n m
  have hget := get?_append (m.take n) (m.drop n) key
  rw [hsplit] at hget
  split
  case isTrue hmem =>
    have hkeys : m.keys = keys (m.take n) ++ keys (m.drop n) := by
      rw [keys, keys, keys, ← List.map_append, hsplit]
    rw [hkeys, List.nodup_append] at h
    exact get?_eq_none_iff.2 fun hlater => h.2.2 key hmem key hlater rfl
  case isFalse hn => rw [hget, get?_eq_none_iff.2 hn, Option.none_or]

end OrderedMap

namespace Storage

open OrderedMap

/-! ## Making room -/

@[simp] theorem total_nil : total [] = 0 := rfl

@[simp] theorem total_cons (e : CacheKey × Nat) (sizes : OrderedMap CacheKey Nat) :
    total (e :: sizes) = e.2 + total sizes := rfl

/-- The oldest of several responses is dropped while the sum is over the capacity, and then the next
ones are looked at. -/
theorem evict_cons (capacity sum : Nat) (e : CacheKey × Nat) {sizes : OrderedMap CacheKey Nat}
    (h : sizes ≠ []) :
    evict capacity sum (e :: sizes)
      = if sum ≤ capacity then ([], e :: sizes)
        else (e.1 :: (evict capacity (sum - e.2) sizes).1, (evict capacity (sum - e.2) sizes).2) := by
  cases sizes with
  | nil => exact absurd rfl h
  | cons next rest => rfl

/-- When the newest size fits, the oldest ones are dropped until all fit, and no more of them. -/
theorem evict_shortest {capacity : Nat} (sizes : OrderedMap CacheKey Nat) (newest : CacheKey × Nat)
    (h : newest.2 ≤ capacity) :
    ∃ n, evict capacity (total (sizes ++ [newest])) (sizes ++ [newest])
        = (OrderedMap.keys (sizes.take n), sizes.drop n ++ [newest]) ∧
      total (sizes.drop n ++ [newest]) ≤ capacity ∧
      ∀ m < n, capacity < total (sizes.drop m ++ [newest]) := by
  -- On what was stored before: as long as not all of it fits, the first goes.
  induction sizes with
  | nil => exact ⟨0, rfl, by simpa using h, fun m hm => absurd hm (Nat.not_lt_zero m)⟩
  | cons e sizes ih =>
    rw [List.cons_append, evict_cons _ _ _ (by simp)]
    by_cases hfits : total (e :: (sizes ++ [newest])) ≤ capacity
    · exact ⟨0, if_pos hfits, hfits, fun m hm => absurd hm (Nat.not_lt_zero m)⟩
    · obtain ⟨n, hevict, hwithin, hshortest⟩ := ih
      have hrest : total (e :: (sizes ++ [newest])) - e.2 = total (sizes ++ [newest]) := by
        rw [total_cons, Nat.add_sub_cancel_left]
      refine ⟨n + 1, ?_, hwithin, fun m hm => ?_⟩
      · rw [if_neg hfits, hrest, hevict]
        rfl
      · cases m with
        | zero => exact Nat.lt_of_not_le hfits
        | succ m => exact hshortest m (Nat.lt_of_succ_lt_succ hm)

/-- The oldest keys other than one. -/
def oldest (s : Storage) (key : CacheKey) (n : Nat) : List CacheKey :=
  OrderedMap.keys ((s.sizes.erase key).take n)

/-- A call that stores a response and drops the `n` oldest of the other keys. -/
structure Stores (s : Storage) (key : CacheKey) (response : StoredResponse) (n : Nat) : Prop where
  change_eq : (s.store key response).2 = .stored (s.oldest key n)
  sizes_eq : (s.store key response).1.sizes = (s.sizes.erase key).drop n ++ [(key, response.size)]
  capacity_eq : (s.store key response).1.capacity = s.capacity
  /-- The response is on disk. -/
  get?_self : (s.store key response).1.get? key = some response
  /-- Of the others only what was dropped is gone from disk. -/
  get?_other : ∀ other, other ≠ key → (s.store key response).1.get? other
    = if other ∈ s.oldest key n then none else s.get? other
  within : total (s.store key response).1.sizes ≤ s.capacity
  /-- Dropping fewer of them would not have made room. -/
  shortest : ∀ m < n, s.capacity < total ((s.sizes.erase key).drop m ++ [(key, response.size)])

section
variable {s : Storage} {key : CacheKey} {response : StoredResponse} {n : Nat}

/-- A response that is larger than the capacity is skipped, and nothing is changed. -/
theorem store_of_large (h : s.capacity < response.size) :
    s.store key response = (s, .skipped response.size) := if_pos h

/-- A response that fits is stored, and no more is dropped for it than has to be. -/
theorem store_of_fits (key : CacheKey) (h : response.size ≤ s.capacity) :
    ∃ n, s.Stores key response n ∧ (s.entries.keys.Nodup →
      (s.store key response).1.entries.keys.Nodup) := by
  obtain ⟨n, hevict, hwithin, hshortest⟩ :=
    evict_shortest (s.sizes.erase key) (key, response.size) h
  have hstore : s.store key response
      = ({ s with
            sizes := (s.sizes.erase key).drop n ++ [(key, response.size)]
            entries := (s.oldest key n).foldl erase (s.entries.set key response) },
          .stored (s.oldest key n)) := by
    rw [store, if_neg (Nat.not_lt.2 h)]
    simp only [touch, hevict, oldest]
  have hkey : key ∉ s.oldest key n := fun hmem =>
    notMem_keys_erase s.sizes key (((List.take_sublist n _).map Prod.fst).subset hmem)
  have hget : ∀ other, (s.store key response).1.get? other
      = if other ∈ s.oldest key n then none
        else (s.entries.set key response).get? other := by
    intro other
    rw [hstore]
    exact get?_eraseAll _ _ other
  refine ⟨n, ⟨?_, ?_, ?_, ?_, fun other ho => ?_, ?_, hshortest⟩, fun hn => ?_⟩
  · rw [hstore]
  · rw [hstore]
  · rw [hstore]
  · rw [hget, if_neg hkey, get?_set_self]
  · rw [hget, get?_set_of_ne _ _ ho]
    rfl
  · rw [hstore]
    exact hwithin
  · rw [hstore]
    exact nodup_eraseAll (nodup_set hn key response) _

end

/-! ## Runs -/

/-- A call of `Storage.store`. -/
abbrev Call := CacheKey × StoredResponse

/-- The storage after some calls. -/
def storeAll (s : Storage) (calls : List Call) : Storage :=
  calls.foldl (fun s call => (s.store call.1 call.2).1) s

/-- The time of the last call that stored a key; a body that is too large is not stored. -/
def lastStored? (capacity : Nat) (calls : List Call) (key : CacheKey) : Option Nat :=
  ((calls.zipIdx.filter fun c => decide (c.1.1 = key ∧ c.1.2.size ≤ capacity)).getLast?).map Prod.snd

/-- One key was stored before another one, each the last time. -/
def StoredBefore (capacity : Nat) (calls : List Call) (key other : CacheKey) : Prop :=
  ∃ m n, lastStored? capacity calls key = some m ∧ lastStored? capacity calls other = some n ∧ m < n

/-- What holds of a storage after some calls. -/
structure Tidy (s : Storage) (calls : List Call) : Prop where
  within : total s.sizes ≤ s.capacity
  nodup_keys : s.keys.Nodup
  nodup_entries : s.entries.keys.Nodup
  /-- The keys stand in the order in which they were last stored. -/
  ordered : s.keys.Pairwise (StoredBefore s.capacity calls)
  /-- The index has the keys that are on disk, with the sizes of what is there. -/
  recorded : ∀ key, s.sizes.get? key = (s.get? key).map StoredResponse.size
  /-- What is on disk for a key is what was stored last. -/
  latest : ∀ key response, s.get? key = some response →
    ∃ n, lastStored? s.capacity calls key = some n ∧ calls[n]? = some (key, response)

section
variable {capacity : Nat} {calls : List Call} {call : Call} {key other : CacheKey} {s : Storage}

/-- The last call stores its own key, unless its response is too large. -/
theorem lastStored?_concat :
    lastStored? capacity (calls ++ [call]) key
      = if call.1 = key ∧ call.2.size ≤ capacity then some calls.length
        else lastStored? capacity calls key := by
  rw [lastStored?, List.zipIdx_append, List.filter_append]
  by_cases h : call.1 = key ∧ call.2.size ≤ capacity
  · simp [h]
  · simp [h, lastStored?]

/-- A key was stored by one of the calls. -/
theorem lastStored?_lt {n : Nat} (h : lastStored? capacity calls key = some n) :
    n < calls.length := by
  obtain ⟨c, hc, rfl⟩ := Option.map_eq_some_iff.1 h
  have hmem := (List.mem_filter.1 (List.mem_of_getLast? hc)).1
  have hlt := List.snd_lt_of_mem_zipIdx hmem
  omega

/-- A call for another key does not change when a key was last stored. -/
theorem lastStored?_of_ne (h : other ≠ call.1) :
    lastStored? capacity (calls ++ [call]) other = lastStored? capacity calls other := by
  rw [lastStored?_concat, if_neg fun hc => h hc.1.symm]

/-- A call for a third key leaves the order of two others. -/
theorem StoredBefore.concat {a b : CacheKey} (h : StoredBefore capacity calls a b)
    (ha : a ≠ call.1) (hb : b ≠ call.1) : StoredBefore capacity (calls ++ [call]) a b := by
  obtain ⟨m, n, hm, hn, hlt⟩ := h
  exact ⟨m, n, by rw [lastStored?_of_ne ha, hm], by rw [lastStored?_of_ne hb, hn], hlt⟩

/-- A call whose body is too large changes nothing. -/
theorem Tidy.skip (h : s.Tidy calls) (hc : s.capacity < call.2.size) :
    s.Tidy (calls ++ [call]) := by
  have hlast : ∀ key, lastStored? s.capacity (calls ++ [call]) key
      = lastStored? s.capacity calls key := fun key => by
    rw [lastStored?_concat, if_neg fun hf => Nat.not_le.2 hc hf.2]
  refine ⟨h.within, h.nodup_keys, h.nodup_entries, ?_, h.recorded, fun key response hr => ?_⟩
  · refine h.ordered.imp ?_
    rintro a b ⟨m, n, hm, hn, hlt⟩
    exact ⟨m, n, (hlast a).trans hm, (hlast b).trans hn, hlt⟩
  · obtain ⟨n, hn, hcall⟩ := h.latest key response hr
    refine ⟨n, (hlast key).trans hn, ?_⟩
    rw [List.getElem?_append_left (lastStored?_lt hn), hcall]

/-- Storing puts a key last, and drops others from the front. -/
theorem Stores.keys_eq {response : StoredResponse} {n : Nat} (hs : s.Stores key response n) :
    (s.store key response).1.keys = (s.keys.filter fun k => decide (k ≠ key)).drop n ++ [key] := by
  rw [Storage.keys, hs.sizes_eq, OrderedMap.keys, List.map_append, List.map_drop]
  congr 2
  exact keys_erase s.sizes key

section
variable {response : StoredResponse} {n : Nat} (h : s.Tidy calls) (hc : response.size ≤ s.capacity)
  (hs : s.Stores key response n)
include h

/-- What is in the index was stored by some call. -/
theorem Tidy.exists_lastStored? {k : CacheKey} (hk : k ∈ s.keys) :
    ∃ m, lastStored? s.capacity calls k = some m := by
  cases hg : s.get? k with
  | none =>
    have hnone := h.recorded k
    rw [hg] at hnone
    exact absurd hk (get?_eq_none_iff.1 hnone)
  | some stored =>
    obtain ⟨m, hm, -⟩ := h.latest k stored hg
    exact ⟨m, hm⟩

include hs

/-- After a call the index has the sizes of what is on disk. -/
theorem Tidy.recorded_stored (other : CacheKey) :
    (s.store key response).1.sizes.get? other
      = ((s.store key response).1.get? other).map StoredResponse.size := by
  have hdrop : OrderedMap.get? ((s.sizes.erase key).drop n) other
      = if other ∈ s.oldest key n then none else (s.sizes.erase key).get? other :=
    get?_drop (nodup_erase h.nodup_keys key) n other
  rw [hs.sizes_eq, OrderedMap.get?_append, hdrop]
  by_cases ho : other = key
  · subst ho
    simp [hs.get?_self, OrderedMap.get?]
  · have hnone : OrderedMap.get? [(key, response.size)] other = none := if_neg (Ne.symm ho)
    rw [hnone, Option.or_none, hs.get?_other other ho, get?_erase_of_ne _ ho, h.recorded other]
    split
    · rfl
    · rfl

include hc

/-- After a call the keys stand in the order in which they were last stored: its own is the last. -/
theorem Tidy.ordered_stored :
    (s.store key response).1.keys.Pairwise
      (StoredBefore s.capacity (calls ++ [(key, response)])) := by
  have hothers : ((s.keys.filter fun k => decide (k ≠ key)).drop n).Sublist s.keys :=
    (List.drop_sublist n _).trans List.filter_sublist
  have hne : ∀ k ∈ (s.keys.filter fun k => decide (k ≠ key)).drop n, k ≠ key := fun k hk => by
    simpa using (List.mem_filter.1 ((List.drop_sublist n _).subset hk)).2
  rw [hs.keys_eq]
  refine List.pairwise_append.2 ⟨?_, List.pairwise_singleton _ _, fun a ha b hb => ?_⟩
  · refine (h.ordered.sublist hothers).imp_of_mem ?_
    intro a b ha hb hab
    exact hab.concat (hne a ha) (hne b hb)
  · obtain rfl := List.mem_singleton.1 hb
    obtain ⟨m, hm⟩ := h.exists_lastStored? (hothers.subset ha)
    exact ⟨m, calls.length, by rw [lastStored?_of_ne (hne a ha), hm],
      by rw [lastStored?_concat, if_pos ⟨rfl, hc⟩], lastStored?_lt hm⟩

/-- After a call there is on disk what was last stored under a key. -/
theorem Tidy.latest_stored {other : CacheKey} {stored : StoredResponse}
    (hr : (s.store key response).1.get? other = some stored) :
    ∃ m, lastStored? s.capacity (calls ++ [(key, response)]) other = some m ∧
      (calls ++ [(key, response)])[m]? = some (other, stored) := by
  by_cases ho : other = key
  · subst ho
    rw [hs.get?_self] at hr
    obtain rfl := Option.some.inj hr
    exact ⟨calls.length, by rw [lastStored?_concat, if_pos ⟨rfl, hc⟩], by simp⟩
  · rw [hs.get?_other other ho] at hr
    split at hr
    · cases hr
    · obtain ⟨m, hm, hcall⟩ := h.latest other stored hr
      refine ⟨m, by rw [lastStored?_of_ne ho, hm], ?_⟩
      rw [List.getElem?_append_left (lastStored?_lt hm), hcall]

/-- A call that stores a response keeps the storage tidy. -/
theorem Tidy.stored (he : (s.store key response).1.entries.keys.Nodup) :
    (s.store key response).1.Tidy (calls ++ [(key, response)]) := by
  have hnodup : (s.store key response).1.keys.Nodup := by
    rw [hs.keys_eq]
    refine List.nodup_append.2 ⟨?_, List.nodup_singleton _, ?_⟩
    · exact ((List.drop_sublist n _).trans List.filter_sublist).nodup h.nodup_keys
    · rintro a ha b hb rfl
      have hne := (List.mem_filter.1 ((List.drop_sublist n _).subset ha)).2
      simp [List.mem_singleton.1 hb] at hne
  refine ⟨?_, hnodup, he, ?_, h.recorded_stored hs, fun other stored hr => ?_⟩
  · rw [hs.capacity_eq]
    exact hs.within
  · rw [hs.capacity_eq]
    exact h.ordered_stored hc hs
  · rw [hs.capacity_eq]
    exact h.latest_stored hc hs hr

end

/-- Each call keeps the storage tidy. -/
theorem Tidy.store (h : s.Tidy calls) (call : Call) :
    (s.store call.1 call.2).1.Tidy (calls ++ [call]) := by
  by_cases hc : call.2.size ≤ s.capacity
  · obtain ⟨n, hs, he⟩ := store_of_fits call.1 hc
    exact h.stored hc hs (he h.nodup_entries)
  · have hlarge := Nat.lt_of_not_le hc
    rw [store_of_large hlarge]
    exact h.skip hlarge

/-- A call leaves the capacity as it is. -/
theorem capacity_store (s : Storage) (call : Call) :
    (s.store call.1 call.2).1.capacity = s.capacity := by
  by_cases hc : call.2.size ≤ s.capacity
  · obtain ⟨n, hs, -⟩ := store_of_fits call.1 hc
    exact hs.capacity_eq
  · rw [store_of_large (Nat.lt_of_not_le hc)]

/-- A tidy storage is tidy after any more calls, by induction on them. -/
theorem Tidy.storeAll (h : s.Tidy calls) (more : List Call) :
    (s.storeAll more).Tidy (calls ++ more) := by
  induction more generalizing s calls with
  | nil => simpa [Storage.storeAll] using h
  | cons call more ih =>
    have hnext := ih (h.store call)
    rwa [List.append_assoc] at hnext

/-- Any calls leave the capacity as it is. -/
theorem capacity_storeAll (s : Storage) (calls : List Call) :
    (s.storeAll calls).capacity = s.capacity := by
  induction calls generalizing s with
  | nil => rfl
  | cons call calls ih => exact (ih _).trans (capacity_store s call)

end

/-- An empty storage is tidy. -/
theorem tidy_new (capacity : Nat) : ({ capacity } : Storage).Tidy [] where
  within := Nat.zero_le _
  nodup_keys := List.nodup_nil
  nodup_entries := List.nodup_nil
  ordered := List.Pairwise.nil
  recorded _ := rfl
  latest _ _ h := by cases h

/-- After any calls a storage is tidy, and what a further call does: a body that is larger than the
storage changes nothing; any other is stored, and the shortest run of the oldest other keys is
dropped that makes room for it. -/
theorem bounded_after_calls (capacity : Nat) (calls : List Call) :
    (({ capacity } : Storage).storeAll calls).Tidy calls ∧
      (({ capacity } : Storage).storeAll calls).capacity = capacity ∧
      ∀ key response,
        if capacity < response.size then
          (({ capacity } : Storage).storeAll calls).store key response
            = (({ capacity } : Storage).storeAll calls, .skipped response.size)
        else ∃ n, (({ capacity } : Storage).storeAll calls).Stores key response n := by
  have hcap := capacity_storeAll { capacity } calls
  refine ⟨(tidy_new capacity).storeAll calls, hcap, fun key response => ?_⟩
  split
  case isTrue h => exact store_of_large (by rwa [hcap])
  case isFalse h =>
    have hfits : response.size ≤ (({ capacity } : Storage).storeAll calls).capacity := by
      rw [hcap]
      exact Nat.le_of_not_lt h
    obtain ⟨n, hs, -⟩ := store_of_fits key hfits
    exact ⟨n, hs⟩

end Storage

end HttpCourier
