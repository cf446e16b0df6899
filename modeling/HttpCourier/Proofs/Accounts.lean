import HttpCourier.Session
import Mathlib.Data.List.Nodup
import Mathlib.Data.List.Perm.Basic

/-!
# The accounts of a session

`Session.Accounts` compares a session with an earlier one that held no items: it names the items in
hand, those that were transferred since and those that were removed, each once and in its last
version. One lemma for each operation of a session says how it moves an item between the three.
-/

namespace HttpCourier

/-- The digits of a number determine it, whatever their width. -/
theorem Ids.paddedDecimal_injective {width m n : Nat}
    (h : paddedDecimal width m = paddedDecimal width n) : m = n := by
  have hl := congrArg String.toList h
  simp only [Ids.paddedDecimal, String.toList_ofList, Nat.toString_eq_ofList_toDigits] at hl
  have hv := congrArg (fun digits => Nat.ofDigitChars 10 digits 0) hl
  simpa [Nat.ofDigitChars_append, Nat.ofDigitChars_replicate_zero] using hv

/-- The supply gives every identifier once. -/
theorem Ids.text_injective {m n : Nat} (h : Ids.text m = Ids.text n) : m = n := by
  unfold Ids.text at h
  exact paddedDecimal_injective ((String.append_right_inj _).1 h)

/-- All identifiers have the same front before their number. -/
theorem Ids.length_text (n : Nat) : (text n).length = 24 + (paddedDecimal 12 n).length := by
  have hstem : ("00000000-0000-4000-8000-" : String).length = 24 := by decide +kernel
  unfold text
  rw [String.length_append, hstem]

namespace Session

/-- Items by their identifiers. -/
def tagged (hand : List WorkItem) : OrderedMap String WorkItem :=
  hand.map fun item => (item.id, item)

/-- The last version of an item in a list of versions. -/
def lastVersion? (versions : List WorkItem) (id : String) : Option WorkItem :=
  (versions.filter fun v => v.id = id).getLast?

/-- The last version of an item is the one that was kept last. -/
theorem lastVersion?_append_self (versions : List WorkItem) (item : WorkItem) :
    lastVersion? (versions ++ [item]) item.id = some item := by
  simp [lastVersion?]

/-- A version of another item is not the last version of this one. -/
theorem lastVersion?_append_of_ne (versions : List WorkItem) {item : WorkItem} {id : String}
    (h : item.id ≠ id) : lastVersion? (versions ++ [item]) id = lastVersion? versions id := by
  simp [lastVersion?, h]

/-! ## Items by their identifiers -/

/-- Items are known by their identifiers. -/
theorem has_tagged {hand : List WorkItem} {id : String} :
    (tagged hand).has id = true ↔ id ∈ hand.map (·.id) := by
  induction hand with
  | nil => simp [tagged, OrderedMap.has]
  | cons item hand ih =>
    simp only [tagged, OrderedMap.has, List.map_cons, OrderedMap.get?, List.mem_cons] at ih ⊢
    by_cases hi : item.id = id
    · simp [hi]
    · rw [if_neg hi, ih]
      simp [Ne.symm hi]

/-- An item with a new identifier is added at the end. -/
theorem set_tagged_of_notMem {hand : List WorkItem} {item : WorkItem}
    (h : item.id ∉ hand.map (·.id)) : (tagged hand).set item.id item = tagged (hand ++ [item]) := by
  induction hand with
  | nil => rfl
  | cons other hand ih =>
    rw [List.map_cons, List.mem_cons, not_or] at h
    have hi := ih h.2
    simp only [tagged, List.map_cons, List.cons_append, OrderedMap.set] at hi ⊢
    rw [if_neg (Ne.symm h.1), hi]

/-- A new version stands in the place of the old one. -/
theorem set_tagged {before after : List WorkItem} {item next : WorkItem} (hid : next.id = item.id)
    (h : item.id ∉ before.map (·.id)) :
    (tagged (before ++ item :: after)).set next.id next = tagged (before ++ next :: after) := by
  induction before with
  | nil => simp [tagged, OrderedMap.set, hid]
  | cons other before ih =>
    rw [List.map_cons, List.mem_cons, not_or] at h
    have hi := ih h.2
    simp only [tagged, List.map_cons, List.cons_append, OrderedMap.set] at hi ⊢
    rw [if_neg (by rw [hid]; exact Ne.symm h.1), hi]

/-- To erase an identifier that no item has changes nothing. -/
theorem erase_tagged_of_notMem {hand : List WorkItem} {id : String} (h : id ∉ hand.map (·.id)) :
    (tagged hand).erase id = tagged hand := by
  rw [OrderedMap.erase, List.filter_eq_self]
  intro kv hkv
  obtain ⟨item, hi, rfl⟩ := List.mem_map.1 hkv
  have hne : item.id ≠ id := fun he => h (he ▸ List.mem_map_of_mem hi)
  simpa using hne

/-- To erase an item leaves the others in their order. -/
theorem erase_tagged {before after : List WorkItem} {item : WorkItem}
    (h : ((before ++ item :: after).map (·.id)).Nodup) :
    (tagged (before ++ item :: after)).erase item.id = tagged (before ++ after) := by
  have hn : item.id ∉ (before ++ after).map (·.id) := by
    have hp : ((before ++ item :: after).map (·.id)).Perm
        ((item :: (before ++ after)).map (·.id)) :=
      List.perm_middle.map _
    exact (List.nodup_cons.1 (hp.nodup_iff.1 h)).1
  have ht : (tagged (before ++ item :: after)).erase item.id
      = (tagged (before ++ after)).erase item.id := by
    simp [tagged, OrderedMap.erase]
  rw [ht, erase_tagged_of_notMem hn]

/-! ## Accounts -/

/-- The accounts of a session since `base`: the items in hand, the transfers and the removals. They
are distinct, every version that was kept is of one of them, and each of them is in the last version
that was kept. -/
structure Accounts (base s : Session) (hand : List WorkItem)
    (transfers : List (Relationship × WorkItem)) (removed : List WorkItem) : Prop where
  live_eq : s.live = tagged hand
  transfers_eq : s.transfers = base.transfers ++ transfers
  removed_eq : s.removed = base.removed ++ removed
  incoming_eq : s.incoming = base.incoming
  refusesRemoval_eq : s.refusesRemoval = base.refusesRemoval
  nodup : ((hand ++ (transfers.map Prod.snd ++ removed)).map (·.id)).Nodup
  versions : ∃ kept, s.versions = base.versions ++ kept ∧
    (∀ v ∈ kept, v.id ∈ (hand ++ (transfers.map Prod.snd ++ removed)).map (·.id)) ∧
    ∀ item ∈ hand ++ (transfers.map Prod.snd ++ removed), lastVersion? kept item.id = some item

namespace Accounts

variable {base s : Session} {hand before after removed : List WorkItem} {item next : WorkItem}
  {transfers : List (Relationship × WorkItem)}

/-- A session without items in hand has nothing on its accounts. -/
theorem start (h : base.live = []) : Accounts base base [] [] [] where
  live_eq := h
  transfers_eq := (List.append_nil _).symm
  removed_eq := (List.append_nil _).symm
  incoming_eq := rfl
  refusesRemoval_eq := rfl
  nodup := List.nodup_nil
  versions := ⟨[], (List.append_nil _).symm, by simp, by simp⟩

/-- The record of events is no part of the accounts. -/
theorem withEvents (h : Accounts base s hand transfers removed) (events : List Provenance) :
    Accounts base { s with events } hand transfers removed :=
  ⟨h.live_eq, h.transfers_eq, h.removed_eq, h.incoming_eq, h.refusesRemoval_eq, h.nodup, h.versions⟩

/-- An item in hand is held. -/
theorem hold (h : Accounts base s (before ++ item :: after) transfers removed) :
    s.hold item = .ok () := by
  have hh : s.live.has item.id = true := by
    rw [h.live_eq, has_tagged]
    simp
  rw [Session.hold, if_pos hh]

/-- An item with a new identifier comes to hand. -/
theorem track (h : Accounts base s hand transfers removed)
    (hn : item.id ∉ (hand ++ (transfers.map Prod.snd ++ removed)).map (·.id)) :
    Accounts base (s.track item) (hand ++ [item]) transfers removed := by
  have hp : (hand ++ [item] ++ (transfers.map Prod.snd ++ removed)).Perm
      (item :: (hand ++ (transfers.map Prod.snd ++ removed))) := by
    rw [List.append_assoc]
    exact List.perm_middle
  obtain ⟨kept, hk, hids, hlast⟩ := h.versions
  refine ⟨?_, h.transfers_eq, h.removed_eq, h.incoming_eq, h.refusesRemoval_eq, ?_,
    kept ++ [item], ?_, ?_, ?_⟩
  · have hh : item.id ∉ hand.map (·.id) := by
      intro hm
      refine hn ?_
      rw [List.map_append]
      exact List.mem_append_left _ hm
    simp only [Session.track, h.live_eq]
    exact set_tagged_of_notMem hh
  · rw [(hp.map _).nodup_iff, List.map_cons, List.nodup_cons]
    exact ⟨hn, h.nodup⟩
  · simp only [Session.track, hk, List.append_assoc]
  · intro v hv
    rw [(hp.map _).mem_iff, List.map_cons, List.mem_cons]
    rcases List.mem_append.1 hv with hv | hv
    · exact .inr (hids v hv)
    · exact .inl (by rw [List.mem_singleton.1 hv])
  · intro other ho
    rw [hp.mem_iff, List.mem_cons] at ho
    rcases ho with rfl | ho
    · exact lastVersion?_append_self _ _
    · have hne : item.id ≠ other.id := fun he => hn (he ▸ List.mem_map_of_mem ho)
      rw [lastVersion?_append_of_ne _ hne]
      exact hlast other ho

/-- An item in hand gets another version. -/
theorem revise (h : Accounts base s (before ++ item :: after) transfers removed)
    (hid : next.id = item.id) :
    Accounts base (s.track next) (before ++ next :: after) transfers removed := by
  have hids : ∀ rest : List WorkItem, (before ++ next :: after ++ rest).map (·.id)
      = (before ++ item :: after ++ rest).map (·.id) := by
    intro rest
    simp [hid]
  obtain ⟨kept, hk, hkept, hlast⟩ := h.versions
  have hnd := h.nodup
  refine ⟨?_, h.transfers_eq, h.removed_eq, h.incoming_eq, h.refusesRemoval_eq, ?_,
    kept ++ [next], ?_, ?_, ?_⟩
  · have hb : item.id ∉ before.map (·.id) := by
      intro hm
      simp only [List.append_assoc, List.map_append, List.cons_append, List.map_cons] at hnd
      exact (List.nodup_append.1 hnd).2.2 _ hm _ List.mem_cons_self rfl
    simp only [Session.track, h.live_eq]
    exact set_tagged hid hb
  · rw [hids]
    exact hnd
  · simp only [Session.track, hk, List.append_assoc]
  · intro v hv
    rw [hids]
    rcases List.mem_append.1 hv with hv | hv
    · exact hkept v hv
    · rw [List.mem_singleton.1 hv, hid]
      simp
  · intro other ho
    have hp : (before ++ item :: after ++ (transfers.map Prod.snd ++ removed)).Perm
        (item :: (before ++ after ++ (transfers.map Prod.snd ++ removed))) := by
      simp only [List.append_assoc, List.cons_append]
      exact List.perm_middle
    have hnot := (List.nodup_cons.1 ((hp.map (·.id)).nodup_iff.1 hnd)).1
    by_cases he : other = next
    · rw [he]
      exact lastVersion?_append_self _ _
    · have hm : other ∈ before ++ after ++ (transfers.map Prod.snd ++ removed) := by
        simpa [he] using ho
      have hne : next.id ≠ other.id := by
        rw [hid]
        intro hx
        exact hnot (List.mem_map.2 ⟨other, hm, hx.symm⟩)
      rw [lastVersion?_append_of_ne _ hne]
      exact hlast other (hp.mem_iff.2 (List.mem_cons_of_mem _ hm))

/-- The accounts after an item in hand was let go of, to the transfers or to the removals. -/
theorem release (h : Accounts base s (before ++ item :: after) transfers removed)
    (transfers' : List (Relationship × WorkItem)) (removed' : List WorkItem)
    (hp : (transfers'.map Prod.snd ++ removed').Perm
      (item :: (transfers.map Prod.snd ++ removed))) :
    Accounts base
      { s.release item with
        transfers := base.transfers ++ transfers', removed := base.removed ++ removed' }
      (before ++ after) transfers' removed' := by
  have hall : (before ++ after ++ (transfers'.map Prod.snd ++ removed')).Perm
      (before ++ item :: after ++ (transfers.map Prod.snd ++ removed)) := by
    simp only [List.append_assoc, List.cons_append]
    refine .append_left _ ?_
    exact (hp.append_left after).trans List.perm_middle
  obtain ⟨kept, hk, hkept, hlast⟩ := h.versions
  refine ⟨?_, rfl, rfl, h.incoming_eq, h.refusesRemoval_eq, ?_, kept, hk, ?_, ?_⟩
  · have hnd := h.nodup
    rw [List.map_append] at hnd
    simp only [Session.release, h.live_eq]
    exact erase_tagged (List.nodup_append.1 hnd).1
  · rw [(hall.map _).nodup_iff]
    exact h.nodup
  · intro v hv
    rw [(hall.map _).mem_iff]
    exact hkept v hv
  · intro other ho
    exact hlast other (hall.mem_iff.1 ho)

/-- An item in hand can be given another version. -/
theorem update (h : Accounts base s (before ++ item :: after) transfers removed)
    (hid : next.id = item.id) :
    ∃ s', s.update item next = .ok (next, s') ∧
      Accounts base s' (before ++ next :: after) transfers removed := by
  refine ⟨s.track next, ?_, h.revise hid⟩
  rw [Session.update, h.hold]
  rfl

/-- An item in hand can be transferred. -/
theorem transfer (h : Accounts base s (before ++ item :: after) transfers removed)
    (r : Relationship) :
    ∃ s', s.transfer item r = .ok s' ∧
      Accounts base s' (before ++ after) (transfers ++ [(r, item)]) removed := by
  refine ⟨{ s.release item with transfers := s.transfers ++ [(r, item)] }, ?_, ?_⟩
  · rw [Session.transfer, h.hold]
    rfl
  · have hr := h.release (transfers ++ [(r, item)]) removed (by
      rw [List.map_append, List.append_assoc]
      exact List.perm_middle)
    rw [← List.append_assoc, ← h.transfers_eq, ← h.removed_eq] at hr
    exact hr

/-- An item in hand can be removed. -/
theorem remove (h : Accounts base s (before ++ item :: after) transfers removed)
    (hr : base.refusesRemoval = false) :
    ∃ s', s.remove item = .ok s' ∧
      Accounts base s' (before ++ after) transfers (removed ++ [item]) := by
  refine ⟨{ s.release item with removed := s.removed ++ [item] }, ?_, ?_⟩
  · rw [Session.remove, h.refusesRemoval_eq, hr, h.hold]
    rfl
  · have hr := h.release transfers (removed ++ [item]) (by
      rw [← List.append_assoc]
      exact List.perm_append_singleton _ _)
    rw [← List.append_assoc, ← h.transfers_eq, ← h.removed_eq] at hr
    exact hr

end Accounts

end Session

end HttpCourier
