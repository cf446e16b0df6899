import HttpCourier.Header.Basic
import Mathlib.Data.List.Basic

/-!
# Grouping by first appearance

Values that arrive one by one under keys are grouped: each joins the group of its key, or starts one
at the end (`Grouping.add`). What this gives is `Grouping.byKey`: the keys in the order and the
spelling of their first appearance, each with its values in the order of arrival
(`Grouping.foldl_add`). When two keys are the same is a parameter; the attributes made from header
fields are grouped without regard to letter case (`Headers.toAttributes_eq`).
-/

namespace HttpCourier

namespace Grouping

variable {α β : Type} {same : α → α → Bool} {a : α} {keys : List α}

/-- What follows the head of a list may lose members before the rest is looked at. -/
theorem induction_filter {motive : List α → Prop} (nil : motive [])
    (cons : ∀ a rest, (∀ p : α → Bool, motive (rest.filter p)) → motive (a :: rest)) :
    ∀ l, motive l
  | [] => nil
  | a :: rest => cons a rest fun p => induction_filter nil cons (rest.filter p)
termination_by l => l.length
decreasing_by exact Nat.lt_succ_of_le (List.length_filter_le _ _)

/-! ## The first of each kind -/

/-- The kept keys stand in their order. -/
theorem eraseDupsBy_sublist (same : α → α → Bool) (keys : List α) :
    (keys.eraseDupsBy same).Sublist keys := by
  induction keys using induction_filter with
  | nil => exact .slnil
  | cons key rest ih =>
    rw [List.eraseDupsBy_cons]
    exact ((ih _).trans List.filter_sublist).cons_cons key

/-- Of every kind of key one is kept. -/
theorem exists_mem_eraseDupsBy (hrefl : ∀ a, same a a = true) (h : a ∈ keys) :
    ∃ key ∈ keys.eraseDupsBy same, same a key = true := by
  induction keys using induction_filter with
  | nil => cases h
  | cons key rest ih =>
    rw [List.eraseDupsBy_cons]
    by_cases hkey : same a key = true
    · exact ⟨key, List.mem_cons_self, hkey⟩
    · have hrest : a ∈ rest := (List.mem_cons.1 h).resolve_left fun e => hkey (e ▸ hrefl a)
      have hfilter : a ∈ rest.filter fun b => same b key = false :=
        List.mem_filter.2 ⟨hrest, by simpa using hkey⟩
      obtain ⟨first, hfirst, hsame⟩ := ih _ hfilter
      exact ⟨first, List.mem_cons_of_mem _ hfirst, hsame⟩

/-- No two of the kept keys are of one kind. -/
theorem pairwise_eraseDupsBy (same : α → α → Bool) (keys : List α) :
    (keys.eraseDupsBy same).Pairwise fun a b => same b a = false := by
  induction keys using induction_filter with
  | nil => exact .nil
  | cons key rest ih =>
    rw [List.eraseDupsBy_cons]
    refine .cons (fun b hb => ?_) (ih _)
    simpa using (List.mem_filter.1 ((eraseDupsBy_sublist same _).subset hb)).2

/-- A key that follows one of its kind is not kept. -/
theorem eraseDupsBy_append_cons {before after : List α} {key : α}
    (hsame : Equivalence fun a b => same a b = true) (ha : a ∈ before) (hkey : same a key = true) :
    (before ++ key :: after).eraseDupsBy same = (before ++ after).eraseDupsBy same := by
  induction before using induction_filter generalizing after with
  | nil => cases ha
  | cons first rest ih =>
    rw [List.cons_append, List.cons_append, List.eraseDupsBy_cons, List.eraseDupsBy_cons,
      List.filter_append, List.filter_append]
    by_cases hfirst : same key first = true
    · rw [List.filter_cons_of_neg (by simpa using hfirst)]
    · have hrest : a ∈ rest := by
        refine (List.mem_cons.1 ha).resolve_left fun e => hfirst (hsame.symm (e ▸ hkey))
      have hdiff : same a first ≠ true := fun h => hfirst (hsame.trans (hsame.symm hkey) h)
      have hfilter : a ∈ rest.filter fun b => same b first = false :=
        List.mem_filter.2 ⟨hrest, by simpa using hdiff⟩
      rw [List.filter_cons_of_pos (by simpa using hfirst), ih _ hfilter]

/-! ## Groups -/

/-- Adds a value to the group of its key, or starts a group at the end. -/
def add (same : α → α → Bool) : List (α × List β) → α → β → List (α × List β)
  | [], key, value => [(key, [value])]
  | group :: rest, key, value =>
    if same group.1 key then (group.1, group.2 ++ [value]) :: rest
    else group :: add same rest key value

/-- The values of a key. -/
def valuesAt (same : α → α → Bool) (pairs : List (α × β)) (key : α) : List β :=
  (pairs.filter fun pair => same pair.1 key).map Prod.snd

/-- The first of each kind of key, with its values. -/
def byKey (same : α → α → Bool) (pairs : List (α × β)) : List (α × List β) :=
  ((pairs.map Prod.fst).eraseDupsBy same).map fun key => (key, valuesAt same pairs key)

variable {pairs : List (α × β)}

/-- A group takes the values of its key out of what arrives. -/
theorem foldl_add_cons (hsame : Equivalence fun a b => same a b = true) (group : α × List β)
    (groups : List (α × List β)) (pairs : List (α × β)) :
    pairs.foldl (fun gs pair => add same gs pair.1 pair.2) (group :: groups)
      = (group.1, group.2 ++ valuesAt same pairs group.1) ::
        (pairs.filter fun pair => same pair.1 group.1 = false).foldl
          (fun gs pair => add same gs pair.1 pair.2) groups := by
  -- On what arrives, over every first group: it has more values after each pair of its key.
  induction pairs generalizing group groups with
  | nil => simp [valuesAt]
  | cons pair pairs ih =>
    by_cases h : same pair.1 group.1 = true
    · have hadd : add same (group :: groups) pair.1 pair.2
          = (group.1, group.2 ++ [pair.2]) :: groups := if_pos (hsame.symm h)
      rw [List.foldl_cons, hadd, ih]
      simp [valuesAt, h]
    · have hadd : add same (group :: groups) pair.1 pair.2
          = group :: add same groups pair.1 pair.2 := if_neg fun h' => h (hsame.symm h')
      rw [List.foldl_cons, hadd, ih]
      simp [valuesAt, h]

/-- Apart from the first key, the groups are those of what has another key. -/
theorem byKey_cons (hsame : Equivalence fun a b => same a b = true) (pair : α × β)
    (pairs : List (α × β)) :
    byKey same (pair :: pairs) = (pair.1, pair.2 :: valuesAt same pairs pair.1) ::
      byKey same (pairs.filter fun other => same other.1 pair.1 = false) := by
  have hkeys : (pairs.map Prod.fst).filter (fun key => same key pair.1 = false)
      = (pairs.filter fun other => same other.1 pair.1 = false).map Prod.fst := by
    rw [List.filter_map]
    rfl
  rw [byKey, List.map_cons, List.eraseDupsBy_cons, List.map_cons, hkeys, byKey]
  congr 1
  · simp [valuesAt, hsame.refl pair.1]
  · refine List.map_congr_left fun key hkey => ?_
    obtain ⟨other, hother, rfl⟩ := List.mem_map.1 ((eraseDupsBy_sublist same _).subset hkey)
    have hdiff : same pair.1 other.1 ≠ true := fun h => by
      have hsymm : same other.1 pair.1 = true := hsame.symm h
      simp [hsymm] at hother
    have hkept : ∀ p ∈ pairs, same p.1 other.1 =
        (same p.1 other.1 && decide (same p.1 pair.1 = false)) := by
      intro p _
      by_cases h : same p.1 other.1 = true
      · have hp : same p.1 pair.1 ≠ true := fun h' => hdiff (hsame.trans (hsame.symm h') h)
        simp [h, hp]
      · simp [h]
    have hvalues : valuesAt same (pair :: pairs) other.1
        = valuesAt same (pairs.filter fun other => same other.1 pair.1 = false) other.1 := by
      rw [valuesAt, valuesAt, List.filter_cons_of_neg (by exact hdiff), List.filter_filter,
        ← List.filter_congr hkept]
    rw [hvalues]

/-- Values that join the group of their key, or start one, end up grouped by key. -/
theorem foldl_add (hsame : Equivalence fun a b => same a b = true) (pairs : List (α × β)) :
    pairs.foldl (fun gs pair => add same gs pair.1 pair.2) [] = byKey same pairs := by
  induction pairs using induction_filter with
  | nil => rfl
  | cons pair pairs ih =>
    rw [List.foldl_cons, add, foldl_add_cons hsame, ih, byKey_cons hsame]
    rfl

end Grouping

namespace Headers

open Text

/-- To be the same name without regard to case is an equivalence. -/
theorem sameName_equivalence : Equivalence fun a b => sameName a b = true := by
  simp only [sameName, beq_iff_eq]
  exact ⟨fun _ => rfl, Eq.symm, Eq.trans⟩

/-- The names of fields, each once: in the order of first appearance and the first spelling. -/
def spellings (headers : Headers) : List String := (headers.map Prod.fst).eraseDupsBy sameName

/-- A header is added to the group of its name. -/
theorem map_addToGroups (groups : List Group) (name value : String) :
    (addToGroups groups name value).map (fun g => (g.name, g.values))
      = Grouping.add sameName (groups.map fun g => (g.name, g.values)) name value := by
  induction groups with
  | nil => rfl
  | cons g rest ih =>
    rw [addToGroups, List.map_cons, Grouping.add]
    split
    · rfl
    · rw [List.map_cons, ih]

/-- The groups of headers are their values by name. -/
theorem map_groups (headers : Headers) :
    headers.groups.map (fun g => (g.name, g.values)) = Grouping.byKey sameName headers := by
  rw [← Grouping.foldl_add sameName_equivalence]
  exact (List.foldl_hom (List.map fun g : Group => (g.name, g.values)) fun groups field =>
    (map_addToGroups groups field.1 field.2).symm).symm

/-- Each name is an attribute, in its first spelling, with its values as one text. -/
theorem toAttributes_eq (headers : Headers) :
    headers.toAttributes
      = headers.spellings.map fun name => (name, joinValues (headers.valuesOf name)) := by
  have hpairs : headers.toAttributes
      = (headers.groups.map fun g => (g.name, g.values)).map fun g => (g.1, joinValues g.2) := by
    rw [toAttributes, List.map_map]
    rfl
  rw [hpairs, map_groups, Grouping.byKey, List.map_map]
  rfl

/-- The attributes are named by the first spelling of each header name. -/
theorem keys_toAttributes (headers : Headers) : headers.toAttributes.keys = headers.spellings := by
  rw [toAttributes_eq, OrderedMap.keys, List.map_map]
  exact List.map_id _

end Headers

end HttpCourier
