import HttpCourier.Header.Redaction
import HttpCourier.Proofs.Attributes
import HttpCourier.Proofs.Cuts
import Mathlib.Data.List.Forall2

/-!
# Header fields listed under their names

The fields of a message are listed twice: as attributes, where the letter case of a name does not
matter, and in logs, where it does and secrets are covered. Both lists have one entry for each name,
in the order of first appearance (`Headers.toAttributes_lists`, `Headers.redacted_lists`). The first
depends on nothing but the first spellings and the values of each name; the second does not depend
on the values of sensitive fields.
-/

namespace HttpCourier

open Text

/-! ## Blank texts -/

/-- Only blanks are trimmed off altogether. -/
theorem Text.trimChars_eq_nil_iff {s : List Char} : trimChars s = [] ↔ ∀ c ∈ s, isBlank c = true := by
  rw [trimChars, trimRight, List.reverse_eq_nil_iff, List.dropWhile_eq_nil_iff, trimLeft]
  constructor
  · intro h
    have hnil : s.dropWhile isBlank = [] := by
      rw [← List.head?_eq_none_iff]
      refine Option.eq_none_iff_forall_not_mem.2 fun c hc => ?_
      have hblank := h c (List.mem_reverse.2 (List.mem_of_mem_head? hc))
      rw [eq_false_of_head?_dropWhile hc] at hblank
      cases hblank
    exact List.dropWhile_eq_nil_iff.1 hnil
  · intro h c hc
    exact h c ((List.dropWhile_suffix _).subset (List.mem_reverse.1 hc))

/-- Trimming leaves nothing of a blank text, and something of any other. -/
theorem Text.isEmpty_trim (s : String) : (trim s).isEmpty = isBlankText s := by
  rw [Bool.eq_iff_iff, String.isEmpty_iff, ← String.toList_eq_nil_iff, trim, String.toList_ofList,
    trimChars_eq_nil_iff, isBlankText, List.all_eq_true]

namespace Headers

/-! ## Attributes -/

/-- The texts that are not blank, without the blanks around them, as one text. -/
def listed (values : List String) : String :=
  ", ".intercalate ((values.filter fun value => !isBlankText value).map trim)

/-- Values other than a single one are joined as they are listed. -/
theorem joinValues_eq_listed {values : List String} (h : ∀ value, values ≠ [value]) :
    joinValues values = listed values := by
  have hjoin : joinValues values
      = ", ".intercalate ((values.map trim).filter fun value => !value.isEmpty) := by
    match values with
    | [] => rfl
    | [value] => exact absurd rfl (h value)
    | _ :: _ :: _ => rfl
  have hblank : ∀ value ∈ values,
      ((fun value => !value.isEmpty) ∘ trim) value = !isBlankText value := fun value _ => by
    rw [Function.comp_apply, isEmpty_trim]
  rw [hjoin, List.filter_map, List.filter_congr hblank, listed]

/-- What the attributes are made of: the first spelling of each name, and its values. -/
theorem toAttributes_congr {headers others : Headers} (hnames : others.spellings = headers.spellings)
    (hvalues : ∀ name, others.valuesOf name = headers.valuesOf name) :
    others.toAttributes = headers.toAttributes := by
  rw [toAttributes_eq, toAttributes_eq, hnames]
  exact List.map_congr_left fun name _ => by rw [hvalues]

/-- The letter case of a name that appeared before does not matter. -/
theorem toAttributes_recased {before after : Headers} {name other : String} (value : String)
    (hbefore : ∃ field ∈ before, sameName field.1 name = true) (hother : sameName name other = true) :
    toAttributes (before ++ (other, value) :: after)
      = toAttributes (before ++ (name, value) :: after) := by
  obtain ⟨field, hfield, hsame⟩ := hbefore
  have hmem : field.1 ∈ before.map Prod.fst := List.mem_map_of_mem hfield
  refine toAttributes_congr ?_ fun key => ?_
  · simp only [spellings, List.map_append, List.map_cons]
    rw [Grouping.eraseDupsBy_append_cons sameName_equivalence hmem
        (sameName_equivalence.trans hsame hother),
      Grouping.eraseDupsBy_append_cons sameName_equivalence hmem hsame]
  · have hkey : sameName other key = sameName name key := by
      simp only [sameName, beq_iff_eq] at hother
      rw [sameName, sameName, hother]
    simp only [valuesOf, List.filter_append, List.filter_cons, hkey]
    split <;> simp

/-- Every name is listed once: in its first spelling, in the order of first appearance, with its
value as it is when there is one, and otherwise with those of its values that are not blank, in the
order of arrival. So neither the spelling of a name that appeared before nor the order of fields of
different names matters beyond that. -/
theorem toAttributes_lists (headers : Headers) :
    headers.toAttributes = headers.spellings.map (fun name => (name,
      match headers.valuesOf name with
      | [value] => value
      | values => listed values)) ∧
    (headers.toAttributes.keys.map lower).Nodup ∧
    (∀ name, (∃ key ∈ headers.toAttributes.keys, sameName key name = true) ↔
      ∃ field ∈ headers, sameName field.1 name = true) ∧
    (∀ before name other value after, headers = before ++ (name, value) :: after →
      (∃ field ∈ before, sameName field.1 name = true) → sameName name other = true →
        toAttributes (before ++ (other, value) :: after) = headers.toAttributes) ∧
    ∀ others : Headers, others.spellings = headers.spellings →
      (∀ name, others.valuesOf name = headers.valuesOf name) →
        others.toAttributes = headers.toAttributes := by
  refine ⟨?_, headers.nodup_lower_keys, fun name => ?_, ?_, fun others => toAttributes_congr⟩
  · rw [toAttributes_eq]
    refine List.map_congr_left fun name _ => ?_
    split
    case h_1 value hvalues => rw [hvalues, joinValues]
    case h_2 hvalues => rw [joinValues_eq_listed hvalues]
  · rw [keys_toAttributes]
    constructor
    · rintro ⟨key, hkey, hsame⟩
      obtain ⟨field, hfield, rfl⟩ :=
        List.mem_map.1 ((Grouping.eraseDupsBy_sublist sameName _).subset hkey)
      exact ⟨field, hfield, hsame⟩
    · rintro ⟨field, hfield, hsame⟩
      obtain ⟨key, hkey, hfirst⟩ := Grouping.exists_mem_eraseDupsBy sameName_equivalence.refl
        (List.mem_map_of_mem hfield)
      exact ⟨key, hkey, sameName_equivalence.trans (sameName_equivalence.symm hfirst) hsame⟩
  · rintro before name other value after rfl hbefore hother
    exact toAttributes_recased value hbefore hother

/-! ## Logs -/

/-- The fields with their values as they are shown. -/
def shown (headers : Headers) : Headers :=
  headers.map fun field => (field.1, shownValue field.1 field.2)

/-- A value that is added to those of a key joins its group, or starts one. -/
theorem set_append (m : OrderedMap String (List String)) (key value : String) :
    m.set key ((m.get? key).getD [] ++ [value]) = Grouping.add (· == ·) m key value := by
  induction m with
  | nil => rfl
  | cons entry rest ih =>
    obtain ⟨k, values⟩ := entry
    by_cases hk : k = key
    · simp [OrderedMap.set, OrderedMap.get?, Grouping.add, hk]
    · simp [OrderedMap.set, OrderedMap.get?, Grouping.add, hk, ih]

/-- The values that are shown under a name are listed in the order of arrival. -/
theorem redacted_eq (headers : Headers) :
    headers.redacted = (Grouping.byKey (· == ·) headers.shown).map
      fun group => (group.1, ", ".intercalate group.2) := by
  rw [← Grouping.foldl_add (by simpa using eq_equivalence), shown, List.foldl_map]
  simp only [redacted, set_append]

/-- A field differs from another in a secret at most. -/
def SameInPublic (field other : String × String) : Prop :=
  field.1 = other.1 ∧ (lower field.1 ∉ sensitiveNames → field.2 = other.2)

/-- A value is shown unless its name is sensitive, in any letter case. -/
theorem shownValue_eq (name value : String) :
    shownValue name value = if lower name ∈ sensitiveNames then "[REDACTED]" else value := by
  simp only [shownValue, isSensitive, List.contains_iff_mem, redactedText]

/-- Headers that are the same in public are shown alike. -/
theorem shown_congr {headers others : Headers} (h : List.Forall₂ SameInPublic headers others) :
    headers.shown = others.shown := by
  induction h with
  | nil => rfl
  | @cons field other rest rest' hfield _ ih =>
    obtain ⟨name, value⟩ := field
    obtain ⟨name', value'⟩ := other
    obtain ⟨rfl, hvalue⟩ : name = name' ∧ (lower name ∉ sensitiveNames → value = value') := hfield
    have hshown : shownValue name value = shownValue name value' := by
      rw [shownValue_eq, shownValue_eq]
      split
      · rfl
      · next hpublic => exact hvalue hpublic
    rw [shown, shown, List.map_cons, List.map_cons, ← shown, ← shown, ih, hshown]

/-- Every spelling of a name is listed once, in the order of first appearance, with its values in
the order of arrival: those of sensitive fields covered, all others as they are. Fields that differ
in secrets only are listed alike. -/
theorem redacted_lists (headers : Headers) :
    headers.redacted = (headers.map Prod.fst).eraseDups.map (fun name => (name,
      ", ".intercalate ((headers.filter fun field => field.1 == name).map fun field =>
        if lower field.1 ∈ sensitiveNames then "[REDACTED]" else field.2))) ∧
    ∀ others : Headers, List.Forall₂ SameInPublic headers others →
      others.redacted = headers.redacted := by
  constructor
  · have hnames : headers.shown.map Prod.fst = headers.map Prod.fst := by
      rw [shown, List.map_map]
      rfl
    have hvalues : ∀ name, Grouping.valuesAt (· == ·) headers.shown name
        = (headers.filter fun field => field.1 == name).map fun field =>
            if lower field.1 ∈ sensitiveNames then "[REDACTED]" else field.2 := by
      intro name
      simp only [Grouping.valuesAt, shown, List.filter_map, List.map_map, Function.comp_def,
        shownValue_eq]
    rw [redacted_eq, Grouping.byKey, hnames, List.map_map]
    exact List.map_congr_left fun name _ => by rw [Function.comp_apply, hvalues]
  · intro others h
    rw [redacted_eq, redacted_eq, shown_congr h]

end Headers

end HttpCourier
