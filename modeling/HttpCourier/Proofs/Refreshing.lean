import HttpCourier.Cache.Basic
import HttpCourier.Proofs.Authorization

/-!
# The fields of a confirmed answer

When the network confirms a stored answer, the fields of the two answers are merged
(`Cache.refreshedFields`). The merged fields have no other values than the two answers
(`Cache.mem_valuesOf_refreshedFields`), and the first value of a name is that of the new answer, if
it has one. So the ETag stays when the new answer shows the same one or none
(`Cache.etag?_refreshedFields`), and what the cache can read stays readable
(`Fields.Legible.refreshed`).
-/

namespace HttpCourier

open Step

/-! ## Fields -/

namespace Fields

/-- The ETag of an answer: the first one, unless it is empty. -/
def etag? (fields : Fields) : Option Bytes :=
  (fields.valuesOf "ETag").head?.filter fun value => !value.isEmpty

/-- The ETag that a request asks about. -/
def asked? (fields : Fields) : Option Bytes := (fields.valuesOf "If-None-Match").head?

/-- The values of a name are gathered list by list. -/
theorem valuesOf_flatMap {α : Type} (as : List α) (f : α → Fields) (key : String) :
    valuesOf (as.flatMap f) key = as.flatMap fun a => (f a).valuesOf key := by
  induction as with
  | nil => rfl
  | cons a as ih => rw [List.flatMap_cons, List.flatMap_cons, valuesOf_append, ih]

end Fields

namespace Cache

open Fields

variable {fields new : Fields} {key : String}

/-! ## Merged fields -/

/-- The values of a name, without regard to case. -/
def valuesLike (fields : Fields) (name : Bytes) : List Bytes :=
  (fields.filter fun f => Bytes.toLower f.1 == Bytes.toLower name).map Prod.snd

/-- A name in any letter case has the values of the name. -/
theorem valuesLike_eq {name : Bytes} (h : Bytes.toLower name = nameBytes key) :
    valuesLike fields name = fields.valuesOf key := by
  rw [valuesLike, valuesOf, h]
  rfl

/-- The values that a stored name gets: the new ones, if there are some. -/
def valuesAfter (fields new : Fields) (name : Bytes) : List Bytes :=
  match valuesLike new name with
  | [] => valuesLike fields name
  | values => values

/-- The values that a confirmed answer has for a name: the new ones, if there are some. -/
def valuesOfBoth (fields new : Fields) (key : String) : List Bytes :=
  if new.valuesOf key = [] then fields.valuesOf key else new.valuesOf key

/-- What a stored name gets is what the confirmed answer has for it. -/
theorem valuesAfter_eq {name : Bytes} (h : Bytes.toLower name = nameBytes key) :
    valuesAfter fields new name = valuesOfBoth fields new key := by
  rw [valuesAfter, valuesOfBoth, valuesLike_eq h, valuesLike_eq h]
  split
  case h_1 hv => rw [if_pos hv]
  case h_2 hv => rw [if_neg fun hn => hv hn]

/-- The stored names that are written again. -/
def keptNames (fields : Fields) : List Bytes :=
  (fields.map Prod.fst).eraseDups.filter fun name => !isNamed "content-length" (name, [])

/-- The new fields whose names are not stored. -/
def addedFields (fields new : Fields) : Fields :=
  new.filter fun f => !(fields.map Prod.fst).eraseDups.contains f.1 && !isNamed "content-length" f

/-- The values of a name in a confirmed answer, once for each stored field or new field that has
it. -/
theorem valuesOf_refreshedFields (fields new : Fields) (key : String) :
    (refreshedFields fields new).valuesOf key
      = (keptNames fields).flatMap (fun name =>
          if Bytes.toLower name = nameBytes key then valuesOfBoth fields new key else [])
        ++ (addedFields fields new).flatMap fun f =>
          if Bytes.toLower f.1 = nameBytes key then new.valuesOf key else [] := by
  have hsplit : refreshedFields fields new
      = ((keptNames fields).flatMap fun name =>
          (valuesAfter fields new name).map fun value => (name, value))
        ++ (addedFields fields new).flatMap fun f =>
          (valuesLike new f.1).map fun value => (f.1, value) := rfl
  rw [hsplit, valuesOf_append, valuesOf_flatMap, valuesOf_flatMap]
  congr 2
  · funext name
    rw [valuesOf_map]
    split
    case isTrue h => exact valuesAfter_eq h
    case isFalse => rfl
  · funext f
    rw [valuesOf_map]
    split
    case isTrue h => exact valuesLike_eq h
    case isFalse => rfl

/-- A confirmed answer has no other values than the stored one and the new one. -/
theorem mem_valuesOf_refreshedFields {value : Bytes}
    (h : value ∈ (refreshedFields fields new).valuesOf key) :
    value ∈ fields.valuesOf key ∨ value ∈ new.valuesOf key := by
  have hboth : value ∈ valuesOfBoth fields new key →
      value ∈ fields.valuesOf key ∨ value ∈ new.valuesOf key := by
    intro hv
    unfold valuesOfBoth at hv
    split at hv
    · exact .inl hv
    · exact .inr hv
  rw [valuesOf_refreshedFields, List.mem_append, List.mem_flatMap, List.mem_flatMap] at h
  rcases h with ⟨name, -, hv⟩ | ⟨f, -, hv⟩
  · split at hv
    · exact hboth hv
    · cases hv
  · split at hv
    · exact .inr hv
    · cases hv

/-- The first of some values, repeated at the places that pass a test, is the first of them if any
place does. -/
theorem head?_flatMap_ite {α β : Type} (as : List α) (p : α → Prop) [DecidablePred p]
    (values : List β) :
    (as.flatMap fun a => if p a then values else []).head?
      = if ∃ a ∈ as, p a then values.head? else none := by
  induction as with
  | nil => simp
  | cons a as ih =>
    rw [List.flatMap_cons, List.head?_append, ih]
    by_cases ha : p a
    · cases values <;> simp [ha]
    · simp [ha]

/-- A name has values when a field has the name. -/
theorem valuesOf_ne_nil : fields.valuesOf key ≠ [] ↔
    ∃ f ∈ fields, Bytes.toLower f.1 = nameBytes key := by
  simp [valuesOf, isNamed]

/-- The first value of a name in a confirmed answer is that of the new answer, if it has one. -/
theorem head?_valuesOf_refreshedFields (hkey : nameBytes key ≠ nameBytes "content-length") :
    ((refreshedFields fields new).valuesOf key).head?
      = (new.valuesOf key).head?.or (fields.valuesOf key).head? := by
  have hlength : ∀ name : Bytes, Bytes.toLower name = nameBytes key → ∀ value,
      isNamed "content-length" (name, value) = false := by
    intro name hn value
    rw [isNamed, hn]
    exact beq_false_of_ne hkey
  have hkept : (∃ name ∈ keptNames fields, Bytes.toLower name = nameBytes key) ↔
      fields.valuesOf key ≠ [] := by
    rw [valuesOf_ne_nil]
    constructor
    · rintro ⟨name, hname, hn⟩
      obtain ⟨f, hf, rfl⟩ := List.mem_map.1 (List.mem_eraseDups.1 (List.mem_filter.1 hname).1)
      exact ⟨f, hf, hn⟩
    · rintro ⟨f, hf, hn⟩
      refine ⟨f.1, List.mem_filter.2 ⟨List.mem_eraseDups.2 (List.mem_map_of_mem hf), ?_⟩, hn⟩
      rw [hlength f.1 hn]
      rfl
  rw [valuesOf_refreshedFields, List.head?_append, head?_flatMap_ite, head?_flatMap_ite]
  by_cases hv : fields.valuesOf key = []
  · -- no stored field has the name, so that the new ones are added
    have hadded : (∃ f ∈ addedFields fields new, Bytes.toLower f.1 = nameBytes key) ↔
        new.valuesOf key ≠ [] := by
      rw [valuesOf_ne_nil]
      constructor
      · rintro ⟨f, hf, hn⟩
        exact ⟨f, (List.mem_filter.1 hf).1, hn⟩
      rintro ⟨f, hf, hn⟩
      have hnew : f.1 ∉ (fields.map Prod.fst).eraseDups := by
        intro hm
        obtain ⟨g, hg, hgf⟩ := List.mem_map.1 (List.mem_eraseDups.1 hm)
        exact valuesOf_ne_nil.2 ⟨g, hg, hgf ▸ hn⟩ hv
      refine ⟨f, List.mem_filter.2 ⟨hf, ?_⟩, hn⟩
      rw [hlength f.1 hn f.2]
      simpa using hnew
    rw [if_neg fun h => hkept.1 h hv, hv, Option.none_or, List.head?_nil, Option.or_none]
    by_cases hn : new.valuesOf key = []
    · rw [if_neg fun h => hadded.1 h hn, hn, List.head?_nil]
    · rw [if_pos (hadded.2 hn)]
  · rw [if_pos (hkept.2 hv), valuesOfBoth]
    obtain ⟨value, rest, hvalues⟩ := List.exists_cons_of_ne_nil hv
    cases hn : new.valuesOf key with
    | nil => simp [hvalues]
    | cons first more => simp

/-- A confirmed answer has the ETag that was stored, unless another was sent with the
confirmation. -/
theorem etag?_refreshedFields (h : new.etag? = none ∨ new.etag? = fields.etag?) {etag : Bytes}
    (he : (refreshedFields fields new).etag? = some etag) : fields.etag? = some etag := by
  have hkey : nameBytes "ETag" ≠ nameBytes "content-length" := by decide +kernel
  rw [etag?, head?_valuesOf_refreshedFields hkey] at he
  unfold etag? at h ⊢
  cases hn : (new.valuesOf "ETag").head? with
  | none => rwa [hn, Option.none_or] at he
  | some value =>
    rw [hn] at h
    rw [hn, Option.some_or] at he
    rcases h with h | h
    · rw [h] at he
      cases he
    · rwa [← h]

end Cache

/-! ## Legible fields -/

/-- Each directive of a value can be read, and says what it may say. -/
def CacheControl.Readable (value : Bytes) : Prop :=
  ∀ text ∈ splitDirectives (Cache.fieldText value),
    ∃ d, readDirective text = .ok d ∧ checkDirective (plainName d.name) d.value = .ok ()

/-- Fields that the cache can read: their directives, and the names of those that an answer depends
on. -/
structure Fields.Legible (fields : Fields) : Prop where
  directives : ∀ value ∈ fields.valuesOf "Cache-Control", CacheControl.Readable value
  names : ∀ name ∈ Cache.varyingNames fields, ∃ bytes, encodeAscii name.toList = .ok bytes

/-- A list is mapped when each of its members is. -/
theorem exists_mapM {ε α β : Type} {f : α → Except ε β} {p : β → Prop} {as : List α}
    (h : ∀ a ∈ as, ∃ b, f a = .ok b ∧ p b) : ∃ bs, as.mapM f = .ok bs ∧ ∀ b ∈ bs, p b := by
  induction as with
  | nil => exact ⟨[], rfl, by simp⟩
  | cons a as ih =>
    obtain ⟨b, hb, hp⟩ := h a List.mem_cons_self
    obtain ⟨bs, hbs, hps⟩ := ih fun a' ha => h a' (List.mem_cons_of_mem _ ha)
    refine ⟨b :: bs, ?_, List.forall_mem_cons.2 ⟨hp, hps⟩⟩
    rw [List.mapM_cons, hb, ok_bind, hbs]
    rfl

namespace OrderedMap

variable {α β : Type} [DecidableEq α]

/-- An entry of a map after a change was written, or was there before. -/
theorem mem_set {m : OrderedMap α β} {key : α} {value : β} {entry : α × β}
    (h : entry ∈ m.set key value) : entry = (key, value) ∨ entry ∈ m := by
  induction m with
  | nil => exact .inl (List.mem_singleton.1 h)
  | cons first m ih =>
    unfold set at h
    split at h
    case isTrue hk =>
      subst hk
      exact (List.mem_cons.1 h).imp_right (List.mem_cons_of_mem _)
    case isFalse =>
      rcases List.mem_cons.1 h with rfl | h
      · exact .inr List.mem_cons_self
      · exact (ih h).imp_right (List.mem_cons_of_mem _)

/-- A map of pairs has no other entries. -/
theorem mem_ofPairs {pairs : List (α × β)} {entry : α × β} (h : entry ∈ ofPairs pairs) :
    entry ∈ pairs := by
  have hall : ∀ (pairs : List (α × β)) (m : OrderedMap α β),
      entry ∈ m.setAll pairs → entry ∈ m ∨ entry ∈ pairs := by
    intro pairs
    induction pairs with
    | nil => exact fun m h => .inl h
    | cons pair pairs ih =>
      intro m h
      rcases ih _ h with h | h
      · rcases mem_set h with rfl | h
        · exact .inr List.mem_cons_self
        · exact .inl h
      · exact .inr (List.mem_cons_of_mem _ h)
  exact (hall pairs [] h).resolve_left (List.not_mem_nil)

end OrderedMap

namespace Cache

open Fields

variable {fields new : Fields}

/-- Directives that can be read one by one can be read together. -/
theorem exists_directives (h : ∀ value ∈ fields.valuesOf "Cache-Control", CacheControl.Readable value) :
    ∃ d, directives fields = .ok d := by
  have htexts : ∀ text ∈ ((fields.valuesOf "Cache-Control").map fieldText).flatMap
      CacheControl.splitDirectives, ∃ d, CacheControl.readDirective text = .ok d ∧
        CacheControl.checkDirective (CacheControl.plainName d.name) d.value = .ok () := by
    intro text ht
    obtain ⟨value, hv, ht⟩ := List.mem_flatMap.1 ht
    obtain ⟨bytes, hb, rfl⟩ := List.mem_map.1 hv
    exact h bytes hb text ht
  obtain ⟨ds, hds, hchecks⟩ := exists_mapM htexts
  have hknown : ∀ entry ∈ OrderedMap.ofPairs (ds.map fun d => (d.name, d.value)),
      ∃ u, CacheControl.checkDirective (CacheControl.plainName entry.1) entry.2 = .ok u ∧ True := by
    intro entry he
    obtain ⟨d, hd, rfl⟩ := List.mem_map.1 (OrderedMap.mem_ofPairs he)
    exact ⟨(), hchecks d hd, trivial⟩
  obtain ⟨units, hunits, -⟩ := exists_mapM hknown
  unfold directives CacheControl.ofValues
  rw [hds, ok_bind, CacheControl.ofDirectives]
  rw [show (List.mapM _ _ : Except CacheControl.Error (List Unit)) = _ from hunits, ok_bind]
  exact ⟨_, rfl⟩

/-- Only the first value says what an answer depends on. -/
theorem varyingNames_eq (fields : Fields) : varyingNames fields
    = (fields.valuesOf "Vary").head?.elim [] fun value =>
      (Text.splitOn ',' (Bytes.latin1 value)).map fun s => Text.trim (String.ofList s) := by
  unfold varyingNames
  cases fields.valuesOf "Vary" with
  | nil => rfl
  | cons value values => rfl

end Cache

namespace Fields

open Cache

variable {fields new : Fields}

/-- A confirmed answer can be read when both answers can. -/
theorem Legible.refreshed (h : fields.Legible) (hn : new.Legible) :
    (refreshedFields fields new).Legible := by
  have hkey : nameBytes "Vary" ≠ nameBytes "content-length" := by decide +kernel
  have hvary : varyingNames (refreshedFields fields new) = varyingNames new ∨
      varyingNames (refreshedFields fields new) = varyingNames fields := by
    simp only [varyingNames_eq, head?_valuesOf_refreshedFields hkey]
    cases (new.valuesOf "Vary").head? with
    | none => exact .inr rfl
    | some value => exact .inl rfl
  constructor
  · intro value hv
    exact (mem_valuesOf_refreshedFields hv).elim (h.directives value) (hn.directives value)
  · rcases hvary with he | he
    · rw [he]
      exact hn.names
    · rw [he]
      exact h.names

end Fields

end HttpCourier
