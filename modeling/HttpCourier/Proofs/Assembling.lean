import HttpCourier.Assembly
import HttpCourier.Proofs.Attributes
import HttpCourier.Proofs.Expansion
import HttpCourier.Proofs.Step
import HttpCourier.Router

/-!
# What a draft depends on

An expression expands alike with attributes that agree on its names (`Expression.expand_congr`). A
draft is made from expressions and from the attributes that are sent, never from reserved ones; so
items with the same payload that differ in bookkeeping attributes only have the same draft, unless
an expression names one of these (`assemble_congr`).
-/

namespace HttpCourier

/-! ## Entries beyond some keys -/

namespace OrderedMap

variable {α β : Type} [DecidableEq α] {keys : List α} {m : OrderedMap α β} {key : α}

/-- The entries whose keys are not in a list. -/
def beyond (keys : List α) (m : OrderedMap α β) : OrderedMap α β :=
  m.filter fun entry => decide (entry.1 ∉ keys)

/-- A key that is not left out has its value. -/
theorem get?_beyond (h : key ∉ keys) (m : OrderedMap α β) :
    (m.beyond keys).get? key = m.get? key := by
  induction m with
  | nil => rfl
  | cons entry rest ih =>
    obtain ⟨k, v⟩ := entry
    by_cases hk : k ∈ keys
    · have hne : k ≠ key := fun heq => h (heq ▸ hk)
      simpa [beyond, hk, get?, hne] using ih
    · by_cases he : k = key
      · subst he
        simp [beyond, hk, get?]
      · simpa [beyond, hk, get?, he] using ih

/-- A value that is written to one of the keys is not seen beyond them. -/
theorem beyond_set (h : key ∈ keys) (m : OrderedMap α β) (value : β) :
    (m.set key value).beyond keys = m.beyond keys := by
  induction m with
  | nil => simp [beyond, set, h]
  | cons entry rest ih =>
    obtain ⟨k, v⟩ := entry
    by_cases he : k = key
    · subst he
      simp [beyond, set, h]
    · rw [set, if_neg he, beyond, List.filter_cons, ← beyond, ih, beyond, beyond, List.filter_cons]

/-- To write keys that are left out changes nothing of the rest. -/
theorem beyond_setAll {updates : List (α × β)} (h : ∀ update ∈ updates, update.1 ∈ keys)
    (m : OrderedMap α β) : (m.setAll updates).beyond keys = m.beyond keys := by
  induction updates generalizing m with
  | nil => rfl
  | cons update rest ih =>
    rw [List.forall_mem_cons] at h
    rw [setAll, List.foldl_cons, ← setAll, ih h.2, beyond_set h.1]

end OrderedMap

open OrderedMap

/-- Reserved attributes are not sent, so the header fields come from the others. -/
theorem Headers.ofAttributes_beyond {reserved keys : List String}
    (h : ∀ key ∈ keys, reserved.contains (Text.trim key) = true) (selects : Option (String → Bool))
    (attributes : Attributes) :
    ofAttributes reserved selects (attributes.beyond keys)
      = ofAttributes reserved selects attributes := by
  cases selects with
  | none => rfl
  | some accepts =>
    simp only [ofAttributes, beyond, List.filterMap_filter]
    refine List.filterMap_congr fun entry _ => ?_
    by_cases hk : entry.1 ∈ keys
    · have hreserved := h _ hk
      simp only [hk, not_true_eq_false, decide_false, Bool.false_eq_true, if_false, hreserved, if_true]
    · simp only [hk, not_false_eq_true, decide_true, if_true]

namespace Assembler

/-- The attributes in which an item says how an exchange went. -/
def bookkeepingKeys : List String :=
  [statusCodeKey, statusMessageKey, responseBodyKey, requestUrlKey, transactionKey, peerKey,
    Desk.faultKindKey, Desk.faultTextKey]

/-- No bookkeeping attribute is sent as a header. -/
theorem reserved_of_bookkeeping :
    ∀ key ∈ bookkeepingKeys, reservedKeys.contains (Text.trim key) = true := by
  decide +kernel

end Assembler

/-- The expressions of a configuration. -/
def Config.Request.expressions (request : Config.Request) : List String :=
  request.method :: request.url :: request.contentType :: request.dynamicHeaders.map Prod.snd

/-- No expression of a configuration names a bookkeeping attribute. -/
def Config.Request.ReadsNoBookkeeping (request : Config.Request) : Prop :=
  ∀ expression ∈ request.expressions, ∀ name ∈ Expression.names expression,
    name ∉ Assembler.bookkeepingKeys

/-- Two versions of an item that differ at most in bookkeeping attributes. -/
structure WorkItem.Alike (item other : WorkItem) : Prop where
  content_eq : item.content = other.content
  attributes_eq : item.attributes.beyond Assembler.bookkeepingKeys
    = other.attributes.beyond Assembler.bookkeepingKeys

namespace WorkItem.Alike

variable {item other : WorkItem}

/-- An item is like itself. -/
theorem refl (item : WorkItem) : item.Alike item := ⟨rfl, rfl⟩

/-- Writing bookkeeping attributes makes no other difference. -/
theorem withAttributes (h : item.Alike other) {updates : List (String × String)}
    (hu : ∀ update ∈ updates, update.1 ∈ Assembler.bookkeepingKeys) :
    (item.withAttributes updates).Alike other :=
  ⟨h.content_eq, (beyond_setAll hu _).trans h.attributes_eq⟩

/-- A penalty makes no difference. -/
theorem withPenalty (h : item.Alike other) : item.withPenalty.Alike other :=
  ⟨h.content_eq, h.attributes_eq⟩

/-- An expression that names no bookkeeping attribute expands alike. -/
theorem expand_eq (h : item.Alike other) {expression : String}
    (hnames : ∀ name ∈ Expression.names expression, name ∉ Assembler.bookkeepingKeys) :
    Expression.expand expression item.attributes = Expression.expand expression other.attributes := by
  refine Expression.expand_congr fun name hname => ?_
  rw [← get?_beyond (hnames name hname), h.attributes_eq, get?_beyond (hnames name hname)]

end WorkItem.Alike

namespace Assembler

variable {a : Assembler} {item other : WorkItem}

/-- Items that differ in bookkeeping attributes only have the same draft. -/
theorem assemble_congr (hnames : a.config.ReadsNoBookkeeping) (h : item.Alike other) (now : Int) :
    a.assemble (some item) now = a.assemble (some other) now := by
  simp only [Config.Request.ReadsNoBookkeeping, Config.Request.expressions,
    List.forall_mem_cons] at hnames
  obtain ⟨hmethod, hurl, htype, hdynamic⟩ := hnames
  have hmethod : a.method (some item) = a.method (some other) := by
    simp only [method, attributesOf, Option.elim_some, h.expand_eq hmethod]
  have hurl : a.url (some item) = a.url (some other) := by
    simp only [url, attributesOf, Option.elim_some, h.expand_eq hurl]
  have hbody : a.body (some item) = a.body (some other) := by
    simp only [body, h.expand_eq htype, h.content_eq]
  have hdynamic : a.dynamicHeaders (some item) = a.dynamicHeaders (some other) := by
    simp only [dynamicHeaders, attributesOf, Option.elim_some]
    congr 1
    refine List.map_congr_left fun header hheader => ?_
    rw [List.partition_eq_filter_filter] at hheader
    have hmem : header ∈ a.config.dynamicHeaders := List.mem_of_mem_filter hheader
    rw [h.expand_eq (hdynamic _ (List.mem_map_of_mem hmem))]
  have hsent : a.attributeHeaders (some item) = a.attributeHeaders (some other) := by
    simp only [attributeHeaders]
    rw [← Headers.ofAttributes_beyond reserved_of_bookkeeping, h.attributes_eq,
      Headers.ofAttributes_beyond reserved_of_bookkeeping]
  simp only [assemble, hmethod, hurl, hbody, hdynamic, hsent]

end Assembler

/-- Two drafts that differ at most in the value of one header field, the date. -/
structure Draft.SameButDate (d d' : Draft) : Prop where
  method_eq : d.method = d'.method
  url_eq : d.url = d'.url
  body_eq : d.body = d'.body
  headers : d.headers = d'.headers ∨ ∃ before date date' after,
    d.headers = before ++ ("Date", date) :: after ∧ d'.headers = before ++ ("Date", date') :: after

namespace Assembler

variable {a : Assembler} {now now' : Int}

/-- The date, if it is sent, is one field. -/
theorem dateField_eq_ok {date : Headers} (h : a.dateField now = .ok date) :
    (a.config.dateField = true ∧ ∃ value, date = [("Date", value)]) ∨
      (a.config.dateField = false ∧ date = []) := by
  unfold dateField at h
  split at h
  case isTrue hd =>
    split at h
    case h_1 value _ => exact .inl ⟨hd, value, (Except.ok.inj h).symm⟩
    case h_2 => cases h
  case isFalse hd => exact .inr ⟨Bool.not_eq_true _ ▸ hd, (Except.ok.inj h).symm⟩

/-- The draft for an item: only its date depends on the moment. -/
theorem assemble_eq_ok {item : Option WorkItem} {d : Draft} {log : List Log.Record}
    (h : a.assemble item now = .ok (d, log)) :
    ∃ date, a.dateField now = .ok date ∧ d = {
      method := a.method item
      url := a.url item
      headers := (a.basicField.map fun v => ("Authorization", v)).toList ++ date
        ++ (a.dynamicHeaders item).1 ++ a.attributeHeaders item
      body := if hasBody (a.method item) then some (a.body item) else none } := by
  unfold assemble at h
  obtain ⟨date, hdate, h⟩ := Step.ok_of_bind h
  exact ⟨date, hdate, (Prod.mk.inj (Except.ok.inj h)).1.symm⟩

/-- At another moment the draft for an item has another date, and nothing else. -/
theorem assemble_sameButDate {item : Option WorkItem} {d d' : Draft} {log log' : List Log.Record}
    (h : a.assemble item now = .ok (d, log)) (h' : a.assemble item now' = .ok (d', log')) :
    d.SameButDate d' := by
  obtain ⟨date, hdate, rfl⟩ := assemble_eq_ok h
  obtain ⟨date', hdate', rfl⟩ := assemble_eq_ok h'
  refine ⟨rfl, rfl, rfl, ?_⟩
  rcases dateField_eq_ok hdate with ⟨hd, value, rfl⟩ | ⟨hd, rfl⟩
  · rcases dateField_eq_ok hdate' with ⟨-, value', rfl⟩ | ⟨hd', -⟩
    · have hdated : ∀ (value : String) (before dynamic sent : Headers),
          before ++ [("Date", value)] ++ dynamic ++ sent
            = before ++ ("Date", value) :: (dynamic ++ sent) := by
        intro value before dynamic sent
        rw [List.append_assoc, List.append_assoc, List.singleton_append]
      exact .inr ⟨_, value, value', _, hdated _ _ _ _, hdated _ _ _ _⟩
    · cases hd.symm.trans hd'
  · rcases dateField_eq_ok hdate' with ⟨hd', -⟩ | ⟨-, rfl⟩
    · cases hd.symm.trans hd'
    · exact .inl rfl

end Assembler

end HttpCourier
