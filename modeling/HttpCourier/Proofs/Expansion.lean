import HttpCourier.Item.Expression
import HttpCourier.Proofs.Cuts

/-!
# How expressions are read

An expression is read once, from left to right. `Scan` says how: where a `Placeholder` stands at the
place that is read, it is one segment and reading goes on after it, and any other character is a
segment of its own. Every text is read in one way only, whatever the attributes are, and expanding
it puts the value of each placeholder in its place (`expand_reads_once`). The function `parts` gives
the segments that are read, each placeholder as its name (`Scan.parts_eq`); so an expression
expands alike with attributes that agree on its names (`expand_congr`).
-/

namespace HttpCourier.Expression

open Text

variable {c : Char} {s rest : List Char}

/-! ## Placeholders -/

/-- A placeholder: what stands between its braces, which is not empty and has no closing brace. -/
@[ext]
structure Placeholder where
  inner : List Char
  inner_ne : inner ≠ []
  inner_open : '}' ∉ inner

namespace Placeholder

/-- The characters of a placeholder. -/
def chars (p : Placeholder) : List Char := '$' :: '{' :: (p.inner ++ ['}'])

/-- The attribute it refers to. -/
def name (p : Placeholder) : String := String.ofList (trimChars p.inner)

theorem chars_ne (p : Placeholder) : p.chars ≠ [] := List.cons_ne_nil _ _

theorem chars_append (p : Placeholder) (rest : List Char) :
    p.chars ++ rest = '$' :: '{' :: (p.inner ++ '}' :: rest) := by
  simp [chars]

/-- At most one placeholder stands at a place, for it ends with the first closing brace. -/
theorem eq_of_append {p q : Placeholder} {t : List Char} (h : p.chars ++ s = q.chars ++ t) :
    p = q ∧ s = t := by
  rw [chars_append, chars_append] at h
  obtain ⟨hinner, hrest⟩ := cut_inj p.inner_open q.inner_open
    (List.cons.inj (List.cons.inj h).2).2
  exact ⟨Placeholder.ext hinner, hrest⟩

end Placeholder

/-- A name is read after `$` and `{` where a placeholder stands, and only there. -/
theorem name?_eq_some_iff {name after : List Char} :
    name? s = some (name, after) ↔ ∃ p : Placeholder, p.inner = name ∧ s = name ++ '}' :: after := by
  constructor
  · intro h
    unfold name? at h
    split at h
    case h_1 b after' n name' hdrop htake =>
      obtain ⟨rfl, rfl⟩ : n :: name' = name ∧ after' = after := by simpa using h
      obtain ⟨hs, hname⟩ := eq_of_takeWhile_dropWhile hdrop
      obtain rfl : b = '}' := by
        have hhead : b ∈ (s.dropWhile (· ≠ '}')).head? := by rw [hdrop]; rfl
        simpa using eq_false_of_head?_dropWhile hhead
      rw [htake] at hs hname
      exact ⟨⟨n :: name', List.cons_ne_nil _ _, fun hb => by simpa using hname _ hb⟩, rfl, hs⟩
    case h_2 => cases h
  · rintro ⟨p, rfl, rfl⟩
    obtain ⟨n, name, hinner⟩ := List.exists_cons_of_ne_nil p.inner_ne
    have hcut := takeWhile_dropWhile_of (p := (· ≠ '}')) (c := '}') (t := after) (s := p.inner)
      (fun a ha => by simpa using fun e : a = '}' => p.inner_open (e ▸ ha)) (by simp)
    rw [name?, hcut.1, hcut.2, hinner]

/-- The name of a placeholder is read up to its closing brace. -/
theorem name?_placeholder (p : Placeholder) (rest : List Char) :
    name? (p.inner ++ '}' :: rest) = some (p.inner, rest) :=
  name?_eq_some_iff.2 ⟨p, rfl, rfl⟩

/-- Where no placeholder stands there is no name. -/
theorem name?_eq_none (h : ∀ p : Placeholder, ¬ p.chars <+: '$' :: '{' :: rest) :
    name? rest = none := by
  refine Option.eq_none_iff_forall_not_mem.2 fun ⟨name, after⟩ hname => ?_
  obtain ⟨p, rfl, rfl⟩ := name?_eq_some_iff.1 hname
  exact h p ⟨after, p.chars_append after⟩

/-- Where no placeholder stands, there is no name after `$` and `{`, or they are not both there. -/
theorem copied_cases (hc : ∀ p : Placeholder, ¬ p.chars <+: c :: rest) :
    (∃ more, c = '$' ∧ rest = '{' :: more ∧ name? more = none) ∨
      ∀ more, c = '$' → rest = '{' :: more → False := by
  by_cases hopen : ∃ more, c = '$' ∧ rest = '{' :: more
  · obtain ⟨more, rfl, rfl⟩ := hopen
    exact .inl ⟨more, rfl, rfl, name?_eq_none hc⟩
  · exact .inr fun more hdollar hbrace => hopen ⟨more, hdollar, hbrace⟩

/-! ## Parts -/

/-- The characters of a text and the names of its placeholders, in order. -/
def parts (s : List Char) : List (Char ⊕ String) :=
  match s with
  | [] => []
  | '$' :: '{' :: rest =>
    match _h : name? rest with
    | some (name, after) => .inr (String.ofList (trimChars name)) :: parts after
    | none => .inl '$' :: parts ('{' :: rest)
  | c :: rest => .inl c :: parts rest
termination_by s.length
decreasing_by
  · have := length_of_name? _h
    simp only [List.length_cons]
    omega
  · simp
  · simp

/-- What a part stands for. -/
def partText (value : String → List Char) : Char ⊕ String → List Char
  | .inl c => [c]
  | .inr name => value name

/-- The names in an expression. -/
def names (expression : String) : List String :=
  (parts expression.toList).filterMap fun part => part.elim (fun _ => none) some

/-! ## Reading -/

/-- A part of an expression as it is read. -/
inductive Segment where
  /-- A character that stands for itself. -/
  | copied (c : Char)
  | placeholder (p : Placeholder)

namespace Segment

/-- The characters of a segment. -/
def chars : Segment → List Char
  | copied c => [c]
  | placeholder p => p.chars

/-- The character of a segment, or the name of its placeholder. -/
def part : Segment → Char ⊕ String
  | copied c => .inl c
  | placeholder p => .inr p.name

/-- What a segment stands for: a placeholder for the value of its attribute, if there is one. -/
def expanded (attributes : Attributes) : Segment → List Char
  | copied c => [c]
  | placeholder p => ((attributes.get? p.name).getD "").toList

end Segment

/-- How a text is read. -/
inductive Scan : List Char → List Segment → Prop
  | nil : Scan [] []
  | placeholder {rest segments} (p : Placeholder) (h : Scan rest segments) :
    Scan (p.chars ++ rest) (.placeholder p :: segments)
  | copied {c rest segments} (hc : ∀ p : Placeholder, ¬ p.chars <+: c :: rest)
    (h : Scan rest segments) : Scan (c :: rest) (.copied c :: segments)

variable {segments : List Segment}

/-- Reading leaves out nothing and adds nothing. -/
theorem Scan.flatMap_chars (h : Scan s segments) : segments.flatMap Segment.chars = s := by
  induction h with
  | nil => rfl
  | placeholder p _ ih => rw [List.flatMap_cons, ih]; rfl
  | copied _ _ ih => rw [List.flatMap_cons, ih]; rfl

/-- A text is read in one way only. -/
theorem Scan.unique {others : List Segment} (h : Scan s segments) (h' : Scan s others) :
    segments = others := by
  -- Both readings begin alike, since nothing is copied where a placeholder begins.
  induction h generalizing others with
  | nil =>
    generalize hs : ([] : List Char) = s at h'
    cases h' with
    | nil => rfl
    | placeholder q => exact absurd hs.symm (by simp [q.chars_ne])
    | copied => cases hs
  | @placeholder rest segments p h ih =>
    generalize hs : p.chars ++ rest = s at h'
    cases h' with
    | nil => exact absurd hs (by simp [p.chars_ne])
    | placeholder q h' =>
      obtain ⟨rfl, rfl⟩ := Placeholder.eq_of_append hs
      rw [ih h']
    | copied hc => exact absurd ⟨rest, hs⟩ (hc p)
  | @copied c rest segments hc h ih =>
    generalize hs : c :: rest = s at h'
    cases h' with
    | nil => cases hs
    | @placeholder rest' _ q => exact absurd ⟨rest', hs.symm⟩ (hc q)
    | copied _ h' =>
      obtain ⟨rfl, rfl⟩ := List.cons.inj hs
      rw [ih h']

/-- Every text can be read. -/
theorem exists_scan (s : List Char) : ∃ segments, Scan s segments := by
  match s with
  | [] => exact ⟨[], .nil⟩
  | c :: rest =>
    by_cases hp : ∃ p : Placeholder, p.chars <+: c :: rest
    · obtain ⟨p, after, hs⟩ := hp
      have hlen : after.length < (c :: rest).length := by
        have := List.length_pos_iff.2 p.chars_ne
        rw [← hs, List.length_append]
        omega
      obtain ⟨segments, h⟩ := exists_scan after
      exact ⟨.placeholder p :: segments, hs ▸ .placeholder p h⟩
    · obtain ⟨segments, h⟩ := exists_scan rest
      exact ⟨.copied c :: segments, .copied (fun p h => hp ⟨p, h⟩) h⟩
termination_by s.length
decreasing_by
  · exact hlen
  · simp

/-- A placeholder anywhere in a text shows that one is read: it stands at a place that is read, or
within one that does. -/
theorem Scan.exists_placeholder {p : Placeholder} (h : Scan s segments) (hp : p.chars <:+: s) :
    ∃ q, Segment.placeholder q ∈ segments := by
  induction h with
  | nil => exact absurd (List.infix_nil.1 hp) p.chars_ne
  | placeholder q => exact ⟨q, List.mem_cons_self⟩
  | copied hc _ ih =>
    rcases List.infix_cons_iff.1 hp with hfront | hin
    · exact absurd hfront (hc p)
    · obtain ⟨q, hq⟩ := ih hin
      exact ⟨q, List.mem_cons_of_mem _ hq⟩

/-- What is read as a placeholder is one that stands in the text. -/
theorem Scan.infix_of_mem {p : Placeholder} (h : Scan s segments)
    (hp : Segment.placeholder p ∈ segments) : p.chars <:+: s := by
  obtain ⟨before, after, rfl⟩ := List.append_of_mem hp
  rw [← h.flatMap_chars, List.flatMap_append, List.flatMap_cons]
  exact ⟨_, _, List.append_assoc _ _ _⟩

/-! ## Expanding -/

section
variable {value : String → List Char}

/-- A placeholder is expanded to the value of its name, and reading goes on behind it. -/
theorem expandChars_placeholder (p : Placeholder) (rest : List Char) :
    expandChars value (p.chars ++ rest) = value p.name ++ expandChars value rest := by
  rw [p.chars_append, expandChars]
  split
  case h_1 hsome =>
    cases (name?_placeholder p rest).symm.trans hsome
    rfl
  case h_2 hnone => cases (name?_placeholder p rest).symm.trans hnone

/-- A character that begins no placeholder is copied. -/
theorem expandChars_copied (hc : ∀ p : Placeholder, ¬ p.chars <+: c :: rest) :
    expandChars value (c :: rest) = c :: expandChars value rest := by
  rcases copied_cases hc with ⟨more, rfl, rfl, hnone⟩ | hopen
  · rw [expandChars]
    split
    case h_1 hsome => cases hnone.symm.trans hsome
    case h_2 => rfl
  · rw [expandChars]
    exact hopen

theorem parts_placeholder (p : Placeholder) (rest : List Char) :
    parts (p.chars ++ rest) = .inr p.name :: parts rest := by
  rw [p.chars_append, parts]
  split
  case h_1 hsome =>
    cases (name?_placeholder p rest).symm.trans hsome
    rfl
  case h_2 hnone => cases (name?_placeholder p rest).symm.trans hnone

theorem parts_copied (hc : ∀ p : Placeholder, ¬ p.chars <+: c :: rest) :
    parts (c :: rest) = .inl c :: parts rest := by
  rcases copied_cases hc with ⟨more, rfl, rfl, hnone⟩ | hopen
  · rw [parts]
    split
    case h_1 hsome => cases hnone.symm.trans hsome
    case h_2 => rfl
  · rw [parts]
    exact hopen

/-- The parts of a text are the segments that are read, of a placeholder its name. -/
theorem Scan.parts_eq (h : Scan s segments) : parts s = segments.map Segment.part := by
  induction h with
  | nil => rw [parts, List.map_nil]
  | placeholder p _ ih => rw [parts_placeholder, ih, List.map_cons, Segment.part]
  | copied hc _ ih => rw [parts_copied hc, ih, List.map_cons, Segment.part]

/-- A text expands part by part. -/
theorem expandChars_eq (value : String → List Char) (s : List Char) :
    expandChars value s = (parts s).flatMap (partText value) := by
  obtain ⟨segments, h⟩ := exists_scan s
  rw [h.parts_eq]
  induction h with
  | nil => rw [expandChars, List.map_nil, List.flatMap_nil]
  | placeholder p _ ih =>
    rw [expandChars_placeholder, ih, List.map_cons, List.flatMap_cons, Segment.part, partText]
  | copied hc _ ih =>
    rw [expandChars_copied hc, ih, List.map_cons, List.flatMap_cons, Segment.part, partText,
      List.singleton_append]

end

/-- An expression expands alike with attributes that agree on its names. -/
theorem expand_congr {expression : String} {attributes attributes' : Attributes}
    (h : ∀ name ∈ names expression, attributes.get? name = attributes'.get? name) :
    expand expression attributes = expand expression attributes' := by
  rw [expand, expand, expandChars_eq, expandChars_eq]
  congr 1
  refine List.flatMap_congr fun part hpart => ?_
  cases part with
  | inl c => rfl
  | inr name =>
    have hname : name ∈ names expression := List.mem_filterMap.2 ⟨.inr name, hpart, rfl⟩
    rw [partText, partText, h name hname]

variable {expression : String}

/-- A name in an expression is that of a placeholder in its reading. -/
theorem Scan.exists_of_mem_names {name : String} (h : Scan expression.toList segments)
    (hname : name ∈ names expression) : ∃ p, .placeholder p ∈ segments ∧ p.name = name := by
  rw [names, h.parts_eq, List.filterMap_map, List.mem_filterMap] at hname
  obtain ⟨segment, hmem, hpart⟩ := hname
  cases segment with
  | copied => cases hpart
  | placeholder p => exact ⟨p, hmem, Option.some.inj hpart⟩

/-- Expanding a text puts in the place of each segment what it stands for. -/
theorem Scan.toList_expand (h : Scan expression.toList segments) (attributes : Attributes) :
    (expand expression attributes).toList = segments.flatMap (Segment.expanded attributes) := by
  rw [expand, String.toList_ofList, expandChars_eq, h.parts_eq, List.flatMap_map]
  refine List.flatMap_congr fun segment _ => ?_
  cases segment <;> rfl

/-- With no attributes at all an expansion is no longer than the expression. -/
theorem length_expanded_le (segments : List Segment) :
    (segments.flatMap (Segment.expanded [])).length ≤ (segments.flatMap Segment.chars).length := by
  induction segments with
  | nil => exact Nat.le_refl _
  | cons segment segments ih =>
    have hsegment : (segment.expanded []).length ≤ segment.chars.length := by
      cases segment with
      | copied => exact Nat.le_refl _
      | placeholder => exact Nat.zero_le _
    simp only [List.flatMap_cons, List.length_append]
    omega

/-- Without attributes a text with a placeholder gets shorter. -/
theorem length_expanded_lt {p : Placeholder} (hp : Segment.placeholder p ∈ segments) :
    (segments.flatMap (Segment.expanded [])).length < (segments.flatMap Segment.chars).length := by
  obtain ⟨before, after, rfl⟩ := List.append_of_mem hp
  have hbefore := length_expanded_le before
  have hafter := length_expanded_le after
  have hvalue : (Segment.placeholder p).expanded [] = [] := rfl
  have hchars : 0 < (Segment.placeholder p).chars.length := List.length_pos_iff.2 p.chars_ne
  simp only [List.flatMap_append, List.flatMap_cons, List.length_append, hvalue, List.length_nil]
  omega

/-- An expression without a placeholder is kept as it is, and no other one is. -/
theorem Scan.expand_eq_self_iff (h : Scan expression.toList segments) :
    (∀ attributes, expand expression attributes = expression) ↔
      ∀ p : Placeholder, ¬ p.chars <:+: expression.toList := by
  constructor
  · intro hkept p hp
    obtain ⟨q, hq⟩ := h.exists_placeholder hp
    have hlen := length_expanded_lt hq
    rw [← h.toList_expand, hkept, h.flatMap_chars] at hlen
    exact Nat.lt_irrefl _ hlen
  · intro hnone attributes
    have hcopied : ∀ segment ∈ segments, segment.expanded attributes = segment.chars := by
      intro segment hmem
      cases segment with
      | copied => rfl
      | placeholder p => exact absurd (h.infix_of_mem hmem) (hnone p)
    rw [← String.toList_inj, h.toList_expand, List.flatMap_congr hcopied, h.flatMap_chars]

/-- An expression is read in one way, whatever the attributes are, and expanding it puts the value
of each placeholder in its place: what was put in is not read again. An expression is kept as it is
exactly when no placeholder stands in it, and attributes that agree on the names its placeholders
have give the same result. -/
theorem expand_reads_once (expression : String) :
    ∃ segments, (∀ others, Scan expression.toList others ↔ others = segments) ∧
      (∀ attributes, (expand expression attributes).toList
        = segments.flatMap (Segment.expanded attributes)) ∧
      ((∀ attributes, expand expression attributes = expression) ↔
        ∀ p : Placeholder, ¬ p.chars <:+: expression.toList) ∧
      ∀ attributes others : Attributes,
        (∀ p, .placeholder p ∈ segments → attributes.get? p.name = others.get? p.name) →
          expand expression attributes = expand expression others := by
  obtain ⟨segments, h⟩ := exists_scan expression.toList
  refine ⟨segments, fun others => ⟨fun h' => h'.unique h, fun e => e ▸ h⟩, h.toList_expand,
    h.expand_eq_self_iff, fun attributes others hagree => expand_congr fun name hname => ?_⟩
  obtain ⟨p, hp, rfl⟩ := h.exists_of_mem_names hname
  exact hagree p hp

end HttpCourier.Expression
