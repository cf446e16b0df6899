import HttpCourier.Charset.Basic

/-!
# What can be read in a charset

Every charset of the registry has a decoder or a page, or is one of the few with a case of their own
(`isHandled_of_line`), and so is the charset of every media type. Bytes are read in it unless it is
one that gives no characters, or cannot replace what it cannot read (`exists_read_iff`).
-/

namespace HttpCourier.Charset

open Text

/-! ## Names -/

/-- The names that bytes can be read by, or that have a case of their own. -/
def handledNames : List String :=
  byteCodings ++ ["undefined", "idna", "punycode"]
    ++ (decoders ++ multibyteDecoders ++ switchingDecoders).map Prod.fst ++ pages.map Prod.fst

/-- Whether the name of a charset is handled. -/
def Entry.isHandled (e : Entry) : Bool := handledNames.contains (String.ofList e.name)

/-- A line of the registry is handled if its characters are. -/
theorem isHandled_ofLine {line : String} {chars : List Char} (h : line.toList = chars)
    (hn : (Entry.ofChars chars).isHandled = true) : (Entry.ofLine line).isHandled = true := by
  rwa [Entry.ofLine, h]

/-- The characters of a line in two parts. -/
theorem toList_append_of {a b : String} {as bs : List Char} (ha : a.toList = as)
    (hb : b.toList = bs) : (a ++ b).toList = as ++ bs := by
  rw [String.toList_append, ha, hb]

-- the lines are read as lists of characters, since the kernel is slow to decode a string
set_option maxRecDepth 4000 in
/-- Every charset of the registry is handled. -/
theorem isHandled_of_line : ∀ line ∈ registry, (Entry.ofLine line).isHandled = true := by
  simp only [registry, List.forall_mem_cons, List.not_mem_nil, false_implies, implies_true, and_true]
  repeat' apply And.intro
  all_goals
    with_reducible first
      | refine isHandled_ofLine String.toList_ofList ?_
      | refine isHandled_ofLine (toList_append_of String.toList_ofList String.toList_ofList) ?_
  all_goals decide +kernel

/-- What is found by a label is handled. -/
theorem mem_handledNames_of_nameOf?_eq {label name : String} (h : nameOf? label = some name) :
    name ∈ handledNames := by
  simp only [nameOf?, Option.map_eq_some_iff, Option.or_eq_some_iff] at h
  obtain ⟨e, he, rfl⟩ := h
  have hmem : e ∈ registry.map Entry.ofLine := by
    rcases he with hf | ⟨-, hf⟩
    · exact List.mem_of_find?_eq_some hf
    · exact List.mem_of_find?_eq_some hf
  obtain ⟨line, hl, rfl⟩ := List.mem_map.1 hmem
  exact List.contains_iff_mem.1 (isHandled_of_line line hl)

/-- The charset of a media type is handled. -/
theorem ofContentType_mem_handledNames (contentType : Option String) :
    ofContentType contentType ∈ handledNames := by
  rw [ofContentType]
  cases h : (parameter? (contentType.getD "").toList).bind fun label =>
      nameOf? (String.ofList label) with
  | none => simp [handledNames, decoders]
  | some name =>
    obtain ⟨label, -, hn⟩ := Option.bind_eq_some_iff.1 h
    exact mem_handledNames_of_nameOf?_eq hn

/-- A handled name without a case of its own has a decoder or a page. -/
theorem lookup_isSome_of_mem_handledNames {name : String} (h : name ∈ handledNames)
    (hc : name ∉ byteCodings) (hown : name ∉ ["undefined", "idna", "punycode"]) :
    ((decoders ++ multibyteDecoders ++ switchingDecoders).lookup name).isSome = true ∨
      (pageRuns? name).isSome = true := by
  simp only [handledNames, List.mem_append, hc, hown, false_or, List.mem_map] at h
  rw [pageRuns?, Option.isSome_map]
  rcases h with ⟨e, he, rfl⟩ | ⟨e, he, rfl⟩
  · refine .inl (List.lookup_isSome_iff.2 ⟨e, ?_, beq_self_eq_true _⟩)
    simpa only [List.mem_append] using he
  · exact .inr (List.lookup_isSome_iff.2 ⟨e, he, beq_self_eq_true _⟩)

/-! ## Bytes -/

/-- Whether a charset gives characters for some bytes. There are none to give for no bytes;
otherwise the charset has characters, it can replace what it cannot read, and in Punycode only ASCII
follows the last hyphen. -/
def Gives (name : String) (bytes : Bytes) : Prop :=
  bytes = [] ∨ (name ∉ byteCodings ∧ name ≠ "undefined" ∧ name ≠ "idna" ∧
    (name = "punycode" → ∀ b ∈ (Punycode.split bytes).2, b < 128))

/-- Whether bytes can be read in the charset of a media type. A label with a null character is not
looked up. -/
def Readable (contentType : Option String) (bytes : Bytes) : Prop :=
  (∀ label ∈ parameter? (contentType.getD "").toList, '\x00' ∉ label) ∧
    Gives (ofContentType contentType) bytes

theorem firstBeyondAscii?_eq_none {bytes : Bytes} :
    Punycode.firstBeyondAscii? bytes = none ↔ ∀ b ∈ bytes, b < 128 := by
  rw [Punycode.firstBeyondAscii?, List.find?_eq_none]
  constructor
  · intro h b hb
    obtain ⟨i, hi, rfl⟩ := List.getElem_of_mem hb
    have hx := h (bytes[i], i) (List.mem_zipIdx_iff_getElem?.2 (List.getElem?_eq_getElem hi))
    simpa [UInt8.not_le] using hx
  · intro h p hp
    have hb : p.1 ∈ bytes := List.mem_of_getElem? (List.mem_zipIdx_iff_getElem?.1 hp)
    simpa [UInt8.not_le] using h _ hb

/-- A text in Punycode can be read when all behind its last hyphen is ASCII. -/
theorem exists_punycode_iff {bytes : Bytes} :
    (∃ text, Punycode.decode bytes = .ok text) ↔ ∀ b ∈ (Punycode.split bytes).2, b < 128 := by
  rw [← firstBeyondAscii?_eq_none]
  unfold Punycode.decode
  dsimp only
  split
  case h_1 fault hf =>
    rw [hf]
    exact iff_of_false nofun nofun
  case h_2 hn => exact iff_of_true ⟨_, rfl⟩ hn

/-- Bytes are read in a handled charset exactly when it gives characters for them. -/
theorem exists_decode_iff {name : String} (hn : name ∈ handledNames) (bytes : Bytes) :
    (∃ text, decode name bytes = .ok text) ↔ Gives name bytes := by
  unfold decode Gives
  by_cases hb : bytes = []
  · rw [if_pos (List.isEmpty_iff.2 hb)]
    exact iff_of_true ⟨_, rfl⟩ (.inl hb)
  rw [if_neg (mt List.isEmpty_iff.1 hb), or_iff_right hb]
  by_cases hc : name ∈ byteCodings
  · rw [if_pos (List.contains_iff_mem.2 hc)]
    exact iff_of_false nofun fun h => h.1 hc
  rw [if_neg (mt List.contains_iff_mem.1 hc), and_iff_right hc]
  by_cases hu : name = "undefined"
  · rw [if_pos hu]
    exact iff_of_false nofun fun h => h.1 hu
  rw [if_neg hu, and_iff_right hu]
  by_cases hi : name = "idna"
  · rw [if_pos hi]
    exact iff_of_false nofun fun h => h.1 hi
  rw [if_neg hi, and_iff_right hi]
  by_cases hp : name = "punycode"
  · rw [if_pos hp, imp_iff_right hp, ← exists_punycode_iff]
    cases Punycode.decode bytes with
    | error fault => exact iff_of_false nofun nofun
    | ok text => exact iff_of_true ⟨_, rfl⟩ ⟨_, rfl⟩
  · rw [if_neg hp]
    refine iff_of_true ?_ fun h => absurd h hp
    have hread := lookup_isSome_of_mem_handledNames hn hc (by simp [hu, hi, hp])
    split
    · exact ⟨_, rfl⟩
    · exact ⟨_, rfl⟩
    · next hdecoder hpage =>
      rw [hdecoder, hpage] at hread
      cases hread with
      | inl h => cases h
      | inr h => cases h

/-- Exactly the readable bytes are read. -/
theorem exists_read_iff {contentType : Option String} {bytes : Bytes} :
    (∃ text, read contentType bytes = .ok text) ↔ Readable contentType bytes := by
  have hdecode := exists_decode_iff (ofContentType_mem_handledNames contentType) bytes
  unfold read lookUp Readable
  cases parameter? (contentType.getD "").toList with
  | none =>
    rw [and_iff_right nofun]
    exact hdecode
  | some label =>
    by_cases hl : '\x00' ∈ label
    · rw [if_pos (by simpa using hl)]
      exact iff_of_false nofun fun h => h.1 label rfl hl
    · rw [if_neg (by simpa using hl), and_iff_right (by simpa using hl)]
      exact hdecode

end HttpCourier.Charset
