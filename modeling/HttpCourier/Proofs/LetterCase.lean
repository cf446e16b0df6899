import HttpCourier.Message.Fields
import HttpCourier.Proofs.Step
import Mathlib.Data.List.Basic
import Mathlib.Data.List.TakeWhile

/-!
# Letter case of ASCII texts

The name of a header field is compared as a text before it is encoded, and byte by byte
afterwards. For ASCII names this is the same (`sameName_iff`), so the fields of a message have the
values that its headers have (`Fields.valuesOf_ofHeaders`). A text in capital letters whose own
capital form is ASCII is that form (`upper_upper`): no letter outside ASCII that turns into an
ASCII one is a capital letter itself.
-/

namespace HttpCourier

namespace Text

variable {a b s : List Char} {c d : Char}

/-- All characters of a text are ASCII. -/
def IsAscii (s : List Char) : Prop := ∀ c ∈ s, c.toNat < 128

instance (s : List Char) : Decidable (IsAscii s) :=
  List.decidableBAll (fun c : Char => c.toNat < 128) s

/-- What holds of the first 128 characters holds of an ASCII character. -/
theorem ascii_cases {p : Char → Prop} (h : ∀ n < 128, p (Char.ofNat n)) (hc : c.toNat < 128) :
    p c := by
  have hn := h c.toNat hc
  rwa [Char.ofNat_toNat] at hn

/-- Small letters of ASCII are ASCII. -/
theorem IsAscii.toLower (h : IsAscii s) : IsAscii (s.map Char.toLower) := by
  intro d hd
  obtain ⟨c, hc, rfl⟩ := List.mem_map.1 hd
  exact ascii_cases (p := fun c => c.toLower.toNat < 128) (by decide) (h c hc)

/-- The small form of an ASCII text, letter by letter. -/
theorem lowerAfter_ascii (h : IsAscii s) (before : List Char) :
    lowerAfter before s = s.map Char.toLower := by
  induction s generalizing before with
  | nil => rfl
  | cons c s ih =>
    obtain ⟨hc, hs⟩ := List.forall_mem_cons.1 h
    have hsigma : c.toNat ≠ 0x3A3 := by omega
    have hdotted : c.toNat ≠ 0x130 := by omega
    simp only [lowerAfter, if_neg hsigma, if_neg hdotted, lowerChar, if_pos hc, ih hs,
      List.map_cons, List.singleton_append]

/-! ## The bytes of ASCII texts -/

/-- A character of ASCII is one byte. -/
theorem utf8EncodeChar_ascii (h : c.toNat < 128) :
    String.utf8EncodeChar c = [UInt8.ofNat c.toNat] :=
  ascii_cases (p := fun c => String.utf8EncodeChar c = [UInt8.ofNat c.toNat]) (by decide +kernel) h

/-- An ASCII text has one byte for each character. -/
theorem latin1_ofChars (h : IsAscii s) : Bytes.latin1 (Bytes.ofChars s) = s := by
  induction s with
  | nil => rfl
  | cons c s ih =>
    obtain ⟨hc, hs⟩ := List.forall_mem_cons.1 h
    have hchar : Char.ofNat (UInt8.ofNat c.toNat).toNat = c :=
      ascii_cases (p := fun c => Char.ofNat (UInt8.ofNat c.toNat).toNat = c) (by decide +kernel) hc
    have hrest : (Bytes.ofChars s).map (fun b => Char.ofNat b.toNat) = s := ih hs
    rw [Bytes.ofChars_cons, utf8EncodeChar_ascii hc, List.singleton_append, Bytes.latin1,
      List.map_cons, hchar, hrest]

/-- In ASCII, the bytes of small letters are small letters of the bytes. -/
theorem toLower_ofChars (h : IsAscii s) :
    Bytes.toLower (Bytes.ofChars s) = Bytes.ofChars (s.map Char.toLower) := by
  induction s with
  | nil => rfl
  | cons c s ih =>
    obtain ⟨hc, hs⟩ := List.forall_mem_cons.1 h
    have hbyte : Bytes.toLower (String.utf8EncodeChar c) = String.utf8EncodeChar c.toLower :=
      ascii_cases
        (p := fun c => Bytes.toLower (String.utf8EncodeChar c) = String.utf8EncodeChar c.toLower)
        (by decide +kernel) hc
    have happend : ∀ x y, Bytes.toLower (x ++ y) = Bytes.toLower x ++ Bytes.toLower y := fun _ _ =>
      List.map_append
    rw [Bytes.ofChars_cons, happend, hbyte, ih hs, List.map_cons, Bytes.ofChars_cons]

/-- Two ASCII names are the same when their bytes are, whatever the case of the letters. -/
theorem sameName_iff {a b : String} (ha : IsAscii a.toList) (hb : IsAscii b.toList) :
    sameName a b = true ↔
      Bytes.toLower (Bytes.ofString a) = Bytes.toLower (Bytes.ofString b) := by
  have hbytes : Bytes.ofChars (a.toList.map Char.toLower) = Bytes.ofChars (b.toList.map Char.toLower)
      ↔ a.toList.map Char.toLower = b.toList.map Char.toLower := by
    refine ⟨fun h => ?_, congrArg _⟩
    rw [← latin1_ofChars ha.toLower, h, latin1_ofChars hb.toLower]
  rw [Bytes.ofString, Bytes.ofString, toLower_ofChars ha, toLower_ofChars hb, hbytes, sameName,
    beq_iff_eq, lower, lower, lowerAfter_ascii ha, lowerAfter_ascii hb]
  exact ⟨fun h => by simpa using congrArg String.toList h, congrArg String.ofList⟩

/-- A text that could be encoded is ASCII, and its bytes are the usual ones. -/
theorem encodeAscii_eq_ok {bytes : Bytes} (h : encodeAscii s = .ok bytes) :
    IsAscii s ∧ bytes = Bytes.ofChars s := by
  unfold encodeAscii at h
  dsimp only at h
  split at h
  case h_2 => cases h
  case h_1 hdrop =>
    have hascii : IsAscii s := by
      have hall := List.takeWhile_eq_self_iff.1
        ((List.takeWhile_prefix _).eq_of_length_le (List.drop_eq_nil_iff.1 hdrop))
      intro c hc
      simpa using hall c hc
    refine ⟨hascii, (Except.ok.inj h).symm.trans ?_⟩
    rw [Bytes.ofChars, List.map_eq_flatMap]
    exact List.flatMap_congr fun c hc => (utf8EncodeChar_ascii (hascii c hc)).symm

/-! ## Capital letters -/

/-- The characters that have another capital form, which is ASCII. -/
def smallOfAscii : CodeRanges :=
  [(0x61, 0x7a), (0xdf, 0xdf), (0x131, 0x131), (0x17f, 0x17f), (0xfb00, 0xfb06)]

/-- Those of them that are beyond ASCII. -/
def smallBeyondAscii : List Nat :=
  [0xdf, 0x131, 0x17f, 0xfb00, 0xfb01, 0xfb02, 0xfb03, 0xfb04, 0xfb05, 0xfb06]

/-- What a character beyond ASCII may turn into: no small one, and more than ASCII unless the
character is small. -/
def TurnsCapital (n : Nat) (image : List Char) : Prop :=
  (∀ d ∈ image, smallOfAscii.contains d.toNat = false)
    ∧ (smallOfAscii.contains n = true ∨ ∃ d ∈ image, 128 ≤ d.toNat)

instance (n : Nat) (image : List Char) : Decidable (TurnsCapital n image) :=
  -- by going through the image, and not through all characters
  letI := List.decidableBAll (fun d : Char => smallOfAscii.contains d.toNat = false) image
  letI := List.decidableBEx (fun d : Char => 128 ≤ d.toNat) image
  inferInstanceAs (Decidable (_ ∧ _))

/-- The code point `n` is in a run. -/
def CaseRun.Holds (r : CaseRun) (n : Nat) : Prop :=
  r.first ≤ n ∧ n ≤ r.last ∧ (n - r.first) % r.step = 0

instance (r : CaseRun) (n : Nat) : Decidable (r.Holds n) :=
  inferInstanceAs (Decidable (_ ∧ _))

/-- The images of a run are characters, and none is small; they are beyond ASCII unless the run is
a single small character. -/
def CaseRun.TurnsCapital (r : CaseRun) : Prop :=
  let last := r.target + (r.last - r.first)
  (last < 0xd800 ∨ 0xdfff < r.target ∧ last < 0x110000)
    ∧ (∀ range ∈ smallOfAscii, last < range.1 ∨ range.2 < r.target)
    ∧ (128 ≤ r.target ∨ smallOfAscii.contains r.first = true ∧ r.first = r.last)

instance (r : CaseRun) : Decidable r.TurnsCapital :=
  inferInstanceAs (Decidable (_ ∧ _))

/-- The characters with several capitals have capitals that stay as they are. -/
theorem turnsCapital_of_mem_upperExpansions :
    ∀ e ∈ upperExpansions, TurnsCapital e.1 (e.2.map Char.ofNat) := by
  decide +kernel

/-- What the runs beyond ASCII turn into, and that no small character beyond ASCII is left alone. -/
theorem turnsCapital_of_mem_upperRuns :
    (∀ r ∈ upperRuns, r.last < 128 ∨ r.TurnsCapital) ∧
      ∀ n ∈ smallBeyondAscii,
        (∃ e ∈ upperExpansions, e.1 = n) ∨ ∃ r ∈ upperRuns, r.Holds n := by
  simp only [upperRuns, CaseRuns.ofHex, String.toList_append]
  -- the table is read from a text, and the kernel reads lists of characters faster
  repeat rw [String.toList_ofList]
  decide +kernel

theorem toNat_ofNat {n : Nat} (h : n.isValidChar) : (Char.ofNat n).toNat = n := by
  rw [Char.ofNat, dif_pos h]
  rfl

/-- What no table knows is not small. -/
theorem not_contains_smallOfAscii {n : Nat} (hn : 128 ≤ n) (he : ∀ e ∈ upperExpansions, e.1 ≠ n)
    (hr : ∀ r ∈ upperRuns, ¬ r.Holds n) : smallOfAscii.contains n = false := by
  rw [← Bool.not_eq_true, CodeRanges.contains_iff]
  rintro ⟨range, hrange, h⟩
  have hmem : n ∈ smallBeyondAscii := by
    simp only [smallOfAscii, smallBeyondAscii, List.mem_cons, List.not_mem_nil, or_false]
      at hrange ⊢
    rcases hrange with rfl | rfl | rfl | rfl | rfl <;> simp only at h <;> omega
  rcases turnsCapital_of_mem_upperRuns.2 n hmem with ⟨e, hmem, heq⟩ | ⟨r, hmem, hholds⟩
  · exact he e hmem heq
  · exact hr r hmem hholds

/-- What a character beyond ASCII turns into. -/
theorem turnsCapital_upperChar (hc : 128 ≤ c.toNat) : TurnsCapital c.toNat (upperChar c) := by
  rw [upperChar, if_neg (by omega)]
  split
  case h_1 e he =>
    have heq : e.1 = c.toNat := by simpa using List.find?_some he
    rw [← heq]
    exact turnsCapital_of_mem_upperExpansions e (List.mem_of_find?_eq_some he)
  case h_2 hexpansion =>
    rw [CaseRuns.map]
    split
    case h_1 r hr =>
      have hholds := List.find?_some hr
      simp only [Bool.and_eq_true, decide_eq_true_eq] at hholds
      obtain hascii | ⟨hvalid, hsmall, hbeyond⟩ :=
        turnsCapital_of_mem_upperRuns.1 r (List.mem_of_find?_eq_some hr)
      · omega
      have himage : (Char.ofNat (r.target + (c.toNat - r.first))).toNat
          = r.target + (c.toNat - r.first) :=
        toNat_ofNat (by unfold Nat.isValidChar; omega)
      refine ⟨?_, ?_⟩
      · rw [List.forall_mem_singleton, himage, ← Bool.not_eq_true, CodeRanges.contains_iff]
        rintro ⟨range, hrange, h⟩
        have := hsmall range hrange
        omega
      · rcases hbeyond with htarget | ⟨hfirst, hsingle⟩
        · exact .inr ⟨_, List.mem_singleton_self _, by rw [himage]; omega⟩
        · have heq : r.first = c.toNat := by omega
          exact .inl (heq ▸ hfirst)
    case h_2 hrun =>
      have hkept := not_contains_smallOfAscii hc (by simpa using hexpansion) fun r hr hholds => by
        refine List.find?_eq_none.1 hrun r hr ?_
        simpa [CaseRun.Holds, and_assoc] using hholds
      exact ⟨List.forall_mem_singleton.2 hkept, .inr ⟨c, List.mem_singleton_self c, hc⟩⟩

/-- No capital form has a small character. -/
theorem not_small_of_mem_upperChar (h : d ∈ upperChar c) :
    smallOfAscii.contains d.toNat = false := by
  by_cases hc : c.toNat < 128
  · rw [upperChar, if_pos hc, List.mem_singleton] at h
    subst h
    exact ascii_cases (p := fun c => smallOfAscii.contains c.toUpper.toNat = false)
      (by decide +kernel) hc
  · exact (turnsCapital_upperChar (Nat.not_lt.1 hc)).1 d h

/-- A character that is not small and turns into ASCII is its own capital form. -/
theorem upperChar_eq_self (hsmall : smallOfAscii.contains c.toNat = false)
    (h : IsAscii (upperChar c)) : upperChar c = [c] := by
  by_cases hc : c.toNat < 128
  · rw [upperChar, if_pos hc]
    exact ascii_cases (p := fun c => smallOfAscii.contains c.toNat = false → [c.toUpper] = [c])
      (by decide +kernel) hc hsmall
  · rcases (turnsCapital_upperChar (Nat.not_lt.1 hc)).2 with hcontains | ⟨d, hd, hbeyond⟩
    · rw [hcontains] at hsmall
      cases hsmall
    · exact absurd (h d hd) (Nat.not_lt.2 hbeyond)

/-- A text in capital letters is its own capital form, if that is ASCII. -/
theorem upper_upper {s : String} (h : IsAscii (upper (upper s)).toList) :
    upper (upper s) = upper s := by
  have hself : ∀ c ∈ (upper s).toList, upperChar c = [c] := by
    intro c hc
    refine upperChar_eq_self ?_ fun d hd => h d ?_
    · rw [upper, String.toList_ofList, List.mem_flatMap] at hc
      obtain ⟨b, -, hc⟩ := hc
      exact not_small_of_mem_upperChar hc
    · rw [upper, String.toList_ofList]
      exact List.mem_flatMap.2 ⟨c, hc, hd⟩
  rw [upper, List.flatMap_congr hself, List.flatMap_singleton', String.ofList_toList]

end Text

open Text

/-- The fields of a message have the values that its headers have. -/
theorem Fields.valuesOf_ofHeaders {headers : Headers} {fields : Fields} {key : String}
    (hkey : IsAscii key.toList) (h : ofHeaders headers = .ok fields) :
    fields.valuesOf key = (headers.valuesOf key).map Bytes.ofString := by
  induction headers generalizing fields with
  | nil =>
    obtain rfl := Except.ok.inj h
    rfl
  | cons header rest ih =>
    obtain ⟨name, value⟩ := header
    rw [ofHeaders, List.mapM_cons] at h
    obtain ⟨field, hfield, h⟩ := Step.ok_of_bind h
    obtain ⟨more, hmore, h⟩ := Step.ok_of_bind h
    obtain rfl := Except.ok.inj h
    obtain ⟨name', hname, hfield⟩ := Step.ok_of_bind hfield
    obtain ⟨value', hvalue, hfield⟩ := Step.ok_of_bind hfield
    obtain rfl := Except.ok.inj hfield
    obtain ⟨hascii, rfl⟩ := encodeAscii_eq_ok hname
    obtain ⟨-, rfl⟩ := encodeAscii_eq_ok hvalue
    have hsame : isNamed key (Bytes.ofChars name.toList, Bytes.ofChars value.toList)
        = sameName name key := by
      rw [Bool.eq_iff_iff, sameName_iff hascii hkey, isNamed, beq_iff_eq]
      rfl
    have hrest := ih hmore
    unfold valuesOf Headers.valuesOf at hrest ⊢
    rw [List.filter_cons, List.filter_cons, hsame]
    split
    · rw [List.map_cons, List.map_cons, List.map_cons, hrest]
      rfl
    · exact hrest

end HttpCourier
