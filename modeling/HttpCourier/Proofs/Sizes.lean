import HttpCourier.Config.DataSize
import HttpCourier.Proofs.Cuts
import HttpCourier.Proofs.LetterCase
import HttpCourier.Proofs.Rounding
import Mathlib.Data.List.Forall2

/-!
# Sizes that are read as written

A text is a size when it is a numeral and a unit with blanks around either (`DataSize.IsSize`). A
size is answered with its whole part and any other text with an error of the value, but for two
kinds of texts: sizes whose whole part is lost to rounding, and those whose unit is written with the
sign of the kelvin (`DataSize.answers_ofText_iff`).
-/

namespace HttpCourier

open Text Number

/-! ## Blanks around a text -/

namespace Text

/-- A text of blanks. -/
def Blanks (s : List Char) : Prop := ∀ c ∈ s, isBlank c = true

/-- Blanks before a text that begins with none are trimmed off. -/
theorem trimLeft_append {before t : List Char} (hb : Blanks before)
    (ht : ∀ c ∈ t.head?, isBlank c = false) : trimLeft (before ++ t) = t := by
  rw [trimLeft, List.dropWhile_append_of_pos hb]
  cases t with
  | nil => rfl
  | cons c t => exact List.dropWhile_cons_of_neg (by simp [ht c rfl])

/-- What is trimmed off on the left is blank. -/
theorem exists_append_trimLeft (s : List Char) : ∃ before, Blanks before ∧ s = before ++ trimLeft s :=
  ⟨s.takeWhile isBlank, fun _ hc => List.mem_takeWhile_imp hc, List.takeWhile_append_dropWhile.symm⟩

/-- Blanks after a text that ends with none are trimmed off. -/
theorem trimRight_append {t after : List Char} (ha : Blanks after)
    (ht : ∀ c ∈ t.getLast?, isBlank c = false) : trimRight (t ++ after) = t := by
  have h : trimLeft (after.reverse ++ t.reverse) = t.reverse :=
    trimLeft_append (fun c hc => ha c (List.mem_reverse.1 hc)) (by simpa using ht)
  rw [trimLeft, ← List.reverse_append] at h
  rw [trimRight, h, List.reverse_reverse]

/-- What is trimmed off on the right is blank. -/
theorem exists_append_trimRight (s : List Char) : ∃ after, Blanks after ∧ s = trimRight s ++ after := by
  obtain ⟨before, hb, h⟩ := exists_append_trimLeft s.reverse
  refine ⟨before.reverse, fun c hc => hb c (List.mem_reverse.1 hc), ?_⟩
  rw [trimRight, ← List.reverse_append]
  exact List.reverse_eq_iff.1 h

/-- Blanks around a text that neither begins nor ends with one are trimmed off. -/
theorem trimChars_append {before t after : List Char} (hb : Blanks before) (ha : Blanks after)
    (hhead : ∀ c ∈ t.head?, isBlank c = false) (hlast : ∀ c ∈ t.getLast?, isBlank c = false)
    (hne : t ≠ []) : trimChars (before ++ (t ++ after)) = t := by
  rw [trimChars, trimLeft_append hb, trimRight_append ha hlast]
  rw [List.head?_append_of_ne_nil _ hne]
  exact hhead

/-- What is trimmed off on either side is blank. -/
theorem exists_append_trimChars (s : List Char) :
    ∃ before after, Blanks before ∧ Blanks after ∧ s = before ++ (trimChars s ++ after) := by
  obtain ⟨before, hb, hs⟩ := exists_append_trimLeft s
  obtain ⟨after, ha, ht⟩ := exists_append_trimRight (trimLeft s)
  refine ⟨before, after, hb, ha, ?_⟩
  rw [trimChars, ← ht]
  exact hs

/-- The code points of the blanks in ASCII. -/
def blanksOfAscii : List Nat := [9, 10, 11, 12, 13, 28, 29, 30, 31, 32]

/-- The code points of the blanks beyond ASCII. -/
def blanksBeyondAscii : List Nat :=
  [0x85, 0xA0, 0x1680, 0x2000, 0x2001, 0x2002, 0x2003, 0x2004, 0x2005, 0x2006, 0x2007, 0x2008, 0x2009,
    0x200A, 0x2028, 0x2029, 0x202F, 0x205F, 0x3000]

/-- The blanks are finitely many. -/
theorem mem_blanks {c : Char} (h : isBlank c = true) :
    c.toNat ∈ blanksOfAscii ∨ c.toNat ∈ blanksBeyondAscii := by
  simp only [isBlank, Bool.or_eq_true, Bool.and_eq_true, decide_eq_true_eq, beq_iff_eq] at h
  simp only [blanksOfAscii, blanksBeyondAscii, List.mem_cons, List.not_mem_nil, or_false]
  omega

/-- No blank beyond ASCII is a digit, and the sign of the kelvin is none. -/
theorem decimalDigits_avoid :
    ∀ r ∈ decimalDigits, ∀ n ∈ 0x212a :: blanksBeyondAscii, n < r.1 ∨ r.2 < n := by
  simp only [decimalDigits, CodeRanges.ofHex, String.toList_append]
  -- the table is read from a text, and the kernel reads lists of characters faster
  repeat rw [String.toList_ofList]
  decide +kernel

/-- Neither the sign of the kelvin nor a blank beyond ASCII is a digit of any script. -/
theorem not_decimal_of_beyond {c : Char} (h : c.toNat ∈ 0x212a :: blanksBeyondAscii) :
    isDecimal c = false := by
  have hc : ¬ c.toNat < 128 := by
    have hall : ∀ n ∈ 0x212a :: blanksBeyondAscii, ¬ n < 128 := by decide
    exact hall _ h
  have hnone : (decimalDigits.find? fun r => decide (r.1 ≤ c.toNat) && decide (c.toNat ≤ r.2))
      = none := by
    refine List.find?_eq_none.2 fun r hr hmem => ?_
    simp only [Bool.and_eq_true, decide_eq_true_eq] at hmem
    have := decimalDigits_avoid r hr _ h
    omega
  rw [isDecimal, decimalValue?, if_neg hc, hnone]
  rfl

/-- No blank is a digit or a point. -/
theorem not_decimal_of_isBlank {c : Char} (h : isBlank c = true) : isDecimal c = false ∧ c ≠ '.' := by
  rcases mem_blanks h with hascii | hbeyond
  · have hall : ∀ n ∈ blanksOfAscii, isDecimal (Char.ofNat n) = false ∧ Char.ofNat n ≠ '.' := by
      decide
    simpa using hall c.toNat hascii
  · refine ⟨not_decimal_of_beyond (List.mem_cons_of_mem _ hbeyond), ?_⟩
    rintro rfl
    revert hbeyond
    decide

end Text

/-! ## Numerals -/

namespace Number

/-- Digits of any script, at least one, and their values. -/
structure Digits (s : List Char) (values : List Nat) : Prop where
  nonempty : s ≠ []
  valued : List.Forall₂ (fun c value => decimalValue? c = some value) s values

/-- A decimal numeral is digits, or digits, a point and digits. The number that it writes is
`digits / 10 ^ places`. -/
inductive Numeral : List Char → Nat → Nat → Prop where
  | whole {s : List Char} {values : List Nat} : Digits s values → Numeral s (ofDigits values) 0
  | fraction {s t : List Char} {values more : List Nat} : Digits s values → Digits t more →
    Numeral (s ++ '.' :: t) (ofDigits (values ++ more)) t.length

/-- The values of a text are those of its characters, each of them a digit. -/
theorem digitValues?_eq_some_iff {s : List Char} {values : List Nat} :
    digitValues? s = some values ↔
      List.Forall₂ (fun c value => decimalValue? c = some value) s values := by
  induction s generalizing values with
  | nil =>
    rw [List.forall₂_nil_left_iff]
    exact ⟨fun h => (Option.some.inj h).symm, fun h => by rw [h]; rfl⟩
  | cons c s ih =>
    rw [digitValues?, List.mapM_cons, List.forall₂_cons_left_iff]
    simp only [Option.bind_eq_bind, Option.bind_eq_some_iff, Option.pure_def, Option.some_inj]
    constructor
    · rintro ⟨value, hc, rest, hs, rfl⟩
      exact ⟨value, rest, hc, ih.1 hs, rfl⟩
    · rintro ⟨value, rest, hc, hs, rfl⟩
      exact ⟨value, hc, rest, ih.2 hs, rfl⟩

/-- Digits are digits one by one. -/
theorem Digits.isDecimal {s : List Char} {values : List Nat} (h : Digits s values) :
    ∀ c ∈ s, isDecimal c = true := by
  have hall := h.valued
  clear h
  induction hall with
  | nil => nofun
  | cons hc _ ih => exact List.forall_mem_cons.2 ⟨by rw [Text.isDecimal, hc]; rfl, ih⟩

/-- Digits after digits are digits. -/
theorem Digits.append {s t : List Char} {values more : List Nat} (hs : Digits s values)
    (ht : Digits t more) : Digits (s ++ t) (values ++ more) where
  nonempty := List.append_ne_nil_of_left_ne_nil hs.nonempty t
  valued := List.rel_append hs.valued ht.valued

/-- Both parts of digits that are cut in two are digits. -/
theorem Digits.of_append {s t : List Char} {values : List Nat} (h : Digits (s ++ t) values)
    (hs : s ≠ []) (ht : t ≠ []) :
    ∃ front more, Digits s front ∧ Digits t more ∧ values = front ++ more := by
  have hvalues := digitValues?_eq_some_iff.2 h.valued
  rw [digitValues?, List.mapM_append] at hvalues
  simp only [Option.bind_eq_bind, Option.bind_eq_some_iff, Option.pure_def, Option.some_inj] at hvalues
  obtain ⟨front, hfront, more, hmore, rfl⟩ := hvalues
  exact ⟨front, more, ⟨hs, digitValues?_eq_some_iff.1 hfront⟩, ⟨ht, digitValues?_eq_some_iff.1 hmore⟩,
    rfl⟩

/-- A text is read as a number when it is digits, and as the number they write. -/
theorem parseNat?_eq_some_iff {s : List Char} {n : Nat} :
    parseNat? s = some n ↔ ∃ values, Digits s values ∧ ofDigits values = n := by
  rw [parseNat?]
  split
  case isTrue h =>
    refine iff_of_false nofun ?_
    rintro ⟨values, hs, -⟩
    exact hs.nonempty (List.isEmpty_iff.1 h)
  case isFalse h =>
    simp only [Option.map_eq_some_iff, digitValues?_eq_some_iff]
    exact ⟨fun ⟨values, hs, hn⟩ => ⟨values, ⟨fun hnil => h (List.isEmpty_iff.2 hnil), hs⟩, hn⟩,
      fun ⟨values, hs, hn⟩ => ⟨values, hs.valued, hn⟩⟩

end Number

namespace DataSize

variable {s t numeral tail letters : List Char} {digits places n : Nat} {w : Written}

/-- A text that begins with characters of a kind, cut at the first of another kind. -/
theorem cut_append {p : Char → Bool} (hs : ∀ c ∈ s, p c = true) (ht : ∀ c ∈ t.head?, p c = false) :
    (s ++ t).takeWhile p = s ∧ (s ++ t).drop s.length = t := by
  refine ⟨?_, List.drop_left⟩
  cases t with
  | nil => rw [List.append_nil, List.takeWhile_eq_self_iff.2 hs]
  | cons c t => exact (takeWhile_dropWhile_of hs (ht c rfl)).1

/-- The digits after a point that a text begins with, and the rest; none when there is no such
point. -/
def fractionOf (rest : List Char) : List Char × List Char :=
  match rest with
  | '.' :: more =>
    let digits := more.takeWhile isDecimal
    if digits.isEmpty then ([], rest) else (digits, more.drop digits.length)
  | _ => ([], rest)

/-- There are digits after a point, or nothing is taken. -/
theorem fractionOf_cases (rest : List Char) :
    fractionOf rest = ([], rest) ∨ ∃ fraction tail, fraction ≠ [] ∧
      rest = '.' :: (fraction ++ tail) ∧ fractionOf rest = (fraction, tail) := by
  unfold fractionOf
  split
  case h_1 more =>
    dsimp only
    split
    case isTrue => exact .inl rfl
    case isFalse h =>
      refine .inr ⟨_, _, fun hnil => h (List.isEmpty_iff.2 hnil), ?_, rfl⟩
      rw [List.prefix_iff_eq_append.1 (List.takeWhile_prefix isDecimal)]
  case h_2 => exact .inl rfl

/-- Without a point nothing is taken. -/
theorem fractionOf_of_head (h : ∀ c ∈ tail.head?, c ≠ '.') : fractionOf tail = ([], tail) := by
  unfold fractionOf
  split
  case h_1 => exact absurd rfl (h '.' rfl)
  case h_2 => rfl

/-- After a point the digits are taken, up to the first character that is none. -/
theorem fractionOf_point {fraction : List Char} {values : List Nat} (hf : Digits fraction values)
    (ht : ∀ c ∈ tail.head?, isDecimal c = false) :
    fractionOf ('.' :: (fraction ++ tail)) = (fraction, tail) := by
  obtain ⟨htake, hdrop⟩ := cut_append hf.isDecimal ht
  simp only [fractionOf, htake, hdrop]
  exact if_neg fun h => hf.nonempty (List.isEmpty_iff.1 h)

/-- A size is read from its numeral and what follows it. -/
theorem ofText?_eq (s : List Char) : Written.ofText? s =
    let whole := (trimChars s).takeWhile isDecimal
    let cut := fractionOf ((trimChars s).drop whole.length)
    (parseNat? (whole ++ cut.1)).bind fun digits =>
      if whole.isEmpty || !((trimLeft cut.2).isEmpty || isUnit (trimLeft cut.2)) then none
      else some { digits, places := cut.1.length, unit := trimLeft cut.2 } := rfl

/-- A text says a numeral and some letters, with blanks around either. -/
inductive Spells : List Char → Nat → Nat → List Char → Prop where
  | mk {before numeral between letters after : List Char} {digits places : Nat} :
    Blanks before → Numeral numeral digits places → Blanks between → Blanks after →
    Spells (before ++ (numeral ++ (between ++ (letters ++ after)))) digits places letters

/-- The numeral that is read stands before what follows it. -/
theorem exists_numeral {whole rest : List Char} (hwhole : whole ≠ [])
    (h : parseNat? (whole ++ (fractionOf rest).1) = some digits) :
    ∃ numeral, Numeral numeral digits (fractionOf rest).1.length ∧
      whole ++ rest = numeral ++ (fractionOf rest).2 := by
  obtain ⟨values, hdigits, rfl⟩ := parseNat?_eq_some_iff.1 h
  rcases fractionOf_cases rest with hcut | ⟨fraction, tail, hne, hrest, hcut⟩
  · rw [hcut, List.append_nil] at hdigits
    rw [hcut]
    exact ⟨whole, .whole hdigits, rfl⟩
  · rw [hcut] at hdigits ⊢
    obtain ⟨front, more, hfront, hmore, rfl⟩ := hdigits.of_append hwhole hne
    exact ⟨whole ++ '.' :: fraction, .fraction hfront hmore, by rw [hrest]; simp⟩

/-- A text that is taken for a size spells the numeral and the letters it is taken to say, and the
letters are a unit or none. -/
theorem spells_of_ofText? (h : Written.ofText? s = some w) :
    Spells s w.digits w.places w.unit ∧ (w.unit = [] ∨ isUnit w.unit = true) := by
  obtain ⟨before, after, hbefore, hafter, hs⟩ := exists_append_trimChars s
  have ht := List.prefix_iff_eq_append.1 (List.takeWhile_prefix isDecimal (l := trimChars s))
  rw [← ht] at hs
  rw [ofText?_eq] at h
  dsimp only at h
  generalize (trimChars s).takeWhile isDecimal = whole at *
  generalize (trimChars s).drop whole.length = rest at *
  obtain ⟨digits, hparse, h⟩ := Option.bind_eq_some_iff.1 h
  split at h
  case isTrue => cases h
  case isFalse hcut =>
    obtain rfl := Option.some.inj h
    rw [Bool.not_eq_true, Bool.or_eq_false_iff, Bool.not_eq_false', Bool.or_eq_true,
      List.isEmpty_iff] at hcut
    obtain ⟨hwhole, hunit⟩ := hcut
    obtain ⟨numeral, hnumeral, hrest⟩ :=
      exists_numeral (fun hnil => by rw [hnil] at hwhole; cases hwhole) hparse
    obtain ⟨between, hbetween, htail⟩ := exists_append_trimLeft (fractionOf rest).2
    have hspelled :
        s = before ++ (numeral ++ (between ++ (trimLeft (fractionOf rest).2 ++ after))) := by
      rw [← List.append_assoc between, ← htail, ← List.append_assoc numeral, ← hrest]
      exact hs
    rw [hspelled]
    exact ⟨.mk hbefore hnumeral hbetween hafter, hunit⟩

/-! ## Units -/

/-- The units and how often 1024 is multiplied for each; no letters at all stand for bytes. -/
def units : List (List Char × Nat) :=
  [([], 0), (['B'], 0), (['K', 'B'], 1), (['M', 'B'], 2), (['G', 'B'], 3), (['T', 'B'], 4)]

/-- Letters are a unit in any case. -/
def UnitOf (letters : List Char) (power : Nat) : Prop := (letters.map Char.toUpper, power) ∈ units

/-- Letters are the unit `KB` with the sign of the kelvin for its first one. -/
def KelvinUnit (letters : List Char) : Prop := letters = ['\u212a', 'B'] ∨ letters = ['\u212a', 'b']

/-- All letters that are taken for a unit. -/
def spellings : List (List Char) :=
  ['B', 'b'].flatMap fun b => [b] :: "KMGTkmgt\u212a".toList.map fun c => [c, b]

/-- A unit is a letter B, after another letter or not. -/
theorem cases_of_isUnit (h : isUnit letters = true) :
    ∃ b, (b = 'B' ∨ b = 'b') ∧
      (letters = [b] ∨ ∃ c, c ∈ "KMGTkmgt\u212a".toList ∧ letters = [c, b]) := by
  match letters, h with
  | [b], h => exact ⟨b, by simpa [isUnit] using h, .inl rfl⟩
  | [c, b], h =>
    obtain ⟨hc, hb⟩ := Bool.and_eq_true_iff.1 h
    exact ⟨b, by simpa using hb, .inr ⟨c, by simpa [isUnitLetter] using hc, rfl⟩⟩

/-- The letters of a unit are one of finitely many. -/
theorem mem_spellings (h : isUnit letters = true) : letters ∈ spellings := by
  obtain ⟨b, hb, hletters⟩ := cases_of_isUnit h
  refine List.mem_flatMap.2 ⟨b, by simpa using hb, ?_⟩
  rcases hletters with rfl | ⟨c, hc, rfl⟩
  · exact List.mem_cons_self
  · exact List.mem_cons_of_mem _ (List.mem_map.2 ⟨c, hc, rfl⟩)

/-- No letter of a unit is a digit, a point or a blank. -/
theorem plain_of_unitLetter {c : Char} (h : c ∈ "BbKMGTkmgt\u212a".toList) :
    isDecimal c = false ∧ c ≠ '.' ∧ isBlank c = false := by
  have hall : "BbKMGTkmgt\u212a".toList.all
      (fun c => (c == '\u212a' || !isDecimal c) && (c != '.' && !isBlank c)) = true := by
    decide
  have hc := List.all_eq_true.1 hall c h
  simp only [Bool.and_eq_true, Bool.or_eq_true, beq_iff_eq, bne_iff_ne, Bool.not_eq_true'] at hc
  obtain ⟨rfl | hdecimal, hc⟩ := hc
  · exact ⟨not_decimal_of_beyond (by decide), hc⟩
  · exact ⟨hdecimal, hc⟩

/-- The first character of a unit is no blank, digit or point, and its last one no blank. -/
theorem edges_of_isUnit (h : isUnit letters = true) :
    letters ≠ [] ∧ (∀ c ∈ letters.head?, isDecimal c = false ∧ c ≠ '.' ∧ isBlank c = false) ∧
      ∀ c ∈ letters.getLast?, isBlank c = false := by
  obtain ⟨b, hb, hletters⟩ := cases_of_isUnit h
  have hb : isDecimal b = false ∧ b ≠ '.' ∧ isBlank b = false :=
    plain_of_unitLetter (by rcases hb with rfl | rfl <;> decide)
  rcases hletters with rfl | ⟨c, hc, rfl⟩
  · exact ⟨List.cons_ne_nil _ _, by rintro _ ⟨⟩; exact hb, by rintro _ ⟨⟩; exact hb.2.2⟩
  · have hc : isDecimal c = false ∧ c ≠ '.' ∧ isBlank c = false :=
      plain_of_unitLetter (List.mem_cons_of_mem _ (List.mem_cons_of_mem _ hc))
    exact ⟨List.cons_ne_nil _ _, by rintro _ ⟨⟩; exact hc, by rintro _ ⟨⟩; exact hb.2.2⟩

instance : Decidable (UnitOf letters n) := inferInstanceAs (Decidable (_ ∈ units))

instance : Decidable (KelvinUnit letters) := inferInstanceAs (Decidable (_ ∨ _))

/-- The sign of the kelvin is no capital form of a letter in the units. -/
theorem unitExponent?_of_kelvin (h : KelvinUnit letters) :
    unitExponent? (upper (String.ofList letters)) = none := by
  obtain ⟨b, rfl⟩ : ∃ b, letters = ['\u212a', b] := h.elim (fun h => ⟨_, h⟩) fun h => ⟨_, h⟩
  obtain ⟨d, hd, hbeyond⟩ : ∃ d ∈ upperChar '\u212a', 128 ≤ d.toNat :=
    (turnsCapital_upperChar (c := '\u212a') (by decide)).2.resolve_left (by decide)
  rw [unitExponent?, List.lookup_eq_none_iff]
  intro unit hunit
  have hascii : ∀ unit ∈ [("B", 0), ("KB", 10), ("MB", 20), ("GB", 30), ("TB", 40)],
      IsAscii unit.1.toList := by decide
  refine bne_iff_ne.2 fun heq => ?_
  have hmem : d ∈ unit.1.toList := by
    rw [← heq, upper, String.toList_ofList, String.toList_ofList]
    exact List.mem_flatMap.2 ⟨_, List.mem_cons_self, hd⟩
  have := hascii unit hunit d hmem
  omega

/-- The number of bytes in a unit is known, unless the unit has the sign of the kelvin. -/
theorem unitOf_of_isUnit (h : letters = [] ∨ isUnit letters = true) :
    KelvinUnit letters ∨ ∃ power, UnitOf letters power := by
  have hall : ∀ letters ∈ [] :: spellings,
      KelvinUnit letters ∨ ∃ power ∈ List.range 5, UnitOf letters power := by
    decide
  rcases hall letters (List.mem_cons.2 (h.imp_right mem_spellings)) with hkelvin | ⟨power, -, hunit⟩
  · exact .inl hkelvin
  · exact .inr ⟨power, hunit⟩

/-- The letters that turn into a letter of the units. -/
theorem eq_or_eq_of_toUpper {c u : Char} (hu : u ∈ "BKMGT".toList) (h : c.toUpper = u) :
    c = u ∨ c = u.toLower := by
  have hc : c.toNat < 128 := by
    have hascii : c.toUpper.toNat < 128 := by
      have hall : IsAscii "BKMGT".toList := by decide
      rw [h]
      exact hall u hu
    unfold Char.toUpper at hascii
    split at hascii
    case isTrue hsmall =>
      have hle : c.toNat ≤ 122 := hsmall.2
      omega
    case isFalse => exact hascii
  have hall := ascii_cases
    (p := fun c => "BKMGT".toList.all (fun u => c.toUpper != u || (c == u || c == u.toLower)) = true)
    (by decide +kernel) hc
  simpa [h] using List.all_eq_true.1 hall u hu

/-- Letters that are a unit in any case are taken for one. -/
theorem isUnit_of_unitOf (h : UnitOf letters n) : letters = [] ∨ isUnit letters = true := by
  match letters, h with
  | [], _ => exact .inl rfl
  | [b], h =>
    have hb : b.toUpper = 'B' := by
      simp only [UnitOf, units, List.map_cons, List.map_nil, List.mem_cons, Prod.mk.injEq,
        List.cons.injEq, List.cons_ne_self, List.ne_cons_self, List.not_mem_nil, false_and, and_true,
        and_false, or_self, or_false, false_or] at h
      exact h.1
    rcases eq_or_eq_of_toUpper (by decide) hb with rfl | rfl <;> decide
  | [c, b], h =>
    simp only [UnitOf, units, List.map_cons, List.map_nil, List.mem_cons, Prod.mk.injEq, reduceCtorEq,
      List.cons.injEq, List.cons_ne_self, List.not_mem_nil, false_and, and_true, and_false, or_false,
      false_or] at h
    rcases h with ⟨⟨hc, hb⟩, -⟩ | ⟨⟨hc, hb⟩, -⟩ | ⟨⟨hc, hb⟩, -⟩ | ⟨⟨hc, hb⟩, -⟩
    all_goals
      rcases eq_or_eq_of_toUpper (by decide) hc with rfl | rfl <;>
        rcases eq_or_eq_of_toUpper (by decide) hb with rfl | rfl <;> decide
  | _ :: _ :: _ :: _, h => simp [UnitOf, units] at h

/-- Letters that are a unit are taken for it. -/
theorem taken_of_unitOf (h : UnitOf letters n) : (letters = [] ∨ isUnit letters = true) ∧
    unitExponent? (if letters.isEmpty then "B" else upper (String.ofList letters)) = some (10 * n) := by
  have htaken := isUnit_of_unitOf h
  have hall : ∀ letters ∈ [] :: spellings, ∀ power ∈ List.range 5, UnitOf letters power →
      unitExponent? (if letters.isEmpty then "B" else upper (String.ofList letters))
        = some (10 * power) := by
    decide
  have hpower : ∀ unit ∈ units, unit.2 ∈ List.range 5 := by decide
  exact ⟨htaken, hall letters (List.mem_cons.2 (htaken.imp_right mem_spellings)) n (hpower _ h) h⟩

/-- Letters with the sign of the kelvin are no unit in capitals: the sign is a capital itself, and
not the letter K. -/
theorem not_unitOf_of_kelvin (h : KelvinUnit letters) : ¬ UnitOf letters n := by
  intro hunit
  have hne : ¬ letters.isEmpty = true := by rcases h with rfl | rfl <;> decide
  have hsome := (taken_of_unitOf hunit).2
  rw [if_neg hne, unitExponent?_of_kelvin h] at hsome
  cases hsome

/-! ## Reading what is written -/

/-- A numeral begins and ends with a digit. -/
theorem edges_of_numeral (h : Numeral numeral digits places) :
    numeral ≠ [] ∧ (∀ c ∈ numeral.head?, isBlank c = false) ∧
      ∀ c ∈ numeral.getLast?, isBlank c = false := by
  have hdigit : ∀ {c : Char}, isDecimal c = true → isBlank c = false := fun hc =>
    Bool.eq_false_iff.2 fun hblank => by
      rw [(not_decimal_of_isBlank hblank).1] at hc
      cases hc
  cases h with
  | whole hs =>
    exact ⟨hs.nonempty, fun c hc => hdigit (hs.isDecimal c (List.mem_of_mem_head? hc)),
      fun c hc => hdigit (hs.isDecimal c (List.mem_of_mem_getLast? hc))⟩
  | @fraction s t values more hs ht =>
    refine ⟨List.append_ne_nil_of_left_ne_nil hs.nonempty _, fun c hc => ?_, fun c hc => ?_⟩
    · rw [List.head?_append_of_ne_nil _ hs.nonempty] at hc
      exact hdigit (hs.isDecimal c (List.mem_of_mem_head? hc))
    · rw [List.getLast?_append_of_ne_nil _ (List.cons_ne_nil _ _),
        List.getLast?_cons_of_ne_nil ht.nonempty] at hc
      exact hdigit (ht.isDecimal c (List.mem_of_mem_getLast? hc))

/-- A numeral is read up to what cannot belong to it. -/
theorem read_numeral (h : Numeral numeral digits places)
    (ht : ∀ c ∈ tail.head?, isDecimal c = false ∧ c ≠ '.') :
    ∃ whole fraction, whole ≠ [] ∧ fraction.length = places ∧
      parseNat? (whole ++ fraction) = some digits ∧
      (numeral ++ tail).takeWhile isDecimal = whole ∧
      fractionOf ((numeral ++ tail).drop whole.length) = (fraction, tail) := by
  cases h with
  | @whole s values hs =>
    obtain ⟨htake, hdrop⟩ := cut_append hs.isDecimal fun c hc => (ht c hc).1
    refine ⟨numeral, [], hs.nonempty, rfl, ?_, htake, ?_⟩
    · rw [List.append_nil]
      exact parseNat?_eq_some_iff.2 ⟨values, hs, rfl⟩
    · rw [hdrop, fractionOf_of_head fun c hc => (ht c hc).2]
  | @fraction s t values more hs hmore =>
    have hpoint : ∀ c ∈ ('.' :: t ++ tail).head?, isDecimal c = false := by
      rintro _ ⟨⟩
      decide
    obtain ⟨htake, hdrop⟩ := cut_append hs.isDecimal hpoint
    rw [← List.append_assoc] at htake hdrop
    refine ⟨s, t, hs.nonempty, rfl, parseNat?_eq_some_iff.2 ⟨_, hs.append hmore, rfl⟩, htake, ?_⟩
    rw [hdrop]
    exact fractionOf_point hmore fun c hc => (ht c hc).1

/-- The blanks around a size are dropped, and nothing of its numeral stands in what follows that. -/
theorem exists_trimChars_of_spells (h : Spells s digits places letters)
    (hunit : letters = [] ∨ isUnit letters = true) :
    ∃ numeral tail, Numeral numeral digits places ∧ trimChars s = numeral ++ tail ∧
      trimLeft tail = letters ∧ ∀ c ∈ tail.head?, isDecimal c = false ∧ c ≠ '.' := by
  cases h with
  | @mk before numeral between _ after _ _ hbefore hnumeral hbetween hafter =>
    obtain ⟨hne, hhead, hlast⟩ := edges_of_numeral hnumeral
    rcases hunit with rfl | hunit
    · have hblank : Blanks (between ++ ([] ++ after)) := fun c hc =>
        (List.mem_append.1 hc).elim (hbetween c) (hafter c)
      refine ⟨numeral, [], hnumeral, ?_, rfl, nofun⟩
      rw [trimChars_append hbefore hblank hhead hlast hne, List.append_nil]
    · obtain ⟨hne', hhead', hlast'⟩ := edges_of_isUnit hunit
      refine ⟨numeral, between ++ letters, hnumeral, ?_,
        trimLeft_append hbetween fun c hc => (hhead' c hc).2.2, fun c hc => ?_⟩
      · rw [← List.append_assoc between, ← List.append_assoc numeral]
        refine trimChars_append hbefore hafter ?_ ?_ (List.append_ne_nil_of_left_ne_nil hne _)
        · rw [List.head?_append_of_ne_nil _ hne]
          exact hhead
        · rw [List.getLast?_append_of_ne_nil _ (List.append_ne_nil_of_right_ne_nil _ hne'),
            List.getLast?_append_of_ne_nil _ hne']
          exact hlast'
      · cases between with
        | nil => exact ⟨(hhead' c hc).1, (hhead' c hc).2.1⟩
        | cons b between =>
          obtain rfl := Option.some.inj hc
          exact not_decimal_of_isBlank (hbetween b List.mem_cons_self)

/-- A numeral and letters that are a unit or none are read as what they spell. -/
theorem ofText?_of_spells (h : Spells s digits places letters)
    (hunit : letters = [] ∨ isUnit letters = true) :
    Written.ofText? s = some { digits, places, unit := letters } := by
  obtain ⟨numeral, tail, hnumeral, htrim, hletters, htail⟩ := exists_trimChars_of_spells h hunit
  obtain ⟨whole, fraction, hwhole, hlength, hparse, htake, hcut⟩ := read_numeral hnumeral htail
  have hkept : ¬ (whole.isEmpty || !(letters.isEmpty || isUnit letters)) = true := by
    have htaken : (letters.isEmpty || isUnit letters) = true :=
      Bool.or_eq_true_iff.2 (hunit.imp_left List.isEmpty_iff.2)
    rw [htaken, Bool.not_true, Bool.or_false, List.isEmpty_iff]
    exact hwhole
  rw [ofText?_eq]
  dsimp only
  rw [htrim, htake, hcut, hparse, hletters, hlength]
  exact if_neg hkept

/-! ## Answers -/

/-- A text is the numeral and unit of a number of bytes `num / den`. -/
def IsSize (s : List Char) (num den : Nat) : Prop :=
  ∃ digits places letters power, Spells s digits places letters ∧ UnitOf letters power ∧
    num = digits * 1024 ^ power ∧ den = 10 ^ places

/-- A text is a number of bytes but for the sign of the kelvin in its unit. -/
def IsKelvinSize (s : List Char) : Prop :=
  ∃ digits places letters, Spells s digits places letters ∧ KelvinUnit letters

/-- An answer to a text is as the text says: the whole part of the number of bytes, and an error of
the value for any other text. -/
structure Answers (s : String) (answer : Except Error Int) : Prop where
  exact : ∀ num den, IsSize s.toList num den → answer = .ok ((num / den : Nat) : Int)
  refused : (∀ num den, ¬ IsSize s.toList num den) → ∃ e, answer = .error e ∧ e.label = "ValueError"

/-- A size has one numerator and one denominator. -/
theorem IsSize.unique {num den num' den' : Nat} (h : IsSize s num den) (h' : IsSize s num' den') :
    num = num' ∧ den = den' := by
  obtain ⟨digits, places, letters, power, hspells, hunit, rfl, rfl⟩ := h
  obtain ⟨digits', places', letters', power', hspells', hunit', rfl, rfl⟩ := h'
  have hread := ofText?_of_spells hspells (taken_of_unitOf hunit).1
  rw [ofText?_of_spells hspells' (taken_of_unitOf hunit').1] at hread
  obtain ⟨rfl, rfl, rfl⟩ := Written.mk.inj (Option.some.inj hread)
  have hpower := (taken_of_unitOf hunit).2
  rw [(taken_of_unitOf hunit').2] at hpower
  obtain rfl : power' = power := by
    have := Option.some.inj hpower
    omega
  exact ⟨rfl, rfl⟩

/-- The bytes of a size are the whole part of a rounded product. -/
theorem ofText_of_spells {text : String} (h : Spells text.toList digits places letters)
    (hunit : UnitOf letters n) :
    ofText text = ((Binary64.ofDecimal false digits (-(places : Int))).scale (10 * n)).truncate?.elim
      (.error .tooLarge) .ok := by
  obtain ⟨htaken, hexponent⟩ := taken_of_unitOf hunit
  rw [ofText, ofText?_of_spells h htaken]
  dsimp only
  rw [Written.toBytes]
  simp only [hexponent]
  cases ((Binary64.ofDecimal false digits (-(places : Int))).scale (10 * n)).truncate? <;> rfl

/-- A size is answered as it says when rounding keeps its whole part. -/
theorem answers_iff_of_isSize {text : String} {num den : Nat} (h : IsSize text.toList num den) :
    Answers text (ofText text) ↔ Binary64.KeepsWhole num den := by
  obtain ⟨digits, places, letters, power, hspells, hunit, rfl, rfl⟩ := id h
  have hpower : power ≤ 4 := by
    have hall : ∀ unit ∈ units, unit.2 ≤ 4 := by decide
    exact hall _ hunit
  have hanswer := ofText_of_spells hspells hunit
  have hfactor : 2 ^ (10 * power) = 1024 ^ power := by rw [pow_mul]; norm_num
  rw [← hfactor, ← Binary64.truncate_scale_ofDecimal_iff (by omega), hfactor]
  generalize ((Binary64.ofDecimal false digits (-(places : Int))).scale (10 * power)).truncate? = bytes
    at hanswer ⊢
  constructor
  · intro hanswers
    have hexact := hanswers.exact _ _ h
    rw [hanswer] at hexact
    cases bytes with
    | none => cases hexact
    | some bytes => exact congrArg some (Except.ok.inj hexact)
  · rintro rfl
    refine ⟨fun num den hsize => ?_, fun hnone => absurd h (hnone _ _)⟩
    obtain ⟨rfl, rfl⟩ := hsize.unique h
    exact hanswer

/-- A size with the sign of the kelvin is not refused as no size. -/
theorem not_answers_of_isKelvinSize {text : String} (h : IsKelvinSize text.toList) :
    ¬ Answers text (ofText text) := by
  obtain ⟨digits, places, letters, hspells, hkelvin⟩ := h
  have htaken : isUnit letters = true := by rcases hkelvin with rfl | rfl <;> decide
  have hread := ofText?_of_spells hspells (.inr htaken)
  have hne : ¬ letters.isEmpty = true := by rcases hkelvin with rfl | rfl <;> decide
  have hanswer : ofText text = .error (.unknownUnit (upper (String.ofList letters))) := by
    rw [ofText, hread]
    dsimp only
    rw [Written.toBytes]
    dsimp only
    rw [if_neg hne, unitExponent?_of_kelvin hkelvin]
  intro hanswers
  obtain ⟨e, he, hlabel⟩ := hanswers.refused fun num den hsize => by
    obtain ⟨digits', places', letters', power, hspells', hunit, -, -⟩ := hsize
    rw [ofText?_of_spells hspells' (taken_of_unitOf hunit).1] at hread
    obtain ⟨-, -, rfl⟩ := Written.mk.inj (Option.some.inj hread)
    exact not_unitOf_of_kelvin hkelvin hunit
  rw [hanswer] at he
  obtain rfl := Except.error.inj he
  have hlabel : "KeyError" = "ValueError" := hlabel
  revert hlabel
  decide

/-- A text that says no size, even with the sign of the kelvin, is an error of the value. -/
theorem answers_of_not_isSize {text : String} (h : ∀ num den, ¬ IsSize text.toList num den)
    (hkelvin : ¬ IsKelvinSize text.toList) : Answers text (ofText text) := by
  have hnone : Written.ofText? text.toList = none := by
    cases hread : Written.ofText? text.toList with
    | none => rfl
    | some w =>
      obtain ⟨hspells, htaken⟩ := spells_of_ofText? hread
      rcases unitOf_of_isUnit htaken with hunit | ⟨power, hunit⟩
      · exact absurd ⟨_, _, _, hspells, hunit⟩ hkelvin
      · exact absurd ⟨_, _, _, power, hspells, hunit, rfl, rfl⟩ (h _ _)
  rw [ofText, hnone]
  exact ⟨fun num den hsize => absurd hsize (h num den), fun _ => ⟨_, rfl, rfl⟩⟩

/-- A text is answered as it says exactly when it has no sign of the kelvin in its unit and rounding
keeps the whole part of the number of bytes. -/
theorem answers_ofText_iff (text : String) :
    Answers text (ofText text) ↔ ¬ IsKelvinSize text.toList ∧
      ∀ num den, IsSize text.toList num den → Binary64.KeepsWhole num den := by
  by_cases hkelvin : IsKelvinSize text.toList
  · exact iff_of_false (not_answers_of_isKelvinSize hkelvin) fun h => h.1 hkelvin
  by_cases hsize : ∃ num den, IsSize text.toList num den
  · obtain ⟨num, den, hsize⟩ := hsize
    rw [answers_iff_of_isSize hsize, and_iff_right hkelvin]
    refine ⟨fun h num' den' hsize' => ?_, fun h => h num den hsize⟩
    obtain ⟨rfl, rfl⟩ := hsize.unique hsize'
    exact h
  · have hnone : ∀ num den, ¬ IsSize text.toList num den := fun num den h => hsize ⟨num, den, h⟩
    exact iff_of_true (answers_of_not_isSize hnone hkelvin)
      ⟨hkelvin, fun num den h => absurd h (hnone num den)⟩

/-- A size is answered as it says when its digits times its unit have fifty-three bits at most. -/
theorem ofText_of_lt {text : String} {num den : Nat} (h : IsSize text.toList num den)
    (hlt : num < 2 ^ 53) : ofText text = .ok ((num / den : Nat) : Int) := by
  have hden : 0 < den := by
    obtain ⟨_, places, _, _, _, _, _, rfl⟩ := h
    exact Nat.pow_pos (by decide)
  exact ((answers_iff_of_isSize h).2 (Binary64.keepsWhole_of_lt hden hlt)).exact num den h

example : ofText "1.5 KB" = .ok 1536 := by decide +kernel

/-- Digits with letters after them say a number without places. -/
theorem spells_append {values : List Nat} (hne : numeral ≠ [])
    (h : digitValues? numeral = some values) :
    Spells (numeral ++ letters) (ofDigits values) 0 letters := by
  have hspelled : Spells ([] ++ (numeral ++ ([] ++ (letters ++ [])))) (ofDigits values) 0 letters :=
    .mk nofun (.whole ⟨hne, digitValues?_eq_some_iff.1 h⟩) nofun nofun
  rwa [List.append_nil] at hspelled

/-- One byte is lost in a size just above the whole numbers of the format, and the sign of the
kelvin is looked up like a letter. -/
theorem not_answers_ofText :
    ¬ Answers "9007199254740993" (ofText "9007199254740993") ∧
      ¬ Answers "10\u212aB" (ofText "10\u212aB") := by
  constructor
  · intro h
    have hspells : Spells ("9007199254740993".toList ++ []) _ 0 [] := spells_append (by decide)
      (show _ = some [9, 0, 0, 7, 1, 9, 9, 2, 5, 4, 7, 4, 0, 9, 9, 3] by decide)
    rw [List.append_nil] at hspells
    have hsize : IsSize "9007199254740993".toList 9007199254740993 1 :=
      ⟨_, _, _, 0, hspells, by decide, by decide, rfl⟩
    have hanswer : ofText "9007199254740993" = .ok 9007199254740992 := by decide +kernel
    have hexact := h.exact _ _ hsize
    rw [hanswer] at hexact
    exact absurd (Except.ok.inj hexact) (by decide)
  · have hspells : Spells ("10".toList ++ ['\u212a', 'B']) _ 0 ['\u212a', 'B'] :=
      spells_append (by decide) (show _ = some [1, 0] by decide)
    exact not_answers_of_isKelvinSize ⟨_, _, _, hspells, .inl rfl⟩

end DataSize

end HttpCourier
