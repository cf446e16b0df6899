import HttpCourier.Bytes.Base64
import HttpCourier.Bytes.Utf8

/-!
# Encodings that are read back

Bytes that were written in Base64, and characters that were written in UTF-8, are read back as they
were (`Base64.decode_encode`, `Utf8.decode_ofChars`). The reader of Base64 is lenient, but it has
nothing to skip in a text that was written (`Base64.read_of_mem_encode`).
-/

namespace HttpCourier

/-! ## Base64 -/

namespace Base64

/-- A character that the reader takes notice of: a digit or padding. -/
def IsRead (c : Char) : Prop := c = '=' ∨ (digitValue? c).isSome

/-- Every six-bit value is read back from its digit, which is no padding. -/
theorem digitValue?_digit {n : Nat} (h : n < 64) : digitValue? (digit n) = some n := by
  revert n
  decide

/-- Padding is no digit. -/
theorem digit_ne_pad {n : Nat} (h : n < 64) : digit n ≠ '=' := by
  revert n
  decide

/-- A digit is read. -/
theorem isRead_digit {n : Nat} (h : n < 64) : IsRead (digit n) :=
  .inr (by rw [digitValue?_digit h, Option.isSome_some])

theorem ofNat_eq {n : Nat} {b : UInt8} (h : n = b.toNat) : UInt8.ofNat n = b := by
  rw [h, UInt8.ofNat_toNat]

/-- A digit adds its six bits to those carried from the digits before, and every second, third and
fourth digit of a group completes a byte. -/
theorem decodeFrom_digit {n carry place pads count : Nat} {written : Bytes} {rest : List Char}
    (h : n < 64) :
    decodeFrom (digit n :: rest) carry place pads count written
      = match place with
        | 0 => decodeFrom rest n 1 0 (count + 1) written
        | 1 => decodeFrom rest (n % 16) 2 0 (count + 1) (UInt8.ofNat (carry * 4 + n / 16) :: written)
        | 2 => decodeFrom rest (n % 4) 3 0 (count + 1) (UInt8.ofNat (carry * 16 + n / 4) :: written)
        | _ => decodeFrom rest 0 0 0 (count + 1) (UInt8.ofNat (carry * 64 + n) :: written) := by
  match place with
  | 0 | 1 | 2 | _ + 3 => simp only [decodeFrom, if_neg (digit_ne_pad h), digitValue?_digit h]

/-- Reading goes on group by group; `written` are the bytes before, in reverse. -/
theorem decodeFrom_encode (bytes : Bytes) (count : Nat) (written : Bytes) :
    decodeFrom (encode bytes) 0 0 0 count written = .ok (written.reverse ++ bytes) := by
  fun_induction encode bytes generalizing count written with
  | case1 => simp [decodeFrom]
  | case2 a =>
    have ha := a.toNat_lt
    have h1 : UInt8.ofNat (a.toNat / 4 * 4 + a.toNat % 4 * 16 / 16) = a := ofNat_eq (by omega)
    simp (disch := omega) only [decodeFrom_digit, h1]
    simp [decodeFrom]
  | case3 a b =>
    have ha := a.toNat_lt
    have hb := b.toNat_lt
    have h1 : UInt8.ofNat (a.toNat / 4 * 4 + (a.toNat % 4 * 16 + b.toNat / 16) / 16) = a :=
      ofNat_eq (by omega)
    have h2 : UInt8.ofNat ((a.toNat % 4 * 16 + b.toNat / 16) % 16 * 16 + b.toNat % 16 * 4 / 4) = b :=
      ofNat_eq (by omega)
    simp (disch := omega) only [decodeFrom_digit, h1, h2]
    simp [decodeFrom]
  | case4 a b c rest ih =>
    have ha := a.toNat_lt
    have hb := b.toNat_lt
    have hc := c.toNat_lt
    have h1 : UInt8.ofNat (a.toNat / 4 * 4 + (a.toNat % 4 * 16 + b.toNat / 16) / 16) = a :=
      ofNat_eq (by omega)
    have h2 : UInt8.ofNat ((a.toNat % 4 * 16 + b.toNat / 16) % 16 * 16
        + (b.toNat % 16 * 4 + c.toNat / 64) / 4) = b := ofNat_eq (by omega)
    have h3 : UInt8.ofNat ((b.toNat % 16 * 4 + c.toNat / 64) % 4 * 64 + c.toNat % 64) = c :=
      ofNat_eq (by omega)
    simp (disch := omega) only [decodeFrom_digit, h1, h2, h3, ih]
    simp

/-- Bytes are read back from their Base64 text. -/
theorem decode_encode (bytes : Bytes) : decode (encode bytes) = .ok bytes :=
  decodeFrom_encode bytes 0 []

/-- Every character of a Base64 text is one that the reader takes notice of. -/
theorem read_of_mem_encode {c : Char} {bytes : Bytes} (h : c ∈ encode bytes) : IsRead c := by
  fun_induction encode bytes with
  | case1 => cases h
  | case2 a =>
    have ha := a.toNat_lt
    simp only [List.mem_cons, List.not_mem_nil, or_false] at h
    obtain rfl | rfl | rfl | rfl := h
    · exact isRead_digit (by omega)
    · exact isRead_digit (by omega)
    · exact .inl rfl
    · exact .inl rfl
  | case3 a b =>
    have ha := a.toNat_lt
    have hb := b.toNat_lt
    simp only [List.mem_cons, List.not_mem_nil, or_false] at h
    obtain rfl | rfl | rfl | rfl := h
    · exact isRead_digit (by omega)
    · exact isRead_digit (by omega)
    · exact isRead_digit (by omega)
    · exact .inl rfl
  | case4 a b d rest ih =>
    have ha := a.toNat_lt
    have hb := b.toNat_lt
    have hd := d.toNat_lt
    simp only [List.mem_cons] at h
    obtain rfl | rfl | rfl | rfl | h := h
    · exact isRead_digit (by omega)
    · exact isRead_digit (by omega)
    · exact isRead_digit (by omega)
    · exact isRead_digit (by omega)
    · exact ih h

end Base64

/-! ## UTF-8 -/

namespace Utf8

variable {n missing low high bits length : Nat} {rest : Bytes}

/-- A leading byte of more bytes is read on from its own bits, with the bounds that it sets for the
second. -/
theorem next_of_lead (hn : n < 256) (h : lead n = some (missing, low, high)) :
    next (UInt8.ofNat n) rest = continued missing low high (leadBits n missing) 1 rest := by
  have hb : (UInt8.ofNat n).toNat = n := by simp [Nat.mod_eq_of_lt hn]
  rw [next, hb, h]

/-- A continuation byte within its bounds adds six bits, and sets the widest bounds for the next. -/
theorem continued_cons (hn : n < 256) (hl : low ≤ n) (hh : n ≤ high) :
    continued (missing + 1) low high bits length (UInt8.ofNat n :: rest)
      = continued missing 0x80 0xBF (bits * 64 + (n - 0x80)) (length + 1) rest := by
  have hb : (UInt8.ofNat n).toNat = n := by simp [Nat.mod_eq_of_lt hn]
  rw [continued, hb, if_pos ⟨hl, hh⟩]

/-- When no byte is missing the bits are the character. -/
theorem continued_zero {c : Char} (h : bits = c.toNat) :
    continued 0 low high bits length rest = .char c length := by
  subst h
  cases rest <;> simp [continued, Char.ofNat_toNat]

/-- The bits of a leading byte are what it has over the smallest of its length. -/
theorem leadBits_eq (b : Nat) :
    leadBits b 1 = b - 0xC0 ∧ leadBits b 2 = b - 0xE0 ∧ leadBits b 3 = b - 0xF0 := ⟨rfl, rfl, rfl⟩

/-- The bounds of the second byte keep overlong forms and surrogates out, which no character has. -/
theorem lead_three {v : Nat} (hlow : 0x800 ≤ v) (hhigh : v < 0x10000)
    (hvalid : v < 0xD800 ∨ 0xDFFF < v) :
    ∃ low high, lead (v / 4096 % 16 + 224) = some (2, low, high) ∧
      low ≤ v / 64 % 64 + 128 ∧ v / 64 % 64 + 128 ≤ high := by
  unfold lead
  rw [if_neg (by omega), if_neg (by omega), if_neg (by omega)]
  split
  case isTrue => exact ⟨_, _, rfl, by omega, by omega⟩
  case isFalse =>
    split
    case isTrue => exact ⟨_, _, rfl, by omega, by omega⟩
    case isFalse =>
      rw [if_pos (by omega)]
      exact ⟨_, _, rfl, by omega, by omega⟩

/-- A character beyond the first plane has a leading byte of four, and a second byte in the bounds
that it sets. -/
theorem lead_four {v : Nat} (hlow : 0x10000 ≤ v) (hhigh : v < 0x110000) :
    ∃ low high, lead (v / 262144 % 8 + 240) = some (3, low, high) ∧
      low ≤ v / 4096 % 64 + 128 ∧ v / 4096 % 64 + 128 ≤ high := by
  unfold lead
  rw [if_neg (by omega), if_neg (by omega), if_neg (by omega), if_neg (by omega), if_neg (by omega),
    if_neg (by omega)]
  split
  case isTrue => exact ⟨_, _, rfl, by omega, by omega⟩
  case isFalse =>
    split
    case isTrue => exact ⟨_, _, rfl, by omega, by omega⟩
    case isFalse =>
      rw [if_pos (by omega)]
      exact ⟨_, _, rfl, by omega, by omega⟩

/-- A character is read from the front of its encoding, whatever follows. -/
theorem next_encoded (c : Char) (rest : Bytes) :
    ∃ b tail, String.utf8EncodeChar c = b :: tail ∧
      next b (tail ++ rest) = .char c (tail.length + 1) := by
  have hvalid : c.toNat < 0xD800 ∨ 0xDFFF < c.toNat ∧ c.toNat < 0x110000 := c.valid
  rw [String.utf8EncodeChar, Char.toNat_val]
  generalize hv : c.toNat = v at hvalid
  split
  case isTrue h1 =>
    have hlead : lead v = some (0, 0, 0) := by rw [lead, if_pos (by omega)]
    have hbits : leadBits v 0 = c.toNat := by
      rw [hv]
      rfl
    refine ⟨_, _, rfl, ?_⟩
    rw [next_of_lead (by omega) hlead, continued_zero hbits]
    rfl
  case isFalse h1 =>
    split
    case isTrue h2 =>
      have hlead : lead (v / 64 % 32 + 192) = some (1, 0x80, 0xBF) := by
        rw [lead, if_neg (by omega), if_neg (by omega), if_pos (by omega)]
      have hbits : leadBits (v / 64 % 32 + 192) 1 * 64 + (v % 64 + 128 - 128) = c.toNat := by
        have hfirst := leadBits_eq (v / 64 % 32 + 192)
        omega
      refine ⟨_, _, rfl, ?_⟩
      rw [next_of_lead (by omega) hlead, List.cons_append,
        continued_cons (by omega) (by omega) (by omega), continued_zero hbits]
      rfl
    case isFalse h2 =>
      split
      case isTrue h3 =>
        obtain ⟨low, high, hlead, hl, hh⟩ := lead_three (v := v) (by omega) (by omega) (by omega)
        have hbits : (leadBits (v / 4096 % 16 + 224) 2 * 64 + (v / 64 % 64 + 128 - 128)) * 64
            + (v % 64 + 128 - 128) = c.toNat := by
          have hfirst := leadBits_eq (v / 4096 % 16 + 224)
          omega
        refine ⟨_, _, rfl, ?_⟩
        rw [next_of_lead (by omega) hlead, List.cons_append, List.cons_append,
          continued_cons (by omega) hl hh, continued_cons (by omega) (by omega) (by omega),
          continued_zero hbits]
        rfl
      case isFalse h3 =>
        obtain ⟨low, high, hlead, hl, hh⟩ := lead_four (v := v) (by omega) (by omega)
        have hbits : ((leadBits (v / 262144 % 8 + 240) 3 * 64 + (v / 4096 % 64 + 128 - 128)) * 64
            + (v / 64 % 64 + 128 - 128)) * 64 + (v % 64 + 128 - 128) = c.toNat := by
          have hfirst := leadBits_eq (v / 262144 % 8 + 240)
          omega
        refine ⟨_, _, rfl, ?_⟩
        rw [next_of_lead (by omega) hlead, List.cons_append, List.cons_append, List.cons_append,
          continued_cons (by omega) hl hh, continued_cons (by omega) (by omega) (by omega),
          continued_cons (by omega) (by omega) (by omega), continued_zero hbits]
        rfl

/-- Bytes that belong to a character already read are passed over. -/
theorem decodeFrom_append (skipped : Bytes) (pos : Nat) (rest : Bytes) :
    decodeFrom skipped.length pos (skipped ++ rest) = decodeFrom 0 (pos + skipped.length) rest := by
  induction skipped generalizing pos with
  | nil => rfl
  | cons b skipped ih =>
    rw [List.length_cons, List.cons_append, decodeFrom, ih]
    congr 1
    omega

/-- Text is read back from its bytes, by induction on its characters. -/
theorem decodeFrom_ofChars (s : List Char) (pos : Nat) :
    decodeFrom 0 pos (Bytes.ofChars s) = .ok s := by
  induction s generalizing pos with
  | nil => rfl
  | cons c s ih =>
    obtain ⟨b, tail, hc, hnext⟩ := next_encoded c (Bytes.ofChars s)
    rw [Bytes.ofChars_cons, hc, List.cons_append, decodeFrom, hnext]
    dsimp only
    rw [Nat.add_sub_cancel, decodeFrom_append, ih]
    rfl

/-- Text is read back from its bytes. -/
theorem decode_ofChars (s : List Char) : decode (Bytes.ofChars s) = .ok s := decodeFrom_ofChars s 0

end Utf8

end HttpCourier
