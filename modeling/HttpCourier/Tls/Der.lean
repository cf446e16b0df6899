import HttpCourier.Bytes.Basic

/-!
# Tagged elements

Keys and certificates are trees of tagged elements (DER, ITU-T X.690). `Der.elements?` splits a byte
string into elements, and `Der.isSound` checks the tree below each of them.
-/

namespace HttpCourier

/-- A tagged element. -/
structure Der where
  tag : UInt8
  content : Bytes
  deriving DecidableEq

namespace Der

/-- The tags that keys and certificates use. -/
def integer : UInt8 := 0x02
def bitString : UInt8 := 0x03
def octetString : UInt8 := 0x04
def objectName : UInt8 := 0x06
def sequence : UInt8 := 0x30

/-- The number that bytes write, the most significant first. -/
def number (bytes : Bytes) : Nat := bytes.foldl (fun n b => n * 256 + b.toNat) 0

/-- Reads a length. -/
def length? : Bytes → Option (Nat × Bytes)
  | [] => none
  | b :: rest =>
    if b < 0x80 then some (b.toNat, rest)
    else
      let n := b.toNat - 0x80
      if n = 0 ∨ n > 4 ∨ rest.length < n then none else some (number (rest.take n), rest.drop n)

/-- Takes the first element. -/
def take? : Bytes → Option (Der × Bytes)
  | [] => none
  | tag :: rest =>
    match length? rest with
    | none => none
    | some (n, rest) =>
      if rest.length < n then none else some ({ tag, content := rest.take n }, rest.drop n)

/-- The rest after a length is no longer. -/
theorem length_of_length? {b rest : Bytes} {n : Nat} (h : length? b = some (n, rest)) :
    rest.length ≤ b.length := by
  cases b with
  | nil => simp [length?] at h
  | cons x xs =>
    simp only [length?] at h
    split at h
    · obtain ⟨-, rfl⟩ := by simpa using h
      simp
    · split at h
      · simp at h
      · obtain ⟨-, rfl⟩ := by simpa using h
        simp
        omega

/-- An element has at least one byte. -/
theorem length_of_take? {b rest : Bytes} {e : Der} (h : take? b = some (e, rest)) :
    rest.length < b.length ∧ e.content.length < b.length := by
  cases b with
  | nil => simp [take?] at h
  | cons x xs =>
    simp only [take?] at h
    split at h
    · simp at h
    · rename_i n r hr
      have := length_of_length? hr
      split at h
      · simp at h
      · obtain ⟨rfl, rfl⟩ := by simpa using h
        simp
        omega

/-- All elements of a byte string. -/
def elements? (bytes : Bytes) : Option (List Der) :=
  if bytes.isEmpty then some []
  else match _h : take? bytes with
    | none => none
    | some (e, rest) => (elements? rest).map (e :: ·)
termination_by bytes.length
decreasing_by exact (length_of_take? _h).1

/-- Whether the members of an element are elements themselves. -/
def isConstructed (e : Der) : Bool := e.tag &&& 0x20 ≠ 0

/-- Whether a byte string consists of elements, down to the leaves. -/
def isSound (bytes : Bytes) : Bool :=
  if bytes.isEmpty then true
  else match _h : take? bytes with
    | none => false
    | some (e, rest) => (if e.isConstructed then isSound e.content else true) && isSound rest
termination_by bytes.length
decreasing_by
  · exact (length_of_take? _h).2
  · exact (length_of_take? _h).1

/-- The members of an element of a kind. -/
def members? (tag : UInt8) (e : Der) : Option (List Der) :=
  if e.tag = tag then elements? e.content else none

/-- The members of the sequence that a byte string begins with, if it is sound. -/
def sequence? (bytes : Bytes) : Option (List Der) := do
  let (e, _) ← take? bytes
  if isSound e.content then members? sequence e else none

/-- The bits of a bit string of whole bytes. -/
def bits? (e : Der) : Option Bytes :=
  match e.content with
  | 0 :: bits => if e.tag = bitString then some bits else none
  | _ => none

/-- An element as bytes. -/
def encode (e : Der) : Bytes :=
  let n := e.content.length
  let size : Bytes :=
    if n < 0x80 then [UInt8.ofNat n]
    else if n < 0x100 then [0x81, UInt8.ofNat n]
    else [0x82, UInt8.ofNat (n / 256), UInt8.ofNat (n % 256)]
  e.tag :: size ++ e.content

end Der

end HttpCourier
