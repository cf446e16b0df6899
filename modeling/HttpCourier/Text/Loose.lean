import HttpCourier.Text.Blank
import HttpCourier.Text.Case
import HttpCourier.Text.Quoted

/-!
# Texts with lone surrogates

A document may write half of a pair of surrogates without the other half. That is no character, and
no encoding has bytes for it, but a text may hold it (`TornText`), and be kept, compared and trimmed
with it. A `LooseText` is a text of either sort; `LooseText.checked` gives the texts that can be
encoded, and says of the others where they cannot.
-/

namespace HttpCourier

/-- A code point: a character, or a surrogate by its distance from the first one. -/
inductive CodePoint where
  | char (c : Char)
  | surrogate (n : Fin 0x800)
  deriving DecidableEq, Repr

namespace CodePoint

/-- The code of the first surrogate. -/
def firstSurrogate : Nat := 0xd800

/-- The code of a code point. -/
def toNat : CodePoint → Nat
  | char c => c.toNat
  | surrogate n => firstSurrogate + n

/-- The code point of a code, if there is one. -/
def ofNat? (n : Nat) : Option CodePoint :=
  if h : n.isValidChar then some (char (Char.ofNatAux n h))
  else if h : n - firstSurrogate < 0x800 then some (surrogate ⟨n - firstSurrogate, h⟩)
  else none

/-- Whether a code point is a surrogate. -/
def isSurrogate : CodePoint → Bool
  | char _ => false
  | surrogate _ => true

/-- The character that a code point is, if it is one. -/
def char? : CodePoint → Option Char
  | char c => some c
  | surrogate _ => none

/-- Whether a code point is a blank. -/
def isBlank : CodePoint → Bool
  | char c => Text.isBlank c
  | surrogate _ => false

/-- A code point with its character changed, if it is one. -/
def mapChar (f : Char → Char) : CodePoint → CodePoint
  | char c => char (f c)
  | surrogate n => surrogate n

/-- The character that stands for a code point where only characters can be shown. -/
def shown : CodePoint → Char
  | char c => c
  | surrogate _ => '\ufffd'

/-- A code point as it is written in messages. -/
def escaped (p : CodePoint) : List Char :=
  match p with
  | char c => Text.escapeCode c
  | surrogate _ => '\\' :: 'u' :: Text.hexDigits 4 p.toNat

end CodePoint

/-- A text with a surrogate in it. -/
structure TornText where
  points : List CodePoint
  isTorn : points.any CodePoint.isSurrogate = true
  deriving DecidableEq, Repr

/-- A text, with or without surrogates. -/
inductive LooseText where
  | whole (s : String)
  | torn (t : TornText)
  deriving DecidableEq, Repr

/-- A run of code points that an encoding does not have: its place in a text. -/
structure Unencodable where
  first : Nat
  last : Nat
  point : CodePoint
  deriving DecidableEq, Repr

/-- The words for code points that cannot be encoded. -/
def Unencodable.message (e : Unencodable) : String :=
  let place := if e.first = e.last then
      " '" ++ String.ofList e.point.escaped ++ "' in position " ++ toString e.first
    else "s in position " ++ toString e.first ++ "-" ++ toString e.last
  "'utf-8' codec can't encode character" ++ place ++ ": surrogates not allowed"

/-- The name of the kind of such an error. -/
def Unencodable.label : String := "UnicodeEncodeError"

namespace TornText

/-- The first run of surrogates, from the first of a kind on. -/
def unencodable? (isBad : CodePoint → Bool) (t : TornText) : Option Unencodable :=
  match t.points.dropWhile fun p => !isBad p with
  | [] => none
  | p :: rest =>
    let first := (t.points.takeWhile fun p => !isBad p).length
    some { first, last := first + (rest.takeWhile CodePoint.isSurrogate).length, point := p }

/-- Where a text cannot be encoded. -/
def unencodable (t : TornText) : Unencodable :=
  (t.unencodable? CodePoint.isSurrogate).getD { first := 0, last := 0, point := .char ' ' }

/-- Whether a surrogate stands for a byte of a path that is not UTF-8. -/
def standsForByte (p : CodePoint) : Bool := decide (0xdc80 ≤ p.toNat ∧ p.toNat ≤ 0xdcff)

/-- Where a text cannot be encoded as a path, if anywhere: surrogates may stand for bytes there. -/
def unencodablePath? (t : TornText) : Option Unencodable :=
  t.unencodable? fun p => p.isSurrogate && !standsForByte p

/-- The text with a replacement for each surrogate. -/
def shown (t : TornText) : String := String.ofList (t.points.map CodePoint.shown)

/-- The text in quotes. -/
def quoted (t : TornText) : String :=
  let q := Text.quoteFor (t.points.map CodePoint.shown)
  String.ofList (q :: t.points.flatMap (fun
    | .char c => Text.quoteChar q c
    | p => p.escaped) ++ [q])

end TornText

namespace LooseText

instance : Coe String LooseText := ⟨whole⟩

instance : Inhabited LooseText := ⟨whole ""⟩

/-- The text of code points. -/
def ofPoints (points : List CodePoint) : LooseText :=
  if h : points.any CodePoint.isSurrogate then torn ⟨points, h⟩
  else whole (String.ofList (points.filterMap CodePoint.char?))

/-- The code points of a text. -/
def points : LooseText → List CodePoint
  | whole s => s.toList.map .char
  | torn t => t.points

/-- Whether a text is made of characters. -/
def isWhole : LooseText → Bool
  | whole _ => true
  | torn _ => false

/-- Whether a text is empty. -/
def isEmpty : LooseText → Bool
  | whole s => s.isEmpty
  | torn _ => false

/-- Drops the blanks at both ends of code points. -/
def trimPoints (points : List CodePoint) : List CodePoint :=
  ((points.dropWhile CodePoint.isBlank).reverse.dropWhile CodePoint.isBlank).reverse

/-- Drops the blanks at both ends of a text. -/
def trim : LooseText → LooseText
  | whole s => whole (Text.trim s)
  | torn t => ofPoints (trimPoints t.points)

/-- One text after another. -/
protected def append : LooseText → LooseText → LooseText
  | whole a, whole b => whole (a ++ b)
  | a, b => ofPoints (a.points ++ b.points)

instance : Append LooseText := ⟨LooseText.append⟩

/-- The text, if it can be encoded. -/
def checked : LooseText → Except Unencodable String
  | whole s => .ok s
  | torn t => .error t.unencodable

/-- A text in small letters. -/
def lower : LooseText → LooseText
  | whole s => whole (Text.lower s)
  | torn t => ofPoints (t.points.map (.mapChar Text.lowerChar))

/-- The text with a replacement for each surrogate. -/
def shown : LooseText → String
  | whole s => s
  | torn t => t.shown

/-- The text in quotes. -/
def quoted : LooseText → String
  | whole s => Text.quoted s
  | torn t => t.quoted

@[simp] theorem whole_append (a b : String) : whole a ++ whole b = whole (a ++ b) := rfl

@[simp] theorem isWhole_whole (s : String) : (whole s).isWhole = true := rfl

/-- A text is made of characters exactly when it is one of the usual texts. -/
theorem isWhole_iff {s : LooseText} : s.isWhole = true ↔ ∃ t : String, s = whole t := by
  cases s with
  | whole t => simp
  | torn t => simp [isWhole]

/-- A text is made of characters exactly when none of its code points is a surrogate. -/
theorem isWhole_eq (s : LooseText) : s.isWhole = !s.points.any CodePoint.isSurrogate := by
  cases s with
  | whole t => simp [isWhole, points, CodePoint.isSurrogate]
  | torn t => simp [isWhole, points, t.isTorn]

/-- The text of code points is torn exactly when one of them is a surrogate. -/
@[simp] theorem isWhole_ofPoints (points : List CodePoint) :
    (ofPoints points).isWhole = !points.any CodePoint.isSurrogate := by
  unfold ofPoints
  split
  · next h => rw [h]; rfl
  · next h => rw [Bool.not_eq_true] at h; rw [h]; rfl

/-- Dropping blanks drops no surrogate. -/
theorem any_dropWhile_isBlank (points : List CodePoint) :
    (points.dropWhile CodePoint.isBlank).any CodePoint.isSurrogate
      = points.any CodePoint.isSurrogate := by
  induction points with
  | nil => rfl
  | cons p rest ih =>
    rw [List.dropWhile_cons]
    split
    · next hblank =>
      cases p with
      | char c => rw [ih, List.any_cons, CodePoint.isSurrogate, Bool.false_or]
      | surrogate n => cases hblank
    · rfl

/-- A text stays torn when it is trimmed, and whole. -/
@[simp] theorem isWhole_trim (s : LooseText) : s.trim.isWhole = s.isWhole := by
  cases s with
  | whole t => rfl
  | torn t =>
    rw [trim, isWhole_ofPoints, trimPoints, List.any_reverse, any_dropWhile_isBlank, List.any_reverse,
      any_dropWhile_isBlank, t.isTorn]
    rfl

/-- Two texts make a whole one exactly when both are whole. -/
@[simp] theorem isWhole_append (a b : LooseText) : (a ++ b).isWhole = (a.isWhole && b.isWhole) := by
  have hpoints : (a ++ b).isWhole = !(a.points ++ b.points).any CodePoint.isSurrogate := by
    change (a.append b).isWhole = _
    unfold LooseText.append
    split
    · simp [points, CodePoint.isSurrogate]
    · exact isWhole_ofPoints _
  rw [hpoints, List.any_append, Bool.not_or, ← isWhole_eq, ← isWhole_eq]

/-- The texts that can be encoded are those made of characters. -/
theorem checked_isOk_iff {s : LooseText} : (∃ t, s.checked = .ok t) ↔ s.isWhole = true := by
  cases s with
  | whole t => simp [checked]
  | torn t => simp [checked, isWhole]

end LooseText

end HttpCourier
